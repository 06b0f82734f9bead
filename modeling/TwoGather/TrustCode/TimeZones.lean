import Mathlib
import TwoGather.Lib.Runs
import TwoGather.TrustCode.RateLimiter

/-!
# The rate limiter when the time zone changes

`DateTime.now()` is an instant with local fields, `toIso8601String` writes these fields
without an offset, and `DateTime.parse` reads them in the zone of that moment. So the
preferences hold what a clock on the wall showed, and a date comes back as another instant
when the phone has moved in between.

`block_lasts_iff` says for which zones a block lasts three real hours. While no zone changes
and no hour is repeated, the limiter is the one of dates (`exec_canAttempt_inZone`).
-/

namespace TwoGather

open Requests Windows
open TrustCodeRateLimiter (maxAttemptsPerHour blockDurationHours attemptWindowHours)

/-- A time zone: how far its clocks are ahead at an instant, in microseconds, and the instant
that `DateTime.parse` takes for what a clock shows. -/
structure Zone where
  offset : Int → Int
  parse : Int → Int
  /-- What some clock of the zone shows is read as an instant at which it shows that. -/
  shown : ∀ t, parse (t + offset t) + offset (parse (t + offset t)) = t + offset t

namespace Zone

/-- `toIso8601String` of an instant, as what the clocks of the zone show then. -/
def toIso8601String (z : Zone) (t : Int) : Int :=
  t + z.offset t

/-- Clocks that are always the same time ahead. -/
def fixed (ahead : Int) : Zone where
  offset _ := ahead
  parse shows := shows - ahead
  shown t := by omega

/-- No clock of the zone is put back, so each time that it shows is one instant. -/
def NoRepeats (z : Zone) : Prop :=
  ∀ t t', z.toIso8601String t = z.toIso8601String t' → t = t'

theorem noRepeats_fixed (ahead : Int) : (fixed ahead).NoRepeats := by
  intro t t' same
  simpa [toIso8601String, fixed] using same

theorem parse_toIso8601String {z : Zone} (noRepeats : z.NoRepeats) (t : Int) :
    z.parse (z.toIso8601String t) = t :=
  noRepeats _ _ (z.shown t)

/-- What is written in one zone and read in another moves by the difference of the offsets. -/
theorem parse_fixed (z : Zone) (ahead t : Int) :
    (fixed ahead).parse (z.toIso8601String t) = t + (z.offset t - ahead) :=
  Int.add_sub_assoc ..

end Zone

/-- A phone whose preferences hold dates as clocks showed them; its zone at each reading of
the clock. -/
structure ZonedPhone where
  prefs : Preferences
  clock : Nat → Int
  zone : Nat → Zone
  readings : Nat

abbrev ZonedApp := Program ZonedPhone Err

namespace ZonedPhone

/-- The instant of the next reading. -/
def now (d : ZonedPhone) : Int :=
  d.clock d.readings

def parse (d : ZonedPhone) : Int → Int :=
  (d.zone d.readings).parse

def toIso8601String (d : ZonedPhone) : Int → Int :=
  (d.zone d.readings).toIso8601String

def read (d : ZonedPhone) : ZonedPhone :=
  { d with readings := d.readings + 1 }

/-- The stored times of failed attempts, as they are read. -/
def stored (d : ZonedPhone) : List Int :=
  (d.prefs.failedAttempts.getD []).map d.parse

end ZonedPhone

namespace ZonedLimiter

/-- The stored attempts in the window that ends now. -/
def recentAttempts (d : ZonedPhone) : List Int :=
  after (d.now - hours attemptWindowHours) d.stored

/-- The cleaned list is saved when it is shorter. -/
def saveRecent (d : ZonedPhone) : ZonedPhone :=
  if (recentAttempts d).length ≠ d.stored.length then
    { d.read with
      prefs := { d.prefs with failedAttempts := some ((recentAttempts d).map d.toIso8601String) } }
  else d.read

/-- `_getRecentFailedAttempts`. -/
def getRecentFailedAttempts : ZonedApp (List Int) :=
  .step saveRecent fun d => pure (recentAttempts d)

/-- The date that `_blockUser` stores. -/
def blockedUntil (d : ZonedPhone) : Int :=
  d.toIso8601String (d.now + hours blockDurationHours)

/-- `_blockUser`. -/
def blockUser : ZonedApp Unit :=
  .step (fun d => { d.read with prefs := { d.prefs with blockedUntil := some (blockedUntil d) } })
    fun _ => pure ()

/-- `_clearBlockage`. -/
def clearBlockage : ZonedApp Unit :=
  .step (fun d => { d with prefs := {} }) fun _ => pure ()

/-- `prefs.getString(_keyBlockedUntil)` and `DateTime.parse`. -/
def getBlockedUntil : ZonedApp (Option Int) :=
  .read fun d => d.prefs.blockedUntil.map d.parse

/-- `DateTime.now()`. -/
def dateTimeNow : ZonedApp Int :=
  .step ZonedPhone.read fun d => pure d.now

/-- The count at the end of `canAttemptValidation`. -/
def fewRecentAttempts : ZonedApp Bool := do
  let failedAttempts ← getRecentFailedAttempts
  return failedAttempts.length < maxAttemptsPerHour

def canAttemptValidation : ZonedApp Bool := do
  match ← getBlockedUntil with
  | none => fewRecentAttempts
  | some blockedUntil =>
      if (← dateTimeNow) < blockedUntil then return false
      else
        clearBlockage
        fewRecentAttempts

/-- `recordFailedAttempt` between its read of the list and the check of its length. -/
def saveAttempt (failedAttempts : List Int) : ZonedApp (List Int) :=
  .step
    (fun d =>
      { d.read with
        prefs :=
          { d.prefs with
            failedAttempts := some ((failedAttempts ++ [d.now]).map d.toIso8601String) } })
    fun d => pure (failedAttempts ++ [d.now])

def recordFailedAttempt : ZonedApp Unit := do
  let failedAttempts ← getRecentFailedAttempts
  let failedAttempts ← saveAttempt failedAttempts
  if maxAttemptsPerHour ≤ failedAttempts.length then blockUser

/-- `getRemainingBlockTimeMinutes`; `inMinutes` drops the seconds. -/
def getRemainingBlockTimeMinutes : ZonedApp Int := do
  match ← getBlockedUntil with
  | none => return 0
  | some blockedUntil =>
      let now ← dateTimeNow
      if now < blockedUntil then return (blockedUntil - now).tdiv 60000000
      else
        clearBlockage
        return 0

def getRecentFailedAttemptsCount : ZonedApp Nat := do
  let attempts ← getRecentFailedAttempts
  return attempts.length

/-- A failure now blocks the user. -/
def Blocks (d : ZonedPhone) : Prop :=
  maxAttemptsPerHour ≤ (recentAttempts d).length + 1

/-! ## What each call does -/

section Exec

variable {d : ZonedPhone} {shows : Int}

@[simp] theorem blockedUntil_saveRecent (d : ZonedPhone) :
    (saveRecent d).prefs.blockedUntil = d.prefs.blockedUntil := by
  unfold saveRecent
  split
  · rfl
  · rfl

@[simp] theorem readings_saveRecent (d : ZonedPhone) :
    (saveRecent d).readings = d.readings + 1 := by
  unfold saveRecent
  split
  · rfl
  · rfl

@[simp] theorem clock_saveRecent (d : ZonedPhone) : (saveRecent d).clock = d.clock := by
  unfold saveRecent
  split
  · rfl
  · rfl

@[simp] theorem zone_saveRecent (d : ZonedPhone) : (saveRecent d).zone = d.zone := by
  unfold saveRecent
  split
  · rfl
  · rfl

@[simp] theorem exec_getRecentFailedAttempts (d : ZonedPhone) :
    getRecentFailedAttempts.exec d = (.ok (recentAttempts d), saveRecent d) := rfl

theorem exec_canAttempt_free (free : d.prefs.blockedUntil = none) :
    canAttemptValidation.exec d =
      (.ok (decide ((recentAttempts d).length < maxAttemptsPerHour)), saveRecent d) := by
  unfold canAttemptValidation getBlockedUntil
  rw [Program.exec_bind, Program.exec_read, free]
  rfl

theorem exec_canAttempt_blocked (blocked : d.prefs.blockedUntil = some shows)
    (during : d.now < d.parse shows) : canAttemptValidation.exec d = (.ok false, d.read) := by
  unfold canAttemptValidation getBlockedUntil
  rw [Program.exec_bind, Program.exec_read, blocked]
  simp only [Option.map_some, dateTimeNow, Program.exec_bind, Program.exec_step,
    Program.exec_pure, during, ↓reduceIte]

theorem exec_canAttempt_expired (blocked : d.prefs.blockedUntil = some shows)
    (ended : d.parse shows ≤ d.now) :
    canAttemptValidation.exec d = (.ok true, { d.read.read with prefs := {} }) := by
  unfold canAttemptValidation getBlockedUntil
  rw [Program.exec_bind, Program.exec_read, blocked]
  simp only [Option.map_some, dateTimeNow, Program.exec_bind, Program.exec_step,
    Program.exec_pure, not_lt.mpr ended, ↓reduceIte]
  rfl

theorem exec_remaining_free (free : d.prefs.blockedUntil = none) :
    getRemainingBlockTimeMinutes.exec d = (.ok 0, d) := by
  unfold getRemainingBlockTimeMinutes getBlockedUntil
  rw [Program.exec_bind, Program.exec_read, free]
  rfl

theorem exec_remaining_blocked (blocked : d.prefs.blockedUntil = some shows)
    (during : d.now < d.parse shows) :
    getRemainingBlockTimeMinutes.exec d =
      (.ok ((d.parse shows - d.now).tdiv 60000000), d.read) := by
  unfold getRemainingBlockTimeMinutes getBlockedUntil
  rw [Program.exec_bind, Program.exec_read, blocked]
  simp only [Option.map_some, dateTimeNow, Program.exec_bind, Program.exec_step,
    Program.exec_pure, during, ↓reduceIte]

theorem exec_remaining_expired (blocked : d.prefs.blockedUntil = some shows)
    (ended : d.parse shows ≤ d.now) :
    getRemainingBlockTimeMinutes.exec d = (.ok 0, { d.read with prefs := {} }) := by
  unfold getRemainingBlockTimeMinutes getBlockedUntil
  rw [Program.exec_bind, Program.exec_read, blocked]
  simp only [Option.map_some, dateTimeNow, Program.exec_bind, Program.exec_step,
    Program.exec_pure, not_lt.mpr ended, ↓reduceIte]
  rfl

/-- The fifth failure of the hour. -/
theorem exec_record_fifth (fifth : Blocks d) :
    recordFailedAttempt.exec d =
      (.ok (),
        { d.read.read.read with
          prefs :=
            { failedAttempts := some ((recentAttempts d ++ [d.read.now]).map d.read.toIso8601String)
              blockedUntil := some (blockedUntil d.read.read) } }) := by
  have long : maxAttemptsPerHour ≤ (recentAttempts d ++ [(saveRecent d).now]).length := by
    rw [List.length_append, List.length_singleton]
    exact fifth
  unfold recordFailedAttempt saveAttempt
  simp only [Program.exec_bind, exec_getRecentFailedAttempts, Program.exec_step,
    Program.exec_pure, long, ↓reduceIte, blockUser]
  refine Prod.ext rfl ?_
  unfold saveRecent
  split
  · rfl
  · rfl

end Exec

/-! ## The limiter of dates

A call sees the stored dates as the zone of its first reading makes them. -/

/-- The phone with its stored dates as they are read next. -/
def decoded (store : Store) (d : ZonedPhone) : Phone where
  store
  prefs :=
    { failedAttempts := d.prefs.failedAttempts.map (·.map d.parse)
      blockedUntil := d.prefs.blockedUntil.map d.parse }
  clock := d.clock
  readings := d.readings
  lookups := []

theorem recentAttempts_decoded (store : Store) (d : ZonedPhone) :
    TrustCodeRateLimiter.recentAttempts (decoded store d) = recentAttempts d := by
  unfold TrustCodeRateLimiter.recentAttempts recentAttempts Phone.stored ZonedPhone.stored decoded
  cases d.prefs.failedAttempts with
  | none => rfl
  | some attempts => rfl

/-- The answer of the limiter is that of the limiter of dates, for the dates as read now. -/
theorem canAttempt_decoded (store : Store) (d : ZonedPhone) :
    (canAttemptValidation.exec d).1 =
      (TrustCodeRateLimiter.canAttemptValidation.exec (decoded store d)).1 := by
  cases blocked : d.prefs.blockedUntil with
  | none =>
      have free : (decoded store d).prefs.blockedUntil = none := by simp [decoded, blocked]
      rw [exec_canAttempt_free blocked, TrustCodeRateLimiter.exec_canAttempt_free free,
        recentAttempts_decoded]
  | some shows =>
      have blocked' : (decoded store d).prefs.blockedUntil = some (d.parse shows) := by
        simp [decoded, blocked]
      by_cases during : d.now < d.parse shows
      · rw [exec_canAttempt_blocked blocked during,
          TrustCodeRateLimiter.exec_canAttempt_blocked blocked' during]
      · rw [exec_canAttempt_expired blocked (not_lt.mp during),
          TrustCodeRateLimiter.exec_canAttempt_expired blocked' (not_lt.mp during)]

/-- A failure blocks the user exactly when it does for the dates as read now. -/
theorem blocks_decoded (store : Store) (d : ZonedPhone) :
    maxAttemptsPerHour ≤ (TrustCodeRateLimiter.recentAttempts (decoded store d)).length + 1 ↔
      Blocks d := by
  rw [recentAttempts_decoded]
  rfl

end ZonedLimiter

/-! ## A block and the calls after it -/

open ZonedLimiter

/-- The calls that look at a block, until the next failure or success of an attempt. -/
inductive BlockCall
  | canAttemptValidation
  | getRemainingBlockTimeMinutes
  | getRecentFailedAttemptsCount
  deriving DecidableEq

namespace BlockCall

def step (d : ZonedPhone) : BlockCall → ZonedPhone
  | .canAttemptValidation => (ZonedLimiter.canAttemptValidation.exec d).2
  | .getRemainingBlockTimeMinutes => (ZonedLimiter.getRemainingBlockTimeMinutes.exec d).2
  | .getRecentFailedAttemptsCount => (ZonedLimiter.getRecentFailedAttemptsCount.exec d).2

/-- The call clears a block that has ended. -/
def Clears : BlockCall → Prop
  | .getRecentFailedAttemptsCount => False
  | _ => True

instance : (call : BlockCall) → Decidable call.Clears
  | .canAttemptValidation | .getRemainingBlockTimeMinutes => .isTrue trivial
  | .getRecentFailedAttemptsCount => .isFalse id

end BlockCall

namespace ZonedPhone

/-- A stored date is later than now, as it is read now. -/
def IsBlocked (d : ZonedPhone) : Prop :=
  ∃ shows, d.prefs.blockedUntil = some shows ∧ d.now < d.parse shows

/-- `canAttemptValidation` refuses the user now if `blockEnd` is later, and does not refuse it
because of a block otherwise. -/
def BlockedUntil (d : ZonedPhone) (blockEnd : Int) : Prop :=
  (d.now < blockEnd → (canAttemptValidation.exec d).1 = .ok false) ∧
    (blockEnd ≤ d.now → ¬ d.IsBlocked)

/-- At this reading, what the clocks showed is read as a date on the same side of now as
`blockEnd`. -/
def ReadsRight (d : ZonedPhone) (blockEnd shows : Int) (reading : Nat) : Prop :=
  d.clock reading < (d.zone reading).parse shows ↔ d.clock reading < blockEnd

/-- The date is read right at this reading and, unless a call after it clears the block in
time, when the next calls are made. -/
def StaysRight (d : ZonedPhone) (blockEnd shows : Int) : Nat → List BlockCall → Prop
  | reading, [] => d.ReadsRight blockEnd shows reading
  | reading, call :: calls =>
      d.ReadsRight blockEnd shows reading ∧
        (call.Clears ∧ blockEnd ≤ d.clock reading ∨
          d.StaysRight blockEnd shows (reading + 1) calls)

variable {d d' : ZonedPhone} {blockEnd shows : Int}

/-- The instants and the zones of `d` are those of `d'`. -/
structure SameTimes (d d' : ZonedPhone) : Prop where
  clock : d.clock = d'.clock
  zone : d.zone = d'.zone

theorem SameTimes.staysRight (same : d.SameTimes d') (reading : Nat) (calls : List BlockCall) :
    d.StaysRight blockEnd shows reading calls ↔ d'.StaysRight blockEnd shows reading calls := by
  induction calls generalizing reading with
  | nil => simp only [StaysRight, ReadsRight, same.clock, same.zone]
  | cons call calls ih => simp only [StaysRight, ReadsRight, same.clock, same.zone, ih]

theorem sameTimes_saveRecent (d : ZonedPhone) : (saveRecent d).SameTimes d :=
  ⟨clock_saveRecent d, zone_saveRecent d⟩

/-- While a date is stored, its reading decides. -/
theorem blockedUntil_iff (blocked : d.prefs.blockedUntil = some shows) :
    d.BlockedUntil blockEnd ↔ d.ReadsRight blockEnd shows d.readings := by
  have isBlocked : d.IsBlocked ↔ d.now < d.parse shows := by
    constructor
    · rintro ⟨shows', same, during⟩
      obtain rfl := Option.some.inj (blocked.symm.trans same)
      exact during
    · exact fun during => ⟨shows, blocked, during⟩
  have refused : (canAttemptValidation.exec d).1 = .ok false ↔ d.now < d.parse shows := by
    by_cases during : d.now < d.parse shows
    · simp [exec_canAttempt_blocked blocked during, during]
    · simp [exec_canAttempt_expired blocked (not_lt.mp during), during]
  rw [BlockedUntil, isBlocked, refused, ← not_lt, not_imp_not]
  exact ⟨fun both => ⟨both.2, both.1⟩, fun iff => ⟨iff.2, iff.1⟩⟩

/-- Nothing is stored, and the block is over. -/
structure Cleared (d : ZonedPhone) (blockEnd : Int) : Prop where
  prefs : d.prefs = {}
  monotone : Monotone d.clock
  ended : blockEnd ≤ d.now

theorem Cleared.blockedUntil (cleared : d.Cleared blockEnd) : d.BlockedUntil blockEnd := by
  refine ⟨fun early => absurd cleared.ended (not_le.mpr early), fun _ isBlocked => ?_⟩
  obtain ⟨shows, stored, -⟩ := isBlocked
  rw [cleared.prefs] at stored
  cases stored

/-- The next reading comes no earlier. -/
theorem now_le_read (monotone : Monotone d.clock) : d.now ≤ d.read.now :=
  monotone (Nat.le_succ _)

theorem Cleared.saveRecent (cleared : d.Cleared blockEnd) :
    (saveRecent d).Cleared blockEnd := by
  have nothing : d.stored = [] := by simp [stored, cleared.prefs]
  have same : ZonedLimiter.saveRecent d = d.read := by
    rw [ZonedLimiter.saveRecent, if_neg (by simp [recentAttempts, nothing])]
  rw [same]
  exact ⟨cleared.prefs, cleared.monotone, cleared.ended.trans (now_le_read cleared.monotone)⟩

theorem Cleared.step (cleared : d.Cleared blockEnd) (call : BlockCall) :
    (call.step d).Cleared blockEnd := by
  have free : d.prefs.blockedUntil = none := by rw [cleared.prefs]
  cases call with
  | canAttemptValidation =>
      rw [BlockCall.step, exec_canAttempt_free free]
      exact cleared.saveRecent
  | getRemainingBlockTimeMinutes =>
      rw [BlockCall.step, exec_remaining_free free]
      exact cleared
  | getRecentFailedAttemptsCount => exact cleared.saveRecent

/-- A call while the date is later than now, and any call that does not clear it. -/
theorem step_blocked (blocked : d.prefs.blockedUntil = some shows) (call : BlockCall)
    (keeps : d.now < d.parse shows ∨ ¬ call.Clears) :
    (call.step d).prefs.blockedUntil = some shows ∧ (call.step d).readings = d.readings + 1 ∧
      (call.step d).SameTimes d := by
  have saved : (saveRecent d).prefs.blockedUntil = some shows := by
    rw [blockedUntil_saveRecent, blocked]
  cases call with
  | canAttemptValidation =>
      have during := keeps.resolve_right fun not => not trivial
      rw [BlockCall.step, exec_canAttempt_blocked blocked during]
      exact ⟨blocked, rfl, rfl, rfl⟩
  | getRemainingBlockTimeMinutes =>
      have during := keeps.resolve_right fun not => not trivial
      rw [BlockCall.step, exec_remaining_blocked blocked during]
      exact ⟨blocked, rfl, rfl, rfl⟩
  | getRecentFailedAttemptsCount =>
      exact ⟨saved, readings_saveRecent d, sameTimes_saveRecent d⟩

/-- A call that clears the date. -/
theorem step_cleared (blocked : d.prefs.blockedUntil = some shows)
    (monotone : Monotone d.clock) {call : BlockCall} (clears : call.Clears)
    (shown : d.parse shows ≤ d.now) (ended : blockEnd ≤ d.now) :
    (call.step d).Cleared blockEnd := by
  have later := ended.trans (now_le_read monotone)
  cases call with
  | canAttemptValidation =>
      rw [BlockCall.step, exec_canAttempt_expired blocked shown]
      exact ⟨rfl, monotone, later.trans (monotone (Nat.le_succ _))⟩
  | getRemainingBlockTimeMinutes =>
      rw [BlockCall.step, exec_remaining_expired blocked shown]
      exact ⟨rfl, monotone, later⟩
  | getRecentFailedAttemptsCount => exact clears.elim

theorem blockedUntil_run_iff (monotone : Monotone d.clock)
    (blocked : d.prefs.blockedUntil = some shows) (calls : List BlockCall) :
    (∀ t, Reached BlockCall.step d calls t → t.BlockedUntil blockEnd) ↔
      d.StaysRight blockEnd shows d.readings calls := by
  induction calls generalizing d with
  | nil => simp only [reached_nil, forall_eq, StaysRight, blockedUntil_iff blocked]
  | cons call calls ih =>
      simp only [reached_cons, forall_eq_or_imp, StaysRight, blockedUntil_iff blocked]
      refine and_congr_right fun right => ?_
      by_cases during : d.now < d.parse shows
      · obtain ⟨blocked', readings, same⟩ := step_blocked blocked call (.inl during)
        have early : ¬ blockEnd ≤ d.clock d.readings := not_le.mpr (right.mp during)
        rw [ih (same.clock ▸ monotone) blocked', readings, same.staysRight]
        simp [early]
      · have ended : blockEnd ≤ d.now := not_lt.mp fun early => during (right.mpr early)
        by_cases clears : call.Clears
        · have cleared := step_cleared blocked monotone clears (not_lt.mp during) ended
          have all := all_reached (P := (Cleared · blockEnd)) (V := fun _ _ => True)
            (fun s c holds _ => holds.step c) cleared (Along.trivial _ calls)
          exact iff_of_true (fun t reached => (all t reached).blockedUntil) (.inl ⟨clears, ended⟩)
        · obtain ⟨blocked', readings, same⟩ := step_blocked blocked call (.inr clears)
          rw [ih (same.clock ▸ monotone) blocked', readings, same.staysRight]
          simp [clears]

end ZonedPhone

/-- **After a failure that blocks at `T`, the user is refused before `T + 3h` and is not
refused for this block from then on, whatever calls look at the block, if and only if at
each of these times the date written for `T + 3h` in the zone of `T` is read in the zone
then as one on the same side, until a call clears it in time.** -/
theorem block_lasts_iff (d : ZonedPhone) (monotone : Monotone d.clock) (blocks : Blocks d)
    (calls : List BlockCall) :
    let blockEnd := d.read.read.now + hours 3
    (∀ t, Reached BlockCall.step (recordFailedAttempt.exec d).2 calls t →
        t.BlockedUntil blockEnd) ↔
      d.StaysRight blockEnd (d.read.read.toIso8601String blockEnd) (d.readings + 3) calls := by
  intro blockEnd
  have recorded := congrArg Prod.snd (exec_record_fifth blocks)
  have stored : (recordFailedAttempt.exec d).2.prefs.blockedUntil =
      some (d.read.read.toIso8601String blockEnd) := by
    rw [recorded]
    rfl
  have readings : (recordFailedAttempt.exec d).2.readings = d.readings + 3 := by
    rw [recorded]
    rfl
  have same : (recordFailedAttempt.exec d).2.SameTimes d := by
    rw [recorded]
    exact ⟨rfl, rfl⟩
  rw [ZonedPhone.blockedUntil_run_iff (same.clock ▸ monotone) stored, readings, same.staysRight]

/-! ## Three hours in one zone, and a journey in the meantime -/

/-- While the phone stays in a zone without repeated times, the date is read right. -/
theorem staysRight_of_stays {d : ZonedPhone} {z : Zone} (noRepeats : z.NoRepeats)
    (stays : ∀ reading, d.zone reading = z) (blockEnd : Int) (reading : Nat)
    (calls : List BlockCall) :
    d.StaysRight blockEnd (z.toIso8601String blockEnd) reading calls := by
  have right : ∀ reading, d.ReadsRight blockEnd (z.toIso8601String blockEnd) reading := by
    intro reading
    rw [ZonedPhone.ReadsRight, stays, z.parse_toIso8601String noRepeats]
  induction calls generalizing reading with
  | nil => exact right reading
  | cons call calls ih => exact ⟨right reading, .inr (ih (reading + 1))⟩

/-- A phone with four failures at the epoch. It makes a fifth one at once and looks at the
block two and a half hours later, in the given zone. -/
def traveller (zone : Zone) : ZonedPhone where
  prefs := { failedAttempts := some [0, 0, 0, 0] }
  clock reading := if reading < 3 then 0 else 9000000000
  zone reading := if reading < 3 then .fixed 0 else zone
  readings := 0

theorem traveller_monotone (zone : Zone) : Monotone (traveller zone).clock := by
  intro i j le
  simp only [traveller]
  split
  · split
    · exact le_rfl
    · decide
  · rw [if_neg (by omega)]

/-- One hour east the user may try again after two and a half hours. -/
theorem traveller_not_blocked :
    let d := traveller (.fixed 3600000000)
    let t := (recordFailedAttempt.exec d).2
    Blocks d ∧ t.now < d.read.read.now + hours 3 ∧
      (canAttemptValidation.exec t).1 = .ok true ∧
      ¬ ∀ s, Reached BlockCall.step t [] s → s.BlockedUntil (d.read.read.now + hours 3) := by
  intro d t
  have early : t.now < d.read.read.now + hours 3 := by decide
  have allowed : (canAttemptValidation.exec t).1 = .ok true := by decide
  refine ⟨by unfold Blocks; decide, early, allowed, fun all => ?_⟩
  have refused := (all t (.start t [])).1 early
  rw [allowed] at refused
  cases refused

/-- At home the block lasts. -/
theorem traveller_at_home :
    let d := traveller (.fixed 0)
    (run BlockCall.step (recordFailedAttempt.exec d).2 [.canAttemptValidation]).BlockedUntil
      (d.read.read.now + hours 3) := by
  intro d
  have stays : ∀ reading, d.zone reading = .fixed 0 := fun _ => ite_self _
  refine (block_lasts_iff d (traveller_monotone _) (by unfold Blocks; decide) _).mpr ?_ _ (.run _ _)
  exact staysRight_of_stays (Zone.noRepeats_fixed 0) stays _ _ _

end TwoGather
