import TwoGather.Lib.Windows
import TwoGather.Store

/-!
# The rate limiter of trust code attempts

`trust_code_rate_limiter.dart`: the times of the failed attempts and the end of a block are
kept in the preferences of the phone. A user may fail five times an hour, and the fifth
failure blocks it for three hours.

Dates are local times in microseconds. In one time zone `DateTime.parse` undoes
`toIso8601String`, so the preferences hold the dates themselves. Each `DateTime.now()` reads
the clock of the phone, which moves on between readings.
-/

namespace TwoGather

open Requests Windows

/-- `Duration(hours: n)`. -/
def hours (n : Int) : Int :=
  n * 3600000000

/-- The two entries of the limiter in `SharedPreferences`. -/
structure Preferences where
  failedAttempts : Option (List Int) := none
  blockedUntil : Option Int := none
  deriving DecidableEq

/-- A phone: the database it talks to, its preferences, its clock with the number of readings
so far, and when it looked up a code. -/
structure Phone where
  store : Store
  prefs : Preferences
  clock : Nat → Int
  readings : Nat
  lookups : List Int

abbrev App := Program Phone Err

namespace Phone

/-- What the next reading of the clock will be. -/
def now (d : Phone) : Int :=
  d.clock d.readings

def read (d : Phone) : Phone :=
  { d with readings := d.readings + 1 }

/-- The stored times of failed attempts. -/
def stored (d : Phone) : List Int :=
  d.prefs.failedAttempts.getD []

end Phone

namespace TrustCodeRateLimiter

def maxAttemptsPerHour : Nat := 5

def blockDurationHours : Int := 3

def attemptWindowHours : Int := 1

/-- The stored attempts in the window that ends now. -/
def recentAttempts (d : Phone) : List Int :=
  after (d.now - hours attemptWindowHours) d.stored

/-- The cleaned list is saved when it is shorter. -/
def saveRecent (d : Phone) : Phone :=
  if (recentAttempts d).length ≠ d.stored.length then
    { d.read with prefs := { d.prefs with failedAttempts := some (recentAttempts d) } }
  else d.read

/-- `_getRecentFailedAttempts`. -/
def getRecentFailedAttempts : App (List Int) :=
  .step saveRecent fun d => pure (recentAttempts d)

/-- `_blockUser`. -/
def blockUser : App Unit :=
  .step
    (fun d =>
      { d.read with
        prefs := { d.prefs with blockedUntil := some (d.now + hours blockDurationHours) } })
    fun _ => pure ()

/-- `_clearBlockage`. -/
def clearBlockage : App Unit :=
  .step (fun d => { d with prefs := {} }) fun _ => pure ()

/-- `prefs.getString(_keyBlockedUntil)`. -/
def getBlockedUntil : App (Option Int) :=
  .read (·.prefs.blockedUntil)

/-- `DateTime.now()`. -/
def dateTimeNow : App Int :=
  .step Phone.read fun d => pure d.now

/-- The count at the end of `canAttemptValidation`. -/
def fewRecentAttempts : App Bool := do
  let failedAttempts ← getRecentFailedAttempts
  return failedAttempts.length < maxAttemptsPerHour

def canAttemptValidation : App Bool := do
  match ← getBlockedUntil with
  | none => fewRecentAttempts
  | some blockedUntil =>
      if (← dateTimeNow) < blockedUntil then return false
      else
        clearBlockage
        fewRecentAttempts

/-- `recordFailedAttempt` between its read of the list and the check of its length: the attempt
is added and the list is saved. -/
def saveAttempt (failedAttempts : List Int) : App (List Int) :=
  .step
    (fun d =>
      { d.read with prefs := { d.prefs with failedAttempts := some (failedAttempts ++ [d.now]) } })
    fun d => pure (failedAttempts ++ [d.now])

def recordFailedAttempt : App Unit := do
  let failedAttempts ← getRecentFailedAttempts
  let failedAttempts ← saveAttempt failedAttempts
  if maxAttemptsPerHour ≤ failedAttempts.length then blockUser

def resetAttempts : App Unit :=
  .step (fun d => { d with prefs := {} }) fun _ => pure ()

/-- `getRemainingBlockTimeMinutes`; `inMinutes` drops the seconds. -/
def getRemainingBlockTimeMinutes : App Int := do
  match ← getBlockedUntil with
  | none => return 0
  | some blockedUntil =>
      let now ← dateTimeNow
      if now < blockedUntil then return (blockedUntil - now).tdiv 60000000
      else
        clearBlockage
        return 0

def getRecentFailedAttemptsCount : App Nat := do
  let attempts ← getRecentFailedAttempts
  return attempts.length

/-! ## What each call does when it runs alone -/

section Exec

variable {d : Phone}

/-- After a read of the list, the attempts of the last hour are what is stored. -/
theorem stored_saveRecent (d : Phone) : (saveRecent d).stored = recentAttempts d := by
  unfold saveRecent
  split
  case isTrue => rfl
  case isFalse same =>
    have all := List.length_filter_eq_length_iff.mp (not_ne_iff.mp same)
    exact (List.filter_eq_self.mpr all).symm

@[simp] theorem blockedUntil_saveRecent (d : Phone) :
    (saveRecent d).prefs.blockedUntil = d.prefs.blockedUntil := by
  unfold saveRecent
  split
  · rfl
  · rfl

@[simp] theorem readings_saveRecent (d : Phone) : (saveRecent d).readings = d.readings + 1 := by
  unfold saveRecent
  split
  · rfl
  · rfl

@[simp] theorem clock_saveRecent (d : Phone) : (saveRecent d).clock = d.clock := by
  unfold saveRecent
  split
  · rfl
  · rfl

@[simp] theorem exec_getRecentFailedAttempts (d : Phone) :
    getRecentFailedAttempts.exec d = (.ok (recentAttempts d), saveRecent d) := rfl

theorem exec_canAttempt_free (free : d.prefs.blockedUntil = none) :
    canAttemptValidation.exec d =
      (.ok (decide ((recentAttempts d).length < maxAttemptsPerHour)), saveRecent d) := by
  unfold canAttemptValidation getBlockedUntil
  rw [Program.exec_bind, Program.exec_read, free]
  rfl

theorem exec_canAttempt_blocked {b : Int} (blocked : d.prefs.blockedUntil = some b)
    (during : d.now < b) : canAttemptValidation.exec d = (.ok false, d.read) := by
  unfold canAttemptValidation getBlockedUntil
  rw [Program.exec_bind, Program.exec_read, blocked]
  simp only [dateTimeNow, Program.exec_bind, Program.exec_step, Program.exec_pure, during,
    ↓reduceIte]

theorem exec_canAttempt_expired {b : Int} (blocked : d.prefs.blockedUntil = some b)
    (ended : b ≤ d.now) :
    canAttemptValidation.exec d = (.ok true, { d.read.read with prefs := {} }) := by
  unfold canAttemptValidation getBlockedUntil
  rw [Program.exec_bind, Program.exec_read, blocked]
  simp only [dateTimeNow, Program.exec_bind, Program.exec_step, Program.exec_pure,
    not_lt.mpr ended, ↓reduceIte]
  rfl

theorem exec_remaining_free (free : d.prefs.blockedUntil = none) :
    getRemainingBlockTimeMinutes.exec d = (.ok 0, d) := by
  unfold getRemainingBlockTimeMinutes getBlockedUntil
  rw [Program.exec_bind, Program.exec_read, free]
  rfl

theorem exec_remaining_blocked {b : Int} (blocked : d.prefs.blockedUntil = some b)
    (during : d.now < b) :
    getRemainingBlockTimeMinutes.exec d = (.ok ((b - d.now).tdiv 60000000), d.read) := by
  unfold getRemainingBlockTimeMinutes getBlockedUntil
  rw [Program.exec_bind, Program.exec_read, blocked]
  simp only [dateTimeNow, Program.exec_bind, Program.exec_step, Program.exec_pure, during,
    ↓reduceIte]

theorem exec_remaining_expired {b : Int} (blocked : d.prefs.blockedUntil = some b)
    (ended : b ≤ d.now) :
    getRemainingBlockTimeMinutes.exec d = (.ok 0, { d.read with prefs := {} }) := by
  unfold getRemainingBlockTimeMinutes getBlockedUntil
  rw [Program.exec_bind, Program.exec_read, blocked]
  simp only [dateTimeNow, Program.exec_bind, Program.exec_step, Program.exec_pure,
    not_lt.mpr ended, ↓reduceIte]
  rfl

/-- A failure that is not the fifth of the hour. -/
theorem exec_record_few (few : (recentAttempts d).length + 1 < maxAttemptsPerHour) :
    recordFailedAttempt.exec d =
      (.ok (),
        { d.read.read with
          prefs :=
            { failedAttempts := some (recentAttempts d ++ [d.read.now])
              blockedUntil := d.prefs.blockedUntil } }) := by
  have short : ¬ maxAttemptsPerHour ≤ (recentAttempts d ++ [(saveRecent d).now]).length := by
    rw [List.length_append, List.length_singleton]
    omega
  unfold recordFailedAttempt saveAttempt
  simp only [Program.exec_bind, exec_getRecentFailedAttempts, Program.exec_step,
    Program.exec_pure, short, ↓reduceIte]
  refine Prod.ext rfl ?_
  unfold saveRecent
  split
  · rfl
  · rfl

/-- The fifth failure of the hour. -/
theorem exec_record_fifth (fifth : maxAttemptsPerHour ≤ (recentAttempts d).length + 1) :
    recordFailedAttempt.exec d =
      (.ok (),
        { d.read.read.read with
          prefs :=
            { failedAttempts := some (recentAttempts d ++ [d.read.now])
              blockedUntil := some (d.read.read.now + hours blockDurationHours) } }) := by
  have long : maxAttemptsPerHour ≤ (recentAttempts d ++ [(saveRecent d).now]).length := by
    rw [List.length_append, List.length_singleton]
    exact fifth
  unfold recordFailedAttempt saveAttempt
  simp only [Program.exec_bind, exec_getRecentFailedAttempts, Program.exec_step,
    Program.exec_pure, long, ↓reduceIte, blockUser]
  refine Prod.ext rfl ?_
  unfold saveRecent
  split
  · rfl
  · rfl

end Exec

end TrustCodeRateLimiter

end TwoGather
