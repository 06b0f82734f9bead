import Mathlib
import TwoGather.Lib.Runs
import TwoGather.TrustCode.RateLimiter

/-!
# Attempts one after the other

Runs in which the calls of the limiter do not overlap, on a clock that never goes back but
may move on within a call. No hour holds more than five failures, the fifth of an hour blocks
the user for three hours, and the user is never refused without such a failure
(`attempts_limited`).

`recordFailedAttempt` reads the clock three times: for the last hour, for the time of the
failure, and for the end of the block. So the last hour of a failure that blocks is counted
back from the first of these readings and the block runs from the third; a refusal may come
a little later than three hours after the stored time (`refused_after_three_hours`).
-/

namespace TwoGather

open Requests Windows TrustCodeRateLimiter

/-- The three readings of the clock in one `recordFailedAttempt`. -/
structure Failure where
  read : Int
  stamp : Int
  block : Int
  deriving DecidableEq

/-- The next three readings. -/
def Phone.failure (d : Phone) : Failure where
  read := d.now
  stamp := d.read.now
  block := d.read.read.now

/-- The phone, all recorded failures, and whether an attempt is under way that was allowed. -/
structure LimiterScene where
  phone : Phone
  failures : List Failure
  admitted : Bool

/-- A call of the limiter. `leave` ends an attempt whose code is not wrong. -/
inductive LimiterCall
  | attempt
  | record
  | leave
  | canAttemptValidation
  | getRemainingBlockTimeMinutes
  | getRecentFailedAttemptsCount
  deriving DecidableEq

namespace LimiterCall

def step (t : LimiterScene) : LimiterCall → LimiterScene
  | .attempt =>
      { t with
        phone := (TrustCodeRateLimiter.canAttemptValidation.exec t.phone).2
        admitted := (TrustCodeRateLimiter.canAttemptValidation.exec t.phone).1 = .ok true }
  | .record =>
      { phone := (recordFailedAttempt.exec t.phone).2
        failures := t.failures ++ [t.phone.failure]
        admitted := false }
  | .leave => { t with admitted := false }
  | .canAttemptValidation =>
      { t with phone := (TrustCodeRateLimiter.canAttemptValidation.exec t.phone).2 }
  | .getRemainingBlockTimeMinutes =>
      { t with phone := (TrustCodeRateLimiter.getRemainingBlockTimeMinutes.exec t.phone).2 }
  | .getRecentFailedAttemptsCount =>
      { t with phone := (TrustCodeRateLimiter.getRecentFailedAttemptsCount.exec t.phone).2 }

/-- Attempts do not overlap, and a failure is that of an attempt that was allowed. -/
def Valid (t : LimiterScene) : LimiterCall → Prop
  | .attempt => t.admitted = false
  | .record => t.admitted = true
  | _ => True

instance (t : LimiterScene) : (call : LimiterCall) → Decidable (call.Valid t)
  | .attempt | .record => inferInstanceAs (Decidable (_ = _))
  | .leave | .canAttemptValidation | .getRemainingBlockTimeMinutes
  | .getRecentFailedAttemptsCount => .isTrue trivial

end LimiterCall

namespace LimiterScene

/-- A phone on which nobody has tried a code yet. -/
def start (store : Store) (clock : Nat → Int) : LimiterScene where
  phone := { store, prefs := {}, clock, readings := 0, lookups := [] }
  failures := []
  admitted := false

def stamps (t : LimiterScene) : List Int :=
  t.failures.map (·.stamp)

end LimiterScene

/-- Four of the failures before came in the hour that ends at a reading of the clock. -/
def Fifth (reading : Int) (before : List Failure) : Prop :=
  (after (reading - hours 1) (before.map (·.stamp))).length = 4

instance (reading : Int) (before : List Failure) : Decidable (Fifth reading before) :=
  inferInstanceAs (Decidable (_ = _))

/-- What the limiter promises at a moment of a run. For a refusal, the last hour of a failure is
counted back from `counted` and the three hours run from `blocked`. -/
structure Limits (counted blocked : Failure → Int) (t : LimiterScene) : Prop where
  closedLeft : ∀ w, t.stamps.countP (fun s => w ≤ s ∧ s < w + hours 1) ≤ 5
  closedRight : ∀ w, t.stamps.countP (fun s => w < s ∧ s ≤ w + hours 1) ≤ 5
  blocks : Each (fun before f => Fifth f.stamp before → t.phone.now < f.stamp + hours 3 →
    (canAttemptValidation.exec t.phone).1 = .ok false) t.failures
  onlyBlocks : (canAttemptValidation.exec t.phone).1 = .ok false →
    ∃ before f later, t.failures = before ++ f :: later ∧ Fifth (counted f) before ∧
      t.phone.now < blocked f + hours 3

/-- What holds between two calls. -/
structure LimiterInvariant (t : LimiterScene) : Prop where
  clock : Monotone t.phone.clock
  past : ∀ f ∈ t.failures, f.stamp ≤ f.block ∧ f.block ≤ t.phone.now
  sparse : Sparse (hours 1) 5 t.stamps
  /-- Of the last hour, no failure is forgotten. -/
  kept : ∀ c, t.phone.now - hours 1 ≤ c → after c t.phone.stored = after c t.stamps
  few : t.phone.prefs.blockedUntil = none →
    (after (t.phone.now - hours 1) t.stamps).length < 5
  /-- A block was set by the last failure, which was the fifth of its hour. -/
  blocked : ∀ b, t.phone.prefs.blockedUntil = some b → t.admitted = false ∧
    ∃ before f, t.failures = before ++ [f] ∧ Fifth f.read before ∧ b = f.block + hours 3 ∧
      ∀ g ∈ t.failures, g.stamp ≤ f.block
  blocks : Each (fun before f => Fifth f.stamp before →
    (∃ b, t.phone.prefs.blockedUntil = some b ∧ f.stamp + hours 3 ≤ b) ∨
      f.stamp + hours 3 ≤ t.phone.now) t.failures

section Keep

variable {t : LimiterScene} {d : Phone}

theorem LimiterInvariant.now_le (invariant : LimiterInvariant t) (clock : d.clock = t.phone.clock)
    (later : t.phone.readings ≤ d.readings) : t.phone.now ≤ d.now := by
  unfold Phone.now
  rw [clock]
  exact invariant.clock later

/-- Time passes, and nothing of the last hour is forgotten. -/
theorem LimiterInvariant.look (invariant : LimiterInvariant t) (clock : d.clock = t.phone.clock)
    (later : t.phone.readings ≤ d.readings)
    (block : d.prefs.blockedUntil = t.phone.prefs.blockedUntil)
    (kept : ∀ c, d.now - hours 1 ≤ c → after c d.stored = after c t.phone.stored) {admitted : Bool}
    (refused : d.prefs.blockedUntil ≠ none → admitted = false) :
    LimiterInvariant { t with phone := d, admitted := admitted } := by
  have now_le := invariant.now_le clock later
  exact {
    clock := by
      change Monotone d.clock
      rw [clock]
      exact invariant.clock
    past := fun f listed => ⟨(invariant.past f listed).1, (invariant.past f listed).2.trans now_le⟩
    sparse := invariant.sparse
    kept := by
      intro c recent
      change d.now - hours 1 ≤ c at recent
      rw [kept c recent]
      exact invariant.kept c (by omega)
    few := by
      intro free
      have before := invariant.few (block ▸ free)
      have fewer := length_after_le (show t.phone.now - hours 1 ≤ d.now - hours 1 by omega) t.stamps
      exact lt_of_le_of_lt fewer before
    blocked := by
      intro b here
      refine ⟨refused (by rw [here]; nofun), ?_⟩
      exact (invariant.blocked b (block ▸ here)).2
    blocks := by
      intro before f rest eq fifth
      rcases invariant.blocks before f rest eq fifth with ⟨b, here, le⟩ | ended
      · exact .inl ⟨b, block ▸ here, le⟩
      · exact .inr (ended.trans now_le) }

/-- A block that is over is cleared; everything it forgets is more than an hour old. -/
theorem LimiterInvariant.clear (invariant : LimiterInvariant t) (clock : d.clock = t.phone.clock)
    (later : t.phone.readings ≤ d.readings) {b : Int}
    (blocked : t.phone.prefs.blockedUntil = some b) (ended : b ≤ t.phone.now) (cleared : d.prefs = {})
    (admitted : Bool) : LimiterInvariant { t with phone := d, admitted := admitted } := by
  have now_le := invariant.now_le clock later
  obtain ⟨-, _, f, -, -, rfl, last⟩ := invariant.blocked b blocked
  have old : ∀ c, d.now - hours 1 ≤ c → after c t.stamps = [] := by
    intro c recent
    apply after_eq_nil
    intro s listed
    obtain ⟨g, member, rfl⟩ := List.mem_map.mp listed
    have := last g member
    unfold hours at ended recent
    omega
  exact {
    clock := by
      change Monotone d.clock
      rw [clock]
      exact invariant.clock
    past := fun f listed => ⟨(invariant.past f listed).1, (invariant.past f listed).2.trans now_le⟩
    sparse := invariant.sparse
    kept := by
      intro c recent
      have none : d.stored = [] := by
        unfold Phone.stored
        rw [cleared]
        rfl
      change after c d.stored = after c t.stamps
      rw [none, old c recent]
      rfl
    few := by
      intro _
      change (after (d.now - hours 1) t.stamps).length < 5
      rw [old _ le_rfl]
      exact Nat.zero_lt_succ 4
    blocked := by
      intro b here
      change d.prefs.blockedUntil = some b at here
      rw [cleared] at here
      cases here
    blocks := by
      intro before g rest eq fifth
      right
      rcases invariant.blocks before g rest eq fifth with ⟨b, here, le⟩ | past
      · rw [blocked] at here
        cases here
        exact (le.trans ended).trans now_le
      · exact past.trans now_le }

/-- No block is set while an attempt that was allowed is under way. -/
theorem LimiterInvariant.free (invariant : LimiterInvariant t) (admitted : t.admitted = true) :
    t.phone.prefs.blockedUntil = none := by
  cases here : t.phone.prefs.blockedUntil with
  | none => rfl
  | some b =>
      have refused := (invariant.blocked b here).1
      rw [admitted] at refused
      cases refused

/-- The limiter finds all failures of the last hour. -/
theorem LimiterInvariant.recentAttempts_eq (invariant : LimiterInvariant t) :
    recentAttempts t.phone = after (t.phone.now - hours 1) t.stamps :=
  invariant.kept _ le_rfl

/-- The phone after an allowed attempt has failed: the limiter has saved it, and has set a block
or not. -/
structure Recorded (t : LimiterScene) (d : Phone) : Prop where
  clock : d.clock = t.phone.clock
  later : t.phone.readings + 2 ≤ d.readings
  saved : d.stored = recentAttempts t.phone ++ [t.phone.read.now]
  block : d.prefs.blockedUntil =
    if 5 ≤ (recentAttempts t.phone).length + 1 then some (t.phone.read.read.now + hours 3)
    else none

/-- The three readings of the failure, and the time after it. -/
theorem Recorded.times (recorded : Recorded t d) (invariant : LimiterInvariant t) :
    t.phone.now ≤ t.phone.read.now ∧ t.phone.read.now ≤ t.phone.read.read.now ∧
      t.phone.read.read.now ≤ d.now := by
  refine ⟨invariant.clock (Nat.le_succ _), invariant.clock (Nat.le_succ _), ?_⟩
  unfold Phone.now
  rw [recorded.clock]
  exact invariant.clock recorded.later

theorem stamps_failure (t : LimiterScene) :
    (t.failures ++ [t.phone.failure]).map (·.stamp) = t.stamps ++ [t.phone.read.now] :=
  List.map_append

/-- Without a block there are fewer than five failures in the last hour. -/
theorem Recorded.few (recorded : Recorded t d) (invariant : LimiterInvariant t)
    (unset : d.prefs.blockedUntil = none) :
    (after (d.now - hours 1) (t.stamps ++ [t.phone.read.now])).length < 5 := by
  obtain ⟨first, second, third⟩ := recorded.times invariant
  rw [recorded.block, invariant.recentAttempts_eq] at unset
  split at unset
  case isTrue => cases unset
  case isFalse short =>
    have le := length_after_le (show t.phone.now - hours 1 ≤ d.now - hours 1 by omega) t.stamps
    have one := length_after_concat_le (d.now - hours 1) t.phone.read.now t.stamps
    omega

/-- A block is one of this failure, which is the fifth of its hour. -/
theorem Recorded.blocked (recorded : Recorded t d) (invariant : LimiterInvariant t)
    (free : t.phone.prefs.blockedUntil = none) {b : Int} (here : d.prefs.blockedUntil = some b) :
    ∃ before f, t.failures ++ [t.phone.failure] = before ++ [f] ∧ Fifth f.read before ∧
      b = f.block + hours 3 ∧ ∀ g ∈ t.failures ++ [t.phone.failure], g.stamp ≤ f.block := by
  obtain ⟨first, second, third⟩ := recorded.times invariant
  have few := invariant.few free
  rw [recorded.block, invariant.recentAttempts_eq] at here
  split at here
  case isFalse => cases here
  case isTrue long =>
    cases here
    refine ⟨t.failures, _, rfl, ?_, rfl, ?_⟩
    · have fifth : (after (t.phone.now - hours 1) t.stamps).length = 4 := by omega
      exact fifth
    · intro g listed
      rcases List.mem_append.mp listed with earlier | new
      · have := invariant.past g earlier
        change g.stamp ≤ t.phone.read.read.now
        omega
      · obtain rfl := List.mem_singleton.mp new
        exact second

/-- The fifth failure of an hour blocks. -/
theorem Recorded.blocks (recorded : Recorded t d) (invariant : LimiterInvariant t)
    (fifth : Fifth t.phone.failure.stamp t.failures) :
    ∃ b, d.prefs.blockedUntil = some b ∧ t.phone.failure.stamp + hours 3 ≤ b := by
  obtain ⟨first, second, third⟩ := recorded.times invariant
  have block := recorded.block
  rw [invariant.recentAttempts_eq] at block
  change (after (t.phone.read.now - hours 1) t.stamps).length = 4 at fifth
  have le := length_after_le
    (show t.phone.now - hours 1 ≤ t.phone.read.now - hours 1 by omega) t.stamps
  refine ⟨_, block.trans (if_pos (by omega)), ?_⟩
  change t.phone.read.now + hours 3 ≤ t.phone.read.read.now + hours 3
  omega

/-- An allowed attempt has failed. -/
theorem LimiterInvariant.record_of (invariant : LimiterInvariant t) (admitted : t.admitted = true)
    (recorded : Recorded t d) :
    LimiterInvariant
      { phone := d
        failures := t.failures ++ [t.phone.failure]
        admitted := false } := by
  have free := invariant.free admitted
  obtain ⟨first, second, third⟩ := recorded.times invariant
  exact {
    clock := by
      change Monotone d.clock
      rw [recorded.clock]
      exact invariant.clock
    past := by
      intro f listed
      rcases List.mem_append.mp listed with earlier | new
      · have := invariant.past f earlier
        exact ⟨this.1, by change f.block ≤ d.now; omega⟩
      · obtain rfl := List.mem_singleton.mp new
        exact ⟨second, third⟩
    sparse := by
      unfold LimiterScene.stamps
      rw [stamps_failure]
      have fewer := length_after_le
        (show t.phone.now - hours 1 ≤ t.phone.read.now - hours 1 by omega) t.stamps
      exact each_concat.mpr ⟨invariant.sparse, lt_of_le_of_lt fewer (invariant.few free)⟩
    kept := by
      intro c recent
      change d.now - hours 1 ≤ c at recent
      unfold LimiterScene.stamps
      rw [stamps_failure]
      change after c d.stored = _
      rw [recorded.saved, invariant.recentAttempts_eq, after_append, after_append,
        after_after (by omega)]
    few := by
      intro unset
      unfold LimiterScene.stamps
      rw [stamps_failure]
      exact recorded.few invariant unset
    blocked := fun b here => ⟨rfl, recorded.blocked invariant free here⟩
    blocks := by
      refine each_concat.mpr ⟨?_, fun fifth => .inl (recorded.blocks invariant fifth)⟩
      intro before f rest eq fifth
      rcases invariant.blocks before f rest eq fifth with ⟨b, here, -⟩ | ended
      · rw [free] at here
        cases here
      · right
        change f.stamp + hours 3 ≤ d.now
        omega }

/-- An allowed attempt fails. -/
theorem LimiterInvariant.record (invariant : LimiterInvariant t) (admitted : t.admitted = true) :
    LimiterInvariant (LimiterCall.record.step t) := by
  have unset := invariant.free admitted
  unfold LimiterCall.step
  by_cases fifth : maxAttemptsPerHour ≤ (recentAttempts t.phone).length + 1
  · rw [exec_record_fifth fifth]
    exact invariant.record_of admitted ⟨rfl, Nat.le_succ _, rfl, (if_pos fifth).symm⟩
  · rw [exec_record_few (not_le.mp fifth)]
    exact invariant.record_of admitted ⟨rfl, le_rfl, rfl, unset.trans (if_neg fifth).symm⟩

/-- A reader of the list forgets nothing of the last hour. -/
theorem LimiterInvariant.prune (invariant : LimiterInvariant t) {admitted : Bool}
    (refused : t.phone.prefs.blockedUntil ≠ none → admitted = false) :
    LimiterInvariant { t with phone := saveRecent t.phone, admitted := admitted } := by
  have later : t.phone.readings ≤ (saveRecent t.phone).readings := by
    rw [readings_saveRecent]
    exact Nat.le_succ _
  have now_le := invariant.now_le (clock_saveRecent _) later
  refine invariant.look (clock_saveRecent _) later (blockedUntil_saveRecent _) ?_ ?_
  · intro c recent
    have le : t.phone.now - hours attemptWindowHours ≤ c := by
      change t.phone.now - hours 1 ≤ c
      omega
    rw [stored_saveRecent]
    exact after_after le _
  · rw [blockedUntil_saveRecent]
    exact refused

/-- A reading of the clock alone. -/
theorem LimiterInvariant.tick (invariant : LimiterInvariant t) {admitted : Bool}
    (refused : t.phone.prefs.blockedUntil ≠ none → admitted = false) :
    LimiterInvariant { t with phone := t.phone.read, admitted := admitted } :=
  invariant.look (d := t.phone.read) rfl (Nat.le_succ _) rfl (fun _ _ => rfl) refused

theorem LimiterInvariant.refused (invariant : LimiterInvariant t)
    (blocked : t.phone.prefs.blockedUntil ≠ none) : t.admitted = false := by
  obtain ⟨b, here⟩ := Option.ne_none_iff_exists'.mp blocked
  exact (invariant.blocked b here).1

/-- Whether an attempt is allowed may be asked at any time. -/
theorem LimiterInvariant.canAttempt (invariant : LimiterInvariant t) {admitted : Bool}
    (refused : ∀ b, t.phone.prefs.blockedUntil = some b → t.phone.now < b → admitted = false) :
    LimiterInvariant
      { t with phone := (canAttemptValidation.exec t.phone).2, admitted := admitted } := by
  cases block : t.phone.prefs.blockedUntil with
  | none =>
      rw [exec_canAttempt_free block]
      exact invariant.prune fun some => absurd block some
  | some b =>
      by_cases during : t.phone.now < b
      · rw [exec_canAttempt_blocked block during]
        exact invariant.tick fun _ => refused b block during
      · rw [exec_canAttempt_expired block (not_lt.mp during)]
        exact invariant.clear (d := { t.phone.read.read with prefs := {} }) rfl
          (Nat.le_add_right _ 2) block (not_lt.mp during) rfl admitted

theorem LimiterInvariant.remaining (invariant : LimiterInvariant t) :
    LimiterInvariant { t with phone := (getRemainingBlockTimeMinutes.exec t.phone).2 } := by
  cases block : t.phone.prefs.blockedUntil with
  | none =>
      rw [exec_remaining_free block]
      exact invariant
  | some b =>
      by_cases during : t.phone.now < b
      · rw [exec_remaining_blocked block during]
        exact invariant.tick invariant.refused
      · rw [exec_remaining_expired block (not_lt.mp during)]
        exact invariant.clear (d := { t.phone.read with prefs := {} }) rfl (Nat.le_succ _) block
          (not_lt.mp during) rfl t.admitted

theorem LimiterInvariant.step (invariant : LimiterInvariant t) (call : LimiterCall)
    (valid : call.Valid t) : LimiterInvariant (call.step t) := by
  cases call with
  | attempt =>
      refine invariant.canAttempt fun b block during => ?_
      rw [exec_canAttempt_blocked block during]
      rfl
  | record => exact invariant.record valid
  | leave =>
      exact invariant.look (d := t.phone) rfl le_rfl rfl (fun _ _ => rfl) fun _ => rfl
  | canAttemptValidation =>
      exact invariant.canAttempt fun b block _ => (invariant.blocked b block).1
  | getRemainingBlockTimeMinutes => exact invariant.remaining
  | getRecentFailedAttemptsCount => exact invariant.prune invariant.refused

/-- The invariant gives all that the limiter promises. -/
theorem LimiterInvariant.limits (invariant : LimiterInvariant t) :
    Limits Failure.read Failure.block t where
  closedLeft := invariant.sparse.countP_Ico_le
  closedRight := invariant.sparse.countP_Ioc_le
  blocks := by
    intro before f rest eq fifth during
    rcases invariant.blocks before f rest eq fifth with ⟨b, block, le⟩ | ended
    · rw [exec_canAttempt_blocked block (by omega)]
    · omega
  onlyBlocks := by
    intro refused
    cases block : t.phone.prefs.blockedUntil with
    | none =>
        rw [exec_canAttempt_free block, invariant.recentAttempts_eq] at refused
        have few := invariant.few block
        have many := of_decide_eq_false (Except.ok.inj refused)
        exact absurd few many
    | some b =>
        by_cases during : t.phone.now < b
        · obtain ⟨-, before, f, eq, fifth, rfl, -⟩ := invariant.blocked b block
          exact ⟨before, f, [], eq, fifth, during⟩
        · rw [exec_canAttempt_expired block (not_lt.mp during)] at refused
          cases Except.ok.inj refused

/-- Where the readings of each failure agree, one time counts for all three. -/
theorem Limits.of_agree (limits : Limits Failure.read Failure.block t)
    (agree : ∀ f ∈ t.failures, f.read = f.stamp ∧ f.block = f.stamp) :
    Limits Failure.stamp Failure.stamp t where
  closedLeft := limits.closedLeft
  closedRight := limits.closedRight
  blocks := limits.blocks
  onlyBlocks := by
    intro refused
    obtain ⟨before, f, later, eq, fifth, during⟩ := limits.onlyBlocks refused
    obtain ⟨read, block⟩ := agree f (by rw [eq]; exact List.mem_append_cons_self)
    exact ⟨before, f, later, eq, read ▸ fifth, block ▸ during⟩

end Keep

theorem LimiterInvariant.start (store : Store) {clock : Nat → Int} (monotone : Monotone clock) :
    LimiterInvariant (.start store clock) where
  clock := monotone
  past f listed := absurd listed List.not_mem_nil
  sparse := each_nil
  kept _ _ := rfl
  few _ := Nat.zero_lt_succ 4
  blocked b here := by cases here
  blocks := each_nil

/-- In every run of calls that do not overlap, at most five failures are recorded in an hour,
the fifth of an hour blocks for three hours, and only such a failure does. -/
theorem attempts_limited (store : Store) {clock : Nat → Int} (monotone : Monotone clock)
    {calls : List LimiterCall}
    (valid : Along LimiterCall.step (fun t call => call.Valid t) (.start store clock) calls) :
    ∀ t, Reached LimiterCall.step (.start store clock) calls t →
      Limits Failure.read Failure.block t ∧
        ((∀ f ∈ t.failures, f.read = f.stamp ∧ f.block = f.stamp) →
          Limits Failure.stamp Failure.stamp t) := by
  intro t reached
  have invariant : LimiterInvariant t :=
    all_reached (P := LimiterInvariant) (fun _ call invariant valid => invariant.step call valid)
      (.start store monotone) valid t reached
  exact ⟨invariant.limits, invariant.limits.of_agree⟩

/-! ## A block that ends later than three hours after the stored time -/

/-- Five attempts that fail. -/
def fiveFailures : List LimiterCall :=
  (List.replicate 5 [LimiterCall.attempt, .record]).flatten

/-- The clock moves on by a microsecond while the fifth failure is recorded, between its time and
the block; then three hours pass. -/
def slowClock (reading : Nat) : Int :=
  if reading < 15 then 0 else if reading = 15 then 1 else hours 3

theorem slowClock_monotone : Monotone slowClock := by
  apply monotone_nat_of_le_succ
  intro reading
  unfold slowClock hours
  split
  case isTrue =>
    split
    · exact le_rfl
    · split
      · exact Int.one_nonneg
      · omega
  case isFalse =>
    have past : ¬ reading + 1 < 15 := by omega
    have last : ¬ reading + 1 = 15 := by omega
    rw [if_neg past, if_neg last]
    split
    · omega
    · exact le_rfl

def noCodes : Store :=
  Store.ofUsers ⟨[], List.nodup_nil⟩

/-- At three hours after its time the fifth failure still blocks. -/
theorem refused_after_three_hours :
    Monotone slowClock ∧
      Along LimiterCall.step (fun t call => call.Valid t) (.start noCodes slowClock)
        fiveFailures ∧
      ¬ Limits Failure.stamp Failure.stamp
        (run LimiterCall.step (.start noCodes slowClock) fiveFailures) := by
  refine ⟨slowClock_monotone, by decide, fun limits => ?_⟩
  obtain ⟨before, f, later, eq, -, during⟩ := limits.onlyBlocks (by decide)
  have listed : f ∈ (run LimiterCall.step (.start noCodes slowClock) fiveFailures).failures := by
    rw [eq]
    exact List.mem_append_cons_self
  have stamp : ∀ g ∈ (run LimiterCall.step (.start noCodes slowClock) fiveFailures).failures,
      g.stamp = 0 := by decide
  rw [stamp f listed] at during
  exact absurd during (by decide)

theorem fiveFailures_limited :
    Limits Failure.read Failure.block
      (run LimiterCall.step (.start noCodes slowClock) fiveFailures) :=
  (attempts_limited noCodes slowClock_monotone (by decide) _ (.run _ _)).1

end TwoGather
