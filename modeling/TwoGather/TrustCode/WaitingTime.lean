import TwoGather.TrustCode.RateLimiter

/-!
# The waiting time shown to a blocked user

The page shows the minutes that `getRemainingBlockTimeMinutes` returns, as
`formatRemainingTime` writes them. `inMinutes` drops the seconds: in the last minute of a
block the user waits `0` minutes, and the text is empty. `waitIsConsistent_iff` says that
only a whole number of minutes is shown as it is.
-/

namespace TwoGather

open TrustCodeRateLimiter

/-- `Duration(minutes: n)`. -/
def minutes (n : Int) : Int :=
  n * 60000000

namespace TrustCodeRateLimiter

def formatRemainingTime (minutes : Int) : String :=
  if minutes ≤ 0 then ""
  else
    let hours := minutes.tdiv 60
    let remainingMinutes := minutes % 60
    if 0 < hours then s!"{hours}h {remainingMinutes}min" else s!"{remainingMinutes}min"

theorem formatRemainingTime_of_pos {n : Int} (some : 0 < n) : formatRemainingTime n ≠ "" := by
  have ends : ∀ before : String, before ++ "min" ≠ "" := by
    intro before empty
    have length := congrArg String.length empty
    rw [String.length_append] at length
    exact absurd length (Nat.succ_ne_zero _)
  unfold formatRemainingTime
  rw [if_neg (not_le.mpr some)]
  dsimp only
  split
  · exact ends _
  · exact ends _

/-- For a time that is not negative the text is empty exactly when it is `0`. -/
theorem formatRemainingTime_eq_empty {n : Int} (forward : 0 ≤ n) :
    formatRemainingTime n = "" ↔ n = 0 := by
  constructor
  · intro empty
    by_contra more
    exact formatRemainingTime_of_pos (lt_of_le_of_ne forward (Ne.symm more)) empty
  · rintro rfl
    rfl

end TrustCodeRateLimiter

namespace Phone

/-- A stored block date is later than now. -/
def IsBlocked (d : Phone) : Prop :=
  ∃ b, d.prefs.blockedUntil = some b ∧ d.now < b

/-- What `getRemainingBlockTimeMinutes` returns is `0` exactly for a user who is not blocked,
its text is empty exactly when it is `0`, and waiting that long is enough. -/
def WaitIsConsistent (d : Phone) : Prop :=
  ∃ n, (getRemainingBlockTimeMinutes.exec d).1 = .ok n ∧
    (n = 0 ↔ ¬ d.IsBlocked) ∧
    (formatRemainingTime n = "" ↔ n = 0) ∧
    ∀ b, d.prefs.blockedUntil = some b → b ≤ d.now + minutes n

/-- A block that has not ended has a whole number of minutes to go. -/
def WholeMinutes (d : Phone) : Prop :=
  ∀ b ∈ d.prefs.blockedUntil, d.now < b → (b - d.now) % 60000000 = 0

instance (d : Phone) : Decidable d.WholeMinutes :=
  inferInstanceAs (Decidable (∀ b ∈ d.prefs.blockedUntil, _))

/-- The other reader of the block date classifies every instant in the same way. -/
theorem refused_of_isBlocked {d : Phone} (blocked : d.IsBlocked) :
    (canAttemptValidation.exec d).1 = .ok false := by
  obtain ⟨b, stored, during⟩ := blocked
  rw [exec_canAttempt_blocked stored during]

/-- While the user is not blocked. -/
theorem remaining_of_not_isBlocked {d : Phone} (free : ¬ d.IsBlocked) :
    (getRemainingBlockTimeMinutes.exec d).1 = .ok 0 := by
  cases stored : d.prefs.blockedUntil with
  | none => rw [exec_remaining_free stored]
  | some b =>
      have ended : b ≤ d.now := not_lt.mp fun during => free ⟨b, stored, during⟩
      rw [exec_remaining_expired stored ended]

/-- **For every stored state and every instant, the waiting time is consistent with the block
if and only if the user is not blocked or has a whole number of minutes to wait.** -/
theorem waitIsConsistent_iff (d : Phone) : d.WaitIsConsistent ↔ d.WholeMinutes := by
  by_cases blocked : d.IsBlocked
  · obtain ⟨b, stored, during⟩ := blocked
    have left : 0 < b - d.now := sub_pos.mpr during
    have dropped : (b - d.now).tdiv 60000000 = (b - d.now) / 60000000 :=
      Int.tdiv_eq_ediv_of_nonneg left.le
    have whole : d.WholeMinutes ↔ (b - d.now) % 60000000 = 0 := by
      simp [WholeMinutes, stored, during]
    have run : (getRemainingBlockTimeMinutes.exec d).1 = .ok ((b - d.now) / 60000000) := by
      rw [exec_remaining_blocked stored during, dropped]
    rw [whole]
    constructor
    · rintro ⟨n, returned, -, -, enough⟩
      obtain rfl := Except.ok.inj (run.symm.trans returned)
      have waited := enough b stored
      unfold minutes at waited
      omega
    · intro exact
      have some : ¬ (b - d.now) / 60000000 = 0 := by omega
      refine ⟨_, run, iff_of_false some fun not => not ⟨b, stored, during⟩,
        formatRemainingTime_eq_empty (by omega), fun b' stored' => ?_⟩
      obtain rfl := Option.some.inj (stored.symm.trans stored')
      unfold minutes
      omega
  · have whole : d.WholeMinutes := fun b stored during => absurd ⟨b, stored, during⟩ blocked
    refine iff_of_true ⟨0, remaining_of_not_isBlocked blocked, iff_of_true rfl blocked,
      formatRemainingTime_eq_empty le_rfl, fun b stored => ?_⟩ whole
    have ended : b ≤ d.now := not_lt.mp fun during => blocked ⟨b, stored, during⟩
    unfold minutes
    omega

/-- A phone blocked for another half a minute. -/
def halfMinute : Phone where
  store := .ofUsers ⟨[], by decide⟩
  prefs := { blockedUntil := some 30000000 }
  clock _ := 0
  readings := 0
  lookups := []

/-- Half a minute before its end a block is shown as over. -/
theorem half_minute_shown_as_none :
    halfMinute.IsBlocked ∧ (canAttemptValidation.exec halfMinute).1 = .ok false ∧
      (getRemainingBlockTimeMinutes.exec halfMinute).1 = .ok 0 ∧ formatRemainingTime 0 = "" ∧
      ¬ halfMinute.WaitIsConsistent := by
  have blocked : halfMinute.IsBlocked := ⟨30000000, rfl, by decide⟩
  have none : (getRemainingBlockTimeMinutes.exec halfMinute).1 = .ok 0 := rfl
  refine ⟨blocked, refused_of_isBlocked blocked, none, rfl, fun consistent => ?_⟩
  obtain ⟨n, returned, zero, -⟩ := consistent
  obtain rfl := Except.ok.inj (none.symm.trans returned)
  exact zero.mp rfl blocked

end Phone

end TwoGather
