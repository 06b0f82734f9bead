import TwoGather.Backend.Documents

/-!
# Where locks come from

While any calls run in any order, a user gets a lock partner only through an accepted request
between the two, and loses it only to an end of a lock of this user, or to another lock
(`lock_life`). The map of the partner and the flag `isLock` are always written together, so
they agree at all moments (`flagAgrees_after`).
-/

namespace TwoGather

open Docs Requests

/-- The lock partner in the document. -/
def User.partner (u : User) : Option UserId :=
  u.duo.get?.map Duo.id

/-- `isLock` says whether there is a partner. -/
def User.FlagAgrees (u : User) : Prop :=
  u.isLock = .value true ↔ u.duo.get?.isSome = true

/-! ## What a write does to the lock -/

section Writes

variable {u : User} {v : UserId}

theorem User.partner_accept : (u.accept v).partner = u.partner := by
  unfold User.accept
  split
  · rfl
  · rfl

/-- Only a lock and its end change the partner. -/
theorem UserWrite.partner (w : UserWrite) :
    (w.write u).partner = u.partner ∨ (∃ duo, w = .lock duo ∧ (w.write u).partner = some duo.id) ∨
      w = .unlock := by
  cases w with
  | lock duo => exact .inr (.inl ⟨duo, rfl, rfl⟩)
  | unlock => exact .inr (.inr rfl)
  | accept friend => exact .inl User.partner_accept
  | _ => exact .inl rfl

theorem User.flagAgrees_accept (agrees : u.FlagAgrees) : (u.accept v).FlagAgrees := by
  unfold User.accept
  split
  · exact agrees
  · exact agrees

theorem UserWrite.flagAgrees {w : UserWrite} (agrees : u.FlagAgrees) :
    (w.write u).FlagAgrees := by
  cases w with
  | lock duo => exact iff_of_true rfl rfl
  | unlock => exact iff_of_false (by rintro ⟨⟩) Bool.false_ne_true
  | accept friend => exact User.flagAgrees_accept agrees
  | _ => exact agrees

end Writes

section Life

variable {ι : Type} [DecidableEq ι] {s : Store} {calls : ι → Call} {schedule : List ι}
  {u v : UserId} {data : User}

theorem partner_cause (before : ∀ data, s.user u = some data → data.partner ≠ some v)
    (found : (s.after calls schedule).user u = some data) (locked : data.partner = some v) :
    ∃ i ∈ schedule, (calls i).Locks u v := by
  rcases user_cause before found locked with ⟨i, listed, turns | ⟨-, empty⟩⟩
  · rcases turns with ⟨write, writes, data, was, now⟩
    rcases write.partner with same | ⟨duo, rfl, partner⟩ | rfl
    · exact absurd (same.symm.trans now) was
    · cases partner.symm.trans now
      exact ⟨i, listed, writes⟩
    · cases now
  · cases empty

theorem separation_cause (before : ∀ data, s.user u = some data → data.partner = some v)
    (found : (s.after calls schedule).user u = some data) (separated : data.partner ≠ some v) :
    ∃ i ∈ schedule, (calls i).Unlocks u ∨ (∃ w ≠ v, (calls i).Locks u w) ∨
      calls i = .app (.signUp u) := by
  rcases user_cause (Q := fun data => data.partner ≠ some v)
    (fun data found => not_not.mpr (before data found)) found separated with
    ⟨i, listed, turns | ⟨call, -⟩⟩
  · refine ⟨i, listed, ?_⟩
    rcases turns with ⟨write, writes, data, was, now⟩
    rcases write.partner with same | ⟨duo, rfl, partner⟩ | rfl
    · exact absurd (same.trans (not_not.mp was)) now
    · exact .inr (.inl ⟨duo.id, fun same => now (same ▸ partner), writes⟩)
    · exact .inl writes
  · exact ⟨i, listed, .inr (.inr call)⟩

theorem flagAgrees_after (before : ∀ data, s.user u = some data → data.FlagAgrees)
    (found : (s.after calls schedule).user u = some data) : data.FlagAgrees := by
  by_contra differs
  rcases user_cause (Q := fun data => ¬ data.FlagAgrees)
    (fun data found => not_not.mpr (before data found)) found differs with
    ⟨i, -, ⟨write, -, data, was, now⟩ | ⟨-, differs⟩⟩
  · exact now (UserWrite.flagAgrees (not_not.mp was))
  · exact differs (iff_of_false (by rintro ⟨⟩) Bool.false_ne_true)

/-- What happens to the lock of `u` with `v`, while any calls run in any order. -/
structure LockLife (s : Store) (calls : ι → Call) (schedule : List ι) (u v : UserId) : Prop where
  /-- It comes from an acceptance between the two. -/
  locked : (∀ data, s.user u = some data → data.partner ≠ some v) →
    ∀ data, (s.after calls schedule).user u = some data → data.partner = some v →
      ∃ i ∈ schedule, (calls i).Locks u v
  /-- It is ended for `u`, replaced by another lock of `u`, or gone with the whole document. -/
  separated : (∀ data, s.user u = some data → data.partner = some v) →
    ∀ data, (s.after calls schedule).user u = some data → data.partner ≠ some v →
      ∃ i ∈ schedule, (calls i).Unlocks u ∨ (∃ w ≠ v, (calls i).Locks u w) ∨
        calls i = .app (.signUp u)
  /-- The flag agrees with the map, if it did at the start. -/
  flag : (∀ data, s.user u = some data → data.FlagAgrees) →
    ∀ data, (s.after calls schedule).user u = some data → data.FlagAgrees

theorem lock_life (s : Store) (calls : ι → Call) (schedule : List ι) (u v : UserId) :
    LockLife s calls schedule u v where
  locked := fun before _ => partner_cause before
  separated := fun before _ => separation_cause before
  flag := fun before _ => flagAgrees_after before

end Life

end TwoGather
