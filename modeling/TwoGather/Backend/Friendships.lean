import TwoGather.Backend.Documents

/-!
# Where friendships come from

While any calls run in any order, a user comes into the friends of another one only through a
call that makes friends of these two, or through a list that the app of the other one wrote
back. No call takes a friend away but the list that is written back, and the new document of a
user who signs up again (`friendship_life`).
-/

namespace TwoGather

open Docs Requests

/-- The user has an entry for the other one in its friends. -/
def User.Knows (v : UserId) (u : User) : Prop :=
  ∃ e ∈ u.friends.elems, e.user = v

instance (v : UserId) (u : User) : Decidable (u.Knows v) :=
  inferInstanceAs (Decidable (∃ e ∈ u.friends.elems, _))

/-! ## What a write does to the friends -/

section Writes

variable {u : User} {v friend : UserId}

theorem knows_union {type : FriendType} :
    ({ u with friends := u.friends.union { type, user := friend } } : User).Knows v ↔
      u.Knows v ∨ friend = v := by
  unfold User.Knows
  simp only [Stored.elems_union, mem_arrayUnion]
  constructor
  · rintro ⟨e, listed | rfl, rfl⟩
    · exact .inl ⟨e, listed, rfl⟩
    · exact .inr rfl
  · rintro (⟨e, listed, rfl⟩ | rfl)
    · exact ⟨e, .inl listed, rfl⟩
    · exact ⟨_, .inr rfl, rfl⟩

theorem knows_accept : (u.accept friend).Knows v ↔ u.Knows v ∨ friend = v := by
  unfold User.accept
  split
  case isTrue known =>
    constructor
    · exact .inl
    · rintro (knows | rfl)
      · exact knows
      · exact known
  case isFalse => exact knows_union

/-- The write puts the other one into the friends. -/
def UserWrite.Befriends (v : UserId) : UserWrite → Prop
  | .addConnexion friend => friend = v
  | .befriend friend => friend = v
  | .accept friend => friend = v
  | .setFriends friends => ∃ e ∈ friends, e.user = v
  | _ => False

theorem UserWrite.knows {w : UserWrite} (knows : (w.write u).Knows v) :
    u.Knows v ∨ w.Befriends v := by
  cases w with
  | addConnexion friend => exact knows_union.mp knows
  | befriend friend => exact knows_union.mp knows
  | accept friend => exact knows_accept.mp knows
  | setFriends friends => exact .inr knows
  | _ => exact .inl knows

/-- A friend is lost to a list without it only. -/
theorem UserWrite.forgets {w : UserWrite} (knows : u.Knows v) (forgets : ¬ (w.write u).Knows v) :
    ∃ friends, w = .setFriends friends ∧ ∀ e ∈ friends, e.user ≠ v := by
  cases w with
  | addConnexion friend => exact absurd (knows_union.mpr (.inl knows)) forgets
  | befriend friend => exact absurd (knows_union.mpr (.inl knows)) forgets
  | accept friend => exact absurd (knows_accept.mpr (.inl knows)) forgets
  | setFriends friends => exact ⟨friends, rfl, fun e listed same => forgets ⟨e, listed, same⟩⟩
  | _ => exact absurd knows forgets

end Writes

/-! ## Which call it was -/

/-- The call stores a list for `u` that the app holds, with `v` in it or not. -/
def Call.Stores (u : UserId) (P : List Friend → Prop) : Call → Prop
  | .app (.addToFirstCircle userId friends _) => userId = u ∧ P friends
  | _ => False

section Life

variable {ι : Type} [DecidableEq ι] {s : Store} {calls : ι → Call} {schedule : List ι}
  {u v : UserId} {data : User}

theorem Friend.user_promote (ids : List UserId) (item : Friend) :
    (item.promote ids).user = item.user := by
  unfold Friend.promote
  split
  · rfl
  · rfl

theorem knows_cause (before : ∀ data, s.user u = some data → ¬ data.Knows v)
    (found : (s.after calls schedule).user u = some data) (knows : data.Knows v) :
    ∃ i ∈ schedule, (calls i).Befriends u v ∨
      (calls i).Stores u fun friends => ∃ e ∈ friends, e.user = v := by
  rcases user_cause before found knows with ⟨i, listed, turns | ⟨-, empty⟩⟩
  · refine ⟨i, listed, ?_⟩
    rcases turns with ⟨write, writes, data, was, now⟩
    have befriends := (UserWrite.knows now).resolve_left was
    cases write with
    | addConnexion friend =>
        cases befriends
        exact .inl writes
    | befriend friend =>
        cases befriends
        exact .inl writes
    | accept friend =>
        cases befriends
        exact .inl writes
    | setFriends friends =>
        rcases writes with ⟨held, ids, call, rfl⟩
        rcases befriends with ⟨e, promoted, same⟩
        rcases List.mem_map.mp promoted with ⟨item, inList, rfl⟩
        rw [call]
        exact .inr ⟨rfl, item, inList, (item.user_promote ids).symm.trans same⟩
    | _ => cases befriends
  · rcases empty with ⟨_, listed, -⟩
    cases listed

theorem forgets_cause (before : ∀ data, s.user u = some data → data.Knows v)
    (found : (s.after calls schedule).user u = some data) (forgets : ¬ data.Knows v) :
    ∃ i ∈ schedule, calls i = .app (.signUp u) ∨
      (calls i).Stores u fun friends => ∀ e ∈ friends, e.user ≠ v := by
  rcases user_cause (Q := fun data => ¬ data.Knows v)
    (fun data found => not_not.mpr (before data found)) found forgets with
    ⟨i, listed, turns | ⟨call, -⟩⟩
  · refine ⟨i, listed, .inr ?_⟩
    rcases turns with ⟨write, writes, data, was, now⟩
    rcases UserWrite.forgets (not_not.mp was) now with ⟨friends, rfl, absent⟩
    rcases writes with ⟨held, ids, call, rfl⟩
    rw [call]
    refine ⟨rfl, fun item inList same => ?_⟩
    exact absent _ (List.mem_map_of_mem inList) ((item.user_promote ids).trans same)
  · exact ⟨i, listed, .inl call⟩

/-- What happens to the place of `v` among the friends of `u`, while any calls run in any
order. -/
structure FriendshipLife (s : Store) (calls : ι → Call) (schedule : List ι) (u v : UserId) :
    Prop where
  /-- It is gained through a call that makes friends of the two, or a list that has it. -/
  gained : (∀ data, s.user u = some data → ¬ data.Knows v) →
    ∀ data, (s.after calls schedule).user u = some data → data.Knows v →
      ∃ i ∈ schedule, (calls i).Befriends u v ∨
        (calls i).Stores u fun friends => ∃ e ∈ friends, e.user = v
  /-- It is lost to a list without it only, or with the whole document. -/
  lost : (∀ data, s.user u = some data → data.Knows v) →
    ∀ data, (s.after calls schedule).user u = some data → ¬ data.Knows v →
      ∃ i ∈ schedule, calls i = .app (.signUp u) ∨
        (calls i).Stores u fun friends => ∀ e ∈ friends, e.user ≠ v

theorem friendship_life (s : Store) (calls : ι → Call) (schedule : List ι) (u v : UserId) :
    FriendshipLife s calls schedule u v where
  gained := fun before _ => knows_cause before
  lost := fun before _ => forgets_cause before

end Life

end TwoGather
