import Mathlib.Tactic.ByContra
import TwoGather.Lib.Docs

/-!
# Entries that have persons

An array of entries, each of which has some persons, that is changed by removing one entry
and adding another, compared as whole elements.

* `apart_exchange_iff`: when no person is in two entries before, none is after, exactly
  when the new entry shares nobody with the entries that stay.
* `total_arrayUnion`, `total_arrayRemove`: what the writes do to a sum over the entries.
-/

namespace Docs

namespace Entries

variable {α ι : Type}

section Apart

variable (Has : α → ι → Prop)

/-- The two entries have somebody in common. -/
def Meet (x y : α) : Prop :=
  ∃ i, Has x i ∧ Has y i

/-- Nobody is in more than one entry. -/
def Apart [∀ x i, Decidable (Has x i)] (xs : List α) : Prop :=
  ∀ i, xs.countP (fun x => Has x i) ≤ 1

variable {Has} [∀ x i, Decidable (Has x i)] {xs ys : List α} {x y : α}

theorem Apart.sublist (apart : Apart Has ys) (shorter : xs.Sublist ys) : Apart Has xs :=
  fun i => Nat.le_trans shorter.countP_le (apart i)

/-- Two entries of the array that have somebody in common are the same. -/
theorem Apart.eq_of_meet (apart : Apart Has xs) (left : x ∈ xs) (right : y ∈ xs)
    (meet : Meet Has x y) : x = y := by
  rcases meet with ⟨i, hasLeft, hasRight⟩
  have short := apart i
  rw [List.countP_eq_length_filter] at short
  have inLeft : x ∈ xs.filter fun z => Has z i := by simp [left, hasLeft]
  have inRight : y ∈ xs.filter fun z => Has z i := by simp [right, hasRight]
  match only : xs.filter fun z => Has z i with
  | [] => simp [only] at inLeft
  | [z] =>
      rw [only, List.mem_singleton] at inLeft inRight
      rw [inLeft, inRight]
  | _ :: _ :: _ => simp [only] at short

/-- A new entry that meets none of the others keeps everybody in one entry at most. -/
theorem Apart.append (apart : Apart Has xs) (alone : ∀ y ∈ xs, ¬ Meet Has y x) :
    Apart Has (xs ++ [x]) := by
  intro i
  rw [List.countP_append, List.countP_singleton]
  split
  case isTrue has =>
    have none : xs.countP (fun z => Has z i) = 0 := by
      rw [List.countP_eq_zero]
      intro y listed hasToo
      exact alone y listed ⟨i, of_decide_eq_true hasToo, of_decide_eq_true has⟩
    omega
  case isFalse => exact apart i

end Apart

section Total

/-! ## Sums over the entries -/

/-- The sum of the weights of the entries. -/
def total (w : α → Nat) : List α → Nat
  | [] => 0
  | x :: xs => w x + total w xs

theorem total_append_singleton (w : α → Nat) (xs : List α) (x : α) :
    total w (xs ++ [x]) = total w xs + w x := by
  induction xs with
  | nil => simp [total]
  | cons y xs ih => rw [List.cons_append, total, total, ih, Nat.add_assoc]

end Total

section Exchange

variable [DecidableEq α]

/-- Take an entry out and put one in; either may be missing. -/
def exchange (old new : Option α) (xs : List α) : List α :=
  let kept := match old with
    | some x => arrayRemove xs x
    | none => xs
  match new with
  | some x => arrayUnion kept x
  | none => kept

variable {Has : α → ι → Prop} [∀ x i, Decidable (Has x i)] {xs : List α} {x : α} {w : α → Nat}

theorem Apart.arrayRemove (apart : Apart Has xs) (x : α) : Apart Has (arrayRemove xs x) :=
  apart.sublist List.filter_sublist

theorem apart_arrayUnion_iff (apart : Apart Has xs) :
    Apart Has (arrayUnion xs x) ↔ ∀ y ∈ xs, y ≠ x → ¬ Meet Has y x := by
  constructor
  · intro after y listed differ meet
    exact differ (after.eq_of_meet (mem_arrayUnion.mpr (.inl listed))
      (mem_arrayUnion.mpr (.inr rfl)) meet)
  · intro alone
    unfold arrayUnion
    split
    case isTrue => exact apart
    case isFalse absent =>
      apply apart.append
      intro y listed
      apply alone y listed
      intro same
      exact absent (same ▸ listed)

/-- **An exchange keeps everybody in one entry at most exactly when the new entry meets none of
those that stay.** -/
theorem apart_exchange_iff (apart : Apart Has xs) (old new : Option α) :
    Apart Has (exchange old new xs) ↔
      ∀ x ∈ new, ∀ y ∈ xs, some y ≠ old → y ≠ x → ¬ Meet Has y x := by
  cases new with
  | none =>
      simp only [exchange, Option.mem_def, reduceCtorEq, false_implies, implies_true, iff_true]
      cases old with
      | none => exact apart
      | some x => exact apart.arrayRemove x
  | some x =>
      simp only [exchange, Option.mem_def, Option.some.injEq, forall_eq']
      cases old with
      | none =>
          rw [apart_arrayUnion_iff apart]
          simp
      | some z =>
          rw [apart_arrayUnion_iff (apart.arrayRemove z)]
          simp only [mem_arrayRemove, and_imp, ne_eq, Option.some.injEq]

theorem total_arrayUnion (xs : List α) (x : α) :
    total w (arrayUnion xs x) = total w xs + if x ∈ xs then 0 else w x := by
  unfold arrayUnion
  split
  · rfl
  · exact total_append_singleton w xs x

/-- A removal makes no sum larger. -/
theorem total_arrayRemove (xs : List α) (x : α) : total w (arrayRemove xs x) ≤ total w xs := by
  unfold arrayRemove
  induction xs with
  | nil => exact Nat.le_refl _
  | cons y xs ih =>
      rw [List.filter_cons, total]
      split
      · rw [total]
        omega
      · omega

end Exchange

end Entries

end Docs
