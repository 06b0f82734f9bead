import Mathlib.Data.List.Forall2
import Mathlib.Data.List.Sort
import Mathlib.Data.Set.Basic

/-!
# Sorts that are given a comparator

A comparator says by the sign of a number which of two elements comes first. A sort of a
standard library promises an order only for a comparator that is `Consistent` on the elements of
the list (`IsSort`). Where it is, the sorted list is the same up to ties whatever the order at
first (`IsSort.tied`).
-/

namespace Comparators

variable {α : Type} {compare : α → α → Int} {l l' sorted sorted' : List α}

/-- What a sort asks of a comparator, on the elements of a list. -/
structure Consistent (compare : α → α → Int) (l : List α) : Prop where
  reflexive : ∀ a ∈ l, compare a a = 0
  antisymmetric : ∀ a ∈ l, ∀ b ∈ l, (compare a b).sign = -(compare b a).sign
  transitive : ∀ a ∈ l, ∀ b ∈ l, ∀ c ∈ l, compare a b ≤ 0 → compare b c ≤ 0 → compare a c ≤ 0

/-- A sort by a comparator. It need not be stable. -/
structure IsSort (sort : (α → α → Int) → List α → List α) : Prop where
  perm : ∀ compare l, (sort compare l).Perm l
  ordered : ∀ compare l, Consistent compare l →
    (sort compare l).Pairwise fun a b => compare a b ≤ 0

/-- The two lists differ in elements of equal rank only. -/
def Tied (compare : α → α → Int) (l l' : List α) : Prop :=
  List.Forall₂ (fun a b => compare a b = 0) l l'

namespace Consistent

theorem of_perm (perm : l'.Perm l) (consistent : Consistent compare l) :
    Consistent compare l' where
  reflexive a listed := consistent.reflexive a (perm.mem_iff.mp listed)
  antisymmetric a listedA b listedB :=
    consistent.antisymmetric a (perm.mem_iff.mp listedA) b (perm.mem_iff.mp listedB)
  transitive a listedA b listedB c listedC :=
    consistent.transitive a (perm.mem_iff.mp listedA) b (perm.mem_iff.mp listedB) c
      (perm.mem_iff.mp listedC)

theorem tie_iff (consistent : Consistent compare l) {a b : α} (listedA : a ∈ l)
    (listedB : b ∈ l) : compare a b = 0 ↔ compare a b ≤ 0 ∧ compare b a ≤ 0 := by
  have signs := consistent.antisymmetric a listedA b listedB
  rcases lt_trichotomy (compare b a) 0 with below | tie | above
  · rw [Int.sign_eq_neg_one_of_neg below, Int.neg_neg, Int.sign_eq_one_iff_pos] at signs
    omega
  · rw [tie, Int.sign_zero, Int.neg_zero, Int.sign_eq_zero_iff_zero] at signs
    omega
  · rw [Int.sign_eq_one_of_pos above, Int.sign_eq_neg_one_iff_neg] at signs
    omega

end Consistent

/-! ## The rank of an element -/

/-- The elements of a list that come before an element or are of its rank. -/
def below (compare : α → α → Int) (l : List α) (a : α) : Set α :=
  {b | b ∈ l ∧ compare b a ≤ 0}

theorem below_subset_iff (consistent : Consistent compare l) {a b : α} (listedA : a ∈ l)
    (listedB : b ∈ l) : below compare l a ⊆ below compare l b ↔ compare a b ≤ 0 := by
  refine ⟨fun subset => ?_, ?_⟩
  · exact (subset ⟨listedA, (consistent.reflexive a listedA).le⟩).2
  · rintro le c ⟨listedC, before⟩
    exact ⟨listedC, consistent.transitive c listedC a listedA b listedB before le⟩

theorem below_eq_iff (consistent : Consistent compare l) {a b : α} (listedA : a ∈ l)
    (listedB : b ∈ l) : below compare l a = below compare l b ↔ compare a b = 0 := by
  rw [consistent.tie_iff listedA listedB, Set.Subset.antisymm_iff,
    below_subset_iff consistent listedA listedB, below_subset_iff consistent listedB listedA]

theorem forall₂_of_map_eq {β : Type} {f : α → β} (same : l.map f = l'.map f) :
    List.Forall₂ (fun a b => a ∈ l ∧ b ∈ l' ∧ f a = f b) l l' := by
  have equal : List.Forall₂ (fun a b => f a = f b) l l' := by
    have maps : List.Forall₂ (· = ·) (l.map f) (l'.map f) := by rw [same, List.forall₂_eq_eq_eq]
    rwa [List.forall₂_map_left_iff, List.forall₂_map_right_iff] at maps
  refine List.forall₂_iff_zip.mpr ⟨equal.length_eq, fun listed => ?_⟩
  have ⟨left, right⟩ := List.of_mem_zip listed
  exact ⟨left, right, List.forall₂_zip equal listed⟩

/-- Two lists of the same elements that are both in order differ in ties only. -/
theorem tied_of_ordered (consistent : Consistent compare l) (perm : sorted.Perm l)
    (perm' : sorted'.Perm l) (ordered : sorted.Pairwise fun a b => compare a b ≤ 0)
    (ordered' : sorted'.Pairwise fun a b => compare a b ≤ 0) : Tied compare sorted sorted' := by
  have ranks {l' : List α} (perm : l'.Perm l) (ordered : l'.Pairwise fun a b => compare a b ≤ 0) :
      (l'.map (below compare l)).Pairwise (· ⊆ ·) := by
    rw [List.pairwise_map]
    apply ordered.imp_of_mem
    intro a b listedA listedB
    exact (below_subset_iff consistent (perm.mem_iff.mp listedA) (perm.mem_iff.mp listedB)).mpr
  have same := List.Perm.eq_of_pairwise (fun _ _ _ _ => Set.Subset.antisymm)
    (ranks perm ordered) (ranks perm' ordered') ((perm.trans perm'.symm).map _)
  apply (forall₂_of_map_eq same).imp
  rintro a b ⟨listedA, listedB, equal⟩
  exact (below_eq_iff consistent (perm.mem_iff.mp listedA) (perm'.mem_iff.mp listedB)).mp equal

/-! ## Sorts -/

theorem IsSort.tied {sort : (α → α → Int) → List α → List α} (sorts : IsSort sort)
    (consistent : Consistent compare l) (perm : l'.Perm l) :
    Tied compare (sort compare l) (sort compare l') :=
  tied_of_ordered consistent (sorts.perm compare l) ((sorts.perm compare l').trans perm)
    (sorts.ordered compare l consistent) (sorts.ordered compare l' (consistent.of_perm perm))

end Comparators
