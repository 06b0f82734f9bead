import Mathlib

/-!
# Rankings

A sort by descending score gives a permutation in which no element has a lower score than a
later one. Which of two equal scores comes first is left open, as it is for a sort that need
not be stable: `Sorts` is all that such a sort promises.

`R a b` says that `a` ought to come before `b`. A list that `Respects R` has no such pair in
the wrong order. Every sort of a list respects `R` exactly when the scores of each pair
differ in the right way (`sorts_respects_iff`): where they are equal, some sort has the pair
the wrong way round.
-/

namespace Ranking

variable {α β γ : Type} [LinearOrder β]

/-- `ranked` has the elements of `l`, the best ones first. -/
structure Ranks (score : α → β) (l ranked : List α) : Prop where
  perm : ranked.Perm l
  sorted : ranked.Pairwise fun a b => score b ≤ score a

/-- A function that sorts by descending score. -/
def Sorts (score : α → β) (sort : List α → List α) : Prop :=
  ∀ l, Ranks score l (sort l)

/-- No pair of the relation stands in the list the wrong way round. -/
def Respects (R : α → α → Prop) (l : List α) : Prop :=
  l.Pairwise fun a b => ¬ R b a

/-- Descending by score. -/
def atLeast (score : α → β) (a b : α) : Bool :=
  decide (score b ≤ score a)

section Sorting

variable {score : α → β}

theorem atLeast_trans (a b c : α) (first : atLeast score a b) (second : atLeast score b c) :
    atLeast score a c :=
  decide_eq_true (le_trans (of_decide_eq_true second) (of_decide_eq_true first))

theorem atLeast_total (a b : α) : atLeast score a b || atLeast score b a := by
  rcases le_total (score b) (score a) with less | less
  · simp [atLeast, less]
  · simp [atLeast, less]

variable (score) in
/-- Sorting a permutation of the list is a sort, whatever permutation is taken. -/
theorem sorts_mergeSort {before : List α → List α} (perm : ∀ l, (before l).Perm l) :
    Sorts score fun l => (before l).mergeSort (atLeast score) := by
  intro l
  refine ⟨(List.mergeSort_perm _ _).trans (perm l), ?_⟩
  exact (List.pairwise_mergeSort atLeast_trans atLeast_total _).imp of_decide_eq_true

/-- A ranking of the cards of some elements ranks these elements. -/
theorem Ranks.back {score : γ → β} {card : α → γ} {back : γ → α} (left : ∀ a, back (card a) = a)
    {l : List α} {ranked : List γ} (ranks : Ranks score (l.map card) ranked) :
    Ranks (fun a => score (card a)) l (ranked.map back) := by
  have same : back ∘ card = id := funext left
  refine ⟨?_, ?_⟩
  · have perm := ranks.perm.map back
    rwa [List.map_map, same, List.map_id] at perm
  · rw [List.pairwise_map]
    apply ranks.sorted.imp_of_mem
    intro x y listedX listedY notAbove
    obtain ⟨a, -, rfl⟩ := List.mem_map.mp (ranks.perm.mem_iff.mp listedX)
    obtain ⟨b, -, rfl⟩ := List.mem_map.mp (ranks.perm.mem_iff.mp listedY)
    rwa [left, left]

theorem Respects.map {f : γ → α} {R : α → α → Prop} {l : List γ} :
    Respects R (l.map f) ↔ Respects (fun a b => R (f a) (f b)) l :=
  List.pairwise_map

theorem Ranks.respects {R : α → α → Prop} {l ranked : List α} (ranks : Ranks score l ranked)
    (above : ∀ a ∈ l, ∀ b ∈ l, R a b → score b < score a) : Respects R ranked := by
  apply ranks.sorted.imp_of_mem
  intro b a listedB listedA notBelow related
  have less := above a (ranks.perm.mem_iff.mp listedA) b (ranks.perm.mem_iff.mp listedB) related
  exact absurd less (not_lt.mpr notBelow)

open Classical in
/-- The list with every copy of `b` in front. -/
noncomputable def bring (b : α) (l : List α) : List α :=
  l.filter (· = b) ++ l.filter (¬ · = b)

theorem bring_perm (b : α) (l : List α) : (bring b l).Perm l := by
  classical
  unfold bring
  have split := List.filter_append_perm (fun a => decide (a = b)) l
  simpa using split

theorem pair_bring {a b : α} {l : List α} (listedA : a ∈ l) (listedB : b ∈ l) (distinct : a ≠ b) :
    [b, a].Sublist (bring b l) := by
  classical
  unfold bring
  have first : [b].Sublist (l.filter (· = b)) := by simp [listedB]
  have second : [a].Sublist (l.filter (¬ · = b)) := by simp [listedA, distinct]
  exact first.append second

/-- A sort may put an element in front of any other one that does not have a better score. -/
theorem exists_sorts {l : List α} {a b : α} (listedA : a ∈ l) (listedB : b ∈ l) (distinct : a ≠ b)
    (notAbove : score a ≤ score b) : ∃ sort, Sorts score sort ∧ [b, a].Sublist (sort l) := by
  refine ⟨_, sorts_mergeSort score (bring_perm b), ?_⟩
  exact List.pair_sublist_mergeSort atLeast_trans atLeast_total (decide_eq_true notAbove)
    (pair_bring listedA listedB distinct)

/-- **Every sort respects a relation exactly when each related pair has its scores in this
order, strictly.** -/
theorem sorts_respects_iff {R : α → α → Prop} (irrefl : ∀ a, ¬ R a a) {l : List α} :
    (∀ sort, Sorts score sort → Respects R (sort l)) ↔
      ∀ a ∈ l, ∀ b ∈ l, R a b → score b < score a := by
  constructor
  · intro all a listedA b listedB related
    by_contra notLess
    have distinct : a ≠ b := by
      intro same
      subst same
      exact irrefl a related
    obtain ⟨sort, sorts, wrong⟩ := exists_sorts listedA listedB distinct (not_lt.mp notLess)
    exact List.pairwise_iff_forall_sublist.mp (all sort sorts) wrong related
  · intro above sort sorts
    exact (sorts l).respects above

/-- The same for elements that are sorted by cards. -/
theorem sorts_back_respects_iff {score : γ → β} {card : α → γ} {back : γ → α}
    (left : ∀ a, back (card a) = a) {R : α → α → Prop} (irrefl : ∀ a, ¬ R a a) {l : List α} :
    (∀ sort, Sorts score sort → Respects R ((sort (l.map card)).map back)) ↔
      ∀ a ∈ l, ∀ b ∈ l, R a b → score (card b) < score (card a) := by
  simp only [Respects.map]
  rw [sorts_respects_iff fun x => irrefl (back x)]
  simp only [List.forall_mem_map, left]

end Sorting

end Ranking
