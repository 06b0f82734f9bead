import Mathlib.Data.Finset.Card

/-!
# Samples of a bounded query

A query with a bound returns some of the elements that it matches: all of them, if the bound
allows it, and else as many as it allows, whichever they are (`Sample`). A search that keeps
the elements of the sample with a property, and promises those nearest among all that have
it, is right for every sample only in three cases (`nearest_of_samples_iff`): the sample is
everything, or nothing has the property, or everything that is matched has it and is at one
distance.
-/

namespace Samples

variable {α β : Type} {k : Nat} {l r s : List α} {a b : α}

/-- At most `k` elements of the list, and fewer only if it has not more. -/
structure Sample (k : Nat) (l s : List α) : Prop where
  nodup : s.Nodup
  subset : s ⊆ l
  length : s.length = min k l.length

/-- `r` has elements of `l` with the property, without duplicates: all of them if there are at
most `k`, and else `k` with the least distances. -/
structure Nearest [LE β] (k : Nat) (distance : α → β) (P : α → Prop) [DecidablePred P]
    (l r : List α) : Prop where
  sound : ∀ a ∈ r, a ∈ l ∧ P a
  distinct : r.Nodup
  all : (l.filter P).length ≤ k → ∀ a ∈ l, P a → a ∈ r
  nearest : k < (l.filter P).length →
    r.length = k ∧ ∀ a ∈ r, ∀ b ∈ l, P b → b ∉ r → distance a ≤ distance b

/-- A sample that the bound does not cut is everything. -/
theorem Sample.all (sample : Sample k l s) (within : l.length ≤ k) (listed : a ∈ l) : a ∈ s := by
  have length : l.length ≤ s.length := sample.length.ge.trans' (le_min within le_rfl)
  exact ((sample.nodup.subperm sample.subset).perm_of_length_le length).mem_iff.mpr listed

/-- Where the bound cuts, it may leave out any element and take any other one. -/
theorem exists_sample (nodup : l.Nodup) (listedA : a ∈ l) (listedB : b ∈ l) (distinct : a ≠ b)
    (pos : 1 ≤ k) (cuts : k < l.length) : ∃ s, Sample k l s ∧ a ∉ s ∧ b ∈ s := by
  classical
  have listedB' : b ∈ l.erase a := (List.mem_erase_of_ne distinct.symm).mpr listedB
  let others := (l.erase a).erase b
  have nodup' : others.Nodup := (nodup.erase a).erase b
  have others_sub : others ⊆ l := fun x listed =>
    List.mem_of_mem_erase (List.mem_of_mem_erase listed)
  have absentB : b ∉ others := (nodup.erase a).not_mem_erase
  have absentA : a ∉ others := fun listed => nodup.not_mem_erase (List.mem_of_mem_erase listed)
  have length : others.length = l.length - 1 - 1 := by
    rw [List.length_erase_of_mem listedB', List.length_erase_of_mem listedA]
  refine ⟨b :: others.take (k - 1), ⟨?_, ?_, ?_⟩, ?_, List.mem_cons_self⟩
  · exact (nodup'.sublist (List.take_sublist _ _)).cons fun taken =>
      absentB (List.mem_of_mem_take taken)
  · exact List.cons_subset.mpr ⟨listedB, fun x taken => others_sub (List.mem_of_mem_take taken)⟩
  · rw [List.length_cons, List.length_take, length]
    omega
  · rw [List.mem_cons]
    rintro (same | taken)
    · exact distinct same
    · exact absentA (List.mem_of_mem_take taken)

section Filter

variable [LinearOrder β] {distance : α → β} {P : α → Prop} [DecidablePred P]

/-- What a search finds is right in any order. -/
theorem Nearest.perm {r' : List α} (nearest : Nearest k distance P l r) (perm : r'.Perm r) :
    Nearest k distance P l r' := by
  obtain ⟨sound, distinct, all, best⟩ := nearest
  refine ⟨fun a listed => sound a (perm.mem_iff.mp listed), perm.nodup_iff.mpr distinct,
    fun few a listed has => perm.mem_iff.mpr (all few a listed has), fun many => ?_⟩
  obtain ⟨length, least⟩ := best many
  refine ⟨perm.length_eq.trans length, fun a listed b found has absent => ?_⟩
  exact least a (perm.mem_iff.mp listed) b found has fun listed => absent (perm.mem_iff.mpr listed)

omit [LinearOrder β] in
/-- What a sample has with the property is from the list, without duplicates. -/
theorem Sample.filter (sample : Sample k l s) :
    (∀ a ∈ s.filter P, a ∈ l ∧ P a) ∧ (s.filter P).Nodup := by
  refine ⟨fun a listed => ?_, sample.nodup.filter _⟩
  obtain ⟨taken, has⟩ := List.mem_filter.mp listed
  exact ⟨sample.subset taken, of_decide_eq_true has⟩

omit [LinearOrder β] in
/-- Only the elements with the property count. -/
theorem Nearest.congr [LE β] {l' : List α} (nearest : Nearest k distance P l r)
    (same : l.filter P = l'.filter P) : Nearest k distance P l' r := by
  have mem : ∀ a, a ∈ l ∧ P a ↔ a ∈ l' ∧ P a := by
    intro a
    have member : a ∈ l.filter P ↔ a ∈ l'.filter P := by rw [same]
    simpa only [List.mem_filter, decide_eq_true_iff] using member
  obtain ⟨sound, distinct, all, best⟩ := nearest
  rw [same] at all best
  refine ⟨fun a found => (mem a).mp (sound a found), distinct, fun few a listed has => ?_,
    fun many => ?_⟩
  · exact all few a ((mem a).mpr ⟨listed, has⟩).1 has
  · obtain ⟨length, least⟩ := best many
    refine ⟨length, fun a found b listed has => ?_⟩
    exact least a found b ((mem b).mpr ⟨listed, has⟩).1 has

omit [LinearOrder β] in
/-- Elements without the property may be left out of the list. -/
theorem nearest_filter_iff [LE β] {M : α → Prop} [DecidablePred M]
    (meets : ∀ a ∈ l, P a → M a) :
    Nearest k distance P (l.filter M) r ↔ Nearest k distance P l r := by
  have same : (l.filter M).filter P = l.filter P := by
    rw [List.filter_filter]
    refine List.filter_congr fun a listed => ?_
    by_cases has : P a
    · simp [has, meets a listed has]
    · simp [has]
  exact ⟨fun nearest => nearest.congr same, fun nearest => nearest.congr same.symm⟩

omit [LinearOrder β] in
theorem filter_of_all (everything : ∀ a ∈ l, P a) : l.filter P = l :=
  List.filter_eq_self.mpr fun a listed => decide_eq_true (everything a listed)

/-- The bound does not cut. -/
theorem Sample.nearest_of_uncut (sample : Sample k l s) (uncut : l.length ≤ k) :
    Nearest k distance P l (s.filter P) := by
  obtain ⟨sound, distinct⟩ := sample.filter (P := P)
  refine ⟨sound, distinct, fun _ a listed has => ?_, fun many => ?_⟩
  · exact List.mem_filter.mpr ⟨sample.all uncut listed, decide_eq_true has⟩
  · exact absurd (many.trans_le (List.length_filter_le _ _)) uncut.not_gt

/-- Nothing is to be found. -/
theorem Sample.nearest_of_nothing (sample : Sample k l s) (nothing : ∀ a ∈ l, ¬ P a) :
    Nearest k distance P l (s.filter P) := by
  obtain ⟨sound, distinct⟩ := sample.filter (P := P)
  refine ⟨sound, distinct, fun _ a listed has => absurd has (nothing a listed), fun many => ?_⟩
  have none : l.filter P = [] :=
    List.filter_eq_nil_iff.mpr fun a listed => by simpa using nothing a listed
  rw [none] at many
  exact absurd many (Nat.not_lt_zero _)

/-- Whatever is taken is as near as the rest. -/
theorem Sample.nearest_of_equal (sample : Sample k l s) (everything : ∀ a ∈ l, P a)
    (equal : ∀ a ∈ l, ∀ b ∈ l, distance a = distance b) :
    Nearest k distance P l (s.filter P) := by
  obtain ⟨sound, distinct⟩ := sample.filter (P := P)
  have whole : s.filter P = s := filter_of_all fun a taken => everything a (sample.subset taken)
  refine ⟨sound, distinct, fun few a listed has => ?_, fun many => ?_⟩
  · rw [filter_of_all everything] at few
    rw [whole]
    exact sample.all few listed
  · rw [filter_of_all everything] at many
    rw [whole, sample.length]
    refine ⟨min_eq_left many.le, fun a taken b listed _ _ => ?_⟩
    exact (equal a (sample.subset taken) b listed).le

/-- All elements have the property: a sample may leave out the nearer one of two. -/
theorem exists_sample_farther (nodup : l.Nodup) (pos : 1 ≤ k) (cuts : k < l.length)
    (everything : ∀ a ∈ l, P a) (listedA : a ∈ l) (listedB : b ∈ l)
    (less : distance a < distance b) :
    ∃ s, Sample k l s ∧ ¬ Nearest k distance P l (s.filter P) := by
  have distinct : a ≠ b := fun same => less.ne (congrArg distance same)
  obtain ⟨s, sample, without, taken⟩ := exists_sample nodup listedA listedB distinct pos cuts
  refine ⟨s, sample, fun nearest => ?_⟩
  have many : k < (l.filter P).length := by rwa [filter_of_all everything]
  have found : b ∈ s.filter P :=
    List.mem_filter.mpr ⟨taken, decide_eq_true (everything b listedB)⟩
  have missed : a ∉ s.filter P := fun listed => without (List.mem_of_mem_filter listed)
  have least := (nearest.nearest many).2 b found a listedA (everything a listedA) missed
  exact absurd least less.not_ge

/-- A sample may take an element without the property, and leave out one that has it. -/
theorem exists_sample_outside (nodup : l.Nodup) (pos : 1 ≤ k) (cuts : k < l.length)
    (listedA : a ∈ l) (has : P a) (listedB : b ∈ l) (hasNot : ¬ P b) :
    ∃ s, Sample k l s ∧ ¬ Nearest k distance P l (s.filter P) := by
  have distinct : a ≠ b := fun same => hasNot (same ▸ has)
  obtain ⟨s, sample, without, taken⟩ := exists_sample nodup listedA listedB distinct pos cuts
  refine ⟨s, sample, fun nearest => ?_⟩
  by_cases few : (l.filter P).length ≤ k
  · exact without (List.mem_of_mem_filter (nearest.all few a listedA has))
  · have length := (nearest.nearest (not_le.mp few)).1
    have fewer : (s.filter P).length < s.length :=
      List.length_filter_lt_length_iff_exists.mpr ⟨b, taken, by simpa using hasNot⟩
    have size := sample.length
    omega

/-- **Filtering a sample finds the nearest elements, whatever sample it is, if and only if the
bound does not cut, or no element has the property, or all have it and are at one
distance.** -/
theorem nearest_of_samples_iff (nodup : l.Nodup) (pos : 1 ≤ k) :
    (∀ s, Sample k l s → Nearest k distance P l (s.filter P)) ↔
      l.length ≤ k ∨ (∀ a ∈ l, ¬ P a) ∨
        ((∀ a ∈ l, P a) ∧ ∀ a ∈ l, ∀ b ∈ l, distance a = distance b) := by
  constructor
  · intro right
    by_contra! fails
    obtain ⟨cuts, ⟨a, listedA, has⟩, differ⟩ := fails
    by_cases everything : ∀ a ∈ l, P a
    · obtain ⟨x, listedX, y, listedY, unequal⟩ := differ everything
      rcases lt_or_gt_of_ne unequal with less | less
      · obtain ⟨s, sample, wrong⟩ :=
          exists_sample_farther nodup pos cuts everything listedX listedY less
        exact wrong (right s sample)
      · obtain ⟨s, sample, wrong⟩ :=
          exists_sample_farther nodup pos cuts everything listedY listedX less
        exact wrong (right s sample)
    · push Not at everything
      obtain ⟨b, listedB, hasNot⟩ := everything
      obtain ⟨s, sample, wrong⟩ : ∃ s, Sample k l s ∧ ¬ Nearest k distance P l (s.filter P) :=
        exists_sample_outside nodup pos cuts listedA has listedB hasNot
      exact wrong (right s sample)
  · rintro (uncut | nothing | ⟨everything, equal⟩) s sample
    · exact sample.nearest_of_uncut uncut
    · exact sample.nearest_of_nothing nothing
    · exact sample.nearest_of_equal everything equal

end Filter

end Samples
