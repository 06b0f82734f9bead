import Mathlib.Logic.Function.Basic

/-!
# Partner maps

A partner map gives each element at most one partner. It is mutual when partners
name each other. Joining two elements, and separating two elements, overwrite the
two entries they are given; both leave a mutual map mutual exactly when neither
element has a partner outside the two.
-/

namespace Partners

variable {α : Type} {m : α → Option α} {a b : α}

/-- Partners name each other. -/
def Mutual (m : α → Option α) : Prop :=
  ∀ a b, m a = some b → m b = some a

/-- Nobody is its own partner. -/
def Proper (m : α → Option α) : Prop :=
  ∀ a, m a ≠ some a

/-- `a` has no partner, or has the partner `b`. -/
def FreeFor (m : α → Option α) (a b : α) : Prop :=
  m a = none ∨ m a = some b

/-- In a mutual map nobody is the partner of two elements. -/
theorem Mutual.unique (sym : Mutual m) {a a' b : α} (left : m a = some b)
    (right : m a' = some b) : a = a' :=
  Option.some.inj ((sym a b left).symm.trans (sym a' b right))

/-- A partner outside the two still names the element that forgot it. -/
theorem Mutual.outside (sym : Mutual m) (proper : Proper m) {c : α}
    (partner : m a = some c) (other : c ≠ b) {m' : α → Option α}
    (kept : ∀ d, d ≠ a → d ≠ b → m' d = m d) (sym' : Mutual m') : m' a = some c := by
  have self : c ≠ a := fun same => proper a (same ▸ partner)
  have back : m' c = some a := (kept c self other).trans (sym a c partner)
  exact sym' c a back

/-- If overwriting entries `a` and `b` left the map mutual and `a` free for `b`, then `a`
was free for `b` before. -/
theorem FreeFor.of_mutual (sym : Mutual m) (proper : Proper m) {m' : α → Option α}
    (sym' : Mutual m') (kept : ∀ d, d ≠ a → d ≠ b → m' d = m d) (now : FreeFor m' a b) :
    FreeFor m a b := by
  rcases partner : m a with _ | c
  · exact .inl partner
  · by_cases other : c = b
    · exact .inr (other ▸ partner)
    · have forgotten := sym.outside proper partner other kept sym'
      rcases now with none | some
      · rw [none] at forgotten
        cases forgotten
      · rw [some] at forgotten
        exact absurd (Option.some.inj forgotten).symm other

/-- Who has another partner is not one of the two. -/
theorem FreeFor.ne_of_partner {c d : α} (free : FreeFor m a b) (partner : m d = some c)
    (other : c ≠ b) : d ≠ a := by
  rintro rfl
  rcases free with none | some
  · rw [none] at partner
    cases partner
  · rw [some] at partner
    exact other (Option.some.inj partner).symm

section Writes

variable [DecidableEq α]

instance (m : α → Option α) (a b : α) : Decidable (FreeFor m a b) :=
  inferInstanceAs (Decidable (_ ∨ _))

/-- Make `a` and `b` partners, whatever they were before. -/
def join (m : α → Option α) (a b : α) : α → Option α :=
  Function.update (Function.update m a (some b)) b (some a)

/-- Leave `a` and `b` without partner, whatever they were before. -/
def separate (m : α → Option α) (a b : α) : α → Option α :=
  Function.update (Function.update m a none) b none

theorem join_apply (m : α → Option α) (a b c : α) :
    join m a b c = if c = b then some a else if c = a then some b else m c := by
  simp only [join, Function.update_apply]

theorem separate_apply (m : α → Option α) (a b c : α) :
    separate m a b c = if c = b then none else if c = a then none else m c := by
  simp only [separate, Function.update_apply]

theorem mutual_join_iff (sym : Mutual m) (proper : Proper m) (distinct : a ≠ b) :
    Mutual (join m a b) ↔ FreeFor m a b ∧ FreeFor m b a := by
  constructor
  · intro joined
    refine ⟨.of_mutual sym proper joined ?_ ?_, .of_mutual sym proper joined ?_ ?_⟩
    · intro d notA notB
      simp [join_apply, notA, notB]
    · right
      simp [join_apply, distinct]
    · intro d notB notA
      simp [join_apply, notA, notB]
    · right
      simp [join_apply]
  · intro both c d partner
    rcases both with ⟨freeA, freeB⟩
    rw [join_apply] at partner ⊢
    by_cases cb : c = b
    · subst cb
      rw [if_pos rfl] at partner
      cases partner
      simp [distinct]
    · by_cases ca : c = a
      · subst ca
        rw [if_neg cb, if_pos rfl] at partner
        cases partner
        simp
      · rw [if_neg cb, if_neg ca] at partner
        have back := sym c d partner
        rw [if_neg (freeB.ne_of_partner back ca), if_neg (freeA.ne_of_partner back cb)]
        exact back

theorem mutual_separate_iff (sym : Mutual m) (proper : Proper m) :
    Mutual (separate m a b) ↔ FreeFor m a b ∧ FreeFor m b a := by
  constructor
  · intro separated
    refine ⟨.of_mutual sym proper separated ?_ ?_, .of_mutual sym proper separated ?_ ?_⟩
    · intro d notA notB
      simp [separate_apply, notA, notB]
    · left
      simp [separate_apply]
    · intro d notB notA
      simp [separate_apply, notA, notB]
    · left
      simp [separate_apply]
  · intro both c d partner
    rcases both with ⟨freeA, freeB⟩
    rw [separate_apply] at partner ⊢
    by_cases cb : c = b
    · simp [cb] at partner
    · by_cases ca : c = a
      · simp [ca] at partner
      · rw [if_neg cb, if_neg ca] at partner
        have back := sym c d partner
        rw [if_neg (freeB.ne_of_partner back ca), if_neg (freeA.ne_of_partner back cb)]
        exact back

/-- A one-sided entry is mutual exactly when the other side was there. -/
theorem mutual_update_iff (sym : Mutual m) (distinct : a ≠ b) :
    Mutual (Function.update m a (some b)) ↔ m a = some b := by
  constructor
  · intro updated
    have back := updated a b (Function.update_self ..)
    rw [Function.update_of_ne distinct.symm] at back
    exact sym b a back
  · intro partner
    rw [← partner, Function.update_eq_self]
    exact sym

end Writes

end Partners
