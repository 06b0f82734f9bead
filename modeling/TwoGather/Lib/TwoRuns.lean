import TwoGather.Lib.Program

/-!
# Two runs side by side

Rules about what two programs do from stores that differ in a part that should not matter.
The stores are related by `R`, which says what they share.

* `Alike R Q p q`: the runs end both well, with results related by `Q`, or both with an
  error, and the stores they leave are related again.
* `EndAlike R p q`: the stores they leave are related, whatever the outcomes. A tail of
  requests that write nothing the relation sees may end differently (`EndAlike.of_keeps`).
-/

namespace Requests

namespace Program

variable {σ ε α β : Type}

/-- Both outcomes are errors, or both are results related by `Q`. -/
def OutcomesAlike (Q : α → β → Prop) : Except ε α → Except ε β → Prop
  | .ok a, .ok b => Q a b
  | .error _, .error _ => True
  | _, _ => False

/-- From related stores the programs end alike, with related stores. -/
def Alike (R : σ → σ → Prop) (Q : α → β → Prop) (p : Program σ ε α) (q : Program σ ε β) : Prop :=
  ∀ s t, R s t → OutcomesAlike Q (p.exec s).1 (q.exec t).1 ∧ R (p.exec s).2 (q.exec t).2

/-- From related stores the programs leave related stores. -/
def EndAlike (R : σ → σ → Prop) (p : Program σ ε α) (q : Program σ ε β) : Prop :=
  ∀ s t, R s t → R (p.exec s).2 (q.exec t).2

variable {R : σ → σ → Prop} {α' β' : Type} {Q : α → β → Prop} {Q' : α' → β' → Prop}

theorem Alike.pure {a : α} {b : β} (related : Q a b) :
    Alike R Q (pure a : Program σ ε α) (pure b) :=
  fun _ _ both => ⟨related, both⟩

theorem Alike.throw (e e' : ε) : Alike R Q (throw e) (throw e') :=
  fun _ _ both => ⟨trivial, both⟩

theorem Alike.read {f : σ → α} {g : σ → β} (related : ∀ s t, R s t → Q (f s) (g t)) :
    Alike R Q (read f : Program σ ε α) (read g) :=
  fun s t both => ⟨related s t both, both⟩

/-- The two ways in which runs end alike. -/
theorem Alike.ends {p : Program σ ε α} {q : Program σ ε β} (alike : Alike R Q p q) {s t : σ}
    (both : R s t) :
    (∃ a b s' t', p.exec s = (.ok a, s') ∧ q.exec t = (.ok b, t') ∧ Q a b ∧ R s' t') ∨
      ∃ e e' s' t', p.exec s = (.error e, s') ∧ q.exec t = (.error e', t') ∧ R s' t' := by
  have ends := alike s t both
  rcases left : p.exec s with ⟨outcome, s'⟩
  rcases right : q.exec t with ⟨outcome', t'⟩
  rw [left, right] at ends
  rcases ends with ⟨outcomes, stores⟩
  cases outcome with
  | ok a =>
      cases outcome' with
      | ok b => exact .inl ⟨a, b, s', t', rfl, rfl, outcomes, stores⟩
      | error e => cases outcomes
  | error e =>
      cases outcome' with
      | ok b => cases outcomes
      | error e' => exact .inr ⟨e, e', s', t', rfl, rfl, stores⟩

theorem Alike.bind {p : Program σ ε α} {q : Program σ ε β} {k : α → Program σ ε α'}
    {l : β → Program σ ε β'} (first : Alike R Q p q)
    (rest : ∀ a b, Q a b → Alike R Q' (k a) (l b)) : Alike R Q' (p >>= k) (q >>= l) := by
  intro s t both
  rw [exec_bind, exec_bind]
  rcases first.ends both with ⟨a, b, s', t', left, right, related, stores⟩ |
    ⟨e, e', s', t', left, right, stores⟩
  · rw [left, right]
    exact rest a b related s' t' stores
  · rw [left, right]
    exact ⟨trivial, stores⟩

theorem Alike.endAlike {p : Program σ ε α} {q : Program σ ε β} (alike : Alike R Q p q) :
    EndAlike R p q :=
  fun s t both => (alike s t both).2

theorem EndAlike.bind {p : Program σ ε α} {q : Program σ ε β} {k : α → Program σ ε α'}
    {l : β → Program σ ε β'} (first : Alike R Q p q)
    (rest : ∀ a b, Q a b → EndAlike R (k a) (l b)) : EndAlike R (p >>= k) (q >>= l) := by
  intro s t both
  rw [exec_bind, exec_bind]
  rcases first.ends both with ⟨a, b, s', t', left, right, related, stores⟩ |
    ⟨e, e', s', t', left, right, stores⟩
  · rw [left, right]
    exact rest a b related s' t' stores
  · rw [left, right]
    exact stores

/-- Programs whose requests change nothing that `R` sees. -/
theorem EndAlike.of_keeps (equivalence : Equivalence R) {p : Program σ ε α}
    {q : Program σ ε β} (left : p.Keeps R) (right : q.Keeps R) : EndAlike R p q := by
  intro s t both
  have before := left.exec equivalence.refl equivalence.trans s
  have after := right.exec equivalence.refl equivalence.trans t
  exact equivalence.trans (equivalence.symm before) (equivalence.trans both after)

/-- Two loops over the same elements. -/
theorem Alike.forEach {body : α → Program σ ε Unit} {xs : List α}
    (each : ∀ x ∈ xs, Alike R Eq (body x) (body x)) :
    Alike R Eq (Program.forEach xs body) (Program.forEach xs body) := by
  induction xs with
  | nil => exact .pure rfl
  | cons x xs ih =>
      apply Alike.bind (each x List.mem_cons_self)
      intro _ _ _
      apply ih
      intro y listed
      exact each y (List.mem_cons_of_mem x listed)

end Program

end Requests
