import TwoGather.Lib.Docs

/-!
# Edits of a collection

One request adds a document, updates one, deletes one, or leaves the collection alone. Since no
key is drawn twice, a document under an old key is what has become of the old document; one that
has become what it was not was added so or updated to it, and one that has vanished was deleted.
-/

namespace Docs

variable {δ : Type}

/-- What one request does to a collection whose keys are drawn. -/
inductive DocEdit (δ : Type)
  | keep
  | add (d : δ)
  | update (k : Nat) (f : δ → δ)
  | delete (k : Nat)

namespace AutoCollection

variable {c : AutoCollection δ} {k : Nat} {d : δ}

def edit (c : AutoCollection δ) : DocEdit δ → AutoCollection δ
  | .keep => c
  | .add d => c.add d
  | .update k f => c.update k f
  | .delete k => c.delete k

theorem next_le_edit (c : AutoCollection δ) (x : DocEdit δ) : c.next ≤ (c.edit x).next := by
  cases x with
  | add d => exact Nat.le_succ _
  | _ => exact Nat.le_refl _

/-- A document under a key that was drawn before was there before, and has been updated at
most. -/
theorem back_of_edit {F : δ → δ → Prop} {x : DocEdit δ} {d' : δ} (refl : ∀ d, F d d)
    (updates : ∀ k f, x = .update k f → ∀ d, F d (f d)) (drawn : k < c.next)
    (found : (c.edit x).get? k = some d') : ∃ d, c.get? k = some d ∧ F d d' := by
  cases x with
  | keep => exact ⟨d', found, refl d'⟩
  | add new =>
      unfold edit at found
      rw [get?_add, if_neg (Nat.ne_of_lt drawn)] at found
      exact ⟨d', found, refl d'⟩
  | update j f =>
      unfold edit at found
      rw [get?_update] at found
      split at found
      · rcases Option.map_eq_some_iff.mp found with ⟨d, there, rfl⟩
        exact ⟨d, there, updates j f rfl d⟩
      · exact ⟨d', found, refl d'⟩
  | delete j =>
      unfold edit at found
      rw [get?_delete] at found
      split at found
      · cases found
      · exact ⟨d', found, refl d'⟩

/-- The document was added as it should be, or turned into it. -/
theorem turned_by_edit {Q : δ → Prop} {x : DocEdit δ} (before : ∀ d, c.get? k = some d → ¬ Q d)
    (found : (c.edit x).get? k = some d) (holds : Q d) :
    (∃ d, x = .add d ∧ Q d) ∨ ∃ f, x = .update k f ∧ ∃ d, ¬ Q d ∧ Q (f d) := by
  cases x with
  | keep => exact absurd holds (before d found)
  | add new =>
      unfold edit at found
      rw [get?_add] at found
      split at found
      · cases found
        exact .inl ⟨d, rfl, holds⟩
      · exact absurd holds (before d found)
  | update j f =>
      unfold edit at found
      rw [get?_update] at found
      split at found
      case isTrue here =>
        subst here
        rcases Option.map_eq_some_iff.mp found with ⟨old, there, rfl⟩
        exact .inr ⟨f, rfl, old, before old there, holds⟩
      case isFalse => exact absurd holds (before d found)
  | delete j =>
      unfold edit at found
      rw [get?_delete] at found
      split at found
      · cases found
      · exact absurd holds (before d found)

/-- A document under an old key was turned into what it is. -/
theorem changed_by_edit {Q : δ → Prop} {x : DocEdit δ} (drawn : k < c.next)
    (before : ∀ d, c.get? k = some d → ¬ Q d) (found : (c.edit x).get? k = some d) (holds : Q d) :
    ∃ f, x = .update k f ∧ ∃ d, ¬ Q d ∧ Q (f d) := by
  rcases turned_by_edit before found holds with ⟨new, rfl, -⟩ | updated
  · unfold edit at found
    rw [get?_add, if_neg (Nat.ne_of_lt drawn)] at found
    exact absurd holds (before d found)
  · exact updated

theorem deleted_by_edit {x : DocEdit δ} (found : (c.get? k).isSome = true)
    (gone : (c.edit x).get? k = none) : x = .delete k := by
  rcases Option.isSome_iff_exists.mp found with ⟨d, there⟩
  cases x with
  | keep => cases there.symm.trans gone
  | add new =>
      unfold edit at gone
      rw [get?_add] at gone
      split at gone
      · cases gone
      · cases there.symm.trans gone
  | update j f =>
      unfold edit at gone
      rw [get?_update, there] at gone
      split at gone
      · cases gone
      · cases gone
  | delete j =>
      unfold edit at gone
      rw [get?_delete] at gone
      split at gone
      case isTrue here =>
        subst here
        rfl
      case isFalse => cases there.symm.trans gone

end AutoCollection

end Docs
