import Mathlib.Algebra.Order.Group.Defs
import Mathlib.Algebra.Order.Sub.Defs
import Mathlib.Data.List.Induction
import Mathlib.Data.List.Basic

/-!
# Events in sliding windows

A history is a list of events, the oldest first, and `Each` says something of each event and
those before it. A history of times is `Sparse len n` when each comes at a moment with fewer
than `n` earlier ones in the last `len`; then no window of that length holds more than `n`
events, whether it is closed at its left end (`Sparse.countP_Ico_le`) or at its right end
(`Sparse.countP_Ioc_le`).
-/

namespace Windows

section Histories

variable {α : Type} {P : List α → α → Prop} {xs : List α}

/-- Each event, with the events before it, satisfies `P`. -/
def Each (P : List α → α → Prop) (xs : List α) : Prop :=
  ∀ before x later, xs = before ++ x :: later → P before x

theorem each_nil : Each P [] := by
  intro before x later eq
  cases before with
  | nil => cases eq
  | cons _ _ => cases eq

/-- One more event. -/
theorem each_concat {x : α} : Each P (xs ++ [x]) ↔ Each P xs ∧ P xs x := by
  constructor
  · intro each
    refine ⟨fun before y later eq => ?_, each xs x [] rfl⟩
    exact each before y (later ++ [x]) (by rw [eq, List.append_assoc, List.cons_append])
  · intro both before y later eq
    obtain rfl | ⟨front, last, rfl⟩ := later.eq_nil_or_concat'
    · obtain ⟨rfl, rfl⟩ := List.append_singleton_inj.mp eq
      exact both.2
    · rw [← List.cons_append, ← List.append_assoc] at eq
      obtain ⟨rfl, -⟩ := List.append_singleton_inj.mp eq
      exact both.1 before y front rfl

end Histories

section Order

variable {τ : Type} [LinearOrder τ]

/-- The events that come later than `cutoff`. -/
def after (cutoff : τ) (times : List τ) : List τ :=
  times.filter (cutoff < ·)

@[simp] theorem after_nil (cutoff : τ) : after cutoff [] = [] := rfl

@[simp] theorem after_append (cutoff : τ) (xs ys : List τ) :
    after cutoff (xs ++ ys) = after cutoff xs ++ after cutoff ys :=
  List.filter_append ..

/-- An event that comes later than the cutoff. -/
theorem after_concat {cutoff x : τ} (xs : List τ) (later : cutoff < x) :
    after cutoff (xs ++ [x]) = after cutoff xs ++ [x] := by
  rw [after_append]
  congr 1
  exact List.filter_eq_self.mpr (by simpa using later)

theorem length_after_concat_le (cutoff x : τ) (xs : List τ) :
    (after cutoff (xs ++ [x])).length ≤ (after cutoff xs).length + 1 := by
  rw [after_append, List.length_append]
  exact Nat.add_le_add_left (List.length_filter_le ..) _

theorem length_after_le_concat (cutoff x : τ) (xs : List τ) :
    (after cutoff xs).length ≤ (after cutoff (xs ++ [x])).length := by
  rw [after_append, List.length_append]
  exact Nat.le_add_right ..

/-- What comes later than a cutoff is found among what comes later than an earlier one. -/
theorem after_after {first second : τ} (le : first ≤ second) (times : List τ) :
    after second (after first times) = after second times := by
  unfold after
  rw [List.filter_filter]
  apply List.filter_congr
  intro t _
  by_cases later : second < t
  · simp [later, lt_of_le_of_lt le later]
  · simp [later]

theorem length_after_le {first second : τ} (le : first ≤ second) (times : List τ) :
    (after second times).length ≤ (after first times).length := by
  rw [← after_after le]
  exact List.length_filter_le ..

theorem after_eq_nil {cutoff : τ} {times : List τ} (past : ∀ t ∈ times, t ≤ cutoff) :
    after cutoff times = [] := by
  apply List.filter_eq_nil_iff.mpr
  intro t listed later
  exact absurd (of_decide_eq_true later) (not_lt_of_ge (past t listed))

end Order

variable {τ : Type} [AddCommGroup τ] [LinearOrder τ] {len : τ} {n : Nat} {times : List τ}

/-- Each event has fewer than `n` events before it in the last `len`. -/
def Sparse (len : τ) (n : Nat) (times : List τ) : Prop :=
  Each (fun before t => (after (t - len) before).length < n) times

/-- A set of times that are less than `len` apart holds no more than `n` events. -/
theorem Sparse.countP_le {W : τ → Bool} (close : ∀ x y, W x = true → W y = true → y - len < x)
    (sparse : Sparse len n times) : times.countP W ≤ n := by
  induction times using List.reverseRecOn with
  | nil => exact Nat.zero_le n
  | append_singleton times t ih =>
      rw [List.countP_append, List.countP_singleton]
      split
      case isTrue inside =>
        have fewer := (each_concat.mp sparse).2
        have each : times.countP W ≤ (after (t - len) times).length := by
          unfold after
          rw [← List.countP_eq_length_filter]
          apply List.countP_mono_left
          intro x _ here
          exact decide_eq_true (close x t here inside)
        omega
      case isFalse => exact ih (each_concat.mp sparse).1

variable [IsOrderedAddMonoid τ]

/-- At most `n` events from a moment on for less than `len`. -/
theorem Sparse.countP_Ico_le (sparse : Sparse len n times) (w : τ) :
    times.countP (fun t => w ≤ t ∧ t < w + len) ≤ n := by
  apply sparse.countP_le
  intro x y inX inY
  have first := (of_decide_eq_true inX).1
  have second := (of_decide_eq_true inY).2
  exact lt_of_lt_of_le (sub_lt_iff_lt_add.mpr second) first

/-- At most `n` events in the last `len` up to a moment. -/
theorem Sparse.countP_Ioc_le (sparse : Sparse len n times) (w : τ) :
    times.countP (fun t => w < t ∧ t ≤ w + len) ≤ n := by
  apply sparse.countP_le
  intro x y inX inY
  have first := (of_decide_eq_true inX).1
  have second := (of_decide_eq_true inY).2
  exact lt_of_le_of_lt (sub_le_iff_le_add.mpr second) first

end Windows
