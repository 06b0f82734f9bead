import Mathlib.Data.List.Basic
import Mathlib.Data.List.Induction
import Mathlib.Data.List.Nodup

/-!
# Turns

A schedule names the client of every move. `turns n` lists the clients in the order in which
they make their move number `n`, so what the first or the second requests of many clients leave
behind can be told from the schedule alone. One more move adds at most one client at the end of
one of the lists (`turns_snoc`).
-/

namespace Requests

variable {ι : Type} [DecidableEq ι]

/-- The same from the end: the newest move comes first, and so does the newest turn. -/
def turnsBack (n : Nat) : List ι → List ι
  | [] => []
  | i :: earlier =>
      if earlier.count i = n then i :: turnsBack n earlier else turnsBack n earlier

/-- The clients in the order of their moves number `n`, counted from zero. -/
def turns (n : Nat) (schedule : List ι) : List ι :=
  (turnsBack n schedule.reverse).reverse

@[simp] theorem turns_nil (n : Nat) : turns n ([] : List ι) = [] := rfl

theorem turns_snoc (n : Nat) (schedule : List ι) (i : ι) :
    turns n (schedule ++ [i]) =
      if schedule.count i = n then turns n schedule ++ [i] else turns n schedule := by
  unfold turns
  rw [List.reverse_append, List.reverse_singleton, List.singleton_append, turnsBack,
    List.count_reverse]
  split
  · rw [List.reverse_cons]
  · rfl

theorem turns_snoc_now {n : Nat} {schedule : List ι} {i : ι} (now : schedule.count i = n) :
    turns n (schedule ++ [i]) = turns n schedule ++ [i] := by
  rw [turns_snoc, if_pos now]

theorem turns_snoc_not {n : Nat} {schedule : List ι} {i : ι} (not : schedule.count i ≠ n) :
    turns n (schedule ++ [i]) = turns n schedule := by
  rw [turns_snoc, if_neg not]

theorem count_snoc_self (schedule : List ι) (i : ι) :
    (schedule ++ [i]).count i = schedule.count i + 1 := by
  rw [List.count_append, List.count_singleton_self]

theorem count_snoc_of_ne (schedule : List ι) {i j : ι} (other : j ≠ i) :
    (schedule ++ [i]).count j = schedule.count j := by
  have absent : [i].count j = 0 := by
    rw [List.count_eq_zero, List.mem_singleton]
    exact other
  rw [List.count_append, absent, Nat.add_zero]

/-- A client has had its turn when it has made more than `n` moves. -/
theorem mem_turns {n : Nat} {schedule : List ι} {i : ι} :
    i ∈ turns n schedule ↔ n < schedule.count i := by
  induction schedule using List.reverseRecOn with
  | nil => simp
  | append_singleton schedule j ih =>
      by_cases same : i = j
      · subst same
        rw [count_snoc_self]
        by_cases now : schedule.count i = n
        · rw [turns_snoc_now now, now]
          simp
        · rw [turns_snoc_not now, ih]
          omega
      · rw [count_snoc_of_ne schedule same, ← ih, turns_snoc]
        split
        · rw [List.mem_append, List.mem_singleton, or_iff_left same]
        · exact Iff.rfl

end Requests
