import Mathlib.Data.List.Basic

/-!
# Maps that number a list

`asMap xs` is the map from the positions of a list to its elements, in their order. What is
read of it, written to it or removed from it is read of, written to or removed from the list
(`lookup_asMap`, `assign_asMap`, `values_without_asMap`).
-/

namespace Numbered

variable {α : Type}

/-- The elements with their numbers, from `n` on. -/
def entriesFrom (n : Nat) : List α → List (Nat × α)
  | [] => []
  | x :: xs => (n, x) :: entriesFrom (n + 1) xs

/-- `xs.asMap()`. -/
def asMap (xs : List α) : List (Nat × α) :=
  entriesFrom 0 xs

/-- `map.values.toList()`. -/
def values (map : List (Nat × α)) : List α :=
  map.map Prod.snd

/-- `map[key] = value` for a key that is there. -/
def assign (map : List (Nat × α)) (key : Nat) (value : α) : List (Nat × α) :=
  map.map fun entry => if entry.1 = key then (key, value) else entry

/-- `map.remove(key)`. -/
def without (map : List (Nat × α)) (key : Nat) : List (Nat × α) :=
  map.filter fun entry => entry.1 ≠ key

variable (xs : List α) (n key : Nat) (value : α)

theorem keys_entriesFrom : (entriesFrom n xs).map Prod.fst = List.range' n xs.length := by
  induction xs generalizing n with
  | nil => rfl
  | cons x xs ih => rw [entriesFrom, List.map_cons, ih, List.length_cons, List.range'_succ]

theorem values_entriesFrom : values (entriesFrom n xs) = xs := by
  unfold values
  induction xs generalizing n with
  | nil => rfl
  | cons x xs ih => rw [entriesFrom, List.map_cons, ih]

/-- A number below the first one is nobody's. -/
theorem ne_of_mem_entriesFrom (early : key < n) : ∀ entry ∈ entriesFrom n xs, entry.1 ≠ key := by
  induction xs generalizing n with
  | nil => exact nofun
  | cons x xs ih =>
      intro entry listed
      rcases List.mem_cons.mp listed with rfl | later
      · exact (Nat.ne_of_lt early).symm
      · exact ih (n + 1) (Nat.lt_succ_of_lt early) entry later

theorem lookup_entriesFrom : List.lookup (n + key) (entriesFrom n xs) = xs[key]? := by
  induction xs generalizing n key with
  | nil => rfl
  | cons x xs ih =>
      rw [entriesFrom, List.lookup_cons]
      cases key with
      | zero => simp
      | succ key =>
          have differ : (n + (key + 1) == n) = false := by simp
          have next := ih (n + 1) key
          rw [Nat.add_right_comm] at next
          rw [differ]
          exact next

theorem assign_entriesFrom :
    assign (entriesFrom n xs) (n + key) value = entriesFrom n (xs.set key value) := by
  unfold assign
  induction xs generalizing n key with
  | nil => rfl
  | cons x xs ih =>
      rw [entriesFrom, List.map_cons]
      cases key with
      | zero =>
          have rest : (entriesFrom (n + 1) xs).map (fun entry =>
              if entry.1 = n then (n, value) else entry) = entriesFrom (n + 1) xs :=
            (List.map_congr_left fun entry listed =>
              if_neg (ne_of_mem_entriesFrom xs _ _ n.lt_succ_self entry listed)).trans
                (List.map_id' _)
          simp only [Nat.add_zero, ↓reduceIte, List.set_cons_zero, entriesFrom, rest]
      | succ key =>
          have differ : n ≠ n + (key + 1) := by omega
          have next := ih (n + 1) key
          rw [Nat.add_right_comm] at next
          rw [if_neg differ, List.set_cons_succ, entriesFrom]
          exact congrArg _ next

theorem values_without_entriesFrom :
    values (without (entriesFrom n xs) (n + key)) = xs.eraseIdx key := by
  induction xs generalizing n key with
  | nil => rfl
  | cons x xs ih =>
      unfold without
      rw [entriesFrom, List.filter_cons]
      cases key with
      | zero =>
          have rest : (entriesFrom (n + 1) xs).filter (fun entry => entry.1 ≠ n) =
              entriesFrom (n + 1) xs :=
            List.filter_eq_self.mpr fun entry listed => decide_eq_true
              (ne_of_mem_entriesFrom xs _ _ n.lt_succ_self entry listed)
          simp only [Nat.add_zero, ne_eq, not_true_eq_false, decide_false, Bool.false_eq_true,
            ↓reduceIte, List.eraseIdx_cons_zero]
          exact (congrArg values rest).trans (values_entriesFrom xs _)
      | succ key =>
          have differ : decide (n ≠ n + (key + 1)) = true := decide_eq_true (by omega)
          have next := ih (n + 1) key
          rw [Nat.add_right_comm] at next
          rw [if_pos differ, List.eraseIdx_cons_succ]
          exact congrArg _ next

/-! ## The map of a whole list -/

theorem keys_asMap : (asMap xs).map Prod.fst = List.range xs.length := by
  rw [asMap, keys_entriesFrom, List.range_eq_range']

@[simp] theorem values_asMap : values (asMap xs) = xs :=
  values_entriesFrom xs 0

theorem lookup_asMap : List.lookup key (asMap xs) = xs[key]? := by
  have numbered := lookup_entriesFrom xs 0 key
  rwa [Nat.zero_add] at numbered

theorem assign_asMap : assign (asMap xs) key value = asMap (xs.set key value) := by
  have numbered := assign_entriesFrom xs 0 key value
  rwa [Nat.zero_add] at numbered

theorem values_without_asMap : values (without (asMap xs) key) = xs.eraseIdx key := by
  have numbered := values_without_entriesFrom xs 0 key
  rwa [Nat.zero_add] at numbered

end Numbered
