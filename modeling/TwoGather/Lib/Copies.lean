import Mathlib.Data.Nat.Cast.Order.Ring
import Mathlib.Tactic.Linarith

/-!
# Values overwritten from copies

Clients share one value. A client may take a copy of it, and may later overwrite the value
with what an operation makes of its copy; a patch applies its operation to the value itself.
`serial` is the value if every operation had been applied to the value of its moment, so the
operations one after the other in the order of their writes.

* `Cell.serial_step`: value and `serial` go on to agree exactly when an overwrite makes of the
  copy what it would make of the value.
* `Cell.Counted.count_step`: where every operation raises a count by one, the count stays that
  of the writes exactly when every copy that is used is up to date.
-/

namespace Copies

inductive Event (ι α : Type)
  | copy (i : ι)
  | overwrite (i : ι) (op : α → α)
  | patch (op : α → α)

/-- The value, the number of writes so far, and the copy of each client with the number of
writes that it includes. -/
structure Cell (ι α : Type) where
  value : α
  writes : Nat
  held : ι → Option (α × Nat)
  serial : α

namespace Cell

variable {ι α : Type} [DecidableEq ι]

/-- Nobody holds a copy. -/
def start (value : α) : Cell ι α where
  value := value
  writes := 0
  held _ := none
  serial := value

/-- A client that overwrites the value knows what it has written. -/
def step (c : Cell ι α) : Event ι α → Cell ι α
  | .copy i => { c with held := Function.update c.held i (some (c.value, c.writes)) }
  | .overwrite i op =>
      match c.held i with
      | none => c
      | some (copy, _) =>
          { value := op copy
            writes := c.writes + 1
            held := Function.update c.held i (some (op copy, c.writes + 1))
            serial := op c.serial }
  | .patch op =>
      { c with value := op c.value, writes := c.writes + 1, serial := op c.serial }

/-- An overwrite makes of the copy what it would make of the value. -/
def Faithful (c : Cell ι α) : Event ι α → Prop
  | .overwrite i op => ∀ pair ∈ c.held i, op pair.1 = op c.value
  | _ => True

/-- Nothing was written since the copy was taken that an overwrite uses. -/
def Fresh (c : Cell ι α) : Event ι α → Prop
  | .overwrite i _ => ∀ pair ∈ c.held i, pair.2 = c.writes
  | _ => True

variable {c : Cell ι α}

/-- The operations have the effect of a sequential execution, as long as each makes of its copy
what it would make of the value. -/
theorem serial_step (agree : c.value = c.serial) (e : Event ι α) :
    (c.step e).value = (c.step e).serial ↔ c.Faithful e := by
  cases e with
  | copy i => exact iff_of_true agree trivial
  | patch op => exact iff_of_true (congrArg op agree) trivial
  | overwrite i op =>
      cases held : c.held i with
      | none =>
          simp only [step, Faithful, held]
          exact iff_of_true agree nofun
      | some pair =>
          simp only [step, Faithful, held, ← agree, Option.mem_def, Option.some.injEq, forall_eq']

@[simp] theorem held_copy_self (i : ι) :
    (c.step (.copy i)).held i = some (c.value, c.writes) :=
  Function.update_self ..

theorem held_copy_of_ne {i j : ι} (other : j ≠ i) : (c.step (.copy i)).held j = c.held j :=
  Function.update_of_ne other ..

/-- An overwrite by a client that holds a copy. -/
theorem step_overwrite {i : ι} {copy : α} {w : Nat} (held : c.held i = some (copy, w))
    (op : α → α) :
    c.step (.overwrite i op) =
      { value := op copy
        writes := c.writes + 1
        held := Function.update c.held i (some (op copy, c.writes + 1))
        serial := op c.serial } := by
  simp only [step, held]

theorem held_overwrite_self {i : ι} {copy : α} {w : Nat} (held : c.held i = some (copy, w))
    (op : α → α) : (c.step (.overwrite i op)).held i = some (op copy, c.writes + 1) := by
  rw [step_overwrite held]
  exact Function.update_self ..

theorem held_overwrite_of_ne {i j : ι} (other : j ≠ i) (op : α → α) :
    (c.step (.overwrite i op)).held j = c.held j := by
  cases held : c.held i with
  | none => simp only [step, held]
  | some pair =>
      rw [step_overwrite held]
      exact Function.update_of_ne other ..

/-! ## Counting the writes -/

theorem held_step (e : Event ι α) (j : ι) :
    (c.step e).held j = some ((c.step e).value, (c.step e).writes) ∨
      (c.step e).held j = c.held j := by
  have updated : ∀ (i : ι) (copy : Option (α × Nat)),
      Function.update c.held i copy j = copy ∨ Function.update c.held i copy j = c.held j := by
    intro i copy
    by_cases same : j = i
    · subst same
      exact .inl (Function.update_self ..)
    · exact .inr (Function.update_of_ne same ..)
  cases e with
  | copy i => exact updated i _
  | patch op => exact .inr rfl
  | overwrite i op =>
      cases held : c.held i with
      | none =>
          simp only [step, held]
          exact .inr trivial
      | some pair =>
          simp only [step, held]
          exact updated i _

/-- The value changes only when a write is counted. -/
theorem writes_step (e : Event ι α) :
    (c.step e).writes = c.writes ∧ (c.step e).value = c.value ∨
      (c.step e).writes = c.writes + 1 := by
  cases e with
  | copy i => exact .inl ⟨rfl, rfl⟩
  | patch op => exact .inr rfl
  | overwrite i op =>
      cases held : c.held i with
      | none =>
          simp only [step, held]
          exact .inl ⟨trivial, trivial⟩
      | some pair =>
          simp only [step, held]
          exact .inr trivial

section Count

variable {K : Type} [CommRing K] [LinearOrder K] [IsStrictOrderedRing K] {count : α → K} {k : K}

/-- Every write of the event raises the count by one. -/
def Raises (count : α → K) : Event ι α → Prop
  | .overwrite _ op | .patch op => ∀ value, count (op value) = count value + 1
  | .copy _ => True

/-- Copies are no newer than the value, those that include all writes are the value, and no
count exceeds that of the writes it includes. -/
structure Counted (count : α → K) (k : K) (c : Cell ι α) : Prop where
  old : ∀ i copy w, c.held i = some (copy, w) → w ≤ c.writes
  current : ∀ i copy, c.held i = some (copy, c.writes) → copy = c.value
  copies : ∀ i copy w, c.held i = some (copy, w) → count copy ≤ k + w
  value : count c.value ≤ k + c.writes

omit [DecidableEq ι] [IsStrictOrderedRing K] in
theorem counted_start (count : α → K) (value : α) :
    (start (ι := ι) value).Counted count (count value) where
  old _ _ _ held := by cases held
  current _ _ held := by cases held
  copies _ _ _ held := by cases held
  value := by
    change count value ≤ count value + (0 : Nat)
    rw [Nat.cast_zero, add_zero]

theorem Counted.value_step (counted : c.Counted count k) {e : Event ι α} (raises : Raises count e) :
    count (c.step e).value ≤ k + (c.step e).writes := by
  have one : ∀ {v : α} {w : Nat}, count v ≤ k + w → w ≤ c.writes →
      count v + 1 ≤ k + (c.writes + 1 : Nat) := by
    intro v w le old
    have cast : (w : K) ≤ c.writes := Nat.cast_le.mpr old
    push_cast
    linarith
  cases e with
  | copy i => exact counted.value
  | patch op =>
      have raised : ∀ value, count (op value) = count value + 1 := raises
      simp only [step, raised]
      exact one counted.value le_rfl
  | overwrite i op =>
      cases held : c.held i with
      | none =>
          simp only [step, held]
          exact counted.value
      | some pair =>
          have raised : ∀ value, count (op value) = count value + 1 := raises
          simp only [step, held, raised]
          exact one (counted.copies i _ _ held) (counted.old i _ _ held)

theorem Counted.step (counted : c.Counted count k) {e : Event ι α} (raises : Raises count e) :
    (c.step e).Counted count k where
  value := counted.value_step raises
  old j copy w held := by
    rcases held_step (c := c) e j with new | same
    · rw [new] at held
      cases held
      exact le_rfl
    · rw [same] at held
      have older := counted.old j copy w held
      rcases writes_step (c := c) e with ⟨kept, -⟩ | more
      · omega
      · omega
  current j copy held := by
    rcases held_step (c := c) e j with new | same
    · rw [new] at held
      cases held
      rfl
    · rw [same] at held
      have older := counted.old j copy _ held
      rcases writes_step (c := c) e with ⟨kept, value⟩ | more
      · rw [kept] at held
        rw [value]
        exact counted.current j copy held
      · omega
  copies j copy w held := by
    rcases held_step (c := c) e j with new | same
    · rw [new] at held
      cases held
      exact counted.value_step raises
    · rw [same] at held
      exact counted.copies j copy w held

omit [DecidableEq ι] [IsStrictOrderedRing K] in
/-- A copy that is up to date is the value. -/
theorem Counted.faithful (counted : c.Counted count k) {e : Event ι α} (fresh : c.Fresh e) :
    c.Faithful e := by
  cases e with
  | copy i => trivial
  | patch op => trivial
  | overwrite i op =>
      intro pair held
      have same := fresh pair held
      obtain ⟨copy, w⟩ := pair
      obtain rfl : w = c.writes := same
      exact congrArg op (counted.current i copy held)

/-- The count stays that of the writes exactly when it was and the copy is up to date. -/
theorem Counted.count_step (counted : c.Counted count k) {e : Event ι α}
    (raises : Raises count e) :
    count (c.step e).value = k + (c.step e).writes ↔
      count c.value = k + c.writes ∧ c.Fresh e := by
  cases e with
  | copy i => exact (and_iff_left trivial).symm
  | patch op =>
      have raised : ∀ value, count (op value) = count value + 1 := raises
      simp only [Cell.step, raised, Fresh, and_true, Nat.cast_add, Nat.cast_one]
      constructor
      · intro total
        linarith
      · intro total
        linarith
  | overwrite i op =>
      cases held : c.held i with
      | none =>
          simp only [Cell.step, Fresh, held]
          exact (and_iff_left nofun).symm
      | some pair =>
          obtain ⟨copy, w⟩ := pair
          have old := counted.old i copy w held
          have bound := counted.copies i copy w held
          have raised : ∀ value, count (op value) = count value + 1 := raises
          simp only [Cell.step, Fresh, held, raised, Nat.cast_add, Nat.cast_one]
          constructor
          · intro total
            have cast : (c.writes : K) ≤ w := by linarith
            obtain rfl : w = c.writes := le_antisymm old (Nat.cast_le.mp cast)
            rw [counted.current i copy held] at total
            refine ⟨by linarith, fun pair eq => ?_⟩
            cases eq
            rfl
          · intro both
            obtain rfl := both.2 (copy, w) rfl
            rw [counted.current i copy held]
            linarith [both.1]

end Count

end Cell

end Copies
