import Mathlib.Algebra.Order.Field.Basic
import Mathlib.Tactic.Ring

/-!
# Two bisections in turn

A range is halved again and again, and a bit says which half is kept; a `Cell` is two
ranges that are halved in turn. After `n` bits from the first interval on, that one has
been halved `⌈n / 2⌉` times and the other one `⌊n / 2⌋` times (`Cell.width_narrow`), and a
point that is in both, and whose bits say in which halves it lies, still is
(`Cell.Has.halve`).
-/

namespace Bisection

variable {K : Type} [Field K]

/-- The numbers from `lo` to `hi`. -/
structure Range (K : Type) where
  lo : K
  hi : K
  deriving DecidableEq

namespace Range

def mid (I : Range K) : K :=
  (I.lo + I.hi) / 2

def width (I : Range K) : K :=
  I.hi - I.lo

/-- The upper half, or the lower one. -/
def half (I : Range K) (upper : Bool) : Range K :=
  if upper then { I with lo := I.mid } else { I with hi := I.mid }

/-- The number is in the range, its ends included. -/
def Has [LE K] (I : Range K) (x : K) : Prop :=
  I.lo ≤ x ∧ x ≤ I.hi

variable [LinearOrder K]

/-- A number is in the half that the middle tells. -/
theorem Has.half {I : Range K} {x : K} (has : I.Has x) :
    (I.half (decide (I.mid ≤ x))).Has x := by
  by_cases upper : I.mid ≤ x
  · rw [decide_eq_true upper]
    exact ⟨upper, has.2⟩
  · rw [decide_eq_false upper]
    exact ⟨has.1, le_of_not_ge upper⟩

variable [IsStrictOrderedRing K]

theorem width_half (I : Range K) (upper : Bool) : (I.half upper).width = I.width / 2 := by
  cases upper with
  | false =>
      change (I.lo + I.hi) / 2 - I.lo = (I.hi - I.lo) / 2
      ring
  | true =>
      change I.hi - (I.lo + I.hi) / 2 = (I.hi - I.lo) / 2
      ring

end Range

/-- Two ranges; `turn` says that the first one is halved next. -/
structure Cell (K : Type) where
  first : Range K
  second : Range K
  turn : Bool := true
  deriving DecidableEq

namespace Cell

/-- Halve the one whose turn it is. -/
def halve (c : Cell K) (upper : Bool) : Cell K :=
  if c.turn then { c with first := c.first.half upper, turn := false }
  else { c with second := c.second.half upper, turn := true }

/-- Halve by one bit after the other. -/
def narrow (c : Cell K) (bits : List Bool) : Cell K :=
  bits.foldl halve c

/-- The two coordinates of a point are in the two ranges. -/
def Has [LE K] (c : Cell K) (x y : K) : Prop :=
  c.first.Has x ∧ c.second.Has y

/-- The bit by which a point stays in the cell. -/
def bitOf [LE K] [DecidableLE K] (c : Cell K) (x y : K) : Bool :=
  if c.turn then c.first.mid ≤ x else c.second.mid ≤ y

@[simp] theorem narrow_nil (c : Cell K) : c.narrow [] = c := rfl

@[simp] theorem narrow_cons (c : Cell K) (bit : Bool) (bits : List Bool) :
    c.narrow (bit :: bits) = (c.halve bit).narrow bits := rfl

theorem narrow_append (c : Cell K) (bits later : List Bool) :
    c.narrow (bits ++ later) = (c.narrow bits).narrow later :=
  List.foldl_append

variable [LinearOrder K]

theorem Has.halve {c : Cell K} {x y : K} (has : c.Has x y) : (c.halve (c.bitOf x y)).Has x y := by
  unfold Cell.halve bitOf
  cases c.turn with
  | true => exact ⟨has.1.half, has.2⟩
  | false => exact ⟨has.1, has.2.half⟩

variable [IsStrictOrderedRing K]

/-- How often each of the two is halved by `n` bits. -/
theorem width_narrow (c : Cell K) (bits : List Bool) :
    (c.narrow bits).first.width =
        c.first.width / 2 ^ ((bits.length + if c.turn then 1 else 0) / 2) ∧
      (c.narrow bits).second.width =
        c.second.width / 2 ^ ((bits.length + if c.turn then 0 else 1) / 2) := by
  induction bits generalizing c with
  | nil => cases c.turn <;> simp
  | cons bit bits ih =>
      rw [narrow_cons]
      obtain ⟨first, second⟩ := ih (c.halve bit)
      rw [first, second, List.length_cons]
      unfold Cell.halve
      cases c.turn with
      | true =>
          refine ⟨?_, rfl⟩
          have rounds : (bits.length + 1 + 1) / 2 = bits.length / 2 + 1 := by omega
          simp only [if_true, Bool.false_eq_true, if_false, add_zero, Range.width_half, rounds]
          rw [pow_succ', div_div]
      | false =>
          refine ⟨rfl, ?_⟩
          have rounds : (bits.length + 1 + 1) / 2 = bits.length / 2 + 1 := by omega
          simp only [if_true, Bool.false_eq_true, if_false, add_zero, Range.width_half, rounds]
          rw [pow_succ', div_div]

end Cell

end Bisection
