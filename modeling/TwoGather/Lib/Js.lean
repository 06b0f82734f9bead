import Mathlib.Tactic.Ring
import TwoGather.Lib.Docs

/-!
# Numbers and dates of JavaScript

Integer arithmetic with `NaN`, and `Date` values in a host whose local time is UTC.
Both absorb their exceptional value: `NaN` stays `NaN` under subtraction, and a date
set to `NaN` seconds, or moved out of the range of time values, is an invalid date
that compares as false with every other.
-/

namespace Js

open Docs

/-! ## Numbers -/

/-- An integer, or `NaN` (`none`). -/
abbrev Number := Option Int

/-- `a - b`. -/
def Number.sub : Number → Number → Number
  | some a, some b => some (a - b)
  | _, _ => none

/-- `a + b`. -/
def Number.add : Number → Number → Number
  | some a, some b => some (a + b)
  | _, _ => none

/-- `a < b`, false when one of them is `NaN`. -/
def Number.lt : Number → Number → Bool
  | some a, some b => a < b
  | _, _ => false

/-- The number an arithmetic operator makes of a field: `undefined` is `NaN`, `null` is `0`. -/
def toNumber : Stored Number → Number
  | .undefined => none
  | .null => some 0
  | .value n => n

/-- `FieldValue.increment(n)` on a field: one that is no number is overwritten. -/
def increment : Stored Number → Number → Number
  | .value m, n => m.add n
  | _, n => n

@[simp] theorem toNumber_value (n : Number) : toNumber (.value n) = n := rfl

@[simp] theorem toNumber_undefined : toNumber .undefined = none := rfl

@[simp] theorem Number.sub_some (a b : Int) : Number.sub (some a) (some b) = some (a - b) := rfl

@[simp] theorem Number.sub_none (a : Number) : Number.sub a none = none := by
  cases a with
  | none => rfl
  | some a => rfl

@[simp] theorem Number.none_sub (a : Number) : Number.sub none a = none := rfl

@[simp] theorem Number.add_some (a b : Int) : Number.add (some a) (some b) = some (a + b) := rfl

@[simp] theorem Number.none_add (a : Number) : Number.add none a = none := rfl

@[simp] theorem Number.lt_some (a b : Int) : Number.lt (some a) (some b) = decide (a < b) := rfl

@[simp] theorem Number.none_lt (a : Number) : Number.lt none a = false := rfl

@[simp] theorem Number.add_none (a : Number) : a.add none = none := by
  cases a with
  | none => rfl
  | some a => rfl

@[simp] theorem Number.add_zero (a : Number) : a.add (some 0) = a := by
  cases a with
  | none => rfl
  | some a => simp

theorem Number.add_add (a : Number) (b c : Int) :
    (a.add (some b)).add (some c) = a.add (some (b + c)) := by
  cases a with
  | none => rfl
  | some a => simp [Int.add_assoc]

theorem Number.isSome_sub {a b : Number} : (a.sub b).isSome = (a.isSome && b.isSome) := by
  cases a with
  | none => rfl
  | some a =>
      cases b with
      | none => rfl
      | some b => rfl

theorem Number.isSome_add {a b : Number} : (a.add b).isSome = (a.isSome && b.isSome) := by
  cases a with
  | none => rfl
  | some a =>
      cases b with
      | none => rfl
      | some b => rfl

/-! ## Dates -/

/-- A time value in milliseconds since the epoch, or an invalid date (`none`). -/
abbrev Date := Option Int

/-- The largest time value, 100 000 000 days. -/
def maxTime : Int := 8640000000000000

/-- A time value out of range is an invalid date. -/
def timeClip (t : Int) : Date :=
  if -maxTime ≤ t ∧ t ≤ maxTime then some t else none

/-- `date.getSeconds()`. -/
def Date.getSeconds : Date → Number
  | some t => some (t / 1000 % 60)
  | none => none

/-- `date.setSeconds(seconds)`: minutes, hours, day and milliseconds stay, and the
given count of seconds, which may be negative or above 59, carries over. -/
def Date.setSeconds : Date → Number → Date
  | some t, some seconds => timeClip (t - t / 1000 % 60 * 1000 + seconds * 1000)
  | _, _ => none

/-- `a < b`, false when one of them is invalid. -/
def Date.lt : Date → Date → Bool
  | some a, some b => a < b
  | _, _ => false

theorem timeClip_of_range {t : Int} (low : -maxTime ≤ t) (high : t ≤ maxTime) :
    timeClip t = some t :=
  if_pos ⟨low, high⟩

@[simp] theorem Date.lt_some (a b : Int) : Date.lt (some a) (some b) = decide (a < b) := rfl

@[simp] theorem Date.lt_none (a : Date) : Date.lt a none = false := by
  cases a with
  | none => rfl
  | some a => rfl

/-- Going back by a count of seconds, from a date that was reached by going back. -/
theorem Date.setSeconds_sub {t d : Int} (high : t ≤ maxTime) (forward : 0 ≤ d) :
    Date.setSeconds (timeClip t) ((Date.getSeconds (timeClip t)).sub (some d)) =
      timeClip (t - 1000 * d) := by
  unfold timeClip
  by_cases low : -maxTime ≤ t
  · rw [if_pos ⟨low, high⟩]
    simp only [getSeconds, Number.sub_some, setSeconds, timeClip]
    rw [show t - t / 1000 % 60 * 1000 + (t / 1000 % 60 - d) * 1000 = t - 1000 * d by ring]
  · rw [if_neg fun range => low range.1, if_neg fun range => low (by omega)]
    rfl

/-- For an instant no earlier than the first time value, clipping the other side of a
comparison from below changes nothing. -/
theorem Date.lt_timeClip {a t : Int} (low : -maxTime ≤ a) (high : t ≤ maxTime) :
    Date.lt (some a) (timeClip t) = decide (a < t) := by
  unfold timeClip
  split
  case isTrue => rfl
  case isFalse out =>
    have below : t < -maxTime := by omega
    have : ¬ a < t := by omega
    simp [this]

end Js
