import Mathlib.Algebra.Order.Ring.Rat
import Mathlib.Data.List.Nodup
import Mathlib.Data.Nat.Bitwise
import Mathlib.Tactic.NormNum
import TwoGather.Lib.Bisection
import TwoGather.Lib.Loops

/-!
# Geohashes

`generateGeohash` of `geolocation_service.dart` halves the ranges of the longitude and of the
latitude in turn, and writes a character of `_base32` for every five bits. `decode` reads a
geohash back: its characters are numbers of five bits, and their bits halve the two ranges of
the whole earth. `generateGeohash_correct` says that what is written is read back as a cell
with the point, of the size that the precision tells.

The numbers are exact.
-/

namespace TwoGather

open Bisection Loops

def base32 : String := "0123456789bcdefghjkmnpqrstuvwxyz"

/-- The ranges before the first bit, the one of the longitude first. -/
def wholeEarth : Cell ℚ where
  first := ⟨-180, 180⟩
  second := ⟨-90, 90⟩

/-- The variables of the loop of `generateGeohash`. -/
structure GeohashLoop where
  latRange : Range ℚ := wholeEarth.second
  lonRange : Range ℚ := wholeEarth.first
  geohash : String := ""
  isEven : Bool := true
  bit : Nat := 0
  ch : Nat := 0
  deriving DecidableEq

namespace GeohashLoop

/-- The condition of the loop for `precision` characters. -/
def shorterThan (precision : Nat) (s : GeohashLoop) : Bool :=
  s.geohash.length < precision

/-- The two branches of a round, for the longitude and for the latitude. -/
def bisect (latitude longitude : ℚ) (s : GeohashLoop) : GeohashLoop :=
  if s.isEven then
    let mid := (s.lonRange.lo + s.lonRange.hi) / 2
    if longitude ≥ mid then
      { s with ch := s.ch ||| 1 <<< (4 - s.bit), lonRange := { s.lonRange with lo := mid } }
    else { s with lonRange := { s.lonRange with hi := mid } }
  else
    let mid := (s.latRange.lo + s.latRange.hi) / 2
    if latitude ≥ mid then
      { s with ch := s.ch ||| 1 <<< (4 - s.bit), latRange := { s.latRange with lo := mid } }
    else { s with latRange := { s.latRange with hi := mid } }

/-- The rest of a round. `none` would be an index outside of `_base32`. -/
def emit (s : GeohashLoop) : Option GeohashLoop :=
  if s.bit < 4 then some { s with bit := s.bit + 1 }
  else
    base32.toList[s.ch]?.map fun char =>
      { s with geohash := s.geohash.push char, bit := 0, ch := 0 }

def round (latitude longitude : ℚ) (s : GeohashLoop) : Option GeohashLoop :=
  let s := s.bisect latitude longitude
  emit { s with isEven := !s.isEven }

end GeohashLoop

/-- `none` stands for an exception, and for a loop that is cut off after `fuel` rounds. -/
def generateGeohash (fuel : Nat) (latitude longitude : ℚ) (precision : Nat) : Option String :=
  (whileLoop (GeohashLoop.shorterThan precision) (GeohashLoop.round latitude longitude) fuel {}).map
    (·.geohash)

/-! ## Reading a geohash -/

/-- The five bits of a character, the highest one first. -/
def bitsOf (ch : Nat) : List Bool :=
  (List.range 5).map fun i => ch.testBit (4 - i)

/-- The numbers of the characters, if they are all in the alphabet. -/
def digits (geohash : String) : Option (List Nat) :=
  geohash.toList.mapM (base32.toList.idxOf? ·)

/-- The inverse bisection. -/
def decode (geohash : String) : Option (Cell ℚ) :=
  (digits geohash).map fun chs => wholeEarth.narrow (chs.flatMap bitsOf)

theorem idxOf?_base32 {ch : Nat} {char : Char} (is : base32.toList[ch]? = some char) :
    base32.toList.idxOf? char = some ch := by
  have distinct : base32.toList.Nodup := by decide
  obtain ⟨inside, rfl⟩ := List.getElem?_eq_some_iff.mp is
  refine List.idxOf?_eq_some_iff.mpr ⟨inside, rfl, fun j earlier same => ?_⟩
  have := (List.Nodup.getElem_inj_iff distinct).mp same
  omega

theorem digits_push {geohash : String} {chs : List Nat} {ch : Nat} {char : Char}
    (before : digits geohash = some chs) (is : base32.toList[ch]? = some char) :
    digits (geohash.push char) = some (chs ++ [ch]) := by
  unfold digits at before ⊢
  rw [String.toList_push, List.mapM_append, before]
  simp [idxOf?_base32 is]

/-! ## One round -/

namespace GeohashLoop

variable {latitude longitude : ℚ} {precision : Nat} {s t : GeohashLoop}

/-- The cell that the two ranges are. -/
def cell (s : GeohashLoop) : Cell ℚ :=
  ⟨s.lonRange, s.latRange, s.isEven⟩

/-- The bits that are not written yet. -/
def pending (s : GeohashLoop) : List Bool :=
  (List.range s.bit).map fun i => s.ch.testBit (4 - i)

/-- The bit that a round sets in `ch`, if the upper half is taken. -/
def mark (s : GeohashLoop) (upper : Bool) : Nat :=
  if upper then s.ch ||| 1 <<< (4 - s.bit) else s.ch

theorem testBit_mark (free : ∀ i < 5 - s.bit, s.ch.testBit i = false) (bit_le : s.bit ≤ 4)
    (upper : Bool) (i : Nat) :
    (s.mark upper).testBit i = if i = 4 - s.bit then upper else s.ch.testBit i := by
  unfold mark
  cases upper with
  | false =>
      rw [if_neg Bool.false_ne_true]
      split
      · exact free i (by omega)
      · rfl
  | true =>
      rw [if_pos rfl, Nat.testBit_or, Nat.one_shiftLeft, Nat.testBit_two_pow]
      split
      · rename_i here
        rw [decide_eq_true here.symm, Bool.or_true]
      · rename_i elsewhere
        rw [decide_eq_false (Ne.symm elsewhere), Bool.or_false]

theorem mark_lt (ch_lt : s.ch < 32) (upper : Bool) : s.mark upper < 32 := by
  unfold mark
  split
  · refine Nat.or_lt_two_pow (n := 5) ch_lt ?_
    rw [Nat.one_shiftLeft]
    exact Nat.pow_lt_pow_right Nat.one_lt_two (by omega)
  · exact ch_lt

/-- The bits of `ch` after a round are those before it and the one that is taken. -/
theorem pending_mark (free : ∀ i < 5 - s.bit, s.ch.testBit i = false) (bit_le : s.bit ≤ 4)
    (upper : Bool) :
    (List.range (s.bit + 1)).map (fun i => (s.mark upper).testBit (4 - i)) =
      s.pending ++ [upper] := by
  have marked := testBit_mark free bit_le upper
  rw [List.range_succ, List.map_append, List.map_singleton, marked, if_pos rfl]
  congr 1
  refine List.map_congr_left fun i before => ?_
  have before := List.mem_range.mp before
  rw [marked, if_neg (by omega)]

/-- A round halves the cell, and notes which half it has taken. -/
theorem bisect_eq (s : GeohashLoop) :
    let upper := s.cell.bitOf longitude latitude
    let halved := s.cell.halve upper
    { s.bisect latitude longitude with isEven := !(s.bisect latitude longitude).isEven } =
      { s with
        lonRange := halved.first, latRange := halved.second, isEven := halved.turn,
        ch := s.mark upper } := by
  obtain ⟨latRange, lonRange, geohash, isEven, bit, ch⟩ := s
  cases isEven with
  | true =>
      by_cases upper : (lonRange.lo + lonRange.hi) / 2 ≤ longitude
      · simp [bisect, cell, Cell.bitOf, Cell.halve, mark, Range.half, Range.mid, upper]
      · simp [bisect, cell, Cell.bitOf, Cell.halve, mark, Range.half, Range.mid, upper]
  | false =>
      by_cases upper : (latRange.lo + latRange.hi) / 2 ≤ latitude
      · simp [bisect, cell, Cell.bitOf, Cell.halve, mark, Range.half, Range.mid, upper]
      · simp [bisect, cell, Cell.bitOf, Cell.halve, mark, Range.half, Range.mid, upper]

/-- The loop after some rounds: the geohash and the bits that are pending in `ch` lead from the
whole earth to the two ranges, and the point is in both. -/
structure Encodes (latitude longitude : ℚ) (s : GeohashLoop) : Prop where
  bit_le : s.bit ≤ 4
  ch_lt : s.ch < 32
  free : ∀ i < 5 - s.bit, s.ch.testBit i = false
  alphabet : ∀ char ∈ s.geohash.toList, char ∈ base32.toList
  read : ∃ chs, digits s.geohash = some chs ∧ chs.length = s.geohash.length ∧
    s.cell = wholeEarth.narrow (chs.flatMap bitsOf ++ s.pending)
  has : s.cell.Has longitude latitude

/-- How many bits have been taken. -/
def taken (s : GeohashLoop) : Nat :=
  5 * s.geohash.length + s.bit

theorem encodes_start (latitudes : wholeEarth.second.Has latitude)
    (longitudes : wholeEarth.first.Has longitude) : Encodes latitude longitude {} where
  bit_le := by decide
  ch_lt := by decide
  free i _ := Nat.zero_testBit i
  alphabet := nofun
  read := ⟨[], rfl, rfl, rfl⟩
  has := ⟨longitudes, latitudes⟩

/-- A round takes one bit, and writes a character if it is the fifth one. -/
theorem Encodes.round (encodes : Encodes latitude longitude s) :
    ∃ t, s.round latitude longitude = some t ∧ Encodes latitude longitude t ∧
      t.taken = s.taken + 1 ∧ s.geohash.toList <+: t.geohash.toList := by
  obtain ⟨bit_le, ch_lt, free, alphabet, ⟨chs, read, length, narrowed⟩, has⟩ := encodes
  let upper := s.cell.bitOf longitude latitude
  have marked := testBit_mark free bit_le upper
  have mark_lt := mark_lt ch_lt upper
  have halved : s.cell.halve upper = wholeEarth.narrow (chs.flatMap bitsOf ++
      (List.range (s.bit + 1)).map fun i => (s.mark upper).testBit (4 - i)) := by
    rw [pending_mark free bit_le, ← List.append_assoc, Cell.narrow_append, ← narrowed]
    rfl
  unfold GeohashLoop.round
  dsimp only
  rw [bisect_eq, emit]
  dsimp only
  by_cases open' : s.bit < 4
  · rw [if_pos open']
    refine ⟨_, rfl, ⟨open', mark_lt, ?_, alphabet, ⟨chs, read, length, halved⟩, has.halve⟩, rfl,
      List.prefix_rfl⟩
    intro i below
    have below : i < 5 - (s.bit + 1) := below
    rw [marked, if_neg (by omega)]
    exact free i (by omega)
  · have last : s.bit = 4 := by omega
    obtain ⟨char, is⟩ : ∃ char, base32.toList[s.mark upper]? = some char :=
      ⟨_, List.getElem?_eq_getElem (mark_lt.trans_eq (by decide))⟩
    rw [if_neg open', is]
    have none : ∀ i < 5, (0 : Nat).testBit i = false := fun i _ => Nat.zero_testBit i
    refine ⟨_, rfl, ⟨Nat.zero_le 4, Nat.succ_pos 31, none, ?_, ?_, has.halve⟩, ?_, ?_⟩
    · intro c listed
      rw [String.toList_push, List.mem_append, List.mem_singleton] at listed
      obtain listed | rfl := listed
      · exact alphabet c listed
      · exact List.mem_of_getElem? is
    · refine ⟨chs ++ [s.mark upper], digits_push read is, ?_, ?_⟩
      · rw [List.length_append, length, String.length_push, List.length_singleton]
      · rw [last] at halved
        refine Eq.trans ?_ (halved.trans ?_)
        · rfl
        · rw [List.flatMap_append, List.flatMap_singleton]
          exact congrArg _ (List.append_nil _).symm
    · simp only [taken, String.length_push, last]
      omega
    · rw [String.toList_push]
      exact List.prefix_append _ _

/-! ## The whole loop -/

/-- The state in which the loop for `precision` characters ends: it has taken all its bits, and
what was written before is still there. -/
structure Ends (latitude longitude : ℚ) (precision : Nat) (s t : GeohashLoop) : Prop where
  encodes : Encodes latitude longitude t
  taken : t.taken = 5 * precision
  kept : s.geohash.toList <+: t.geohash.toList

/-- From a state that has not taken more bits than it needs, the loop comes to its end. -/
theorem Encodes.loop (encodes : Encodes latitude longitude s) (precision fuel : Nat)
    (short : s.taken ≤ 5 * precision) (enough : 5 * precision ≤ s.taken + fuel) :
    ∃ t, whileLoop (shorterThan precision) (GeohashLoop.round latitude longitude) fuel s = some t ∧
      Ends latitude longitude precision s t := by
  have round : ∀ now : GeohashLoop,
      (Encodes latitude longitude now ∧ now.taken ≤ 5 * precision ∧
        s.geohash.toList <+: now.geohash.toList) →
      shorterThan precision now = true →
      ∃ next, now.round latitude longitude = some next ∧
        (Encodes latitude longitude next ∧ next.taken ≤ 5 * precision ∧
          s.geohash.toList <+: next.geohash.toList) ∧
        5 * precision - next.taken < 5 * precision - now.taken := by
    intro now inv goesOn
    obtain ⟨encodes, -, kept⟩ := inv
    obtain ⟨next, made, encodes', one, kept'⟩ := encodes.round
    have open' : now.geohash.length < precision := of_decide_eq_true goesOn
    have bit_le := encodes.bit_le
    have fewer : now.taken < 5 * precision := by
      unfold GeohashLoop.taken
      omega
    exact ⟨next, made, ⟨encodes', by omega, kept.trans kept'⟩, by omega⟩
  obtain ⟨t, returns, ⟨encodes', most, kept⟩, stop⟩ := whileLoop_terminates _ _ _ _ round
    ⟨encodes, short, List.prefix_rfl⟩ (Nat.sub_le_iff_le_add'.mpr enough)
  have full : precision ≤ t.geohash.length := Nat.le_of_not_lt (of_decide_eq_false stop)
  refine ⟨t, returns, encodes', ?_, kept⟩
  unfold GeohashLoop.taken at most ⊢
  omega

/-- At its end the last character is complete. -/
theorem Ends.complete (ends : Ends latitude longitude precision s t) :
    t.geohash.length = precision ∧ t.bit = 0 := by
  have taken := ends.taken
  have bit_le := ends.encodes.bit_le
  unfold GeohashLoop.taken at taken
  omega

theorem length_flatMap_bitsOf (chs : List Nat) : (chs.flatMap bitsOf).length = 5 * chs.length := by
  induction chs with
  | nil => rfl
  | cons ch chs ih =>
      rw [List.flatMap_cons, List.length_append, ih, List.length_cons, Nat.mul_succ, Nat.add_comm]
      rfl

/-- What was written is read back as the cell of the two ranges. -/
theorem Ends.decode (ends : Ends latitude longitude precision s t) :
    decode t.geohash = some t.cell ∧
      t.cell.first.width = 360 / 2 ^ ((5 * precision + 1) / 2) ∧
      t.cell.second.width = 180 / 2 ^ (5 * precision / 2) := by
  obtain ⟨chs, read, length, narrowed⟩ := ends.encodes.read
  obtain ⟨complete, bit⟩ := ends.complete
  have none : t.pending = [] := by rw [pending, bit, List.range_zero, List.map_nil]
  rw [none, List.append_nil] at narrowed
  have bits : (chs.flatMap bitsOf).length = 5 * precision := by
    rw [length_flatMap_bitsOf, length, complete]
  obtain ⟨first, second⟩ := wholeEarth.width_narrow (chs.flatMap bitsOf)
  rw [← narrowed, bits] at first second
  refine ⟨?_, first.trans ?_, second.trans ?_⟩
  · rw [TwoGather.decode, read, Option.map_some, narrowed]
  · norm_num [wholeEarth, Range.width]
  · norm_num [wholeEarth, Range.width]

end GeohashLoop

/-- **`generateGeohash` returns for every precision, with that many characters of the alphabet.
A smaller precision gives the beginning of the same geohash. Reading it back gives a cell
whose sides are those of the earth, halved in turn for five bits a character from the
longitude on, and the point is in it.** -/
theorem generateGeohash_correct (latitude longitude : ℚ)
    (latitudes : -90 ≤ latitude ∧ latitude ≤ 90)
    (longitudes : -180 ≤ longitude ∧ longitude ≤ 180) (precision : Nat) :
    ∃ geohash : String,
      (∀ fuel ≥ 5 * precision,
        generateGeohash fuel latitude longitude precision = some geohash) ∧
      geohash.length = precision ∧ (∀ char ∈ geohash.toList, char ∈ base32.toList) ∧
      (∀ shorter ≤ precision, ∀ fuel ≥ 5 * shorter, ∃ start,
        generateGeohash fuel latitude longitude shorter = some start ∧
          start.toList = geohash.toList.take shorter) ∧
      ∃ cell, decode geohash = some cell ∧
        cell.first.width = 360 / 2 ^ ((5 * precision + 1) / 2) ∧
        cell.second.width = 180 / 2 ^ (5 * precision / 2) ∧ cell.Has longitude latitude := by
  have encodes : GeohashLoop.Encodes latitude longitude {} :=
    GeohashLoop.encodes_start latitudes longitudes
  have none : GeohashLoop.taken {} = 0 := rfl
  obtain ⟨t, returns, ends⟩ := encodes.loop precision (5 * precision) (Nat.zero_le _)
    (Nat.le_add_left _ _)
  obtain ⟨cell, first, second⟩ := ends.decode
  refine ⟨t.geohash, fun fuel enough => ?_, ends.complete.1, ends.encodes.alphabet, ?_,
    t.cell, cell, first, second, ends.encodes.has⟩
  · rw [generateGeohash, whileLoop_mono enough returns, Option.map_some]
  · intro shorter less fuel enough
    obtain ⟨u, returns', ends'⟩ := encodes.loop shorter fuel (Nat.zero_le _) (by omega)
    refine ⟨u.geohash, by rw [generateGeohash, returns', Option.map_some], ?_⟩
    -- the longer loop passes through the end of the shorter one
    obtain ⟨t', returns'', ends''⟩ := ends'.encodes.loop precision (5 * precision)
      (ends'.taken.trans_le (Nat.mul_le_mul_left 5 less)) (Nat.le_add_left _ _)
    have later : ∀ s : GeohashLoop, s.shorterThan shorter = true → s.shorterThan precision = true :=
      fun s goesOn => decide_eq_true ((of_decide_eq_true goesOn).trans_le less)
    have through := whileLoop_goOn later returns' returns''
    obtain rfl : t' = t := Option.some.inj
      (through.symm.trans (whileLoop_mono (by omega) returns))
    have begins := List.prefix_iff_eq_take.mp ends''.kept
    rw [String.length_toList, ends'.complete.1] at begins
    exact begins

example : generateGeohash 55 57.64911 10.40744 11 = some "u4pruydqqvj" := by decide +kernel

/-- A point in Paris, for three characters. -/
theorem geohash_of_paris :
    generateGeohash 15 48.85 2.35 3 = some "u09" ∧
      ∃ cell, decode "u09" = some cell ∧ cell.first.width = 45 / 32 ∧ cell.second.width = 45 / 32 ∧
        cell.Has 2.35 48.85 := by
  have written : generateGeohash 15 48.85 2.35 3 = some "u09" := by decide +kernel
  obtain ⟨geohash, returns, -, -, -, cell, read, first, second, has⟩ :=
    generateGeohash_correct 48.85 2.35 (by norm_num) (by norm_num) 3
  obtain rfl : "u09" = geohash := Option.some.inj (written.symm.trans (returns 15 le_rfl))
  exact ⟨written, cell, read, by rw [first]; norm_num, by rw [second]; norm_num, has⟩

end TwoGather
