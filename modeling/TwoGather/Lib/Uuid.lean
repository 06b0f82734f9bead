import Mathlib.Algebra.Group.Nat.Defs

/-!
# Version 1 UUIDs

A version 1 UUID is a count of 100 ns ticks, a clock sequence and a node. Its text form
has five groups of hexadecimal digits, and the first one shows the low 32 bits of the
count alone, so two UUIDs begin with the same group exactly when their counts agree
modulo 2 ^ 32 (`firstGroup_eq_iff`), which is about every 429.5 seconds.
-/

namespace Uuids

/-! ## Hexadecimal digits -/

/-- The lowest `width` hexadecimal digits of a number, the highest one first. -/
def hex : Nat → Nat → List Char
  | 0, _ => []
  | width + 1, n => hex width (n / 16) ++ [Nat.digitChar (n % 16)]

theorem digitChar_inj {m n : Nat} (first : m < 16) (second : n < 16) :
    Nat.digitChar m = Nat.digitChar n ↔ m = n := by
  have all : ∀ m n : Fin 16, Nat.digitChar m = Nat.digitChar n → m = n := by decide
  constructor
  · intro same
    exact congrArg Fin.val (all ⟨m, first⟩ ⟨n, second⟩ same)
  · intro same
    rw [same]

theorem dash_ne_digitChar {n : Nat} (digit : n < 16) : '-' ≠ Nat.digitChar n := by
  have all : ∀ n : Fin 16, '-' ≠ Nat.digitChar n := by decide
  exact all ⟨n, digit⟩

theorem dash_notMem_hex (width n : Nat) : '-' ∉ hex width n := by
  induction width generalizing n with
  | zero => exact List.not_mem_nil
  | succ width ih =>
      rw [hex, List.mem_append, List.mem_singleton, not_or]
      exact ⟨ih (n / 16), dash_ne_digitChar (Nat.mod_lt n (by omega))⟩

/-- The digits show a number modulo a power of sixteen. -/
theorem hex_eq_iff {width m n : Nat} :
    hex width m = hex width n ↔ m % 16 ^ width = n % 16 ^ width := by
  induction width generalizing m n with
  | zero => simp only [hex, Nat.pow_zero, Nat.mod_one]
  | succ width ih =>
      have last : m % 16 = n % 16 ↔ Nat.digitChar (m % 16) = Nat.digitChar (n % 16) :=
        (digitChar_inj (Nat.mod_lt m (by omega)) (Nat.mod_lt n (by omega))).symm
      have low : ∀ k, k % 16 ^ (width + 1) = k % 16 + 16 * (k / 16 % 16 ^ width) := by
        intro k
        rw [Nat.pow_succ, Nat.mul_comm, Nat.mod_mul]
      rw [low m, low n]
      constructor
      · intro same
        obtain ⟨front, back⟩ := List.append_inj' same rfl
        have digits := ih.mp front
        have digit := last.mpr (List.singleton_inj.mp back)
        omega
      · intro same
        have digit : m % 16 = n % 16 := by omega
        have digits : m / 16 % 16 ^ width = n / 16 % 16 ^ width := by omega
        rw [hex, hex, ih.mpr digits, last.mp digit]

/-! ## The text form -/

/-- A version 1 UUID. -/
structure Uuid where
  ticks : BitVec 60
  clockSeq : BitVec 14
  node : BitVec 48
  deriving DecidableEq

namespace Uuid

/-- The low 32 bits of the count of ticks. -/
def timeLow (u : Uuid) : Nat :=
  u.ticks.toNat % 2 ^ 32

def timeMid (u : Uuid) : Nat :=
  u.ticks.toNat / 2 ^ 32 % 2 ^ 16

/-- The version, 1, stands before the high bits of the count. -/
def timeHiAndVersion (u : Uuid) : Nat :=
  1 * 2 ^ 12 + u.ticks.toNat / 2 ^ 48

/-- The variant, binary 10, stands before the clock sequence. -/
def clockSeqAndVariant (u : Uuid) : Nat :=
  2 * 2 ^ 14 + u.clockSeq.toNat

def text (u : Uuid) : List Char :=
  hex 8 u.timeLow ++ '-' :: (hex 4 u.timeMid ++ '-' :: (hex 4 u.timeHiAndVersion ++ '-' ::
    (hex 4 u.clockSeqAndVariant ++ '-' :: hex 12 u.node.toNat)))

/-- `uuid.split("-")[0]`. -/
def firstGroup (u : Uuid) : String :=
  String.ofList ((u.text.splitOn '-').headD [])

theorem firstGroup_eq (u : Uuid) : u.firstGroup = String.ofList (hex 8 u.timeLow) := by
  unfold firstGroup text
  rw [List.splitOn_append_cons_self_of_not_mem (dash_notMem_hex 8 u.timeLow)]
  rfl

/-- Two UUIDs begin with the same group exactly when their counts have the same low bits. -/
theorem firstGroup_eq_iff {u v : Uuid} : u.firstGroup = v.firstGroup ↔ u.timeLow = v.timeLow := by
  rw [firstGroup_eq, firstGroup_eq, String.ofList_inj, hex_eq_iff]
  have width : 16 ^ 8 = 2 ^ 32 := rfl
  simp only [timeLow, width, Nat.mod_mod]

end Uuid

end Uuids
