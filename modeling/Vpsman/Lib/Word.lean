import Mathlib.Algebra.Order.Ring.Int

/-! # Machine words and identifiers

Unsigned 64-bit counters are natural numbers kept below `2 ^ 64` by the operations
that can leave that range: they either saturate or report the overflow.
-/

namespace Vpsman.Lib

def u64Max : Nat := 2 ^ 64 - 1

/-- `u64::saturating_add`. -/
def satAdd (a b : Nat) : Nat := min (a + b) u64Max

/-- `u64::saturating_mul`. -/
def satMul (a b : Nat) : Nat := min (a * b) u64Max

/-- `u64::checked_add`. -/
def checkedAdd (a b : Nat) : Option Nat := if a + b ≤ u64Max then some (a + b) else none

theorem checkedAdd_eq_some : checkedAdd a b = some sum ↔ a + b ≤ u64Max ∧ a + b = sum := by
  rw [checkedAdd, Option.ite_none_right_eq_some, Option.some_inj]

/-- A result of unsigned arithmetic that panics outside its type. -/
def within (bound result : Nat) : Option Nat := if result < bound then some result else none

/-- Unsigned subtraction that panics below zero. -/
def checkedSub (a b : Nat) : Option Nat := if b ≤ a then some (a - b) else none

theorem within_eq_some : within bound n = some result ↔ n < bound ∧ n = result := by
  rw [within, Option.ite_none_right_eq_some, Option.some_inj]

theorem checkedSub_eq_some : checkedSub a b = some difference ↔ b ≤ a ∧ a - b = difference := by
  rw [checkedSub, Option.ite_none_right_eq_some, Option.some_inj]

/-- `u64::saturating_add` on machine words. -/
def saturatingAdd (a b : UInt64) : UInt64 := UInt64.ofNat (satAdd a.toNat b.toNat)

/-- `u64::saturating_sub` on machine words. -/
def saturatingSub (a b : UInt64) : UInt64 := UInt64.ofNat (a.toNat - b.toNat)

theorem toNat_saturatingAdd : (saturatingAdd a b).toNat = min (a.toNat + b.toNat) u64Max := by
  have bound : satAdd a.toNat b.toNat < 2 ^ 64 := by
    simp only [satAdd, u64Max]
    omega
  rw [saturatingAdd, UInt64.toNat_ofNat_of_lt' bound, satAdd]

theorem toNat_saturatingSub : (saturatingSub a b).toNat = a.toNat - b.toNat := by
  have bound : a.toNat - b.toNat < 2 ^ 64 := Nat.lt_of_le_of_lt (Nat.sub_le _ _) a.toNat_lt
  rw [saturatingSub, UInt64.toNat_ofNat_of_lt' bound]

/-- `u64::to_be_bytes`. -/
def toBeBytes (word : UInt64) : List UInt8 :=
  ([56, 48, 40, 32, 24, 16, 8, 0] : List UInt64).map fun shift => (word >>> shift).toUInt8

/-- The bytes of a text as they are hashed. -/
def utf8Bytes (text : String) : List UInt8 := text.toUTF8.data.toList

/-- `Ord::clamp` for bounds in order. -/
def clamp (value low high : Nat) : Nat := max low (min value high)

/-- A monotonic clock reading or a distance between two readings, in nanoseconds. -/
abbrev Instant := Nat

def Instant.ofSecs (secs : Nat) : Instant := secs * 1000000000

abbrev Uuid := BitVec 128

instance : LawfulBEq Uuid := inferInstance

/-- The lowest `width` hexadecimal digits of `n`, most significant first. -/
def hexDigits : Nat → Nat → List Char
  | 0, _ => []
  | width + 1, n => hexDigits width (n / 16) ++ [Nat.digitChar (n % 16)]

/-- The hyphenated lower-case form in which identifiers appear in messages. -/
def Uuid.hyphenated (id : Uuid) : String :=
  let n := id.toNat
  String.ofList <| hexDigits 8 (n / 16 ^ 24) ++ '-' :: hexDigits 4 (n / 16 ^ 20) ++
    '-' :: hexDigits 4 (n / 16 ^ 16) ++ '-' :: hexDigits 4 (n / 16 ^ 12) ++ '-' :: hexDigits 12 n

end Vpsman.Lib
