import Mathlib.Tactic.IntervalCases

/-! # Hexadecimal text

Encoding writes lower-case digits; decoding accepts both cases and refuses an odd
number of digits. Decoding is therefore a left inverse of encoding, and it is not
injective: texts that differ in the case of a digit decode alike.
-/

namespace Vpsman.Lib.Hex

def digit (c : Char) : Option Nat :=
  if '0' ≤ c ∧ c ≤ '9' then some (c.toNat - '0'.toNat)
  else if 'a' ≤ c ∧ c ≤ 'f' then some (c.toNat - 'a'.toNat + 10)
  else if 'A' ≤ c ∧ c ≤ 'F' then some (c.toNat - 'A'.toNat + 10)
  else none

def decode : List Char → Option (List UInt8)
  | [] => some []
  | [_] => none
  | high :: low :: rest => do
    let high ← digit high
    let low ← digit low
    let rest ← decode rest
    return UInt8.ofNat (high * 16 + low) :: rest

def encode : List UInt8 → List Char
  | [] => []
  | byte :: rest =>
    Nat.digitChar (byte.toNat / 16) :: Nat.digitChar (byte.toNat % 16) :: encode rest

theorem digit_digitChar (small : n < 16) : digit (Nat.digitChar n) = some n := by
  interval_cases n <;> rfl

theorem decode_encode : decode (encode bytes) = some bytes := by
  induction bytes with
  | nil => rfl
  | cons byte _ ih =>
    have bound := byte.toNat_lt
    have high : byte.toNat / 16 < 16 := by omega
    have low : byte.toNat % 16 < 16 := by omega
    have whole : byte.toNat / 16 * 16 + byte.toNat % 16 = byte.toNat := by omega
    simp only [encode, decode, digit_digitChar high, digit_digitChar low, ih,
      Option.bind_eq_bind, Option.bind_some, Option.pure_def, whole, UInt8.ofNat_toNat]

@[simp] theorem length_encode : (encode bytes).length = 2 * bytes.length := by
  induction bytes with
  | nil => rfl
  | cons _ _ ih =>
    rw [encode, List.length_cons, List.length_cons, ih, List.length_cons]
    omega

/-- What holds of the sixteen digits holds of every character. -/
theorem forall_mem_encode {p : Char → Prop} (all : ∀ n < 16, p (Nat.digitChar n)) :
    ∀ c ∈ encode bytes, p c := by
  induction bytes with
  | nil => exact fun _ member => absurd member List.not_mem_nil
  | cons byte _ ih =>
    have bound := byte.toNat_lt
    rw [encode, List.forall_mem_cons, List.forall_mem_cons]
    exact ⟨all _ (by omega), all _ (by omega), ih⟩

end Vpsman.Lib.Hex
