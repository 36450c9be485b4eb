import Vpsman.Lib.Text
import Vpsman.Lib.Word

/-! # Decimal numbers in text and bytes

What `parse` of the unsigned integer types accepts, the bytes of a number written in
decimal, and text taken back from its bytes.
-/

namespace Vpsman.Lib

def withoutSign : Text → Text
  | '+' :: rest => rest
  | text => text

/-- Digits, with a plus sign in front or without, that stay below the bound of the type. -/
def parseUnsigned (bound : Nat) (text : Text) : Option Nat :=
  let digits := withoutSign text
  if digits ≠ [] ∧ digits.all Char.isDigit then
    let value := Nat.ofDigitChars 10 digits 0
    if value < bound then some value else none
  else none

theorem isDigit_of_mem_digits (member : c ∈ Nat.toDigits 10 n) : c.isDigit :=
  Nat.isDigit_of_mem_toDigits (by decide) (by decide) member

theorem withoutSign_of_digits (digits : text.all Char.isDigit) : withoutSign text = text := by
  unfold withoutSign
  split
  · simp at digits
  · rfl

theorem parseUnsigned_digits (small : n < bound) :
    parseUnsigned bound (Nat.toDigits 10 n) = some n := by
  have digits : (Nat.toDigits 10 n).all Char.isDigit :=
    List.all_eq_true.mpr fun c member => isDigit_of_mem_digits member
  unfold parseUnsigned
  rw [withoutSign_of_digits digits, if_pos ⟨Nat.toDigits_ne_nil, digits⟩,
    Nat.ofDigitChars_toDigits (by decide) (by decide), if_pos small]

/-- `String::from_utf8`. -/
def fromUtf8 (bytes : List UInt8) : Option String := String.fromUTF8? ⟨bytes.toArray⟩

theorem fromUtf8_utf8Bytes : fromUtf8 (utf8Bytes text) = some text := by
  exact dif_pos text.isValidUTF8

theorem utf8Bytes_ofList (text : Text) :
    utf8Bytes (String.ofList text) = text.flatMap String.utf8EncodeChar := by
  unfold utf8Bytes String.toUTF8
  rw [String.toByteArray_ofList, List.utf8Encode, List.toList_data_toByteArray]

theorem utf8Bytes_ascii {text : Text} (ascii : ∀ c ∈ text, c.toNat < 128) :
    utf8Bytes (String.ofList text) = text.map fun c => UInt8.ofNat c.toNat := by
  rw [utf8Bytes_ofList, List.map_eq_flatMap]
  refine List.flatMap_congr fun c member => ?_
  exact ascii_induction (p := fun c => String.utf8EncodeChar c = [UInt8.ofNat c.toNat]) (by decide)
    (ascii c member)

theorem ascii_of_isDigit {c : Char} (digit : c.isDigit) : c.toNat < 128 :=
  (Char.isDigit_iff_toNat.mp digit).2.trans_lt (by decide)

theorem utf8Bytes_digits :
    utf8Bytes (String.ofList (Nat.toDigits 10 n)) =
      (Nat.toDigits 10 n).map fun c => UInt8.ofNat c.toNat :=
  utf8Bytes_ascii fun _ member => ascii_of_isDigit (isDigit_of_mem_digits member)

theorem newline_notMem_digits : 10 ∉ utf8Bytes (String.ofList (Nat.toDigits 10 n)) := by
  rw [utf8Bytes_digits, List.mem_map]
  rintro ⟨c, member, newline⟩
  have digit := isDigit_of_mem_digits member
  exact ascii_induction (p := fun c => c.isDigit → UInt8.ofNat c.toNat ≠ 10) (by decide)
    (ascii_of_isDigit digit) digit newline

end Vpsman.Lib
