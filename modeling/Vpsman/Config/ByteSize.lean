import Mathlib.Algebra.Order.Floor.Semifield
import Mathlib.Data.Rat.Floor
import Vpsman.Lib.Check
import Vpsman.Lib.Decimal

/-! # Byte sizes in VPS rules

A size is a decimal number with a unit. The fraction is multiplied digit by digit from its end,
so that the last digit a product leaves is the first one after the point.
-/

namespace Vpsman.Config

open Vpsman.Lib

def checkedU128 (n : Nat) : Except String Nat :=
  if n < 2 ^ 128 then .ok n else .error "byte_size_too_large"

def toI64 (n : Nat) : Except String Nat :=
  if n < 2 ^ 63 then .ok n else .error "byte_size_too_large"

/-- The carry and the tenths after one more digit of the fraction. -/
def multiplyDigit (multiplier : Nat) (digit : Char) (carry : Nat) : Except String (Nat × Nat) := do
  let product ← checkedU128 ((digit.toNat - '0'.toNat) * multiplier)
  let product ← checkedU128 (product + carry)
  return (product / 10, product % 10)

def multiplyFraction (multiplier : Nat) (fraction : Text) : Except String (Nat × Nat) :=
  fraction.foldrM (fun digit state => multiplyDigit multiplier digit state.1) (0, 0)

def parseWhole (whole : Text) : Except String Nat :=
  let normalizedWhole := whole.dropWhile (· = '0')
  if normalizedWhole.isEmpty then .ok 0
  else
    match parseUnsigned (2 ^ 128) normalizedWhole with
    | some value => .ok value
    | none => .error "byte_size_too_large"

def checkedDecimalTimesMultiplier (whole fraction : Text) (multiplier : Nat) :
    Except String Nat := do
  let wholeValue ← parseWhole whole
  let wholeScaled ← checkedU128 (wholeValue * multiplier)
  let (carry, remainderTenths) ← multiplyFraction multiplier fraction
  let fractionalScaled ← (if 5 ≤ remainderTenths then checkedU128 (carry + 1) else .ok carry)
  let scaled ← checkedU128 (wholeScaled + fractionalScaled)
  toI64 scaled

def byteUnit (suffix : Text) : Except String (String × Nat) :=
  match String.ofList suffix with
  | "" => .ok ("", 1)
  | "b" => .ok ("B", 1)
  | "kb" => .ok ("KB", 1000)
  | "mb" => .ok ("MB", 1000000)
  | "gb" => .ok ("GB", 1000000000)
  | "tb" => .ok ("TB", 1000000000000)
  | "kib" => .ok ("KiB", 1024)
  | "mib" => .ok ("MiB", 1048576)
  | "gib" => .ok ("GiB", 1073741824)
  | "tib" => .ok ("TiB", 1099511627776)
  | _ => .error "byte_size_unit_invalid"

def normalizeDecimalText (whole fraction : Text) : Text :=
  let whole := whole.dropWhile (· = '0')
  let whole := if whole.isEmpty then ['0'] else whole
  let fraction := fraction.rdropWhile (· = '0')
  if fraction.isEmpty then whole else whole ++ '.' :: fraction

def parseByteSize (raw : Text) : Except String (Nat × Text) := do
  let value := trim raw
  demand (value ≠ []) "byte_size_empty"
  let number := value.takeWhile fun c => c.isDigit || c == '.'
  let suffix := asciiLower (trim (value.drop number.length))
  let (unit, multiplier) ← byteUnit suffix
  let (whole, fraction) := (splitOnce '.' number).getD (number, [])
  demand (whole ≠ [] ∧ whole.all Char.isDigit ∧ fraction.all Char.isDigit ∧ number.count '.' ≤ 1)
    "byte_size_number_invalid"
  demand ((whole ++ fraction).any (· ≠ '0')) "byte_size_number_invalid"
  let bytes ← checkedDecimalTimesMultiplier whole fraction multiplier
  return (bytes, normalizeDecimalText whole fraction ++ unit.toList)

/-- The number that the digits before and after the point stand for. -/
def decimal (whole fraction : Text) : ℚ :=
  Nat.ofDigitChars 10 (whole ++ fraction) 0 / 10 ^ fraction.length

variable {whole fraction : Text} {multiplier : Nat}

theorem checkedU128_bind
    (fits : next n = toI64 result) (least : n ≤ result) : (checkedU128 n >>= next) = toI64 result := by
  unfold checkedU128
  split
  case isTrue small => exact fits
  case isFalse large =>
      rw [toI64, if_neg (by omega)]
      rfl

theorem byteUnit_bounds
    (known : byteUnit suffix = .ok (unit, multiplier)) : 0 < multiplier ∧ multiplier ≤ 2 ^ 40 := by
  unfold byteUnit at known
  split at known <;> cases known <;> decide

theorem digit_le {c : Char} (digit : c.isDigit) : c.toNat - '0'.toNat ≤ 9 :=
  Nat.sub_le_of_le_add (Char.isDigit_iff_toNat.mp digit).2

theorem ofDigitChars_first (rest : Text) :
    Nat.ofDigitChars 10 (c :: rest) 0 =
      10 ^ rest.length * (c.toNat - '0'.toNat) + Nat.ofDigitChars 10 rest 0 := by
  rw [Nat.ofDigitChars_cons, Nat.ofDigitChars_eq_ofDigitChars_zero, Nat.mul_zero, Nat.zero_add]

theorem ofDigitChars_lt (digits : fraction.all Char.isDigit) :
    Nat.ofDigitChars 10 fraction 0 < 10 ^ fraction.length := by
  induction fraction with
  | nil => decide
  | cons _ fraction ih =>
    rw [List.all_cons, Bool.and_eq_true] at digits
    have first := Nat.mul_le_mul_left (10 ^ fraction.length) (digit_le digits.1)
    have rest := ih digits.2
    rw [ofDigitChars_first, List.length_cons, pow_succ]
    omega

/-- What the digits have multiplied to, and its first digit after the point. -/
theorem multiplyFraction_eq (digits : fraction.all Char.isDigit) (small : multiplier ≤ 2 ^ 40) :
    multiplyFraction multiplier fraction =
      .ok (Nat.ofDigitChars 10 fraction 0 * multiplier / 10 ^ fraction.length,
        10 * (Nat.ofDigitChars 10 fraction 0 * multiplier) / 10 ^ fraction.length % 10) := by
  induction fraction with
  | nil => simp; rfl
  | cons _ fraction ih =>
    rw [List.all_cons, Bool.and_eq_true] at digits
    have positive : 0 < 10 ^ fraction.length := by positivity
    have first := Nat.mul_le_mul_right multiplier (digit_le digits.1)
    have carry : Nat.ofDigitChars 10 fraction 0 * multiplier / 10 ^ fraction.length ≤ multiplier :=
      Nat.div_le_of_le_mul (Nat.mul_le_mul_right _ (ofDigitChars_lt digits.2).le)
    rw [multiplyFraction, List.foldrM_cons, ← multiplyFraction, ih digits.2,
      ofDigitChars_first, List.length_cons, pow_succ', Nat.mul_div_mul_left _ _ (by decide),
      Nat.mul_comm 10 (10 ^ _), ← Nat.div_div_eq_div_mul, Nat.add_mul, Nat.mul_assoc,
      Nat.mul_add_div positive]
    simp only [multiplyDigit, checkedU128]
    rw [if_pos (by omega)]
    simp only [bind, Except.bind]
    rw [if_pos (by omega)]
    rfl

theorem half_up (positive : 0 < scale) :
    (if 5 ≤ 10 * n / scale % 10 then n / scale + 1 else n / scale) =
      (2 * n + scale) / (2 * scale) := by
  have split := Nat.div_add_mod n scale
  have rest := Nat.mod_lt n positive
  generalize n / scale = quotient at *
  generalize n % scale = remainder at *
  have tenths : 10 * n / scale % 10 = 10 * remainder / scale := by
    rw [← split, Nat.mul_add, Nat.mul_left_comm, Nat.mul_add_div positive, Nat.mul_add_mod]
    exact Nat.mod_eq_of_lt (Nat.div_lt_of_lt_mul (by omega))
  have whole : (2 * n + scale) / (2 * scale) = quotient + (2 * remainder + scale) / (2 * scale) := by
    rw [← Nat.mul_add_div (by omega : 0 < 2 * scale), ← split]
    congr 1
    ring
  simp only [tenths, whole, Nat.le_div_iff_mul_le positive]
  split
  · rw [Nat.div_eq_of_lt_le (k := 1) (by omega) (by omega)]
  · rw [Nat.div_eq_of_lt (by omega), Nat.add_zero]

theorem floor_decimal :
    ⌊decimal whole fraction * multiplier + 1 / 2⌋₊ =
      Nat.ofDigitChars 10 whole 0 * multiplier +
        (2 * (Nat.ofDigitChars 10 fraction 0 * multiplier) + 10 ^ fraction.length) /
          (2 * 10 ^ fraction.length) := by
  rw [← Nat.mul_add_div (by positivity), ← Nat.floor_div_eq_div (K := ℚ), decimal,
    Nat.ofDigitChars_append, Nat.ofDigitChars_eq_ofDigitChars_zero]
  congr 1
  push_cast
  field_simp
  ring

theorem ofDigitChars_dropWhile (text : Text) :
    Nat.ofDigitChars 10 (text.dropWhile (· = '0')) 0 = Nat.ofDigitChars 10 text 0 := by
  induction text with
  | nil => rfl
  | cons c _ ih =>
    by_cases zero : c = '0'
    · subst zero
      simpa [Nat.ofDigitChars_cons] using ih
    · simp [zero]

theorem parseWhole_eq (digits : whole.all Char.isDigit) :
    parseWhole whole = checkedU128 (Nat.ofDigitChars 10 whole 0) := by
  have kept : (whole.dropWhile (· = '0')).all Char.isDigit :=
    List.all_eq_true.mpr fun c member =>
      List.all_eq_true.mp digits c ((List.dropWhile_sublist _).subset member)
  rw [← ofDigitChars_dropWhile]
  unfold parseWhole parseUnsigned checkedU128
  generalize whole.dropWhile (· = '0') = normalized at *
  cases normalized with
  | nil => simp
  | cons c rest =>
    rw [if_neg (by simp), withoutSign_of_digits kept, if_pos ⟨by simp, kept⟩]
    by_cases small : Nat.ofDigitChars 10 (c :: rest) 0 < 2 ^ 128
    · rw [if_pos small, if_pos small]
    · rw [if_neg small, if_neg small]

theorem checkedDecimalTimesMultiplier_eq (bounds : 0 < multiplier ∧ multiplier ≤ 2 ^ 40)
    (digits : whole.all Char.isDigit ∧ fraction.all Char.isDigit) :
    checkedDecimalTimesMultiplier whole fraction multiplier =
      toI64 ⌊decimal whole fraction * multiplier + 1 / 2⌋₊ := by
  have least := Nat.le_mul_of_pos_right (Nat.ofDigitChars 10 whole 0) bounds.1
  rw [floor_decimal, ← half_up (by positivity), checkedDecimalTimesMultiplier,
    parseWhole_eq digits.1, multiplyFraction_eq digits.2 bounds.2]
  generalize Nat.ofDigitChars 10 fraction 0 * multiplier / 10 ^ fraction.length = carry
  generalize 10 * (Nat.ofDigitChars 10 fraction 0 * multiplier) / 10 ^ fraction.length % 10 = tenths
  refine checkedU128_bind (checkedU128_bind ?_ (by omega)) (by omega)
  change ((if 5 ≤ tenths then checkedU128 (carry + 1) else .ok carry) >>= fun scaled =>
    checkedU128 (Nat.ofDigitChars 10 whole 0 * multiplier + scaled) >>= toI64) = _
  split
  · exact checkedU128_bind (checkedU128_bind rfl le_rfl) (by omega)
  · exact checkedU128_bind rfl le_rfl

/-- The product is exact and rounded half up, and only one that does not fit is refused. -/
theorem checkedDecimalTimesMultiplier_rounds_half_up {suffix : Text} {unit : String}
    (known : byteUnit suffix = .ok (unit, multiplier))
    (digits : whole.all Char.isDigit ∧ fraction.all Char.isDigit) :
    checkedDecimalTimesMultiplier whole fraction multiplier =
      toI64 ⌊decimal whole fraction * multiplier + 1 / 2⌋₊ :=
  checkedDecimalTimesMultiplier_eq (byteUnit_bounds known) digits

/-- 1.5 bytes are two. -/
theorem half_byte_rounded_up :
    byteUnit ['b'] = .ok ("B", 1) ∧
      checkedDecimalTimesMultiplier ['1'] ['5'] 1 = toI64 ⌊decimal ['1'] ['5'] * (1 : Nat) + 1 / 2⌋₊ ∧
      checkedDecimalTimesMultiplier ['1'] ['5'] 1 = .ok 2 := by
  have known : byteUnit ['b'] = .ok ("B", 1) := rfl
  exact ⟨known, checkedDecimalTimesMultiplier_rounds_half_up known (by decide), by decide⟩

/-- A text is read as a size exactly if it is a number with at most one point, not zero, and a
    known unit, and the product rounded half up fits. -/
theorem parseByteSize_ok_iff : parseByteSize raw = .ok (bytes, normalized) ↔
    let number := (trim raw).takeWhile fun c => c.isDigit || c == '.'
    let (whole, fraction) := (splitOnce '.' number).getD (number, [])
    trim raw ≠ [] ∧ ∃ unit multiplier,
      byteUnit (asciiLower (trim ((trim raw).drop number.length))) = .ok (unit, multiplier) ∧
      (whole ≠ [] ∧ whole.all Char.isDigit ∧ fraction.all Char.isDigit ∧ number.count '.' ≤ 1) ∧
      (whole ++ fraction).any (· ≠ '0') ∧
      toI64 ⌊decimal whole fraction * multiplier + 1 / 2⌋₊ = .ok bytes ∧
      normalizeDecimalText whole fraction ++ unit.toList = normalized := by
  simp only [parseByteSize, bind_ok, demand_ok, exists_const, Prod.exists]
  generalize (trim raw).takeWhile (fun c => c.isDigit || c == '.') = number
  generalize (splitOnce '.' number).getD (number, []) = split
  refine and_congr_right fun _ => exists_congr fun unit => exists_congr fun multiplier =>
    and_congr_right fun known => and_congr_right fun digits => and_congr_right fun _ => ?_
  rw [checkedDecimalTimesMultiplier_eq (byteUnit_bounds known) ⟨digits.2.1, digits.2.2.1⟩]
  simp [pure, Except.pure]

end Vpsman.Config
