import Mathlib.Algebra.Order.Ring.Int
import Mathlib.Data.List.DropRight
import Mathlib.Data.List.Infix

/-! # Text

White space as Unicode defines it, what trimming removes, and decimal numbers in names.
-/

namespace Vpsman.Lib

/-- `char::is_whitespace`. -/
def isWhitespace (c : Char) : Bool :=
  let code := c.toNat
  (0x09 ≤ code && code ≤ 0x0d) || code == 0x20 || code == 0x85 || code == 0xa0 ||
    code == 0x1680 || (0x2000 ≤ code && code ≤ 0x200a) || code == 0x2028 || code == 0x2029 ||
    code == 0x202f || code == 0x205f || code == 0x3000

abbrev Text := List Char

instance : LawfulBEq Text := inferInstance

/-- `str::trim`. -/
def trim (text : List Char) : List Char := (text.dropWhile isWhitespace).rdropWhile isWhitespace

theorem dropWhile_rdropWhile_eq_self {text : List Char}
    (none : ∀ c ∈ text, p c = false) : (text.dropWhile p).rdropWhile p = text := by
  have start : text.dropWhile p = text := by
    refine List.dropWhile_eq_self_iff.mpr fun long => ?_
    simp [none _ (List.getElem_mem long)]
  rw [start]
  refine List.rdropWhile_eq_self_iff.mpr fun nonempty => ?_
  simp [none _ (List.getLast_mem nonempty)]

/-- `str::to_ascii_lowercase`. -/
def asciiLower (text : Text) : Text := text.map Char.toLower

/-- The text around the first of these characters, `str::split_once`. -/
def splitOnce (separator : Char) : Text → Option (Text × Text)
  | [] => none
  | c :: rest =>
    if c = separator then some ([], rest)
    else (splitOnce separator rest).map fun (before, after) => (c :: before, after)

theorem splitOnce_append (absent : separator ∉ before)
    (after : Text) : splitOnce separator (before ++ separator :: after) = some (before, after) := by
  induction before with
  | nil => exact if_pos rfl
  | cons _ _ ih =>
    rw [List.mem_cons, not_or] at absent
    rw [List.cons_append, splitOnce, if_neg (Ne.symm absent.1), ih absent.2]
    rfl

theorem eq_append_of_splitOnce
    (split : splitOnce separator text = some (before, after)) : text = before ++ separator :: after := by
  induction text generalizing before with
  | nil => cases split
  | cons _ _ ih =>
    rw [splitOnce] at split
    split_ifs at split with same
    · cases split
      rw [same]
      rfl
    · obtain ⟨⟨before', after'⟩, found, pair⟩ := Option.map_eq_some_iff.mp split
      cases pair
      rw [ih found]
      rfl

/-- `str::starts_with`. -/
def startsWith (start : String) (text : Text) : Bool := start.toList.isPrefixOf text

/-- ASCII characters can be checked one by one. -/
theorem ascii_induction {p : Char → Prop} (all : ∀ n < 128, p (Char.ofNat n))
    (ascii : c.toNat < 128) : p c := by
  have this := all c.toNat ascii
  rwa [Char.ofNat_toNat] at this

theorem toLower_of_not_ascii {c : Char} (large : 128 ≤ c.toNat) : c.toLower = c := by
  unfold Char.toLower
  split
  next upper =>
    have small : c.toNat ≤ 90 := by simpa [UInt32.le_iff_toNat_le] using upper.2
    omega
  · rfl

theorem toLower_toLower (c : Char) : c.toLower.toLower = c.toLower := by
  by_cases ascii : c.toNat < 128
  · exact ascii_induction (p := fun c => c.toLower.toLower = c.toLower) (by decide) ascii
  · rw [toLower_of_not_ascii (Nat.le_of_not_lt ascii), toLower_of_not_ascii (Nat.le_of_not_lt ascii)]

theorem asciiLower_asciiLower : asciiLower (asciiLower text) = asciiLower text := by
  rw [asciiLower, asciiLower, List.map_map]
  exact List.map_congr_left fun c _ => toLower_toLower c

theorem asciiLower_trim_inj {text : Text} (same : asciiLower (trim text) = asciiLower text) :
    trim text = text := by
  have part : (trim text).Sublist text :=
    (List.rdropWhile_prefix _ _).sublist.trans (List.dropWhile_sublist _)
  exact part.eq_of_length (by simpa [asciiLower] using congrArg List.length same)

def utf8Length (text : Text) : Nat := (text.map Char.utf8Size).sum

theorem utf8Length_of_ascii {text : Text} (ascii : ∀ c ∈ text, c.toNat < 128) :
    utf8Length text = text.length := by
  induction text with
  | nil => rfl
  | cons c _ ih =>
    rw [List.forall_mem_cons] at ascii
    have small := Nat.le_of_lt_succ ascii.1
    have single : c.utf8Size = 1 := Char.utf8Size_eq_one_iff.mpr (UInt32.le_iff_toNat_le.mpr small)
    rw [List.length_cons, ← ih ascii.2, utf8Length, List.map_cons, List.sum_cons, single, Nat.add_comm]
    rfl

end Vpsman.Lib
