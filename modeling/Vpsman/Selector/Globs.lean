import Vpsman.Selector.Matching

/-! # What a glob matches

The matcher compares bytes and takes a character that equals the pattern's before it looks for a
star. Both show on some pairs: a question mark is one byte of a longer character, and a star in
the value uses up a star of the pattern.
-/

namespace Vpsman.Selector

open Vpsman.Lib

def Ascii (text : Text) : Prop := ∀ c ∈ text, c.toNat < 128

instance : DecidablePred Ascii := fun text => List.decidableBAll (fun c : Char => c.toNat < 128) text

variable {c : Char} {value pattern : Text}

theorem Ascii.cons (ascii : Ascii (c :: text)) : c.toNat < 128 ∧ Ascii text :=
  List.forall_mem_cons.mp ascii

/-! ## Characters in bytes -/

/-- The byte is not the first of a character. -/
def Continues (byte : UInt8) : Prop := 128 ≤ byte.toNat ∧ byte.toNat < 192

theorem encode_ascii (ascii : c.toNat < 128) : String.utf8EncodeChar c = [UInt8.ofNat c.toNat] :=
  ascii_induction (p := fun c => String.utf8EncodeChar c = [UInt8.ofNat c.toNat]) (by decide) ascii

theorem encode_wide (wide : ¬ c.toNat < 128) :
    ∃ lead rest, String.utf8EncodeChar c = lead :: rest ∧ 192 ≤ lead.toNat ∧
      ∀ byte ∈ rest, Continues byte := by
  have large : ¬ c.val.toNat ≤ 127 := by simp only [Char.toNat] at wide; omega
  simp only [String.utf8EncodeChar, large, if_false]
  split
  · exact ⟨_, _, rfl, by simp; omega, by simp [Continues]; omega⟩
  · split
    all_goals exact ⟨_, _, rfl, by simp; omega, by simp [Continues]; omega⟩

theorem encode_cons (c : Char) :
    ∃ lead rest, String.utf8EncodeChar c = lead :: rest ∧ ¬ Continues lead ∧
      (∀ byte ∈ rest, Continues byte) ∧ (c.toNat < 128 → rest = []) := by
  by_cases narrow : c.toNat < 128
  · refine ⟨_, [], encode_ascii narrow, ?_, nofun, fun _ => rfl⟩
    simp only [Continues, UInt8.toNat_ofNat']
    omega
  · obtain ⟨lead, rest, encoded, large, continues⟩ := encode_wide narrow
    exact ⟨lead, rest, encoded, fun small => absurd small.2 (by omega), continues,
      fun ascii => absurd ascii narrow⟩

theorem mem_encode {d : Char} (ascii : d.toNat < 128) :
    UInt8.ofNat d.toNat ∈ String.utf8EncodeChar c ↔ c = d := by
  have number : (UInt8.ofNat d.toNat).toNat = d.toNat := by
    rw [UInt8.toNat_ofNat']
    omega
  by_cases narrow : c.toNat < 128
  · rw [encode_ascii narrow, List.mem_singleton]
    constructor
    · intro same
      have numbers := congrArg UInt8.toNat same
      simp only [UInt8.toNat_ofNat'] at numbers
      exact Char.toNat_inj.mp (by omega)
    · rintro rfl
      rfl
  · obtain ⟨lead, rest, encoded, large, continues⟩ := encode_wide narrow
    constructor
    · intro member
      rw [encoded, List.mem_cons] at member
      rcases member with rfl | member
      · omega
      · have := (continues _ member).1
        omega
    · rintro rfl
      exact absurd ascii narrow

theorem mem_utf8Bytes {d : Char} (ascii : d.toNat < 128) :
    UInt8.ofNat d.toNat ∈ utf8Bytes value ↔ d ∈ value := by
  simp [utf8Bytes, mem_encode ascii]

/-- The bytes of a character tell it, whatever follows. -/
theorem encode_append_inj {d : Char} {first second : List UInt8}
    (same : String.utf8EncodeChar c ++ first = String.utf8EncodeChar d ++ second) :
    c = d ∧ first = second := by
  have read (c : Char) (rest : List UInt8) :
      (String.utf8EncodeChar c ++ rest).toByteArray.utf8DecodeChar? 0 = some c := by
    rw [List.toByteArray_append]
    apply ByteArray.utf8DecodeChar?_append_eq_some
    rw [← List.utf8Encode_singleton]
    exact List.utf8DecodeChar?_utf8Encode_singleton
  obtain rfl : c = d := Option.some_inj.mp ((read c first).symm.trans (same ▸ read d second))
  exact ⟨rfl, List.append_cancel_left same⟩

/-- A rest of the bytes is a rest of the text behind what is left of a broken character. -/
theorem utf8Bytes_eq_append {text : Text} {before left : List UInt8}
    (whole : utf8Bytes text = before ++ left) :
    ∃ any after broken, text = any ++ after ∧ left = broken ++ utf8Bytes after ∧
      (∀ byte ∈ broken, Continues byte) ∧ (Ascii text → broken = []) := by
  induction text generalizing before with
  | nil =>
    obtain ⟨rfl, rfl⟩ := List.nil_eq_append_iff.mp whole
    exact ⟨[], [], [], rfl, rfl, nofun, fun _ => rfl⟩
  | cons c text ih =>
    obtain ⟨lead, rest, encoded, -, continues, narrow⟩ := encode_cons c
    have bytes : utf8Bytes (c :: text) = lead :: (rest ++ utf8Bytes text) := by
      rw [utf8Bytes, List.flatMap_cons, encoded]
      rfl
    cases before with
    | nil => exact ⟨[], c :: text, [], rfl, by simpa using whole.symm, nofun, fun _ => rfl⟩
    | cons _ before =>
      rw [bytes, List.cons_append, List.cons.injEq] at whole
      obtain ⟨more, -, later⟩ | ⟨broken, rfl, rfl⟩ := List.append_eq_append_iff.mp whole.2
      · obtain ⟨any, after, broken, rfl, rfl, continues, narrow⟩ := ih later
        exact ⟨c :: any, after, broken, rfl, rfl, continues, fun ascii => narrow ascii.cons.2⟩
      · refine ⟨[c], text, broken, rfl, rfl, fun byte member => ?_, fun ascii => ?_⟩
        · exact continues byte (List.mem_append_right _ member)
        · exact (List.append_eq_nil_iff.mp (narrow ascii.cons.1)).2

/-! ## Patterns in bytes -/

theorem utf8Bytes_cons (c : Char) (text : Text) :
    utf8Bytes (c :: text) = String.utf8EncodeChar c ++ utf8Bytes text := List.flatMap_cons

/-- Neither wildcard is among the bytes of another character. -/
theorem plain_encode (star : c ≠ '*') (question : c ≠ '?') :
    ∀ byte ∈ String.utf8EncodeChar c, byte ≠ 42 ∧ byte ≠ 63 := by
  refine fun byte member => ⟨?_, ?_⟩
  · rintro rfl
    exact star ((@mem_encode c '*' (by decide)).mp member)
  · rintro rfl
    exact question ((@mem_encode c '?' (by decide)).mp member)

/-- A question mark takes one byte, so it may meet ASCII only; a star can stop within a
    character, and then the rest of that character is left to another star. -/
theorem obtained_of_utf8Bytes (readable : Ascii value ∧ broken = [] ∨ '?' ∉ pattern)
    (continues : ∀ byte ∈ broken, Continues byte)
    (obtained : Obtained 63 42 (utf8Bytes pattern) (broken ++ utf8Bytes value)) :
    Obtained '?' '*' pattern value := by
  induction pattern generalizing broken value with
  | nil =>
    obtain ⟨-, empty⟩ := List.append_eq_nil_iff.mp obtained
    cases value with
    | nil => rfl
    | cons c =>
      obtain ⟨lead, rest, encoded, -⟩ := encode_cons c
      simp [utf8Bytes_cons, encoded] at empty
  | cons p pattern ih =>
    have readable' : Ascii value ∧ broken = [] ∨ '?' ∉ pattern :=
      readable.imp_right List.not_mem_of_not_mem_cons
    rw [utf8Bytes_cons] at obtained
    by_cases star : p = '*'
    · subst star
      obtain ⟨any, left, split, obtained⟩ := obtained_star.mp obtained
      obtain ⟨more, -, later⟩ | ⟨more, rfl, rfl⟩ := List.append_eq_append_iff.mp split
      · obtain ⟨any, after, broken', rfl, rfl, continues', narrow⟩ := utf8Bytes_eq_append later
        refine obtained_star.mpr ⟨any, after, rfl, ih (readable'.imp_left ?_) continues' obtained⟩
        exact fun ascii => ⟨(List.forall_mem_append.mp ascii.1).2, narrow ascii.1⟩
      · refine obtained_star.mpr ⟨[], value, rfl, ih (readable'.imp_left ?_) ?_ obtained⟩
        · exact fun ascii => ⟨ascii.1, (List.append_eq_nil_iff.mp ascii.2).2⟩
        · exact fun byte member => continues byte (List.mem_append_right _ member)
    by_cases question : p = '?'
    · subst question
      obtain ⟨ascii, rfl⟩ := readable.resolve_right (· List.mem_cons_self)
      cases value with
      | nil => simp [Obtained, utf8Bytes, encode_ascii] at obtained
      | cons c value =>
        rw [List.nil_append, utf8Bytes_cons, encode_ascii ascii.cons.1] at obtained
        have rest := ((obtained_cons (by decide)).mp obtained).2
        exact (obtained_cons star).mpr ⟨.inl rfl, ih (.inl ⟨ascii.cons.2, rfl⟩) continues rest⟩
    · obtain ⟨left, whole, obtained⟩ := (obtained_literal (plain_encode star question)).mp obtained
      obtain ⟨lead, rest, encoded, first, -⟩ := encode_cons p
      cases broken with
      | cons byte =>
        rw [encoded, List.cons_append, List.cons_append, List.cons.injEq] at whole
        exact absurd (whole.1 ▸ continues byte List.mem_cons_self) first
      | nil =>
        cases value with
        | nil => simp [utf8Bytes, encoded] at whole
        | cons c value =>
          rw [List.nil_append, utf8Bytes_cons] at whole
          obtain ⟨rfl, rfl⟩ := encode_append_inj whole
          refine (obtained_cons star).mpr
            ⟨.inr rfl, @ih value [] (readable'.imp_left ?_) continues obtained⟩
          exact fun ascii => ⟨ascii.1.cons.2, rfl⟩

theorem utf8Bytes_of_obtained (readable : Ascii value ∨ '?' ∉ pattern)
    (obtained : Obtained '?' '*' pattern value) :
    Obtained 63 42 (utf8Bytes pattern) (utf8Bytes value) := by
  induction pattern generalizing value with
  | nil =>
    obtain rfl : value = [] := obtained
    rfl
  | cons p pattern ih =>
    have readable' : Ascii value ∨ '?' ∉ pattern := readable.imp_right List.not_mem_of_not_mem_cons
    rw [utf8Bytes_cons]
    by_cases star : p = '*'
    · subst star
      obtain ⟨any, left, rfl, rest⟩ := obtained_star.mp obtained
      refine obtained_star.mpr ⟨utf8Bytes any, utf8Bytes left, List.flatMap_append, ih ?_ rest⟩
      exact readable'.imp_left fun ascii => (List.forall_mem_append.mp ascii).2
    cases value with
    | nil => simp [Obtained, star] at obtained
    | cons c value =>
      obtain ⟨fit, obtained⟩ := (obtained_cons star).mp obtained
      have rest := ih (readable'.imp_left fun ascii => ascii.cons.2) obtained
      rw [utf8Bytes_cons]
      by_cases question : p = '?'
      · subst question
        have ascii := readable.resolve_right (· List.mem_cons_self)
        rw [encode_ascii ascii.cons.1]
        exact (obtained_cons (by decide)).mpr ⟨.inl rfl, rest⟩
      · obtain rfl := fit.resolve_left question
        exact (obtained_literal (plain_encode star question)).mpr ⟨_, rfl, rest⟩

/-- The matcher means what the pattern says when its question marks meet ASCII only and stars
    are in the value or in the pattern, not in both. -/
theorem globMatches_means_pattern (value pattern : Text) (readable : Ascii value ∨ '?' ∉ pattern)
    (apart : '*' ∉ value ∨ '*' ∉ pattern) :
    globMatches value pattern = true ↔ Obtained '?' '*' pattern value := by
  have bytes : Obtained 63 42 (utf8Bytes pattern) (utf8Bytes value) ↔ Obtained '?' '*' pattern value :=
    ⟨@obtained_of_utf8Bytes value pattern [] (readable.imp_left fun ascii => ⟨ascii, rfl⟩) nofun,
      utf8Bytes_of_obtained readable⟩
  rw [globMatches, ← bytes]
  have stars (text : Text) : 42 ∈ utf8Bytes text ↔ '*' ∈ text := @mem_utf8Bytes text '*' (by decide)
  exact glob_iff (by decide) (apart.imp (mt (stars value).mp) (mt (stars pattern).mp))

theorem star_in_value_not_matched :
    globMatches ['*', 'a'] ['*'] = false ∧ Obtained '?' '*' ['*'] ['*', 'a'] ∧
      globMatches ['é'] ['?'] = false ∧ Obtained '?' '*' ['?'] ['é'] := by
  refine ⟨by decide, ?_, by decide, ?_⟩
  · exact obtained_star.mpr ⟨['*', 'a'], [], rfl, rfl⟩
  · exact (obtained_cons (by decide)).mpr ⟨.inl rfl, rfl⟩

/-- A star meets the wide character that follows it. -/
theorem star_matches_wide :
    globMatches ['日', '本'] ['日', '*'] = true ↔ Obtained '?' '*' ['日', '*'] ['日', '本'] :=
  globMatches_means_pattern _ _ (.inr (by decide)) (.inl (by decide))

end Vpsman.Selector
