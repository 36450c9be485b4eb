import Mathlib.Data.List.Forall2

/-! # Glob matching by backtracking to the last star -/

namespace Vpsman.Lib

variable {α : Type} [DecidableEq α]

/-- The loop over the value. `star` is the pattern after the last star that was passed and the
    value from where that star stops so far. A step moves on in the pattern or moves the star on
    in the value, which bounds the steps by `fuel`. -/
def globLoop (question wildcard : α) :
    Nat → List α → List α → Option (List α × List α) → Bool
  | 0, _, _, _ => false
  | _ + 1, [], pattern, _ => pattern.all (· == wildcard)
  | fuel + 1, c :: value, pattern, star =>
    let backtrack : Bool :=
      match star with
      | some (after, stop) =>
        globLoop question wildcard fuel stop.tail after (some (after, stop.tail))
      | none => false
    match pattern with
    | [] => backtrack
    | p :: rest =>
      if p = question ∨ p = c then globLoop question wildcard fuel value rest star
      else if p = wildcard then
        globLoop question wildcard fuel (c :: value) rest (some (rest, c :: value))
      else backtrack

def glob (question wildcard : α) (value pattern : List α) : Bool :=
  globLoop question wildcard ((value.length + 1) * (pattern.length + 1) + 1) value pattern none

section Meaning

/-- The value comes from the pattern when each wildcard is replaced by some characters and each
    question mark by one. -/
def Obtained (question wildcard : α) : List α → List α → Prop
  | [], value => value = []
  | p :: rest, value =>
    if p = wildcard then ∃ any left, value = any ++ left ∧ Obtained question wildcard rest left
    else ∃ c left, value = c :: left ∧ (p = question ∨ p = c) ∧
      Obtained question wildcard rest left

/-- The characters stand one by one for those of the pattern, which has no wildcard. -/
def Fits (question wildcard : α) : List α → List α → Prop :=
  List.Forall₂ fun p c => p ≠ wildcard ∧ (p = question ∨ p = c)

variable {question wildcard p c : α} {literal matched pattern value : List α} {fuel : Nat}

theorem obtained_star :
    Obtained question wildcard (wildcard :: pattern) value ↔
      ∃ any left, value = any ++ left ∧ Obtained question wildcard pattern left := by
  simp [Obtained]

theorem obtained_cons (plain : p ≠ wildcard) :
    Obtained question wildcard (p :: pattern) (c :: value) ↔
      (p = question ∨ p = c) ∧ Obtained question wildcard pattern value := by
  simp [Obtained, plain]

theorem obtained_literal (plain : ∀ c ∈ literal, c ≠ wildcard ∧ c ≠ question) :
    Obtained question wildcard (literal ++ pattern) value ↔
      ∃ left, value = literal ++ left ∧ Obtained question wildcard pattern left := by
  induction literal generalizing value with
  | nil => simp
  | cons p literal ih =>
    rw [List.forall_mem_cons] at plain
    cases value with
    | nil => simp [Obtained, plain.1.1]
    | cons c value =>
      rw [List.cons_append, obtained_cons plain.1.1, ih plain.2]
      simp only [plain.1.2, false_or, List.cons_append, List.cons.injEq, and_assoc, exists_and_left,
        @eq_comm _ p c]

theorem obtained_nil :
    Obtained question wildcard pattern [] ↔ pattern.all (· == wildcard) = true := by
  induction pattern with
  | nil => simp [Obtained]
  | cons p =>
    by_cases star : p = wildcard
    · simp_all [Obtained]
    · simp [Obtained, star]

section

variable (fits : Fits question wildcard literal matched)
include fits

theorem Fits.obtained :
    Obtained question wildcard (literal ++ pattern) (matched ++ value) ↔
      Obtained question wildcard pattern value := by
  induction fits with
  | nil => rfl
  | cons fit _ ih => simp [obtained_cons fit.1, fit.2, ih]

omit [DecidableEq α] in
theorem Fits.snoc (plain : p ≠ wildcard)
    (fit : p = question ∨ p = c) : Fits question wildcard (literal ++ [p]) (matched ++ [c]) :=
  List.rel_append fits (.cons ⟨plain, fit⟩ .nil)

theorem Fits.split (obtained : Obtained question wildcard (literal ++ pattern) value) :
    ∃ taken left, value = taken ++ left ∧ taken.length = matched.length ∧
      Obtained question wildcard pattern left := by
  induction fits generalizing value with
  | nil => exact ⟨[], value, rfl, rfl, obtained⟩
  | cons fit _ ih =>
    cases value with
    | nil => simp [Obtained, fit.1] at obtained
    | cons d =>
      obtain ⟨taken, left, rfl, same, obtained⟩ := ih ((obtained_cons fit.1).mp obtained).2
      exact ⟨d :: taken, left, rfl, by simp [same], obtained⟩

/-- What a wildcard can still reach after characters that fit is a rest of the value. -/
theorem Fits.reach
    (obtained : Obtained question wildcard (wildcard :: (literal ++ pattern)) (matched ++ value)) :
    ∃ any left, value = any ++ left ∧ Obtained question wildcard pattern left := by
  obtain ⟨any, left, split, obtained⟩ := obtained_star.mp obtained
  obtain ⟨taken, left, rfl, same, obtained⟩ := fits.split obtained
  rw [← List.append_assoc] at split
  obtain ⟨more, -, rest⟩ | ⟨more, -, rest⟩ := List.append_eq_append_iff.mp split
  · exact ⟨more, left, rest, obtained⟩
  · have none : more = [] := by
      have counted := congrArg List.length split
      simp only [rest, List.length_append] at counted
      exact List.eq_nil_of_length_eq_zero (by omega)
    exact ⟨[], left, by simp [rest, none], obtained⟩

/-- The later wildcard can stand for whatever the earlier one would take more. -/
theorem Fits.restart :
    Obtained question wildcard (wildcard :: (literal ++ wildcard :: pattern)) (matched ++ value) ↔
      Obtained question wildcard (wildcard :: pattern) value := by
  constructor
  · intro obtained
    obtain ⟨any, rest, rfl, reached⟩ := fits.reach obtained
    obtain ⟨more, left, rfl, final⟩ := obtained_star.mp reached
    exact obtained_star.mpr ⟨any ++ more, left, by simp, final⟩
  · intro obtained
    exact obtained_star.mpr ⟨[], _, rfl, fits.obtained.mpr obtained⟩

end

theorem star_moves (stuck : ¬ Obtained question wildcard pattern (c :: value)) :
    Obtained question wildcard (wildcard :: pattern) (c :: value) ↔
      Obtained question wildcard (wildcard :: pattern) value := by
  simp only [obtained_star]
  constructor
  · rintro ⟨any, left, split, obtained⟩
    cases any with
    | nil => exact absurd (split ▸ obtained) stuck
    | cons _ any =>
      simp only [List.cons_append, List.cons.injEq] at split
      exact ⟨any, left, split.2, obtained⟩
  · rintro ⟨any, left, rfl, obtained⟩
    exact ⟨c :: any, left, rfl, obtained⟩

/-- A pattern without wildcards is gone through once. -/
theorem globLoop_literal (literal : wildcard ∉ pattern) (enough : value.length < fuel) :
    globLoop question wildcard fuel value pattern none = true ↔
      Obtained question wildcard pattern value := by
  induction fuel generalizing pattern value with
  | zero => omega
  | succ _ ih =>
    cases value with
    | nil => rw [globLoop, obtained_nil]
    | cons c value =>
      cases pattern with
      | nil => simp [globLoop, Obtained]
      | cons p pattern =>
        have plain : p ≠ wildcard := fun same => literal (by simp [same])
        rw [globLoop, obtained_cons plain]
        split
        next fit =>
          simp only [fit, true_and]
          exact ih (List.not_mem_of_not_mem_cons literal) (Nat.lt_of_succ_lt_succ enough)
        next misfit => simp [misfit]

variable (distinct : question ≠ wildcard)

include distinct

/-- With a star passed, the loop decides whether the star and what follows it give the value from
    the star on: the characters since the star fit the pattern since the star. -/
theorem globLoop_starred
    (fits : Fits question wildcard literal matched) (plain : wildcard ∉ matched ++ value)
    (enough : pattern.length +
      (matched ++ value).length * ((literal ++ pattern).length + 1) < fuel) :
    globLoop question wildcard fuel value pattern (some (literal ++ pattern, matched ++ value)) =
        true ↔
      Obtained question wildcard (wildcard :: (literal ++ pattern)) (matched ++ value) := by
  induction fuel generalizing literal matched pattern value with
  | zero => omega
  | succ fuel ih =>
    have afresh {pattern value : List α} := @ih [] [] pattern value .nil
    simp only [List.nil_append] at afresh
    cases value with
    | nil =>
      rw [globLoop, ← obtained_nil]
      constructor
      · intro obtained
        exact obtained_star.mpr ⟨[], _, rfl, fits.obtained.mpr obtained⟩
      · intro obtained
        obtain ⟨any, left, split, reached⟩ := fits.reach obtained
        exact (List.nil_eq_append_iff.mp split).2 ▸ reached
    | cons c value =>
      have stepped (stuck : ¬ Obtained question wildcard pattern (c :: value)) :
          globLoop question wildcard fuel (matched ++ c :: value).tail (literal ++ pattern)
              (some (literal ++ pattern, (matched ++ c :: value).tail)) = true ↔
            Obtained question wildcard (wildcard :: (literal ++ pattern))
              (matched ++ c :: value) := by
        have stuck := mt fits.obtained.mp stuck
        obtain ⟨d, left, whole⟩ : ∃ d left, matched ++ c :: value = d :: left :=
          List.exists_cons_of_ne_nil (by simp)
        rw [whole] at plain enough stuck ⊢
        rw [star_moves stuck, List.tail_cons]
        refine afresh (List.not_mem_of_not_mem_cons plain) ?_
        rw [List.length_cons, Nat.succ_mul] at enough
        omega
      cases pattern with
      | nil => exact stepped (by simp [Obtained])
      | cons p pattern =>
        rw [globLoop]
        by_cases fit : p = question ∨ p = c
        · have plainHead : p ≠ wildcard := by grind
          rw [if_pos fit]
          have moved := @ih _ _ pattern value (fits.snoc plainHead fit)
          simp only [List.append_assoc, List.singleton_append] at moved
          exact moved plain (by simp only [List.length_cons] at enough; omega)
        · rw [if_neg fit]
          split
          case isTrue star =>
            subst star
            rw [fits.restart]
            refine afresh (fun member => plain (List.mem_append_right _ member)) ?_
            have fewer : (c :: value).length * (pattern.length + 1) ≤
                (matched ++ c :: value).length * ((literal ++ p :: pattern).length + 1) :=
              Nat.mul_le_mul (by simp) (by simp; omega)
            simp only [List.length_cons] at enough
            omega
          case isFalse star => exact stepped (by simp [obtained_cons star, fit])

theorem globLoop_unstarred (plain : wildcard ∉ value)
    (enough : (value.length + 1) * (pattern.length + 1) < fuel) :
    globLoop question wildcard fuel value pattern none = true ↔
      Obtained question wildcard pattern value := by
  induction fuel generalizing pattern value with
  | zero => omega
  | succ _ ih =>
    cases value with
    | nil => rw [globLoop, obtained_nil]
    | cons c value =>
      cases pattern with
      | nil => simp [globLoop, Obtained]
      | cons p pattern =>
        have notStar : wildcard ≠ c := fun same => plain (by simp [same])
        rw [globLoop]
        simp only [List.length_cons, Nat.mul_succ, Nat.succ_mul] at enough
        by_cases fit : p = question ∨ p = c
        · have plainHead : p ≠ wildcard := by grind
          rw [if_pos fit, obtained_cons plainHead]
          simp only [fit, true_and]
          refine ih (List.not_mem_of_not_mem_cons plain) ?_
          simp only [Nat.mul_succ, Nat.succ_mul]
          omega
        · rw [if_neg fit]
          split
          case isTrue star =>
            subst star
            refine @globLoop_starred _ _ _ _ [] [] pattern (c :: value) _ distinct .nil plain ?_
            simp only [List.nil_append, List.length_cons, Nat.mul_succ, Nat.succ_mul]
            omega
          case isFalse star => simp [obtained_cons star, fit]

/-- With wildcards in the value or in the pattern, not in both, the loop decides the meaning of
    the pattern. -/
theorem glob_iff (apart : wildcard ∉ value ∨ wildcard ∉ pattern) :
    glob question wildcard value pattern = true ↔ Obtained question wildcard pattern value := by
  rcases apart with plain | literal
  · exact globLoop_unstarred distinct plain (Nat.lt_succ_self _)
  · refine globLoop_literal literal ?_
    simp only [Nat.mul_succ, Nat.succ_mul]
    omega

end Meaning

end Vpsman.Lib
