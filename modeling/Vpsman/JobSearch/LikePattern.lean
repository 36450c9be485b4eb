import Vpsman.Lib.Glob
import Vpsman.Lib.Text

/-! # Wildcards of job searches

A search with wildcards becomes an SQL `LIKE` pattern, whose own special characters are
escaped.
-/

namespace Vpsman.JobSearch

open Vpsman.Lib

def escapeChar (c : Char) : Text :=
  if c = '*' then ['%']
  else if c = '?' then ['_']
  else if c = '%' ∨ c = '_' ∨ c = '\\' then ['\\', c]
  else [c]

def likePattern (value : Text) (contains : Bool) : Text :=
  (if contains then ['%'] else []) ++ value.flatMap escapeChar ++ (if contains then ['%'] else [])

/-- `value LIKE pattern ESCAPE '\'`. A pattern must not end with the escape character. -/
def Like : Text → Text → Prop
  | [], value => value = []
  | ['\\'], _ => False
  | '\\' :: c :: pattern, value => ∃ left, value = c :: left ∧ Like pattern left
  | p :: pattern, value =>
    if p = '%' then ∃ any left, value = any ++ left ∧ Like pattern left
    else ∃ c left, value = c :: left ∧ (p = '_' ∨ p = c) ∧ Like pattern left

theorem like_cons (plain : p ≠ '\\') :
    Like (p :: pattern) value ↔ if p = '%' then ∃ any left, value = any ++ left ∧ Like pattern left
      else ∃ c left, value = c :: left ∧ (p = '_' ∨ p = c) ∧ Like pattern left := by
  rw [Like]
  · exact fun backslash _ => plain backslash
  · exact fun _ _ backslash _ => plain backslash

theorem like_escapeChar :
    Like (escapeChar c ++ pattern) value ↔
      if c = '*' then ∃ any left, value = any ++ left ∧ Like pattern left
      else ∃ d left, value = d :: left ∧ (c = '?' ∨ c = d) ∧ Like pattern left := by
  unfold escapeChar
  split
  · simp [like_cons]
  split
  next question =>
    simp [like_cons, question]
  next question =>
    split
    next special =>
      rcases special with rfl | rfl | rfl <;> simp [Like]
    next plain =>
      rw [not_or, not_or] at plain
      simp [like_cons plain.2.2, plain, question]

theorem likePattern_contains :
    likePattern value true = likePattern ('*' :: value ++ ['*']) false := by
  simp [likePattern, escapeChar]

/-- The value matches the pattern that SQL gets exactly when it comes from the searched text by
    replacing each star by some text and each question mark by a character. -/
theorem like_likePattern :
    Like (likePattern pattern contains) value ↔
      Obtained '?' '*' (if contains then '*' :: pattern ++ ['*'] else pattern) value := by
  have plain : ∀ pattern value, Like (likePattern pattern false) value ↔
      Obtained '?' '*' pattern value := by
    intro pattern
    induction pattern with
    | nil => exact fun _ => Iff.rfl
    | cons c pattern ih =>
      intro value
      have rest : likePattern (c :: pattern) false = escapeChar c ++ likePattern pattern false := by
        simp [likePattern]
      rw [rest, like_escapeChar]
      simp [ih, Obtained]
  cases contains with
  | false => exact plain pattern value
  | true =>
    rw [likePattern_contains]
    exact plain _ value

-- The special characters of SQL stand for themselves.

example : likePattern "a*_?\\".toList false = "a%\\__\\\\".toList := by decide

end Vpsman.JobSearch
