import WTerm.Lib.Shell
import WTerm.Python.Url

/-!
# `shlex`

`shlex.quote` and `shlex.join`. A shell reads a quoted string as one word, the string itself,
and a joined list as its strings.
-/

namespace WTerm

open Shell

/-- A character that `quote` leaves alone: a letter, a digit, or one of `_ @ % + = : , . / -`. -/
def isShellSafe (c : ℕ) : Bool :=
  PyStr.isAsciiAlpha c || PyStr.isAsciiDigit c || c ∈ [95, 64, 37, 43, 61, 58, 44, 46, 47, 45]

/-- A character in the single quotes of `quote`. -/
def quoteChar (c : ℕ) : PyStr := if c = 39 then [39, 34, 39, 34, 39] else [c]

/-- `shlex.quote`. -/
def shlexQuote (s : PyStr) : PyStr :=
  if s ≠ [] ∧ s.all isShellSafe then s else 39 :: s.flatMap quoteChar ++ [39]

/-- `shlex.join`. -/
def shlexJoin (words : List PyStr) : PyStr := joinBlank (words.map shlexQuote)

/-- The safe characters have no meaning to a shell. -/
theorem isLiteral_of_isShellSafe {c : ℕ} (hc : isShellSafe c = true) : isLiteral c = true := by
  have hsmall : c < 128 := by
    simp only [isShellSafe, PyStr.isAsciiAlpha, PyStr.isAsciiDigit, Bool.or_eq_true,
      Bool.and_eq_true, decide_eq_true_eq, List.mem_cons, List.not_mem_nil, or_false] at hc
    omega
  have hall : ∀ d < 128, isShellSafe d = true → isLiteral d = true := by decide
  exact hall c hsmall hc

/-- The quoted characters are read back, one by one. -/
theorem read_quoteChars (s word : PyStr) :
    read (.single word) (s.flatMap quoteChar) = some ([], .single (word ++ s)) := by
  induction s generalizing word with
  | nil => simp [Shell.read]
  | cons c rest ih =>
    have hchar : read (.single word) (quoteChar c) = some ([], .single (word ++ [c])) := by
      by_cases hc : c = 39
      · rw [quoteChar, if_pos hc, hc]
        exact read_quotedQuote word
      · rw [quoteChar, if_neg hc]
        exact read_single (by simpa using Ne.symm hc)
    have happend := read_append_some hchar (ih (word ++ [c]))
    simpa using happend

/-- A shell reads a quoted string as the string. -/
theorem spells_shlexQuote (s : PyStr) : Spells (shlexQuote s) s := by
  unfold shlexQuote
  by_cases hsafe : s ≠ [] ∧ s.all isShellSafe = true
  · rw [if_pos hsafe]
    refine spells_literal hsafe.1 fun c hc => ?_
    exact isLiteral_of_isShellSafe (List.all_eq_true.mp hsafe.2 c hc)
  · rw [if_neg hsafe]
    have hopen : read .between [39] = some ([], .single []) := rfl
    have hclose : read (.single s) [39] = some ([], .word s) := rfl
    have hinner : read (.single []) (s.flatMap quoteChar) = some ([], .single s) := by
      simpa using read_quoteChars s []
    exact read_append_some (read_append_some hopen hinner) hclose

/-- A shell reads joined strings as the strings. -/
theorem tokens_shlexJoin (words : List PyStr) :
    tokens (shlexJoin words) = some (words.map .word) :=
  tokens_joinBlank spells_shlexQuote words

/-- A quotation mark, an operator and a command substitution are characters of the string. -/
example : tokens (shlexQuote [97, 39, 59, 36, 40, 98, 41]) =
    some [.word [97, 39, 59, 36, 40, 98, 41]] := by
  decide

end WTerm
