import WTerm.Python.Text

/-!
# `str.splitlines`

The lines of a Python text. More characters than the newline end a line: the ASCII separators, and
three characters beyond ASCII.
-/

namespace WTerm

/-- A character at which `str.splitlines` ends a line. -/
def isLineBoundary (c : ℕ) : Bool :=
  c ∈ [0x0A, 0x0B, 0x0C, 0x0D, 0x1C, 0x1D, 0x1E, 0x85, 0x2028, 0x2029]

namespace PyStr

/-- The lines of a text behind the given beginning of its first line. A carriage return and a
newline end one line. -/
def splitlinesFrom (line : PyStr) : PyStr → List PyStr
  | [] => if line = [] then [] else [line]
  | 0x0D :: 0x0A :: rest => line :: splitlinesFrom [] rest
  | c :: rest =>
    if isLineBoundary c then line :: splitlinesFrom [] rest else splitlinesFrom (line ++ [c]) rest

/-- `str.splitlines`. -/
def splitlines (s : PyStr) : List PyStr := splitlinesFrom [] s

/-- No character of a text ends a line. -/
def isOneLine (s : PyStr) : Bool := s.all fun c => !isLineBoundary c

/-- Two texts without line boundaries, one behind the other, have none. -/
theorem isOneLine_append (s t : PyStr) :
    isOneLine (s ++ t) = (s.isOneLine && t.isOneLine) := List.all_append

/-- A character that ends no line belongs to the line. -/
theorem splitlinesFrom_of_not_boundary {c : ℕ} (hc : isLineBoundary c = false)
    (line rest : PyStr) :
    splitlinesFrom line (c :: rest) = splitlinesFrom (line ++ [c]) rest := by
  have hreturn : c ≠ 0x0D := by
    rintro rfl
    exact absurd hc (by decide)
  rw [splitlinesFrom]
  · simp [hc]
  · intro rest' hc' _
    exact hreturn hc'

/-- A text without a line boundary goes on with its first line. -/
theorem splitlinesFrom_isOneLine {s : PyStr} (hs : s.isOneLine = true) (line : PyStr) :
    splitlinesFrom line s = if line ++ s = [] then [] else [line ++ s] := by
  induction s generalizing line with
  | nil => simp [splitlinesFrom]
  | cons c rest ih =>
    rw [isOneLine, List.all_cons, Bool.and_eq_true, Bool.not_eq_true'] at hs
    rw [splitlinesFrom_of_not_boundary hs.1, ih hs.2]
    simp

/-- A text without a line boundary is its only line. -/
theorem splitlines_eq_singleton {s : PyStr} (hs : s ≠ []) (hplain : s.isOneLine = true) :
    s.splitlines = [s] := by
  rw [splitlines, splitlinesFrom_isOneLine hplain]
  simp [hs]

end PyStr

end WTerm
