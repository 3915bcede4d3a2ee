import Mathlib.Data.List.Basic

/-!
# Words of a shell command line

The token recognition and the quoting of POSIX shells, on code points. A command line is split
into words and operators; it has no tokens here if a quotation is left open or if a character
could start an expansion outside quotes. Nothing here mentions a particular program.
-/

namespace Shell

/-- A token of a command line, its quotes removed. -/
inductive Token where
  | word (text : List ℕ)
  | operator (text : List ℕ)
  deriving DecidableEq

/-- What has been read of a token. -/
inductive State where
  | between
  | word (text : List ℕ)
  /-- In single quotes. -/
  | single (text : List ℕ)
  /-- In double quotes. -/
  | double (text : List ℕ)
  /-- After a backslash outside quotes, in a word or between two. -/
  | escaped (begun : Option (List ℕ))
  /-- After a backslash in double quotes. -/
  | doubleEscaped (text : List ℕ)
  | operator (text : List ℕ)
  | comment
  deriving DecidableEq

/-- The characters that begin an operator: newline, and `&`, `(`, `)`, `;`, `<`, `>`, `|`. -/
def isOperatorChar (c : ℕ) : Bool := c ∈ [10, 38, 40, 41, 59, 60, 62, 124]

/-- The operators of more than one character. -/
def longOperators : List (List ℕ) :=
  [[38, 38], [124, 124], [59, 59], [60, 60], [62, 62], [60, 38], [62, 38], [60, 62], [62, 124],
    [60, 60, 45]]

/-- The characters that can start an expansion outside quotes: `$`, a backquote, and those of
patterns, home directories, braces and histories. -/
def mayExpand (c : ℕ) : Bool := c ∈ [36, 96, 42, 63, 91, 126, 123, 125, 33, 94]

/-- The token of a word that has begun. -/
def flush : Option (List ℕ) → List Token
  | none => []
  | some text => [.word text]

/-- A character outside quotes. -/
def plain (begun : Option (List ℕ)) (c : ℕ) : Option (List Token × State) :=
  if c = 32 ∨ c = 9 then some (flush begun, .between)
  else if isOperatorChar c then some (flush begun, .operator [c])
  else if c = 39 then some ([], .single (begun.getD []))
  else if c = 34 then some ([], .double (begun.getD []))
  else if c = 92 then some ([], .escaped begun)
  else if c = 35 ∧ begun = none then some ([], .comment)
  else if mayExpand c then none
  else some ([], .word (begun.getD [] ++ [c]))

/-- A character after a backslash outside quotes. A newline is removed with it. -/
def afterBackslash (begun : Option (List ℕ)) (c : ℕ) : State :=
  if c = 10 then begun.elim .between .word else .word (begun.getD [] ++ [c])

/-- A character in double quotes. -/
def inDouble (text : List ℕ) (c : ℕ) : Option State :=
  if c = 34 then some (.word text)
  else if c = 92 then some (.doubleEscaped text)
  else if c = 36 ∨ c = 96 then none
  else some (.double (text ++ [c]))

/-- A character after a backslash in double quotes, which escapes only a few. -/
def afterDoubleBackslash (text : List ℕ) (c : ℕ) : State :=
  if c = 10 then .double text
  else if c ∈ [36, 96, 34, 92] then .double (text ++ [c])
  else .double (text ++ [92, c])

/-- One character: the tokens that it completes, and the state after it. -/
def step : State → ℕ → Option (List Token × State)
  | .between, c => plain none c
  | .word text, c => plain (some text) c
  | .single text, c => some ([], if c = 39 then .word text else .single (text ++ [c]))
  | .double text, c => (inDouble text c).map fun st => ([], st)
  | .escaped begun, c => some ([], afterBackslash begun c)
  | .doubleEscaped text, c => some ([], afterDoubleBackslash text c)
  | .operator text, c =>
    if text ++ [c] ∈ longOperators then some ([], .operator (text ++ [c]))
    else (plain none c).map fun r => (.operator text :: r.1, r.2)
  | .comment, c => some ([], if c = 10 then .operator [10] else .comment)

/-- A text: the tokens that it completes, and the state after it. -/
def read : State → List ℕ → Option (List Token × State)
  | st, [] => some ([], st)
  | st, c :: rest => (step st c).bind fun r => (read r.2 rest).map fun r' => (r.1 ++ r'.1, r'.2)

/-- The token that the end of the text completes, unless a quotation is open. -/
def State.finish : State → Option (List Token)
  | .between | .comment => some []
  | .word text => some [.word text]
  | .operator text => some [.operator text]
  | .single _ | .double _ | .escaped _ | .doubleEscaped _ => none

/-- The tokens of a command line. -/
def tokens (line : List ℕ) : Option (List Token) :=
  (read .between line).bind fun r => r.2.finish.map fun last => r.1 ++ last

/-- A text that is read as the given word, whatever follows it. -/
def Spells (text word : List ℕ) : Prop := read .between text = some ([], .word word)

variable {st st' : State} {out : List Token} {a b text word : List ℕ}

/-- A text in two parts is read part by part. -/
theorem read_append (h : read st a = some (out, st')) :
    read st (a ++ b) = (read st' b).map fun r => (out ++ r.1, r.2) := by
  induction a generalizing st out with
  | nil =>
    cases h
    simp
  | cons c rest ih =>
    rw [read] at h
    obtain ⟨r, hstep, h⟩ := Option.bind_eq_some_iff.mp h
    obtain ⟨r', hrest, h⟩ := Option.map_eq_some_iff.mp h
    obtain ⟨rfl, rfl⟩ := Prod.mk.inj h
    rw [List.cons_append, read, hstep, Option.bind_some, ih hrest, Option.map_map]
    congr 1
    funext r''
    simp

/-- A text whose second part reads nothing more than its own tokens. -/
theorem read_append_some {out' : List Token} {st'' : State} (h : read st a = some (out, st'))
    (h' : read st' b = some (out', st'')) : read st (a ++ b) = some (out ++ out', st'') := by
  rw [read_append h, h', Option.map_some]

/-! ## Words -/

/-- A character that stands for itself in a word. -/
def isLiteral (c : ℕ) : Bool :=
  !(c = 32 || c = 9 || isOperatorChar c || c = 39 || c = 34 || c = 92 || c = 35 || mayExpand c)

/-- A literal character extends a word, or begins one. -/
theorem plain_of_isLiteral {c : ℕ} (hc : isLiteral c = true) (begun : Option (List ℕ)) :
    plain begun c = some ([], .word (begun.getD [] ++ [c])) := by
  simp only [isLiteral, Bool.not_eq_true', Bool.or_eq_false_iff, decide_eq_false_iff_not] at hc
  obtain ⟨⟨⟨⟨⟨⟨⟨hblank, htab⟩, hoperator⟩, hsingle⟩, hdouble⟩, hbackslash⟩, hcomment⟩, hexpand⟩ :=
    hc
  simp [plain, hblank, htab, hoperator, hsingle, hdouble, hbackslash, hcomment, hexpand]

/-- Literal characters that are read within a word are added to its end. -/
theorem read_literal (hliteral : ∀ c ∈ text, isLiteral c = true) :
    read (.word word) text = some ([], .word (word ++ text)) := by
  induction text generalizing word with
  | nil => simp [read]
  | cons c rest ih =>
    have hstep : step (.word word) c = some ([], .word (word ++ [c])) :=
      plain_of_isLiteral (hliteral c (by simp)) _
    rw [read, hstep, Option.bind_some, ih fun d hd => hliteral d (List.mem_cons_of_mem _ hd)]
    simp

/-- A text of literal characters, at least one, spells itself. -/
theorem spells_literal (hne : text ≠ []) (hliteral : ∀ c ∈ text, isLiteral c = true) :
    Spells text text := by
  cases text with
  | nil => exact absurd rfl hne
  | cons c rest =>
    have hstep : step .between c = some ([], .word [c]) :=
      plain_of_isLiteral (hliteral c (by simp)) none
    unfold Spells
    rw [read, hstep, Option.bind_some,
      read_literal fun d hd => hliteral d (List.mem_cons_of_mem _ hd)]
    simp

/-- A blank that is read behind a word completes the word. -/
theorem read_blank (word : List ℕ) : read (.word word) [32] = some ([.word word], .between) := rfl

/-- A text that spells a word, followed by a blank, is read as the whole word. -/
theorem Spells.read_blank (h : Spells text word) :
    read .between (text ++ [32]) = some ([.word word], .between) :=
  read_append_some h (Shell.read_blank word)

/-- A word at the end of a command line. -/
theorem Spells.tokens (h : Spells text word) : tokens text = some [.word word] := by
  rw [Shell.tokens, h]
  rfl

/-- The tokens of a command line that goes on between two tokens. -/
theorem tokens_append (h : read .between a = some (out, .between)) :
    tokens (a ++ b) = (tokens b).map fun rest => out ++ rest := by
  unfold tokens
  rw [read_append h]
  cases read .between b with
  | none => rfl
  | some r =>
    cases hfinish : r.2.finish with
    | none => simp [hfinish]
    | some last => simp [hfinish]

/-- Texts with a blank between each two. -/
def joinBlank : List (List ℕ) → List ℕ
  | [] => []
  | [text] => text
  | text :: rest => text ++ 32 :: joinBlank rest

/-- Spelled words with a blank between each two are the words. -/
theorem tokens_joinBlank {spell : List ℕ → List ℕ} (hspell : ∀ word, Spells (spell word) word)
    (words : List (List ℕ)) :
    tokens (joinBlank (words.map spell)) = some (words.map .word) := by
  induction words with
  | nil => rfl
  | cons word rest ih =>
    cases rest with
    | nil => exact (hspell word).tokens
    | cons next rest =>
      have hsplit : joinBlank ((word :: next :: rest).map spell) =
          (spell word ++ [32]) ++ joinBlank ((next :: rest).map spell) := by
        simp [joinBlank]
      rw [hsplit, tokens_append (hspell word).read_blank, ih, Option.map_some]
      rfl

/-! ## Quotations -/

/-- In single quotes every other character stands for itself. -/
theorem read_single (htext : 39 ∉ text) :
    read (.single word) text = some ([], .single (word ++ text)) := by
  induction text generalizing word with
  | nil => simp [read]
  | cons c rest ih =>
    obtain ⟨hc, hrest⟩ := not_or.mp (mt List.mem_cons.mpr htext)
    have hstep : step (.single word) c = some ([], .single (word ++ [c])) := by
      simp [step, Ne.symm hc]
    rw [read, hstep, Option.bind_some, ih hrest]
    simp

/-- A quotation mark in single quotes, spelled by leaving them for a double quotation. -/
theorem read_quotedQuote (word : List ℕ) :
    read (.single word) [39, 34, 39, 34, 39] = some ([], .single (word ++ [39])) := rfl

end Shell
