import Mathlib.Data.Int.Notation
import WTerm.Python.Text

/-!
# `json.loads`

The decoder of Python's `json` module on a text that is already decoded: the values it
returns, and the three exceptions it raises. Integers of more than 4300 digits raise a
plain `ValueError`, and nesting beyond the interpreter's limit raises `RecursionError`.
-/

namespace WTerm

/-- The values `json.loads` returns. A float keeps its literal: no modelled code looks
further than at its type. -/
inductive Json where
  | null
  | bool (b : Bool)
  | int (n : ℤ)
  | float (literal : PyStr)
  | str (s : PyStr)
  | arr (items : List Json)
  | obj (members : List (PyStr × Json))

namespace Json

/-- `dict.get`: of equal keys in the text the last one counts. -/
def get (members : List (PyStr × Json)) (key : PyStr) : Option Json :=
  members.foldl (fun found m => if m.1 = key then some m.2 else found) none

/-- `isinstance(v, int)` with the value; `bool` is a subclass of `int`. -/
def asInt? : Json → Option ℤ
  | .int n => some n
  | .bool b => some (if b then 1 else 0)
  | _ => none

/-- The decoder's whitespace. -/
def skipSpace : PyStr → PyStr
  | [] => []
  | c :: rest => if c = 32 ∨ c = 9 ∨ c = 10 ∨ c = 13 then skipSpace rest else c :: rest

/-- The value of an ASCII hexadecimal digit. -/
def hexDigit (c : ℕ) : Option ℕ :=
  if 48 ≤ c ∧ c ≤ 57 then some (c - 48)
  else if 97 ≤ c ∧ c ≤ 102 then some (c - 87)
  else if 65 ≤ c ∧ c ≤ 70 then some (c - 55)
  else none

/-- The four hexadecimal digits of a `\u` escape. -/
def hexQuad (s : PyStr) : Option ℕ :=
  if s.length < 4 then none
  else (s.take 4).foldl (fun n c => n.bind fun n => (hexDigit c).map fun d => 16 * n + d) (some 0)

/-- The character of a one-letter escape. -/
def escape (c : ℕ) : Option ℕ :=
  if c = 34 ∨ c = 92 ∨ c = 47 then some c
  else if c = 98 then some 8
  else if c = 102 then some 12
  else if c = 110 then some 10
  else if c = 114 then some 13
  else if c = 116 then some 9
  else none

/-- One code point in front of a scanned string. -/
def consChar (c : ℕ) :
    Except PyException (PyStr × PyStr) → Except PyException (PyStr × PyStr)
  | .ok (s, rest) => .ok (c :: s, rest)
  | .error e => .error e

/-- The low surrogate that the escape behind a high surrogate adds to it, if any. -/
def lowSurrogate (high : ℕ) (s : PyStr) : Except PyException (Option ℕ) :=
  if 0xD800 ≤ high ∧ high ≤ 0xDBFF ∧ s.take 2 = [92, 117] ∧ 6 ≤ s.length then
    match hexQuad (s.drop 2) with
    | none => .error .jsonDecodeError
    | some low => .ok (if 0xDC00 ≤ low ∧ low ≤ 0xDFFF then some low else none)
  else .ok none

/-- The escape after a backslash: the code point it denotes, and how many it takes up. A high
surrogate joins a low one right behind it; any other surrogate stays alone. -/
def scanEscape (s : PyStr) : Except PyException (ℕ × ℕ) :=
  if s.head? = some 117 then
    match hexQuad s.tail with
    | none => .error .jsonDecodeError
    | some high =>
      match lowSurrogate high (s.drop 5) with
      | .error e => .error e
      | .ok none => .ok (high, 5)
      | .ok (some low) => .ok (0x10000 + (high - 0xD800) * 0x400 + (low - 0xDC00), 11)
  else
    match s.head?.bind escape with
    | none => .error .jsonDecodeError
    | some c => .ok (c, 1)

/-- `scanstring`, after the opening quote: the string and what follows it. The first `skip`
code points belong to an escape that is already read. -/
def scanString (skip : ℕ) : PyStr → Except PyException (PyStr × PyStr)
  | [] => .error .jsonDecodeError
  | c :: rest =>
    if 0 < skip then scanString (skip - 1) rest
    else if c = 34 then .ok ([], rest)
    else if c = 92 then
      match scanEscape rest with
      | .error e => .error e
      | .ok (e, length) => consChar e (scanString length rest)
    else if c < 32 then .error .jsonDecodeError
    else consChar c (scanString 0 rest)

/-- The longest prefix of ASCII digits, and the rest. -/
def spanDigits : PyStr → PyStr × PyStr
  | [] => ([], [])
  | c :: rest =>
    if 48 ≤ c ∧ c ≤ 57 then let (digits, rest) := spanDigits rest; (c :: digits, rest)
    else ([], c :: rest)

/-- The fraction of a number, empty when there is none. -/
def scanFraction (s : PyStr) : PyStr × PyStr :=
  if s.head? = some 46 ∧ (spanDigits s.tail).1 ≠ [] then
    (46 :: (spanDigits s.tail).1, (spanDigits s.tail).2)
  else ([], s)

/-- The optional sign of an exponent. -/
def scanSign (s : PyStr) : PyStr × PyStr :=
  if s.head? = some 43 ∨ s.head? = some 45 then (s.take 1, s.tail) else ([], s)

/-- The exponent of a number, empty when there is none. -/
def scanExponent (s : PyStr) : PyStr × PyStr :=
  let (sign, tail) := scanSign s.tail
  if (s.head? = some 101 ∨ s.head? = some 69) ∧ (spanDigits tail).1 ≠ [] then
    (s.take 1 ++ sign ++ (spanDigits tail).1, (spanDigits tail).2)
  else ([], s)

/-- `sys.get_int_max_str_digits()`. -/
def intMaxStrDigits : ℕ := 4300

/-- The number a list of digits denotes. -/
def ofDigits (digits : PyStr) : ℕ := digits.foldl (fun n c => 10 * n + (c - 48)) 0

/-- The integer part of a number: a zero alone, or digits that start with no zero. -/
def scanInteger (s : PyStr) : PyStr × PyStr :=
  if s.head? = some 48 then (s.take 1, s.tail) else spanDigits s

/-- The number literal in front of a text, after an optional minus sign. -/
def scanNumber (negative : Bool) (s : PyStr) : Except PyException (Json × PyStr) :=
  let (digits, rest) := scanInteger s
  let (fraction, rest) := scanFraction rest
  let (exponent, rest) := scanExponent rest
  if digits = [] then .error .jsonDecodeError
  else if fraction ≠ [] ∨ exponent ≠ [] then
    .ok (.float ((if negative then [45] else []) ++ digits ++ fraction ++ exponent), rest)
  else if intMaxStrDigits < digits.length then .error .valueError
  else .ok (.int (if negative then -(ofDigits digits : ℤ) else ofDigits digits), rest)

/-- The spelling of a quiet NaN. -/
def nan : PyStr := py ['N', 'a', 'N']

/-- The spelling of an infinite float. -/
def infinity : PyStr := py ['I', 'n', 'f', 'i', 'n', 'i', 't', 'y']

/-- The constants of the decoder: the three of JSON and the three floats it adds. -/
def constants : List (PyStr × Json) :=
  [(py ['n', 'u', 'l', 'l'], .null), (py ['t', 'r', 'u', 'e'], .bool true),
    (py ['f', 'a', 'l', 's', 'e'], .bool false), (nan, .float nan), (infinity, .float infinity),
    (45 :: infinity, .float (45 :: infinity))]

/-- A constant or a number in front of a text. -/
def scanScalar (s : PyStr) : Except PyException (Json × PyStr) :=
  match constants.find? (fun c => c.1.isPrefixOf s) with
  | some (name, value) => .ok (value, s.drop name.length)
  | none => if s.head? = some 45 then scanNumber true s.tail else scanNumber false s

mutual

/-- `scan_once`: one value and what follows it. `depth` is how many objects and arrays may
still be entered before the interpreter's recursion limit; `fuel` bounds the calls. -/
def scanOnce : ℕ → ℕ → PyStr → Except PyException (Json × PyStr)
  | 0, _, _ => .error .jsonDecodeError
  | fuel + 1, depth, s =>
    if s.head? = some 34 then
      match scanString 0 s.tail with
      | .ok (value, rest) => .ok (.str value, rest)
      | .error e => .error e
    else if s.head? = some 123 then
      if depth = 0 then .error .recursionError
      else if (skipSpace s.tail).head? = some 125 then .ok (.obj [], (skipSpace s.tail).tail)
      else
        match scanMembers fuel (depth - 1) (skipSpace s.tail) with
        | .ok (members, rest) => .ok (.obj members, rest)
        | .error e => .error e
    else if s.head? = some 91 then
      if depth = 0 then .error .recursionError
      else if (skipSpace s.tail).head? = some 93 then .ok (.arr [], (skipSpace s.tail).tail)
      else
        match scanItems fuel (depth - 1) (skipSpace s.tail) with
        | .ok (items, rest) => .ok (.arr items, rest)
        | .error e => .error e
    else scanScalar s

/-- The values of an array, up to its closing bracket. -/
def scanItems : ℕ → ℕ → PyStr → Except PyException (List Json × PyStr)
  | 0, _, _ => .error .jsonDecodeError
  | fuel + 1, depth, s =>
    match scanOnce fuel depth s with
    | .error e => .error e
    | .ok (value, rest) =>
      if (skipSpace rest).head? = some 93 then .ok ([value], (skipSpace rest).tail)
      else if (skipSpace rest).head? = some 44 then
        match scanItems fuel depth (skipSpace (skipSpace rest).tail) with
        | .ok (items, rest) => .ok (value :: items, rest)
        | .error e => .error e
      else .error .jsonDecodeError

/-- The members of an object, up to its closing brace. -/
def scanMembers : ℕ → ℕ → PyStr → Except PyException (List (PyStr × Json) × PyStr)
  | 0, _, _ => .error .jsonDecodeError
  | fuel + 1, depth, s =>
    if s.head? ≠ some 34 then .error .jsonDecodeError
    else
      match scanString 0 s.tail with
      | .error e => .error e
      | .ok (key, rest) =>
        if (skipSpace rest).head? ≠ some 58 then .error .jsonDecodeError
        else
          match scanOnce fuel depth (skipSpace (skipSpace rest).tail) with
          | .error e => .error e
          | .ok (value, rest) =>
            if (skipSpace rest).head? = some 125 then
              .ok ([(key, value)], (skipSpace rest).tail)
            else if (skipSpace rest).head? = some 44 then
              match scanMembers fuel depth (skipSpace (skipSpace rest).tail) with
              | .ok (members, rest) => .ok ((key, value) :: members, rest)
              | .error e => .error e
            else .error .jsonDecodeError

end

/-- `json.loads(text)` with `depth` levels of recursion left: no byte order mark, one
value, and nothing but whitespace after it. -/
def loads (depth : ℕ) (text : PyStr) : Except PyException Json :=
  if text.head? = some 0xFEFF then .error .jsonDecodeError
  else
    match scanOnce (2 * text.length + 2) depth (skipSpace text) with
    | .error e => .error e
    | .ok (value, rest) =>
      if skipSpace rest = [] then .ok value else .error .jsonDecodeError

/-- A string with an escaped lone surrogate decodes to that surrogate. -/
example :
    (match loads 1 (py ['[', '"', '\\', 'u', 'd', '8', '0', '0', '"', ',', '-', '2', ']']) with
    | .ok (.arr [.str s, .int n]) => (s, n)
    | _ => ([], 0)) = ([0xD800], -2) := by decide

end Json

end WTerm
