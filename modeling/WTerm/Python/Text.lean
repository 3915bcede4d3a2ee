import Mathlib.Data.List.Basic

/-!
# Python text and exceptions

A Python `str` is a sequence of code points and may hold lone surrogates, which JSON
escapes can produce. `str.encode` turns it into UTF-8 and raises on a surrogate.
-/

namespace WTerm

/-- The exceptions that the modelled code raises or catches. `jsonDecodeError` is a
subclass of `valueError` in Python, and so are the Unicode errors; the source catches them by
their own names only. -/
inductive PyException where
  | jsonDecodeError
  | valueError
  | recursionError
  | unicodeEncodeError
  | unicodeDecodeError
  | keyError
  | typeError
  | osError
  | overflowError
  /-- `argon2.exceptions.VerifyMismatchError`. -/
  | verifyMismatchError
  /-- `argon2.exceptions.InvalidHash`. -/
  | invalidHash
  deriving DecidableEq, Repr

/-- A Python `str`, as its code points. -/
abbrev PyStr := List ℕ

/-- Strings are compared by their code points. -/
instance PyStr.lawfulBEq : @LawfulBEq PyStr List.instBEq := inferInstance

/-- The code points of a literal of the source. -/
def py (s : List Char) : PyStr := s.map Char.toNat

/-- `str.isspace` of one code point. -/
def isSpace (c : ℕ) : Bool :=
  (9 ≤ c && c ≤ 13) || (28 ≤ c && c ≤ 32) || (0x2000 ≤ c && c ≤ 0x200A) ||
    c ∈ [0x85, 0xA0, 0x1680, 0x2028, 0x2029, 0x202F, 0x205F, 0x3000]

/-- `str.strip`. -/
def PyStr.strip (s : PyStr) : PyStr :=
  ((s.dropWhile isSpace).reverse.dropWhile isSpace).reverse

/-- The code points that UTF-8 does not encode. -/
def isSurrogate (c : ℕ) : Bool := 0xD800 ≤ c && c ≤ 0xDFFF

/-- The UTF-8 bytes of one code point that is no surrogate. -/
def encodeChar (c : ℕ) : List UInt8 :=
  if c < 0x80 then [c.toUInt8]
  else if c < 0x800 then [(0xC0 + c / 0x40).toUInt8, (0x80 + c % 0x40).toUInt8]
  else if c < 0x10000 then
    [(0xE0 + c / 0x1000).toUInt8, (0x80 + c / 0x40 % 0x40).toUInt8, (0x80 + c % 0x40).toUInt8]
  else
    [(0xF0 + c / 0x40000).toUInt8, (0x80 + c / 0x1000 % 0x40).toUInt8,
      (0x80 + c / 0x40 % 0x40).toUInt8, (0x80 + c % 0x40).toUInt8]

/-- `str.encode()`: the UTF-8 bytes, or `UnicodeEncodeError` on a lone surrogate. -/
def PyStr.encode : PyStr → Except PyException (List UInt8)
  | [] => .ok []
  | c :: rest =>
    if isSurrogate c then .error .unicodeEncodeError
    else match PyStr.encode rest with
      | .ok tail => .ok (encodeChar c ++ tail)
      | .error e => .error e

/-- Whether a string holds a lone surrogate. -/
def PyStr.hasSurrogate (s : PyStr) : Bool := s.any isSurrogate

/-- Encoding fails exactly on the strings with a lone surrogate, and with
`UnicodeEncodeError`. -/
theorem PyStr.encode_eq_error_iff (s : PyStr) (e : PyException) :
    PyStr.encode s = .error e ↔ PyStr.hasSurrogate s = true ∧ e = .unicodeEncodeError := by
  induction s with
  | nil => simp [PyStr.encode, PyStr.hasSurrogate]
  | cons c rest ih =>
    by_cases hc : isSurrogate c = true
    · simp [PyStr.encode, PyStr.hasSurrogate, hc, eq_comm]
    · have hany : PyStr.hasSurrogate (c :: rest) = PyStr.hasSurrogate rest := by
        simp [PyStr.hasSurrogate, hc]
      rw [hany, ← ih, PyStr.encode, if_neg hc]
      cases PyStr.encode rest <;> simp

/-- A repeated ASCII character is encoded as itself. -/
theorem PyStr.encode_replicate {c : ℕ} (hc : c < 0x80) (n : ℕ) :
    PyStr.encode (List.replicate n c) = .ok (List.replicate n c.toUInt8) := by
  induction n with
  | zero => rfl
  | succ n ih =>
    have hplain : isSurrogate c = false := by
      simp only [isSurrogate, Bool.and_eq_false_iff, decide_eq_false_iff_not]
      omega
    simp [List.replicate_succ, PyStr.encode, hplain, ih, encodeChar, hc]

/-- A string without surrogates has an encoding. -/
theorem PyStr.exists_encode {s : PyStr} (h : PyStr.hasSurrogate s = false) :
    ∃ bytes, PyStr.encode s = .ok bytes := by
  cases hs : PyStr.encode s with
  | ok bytes => exact ⟨bytes, rfl⟩
  | error e => simp [((PyStr.encode_eq_error_iff s e).mp hs).1] at h

end WTerm
