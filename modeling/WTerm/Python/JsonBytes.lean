import WTerm.Python.JsonScan
import WTerm.Python.Utf8

/-!
# `json.loads` on bytes

The bytes are decoded first: `detect_encoding` looks at a byte order mark or at the zeros among
the first bytes, and the decoders let surrogates pass. A text has no more code points than bytes.
-/

namespace WTerm

namespace Json

/-- The encodings of JSON. `big` is the byte order. -/
inductive Encoding where
  | utf8
  | utf16 (big : Bool)
  | utf32 (big : Bool)
  deriving DecidableEq

/-- The encoding that the zeros among the first bytes imply. -/
def impliedEncoding (bytes : List UInt8) : Encoding :=
  let zero (i : ℕ) : Bool := bytes.getD i 1 = 0
  if 4 ≤ bytes.length then
    if zero 0 then if zero 1 then .utf32 true else .utf16 true
    else if zero 1 then if zero 2 && zero 3 then .utf32 false else .utf16 false
    else .utf8
  else if bytes.length = 2 then
    if zero 0 then .utf16 true else if zero 1 then .utf16 false else .utf8
  else .utf8

/-- `detect_encoding`, and the bytes behind a byte order mark. -/
def detectEncoding (bytes : List UInt8) : Encoding × List UInt8 :=
  if bytes.take 4 = [0, 0, 0xFE, 0xFF] then (.utf32 true, bytes.drop 4)
  else if bytes.take 4 = [0xFF, 0xFE, 0, 0] then (.utf32 false, bytes.drop 4)
  else if bytes.take 2 = [0xFE, 0xFF] then (.utf16 true, bytes.drop 2)
  else if bytes.take 2 = [0xFF, 0xFE] then (.utf16 false, bytes.drop 2)
  else if bytes.take 3 = [0xEF, 0xBB, 0xBF] then (.utf8, bytes.drop 3)
  else (impliedEncoding bytes, bytes)

/-- The first byte of a UTF-8 character: what it yields at once and the state after it, or nothing
for a byte that starts no character. Surrogates pass. -/
def leadPass (b : ℕ) : Option (PyStr × Utf8State) :=
  if b < 0x80 then some ([b], {})
  else if b < 0xC2 then none
  else if b < 0xE0 then some ([], { need := 1, bits := b - 0xC0 })
  else if b < 0xF0 then
    some ([], { need := 2, bits := b - 0xE0, lower := if b = 0xE0 then 0xA0 else 0x80 })
  else if b < 0xF5 then
    some ([], { need := 3, bits := b - 0xF0, lower := if b = 0xF0 then 0x90 else 0x80,
                upper := if b = 0xF4 then 0x8F else 0xBF })
  else none

/-- One byte of UTF-8. -/
def stepPass (st : Utf8State) (b : ℕ) : Option (PyStr × Utf8State) :=
  if st.need = 0 then leadPass b
  else if st.lower ≤ b ∧ b ≤ st.upper then
    if st.need = 1 then some ([0x40 * st.bits + (b - 0x80)], {})
    else some ([], { need := st.need - 1, bits := 0x40 * st.bits + (b - 0x80) })
  else none

/-- `bytes.decode("utf-8", "surrogatepass")`, from a state on. -/
def decodeUtf8 (st : Utf8State) : List UInt8 → Option PyStr
  | [] => if st.need = 0 then some [] else none
  | b :: rest =>
    (stepPass st b.toNat).bind fun step => (decodeUtf8 step.2 rest).map fun text => step.1 ++ text

/-- The 16-bit units of some bytes. -/
def units16 (big : Bool) : List UInt8 → Option (List ℕ)
  | [] => some []
  | [_] => none
  | a :: b :: rest =>
    (units16 big rest).map fun units =>
      (if big then 0x100 * a.toNat + b.toNat else 0x100 * b.toNat + a.toNat) :: units

/-- The code points of some units. A surrogate that has no other one to join passes. -/
def joinSurrogates : List ℕ → PyStr
  | [] => []
  | [unit] => [unit]
  | high :: low :: rest =>
    if (0xD800 ≤ high ∧ high ≤ 0xDBFF) ∧ 0xDC00 ≤ low ∧ low ≤ 0xDFFF then
      (0x10000 + 0x400 * (high - 0xD800) + (low - 0xDC00)) :: joinSurrogates rest
    else high :: joinSurrogates (low :: rest)

/-- A 32-bit unit. -/
def unit32 (big : Bool) (a b c d : UInt8) : ℕ :=
  if big then 0x1000000 * a.toNat + 0x10000 * b.toNat + 0x100 * c.toNat + d.toNat
  else 0x1000000 * d.toNat + 0x10000 * c.toNat + 0x100 * b.toNat + a.toNat

/-- The code points of some bytes in UTF-32. -/
def decodeUtf32 (big : Bool) : List UInt8 → Option PyStr
  | [] => some []
  | a :: b :: c :: d :: rest =>
    if 0x10FFFF < unit32 big a b c d then none
    else (decodeUtf32 big rest).map fun text => unit32 big a b c d :: text
  | _ => none

/-- `bytes.decode(encoding, "surrogatepass")`. -/
def decodeAs : Encoding → List UInt8 → Option PyStr
  | .utf8, bytes => decodeUtf8 {} bytes
  | .utf16 big, bytes => (units16 big bytes).map joinSurrogates
  | .utf32 big, bytes => decodeUtf32 big bytes

/-- `json.loads(body)` of bytes. -/
def loadsBytes (depth : ℕ) (bytes : List UInt8) : Except PyException Json :=
  match decodeAs (detectEncoding bytes).1 (detectEncoding bytes).2 with
  | none => .error .unicodeDecodeError
  | some text => loads depth text

/-! ## Lengths -/

/-- One byte of UTF-8 yields at most one code point. -/
theorem stepPass_length {st st' : Utf8State} {b : ℕ} {text : PyStr}
    (h : stepPass st b = some (text, st')) : text.length ≤ 1 := by
  unfold stepPass leadPass at h
  split_ifs at h <;> cases h <;> simp

/-- A text in UTF-8 has no more code points than bytes. -/
theorem decodeUtf8_length {bytes : List UInt8} :
    ∀ {st : Utf8State} {text : PyStr}, decodeUtf8 st bytes = some text →
      text.length ≤ bytes.length := by
  induction bytes with
  | nil =>
    intro st text h
    rw [decodeUtf8] at h
    split_ifs at h
    cases h
    simp
  | cons b rest ih =>
    intro st text h
    rw [decodeUtf8] at h
    obtain ⟨⟨first, st'⟩, hstep, h⟩ := Option.bind_eq_some_iff.mp h
    obtain ⟨others, hothers, rfl⟩ := Option.map_eq_some_iff.mp h
    have hfirst := stepPass_length hstep
    have hrest := ih hothers
    simp only [List.length_append, List.length_cons]
    omega

/-- There are no more units than bytes. -/
theorem units16_length {big : Bool} {bytes : List UInt8} {units : List ℕ}
    (h : units16 big bytes = some units) : units.length ≤ bytes.length := by
  induction bytes using units16.induct generalizing units with
  | case1 =>
    cases h
    simp
  | case2 => cases h
  | case3 a b rest ih =>
    rw [units16] at h
    obtain ⟨others, hothers, rfl⟩ := Option.map_eq_some_iff.mp h
    have hrest := ih hothers
    simp only [List.length_cons]
    omega

/-- Joining surrogate pairs makes a text no longer. -/
theorem joinSurrogates_length (units : List ℕ) : (joinSurrogates units).length ≤ units.length := by
  induction units using joinSurrogates.induct with
  | case1 => simp [joinSurrogates]
  | case2 => simp [joinSurrogates]
  | case3 high low rest hpair ih =>
    rw [joinSurrogates, if_pos hpair]
    simp only [List.length_cons]
    omega
  | case4 high low rest hpair ih =>
    rw [joinSurrogates, if_neg hpair]
    simp only [List.length_cons] at ih ⊢
    omega

/-- A text in UTF-32 has no more code points than bytes. -/
theorem decodeUtf32_length {big : Bool} {bytes : List UInt8} {text : PyStr}
    (h : decodeUtf32 big bytes = some text) : text.length ≤ bytes.length := by
  induction bytes using decodeUtf32.induct generalizing text with
  | big => exact big
  | case1 =>
    cases h
    simp
  | case2 a b c d rest hlarge =>
    rw [decodeUtf32, if_pos hlarge] at h
    cases h
  | case3 a b c d rest hlarge ih =>
    rw [decodeUtf32, if_neg hlarge] at h
    obtain ⟨others, hothers, rfl⟩ := Option.map_eq_some_iff.mp h
    have hrest := ih hothers
    simp only [List.length_cons]
    omega
  | case4 bytes hnil hcons =>
    unfold decodeUtf32 at h
    split at h
    · exact absurd rfl hnil
    · exact absurd rfl (hcons _ _ _ _ _)
    · cases h

/-- A text has at most as many code points as the bytes that it was decoded from, in every encoding.
-/
theorem decodeAs_length {encoding : Encoding} {bytes : List UInt8} {text : PyStr}
    (h : decodeAs encoding bytes = some text) : text.length ≤ bytes.length := by
  cases encoding with
  | utf8 => exact decodeUtf8_length h
  | utf16 big =>
    obtain ⟨units, hunits, rfl⟩ := Option.map_eq_some_iff.mp h
    exact (joinSurrogates_length units).trans (units16_length hunits)
  | utf32 big => exact decodeUtf32_length h

/-- Behind a byte order mark there are no more bytes than before. -/
theorem detectEncoding_length (bytes : List UInt8) :
    (detectEncoding bytes).2.length ≤ bytes.length := by
  unfold detectEncoding
  split_ifs <;> simp

/-- `json.loads` of bytes raises a plain `ValueError` only on more than 4300 of them. -/
theorem loadsBytes_error {depth : ℕ} {bytes : List UInt8} {e : PyException}
    (h : loadsBytes depth bytes = .error e) :
    e = .unicodeDecodeError ∨ e = .jsonDecodeError ∨ e = .recursionError ∨
      e = .valueError ∧ intMaxStrDigits < bytes.length := by
  unfold loadsBytes at h
  split at h
  · cases h
    exact Or.inl rfl
  · next text htext =>
    rcases loads_error h with h | h | ⟨h, hlong⟩
    · exact Or.inr (Or.inl h)
    · exact Or.inr (Or.inr (Or.inl h))
    · have hlength := (decodeAs_length htext).trans (detectEncoding_length bytes)
      exact Or.inr (Or.inr (Or.inr ⟨h, by omega⟩))

/-- A lone surrogate in UTF-8 passes. -/
example : decodeUtf8 {} [0x22, 0xED, 0xA0, 0x80, 0x22] = some [0x22, 0xD800, 0x22] := by decide

end Json

end WTerm
