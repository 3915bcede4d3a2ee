import WTerm.Python.Text

/-!
# Decoding UTF-8

`bytes.decode("utf-8", "replace")`: every maximal ill-formed part of the bytes becomes one
replacement character. On the encoding of a string it is the inverse.
-/

namespace WTerm

/-- The replacement character. -/
def replacement : ℕ := 0xFFFD

/-- How far the decoder is in a character. -/
structure Utf8State where
  /-- The bytes that are still to come. -/
  need : ℕ := 0
  /-- The bits so far. -/
  bits : ℕ := 0
  /-- The bounds of the next byte. -/
  lower : ℕ := 0x80
  upper : ℕ := 0xBF
  deriving DecidableEq

namespace Utf8State

/-- The first byte of a character: what it yields at once, and the state after it. -/
def lead (b : ℕ) : PyStr × Utf8State :=
  if b < 0x80 then ([b], {})
  else if b < 0xC2 then ([replacement], {})
  else if b < 0xE0 then ([], { need := 1, bits := b - 0xC0 })
  else if b < 0xF0 then
    ([], { need := 2, bits := b - 0xE0, lower := if b = 0xE0 then 0xA0 else 0x80,
           upper := if b = 0xED then 0x9F else 0xBF })
  else if b < 0xF5 then
    ([], { need := 3, bits := b - 0xF0, lower := if b = 0xF0 then 0x90 else 0x80,
           upper := if b = 0xF4 then 0x8F else 0xBF })
  else ([replacement], {})

/-- One byte: what it yields, and the state after it. -/
def step (st : Utf8State) (b : ℕ) : PyStr × Utf8State :=
  if st.need = 0 then lead b
  else if st.lower ≤ b ∧ b ≤ st.upper then
    if st.need = 1 then ([0x40 * st.bits + (b - 0x80)], {})
    else ([], { need := st.need - 1, bits := 0x40 * st.bits + (b - 0x80) })
  else
    -- The character is cut off, and the byte starts another one.
    (replacement :: (lead b).1, (lead b).2)

/-- The decoder from a state on. -/
def decode (st : Utf8State) : List UInt8 → PyStr
  | [] => if st.need = 0 then [] else [replacement]
  | b :: rest => (st.step b.toNat).1 ++ decode (st.step b.toNat).2 rest

end Utf8State

/-- `bytes.decode("utf-8", "replace")`. -/
def PyStr.decodeReplace (bytes : List UInt8) : PyStr := Utf8State.decode {} bytes

/-- A Unicode scalar value. -/
def IsScalar (c : ℕ) : Prop := c < 0x110000 ∧ isSurrogate c = false

instance (c : ℕ) : Decidable (IsScalar c) := inferInstanceAs (Decidable (_ ∧ _))

/-- A scalar value lies below the surrogates or above them. -/
theorem IsScalar.gap {c : ℕ} (hc : IsScalar c) : c < 0xD800 ∨ 0xDFFF < c := by
  have hsurrogate := hc.2
  simp only [isSurrogate, Bool.and_eq_false_iff, decide_eq_false_iff_not] at hsurrogate
  omega

/-- An ASCII character is a scalar value. -/
theorem isScalar_of_lt {c : ℕ} (hc : c < 0x80) : IsScalar c := by
  refine ⟨by omega, ?_⟩
  simp only [isSurrogate, Bool.and_eq_false_iff, decide_eq_false_iff_not]
  omega

namespace Utf8State

theorem toNat_toUInt8 {b : ℕ} (hbyte : b < 0x100) : b.toUInt8.toNat = b := by
  rw [Nat.toUInt8_eq, UInt8.toNat_ofNat']
  exact Nat.mod_eq_of_lt hbyte

/-- A continuation byte that is not the last one of its character. -/
theorem decode_more {need bits lower upper b : ℕ} (rest : List UInt8) (hneed : 2 ≤ need)
    (hlower : lower ≤ b) (hupper : b ≤ upper) (hbyte : b < 0x100) :
    decode ⟨need, bits, lower, upper⟩ (b.toUInt8 :: rest) =
      decode { need := need - 1, bits := 0x40 * bits + (b - 0x80) } rest := by
  have hzero : need ≠ 0 := by omega
  have hone : need ≠ 1 := by omega
  rw [decode, toNat_toUInt8 hbyte]
  simp [step, hzero, hone, hlower, hupper]

/-- The last byte of a character completes it. -/
theorem decode_last {bits lower upper b c : ℕ} (rest : List UInt8) (hlower : lower ≤ b)
    (hupper : b ≤ upper) (hbyte : b < 0x100) (hc : 0x40 * bits + (b - 0x80) = c) :
    decode ⟨1, bits, lower, upper⟩ (b.toUInt8 :: rest) = c :: decode {} rest := by
  rw [decode, toNat_toUInt8 hbyte, ← hc]
  simp [step, hlower, hupper]

/-- The first byte of a character is a character by itself or begins one. -/
theorem decode_lead {b : ℕ} (rest : List UInt8) (hbyte : b < 0x100) :
    decode {} (b.toUInt8 :: rest) = (lead b).1 ++ decode (lead b).2 rest := by
  rw [decode, toNat_toUInt8 hbyte]
  simp [step]

/-- The first of two bytes announces one more, and carries the upper bits. -/
theorem lead_two {c : ℕ} (hlow : 0x80 ≤ c) (hhigh : c < 0x800) :
    lead (0xC0 + c / 0x40) = ([], { need := 1, bits := c / 0x40 }) := by
  have ha : ¬0xC0 + c / 0x40 < 0x80 := by omega
  have hb : ¬0xC0 + c / 0x40 < 0xC2 := by omega
  have hd : 0xC0 + c / 0x40 < 0xE0 := by omega
  simp [lead, ha, hb, hd]

/-- The first of three bytes announces two more, and carries the upper bits. -/
theorem lead_three {c : ℕ} (hhigh : c < 0x10000) :
    lead (0xE0 + c / 0x1000) = ([],
      { need := 2, bits := c / 0x1000, lower := if c / 0x1000 = 0 then 0xA0 else 0x80,
        upper := if c / 0x1000 = 0xD then 0x9F else 0xBF }) := by
  have ha : ¬0xE0 + c / 0x1000 < 0x80 := by omega
  have hb : ¬0xE0 + c / 0x1000 < 0xC2 := by omega
  have hd : ¬0xE0 + c / 0x1000 < 0xE0 := by omega
  have he : 0xE0 + c / 0x1000 < 0xF0 := by omega
  have hfirst : (0xE0 + c / 0x1000 = 0xE0) = (c / 0x1000 = 0) := propext (by omega)
  have hlast : (0xE0 + c / 0x1000 = 0xED) = (c / 0x1000 = 0xD) := propext (by omega)
  simp only [lead, ha, hb, hd, he, if_true, if_false, hfirst, hlast, Nat.add_sub_cancel_left]

/-- The first of four bytes announces three more, and carries the upper bits. -/
theorem lead_four {c : ℕ} (hhigh : c < 0x110000) :
    lead (0xF0 + c / 0x40000) = ([],
      { need := 3, bits := c / 0x40000, lower := if c / 0x40000 = 0 then 0x90 else 0x80,
        upper := if c / 0x40000 = 4 then 0x8F else 0xBF }) := by
  have ha : ¬0xF0 + c / 0x40000 < 0x80 := by omega
  have hb : ¬0xF0 + c / 0x40000 < 0xC2 := by omega
  have hd : ¬0xF0 + c / 0x40000 < 0xE0 := by omega
  have he : ¬0xF0 + c / 0x40000 < 0xF0 := by omega
  have hf : 0xF0 + c / 0x40000 < 0xF5 := by omega
  have hfirst : (0xF0 + c / 0x40000 = 0xF0) = (c / 0x40000 = 0) := propext (by omega)
  have hlast : (0xF0 + c / 0x40000 = 0xF4) = (c / 0x40000 = 4) := propext (by omega)
  simp only [lead, ha, hb, hd, he, hf, if_true, if_false, hfirst, hlast, Nat.add_sub_cancel_left]

/-- The bytes of a character are decoded to it. -/
theorem decode_encodeChar {c : ℕ} (hc : IsScalar c) (rest : List UInt8) :
    decode {} (encodeChar c ++ rest) = c :: decode {} rest := by
  have hgap := hc.gap
  have hmax := hc.1
  unfold encodeChar
  by_cases h1 : c < 0x80
  · rw [if_pos h1, List.singleton_append, decode_lead rest (by omega)]
    simp [lead, h1]
  rw [if_neg h1]
  by_cases h2 : c < 0x800
  · rw [if_pos h2]
    simp only [List.cons_append, List.nil_append]
    rw [decode_lead _ (by omega), lead_two (by omega) h2, List.nil_append,
      decode_last (c := c) _ (by omega) (by omega) (by omega) (by omega)]
  rw [if_neg h2]
  by_cases h3 : c < 0x10000
  · rw [if_pos h3]
    simp only [List.cons_append, List.nil_append]
    rw [decode_lead _ (by omega), lead_three h3, List.nil_append,
      decode_more _ (by omega) (by split <;> omega) (by split <;> omega) (by omega),
      decode_last (c := c) _ (by omega) (by omega) (by omega) (by omega)]
  rw [if_neg h3]
  simp only [List.cons_append, List.nil_append]
  rw [decode_lead _ (by omega), lead_four hmax, List.nil_append,
    decode_more _ (by omega) (by split <;> omega) (by split <;> omega) (by omega),
    decode_more _ (by omega) (by omega) (by omega) (by omega),
    decode_last (c := c) _ (by omega) (by omega) (by omega) (by omega)]

end Utf8State

/-- Decoding undoes encoding, on scalar values. -/
theorem PyStr.decodeReplace_flatMap {s : PyStr} (hs : ∀ c ∈ s, IsScalar c) :
    PyStr.decodeReplace (s.flatMap encodeChar) = s := by
  unfold PyStr.decodeReplace
  induction s with
  | nil => rfl
  | cons c rest ih =>
    rw [List.flatMap_cons, Utf8State.decode_encodeChar (hs c (by simp)),
      ih fun d hd => hs d (List.mem_cons_of_mem _ hd)]

end WTerm
