import Mathlib.Algebra.Order.Group.Nat
import WTerm.Python.Json

/-!
# What a scan leaves and what it raises

Every scanner of the decoder hands on a rest no longer than its text and raises one of three
exceptions, a plain `ValueError` only on a text of more than 4300 code points. The fuel that
`loads` gives its scanners always suffices.
-/

namespace WTerm

namespace Json

/-- A scan of a text ends inside it, or raises one of the decoder's exceptions. -/
def Within {α : Type} (s : PyStr) : Except PyException (α × PyStr) → Prop
  | .ok (_, rest) => rest.length ≤ s.length
  | .error e => e = .jsonDecodeError ∨ e = .recursionError ∨
      e = .valueError ∧ intMaxStrDigits < s.length

/-- A scan within a text is a scan within any longer one. -/
theorem Within.mono {α : Type} {s t : PyStr} {r : Except PyException (α × PyStr)}
    (h : Within s r) (hle : s.length ≤ t.length) : Within t r := by
  cases r with
  | ok r => exact le_trans h hle
  | error e =>
    rcases h with h | h | ⟨h, hlong⟩
    · exact Or.inl h
    · exact Or.inr (Or.inl h)
    · exact Or.inr (Or.inr ⟨h, hlong.trans_le hle⟩)

/-- The rest that a successful scan leaves is not longer than the text. -/
theorem Within.rest_le {α : Type} {s rest : PyStr} {value : α}
    {r : Except PyException (α × PyStr)} (h : Within s r) (hr : r = .ok (value, rest)) :
    rest.length ≤ s.length := by
  subst hr
  exact h

/-- The exception of a failed scan, for a result of another type. -/
theorem Within.error {α β : Type} {s : PyStr} {e : PyException}
    {r : Except PyException (α × PyStr)} (h : Within s r) (hr : r = .error e) :
    Within s (.error e : Except PyException (β × PyStr)) := by
  subst hr
  exact h

/-- A syntax error is within every text. -/
theorem within_syntax {α : Type} (s : PyStr) :
    Within s (.error .jsonDecodeError : Except PyException (α × PyStr)) := Or.inl rfl

/-- The recursion limit is one of the exceptions that a scan may raise. -/
theorem within_recursion {α : Type} (s : PyStr) :
    Within s (.error .recursionError : Except PyException (α × PyStr)) := Or.inr (Or.inl rfl)

/-- Skipping whitespace leaves no more than there was. -/
theorem skipSpace_length_le (s : PyStr) : (skipSpace s).length ≤ s.length := by
  induction s with
  | nil => exact le_rfl
  | cons c rest ih =>
    rw [skipSpace]
    split
    · exact ih.trans (Nat.le_succ _)
    · exact le_rfl

/-- Behind the first code point there is one less. -/
theorem tail_length {s : PyStr} {c : ℕ} (h : s.head? = some c) :
    s.tail.length + 1 = s.length := by
  cases s with
  | nil => simp at h
  | cons d rest => rfl

/-- What follows a separator and the whitespace around it is shorter than the text before. -/
theorem behind_separator {s : PyStr} {c : ℕ} (h : (skipSpace s).head? = some c) :
    (skipSpace (skipSpace s).tail).length + 1 ≤ s.length := by
  have hskip := skipSpace_length_le s
  have htail := tail_length h
  have hbehind := skipSpace_length_le (skipSpace s).tail
  omega

/-- What follows a closing bracket is shorter than the text before, also with the whitespace that
follows it. -/
theorem behind_bracket {s : PyStr} {c : ℕ} (h : (skipSpace s).head? = some c) :
    (skipSpace s).tail.length + 1 ≤ s.length := by
  have hskip := skipSpace_length_le s
  have htail := tail_length h
  omega

/-- A code point in front of a scanned string changes neither its end nor its error. -/
theorem within_consChar {s : PyStr} {r : Except PyException (PyStr × PyStr)} (c : ℕ)
    (h : Within s r) : Within s (consChar c r) := by
  cases r with
  | ok r => exact h
  | error e => exact h

/-- The only exception of an escape is a syntax error. -/
theorem scanEscape_error {s : PyStr} {e : PyException} (h : scanEscape s = .error e) :
    e = .jsonDecodeError := by
  have hlow : ∀ (high : ℕ) (t : PyStr) (e : PyException),
      lowSurrogate high t = .error e → e = .jsonDecodeError := by
    intro high t e h
    unfold lowSurrogate at h
    split at h
    · split at h
      · cases h; rfl
      · cases h
    · cases h
  unfold scanEscape at h
  split at h
  · split at h
    · cases h; rfl
    · next high _ =>
      split at h
      · next e' he =>
        cases h
        exact hlow _ _ _ he
      · cases h
      · cases h
  · split at h
    · cases h; rfl
    · cases h

/-- A string is read within its text. -/
theorem scanString_within (s : PyStr) : ∀ skip, Within s (scanString skip s) := by
  induction s with
  | nil => exact fun skip => within_syntax _
  | cons c rest ih =>
    intro skip
    have hstep : ∀ skip, Within (c :: rest) (scanString skip rest) :=
      fun skip => (ih skip).mono (Nat.le_succ _)
    rw [scanString]
    split
    · exact hstep _
    split
    · exact Nat.le_succ _
    split
    · split
      · next e he =>
        cases scanEscape_error he
        exact within_syntax _
      · exact within_consChar _ (hstep _)
    split
    · exact within_syntax _
    · exact within_consChar _ (hstep _)

/-- Digits and their rest make up the text. -/
theorem spanDigits_length (s : PyStr) :
    (spanDigits s).1.length + (spanDigits s).2.length = s.length := by
  induction s with
  | nil => rfl
  | cons c rest ih =>
    rw [spanDigits]
    split
    · simp only [List.length_cons]
      omega
    · simp

/-- The integer part and its rest make up the text. -/
theorem scanInteger_length (s : PyStr) :
    (scanInteger s).1.length + (scanInteger s).2.length = s.length := by
  unfold scanInteger
  split
  · next h =>
    have htail := tail_length h
    simp only [List.length_take]
    omega
  · exact spanDigits_length s

/-- A fraction leaves no more than there was. -/
theorem scanFraction_length_le (s : PyStr) : (scanFraction s).2.length ≤ s.length := by
  unfold scanFraction
  split
  · have hspan := spanDigits_length s.tail
    have htail := List.length_tail (l := s)
    simp only
    omega
  · exact le_rfl

/-- The scan of an exponent leaves a text that is not longer. -/
theorem scanExponent_length_le (s : PyStr) : (scanExponent s).2.length ≤ s.length := by
  have hsign : ∀ t : PyStr, (scanSign t).2.length ≤ t.length := by
    intro t
    unfold scanSign
    split
    · simp
    · exact le_rfl
  have hspan := spanDigits_length (scanSign s.tail).2
  have htail := List.length_tail (l := s)
  have hrest := hsign s.tail
  unfold scanExponent
  simp only
  split
  · simp only
    omega
  · exact le_rfl

/-- A number is read within its text, and more than 4300 digits need as long a text. -/
theorem scanNumber_within (negative : Bool) (s : PyStr) : Within s (scanNumber negative s) := by
  have hdigits := scanInteger_length s
  have hfraction := scanFraction_length_le (scanInteger s).2
  have hexponent := scanExponent_length_le (scanFraction (scanInteger s).2).2
  have hrest : (scanExponent (scanFraction (scanInteger s).2).2).2.length ≤ s.length := by omega
  unfold scanNumber
  simp only
  split
  · exact within_syntax _
  split
  · exact hrest
  split
  · next hlong =>
    refine Or.inr (Or.inr ⟨rfl, ?_⟩)
    omega
  · exact hrest

/-- A constant or a number is read within its text. -/
theorem scanScalar_within (s : PyStr) : Within s (scanScalar s) := by
  unfold scanScalar
  split
  · simp [Within]
  split
  · exact (scanNumber_within true s.tail).mono (by simp)
  · exact scanNumber_within false s

/-- What the three scanners of a fuel promise of every text and depth. -/
def ScansWithin (fuel : ℕ) : Prop :=
  (∀ depth s, Within s (scanOnce fuel depth s)) ∧
    (∀ depth s, Within s (scanItems fuel depth s)) ∧
    ∀ depth s, Within s (scanMembers fuel depth s)

/-- One value is read within its text when items and members are, with one call less. -/
theorem scanOnce_within {fuel : ℕ} (ih : ScansWithin fuel) (depth : ℕ) (s : PyStr) :
    Within s (scanOnce (fuel + 1) depth s) := by
  obtain ⟨-, hitems, hmembers⟩ := ih
  have hinner : (skipSpace s.tail).length ≤ s.length :=
    (skipSpace_length_le _).trans (by simp)
  rw [scanOnce]
  split
  · have hstring := (scanString_within s.tail 0).mono (t := s) (by simp)
    split
    · next h => exact hstring.rest_le h
    · next h => exact hstring.error h
  split
  · split
    · exact within_recursion _
    split
    · next h =>
      have hbehind := tail_length h
      exact (show (skipSpace s.tail).tail.length ≤ s.length by omega)
    · have hin := (hmembers (depth - 1) (skipSpace s.tail)).mono hinner
      split
      · next h => exact hin.rest_le h
      · next h => exact hin.error h
  split
  · split
    · exact within_recursion _
    split
    · next h =>
      have hbehind := tail_length h
      exact (show (skipSpace s.tail).tail.length ≤ s.length by omega)
    · have hin := (hitems (depth - 1) (skipSpace s.tail)).mono hinner
      split
      · next h => exact hin.rest_le h
      · next h => exact hin.error h
  · exact scanScalar_within s

/-- The scan of the values of an array ends inside the text, or raises one of the decoder's
exceptions. -/
theorem scanItems_within {fuel : ℕ} (ih : ScansWithin fuel) (depth : ℕ) (s : PyStr) :
    Within s (scanItems (fuel + 1) depth s) := by
  obtain ⟨honce, hitems, -⟩ := ih
  rw [scanItems]
  split
  · next h => exact (honce depth s).error h
  · next value rest h =>
    have hrest : rest.length ≤ s.length := (honce depth s).rest_le h
    split
    · next hb =>
      have hbehind := behind_bracket hb
      exact (show (skipSpace rest).tail.length ≤ s.length by omega)
    split
    · next hb =>
      have hbehind := behind_separator hb
      have hin := (hitems depth (skipSpace (skipSpace rest).tail)).mono (t := s) (by omega)
      split
      · next h => exact hin.rest_le h
      · next h => exact hin.error h
    · exact within_syntax _

/-- The scan of the members of an object ends inside the text, or raises one of the decoder's
exceptions. -/
theorem scanMembers_within {fuel : ℕ} (ih : ScansWithin fuel) (depth : ℕ) (s : PyStr) :
    Within s (scanMembers (fuel + 1) depth s) := by
  obtain ⟨honce, -, hmembers⟩ := ih
  rw [scanMembers]
  split
  · exact within_syntax _
  have hstring := (scanString_within s.tail 0).mono (t := s) (by simp)
  split
  · next h => exact hstring.error h
  · next key rest h =>
    have hrest : rest.length ≤ s.length := hstring.rest_le h
    split
    · exact within_syntax _
    next hcolon =>
    have hbehind := behind_separator (not_not.mp hcolon)
    have hvalue := (honce depth (skipSpace (skipSpace rest).tail)).mono (t := s) (by omega)
    split
    · next h => exact hvalue.error h
    · next value rest' h =>
      have hrest' : rest'.length ≤ s.length := hvalue.rest_le h
      split
      · next hb =>
        have hbehind' := behind_bracket hb
        exact (show (skipSpace rest').tail.length ≤ s.length by omega)
      split
      · next hb =>
        have hbehind' := behind_separator hb
        have hin := (hmembers depth (skipSpace (skipSpace rest').tail)).mono (t := s) (by omega)
        split
        · next h => exact hin.rest_le h
        · next h => exact hin.error h
      · exact within_syntax _

/-- Every scanner reads within its text, however much fuel it has. -/
theorem scansWithin (fuel : ℕ) : ScansWithin fuel := by
  induction fuel with
  | zero =>
    refine ⟨fun depth s => ?_, fun depth s => ?_, fun depth s => ?_⟩
    · rw [scanOnce]; exact within_syntax _
    · rw [scanItems]; exact within_syntax _
    · rw [scanMembers]; exact within_syntax _
  | succ fuel ih => exact ⟨scanOnce_within ih, scanItems_within ih, scanMembers_within ih⟩

/-- `json.loads` raises one of three exceptions, and a plain `ValueError` only on a text of
more than 4300 code points. -/
theorem loads_error {depth : ℕ} {text : PyStr} {e : PyException}
    (h : loads depth text = .error e) : e = .jsonDecodeError ∨ e = .recursionError ∨
      e = .valueError ∧ intMaxStrDigits < text.length := by
  have hscan := ((scansWithin (2 * text.length + 2)).1 depth (skipSpace text)).mono
    (skipSpace_length_le text)
  unfold loads at h
  split at h
  · cases h
    exact Or.inl rfl
  split at h
  · next e' he =>
    cases h
    rw [he] at hscan
    exact hscan
  · split at h
    · cases h
    · cases h
      exact Or.inl rfl

/-- What the three scanners of two fuels agree on: every text they both have the fuel for. -/
def SameScan (fuel fuel' : ℕ) : Prop :=
  (∀ depth (s : PyStr), 2 * s.length + 1 ≤ fuel → 2 * s.length + 1 ≤ fuel' →
      scanOnce fuel depth s = scanOnce fuel' depth s) ∧
    (∀ depth (s : PyStr), 2 * s.length + 2 ≤ fuel → 2 * s.length + 2 ≤ fuel' →
      scanItems fuel depth s = scanItems fuel' depth s) ∧
    ∀ depth (s : PyStr), 2 * s.length + 2 ≤ fuel → 2 * s.length + 2 ≤ fuel' →
      scanMembers fuel depth s = scanMembers fuel' depth s

/-- Two calls of `scan_once` agree when the calls inside them do: behind the opening bracket
one code point is gone. -/
theorem scanOnce_same {fuel fuel' : ℕ} (ih : SameScan fuel fuel') (depth : ℕ) (s : PyStr)
    (hf : 2 * s.length + 1 ≤ fuel + 1) (hf' : 2 * s.length + 1 ≤ fuel' + 1) :
    scanOnce (fuel + 1) depth s = scanOnce (fuel' + 1) depth s := by
  obtain ⟨-, hitems, hmembers⟩ := ih
  have hskip := skipSpace_length_le s.tail
  rw [scanOnce, scanOnce]
  by_cases hobj : s.head? = some 123
  · have htail := tail_length hobj
    rw [hmembers (depth - 1) (skipSpace s.tail) (by omega) (by omega)]
    simp [hobj]
  by_cases harr : s.head? = some 91
  · have htail := tail_length harr
    rw [hitems (depth - 1) (skipSpace s.tail) (by omega) (by omega)]
    simp [harr]
  · simp [hobj, harr]

/-- Two scans of an array's values agree: a comma is gone before the next value. -/
theorem scanItems_same {fuel fuel' : ℕ} (ih : SameScan fuel fuel') (depth : ℕ) (s : PyStr)
    (hf : 2 * s.length + 2 ≤ fuel + 1) (hf' : 2 * s.length + 2 ≤ fuel' + 1) :
    scanItems (fuel + 1) depth s = scanItems (fuel' + 1) depth s := by
  obtain ⟨honce, hitems, -⟩ := ih
  rw [scanItems, scanItems, honce depth s (by omega) (by omega)]
  split
  · rfl
  · next value rest h =>
    have hrest : rest.length ≤ s.length := ((scansWithin fuel').1 depth s).rest_le h
    by_cases hb : (skipSpace rest).head? = some 44
    · have hbehind := behind_separator hb
      rw [hitems depth (skipSpace (skipSpace rest).tail) (by omega) (by omega)]
    · simp [hb]

/-- Two scans of an object's members agree: quote, colon and comma are gone before the next. -/
theorem scanMembers_same {fuel fuel' : ℕ} (ih : SameScan fuel fuel') (depth : ℕ) (s : PyStr)
    (hf : 2 * s.length + 2 ≤ fuel + 1) (hf' : 2 * s.length + 2 ≤ fuel' + 1) :
    scanMembers (fuel + 1) depth s = scanMembers (fuel' + 1) depth s := by
  obtain ⟨honce, -, hmembers⟩ := ih
  rw [scanMembers, scanMembers]
  split
  · rfl
  split
  · rfl
  · next key rest h =>
    have hrest : rest.length ≤ s.tail.length := (scanString_within s.tail 0).rest_le h
    have htail := List.length_tail (l := s)
    split
    · rfl
    next hcolon =>
    have hbehind := behind_separator (not_not.mp hcolon)
    rw [honce depth (skipSpace (skipSpace rest).tail) (by omega) (by omega)]
    split
    · rfl
    · next value rest' h =>
      have hrest' := ((scansWithin fuel').1 depth _).rest_le h
      by_cases hb : (skipSpace rest').head? = some 44
      · have hbehind' := behind_separator hb
        rw [hmembers depth (skipSpace (skipSpace rest').tail) (by omega) (by omega)]
      · simp [hb]

/-- Fuel beyond the need of a text changes no scan of it. -/
theorem sameScan (fuel : ℕ) : ∀ fuel', SameScan fuel fuel' := by
  induction fuel with
  | zero => exact fun fuel' => ⟨fun _ _ h => by omega, fun _ _ h => by omega,
      fun _ _ h => by omega⟩
  | succ fuel ih =>
    intro fuel'
    cases fuel' with
    | zero => exact ⟨fun _ _ _ h => by omega, fun _ _ _ h => by omega, fun _ _ _ h => by omega⟩
    | succ fuel' => exact ⟨scanOnce_same (ih fuel'), scanItems_same (ih fuel'),
        scanMembers_same (ih fuel')⟩

/-- The fuel of `loads` is never the reason for its answer: any larger amount gives the same. -/
theorem loads_fuel (depth fuel : ℕ) (text : PyStr) (h : 2 * text.length + 2 ≤ fuel) :
    scanOnce fuel depth (skipSpace text) =
      scanOnce (2 * text.length + 2) depth (skipSpace text) := by
  have hskip := skipSpace_length_le text
  exact (sameScan fuel _).1 depth _ (by omega) (by omega)

end Json

end WTerm
