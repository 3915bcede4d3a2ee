import Mathlib.Data.List.Chain
import Mathlib.Data.Nat.Digits.Lemmas
import WTerm.Python.JsonScan
import WTerm.Web.OriginList

/-!
# Texts that are written as JSON

`JSON.stringify` and `json.dumps` write the same values in different styles: with or without a
blank after a separator, and with more or fewer code points as `\u` escapes. In every style
`json.loads` reads a value back as it was, if its strings are what UTF-16 can hold.
-/

namespace WTerm

open PyStr

namespace Json

/-- A surrogate that begins a pair. -/
def isHigh (c : ℕ) : Bool := 0xD800 ≤ c && c ≤ 0xDBFF

/-- A surrogate that ends a pair. -/
def isLow (c : ℕ) : Bool := 0xDC00 ≤ c && c ≤ 0xDFFF

/-- The code points of a UTF-16 string: two surrogates that make up a pair are one code point. -/
structure IsUtf16 (s : PyStr) : Prop where
  bound : ∀ c ∈ s, c < 0x110000
  joined : s.IsChain fun a b => isHigh a = true → isLow b = false

/-- A text without surrogates is a UTF-16 string. -/
theorem isUtf16_of_scalar {s : PyStr} (hs : ∀ c ∈ s, IsScalar c) : IsUtf16 s := by
  refine ⟨fun c hc => (hs c hc).1, ?_⟩
  induction s with
  | nil => exact .nil
  | cons c rest ih =>
    refine List.isChain_cons.mpr ⟨fun d _ hhigh => ?_, ih fun d hd => hs d (.tail c hd)⟩
    have hgap := (hs c List.mem_cons_self).gap
    simp only [isHigh, Bool.and_eq_true, decide_eq_true_eq] at hhigh
    omega

/-- How values are written. -/
structure JsonStyle where
  /-- What stands behind a comma or a colon. -/
  gap : PyStr
  gap_blank : ∀ c ∈ gap, c = 32
  /-- The code points that are written as `\u` escapes, besides the control characters. -/
  escapes : ℕ → Bool

/-- `JSON.stringify`. -/
def stringifyStyle : JsonStyle where
  gap := []
  gap_blank := by simp
  escapes := isSurrogate

/-- A lower case hexadecimal digit. -/
def hexChar (n : ℕ) : ℕ := if n < 10 then 48 + n else 87 + n

/-- Four hexadecimal digits. -/
def hex4 (c : ℕ) : PyStr :=
  [hexChar (c / 4096 % 16), hexChar (c / 256 % 16), hexChar (c / 16 % 16), hexChar (c % 16)]

/-- A `\u` escape. -/
def uEscape (c : ℕ) : PyStr := 92 :: 117 :: hex4 c

/-- The letter of a short escape. -/
def escapeLetter (c : ℕ) : Option ℕ :=
  if c = 34 ∨ c = 92 then some c
  else if c = 8 then some 98
  else if c = 12 then some 102
  else if c = 10 then some 110
  else if c = 13 then some 114
  else if c = 9 then some 116
  else none

/-- A code point within a string. -/
def writeChar (style : JsonStyle) (c : ℕ) : PyStr :=
  match escapeLetter c with
  | some letter => [92, letter]
  | none =>
    if c < 32 ∨ style.escapes c then
      if c < 0x10000 then uEscape c
      else uEscape (0xD800 + (c - 0x10000) / 0x400) ++ uEscape (0xDC00 + (c - 0x10000) % 0x400)
    else [c]

/-- A string without its quotes. -/
def writeChars (style : JsonStyle) (s : PyStr) : PyStr := s.flatMap (writeChar style)

/-- A string. -/
def writeString (style : JsonStyle) (s : PyStr) : PyStr := 34 :: (writeChars style s ++ [34])

/-- An integer. -/
def writeInt (n : ℤ) : PyStr := if n < 0 then 45 :: decimal n.natAbs else decimal n.natAbs

mutual

/-- A value. -/
def write (style : JsonStyle) : Json → PyStr
  | .null => py ['n', 'u', 'l', 'l']
  | .bool true => py ['t', 'r', 'u', 'e']
  | .bool false => py ['f', 'a', 'l', 's', 'e']
  | .int n => writeInt n
  | .float literal => literal
  | .str s => writeString style s
  | .arr items => 91 :: (writeItems style items ++ [93])
  | .obj members => 123 :: (writeMembers style members ++ [125])

/-- The values of an array. -/
def writeItems (style : JsonStyle) : List Json → PyStr
  | [] => []
  | item :: rest => write style item ++ writeRest style rest

/-- The values of an array behind one. -/
def writeRest (style : JsonStyle) : List Json → PyStr
  | [] => []
  | item :: rest => 44 :: (style.gap ++ write style item ++ writeRest style rest)

/-- A member of an object. -/
def writeMember (style : JsonStyle) : PyStr × Json → PyStr
  | (key, value) => writeString style key ++ 58 :: (style.gap ++ write style value)

/-- The members of an object. -/
def writeMembers (style : JsonStyle) : List (PyStr × Json) → PyStr
  | [] => []
  | member :: rest => writeMember style member ++ writeMore style rest

/-- The members of an object behind one. -/
def writeMore (style : JsonStyle) : List (PyStr × Json) → PyStr
  | [] => []
  | member :: rest => 44 :: (style.gap ++ writeMember style member ++ writeMore style rest)

end

/-! ## Strings -/

/-- A `\u` escape is written in printable ASCII characters. -/
theorem uEscape_ascii (c : ℕ) : ∀ d ∈ uEscape c, 32 ≤ d ∧ d < 0x80 := by
  have hchar : ∀ n, n < 16 → 32 ≤ hexChar n ∧ hexChar n < 0x80 := by
    intro n hn
    unfold hexChar
    split <;> omega
  intro d hd
  simp only [uEscape, hex4, List.mem_cons, List.not_mem_nil, or_false] at hd
  rcases hd with rfl | rfl | rfl | rfl | rfl | rfl
  · decide
  · decide
  all_goals exact hchar _ (Nat.mod_lt _ (by decide))

/-- The letter of a short escape is a printable ASCII character. -/
theorem escapeLetter_ascii {c letter : ℕ} (h : escapeLetter c = some letter) :
    32 ≤ letter ∧ letter < 0x80 := by
  unfold escapeLetter at h
  split_ifs at h with hself
  all_goals obtain rfl := Option.some.inj h
  · rcases hself with rfl | rfl <;> decide
  all_goals decide

section Strings

variable {style : JsonStyle} {c : ℕ} {rest : PyStr}

/-- A hexadecimal digit that is written is read back. -/
theorem hexDigit_hexChar {n : ℕ} (hn : n < 16) : hexDigit (hexChar n) = some n := by
  unfold hexDigit hexChar
  split_ifs <;> first | omega | (congr 1; omega)

/-- Four hexadecimal digits that are written are read back. -/
theorem hexQuad_hex4 (hc : c < 0x10000) (rest : PyStr) : hexQuad (hex4 c ++ rest) = some c := by
  have hlength : ¬(hex4 c ++ rest).length < 4 := by simp [hex4]
  have htake : (hex4 c ++ rest).take 4 = hex4 c := by simp [hex4]
  rw [hexQuad, if_neg hlength, htake]
  simp only [hex4, List.foldl_cons, List.foldl_nil, Option.bind_some,
    hexDigit_hexChar (Nat.mod_lt _ (by decide : 0 < 16)), Option.map_some]
  congr 1
  omega

/-- The code points of an escape are skipped once it is read. -/
theorem scanString_skip (done rest : PyStr) :
    scanString done.length (done ++ rest) = scanString 0 rest := by
  induction done with
  | nil => rfl
  | cons c done ih =>
    rw [List.cons_append, scanString, if_pos (by simp)]
    exact ih

/-- A backslash with its escape is one code point. -/
theorem scanString_escape (done : PyStr) {e : ℕ}
    (h : scanEscape (done ++ rest) = .ok (e, done.length)) :
    scanString 0 (92 :: (done ++ rest)) = consChar e (scanString 0 rest) := by
  rw [scanString, if_neg (Nat.lt_irrefl 0), if_neg (by decide), if_pos rfl, h]
  dsimp only
  rw [scanString_skip]

/-- A short escape that is written is read back. -/
theorem scanString_short {letter : ℕ} (h : escapeLetter c = some letter) (rest : PyStr) :
    scanString 0 (92 :: letter :: rest) = consChar c (scanString 0 rest) := by
  have hread : letter ≠ 117 ∧ escape letter = some c := by
    unfold escapeLetter at h
    split_ifs at h with hself
    all_goals obtain rfl := Option.some.inj h
    · rcases hself with rfl | rfl <;> decide
    all_goals subst_vars; decide
  refine scanString_escape [letter] ?_
  simp [scanEscape, hread.1, hread.2]

/-- An escape is read back, unless it joins what follows it. -/
theorem scanString_uEscape (hc : c < 0x10000) (hlow : lowSurrogate c rest = .ok none) :
    scanString 0 (uEscape c ++ rest) = consChar c (scanString 0 rest) := by
  refine scanString_escape (117 :: hex4 c) ?_
  have hdrop : (117 :: (hex4 c ++ rest)).drop 5 = rest := by simp [hex4]
  rw [List.cons_append, scanEscape, if_pos List.head?_cons, List.tail_cons, hexQuad_hex4 hc]
  dsimp only
  rw [hdrop, hlow]
  rfl

/-- A high and a low surrogate join. -/
theorem lowSurrogate_uEscape {high low : ℕ} (hhigh : isHigh high = true) (hlow : isLow low = true)
    (rest : PyStr) : lowSurrogate high (uEscape low ++ rest) = .ok (some low) := by
  simp only [isHigh, isLow, Bool.and_eq_true, decide_eq_true_eq] at hhigh hlow
  have hnext : (uEscape low ++ rest).drop 2 = hex4 low ++ rest := rfl
  have htake : (uEscape low ++ rest).take 2 = [92, 117] := rfl
  have hlength : 6 ≤ (uEscape low ++ rest).length := by simp [uEscape, hex4]
  rw [lowSurrogate, if_pos ⟨hhigh.1, hhigh.2, htake, hlength⟩, hnext, hexQuad_hex4 (by omega)]
  dsimp only
  rw [if_pos hlow]

/-- The escapes of two surrogates are one code point. -/
theorem scanString_surrogates {high low : ℕ} (hhigh : isHigh high = true)
    (hlow : isLow low = true) (rest : PyStr) :
    scanString 0 (uEscape high ++ (uEscape low ++ rest)) =
      consChar (0x10000 + (high - 0xD800) * 0x400 + (low - 0xDC00)) (scanString 0 rest) := by
  have hdone : uEscape high ++ (uEscape low ++ rest) =
      92 :: ((117 :: (hex4 high ++ uEscape low)) ++ rest) := by simp [uEscape]
  rw [hdone]
  refine scanString_escape _ ?_
  have hsmall : high < 0x10000 := by
    simp only [isHigh, Bool.and_eq_true, decide_eq_true_eq] at hhigh
    omega
  have hdrop : (117 :: (hex4 high ++ (uEscape low ++ rest))).drop 5 = uEscape low ++ rest := by
    simp [hex4]
  rw [List.cons_append, List.append_assoc, scanEscape, if_pos List.head?_cons, List.tail_cons,
    hexQuad_hex4 hsmall]
  dsimp only
  rw [hdrop, lowSurrogate_uEscape hhigh hlow]
  simp [hex4, uEscape]

/-- The two escapes of a code point beyond the basic plane are read back. -/
theorem scanString_pair (hc : 0x10000 ≤ c) (hmax : c < 0x110000) (rest : PyStr) :
    scanString 0 (uEscape (0xD800 + (c - 0x10000) / 0x400) ++
      (uEscape (0xDC00 + (c - 0x10000) % 0x400) ++ rest)) = consChar c (scanString 0 rest) := by
  have hvalue : 0x10000 + (0xD800 + (c - 0x10000) / 0x400 - 0xD800) * 0x400 +
      (0xDC00 + (c - 0x10000) % 0x400 - 0xDC00) = c := by omega
  rw [scanString_surrogates, hvalue]
  · simp only [isHigh, Bool.and_eq_true, decide_eq_true_eq]
    omega
  · simp only [isLow, Bool.and_eq_true, decide_eq_true_eq]
    omega

/-- A code point is read back, unless it is escaped and joins what follows it. -/
theorem scanString_writeChar (style : JsonStyle) (hmax : c < 0x110000)
    (hlow : lowSurrogate c rest = .ok none) :
    scanString 0 (writeChar style c ++ rest) = consChar c (scanString 0 rest) := by
  unfold writeChar
  split
  · next letter hletter => exact scanString_short hletter rest
  · next hnone =>
    split_ifs with hescape hsmall
    · exact scanString_uEscape hsmall hlow
    · rw [List.append_assoc]
      exact scanString_pair (Nat.not_lt.mp hsmall) hmax rest
    · have hplain : c ≠ 34 ∧ c ≠ 92 := by
        constructor <;> rintro rfl <;> cases hnone
      rw [List.singleton_append, scanString, if_neg (Nat.lt_irrefl 0), if_neg hplain.1,
        if_neg hplain.2, if_neg fun hcontrol => hescape (Or.inl hcontrol)]

/-- Only an escaped low surrogate joins what stands before it. -/
theorem lowSurrogate_writeChar (style : JsonStyle) {d : ℕ} (hmax : d < 0x110000)
    (h : isHigh c = true → isLow d = false) (rest : PyStr) :
    lowSurrogate c (writeChar style d ++ rest) = .ok none := by
  by_cases hhigh : isHigh c = true
  · have hlow := h hhigh
    -- An escape with a value that is no low surrogate.
    have hescape (v : ℕ) (hv : v < 0x10000) (hnone : isLow v = false) (rest : PyStr) :
        lowSurrogate c (uEscape v ++ rest) = .ok none := by
      unfold lowSurrogate
      split
      · have hnext : (uEscape v ++ rest).drop 2 = hex4 v ++ rest := rfl
        rw [hnext, hexQuad_hex4 hv]
        dsimp only
        rw [if_neg]
        simpa [isLow] using hnone
      · rfl
    have hother (t : PyStr) (ht : t.take 2 ≠ [92, 117]) : lowSurrogate c t = .ok none := by
      rw [lowSurrogate, if_neg fun hall => ht hall.2.2.1]
    unfold writeChar
    split
    · next letter hletter =>
      refine hother _ ?_
      unfold escapeLetter at hletter
      split_ifs at hletter with hself
      all_goals obtain rfl := Option.some.inj hletter
      · rcases hself with rfl | rfl <;> simp
      all_goals simp
    · next hnone =>
      split_ifs with hstyle hsmall
      · exact hescape d hsmall hlow rest
      · rw [List.append_assoc]
        refine hescape _ (by omega) ?_ _
        simp only [isLow, Bool.and_eq_false_iff, decide_eq_false_iff_not]
        omega
      · refine hother _ ?_
        have hplain : d ≠ 92 := by
          rintro rfl
          cases hnone
        cases rest <;> simp [hplain]
  · rw [lowSurrogate, if_neg]
    rintro ⟨hge, hle, -⟩
    exact hhigh (by simp [isHigh, hge, hle])

/-- A string is read back from its written characters and the closing quote, whatever follows. -/
theorem scanString_writeChars (style : JsonStyle) {s : PyStr} (hs : IsUtf16 s) (rest : PyStr) :
    scanString 0 (writeChars style s ++ 34 :: rest) = .ok (s, rest) := by
  obtain ⟨hbound, hjoined⟩ := hs
  induction s with
  | nil => rfl
  | cons c s ih =>
    have hmax : c < 0x110000 := hbound c List.mem_cons_self
    have htail := ih (fun d hd => hbound d (List.mem_cons_of_mem c hd)) hjoined.tail
    have hlow : lowSurrogate c (writeChars style s ++ 34 :: rest) = .ok none := by
      cases s with
      | nil =>
        rw [lowSurrogate, if_neg]
        rintro ⟨-, -, htake, -⟩
        cases rest <;> simp [writeChars] at htake
      | cons d s =>
        have hd : d < 0x110000 := hbound d (List.mem_cons_of_mem c List.mem_cons_self)
        rw [writeChars, List.flatMap_cons, List.append_assoc]
        exact lowSurrogate_writeChar style hd (List.isChain_cons_cons.mp hjoined).1 _
    rw [writeChars, List.flatMap_cons, List.append_assoc]
    change scanString 0 (writeChar style c ++ (writeChars style s ++ 34 :: rest)) = _
    rw [scanString_writeChar style hmax hlow, htail]
    rfl

end Strings

/-! ## Numbers -/

/-- A text that ends a value: nothing, a line feed, a comma or a closing bracket. -/
def Ends (t : PyStr) : Prop := ∀ c, t.head? = some c → c = 10 ∨ c = 44 ∨ c = 93 ∨ c = 125

/-- A text that begins a value: not whitespace and no closing bracket. -/
def Starts (t : PyStr) : Prop := ∃ c rest, t = c :: rest ∧ 32 < c ∧ c < 125 ∧ c ≠ 93

section Numbers

variable {t : PyStr}

/-- Digits are read up to what ends a value. -/
theorem spanDigits_append {digits : PyStr} (hdigits : ∀ c ∈ digits, isAsciiDigit c = true)
    (ht : Ends t) : spanDigits (digits ++ t) = (digits, t) := by
  induction digits with
  | nil =>
    cases t with
    | nil => rfl
    | cons c rest =>
      have hc := ht c rfl
      rw [List.nil_append, spanDigits, if_neg (by omega)]
  | cons c digits ih =>
    have hc := hdigits c List.mem_cons_self
    simp only [isAsciiDigit, Bool.and_eq_true, decide_eq_true_eq] at hc
    rw [List.cons_append, spanDigits, if_pos hc,
      ih fun d hd => hdigits d (List.mem_cons_of_mem c hd)]

/-- The decimal form of a number starts with a zero only if the number is zero. -/
theorem decimal_head {n : ℕ} (h : (decimal n).head? = some 48) : n = 0 := by
  by_contra hn
  have hdigits : Nat.digits 10 n ≠ [] := Nat.digits_ne_nil_iff_ne_zero.mpr hn
  have hlast := Nat.getLast_digit_ne_zero 10 hn
  rw [decimal, if_neg hn, List.head?_reverse, List.getLast?_map,
    List.getLast?_eq_some_getLast hdigits] at h
  simp only [Option.map_some, Option.some.injEq] at h
  omega

/-- The integer part of a number that has no other part. -/
theorem scanInteger_decimal (n : ℕ) (ht : Ends t) :
    scanInteger (decimal n ++ t) = (decimal n, t) := by
  unfold scanInteger
  split
  · next hzero =>
    have hhead : (decimal n).head? = some 48 := by
      rwa [List.head?_append_of_ne_nil _ (decimal_ne_nil n)] at hzero
    rw [decimal_head hhead]
    rfl
  · exact spanDigits_append (fun c hc => decimal_digit hc) ht

/-- A number is read back from its digits, if they are not too many and the text behind them ends a
number. -/
theorem scanNumber_decimal (negative : Bool) {n : ℕ}
    (hn : (decimal n).length ≤ intMaxStrDigits) (ht : Ends t) :
    scanNumber negative (decimal n ++ t) =
      .ok (.int (if negative then -(n : ℤ) else n), t) := by
  have hnone : ∀ c, t.head? = some c → c ≠ 46 ∧ c ≠ 101 ∧ c ≠ 69 := by
    intro c hc
    have hend := ht c hc
    omega
  have hfraction : scanFraction t = ([], t) := by
    rw [scanFraction, if_neg]
    rintro ⟨hhead, -⟩
    exact (hnone _ hhead).1 rfl
  have hexponent : scanExponent t = ([], t) := by
    unfold scanExponent
    dsimp only
    rw [if_neg]
    rintro ⟨hhead | hhead, -⟩
    · exact (hnone _ hhead).2.1 rfl
    · exact (hnone _ hhead).2.2 rfl
  unfold scanNumber
  rw [scanInteger_decimal n ht]
  dsimp only
  rw [hfraction]
  dsimp only
  rw [hexponent]
  dsimp only
  rw [if_neg (decimal_ne_nil n), if_neg (by simp), if_neg (by omega), ofDigits_decimal]

/-- A number starts with a digit. -/
theorem decimal_starts (n : ℕ) : ∃ c rest, decimal n = c :: rest ∧ 48 ≤ c ∧ c ≤ 57 := by
  obtain ⟨c, rest, hdecimal⟩ := List.exists_cons_of_ne_nil (decimal_ne_nil n)
  have hc := decimal_digit (hdecimal ▸ List.mem_cons_self : c ∈ decimal n)
  simp only [isAsciiDigit, Bool.and_eq_true, decide_eq_true_eq] at hc
  exact ⟨c, rest, hdecimal, hc.1, hc.2⟩

/-- No constant starts like a number. -/
theorem find_decimal (n : ℕ) (t : PyStr) :
    constants.find? (fun c => c.1.isPrefixOf (decimal n ++ t)) = none ∧
      constants.find? (fun c => c.1.isPrefixOf (45 :: (decimal n ++ t))) = none := by
  obtain ⟨c, rest, hdecimal, hge, hle⟩ := decimal_starts n
  have hne : ∀ d, 57 < d → d ≠ c := by
    rintro d hd rfl
    omega
  rw [hdecimal]
  constructor <;>
    simp [constants, py, nan, infinity, List.isPrefixOf, hne 110, hne 116, hne 102, hne 78,
      hne 73, show (45 : ℕ) ≠ c by omega]

/-- An integer is read back from its written form, if it has not too many digits and the text behind
it ends a number. -/
theorem scanScalar_writeInt {n : ℤ} (hn : (decimal n.natAbs).length ≤ intMaxStrDigits)
    (ht : Ends t) : scanScalar (writeInt n ++ t) = .ok (.int n, t) := by
  obtain ⟨c, rest, hdecimal, hge, hle⟩ := decimal_starts n.natAbs
  unfold scanScalar writeInt
  by_cases hneg : n < 0
  · have hsign : (45 :: (decimal n.natAbs ++ t)).head? = some 45 := rfl
    rw [if_pos hneg, List.cons_append, (find_decimal n.natAbs t).2]
    dsimp only
    rw [if_pos hsign, List.tail_cons, scanNumber_decimal true hn ht, if_pos rfl]
    have hvalue : -(n.natAbs : ℤ) = n := by omega
    rw [hvalue]
  · have hsign : (decimal n.natAbs ++ t).head? ≠ some 45 := by
      rw [hdecimal]
      simp only [List.cons_append, List.head?_cons, ne_eq, Option.some.injEq]
      omega
    rw [if_neg hneg, (find_decimal n.natAbs t).1]
    dsimp only
    rw [if_neg hsign, scanNumber_decimal false hn ht, if_neg (by simp)]
    have hvalue : (n.natAbs : ℤ) = n := by omega
    rw [hvalue]

end Numbers

/-! ## Values -/

/-- The values that a text can hold without loss, with at most so many levels of nesting. -/
inductive Writable : ℕ → Json → Prop
  | null {depth : ℕ} : Writable depth .null
  | bool {depth : ℕ} (b : Bool) : Writable depth (.bool b)
  | int {depth : ℕ} {n : ℤ} (hn : (decimal n.natAbs).length ≤ intMaxStrDigits) :
      Writable depth (.int n)
  | str {depth : ℕ} {s : PyStr} (hs : IsUtf16 s) : Writable depth (.str s)
  | arr {depth : ℕ} {items : List Json} (hitems : ∀ v ∈ items, Writable depth v) :
      Writable (depth + 1) (.arr items)
  | obj {depth : ℕ} {members : List (PyStr × Json)} (hkeys : ∀ m ∈ members, IsUtf16 m.1)
      (hvalues : ∀ m ∈ members, Writable depth m.2) : Writable (depth + 1) (.obj members)

/-- A value is read back where it ends. -/
def Reads (style : JsonStyle) (depth : ℕ) (v : Json) : Prop :=
  ∀ fuel rest, Ends rest → 2 * (write style v ++ rest).length + 1 ≤ fuel →
    scanOnce fuel depth (write style v ++ rest) = .ok (v, rest)

section Values

variable {style : JsonStyle} {depth d : ℕ} {v : Json} {rest : PyStr}

/-- No whitespace is skipped in front of a value. -/
theorem Starts.skipSpace {t : PyStr} (h : Starts t) : skipSpace t = t := by
  obtain ⟨c, rest, rfl, hc, -⟩ := h
  rw [Json.skipSpace, if_neg (by omega)]

/-- The gap in front of a value is skipped. -/
theorem Starts.skipGap {t : PyStr} (h : Starts t) (style : JsonStyle) :
    Json.skipSpace (style.gap ++ t) = t := by
  have hgap : ∀ gap : PyStr, (∀ c ∈ gap, c = 32) → Json.skipSpace (gap ++ t) = t := by
    intro gap hblank
    induction gap with
    | nil => exact h.skipSpace
    | cons c gap ih =>
      rw [List.cons_append, Json.skipSpace, if_pos (Or.inl (hblank c List.mem_cons_self))]
      exact ih fun d hd => hblank d (List.mem_cons_of_mem c hd)
  exact hgap style.gap style.gap_blank

/-- What begins a value begins it also in front of more. -/
theorem Starts.append {t : PyStr} (h : Starts t) (rest : PyStr) : Starts (t ++ rest) := by
  obtain ⟨c, t, rfl, hc⟩ := h
  exact ⟨c, t ++ rest, rfl, hc⟩

/-- A value begins with no whitespace and no closing bracket. -/
theorem Writable.starts (h : Writable depth v) (style : JsonStyle) : Starts (write style v) := by
  cases h with
  | null => exact ⟨_, _, rfl, by decide⟩
  | bool b => cases b <;> exact ⟨_, _, rfl, by decide⟩
  | int hn =>
    rename_i n
    obtain ⟨c, rest, hdecimal, hge, hle⟩ := decimal_starts n.natAbs
    rw [write, writeInt]
    split
    · exact ⟨45, _, rfl, by decide⟩
    · exact ⟨c, rest, hdecimal, by omega⟩
  | str hs => exact ⟨34, _, rfl, by decide⟩
  | arr hitems => exact ⟨91, _, rfl, by decide⟩
  | obj hkeys hvalues => exact ⟨123, _, rfl, by decide⟩

/-- A written member of an object begins like a value: with its key's quote. -/
theorem writeMember_starts (style : JsonStyle) (member : PyStr × Json) :
    Starts (writeMember style member) := by
  obtain ⟨key, value⟩ := member
  exact ⟨34, _, rfl, by decide⟩

/-- A comma or a closing bracket ends a value. -/
theorem ends_cons {c : ℕ} (hc : c = 44 ∨ c = 93 ∨ c = 125) (rest : PyStr) : Ends (c :: rest) := by
  rintro d hd
  obtain rfl : c = d := Option.some.inj hd
  exact Or.inr hc

/-- The values of an array are read back. -/
theorem scanItems_writeItems {items : List Json} (hne : items ≠ [])
    (hreads : ∀ v ∈ items, Reads style depth v) (hstarts : ∀ v ∈ items, Starts (write style v)) :
    ∀ fuel, 2 * (writeItems style items ++ 93 :: rest).length + 2 ≤ fuel →
      scanItems fuel depth (writeItems style items ++ 93 :: rest) = .ok (items, rest) := by
  induction items with
  | nil => exact absurd rfl hne
  | cons v items ih =>
    intro fuel hfuel
    obtain ⟨fuel, rfl⟩ : ∃ n, fuel = n + 1 := ⟨fuel - 1, by omega⟩
    have hv := hreads v List.mem_cons_self fuel
    cases items with
    | nil =>
      simp only [writeItems, writeRest, List.append_nil] at hfuel ⊢
      rw [scanItems, hv (93 :: rest) (ends_cons (by simp) rest) (by omega)]
      rfl
    | cons w items =>
      have hw : Starts (write style w) := hstarts w (by simp)
      have hitems := ih (by simp) (fun u hu => hreads u (List.mem_cons_of_mem v hu))
        (fun u hu => hstarts u (List.mem_cons_of_mem v hu)) fuel
      simp only [writeItems, writeRest, List.append_assoc, List.cons_append] at hfuel hitems ⊢
      have hlength : ∀ t : PyStr, (write style v ++ 44 :: (style.gap ++ t)).length =
          (write style v).length + style.gap.length + t.length + 1 := by
        intro t
        simp only [List.length_append, List.length_cons]
        omega
      rw [scanItems, hv _ (ends_cons (by simp) _) (by omega)]
      have hcomma : ∀ t : PyStr, skipSpace (44 :: t) = 44 :: t := fun t => rfl
      dsimp only
      rw [hcomma, if_neg (by simp), if_pos List.head?_cons, List.tail_cons,
        (hw.append _).skipGap style, hitems (by rw [hlength] at hfuel; omega)]

/-- The key and the value of a member are read back, up to what follows the value. -/
theorem scanMembers_writeMember {key : PyStr} (hkey : IsUtf16 key) (hv : Reads style depth v)
    (hstarts : Starts (write style v)) (hrest : Ends rest) {fuel : ℕ}
    (hfuel : 2 * (writeMember style (key, v) ++ rest).length + 1 ≤ fuel) :
    scanMembers (fuel + 1) depth (writeMember style (key, v) ++ rest) =
      if (skipSpace rest).head? = some 125 then .ok ([(key, v)], (skipSpace rest).tail)
      else if (skipSpace rest).head? = some 44 then
        match scanMembers fuel depth (skipSpace (skipSpace rest).tail) with
        | .ok (members, rest) => .ok ((key, v) :: members, rest)
        | .error e => .error e
      else .error .jsonDecodeError := by
  have htext : writeMember style (key, v) ++ rest =
      34 :: (writeChars style key ++ 34 :: 58 :: (style.gap ++ (write style v ++ rest))) := by
    simp [writeMember, writeString]
  rw [htext] at hfuel ⊢
  have hcolon : ∀ t : PyStr, skipSpace (58 :: t) = 58 :: t := fun t => rfl
  have hvalue := hv fuel rest hrest (by
    simp only [List.length_append, List.length_cons] at hfuel ⊢
    omega)
  rw [scanMembers, if_neg (by simp), List.tail_cons, scanString_writeChars style hkey]
  dsimp only
  rw [hcolon, if_neg (by simp), List.tail_cons, (hstarts.append rest).skipGap style]
  generalize scanOnce fuel depth (write style v ++ rest) = read at hvalue ⊢
  subst hvalue
  by_cases hclose : (skipSpace rest).head? = some 125
  · rw [if_pos hclose]
    exact if_pos hclose
  rw [if_neg hclose]
  refine (if_neg hclose).trans ?_
  by_cases hcomma : (skipSpace rest).head? = some 44
  · refine (if_pos hcomma).trans (.trans ?_ (if_pos hcomma).symm)
    cases scanMembers fuel depth (skipSpace (skipSpace rest).tail) <;> rfl
  · exact (if_neg hcomma).trans (if_neg hcomma).symm

/-- The members of an object are read back. -/
theorem scanMembers_writeMembers {members : List (PyStr × Json)} (hne : members ≠ [])
    (hkeys : ∀ m ∈ members, IsUtf16 m.1) (hreads : ∀ m ∈ members, Reads style depth m.2)
    (hstarts : ∀ m ∈ members, Starts (write style m.2)) :
    ∀ fuel, 2 * (writeMembers style members ++ 125 :: rest).length + 2 ≤ fuel →
      scanMembers fuel depth (writeMembers style members ++ 125 :: rest) = .ok (members, rest) := by
  induction members with
  | nil => exact absurd rfl hne
  | cons m members ih =>
    intro fuel hfuel
    obtain ⟨key, value⟩ := m
    obtain ⟨fuel, rfl⟩ : ∃ n, fuel = n + 1 := ⟨fuel - 1, by omega⟩
    have hmem : (key, value) ∈ (key, value) :: members := List.mem_cons_self
    have hm {rest : PyStr} (hrest : Ends rest)
        (hfuel : 2 * (writeMember style (key, value) ++ rest).length + 1 ≤ fuel) :=
      scanMembers_writeMember (hkeys _ hmem) (hreads _ hmem) (hstarts _ hmem) hrest hfuel
    cases members with
    | nil =>
      simp only [writeMembers, writeMore, List.append_nil] at hfuel ⊢
      rw [hm (ends_cons (by simp) rest) (by omega)]
      rfl
    | cons n members =>
      have hmembers := ih (by simp) (fun u hu => hkeys u (List.mem_cons_of_mem _ hu))
        (fun u hu => hreads u (List.mem_cons_of_mem _ hu))
        (fun u hu => hstarts u (List.mem_cons_of_mem _ hu)) fuel
      simp only [writeMembers, writeMore, List.append_assoc, List.cons_append] at hfuel hmembers ⊢
      have hlength : ∀ t : PyStr,
          (writeMember style (key, value) ++ 44 :: (style.gap ++ t)).length =
          (writeMember style (key, value)).length + style.gap.length + t.length + 1 := by
        intro t
        simp only [List.length_append, List.length_cons]
        omega
      have hcomma : ∀ t : PyStr, skipSpace (44 :: t) = 44 :: t := fun t => rfl
      rw [hm (ends_cons (by simp) _) (by omega), hcomma, if_neg (by simp),
        if_pos List.head?_cons, List.tail_cons,
        ((writeMember_starts style n).append _).skipGap style,
        hmembers (by rw [hlength] at hfuel; omega)]

/-- A number begins with a digit or with its sign, so that the reader takes it for no string and no
container. -/
theorem reads_int {n : ℤ} (hn : (decimal n.natAbs).length ≤ intMaxStrDigits) :
    Reads style depth (.int n) := by
  intro fuel rest hrest hfuel
  obtain ⟨fuel, rfl⟩ : ∃ n, fuel = n + 1 := ⟨fuel - 1, by omega⟩
  have hstarts : ∃ c t, writeInt n = c :: t ∧ c ≠ 34 ∧ c ≠ 123 ∧ c ≠ 91 := by
    obtain ⟨c, t, hdecimal, hge, hle⟩ := decimal_starts n.natAbs
    unfold writeInt
    split
    · exact ⟨45, _, rfl, by decide⟩
    · exact ⟨c, t, hdecimal, by omega⟩
  obtain ⟨c, t, hint, hc⟩ := hstarts
  have hhead : (writeInt n ++ rest).head? = some c := by rw [hint]; rfl
  rw [write, scanOnce, hhead, if_neg (by simp [hc.1]), if_neg (by simp [hc.2.1]),
    if_neg (by simp [hc.2.2]), scanScalar_writeInt hn hrest]

/-- A string is read up to its closing quote. -/
theorem reads_str {s : PyStr} (hs : IsUtf16 s) : Reads style depth (.str s) := by
  intro fuel rest _ hfuel
  obtain ⟨fuel, rfl⟩ : ∃ n, fuel = n + 1 := ⟨fuel - 1, by omega⟩
  have htext : write style (.str s) ++ rest = 34 :: (writeChars style s ++ 34 :: rest) := by
    simp [write, writeString]
  rw [htext, scanOnce, if_pos List.head?_cons, List.tail_cons, scanString_writeChars style hs]

/-- An array is read back if its items are, one level deeper. -/
theorem reads_arr {items : List Json} (hreads : ∀ v ∈ items, Reads style depth v)
    (hstarts : ∀ v ∈ items, Starts (write style v)) : Reads style (depth + 1) (.arr items) := by
  intro fuel rest _ hfuel
  obtain ⟨fuel, rfl⟩ : ∃ n, fuel = n + 1 := ⟨fuel - 1, by omega⟩
  have htext : write style (.arr items) ++ rest = 91 :: (writeItems style items ++ 93 :: rest) := by
    simp [write]
  rw [htext] at hfuel ⊢
  rw [scanOnce, List.head?_cons, List.tail_cons, if_neg (by simp), if_neg (by simp), if_pos rfl,
    if_neg (by simp)]
  cases items with
  | nil => rfl
  | cons v items =>
    have hfirst : Starts (writeItems style (v :: items) ++ 93 :: rest) := by
      rw [writeItems, List.append_assoc]
      exact (hstarts v List.mem_cons_self).append _
    have hhead : (writeItems style (v :: items) ++ 93 :: rest).head? ≠ some 93 := by
      obtain ⟨c, t, ht, -, -, hc⟩ := hfirst
      rw [ht]
      simpa using hc
    rw [hfirst.skipSpace, if_neg hhead, Nat.add_sub_cancel,
      scanItems_writeItems (by simp) hreads hstarts fuel
        (by rw [List.length_cons] at hfuel; omega)]

/-- An object is read back if its values are, one level deeper. -/
theorem reads_obj {members : List (PyStr × Json)} (hkeys : ∀ m ∈ members, IsUtf16 m.1)
    (hreads : ∀ m ∈ members, Reads style depth m.2)
    (hstarts : ∀ m ∈ members, Starts (write style m.2)) :
    Reads style (depth + 1) (.obj members) := by
  intro fuel rest _ hfuel
  obtain ⟨fuel, rfl⟩ : ∃ n, fuel = n + 1 := ⟨fuel - 1, by omega⟩
  have htext : write style (.obj members) ++ rest =
      123 :: (writeMembers style members ++ 125 :: rest) := by
    simp [write]
  rw [htext] at hfuel ⊢
  rw [scanOnce, List.head?_cons, List.tail_cons, if_neg (by simp), if_pos rfl, if_neg (by simp)]
  cases members with
  | nil => rfl
  | cons m members =>
    have hfirst : Starts (writeMembers style (m :: members) ++ 125 :: rest) := by
      rw [writeMembers, List.append_assoc]
      exact (writeMember_starts style m).append _
    have hhead : (writeMembers style (m :: members) ++ 125 :: rest).head? ≠ some 125 := by
      obtain ⟨c, t, ht, -, hc, -⟩ := hfirst
      rw [ht]
      simpa using Nat.ne_of_lt hc
    rw [hfirst.skipSpace, if_neg hhead, Nat.add_sub_cancel,
      scanMembers_writeMembers (by simp) hkeys hreads hstarts fuel
        (by rw [List.length_cons] at hfuel; omega)]

/-- A value is read back where it ends. -/
theorem Writable.reads (h : Writable d v) (style : JsonStyle) :
    ∀ depth, d ≤ depth → Reads style depth v := by
  induction h with
  | null =>
    intro depth _ fuel rest _ hfuel
    obtain ⟨fuel, rfl⟩ : ∃ n, fuel = n + 1 := ⟨fuel - 1, by omega⟩
    rfl
  | bool b =>
    intro depth _ fuel rest _ hfuel
    obtain ⟨fuel, rfl⟩ : ∃ n, fuel = n + 1 := ⟨fuel - 1, by omega⟩
    cases b <;> rfl
  | int hn => exact fun _ _ => reads_int hn
  | str hs => exact fun _ _ => reads_str hs
  | arr hitems ih =>
    intro depth hdepth
    obtain ⟨depth, rfl⟩ : ∃ n, depth = n + 1 := ⟨depth - 1, by omega⟩
    exact reads_arr (fun u hu => ih u hu depth (by omega)) fun u hu => (hitems u hu).starts style
  | obj hkeys hvalues ih =>
    intro depth hdepth
    obtain ⟨depth, rfl⟩ : ∃ n, depth = n + 1 := ⟨depth - 1, by omega⟩
    exact reads_obj hkeys (fun u hu => ih u hu depth (by omega))
      fun u hu => (hvalues u hu).starts style

/-- What is written is read back as it was, also with whitespace behind it. -/
theorem loads_write_append (style : JsonStyle) (h : Writable d v) (hd : d ≤ depth) {t : PyStr}
    (ht : Ends t) (hblank : skipSpace t = []) : loads depth (write style v ++ t) = .ok v := by
  have hread := h.reads style depth hd (2 * (write style v ++ t).length + 2) t ht (by omega)
  obtain ⟨c, rest, htext, hlower, hupper, hbracket⟩ := h.starts style
  have hstarts : Starts (write style v ++ t) :=
    ⟨c, rest ++ t, by rw [htext, List.cons_append], hlower, hupper, hbracket⟩
  have hmark : (write style v ++ t).head? ≠ some 0xFEFF := by
    rw [htext]
    simp only [List.cons_append, List.head?_cons, ne_eq, Option.some.injEq]
    omega
  rw [loads, if_neg hmark, hstarts.skipSpace, hread]
  simp only [hblank, if_true]

/-- What is written is read back as it was. -/
theorem loads_write (style : JsonStyle) (h : Writable d v) (hd : d ≤ depth) :
    loads depth (write style v) = .ok v := by
  have hread := loads_write_append style h hd (t := []) (fun c hc => by cases hc) rfl
  rwa [List.append_nil] at hread

end Values

end Json

end WTerm
