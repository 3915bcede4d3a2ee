import Mathlib.Data.List.Infix
import WTerm.Web.JsonWrite

/-!
# Members that are found in a JSON text

A member of an object can be looked for in a text without reading the text as JSON: its key and its
value, as they are written, stand next to each other. In a text without blanks this finds the
members with that value whose key is the given one, and those whose key ends with it after a quote,
and nothing else.
-/

namespace WTerm

open PyStr

namespace Json

/-- The text of a member with a string as its value. -/
def memberText (style : JsonStyle) (key value : PyStr) : PyStr :=
  writeString style key ++ 58 :: writeString style value

/-- A value within a value. -/
inductive Part (w : Json) : Json → Prop
  | self : Part w w
  | item {items : List Json} {v : Json} (hmem : v ∈ items) (h : Part w v) : Part w (.arr items)
  | value {members : List (PyStr × Json)} {m : PyStr × Json} (hmem : m ∈ members)
      (h : Part w m.2) : Part w (.obj members)

/-- A key that is the given one or ends with it after a quote. -/
def KeyEnds (key k : PyStr) : Prop := k = key ∨ ∃ p, k = p ++ 34 :: key

/-- Some object within a value has a member with such a key and the given value. -/
def HasMember (key value : PyStr) (v : Json) : Prop :=
  ∃ members k, Part (.obj members) v ∧ (k, .str value) ∈ members ∧ KeyEnds key k

/-- The values whose strings are what UTF-16 can hold. -/
inductive Written : Json → Prop
  | null : Written .null
  | bool (b : Bool) : Written (.bool b)
  | int (n : ℤ) : Written (.int n)
  | float {literal : PyStr} (h : ∀ c ∈ literal, c ≠ 34) : Written (.float literal)
  | str {s : PyStr} (hs : IsUtf16 s) : Written (.str s)
  | arr {items : List Json} (hitems : ∀ v ∈ items, Written v) : Written (.arr items)
  | obj {members : List (PyStr × Json)} (hkeys : ∀ m ∈ members, IsUtf16 m.1)
      (hvalues : ∀ m ∈ members, Written m.2) : Written (.obj members)

section Strings

variable {style : JsonStyle} {s t pre post rest key value : PyStr}

/-- A quote is looked for behind a text without one. -/
theorem behind_of_no_quote {a : PyStr} (ha : ∀ c ∈ a, c ≠ 34) (h : a ++ t = pre ++ 34 :: rest) :
    ∃ pre', pre = a ++ pre' ∧ t = pre' ++ 34 :: rest := by
  rcases List.append_eq_append_iff.mp h with ⟨pre', hpre, ht⟩ | ⟨inner, hinner, hrest⟩
  · exact ⟨pre', hpre, ht⟩
  · cases inner with
    | nil => exact ⟨[], by simpa using hinner.symm, hrest.symm⟩
    | cons c inner =>
      obtain rfl : 34 = c := (List.cons.inj hrest).1
      exact absurd rfl (ha 34 (by simp [hinner]))

/-- A hexadecimal digit is no quote. -/
theorem hexChar_ne_quote (n : ℕ) : hexChar n ≠ 34 := by
  unfold hexChar
  split <;> omega

/-- A `\u` escape has no quote in it. -/
theorem uEscape_no_quote (c : ℕ) : ∀ d ∈ uEscape c, d ≠ 34 := by
  intro d hd
  simp only [uEscape, hex4, List.mem_cons, List.not_mem_nil, or_false] at hd
  rcases hd with rfl | rfl | rfl | rfl | rfl | rfl
  · decide
  · decide
  all_goals exact hexChar_ne_quote _

/-- Only a quote and a backslash are escaped by themselves. -/
theorem eq_quote_of_escapeLetter {c : ℕ} (h : escapeLetter c = some 34) : c = 34 := by
  unfold escapeLetter at h
  split_ifs at h
  · exact Option.some.inj h
  all_goals cases h

/-- Within the text of a code point a quote stands only for itself. -/
theorem writeChar_quote {c : ℕ} (h : writeChar style c = pre ++ 34 :: rest) :
    c = 34 ∧ rest = [] := by
  have hquote : 34 ∈ writeChar style c := by simp [h]
  cases hletter : escapeLetter c with
  | some letter =>
    have htext : writeChar style c = [92, letter] := by simp [writeChar, hletter]
    rw [htext] at h hquote
    obtain rfl : 34 = letter := by simpa using hquote
    refine ⟨eq_quote_of_escapeLetter hletter, ?_⟩
    cases pre with
    | nil => cases h
    | cons d pre =>
      have htail := (List.cons.inj h).2
      cases pre with
      | nil => exact (List.cons.inj htail).2.symm
      | cons e pre =>
        have hlast := (List.cons.inj htail).2
        simp at hlast
  | none =>
    have hne : c ≠ 34 := by
      rintro rfl
      cases hletter
    simp only [writeChar, hletter] at hquote
    split_ifs at hquote
    · exact absurd rfl (uEscape_no_quote c 34 hquote)
    · rcases List.mem_append.mp hquote with hmem | hmem
      · exact absurd rfl (uEscape_no_quote _ 34 hmem)
      · exact absurd rfl (uEscape_no_quote _ 34 hmem)
    · exact absurd (List.mem_singleton.mp hquote).symm hne

/-- Within the text of a string a quote stands only for itself. -/
theorem writeChars_quote (h : writeChars style s = pre ++ 34 :: rest) :
    ∃ p u, s = p ++ 34 :: u ∧ rest = writeChars style u := by
  induction s generalizing pre with
  | nil => simp [writeChars] at h
  | cons c s ih =>
    have hsplit : writeChar style c ++ writeChars style s = pre ++ 34 :: rest := by
      rw [← h]
      rfl
    rcases List.append_eq_append_iff.mp hsplit with ⟨pre', -, htail⟩ | ⟨inner, hinner, hrest⟩
    · obtain ⟨p, u, rfl, hu⟩ := ih htail
      exact ⟨c :: p, u, rfl, hu⟩
    · cases inner with
      | nil =>
        have hempty : writeChars style s = [] ++ 34 :: rest := hrest.symm
        obtain ⟨p, u, rfl, hu⟩ := ih hempty
        exact ⟨c :: p, u, rfl, hu⟩
      | cons d inner =>
        obtain ⟨rfl, htail⟩ := List.cons.inj hrest
        obtain ⟨rfl, rfl⟩ := writeChar_quote hinner
        exact ⟨[], s, rfl, htail⟩

/-- A string is told from its text, which ends with a quote. -/
theorem writeChars_inj {u : PyStr} (hs : IsUtf16 s) (hu : IsUtf16 u)
    (h : writeChars style s ++ 34 :: t = writeChars style u ++ 34 :: rest) : s = u ∧ t = rest := by
  have hleft := scanString_writeChars style hs t
  rw [h, scanString_writeChars style hu rest] at hleft
  obtain ⟨hsame, hrest⟩ := Prod.mk.inj (Except.ok.inj hleft)
  exact ⟨hsame.symm, hrest.symm⟩

/-- The end of a UTF-16 string is one. -/
theorem IsUtf16.suffix {p : PyStr} (h : IsUtf16 (p ++ s)) : IsUtf16 s :=
  ⟨fun c hc => h.bound c (List.mem_append_right p hc), h.joined.right_of_append⟩

/-- What is looked for: a key that is written as it is and does not begin like what follows a
string. -/
structure Plain (style : JsonStyle) (key : PyStr) : Prop where
  written : writeChars style key = key
  utf16 : IsUtf16 key
  head : ∃ c rest, key = c :: rest ∧ c ≠ 10 ∧ c ≠ 44 ∧ c ≠ 58 ∧ c ≠ 93 ∧ c ≠ 125

/-- The text of a member begins with a quote, and is found behind a text without one. -/
theorem memberText_behind {a : PyStr} (ha : ∀ c ∈ a, c ≠ 34)
    (h : a ++ t = pre ++ (memberText style key value ++ post)) :
    ∃ pre', pre = a ++ pre' ∧ t = pre' ++ (memberText style key value ++ post) :=
  behind_of_no_quote ha h

/-- The text of a member is found behind a string, or the string ends with the key. -/
theorem find_writeString (hkey : Plain style key) (hs : IsUtf16 s)
    (hhead : t.head? ≠ key.head?)
    (h : writeString style s ++ t = pre ++ (memberText style key value ++ post)) :
    (∃ pre', pre = writeString style s ++ pre' ∧ t = pre' ++ (memberText style key value ++ post)) ∨
      KeyEnds key s ∧ t = 58 :: (writeString style value ++ post) := by
  have hneedle : memberText style key value ++ post =
      34 :: (writeChars style key ++ 34 :: (58 :: (writeString style value ++ post))) := by
    simp [memberText, writeString]
  have hnot : t ≠ writeChars style key ++ 34 :: (58 :: (writeString style value ++ post)) := by
    intro ht
    obtain ⟨c, rest, hcons, -⟩ := hkey.head
    rw [hkey.written, hcons] at ht
    rw [ht, hcons] at hhead
    exact hhead rfl
  rw [hneedle] at h ⊢
  have htext : writeString style s ++ t = 34 :: (writeChars style s ++ 34 :: t) := by
    simp [writeString]
  rw [htext] at h
  cases pre with
  | nil =>
    obtain ⟨hsame, ht⟩ := writeChars_inj hs hkey.utf16 (List.cons.inj h).2
    exact .inr ⟨.inl hsame, ht⟩
  | cons d pre =>
    obtain ⟨rfl, htail⟩ := List.cons.inj h
    rcases List.append_eq_append_iff.mp htail with ⟨inner, hpre, hquote⟩ | ⟨inner, hinner, hquote⟩
    · cases inner with
      | nil => exact absurd (List.cons.inj hquote).2 hnot
      | cons d inner =>
        obtain ⟨rfl, ht⟩ := List.cons.inj hquote
        refine .inl ⟨inner, ?_, ht⟩
        simp [hpre, writeString]
    · cases inner with
      | nil => exact absurd (List.cons.inj hquote).2.symm hnot
      | cons d inner =>
        obtain ⟨rfl, hfound⟩ := List.cons.inj hquote
        -- The quote is an escaped one: the string goes on with the key and ends there.
        obtain ⟨p, u, rfl, rfl⟩ := writeChars_quote hinner
        have hu : IsUtf16 (34 :: u) := hs.suffix
        have hu' : IsUtf16 u := IsUtf16.suffix (p := [34]) hu
        obtain ⟨rfl, ht⟩ := writeChars_inj hkey.utf16 hu' hfound
        exact .inr ⟨.inr ⟨p, rfl⟩, ht.symm⟩

end Strings

/-! ## Values -/

section Values

variable {style : JsonStyle} {key value t : PyStr} {v w : Json}

/-- A text in which a member can be looked for: it is found behind the text, or it is there. -/
def Finds (style : JsonStyle) (key value text : PyStr) (found : Prop) : Prop :=
  ∀ t pre post, Ends t → text ++ t = pre ++ (memberText style key value ++ post) →
    (∃ pre', pre = text ++ pre' ∧ t = pre' ++ (memberText style key value ++ post)) ∨ found

/-- A text without quotes has no member in it. -/
theorem finds_of_no_quote {text : PyStr} (htext : ∀ c ∈ text, c ≠ 34) (found : Prop) :
    Finds style key value text found := fun _ _ _ _ h => .inl (memberText_behind htext h)

/-- The digits of an integer are no quotes. -/
theorem writeInt_no_quote (n : ℤ) : ∀ c ∈ writeInt n, c ≠ 34 := by
  have hdigits : ∀ c ∈ decimal n.natAbs, c ≠ 34 := by
    intro c hc
    have hdigit := decimal_digit hc
    simp only [isAsciiDigit, Bool.and_eq_true, decide_eq_true_eq] at hdigit
    omega
  intro c hc
  unfold writeInt at hc
  split at hc
  · rcases List.mem_cons.mp hc with rfl | hc
    · decide
    · exact hdigits c hc
  · exact hdigits c hc

/-- A value whose text begins with a quote is a string. -/
theorem eq_str_of_quote (hv : Written v) (hquote : (write style v ++ t).head? = some 34)
    (ht : Ends t) : ∃ s, v = .str s ∧ IsUtf16 s := by
  cases hv with
  | str hs => exact ⟨_, rfl, hs⟩
  | null | arr _ | obj _ _ => cases hquote
  | bool b => cases b <;> cases hquote
  | int n =>
    have hne : writeInt n ≠ [] := by
      unfold writeInt
      split
      · simp
      · exact decimal_ne_nil _
    obtain ⟨c, rest, hcons⟩ := List.exists_cons_of_ne_nil hne
    have htext : (writeInt n ++ t).head? = some 34 := hquote
    rw [hcons] at htext
    obtain rfl : c = 34 := Option.some.inj htext
    exact absurd rfl (writeInt_no_quote n 34 (by simp [hcons]))
  | float hliteral =>
    rename_i literal
    have htext : (literal ++ t).head? = some 34 := hquote
    cases literal with
    | nil =>
      have hend := ht 34 htext
      omega
    | cons c rest =>
      obtain rfl : c = 34 := Option.some.inj htext
      exact absurd rfl (hliteral 34 List.mem_cons_self)

/-- What ends a value does not begin like the key. -/
theorem Plain.ends_head (hkey : Plain style key) (ht : Ends t) : t.head? ≠ key.head? := by
  obtain ⟨c, rest, rfl, hfeed, hcomma, -, hbracket, hbrace⟩ := hkey.head
  intro hhead
  have hend := ht c hhead
  omega

/-- A member is found in the text of a member if it is that member, or in its value. -/
theorem finds_writeMember (hgap : style.gap = []) (hkey : Plain style key)
    (hvalue : IsUtf16 value) {m : PyStr × Json} (hm : IsUtf16 m.1) (hv : Written m.2)
    (hfinds : Finds style key value (write style m.2) (HasMember key value m.2)) :
    Finds style key value (writeMember style m)
      (KeyEnds key m.1 ∧ m.2 = .str value ∨ HasMember key value m.2) := by
  obtain ⟨k, v⟩ := m
  intro t pre post ht h
  have htext : writeMember style (k, v) ++ t =
      writeString style k ++ (58 :: (write style v ++ t)) := by
    simp [writeMember, hgap]
  have hhead : (58 :: (write style v ++ t)).head? ≠ key.head? := by
    obtain ⟨c, rest, rfl, -, -, hcolon, -⟩ := hkey.head
    simpa using hcolon.symm
  rw [htext] at h
  rcases find_writeString hkey hm hhead h with ⟨pre', rfl, hrest⟩ | ⟨hends, hrest⟩
  · have hcolon : [58] ++ (write style v ++ t) = pre' ++ (memberText style key value ++ post) :=
      hrest
    obtain ⟨pre'', rfl, hrest'⟩ := memberText_behind (by simp) hcolon
    rcases hfinds t pre'' post ht hrest' with ⟨pre₃, rfl, hbehind⟩ | hfound
    · refine .inl ⟨pre₃, ?_, hbehind⟩
      simp [writeMember, hgap]
    · exact .inr (.inr hfound)
  · have hsame : write style v ++ t = writeString style value ++ post := (List.cons.inj hrest).2
    have hquote : (write style v ++ t).head? = some 34 := by
      rw [hsame]
      rfl
    obtain ⟨s, rfl, hs⟩ := eq_str_of_quote hv hquote ht
    have hstring : writeChars style s ++ 34 :: t = writeChars style value ++ 34 :: post := by
      simpa [write, writeString] using hsame
    obtain ⟨rfl, -⟩ := writeChars_inj hs hvalue hstring
    exact .inr (.inl ⟨hends, rfl⟩)

/-- What stands behind an item of an array ends the item. -/
theorem ends_writeRest (items : List Json) (ht : Ends t) : Ends (writeRest style items ++ t) := by
  cases items with
  | nil => exact ht
  | cons item rest => exact ends_cons (.inl rfl) _

/-- What stands behind a member of an object ends the member. -/
theorem ends_writeMore (members : List (PyStr × Json)) (ht : Ends t) :
    Ends (writeMore style members ++ t) := by
  cases members with
  | nil => exact ht
  | cons member rest => exact ends_cons (.inl rfl) _

/-- A member that is found in two texts, one behind the other, is found in one of them, if the
second ends a value. -/
theorem Finds.append {a b : PyStr} {found found' : Prop} (ha : Finds style key value a found)
    (hb : Finds style key value b found') (hends : ∀ t, Ends t → Ends (b ++ t)) :
    Finds style key value (a ++ b) (found ∨ found') := by
  intro t pre post ht h
  rw [List.append_assoc] at h
  rcases ha (b ++ t) pre post (hends t ht) h with ⟨pre', rfl, hrest⟩ | hfound
  · rcases hb t pre' post ht hrest with ⟨pre'', rfl, hrest'⟩ | hfound
    · exact .inl ⟨pre'', by simp, hrest'⟩
    · exact .inr (.inr hfound)
  · exact .inr (.inl hfound)

/-- Behind a text without quotes a member is found if and only if it was found before. -/
theorem Finds.behind {a b : PyStr} {found : Prop} (ha : ∀ c ∈ a, c ≠ 34)
    (hb : Finds style key value b found) : Finds style key value (a ++ b) found := by
  intro t pre post ht h
  rw [List.append_assoc] at h
  obtain ⟨pre', rfl, hrest⟩ := memberText_behind ha h
  rcases hb t pre' post ht hrest with ⟨pre'', rfl, hrest'⟩ | hfound
  · exact .inl ⟨pre'', by simp, hrest'⟩
  · exact .inr hfound

/-- What is said about a member that is found may be weakened. -/
theorem Finds.imp {a : PyStr} {found found' : Prop} (h : Finds style key value a found)
    (himp : found → found') : Finds style key value a found' := fun t pre post ht htext =>
  (h t pre post ht htext).imp_right himp

/-- The values of an array behind one. -/
theorem finds_writeRest (hgap : style.gap = []) {items : List Json} {found : Json → Prop}
    (hitems : ∀ v ∈ items, Finds style key value (write style v) (found v)) :
    Finds style key value (writeRest style items) (∃ v ∈ items, found v) := by
  induction items with
  | nil => exact finds_of_no_quote (by simp [writeRest]) _
  | cons item rest ih =>
    have hrest := ih fun v hv => hitems v (List.mem_cons_of_mem item hv)
    have hboth := (hitems item List.mem_cons_self).append hrest fun t => ends_writeRest rest
    have htext :
        writeRest style (item :: rest) = [44] ++ (write style item ++ writeRest style rest) := by
      simp [writeRest, hgap]
    rw [htext]
    refine (hboth.behind (by simp)).imp fun hfound => ?_
    simpa using hfound

/-- A member is found in the text of an array if and only if it is found in one of the values. -/
theorem finds_writeItems (hgap : style.gap = []) {items : List Json} {found : Json → Prop}
    (hitems : ∀ v ∈ items, Finds style key value (write style v) (found v)) :
    Finds style key value (writeItems style items) (∃ v ∈ items, found v) := by
  cases items with
  | nil => exact finds_of_no_quote (by simp [writeItems]) _
  | cons item rest =>
    have hrest := finds_writeRest hgap fun v hv => hitems v (List.mem_cons_of_mem item hv)
    have hboth := (hitems item List.mem_cons_self).append hrest fun t => ends_writeRest rest
    refine hboth.imp fun hfound => ?_
    simpa using hfound

/-- The members of an object behind one. -/
theorem finds_writeMore (hgap : style.gap = []) {members : List (PyStr × Json)}
    {found : PyStr × Json → Prop}
    (hmembers : ∀ m ∈ members, Finds style key value (writeMember style m) (found m)) :
    Finds style key value (writeMore style members) (∃ m ∈ members, found m) := by
  induction members with
  | nil => exact finds_of_no_quote (by simp [writeMore]) _
  | cons member rest ih =>
    have hrest := ih fun m hm => hmembers m (List.mem_cons_of_mem member hm)
    have hboth := (hmembers member List.mem_cons_self).append hrest fun t => ends_writeMore rest
    have htext : writeMore style (member :: rest) =
        [44] ++ (writeMember style member ++ writeMore style rest) := by
      simp [writeMore, hgap]
    rw [htext]
    refine (hboth.behind (by simp)).imp fun hfound => ?_
    simpa only [List.exists_mem_cons_iff] using hfound

/-- A member is found in the text of an object if and only if it is found in one of the object's
members. -/
theorem finds_writeMembers (hgap : style.gap = []) {members : List (PyStr × Json)}
    {found : PyStr × Json → Prop}
    (hmembers : ∀ m ∈ members, Finds style key value (writeMember style m) (found m)) :
    Finds style key value (writeMembers style members) (∃ m ∈ members, found m) := by
  cases members with
  | nil => exact finds_of_no_quote (by simp [writeMembers]) _
  | cons member rest =>
    have hrest := finds_writeMore hgap fun m hm => hmembers m (List.mem_cons_of_mem member hm)
    have hboth := (hmembers member List.mem_cons_self).append hrest fun t => ends_writeMore rest
    refine hboth.imp fun hfound => ?_
    simpa only [List.exists_mem_cons_iff] using hfound

/-- A bracket ends what stands in front of it. -/
theorem ends_bracket {c : ℕ} (hc : c = 93 ∨ c = 125) (t : PyStr) : Ends ([c] ++ t) :=
  ends_cons (by omega) t

/-- What is found in the text of a value is a member of it. -/
theorem Written.finds (hv : Written v) (hgap : style.gap = []) (hkey : Plain style key)
    (hvalue : IsUtf16 value) : Finds style key value (write style v) (HasMember key value v) := by
  induction hv with
  | null => exact finds_of_no_quote (by simp [write, py]) _
  | bool b => cases b <;> exact finds_of_no_quote (by simp [write, py]) _
  | int n => exact finds_of_no_quote (writeInt_no_quote n) _
  | float hliteral => exact finds_of_no_quote hliteral _
  | str hs =>
    intro t pre post ht h
    refine (find_writeString hkey hs (hkey.ends_head ht) h).imp_right fun hfound => ?_
    have hend := ht 58 (by simp [hfound.2])
    omega
  | arr hitems ih =>
    rename_i items
    have hinside := finds_writeItems hgap ih
    have hclosed := hinside.append (finds_of_no_quote (by simp) False) fun t _ =>
      ends_bracket (.inl rfl) t
    have htext : write style (.arr items) = [91] ++ (writeItems style items ++ [93]) := by
      simp [write]
    rw [htext]
    refine (hclosed.behind (by simp)).imp ?_
    rintro (⟨v, hmem, members, k, hpart, hfound⟩ | hnone)
    · exact ⟨members, k, .item hmem hpart, hfound⟩
    · exact hnone.elim
  | obj hkeys hvalues ih =>
    rename_i members
    have hinside := finds_writeMembers hgap fun m hm =>
      finds_writeMember hgap hkey hvalue (hkeys m hm) (hvalues m hm) (ih m hm)
    have hclosed := hinside.append (finds_of_no_quote (by simp) False) fun t _ =>
      ends_bracket (.inr rfl) t
    have htext : write style (.obj members) = [123] ++ (writeMembers style members ++ [125]) := by
      simp [write]
    rw [htext]
    refine (hclosed.behind (by simp)).imp ?_
    rintro (⟨⟨k, u⟩, hmem, ⟨hends, rfl⟩ | ⟨inner, k', hpart, hfound⟩⟩ | hnone)
    · exact ⟨members, k, .self, hmem, hends⟩
    · exact ⟨inner, k', .value hmem hpart, hfound⟩
    · exact hnone.elim

/-! ## Members that are there -/

/-- A value of an array stands in its text, behind another value. -/
theorem writeRest_isInfix {items : List Json} (hmem : v ∈ items) :
    write style v <:+: writeRest style items := by
  induction items with
  | nil => cases hmem
  | cons item rest ih =>
    rcases List.mem_cons.mp hmem with rfl | hrest
    · exact ⟨44 :: style.gap, writeRest style rest, by simp [writeRest]⟩
    · obtain ⟨pre, post, htext⟩ := ih hrest
      refine ⟨44 :: (style.gap ++ write style item ++ pre), post, ?_⟩
      rw [writeRest, ← htext]
      simp

/-- A value of an array stands in its text. -/
theorem writeItems_isInfix {items : List Json} (hmem : v ∈ items) :
    write style v <:+: writeItems style items := by
  cases items with
  | nil => cases hmem
  | cons item rest =>
    rcases List.mem_cons.mp hmem with rfl | hrest
    · exact (List.prefix_append _ _).isInfix
    · exact (writeRest_isInfix hrest).trans (List.suffix_append _ _).isInfix

/-- A member of an object stands in its text, behind another member. -/
theorem writeMore_isInfix {members : List (PyStr × Json)} {m : PyStr × Json} (hmem : m ∈ members) :
    writeMember style m <:+: writeMore style members := by
  induction members with
  | nil => cases hmem
  | cons member rest ih =>
    rcases List.mem_cons.mp hmem with rfl | hrest
    · exact ⟨44 :: style.gap, writeMore style rest, by simp [writeMore]⟩
    · obtain ⟨pre, post, htext⟩ := ih hrest
      refine ⟨44 :: (style.gap ++ writeMember style member ++ pre), post, ?_⟩
      rw [writeMore, ← htext]
      simp

/-- A member of an object stands in its text. -/
theorem writeMembers_isInfix {members : List (PyStr × Json)} {m : PyStr × Json}
    (hmem : m ∈ members) :
    writeMember style m <:+: write style (.obj members) := by
  have hinside : writeMember style m <:+: writeMembers style members := by
    cases members with
    | nil => cases hmem
    | cons member rest =>
      rcases List.mem_cons.mp hmem with rfl | hrest
      · exact (List.prefix_append _ _).isInfix
      · exact (writeMore_isInfix hrest).trans (List.suffix_append _ _).isInfix
  exact hinside.trans ⟨[123], [125], by simp [write]⟩

/-- A part of a value stands in its text. -/
theorem Part.isInfix (h : Part w v) : write style w <:+: write style v := by
  induction h with
  | self => exact List.infix_refl _
  | item hmem _ ih =>
    exact ih.trans ((writeItems_isInfix hmem).trans ⟨[91], [93], by simp [write]⟩)
  | value hmem _ ih =>
    rename_i members m _
    obtain ⟨k, u⟩ := m
    have hvalue : write style u <:+: writeMember style (k, u) :=
      ⟨writeString style k ++ 58 :: style.gap, [], by simp [writeMember]⟩
    exact ih.trans (hvalue.trans (writeMembers_isInfix hmem))

/-- The text of a member stands in that of a member whose key ends with its key. -/
theorem KeyEnds.isInfix (hgap : style.gap = []) {k : PyStr} (h : KeyEnds key k) :
    memberText style key value <:+: writeMember style (k, .str value) := by
  rcases h with rfl | ⟨p, rfl⟩
  · exact ⟨[], [], by simp [writeMember, memberText, write, hgap]⟩
  · have hquote : writeChar style 34 = [92, 34] := rfl
    refine ⟨34 :: (writeChars style p ++ [92]), [], ?_⟩
    simp [writeMember, memberText, writeString, writeChars, write, hgap, hquote]

/-- In a text without blanks the text of a member is found exactly if an object within the value has
that member, or one with the same value whose key ends with the key after a quote. -/
theorem memberText_found_iff (hgap : style.gap = []) (hkey : Plain style key)
    (hvalue : IsUtf16 value) (hv : Written v) :
    memberText style key value <:+: write style v ↔ HasMember key value v := by
  constructor
  · rintro ⟨pre, post, htext⟩
    have hempty : write style v ++ [] = pre ++ (memberText style key value ++ post) := by
      rw [← htext]
      simp
    rcases hv.finds hgap hkey hvalue [] pre post (fun c hc => by cases hc) hempty with
      ⟨pre', -, hnil⟩ | hfound
    · simp [memberText, writeString] at hnil
    · exact hfound
  · rintro ⟨members, k, hpart, hmem, hends⟩
    exact (hends.isInfix hgap).trans ((writeMembers_isInfix hmem).trans hpart.isInfix)

end Values

end Json

end WTerm
