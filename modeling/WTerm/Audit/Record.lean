import WTerm.Python.Lines

/-!
# The text of an audit record

`audit` joins a name and the values of its fields to one line. The values come from clients, also
before authentication: `_value` replaces the control characters of ASCII and cuts the value off.
`str.splitlines` ends a line at three more characters.
-/

namespace WTerm

/-- `AUDIT_VALUE_MAX`. -/
def auditValueMax : ℕ := 128

/-- The name of an event or the keyword of a field. -/
structure AuditName where
  text : PyStr
  nonempty : text ≠ []
  plain : text.isOneLine = true

/-- A field of a record, with `str(value)` unless the value is `None`. -/
structure AuditField where
  name : AuditName
  value : Option PyStr

/-- `_UNSAFE`: the control characters of ASCII. -/
def isUnsafe (c : ℕ) : Bool := c ≤ 0x1F || c = 0x7F

/-- `_UNSAFE.sub("?", text)`. -/
def subUnsafe (text : PyStr) : PyStr := text.map fun c => if isUnsafe c then 0x3F else c

/-- `_value`. -/
def auditValue (value : PyStr) : PyStr :=
  let text := subUnsafe value
  if text.length ≤ auditValueMax then text else text.take auditValueMax ++ [0x2026]

/-- `f"{key}={_value(value)}"`, unless the value is `None`. -/
def AuditField.text (field : AuditField) : Option PyStr :=
  field.value.map fun value => field.name.text ++ 0x3D :: auditValue value

/-- `" ".join(texts)`. -/
def joinSpace : List PyStr → PyStr
  | [] => []
  | [text] => text
  | text :: rest => text ++ 0x20 :: joinSpace rest

/-- What `audit` hands to the logger. -/
def auditRecord (event : AuditName) (fields : List AuditField) : PyStr :=
  let detail := joinSpace (fields.filterMap AuditField.text)
  event.text ++ if detail = [] then [] else 0x20 :: detail

/-- The record is one line, and no value in it is longer than the bound. -/
structure IsOneRecord (event : AuditName) (fields : List AuditField) : Prop where
  plain : (auditRecord event fields).isOneLine = true
  lines : (auditRecord event fields).splitlines = [auditRecord event fields]
  bounded : ∀ field ∈ fields, ∀ value, field.value = some value →
    (auditValue value).length ≤ auditValueMax + 1

/-- A character that ends a line and that `_UNSAFE` does not cover: NEL, and the line and paragraph
separators. -/
def isMissed (c : ℕ) : Bool := c = 0x85 || c = 0x2028 || c = 0x2029

/-! ## One value -/

/-- `_UNSAFE` covers all line boundaries but three. -/
theorem isLineBoundary_eq (c : ℕ) :
    isLineBoundary (if isUnsafe c then 0x3F else c) = isMissed c := by
  by_cases hunsafe : isUnsafe c = true
  · rw [if_pos hunsafe]
    simp only [isUnsafe, Bool.or_eq_true, decide_eq_true_eq] at hunsafe
    have hmissed : isMissed c = false := by
      simp only [isMissed, Bool.or_eq_false_iff, decide_eq_false_iff_not]
      omega
    rw [hmissed]
    decide
  · rw [if_neg hunsafe, Bool.eq_iff_iff]
    simp only [isUnsafe, Bool.or_eq_true, decide_eq_true_eq, not_or] at hunsafe
    simp only [isLineBoundary, isMissed, Bool.or_eq_true, decide_eq_true_eq, List.mem_cons,
      List.not_mem_nil, or_false]
    omega

/-- A value in a record is one line if and only if none of its first characters is missed. -/
theorem auditValue_isOneLine (value : PyStr) :
    (auditValue value).isOneLine = !(value.take auditValueMax).any isMissed := by
  have hmap (text : PyStr) : (subUnsafe text).isOneLine = !text.any isMissed := by
    rw [subUnsafe, PyStr.isOneLine, List.all_map, List.not_any_eq_all_not]
    congr 1
    funext c
    simp [isLineBoundary_eq]
  unfold auditValue
  dsimp only
  split_ifs with hshort
  · rw [hmap, List.take_of_length_le (by simpa [subUnsafe] using hshort)]
  · have hcut : (subUnsafe value).take auditValueMax = subUnsafe (value.take auditValueMax) := by
      rw [subUnsafe, subUnsafe, List.map_take]
    have hend : PyStr.isOneLine [0x2026] = true := by decide
    rw [hcut, PyStr.isOneLine_append, hmap, hend, Bool.and_true]

/-- A value in a record is at most one character longer than the bound. -/
theorem auditValue_length_le (value : PyStr) : (auditValue value).length ≤ auditValueMax + 1 := by
  unfold auditValue
  dsimp only
  split_ifs with hshort
  · omega
  · rw [List.length_append, List.length_take, List.length_singleton]
    omega

/-! ## The record -/

/-- The text of a field with a value. -/
theorem AuditField.text_of_value {field : AuditField} {value : PyStr}
    (hvalue : field.value = some value) :
    field.text = some (field.name.text ++ 0x3D :: auditValue value) := by
  rw [AuditField.text, hvalue]
  rfl

/-- A field is one line if and only if its value in the record is. -/
theorem fieldText_isOneLine (name : AuditName) (value : PyStr) :
    (name.text ++ 0x3D :: auditValue value).isOneLine = (auditValue value).isOneLine := by
  have hequals : PyStr.isOneLine (0x3D :: auditValue value) = (auditValue value).isOneLine := rfl
  rw [PyStr.isOneLine_append, name.plain, hequals, Bool.true_and]

/-- Joined texts are one line if and only if each of them is. -/
theorem joinSpace_isOneLine (texts : List PyStr) :
    (joinSpace texts).isOneLine = texts.all PyStr.isOneLine := by
  induction texts with
  | nil => rfl
  | cons text rest ih =>
    cases rest with
    | nil => simp [joinSpace]
    | cons next rest =>
      have hspace : PyStr.isOneLine (0x20 :: joinSpace (next :: rest)) =
          (joinSpace (next :: rest)).isOneLine := rfl
      have hjoin : joinSpace (text :: next :: rest) =
          text ++ 0x20 :: joinSpace (next :: rest) := rfl
      rw [hjoin, PyStr.isOneLine_append, hspace, ih]
      rfl

/-- A record is one line if and only if all its fields are. -/
theorem auditRecord_isOneLine (event : AuditName) (fields : List AuditField) :
    (auditRecord event fields).isOneLine =
      (fields.filterMap AuditField.text).all PyStr.isOneLine := by
  unfold auditRecord
  dsimp only
  rw [PyStr.isOneLine_append, event.plain, Bool.true_and, ← joinSpace_isOneLine]
  split_ifs with hempty
  · rw [hempty]
  · rfl

/-- A record is one line if and only if no value has a character that `_UNSAFE` misses among those
that are kept. -/
theorem auditRecord_isOneLine_iff (event : AuditName) (fields : List AuditField) :
    (auditRecord event fields).isOneLine = true ↔ ∀ field ∈ fields, ∀ value,
      field.value = some value → (value.take auditValueMax).any isMissed = false := by
  rw [auditRecord_isOneLine, List.all_eq_true]
  constructor
  · intro hall field hfield value hvalue
    have hline := hall _ (List.mem_filterMap.mpr ⟨field, hfield, AuditField.text_of_value hvalue⟩)
    rwa [fieldText_isOneLine, auditValue_isOneLine, Bool.not_eq_true'] at hline
  · intro hvalues text htext
    obtain ⟨field, hfield, hsome⟩ := List.mem_filterMap.mp htext
    obtain ⟨value, hvalue, rfl⟩ := Option.map_eq_some_iff.mp hsome
    rw [fieldText_isOneLine, auditValue_isOneLine, hvalues field hfield value hvalue]
    rfl

/-- A record begins with the name of its event. -/
theorem auditRecord_ne_nil (event : AuditName) (fields : List AuditField) :
    auditRecord event fields ≠ [] :=
  fun hempty => event.nonempty (List.append_eq_nil_iff.mp hempty).1

/-- An audit call writes one line if and only if no value has a NEL, a line separator or a paragraph
separator among the characters that are kept. -/
theorem auditRecord_isOneRecord_iff (event : AuditName) (fields : List AuditField) :
    IsOneRecord event fields ↔ ∀ field ∈ fields, ∀ value, field.value = some value →
      (value.take auditValueMax).any isMissed = false := by
  rw [← auditRecord_isOneLine_iff event fields]
  constructor
  · exact IsOneRecord.plain
  · intro hplain
    exact ⟨hplain, PyStr.splitlines_eq_singleton (auditRecord_ne_nil event fields) hplain,
      fun _ _ value _ => auditValue_length_le value⟩

/-- The origin of a rejected handshake whose header has the byte 0x85 ends the line. -/
theorem auditRecord_two_lines :
    ¬IsOneRecord ⟨py "ws-reject".toList, by decide, by decide⟩
      [⟨⟨py "origin".toList, by decide, by decide⟩,
        some (py "https://a".toList ++ 0x85 :: py "login-ok client=1.2.3.4".toList)⟩] := by
  intro hrecord
  exact absurd hrecord.plain (by decide)

end WTerm
