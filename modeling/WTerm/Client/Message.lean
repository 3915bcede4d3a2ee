import WTerm.Manager.Frames
import WTerm.Web.JsonWrite

/-!
# The messages of a page

`sendJson` writes a message with `JSON.stringify`, and the browser sends the text as UTF-8. The
receive loop of `terminal_ws` gets the same text, and `json.loads` makes the same message of it:
what the page sends is what the session is given.
-/

namespace WTerm

open Json

/-- `{ type: "input", data }`. -/
def inputMessage (data : PyStr) : Json :=
  .obj [(py ['t', 'y', 'p', 'e'], .str inputKind), (py ['d', 'a', 't', 'a'], .str data)]

/-- `{ type: "resize", cols, rows }`. -/
def resizeMessage (cols rows : ℕ) : Json :=
  .obj [(py ['t', 'y', 'p', 'e'], .str resizeKind), (py ['c', 'o', 'l', 's'], .int cols),
    (py ['r', 'o', 'w', 's'], .int rows)]

/-- `JSON.stringify`. -/
def stringify (message : Json) : PyStr := write stringifyStyle message

/-- The bytes of a text frame that a browser sends. It replaces lone surrogates. -/
def sendText (text : PyStr) : List UInt8 :=
  text.flatMap fun c => encodeChar (if isSurrogate c then 0xFFFD else c)

/-- What a page sends: what `onData` or the key bar has, or the size of a terminal. -/
inductive PageMessage where
  | input (data : PyStr)
  | resize (cols rows : ℕ)

namespace PageMessage

/-- The message as a value. -/
def json : PageMessage → Json
  | .input data => inputMessage data
  | .resize cols rows => resizeMessage cols rows

/-- The frame that the server gets: what the bytes on the wire decode to. -/
def frame (m : PageMessage) : Frame := .text (PyStr.decodeReplace (sendText (stringify m.json)))

/-- The strings of a page are UTF-16 strings, and the sizes of its terminals are numbers that
`JSON.stringify` writes without an exponent. -/
def OfPage : PageMessage → Prop
  | .input data => IsUtf16 data
  | .resize cols rows => cols < 10 ^ 21 ∧ rows < 10 ^ 21

/-- What the message is for. -/
def apply (s : Session) (now : Time) (results : List WriteResult) :
    PageMessage → Session × Except PyException Unit
  | .input data => s.applyInput now data results
  | .resize cols rows => (s.resize cols rows results, .ok ())

end PageMessage

/-! ## What can be written -/

/-- A text of small code points is a UTF-16 string. -/
theorem isUtf16_of_small {s : PyStr} (h : ∀ c ∈ s, c < 0xD800) : IsUtf16 s := by
  refine ⟨fun c hc => by have := h c hc; omega, ?_⟩
  induction s with
  | nil => exact .nil
  | cons c s ih =>
    have hrest := ih fun d hd => h d (List.mem_cons_of_mem c hd)
    cases s with
    | nil => exact .singleton c
    | cons d s =>
      refine .cons_cons (fun hhigh => ?_) hrest
      have hc := h c List.mem_cons_self
      simp only [isHigh, Bool.and_eq_true, decide_eq_true_eq] at hhigh
      omega

/-- A number below a power of ten has no more digits than that. -/
theorem decimal_length_le {n k : ℕ} (hk : 0 < k) (hn : n < 10 ^ k) : (decimal n).length ≤ k := by
  unfold decimal
  split
  · exact hk
  · rw [List.length_reverse, List.length_map]
    exact (Nat.digits_length_le_iff (by decide) n).mpr hn

/-- Every message of a page can be written. -/
theorem PageMessage.OfPage.writable {m : PageMessage} (h : m.OfPage) : Writable 1 m.json := by
  have hkey : ∀ key : PyStr, (∀ c ∈ key, c < 0xD800) → IsUtf16 key := fun _ => isUtf16_of_small
  cases m with
  | input data =>
    refine .obj (fun member hmember => hkey _ ?_) fun member hmember => ?_
    · simp only [List.mem_cons, List.not_mem_nil, or_false] at hmember
      rcases hmember with rfl | rfl <;> simp [py]
    · simp only [List.mem_cons, List.not_mem_nil, or_false] at hmember
      rcases hmember with rfl | rfl
      · exact .str (hkey _ (by decide))
      · exact .str h
  | resize cols rows =>
    refine .obj (fun member hmember => hkey _ ?_) fun member hmember => ?_
    · simp only [List.mem_cons, List.not_mem_nil, or_false] at hmember
      rcases hmember with rfl | rfl | rfl <;> simp [py]
    · have hsize : ∀ n : ℕ, n < 10 ^ 21 → Writable 0 (.int n) := by
        intro n hn
        exact .int (Nat.le_trans (decimal_length_le (by decide) hn) (by decide))
      simp only [List.mem_cons, List.not_mem_nil, or_false] at hmember
      rcases hmember with rfl | rfl | rfl
      · exact .str (hkey _ (by decide))
      · exact hsize cols h.1
      · exact hsize rows h.2

/-! ## On the wire -/

/-- The written form of a number is ASCII. -/
theorem writeInt_lt (n : ℤ) : ∀ c ∈ writeInt n, c < 0x80 := by
  have hdecimal : ∀ c ∈ decimal n.natAbs, c < 0x80 := by
    intro c hc
    have hdigit := decimal_digit hc
    simp only [PyStr.isAsciiDigit, Bool.and_eq_true, decide_eq_true_eq] at hdigit
    omega
  unfold writeInt
  split
  · intro c hc
    rcases List.mem_cons.mp hc with rfl | hc
    · decide
    · exact hdecimal c hc
  · exact hdecimal

/-- `JSON.stringify` writes no lone surrogate within a string. -/
theorem writeString_scalar {s : PyStr} (hs : IsUtf16 s) :
    ∀ c ∈ writeString stringifyStyle s, IsScalar c := by
  have hchar : ∀ c ∈ s, ∀ d ∈ writeChar stringifyStyle c, IsScalar d := by
    intro c hc d hd
    unfold writeChar at hd
    split at hd
    · next letter hletter =>
      have hsmall := (escapeLetter_ascii hletter).2
      simp only [List.mem_cons, List.not_mem_nil, or_false] at hd
      rcases hd with rfl | rfl
      · exact isScalar_of_lt (by decide)
      · exact isScalar_of_lt hsmall
    · split_ifs at hd with hescape
      · exact isScalar_of_lt (uEscape_ascii _ d hd).2
      · rcases List.mem_append.mp hd with hd | hd
        · exact isScalar_of_lt (uEscape_ascii _ d hd).2
        · exact isScalar_of_lt (uEscape_ascii _ d hd).2
      · obtain rfl := List.mem_singleton.mp hd
        have hplain : isSurrogate d = false := by
          by_contra hsurrogate
          exact hescape (Or.inr (by simpa [stringifyStyle] using hsurrogate))
        exact ⟨hs.bound d hc, hplain⟩
  intro d hd
  simp only [writeString, writeChars, List.mem_cons, List.mem_append, List.mem_flatMap,
    List.not_mem_nil, or_false] at hd
  rcases hd with rfl | ⟨c, hc, hd⟩ | rfl
  · exact isScalar_of_lt (by decide)
  · exact hchar c hc d hd
  · exact isScalar_of_lt (by decide)

/-- An ASCII text has no surrogates. -/
theorem scalar_of_ascii {t : PyStr} (ht : ∀ c ∈ t, c < 0x80) : ∀ c ∈ t, IsScalar c :=
  fun c hc => isScalar_of_lt (ht c hc)

/-- An ASCII character in front of a text adds no surrogate. -/
theorem scalar_cons {d : ℕ} {t : PyStr} (hd : d < 0x80) (ht : ∀ c ∈ t, IsScalar c) :
    ∀ c ∈ d :: t, IsScalar c :=
  List.forall_mem_cons.mpr ⟨isScalar_of_lt hd, ht⟩

/-- Two texts without surrogates have none together. -/
theorem scalar_append {t u : PyStr} (ht : ∀ c ∈ t, IsScalar c) (hu : ∀ c ∈ u, IsScalar c) :
    ∀ c ∈ t ++ u, IsScalar c :=
  List.forall_mem_append.mpr ⟨ht, hu⟩

/-- The items of an array behind the first one. -/
theorem writeRest_scalar {items : List Json}
    (hitems : ∀ v ∈ items, ∀ c ∈ write stringifyStyle v, IsScalar c) :
    ∀ c ∈ writeRest stringifyStyle items, IsScalar c := by
  induction items with
  | nil => simp [writeRest]
  | cons v items ih =>
    rw [writeRest]
    refine scalar_cons (by decide) (scalar_append ?_ (ih fun u hu => hitems u ?_))
    · exact scalar_append (by simp [stringifyStyle]) (hitems v List.mem_cons_self)
    · exact List.mem_cons_of_mem v hu

/-- A member of an object, with its key and its value. -/
theorem writeMember_scalar {m : PyStr × Json} (hkey : IsUtf16 m.1)
    (hvalue : ∀ c ∈ write stringifyStyle m.2, IsScalar c) :
    ∀ c ∈ writeMember stringifyStyle m, IsScalar c := by
  obtain ⟨key, value⟩ := m
  rw [writeMember]
  refine scalar_append (writeString_scalar hkey) (scalar_cons (by decide) ?_)
  exact scalar_append (by simp [stringifyStyle]) hvalue

/-- The members of an object behind the first one. -/
theorem writeMore_scalar {members : List (PyStr × Json)} (hkeys : ∀ m ∈ members, IsUtf16 m.1)
    (hvalues : ∀ m ∈ members, ∀ c ∈ write stringifyStyle m.2, IsScalar c) :
    ∀ c ∈ writeMore stringifyStyle members, IsScalar c := by
  induction members with
  | nil => simp [writeMore]
  | cons m members ih =>
    have htail := ih (fun u hu => hkeys u (List.mem_cons_of_mem m hu))
      fun u hu => hvalues u (List.mem_cons_of_mem m hu)
    have hm := writeMember_scalar (hkeys m List.mem_cons_self) (hvalues m List.mem_cons_self)
    rw [writeMore]
    exact scalar_cons (by decide)
      (scalar_append (scalar_append (by simp [stringifyStyle]) hm) htail)

/-- `JSON.stringify` escapes lone surrogates: every code point of its text is a scalar value. -/
theorem Json.Writable.scalar {depth : ℕ} {v : Json} (h : Writable depth v) :
    ∀ c ∈ write stringifyStyle v, IsScalar c := by
  induction h with
  | null => exact scalar_of_ascii (by decide)
  | bool b => cases b <;> exact scalar_of_ascii (by decide)
  | int hn => exact scalar_of_ascii (writeInt_lt _)
  | str hs => exact writeString_scalar hs
  | arr hitems ih =>
    rename_i items
    rw [write]
    refine scalar_cons (by decide) (scalar_append ?_ (scalar_of_ascii (by decide)))
    cases items with
    | nil => simp [writeItems]
    | cons v items =>
      rw [writeItems]
      exact scalar_append (ih v List.mem_cons_self)
        (writeRest_scalar fun u hu => ih u (List.mem_cons_of_mem v hu))
  | obj hkeys hvalues ih =>
    rename_i members
    rw [write]
    refine scalar_cons (by decide) (scalar_append ?_ (scalar_of_ascii (by decide)))
    cases members with
    | nil => simp [writeMembers]
    | cons m members =>
      rw [writeMembers]
      exact scalar_append
        (writeMember_scalar (hkeys m List.mem_cons_self) (ih m List.mem_cons_self))
        (writeMore_scalar (fun u hu => hkeys u (List.mem_cons_of_mem m hu))
          fun u hu => ih u (List.mem_cons_of_mem m hu))

/-- A text without lone surrogates gets through as it is. -/
theorem decodeReplace_sendText {text : PyStr} (h : ∀ c ∈ text, IsScalar c) :
    PyStr.decodeReplace (sendText text) = text := by
  have hsend : sendText text = text.flatMap encodeChar := by
    unfold sendText
    refine List.flatMap_congr fun c hc => ?_
    rw [(h c hc).2]
    rfl
  rw [hsend, PyStr.decodeReplace_flatMap h]

/-- The frame of a message is the text that the page writes. -/
theorem PageMessage.OfPage.frame_eq {m : PageMessage} (h : m.OfPage) :
    m.frame = .text (stringify m.json) :=
  congrArg Frame.text (decodeReplace_sendText h.writable.scalar)

/-! ## The receive loop -/

/-- `json.loads` reads the message that the page has written. -/
theorem PageMessage.OfPage.received {m : PageMessage} (h : m.OfPage) {depth : ℕ}
    (hdepth : 0 < depth) : m.frame.received depth = .text (.ok m.json) := by
  rw [h.frame_eq, Frame.received, stringify, loads_write stringifyStyle h.writable hdepth]

/-- The receive loop does what the message is for. -/
theorem PageMessage.handleFrame_json (m : PageMessage) (s : Session) (now : Time)
    (results : List WriteResult) :
    s.handleFrame now (.text (.ok m.json)) results = m.apply s now results := by
  cases m with
  | input data => rfl
  | resize cols rows => rfl

/-- What the page sends is what the session is given: `terminal_ws` handles the frame of an input
or resize message exactly as `write_input` or `resize` of what the terminal had. -/
theorem message_received {m : PageMessage} (h : m.OfPage) {depth : ℕ} (hdepth : 0 < depth)
    (s : Session) (now : Time) (results : List WriteResult) :
    s.handleFrame now (m.frame.received depth) results = m.apply s now results := by
  rw [h.received hdepth]
  exact m.handleFrame_json s now results

/-- The hypotheses hold for a text with a quote, a control character and a lone surrogate. -/
theorem message_received_surrogate :
    Session.blank.handleFrame 0
        ((PageMessage.input [34, 27, 0xD800, 0x1F600]).frame.received 1) [] =
      (PageMessage.input [34, 27, 0xD800, 0x1F600]).apply Session.blank 0 [] :=
  message_received (m := .input [34, 27, 0xD800, 0x1F600])
    ⟨by decide, .cons_cons (by decide) (.cons_cons (by decide) (.cons_cons (by decide)
      (.singleton _)))⟩ (by decide) Session.blank 0 []

end WTerm
