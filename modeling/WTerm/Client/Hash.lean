import WTerm.Status.Hub
import WTerm.Web.Path

/-!
# The address of a tab

The page writes its active tab into the fragment of its address and reads it back when it is
loaded. `decodeURIComponent` takes well-formed UTF-8 only, unlike the decoder of the server.
-/

namespace WTerm

/-- A byte that well-formed UTF-8 can go on with. -/
def Utf8State.accepts (st : Utf8State) (b : ℕ) : Bool :=
  if st.need = 0 then b < 0x80 || (0xC2 ≤ b && b < 0xF5) else st.lower ≤ b && b ≤ st.upper

/-- `decodeURIComponent` in the middle of a text. The first `skip` characters belong to a byte
that is already read. -/
def decodeComponent (st : Utf8State) (skip : ℕ) : PyStr → Option PyStr
  | [] => if st.need = 0 then some [] else none
  | c :: rest =>
    if 0 < skip then decodeComponent st (skip - 1) rest
    else if c = 37 then do
      let byte ← hexPair rest
      if st.accepts byte then
        return (st.step byte).1 ++ (← decodeComponent (st.step byte).2 2 rest)
      else none
    else if st.need = 0 then do return c :: (← decodeComponent st 0 rest)
    else none

/-- `decodeURIComponent`, which raises on a malformed text. -/
def decodeURIComponent (s : PyStr) : Option PyStr := decodeComponent {} 0 s

/-- What comes before the last occurrence of a character and what comes after it. -/
def splitLast (c : ℕ) (s : PyStr) : Option (PyStr × PyStr) :=
  match s.reverse.dropWhile (· ≠ c) with
  | [] => none
  | _ :: front => some (front.reverse, (s.reverse.takeWhile (· ≠ c)).reverse)

/-- The properties that every object inherits, `AGENT_LABEL` too. -/
def objectPrototype : List PyStr :=
  [py "constructor".toList, py "hasOwnProperty".toList, py "isPrototypeOf".toList,
    py "propertyIsEnumerable".toList, py "toLocaleString".toList, py "toString".toList,
    py "valueOf".toList, py "__proto__".toList, py "__defineGetter__".toList,
    py "__defineSetter__".toList, py "__lookupGetter__".toList, py "__lookupSetter__".toList]

/-- `live[agent]`, for a text that is `in AGENT_LABEL`. An inherited property is truthy. -/
def StatusEntry.liveOf (entry : StatusEntry) (agent : PyStr) : Option Bool :=
  match parseAgent agent with
  | some known => some (entry.flag known)
  | none => if agent ∈ objectPrototype then some true else none

/-- `restoreFromHash`: the project and the agent of the tab that it opens, if it opens one. -/
def restoreFromHash (hash : PyStr) (projects : List StatusEntry) : Option (PyStr × PyStr) := do
  let (encoded, agent) ← splitLast 47 (hash.drop 1)
  let name ← decodeURIComponent encoded
  let entry ← projects.find? fun entry => entry.project.name = name
  let live ← entry.liveOf agent
  if live then some (name, agent) else none

/-- `syncHash`: the fragment of the active tab. -/
def syncHash (name agent : PyStr) : Option PyStr :=
  (encodeURIComponent name).map fun encoded => 35 :: encoded ++ 47 :: agent

/-- A malformed name opens nothing, whatever the snapshot says. -/
example : decodeURIComponent (py "%C3".toList) = none := by decide

/-! ## The round trip -/

/-- The spelling of a byte. -/
theorem decodeComponent_percentByte (st : Utf8State) (b : UInt8) (rest : PyStr)
    (haccepts : st.accepts b.toNat = true) :
    decodeComponent st 0 (percentByte b ++ rest) =
      (decodeComponent (st.step b.toNat).2 0 rest).map ((st.step b.toNat).1 ++ ·) := by
  have hskip : ∀ (st : Utf8State) (a d : ℕ),
      decodeComponent st 2 (a :: d :: rest) = decodeComponent st 0 rest := by
    intro st a d
    simp [decodeComponent]
  rw [percentByte, List.cons_append, List.cons_append, List.singleton_append, decodeComponent,
    if_neg (by omega), if_pos rfl, hexPair_percentByte]
  simp only [Option.bind_eq_bind, Option.bind_some, haccepts, if_true, hskip]
  cases decodeComponent (st.step b.toNat).2 0 rest <;> rfl

/-- A continuation byte that is not the last one of its character. -/
theorem decodeComponent_more {need bits lower upper b : ℕ} (rest : PyStr) (hneed : 2 ≤ need)
    (hlower : lower ≤ b) (hupper : b ≤ upper) (hbyte : b < 0x100) :
    decodeComponent ⟨need, bits, lower, upper⟩ 0 (percentByte b.toUInt8 ++ rest) =
      decodeComponent { need := need - 1, bits := 0x40 * bits + (b - 0x80) } 0 rest := by
  have hzero : need ≠ 0 := by omega
  have hone : need ≠ 1 := by omega
  rw [decodeComponent_percentByte]
  · rw [Utf8State.toNat_toUInt8 hbyte]
    simp [Utf8State.step, hzero, hone, hlower, hupper]
  · rw [Utf8State.toNat_toUInt8 hbyte]
    simp [Utf8State.accepts, hzero, hlower, hupper]

/-- The last byte of a character, written with a percent sign, completes the character. -/
theorem decodeComponent_last {bits lower upper b c : ℕ} (rest : PyStr) (hlower : lower ≤ b)
    (hupper : b ≤ upper) (hbyte : b < 0x100) (hc : 0x40 * bits + (b - 0x80) = c) :
    decodeComponent ⟨1, bits, lower, upper⟩ 0 (percentByte b.toUInt8 ++ rest) =
      (decodeComponent {} 0 rest).map (c :: ·) := by
  rw [decodeComponent_percentByte]
  · rw [Utf8State.toNat_toUInt8 hbyte, ← hc]
    simp [Utf8State.step, hlower, hupper]
  · rw [Utf8State.toNat_toUInt8 hbyte]
    simp [Utf8State.accepts, hlower, hupper]

/-- The first byte of a character, written with a percent sign, is read as the UTF-8 decoder reads
it. -/
theorem decodeComponent_lead {b : ℕ} (rest : PyStr)
    (hbyte : b < 0x80 ∨ 0xC2 ≤ b ∧ b < 0xF5) :
    decodeComponent {} 0 (percentByte b.toUInt8 ++ rest) =
      (decodeComponent (Utf8State.lead b).2 0 rest).map ((Utf8State.lead b).1 ++ ·) := by
  rw [decodeComponent_percentByte]
  · rw [Utf8State.toNat_toUInt8 (by omega)]
    simp [Utf8State.step]
  · rw [Utf8State.toNat_toUInt8 (by omega)]
    simpa [Utf8State.accepts] using hbyte

/-- The spelling of a character outside the unescaped ones. -/
theorem decodeComponent_encodeChar {c : ℕ} (hc : IsScalar c) (rest : PyStr) :
    decodeComponent {} 0 ((encodeChar c).flatMap percentByte ++ rest) =
      (decodeComponent {} 0 rest).map (c :: ·) := by
  have hgap := hc.gap
  have hmax := hc.1
  unfold encodeChar
  by_cases h1 : c < 0x80
  · rw [if_pos h1, List.flatMap_singleton, decodeComponent_lead rest (by omega)]
    simp [Utf8State.lead, h1]
  rw [if_neg h1]
  by_cases h2 : c < 0x800
  · rw [if_pos h2]
    simp only [List.flatMap_cons, List.flatMap_nil, List.append_assoc, List.nil_append]
    rw [decodeComponent_lead _ (by omega), Utf8State.lead_two (by omega) h2,
      decodeComponent_last (c := c) _ (by omega) (by omega) (by omega) (by omega), Option.map_map]
    rfl
  rw [if_neg h2]
  by_cases h3 : c < 0x10000
  · rw [if_pos h3]
    simp only [List.flatMap_cons, List.flatMap_nil, List.append_assoc, List.nil_append]
    rw [decodeComponent_lead _ (by omega), Utf8State.lead_three h3,
      decodeComponent_more _ (by omega) (by split <;> omega) (by split <;> omega) (by omega),
      decodeComponent_last (c := c) _ (by omega) (by omega) (by omega) (by omega), Option.map_map]
    rfl
  rw [if_neg h3]
  simp only [List.flatMap_cons, List.flatMap_nil, List.append_assoc, List.nil_append]
  rw [decodeComponent_lead _ (by omega), Utf8State.lead_four hmax,
    decodeComponent_more _ (by omega) (by split <;> omega) (by split <;> omega) (by omega),
    decodeComponent_more _ (by omega) (by omega) (by omega) (by omega),
    decodeComponent_last (c := c) _ (by omega) (by omega) (by omega) (by omega), Option.map_map]
  rfl

/-- `decodeURIComponent` gives back every well-formed name that `encodeURIComponent` was given. -/
theorem decodeURIComponent_encodeComponent {name : PyStr} (hname : ∀ c ∈ name, IsScalar c) :
    decodeURIComponent (name.flatMap encodeComponentChar) = some name := by
  unfold decodeURIComponent
  induction name with
  | nil => rfl
  | cons c rest ih =>
    have hrest := ih fun d hd => hname d (List.mem_cons_of_mem _ hd)
    rw [List.flatMap_cons, encodeComponentChar]
    split
    · rename_i hunescaped
      have hne := (encodeChar_of_isUnescaped hunescaped).2
      rw [List.singleton_append, decodeComponent, if_neg (by omega), if_neg hne, if_pos rfl, hrest]
      rfl
    · rw [decodeComponent_encodeChar (hname c List.mem_cons_self), hrest]
      rfl

/-- A character that the second part does not have is the last one. -/
theorem splitLast_append {c : ℕ} (before after : PyStr) (hafter : c ∉ after) :
    splitLast c (before ++ c :: after) = some (before, after) := by
  have hall : ∀ d ∈ after.reverse, decide (d ≠ c) = true := by
    intro d hd
    refine decide_eq_true ?_
    rintro rfl
    exact hafter (List.mem_reverse.mp hd)
  have hreverse : (before ++ c :: after).reverse = after.reverse ++ c :: before.reverse := by simp
  have hdrop : (after.reverse ++ c :: before.reverse).dropWhile (· ≠ c) = c :: before.reverse := by
    rw [List.dropWhile_append_of_pos hall]
    simp
  have htake : (after.reverse ++ c :: before.reverse).takeWhile (· ≠ c) = after.reverse := by
    rw [List.takeWhile_append_of_pos hall]
    simp
  simp only [splitLast, hreverse, hdrop, htake, List.reverse_reverse]

section

variable {name hash : PyStr}

/-- The address that the page writes for a tab is read as the name and the agent of the tab. -/
theorem restoreFromHash_of_syncHash (hname : ∀ c ∈ name, IsScalar c) {agent : PyStr}
    (hslash : 47 ∉ agent) (projects : List StatusEntry)
    (hhash : syncHash name agent = some hash) :
    restoreFromHash hash projects =
      (projects.find? fun entry => entry.project.name = name).bind fun entry =>
        (entry.liveOf agent).bind fun live => if live then some (name, agent) else none := by
  rw [syncHash, encodeURIComponent_of_isScalar hname, Option.map_some, Option.some.injEq] at hhash
  subst hhash
  simp only [restoreFromHash, List.cons_append, List.drop_succ_cons, List.drop_zero,
    splitLast_append _ _ hslash, decodeURIComponent_encodeComponent hname,
    Option.bind_eq_bind, Option.bind_some]

/-- With an agent of `AGENT_LABEL`'s own it leads back to the tab while its session is live in the
snapshot, and to nothing else. -/
theorem restoreFromHash_syncHash (hname : ∀ c ∈ name, IsScalar c) (agent : Agent)
    (projects : List StatusEntry) (hhash : syncHash name agent.name = some hash) :
    restoreFromHash hash projects =
      (projects.find? fun entry => entry.project.name = name).bind fun entry =>
        if entry.flag agent then some (name, agent.name) else none := by
  have hslash : 47 ∉ agent.name := by cases agent <;> decide
  have hparse : parseAgent agent.name = some agent := by cases agent <;> decide
  rw [restoreFromHash_of_syncHash hname hslash projects hhash]
  simp only [StatusEntry.liveOf, hparse, Option.bind_some]

/-- With the name of an inherited property it leads back to the tab as soon as the snapshot has the
project, whatever is live. -/
theorem restoreFromHash_inherited (hname : ∀ c ∈ name, IsScalar c) {agent : PyStr}
    (hagent : agent ∈ objectPrototype) (projects : List StatusEntry)
    (hhash : syncHash name agent = some hash) :
    restoreFromHash hash projects =
      (projects.find? fun entry => entry.project.name = name).map fun _ => (name, agent) := by
  have hslash : ∀ text ∈ objectPrototype, 47 ∉ text := by decide
  have hparse : ∀ text ∈ objectPrototype, parseAgent text = none := by decide
  rw [restoreFromHash_of_syncHash hname (hslash agent hagent) projects hhash]
  simp only [StatusEntry.liveOf, hparse agent hagent, hagent, if_true, Option.bind_some]
  exact Option.map_eq_bind.symm

/-- With any other text for the agent it leads nowhere: the text is not `in AGENT_LABEL`. -/
theorem restoreFromHash_unknown (hname : ∀ c ∈ name, IsScalar c) {agent : PyStr}
    (hslash : 47 ∉ agent) (hother : ∀ known : Agent, agent ≠ known.name)
    (hagent : agent ∉ objectPrototype) (projects : List StatusEntry)
    (hhash : syncHash name agent = some hash) : restoreFromHash hash projects = none := by
  have hparse : parseAgent agent = none := by
    unfold parseAgent
    rw [List.find?_eq_none]
    intro known _ hsame
    exact hother known (of_decide_eq_true hsame).symm
  rw [restoreFromHash_of_syncHash hname hslash projects hhash]
  cases projects.find? fun entry => entry.project.name = name with
  | none => rfl
  | some entry =>
    simp only [StatusEntry.liveOf, hparse, hagent, if_false, Option.bind_some, Option.bind_none]

end

end WTerm
