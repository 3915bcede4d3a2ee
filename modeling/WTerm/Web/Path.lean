import WTerm.Config.Accepted
import WTerm.Python.Utf8
import WTerm.Web.Routes

/-!
# The address of a terminal

`connect` in `app.js` builds a URL with the name of a project in its path. The browser
normalises the path, the server decodes it, and the route takes the name from it.
-/

namespace WTerm

/-! ## The page -/

/-- A character that `encodeURIComponent` leaves alone. -/
def isUnescaped (c : ℕ) : Bool :=
  PyStr.isAsciiAlpha c || PyStr.isAsciiDigit c ||
    c ∈ [45, 95, 46, 33, 126, 42, 39, 40, 41]

/-- An upper-case hexadecimal digit. -/
def upperHexDigit (n : ℕ) : ℕ := if n < 10 then 48 + n else 55 + n

/-- A byte as a percent sign and two digits. -/
def percentByte (b : UInt8) : PyStr :=
  [37, upperHexDigit (b.toNat / 16), upperHexDigit (b.toNat % 16)]

/-- One character of `encodeURIComponent`. -/
def encodeComponentChar (c : ℕ) : PyStr :=
  if isUnescaped c then [c] else (encodeChar c).flatMap percentByte

/-- `encodeURIComponent`, which raises on a lone surrogate. -/
def encodeURIComponent (s : PyStr) : Option PyStr :=
  if PyStr.hasSurrogate s then none else some (s.flatMap encodeComponentChar)

/-- The path in front of the name. -/
def wsBase : PyStr := py ['/', 'w', 's', '/']

/-- What `connect` puts behind the host. -/
def connectTarget (name : PyStr) (mode : Mode) (agent : Agent) : Option PyStr := do
  let encodedName ← encodeURIComponent name
  let encodedAgent ← encodeURIComponent agent.name
  return wsBase ++ encodedName ++ py ['?', 'm', 'o', 'd', 'e', '='] ++ mode.name ++
    py ['&', 'a', 'g', 'e', 'n', 't', '='] ++ encodedAgent

/-! ## The browser -/

/-- The segments between the slashes of a path. A backslash counts as one in this scheme. -/
def segments : PyStr → List PyStr
  | [] => [[]]
  | c :: rest =>
    if c = 47 ∨ c = 92 then [] :: segments rest
    else match segments rest with
      | [] => [[c]]
      | first :: more => (c :: first) :: more

/-- The spellings of a dot. -/
def dotSpellings : List PyStr := [py ['.'], py ['%', '2', 'e'], py ['%', '2', 'E']]

/-- The segment of the directory itself. -/
def isSingleDot (segment : PyStr) : Bool := segment ∈ dotSpellings

/-- The segment of the directory above. -/
def isDoubleDot (segment : PyStr) : Bool :=
  segment ∈ dotSpellings.flatMap fun a => dotSpellings.map fun b => a ++ b

/-- The segments after the dot segments are removed. A dot segment at the end leaves an empty
one. -/
def removeDots (out : List PyStr) : List PyStr → List PyStr
  | [] => out
  | segment :: rest =>
    if isDoubleDot segment then
      removeDots (if rest = [] then out.dropLast ++ [[]] else out.dropLast) rest
    else if isSingleDot segment then removeDots (if rest = [] then out ++ [[]] else out) rest
    else removeDots (out ++ [segment]) rest

/-- The path of a request for a target behind the host. -/
def requestPath (target : PyStr) : PyStr :=
  (removeDots [] (segments (target.takeWhile fun c => c ≠ 63 && c ≠ 35).tail)).flatMap
    fun segment => 47 :: segment

/-! ## The server -/

/-- The byte of two hexadecimal digits in front of a text. -/
def hexPair : PyStr → Option ℕ
  | a :: b :: _ =>
    match Json.hexDigit a, Json.hexDigit b with
    | some high, some low => some (16 * high + low)
    | _, _ => none
  | _ => none

/-- The bytes of an ASCII text with percent signs. The first `skip` characters belong to a byte
that is already read. -/
def percentDecode (skip : ℕ) : PyStr → List UInt8
  | [] => []
  | c :: rest =>
    if 0 < skip then percentDecode (skip - 1) rest
    else if c = 37 then
      match hexPair rest with
      | some byte => byte.toUInt8 :: percentDecode 2 rest
      | none => c.toUInt8 :: percentDecode 0 rest
    else c.toUInt8 :: percentDecode 0 rest

/-- `urllib.parse.unquote` of an ASCII path. -/
def unquote (path : PyStr) : PyStr := PyStr.decodeReplace (percentDecode 0 path)

/-- `project_name` of the route `/ws/{project_name}`. -/
def routeName (path : PyStr) : Option PyStr :=
  let name := path.drop wsBase.length
  if wsBase.isPrefixOf path = true ∧ name ≠ [] ∧ 47 ∉ name then some name else none

/-- The name with which a connection reaches `terminal_ws`, if it does. -/
def openedName (name : PyStr) (mode : Mode) (agent : Agent) : Option PyStr :=
  (connectTarget name mode agent).bind fun target => routeName (unquote (requestPath target))

/-- A name outside ASCII arrives. -/
example : openedName [0xD55C, 32, 37, 46] .attach .claude = some [0xD55C, 32, 37, 46] := by decide

/-! ## Characters of an encoded name -/

/-- The characters that an encoded name is made of. -/
def InEncoding (c : ℕ) : Prop := isUnescaped c = true ∨ c = 37

theorem InEncoding.ne {c : ℕ} (hc : InEncoding c) : c ≠ 47 ∧ c ≠ 92 ∧ c ≠ 63 ∧ c ≠ 35 := by
  refine ⟨?_, ?_, ?_, ?_⟩ <;>
  · rintro rfl
    revert hc
    unfold InEncoding
    decide

theorem upperHexDigit_inEncoding {n : ℕ} (hn : n < 16) : InEncoding (upperHexDigit n) := by
  have hall : ∀ m < 16, isUnescaped (upperHexDigit m) = true := by decide
  exact .inl (hall n hn)

/-- The digits of a byte are read back. -/
theorem hexDigit_upperHexDigit {n : ℕ} (hn : n < 16) :
    Json.hexDigit (upperHexDigit n) = some n := by
  unfold Json.hexDigit upperHexDigit
  split
  · have hlow : 48 ≤ 48 + n ∧ 48 + n ≤ 57 := by omega
    rw [if_pos hlow, Nat.add_sub_cancel_left]
  · have hlow : ¬(48 ≤ 55 + n ∧ 55 + n ≤ 57) := by omega
    have hmid : ¬(97 ≤ 55 + n ∧ 55 + n ≤ 102) := by omega
    have hhigh : 65 ≤ 55 + n ∧ 55 + n ≤ 70 := by omega
    rw [if_neg hlow, if_neg hmid, if_pos hhigh, Nat.add_sub_cancel_left]

theorem encodeComponentChar_inEncoding (c : ℕ) :
    ∀ d ∈ encodeComponentChar c, InEncoding d := by
  intro d hd
  unfold encodeComponentChar at hd
  split at hd
  · rename_i hc
    rw [List.mem_singleton.mp hd]
    exact .inl hc
  · obtain ⟨b, -, hb⟩ := List.mem_flatMap.mp hd
    have hbyte : b.toNat < 256 := b.toNat_lt
    rcases List.mem_cons.mp hb with rfl | hb
    · exact .inr rfl
    rcases List.mem_cons.mp hb with rfl | hb
    · exact upperHexDigit_inEncoding (by omega)
    · rw [List.mem_singleton.mp hb]
      exact upperHexDigit_inEncoding (by omega)

/-! ## The round trip -/

/-- A character other than the percent sign is read as itself. -/
theorem percentDecode_cons {c : ℕ} (hc : c ≠ 37) (rest : PyStr) :
    percentDecode 0 (c :: rest) = c.toUInt8 :: percentDecode 0 rest := by
  simp [percentDecode, hc]

/-- The digits of a byte are read back. -/
theorem hexPair_percentByte (b : UInt8) (rest : PyStr) :
    hexPair (upperHexDigit (b.toNat / 16) :: upperHexDigit (b.toNat % 16) :: rest) =
      some b.toNat := by
  have hbyte : b.toNat < 256 := b.toNat_lt
  have hvalue : 16 * (b.toNat / 16) + b.toNat % 16 = b.toNat := by omega
  rw [hexPair, hexDigit_upperHexDigit (by omega), hexDigit_upperHexDigit (by omega)]
  simp only [hvalue]

/-- The spelling of a byte is read as the byte. -/
theorem percentDecode_percentByte (b : UInt8) (rest : PyStr) :
    percentDecode 0 (percentByte b ++ rest) = b :: percentDecode 0 rest := by
  simp [percentByte, percentDecode, hexPair_percentByte]

/-- The spellings of bytes are read as the bytes. -/
theorem percentDecode_flatMap (bytes : List UInt8) (rest : PyStr) :
    percentDecode 0 (bytes.flatMap percentByte ++ rest) = bytes ++ percentDecode 0 rest := by
  induction bytes with
  | nil => rfl
  | cons b bytes ih =>
    rw [List.flatMap_cons, List.append_assoc, percentDecode_percentByte, ih, List.cons_append]

/-- The characters that stay as they are have one byte. -/
theorem encodeChar_of_isUnescaped {c : ℕ} (hc : isUnescaped c = true) :
    encodeChar c = [c.toUInt8] ∧ c ≠ 37 := by
  have hsmall : c < 0x80 ∧ c ≠ 37 := by
    simp only [isUnescaped, PyStr.isAsciiAlpha, PyStr.isAsciiDigit, Bool.or_eq_true,
      Bool.and_eq_true, decide_eq_true_eq, List.mem_cons, List.not_mem_nil, or_false] at hc
    omega
  exact ⟨if_pos hsmall.1, hsmall.2⟩

/-- The server reads the bytes of the name. -/
theorem percentDecode_encodeComponent (name : PyStr) :
    percentDecode 0 (name.flatMap encodeComponentChar) = name.flatMap encodeChar := by
  induction name with
  | nil => rfl
  | cons c rest ih =>
    rw [List.flatMap_cons, List.flatMap_cons]
    by_cases hc : isUnescaped c = true
    · obtain ⟨hbyte, hne⟩ := encodeChar_of_isUnescaped hc
      rw [encodeComponentChar, if_pos hc, List.singleton_append, percentDecode_cons hne, ih,
        hbyte, List.singleton_append]
    · rw [encodeComponentChar, if_neg hc, percentDecode_flatMap, ih]

/-- The server reads back every well-formed name that the page has encoded into the path. -/
theorem unquote_encodeComponent {name : PyStr} (hname : ∀ c ∈ name, IsScalar c) :
    unquote (name.flatMap encodeComponentChar) = name := by
  rw [unquote, percentDecode_encodeComponent, PyStr.decodeReplace_flatMap hname]

/-- An ASCII character in front of a path is read as itself. -/
theorem unquote_cons {c : ℕ} (hascii : c < 0x80) (hne : c ≠ 37) (path : PyStr) :
    unquote (c :: path) = c :: unquote path := by
  unfold unquote PyStr.decodeReplace
  rw [percentDecode_cons hne, Utf8State.decode_lead _ (by omega)]
  simp [Utf8State.lead, hascii]

theorem unquote_wsBase (path : PyStr) : unquote (wsBase ++ path) = wsBase ++ unquote path := by
  have hsplit : ∀ rest : PyStr, wsBase ++ rest = 47 :: 119 :: 115 :: 47 :: rest := fun _ => rfl
  rw [hsplit, hsplit]
  iterate 4 rw [unquote_cons (by omega) (by omega)]

/-! ## Dot segments -/

/-- A dot segment is read as one or two dots. -/
theorem unquote_of_isSingleDot {segment : PyStr} (h : isSingleDot segment = true) :
    unquote segment = [46] := by
  have hall : ∀ s ∈ dotSpellings, unquote s = [46] := by decide
  exact hall segment (by simpa [isSingleDot] using h)

theorem unquote_of_isDoubleDot {segment : PyStr} (h : isDoubleDot segment = true) :
    unquote segment = [46, 46] := by
  have hall : ∀ s ∈ dotSpellings.flatMap (fun a => dotSpellings.map fun b => a ++ b),
      unquote s = [46, 46] := by decide
  exact hall segment (of_decide_eq_true h)

theorem segments_of_not_mem {path : PyStr} (h : ∀ c ∈ path, c ≠ 47 ∧ c ≠ 92) :
    segments path = [path] := by
  induction path with
  | nil => rfl
  | cons c rest ih =>
    have hc : ¬(c = 47 ∨ c = 92) := by
      have := h c (by simp)
      omega
    rw [segments, if_neg hc, ih fun d hd => h d (List.mem_cons_of_mem _ hd)]

/-- The query is no part of the path. -/
theorem takeWhile_target {path query : PyStr} (h : ∀ c ∈ path, c ≠ 63 ∧ c ≠ 35) :
    (path ++ 63 :: query).takeWhile (fun c => c ≠ 63 && c ≠ 35) = path := by
  induction path with
  | nil => rfl
  | cons c rest ih =>
    have hc := h c (by simp)
    rw [List.cons_append, List.takeWhile_cons_of_pos (by simp [hc]),
      ih fun d hd => h d (List.mem_cons_of_mem _ hd)]

/-- The path of a request for an encoded name. -/
theorem requestPath_target {encoded query : PyStr} (h : ∀ c ∈ encoded, InEncoding c) :
    requestPath (wsBase ++ encoded ++ 63 :: query) =
      if isDoubleDot encoded then [47]
      else if isSingleDot encoded then wsBase
      else wsBase ++ encoded := by
  have hpath : ∀ c ∈ wsBase ++ encoded, c ≠ 63 ∧ c ≠ 35 := by
    intro c hc
    rcases List.mem_append.mp hc with hbase | hencoded
    · have hall : ∀ d ∈ wsBase, d ≠ 63 ∧ d ≠ 35 := by decide
      exact hall c hbase
    · exact (h c hencoded).ne.2.2
  have hsegments : segments (wsBase ++ encoded).tail = [py ['w', 's'], encoded] := by
    have hone := segments_of_not_mem fun c hc => ⟨(h c hc).ne.1, (h c hc).ne.2.1⟩
    change segments (119 :: 115 :: 47 :: encoded) = _
    simp [segments, hone, py]
  unfold requestPath
  rw [takeWhile_target hpath, hsegments]
  have hws : isDoubleDot (py ['w', 's']) = false ∧ isSingleDot (py ['w', 's']) = false := by decide
  simp only [removeDots, hws.1, hws.2, Bool.false_eq_true, if_false, List.nil_append]
  split
  · rfl
  split
  · rfl
  · simp [wsBase, py]

/-! ## Which projects can be opened -/

/-- The encoding of a name of scalar values. -/
theorem encodeURIComponent_of_isScalar {name : PyStr} (hname : ∀ c ∈ name, IsScalar c) :
    encodeURIComponent name = some (name.flatMap encodeComponentChar) := by
  refine if_neg ?_
  simp only [PyStr.hasSurrogate, List.any_eq_true, not_exists, not_and, Bool.not_eq_true]
  exact fun c hc => (hname c hc).2

/-- The name that arrives, with its dot segments removed. -/
theorem openedName_eq {name : PyStr} (hname : ∀ c ∈ name, IsScalar c) (mode : Mode)
    (agent : Agent) :
    openedName name mode agent =
      if isDoubleDot (name.flatMap encodeComponentChar) ∨
          isSingleDot (name.flatMap encodeComponentChar) then none
      else routeName (wsBase ++ name) := by
  have hchars : ∀ c ∈ name.flatMap encodeComponentChar, InEncoding c := by
    intro c hc
    obtain ⟨d, -, hd⟩ := List.mem_flatMap.mp hc
    exact encodeComponentChar_inEncoding d c hd
  have hagent : ∃ encodedAgent, encodeURIComponent agent.name = some encodedAgent := by
    cases agent <;> exact ⟨_, rfl⟩
  obtain ⟨encodedAgent, hagent⟩ := hagent
  have htarget : ∃ query, connectTarget name mode agent =
      some (wsBase ++ name.flatMap encodeComponentChar ++ 63 :: query) := by
    refine ⟨py ['m', 'o', 'd', 'e', '='] ++ mode.name ++
      py ['&', 'a', 'g', 'e', 'n', 't', '='] ++ encodedAgent, ?_⟩
    simp [connectTarget, encodeURIComponent_of_isScalar hname, hagent, py]
  obtain ⟨query, htarget⟩ := htarget
  unfold openedName
  rw [htarget, Option.bind_some, requestPath_target hchars]
  by_cases hdouble : isDoubleDot (name.flatMap encodeComponentChar) = true
  · rw [if_pos hdouble, if_pos (.inl hdouble)]
    decide
  rw [if_neg hdouble]
  by_cases hsingle : isSingleDot (name.flatMap encodeComponentChar) = true
  · rw [if_pos hsingle, if_pos (.inr hsingle)]
    decide
  have hnone : ¬(isDoubleDot (name.flatMap encodeComponentChar) = true ∨
      isSingleDot (name.flatMap encodeComponentChar) = true) := not_or.mpr ⟨hdouble, hsingle⟩
  rw [if_neg hsingle, if_neg hnone, unquote_wsBase, unquote_encodeComponent hname]

/-- The route takes a name without a slash. -/
theorem routeName_wsBase (name : PyStr) :
    routeName (wsBase ++ name) = if name ≠ [] ∧ 47 ∉ name then some name else none := by
  have hbase : wsBase.isPrefixOf (wsBase ++ name) = true := by
    rw [List.isPrefixOf_iff_prefix]
    exact List.prefix_append _ _
  have hdrop : (wsBase ++ name).drop wsBase.length = name := List.drop_left
  unfold routeName
  simp only [hbase, hdrop, true_and]

/-- The dot segments are the encodings of the names of one and of two dots. -/
theorem isDot_encodeComponent {name : PyStr} (hname : ∀ c ∈ name, IsScalar c) :
    (isDoubleDot (name.flatMap encodeComponentChar) = true ∨
        isSingleDot (name.flatMap encodeComponentChar) = true) ↔
      name = py ['.'] ∨ name = py ['.', '.'] := by
  have hback := unquote_encodeComponent hname
  constructor
  · rintro (hdouble | hsingle)
    · right
      rw [← hback, unquote_of_isDoubleDot hdouble]
      rfl
    · left
      rw [← hback, unquote_of_isSingleDot hsingle]
      rfl
  · rintro (rfl | rfl)
    · right
      decide
    · left
      decide

/-- A name arrives if and only if it has no slash and is neither one dot nor two. -/
theorem openedName_eq_self_iff {name : PyStr} (hne : name ≠ []) (hname : ∀ c ∈ name, IsScalar c)
    (mode : Mode) (agent : Agent) :
    openedName name mode agent = some name ↔
      47 ∉ name ∧ name ≠ py ['.'] ∧ name ≠ py ['.', '.'] := by
  rw [openedName_eq hname, routeName_wsBase]
  by_cases hdots : name = py ['.'] ∨ name = py ['.', '.']
  · rw [if_pos ((isDot_encodeComponent hname).mpr hdots)]
    constructor
    · intro h
      cases h
    · rintro ⟨-, hone, htwo⟩
      rcases hdots with hdots | hdots
      · exact absurd hdots hone
      · exact absurd hdots htwo
  · rw [if_neg (mt (isDot_encodeComponent hname).mp hdots)]
    obtain ⟨hone, htwo⟩ := not_or.mp hdots
    by_cases hslash : 47 ∈ name
    · simp [hslash]
    · simp [hslash, hne, hone, htwo]

/-- A project of an accepted configuration is opened under its own name if and only if the name
has no slash and is neither one dot nor two. -/
theorem project_opens_iff {env : LoadEnv} {raw : Json} {config : Config} {project : Project}
    (hload : loadConfig env raw = .ok config) (hproject : project ∈ config.projects)
    (hname : ∀ c ∈ project.name, IsScalar c) (mode : Mode) (agent : Agent) :
    (openedName project.name mode agent = some project.name ∧
        config.findProject project.name = some project) ↔
      47 ∉ project.name ∧ project.name ≠ py ['.'] ∧ project.name ≠ py ['.', '.'] := by
  rw [openedName_eq_self_iff (loadConfig_name_ne_nil hload hproject) hname]
  exact and_iff_left (loadConfig_findProject hload hproject)

/-- A system without directories, on which only the usual address is loopback. -/
def plainEnv : LoadEnv where
  hashValid := fun _ => false
  acceptsNetloc := fun _ => true
  isLoopbackAddress := fun host => host = py "127.0.0.1".toList
  resolve := some
  isDir := fun _ => false

/-- A configuration with one remote project. -/
def remoteConfig (name : PyStr) : Json :=
  .obj [(py "projects".toList, .arr [.obj [(py "name".toList, .str name),
    (py "path".toList, .str (py "/srv".toList)), (py "ssh".toList, .str (py "u@h".toList))]])]

/-- The remote project of that configuration. -/
def remoteProject (name : PyStr) : Project :=
  { name := name, path := py "/srv".toList, ssh := some (py "u@h".toList) }

/-- A name with a percent sign and a blank arrives. -/
theorem project_opens_iff_percent :
    (openedName (py "50% b".toList) .attach .claude = some (py "50% b".toList) ∧
        Config.findProject { projects := [remoteProject (py "50% b".toList)] }
          (py "50% b".toList) = some (remoteProject (py "50% b".toList))) ↔
      47 ∉ py "50% b".toList ∧ py "50% b".toList ≠ py ['.'] ∧
        py "50% b".toList ≠ py ['.', '.'] := by
  have hload : loadConfig plainEnv (remoteConfig (py "50% b".toList)) =
      .ok { projects := [remoteProject (py "50% b".toList)] } := rfl
  exact project_opens_iff hload (List.mem_singleton_self _) (by decide) .attach .claude

/-- A project with a slash in its name is accepted, and nothing opens it. -/
theorem project_with_slash_not_opened :
    ∃ config, loadConfig plainEnv (remoteConfig (py "team/app".toList)) = .ok config ∧
      remoteProject (py "team/app".toList) ∈ config.projects ∧
      (∀ c ∈ py "team/app".toList, IsScalar c) ∧
      ∀ mode agent, openedName (py "team/app".toList) mode agent = none := by
  refine ⟨_, rfl, by decide, by decide, ?_⟩
  intro mode agent
  cases mode <;> cases agent <;> decide

end WTerm
