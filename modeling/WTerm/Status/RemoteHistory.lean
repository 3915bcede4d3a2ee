import WTerm.Manager.World
import WTerm.Python.Shlex
import WTerm.Status.CodexScan
import WTerm.Web.JsonFind

/-!
# The remote history check

On a remote host `remote_has_history` cannot read the session files as JSON: `grep` looks in them
for the text that a directory has as a member of an object. Where the files are written without
blanks, it finds the directory if some object of them has it as its `cwd`, and hardly anything else.
-/

namespace WTerm

open Json Shell

/-- `json.dumps` with `ensure_ascii=False` and `separators=(",", ":")`. -/
def compactStyle : JsonStyle where
  gap := []
  gap_blank _ hc := absurd hc List.not_mem_nil
  escapes _ := false

/-- `munge_cwd`. -/
def mungeCwd (cwd : PyStr) : PyStr :=
  cwd.map fun c => if PyStr.isAsciiAlpha c || PyStr.isAsciiDigit c then c else 45

/-- The text that is looked for: an object with the directory alone, without its braces. -/
def historyNeedle (cwd : PyStr) : PyStr :=
  ((write compactStyle (.obj [(cwdKey, .str cwd)])).drop 1).dropLast

/-- The command for Codex, in front of the text and behind it. -/
def codexCheckParts : PyStr × PyStr :=
  (py "[ -d ~/.codex/sessions ] || exit 1; grep -rlF -m1 -- ".toList,
    py " ~/.codex/sessions >/dev/null 2>&1".toList)

/-- The command that the remote shell runs. -/
def checkCommand (agent : Agent) (cwd : PyStr) : PyStr :=
  if agent = .codex then
    codexCheckParts.1 ++ shlexQuote (historyNeedle cwd) ++ codexCheckParts.2
  else
    py "set -- ~/.claude/projects/".toList ++ mungeCwd cwd ++ py "/*.jsonl; [ -e \"$1\" ]".toList

/-- A file under the remote directory of sessions. -/
inductive RemoteFile where
  /-- Its lines, without their line feeds. -/
  | readable (lines : List PyStr)
  | unreadable
  deriving DecidableEq

/-- What there is of `~/.codex/sessions` on a remote host. -/
structure RemoteSessions where
  isDir : Bool
  files : List RemoteFile

/-- What `remote_has_history` makes of the exit status. -/
def historyState (returncode : ℤ) : HistoryState :=
  if returncode = 0 then .present else if returncode = 1 then .absent else .error

/-- The history check of Codex on a remote host. `run` is the exit status that `ssh` has for a
command. -/
def remoteCodexHistory (run : PyStr → RemoteSessions → ℤ) (cwd : PyStr)
    (sessions : RemoteSessions) : HistoryState :=
  historyState (run (checkCommand .codex cwd) sessions)

/-- Some line of a file contains a line of the pattern. -/
def RemoteSessions.Contains (sessions : RemoteSessions) (pattern : PyStr) : Prop :=
  ∃ lines line part, .readable lines ∈ sessions.files ∧ line ∈ lines ∧
    part ∈ pattern.splitOn 10 ∧ part <:+: line

/-- A text that can be an argument of a program. -/
def IsArgument (text : PyStr) : Prop := ∀ c ∈ text, c ≠ 0 ∧ IsScalar c

/-- What the shell and the `grep` of a remote host are documented to do with the command, whatever
word it has as the pattern. Where a file cannot be read, nothing is said of the exit status. -/
structure Greps (run : PyStr → RemoteSessions → ℤ) : Prop where
  /-- `[ -d ~/.codex/sessions ] || exit 1`. -/
  noDir : ∀ word pattern sessions, Spells word pattern → IsArgument pattern →
    sessions.isDir = false → run (codexCheckParts.1 ++ word ++ codexCheckParts.2) sessions = 1
  /-- `grep -F` exits with 0 if a line is selected. -/
  selects : ∀ word pattern sessions, Spells word pattern → IsArgument pattern →
    sessions.isDir = true → .unreadable ∉ sessions.files → sessions.Contains pattern →
      run (codexCheckParts.1 ++ word ++ codexCheckParts.2) sessions = 0
  /-- It exits with 1 if no line is selected. -/
  selectsNone : ∀ word pattern sessions, Spells word pattern → IsArgument pattern →
    sessions.isDir = true → .unreadable ∉ sessions.files → ¬sessions.Contains pattern →
      run (codexCheckParts.1 ++ word ++ codexCheckParts.2) sessions = 1

/-- Every line of a file is a JSON value as `json.dumps` writes it with `ensure_ascii=False` and
without blanks. Such a line has one spelling for each string, so that one with `\/` or with a
needless `\u` escape is none. -/
def RemoteFile.Compact : RemoteFile → Prop
  | .readable lines => ∀ line ∈ lines, ∃ v, Written v ∧ line = write compactStyle v
  | .unreadable => False

/-! ## The text that is looked for -/

section

variable {run : PyStr → RemoteSessions → ℤ} {cwd : PyStr} {sessions : RemoteSessions}

/-- The text is that of a member. -/
theorem historyNeedle_eq (cwd : PyStr) :
    historyNeedle cwd = memberText compactStyle cwdKey cwd := by
  have htext : write compactStyle (.obj [(cwdKey, .str cwd)]) =
      123 :: (memberText compactStyle cwdKey cwd ++ [125]) := by
    simp [write, writeMembers, writeMore, writeMember, memberText, compactStyle]
  rw [historyNeedle, htext, List.drop_one, List.tail_cons, List.dropLast_concat]

/-- The key `cwd` needs no escape, so that it is written as it is. -/
theorem plain_cwdKey : Plain compactStyle cwdKey where
  written := by decide
  utf16 := ⟨by decide, by decide⟩
  head := ⟨99, [119, 100], rfl, by decide⟩

/-- A string is written in characters that are no control characters. -/
theorem writeChars_printable {s : PyStr} (hs : ∀ c ∈ s, IsScalar c) :
    ∀ d ∈ writeChars compactStyle s, 32 ≤ d ∧ IsScalar d := by
  intro d hd
  obtain ⟨c, hc, hd⟩ := List.mem_flatMap.mp hd
  have hascii (hsmall : 32 ≤ d ∧ d < 0x80) : 32 ≤ d ∧ IsScalar d :=
    ⟨hsmall.1, isScalar_of_lt hsmall.2⟩
  cases hletter : escapeLetter c with
  | some letter =>
    simp only [writeChar, hletter, List.mem_cons, List.not_mem_nil, or_false] at hd
    rcases hd with rfl | rfl
    · exact hascii (by decide)
    · exact hascii (escapeLetter_ascii hletter)
  | none =>
    simp only [writeChar, hletter] at hd
    split_ifs at hd with hescape hsmall
    · exact hascii (uEscape_ascii c d hd)
    · rcases List.mem_append.mp hd with hd | hd
      · exact hascii (uEscape_ascii _ d hd)
      · exact hascii (uEscape_ascii _ d hd)
    · obtain rfl := List.mem_singleton.mp hd
      have hprintable : ¬d < 32 := fun hcontrol => hescape (Or.inl hcontrol)
      exact ⟨by omega, hs d hc⟩

/-- The text that grep looks for has no control characters and no surrogates. -/
theorem historyNeedle_printable (hcwd : ∀ c ∈ cwd, IsScalar c) :
    ∀ d ∈ historyNeedle cwd, 32 ≤ d ∧ IsScalar d := by
  have hstring {s : PyStr} (hs : ∀ c ∈ s, IsScalar c) :
      ∀ d ∈ writeString compactStyle s, 32 ≤ d ∧ IsScalar d := by
    intro d hd
    simp only [writeString, List.mem_cons, List.mem_append, List.not_mem_nil, or_false] at hd
    rcases hd with rfl | hd | rfl
    · decide
    · exact writeChars_printable hs d hd
    · decide
  intro d hd
  rw [historyNeedle_eq, memberText, List.mem_append, List.mem_cons] at hd
  rcases hd with hd | rfl | hd
  · exact hstring (by decide) d hd
  · decide
  · exact hstring hcwd d hd

/-- The text can be an argument of `grep`. -/
theorem historyNeedle_argument (hcwd : ∀ c ∈ cwd, IsScalar c) : IsArgument (historyNeedle cwd) := by
  intro c hc
  obtain ⟨hprintable, hscalar⟩ := historyNeedle_printable hcwd c hc
  exact ⟨by omega, hscalar⟩

/-- The text is one line, so that `grep` takes it as one pattern. -/
theorem historyNeedle_splitOn (hcwd : ∀ c ∈ cwd, IsScalar c) :
    (historyNeedle cwd).splitOn 10 = [historyNeedle cwd] := by
  rw [List.splitOn_eq_splitOnP]
  refine List.splitOnP_eq_singleton fun c hc => ?_
  have hprintable := (historyNeedle_printable hcwd c hc).1
  have hne : c ≠ 10 := by omega
  simpa using hne

/-- A file is selected if one of its lines contains the text. -/
theorem contains_historyNeedle (hcwd : ∀ c ∈ cwd, IsScalar c) :
    sessions.Contains (historyNeedle cwd) ↔
      ∃ lines line, .readable lines ∈ sessions.files ∧ line ∈ lines ∧
        memberText compactStyle cwdKey cwd <:+: line := by
  unfold RemoteSessions.Contains
  rw [historyNeedle_splitOn hcwd, historyNeedle_eq]
  simp

/-- The command has the text as one word between two fixed parts. -/
theorem checkCommand_codex (cwd : PyStr) : checkCommand .codex cwd =
    codexCheckParts.1 ++ shlexQuote (historyNeedle cwd) ++ codexCheckParts.2 := if_pos rfl

/-! ## The check -/

/-- Without the directory there is no history. -/
theorem remoteCodexHistory_noDir (hrun : Greps run) (hcwd : ∀ c ∈ cwd, IsScalar c)
    (hdir : sessions.isDir = false) : remoteCodexHistory run cwd sessions = .absent := by
  have hstatus := hrun.noDir _ _ sessions (spells_shlexQuote (historyNeedle cwd))
    (historyNeedle_argument hcwd) hdir
  rw [remoteCodexHistory, checkCommand_codex, hstatus]
  rfl

/-- If all files can be read, the check says whether a line contains the text. -/
theorem remoteCodexHistory_contains (hrun : Greps run) (hcwd : ∀ c ∈ cwd, IsScalar c)
    (hdir : sessions.isDir = true) (hreadable : .unreadable ∉ sessions.files) :
    (sessions.Contains (historyNeedle cwd) → remoteCodexHistory run cwd sessions = .present) ∧
      (¬sessions.Contains (historyNeedle cwd) → remoteCodexHistory run cwd sessions = .absent) := by
  have hword := spells_shlexQuote (historyNeedle cwd)
  have hargument := historyNeedle_argument hcwd
  rw [remoteCodexHistory, checkCommand_codex]
  constructor
  · intro hcontains
    rw [hrun.selects _ _ sessions hword hargument hdir hreadable hcontains]
    rfl
  · intro hcontains
    rw [hrun.selectsNone _ _ sessions hword hargument hdir hreadable hcontains]
    rfl

/-- What the search of `dict.get` ends with was there, or is a member. -/
theorem mem_of_foldl_get {members : List (PyStr × Json)} {key : PyStr}
    {found : Option Json} {v : Json}
    (h : members.foldl (fun found m => if m.1 = key then some m.2 else found) found = some v) :
    found = some v ∨ (key, v) ∈ members := by
  induction members generalizing found with
  | nil => exact .inl h
  | cons m rest ih =>
    rcases ih h with hfirst | hrest
    · dsimp only at hfirst
      split at hfirst
      · next hkey =>
        refine .inr (List.mem_cons.mpr (.inl ?_))
        rw [← hkey, ← Option.some.inj hfirst]
      · exact .inl hfirst
    · exact .inr (List.mem_cons_of_mem m hrest)

/-- What `dict.get` finds is a member. -/
theorem mem_of_get {members : List (PyStr × Json)} {key : PyStr} {v : Json}
    (h : get members key = some v) : (key, v) ∈ members := by
  rcases mem_of_foldl_get h with hnone | hmem
  · cases hnone
  · exact hmem

/-- A value that names a directory as the metadata of a session has it as the `cwd` of an object. -/
theorem hasMember_of_metaCwd {v : Json} (h : metaCwd v = some cwd) : HasMember cwdKey cwd v := by
  obtain ⟨members, payload, rfl, -, hpayload, hcwd⟩ := metaCwd_eq_some_iff.mp h
  exact ⟨payload, cwdKey, .value (mem_of_get hpayload) .self, mem_of_get hcwd, .inl rfl⟩

/-- A value that can be read back is written with strings that UTF-16 can hold. -/
theorem Json.Writable.written {depth : ℕ} {v : Json} (h : Writable depth v) : Written v := by
  induction h with
  | null => exact .null
  | bool b => exact .bool b
  | int _ => exact .int _
  | str hs => exact .str hs
  | arr _ ih => exact .arr ih
  | obj hkeys _ ih => exact .obj hkeys ih

/-- Where all lines are written without blanks, the text is in those with such a member. -/
theorem contains_iff_hasMember (hcwd : ∀ c ∈ cwd, IsScalar c)
    (hfiles : ∀ file ∈ sessions.files, file.Compact) :
    sessions.Contains (historyNeedle cwd) ↔
      ∃ lines v, .readable lines ∈ sessions.files ∧ write compactStyle v ∈ lines ∧ Written v ∧
        HasMember cwdKey cwd v := by
  have hutf16 := isUtf16_of_scalar hcwd
  rw [contains_historyNeedle hcwd]
  constructor
  · rintro ⟨lines, line, hfile, hline, hinfix⟩
    obtain ⟨v, hv, rfl⟩ := hfiles _ hfile line hline
    exact ⟨lines, v, hfile, hline, hv, (memberText_found_iff rfl plain_cwdKey hutf16 hv).mp hinfix⟩
  · rintro ⟨lines, v, hfile, hline, hv, hmember⟩
    exact ⟨lines, _, hfile, hline,
      (memberText_found_iff rfl plain_cwdKey hutf16 hv).mpr hmember⟩

/-- The command of the check has one word that depends on the directory, and a shell reads it as the
text that the directory has as the member `cwd` of an object. With a shell and a `grep` that do what
they are documented to do, where the session files can be read and are written without blanks, the
check says that there is a history if an object in a line has such a member, or one whose key ends
with `cwd` after a quote, and otherwise that there is none. In particular it misses nothing that the
local scan finds in the first line of such a file, with its line feed or without. -/
theorem remoteCodexHistory_exact (hrun : Greps run) (hcwd : ∀ c ∈ cwd, IsScalar c)
    (hfiles : ∀ file ∈ sessions.files, file.Compact) :
    (∃ word, checkCommand .codex cwd = codexCheckParts.1 ++ word ++ codexCheckParts.2 ∧
      Spells word (memberText compactStyle cwdKey cwd)) ∧
    (remoteCodexHistory run cwd sessions = .present ↔
      sessions.isDir = true ∧ ∃ lines v, .readable lines ∈ sessions.files ∧
        write compactStyle v ∈ lines ∧ Written v ∧ HasMember cwdKey cwd v) ∧
    remoteCodexHistory run cwd sessions ≠ .error ∧
    ∀ d depth v rest, Writable d v → d ≤ depth → sessions.isDir = true →
      .readable (write compactStyle v :: rest) ∈ sessions.files →
      (RecordsCwd depth (.text (write compactStyle v)) cwd ∨
        RecordsCwd depth (.text (write compactStyle v ++ [10])) cwd) →
      remoteCodexHistory run cwd sessions = .present := by
  have hreadable : .unreadable ∉ sessions.files := fun hmem => hfiles _ hmem
  have hmember := contains_iff_hasMember hcwd hfiles
  -- The answer is one of two, and which one is said by the lines.
  have hanswer : (remoteCodexHistory run cwd sessions = .present ∧ sessions.isDir = true ∧
      sessions.Contains (historyNeedle cwd)) ∨
      (remoteCodexHistory run cwd sessions = .absent ∧
        ¬(sessions.isDir = true ∧ sessions.Contains (historyNeedle cwd))) := by
    cases hdir : sessions.isDir with
    | false => exact .inr ⟨remoteCodexHistory_noDir hrun hcwd hdir, by simp⟩
    | true =>
      obtain ⟨hpresent, habsent⟩ := remoteCodexHistory_contains hrun hcwd hdir hreadable
      by_cases hcontains : sessions.Contains (historyNeedle cwd)
      · exact .inl ⟨hpresent hcontains, rfl, hcontains⟩
      · exact .inr ⟨habsent hcontains, fun hboth => hcontains hboth.2⟩
  have hpresent : remoteCodexHistory run cwd sessions = .present ↔
      sessions.isDir = true ∧ sessions.Contains (historyNeedle cwd) := by
    rcases hanswer with ⟨hstate, hboth⟩ | ⟨hstate, hnot⟩
    · exact iff_of_true hstate hboth
    · rw [hstate]
      exact iff_of_false (fun h => by cases h) hnot
  refine ⟨⟨_, checkCommand_codex cwd, ?_⟩, hpresent.trans (and_congr_right fun _ => hmember), ?_,
    fun d depth v rest hv hd hdir hfile hrecords => ?_⟩
  · rw [← historyNeedle_eq]
    exact spells_shlexQuote _
  · rcases hanswer with ⟨hstate, -⟩ | ⟨hstate, -⟩ <;>
    · rw [hstate]
      exact fun herror => by cases herror
  · have hloads : ∀ line, Json.loads depth line = .ok v → RecordsCwd depth (.text line) cwd →
        metaCwd v = some cwd := by
      intro line hline hrecords
      obtain ⟨value, hvalue, hmeta⟩ := recordsCwd_iff.mp hrecords
      obtain rfl := Except.ok.inj (hline.symm.trans hvalue)
      exact hmeta
    have hfeed : Ends [10] := fun c hc => .inl (Option.some.inj hc).symm
    have hmeta : metaCwd v = some cwd := by
      rcases hrecords with hrecords | hrecords
      · exact hloads _ (loads_write compactStyle hv hd) hrecords
      · exact hloads _ (loads_write_append compactStyle hv hd hfeed rfl) hrecords
    exact hpresent.mpr ⟨hdir, hmember.mpr
      ⟨_, v, hfile, List.mem_cons_self, hv.written, hasMember_of_metaCwd hmeta⟩⟩

/-! ### A host -/

/-- A line of the file contains a line of the pattern. -/
def RemoteFile.selected (pattern : PyStr) : RemoteFile → Bool
  | .readable lines => lines.any fun line =>
    (pattern.splitOn 10).any fun part => decide (part <:+: line)
  | .unreadable => false

/-- A text without what stands in front and behind. -/
def within (front behind text : PyStr) : PyStr :=
  (text.drop front.length).take (text.length - front.length - behind.length)

theorem within_append (front behind text : PyStr) :
    within front behind (front ++ text ++ behind) = text := by
  have hlength : (front ++ text ++ behind).length - front.length - behind.length = text.length := by
    simp only [List.length_append]
    omega
  rw [within, hlength, List.append_assoc, List.drop_left, List.take_left]

/-- The exit status of `grep` for a pattern, behind the check of the directory. -/
def grepStatus (pattern : PyStr) (sessions : RemoteSessions) : ℤ :=
  if sessions.isDir then
    if .unreadable ∈ sessions.files then 2
    else if sessions.files.any (RemoteFile.selected pattern) then 0 else 1
  else 1

/-- The exit status of a host that takes the word out of a command and looks for it. -/
def hostStatus (front behind command : PyStr) (sessions : RemoteSessions) : ℤ :=
  match tokens (within front behind command) with
  | some [.word pattern] => grepStatus pattern sessions
  | _ => 2

theorem hostStatus_append (front behind : PyStr) {word pattern : PyStr}
    (hword : Spells word pattern)
    (sessions : RemoteSessions) :
    hostStatus front behind (front ++ word ++ behind) sessions = grepStatus pattern sessions := by
  rw [hostStatus, within_append, hword.tokens]

/-- A host that knows the command of the check. -/
def exampleHost : PyStr → RemoteSessions → ℤ := hostStatus codexCheckParts.1 codexCheckParts.2

/-- The example's host answers as the shell and grep are documented. -/
theorem exampleHost_greps : Greps exampleHost := by
  have hstatus {word pattern : PyStr} (hword : Spells word pattern) (sessions : RemoteSessions) :
      exampleHost (codexCheckParts.1 ++ word ++ codexCheckParts.2) sessions =
        grepStatus pattern sessions :=
    hostStatus_append codexCheckParts.1 codexCheckParts.2 hword sessions
  have hcontains (pattern : PyStr) (sessions : RemoteSessions) :
      sessions.files.any (RemoteFile.selected pattern) = true ↔ sessions.Contains pattern := by
    simp only [RemoteSessions.Contains, List.any_eq_true]
    constructor
    · rintro ⟨file, hfile, hselected⟩
      cases file with
      | unreadable => cases hselected
      | readable lines =>
        obtain ⟨line, hline, hpart⟩ := List.any_eq_true.mp hselected
        obtain ⟨part, hmem, hinfix⟩ := List.any_eq_true.mp hpart
        exact ⟨lines, line, part, hfile, hline, hmem, of_decide_eq_true hinfix⟩
    · rintro ⟨lines, line, part, hfile, hline, hmem, hinfix⟩
      exact ⟨_, hfile, List.any_eq_true.mpr ⟨line, hline,
        List.any_eq_true.mpr ⟨part, hmem, decide_eq_true hinfix⟩⟩⟩
  refine ⟨fun word pattern sessions hword _ hdir => ?_,
    fun word pattern sessions hword _ hdir hreadable hmem => ?_,
    fun word pattern sessions hword _ hdir hreadable hmem => ?_⟩
  · rw [hstatus hword, grepStatus, if_neg (by simp [hdir])]
  · rw [hstatus hword, grepStatus, if_pos hdir, if_neg hreadable,
      if_pos ((hcontains pattern sessions).mpr hmem)]
  · rw [hstatus hword, grepStatus, if_pos hdir, if_neg hreadable,
      if_neg (mt (hcontains pattern sessions).mp hmem)]

/-- The metadata of a session in a directory with a quote in its name. -/
def quotedSession : Json := .obj [(typeKey, .str sessionMeta),
  (payloadKey, .obj [(cwdKey, .str [47, 34]), (typeKey, .null)])]

/-- A host with one session file, that has the metadata alone. -/
def quotedSessions : RemoteSessions := ⟨true, [.readable [write compactStyle quotedSession]]⟩

/-- The hypotheses hold of the host, and the session is found. -/
theorem remoteCodexHistory_exact_quoted :
    (∃ word, checkCommand .codex [47, 34] = codexCheckParts.1 ++ word ++ codexCheckParts.2 ∧
      Spells word (memberText compactStyle cwdKey [47, 34])) ∧
    (remoteCodexHistory exampleHost [47, 34] quotedSessions = .present ↔
      quotedSessions.isDir = true ∧ ∃ lines v, .readable lines ∈ quotedSessions.files ∧
        write compactStyle v ∈ lines ∧ Written v ∧ HasMember cwdKey [47, 34] v) ∧
    remoteCodexHistory exampleHost [47, 34] quotedSessions ≠ .error ∧
    ∀ d depth v rest, Writable d v → d ≤ depth → quotedSessions.isDir = true →
      .readable (write compactStyle v :: rest) ∈ quotedSessions.files →
      (RecordsCwd depth (.text (write compactStyle v)) [47, 34] ∨
        RecordsCwd depth (.text (write compactStyle v ++ [10])) [47, 34]) →
      remoteCodexHistory exampleHost [47, 34] quotedSessions = .present := by
  have hutf16 : ∀ s ∈ [typeKey, payloadKey, cwdKey, sessionMeta, [47, 34]], IsUtf16 s :=
    fun s hs => isUtf16_of_scalar ((by decide : ∀ s ∈ [typeKey, payloadKey, cwdKey, sessionMeta,
      [47, 34]], ∀ c ∈ s, IsScalar c) s hs)
  have hwritten : Written quotedSession := by
    refine .obj ?_ ?_
    · simp [hutf16]
    · intro m hm
      rcases List.mem_cons.mp hm with rfl | hm
      · exact .str (hutf16 _ (by simp))
      · obtain rfl := List.mem_singleton.mp hm
        refine .obj (by simp [hutf16]) fun u hu => ?_
        rcases List.mem_cons.mp hu with rfl | hu
        · exact .str (hutf16 _ (by simp))
        · obtain rfl := List.mem_singleton.mp hu
          exact .null
  refine remoteCodexHistory_exact exampleHost_greps (by decide) fun file hfile => ?_
  obtain rfl := List.mem_singleton.mp hfile
  intro line hline
  exact ⟨quotedSession, hwritten, List.mem_singleton.mp hline⟩

/-- It is found. -/
example : remoteCodexHistory exampleHost [47, 34] quotedSessions = .present := by decide

end

end WTerm
