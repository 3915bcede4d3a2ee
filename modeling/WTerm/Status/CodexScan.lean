import Mathlib.Data.Finset.Insert
import WTerm.Python.JsonScan

/-!
# The scan of the Codex sessions

`_scan_codex_cwds` reads the first line of every session file and collects the directories of
the sessions. The loop skips a file on three exceptions. `json.loads` has two more, and one
file that raises them ends the scan of all.
-/

namespace WTerm

open Json

/-- What opening a session file and reading its first line comes to. -/
inductive FirstLine where
  /-- The line, with its line feed if it has one. -/
  | text (line : PyStr)
  /-- The file cannot be opened or read. -/
  | osError
  /-- The line is no UTF-8. -/
  | unicodeDecodeError
  deriving DecidableEq

/-- `"type"`. -/
def typeKey : PyStr := py ['t', 'y', 'p', 'e']

/-- `"session_meta"`. -/
def sessionMeta : PyStr := py ['s', 'e', 's', 's', 'i', 'o', 'n', '_', 'm', 'e', 't', 'a']

/-- `"payload"`. -/
def payloadKey : PyStr := py ['p', 'a', 'y', 'l', 'o', 'a', 'd']

/-- `"cwd"`. -/
def cwdKey : PyStr := py ['c', 'w', 'd']

/-- `json.loads(f.readline())`, with `depth` levels of recursion left. -/
def FirstLine.loads (depth : ℕ) : FirstLine → Except PyException Json
  | .text line => Json.loads depth line
  | .osError => .error .osError
  | .unicodeDecodeError => .error .unicodeDecodeError

/-- The `except` clause of the loop. -/
def scanCatches : PyException → Bool
  | .osError | .jsonDecodeError | .unicodeDecodeError => true
  | _ => false

/-- `meta.get("type") == "session_meta"`. -/
def isSessionMeta (members : List (PyStr × Json)) : Bool :=
  match get members typeKey with
  | some (.str kind) => kind = sessionMeta
  | _ => false

/-- The directory that the metadata of a session names, behind the checks of the loop. -/
def metaCwd : Json → Option PyStr
  | .obj members =>
    if isSessionMeta members then
      match get members payloadKey with
      | some (.obj payload) =>
        match get payload cwdKey with
        | some (.str cwd) => some cwd
        | _ => none
      | _ => none
    else none
  | _ => none

/-- `cwds.add`, if there is a directory. -/
def addCwd (cwds : Finset PyStr) : Option PyStr → Finset PyStr
  | some cwd => insert cwd cwds
  | none => cwds

/-- The loop of `_scan_codex_cwds`. -/
def scanFiles (depth : ℕ) : Finset PyStr → List FirstLine → Except PyException (Finset PyStr)
  | cwds, [] => .ok cwds
  | cwds, file :: rest =>
    match file.loads depth with
    | .error e => if scanCatches e then scanFiles depth cwds rest else .error e
    | .ok value => scanFiles depth (addCwd cwds (metaCwd value)) rest

/-- `_scan_codex_cwds`, for the files in the order of `rglob`; there are none without the
directory. -/
def scanCodexCwds (depth : ℕ) (isDir : Bool) (files : List FirstLine) :
    Except PyException (Finset PyStr) :=
  if isDir then scanFiles depth ∅ files else .ok ∅

/-- The first line of a file is the metadata of a session in a directory. -/
def RecordsCwd (depth : ℕ) (file : FirstLine) (cwd : PyStr) : Prop :=
  ∃ line members payload, file = .text line ∧ Json.loads depth line = .ok (.obj members) ∧
    get members typeKey = some (.str sessionMeta) ∧
    get members payloadKey = some (.obj payload) ∧ get payload cwdKey = some (.str cwd)

/-- The scan returns the directories of the session files, and every other file could as well
be missing. -/
structure ScanExact (depth : ℕ) (files : List FirstLine) : Prop where
  returns : ∃ cwds, scanCodexCwds depth true files = .ok cwds ∧
    ∀ cwd, cwd ∈ cwds ↔ ∃ file ∈ files, RecordsCwd depth file cwd
  ignores : ∀ before file after, files = before ++ file :: after →
    (∀ cwd, ¬RecordsCwd depth file cwd) →
    scanCodexCwds depth true files = scanCodexCwds depth true (before ++ after)

/-- A line on which `json.loads` raises what the loop does not catch. -/
def EscapesScan (depth : ℕ) (file : FirstLine) : Prop :=
  ∃ line, file = .text line ∧
    (Json.loads depth line = .error .valueError ∨
      Json.loads depth line = .error .recursionError)

/-! ## One file -/

/-- The checks of the loop, as a condition on the metadata. -/
theorem metaCwd_eq_some_iff {value : Json} {cwd : PyStr} :
    metaCwd value = some cwd ↔ ∃ members payload, value = .obj members ∧
      get members typeKey = some (.str sessionMeta) ∧
      get members payloadKey = some (.obj payload) ∧ get payload cwdKey = some (.str cwd) := by
  have hkind : ∀ members, isSessionMeta members = true ↔
      get members typeKey = some (.str sessionMeta) := by
    intro members
    unfold isSessionMeta
    split
    · next kind h => simp [h]
    · next h =>
      simp only [Bool.false_eq_true, false_iff]
      exact h sessionMeta
  constructor
  · intro h
    unfold metaCwd at h
    split at h
    · next members =>
      split at h
      · next htype =>
        split at h
        · next payload hpayload =>
          split at h
          · next hcwd =>
            cases h
            exact ⟨members, payload, rfl, (hkind members).mp htype, hpayload, hcwd⟩
          · cases h
        · cases h
      · cases h
    · cases h
  · rintro ⟨members, payload, rfl, htype, hpayload, hcwd⟩
    simp [metaCwd, (hkind members).mpr htype, hpayload, hcwd]

/-- A file records a directory when its line loads and names one. -/
theorem recordsCwd_iff {depth : ℕ} {file : FirstLine} {cwd : PyStr} :
    RecordsCwd depth file cwd ↔ ∃ value, file.loads depth = .ok value ∧
      metaCwd value = some cwd := by
  constructor
  · rintro ⟨line, members, payload, rfl, hloads, htype, hpayload, hcwd⟩
    exact ⟨.obj members, hloads, metaCwd_eq_some_iff.mpr ⟨_, _, rfl, htype, hpayload, hcwd⟩⟩
  · rintro ⟨value, hloads, hvalue⟩
    obtain ⟨members, payload, rfl, htype, hpayload, hcwd⟩ := metaCwd_eq_some_iff.mp hvalue
    cases file with
    | text line => exact ⟨line, members, payload, rfl, hloads, htype, hpayload, hcwd⟩
    | osError | unicodeDecodeError => cases hloads

/-- The loop lets an exception of a file through exactly when it is one of the two that it does
not name. -/
theorem escapesScan_iff {depth : ℕ} {file : FirstLine} :
    EscapesScan depth file ↔ ∃ e, file.loads depth = .error e ∧ scanCatches e = false := by
  constructor
  · rintro ⟨line, rfl, h | h⟩
    · exact ⟨.valueError, h, rfl⟩
    · exact ⟨.recursionError, h, rfl⟩
  · rintro ⟨e, hloads, hcatches⟩
    cases file with
    | text line =>
      rcases loads_error hloads with rfl | rfl | ⟨rfl, -⟩
      · cases hcatches
      · exact ⟨line, rfl, Or.inr hloads⟩
      · exact ⟨line, rfl, Or.inl hloads⟩
    | osError | unicodeDecodeError =>
      cases hloads
      cases hcatches

/-- A file that raises nothing else leaves the loop with what it records. -/
theorem scanFiles_cons {depth : ℕ} {file : FirstLine} (h : ¬EscapesScan depth file)
    (cwds : Finset PyStr) (rest : List FirstLine) :
    ∃ found : Option PyStr, (∀ cwd, found = some cwd ↔ RecordsCwd depth file cwd) ∧
      scanFiles depth cwds (file :: rest) = scanFiles depth (addCwd cwds found) rest := by
  cases hloads : file.loads depth with
  | ok value =>
    refine ⟨metaCwd value, fun cwd => ?_, by rw [scanFiles, hloads]⟩
    simp [recordsCwd_iff, hloads]
  | error e =>
    have hcatches : scanCatches e = true := by
      by_contra hcatches
      exact h (escapesScan_iff.mpr ⟨e, hloads, by simpa using hcatches⟩)
    refine ⟨none, fun cwd => ?_, by rw [scanFiles, hloads]; simp [hcatches, addCwd]⟩
    simp [recordsCwd_iff, hloads]

/-! ## All files -/

/-- What is added for a file is what was there and what the file records. -/
theorem mem_addCwd {cwds : Finset PyStr} {found : Option PyStr} {cwd : PyStr} :
    cwd ∈ addCwd cwds found ↔ cwd ∈ cwds ∨ found = some cwd := by
  cases found with
  | none => simp [addCwd]
  | some other =>
    rw [addCwd, Finset.mem_insert, Option.some.injEq, eq_comm (a := cwd)]
    exact or_comm

/-- Without an escape the loop ends, and adds exactly what the files record. -/
theorem scanFiles_exact {depth : ℕ} {files : List FirstLine}
    (h : ∀ file ∈ files, ¬EscapesScan depth file) (cwds : Finset PyStr) :
    ∃ result, scanFiles depth cwds files = .ok result ∧
      ∀ cwd, cwd ∈ result ↔ cwd ∈ cwds ∨ ∃ file ∈ files, RecordsCwd depth file cwd := by
  induction files generalizing cwds with
  | nil => exact ⟨cwds, rfl, by simp⟩
  | cons file rest ih =>
    obtain ⟨hfile, hrest⟩ := List.forall_mem_cons.mp h
    obtain ⟨found, hfound, hcons⟩ := scanFiles_cons hfile cwds rest
    obtain ⟨result, hresult, hmem⟩ := ih hrest (addCwd cwds found)
    refine ⟨result, hcons.trans hresult, fun cwd => ?_⟩
    rw [hmem, mem_addCwd, hfound, List.exists_mem_cons_iff, or_assoc]

/-- With an escape the loop raises, whatever the other files are. -/
theorem scanFiles_escapes {depth : ℕ} {files : List FirstLine}
    (h : ∃ file ∈ files, EscapesScan depth file) (cwds : Finset PyStr) :
    ∃ e, scanFiles depth cwds files = .error e := by
  induction files generalizing cwds with
  | nil => simp at h
  | cons file rest ih =>
    by_cases hfile : EscapesScan depth file
    · obtain ⟨e, hloads, hcatches⟩ := escapesScan_iff.mp hfile
      exact ⟨e, by rw [scanFiles, hloads]; simp [hcatches]⟩
    · obtain ⟨found, -, hcons⟩ := scanFiles_cons hfile cwds rest
      have hrest : ∃ file ∈ rest, EscapesScan depth file := by
        simpa [hfile] using h
      obtain ⟨e, he⟩ := ih hrest (addCwd cwds found)
      exact ⟨e, hcons.trans he⟩

/-- A file that records nothing and does not escape changes nothing. -/
theorem scanFiles_ignores {depth : ℕ} {before after : List FirstLine} {file : FirstLine}
    (h : ∀ other ∈ before ++ file :: after, ¬EscapesScan depth other)
    (hfile : ∀ cwd, ¬RecordsCwd depth file cwd) (cwds : Finset PyStr) :
    scanFiles depth cwds (before ++ file :: after) = scanFiles depth cwds (before ++ after) := by
  induction before generalizing cwds with
  | nil =>
    obtain ⟨found, hfound, hcons⟩ := scanFiles_cons (h file (by simp)) cwds after
    cases found with
    | none => exact hcons
    | some cwd => exact absurd ((hfound cwd).mp rfl) (hfile cwd)
  | cons first rest ih =>
    have hrest := ih fun other hother => h other (List.mem_cons_of_mem _ hother)
    simp only [List.cons_append, scanFiles, hrest]

/-- The scan is exact if and only if no first line makes `json.loads` raise a plain `ValueError`
or a `RecursionError`. -/
theorem scanExact_iff (depth : ℕ) (files : List FirstLine) :
    ScanExact depth files ↔ ∀ file ∈ files, ¬EscapesScan depth file := by
  constructor
  · intro hexact file hfile hescapes
    obtain ⟨cwds, hok, -⟩ := hexact.returns
    obtain ⟨e, he⟩ := scanFiles_escapes ⟨file, hfile, hescapes⟩ ∅
    simp [scanCodexCwds, he] at hok
  · intro h
    obtain ⟨cwds, hok, hmem⟩ := scanFiles_exact h ∅
    refine ⟨⟨cwds, by simpa [scanCodexCwds] using hok, by simpa using hmem⟩, ?_⟩
    rintro before file after rfl hfile
    simpa [scanCodexCwds] using scanFiles_ignores h hfile ∅

/-- The digits at the beginning of a text of ones are the whole text. -/
theorem spanDigits_replicate (n : ℕ) :
    spanDigits (List.replicate n 49) = (List.replicate n 49, []) := by
  induction n with
  | zero => rfl
  | succ n ih => simp [List.replicate_succ, spanDigits, ih]

/-- More than 4300 ones are an integer that Python does not convert. -/
theorem scanNumber_replicate {n : ℕ} (hn : intMaxStrDigits < n) :
    scanNumber false (List.replicate n 49) = .error .valueError := by
  have hne : List.replicate n 49 ≠ [] := by
    rw [Ne, List.replicate_eq_nil_iff]
    omega
  have hinteger : scanInteger (List.replicate n 49) = (List.replicate n 49, []) := by
    have hhead : (List.replicate n 49).head? ≠ some 48 := by
      simp [List.head?_replicate]
    rw [scanInteger, if_neg hhead, spanDigits_replicate]
  unfold scanNumber
  rw [hinteger]
  simp [scanFraction, scanExponent, hne, hn]

/-- A line of more than 4300 ones. -/
theorem loads_replicate {n : ℕ} (hn : intMaxStrDigits < n) (depth : ℕ) :
    Json.loads depth (List.replicate n 49) = .error .valueError := by
  have hscalar : scanScalar (List.replicate n 49) = .error .valueError := by
    have hconstant : constants.find? (fun c => c.1.isPrefixOf (List.replicate n 49)) = none := by
      obtain ⟨k, rfl⟩ := Nat.exists_eq_succ_of_ne_zero (Nat.ne_of_gt (Nat.zero_lt_of_lt hn))
      simp [constants, nan, infinity, py, List.replicate_succ, List.isPrefixOf]
    have hminus : (List.replicate n 49).head? ≠ some 45 := by
      simp [List.head?_replicate]
    rw [scanScalar, hconstant]
    exact (if_neg hminus).trans (scanNumber_replicate hn)
  have hskip : skipSpace (List.replicate n 49) = List.replicate n 49 := by
    cases n <;> simp [List.replicate_succ, skipSpace]
  have honce : ∀ fuel, scanOnce (fuel + 1) depth (List.replicate n 49) = .error .valueError := by
    intro fuel
    simp [scanOnce, hscalar, List.head?_replicate]
  unfold loads
  rw [hskip, honce]
  simp [List.head?_replicate]

/-- One such file hides the sessions of every other. -/
theorem codexScan_killed : ¬ScanExact 1000
    [.text (List.replicate 4301 49),
      .text (py ['{', '"', 't', 'y', 'p', 'e', '"', ':', '"', 's', 'e', 's', 's', 'i', 'o', 'n',
        '_', 'm', 'e', 't', 'a', '"', ',', '"', 'p', 'a', 'y', 'l', 'o', 'a', 'd', '"', ':', '{',
        '"', 'c', 'w', 'd', '"', ':', '"', '/', '"', '}', '}'])] := by
  intro hexact
  refine (scanExact_iff _ _).mp hexact _ List.mem_cons_self ⟨_, rfl, Or.inl ?_⟩
  exact loads_replicate (by decide) 1000

end WTerm
