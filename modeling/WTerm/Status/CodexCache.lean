import WTerm.Lib.TimedCache
import WTerm.Session.Basic
import WTerm.Status.CodexScan

/-!
# The cache of the Codex sessions

`has_codex_history` scans the session files at most every thirty seconds, one caller at a time, and
answers from what the last scan has found.
-/

namespace WTerm

open Transition TimedCache

/-- `CODEX_CACHE_TTL`. -/
def codexCacheTtl : Time := 30 * second

/-- What a scan finds: whether the directory is there, and the session files in it. -/
structure SessionFiles where
  isDir : Bool
  files : List FirstLine

/-- `_scan_codex_cwds`, which raises or returns the directories of the sessions. -/
def SessionFiles.scan (depth : ℕ) (s : SessionFiles) : Option (Finset PyStr) :=
  (scanCodexCwds depth s.isDir s.files).toOption

/-- The module's `_codex_cwds`, `_codex_scanned_at` and `_codex_scan_lock`. -/
abbrev CodexCache := Cache SessionFiles (Finset PyStr)

/-- The cache when the module is loaded. -/
def CodexCache.initial : CodexCache := { value := ∅ }

/-- The calls of `has_codex_history`, in any interleaving. -/
def codexSystem (depth : ℕ) : System CodexCache (TimedCache.Event SessionFiles) :=
  cacheSystem codexCacheTtl (SessionFiles.scan depth)

instance codexSystemDecidable (depth : ℕ) (c : CodexCache) (e : TimedCache.Event SessionFiles) :
    Decidable ((codexSystem depth).Enabled c e) :=
  inferInstanceAs (Decidable (e.Enabled c))

/-- `cwd in _codex_cwds`: what a caller is told about its directory. -/
def hasCodexHistory (a : Answer (Finset PyStr)) (cwd : PyStr) : Bool := decide (cwd ∈ a.value)

/-- A scan that returns has found exactly what the session files record. -/
theorem SessionFiles.mem_scan {depth : ℕ} {s : SessionFiles} {cwds : Finset PyStr}
    (h : s.scan depth = some cwds) (cwd : PyStr) :
    cwd ∈ cwds ↔ s.isDir = true ∧ ∃ file ∈ s.files, RecordsCwd depth file cwd := by
  unfold scan scanCodexCwds at h
  cases hdir : s.isDir with
  | false =>
    rw [hdir] at h
    obtain rfl := Option.some.inj h
    simp
  | true =>
    rw [hdir, if_pos rfl] at h
    by_cases hescapes : ∃ file ∈ s.files, EscapesScan depth file
    · obtain ⟨e, he⟩ := scanFiles_escapes hescapes ∅
      rw [he] at h
      cases h
    · have hnone : ∀ file ∈ s.files, ¬EscapesScan depth file := fun file hfile hescape =>
        hescapes ⟨file, hfile, hescape⟩
      obtain ⟨result, hresult, hmem⟩ := scanFiles_exact hnone ∅
      rw [hresult] at h
      obtain rfl := Option.some.inj h
      simp [hmem]

section

variable {depth : ℕ} {c : CodexCache}

/-- In every run the cache is sound, and the callers are accounted for. -/
theorem codexCache_sound (hrun : Run (codexSystem depth) (fun _ _ => True) .initial c) :
    c.Sound codexCacheTtl (SessionFiles.scan depth) ∧ c.Accounted := by
  constructor
  · exact hrun.invariant (Cache.Sound.initial _ _ _) fun _ e h _ _ =>
      TimedCache.Event.apply_sound h (by decide) e
  · exact hrun.invariant (Cache.Accounted.initial _) fun _ _ h hen _ =>
      TimedCache.Event.apply_accounted h hen

/-- Every answer is that of a scan which has returned less than thirty seconds before: the caller is
told that there is a history exactly if a session file then recorded its directory. -/
theorem codexHistory_fresh (hrun : Run (codexSystem depth) (fun _ _ => True) .initial c) :
    ∀ a ∈ c.answers, ∃ scan ∈ c.fetches,
      scan.finished ≤ a.time ∧ a.time < scan.finished + 30 * second ∧
        ∀ cwd, hasCodexHistory a cwd = true ↔
          scan.source.isDir = true ∧ ∃ file ∈ scan.source.files, RecordsCwd depth file cwd := by
  intro a ha
  obtain ⟨hsound, -⟩ := codexCache_sound hrun
  obtain ⟨scan, hscan, hvalue, hbefore, hyoung⟩ := hsound.answered a ha
  have hfetch := (hsound.fetched scan hscan).2
  refine ⟨scan, hscan, hbefore, hyoung, fun cwd => ?_⟩
  unfold hasCodexHistory
  rw [decide_eq_true_iff, ← hvalue]
  exact SessionFiles.mem_scan hfetch cwd

/-- A session file of the root directory, besides one that cannot be read. -/
def rootSession : SessionFiles where
  isDir := true
  files :=
    [.osError, .text (py ['{', '"', 't', 'y', 'p', 'e', '"', ':', '"', 's', 'e', 's', 's', 'i', 'o',
      'n', '_', 'm', 'e', 't', 'a', '"', ',', '"', 'p', 'a', 'y', 'l', 'o', 'a', 'd', '"', ':',
      '{', '"', 'c', 'w', 'd', '"', ':', '"', '/', '"', '}', '}'])]

/-- A caller waits for the scan of another one, a third takes the value 29 seconds later, and a
fourth scans again and gives up. -/
def sharedScan : CodexCache := (codexSystem 100).exec .initial
  [.call 0, .tick second, .call 1, .tick second, .fetched rootSession, .acquire,
    .tick (29 * second), .call 2, .tick second, .call 3, .abort]

/-- The hypothesis holds in such a run. -/
theorem codexHistory_fresh_shared : sharedScan.answers.length = 3 ∧
    ∀ a ∈ sharedScan.answers, ∃ scan ∈ sharedScan.fetches,
      scan.finished ≤ a.time ∧ a.time < scan.finished + 30 * second ∧
        ∀ cwd, hasCodexHistory a cwd = true ↔
          scan.source.isDir = true ∧ ∃ file ∈ scan.source.files, RecordsCwd 100 file cwd :=
  ⟨by decide, codexHistory_fresh (System.Valid.run _ (by decide))⟩

/-- The three callers that are answered learn of the session. -/
example : sharedScan.answers.map (fun a => (a.caller, hasCodexHistory a [47])) =
    [(0, true), (1, true), (2, true)] := by decide

/-- However many callers there are, no scan begins while another one is under way that returns, nor
within the thirty seconds after it, so that at most one scan for each thirty seconds returns; and
every caller is answered once, unless it gives up or its scan raises. -/
theorem codexScans_spaced (hrun : Run (codexSystem depth) (fun _ _ => True) .initial c) :
    (∀ scan ∈ c.fetches, ∀ s ∈ c.starts, s ≤ scan.started ∨ scan.finished + 30 * second ≤ s) ∧
      c.fetches.length ≤ c.now / (30 * second) + 1 ∧
      (c.answers.map Answer.caller ++ c.dropped ++ c.waiters ++
        c.holder.toList.map Prod.fst).Perm c.calls ∧ c.calls.Nodup := by
  obtain ⟨hsound, haccounted⟩ := codexCache_sound hrun
  refine ⟨hsound.spaced, ?_, haccounted.perm, haccounted.once⟩
  cases hfetches : c.fetches with
  | nil => exact Nat.zero_le _
  | cons first rest =>
    obtain ⟨t, hfilled, -⟩ := hsound.latest first (by simp [hfetches])
    obtain ⟨hpast, -, hcount⟩ := hsound.filled t hfilled
    rw [← hfetches]
    have hpositive : 0 < 30 * second := by decide
    have hbound : (c.fetches.length - 1) * (30 * second) ≤ c.now := by
      rw [Nat.sub_one_mul]
      have hcount' : c.fetches.length * (30 * second) ≤ t + 30 * second := hcount
      omega
    have hdiv := (Nat.le_div_iff_mul_le hpositive).mpr hbound
    omega

/-- The hypothesis holds in the same run. -/
theorem codexScans_spaced_shared :
    (∀ scan ∈ sharedScan.fetches, ∀ s ∈ sharedScan.starts,
        s ≤ scan.started ∨ scan.finished + 30 * second ≤ s) ∧
      sharedScan.fetches.length ≤ sharedScan.now / (30 * second) + 1 ∧
      (sharedScan.answers.map Answer.caller ++ sharedScan.dropped ++ sharedScan.waiters ++
        sharedScan.holder.toList.map Prod.fst).Perm sharedScan.calls ∧ sharedScan.calls.Nodup :=
  codexScans_spaced (System.Valid.run _ (by decide))

end

end WTerm
