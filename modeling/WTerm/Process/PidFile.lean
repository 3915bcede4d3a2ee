import Mathlib.Logic.Function.Basic
import Mathlib.Data.Nat.Notation
import WTerm.Lib.Transition

/-!
# The pid file

The pid file is a lock that admits one server. A server locks the inode that it opened and
compares it with the inode of the path, since `start.sh` and `stop.sh` remove the path without
looking at the lock. Here is every system call of the servers and of the scripts on the file,
in any interleaving.
-/

namespace WTerm

open Transition

/-- The number of a process. -/
abbrev Pid := ℕ

/-- The number of a file. -/
abbrev Inode := ℕ

/-- How often `_claim_pid_file` opens the file. -/
def claimAttempts : ℕ := 5

/-- Where a server stands in `_claim_pid_file` and `_release_pid_file`. -/
inductive ServerPc where
  | absent
  /-- Before `os.open`, with the iterations left after this one. -/
  | opening (left : ℕ)
  /-- Before `fcntl.lockf`. -/
  | opened (inode : Inode) (left : ℕ)
  /-- Before the comparison of the inodes. -/
  | locked (inode : Inode) (left : ℕ)
  /-- Before `os.ftruncate`. -/
  | compared (inode : Inode)
  /-- Before `os.write`. -/
  | truncated (inode : Inode)
  /-- Before `os.fsync`, after which `_claim_pid_file` returns. -/
  | written (inode : Inode)
  /-- `_claim_pid_file` has returned. -/
  | claimed (inode : Inode)
  /-- `_release_pid_file` found its own pid in the file; before `unlink`. -/
  | releasing (inode : Inode)
  /-- `_release_pid_file` has returned. -/
  | released (inode : Inode)
  /-- Refused, exited or crashed. -/
  | exited
  deriving DecidableEq

/-- The two scripts. -/
inductive ScriptKind where
  | start
  | stop
  deriving DecidableEq

/-- Where a script stands. -/
inductive ScriptPc where
  | absent
  /-- Before `[ -f "$PID_FILE" ]`. -/
  | begun (kind : ScriptKind)
  /-- Before `cat "$PID_FILE"`. -/
  | found (kind : ScriptKind)
  /-- Before `kill -0`, with the pid that was read. -/
  | read (kind : ScriptKind) (pid : Pid)
  /-- Before `rm -f "$PID_FILE"`. -/
  | removing
  /-- `stop.sh` has sent `SIGTERM` and waits. -/
  | stopping (pid : Pid)
  /-- `stop.sh`, before the `cat` of `drop_pid_file`. -/
  | dropping (pid : Pid)
  | done
  deriving DecidableEq

/-- The pid file, the servers and the scripts. -/
structure PidFile where
  /-- The inode of the path. -/
  path : Option Inode := none
  /-- The pid in a file; a new or truncated file is empty. -/
  content : Inode → Option Pid := fun _ => none
  /-- The holder of the lock on an inode. -/
  lock : Inode → Option Pid := fun _ => none
  nextInode : Inode := 0
  servers : Pid → ServerPc := fun _ => .absent
  scripts : ℕ → ScriptPc := fun _ => .absent

namespace PidFile

/-- A server moves on. -/
def setServer (f : PidFile) (p : Pid) (pc : ServerPc) : PidFile :=
  { f with servers := Function.update f.servers p pc }

/-- A script moves on. -/
def setScript (f : PidFile) (s : ℕ) (pc : ScriptPc) : PidFile :=
  { f with scripts := Function.update f.scripts s pc }

/-- `os.open` with `O_CREAT`. -/
def openFile (f : PidFile) (p : Pid) (left : ℕ) : PidFile :=
  match f.path with
  | some inode => f.setServer p (.opened inode left)
  | none =>
    { f with path := some f.nextInode, nextInode := f.nextInode + 1 }.setServer p
      (.opened f.nextInode left)

/-- `fcntl.lockf` with `LOCK_EX | LOCK_NB`: refused if another process has the lock. -/
def lockFile (f : PidFile) (p : Pid) (inode : Inode) (left : ℕ) : PidFile :=
  if f.lock inode = none ∨ f.lock inode = some p then
    { f with lock := Function.update f.lock inode (some p) }.setServer p (.locked inode left)
  else f.setServer p .exited

/-- The locks of a process are dropped. -/
def dropLocks (f : PidFile) (p : Pid) : PidFile :=
  { f with lock := fun inode => if f.lock inode = some p then none else f.lock inode }

/-- The comparison of the inodes; a file that is not at the path any more is closed, and the
server tries again. -/
def compareFile (f : PidFile) (p : Pid) (inode : Inode) (left : ℕ) : PidFile :=
  if f.path = some inode then f.setServer p (.compared inode)
  else (f.dropLocks p).setServer p (if left = 0 then .exited else .opening (left - 1))

/-- The next system call of a server. -/
def stepServer (f : PidFile) (p : Pid) : PidFile :=
  match f.servers p with
  | .opening left => f.openFile p left
  | .opened inode left => f.lockFile p inode left
  | .locked inode left => f.compareFile p inode left
  | .compared inode =>
    { f with content := Function.update f.content inode none }.setServer p (.truncated inode)
  | .truncated inode =>
    { f with content := Function.update f.content inode (some p) }.setServer p (.written inode)
  | .written inode => f.setServer p (.claimed inode)
  | .releasing inode => { f with path := none }.setServer p (.released inode)
  | _ => f

/-- `_release_pid_file`, up to its `unlink`. -/
def release (f : PidFile) (p : Pid) : PidFile :=
  match f.servers p with
  | .claimed inode =>
    f.setServer p (if f.content inode = some p then .releasing inode else .released inode)
  | _ => f

/-- A server exits or crashes, which drops its locks. -/
def exit (f : PidFile) (p : Pid) : PidFile := (f.dropLocks p).setServer p .exited

/-- A script looks into the file: `none` if it has no pid in it or is gone. -/
def readPid (f : PidFile) : Option Pid := f.path.bind f.content

/-- The next system call of a script, up to `kill`. -/
def stepScript (f : PidFile) (s : ℕ) : PidFile :=
  match f.scripts s with
  | .begun kind => f.setScript s (if f.path.isSome then .found kind else .removing)
  | .found kind =>
    f.setScript s (match f.readPid with
      | some pid => .read kind pid
      | none => .removing)
  | .removing => { f with path := none }.setScript s .done
  | .stopping pid => f.setScript s (.dropping pid)
  | .dropping pid => f.setScript s (if f.readPid = some pid then .removing else .done)
  | _ => f

/-- `kill -0`, with its answer. -/
def probe (f : PidFile) (s : ℕ) (alive : Bool) : PidFile :=
  match f.scripts s with
  | .read .start _ => f.setScript s (if alive then .done else .removing)
  | .read .stop pid => f.setScript s (if alive then .stopping pid else .removing)
  | _ => f

end PidFile

/-- A server runs. -/
def ServerPc.Running : ServerPc → Prop
  | .absent | .exited => False
  | _ => True

instance : (pc : ServerPc) → Decidable pc.Running
  | .absent | .exited => inferInstanceAs (Decidable False)
  | .opening _ | .opened _ _ | .locked _ _ | .compared _ | .truncated _ | .written _ | .claimed _
  | .releasing _ | .released _ => inferInstanceAs (Decidable True)

/-- The pid that a script probes with `kill -0`. -/
def ScriptPc.probed : ScriptPc → Option Pid
  | .read _ pid => some pid
  | _ => none

/-- The steps of the servers and of the scripts. -/
inductive PidFileEvent where
  /-- A server process starts. -/
  | serve (p : Pid)
  | server (p : Pid)
  /-- `_release_pid_file` is called. -/
  | release (p : Pid)
  /-- A server exits or crashes. -/
  | exit (p : Pid)
  /-- A script is started. -/
  | run (s : ℕ) (kind : ScriptKind)
  | script (s : ℕ)
  /-- `kill -0` answers a script. -/
  | probe (s : ℕ) (alive : Bool)
  deriving DecidableEq

namespace PidFileEvent

/-- When an event can happen. `kill -0` finds every running server, and may find another process
with the same number. -/
def Enabled (f : PidFile) : PidFileEvent → Prop
  | .serve p => f.servers p = .absent
  | .server p | .release p | .exit p => (f.servers p).Running
  | .run s _ => f.scripts s = .absent
  | .script s => f.scripts s ≠ .absent
  | .probe s alive => ∃ pid, (f.scripts s).probed = some pid ∧
      ((f.servers pid).Running → alive = true)

instance (f : PidFile) : (e : PidFileEvent) → Decidable (e.Enabled f)
  | .serve _ | .run _ _ => inferInstanceAs (Decidable (_ = _))
  | .server _ | .release _ | .exit _ => inferInstanceAs (Decidable (ServerPc.Running _))
  | .script _ => inferInstanceAs (Decidable (_ ≠ _))
  | .probe s alive =>
    match h : (f.scripts s).probed with
    | none => isFalse fun ⟨_, hpid, _⟩ => nomatch h.symm.trans hpid
    | some pid =>
      if halive : (f.servers pid).Running → alive = true then isTrue ⟨pid, h, halive⟩
      else isFalse fun ⟨_, hpid, himp⟩ => halive (Option.some.inj (h.symm.trans hpid) ▸ himp)

/-- The state after an event. -/
def apply (f : PidFile) : PidFileEvent → PidFile
  | .serve p => f.setServer p (.opening (claimAttempts - 1))
  | .server p => f.stepServer p
  | .release p => f.release p
  | .exit p => f.exit p
  | .run s kind => f.setScript s (.begun kind)
  | .script s => f.stepScript s
  | .probe s alive => f.probe s alive

end PidFileEvent

/-- The transition system of the pid file. -/
def pidFileSystem : System PidFile PidFileEvent where
  Enabled := PidFileEvent.Enabled
  apply := PidFileEvent.apply

instance (f : PidFile) (e : PidFileEvent) : Decidable (pidFileSystem.Enabled f e) :=
  inferInstanceAs (Decidable (e.Enabled f))

/-- The file that a server has compared with the path and not released. -/
def ServerPc.held : ServerPc → Option Inode
  | .compared inode | .truncated inode | .written inode | .claimed inode | .releasing inode =>
    some inode
  | _ => none

/-- A server has returned from `_claim_pid_file` and has not released the file. -/
def ServerPc.Admitted : ServerPc → Prop
  | .claimed _ | .releasing _ => True
  | _ => False

/-- A script removes the path while a server has compared its file with it and has neither
released it nor exited. -/
def PidFileEvent.RemovesHeld (f : PidFile) (e : PidFileEvent) : Prop :=
  ∃ s p, e = .script s ∧ f.scripts s = .removing ∧ (f.servers p).held ≠ none

/-- The runs in which the scripts remove no file of a running server. -/
def NoHeldRemoval (f : PidFile) (e : PidFileEvent) : Prop := ¬e.RemovesHeld f

namespace PidFile

/-- The file of a server that has compared it is at the path, and the server has its lock. -/
structure Sound (f : PidFile) : Prop where
  locked : ∀ p inode left, f.servers p = .locked inode left → f.lock inode = some p
  held : ∀ p inode, (f.servers p).held = some inode → f.path = some inode ∧ f.lock inode = some p

variable {f : PidFile} {p q : Pid} {inode : Inode}

/-- Only one server holds the file. -/
theorem Sound.held_unique (h : f.Sound) {inode' : Inode} (hp : (f.servers p).held = some inode)
    (hq : (f.servers q).held = some inode') : p = q := by
  obtain ⟨hpath, hlock⟩ := h.held p inode hp
  obtain ⟨hpath', hlock'⟩ := h.held q inode' hq
  obtain rfl : inode = inode' := Option.some.inj (hpath.symm.trans hpath')
  exact Option.some.inj (hlock.symm.trans hlock')

/-- A server that moves on keeps the state sound, if it locks and holds what it claims to. -/
theorem Sound.setServer {pc : ServerPc} (h : f.Sound)
    (hlocked : ∀ inode left, pc = .locked inode left → f.lock inode = some p)
    (hheld : ∀ inode, pc.held = some inode → f.path = some inode ∧ f.lock inode = some p) :
    (f.setServer p pc).Sound := by
  constructor
  · intro q inode left hq
    by_cases hqp : q = p
    · subst hqp
      exact hlocked inode left (by simpa [PidFile.setServer] using hq)
    · exact h.locked q inode left (by simpa [PidFile.setServer, hqp] using hq)
  · intro q inode hq
    by_cases hqp : q = p
    · subst hqp
      exact hheld inode (by simpa [PidFile.setServer] using hq)
    · exact h.held q inode (by simpa [PidFile.setServer, hqp] using hq)

/-- A server that moves to a place without a file keeps the state sound. -/
theorem Sound.setIdle {pc : ServerPc} (h : f.Sound)
    (hlocked : ∀ inode left, pc ≠ .locked inode left)
    (hheld : pc.held = none) : (f.setServer p pc).Sound := by
  refine h.setServer (fun inode left hpc => absurd hpc (hlocked inode left)) fun inode hpc => ?_
  rw [hheld] at hpc
  cases hpc

/-- A server that gives up its locks and its file keeps the state sound. -/
theorem Sound.dropLocks {pc : ServerPc} (h : f.Sound)
    (hlocked : ∀ inode left, pc ≠ .locked inode left) (hheld : pc.held = none) :
    ((f.dropLocks p).setServer p pc).Sound := by
  have hother {q : Pid} {inode : Inode} (hqp : q ≠ p) (hlock : f.lock inode = some q) :
      (f.dropLocks p).lock inode = some q := by
    simp [PidFile.dropLocks, hlock, hqp]
  constructor
  · intro q inode left hq
    by_cases hqp : q = p
    · subst hqp
      exact absurd (by simpa [PidFile.setServer] using hq) (hlocked inode left)
    · exact hother hqp (h.locked q inode left
        (by simpa [PidFile.setServer, PidFile.dropLocks, hqp] using hq))
  · intro q inode hq
    by_cases hqp : q = p
    · subst hqp
      simp [PidFile.setServer, hheld] at hq
    · obtain ⟨hpath, hlock⟩ := h.held q inode
        (by simpa [PidFile.setServer, PidFile.dropLocks, hqp] using hq)
      exact ⟨hpath, hother hqp hlock⟩

/-- A script that moves on keeps the state sound. -/
theorem Sound.setScript (h : f.Sound) (s : ℕ) (pc : ScriptPc) : (f.setScript s pc).Sound :=
  ⟨h.locked, h.held⟩

/-- Removing the path keeps the state sound, if nobody holds the file. -/
theorem Sound.unlink (h : f.Sound) (hfree : ∀ q, (f.servers q).held = none) :
    PidFile.Sound { f with path := none } := by
  refine ⟨h.locked, fun q inode hq => ?_⟩
  have hnone : some inode = none := (show (f.servers q).held = some inode from hq) ▸ hfree q
  cases hnone

/-- Opening the file keeps the state sound: a new file is created only if nobody holds one. -/
theorem Sound.openFile (h : f.Sound) (p : Pid) (left : ℕ) : (f.openFile p left).Sound := by
  unfold PidFile.openFile
  split
  · exact h.setIdle nofun rfl
  · next hnone =>
    have hcreated :
        PidFile.Sound { f with path := some f.nextInode, nextInode := f.nextInode + 1 } := by
      refine ⟨h.locked, fun q inode hq => ?_⟩
      have hpath := (h.held q inode hq).1
      rw [hnone] at hpath
      cases hpath
    exact hcreated.setIdle nofun rfl

/-- Locking the file keeps the state sound: only a free lock is taken. -/
theorem Sound.lockFile (h : f.Sound) (p : Pid) (inode : Inode) (left : ℕ) :
    (f.lockFile p inode left).Sound := by
  unfold PidFile.lockFile
  split
  · next hfree =>
    have hkept {q : Pid} {inode' : Inode} (hlock : f.lock inode' = some q) :
        Function.update f.lock inode (some p) inode' = some q := by
      by_cases hinode : inode' = inode
      · subst hinode
        rcases hfree with hnone | hown
        · rw [hnone] at hlock
          cases hlock
        · rw [Function.update_self, ← hown, hlock]
      · rwa [Function.update_of_ne hinode]
    have hlocked : PidFile.Sound { f with lock := Function.update f.lock inode (some p) } := by
      refine ⟨fun q inode' left' hq => hkept (h.locked q inode' left' hq), fun q inode' hq => ?_⟩
      obtain ⟨hpath, hlock⟩ := h.held q inode' hq
      exact ⟨hpath, hkept hlock⟩
    refine hlocked.setServer (fun inode' left' hpc => ?_) nofun
    obtain ⟨rfl, -⟩ := ServerPc.locked.inj hpc
    exact Function.update_self _ _ _
  · exact h.setIdle nofun rfl

/-- The comparison keeps the state sound: a server goes on only with the file at the path. -/
theorem Sound.compareFile (h : f.Sound) {left : ℕ} (hpc : f.servers p = .locked inode left) :
    (f.compareFile p inode left).Sound := by
  unfold PidFile.compareFile
  split
  · next hpath =>
    refine h.setServer nofun fun inode' hinode' => ?_
    obtain rfl : inode = inode' := Option.some.inj hinode'
    exact ⟨hpath, h.locked p inode left hpc⟩
  · split
    · exact h.dropLocks nofun rfl
    · exact h.dropLocks nofun rfl

/-- A system call of a server keeps the state sound. -/
theorem Sound.stepServer (h : f.Sound) (p : Pid) : (f.stepServer p).Sound := by
  unfold PidFile.stepServer
  split
  · exact h.openFile p _
  · exact h.lockFile p _ _
  · next inode left hpc => exact h.compareFile hpc
  · next inode hpc =>
    have hcontent : PidFile.Sound { f with content := Function.update f.content inode none } :=
      ⟨h.locked, h.held⟩
    exact hcontent.setServer nofun fun inode' hinode' =>
      h.held p inode' (by rw [hpc]; exact hinode')
  · next inode hpc =>
    have hcontent : PidFile.Sound { f with content := Function.update f.content inode (some p) } :=
      ⟨h.locked, h.held⟩
    exact hcontent.setServer nofun fun inode' hinode' =>
      h.held p inode' (by rw [hpc]; exact hinode')
  · next inode hpc =>
    exact h.setServer nofun fun inode' hinode' => h.held p inode' (by rw [hpc]; exact hinode')
  · next inode hpc =>
    have hreleased : (f.setServer p (.released inode)).Sound := h.setIdle nofun rfl
    have hholder : (f.servers p).held = some inode := by rw [hpc]; rfl
    refine hreleased.unlink fun q => ?_
    by_cases hqp : q = p
    · simp [PidFile.setServer, hqp, ServerPc.held]
    · have hsame : (f.setServer p (.released inode)).servers q = f.servers q := by
        simp [PidFile.setServer, hqp]
      rw [hsame]
      by_contra hheld
      obtain ⟨inode', hinode'⟩ := Option.ne_none_iff_exists'.mp hheld
      exact hqp (h.held_unique hinode' hholder)
  · exact h

/-- The release of the file keeps the state sound. -/
theorem Sound.release (h : f.Sound) (p : Pid) : (f.release p).Sound := by
  unfold PidFile.release
  split
  · next inode hpc =>
    split
    · exact h.setServer nofun fun inode' hinode' => h.held p inode' (by rw [hpc]; exact hinode')
    · exact h.setIdle nofun rfl
  · exact h

/-- A system call of a script keeps the state sound, unless it removes a file that is held. -/
theorem Sound.stepScript (h : f.Sound) {s : ℕ} (hcond : NoHeldRemoval f (.script s)) :
    (f.stepScript s).Sound := by
  unfold PidFile.stepScript
  split
  · exact h.setScript s _
  · exact h.setScript s _
  · next hremoving =>
    have hfree (q : Pid) : (f.servers q).held = none := by
      by_contra hheld
      exact hcond ⟨s, q, rfl, hremoving, hheld⟩
    exact (h.unlink hfree).setScript s _
  · exact h.setScript s _
  · exact h.setScript s _
  · exact h

/-- The answer of `kill -0` keeps the state sound. -/
theorem Sound.probe (h : f.Sound) (s : ℕ) (alive : Bool) : (f.probe s alive).Sound := by
  unfold PidFile.probe
  split
  · exact h.setScript s _
  · exact h.setScript s _
  · exact h

/-- A step that removes no file that is held keeps the state sound. -/
theorem Sound.step (h : f.Sound) {e : PidFileEvent} (hcond : NoHeldRemoval f e) :
    (e.apply f).Sound := by
  cases e with
  | serve p => exact h.setIdle nofun rfl
  | server p => exact h.stepServer p
  | release p => exact h.release p
  | exit p => exact h.dropLocks nofun rfl
  | run s kind => exact h.setScript s _
  | script s => exact h.stepScript hcond
  | probe s alive => exact h.probe s alive

end PidFile

/-- A server that was admitted holds its file. -/
theorem ServerPc.Admitted.held {pc : ServerPc} (h : pc.Admitted) :
    ∃ inode, pc.held = some inode := by
  cases pc with
  | claimed inode => exact ⟨inode, rfl⟩
  | releasing inode => exact ⟨inode, rfl⟩
  | _ => cases h

/-- Every state of a run whose scripts remove no file that is held is sound. -/
theorem PidFile.Sound.run {f : PidFile} (hrun : Run pidFileSystem NoHeldRemoval {} f) :
    f.Sound := by
  induction hrun with
  | refl => exact ⟨nofun, nofun⟩
  | step e _ _ hcond ih => exact ih.step hcond

/-- If the scripts remove no file that a server holds, the pid file admits at most one server at a
time. -/
theorem one_server {f : PidFile} (hrun : Run pidFileSystem NoHeldRemoval {} f) {p q : Pid}
    (hp : (f.servers p).Admitted) (hq : (f.servers q).Admitted) : p = q := by
  have hsound := PidFile.Sound.run hrun
  obtain ⟨inode, hheld⟩ := hp.held
  obtain ⟨inode', hheld'⟩ := hq.held
  exact hsound.held_unique hheld hheld'

/-- The system calls of a server from its start to the end of `_claim_pid_file`. -/
def claimCalls (p : Pid) : List PidFileEvent := .serve p :: List.replicate 6 (.server p)

/-- Whether an event is a system call of a script. -/
def PidFileEvent.isScript : PidFileEvent → Bool
  | .script _ => true
  | _ => false

/-- What is no system call of a script removes nothing. -/
theorem noHeldRemoval_of_isScript {f : PidFile} {e : PidFileEvent} (h : e.isScript = false) :
    NoHeldRemoval f e := by
  rintro ⟨s, p, rfl, -, -⟩
  cases h

/-- A server crashes, a second one takes the file that it left, and a third one is refused. -/
def crashedServer : PidFile := pidFileSystem.exec {}
  (claimCalls 1 ++ [.exit 1] ++ claimCalls 2 ++ [.serve 3, .server 3, .server 3])

/-- Of the servers of that run only one is admitted. -/
theorem one_server_crashed : ∃ p q, (crashedServer.servers p).Admitted ∧
    (crashedServer.servers q).Admitted ∧ p = q := by
  have hrun : Run pidFileSystem (fun _ e => e.isScript = false) {} crashedServer :=
    System.Valid.guardedRun _ (by decide)
  have hadmitted : (crashedServer.servers 2).Admitted := trivial
  refine ⟨2, 2, hadmitted, hadmitted, ?_⟩
  exact one_server (hrun.mono fun _ _ => noHeldRemoval_of_isScript) hadmitted hadmitted

/-- `start.sh` finds the empty file of a server that has not written its pid yet, and removes it;
a second server creates a new one. -/
def removedPidFile : PidFile := pidFileSystem.exec {}
  ([.serve 1, .server 1, .server 1, .server 1, .run 0 .start, .script 0, .script 0, .script 0] ++
    List.replicate 3 (.server 1) ++ claimCalls 2)

/-- In such a run two servers with different process ids are admitted at the same time. -/
theorem two_servers : ¬∀ (f : PidFile) (p q : Pid), Run pidFileSystem (fun _ _ => True) {} f →
    (f.servers p).Admitted → (f.servers q).Admitted → p = q := by
  intro h
  have hrun : Run pidFileSystem (fun _ _ => True) {} removedPidFile :=
    System.Valid.run _ (by decide)
  have hsame : 1 = 2 := h removedPidFile 1 2 hrun trivial trivial
  cases hsame

end WTerm
