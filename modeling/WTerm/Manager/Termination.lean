import WTerm.Lib.Transition
import WTerm.Manager.World
import WTerm.Session.Step

/-!
# Overlapping terminations of one session

`terminate` may be called any number of times for one session, by the operations under the
transition lock and by the shutdown, and `_handle_exit` runs beside them. All of them reap the
same child: each `terminate` between its polls with `WNOHANG`, and `_handle_exit` at the end of
the file.
-/

namespace WTerm

open Transition

/-- Where a `terminate` call stands. -/
inductive TerminateCall where
  | absent
  /-- In the sleep of `_wait_reaped`, with the iterations left after it. -/
  | polling (stage : Stage) (left : ℕ)
  | returned
  deriving DecidableEq

/-- A signal that was sent, and the child at that moment. -/
structure SentSignal where
  stage : Stage
  child : Child
  deriving DecidableEq

/-- A session with its `terminate` calls. -/
structure Termination where
  session : Session
  calls : ℕ → TerminateCall := fun _ => .absent
  /-- History: the `killpg` calls. -/
  signals : List SentSignal := []

namespace Termination

/-- A `terminate` call moves on. -/
def setCall (t : Termination) (k : ℕ) (call : TerminateCall) : Termination :=
  { t with calls := Function.update t.calls k call }

/-- The session changes. -/
def on (t : Termination) (f : Session → Session) : Termination := { t with session := f t.session }

/-- `_signal_group`. -/
def signalGroup (t : Termination) (stage : Stage) : Termination :=
  { t with signals := t.signals ++ [⟨stage, t.session.child⟩] }

/-- The last statements of `terminate`. -/
def finish (t : Termination) (k : ℕ) : Termination :=
  (t.on Session.endTerminate).setCall k .returned

/-- One iteration of `_wait_reaped`, up to its sleep or to the end of `terminate`. -/
def checkReaped (t : Termination) (k : ℕ) (stage : Stage) (left : ℕ) : Termination :=
  if t.session.reapedNow then (t.on Session.reapNoHang).finish k
  else t.setCall k (.polling stage (left - 1))

/-- `_wait_reaped` ran out. -/
def nextStage (t : Termination) (k : ℕ) : Stage → Termination
  | .hup => (t.signalGroup .term).checkReaped k .term Stage.term.checks
  | .term => (t.signalGroup .kill).checkReaped k .kill Stage.kill.checks
  | .kill => t.finish k

/-- The sleep of `_wait_reaped` is over. -/
def poll (t : Termination) (k : ℕ) (stage : Stage) (left : ℕ) : Termination :=
  if left = 0 then t.nextStage k stage else t.checkReaped k stage left

/-- `terminate`, up to its first sleep. -/
def terminate (t : Termination) (k : ℕ) : Termination :=
  if t.session.alive then
    ((t.on Session.beginTerminate).signalGroup .hup).checkReaped k .hup Stage.hup.checks
  else t.setCall k .returned

end Termination

/-- The steps of the tasks and of the child. -/
inductive TerminationEvent where
  /-- `terminate` is called. -/
  | call (k : ℕ)
  /-- The sleep of a call is over. -/
  | poll (k : ℕ)
  | childExits
  | ptyEof
  /-- `_handle_exit` runs up to its wait for the close frame. -/
  | exitRuns (now : Time) (code : Option ℤ)
  deriving DecidableEq

namespace TerminationEvent

/-- When an event can happen. -/
def Enabled (t : Termination) : TerminationEvent → Prop
  | .call k => t.calls k = .absent
  | .poll k => t.calls k ≠ .absent ∧ t.calls k ≠ .returned
  | .childExits => t.session.child = .running
  | .ptyEof => t.session.readerRegistered = true ∧ t.session.masterFd = true
  | .exitRuns _ _ => t.session.exitTask = .created

instance (t : Termination) : (e : TerminationEvent) → Decidable (e.Enabled t)
  | .call _ | .childExits | .exitRuns _ _ => inferInstanceAs (Decidable (_ = _))
  | .poll _ | .ptyEof => inferInstanceAs (Decidable (_ ∧ _))

/-- The state after an event. -/
def apply (t : Termination) : TerminationEvent → Termination
  | .call k => t.terminate k
  | .poll k =>
    match t.calls k with
    | .polling stage left => t.poll k stage left
    | _ => t
  | .childExits => t.on Session.childExit
  | .ptyEof => t.on Session.ptyEof
  | .exitRuns now code => t.on (·.handleExit now code)

end TerminationEvent

/-- The transition system of the terminations of one session. -/
def terminations : System Termination TerminationEvent where
  Enabled := TerminationEvent.Enabled
  apply := TerminationEvent.apply

instance (t : Termination) (e : TerminationEvent) : Decidable (terminations.Enabled t e) :=
  inferInstanceAs (Decidable (e.Enabled t))

/-- A session whose process was started and is not over. -/
structure Session.Started (s : Session) : Prop where
  alive : s.alive = true
  masterFd : s.masterFd = true
  child : s.child = .running
  fdCloses : s.fdCloses = 0

/-- The sleep of a call is the last one before its next signal. -/
def TerminateCall.LastSleep (call : TerminateCall) : Prop :=
  call = .polling .hup 0 ∨ call = .polling .term 0

/-- An event reaps the child: `_handle_exit` of a live session, or a `waitpid` of a `terminate`
call after the child has exited. -/
def TerminationEvent.Reaps (t : Termination) : TerminationEvent → Prop
  | .call _ => t.session.alive = true ∧ t.session.child = .zombie
  | .poll k => t.session.alive = true ∧ t.session.child = .zombie ∧ t.calls k ≠ .polling .kill 0
  | .exitRuns _ _ => t.session.alive = true
  | .childExits | .ptyEof => False

instance (t : Termination) : (e : TerminationEvent) → Decidable (e.Reaps t)
  | .call _ | .poll _ => inferInstanceAs (Decidable (_ ∧ _))
  | .exitRuns _ _ => inferInstanceAs (Decidable (_ = _))
  | .childExits | .ptyEof => inferInstanceAs (Decidable False)

/-- The child is not reaped while another `terminate` call is in its last sleep before a signal. -/
def ReapedOutside (t : Termination) (e : TerminationEvent) : Prop :=
  e.Reaps t → ∀ k, (t.calls k).LastSleep → e = .poll k

/-! ## The PTY side of a session -/

namespace Session

variable (s : Session)

@[simp]
theorem settle_toTerminal (done : Option ℕ) (sent : Bool) :
    (s.settle done sent).toTerminal = s.toTerminal := by
  unfold settle
  split
  · rfl
  · split <;> rfl

@[simp]
theorem countPending_toTerminal (payload : Payload) :
    (s.countPending payload).toTerminal = s.toTerminal := by
  cases payload with
  | bytes data =>
    unfold countPending pausePtyReader
    dsimp only
    split_ifs <;> rfl
  | text message => rfl
  | close code reason => rfl

/-- Queueing a frame leaves the PTY side alone. -/
theorem enqueueOutbound_toTerminal (item : Outbound) :
    (s.enqueueOutbound item).toTerminal = s.toTerminal := by
  unfold enqueueOutbound
  split
  · exact s.settle_toTerminal _ _
  · exact s.countPending_toTerminal _

/-- Queueing a close frame leaves the PTY side alone. -/
theorem queuedClose_toTerminal (code : ℕ) (reason : String) :
    (s.queuedClose code reason).toTerminal = s.toTerminal := by
  unfold queuedClose
  split
  · rfl
  · exact enqueueOutbound_toTerminal _ _

/-- `_handle_exit` of a live session closes the PTY and reaps the child, and what it tells the
connection leaves both alone. -/
theorem handleExit_toTerminal (now : Time) (code : Option ℤ) (halive : s.alive = true) :
    (s.handleExit now code).toTerminal = s.exitProcess.toTerminal := by
  unfold handleExit
  simp only [halive, Bool.not_true, Bool.false_eq_true, if_false]
  split
  · exact (queuedClose_toTerminal _ _ _).trans (enqueueOutbound_toTerminal _ _)
  · rfl

/-- The master fd was closed exactly once if it is closed, and not at all otherwise. -/
def ClosedOnce : Prop := s.fdCloses = if s.masterFd then 0 else 1

variable {s}

/-- After `_cleanup_fd` the master fd is closed, also when it was before. -/
theorem cleanupFd_masterFd : s.cleanupFd.masterFd = false := by
  unfold cleanupFd
  split
  · rfl
  · next hclosed => simpa using hclosed

/-- `_cleanup_fd` leaves the child as it is. -/
theorem cleanupFd_child : s.cleanupFd.child = s.child := by
  unfold cleanupFd
  split <;> rfl

/-- `_cleanup_fd` may be called any number of times. -/
theorem ClosedOnce.cleanupFd (h : s.ClosedOnce) : s.cleanupFd.ClosedOnce := by
  unfold ClosedOnce at *
  unfold Session.cleanupFd
  cases hopen : s.masterFd
  · simpa [hopen] using h
  · simpa [hopen] using h

/-- The child of a live session was not reaped, its PTY is open, and the master fd was closed at
most once. -/
structure Settled (s : Session) : Prop where
  reaped : s.child = .reaped → s.alive = false
  opened : s.alive = true → s.masterFd = true
  closed : s.alive = false → s.masterFd = false
  once : s.ClosedOnce

/-- A session that has just been started is settled. -/
theorem Started.settled (h : s.Started) : s.Settled where
  reaped hreaped := by rw [h.child] at hreaped; cases hreaped
  opened _ := h.masterFd
  closed hdead := by rw [h.alive] at hdead; cases hdead
  once := by rw [ClosedOnce, h.masterFd, h.fdCloses]; rfl

/-- The end of `terminate` settles the session, whoever reaped the child. -/
theorem ClosedOnce.endTerminate (h : s.ClosedOnce) : s.endTerminate.Settled := by
  have hdead : s.endTerminate.alive = false :=
    congrArg Lifecycle.alive s.endTerminate_toLifecycle
  have hopen : s.endTerminate.masterFd = false := cleanupFd_masterFd
  have honce : s.endTerminate.ClosedOnce :=
    ClosedOnce.cleanupFd (s := { s with toLifecycle := s.toLifecycle.endTerminate }) h
  refine ⟨fun _ => hdead, fun halive => ?_, fun _ => hopen, honce⟩
  rw [hdead] at halive
  cases halive

/-- `waitpid` leaves the master fd as it is. -/
theorem ClosedOnce.reapNoHang (h : s.ClosedOnce) : s.reapNoHang.ClosedOnce := by
  unfold Session.reapNoHang
  split <;> exact h

/-- The first step of `_handle_exit`, which reaps the child, keeps the session settled. -/
theorem Settled.handleExit (h : s.Settled) (now : Time) (code : Option ℤ) :
    (s.handleExit now code).Settled := by
  by_cases halive : s.alive = true
  · have hlife := s.handleExit_toLifecycle now code halive
    have hterminal := s.handleExit_toTerminal now code halive
    have hdead : (s.handleExit now code).alive = false := congrArg Lifecycle.alive hlife
    have hclosed : (s.handleExit now code).masterFd = false :=
      (congrArg Terminal.masterFd hterminal).trans cleanupFd_masterFd
    have honce : s.exitProcess.ClosedOnce :=
      ClosedOnce.cleanupFd (s := { s with toLifecycle := s.toLifecycle.exit }) h.once
    have honce' : (s.handleExit now code).ClosedOnce := by
      have hcloses := congrArg Terminal.fdCloses hterminal
      have hfd := congrArg Terminal.masterFd hterminal
      exact hcloses.trans (honce.trans (by rw [← hfd]))
    refine ⟨fun _ => hdead, fun halive' => ?_, fun _ => hclosed, honce'⟩
    rw [hdead] at halive'
    cases halive'
  · have hdead : s.alive = false := by simpa using halive
    rw [s.handleExit_of_dead now code hdead]
    exact ⟨h.reaped, h.opened, h.closed, h.once⟩

end Session

/-! ## The signals -/

namespace Termination

variable {t : Termination} {k : ℕ} {stage : Stage} {left : ℕ}

/-- One iteration of `_wait_reaped` keeps the session settled. -/
theorem checkReaped_settled (h : t.session.Settled) :
    (t.checkReaped k stage left).session.Settled := by
  unfold checkReaped
  split
  · exact h.once.reapNoHang.endTerminate
  · exact h

/-- The end of a sleep keeps the session settled. -/
theorem poll_settled (h : t.session.Settled) : (t.poll k stage left).session.Settled := by
  unfold poll
  split
  · cases stage with
    | hup => exact checkReaped_settled (t := t.signalGroup .term) h
    | term => exact checkReaped_settled (t := t.signalGroup .kill) h
    | kill => exact h.once.endTerminate
  · exact checkReaped_settled h

/-- A new call keeps the session settled. -/
theorem terminate_settled (h : t.session.Settled) : (t.terminate k).session.Settled := by
  unfold terminate
  split
  · have hbegun : (t.on Session.beginTerminate).session.Settled :=
      ⟨h.reaped, h.opened, h.closed, h.once⟩
    exact checkReaped_settled (t := (t.on Session.beginTerminate).signalGroup .hup) hbegun
  · exact h

/-- Every step keeps the session settled. -/
theorem step_settled (h : t.session.Settled) (e : TerminationEvent) :
    (e.apply t).session.Settled := by
  cases e with
  | call k => exact terminate_settled h
  | poll k =>
    unfold TerminationEvent.apply
    dsimp only
    split
    · exact poll_settled h
    · exact h
  | childExits => exact ⟨nofun, h.opened, h.closed, h.once⟩
  | ptyEof => exact ⟨h.reaped, h.opened, h.closed, h.once⟩
  | exitRuns now code => exact h.handleExit now code

/-- Every signal was sent before the child was reaped, and once it is reaped no call is about to
send another one. -/
structure Sound (t : Termination) : Prop where
  settled : t.session.Settled
  signals : ∀ s ∈ t.signals, s.child ≠ .reaped
  lastSleep : t.session.child = .reaped → ∀ k, ¬(t.calls k).LastSleep

/-- A call that returns is in no sleep any more. -/
theorem lastSleep_setCall {call : TerminateCall} (hcall : ¬call.LastSleep)
    (hothers : ∀ j, j ≠ k → ¬(t.calls j).LastSleep) (j : ℕ) :
    ¬((t.setCall k call).calls j).LastSleep := by
  by_cases hj : j = k
  · subst hj
    simpa [setCall] using hcall
  · simpa [setCall, hj] using hothers j hj

/-- A call that has returned does not sleep. -/
theorem not_lastSleep_returned : ¬TerminateCall.returned.LastSleep := by
  rintro (h | h) <;> cases h

/-- The end of a call keeps the state sound, if no other call is about to signal a reaped child. -/
theorem finish_sound (honce : t.session.ClosedOnce) (hsignals : ∀ s ∈ t.signals, s.child ≠ .reaped)
    (hothers : t.session.child = .reaped → ∀ j, j ≠ k → ¬(t.calls j).LastSleep) :
    (t.finish k).Sound where
  settled := honce.endTerminate
  signals := hsignals
  lastSleep hreaped := by
    have hchild : (t.finish k).session.child = t.session.child :=
      Session.cleanupFd_child
        (s := { t.session with toLifecycle := t.session.toLifecycle.endTerminate })
    exact lastSleep_setCall not_lastSleep_returned (hothers (hchild.symm.trans hreaped))

/-- `waitpid` finds a reaped child only if it was reaped before or has just exited. -/
theorem reapNoHang_child {s : Session} (h : s.reapNoHang.child = .reaped) :
    s.child = .reaped ∨ s.alive = true ∧ s.child = .zombie := by
  unfold Session.reapNoHang at h
  split at h
  · next hzombie => exact .inr hzombie
  · exact .inl h

/-- One iteration of `_wait_reaped` keeps the state sound, if no other call is about to signal the
child that it may reap. -/
theorem checkReaped_sound (hsettled : t.session.Settled)
    (hsignals : ∀ s ∈ t.signals, s.child ≠ .reaped)
    (hothers : t.session.child = .reaped ∨ t.session.alive = true ∧ t.session.child = .zombie →
      ∀ j, j ≠ k → ¬(t.calls j).LastSleep) : (t.checkReaped k stage left).Sound := by
  unfold checkReaped
  split
  · exact finish_sound (t := t.on Session.reapNoHang) hsettled.once.reapNoHang hsignals
      fun hreaped => hothers (reapNoHang_child hreaped)
  · next hrunning =>
    have hchild : t.session.child = .running := by
      by_contra hchild
      exact hrunning (by simp [Session.reapedNow, hchild])
    refine ⟨hsettled, hsignals, fun hreaped => ?_⟩
    rw [show (t.setCall k _).session = t.session from rfl, hchild] at hreaped
    cases hreaped

/-- A signal to a child that was not reaped keeps the signals sound. -/
theorem signalGroup_signals (hsignals : ∀ s ∈ t.signals, s.child ≠ .reaped)
    (hchild : t.session.child ≠ .reaped) (stage : Stage) :
    ∀ s ∈ (t.signalGroup stage).signals, s.child ≠ .reaped := by
  intro s hs
  rcases List.mem_append.mp hs with hbefore | hlast
  · exact hsignals s hbefore
  · rw [List.mem_singleton.mp hlast]
    exact hchild

/-- What the condition on a step says of the other calls when the step may reap the child. -/
theorem Sound.others {e : TerminationEvent} (h : t.Sound) (hcond : ReapedOutside t e)
    (hreaps : t.session.alive = true ∧ t.session.child = .zombie → e.Reaps t)
    (hpoll : ∀ j, e = .poll j → j = k)
    (hchild : t.session.child = .reaped ∨ t.session.alive = true ∧ t.session.child = .zombie) :
    ∀ j, j ≠ k → ¬(t.calls j).LastSleep := by
  intro j hj hsleep
  rcases hchild with hreaped | hzombie
  · exact h.lastSleep hreaped j hsleep
  · exact hj (hpoll j (hcond (hreaps hzombie) j hsleep))

/-- The end of a sleep keeps the state sound. -/
theorem Sound.poll (h : t.Sound) (hcall : t.calls k = .polling stage left)
    (hcond : ReapedOutside t (.poll k)) : (t.poll k stage left).Sound := by
  have hothers (hgoes : stage ≠ .kill ∨ left ≠ 0) :
      t.session.child = .reaped ∨ t.session.alive = true ∧ t.session.child = .zombie →
        ∀ j, j ≠ k → ¬(t.calls j).LastSleep := by
    refine h.others hcond (fun hzombie => ⟨hzombie.1, hzombie.2, ?_⟩) fun j hj => ?_
    · rw [hcall]
      rintro ⟨⟩
      rcases hgoes with hstage | hleft
      · exact hstage rfl
      · exact hleft rfl
    · cases hj
      rfl
  unfold Termination.poll
  split
  · next hzero =>
    subst hzero
    cases stage with
    | hup =>
      have hchild : t.session.child ≠ .reaped := fun hreaped => h.lastSleep hreaped k (.inl hcall)
      exact checkReaped_sound h.settled (signalGroup_signals h.signals hchild .term)
        (hothers (.inl nofun))
    | term =>
      have hchild : t.session.child ≠ .reaped := fun hreaped => h.lastSleep hreaped k (.inr hcall)
      exact checkReaped_sound h.settled (signalGroup_signals h.signals hchild .kill)
        (hothers (.inl nofun))
    | kill => exact finish_sound h.settled.once h.signals fun hreaped j _ => h.lastSleep hreaped j
  · next hleft => exact checkReaped_sound h.settled h.signals (hothers (.inr hleft))

/-- A new call keeps the state sound. -/
theorem Sound.terminate (h : t.Sound) (hcond : ReapedOutside t (.call k)) :
    (t.terminate k).Sound := by
  unfold Termination.terminate
  split
  · next halive =>
    have hchild : t.session.child ≠ .reaped := by
      intro hreaped
      rw [h.settled.reaped hreaped] at halive
      cases halive
    have hsettled : (t.on Session.beginTerminate).session.Settled :=
      ⟨h.settled.reaped, h.settled.opened, h.settled.closed, h.settled.once⟩
    refine checkReaped_sound hsettled
      (signalGroup_signals (t := t.on Session.beginTerminate) h.signals hchild .hup) ?_
    exact h.others hcond id nofun
  · refine ⟨h.settled, h.signals, fun hreaped => ?_⟩
    exact lastSleep_setCall not_lastSleep_returned fun j _ => h.lastSleep hreaped j

/-- A step in which no child is reaped under another call's last sleep keeps the state sound. -/
theorem Sound.step {e : TerminationEvent} (h : t.Sound) (hen : e.Enabled t)
    (hcond : ReapedOutside t e) : (e.apply t).Sound := by
  cases e with
  | call k => exact h.terminate hcond
  | poll k =>
    cases hcall : t.calls k with
    | polling stage left =>
      have happly : TerminationEvent.apply t (.poll k) = t.poll k stage left := by
        simp [TerminationEvent.apply, hcall]
      rw [happly]
      exact h.poll hcall hcond
    | absent => exact absurd hcall hen.1
    | returned => exact absurd hcall hen.2
  | childExits =>
    refine ⟨⟨nofun, h.settled.opened, h.settled.closed, h.settled.once⟩, h.signals, nofun⟩
  | ptyEof =>
    exact ⟨⟨h.settled.reaped, h.settled.opened, h.settled.closed, h.settled.once⟩, h.signals,
      h.lastSleep⟩
  | exitRuns now code =>
    refine ⟨h.settled.handleExit now code, h.signals, fun hreaped k hsleep => ?_⟩
    by_cases halive : t.session.alive = true
    · cases hcond halive k hsleep
    · have hsame := t.session.handleExit_of_dead now code (by simpa using halive)
      have hchild : t.session.child = .reaped := by
        rw [← hreaped]
        show t.session.child = (t.session.handleExit now code).child
        rw [hsame]
      exact h.lastSleep hchild k hsleep

end Termination

/-- In every run the master fd is closed exactly once, when the session is over; and if the child
is never reaped under the last sleep of another `terminate` call before its next signal, no
signal is sent after the child was reaped. -/
theorem terminate_signals {s : Session} (hstarted : s.Started) :
    (∀ t, Run terminations (fun _ _ => True) { session := s } t →
        t.session.fdCloses = if t.session.alive then 0 else 1) ∧
      ∀ t, Run terminations ReapedOutside { session := s } t →
        ∀ signal ∈ t.signals, signal.child ≠ .reaped := by
  constructor
  · intro t hrun
    have hsettled : t.session.Settled := by
      induction hrun with
      | refl => exact hstarted.settled
      | step e _ _ _ ih => exact Termination.step_settled ih e
    rw [hsettled.once]
    cases halive : t.session.alive
    · rw [hsettled.closed halive]
    · rw [hsettled.opened halive]
  · intro t hrun
    have hinitial : Termination.Sound { session := s } := by
      refine ⟨hstarted.settled, nofun, fun _ k hsleep => ?_⟩
      rcases hsleep with h | h <;> cases h
    have hsound : t.Sound := hrun.invariant hinitial fun t e h hen hcond => h.step hen hcond
    exact hsound.signals

/-- A session that has just been spawned. -/
def spawnedSession : Session := Session.blank.spawn 0 0

/-- Two `terminate` calls overlap, and the process exits. -/
def overlappingCalls : Termination :=
  terminations.exec { session := spawnedSession } [.call 0, .call 1, .childExits]

/-- One of them reaps the child while the other one is in its first sleep. -/
theorem terminate_signals_overlapping :
    (overlappingCalls.session.fdCloses = if overlappingCalls.session.alive then 0 else 1) ∧
      ∀ signal ∈ (TerminationEvent.apply overlappingCalls (.poll 0)).signals,
        signal.child ≠ .reaped := by
  have hcalls : Run terminations (fun t e => ¬e.Reaps t) { session := spawnedSession }
      overlappingCalls := System.Valid.guardedRun _ (by decide)
  have hawake (k : ℕ) : ¬(overlappingCalls.calls k).LastSleep := by
    match k with
    | 0 => rintro (h | h) <;> cases h
    | 1 => rintro (h | h) <;> cases h
    | n + 2 => rintro (h | h) <;> cases h
  have hpolled : Run terminations ReapedOutside { session := spawnedSession }
      (terminations.apply overlappingCalls (.poll 0)) :=
    .step (.poll 0) (hcalls.mono fun _ _ h hreaps => absurd hreaps h) (by decide)
      fun _ k hsleep => absurd hsleep (hawake k)
  exact ⟨(terminate_signals ⟨rfl, rfl, rfl, rfl⟩).1 _ (hcalls.mono fun _ _ _ => trivial),
    (terminate_signals ⟨rfl, rfl, rfl, rfl⟩).2 _ hpolled⟩

/-- The process exits in the last sleep after `SIGHUP`, and `_handle_exit` reaps it. -/
def lateExit : Termination := terminations.exec { session := spawnedSession }
  ([.call 0] ++ List.replicate 19 (.poll 0) ++
    [.childExits, .ptyEof, .exitRuns 0 (some 0), .poll 0])

/-- Then `SIGTERM` goes to a process group that may be another one's by now. -/
theorem terminate_signals_reaped : ¬∀ (s : Session) (t : Termination), s.Started →
    Run terminations (fun _ _ => True) { session := s } t →
    ∀ signal ∈ t.signals, signal.child ≠ .reaped := by
  intro h
  have hrun : Run terminations (fun _ _ => True) { session := spawnedSession } lateExit :=
    System.Valid.run _ (by decide)
  have hsignals : lateExit.signals = [⟨.hup, .running⟩, ⟨.term, .reaped⟩] := by decide
  exact h spawnedSession lateExit ⟨rfl, rfl, rfl, rfl⟩ hrun ⟨.term, .reaped⟩
    (by simp [hsignals]) rfl

end WTerm
