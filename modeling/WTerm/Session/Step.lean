import Mathlib.Logic.Relation
import WTerm.Session.Protocol

/-!
# The steps of one session

Everything that the program does to a session is a sequence of the steps named here. Most of
them concern the frames, the PTY or the child and leave the lifecycle alone, which the first
half of the file records.
-/

namespace WTerm

namespace Session

variable (s : Session)

/-! ## Functions that leave the lifecycle alone -/

@[simp]
theorem pausePtyReader_toLifecycle : s.pausePtyReader.toLifecycle = s.toLifecycle := by
  unfold pausePtyReader
  split <;> rfl

@[simp]
theorem resumePtyReader_toLifecycle : s.resumePtyReader.toLifecycle = s.toLifecycle := by
  unfold resumePtyReader
  split_ifs <;> rfl

@[simp]
theorem resumeAtLowWatermark_toLifecycle :
    s.resumeAtLowWatermark.toLifecycle = s.toLifecycle := by
  unfold resumeAtLowWatermark
  split <;> simp

@[simp]
theorem settle_toLifecycle (done : Option ℕ) (sent : Bool) :
    (s.settle done sent).toLifecycle = s.toLifecycle := by
  unfold settle
  split
  · rfl
  · split <;> rfl

@[simp]
theorem createFuture_toLifecycle : s.createFuture.toLifecycle = s.toLifecycle := rfl

@[simp]
theorem onWriter_toLifecycle (ws : Ws) (f : Writer → Writer) :
    (s.onWriter ws f).toLifecycle = s.toLifecycle := rfl

@[simp]
theorem countPending_toLifecycle (payload : Payload) :
    (s.countPending payload).toLifecycle = s.toLifecycle := by
  cases payload with
  | bytes data =>
    unfold countPending
    dsimp only
    split <;> simp
  | text message => rfl
  | close code reason => rfl

@[simp]
theorem enqueueOutbound_toLifecycle (item : Outbound) :
    (s.enqueueOutbound item).toLifecycle = s.toLifecycle := by
  unfold enqueueOutbound
  split <;> simp

@[simp]
theorem sendStatus_toLifecycle (message : String) :
    (s.sendStatus message).toLifecycle = s.toLifecycle :=
  s.enqueueOutbound_toLifecycle _

@[simp]
theorem queuedClose_toLifecycle (code : ℕ) (reason : String) :
    (s.queuedClose code reason).toLifecycle = s.toLifecycle := by
  unfold queuedClose
  split <;> simp

@[simp]
theorem discard_toLifecycle (item : Outbound) : (s.discard item).toLifecycle = s.toLifecycle := by
  simp [discard]

@[simp]
theorem forgetWriter_toLifecycle (ws : Ws) : (s.forgetWriter ws).toLifecycle = s.toLifecycle := by
  unfold forgetWriter
  split <;> rfl

/-- Discarding a whole queue leaves the lifecycle alone. -/
theorem foldl_discard_toLifecycle (items : List Outbound) :
    (items.foldl discard s).toLifecycle = s.toLifecycle := by
  induction items generalizing s with
  | nil => rfl
  | cons item rest ih => simp [ih]

@[simp]
theorem finishWriter_toLifecycle (ws : Ws) : (s.finishWriter ws).toLifecycle = s.toLifecycle := by
  simp [finishWriter, foldl_discard_toLifecycle]

@[simp]
theorem releaseCurrent_toLifecycle (item : Outbound) (sent : Bool) :
    (s.releaseCurrent item sent).toLifecycle = s.toLifecycle := by
  unfold releaseCurrent
  split <;> simp

@[simp]
theorem writerSent_toLifecycle (ws : Ws) : (s.writerSent ws).toLifecycle = s.toLifecycle := by
  unfold writerSent
  split
  · dsimp only
    split <;> simp [recordSent]
  · rfl

@[simp]
theorem writerFailed_toLifecycle (ws : Ws) (delivered : Bool) :
    (s.writerFailed ws delivered).toLifecycle = s.toLifecycle := by
  unfold writerFailed
  split
  · cases delivered <;> simp [recordSent]
  · rfl

@[simp]
theorem writerCancelled_toLifecycle (ws : Ws) (delivered : Bool) :
    (s.writerCancelled ws delivered).toLifecycle = s.toLifecycle := by
  unfold writerCancelled
  split <;> simp

@[simp]
theorem stopOutboundWriter_toLifecycle (ws : Ws) :
    (s.stopOutboundWriter ws).toLifecycle = s.toLifecycle := by
  unfold stopOutboundWriter
  split <;> simp

@[simp]
theorem passOutput_toLifecycle (data : List UInt8) :
    (s.passOutput data).toLifecycle = s.toLifecycle := by
  unfold passOutput
  dsimp only
  split <;> simp [keepOutput]

@[simp]
theorem ptyEof_toLifecycle : s.ptyEof.toLifecycle = s.toLifecycle := rfl

@[simp]
theorem sendReplay_toLifecycle : s.sendReplay.toLifecycle = s.toLifecycle := by
  unfold sendReplay
  split <;> simp

@[simp]
theorem install_toLifecycle (ws : Ws) :
    (s.install ws).toLifecycle = s.toLifecycle.setWebsocket ws := by
  simp [install, setWebsocket]

@[simp]
theorem cleanupFd_toLifecycle : s.cleanupFd.toLifecycle = s.toLifecycle := by
  unfold cleanupFd
  split <;> rfl

@[simp]
theorem announceExit_toLifecycle (code : Option ℤ) :
    (s.announceExit code).toLifecycle = s.toLifecycle := by
  simp [announceExit]

/-- The natural exit of a live session ends its lifecycle. -/
theorem handleExit_toLifecycle (now : Time) (code : Option ℤ) (halive : s.alive = true) :
    (s.handleExit now code).toLifecycle = s.toLifecycle.exit.clearWebsocket now := by
  simp only [handleExit, halive, Bool.not_true, Bool.false_eq_true, if_false]
  split <;> simp [exitProcess, clearWebsocket]

/-- `_handle_exit` of a session that is over leaves the lifecycle alone. -/
theorem handleExit_of_dead (now : Time) (code : Option ℤ) (hdead : s.alive = false) :
    s.handleExit now code = { s with exitTask := .finished } := by
  simp [handleExit, hdead]

@[simp]
theorem endTerminate_toLifecycle :
    s.endTerminate.toLifecycle = s.toLifecycle.endTerminate := by
  simp [endTerminate]

/-! ## Functions of the lifecycle -/

@[simp]
theorem touch_toLifecycle (now : Time) :
    (s.touch now).toLifecycle = s.toLifecycle.touch now := rfl

@[simp]
theorem clearWebsocket_toLifecycle (now : Time) :
    (s.clearWebsocket now).toLifecycle = s.toLifecycle.clearWebsocket now := rfl

@[simp]
theorem cancelGrace_toLifecycle : s.cancelGrace.toLifecycle = s.toLifecycle.cancelGrace := rfl

@[simp]
theorem armGrace_toLifecycle (deadline : Time) :
    (s.armGrace deadline).toLifecycle = s.toLifecycle.armGrace deadline := rfl

@[simp]
theorem fireGrace_toLifecycle (k : ℕ) :
    (s.fireGrace k).toLifecycle = s.toLifecycle.fireGrace k := rfl

@[simp]
theorem sleepIdle_toLifecycle (wake : Time) :
    (s.sleepIdle wake).toLifecycle = s.toLifecycle.sleepIdle wake := rfl

@[simp]
theorem fireIdle_toLifecycle : s.fireIdle.toLifecycle = s.toLifecycle.fireIdle := rfl

@[simp]
theorem beginTerminate_toLifecycle :
    s.beginTerminate.toLifecycle = s.toLifecycle.beginTerminate := rfl

@[simp]
theorem spawn_toLifecycle (now : Time) (idleSeconds : ℕ) :
    (s.spawn now idleSeconds).toLifecycle = s.toLifecycle.spawn now idleSeconds := rfl

/-! ## Functions of the PTY and of the child -/

/-- Two sessions that differ in the PTY side only, and not in whether the PTY is open. -/
def SameButTerminal (s s' : Session) : Prop :=
  s' = { s with toTerminal := s'.toTerminal } ∧ s'.masterFd = s.masterFd

@[simp]
theorem SameButTerminal.refl : s.SameButTerminal s := ⟨rfl, rfl⟩

theorem SameButTerminal.trans {s s' s'' : Session} (h : s.SameButTerminal s')
    (h' : s'.SameButTerminal s'') : s.SameButTerminal s'' := by
  obtain ⟨hs, hfd⟩ := h
  obtain ⟨hs', hfd'⟩ := h'
  exact ⟨by rw [hs', hs], hfd'.trans hfd⟩

theorem reapNoHang_sameButTerminal : s.SameButTerminal s.reapNoHang := by
  unfold reapNoHang
  split <;> exact ⟨rfl, rfl⟩

theorem writePending_sameButTerminal (results : List WriteResult) :
    s.SameButTerminal (s.writePending results) := by
  induction results generalizing s with
  | nil => exact .refl s
  | cons result rest ih =>
    unfold writePending
    split_ifs
    · exact .refl s
    · cases result with
      | blocked => exact .refl s
      | failed => exact ⟨rfl, rfl⟩
      | wrote count =>
        dsimp only
        split_ifs
        · exact .refl s
        · exact SameButTerminal.trans ⟨rfl, rfl⟩ (ih _)

theorem flushWrite_sameButTerminal (results : List WriteResult) :
    s.SameButTerminal (s.flushWrite results) := by
  unfold flushWrite
  split_ifs
  · exact .refl s
  · dsimp only
    split_ifs
    · exact (s.writePending_sameButTerminal results).trans ⟨rfl, rfl⟩
    · exact (s.writePending_sameButTerminal results).trans ⟨rfl, rfl⟩

theorem resize_sameButTerminal (cols rows : ℤ) (results : List WriteResult) :
    s.SameButTerminal (s.resize cols rows results) := by
  unfold resize
  split_ifs <;> exact ⟨rfl, rfl⟩

/-- Only an input message of a live session counts as activity. -/
def activeInput (frame : Received) : Bool :=
  match frame with
  | .text (.ok (.obj members)) =>
    s.alive && s.masterFd && decide (Json.kind members = Json.inputKind) &&
      (Json.inputData? members).isSome
  | _ => false

/-! ## The steps -/

/-- The steps of a session, apart from its creation, the installation of a connection and the
cancellation of a writer. -/
inductive Step (now : Time) (s : Session) : Session → Prop
  /-- Timers, flags and the last activity. No such step makes a session live. -/
  | lifecycle (l : Lifecycle) (websocket : l.websocket = s.websocket)
      (joined : l.joined = s.joined)
      (live : l.alive = true → l.terminating = false → s.alive = true ∧ s.terminating = false) :
      Step now s { s with toLifecycle := l }
  | clear : Step now s (s.clearWebsocket now)
  | status (message : String) : Step now s (s.sendStatus message)
  | close (code : ℕ) (reason : String) (known : code ∈ serverCloseCodes) :
      Step now s (s.queuedClose code reason)
  | stop (ws : Ws) : Step now s (s.stopOutboundWriter ws)
  | take (ws : Ws) (waiting : (s.writers ws).pc.Waiting) :
      Step now s (s.onWriter ws Writer.take)
  | sent (ws : Ws) : Step now s (s.writerSent ws)
  | failed (ws : Ws) (delivered : Bool) : Step now s (s.writerFailed ws delivered)
  | output (data : List UInt8) : Step now s (s.passOutput data)
  | eof : Step now s s.ptyEof
  | exitTask (task : ExitTask) (begun : task ≠ .none) : Step now s { s with exitTask := task }
  | terminal (s' : Session) (same : s.SameButTerminal s') : Step now s s'
  | exit (code : Option ℤ) : Step now s (s.handleExit now code)
  | endTerminate : Step now s s.endTerminate

/-- Sequences of steps at one moment. -/
abbrev Steps (now : Time) : Session → Session → Prop := Relation.ReflTransGen (Step now)

/-- Sessions that differ in the PTY side have the same lifecycle. -/
theorem SameButTerminal.toLifecycle {s s' : Session} (h : s.SameButTerminal s') :
    s'.toLifecycle = s.toLifecycle := by
  rw [h.1]

/-- The effect of one frame on the lifecycle: an input message is activity. -/
def frameLifecycle (now : Time) (frame : Received) : Lifecycle :=
  if s.activeInput frame then s.toLifecycle.touch now else s.toLifecycle

/-- `write_input` of a live session is activity, and it is a sequence of steps. -/
theorem writeInput_steps (now : Time) (data : PyStr) (results : List WriteResult) :
    Steps now s (s.writeInput now data results).1 ∧
      (s.writeInput now data results).1.toLifecycle =
        if s.alive && s.masterFd then s.toLifecycle.touch now else s.toLifecycle := by
  by_cases hopen : (s.alive && s.masterFd) = true
  · have hsame : (s.touch now).SameButTerminal (s.writeInput now data results).1 := by
      unfold writeInput
      simp only [hopen, Bool.not_true, Bool.false_eq_true, if_false]
      split
      · exact .refl _
      · split_ifs
        · exact ⟨rfl, rfl⟩
        · exact SameButTerminal.trans ⟨rfl, rfl⟩ (flushWrite_sameButTerminal _ results)
    refine ⟨?_, by rw [if_pos hopen, hsame.toLifecycle]; rfl⟩
    exact (Relation.ReflTransGen.single (.lifecycle (s.toLifecycle.touch now) rfl rfl .intro)).tail
      (.terminal _ hsame)
  · have hsame : (s.writeInput now data results).1 = s := by
      unfold writeInput
      rw [if_pos (by simp [Bool.eq_false_iff.mpr hopen])]
    rw [hsame, if_neg hopen]
    exact ⟨.refl, rfl⟩

/-- The input branch is `write_input`, perhaps followed by a status. -/
theorem applyInput_steps (now : Time) (data : PyStr) (results : List WriteResult) :
    Steps now s (s.applyInput now data results).1 ∧
      (s.applyInput now data results).1.toLifecycle =
        if s.alive && s.masterFd then s.toLifecycle.touch now else s.toLifecycle := by
  obtain ⟨hsteps, hlife⟩ := s.writeInput_steps now data results
  unfold applyInput
  split
  · next s' h =>
    rw [h] at hsteps hlife
    exact ⟨hsteps.tail (.status droppedMessage), by simpa using hlife⟩
  · next s' h =>
    rw [h] at hsteps hlife
    exact ⟨hsteps, hlife⟩
  · next s' e h =>
    rw [h] at hsteps hlife
    exact ⟨hsteps, hlife⟩

/-- One turn of the receive loop is a sequence of steps, and it is activity for input only. -/
theorem handleFrame_steps (now : Time) (frame : Received) (results : List WriteResult) :
    Steps now s (s.handleFrame now frame results).1 ∧
      (s.handleFrame now frame results).1.toLifecycle = s.frameLifecycle now frame := by
  have hsame (f : Received) (h : s.activeInput f = false) :
      Steps now s s ∧ s.toLifecycle = s.frameLifecycle now f := by
    simp [frameLifecycle, h, Relation.ReflTransGen.refl]
  unfold handleFrame
  split
  · exact hsame _ rfl
  · exact hsame _ rfl
  · exact hsame _ rfl
  · next members =>
    unfold applyMessage
    split
    · next hkind =>
      split
      · next data hdata =>
        have hactive : s.activeInput (.text (.ok (.obj members))) = (s.alive && s.masterFd) := by
          simp [activeInput, hkind, hdata]
        have hinput := s.applyInput_steps now data results
        simpa only [frameLifecycle, hactive] using hinput
      · next hdata => exact hsame _ (by simp [activeInput, hdata])
    · next hkind =>
      have hquiet : s.activeInput (.text (.ok (.obj members))) = false := by
        simp [activeInput, hkind]
      split
      · split
        · next cols rows hsize =>
          have hresize := s.resize_sameButTerminal cols rows results
          refine ⟨.single (.terminal _ hresize), ?_⟩
          simp [frameLifecycle, hquiet, hresize.toLifecycle]
        · exact hsame _ hquiet
      · exact hsame _ hquiet
  · next hobj =>
    refine hsame _ ?_
    unfold activeInput
    split
    · next h => exact absurd h (by simpa using hobj _)
    · rfl

end Session

end WTerm
