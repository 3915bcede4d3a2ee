import WTerm.Manager.Refinement
import WTerm.Manager.Termination

/-!
# The input side of the sessions

Only `write_input`, `_flush_write` and `resize` give a PTY anything. Whatever else an event does,
the bytes and the sizes that a PTY was given stay, and what is pending stays as long as the session
takes input.
-/

namespace WTerm

/-- Nothing but the end of the session has happened to its input side. -/
structure Session.SameInput (s s' : Session) : Prop where
  written : s'.written = s.written
  winsizes : s'.winsizes = s.winsizes
  buffer : s'.writeBuffer = s.writeBuffer ∨ s'.writeBuffer = []
  /-- A session that takes input did so before, and has kept what is pending. -/
  takes : (s'.alive && s'.masterFd) = true →
    (s.alive && s.masterFd) = true ∧ s'.writeBuffer = s.writeBuffer

namespace Session

variable {s s' s'' : Session}

/-- Nothing has happened. -/
@[simp]
theorem SameInput.refl (s : Session) : s.SameInput s := ⟨rfl, rfl, .inl rfl, fun h => ⟨h, rfl⟩⟩

/-- Two changes, one after the other, of which neither adds to the input of the session, add nothing
to it. -/
theorem SameInput.trans (h : s.SameInput s') (h' : s'.SameInput s'') : s.SameInput s'' where
  written := h'.written.trans h.written
  winsizes := h'.winsizes.trans h.winsizes
  buffer := by
    rcases h'.buffer with hkept | hempty
    · rw [hkept]
      exact h.buffer
    · exact .inr hempty
  takes htakes := by
    obtain ⟨hbefore, hbuffer⟩ := h'.takes htakes
    obtain ⟨hfirst, hbuffer'⟩ := h.takes hbefore
    exact ⟨hfirst, hbuffer.trans hbuffer'⟩

/-- A change of neither the PTY side nor whether the session is alive adds nothing to its input. -/
theorem SameInput.of_terminal (hterminal : s'.toTerminal = s.toTerminal)
    (halive : s'.alive = s.alive) : s.SameInput s' where
  written := congrArg Terminal.written hterminal
  winsizes := congrArg Terminal.winsizes hterminal
  buffer := .inl (congrArg Terminal.writeBuffer hterminal)
  takes htakes := by
    have hfd : s'.masterFd = s.masterFd := congrArg Terminal.masterFd hterminal
    rw [halive, hfd] at htakes
    exact ⟨htakes, congrArg Terminal.writeBuffer hterminal⟩

/-- A change of the frames and queues only adds nothing to the input of the session. -/
theorem SameInput.of_output (hterminal : s'.toTerminal = s.toTerminal)
    (hlife : s'.toLifecycle = s.toLifecycle) : s.SameInput s' :=
  .of_terminal hterminal (congrArg Lifecycle.alive hlife)

/-- A change that ends the session may clear what is pending, and adds nothing to the input. -/
theorem SameInput.of_dead (hwritten : s'.written = s.written) (hsizes : s'.winsizes = s.winsizes)
    (hbuffer : s'.writeBuffer = s.writeBuffer ∨ s'.writeBuffer = []) (hdead : s'.alive = false) :
    s.SameInput s' where
  written := hwritten
  winsizes := hsizes
  buffer := hbuffer
  takes htakes := by
    rw [hdead] at htakes
    cases htakes

/-! ## The functions that concern the frames -/

variable (s)

@[simp]
theorem resumeAtLowWatermark_toTerminal :
    s.resumeAtLowWatermark.toTerminal = s.toTerminal := by
  unfold resumeAtLowWatermark resumePtyReader
  split_ifs <;> rfl

@[simp]
theorem discard_toTerminal (item : Outbound) : (s.discard item).toTerminal = s.toTerminal := by
  unfold discard
  exact settle_toTerminal _ _ _

/-- Discarding a whole queue leaves the PTY side alone. -/
theorem foldl_discard_toTerminal (items : List Outbound) :
    (items.foldl discard s).toTerminal = s.toTerminal := by
  induction items generalizing s with
  | nil => rfl
  | cons item rest ih => simp [ih]

@[simp]
theorem forgetWriter_toTerminal (ws : Ws) : (s.forgetWriter ws).toTerminal = s.toTerminal := by
  unfold forgetWriter
  split <;> rfl

@[simp]
theorem onWriter_toTerminal (ws : Ws) (f : Writer → Writer) :
    (s.onWriter ws f).toTerminal = s.toTerminal := rfl

@[simp]
theorem finishWriter_toTerminal (ws : Ws) : (s.finishWriter ws).toTerminal = s.toTerminal := by
  unfold finishWriter
  rw [onWriter_toTerminal, forgetWriter_toTerminal, resumeAtLowWatermark_toTerminal,
    foldl_discard_toTerminal]

@[simp]
theorem releaseCurrent_toTerminal (item : Outbound) (sent : Bool) :
    (s.releaseCurrent item sent).toTerminal = s.toTerminal := by
  unfold releaseCurrent
  split
  · rw [settle_toTerminal, resumeAtLowWatermark_toTerminal]
  · exact s.settle_toTerminal _ _

@[simp]
theorem writerSent_toTerminal (ws : Ws) : (s.writerSent ws).toTerminal = s.toTerminal := by
  unfold writerSent
  split
  · dsimp only
    split <;> simp [recordSent]
  · rfl

@[simp]
theorem writerFailed_toTerminal (ws : Ws) (delivered : Bool) :
    (s.writerFailed ws delivered).toTerminal = s.toTerminal := by
  unfold writerFailed
  split
  · cases delivered <;> simp [recordSent]
  · rfl

@[simp]
theorem writerCancelled_toTerminal (ws : Ws) (delivered : Bool) :
    (s.writerCancelled ws delivered).toTerminal = s.toTerminal := by
  unfold writerCancelled
  split <;> simp

@[simp]
theorem stopOutboundWriter_toTerminal (ws : Ws) :
    (s.stopOutboundWriter ws).toTerminal = s.toTerminal := by
  unfold stopOutboundWriter
  split <;> rfl

@[simp]
theorem passOutput_toTerminal (data : List UInt8) :
    (s.passOutput data).toTerminal = s.toTerminal := by
  have hkeep : (s.keepOutput data).toTerminal = s.toTerminal := by rw [keepOutput]
  unfold passOutput
  dsimp only
  split
  · rw [enqueueOutbound_toTerminal, hkeep]
  · exact hkeep

@[simp]
theorem install_toTerminal (ws : Ws) : (s.install ws).toTerminal = s.toTerminal := by
  have hreplay : ∀ s' : Session, s'.sendReplay.toTerminal = s'.toTerminal := by
    intro s'
    unfold sendReplay
    split
    · rfl
    · rw [enqueueOutbound_toTerminal, createFuture]
  rw [install, hreplay, setWebsocket]

/-! ## The functions that end the session -/

/-- `_cleanup_fd` gives the PTY nothing, and keeps what is pending or forgets all of it. -/
theorem cleanupFd_input : s.cleanupFd.written = s.written ∧ s.cleanupFd.winsizes = s.winsizes ∧
    (s.cleanupFd.writeBuffer = s.writeBuffer ∨ s.cleanupFd.writeBuffer = []) := by
  unfold cleanupFd
  split
  · exact ⟨rfl, rfl, .inr rfl⟩
  · exact ⟨rfl, rfl, .inl rfl⟩

/-- The last statements of `terminate` add nothing to the input of the session. -/
theorem endTerminate_sameInput : s.SameInput s.endTerminate := by
  obtain ⟨hwritten, hsizes, hbuffer⟩ :=
    ({ s with toLifecycle := s.toLifecycle.endTerminate }).cleanupFd_input
  exact .of_dead hwritten hsizes hbuffer (congrArg Lifecycle.alive s.endTerminate_toLifecycle)

/-- The first step of `_handle_exit` adds nothing to the input of the session. -/
theorem handleExit_sameInput (now : Time) (code : Option ℤ) :
    s.SameInput (s.handleExit now code) := by
  cases halive : s.alive with
  | false =>
    rw [s.handleExit_of_dead now code halive]
    exact .of_terminal rfl rfl
  | true =>
    have hterminal := s.handleExit_toTerminal now code halive
    have hlife := s.handleExit_toLifecycle now code halive
    obtain ⟨hwritten, hsizes, hbuffer⟩ :=
      ({ s with toLifecycle := s.toLifecycle.exit }).cleanupFd_input
    refine .of_dead ?_ ?_ ?_ ?_
    · exact (congrArg Terminal.written hterminal).trans hwritten
    · exact (congrArg Terminal.winsizes hterminal).trans hsizes
    · have hpending : (s.handleExit now code).writeBuffer = s.exitProcess.writeBuffer :=
        congrArg Terminal.writeBuffer hterminal
      rw [hpending]
      exact hbuffer
    · exact congrArg Lifecycle.alive hlife

/-- `waitpid`, which collects the child, adds nothing to the input of the session. -/
theorem reapNoHang_sameInput : s.SameInput s.reapNoHang := by
  unfold reapNoHang
  split
  · exact ⟨rfl, rfl, .inl rfl, fun h => ⟨h, rfl⟩⟩
  · exact .refl s

/-- The exit of the child adds nothing to the input of the session. -/
theorem childExit_sameInput : s.SameInput s.childExit :=
  ⟨rfl, rfl, .inl rfl, fun h => ⟨h, rfl⟩⟩

end Session

/-- Nothing but the start and the end of sessions has happened to the input side. -/
structure World.SameInputs (w w' : World) : Prop where
  count : w.count ≤ w'.count
  session : ∀ sid, (w.sessions sid).SameInput (w'.sessions sid) ∨
    w.count ≤ sid ∧ ∃ now idleSeconds,
      (Session.blank.spawn now idleSeconds).SameInput (w'.sessions sid)

namespace World

variable {cfg : Settings} {w w' w'' : World}

/-- Two changes of the world, one after the other, of which neither adds to an input, add nothing to
one. -/
theorem SameInputs.trans (h : w.SameInputs w') (h' : w'.SameInputs w'') : w.SameInputs w'' where
  count := Nat.le_trans h.count h'.count
  session sid := by
    rcases h'.session sid with hsame' | ⟨hnew, hspawn⟩
    · rcases h.session sid with hsame | ⟨hnew, now, idleSeconds, hspawn⟩
      · exact .inl (hsame.trans hsame')
      · exact .inr ⟨hnew, now, idleSeconds, hspawn.trans hsame'⟩
    · exact .inr ⟨Nat.le_trans h.count hnew, hspawn⟩

/-- A change that does not concern the sessions adds nothing to any input. -/
theorem SameInputs.of_sessions (hsessions : w'.sessions = w.sessions)
    (hcount : w'.count = w.count) : w.SameInputs w' where
  count := Nat.le_of_eq hcount.symm
  session sid := .inl (by rw [hsessions]; exact .refl _)

/-- When nothing happens, no session gets input. -/
theorem SameInputs.refl (w : World) : w.SameInputs w := .of_sessions rfl rfl

/-- The holder of the lock moves on. -/
theorem SameInputs.hold (w : World) (c : Critical) : w.SameInputs (w.hold c) :=
  .of_sessions rfl rfl

/-- A change of one session that adds nothing to its input adds nothing to any. -/
theorem SameInputs.on (w : World) (sid : SessionId) {f : Session → Session}
    (h : (w.sessions sid).SameInput (f (w.sessions sid))) : w.SameInputs (w.on sid f) where
  count := Nat.le_refl _
  session sid' := by
    refine .inl ?_
    by_cases hsid : sid' = sid
    · subst hsid
      simpa using h
    · rw [on_sessions, Function.update_of_ne hsid]
      exact .refl _

/-- A change of one session's frames only adds nothing to any input. -/
theorem SameInputs.on_output (w : World) (sid : SessionId) {f : Session → Session}
    (hterminal : ∀ s, (f s).toTerminal = s.toTerminal)
    (hlife : ∀ s, (f s).toLifecycle = s.toLifecycle) : w.SameInputs (w.on sid f) :=
  .on w sid (.of_output (hterminal _) (hlife _))

/-- A change of one session's timers and connection only adds nothing to any input. -/
theorem SameInputs.on_lifecycle (w : World) (sid : SessionId) {f : Session → Session}
    (hterminal : ∀ s, (f s).toTerminal = s.toTerminal) (halive : ∀ s, (f s).alive = s.alive) :
    w.SameInputs (w.on sid f) :=
  .on w sid (.of_terminal (hterminal _) (halive _))

/-! ## The functions of the key -/

theorem sameInputs_callClose (w : World) (ws : Ws) (code : ℕ) :
    w.SameInputs (w.callClose ws code) := by
  unfold callClose
  split
  · exact .refl w
  · exact .of_sessions rfl rfl

theorem sameInputs_purge (w : World) : w.SameInputs w.purge := by
  unfold purge
  split
  · exact .refl w
  · split
    · exact .refl w
    · exact .of_sessions rfl rfl

/-- `cancel_grace` of one session adds nothing to any input. -/
theorem sameInputs_cancelGrace (w : World) (sid : SessionId) :
    w.SameInputs (w.on sid (·.cancelGrace)) :=
  .on_lifecycle w sid (fun _ => rfl) fun s => congrArg Lifecycle.alive s.cancelGrace_toLifecycle
    |>.trans s.toLifecycle.cancelGrace_alive

/-- The loss of a session's connection adds nothing to any input. -/
theorem sameInputs_clear (w : World) (sid : SessionId) (now : Time) :
    w.SameInputs (w.on sid (·.clearWebsocket now)) :=
  .on_lifecycle w sid (fun _ => rfl) fun _ => rfl

/-- `_stop_outbound_writer` of one session adds nothing to any input. -/
theorem sameInputs_stop (w : World) (sid : SessionId) (ws : Ws) :
    w.SameInputs (w.on sid (·.stopOutboundWriter ws)) :=
  .on_output w sid (fun s => s.stopOutboundWriter_toTerminal ws)
    fun s => s.stopOutboundWriter_toLifecycle ws

/-- `send_status` of one session adds nothing to any input. -/
theorem sameInputs_status (w : World) (sid : SessionId) (message : String) :
    w.SameInputs (w.on sid (·.sendStatus message)) :=
  .on_output w sid (fun s => s.enqueueOutbound_toTerminal _) fun s => s.sendStatus_toLifecycle _

/-- A close that is queued in one session adds nothing to any input. -/
theorem sameInputs_close (w : World) (sid : SessionId) (code : ℕ) (reason : String) :
    w.SameInputs (w.on sid (·.queuedClose code reason)) :=
  .on_output w sid (fun s => s.queuedClose_toTerminal code reason)
    fun s => s.queuedClose_toLifecycle code reason

theorem sameInputs_takeSocket (w : World) (sid : SessionId) :
    w.SameInputs (w.takeSocket sid) := by
  have htaken : w.SameInputs (w.takeFrom sid) := .of_sessions rfl rfl
  exact htaken.trans (sameInputs_clear _ sid w.now)

theorem sameInputs_finishDetach (w : World) (ws : Ws) (sid : SessionId) :
    w.SameInputs (w.finishDetach cfg ws sid) := by
  unfold finishDetach
  split
  · exact (SameInputs.on_lifecycle w sid (f := (·.armGrace (w.now + cfg.grace))) (fun _ => rfl)
      fun _ => rfl).trans (.of_sessions rfl rfl)
  · exact .of_sessions rfl rfl

theorem sameInputs_detach (w : World) (ws : Ws) (sid : SessionId) :
    w.SameInputs (w.detach cfg ws sid) := by
  unfold detach
  split
  · dsimp only
    have hroute : w.SameInputs (w.setRoute ws (.detaching sid ((w.sessions sid).stopAwaits ws))) :=
      .of_sessions rfl rfl
    have hstop := (hroute.trans (sameInputs_clear _ sid w.now)).trans (sameInputs_stop _ sid ws)
    split
    · exact hstop
    · exact hstop.trans (sameInputs_finishDetach _ ws sid)
  · exact .of_sessions rfl rfl

theorem sameInputs_receiveNext (w : World) (ws : Ws) (sid : SessionId) :
    w.SameInputs (w.receiveNext cfg ws sid) := by
  unfold receiveNext
  split
  · exact w.sameInputs_detach ws sid
  · exact .refl w

theorem sameInputs_attachReturned (w : World) (ws : Ws) (sid : SessionId) (message : String) :
    w.SameInputs (w.attachReturned cfg ws sid message) := by
  have hloop : w.SameInputs ((w.on sid (·.sendStatus message)).enterLoop ws sid) :=
    (w.sameInputs_status sid message).trans (.of_sessions rfl rfl)
  exact hloop.trans (sameInputs_receiveNext _ ws sid)

theorem sameInputs_installSocket (w : World) (ws : Ws) (sid : SessionId) (message : String) :
    w.SameInputs (w.installSocket cfg ws sid message) := by
  have hinstall : w.SameInputs (w.installed ws sid message) :=
    (SameInputs.on_lifecycle w sid (f := (·.install ws)) (fun s => s.install_toTerminal ws)
      fun s => (congrArg Lifecycle.alive (s.install_toLifecycle ws)).trans rfl).trans
        (.of_sessions rfl rfl)
  unfold installSocket
  dsimp only
  split
  · exact hinstall.trans (sameInputs_attachReturned _ ws sid message)
  · exact hinstall

theorem sameInputs_closeOld (w : World) (ws : Ws) (sid : SessionId) (message : String) (old : Ws) :
    w.SameInputs (w.closeOld ws sid message old) :=
  (w.sameInputs_callClose old displacedCloseCode).trans (.of_sessions rfl rfl)

theorem sameInputs_displaceOld (w : World) (ws : Ws) (sid : SessionId) (message : String)
    (old : Ws) : w.SameInputs (w.displaceOld ws sid message old) := by
  unfold displaceOld
  dsimp only
  split
  · exact (w.sameInputs_stop sid old).trans (.of_sessions rfl rfl)
  · exact (w.sameInputs_stop sid old).trans (sameInputs_closeOld _ ws sid message old)

theorem sameInputs_attach (w : World) (ws : Ws) (sid : SessionId) (message : String) :
    w.SameInputs (w.attach cfg ws sid message) := by
  have hhold : w.SameInputs (w.hold (.attaching ws sid message .begin)) := .of_sessions rfl rfl
  have htouch := (hhold.trans (sameInputs_cancelGrace _ sid)).trans
    (SameInputs.on_lifecycle _ sid (f := (·.touch w.now)) (fun _ => rfl) fun _ => rfl)
  unfold attach
  dsimp only
  split
  · exact htouch.trans (sameInputs_installSocket _ ws sid message)
  · exact (htouch.trans (sameInputs_takeSocket _ sid)).trans
      (sameInputs_displaceOld _ ws sid message _)

/-- A session is created, and it has been given nothing. -/
theorem sameInputs_spawnSession (w : World) (ws : Ws) (message : String) :
    w.SameInputs (w.spawnSession cfg ws message) where
  count := Nat.le_succ w.count
  session sid := by
    by_cases hsid : sid = w.count
    · subst hsid
      refine .inr ⟨Nat.le_refl _, w.now, cfg.idleSeconds, ?_⟩
      rw [spawnSession_self]
      exact .refl _
    · rw [spawnSession_of_ne hsid]
      exact .inl (.refl _)

theorem sameInputs_startFresh (w : World) (ws : Ws) (message : String) :
    w.SameInputs (w.startFresh cfg ws message) :=
  (w.sameInputs_spawnSession ws message).trans (sameInputs_attach _ ws w.count message)

theorem sameInputs_dropOwn (w : World) (sid : SessionId) : w.SameInputs (w.dropOwn sid) := by
  unfold dropOwn
  split
  · exact .of_sessions rfl rfl
  · exact .refl w

theorem sameInputs_finishEnding (w : World) (owner : Owner) (sid : SessionId) :
    w.SameInputs (w.finishEnding cfg owner sid) := by
  cases owner with
  | route ws mode message =>
    exact (w.sameInputs_dropOwn sid).trans (sameInputs_startFresh _ ws message)
  | endRequest request => exact (w.sameInputs_dropOwn sid).trans (.of_sessions rfl rfl)
  | grace k => exact (w.sameInputs_dropOwn sid).trans (.of_sessions rfl rfl)
  | idle => exact (w.sameInputs_dropOwn sid).trans (.of_sessions rfl rfl)

theorem sameInputs_endTerminate (w : World) (owner : Owner) (sid : SessionId) :
    w.SameInputs (w.endTerminate owner sid) :=
  (SameInputs.on w sid (Session.endTerminate_sameInput _)).trans (.of_sessions rfl rfl)

theorem sameInputs_checkReaped (w : World) (owner : Owner) (sid : SessionId) (stage : Stage)
    (left : ℕ) : w.SameInputs (w.checkReaped cfg owner sid stage left) := by
  unfold checkReaped
  split
  · have hreap : w.SameInputs (w.on sid Session.reapNoHang) :=
      .on w sid (Session.reapNoHang_sameInput _)
    exact (hreap.trans (sameInputs_endTerminate _ owner sid)).trans
      (sameInputs_finishEnding _ owner sid)
  · exact .of_sessions rfl rfl

theorem sameInputs_poll (w : World) (owner : Owner) (sid : SessionId) (stage : Stage) (left : ℕ) :
    w.SameInputs (w.poll cfg owner sid stage left) := by
  have hsignal : ∀ stage, w.SameInputs (w.signal owner sid stage) := fun _ => .of_sessions rfl rfl
  unfold poll
  split
  · cases stage with
    | hup => exact (hsignal .term).trans (sameInputs_checkReaped _ owner sid .term _)
    | term => exact (hsignal .kill).trans (sameInputs_checkReaped _ owner sid .kill 10)
    | kill =>
      exact (w.sameInputs_endTerminate owner sid).trans (sameInputs_finishEnding _ owner sid)
  · exact w.sameInputs_checkReaped owner sid stage left

theorem sameInputs_terminate (w : World) (owner : Owner) (sid : SessionId) :
    w.SameInputs (w.terminate cfg owner sid) := by
  unfold terminate
  split
  · dsimp only
    have hnotify : w.SameInputs (if (w.sessions sid).terminating then w else w.notify) := by
      split
      · exact .refl w
      · exact .of_sessions rfl rfl
    refine (hnotify.trans ?_).trans (sameInputs_checkReaped _ owner sid .hup 20)
    exact (SameInputs.on_lifecycle _ sid (f := Session.beginTerminate) (fun _ => rfl)
      fun _ => rfl).trans (.of_sessions rfl rfl)
  · exact (SameInputs.hold w (.ended owner sid)).trans (sameInputs_finishEnding _ owner sid)

theorem sameInputs_notifySocket (w : World) (owner : Owner) (sid : SessionId) (ws : Option Ws)
    (message : String) (code : ℕ) (reason : String) :
    w.SameInputs (w.notifySocket cfg owner sid ws message code reason) := by
  unfold notifySocket
  split
  · exact w.sameInputs_terminate owner sid
  · dsimp only
    split
    · exact (w.sameInputs_status sid message).trans (sameInputs_terminate _ owner sid)
    · exact ((w.sameInputs_status sid message).trans (sameInputs_close _ sid code reason)).trans
        (.of_sessions rfl rfl)

theorem sameInputs_notifyAndTerminate (w : World) (owner : Owner) (sid : SessionId)
    (message : String) (code : ℕ) (reason : String) :
    w.SameInputs (w.notifyAndTerminate cfg owner sid message code reason) :=
  (w.sameInputs_takeSocket sid).trans (sameInputs_notifySocket _ owner sid _ message code reason)

theorem sameInputs_closeReplaced (w : World) (owner : Owner) (sid : SessionId) (old : Ws) :
    w.SameInputs (w.closeReplaced owner sid old) :=
  (w.sameInputs_callClose old displacedCloseCode).trans (.of_sessions rfl rfl)

theorem sameInputs_displaceSocket (w : World) (owner : Owner) (sid : SessionId)
    (ws : Option Ws) : w.SameInputs (w.displaceSocket cfg owner sid ws) := by
  unfold displaceSocket
  split
  · exact w.sameInputs_terminate owner sid
  · next old =>
    dsimp only
    split
    · exact (w.sameInputs_stop sid old).trans (.hold _ _)
    · exact (w.sameInputs_stop sid old).trans (sameInputs_closeReplaced _ owner sid old)

theorem sameInputs_replace (w : World) (owner : Owner) (sid : SessionId) :
    w.SameInputs (w.replace cfg owner sid) :=
  (((SameInputs.hold w (.ending owner sid .begin)).trans (sameInputs_cancelGrace _ sid)).trans
    (sameInputs_takeSocket _ sid)).trans (sameInputs_displaceSocket _ owner sid _)

theorem sameInputs_startLocked (w : World) (ws : Ws) (mode : Mode) (message : String) :
    w.SameInputs (w.startLocked cfg ws mode message) := by
  unfold startLocked
  dsimp only
  split
  · exact w.sameInputs_purge.trans (sameInputs_startFresh _ ws message)
  · exact w.sameInputs_purge.trans (sameInputs_replace _ _ _)

theorem sameInputs_startRoute (w : World) (ws : Ws) (mode : Mode) (found : Bool) :
    w.SameInputs (w.startRoute cfg ws mode found) := by
  unfold startRoute
  split_ifs
  · exact w.sameInputs_startLocked ws mode _
  · exact .of_sessions rfl rfl
  · exact w.sameInputs_startLocked ws mode _

theorem sameInputs_enterRoute (w : World) (ws : Ws) (mode : Mode) (found : Bool) :
    w.SameInputs (w.enterRoute cfg ws mode found) := by
  unfold enterRoute
  dsimp only
  split
  · exact w.sameInputs_purge.trans (sameInputs_startRoute _ ws mode found)
  · split
    · exact w.sameInputs_purge.trans (sameInputs_startRoute _ ws mode found)
    · exact w.sameInputs_purge.trans (sameInputs_attach _ ws _ reattachMessage)

theorem sameInputs_enter (w : World) (task : Waiter) (found : Bool) :
    w.SameInputs (w.enter cfg task found) := by
  cases task with
  | route ws mode => exact w.sameInputs_enterRoute ws mode found
  | endRequest request =>
    simp only [enter, enterEnd]
    split
    · exact w.sameInputs_purge.trans (.of_sessions rfl rfl)
    · next sid _ =>
      have hhold : w.SameInputs (w.purge.hold (.ending (.endRequest request) sid .begin)) :=
        w.sameInputs_purge.trans (.of_sessions rfl rfl)
      exact (hhold.trans (sameInputs_cancelGrace _ sid)).trans
        (sameInputs_notifyAndTerminate _ _ sid _ _ _)
  | grace sid k =>
    simp only [enter, enterGrace]
    split
    · exact (SameInputs.hold w (.ending (.grace k) sid .begin)).trans (sameInputs_terminate _ _ sid)
    · exact .of_sessions rfl rfl
  | idle sid =>
    simp only [enter, enterIdle]
    split
    · exact (SameInputs.hold w (.ending .idle sid .begin)).trans
        (sameInputs_notifyAndTerminate _ _ sid _ _ _)
    · exact .of_sessions rfl rfl

theorem sameInputs_acquire (w : World) (found : Bool) : w.SameInputs (w.acquire cfg found) := by
  unfold acquire
  split
  · exact .refl w
  · next task rest _ =>
    have hgrant : w.SameInputs (w.grant task rest) := by
      cases task <;> exact .of_sessions rfl rfl
    exact hgrant.trans (sameInputs_enter _ task found)

theorem sameInputs_request (w : World) (task : Waiter) (found : Bool) :
    w.SameInputs (w.request cfg task found) := by
  have henqueue : w.SameInputs (w.enqueue task) := .of_sessions rfl rfl
  unfold request
  split
  · exact henqueue.trans (sameInputs_acquire _ found)
  · exact henqueue

theorem sameInputs_waitWorld (w : World) (sid : SessionId) (timedOut : Bool) (wait : WaitClose) :
    w.SameInputs (w.waitWorld sid timedOut wait) := by
  cases wait with
  | future ws code done deadline =>
    simp only [waitWorld]
    split
    · split
      · exact w.sameInputs_stop sid ws
      · exact (w.sameInputs_stop sid ws).trans (sameInputs_callClose _ ws code)
    · exact .refl w
  | stopping ws code task => exact w.sameInputs_callClose ws code
  | closing ws => exact .refl w

theorem sameInputs_continueEnding (w : World) (owner : Owner) (sid : SessionId) (timedOut : Bool)
    (wait : WaitClose) : w.SameInputs (w.continueEnding cfg owner sid timedOut wait) := by
  unfold continueEnding
  dsimp only
  split
  · exact (w.sameInputs_waitWorld sid timedOut wait).trans (.of_sessions rfl rfl)
  · exact (w.sameInputs_waitWorld sid timedOut wait).trans (sameInputs_terminate _ owner sid)

theorem sameInputs_resume (w : World) (c : Critical) : w.SameInputs (w.resume cfg c) := by
  unfold resume
  split
  · exact w.sameInputs_closeOld _ _ _ _
  · exact w.sameInputs_installSocket _ _ _
  · exact w.sameInputs_attachReturned _ _ _
  · exact .of_sessions rfl rfl
  · exact (w.sameInputs_callClose _ historyCheckCloseCode).trans (.of_sessions rfl rfl)
  · exact .of_sessions rfl rfl
  · exact w.sameInputs_closeReplaced _ _ _
  · exact w.sameInputs_terminate _ _
  · exact w.sameInputs_continueEnding _ _ _ _
  · exact w.sameInputs_poll _ _ _ _
  · exact .refl w

theorem sameInputs_timeOut (w : World) (c : Critical) : w.SameInputs (w.timeOut cfg c) := by
  unfold timeOut
  split
  · exact w.sameInputs_continueEnding _ _ _ _
  · exact .refl w

theorem sameInputs_cancelReplay (w : World) (ws : Ws) (sid : SessionId) :
    w.SameInputs (w.cancelReplay ws sid) := by
  have hclear : w.SameInputs (w.on sid fun s =>
      if s.websocket = some ws then s.clearWebsocket w.now else s) := by
    refine .on w sid ?_
    split
    · exact .of_terminal rfl rfl
    · exact .refl _
  have hhold : w.SameInputs ((w.on sid fun s =>
      if s.websocket = some ws then s.clearWebsocket w.now else s).hold (.aborting ws sid ws)) :=
    hclear.trans (.of_sessions rfl rfl)
  unfold cancelReplay
  dsimp only
  split
  · exact hhold.trans (sameInputs_stop _ sid ws)
  · exact (hhold.trans (sameInputs_stop _ sid ws)).trans (.of_sessions rfl rfl)

theorem sameInputs_cancelAttach (w : World) (c : Critical) : w.SameInputs (w.cancelAttach c) := by
  unfold cancelAttach
  split
  · exact w.sameInputs_closeOld _ _ _ _
  · exact .of_sessions rfl rfl
  · exact w.sameInputs_cancelReplay _ _
  · exact .of_sessions rfl rfl
  · exact .refl w

theorem sameInputs_answerHistory (w : World) (ws : Ws) (mode : Mode) (history : HistoryState) :
    w.SameInputs (w.answerHistory cfg ws mode history) := by
  unfold answerHistory
  split
  · exact .of_sessions rfl rfl
  · exact w.sameInputs_startLocked ws mode _

theorem sameInputs_idleWakes (w : World) (sid : SessionId) :
    w.SameInputs (w.idleWakes cfg sid) := by
  unfold idleWakes
  dsimp only
  split
  · exact (SameInputs.on_lifecycle w sid (f := Session.fireIdle) (fun _ => rfl)
      fun _ => rfl).trans (sameInputs_request _ _ false)
  · exact .on_lifecycle w sid (fun _ => rfl) fun _ => rfl

theorem sameInputs_exitReturns (w : World) (wasLive : Bool) :
    w.SameInputs (w.exitReturns wasLive) := by
  unfold exitReturns
  split
  · exact .of_sessions rfl rfl
  · exact .refl w

theorem sameInputs_exitRuns (w : World) (sid : SessionId) (code : Option ℤ) :
    w.SameInputs (w.exitRuns sid code) := by
  have hexit : w.SameInputs (w.on sid (·.handleExit w.now code)) :=
    .on w sid (Session.handleExit_sameInput _ w.now code)
  unfold exitRuns
  dsimp only
  split
  · exact hexit.trans (sameInputs_exitReturns _ _)
  · exact hexit

theorem sameInputs_exitResumes (w : World) (sid : SessionId) (timedOut : Bool) :
    w.SameInputs (w.exitResumes sid timedOut) := by
  unfold exitResumes
  cases (w.sessions sid).exitTask.wait? with
  | none => exact .refl w
  | some wait =>
    have hwait := w.sameInputs_waitWorld sid timedOut wait.1
    have hexit : ∀ (v : World) (task : ExitTask),
        v.SameInputs (v.on sid fun s => { s with exitTask := task }) :=
      fun v _ => .on_lifecycle v sid (fun _ => rfl) fun _ => rfl
    simp only [Option.elim_some, continueExit]
    split
    · exact hwait.trans (hexit _ _)
    · exact (hwait.trans (hexit _ .finished)).trans (sameInputs_exitReturns _ _)

theorem sameInputs_closeAttached (w : World) (call : ℕ) (sid : SessionId) (ws : Ws) :
    w.SameInputs (w.closeAttached call sid ws) := by
  unfold closeAttached
  split
  · split
    · exact .refl w
    · exact (w.sameInputs_close sid _ _).trans (.of_sessions rfl rfl)
  · exact w.sameInputs_callClose ws unauthorizedCloseCode

theorem sameInputs_closerResumes (w : World) (call : ℕ) (timedOut : Bool) :
    w.SameInputs (w.closerResumes call timedOut) := by
  unfold closerResumes
  cases w.closers call with
  | none => exact .refl w
  | some closer =>
    exact (w.sameInputs_waitWorld closer.1 timedOut closer.2).trans (.of_sessions rfl rfl)

theorem sameInputs_writerTakes (w : World) (sid : SessionId) (ws : Ws) :
    w.SameInputs (w.writerTakes sid ws) := by
  have htake : w.SameInputs (w.on sid (·.onWriter ws Writer.take)) :=
    .on_output w sid (fun _ => rfl) fun _ => rfl
  unfold writerTakes
  dsimp only
  split
  · exact htake.trans (sameInputs_callClose _ ws _)
  · exact htake

theorem sameInputs_leave (w : World) (ws : Ws) : w.SameInputs (w.leave cfg ws) := by
  unfold leave
  cases w.loopSession ws with
  | none => exact .refl w
  | some sid => exact w.sameInputs_detach ws sid

theorem sameInputs_detachResumes (w : World) (ws : Ws) :
    w.SameInputs (w.detachResumes cfg ws) := by
  unfold detachResumes
  cases (w.routes ws).detachWait with
  | none => exact .refl w
  | some wait => exact w.sameInputs_finishDetach ws wait.1

end World

/-- Whether an event gives a PTY something. -/
def Event.feeds : Event → Bool
  | .receive _ _ _ | .flush _ _ => true
  | _ => false

/-- Every other event leaves the input side of the sessions alone, apart from their start and their
end. -/
theorem Event.sameInputs {cfg : Settings} {e : Event} (h : e.feeds = false) (w : World) :
    w.SameInputs (e.apply cfg w) := by
  cases e with
  | receive ws frame results => cases h
  | flush sid results => cases h
  | tick elapsed => exact .of_sessions rfl rfl
  | connect ws mode found =>
    have hroute : w.SameInputs (w.setRoute ws .waiting) := .of_sessions rfl rfl
    exact hroute.trans (World.sameInputs_request _ _ found)
  | requestEnd request => exact w.sameInputs_request _ false
  | getLive => exact w.sameInputs_purge
  | acquire found => exact w.sameInputs_acquire found
  | resume =>
    simp only [apply]
    cases w.holder with
    | none => exact .refl w
    | some c => exact w.sameInputs_resume c
  | timeOut =>
    simp only [apply]
    cases w.holder with
    | none => exact .refl w
    | some c => exact w.sameInputs_timeOut c
  | answer history =>
    simp only [apply]
    cases w.holder.bind Critical.asking with
    | none => exact .refl w
    | some asking => exact w.sameInputs_answerHistory asking.1 asking.2 history
  | cancelAttach =>
    simp only [apply]
    cases w.holder with
    | none => exact .refl w
    | some c => exact w.sameInputs_cancelAttach c
  | graceExpires sid k =>
    exact (World.SameInputs.on_lifecycle w sid (f := (·.fireGrace k)) (fun _ => rfl)
      fun _ => rfl).trans (World.sameInputs_request _ _ false)
  | idleWakes sid => exact w.sameInputs_idleWakes sid
  | exitRuns sid code => exact w.sameInputs_exitRuns sid code
  | exitResumes sid timedOut => exact w.sameInputs_exitResumes sid timedOut
  | closeAttached call sid ws => exact w.sameInputs_closeAttached call sid ws
  | closerResumes call timedOut => exact w.sameInputs_closerResumes call timedOut
  | ptyData sid data =>
    exact .on_lifecycle w sid (fun s => (s.touch w.now).passOutput_toTerminal data)
      fun s => (congrArg Lifecycle.alive ((s.touch w.now).passOutput_toLifecycle data)).trans rfl
  | ptyEof sid => exact .on_lifecycle w sid (fun _ => rfl) fun _ => rfl
  | childExits sid => exact .on w sid (Session.childExit_sameInput _)
  | writerTakes sid ws => exact w.sameInputs_writerTakes sid ws
  | writerSent sid ws =>
    exact .on_output w sid (fun s => s.writerSent_toTerminal ws)
      fun s => s.writerSent_toLifecycle ws
  | writerFails sid ws delivered =>
    exact .on_output w sid (fun s => s.writerFailed_toTerminal ws delivered)
      fun s => s.writerFailed_toLifecycle ws delivered
  | writerCancelled sid ws delivered =>
    exact .on_output w sid (fun s => s.writerCancelled_toTerminal ws delivered)
      fun s => s.writerCancelled_toLifecycle ws delivered
  | leave ws => exact w.sameInputs_leave ws
  | detachResumes ws => exact w.sameInputs_detachResumes ws

/-- A turn of a receive loop gives its session a frame, and nothing else happens to the input
sides. -/
theorem World.sameInputs_receive {cfg : Settings} {w : World} {ws : Ws} {sid : SessionId}
    (hloop : w.loopSession ws = some sid) (frame : Received) (results : List WriteResult) :
    (w.on sid fun s => (s.handleFrame w.now frame results).1).SameInputs
      (w.receive cfg ws frame results) := by
  simp only [receive, hloop, Option.elim_some]
  split
  · exact sameInputs_receiveNext _ ws sid
  · exact sameInputs_detach _ ws sid

end WTerm
