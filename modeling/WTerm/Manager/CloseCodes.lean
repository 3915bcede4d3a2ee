import WTerm.Manager.Streams

/-!
# The close codes of the server

Whoever calls `ws.close` first, and however long a queued close waits for its writer: the
connections that take part in the transitions of a key are closed with the six codes that the source
names. A page can therefore tell the close of the server from the loss of its connection.
-/

namespace WTerm

/-- A wait for a queued close that times out closes with a code of the server. -/
def WaitClose.Coded : WaitClose → Prop
  | .future _ code _ _ | .stopping _ code _ => code ∈ serverCloseCodes
  | .closing _ => True

/-- The wait of `_handle_exit` is one with a code of the server. -/
def ExitTask.Coded : ExitTask → Prop
  | .waiting wait _ => wait.Coded
  | .none | .created | .finished => True

/-- The wait of the lock's holder is one with a code of the server. -/
def Critical.Coded : Critical → Prop
  | .ending _ _ (.wait wait) => wait.Coded
  | _ => True

/-! ## The exit task -/

namespace Session

variable (s : Session)

@[simp]
theorem pausePtyReader_exitTask : s.pausePtyReader.exitTask = s.exitTask := by
  unfold pausePtyReader
  split <;> rfl

@[simp]
theorem resumePtyReader_exitTask : s.resumePtyReader.exitTask = s.exitTask := by
  unfold resumePtyReader
  split_ifs <;> rfl

@[simp]
theorem resumeAtLowWatermark_exitTask : s.resumeAtLowWatermark.exitTask = s.exitTask := by
  unfold resumeAtLowWatermark
  split <;> simp

@[simp]
theorem settle_exitTask (done : Option ℕ) (sent : Bool) :
    (s.settle done sent).exitTask = s.exitTask := by
  unfold settle
  split
  · rfl
  · split <;> rfl

@[simp]
theorem countPending_exitTask (payload : Payload) :
    (s.countPending payload).exitTask = s.exitTask := by
  cases payload with
  | bytes data =>
    unfold countPending
    dsimp only
    split <;> simp
  | text message => rfl
  | close code reason => rfl

@[simp]
theorem enqueueOutbound_exitTask (item : Outbound) :
    (s.enqueueOutbound item).exitTask = s.exitTask := by
  unfold enqueueOutbound
  split
  · simp
  · simp [onWriter]

@[simp]
theorem sendStatus_exitTask (message : String) : (s.sendStatus message).exitTask = s.exitTask :=
  s.enqueueOutbound_exitTask _

@[simp]
theorem queuedClose_exitTask (code : ℕ) (reason : String) :
    (s.queuedClose code reason).exitTask = s.exitTask := by
  unfold queuedClose
  split
  · rfl
  · simp [createFuture]

@[simp]
theorem stopOutboundWriter_exitTask (ws : Ws) :
    (s.stopOutboundWriter ws).exitTask = s.exitTask := by
  unfold stopOutboundWriter
  split <;> rfl

/-- Discarding a whole queue leaves the exit task alone. -/
theorem foldl_discard_exitTask (items : List Outbound) :
    (items.foldl discard s).exitTask = s.exitTask := by
  induction items generalizing s with
  | nil => rfl
  | cons item rest ih => simp [ih, discard]

@[simp]
theorem finishWriter_exitTask (ws : Ws) : (s.finishWriter ws).exitTask = s.exitTask := by
  have hforget (t : Session) : (t.forgetWriter ws).exitTask = t.exitTask := by
    unfold forgetWriter
    split <;> rfl
  simp [finishWriter, onWriter, hforget, foldl_discard_exitTask]

@[simp]
theorem releaseCurrent_exitTask (item : Outbound) (sent : Bool) :
    (s.releaseCurrent item sent).exitTask = s.exitTask := by
  unfold releaseCurrent
  split <;> simp

@[simp]
theorem writerSent_exitTask (ws : Ws) : (s.writerSent ws).exitTask = s.exitTask := by
  unfold writerSent
  split
  · dsimp only
    split <;> simp [recordSent, onWriter]
  · rfl

@[simp]
theorem writerFailed_exitTask (ws : Ws) (delivered : Bool) :
    (s.writerFailed ws delivered).exitTask = s.exitTask := by
  unfold writerFailed
  split
  · cases delivered <;> simp [recordSent, onWriter]
  · rfl

@[simp]
theorem writerCancelled_exitTask (ws : Ws) (delivered : Bool) :
    (s.writerCancelled ws delivered).exitTask = s.exitTask := by
  unfold writerCancelled
  split
  · rfl
  · simp
  · simp

@[simp]
theorem install_exitTask (ws : Ws) : (s.install ws).exitTask = s.exitTask := by
  unfold install sendReplay
  split
  · rfl
  · simp [createFuture, setWebsocket]

@[simp]
theorem cleanupFd_exitTask : s.cleanupFd.exitTask = s.exitTask := by
  unfold cleanupFd
  split <;> rfl

@[simp]
theorem endTerminate_exitTask : s.endTerminate.exitTask = s.exitTask := by
  simp [endTerminate]

/-- A chunk of output leaves the exit task alone. -/
theorem ptyData_exitTask (now : Time) (data : List UInt8) :
    (s.ptyData now data).exitTask = s.exitTask := by
  have hkept : ((s.touch now).keepOutput data).exitTask = s.exitTask := by
    -- For any buffer, so that the kernel does not compute with the limit.
    have hbuffer (buffer out : List UInt8) :
        ({ s.touch now with buffer := buffer, out := out } : Session).exitTask = s.exitTask := rfl
    unfold keepOutput
    exact hbuffer _ _
  unfold ptyData passOutput
  dsimp only
  split
  · rw [enqueueOutbound_exitTask, hkept]
  · exact hkept

/-- What concerns the PTY side leaves the exit task alone. -/
theorem SameButTerminal.exitTask {s s' : Session} (h : s.SameButTerminal s') :
    s'.exitTask = s.exitTask := by
  rw [h.1]

/-- `write_input` leaves the exit task alone. -/
theorem writeInput_exitTask (now : Time) (data : PyStr) (results : List WriteResult) :
    (s.writeInput now data results).1.exitTask = s.exitTask := by
  unfold writeInput
  split
  · rfl
  · dsimp only
    split
    · rfl
    · split
      · rfl
      · exact (flushWrite_sameButTerminal _ results).exitTask

/-- A turn of the receive loop leaves the exit task alone. -/
theorem handleFrame_exitTask (now : Time) (frame : Received) (results : List WriteResult) :
    (s.handleFrame now frame results).1.exitTask = s.exitTask := by
  have hinput (data : PyStr) : (s.applyInput now data results).1.exitTask = s.exitTask := by
    have hwrite := s.writeInput_exitTask now data results
    unfold applyInput
    split
    · next h =>
      rw [h] at hwrite
      rw [sendStatus_exitTask]
      exact hwrite
    · next h =>
      rw [h] at hwrite
      exact hwrite
    · next h =>
      rw [h] at hwrite
      exact hwrite
  unfold handleFrame
  split
  · rfl
  · rfl
  · rfl
  · unfold applyMessage
    split
    · split
      · exact hinput _
      · rfl
    · split
      · split
        · exact (s.resize_sameButTerminal _ _ results).exitTask
        · rfl
      · rfl
  · rfl

/-- The natural exit closes its connection with the code of an exit. -/
theorem handleExit_coded (now : Time) (code : Option ℤ) :
    (s.handleExit now code).exitTask.Coded := by
  unfold handleExit
  split
  · trivial
  · dsimp only
    unfold exitWait
    split
    · exact List.mem_cons_self
    · trivial

/-- The next frame of a writer that waits has a code of the server, if it is a close frame. -/
theorem take_coded {ws : Ws} (h : s.stream.Sound bufferLimit) (hwaiting : (s.writers ws).pc.Waiting)
    {code : ℕ} {reason : String}
    (hnext : (s.writers ws).queue.head?.map Outbound.payload = some (.close code reason)) :
    code ∈ serverCloseCodes := by
  obtain ⟨item, hitem, hpayload⟩ := Option.map_eq_some_iff.mp hnext
  have haccepted : (s.writers ws).accepted =
      (s.writers ws).sent ++ (s.writers ws).queue.map Outbound.payload :=
    ((h.fifo ws).of_waiting hwaiting).1
  refine h.codes ws code reason ?_
  rw [stream_writers, haccepted, ← hpayload]
  exact List.mem_append_right _ (List.mem_map_of_mem (List.mem_of_mem_head? hitem))

end Session

/-! ## The functions of the key -/

/-- Connections are closed with codes of the server, also by the waits that are still to time out.
-/
structure World.Coded (w : World) : Prop where
  calls : ∀ ws code, w.closeCall ws = some code → code ∈ serverCloseCodes
  holder : ∀ c, w.holder = some c → c.Coded
  exits : ∀ sid, (w.sessions sid).exitTask.Coded
  closers : ∀ call sid wait, w.closers call = some (sid, wait) → wait.Coded

namespace World.Coded

variable {cfg : Settings} {w : World} {ws old : Ws} {sid : SessionId} {owner : Owner} {mode : Mode}
  {message : String}

/-- At first no connection is closed and nothing waits to close one. -/
theorem initial : ({} : World).Coded := ⟨nofun, nofun, fun _ => trivial, nofun⟩

/-- When the holder of the lock moves on, it closes with codes of the server if its new place does.
-/
theorem hold (h : w.Coded) {c : Critical} (hc : c.Coded) : (w.hold c).Coded :=
  ⟨h.calls, fun _ hholder => Option.some.inj hholder ▸ hc, h.exits, h.closers⟩

/-- When the lock is released every close still has a code of the server. -/
theorem release (h : w.Coded) : w.release.Coded := ⟨h.calls, nofun, h.exits, h.closers⟩

/-- A change of one session, after which it closes with codes of the server. -/
theorem on_coded (h : w.Coded) {i : SessionId} {f : Session → Session}
    (hf : (f (w.sessions i)).exitTask.Coded) : (w.on i f).Coded := by
  refine ⟨h.calls, h.holder, fun sid' => ?_, h.closers⟩
  by_cases hsid : sid' = i
  · subst hsid
    simpa using hf
  · simpa [hsid] using h.exits sid'

/-- A change of one session that leaves its exit task alone. -/
theorem on (h : w.Coded) {i : SessionId} {f : Session → Session}
    (hf : (f (w.sessions i)).exitTask = (w.sessions i).exitTask) : (w.on i f).Coded :=
  h.on_coded (hf ▸ h.exits i)

/-- `ws.close` with a code of the server. -/
theorem callClose (h : w.Coded) {code : ℕ} (hcode : code ∈ serverCloseCodes) (ws : Ws) :
    (w.callClose ws code).Coded := by
  unfold World.callClose
  split
  · exact h
  · refine ⟨fun ws' code' hcall => ?_, h.holder, h.exits, h.closers⟩
    by_cases hws : ws' = ws
    · subst hws
      have hsame : some code = some code' := by simpa using hcall
      rwa [← Option.some.inj hsame]
    · exact h.calls ws' code' (by simpa [hws] using hcall)

theorem setRoute (h : w.Coded) (ws : Ws) (route : Route) : (w.setRoute ws route).Coded :=
  ⟨h.calls, h.holder, h.exits, h.closers⟩

theorem enqueue (h : w.Coded) (task : Waiter) : (w.enqueue task).Coded :=
  ⟨h.calls, h.holder, h.exits, h.closers⟩

theorem notify (h : w.Coded) : w.notify.Coded := ⟨h.calls, h.holder, h.exits, h.closers⟩

theorem signal (h : w.Coded) (owner : Owner) (sid : SessionId) (stage : Stage) :
    (w.signal owner sid stage).Coded := ⟨h.calls, h.holder, h.exits, h.closers⟩

theorem dropEntry (h : w.Coded) : w.dropEntry.Coded := ⟨h.calls, h.holder, h.exits, h.closers⟩

theorem takeFrom (h : w.Coded) (sid : SessionId) : (w.takeFrom sid).Coded :=
  ⟨h.calls, h.holder, h.exits, h.closers⟩

theorem takeSocket (h : w.Coded) (sid : SessionId) : (w.takeSocket sid).Coded :=
  (h.takeFrom sid).on rfl

theorem purge (h : w.Coded) : w.purge.Coded := by
  unfold World.purge
  split
  · exact h
  · split
    · exact h
    · exact h.dropEntry

/-- When the wait of `detach` is over, every close still has a code of the server. -/
theorem finishDetach (h : w.Coded) : (w.finishDetach cfg ws sid).Coded := by
  unfold World.finishDetach
  split
  · exact (h.on rfl).setRoute ws _
  · exact h.setRoute ws _

theorem detach (h : w.Coded) : (w.detach cfg ws sid).Coded := by
  unfold World.detach
  split
  · have hstopped := (((h.setRoute ws (.detaching sid ((w.sessions sid).stopAwaits ws))).on
      (i := sid) (f := (·.clearWebsocket w.now)) rfl).on (i := sid)
      (f := (·.stopOutboundWriter ws)) (by simp))
    dsimp only
    split
    · exact hstopped
    · exact hstopped.finishDetach
  · exact h.setRoute ws _

theorem receiveNext (h : w.Coded) : (w.receiveNext cfg ws sid).Coded := by
  unfold World.receiveNext
  split
  · exact h.detach
  · exact h

theorem attachReturned (h : w.Coded) : (w.attachReturned cfg ws sid message).Coded := by
  have hstatus := h.on (i := sid) (f := (·.sendStatus message)) (by simp)
  exact receiveNext ⟨hstatus.calls, nofun, hstatus.exits, hstatus.closers⟩

theorem installSocket (h : w.Coded) : (w.installSocket cfg ws sid message).Coded := by
  have hinstalled : (w.installed ws sid message).Coded :=
    (h.on (i := sid) (f := (·.install ws)) (by simp)).hold trivial
  unfold World.installSocket
  dsimp only
  split
  · exact hinstalled.attachReturned
  · exact hinstalled

theorem closeOld (h : w.Coded) : (w.closeOld ws sid message old).Coded :=
  (h.callClose (by decide) old).hold trivial

theorem displaceOld (h : w.Coded) : (w.displaceOld ws sid message old).Coded := by
  have hstopped := h.on (i := sid) (f := (·.stopOutboundWriter old)) (by simp)
  unfold World.displaceOld
  dsimp only
  split
  · exact hstopped.hold trivial
  · exact hstopped.closeOld

/-- `attach` closes the connection that it displaces. -/
theorem attach (h : w.Coded) : (w.attach cfg ws sid message).Coded := by
  have hbegun := ((h.hold (c := .attaching ws sid message .begin) trivial).on (i := sid)
    (f := (·.cancelGrace)) rfl).on (i := sid) (f := (·.touch w.now)) rfl
  unfold World.attach
  dsimp only
  split
  · exact hbegun.installSocket
  · exact (hbegun.takeSocket sid).displaceOld

theorem startFresh (h : w.Coded) : (w.startFresh cfg ws message).Coded := by
  refine attach ⟨h.calls, fun c hc => ?_, fun sid => ?_, h.closers⟩
  · obtain rfl := Option.some.inj hc
    trivial
  · by_cases hsid : sid = w.count
    · subst hsid
      rw [spawnSession_self]
      trivial
    · rw [spawnSession_of_ne hsid]
      exact h.exits sid

theorem dropOwn (h : w.Coded) : (w.dropOwn sid).Coded := by
  unfold World.dropOwn
  split
  · exact h.dropEntry
  · exact h

theorem finishEnding (h : w.Coded) : (w.finishEnding cfg owner sid).Coded := by
  unfold World.finishEnding
  split
  · exact h.dropOwn.startFresh
  · exact h.dropOwn.release

theorem endTerminate (h : w.Coded) : (w.endTerminate owner sid).Coded :=
  (h.on (by simp)).hold trivial

theorem checkReaped (h : w.Coded) {stage : Stage} {left : ℕ} :
    (w.checkReaped cfg owner sid stage left).Coded := by
  unfold World.checkReaped
  split
  · exact (h.on (Session.reapNoHang_sameButTerminal _).exitTask).endTerminate.finishEnding
  · exact h.hold trivial

theorem poll (h : w.Coded) {stage : Stage} {left : ℕ} :
    (w.poll cfg owner sid stage left).Coded := by
  unfold World.poll
  split
  · cases stage with
    | hup => exact (h.signal owner sid .term).checkReaped
    | term => exact (h.signal owner sid .kill).checkReaped
    | kill => exact h.endTerminate.finishEnding
  · exact h.checkReaped

/-- After `terminate` every close still has a code of the server, also when a handshake goes on
after it. -/
theorem terminate (h : w.Coded) : (w.terminate cfg owner sid).Coded := by
  have hmarked (u : World) (hu : u.Coded) : (u.beginTerminate owner sid).Coded :=
    (hu.on (f := Session.beginTerminate) rfl).hold trivial
  unfold World.terminate
  dsimp only
  split
  · split
    · exact ((hmarked w h).signal owner sid .hup).checkReaped
    · exact ((hmarked _ h.notify).signal owner sid .hup).checkReaped
  · exact (h.hold (c := .ended owner sid) trivial).finishEnding

/-- `_notify_and_terminate` closes the connection with the code that it is given. -/
theorem notifySocket (h : w.Coded) {code : ℕ} (hcode : code ∈ serverCloseCodes) (socket : Option Ws)
    (reason : String) : (w.notifySocket cfg owner sid socket message code reason).Coded := by
  unfold World.notifySocket
  split
  · exact h.terminate
  · have hstatus := h.on (i := sid) (f := (·.sendStatus message)) (by simp)
    dsimp only
    split
    · exact hstatus.terminate
    · exact (hstatus.on (f := (·.queuedClose code reason)) (by simp)).hold hcode

theorem closeReplaced (h : w.Coded) : (w.closeReplaced owner sid old).Coded :=
  (h.callClose (by decide) old).hold trivial

theorem displaceSocket (h : w.Coded) (socket : Option Ws) :
    (w.displaceSocket cfg owner sid socket).Coded := by
  unfold World.displaceSocket
  split
  · exact h.terminate
  · next old =>
    have hstopped := h.on (i := sid) (f := (·.stopOutboundWriter old)) (by simp)
    dsimp only
    split
    · exact hstopped.hold trivial
    · exact hstopped.closeReplaced

theorem startLocked (h : w.Coded) : (w.startLocked cfg ws mode message).Coded := by
  unfold World.startLocked
  dsimp only
  split
  · exact h.purge.startFresh
  · next sid _ =>
    have hbegun := (h.purge.hold (c := .ending (.route ws mode message) sid .begin) trivial).on
      (i := sid) (f := (·.cancelGrace)) rfl
    exact (hbegun.takeSocket sid).displaceSocket _

theorem startRoute (h : w.Coded) {found : Bool} : (w.startRoute cfg ws mode found).Coded := by
  unfold World.startRoute
  split_ifs
  · exact h.startLocked
  · exact h.hold trivial
  · exact h.startLocked

theorem enterRoute (h : w.Coded) {found : Bool} : (w.enterRoute cfg ws mode found).Coded := by
  unfold World.enterRoute
  dsimp only
  split
  · exact h.purge.startRoute
  · split
    · exact h.purge.startRoute
    · exact h.purge.attach

theorem enterEnd (h : w.Coded) {request : ℕ} : (w.enterEnd cfg request).Coded := by
  unfold World.enterEnd
  dsimp only
  split
  · exact h.purge.release
  · next sid _ =>
    have hbegun := (h.purge.hold (c := .ending (.endRequest request) sid .begin) trivial).on
      (i := sid) (f := (·.cancelGrace)) rfl
    exact (hbegun.takeSocket sid).notifySocket (by decide) _ _

theorem enterGrace (h : w.Coded) {k : ℕ} : (w.enterGrace cfg sid k).Coded := by
  unfold World.enterGrace
  split
  · exact (h.hold (c := .ending (.grace k) sid .begin) trivial).terminate
  · exact h.release

theorem enterIdle (h : w.Coded) : (w.enterIdle cfg sid).Coded := by
  unfold World.enterIdle
  split
  · exact ((h.hold (c := .ending .idle sid .begin) trivial).takeSocket sid).notifySocket
      (by decide) _ _
  · exact h.release

/-- A task that gets the lock closes connections with codes of the server. -/
theorem acquire (h : w.Coded) {found : Bool} : (w.acquire cfg found).Coded := by
  unfold World.acquire
  split
  · exact h
  · next task rest hwaiters =>
    have hgranted : (w.grant task rest).Coded := by
      have hholder : ({ w with waiters := rest, holder := some (.entered task) } : World).Coded :=
        ⟨h.calls, fun c hc => Option.some.inj hc ▸ trivial, h.exits, h.closers⟩
      cases task with
      | route ws mode => exact hholder.setRoute ws .inside
      | endRequest _ | grace _ _ | idle _ => exact hholder
    cases task with
    | route ws mode => exact hgranted.enterRoute
    | endRequest request => exact hgranted.enterEnd
    | grace sid k => exact hgranted.enterGrace
    | idle sid => exact hgranted.enterIdle

theorem request (h : w.Coded) {task : Waiter} {found : Bool} :
    (w.request cfg task found).Coded := by
  unfold World.request
  split
  · exact (h.enqueue task).acquire
  · exact h.enqueue task

/-! ## The events -/

/-- A wait for a queued close that goes on closes its connection with its code. -/
theorem waitWorld (h : w.Coded) {wait : WaitClose} (hwait : wait.Coded) {timedOut : Bool} :
    (w.waitWorld sid timedOut wait).Coded := by
  cases wait with
  | future ws code f deadline =>
    have hstopped := h.on (i := sid) (f := (·.stopOutboundWriter ws)) (by simp)
    simp only [World.waitWorld]
    split_ifs
    · exact hstopped
    · exact hstopped.callClose hwait ws
    · exact h
  | stopping ws code task => exact h.callClose hwait ws
  | closing ws => exact h

/-- A wait for a close that goes on keeps the code with which it will close. -/
theorem waitNext_coded {wait next : WaitClose} (hwait : wait.Coded) {timedOut : Bool}
    (hnext : w.waitNext sid timedOut wait = some next) : next.Coded := by
  cases wait with
  | future ws code f deadline =>
    simp only [waitNext] at hnext
    split_ifs at hnext
    split at hnext
    · obtain rfl := Option.some.inj hnext
      exact hwait
    · obtain rfl := Option.some.inj hnext
      trivial
  | stopping ws code task =>
    obtain rfl := Option.some.inj hnext
    trivial
  | closing ws => cases hnext

theorem continueEnding (h : w.Coded) {wait : WaitClose} (hwait : wait.Coded) {timedOut : Bool} :
    (w.continueEnding cfg owner sid timedOut wait).Coded := by
  unfold World.continueEnding
  dsimp only
  split
  · next hnext => exact (h.waitWorld hwait).hold (waitNext_coded hwait hnext)
  · exact (h.waitWorld hwait).terminate

theorem abandon (h : w.Coded) : (w.abandon ws).Coded := (h.setRoute ws .finished).release

/-- An await of the lock's holder returns. -/
theorem resume (h : w.Coded) {c : Critical} (hc : c.Coded) : (w.resume cfg c).Coded := by
  cases c with
  | attaching ws sid message pc =>
    cases pc with
    | begin => exact h
    | stopping old task => exact h.closeOld
    | closing old => exact h.installSocket
  | replaying ws sid message f => exact h.attachReturned
  | aborting ws sid task => exact h.abandon
  | probing ws mode pc =>
    cases pc with
    | asking => exact h
    | telling => exact (h.callClose (by decide) ws).hold trivial
    | closing => exact h.abandon
  | ending owner sid pc =>
    cases pc with
    | begin => exact h
    | stopping old task => exact h.closeReplaced
    | closing old => exact h.terminate
    | wait wait => exact h.continueEnding hc
  | polling owner sid stage left => exact h.poll
  | entered task | ended owner sid => exact h

theorem timeOut (h : w.Coded) {c : Critical} (hc : c.Coded) : (w.timeOut cfg c).Coded := by
  unfold World.timeOut
  split
  · exact h.continueEnding hc
  · exact h

theorem answerHistory (h : w.Coded) {history : HistoryState} :
    (w.answerHistory cfg ws mode history).Coded := by
  unfold World.answerHistory
  split
  · exact h.hold trivial
  · exact h.startLocked

/-- After the cancellation of `attach` every close still has a code of the server. -/
theorem cancelAttach (h : w.Coded) (c : Critical) : (w.cancelAttach c).Coded := by
  unfold World.cancelAttach
  split
  · exact h.closeOld
  · exact h.abandon
  · next ws sid message f =>
    have hcleared := (h.on (i := sid) (f := fun s =>
      if s.websocket = some ws then s.clearWebsocket w.now else s) (by split <;> rfl)).hold
      (c := .aborting ws sid ws) trivial
    have hstopped := hcleared.on (i := sid) (f := (·.stopOutboundWriter ws)) (by simp)
    unfold World.cancelReplay
    dsimp only
    split
    · exact hstopped
    · exact hstopped.abandon
  · exact h.abandon
  · exact h

theorem exitReturns (h : w.Coded) (wasLive : Bool) : (w.exitReturns wasLive).Coded := by
  unfold World.exitReturns
  split
  · exact h.notify
  · exact h

theorem exitRuns (h : w.Coded) (sid : SessionId) (code : Option ℤ) :
    (w.exitRuns sid code).Coded := by
  have hexit := h.on_coded (i := sid) (f := (·.handleExit w.now code))
    (Session.handleExit_coded _ w.now code)
  unfold World.exitRuns
  dsimp only
  split
  · exact hexit.exitReturns _
  · exact hexit

theorem continueExit (h : w.Coded) {timedOut wasLive : Bool} {wait : WaitClose}
    (hwait : wait.Coded) : (w.continueExit sid timedOut wasLive wait).Coded := by
  unfold World.continueExit
  dsimp only
  split
  · next next hnext => exact (h.waitWorld hwait).on_coded (waitNext_coded hwait hnext)
  · exact ((h.waitWorld hwait).on_coded (f := fun s => { s with exitTask := .finished })
      trivial).exitReturns wasLive

theorem exitResumes (h : w.Coded) (sid : SessionId) (timedOut : Bool) :
    (w.exitResumes sid timedOut).Coded := by
  have hexit := h.exits sid
  unfold World.exitResumes
  cases htask : (w.sessions sid).exitTask with
  | waiting wait wasLive =>
    rw [htask] at hexit
    exact h.continueExit hexit
  | none | created | finished => exact h

theorem setCloser (h : w.Coded) (call : ℕ) {state : Option (SessionId × WaitClose)}
    (hstate : ∀ sid wait, state = some (sid, wait) → wait.Coded) :
    (w.setCloser call state).Coded := by
  refine ⟨h.calls, h.holder, h.exits, fun call' sid wait hcloser => ?_⟩
  by_cases hcall : call' = call
  · subst hcall
    exact hstate sid wait (by simpa using hcloser)
  · exact h.closers call' sid wait (by simpa [hcall] using hcloser)

theorem closeAttached (h : w.Coded) (call : ℕ) (sid : SessionId) (ws : Ws) :
    (w.closeAttached call sid ws).Coded := by
  unfold World.closeAttached
  split
  · split
    · exact h
    · refine (h.on (by simp)).setCloser call fun sid' wait hstate => ?_
      obtain ⟨rfl, rfl⟩ := Prod.mk.inj (Option.some.inj hstate)
      show unauthorizedCloseCode ∈ serverCloseCodes
      decide
  · exact h.callClose (by decide) ws

theorem closerResumes (h : w.Coded) (call : ℕ) (timedOut : Bool) :
    (w.closerResumes call timedOut).Coded := by
  unfold World.closerResumes
  cases hcloser : w.closers call with
  | none => exact h
  | some closer =>
    obtain ⟨sid, wait⟩ := closer
    have hwait := h.closers call sid wait hcloser
    refine (h.waitWorld hwait).setCloser call fun sid' next hnext => ?_
    obtain ⟨next', hnext', hpair⟩ := Option.map_eq_some_iff.mp hnext
    obtain ⟨-, rfl⟩ := Prod.mk.inj hpair
    exact waitNext_coded hwait hnext'

/-- A writer that takes a close frame calls `ws.close` with the code of it. -/
theorem writerTakes (h : w.Coded) (hstream : (w.sessions sid).stream.Sound bufferLimit)
    (hwaiting : ((w.sessions sid).writers ws).pc.Waiting) : (w.writerTakes sid ws).Coded := by
  have htaken := h.on (i := sid) (f := (·.onWriter ws Writer.take)) rfl
  unfold World.writerTakes
  dsimp only
  split
  · next code reason hnext =>
    exact htaken.callClose ((w.sessions sid).take_coded hstream hwaiting hnext) ws
  · exact htaken

theorem receive (h : w.Coded) (ws : Ws) (frame : Received) (results : List WriteResult) :
    (w.receive cfg ws frame results).Coded := by
  unfold World.receive
  cases w.loopSession ws with
  | none => exact h
  | some sid =>
    have hframe := h.on (i := sid) (f := fun s => (s.handleFrame w.now frame results).1)
      (Session.handleFrame_exitTask _ w.now frame results)
    simp only [Option.elim_some]
    split
    · exact hframe.receiveNext
    · exact hframe.detach

theorem idleWakes (h : w.Coded) (sid : SessionId) : (w.idleWakes cfg sid).Coded := by
  unfold World.idleWakes
  dsimp only
  split
  · exact (h.on rfl).request
  · exact h.on rfl

/-- Every event closes connections with codes of the server only. -/
theorem apply (h : w.Coded) (hstreams : SoundStreams w) {e : Event} (hen : e.Enabled w) :
    (e.apply cfg w).Coded := by
  cases e with
  | tick elapsed => exact ⟨h.calls, h.holder, h.exits, h.closers⟩
  | connect ws mode found => exact (h.setRoute ws .waiting).request
  | requestEnd request => exact h.request
  | getLive => exact h.purge
  | acquire found => exact h.acquire
  | resume =>
    obtain ⟨c, hc, -⟩ := hen
    simpa [Event.apply, hc] using h.resume (h.holder c hc)
  | timeOut =>
    obtain ⟨c, hc, -⟩ := hen
    simpa [Event.apply, hc] using h.timeOut (h.holder c hc)
  | answer history =>
    cases hasking : w.holder.bind Critical.asking with
    | none => simpa [Event.apply, hasking] using h
    | some pair => simpa [Event.apply, hasking] using h.answerHistory
  | cancelAttach =>
    obtain ⟨c, hc, -⟩ := hen
    simpa [Event.apply, hc] using h.cancelAttach c
  | graceExpires sid k => exact (h.on (f := (·.fireGrace k)) rfl).request
  | idleWakes sid => exact h.idleWakes sid
  | exitRuns sid code => exact h.exitRuns sid code
  | exitResumes sid timedOut => exact h.exitResumes sid timedOut
  | closeAttached call sid ws => exact h.closeAttached call sid ws
  | closerResumes call timedOut => exact h.closerResumes call timedOut
  | ptyData sid data =>
    exact h.on (f := (·.ptyData w.now data)) (Session.ptyData_exitTask _ w.now data)
  | ptyEof sid =>
    refine h.on_coded ?_
    have hexit := h.exits sid
    unfold Session.ptyEof
    dsimp only
    split
    · trivial
    · exact hexit
  | childExits sid => exact h.on rfl
  | flush sid results =>
    exact h.on (f := (·.flushWrite results)) (Session.flushWrite_sameButTerminal _ results).exitTask
  | writerTakes sid ws => exact h.writerTakes (hstreams sid) hen.2
  | writerSent sid ws => exact h.on (f := (·.writerSent ws)) (by simp)
  | writerFails sid ws delivered => exact h.on (f := (·.writerFailed ws delivered)) (by simp)
  | writerCancelled sid ws delivered =>
    exact h.on (f := (·.writerCancelled ws delivered)) (by simp)
  | receive ws frame results => exact h.receive ws frame results
  | leave ws =>
    cases hloop : w.loopSession ws with
    | none => simpa [Event.apply, World.leave, hloop] using h
    | some sid => simpa [Event.apply, World.leave, hloop] using h.detach
  | detachResumes ws =>
    cases hwait : (w.routes ws).detachWait with
    | none => simpa [Event.apply, World.detachResumes, hwait] using h
    | some wait => simpa [Event.apply, World.detachResumes, hwait] using h.finishDetach

end World.Coded

/-- In every reachable state the server has closed connections with its codes only. -/
theorem Reachable.coded {cfg : Settings} {w : World} (h : Reachable cfg w) : w.Coded := by
  have hboth : Reachable cfg w ∧ w.Coded := by
    refine @Transition.Run.invariant _ _ _ _ (fun u => Reachable cfg u ∧ u.Coded) _ _ h
      ⟨.refl, .initial⟩ ?_
    rintro u e ⟨hreach, hcoded⟩ hen -
    exact ⟨hreach.step e hen trivial, hcoded.apply hreach.streams hen⟩
  exact hboth.2

end WTerm
