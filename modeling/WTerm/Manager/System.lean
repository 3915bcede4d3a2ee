import WTerm.Lib.Transition
import WTerm.Manager.World

/-!
# The transition system of one session key

The events are the ways in which the event loop can continue: an await of some task returns,
a timer is due, a client or the PTY does something. Each event runs the code up to the next
await. Its guard says when it can happen, and nothing else restricts the order.
-/

namespace WTerm

open Transition

/-- The steps of the event loop. `found` is what the history check of a local Claude project
sees when a handshake gets that far within the step. -/
inductive Event where
  | tick (elapsed : Time)
  /-- `terminal_ws` reaches the transition. -/
  | connect (ws : Ws) (mode : Mode) (found : Bool)
  /-- `SessionManager.end` is called. -/
  | requestEnd (request : ℕ)
  /-- `get_live` is called, as the project list does. -/
  | getLive
  /-- The first waiter gets the transition lock. -/
  | acquire (found : Bool)
  /-- An await of the lock's holder returns. -/
  | resume
  /-- The holder's wait for a queued close times out. -/
  | timeOut
  /-- The history check of a handshake answers. -/
  | answer (history : HistoryState)
  /-- The task inside `attach` is cancelled. -/
  | cancelAttach
  /-- The sleep of `_grace_countdown` is over. -/
  | graceExpires (sid : SessionId) (k : ℕ)
  /-- `_idle_countdown` takes a step. -/
  | idleWakes (sid : SessionId)
  /-- `_handle_exit` takes its first step. -/
  | exitRuns (sid : SessionId) (code : Option ℤ)
  /-- The wait of `_handle_exit` continues. -/
  | exitResumes (sid : SessionId) (timedOut : Bool)
  /-- `close_attached` is called. -/
  | closeAttached (call : ℕ) (sid : SessionId) (ws : Ws)
  /-- The wait of `close_attached` continues. -/
  | closerResumes (call : ℕ) (timedOut : Bool)
  | ptyData (sid : SessionId) (data : List UInt8)
  | ptyEof (sid : SessionId)
  | childExits (sid : SessionId)
  /-- The PTY takes input again. -/
  | flush (sid : SessionId) (results : List WriteResult)
  | writerTakes (sid : SessionId) (ws : Ws)
  | writerSent (sid : SessionId) (ws : Ws)
  | writerFails (sid : SessionId) (ws : Ws) (delivered : Bool)
  | writerCancelled (sid : SessionId) (ws : Ws) (delivered : Bool)
  /-- The receive loop gets a frame. -/
  | receive (ws : Ws) (frame : Received) (results : List WriteResult)
  /-- The receive loop ends: `WebSocketDisconnect`, or `RuntimeError`. -/
  | leave (ws : Ws)
  /-- The writer that `detach` waits for is done. -/
  | detachResumes (ws : Ws)

/-- The handshake that waits for a history check. -/
def Critical.asking : Critical → Option (Ws × Mode)
  | .probing ws mode .asking => some (ws, mode)
  | _ => none

/-- The wait of `_handle_exit`. -/
def ExitTask.wait? : ExitTask → Option (WaitClose × Bool)
  | .waiting wait wasLive => some (wait, wasLive)
  | _ => Option.none

/-- The writer that the `detach` of a connection waits for. -/
def Route.detachWait : Route → Option (SessionId × Ws)
  | .detaching sid (some task) => some (sid, task)
  | _ => none

namespace World

/-- The writer task of a connection is done. -/
def writerDone (w : World) (sid : SessionId) (task : Ws) : Prop :=
  ((w.sessions sid).writers task).pc = .finished

instance (w : World) (sid : SessionId) (task : Ws) : Decidable (w.writerDone sid task) :=
  inferInstanceAs (Decidable (_ = _))

/-- When `_wait_outbound_close` can go on. -/
def waitReady (w : World) (sid : SessionId) (timedOut : Bool) : WaitClose → Prop
  | .future _ _ f deadline =>
    if timedOut then deadline ≤ w.now else ((w.sessions sid).futures f).isSome = true
  | .stopping _ _ task => timedOut = false ∧ w.writerDone sid task
  | .closing _ => timedOut = false

instance (w : World) (sid : SessionId) (timedOut : Bool) :
    (wait : WaitClose) → Decidable (w.waitReady sid timedOut wait)
  | .future _ _ _ _ => inferInstanceAs (Decidable (ite _ _ _))
  | .stopping _ _ _ => inferInstanceAs (Decidable (_ ∧ _))
  | .closing _ => inferInstanceAs (Decidable (_ = _))

/-- One step of `_wait_outbound_close`: the world after it. -/
def waitWorld (w : World) (sid : SessionId) (timedOut : Bool) : WaitClose → World
  | .future ws code _ _ =>
    if timedOut then
      let w' := w.on sid (·.stopOutboundWriter ws)
      if ((w.sessions sid).stopAwaits ws).isSome then w' else w'.callClose ws code
    else w
  | .stopping ws code _ => w.callClose ws code
  | .closing _ => w

/-- One step of `_wait_outbound_close`: where it waits then, if it does not return. -/
def waitNext (w : World) (sid : SessionId) (timedOut : Bool) : WaitClose → Option WaitClose
  | .future ws code _ _ =>
    if timedOut then
      match (w.sessions sid).stopAwaits ws with
      | some task => some (.stopping ws code task)
      | none => some (.closing ws)
    else none
  | .stopping ws _ _ => some (.closing ws)
  | .closing _ => none

/-- The wait of `close_attached` goes on, or the call returns. -/
@[simps]
def setCloser (w : World) (call : ℕ) (state : Option (SessionId × WaitClose)) : World :=
  { w with closers := Function.update w.closers call state }

/-- The answer of the history check of a handshake. -/
def answerHistory (cfg : Settings) (w : World) (ws : Ws) (mode : Mode)
    (history : HistoryState) : World :=
  if cfg.remote ∧ history = .error then w.hold (.probing ws mode .telling)
  else w.startLocked cfg ws mode (startMessage cfg mode (decide (history = .present)))

/-- The handshake ends without a session. -/
def abandon (w : World) (ws : Ws) : World := (w.setRoute ws .finished).release

/-- `attach` is cancelled during the replay: its `except` branch. -/
def cancelReplay (w : World) (ws : Ws) (sid : SessionId) : World :=
  let task := (w.sessions sid).stopAwaits ws
  let w := ((w.on sid fun s => if s.websocket = some ws then s.clearWebsocket w.now else s).hold
    (.aborting ws sid ws)).on sid (·.stopOutboundWriter ws)
  if task.isSome then w else w.abandon ws

/-- The wait of `_notify_and_terminate` goes on. -/
def continueEnding (cfg : Settings) (w : World) (owner : Owner) (sid : SessionId)
    (timedOut : Bool) (wait : WaitClose) : World :=
  let w' := w.waitWorld sid timedOut wait
  match w.waitNext sid timedOut wait with
  | some wait => w'.hold (.ending owner sid (.wait wait))
  | none => w'.terminate cfg owner sid

/-- When the await of the lock's holder can return. -/
def ready (w : World) : Critical → Prop
  | .attaching _ sid _ (.stopping _ task) => w.writerDone sid task
  | .attaching _ _ _ (.closing _) => True
  | .replaying _ sid _ f => ((w.sessions sid).futures f).isSome = true
  | .aborting _ sid task => w.writerDone sid task
  | .probing _ _ .telling => True
  | .probing _ _ .closing => True
  | .ending _ sid (.stopping _ task) => w.writerDone sid task
  | .ending _ _ (.closing _) => True
  | .ending _ sid (.wait wait) => w.waitReady sid false wait
  | .polling _ _ _ _ => True
  | _ => False

instance (w : World) : (c : Critical) → Decidable (w.ready c)
  | .attaching _ sid _ (.stopping _ task) => inferInstanceAs (Decidable (w.writerDone sid task))
  | .replaying _ _ _ _ => inferInstanceAs (Decidable (_ = _))
  | .aborting _ sid task => inferInstanceAs (Decidable (w.writerDone sid task))
  | .ending _ sid (.stopping _ task) => inferInstanceAs (Decidable (w.writerDone sid task))
  | .ending _ sid (.wait wait) => inferInstanceAs (Decidable (w.waitReady sid false wait))
  | .attaching _ _ _ (.closing _) | .probing _ _ .telling | .probing _ _ .closing
  | .ending _ _ (.closing _) | .polling _ _ _ _ => inferInstanceAs (Decidable True)
  | .entered _ | .attaching _ _ _ .begin | .probing _ _ .asking | .ending _ _ .begin
  | .ended _ _ => inferInstanceAs (Decidable False)

/-- The await of the lock's holder returns. -/
def resume (cfg : Settings) (w : World) : Critical → World
  | .attaching ws sid message (.stopping old _) => w.closeOld ws sid message old
  | .attaching ws sid message (.closing _) => w.installSocket cfg ws sid message
  | .replaying ws sid message _ => w.attachReturned cfg ws sid message
  | .aborting ws _ _ => w.abandon ws
  | .probing ws mode .telling =>
    (w.callClose ws historyCheckCloseCode).hold (.probing ws mode .closing)
  | .probing ws _ .closing => w.abandon ws
  | .ending owner sid (.stopping old _) => w.closeReplaced owner sid old
  | .ending owner sid (.closing _) => w.terminate cfg owner sid
  | .ending owner sid (.wait wait) => w.continueEnding cfg owner sid false wait
  | .polling owner sid stage left => w.poll cfg owner sid stage left
  | _ => w

/-- When the holder's wait for a queued close can time out. -/
def canTimeOut (w : World) : Critical → Prop
  | .ending _ sid (.wait wait) => w.waitReady sid true wait
  | _ => False

instance (w : World) : (c : Critical) → Decidable (w.canTimeOut c)
  | .ending _ sid (.wait wait) => inferInstanceAs (Decidable (w.waitReady sid true wait))
  | .ending _ _ .begin | .ending _ _ (.stopping _ _) | .ending _ _ (.closing _)
  | .attaching _ _ _ _ | .replaying _ _ _ _ | .aborting _ _ _ | .probing _ _ _
  | .polling _ _ _ _ | .entered _ | .ended _ _ => inferInstanceAs (Decidable False)

/-- The holder's wait for a queued close times out. -/
def timeOut (cfg : Settings) (w : World) : Critical → World
  | .ending owner sid (.wait wait) => w.continueEnding cfg owner sid true wait
  | _ => w

/-- `CancelledError` is thrown into `attach`. `_stop_outbound_writer` suppresses it, so that
`attach` goes on there; `old.close` and the wait for the replay let it through. -/
def cancelAttach (w : World) : Critical → World
  | .attaching ws sid message (.stopping old _) => w.closeOld ws sid message old
  | .attaching ws _ _ (.closing _) => w.abandon ws
  | .replaying ws sid _ _ => w.cancelReplay ws sid
  | .aborting ws _ _ => w.abandon ws
  | _ => w

/-- The awaits of `attach`. -/
def attachWaits : Critical → Bool
  | .attaching _ _ _ (.stopping _ _) => true
  | .attaching _ _ _ (.closing _) => true
  | .replaying _ _ _ _ => true
  | .aborting _ _ _ => true
  | _ => false

/-- The sleep of `_grace_countdown` is over, and it asks for the lock. -/
def graceExpires (cfg : Settings) (w : World) (sid : SessionId) (k : ℕ) : World :=
  (w.on sid (·.fireGrace k)).request cfg (.grace sid k) false

/-- `_idle_countdown` looks at the last activity. -/
def idleWakes (cfg : Settings) (w : World) (sid : SessionId) : World :=
  let due := (w.sessions sid).lastActivity + cfg.idle
  if due ≤ w.now then (w.on sid Session.fireIdle).request cfg (.idle sid) false
  else w.on sid (·.sleepIdle (w.now + max (due - w.now) idleMinSleep))

/-- `_handle_exit` notifies when it returns, for a session that was live. -/
def exitReturns (w : World) (wasLive : Bool) : World := if wasLive then w.notify else w

/-- `_handle_exit` takes its first step. -/
def exitRuns (w : World) (sid : SessionId) (code : Option ℤ) : World :=
  let s := w.sessions sid
  let w := w.on sid (·.handleExit w.now code)
  if (w.sessions sid).exitTask = .finished then w.exitReturns (s.alive && !s.terminating) else w

/-- The wait of `_handle_exit` goes on. -/
def continueExit (w : World) (sid : SessionId) (timedOut wasLive : Bool) (wait : WaitClose) :
    World :=
  let w' := w.waitWorld sid timedOut wait
  match w.waitNext sid timedOut wait with
  | some wait => w'.on sid fun s => { s with exitTask := .waiting wait wasLive }
  | none => (w'.on sid fun s => { s with exitTask := .finished }).exitReturns wasLive

/-- The wait of `_handle_exit` goes on, if it waits. -/
def exitResumes (w : World) (sid : SessionId) (timedOut : Bool) : World :=
  (w.sessions sid).exitTask.wait?.elim w fun (wait, wasLive) =>
    w.continueExit sid timedOut wasLive wait

/-- `close_attached`, with the code that the revocation of a token uses. -/
def closeAttached (w : World) (call : ℕ) (sid : SessionId) (ws : Ws) : World :=
  if (w.sessions sid).outWriterWs = some ws then
    match (w.sessions sid).queuedCloseFuture with
    | none => w
    | some f =>
      (w.on sid (·.queuedClose unauthorizedCloseCode "세션이 폐기되었습니다")).setCloser call
        (some (sid, .future ws unauthorizedCloseCode f (w.now + outboundCloseTimeout)))
  else w.callClose ws unauthorizedCloseCode

/-- The wait of `close_attached` goes on, if it waits. -/
def closerResumes (w : World) (call : ℕ) (timedOut : Bool) : World :=
  (w.closers call).elim w fun (sid, wait) =>
    (w.waitWorld sid timedOut wait).setCloser call
      ((w.waitNext sid timedOut wait).map fun wait => (sid, wait))

/-- The writer takes a frame; the send of a close frame is a `ws.close` call. -/
def writerTakes (w : World) (sid : SessionId) (ws : Ws) : World :=
  let w' := w.on sid (·.onWriter ws Writer.take)
  match ((w.sessions sid).writers ws).queue.head?.map Outbound.payload with
  | some (.close code _) => w'.callClose ws code
  | _ => w'

/-- The session whose receive loop a connection runs. -/
def loopSession (w : World) (ws : Ws) : Option SessionId :=
  match w.routes ws with
  | .looping sid => some sid
  | _ => none

/-- The receive loop handles one frame and goes on, or leaves through an exception. -/
def receive (cfg : Settings) (w : World) (ws : Ws) (frame : Received)
    (results : List WriteResult) : World :=
  (w.loopSession ws).elim w fun sid =>
    let w' := w.on sid fun s => (s.handleFrame w.now frame results).1
    match ((w.sessions sid).handleFrame w.now frame results).2 with
    | .ok _ => w'.receiveNext cfg ws sid
    | .error _ => w'.detach cfg ws sid

/-- The receive loop ends. -/
def leave (cfg : Settings) (w : World) (ws : Ws) : World :=
  (w.loopSession ws).elim w fun sid => w.detach cfg ws sid

/-- `detach` goes on after its wait. -/
def detachResumes (cfg : Settings) (w : World) (ws : Ws) : World :=
  (w.routes ws).detachWait.elim w fun (sid, _) => w.finishDetach cfg ws sid

end World

/-- The sleep of a grace countdown can be over. -/
def Countdown.Due (now : Time) : Countdown → Prop
  | .sleeping deadline => deadline ≤ now
  | _ => False

instance (now : Time) : (c : Countdown) → Decidable (c.Due now)
  | .sleeping deadline => inferInstanceAs (Decidable (deadline ≤ now))
  | .unused | .cancelled | .fired => inferInstanceAs (Decidable False)

/-- The sleep of the idle countdown can be over. -/
def Idle.Due (now : Time) : Idle → Prop
  | .sleeping wake => wake ≤ now
  | _ => False

instance (now : Time) : (i : Idle) → Decidable (i.Due now)
  | .sleeping wake => inferInstanceAs (Decidable (wake ≤ now))
  | .off | .fired => inferInstanceAs (Decidable False)

/-- When an event can happen. -/
def Event.Enabled (w : World) : Event → Prop
  | .tick _ | .requestEnd _ | .getLive => True
  | .connect ws _ _ => w.routes ws = .absent
  | .acquire _ => w.holder = none ∧ w.waiters ≠ []
  | .resume => ∃ c, w.holder = some c ∧ w.ready c
  | .timeOut => ∃ c, w.holder = some c ∧ w.canTimeOut c
  | .answer _ => (w.holder.bind Critical.asking).isSome = true
  | .cancelAttach => ∃ c, w.holder = some c ∧ World.attachWaits c = true
  | .graceExpires sid k => sid < w.count ∧ ((w.sessions sid).countdowns k).Due w.now
  | .idleWakes sid => sid < w.count ∧ (w.sessions sid).idle.Due w.now
  | .exitRuns sid _ => sid < w.count ∧ (w.sessions sid).exitTask = .created
  | .exitResumes sid timedOut =>
    ∃ wait, (w.sessions sid).exitTask.wait? = some wait ∧ w.waitReady sid timedOut wait.1
  | .closeAttached call _ _ => w.closers call = none
  | .closerResumes call timedOut =>
    ∃ closer, w.closers call = some closer ∧ w.waitReady closer.1 timedOut closer.2
  | .ptyData sid data =>
    sid < w.count ∧ (w.sessions sid).readerRegistered = true ∧ (w.sessions sid).masterFd = true ∧
      data ≠ [] ∧ data.length ≤ readChunk
  | .ptyEof sid =>
    sid < w.count ∧ (w.sessions sid).readerRegistered = true ∧ (w.sessions sid).masterFd = true
  | .childExits sid => sid < w.count ∧ (w.sessions sid).child = .running
  | .flush sid _ => (w.sessions sid).writerRegistered = true
  | .writerTakes sid ws =>
    ((w.sessions sid).writers ws).cancelRequested = false ∧
      ((w.sessions sid).writers ws).pc.Waiting
  | .writerSent sid ws | .writerFails sid ws _ =>
    ((w.sessions sid).writers ws).cancelRequested = false ∧
      ((w.sessions sid).writers ws).pc.Sending
  | .writerCancelled sid ws _ =>
    ((w.sessions sid).writers ws).cancelRequested = true ∧
      ((w.sessions sid).writers ws).pc ≠ .finished
  | .receive ws _ _ | .leave ws => (w.loopSession ws).isSome = true
  | .detachResumes ws => ∃ wait, (w.routes ws).detachWait = some wait ∧ w.writerDone wait.1 wait.2

/-- It can be computed whether some value of an optional field has a property. -/
instance decidableExistsSome {α : Type} (o : Option α) (p : α → Prop) [DecidablePred p] :
    Decidable (∃ a, o = some a ∧ p a) :=
  match o with
  | none => isFalse fun ⟨_, h, _⟩ => nomatch h
  | some a =>
    if h : p a then isTrue ⟨a, rfl, h⟩
    else isFalse fun ⟨_, he, hp⟩ => h (Option.some.inj he ▸ hp)

instance (w : World) : (e : Event) → Decidable (e.Enabled w)
  | .tick _ | .requestEnd _ | .getLive => inferInstanceAs (Decidable True)
  | .connect _ _ _ => inferInstanceAs (Decidable (_ = _))
  | .exitRuns _ _ => inferInstanceAs (Decidable (_ ∧ _))
  | .closeAttached call _ _ => inferInstanceAs (Decidable (w.closers call = none))
  | .acquire _ => inferInstanceAs (Decidable (_ ∧ _))
  | .resume | .timeOut | .cancelAttach | .exitResumes _ _ | .closerResumes _ _ | .detachResumes _ =>
    inferInstanceAs (Decidable (∃ _, _ = some _ ∧ _))
  | .answer _ | .flush _ _ | .receive _ _ _ | .leave _ => inferInstanceAs (Decidable (_ = true))
  | .graceExpires _ _ => inferInstanceAs (Decidable (_ ∧ Countdown.Due _ _))
  | .idleWakes _ => inferInstanceAs (Decidable (_ ∧ Idle.Due _ _))
  | .ptyData _ _ => inferInstanceAs (Decidable (_ ∧ _))
  | .ptyEof _ => inferInstanceAs (Decidable (_ ∧ _))
  | .childExits _ => inferInstanceAs (Decidable (_ ∧ _))
  | .writerTakes _ _ => inferInstanceAs (Decidable (_ ∧ WriterPc.Waiting _))
  | .writerSent _ _ | .writerFails _ _ _ => inferInstanceAs (Decidable (_ ∧ WriterPc.Sending _))
  | .writerCancelled _ _ _ => inferInstanceAs (Decidable (_ ∧ _))

/-- The state after an event. -/
def Event.apply (cfg : Settings) (w : World) : Event → World
  | .tick elapsed => { w with now := w.now + elapsed }
  | .connect ws mode found => (w.setRoute ws .waiting).request cfg (.route ws mode) found
  | .requestEnd request => w.request cfg (.endRequest request) false
  | .getLive => w.purge
  | .acquire found => w.acquire cfg found
  | .resume => w.holder.elim w (w.resume cfg)
  | .timeOut => w.holder.elim w (w.timeOut cfg)
  | .answer history =>
    (w.holder.bind Critical.asking).elim w fun (ws, mode) => w.answerHistory cfg ws mode history
  | .cancelAttach => w.holder.elim w w.cancelAttach
  | .graceExpires sid k => w.graceExpires cfg sid k
  | .idleWakes sid => w.idleWakes cfg sid
  | .exitRuns sid code => w.exitRuns sid code
  | .exitResumes sid timedOut => w.exitResumes sid timedOut
  | .closeAttached call sid ws => w.closeAttached call sid ws
  | .closerResumes call timedOut => w.closerResumes call timedOut
  | .ptyData sid data => w.on sid (·.ptyData w.now data)
  | .ptyEof sid => w.on sid Session.ptyEof
  | .childExits sid => w.on sid Session.childExit
  | .flush sid results => w.on sid (·.flushWrite results)
  | .writerTakes sid ws => w.writerTakes sid ws
  | .writerSent sid ws => w.on sid (·.writerSent ws)
  | .writerFails sid ws delivered => w.on sid (·.writerFailed ws delivered)
  | .writerCancelled sid ws delivered => w.on sid (·.writerCancelled ws delivered)
  | .receive ws frame results => w.receive cfg ws frame results
  | .leave ws => w.leave cfg ws
  | .detachResumes ws => w.detachResumes cfg ws

/-- The transition system of one session key. -/
def keySystem (cfg : Settings) : System World Event where
  Enabled := Event.Enabled
  apply := Event.apply cfg

instance (cfg : Settings) (w : World) (e : Event) : Decidable ((keySystem cfg).Enabled w e) :=
  inferInstanceAs (Decidable (e.Enabled w))

/-- The states that the system of one key reaches under a condition on its steps. -/
def ReachableIf (cfg : Settings) (cond : World → Event → Prop) (w : World) : Prop :=
  Run (keySystem cfg) cond {} w

/-- The states that the system of one key reaches. -/
def Reachable (cfg : Settings) (w : World) : Prop := ReachableIf cfg (fun _ _ => True) w

end WTerm
