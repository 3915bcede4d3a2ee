import Mathlib.Tactic.Simps.Basic
import WTerm.Session.Basic

/-!
# The outbound writer of a session

Frames to the browser pass through one queue and one writer task for each connection. This
file has the source's functions that put frames in the queue, the steps of the writer
between two awaits, and the pause of the PTY reader that the pending bytes drive.
-/

namespace WTerm

/-- The writer waits for a frame. -/
def WriterPc.Waiting : WriterPc → Prop
  | .created | .getting => True
  | _ => False

instance : (pc : WriterPc) → Decidable pc.Waiting
  | .created | .getting => inferInstanceAs (Decidable True)
  | .absent | .sending _ | .finished => inferInstanceAs (Decidable False)

/-- The writer is in a send. -/
def WriterPc.Sending : WriterPc → Prop
  | .sending _ => True
  | _ => False

instance : (pc : WriterPc) → Decidable pc.Sending
  | .sending _ => inferInstanceAs (Decidable True)
  | .absent | .created | .getting | .finished => inferInstanceAs (Decidable False)

/-- The bytes that a frame adds to `_out_pending_bytes`. -/
def Payload.size : Payload → ℕ
  | .bytes data => data.length
  | _ => 0

/-- `queue.put_nowait(item)`. -/
def Writer.put (w : Writer) (item : Outbound) : Writer :=
  { w with queue := w.queue ++ [item], accepted := w.accepted ++ [item.payload] }

/-- `task.cancel()`. -/
def Writer.cancel (w : Writer) : Writer :=
  if w.pc = .finished then w else { w with cancelRequested := true }

/-- `queue.get()` returns the first item, and its send begins. -/
def Writer.take (w : Writer) : Writer :=
  match w.queue with
  | [] => { w with pc := .getting }
  | item :: rest => { w with pc := .sending item, queue := rest }

namespace Lifecycle

/-- `last_activity = time.monotonic()`. -/
@[simps]
def touch (l : Lifecycle) (now : Time) : Lifecycle := { l with lastActivity := now }

/-- `websocket = ws`. -/
def setWebsocket (l : Lifecycle) (ws : Ws) : Lifecycle :=
  { l with websocket := some ws, joined := Function.update l.joined ws true }

/-- `websocket = None`. -/
@[simps]
def clearWebsocket (l : Lifecycle) (now : Time) : Lifecycle :=
  { l with websocket := none, leftAt := if l.websocket = none then l.leftAt else now }

end Lifecycle

namespace Session

/-- `_pause_pty_reader`. -/
def pausePtyReader (s : Session) : Session :=
  if s.ptyReaderPaused || !s.masterFd then s
  else { s with readerRegistered := false, ptyReaderPaused := true }

/-- `_resume_pty_reader`. -/
def resumePtyReader (s : Session) : Session :=
  if !s.ptyReaderPaused then s
  else if s.alive && !s.terminating && s.masterFd then
    { s with readerRegistered := true, ptyReaderPaused := false }
  else { s with ptyReaderPaused := false }

/-- `_resume_pty_reader`, if the pending bytes are down to the low watermark. -/
def resumeAtLowWatermark (s : Session) : Session :=
  if s.outPendingBytes ≤ (outputLowWatermark : ℤ) then s.resumePtyReader else s

/-- `done.set_result(sent)`, unless there is no future or it is done already. -/
def settle (s : Session) (done : Option ℕ) (sent : Bool) : Session :=
  match done with
  | none => s
  | some f =>
    if (s.futures f).isSome then s
    else { s with futures := Function.update s.futures f (some sent) }

/-- `loop.create_future()`. -/
def createFuture (s : Session) : Session := { s with nextFuture := s.nextFuture + 1 }

/-- Change the writer of one connection. -/
def onWriter (s : Session) (ws : Ws) (f : Writer → Writer) : Session :=
  { s with writers := Function.update s.writers ws (f (s.writers ws)) }

/-- The accounting of `_enqueue_outbound`: byte frames count, and pause the reader from the
high watermark on. -/
def countPending (s : Session) : Payload → Session
  | .bytes data =>
    let s := { s with outPendingBytes := s.outPendingBytes + data.length }
    if (outputHighWatermark : ℤ) ≤ s.outPendingBytes then s.pausePtyReader else s
  | _ => s

/-- `_enqueue_outbound`. -/
def enqueueOutbound (s : Session) (item : Outbound) : Session :=
  match s.outQueue with
  | none => s.settle item.done false
  | some q => (s.countPending item.payload).onWriter q (·.put item)

/-- `send_status`. -/
def sendStatus (s : Session) (message : String) : Session :=
  s.enqueueOutbound { payload := .text (.status message) }

/-- `_queued_control("close", (code, reason))`. -/
def queuedClose (s : Session) (code : ℕ) (reason : String) : Session :=
  match s.outQueue with
  | none => s
  | some _ =>
    s.createFuture.enqueueOutbound { payload := .close code reason, done := some s.nextFuture }

/-- The future that `_queued_control` returns. -/
def queuedCloseFuture (s : Session) : Option ℕ := s.outQueue.map fun _ => s.nextFuture

/-- `_outbound_writer` leaves a send: its inner `finally`. -/
def releaseCurrent (s : Session) (item : Outbound) (sent : Bool) : Session :=
  match item.payload with
  | .bytes data =>
    ({ s with outPendingBytes := s.outPendingBytes - data.length }).resumeAtLowWatermark.settle
      item.done sent
  | _ => s.settle item.done sent

/-- `_outbound_writer` discards an item that is still queued when it ends. -/
def discard (s : Session) (item : Outbound) : Session :=
  ({ s with outPendingBytes := s.outPendingBytes - item.payload.size }).settle item.done false

/-- The session's references to the writer are cleared if they still name this one. -/
def forgetWriter (s : Session) (ws : Ws) : Session :=
  if s.outWriterTask = some ws then
    { s with outQueue := none, outWriterTask := none, outWriterWs := none }
  else s

/-- `_outbound_writer` ends: its outer `finally`. -/
def finishWriter (s : Session) (ws : Ws) : Session :=
  ((s.writers ws).queue.foldl discard s).resumeAtLowWatermark.forgetWriter ws |>.onWriter ws
    fun w => { w with pc := .finished, queue := [] }

/-- The frame in flight is recorded as handed to the transport. -/
def recordSent (s : Session) (ws : Ws) (item : Outbound) : Session :=
  s.onWriter ws fun w => { w with sent := w.sent ++ [item.payload] }

/-- The send of the current frame returns. -/
def writerSent (s : Session) (ws : Ws) : Session :=
  match (s.writers ws).pc with
  | .sending item =>
    let s := (s.recordSent ws item).releaseCurrent item true
    match item.payload with
    | .close _ _ => s.finishWriter ws
    | _ => s.onWriter ws fun w => { w with pc := .getting }
  | _ => s

/-- The send of the current frame raises, after the transport took the frame or before. -/
def writerFailed (s : Session) (ws : Ws) (delivered : Bool) : Session :=
  match (s.writers ws).pc with
  | .sending item =>
    ((if delivered then s.recordSent ws item else s).releaseCurrent item false).finishWriter ws
  | _ => s

/-- `CancelledError` is thrown into the writer. A task that never took a step is done without
entering its body. -/
def writerCancelled (s : Session) (ws : Ws) (delivered : Bool) : Session :=
  match (s.writers ws).pc with
  | .created => s.onWriter ws fun w => { w with pc := .finished }
  | .sending _ => s.writerFailed ws delivered
  | _ => s.finishWriter ws

/-- The writer task that `_stop_outbound_writer` cancels. -/
def stopTask (s : Session) (ws : Ws) : Option Ws :=
  if s.outWriterWs = some ws then s.outWriterTask else none

/-- `_stop_outbound_writer`, up to its await. -/
def stopOutboundWriter (s : Session) (ws : Ws) : Session :=
  match s.stopTask ws with
  | none => s
  | some task => s.onWriter task Writer.cancel

/-- The task that `_stop_outbound_writer` waits for; awaiting a finished task does not
suspend. -/
def stopAwaits (s : Session) (ws : Ws) : Option Ws :=
  (s.stopTask ws).filter fun task => (s.writers task).pc ≠ .finished

/-- The mark of the connection that stops being `websocket` now. -/
def removalMarks (s : Session) : Ws → Option ℕ :=
  match s.websocket with
  | none => s.removedAt
  | some ws => Function.update s.removedAt ws (some s.out.length)

/-- `attach` puts a connection in place, with a new queue and a new writer task. -/
def setWebsocket (s : Session) (ws : Ws) : Session :=
  { s with
    toLifecycle := s.toLifecycle.setWebsocket ws
    outQueue := some ws
    outWriterWs := some ws
    outWriterTask := some ws
    writers := Function.update s.writers ws { pc := .created }
    installedAt := Function.update s.installedAt ws (some s.out.length)
    removedAt := s.removalMarks }

/-- `attach` queues the replay of a buffer that is not empty. -/
def sendReplay (s : Session) : Session :=
  if s.buffer = [] then s
  else s.createFuture.enqueueOutbound { payload := .bytes s.buffer, done := some s.nextFuture }

/-- `attach` from the installation of the connection to its wait for the replay. -/
def install (s : Session) (ws : Ws) : Session := (s.setWebsocket ws).sendReplay

/-- `websocket = None`. -/
def clearWebsocket (s : Session) (now : Time) : Session :=
  { s with toLifecycle := s.toLifecycle.clearWebsocket now, removedAt := s.removalMarks }

/-- `last_activity = time.monotonic()`. -/
def touch (s : Session) (now : Time) : Session :=
  { s with toLifecycle := s.toLifecycle.touch now }

/-- A chunk of output goes to the replay buffer, which keeps the last `BUFFER_LIMIT` bytes. -/
def keepOutput (s : Session) (data : List UInt8) : Session :=
  let buffer := s.buffer ++ data
  { s with buffer := buffer.drop (buffer.length - bufferLimit), out := s.out ++ data }

/-- A chunk of output goes to the replay buffer and to the connection, if there is one. -/
def passOutput (s : Session) (data : List UInt8) : Session :=
  let s := s.keepOutput data
  if s.websocket.isSome then s.enqueueOutbound { payload := .bytes data } else s

/-- `_on_pty_readable`, with a chunk of output. -/
def ptyData (s : Session) (now : Time) (data : List UInt8) : Session :=
  (s.touch now).passOutput data

/-- `_on_pty_readable`, at the end of the file. -/
def ptyEof (s : Session) : Session :=
  { s with
    readerRegistered := s.readerRegistered && !s.masterFd
    exitTask := if s.exitTask = .none then .created else s.exitTask }

end Session

end WTerm
