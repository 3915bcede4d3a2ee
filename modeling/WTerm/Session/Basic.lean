import Mathlib.Data.Int.Notation
import Mathlib.Data.Nat.Notation
import Mathlib.Logic.Function.Basic

/-!
# The state of one session

A session is one PTY process and the WebSocket attached to it. Its record holds the fields
of the source's `Session` object together with the asyncio objects that only this session's
code touches: the outbound writers with their queues, the grace countdowns, the idle
countdown, the exit task and the futures of the queued frames.

The fields that no code path reads are history variables: they record what happened, so
that a property can speak of it.
-/

namespace WTerm

/-- The monotonic clock, in nanoseconds. -/
abbrev Time := ℕ

/-- One second of the clock. -/
def second : Time := 1000000000

/-- A WebSocket connection. A connection attaches to at most one session and only once, so
it also names the writer task and the queue that `attach` creates for it. -/
abbrev Ws := ℕ

/-- The replay buffer's limit. -/
def bufferLimit : ℕ := 256 * 1024

/-- The limit of the input that waits for the PTY. -/
def writeBufferLimit : ℕ := 1024 * 1024

/-- The largest chunk that one read of the PTY returns. -/
def readChunk : ℕ := 65536

/-- Pending output from which on the PTY is not read. -/
def outputHighWatermark : ℕ := 1024 * 1024

/-- Pending output down to which the PTY stays paused. -/
def outputLowWatermark : ℕ := 512 * 1024

/-- How long a queued close frame may wait for the writer. -/
def outboundCloseTimeout : Time := 3 * second

/-- The shortest sleep of the idle countdown. -/
def idleMinSleep : Time := second / 2

/-- The close code of a natural exit. -/
def exitCloseCode : ℕ := 1000

/-- The close code of a connection that another client or a new session displaced. -/
def displacedCloseCode : ℕ := 4000

/-- The close code of a connection whose token is no longer valid. -/
def unauthorizedCloseCode : ℕ := 4401

/-- The close code of an idle expiry. -/
def idleCloseCode : ℕ := 4408

/-- The close code of a session that the user ended. -/
def endedCloseCode : ℕ := 4409

/-- The close code of a failed remote history check. -/
def historyCheckCloseCode : ℕ := 4410

/-- The codes with which the server closes the connection of a terminal, once it has a project and
an agent. -/
def serverCloseCodes : List ℕ :=
  [exitCloseCode, displacedCloseCode, unauthorizedCloseCode, idleCloseCode, endedCloseCode,
    historyCheckCloseCode]

/-- The JSON messages that the server sends as text frames. -/
inductive Text where
  | status (message : String)
  | exit (code : Option ℤ)
  deriving DecidableEq

/-- The content of an outbound frame, with its kind. -/
inductive Payload where
  | bytes (data : List UInt8)
  | text (message : Text)
  | close (code : ℕ) (reason : String)
  deriving DecidableEq

/-- `_Outbound`: a frame in a writer's queue, and the future that learns whether it was sent. -/
structure Outbound where
  payload : Payload
  done : Option ℕ := none
  deriving DecidableEq

/-- Where an outbound writer task stands. -/
inductive WriterPc where
  /-- The task does not exist yet. -/
  | absent
  /-- Created, its first step not taken. -/
  | created
  /-- Waiting in `queue.get()`. -/
  | getting
  /-- Waiting in `ws.send_bytes`, `ws.send_text` or `ws.close`. -/
  | sending (current : Outbound)
  /-- The task is done. -/
  | finished
  deriving DecidableEq

/-- The writer task of one connection, with its queue. -/
structure Writer where
  pc : WriterPc := .absent
  /-- `cancel()` was called and the task has not taken a step since. -/
  cancelRequested : Bool := false
  queue : List Outbound := []
  /-- History: every frame ever put in the queue, in order. -/
  accepted : List Payload := []
  /-- History: every frame handed to the transport, in order. -/
  sent : List Payload := []

/-- A `_grace_countdown` task. -/
inductive Countdown where
  /-- Not created. -/
  | unused
  /-- In its sleep, which ends at the deadline at the earliest. -/
  | sleeping (deadline : Time)
  /-- Cancelled in its sleep. -/
  | cancelled
  /-- Past its sleep: it expires the session and can no longer be cancelled. -/
  | fired
  deriving DecidableEq

/-- The `_idle_countdown` task. -/
inductive Idle where
  /-- Not created, or ended. -/
  | off
  /-- In its sleep, which ends at the given time at the earliest. -/
  | sleeping (wake : Time)
  /-- Past its loop: it expires the session and can no longer be cancelled. -/
  | fired
  deriving DecidableEq

/-- The child process, as `waitpid` sees it. -/
inductive Child where
  | running
  | zombie
  | reaped
  deriving DecidableEq

/-- Where `_wait_outbound_close` stands. -/
inductive WaitClose where
  /-- In `wait_for(shield(done), OUTBOUND_CLOSE_TIMEOUT)`. -/
  | future (ws : Ws) (code : ℕ) (done : ℕ) (deadline : Time)
  /-- After the timeout, in `_stop_outbound_writer`, awaiting the given writer task. -/
  | stopping (ws : Ws) (code : ℕ) (task : Ws)
  /-- In `wait_for(ws.close(...), 1.0)`. -/
  | closing (ws : Ws)
  deriving DecidableEq

/-- Where the `_handle_exit` task stands. -/
inductive ExitTask where
  | none
  | created
  /-- In `_wait_outbound_close`; `wasLive` is the local `was_live`. -/
  | waiting (wait : WaitClose) (wasLive : Bool)
  | finished
  deriving DecidableEq

/-- The fields that decide who holds the session and when it ends. -/
structure Lifecycle where
  alive : Bool := false
  terminating : Bool := false
  websocket : Option Ws := none
  graceTask : Option ℕ := none
  /-- `_idle_task is not None`. -/
  idleTask : Bool := false
  lastActivity : Time := 0
  countdowns : ℕ → Countdown := fun _ => .unused
  nextCountdown : ℕ := 0
  idle : Idle := .off
  /-- History: when `websocket` last became `None`. -/
  leftAt : Time := 0
  /-- History: the connections that were `websocket` at some time. -/
  joined : Ws → Bool := fun _ => false

/-- The fields of the output side. -/
structure Output where
  buffer : List UInt8 := []
  readerRegistered : Bool := false
  ptyReaderPaused : Bool := false
  /-- `_out_queue`, named by the connection the queue was created for. -/
  outQueue : Option Ws := none
  /-- `_out_writer_task`, named likewise. -/
  outWriterTask : Option Ws := none
  outWriterWs : Option Ws := none
  outPendingBytes : ℤ := 0
  exitTask : ExitTask := .none
  writers : Ws → Writer := fun _ => {}
  futures : ℕ → Option Bool := fun _ => none
  nextFuture : ℕ := 0
  /-- History: the whole PTY output read so far. -/
  out : List UInt8 := []
  /-- History: the length of `out` when `attach` installed the connection. -/
  installedAt : Ws → Option ℕ := fun _ => none
  /-- History: the length of `out` when the connection stopped being `websocket`. -/
  removedAt : Ws → Option ℕ := fun _ => none

/-- The fields of the PTY and of its input side. -/
structure Terminal where
  /-- `master_fd >= 0`. -/
  masterFd : Bool := false
  writeBuffer : List UInt8 := []
  writerRegistered : Bool := false
  inputDropped : Bool := false
  child : Child := .running
  /-- History: the bytes that `os.write` took. -/
  written : List UInt8 := []
  /-- History: the sizes set on the PTY, rows first. -/
  winsizes : List (ℕ × ℕ) := []
  /-- History: how often the master fd was closed. -/
  fdCloses : ℕ := 0

/-- `Session`: the object and its tasks. -/
structure Session extends Lifecycle, Output, Terminal

/-- A session that was constructed and not spawned. -/
def Session.blank : Session where

end WTerm
