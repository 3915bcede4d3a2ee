import WTerm.Session.Outbound
import WTerm.Python.Json

/-!
# Timers, termination and input of a session

The remaining source functions of a session: its grace and idle countdowns, the steps of
`terminate` and `_handle_exit`, and the input side with `write_input`, `_flush_write` and
`resize`.
-/

namespace WTerm

/-- `task.cancel()` on a grace countdown. -/
def Countdown.cancel : Countdown → Countdown
  | .sleeping _ => .cancelled
  | c => c

namespace Lifecycle

/-- `cancel_grace`. -/
def cancelGrace (l : Lifecycle) : Lifecycle :=
  match l.graceTask with
  | none => l
  | some k =>
    { l with
      countdowns := Function.update l.countdowns k (l.countdowns k).cancel
      graceTask := none }

/-- `detach` arms a new grace countdown. -/
def armGrace (l : Lifecycle) (deadline : Time) : Lifecycle :=
  { l with
    countdowns := Function.update l.countdowns l.nextCountdown (.sleeping deadline)
    graceTask := some l.nextCountdown
    nextCountdown := l.nextCountdown + 1 }

/-- A grace countdown ends its sleep and clears the reference. -/
def fireGrace (l : Lifecycle) (k : ℕ) : Lifecycle :=
  { l with countdowns := Function.update l.countdowns k .fired, graceTask := none }

/-- `_cancel_idle`: the countdown is cancelled unless it already expires the session, when
the reference is `None`. -/
@[simps]
def cancelIdle (l : Lifecycle) : Lifecycle :=
  { l with idleTask := false, idle := if l.idleTask then .off else l.idle }

/-- The idle countdown sleeps again. -/
@[simps]
def sleepIdle (l : Lifecycle) (wake : Time) : Lifecycle := { l with idle := .sleeping wake }

/-- The idle countdown leaves its loop and clears the reference. -/
@[simps]
def fireIdle (l : Lifecycle) : Lifecycle := { l with idle := .fired, idleTask := false }

/-- `spawn` starts the process. -/
@[simps]
def spawn (l : Lifecycle) (now : Time) (idleSeconds : ℕ) : Lifecycle :=
  { l with
    alive := true
    lastActivity := now
    leftAt := now
    idleTask := decide (0 < idleSeconds)
    idle := if 0 < idleSeconds then .sleeping now else .off }

/-- `_handle_exit` finds a session alive. -/
@[simps!]
def exit (l : Lifecycle) : Lifecycle := ({ l with alive := false }).cancelIdle

/-- `terminate` begins: the session is no longer live. -/
@[simps!]
def beginTerminate (l : Lifecycle) : Lifecycle := ({ l with terminating := true }).cancelIdle

/-- `terminate` ends. -/
@[simps]
def endTerminate (l : Lifecycle) : Lifecycle := { l with alive := false }

end Lifecycle

/-- What one `os.write` does. The ioctl of `resize` has such a result, too: it raises or not. -/
inductive WriteResult where
  /-- Takes some bytes, at least one and at most all. -/
  | wrote (count : ℕ)
  /-- Raises `BlockingIOError`. -/
  | blocked
  /-- Raises another `OSError`. -/
  | failed

namespace Session

/-- `cancel_grace`. -/
def cancelGrace (s : Session) : Session := { s with toLifecycle := s.toLifecycle.cancelGrace }

/-- `detach` arms a new grace countdown. -/
def armGrace (s : Session) (deadline : Time) : Session :=
  { s with toLifecycle := s.toLifecycle.armGrace deadline }

/-- A grace countdown ends its sleep. -/
def fireGrace (s : Session) (k : ℕ) : Session :=
  { s with toLifecycle := s.toLifecycle.fireGrace k }

/-- The idle countdown sleeps again. -/
def sleepIdle (s : Session) (wake : Time) : Session :=
  { s with toLifecycle := s.toLifecycle.sleepIdle wake }

/-- The idle countdown leaves its loop. -/
def fireIdle (s : Session) : Session := { s with toLifecycle := s.toLifecycle.fireIdle }

/-- `_cleanup_fd`. -/
def cleanupFd (s : Session) : Session :=
  if s.masterFd then
    { s with
      readerRegistered := false
      ptyReaderPaused := false
      writerRegistered := false
      writeBuffer := []
      inputDropped := false
      masterFd := false
      fdCloses := s.fdCloses + 1 }
  else s

/-- `spawn`: the process runs and the PTY is read. -/
def spawn (s : Session) (now : Time) (idleSeconds : ℕ) : Session :=
  { s with
    toLifecycle := s.toLifecycle.spawn now idleSeconds
    masterFd := true
    readerRegistered := true
    child := .running }

/-- `_handle_exit`, up to the end of `_reap`, which waits for the child. -/
def exitProcess (s : Session) : Session :=
  { ({ s with toLifecycle := s.toLifecycle.exit }).cleanupFd with child := .reaped }

/-- `_handle_exit` tells the given connection: it queues the exit frame and the close. -/
def announceExit (s : Session) (code : Option ℤ) : Session :=
  (s.enqueueOutbound { payload := .text (.exit code) }).queuedClose exitCloseCode "세션이 종료됨"

/-- The state of `_handle_exit` after its first step, for the connection it found. -/
def exitWait (s : Session) (now : Time) (ws : Option Ws) (wasLive : Bool) : ExitTask :=
  match ws, s.queuedCloseFuture with
  | some ws, some f => .waiting (.future ws exitCloseCode f (now + outboundCloseTimeout)) wasLive
  | _, _ => .finished

/-- `_handle_exit`, up to its wait for the close. -/
def handleExit (s : Session) (now : Time) (code : Option ℤ) : Session :=
  if !s.alive then { s with exitTask := .finished }
  else
    let ws := s.websocket
    let wasLive := !s.terminating
    let s := s.exitProcess.clearWebsocket now
    let exitTask := s.exitWait now ws wasLive
    let s := if ws.isSome then s.announceExit code else s
    { s with exitTask := exitTask }

/-- `terminate` begins: the session is no longer live. -/
def beginTerminate (s : Session) : Session :=
  { s with toLifecycle := s.toLifecycle.beginTerminate }

/-- `terminate` ends. -/
def endTerminate (s : Session) : Session :=
  ({ s with toLifecycle := s.toLifecycle.endTerminate }).cleanupFd

/-- The child exits. -/
def childExit (s : Session) : Session := { s with child := .zombie }

/-- `waitpid` with `WNOHANG` collects the child if it has exited. -/
def reapNoHang (s : Session) : Session :=
  if s.alive ∧ s.child = .zombie then { s with child := .reaped } else s

/-- One iteration of `_wait_reaped` finds that the session is over. -/
def reapedNow (s : Session) : Bool := !s.alive || s.child ≠ .running

/-- `_flush_write`'s loop over `os.write`, with what each call does. A call whose result is
not given, or that takes no byte, blocks. -/
def writePending (s : Session) : List WriteResult → Session
  | [] => s
  | result :: rest =>
    if s.writeBuffer = [] then s
    else match result with
      | .blocked => s
      | .failed => { s with writeBuffer := [] }
      | .wrote count =>
        if count = 0 ∨ s.writeBuffer.length < count then s
        else ({ s with
          written := s.written ++ s.writeBuffer.take count
          writeBuffer := s.writeBuffer.drop count }).writePending rest

/-- `_flush_write`. -/
def flushWrite (s : Session) (results : List WriteResult) : Session :=
  if !s.masterFd then s
  else
    let s := s.writePending results
    if s.writeBuffer ≠ [] then { s with writerRegistered := true }
    else { s with inputDropped := false, writerRegistered := false }

/-- `write_input`: the session after it, and whether it reports dropped input. The time of
the activity is taken before the text is encoded. -/
def writeInput (s : Session) (now : Time) (data : PyStr) (results : List WriteResult) :
    Session × Except PyException Bool :=
  if !(s.alive && s.masterFd) then (s, .ok false)
  else
    let s := s.touch now
    match PyStr.encode data with
    | .error e => (s, .error e)
    | .ok encoded =>
      if writeBufferLimit < s.writeBuffer.length + encoded.length then
        ({ s with inputDropped := true }, .ok !s.inputDropped)
      else (({ s with writeBuffer := s.writeBuffer ++ encoded }).flushWrite results, .ok false)

/-- A number of columns or rows as `winsize` can hold it. -/
def clampSize (n : ℤ) : ℕ := (max 0 (min n 0xFFFF)).toNat

/-- Whether the ioctl of `resize` raises an `OSError`, given the results of the step. -/
def ioctlFails : List WriteResult → Bool
  | .failed :: _ => true
  | _ => false

/-- `resize`. An `OSError` is ignored, and the PTY keeps its size. -/
def resize (s : Session) (cols rows : ℤ) (results : List WriteResult) : Session :=
  if !(s.alive && s.masterFd) then s
  else if ioctlFails results then s
  else { s with winsizes := s.winsizes ++ [(clampSize rows, clampSize cols)] }

/-- What the PTY was given or will be given: the input bytes and the sizes. -/
def ptyInput (s : Session) : List UInt8 × List (ℕ × ℕ) :=
  (s.written ++ s.writeBuffer, s.winsizes)

end Session

end WTerm
