import WTerm.Manager.Inputs
import WTerm.Manager.Termination

/-!
# The shutdown of the server

`SessionManager.shutdown` terminates all sessions at once and waits for all of them. Its `terminate`
calls do not take the transition lock: they overlap with those of the other operations, with
`_handle_exit`, and with whatever the connections do.
-/

namespace WTerm

open Transition

/-- The sleep of `_wait_reaped`. -/
def reapSleep : ℕ := second / 10

/-- What an outbound writer does between two awaits. -/
inductive WriterStep where
  | takes
  | sent
  | fails (delivered : Bool)
  | cancelled (delivered : Bool)
  deriving DecidableEq

namespace WriterStep

/-- When a writer can take a step. -/
def Enabled (w : Writer) : WriterStep → Prop
  | .takes => w.cancelRequested = false ∧ w.pc.Waiting
  | .sent | .fails _ => w.cancelRequested = false ∧ w.pc.Sending
  | .cancelled _ => w.cancelRequested = true ∧ w.pc ≠ .finished

instance decidableEnabled (w : Writer) : (step : WriterStep) → Decidable (step.Enabled w)
  | .takes => inferInstanceAs (Decidable (_ ∧ WriterPc.Waiting _))
  | .sent | .fails _ => inferInstanceAs (Decidable (_ ∧ WriterPc.Sending _))
  | .cancelled _ => inferInstanceAs (Decidable (_ ∧ _))

/-- The session after a step of a writer. -/
def apply (s : Session) (ws : Ws) : WriterStep → Session
  | .takes => s.onWriter ws Writer.take
  | .sent => s.writerSent ws
  | .fails delivered => s.writerFailed ws delivered
  | .cancelled delivered => s.writerCancelled ws delivered

end WriterStep

/-- What happens between a session and its connections. -/
inductive ConnectionEvent where
  /-- `attach` installs a new connection. -/
  | attach (ws : Ws)
  /-- Some operation takes the session from its connection and stops the writer. -/
  | detach (ws : Ws)
  /-- The PTY has output. -/
  | output (data : List UInt8)
  | writer (ws : Ws) (step : WriterStep)
  deriving DecidableEq

namespace ConnectionEvent

/-- When an event can happen. -/
def Enabled (s : Session) : ConnectionEvent → Prop
  | .attach ws => s.joined ws = false
  | .detach ws => s.websocket = some ws
  | .output data =>
    s.readerRegistered = true ∧ s.masterFd = true ∧ data ≠ [] ∧ data.length ≤ readChunk
  | .writer ws step => step.Enabled (s.writers ws)

instance decidableEnabled (s : Session) : (e : ConnectionEvent) → Decidable (e.Enabled s)
  | .attach _ | .detach _ => inferInstanceAs (Decidable (_ = _))
  | .output _ => inferInstanceAs (Decidable (_ ∧ _))
  | .writer ws step => inferInstanceAs (Decidable (step.Enabled (s.writers ws)))

/-- The session after an event. -/
def apply (now : Time) (s : Session) : ConnectionEvent → Session
  | .attach ws => s.install ws
  | .detach ws => (s.clearWebsocket now).stopOutboundWriter ws
  | .output data => s.ptyData now data
  | .writer ws step => step.apply s ws

end ConnectionEvent

/-- Where `shutdown` stands. -/
inductive ShutdownPc where
  | idle
  /-- In the `gather` over the sessions. -/
  | gathering (sids : List SessionId)
  /-- Awaiting a writer task of a session, with the sessions after it. -/
  | stopping (sid : SessionId) (task : Ws) (rest : List SessionId)
  | returned
  deriving DecidableEq

/-- The sessions of the manager. The call number 0 of each of them is that of the shutdown. -/
structure SessionManager where
  now : ℕ := 0
  /-- How many sessions were created. -/
  count : ℕ := 0
  states : SessionId → Termination := fun _ => { session := .blank }
  /-- `sessions.values()`. -/
  sessions : List SessionId := []
  shutdown : ShutdownPc := .idle
  /-- When the sleep of the shutdown's call is over. -/
  wakeAt : SessionId → ℕ := fun _ => 0
  /-- History: when `shutdown` was called. -/
  began : ℕ := 0
  /-- History: the sessions that it found. -/
  found : List SessionId := []

namespace SessionManager

/-- The shutdown's `terminate` call of a session. -/
def call (m : SessionManager) (sid : SessionId) : TerminateCall := (m.states sid).calls 0

/-- Change one session with its calls. -/
def on (m : SessionManager) (sid : SessionId) (f : Termination → Termination) : SessionManager :=
  { m with states := Function.update m.states sid (f (m.states sid)) }

/-- A step of the shutdown's call, which ends in a sleep or in its return. -/
def onCall (m : SessionManager) (sid : SessionId) (f : Termination → Termination) :
    SessionManager :=
  { m.on sid f with wakeAt := Function.update m.wakeAt sid (m.now + reapSleep) }

/-- `start_locked` registers a new session. -/
def start (m : SessionManager) (idleSeconds : ℕ) : SessionManager :=
  { m with
    states := Function.update m.states m.count
      { session := Session.blank.spawn m.now idleSeconds }
    sessions := m.sessions ++ [m.count]
    count := m.count + 1 }

/-- The last loop of `shutdown`, up to its next wait or to the end. -/
def stopWriters : List SessionId → SessionManager → SessionManager
  | [], m => { m with sessions := [], shutdown := .returned }
  | sid :: rest, m =>
    match (m.states sid).session.websocket with
    | none => stopWriters rest m
    | some ws =>
      let task := (m.states sid).session.stopAwaits ws
      let m := m.on sid (·.on fun s => (s.clearWebsocket m.now).stopOutboundWriter ws)
      match task with
      | some task => { m with shutdown := .stopping sid task rest }
      | none => stopWriters rest m

/-- `cancel_grace` of the sessions of the manager. -/
def cancelGraces (m : SessionManager) : SessionManager :=
  { m with
    states := fun sid =>
      if sid ∈ m.sessions then (m.states sid).on Session.cancelGrace else m.states sid }

/-- `shutdown`, up to its first wait. -/
def beginShutdown (m : SessionManager) : SessionManager :=
  let m := { m.cancelGraces with began := m.now, found := m.sessions }
  if m.sessions = [] then stopWriters [] m else { m with shutdown := .gathering m.sessions }

/-- The sessions that the `gather` waits for. -/
def gathers (m : SessionManager) : List SessionId :=
  match m.shutdown with
  | .gathering sids => sids
  | _ => []

/-- The session that the last loop waits for has its writer done. -/
def WriterStopped (m : SessionManager) : ShutdownPc → Prop
  | .stopping sid task _ => ((m.states sid).session.writers task).pc = .finished
  | _ => False

instance decidableWriterStopped (m : SessionManager) :
    (pc : ShutdownPc) → Decidable (m.WriterStopped pc)
  | .stopping _ _ _ => inferInstanceAs (Decidable (_ = _))
  | .idle | .gathering _ | .returned => inferInstanceAs (Decidable False)

end SessionManager

/-- The steps of the other tasks of a session, and of its child. -/
def TerminationEvent.Other (now : Time) : TerminationEvent → Prop
  | .call k | .poll k => k ≠ 0
  | .exitRuns time _ => time = now
  | .childExits | .ptyEof => True

instance decidableOther (now : Time) : (e : TerminationEvent) → Decidable (e.Other now)
  | .call k | .poll k => inferInstanceAs (Decidable (k ≠ 0))
  | .exitRuns _ _ => inferInstanceAs (Decidable (_ = _))
  | .childExits | .ptyEof => inferInstanceAs (Decidable True)

/-- What can happen until the server is down. -/
inductive ShutdownEvent where
  | tick (elapsed : ℕ)
  /-- `start_locked` registers a new session. -/
  | start (idleSeconds : ℕ)
  /-- The entry of a session that is over is deleted. -/
  | drop (sid : SessionId)
  | other (sid : SessionId) (e : TerminationEvent)
  | connection (sid : SessionId) (e : ConnectionEvent)
  /-- `shutdown` is called. -/
  | shutdown
  /-- A task of the `gather` takes its first step. -/
  | begins (sid : SessionId)
  /-- A task of the `gather` wakes up. -/
  | wakes (sid : SessionId)
  /-- All tasks of the `gather` are done. -/
  | gathered
  /-- The writer that `shutdown` waits for is done. -/
  | stopped
  deriving DecidableEq

namespace ShutdownEvent

/-- When an event can happen. -/
def Enabled (m : SessionManager) : ShutdownEvent → Prop
  | .tick _ | .start _ => True
  | .drop sid => sid ∈ m.sessions ∧ (m.states sid).session.alive = false
  | .other sid e => sid < m.count ∧ e.Other m.now ∧ e.Enabled (m.states sid)
  | .connection sid e => sid < m.count ∧ e.Enabled (m.states sid).session
  | .shutdown => m.shutdown = .idle
  | .begins sid => sid ∈ m.gathers ∧ m.call sid = .absent
  | .wakes sid =>
    sid ∈ m.gathers ∧ m.call sid ≠ .absent ∧ m.call sid ≠ .returned ∧ m.wakeAt sid ≤ m.now
  | .gathered => m.gathers ≠ [] ∧ ∀ sid ∈ m.gathers, m.call sid = .returned
  | .stopped => m.WriterStopped m.shutdown

instance decidableEnabled (m : SessionManager) : (e : ShutdownEvent) → Decidable (e.Enabled m)
  | .tick _ | .start _ => inferInstanceAs (Decidable True)
  | .drop _ | .begins _ | .wakes _ | .gathered => inferInstanceAs (Decidable (_ ∧ _))
  | .other sid e => inferInstanceAs (Decidable (_ ∧ e.Other m.now ∧ e.Enabled (m.states sid)))
  | .connection sid e => inferInstanceAs (Decidable (_ ∧ e.Enabled (m.states sid).session))
  | .shutdown => inferInstanceAs (Decidable (_ = _))
  | .stopped => inferInstanceAs (Decidable (m.WriterStopped m.shutdown))

/-- The manager after an event. -/
def apply (m : SessionManager) : ShutdownEvent → SessionManager
  | .tick elapsed => { m with now := m.now + elapsed }
  | .start idleSeconds => m.start idleSeconds
  | .drop sid => { m with sessions := m.sessions.erase sid }
  | .other sid e => m.on sid e.apply
  | .connection sid e => m.on sid (·.on (e.apply m.now))
  | .shutdown => m.beginShutdown
  | .begins sid => m.onCall sid (·.terminate 0)
  | .wakes sid => m.onCall sid fun t => TerminationEvent.apply t (.poll 0)
  | .gathered => SessionManager.stopWriters m.gathers m
  | .stopped =>
    match m.shutdown with
    | .stopping _ _ rest => SessionManager.stopWriters rest m
    | _ => m

end ShutdownEvent

/-- The transition system of the manager's sessions and their shutdown. -/
def shutdownSystem : System SessionManager ShutdownEvent where
  Enabled := fun m e => e.Enabled m
  apply := ShutdownEvent.apply

instance shutdownSystemDecidable (m : SessionManager) (e : ShutdownEvent) :
    Decidable (shutdownSystem.Enabled m e) :=
  inferInstanceAs (Decidable (e.Enabled m))

end WTerm
