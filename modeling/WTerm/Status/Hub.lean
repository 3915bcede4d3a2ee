import WTerm.Config.Model
import WTerm.Lib.Transition
import WTerm.Manager.World
import WTerm.Session.Lifecycle

/-!
# The project status channel

`ProjectStatusHub` sends every subscriber a snapshot of all projects with the live flags of
their sessions. It is woken by `changed`, which the sessions of all keys call when a live flag
changes. Here the lifecycles of the sessions of all keys run beside the hub, without the
transition locks: their starts, terminations and exits come in any order.
-/

namespace WTerm

open Transition

/-- `f"{project.name}#{agent}"`. -/
structure SessionKey where
  project : PyStr
  agent : Agent
  deriving DecidableEq

/-- A project in a snapshot. -/
structure StatusEntry where
  project : Project
  live : Bool
  codexLive : Bool
  shellLive : Bool
  hasHistory : Bool
  codexHasHistory : Bool
  deriving DecidableEq

/-- The live flag of an agent. -/
def StatusEntry.flag (entry : StatusEntry) : Agent → Bool
  | .claude => entry.live
  | .codex => entry.codexLive
  | .shell => entry.shellLive

/-! ## The sessions of all keys -/

/-- Where `_handle_exit` of a session stands. -/
inductive ExitWait where
  | none
  /-- It waits for the close frame. -/
  | waiting (wasLive : Bool)
  | finished
  deriving DecidableEq

/-- `SessionManager`, as far as the live flags depend on it. -/
structure Registry where
  sessions : SessionId → Lifecycle := fun _ => {}
  entries : SessionKey → Option SessionId := fun _ => none
  count : ℕ := 0
  exits : SessionId → ExitWait := fun _ => .none

namespace Registry

/-- `get_live`. -/
def getLive (m : Registry) (key : SessionKey) : Option SessionId :=
  match m.entries key with
  | none => none
  | some sid =>
    if (m.sessions sid).alive && !(m.sessions sid).terminating then some sid else none

/-- `get_live(key) is not None`. -/
def isLive (m : Registry) (key : SessionKey) : Bool := (m.getLive key).isSome

/-- A map entry is set or deleted. -/
def setEntry (m : Registry) (key : SessionKey) (entry : Option SessionId) : Registry :=
  { m with entries := Function.update m.entries key entry }

/-- The lifecycle of a session changes. -/
def setSession (m : Registry) (sid : SessionId) (l : Lifecycle) : Registry :=
  { m with sessions := Function.update m.sessions sid l }

/-- `_handle_exit` of a session moves on. -/
def setExit (m : Registry) (sid : SessionId) (exit : ExitWait) : Registry :=
  { m with exits := Function.update m.exits sid exit }

/-- The map entry is deleted if its session is not alive, as `get_live` does, and every operation
after its `terminate`. -/
def purge (m : Registry) (key : SessionKey) : Registry :=
  match m.entries key with
  | none => m
  | some sid => if (m.sessions sid).alive then m else m.setEntry key none

/-- `start_locked` spawns and registers a session. -/
def start (m : Registry) (key : SessionKey) (now : Time) (idleSeconds : ℕ) : Registry :=
  { m.setSession m.count (Lifecycle.spawn {} now idleSeconds) with count := m.count + 1 }.setEntry
    key (some m.count)

/-- `terminate` begins, unless the session is over. -/
def terminate (m : Registry) (sid : SessionId) : Registry :=
  if (m.sessions sid).alive then m.setSession sid (m.sessions sid).beginTerminate else m

/-- `terminate` ends. -/
def terminated (m : Registry) (sid : SessionId) : Registry :=
  m.setSession sid (m.sessions sid).endTerminate

/-- `_handle_exit`, which waits for the close frame if a connection is attached. -/
def exit (m : Registry) (sid : SessionId) (attached : Bool) : Registry :=
  if (m.sessions sid).alive then
    (m.setSession sid (m.sessions sid).exit).setExit sid
      (if attached then .waiting (!(m.sessions sid).terminating) else .finished)
  else m

/-- The natural exit of a live session is in progress: its notification is still to come. -/
def Exiting (m : Registry) : Prop := ∃ sid, m.exits sid = .waiting true

end Registry

/-! ## The hub -/

/-- Where `run` stands. -/
inductive RunPc where
  /-- Without subscribers, in `_dirty.wait()`. -/
  | idle
  /-- In `wait_for(_dirty.wait(), ...)`. -/
  | waiting
  /-- In `has_codex_history` of the current project. -/
  | asking (triggered : Bool) (done : List StatusEntry) (current : StatusEntry)
      (rest : List Project)
  /-- In `gather`, with the sends that have not returned. -/
  | broadcasting (payload : List StatusEntry) (pending : List Ws)
  deriving DecidableEq

/-- `ProjectStatusHub`, with the sessions. -/
structure Hub where
  registry : Registry := {}
  /-- `_dirty`. -/
  dirty : Bool := false
  /-- `_sockets`. -/
  sockets : List Ws := []
  run : RunPc := .idle
  lastPayload : Option (List StatusEntry) := none
  /-- History: the last payload sent to a subscriber. -/
  sentTo : Ws → Option (List StatusEntry) := fun _ => none

namespace Hub

/-- `changed`. -/
def changed (h : Hub) : Hub := { h with dirty := true }

/-- The sessions change, and `changed` is called or not. -/
def setRegistry (h : Hub) (m : Registry) (notify : Bool) : Hub :=
  { h with registry := m, dirty := h.dirty || notify }

/-- `add`. -/
def add (h : Hub) (ws : Ws) : Hub :=
  { h with sockets := if ws ∈ h.sockets then h.sockets else h.sockets ++ [ws] }.changed

/-- `discard`. -/
def discard (h : Hub) (ws : Ws) : Hub := { h with sockets := h.sockets.filter (· ≠ ws) }

/-- The head of `run`'s loop. -/
def loopTop (h : Hub) : Hub := { h with run := if h.sockets = [] then .idle else .waiting }

/-- `_broadcast`, and the next turn of the loop if there is nobody to send to. -/
def broadcast (h : Hub) (payload : List StatusEntry) : Hub :=
  if h.sockets = [] then { h with lastPayload := some payload }.loopTop
  else { h with run := .broadcasting payload h.sockets }

/-- A snapshot is complete: it is sent if `run` was woken or if it is new. -/
def deliver (h : Hub) (triggered : Bool) (payload : List StatusEntry) : Hub :=
  if triggered ∨ some payload ≠ h.lastPayload then h.broadcast payload
  else { h with lastPayload := some payload }.loopTop

/-- `get_live` for the three agents of a project. -/
def purgeProject (h : Hub) (project : Project) : Hub :=
  { h with
    registry := ((h.registry.purge ⟨project.name, .claude⟩).purge ⟨project.name, .codex⟩).purge
      ⟨project.name, .shell⟩ }

/-- The entry of a project, up to `codex_has_history`. `found` is what `latest_session_id` sees. -/
def readProject (h : Hub) (found : PyStr → Bool) (project : Project) : StatusEntry where
  project := project
  live := h.registry.isLive ⟨project.name, .claude⟩
  codexLive := h.registry.isLive ⟨project.name, .codex⟩
  shellLive := h.registry.isLive ⟨project.name, .shell⟩
  hasHistory := project.ssh.isSome || found project.path
  codexHasHistory := true

/-- `snapshot`, up to its next await or to its end. -/
def collect (found : PyStr → Bool) (triggered : Bool) :
    Hub → List StatusEntry → List Project → Hub
  | h, done, [] => h.deliver triggered done
  | h, done, project :: rest =>
    if project.ssh.isSome then
      collect found triggered (h.purgeProject project) (done ++ [h.readProject found project]) rest
    else
      { h.purgeProject project with
        run := .asking triggered done (h.readProject found project) rest }

/-- `run` goes on after its wait: without subscribers it waits again. -/
def proceed (projects : List Project) (h : Hub) (triggered : Bool) (found : PyStr → Bool) : Hub :=
  if h.sockets = [] then h.loopTop else collect found triggered h [] projects

/-- `_dirty.wait()` returns, and the event is cleared. -/
def wake (projects : List Project) (h : Hub) (found : PyStr → Bool) : Hub :=
  { h with dirty := false }.proceed projects true found

/-- `has_codex_history` answers. -/
def answer (h : Hub) (history : Bool) (found : PyStr → Bool) : Hub :=
  match h.run with
  | .asking triggered done current rest =>
    collect found triggered h (done ++ [{ current with codexHasHistory := history }]) rest
  | _ => h

/-- A send of the broadcast returns. -/
def sent (h : Hub) (ws : Ws) : Hub :=
  match h.run with
  | .broadcasting payload pending =>
    { h with
      run := .broadcasting payload (pending.filter (· ≠ ws))
      sentTo := Function.update h.sentTo ws (some payload) }
  | _ => h

/-- All sends of the broadcast have returned. -/
def gathered (h : Hub) : Hub :=
  match h.run with
  | .broadcasting payload _ => { h with lastPayload := some payload }.loopTop
  | _ => h

end Hub

/-- The steps of the sessions, of the subscribers and of `run`. -/
inductive HubEvent where
  | start (key : SessionKey) (now : Time) (idleSeconds : ℕ)
  | terminate (sid : SessionId)
  | terminated (sid : SessionId)
  /-- `get_live`, or the deletion of the entry after `terminate`. -/
  | purge (key : SessionKey)
  | exit (sid : SessionId) (attached : Bool)
  /-- The wait of `_handle_exit` is over. -/
  | exitReturns (sid : SessionId)
  | add (ws : Ws)
  | discard (ws : Ws)
  | wake (found : PyStr → Bool)
  /-- The wait of `run` times out. -/
  | timeOut (found : PyStr → Bool)
  | answer (history : Bool) (found : PyStr → Bool)
  | sent (ws : Ws)
  | gathered

namespace RunPc

/-- `run` waits for `_dirty`. -/
def Waits : RunPc → Prop
  | .idle | .waiting => True
  | _ => False

/-- `run` waits for the history of a project. -/
def Asks : RunPc → Prop
  | .asking _ _ _ _ => True
  | _ => False

/-- The sends that have not returned. -/
def pending : RunPc → Option (List Ws)
  | .broadcasting _ pending => some pending
  | _ => none

instance : (pc : RunPc) → Decidable pc.Waits
  | .idle | .waiting => inferInstanceAs (Decidable True)
  | .asking _ _ _ _ | .broadcasting _ _ => inferInstanceAs (Decidable False)

instance : (pc : RunPc) → Decidable pc.Asks
  | .asking _ _ _ _ => inferInstanceAs (Decidable True)
  | .idle | .waiting | .broadcasting _ _ => inferInstanceAs (Decidable False)

/-- While `run` waits or asks, it is not in a broadcast. -/
theorem pending_of_waits {pc : RunPc} (h : pc.Waits ∨ pc.Asks) : pc.pending = none := by
  cases pc with
  | broadcasting payload pending => exact (or_self_iff.mp h).elim
  | _ => rfl

end RunPc

namespace HubEvent

/-- When an event can happen. -/
def Enabled (h : Hub) : HubEvent → Prop
  | .terminated sid => (h.registry.sessions sid).terminating = true
  | .exitReturns sid =>
    h.registry.exits sid = .waiting true ∨ h.registry.exits sid = .waiting false
  | .wake _ => h.run.Waits ∧ h.dirty = true
  | .timeOut _ => h.run = .waiting
  | .answer _ _ => h.run.Asks
  | .sent ws => ws ∈ h.run.pending.getD []
  | .gathered => h.run.pending = some []
  | _ => True

instance (h : Hub) : (e : HubEvent) → Decidable (e.Enabled h)
  | .start _ _ _ | .terminate _ | .purge _ | .exit _ _ | .add _ | .discard _ =>
    inferInstanceAs (Decidable True)
  | .terminated _ | .timeOut _ | .gathered => inferInstanceAs (Decidable (_ = _))
  | .exitReturns _ => inferInstanceAs (Decidable (_ ∨ _))
  | .wake _ => inferInstanceAs (Decidable (_ ∧ _))
  | .answer _ _ => inferInstanceAs (Decidable (RunPc.Asks _))
  | .sent _ => inferInstanceAs (Decidable (_ ∈ _))

/-- The state after an event. -/
def apply (projects : List Project) (h : Hub) : HubEvent → Hub
  | .start key now idleSeconds => h.setRegistry (h.registry.start key now idleSeconds) true
  | .terminate sid =>
    -- Only the first `terminate` notifies.
    let l := h.registry.sessions sid
    h.setRegistry (h.registry.terminate sid) (l.alive && !l.terminating)
  | .terminated sid => h.setRegistry (h.registry.terminated sid) false
  | .purge key => h.setRegistry (h.registry.purge key) false
  | .exit sid attached =>
    let l := h.registry.sessions sid
    h.setRegistry (h.registry.exit sid attached) (l.alive && !l.terminating && !attached)
  | .exitReturns sid =>
    h.setRegistry (h.registry.setExit sid .finished)
      (decide (h.registry.exits sid = .waiting true))
  | .add ws => h.add ws
  | .discard ws => h.discard ws
  | .wake found => h.wake projects found
  | .timeOut found => h.proceed projects false found
  | .answer history found => h.answer history found
  | .sent ws => h.sent ws
  | .gathered => h.gathered

end HubEvent

/-- The transition system of the status channel for a list of projects. -/
def statusSystem (projects : List Project) : System Hub HubEvent where
  Enabled := HubEvent.Enabled
  apply := HubEvent.apply projects

instance (projects : List Project) (h : Hub) (e : HubEvent) :
    Decidable ((statusSystem projects).Enabled h e) :=
  inferInstanceAs (Decidable (e.Enabled h))

end WTerm
