import Mathlib.Tactic.Simps.Basic
import WTerm.Session.Protocol

/-!
# The sessions of one key

`SessionManager`, the `terminal_ws` handshakes and the tasks of the sessions, for one session
key. Code between two awaits is one function here; where a task waits is its program counter.
The transition lock of the key is `holder` with the program counter of the task inside it, and
`waiters` in the order in which they will get it.
-/

namespace WTerm

/-- A session of the key, numbered in the order of creation. -/
abbrev SessionId := ℕ

/-- The agent part of the session key. -/
inductive Agent where
  | claude
  | codex
  | shell
  deriving DecidableEq

/-- The `mode` of a `terminal_ws` request. -/
inductive Mode where
  | attach
  | new
  | resume
  /-- `continue`, which the automatic reconnect uses. -/
  | continue_
  deriving DecidableEq

/-- The text of an agent. -/
def Agent.name : Agent → PyStr
  | .claude => py ['c', 'l', 'a', 'u', 'd', 'e']
  | .codex => py ['c', 'o', 'd', 'e', 'x']
  | .shell => py ['s', 'h', 'e', 'l', 'l']

/-- The text of a mode. -/
def Mode.name : Mode → PyStr
  | .attach => py ['a', 't', 't', 'a', 'c', 'h']
  | .new => py ['n', 'e', 'w']
  | .resume => py ['r', 'e', 's', 'u', 'm', 'e']
  | .continue_ => py ['c', 'o', 'n', 't', 'i', 'n', 'u', 'e']

/-- The member of `AGENTS` with a text. -/
def parseAgent (text : PyStr) : Option Agent :=
  [Agent.claude, .codex, .shell].find? fun agent => agent.name = text

/-- The member of `WS_MODES` with a text. -/
def parseMode (text : PyStr) : Option Mode :=
  [Mode.attach, .new, .resume, .continue_].find? fun mode => mode.name = text

/-- `HistoryState`: the answer of a history check. -/
inductive HistoryState where
  | present
  | absent
  | error
  deriving DecidableEq

/-- What the key's sessions are configured with. -/
structure Settings where
  graceSeconds : ℕ
  idleSeconds : ℕ
  agent : Agent
  /-- `project.ssh is not None`. -/
  remote : Bool

/-- `grace_seconds` on the clock. -/
def Settings.grace (cfg : Settings) : Time := cfg.graceSeconds * second

/-- `idle_seconds` on the clock. -/
def Settings.idle (cfg : Settings) : Time := cfg.idleSeconds * second

/-- The tasks that ask for the transition lock. -/
inductive Waiter where
  | route (ws : Ws) (mode : Mode)
  | endRequest (request : ℕ)
  | grace (sid : SessionId) (k : ℕ)
  | idle (sid : SessionId)
  deriving DecidableEq

/-- Who terminates a session. -/
inductive Owner where
  /-- `start_locked`, for a handshake. -/
  | route (ws : Ws) (mode : Mode) (message : String)
  | endRequest (request : ℕ)
  | grace (k : ℕ)
  | idle
  deriving DecidableEq

/-- The waits of `attach` before the connection is installed. -/
inductive AttachPc where
  | begin
  /-- In `_stop_outbound_writer(old)`. -/
  | stopping (old task : Ws)
  /-- In `old.close`. -/
  | closing (old : Ws)
  deriving DecidableEq

/-- The waits of a failed history check's handshake. -/
inductive ProbePc where
  /-- In `remote_has_history` or `has_codex_history`. -/
  | asking
  /-- In `ws.send_text`. -/
  | telling
  /-- In `ws.close`. -/
  | closing
  deriving DecidableEq

/-- The waits before `terminate`. -/
inductive EndingPc where
  | begin
  /-- `start_locked`, in `_stop_outbound_writer`. -/
  | stopping (old task : Ws)
  /-- `start_locked`, in `ws.close`. -/
  | closing (old : Ws)
  /-- `_notify_and_terminate`, in `_wait_outbound_close`. -/
  | wait (wait : WaitClose)
  deriving DecidableEq

/-- The signals of `terminate`, in their order. -/
inductive Stage where
  | hup
  | term
  | kill
  deriving DecidableEq

/-- `SIGTERM_WAIT`, in seconds. -/
def sigtermWait : ℕ := 10

/-- `SIGHUP_WAIT`, in seconds. -/
def sighupWait : ℕ := 2

/-- How often `_wait_reaped(seconds)` looks for the child. -/
def reapChecks (seconds : ℕ) : ℕ := seconds * 10

/-- How often `terminate` looks for the child after a signal. -/
def Stage.checks : Stage → ℕ
  | .hup => reapChecks sighupWait
  | .term => reapChecks (sigtermWait - sighupWait)
  | .kill => reapChecks 1

/-- Where the holder of the transition lock stands. -/
inductive Critical where
  /-- It has just got the lock. -/
  | entered (task : Waiter)
  /-- In `attach`, the connection not installed yet. -/
  | attaching (ws : Ws) (sid : SessionId) (message : String) (pc : AttachPc)
  /-- In `attach`, waiting for the replay. -/
  | replaying (ws : Ws) (sid : SessionId) (message : String) (future : ℕ)
  /-- In `attach`, cancelled during the replay, awaiting its own writer task. -/
  | aborting (ws : Ws) (sid : SessionId) (task : Ws)
  | probing (ws : Ws) (mode : Mode) (pc : ProbePc)
  | ending (owner : Owner) (sid : SessionId) (pc : EndingPc)
  /-- In `_wait_reaped` of `terminate`, with the iterations left. -/
  | polling (owner : Owner) (sid : SessionId) (stage : Stage) (left : ℕ)
  /-- `terminate` has returned. -/
  | ended (owner : Owner) (sid : SessionId)
  deriving DecidableEq

/-- Where the task of a connection stands. -/
inductive Route where
  | absent
  /-- Waiting for the transition lock. -/
  | waiting
  /-- Inside the transition lock. -/
  | inside
  /-- In the receive loop, a `receive_text` pending. -/
  | looping (sid : SessionId)
  /-- In `detach`, awaiting the given writer task. -/
  | detaching (sid : SessionId) (task : Option Ws)
  | finished
  deriving DecidableEq

/-- A signal that `terminate` sent to a session's process group. -/
structure Signal where
  sid : SessionId
  owner : Owner
  stage : Stage

/-- The state of one session key. -/
structure World where
  now : Time := 0
  holder : Option Critical := none
  waiters : List Waiter := []
  /-- `manager.sessions.get(key)`. -/
  entry : Option SessionId := none
  /-- How many sessions were created. -/
  count : ℕ := 0
  sessions : SessionId → Session := fun _ => .blank
  routes : Ws → Route := fun _ => .absent
  /-- The code of the first `ws.close` call, from which on `receive_text` raises. -/
  closeCall : Ws → Option ℕ := fun _ => none
  /-- The `close_attached` calls that wait for the session's writer. -/
  closers : ℕ → Option (SessionId × WaitClose) := fun _ => none
  /-- History: the signals sent. -/
  signals : List Signal := []
  /-- History: the connections from which another operation took their session. -/
  taken : Ws → Bool := fun _ => false
  /-- `ProjectStatusHub._dirty`, which `changed` sets. -/
  dirty : Bool := false

/-- The status message of a reattach. -/
def reattachMessage : String := "실행 중인 세션에 재접속했습니다."

/-- The status message of a started session. -/
def startMessage (cfg : Settings) (mode : Mode) (hasHistory : Bool) : String :=
  if cfg.agent = .shell then "셸 세션을 시작합니다."
  else match mode, hasHistory with
    | .resume, true => "이어할 세션을 목록에서 선택하세요."
    | .continue_, true => "가장 최근 세션을 이어합니다."
    | .resume, false => "이어할 세션 기록이 없어 새 세션을 시작합니다."
    | .continue_, false => "이어할 세션 기록이 없어 새 세션을 시작합니다."
    | _, _ => "새 세션을 시작합니다."

/-- The status message of an ended session. -/
def endMessage : String := "사용자 요청으로 세션을 종료했습니다."

/-- The status message of an idle expiry. -/
def idleMessage (cfg : Settings) : String :=
  (if 60 ≤ cfg.idleSeconds then toString (cfg.idleSeconds / 60) ++ "분"
    else toString cfg.idleSeconds ++ "초") ++ " 동안 아무 움직임이 없어 세션을 종료했습니다."

namespace World

/-- Change one session. -/
@[simps]
def on (w : World) (sid : SessionId) (f : Session → Session) : World :=
  { w with sessions := Function.update w.sessions sid (f (w.sessions sid)) }

/-- The task of a connection moves on. -/
@[simps]
def setRoute (w : World) (ws : Ws) (route : Route) : World :=
  { w with routes := Function.update w.routes ws route }

/-- The holder of the lock moves on. -/
@[simps]
def hold (w : World) (c : Critical) : World := { w with holder := some c }

/-- The transition lock is released. -/
@[simps]
def release (w : World) : World := { w with holder := none }

/-- A task asks for the transition lock. -/
@[simps]
def enqueue (w : World) (task : Waiter) : World := { w with waiters := w.waiters ++ [task] }

/-- `ws.close(code)`: the first call counts. -/
def callClose (w : World) (ws : Ws) (code : ℕ) : World :=
  if (w.closeCall ws).isSome then w
  else { w with closeCall := Function.update w.closeCall ws (some code) }

/-- `_notify_state_changed`. -/
@[simps]
def notify (w : World) : World := { w with dirty := true }

/-- History: another operation takes the session from the connection attached to it. -/
@[simps]
def takeFrom (w : World) (sid : SessionId) : World :=
  { w with taken := fun ws => w.taken ws || decide ((w.sessions sid).websocket = some ws) }

/-- `websocket = None` in an operation that takes the session from its connection. -/
def takeSocket (w : World) (sid : SessionId) : World :=
  (w.takeFrom sid).on sid (·.clearWebsocket w.now)

/-- The map entry is deleted. -/
@[simps]
def dropEntry (w : World) : World := { w with entry := none }

/-- `terminate` sends a signal. -/
@[simps]
def signal (w : World) (owner : Owner) (sid : SessionId) (stage : Stage) : World :=
  { w with signals := w.signals ++ [⟨sid, owner, stage⟩] }

/-- What `get_live` does to the map: an entry that is no longer alive is deleted. -/
def purge (w : World) : World :=
  match w.entry with
  | none => w
  | some sid => if (w.sessions sid).alive then w else w.dropEntry

/-- What `get_live` returns. -/
def live (w : World) : Option SessionId :=
  match w.entry with
  | none => none
  | some sid =>
    if (w.sessions sid).alive && !(w.sessions sid).terminating then some sid else none

/-- The rest of `detach`: a live session gets a grace countdown. -/
def finishDetach (cfg : Settings) (w : World) (ws : Ws) (sid : SessionId) : World :=
  (if (w.sessions sid).alive then
    w.on sid (·.armGrace (w.now + cfg.grace))
  else w).setRoute ws .finished

/-- `detach`, which does nothing for a connection that was replaced. -/
def detach (cfg : Settings) (w : World) (ws : Ws) (sid : SessionId) : World :=
  if (w.sessions sid).websocket = some ws then
    let task := (w.sessions sid).stopAwaits ws
    let w := ((w.setRoute ws (.detaching sid task)).on sid (·.clearWebsocket w.now)).on sid
      (·.stopOutboundWriter ws)
    if task.isSome then w else w.finishDetach cfg ws sid
  else w.setRoute ws .finished

/-- The receive loop calls `receive_text`, which raises after a `ws.close` call. -/
def receiveNext (cfg : Settings) (w : World) (ws : Ws) (sid : SessionId) : World :=
  if (w.closeCall ws).isSome then w.detach cfg ws sid else w

/-- The handshake leaves the lock and enters the receive loop. -/
def enterLoop (w : World) (ws : Ws) (sid : SessionId) : World :=
  { w with holder := none, routes := Function.update w.routes ws (.looping sid) }

/-- `attach` returns to the route. -/
def attachReturned (cfg : Settings) (w : World) (ws : Ws) (sid : SessionId)
    (message : String) : World :=
  ((w.on sid (·.sendStatus message)).enterLoop ws sid).receiveNext cfg ws sid

/-- The session gets its new connection, and the holder waits for the replay. -/
def installed (w : World) (ws : Ws) (sid : SessionId) (message : String) : World :=
  (w.on sid (·.install ws)).hold (.replaying ws sid message (w.sessions sid).nextFuture)

/-- `attach` from the installation on; without a replay there is nothing to wait for. -/
def installSocket (cfg : Settings) (w : World) (ws : Ws) (sid : SessionId)
    (message : String) : World :=
  let w' := w.installed ws sid message
  if (w.sessions sid).buffer = [] then w'.attachReturned cfg ws sid message else w'

/-- `attach` calls `old.close`. -/
def closeOld (w : World) (ws : Ws) (sid : SessionId) (message : String) (old : Ws) : World :=
  (w.callClose old displacedCloseCode).hold (.attaching ws sid message (.closing old))

/-- `attach` for the connection that it took the session from, up to its first wait. -/
def displaceOld (w : World) (ws : Ws) (sid : SessionId) (message : String) (old : Ws) : World :=
  let task := (w.sessions sid).stopAwaits old
  let w := w.on sid (·.stopOutboundWriter old)
  match task with
  | some task => w.hold (.attaching ws sid message (.stopping old task))
  | none => w.closeOld ws sid message old

/-- `attach`, up to its first wait. -/
def attach (cfg : Settings) (w : World) (ws : Ws) (sid : SessionId) (message : String) :
    World :=
  let w := ((w.hold (.attaching ws sid message .begin)).on sid (·.cancelGrace)).on sid
    (·.touch w.now)
  match (w.sessions sid).websocket with
  | none => w.installSocket cfg ws sid message
  | some old => (w.takeSocket sid).displaceOld ws sid message old

/-- `start_locked` creates, spawns and registers a session, and the route goes on to attach
to it. -/
def spawnSession (cfg : Settings) (w : World) (ws : Ws) (message : String) : World :=
  { w with
    sessions := Function.update w.sessions w.count
      (Session.blank.spawn w.now cfg.idleSeconds)
    entry := some w.count
    count := w.count + 1
    holder := some (.attaching ws w.count message .begin)
    dirty := true }

/-- `start_locked` from the creation of the session on, and the `attach` that follows it. -/
def startFresh (cfg : Settings) (w : World) (ws : Ws) (message : String) : World :=
  (w.spawnSession cfg ws message).attach cfg ws w.count message

/-- After `terminate`: the entry is deleted if it still is this session. -/
def dropOwn (w : World) (sid : SessionId) : World :=
  if w.entry = some sid then w.dropEntry else w

/-- `terminate` has returned to the operation that called it. -/
def finishEnding (cfg : Settings) (w : World) (owner : Owner) (sid : SessionId) : World :=
  match owner with
  | .route ws _ message => (w.dropOwn sid).startFresh cfg ws message
  | _ => (w.dropOwn sid).release

/-- The last statements of `terminate`. -/
def endTerminate (w : World) (owner : Owner) (sid : SessionId) : World :=
  (w.on sid Session.endTerminate).hold (.ended owner sid)

/-- One iteration of `_wait_reaped`. -/
def checkReaped (cfg : Settings) (w : World) (owner : Owner) (sid : SessionId) (stage : Stage)
    (left : ℕ) : World :=
  if (w.sessions sid).reapedNow then
    ((w.on sid Session.reapNoHang).endTerminate owner sid).finishEnding cfg owner sid
  else w.hold (.polling owner sid stage (left - 1))

/-- `_wait_reaped` ran out: the next signal, and the first iteration of the next wait. -/
def nextStage (cfg : Settings) (w : World) (owner : Owner) (sid : SessionId) : Stage → World
  | .hup => (w.signal owner sid .term).checkReaped cfg owner sid .term Stage.term.checks
  | .term => (w.signal owner sid .kill).checkReaped cfg owner sid .kill Stage.kill.checks
  | .kill => (w.endTerminate owner sid).finishEnding cfg owner sid

/-- The sleep of `_wait_reaped` is over. -/
def poll (cfg : Settings) (w : World) (owner : Owner) (sid : SessionId) (stage : Stage)
    (left : ℕ) : World :=
  if left = 0 then w.nextStage cfg owner sid stage else w.checkReaped cfg owner sid stage left

/-- `terminate` marks the session. -/
def beginTerminate (w : World) (owner : Owner) (sid : SessionId) : World :=
  (w.on sid Session.beginTerminate).hold (.polling owner sid .hup Stage.hup.checks)

/-- `terminate`, up to its first wait. -/
def terminate (cfg : Settings) (w : World) (owner : Owner) (sid : SessionId) : World :=
  if (w.sessions sid).alive then
    let w := if (w.sessions sid).terminating then w else w.notify
    ((w.beginTerminate owner sid).signal owner sid .hup).checkReaped cfg owner sid .hup
      Stage.hup.checks
  else (w.hold (.ended owner sid)).finishEnding cfg owner sid

/-- `_notify_and_terminate` for the connection that it took the session from, up to its first
wait. -/
def notifySocket (cfg : Settings) (w : World) (owner : Owner) (sid : SessionId) (ws : Option Ws)
    (message : String) (code : ℕ) (reason : String) : World :=
  match ws with
  | none => w.terminate cfg owner sid
  | some ws =>
    let w := w.on sid (·.sendStatus message)
    match (w.sessions sid).queuedCloseFuture with
    | none => w.terminate cfg owner sid
    | some f =>
      (w.on sid (·.queuedClose code reason)).hold
        (.ending owner sid (.wait (.future ws code f (w.now + outboundCloseTimeout))))

/-- `_notify_and_terminate`, up to its first wait. -/
def notifyAndTerminate (cfg : Settings) (w : World) (owner : Owner) (sid : SessionId)
    (message : String) (code : ℕ) (reason : String) : World :=
  (w.takeSocket sid).notifySocket cfg owner sid (w.sessions sid).websocket message code reason

/-- `start_locked` calls `ws.close` on the connection of the replaced session. -/
def closeReplaced (w : World) (owner : Owner) (sid : SessionId) (old : Ws) : World :=
  (w.callClose old displacedCloseCode).hold (.ending owner sid (.closing old))

/-- `start_locked` for the connection that it took the session from, up to its first wait. -/
def displaceSocket (cfg : Settings) (w : World) (owner : Owner) (sid : SessionId)
    (ws : Option Ws) : World :=
  match ws with
  | none => w.terminate cfg owner sid
  | some old =>
    let task := (w.sessions sid).stopAwaits old
    let w := w.on sid (·.stopOutboundWriter old)
    match task with
    | some task => w.hold (.ending owner sid (.stopping old task))
    | none => w.closeReplaced owner sid old

/-- `start_locked` terminates the session it replaces, up to the first wait. -/
def replace (cfg : Settings) (w : World) (owner : Owner) (sid : SessionId) : World :=
  let w := (w.hold (.ending owner sid .begin)).on sid (·.cancelGrace)
  (w.takeSocket sid).displaceSocket cfg owner sid (w.sessions sid).websocket

/-- `start_locked`, followed by `attach`. -/
def startLocked (cfg : Settings) (w : World) (ws : Ws) (mode : Mode) (message : String) :
    World :=
  let w := w.purge
  match w.live with
  | none => w.startFresh cfg ws message
  | some sid => w.replace cfg (.route ws mode message) sid

/-- `terminal_ws` inside the lock when there is nothing to attach to. `found` is what
`latest_session_id` sees. -/
def startRoute (cfg : Settings) (w : World) (ws : Ws) (mode : Mode) (found : Bool) : World :=
  if cfg.agent = .shell ∨ (mode ≠ .resume ∧ mode ≠ .continue_) then
    w.startLocked cfg ws mode (startMessage cfg mode false)
  else if cfg.remote ∨ cfg.agent = .codex then w.hold (.probing ws mode .asking)
  else w.startLocked cfg ws mode (startMessage cfg mode found)

/-- `terminal_ws` has got the lock. -/
def enterRoute (cfg : Settings) (w : World) (ws : Ws) (mode : Mode) (found : Bool) : World :=
  let w := w.purge
  match w.live with
  | none => w.startRoute cfg ws mode found
  | some sid =>
    if mode = .new then w.startRoute cfg ws mode found
    else w.attach cfg ws sid reattachMessage

/-- `SessionManager.end` has got the lock. -/
def enterEnd (cfg : Settings) (w : World) (request : ℕ) : World :=
  let w := w.purge
  match w.live with
  | none => w.release
  | some sid =>
    ((w.hold (.ending (.endRequest request) sid .begin)).on sid
      (·.cancelGrace)).notifyAndTerminate cfg (.endRequest request) sid endMessage
        endedCloseCode "사용자가 종료함"

/-- `SessionManager._expire_grace` has got the lock. -/
def enterGrace (cfg : Settings) (w : World) (sid : SessionId) (k : ℕ) : World :=
  if w.entry = some sid ∧ (w.sessions sid).websocket = none ∧ (w.sessions sid).alive then
    (w.hold (.ending (.grace k) sid .begin)).terminate cfg (.grace k) sid
  else w.release

/-- `SessionManager._expire_idle` has got the lock. -/
def enterIdle (cfg : Settings) (w : World) (sid : SessionId) : World :=
  if w.entry = some sid ∧ (w.sessions sid).alive then
    (w.hold (.ending .idle sid .begin)).notifyAndTerminate cfg .idle sid (idleMessage cfg)
      idleCloseCode "유휴 상태로 종료됨"
  else w.release

/-- A task has got the lock. -/
def enter (cfg : Settings) (w : World) (task : Waiter) (found : Bool) : World :=
  match task with
  | .route ws mode => w.enterRoute cfg ws mode found
  | .endRequest request => w.enterEnd cfg request
  | .grace sid k => w.enterGrace cfg sid k
  | .idle sid => w.enterIdle cfg sid

/-- The route of a handshake that gets the lock; the other tasks have none. -/
def enterInside (w : World) : Waiter → World
  | .route ws _ => w.setRoute ws .inside
  | _ => w

/-- The first waiter becomes the holder. -/
def grant (w : World) (task : Waiter) (rest : List Waiter) : World :=
  { w with waiters := rest, holder := some (.entered task) }.enterInside task

/-- The first waiter takes the lock and goes on to its next wait. -/
def acquire (cfg : Settings) (w : World) (found : Bool) : World :=
  match w.waiters with
  | [] => w
  | task :: rest => (w.grant task rest).enter cfg task found

/-- The lock is free and nobody waits for it. -/
def Free (w : World) : Prop := w.holder = none ∧ w.waiters = []

instance (w : World) : Decidable w.Free := inferInstanceAs (Decidable (_ ∧ _))

/-- `async with transition(key)`: a free lock that nobody waits for is taken at once. -/
def request (cfg : Settings) (w : World) (task : Waiter) (found : Bool) : World :=
  if w.Free then (w.enqueue task).acquire cfg found
  else w.enqueue task

end World

end WTerm
