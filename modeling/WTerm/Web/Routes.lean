import WTerm.Auth.Tokens
import WTerm.Manager.System
import WTerm.Status.Hub

/-!
# The routes

`terminal_ws`, `end_session`, `list_projects` and `project_status_ws`, each from its request up
to the first await behind its checks. The order of the checks is the one of the source: the
whitelist is consulted only for a caller who is authenticated.
-/

namespace WTerm

/-- What the routes use of FastAPI, `urllib` and `hashlib`. -/
structure Runtime (Key : Type) where
  /-- FastAPI's reading of a `bool` in a query. -/
  parseBool : PyStr → Option Bool
  /-- The checks of a netloc in `urlsplit`. -/
  acceptsNetloc : PyStr → Bool
  /-- `_token_key`. -/
  tokenKey : PyStr → Key

/-- The JSON body of a response. -/
inductive Body where
  /-- `ok` is false. -/
  | notOk
  /-- `error` is `"unauthorized"`. -/
  | unauthorized
  deriving DecidableEq

/-- What the caller gets. -/
inductive Reply where
  | accept
  | close (code : ℕ) (reason : String)
  | response (status : ℕ) (body : Body)
  /-- FastAPI refuses a value of the query, or its absence. -/
  | invalidQuery (field : String) (value : Option PyStr)
  /-- An exception leaves the route. -/
  | raised (e : PyException)
  deriving DecidableEq

/-- Where a route goes on. -/
inductive Continuation where
  | done
  /-- In the transition of a key. -/
  | transition (key : SessionKey)
  /-- In `manager.end`. -/
  | ending (key : SessionKey)
  /-- In `project_status.snapshot`. -/
  | snapshot
  /-- In the receive loop of a subscriber. -/
  | receiving (ws : Ws)
  deriving DecidableEq

variable {Key : Type} [DecidableEq Key]

/-- The state that the routes share. -/
structure Server (Key : Type) where
  now : Time := 0
  config : Config := {}
  auth : Auth Key := {}
  /-- `SessionManager`, by session key. -/
  keys : SessionKey → World := fun _ => {}
  /-- The `_sockets` of the status hub. -/
  subscribers : List Ws := []
  /-- What `latest_session_id` sees in the directory of a project. -/
  found : PyStr → Bool := fun _ => false

/-- The state after a route's step, what its caller got, and where it goes on. -/
structure Outcome (Key : Type) where
  server : Server Key
  replies : List Reply
  next : Continuation := .done

/-- The query of `terminal_ws`. -/
structure TerminalQuery where
  mode : PyStr
  agent : PyStr
  shell : Bool

/-- The query of `terminal_ws` with its defaults, unless `shell` is not a `bool`. -/
def terminalQuery (parseBool : PyStr → Option Bool) (conn : Conn) : Option TerminalQuery :=
  ((conn.query "shell").elim (some false) parseBool).map fun shell =>
    { mode := (conn.query "mode").getD Mode.attach.name
      agent := (conn.query "agent").getD Agent.claude.name
      shell := shell }

namespace Server

variable (rt : Runtime Key)

/-- `auth.is_authed(cookies)`. -/
def isAuthed (srv : Server Key) (conn : Conn) : Bool :=
  srv.auth.isAuthed rt.tokenKey srv.config.passwordHash conn srv.now

/-- The state after `auth.is_authed(cookies)`. -/
def checkAuthed (srv : Server Key) (conn : Conn) : Server Key :=
  { srv with auth := srv.auth.checkAuthed rt.tokenKey srv.config.passwordHash conn srv.now }

/-- The route returns. -/
def finish (srv : Server Key) (replies : List Reply) : Outcome Key := ⟨srv, replies, .done⟩

/-- How the sessions of a key are configured. -/
def settings (srv : Server Key) (project : Project) (agent : Agent) : Settings where
  graceSeconds := srv.config.graceSeconds
  idleSeconds := srv.config.idleSeconds
  agent := agent
  remote := project.ssh.isSome

/-- An event of the sessions of one key. -/
def onKey (srv : Server Key) (project : Project) (agent : Agent) (e : Event) : Server Key :=
  let key : SessionKey := ⟨project.name, agent⟩
  let w : World := { srv.keys key with now := srv.now }
  { srv with keys := Function.update srv.keys key (e.apply (srv.settings project agent) w) }

/-- `terminal_ws` for an authenticated caller and a project of the whitelist. -/
def openTerminal (srv : Server Key) (ws : Ws) (project : Project) (query : TerminalQuery) :
    Outcome Key :=
  match parseAgent (if query.shell then Agent.shell.name else query.agent) with
  | none => srv.finish [.accept, .close 4400 "지원하지 않는 에이전트"]
  | some agent =>
    match parseMode query.mode with
    | none => srv.finish [.accept, .close 4400 "지원하지 않는 모드"]
    | some mode =>
      { server := srv.onKey project agent (.connect ws mode (srv.found project.path))
        replies := [.accept]
        next := .transition ⟨project.name, agent⟩ }

/-- `terminal_ws`. -/
def terminalWs (srv : Server Key) (ws : Ws) (conn : Conn) (projectName : PyStr) : Outcome Key :=
  match terminalQuery rt.parseBool conn with
  | none => srv.finish [.invalidQuery "shell" (conn.query "shell")]
  | some query =>
    match originAllowed rt.acceptsNetloc srv.config conn with
    | .error e => srv.finish [.raised e]
    | .ok false => srv.finish [.close 4403 "허용되지 않은 오리진"]
    | .ok true =>
      if srv.isAuthed rt conn then
        match srv.config.findProject projectName with
        | none =>
          (srv.checkAuthed rt conn).finish [.accept, .close 4404 "화이트리스트에 없는 프로젝트"]
        | some project => (srv.checkAuthed rt conn).openTerminal ws project query
      else (srv.checkAuthed rt conn).finish [.accept, .close 4401 "인증 필요"]

/-- `end_session` for an authenticated caller. -/
def endProject (srv : Server Key) (request : ℕ) (conn : Conn) (name : PyStr) : Outcome Key :=
  match srv.config.findProject name with
  | none => srv.finish [.response 404 .notOk]
  | some project =>
    match parseAgent ((conn.query "agent").getD Agent.claude.name) with
    | none => srv.finish [.response 400 .notOk]
    | some agent =>
      { server := srv.onKey project agent (.requestEnd request)
        replies := []
        next := .ending ⟨project.name, agent⟩ }

/-- `end_session`. -/
def endSession (srv : Server Key) (request : ℕ) (conn : Conn) : Outcome Key :=
  match conn.query "project" with
  | none => srv.finish [.invalidQuery "project" none]
  | some name =>
    match originAllowed rt.acceptsNetloc srv.config conn with
    | .error e => srv.finish [.raised e]
    | .ok false => srv.finish [.response 403 .notOk]
    | .ok true =>
      if srv.isAuthed rt conn then (srv.checkAuthed rt conn).endProject request conn name
      else (srv.checkAuthed rt conn).finish [.response 401 .unauthorized]

/-- `list_projects`, which looks at no origin. -/
def listProjects (srv : Server Key) (conn : Conn) : Outcome Key :=
  if srv.isAuthed rt conn then
    { server := srv.checkAuthed rt conn, replies := [], next := .snapshot }
  else (srv.checkAuthed rt conn).finish [.response 401 .unauthorized]

/-- `register_socket` and `project_status.add`. -/
def subscribe (srv : Server Key) (ws : Ws) (conn : Conn) : Server Key :=
  { srv with
    auth := srv.auth.registerSocket rt.tokenKey srv.config.passwordHash conn ws
    subscribers := srv.subscribers ++ [ws] }

/-- `project_status_ws`. -/
def projectStatusWs (srv : Server Key) (ws : Ws) (conn : Conn) : Outcome Key :=
  match originAllowed rt.acceptsNetloc srv.config conn with
  | .error e => srv.finish [.raised e]
  | .ok false => srv.finish [.close 4403 "허용되지 않은 오리진"]
  | .ok true =>
    if srv.isAuthed rt conn then
      { server := (srv.checkAuthed rt conn).subscribe rt ws conn
        replies := [.accept]
        next := .receiving ws }
    else (srv.checkAuthed rt conn).finish [.accept, .close 4401 "인증 필요"]

end Server

/-- A request or a handshake. -/
inductive Call where
  | terminalWs (ws : Ws) (projectName : PyStr)
  | endSession (request : ℕ)
  | listProjects
  | projectStatusWs (ws : Ws)
  deriving DecidableEq

/-- Whether the route looks at the origin. -/
def Call.ChecksOrigin : Call → Prop
  | .listProjects => False
  | _ => True

namespace Server

variable (rt : Runtime Key)

/-- A route takes its first step. -/
def handle (srv : Server Key) (conn : Conn) : Call → Outcome Key
  | .terminalWs ws projectName => srv.terminalWs rt ws conn projectName
  | .endSession request => srv.endSession rt request conn
  | .listProjects => srv.listProjects rt conn
  | .projectStatusWs ws => srv.projectStatusWs rt ws conn

/-- The caller passes the origin check, where the route makes one, and the auth check. -/
def Passes (srv : Server Key) (conn : Conn) (call : Call) : Prop :=
  (call.ChecksOrigin → originAllowed rt.acceptsNetloc srv.config conn = .ok true) ∧
    srv.isAuthed rt conn = true

end Server

end WTerm
