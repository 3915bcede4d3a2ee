import WTerm.Auth.Tokens
import WTerm.Lib.Transition

/-!
# Logout and the sockets of a token

A socket is accepted with a token once, at its handshake, and `logout` closes the sockets that
are registered under its token then. In `project_status_ws` nothing comes between the check and
the registration. In `terminal_ws` the whole transition does: the lock, a history check, the end
of another session and the replay.
-/

namespace WTerm

open Transition

variable {Key : Type} [DecidableEq Key]

/-- What the authentication is configured with. `tokenKey` is `_token_key`. -/
structure AuthSettings (Key : Type) where
  tokenKey : PyStr → Key
  passwordHash : Option PyStr

/-- The two WebSocket routes. -/
inductive SocketKind where
  /-- `terminal_ws`. -/
  | terminal
  /-- `project_status_ws`. -/
  | status
  deriving DecidableEq

/-- What `terminal_ws` waits for between the check and the registration. -/
inductive Await where
  /-- `manager.transition`. -/
  | lock
  /-- `remote_has_history` or `has_codex_history`. -/
  | probe
  /-- `start_locked`, while it ends another session. -/
  | replace
  /-- `attach`. -/
  | attach
  deriving DecidableEq

/-- What can come after an await. -/
def Await.next : Await → List Await
  | .lock => [.probe, .replace, .attach]
  | .probe => [.replace, .attach]
  | .replace => [.attach]
  | .attach => [.attach]

/-- Where the task of a socket stands. -/
inductive SocketPc where
  /-- In `ws.accept`. -/
  | accepting
  | transition (await : Await)
  /-- In the receive loop. -/
  | serving
  | finished
  deriving DecidableEq

/-- A socket. -/
structure Socket (Key : Type) where
  kind : SocketKind
  conn : Conn
  pc : SocketPc := .accepting
  /-- The code of the first close that went out. -/
  closed : Option ℕ := none
  /-- History: the token it was accepted with. -/
  key : Option Key := none
  /-- History: a close with code 4401 was issued while it was open, as a call or as a frame for
  its writer. -/
  revoked : Bool := false

/-- Where the watchdog of a socket stands. -/
inductive Watchdog (Key : Type) where
  | off
  /-- In `wait_for`. `notified` says that `_tokens_changed` was set meanwhile. -/
  | waiting (key : Key) (notified : Bool) (deadline : Time)
  /-- In `_close_unauthed`. -/
  | closing (key : Key)
  | done

/-- `_tokens_changed.set` reaches those who wait for it. -/
def Watchdog.notify : Watchdog Key → Watchdog Key
  | .waiting key _ deadline => .waiting key true deadline
  | watchdog => watchdog

/-- Where a logout stands. -/
inductive LogoutPc (Key : Type) where
  /-- It waits for a close, and the sockets of the list come after it. -/
  | closing (key : Key) (rest : List Ws)
  /-- Answered. Without a token, or from another origin, there was nothing to revoke. -/
  | returned (key : Option Key)

/-- `AuthManager` with the sockets and the logouts. -/
structure AuthState (Key : Type) where
  now : Time := 0
  auth : Auth Key := {}
  sockets : Ws → Option (Socket Key) := fun _ => none
  watchdogs : Ws → Watchdog Key := fun _ => .off
  logouts : ℕ → Option (LogoutPc Key) := fun _ => none
  /-- History: the tokens that were issued, or named in a logout. -/
  named : List Key := []
  /-- History: the tokens whose sockets a logout has collected. -/
  loggedOut : List Key := []

namespace AuthState

/-- The task of a socket moves on. -/
def onSocket (st : AuthState Key) (ws : Ws) (f : Socket Key → Socket Key) : AuthState Key :=
  { st with sockets := Function.update st.sockets ws ((st.sockets ws).map f) }

/-- The token store changes, and the watchdogs hear of it. -/
def setAuth (st : AuthState Key) (auth : Auth Key) : AuthState Key :=
  { st with
    auth := auth
    watchdogs := fun ws =>
      if auth.tokensChanged then (st.watchdogs ws).notify else st.watchdogs ws }

/-- A watchdog moves on. -/
def setWatchdog (st : AuthState Key) (ws : Ws) (watchdog : Watchdog Key) : AuthState Key :=
  { st with watchdogs := Function.update st.watchdogs ws watchdog }

/-- A logout moves on. -/
def setLogout (st : AuthState Key) (call : ℕ) (pc : LogoutPc Key) : AuthState Key :=
  { st with logouts := Function.update st.logouts call (some pc) }

/-- `_close_unauthed`. A socket that is closed already refuses another close. -/
def closeUnauthed (st : AuthState Key) (ws : Ws) : AuthState Key :=
  st.onSocket ws fun s => if s.closed = none then { s with revoked := true } else s

/-- `_revoke_token_sockets` goes on with the sockets that are left. -/
def revokeNext (st : AuthState Key) (call : ℕ) (key : Key) : List Ws → AuthState Key
  | [] => st.setLogout call (.returned (some key))
  | ws :: rest => (st.closeUnauthed ws).setLogout call (.closing key rest)

/-- `logout`, up to its first await. -/
def logout (cfg : AuthSettings Key) (st : AuthState Key) (call : ℕ) (conn : Conn)
    (allowed : Bool) : AuthState Key :=
  if allowed then
    match conn.cookies authCookie with
    | none | some [] => st.setLogout call (.returned none)
    | some token =>
      let key := cfg.tokenKey token
      { st with
        auth := st.auth.revokeToken key
        named := key :: st.named
        loggedOut := key :: st.loggedOut }.revokeNext call key (st.auth.tokenSockets key)
  else st.setLogout call (.returned none)

/-- The close of a logout returns. -/
def logoutResumes (st : AuthState Key) (call : ℕ) : AuthState Key :=
  match st.logouts call with
  | some (.closing key rest) => st.revokeNext call key rest
  | _ => st

/-- The key of the token that `is_authed` accepts a socket with. -/
def acceptedKey (cfg : AuthSettings Key) (s : Socket Key) : Option Key :=
  if cfg.passwordHash.isNone then none else Auth.requestKey cfg.tokenKey s.conn

/-- `register_socket`, and the receive loop begins. -/
def enter (cfg : AuthSettings Key) (st : AuthState Key) (ws : Ws) (s : Socket Key) :
    AuthState Key :=
  let auth := st.auth.registerSocket cfg.tokenKey cfg.passwordHash s.conn ws
  ({ st with auth := auth }.setWatchdog ws
    (match auth.wsTokens.get ws with
      | some key => .waiting key auth.tokensChanged (st.now + authRecheckInterval)
      | none => .off)).onSocket ws fun s => { s with pc := .serving }

/-- `ws.accept` returns: `is_authed` and the checks up to the next await. `refused` is the code of
`terminal_ws` for a project, an agent or a mode that it does not know. -/
def check (cfg : AuthSettings Key) (st : AuthState Key) (ws : Ws) (refused : Option ℕ)
    (s : Socket Key) : AuthState Key :=
  let authed := st.auth.isAuthed cfg.tokenKey cfg.passwordHash s.conn st.now
  let st := st.setAuth (st.auth.checkAuthed cfg.tokenKey cfg.passwordHash s.conn st.now)
  if authed then
    let st := st.onSocket ws fun s => { s with key := acceptedKey cfg s }
    match s.kind, refused with
    | .status, _ => st.enter cfg ws s
    | .terminal, none => st.onSocket ws fun s => { s with pc := .transition .lock }
    | .terminal, some code =>
      st.onSocket ws fun s => { s with pc := .finished, closed := s.closed.or (some code) }
  else
    st.onSocket ws fun s =>
      { s with pc := .finished, closed := s.closed.or (some unauthorizedCloseCode) }

/-- The receive loop ends: `unregister_socket`. -/
def leave (st : AuthState Key) (ws : Ws) : AuthState Key :=
  ({ st with auth := st.auth.unregisterSocket ws }.setWatchdog ws .off).onSocket ws fun s =>
    { s with pc := .finished }

/-- The wait of a watchdog ends, by the event or by its timeout. -/
def watchdogWakes (st : AuthState Key) (ws : Ws) : AuthState Key :=
  match st.watchdogs ws with
  | .waiting key notified _ =>
    let auth := if notified then { st.auth with tokensChanged := false } else st.auth
    let st := st.setAuth (auth.checkKey key st.now)
    if auth.keyValid key st.now then
      st.setWatchdog ws (.waiting key st.auth.tokensChanged (st.now + authRecheckInterval))
    else (st.closeUnauthed ws).setWatchdog ws (.closing key)
  | _ => st

end AuthState

/-- The steps of the authentication and of the socket tasks. -/
inductive AuthEvent where
  | tick (elapsed : Time)
  /-- A login succeeds, with a new token. -/
  | login (token : PyStr)
  /-- Another route calls `is_authed`. -/
  | request (conn : Conn)
  | logout (call : ℕ) (conn : Conn) (allowed : Bool)
  | logoutResumes (call : ℕ)
  /-- A handshake with an allowed origin gets to `ws.accept`. -/
  | connect (ws : Ws) (kind : SocketKind) (conn : Conn)
  | check (ws : Ws) (refused : Option ℕ)
  /-- The transition goes on to another await. -/
  | advance (ws : Ws) (await : Await)
  /-- The transition ends with an attached session. -/
  | enter (ws : Ws)
  /-- The transition ends without one, with a close or an exception. -/
  | fail (ws : Ws) (code : Option ℕ)
  /-- The receive loop ends. -/
  | leave (ws : Ws)
  /-- A close goes out: the one of `_close_unauthed`, or one of the session. -/
  | close (ws : Ws) (code : ℕ)
  | watchdogWakes (ws : Ws)
  | watchdogReturns (ws : Ws)

namespace AuthEvent

/-- The socket that an event is about stands at one of the given places. -/
def standsAt (st : AuthState Key) (ws : Ws) (places : SocketPc → Bool) : Bool :=
  (st.sockets ws).any fun s => places s.pc

/-- In the transition, at an await from which the given one can be reached. -/
def leadsTo (next : Await) : SocketPc → Bool
  | .transition await => next ∈ await.next
  | _ => false

/-- In the transition. -/
def inTransition : SocketPc → Bool
  | .transition _ => true
  | _ => false

/-- A close can go out on an open socket: 4401 if it was issued, another code from a session. -/
def canClose (s : Socket Key) (code : ℕ) : Bool :=
  s.closed.isNone && (if code = unauthorizedCloseCode then s.revoked else s.kind = .terminal)

/-- The wait of the watchdog can end. -/
def wakes (now : Time) : Watchdog Key → Bool
  | .waiting _ notified deadline => notified || deadline ≤ now
  | _ => false

/-- When an event can happen. A new token is one that nobody has named before, and its key is not
the one of the empty text. -/
def Enabled (cfg : AuthSettings Key) (st : AuthState Key) : AuthEvent → Prop
  | .tick _ | .request _ => True
  | .login token =>
    cfg.tokenKey token ∉ st.named ∧ cfg.tokenKey token ≠ cfg.tokenKey []
  | .logout call _ _ => (st.logouts call).isNone = true
  | .logoutResumes call => (st.logouts call).isSome = true
  | .connect ws _ _ => (st.sockets ws).isNone = true
  | .check ws _ => standsAt st ws (· = .accepting) = true
  | .advance ws await => standsAt st ws (leadsTo await) = true
  | .enter ws | .fail ws _ => standsAt st ws inTransition = true
  | .leave ws => standsAt st ws (· = .serving) = true
  | .close ws code => (st.sockets ws).any (canClose · code) = true
  | .watchdogWakes ws => wakes st.now (st.watchdogs ws) = true
  | .watchdogReturns ws => (match st.watchdogs ws with | .closing _ => true | _ => false) = true

instance decidableEnabled (cfg : AuthSettings Key) (st : AuthState Key) :
    (e : AuthEvent) → Decidable (e.Enabled cfg st)
  | .tick _ | .request _ => inferInstanceAs (Decidable True)
  | .login _ => inferInstanceAs (Decidable (_ ∧ _))
  | .check _ _ | .advance _ _ | .enter _ | .fail _ _ | .leave _ | .logout _ _ _
  | .logoutResumes _ | .connect _ _ _ | .close _ _ | .watchdogWakes _ | .watchdogReturns _ =>
    inferInstanceAs (Decidable (_ = true))

/-- The state after an event. -/
def apply (cfg : AuthSettings Key) (st : AuthState Key) : AuthEvent → AuthState Key
  | .tick elapsed => { st with now := st.now + elapsed }
  | .login token =>
    let key := cfg.tokenKey token
    { st.setAuth (st.auth.issueToken key st.now) with named := key :: st.named }
  | .request conn => st.setAuth (st.auth.checkAuthed cfg.tokenKey cfg.passwordHash conn st.now)
  | .logout call conn allowed => st.logout cfg call conn allowed
  | .logoutResumes call => st.logoutResumes call
  | .connect ws kind conn =>
    { st with sockets := Function.update st.sockets ws (some { kind := kind, conn := conn }) }
  | .check ws refused => (st.sockets ws).elim st (st.check cfg ws refused)
  | .advance ws await => st.onSocket ws fun s => { s with pc := .transition await }
  | .enter ws => (st.sockets ws).elim st (st.enter cfg ws)
  | .fail ws code =>
    st.onSocket ws fun s => { s with pc := .finished, closed := s.closed.or code }
  | .leave ws => st.leave ws
  | .close ws code => st.onSocket ws fun s => { s with closed := some code }
  | .watchdogWakes ws => st.watchdogWakes ws
  | .watchdogReturns ws => st.setWatchdog ws .done

end AuthEvent

/-- The transition system of the authentication. -/
def authSystem (cfg : AuthSettings Key) : System (AuthState Key) AuthEvent where
  Enabled := AuthEvent.Enabled cfg
  apply := AuthEvent.apply cfg

instance authSystemDecidable (cfg : AuthSettings Key) (st : AuthState Key) (e : AuthEvent) :
    Decidable ((authSystem cfg).Enabled st e) :=
  inferInstanceAs (Decidable (e.Enabled cfg st))

end WTerm
