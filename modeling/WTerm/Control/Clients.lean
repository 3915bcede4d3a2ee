import WTerm.Control.Core

/-!
# Which connection holds a session

A connection in its receive loop is the session's `websocket`, or another operation took the
session from it, or the process is gone. Whether a session with a client is always alive
depends on the natural exit: it must not fall into an attach that has not installed its
connection yet.
-/

namespace WTerm.Control

variable {cfg : Settings} {c c' : Control} {l : Label}

/-- The connections of a session and of the tasks that serve it. -/
structure Clients (c : Control) : Prop where
  /-- A connection from which the session was taken never gets it back. -/
  takenLeft : ∀ sid ws, c.taken ws = true → (c.life sid).websocket ≠ some ws
  /-- The connection that waits for its replay is in place while the process lives. -/
  replaying : ∀ ws sid, c.role = some (.replaying ws sid) →
    (c.life sid).websocket = some ws ∨ (c.life sid).alive = false
  /-- A connection in its receive loop has the session, unless it was taken or is over. -/
  looping : ∀ ws sid, c.routes ws = .looping sid →
    (c.life sid).websocket = some ws ∨ c.taken ws = true ∨ (c.life sid).alive = false

/-- A rule gives a session back to nobody from whom it was taken. -/
theorem Clients.takenLeft_step (h : Clients c) (hs : Sockets c) (hm : Move cfg c l c')
    {sid : SessionId} {ws : Ws} (ht : c'.taken ws = true) :
    (c'.life sid).websocket ≠ some ws := by
  have hkeep := h.takenLeft
  have hjoined := hs.websocketJoined
  have honce := hs.joinedOnce
  have hblank : Session.blank.websocket = none := rfl
  cases hm with
  | install ws' sid' holder =>
    -- The installed connection is new, and a session is taken only from attached ones.
    have hnew : ∀ sid, (c.life sid).joined ws' = false := fun sid => by
      by_contra hj
      exact hs.joinedPending sid ws' _ (by simpa using hj) holder rfl
    have htaken := hs.takenJoined ws
    grind
  | _ => grind

/-- A rule keeps the connection that waits for its replay in place. -/
theorem Clients.replaying_step (h : Clients c) (hs : Sockets c) (hm : Move cfg c l c')
    {ws : Ws} {sid : SessionId} (hr : c'.role = some (.replaying ws sid)) :
    (c'.life sid).websocket = some ws ∨ (c'.life sid).alive = false := by
  have hkeep := h.replaying ws sid
  -- Its receive loop has not begun, so it is not the one that detaches.
  have hinside := hs.serving ws sid
  cases hm <;> grind

/-- A rule keeps the account of the connections in their receive loops. -/
theorem Clients.looping_step (h : Clients c) (hcore : Core c) (hs : Sockets c)
    (hm : Move cfg c l c')
    {ws : Ws} {sid : SessionId} (hr : c'.routes ws = .looping sid) :
    (c'.life sid).websocket = some ws ∨ c'.taken ws = true ∨ (c'.life sid).alive = false := by
  have hkeep := h.looping ws sid
  have hreplaying := h.replaying ws sid
  have hinside := hs.serving
  have hdisplaced := hcore.displaced
  have hexists : c.routes ws = .looping sid → sid < c.count := fun hr =>
    hs.routeExists ws sid (by rw [hr]; rfl)
  cases hm <;> grind

/-- Every rule of the lock keeps what is known about the connections. -/
theorem Clients.step (h : Clients c) (hcore : Core c) (hs : Sockets c) (hm : Move cfg c l c') :
    Clients c' where
  takenLeft _ _ := h.takenLeft_step hs hm
  replaying _ _ := h.replaying_step hs hm
  looping _ _ := h.looping_step hcore hs hm

/-- A connection is in its receive loop with the session, or waits for its replay. -/
def Serves (c : Control) (ws : Ws) (sid : SessionId) : Prop :=
  c.routes ws = .looping sid ∨ c.role = some (.replaying ws sid)

/-- Apart from the natural exit, a rule leaves a served connection without its session only by
taking it. -/
theorem Move.serves (hm : Move cfg c l c') (hcore : Core c) (hs : Sockets c)
    (hl : l.isExit = false) {ws : Ws} {sid : SessionId} (hserves : c'.Serves ws sid) :
    (c'.life sid).websocket = some ws ∨ c'.taken ws = true ∨
      c.Serves ws sid ∧ (c.life sid).websocket ≠ some ws ∧ c.taken ws = false := by
  have hdisplaced := hcore.displaced
  have hinside := hs.serving
  have hexists : c.routes ws = .looping sid → sid < c.count := fun hr =>
    hs.routeExists ws sid (by rw [hr]; rfl)
  cases hm <;> grind [Serves, Label.isExit]

/-- The natural exit does not fall between the start of an attach and its installation. -/
def ExitOutsideAttach (c : Control) : Label → Prop
  | .exit sid => (c.life sid).alive = true → ∀ ws, c.role ≠ some (.attaching ws sid)
  | _ => True

/-- Clients, and attaches that will install one, belong to live sessions. -/
structure LiveClients (c : Control) : Prop where
  websocket : ∀ sid ws, (c.life sid).websocket = some ws → (c.life sid).alive = true
  attaching : ∀ ws sid, c.role = some (.attaching ws sid) → (c.life sid).alive = true

/-- A rule leaves no client at a dead session if the exit falls outside every attach. -/
theorem LiveClients.step (h : LiveClients c) (hcore : Core c) (hm : Move cfg c l c')
    (hexit : c.ExitOutsideAttach l) : LiveClients c' where
  websocket sid ws hw := by
    have hkeep := h.websocket
    have hattaching := h.attaching
    have hcleared := hcore.cleared
    have hblank : Session.blank.websocket = none := rfl
    cases hm <;> grind [ExitOutsideAttach]
  attaching ws sid hr := by
    have hkeep := h.attaching
    cases hm <;> grind [ExitOutsideAttach]

end WTerm.Control
