import WTerm.Manager.World

/-!
# The tabs of a session

`connect` and `closeTab` of `app.js` and the handlers of the sockets, for all tabs of one session
key, in any number of windows. The handlers keep the tab that they were made for, also when it
has another socket by then.
-/

namespace WTerm

/-- `readyState` of a socket. -/
inductive ReadyState where
  | connecting
  | opened
  | closing
  | closed
  deriving DecidableEq

/-- A socket that `connect` has created. -/
structure TabSocket where
  tab : ℕ
  mode : Mode
  state : ReadyState := .connecting

/-- A tab. -/
structure Tab where
  created : Bool := false
  /-- `pane` is not null. -/
  isOpen : Bool := false
  ws : Option Ws := none
  intentionalClose : Bool := false
  reconnectAttempts : ℕ := 0
  /-- The delay of `reconnectTimer` in milliseconds, while the timer is pending. -/
  reconnectTimer : Option ℕ := none
  deriving DecidableEq

/-- The tabs of a session key. -/
structure Tabs where
  tabs : ℕ → Tab := fun _ => {}
  sockets : Ws → Option TabSocket := fun _ => none

/-- The close codes after which `onclose` does not connect again. -/
def finalCodes : List ℕ := [4000, 4401, 4404, 4400, 4408, 4409, 4410]

/-- How often a tab connects again by itself. -/
def maxReconnectAttempts : ℕ := 20

namespace Tabs

/-- A tab changes. -/
def onTab (p : Tabs) (tab : ℕ) (f : Tab → Tab) : Tabs :=
  { p with tabs := Function.update p.tabs tab (f (p.tabs tab)) }

/-- A socket changes. -/
def onSocket (p : Tabs) (ws : Ws) (f : TabSocket → TabSocket) : Tabs :=
  { p with sockets := Function.update p.sockets ws ((p.sockets ws).map f) }

/-- `tab.ws.close()`, if there is a socket. -/
def closeSocket (p : Tabs) : Option Ws → Tabs
  | none => p
  | some ws => p.onSocket ws fun s => if s.state = .closed then s else { s with state := .closing }

/-- `connect`. Between the two assignments to `intentionalClose` no handler runs. -/
def connect (p : Tabs) (tab : ℕ) (mode : Mode) (ws : Ws) : Tabs :=
  let p := (p.closeSocket (p.tabs tab).ws).onTab tab fun t =>
    { t with intentionalClose := false, reconnectTimer := none, ws := some ws }
  { p with sockets := Function.update p.sockets ws (some { tab := tab, mode := mode }) }

/-- `connect` if the URL cannot be encoded: it raises before there is a new socket. -/
def connectRaises (p : Tabs) (tab : ℕ) : Tabs :=
  (p.closeSocket (p.tabs tab).ws).onTab tab fun t =>
    { t with intentionalClose := true, reconnectTimer := none }

/-- `openTab` with a mode, on a new tab or on an open one. -/
def openTab (p : Tabs) (tab : ℕ) (mode : Mode) (ws : Ws) : Tabs :=
  (p.onTab tab fun t => { t with created := true, isOpen := true }).connect tab mode ws

/-- `closeTab`. -/
def closeTab (p : Tabs) (tab : ℕ) : Tabs :=
  (p.closeSocket (p.tabs tab).ws).onTab tab fun t =>
    { t with intentionalClose := true, reconnectTimer := none, ws := none, isOpen := false }

/-- `onopen`. -/
def onOpen (p : Tabs) (ws : Ws) : Tabs :=
  (p.sockets ws).elim p fun s =>
    (p.onSocket ws fun s => { s with state := .opened }).onTab s.tab fun t =>
      { t with reconnectAttempts := 0 }

/-- `onmessage` with an exit frame. -/
def onExit (p : Tabs) (ws : Ws) : Tabs :=
  (p.sockets ws).elim p fun s => p.onTab s.tab fun t => { t with intentionalClose := true }

/-- What `onclose` does to the tab. -/
def afterClose (code : ℕ) (ws : Ws) (t : Tab) : Tab :=
  if t.ws ≠ some ws then t
  else if t.intentionalClose = true ∨ code ∈ finalCodes then { t with ws := none }
  else if t.reconnectAttempts < maxReconnectAttempts then
    { t with
      ws := none
      reconnectAttempts := t.reconnectAttempts + 1
      reconnectTimer := some (min (1000 * (t.reconnectAttempts + 1)) 5000) }
  else { t with ws := none }

/-- `onclose`. -/
def onClose (p : Tabs) (ws : Ws) (code : ℕ) : Tabs :=
  (p.sockets ws).elim p fun s =>
    (p.onSocket ws fun s => { s with state := .closed }).onTab s.tab (afterClose code ws)

end Tabs

end WTerm
