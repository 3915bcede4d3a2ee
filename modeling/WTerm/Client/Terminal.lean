import Mathlib.Tactic.Simps.Basic
import WTerm.Client.Reconnect
import WTerm.Client.Sockets
import WTerm.Manager.Streams

/-!
# What a terminal is given

The frames that a session's writer hands to a connection arrive in the browser in the same order,
and `onmessage` calls `term.write` of the tab with them. `connect` calls `term.reset` first. Here
the tabs, the event loop and the frames on their way are modelled together, so that the calls of
`term.write` since the last `term.reset` can be compared with the output of the process. What
xterm.js makes of the calls is not modelled: it parses them later, those that wait are not dropped
by a reset, and `write` throws when too much of them waits.
-/

namespace WTerm

open Transition

/-- A call of `term.write`, by what it was given. -/
inductive TermWrite where
  /-- A binary message. -/
  | output (data : List UInt8)
  /-- The notice for a status message. -/
  | status (message : String)
  /-- The notice for an exit message. -/
  | exited (code : Option ℤ)
  /-- The notice that another client has the session. -/
  | replaced
  /-- The notice that the connection was rejected. -/
  | rejected (code : ℕ)
  deriving DecidableEq

/-- The PTY output that a call was given. -/
def TermWrite.data : TermWrite → List UInt8
  | .output data => data
  | _ => []

/-- Whether the call is for a message of the server, and not for a notice of the page. -/
def TermWrite.isMessage : TermWrite → Bool
  | .replaced | .rejected _ => false
  | _ => true

/-- The PTY output that calls were given, in order. -/
def writtenOutput (calls : List TermWrite) : List UInt8 := calls.flatMap TermWrite.data

/-- The calls of `onmessage` for a frame. A close frame is no message. -/
def Payload.writes : Payload → List TermWrite
  | .bytes data => [.output data]
  | .text (.status message) => [.status message]
  | .text (.exit code) => [.exited code]
  | .close _ _ => []

/-- The calls of `onclose`. -/
def closeNotice (code : ℕ) : List TermWrite :=
  if code = 4000 then [.replaced] else if code = 4404 ∨ code = 4400 then [.rejected code] else []

/-- The frames that the transport may have delivered, the one that is being sent among them. -/
def Writer.handed (w : Writer) : List Payload :=
  match w.pc with
  | .sending item => w.sent ++ [item.payload]
  | _ => w.sent

/-- The tabs and the event loop of a session key, with the calls of `term.write`. -/
structure TermWorld where
  tabs : TabsWorld := {}
  /-- History: the frames of a connection that have arrived, in order. -/
  got : Ws → List Payload := fun _ => []
  /-- History: the calls of `term.write` since the last `term.reset`, for each tab. -/
  written : ℕ → List TermWrite := fun _ => []
  /-- History: the connection that `term.reset` was last called for. -/
  source : ℕ → Option Ws := fun _ => none

/-- The steps of the tabs and the event loop, and the arrival of frames. -/
inductive TermEvent where
  | step (e : TabsEvent)
  /-- The next frame of a connection to a session arrives. -/
  | deliver (sid : SessionId) (ws : Ws)

namespace TermWorld

/-- `tab.term.reset()`, before a connection: what is written from here on is written after it. -/
@[simps]
def reset (st : TermWorld) (tab : ℕ) (source : Option Ws) : TermWorld :=
  { st with
    written := Function.update st.written tab []
    source := Function.update st.source tab source }

/-- Calls of `tab.term.write`. -/
@[simps]
def write (st : TermWorld) (tab : ℕ) (calls : List TermWrite) : TermWorld :=
  { st with written := Function.update st.written tab (st.written tab ++ calls) }

/-- The calls of a step on the terminals. A closed tab has no terminal. -/
def calls (st : TermWorld) : TabsEvent → TermWorld
  | .openTab tab _ ws | .timer tab ws => st.reset tab (some ws)
  | .closeTab tab => st.reset tab none
  | .closed ws code =>
    match st.tabs.page.owner ws with
    | some tab =>
      if (st.tabs.page.tabs tab).ws = some ws then st.write tab (closeNotice code) else st
    | none => st
  | _ => st

/-- The frame of a connection that arrives next. -/
def next (st : TermWorld) (sid : SessionId) (ws : Ws) : Option Payload :=
  ((st.tabs.world.sessions sid).writers ws).handed[(st.got ws).length]?

/-- `onmessage`. -/
def receive (st : TermWorld) (ws : Ws) (frame : Payload) : TermWorld :=
  let st := { st with got := Function.update st.got ws (st.got ws ++ [frame]) }
  match st.tabs.page.owner ws with
  | some tab => st.write tab frame.writes
  | none => st

end TermWorld

namespace TermEvent

/-- The state after a step. -/
def apply (cfg : Settings) (st : TermWorld) : TermEvent → TermWorld
  | .step e => { st.calls e with tabs := e.apply cfg st.tabs }
  | .deliver sid ws =>
    match st.next sid ws with
    | none => st
    | some frame =>
      if frame.isExit then
        { st.receive ws frame with tabs := (TabsEvent.exitFrame ws).apply cfg st.tabs }
      else st.receive ws frame

/-- An exit frame arrives as a frame only, and messages arrive while the socket is open only. -/
def Enabled (st : TermWorld) : TermEvent → Prop
  | .step (.exitFrame _) => False
  | .step e => e.Enabled st.tabs
  | .deliver sid ws =>
    (st.tabs.page.sockets ws).any (·.state = .opened) = true ∧
      (st.next sid ws).any (!·.isClose) = true

instance decidableEnabled (st : TermWorld) : (e : TermEvent) → Decidable (e.Enabled st)
  | .step (.exitFrame _) => inferInstanceAs (Decidable False)
  | .step (.openTab tab mode ws) =>
    inferInstanceAs (Decidable ((TabsEvent.openTab tab mode ws).Enabled st.tabs))
  | .step (.timer tab ws) => inferInstanceAs (Decidable ((TabsEvent.timer tab ws).Enabled st.tabs))
  | .step (.closeTab tab) => inferInstanceAs (Decidable ((TabsEvent.closeTab tab).Enabled st.tabs))
  | .step (.opened ws) => inferInstanceAs (Decidable ((TabsEvent.opened ws).Enabled st.tabs))
  | .step (.closed ws code) =>
    inferInstanceAs (Decidable ((TabsEvent.closed ws code).Enabled st.tabs))
  | .step (.arrive ws found) =>
    inferInstanceAs (Decidable ((TabsEvent.arrive ws found).Enabled st.tabs))
  | .step (.lost ws) => inferInstanceAs (Decidable ((TabsEvent.lost ws).Enabled st.tabs))
  | .step (.server e) => inferInstanceAs (Decidable ((TabsEvent.server e).Enabled st.tabs))
  | .deliver _ _ => inferInstanceAs (Decidable (_ ∧ _))

end TermEvent

/-- The tabs, the event loop and the calls on the terminals of a session key, in any
interleaving. -/
def termSystem (cfg : Settings) : System TermWorld TermEvent where
  Enabled := fun st e => e.Enabled st
  apply := TermEvent.apply cfg

instance termSystemDecidable (cfg : Settings) (st : TermWorld) (e : TermEvent) :
    Decidable ((termSystem cfg).Enabled st e) :=
  inferInstanceAs (Decidable (e.Enabled st))

end WTerm
