import WTerm.Client.Message
import WTerm.Client.Reconnect
import WTerm.Session.Input

/-!
# What is typed

`sendJson` sends what a terminal has, or its size, over the socket of the tab if that is open. The
frames of a socket arrive in order, and the receive loop of `terminal_ws` hands them to the session.
The tabs, the frames on their way and the event loop are modelled together, so that the input of the
process can be compared with what was sent.
-/

namespace WTerm

open Transition Control

namespace PageMessage

/-- The bytes that a message has for the process. A text with a lone surrogate has none. -/
def bytes : PageMessage → List UInt8
  | .input data =>
    match PyStr.encode data with
    | .ok encoded => encoded
    | .error _ => []
  | .resize _ _ => []

/-- The size that a message has for the PTY, rows first. -/
def winsize : PageMessage → Option (ℕ × ℕ)
  | .input _ => none
  | .resize cols rows => some (Session.clampSize rows, Session.clampSize cols)

/-- Whether the message is dropped, or an `os.write` or the ioctl fails for it. -/
def loses (s : Session) (results : List WriteResult) : PageMessage → Bool
  | .input data => s.drops data || !results.all WriteResult.isLossless
  | .resize _ _ => Session.ioctlFails results

instance ofPageDecidable : (m : PageMessage) → Decidable m.OfPage
  | .input data => decidable_of_iff
      ((∀ c ∈ data, c < 0x110000) ∧
        data.IsChain fun a b => Json.isHigh a = true → Json.isLow b = false)
      ⟨fun h => ⟨h.1, h.2⟩, fun h => ⟨h.bound, h.joined⟩⟩
  | .resize _ _ => inferInstanceAs (Decidable (_ ∧ _))

end PageMessage

/-- The tabs and the event loop of a session key, with the messages of the page. -/
structure TypingWorld where
  tabs : TabsWorld := {}
  /-- The messages that were sent on a socket, in order. -/
  sent : Ws → List PageMessage := fun _ => []
  /-- History: the messages that receive loops have handled, in order, each with the session and
  the connection. -/
  handled : List (SessionId × Ws × PageMessage) := []
  /-- History: whether a message for the session was dropped, or an `os.write` or an ioctl of it
  failed. -/
  lost : SessionId → Bool := fun _ => false

/-- The session of which an `os.write` fails in a step. -/
def TabsEvent.failedWrite : TabsEvent → Option SessionId
  | .server (.flush sid results) =>
    if results.all WriteResult.isLossless then none else some sid
  | _ => none

namespace TypingWorld

/-- What was handled for a session, in order. -/
def handledBy (st : TypingWorld) (sid : SessionId) : List PageMessage :=
  (st.handled.filter (·.1 = sid)).map (·.2.2)

/-- What was handled of a connection, in order. -/
def handledOn (st : TypingWorld) (ws : Ws) : List PageMessage :=
  (st.handled.filter (·.2.1 = ws)).map (·.2.2)

/-- `sendJson`, which sends over an open socket only. -/
def send (st : TypingWorld) (tab : ℕ) (m : PageMessage) : TypingWorld :=
  match (st.tabs.page.tabs tab).ws with
  | none => st
  | some ws =>
    if (st.tabs.page.sockets ws).any (·.state = .opened) then
      { st with sent := Function.update st.sent ws (st.sent ws ++ [m]) }
    else st

/-- The message of a connection that arrives next, and the session that its receive loop serves. -/
def next (st : TypingWorld) (ws : Ws) : Option (SessionId × PageMessage) :=
  match st.tabs.world.loopSession ws, (st.sent ws)[(st.handledOn ws).length]? with
  | some sid, some m => some (sid, m)
  | _, _ => none

end TypingWorld

/-- The steps of the tabs and the event loop, and the messages of the page. -/
inductive TypingEvent where
  | step (e : TabsEvent)
  /-- The terminal of a tab has input, or was resized. -/
  | send (tab : ℕ) (m : PageMessage)
  /-- The next message of a connection arrives. -/
  | arrive (ws : Ws) (results : List WriteResult)

namespace TypingEvent

/-- The state after a step. `depth` is how deep `json.loads` can nest. -/
def apply (cfg : Settings) (depth : ℕ) (st : TypingWorld) : TypingEvent → TypingWorld
  | .step e =>
    { st with
      tabs := e.apply cfg st.tabs
      lost := fun sid => st.lost sid || decide (e.failedWrite = some sid) }
  | .send tab m => st.send tab m
  | .arrive ws results =>
    match st.next ws with
    | none => st
    | some (sid, m) =>
      { st with
        tabs := (TabsEvent.server (.receive ws (m.frame.received depth) results)).apply cfg st.tabs
        handled := st.handled ++ [(sid, ws, m)]
        lost := Function.update st.lost sid
          (st.lost sid || m.loses (st.tabs.world.sessions sid) results) }

/-- Whether the receive loop gets a frame. -/
def receives : TypingEvent → Bool
  | .step (.server e) => e.receives
  | _ => false

/-- When a step can happen. Frames arrive as messages of the page only. -/
def Enabled (st : TypingWorld) : TypingEvent → Prop
  | .step e => e.Enabled st.tabs ∧ (TypingEvent.step e).receives = false
  | .send _ m => m.OfPage
  | .arrive ws _ => (st.next ws).isSome = true

instance decidableEnabled (st : TypingWorld) : (e : TypingEvent) → Decidable (e.Enabled st)
  | .step e => inferInstanceAs (Decidable (e.Enabled st.tabs ∧ _ = false))
  | .send _ m => inferInstanceAs (Decidable m.OfPage)
  | .arrive _ _ => inferInstanceAs (Decidable (_ = true))

end TypingEvent

/-- The tabs, the messages of the page and the event loop, in any interleaving. -/
def typingSystem (cfg : Settings) (depth : ℕ) : System TypingWorld TypingEvent where
  Enabled := fun st e => e.Enabled st
  apply := TypingEvent.apply cfg depth

instance typingSystemDecidable (cfg : Settings) (depth : ℕ) (st : TypingWorld)
    (e : TypingEvent) : Decidable ((typingSystem cfg depth).Enabled st e) :=
  inferInstanceAs (Decidable (e.Enabled st))

end WTerm
