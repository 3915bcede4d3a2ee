import WTerm.Client.StatusChannel
import WTerm.Status.FailureFlags

/-!
# What the sidebar shows

The hub of the server broadcasts snapshots one after another, and each connection gets its part of
them in order. A page shows the snapshots of the socket that it has at the time. Here the hub, with
its failures, and the status channel of one page run together, beside the pages of other browsers.
-/

namespace WTerm

open Transition

/-- A frame of a status connection: the number of the broadcast, and the snapshot. -/
structure StatusFrame where
  number : ℕ
  payload : List StatusEntry

/-- The hub and the status channel of one page. -/
structure SidebarWorld where
  hub : FallibleHub := {}
  channel : Channel
  /-- The connections of the page that `project_status_ws` has not registered. -/
  flight : List Ws := []
  /-- History: the frames of a connection, in order. One whose send raises may have got through. -/
  frames : Ws → List StatusFrame := fun _ => []
  /-- How many of them have arrived. -/
  got : Ws → ℕ := fun _ => 0
  /-- History: how many broadcasts there were. -/
  broadcasts : ℕ := 0
  /-- History: the number of the last broadcast that the page has shown. -/
  shown : ℕ := 0

/-- The steps of the page, of the connections and of the hub. -/
inductive SidebarEvent where
  | page (e : ChannelEvent)
  /-- `project_status_ws` registers a connection of the page. -/
  | arrive (ws : Ws)
  | hub (e : FallibleEvent)
  /-- The next frame of a connection arrives. -/
  | deliver (ws : Ws)

namespace SidebarWorld

/-- A new connection. -/
def Fresh (st : SidebarWorld) (ws : Ws) : Prop := st.frames ws = [] ∧ ws ∉ st.hub.hub.sockets

/-- The hub takes a step. At the beginning of a broadcast all its sends are on their way. -/
def serve (projects : List Project) (st : SidebarWorld) (e : FallibleEvent) : SidebarWorld :=
  let hub := e.apply projects st.hub
  match st.hub.hub.run.pending, hub.hub.run with
  | none, .broadcasting payload pending =>
    { st with
      hub := hub
      broadcasts := st.broadcasts + 1
      frames := fun ws =>
        if ws ∈ pending then st.frames ws ++ [⟨st.broadcasts + 1, payload⟩] else st.frames ws }
  | _, _ => { st with hub := hub }

/-- A frame arrives. -/
def receive (st : SidebarWorld) (ws : Ws) (frame : StatusFrame) : SidebarWorld :=
  { st with
    channel := st.channel.onMessage ws frame.payload
    got := Function.update st.got ws (st.got ws + 1)
    shown := if st.channel.socket = some ws then frame.number else st.shown }

/-- The server and the page after the script has run. -/
def initial (ws : Ws) : SidebarWorld := { channel := .initial ws, flight := [ws] }

end SidebarWorld

namespace SidebarEvent

/-- The connections under way after a step. -/
def flight (st : SidebarWorld) : SidebarEvent → List Ws
  | .page (.start ws) | .page (.timer ws) => ws :: st.flight
  | .arrive ws => st.flight.erase ws
  | _ => st.flight

/-- The state after a step. -/
def apply (projects : List Project) (st : SidebarWorld) (event : SidebarEvent) : SidebarWorld :=
  let st := { st with flight := event.flight st }
  match event with
  | .page e => { st with channel := e.apply st.channel }
  | .arrive ws => st.serve projects (.add ws)
  | .hub e => st.serve projects e
  | .deliver ws =>
    match (st.frames ws)[st.got ws]? with
    | some frame => st.receive ws frame
    | none => st

/-- When a step can happen. The connections that the hub registers otherwise are those of other
pages. -/
def Enabled (st : SidebarWorld) : SidebarEvent → Prop
  | .page (.message _ _) => False
  | .page (.start ws) => (ChannelEvent.start ws).Enabled st.channel ∧ st.Fresh ws
  | .page (.timer ws) => (ChannelEvent.timer ws).Enabled st.channel ∧ st.Fresh ws
  | .page e => e.Enabled st.channel
  | .arrive ws => ws ∈ st.flight
  | .hub (.add ws) => st.channel.sockets ws = none
  | .hub e => e.Enabled st.hub
  | .deliver ws => st.channel.sockets ws = some .opened ∧ st.got ws < (st.frames ws).length

instance decidableFresh (st : SidebarWorld) (ws : Ws) : Decidable (st.Fresh ws) :=
  decidable_of_iff ((st.frames ws).isEmpty = true ∧ ws ∉ st.hub.hub.sockets) (by
    rw [SidebarWorld.Fresh, List.isEmpty_iff])

instance decidableEnabled (st : SidebarWorld) : (e : SidebarEvent) → Decidable (e.Enabled st)
  | .page (.message _ _) => inferInstanceAs (Decidable False)
  | .page (.start _) | .page (.timer _) => inferInstanceAs (Decidable (_ ∧ _))
  | .page .stop => inferInstanceAs (Decidable (ChannelEvent.stop.Enabled st.channel))
  | .page .clear => inferInstanceAs (Decidable (ChannelEvent.clear.Enabled st.channel))
  | .page (.opened ws) => inferInstanceAs (Decidable ((ChannelEvent.opened ws).Enabled st.channel))
  | .page (.closed ws code) =>
    inferInstanceAs (Decidable ((ChannelEvent.closed ws code).Enabled st.channel))
  | .arrive _ => inferInstanceAs (Decidable (_ ∈ _))
  | .hub (.add _) => inferInstanceAs (Decidable (_ = _))
  | .hub (.session e) => inferInstanceAs (Decidable ((FallibleEvent.session e).Enabled st.hub))
  | .hub (.discard ws) => inferInstanceAs (Decidable ((FallibleEvent.discard ws).Enabled st.hub))
  | .hub (.wake found) => inferInstanceAs (Decidable ((FallibleEvent.wake found).Enabled st.hub))
  | .hub (.timeOut found) =>
    inferInstanceAs (Decidable ((FallibleEvent.timeOut found).Enabled st.hub))
  | .hub (.answer history found) =>
    inferInstanceAs (Decidable ((FallibleEvent.answer history found).Enabled st.hub))
  | .hub (.sent ws) => inferInstanceAs (Decidable ((FallibleEvent.sent ws).Enabled st.hub))
  | .hub (.sendFails ws) =>
    inferInstanceAs (Decidable ((FallibleEvent.sendFails ws).Enabled st.hub))
  | .hub .gathered => inferInstanceAs (Decidable (FallibleEvent.gathered.Enabled st.hub))
  | .deliver _ => inferInstanceAs (Decidable (_ ∧ _))

/-- A logout ends before the next login. -/
def orderly (st : SidebarWorld) : SidebarEvent → Bool
  | .page .clear => !st.channel.enabled
  | _ => true

/-- A step loses no wake-up of the hub. -/
def KeepsWake (projects : List Project) (st : SidebarWorld) : SidebarEvent → Prop
  | .hub e => st.hub.KeepsWake projects e
  | _ => True

instance (projects : List Project) (st : SidebarWorld) :
    (e : SidebarEvent) → Decidable (e.KeepsWake projects st)
  | .hub e => inferInstanceAs (Decidable (st.hub.KeepsWake projects e))
  | .page _ | .arrive _ | .deliver _ => inferInstanceAs (Decidable True)

end SidebarEvent

/-- The hub and the status channel of a page, in any interleaving. -/
def sidebarSystem (projects : List Project) : System SidebarWorld SidebarEvent where
  Enabled := fun st e => e.Enabled st
  apply := SidebarEvent.apply projects

instance sidebarSystemDecidable (projects : List Project) (st : SidebarWorld) (e : SidebarEvent) :
    Decidable ((sidebarSystem projects).Enabled st e) :=
  inferInstanceAs (Decidable (e.Enabled st))

end WTerm
