import WTerm.Client.Sockets
import WTerm.Manager.CloseCodes
import WTerm.Manager.Expiry
import WTerm.Manager.Spawns

/-!
# Automatic reconnects

After an explicit end or an idle expiry, a tab that gets the close code of it does not connect
again. A tab that has lost its connection before never gets the code, and its timer connects in
mode `continue`. This file runs the tabs and the event loop of one session key together, and shows
that the codes of the server and the exit frame leave no tab with a timer.
-/

namespace WTerm

open Transition Control

/-- An operation that ends a session on request, or because it was idle. -/
def Owner.explicit : Owner → Bool
  | .endRequest _ | .idle => true
  | _ => false

/-- The operation that gets the lock in an event ends the session that it finds. -/
def Event.beginsEnding (cfg : Settings) (w : World) (e : Event) : Bool :=
  match e.grants cfg w with
  | some (.endRequest _) => w.live.isSome
  | some (.idle sid) => decide (w.entry = some sid) && (w.sessions sid).alive
  | _ => false

/-- The operation in whose step an event falls is an explicit end, and it returns in the step. -/
def Event.terminates (cfg : Settings) (w : World) (e : Event) : Bool :=
  (((w.holder.map Critical.role).bind Role.owner).any Owner.explicit || e.beginsEnding cfg w) &&
    (e.apply cfg w).holder.isNone

/-- The tabs and the event loop of a session key. -/
structure TabsWorld where
  page : Tabs := {}
  world : World := {}
  /-- The connections that no route has got yet. -/
  flight : List Ws := []
  /-- History: an explicit end or an idle expiry has terminated the session, and no user has
  opened a tab since. -/
  ended : Bool := false
  /-- History: the sessions that were created meanwhile. -/
  restarts : ℕ := 0

/-- The steps of the users, the tabs, the network and the event loop. -/
inductive TabsEvent where
  /-- A user opens, resumes or starts the session in a tab. -/
  | openTab (tab : ℕ) (mode : Mode) (ws : Ws)
  /-- The reconnect timer of a tab fires. -/
  | timer (tab : ℕ) (ws : Ws)
  | closeTab (tab : ℕ)
  | opened (ws : Ws)
  /-- An exit frame arrives. -/
  | exitFrame (ws : Ws)
  | closed (ws : Ws) (code : ℕ)
  /-- `terminal_ws` lets a connection through to the transition. -/
  | arrive (ws : Ws) (found : Bool)
  /-- A connection never gets so far. -/
  | lost (ws : Ws)
  | server (e : Event)

namespace TabsEvent

/-- The mode of a socket. -/
def modeOf (st : TabsWorld) (ws : Ws) : Mode := ((st.page.sockets ws).map (·.mode)).getD .attach

/-- What the event loop does in a step. -/
def event (st : TabsWorld) : TabsEvent → Option Event
  | .arrive ws found => some (.connect ws (modeOf st ws) found)
  | .server e => some e
  | _ => none

/-- What the tabs do in a step. -/
def page (st : TabsWorld) : TabsEvent → Tabs
  | .openTab tab mode ws => st.page.openTab tab mode ws
  | .timer tab ws => st.page.connect tab .continue_ ws
  | .closeTab tab => st.page.closeTab tab
  | .opened ws => st.page.onOpen ws
  | .exitFrame ws => st.page.onExit ws
  | .closed ws code => st.page.onClose ws code
  | .arrive _ _ | .lost _ | .server _ => st.page

/-- The connections under way after a step. -/
def flight (st : TabsWorld) : TabsEvent → List Ws
  | .openTab _ _ ws | .timer _ ws => ws :: st.flight
  | .arrive ws _ | .lost ws => st.flight.erase ws
  | _ => st.flight

/-- A user acts. -/
def isUser : TabsEvent → Bool
  | .openTab _ _ _ => true
  | _ => false

/-- A tab connects by itself. -/
def isTimer : TabsEvent → Bool
  | .timer _ _ => true
  | _ => false

/-- A new connection. -/
def Fresh (st : TabsWorld) (ws : Ws) : Prop :=
  (st.page.sockets ws).isNone = true ∧ st.world.routes ws = .absent

/-- The codes with which `terminal_ws` rejects a connection before the transition. -/
def rejectCodes : List ℕ := [4400, 4401, 4404]

/-- A socket can be closed with a code: its connection is lost, its tab has closed it, the server
has closed it with the code, or `terminal_ws` has rejected it. -/
def canClose (st : TabsWorld) (ws : Ws) (code : ℕ) (s : TabSocket) : Bool :=
  s.state ≠ .closed &&
    (code = 1006 || s.state = .closing || st.world.closeCall ws = some code ||
      code ∈ rejectCodes && ws ∉ st.flight && st.world.routes ws = .absent)

/-- When a step can happen. -/
def Enabled (st : TabsWorld) : TabsEvent → Prop
  | .openTab tab _ ws =>
    ((st.page.tabs tab).created = false ∨ (st.page.tabs tab).isOpen = true) ∧ Fresh st ws
  | .timer tab ws => (st.page.tabs tab).reconnectTimer.isSome = true ∧ Fresh st ws
  | .closeTab tab => (st.page.tabs tab).isOpen = true
  | .opened ws => (st.page.sockets ws).any (·.state = .connecting) = true
  | .exitFrame ws => (st.page.sockets ws).any (·.state = .opened) = true
  | .closed ws code => (st.page.sockets ws).any (canClose st ws code) = true
  | .arrive ws _ => ws ∈ st.flight ∧ st.world.routes ws = .absent
  | .lost ws => ws ∈ st.flight
  | .server e => e.Enabled st.world ∧ e.connects = none

instance decidableEnabled (st : TabsWorld) : (e : TabsEvent) → Decidable (e.Enabled st)
  | .openTab _ _ _ => inferInstanceAs (Decidable ((_ ∨ _) ∧ _ ∧ _))
  | .timer _ _ => inferInstanceAs (Decidable (_ ∧ _ ∧ _))
  | .closeTab _ | .opened _ | .exitFrame _ | .closed _ _ =>
    inferInstanceAs (Decidable (_ = true))
  | .arrive _ _ | .server _ => inferInstanceAs (Decidable (_ ∧ _))
  | .lost ws => inferInstanceAs (Decidable (ws ∈ st.flight))

/-- The state after a step. -/
def apply (cfg : Settings) (st : TabsWorld) (e : TabsEvent) : TabsWorld where
  page := e.page st
  flight := e.flight st
  world := (e.event st).elim st.world (Event.apply cfg st.world)
  ended :=
    !e.isUser && (st.ended || (e.event st).any (Event.terminates cfg st.world))
  restarts :=
    if st.ended then
      st.restarts + (((e.event st).elim st.world (Event.apply cfg st.world)).count - st.world.count)
    else st.restarts

end TabsEvent

/-- The tabs and the event loop of a session key, in any interleaving. -/
def tabsSystem (cfg : Settings) : System TabsWorld TabsEvent where
  Enabled := fun st e => e.Enabled st
  apply := TabsEvent.apply cfg

instance tabsSystemDecidable (cfg : Settings) (st : TabsWorld) (e : TabsEvent) :
    Decidable ((tabsSystem cfg).Enabled st e) :=
  inferInstanceAs (Decidable (e.Enabled st))

/-- No tab is about to connect: none waits for its reconnect timer, and no connection is on its way
to the transition. -/
structure TabsWorld.Settled (st : TabsWorld) : Prop where
  timers : ∀ tab, (st.page.tabs tab).reconnectTimer = none
  flight : st.flight = []
  waiters : ∀ task ∈ st.world.waiters, task.socket = none

/-- A tab would connect again if it lost its connection. -/
def Tab.Reconnects (t : Tab) (ws : Ws) : Prop :=
  t.ws = some ws ∧ t.intentionalClose = false ∧ t.reconnectAttempts < maxReconnectAttempts

instance (t : Tab) (ws : Ws) : Decidable (t.Reconnects ws) :=
  inferInstanceAs (Decidable (_ ∧ _ ∧ _))

/-- A tab that would connect again loses its connection without a close code, or is closed after an
exit whose frame it has not got. -/
def TabsEvent.CutsOff (st : TabsWorld) : TabsEvent → Prop
  | .closed ws code => (code = 1006 ∨ code = exitCloseCode) ∧
      (st.page.sockets ws).any (fun s => (st.page.tabs s.tab).Reconnects ws) = true
  | _ => False

instance decidableCutsOff (st : TabsWorld) : (e : TabsEvent) → Decidable (e.CutsOff st)
  | .closed _ _ => inferInstanceAs (Decidable (_ ∧ _))
  | .openTab _ _ _ | .timer _ _ | .closeTab _ | .opened _ | .exitFrame _ | .arrive _ _ | .lost _
  | .server _ => inferInstanceAs (Decidable False)

/-- No tab is about to connect when an explicit end returns, and between it and the next action of a
user no tab is cut off. -/
def KnownEnd (cfg : Settings) (st : TabsWorld) (e : TabsEvent) : Prop :=
  ((e.event st).any (Event.terminates cfg st.world) = true → st.Settled) ∧
    (st.ended = true → ¬e.CutsOff st)

/-! ## The socket of a tab -/

namespace Tabs

variable {p : Tabs} {tab : ℕ} {ws : Ws}

/-- The socket of every tab is live, and made for the tab. -/
def Current (p : Tabs) : Prop := ∀ tab ws, (p.tabs tab).ws = some ws → p.Live ws tab

/-- A socket that is asked to close is the only one that changes. -/
theorem closeSocket_sockets {socket : Option Ws} (hne : socket ≠ some ws) :
    (p.closeSocket socket).sockets ws = p.sockets ws := by
  cases socket with
  | none => rfl
  | some ws' =>
    have hws : ws ≠ ws' := fun heq => hne (by rw [heq])
    simp [closeSocket, hws]

/-- The socket of another tab is left alone when a tab's is asked to close. -/
theorem Current.closeSocket_live (h : p.Current) {tab' : ℕ} (htab : tab' ≠ tab)
    (hws : (p.tabs tab').ws = some ws) :
    (p.closeSocket (p.tabs tab).ws).sockets ws = p.sockets ws := by
  refine closeSocket_sockets fun hsame => htab ?_
  obtain ⟨s, hs, hown, -⟩ := h tab' ws hws
  obtain ⟨s', hs', hown', -⟩ := h tab ws hsame
  rw [← hown, ← hown', Option.some.inj (hs.symm.trans hs')]

/-- A tab is connected with a new socket. -/
theorem Current.connect (h : p.Current) (hfresh : p.sockets ws = none) (mode : Mode) :
    (p.connect tab mode ws).Current := by
  intro tab' ws' hws'
  by_cases htab : tab' = tab
  · subst htab
    obtain rfl : ws = ws' := by simpa using hws'
    exact ⟨{ tab := tab', mode := mode }, by simp [Tabs.connect], rfl, .inl rfl⟩
  · have hbefore : (p.tabs tab').ws = some ws' := by simpa [htab] using hws'
    obtain ⟨s, hs, hown, hlive⟩ := h tab' ws' hbefore
    have hne : ws' ≠ ws := by
      rintro rfl
      rw [hfresh] at hs
      cases hs
    have hsame := h.closeSocket_live htab hbefore
    exact ⟨s, by simpa [Tabs.connect, hne] using hsame.trans hs, hown, hlive⟩

/-- Showing a tab leaves the socket of every tab live. -/
theorem Current.shown (h : p.Current) (tab : ℕ) : (p.onTab tab Tab.shown).Current := by
  intro tab' ws' hws'
  refine h tab' ws' ?_
  by_cases htab : tab' = tab
  · subst htab
    simpa [Tab.shown] using hws'
  · simpa [htab] using hws'

/-- Closing a tab leaves the socket of every tab live. -/
theorem Current.closeTab (h : p.Current) (tab : ℕ) : (p.closeTab tab).Current := by
  intro tab' ws' hws'
  by_cases htab : tab' = tab
  · subst htab
    simp [Tab.shut] at hws'
  · have hbefore : (p.tabs tab').ws = some ws' := by simpa [htab] using hws'
    obtain ⟨s, hs, hown, hlive⟩ := h tab' ws' hbefore
    exact ⟨s, (h.closeSocket_live htab hbefore).trans hs, hown, hlive⟩

/-- When a socket opens, the socket of every tab stays live. -/
theorem Current.onOpen (h : p.Current) (ws : Ws) : (p.onOpen ws).Current := by
  intro tab ws' hws'
  have hbefore : (p.tabs tab).ws = some ws' := by
    rw [onOpen_tabs] at hws'
    split at hws' <;> exact hws'
  obtain ⟨s, hs, hown, hlive⟩ := h tab ws' hbefore
  unfold Tabs.onOpen
  cases hsocket : p.sockets ws with
  | none => exact ⟨s, hs, hown, hlive⟩
  | some s' =>
    by_cases hsame : ws' = ws
    · subst hsame
      exact ⟨{ s with state := .opened }, by simp [hs], hown, .inr rfl⟩
    · exact ⟨s, by simpa [hsame] using hs, hown, hlive⟩

/-- When an exit frame arrives, the socket of every tab stays live. -/
theorem Current.onExit (h : p.Current) (ws : Ws) : (p.onExit ws).Current := by
  intro tab ws' hws'
  have hbefore : (p.tabs tab).ws = some ws' := by
    rw [onExit_tabs] at hws'
    split at hws' <;> exact hws'
  obtain ⟨s, hs, hown, hlive⟩ := h tab ws' hbefore
  unfold Tabs.onExit
  cases p.sockets ws with
  | none => exact ⟨s, hs, hown, hlive⟩
  | some s' => exact ⟨s, hs, hown, hlive⟩

/-- A socket is closed, and its tab has none. -/
theorem Current.onClose (h : p.Current) (ws : Ws) (code : ℕ) : (p.onClose ws code).Current := by
  intro tab ws' hws'
  have hbefore : (p.tabs tab).ws = some ws' ∧ ws' ≠ ws := by
    rw [onClose_tabs] at hws'
    split at hws'
    · rcases afterClose_cases code ws (p.tabs tab) with ⟨hother, heq⟩ | ⟨-, heq⟩ | ⟨-, -, -, heq⟩
      · rw [heq] at hws'
        exact ⟨hws', fun hsame => hother (hsame ▸ hws')⟩
      · rw [heq] at hws'
        cases hws'
      · rw [heq] at hws'
        cases hws'
    · next hother =>
      refine ⟨hws', fun hsame => hother ?_⟩
      obtain ⟨s, hs, hown, -⟩ := h tab ws' hws'
      rw [← hsame, Tabs.owner, hs, Option.map_some, hown]
  obtain ⟨hws, hne⟩ := hbefore
  obtain ⟨s, hs, hown, hlive⟩ := h tab ws' hws
  unfold Tabs.onClose
  cases p.sockets ws with
  | none => exact ⟨s, hs, hown, hlive⟩
  | some s' => exact ⟨s, by simpa [hne] using hs, hown, hlive⟩

end Tabs

/-- The sockets of the tabs are live after every step. -/
theorem TabsEvent.page_current {st : TabsWorld} {e : TabsEvent} (h : st.page.Current)
    (hen : e.Enabled st) : (e.page st).Current := by
  cases e with
  | openTab tab mode ws =>
    exact (h.shown tab).connect (Option.isNone_iff_eq_none.mp hen.2.1) mode
  | timer tab ws => exact h.connect (Option.isNone_iff_eq_none.mp hen.2.1) _
  | closeTab tab => exact h.closeTab tab
  | opened ws => exact h.onOpen ws
  | exitFrame ws => exact h.onExit ws
  | closed ws code => exact h.onClose ws code
  | arrive ws found | lost ws | server e => exact h

/-- A tab gets a timer only if its connection is lost, or is closed after an exit whose frame has
not come: every other code with which a socket can be closed is final. -/
theorem TabsEvent.cutsOff_of_reconnects {st : TabsWorld} {ws : Ws} {code : ℕ} {s : TabSocket}
    (hcurrent : st.page.Current) (hcoded : st.world.Coded) (hs : st.page.sockets ws = some s)
    (hclose : canClose st ws code s = true) (hreconnects : (st.page.tabs s.tab).Reconnects ws)
    (hcode : code ∉ finalCodes) : (TabsEvent.closed ws code).CutsOff st := by
  refine ⟨?_, by simpa [hs] using hreconnects⟩
  simp only [canClose, Bool.and_eq_true, Bool.or_eq_true, decide_eq_true_eq] at hclose
  rcases hclose.2 with ((hlost | hclosing) | hcall) | ⟨⟨hreject, -⟩, -⟩
  · exact .inl hlost
  · -- A socket that its tab has asked to close is not the tab's any more.
    obtain ⟨s', hs', -, hlive⟩ := hcurrent s.tab ws hreconnects.1
    obtain rfl := Option.some.inj (hs'.symm.trans hs)
    rcases hlive with hstate | hstate
    · rw [hstate] at hclosing
      cases hclosing
    · rw [hstate] at hclosing
      cases hclosing
  · have hserver := hcoded.calls ws code hcall
    simp only [serverCloseCodes, List.mem_cons, List.not_mem_nil, or_false] at hserver
    rcases hserver with hexit | hother
    · exact .inr hexit
    · refine absurd ?_ hcode
      rcases hother with rfl | rfl | rfl | rfl | rfl <;> decide
  · refine absurd ?_ hcode
    simp only [rejectCodes, List.mem_cons, List.not_mem_nil, or_false] at hreject
    rcases hreject with rfl | rfl | rfl <;> decide

/-- A step of the network or of the tabs without an action of a user gives no tab a timer, unless it
cuts a tab off. -/
theorem TabsEvent.timers_page {st : TabsWorld} {e : TabsEvent} (hcurrent : st.page.Current)
    (hcoded : st.world.Coded) (hen : e.Enabled st) (hknown : ¬e.CutsOff st)
    (htimers : ∀ tab, (st.page.tabs tab).reconnectTimer = none) (tab : ℕ) :
    ((e.page st).tabs tab).reconnectTimer = none := by
  have hupdate {t : Tab} {tab' : ℕ} (ht : t.reconnectTimer = none) :
      (Function.update st.page.tabs tab' t tab).reconnectTimer = none := by
    by_cases htab : tab = tab'
    · subst htab
      simpa using ht
    · simpa [htab] using htimers tab
  cases e with
  | openTab tab' mode ws =>
    by_cases htab : tab = tab'
    · subst htab
      simp [TabsEvent.page, Tabs.openTab]
    · simpa [TabsEvent.page, Tabs.openTab, htab] using htimers tab
  | timer tab' ws =>
    rw [TabsEvent.page, Tabs.connect_tabs]
    exact hupdate rfl
  | closeTab tab' =>
    rw [TabsEvent.page, Tabs.closeTab_tabs]
    exact hupdate rfl
  | opened ws =>
    rw [TabsEvent.page, Tabs.onOpen_tabs]
    split <;> exact htimers tab
  | exitFrame ws =>
    rw [TabsEvent.page, Tabs.onExit_tabs]
    split <;> exact htimers tab
  | closed ws code =>
    rw [TabsEvent.page, Tabs.onClose_tabs]
    split
    · next hown =>
      obtain ⟨s, hs, rfl⟩ := Option.map_eq_some_iff.mp hown
      rcases Tabs.afterClose_cases code ws (st.page.tabs s.tab) with ⟨-, heq⟩ | ⟨-, heq⟩ |
        ⟨hws, hagain, hfew, -⟩
      · rw [heq]
        exact htimers s.tab
      · rw [heq]
        exact htimers s.tab
      · obtain ⟨hunasked, hcode⟩ := not_or.mp hagain
        have hclose : canClose st ws code s = true := by simpa [Enabled, hs] using hen
        exact absurd (cutsOff_of_reconnects hcurrent hcoded hs hclose
          ⟨hws, by simpa using hunasked, hfew⟩ hcode) hknown
    · exact htimers tab
  | arrive ws found | lost ws | server e => exact htimers tab

/-! ## Without a handshake -/

section Quiet

variable {cfg : Settings} {w v : World} {ev : Event} {st : TabsWorld} {e : TabsEvent}

/-- No handshake waits for the lock. -/
def Control.NoneWaiting (c : Control) : Prop := ∀ ws mode, .route ws mode ∉ c.waiters

/-- Only a new handshake waits for the lock anew. -/
theorem Control.Move.noneWaiting {c c' : Control} {l : Label} (hm : Move cfg c l c')
    (hnone : c.NoneWaiting) (hallow : c.NoConnect l) : c'.NoneWaiting := by
  intro ws mode
  have hbefore := hnone ws mode
  cases hm <;> grind [NoConnect]

/-- What the rules other than the beginning of a handshake keep is kept by an event that begins
none. -/
theorem keeps_of_connects {inv : Control → Prop} (hs : Sound w) (hen : ev.Enabled w)
    (hconnect : ev.connects = none)
    (hmove : ∀ c l c', Move cfg c l c' → inv c → c.NoConnect l → inv c')
    (hinv : inv w.control) : inv (ev.apply cfg w).control := by
  refine @Moves.invariant _ _ _ _ (fun u => inv u.control) _ _ (hs.path hen) hinv ?_
  intro u l v hu hstep horigin
  rcases hstep.move with hm | hsame
  · refine hmove _ l _ hm hu ?_
    rintro rfl
    obtain ⟨ws, mode, found, rfl⟩ := horigin
    cases hconnect
  · rwa [hsame]

/-- Without a handshake an event creates no session. -/
theorem Event.noSpawn (hs : Sound w) (hen : ev.Enabled w) (hconnect : ev.connects = none)
    (hnone : ¬w.control.Handshaking) :
    (ev.apply cfg w).count = w.count ∧ ¬(ev.apply cfg w).control.Handshaking := by
  refine @keeps_of_connects cfg w ev (fun c => c.count = w.count ∧ ¬c.Handshaking) hs hen hconnect
    ?_ ⟨rfl, hnone⟩
  rintro c l c' hm ⟨hcount, hquiet⟩ hallow
  obtain ⟨hsame, hquiet'⟩ := hm.noSpawn hquiet hallow
  exact ⟨hsame.trans hcount, hquiet'⟩

/-- If no handshake waits when an explicit end returns, there is none afterwards. -/
theorem Event.terminates_quiet (hs : Sound w) (hen : ev.Enabled w) (hconnect : ev.connects = none)
    (hends : ev.terminates cfg w = true) (hwaiters : ∀ task ∈ w.waiters, task.socket = none) :
    ¬(ev.apply cfg w).control.Handshaking := by
  have hwaiting : (ev.apply cfg w).control.NoneWaiting := by
    refine keeps_of_connects hs hen hconnect (fun _ _ _ hm => hm.noneWaiting) ?_
    intro ws mode hmem
    have hsocket := hwaiters _ hmem
    cases hsocket
  have hfree : (ev.apply cfg w).holder = none := by
    simp only [terminates, Bool.and_eq_true, Option.isNone_iff_eq_none] at hends
    exact hends.2
  rintro (⟨ws, mode, hmem⟩ | ⟨role, ws, hrole, -⟩)
  · exact hwaiting ws mode hmem
  · rw [World.control_role, hfree] at hrole
    cases hrole

/-- No session was created after an explicit end, and no tab is about to connect and start one. -/
structure TabsWorld.Quiet (cfg : Settings) (st : TabsWorld) : Prop where
  reachable : Reachable cfg st.world
  current : st.page.Current
  restarts : st.restarts = 0
  ended : st.ended = true → st.flight = [] ∧ ¬st.world.control.Handshaking ∧
    ∀ tab, (st.page.tabs tab).reconnectTimer = none

theorem TabsWorld.Quiet.initial : TabsWorld.Quiet cfg {} :=
  ⟨.refl, nofun, rfl, fun hended => by cases hended⟩

/-- The event of an enabled step is enabled. -/
theorem TabsEvent.event_enabled (hen : e.Enabled st) (hevent : e.event st = some ev) :
    ev.Enabled st.world ∧ (ev.connects = none ∨ st.flight ≠ []) := by
  cases e with
  | arrive ws found =>
    obtain rfl := Option.some.inj hevent
    exact ⟨hen.2, .inr (List.ne_nil_of_mem hen.1)⟩
  | server e =>
    obtain rfl := Option.some.inj hevent
    exact ⟨hen.1, .inl hen.2⟩
  | _ => cases hevent

/-- The event loop is in a run of its own. -/
theorem TabsEvent.world_reachable (h : Reachable cfg st.world) (hen : e.Enabled st) :
    Reachable cfg (e.apply cfg st).world := by
  cases hevent : e.event st with
  | none => simpa [TabsEvent.apply, hevent] using h
  | some ev =>
    have henabled := (TabsEvent.event_enabled hen hevent).1
    have hreach : Reachable cfg (ev.apply cfg st.world) := Run.step ev h henabled trivial
    simpa [TabsEvent.apply, hevent] using hreach

/-- Without a user and without a timer no connection is new. -/
theorem TabsEvent.flight_nil (hen : e.Enabled st) (hflight : st.flight = [])
    (huser : e.isUser = false) (htimers : ∀ tab, (st.page.tabs tab).reconnectTimer = none) :
    e.flight st = [] := by
  cases e with
  | openTab tab mode ws => cases huser
  | timer tab ws =>
    have hpending := hen.1
    rw [htimers tab] at hpending
    cases hpending
  | arrive ws found | lost ws => simp [flight, hflight]
  | _ => exact hflight

/-- If no handshake was under way, an event of a step in which no connection arrives creates no
session, and none is under way after it. -/
theorem TabsEvent.silent (h : st.Quiet cfg) (hen : e.Enabled st) {ev : Event}
    (hevent : e.event st = some ev) (hflight : st.flight = [])
    (hnone : ¬st.world.control.Handshaking) : (ev.apply cfg st.world).count = st.world.count ∧
      ¬(ev.apply cfg st.world).control.Handshaking := by
  obtain ⟨henabled, hconnect⟩ := TabsEvent.event_enabled hen hevent
  exact Event.noSpawn h.reachable.sound henabled
    (hconnect.resolve_right (not_not.mpr hflight)) hnone

/-- The sessions that are created in a step after an explicit end. -/
theorem TabsWorld.Quiet.restarts_step (h : st.Quiet cfg) (hen : e.Enabled st) :
    (e.apply cfg st).restarts = 0 := by
  cases hended : st.ended with
  | false => simp [TabsEvent.apply, hended, h.restarts]
  | true =>
    cases hevent : e.event st with
    | none => simp [TabsEvent.apply, hended, hevent, h.restarts]
    | some ev =>
      obtain ⟨hflight, hnone, -⟩ := h.ended hended
      have hsilent := TabsEvent.silent h hen hevent hflight hnone
      simp [TabsEvent.apply, hended, hevent, h.restarts, hsilent.1]

/-- After an explicit end a step that a user does not make leaves no tab about to connect. -/
theorem TabsWorld.Quiet.ended_step (h : st.Quiet cfg) (hen : e.Enabled st)
    (hknown : KnownEnd cfg st e) (hended : (e.apply cfg st).ended = true) :
    (e.apply cfg st).flight = [] ∧ ¬(e.apply cfg st).world.control.Handshaking ∧
      ∀ tab, ((e.apply cfg st).page.tabs tab).reconnectTimer = none := by
  have hcoded := h.reachable.coded
  simp only [TabsEvent.apply, Bool.and_eq_true, Bool.not_eq_true', Bool.or_eq_true] at hended
  obtain ⟨huser, hstill | hends⟩ := hended
  · -- The session had been ended before.
    obtain ⟨hflight, hnone, htimers⟩ := h.ended hstill
    refine ⟨TabsEvent.flight_nil hen hflight huser htimers, ?_,
      TabsEvent.timers_page h.current hcoded hen (hknown.2 hstill) htimers⟩
    cases hevent : e.event st with
    | none => simpa [TabsEvent.apply, hevent] using hnone
    | some ev =>
      simpa [TabsEvent.apply, hevent] using (TabsEvent.silent h hen hevent hflight hnone).2
  · -- The explicit end returns in this step.
    obtain ⟨htimers, hflight, hwaiters⟩ := hknown.1 hends
    obtain ⟨ev, hevent, hreturns⟩ : ∃ ev, e.event st = some ev ∧
        ev.terminates cfg st.world = true := by
      cases hevent : e.event st with
      | none => simp [hevent] at hends
      | some ev => exact ⟨ev, rfl, by simpa [hevent] using hends⟩
    obtain ⟨henabled, hconnect⟩ := TabsEvent.event_enabled hen hevent
    have hquiet := Event.terminates_quiet h.reachable.sound henabled
      (hconnect.resolve_right (not_not.mpr hflight)) hreturns hwaiters
    have hpage : e.page st = st.page := by
      cases e with
      | arrive ws found | server e => rfl
      | _ => cases hevent
    refine ⟨TabsEvent.flight_nil hen hflight huser htimers, ?_, fun tab => ?_⟩
    · simpa [TabsEvent.apply, hevent] using hquiet
    · simpa [TabsEvent.apply, hpage] using htimers tab

theorem TabsWorld.Quiet.step (h : st.Quiet cfg) (hen : e.Enabled st) (hknown : KnownEnd cfg st e) :
    (e.apply cfg st).Quiet cfg :=
  ⟨TabsEvent.world_reachable h.reachable hen, TabsEvent.page_current h.current hen,
    h.restarts_step hen, h.ended_step hen hknown⟩

end Quiet

/-! ## Runs -/

/-- A step in which no explicit end returns and no tab is cut off. -/
def Uneventful (cfg : Settings) (st : TabsWorld) (e : TabsEvent) : Prop :=
  (e.event st).any (Event.terminates cfg st.world) = false ∧ ¬e.CutsOff st

instance uneventfulDecidable (cfg : Settings) (st : TabsWorld) (e : TabsEvent) :
    Decidable (Uneventful cfg st e) := inferInstanceAs (Decidable (_ ∧ _))

/-- Such a step meets the condition of the theorem. -/
theorem Uneventful.known {cfg : Settings} {st : TabsWorld} {e : TabsEvent}
    (h : Uneventful cfg st e) : KnownEnd cfg st e := by
  refine ⟨fun hends => ?_, fun _ => h.2⟩
  rw [h.1] at hends
  cases hends

end WTerm
