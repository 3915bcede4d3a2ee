import WTerm.Client.PageSteps
import WTerm.Client.Reconnect

/-!
# The connections of the page

The tabs and panes of the page together with the sockets of the tabs, in any order of what the
user does, of the timers and of the events of the sockets. No tab has two connections, and no tab
that is closed or finished connects by itself.
-/

namespace WTerm

open Transition

/-- The page and the connections of its tabs. -/
structure ConnectedPage where
  page : Page
  tabs : Tabs := {}

/-- What happens to the page. -/
inductive ConnectedEvent where
  /-- What connects nothing, among it an `openTab` that raises before it connects. -/
  | page (e : PageEvent)
  /-- `openTab`. Without a socket, `connect` raises. -/
  | openTab (name agent : PyStr) (mode : Mode) (ws : Option Ws)
  /-- The reconnect timer of a tab fires. -/
  | timer (t : TabId) (ws : Option Ws)
  | opened (ws : Ws)
  /-- A message arrives. Only an exit frame changes the tab. -/
  | message (ws : Ws) (exit : Bool)
  | closed (ws : Ws) (code : ℕ)

namespace ConnectedPage

/-- `closeTab`, with the connection. -/
def closeTab (s : ConnectedPage) (t : TabId) : ConnectedPage :=
  if (s.page.tab t).pane = none then s
  else { page := s.page.closeTab t, tabs := s.tabs.closeTab t }

/-- The page after an event that connects nothing. -/
def onPage (s : ConnectedPage) : PageEvent → ConnectedPage
  | .openTab name agent =>
    { page := s.page.openTab name agent
      tabs := s.tabs.onTab (s.page.target name agent) Tab.shown }
  | .closeTab t => s.closeTab t
  | .logout => s.page.allTabs.foldl closeTab s
  | e => { s with page := e.apply s.page }

/-- `connect`, with a new socket or without one. -/
def connect (s : ConnectedPage) (t : TabId) (mode : Mode) : Option Ws → ConnectedPage
  | some ws => { s with tabs := s.tabs.connect t mode ws }
  | none => { s with tabs := s.tabs.connectRaises t }

/-- There is no such socket yet. -/
def New (s : ConnectedPage) (ws : Option Ws) : Prop := ∀ socket ∈ ws, s.tabs.sockets socket = none

end ConnectedPage

namespace ConnectedEvent

/-- The state after an event. -/
def apply (s : ConnectedPage) : ConnectedEvent → ConnectedPage
  | .page e => s.onPage e
  | .openTab name agent mode ws =>
    (s.onPage (.openTab name agent)).connect (s.page.target name agent) mode ws
  | .timer t ws => s.connect t .continue_ ws
  | .opened ws => { s with tabs := s.tabs.onOpen ws }
  | .message ws exit => if exit then { s with tabs := s.tabs.onExit ws } else s
  | .closed ws code => { s with tabs := s.tabs.onClose ws code }

/-- When an event can happen. A socket that is closing delivers no message and is not opened any
more. -/
def Enabled (s : ConnectedPage) : ConnectedEvent → Prop
  | .page e => e.Enabled s.page
  | .openTab _ _ _ ws => s.New ws
  | .timer t ws => (s.tabs.tabs t).reconnectTimer.isSome = true ∧ s.New ws
  | .opened ws => (s.tabs.sockets ws).any (·.state = .connecting) = true
  | .message ws _ => (s.tabs.sockets ws).any (·.state = .opened) = true
  | .closed ws _ => (s.tabs.sockets ws).any (·.state ≠ .closed) = true

/-- The user makes a tab connect. -/
def UserConnects (s : ConnectedPage) (t : TabId) : ConnectedEvent → Prop
  | .openTab name agent _ _ => s.page.target name agent = t
  | _ => False

/-- The tab connects by itself. -/
def isTimer (t : TabId) : ConnectedEvent → Bool
  | .timer t' _ => decide (t' = t)
  | _ => false

/-- A socket of the tab is opened. -/
def Opens (s : ConnectedPage) (t : TabId) : ConnectedEvent → Prop
  | .opened ws => s.tabs.owner ws = some t
  | _ => False

/-- The tab, which has been made, is closed. -/
def Closes (s : ConnectedPage) (t : TabId) (e : ConnectedEvent) : Prop :=
  (e = .page (.closeTab t) ∨ e = .page .logout) ∧ t < s.page.tabCount

/-- The current socket of the tab gets an exit frame, or is closed with one of the seven codes
after which the session is over for this tab. -/
def Finishes (s : ConnectedPage) (t : TabId) : ConnectedEvent → Prop
  | .message ws exit => exit = true ∧ (s.tabs.tabs t).ws = some ws
  | .closed ws code =>
    code ∈ [4000, 4401, 4404, 4400, 4408, 4409, 4410] ∧ (s.tabs.tabs t).ws = some ws
  | _ => False

instance decidableEnabled (s : ConnectedPage) : (e : ConnectedEvent) → Decidable (e.Enabled s)
  | .page e => inferInstanceAs (Decidable (e.Enabled s.page))
  | .openTab _ _ _ ws => inferInstanceAs (Decidable (∀ socket ∈ ws, _ = none))
  | .timer _ ws => inferInstanceAs (Decidable (_ ∧ ∀ socket ∈ ws, _ = none))
  | .opened _ | .message _ _ | .closed _ _ => inferInstanceAs (Decidable (_ = true))

end ConnectedEvent

/-- The page and its connections, in any sequence of events. -/
def connectedSystem : System ConnectedPage ConnectedEvent where
  Enabled s e := e.Enabled s
  apply := ConnectedEvent.apply

instance (s : ConnectedPage) (e : ConnectedEvent) : Decidable (connectedSystem.Enabled s e) :=
  inferInstanceAs (Decidable (e.Enabled s))

namespace ConnectedPage

/-- The page after the script has run. -/
def initial (wideEnough : Bool) : ConnectedPage := { page := Page.initial wideEnough }

/-- What holds at any time. -/
structure InOrder (s : ConnectedPage) : Prop where
  page : s.page.Wired
  tabs : s.tabs.InOrder
  isOpen : ∀ t, (s.tabs.tabs t).isOpen = true ↔ (s.page.tab t).pane ≠ none
  created : ∀ t, (s.tabs.tabs t).created = true ↔ t < s.page.tabCount

/-- A tab that was made and is closed. -/
def Gone (s : ConnectedPage) (t : TabId) : Prop :=
  (s.page.tab t).pane = none ∧ t < s.page.tabCount

section

variable {s : ConnectedPage} {t u : TabId} {mode : Mode} {ws : Option Ws} {e : PageEvent}

/-! ## Events without a connection -/

/-- Everything is in order when the script has run: there is no tab yet. -/
theorem initial_inOrder (wideEnough : Bool) : (initial wideEnough).InOrder := by
  refine ⟨Page.initial_wired wideEnough, ⟨?_, ?_, ?_⟩, ?_, ?_⟩
  · rintro ws tab ⟨_, hs, -⟩
    cases hs
  · intro tab ws hws
    cases hws
  · exact fun _ => ⟨fun hws => absurd rfl hws, fun hpending => absurd rfl hpending, Nat.zero_le _⟩
  · intro t
    rw [initial, Page.initial_eq]
    simp [Page.createPane, Page.focusPane]
  · intro t
    rw [initial, Page.initial_eq]
    simp [Page.createPane, Page.focusPane]

/-- A closed tab stays as it is. -/
theorem closeTab_of_closed (ht : (s.page.tab t).pane = none) : s.closeTab t = s := if_pos ht

/-- Closing an open tab closes it on the page and in the table of the connections. -/
theorem closeTab_of_open (ht : (s.page.tab t).pane ≠ none) :
    s.closeTab t = { page := s.page.closeTab t, tabs := s.tabs.closeTab t } := if_neg ht

/-- Closing a tab with its connection keeps tabs and sockets in order. -/
theorem InOrder.closeTab (h : s.InOrder) (t : TabId) : (s.closeTab t).InOrder := by
  by_cases ht : (s.page.tab t).pane = none
  · rw [closeTab_of_closed ht]
    exact h
  · rw [closeTab_of_open ht]
    refine ⟨h.page.closeTab t, h.tabs.closeTab t, fun u => ?_, fun u => ?_⟩
    · rw [Ne, h.page.closeTab_closed_iff]
      by_cases hut : u = t
      · subst hut
        simp [Tab.shut]
      · simpa [hut] using h.isOpen u
    · rw [h.page.closeTab_tabCount]
      by_cases hut : u = t
      · subst hut
        simpa [Tab.shut] using h.created u
      · simpa [hut] using h.created u

/-- What closing tabs does: a tab stays as it is, or it is closed. -/
structure Closes (s s' : ConnectedPage) : Prop where
  tabCount : s'.page.tabCount = s.page.tabCount
  owner : s'.tabs.owner = s.tabs.owner
  closed : ∀ t, (s.page.tab t).pane = none → (s'.page.tab t).pane = none
  tabs : ∀ t, s'.tabs.tabs t = s.tabs.tabs t ∨ s'.tabs.tabs t = (s.tabs.tabs t).shut

/-- A page on which no tab is closed: every tab stays as it is. -/
theorem Closes.refl (s : ConnectedPage) : Closes s s := ⟨rfl, rfl, fun _ => id, fun _ => Or.inl rfl⟩

/-- Closing some tabs and then more of them is closing tabs. -/
theorem Closes.trans {s' s'' : ConnectedPage} (h : Closes s s') (h' : Closes s' s'') :
    Closes s s'' where
  tabCount := h'.tabCount.trans h.tabCount
  owner := h'.owner.trans h.owner
  closed t ht := h'.closed t (h.closed t ht)
  tabs t := by
    rcases h.tabs t with hsame | hshut
    · rw [← hsame]
      exact h'.tabs t
    · rcases h'.tabs t with hsame' | hshut'
      · exact Or.inr (hsame'.trans hshut)
      · rw [hshut', hshut]
        exact Or.inr rfl

/-- Closing one tab leaves the others alone, and that tab is in no pane then. -/
theorem InOrder.closes (h : s.InOrder) (t : TabId) :
    Closes s (s.closeTab t) ∧ ((s.closeTab t).page.tab t).pane = none := by
  by_cases ht : (s.page.tab t).pane = none
  · rw [closeTab_of_closed ht]
    exact ⟨.refl s, ht⟩
  · rw [closeTab_of_open ht]
    refine ⟨⟨h.page.closeTab_tabCount t, Tabs.closeTab_owner _ t, fun u hu => ?_, fun u => ?_⟩, ?_⟩
    · exact (h.page.closeTab_closed_iff t u).mpr (Or.inl hu)
    · by_cases hut : u = t
      · subst hut
        exact Or.inr (by simp)
      · exact Or.inl (by simp [hut])
    · exact (h.page.closeTab_closed_iff t t).mpr (Or.inr rfl)

/-- Closing the tabs of a list one after another keeps everything in order and leaves each of them
closed. -/
theorem InOrder.closeTabs (h : s.InOrder) (l : List TabId) :
    (l.foldl ConnectedPage.closeTab s).InOrder ∧ Closes s (l.foldl ConnectedPage.closeTab s) ∧
      ∀ t ∈ l, ((l.foldl ConnectedPage.closeTab s).page.tab t).pane = none := by
  induction l generalizing s with
  | nil => exact ⟨h, .refl s, fun _ ht => absurd ht List.not_mem_nil⟩
  | cons first rest ih =>
    obtain ⟨hcloses, hfirst⟩ := h.closes first
    obtain ⟨hinv, hrest, hclosed⟩ := ih (h.closeTab first)
    refine ⟨hinv, hcloses.trans hrest, fun t ht => ?_⟩
    rcases List.mem_cons.mp ht with rfl | ht
    · exact hrest.closed t hfirst
    · exact hclosed t ht

/-- What an event without a connection does: no socket is created, and a tab is shown or closed or
stays as it is. -/
structure Quiet (s s' : ConnectedPage) : Prop where
  owner : s'.tabs.owner = s.tabs.owner
  gone : ∀ t, s.Gone t → s'.Gone t
  tabs : ∀ t, (s.tabs.tabs t).Change (s'.tabs.tabs t)

/-- Closing any number of tabs creates no socket and shows no tab. -/
theorem Closes.quiet {s' : ConnectedPage} (h : Closes s s') : Quiet s s' where
  owner := h.owner
  gone t ht := ⟨h.closed t ht.1, h.tabCount ▸ ht.2⟩
  tabs t := by
    rcases h.tabs t with heq | heq
    · exact heq ▸ .same
    · exact heq ▸ .shut

/-- The panes change, and the tabs stay open or closed. -/
theorem InOrder.setPage (h : s.InOrder) {page : Page} (hwired : page.Wired)
    (hsame : Page.SameOpen s.page page) :
    InOrder { s with page := page } ∧ Quiet s { s with page := page } := by
  refine ⟨⟨hwired, h.tabs, fun t => ?_, fun t => ?_⟩, rfl, fun t ht => ⟨?_, ?_⟩, fun t => .same⟩
  · exact (h.isOpen t).trans (not_congr (hsame.closed_iff t).symm)
  · rw [hsame.tabCount]
    exact h.created t
  · exact (hsame.closed_iff t).mpr ht.1
  · exact hsame.tabCount.symm ▸ ht.2

/-- The tab that is opened is not a closed one. -/
theorem InOrder.target_ne (h : s.InOrder) (ht : s.Gone t) (name agent : PyStr) :
    s.page.target name agent ≠ t := by
  rintro rfl
  rcases h.page.openTab_tabCount name agent with ⟨hopen, -⟩ | ⟨hnew, -⟩
  · exact hopen ht.1
  · exact Nat.lt_irrefl _ (hnew ▸ ht.2)

/-- Who opens a tab on the page with a new connection takes a step that is also possible in the
system of the tabs and the event loop of a session: the tab is new or open, and the sockets change
alike in both. -/
theorem InOrder.openTab_allowed (h : s.InOrder) {st : TabsWorld} (hpage : st.page = s.tabs)
    (name agent : PyStr) (mode : Mode) {ws : Ws} (hnew : s.tabs.sockets ws = none)
    (hfresh : st.world.routes ws = .absent) (cfg : Settings) :
    (TabsEvent.openTab (s.page.target name agent) mode ws).Enabled st ∧
      ((TabsEvent.openTab (s.page.target name agent) mode ws).apply cfg st).page =
        ((ConnectedEvent.openTab name agent mode (some ws)).apply s).tabs := by
  refine ⟨⟨?_, ?_, hfresh⟩, ?_⟩
  · rw [hpage]
    rcases h.page.openTab_tabCount name agent with ⟨hopen, -⟩ | ⟨hcount, -⟩
    · exact Or.inr ((h.isOpen _).mpr hopen)
    · refine Or.inl (Bool.eq_false_iff.mpr fun hcreated => ?_)
      exact Nat.lt_irrefl _ (hcount ▸ (h.created _).mp hcreated)
  · rw [hpage, hnew]
    rfl
  · change st.page.openTab _ mode ws = _
    rw [hpage]
    rfl

/-- Showing a tab, before it is connected, keeps everything in order and creates no socket. -/
theorem InOrder.openTab (h : s.InOrder) (name agent : PyStr) :
    (s.onPage (.openTab name agent)).InOrder ∧ Quiet s (s.onPage (.openTab name agent)) := by
  have hclosed := h.page.openTab_closed_iff name agent
  have hcount := h.page.openTab_tabCount name agent
  refine ⟨⟨h.page.openTab name agent, h.tabs.shown _, fun t => ?_, fun t => ?_⟩, rfl,
    fun t ht => ⟨?_, ?_⟩, fun t => ?_⟩
  · by_cases ht : t = s.page.target name agent
    · simp [onPage, hclosed, ht, Tab.shown]
    · simpa [onPage, hclosed, ht] using h.isOpen t
  · by_cases ht : t = s.page.target name agent
    · simp only [onPage, ht, Tabs.onTab_tabs, Function.update_self, Tab.shown, true_iff]
      rcases hcount with ⟨hopen, hsame⟩ | ⟨hnew, hmore⟩
      · exact hsame ▸ h.page.created _ hopen
      · rw [hnew, hmore]
        exact Nat.lt_succ_self _
    · simp only [onPage, Tabs.onTab_tabs, Function.update_of_ne ht, h.created t]
      rcases hcount with ⟨-, hsame⟩ | ⟨hnew, hmore⟩
      · rw [hsame]
      · have hne : t ≠ s.page.tabCount := hnew ▸ ht
        rw [hmore]
        exact ⟨Nat.lt_succ_of_lt, fun hlt => Nat.lt_of_le_of_ne (Nat.lt_succ_iff.mp hlt) hne⟩
  · exact (hclosed t).mpr ⟨ht.1, (h.target_ne ht name agent).symm⟩
  · rcases hcount with ⟨-, hsame⟩ | ⟨-, hmore⟩
    · exact hsame.symm ▸ ht.2
    · exact hmore.symm ▸ Nat.lt_succ_of_lt ht.2
  · by_cases ht : t = s.page.target name agent
    · simpa [onPage, ht] using Tab.Change.shown
    · simpa [onPage, ht] using Tab.Change.same

/-- An event of the page without a connection keeps everything in order and creates no socket. -/
theorem InOrder.onPage (h : s.InOrder) (hen : e.Enabled s.page) :
    (s.onPage e).InOrder ∧ Quiet s (s.onPage e) := by
  cases e with
  | openTab name agent => exact h.openTab name agent
  | closeTab t => exact ⟨h.closeTab t, (h.closes t).1.quiet⟩
  | logout =>
    obtain ⟨hinv, hcloses, -⟩ := h.closeTabs s.page.allTabs
    exact ⟨hinv, hcloses.quiet⟩
  | _ =>
    exact h.setPage (PageEvent.apply_wired h.page hen)
      (PageEvent.apply_sameOpen h.page hen (by simp) (by simp) (by simp))

/-- Closing a tab closes it on the page. -/
theorem closeTab_page (s : ConnectedPage) (t : TabId) :
    (s.closeTab t).page = s.page.closeTab t := by
  by_cases ht : (s.page.tab t).pane = none
  · rw [closeTab_of_closed ht, Page.closeTab_of_closed ht]
  · rw [closeTab_of_open ht]

/-- Closing tabs closes them on the page. -/
theorem closeTabs_page (s : ConnectedPage) (l : List TabId) :
    (l.foldl ConnectedPage.closeTab s).page = l.foldl Page.closeTab s.page := by
  induction l generalizing s with
  | nil => rfl
  | cons first rest ih => rw [List.foldl_cons, List.foldl_cons, ih, closeTab_page]

/-- The tabs and panes change as they do without connections. -/
theorem onPage_page (s : ConnectedPage) (e : PageEvent) : (s.onPage e).page = e.apply s.page := by
  cases e with
  | closeTab t => exact closeTab_page s t
  | logout => exact closeTabs_page s s.page.allTabs
  | _ => rfl

/-! ## Events of connections -/

/-- Connecting a tab does not change the panes. -/
@[simp]
theorem connect_page (s : ConnectedPage) (t : TabId) (mode : Mode) (ws : Option Ws) :
    (s.connect t mode ws).page = s.page := by
  cases ws <;> rfl

/-- Connecting a tab leaves the other tabs as they are. -/
theorem connect_tabs_of_ne (s : ConnectedPage) (mode : Mode) (ws : Option Ws) (hut : u ≠ t) :
    (s.connect t mode ws).tabs.tabs u = s.tabs.tabs u := by
  cases ws <;> simp [ConnectedPage.connect, hut]

/-- A tab that is connected waits for no timer, and its attempts stay counted. -/
theorem connect_tabs_self (s : ConnectedPage) (t : TabId) (mode : Mode) (ws : Option Ws) :
    ((s.connect t mode ws).tabs.tabs t).reconnectTimer = none ∧
      ((s.connect t mode ws).tabs.tabs t).reconnectAttempts =
        (s.tabs.tabs t).reconnectAttempts := by
  cases ws <;> simp [ConnectedPage.connect]

/-- The connections change, and the tabs stay open or closed. -/
theorem InOrder.setTabs (h : s.InOrder) {tabs : Tabs} (hinv : tabs.InOrder)
    (hsame : ∀ t, (tabs.tabs t).isOpen = (s.tabs.tabs t).isOpen ∧
      (tabs.tabs t).created = (s.tabs.tabs t).created) : InOrder { s with tabs := tabs } where
  page := h.page
  tabs := hinv
  isOpen t := by
    rw [(hsame t).1]
    exact h.isOpen t
  created t := by
    rw [(hsame t).2]
    exact h.created t

/-- A tab that is open is connected. -/
theorem InOrder.connect (h : s.InOrder) (ht : (s.page.tab t).pane ≠ none) (hnew : s.New ws)
    (mode : Mode) : (s.connect t mode ws).InOrder := by
  cases ws with
  | none =>
    refine h.setTabs (h.tabs.connectRaises t) fun u => ?_
    by_cases hut : u = t
    · simp [hut]
    · simp [hut]
  | some ws =>
    refine h.setTabs (h.tabs.connect ((h.isOpen t).mpr ht) (hnew ws rfl) mode) fun u => ?_
    by_cases hut : u = t
    · simp [hut]
    · simp [hut]

/-- A handler of a socket changes neither whether a tab is open nor whether it exists. -/
theorem InOrder.handler (h : s.InOrder) {tabs : Tabs} {ws : Ws} {f : Tab → Tab}
    (hinv : tabs.InOrder)
    (htabs : ∀ t, tabs.tabs t = if s.tabs.owner ws = some t then f (s.tabs.tabs t)
      else s.tabs.tabs t)
    (hf : ∀ t : Tab, (f t).isOpen = t.isOpen ∧ (f t).created = t.created) :
    InOrder { s with tabs := tabs } := by
  refine h.setTabs hinv fun t => ?_
  rw [htabs]
  split
  · exact hf _
  · exact ⟨rfl, rfl⟩

end

end ConnectedPage

namespace ConnectedEvent

open ConnectedPage

section

variable {s : ConnectedPage} {t : TabId} {e : ConnectedEvent}

/-- Every event that can happen keeps tabs, panes and sockets in order. -/
theorem apply_inOrder (h : s.InOrder) (hen : e.Enabled s) : (e.apply s).InOrder := by
  cases e with
  | page e => exact (h.onPage hen).1
  | openTab name agent mode ws =>
    have hopen := h.page.openTab_closed_iff name agent (s.page.target name agent)
    refine (h.openTab name agent).1.connect ?_ hen mode
    exact fun hnone => (hopen.mp hnone).2 rfl
  | timer t ws =>
    have hpending := (h.tabs.tabs t).timer (Option.isSome_iff_ne_none.mp hen.1)
    exact h.connect ((h.isOpen t).mp hpending.2.1) hen.2 .continue_
  | opened ws =>
    exact h.handler (f := fun t => { t with reconnectAttempts := 0 }) (h.tabs.onOpen hen)
      (Tabs.onOpen_tabs s.tabs ws) fun _ => ⟨rfl, rfl⟩
  | message ws exit =>
    cases exit with
    | false => exact h
    | true =>
      exact h.handler (f := fun t => { t with intentionalClose := true }) (h.tabs.onExit ws)
        (Tabs.onExit_tabs s.tabs ws) fun _ => ⟨rfl, rfl⟩
  | closed ws code =>
    refine h.handler (f := Tabs.afterClose code ws) (h.tabs.onClose ws code)
      (Tabs.onClose_tabs s.tabs ws code) fun t => ?_
    rcases Tabs.afterClose_cases code ws t with ⟨-, heq⟩ | ⟨-, heq⟩ | ⟨-, -, -, heq⟩
    · simp [heq]
    · simp [heq]
    · simp [heq]

/-- The tab that an event connects. -/
def connects (s : ConnectedPage) : ConnectedEvent → Option TabId
  | .openTab name agent _ _ => some (s.page.target name agent)
  | .timer t _ => some t
  | _ => none

/-- No socket of the tab is created between two states. -/
def NoneCreated (t : TabId) (s s' : ConnectedPage) : Prop :=
  ∀ ws, s'.tabs.owner ws = some t → s.tabs.owner ws = some t

/-- A socket is created for the tab that an event connects only. -/
theorem noneCreated_apply (h : s.InOrder) (hen : e.Enabled s) (hne : e.connects s ≠ some t) :
    NoneCreated t s (e.apply s) := by
  have hconnect : ∀ (s' : ConnectedPage) (u : TabId) (mode : Mode) (ws : Option Ws), u ≠ t →
      NoneCreated t s' (s'.connect u mode ws) := by
    intro s' u mode ws hut ws' howner
    cases ws with
    | none => simpa [ConnectedPage.connect] using howner
    | some ws =>
      by_cases hws : ws' = ws
      · simp [ConnectedPage.connect, hws, hut] at howner
      · simpa [ConnectedPage.connect, hws] using howner
  intro ws' howner
  cases e with
  | page e => exact (h.onPage hen).2.owner ▸ howner
  | openTab name agent mode ws =>
    have hut : s.page.target name agent ≠ t := fun heq => hne (congrArg some heq)
    exact (h.openTab name agent).2.owner ▸ hconnect _ _ mode ws hut ws' howner
  | timer u ws => exact hconnect s u .continue_ ws (fun heq => hne (congrArg some heq)) ws' howner
  | opened ws => simpa [apply] using howner
  | message ws exit =>
    cases exit with
    | false => exact howner
    | true => simpa [apply] using howner
  | closed ws code => simpa [apply] using howner

/-- A closed tab stays closed, and is not connected. -/
theorem gone_apply (h : s.InOrder) (hen : e.Enabled s) (ht : s.Gone t) :
    (e.apply s).Gone t ∧ e.connects s ≠ some t := by
  cases e with
  | page e => exact ⟨(h.onPage hen).2.gone t ht, by simp [connects]⟩
  | openTab name agent mode ws =>
    have hgone := (h.openTab name agent).2.gone t ht
    refine ⟨by simpa [apply, Gone] using hgone, ?_⟩
    exact fun heq => h.target_ne ht name agent (Option.some.inj heq)
  | timer u ws =>
    refine ⟨by simpa [apply, Gone] using ht, fun heq => ?_⟩
    have hpending := (h.tabs.tabs u).timer (Option.isSome_iff_ne_none.mp hen.1)
    exact (h.isOpen u).mp hpending.2.1 (Option.some.inj heq ▸ ht.1)
  | opened ws | closed ws code => exact ⟨ht, by simp [connects]⟩
  | message ws exit =>
    cases exit with
    | false => exact ⟨ht, by simp [connects]⟩
    | true => exact ⟨ht, by simp [connects]⟩

/-- A tab that is closed is gone. -/
theorem gone_of_closes (h : s.InOrder) (hcloses : e.Closes s t) : (e.apply s).Gone t := by
  obtain ⟨rfl | rfl, ht⟩ := hcloses
  · obtain ⟨hcloses, hclosed⟩ := h.closes t
    exact ⟨hclosed, hcloses.tabCount.symm ▸ ht⟩
  · obtain ⟨-, hcloses, hclosed⟩ := h.closeTabs s.page.allTabs
    refine ⟨?_, hcloses.tabCount.symm ▸ ht⟩
    by_cases hopen : (s.page.tab t).pane = none
    · exact hcloses.closed t hopen
    · exact hclosed t (h.page.mem_allTabs.mpr hopen)

/-- An event that does not connect a tab changes it in one of five ways, or opens its socket and
forgets its attempts. -/
theorem apply_tab (h : s.InOrder) (hen : e.Enabled s) (hne : e.connects s ≠ some t) :
    (s.tabs.tabs t).Change ((e.apply s).tabs.tabs t) ∨
      e.Opens s t ∧ (e.apply s).tabs.tabs t = { s.tabs.tabs t with reconnectAttempts := 0 } := by
  cases e with
  | page e => exact Or.inl ((h.onPage hen).2.tabs t)
  | openTab name agent mode ws =>
    have hother : t ≠ s.page.target name agent := fun heq => hne (congrArg some heq.symm)
    rw [apply, connect_tabs_of_ne _ _ _ hother]
    exact Or.inl ((h.openTab name agent).2.tabs t)
  | timer u ws =>
    have hother : t ≠ u := fun heq => hne (congrArg some heq.symm)
    rw [apply, connect_tabs_of_ne _ _ _ hother]
    exact Or.inl .same
  | opened ws =>
    rw [apply, Tabs.onOpen_tabs]
    split
    · next hopens => exact Or.inr ⟨hopens, rfl⟩
    · exact Or.inl .same
  | message ws exit =>
    cases exit with
    | false => exact Or.inl .same
    | true =>
      rw [apply, if_pos rfl, Tabs.onExit_tabs]
      split
      · exact Or.inl .exit
      · exact Or.inl .same
  | closed ws code =>
    rw [apply, Tabs.onClose_tabs]
    split
    · exact Or.inl (.closed code ws)
    · exact Or.inl .same

/-- A finished tab stays finished, and is not connected, until the user connects it. -/
theorem finished_apply (h : s.InOrder) (hen : e.Enabled s) (hfin : (s.tabs.tabs t).Finished)
    (huser : ¬e.UserConnects s t) :
    ((e.apply s).tabs.tabs t).Finished ∧ e.connects s ≠ some t := by
  have hne : e.connects s ≠ some t := by
    cases e with
    | openTab name agent mode ws => exact fun heq => huser (Option.some.inj heq)
    | timer u ws =>
      rintro ⟨rfl⟩
      exact Option.isSome_iff_ne_none.mp hen.1 hfin.1
    | _ => simp [connects]
  refine ⟨?_, hne⟩
  rcases apply_tab h hen hne with hchange | ⟨-, hopened⟩
  · exact hfin.change hchange
  · rw [hopened]
    exact hfin

/-- A tab is finished by an exit frame and by a final code. -/
theorem finished_of_finishes (h : s.InOrder) (hfin : e.Finishes s t) :
    ((e.apply s).tabs.tabs t).Finished := by
  cases e with
  | message ws exit =>
    obtain ⟨rfl, hws⟩ := hfin
    rw [apply, if_pos rfl, Tabs.onExit_tabs, if_pos (h.tabs.owner t ws hws)]
    exact ⟨(h.tabs.tabs t).timer_none hws, fun _ => rfl⟩
  | closed ws code =>
    obtain ⟨hcode, hws⟩ := hfin
    rw [apply, Tabs.onClose_tabs, if_pos (h.tabs.owner t ws hws)]
    exact (h.tabs.tabs t).finished_of_final hws hcode
  | _ => exact hfin.elim

/-- A timer that fires is an attempt, and until a socket is opened no attempt is forgotten. -/
theorem retries_apply (h : s.InOrder) (hen : e.Enabled s) (hopens : ¬e.Opens s t) :
    (s.tabs.tabs t).retries + (if e.isTimer t then 1 else 0) ≤
      ((e.apply s).tabs.tabs t).retries := by
  by_cases hconnects : e.connects s = some t
  · cases e with
    | openTab name agent mode ws =>
      obtain rfl : s.page.target name agent = t := Option.some.inj hconnects
      have hquiet := (h.openTab name agent).2.tabs (s.page.target name agent)
      obtain ⟨hnone, hattempts⟩ := connect_tabs_self (s.onPage (.openTab name agent))
        (s.page.target name agent) mode ws
      rw [apply, Tab.retries_of_timer_none hnone, hattempts]
      exact Nat.le_trans ((h.tabs.tabs _).retries_change hquiet) (Tab.retries_le _)
    | timer u ws =>
      obtain rfl : u = t := Option.some.inj hconnects
      obtain ⟨hnone, hattempts⟩ := connect_tabs_self s u .continue_ ws
      have hfires := (h.tabs.tabs u).retries_timer (Option.isSome_iff_ne_none.mp hen.1)
      rw [apply, Tab.retries_of_timer_none hnone, hattempts]
      simp [isTimer, hfires]
    | _ => cases hconnects
  · have hother : e.isTimer t = false := by
      cases e with
      | timer u ws => simpa [isTimer] using fun heq => hconnects (congrArg some heq)
      | _ => rfl
    rw [hother]
    rcases apply_tab h hen hconnects with hchange | ⟨hopened, -⟩
    · exact (h.tabs.tabs t).retries_change hchange
    · exact absurd hopened hopens

/-! ## Runs -/

/-- If no event connects the tab while a condition on the state lasts, no socket is created for it.
-/
theorem noneCreated_run {lasts : ConnectedPage → Prop}
    {cond : ConnectedPage → ConnectedEvent → Prop} {s' : ConnectedPage}
    (hlasts : ∀ s e, InOrder s → Enabled s e → lasts s → cond s e →
      lasts (apply s e) ∧ connects s e ≠ some t)
    (h : s.InOrder) (hs : lasts s) (hrun : Run connectedSystem cond s s') :
    s'.InOrder ∧ lasts s' ∧ NoneCreated t s s' := by
  induction hrun with
  | refl => exact ⟨h, hs, fun _ => id⟩
  | @step s' e hrun hen hcond ih =>
    obtain ⟨h', hs', hnone⟩ := ih
    obtain ⟨hafter, hne⟩ := hlasts s' e h' hen hs' hcond
    exact ⟨apply_inOrder h' hen, hafter,
      fun ws howner => hnone ws (noneCreated_apply h' hen hne ws howner)⟩

/-- While no socket of a tab is opened, the timers that fire are attempts of the tab. -/
theorem retries_exec {events : List ConnectedEvent} (h : s.InOrder)
    (hvalid : (connectedSystem.guarded fun s e => ¬e.Opens s t).Valid s events) :
    (s.tabs.tabs t).retries + events.countP (isTimer t) ≤ maxReconnectAttempts := by
  induction events generalizing s with
  | nil => exact Nat.le_trans (s.tabs.tabs t).retries_le (h.tabs.tabs t).attempts
  | cons e rest ih =>
    obtain ⟨⟨hen, hopens⟩, hrest⟩ := hvalid
    have hstep := retries_apply h hen hopens
    have hlater := ih (apply_inOrder h hen) hrest
    rw [List.countP_cons]
    change ((apply s e).tabs.tabs t).retries + _ ≤ _ at hlater
    omega

end

end ConnectedEvent

open ConnectedPage ConnectedEvent

/-- Without its connections, a run of the page is one of its tabs and panes. -/
theorem page_run {wideEnough : Bool} {s : ConnectedPage}
    (hrun : Run connectedSystem (fun _ _ => True) (initial wideEnough) s) :
    Run pageSystem (fun _ _ => True) (Page.initial wideEnough) s.page := by
  induction hrun with
  | refl => exact .refl
  | @step s e hrun hen _ ih =>
    cases e with
    | page e =>
      have hstep := Run.step e ih hen trivial
      exact (onPage_page s e).symm ▸ hstep
    | openTab name agent mode ws =>
      have hstep := Run.step (PageEvent.openTab name agent) ih trivial trivial
      have hpage := connect_page (s.onPage (.openTab name agent)) (s.page.target name agent) mode ws
      exact (hpage.trans (onPage_page s _)).symm ▸ hstep
    | timer t ws => exact (connect_page s t .continue_ ws).symm ▸ ih
    | opened ws | closed ws code => exact ih
    | message ws exit =>
      cases exit with
      | false => exact ih
      | true => exact ih

/-- In every run, tabs and sockets are in order. -/
theorem inOrder_of_run {wideEnough : Bool} {s : ConnectedPage}
    (hrun : Run connectedSystem (fun _ _ => True) (initial wideEnough) s) : s.InOrder :=
  hrun.invariant (initial_inOrder wideEnough) fun _ _ h hen _ => apply_inOrder h hen

/-- A tab never has two connections, and does not connect by itself once it is closed or finished,
nor more than a number of times. -/
structure ConnectedPage.OneConnection (s : ConnectedPage) (t : TabId) : Prop where
  live : ∀ ws, s.tabs.Live ws t → (s.tabs.tabs t).ws = some ws
  timer : (s.tabs.tabs t).reconnectTimer ≠ none →
    (s.tabs.tabs t).ws = none ∧ (s.page.tab t).pane ≠ none
  closed : ∀ (e : ConnectedEvent) (s' : ConnectedPage), e.Enabled s → e.Closes s t →
    Run connectedSystem (fun _ _ => True) (e.apply s) s' → NoneCreated t (e.apply s) s'
  finished : ∀ (e : ConnectedEvent) (s' : ConnectedPage), e.Enabled s → e.Finishes s t →
    Run connectedSystem (fun s e => ¬e.UserConnects s t) (e.apply s) s' →
      NoneCreated t (e.apply s) s'
  retries : ∀ events, (connectedSystem.guarded fun s e => ¬e.Opens s t).Valid s events →
    events.countP (isTimer t) ≤ 20

/-- In every state of every run, no tab has two connections or connects by itself when it must
not. -/
theorem one_connection {wideEnough : Bool} {s : ConnectedPage}
    (hrun : Run connectedSystem (fun _ _ => True) (initial wideEnough) s) (t : TabId) :
    s.OneConnection t := by
  have h := inOrder_of_run hrun
  refine ⟨fun ws => h.tabs.live ws t, fun hpending => ?_, fun e s' hen hcloses hafter => ?_,
    fun e s' hen hfinishes hafter => ?_, fun events hvalid => ?_⟩
  · obtain ⟨hnone, hopen, -⟩ := (h.tabs.tabs t).timer hpending
    exact ⟨hnone, (h.isOpen t).mp hopen⟩
  · have hgone := gone_of_closes h hcloses
    have hlasts := @noneCreated_run _ t (fun s => s.Gone t) _ s'
      (fun _ _ h hen hgone _ => gone_apply h hen hgone) (apply_inOrder h hen) hgone hafter
    exact hlasts.2.2
  · have hfinished := finished_of_finishes h hfinishes
    have hlasts := @noneCreated_run _ t (fun s => (s.tabs.tabs t).Finished) _ s'
      (fun _ _ h hen hfin huser => finished_apply h hen hfin huser) (apply_inOrder h hen) hfinished
      hafter
    exact hlasts.2.2
  · have hle := retries_exec h hvalid
    change _ ≤ maxReconnectAttempts
    omega

/-- A tab loses its connection, connects again by itself, and the user connects it once more before
the second socket is opened. -/
def reconnectedTab : List ConnectedEvent :=
  [.openTab [112] [] .attach (some 0), .opened 0, .closed 0 1006, .timer 0 (some 1),
    .openTab [112] [] .resume (some 2), .closed 1 1006, .opened 2]

/-- The hypothesis holds of such a tab, whose connection is the third socket. -/
theorem one_connection_reconnected :
    let s := connectedSystem.exec (initial true) reconnectedTab
    (s.tabs.tabs 0).ws = some 2 ∧ s.tabs.owner 1 = some 0 ∧ s.OneConnection 0 :=
  ⟨by decide, by decide, one_connection (System.Valid.run connectedSystem (by decide)) 0⟩

end WTerm
