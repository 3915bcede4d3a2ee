import WTerm.Client.ShownSteps

/-!
# The view in a run

Searches, bells and the theme change no tab and no pane. With them every event is covered, and from
the page that the script leaves behind the view shows the page after every sequence of events.
-/

namespace WTerm

open Transition

namespace View

section

variable {v : View} {t : TabId} {p q : PaneId}

/-! ## Closing all tabs, and going through them -/

/-- Closing tabs one after another keeps what holds of the view. -/
theorem Shows.closeTabs (h : v.Shows) (l : List TabId) : (l.foldl View.closeTab v).Shows := by
  induction l generalizing v with
  | nil => exact h
  | cons first rest ih => exact ih (h.closeTab first)

/-- No tab is active after the logout. -/
theorem closeAll_activeTab (h : v.page.Wired) : v.page.closeAll.activeTab = none := by
  obtain ⟨hwired, hcloses, hclosed⟩ := h.closeTabs v.page.allTabs
  refine hwired.activeTab_none fun t => ?_
  by_cases hopen : (v.page.tab t).pane = none
  · exact hcloses.closed t hopen
  · exact hclosed t (h.mem_allTabs.mpr hopen)

/-- The logout, which closes every tab, keeps what holds of the view. -/
theorem Shows.closeAll (h : v.Shows) : v.closeAll.Shows := by
  have hshows := h.closeTabs v.page.allTabs
  have hpage := closeAll_page v
  have hnone := closeAll_activeTab h.page
  rw [← hpage] at hnone
  have hline : (v.page.allTabs.foldl View.closeTab v).line = .idle := by
    rw [hshows.line]
    exact congrArg (fun active => Option.elim active _ _) hnone
  have hsame : v.closeAll = v.page.allTabs.foldl View.closeTab v := by
    unfold View.closeAll
    rw [← hline]
  rw [hsame]
  exact hshows

/-- The shortcut for the next tab keeps what holds of the view. -/
theorem Shows.cycle (h : v.Shows) (delta : ℤ) : (v.cycle delta).Shows := by
  unfold View.cycle
  split
  · exact h
  · dsimp only
    split
    · exact h
    · split
      · exact h.activateTab _
      · exact h

/-! ## Searches -/

/-- A search puts the highlights of a pane in order. -/
theorem Settled.searched (h : v.Settled) (hlayout : v.LaidOut) (hlight : v.HighlightsBut (· = p))
    (hp : p ∈ v.page.panes) : (v.searched p).Shows :=
  ⟨h.setHighlights _, hlayout.congr rfl rfl,
    (hlight.searched h.page hp).weaken fun _ hq => hq.2 hq.1⟩

/-- A search where everything is in order. -/
theorem Shows.searched (h : v.Shows) (hp : p ∈ v.page.panes) : (v.searched p).Shows :=
  h.toSettled.searched h.layout (h.highlights.weaken fun _ => False.elim) hp

/-- The text in a search bar changes. -/
theorem Shows.input (h : v.Shows) (hp : p ∈ v.page.panes)
    (hopen : (v.page.pane p).searchHidden = false) (text : PyStr) : (v.input p text).Shows := by
  unfold View.input
  rw [runSearch_eq (v := { v with query := Function.update v.query p text }) (h.page.shows p hp)
    hopen]
  have hsettled : ({ v with query := Function.update v.query p text } : View).Settled :=
    ⟨⟨h.page, h.named, h.titled⟩, h.hash, h.line, h.paints.congr rfl rfl, h.ctrl⟩
  refine hsettled.searched (h.layout.congr rfl rfl) ?_ hp
  intro t q ht hqp hlit
  obtain ⟨hactive, hshown, hquery⟩ := h.highlights t q ht not_false hlit
  refine ⟨hactive, hshown, ?_⟩
  change Function.update v.query p text q ≠ []
  rwa [Function.update_of_ne hqp]

/-- The buttons of an open search bar keep what holds of the view. -/
theorem Shows.runSearch (h : v.Shows) (hp : p ∈ v.page.panes)
    (hopen : (v.page.pane p).searchHidden = false) : (v.runSearch p).Shows := by
  rw [runSearch_eq (h.page.shows p hp) hopen]
  exact h.searched hp

/-- The theme changes, and the open searches are made again. -/
theorem Shows.refreshOpenSearches (h : v.Shows) : v.refreshOpenSearches.Shows := by
  have hloop : ∀ (l : List PaneId) (w : View), w.Shows → (∀ p ∈ l, p ∈ w.page.panes) →
      (l.foldl View.refreshPaneSearch w).Shows := by
    intro l
    induction l with
    | nil => exact fun w hw _ => hw
    | cons first rest ih =>
      intro w hw hmem
      have hfirst := hmem first List.mem_cons_self
      refine ih _ ?_ fun p hp => ?_
      · rw [refreshPaneSearch_eq (hw.page.shows first hfirst)]
        exact hw.searched hfirst
      · rw [refreshPaneSearch_page]
        exact hmem p (List.mem_cons_of_mem _ hp)
  exact hloop _ v h fun p hp => List.mem_of_mem_filter hp

/-- Opening a search bar keeps what holds of the view. -/
theorem Shows.openSearch (h : v.Shows) (hp : p ∈ v.page.panes) : (v.openSearch p).Shows := by
  unfold View.openSearch
  split
  · exact h
  · next hactive =>
    have hpage : v.page.openSearch p =
        v.page.onPane p fun pane => { pane with searchHidden := false } := if_neg hactive
    have hsame := Page.sameLook_search v.page p false
    have hshows : (v.setPage (v.page.openSearch p)).Shows := by
      rw [hpage]
      refine ⟨h.toSettled.sameLook hsame (hpage ▸ h.page.openSearch p), h.layout.setPage rfl rfl,
        ?_⟩
      refine h.highlights.mono (fun _ => id) (fun _ _ hu hex => ⟨hu, hex⟩) ?_
      rintro t q - ⟨hshown, hopen, hquery⟩
      refine ⟨(hsame.activeTab q).trans hshown, ?_, hquery⟩
      by_cases hqp : q = p
      · subst hqp
        simp [View.setPage]
      · simpa [View.setPage, hqp] using hopen
    dsimp only
    split
    · exact hshows
    · have hmem : p ∈ (v.setPage (v.page.openSearch p)).page.panes := by
        rw [hpage]
        exact hp
      rw [refreshPaneSearch_eq (hshows.page.shows p hmem)]
      exact hshows.searched hmem

/-- Closing a search bar keeps what holds of the view. -/
theorem Shows.closeSearch (h : v.Shows) (hp : p ∈ v.page.panes) : (v.closeSearch p).Shows := by
  have hsame := Page.sameLook_search v.page p true
  have hsettled : (v.setPage (v.page.closeSearch p)).Settled :=
    h.toSettled.sameLook hsame (h.page.closeSearch p)
  have hlayout : (v.setPage (v.page.closeSearch p)).LaidOut := h.layout.setPage rfl rfl
  refine ⟨hsettled.setHighlights _, hlayout.congr rfl rfl, ?_⟩
  intro t q ht _ hlit
  obtain ⟨hlit, hnot⟩ := (Bool.and_eq_true _ _ ▸ hlit :)
  have hqp : q ≠ p := by
    rintro rfl
    exact of_decide_eq_true hnot ((h.page.mem_tabs q hp t).mpr ht)
  have hpane : (v.page.closeSearch p).pane q = v.page.pane q := by simp [Page.closeSearch, hqp]
  obtain ⟨hshown, hopen, hquery⟩ := h.highlights t q ht not_false hlit
  exact ⟨(congrArg Pane.activeTab hpane).trans hshown,
    (congrArg Pane.searchHidden hpane).trans hopen, hquery⟩

/-! ## One event -/

/-- Ctrl is armed for the tab that is active then. -/
theorem Shows.setCtrlArmed (h : v.Shows) (on : Bool) : (v.setCtrlArmed on).Shows :=
  ⟨⟨⟨h.page, h.named, h.titled⟩, h.hash, h.line, h.paints.congr rfl rfl, fun _ => Or.inl rfl⟩,
    h.layout.congr rfl rfl, h.highlights⟩

/-- The view shows the page after an event on tabs and panes. -/
theorem Shows.onPage (h : v.Shows) {e : PageEvent} (hen : (ViewEvent.page e).Enabled v) :
    (v.onPage e).Shows := by
  cases e with
  | openTab name agent => exact h.openTab hen
  | activateTab t => exact h.activateTab t
  | cycle forward => exact h.cycle _
  | moveTab t =>
    unfold View.onPage
    dsimp only
    split
    · next other hother => exact h.moveTabToPane t (List.mem_of_find?_eq_some hother)
    · exact h
  | closeTab t => exact h.closeTab t
  | split p =>
    unfold View.onPage
    dsimp only
    split
    · exact h.addPane
    · obtain ⟨hsettled, hlight, hlayout⟩ := h.toSettled.removePane h.highlights hen
      exact ⟨hsettled, hlayout h.layout, hlight⟩
  | focusPane p => exact h.focusPane hen
  | openSearch p => exact h.openSearch hen
  | closeSearch p => exact h.closeSearch hen
  | width wideEnough => exact h.width wideEnough
  | logout => exact h.closeAll

/-- The view shows the page after every event. -/
theorem Shows.apply (h : v.Shows) {e : ViewEvent} (hen : e.Enabled v) : (e.apply v).Shows := by
  cases e with
  | page e => exact h.onPage hen
  | status t status => exact h.setTabStatus t status
  | output t => exact (rings_output v t).shows h
  | bell t => exact (rings_onBell v t).shows h
  | visibility hidden => exact (rings_visibilityChange v hidden).shows h
  | input p text => exact h.input hen.1 hen.2 text
  | search p => exact h.runSearch hen.1 hen.2
  | theme => exact h.refreshOpenSearches
  | ctrl on => exact h.setCtrlArmed on

/-! ## Runs -/

/-- The view shows the page when the script has run. -/
theorem initial_shows (hash : PyStr) (wideEnough : Bool) : (initial hash wideEnough).Shows := by
  set u : View := { ({ page := { wideEnough := wideEnough }, hash := hash } : View).createPane with
    ctrlArmed := false } with hu
  have hwired := Page.initial_wired wideEnough
  rw [Page.initial_eq] at hwired
  have hkept : (u.setPage (u.page.focusPane 1)).Kept := by
    have hnamed : (u.setPage (u.page.focusPane 1)).page.Named :=
      fun t c hc => absurd hc List.not_mem_nil
    refine ⟨hwired, hnamed, ?_⟩
    simp [View.Titled, View.bells, Page.allTabs, hu, View.setPage, View.createPane, Page.createPane,
      Page.focusPane]
  have hsettled := (hkept.synced rfl).layoutPanes
  refine hsettled.applyWidthLimit ?_
  intro t p _ _ hlit
  cases hlit

end

end View

section

variable {hash : PyStr} {wideEnough : Bool} {v : View}

/-- An event on tabs and panes can happen on the page, too. -/
theorem ViewEvent.page_enabled {e : PageEvent} (hen : (ViewEvent.page e).Enabled v) :
    e.Enabled v.page := by
  cases e with
  | openTab name agent => trivial
  | _ => exact hen

/-- In every run the view shows the page. -/
theorem shows_of_run {cond : View → ViewEvent → Prop}
    (hrun : Run viewSystem cond (View.initial hash wideEnough) v) : v.Shows :=
  hrun.invariant (View.initial_shows hash wideEnough) fun _ _ hshows hen _ => hshows.apply hen

/-- The tabs and panes of a view are in a run of their own. -/
theorem page_of_run {cond : View → ViewEvent → Prop}
    (hrun : Run viewSystem cond (View.initial hash wideEnough) v) :
    Run pageSystem (fun _ _ => True) (Page.initial wideEnough) v.page := by
  induction hrun with
  | refl =>
    have hinitial : (View.initial hash wideEnough).page = Page.initial wideEnough := by
      simp [View.initial, Page.initial]
    rw [hinitial]
    exact .refl
  | @step w e _ hen _ ih =>
    rw [show (viewSystem.apply w e).page = _ from ViewEvent.apply_page w e]
    cases e with
    | page e => exact .step e ih (ViewEvent.page_enabled hen) trivial
    | _ => exact ih

/-- After every sequence of events the page is painted as it is: the fragment and the status line
are those of the active tab, the title counts the bells of the open tabs, and the classes of tabs,
panes and buttons are up to date. -/
theorem view_of_run (hrun : Run viewSystem (fun _ _ => True) (View.initial hash wideEnough) v) :
    v.hash = v.page.address ∧
      v.line = v.page.activeTab.elim .idle (fun t => (v.marks t).status) ∧
      v.waiting = (v.page.allTabs.countP fun t => (v.marks t).bell) ∧
      v.PaintsTabs ∧ v.LaidOut := by
  have hshows := shows_of_run hrun
  exact ⟨hshows.hash, hshows.line, hshows.titled, hshows.paints, hshows.layout⟩

/-- Two panes, a search in the first one, a bell there while the page is hidden, and a tab that
moves. -/
def busyView : List ViewEvent :=
  [.page (.openTab [112] Agent.claude.name), .status 0 (.connected [112] Agent.claude.name),
    .page (.openSearch 1), .input 1 [120], .page (.split 1),
    .page (.openTab [113] Agent.shell.name),
    .visibility true, .bell 0, .ctrl true, .page (.openTab [114] Agent.codex.name), .output 0,
    .page (.moveTab 1)]

/-- The hypothesis holds in such a run. -/
theorem view_of_run_busy :
    let v := viewSystem.exec (View.initial [] true) busyView
    v.waiting = 1 ∧ v.hash = v.page.address ∧
      v.line = v.page.activeTab.elim .idle (fun t => (v.marks t).status) ∧
      v.waiting = (v.page.allTabs.countP fun t => (v.marks t).bell) ∧
      v.PaintsTabs ∧ v.LaidOut :=
  ⟨by decide, view_of_run (System.Valid.run viewSystem (by decide))⟩

/-- After every sequence of events a tab with highlighted matches is the one that its pane shows,
under an open search bar with a text in it. -/
theorem highlighted_of_run
    (hrun : Run viewSystem (fun _ _ => True) (View.initial hash wideEnough) v) {t : TabId}
    {p : PaneId} (ht : (v.page.tab t).pane = some p) (hlit : (v.marks t).highlighted = true) :
    (v.page.pane p).activeTab = some t ∧ (v.page.pane p).searchHidden = false ∧ v.query p ≠ [] :=
  (shows_of_run hrun).highlights t p ht not_false hlit

/-- A search in a tab, whose pane then shows another one and this one again. -/
def searchedView : List ViewEvent :=
  [.page (.openTab [112] Agent.claude.name), .page (.openSearch 1), .input 1 [120],
    .page (.openTab [113] Agent.shell.name), .page (.activateTab 0)]

/-- The hypotheses hold in such a run. -/
theorem highlighted_of_run_searched :
    let v := viewSystem.exec (View.initial [] true) searchedView
    (v.page.pane 1).activeTab = some 0 ∧ (v.page.pane 1).searchHidden = false ∧ v.query 1 ≠ [] :=
  highlighted_of_run (System.Valid.run viewSystem (by decide)) (by decide) (by decide)

/-- After every sequence of events, Ctrl is armed for no other tab than the one that was active
when it was armed. -/
theorem ctrl_of_run (hrun : Run viewSystem (fun _ _ => True) (View.initial hash wideEnough) v)
    (harmed : v.ctrlArmed = true) {t : TabId} (hactive : v.page.activeTab = some t) :
    v.armedFor = some t := by
  rcases (shows_of_run hrun).ctrl harmed with harmedFor | hnone
  · exact harmedFor ▸ hactive
  · rw [hactive] at hnone
    cases hnone

/-- Ctrl is armed, and a tab of the other pane is closed. -/
def armedView : List ViewEvent :=
  [.page (.openTab [112] Agent.claude.name), .page (.split 1),
    .page (.openTab [113] Agent.shell.name), .ctrl true, .page (.closeTab 0)]

/-- The hypotheses hold in such a run. -/
theorem ctrl_of_run_armed :
    (viewSystem.exec (View.initial [] true) armedView).armedFor = some 1 :=
  ctrl_of_run (System.Valid.run viewSystem (by decide)) (by decide) (by decide)

/-! ## Loading the page again -/

/-- What the page asks for if it is loaded with the fragment of a view and gets a snapshot. -/
structure View.Restores (v : View) (projects : List StatusEntry) : Prop where
  /-- Without an active tab it asks for nothing. -/
  idle : v.page.activeTab = none → restoreFromHash v.hash projects = none
  /-- It asks for the active tab if the agent is one of `AGENT_LABEL`'s own and the snapshot shows
  the session as live, and for nothing else. -/
  live : ∀ t (agent : Agent), v.page.activeTab = some t → (v.page.tab t).agent = agent.name →
    restoreFromHash v.hash projects =
      (projects.find? fun entry => entry.project.name = (v.page.tab t).name).bind fun entry =>
        if entry.flag agent then some ((v.page.tab t).name, agent.name) else none
  /-- `in AGENT_LABEL` and `live[agent]` find inherited properties, too: a tab that was opened with
  the name of one is asked for although no session is live. -/
  inherited : ∀ t, v.page.activeTab = some t → (v.page.tab t).agent ∈ objectPrototype →
    restoreFromHash v.hash projects =
      (projects.find? fun entry => entry.project.name = (v.page.tab t).name).map fun _ =>
        ((v.page.tab t).name, (v.page.tab t).agent)
  /-- A tab with any other text for its agent, which nothing on the page opens, is not asked for. -/
  unknown : ∀ t, v.page.activeTab = some t → 47 ∉ (v.page.tab t).agent →
    (∀ agent : Agent, (v.page.tab t).agent ≠ agent.name) →
    (v.page.tab t).agent ∉ objectPrototype → restoreFromHash v.hash projects = none

/-- In every view that shows its page, the fragment leads back to the active tab. -/
theorem View.Shows.restores (h : v.Shows) (projects : List StatusEntry) : v.Restores projects := by
  have haddress {t : TabId} (hactive : v.page.activeTab = some t) :
      WTerm.syncHash (v.page.tab t).name (v.page.tab t).agent = some v.hash := by
    obtain ⟨fragment, hfragment⟩ :=
      Option.isSome_iff_exists.mp (h.named.syncHash t (v.page.tab t).agent)
    rw [hfragment, h.hash]
    simp [Page.address, hactive, hfragment]
  refine ⟨fun hnone => ?_, fun t agent hactive hagent => ?_, fun t hactive hagent => ?_,
    fun t hactive hslash hother hagent => ?_⟩
  · rw [h.hash, Page.address, hnone]
    rfl
  · exact restoreFromHash_syncHash (h.named t) agent projects (hagent ▸ haddress hactive)
  · exact restoreFromHash_inherited (h.named t) hagent projects (haddress hactive)
  · exact restoreFromHash_unknown (h.named t) hslash hother hagent projects (haddress hactive)

/-- After every sequence of events, a page that is loaded with the fragment asks for the active
tab if its session is live in the first snapshot, and for nothing else, but for a tab whose agent
is an inherited property. -/
theorem restore_of_run (hrun : Run viewSystem (fun _ _ => True) (View.initial hash wideEnough) v)
    (projects : List StatusEntry) : v.Restores projects :=
  (shows_of_run hrun).restores projects

/-- The hypothesis holds in a run that ends with an active tab. -/
theorem restore_of_run_searched :
    let v := viewSystem.exec (View.initial [] true) searchedView
    v.page.activeTab = some 0 ∧ v.Restores [] :=
  ⟨by decide, restore_of_run (System.Valid.run viewSystem (by decide)) []⟩

/-- No tab is open until one is opened. -/
theorem closed_of_run
    (hrun : Run viewSystem (fun _ e => ∀ name agent, e ≠ .page (.openTab name agent))
      (View.initial hash wideEnough) v) (t : TabId) : (v.page.tab t).pane = none := by
  induction hrun with
  | refl =>
    have hinitial : (View.initial hash wideEnough).page = Page.initial wideEnough := by
      simp [View.initial, Page.initial]
    rw [hinitial, Page.initial_eq]
    rfl
  | @step w e hrun hen hopens ih =>
    have hwired := (shows_of_run hrun).page
    rw [show (viewSystem.apply w e).page = _ from ViewEvent.apply_page w e]
    cases e with
    | page e =>
      have hpage : e.Enabled w.page := ViewEvent.page_enabled hen
      cases e with
      | openTab name agent => exact absurd rfl (hopens name agent)
      | closeTab u => exact (hwired.closes u).1.closed t ih
      | logout => exact (hwired.closeTabs _).2.1.closed t ih
      | _ =>
        have hsame := PageEvent.apply_sameOpen hwired hpage (by simp) (by simp) (by simp)
        exact (hsame.closed_iff t).mpr ih
    | _ => exact ih

/-- Whatever the fragment is with which the page is loaded, the first snapshot restores nothing:
the script has taken the fragment away when its first pane got the focus. That the user enters
another fragment meanwhile is no event here. -/
theorem load_restores_nothing
    (hrun : Run viewSystem (fun _ e => ∀ name agent, e ≠ .page (.openTab name agent))
      (View.initial hash wideEnough) v) (projects : List StatusEntry) :
    restoreFromHash v.hash projects = none := by
  have hshows := shows_of_run hrun
  have hnone := hshows.page.activeTab_none (closed_of_run hrun)
  rw [hshows.hash, Page.address, hnone]
  rfl

/-- A snapshot in which the shell of a project is live. -/
def liveShell : List StatusEntry :=
  [⟨{ name := py ['p'], path := py ['/'] }, false, false, true, false, false⟩]

/-- The hypothesis holds in such a run, and the fragment itself would have restored the shell. -/
theorem load_restores_nothing_live :
    restoreFromHash (py "#p/shell".toList) liveShell = some (py ['p'], Agent.shell.name) ∧
      restoreFromHash (viewSystem.exec (View.initial (py "#p/shell".toList) true)
        [.page (.split 1)]).hash liveShell = none :=
  ⟨by decide, load_restores_nothing (Run.step _ .refl (by decide) (by simp)) _⟩

end

end WTerm
