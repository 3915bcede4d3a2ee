import WTerm.Client.Shown

/-!
# The view after each event

Every operation on tabs and panes ends in a view that shows the page. The main case is
`activateTab`, which puts everything in order again that the operations around it have left behind.
-/

namespace WTerm

open Transition

namespace Page

variable {s : Page} {t : TabId} {p q : PaneId}

/-- Showing a tab leaves all tabs in their panes. -/
@[simp]
theorem activateTab_tab (s : Page) (t : TabId) : (s.activateTab t).tab = s.tab := by
  unfold Page.activateTab
  split <;> rfl

/-- Showing a tab changes no list of panes. -/
@[simp]
theorem activateTab_panes (s : Page) (t : TabId) : (s.activateTab t).panes = s.panes := by
  unfold Page.activateTab
  split <;> rfl

/-- Showing a tab leaves the width of the page as it is. -/
@[simp]
theorem activateTab_wideEnough (s : Page) (t : TabId) :
    (s.activateTab t).wideEnough = s.wideEnough := by
  unfold Page.activateTab
  split <;> rfl

/-- Showing a tab opens and closes none. -/
theorem activateTab_allTabs (s : Page) (t : TabId) : (s.activateTab t).allTabs = s.allTabs := by
  have htabs : ∀ p, ((s.activateTab t).pane p).tabs = (s.pane p).tabs := by
    intro p
    unfold Page.activateTab
    split
    · rfl
    · next q hq =>
      by_cases hpq : p = q
      · subst hpq
        simp
      · simp [hpq]
  unfold Page.allTabs
  rw [activateTab_panes]
  exact congrArg (fun f => s.panes.flatMap f) (funext htabs)

/-- Showing a tab leaves the other panes alone. -/
theorem activateTab_pane_of_ne (ht : (s.tab t).pane = some p) (hqp : q ≠ p) :
    (s.activateTab t).pane q = s.pane q := by
  rw [activateTab_of_home ht]
  simp [hqp]

/-- Search bars that open and close do not matter to the look. -/
theorem sameLook_search (s : Page) (p : PaneId) (hidden : Bool) :
    s.SameLook (s.onPane p fun pane => { pane with searchHidden := hidden }) := by
  refine ⟨rfl, fun q => ?_, fun q => ?_, rfl, rfl⟩
  · by_cases hqp : q = p
    · subst hqp
      simp
    · simp [hqp]
  · by_cases hqp : q = p
    · subst hqp
      simp
    · simp [hqp]

/-- The active tab is part of the look. -/
theorem SameLook.active {s' : Page} (h : s.SameLook s') : s'.activeTab = s.activeTab := by
  unfold Page.activeTab
  rw [h.focusedPane]
  exact congrArg s.focusedPane.bind (funext h.activeTab)

/-- Tabs and panes were wired before a search bar is closed. -/
theorem Wired.of_closeSearch (h : (s.closeSearch p).Wired) : s.Wired := by
  have hsame := sameLook_search s p true
  refine h.setPanes (fun q _ => (hsame.tabs q).symm) (fun q hq => ?_) h.focused
  have hshows := h.shows q hq
  constructor
  · intro t ht
    exact hsame.tabs q ▸ hshows.mem t ((hsame.activeTab q).trans ht)
  · intro hnone
    exact hsame.tabs q ▸ hshows.empty ((hsame.activeTab q).trans hnone)

/-- A pane changes and keeps its tabs. -/
theorem onPane_allTabs {f : Pane → Pane} (hf : (f (s.pane p)).tabs = (s.pane p).tabs) :
    (s.onPane p f).allTabs = s.allTabs := by
  refine congrArg (fun g => s.panes.flatMap g) (funext fun q => ?_)
  by_cases hqp : q = p
  · subst hqp
    simpa using hf
  · simp [hqp]

/-- Which tabs are listed is settled when the tab is taken out. -/
theorem closeTab_allTabs (ht : (s.tab t).pane = some p) :
    (s.closeTab t).allTabs = (s.without t p).allTabs := by
  unfold Page.closeTab
  rw [ht]
  dsimp only
  split
  · split
    · split
      · rw [activateTab_allTabs]
        exact onPane_allTabs rfl
      · exact onPane_allTabs rfl
    · split
      · exact (onPane_allTabs rfl).trans (onPane_allTabs rfl)
      · exact onPane_allTabs rfl
  · rfl

/-- The names of the tabs stay when a tab is closed. -/
theorem Wired.closeTab_tab (h : s.Wired) (ht : (s.tab t).pane = some p) :
    (s.closeTab t).tab = Function.update s.tab t { s.tab t with pane := none } := by
  rw [h.closeTab_eq ht]
  rfl

/-- Closing a tab keeps the panes, the focus and the width. -/
theorem Wired.closeTab_frame (h : s.Wired) (ht : (s.tab t).pane = some p) :
    (s.closeTab t).panes = s.panes ∧ (s.closeTab t).focusedPane = s.focusedPane ∧
      (s.closeTab t).wideEnough = s.wideEnough ∧
      ∀ q, q ≠ p → (s.closeTab t).pane q = s.pane q := by
  rw [h.closeTab_eq ht]
  exact ⟨rfl, rfl, rfl, fun q hqp => by simp [hqp]⟩

/-- The active tab stays if another one is closed. -/
theorem Wired.closeTab_activeTab (h : s.Wired) (ht : (s.tab t).pane = some p)
    (hother : s.activeTab ≠ some t) : (s.closeTab t).activeTab = s.activeTab := by
  unfold Page.activeTab at hother ⊢
  rw [h.closeTab_eq ht]
  cases hfocused : s.focusedPane with
  | none => simp [hfocused]
  | some q =>
    rw [hfocused] at hother
    by_cases hqp : q = p
    · subst hqp
      have hne : (s.pane q).activeTab ≠ some t := hother
      simp [hfocused, Pane.closed, hne]
    · simp [hfocused, hqp]

/-- The address stays if another tab than the active one is closed. -/
theorem Wired.closeTab_address (h : s.Wired) (ht : (s.tab t).pane = some p)
    (hother : s.activeTab ≠ some t) : (s.closeTab t).address = s.address := by
  unfold Page.address
  rw [h.closeTab_activeTab ht hother, h.closeTab_tab ht]
  refine congrArg (s.activeTab.elim []) (funext fun u => ?_)
  by_cases hut : u = t
  · subst hut
    simp
  · simp [hut]

/-- The active tab is the one that the focused pane shows. -/
theorem Wired.activeTab_home (h : s.Wired) (ht : (s.tab t).pane = some p)
    (hactive : s.activeTab = some t) : s.focusedPane = some p ∧ (s.pane p).activeTab = some t := by
  obtain ⟨q, hq, hfocused⟩ := h.focused
  have hshown : (s.pane q).activeTab = some t := by simpa [Page.activeTab, hfocused] using hactive
  have hhome := (h.mem_tabs q hq t).mp ((h.shows q hq).mem t hshown)
  rw [ht, Option.some.injEq] at hhome
  subst hhome
  exact ⟨hfocused, hshown⟩

/-- If no tab is open, none is active. -/
theorem Wired.activeTab_none (h : s.Wired) (hclosed : ∀ t, (s.tab t).pane = none) :
    s.activeTab = none := by
  by_contra hsome
  obtain ⟨t, hactive⟩ := Option.ne_none_iff_exists'.mp hsome
  obtain ⟨p, hp, hfocused⟩ := h.focused
  have hshown : (s.pane p).activeTab = some t := by simpa [Page.activeTab, hfocused] using hactive
  have hhome := (h.mem_tabs p hp t).mp ((h.shows p hp).mem t hshown)
  rw [hclosed t] at hhome
  cases hhome

/-- A new tab, and no other change of the tabs. -/
@[simp]
theorem createTab_tab (s : Page) (name agent : PyStr) (p : PaneId) :
    (s.createTab name agent p).tab = Function.update s.tab s.tabCount
      { name := name, agent := agent, pane := some p } := rfl

/-- A new tab leaves the other panes alone. -/
theorem createTab_pane_of_ne (name agent : PyStr) (hqp : q ≠ p) :
    (s.createTab name agent p).pane q = s.pane q := by
  simp [Page.createTab, hqp]

end Page

namespace View

section

variable {v : View} {s : Page} {t : TabId} {p q : PaneId} {exempt : PaneId → Prop}

/-! ## Showing a tab -/

/-- The page changes, and the same tabs are open. -/
theorem Kept.setPage (h : v.Kept) (hwired : s.Wired) (hnamed : s.Named)
    (hopen : ∀ t, (s.tab t).pane = none ↔ (v.page.tab t).pane = none) : (v.setPage s).Kept where
  page := hwired
  named := hnamed
  titled := by
    have hsame : (v.setPage s).bells = v.bells :=
      bells_congr (h.page.allTabs_perm hwired hopen) fun _ => rfl
    exact h.titled.trans hsame.symm

/-- The page changes, and the layout of the panes does not. -/
theorem LaidOut.setPage (h : v.LaidOut) (hpanes : s.panes = v.page.panes)
    (hwide : s.wideEnough = v.page.wideEnough) : (v.setPage s).LaidOut := by
  have hsplit : s.paintSplit = v.page.paintSplit := by simp [Page.paintSplit, hpanes, hwide]
  constructor
  · intro p hp
    exact (h.button p (hpanes ▸ hp)).trans hsplit.symm
  · refine h.split.trans ?_
    rw [← hpanes]
    rfl

/-- The tab that is left loses its highlights. -/
theorem leaveTab_eq (v : View) (p : PaneId) (t : TabId) : ∃ f, v.leaveTab p t = v.setHighlights f ∧
    ∀ u, f u = true → (v.marks u).highlighted = true := by
  have hsame : v = v.setHighlights fun u => (v.marks u).highlighted :=
    (setHighlights_self fun _ => rfl).symm
  unfold View.leaveTab
  split
  · exact ⟨_, hsame, fun _ => id⟩
  · split
    · exact ⟨_, hsame, fun _ => id⟩
    · exact ⟨_, rfl, fun u hu => (Bool.and_eq_true _ _ ▸ hu).1⟩

/-- After a tab is shown, the view shows the page, whatever was out of date before. -/
theorem activateTab_shows (hwired : (v.page.activateTab t).Wired) (hnamed : v.page.Named)
    (htitled : v.Titled) (hlayout : v.LaidOut) (hlight : v.HighlightsBut (· = p))
    (ht : (v.page.tab t).pane = some p) : (v.activateTab t).Shows := by
  have hp : p ∈ v.page.panes := by simpa using hwired.home t p (by simpa using ht)
  obtain ⟨f, hleave, hless⟩ := leaveTab_eq v p t
  unfold View.activateTab
  rw [ht]
  dsimp only
  rw [hleave]
  set v₂ := (v.setHighlights f).setPage ((v.setHighlights f).page.activateTab t) with hv₂
  have hkept : v₂.Kept := by
    refine ⟨hwired, by simpa [hv₂, View.setPage, Page.Named] using hnamed, ?_⟩
    have hsame : v₂.bells = v.bells := by
      refine bells_congr ?_ fun _ => rfl
      rw [show v₂.page.allTabs = v.page.allTabs from Page.activateTab_allTabs v.page t]
    exact htitled.trans hsame.symm
  have hlaid : v₂.LaidOut :=
    (hlayout.congr rfl rfl : (v.setHighlights f).LaidOut).setPage (by simp) (by simp)
  have hlit : v₂.HighlightsBut (· = p) := by
    refine hlight.mono hless (fun u q hu hqp => ⟨by simpa [hv₂] using hu, hqp⟩) ?_
    intro u q hqp hsearched
    have hpane : v₂.page.pane q = v.page.pane q := Page.activateTab_pane_of_ne ht hqp
    unfold View.Searched at hsearched ⊢
    rw [hpane]
    exact hsearched
  -- The bell and the mark of unread output go, and the rest is painted.
  have hrings : v₂.Rings ((v₂.onMarks t fun m => { m with unread := false }).clearBell t) :=
    (rings_unread v₂ t false).trans (rings_clearBell _ t)
  set v₃ := (v₂.onMarks t fun m => { m with unread := false }).clearBell t
  have hkept₃ : ({ v₃ with ctrlArmed := false } : View).Kept :=
    ⟨(hrings.kept hkept).page, (hrings.kept hkept).named, (hrings.kept hkept).titled⟩
  have hsettled := hkept₃.synced rfl
  have hlaid₃ := hrings.laidOut hlaid
  have hpage : v₃.page = v.page.activateTab t := hrings.page
  have hmem : p ∈ v₃.page.panes := by simpa [hpage] using hp
  rw [refreshPaneSearch_eq (hsettled.page.shows p hmem)]
  refine ⟨hsettled.setHighlights _, ⟨hlaid₃.button, hlaid₃.split⟩, ?_⟩
  have hsearched : v₃.HighlightsBut (· = p) := hrings.highlights hlit
  exact (hsearched.searched hsettled.page hmem).weaken fun q hq => hq.2 hq.1

/-- Showing a tab at the end of an operation establishes what holds of the view, if only the tab's
pane may have wrong highlights. -/
theorem Kept.activateTab (h : v.Kept) (hlayout : v.LaidOut) (hlight : v.HighlightsBut (· = p))
    (ht : (v.page.tab t).pane = some p) : (v.activateTab t).Shows :=
  activateTab_shows (h.page.activateTab t) h.named h.titled hlayout hlight ht

/-- Showing a tab, which may be closed. -/
theorem Shows.activateTab (h : v.Shows) (t : TabId) : (v.activateTab t).Shows := by
  cases ht : (v.page.tab t).pane with
  | none => simpa [View.activateTab, ht] using h
  | some p =>
    refine h.toKept.activateTab h.layout (fun u q hu _ hlit => ?_) ht
    exact h.highlights u q hu not_false hlit

/-- Focusing another pane disarms the ctrl key, paints the panes, and updates the fragment and the
status line. -/
theorem focusPane_of_ne (h : v.page.focusedPane ≠ some p) : v.focusPane p =
    ({ v with ctrlArmed := false }.setPage (v.page.focusPane p)).paintPanes.syncHash.showStatus :=
  if_neg h

/-- Focusing one of the panes keeps what holds of the view. -/
theorem Shows.focusPane (h : v.Shows) (hp : p ∈ v.page.panes) : (v.focusPane p).Shows := by
  unfold View.focusPane
  split
  · exact h
  · have hkept : ({ v with ctrlArmed := false } : View).Kept := ⟨h.page, h.named, h.titled⟩
    have hfocused := hkept.setPage (s := v.page.focusPane p) (h.page.focusPane hp) h.named
      fun _ => Iff.rfl
    exact ⟨hfocused.synced rfl, ⟨h.layout.button, h.layout.split⟩, h.highlights⟩

/-! ## Opening a tab -/

/-- A status changes, and the status line follows if it is that of the active tab. -/
theorem Shows.setTabStatus (h : v.Shows) (t : TabId) (status : TabStatus) :
    (v.setTabStatus t status).Shows := by
  have hlight := onMarks_field v t (fun m => { m with status := status }) TabMarks.highlighted
    fun _ => rfl
  have hbell : (v.onMarks t fun m => { m with status := status }).bells = v.bells :=
    bells_congr .rfl (onMarks_field v t _ TabMarks.bell fun _ => rfl)
  have hkept : (v.onMarks t fun m => { m with status := status }).Kept :=
    ⟨h.page, h.named, h.titled.trans hbell.symm⟩
  have hlit : (v.onMarks t fun m => { m with status := status }).Highlights :=
    h.highlights.mono (fun u hu => (hlight u).symm.trans hu) (fun _ _ hu hex => ⟨hu, hex⟩)
      fun _ _ _ => id
  unfold View.setTabStatus
  dsimp only
  split
  · next hactive =>
    refine ⟨⟨⟨hkept.page, hkept.named, hkept.titled⟩, h.hash, ?_, h.paints.congr rfl rfl, h.ctrl⟩,
      h.layout.congr rfl rfl, hlit⟩
    have hshown : v.page.activeTab = some t := hactive
    change status = v.page.activeTab.elim _ _
    rw [hshown]
    simp [View.onMarks]
  · next hactive =>
    refine ⟨⟨hkept, h.hash, ?_, h.paints.congr rfl rfl, h.ctrl⟩, h.layout.congr rfl rfl, hlit⟩
    refine h.line.trans ?_
    change _ = v.page.activeTab.elim _ _
    cases hshown : v.page.activeTab with
    | none => rfl
    | some u =>
      have hut : u ≠ t := by
        rintro rfl
        exact hactive hshown
      simp [View.onMarks, hut]

/-- The marks after a tab is made. -/
theorem createTab_marks (v : View) (name agent : PyStr) (p : PaneId) :
    (v.createTab name agent p).marks = Function.update v.marks v.page.tabCount {} := by
  have hmarks : (v.createTab name agent p).marks =
      Function.update (Function.update v.marks v.page.tabCount {}) v.page.tabCount
        { (Function.update v.marks v.page.tabCount {} v.page.tabCount) with status := .idle } := by
    unfold View.createTab View.setTabStatus
    dsimp only
    split <;> rfl
  rw [hmarks, Function.update_idem, Function.update_self]

/-- Making a tab changes neither the bells that wait, nor the searches, nor the layout of the panes.
-/
theorem createTab_frame (v : View) (name agent : PyStr) (p : PaneId) :
    (v.createTab name agent p).waiting = v.waiting ∧ (v.createTab name agent p).query = v.query ∧
      (v.createTab name agent p).painted.button = v.painted.button ∧
      (v.createTab name agent p).painted.split = v.painted.split := by
  unfold View.createTab View.setTabStatus
  dsimp only
  split <;> exact ⟨rfl, rfl, rfl, rfl⟩

/-- A new tab, before it is shown. -/
theorem Kept.createTab (h : v.Kept) (hp : p ∈ v.page.panes) {name agent : PyStr}
    (hnew : v.page.findTab name agent = none) (hname : ∀ c ∈ name, IsScalar c) :
    (v.createTab name agent p).Kept := by
  have hwired := h.page.createTab hp hnew
  have hclosed := h.page.tabCount_closed
  have hnot : v.page.tabCount ∉ v.page.allTabs := fun hin => h.page.mem_allTabs.mp hin hclosed
  have hperm :
      (v.page.createTab name agent p).allTabs.Perm (v.page.tabCount :: v.page.allTabs) := by
    refine (List.perm_ext_iff_of_nodup hwired.allTabs_nodup
      (List.nodup_cons.mpr ⟨hnot, h.page.allTabs_nodup⟩)).mpr fun t => ?_
    rw [hwired.mem_allTabs, List.mem_cons, h.page.mem_allTabs, Page.createTab_tab]
    by_cases ht : t = v.page.tabCount
    · subst ht
      simp
    · simp [ht]
  have hbells : (v.createTab name agent p).bells = v.bells := by
    unfold View.bells
    rw [createTab_page, hperm.countP_eq, createTab_marks, List.countP_cons_of_neg (by simp)]
    refine List.countP_congr fun t ht => ?_
    have hne : t ≠ v.page.tabCount := fun heq => hnot (heq ▸ ht)
    rw [Function.update_of_ne hne]
  refine ⟨by rwa [createTab_page], ?_, ?_⟩
  · rw [createTab_page]
    intro t
    by_cases ht : t = v.page.tabCount
    · subst ht
      simpa using hname
    · simpa [ht] using h.named t
  · exact (createTab_frame v name agent p).1.trans (h.titled.trans hbells.symm)

/-- Opening a tab with a well-formed name keeps what holds of the view. -/
theorem Shows.openTab (h : v.Shows) {name agent : PyStr} (hname : ∀ c ∈ name, IsScalar c) :
    (v.openTab name agent).Shows := by
  unfold View.openTab
  cases hfind : v.page.findTab name agent with
  | some t => exact h.activateTab t
  | none =>
    obtain ⟨p, hp, hfocused⟩ := h.page.focused
    dsimp only
    rw [hfocused]
    dsimp only
    obtain ⟨-, hquery, hbutton, hsplit⟩ := createTab_frame v name agent p
    refine (h.toKept.createTab hp hfind hname).activateTab (p := p) ⟨?_, ?_⟩ ?_ ?_
    · rw [createTab_page, hbutton]
      exact h.layout.button
    · rw [createTab_page, hsplit]
      exact h.layout.split
    · refine h.highlights.mono (fun u hu => ?_) (fun u q hu hqp => ?_) fun u q hqp hsearched => ?_
      · rw [createTab_marks] at hu
        by_cases hne : u = v.page.tabCount
        · subst hne
          simp at hu
        · rwa [Function.update_of_ne hne] at hu
      · rw [createTab_page, Page.createTab_tab] at hu
        by_cases hne : u = v.page.tabCount
        · subst hne
          rw [Function.update_self] at hu
          exact absurd (Option.some.inj hu).symm hqp
        · rw [Function.update_of_ne hne] at hu
          exact ⟨hu, not_false⟩
      · unfold View.Searched at hsearched ⊢
        rw [createTab_page, hquery, Page.createTab_pane_of_ne name agent hqp]
        exact hsearched
    · simp

/-! ## Moving tabs -/

/-- After a tab is moved, only the pane that it comes to is out of order. -/
theorem Kept.transfer (h : v.Kept) (hlight : v.Highlights) (ht : (v.page.tab t).pane = some q)
    (hqp : q ≠ p) (hp : p ∈ v.page.panes) :
    (v.transfer t q p).Kept ∧ (v.transfer t q p).HighlightsBut (· = p) ∧
      (v.transfer t q p).painted = v.painted := by
  obtain ⟨hq, -⟩ := h.page.mem_of_home ht
  have hmoved := h.page.moveTabToPane_eq ht hqp
  have hwired := h.page.moved ht hp hqp
  have hsource : (v.page.moved t q p).pane q = (v.page.pane q).left t := by
    simp [Page.moved, hqp]
  unfold View.transfer
  dsimp only
  rw [hmoved]
  set w := (v.clearDecorations [t]).setPage (v.page.moved t q p) with hw
  have hkept : w.Kept := by
    refine (h.setHighlights _ : (v.clearDecorations [t]).Kept).setPage hwired (fun u => ?_)
      (Page.sameOpen_moved ht p).closed_iff
    by_cases hut : u = t
    · subst hut
      simpa [Page.moved] using h.named u
    · simpa [Page.moved, hut] using h.named u
  have hlit : w.HighlightsBut fun r => r = p ∨ (r = q ∧ (v.page.pane q).activeTab = some t) := by
    refine hlight.mono (fun u hu => (Bool.and_eq_true _ _ ▸ hu).1) (fun u r hu hr => ?_) ?_
    · by_cases hut : u = t
      · subst hut
        rw [hw] at hu
        simp only [View.setPage, Page.moved, Page.setHome_tab, Function.update_self,
          Option.some.injEq] at hu
        exact absurd (Or.inl hu.symm) hr
      · rw [hw] at hu
        exact ⟨by simpa [View.setPage, Page.moved, hut] using hu, not_false⟩
    · rintro u r hr ⟨hactive, hopen, hquery⟩
      have hrp : r ≠ p := fun heq => hr (Or.inl heq)
      by_cases hrq : r = q
      · subst hrq
        have hstays : (v.page.pane r).activeTab ≠ some t := fun heq => hr (Or.inr ⟨rfl, heq⟩)
        have hpane : w.page.pane r = (v.page.pane r).left t := hsource
        refine ⟨?_, ?_, hquery⟩
        · rw [hpane]
          exact (if_neg hstays).trans hactive
        · rw [hpane]
          simp [Pane.left, hstays, hopen]
      · have hpane : w.page.pane r = v.page.pane r := by
          simp [hw, View.setPage, Page.moved, hrp, hrq]
        exact ⟨hpane ▸ hactive, hpane ▸ hopen, hquery⟩
  have hmem : q ∈ w.page.panes := hq
  split
  · next hshown =>
    rw [refreshPaneSearch_eq (hkept.page.shows q hmem)]
    refine ⟨hkept.setHighlights _, (hlit.searched hkept.page hmem).weaken fun r hr => ?_, rfl⟩
    exact hr.1.resolve_right fun hrq => hr.2 hrq.1
  · next hhidden =>
    refine ⟨hkept, fun u r hu hr hlit' => ?_, rfl⟩
    refine hlit u r hu (fun hex => ?_) hlit'
    obtain ⟨rfl, hactive⟩ := hex.resolve_left hr
    -- The pane is left without a tab.
    have hnone : (w.page.pane r).activeTab = none := by
      by_contra hsome
      exact hhidden ⟨decide_eq_true hactive, hsome⟩
    have hin := ((hkept.page.mem_tabs r hmem u).mpr hu)
    rw [(hkept.page.shows r hmem).empty hnone] at hin
    cases hin

/-- The button that moves a tab keeps what holds of the view. -/
theorem Shows.moveTabToPane (h : v.Shows) (t : TabId) (hp : p ∈ v.page.panes) :
    (v.moveTabToPane t p true).Shows := by
  unfold View.moveTabToPane
  cases ht : (v.page.tab t).pane with
  | none => exact h
  | some q =>
    dsimp only
    split
    · exact h
    · next hqp =>
      obtain ⟨hkept, hlight, hpainted⟩ := h.toKept.transfer h.highlights ht hqp hp
      have hmoved := h.page.moveTabToPane_eq ht hqp
      rw [if_pos rfl]
      refine hkept.activateTab (p := p) ⟨?_, ?_⟩ hlight ?_
      · rw [hpainted, transfer_page, hmoved]
        exact h.layout.button
      · rw [hpainted, transfer_page, hmoved]
        exact h.layout.split
      · rw [transfer_page, hmoved]
        simp [Page.moved]

/-- A tab of a pane that goes. -/
theorem Kept.moveTabToPane (h : v.Kept) (hlight : v.Highlights) (t : TabId)
    (hp : p ∈ v.page.panes) :
    (v.moveTabToPane t p false).Kept ∧ (v.moveTabToPane t p false).Highlights := by
  unfold View.moveTabToPane
  cases ht : (v.page.tab t).pane with
  | none => exact ⟨h, hlight⟩
  | some q =>
    dsimp only
    split
    · exact ⟨h, hlight⟩
    · next hqp =>
      obtain ⟨hkept, hlit, -⟩ := h.transfer hlight ht hqp hp
      have hmem : p ∈ (v.transfer t q p).page.panes := by
        rw [transfer_page, h.page.moveTabToPane_eq ht hqp]
        exact hp
      rw [if_neg Bool.false_ne_true, refreshPaneSearch_eq (hkept.page.shows p hmem)]
      exact ⟨hkept.setHighlights _, (hlit.searched hkept.page hmem).weaken fun r hr => hr.2 hr.1⟩

/-- The tabs of a pane that goes. -/
theorem Kept.moveTabs (h : v.Kept) (hlight : v.Highlights) (hp : p ∈ v.page.panes)
    (hqp : p ≠ q) (l : List TabId) :
    (l.foldl (fun v t => v.moveTabToPane t p false) v).Kept ∧
      (l.foldl (fun v t => v.moveTabToPane t p false) v).Highlights := by
  induction l generalizing v with
  | nil => exact ⟨h, hlight⟩
  | cons first rest ih =>
    obtain ⟨hkept, hlit⟩ := h.moveTabToPane hlight first hp
    refine ih hkept hlit ?_
    rw [moveTabToPane_page, (h.page.leaves hqp first).1.panes]
    exact hp

/-! ## Panes -/

/-- The search bars and the width do not matter to what is painted on tabs and panes. -/
theorem PaintsTabs.sameLook (h : v.PaintsTabs) (hsame : v.page.SameLook s) :
    (v.setPage s).PaintsTabs := by
  have htabs : s.allTabs = v.page.allTabs := by
    unfold Page.allTabs
    rw [hsame.panes]
    exact congrArg (fun f => v.page.panes.flatMap f) (funext fun p => hsame.tabs p)
  refine ⟨?_, ?_, ?_⟩
  · intro p hp t ht
    refine (h.tab p (hsame.panes ▸ hp) t (hsame.tabs p ▸ ht)).trans ?_
    change _ = s.paintTab p t
    simp [Page.paintTab, hsame.panes, hsame.activeTab]
  · intro p hp
    refine (h.pane p (hsame.panes ▸ hp)).trans ?_
    change _ = s.paintPane p
    simp [Page.paintPane, hsame.panes, hsame.tabs, hsame.focusedPane]
  · refine h.sessionOpen.trans ?_
    change _ = decide (0 < s.allTabs.length)
    rw [htabs]

/-- The search bars and the width do not matter to what is settled. -/
theorem Settled.sameLook (h : v.Settled) (hsame : v.page.SameLook s) (hwired : s.Wired) :
    (v.setPage s).Settled := by
  have hactive := hsame.active
  have hnamed : s.Named := by
    unfold Page.Named
    rw [hsame.tab]
    exact h.named
  refine ⟨h.toKept.setPage hwired hnamed fun t => by rw [hsame.tab], ?_, ?_,
    h.paints.sameLook hsame, ?_⟩
  · refine h.hash.trans ?_
    change v.page.address = s.address
    unfold Page.address
    rw [hactive, hsame.tab]
  · refine h.line.trans ?_
    change _ = s.activeTab.elim _ _
    rw [hactive]
    rfl
  · intro harmed
    change s.activeTab = v.armedFor ∨ s.activeTab = none
    rw [hactive]
    exact h.ctrl harmed

/-- Laying out the panes anew keeps what holds apart from the layout and the highlights. -/
theorem Settled.layoutPanes (h : v.Settled) : v.layoutPanes.Settled :=
  ⟨⟨h.page, h.named, h.titled⟩, h.hash, h.line,
    layoutPanes_paints h.page, h.ctrl⟩

/-- A pane is added, and gets the focus. -/
theorem Shows.addPane (h : v.Shows) : v.addPane.Shows := by
  have hwired := h.page.addPane
  unfold View.addPane
  unfold Page.addPane at hwired
  split
  · exact h
  · next hfew =>
    rw [if_neg hfew] at hwired
    have hfresh : v.page.focusedPane ≠ some v.page.nextPaneId := by
      obtain ⟨p, hp, hfocused⟩ := h.page.focused
      rw [hfocused]
      rintro heq
      exact Nat.lt_irrefl _ (Option.some.inj heq ▸ h.page.panes_fresh p hp)
    have hclosed : ∀ t q, (v.page.tab t).pane = some q → q ≠ v.page.nextPaneId := fun t q ht =>
      Nat.ne_of_lt (h.page.panes_fresh q (h.page.home t q ht))
    rw [focusPane_of_ne (v := v.createPane.layoutPanes) hfresh]
    set u : View := ({ v.createPane.layoutPanes with ctrlArmed := false } : View).setPage
      (v.page.createPane.focusPane v.page.nextPaneId) with hu
    have htitled : u.Titled := by
      have hsame : u.bells = v.bells :=
        bells_congr (h.page.allTabs_perm hwired fun _ => Iff.rfl) fun _ => rfl
      exact h.titled.trans hsame.symm
    have hkept : u.Kept := ⟨hwired, h.named, htitled⟩
    refine ⟨hkept.synced rfl, ⟨fun p hp => if_pos hp, rfl⟩, ?_⟩
    intro t q ht _ hlit
    obtain ⟨hactive, hopen, hquery⟩ := h.highlights t q ht not_false hlit
    have hne := hclosed t q ht
    have hpane : u.page.pane q = v.page.pane q := by
      simp [hu, View.setPage, Page.createPane, hne]
    refine ⟨?_, ?_, ?_⟩
    · change (u.page.pane q).activeTab = some t
      rw [hpane]
      exact hactive
    · change (u.page.pane q).searchHidden = false
      rw [hpane]
      exact hopen
    · change Function.update v.query v.page.nextPaneId [] q ≠ []
      rw [Function.update_of_ne hne]
      exact hquery

/-- The title still counts the bells when a pane without tabs is taken away. -/
theorem Kept.alone (h : v.Kept) (hp : p ∈ v.page.panes)
    (hhome : ∀ t q, (v.page.tab t).pane = some q → q = p) :
    (v.page.alone p).Wired ∧
      (v.setPage { v.page with panes := [p] }).layoutPanes.Titled := by
  have halone := h.page.alone hp hhome
  have hperm : (v.page.alone p).allTabs.Perm v.page.allTabs :=
    h.page.allTabs_perm halone fun _ => Iff.rfl
  have hsame : (v.setPage { v.page with panes := [p] }).layoutPanes.bells = v.bells :=
    bells_congr hperm fun _ => rfl
  exact ⟨halone, h.titled.trans hsame.symm⟩

/-- The pane that is left shows its tab. -/
theorem Kept.activateLast (h : v.Kept) (hlight : v.Highlights) (hp : p ∈ v.page.panes)
    (hhome : ∀ t q, (v.page.tab t).pane = some q → q = p) (ht : (v.page.tab t).pane = some p) :
    ((v.setPage { v.page with panes := [p] }).layoutPanes.activateTab t).Shows := by
  obtain ⟨halone, htitled⟩ := h.alone hp hhome
  have hone : ({ v.page with panes := [p] } : Page).activateTab t =
      (v.page.alone p).activateTab t := by
    rw [Page.activateTab_of_home (s := { v.page with panes := [p] }) ht,
      Page.activateTab_of_home (s := v.page.alone p) ht]
    rfl
  refine activateTab_shows (p := p) (hone ▸ halone.activateTab t) h.named htitled
    (layoutPanes_laidOut _) (fun u q hu _ hlit => ?_) ht
  exact hlight u q hu not_false hlit

/-- The pane that is left gets the focus. -/
theorem Settled.focusLast (h : v.Settled) (hlight : v.Highlights) (hp : p ∈ v.page.panes)
    (hhome : ∀ t q, (v.page.tab t).pane = some q → q = p) :
    ((v.setPage { v.page with panes := [p] }).layoutPanes.focusPane p).Shows := by
  obtain ⟨halone, htitled⟩ := h.toKept.alone hp hhome
  have hlaid := layoutPanes_laidOut (v.setPage { v.page with panes := [p] })
  by_cases hfocused : v.page.focusedPane = some p
  · have hone : ({ v.page with panes := [p] } : Page) = v.page.alone p := by
      rw [Page.alone, ← hfocused]
    have hsame : (v.setPage { v.page with panes := [p] }).layoutPanes.focusPane p =
        (v.setPage { v.page with panes := [p] }).layoutPanes := if_pos hfocused
    rw [hsame]
    have hwired : ({ v.page with panes := [p] } : Page).Wired := hone ▸ halone
    exact ⟨⟨⟨hwired, h.named, htitled⟩, h.hash, h.line, layoutPanes_paints hwired, h.ctrl⟩, hlaid,
      hlight⟩
  · rw [focusPane_of_ne (v := (v.setPage { v.page with panes := [p] }).layoutPanes) hfocused]
    set u := ({ (v.setPage { v.page with panes := [p] }).layoutPanes with ctrlArmed := false } :
      View).setPage (v.page.alone p) with hu
    have hkept : u.Kept := ⟨halone, h.named, htitled⟩
    exact ⟨hkept.synced rfl, ⟨hlaid.button, hlaid.split⟩, hlight⟩

/-- A pane is merged into the other one. -/
theorem Settled.removePane (h : v.Settled) (hlight : v.Highlights) (hp : p ∈ v.page.panes) :
    (v.removePane p).Settled ∧ (v.removePane p).Highlights ∧
      (v.LaidOut → (v.removePane p).LaidOut) := by
  by_cases hmany : v.page.panes.length < 2
  · have hsame : v.removePane p = v := by rw [View.removePane, if_pos hmany]
    rw [hsame]
    exact ⟨h, hlight, id⟩
  · obtain ⟨r, hr, hrp, hsurvivor, hsplice, hpanes⟩ := h.page.survivor hp hmany
    obtain ⟨hkept, hlit⟩ := h.toKept.moveTabs hlight hr hrp (v.page.pane p).tabs
    obtain ⟨-, hleaves, haway, -⟩ := h.page.moveTabs hr hrp (v.page.pane p).tabs
    have hpage := foldl_page_eq (f := fun v t => View.moveTabToPane v t r false)
      (g := fun s t => Page.moveTabToPane s t r false)
      (fun v t => moveTabToPane_page v t r false) (v.page.pane p).tabs v
    rw [← hpage] at hleaves haway
    unfold View.removePane
    rw [if_neg hmany]
    simp only [hsurvivor]
    generalize hw :
      (v.page.pane p).tabs.foldl (fun v t => View.moveTabToPane v t r false) v = w at *
    rw [hleaves.panes, hsplice]
    have hr' : r ∈ w.page.panes := hleaves.panes ▸ hr
    -- No tab is in the pane that goes.
    have hhome : ∀ t q, (w.page.tab t).pane = some q → q = r := by
      intro t q ht
      refine (hpanes q (hleaves.panes ▸ hkept.page.home t q ht)).resolve_left fun hqp => ?_
      subst hqp
      by_cases hbefore : (v.page.tab t).pane = some q
      · exact haway t ((h.page.mem_tabs q hp t).mpr hbefore) ht
      · exact hleaves.away t hbefore ht
    refine (fun hshows => ⟨hshows.toSettled, hshows.highlights, fun _ => hshows.layout⟩ :
      View.Shows _ → _) ?_
    split
    · next t hactive =>
      have hmem := (hkept.page.shows r hr').mem t hactive
      exact hkept.activateLast hlit hr' hhome ((hkept.page.mem_tabs r hr' t).mp hmem)
    · next hactive =>
      -- No tab has come to the other pane, so there was none to move.
      have hempty : (v.page.pane p).tabs = [] := by
        refine List.eq_nil_iff_forall_not_mem.mpr fun t ht => ?_
        have hopen : (w.page.tab t).pane ≠ none := by
          rw [Ne, hleaves.closed_iff, (h.page.mem_tabs p hp t).mp ht]
          exact Option.some_ne_none p
        obtain ⟨q, hq⟩ := Option.ne_none_iff_exists'.mp hopen
        have hmem := (hkept.page.mem_tabs r hr' t).mpr (hhome t q hq ▸ hq)
        rw [(hkept.page.shows r hr').empty hactive] at hmem
        cases hmem
      rw [hempty, List.foldl_nil] at hw
      subst hw
      exact h.focusLast hlight hr hhome

/-- The panes of a narrow window are merged. -/
theorem Settled.mergePanes (h : v.Settled) (hlight : v.Highlights) (n : ℕ) :
    (View.mergePanes n v).Settled ∧ (View.mergePanes n v).Highlights := by
  induction n generalizing v with
  | zero => exact ⟨h, hlight⟩
  | succ n ih =>
    unfold View.mergePanes
    cases hlast : v.page.panes.getLast? with
    | none => exact ⟨h, hlight⟩
    | some last =>
      dsimp only
      split
      · obtain ⟨hsettled, hlit, -⟩ := h.removePane hlight (List.mem_of_getLast? hlast)
        exact ih hsettled hlit
      · exact ⟨h, hlight⟩

/-- The width changes, or the page is laid out for the first time. -/
theorem Settled.applyWidthLimit (h : v.Settled) (hlight : v.Highlights) :
    v.applyWidthLimit.Shows := by
  obtain ⟨hsettled, hlit⟩ := h.mergePanes hlight v.page.panes.length
  exact ⟨hsettled.layoutPanes, layoutPanes_laidOut _, hlit⟩

/-- A change of the width keeps what holds of the view. -/
theorem Shows.width (h : v.Shows) (wideEnough : Bool) :
    (v.setPage { v.page with wideEnough := wideEnough }).applyWidthLimit.Shows := by
  have hwired : ({ v.page with wideEnough := wideEnough } : Page).Wired := by
    have hpage := h.page
    constructor
    exacts [hpage.panes_nodup, hpage.panes_fresh, hpage.panes_length, hpage.focused, hpage.created,
      hpage.home, hpage.tabs_nodup, hpage.mem_tabs, hpage.distinct, hpage.shows]
  have hsame : v.page.SameLook { v.page with wideEnough := wideEnough } :=
    ⟨rfl, fun _ => rfl, fun _ => rfl, rfl, rfl⟩
  exact (h.toSettled.sameLook hsame hwired).applyWidthLimit h.highlights

/-! ## Closing a tab -/

/-- What holds after a tab is closed, however its pane goes on. -/
theorem Kept.closed {w : View} (h : v.Kept) (ht : (v.page.tab t).pane = some p)
    (hpage : w.page = v.page.closeTab t)
    (hwaiting : w.waiting = (v.setPage (v.page.without t p)).bells)
    (hbell : ∀ u, (w.marks u).bell = (v.marks u).bell) : w.Kept := by
  refine ⟨hpage ▸ h.page.closeTab t, ?_, ?_⟩
  · rw [hpage]
    intro u
    rw [h.page.closeTab_tab ht]
    by_cases hut : u = t
    · subst hut
      simpa using h.named u
    · simpa [hut] using h.named u
  · refine hwaiting.trans (bells_congr ?_ fun u => ?_).symm
    · rw [hpage, Page.closeTab_allTabs ht]
      exact .rfl
    · exact hbell u

/-- The highlights after a tab is closed: a tab that is searched is not the one that was closed. -/
theorem HighlightsBut.closed {w : View} (h : v.HighlightsBut exempt) (hwired : v.page.Wired)
    (ht : (v.page.tab t).pane = some p) (hpage : w.page = v.page.closeTab t)
    (hquery : w.query = v.query)
    (hlit : ∀ u, (w.marks u).highlighted = true → (v.marks u).highlighted = true) :
    w.HighlightsBut exempt := by
  intro u q hu hexempt hlight
  rw [hpage, hwired.closeTab_tab ht] at hu
  have hut : u ≠ t := by
    rintro rfl
    simp at hu
  rw [Function.update_of_ne hut] at hu
  obtain ⟨hactive, hopen, hsome⟩ := h u q hu hexempt (hlit u hlight)
  have hpane : (v.page.closeTab t).pane q = v.page.pane q ∨ q = p ∧
      (v.page.closeTab t).pane q =
        (v.page.pane q).closed t (decide (v.page.focusedPane = some p)) := by
    rw [hwired.closeTab_eq ht]
    by_cases hqp : q = p
    · subst hqp
      exact Or.inr ⟨rfl, by simp⟩
    · exact Or.inl (by simp [hqp])
  unfold View.Searched
  rw [hpage, hquery]
  rcases hpane with hsame | ⟨-, hclosed⟩
  · rw [hsame]
    exact ⟨hactive, hopen, hsome⟩
  · have hother : (v.page.pane q).activeTab ≠ some t := by
      rw [hactive]
      exact fun heq => hut (Option.some.inj heq)
    have hmany : (v.page.pane q).tabs ≠ [t] := by
      intro htabs
      have hmem := (hwired.mem_of_home hu).2
      rw [htabs, List.mem_singleton] at hmem
      exact hut hmem
    rw [hclosed]
    exact ⟨(if_neg hother).trans hactive, by simp [Pane.closed, hopen, hmany], hsome⟩

/-- A tab is closed, and none is shown in its place, unless in a pane without the focus. -/
theorem Shows.closed {w : View} (h : v.Shows) (ht : (v.page.tab t).pane = some p)
    (hpage : w.page = v.page.closeTab t)
    (hwaiting : w.waiting = (v.setPage (v.page.without t p)).bells)
    (hmarks : ∃ f, w.marks = (v.setHighlights f).marks ∧
      ∀ u, f u = true → (v.marks u).highlighted = true)
    (hhash : w.hash = w.page.address)
    (hline : w.page.activeTab = v.page.activeTab ∧ w.line = v.line ∨
      w.page.activeTab = none ∧ w.line = .idle)
    (hpaints : w.PaintsTabs)
    (hrest : w.query = v.query ∧ w.ctrlArmed = v.ctrlArmed ∧ w.armedFor = v.armedFor ∧
      w.painted.button = v.painted.button ∧ w.painted.split = v.painted.split) : w.Shows := by
  obtain ⟨f, hmarks, hless⟩ := hmarks
  obtain ⟨hquery, hctrl, harmed, hbutton, hsplit⟩ := hrest
  obtain ⟨hpanes, -, hwide, -⟩ := h.page.closeTab_frame ht
  have hstatus : ∀ u, (w.marks u).status = (v.marks u).status := fun u => by rw [hmarks]; rfl
  refine ⟨⟨h.toKept.closed ht hpage hwaiting fun u => by rw [hmarks]; rfl, hhash, ?_, hpaints, ?_⟩,
    ⟨?_, ?_⟩, ?_⟩
  · rcases hline with ⟨hactive, hline⟩ | ⟨hnone, hline⟩
    · rw [hline, h.line, hactive]
      cases v.page.activeTab with
      | none => rfl
      | some u => exact (hstatus u).symm
    · rw [hline, hnone]
      rfl
  · rcases hline with ⟨hactive, -⟩ | ⟨hnone, -⟩
    · rw [hctrl, harmed, hactive]
      exact h.ctrl
    · exact fun _ => Or.inr hnone
  · rw [hpage, hpanes, hbutton]
    intro q hq
    refine (h.layout.button q hq).trans ?_
    simp [Page.paintSplit, hpanes, hwide]
  · rw [hpage, hpanes, hsplit]
    exact h.layout.split
  · refine h.highlights.closed h.page ht hpage hquery fun u hu => hless u ?_
    rw [hmarks] at hu
    exact hu

/-- The view when `closeTab` has taken the tab out of its pane. -/
def vacate (v : View) (t : TabId) (p : PaneId) : View :=
  (v.setPage (v.page.without t p)).updateDocTitle

/-- The view when the pane has the neighbour of the closed tab as its active tab, or none. -/
def turn (v : View) (t : TabId) (p : PaneId) : View :=
  (v.vacate t p).setPage ((v.vacate t p).page.onPane p fun pane =>
    { pane with activeTab := neighbour (v.page.pane p).tabs t })

/-- The closed tab is in no pane, and nothing else changes at the tabs. -/
theorem turn_tab (v : View) (t : TabId) (p : PaneId) :
    (v.turn t p).page.tab = Function.update v.page.tab t { v.page.tab t with pane := none } := rfl

/-- The names of the projects stay. -/
theorem turn_named (h : v.page.Named) : (v.turn t p).page.Named := by
  intro u
  rw [turn_tab]
  by_cases hut : u = t
  · subst hut
    simpa using h u
  · simpa [hut] using h u

/-- The focused pane shows the neighbour of its active tab when this is closed. -/
theorem Shows.closeTab_next (h : v.Shows) (ht : (v.page.tab t).pane = some p)
    (hactive : (v.page.pane p).activeTab = some t) (hfocused : v.page.focusedPane = some p)
    {n : TabId} (hnext : neighbour (v.page.pane p).tabs t = some n) : (v.closeTab t).Shows := by
  have hpage := closeTab_page v t
  have hwired := h.page.closeTab t
  have heq : v.closeTab t = (v.turn t p).activateTab n := by
    simp [View.closeTab, ht, hactive, hnext, hfocused, turn, vacate, Page.without]
  rw [heq] at hpage ⊢
  rw [activateTab_page] at hpage
  obtain ⟨hne, hn⟩ :=
    (h.page.tabs_nodup p (h.page.mem_of_home ht).1).mem_erase_iff.mp (neighbour_mem hnext)
  have hhome := (h.page.mem_tabs p (h.page.mem_of_home ht).1 n).mp hn
  have hlisted : (v.turn t p).page.allTabs = (v.vacate t p).page.allTabs :=
    Page.onPane_allTabs (s := (v.vacate t p).page) (p := p)
      (f := fun pane => { pane with activeTab := neighbour (v.page.pane p).tabs t }) rfl
  have hbells : (v.turn t p).bells = (v.vacate t p).bells :=
    bells_congr (.of_eq hlisted) fun _ => rfl
  refine activateTab_shows (p := p) (hpage ▸ hwired) (turn_named h.named) hbells.symm ?_ ?_ ?_
  · exact h.layout.setPage (s := (v.turn t p).page) rfl rfl |>.congr rfl rfl
  · -- The search bar of the focused pane is the one that `activateTab` takes care of.
    refine h.highlights.mono (fun _ hu => hu) (fun u q hu hqp => ⟨?_, not_false⟩) ?_
    · by_cases hut : u = t
      · subst hut
        simp [turn_tab] at hu
      · simpa [turn_tab, hut] using hu
    · intro u q hqp hsearched
      have hpane : (v.turn t p).page.pane q = v.page.pane q := by
        simp [turn, vacate, View.setPage, View.updateDocTitle, Page.without, hqp]
      unfold View.Searched at hsearched ⊢
      rw [hpane]
      exact hsearched
  · simpa [turn_tab, hne] using hhome

/-- The focused pane is left without a tab: its search bar is closed, and no tab is active. -/
theorem Shows.closeTab_last (h : v.Shows) (ht : (v.page.tab t).pane = some p)
    (hactive : (v.page.pane p).activeTab = some t) (hfocused : v.page.focusedPane = some p)
    (hnext : neighbour (v.page.pane p).tabs t = none) : (v.closeTab t).Shows := by
  have hpage := closeTab_page v t
  have heq : v.closeTab t =
      { (v.turn t p).paintPanes.syncHash.closeSearch p with line := .idle } := by
    simp [View.closeTab, ht, hactive, hnext, hfocused, turn, vacate, Page.without, View.setPage,
      View.updateDocTitle]
  rw [heq] at hpage ⊢
  have hclosed : (v.turn t p).page.closeSearch p = v.page.closeTab t := hpage
  have hnone : (v.turn t p).page.activeTab = none := by
    simp [turn, vacate, View.setPage, View.updateDocTitle, Page.without, Page.activeTab, hfocused,
      hnext]
  have hsame := Page.sameLook_search (v.turn t p).page p true
  have hnone' : ((v.turn t p).page.closeSearch p).activeTab = none := hsame.active.trans hnone
  refine h.closed ht hpage rfl ⟨_, rfl, fun u hu => (Bool.and_eq_true _ _ ▸ hu).1⟩ ?_
    (Or.inr ⟨hnone', rfl⟩) ?_ ⟨rfl, rfl, rfl, rfl, rfl⟩
  · refine (syncHash_hash (turn_named h.named)).trans ?_
    change (v.turn t p).page.address = ((v.turn t p).page.closeSearch p).address
    rw [Page.address, Page.address, hnone, hnone']
    rfl
  · have hopen : (v.turn t p).page.Wired := Page.Wired.of_closeSearch (hclosed ▸ h.page.closeTab t)
    exact ((paintPanes_paints hopen).sameLook hsame).congr rfl rfl

/-- Where the closed tab was not the active one of the page, the active tab and its address stay. -/
theorem Shows.closeTab_stays (h : v.Shows) (ht : (v.page.tab t).pane = some p)
    (hother : v.page.activeTab ≠ some t) :
    (v.page.closeTab t).activeTab = v.page.activeTab ∧ v.hash = (v.page.closeTab t).address :=
  ⟨h.page.closeTab_activeTab ht hother, h.hash.trans (h.page.closeTab_address ht hother).symm⟩

/-- Closing a tab keeps what holds of the view. -/
theorem Shows.closeTab (h : v.Shows) (t : TabId) : (v.closeTab t).Shows := by
  cases ht : (v.page.tab t).pane with
  | none => simpa [View.closeTab, ht] using h
  | some p =>
    have hpage := closeTab_page v t
    have hwired := h.page.closeTab t
    have hself : ∃ f, v.marks = (v.setHighlights f).marks ∧
        ∀ u, f u = true → (v.marks u).highlighted = true :=
      ⟨fun u => (v.marks u).highlighted, rfl, fun _ => id⟩
    by_cases hactive : (v.page.pane p).activeTab = some t
    · by_cases hfocused : v.page.focusedPane = some p
      · cases hnext : neighbour (v.page.pane p).tabs t with
        | some n => exact h.closeTab_next ht hactive hfocused hnext
        | none => exact h.closeTab_last ht hactive hfocused hnext
      · have heq : v.closeTab t = (v.turn t p).paintPanes.syncHash := by
          cases hnext : neighbour (v.page.pane p).tabs t <;>
            simp [View.closeTab, ht, hactive, hnext, hfocused, turn, vacate, Page.without]
        rw [heq] at hpage ⊢
        have hother : v.page.activeTab ≠ some t := fun hsame =>
          hfocused (h.page.activeTab_home ht hsame).1
        obtain ⟨hsame, -⟩ := h.closeTab_stays ht hother
        refine h.closed ht hpage rfl hself (syncHash_hash (turn_named h.named))
          (Or.inl ⟨?_, rfl⟩) ?_ ⟨rfl, rfl, rfl, rfl, rfl⟩
        · rw [hpage]
          exact hsame
        · exact (paintPanes_paints (v := v.turn t p) (hpage ▸ hwired)).congr rfl rfl
    · have heq : v.closeTab t = (v.vacate t p).paintPanes := by
        simp [View.closeTab, ht, hactive, vacate]
      rw [heq] at hpage ⊢
      have hother : v.page.activeTab ≠ some t := fun hsame =>
        hactive (h.page.activeTab_home ht hsame).2
      obtain ⟨hsame, hhash⟩ := h.closeTab_stays ht hother
      refine h.closed ht hpage rfl hself ?_ (Or.inl ⟨?_, rfl⟩) ?_ ⟨rfl, rfl, rfl, rfl, rfl⟩
      · rw [hpage]
        exact hhash
      · rw [hpage]
        exact hsame
      · exact paintPanes_paints (v := v.vacate t p) (hpage ▸ hwired)

end

end View

end WTerm
