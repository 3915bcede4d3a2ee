import Mathlib.Data.List.Perm.Basic
import WTerm.Client.ViewSteps

/-!
# What holds of a view

After every event the view shows the state of the page: the address and the status line are those
of the active tab, the painted classes are up to date, the title counts the tabs that wait, and only
a tab that is shown under an open search bar has highlights. Within an operation some of it fails;
what does not is stated on its own.
-/

namespace WTerm

open Transition

namespace Page

/-- The fragment that belongs to the active tab. -/
def address (s : Page) : PyStr :=
  s.activeTab.elim [] fun t => (syncHash (s.tab t).name (s.tab t).agent).getD []

/-- The names of the tabs can be encoded. -/
def Named (s : Page) : Prop := ∀ t, ∀ c ∈ (s.tab t).name, IsScalar c

/-- The pages differ in their search bars and in the width at most. -/
structure SameLook (s s' : Page) : Prop where
  panes : s'.panes = s.panes
  tabs : ∀ p, (s'.pane p).tabs = (s.pane p).tabs
  activeTab : ∀ p, (s'.pane p).activeTab = (s.pane p).activeTab
  tab : s'.tab = s.tab
  focusedPane : s'.focusedPane = s.focusedPane

end Page

namespace View

/-- The title counts the bells. -/
def Titled (v : View) : Prop := v.waiting = v.bells

/-- What holds within an operation, too. -/
structure Kept (v : View) : Prop where
  page : v.page.Wired
  named : v.page.Named
  titled : v.Titled

/-- Tabs and panes look like what they are. -/
structure PaintsTabs (v : View) : Prop where
  tab : ∀ p ∈ v.page.panes, ∀ t ∈ (v.page.pane p).tabs, v.painted.tab t = v.page.paintTab p t
  pane : ∀ p ∈ v.page.panes, v.painted.pane p = v.page.paintPane p
  sessionOpen : v.painted.sessionOpen = decide (0 < v.page.allTabs.length)

/-- The panes are laid out. -/
structure LaidOut (v : View) : Prop where
  button : ∀ p ∈ v.page.panes, v.painted.button p = v.page.paintSplit
  split : v.painted.split = decide (1 < v.page.panes.length)

/-- What holds after every event, apart from the layout and the highlights. -/
structure Settled (v : View) : Prop extends Kept v where
  hash : v.hash = v.page.address
  line : v.line = v.page.activeTab.elim .idle fun t => (v.marks t).status
  paints : v.PaintsTabs
  /-- Ctrl is armed for the active tab, unless that was closed. -/
  ctrl : v.ctrlArmed = true → v.page.activeTab = v.armedFor ∨ v.page.activeTab = none

/-- A search shows highlights in the tab. -/
def Searched (v : View) (t : TabId) (p : PaneId) : Prop :=
  (v.page.pane p).activeTab = some t ∧ (v.page.pane p).searchHidden = false ∧ v.query p ≠ []

/-- Only a tab that is searched has highlights, but for the tabs of some panes. -/
def HighlightsBut (v : View) (exempt : PaneId → Prop) : Prop :=
  ∀ t p, (v.page.tab t).pane = some p → ¬exempt p → (v.marks t).highlighted = true → v.Searched t p

/-- Only a tab that is searched has highlights. -/
def Highlights (v : View) : Prop := v.HighlightsBut fun _ => False

/-- What holds of the view after every event. -/
structure Shows (v : View) : Prop extends Settled v where
  layout : v.LaidOut
  highlights : v.Highlights

section

variable {v : View} {s s' : Page} {t : TabId} {p q : PaneId} {exempt : PaneId → Prop}

/-! ## Frames -/

/-- What is painted depends on the page and on what was painted. -/
theorem PaintsTabs.congr {w : View} (h : v.PaintsTabs) (hpage : w.page = v.page)
    (hpainted : w.painted = v.painted) : w.PaintsTabs := by
  constructor
  · rw [hpage, hpainted]
    exact h.tab
  · rw [hpage, hpainted]
    exact h.pane
  · rw [hpage, hpainted]
    exact h.sessionOpen

/-- The layout depends on the page and on what is painted only. -/
theorem LaidOut.congr {w : View} (h : v.LaidOut) (hpage : w.page = v.page)
    (hpainted : w.painted = v.painted) : w.LaidOut := by
  constructor
  · rw [hpage, hpainted]
    exact h.button
  · rw [hpage, hpainted]
    exact h.split

/-- A change of the highlights leaves the page as it is. -/
@[simp]
theorem setHighlights_page (v : View) (f : TabId → Bool) : (v.setHighlights f).page = v.page := rfl

/-- Highlights do not matter to the rest. -/
theorem Settled.setHighlights (h : v.Settled) (f : TabId → Bool) : (v.setHighlights f).Settled :=
  ⟨⟨h.page, h.named, h.titled⟩, h.hash, h.line, h.paints.congr rfl rfl, h.ctrl⟩

theorem Kept.setHighlights (h : v.Kept) (f : TabId → Bool) : (v.setHighlights f).Kept :=
  ⟨h.page, h.named, h.titled⟩

/-- Highlights that are set twice are those that were set last. -/
@[simp]
theorem setHighlights_setHighlights (v : View) (f g : TabId → Bool) :
    (v.setHighlights f).setHighlights g = v.setHighlights g := rfl

/-- Only the tab of a pane that is searched has highlights afterwards. -/
def searched (v : View) (p : PaneId) : View :=
  v.setHighlights fun t =>
    if t ∈ (v.page.pane p).tabs then
      decide ((v.page.pane p).activeTab = some t ∧ (v.page.pane p).searchHidden = false ∧
        v.query p ≠ [])
    else (v.marks t).highlighted

/-- Setting the highlights to what they are changes nothing. -/
theorem setHighlights_self {f : TabId → Bool} (hf : ∀ t, f t = (v.marks t).highlighted) :
    v.setHighlights f = v := by
  obtain rfl : f = fun t => (v.marks t).highlighted := funext hf
  rfl

/-- Under an open search bar `runSearch` highlights the active tab of the pane and clears its other
tabs. -/
theorem runSearch_eq (hshows : (v.page.pane p).Shows)
    (hopen : (v.page.pane p).searchHidden = false) : v.runSearch p = v.searched p := by
  unfold View.runSearch
  cases hactive : (v.page.pane p).activeTab with
  | none =>
    refine (setHighlights_self fun t => ?_).symm
    rw [hshows.empty hactive, if_neg List.not_mem_nil]
  | some u =>
    have hu := hshows.mem u hactive
    dsimp only
    have hquery : (v.clearDecorations ((v.page.pane p).tabs.filter (· ≠ u))).query = v.query := rfl
    rw [hquery]
    split
    · next hnone =>
      refine congrArg v.setHighlights (funext fun t => ?_)
      by_cases htu : t = u
      · subst htu
        simp [hu, hnone, View.clearDecorations, View.setHighlights]
      · by_cases ht : t ∈ (v.page.pane p).tabs <;>
          simp [ht, htu, hnone, View.clearDecorations, View.setHighlights]
    · next hsome =>
      refine congrArg v.setHighlights (funext fun t => ?_)
      by_cases htu : t = u
      · subst htu
        simp [hu, hsome, hopen, hactive, View.clearDecorations, View.setHighlights]
      · by_cases ht : t ∈ (v.page.pane p).tabs <;>
          simp [ht, htu, Ne.symm htu, hactive, View.clearDecorations, View.setHighlights]

/-- In a pane with an active tab `refreshPaneSearch` highlights that tab if the search bar is open,
and clears the other tabs of the pane. -/
theorem refreshPaneSearch_eq (hshows : (v.page.pane p).Shows) :
    v.refreshPaneSearch p = v.searched p := by
  unfold View.refreshPaneSearch
  dsimp only
  split
  · next h =>
    rw [runSearch_eq (v := v.clearDecorations _) hshows h.1]
    refine congrArg v.setHighlights (funext fun t => ?_)
    by_cases ht : t ∈ (v.page.pane p).tabs
    · rw [if_pos ht]
      exact if_pos ht
    · rw [if_neg ht]
      refine (if_neg ht).trans ?_
      simp [ht, View.clearDecorations, View.setHighlights]
  · next h =>
    refine congrArg v.setHighlights (funext fun t => ?_)
    by_cases ht : t ∈ (v.page.pane p).tabs
    · have hnot : ¬((v.page.pane p).activeTab = some t ∧
          (v.page.pane p).searchHidden = false ∧ v.query p ≠ []) := by
        rintro ⟨hactive, hopen, hquery⟩
        exact h ⟨hopen, by simp [View.clearDecorations, hactive], hquery⟩
      simp [ht, hnot]
    · simp [ht]

/-- Highlights after a change in which no tab gets any. -/
theorem HighlightsBut.mono {w : View} {exempt' : PaneId → Prop} (h : v.HighlightsBut exempt)
    (hlight : ∀ t, (w.marks t).highlighted = true → (v.marks t).highlighted = true)
    (hhome : ∀ t p, (w.page.tab t).pane = some p → ¬exempt' p →
      (v.page.tab t).pane = some p ∧ ¬exempt p)
    (hsearched : ∀ t p, ¬exempt' p → v.Searched t p → w.Searched t p) :
    w.HighlightsBut exempt' := by
  intro t p ht hexempt hlit
  obtain ⟨hbefore, hnot⟩ := hhome t p ht hexempt
  exact hsearched t p hexempt (h t p hbefore hnot (hlight t hlit))

/-- If the highlights are right but for some panes, they are right but for more panes. -/
theorem HighlightsBut.weaken {exempt' : PaneId → Prop} (h : v.HighlightsBut exempt)
    (hexempt : ∀ q, exempt q → exempt' q) : v.HighlightsBut exempt' :=
  fun t q ht hnot => h t q ht fun hq => hnot (hexempt q hq)

/-- A search puts the highlights of its pane in order. -/
theorem HighlightsBut.searched (h : v.HighlightsBut exempt) (hwired : v.page.Wired)
    (hp : p ∈ v.page.panes) : (v.searched p).HighlightsBut fun q => exempt q ∧ q ≠ p := by
  intro t q ht hexempt hlit
  obtain ⟨hq, hmem⟩ := hwired.mem_of_home ht
  by_cases hqp : q = p
  · subst hqp
    change (if t ∈ (v.page.pane q).tabs then _ else _) = true at hlit
    rw [if_pos hmem] at hlit
    have hsearched := of_decide_eq_true hlit
    exact hsearched
  · have hnot : t ∉ (v.page.pane p).tabs := by
      intro hin
      have hhome := (hwired.mem_tabs p hp t).mp hin
      exact hqp (Option.some.inj (ht.symm.trans hhome))
    exact h t q ht (fun hex => hexempt ⟨hex, hqp⟩) ((if_neg hnot).symm.trans hlit)

end

end View

namespace Page

variable {s s' : Page} {t : TabId} {p : PaneId}

/-- An open tab is listed in its pane. -/
theorem Wired.listedIn (h : s.Wired) (hp : p ∈ s.panes) (ht : t ∈ (s.pane p).tabs) :
    s.listedIn t = some p := by
  cases hfind : s.listedIn t with
  | none =>
    have hnot := List.find?_eq_none.mp hfind p hp
    exact absurd (decide_eq_true ht) hnot
  | some q =>
    have hq := List.mem_of_find?_eq_some hfind
    have hmem : t ∈ (s.pane q).tabs := of_decide_eq_true (List.find?_some hfind :)
    exact congrArg some (Option.some.inj
      (((h.mem_tabs q hq t).mp hmem).symm.trans ((h.mem_tabs p hp t).mp ht)))

/-- A name that can be encoded has a fragment. -/
theorem Named.syncHash (h : s.Named) (t : TabId) (agent : PyStr) :
    (WTerm.syncHash (s.tab t).name agent).isSome = true := by
  rw [WTerm.syncHash, encodeURIComponent_of_isScalar (h t)]
  rfl

/-- Every open tab is listed once. -/
theorem Wired.allTabs_nodup (h : s.Wired) : s.allTabs.Nodup := by
  refine List.nodup_flatMap.mpr ⟨h.tabs_nodup, h.panes_nodup.pairwise_of_forall_ne ?_⟩
  intro p hp q hq hpq t ht ht'
  have hhome := (h.mem_tabs p hp t).mp ht
  rw [(h.mem_tabs q hq t).mp ht', Option.some.injEq] at hhome
  exact hpq hhome.symm

/-- Pages with the same open tabs list the same tabs. -/
theorem Wired.allTabs_perm (h : s.Wired) (h' : s'.Wired)
    (hopen : ∀ t, (s'.tab t).pane = none ↔ (s.tab t).pane = none) : s'.allTabs.Perm s.allTabs := by
  refine (List.perm_ext_iff_of_nodup h'.allTabs_nodup h.allTabs_nodup).mpr fun t => ?_
  rw [h'.mem_allTabs, h.mem_allTabs]
  exact not_congr (hopen t)

end Page

namespace View

section

variable {v : View} {t : TabId} {p q : PaneId} {exempt : PaneId → Prop}

/-! ## Painting -/

/-- After `paintPanes` the painted tabs are those of the page. -/
theorem paintPanes_paints (h : v.page.Wired) : v.paintPanes.PaintsTabs := by
  refine ⟨fun p hp t ht => ?_, fun p hp => if_pos hp, rfl⟩
  have hlisted := h.listedIn hp ht
  simp [View.paintPanes, hlisted]

/-- After `layoutPanes` the painted tabs are those of the page, too. -/
theorem layoutPanes_paints (h : v.page.Wired) : v.layoutPanes.PaintsTabs := by
  unfold View.layoutPanes
  exact paintPanes_paints h

/-- After `layoutPanes` the painted layout is the one of the page. -/
theorem layoutPanes_laidOut (v : View) : v.layoutPanes.LaidOut := ⟨fun _ hp => if_pos hp, rfl⟩

/-- After `syncHash` the fragment names the tab of the page that has the focus, or is empty. -/
theorem syncHash_hash (h : v.page.Named) : v.syncHash.hash = v.page.address := by
  unfold View.syncHash Page.address
  cases v.page.activeTab with
  | none => rfl
  | some t =>
    obtain ⟨hash, hhash⟩ := Option.isSome_iff_exists.mp (h.syncHash t (v.page.tab t).agent)
    simp [hhash]

/-- Everything that an operation shows at its end is up to date. -/
theorem Kept.synced (h : v.Kept) (hctrl : v.ctrlArmed = false) :
    v.paintPanes.syncHash.showStatus.Settled where
  page := h.page
  named := h.named
  titled := h.titled
  hash := syncHash_hash h.named
  line := rfl
  paints := (paintPanes_paints h.page).congr rfl rfl
  ctrl harmed := by
    have hnot : v.ctrlArmed = true := harmed
    rw [hctrl] at hnot
    cases hnot

/-! ## Marks -/

/-- The bells depend on the marks of the open tabs. -/
theorem bells_congr {w : View} (hpage : w.page.allTabs.Perm v.page.allTabs)
    (hbell : ∀ t, (w.marks t).bell = (v.marks t).bell) : w.bells = v.bells := by
  unfold View.bells
  rw [hpage.countP_eq]
  exact List.countP_congr fun t _ => by rw [hbell t]

/-- The marks of a tab that keeps something of them. -/
theorem onMarks_field {α : Type*} (v : View) (t : TabId) (f : TabMarks → TabMarks)
    (g : TabMarks → α) (hf : ∀ m, g (f m) = g m) (u : TabId) :
    g ((v.onMarks t f).marks u) = g (v.marks u) := by
  by_cases hut : u = t
  · subst hut
    simp [View.onMarks, hf]
  · simp [View.onMarks, hut]

/-- A change of marks and title that does not touch the statuses. -/
structure Rings (v w : View) : Prop where
  page : w.page = v.page
  hash : w.hash = v.hash
  line : w.line = v.line
  painted : w.painted = v.painted
  query : w.query = v.query
  ctrlArmed : w.ctrlArmed = v.ctrlArmed
  armedFor : w.armedFor = v.armedFor
  status : ∀ t, (w.marks t).status = (v.marks t).status
  highlighted : ∀ t, (w.marks t).highlighted = (v.marks t).highlighted
  titled : v.Titled → w.Titled

/-- When nothing changes, no status is touched. -/
theorem Rings.refl (v : View) : v.Rings v :=
  ⟨rfl, rfl, rfl, rfl, rfl, rfl, rfl, fun _ => rfl, fun _ => rfl, id⟩

/-- Two changes of marks and title, one after the other, touch no status either. -/
theorem Rings.trans {w u : View} (h : v.Rings w) (h' : w.Rings u) : v.Rings u where
  page := h'.page.trans h.page
  hash := h'.hash.trans h.hash
  line := h'.line.trans h.line
  painted := h'.painted.trans h.painted
  query := h'.query.trans h.query
  ctrlArmed := h'.ctrlArmed.trans h.ctrlArmed
  armedFor := h'.armedFor.trans h.armedFor
  status t := (h'.status t).trans (h.status t)
  highlighted t := (h'.highlighted t).trans (h.highlighted t)
  titled ht := h'.titled (h.titled ht)

/-- A tab gets or loses its mark of unread output. -/
theorem rings_unread (v : View) (t : TabId) (unread : Bool) :
    v.Rings (v.onMarks t fun m => { m with unread := unread }) where
  page := rfl
  hash := rfl
  line := rfl
  painted := rfl
  query := rfl
  ctrlArmed := rfl
  armedFor := rfl
  status := onMarks_field v t _ TabMarks.status fun _ => rfl
  highlighted := onMarks_field v t _ TabMarks.highlighted fun _ => rfl
  titled ht := by
    have hsame : (v.onMarks t fun m => { m with unread := unread }).bells = v.bells :=
      bells_congr .rfl (onMarks_field v t _ TabMarks.bell fun _ => rfl)
    exact ht.trans hsame.symm

/-- A tab gets or loses its bell, and the title follows. -/
theorem rings_bell (v : View) (t : TabId) (bell : Bool) :
    v.Rings (v.onMarks t fun m => { m with bell := bell }).updateDocTitle where
  page := rfl
  hash := rfl
  line := rfl
  painted := rfl
  query := rfl
  ctrlArmed := rfl
  armedFor := rfl
  status := onMarks_field v t (fun m => { m with bell := bell }) TabMarks.status fun _ => rfl
  highlighted :=
    onMarks_field v t (fun m => { m with bell := bell }) TabMarks.highlighted fun _ => rfl
  titled _ := rfl

/-- `clearBell` changes marks and title at most. -/
theorem rings_clearBell (v : View) (t : TabId) : v.Rings (v.clearBell t) := by
  unfold View.clearBell
  split
  · exact rings_bell v t false
  · exact .refl v

/-- `onBell` changes marks and title at most. -/
theorem rings_onBell (v : View) (t : TabId) : v.Rings (v.onBell t) := by
  unfold View.onBell
  split
  · exact .refl v
  · split
    · exact .refl v
    · exact rings_bell v t true

/-- Output for a tab changes marks and title at most. -/
theorem rings_output (v : View) (t : TabId) : v.Rings (v.output t) := by
  unfold View.output
  split
  · exact .refl v
  · exact rings_unread v t true

/-- `visibilitychange` changes marks and title at most. -/
theorem rings_visibilityChange (v : View) (hidden : Bool) :
    v.Rings (v.visibilityChange hidden) := by
  have hloop : ∀ (l : List TabId) (w : View), w.Rings (l.foldl View.clearBell w) := by
    intro l
    induction l with
    | nil => exact .refl
    | cons t rest ih => exact fun w => (rings_clearBell w t).trans (ih (w.clearBell t))
  have hhidden : v.Rings { v with documentHidden := hidden } :=
    ⟨rfl, rfl, rfl, rfl, rfl, rfl, rfl, fun _ => rfl, fun _ => rfl, id⟩
  unfold View.visibilityChange
  dsimp only
  split
  · exact hhidden
  · exact hhidden.trans (hloop _ _)

/-- Bells and unread output leave the rest as it is. -/
theorem Rings.kept {w : View} (h : v.Rings w) (hk : v.Kept) : w.Kept :=
  ⟨h.page ▸ hk.page, h.page ▸ hk.named, h.titled hk.titled⟩

/-- A change of marks and title leaves the highlights where they are. -/
theorem Rings.highlights {w : View} (h : v.Rings w) (hl : v.HighlightsBut exempt) :
    w.HighlightsBut exempt := by
  refine hl.mono (fun t ht => (h.highlighted t).symm.trans ht) (fun t p ht hex => ?_)
    fun t p _ hsearched => ?_
  · exact ⟨h.page ▸ ht, hex⟩
  · unfold View.Searched
    rw [h.page, h.query]
    exact hsearched

/-- A change of marks and title leaves the panes laid out. -/
theorem Rings.laidOut {w : View} (h : v.Rings w) (hl : v.LaidOut) : w.LaidOut :=
  hl.congr h.page h.painted

/-- A change of marks and title keeps what holds of the view. -/
theorem Rings.shows {w : View} (h : v.Rings w) (hs : v.Shows) : w.Shows where
  toKept := h.kept hs.toKept
  hash := by rw [h.hash, h.page, hs.hash]
  line := by
    rw [h.line, h.page, hs.line]
    cases v.page.activeTab with
    | none => rfl
    | some t => exact (h.status t).symm
  paints := hs.paints.congr h.page h.painted
  ctrl := by
    rw [h.ctrlArmed, h.page, h.armedFor]
    exact hs.ctrl
  layout := h.laidOut hs.layout
  highlights := h.highlights hs.highlights

end

end View

end WTerm
