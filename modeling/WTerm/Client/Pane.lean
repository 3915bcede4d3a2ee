import Mathlib.Data.Int.Notation
import Mathlib.Logic.Function.Basic
import WTerm.Lib.Transition
import WTerm.Python.Text

/-!
# Tabs and panes of the page

`app.js` keeps one or two panes, each with its tabs, the tab that it shows and a search bar. A tab
names its pane, and the page names the pane with the focus. The objects of closed tabs and removed
panes stay, since handlers may still hold them.
-/

namespace WTerm

abbrev PaneId := ℕ

abbrev TabId := ℕ

/-- A tab. Its connection is modelled on its own. -/
structure PageTab where
  name : PyStr := []
  agent : PyStr := []
  /-- `pane`, null before the tab is opened and after it is closed. -/
  pane : Option PaneId := none
  deriving DecidableEq

/-- A pane. -/
structure Pane where
  tabs : List TabId := []
  activeTab : Option TabId := none
  /-- `searchEl.hidden`. -/
  searchHidden : Bool := true
  deriving DecidableEq

/-- The panes and tabs of the page. -/
structure Page where
  panes : List PaneId := []
  pane : PaneId → Pane := fun _ => {}
  tab : TabId → PageTab := fun _ => {}
  nextPaneId : PaneId := 1
  /-- How many tabs `createTab` has made. -/
  tabCount : ℕ := 0
  focusedPane : Option PaneId := none
  /-- `wideEnough.matches`. -/
  wideEnough : Bool := true

/-- `MAX_PANES`. -/
def maxPanes : ℕ := 2

/-- `list.splice(list.indexOf(x), 1)`. The index of an absent element is that of the last place. -/
def spliceOut (l : List ℕ) (x : ℕ) : List ℕ :=
  match l.idxOf? x with
  | some i => l.eraseIdx i
  | none => l.dropLast

/-- The tab that a pane shows after the tab that it shows is closed: the next one, or else the one
before. -/
def neighbour (l : List TabId) (t : TabId) : Option TabId :=
  match l.idxOf? t with
  | some 0 => (l.eraseIdx 0)[0]?
  | some (i + 1) => ((l.eraseIdx (i + 1))[i + 1]?).or (l.eraseIdx (i + 1))[i]?
  | none => none

namespace Page

/-- A pane changes. -/
def onPane (s : Page) (p : PaneId) (f : Pane → Pane) : Page :=
  { s with pane := Function.update s.pane p (f (s.pane p)) }

/-- A tab gets another pane. -/
def setHome (s : Page) (t : TabId) (home : Option PaneId) : Page :=
  { s with tab := Function.update s.tab t { s.tab t with pane := home } }

/-- Only the changed pane differs after a change of one pane. -/
@[simp]
theorem onPane_pane (s : Page) (p : PaneId) (f : Pane → Pane) :
    (s.onPane p f).pane = Function.update s.pane p (f (s.pane p)) := rfl

/-- A change of one pane leaves the list of panes as it is. -/
@[simp]
theorem onPane_panes (s : Page) (p : PaneId) (f : Pane → Pane) :
    (s.onPane p f).panes = s.panes := rfl

/-- A change of one pane leaves all tabs as they are. -/
@[simp]
theorem onPane_tab (s : Page) (p : PaneId) (f : Pane → Pane) : (s.onPane p f).tab = s.tab := rfl

/-- A change of one pane leaves the focus where it is. -/
@[simp]
theorem onPane_focusedPane (s : Page) (p : PaneId) (f : Pane → Pane) :
    (s.onPane p f).focusedPane = s.focusedPane := rfl

/-- The panes stay when a tab gets another one. -/
@[simp]
theorem setHome_pane (s : Page) (t : TabId) (home : Option PaneId) :
    (s.setHome t home).pane = s.pane := rfl

/-- Only the moved tab differs after a move, and only in its pane. -/
@[simp]
theorem setHome_tab (s : Page) (t : TabId) (home : Option PaneId) :
    (s.setHome t home).tab = Function.update s.tab t { s.tab t with pane := home } := rfl

/-- A move of a tab leaves the focus where it is. -/
@[simp]
theorem setHome_focusedPane (s : Page) (t : TabId) (home : Option PaneId) :
    (s.setHome t home).focusedPane = s.focusedPane := rfl

/-- `allTabs`. -/
def allTabs (s : Page) : List TabId := s.panes.flatMap fun p => (s.pane p).tabs

/-- `openSearch`. -/
def openSearch (s : Page) (p : PaneId) : Page :=
  if (s.pane p).activeTab = none then s
  else s.onPane p fun pane => { pane with searchHidden := false }

/-- `closeSearch`. -/
def closeSearch (s : Page) (p : PaneId) : Page :=
  s.onPane p fun pane => { pane with searchHidden := true }

/-- `focusPane`. -/
def focusPane (s : Page) (p : PaneId) : Page := { s with focusedPane := some p }

/-- The panes do not know of the focus. -/
@[simp]
theorem focusPane_pane (s : Page) (p : PaneId) : (s.focusPane p).pane = s.pane := rfl

/-- Focusing a pane leaves the list of panes as it is. -/
@[simp]
theorem focusPane_panes (s : Page) (p : PaneId) : (s.focusPane p).panes = s.panes := rfl

/-- `activateTab`, which raises for a tab that is closed. -/
def activateTab (s : Page) (t : TabId) : Page :=
  match (s.tab t).pane with
  | none => s
  | some p => (s.onPane p fun pane => { pane with activeTab := some t }).focusPane p

/-- `createPane`. -/
def createPane (s : Page) : Page :=
  { s with
    panes := s.panes ++ [s.nextPaneId]
    pane := Function.update s.pane s.nextPaneId {}
    nextPaneId := s.nextPaneId + 1 }

/-- `addPane`. -/
def addPane (s : Page) : Page :=
  if maxPanes ≤ s.panes.length then s else s.createPane.focusPane s.nextPaneId

/-- `moveTabToPane`, which raises for a tab that is closed. -/
def moveTabToPane (s : Page) (t : TabId) (p : PaneId) (refit : Bool) : Page :=
  match (s.tab t).pane with
  | none => s
  | some source =>
    if source = p then s
    else
      let s := s.onPane source fun pane => { pane with tabs := spliceOut pane.tabs t }
      let s := (s.onPane p fun pane => { pane with tabs := pane.tabs ++ [t] }).setHome t (some p)
      let s :=
        if (s.pane source).activeTab = some t then
          let last := (s.pane source).tabs.getLast?
          let s := s.onPane source fun pane => { pane with activeTab := last }
          if last = none then s.closeSearch source else s
        else s
      let s := s.onPane p fun pane => { pane with activeTab := some t }
      if refit then s.activateTab t else s

/-- `removePane`. -/
def removePane (s : Page) (p : PaneId) : Page :=
  if s.panes.length < 2 then s
  else
    let survivor := s.panes.getD (if s.panes.idxOf? p = some 0 then 1 else 0) p
    let s := (s.pane p).tabs.foldl (fun s t => s.moveTabToPane t survivor false) s
    let s := { s with panes := spliceOut s.panes p }
    match (s.pane survivor).activeTab with
    | some t => s.activateTab t
    | none => s.focusPane survivor

/-- The loop of `applyWidthLimit`, for at most so many turns. -/
def mergePanes : ℕ → Page → Page
  | 0, s => s
  | n + 1, s =>
    match s.panes.getLast? with
    | some last =>
      if s.wideEnough = false ∧ 1 < s.panes.length then mergePanes n (s.removePane last) else s
    | none => s

/-- `applyWidthLimit`. Each turn removes a pane. -/
def applyWidthLimit (s : Page) : Page := mergePanes s.panes.length s

/-- `findTab`. -/
def findTab (s : Page) (name agent : PyStr) : Option TabId :=
  s.allTabs.find? fun t => decide ((s.tab t).name = name ∧ (s.tab t).agent = agent)

/-- `createTab`. -/
def createTab (s : Page) (name agent : PyStr) (p : PaneId) : Page :=
  let t := s.tabCount
  let s := { s with
    tab := Function.update s.tab t { name := name, agent := agent, pane := some p }
    tabCount := t + 1 }
  (s.onPane p fun pane => { pane with tabs := pane.tabs ++ [t], activeTab := some t }).focusPane p

/-- `openTab`, up to the connection. -/
def openTab (s : Page) (name agent : PyStr) : Page :=
  match s.findTab name agent with
  | some t => s.activateTab t
  | none =>
    match s.focusedPane with
    | some p => (s.createTab name agent p).activateTab s.tabCount
    | none => s

/-- The tab that `openTab` finds or makes. -/
def target (s : Page) (name agent : PyStr) : TabId := (s.findTab name agent).getD s.tabCount

/-- `closeTab`, without the connection. -/
def closeTab (s : Page) (t : TabId) : Page :=
  match (s.tab t).pane with
  | none => s
  | some p =>
    let next := neighbour (s.pane p).tabs t
    let shown := decide ((s.pane p).activeTab = some t)
    let s := s.onPane p fun pane => { pane with tabs := spliceOut pane.tabs t }
    let s := s.setHome t none
    if shown then
      let s := s.onPane p fun pane => { pane with activeTab := next }
      match next with
      | some n => if s.focusedPane = some p then s.activateTab n else s
      -- The search bar is closed in the focused pane only.
      | none => if s.focusedPane = some p then s.closeSearch p else s
    else s

/-- The tabs of the logout. A `closeTab` that raises ends the loop, as if the tabs up to there
were closed one by one. -/
def closeAll (s : Page) : Page := s.allTabs.foldl closeTab s

/-- The shortcut that goes to the next or the previous tab of the focused pane. -/
def cycle (s : Page) (delta : ℤ) : Page :=
  match s.focusedPane with
  | none => s
  | some p =>
    let list := (s.pane p).tabs
    let index : ℤ := (((s.pane p).activeTab.bind list.idxOf?).map Int.ofNat).getD (-1)
    if list.length < 2 then s
    else match list[((index + delta + list.length) % list.length).toNat]? with
      | some t => s.activateTab t
      | none => s

/-- The page after the script has run, in a window of some width. -/
def initial (wideEnough : Bool) : Page :=
  ((({ wideEnough := wideEnough } : Page).createPane).focusPane 1).applyWidthLimit

end Page

/-- What a user or the browser does to the tabs and panes. -/
inductive PageEvent where
  | openTab (name agent : PyStr)
  | activateTab (t : TabId)
  | cycle (forward : Bool)
  /-- The button that moves a tab to the other pane. -/
  | moveTab (t : TabId)
  | closeTab (t : TabId)
  /-- The button of a pane that splits it or merges it with the other one. -/
  | split (p : PaneId)
  | focusPane (p : PaneId)
  | openSearch (p : PaneId)
  | closeSearch (p : PaneId)
  | width (wideEnough : Bool)
  | logout

namespace PageEvent

/-- The state after an event. -/
def apply (s : Page) : PageEvent → Page
  | .openTab name agent => s.openTab name agent
  | .activateTab t => s.activateTab t
  | .cycle forward => s.cycle (if forward then 1 else -1)
  | .moveTab t =>
    match s.panes.find? fun p => decide (some p ≠ (s.tab t).pane) with
    | some other => s.moveTabToPane t other true
    | none => s
  | .closeTab t => s.closeTab t
  | .split p => if s.panes.length < maxPanes then s.addPane else s.removePane p
  | .focusPane p => s.focusPane p
  | .openSearch p => s.openSearch p
  | .closeSearch p => s.closeSearch p
  | .width wideEnough => { s with wideEnough := wideEnough }.applyWidthLimit
  | .logout => s.closeAll

/-- When an event can happen: the buttons and the surface of a pane go with it. -/
def Enabled (s : Page) : PageEvent → Prop
  | .split p | .focusPane p | .openSearch p | .closeSearch p => p ∈ s.panes
  | _ => True

instance decidableEnabled (s : Page) : (e : PageEvent) → Decidable (e.Enabled s)
  | .split _ | .focusPane _ | .openSearch _ | .closeSearch _ => inferInstanceAs (Decidable (_ ∈ _))
  | .openTab _ _ | .activateTab _ | .cycle _ | .moveTab _ | .closeTab _ | .width _ | .logout =>
    inferInstanceAs (Decidable True)

end PageEvent

/-- The page, in any sequence of events. -/
def pageSystem : Transition.System Page PageEvent where
  Enabled s e := e.Enabled s
  apply := PageEvent.apply

instance (s : Page) (e : PageEvent) : Decidable (pageSystem.Enabled s e) :=
  inferInstanceAs (Decidable (e.Enabled s))

end WTerm
