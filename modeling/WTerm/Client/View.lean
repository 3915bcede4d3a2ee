import WTerm.Client.Hash
import WTerm.Client.PageSteps

/-!
# What the page shows

Each operation of `app.js` on tabs and panes paints what it changes: the classes of the tabs and
panes, the status line, the number of waiting tabs in the title, the highlights of a search and the
fragment of the address. Here the operations of `Client/Pane` are modelled together with what they
paint.
-/

namespace WTerm

open Transition

/-- `statusCls` and `statusText` of a tab. -/
inductive TabStatus where
  /-- `disconnected`, "연결 안 됨". -/
  | idle
  /-- `connecting`, "연결 중…". -/
  | connecting
  /-- `connected`, "연결됨: " and the name and the agent. -/
  | connected (name agent : PyStr)
  /-- `connecting`, "재연결 시도 중…" and the attempt. -/
  | retrying (attempt : ℕ)
  /-- `disconnected`, "연결 종료". -/
  | ended
  /-- `disconnected`, "재연결 실패". -/
  | failed
  deriving DecidableEq

/-- What a tab keeps for the page to show. -/
structure TabMarks where
  status : TabStatus := .idle
  unread : Bool := false
  bell : Bool := false
  /-- The search addon highlights its matches. -/
  highlighted : Bool := false
  deriving DecidableEq

/-- What `paintPanes` sets on a tab: whether it is shown as active, whether the button that moves
it is hidden, and whether the arrow on it points to the right. -/
structure PaintedTab where
  active : Bool := false
  moveHidden : Bool := true
  movesRight : Bool := true
  deriving DecidableEq

/-- What `paintPanes` sets on a pane. -/
structure PaintedPane where
  focused : Bool := false
  empty : Bool := false
  searchDisabled : Bool := false
  deriving DecidableEq

/-- What `layoutPanes` sets on the button of a pane that splits or merges. -/
structure PaintedSplit where
  splits : Bool := false
  hidden : Bool := false
  deriving DecidableEq

/-- The painted page. -/
structure Painted where
  tab : TabId → PaintedTab := fun _ => {}
  pane : PaneId → PaintedPane := fun _ => {}
  button : PaneId → PaintedSplit := fun _ => {}
  /-- The class `split` of the body. -/
  split : Bool := false
  /-- The class `session-open` of the body. -/
  sessionOpen : Bool := false

/-- The page with what it shows. -/
structure View where
  page : Page := {}
  /-- `location.hash`. -/
  hash : PyStr := []
  /-- The status line. -/
  line : TabStatus := .idle
  marks : TabId → TabMarks := fun _ => {}
  /-- The number in `document.title`. -/
  waiting : ℕ := 0
  /-- `document.hidden`. -/
  documentHidden : Bool := false
  /-- The texts in the search bars. -/
  query : PaneId → PyStr := fun _ => []
  ctrlArmed : Bool := false
  /-- History: the active tab when Ctrl was armed. -/
  armedFor : Option TabId := none
  painted : Painted := {}

namespace Page

/-- `activeTab`. -/
def activeTab (s : Page) : Option TabId := s.focusedPane.bind fun p => (s.pane p).activeTab

/-- `isVisible`. -/
def isVisible (s : Page) (t : TabId) : Bool :=
  (s.tab t).pane.any fun p => decide ((s.pane p).activeTab = some t)

/-- What a tab of a pane looks like. -/
def paintTab (s : Page) (p : PaneId) (t : TabId) : PaintedTab where
  active := decide ((s.pane p).activeTab = some t)
  moveHidden := decide (s.panes.length < 2)
  movesRight := decide (s.panes.idxOf p = 0)

/-- What a pane looks like. -/
def paintPane (s : Page) (p : PaneId) : PaintedPane where
  focused := decide (s.focusedPane = some p ∧ 1 < s.panes.length)
  empty := (s.pane p).tabs.isEmpty
  searchDisabled := (s.pane p).tabs.isEmpty

/-- What the button of a pane looks like. -/
def paintSplit (s : Page) : PaintedSplit where
  splits := decide (s.panes.length < maxPanes)
  hidden := !s.wideEnough

/-- The pane in whose list a tab is. -/
def listedIn (s : Page) (t : TabId) : Option PaneId :=
  s.panes.find? fun p => decide (t ∈ (s.pane p).tabs)

/-- The page of `closeTab` after the tab is taken out. -/
def without (s : Page) (t : TabId) (p : PaneId) : Page :=
  (s.onPane p fun pane => { pane with tabs := spliceOut pane.tabs t }).setHome t none

end Page

namespace View

/-- The page changes. -/
def setPage (v : View) (page : Page) : View := { v with page := page }

/-- The marks of a tab change. -/
def onMarks (v : View) (t : TabId) (f : TabMarks → TabMarks) : View :=
  { v with marks := Function.update v.marks t (f (v.marks t)) }

/-- The fragment of the active tab. A name that cannot be encoded raises. -/
def syncHash (v : View) : View :=
  { v with
    hash := v.page.activeTab.elim [] fun t =>
      (WTerm.syncHash (v.page.tab t).name (v.page.tab t).agent).getD v.hash }

/-- `setStatus` with the status of the active tab. -/
def showStatus (v : View) : View :=
  { v with line := v.page.activeTab.elim .idle fun t => (v.marks t).status }

/-- `paintPanes`. -/
def paintPanes (v : View) : View :=
  { v with
    painted :=
      { v.painted with
        tab := fun t => (v.page.listedIn t).elim (v.painted.tab t) fun p => v.page.paintTab p t
        pane := fun p => if p ∈ v.page.panes then v.page.paintPane p else v.painted.pane p
        sessionOpen := decide (0 < v.page.allTabs.length) } }

/-- `layoutPanes`. -/
def layoutPanes (v : View) : View :=
  paintPanes { v with
    painted :=
      { v.painted with
        split := decide (1 < v.page.panes.length)
        button := fun p => if p ∈ v.page.panes then v.page.paintSplit else v.painted.button p } }

/-! ## Bells -/

/-- The tabs that wait for the user. -/
def bells (v : View) : ℕ := v.page.allTabs.countP fun t => (v.marks t).bell

/-- `updateDocTitle`. -/
def updateDocTitle (v : View) : View := { v with waiting := v.bells }

/-- `clearBell`. -/
def clearBell (v : View) (t : TabId) : View :=
  if (v.marks t).bell then (v.onMarks t fun m => { m with bell := false }).updateDocTitle else v

/-- `onBell`, without the notification. -/
def onBell (v : View) (t : TabId) : View :=
  if v.page.isVisible t && !v.documentHidden then v
  else if (v.marks t).bell then v
  else (v.onMarks t fun m => { m with bell := true }).updateDocTitle

/-- `visibilitychange`. -/
def visibilityChange (v : View) (hidden : Bool) : View :=
  let v := { v with documentHidden := hidden }
  if hidden then v else (v.page.allTabs.filter v.page.isVisible).foldl clearBell v

/-- A binary message is written to a tab. -/
def output (v : View) (t : TabId) : View :=
  if v.page.isVisible t then v else v.onMarks t fun m => { m with unread := true }

/-! ## Searches -/

/-- The search addons change what they highlight. -/
def setHighlights (v : View) (f : TabId → Bool) : View :=
  { v with marks := fun t => { v.marks t with highlighted := f t } }

/-- `clearDecorations` for tabs. -/
def clearDecorations (v : View) (tabs : List TabId) : View :=
  v.setHighlights fun t => (v.marks t).highlighted && decide (t ∉ tabs)

/-- `findNext` and `findPrevious`. -/
def find (v : View) (t : TabId) : View :=
  v.setHighlights fun u => (v.marks u).highlighted || decide (u = t)

/-- `runSearch`. -/
def runSearch (v : View) (p : PaneId) : View :=
  match (v.page.pane p).activeTab with
  | none => v
  | some t =>
    let v := v.clearDecorations ((v.page.pane p).tabs.filter (· ≠ t))
    if v.query p = [] then v.clearDecorations [t] else v.find t

/-- `refreshPaneSearch`. -/
def refreshPaneSearch (v : View) (p : PaneId) : View :=
  let v := v.clearDecorations (v.page.pane p).tabs
  if (v.page.pane p).searchHidden = false ∧ (v.page.pane p).activeTab ≠ none ∧ v.query p ≠ [] then
    v.runSearch p
  else v

/-- `refreshOpenSearches`. -/
def refreshOpenSearches (v : View) : View :=
  (v.page.panes.filter fun p => !(v.page.pane p).searchHidden).foldl refreshPaneSearch v

/-- `openSearch`. -/
def openSearch (v : View) (p : PaneId) : View :=
  if (v.page.pane p).activeTab = none then v
  else
    let v := v.setPage (v.page.openSearch p)
    if v.query p = [] then v else v.refreshPaneSearch p

/-- `closeSearch`. -/
def closeSearch (v : View) (p : PaneId) : View :=
  (v.setPage (v.page.closeSearch p)).clearDecorations (v.page.pane p).tabs

/-- The text in a search bar changes. -/
def input (v : View) (p : PaneId) (text : PyStr) : View :=
  { v with query := Function.update v.query p text }.runSearch p

/-! ## Panes and tabs -/

/-- `setCtrlArmed`. -/
def setCtrlArmed (v : View) (on : Bool) : View :=
  { v with ctrlArmed := on, armedFor := v.page.activeTab }

/-- `focusPane`. -/
def focusPane (v : View) (p : PaneId) : View :=
  if v.page.focusedPane = some p then v
  else ({ v with ctrlArmed := false }.setPage (v.page.focusPane p)).paintPanes.syncHash.showStatus

/-- The tab that `activateTab` shows is not the one that the pane showed. -/
def leaveTab (v : View) (p : PaneId) (t : TabId) : View :=
  match (v.page.pane p).activeTab with
  | none => v
  | some previous => if previous = t then v else v.clearDecorations [previous]

/-- `activateTab`, which raises for a tab that is closed. -/
def activateTab (v : View) (t : TabId) : View :=
  match (v.page.tab t).pane with
  | none => v
  | some p =>
    let v := v.leaveTab p t
    let v := v.setPage (v.page.activateTab t)
    let v := (v.onMarks t fun m => { m with unread := false }).clearBell t
    { v with ctrlArmed := false }.paintPanes.syncHash.showStatus.refreshPaneSearch p

/-- `createPane`. The search bar of the new pane is empty. -/
def createPane (v : View) : View :=
  { v with
    page := v.page.createPane
    query := Function.update v.query v.page.nextPaneId [] }

/-- `addPane`. -/
def addPane (v : View) : View :=
  if maxPanes ≤ v.page.panes.length then v
  else v.createPane.layoutPanes.focusPane v.page.nextPaneId

/-- `moveTabToPane` up to `refit`, for a tab of another pane. `closeSearch` has nothing to clear in
a pane without tabs. -/
def transfer (v : View) (t : TabId) (source p : PaneId) : View :=
  let shown := decide ((v.page.pane source).activeTab = some t)
  let v := (v.clearDecorations [t]).setPage (v.page.moveTabToPane t p false)
  if shown = true ∧ (v.page.pane source).activeTab ≠ none then v.refreshPaneSearch source else v

/-- `moveTabToPane`, which raises for a tab that is closed. -/
def moveTabToPane (v : View) (t : TabId) (p : PaneId) (refit : Bool) : View :=
  match (v.page.tab t).pane with
  | none => v
  | some source =>
    if source = p then v
    else if refit then (v.transfer t source p).activateTab t
    else (v.transfer t source p).refreshPaneSearch p

/-- `removePane`. -/
def removePane (v : View) (p : PaneId) : View :=
  if v.page.panes.length < 2 then v
  else
    let survivor := v.page.panes.getD (if v.page.panes.idxOf? p = some 0 then 1 else 0) p
    let v := (v.page.pane p).tabs.foldl (fun v t => v.moveTabToPane t survivor false) v
    let v := (v.setPage { v.page with panes := spliceOut v.page.panes p }).layoutPanes
    match (v.page.pane survivor).activeTab with
    | some t => v.activateTab t
    | none => v.focusPane survivor

/-- The loop of `applyWidthLimit`, for at most so many turns. -/
def mergePanes : ℕ → View → View
  | 0, v => v
  | n + 1, v =>
    match v.page.panes.getLast? with
    | some last =>
      if v.page.wideEnough = false ∧ 1 < v.page.panes.length then mergePanes n (v.removePane last)
      else v
    | none => v

/-- `applyWidthLimit`. -/
def applyWidthLimit (v : View) : View := (mergePanes v.page.panes.length v).layoutPanes

/-- `setTabStatus`. -/
def setTabStatus (v : View) (t : TabId) (status : TabStatus) : View :=
  let v := v.onMarks t fun m => { m with status := status }
  if v.page.activeTab = some t then { v with line := status } else v

/-- `createTab`. -/
def createTab (v : View) (name agent : PyStr) (p : PaneId) : View :=
  let t := v.page.tabCount
  let v := { v with
    page := v.page.createTab name agent p
    marks := Function.update v.marks t {} }
  v.paintPanes.setTabStatus t .idle

/-- `openTab`, up to the connection. -/
def openTab (v : View) (name agent : PyStr) : View :=
  match v.page.findTab name agent with
  | some t => v.activateTab t
  | none =>
    match v.page.focusedPane with
    | some p => (v.createTab name agent p).activateTab v.page.tabCount
    | none => v

/-- `closeTab`, without the connection. -/
def closeTab (v : View) (t : TabId) : View :=
  match (v.page.tab t).pane with
  | none => v
  | some p =>
    let next := neighbour (v.page.pane p).tabs t
    let shown := decide ((v.page.pane p).activeTab = some t)
    let v := (v.setPage (v.page.without t p)).updateDocTitle
    if shown then
      let v := v.setPage (v.page.onPane p fun pane => { pane with activeTab := next })
      match next with
      | some n =>
        if v.page.focusedPane = some p then v.activateTab n else v.paintPanes.syncHash
      | none =>
        let v := v.paintPanes.syncHash
        if v.page.focusedPane = some p then { v.closeSearch p with line := .idle } else v
    else v.paintPanes

/-- The tabs and the status line of the logout. -/
def closeAll (v : View) : View := { v.page.allTabs.foldl closeTab v with line := .idle }

/-- The shortcut that goes to the next or the previous tab of the focused pane. -/
def cycle (v : View) (delta : ℤ) : View :=
  match v.page.focusedPane with
  | none => v
  | some p =>
    let list := (v.page.pane p).tabs
    let index : ℤ := (((v.page.pane p).activeTab.bind list.idxOf?).map Int.ofNat).getD (-1)
    if list.length < 2 then v
    else match list[((index + delta + list.length) % list.length).toNat]? with
      | some t => v.activateTab t
      | none => v

/-- The view after the script has run, at some address and in a window of some width. -/
def initial (hash : PyStr) (wideEnough : Bool) : View :=
  (({ page := { wideEnough := wideEnough }, hash := hash } : View).createPane.focusPane
    1).layoutPanes.applyWidthLimit

end View

/-- What happens to the view. -/
inductive ViewEvent where
  | page (e : PageEvent)
  /-- `setTabStatus`, by a handler of a connection. -/
  | status (t : TabId) (status : TabStatus)
  | output (t : TabId)
  | bell (t : TabId)
  | visibility (hidden : Bool)
  /-- The text in a search bar changes. -/
  | input (p : PaneId) (text : PyStr)
  /-- The buttons and the Enter key of a search bar. -/
  | search (p : PaneId)
  /-- The theme changes. -/
  | theme
  /-- Ctrl is armed, or it is not armed any more. -/
  | ctrl (on : Bool)

namespace View

/-- The view after an event on tabs and panes. -/
def onPage (v : View) : PageEvent → View
  | .openTab name agent => v.openTab name agent
  | .activateTab t => v.activateTab t
  | .cycle forward => v.cycle (if forward then 1 else -1)
  | .moveTab t =>
    match v.page.panes.find? fun p => decide (some p ≠ (v.page.tab t).pane) with
    | some other => v.moveTabToPane t other true
    | none => v
  | .closeTab t => v.closeTab t
  | .split p => if v.page.panes.length < maxPanes then v.addPane else v.removePane p
  | .focusPane p => v.focusPane p
  | .openSearch p => v.openSearch p
  | .closeSearch p => v.closeSearch p
  | .width wideEnough => (v.setPage { v.page with wideEnough := wideEnough }).applyWidthLimit
  | .logout => v.closeAll

end View

namespace ViewEvent

/-- The state after an event. -/
def apply (v : View) : ViewEvent → View
  | .page e => v.onPage e
  | .status t shown => v.setTabStatus t shown
  | .output t => v.output t
  | .bell t => v.onBell t
  | .visibility hidden => v.visibilityChange hidden
  | .input p text => v.input p text
  | .search p => v.runSearch p
  | .theme => v.refreshOpenSearches
  | .ctrl on => v.setCtrlArmed on

/-- When an event can happen. The names that reach the page are well formed, and only an open
search bar takes a text and a search. -/
def Enabled (v : View) : ViewEvent → Prop
  | .page (.openTab name _) => ∀ c ∈ name, IsScalar c
  | .page e => e.Enabled v.page
  | .input p _ | .search p => p ∈ v.page.panes ∧ (v.page.pane p).searchHidden = false
  | _ => True

instance decidableEnabled (v : View) : (e : ViewEvent) → Decidable (e.Enabled v)
  | .page (.openTab name _) => inferInstanceAs (Decidable (∀ c ∈ name, IsScalar c))
  | .page (.split p) => inferInstanceAs (Decidable ((PageEvent.split p).Enabled v.page))
  | .page (.focusPane p) => inferInstanceAs (Decidable ((PageEvent.focusPane p).Enabled v.page))
  | .page (.openSearch p) => inferInstanceAs (Decidable ((PageEvent.openSearch p).Enabled v.page))
  | .page (.closeSearch p) => inferInstanceAs (Decidable ((PageEvent.closeSearch p).Enabled v.page))
  | .page (.activateTab _) | .page (.cycle _) | .page (.moveTab _) | .page (.closeTab _)
  | .page (.width _) | .page .logout => inferInstanceAs (Decidable True)
  | .input _ _ | .search _ => inferInstanceAs (Decidable (_ ∧ _))
  | .status _ _ | .output _ | .bell _ | .visibility _ | .theme | .ctrl _ =>
    inferInstanceAs (Decidable True)

end ViewEvent

/-- The view, in any sequence of events. -/
def viewSystem : System View ViewEvent where
  Enabled v e := e.Enabled v
  apply := ViewEvent.apply

instance (v : View) (e : ViewEvent) : Decidable (viewSystem.Enabled v e) :=
  inferInstanceAs (Decidable (e.Enabled v))

end WTerm
