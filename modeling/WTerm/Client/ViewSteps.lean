import WTerm.Client.View

/-!
# The page below the view

The view refines the page: each of its operations does to tabs and panes what the operation of
`Client/Pane` does. Bells, output, statuses and searches leave tabs and panes alone.
-/

namespace WTerm

open Transition

namespace View

section

variable {v : View} {t : TabId} {p : PaneId}

/-! ## The page below -/

@[simp]
theorem setPage_page (v : View) (page : Page) : (v.setPage page).page = page := rfl

@[simp]
theorem onMarks_page (v : View) (t : TabId) (f : TabMarks → TabMarks) :
    (v.onMarks t f).page = v.page := rfl

@[simp]
theorem syncHash_page (v : View) : v.syncHash.page = v.page := rfl

@[simp]
theorem showStatus_page (v : View) : v.showStatus.page = v.page := rfl

@[simp]
theorem paintPanes_page (v : View) : v.paintPanes.page = v.page := rfl

@[simp]
theorem layoutPanes_page (v : View) : v.layoutPanes.page = v.page := rfl

@[simp]
theorem updateDocTitle_page (v : View) : v.updateDocTitle.page = v.page := rfl

@[simp]
theorem clearBell_page (v : View) (t : TabId) : (v.clearBell t).page = v.page := by
  unfold View.clearBell
  split <;> rfl

@[simp]
theorem onBell_page (v : View) (t : TabId) : (v.onBell t).page = v.page := by
  unfold View.onBell
  split
  · rfl
  · split <;> rfl

@[simp]
theorem output_page (v : View) (t : TabId) : (v.output t).page = v.page := by
  unfold View.output
  split <;> rfl

@[simp]
theorem clearDecorations_page (v : View) (tabs : List TabId) :
    (v.clearDecorations tabs).page = v.page := rfl

@[simp]
theorem runSearch_page (v : View) (p : PaneId) : (v.runSearch p).page = v.page := by
  unfold View.runSearch
  split
  · rfl
  · dsimp only
    split <;> rfl

@[simp]
theorem refreshPaneSearch_page (v : View) (p : PaneId) : (v.refreshPaneSearch p).page = v.page := by
  unfold View.refreshPaneSearch
  dsimp only
  split
  · exact runSearch_page _ p
  · rfl

@[simp]
theorem leaveTab_page (v : View) (p : PaneId) (t : TabId) : (v.leaveTab p t).page = v.page := by
  unfold View.leaveTab
  split
  · rfl
  · split <;> rfl

@[simp]
theorem setTabStatus_page (v : View) (t : TabId) (status : TabStatus) :
    (v.setTabStatus t status).page = v.page := by
  unfold View.setTabStatus
  dsimp only
  split <;> rfl

@[simp]
theorem setCtrlArmed_page (v : View) (on : Bool) : (v.setCtrlArmed on).page = v.page := rfl

@[simp]
theorem input_page (v : View) (p : PaneId) (text : PyStr) : (v.input p text).page = v.page :=
  runSearch_page _ p

/-- A loop over operations that leave the page alone. -/
theorem foldl_page {α : Type*} {f : View → α → View} (hf : ∀ v a, (f v a).page = v.page)
    (l : List α) (v : View) : (l.foldl f v).page = v.page := by
  induction l generalizing v with
  | nil => rfl
  | cons a rest ih => exact (ih (f v a)).trans (hf v a)

@[simp]
theorem visibilityChange_page (v : View) (hidden : Bool) :
    (v.visibilityChange hidden).page = v.page := by
  unfold View.visibilityChange
  dsimp only
  split
  · rfl
  · exact foldl_page clearBell_page _ _

@[simp]
theorem refreshOpenSearches_page (v : View) : v.refreshOpenSearches.page = v.page :=
  foldl_page refreshPaneSearch_page _ _

/-! ## The operations on tabs and panes -/

@[simp]
theorem openSearch_page (v : View) (p : PaneId) : (v.openSearch p).page = v.page.openSearch p := by
  unfold View.openSearch
  by_cases hactive : (v.page.pane p).activeTab = none
  · rw [if_pos hactive, Page.openSearch, if_pos hactive]
  · rw [if_neg hactive]
    dsimp only
    split
    · rfl
    · exact refreshPaneSearch_page _ p

@[simp]
theorem closeSearch_page (v : View) (p : PaneId) :
    (v.closeSearch p).page = v.page.closeSearch p := rfl

@[simp]
theorem focusPane_page (v : View) (p : PaneId) : (v.focusPane p).page = v.page.focusPane p := by
  unfold View.focusPane
  split
  · next hfocus => exact (Page.focusPane_self hfocus).symm
  · simp

@[simp]
theorem activateTab_page (v : View) (t : TabId) :
    (v.activateTab t).page = v.page.activateTab t := by
  unfold View.activateTab
  split
  · next ht => rw [Page.activateTab, ht]
  · simp

@[simp]
theorem createPane_page (v : View) : v.createPane.page = v.page.createPane := rfl

@[simp]
theorem addPane_page (v : View) : v.addPane.page = v.page.addPane := by
  unfold View.addPane Page.addPane
  split
  · rfl
  · simp

@[simp]
theorem transfer_page (v : View) (t : TabId) (source p : PaneId) :
    (v.transfer t source p).page = v.page.moveTabToPane t p false := by
  unfold View.transfer
  dsimp only
  split
  · exact refreshPaneSearch_page _ source
  · rfl

@[simp]
theorem moveTabToPane_page (v : View) (t : TabId) (p : PaneId) (refit : Bool) :
    (v.moveTabToPane t p refit).page = v.page.moveTabToPane t p refit := by
  cases ht : (v.page.tab t).pane with
  | none => simp only [View.moveTabToPane, Page.moveTabToPane, ht]
  | some source =>
    by_cases hsame : source = p
    · simp only [View.moveTabToPane, Page.moveTabToPane, ht, if_pos hsame]
    · have hrefit : v.page.moveTabToPane t p true =
          (v.page.moveTabToPane t p false).activateTab t := by
        simp [Page.moveTabToPane, ht, hsame]
      cases refit with
      | true => simp [View.moveTabToPane, ht, hsame, hrefit]
      | false => simp [View.moveTabToPane, ht, hsame]

/-- A loop over operations on the view is the loop over those on the page. -/
theorem foldl_page_eq {α : Type*} {f : View → α → View} {g : Page → α → Page}
    (hf : ∀ v a, (f v a).page = g v.page a) (l : List α) (v : View) :
    (l.foldl f v).page = l.foldl g v.page := by
  induction l generalizing v with
  | nil => rfl
  | cons a rest ih => rw [List.foldl_cons, List.foldl_cons, ih, hf]

@[simp]
theorem removePane_page (v : View) (p : PaneId) : (v.removePane p).page = v.page.removePane p := by
  unfold View.removePane Page.removePane
  split
  · rfl
  · dsimp only
    generalize v.page.panes.getD (if v.page.panes.idxOf? p = some 0 then 1 else 0) p = survivor
    have hmoves := foldl_page_eq (f := fun v t => View.moveTabToPane v t survivor false)
      (g := fun s t => Page.moveTabToPane s t survivor false)
      (fun v t => moveTabToPane_page v t survivor false) (v.page.pane p).tabs v
    rw [← hmoves]
    generalize (v.page.pane p).tabs.foldl (fun v t => View.moveTabToPane v t survivor false) v = w
    simp only [layoutPanes_page, setPage_page]
    cases hactive : (w.page.pane survivor).activeTab with
    | some t => simp
    | none => simp

@[simp]
theorem mergePanes_page (n : ℕ) (v : View) : (mergePanes n v).page = v.page.mergePanes n := by
  induction n generalizing v with
  | zero => rfl
  | succ n ih =>
    unfold View.mergePanes Page.mergePanes
    cases hlast : v.page.panes.getLast? with
    | none => rfl
    | some last =>
      dsimp only
      split
      · rw [ih, removePane_page]
      · rfl

@[simp]
theorem applyWidthLimit_page (v : View) : v.applyWidthLimit.page = v.page.applyWidthLimit := by
  simp [View.applyWidthLimit, Page.applyWidthLimit]

@[simp]
theorem createTab_page (v : View) (name agent : PyStr) (p : PaneId) :
    (v.createTab name agent p).page = v.page.createTab name agent p := by
  simp [View.createTab]

@[simp]
theorem openTab_page (v : View) (name agent : PyStr) :
    (v.openTab name agent).page = v.page.openTab name agent := by
  unfold View.openTab Page.openTab
  cases hfind : v.page.findTab name agent with
  | some t => simp
  | none => cases hfocus : v.page.focusedPane <;> simp

@[simp]
theorem closeTab_page (v : View) (t : TabId) : (v.closeTab t).page = v.page.closeTab t := by
  unfold View.closeTab Page.closeTab
  cases ht : (v.page.tab t).pane with
  | none => rfl
  | some p =>
    dsimp only
    split
    · cases hnext : neighbour (v.page.pane p).tabs t with
      | some n =>
        refine (apply_ite View.page _ _ _).trans ?_
        by_cases hfocus : v.page.focusedPane = some p <;> simp [hfocus, Page.without]
      | none =>
        refine (apply_ite View.page _ _ _).trans ?_
        by_cases hfocus : v.page.focusedPane = some p <;> simp [hfocus, Page.without]
    · simp [Page.without]

@[simp]
theorem closeAll_page (v : View) : v.closeAll.page = v.page.closeAll :=
  foldl_page_eq closeTab_page _ v

@[simp]
theorem cycle_page (v : View) (delta : ℤ) : (v.cycle delta).page = v.page.cycle delta := by
  unfold View.cycle Page.cycle
  cases hfocus : v.page.focusedPane with
  | none => rfl
  | some p =>
    dsimp only
    split
    · rfl
    · generalize Int.toNat _ = i
      cases (v.page.pane p).tabs[i]? <;> simp

/-- What an event on tabs and panes does to the page. -/
@[simp]
theorem onPage_page (v : View) (e : PageEvent) : (v.onPage e).page = e.apply v.page := by
  cases e with
  | moveTab t =>
    simp only [View.onPage, PageEvent.apply]
    generalize v.page.panes.find? _ = other
    cases other <;> simp
  | split p =>
    simp only [View.onPage, PageEvent.apply]
    split <;> simp
  | _ => simp [View.onPage, PageEvent.apply]

end

end View

/-- What an event of the view does to the page. -/
theorem ViewEvent.apply_page (v : View) (e : ViewEvent) :
    (e.apply v).page = match e with
      | .page e => e.apply v.page
      | _ => v.page := by
  cases e <;> simp [ViewEvent.apply]

end WTerm
