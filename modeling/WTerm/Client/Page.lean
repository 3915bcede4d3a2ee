import Mathlib.Data.List.Basic
import WTerm.Client.Pane

/-!
# What holds of tabs and panes

Tabs and panes name each other, and the focus is on a pane, after every sequence of events. A
search bar stays open without a tab in one case only: the last tab of a pane is closed while the
focus is on the other pane.
-/

namespace WTerm

open Transition

/-! ## Lists -/

/-- Taking out an element that is there. -/
theorem spliceOut_of_mem {l : List ℕ} {x : ℕ} (h : x ∈ l) : spliceOut l x = l.erase x := by
  rw [spliceOut, List.erase_eq_eraseIdx]
  cases hindex : l.idxOf? x with
  | none => exact absurd h (List.idxOf?_eq_none_iff.mp hindex)
  | some i => rfl

/-- The neighbour of a tab is one of the others. -/
theorem neighbour_mem {l : List TabId} {t u : TabId} (h : neighbour l t = some u) :
    u ∈ l.erase t := by
  rw [List.erase_eq_eraseIdx]
  unfold neighbour at h
  split at h
  · next hindex =>
    rw [hindex]
    exact List.mem_of_getElem? h
  · next i hindex =>
    rw [hindex]
    rcases Option.or_eq_some_iff.mp h with h | ⟨-, h⟩
    · exact List.mem_of_getElem? h
    · exact List.mem_of_getElem? h
  · cases h

/-- A tab without a neighbour is the only one. -/
theorem neighbour_eq_none_iff {l : List TabId} {t : TabId} (ht : t ∈ l) :
    neighbour l t = none ↔ l = [t] := by
  constructor
  · intro h
    unfold neighbour at h
    split at h
    · next hindex =>
      obtain ⟨hi, -⟩ := List.idxOf?_eq_some_iff.mp hindex
      have hlength := List.length_eraseIdx_of_lt hi
      have hnil := List.getElem?_eq_none_iff.mp h
      obtain ⟨u, rfl⟩ := List.length_eq_one_iff.mp (by omega : l.length = 1)
      rw [List.mem_singleton.mp ht]
    · next i hindex =>
      -- The place before the last one is not empty.
      obtain ⟨hi, -⟩ := List.idxOf?_eq_some_iff.mp hindex
      have hlength : (l.eraseIdx (i + 1)).length = l.length - 1 := List.length_eraseIdx_of_lt hi
      have hnil := List.getElem?_eq_none_iff.mp (Option.or_eq_none_iff.mp h).2
      omega
    · next hindex => exact absurd ht (List.idxOf?_eq_none_iff.mp hindex)
  · rintro rfl
    simp [neighbour]

/-- A list stays without duplicates if a new element is put at its end. -/
theorem nodup_concat {l : List ℕ} {x : ℕ} (h : l.Nodup) (hx : x ∉ l) : (l ++ [x]).Nodup := by
  refine List.nodup_append.mpr ⟨h, by simp, fun y hy z hz heq => ?_⟩
  rw [heq, List.mem_singleton.mp hz] at hy
  exact hx hy

/-! ## The invariant -/

/-- A pane shows one of its tabs, if it has any. -/
structure Pane.Shows (pane : Pane) : Prop where
  mem : ∀ t, pane.activeTab = some t → t ∈ pane.tabs
  empty : pane.activeTab = none → pane.tabs = []

/-- An open search bar has a tab to search in. -/
def Pane.Searches (pane : Pane) : Prop := pane.searchHidden = false → pane.activeTab ≠ none

namespace Page

/-- Two tabs have the same name and agent. -/
def SameKey (s : Page) (t u : TabId) : Prop :=
  (s.tab t).name = (s.tab u).name ∧ (s.tab t).agent = (s.tab u).agent

/-- Tabs and panes name each other. -/
structure Wired (s : Page) : Prop where
  panes_nodup : s.panes.Nodup
  panes_fresh : ∀ p ∈ s.panes, p < s.nextPaneId
  panes_length : s.panes.length = 1 ∨ s.panes.length = 2
  focused : ∃ p ∈ s.panes, s.focusedPane = some p
  created : ∀ t, (s.tab t).pane ≠ none → t < s.tabCount
  home : ∀ t p, (s.tab t).pane = some p → p ∈ s.panes
  tabs_nodup : ∀ p ∈ s.panes, (s.pane p).tabs.Nodup
  mem_tabs : ∀ p ∈ s.panes, ∀ t, t ∈ (s.pane p).tabs ↔ (s.tab t).pane = some p
  distinct : ∀ t u, (s.tab t).pane ≠ none → (s.tab u).pane ≠ none → s.SameKey t u → t = u
  shows : ∀ p ∈ s.panes, (s.pane p).Shows

/-- Every open search bar has a tab to search in. -/
def SearchesShown (s : Page) : Prop := ∀ p ∈ s.panes, (s.pane p).Searches

/-- Each tab is in its pane once, and each pane shows one of its tabs. -/
structure Paired (s : Page) : Prop where
  panes : s.panes.Nodup ∧ (s.panes.length = 1 ∨ s.panes.length = 2)
  focused : ∃ p ∈ s.panes, s.focusedPane = some p
  home : ∀ t p, (s.tab t).pane = some p → p ∈ s.panes
  listed : ∀ p ∈ s.panes, ∀ t,
    (s.pane p).tabs.count t = if (s.tab t).pane = some p then 1 else 0
  distinct : ∀ t u, (s.tab t).pane ≠ none → (s.tab u).pane ≠ none → s.SameKey t u → t = u
  shows : ∀ p ∈ s.panes, (s.pane p).Shows

/-- Tabs and panes are consistent. -/
structure Consistent (s : Page) : Prop extends Paired s where
  searches : s.SearchesShown

section

variable {s : Page} {t : TabId} {p : PaneId}

/-- Tabs and panes that name each other are paired. -/
theorem Wired.paired (h : s.Wired) : s.Paired := by
  refine ⟨⟨h.panes_nodup, h.panes_length⟩, h.focused, h.home, ?_, h.distinct, h.shows⟩
  intro p hp t
  rw [(h.tabs_nodup p hp).count]
  simp only [h.mem_tabs p hp t]

/-- The search bars are all that consistency adds. -/
theorem Wired.consistent_iff (h : s.Wired) : s.Consistent ↔ s.SearchesShown :=
  ⟨Consistent.searches, fun hsearches => ⟨h.paired, hsearches⟩⟩

/-- A change of panes that leaves their tabs alone. -/
theorem Wired.setPanes (h : s.Wired) {pane : PaneId → Pane} {focused : Option PaneId}
    (htabs : ∀ p ∈ s.panes, (pane p).tabs = (s.pane p).tabs)
    (hshows : ∀ p ∈ s.panes, (pane p).Shows) (hfocused : ∃ p ∈ s.panes, focused = some p) :
    ({ s with pane := pane, focusedPane := focused } : Page).Wired where
  panes_nodup := h.panes_nodup
  panes_fresh := h.panes_fresh
  panes_length := h.panes_length
  focused := hfocused
  created := h.created
  home := h.home
  tabs_nodup p hp := by
    rw [htabs p hp]
    exact h.tabs_nodup p hp
  mem_tabs p hp t := by
    rw [htabs p hp]
    exact h.mem_tabs p hp t
  distinct := h.distinct
  shows := hshows

/-- A change of one tab, which the panes follow. -/
theorem Wired.setTab (h : s.Wired) {pane : PaneId → Pane} {focused : Option PaneId} {tab : PageTab}
    {count : ℕ} (hhome : ∀ p, tab.pane = some p → p ∈ s.panes)
    (hcreated : tab.pane ≠ none → t < count) (hcount : s.tabCount ≤ count)
    (hself : ∀ p ∈ s.panes, t ∈ (pane p).tabs ↔ tab.pane = some p)
    (hothers : ∀ p ∈ s.panes, ∀ u, u ≠ t → (u ∈ (pane p).tabs ↔ u ∈ (s.pane p).tabs))
    (hnodup : ∀ p ∈ s.panes, (pane p).tabs.Nodup)
    (hdistinct : tab.pane ≠ none → ∀ u, u ≠ t → (s.tab u).pane ≠ none →
      ¬(tab.name = (s.tab u).name ∧ tab.agent = (s.tab u).agent))
    (hshows : ∀ p ∈ s.panes, (pane p).Shows) (hfocused : ∃ p ∈ s.panes, focused = some p) :
    ({ s with tab := Function.update s.tab t tab, pane := pane, tabCount := count
              focusedPane := focused } : Page).Wired where
  panes_nodup := h.panes_nodup
  panes_fresh := h.panes_fresh
  panes_length := h.panes_length
  focused := hfocused
  created u hu := by
    by_cases hut : u = t
    · subst hut
      exact hcreated (by simpa using hu)
    · exact Nat.lt_of_lt_of_le (h.created u (by simpa [hut] using hu)) hcount
  home u p hu := by
    by_cases hut : u = t
    · subst hut
      exact hhome p (by simpa using hu)
    · exact h.home u p (by simpa [hut] using hu)
  tabs_nodup := hnodup
  mem_tabs p hp u := by
    by_cases hut : u = t
    · subst hut
      simpa using hself p hp
    · simpa [hut] using (hothers p hp u hut).trans (h.mem_tabs p hp u)
  distinct u v hu hv hsame := by
    by_cases hut : u = t
    · by_cases hvt : v = t
      · rw [hut, hvt]
      · subst hut
        simp only [SameKey, Function.update_self, Function.update_of_ne hvt] at hu hv hsame
        exact absurd hsame (hdistinct hu v hvt hv)
    · by_cases hvt : v = t
      · subst hvt
        simp only [SameKey, Function.update_self, Function.update_of_ne hut] at hu hv hsame
        exact absurd (hsame.imp Eq.symm Eq.symm) (hdistinct hv u hut hu)
      · simp only [SameKey, Function.update_of_ne hut, Function.update_of_ne hvt] at hu hv hsame
        exact h.distinct u v hu hv hsame
  shows := hshows

/-! ## The focus, the active tab and the search bar -/

/-- An open tab is in the list of its pane. -/
theorem Wired.mem_of_home (h : s.Wired) (ht : (s.tab t).pane = some p) :
    p ∈ s.panes ∧ t ∈ (s.pane p).tabs :=
  ⟨h.home t p ht, (h.mem_tabs p (h.home t p ht) t).mpr ht⟩

/-- A change of one pane that leaves its tabs alone. -/
theorem Wired.onPane (h : s.Wired) {f : Pane → Pane} (htabs : (f (s.pane p)).tabs = (s.pane p).tabs)
    (hshows : p ∈ s.panes → (f (s.pane p)).Shows) : (s.onPane p f).Wired := by
  refine h.setPanes (fun q hq => ?_) (fun q hq => ?_) h.focused
  · by_cases hqp : q = p
    · subst hqp
      simpa using htabs
    · simp [hqp]
  · by_cases hqp : q = p
    · subst hqp
      simpa using hshows hq
    · simpa [hqp] using h.shows q hq

/-- A change of one pane that keeps its search bar in order. -/
theorem SearchesShown.onPane (h : s.SearchesShown) {f : Pane → Pane}
    (hpane : p ∈ s.panes → (f (s.pane p)).Searches) : (s.onPane p f).SearchesShown := by
  intro q hq
  by_cases hqp : q = p
  · subst hqp
    simpa [Page.onPane] using hpane hq
  · simpa [Page.onPane, hqp] using h q hq

/-- Focusing one of the panes keeps tabs and panes wired. -/
theorem Wired.focusPane (h : s.Wired) (hp : p ∈ s.panes) : (s.focusPane p).Wired :=
  h.setPanes (fun _ _ => rfl) h.shows ⟨p, hp, rfl⟩

/-- Showing a tab in its pane keeps tabs and panes wired. -/
theorem Wired.activateTab (h : s.Wired) (t : TabId) : (s.activateTab t).Wired := by
  unfold Page.activateTab
  split
  · exact h
  · next p ht =>
    obtain ⟨hp, hmem⟩ := h.mem_of_home ht
    have hpane : (s.onPane p fun pane => { pane with activeTab := some t }).Wired := by
      refine h.onPane rfl fun _ => ⟨?_, fun hnone => by cases hnone⟩
      rintro _ ⟨rfl⟩
      exact hmem
    exact hpane.focusPane hp

/-- A tab that is shown can be searched. -/
theorem SearchesShown.activateTab (h : s.SearchesShown) (t : TabId) :
    (s.activateTab t).SearchesShown := by
  unfold Page.activateTab
  split
  · exact h
  · next p ht =>
    have hpane : (s.onPane p fun pane => { pane with activeTab := some t }).SearchesShown :=
      h.onPane fun _ _ hnone => by cases hnone
    exact hpane

/-- Opening a search bar keeps tabs and panes wired. -/
theorem Wired.openSearch (h : s.Wired) (p : PaneId) : (s.openSearch p).Wired := by
  unfold Page.openSearch
  split
  · exact h
  · exact h.onPane rfl fun hp => ⟨(h.shows p hp).mem, (h.shows p hp).empty⟩

/-- A search bar opens where a tab is shown. -/
theorem SearchesShown.openSearch (h : s.SearchesShown) (p : PaneId) :
    (s.openSearch p).SearchesShown := by
  unfold Page.openSearch
  split
  · exact h
  · next hactive => exact h.onPane fun _ _ => hactive

/-- Closing a search bar keeps tabs and panes wired. -/
theorem Wired.closeSearch (h : s.Wired) (p : PaneId) : (s.closeSearch p).Wired :=
  h.onPane rfl fun hp => ⟨(h.shows p hp).mem, (h.shows p hp).empty⟩

/-- A closed search bar is in order. -/
theorem SearchesShown.closeSearch (h : s.SearchesShown) (p : PaneId) :
    (s.closeSearch p).SearchesShown :=
  h.onPane fun _ hhidden => by cases hhidden

/-! ## Opening -/

/-- A tab that is listed is open. -/
theorem Wired.mem_allTabs (h : s.Wired) : t ∈ s.allTabs ↔ (s.tab t).pane ≠ none := by
  rw [allTabs, List.mem_flatMap]
  constructor
  · rintro ⟨p, hp, ht⟩
    rw [(h.mem_tabs p hp t).mp ht]
    exact Option.some_ne_none p
  · intro hopen
    obtain ⟨p, ht⟩ := Option.ne_none_iff_exists'.mp hopen
    exact ⟨p, h.mem_of_home ht⟩

/-- No open tab is the next one to be made. -/
theorem Wired.tabCount_closed (h : s.Wired) : (s.tab s.tabCount).pane = none := by
  by_contra hopen
  exact Nat.lt_irrefl _ (h.created _ hopen)

/-- A tab that no tab has the key of. -/
theorem Wired.createTab (h : s.Wired) {name agent : PyStr} (hp : p ∈ s.panes)
    (hnew : s.findTab name agent = none) : (s.createTab name agent p).Wired := by
  have hclosed := h.tabCount_closed
  have hfresh : ∀ q ∈ s.panes, s.tabCount ∉ (s.pane q).tabs := by
    intro q hq hmem
    rw [(h.mem_tabs q hq _).mp hmem] at hclosed
    cases hclosed
  refine h.setTab ?_ (fun _ => Nat.lt_succ_self _) (Nat.le_succ _) ?_ ?_ ?_ ?_ ?_ ⟨p, hp, rfl⟩
  · rintro q ⟨rfl⟩
    exact hp
  · intro q hq
    by_cases hqp : q = p
    · subst hqp
      simp
    · simpa [hqp, Ne.symm hqp] using hfresh q hq
  · intro q hq u hu
    by_cases hqp : q = p
    · subst hqp
      simp [hu]
    · simp [hqp]
  · intro q hq
    by_cases hqp : q = p
    · subst hqp
      simpa using nodup_concat (h.tabs_nodup q hq) (hfresh q hq)
    · simpa [hqp] using h.tabs_nodup q hq
  · intro _ u _ hu hsame
    have hnone := List.find?_eq_none.mp hnew u (h.mem_allTabs.mpr hu)
    exact hnone (decide_eq_true ⟨hsame.1.symm, hsame.2.symm⟩)
  · intro q hq
    by_cases hqp : q = p
    · subst hqp
      refine ⟨?_, fun hnone => ?_⟩
      · simp
      · simp at hnone
    · simpa [hqp] using h.shows q hq

/-- A new tab is shown, so that its pane can be searched. -/
theorem SearchesShown.createTab (h : s.SearchesShown) (name agent : PyStr) (p : PaneId) :
    (s.createTab name agent p).SearchesShown := by
  intro q hq
  by_cases hqp : q = p
  · subst hqp
    intro _ hnone
    simp [Page.createTab, Page.onPane, Page.focusPane] at hnone
  · simpa [Page.createTab, Page.onPane, Page.focusPane, hqp] using h q hq

/-- Opening a tab, whether it is new or open already, keeps tabs and panes wired. -/
theorem Wired.openTab (h : s.Wired) (name agent : PyStr) : (s.openTab name agent).Wired := by
  unfold Page.openTab
  split
  · exact h.activateTab _
  · next hnew =>
    obtain ⟨p, hp, hfocused⟩ := h.focused
    rw [hfocused]
    exact (h.createTab hp hnew).activateTab _

/-- Opening a tab leaves every open search bar with a tab to search in. -/
theorem SearchesShown.openTab (h : s.SearchesShown) (name agent : PyStr) :
    (s.openTab name agent).SearchesShown := by
  unfold Page.openTab
  split
  · exact h.activateTab _
  · split
    · exact (h.createTab _ _ _).activateTab _
    · exact h

/-- The shortcut shows a tab, or does nothing. -/
theorem cycle_rule {P : Page → Prop} (hs : P s) (hactivate : ∀ t, P (s.activateTab t)) (delta : ℤ) :
    P (s.cycle delta) := by
  unfold cycle
  split
  · exact hs
  · dsimp only
    split
    · exact hs
    · split
      · exact hactivate _
      · exact hs

/-- Adding a pane behind the others keeps tabs and panes wired. -/
theorem Wired.addPane (h : s.Wired) : s.addPane.Wired := by
  unfold Page.addPane
  split
  · exact h
  next hfew =>
  have hfresh : s.nextPaneId ∉ s.panes := fun hmem => Nat.lt_irrefl _ (h.panes_fresh _ hmem)
  have hne : ∀ q ∈ s.panes, q ≠ s.nextPaneId := fun q hq heq => hfresh (heq ▸ hq)
  have hcases : ∀ q, q ∈ s.panes ++ [s.nextPaneId] → q ∈ s.panes ∨ q = s.nextPaneId := by simp
  refine ⟨nodup_concat h.panes_nodup hfresh, ?_, ?_, ⟨s.nextPaneId, by simp [createPane], rfl⟩,
    h.created, ?_, ?_, ?_, h.distinct, ?_⟩
  · intro q hq
    rcases hcases q hq with hq | rfl
    · exact Nat.lt_succ_of_lt (h.panes_fresh q hq)
    · exact Nat.lt_succ_self _
  · have hlength := h.panes_length
    simp only [maxPanes, Nat.not_le] at hfew
    refine Or.inr ?_
    simp only [createPane, focusPane_panes, List.length_append, List.length_singleton]
    omega
  · intro t q ht
    exact List.mem_append_left _ (h.home t q ht)
  · intro q hq
    rcases hcases q hq with hq | rfl
    · simpa [createPane, hne q hq] using h.tabs_nodup q hq
    · simp [createPane]
  · intro q hq t
    rcases hcases q hq with hq | rfl
    · simpa [createPane, Page.focusPane, hne q hq] using h.mem_tabs q hq t
    · have hhome : (s.tab t).pane ≠ some s.nextPaneId := fun ht => hfresh (h.home t _ ht)
      simpa [createPane, Page.focusPane] using hhome
  · intro q hq
    rcases hcases q hq with hq | rfl
    · simpa [createPane, hne q hq] using h.shows q hq
    · constructor <;> simp [createPane]

/-- A new pane has no search bar. -/
theorem SearchesShown.addPane (h : s.SearchesShown) : s.addPane.SearchesShown := by
  unfold Page.addPane
  split
  · exact h
  · intro q hq
    by_cases hqn : q = s.nextPaneId
    · subst hqn
      intro hhidden
      simp [createPane] at hhidden
    · have hold : q ∈ s.panes := by simpa [createPane, hqn] using hq
      simpa [createPane, hqn] using h q hold

/-! ## Closing -/

/-- Two changes of one pane, one after the other, are one change of it. -/
theorem onPane_onPane (s : Page) (p : PaneId) (f g : Pane → Pane) :
    (s.onPane p f).onPane p g = s.onPane p fun pane => g (f pane) := by
  simp [Page.onPane]

/-- A pane and the home of a tab change independently. -/
theorem setHome_onPane (s : Page) (t : TabId) (home : Option PaneId) (p : PaneId)
    (f : Pane → Pane) : (s.setHome t home).onPane p f = (s.onPane p f).setHome t home := rfl

/-- Two changes that agree on a pane are the same change of it. -/
theorem onPane_congr {f g : Pane → Pane} (h : f (s.pane p) = g (s.pane p)) :
    s.onPane p f = s.onPane p g := by
  rw [Page.onPane, h]
  rfl

/-- Focusing the pane that has the focus already changes nothing. -/
theorem focusPane_self (h : s.focusedPane = some p) : s.focusPane p = s := by
  cases s
  simp_all [Page.focusPane]

/-- Showing a tab that is in a pane makes it the active tab of that pane and gives the pane the
focus. -/
theorem activateTab_of_home (ht : (s.tab t).pane = some p) :
    s.activateTab t = (s.onPane p fun pane => { pane with activeTab := some t }).focusPane p := by
  simp [Page.activateTab, ht]

end

end Page

/-- A pane after one of its tabs is closed. -/
def Pane.closed (pane : Pane) (t : TabId) (focused : Bool) : Pane where
  tabs := pane.tabs.erase t
  activeTab := if pane.activeTab = some t then neighbour pane.tabs t else pane.activeTab
  searchHidden := pane.searchHidden || focused && decide (pane.tabs = [t])

namespace Page

section

variable {s : Page} {t : TabId} {p : PaneId}

/-- `closeTab` takes an open tab from its pane and leaves it without one. -/
theorem Wired.closeTab_eq (h : s.Wired) (ht : (s.tab t).pane = some p) :
    s.closeTab t =
      (s.onPane p fun pane => pane.closed t (decide (s.focusedPane = some p))).setHome t none := by
  obtain ⟨hp, hmem⟩ := h.mem_of_home ht
  have hsplice := spliceOut_of_mem hmem
  have halone := neighbour_eq_none_iff hmem
  unfold Page.closeTab
  rw [ht]
  dsimp only
  by_cases hactive : (s.pane p).activeTab = some t
  · rw [if_pos (decide_eq_true hactive)]
    cases hnext : neighbour (s.pane p).tabs t with
    | none =>
      have htabs := halone.mp hnext
      rw [htabs] at hnext hsplice
      dsimp only
      split
      · next hfocus =>
        change s.focusedPane = some p at hfocus
        simp only [Page.closeSearch, setHome_onPane, onPane_onPane]
        refine congrArg (fun u => setHome u t none) (onPane_congr ?_)
        simp [Pane.closed, hactive, hnext, hsplice, hfocus, htabs]
      · next hfocus =>
        change s.focusedPane ≠ some p at hfocus
        simp only [setHome_onPane, onPane_onPane]
        refine congrArg (fun u => setHome u t none) (onPane_congr ?_)
        simp [Pane.closed, hactive, hnext, hsplice, hfocus, htabs]
    | some n =>
      have hmany : (s.pane p).tabs ≠ [t] := fun htabs => by
        rw [halone.mpr htabs] at hnext
        cases hnext
      have hchange : (s.onPane p fun pane =>
          { pane with tabs := spliceOut pane.tabs t, activeTab := some n }).setHome t none =
          (s.onPane p fun pane => pane.closed t (decide (s.focusedPane = some p))).setHome t
            none := by
        refine congrArg (fun u => setHome u t none) (onPane_congr ?_)
        simp [Pane.closed, hactive, hnext, hsplice, hmany]
      rw [← hchange]
      dsimp only
      split
      · next hfocus =>
        -- The neighbour is shown once more, in the pane that has the focus anyway.
        obtain ⟨hne, hn⟩ := (h.tabs_nodup p hp).mem_erase_iff.mp (neighbour_mem hnext)
        have hhome := (h.mem_tabs p hp n).mp hn
        rw [activateTab_of_home (p := p) (by simpa [hne] using hhome)]
        simp only [setHome_onPane, onPane_onPane]
        exact focusPane_self hfocus
      · simp only [setHome_onPane, onPane_onPane]
  · rw [if_neg (by simpa using hactive)]
    have hmany : (s.pane p).tabs ≠ [t] := by
      intro htabs
      cases hshown : (s.pane p).activeTab with
      | none => exact absurd ((h.shows p hp).empty hshown) (List.ne_nil_of_mem hmem)
      | some u =>
        have hu := (h.shows p hp).mem u hshown
        rw [htabs, List.mem_singleton] at hu
        exact hactive (hu ▸ hshown)
    refine congrArg (fun u => setHome u t none) (onPane_congr ?_)
    simp [Pane.closed, hactive, hmany, hsplice]

/-- Closing a tab that is in no pane changes nothing. -/
theorem closeTab_of_closed (ht : (s.tab t).pane = none) : s.closeTab t = s := by
  simp [Page.closeTab, ht]

/-- A pane shows one of the tabs that are left. -/
theorem closed_shows {pane : Pane} (h : pane.Shows) (hmem : t ∈ pane.tabs) (focused : Bool) :
    (pane.closed t focused).Shows := by
  constructor
  · intro u hu
    by_cases hactive : pane.activeTab = some t
    · exact neighbour_mem (by simpa [Pane.closed, hactive] using hu)
    · have hshown : pane.activeTab = some u := by simpa [Pane.closed, hactive] using hu
      have hne : u ≠ t := fun heq => hactive (heq ▸ hshown)
      exact (List.mem_erase_of_ne hne).mpr (h.mem u hshown)
  · intro hnone
    by_cases hactive : pane.activeTab = some t
    · have halone := (neighbour_eq_none_iff hmem).mp (by simpa [Pane.closed, hactive] using hnone)
      simp [Pane.closed, halone]
    · have hshown : pane.activeTab = none := by simpa [Pane.closed, hactive] using hnone
      simp [Pane.closed, h.empty hshown]

/-- The search bar of a pane is in order after a tab is closed, unless it was the last one of
another pane than the focused one. -/
theorem closed_searches_iff {pane : Pane} (h : pane.Shows) (hmem : t ∈ pane.tabs)
    (hsearches : pane.Searches) (focused : Bool) :
    (pane.closed t focused).Searches ↔
      ¬(focused = false ∧ pane.tabs = [t] ∧ pane.searchHidden = false) := by
  have hshown : pane.tabs = [t] → pane.activeTab = some t := by
    intro htabs
    cases hactive : pane.activeTab with
    | none => exact absurd (h.empty hactive) (List.ne_nil_of_mem hmem)
    | some u =>
      have hu := h.mem u hactive
      rw [htabs, List.mem_singleton] at hu
      rw [hu]
  have halone := neighbour_eq_none_iff hmem
  unfold Pane.Searches at hsearches ⊢
  by_cases htabs : pane.tabs = [t]
  · have hnone := halone.mpr htabs
    rw [htabs] at hnone
    simp only [Pane.closed, hshown htabs, if_true, htabs, hnone, decide_true, Bool.and_true]
    cases focused <;> simp
  · by_cases hactive : pane.activeTab = some t
    · simp [Pane.closed, hactive, htabs, halone]
    · simpa [Pane.closed, hactive, htabs] using hsearches

/-- Closing a tab keeps tabs and panes wired. -/
theorem Wired.closeTab (h : s.Wired) (t : TabId) : (s.closeTab t).Wired := by
  cases ht : (s.tab t).pane with
  | none =>
    rw [closeTab_of_closed ht]
    exact h
  | some p =>
    obtain ⟨hp, hmem⟩ := h.mem_of_home ht
    rw [h.closeTab_eq ht]
    refine h.setTab (fun q hq => by cases hq) (fun hopen => absurd rfl hopen) (Nat.le_refl _) ?_ ?_
      ?_ (fun hopen => absurd rfl hopen) ?_ h.focused
    · intro q hq
      by_cases hqp : q = p
      · subst hqp
        simpa [Pane.closed] using fun hin => (h.tabs_nodup q hq).not_mem_erase hin
      · have hother : t ∉ (s.pane q).tabs := fun hin => by
          have hhome := (h.mem_tabs q hq t).mp hin
          rw [ht, Option.some.injEq] at hhome
          exact hqp hhome.symm
        simpa [hqp] using hother
    · intro q hq u hu
      by_cases hqp : q = p
      · subst hqp
        simpa [Pane.closed] using List.mem_erase_of_ne hu
      · simp [hqp]
    · intro q hq
      by_cases hqp : q = p
      · subst hqp
        simpa [Pane.closed] using (h.tabs_nodup q hq).erase t
      · simpa [hqp] using h.tabs_nodup q hq
    · intro q hq
      by_cases hqp : q = p
      · subst hqp
        simpa using closed_shows (h.shows q hq) hmem _
      · simpa [hqp] using h.shows q hq

/-- Closing the tab leaves a search bar without a tab: it is the last one of a pane, whose search
bar is open and which does not have the focus. -/
def StrandsSearch (s : Page) (t : TabId) : Prop :=
  ∃ p ∈ s.panes, (s.tab t).pane = some p ∧ s.focusedPane ≠ some p ∧ (s.pane p).tabs = [t] ∧
    (s.pane p).searchHidden = false

/-- Closing a tab keeps the search bars in order if and only if it strands none. -/
theorem Wired.closeTab_searches_iff (h : s.Wired) (hsearches : s.SearchesShown) (t : TabId) :
    (s.closeTab t).SearchesShown ↔ ¬s.StrandsSearch t := by
  cases ht : (s.tab t).pane with
  | none =>
    rw [closeTab_of_closed ht]
    refine iff_of_true hsearches ?_
    rintro ⟨p, -, hp, -⟩
    rw [ht] at hp
    cases hp
  | some p =>
    obtain ⟨hp, hmem⟩ := h.mem_of_home ht
    have hclosed := closed_searches_iff (h.shows p hp) hmem (hsearches p hp)
      (decide (s.focusedPane = some p))
    rw [decide_eq_false_iff_not] at hclosed
    rw [h.closeTab_eq ht]
    constructor
    · rintro hafter ⟨q, -, hq, hstrands⟩
      rw [ht, Option.some.injEq] at hq
      subst hq
      have hpane := hafter p hp
      simp only [setHome_pane, onPane_pane, Function.update_self] at hpane
      exact hclosed.mp hpane hstrands
    · intro hnot q hq
      by_cases hqp : q = p
      · subst hqp
        simpa using hclosed.mpr fun hstrands => hnot ⟨q, hp, ht, hstrands⟩
      · simpa [hqp] using hsearches q hq

/-! ## Logging out -/

/-- What the closing of tabs leaves alone. -/
structure Closes (s s' : Page) : Prop where
  panes : s'.panes = s.panes
  focusedPane : s'.focusedPane = s.focusedPane
  hidden : ∀ p, s.focusedPane ≠ some p → (s'.pane p).searchHidden = (s.pane p).searchHidden
  tabs : ∀ p, (s.pane p).tabs = [] → (s'.pane p).tabs = []
  closed : ∀ t, (s.tab t).pane = none → (s'.tab t).pane = none

/-- What closing tabs leaves alone is left alone when nothing is closed. -/
theorem Closes.refl (s : Page) : s.Closes s :=
  ⟨rfl, rfl, fun _ _ => rfl, fun _ => id, fun _ => id⟩

/-- What closing tabs leaves alone is left alone by closing more of them. -/
theorem Closes.trans {s' s'' : Page} (h : s.Closes s') (h' : s'.Closes s'') : s.Closes s'' where
  panes := h'.panes.trans h.panes
  focusedPane := h'.focusedPane.trans h.focusedPane
  hidden p hp := (h'.hidden p (h.focusedPane ▸ hp)).trans (h.hidden p hp)
  tabs p hp := h'.tabs p (h.tabs p hp)
  closed t ht := h'.closed t (h.closed t ht)

/-- Closing one tab leaves the other tabs alone, and that tab is in no pane then. -/
theorem Wired.closes (h : s.Wired) (t : TabId) :
    s.Closes (s.closeTab t) ∧ ((s.closeTab t).tab t).pane = none := by
  cases ht : (s.tab t).pane with
  | none =>
    rw [closeTab_of_closed ht]
    exact ⟨.refl s, ht⟩
  | some p =>
    rw [h.closeTab_eq ht]
    refine ⟨⟨rfl, rfl, fun q hq => ?_, fun q hq => ?_, fun u hu => ?_⟩, by simp⟩
    · by_cases hqp : q = p
      · subst hqp
        simp [Pane.closed, hq]
      · simp [hqp]
    · by_cases hqp : q = p
      · subst hqp
        simp [Pane.closed, hq]
      · simpa [hqp] using hq
    · by_cases hut : u = t
      · subst hut
        simp
      · simpa [hut] using hu

/-- Closing the tabs of a list one after another keeps the page wired and leaves each of them
closed. -/
theorem Wired.closeTabs (h : s.Wired) (l : List TabId) :
    (l.foldl Page.closeTab s).Wired ∧ s.Closes (l.foldl Page.closeTab s) ∧
      ∀ t ∈ l, ((l.foldl Page.closeTab s).tab t).pane = none := by
  induction l generalizing s with
  | nil => exact ⟨h, .refl s, fun _ ht => by cases ht⟩
  | cons first rest ih =>
    obtain ⟨hcloses, hfirst⟩ := h.closes first
    obtain ⟨hwired, hrest, hclosed⟩ := ih (h.closeTab first)
    refine ⟨hwired, hcloses.trans hrest, fun t ht => ?_⟩
    rcases List.mem_cons.mp ht with rfl | ht
    · exact hrest.closed t hfirst
    · exact hclosed t ht

/-- A logout leaves a search bar without a tab: it is open in a pane that has tabs and does not
have the focus. -/
def LogoutStrands (s : Page) : Prop :=
  ∃ p ∈ s.panes, s.focusedPane ≠ some p ∧ (s.pane p).tabs ≠ [] ∧ (s.pane p).searchHidden = false

/-- If no pane without the focus has an open search bar, closing tabs keeps the search bars in
order. -/
theorem Wired.closeTabs_searches (h : s.Wired) (hsearches : s.SearchesShown)
    (hnone : ¬s.LogoutStrands) (l : List TabId) : (l.foldl Page.closeTab s).SearchesShown := by
  induction l generalizing s with
  | nil => exact hsearches
  | cons first rest ih =>
    have hkeeps : ¬s.StrandsSearch first := by
      rintro ⟨p, hp, -, hfocus, htabs, hhidden⟩
      exact hnone ⟨p, hp, hfocus, by simp [htabs], hhidden⟩
    obtain ⟨hcloses, -⟩ := h.closes first
    refine ih (h.closeTab first) ((h.closeTab_searches_iff hsearches first).mpr hkeeps) ?_
    rintro ⟨p, hp, hfocus, htabs, hhidden⟩
    rw [hcloses.panes] at hp
    rw [hcloses.focusedPane] at hfocus
    rw [hcloses.hidden p hfocus] at hhidden
    exact hnone ⟨p, hp, hfocus, fun hnil => htabs (hcloses.tabs p hnil), hhidden⟩

/-- A logout keeps the search bars in order if and only if it strands none. -/
theorem Wired.closeAll_searches_iff (h : s.Wired) (hsearches : s.SearchesShown) :
    s.closeAll.SearchesShown ↔ ¬s.LogoutStrands := by
  refine ⟨?_, fun hnone => h.closeTabs_searches hsearches hnone _⟩
  rintro hafter ⟨p, hp, hfocus, -, hhidden⟩
  obtain ⟨hwired, hcloses, hclosed⟩ := h.closeTabs s.allTabs
  have hp' : p ∈ s.closeAll.panes := hcloses.panes ▸ hp
  have hopen : (s.closeAll.pane p).searchHidden = false := (hcloses.hidden p hfocus).trans hhidden
  obtain ⟨t, ht⟩ := Option.ne_none_iff_exists'.mp (hafter p hp' hopen)
  have hhome := (hwired.mem_tabs p hp' t).mp ((hwired.shows p hp').mem t ht)
  -- The tab that is shown would be one that was closed.
  have hnone : (s.closeAll.tab t).pane = none := by
    by_cases hopened : (s.tab t).pane = none
    · exact hcloses.closed t hopened
    · exact hclosed t (h.mem_allTabs.mpr hopened)
  rw [closeAll] at hnone
  rw [hnone] at hhome
  cases hhome

end

end Page

end WTerm
