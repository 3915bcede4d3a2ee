import WTerm.Client.Page

/-!
# Moves, merges and runs

A tab that changes its pane and a pane that is merged into the other one keep tabs and panes wired,
and so does every event. The search bars stay in order but for the tabs that strand one.
-/

namespace WTerm

open Transition

/-- A pane after one of its tabs is moved to another pane. -/
def Pane.left (pane : Pane) (t : TabId) : Pane where
  tabs := pane.tabs.erase t
  activeTab := if pane.activeTab = some t then (pane.tabs.erase t).getLast? else pane.activeTab
  searchHidden := pane.searchHidden ||
    decide (pane.activeTab = some t ∧ (pane.tabs.erase t).getLast? = none)

/-- A pane after a tab of another pane is moved to it. -/
def Pane.joined (pane : Pane) (t : TabId) : Pane :=
  { pane with tabs := pane.tabs ++ [t], activeTab := some t }

namespace Page

section

variable {s : Page} {t : TabId} {p q r : PaneId}

/-! ## Moving -/

/-- Changes of two different panes can be made in either order. -/
theorem onPane_comm (hpq : p ≠ q) (f g : Pane → Pane) :
    (s.onPane p f).onPane q g = (s.onPane q g).onPane p f := by
  simp only [Page.onPane, Function.update_of_ne hpq, Function.update_of_ne hpq.symm,
    Function.update_comm hpq]

/-- The page after a tab is moved, before it is focused. -/
def moved (s : Page) (t : TabId) (q p : PaneId) : Page :=
  ((s.onPane q fun pane => pane.left t).onPane p fun pane => pane.joined t).setHome t (some p)

/-- `moveTabToPane` takes a tab of another pane from it and puts it behind the tabs of the given
one. -/
theorem Wired.moveTabToPane_eq (h : s.Wired) (ht : (s.tab t).pane = some q) (hqp : q ≠ p) :
    s.moveTabToPane t p false = s.moved t q p := by
  obtain ⟨hq, hmem⟩ := h.mem_of_home ht
  have hsplice := spliceOut_of_mem hmem
  have hmoved : ∀ leave : Pane → Pane, leave (s.pane q) = (s.pane q).left t →
      ((s.onPane q leave).onPane p fun pane => pane.joined t).setHome t (some p) =
        s.moved t q p := by
    intro leave hleave
    have hcongr : s.onPane q leave = s.onPane q fun pane => pane.left t := onPane_congr hleave
    rw [hcongr, moved]
  unfold Page.moveTabToPane
  rw [ht]
  simp only [if_neg hqp, Bool.false_eq_true, if_false]
  by_cases hactive : (s.pane q).activeTab = some t
  · rw [if_pos (by simpa [hqp] using hactive)]
    simp only [setHome_pane, onPane_pane, Function.update_of_ne hqp, Function.update_self, hsplice]
    split
    · next hlast =>
      refine Eq.trans ?_ (hmoved (fun pane =>
        { tabs := spliceOut pane.tabs t, activeTab := none, searchHidden := true }) ?_)
      · simp only [Page.closeSearch, setHome_onPane, onPane_comm hqp.symm, onPane_onPane, hlast]
        rfl
      · simp [Pane.left, hactive, hsplice, hlast]
    · next hlast =>
      refine Eq.trans ?_ (hmoved (fun pane =>
        { pane with
          tabs := spliceOut pane.tabs t, activeTab := ((s.pane q).tabs.erase t).getLast? }) ?_)
      · simp only [setHome_onPane, onPane_comm hqp.symm, onPane_onPane]
        rfl
      · simp [Pane.left, hactive, hsplice, hlast]
  · rw [if_neg (by simpa [hqp] using hactive)]
    refine Eq.trans ?_ (hmoved (fun pane => { pane with tabs := spliceOut pane.tabs t }) ?_)
    · simp only [setHome_onPane, onPane_onPane]
      rfl
    · simp [Pane.left, hactive, hsplice]

/-- A tab that is moved by its button is shown once more, with the focus. -/
theorem Wired.moveTabToPane_refit (h : s.Wired) (ht : (s.tab t).pane = some q) (hqp : q ≠ p) :
    s.moveTabToPane t p true = (s.moved t q p).activateTab t := by
  rw [← h.moveTabToPane_eq ht hqp]
  simp [Page.moveTabToPane, ht, hqp]

/-- A tab that is in the pane already, or closed. -/
theorem moveTabToPane_stays (ht : ∀ q, (s.tab t).pane = some q → q = p) (refit : Bool) :
    s.moveTabToPane t p refit = s := by
  unfold Page.moveTabToPane
  split
  · rfl
  · next q hq => rw [if_pos (ht q hq)]

/-- A pane shows one of the tabs that are left. -/
theorem left_shows {pane : Pane} (h : pane.Shows) : (pane.left t).Shows := by
  constructor
  · intro u hu
    by_cases hactive : pane.activeTab = some t
    · exact List.mem_of_getLast? (by simpa [Pane.left, hactive] using hu)
    · have hshown : pane.activeTab = some u := by simpa [Pane.left, hactive] using hu
      have hne : u ≠ t := fun heq => hactive (heq ▸ hshown)
      exact (List.mem_erase_of_ne hne).mpr (h.mem u hshown)
  · intro hnone
    by_cases hactive : pane.activeTab = some t
    · exact List.getLast?_eq_none_iff.mp (by simpa [Pane.left, hactive] using hnone)
    · have hshown : pane.activeTab = none := by simpa [Pane.left, hactive] using hnone
      simp [Pane.left, h.empty hshown]

/-- The search bar is closed if no tab is left, whether the pane has the focus or not. -/
theorem left_searches {pane : Pane} (h : pane.Searches) : (pane.left t).Searches := by
  unfold Pane.Searches at h ⊢
  by_cases hactive : pane.activeTab = some t
  · simp [Pane.left, hactive]
  · simpa [Pane.left, hactive] using h

/-- A pane shows the tab that it gets. -/
theorem joined_shows (pane : Pane) (t : TabId) : (pane.joined t).Shows := by
  constructor <;> simp [Pane.joined]

/-- Moving a tab to another pane keeps tabs and panes wired. -/
theorem Wired.moved (h : s.Wired) (ht : (s.tab t).pane = some q) (hp : p ∈ s.panes)
    (hqp : q ≠ p) : (s.moved t q p).Wired := by
  obtain ⟨hq, hmem⟩ := h.mem_of_home ht
  have hfresh : ∀ r ∈ s.panes, r ≠ q → t ∉ (s.pane r).tabs := by
    intro r hr hrq hin
    rw [(h.mem_tabs r hr t).mp hin, Option.some.injEq] at ht
    exact hrq ht
  refine h.setTab (fun r hr => ?_) (fun _ => ?_) (Nat.le_refl _) ?_ ?_ ?_
    (fun _ u hu hopen => ?_) ?_
    h.focused
  · cases hr
    exact hp
  · exact h.created t (by rw [ht]; exact Option.some_ne_none q)
  · intro r hr
    by_cases hrp : r = p
    · subst hrp
      simp [Pane.joined]
    · by_cases hrq : r = q
      · subst hrq
        simpa [hqp, Ne.symm hqp, Pane.left] using fun hin => (h.tabs_nodup r hr).not_mem_erase hin
      · simpa [hrp, hrq, Ne.symm hrp] using hfresh r hr hrq
  · intro r hr u hu
    by_cases hrp : r = p
    · subst hrp
      simp [Pane.joined, hu, Ne.symm hqp]
    · by_cases hrq : r = q
      · subst hrq
        simpa [hqp, Pane.left] using List.mem_erase_of_ne hu
      · simp [hrp, hrq]
  · intro r hr
    by_cases hrp : r = p
    · subst hrp
      simpa [Pane.joined, Ne.symm hqp] using
        nodup_concat (h.tabs_nodup r hr) (hfresh r hr (Ne.symm hqp))
    · by_cases hrq : r = q
      · subst hrq
        simpa [hqp, Pane.left] using (h.tabs_nodup r hr).erase t
      · simpa [hrp, hrq] using h.tabs_nodup r hr
  · intro hsame
    exact hu (h.distinct u t hopen (by rw [ht]; exact Option.some_ne_none q)
      (hsame.imp Eq.symm Eq.symm))
  · intro r hr
    by_cases hrp : r = p
    · subst hrp
      simpa using joined_shows _ t
    · by_cases hrq : r = q
      · subst hrq
        simpa [hqp] using left_shows (h.shows r hr)
      · simpa [hrp, hrq] using h.shows r hr

/-- Moving a tab to another pane keeps the search bars in order. -/
theorem SearchesShown.moved (h : s.SearchesShown) (t : TabId) (q p : PaneId) :
    (s.moved t q p).SearchesShown := by
  have hleft : (s.onPane q fun pane => pane.left t).SearchesShown :=
    h.onPane fun hq => left_searches (h q hq)
  have hjoined : ((s.onPane q fun pane => pane.left t).onPane p fun pane =>
      pane.joined t).SearchesShown := hleft.onPane fun _ _ hnone => by cases hnone
  exact hjoined

/-- A call of `moveTabToPane` does nothing or moves the tab. -/
theorem Wired.moveTabToPane_cases (h : s.Wired) (t : TabId) (p : PaneId) :
    (∀ refit, s.moveTabToPane t p refit = s) ∧ (∀ q, (s.tab t).pane = some q → q = p) ∨
      ∃ q, (s.tab t).pane = some q ∧ q ≠ p ∧ s.moveTabToPane t p false = s.moved t q p ∧
        s.moveTabToPane t p true = (s.moved t q p).activateTab t := by
  by_cases hstays : ∀ q, (s.tab t).pane = some q → q = p
  · exact Or.inl ⟨moveTabToPane_stays hstays, hstays⟩
  · push Not at hstays
    obtain ⟨q, hq, hqp⟩ := hstays
    exact Or.inr ⟨q, hq, hqp, h.moveTabToPane_eq hq hqp, h.moveTabToPane_refit hq hqp⟩

/-- What holds of a page, and still does when a tab is moved or shown, holds after
`moveTabToPane`. -/
theorem Wired.moveTabToPane_rule (h : s.Wired) {P : Page → Prop} (hs : P s)
    (hmoved : ∀ q, (s.tab t).pane = some q → q ≠ p → P (s.moved t q p))
    (hactivate : ∀ s', P s' → P (s'.activateTab t)) (refit : Bool) :
    P (s.moveTabToPane t p refit) := by
  rcases h.moveTabToPane_cases t p with ⟨hstays, -⟩ | ⟨q, hq, hqp, hfalse, htrue⟩
  · rw [hstays]
    exact hs
  · cases refit with
    | false =>
      rw [hfalse]
      exact hmoved q hq hqp
    | true =>
      rw [htrue]
      exact hactivate _ (hmoved q hq hqp)

/-- The button that moves a tab keeps tabs and panes wired. -/
theorem Wired.moveTabToPane (h : s.Wired) (hp : p ∈ s.panes) (t : TabId) (refit : Bool) :
    (s.moveTabToPane t p refit).Wired :=
  h.moveTabToPane_rule (P := Wired) h (fun _ hq hqp => h.moved hq hp hqp)
    (fun _ hwired => hwired.activateTab t) refit

/-- The button that moves a tab keeps the search bars in order. -/
theorem Wired.moveTabToPane_searches (h : s.Wired) (hsearches : s.SearchesShown) (t : TabId)
    (p : PaneId) (refit : Bool) : (s.moveTabToPane t p refit).SearchesShown :=
  h.moveTabToPane_rule (P := SearchesShown) hsearches (fun q _ _ => hsearches.moved t q p)
    (fun _ hshown => hshown.activateTab t) refit

/-! ## Merging -/

/-- The tabs stay open or closed. -/
structure SameOpen (s s' : Page) : Prop where
  tabCount : s'.tabCount = s.tabCount
  closed_iff : ∀ t, (s'.tab t).pane = none ↔ (s.tab t).pane = none

/-- The tabs stay open or closed when nothing changes. -/
theorem SameOpen.refl (s : Page) : SameOpen s s := ⟨rfl, fun _ => Iff.rfl⟩

/-- The tabs stay open or closed over two changes, one after the other. -/
theorem SameOpen.trans {s' s'' : Page} (h : SameOpen s s') (h' : SameOpen s' s'') :
    SameOpen s s'' where
  tabCount := h'.tabCount.trans h.tabCount
  closed_iff t := (h'.closed_iff t).trans (h.closed_iff t)

/-- Showing a tab opens and closes none. -/
theorem sameOpen_activateTab (s : Page) (t : TabId) : SameOpen s (s.activateTab t) := by
  unfold Page.activateTab
  split
  · exact .refl s
  · exact ⟨rfl, fun _ => Iff.rfl⟩

/-- Moving a tab from its pane to another one opens and closes none. -/
theorem sameOpen_moved (ht : (s.tab t).pane = some q) (p : PaneId) :
    SameOpen s (s.moved t q p) := by
  refine ⟨rfl, fun u => ?_⟩
  by_cases hut : u = t
  · subst hut
    simp [Page.moved, ht]
  · simp [Page.moved, hut]

/-- The button that moves a tab closes none. -/
theorem Wired.sameOpen_moveTabToPane (h : s.Wired) (t : TabId) (p : PaneId) (refit : Bool) :
    SameOpen s (s.moveTabToPane t p refit) :=
  h.moveTabToPane_rule (P := SameOpen s) (.refl s) (fun _ hq _ => sameOpen_moved hq p)
    (fun s' hsame => hsame.trans (sameOpen_activateTab s' t)) refit

/-- What moving tabs to another pane leaves alone: no tab comes to the pane `p`. -/
structure Leaves (p : PaneId) (s s' : Page) : Prop extends SameOpen s s' where
  panes : s'.panes = s.panes
  away : ∀ t, (s.tab t).pane ≠ some p → (s'.tab t).pane ≠ some p

/-- No tab comes to a pane when none is moved. -/
theorem Leaves.refl (p : PaneId) (s : Page) : Leaves p s s := ⟨.refl s, rfl, fun _ => id⟩

/-- If no tab comes to a pane in either of two moves, none comes to it in both. -/
theorem Leaves.trans {s' s'' : Page} (h : Leaves p s s') (h' : Leaves p s' s'') :
    Leaves p s s'' where
  toSameOpen := h.toSameOpen.trans h'.toSameOpen
  panes := h'.panes.trans h.panes
  away t ht := h'.away t (h.away t ht)

/-- Moving a tab to another pane brings no tab to the pane, and that tab is not in it then. -/
theorem Wired.leaves (h : s.Wired) (hqp : q ≠ p) (t : TabId) :
    Leaves p s (s.moveTabToPane t q false) ∧
      ((s.moveTabToPane t q false).tab t).pane ≠ some p := by
  have hsame := h.sameOpen_moveTabToPane t q false
  rcases h.moveTabToPane_cases t q with ⟨hstays, hhome⟩ | ⟨r, hr, hrq, hfalse, -⟩
  · rw [hstays]
    exact ⟨.refl p s, fun ht => hqp (hhome p ht).symm⟩
  · rw [hfalse] at hsame ⊢
    have hself : ((s.moved t r q).tab t).pane ≠ some p := by simpa [Page.moved] using hqp
    refine ⟨⟨hsame, rfl, fun u hu => ?_⟩, hself⟩
    by_cases hut : u = t
    · rw [hut]
      exact hself
    · simpa [Page.moved, hut] using hu

/-- Moving the tabs of a list one after another keeps the page wired and leaves none of them in the
old pane. -/
theorem Wired.moveTabs (h : s.Wired) (hq : q ∈ s.panes) (hqp : q ≠ p) (l : List TabId) :
    let s' := l.foldl (fun s t => s.moveTabToPane t q false) s
    s'.Wired ∧ Leaves p s s' ∧ (∀ t ∈ l, (s'.tab t).pane ≠ some p) ∧
      (s.SearchesShown → s'.SearchesShown) := by
  induction l generalizing s with
  | nil => exact ⟨h, .refl p s, fun _ ht => absurd ht List.not_mem_nil, id⟩
  | cons first rest ih =>
    obtain ⟨hleaves, hfirst⟩ := h.leaves hqp first
    obtain ⟨hwired, hrest, haway, hshown⟩ :=
      ih (h.moveTabToPane hq first false) (hleaves.panes ▸ hq)
    refine ⟨hwired, hleaves.trans hrest, fun t ht => ?_, fun hsearches => ?_⟩
    · rcases List.mem_cons.mp ht with rfl | ht
      · exact hrest.away t hfirst
      · exact haway t ht
    · exact hshown (h.moveTabToPane_searches hsearches first q false)

/-- One pane is left, with the focus. -/
def alone (s : Page) (r : PaneId) : Page := { s with panes := [r], focusedPane := some r }

/-- A pane without tabs is taken away. -/
theorem Wired.alone (h : s.Wired) (hr : r ∈ s.panes)
    (hhome : ∀ t q, (s.tab t).pane = some q → q = r) : (s.alone r).Wired where
  panes_nodup := by simp [Page.alone]
  panes_fresh q hq := h.panes_fresh q (List.mem_singleton.mp hq ▸ hr)
  panes_length := Or.inl rfl
  focused := ⟨r, List.mem_singleton_self r, rfl⟩
  created := h.created
  home t q ht := List.mem_singleton.mpr (hhome t q ht)
  tabs_nodup q hq := h.tabs_nodup q (List.mem_singleton.mp hq ▸ hr)
  mem_tabs q hq := h.mem_tabs q (List.mem_singleton.mp hq ▸ hr)
  distinct := h.distinct
  shows q hq := h.shows q (List.mem_singleton.mp hq ▸ hr)

/-- With two panes, the other one is left. -/
theorem Wired.survivor (h : s.Wired) (hp : p ∈ s.panes) (hmany : ¬s.panes.length < 2) :
    ∃ r ∈ s.panes, r ≠ p ∧ s.panes.getD (if s.panes.idxOf? p = some 0 then 1 else 0) p = r ∧
      spliceOut s.panes p = [r] ∧ ∀ q ∈ s.panes, q = p ∨ q = r := by
  have hnodup := h.panes_nodup
  obtain ⟨a, b, hpanes⟩ := List.length_eq_two.mp (h.panes_length.resolve_left (by omega))
  rw [hpanes] at hp hnodup ⊢
  have hab : a ≠ b := by simpa using hnodup
  by_cases hpa : p = a
  · subst hpa
    refine ⟨b, by simp, hab.symm, by simp [List.idxOf?_cons], ?_, by simp⟩
    rw [spliceOut_of_mem hp, List.erase_cons_head]
  · have hpb : p = b := by simpa [hpa] using hp
    subst hpb
    refine ⟨a, by simp, hab, by simp [List.idxOf?_cons, hab], ?_, by simp [or_comm]⟩
    rw [spliceOut_of_mem hp, List.erase_cons_tail (by simpa using hab), List.erase_cons_head]

/-- What `removePane` leaves: the other pane, with all tabs and the focus. -/
theorem Wired.removePane_cases (h : s.Wired) (hp : p ∈ s.panes) (hmany : ¬s.panes.length < 2) :
    ∃ (s' : Page) (r : PaneId), (s'.alone r).Wired ∧ SameOpen s (s'.alone r) ∧
      (s.SearchesShown → (s'.alone r).SearchesShown) ∧
      (s.removePane p = s'.alone r ∨ ∃ t, s.removePane p = (s'.alone r).activateTab t) := by
  obtain ⟨r, hr, hrp, hsurvivor, hsplice, hpanes⟩ := h.survivor hp hmany
  obtain ⟨hwired, hleaves, haway, hshown⟩ := h.moveTabs hr hrp (s.pane p).tabs
  set s' := (s.pane p).tabs.foldl (fun s t => s.moveTabToPane t r false) s with hs'
  have hr' : r ∈ s'.panes := hleaves.panes ▸ hr
  -- No tab is in the pane that goes: those that were have moved, and none came.
  have hhome : ∀ t q, (s'.tab t).pane = some q → q = r := by
    intro t q ht
    have hq : q ∈ s.panes := hleaves.panes ▸ hwired.home t q ht
    refine (hpanes q hq).resolve_left fun hqp => ?_
    subst hqp
    by_cases hbefore : (s.tab t).pane = some q
    · exact haway t ((h.mem_tabs q hp t).mpr hbefore) ht
    · exact hleaves.away t hbefore ht
  have halone := hwired.alone hr' hhome
  refine ⟨s', r, halone, ⟨hleaves.tabCount, hleaves.closed_iff⟩, fun hsearches q hq => ?_, ?_⟩
  · exact hshown hsearches q (List.mem_singleton.mp hq ▸ hr')
  · unfold Page.removePane
    rw [if_neg hmany]
    simp only [hsurvivor, ← hs', hleaves.panes, hsplice]
    split
    · next t ht =>
      have hthome : (s'.tab t).pane = some r :=
        (hwired.mem_tabs r hr' t).mp ((hwired.shows r hr').mem t ht)
      have hone : ({ s' with panes := [r] } : Page).activateTab t = _ := activateTab_of_home hthome
      have hfocused : (s'.alone r).activateTab t = _ := activateTab_of_home hthome
      exact Or.inr ⟨t, hone.trans hfocused.symm⟩
    · exact Or.inl rfl

/-- What holds of a page, and still does when only one pane is left and when a tab is shown, holds
after `removePane`. -/
theorem Wired.removePane_rule (h : s.Wired) (hp : p ∈ s.panes) {P : Page → Prop} (hs : P s)
    (halone : ∀ s' r, (Page.alone s' r).Wired → SameOpen s (s'.alone r) →
      (s.SearchesShown → (s'.alone r).SearchesShown) → P (s'.alone r))
    (hactivate : ∀ s' t, P s' → P (s'.activateTab t)) : P (s.removePane p) := by
  by_cases hmany : s.panes.length < 2
  · rw [Page.removePane, if_pos hmany]
    exact hs
  · obtain ⟨s', r, hwired, hsame, hshown, heq | ⟨t, heq⟩⟩ := h.removePane_cases hp hmany
    · rw [heq]
      exact halone s' r hwired hsame hshown
    · rw [heq]
      exact hactivate _ t (halone s' r hwired hsame hshown)

/-- Merging a pane into the other one. -/
theorem Wired.removePane (h : s.Wired) (hp : p ∈ s.panes) : (s.removePane p).Wired :=
  h.removePane_rule hp (P := Wired) h (fun _ _ hwired _ _ => hwired)
    fun _ t hwired => hwired.activateTab t

/-- Merging a pane into the other one keeps the search bars in order. -/
theorem Wired.removePane_searches (h : s.Wired) (hsearches : s.SearchesShown) (hp : p ∈ s.panes) :
    (s.removePane p).SearchesShown :=
  h.removePane_rule hp (P := SearchesShown) hsearches (fun _ _ _ _ hshown => hshown hsearches)
    fun _ t hshown => hshown.activateTab t

/-- Merging a pane into the other one closes no tab. -/
theorem Wired.sameOpen_removePane (h : s.Wired) (hp : p ∈ s.panes) :
    SameOpen s (s.removePane p) :=
  h.removePane_rule hp (P := SameOpen s) (.refl s) (fun _ _ _ hsame _ => hsame)
    fun s' t hsame => hsame.trans (sameOpen_activateTab s' t)

/-- The panes of a narrow window are merged. -/
theorem Wired.mergePanes (h : s.Wired) (n : ℕ) :
    (s.mergePanes n).Wired ∧ SameOpen s (s.mergePanes n) ∧
      (s.SearchesShown → (s.mergePanes n).SearchesShown) := by
  induction n generalizing s with
  | zero => exact ⟨h, .refl s, id⟩
  | succ n ih =>
    unfold Page.mergePanes
    split
    · next last hlast =>
      have hmem := List.mem_of_getLast? hlast
      split
      · obtain ⟨hwired, hsame, hshown⟩ := ih (h.removePane hmem)
        exact ⟨hwired, (h.sameOpen_removePane hmem).trans hsame,
          fun hsearches => hshown (h.removePane_searches hsearches hmem)⟩
      · exact ⟨h, .refl s, id⟩
    · exact ⟨h, .refl s, id⟩

/-- The merge that a change of the width asks for keeps tabs and panes wired, and opens or closes no
tab. -/
theorem Wired.applyWidthLimit (h : s.Wired) (wideEnough : Bool) :
    let s' := ({ s with wideEnough := wideEnough } : Page).applyWidthLimit
    s'.Wired ∧ SameOpen s s' ∧ (s.SearchesShown → s'.SearchesShown) := by
  have hwidth : ({ s with wideEnough := wideEnough } : Page).Wired := by
    cases h
    constructor <;> assumption
  obtain ⟨hwired, hsame, hshown⟩ := hwidth.mergePanes s.panes.length
  exact ⟨hwired, ⟨hsame.tabCount, hsame.closed_iff⟩, hshown⟩

/-! ## Which tabs are open -/

/-- Opening a tab opens the one that it finds or makes. -/
theorem Wired.openTab_closed_iff (h : s.Wired) (name agent : PyStr) (t : TabId) :
    ((s.openTab name agent).tab t).pane = none ↔
      (s.tab t).pane = none ∧ t ≠ s.target name agent := by
  unfold Page.openTab target
  cases hfind : s.findTab name agent with
  | some u =>
    have hopen : (s.tab u).pane ≠ none := h.mem_allTabs.mp (List.mem_of_find?_eq_some hfind)
    refine ((sameOpen_activateTab s u).closed_iff t).trans ⟨fun hclosed => ⟨hclosed, ?_⟩, And.left⟩
    rintro rfl
    exact hopen hclosed
  | none =>
    obtain ⟨p, hp, hfocused⟩ := h.focused
    rw [hfocused]
    refine ((sameOpen_activateTab _ _).closed_iff t).trans ?_
    by_cases ht : t = s.tabCount
    · simp [Page.createTab, Page.onPane, Page.focusPane, ht]
    · simp [Page.createTab, Page.onPane, Page.focusPane, ht]

/-- The tab that is opened is open already, or is made. -/
theorem Wired.openTab_tabCount (h : s.Wired) (name agent : PyStr) :
    (s.tab (s.target name agent)).pane ≠ none ∧ (s.openTab name agent).tabCount = s.tabCount ∨
      s.target name agent = s.tabCount ∧ (s.openTab name agent).tabCount = s.tabCount + 1 := by
  unfold Page.openTab target
  cases hfind : s.findTab name agent with
  | some u =>
    have hopen : (s.tab u).pane ≠ none := h.mem_allTabs.mp (List.mem_of_find?_eq_some hfind)
    exact Or.inl ⟨hopen, (sameOpen_activateTab s u).tabCount⟩
  | none =>
    obtain ⟨p, hp, hfocused⟩ := h.focused
    rw [hfocused]
    exact Or.inr ⟨rfl, (sameOpen_activateTab _ _).tabCount⟩

/-- After closing a tab, that tab and those closed before are closed, and no other. -/
theorem Wired.closeTab_closed_iff (h : s.Wired) (t u : TabId) :
    ((s.closeTab t).tab u).pane = none ↔ (s.tab u).pane = none ∨ u = t := by
  cases ht : (s.tab t).pane with
  | none =>
    rw [closeTab_of_closed ht]
    refine ⟨Or.inl, ?_⟩
    rintro (hclosed | rfl)
    · exact hclosed
    · exact ht
  | some p =>
    rw [h.closeTab_eq ht]
    by_cases hut : u = t
    · simp [hut]
    · simp [hut]

/-- Closing a tab makes no new tab. -/
theorem Wired.closeTab_tabCount (h : s.Wired) (t : TabId) :
    (s.closeTab t).tabCount = s.tabCount := by
  cases ht : (s.tab t).pane with
  | none => rw [closeTab_of_closed ht]
  | some p =>
    rw [h.closeTab_eq ht]
    rfl

/-- Adding a pane opens and closes no tab. -/
theorem sameOpen_addPane (s : Page) : SameOpen s s.addPane := by
  unfold Page.addPane
  split
  · exact .refl s
  · exact ⟨rfl, fun _ => Iff.rfl⟩

/-! ## Runs -/

/-- The width does not matter to a page with one pane. -/
theorem initial_eq (wideEnough : Bool) : initial wideEnough =
    (({ wideEnough := wideEnough } : Page).createPane).focusPane 1 := by
  simp [initial, applyWidthLimit, Page.mergePanes, createPane, Page.focusPane]

/-- At first there is a pane without tabs. -/
theorem initial_wired (wideEnough : Bool) : (initial wideEnough).Wired := by
  rw [initial_eq]
  constructor <;> simp [createPane, Page.focusPane]
  constructor <;> simp

/-- At first there is no search bar. -/
theorem initial_searches (wideEnough : Bool) : (initial wideEnough).SearchesShown := by
  rw [initial_eq]
  intro p hp hhidden
  simp [createPane, Page.focusPane] at hhidden

end

end Page

open Page

namespace PageEvent

section

variable {s : Page} {e : PageEvent}

/-- The event closes tabs and leaves a search bar without a tab. -/
def StrandsSearch (s : Page) : PageEvent → Prop
  | .closeTab t => s.StrandsSearch t
  | .logout => s.LogoutStrands
  | _ => False

instance decidableStrandsSearch (s : Page) : (e : PageEvent) → Decidable (e.StrandsSearch s)
  | .closeTab _ | .logout => inferInstanceAs (Decidable (∃ p ∈ s.panes, _ ∧ _))
  | .openTab _ _ | .activateTab _ | .cycle _ | .moveTab _ | .split _ | .focusPane _ | .openSearch _
  | .closeSearch _ | .width _ => inferInstanceAs (Decidable False)

/-- Every event keeps tabs and panes wired. -/
theorem apply_wired (h : s.Wired) (hen : e.Enabled s) : (e.apply s).Wired := by
  cases e with
  | openTab name agent => exact h.openTab name agent
  | activateTab t => exact h.activateTab t
  | cycle forward => exact cycle_rule (P := Wired) h (fun t => h.activateTab t) _
  | moveTab t =>
    unfold apply
    dsimp only
    split
    · next other hother => exact h.moveTabToPane (List.mem_of_find?_eq_some hother) t true
    · exact h
  | closeTab t => exact h.closeTab t
  | split p =>
    unfold apply
    dsimp only
    split
    · exact h.addPane
    · exact h.removePane hen
  | focusPane p => exact h.focusPane hen
  | openSearch p => exact h.openSearch p
  | closeSearch p => exact h.closeSearch p
  | width wideEnough => exact (h.applyWidthLimit wideEnough).1
  | logout => exact (h.closeTabs _).1

/-- Only opening a tab, closing one and the logout change which tabs are open. -/
theorem apply_sameOpen (h : s.Wired) (hen : e.Enabled s)
    (hopens : ∀ name agent, e ≠ .openTab name agent) (hcloses : ∀ t, e ≠ .closeTab t)
    (hlogout : e ≠ .logout) : SameOpen s (e.apply s) := by
  cases e with
  | openTab name agent => exact absurd rfl (hopens name agent)
  | closeTab t => exact absurd rfl (hcloses t)
  | logout => exact absurd rfl hlogout
  | activateTab t => exact sameOpen_activateTab s t
  | cycle forward => exact cycle_rule (P := SameOpen s) (.refl s) (sameOpen_activateTab s) _
  | moveTab t =>
    unfold apply
    dsimp only
    split
    · exact h.sameOpen_moveTabToPane t _ true
    · exact .refl s
  | split p =>
    unfold apply
    dsimp only
    split
    · exact sameOpen_addPane s
    · exact h.sameOpen_removePane hen
  | focusPane p | closeSearch p => exact ⟨rfl, fun _ => Iff.rfl⟩
  | openSearch p =>
    change SameOpen s (s.openSearch p)
    unfold Page.openSearch
    split
    · exact .refl s
    · exact ⟨rfl, fun _ => Iff.rfl⟩
  | width wideEnough => exact (h.applyWidthLimit wideEnough).2.1

/-- An event keeps the search bars in order if and only if it strands none. -/
theorem apply_searches_iff (h : s.Wired) (hsearches : s.SearchesShown) (hen : e.Enabled s) :
    (e.apply s).SearchesShown ↔ ¬e.StrandsSearch s := by
  cases e with
  | closeTab t => exact h.closeTab_searches_iff hsearches t
  | logout => exact h.closeAll_searches_iff hsearches
  | openTab name agent => exact iff_of_true (hsearches.openTab name agent) not_false
  | activateTab t => exact iff_of_true (hsearches.activateTab t) not_false
  | cycle forward =>
    refine iff_of_true ?_ not_false
    exact cycle_rule (P := SearchesShown) hsearches (fun t => hsearches.activateTab t) _
  | moveTab t =>
    refine iff_of_true ?_ not_false
    unfold apply
    dsimp only
    split
    · exact h.moveTabToPane_searches hsearches t _ true
    · exact hsearches
  | split p =>
    refine iff_of_true ?_ not_false
    unfold apply
    dsimp only
    split
    · exact hsearches.addPane
    · exact h.removePane_searches hsearches hen
  | focusPane p => exact iff_of_true hsearches not_false
  | openSearch p => exact iff_of_true (hsearches.openSearch p) not_false
  | closeSearch p => exact iff_of_true (hsearches.closeSearch p) not_false
  | width wideEnough =>
    exact iff_of_true ((h.applyWidthLimit wideEnough).2.2 hsearches) not_false

end

end PageEvent

variable {wideEnough : Bool} {s : Page}

/-- In every run, tabs and panes are wired. -/
theorem wired_of_run {cond : Page → PageEvent → Prop}
    (hrun : Run pageSystem cond (initial wideEnough) s) : s.Wired :=
  hrun.invariant (initial_wired wideEnough) fun _ _ hwired hen _ => PageEvent.apply_wired hwired hen

/-- In every run, each tab is in its pane once, and each pane shows one of its tabs. -/
theorem paired_of_run (hrun : Run pageSystem (fun _ _ => True) (initial wideEnough) s) :
    s.Paired :=
  (wired_of_run hrun).paired

/-- In a run whose events strand no search bar, the search bars are in order. -/
theorem searches_of_run
    (hrun : Run pageSystem (fun s e => ¬e.StrandsSearch s) (initial wideEnough) s) :
    s.SearchesShown := by
  induction hrun with
  | refl => exact initial_searches wideEnough
  | step e hrun hen hkeeps ih =>
    exact (PageEvent.apply_searches_iff (wired_of_run hrun) ih hen).mpr hkeeps

/-- Tabs and panes are consistent in a run whose events strand no search bar, and stay so with the
next event if and only if it strands none either. -/
theorem consistent_of_run
    (hrun : Run pageSystem (fun s e => ¬e.StrandsSearch s) (initial wideEnough) s) :
    s.Consistent ∧ ∀ e : PageEvent, e.Enabled s →
      ((e.apply s).Consistent ↔ ¬e.StrandsSearch s) := by
  have hwired := wired_of_run hrun
  have hsearches := searches_of_run hrun
  refine ⟨hwired.consistent_iff.mpr hsearches, fun e hen => ?_⟩
  rw [(PageEvent.apply_wired hwired hen).consistent_iff]
  exact PageEvent.apply_searches_iff hwired hsearches hen

/-- A tab of the second pane is moved to the first one, where a search bar is open, and both tabs
are closed. -/
def searchedTabs : List PageEvent :=
  [.openTab [112] [], .openSearch 1, .split 1, .openTab [113] [], .moveTab 1, .closeTab 1, .logout]

/-- The hypothesis holds in such a run. -/
theorem consistent_of_run_searched :
    let s := pageSystem.exec (initial true) searchedTabs
    (s.pane 1).searchHidden = true ∧ s.Consistent ∧
      ∀ e : PageEvent, e.Enabled s → ((e.apply s).Consistent ↔ ¬e.StrandsSearch s) :=
  ⟨by decide, consistent_of_run (System.Valid.guardedRun pageSystem (by decide))⟩

/-- A search bar is open in the first pane, the second one has the focus, and the user logs
out. -/
def searchedLogout : List PageEvent :=
  [.openTab [112] [], .openSearch 1, .split 1, .openTab [113] [], .logout]

/-- The search bar of the first pane is left without a tab. -/
theorem searchedLogout_strands :
    ¬∀ (wideEnough : Bool) (s : Page), Run pageSystem (fun _ _ => True) (initial wideEnough) s →
      s.Consistent := by
  intro h
  have hconsistent := h true (pageSystem.exec (initial true) searchedLogout)
    (System.Valid.run pageSystem (by decide))
  exact hconsistent.searches 1 (by decide) (by decide) (by decide)

end WTerm
