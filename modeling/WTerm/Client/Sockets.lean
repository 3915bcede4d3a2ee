import WTerm.Client.Tab

/-!
# The sockets of a tab

A tab has many sockets over time, and events of all of them may still arrive. What each handler
does to a tab is stated here in terms of the tab that a socket was made for, and with it, that no
tab has two connections.
-/

namespace WTerm

/-- A socket that has neither been closed nor been asked to close. -/
def TabSocket.Live (s : TabSocket) : Prop := s.state = .connecting ∨ s.state = .opened

/-- What holds of a tab at any time. -/
structure Tab.InOrder (t : Tab) : Prop where
  /-- Only an open tab has a socket. -/
  isOpen : t.ws ≠ none → t.isOpen = true
  /-- A tab that waits for its timer is open, and has no socket. -/
  timer : t.reconnectTimer ≠ none → t.ws = none ∧ t.isOpen = true ∧ 0 < t.reconnectAttempts
  attempts : t.reconnectAttempts ≤ maxReconnectAttempts

/-- A tab after `openTab`, up to the connection. -/
def Tab.shown (t : Tab) : Tab := { t with created := true, isOpen := true }

/-- A tab after `closeTab`. -/
def Tab.shut (t : Tab) : Tab :=
  { t with intentionalClose := true, reconnectTimer := none, ws := none, isOpen := false }

/-- A tab that does not connect by itself. -/
def Tab.Finished (t : Tab) : Prop :=
  t.reconnectTimer = none ∧ (t.ws ≠ none → t.intentionalClose = true)

/-- How often a tab has connected by itself since a socket of it was opened, at least. -/
def Tab.retries (t : Tab) : ℕ :=
  t.reconnectAttempts - if t.reconnectTimer.isSome then 1 else 0

namespace Tabs

/-- The tab that a socket was made for. -/
def owner (p : Tabs) (ws : Ws) : Option ℕ := (p.sockets ws).map (·.tab)

/-- A live socket of the tab. -/
def Live (p : Tabs) (ws : Ws) (tab : ℕ) : Prop := ∃ s, p.sockets ws = some s ∧ s.tab = tab ∧ s.Live

/-- What holds of all tabs and sockets at any time. -/
structure InOrder (p : Tabs) : Prop where
  /-- The live socket of a tab is `tab.ws`. -/
  live : ∀ ws tab, p.Live ws tab → (p.tabs tab).ws = some ws
  owner : ∀ tab ws, (p.tabs tab).ws = some ws → p.owner ws = some tab
  tabs : ∀ tab, (p.tabs tab).InOrder

section

variable {p : Tabs} {tab tab' : ℕ} {ws ws' : Ws} {mode : Mode} {code : ℕ}

/-! ## What the operations change -/

/-- The sockets stay when a tab changes. -/
@[simp]
theorem onTab_sockets (p : Tabs) (tab : ℕ) (f : Tab → Tab) : (p.onTab tab f).sockets = p.sockets :=
  rfl

/-- Only the changed tab differs after a change of one tab. -/
@[simp]
theorem onTab_tabs (p : Tabs) (tab : ℕ) (f : Tab → Tab) :
    (p.onTab tab f).tabs = Function.update p.tabs tab (f (p.tabs tab)) := rfl

/-- The tabs stay when a socket changes. -/
@[simp]
theorem onSocket_tabs (p : Tabs) (ws : Ws) (f : TabSocket → TabSocket) :
    (p.onSocket ws f).tabs = p.tabs := rfl

/-- Only the changed socket differs after a change of one socket. -/
@[simp]
theorem onSocket_sockets (p : Tabs) (ws : Ws) (f : TabSocket → TabSocket) :
    (p.onSocket ws f).sockets = Function.update p.sockets ws ((p.sockets ws).map f) := rfl

/-- The tabs stay when a socket is asked to close. -/
@[simp]
theorem closeSocket_tabs (p : Tabs) (socket : Option Ws) :
    (p.closeSocket socket).tabs = p.tabs := by
  cases socket <;> rfl

/-- A tab that changes owns what it did. -/
@[simp]
theorem onTab_owner (p : Tabs) (tab : ℕ) (f : Tab → Tab) : (p.onTab tab f).owner = p.owner := rfl

/-- A socket that changes its state keeps its tab. -/
theorem onSocket_owner (p : Tabs) (ws : Ws) {f : TabSocket → TabSocket}
    (hf : ∀ s, (f s).tab = s.tab) : (p.onSocket ws f).owner = p.owner := by
  funext ws'
  by_cases hws : ws' = ws
  · subst hws
    simp [owner, onSocket, Function.comp_def, hf]
  · simp [owner, onSocket, hws]

/-- A socket that is asked to close keeps its tab. -/
@[simp]
theorem closeSocket_owner (p : Tabs) (socket : Option Ws) :
    (p.closeSocket socket).owner = p.owner := by
  cases socket with
  | none => rfl
  | some ws =>
    refine onSocket_owner p ws fun s => ?_
    split <;> rfl

/-- The socket that `connect` creates is the tab's. -/
@[simp]
theorem connect_owner (p : Tabs) (tab : ℕ) (mode : Mode) (ws : Ws) :
    (p.connect tab mode ws).owner = Function.update p.owner ws (some tab) := by
  funext ws'
  by_cases hws : ws' = ws
  · subst hws
    simp [connect, owner]
  · have hsame := congrFun (closeSocket_owner p (p.tabs tab).ws) ws'
    simpa [connect, owner, hws] using hsame

/-- Only the tab that is connected differs after `connect`: it has the new socket and no timer. -/
@[simp]
theorem connect_tabs (p : Tabs) (tab : ℕ) (mode : Mode) (ws : Ws) :
    (p.connect tab mode ws).tabs = Function.update p.tabs tab
      { p.tabs tab with intentionalClose := false, reconnectTimer := none, ws := some ws } := by
  simp [connect]

/-- Only the tab that is closed differs after `closeTab`. -/
@[simp]
theorem closeTab_tabs (p : Tabs) (tab : ℕ) :
    (p.closeTab tab).tabs = Function.update p.tabs tab (p.tabs tab).shut := by
  simp [closeTab, Tab.shut]

/-- `closeTab` creates no socket, so that each belongs to the tab it belonged to. -/
@[simp]
theorem closeTab_owner (p : Tabs) (tab : ℕ) : (p.closeTab tab).owner = p.owner := by
  simp [closeTab]

/-- Only the tab whose connection raises differs after it: it has no timer and reconnects no more.
-/
@[simp]
theorem connectRaises_tabs (p : Tabs) (tab : ℕ) :
    (p.connectRaises tab).tabs = Function.update p.tabs tab
      { p.tabs tab with intentionalClose := true, reconnectTimer := none } := by
  simp [connectRaises]

/-- A connection that raises creates no socket. -/
@[simp]
theorem connectRaises_owner (p : Tabs) (tab : ℕ) : (p.connectRaises tab).owner = p.owner := by
  simp [connectRaises]

/-- Handlers of a socket change the tab that the socket was made for. -/
theorem handler_tabs {q : Tabs} (hq : q.tabs = p.tabs) (ws : Ws) (f : Tab → Tab) (tab : ℕ) :
    ((p.sockets ws).elim p fun s => q.onTab s.tab f).tabs tab =
      if p.owner ws = some tab then f (p.tabs tab) else p.tabs tab := by
  unfold owner
  cases p.sockets ws with
  | none => simp
  | some s =>
    by_cases htab : s.tab = tab
    · subst htab
      simp [hq]
    · simp [hq, htab, Ne.symm htab]

/-- The handlers of a socket create no socket. -/
theorem handler_owner {q : Tabs} (hq : q.owner = p.owner) (ws : Ws) (f : Tab → Tab) :
    ((p.sockets ws).elim p fun s => q.onTab s.tab f).owner = p.owner := by
  cases p.sockets ws with
  | none => rfl
  | some s => simpa using hq

/-- `onopen` forgets the attempts of the socket's tab and changes no other tab. -/
theorem onOpen_tabs (p : Tabs) (ws : Ws) (tab : ℕ) :
    (p.onOpen ws).tabs tab =
      if p.owner ws = some tab then { p.tabs tab with reconnectAttempts := 0 } else p.tabs tab :=
  handler_tabs (onSocket_tabs p ws _) ws _ tab

/-- An exit frame marks the close of the socket's tab as intended and changes no other tab. -/
theorem onExit_tabs (p : Tabs) (ws : Ws) (tab : ℕ) :
    (p.onExit ws).tabs tab =
      if p.owner ws = some tab then { p.tabs tab with intentionalClose := true }
      else p.tabs tab :=
  handler_tabs rfl ws _ tab

/-- `onclose` changes the socket's tab as `afterClose` says, and no other tab. -/
theorem onClose_tabs (p : Tabs) (ws : Ws) (code : ℕ) (tab : ℕ) :
    (p.onClose ws code).tabs tab =
      if p.owner ws = some tab then afterClose code ws (p.tabs tab) else p.tabs tab :=
  handler_tabs (onSocket_tabs p ws _) ws _ tab

/-- `onopen` creates no socket, so that each belongs to the tab it belonged to. -/
@[simp]
theorem onOpen_owner (p : Tabs) (ws : Ws) : (p.onOpen ws).owner = p.owner :=
  handler_owner (by exact onSocket_owner p ws fun _ => rfl) ws _

/-- An exit frame creates no socket, so that each belongs to the tab it belonged to. -/
@[simp]
theorem onExit_owner (p : Tabs) (ws : Ws) : (p.onExit ws).owner = p.owner :=
  handler_owner rfl ws _

/-- `onclose` creates no socket, so that each belongs to the tab it belonged to. -/
@[simp]
theorem onClose_owner (p : Tabs) (ws : Ws) (code : ℕ) : (p.onClose ws code).owner = p.owner :=
  handler_owner (by exact onSocket_owner p ws fun _ => rfl) ws _

/-! ## Live sockets -/

/-- A socket that is live after it changes was live before. -/
theorem onSocket_live {f : TabSocket → TabSocket} (hf : ∀ s, (f s).tab = s.tab)
    (hlive : ∀ s, p.sockets ws = some s → (f s).Live → s.Live)
    (h : (p.onSocket ws f).Live ws' tab) : p.Live ws' tab := by
  obtain ⟨s', hs', htab, hlive'⟩ := h
  by_cases hws : ws' = ws
  · subst hws
    rw [onSocket_sockets, Function.update_self] at hs'
    obtain ⟨s, hs, rfl⟩ := Option.map_eq_some_iff.mp hs'
    exact ⟨s, hs, (hf s).symm.trans htab, hlive s hs hlive'⟩
  · rw [onSocket_sockets, Function.update_of_ne hws] at hs'
    exact ⟨s', hs', htab, hlive'⟩

/-- A socket that changes and is not live any more. -/
theorem onSocket_not_live {f : TabSocket → TabSocket} (hlive : ∀ s, ¬(f s).Live) :
    ¬(p.onSocket ws f).Live ws tab := by
  rintro ⟨s', hs', -, hlive'⟩
  rw [onSocket_sockets, Function.update_self] at hs'
  obtain ⟨s, -, rfl⟩ := Option.map_eq_some_iff.mp hs'
  exact hlive s hlive'

/-- The sockets that are live after one is asked to close. -/
theorem closeSocket_live {socket : Option Ws} (h : (p.closeSocket socket).Live ws tab) :
    p.Live ws tab ∧ socket ≠ some ws := by
  cases socket with
  | none => exact ⟨h, by simp⟩
  | some ws' =>
    have hdead : ∀ s : TabSocket,
        ¬(if s.state = .closed then s else { s with state := .closing }).Live := by
      intro s
      split
      · simp_all [TabSocket.Live]
      · simp [TabSocket.Live]
    refine ⟨onSocket_live (fun s => ?_) (fun s _ hlive => absurd hlive (hdead s)) h, ?_⟩
    · split <;> rfl
    · rintro ⟨rfl⟩
      exact onSocket_not_live hdead h

/-- The sockets that are live after `connect`. -/
theorem connect_live (h : (p.connect tab mode ws).Live ws' tab') :
    ws' = ws ∧ tab' = tab ∨ ws' ≠ ws ∧ p.Live ws' tab' ∧ (p.tabs tab).ws ≠ some ws' := by
  by_cases hws : ws' = ws
  · subst hws
    obtain ⟨s, hs, htab, -⟩ := h
    simp only [connect, Function.update_self, Option.some.injEq] at hs
    subst hs
    exact Or.inl ⟨rfl, htab.symm⟩
  · obtain ⟨s, hs, htab, hlive⟩ := h
    have hbefore : (p.closeSocket (p.tabs tab).ws).Live ws' tab' :=
      ⟨s, by simpa [connect, hws] using hs, htab, hlive⟩
    exact Or.inr ⟨hws, closeSocket_live hbefore⟩

/-- No socket becomes live in a handler of one, if it opens the ones that are connecting only. -/
theorem handler_live {f : TabSocket → TabSocket} (hf : ∀ s, (f s).tab = s.tab)
    (hlive : ∀ s, p.sockets ws = some s → (f s).Live → s.Live) {g : Tab → Tab}
    (h : ((p.sockets ws).elim p fun s => (p.onSocket ws f).onTab s.tab g).Live ws' tab) :
    p.Live ws' tab := by
  cases hs : p.sockets ws with
  | none =>
    rw [hs] at h
    exact h
  | some s =>
    rw [hs] at h
    exact onSocket_live hf hlive h

/-- A socket that is closed is not live. -/
theorem onClose_live (h : (p.onClose ws code).Live ws' tab) : p.Live ws' tab ∧ ws' ≠ ws := by
  have hdead : ∀ s : TabSocket, ¬({ s with state := .closed } : TabSocket).Live := by
    simp [TabSocket.Live]
  refine ⟨handler_live (f := fun s => { s with state := .closed }) (fun _ => rfl)
    (fun s _ hlive => absurd hlive (hdead s)) h, ?_⟩
  rintro rfl
  obtain ⟨s', hs', -, hlive⟩ := h
  unfold onClose at hs'
  cases hs : p.sockets ws' with
  | none => simp [hs] at hs'
  | some s =>
    simp only [hs, Option.elim_some, onTab_sockets, onSocket_sockets, Function.update_self,
      Option.map_some, Option.some.injEq] at hs'
    subst hs'
    exact hdead s hlive

/-- What `onclose` does: nothing for a socket that has been replaced, and no timer after an
intentional or a final close. -/
theorem afterClose_cases (code : ℕ) (ws : Ws) (t : Tab) :
    t.ws ≠ some ws ∧ afterClose code ws t = t ∨
      t.ws = some ws ∧ afterClose code ws t = { t with ws := none } ∨
      t.ws = some ws ∧ ¬(t.intentionalClose = true ∨ code ∈ finalCodes) ∧
        t.reconnectAttempts < maxReconnectAttempts ∧
        afterClose code ws t = { t with
          ws := none
          reconnectAttempts := t.reconnectAttempts + 1
          reconnectTimer := some (min (1000 * (t.reconnectAttempts + 1)) 5000) } := by
  unfold afterClose
  split
  · next hws => exact Or.inl ⟨hws, rfl⟩
  · next hws =>
    rw [not_not] at hws
    split
    · exact Or.inr (Or.inl ⟨hws, rfl⟩)
    · next hagain =>
      split
      · next hfew => exact Or.inr (Or.inr ⟨hws, hagain, hfew, rfl⟩)
      · exact Or.inr (Or.inl ⟨hws, rfl⟩)

end

end Tabs

namespace Tab

section

variable {t : Tab} {ws : Ws} {code : ℕ}

/-- A tab that has a socket does not wait for its timer. -/
theorem InOrder.timer_none (h : t.InOrder) (hws : t.ws = some ws) : t.reconnectTimer = none := by
  by_contra hpending
  rw [(h.timer hpending).1] at hws
  cases hws

/-- A tab is in order after `onclose` of any socket with any code. -/
theorem InOrder.afterClose (h : t.InOrder) (code : ℕ) (ws : Ws) :
    (Tabs.afterClose code ws t).InOrder := by
  rcases Tabs.afterClose_cases code ws t with ⟨-, heq⟩ | ⟨hws, heq⟩ | ⟨hws, -, hfew, heq⟩
  · rw [heq]
    exact h
  · rw [heq]
    refine ⟨fun hnone => absurd rfl hnone, fun hpending => ?_, h.attempts⟩
    exact absurd (h.timer_none hws) hpending
  · rw [heq]
    have hopen : t.isOpen = true := h.isOpen (by simp [hws])
    exact ⟨fun hnone => absurd rfl hnone, fun _ => ⟨rfl, hopen, Nat.succ_pos _⟩, hfew⟩

/-- A finished tab stays finished when a socket of it is closed. -/
theorem Finished.afterClose (h : t.Finished) (code : ℕ) (ws : Ws) :
    (Tabs.afterClose code ws t).Finished := by
  rcases Tabs.afterClose_cases code ws t with ⟨-, heq⟩ | ⟨-, heq⟩ | ⟨hws, hagain, -⟩
  · rw [heq]
    exact h
  · rw [heq]
    exact ⟨h.1, fun hnone => absurd rfl hnone⟩
  · exact absurd (Or.inl (h.2 (by simp [hws]))) hagain

/-- A tab whose socket is closed with a final code is finished. -/
theorem InOrder.finished_of_final (h : t.InOrder) (hws : t.ws = some ws)
    (hcode : code ∈ finalCodes) :
    (Tabs.afterClose code ws t).Finished := by
  have hclosed : Tabs.afterClose code ws t = { t with ws := none } := by
    simp [Tabs.afterClose, hws, hcode]
  rw [hclosed]
  exact ⟨h.timer_none hws, fun hnone => absurd rfl hnone⟩

/-- A tab that waits for no timer has made all its attempts. -/
theorem retries_of_timer_none (h : t.reconnectTimer = none) : t.retries = t.reconnectAttempts := by
  simp [retries, h]

/-- An attempt that is planned has not been made. -/
theorem InOrder.retries_afterClose (h : t.InOrder) (code : ℕ) (ws : Ws) :
    t.retries ≤ (Tabs.afterClose code ws t).retries := by
  rcases Tabs.afterClose_cases code ws t with ⟨-, heq⟩ | ⟨-, heq⟩ | ⟨hws, -, -, heq⟩
  · exact Nat.le_of_eq (by rw [heq])
  · exact Nat.le_of_eq (by rw [heq]; rfl)
  · rw [heq, retries, h.timer_none hws]
    simp [retries]

/-- A tab has made no more attempts than it has counted. -/
theorem retries_le (t : Tab) : t.retries ≤ t.reconnectAttempts := Nat.sub_le _ _

/-- The timer makes one of the attempts that are counted. -/
theorem InOrder.retries_timer (h : t.InOrder) (hpending : t.reconnectTimer ≠ none) :
    t.retries + 1 = t.reconnectAttempts := by
  obtain ⟨-, -, hpos⟩ := h.timer hpending
  rw [retries, if_pos (Option.isSome_iff_ne_none.mpr hpending)]
  exact Nat.sub_add_cancel hpos

/-- What an event does to a tab that it does not connect, if it opens no socket of the tab. -/
inductive Change (t : Tab) : Tab → Prop
  | same : Change t t
  | shown : Change t t.shown
  | shut : Change t t.shut
  | exit : Change t { t with intentionalClose := true }
  | closed (code : ℕ) (ws : Ws) : Change t (Tabs.afterClose code ws t)

/-- An event that does not connect a finished tab leaves it finished. -/
theorem Finished.change {t' : Tab} (h : t.Finished) (hchange : t.Change t') : t'.Finished := by
  cases hchange with
  | same | shown => exact h
  | shut => exact ⟨rfl, fun hws => absurd rfl hws⟩
  | exit => exact ⟨h.1, fun _ => rfl⟩
  | closed code ws => exact h.afterClose code ws

/-- An event that opens no socket of the tab forgets none of its attempts. -/
theorem InOrder.retries_change {t' : Tab} (h : t.InOrder) (hchange : t.Change t') :
    t.retries ≤ t'.retries := by
  cases hchange with
  | same | shown | exit => exact Nat.le_refl _
  | shut =>
    rw [retries_of_timer_none (t := t.shut) rfl]
    exact t.retries_le
  | closed code ws => exact h.retries_afterClose code ws

end

end Tab

namespace Tabs

section

variable {p : Tabs} {tab tab' : ℕ} {ws ws' : Ws} {mode : Mode} {code : ℕ}

/-! ## One connection -/

/-- A tab is connected with a new socket. -/
theorem InOrder.connect (h : p.InOrder) (hopen : (p.tabs tab).isOpen = true)
    (hfresh : p.sockets ws = none)
    (mode : Mode) : (p.connect tab mode ws).InOrder := by
  refine ⟨fun ws' tab' hlive => ?_, fun tab' ws' hws => ?_, fun tab' => ?_⟩
  · rcases connect_live hlive with ⟨rfl, rfl⟩ | ⟨hne, hbefore, hold⟩
    · simp
    · have hws := h.live ws' tab' hbefore
      have htab : tab' ≠ tab := fun heq => hold (heq ▸ hws)
      simpa [htab] using hws
  · by_cases htab : tab' = tab
    · subst htab
      have hnew : ws = ws' := by simpa using hws
      simp [hnew]
    · have howner := h.owner tab' ws' (by simpa [htab] using hws)
      have hne : ws' ≠ ws := by
        rintro rfl
        simp [Tabs.owner, hfresh] at howner
      simpa [hne] using howner
  · by_cases htab : tab' = tab
    · subst htab
      simp only [connect_tabs, Function.update_self]
      exact ⟨fun _ => hopen, fun hpending => absurd rfl hpending, (h.tabs tab').attempts⟩
    · simpa [htab] using h.tabs tab'

/-- The socket of a tab is asked to close, and the tab does not wait for its timer. -/
theorem InOrder.closeSocket (h : p.InOrder) {f : Tab → Tab}
    (hws : (f (p.tabs tab)).ws = none ∨ (f (p.tabs tab)).ws = (p.tabs tab).ws)
    (hf : (f (p.tabs tab)).InOrder) : ((p.closeSocket (p.tabs tab).ws).onTab tab f).InOrder := by
  refine ⟨fun ws' tab' hlive => ?_, fun tab' ws' hws' => ?_, fun tab' => ?_⟩
  · obtain ⟨hbefore, hold⟩ := closeSocket_live hlive
    have hsame := h.live ws' tab' hbefore
    have htab : tab' ≠ tab := fun heq => hold (heq ▸ hsame)
    simpa [htab] using hsame
  · by_cases htab : tab' = tab
    · subst htab
      have hafter : (f (p.tabs tab')).ws = some ws' := by simpa using hws'
      have hsame : (p.tabs tab').ws = some ws' := by
        rcases hws with hnone | hsame
        · rw [hnone] at hafter
          cases hafter
        · rw [← hsame, hafter]
      simpa using h.owner tab' ws' hsame
    · simpa using h.owner tab' ws' (by simpa [htab] using hws')
  · by_cases htab : tab' = tab
    · subst htab
      simpa using hf
    · simpa [htab] using h.tabs tab'

/-- A connection that raises keeps tabs and sockets in order. -/
theorem InOrder.connectRaises (h : p.InOrder) (tab : ℕ) : (p.connectRaises tab).InOrder := by
  refine h.closeSocket (Or.inr rfl) ?_
  exact ⟨(h.tabs tab).isOpen, fun hpending => absurd rfl hpending, (h.tabs tab).attempts⟩

/-- Closing a tab keeps tabs and sockets in order. -/
theorem InOrder.closeTab (h : p.InOrder) (tab : ℕ) : (p.closeTab tab).InOrder := by
  refine h.closeSocket (Or.inl rfl) ?_
  exact ⟨fun hnone => absurd rfl hnone, fun hpending => absurd rfl hpending, (h.tabs tab).attempts⟩

/-- Showing a tab keeps tabs and sockets in order. -/
theorem InOrder.shown (h : p.InOrder) (tab : ℕ) : (p.onTab tab Tab.shown).InOrder := by
  refine ⟨fun ws' tab' hlive => ?_, fun tab' ws' hws => ?_, fun tab' => ?_⟩
  · by_cases htab : tab' = tab
    · subst htab
      simpa [Tab.shown] using h.live ws' tab' hlive
    · simpa [htab] using h.live ws' tab' hlive
  · by_cases htab : tab' = tab
    · subst htab
      exact h.owner tab' ws' (by simpa [Tab.shown] using hws)
    · exact h.owner tab' ws' (by simpa [htab] using hws)
  · by_cases htab : tab' = tab
    · subst htab
      simp only [onTab_tabs, Function.update_self]
      refine ⟨fun _ => rfl, fun hpending => ?_, (h.tabs tab').attempts⟩
      obtain ⟨hnone, -, hpos⟩ := (h.tabs tab').timer hpending
      exact ⟨hnone, rfl, hpos⟩
    · simpa [htab] using h.tabs tab'

/-- A handler keeps what holds if it keeps it of the tab of the socket. -/
theorem InOrder.handler (h : p.InOrder) {p' : Tabs} {f : Tab → Tab} (howner : p'.owner = p.owner)
    (htabs : ∀ tab, p'.tabs tab = if p.owner ws = some tab then f (p.tabs tab) else p.tabs tab)
    (hlive : ∀ ws' tab, p'.Live ws' tab →
      p.Live ws' tab ∧ ((p.tabs tab).ws = some ws' → (f (p.tabs tab)).ws = some ws'))
    (hws : ∀ tab ws', (f (p.tabs tab)).ws = some ws' → (p.tabs tab).ws = some ws')
    (hf : ∀ tab, p.owner ws = some tab → (f (p.tabs tab)).InOrder) : p'.InOrder := by
  refine ⟨fun ws' tab hlive' => ?_, fun tab ws' hsocket => ?_, fun tab => ?_⟩
  · obtain ⟨hbefore, hkeeps⟩ := hlive ws' tab hlive'
    have hsame := h.live ws' tab hbefore
    rw [htabs]
    split
    · exact hkeeps hsame
    · exact hsame
  · rw [howner]
    rw [htabs] at hsocket
    split at hsocket
    · exact h.owner tab ws' (hws tab ws' hsocket)
    · exact h.owner tab ws' hsocket
  · rw [htabs]
    split
    · next hown => exact hf tab hown
    · exact h.tabs tab

/-- An exit frame keeps tabs and sockets in order. -/
theorem InOrder.onExit (h : p.InOrder) (ws : Ws) : (p.onExit ws).InOrder := by
  refine h.handler (f := fun t => { t with intentionalClose := true }) (onExit_owner p ws)
    (onExit_tabs p ws) (fun ws' tab hlive => ⟨?_, ?_⟩) ?_ fun tab _ => ?_
  · unfold Tabs.onExit at hlive
    cases hs : p.sockets ws with
    | none =>
      rw [hs] at hlive
      exact hlive
    | some s =>
      rw [hs] at hlive
      exact hlive
  · exact id
  · exact fun _ _ => id
  · exact ⟨(h.tabs tab).isOpen, (h.tabs tab).timer, (h.tabs tab).attempts⟩

/-- The opening of a socket that was connecting keeps tabs and sockets in order. -/
theorem InOrder.onOpen (h : p.InOrder)
    (hconnecting : (p.sockets ws).any (·.state = .connecting) = true) :
    (p.onOpen ws).InOrder := by
  have hlive : ∀ s, p.sockets ws = some s → s.Live := by
    intro s hs
    exact Or.inl (by simpa [hs] using hconnecting)
  refine h.handler (f := fun t => { t with reconnectAttempts := 0 }) (onOpen_owner p ws)
    (onOpen_tabs p ws) (fun ws' tab hlive' => ⟨?_, ?_⟩) ?_ fun tab hown => ?_
  · exact handler_live (f := fun s => { s with state := .opened }) (fun _ => rfl)
      (fun s hs _ => hlive s hs) hlive'
  · exact id
  · exact fun _ _ => id
  · -- The tab has this socket, so that it does not wait for its timer.
    obtain ⟨s, hs, htab⟩ := Option.map_eq_some_iff.mp hown
    have hws : (p.tabs tab).ws = some ws := h.live ws tab ⟨s, hs, htab, hlive s hs⟩
    have hnone := (h.tabs tab).timer_none hws
    exact ⟨(h.tabs tab).isOpen, fun hpending => absurd hnone hpending, Nat.zero_le _⟩

/-- The close of a socket, with whatever code, keeps tabs and sockets in order. -/
theorem InOrder.onClose (h : p.InOrder) (ws : Ws) (code : ℕ) : (p.onClose ws code).InOrder := by
  refine h.handler (onClose_owner p ws code) (onClose_tabs p ws code) (fun ws' tab hlive => ?_)
    (fun tab ws' hsocket => ?_) fun tab _ => (h.tabs tab).afterClose code ws
  · obtain ⟨hbefore, hne⟩ := onClose_live hlive
    refine ⟨hbefore, fun hsame => ?_⟩
    rcases afterClose_cases code ws (p.tabs tab) with ⟨-, heq⟩ | ⟨hold, -⟩ | ⟨hold, -⟩
    · rw [heq]
      exact hsame
    · exact absurd (Option.some.inj (hsame.symm.trans hold)) hne
    · exact absurd (Option.some.inj (hsame.symm.trans hold)) hne
  · rcases afterClose_cases code ws (p.tabs tab) with ⟨-, heq⟩ | ⟨-, heq⟩ | ⟨-, -, -, heq⟩
    · rwa [heq] at hsocket
    · rw [heq] at hsocket
      cases hsocket
    · rw [heq] at hsocket
      cases hsocket

end

end Tabs

end WTerm
