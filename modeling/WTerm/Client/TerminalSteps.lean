import WTerm.Client.Terminal

/-!
# A terminal is given one stretch of output

The frames that have arrived on a connection are the first of those that were put in its queue, and
since its last `term.reset` a terminal was given the frames of the connection of that reset. With
the streams of the sessions it follows that it was given one stretch of the output of one process,
without a gap.
-/

namespace WTerm

open Transition Relation

/-! ## The frames of a connection -/

namespace Stream

variable {limit : ℕ} {s s' : Stream} {ws : Ws}

/-- A connection that was installed stays so. -/
theorem Move.joined_mono (hm : Move limit s s') (hjoined : s.joined ws = true) :
    s'.joined ws = true := by
  cases hm <;> grind

/-- The frames of a connection are only added to. -/
theorem Sound.accepted_first (h : s.Sound limit) (hm : Move limit s s') (ws : Ws) :
    (s.writers ws).accepted <+: (s'.writers ws).accepted := by
  rcases h.accepted_step hm ws with heq | ⟨p, heq, -⟩
  · exact ⟨[], by rw [List.append_nil, heq]⟩
  · exact ⟨[p], heq.symm⟩

/-- A stream has put the frames in the queue of a connection, among others. -/
def Accepts (s : Stream) (ws : Ws) (frames : List Payload) : Prop :=
  s.joined ws = true ∧ frames <+: (s.writers ws).accepted

/-- Moves of the stream take back nothing that was put in a queue. -/
theorem Accepts.moves {frames : List Payload} (ha : s.Accepts ws frames) (h : s.Sound limit)
    (hm : ReflTransGen (Move limit) s s') : s'.Accepts ws frames := by
  induction hm with
  | refl => exact ha
  | tail hpath hm ih =>
    exact ⟨hm.joined_mono ih.1, ih.2.trans ((h.moves hpath).accepted_first hm ws)⟩

end Stream

namespace Writer

variable {w : Writer}

/-- What the transport may have delivered was put in the queue. -/
theorem Fifo.handed_first (h : w.Fifo) : w.handed <+: w.accepted := by
  unfold handed
  split
  · next item hsending =>
    simp only [Fifo, hsending] at h
    refine ⟨w.queue.map Outbound.payload, ?_⟩
    rw [h.1, List.append_assoc]
    rfl
  · exact h.sent_first

end Writer

section

variable {cfg : Settings} {w : World} {e : Event} {sid : SessionId} {ws : Ws}
  {frames : List Payload}

/-- In every step of the event loop, what was put in a queue was put there for good. -/
theorem keeps_accepts (cfg : Settings) (sid : SessionId) (ws : Ws) (frames : List Payload) :
    Keeps cfg (fun _ _ => True) fun w =>
      SoundStreams w ∧ (w.sessions sid).stream.Accepts ws frames := by
  rintro u l v hu ⟨hstreams, haccepts⟩ hstep -
  refine ⟨hstreams.step hu hstep, ?_⟩
  rcases hstep.streams hu sid with hmoves | ⟨hnew, -⟩
  · exact haccepts.moves (hstreams sid) hmoves
  · have hblank := hu.sockets.blank sid (Nat.le_of_eq hnew.symm)
    have hjoined : (u.control.life sid).joined ws = true := haccepts.1
    rw [hblank] at hjoined
    cases hjoined

/-- An event of the event loop takes back nothing that was put in a queue. -/
theorem Event.accepts_apply (hreach : Reachable cfg w) (hen : e.Enabled w)
    (haccepts : (w.sessions sid).stream.Accepts ws frames) :
    ((e.apply cfg w).sessions sid).stream.Accepts ws frames := by
  have hstart : SoundWith (fun w => SoundStreams w ∧ (w.sessions sid).stream.Accepts ws frames) w :=
    ⟨hreach.sound, ReachableIf.streams hreach, haccepts⟩
  have hall : Restricts cfg (fun _ _ => True) fun _ _ => True := restricts_true
  have hkept := (keeps_accepts cfg sid ws frames).apply hall hstart hen trivial
  exact hkept.2.2

/-- A connection with a frame was installed, in that session only. -/
theorem Reachable.joined_of_handed (hreach : Reachable cfg w)
    (hframe : ((w.sessions sid).writers ws).handed ≠ []) : (w.sessions sid).joined ws = true := by
  by_contra hfresh
  have hwriter := ((ReachableIf.streams hreach sid).fresh ws (by simpa using hfresh)).1
  have hnone : (w.sessions sid).writers ws = {} := hwriter
  rw [hnone] at hframe
  exact hframe rfl

end

/-! ## The tabs -/

section

variable {cfg : Settings} {st : TabsWorld} {e : TabsEvent}

/-- The tabs and sockets are in order after every step. -/
theorem TabsEvent.page_inOrder (h : st.page.InOrder) (hen : e.Enabled st) :
    (e.page st).InOrder := by
  cases e with
  | openTab tab mode ws =>
    have hopen : ((st.page.onTab tab Tab.shown).tabs tab).isOpen = true := by simp [Tab.shown]
    exact (h.shown tab).connect hopen (Option.isNone_iff_eq_none.mp hen.2.1) mode
  | timer tab ws =>
    obtain ⟨-, hopen, -⟩ := (h.tabs tab).timer (Option.isSome_iff_ne_none.mp hen.1)
    exact h.connect hopen (Option.isNone_iff_eq_none.mp hen.2.1) _
  | closeTab tab => exact h.closeTab tab
  | opened ws => exact h.onOpen hen
  | exitFrame ws => exact h.onExit ws
  | closed ws code => exact h.onClose ws code
  | arrive ws found | lost ws | server e => exact h

/-- The socket that a step creates, and its tab. -/
def TabsEvent.creates : TabsEvent → Option (ℕ × Ws)
  | .openTab tab _ ws | .timer tab ws => some (tab, ws)
  | _ => none

/-- A step that creates no socket leaves the sockets with their tabs. -/
theorem TabsEvent.page_owner (st : TabsWorld) (hcreates : e.creates = none) :
    (e.page st).owner = st.page.owner := by
  cases e with
  | openTab tab mode ws | timer tab ws => cases hcreates
  | closeTab tab => exact Tabs.closeTab_owner st.page tab
  | opened ws => exact Tabs.onOpen_owner st.page ws
  | exitFrame ws => exact Tabs.onExit_owner st.page ws
  | closed ws code => exact Tabs.onClose_owner st.page ws code
  | arrive ws found | lost ws | server e => rfl

/-- A step that creates no socket gives none to a tab. -/
theorem TabsEvent.page_ws (hcreates : e.creates = none) {tab : ℕ} {ws : Ws}
    (hws : ((e.page st).tabs tab).ws = some ws) : (st.page.tabs tab).ws = some ws := by
  cases e with
  | openTab tab mode ws | timer tab ws => cases hcreates
  | closeTab tab' =>
    by_cases htab : tab = tab'
    · subst htab
      simp [TabsEvent.page, Tab.shut] at hws
    · simpa [TabsEvent.page, htab] using hws
  | opened ws' =>
    rw [TabsEvent.page, Tabs.onOpen_tabs] at hws
    split at hws <;> exact hws
  | exitFrame ws' =>
    rw [TabsEvent.page, Tabs.onExit_tabs] at hws
    split at hws <;> exact hws
  | closed ws' code =>
    rw [TabsEvent.page, Tabs.onClose_tabs] at hws
    split at hws
    · rcases Tabs.afterClose_cases code ws' (st.page.tabs tab) with ⟨-, heq⟩ | ⟨-, heq⟩ |
        ⟨-, -, -, heq⟩
      · rwa [heq] at hws
      · rw [heq] at hws
        cases hws
      · rw [heq] at hws
        cases hws
    · exact hws
  | arrive ws' found | lost ws' | server e => exact hws

/-- A step that creates a socket gives it to its tab. -/
theorem TabsEvent.page_creates (st : TabsWorld) {tab : ℕ} {ws : Ws}
    (hcreates : e.creates = some (tab, ws)) :
    (e.page st).owner = Function.update st.page.owner ws (some tab) ∧
      ((e.page st).tabs tab).ws = some ws ∧
      ∀ other, other ≠ tab → (e.page st).tabs other = st.page.tabs other := by
  cases e with
  | openTab tab' mode ws' =>
    obtain ⟨rfl, rfl⟩ := Prod.mk.inj (Option.some.inj hcreates)
    refine ⟨by simp [TabsEvent.page, Tabs.openTab], by simp [TabsEvent.page, Tabs.openTab],
      fun other hother => by simp [TabsEvent.page, Tabs.openTab, hother]⟩
  | timer tab' ws' =>
    obtain ⟨rfl, rfl⟩ := Prod.mk.inj (Option.some.inj hcreates)
    exact ⟨by simp [TabsEvent.page], by simp [TabsEvent.page],
      fun other hother => by simp [TabsEvent.page, hother]⟩
  | _ => cases hcreates

/-- A socket that a step creates is new. -/
theorem TabsEvent.creates_fresh {tab : ℕ} {ws : Ws} (hen : e.Enabled st)
    (hcreates : e.creates = some (tab, ws)) : st.page.owner ws = none := by
  have hnone : st.page.sockets ws = none := by
    cases e with
    | openTab tab' mode ws' =>
      obtain ⟨rfl, rfl⟩ := Prod.mk.inj (Option.some.inj hcreates)
      exact Option.isNone_iff_eq_none.mp hen.2.1
    | timer tab' ws' =>
      obtain ⟨rfl, rfl⟩ := Prod.mk.inj (Option.some.inj hcreates)
      exact Option.isNone_iff_eq_none.mp hen.2.1
    | _ => cases hcreates
  rw [Tabs.owner, hnone]
  rfl

/-- A step of the tabs and the event loop takes back nothing that was put in a queue. -/
theorem TabsEvent.accepts_apply {sid : SessionId} {ws : Ws} {frames : List Payload}
    (h : Reachable cfg st.world) (hen : e.Enabled st)
    (haccepts : (st.world.sessions sid).stream.Accepts ws frames) :
    (((e.apply cfg st).world).sessions sid).stream.Accepts ws frames := by
  cases hevent : e.event st with
  | none => simpa [TabsEvent.apply, hevent] using haccepts
  | some ev =>
    have henabled := (TabsEvent.event_enabled hen hevent).1
    simpa [TabsEvent.apply, hevent] using Event.accepts_apply h henabled haccepts

end

/-! ## The terminals -/

/-- What has arrived is what was sent, and a terminal was given what has arrived on the connection
of its last `term.reset`. -/
structure TermWorld.Faithful (cfg : Settings) (st : TermWorld) : Prop where
  reachable : Reachable cfg st.tabs.world
  page : st.tabs.page.InOrder
  /-- A connection has frames of one session only, the first ones. -/
  got : ∀ ws, st.got ws = [] ∨
    ∃ sid, (st.tabs.world.sessions sid).stream.Accepts ws (st.got ws)
  /-- Nothing has arrived on a socket that was not made. -/
  fresh : ∀ ws, st.tabs.page.owner ws = none → st.got ws = []
  /-- The terminal of a tab was last reset for the last socket of the tab. -/
  source : ∀ tab ws, st.source tab = some ws → st.tabs.page.owner ws = some tab
  socket : ∀ tab ws, (st.tabs.page.tabs tab).ws = some ws → st.source tab = some ws
  blank : ∀ tab, st.source tab = none → st.written tab = []
  /-- Apart from the page's own notices a terminal was given what has arrived. -/
  writes : ∀ tab ws, st.source tab = some ws →
    (st.written tab).filter TermWrite.isMessage = (st.got ws).flatMap Payload.writes

namespace TermWorld

section

variable {cfg : Settings} {st : TermWorld} {e : TabsEvent} {tab : ℕ} {ws : Ws} {sid : SessionId}
  {frame : Payload}

/-- The frames of the server are messages. -/
theorem writes_isMessage (frame : Payload) :
    frame.writes.filter TermWrite.isMessage = frame.writes := by
  cases frame with
  | text message => cases message <;> rfl
  | bytes data => rfl
  | close code reason => rfl

/-- The notices of the page are none. -/
theorem closeNotice_isMessage (code : ℕ) : (closeNotice code).filter TermWrite.isMessage = [] := by
  unfold closeNotice
  split
  · rfl
  · split <;> rfl

/-- The invariant holds at first, when there are no terminals. -/
theorem Faithful.initial (cfg : Settings) : Faithful cfg {} where
  reachable := .refl
  page := by
    refine ⟨?_, ?_, fun tab => ⟨fun hws => absurd rfl hws, fun htimer => absurd rfl htimer,
      Nat.zero_le _⟩⟩
    · rintro ws tab ⟨s, hs, -⟩
      cases hs
    · intro tab ws hws
      cases hws
  got _ := Or.inl rfl
  fresh _ _ := rfl
  source _ _ hsource := by cases hsource
  socket _ _ hws := by cases hws
  blank _ _ := rfl
  writes _ _ hsource := by cases hsource

/-- What has arrived stays what was sent. -/
theorem Faithful.got_step (h : st.Faithful cfg) (hen : e.Enabled st.tabs) (ws : Ws) :
    st.got ws = [] ∨
      ∃ sid, ((e.apply cfg st.tabs).world.sessions sid).stream.Accepts ws (st.got ws) := by
  rcases h.got ws with hnone | ⟨sid, haccepts⟩
  · exact Or.inl hnone
  · exact Or.inr ⟨sid, TabsEvent.accepts_apply h.reachable hen haccepts⟩

/-- `term.reset` is called for a new socket. -/
theorem Faithful.connect (h : st.Faithful cfg) (hen : e.Enabled st.tabs)
    (hcreates : e.creates = some (tab, ws)) :
    ({ st.reset tab (some ws) with tabs := e.apply cfg st.tabs } : TermWorld).Faithful cfg := by
  obtain ⟨howner, hws, hothers⟩ := TabsEvent.page_creates st.tabs hcreates
  have hnew := TabsEvent.creates_fresh hen hcreates
  have hne : ∀ other ws', st.tabs.page.owner ws' = some other → ws' ≠ ws := by
    rintro other ws' hown rfl
    rw [hnew] at hown
    cases hown
  refine ⟨TabsEvent.world_reachable h.reachable hen, TabsEvent.page_inOrder h.page hen,
    h.got_step hen, fun ws' hnone => ?_, fun other ws' hsource => ?_, fun other ws' hsocket => ?_,
    fun other hnone => ?_, fun other ws' hsource => ?_⟩
  · change (e.page st.tabs).owner ws' = none at hnone
    rw [howner] at hnone
    by_cases hws' : ws' = ws
    · subst hws'
      simp at hnone
    · exact h.fresh ws' (by simpa [hws'] using hnone)
  · change (e.page st.tabs).owner ws' = some other
    rw [howner]
    by_cases hother : other = tab
    · subst hother
      have hsame : ws = ws' := by simpa using hsource
      simp [hsame]
    · have hown := h.source other ws' (by simpa [hother] using hsource)
      simpa [hne other ws' hown] using hown
  · change ((e.page st.tabs).tabs other).ws = some ws' at hsocket
    by_cases hother : other = tab
    · subst hother
      simpa using hws.symm.trans hsocket
    · rw [hothers other hother] at hsocket
      simpa [hother] using h.socket other ws' hsocket
  · by_cases hother : other = tab
    · subst hother
      simp at hnone
    · simpa [hother] using
        h.blank other (by simpa [hother] using hnone)
  · by_cases hother : other = tab
    · subst hother
      have hsame : ws = ws' := by simpa using hsource
      have hnone : st.got ws' = [] := h.fresh ws' (hsame ▸ hnew)
      simp [hnone]
    · simpa [hother] using
        h.writes other ws' (by simpa [hother] using hsource)

/-- A step that creates no socket, and after which every terminal was still given what has
arrived. -/
theorem Faithful.keep (h : st.Faithful cfg) (hen : e.Enabled st.tabs) (hcreates : e.creates = none)
    {written : ℕ → List TermWrite} {source : ℕ → Option Ws}
    (hsource : ∀ tab ws, source tab = some ws → st.source tab = some ws)
    (hsocket : ∀ tab ws, ((e.page st.tabs).tabs tab).ws = some ws → source tab = some ws)
    (hblank : ∀ tab, source tab = none → written tab = [])
    (hwritten : ∀ tab ws, source tab = some ws →
      (written tab).filter TermWrite.isMessage = (st.written tab).filter TermWrite.isMessage) :
    ({ st with tabs := e.apply cfg st.tabs, written := written, source := source } :
      TermWorld).Faithful cfg := by
  have howner := TabsEvent.page_owner st.tabs hcreates
  refine ⟨TabsEvent.world_reachable h.reachable hen, TabsEvent.page_inOrder h.page hen,
    h.got_step hen, fun ws hnone => ?_, fun tab ws hsome => ?_, hsocket, hblank,
    fun tab ws hsome => ?_⟩
  · exact h.fresh ws (howner ▸ hnone)
  · exact (congrFun howner ws).trans (h.source tab ws (hsource tab ws hsome))
  · exact (hwritten tab ws hsome).trans (h.writes tab ws (hsource tab ws hsome))

/-- A step of the tabs or the event loop. -/
theorem Faithful.step (h : st.Faithful cfg) (hen : e.Enabled st.tabs) :
    ({ st.calls e with tabs := e.apply cfg st.tabs } : TermWorld).Faithful cfg := by
  have hkept (hcreates : e.creates = none) (tab : ℕ) (ws : Ws)
      (hws : ((e.page st.tabs).tabs tab).ws = some ws) : st.source tab = some ws :=
    h.socket tab ws (TabsEvent.page_ws hcreates hws)
  cases e with
  | openTab tab mode ws => exact h.connect hen rfl
  | timer tab ws => exact h.connect hen rfl
  | closeTab tab =>
    change ({ st.reset tab none with tabs := (TabsEvent.closeTab tab).apply cfg st.tabs } :
      TermWorld).Faithful cfg
    refine h.keep hen rfl (fun other ws hsome => ?_) (fun other ws hws => ?_)
      (fun other hnone => ?_)
      fun other ws hsome => ?_
    · by_cases hother : other = tab
      · subst hother
        simp at hsome
      · simpa [hother] using hsome
    · by_cases hother : other = tab
      · subst hother
        simp [TabsEvent.page, Tab.shut] at hws
      · simpa [hother] using hkept rfl other ws hws
    · by_cases hother : other = tab
      · subst hother
        simp
      · simpa [hother] using h.blank other (by simpa [hother] using hnone)
    · by_cases hother : other = tab
      · subst hother
        simp at hsome
      · simp [hother]
  | closed ws code =>
    unfold TermWorld.calls
    dsimp only
    split
    · next tab howner =>
      split
      · next hcurrent =>
        refine h.keep hen rfl (fun _ _ => id) (hkept rfl) (fun other hnone => ?_)
          fun other ws' hsome => ?_
        · have hother : other ≠ tab := by
            rintro rfl
            exact absurd ((h.socket other ws hcurrent).symm.trans hnone) (Option.some_ne_none _)
          simpa [hother] using h.blank other hnone
        · by_cases hother : other = tab
          · subst hother
            simp [closeNotice_isMessage]
          · simp [hother]
      · exact h.keep hen rfl (fun _ _ => id) (hkept rfl) h.blank fun _ _ _ => rfl
    · exact h.keep hen rfl (fun _ _ => id) (hkept rfl) h.blank fun _ _ _ => rfl
  | opened ws | exitFrame ws | arrive ws found | lost ws | server e =>
    exact h.keep hen rfl (fun _ _ => id) (hkept rfl) h.blank fun _ _ _ => rfl

/-- The frame that arrives next is the next one that was put in the queue. -/
theorem Faithful.next_accepts (h : st.Faithful cfg) (hnext : st.next sid ws = some frame) :
    (st.tabs.world.sessions sid).stream.Accepts ws (st.got ws ++ [frame]) := by
  have hframe : ((st.tabs.world.sessions sid).writers ws).handed ≠ [] := by
    intro hnil
    rw [TermWorld.next, hnil] at hnext
    cases hnext
  have hjoined := h.reachable.joined_of_handed hframe
  have hhanded : ((st.tabs.world.sessions sid).writers ws).handed <+:
      ((st.tabs.world.sessions sid).writers ws).accepted :=
    ((ReachableIf.streams h.reachable sid).fifo ws).handed_first
  -- What has arrived before is of the same session.
  have hgot : st.got ws <+: ((st.tabs.world.sessions sid).writers ws).accepted := by
    rcases h.got ws with hnone | ⟨sid', hjoined', hfirst⟩
    · rw [hnone]
      exact List.nil_prefix
    · have hsame := h.reachable.sound.sockets.joinedOnce sid sid' ws hjoined hjoined'
      subst hsame
      exact hfirst
  obtain ⟨rest, hrest⟩ := hhanded
  obtain ⟨more, hmore⟩ := hgot
  have hlast : ((st.tabs.world.sessions sid).writers ws).accepted[(st.got ws).length]? =
      some frame := by
    rw [← hrest]
    obtain ⟨hlength, hget⟩ := List.getElem?_eq_some_iff.mp hnext
    rw [List.getElem?_append_left hlength]
    exact hnext
  refine ⟨hjoined, more.tail, ?_⟩
  rw [← hmore, List.getElem?_append_right (Nat.le_refl _), Nat.sub_self] at hlast
  cases more with
  | nil => cases hlast
  | cons first others =>
    have hfirst : first = frame := Option.some.inj hlast
    change st.got ws ++ [frame] ++ others = ((st.tabs.world.sessions sid).writers ws).accepted
    rw [← hmore, hfirst, List.append_assoc]
    rfl

/-- A frame arrives on an open socket. -/
theorem Faithful.receive (h : st.Faithful cfg)
    (hopened : (st.tabs.page.sockets ws).any (·.state = .opened) = true)
    (hnext : st.next sid ws = some frame) : (st.receive ws frame).Faithful cfg := by
  obtain ⟨socket, hsocket, hstate⟩ := (Option.any_eq_true _ _).mp hopened
  have howner : st.tabs.page.owner ws = some socket.tab := by rw [Tabs.owner, hsocket]; rfl
  have hlive : st.tabs.page.Live ws socket.tab :=
    ⟨socket, hsocket, rfl, Or.inr (of_decide_eq_true hstate)⟩
  have hsource := h.socket _ _ (h.page.live ws _ hlive)
  have hothers : ∀ tab ws', tab ≠ socket.tab → st.source tab = some ws' → ws' ≠ ws := by
    rintro tab ws' htab hsome rfl
    have hown := h.source tab ws' hsome
    rw [howner, Option.some.injEq] at hown
    exact htab hown.symm
  unfold TermWorld.receive
  dsimp only
  rw [howner]
  dsimp only
  refine ⟨h.reachable, h.page, fun ws' => ?_, fun ws' hnone => ?_, h.source, h.socket,
    fun tab hnone => ?_, fun tab ws' hsome => ?_⟩
  · by_cases hws : ws' = ws
    · subst hws
      refine Or.inr ⟨sid, ?_⟩
      simpa using h.next_accepts hnext
    · simpa [hws] using h.got ws'
  · have hws : ws' ≠ ws := by
      rintro rfl
      exact absurd (howner.symm.trans hnone) (Option.some_ne_none _)
    simpa [hws] using h.fresh ws' hnone
  · have htab : tab ≠ socket.tab := by
      rintro rfl
      exact absurd (hsource.symm.trans hnone) (Option.some_ne_none _)
    simpa [htab] using h.blank tab hnone
  · have hbefore := h.writes tab ws' hsome
    by_cases htab : tab = socket.tab
    · subst htab
      have hws : ws' = ws := Option.some.inj (hsome.symm.trans hsource)
      subst hws
      simp [hbefore, writes_isMessage]
    · simpa [htab, hothers tab ws' htab hsome] using hbefore

end

end TermWorld

/-- Every step keeps what has arrived what was sent, and the terminals with it. -/
theorem TermEvent.apply_faithful {cfg : Settings} {st : TermWorld} {e : TermEvent}
    (h : st.Faithful cfg) (hen : e.Enabled st) : (e.apply cfg st).Faithful cfg := by
  cases e with
  | step e =>
    refine h.step ?_
    cases e with
    | exitFrame ws => cases hen
    | _ => exact hen
  | deliver sid ws =>
    obtain ⟨hopened, hsome⟩ := hen
    unfold TermEvent.apply
    dsimp only
    cases hnext : st.next sid ws with
    | none => exact h
    | some frame =>
      have hreceived := h.receive hopened hnext
      dsimp only
      split
      · have hsame : (st.receive ws frame).tabs = st.tabs := by
          unfold TermWorld.receive
          dsimp only
          split <;> rfl
        have hexit := hreceived.step (e := .exitFrame ws) (hsame ▸ hopened)
        rwa [hsame] at hexit
      · exact hreceived

/-! ## Runs -/

section

variable {cfg : Settings} {st : TermWorld} {tab : ℕ} {ws : Ws} {sid : SessionId}

/-- The page's own notices carry no output. -/
theorem writtenOutput_filter (calls : List TermWrite) :
    writtenOutput (calls.filter TermWrite.isMessage) = writtenOutput calls := by
  induction calls with
  | nil => rfl
  | cons call rest ih =>
    have hcons (calls : List TermWrite) :
        writtenOutput (call :: calls) = call.data ++ writtenOutput calls := List.flatMap_cons
    by_cases hmessage : call.isMessage = true
    · rw [List.filter_cons_of_pos hmessage, hcons, hcons, ih]
    · have hdata : call.data = [] := by
        cases call <;> simp_all [TermWrite.isMessage, TermWrite.data]
      rw [List.filter_cons_of_neg hmessage, ih, hcons, hdata, List.nil_append]

/-- The calls for frames are given the output of the frames. -/
theorem writtenOutput_flatMap (frames : List Payload) :
    writtenOutput (frames.flatMap Payload.writes) = outputOf frames := by
  induction frames with
  | nil => rfl
  | cons frame rest ih =>
    have hframe : writtenOutput frame.writes = frame.data := by
      cases frame with
      | bytes data => simp [Payload.writes, writtenOutput, TermWrite.data, Payload.data]
      | text message => cases message <;> rfl
      | close code reason => rfl
    have hsplit : writtenOutput (frame.writes ++ rest.flatMap Payload.writes) =
        writtenOutput frame.writes ++ writtenOutput (rest.flatMap Payload.writes) :=
      List.flatMap_append
    rw [List.flatMap_cons, hsplit, hframe, ih]
    rfl

/-- A call of `onmessage` belongs to a frame. -/
theorem writes_split {frames : List Payload} {pre post : List TermWrite} {call : TermWrite}
    (h : frames.flatMap Payload.writes = pre ++ call :: post) :
    ∃ before frame after, frames = before ++ frame :: after ∧ frame.writes = [call] ∧
      after.flatMap Payload.writes = post := by
  induction frames generalizing pre with
  | nil =>
    have hlength := congrArg List.length h
    simp at hlength
  | cons frame rest ih =>
    rw [List.flatMap_cons] at h
    have hwritten : frame.writes = [] ∨ ∃ first, frame.writes = [first] := by
      cases frame with
      | bytes data => exact Or.inr ⟨_, rfl⟩
      | text message => cases message <;> exact Or.inr ⟨_, rfl⟩
      | close code reason => exact Or.inl rfl
    rcases hwritten with hnone | ⟨first, hone⟩
    · rw [hnone, List.nil_append] at h
      obtain ⟨before, frame', after, rfl, hframe, hafter⟩ := ih h
      exact ⟨frame :: before, frame', after, rfl, hframe, hafter⟩
    · rw [hone, List.singleton_append] at h
      cases pre with
      | nil =>
        obtain ⟨rfl, hrest⟩ := List.cons.inj h
        exact ⟨[], frame, rest, rfl, hone, hrest⟩
      | cons head others =>
        obtain ⟨before, frame', after, rfl, hframe, hafter⟩ := ih (List.cons.inj h).2
        exact ⟨frame :: before, frame', after, rfl, hframe, hafter⟩

/-- A terminal was given the output of the frames that have arrived on its connection. -/
theorem TermWorld.Faithful.output (h : st.Faithful cfg) (hsource : st.source tab = some ws) :
    writtenOutput (st.written tab) = outputOf (st.got ws) := by
  rw [← writtenOutput_filter, h.writes tab ws hsource, writtenOutput_flatMap]

/-- In every run, what has arrived is what was sent, and the terminals were given it. -/
theorem faithful_of_run (hrun : Run (termSystem cfg) (fun _ _ => True) {} st) :
    st.Faithful cfg :=
  hrun.invariant (.initial cfg) fun _ _ h hen _ => TermEvent.apply_faithful h hen

/-- At any time the calls of `term.write` since the last `term.reset` of a tab carry one stretch of
the output of one process, without a gap: it begins with what the replay buffer held when the
connection was installed, and ends before the connection was removed. After the call for an exit
message no call carries output. -/
theorem written_gapless (hrun : Run (termSystem cfg) (fun _ _ => True) {} st) (tab : ℕ) :
    (writtenOutput (st.written tab) = [] ∨ ∃ ws sid t, st.source tab = some ws ∧
      (st.tabs.world.sessions sid).installedAt ws = some t ∧
      writtenOutput (st.written tab) <+:
        Window.slice (st.tabs.world.sessions sid).out (t - min t bufferLimit)
          (((st.tabs.world.sessions sid).removedAt ws).getD
            (st.tabs.world.sessions sid).out.length)) ∧
    ∀ pre code post, st.written tab = pre ++ .exited code :: post → writtenOutput post = [] := by
  have hfaithful := faithful_of_run hrun
  cases hsource : st.source tab with
  | none =>
    rw [hfaithful.blank tab hsource]
    refine ⟨Or.inl rfl, fun pre code post hwritten => ?_⟩
    have hlength := congrArg List.length hwritten
    simp at hlength
  | some ws =>
    have houtput := hfaithful.output hsource
    have hwrites := hfaithful.writes tab ws hsource
    rcases hfaithful.got ws with hnone | ⟨sid, hjoined, hfirst⟩
    · refine ⟨Or.inl (by rw [houtput, hnone]; rfl), fun pre code post hwritten => ?_⟩
      rw [hnone, hwritten, List.filter_append] at hwrites
      have hlength := congrArg List.length hwrites
      simp [TermWrite.isMessage] at hlength
    · have hstream := ReachableIf.streams hfaithful.reachable sid
      obtain ⟨t, ht⟩ := Option.ne_none_iff_exists'.mp (hstream.marked ws hjoined)
      refine ⟨Or.inr ⟨ws, sid, t, rfl, ht, ?_⟩, fun pre code post hwritten => ?_⟩
      · rw [houtput]
        exact (outputOf_mono hfirst).trans (hstream.carried ws t ht)
      · rw [hwritten, List.filter_append, List.filter_cons_of_pos rfl] at hwrites
        obtain ⟨before, frame, after, hgot, hframe, hafter⟩ := writes_split hwrites.symm
        have hexit : frame.isExit = true := by
          cases frame with
          | text message => cases message <;> simp_all [Payload.writes, Payload.isExit]
          | bytes data => simp [Payload.writes] at hframe
          | close code' reason => simp [Payload.writes] at hframe
        obtain ⟨rest, hrest⟩ := hfirst
        have hlast := hstream.exitLast ws before frame (after ++ rest)
          (by rw [← hrest, hgot, List.append_assoc, List.cons_append]) hexit
        rw [outputOf_append, List.append_eq_nil_iff] at hlast
        rw [← writtenOutput_filter, ← hafter, writtenOutput_flatMap, hlast.1]

/-- A tab loses its connection after the first output, and its timer makes a new one. -/
def reconnectedTerm : TermWorld := (termSystem shellSettings).exec {}
  [.step (.openTab 0 .attach 0), .step (.arrive 0 false), .step (.opened 0),
    .step (.server (.ptyData 0 [65, 66])), .step (.server (.writerTakes 0 0)), .deliver 0 0,
    .step (.closed 0 1006), .step (.server (.ptyData 0 [67])), .step (.timer 0 1),
    .step (.arrive 1 false), .step (.server (.writerCancelled 0 0 false)),
    .step (.server .resume), .step (.server .resume), .step (.opened 1),
    .step (.server (.writerTakes 0 1)), .step (.server (.writerSent 0 1)),
    .step (.server .resume), .step (.server (.writerTakes 0 1)), .step (.server (.writerSent 0 1)),
    .step (.server (.writerTakes 0 1)), .deliver 0 1, .deliver 0 1]

/-- The hypothesis holds in such a run. -/
theorem written_gapless_reconnected :
    (writtenOutput (reconnectedTerm.written 0) = [] ∨
      ∃ ws sid t, reconnectedTerm.source 0 = some ws ∧
        (reconnectedTerm.tabs.world.sessions sid).installedAt ws = some t ∧
        writtenOutput (reconnectedTerm.written 0) <+:
          Window.slice (reconnectedTerm.tabs.world.sessions sid).out (t - min t bufferLimit)
            (((reconnectedTerm.tabs.world.sessions sid).removedAt ws).getD
              (reconnectedTerm.tabs.world.sessions sid).out.length)) ∧
      ∀ pre code post, reconnectedTerm.written 0 = pre ++ .exited code :: post →
        writtenOutput post = [] :=
  written_gapless (System.Valid.run _ (by decide)) 0

/-- If the client of a session has got everything that was put in its queue, the calls of
`term.write` since the last `term.reset` carry all output of the process, from what the replay
buffer held at the installation on. -/
theorem written_complete (hrun : Run (termSystem cfg) (fun _ _ => True) {} st) {t : ℕ}
    (hsource : st.source tab = some ws)
    (hcurrent : (st.tabs.world.sessions sid).websocket = some ws)
    (hqueue : (st.tabs.world.sessions sid).outQueue = some ws)
    (hidle : ((st.tabs.world.sessions sid).writers ws).pc = .getting)
    (hempty : ((st.tabs.world.sessions sid).writers ws).queue = [])
    (harrived : (st.got ws).length = ((st.tabs.world.sessions sid).writers ws).sent.length)
    (ht : (st.tabs.world.sessions sid).installedAt ws = some t) :
    writtenOutput (st.written tab) =
      (st.tabs.world.sessions sid).out.drop (t - min t bufferLimit) := by
  have hfaithful := faithful_of_run hrun
  have hstream := ReachableIf.streams hfaithful.reachable sid
  have haccepted : ((st.tabs.world.sessions sid).writers ws).accepted =
      ((st.tabs.world.sessions sid).writers ws).sent := by
    have hfifo : ((st.tabs.world.sessions sid).writers ws).Fifo := hstream.fifo ws
    simp only [Writer.Fifo, hidle, hempty, List.map_nil, List.append_nil] at hfifo
    exact hfifo.1
  have hall : st.got ws = ((st.tabs.world.sessions sid).writers ws).accepted := by
    rcases hfaithful.got ws with hnone | ⟨sid', hjoined, hfirst⟩
    · rw [hnone, List.length_nil] at harrived
      rw [hnone, haccepted, List.eq_nil_of_length_eq_zero harrived.symm]
    · have hsockets := hfaithful.reachable.sound.sockets
      have hsame := hsockets.joinedOnce sid sid' ws (hsockets.websocketJoined sid ws hcurrent)
        hjoined
      subst hsame
      exact hfirst.eq_of_length (by rw [harrived, ← haccepted]; rfl)
  rw [hfaithful.output hsource, hall]
  exact hstream.full ws t hcurrent hqueue ht

/-- The hypotheses hold after the reconnect: the terminal is given the output from before it, from
while the tab had no connection, and from after it. -/
theorem written_complete_reconnected : writtenOutput (reconnectedTerm.written 0) =
    (reconnectedTerm.tabs.world.sessions 0).out.drop (3 - min 3 bufferLimit) :=
  written_complete (System.Valid.run _ (by decide)) (by decide : reconnectedTerm.source 0 = some 1)
    (by decide) (by decide) (by decide) (by decide) (by decide) (by decide)

end

end WTerm
