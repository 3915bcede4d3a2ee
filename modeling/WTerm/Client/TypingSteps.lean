import WTerm.Client.TerminalSteps
import WTerm.Client.Typing
import WTerm.Manager.Inputs

/-!
# What the process gets of what is typed

The input of a process is made of the messages that its receive loops have handled, in their order,
and the messages of a connection are handled in the order in which its tab has sent them. If nothing
is dropped and no `os.write` fails, nothing is missing.
-/

namespace WTerm

open Transition Control

/-! ## One message -/

/-- What a session was given of the input messages and sizes that came to it: some of them, in
order, and all of them if none was lost and the session takes input. -/
structure Session.Fed (lost : Bool) (s : Session) (given : List PageMessage) : Prop where
  bytes : (s.written ++ s.writeBuffer).Sublist (given.flatMap PageMessage.bytes)
  sizes : s.winsizes.Sublist (given.filterMap PageMessage.winsize)
  exact : lost = false → s.takesInput = true →
    s.written ++ s.writeBuffer = given.flatMap PageMessage.bytes ∧
      s.winsizes = given.filterMap PageMessage.winsize

namespace Session

variable {s s' : Session} {lost : Bool} {given : List PageMessage}

/-- A session that has been started was given nothing yet. -/
theorem Fed.spawn (lost : Bool) (now : Time) (idleSeconds : ℕ) :
    (Session.blank.spawn now idleSeconds).Fed lost [] :=
  ⟨.refl _, .refl _, fun _ _ => ⟨rfl, rfl⟩⟩

/-- What leaves the input side alone, also at the end of the session. -/
theorem Fed.sameInput (h : s.Fed lost given) (hsame : s.SameInput s') : s'.Fed lost given where
  bytes := by
    rw [hsame.written]
    rcases hsame.buffer with hbuffer | hbuffer
    · rw [hbuffer]
      exact h.bytes
    · rw [hbuffer, List.append_nil]
      exact (List.sublist_append_left _ _).trans h.bytes
  sizes := by
    rw [hsame.winsizes]
    exact h.sizes
  exact hkept htakes := by
    obtain ⟨hbefore, hbuffer⟩ := hsame.takes htakes
    rw [hsame.written, hbuffer, hsame.winsizes]
    exact h.exact hkept hbefore

/-- What is said about the input of a session also holds if more of it may have been lost. -/
theorem Fed.mono (h : s.Fed lost given) {lost' : Bool} (hmono : lost' = false → lost = false) :
    s.Fed lost' given :=
  ⟨h.bytes, h.sizes, fun hkept => h.exact (hmono hkept)⟩

/-- `os.write` takes bytes from the front of the buffer, and loses the rest if it fails. -/
theorem writePending_sublist (s : Session) (results : List WriteResult) :
    ((s.writePending results).written ++ (s.writePending results).writeBuffer).Sublist
      (s.written ++ s.writeBuffer) := by
  induction results generalizing s with
  | nil => exact .refl _
  | cons result rest ih =>
    unfold writePending
    split
    · exact .refl _
    · cases result with
      | blocked => exact .refl _
      | failed => exact (List.append_nil _).symm ▸ List.sublist_append_left _ _
      | wrote count =>
        dsimp only
        split
        · exact .refl _
        · refine (ih _).trans ?_
          rw [List.append_assoc, List.take_append_drop]

/-- `_flush_write` has no part in the sizes of the PTY, and neither opens nor ends a session. -/
theorem flushWrite_frame (s : Session) (results : List WriteResult) :
    (s.flushWrite results).winsizes = s.winsizes ∧
      (s.flushWrite results).takesInput = s.takesInput := by
  have hpending : ∀ s : Session, (s.writePending results).winsizes = s.winsizes := by
    intro s
    induction results generalizing s with
    | nil => rfl
    | cons result rest ih =>
      unfold writePending
      split
      · rfl
      · cases result with
        | blocked => rfl
        | failed => rfl
        | wrote count =>
          dsimp only
          split
          · rfl
          · exact ih _
  have hsame := s.flushWrite_sameButTerminal results
  refine ⟨?_, ?_⟩
  · unfold flushWrite
    split
    · rfl
    · dsimp only
      split <;> exact hpending s
  · unfold takesInput
    rw [hsame.2, hsame.toLifecycle]

/-- `_flush_write` gives the PTY what is pending. -/
theorem flushWrite_sublist (s : Session) (results : List WriteResult) :
    ((s.flushWrite results).written ++ (s.flushWrite results).writeBuffer).Sublist
      (s.written ++ s.writeBuffer) := by
  have hpending := s.writePending_sublist results
  unfold flushWrite
  split
  · exact .refl _
  · dsimp only
    split <;> exact hpending

/-- `_flush_write` of a session that was given something. -/
theorem Fed.flush (h : s.Fed lost given) (results : List WriteResult) :
    (s.flushWrite results).Fed (lost || !results.all WriteResult.isLossless) given where
  bytes := (s.flushWrite_sublist results).trans h.bytes
  sizes := by
    rw [(s.flushWrite_frame results).1]
    exact h.sizes
  exact hkept htakes := by
    simp only [Bool.or_eq_false_iff, Bool.not_eq_false'] at hkept
    rw [(s.flushWrite_frame results).2] at htakes
    rw [s.flushWrite_append results hkept.2, (s.flushWrite_frame results).1]
    exact h.exact hkept.1 htakes

/-- A message that changes nothing: it is lost, the session takes no input, or there is nothing in
it for the process. -/
theorem Fed.unheard (h : s.Fed lost given) (m : PageMessage) {lost' : Bool}
    (hmono : lost' = false → lost = false)
    (hunheard : lost' = true ∨ s.takesInput = false ∨ m.bytes = [] ∧ m.winsize = none) :
    s.Fed lost' (given ++ [m]) where
  bytes := by
    rw [List.flatMap_append]
    exact h.bytes.trans (List.sublist_append_left _ _)
  sizes := by
    rw [List.filterMap_append]
    exact h.sizes.trans (List.sublist_append_left _ _)
  exact hkept htakes := by
    obtain ⟨hbytes, hsizes⟩ := h.exact (hmono hkept) htakes
    rcases hunheard with hlost | hclosed | ⟨hnone, hnosize⟩
    · rw [hlost] at hkept
      cases hkept
    · rw [hclosed] at htakes
      cases htakes
    · rw [hbytes, hsizes]
      simp [hnone, hnosize]

/-- An input message that is not dropped goes behind what is pending. -/
theorem Fed.append (h : s.Fed lost given) {data : PyStr} {encoded : List UInt8}
    (hencode : PyStr.encode data = .ok encoded) :
    ({ s with writeBuffer := s.writeBuffer ++ encoded }).Fed lost
      (given ++ [PageMessage.input data]) where
  bytes := by
    have hbytes : (PageMessage.input data).bytes = encoded := by simp [PageMessage.bytes, hencode]
    simp only [List.flatMap_append, List.flatMap_cons, List.flatMap_nil, List.append_nil, hbytes]
    rw [← List.append_assoc]
    exact h.bytes.append (.refl encoded)
  sizes := by
    simp only [List.filterMap_append, List.filterMap_cons, PageMessage.winsize,
      List.filterMap_nil, List.append_nil]
    exact h.sizes
  exact hkept htakes := by
    obtain ⟨hbytes, hsizes⟩ := h.exact hkept htakes
    refine ⟨?_, ?_⟩
    · simp only [List.flatMap_append, List.flatMap_cons, List.flatMap_nil, List.append_nil,
        PageMessage.bytes, hencode]
      rw [← hbytes, List.append_assoc]
    · simp only [List.filterMap_append, List.filterMap_cons, PageMessage.winsize,
        List.filterMap_nil, List.append_nil]
      exact hsizes

/-- `write_input` of a session that was given something. -/
theorem Fed.writeInput (h : s.Fed lost given) (now : Time) (data : PyStr)
    (results : List WriteResult) :
    (s.writeInput now data results).1.Fed
      (lost || (PageMessage.input data).loses s results) (given ++ [.input data]) := by
  have hmono : (lost || (PageMessage.input data).loses s results) = false → lost = false :=
    fun hkept => (Bool.or_eq_false_iff.mp hkept).1
  by_cases htakes : s.takesInput = true
  · have hopen := Bool.and_eq_true_iff.mp htakes
    have htouch : (s.touch now).Fed lost given := h.sameInput (.of_terminal rfl rfl)
    rcases writeInput_cases hopen.1 hopen.2 now data results with
      ⟨e, hencode, hsession⟩ | ⟨hdrop, hsession⟩ | ⟨encoded, hencode, hdrop, -, hsession⟩
    · rw [hsession]
      exact htouch.unheard _ hmono (.inr (.inr ⟨by simp [PageMessage.bytes, hencode], rfl⟩))
    · rw [hsession]
      have hlost : (lost || (PageMessage.input data).loses s results) = true := by
        simp [PageMessage.loses, hdrop]
      have hflag : ({ s.touch now with inputDropped := true } : Session).Fed lost given :=
        h.sameInput ⟨rfl, rfl, .inl rfl, fun h => ⟨h, rfl⟩⟩
      exact hflag.unheard _ hmono (.inl hlost)
    · rw [hsession]
      refine ((htouch.append hencode).flush results).mono fun hkept => ?_
      simp only [PageMessage.loses, hdrop, Bool.false_or] at hkept
      exact hkept
  · have hclosed : s.takesInput = false := by simpa using htakes
    have hsame : (s.writeInput now data results).1 = s := by
      unfold Session.writeInput
      rw [if_pos (by rw [Bool.not_eq_true']; exact hclosed)]
    rw [hsame]
    exact h.unheard _ hmono (.inr (.inl hclosed))

/-- `resize` of a session that was given something. -/
theorem Fed.resize (h : s.Fed lost given) (cols rows : ℕ) (results : List WriteResult) :
    (s.resize cols rows results).Fed (lost || ioctlFails results)
      (given ++ [.resize cols rows]) := by
  have hmono : (lost || ioctlFails results) = false → lost = false :=
    fun hkept => (Bool.or_eq_false_iff.mp hkept).1
  by_cases htakes : s.takesInput = true
  · have hopen : ¬(!(s.alive && s.masterFd)) = true := by simpa [takesInput] using htakes
    cases hfails : ioctlFails results with
    | true =>
      have hsame : s.resize cols rows results = s := by
        rw [Session.resize, if_neg hopen, if_pos hfails]
      rw [hsame]
      exact h.unheard _ (hfails ▸ hmono) (.inl (by simp))
    | false =>
      have hresize : s.resize cols rows results = { s with
          winsizes := s.winsizes ++ [(Session.clampSize rows, Session.clampSize cols)] } := by
        rw [Session.resize, if_neg hopen, if_neg (by simp [hfails])]
      rw [hresize, Bool.or_false]
      refine ⟨?_, ?_, fun hkept _ => ?_⟩
      · simp only [List.flatMap_append, List.flatMap_cons, PageMessage.bytes, List.flatMap_nil,
          List.append_nil]
        exact h.bytes
      · simp only [List.filterMap_append, List.filterMap_cons, PageMessage.winsize,
          List.filterMap_nil]
        exact h.sizes.append (.refl _)
      · obtain ⟨hbytes, hsizes⟩ := h.exact hkept htakes
        refine ⟨by simpa [PageMessage.bytes] using hbytes, ?_⟩
        simp [PageMessage.winsize, hsizes]
  · have hclosed : s.takesInput = false := by simpa using htakes
    have hsame : s.resize cols rows results = s := by
      unfold Session.resize
      rw [if_pos (by rw [Bool.not_eq_true']; exact hclosed)]
    rw [hsame]
    exact h.unheard _ hmono (.inr (.inl hclosed))

/-- A turn of the receive loop with a message of the page. -/
theorem Fed.apply (h : s.Fed lost given) (m : PageMessage) (now : Time)
    (results : List WriteResult) :
    (m.apply s now results).1.Fed (lost || m.loses s results) (given ++ [m]) := by
  cases m with
  | resize cols rows => exact h.resize cols rows results
  | input data =>
    have hinput := h.writeInput now data results
    have hsame : (s.writeInput now data results).1.SameInput
        (s.applyInput now data results).1 := by
      unfold applyInput
      split
      · next s' heq =>
        rw [heq]
        exact .of_output (enqueueOutbound_toTerminal _ _) (sendStatus_toLifecycle _ _)
      · next s' heq =>
        rw [heq]
        exact .refl s'
      · next s' e heq =>
        rw [heq]
        exact .refl s'
    exact hinput.sameInput hsame

end Session

/-! ## Which session a connection has -/

/-- A connection that is served was installed in that session. -/
def Control.Joined (c : Control) : Prop :=
  ∀ ws sid, c.Serves ws sid → (c.life sid).joined ws = true

/-- A rule keeps the account of the connections that are served. -/
theorem Control.Joined.step {cfg : Settings} {c c' : Control} {l : Label} (h : c.Joined)
    (hs : Sockets c) (hm : Move cfg c l c') : c'.Joined := by
  intro ws sid hserves
  have hkeep := h ws sid
  have hinside := hs.serving
  have hexists : c.routes ws = .looping sid → sid < c.count := fun hr =>
    hs.routeExists ws sid (by rw [hr]; rfl)
  cases hm <;> grind [Serves]

section

variable {cfg : Settings} {w : World} {ws : Ws} {sid : SessionId}

/-- In every reachable state a receive loop has a connection that was installed in its session. -/
theorem Reachable.loop_joined (h : Reachable cfg w) (hloop : w.loopSession ws = some sid) :
    (w.sessions sid).joined ws = true := by
  have hkeeps : Keeps cfg (fun _ _ => True) fun w => w.control.Joined :=
    keeps_control (fun _ _ => True) Control.Joined fun _ _ _ _ hs _ hinv hm _ => hinv.step hs hm
  have hinitial : (({} : World).control).Joined := by
    intro ws sid hserves
    rcases hserves with hroute | hrole
    · cases hroute
    · cases hrole
  have hjoined := (hkeeps.run restricts_true ⟨.initial, hinitial⟩ h).2
  refine hjoined ws sid (.inl ?_)
  unfold World.loopSession at hloop
  split at hloop
  · next hroute =>
    obtain rfl := Option.some.inj hloop
    exact hroute
  · cases hloop

/-- Only sessions that were created have connections. -/
theorem Reachable.created_of_joined (h : Reachable cfg w)
    (hjoined : (w.sessions sid).joined ws = true) : sid < w.count := by
  by_contra hnew
  have hblank := h.sound.sockets.blank sid (Nat.not_lt.mp hnew)
  have hcontrol : (w.control.life sid).joined ws = true := hjoined
  rw [hblank] at hcontrol
  cases hcontrol

end

/-! ## One step -/

/-- What holds in every run of the page and the event loop. -/
structure TypingWorld.Faithful (cfg : Settings) (st : TypingWorld) : Prop where
  reachable : Reachable cfg st.tabs.world
  ofPage : ∀ ws, ∀ m ∈ st.sent ws, m.OfPage
  order : ∀ ws, st.handledOn ws <+: st.sent ws
  joined : ∀ entry ∈ st.handled, (st.tabs.world.sessions entry.1).joined entry.2.1 = true
  fed : ∀ sid, (st.tabs.world.sessions sid).Fed (st.lost sid) (st.handledBy sid)

section

variable {cfg : Settings} {depth : ℕ} {st : TypingWorld}

namespace TypingWorld

/-- One more message was handled, for its session. -/
theorem handledBy_concat (st : TypingWorld) (sid sid' : SessionId) (ws : Ws) (m : PageMessage) :
    (((st.handled ++ [(sid, ws, m)]).filter (·.1 = sid')).map (·.2.2)) =
      st.handledBy sid' ++ if sid = sid' then [m] else [] := by
  by_cases hsid : sid = sid' <;> simp [handledBy, hsid]

/-- One more message was handled, of its connection. -/
theorem handledOn_concat (st : TypingWorld) (sid : SessionId) (ws ws' : Ws) (m : PageMessage) :
    (((st.handled ++ [(sid, ws, m)]).filter (·.2.1 = ws')).map (·.2.2)) =
      st.handledOn ws' ++ if ws = ws' then [m] else [] := by
  by_cases hws : ws = ws' <;> simp [handledOn, hws]

/-- Nothing was handled for a session that was not created. -/
theorem Faithful.handledBy_new (h : st.Faithful cfg) {sid : SessionId}
    (hnew : st.tabs.world.count ≤ sid) : st.handledBy sid = [] := by
  have hnone : st.handled.filter (·.1 = sid) = [] := by
    rw [List.filter_eq_nil_iff]
    intro entry hentry hsid
    have hcreated := h.reachable.created_of_joined (h.joined entry hentry)
    have heq : entry.1 = sid := by simpa using hsid
    rw [heq] at hcreated
    exact absurd hnew (Nat.not_le.mpr hcreated)
  rw [handledBy, hnone, List.map_nil]

/-- What leaves the input sides alone leaves the account of them alone. -/
theorem Faithful.fed_sameInputs (h : st.Faithful cfg) {w : World}
    (hsame : st.tabs.world.SameInputs w) (sid : SessionId) :
    (w.sessions sid).Fed (st.lost sid) (st.handledBy sid) := by
  rcases hsame.session sid with hkept | ⟨hnew, now, idleSeconds, hspawn⟩
  · exact (h.fed sid).sameInput hkept
  · rw [h.handledBy_new hnew]
    exact (Session.Fed.spawn _ now idleSeconds).sameInput hspawn

/-- `sendJson` sends the message on one socket at most, and changes nothing else. -/
theorem send_frame (st : TypingWorld) (tab : ℕ) (m : PageMessage) :
    (st.send tab m).tabs = st.tabs ∧ (st.send tab m).handled = st.handled ∧
      (st.send tab m).lost = st.lost ∧
      ∀ ws, (st.send tab m).sent ws = st.sent ws ∨ (st.send tab m).sent ws = st.sent ws ++ [m] := by
  unfold TypingWorld.send
  split
  · exact ⟨rfl, rfl, rfl, fun _ => .inl rfl⟩
  · next ws _ =>
    split
    · refine ⟨rfl, rfl, rfl, fun ws' => ?_⟩
      by_cases hws : ws' = ws
      · subst hws
        exact .inr (Function.update_self ..)
      · exact .inl (Function.update_of_ne hws ..)
    · exact ⟨rfl, rfl, rfl, fun _ => .inl rfl⟩

/-- A message that the page sends joins the end of those on their way, and the server has handled
none more. -/
theorem Faithful.send (h : st.Faithful cfg) (tab : ℕ) {m : PageMessage} (hm : m.OfPage) :
    (st.send tab m).Faithful cfg := by
  obtain ⟨htabs, hhandled, hlost, hsent⟩ := st.send_frame tab m
  refine ⟨?_, fun ws m' hm' => ?_, fun ws => ?_, ?_, fun sid => ?_⟩
  · rw [htabs]
    exact h.reachable
  · rcases hsent ws with hsame | hmore
    · rw [hsame] at hm'
      exact h.ofPage ws m' hm'
    · rw [hmore] at hm'
      rcases List.mem_append.mp hm' with hm' | hm'
      · exact h.ofPage ws m' hm'
      · rw [List.mem_singleton.mp hm']
        exact hm
  · have hbefore : st.handledOn ws <+: (st.send tab m).sent ws := by
      rcases hsent ws with hsame | hmore
      · rw [hsame]
        exact h.order ws
      · rw [hmore]
        exact (h.order ws).trans (List.prefix_append _ _)
    rwa [handledOn, hhandled]
  · rw [htabs, hhandled]
    exact h.joined
  · rw [htabs, hlost, handledBy, hhandled]
    exact h.fed sid

/-- A step in which no receive loop gets a frame leaves the input sides alone, unless it is
`_flush_write`. -/
theorem step_inputs {e : TabsEvent} (hreceives : (TypingEvent.step e).receives = false) :
    st.tabs.world.SameInputs (e.apply cfg st.tabs).world ∨
      ∃ sid results, e = .server (.flush sid results) := by
  cases hevent : e.event st.tabs with
  | none =>
    have hworld : (e.apply cfg st.tabs).world = st.tabs.world := by
      simp [TabsEvent.apply, hevent]
    exact .inl (hworld ▸ .refl _)
  | some ev =>
    have hworld : (e.apply cfg st.tabs).world = ev.apply cfg st.tabs.world := by
      simp [TabsEvent.apply, hevent]
    cases hfeeds : ev.feeds with
    | false => exact .inl (hworld ▸ Event.sameInputs hfeeds _)
    | true =>
      refine .inr ?_
      cases e with
      | server ev' =>
        obtain rfl := Option.some.inj hevent
        cases ev' with
        | flush sid results => exact ⟨sid, results, rfl⟩
        | receive ws frame results => cases hreceives
        | _ => cases hfeeds
      | arrive ws found =>
        obtain rfl := Option.some.inj hevent
        cases hfeeds
      | _ => cases hevent

/-- `_flush_write` gives the PTY what is pending, or loses it in a failed write. -/
theorem Faithful.fed_flush (h : st.Faithful cfg) (sid : SessionId) (results : List WriteResult)
    (sid' : SessionId) :
    (((TabsEvent.server (.flush sid results)).apply cfg st.tabs).world.sessions sid').Fed
      (st.lost sid' || decide ((TabsEvent.server (.flush sid results)).failedWrite = some sid'))
      (st.handledBy sid') := by
  have hworld : ((TabsEvent.server (.flush sid results)).apply cfg st.tabs).world =
      (Event.flush sid results).apply cfg st.tabs.world := rfl
  by_cases hsid : sid' = sid
  · subst hsid
    have hsession : (((TabsEvent.server (.flush sid' results)).apply cfg st.tabs).world.sessions
        sid') = (st.tabs.world.sessions sid').flushWrite results := by
      rw [hworld]
      simp [Event.apply]
    refine hsession ▸ ((h.fed sid').flush results).mono fun hkept => ?_
    obtain ⟨hlost, hwrite⟩ := Bool.or_eq_false_iff.mp hkept
    cases hlossless : results.all WriteResult.isLossless with
    | true => simpa [hlossless] using hlost
    | false => simp [TabsEvent.failedWrite, hlossless] at hwrite
  · have hsession : (((TabsEvent.server (.flush sid results)).apply cfg st.tabs).world.sessions
        sid') = st.tabs.world.sessions sid' := by
      rw [hworld]
      simp [Event.apply, hsid]
    exact hsession ▸ (h.fed sid').mono fun hkept => (Bool.or_eq_false_iff.mp hkept).1

/-- A step of the tabs or of the event loop in which no receive loop gets a frame. -/
theorem Faithful.step (h : st.Faithful cfg) {e : TabsEvent} (hen : e.Enabled st.tabs)
    (hreceives : (TypingEvent.step e).receives = false) :
    ((TypingEvent.step e).apply cfg depth st).Faithful cfg where
  reachable := TabsEvent.world_reachable h.reachable hen
  ofPage := h.ofPage
  order := h.order
  joined entry hentry := by
    have haccepts : (st.tabs.world.sessions entry.1).stream.Accepts entry.2.1 [] :=
      ⟨h.joined entry hentry, List.nil_prefix⟩
    exact (TabsEvent.accepts_apply h.reachable hen haccepts).1
  fed sid := by
    rcases @step_inputs cfg st e hreceives with hsame | ⟨sid', results, rfl⟩
    · exact (h.fed_sameInputs hsame sid).mono fun hkept => (Bool.or_eq_false_iff.mp hkept).1
    · exact h.fed_flush sid' results sid

/-- What arrives next is the next message that was sent. -/
theorem next_eq_some {ws : Ws} {sid : SessionId} {m : PageMessage}
    (h : st.next ws = some (sid, m)) :
    st.tabs.world.loopSession ws = some sid ∧
      (st.sent ws)[(st.handledOn ws).length]? = some m := by
  unfold next at h
  split at h
  · next hloop hnext =>
    obtain ⟨rfl, rfl⟩ := Prod.mk.inj (Option.some.inj h)
    exact ⟨hloop, hnext⟩
  · cases h

/-- A prefix with the element behind it is a prefix. -/
theorem prefix_concat {done all : List PageMessage} {m : PageMessage} (h : done <+: all)
    (hnext : all[done.length]? = some m) : done ++ [m] <+: all := by
  obtain ⟨rest, rfl⟩ := h
  cases rest with
  | nil => simp at hnext
  | cons first rest =>
    simp only [List.getElem?_append_right (Nat.le_refl _), Nat.sub_self,
      List.getElem?_cons_zero, Option.some.injEq] at hnext
    subst hnext
    exact ⟨rest, by simp⟩

/-- A receive loop handles a message of the page. -/
theorem Faithful.arrive (h : st.Faithful cfg) (hdepth : 0 < depth) {ws : Ws} {sid : SessionId}
    {m : PageMessage} (hnext : st.next ws = some (sid, m)) (results : List WriteResult) :
    ((TypingEvent.arrive ws results).apply cfg depth st).Faithful cfg := by
  obtain ⟨hloop, hsent⟩ := next_eq_some hnext
  have hm : m.OfPage := h.ofPage ws m (List.mem_of_getElem? hsent)
  have hjoined : (st.tabs.world.sessions sid).joined ws = true := h.reachable.loop_joined hloop
  set e : TabsEvent := .server (.receive ws (m.frame.received depth) results) with he
  have hen : e.Enabled st.tabs := by
    refine ⟨?_, rfl⟩
    simp only [Event.Enabled, hloop, Option.isSome_some]
  have happly : (TypingEvent.arrive ws results).apply cfg depth st =
      { st with
        tabs := e.apply cfg st.tabs
        handled := st.handled ++ [(sid, ws, m)]
        lost := Function.update st.lost sid
          (st.lost sid || m.loses (st.tabs.world.sessions sid) results) } := by
    simp only [TypingEvent.apply, hnext, he]
  have hkept : ∀ sid' ws', (st.tabs.world.sessions sid').joined ws' = true →
      ((e.apply cfg st.tabs).world.sessions sid').joined ws' = true := by
    intro sid' ws' hbefore
    have haccepts : (st.tabs.world.sessions sid').stream.Accepts ws' [] :=
      ⟨hbefore, List.nil_prefix⟩
    exact (TabsEvent.accepts_apply h.reachable hen haccepts).1
  -- The session handles the message itself, since the frame is what the page has written.
  have hsame : (st.tabs.world.on sid fun s =>
      (m.apply s st.tabs.world.now results).1).SameInputs (e.apply cfg st.tabs).world := by
    have hreceive : (st.tabs.world.on sid fun s =>
        (s.handleFrame st.tabs.world.now (m.frame.received depth) results).1).SameInputs
          (e.apply cfg st.tabs).world := World.sameInputs_receive hloop _ results
    rw [hm.received hdepth] at hreceive
    simpa only [PageMessage.handleFrame_json] using hreceive
  rw [happly]
  refine ⟨TabsEvent.world_reachable h.reachable hen, h.ofPage, fun ws' => ?_, ?_, fun sid' => ?_⟩
  · have hconcat := st.handledOn_concat sid ws ws' m
    rw [handledOn, hconcat]
    by_cases hws : ws = ws'
    · subst hws
      rw [if_pos rfl]
      exact prefix_concat (h.order ws) hsent
    · rw [if_neg hws, List.append_nil]
      exact h.order ws'
  · intro entry hentry
    rcases List.mem_append.mp hentry with hentry | hentry
    · exact hkept entry.1 entry.2.1 (h.joined entry hentry)
    · rw [List.mem_singleton.mp hentry]
      exact hkept sid ws hjoined
  · have hconcat := st.handledBy_concat sid sid' ws m
    rw [handledBy, hconcat]
    dsimp only
    have hcount : st.tabs.world.count ≤ sid' → sid ≠ sid' := by
      rintro hnew rfl
      exact absurd hnew (Nat.not_le.mpr (h.reachable.created_of_joined hjoined))
    rcases hsame.session sid' with hsession | ⟨hnew, now, idleSeconds, hspawn⟩
    · by_cases hsid : sid = sid'
      · subst hsid
        rw [if_pos rfl, Function.update_self]
        refine Session.Fed.sameInput ?_ hsession
        rw [World.on_sessions, Function.update_self]
        exact (h.fed sid).apply m st.tabs.world.now results
      · rw [if_neg hsid, List.append_nil, Function.update_of_ne (Ne.symm hsid)]
        rw [World.on_sessions, Function.update_of_ne (Ne.symm hsid)] at hsession
        exact (h.fed sid').sameInput hsession
    · rw [if_neg (hcount hnew), List.append_nil, h.handledBy_new hnew]
      exact (Session.Fed.spawn _ now idleSeconds).sameInput hspawn

/-- Before the first message nothing has been sent and nothing was given to the PTY. -/
theorem Faithful.initial (cfg : Settings) : Faithful cfg {} where
  reachable := .refl
  ofPage ws m hm := absurd hm List.not_mem_nil
  order ws := List.prefix_refl _
  joined entry hentry := absurd hentry List.not_mem_nil
  fed sid := ⟨.refl _, .refl _, fun _ htakes => by cases htakes⟩

/-- Every step keeps the account of the messages. -/
theorem Faithful.apply (h : st.Faithful cfg) (hdepth : 0 < depth) {e : TypingEvent}
    (hen : e.Enabled st) : (e.apply cfg depth st).Faithful cfg := by
  cases e with
  | step e => exact h.step hen.1 hen.2
  | send tab m => exact h.send tab hen
  | arrive ws results =>
    obtain ⟨⟨sid, m⟩, hnext⟩ := Option.isSome_iff_exists.mp hen
    exact h.arrive hdepth hnext results

/-- Every run keeps the account of the messages. -/
theorem faithful_of_run (hdepth : 0 < depth)
    (hrun : Run (typingSystem cfg depth) (fun _ _ => True) {} st) : st.Faithful cfg :=
  hrun.invariant (.initial cfg) fun _ _ h hen _ => h.apply hdepth hen

/-- The messages that were handled for a session and those of a connection are the same, if the
connection is the session's only one. -/
theorem handledBy_eq_handledOn {ws : Ws} {sid : SessionId}
    (honly : ∀ entry ∈ st.handled, entry.1 = sid ↔ entry.2.1 = ws) :
    st.handledBy sid = st.handledOn ws := by
  unfold handledBy handledOn
  refine congrArg _ (List.filter_congr fun entry hentry => ?_)
  exact decide_eq_decide.mpr (honly entry hentry)

end TypingWorld

/-- The input of every process comes from the page in order, without a duplicate: the messages of a
connection are handled for one session, in the order in which they were sent, and what a PTY was
given or will be given is a subsequence of what was handled for its session. That is said of the
bytes and of the sizes, each for itself: a resize takes effect at once and overtakes input that is
still in the buffer. -/
theorem typed_in_order (hdepth : 0 < depth)
    (hrun : Run (typingSystem cfg depth) (fun _ _ => True) {} st) :
    (∀ ws, st.handledOn ws <+: st.sent ws) ∧
      (∀ entry ∈ st.handled, ∀ entry' ∈ st.handled,
        entry.2.1 = entry'.2.1 → entry.1 = entry'.1) ∧
      ∀ sid, (st.tabs.world.sessions sid).ptyInput.1.Sublist
          ((st.handledBy sid).flatMap PageMessage.bytes) ∧
        (st.tabs.world.sessions sid).ptyInput.2.Sublist
          ((st.handledBy sid).filterMap PageMessage.winsize) := by
  have hfaithful := TypingWorld.faithful_of_run hdepth hrun
  refine ⟨hfaithful.order, fun entry hentry entry' hentry' hws => ?_, fun sid => ?_⟩
  · have hjoined := hfaithful.joined entry hentry
    have hjoined' := hfaithful.joined entry' hentry'
    rw [← hws] at hjoined'
    exact hfaithful.reachable.sound.sockets.joinedOnce _ _ _ hjoined hjoined'
  · exact ⟨(hfaithful.fed sid).bytes, (hfaithful.fed sid).sizes⟩

/-- A tab whose connection was lost connects again. The process takes one byte of a character of
three, and what was typed before and after the loss waits behind it. -/
def reconnectedTyping : TypingWorld := (typingSystem shellSettings 10).exec {}
  [.step (.openTab 0 .attach 0), .step (.arrive 0 false), .step (.opened 0),
    .send 0 (.resize 80 24), .send 0 (.input [0xD55C]), .arrive 0 [], .arrive 0 [.wrote 1],
    .send 0 (.input [65]), .step (.closed 0 1006), .send 0 (.input [66]), .step (.timer 0 1),
    .step (.arrive 1 false), .arrive 0 [.blocked], .step (.server (.writerCancelled 0 0 false)),
    .step (.server .resume), .step (.server .resume), .step (.opened 1), .send 0 (.input [67]),
    .arrive 1 [.wrote 2]]

/-- The hypotheses hold in such a run. -/
theorem typed_in_order_reconnected :
    (∀ ws, reconnectedTyping.handledOn ws <+: reconnectedTyping.sent ws) ∧
      (∀ entry ∈ reconnectedTyping.handled, ∀ entry' ∈ reconnectedTyping.handled,
        entry.2.1 = entry'.2.1 → entry.1 = entry'.1) ∧
      ∀ sid, (reconnectedTyping.tabs.world.sessions sid).ptyInput.1.Sublist
          ((reconnectedTyping.handledBy sid).flatMap PageMessage.bytes) ∧
        (reconnectedTyping.tabs.world.sessions sid).ptyInput.2.Sublist
          ((reconnectedTyping.handledBy sid).filterMap PageMessage.winsize) :=
  typed_in_order (by decide) (System.Valid.run _ (by decide))

/-- If nothing was dropped and no `os.write` or ioctl has failed, a process that still takes input
was given or will be given exactly the bytes and exactly the sizes that were handled for its
session. If the session has had one connection only, and all its messages have arrived, these are
exactly those that the tab has sent. -/
theorem typed_exact (hdepth : 0 < depth)
    (hrun : Run (typingSystem cfg depth) (fun _ _ => True) {} st) {sid : SessionId}
    (hkept : st.lost sid = false) (htakes : (st.tabs.world.sessions sid).takesInput = true) :
    (st.tabs.world.sessions sid).ptyInput = ((st.handledBy sid).flatMap PageMessage.bytes,
        (st.handledBy sid).filterMap PageMessage.winsize) ∧
      ∀ ws, (∀ entry ∈ st.handled, entry.1 = sid ↔ entry.2.1 = ws) →
        (st.handledOn ws).length = (st.sent ws).length →
        (st.tabs.world.sessions sid).ptyInput = ((st.sent ws).flatMap PageMessage.bytes,
          (st.sent ws).filterMap PageMessage.winsize) := by
  have hfaithful := TypingWorld.faithful_of_run hdepth hrun
  obtain ⟨hbytes, hsizes⟩ := (hfaithful.fed sid).exact hkept htakes
  have hexact : (st.tabs.world.sessions sid).ptyInput =
      ((st.handledBy sid).flatMap PageMessage.bytes,
        (st.handledBy sid).filterMap PageMessage.winsize) := Prod.ext hbytes hsizes
  refine ⟨hexact, fun ws honly harrived => ?_⟩
  have hall : st.handledOn ws = st.sent ws := (hfaithful.order ws).eq_of_length harrived
  rw [hexact, TypingWorld.handledBy_eq_handledOn honly, hall]

/-- After the reconnect nothing was lost, and the PTY was given exactly what the server has handled.
-/
theorem typed_exact_reconnected :
    (reconnectedTyping.tabs.world.sessions 0).ptyInput =
        ((reconnectedTyping.handledBy 0).flatMap PageMessage.bytes,
          (reconnectedTyping.handledBy 0).filterMap PageMessage.winsize) ∧
      ∀ ws, (∀ entry ∈ reconnectedTyping.handled, entry.1 = 0 ↔ entry.2.1 = ws) →
        (reconnectedTyping.handledOn ws).length = (reconnectedTyping.sent ws).length →
        (reconnectedTyping.tabs.world.sessions 0).ptyInput =
          ((reconnectedTyping.sent ws).flatMap PageMessage.bytes,
            (reconnectedTyping.sent ws).filterMap PageMessage.winsize) :=
  typed_exact (by decide) (System.Valid.run _ (by decide)) (by decide) (by decide)

/-- The process has got every character in the order in which it was typed, but the one that was
typed without a connection. -/
example : (reconnectedTyping.tabs.world.sessions 0).ptyInput =
    ([0xED, 0x95, 0x9C, 65, 67], [(24, 80)]) := by decide

end

end WTerm
