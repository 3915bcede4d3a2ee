import WTerm.Client.Sidebar

/-!
# The sidebar follows the sessions

The page shows the broadcasts of the hub in their order, and when nothing is under way any more it
shows the live flags that the sessions have.
-/

namespace WTerm

open Transition

/-! ## The hub -/

namespace Hub

variable {h : Hub}

/-- The last payload that was sent to a connection, or is being sent to it. -/
def latest (h : Hub) (ws : Ws) : Option (List StatusEntry) :=
  match h.run with
  | .broadcasting payload pending => if ws ∈ pending then some payload else h.sentTo ws
  | _ => h.sentTo ws

/-- Between broadcasts it is the one that was sent. -/
theorem latest_of_pending (hpending : h.run.pending = none) (ws : Ws) :
    h.latest ws = h.sentTo ws := by
  unfold latest
  cases hrun : h.run with
  | broadcasting payload pending =>
    rw [hrun] at hpending
    cases hpending
  | _ => rfl

end Hub

namespace FallibleHub

variable {projects : List Project} {s s' : FallibleHub}

/-- A step that begins a broadcast, to all subscribers. -/
structure Sends (s s' : FallibleHub) (payload : List StatusEntry) : Prop where
  pending : s.hub.run.pending = none
  run : s'.hub.run = .broadcasting payload s.hub.sockets
  latest : ∀ ws, s'.hub.latest ws =
    if ws ∈ s.hub.sockets then some payload else s.hub.latest ws

/-- A step that begins no broadcast. It leaves what was sent and is being sent, but for the sends
that have raised. -/
structure Follows (s s' : FallibleHub) : Prop where
  pending : s.hub.run.pending ≠ none ∨ s'.hub.run.pending = none
  unsent : ∀ ws, s.hub.latest ws = none → s'.hub.latest ws = none
  latest : ∀ ws, ws ∉ s'.failed → s'.hub.latest ws = s.hub.latest ws

/-- A step that leaves what was sent and is being sent. -/
theorem Follows.of_latest (hpending : s.hub.run.pending ≠ none ∨ s'.hub.run.pending = none)
    (hlatest : ∀ ws, s'.hub.latest ws = s.hub.latest ws) : s.Follows s' :=
  ⟨hpending, fun ws hnone => (hlatest ws).trans hnone, fun ws _ => hlatest ws⟩

/-- `run` has gone on to its next await. -/
structure Proceeds (s s' : FallibleHub) : Prop where
  sockets : s'.hub.sockets = s.hub.sockets
  failed : s'.failed = s.failed
  sentTo : s'.hub.sentTo = s.hub.sentTo
  run : ∀ payload pending, s'.hub.run = .broadcasting payload pending → pending = s.hub.sockets

/-- The head of the loop begins no broadcast. -/
theorem loopTop_run (h : Hub) (payload : List StatusEntry) (pending : List Ws) :
    h.loopTop.run ≠ .broadcasting payload pending := by
  unfold Hub.loopTop
  dsimp only
  split <;> exact RunPc.noConfusion

/-- A snapshot is sent to all subscribers, or to none. -/
theorem goOn_proceeds (s : FallibleHub) (triggered : Bool) {r : Hub × Survey}
    (hsockets : r.1.sockets = s.hub.sockets) (hsent : r.1.sentTo = s.hub.sentTo) :
    s.Proceeds (s.goOn triggered r) := by
  obtain ⟨h, outcome⟩ := r
  cases outcome with
  | raised =>
    exact ⟨hsockets, rfl, hsent, fun payload pending hrun =>
      absurd hrun (loopTop_run h payload pending)⟩
  | asks done current rest => exact ⟨hsockets, rfl, hsent, fun _ _ hrun => by cases hrun⟩
  | complete payload =>
    have hhub : (s.goOn triggered (h, .complete payload)).hub = h.deliver triggered payload := rfl
    rcases h.deliver_cases triggered payload with hsends | ⟨hover, -⟩
    · refine ⟨?_, rfl, ?_, fun payload' pending hrun => ?_⟩
      · rw [hhub, hsends]
        exact hsockets
      · rw [hhub, hsends]
        exact hsent
      · rw [hhub, hsends] at hrun
        exact (RunPc.broadcasting.inj hrun).2.symm.trans hsockets
    · refine ⟨?_, rfl, ?_, fun payload' pending hrun => ?_⟩
      · rw [hhub, hover]
        exact hsockets
      · rw [hhub, hover]
        exact hsent
      · rw [hhub, hover] at hrun
        exact absurd hrun (loopTop_run _ payload' pending)

/-- After its wait `run` goes on to its next await. -/
theorem proceed_proceeds (projects : List Project) (s : FallibleHub) (triggered : Bool)
    (found : PyStr → Option Bool) : s.Proceeds (s.proceed projects triggered found) := by
  unfold proceed
  split
  · exact ⟨rfl, rfl, rfl, fun payload pending hrun => absurd hrun (loopTop_run _ payload pending)⟩
  · have hgo := goOn_proceeds { s with begun := s.begun + 1 } triggered
      (survey_frame found projects s.hub []).1 (survey_quiet found projects s.hub []).2.1
    exact ⟨hgo.sockets, hgo.failed, hgo.sentTo, hgo.run⟩

/-- Whether `has_codex_history` answers or raises, `run` goes on to its next await. -/
theorem answer_proceeds (s : FallibleHub) (history : Option Bool) (found : PyStr → Option Bool)
    (hasks : s.hub.run.Asks) : s.Proceeds (s.answer history found) := by
  unfold answer
  cases hrun : s.hub.run with
  | asking triggered done current rest =>
    dsimp only
    cases history with
    | none => exact goOn_proceeds s triggered rfl rfl
    | some history =>
      exact goOn_proceeds s triggered (survey_frame found rest s.hub _).1
        (survey_quiet found rest s.hub _).2.1
  | idle | waiting | broadcasting payload pending =>
    rw [hrun] at hasks
    exact hasks.elim

/-- `run` comes to its next await, from one outside a broadcast. -/
theorem Proceeds.cases (h : s.Proceeds s') (hpending : s.hub.run.pending = none) :
    (∃ payload, s.Sends s' payload) ∨ s.Follows s' := by
  have hbefore (ws : Ws) : s.hub.latest ws = s.hub.sentTo ws := Hub.latest_of_pending hpending ws
  cases hrun : s'.hub.run with
  | broadcasting payload pending =>
    obtain rfl := h.run payload pending hrun
    refine Or.inl ⟨payload, hpending, hrun, fun ws => ?_⟩
    rw [Hub.latest, hrun, hbefore, h.sentTo]
  | _ =>
    have hafter : s'.hub.run.pending = none := by rw [hrun]; rfl
    refine Or.inr (.of_latest (Or.inr hafter) fun ws => ?_)
    rw [Hub.latest_of_pending hafter, hbefore, h.sentTo]

/-- Whether a send returns or raises, it begins no broadcast. -/
theorem send_follows {ws : Ws} (hen : ws ∈ s.hub.run.pending.getD []) :
    s.Follows (s.sent ws) ∧ s.Follows (s.sendFails ws) := by
  cases hrun : s.hub.run with
  | broadcasting payload pending =>
    have hmem : ws ∈ pending := by rwa [hrun] at hen
    have hpending : s.hub.run.pending ≠ none := by
      rw [hrun]
      exact Option.some_ne_none _
    have hsent : (s.sent ws).hub = { s.hub with
        run := .broadcasting payload (pending.filter (· ≠ ws))
        sentTo := Function.update s.hub.sentTo ws (some payload) } := by
      rw [FallibleHub.sent, Hub.sent, hrun]
    have hfails : s.sendFails ws = { s with
        hub := { s.hub with run := .broadcasting payload (pending.filter (· ≠ ws)) }
        failed := ws :: s.failed } := by
      rw [FallibleHub.sendFails, hrun]
    have hother (other : Ws) (hne : other ≠ ws) :
        (s.sendFails ws).hub.latest other = s.hub.latest other := by
      simp [hfails, Hub.latest, hrun, List.mem_filter, hne]
    refine ⟨.of_latest (Or.inl hpending) fun other => ?_, Or.inl hpending, fun other hnone => ?_,
      fun other hplace => ?_⟩
    · rw [hsent]
      simp only [Hub.latest, hrun, List.mem_filter]
      by_cases hother : other = ws
      · subst hother
        simp [hmem]
      · simp [hother]
    · have hne : other ≠ ws := by
        rintro rfl
        simp [Hub.latest, hrun, hmem] at hnone
      exact (hother other hne).trans hnone
    · refine hother other fun hws => hplace ?_
      rw [hfails, hws]
      exact List.mem_cons_self
  | idle | waiting | asking triggered done current rest =>
    rw [hrun] at hen
    cases hen

/-- The end of a broadcast leaves what was sent. -/
theorem gathered_follows (hdone : s.hub.run.pending = some []) : s.Follows s.gathered := by
  cases hrun : s.hub.run with
  | broadcasting payload pending =>
    have hempty : pending = [] := by simpa [hrun, RunPc.pending] using hdone
    have hhub : s.gathered.hub = { s.hub with
        sockets := s.hub.sockets.filter (· ∉ s.failed), lastPayload := some payload }.loopTop := by
      simp [FallibleHub.gathered, Hub.gathered, hrun]
    have hafter : s.gathered.hub.run.pending = none := by
      rw [hhub]
      unfold Hub.loopTop
      dsimp only
      split <;> rfl
    refine .of_latest (Or.inr hafter) fun ws => ?_
    rw [Hub.latest_of_pending hafter, hhub]
    simp [Hub.latest, hrun, hempty, Hub.loopTop]
  | idle | waiting | asking triggered done current rest =>
    rw [hrun] at hdone
    cases hdone

/-- A step of the hub begins a broadcast, or leaves it at what was sent and is being sent. -/
theorem apply_cases (projects : List Project) {e : FallibleEvent} (hen : e.Enabled s) :
    (∃ payload, s.Sends (e.apply projects s) payload) ∨ s.Follows (e.apply projects s) := by
  -- A step that `run` does not take.
  have hother (s' : FallibleHub) (hrun : s'.hub.run = s.hub.run)
      (hsent : s'.hub.sentTo = s.hub.sentTo) : s.Follows s' := by
    refine .of_latest ?_ fun ws => by rw [Hub.latest, Hub.latest, hrun, hsent]
    rw [hrun]
    exact (eq_or_ne s.hub.run.pending none).symm
  cases e with
  | session e =>
    obtain ⟨hrun, -, -⟩ := HubEvent.ofSessions_frame projects hen.1 s.hub
    refine Or.inr (hother _ hrun ?_)
    cases e <;> first | rfl | exact absurd hen.1 (by simp [HubEvent.ofSessions])
  | add ws => exact Or.inr (hother (s.add ws) rfl rfl)
  | discard ws => exact Or.inr (hother { s with hub := s.hub.discard ws } rfl rfl)
  | wake found =>
    have hgo := proceed_proceeds projects s.clear true found
    exact Proceeds.cases ⟨hgo.sockets, hgo.failed, hgo.sentTo, hgo.run⟩
      (RunPc.pending_of_waits (Or.inl hen.1))
  | timeOut found =>
    have hrun : s.hub.run = .waiting := hen
    exact (proceed_proceeds projects s false found).cases (by rw [hrun]; rfl)
  | answer history found =>
    exact (s.answer_proceeds history found hen).cases (RunPc.pending_of_waits (Or.inr hen))
  | sent ws => exact Or.inr (send_follows hen).1
  | sendFails ws => exact Or.inr (send_follows hen).2
  | gathered => exact Or.inr (gathered_follows hen)

/-- A subscriber after a step was one before, or is added, and it does not get its place back. -/
theorem apply_places (projects : List Project) {e : FallibleEvent} (hen : e.Enabled s) {ws : Ws}
    (hws : ws ∈ (e.apply projects s).hub.sockets) :
    (ws ∈ s.hub.sockets ∧ (ws ∉ (e.apply projects s).failed → ws ∉ s.failed)) ∨ e = .add ws := by
  have hproceeds (s' : FallibleHub) (h : s.Proceeds s') (hws : ws ∈ s'.hub.sockets) :
      ws ∈ s.hub.sockets ∧ (ws ∉ s'.failed → ws ∉ s.failed) :=
    ⟨h.sockets ▸ hws, fun hplace => h.failed ▸ hplace⟩
  cases e with
  | session e =>
    have hsockets := (HubEvent.ofSessions_frame projects hen.1 s.hub).2.1
    exact Or.inl ⟨hsockets ▸ hws, id⟩
  | add ws' =>
    by_cases hsame : ws = ws'
    · exact Or.inr (by rw [hsame])
    · refine Or.inl ⟨?_, id⟩
      simp only [FallibleEvent.apply, FallibleHub.add, Hub.add, Hub.changed] at hws
      split at hws
      · exact hws
      · simpa [hsame] using hws
  | discard ws' => exact Or.inl ⟨(List.mem_filter.mp hws).1, id⟩
  | wake found =>
    have hgo := proceed_proceeds projects s.clear true found
    exact Or.inl (hproceeds _ ⟨hgo.sockets, hgo.failed, hgo.sentTo, hgo.run⟩ hws)
  | timeOut found => exact Or.inl (hproceeds _ (proceed_proceeds projects s false found) hws)
  | answer history found => exact Or.inl (hproceeds _ (s.answer_proceeds history found hen) hws)
  | sent ws' =>
    have hsockets : (s.sent ws').hub.sockets = s.hub.sockets := by
      cases hrun : s.hub.run <;> simp [FallibleHub.sent, Hub.sent, hrun]
    exact Or.inl ⟨hsockets ▸ hws, id⟩
  | sendFails ws' =>
    have hfails : (s.sendFails ws').hub.sockets = s.hub.sockets ∧
        (ws ∈ s.failed → ws ∈ (s.sendFails ws').failed) := by
      cases hrun : s.hub.run <;> simp [FallibleHub.sendFails, hrun]
      exact Or.inr
    exact Or.inl ⟨hfails.1 ▸ hws, fun hplace hfailed => hplace (hfails.2 hfailed)⟩
  | gathered =>
    have hsockets : s.gathered.hub.sockets = s.hub.sockets.filter (· ∉ s.failed) := by
      have hdone : s.hub.run.pending = some [] := hen
      cases hrun : s.hub.run with
      | broadcasting payload pending =>
        simp [FallibleHub.gathered, Hub.gathered, hrun, Hub.loopTop]
      | idle | waiting | asking triggered done current rest =>
        rw [hrun] at hdone
        cases hdone
    have hmem : ws ∈ s.gathered.hub.sockets := hws
    rw [hsockets] at hmem
    obtain ⟨hold, hkept⟩ := List.mem_filter.mp hmem
    exact Or.inl ⟨hold, fun _ => by simpa using hkept⟩

end FallibleHub

/-! ## The invariant -/

/-- What holds of the frames and the page at any time. -/
structure SidebarWorld.Relayed (st : SidebarWorld) : Prop where
  channel : st.channel.InOrder
  /-- A connection gets the broadcasts in their order. -/
  sorted : ∀ ws, (st.frames ws).Pairwise (·.number < ·.number)
  bound : ∀ ws, ∀ frame ∈ st.frames ws, frame.number ≤ st.broadcasts
  /-- Nothing has come through a connection that the page does not know. -/
  unknown : ∀ ws, st.channel.sockets ws = none → st.got ws = 0
  shown_le : st.shown ≤ st.broadcasts
  /-- What is still to come through the current socket is later than what is shown. -/
  ahead : ∀ ws, st.channel.socket = some ws →
    ∀ frame ∈ (st.frames ws).drop (st.got ws), st.shown < frame.number

/-- What the hub has sent to the connections of the page. -/
structure SidebarWorld.Tracked (st : SidebarWorld) : Prop where
  /-- A connection under way was made by the page, and nothing was sent to it. -/
  flight : ∀ ws ∈ st.flight, st.channel.sockets ws ≠ none ∧ st.Fresh ws
  nodup : st.flight.Nodup
  unsent : ∀ ws, st.frames ws = [] → st.hub.hub.latest ws = none
  /-- The last frame of a connection of the page, while it keeps its place, is the payload that it
  was sent last. -/
  latest : ∀ ws ∈ st.hub.hub.sockets, st.channel.sockets ws ≠ none → ws ∉ st.hub.failed →
    (st.frames ws).getLast?.map StatusFrame.payload = st.hub.hub.latest ws

namespace SidebarWorld

/-- The page shows what came last through the current socket. -/
def Seen (st : SidebarWorld) : Prop :=
  ∀ ws, st.channel.socket = some ws → st.got ws ≠ 0 →
    ∃ frame, (st.frames ws)[st.got ws - 1]? = some frame ∧
      st.channel.lastProjects = frame.payload

section

variable {projects : List Project} {st st' : SidebarWorld} {ws : Ws}

/-- The beginning of a broadcast. -/
def send (st : SidebarWorld) (payload : List StatusEntry) (pending : List Ws) : SidebarWorld :=
  { st with
    broadcasts := st.broadcasts + 1
    frames := fun ws =>
      if ws ∈ pending then st.frames ws ++ [⟨st.broadcasts + 1, payload⟩] else st.frames ws }

/-- A step of the hub sends a payload, or nothing. -/
theorem serve_cases (projects : List Project) {e : FallibleEvent} (hen : e.Enabled st.hub) :
    (∃ payload, st.hub.Sends (e.apply projects st.hub) payload ∧ st.serve projects e =
      { st.send payload st.hub.hub.sockets with hub := e.apply projects st.hub }) ∨
    st.hub.Follows (e.apply projects st.hub) ∧
      st.serve projects e = { st with hub := e.apply projects st.hub } := by
  rcases FallibleHub.apply_cases projects hen with ⟨payload, hsends⟩ | hfollows
  · refine Or.inl ⟨payload, hsends, ?_⟩
    simp only [serve, hsends.pending, hsends.run, send]
  · refine Or.inr ⟨hfollows, ?_⟩
    unfold serve
    dsimp only
    split
    · next payload pending hbefore hafter =>
      rcases hfollows.pending with hpending | hpending
      · exact absurd hbefore hpending
      · rw [hafter] at hpending
        cases hpending
    · rfl

/-- In a step of the server the hub takes its own step, and nothing else changes it. -/
theorem serve_hub (projects : List Project) (st : SidebarWorld) (e : FallibleEvent) :
    (st.serve projects e).hub = e.apply projects st.hub := by
  unfold serve
  dsimp only
  split <;> rfl

/-- The frames of a connection at the beginning of a broadcast. -/
theorem send_frames (st : SidebarWorld) (payload : List StatusEntry) (pending : List Ws) (ws : Ws) :
    (ws ∈ pending ∧
      (st.send payload pending).frames ws = st.frames ws ++ [⟨st.broadcasts + 1, payload⟩]) ∨
    ws ∉ pending ∧ (st.send payload pending).frames ws = st.frames ws := by
  by_cases hws : ws ∈ pending
  · exact Or.inl ⟨hws, if_pos hws⟩
  · exact Or.inr ⟨hws, if_neg hws⟩

/-- A step of the hub puts new frames behind those that each socket is to get, and keeps the
invariant of the delivery. -/
theorem Relayed.serve (h : st.Relayed) {e : FallibleEvent} (hen : e.Enabled st.hub) :
    (st.serve projects e).Relayed := by
  rcases serve_cases projects hen with ⟨payload, -, hserve⟩ | ⟨-, hserve⟩
  · rw [hserve]
    refine ⟨h.channel, fun ws => ?_, fun ws frame hframe => ?_, h.unknown,
      Nat.le_succ_of_le h.shown_le, fun ws hsocket frame hframe => ?_⟩
    · rcases send_frames st payload st.hub.hub.sockets ws with ⟨-, hframes⟩ | ⟨-, hframes⟩
      · refine hframes ▸ List.pairwise_append.mpr ⟨h.sorted ws, List.pairwise_singleton _ _, ?_⟩
        intro frame hframe last hlast
        obtain rfl := List.mem_singleton.mp hlast
        exact Nat.lt_succ_of_le (h.bound ws frame hframe)
      · exact hframes ▸ h.sorted ws
    · change frame.number ≤ st.broadcasts + 1
      rcases send_frames st payload st.hub.hub.sockets ws with ⟨-, hframes⟩ | ⟨-, hframes⟩
      · rcases List.mem_append.mp (hframes ▸ hframe) with hold | hnew
        · exact Nat.le_succ_of_le (h.bound ws frame hold)
        · exact Nat.le_of_eq (congrArg StatusFrame.number (List.mem_singleton.mp hnew))
      · exact Nat.le_succ_of_le (h.bound ws frame (hframes ▸ hframe))
    · rcases send_frames st payload st.hub.hub.sockets ws with ⟨-, hframes⟩ | ⟨-, hframes⟩
      · rw [show (st.send payload st.hub.hub.sockets).frames ws = _ from hframes,
          List.drop_append] at hframe
        rcases List.mem_append.mp hframe with hold | hnew
        · exact h.ahead ws hsocket frame hold
        · rw [List.mem_singleton.mp (List.mem_of_mem_drop hnew)]
          exact Nat.lt_succ_of_le h.shown_le
      · rw [show (st.send payload st.hub.hub.sockets).frames ws = _ from hframes] at hframe
        exact h.ahead ws hsocket frame hframe
  · rw [hserve]
    exact ⟨h.channel, h.sorted, h.bound, h.unknown, h.shown_le, h.ahead⟩

/-- The hub takes a step. A connection that it adds is not one of the page, or nothing was sent to
it. -/
theorem Tracked.serve (h : st.Tracked) {e : FallibleEvent} (hen : e.Enabled st.hub)
    (hadd : ∀ ws, e = .add ws →
      st.channel.sockets ws = none ∨ (ws ∉ st.flight ∧ st.Fresh ws)) :
    (st.serve projects e).Tracked := by
  -- A connection that is new to the hub has got nothing.
  have hplaces (ws : Ws) (hws : ws ∈ (e.apply projects st.hub).hub.sockets)
      (hknown : st.channel.sockets ws ≠ none) (hplace : ws ∉ (e.apply projects st.hub).failed) :
      (ws ∈ st.hub.hub.sockets ∧ ws ∉ st.hub.failed) ∨ st.Fresh ws := by
    rcases FallibleHub.apply_places projects hen hws with ⟨hold, hkept⟩ | hnew
    · exact Or.inl ⟨hold, hkept hplace⟩
    · rcases hadd ws hnew with hnone | ⟨-, hfresh⟩
      · exact absurd hnone hknown
      · exact Or.inr hfresh
  have hsockets (ws : Ws) (hws : ws ∈ st.flight) :
      ws ∉ (e.apply projects st.hub).hub.sockets := by
    obtain ⟨hknown, -, hnew⟩ := h.flight ws hws
    intro hmem
    rcases FallibleHub.apply_places projects hen hmem with ⟨hold, -⟩ | hevent
    · exact hnew hold
    · rcases hadd ws hevent with hnone | ⟨hother, -⟩
      · exact hknown hnone
      · exact hother hws
  rcases serve_cases projects hen with ⟨payload, hsends, hserve⟩ | ⟨hfollows, hserve⟩
  · rw [hserve]
    have hnone (ws : Ws) (hws : (st.send payload st.hub.hub.sockets).frames ws = []) :
        ws ∉ st.hub.hub.sockets ∧ st.frames ws = [] := by
      rcases send_frames st payload st.hub.hub.sockets ws with ⟨-, hframes⟩ | ⟨hmem, hframes⟩
      · rw [hframes] at hws
        exact absurd hws (by simp)
      · exact ⟨hmem, hframes ▸ hws⟩
    refine ⟨fun ws hws => ⟨(h.flight ws hws).1, ?_, hsockets ws hws⟩, h.nodup,
      fun ws hws => ?_, fun ws hws hknown hplace => ?_⟩
    · exact (if_neg (h.flight ws hws).2.2).trans (h.flight ws hws).2.1
    · obtain ⟨hmem, hframes⟩ := hnone ws hws
      rw [hsends.latest, if_neg hmem]
      exact h.unsent ws hframes
    · rw [hsends.latest]
      rcases hplaces ws hws hknown hplace with ⟨hold, -⟩ | hfresh
      · rw [if_pos hold, show (st.send payload st.hub.hub.sockets).frames ws = _ from if_pos hold,
          List.getLast?_concat, Option.map_some]
      · rw [if_neg hfresh.2, h.unsent ws hfresh.1,
          show (st.send payload st.hub.hub.sockets).frames ws = _ from
            (if_neg hfresh.2).trans hfresh.1]
        rfl
  · rw [hserve]
    refine ⟨fun ws hws => ⟨(h.flight ws hws).1, (h.flight ws hws).2.1, hsockets ws hws⟩, h.nodup,
      fun ws hws => hfollows.unsent ws (h.unsent ws hws), fun ws hws hknown hplace => ?_⟩
    rw [hfollows.latest ws hplace]
    rcases hplaces ws hws hknown hplace with ⟨hold, hkept⟩ | hfresh
    · exact h.latest ws hold hknown hkept
    · rw [h.unsent ws hfresh.1, show st.frames ws = [] from hfresh.1]
      rfl

/-- A broadcast that begins is not seen before it arrives. -/
theorem Seen.serve (hseen : st.Seen) {e : FallibleEvent} (hen : e.Enabled st.hub) :
    (st.serve projects e).Seen := by
  rcases serve_cases projects hen with ⟨payload, -, hserve⟩ | ⟨-, hserve⟩
  · rw [hserve]
    intro ws hsocket hgot
    obtain ⟨frame, hframe, hshows⟩ := hseen ws hsocket hgot
    refine ⟨frame, ?_, hshows⟩
    change ((st.send payload st.hub.hub.sockets).frames ws)[st.got ws - 1]? = some frame
    rcases send_frames st payload st.hub.hub.sockets ws with ⟨-, hframes⟩ | ⟨-, hframes⟩
    · rw [hframes, List.getElem?_append_left (List.getElem?_eq_some_iff.mp hframe).1]
      exact hframe
    · rw [hframes]
      exact hframe
  · rw [hserve]
    exact hseen

/-- A frame that arrives at an open socket keeps the invariant of the delivery. -/
theorem Relayed.receive (h : st.Relayed) {frame : StatusFrame}
    (hopen : st.channel.sockets ws = some .opened)
    (hframe : (st.frames ws)[st.got ws]? = some frame) : (st.receive ws frame).Relayed := by
  have hmessage : (ChannelEvent.message ws frame.payload).Enabled st.channel := hopen
  have hmem : frame ∈ st.frames ws := List.mem_of_getElem? hframe
  have hkept := st.channel.onMessage_frame ws frame.payload
  refine ⟨h.channel.apply hmessage, h.sorted, h.bound, fun ws' hnone => ?_, ?_,
    fun ws' hsocket later hlater => ?_⟩
  · have hother : ws' ≠ ws := by
      rintro rfl
      rw [show (st.receive ws' frame).channel.sockets = _ from hkept.2, hopen] at hnone
      cases hnone
    rw [show (st.receive ws frame).channel.sockets = _ from hkept.2] at hnone
    simpa [SidebarWorld.receive, hother] using h.unknown ws' hnone
  · change (if st.channel.socket = some ws then frame.number else st.shown) ≤ st.broadcasts
    split
    · exact h.bound ws frame hmem
    · exact h.shown_le
  · rw [show (st.receive ws frame).channel.socket = _ from hkept.1] at hsocket
    change (if st.channel.socket = some ws then frame.number else st.shown) < later.number
    change later ∈ (st.frames ws').drop (Function.update st.got ws (st.got ws + 1) ws') at hlater
    by_cases hws : ws' = ws
    · subst hws
      rw [if_pos hsocket]
      rw [Function.update_self] at hlater
      obtain ⟨hlt, hget⟩ := List.getElem?_eq_some_iff.mp hframe
      have hsorted := (h.sorted ws').sublist (List.drop_sublist (st.got ws') _)
      rw [List.drop_eq_getElem_cons hlt, hget] at hsorted
      exact (List.pairwise_cons.mp hsorted).1 later hlater
    · have hcurrent : st.channel.socket ≠ some ws := by
        rw [hsocket]
        simpa using hws
      rw [if_neg hcurrent]
      rw [Function.update_of_ne hws] at hlater
      exact h.ahead ws' hsocket later hlater

/-- A frame that arrives through the current socket is what the page shows. -/
theorem Seen.receive (hseen : st.Seen) {frame : StatusFrame}
    (hframe : (st.frames ws)[st.got ws]? = some frame) : (st.receive ws frame).Seen := by
  intro ws' hsocket hgot
  have hsame : (st.receive ws frame).channel.socket = _ := (st.channel.onMessage_frame ws _).1
  rw [hsame] at hsocket
  change ∃ last, (st.frames ws')[Function.update st.got ws (st.got ws + 1) ws' - 1]? = some last ∧
    (st.channel.onMessage ws frame.payload).lastProjects = last.payload
  by_cases hws : ws' = ws
  · subst hws
    refine ⟨frame, ?_, ?_⟩
    · rw [Function.update_self]
      exact hframe
    · rw [Channel.onMessage, if_neg (not_not.mpr hsocket)]
  · have hcurrent : st.channel.socket ≠ some ws := by
      rw [hsocket]
      simpa using hws
    change Function.update st.got ws (st.got ws + 1) ws' ≠ 0 at hgot
    rw [Function.update_of_ne hws] at hgot ⊢
    rw [Channel.onMessage, if_pos hcurrent]
    exact hseen ws' hsocket hgot

/-- The status channel of the page takes a step. -/
theorem Relayed.page (h : st.Relayed) {e : ChannelEvent} (hen : e.Enabled st.channel)
    (hmessage : ∀ ws payload, e ≠ .message ws payload)
    (hfresh : ∀ ws, e = .start ws ∨ e = .timer ws → st.Fresh ws ∧ st.channel.sockets ws = none) :
    { st with channel := e.apply st.channel }.Relayed := by
  refine ⟨h.channel.apply hen, h.sorted, h.bound,
    fun ws hnone => h.unknown ws (Channel.apply_sockets st.channel e hnone), h.shown_le,
    fun ws hsocket frame hframe => ?_⟩
  rcases h.channel.apply_socket hen hmessage hsocket with ⟨hbefore, -⟩ | hnew
  · exact h.ahead ws hbefore frame hframe
  · change frame ∈ (st.frames ws).drop (st.got ws) at hframe
    rw [(hfresh ws hnew).1.1, List.drop_nil] at hframe
    cases hframe

/-- A new socket has brought nothing yet, and a logout ends when there is no socket. -/
theorem Relayed.seen_page (h : st.Relayed) (hseen : st.Seen) {e : ChannelEvent}
    (hen : e.Enabled st.channel) (hmessage : ∀ ws payload, e ≠ .message ws payload)
    (hfresh : ∀ ws, e = .start ws ∨ e = .timer ws → st.Fresh ws ∧ st.channel.sockets ws = none)
    (hclear : e = .clear → st.channel.enabled = false) :
    ({ st with channel := e.apply st.channel } : SidebarWorld).Seen := by
  intro ws hsocket hgot
  rcases h.channel.apply_socket hen hmessage hsocket with ⟨hbefore, hsame⟩ | hnew
  · have hother : e ≠ .clear := by
      intro hlogout
      rw [(h.channel.disabled (hclear hlogout)).1] at hbefore
      cases hbefore
    rw [show (e.apply st.channel).lastProjects = _ from hsame hother]
    exact hseen ws hbefore hgot
  · exact absurd (h.unknown ws (hfresh ws hnew).2) hgot

/-- The status channel of the page takes a step, with the connections under way. -/
theorem Tracked.page (h : st.Tracked) (hchannel : st.channel.InOrder) {e : ChannelEvent}
    (hen : e.Enabled st.channel)
    (hfresh : ∀ ws, e = .start ws ∨ e = .timer ws → st.Fresh ws ∧ st.channel.sockets ws = none)
    (hmade : ∀ ws, e = .start ws ∨ e = .timer ws → (e.apply st.channel).sockets ws ≠ none) :
    ({ st with
        flight := (SidebarEvent.page e).flight st
        channel := e.apply st.channel } : SidebarWorld).Tracked := by
  have hold (ws : Ws) (hws : ws ∈ st.flight) :
      (e.apply st.channel).sockets ws ≠ none ∧ st.Fresh ws :=
    ⟨fun hnone => (h.flight ws hws).1 (st.channel.apply_sockets e hnone), (h.flight ws hws).2⟩
  -- The connections under way are those of before, with the socket that is new.
  have hflight : (SidebarEvent.page e).flight st = st.flight ∨
      ∃ ws, (SidebarEvent.page e).flight st = ws :: st.flight ∧
        (e = .start ws ∨ e = .timer ws) := by
    cases e with
    | start ws => exact Or.inr ⟨ws, rfl, Or.inl rfl⟩
    | timer ws => exact Or.inr ⟨ws, rfl, Or.inr rfl⟩
    | _ => exact Or.inl rfl
  refine ⟨fun ws hws => ?_, ?_, h.unsent, fun ws hws hknown hplace => ?_⟩
  · rcases hflight with hsame | ⟨new, hmore, hnew⟩
    · exact hold ws (hsame ▸ hws)
    · rcases List.mem_cons.mp (hmore ▸ hws) with rfl | hws
      · exact ⟨hmade ws hnew, (hfresh ws hnew).1⟩
      · exact hold ws hws
  · rcases hflight with hsame | ⟨new, hmore, hnew⟩
    · exact hsame ▸ h.nodup
    · refine hmore ▸ List.nodup_cons.mpr ⟨fun hws => ?_, h.nodup⟩
      exact (h.flight new hws).1 (hfresh new hnew).2
  · refine h.latest ws hws (fun hnone => ?_) hplace
    by_cases hnew : e = .start ws ∨ e = .timer ws
    · exact (hfresh ws hnew).1.2 hws
    · rw [not_or] at hnew
      exact hknown (hchannel.apply_unknown hen hnone hnew.1 hnew.2)

/-- The connections under way do not matter. -/
theorem Relayed.flight (h : st.Relayed) (flight : List Ws) :
    { st with flight := flight }.Relayed :=
  ⟨h.channel, h.sorted, h.bound, h.unknown, h.shown_le, h.ahead⟩

/-! ## Steps -/

/-- A step from one state to the next: nothing older is shown, and the list of projects changes
only with a later broadcast, except that a logout clears it. -/
structure Advances (st st' : SidebarWorld) : Prop where
  shown : st.shown ≤ st'.shown
  lastProjects : st'.shown = st.shown →
    st'.channel.lastProjects = st.channel.lastProjects ∨ st'.channel.lastProjects = []

/-- A step that shows the same broadcast, and whose list of projects is the same or empty, goes back
to nothing older. -/
theorem Advances.of_eq (hshown : st'.shown = st.shown)
    (hlist : st'.channel.lastProjects = st.channel.lastProjects ∨ st'.channel.lastProjects = []) :
    st.Advances st' :=
  ⟨Nat.le_of_eq hshown.symm, fun _ => hlist⟩

/-- Two steps, one after the other, go back to nothing older. -/
theorem Advances.trans {st'' : SidebarWorld} (h : st.Advances st') (h' : st'.Advances st'') :
    st.Advances st'' := by
  refine ⟨Nat.le_trans h.shown h'.shown, fun hsame => ?_⟩
  have hfirst : st'.shown = st.shown := Nat.le_antisymm (hsame ▸ h'.shown) h.shown
  rcases h'.lastProjects (hsame.trans hfirst.symm) with hlist | hnil
  · rw [hlist]
    exact h.lastProjects hfirst
  · exact Or.inr hnil

/-- The hub changes nothing on the page. -/
theorem serve_advances (projects : List Project) (st : SidebarWorld) (flight : List Ws)
    (e : FallibleEvent) : st.Advances ({ st with flight := flight }.serve projects e) := by
  have hpage : ({ st with flight := flight }.serve projects e).shown = st.shown ∧
      ({ st with flight := flight }.serve projects e).channel = st.channel := by
    unfold serve
    dsimp only
    split <;> exact ⟨rfl, rfl⟩
  exact .of_eq hpage.1 (Or.inl (congrArg Channel.lastProjects hpage.2))

/-- A frame that arrives is later than what is shown, or nobody looks at it. -/
theorem Relayed.receive_advances (h : st.Relayed) {frame : StatusFrame}
    (hframe : (st.frames ws)[st.got ws]? = some frame) : st.Advances (st.receive ws frame) := by
  by_cases hsocket : st.channel.socket = some ws
  · have hshown : (st.receive ws frame).shown = frame.number := if_pos hsocket
    have hlater : st.shown < frame.number := by
      obtain ⟨hlt, hget⟩ := List.getElem?_eq_some_iff.mp hframe
      refine h.ahead ws hsocket frame ?_
      rw [List.drop_eq_getElem_cons hlt, hget]
      exact List.mem_cons_self
    refine ⟨hshown ▸ Nat.le_of_lt hlater, fun hsame => absurd hsame ?_⟩
    rw [hshown]
    exact Nat.ne_of_gt hlater
  · refine .of_eq (if_neg hsocket) (Or.inl ?_)
    change (st.channel.onMessage ws frame.payload).lastProjects = st.channel.lastProjects
    rw [Channel.onMessage, if_pos hsocket]

/-- A step of the page is one of its status channel, where a new socket is fresh. -/
theorem page_parts {e : ChannelEvent} (hen : (SidebarEvent.page e).Enabled st) :
    e.Enabled st.channel ∧ (∀ ws payload, e ≠ .message ws payload) ∧
      ∀ ws, e = .start ws ∨ e = .timer ws → st.Fresh ws ∧ st.channel.sockets ws = none := by
  cases e with
  | start ws =>
    refine ⟨hen.1, by simp, fun ws' hws => ?_⟩
    obtain rfl : ws = ws' := by simpa using hws
    exact ⟨hen.2, hen.1⟩
  | timer ws =>
    refine ⟨hen.1, by simp, fun ws' hws => ?_⟩
    obtain rfl : ws = ws' := by simpa using hws
    exact ⟨hen.2, hen.1.2⟩
  | message ws payload => exact hen.elim
  | stop | clear | opened ws | closed ws code => exact ⟨hen, by simp, by simp⟩

/-- A step of the hub is one that it can take. -/
theorem hub_enabled {e : FallibleEvent} (hen : (SidebarEvent.hub e).Enabled st) :
    e.Enabled st.hub := by
  cases e with
  | add ws => trivial
  | _ => exact hen

/-- A socket that `start` or the timer makes is known. -/
theorem page_made (h : st.channel.InOrder) {e : ChannelEvent} (hen : e.Enabled st.channel) (ws : Ws)
    (hnew : e = .start ws ∨ e = .timer ws) : (e.apply st.channel).sockets ws ≠ none := by
  have hsocket : (e.apply st.channel).socket = some ws := by
    rcases hnew with rfl | rfl
    · exact h.start_socket ws
    · exact h.timer_socket hen.1 ws
  rcases ((h.apply hen).live ws).mpr hsocket with hlive | hlive <;>
  · rw [hlive]
    exact Option.some_ne_none _

/-- A frame can arrive at a socket that is open and has a frame that it did not get yet, and the
page then receives that frame. -/
theorem deliver_parts (projects : List Project)
    (hen : (SidebarEvent.deliver ws).Enabled st) :
    st.channel.sockets ws = some .opened ∧ ∃ frame, (st.frames ws)[st.got ws]? = some frame ∧
      (SidebarEvent.deliver ws).apply projects st = st.receive ws frame := by
  obtain ⟨hopen, hgot⟩ := hen
  have hframe : (st.frames ws)[st.got ws]? = some (st.frames ws)[st.got ws] :=
    List.getElem?_eq_getElem hgot
  exact ⟨hopen, _, hframe, by simp only [SidebarEvent.apply, SidebarEvent.flight, hframe]⟩

/-- Every step keeps the invariant, and what the page shows only advances. -/
theorem Relayed.step (h : st.Relayed) {e : SidebarEvent} (hen : e.Enabled st) :
    (e.apply projects st).Relayed ∧ st.Advances (e.apply projects st) := by
  have hflight := h.flight (e.flight st)
  cases e with
  | page e =>
    obtain ⟨hchannel, hmessage, hfresh⟩ := page_parts hen
    exact ⟨hflight.page hchannel hmessage hfresh,
      .of_eq rfl (st.channel.apply_lastProjects hmessage)⟩
  | arrive ws =>
    exact ⟨hflight.serve (e := .add ws) trivial, serve_advances projects st _ (.add ws)⟩
  | hub e =>
    exact ⟨hflight.serve (hub_enabled hen), serve_advances projects st st.flight e⟩
  | deliver ws =>
    obtain ⟨hopen, frame, hframe, hdeliver⟩ := deliver_parts projects hen
    rw [hdeliver]
    exact ⟨h.receive hopen hframe, h.receive_advances hframe⟩

/-- Every step keeps track of what was sent. -/
theorem Tracked.step (h : st.Tracked) (hrelayed : st.Relayed) {e : SidebarEvent}
    (hen : e.Enabled st) : (e.apply projects st).Tracked := by
  cases e with
  | page e =>
    obtain ⟨hchannel, -, hfresh⟩ := page_parts hen
    exact h.page hrelayed.channel hchannel hfresh (page_made hrelayed.channel hchannel)
  | arrive ws =>
    have hws : ws ∈ st.flight := hen
    have hrest : { st with flight := st.flight.erase ws }.Tracked :=
      ⟨fun other hother => h.flight other (List.mem_of_mem_erase hother),
        h.nodup.erase ws, h.unsent, h.latest⟩
    refine hrest.serve (e := .add ws) trivial fun other hother => Or.inr ?_
    obtain rfl := FallibleEvent.add.inj hother
    exact ⟨h.nodup.not_mem_erase, (h.flight ws hws).2⟩
  | hub e =>
    refine h.serve (hub_enabled hen) fun ws hadd => Or.inl ?_
    subst hadd
    exact hen
  | deliver ws =>
    obtain ⟨-, frame, -, hdeliver⟩ := deliver_parts projects hen
    rw [hdeliver]
    have hsockets := (st.channel.onMessage_frame ws frame.payload).2
    refine ⟨fun other hother => ?_, h.nodup, h.unsent, fun other hother hknown => ?_⟩
    · rw [show (st.receive ws frame).channel.sockets = _ from hsockets]
      exact h.flight other hother
    · rw [show (st.receive ws frame).channel.sockets = _ from hsockets] at hknown
      exact h.latest other hother hknown

/-- The hub takes a step of its own, or none. -/
theorem hub_step {e : SidebarEvent} (hen : e.Enabled st) (hkeeps : e.KeepsWake projects st)
    (h : st.hub.Flagged projects) : (e.apply projects st).hub.Flagged projects := by
  cases e with
  | page e => exact h
  | arrive ws =>
    have hserve : ((SidebarEvent.arrive ws).apply projects st).hub = _ :=
      serve_hub projects _ (.add ws)
    rw [hserve]
    exact h.step (.add ws) trivial trivial
  | hub e =>
    rw [show ((SidebarEvent.hub e).apply projects st).hub = _ from serve_hub projects _ e]
    exact h.step e (hub_enabled hen) hkeeps
  | deliver ws =>
    obtain ⟨-, frame, -, hdeliver⟩ := deliver_parts projects hen
    rw [hdeliver]
    exact h

/-- If logouts end before the next login, the page shows what came last. -/
theorem Relayed.seen_step (h : st.Relayed) (hseen : st.Seen) {e : SidebarEvent}
    (hen : e.Enabled st) (horderly : e.orderly st = true) : (e.apply projects st).Seen := by
  have hflight : { st with flight := e.flight st }.Seen := hseen
  cases e with
  | page e =>
    obtain ⟨hchannel, hmessage, hfresh⟩ := page_parts hen
    refine (h.flight _).seen_page hflight hchannel hmessage hfresh ?_
    rintro rfl
    simpa [SidebarEvent.orderly] using horderly
  | arrive ws => exact Seen.serve (e := .add ws) hflight trivial
  | hub e => exact Seen.serve hflight (hub_enabled hen)
  | deliver ws =>
    obtain ⟨-, frame, hframe, hdeliver⟩ := deliver_parts projects hen
    rw [hdeliver]
    exact hseen.receive hframe

/-- The invariant holds when the script has run. -/
theorem initial_relayed (ws : Ws) : (initial ws).Relayed where
  channel := Channel.initial_inOrder ws
  sorted _ := List.Pairwise.nil
  bound _ _ hframe := absurd hframe List.not_mem_nil
  unknown _ _ := rfl
  shown_le := Nat.le_refl 0
  ahead _ _ frame hframe := by
    rw [show (initial ws).frames _ = [] from rfl, List.drop_nil] at hframe
    cases hframe

/-- Nothing was sent when the script has run. -/
theorem initial_tracked (ws : Ws) : (initial ws).Tracked where
  flight other hother := by
    obtain rfl := List.mem_singleton.mp hother
    have hlive := ((Channel.initial_inOrder other).live other).mpr (by
      simp [Channel.initial, Channel.start, Channel.stop, Channel.closeSocket, Channel.connect,
        Channel.setState])
    refine ⟨?_, rfl, List.not_mem_nil⟩
    rcases hlive with hlive | hlive <;>
    · rw [show (initial other).channel = Channel.initial other from rfl, hlive]
      exact Option.some_ne_none _
  nodup := List.pairwise_singleton _ ws
  unsent _ _ := rfl
  latest _ hws := absurd hws List.not_mem_nil

/-- The invariant of the delivery holds in every state of every run. -/
theorem relayed_of_run
    (hrun : Run (sidebarSystem projects) (fun _ _ => True) (initial ws) st) : st.Relayed :=
  hrun.invariant (initial_relayed ws) fun _ _ h hen _ => (h.step hen).1

/-- If logouts end before the next login, the page shows what came last at any time. -/
theorem seen_of_run
    (hrun : Run (sidebarSystem projects) (fun st e => e.orderly st = true) (initial ws) st) :
    st.Relayed ∧ st.Tracked ∧ st.Seen := by
  induction hrun with
  | refl =>
    exact ⟨initial_relayed ws, initial_tracked ws, fun _ _ hgot => absurd rfl hgot⟩
  | step e _ hen horderly ih =>
    obtain ⟨hrelayed, htracked, hseen⟩ := ih
    exact ⟨(hrelayed.step hen).1, htracked.step hrelayed hen, hrelayed.seen_step hseen hen horderly⟩

/-- If the hub loses no wake-up, its subscribers have the flags of the sessions. -/
theorem flagged_of_run
    (hrun : Run (sidebarSystem projects) (fun st e => e.KeepsWake projects st) (initial ws) st) :
    st.hub.Flagged projects :=
  hrun.invariant (FallibleHub.flagged_initial projects) fun _ _ h hen hkeeps =>
    hub_step hen hkeeps h

/-- Along a run the page goes back to no older broadcast. -/
theorem Relayed.advances (h : st.Relayed)
    (hrun : Run (sidebarSystem projects) (fun _ _ => True) st st') : st.Advances st' := by
  have hboth : st'.Relayed ∧ st.Advances st' := by
    induction hrun with
    | refl => exact ⟨h, .of_eq rfl (Or.inl rfl)⟩
    | step e _ hen _ ih =>
      obtain ⟨hrelayed, hadvances⟩ := ih
      obtain ⟨hnext, hstep⟩ := hrelayed.step hen
      exact ⟨hnext, hadvances.trans hstep⟩
  exact hboth.2

end

end SidebarWorld

/-! ## Runs -/

section

variable {projects : List Project} {st st' : SidebarWorld} {ws : Ws}

/-- From any state of a run on, the page never shows an older broadcast after a later one, also
when it changes its socket, and the list changes only with a later broadcast or at a logout. -/
theorem sidebar_order
    (hrun : Run (sidebarSystem projects) (fun _ _ => True) (.initial ws) st)
    (hrest : Run (sidebarSystem projects) (fun _ _ => True) st st') :
    st.shown ≤ st'.shown ∧ (st'.shown = st.shown →
      st'.channel.lastProjects = st.channel.lastProjects ∨ st'.channel.lastProjects = []) := by
  obtain ⟨hshown, hlist⟩ := (SidebarWorld.relayed_of_run hrun).advances hrest
  exact ⟨hshown, hlist⟩

/-- The first snapshot of the page arrives. -/
def firstSnapshot : List SidebarEvent :=
  [.page (.opened 0), .arrive 0, .hub (.wake fun _ => some false),
    .hub (.answer (some true) fun _ => some false), .hub (.sent 0), .deliver 0, .hub .gathered]

/-- A session starts while the connection is lost, and the page connects again. A periodic snapshot
fails before that. -/
def secondSnapshot : List SidebarEvent :=
  [.hub (.timeOut fun _ => none), .page (.closed 0 1006), .hub (.discard 0),
    .hub (.session (.start ⟨demoProject.name, .claude⟩ 5 0)), .page (.timer 1), .page (.opened 1),
    .arrive 1, .hub (.wake fun _ => some false), .hub (.answer (some true) fun _ => some false),
    .hub (.sent 1), .hub .gathered, .deliver 1]

/-- The hypotheses hold in such a run. -/
theorem sidebar_order_lost :
    let st := (sidebarSystem [demoProject]).exec (.initial 0) firstSnapshot
    let st' := (sidebarSystem [demoProject]).exec st secondSnapshot
    st.shown ≤ st'.shown ∧ (st'.shown = st.shown →
      st'.channel.lastProjects = st.channel.lastProjects ∨ st'.channel.lastProjects = []) :=
  sidebar_order (System.Valid.run _ (by decide)) (System.Valid.run _ (by decide))

/-- When the hub waits with nothing to do and no `_handle_exit` is in progress, and everything that
was sent to the current socket has come through, the page shows all projects with the live flags
that their sessions have. Every logout has ended before the next login, and no snapshot that the hub
was woken for has raised without `_dirty` being set again. -/
theorem sidebar_current
    (hrun : Run (sidebarSystem projects)
      (fun st e => e.orderly st = true ∧ e.KeepsWake projects st) (.initial ws) st)
    (hwaits : st.hub.hub.run.Waits) (hdirty : st.hub.hub.dirty = false)
    (hexits : ∀ sid wasLive, st.hub.hub.registry.exits sid ≠ .waiting wasLive) (current : Ws)
    (hsocket : st.channel.socket = some current) (hmem : current ∈ st.hub.hub.sockets)
    (hgot : st.got current = (st.frames current).length) :
    st.channel.lastProjects.map StatusEntry.project = projects ∧
      ∀ entry ∈ st.channel.lastProjects, ∀ agent,
        entry.flag agent = st.hub.hub.registry.isLive ⟨entry.project.name, agent⟩ := by
  obtain ⟨h, htracked, hseenLast⟩ :=
    SidebarWorld.seen_of_run (hrun.mono fun _ _ hboth => hboth.1)
  have hflagged := SidebarWorld.flagged_of_run (hrun.mono fun _ _ hboth => hboth.2)
  obtain ⟨payload, hsent, hprojects, hentries⟩ := hflagged.told hwaits hmem hdirty
  have hpending := RunPc.pending_of_waits (Or.inl hwaits)
  have hknown : st.channel.sockets current ≠ none := by
    rcases (h.channel.live current).mpr hsocket with hlive | hlive <;>
    · rw [hlive]
      exact Option.some_ne_none _
  have hplace : current ∉ st.hub.failed := by
    rw [hflagged.failed hpending]
    exact List.not_mem_nil
  -- The payload that the hub has sent last is the last frame, which the page has got.
  have hlast := htracked.latest current hmem hknown hplace
  rw [Hub.latest_of_pending hpending, hsent] at hlast
  obtain ⟨frame, hframe, hpayload⟩ := Option.map_eq_some_iff.mp hlast
  rw [List.getLast?_eq_getElem?] at hframe
  have hpos : st.got current ≠ 0 := by
    have hlt := (List.getElem?_eq_some_iff.mp hframe).1
    omega
  obtain ⟨seen, hseen, hshows⟩ := hseenLast current hsocket hpos
  rw [hgot, hframe] at hseen
  have hlist : st.channel.lastProjects = payload := by
    rw [hshows, ← Option.some.inj hseen, hpayload]
  rw [hlist]
  refine ⟨hprojects, fun entry hentry agent => ?_⟩
  refine hentries entry hentry agent hdirty ?_
  rintro ⟨sid, hsid⟩
  exact hexits sid true hsid

/-- The hypotheses hold at the end of such a run. -/
theorem sidebar_current_lost :
    let st := (sidebarSystem [demoProject]).exec (.initial 0) (firstSnapshot ++ secondSnapshot)
    st.channel.lastProjects.map StatusEntry.project = [demoProject] ∧
      ∀ entry ∈ st.channel.lastProjects, ∀ agent,
        entry.flag agent = st.hub.hub.registry.isLive ⟨entry.project.name, agent⟩ :=
  sidebar_current (System.Valid.guardedRun _ (by decide)) (by decide) (by decide)
    (by rintro _ _ ⟨⟩) 1 (by decide) (by decide) (by decide)

example : ((sidebarSystem [demoProject]).exec (.initial 0)
    (firstSnapshot ++ secondSnapshot)).channel.lastProjects.map StatusEntry.live = [true] := by
  decide

end

end WTerm
