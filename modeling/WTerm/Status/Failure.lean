import WTerm.Status.HubSteps

/-!
# Snapshots that fail

`latest_session_id` and `has_codex_history` can raise, and a send can fail. `run` logs a failed
snapshot and goes on with its loop, but it has already cleared `_dirty`, and whether it was woken
is forgotten. Here the hub has these failures, and a history of who was added before which
snapshot and who has got which.
-/

namespace WTerm

open Transition

/-- How far a snapshot comes without an await. -/
inductive Survey where
  | complete (payload : List StatusEntry)
  /-- It waits for `has_codex_history` of the current project. -/
  | asks (done : List StatusEntry) (current : StatusEntry) (rest : List Project)
  | raised
  deriving DecidableEq

/-- The next projects of a snapshot. `found` is what `latest_session_id` sees, unless it raises. -/
def survey (found : PyStr → Option Bool) : Hub → List StatusEntry → List Project → Hub × Survey
  | h, done, [] => (h, .complete done)
  | h, done, project :: rest =>
    if project.ssh.isSome then
      survey found (h.purgeProject project) (done ++ [h.readProject (fun _ => true) project]) rest
    else
      match found project.path with
      | none => (h.purgeProject project, .raised)
      | some history =>
        (h.purgeProject project, .asks done (h.readProject (fun _ => history) project) rest)

/-- The hub, with its failures and the history of its subscribers. -/
structure FallibleHub where
  hub : Hub := {}
  /-- The sends of the broadcast that have raised. -/
  failed : List Ws := []
  /-- History: how many snapshots have begun. -/
  begun : ℕ := 0
  /-- History: the number of the last snapshot that succeeded, once its iteration is over. -/
  completed : ℕ := 0
  /-- History: how many snapshots had begun when a subscriber was added. -/
  joined : Ws → ℕ := fun _ => 0
  /-- History: the number of the last snapshot that was sent to a subscriber. -/
  served : Ws → ℕ := fun _ => 0

namespace FallibleHub

/-- `run` goes on with what a snapshot has come to. A failed one leads to the head of the loop. -/
def goOn (s : FallibleHub) (triggered : Bool) : Hub × Survey → FallibleHub
  | (h, .raised) => { s with hub := h.loopTop }
  | (h, .asks done current rest) =>
    { s with hub := { h with run := .asking triggered done current rest } }
  | (h, .complete payload) =>
    { s with
      hub := h.deliver triggered payload
      completed := if (h.deliver triggered payload).run.Waits then s.begun else s.completed }

/-- `run` goes on after its wait: a snapshot begins, if there are subscribers. -/
def proceed (projects : List Project) (s : FallibleHub) (triggered : Bool)
    (found : PyStr → Option Bool) : FallibleHub :=
  if s.hub.sockets = [] then { s with hub := s.hub.loopTop }
  else { s with begun := s.begun + 1 }.goOn triggered (survey found s.hub [] projects)

/-- `_dirty.clear()`. -/
def clear (s : FallibleHub) : FallibleHub := { s with hub := { s.hub with dirty := false } }

/-- What a snapshot comes to when `has_codex_history` answers or raises. -/
def answered (s : FallibleHub) (done : List StatusEntry) (current : StatusEntry)
    (rest : List Project) (history : Option Bool) (found : PyStr → Option Bool) : Hub × Survey :=
  match history with
  | none => (s.hub, .raised)
  | some history =>
    survey found s.hub (done ++ [{ current with codexHasHistory := history }]) rest

/-- `has_codex_history` answers or raises. -/
def answer (s : FallibleHub) (history : Option Bool) (found : PyStr → Option Bool) : FallibleHub :=
  match s.hub.run with
  | .asking triggered done current rest =>
    s.goOn triggered (s.answered done current rest history found)
  | _ => s

/-- `add`. -/
def add (s : FallibleHub) (ws : Ws) : FallibleHub :=
  { s with
    hub := s.hub.add ws
    joined := if ws ∈ s.hub.sockets then s.joined else Function.update s.joined ws s.begun }

/-- A send of the broadcast returns. -/
def sent (s : FallibleHub) (ws : Ws) : FallibleHub :=
  { s with hub := s.hub.sent ws, served := Function.update s.served ws s.begun }

/-- A send of the broadcast raises. -/
def sendFails (s : FallibleHub) (ws : Ws) : FallibleHub :=
  match s.hub.run with
  | .broadcasting payload pending =>
    { s with
      hub := { s.hub with run := .broadcasting payload (pending.filter (· ≠ ws)) }
      failed := ws :: s.failed }
  | _ => s

/-- All sends of the broadcast are over, and those that raised cost the subscriber its place. -/
def gathered (s : FallibleHub) : FallibleHub :=
  { s with
    hub := { s.hub with sockets := s.hub.sockets.filter (· ∉ s.failed) }.gathered
    failed := []
    completed := s.begun }

end FallibleHub

/-- A step of the sessions. -/
def HubEvent.ofSessions : HubEvent → Bool
  | .start _ _ _ | .terminate _ | .terminated _ | .purge _ | .exit _ _ | .exitReturns _ => true
  | _ => false

/-- The steps of the hub, with their failures. -/
inductive FallibleEvent where
  | session (e : HubEvent)
  | add (ws : Ws)
  | discard (ws : Ws)
  | wake (found : PyStr → Option Bool)
  | timeOut (found : PyStr → Option Bool)
  | answer (history : Option Bool) (found : PyStr → Option Bool)
  | sent (ws : Ws)
  | sendFails (ws : Ws)
  | gathered

namespace FallibleEvent

/-- When an event can happen. -/
def Enabled (s : FallibleHub) : FallibleEvent → Prop
  | .session e => e.ofSessions = true ∧ e.Enabled s.hub
  | .add _ | .discard _ => True
  | .wake _ => s.hub.run.Waits ∧ s.hub.dirty = true
  | .timeOut _ => s.hub.run = .waiting
  | .answer _ _ => s.hub.run.Asks
  | .sent ws | .sendFails ws => ws ∈ s.hub.run.pending.getD []
  | .gathered => s.hub.run.pending = some []

instance (s : FallibleHub) : (e : FallibleEvent) → Decidable (e.Enabled s)
  | .session _ | .wake _ => inferInstanceAs (Decidable (_ ∧ _))
  | .add _ | .discard _ => inferInstanceAs (Decidable True)
  | .timeOut _ | .gathered => inferInstanceAs (Decidable (_ = _))
  | .answer _ _ => inferInstanceAs (Decidable (RunPc.Asks _))
  | .sent _ | .sendFails _ => inferInstanceAs (Decidable (_ ∈ _))

/-- The state after an event. -/
def apply (projects : List Project) (s : FallibleHub) : FallibleEvent → FallibleHub
  | .session e => { s with hub := e.apply projects s.hub }
  | .add ws => s.add ws
  | .discard ws => { s with hub := s.hub.discard ws }
  | .wake found => s.clear.proceed projects true found
  | .timeOut found => s.proceed projects false found
  | .answer history found => s.answer history found
  | .sent ws => s.sent ws
  | .sendFails ws => s.sendFails ws
  | .gathered => s.gathered

end FallibleEvent

/-- The transition system of the hub with failures. -/
def fallibleSystem (projects : List Project) : System FallibleHub FallibleEvent where
  Enabled := FallibleEvent.Enabled
  apply := FallibleEvent.apply projects

instance (projects : List Project) (s : FallibleHub) (e : FallibleEvent) :
    Decidable ((fallibleSystem projects).Enabled s e) :=
  inferInstanceAs (Decidable (e.Enabled s))

namespace FallibleHub

/-- After each iteration whose snapshot succeeded: every subscriber that was added before the
snapshot began has been sent a payload of a snapshot that began after it was added. -/
def CaughtUp (s : FallibleHub) : Prop :=
  ∀ ws ∈ s.hub.sockets, s.joined ws < s.completed → s.joined ws < s.served ws

instance (s : FallibleHub) : Decidable s.CaughtUp :=
  inferInstanceAs (Decidable (∀ ws ∈ s.hub.sockets, _ → _))

/-- A subscriber has not been sent a payload since it was added. -/
def Owes (s : FallibleHub) : Prop := ∃ ws ∈ s.hub.sockets, s.served ws ≤ s.joined ws

instance (s : FallibleHub) : Decidable s.Owes :=
  inferInstanceAs (Decidable (∃ ws ∈ s.hub.sockets, _))

/-- The answer makes the snapshot of a woken iteration raise. -/
def wokenRaises (s : FallibleHub) (history : Option Bool) (found : PyStr → Option Bool) : Bool :=
  match s.hub.run with
  | .asking true done current rest => (s.answered done current rest history found).2 = .raised
  | _ => false

/-- A step loses no trigger that a subscriber waits for: no snapshot of a woken iteration raises
with `_dirty` unset, and no wait times out with `_dirty` set. -/
def KeepsTrigger (projects : List Project) (s : FallibleHub) : FallibleEvent → Prop
  | .wake found => (survey found s.clear.hub [] projects).2 = .raised → ¬s.Owes
  | .timeOut _ => s.hub.dirty = true → ¬s.Owes
  | .answer history found => s.wokenRaises history found = true → s.hub.dirty = false → ¬s.Owes
  | _ => True

instance (projects : List Project) (s : FallibleHub) :
    (e : FallibleEvent) → Decidable (s.KeepsTrigger projects e)
  | .wake _ | .timeOut _ => inferInstanceAs (Decidable (_ → _))
  | .answer _ _ => inferInstanceAs (Decidable (_ → _ → _))
  | .session _ | .add _ | .discard _ | .sent _ | .sendFails _ | .gathered =>
    inferInstanceAs (Decidable True)

/-! ## The history of the subscribers -/

/-- Every subscriber from before the current snapshot has been sent a payload. -/
def AllServed (s : FallibleHub) : Prop :=
  ∀ ws ∈ s.hub.sockets, s.joined ws < s.begun → s.joined ws < s.served ws

/-- The numbers of the history. -/
structure Counts (s : FallibleHub) : Prop where
  joined_le : ∀ ws ∈ s.hub.sockets, s.joined ws ≤ s.begun
  served_le : ∀ ws, s.served ws ≤ s.begun
  completed_le : s.completed ≤ s.begun
  caughtUp : s.CaughtUp

/-- A subscriber that was added since the current snapshot began has set `_dirty`. -/
def Fresh (s : FallibleHub) : Prop :=
  ∀ ws ∈ s.hub.sockets, s.joined ws = s.begun → s.hub.dirty = true

/-- Who has been sent a payload, at each of the awaits of `run`. -/
def Phase (s : FallibleHub) : Prop :=
  match s.hub.run with
  | .idle | .waiting => s.hub.dirty = false → s.AllServed
  | .asking triggered _ _ _ => triggered = false → s.AllServed
  | .broadcasting _ pending => ∀ ws ∈ s.hub.sockets, s.joined ws < s.begun →
      s.joined ws < s.served ws ∨ ws ∈ pending ∨ ws ∈ s.failed

/-- The invariant of the hub with failures. -/
structure Invariant (s : FallibleHub) : Prop where
  counts : s.Counts
  fresh : s.Fresh
  phase : s.Phase

variable {projects : List Project} {s s' : FallibleHub}

/-- While nobody waits for a payload, all are served, whatever has begun. -/
theorem allServed_of_not_owes (h : ¬s.Owes) : ∀ ws ∈ s.hub.sockets, s.joined ws < s.served ws := by
  intro ws hws
  by_contra hle
  exact h ⟨ws, hws, Nat.le_of_not_lt hle⟩

/-- With `_dirty` unset nobody has been added since the current snapshot began. -/
theorem Counts.not_owes (hcounts : s.Counts) (hfresh : s.Fresh) (hserved : s.AllServed)
    (hdirty : s.hub.dirty = false) : ¬s.Owes := by
  rintro ⟨ws, hws, hle⟩
  rcases Nat.lt_or_eq_of_le (hcounts.joined_le ws hws) with hlt | heq
  · exact absurd (hserved ws hws hlt) (Nat.not_lt.mpr hle)
  · simp [hfresh ws hws heq] at hdirty

/-- A step beside `run` keeps the invariant: whoever is new has set `_dirty`. -/
theorem Invariant.mono (hinv : s.Invariant) (hrun : s'.hub.run = s.hub.run)
    (hdirty : s.hub.dirty = true → s'.hub.dirty = true) (hbegun : s'.begun = s.begun)
    (hcompleted : s'.completed = s.completed) (hserved : s'.served = s.served)
    (hfailed : s'.failed = s.failed)
    (hsockets : ∀ ws ∈ s'.hub.sockets, (ws ∈ s.hub.sockets ∧ s'.joined ws = s.joined ws) ∨
      (s'.joined ws = s.begun ∧ s'.hub.dirty = true)) : s'.Invariant := by
  have hall : s.AllServed → s'.AllServed := by
    intro hall ws hws hlt
    rcases hsockets ws hws with ⟨hold, hjoined⟩ | ⟨hjoined, -⟩
    · rw [hjoined, hbegun] at hlt
      rw [hjoined, hserved]
      exact hall ws hold hlt
    · omega
  refine ⟨⟨?_, ?_, ?_, ?_⟩, ?_, ?_⟩
  · intro ws hws
    rcases hsockets ws hws with ⟨hold, hjoined⟩ | ⟨hjoined, -⟩
    · rw [hjoined, hbegun]
      exact hinv.counts.joined_le ws hold
    · exact Nat.le_of_eq (hjoined.trans hbegun.symm)
  · rw [hserved, hbegun]
    exact hinv.counts.served_le
  · rw [hcompleted, hbegun]
    exact hinv.counts.completed_le
  · intro ws hws hlt
    rcases hsockets ws hws with ⟨hold, hjoined⟩ | ⟨hjoined, -⟩
    · rw [hjoined, hcompleted] at hlt
      rw [hjoined, hserved]
      exact hinv.counts.caughtUp ws hold hlt
    · have hle := hinv.counts.completed_le
      omega
  · intro ws hws heq
    rcases hsockets ws hws with ⟨hold, hjoined⟩ | ⟨-, hset⟩
    · exact hdirty (hinv.fresh ws hold (by rw [← hjoined, heq, hbegun]))
    · exact hset
  · have hphase := hinv.phase
    unfold Phase at hphase ⊢
    rw [hrun]
    cases hpc : s.hub.run with
    | idle | waiting =>
      simp only [hpc] at hphase ⊢
      intro hclean
      refine hall (hphase ?_)
      by_contra hset
      simp [hdirty (by simpa using hset)] at hclean
    | asking triggered done current rest =>
      simp only [hpc] at hphase ⊢
      exact fun htriggered => hall (hphase htriggered)
    | broadcasting payload pending =>
      simp only [hpc] at hphase ⊢
      intro ws hws hlt
      rcases hsockets ws hws with ⟨hold, hjoined⟩ | ⟨hjoined, -⟩
      · rw [hjoined, hbegun] at hlt
        rw [hjoined, hserved, hfailed]
        exact hphase ws hold hlt
      · omega

/-! ### Steps of `run` -/

/-- `run` waits, with `_dirty` set or everybody served. -/
theorem phase_of_waits (hwaits : s.hub.run.Waits) (hserved : s.hub.dirty = false → s.AllServed) :
    s.Phase := by
  cases hpc : s.hub.run with
  | idle | waiting =>
    simp only [Phase, hpc]
    exact hserved
  | asking _ _ _ _ | broadcasting _ _ =>
    rw [hpc] at hwaits
    exact hwaits.elim

end FallibleHub

/-- At the head of its loop `run` waits. -/
theorem Hub.loopTop_waits (h : Hub) : h.loopTop.run.Waits := by
  unfold Hub.loopTop
  split_ifs <;> trivial

/-- A complete snapshot is sent to all, or `run` waits again: then it was neither woken nor is
anything new, or nobody is there. -/
theorem Hub.deliver_cases (h : Hub) (triggered : Bool) (payload : List StatusEntry) :
    (h.deliver triggered payload = { h with run := .broadcasting payload h.sockets }) ∨
      (h.deliver triggered payload = { h with lastPayload := some payload }.loopTop ∧
        (h.sockets = [] ∨ triggered = false)) := by
  unfold Hub.deliver Hub.broadcast
  by_cases hnew : triggered = true ∨ some payload ≠ h.lastPayload
  · by_cases hsockets : h.sockets = []
    · right
      simp [hnew, hsockets]
    · left
      simp [hnew, hsockets]
  · right
    rw [if_neg hnew]
    refine ⟨rfl, Or.inr ?_⟩
    by_contra htriggered
    exact hnew (Or.inl (by simpa using htriggered))

/-- A snapshot leaves the subscribers and `_dirty` alone. -/
theorem survey_frame (found : PyStr → Option Bool) (rest : List Project) :
    ∀ (h : Hub) (done : List StatusEntry),
      (survey found h done rest).1.sockets = h.sockets ∧
        (survey found h done rest).1.dirty = h.dirty := by
  induction rest with
  | nil => exact fun h done => ⟨rfl, rfl⟩
  | cons project rest ih =>
    intro h done
    rw [survey]
    split
    · exact ih (h.purgeProject project) _
    · split <;> exact ⟨rfl, rfl⟩

namespace FallibleHub

variable {projects : List Project} {s s' : FallibleHub}

/-- `run` goes on with a snapshot: it was woken, or everybody is served, and a failed snapshot
forgets no subscriber. -/
theorem goOn_invariant {triggered : Bool} {r : Hub × Survey} (hcounts : s.Counts)
    (hfresh : s.Fresh) (hsockets : r.1.sockets = s.hub.sockets) (hdirty : r.1.dirty = s.hub.dirty)
    (hserved : triggered = false → s.AllServed)
    (hraised : r.2 = .raised → triggered = true → s.hub.dirty = false → ¬s.Owes) :
    (s.goOn triggered r).Invariant := by
  obtain ⟨h, outcome⟩ := r
  simp only at hsockets hdirty hraised
  -- The history and the subscribers are those of before, whatever else the hub does.
  have hcounts' : ∀ h' : Hub, h'.sockets = h.sockets → { s with hub := h' }.Counts := by
    intro h' hsockets'
    have hsame : h'.sockets = s.hub.sockets := hsockets'.trans hsockets
    refine ⟨?_, hcounts.served_le, hcounts.completed_le, ?_⟩
    · simpa only [hsame] using hcounts.joined_le
    · simpa only [CaughtUp, hsame] using hcounts.caughtUp
  have hfresh' : ∀ h' : Hub, h'.sockets = h.sockets → h'.dirty = h.dirty →
      { s with hub := h' }.Fresh := by
    intro h' hsockets' hdirty'
    simpa only [Fresh, hsockets'.trans hsockets, hdirty'.trans hdirty] using hfresh
  have hall : s.AllServed → ∀ h' : Hub, h'.sockets = h.sockets →
      { s with hub := h' }.AllServed := by
    intro hall h' hsockets'
    simpa only [AllServed, hsockets'.trans hsockets] using hall
  cases outcome with
  | raised =>
    refine ⟨hcounts' h.loopTop rfl, hfresh' h.loopTop rfl rfl,
      phase_of_waits h.loopTop_waits fun hclean => hall ?_ h.loopTop rfl⟩
    have hclean' : s.hub.dirty = false := hdirty ▸ hclean
    cases triggered with
    | false => exact hserved rfl
    | true => exact fun ws hws _ => allServed_of_not_owes (hraised rfl rfl hclean') ws hws
  | asks done current rest =>
    exact ⟨hcounts' _ rfl, hfresh' _ rfl rfl, fun htriggered => hall (hserved htriggered) _ rfl⟩
  | complete payload =>
    rcases h.deliver_cases triggered payload with hsend | ⟨hover, hwhy⟩
    · have hgo : s.goOn triggered (h, .complete payload) =
          { s with hub := { h with run := .broadcasting payload h.sockets } } := by
        simp only [goOn, hsend]
        rfl
      rw [hgo]
      exact ⟨hcounts' _ rfl, hfresh' _ rfl rfl, fun ws hws _ => Or.inr (Or.inl hws)⟩
    · have hgo : s.goOn triggered (h, .complete payload) =
          { s with
            hub := { h with lastPayload := some payload }.loopTop
            completed := s.begun } := by
        simp only [goOn, hover, Hub.loopTop_waits, if_true]
      have heverybody : s.AllServed := by
        rcases hwhy with hempty | htriggered
        · intro ws hws
          simp [← hsockets, hempty] at hws
        · exact hserved htriggered
      have hnow := hall heverybody { h with lastPayload := some payload }.loopTop rfl
      rw [hgo]
      refine ⟨⟨(hcounts' _ rfl).joined_le, hcounts.served_le, Nat.le_refl _, hnow⟩,
        hfresh' { h with lastPayload := some payload }.loopTop rfl rfl, ?_⟩
      exact phase_of_waits (Hub.loopTop_waits _) fun _ => hnow

/-- A snapshot begins: `run` was woken, or nobody waits for a payload. -/
theorem proceed_invariant {triggered : Bool} {found : PyStr → Option Bool} (hcounts : s.Counts)
    (howes : triggered = false → ¬s.Owes)
    (hraised : (survey found s.hub [] projects).2 = .raised → triggered = true → ¬s.Owes) :
    (s.proceed projects triggered found).Invariant := by
  unfold proceed
  split
  · next hempty =>
    have hnone : ∀ ws, ws ∉ s.hub.loopTop.sockets := by
      intro ws hws
      simp [show s.hub.loopTop.sockets = [] from hempty] at hws
    refine ⟨⟨hcounts.joined_le, hcounts.served_le, hcounts.completed_le, hcounts.caughtUp⟩, ?_, ?_⟩
    · exact fun ws hws => absurd hws (hnone ws)
    · exact phase_of_waits s.hub.loopTop_waits fun _ ws hws => absurd hws (hnone ws)
  · obtain ⟨hsockets, hdirty⟩ := survey_frame found projects s.hub []
    refine goOn_invariant ?_ ?_ hsockets hdirty ?_ fun h htriggered _ => hraised h htriggered
    · exact ⟨fun ws hws => Nat.le_succ_of_le (hcounts.joined_le ws hws),
        fun ws => Nat.le_succ_of_le (hcounts.served_le ws),
        Nat.le_succ_of_le hcounts.completed_le, hcounts.caughtUp⟩
    · intro ws hws heq
      have hle := hcounts.joined_le ws hws
      simp only at heq
      omega
    · exact fun htriggered ws hws _ => allServed_of_not_owes (howes htriggered) ws hws

/-- The invariant is kept whether `has_codex_history` answers or raises, unless the iteration was
woken, raises and forgets it. -/
theorem Invariant.answer (hinv : s.Invariant) {history : Option Bool}
    {found : PyStr → Option Bool}
    (hkeeps : s.wokenRaises history found = true → s.hub.dirty = false → ¬s.Owes) :
    (s.answer history found).Invariant := by
  unfold FallibleHub.answer
  cases hpc : s.hub.run with
  | idle | waiting | broadcasting _ _ => exact hinv
  | asking triggered done current rest =>
    have hphase := hinv.phase
    simp only [Phase, hpc] at hphase
    have hframe : (s.answered done current rest history found).1.sockets = s.hub.sockets ∧
        (s.answered done current rest history found).1.dirty = s.hub.dirty := by
      cases history with
      | none => exact ⟨rfl, rfl⟩
      | some history => exact survey_frame found rest s.hub _
    refine goOn_invariant hinv.counts hinv.fresh hframe.1 hframe.2 hphase
      fun hraised htriggered => ?_
    subst htriggered
    refine hkeeps ?_
    simp [wokenRaises, hpc, hraised]

/-- A send returns: its subscriber has the payload of the current snapshot. -/
theorem Invariant.sent (hinv : s.Invariant) {ws : Ws} (hen : ws ∈ s.hub.run.pending.getD []) :
    (s.sent ws).Invariant := by
  have hserved : ∀ other, s.served other ≤ (s.sent ws).served other := by
    intro other
    by_cases hne : other = ws
    · subst hne
      simpa [FallibleHub.sent] using hinv.counts.served_le other
    · simp [FallibleHub.sent, Function.update_of_ne hne]
  cases hpc : s.hub.run with
  | idle | waiting | asking _ _ _ _ => simp [hpc, RunPc.pending] at hen
  | broadcasting payload pending =>
    have hphase := hinv.phase
    simp only [Phase, hpc] at hphase
    have hhub : (s.sent ws).hub =
        { s.hub with
          run := .broadcasting payload (pending.filter (· ≠ ws))
          sentTo := Function.update s.hub.sentTo ws (some payload) } := by
      simp [FallibleHub.sent, Hub.sent, hpc]
    obtain ⟨hjoined, hle, hcompleted, hcaught⟩ := hinv.counts
    refine ⟨⟨?_, ?_, hcompleted, ?_⟩, ?_, ?_⟩
    · rw [hhub]
      exact hjoined
    · intro other
      by_cases hne : other = ws
      · subst hne
        simp [FallibleHub.sent]
      · simpa [FallibleHub.sent, Function.update_of_ne hne] using hle other
    · intro other hother hlt
      rw [hhub] at hother
      exact Nat.lt_of_lt_of_le (hcaught other hother hlt) (hserved other)
    · unfold Fresh
      rw [hhub]
      exact hinv.fresh
    · simp only [Phase, hhub]
      intro other hother hlt
      by_cases hne : other = ws
      · subst hne
        exact Or.inl (by simpa [FallibleHub.sent] using hlt)
      · rcases hphase other hother hlt with hold | hpending | hfailed
        · exact Or.inl (Nat.lt_of_lt_of_le hold (hserved other))
        · exact Or.inr (Or.inl (List.mem_filter.mpr ⟨hpending, by simpa using hne⟩))
        · exact Or.inr (Or.inr hfailed)

/-- A send raises: its subscriber will lose its place. -/
theorem Invariant.sendFails (hinv : s.Invariant) (ws : Ws) : (s.sendFails ws).Invariant := by
  unfold FallibleHub.sendFails
  cases hpc : s.hub.run with
  | idle | waiting | asking _ _ _ _ => exact hinv
  | broadcasting payload pending =>
    have hphase := hinv.phase
    simp only [Phase, hpc] at hphase
    obtain ⟨hjoined, hle, hcompleted, hcaught⟩ := hinv.counts
    refine ⟨⟨hjoined, hle, hcompleted, hcaught⟩, hinv.fresh, fun other hother hlt => ?_⟩
    by_cases hne : other = ws
    · subst hne
      exact Or.inr (Or.inr List.mem_cons_self)
    · rcases hphase other hother hlt with hold | hpending | hfailed
      · exact Or.inl hold
      · exact Or.inr (Or.inl (List.mem_filter.mpr ⟨hpending, by simpa using hne⟩))
      · exact Or.inr (Or.inr (List.mem_cons_of_mem _ hfailed))

/-- The broadcast is over: whoever was there and has kept its place has the payload. -/
theorem Invariant.gathered (hinv : s.Invariant) (hdone : s.hub.run.pending = some []) :
    s.gathered.Invariant := by
  cases hpc : s.hub.run with
  | idle | waiting | asking _ _ _ _ => simp [hpc, RunPc.pending] at hdone
  | broadcasting payload pending =>
    have hpending : pending = [] := by simpa [RunPc.pending, hpc] using hdone
    have hphase := hinv.phase
    simp only [Phase, hpc] at hphase
    have hhub : s.gathered.hub = { s.hub with
        sockets := s.hub.sockets.filter (· ∉ s.failed), lastPayload := some payload }.loopTop := by
      simp [FallibleHub.gathered, Hub.gathered, hpc]
    have hkept : ∀ ws ∈ s.gathered.hub.sockets, ws ∈ s.hub.sockets ∧ ws ∉ s.failed := by
      intro ws hws
      rw [hhub] at hws
      simpa using List.mem_filter.mp hws
    have hdirty : s.gathered.hub.dirty = s.hub.dirty := by rw [hhub]; rfl
    have hall : s.gathered.AllServed := by
      intro ws hws hlt
      obtain ⟨hold, hplace⟩ := hkept ws hws
      rcases hphase ws hold hlt with hserved | hmem | hfailed
      · exact hserved
      · simp [hpending] at hmem
      · exact absurd hfailed hplace
    refine ⟨⟨?_, hinv.counts.served_le, Nat.le_refl _, hall⟩, ?_, ?_⟩
    · exact fun ws hws => hinv.counts.joined_le ws (hkept ws hws).1
    · intro ws hws heq
      rw [hdirty]
      exact hinv.fresh ws (hkept ws hws).1 heq
    · exact phase_of_waits (hhub ▸ Hub.loopTop_waits _) fun _ => hall

end FallibleHub

/-- A step of the sessions leaves `run` and the subscribers alone, and does not unset `_dirty`. -/
theorem HubEvent.ofSessions_frame (projects : List Project) {e : HubEvent}
    (he : e.ofSessions = true) (h : Hub) :
    (e.apply projects h).run = h.run ∧ (e.apply projects h).sockets = h.sockets ∧
      (h.dirty = true → (e.apply projects h).dirty = true) := by
  cases e <;> simp_all [HubEvent.ofSessions, HubEvent.apply, Hub.setRegistry]

namespace FallibleHub

variable {projects : List Project} {s s' : FallibleHub}

/-- While `run` waits with `_dirty` unset, nobody waits for a payload. -/
theorem Invariant.not_owes (hinv : s.Invariant) (hwaits : s.hub.run.Waits)
    (hdirty : s.hub.dirty = false) : ¬s.Owes := by
  have hphase := hinv.phase
  cases hpc : s.hub.run with
  | idle | waiting =>
    simp only [Phase, hpc] at hphase
    exact hinv.counts.not_owes hinv.fresh (hphase hdirty) hdirty
  | asking _ _ _ _ | broadcasting _ _ =>
    rw [hpc] at hwaits
    exact hwaits.elim

/-- Every step that keeps its trigger keeps the invariant. -/
theorem Invariant.step (hinv : s.Invariant) (e : FallibleEvent) (hen : e.Enabled s)
    (hkeeps : s.KeepsTrigger projects e) : (e.apply projects s).Invariant := by
  cases e with
  | session e =>
    obtain ⟨hrun, hsockets, hdirty⟩ := HubEvent.ofSessions_frame projects hen.1 s.hub
    refine hinv.mono hrun hdirty rfl rfl rfl rfl fun ws hws => Or.inl ⟨?_, rfl⟩
    exact hsockets ▸ hws
  | add ws =>
    refine hinv.mono rfl (fun _ => rfl) rfl rfl rfl rfl fun other hother => ?_
    simp only [FallibleEvent.apply, FallibleHub.add, Hub.add, Hub.changed] at hother ⊢
    by_cases hold : ws ∈ s.hub.sockets
    · rw [if_pos hold] at hother ⊢
      exact Or.inl ⟨hother, rfl⟩
    · rw [if_neg hold] at hother ⊢
      by_cases hne : other = ws
      · subst hne
        exact Or.inr ⟨Function.update_self .., trivial⟩
      · rw [Function.update_of_ne hne]
        exact Or.inl ⟨by simpa [hne] using hother, rfl⟩
  | discard ws =>
    refine hinv.mono rfl id rfl rfl rfl rfl fun other hother => Or.inl ⟨?_, rfl⟩
    exact (List.mem_filter.mp hother).1
  | wake found =>
    have hcounts : s.clear.Counts := ⟨hinv.counts.joined_le, hinv.counts.served_le,
      hinv.counts.completed_le, hinv.counts.caughtUp⟩
    exact proceed_invariant hcounts (by simp) fun hraised _ => hkeeps hraised
  | timeOut found =>
    have hwaits : s.hub.run.Waits := by
      rw [show s.hub.run = .waiting from hen]
      trivial
    refine proceed_invariant hinv.counts (fun _ => ?_) (by simp)
    cases hdirty : s.hub.dirty with
    | true => exact hkeeps hdirty
    | false => exact hinv.not_owes hwaits hdirty
  | answer history found => exact hinv.answer hkeeps
  | sent ws => exact hinv.sent hen
  | sendFails ws => exact hinv.sendFails ws
  | gathered => exact hinv.gathered hen

/-- The invariant holds when the server starts. -/
theorem invariant_initial : ({} : FallibleHub).Invariant := by
  refine ⟨⟨?_, fun _ => Nat.le_refl _, Nat.le_refl _, ?_⟩, ?_, ?_⟩ <;>
    simp [CaughtUp, Fresh, Phase, AllServed]

/-- In every run in which no trigger is lost that a subscriber waits for: by the end of each
iteration whose snapshot succeeds, failures before it or not, every subscriber that was added
before the snapshot began has been sent a payload that was computed after it was added. -/
theorem caught_up (hrun : Run (fallibleSystem projects) (KeepsTrigger projects) {} s) :
    s.CaughtUp := by
  have hinv : s.Invariant := Run.invariant hrun invariant_initial
    fun _ e hinv hen hkeeps => hinv.step e hen hkeeps
  exact hinv.counts.caughtUp

/-- A lookup that finds nothing. -/
def nothing : PyStr → Option Bool := fun _ => some false

/-- A lookup that raises. -/
def raising : PyStr → Option Bool := fun _ => none

/-- The first subscriber is served, a periodic snapshot raises, and then a second one comes. -/
def failsUnwoken : List FallibleEvent :=
  [.add 1, .wake nothing, .answer (some true) nothing, .sent 1, .gathered, .timeOut raising,
    .add 2, .wake nothing, .answer (some true) nothing, .sent 1, .sent 2, .gathered]

/-- A snapshot that fails in an iteration that was not woken costs nobody a payload. -/
theorem caught_up_unwoken : ((fallibleSystem [demoProject]).exec {} failsUnwoken).CaughtUp :=
  caught_up (System.Valid.guardedRun (fallibleSystem [demoProject]) (by decide))

/-- The second subscriber comes before the snapshot that raises; the next one has nothing new. -/
def failsWoken : List FallibleEvent :=
  [.add 1, .wake nothing, .answer (some true) nothing, .sent 1, .gathered, .add 2, .wake raising,
    .timeOut nothing, .answer (some true) nothing]

/-- The second subscriber has got nothing after the first snapshot that succeeds. -/
theorem trigger_lost : (fallibleSystem [demoProject]).Valid {} failsWoken ∧
    ¬((fallibleSystem [demoProject]).exec {} failsWoken).CaughtUp := by
  decide

/-! ## Runs without failures -/

/-- A step of the hub as one without a failure. -/
def ofHub : HubEvent → FallibleEvent
  | .add ws => .add ws
  | .discard ws => .discard ws
  | .wake found => .wake fun path => some (found path)
  | .timeOut found => .timeOut fun path => some (found path)
  | .answer history found => .answer (some history) fun path => some (found path)
  | .sent ws => .sent ws
  | .gathered => .gathered
  | e => .session e

/-- A snapshot whose lookups all answer is the one of the hub. -/
theorem goOn_survey (s : FallibleHub) (found : PyStr → Bool) (triggered : Bool)
    (rest : List Project) : ∀ (h : Hub) (done : List StatusEntry),
      (s.goOn triggered (survey (fun path => some (found path)) h done rest)).hub =
        h.collect found triggered done rest := by
  induction rest with
  | nil => exact fun h done => rfl
  | cons project rest ih =>
    intro h done
    rw [survey, Hub.collect]
    by_cases hssh : project.ssh.isSome = true
    · have hread : h.readProject (fun _ => true) project = h.readProject found project := by
        simp [Hub.readProject, hssh]
      rw [if_pos hssh, if_pos hssh, hread]
      exact ih _ _
    · rw [if_neg hssh, if_neg hssh]
      rfl

/-- What `run` goes on with changes no list of failed sends. -/
theorem goOn_failed (s : FallibleHub) (triggered : Bool) (r : Hub × Survey) :
    (s.goOn triggered r).failed = s.failed := by
  obtain ⟨h, outcome⟩ := r
  cases outcome <;> rfl

/-- A snapshot that fails does so within `proceed`, which leaves the failed sends as they are. -/
theorem proceed_failed (s : FallibleHub) (triggered : Bool) (found : PyStr → Option Bool) :
    (s.proceed projects triggered found).failed = s.failed := by
  unfold proceed
  split
  · rfl
  · exact goOn_failed _ _ _

/-- `run` goes on after its wait as in the hub. -/
theorem proceed_hub (s : FallibleHub) (triggered : Bool) (found : PyStr → Bool) :
    (s.proceed projects triggered fun path => some (found path)).hub =
      s.hub.proceed projects triggered found := by
  unfold proceed Hub.proceed
  split
  · rfl
  · exact goOn_survey _ found triggered projects s.hub []

/-- A step without a failure is the step of the hub. -/
theorem apply_ofHub (projects : List Project) (hfailed : s.failed = []) (e : HubEvent)
    (hen : e.Enabled s.hub) :
    (ofHub e).Enabled s ∧ ((ofHub e).apply projects s).hub = e.apply projects s.hub ∧
      ((ofHub e).apply projects s).failed = [] := by
  cases e with
  | start _ _ _ | terminate _ | terminated _ | purge _ | exit _ _ | exitReturns _ =>
    exact ⟨⟨rfl, hen⟩, rfl, hfailed⟩
  | add ws => exact ⟨trivial, rfl, hfailed⟩
  | discard ws => exact ⟨trivial, rfl, hfailed⟩
  | wake found =>
    exact ⟨hen, proceed_hub s.clear true found, (proceed_failed _ _ _).trans hfailed⟩
  | timeOut found => exact ⟨hen, proceed_hub s false found, (proceed_failed _ _ _).trans hfailed⟩
  | answer history found =>
    refine ⟨hen, ?_, ?_⟩
    · simp only [ofHub, FallibleEvent.apply, HubEvent.apply, answer, Hub.answer]
      cases s.hub.run with
      | idle | waiting | broadcasting _ _ => rfl
      | asking triggered done current rest => exact goOn_survey s found triggered rest s.hub _
    · simp only [ofHub, FallibleEvent.apply, answer]
      cases s.hub.run with
      | idle | waiting | broadcasting _ _ => exact hfailed
      | asking triggered done current rest => exact (goOn_failed _ _ _).trans hfailed
  | sent ws => exact ⟨hen, rfl, hfailed⟩
  | gathered =>
    refine ⟨hen, ?_, rfl⟩
    simp [ofHub, FallibleEvent.apply, HubEvent.apply, gathered, hfailed]

end FallibleHub

/-- Every run of the status channel is a run of the hub with failures in which none happens. -/
theorem HubReachable.fallible {projects : List Project} {h : Hub}
    (hreach : HubReachable projects h) :
    ∃ s, Run (fallibleSystem projects) (fun _ _ => True) {} s ∧ s.hub = h ∧ s.failed = [] := by
  induction hreach with
  | refl => exact ⟨{}, .refl, rfl, rfl⟩
  | step e _ hen _ ih =>
    obtain ⟨s, hrun, rfl, hfailed⟩ := ih
    obtain ⟨hen', hhub, hfailed'⟩ := FallibleHub.apply_ofHub projects hfailed e hen
    exact ⟨_, hrun.step _ hen' trivial, hhub, hfailed'⟩

end WTerm
