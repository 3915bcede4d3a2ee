import WTerm.Status.Failure

/-!
# Live flags when snapshots fail

A failed snapshot sends nothing, and `run` forgets that it was woken for it. If every snapshot that
`run` was woken for succeeds, or is followed by another one for which it will be woken, no live flag
is lost. A periodic snapshot may fail, since nothing has changed since the last one, and a send may
fail, since its subscriber loses its place.
-/

namespace WTerm

open Transition

namespace Hub

variable {h h' h'' : Hub}

/-- Changes that are notified follow each other. -/
theorem Notifies.trans (hle : h.Notifies h') (hle' : h'.Notifies h'') : h.Notifies h'' := by
  intro hdirty
  obtain ⟨hdirty', hsilent'⟩ := hle' hdirty
  obtain ⟨hclean, hsilent⟩ := hle hdirty'
  exact ⟨hclean, hsilent.trans hsilent'⟩

end Hub

/-! ## What a snapshot leaves behind -/

section

variable {found : PyStr → Option Bool}

/-- A snapshot looks up sessions, and sends nothing. -/
theorem survey_quiet (found : PyStr → Option Bool) (rest : List Project) :
    ∀ (h : Hub) (done : List StatusEntry),
      h.Notifies (survey found h done rest).1 ∧
        (survey found h done rest).1.sentTo = h.sentTo ∧
        (h.registry.WellFormed → (survey found h done rest).1.registry.WellFormed) := by
  induction rest with
  | nil => exact fun h done => ⟨fun hdirty => ⟨hdirty, .refl _⟩, rfl, id⟩
  | cons project rest ih =>
    intro h done
    have hproject := h.purgeProject_notifies project
    have hwell (hregistry : h.registry.WellFormed) : (h.purgeProject project).registry.WellFormed :=
      ((hregistry.purge _).purge _).purge _
    rw [survey]
    split
    · obtain ⟨hnotifies, hsent, hregistry⟩ := ih (h.purgeProject project)
        (done ++ [h.readProject (fun _ => true) project])
      exact ⟨hproject.trans hnotifies, hsent, hregistry ∘ hwell⟩
    · split <;> exact ⟨hproject, rfl, hwell⟩

/-- A snapshot that has not raised is one in which every lookup answers. -/
theorem survey_of_not_raised (rest : List Project) : ∀ (h : Hub) (done : List StatusEntry),
    (survey found h done rest).2 ≠ .raised →
      survey found h done rest =
        survey (fun path => some ((found path).getD false)) h done rest := by
  induction rest with
  | nil => exact fun _ _ _ => rfl
  | cons project rest ih =>
    intro h done hraised
    rw [survey] at hraised ⊢
    rw [survey]
    by_cases hssh : project.ssh.isSome = true
    · rw [if_pos hssh] at hraised ⊢
      rw [if_pos hssh]
      exact ih _ _ hraised
    · rw [if_neg hssh] at hraised ⊢
      rw [if_neg hssh]
      cases hfound : found project.path with
      | none => exact absurd (by rw [hfound]) hraised
      | some history => rfl

end

/-! ## The flags of the subscribers -/

namespace FallibleHub

variable {projects : List Project} {s : FallibleHub}

/-- The hub with the subscribers that keep their place after the broadcast. -/
def placed (s : FallibleHub) : Hub :=
  { s.hub with sockets := s.hub.sockets.filter (· ∉ s.failed) }

/-- Outside a broadcast all keep their place. -/
theorem placed_of_failed (h : s.failed = []) : s.placed = s.hub := by
  have hall : s.hub.sockets.filter (· ∉ s.failed) = s.hub.sockets := by
    rw [h]
    exact List.filter_eq_self.mpr (by simp)
  rw [placed, hall]

/-- The flags of the subscribers that keep their place are those of the sessions, as far as `run`
has come. -/
structure Flagged (projects : List Project) (s : FallibleHub) : Prop where
  placed : s.placed.Invariant projects
  failed : s.hub.run.pending = none → s.failed = []

/-- A step loses no wake-up: a snapshot that `run` was woken for does not raise, unless `_dirty` is
set again. -/
def KeepsWake (projects : List Project) (s : FallibleHub) : FallibleEvent → Prop
  | .wake found => s.hub.sockets ≠ [] → (survey found s.clear.hub [] projects).2 ≠ .raised
  | .answer history found => s.wokenRaises history found = true → s.hub.dirty = true
  | _ => True

instance (s : FallibleHub) : (e : FallibleEvent) → Decidable (s.KeepsWake projects e)
  | .wake _ | .answer _ _ => inferInstanceAs (Decidable (_ → _))
  | .session _ | .add _ | .discard _ | .timeOut _ | .sent _ | .sendFails _ | .gathered =>
    inferInstanceAs (Decidable True)

/-- `run` goes on with a snapshot. If it raises, all have been told before. -/
theorem goOn_flagged {found : PyStr → Option Bool} {triggered : Bool} {h : Hub}
    {done : List StatusEntry} {rest : List Project} (hfailed : s.failed = [])
    (hregistry : h.registry.WellFormed)
    (hprojects : done.map StatusEntry.project ++ rest = projects)
    (hentries : ∀ entry ∈ done, h.EntryAccurate entry)
    (htold : triggered = false → ∀ ws ∈ h.sockets, h.Told projects ws)
    (hraised : (survey found h done rest).2 = .raised → h.dirty = false → triggered = false) :
    (s.goOn triggered (survey found h done rest)).Flagged projects := by
  have hkept : (s.goOn triggered (survey found h done rest)).failed = [] :=
    (s.goOn_failed triggered _).trans hfailed
  refine ⟨?_, fun _ => hkept⟩
  rw [placed_of_failed hkept]
  by_cases hsurvey : (survey found h done rest).2 = .raised
  · obtain ⟨hsockets, hdirty⟩ := survey_frame found rest h done
    obtain ⟨hnotifies, hsent, hwell⟩ := survey_quiet found rest h done
    have hgo : (s.goOn triggered (survey found h done rest)).hub =
        (survey found h done rest).1.loopTop := by
      have hpair : survey found h done rest = ((survey found h done rest).1, .raised) :=
        Prod.ext rfl hsurvey
      exact congrArg (fun r => (s.goOn triggered r).hub) hpair
    rw [hgo]
    refine ⟨hwell hregistry, Hub.loopTop_sound fun ws hws hclean => ?_⟩
    have htriggered := hraised hsurvey (hdirty ▸ hclean)
    exact (htold htriggered ws (hsockets ▸ hws)).mono hnotifies (congrFun hsent ws) hclean
  · rw [survey_of_not_raised rest h done hsurvey, goOn_survey]
    exact Hub.collect_invariant _ triggered hregistry hprojects hentries htold

/-- When `run` goes on after its wait, the subscribers' flags stay right, unless the snapshot of a
woken iteration raises. -/
theorem proceed_flagged {triggered : Bool} {found : PyStr → Option Bool} (hfailed : s.failed = [])
    (hregistry : s.hub.registry.WellFormed)
    (htold : triggered = false → ∀ ws ∈ s.hub.sockets, s.hub.Told projects ws)
    (hraised : s.hub.sockets ≠ [] → (survey found s.hub [] projects).2 = .raised →
      triggered = false) :
    (s.proceed projects triggered found).Flagged projects := by
  unfold proceed
  split
  · next hempty =>
    refine ⟨?_, fun _ => hfailed⟩
    rw [placed_of_failed (s := { s with hub := s.hub.loopTop }) hfailed]
    refine ⟨hregistry, Hub.loopTop_sound fun ws hws => ?_⟩
    rw [hempty] at hws
    cases hws
  · next hsockets =>
    exact goOn_flagged (s := { s with begun := s.begun + 1 }) hfailed hregistry rfl
      (fun entry hentry => absurd hentry List.not_mem_nil) htold
      fun hsurvey _ => hraised hsockets hsurvey

/-- While `run` waits, every subscriber has the flags of the sessions, unless `run` will be woken.
-/
theorem Flagged.told (h : s.Flagged projects) (hwaits : s.hub.run.Waits) {ws : Ws}
    (hws : ws ∈ s.hub.sockets) : s.hub.Told projects ws := by
  have hinv := h.placed
  rw [placed_of_failed (h.failed (RunPc.pending_of_waits (Or.inl hwaits)))] at hinv
  exact hinv.waits hwaits hws

/-- The flags are kept whether `has_codex_history` answers or raises. -/
theorem Flagged.answer (h : s.Flagged projects) {history : Option Bool}
    {found : PyStr → Option Bool}
    (hkeeps : s.wokenRaises history found = true → s.hub.dirty = true) :
    (s.answer history found).Flagged projects := by
  unfold FallibleHub.answer
  cases hrun : s.hub.run with
  | idle | waiting | broadcasting payload pending => exact h
  | asking triggered done current rest =>
    have hfailed := h.failed (by rw [hrun]; rfl)
    have hinv := h.placed
    rw [placed_of_failed hfailed] at hinv
    have hsound := hinv.sound
    simp only [Hub.Sound, hrun] at hsound
    obtain ⟨hprojects, hentries, htold⟩ := hsound
    have hraised : (s.answered done current rest history found).2 = .raised →
        s.hub.dirty = false → triggered = false := by
      intro hanswer hclean
      by_contra htriggered
      have hset : s.hub.dirty = true := by
        refine hkeeps ?_
        rw [Bool.not_eq_false] at htriggered
        subst htriggered
        simp [wokenRaises, hrun, hanswer]
      rw [hset] at hclean
      cases hclean
    dsimp only
    cases history with
    | none =>
      refine ⟨?_, fun _ => hfailed⟩
      change (s.goOn triggered (s.hub, .raised)).placed.Invariant projects
      rw [placed_of_failed (s := s.goOn triggered (s.hub, .raised)) hfailed]
      refine ⟨hinv.registry, Hub.loopTop_sound fun ws hws hclean => ?_⟩
      exact htold (hraised rfl hclean) ws hws hclean
    | some history =>
      refine goOn_flagged hfailed hinv.registry ?_ (Hub.entries_answered hentries history) htold
        hraised
      simpa using hprojects

/-- A send raises: the subscriber does not keep its place. -/
theorem Flagged.sendFails (h : s.Flagged projects) (ws : Ws) :
    (s.sendFails ws).Flagged projects := by
  unfold FallibleHub.sendFails
  cases hrun : s.hub.run with
  | idle | waiting | asking _ _ _ _ => exact h
  | broadcasting payload pending =>
    have hsound := h.placed.sound
    have hplaced : s.placed.run = .broadcasting payload pending := hrun
    simp only [Hub.Sound, hplaced] at hsound
    obtain ⟨hpayload, hsockets⟩ := hsound
    refine ⟨⟨h.placed.registry, hpayload, fun other hother => ?_⟩,
      fun hpending => by cases hpending⟩
    obtain ⟨hmem, hplace⟩ := List.mem_filter.mp hother
    have hboth : other ≠ ws ∧ other ∉ s.failed := by simpa using hplace
    rcases hsockets other (List.mem_filter.mpr ⟨hmem, by simpa using hboth.2⟩) with hpending | htold
    · exact Or.inl (List.mem_filter.mpr ⟨hpending, by simpa using hboth.1⟩)
    · exact Or.inr htold

/-- Every step that loses no wake-up keeps the flags. -/
theorem Flagged.step (h : s.Flagged projects) (e : FallibleEvent) (hen : e.Enabled s)
    (hkeeps : s.KeepsWake projects e) : (e.apply projects s).Flagged projects := by
  cases e with
  | session e =>
    have hplaced : ((FallibleEvent.session e).apply projects s).placed =
        e.apply projects s.placed := by
      cases e <;> first | rfl | exact absurd hen.1 (by simp [HubEvent.ofSessions])
    have henabled : e.Enabled s.placed := by
      cases e <;> exact hen.2
    refine ⟨hplaced ▸ h.placed.step e henabled, fun hpending => h.failed ?_⟩
    rwa [← (HubEvent.ofSessions_frame projects hen.1 s.hub).1]
  | add ws =>
    refine ⟨⟨h.placed.registry, h.placed.sound.mono ?_ rfl rfl ?_⟩, h.failed⟩ <;>
    · intro hdirty
      cases hdirty
  | discard ws =>
    refine ⟨⟨h.placed.registry, h.placed.sound.mono (fun hdirty => ⟨hdirty, .refl _⟩) rfl rfl ?_⟩,
      h.failed⟩
    intro _ other hother
    obtain ⟨hmem, hplace⟩ := List.mem_filter.mp hother
    exact List.mem_filter.mpr ⟨(List.mem_filter.mp hmem).1, hplace⟩
  | wake found =>
    have hfailed := h.failed (RunPc.pending_of_waits (Or.inl hen.1))
    exact proceed_flagged (s := s.clear) hfailed h.placed.registry (by simp)
      fun hsockets hsurvey => absurd hsurvey (hkeeps hsockets)
  | timeOut found =>
    have hrun : s.hub.run = .waiting := hen
    have hwaits : s.hub.run.Waits := by
      rw [hrun]
      trivial
    exact proceed_flagged (h.failed (by rw [hrun]; rfl)) h.placed.registry
      (fun _ ws hws => h.told hwaits hws) fun _ _ => rfl
  | answer history found => exact h.answer hkeeps
  | sent ws =>
    have hplaced : (s.sent ws).placed = s.placed.sent ws := by
      cases hrun : s.hub.run <;> simp [FallibleHub.placed, FallibleHub.sent, Hub.sent, hrun]
    refine ⟨hplaced ▸ h.placed.sent ws, fun hpending => h.failed ?_⟩
    change (s.hub.sent ws).run.pending = none at hpending
    cases hrun : s.hub.run with
    | broadcasting payload pending =>
      rw [Hub.sent, hrun] at hpending
      cases hpending
    | _ => rfl
  | sendFails ws => exact h.sendFails ws
  | gathered =>
    have hplaced : s.gathered.placed = s.placed.gathered := by
      rw [placed_of_failed (s := s.gathered) rfl]
      rfl
    exact ⟨hplaced ▸ h.placed.gathered hen, fun _ => rfl⟩

/-- At startup nobody subscribes, so that the flags of the subscribers are right. -/
theorem flagged_initial (projects : List Project) : ({} : FallibleHub).Flagged projects :=
  ⟨Hub.invariant_initial projects, fun _ => rfl⟩

/-- In every run that loses no wake-up the subscribers have the flags of the sessions. -/
theorem flagged_of_run (hrun : Run (fallibleSystem projects) (KeepsWake projects) {} s) :
    s.Flagged projects :=
  hrun.invariant (flagged_initial projects) fun _ e h hen hkeeps => h.step e hen hkeeps

end FallibleHub

end WTerm
