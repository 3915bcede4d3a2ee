import WTerm.Status.Hub

/-!
# No live flag is lost

While `_dirty` is unset and no natural exit is in progress, every flag that was read since the
event was last cleared is still the current one. Snapshots collect such flags, and a subscriber
of an earlier snapshot is told by the next one unless the event is set again.
-/

namespace WTerm

open Transition

/-! ## Sessions -/

namespace Registry

variable {m m' m'' : Registry}

/-- A live flag in terms of the entry of the key. -/
theorem isLive_eq (m : Registry) (key : SessionKey) :
    m.isLive key =
      (m.entries key).any fun sid => (m.sessions sid).alive && !(m.sessions sid).terminating := by
  unfold isLive getLive
  cases m.entries key with
  | none => rfl
  | some sid => by_cases h : (m.sessions sid).alive && !(m.sessions sid).terminating <;> simp [h]

/-- Sessions that have exited are not alive, and a new session has not exited. -/
structure WellFormed (m : Registry) : Prop where
  fresh : ∀ sid, m.count ≤ sid → (m.sessions sid).alive = false ∧ m.exits sid = .none
  exits : ∀ sid, (m.sessions sid).alive = true → m.exits sid = .none

/-- The sessions may change from `m` to `m'` without a notification. -/
def Silent (m m' : Registry) : Prop :=
  (m.Exiting → m'.Exiting) ∧ (m'.Exiting ∨ ∀ key, m'.isLive key = m.isLive key)

theorem Silent.refl (m : Registry) : m.Silent m := ⟨id, .inr fun _ => rfl⟩

theorem Silent.trans (h : m.Silent m') (h' : m'.Silent m'') : m.Silent m'' := by
  refine ⟨h'.1 ∘ h.1, ?_⟩
  rcases h'.2 with hexit | hlive'
  · exact .inl hexit
  · rcases h.2 with hexit | hlive
    · exact .inl (h'.1 hexit)
    · exact .inr fun key => (hlive' key).trans (hlive key)

/-- A session that is not live may change to another such state. -/
theorem setSession_isLive {sid : SessionId} {l : Lifecycle}
    (h : (l.alive && !l.terminating) =
      ((m.sessions sid).alive && !(m.sessions sid).terminating)) (key : SessionKey) :
    (m.setSession sid l).isLive key = m.isLive key := by
  simp only [isLive_eq, setSession]
  congr 1
  funext other
  by_cases hother : other = sid
  · subst hother
    simpa using h
  · simp [Function.update_of_ne hother]

/-- A change of one session without an effect on the flags is silent. -/
theorem setSession_silent {sid : SessionId} {l : Lifecycle}
    (h : (l.alive && !l.terminating) =
      ((m.sessions sid).alive && !(m.sessions sid).terminating)) :
    m.Silent (m.setSession sid l) :=
  ⟨id, .inr (setSession_isLive h)⟩

/-- Only the first `terminate` of a session changes a flag. -/
theorem terminate_silent {sid : SessionId}
    (h : ((m.sessions sid).alive && !(m.sessions sid).terminating) = false) :
    m.Silent (m.terminate sid) := by
  unfold terminate
  split
  · refine setSession_silent ?_
    rw [h]
    simp
  · exact Silent.refl m

/-- The end of `terminate` changes no flag. -/
theorem terminated_silent {sid : SessionId} (h : (m.sessions sid).terminating = true) :
    m.Silent (m.terminated sid) := by
  refine setSession_silent ?_
  simp [h]

/-- `get_live` of one key changes no session from live to not live, or back. -/
theorem purge_isLive (m : Registry) (key key' : SessionKey) :
    (m.purge key).isLive key' = m.isLive key' := by
  unfold purge
  cases hentry : m.entries key with
  | none => rfl
  | some sid =>
    by_cases halive : (m.sessions sid).alive
    · simp [halive]
    · simp only [halive, Bool.false_eq_true, if_false, isLive_eq, setEntry]
      by_cases hkey : key' = key
      · subst hkey
        simp [hentry, halive]
      · rw [Function.update_of_ne hkey]

@[simp]
theorem purge_exits (m : Registry) (key : SessionKey) : (m.purge key).exits = m.exits := by
  unfold purge
  cases m.entries key with
  | none => rfl
  | some sid => by_cases h : (m.sessions sid).alive <;> simp [h, setEntry]

@[simp]
theorem purge_sessions (m : Registry) (key : SessionKey) :
    (m.purge key).sessions = m.sessions := by
  unfold purge
  cases m.entries key with
  | none => rfl
  | some sid => by_cases h : (m.sessions sid).alive <;> simp [h, setEntry]

@[simp]
theorem purge_count (m : Registry) (key : SessionKey) : (m.purge key).count = m.count := by
  unfold purge
  cases m.entries key with
  | none => rfl
  | some sid => by_cases h : (m.sessions sid).alive <;> simp [h, setEntry]

/-- What `get_live` does to the map needs no notification. -/
theorem purge_silent (m : Registry) (key : SessionKey) : m.Silent (m.purge key) := by
  refine ⟨?_, .inr (purge_isLive m key)⟩
  rintro ⟨sid, hsid⟩
  exact ⟨sid, by simpa using hsid⟩

/-- An exit that does not notify at once is one of a session in termination, or it waits for a
connection. -/
theorem exit_silent (hm : m.WellFormed) {sid : SessionId} {attached : Bool}
    (h : ((m.sessions sid).alive && !(m.sessions sid).terminating && !attached) = false) :
    m.Silent (m.exit sid attached) := by
  unfold exit
  by_cases halive : (m.sessions sid).alive
  · have hnone := hm.exits sid halive
    have hkeep : ∀ other, m.exits other = .waiting true → other ≠ sid := by
      rintro other hother rfl
      simp [hnone] at hother
    simp only [halive, if_true, Bool.true_and] at h ⊢
    constructor
    · rintro ⟨other, hother⟩
      refine ⟨other, ?_⟩
      simpa [setExit, setSession, Function.update_of_ne (hkeep other hother)] using hother
    · by_cases hterminating : (m.sessions sid).terminating
      · right
        have hover : ((m.sessions sid).exit.alive && !(m.sessions sid).exit.terminating) =
            ((m.sessions sid).alive && !(m.sessions sid).terminating) := by
          simp [hterminating]
        exact setSession_isLive hover
      · left
        have hattached : attached = true := by simpa [hterminating] using h
        exact ⟨sid, by simp [setExit, hattached, hterminating]⟩
  · simp only [halive, Bool.false_eq_true, if_false]
    exact Silent.refl m

/-- A wait that ends without a notification was not one of a live session. -/
theorem exitReturns_silent {sid : SessionId} (h : m.exits sid ≠ .waiting true) :
    m.Silent (m.setExit sid .finished) := by
  constructor
  · rintro ⟨other, hother⟩
    have hne : other ≠ sid := by
      rintro rfl
      exact h hother
    exact ⟨other, by simpa [setExit, Function.update_of_ne hne] using hother⟩
  · exact .inr fun _ => rfl

/-! ### Well-formedness -/

/-- A session whose aliveness does not grow keeps the invariant. -/
theorem WellFormed.setSession (hm : m.WellFormed) {sid : SessionId} {l : Lifecycle}
    (h : l.alive = true → (m.sessions sid).alive = true) : (m.setSession sid l).WellFormed := by
  have halive : ∀ other, ((m.setSession sid l).sessions other).alive = true →
      (m.sessions other).alive = true := by
    intro other
    by_cases hother : other = sid
    · subst hother
      simpa [Registry.setSession] using h
    · simp [Registry.setSession, Function.update_of_ne hother]
  constructor
  · intro other hother
    obtain ⟨hdead, hnone⟩ := hm.fresh other hother
    refine ⟨?_, hnone⟩
    by_contra hcontra
    have := halive other (by simpa using hcontra)
    simp [hdead] at this
  · intro other hother
    exact hm.exits other (halive other hother)

/-- The exit of a session that is over keeps the invariant. -/
theorem WellFormed.setExit (hm : m.WellFormed) {sid : SessionId} {exit : ExitWait}
    (hdead : (m.sessions sid).alive = false) (hsid : sid < m.count) :
    (m.setExit sid exit).WellFormed := by
  constructor
  · intro other hother
    have hne : other ≠ sid := by
      rintro rfl
      exact absurd hother (by simpa [Registry.setExit] using hsid)
    simpa [Registry.setExit, Function.update_of_ne hne] using hm.fresh other hother
  · intro other hother
    have hne : other ≠ sid := by
      rintro rfl
      simp [Registry.setExit, hdead] at hother
    simpa [Registry.setExit, Function.update_of_ne hne] using hm.exits other hother

theorem WellFormed.purge (hm : m.WellFormed) (key : SessionKey) : (m.purge key).WellFormed :=
  ⟨by simpa using hm.fresh, by simpa using hm.exits⟩

/-- A session that is alive or has exited was started. -/
theorem WellFormed.lt_count (hm : m.WellFormed) {sid : SessionId}
    (h : (m.sessions sid).alive = true ∨ m.exits sid ≠ .none) : sid < m.count := by
  by_contra hge
  obtain ⟨hdead, hnone⟩ := hm.fresh sid (Nat.le_of_not_lt hge)
  rcases h with halive | hexit
  · simp [hdead] at halive
  · exact hexit hnone

/-- `start_locked` registers a session that has not exited. -/
theorem WellFormed.start (hm : m.WellFormed) (key : SessionKey) (now : Time) (idleSeconds : ℕ) :
    (m.start key now idleSeconds).WellFormed := by
  constructor
  · intro sid hsid
    have hcount : m.count + 1 ≤ sid := hsid
    have hne : sid ≠ m.count := by omega
    simpa [Registry.start, Registry.setEntry, Registry.setSession, Function.update_of_ne hne]
      using hm.fresh sid (by omega)
  · intro sid hsid
    by_cases hne : sid = m.count
    · rw [hne]
      exact (hm.fresh m.count (Nat.le_refl _)).2
    · refine hm.exits sid ?_
      simpa [Registry.start, Registry.setEntry, Registry.setSession, Function.update_of_ne hne]
        using hsid

theorem WellFormed.terminate (hm : m.WellFormed) (sid : SessionId) :
    (m.terminate sid).WellFormed := by
  unfold Registry.terminate
  split
  · exact hm.setSession (by simp)
  · exact hm

theorem WellFormed.terminated (hm : m.WellFormed) (sid : SessionId) :
    (m.terminated sid).WellFormed :=
  hm.setSession (by simp)

theorem WellFormed.exit (hm : m.WellFormed) (sid : SessionId) (attached : Bool) :
    (m.exit sid attached).WellFormed := by
  unfold Registry.exit
  split
  · rename_i halive
    have hsid := hm.lt_count (.inl halive)
    exact (hm.setSession (l := (m.sessions sid).exit) (by simp)).setExit
      (by simp [Registry.setSession]) hsid
  · exact hm

theorem WellFormed.exitReturns (hm : m.WellFormed) {sid : SessionId}
    (h : m.exits sid = .waiting true ∨ m.exits sid = .waiting false) :
    (m.setExit sid .finished).WellFormed := by
  have hexit : m.exits sid ≠ .none := by
    rcases h with h | h <;> simp [h]
  refine hm.setExit ?_ (hm.lt_count (.inr hexit))
  by_contra hcontra
  exact hexit (hm.exits sid (by simpa using hcontra))

end Registry

/-! ## What was read and what was sent -/

namespace Hub

variable {projects : List Project} {h h' : Hub}

/-- A flag is the current one, unless `run` will be woken. -/
def Accurate (h : Hub) (flag : Bool) (key : SessionKey) : Prop :=
  h.dirty = false → ¬h.registry.Exiting → flag = h.registry.isLive key

/-- The flags of an entry are accurate. -/
def EntryAccurate (h : Hub) (entry : StatusEntry) : Prop :=
  ∀ agent, h.Accurate (entry.flag agent) ⟨entry.project.name, agent⟩

/-- A payload has an accurate entry for each project. -/
def PayloadAccurate (projects : List Project) (h : Hub) (payload : List StatusEntry) : Prop :=
  payload.map StatusEntry.project = projects ∧ ∀ entry ∈ payload, h.EntryAccurate entry

/-- A subscriber has an accurate payload, unless `run` will be woken. -/
def Told (projects : List Project) (h : Hub) (ws : Ws) : Prop :=
  h.dirty = false → ∃ payload, h.sentTo ws = some payload ∧ h.PayloadAccurate projects payload

/-- `h'` comes after `h`, and a change of the sessions between them was notified. -/
def Notifies (h h' : Hub) : Prop :=
  h'.dirty = false → h.dirty = false ∧ h.registry.Silent h'.registry

theorem Accurate.mono {flag : Bool} {key : SessionKey} (hflag : h.Accurate flag key)
    (hle : h.Notifies h') : h'.Accurate flag key := by
  intro hdirty hexit
  obtain ⟨hdirty, hsilent⟩ := hle hdirty
  rcases hsilent.2 with hexiting | hlive
  · exact absurd hexiting hexit
  · rw [hlive key]
    exact hflag hdirty fun hexiting => hexit (hsilent.1 hexiting)

theorem EntryAccurate.mono {entry : StatusEntry} (hentry : h.EntryAccurate entry)
    (hle : h.Notifies h') : h'.EntryAccurate entry :=
  fun agent => (hentry agent).mono hle

theorem PayloadAccurate.mono {payload : List StatusEntry}
    (hpayload : h.PayloadAccurate projects payload) (hle : h.Notifies h') :
    h'.PayloadAccurate projects payload :=
  ⟨hpayload.1, fun entry hentry => (hpayload.2 entry hentry).mono hle⟩

theorem Told.mono {ws : Ws} (htold : h.Told projects ws) (hle : h.Notifies h')
    (hsent : h'.sentTo ws = h.sentTo ws) : h'.Told projects ws := by
  intro hdirty
  obtain ⟨payload, hpayload, haccurate⟩ := htold (hle hdirty).1
  exact ⟨payload, hsent.trans hpayload, haccurate.mono hle⟩

/-- What `run` has read and sent, at each of its awaits. -/
def Sound (projects : List Project) (h : Hub) : Prop :=
  match h.run with
  | .idle | .waiting => ∀ ws ∈ h.sockets, h.Told projects ws
  | .asking triggered done current rest =>
    (done ++ [current]).map StatusEntry.project ++ rest = projects ∧
      (∀ entry ∈ done ++ [current], h.EntryAccurate entry) ∧
      (triggered = false → ∀ ws ∈ h.sockets, h.Told projects ws)
  | .broadcasting payload pending =>
    h.PayloadAccurate projects payload ∧ ∀ ws ∈ h.sockets, ws ∈ pending ∨ h.Told projects ws

/-- The invariant of the channel. -/
structure Invariant (projects : List Project) (h : Hub) : Prop where
  registry : h.registry.WellFormed
  sound : h.Sound projects

/-! ### Sessions and subscribers -/

/-- A step of the sessions or of the subscribers keeps what `run` has. -/
theorem Sound.mono (hsound : h.Sound projects) (hle : h.Notifies h') (hrun : h'.run = h.run)
    (hsent : h'.sentTo = h.sentTo)
    (hsockets : h'.dirty = false → ∀ ws ∈ h'.sockets, ws ∈ h.sockets) :
    h'.Sound projects := by
  have htold : ∀ ws ∈ h'.sockets, (ws ∈ h.sockets → h.Told projects ws) →
      h'.Told projects ws := by
    intro ws hws htold hdirty
    exact (htold (hsockets hdirty ws hws)).mono hle (by rw [hsent]) hdirty
  unfold Sound at hsound ⊢
  rw [hrun]
  cases hpc : h.run with
  | idle | waiting =>
    simp only [hpc] at hsound ⊢
    exact fun ws hws => htold ws hws (hsound ws)
  | asking triggered done current rest =>
    simp only [hpc] at hsound ⊢
    obtain ⟨hprojects, hentries, htolds⟩ := hsound
    refine ⟨hprojects, fun entry hentry => (hentries entry hentry).mono hle, ?_⟩
    exact fun htriggered ws hws => htold ws hws (htolds htriggered ws)
  | broadcasting payload pending =>
    simp only [hpc] at hsound ⊢
    obtain ⟨hpayload, hsockets'⟩ := hsound
    refine ⟨hpayload.mono hle, fun ws hws => ?_⟩
    by_cases hdirty : h'.dirty = false
    · rcases hsockets' ws (hsockets hdirty ws hws) with hpending | hws'
      · exact .inl hpending
      · exact .inr (hws'.mono hle (by rw [hsent]))
    · exact .inr fun hclean => absurd hclean hdirty

/-- The sessions change silently, or `changed` is called. -/
theorem setRegistry_notifies {m : Registry} {notify : Bool}
    (hsilent : notify = false → h.registry.Silent m) : h.Notifies (h.setRegistry m notify) := by
  intro hdirty
  simp only [setRegistry, Bool.or_eq_false_iff] at hdirty
  exact ⟨hdirty.1, hsilent hdirty.2⟩

theorem Invariant.setRegistry (hinv : h.Invariant projects) {m : Registry} {notify : Bool}
    (hm : m.WellFormed) (hsilent : notify = false → h.registry.Silent m) :
    (h.setRegistry m notify).Invariant projects :=
  ⟨hm, hinv.sound.mono (setRegistry_notifies hsilent) rfl rfl fun _ _ hws => hws⟩

theorem Invariant.add (hinv : h.Invariant projects) (ws : Ws) : (h.add ws).Invariant projects := by
  refine ⟨hinv.registry, hinv.sound.mono ?_ rfl rfl ?_⟩ <;>
  · intro hdirty
    simp [Hub.add, changed] at hdirty

theorem Invariant.discard (hinv : h.Invariant projects) (ws : Ws) :
    (h.discard ws).Invariant projects := by
  refine ⟨hinv.registry, hinv.sound.mono (fun hdirty => ⟨hdirty, .refl _⟩) rfl rfl ?_⟩
  intro _ other hother
  exact (List.mem_filter.mp hother).1

/-! ### Steps of `run` -/

/-- `run` is at the head of its loop, and every subscriber is told. -/
theorem loopTop_sound (htold : ∀ ws ∈ h.sockets, h.Told projects ws) :
    h.loopTop.Sound projects := by
  by_cases hsockets : h.sockets = []
  · have hrun : h.loopTop.run = .idle := if_pos hsockets
    simp only [Sound, hrun]
    exact htold
  · have hrun : h.loopTop.run = .waiting := if_neg hsockets
    simp only [Sound, hrun]
    exact htold

/-- A complete snapshot is sent to all subscribers, or it is the one that they have. -/
theorem deliver_sound {triggered : Bool} {payload : List StatusEntry}
    (hpayload : h.PayloadAccurate projects payload)
    (htold : triggered = false → ∀ ws ∈ h.sockets, h.Told projects ws) :
    (h.deliver triggered payload).Sound projects := by
  unfold deliver broadcast
  by_cases hnew : triggered ∨ some payload ≠ h.lastPayload
  · rw [if_pos hnew]
    by_cases hsockets : h.sockets = []
    · rw [if_pos hsockets]
      refine loopTop_sound fun ws hws => ?_
      simp [hsockets] at hws
    · rw [if_neg hsockets]
      exact ⟨hpayload, fun ws hws => .inl hws⟩
  · rw [if_neg hnew]
    have htriggered : triggered = false := by
      by_contra hcontra
      exact hnew (.inl (by simpa using hcontra))
    exact loopTop_sound (htold htriggered)

/-- The live flags of a project are read as they are. -/
theorem readProject_accurate (h : Hub) (found : PyStr → Bool) (project : Project) :
    h.EntryAccurate (h.readProject found project) := by
  intro agent _ _
  cases agent <;> rfl

theorem purgeProject_notifies (h : Hub) (project : Project) :
    h.Notifies (h.purgeProject project) := by
  intro hdirty
  refine ⟨hdirty, ?_⟩
  exact ((Registry.purge_silent _ _).trans (Registry.purge_silent _ _)).trans
    (Registry.purge_silent _ _)

/-- The snapshot goes on to its next await or to its end. -/
theorem collect_invariant (found : PyStr → Bool) (triggered : Bool) {rest : List Project} :
    ∀ {h : Hub} {done : List StatusEntry}, h.registry.WellFormed →
      done.map StatusEntry.project ++ rest = projects →
      (∀ entry ∈ done, h.EntryAccurate entry) →
      (triggered = false → ∀ ws ∈ h.sockets, h.Told projects ws) →
      (collect found triggered h done rest).Invariant projects := by
  induction rest with
  | nil =>
    intro h done hregistry hprojects hentries htold
    rw [List.append_nil] at hprojects
    refine ⟨?_, deliver_sound ⟨hprojects, hentries⟩ htold⟩
    simp only [collect, deliver, broadcast, loopTop]
    split_ifs <;> exact hregistry
  | cons project rest ih =>
    intro h done hregistry hprojects hentries htold
    have hle := h.purgeProject_notifies project
    have hregistry' : (h.purgeProject project).registry.WellFormed :=
      ((hregistry.purge _).purge _).purge _
    have hprojects' :
        (done ++ [h.readProject found project]).map StatusEntry.project ++ rest = projects := by
      rw [← hprojects]
      simp [readProject]
    have hentries' : ∀ entry ∈ done ++ [h.readProject found project],
        (h.purgeProject project).EntryAccurate entry := by
      intro entry hentry
      rcases List.mem_append.mp hentry with hdone | hlast
      · exact (hentries entry hdone).mono hle
      · rw [List.mem_singleton.mp hlast]
        exact (readProject_accurate h found project).mono hle
    have htold' : triggered = false →
        ∀ ws ∈ (h.purgeProject project).sockets, (h.purgeProject project).Told projects ws :=
      fun htriggered ws hws => (htold htriggered ws hws).mono hle rfl
    unfold collect
    split
    · exact ih hregistry' hprojects' hentries' htold'
    · exact ⟨hregistry', hprojects', hentries', htold'⟩

/-- The answer of `has_codex_history` sets no live flag. -/
theorem entries_answered {done : List StatusEntry} {current : StatusEntry}
    (hentries : ∀ entry ∈ done ++ [current], h.EntryAccurate entry) (history : Bool) :
    ∀ entry ∈ done ++ [{ current with codexHasHistory := history }], h.EntryAccurate entry := by
  intro entry hentry
  rcases List.mem_append.mp hentry with hdone | hlast
  · exact hentries entry (List.mem_append_left _ hdone)
  · rw [List.mem_singleton.mp hlast]
    intro agent
    have hcurrent := hentries current (by simp) agent
    cases agent <;> exact hcurrent

/-- When `run` goes on after its wait, the invariant is kept. -/
theorem proceed_invariant {triggered : Bool} (found : PyStr → Bool)
    (hregistry : h.registry.WellFormed)
    (htold : triggered = false → ∀ ws ∈ h.sockets, h.Told projects ws) :
    (h.proceed projects triggered found).Invariant projects := by
  unfold proceed
  by_cases hsockets : h.sockets = []
  · rw [if_pos hsockets]
    refine ⟨hregistry, loopTop_sound fun ws hws => ?_⟩
    simp [hsockets] at hws
  · rw [if_neg hsockets]
    exact collect_invariant found triggered hregistry rfl (by simp) htold

theorem Invariant.answer (hinv : h.Invariant projects) (history : Bool)
    (found : PyStr → Bool) : (h.answer history found).Invariant projects := by
  unfold Hub.answer
  cases hpc : h.run with
  | idle | waiting | broadcasting _ _ => exact hinv
  | asking triggered done current rest =>
    have hsound := hinv.sound
    simp only [Sound, hpc] at hsound
    obtain ⟨hprojects, hentries, htold⟩ := hsound
    refine collect_invariant found triggered hinv.registry ?_ (entries_answered hentries history)
      htold
    simpa using hprojects

theorem Invariant.sent (hinv : h.Invariant projects) (ws : Ws) :
    (h.sent ws).Invariant projects := by
  unfold Hub.sent
  cases hpc : h.run with
  | idle | waiting | asking _ _ _ _ => exact hinv
  | broadcasting payload pending =>
    have hsound := hinv.sound
    simp only [Sound, hpc] at hsound
    obtain ⟨hpayload, hsockets⟩ := hsound
    refine ⟨hinv.registry, hpayload, ?_⟩
    intro other hother
    by_cases hne : other = ws
    · right
      intro _
      exact ⟨payload, by simp [hne], hpayload⟩
    · rcases hsockets other hother with hpending | htold
      · exact .inl (List.mem_filter.mpr ⟨hpending, by simpa using hne⟩)
      · exact .inr (htold.mono (fun hdirty => ⟨hdirty, .refl _⟩) (Function.update_of_ne hne _ _))

theorem Invariant.gathered (hinv : h.Invariant projects) (hdone : h.run.pending = some []) :
    h.gathered.Invariant projects := by
  unfold Hub.gathered
  cases hpc : h.run with
  | idle | waiting | asking _ _ _ _ => exact hinv
  | broadcasting payload pending =>
    have hsound := hinv.sound
    simp only [Sound, hpc] at hsound
    have hpending : pending = [] := by simpa [RunPc.pending, hpc] using hdone
    refine ⟨hinv.registry, loopTop_sound fun ws hws => ?_⟩
    rcases hsound.2 ws hws with hmem | htold
    · simp [hpending] at hmem
    · exact htold

/-- The flags of all subscribers while `run` waits. -/
theorem Invariant.waits (hinv : h.Invariant projects) (hwaits : h.run.Waits) {ws : Ws}
    (hws : ws ∈ h.sockets) : h.Told projects ws := by
  have hsound := hinv.sound
  cases hpc : h.run with
  | idle | waiting =>
    simp only [Sound, hpc] at hsound
    exact hsound ws hws
  | asking _ _ _ _ | broadcasting _ _ =>
    rw [hpc] at hwaits
    exact hwaits.elim

/-- Every step keeps the invariant of the channel. -/
theorem Invariant.step (hinv : h.Invariant projects) (e : HubEvent) (hen : e.Enabled h) :
    (e.apply projects h).Invariant projects := by
  have hm := hinv.registry
  cases e with
  | start key now idleSeconds =>
    exact hinv.setRegistry (hm.start key now idleSeconds) (by simp)
  | terminate sid => exact hinv.setRegistry (hm.terminate sid) Registry.terminate_silent
  | terminated sid =>
    exact hinv.setRegistry (hm.terminated sid) fun _ => Registry.terminated_silent hen
  | purge key => exact hinv.setRegistry (hm.purge key) fun _ => Registry.purge_silent _ key
  | exit sid attached => exact hinv.setRegistry (hm.exit sid attached) (Registry.exit_silent hm)
  | exitReturns sid =>
    refine hinv.setRegistry (hm.exitReturns hen) fun hnotify => ?_
    exact Registry.exitReturns_silent (by simpa using hnotify)
  | add ws => exact hinv.add ws
  | discard ws => exact hinv.discard ws
  | wake found => exact proceed_invariant found hm (by simp)
  | timeOut found =>
    have hwaits : h.run.Waits := by
      rw [show h.run = .waiting from hen]
      trivial
    exact proceed_invariant found hm fun _ _ hws => hinv.waits hwaits hws
  | answer history found => exact hinv.answer history found
  | sent ws => exact hinv.sent ws
  | gathered => exact hinv.gathered hen

/-- The invariant holds when the server starts. -/
theorem invariant_initial (projects : List Project) : ({} : Hub).Invariant projects := by
  refine ⟨⟨fun _ _ => ⟨rfl, rfl⟩, fun _ _ => rfl⟩, ?_⟩
  simp [Sound]

end Hub

/-- A state of the channel that the server reaches. -/
def HubReachable (projects : List Project) (h : Hub) : Prop :=
  Run (statusSystem projects) (fun _ _ => True) {} h

/-- The invariant of the channel holds in every run. -/
theorem HubReachable.invariant {projects : List Project} {h : Hub}
    (hreach : HubReachable projects h) : h.Invariant projects :=
  Run.invariant hreach (Hub.invariant_initial projects)
    fun _ e hinv hen _ => hinv.step e hen

/-- While `run` waits with `_dirty` unset and no `_handle_exit` is in progress, the last payload
of every subscriber has the current live flags of all projects. -/
theorem HubReachable.flags_current {projects : List Project} {h : Hub}
    (hreach : HubReachable projects h) (hwaits : h.run.Waits) (hdirty : h.dirty = false)
    (hexits : ∀ sid wasLive, h.registry.exits sid ≠ .waiting wasLive) {ws : Ws}
    (hws : ws ∈ h.sockets) :
    ∃ payload, h.sentTo ws = some payload ∧
      payload.map StatusEntry.project = projects ∧
      ∀ entry ∈ payload, ∀ agent,
        entry.flag agent = h.registry.isLive ⟨entry.project.name, agent⟩ := by
  obtain ⟨payload, hsent, hprojects, hentries⟩ := hreach.invariant.waits hwaits hws hdirty
  refine ⟨payload, hsent, hprojects, fun entry hentry agent => ?_⟩
  refine hentries entry hentry agent hdirty ?_
  rintro ⟨sid, hsid⟩
  exact hexits sid true hsid

/-- A local project. -/
def demoProject : Project where
  name := py ['d', 'e', 'm', 'o']
  path := py ['/', 'd', 'e', 'm', 'o']

/-- A run in which a session starts while the snapshot of its project waits for the history. -/
def startDuringSnapshot : List HubEvent :=
  [.add 0, .wake fun _ => false, .start ⟨demoProject.name, .claude⟩ 5 0,
    .answer true fun _ => false, .sent 0, .gathered, .wake fun _ => false,
    .answer true fun _ => false, .sent 0, .gathered]

/-- The run ends with the new flag at the subscriber. -/
theorem HubReachable.flags_current_started :
    ∃ payload, ((statusSystem [demoProject]).exec {} startDuringSnapshot).sentTo 0 =
        some payload ∧
      payload.map StatusEntry.project = [demoProject] ∧
      ∀ entry ∈ payload, ∀ agent, entry.flag agent =
        ((statusSystem [demoProject]).exec {} startDuringSnapshot).registry.isLive
          ⟨entry.project.name, agent⟩ :=
  HubReachable.flags_current (System.Valid.run _ (by decide)) (by decide) (by decide)
    (by rintro _ _ ⟨⟩) (by decide)

example : (((statusSystem [demoProject]).exec {} startDuringSnapshot).sentTo 0).map
    (fun payload => payload.map StatusEntry.live) = some [true] := by decide

end WTerm
