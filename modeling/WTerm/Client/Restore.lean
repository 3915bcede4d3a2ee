import WTerm.Client.Hash
import WTerm.Manager.Expiry
import WTerm.Manager.Spawns

/-!
# Loading the page

`restoreFromHash` runs once, on the first snapshot of the projects. If the snapshot shows the
session of the address as live, it connects in mode `attach`. When `terminal_ws` gets the
transition lock for the connection, it decides again, and it starts a session if none is live.
-/

namespace WTerm

open Transition Control

/-- The page that is loaded, and the session key that is looked at. -/
structure Load where
  /-- `location.hash`. -/
  hash : PyStr
  /-- The connection that `restoreFromHash` makes. -/
  ws : Ws
  /-- The project of the key. -/
  project : PyStr
  /-- The agent of the key and what its sessions are configured with. -/
  settings : Settings

/-- The page and the event loop's state of the key. -/
structure LoadState where
  /-- `hashRestored`. -/
  hashRestored : Bool := false
  /-- The project and the agent of the connection, until `terminal_ws` gets it. -/
  request : Option (PyStr × PyStr) := none
  world : World := {}
  /-- History: how many sessions the handshake of the connection has created. -/
  started : ℕ := 0

/-- The steps of the page and of the event loop. -/
inductive LoadEvent where
  /-- `applyProjects` gets a snapshot. -/
  | snapshot (projects : List StatusEntry)
  /-- `terminal_ws` gets the connection. `authed` is the answer of `is_authed`. -/
  | arrive (authed found : Bool)
  /-- Any other step of the event loop. -/
  | server (e : Event)

/-- The connection passes the checks of `terminal_ws` and belongs to the key. -/
def Load.Opens (load : Load) (request : PyStr × PyStr) : Prop :=
  openedName request.1 .attach load.settings.agent = some load.project ∧
    parseAgent request.2 = some load.settings.agent

instance (load : Load) (request : PyStr × PyStr) : Decidable (load.Opens request) :=
  inferInstanceAs (Decidable (_ ∧ _))

/-- What the event loop does at the key in a step. -/
def LoadEvent.event (load : Load) (st : LoadState) : LoadEvent → Option Event
  | .snapshot _ => none
  | .arrive authed found =>
    if authed = true ∧ ∃ request, st.request = some request ∧ load.Opens request then
      some (.connect load.ws .attach found)
    else none
  | .server e => some e

/-- What the page does in a step. -/
def LoadEvent.page (load : Load) (st : LoadState) : LoadEvent → LoadState
  | .snapshot projects =>
    if st.hashRestored then st
    else { st with hashRestored := true, request := restoreFromHash load.hash projects }
  | .arrive _ _ => { st with request := none }
  | .server _ => st

/-- How many sessions the handshake of the connection creates in an event. -/
def Load.starts (load : Load) (w : World) (e : Event) : ℕ :=
  if e.handshake load.settings w = some load.ws then
    (e.apply load.settings w).count - w.count
  else 0

/-- The state after an event of the event loop. -/
def LoadState.serve (load : Load) (st : LoadState) (e : Event) : LoadState :=
  { st with
    world := e.apply load.settings st.world
    started := st.started + load.starts st.world e }

/-- When a step can happen. No other connection is the one of the page. -/
def LoadEvent.Enabled (load : Load) (st : LoadState) : LoadEvent → Prop
  | .snapshot _ => True
  | .arrive _ _ => st.request.isSome = true ∧ st.world.routes load.ws = .absent
  | .server e => e.Enabled st.world ∧ e.connects ≠ some load.ws

instance LoadEvent.decidableEnabled (load : Load) (st : LoadState) :
    (e : LoadEvent) → Decidable (e.Enabled load st)
  | .snapshot _ => inferInstanceAs (Decidable True)
  | .arrive _ _ => inferInstanceAs (Decidable (_ ∧ _))
  | .server _ => inferInstanceAs (Decidable (_ ∧ _))

/-- The page and the event loop, in any interleaving. -/
def loadSystem (load : Load) : System LoadState LoadEvent where
  Enabled st e := e.Enabled load st
  apply st e :=
    match e.event load st with
    | none => e.page load st
    | some event => (e.page load st).serve load event

instance (load : Load) (st : LoadState) (e : LoadEvent) :
    Decidable ((loadSystem load).Enabled st e) :=
  inferInstanceAs (Decidable (e.Enabled load st))

/-- If the connection gets the transition lock in the step, a session of the key is live. -/
def LiveAtEntry (load : Load) (st : LoadState) (e : LoadEvent) : Prop :=
  (e.event load st).bind (Event.grants load.settings st.world) = some (.route load.ws .attach) →
    st.world.live.isSome = true

/-! ## One step -/

section Step

variable {load : Load} {st : LoadState} {e : LoadEvent}

/-- The page does not reach into the event loop. -/
theorem LoadEvent.page_frame :
    (e.page load st).world = st.world ∧ (e.page load st).started = st.started := by
  cases e with
  | snapshot projects => by_cases h : st.hashRestored = true <;> simp [page, h]
  | arrive authed found => exact ⟨rfl, rfl⟩
  | server e => exact ⟨rfl, rfl⟩

theorem LoadEvent.page_world : (e.page load st).world = st.world := page_frame.1

theorem LoadEvent.page_started : (e.page load st).started = st.started := page_frame.2

/-- An event of the event loop in an enabled step is enabled, and begins a handshake of the
page's connection in mode `attach` only. -/
theorem LoadEvent.event_enabled (hen : e.Enabled load st) {event : Event}
    (hevent : e.event load st = some event) :
    event.Enabled st.world ∧
      ∀ mode found, event = .connect load.ws mode found → mode = .attach := by
  cases e with
  | snapshot projects => cases hevent
  | arrive authed found =>
    obtain ⟨-, hsome⟩ := Option.ite_none_right_eq_some.mp hevent
    obtain rfl := Option.some.inj hsome
    refine ⟨hen.2, ?_⟩
    rintro mode found' hsame
    cases hsame
    rfl
  | server e =>
    obtain rfl := Option.some.inj hevent
    refine ⟨hen.1, ?_⟩
    rintro mode found rfl
    exact absurd rfl hen.2

/-- A state in which the connection has only handshakes in mode `attach`. -/
structure LoadState.Restoring (load : Load) (st : LoadState) : Prop where
  sound : Sound st.world
  attachOnly : AttachOnly load.ws st.world.control

theorem LoadState.Restoring.initial : Restoring load {} := ⟨Sound.initial, AttachOnly.initial⟩

theorem LoadState.Restoring.step (h : st.Restoring load) (hen : e.Enabled load st) :
    ((loadSystem load).apply st e).Restoring load := by
  cases hevent : e.event load st with
  | none =>
    simp only [loadSystem, hevent]
    exact ⟨by rw [LoadEvent.page_world]; exact h.sound,
      by rw [LoadEvent.page_world]; exact h.attachOnly⟩
  | some event =>
    obtain ⟨henabled, hmode⟩ := LoadEvent.event_enabled hen hevent
    simp only [loadSystem, hevent, LoadState.serve, LoadEvent.page_world]
    exact ⟨h.sound.apply henabled, h.attachOnly.apply h.sound henabled hmode⟩

/-- A step creates a session for the connection if and only if the connection gets the lock in it
and no session is live. -/
theorem LoadState.Restoring.started_step (h : st.Restoring load) (hen : e.Enabled load st)
    [Decidable (LiveAtEntry load st e)] :
    ((loadSystem load).apply st e).started =
      if LiveAtEntry load st e then st.started else st.started + 1 := by
  cases hevent : e.event load st with
  | none =>
    have hlive : LiveAtEntry load st e := by
      intro hgrants
      simp [hevent] at hgrants
    rw [if_pos hlive]
    simp only [loadSystem, hevent, LoadEvent.page_started]
  | some event =>
    obtain ⟨henabled, hmode⟩ := LoadEvent.event_enabled hen hevent
    have hstarts : load.starts st.world event = if LiveAtEntry load st e then 0 else 1 := by
      have hentry : LiveAtEntry load st e ↔
          ¬(event.grants load.settings st.world = some (.route load.ws .attach) ∧
            st.world.live.isSome = false) := by
        simp only [LiveAtEntry, hevent, Option.bind_some, not_and, Bool.not_eq_false]
      unfold Load.starts
      by_cases hshake : event.handshake load.settings st.world = some load.ws
      · rw [if_pos hshake, Event.attach_count h.attachOnly hshake hmode]
        by_cases hgrants : event.grants load.settings st.world = some (.route load.ws .attach) ∧
            st.world.live.isSome = false
        · rw [if_pos hgrants, if_neg (fun hlive => hentry.mp hlive hgrants)]
          omega
        · rw [if_neg hgrants, if_pos (hentry.mpr hgrants)]
          omega
      · rw [if_neg hshake, if_pos]
        exact hentry.mpr fun hgrants => hshake (Event.handshake_of_grants hgrants.1)
    simp only [loadSystem, hevent, LoadState.serve, LoadEvent.page_started, LoadEvent.page_world,
      hstarts]
    split <;> rfl

end Step

/-! ## Runs -/

section Run

variable {load : Load} {st : LoadState}

theorem restoring_run {cond : LoadState → LoadEvent → Prop}
    (hrun : Run (loadSystem load) cond {} st) : st.Restoring load :=
  hrun.invariant .initial fun _ _ h hen _ => h.step hen

open Classical in
/-- The connection that the page makes while it is loaded starts no process if and only if a
session of its key is live whenever the connection gets the transition lock. -/
theorem restore_starts_nothing_iff (load : Load) (st : LoadState) :
    Run (loadSystem load) (fun _ _ => True) {} st ∧ st.started = 0 ↔
      Run (loadSystem load) (LiveAtEntry load) {} st := by
  constructor
  · rintro ⟨hrun, hstarted⟩
    induction hrun with
    | refl => exact .refl
    | @step st e hrun hen _ ih =>
      have hstep := (restoring_run hrun).started_step hen
      rw [hstarted] at hstep
      by_cases hlive : LiveAtEntry load st e
      · rw [if_pos hlive] at hstep
        exact (ih hstep.symm).step e hen hlive
      · rw [if_neg hlive] at hstep
        omega
  · intro hrun
    refine ⟨hrun.mono fun _ _ _ => trivial, ?_⟩
    induction hrun with
    | refl => rfl
    | @step st e hrun hen hlive ih =>
      rw [(restoring_run hrun).started_step hen, if_pos hlive, ih]

/-- The address of the shell of a project. -/
def shellLoad : Load where
  hash := py "#p/shell".toList
  ws := 1
  project := py ['p']
  settings := shellSettings

/-- A snapshot in which the shell of the project is live. -/
def shellSnapshot : List StatusEntry :=
  [⟨{ name := py ['p'], path := py ['/'] }, false, false, true, false, false⟩]

/-- The shell exits between the snapshot, which shows it as live, and the handshake. -/
def exitDuringLoad : LoadState := (loadSystem shellLoad).exec {}
  [.server (.connect 0 .attach false), .snapshot shellSnapshot, .server (.ptyEof 0),
    .server (.childExits 0), .server (.exitRuns 0 (some 0)), .arrive true false]

/-- Opening an address can start a process. -/
theorem restore_starts_process : ¬∀ (load : Load) (st : LoadState),
    Run (loadSystem load) (fun _ _ => True) {} st → st.started = 0 := by
  intro h
  have hnone := h shellLoad exitDuringLoad (System.Valid.run _ (by decide))
  exact absurd hnone (by decide)

end Run

end WTerm
