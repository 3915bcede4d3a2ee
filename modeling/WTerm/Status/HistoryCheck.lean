import WTerm.Lib.Transition
import WTerm.Status.RemoteHistory

/-!
# The process of a remote history check

`remote_has_history` waits for its `ssh` at most ten seconds. A process that does not answer, or
whose caller is cancelled, is reaped by `_reap_subprocess`: terminated, and killed a second later.
-/

namespace WTerm

open Transition

/-- `REMOTE_HISTORY_TIMEOUT`. -/
def remoteHistoryTimeout : ℕ := 10 * second

/-- The `ssh` process. -/
inductive Ssh where
  | running
  | exited (returncode : ℤ)
  deriving DecidableEq

/-- Where `_reap_subprocess` stands. -/
inductive Reaper where
  | absent
  /-- A task that has not taken its first step. -/
  | created
  /-- In the wait of a second. -/
  | terminating
  /-- In the wait for a process that was killed. -/
  | killing
  | done
  deriving DecidableEq

/-- Where `remote_has_history` stands. -/
inductive CheckPc where
  /-- In `create_subprocess_exec`. -/
  | spawning
  /-- In `wait_for(proc.wait(), REMOTE_HISTORY_TIMEOUT)`. -/
  | waiting
  /-- In `_reap_subprocess`, after the time is over. -/
  | reaping
  /-- In `shield(_reap_subprocess(proc))`, after a cancellation. -/
  | shielding
  | returned (state : HistoryState)
  /-- `CancelledError` was raised. -/
  | raised
  deriving DecidableEq

/-- One call of `remote_has_history`. -/
structure HistoryCheck where
  now : ℕ := 0
  pc : CheckPc := .spawning
  ssh : Option Ssh := none
  /-- When the wait for the answer is over. -/
  deadline : ℕ := 0
  reaper : Reaper := .absent
  /-- When the wait of a second is over. -/
  killAt : ℕ := 0
  /-- History: `proc.terminate()` was called. -/
  terminated : Bool := false
  /-- History: `proc.kill()` was called. -/
  killed : Bool := false

/-- What can happen. -/
inductive CheckEvent where
  | tick (elapsed : ℕ)
  | spawned
  /-- `create_subprocess_exec` raises `OSError`. -/
  | spawnFails
  | exits (returncode : ℤ)
  /-- The wait for the answer returns. -/
  | answers
  /-- The wait for the answer is over. -/
  | timesOut
  /-- The caller is cancelled. -/
  | cancel
  /-- The shielded task takes its first step. -/
  | reaperBegins
  /-- A wait of `_reap_subprocess` returns. -/
  | reaperReturns
  /-- The wait of a second is over. -/
  | reaperTimesOut
  deriving DecidableEq

namespace HistoryCheck

/-- `proc.returncode is not None`. -/
def Exited (c : HistoryCheck) : Prop := ∃ returncode, c.ssh = some (.exited returncode)

instance decidableExited (c : HistoryCheck) : Decidable c.Exited :=
  match h : c.ssh with
  | some (.exited returncode) => isTrue ⟨returncode, h⟩
  | none | some .running => isFalse fun ⟨_, h'⟩ => by
      rw [h] at h'
      cases h'

/-- `_reap_subprocess` returns, to the call if that waits for it. -/
def finishReaper (c : HistoryCheck) : HistoryCheck :=
  { c with
    reaper := .done
    pc := match c.pc with
      | .reaping => .returned .error
      | .shielding => .raised
      | pc => pc }

/-- `_reap_subprocess`, up to its first wait. -/
def beginReaper (c : HistoryCheck) : HistoryCheck :=
  if c.Exited then c.finishReaper
  else { c with terminated := true, reaper := .terminating, killAt := c.now + second }

/-- The caller is cancelled. -/
def cancel (c : HistoryCheck) : HistoryCheck :=
  match c.pc with
  | .waiting => { c with pc := .shielding, reaper := .created }
  -- The exception goes through `_reap_subprocess`, which does not go on.
  | .reaping => { c with pc := .raised, reaper := .absent }
  | .shielding => { c with pc := .raised }
  | _ => c

end HistoryCheck

namespace CheckEvent

/-- When an event can happen. -/
def Enabled (c : HistoryCheck) : CheckEvent → Prop
  | .tick _ => True
  | .spawned | .spawnFails => c.pc = .spawning
  | .exits _ => c.ssh = some .running
  | .answers => c.pc = .waiting ∧ c.Exited
  | .timesOut => c.pc = .waiting ∧ c.deadline ≤ c.now
  | .cancel => c.pc = .waiting ∨ c.pc = .reaping ∨ c.pc = .shielding
  | .reaperBegins => c.reaper = .created
  | .reaperReturns => (c.reaper = .terminating ∨ c.reaper = .killing) ∧ c.Exited
  | .reaperTimesOut => c.reaper = .terminating ∧ c.killAt ≤ c.now

instance decidableEnabled (c : HistoryCheck) : (e : CheckEvent) → Decidable (e.Enabled c)
  | .tick _ => inferInstanceAs (Decidable True)
  | .spawned | .spawnFails | .exits _ | .reaperBegins => inferInstanceAs (Decidable (_ = _))
  | .answers | .timesOut | .reaperReturns | .reaperTimesOut => inferInstanceAs (Decidable (_ ∧ _))
  | .cancel => inferInstanceAs (Decidable (_ ∨ _))

/-- The call after an event. -/
def apply (c : HistoryCheck) : CheckEvent → HistoryCheck
  | .tick elapsed => { c with now := c.now + elapsed }
  | .spawned =>
    { c with pc := .waiting, ssh := some .running, deadline := c.now + remoteHistoryTimeout }
  | .spawnFails => { c with pc := .returned .error }
  | .exits returncode => { c with ssh := some (.exited returncode) }
  | .answers =>
    match c.ssh with
    | some (.exited returncode) => { c with pc := .returned (historyState returncode) }
    | _ => c
  | .timesOut => { c with pc := .reaping }.beginReaper
  | .cancel => c.cancel
  | .reaperBegins => c.beginReaper
  | .reaperReturns => c.finishReaper
  | .reaperTimesOut => { c with killed := true, reaper := .killing }

end CheckEvent

/-- The transition system of a history check. -/
def historyCheckSystem : System HistoryCheck CheckEvent where
  Enabled := fun c e => e.Enabled c
  apply := CheckEvent.apply

instance historyCheckDecidable (c : HistoryCheck) (e : CheckEvent) :
    Decidable (historyCheckSystem.Enabled c e) :=
  inferInstanceAs (Decidable (e.Enabled c))

/-- `_reap_subprocess` is on its way. -/
def Reaper.Active : Reaper → Prop
  | .created | .terminating | .killing => True
  | .absent | .done => False

/-- It is on its way once the process is terminated, until the process has exited. -/
theorem Reaper.active_of_terminated {reaper : Reaper}
    (h : reaper = .terminating ∨ reaper = .killing) : reaper.Active := by
  rcases h with rfl | rfl
  · trivial
  · trivial

namespace HistoryCheck

variable {c : HistoryCheck}

/-- What holds of the place where the call stands. -/
def PcSound (c : HistoryCheck) : CheckPc → Prop
  | .spawning => c.ssh = none ∧ c.reaper = .absent
  | .waiting => c.ssh ≠ none ∧ c.reaper = .absent
  | .reaping => c.reaper.Active ∧ c.ssh ≠ none ∧ c.terminated = true ∧ c.deadline ≤ c.now
  | .shielding => c.reaper.Active ∧ c.ssh ≠ none
  | .returned state => ¬c.reaper.Active ∧ c.ssh ≠ some .running ∧
      (state = .present → c.ssh = some (.exited 0)) ∧ (state = .absent → c.ssh = some (.exited 1))
  | .raised => c.ssh ≠ none ∧
      (c.reaper.Active ∨ c.Exited ∨ c.terminated = true ∧ c.deadline ≤ c.now)

/-- What holds of a call at any time. -/
structure Sound (c : HistoryCheck) : Prop where
  pc : c.PcSound c.pc
  terminating : c.reaper = .terminating ∨ c.reaper = .killing → c.terminated = true
  active : c.reaper.Active → c.ssh ≠ none

/-- The check is sound before the process is started. -/
theorem Sound.initial : Sound {} where
  pc := ⟨rfl, rfl⟩
  terminating h := by rcases h with h | h <;> cases h
  active h := h.elim

/-- A process that has exited does not run. -/
theorem Exited.not_running (h : c.Exited) : c.ssh ≠ some .running := by
  obtain ⟨returncode, hssh⟩ := h
  rw [hssh]
  intro hrunning
  cases hrunning

/-- `_reap_subprocess` returns after the process has exited. -/
theorem sound_finishReaper (hexited : c.Exited)
    (hpc : c.pc = .reaping ∨ c.pc = .shielding ∨ c.pc = .raised) : c.finishReaper.Sound := by
  have hsome : c.ssh ≠ none := by
    obtain ⟨returncode, hssh⟩ := hexited
    simp [hssh]
  unfold HistoryCheck.finishReaper
  refine ⟨?_, fun hreaper => ?_, fun hactive => hactive.elim⟩
  · rcases hpc with hpc | hpc | hpc
    · simp only [hpc]
      exact ⟨id, hexited.not_running, fun hstate => (by cases hstate),
        fun hstate => (by cases hstate)⟩
    · simp only [hpc]
      exact ⟨hsome, .inr (.inl hexited)⟩
    · simp only [hpc]
      exact ⟨hsome, .inr (.inl hexited)⟩
  · rcases hreaper with hreaper | hreaper <;> cases hreaper

/-- The check stays sound when `_reap_subprocess` begins, after the time for the answer or in the
handling of an exception. -/
theorem sound_beginReaper (hsome : c.ssh ≠ none)
    (hpc : c.pc = .reaping ∧ c.deadline ≤ c.now ∨ c.pc = .shielding ∨ c.pc = .raised) :
    c.beginReaper.Sound := by
  unfold HistoryCheck.beginReaper
  split
  · next hexited =>
    exact sound_finishReaper hexited (hpc.imp_left And.left)
  · refine ⟨?_, fun _ => rfl, fun _ => hsome⟩
    rcases hpc with ⟨hpc, hdeadline⟩ | hpc | hpc
    · simp only [hpc]
      exact ⟨trivial, hsome, rfl, hdeadline⟩
    · simp only [hpc]
      exact ⟨trivial, hsome⟩
    · simp only [hpc]
      exact ⟨hsome, .inl trivial⟩

/-- Where a call stands while `_reap_subprocess` is on its way. -/
theorem Sound.pc_of_active (h : c.Sound) (hactive : c.reaper.Active) :
    c.pc = .reaping ∧ c.deadline ≤ c.now ∨ c.pc = .shielding ∨ c.pc = .raised := by
  have hpc := h.pc
  cases hcase : c.pc with
  | spawning | waiting =>
    rw [hcase] at hpc
    rw [hpc.2] at hactive
    exact hactive.elim
  | reaping =>
    rw [hcase] at hpc
    exact .inl ⟨rfl, hpc.2.2.2⟩
  | shielding => exact .inr (.inl rfl)
  | returned state =>
    rw [hcase] at hpc
    exact absurd hactive hpc.1
  | raised => exact .inr (.inr rfl)

/-- The check stays sound when its caller is cancelled. -/
theorem Sound.cancel (h : c.Sound) : c.cancel.Sound := by
  have hpc := h.pc
  unfold HistoryCheck.cancel
  cases hcase : c.pc with
  | waiting =>
    rw [hcase] at hpc
    refine ⟨⟨trivial, hpc.1⟩, fun hreaper => ?_, fun _ => hpc.1⟩
    rcases hreaper with hreaper | hreaper <;> cases hreaper
  | reaping =>
    rw [hcase] at hpc
    obtain ⟨-, hsome, hterminated, hdeadline⟩ := hpc
    refine ⟨⟨hsome, .inr (.inr ⟨hterminated, hdeadline⟩)⟩, fun hreaper => ?_, fun _ => hsome⟩
    rcases hreaper with hreaper | hreaper <;> cases hreaper
  | shielding =>
    rw [hcase] at hpc
    exact ⟨⟨hpc.2, .inl hpc.1⟩, h.terminating, h.active⟩
  | spawning | returned _ | raised =>
    dsimp only
    exact h

/-- The check stays sound when the process exits by itself. -/
theorem Sound.exits (h : c.Sound) (hrunning : c.ssh = some .running) (returncode : ℤ) :
    ({ c with ssh := some (.exited returncode) } : HistoryCheck).Sound := by
  refine ⟨?_, h.terminating, fun _ => Option.some_ne_none _⟩
  have hpc := h.pc
  show ({ c with ssh := some (.exited returncode) } : HistoryCheck).PcSound c.pc
  cases hcase : c.pc with
  | spawning =>
    rw [hcase] at hpc
    have hnone := hpc.1
    rw [hrunning] at hnone
    cases hnone
  | waiting =>
    rw [hcase] at hpc
    exact ⟨Option.some_ne_none _, hpc.2⟩
  | reaping =>
    rw [hcase] at hpc
    exact ⟨hpc.1, Option.some_ne_none _, hpc.2.2⟩
  | shielding =>
    rw [hcase] at hpc
    exact ⟨hpc.1, Option.some_ne_none _⟩
  | returned state =>
    rw [hcase] at hpc
    exact absurd hrunning hpc.2.1
  | raised => exact ⟨Option.some_ne_none _, .inr (.inl ⟨returncode, rfl⟩)⟩

/-- The check stays sound as time goes on. -/
theorem Sound.tick (h : c.Sound) (elapsed : ℕ) :
    ({ c with now := c.now + elapsed } : HistoryCheck).Sound := by
  refine ⟨?_, h.terminating, h.active⟩
  have hpc := h.pc
  show ({ c with now := c.now + elapsed } : HistoryCheck).PcSound c.pc
  cases hcase : c.pc with
  | reaping =>
    rw [hcase] at hpc
    obtain ⟨hactive, hsome, hterminated, hdeadline⟩ := hpc
    exact ⟨hactive, hsome, hterminated, Nat.le_trans hdeadline (Nat.le_add_right _ _)⟩
  | raised =>
    rw [hcase] at hpc
    obtain ⟨hsome, hactive | hexited | ⟨hterminated, hdeadline⟩⟩ := hpc
    · exact ⟨hsome, .inl hactive⟩
    · exact ⟨hsome, .inr (.inl hexited)⟩
    · exact ⟨hsome, .inr (.inr ⟨hterminated, Nat.le_trans hdeadline (Nat.le_add_right _ _)⟩)⟩
  | spawning | waiting | shielding | returned _ =>
    rw [hcase] at hpc
    exact hpc

/-- The check stays sound when the process answers within the time. -/
theorem Sound.answers (h : c.Sound) (hwaiting : c.pc = .waiting) {returncode : ℤ}
    (hssh : c.ssh = some (.exited returncode)) :
    ({ c with pc := .returned (historyState returncode) } : HistoryCheck).Sound := by
  have hpc := h.pc
  rw [hwaiting] at hpc
  have hidle : ¬c.reaper.Active := by
    rw [hpc.2]
    exact id
  refine ⟨⟨hidle, ?_, fun hstate => ?_, fun hstate => ?_⟩, h.terminating, h.active⟩
  · exact Exited.not_running ⟨returncode, hssh⟩
  · show c.ssh = _
    rw [hssh]
    unfold historyState at hstate
    split_ifs at hstate with hzero
    rw [hzero]
  · show c.ssh = _
    rw [hssh]
    unfold historyState at hstate
    split_ifs at hstate with hzero hone
    rw [hone]

/-- The second is over: the process is killed. -/
theorem Sound.kill (h : c.Sound) (hreaper : c.reaper = .terminating) :
    ({ c with killed := true, reaper := .killing } : HistoryCheck).Sound := by
  have hactive : c.reaper.Active := Reaper.active_of_terminated (.inl hreaper)
  have hterminated := h.terminating (.inl hreaper)
  have hsome := h.active hactive
  refine ⟨?_, fun _ => hterminated, fun _ => hsome⟩
  show ({ c with killed := true, reaper := .killing } : HistoryCheck).PcSound c.pc
  rcases h.pc_of_active hactive with ⟨hpc, hdeadline⟩ | hpc | hpc
  · rw [hpc]
    exact ⟨trivial, hsome, hterminated, hdeadline⟩
  · rw [hpc]
    exact ⟨trivial, hsome⟩
  · rw [hpc]
    exact ⟨hsome, .inl trivial⟩

/-- Every event keeps what holds of a call. -/
theorem Sound.step (h : c.Sound) {e : CheckEvent} (hen : e.Enabled c) : (e.apply c).Sound := by
  cases e with
  | tick elapsed => exact h.tick elapsed
  | spawned =>
    have hpc := h.pc
    have hspawning : c.pc = .spawning := hen
    rw [hspawning] at hpc
    exact ⟨⟨Option.some_ne_none _, hpc.2⟩, h.terminating, fun _ => Option.some_ne_none _⟩
  | spawnFails =>
    have hpc := h.pc
    have hspawning : c.pc = .spawning := hen
    rw [hspawning] at hpc
    have hidle : ¬c.reaper.Active := by
      rw [hpc.2]
      exact id
    refine ⟨⟨hidle, fun hrunning => ?_, fun hstate => (by cases hstate),
      fun hstate => (by cases hstate)⟩, h.terminating, h.active⟩
    have hnone : c.ssh = none := hpc.1
    have hsome : c.ssh = some .running := hrunning
    rw [hnone] at hsome
    cases hsome
  | exits returncode => exact h.exits hen returncode
  | answers =>
    obtain ⟨hwaiting, returncode, hssh⟩ := hen
    have happly : CheckEvent.apply c .answers =
        { c with pc := .returned (historyState returncode) } := by
      simp [CheckEvent.apply, hssh]
    rw [happly]
    exact h.answers hwaiting hssh
  | timesOut =>
    obtain ⟨hwaiting, hdeadline⟩ := hen
    have hpc := h.pc
    rw [hwaiting] at hpc
    exact sound_beginReaper (c := { c with pc := .reaping }) hpc.1 (.inl ⟨rfl, hdeadline⟩)
  | cancel => exact h.cancel
  | reaperBegins =>
    have hactive : c.reaper.Active := by
      have hcreated : c.reaper = .created := hen
      rw [hcreated]
      trivial
    exact sound_beginReaper (h.active hactive) (h.pc_of_active hactive)
  | reaperReturns =>
    obtain ⟨hreaper, hexited⟩ := hen
    have hactive : c.reaper.Active := Reaper.active_of_terminated hreaper
    exact sound_finishReaper hexited ((h.pc_of_active hactive).imp_left And.left)
  | reaperTimesOut => exact h.kill hen.1

end HistoryCheck

/-- However the process, the time and the cancellations interleave: a history check that answers
leaves no process behind, and says that there is a history, or that there is none, only if the
remote command said so. One that is cancelled leaves a process behind only while `_reap_subprocess`
is on its way, or if it was cancelled within `_reap_subprocess`, after the time for the answer was
over and the process was terminated. -/
theorem historyCheck_reaped {c : HistoryCheck}
    (hrun : Run historyCheckSystem (fun _ _ => True) {} c) :
    (∀ state, c.pc = .returned state → c.ssh ≠ some .running ∧
        (state = .present → c.ssh = some (.exited 0)) ∧
        (state = .absent → c.ssh = some (.exited 1))) ∧
      (c.pc = .raised → c.ssh = some .running →
        c.reaper.Active ∨ c.terminated = true ∧ c.deadline ≤ c.now) := by
  have hsound : c.Sound := hrun.invariant HistoryCheck.Sound.initial fun _ _ h hen _ => h.step hen
  have hpc := hsound.pc
  constructor
  · intro state hreturned
    rw [hreturned] at hpc
    exact hpc.2
  · intro hraised hrunning
    rw [hraised] at hpc
    obtain ⟨-, hactive | hexited | hlate⟩ := hpc
    · exact .inl hactive
    · exact absurd hrunning hexited.not_running
    · exact .inr hlate

/-- The time for the answer is over, the process is terminated, and the caller is cancelled. -/
def lateCancel : HistoryCheck := historyCheckSystem.exec {}
  [.spawned, .tick (10 * second), .timesOut, .cancel]

/-- In such a run the caller gets an exception, and the process is left behind. -/
theorem historyCheck_reaped_late : (lateCancel.pc = .raised ∧ lateCancel.ssh = some .running) ∧
    (∀ state, lateCancel.pc = .returned state → lateCancel.ssh ≠ some .running ∧
        (state = .present → lateCancel.ssh = some (.exited 0)) ∧
        (state = .absent → lateCancel.ssh = some (.exited 1))) ∧
      (lateCancel.pc = .raised → lateCancel.ssh = some .running →
        lateCancel.reaper.Active ∨ lateCancel.terminated = true ∧
          lateCancel.deadline ≤ lateCancel.now) :=
  ⟨by decide, historyCheck_reaped (System.Valid.run _ (by decide))⟩

end WTerm
