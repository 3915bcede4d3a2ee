import Mathlib.Data.Finset.Max
import WTerm.Manager.ShutdownRuns

/-!
# How long the shutdown takes

The `terminate` calls of the shutdown sleep at the same time. As long as the event loop is not late,
the time until all of them have returned does not depend on the number of sessions.
-/

namespace WTerm

open Transition

/-- How often a `terminate` call sleeps after its present sleep, if the child does not go. -/
def Stage.sleeps (left : ℕ) : Stage → ℕ
  | .hup => left + (Stage.term.checks + Stage.kill.checks)
  | .term => left + Stage.kill.checks
  | .kill => left

namespace SessionManager

/-- At a given time a task of the `gather` is not late by more than the given bound. -/
def OnTime (late : ℕ) (m : SessionManager) (sid : SessionId) (time : ℕ) :
    TerminateCall → Prop
  | .absent => time ≤ m.began + late
  | .polling _ _ => time ≤ m.wakeAt sid + late
  | .returned => True

instance decidableOnTime (late : ℕ) (m : SessionManager) (sid : SessionId) (time : ℕ) :
    (call : TerminateCall) → Decidable (m.OnTime late sid time call)
  | .absent | .polling _ _ => inferInstanceAs (Decidable (_ ≤ _))
  | .returned => inferInstanceAs (Decidable True)

end SessionManager

/-- The event loop runs every task of the `gather` at most the given time after it is due. -/
def Punctual (late : ℕ) (m : SessionManager) : ShutdownEvent → Prop
  | .tick elapsed => ∀ sid ∈ m.gathers, m.OnTime late sid (m.now + elapsed) (m.call sid)
  | _ => True

instance decidablePunctual (late : ℕ) (m : SessionManager) :
    (e : ShutdownEvent) → Decidable (Punctual late m e)
  | .tick elapsed =>
    inferInstanceAs
      (Decidable (∀ sid ∈ m.gathers, m.OnTime late sid (m.now + elapsed) (m.call sid)))
  | .start _ | .drop _ | .other _ _ | .connection _ _ | .shutdown | .begins _ | .wakes _
  | .gathered | .stopped => inferInstanceAs (Decidable True)

namespace Termination

variable {t : Termination} {k : ℕ} {stage : Stage} {left : ℕ}

/-- An iteration of `_wait_reaped` in one call leaves the other calls where they are. -/
theorem checkReaped_calls {j : ℕ} (hj : j ≠ k) :
    (t.checkReaped k stage left).calls j = t.calls j := by
  unfold checkReaped
  split
  · simp [finish, Termination.setCall, Termination.on, hj]
  · simp [Termination.setCall, hj]

/-- No other step moves a call of `terminate` on than one of the call itself. -/
theorem step_calls {e : TerminationEvent} {now : Time} (hother : e.Other now) :
    (e.apply t).calls 0 = t.calls 0 := by
  cases e with
  | call k =>
    have hk : (0 : ℕ) ≠ k := Ne.symm hother
    unfold TerminationEvent.apply terminate
    dsimp only
    split
    · exact checkReaped_calls hk
    · simp [Termination.setCall, hk]
  | poll k =>
    have hk : (0 : ℕ) ≠ k := Ne.symm hother
    rcases poll_cases t k with ⟨stage, left, -, happly⟩ | happly
    · rw [happly]
      unfold poll
      split
      · cases stage with
        | hup => exact checkReaped_calls hk
        | term => exact checkReaped_calls hk
        | kill => simp [nextStage, finish, Termination.setCall, Termination.on, hk]
      · exact checkReaped_calls hk
    · rw [happly]
  | childExits => rfl
  | ptyEof => rfl
  | exitRuns now code => rfl

/-- After an iteration of `_wait_reaped` a call has returned, or sleeps. -/
theorem checkReaped_call (t : Termination) (k : ℕ) (stage : Stage) (left : ℕ) :
    (t.checkReaped k stage left).calls k = .returned ∨
      (t.checkReaped k stage left).calls k = .polling stage (left - 1) := by
  unfold checkReaped
  split
  · exact .inl (by simp [finish, Termination.setCall])
  · exact .inr (by simp [Termination.setCall])

/-- A call has returned after its first step, or has a hundred and nine sleeps left after its
first. -/
theorem terminate_call (t : Termination) (k : ℕ) : (t.terminate k).calls k = .returned ∨
    ∃ stage left, (t.terminate k).calls k = .polling stage left ∧ stage.sleeps left = 109 := by
  unfold terminate
  split
  · exact (checkReaped_call _ k .hup 20).imp_right fun hcall => ⟨.hup, 19, hcall, rfl⟩
  · exact .inl (by simp [Termination.setCall])

/-- After each sleep a call has returned, or has one sleep less to go. -/
theorem poll_call (t : Termination) (k : ℕ) (stage : Stage) (left : ℕ) :
    (t.poll k stage left).calls k = .returned ∨ ∃ stage' left',
      (t.poll k stage left).calls k = .polling stage' left' ∧
        stage'.sleeps left' + 1 = stage.sleeps left := by
  unfold poll
  split
  · next hzero =>
    subst hzero
    cases stage with
    | hup => exact (checkReaped_call _ k .term Stage.term.checks).imp_right fun hcall =>
      ⟨.term, 79, hcall, rfl⟩
    | term => exact (checkReaped_call _ k .kill 10).imp_right fun hcall => ⟨.kill, 9, hcall, rfl⟩
    | kill => exact .inl (by simp [nextStage, finish, Termination.setCall])
  · next hleft =>
    refine (checkReaped_call t k stage left).imp_right fun hcall => ⟨stage, left - 1, hcall, ?_⟩
    cases stage <;> simp only [Stage.sleeps] <;> omega

end Termination

namespace SessionManager

variable {m m' : SessionManager} {sid : SessionId} {late : ℕ}

/-- What holds of the tasks of the `gather` in a punctual run: none of them is late, and what is
left for it to do fits in the time for one `terminate` call. -/
structure OnSchedule (late : ℕ) (m : SessionManager) : Prop where
  idle : m.shutdown = .idle → ∀ sid, m.call sid = .absent
  onTime : ∀ sid ∈ m.gathers, m.OnTime late sid m.now (m.call sid)
  sleeping : ∀ sid ∈ m.gathers, ∀ stage left, m.call sid = .polling stage left →
    m.wakeAt sid + late + stage.sleeps left * (reapSleep + late) ≤
      m.began + late + 110 * (reapSleep + late)

/-- Before anything has happened nothing is late. -/
theorem OnSchedule.initial (late : ℕ) : OnSchedule late {} where
  idle _ _ := rfl
  onTime sid hsid := by cases hsid
  sleeping sid hsid := by cases hsid

/-- What leaves the shutdown's calls alone. -/
theorem OnSchedule.of_calls (h : m.OnSchedule late) (hnow : m'.now = m.now)
    (hshutdown : m'.shutdown = m.shutdown) (hbegan : m'.began = m.began)
    (hwakeAt : m'.wakeAt = m.wakeAt)
    (hidle : m.shutdown = .idle → ∀ sid, m'.call sid = .absent)
    (hcalls : ∀ sid ∈ m.gathers, m'.call sid = m.call sid) : m'.OnSchedule late := by
  have hgathers : m'.gathers = m.gathers := by
    unfold SessionManager.gathers
    rw [hshutdown]
  have hlate (sid : SessionId) (call : TerminateCall) (hcall : m.OnTime late sid m.now call) :
      m'.OnTime late sid m'.now call := by
    cases call with
    | absent =>
      show m'.now ≤ m'.began + late
      rw [hnow, hbegan]
      exact hcall
    | polling stage left =>
      show m'.now ≤ m'.wakeAt sid + late
      rw [hnow, hwakeAt]
      exact hcall
    | returned => trivial
  refine ⟨fun hstill => hidle (hshutdown ▸ hstill), fun sid hsid => ?_,
    fun sid hsid stage left hcall => ?_⟩
  · rw [hgathers] at hsid
    rw [hcalls sid hsid]
    exact hlate sid _ (h.onTime sid hsid)
  · rw [hgathers] at hsid
    rw [hcalls sid hsid] at hcall
    rw [hwakeAt, hbegan]
    exact h.sleeping sid hsid stage left hcall

/-- A step of one session that leaves the shutdown's call alone. -/
theorem OnSchedule.on (h : m.OnSchedule late) (f : Termination → Termination)
    (hcall : (f (m.states sid)).calls 0 = m.call sid) : (m.on sid f).OnSchedule late := by
  have hcalls (other : SessionId) : (m.on sid f).call other = m.call other := by
    unfold SessionManager.call
    rw [on_states]
    split
    · next heq =>
      rw [heq]
      exact hcall
    · rfl
  refine h.of_calls rfl rfl rfl rfl (fun hidle other => ?_) fun other _ => hcalls other
  rw [hcalls]
  exact h.idle hidle other

/-- A task of the `gather` takes a step: it has returned, or it sleeps and what is left for it
still fits. -/
theorem OnSchedule.onCall (h : m.OnSchedule late) (hsid : sid ∈ m.gathers)
    (f : Termination → Termination)
    (hcall : (f (m.states sid)).calls 0 = .returned ∨ ∃ stage left,
      (f (m.states sid)).calls 0 = .polling stage left ∧
        m.now + reapSleep + late + Stage.sleeps left stage * (reapSleep + late) ≤
          m.began + late + 110 * (reapSleep + late)) : (m.onCall sid f).OnSchedule late := by
  have hself : (m.onCall sid f).call sid = (f (m.states sid)).calls 0 := by
    simp [SessionManager.call, SessionManager.onCall, SessionManager.on]
  have hwake : (m.onCall sid f).wakeAt sid = m.now + reapSleep := by
    simp [SessionManager.onCall]
  have hothers (other : SessionId) (hne : other ≠ sid) :
      (m.onCall sid f).call other = m.call other ∧
        (m.onCall sid f).wakeAt other = m.wakeAt other := by
    simp [SessionManager.call, SessionManager.onCall, SessionManager.on, hne]
  refine ⟨fun hidle => ?_, fun other hother => ?_, fun other hother stage left hpolling => ?_⟩
  · have hstill : m.shutdown = .idle := hidle
    simp [SessionManager.gathers, hstill] at hsid
  · by_cases heq : other = sid
    · rw [heq, hself]
      rcases hcall with hreturned | ⟨stage, left, hpolling, -⟩
      · rw [hreturned]
        trivial
      · rw [hpolling]
        show m.now ≤ (m.onCall sid f).wakeAt sid + late
        rw [hwake]
        omega
    · obtain ⟨hsame, hwakeAt⟩ := hothers other heq
      have hontime := h.onTime other hother
      rw [hsame]
      cases hkind : m.call other with
      | absent =>
        rw [hkind] at hontime
        exact hontime
      | polling stage left =>
        rw [hkind] at hontime
        show m.now ≤ (m.onCall sid f).wakeAt other + late
        rw [hwakeAt]
        exact hontime
      | returned => trivial
  · by_cases heq : other = sid
    · rw [heq, hself] at hpolling
      rw [heq, hwake]
      rcases hcall with hreturned | ⟨stage', left', hpolling', hfits⟩
      · rw [hreturned] at hpolling
        cases hpolling
      · rw [hpolling'] at hpolling
        obtain ⟨rfl, rfl⟩ := TerminateCall.polling.inj hpolling
        exact hfits
    · obtain ⟨hsame, hwakeAt⟩ := hothers other heq
      rw [hsame] at hpolling
      rw [hwakeAt]
      exact h.sleeping other hother stage left hpolling

/-- Past its `gather` the shutdown has no task left to wait for. -/
theorem OnSchedule.of_gathered (h : m.shutdown.Gathered) : m.OnSchedule late := by
  have hnone : m.gathers = [] := by
    unfold SessionManager.gathers
    split
    · next sids hsids =>
      rw [hsids] at h
      exact h.elim
    · rfl
  refine ⟨fun hidle => ?_, ?_, ?_⟩
  · rw [hidle] at h
    exact h.elim
  · simp [hnone]
  · simp [hnone]

/-- The last loop comes after the `gather`. -/
theorem stopWriters_gathered (sids : List SessionId) (m : SessionManager) :
    (stopWriters sids m).shutdown.Gathered := by
  obtain ⟨-, ⟨hreturned, -⟩ | ⟨⟨sid, task, rest, hstopping⟩, -⟩⟩ := stopWriters_spec sids m
  · rw [hreturned]
    trivial
  · rw [hstopping]
    trivial

/-- `shutdown` is called: its tasks are due at once. -/
theorem OnSchedule.beginShutdown (h : m.OnSchedule late) (hidle : m.shutdown = .idle) :
    m.beginShutdown.OnSchedule late := by
  have habsent (sid : SessionId) : m.beginShutdown.call sid = .absent ∨
      m.beginShutdown.shutdown.Gathered := by
    unfold SessionManager.beginShutdown
    dsimp only
    split
    · exact .inr trivial
    · left
      have hbefore : (m.states sid).calls 0 = .absent := h.idle hidle sid
      show (ite _ _ _ : Termination).calls 0 = _
      split
      · exact hbefore
      · exact hbefore
  by_cases hgathered : m.beginShutdown.shutdown.Gathered
  · exact .of_gathered hgathered
  · have hcall (sid : SessionId) : m.beginShutdown.call sid = .absent :=
      (habsent sid).resolve_right hgathered
    have hbegan : m.beginShutdown.now ≤ m.beginShutdown.began := by
      unfold SessionManager.beginShutdown
      dsimp only
      split <;> exact Nat.le_refl _
    refine ⟨fun _ => hcall, fun sid _ => ?_, fun sid _ stage left hpolling => ?_⟩
    · rw [hcall]
      exact Nat.le_trans hbegan (Nat.le_add_right _ _)
    · rw [hcall] at hpolling
      cases hpolling

/-- Every event of a punctual run keeps the schedule. -/
theorem OnSchedule.step (h : m.OnSchedule late) (hsound : m.Sound) {e : ShutdownEvent}
    (hen : e.Enabled m) (hpunctual : Punctual late m e) : (e.apply m).OnSchedule late := by
  cases e with
  | tick elapsed => exact ⟨h.idle, hpunctual, h.sleeping⟩
  | start idleSeconds =>
    have hcall (sid : SessionId) : (m.start idleSeconds).call sid =
        if sid = m.count then .absent else m.call sid := by
      by_cases heq : sid = m.count <;> simp [SessionManager.call, SessionManager.start, heq]
    refine h.of_calls rfl rfl rfl rfl (fun hidle sid => ?_) fun sid hsid => ?_
    · show (m.start idleSeconds).call sid = _
      rw [hcall]
      split
      · rfl
      · exact h.idle hidle sid
    · show (m.start idleSeconds).call sid = _
      have hlt := hsound.found sid (hsound.gathered_lt hsid)
      rw [hcall, if_neg (Nat.ne_of_lt hlt)]
  | drop sid => exact h.of_calls rfl rfl rfl rfl h.idle fun _ _ => rfl
  | other sid e => exact h.on (fun t => e.apply t) (Termination.step_calls hen.2.1)
  | connection sid e => exact h.on (fun t => t.on (e.apply m.now)) rfl
  | shutdown => exact h.beginShutdown hen
  | begins sid =>
    obtain ⟨hsid, habsent⟩ := hen
    have hdue : m.now ≤ m.began + late := by
      have hontime := h.onTime sid hsid
      rw [habsent] at hontime
      exact hontime
    refine h.onCall hsid _ ((Termination.terminate_call _ 0).imp_right ?_)
    rintro ⟨stage, left, hcall, hsleeps⟩
    refine ⟨stage, left, hcall, ?_⟩
    rw [hsleeps]
    omega
  | wakes sid =>
    obtain ⟨hsid, habsent, hreturned, -⟩ := hen
    refine h.onCall hsid _ ?_
    cases hcall : m.call sid with
    | absent => exact absurd hcall habsent
    | returned => exact absurd hcall hreturned
    | polling stage left =>
      have hdue : m.now ≤ m.wakeAt sid + late := by
        have hontime := h.onTime sid hsid
        rw [hcall] at hontime
        exact hontime
      have hfits := h.sleeping sid hsid stage left hcall
      have happly : TerminationEvent.apply (m.states sid) (.poll 0) =
          (m.states sid).poll 0 stage left := by
        have hpolling : (m.states sid).calls 0 = .polling stage left := hcall
        simp [TerminationEvent.apply, hpolling]
      rw [happly]
      refine (Termination.poll_call _ 0 stage left).imp_right ?_
      rintro ⟨stage', left', hcall', hsleeps⟩
      refine ⟨stage', left', hcall', ?_⟩
      rw [← hsleeps, Nat.add_one_mul] at hfits
      omega
  | gathered => exact .of_gathered (stopWriters_gathered _ _)
  | stopped =>
    unfold ShutdownEvent.apply
    dsimp only
    split
    · exact .of_gathered (stopWriters_gathered _ _)
    · exact h

/-- While the `gather` waits, one of its tasks is due now or later, and nothing keeps the event
loop from getting there in time. -/
theorem OnSchedule.goes_on (h : m.OnSchedule late) (hwaits : m.gathers ≠ []) :
    ∃ elapsed, Punctual late m (.tick elapsed) ∧ ∃ e : ShutdownEvent,
      (e = .gathered ∨ ∃ sid, e = .begins sid ∨ e = .wakes sid) ∧
        e.Enabled (ShutdownEvent.apply m (.tick elapsed)) := by
  by_cases habsent : ∃ sid ∈ m.gathers, m.call sid = .absent
  · obtain ⟨sid, hsid, hcall⟩ := habsent
    exact ⟨0, h.onTime, .begins sid, .inr ⟨sid, .inl rfl⟩, hsid, hcall⟩
  · have hbegun (sid : SessionId) (hsid : sid ∈ m.gathers) : m.call sid ≠ .absent := fun hcall =>
      habsent ⟨sid, hsid, hcall⟩
    let sleeping := m.gathers.toFinset.filter fun sid => m.call sid ≠ .returned
    by_cases hsleeping : sleeping.Nonempty
    · -- The task that is due first wakes up.
      obtain ⟨sid, hsid, hfirst⟩ := Finset.exists_min_image sleeping m.wakeAt hsleeping
      obtain ⟨hmem, hcall⟩ := Finset.mem_filter.mp hsid
      have hgathers := List.mem_toFinset.mp hmem
      refine ⟨m.wakeAt sid - m.now, fun other hother => ?_, .wakes sid, .inr ⟨sid, .inr rfl⟩,
        hgathers, hbegun sid hgathers, hcall, ?_⟩
      · have hontime := h.onTime other hother
        cases hkind : m.call other with
        | absent => exact absurd hkind (hbegun other hother)
        | returned => trivial
        | polling stage left =>
          rw [hkind] at hontime
          have hlate : m.now ≤ m.wakeAt other + late := hontime
          have hle : m.wakeAt sid ≤ m.wakeAt other := hfirst other
            (Finset.mem_filter.mpr ⟨List.mem_toFinset.mpr hother, by simp [hkind]⟩)
          show m.now + (m.wakeAt sid - m.now) ≤ m.wakeAt other + late
          omega
      · show m.wakeAt sid ≤ m.now + (m.wakeAt sid - m.now)
        omega
    · refine ⟨0, h.onTime, .gathered, .inl rfl, hwaits, fun sid hsid => ?_⟩
      by_contra hcall
      exact hsleeping ⟨sid, Finset.mem_filter.mpr ⟨List.mem_toFinset.mpr hsid, hcall⟩⟩

/-- In every punctual run the manager is sound and on schedule. -/
theorem onSchedule_of_run (hrun : Run shutdownSystem (Punctual late) {} m) :
    m.Sound ∧ m.OnSchedule late := by
  induction hrun with
  | refl => exact ⟨.initial, .initial late⟩
  | step e _ hen hpunctual ih => exact ⟨ih.1.step hen, ih.2.step ih.1 hen hpunctual⟩

end SessionManager

/-- However many sessions there are, and whatever the other tasks do: as long as a `terminate` call
of the shutdown has not returned, at most eleven seconds have passed, besides the delays of the
event loop; and until all have returned the shutdown can go on in time. -/
theorem shutdown_bounded {late : ℕ} {m : SessionManager}
    (hrun : Run shutdownSystem (Punctual late) {} m) (hwaits : m.gathers ≠ []) :
    (∀ sid ∈ m.gathers, m.call sid ≠ .returned → m.now ≤ m.began + 11 * second + 111 * late) ∧
      ∃ elapsed, Punctual late m (.tick elapsed) ∧ ∃ e : ShutdownEvent,
        (e = .gathered ∨ ∃ sid, e = .begins sid ∨ e = .wakes sid) ∧
          e.Enabled (ShutdownEvent.apply m (.tick elapsed)) := by
  obtain ⟨-, hschedule⟩ := SessionManager.onSchedule_of_run hrun
  refine ⟨fun sid hsid hcall => ?_, hschedule.goes_on hwaits⟩
  have hontime := hschedule.onTime sid hsid
  have hsleeps : 110 * reapSleep = 11 * second := by decide
  cases hkind : m.call sid with
  | absent =>
    rw [hkind] at hontime
    have hdue : m.now ≤ m.began + late := hontime
    omega
  | returned => exact absurd hkind hcall
  | polling stage left =>
    rw [hkind] at hontime
    have hdue : m.now ≤ m.wakeAt sid + late := hontime
    have hfits := hschedule.sleeping sid hsid stage left hkind
    have hnonneg := Nat.zero_le (stage.sleeps left * (reapSleep + late))
    omega

/-- In such a run the hypotheses hold while one session is over and the other one is not. -/
theorem shutdown_bounded_twoSessions :
    (∀ sid ∈ twoSessions.gathers, twoSessions.call sid ≠ .returned →
        twoSessions.now ≤ twoSessions.began + 11 * second + 111 * 0) ∧
      ∃ elapsed, Punctual 0 twoSessions (.tick elapsed) ∧ ∃ e : ShutdownEvent,
        (e = .gathered ∨ ∃ sid, e = .begins sid ∨ e = .wakes sid) ∧
          e.Enabled (ShutdownEvent.apply twoSessions (.tick elapsed)) :=
  shutdown_bounded (System.Valid.guardedRun _ (by decide)) (by decide)

end WTerm
