import WTerm.Manager.Shutdown

/-!
# What the shutdown leaves behind

When `shutdown` has returned, every session that it found is over, whatever the other tasks did
meanwhile.
-/

namespace WTerm

open Transition

/-! ## One session -/

namespace Termination

variable {t t' t'' : Termination} {k : ℕ} {stage : Stage} {left : ℕ}

/-- `SIGKILL` was sent. -/
def Killed (t : Termination) : Prop := ∃ signal ∈ t.signals, signal.stage = .kill

/-- A session that is over was reaped or killed, and a call returns only when it is over. -/
structure Escalated (t : Termination) : Prop where
  settled : t.session.Settled
  ended : t.session.alive = false → t.session.child = .reaped ∨ t.Killed
  killing : ∀ k left, t.calls k = .polling .kill left → t.Killed
  returned : ∀ k, t.calls k = .returned → t.session.alive = false

/-- Nothing has happened to the process of a session or to its `terminate` calls. -/
structure Same (t t' : Termination) : Prop where
  terminal : t'.session.toTerminal = t.session.toTerminal
  alive : t'.session.alive = t.session.alive
  calls : t'.calls = t.calls
  signals : t'.signals = t.signals

/-- When nothing happens, the process and its calls stay the same. -/
theorem Same.refl (t : Termination) : t.Same t := ⟨rfl, rfl, rfl, rfl⟩

/-- The process and its calls stay the same over two changes that leave them alone. -/
theorem Same.trans (h : t.Same t') (h' : t'.Same t'') : t.Same t'' :=
  ⟨h'.terminal.trans h.terminal, h'.alive.trans h.alive, h'.calls.trans h.calls,
    h'.signals.trans h.signals⟩

/-- The escalation is kept by whatever leaves the process and its calls alone. -/
theorem Escalated.same (h : t.Escalated) (hsame : t.Same t') : t'.Escalated := by
  have hchild : t'.session.child = t.session.child := congrArg Terminal.child hsame.terminal
  have hfd : t'.session.masterFd = t.session.masterFd := congrArg Terminal.masterFd hsame.terminal
  have hcloses : t'.session.fdCloses = t.session.fdCloses :=
    congrArg Terminal.fdCloses hsame.terminal
  have hkilled : t.Killed → t'.Killed := fun hkilled => by
    unfold Killed
    rw [hsame.signals]
    exact hkilled
  refine ⟨⟨?_, ?_, ?_, ?_⟩, ?_, ?_, ?_⟩
  · rw [hchild, hsame.alive]
    exact h.settled.reaped
  · rw [hfd, hsame.alive]
    exact h.settled.opened
  · rw [hfd, hsame.alive]
    exact h.settled.closed
  · unfold Session.ClosedOnce
    rw [hcloses, hfd]
    exact h.settled.once
  · rw [hchild, hsame.alive]
    exact fun hdead => (h.ended hdead).imp_right hkilled
  · rw [hsame.calls]
    exact fun k left hcall => hkilled (h.killing k left hcall)
  · rw [hsame.calls, hsame.alive]
    exact h.returned

/-- A session that has just been started. -/
theorem Escalated.started {s : Session} (h : s.Started) : Escalated { session := s } where
  settled := h.settled
  ended hdead := by
    rw [h.alive] at hdead
    cases hdead
  killing k left hcall := by cases hcall
  returned k hcall := by cases hcall

/-- A call that moves on keeps the escalation if it is at its last stage only after SIGKILL, and
returned only from a session that is over. -/
theorem Escalated.setCall (h : t.Escalated) {call : TerminateCall}
    (hkilling : ∀ left, call = .polling .kill left → t.Killed)
    (hreturned : call = .returned → t.session.alive = false) : (t.setCall k call).Escalated := by
  have hcalls (j : ℕ) : (t.setCall k call).calls j = if j = k then call else t.calls j := by
    simp [Termination.setCall, Function.update_apply]
  refine ⟨h.settled, h.ended, fun j left hcall => ?_, fun j hcall => ?_⟩
  · rw [hcalls] at hcall
    split at hcall
    · exact hkilling left hcall
    · exact h.killing j left hcall
  · rw [hcalls] at hcall
    split at hcall
    · exact hreturned hcall
    · exact h.returned j hcall

/-- `terminate` returns after the child was reaped or killed. -/
theorem Escalated.finish (honce : t.session.ClosedOnce)
    (hover : t.session.child = .reaped ∨ t.Killed)
    (hkilling : ∀ k left, t.calls k = .polling .kill left → t.Killed) :
    (t.finish k).Escalated := by
  have hdead : (t.on Session.endTerminate).session.alive = false :=
    congrArg Lifecycle.alive t.session.endTerminate_toLifecycle
  have hchild : (t.on Session.endTerminate).session.child = t.session.child :=
    Session.cleanupFd_child
      (s := { t.session with toLifecycle := t.session.toLifecycle.endTerminate })
  have hended : (t.on Session.endTerminate).Escalated := by
    refine ⟨honce.endTerminate, fun _ => ?_, hkilling, fun _ _ => hdead⟩
    rw [hchild]
    exact hover
  exact hended.setCall (fun left hcall => (by cases hcall)) fun _ => hdead

/-- One iteration of `_wait_reaped` keeps the escalation. -/
theorem Escalated.checkReaped (h : t.Escalated) (hkill : stage = .kill → t.Killed) :
    (t.checkReaped k stage left).Escalated := by
  unfold Termination.checkReaped
  split
  · next hreaped =>
    refine finish h.settled.once.reapNoHang ?_ h.killing
    by_cases halive : t.session.alive = true
    · have hchild : t.session.child ≠ .running := by
        simpa [Session.reapedNow, halive] using hreaped
      left
      show t.session.reapNoHang.child = .reaped
      unfold Session.reapNoHang
      split
      · rfl
      · next hzombie =>
        cases hcase : t.session.child with
        | running => exact absurd hcase hchild
        | zombie => exact absurd ⟨halive, hcase⟩ hzombie
        | reaped => rfl
    · have hdead : t.session.alive = false := by simpa using halive
      have hsame : t.session.reapNoHang = t.session := by simp [Session.reapNoHang, hdead]
      have hover := h.ended hdead
      show t.session.reapNoHang.child = .reaped ∨ _
      rw [hsame]
      exact hover
  · refine h.setCall (fun left hcall => ?_) fun hcall => (by cases hcall)
    obtain ⟨rfl, -⟩ := TerminateCall.polling.inj hcall
    exact hkill rfl

/-- A signal that is sent keeps the escalation. -/
theorem Escalated.signalGroup (h : t.Escalated) (stage : Stage) :
    (t.signalGroup stage).Escalated := by
  have hkilled : t.Killed → (t.signalGroup stage).Killed := fun ⟨signal, hsignal, hkill⟩ =>
    ⟨signal, List.mem_append_left _ hsignal, hkill⟩
  exact ⟨h.settled, fun hdead => (h.ended hdead).imp_right hkilled,
    fun k left hcall => hkilled (h.killing k left hcall), h.returned⟩

/-- The sleep of a call is over. -/
theorem Escalated.poll (h : t.Escalated) (hcall : t.calls k = .polling stage left) :
    (t.poll k stage left).Escalated := by
  unfold Termination.poll
  split
  · cases stage with
    | hup => exact (h.signalGroup .term).checkReaped fun hkill => (by cases hkill)
    | term =>
      have hkilled : (t.signalGroup .kill).Killed :=
        ⟨_, List.mem_append_right _ List.mem_cons_self, rfl⟩
      exact (h.signalGroup .kill).checkReaped fun _ => hkilled
    | kill => exact finish h.settled.once (.inr (h.killing k left hcall)) h.killing
  · refine h.checkReaped fun hkill => ?_
    rw [hkill] at hcall
    exact h.killing k left hcall

/-- A call of `terminate` keeps the escalation. -/
theorem Escalated.terminate (h : t.Escalated) : (t.terminate k).Escalated := by
  unfold Termination.terminate
  split
  · have hbegun : (t.on Session.beginTerminate).Escalated :=
      ⟨⟨h.settled.reaped, h.settled.opened, h.settled.closed, h.settled.once⟩, h.ended, h.killing,
        h.returned⟩
    exact (hbegun.signalGroup .hup).checkReaped fun hkill => (by cases hkill)
  · next hdead =>
    exact h.setCall (fun left hcall => (by cases hcall)) fun _ => by simpa using hdead

/-- A call wakes up from its sleep, if it sleeps. -/
theorem poll_cases (t : Termination) (k : ℕ) :
    (∃ stage left, t.calls k = .polling stage left ∧
      TerminationEvent.apply t (.poll k) = t.poll k stage left) ∨
      TerminationEvent.apply t (.poll k) = t := by
  cases hcall : t.calls k with
  | polling stage left => exact .inl ⟨stage, left, rfl, by simp [TerminationEvent.apply, hcall]⟩
  | absent => exact .inr (by simp [TerminationEvent.apply, hcall])
  | returned => exact .inr (by simp [TerminationEvent.apply, hcall])

/-- Every step of the tasks of a session and of its child. -/
theorem Escalated.step {e : TerminationEvent} (h : t.Escalated) (hen : e.Enabled t) :
    (e.apply t).Escalated := by
  have hsettled := step_settled h.settled e
  cases e with
  | call k => exact h.terminate
  | poll k =>
    rcases poll_cases t k with ⟨stage, left, hcall, happly⟩ | happly
    · rw [happly]
      exact h.poll hcall
    · rw [happly]
      exact h
  | childExits =>
    refine ⟨hsettled, fun hdead => ?_, h.killing, h.returned⟩
    rcases h.ended hdead with hreaped | hkilled
    · have hrunning : t.session.child = .running := hen
      rw [hrunning] at hreaped
      cases hreaped
    · exact .inr hkilled
  | ptyEof => exact ⟨hsettled, h.ended, h.killing, h.returned⟩
  | exitRuns now code =>
    by_cases halive : t.session.alive = true
    · have hdead : (t.session.handleExit now code).alive = false :=
        congrArg Lifecycle.alive (t.session.handleExit_toLifecycle now code halive)
      have hreaped : (t.session.handleExit now code).child = .reaped :=
        congrArg Terminal.child (t.session.handleExit_toTerminal now code halive)
      exact ⟨hsettled, fun _ => .inl hreaped, h.killing, fun _ _ => hdead⟩
    · have hsame := t.session.handleExit_of_dead now code (by simpa using halive)
      refine h.same ⟨?_, ?_, rfl, rfl⟩
      · show (t.session.handleExit now code).toTerminal = _
        rw [hsame]
      · show (t.session.handleExit now code).alive = _
        rw [hsame]

/-- An iteration of `_wait_reaped` makes no session live. -/
theorem checkReaped_alive (h : (t.checkReaped k stage left).session.alive = true) :
    t.session.alive = true := by
  unfold checkReaped at h
  split at h
  · have hdead : (((t.on Session.reapNoHang).finish k).session).alive = false :=
      congrArg Lifecycle.alive t.session.reapNoHang.endTerminate_toLifecycle
    rw [hdead] at h
    cases h
  · exact h

/-- The end of a sleep makes no session live. -/
theorem poll_alive (h : (t.poll k stage left).session.alive = true) : t.session.alive = true := by
  unfold poll at h
  split at h
  · cases stage with
    | hup => exact checkReaped_alive (t := t.signalGroup .term) h
    | term => exact checkReaped_alive (t := t.signalGroup .kill) h
    | kill =>
      have hdead : (t.finish k).session.alive = false :=
        congrArg Lifecycle.alive t.session.endTerminate_toLifecycle
      have hlive : (t.finish k).session.alive = true := h
      rw [hdead] at hlive
      cases hlive
  · exact checkReaped_alive h

/-- A call of `terminate` makes no session live. -/
theorem terminate_alive (h : (t.terminate k).session.alive = true) : t.session.alive = true := by
  unfold terminate at h
  split at h
  · next halive => exact halive
  · exact h

/-- No step makes a session live that was not live before. -/
theorem step_alive (e : TerminationEvent) (h : (e.apply t).session.alive = true) :
    t.session.alive = true := by
  cases e with
  | call k => exact terminate_alive h
  | poll k =>
    rcases poll_cases t k with ⟨stage, left, hcall, happly⟩ | happly
    · rw [happly] at h
      exact poll_alive h
    · rw [happly] at h
      exact h
  | childExits => exact h
  | ptyEof => exact h
  | exitRuns now code =>
    by_cases halive : t.session.alive = true
    · exact halive
    · have hdead : t.session.alive = false := by simpa using halive
      have hsame : (t.session.handleExit now code).alive = t.session.alive := by
        rw [t.session.handleExit_of_dead now code hdead]
      exact hsame.symm.trans h

end Termination

/-- A connection leaves the process and the `terminate` calls alone. -/
theorem ConnectionEvent.apply_same (now : Time) (t : Termination) (e : ConnectionEvent) :
    t.Same (t.on (e.apply now)) := by
  suffices h : (e.apply now t.session).toTerminal = t.session.toTerminal ∧
      (e.apply now t.session).alive = t.session.alive from ⟨h.1, h.2, rfl, rfl⟩
  cases e with
  | attach ws =>
    have halive := congrArg Lifecycle.alive (t.session.install_toLifecycle ws)
    exact ⟨t.session.install_toTerminal ws, halive⟩
  | detach ws =>
    have halive :=
      congrArg Lifecycle.alive ((t.session.clearWebsocket now).stopOutboundWriter_toLifecycle ws)
    exact ⟨(t.session.clearWebsocket now).stopOutboundWriter_toTerminal ws,
      halive⟩
  | output data =>
    have halive := congrArg Lifecycle.alive ((t.session.touch now).passOutput_toLifecycle data)
    exact ⟨(t.session.touch now).passOutput_toTerminal data, halive⟩
  | writer ws step =>
    cases step with
    | takes => exact ⟨rfl, rfl⟩
    | sent =>
      have halive := congrArg Lifecycle.alive (t.session.writerSent_toLifecycle ws)
      exact ⟨t.session.writerSent_toTerminal ws, halive⟩
    | fails delivered =>
      have halive := congrArg Lifecycle.alive (t.session.writerFailed_toLifecycle ws delivered)
      exact ⟨t.session.writerFailed_toTerminal ws delivered, halive⟩
    | cancelled delivered =>
      have halive := congrArg Lifecycle.alive (t.session.writerCancelled_toLifecycle ws delivered)
      exact ⟨t.session.writerCancelled_toTerminal ws delivered, halive⟩

/-- `cancel_grace` leaves the process and the `terminate` calls alone. -/
theorem Termination.same_cancelGrace (t : Termination) : t.Same (t.on Session.cancelGrace) := by
  refine ⟨rfl, ?_, rfl, rfl⟩
  show (t.session.toLifecycle.cancelGrace).alive = _
  unfold Lifecycle.cancelGrace
  split <;> rfl

/-! ## The manager -/

namespace SessionManager

variable {m m' m'' : SessionManager} {sid : SessionId}

/-- Nothing has happened to the processes. -/
structure SameProcesses (m m' : SessionManager) : Prop where
  now : m'.now = m.now
  count : m'.count = m.count
  began : m'.began = m.began
  found : m'.found = m.found
  states : ∀ sid, (m.states sid).Same (m'.states sid)

/-- When nothing happens, the processes stay the same. -/
theorem SameProcesses.refl (m : SessionManager) : m.SameProcesses m :=
  ⟨rfl, rfl, rfl, rfl, fun _ => .refl _⟩

/-- The processes stay the same over two changes that leave them alone. -/
theorem SameProcesses.trans (h : m.SameProcesses m') (h' : m'.SameProcesses m'') :
    m.SameProcesses m'' :=
  ⟨h'.now.trans h.now, h'.count.trans h.count, h'.began.trans h.began, h'.found.trans h.found,
    fun sid => (h.states sid).trans (h'.states sid)⟩

/-- Only the changed session differs after a change of one session. -/
theorem on_states (m : SessionManager) (sid : SessionId) (f : Termination → Termination)
    (other : SessionId) :
    (m.on sid f).states other = if other = sid then f (m.states sid) else m.states other := by
  simp [SessionManager.on, Function.update_apply]

/-- A change of one session's connections leaves all processes the same. -/
theorem sameProcesses_on {f : Termination → Termination} (h : ∀ t, Termination.Same t (f t)) :
    m.SameProcesses (m.on sid f) := by
  refine ⟨rfl, rfl, rfl, rfl, fun other => ?_⟩
  rw [on_states]
  split
  · next heq =>
    rw [heq]
    exact h _
  · exact .refl _

/-- The last loop stops writers only, and ends with an empty map or at its next wait. -/
theorem stopWriters_spec (sids : List SessionId) (m : SessionManager) :
    m.SameProcesses (stopWriters sids m) ∧
      ((stopWriters sids m).shutdown = .returned ∧ (stopWriters sids m).sessions = [] ∨
        (∃ sid task rest, (stopWriters sids m).shutdown = .stopping sid task rest) ∧
          (stopWriters sids m).sessions = m.sessions) := by
  induction sids generalizing m with
  | nil => exact ⟨⟨rfl, rfl, rfl, rfl, fun _ => .refl _⟩, .inl ⟨rfl, rfl⟩⟩
  | cons sid rest ih =>
    unfold stopWriters
    split
    · exact ih m
    · next ws _ =>
      have hsame : m.SameProcesses (m.on sid (·.on fun s =>
          (s.clearWebsocket m.now).stopOutboundWriter ws)) :=
        sameProcesses_on fun t => ConnectionEvent.apply_same m.now t (.detach ws)
      dsimp only
      split
      · next task _ =>
        exact ⟨⟨hsame.now, hsame.count, hsame.began, hsame.found, hsame.states⟩,
          .inr ⟨⟨sid, task, rest, rfl⟩, rfl⟩⟩
      · obtain ⟨hrest, hend⟩ := ih (m.on sid (·.on fun s =>
          (s.clearWebsocket m.now).stopOutboundWriter ws))
        exact ⟨hsame.trans hrest, hend⟩

end SessionManager

/-- `shutdown` is past its `gather`. -/
def ShutdownPc.Gathered : ShutdownPc → Prop
  | .stopping _ _ _ | .returned => True
  | .idle | .gathering _ => False

namespace SessionManager

variable {m m' : SessionManager} {sid : SessionId}

/-- What holds of the sessions at any time. -/
structure Sound (m : SessionManager) : Prop where
  escalated : ∀ sid < m.count, (m.states sid).Escalated
  entries : ∀ sid ∈ m.sessions, sid < m.count
  found : ∀ sid ∈ m.found, sid < m.count
  gathers : ∀ sids, m.shutdown = .gathering sids → sids = m.found
  ended : m.shutdown.Gathered → ∀ sid ∈ m.found, (m.states sid).session.alive = false
  cleared : m.shutdown = .returned → ∀ sid ∈ m.sessions, sid ∉ m.found

/-- The manager is sound before anything has happened. -/
theorem Sound.initial : Sound {} where
  escalated sid hsid := absurd hsid (Nat.not_lt_zero _)
  entries sid hsid := by cases hsid
  found sid hsid := by cases hsid
  gathers sids hsids := by cases hsids
  ended hgathered := hgathered.elim
  cleared hreturned := by cases hreturned

/-- A change of the sessions' processes that keeps each escalation and revives none keeps the
manager sound. -/
theorem Sound.of_states (h : m.Sound) (hcount : m'.count = m.count)
    (hsessions : m'.sessions = m.sessions) (hshutdown : m'.shutdown = m.shutdown)
    (hfound : m'.found = m.found) (hescalated : ∀ sid < m.count, (m'.states sid).Escalated)
    (halive : ∀ sid, (m'.states sid).session.alive = true →
      (m.states sid).session.alive = true) : m'.Sound where
  escalated := by
    rw [hcount]
    exact hescalated
  entries := by
    rw [hsessions, hcount]
    exact h.entries
  found := by
    rw [hfound, hcount]
    exact h.found
  gathers := by
    rw [hshutdown, hfound]
    exact h.gathers
  ended hgathered sid hsid := by
    rw [hshutdown] at hgathered
    rw [hfound] at hsid
    have hdead := h.ended hgathered sid hsid
    by_contra hlive
    rw [halive sid (by simpa using hlive)] at hdead
    cases hdead
  cleared := by
    rw [hshutdown, hsessions, hfound]
    exact h.cleared

/-- A change of one session's process that keeps its escalation and does not revive it keeps the
manager sound. -/
theorem Sound.on (h : m.Sound) (f : Termination → Termination)
    (hescalated : sid < m.count → (f (m.states sid)).Escalated)
    (halive : (f (m.states sid)).session.alive = true → (m.states sid).session.alive = true) :
    (m.on sid f).Sound := by
  refine h.of_states rfl rfl rfl rfl (fun other hother => ?_) fun other => ?_
  · rw [on_states]
    split
    · next heq => exact hescalated (heq ▸ hother)
    · exact h.escalated other hother
  · rw [on_states]
    split
    · next heq =>
      rw [heq]
      exact halive
    · exact id

/-- What the shutdown's call does to a session keeps the manager sound, if it keeps the escalation
and does not revive the session. -/
theorem Sound.onCall (h : m.Sound) (f : Termination → Termination)
    (hescalated : sid < m.count → (f (m.states sid)).Escalated)
    (halive : (f (m.states sid)).session.alive = true → (m.states sid).session.alive = true) :
    (m.onCall sid f).Sound :=
  (h.on f hescalated halive).of_states rfl rfl rfl rfl (h.on f hescalated halive).escalated
    fun _ hlive => hlive

/-- What does not concern the processes. -/
theorem Sound.same (h : m.Sound) (hsame : m.SameProcesses m')
    (hentries : ∀ sid ∈ m'.sessions, sid < m.count)
    (hgathers : ∀ sids, m'.shutdown = .gathering sids → sids = m.found)
    (hover : m'.shutdown.Gathered → ∀ sid ∈ m.found, (m.states sid).session.alive = false)
    (hcleared : m'.shutdown = .returned → ∀ sid ∈ m'.sessions, sid ∉ m.found) : m'.Sound where
  escalated := by
    rw [hsame.count]
    exact fun sid hsid => (h.escalated sid hsid).same (hsame.states sid)
  entries := by
    rw [hsame.count]
    exact hentries
  found := by
    rw [hsame.found, hsame.count]
    exact h.found
  gathers := by
    rw [hsame.found]
    exact hgathers
  ended hgathered sid hsid := by
    rw [hsame.found] at hsid
    rw [(hsame.states sid).alive]
    exact hover hgathered sid hsid
  cleared := by
    rw [hsame.found]
    exact hcleared

/-- The last loop begins or goes on when every session that was found is over. -/
theorem Sound.stopWriters (h : m.Sound)
    (hover : ∀ sid ∈ m.found, (m.states sid).session.alive = false) (sids : List SessionId) :
    (stopWriters sids m).Sound := by
  obtain ⟨hsame, ⟨hreturned, hempty⟩ | ⟨⟨sid, task, rest, hstopping⟩, hsessions⟩⟩ :=
    stopWriters_spec sids m
  · refine h.same hsame ?_ ?_ (fun _ => hover) ?_
    · simp [hempty]
    · simp [hreturned]
    · simp [hempty]
  · refine h.same hsame ?_ ?_ (fun _ => hover) ?_
    · rw [hsessions]
      exact h.entries
    · simp [hstopping]
    · simp [hstopping]

/-- A session that is registered keeps the manager sound. -/
theorem Sound.start (h : m.Sound) (idleSeconds : ℕ) : (m.start idleSeconds).Sound := by
  have hstates (sid : SessionId) (hsid : sid < m.count) :
      (m.start idleSeconds).states sid = m.states sid := by
    have hne : sid ≠ m.count := Nat.ne_of_lt hsid
    simp [SessionManager.start, hne]
  have hnew : (m.start idleSeconds).states m.count =
      { session := Session.blank.spawn m.now idleSeconds } := by
    simp [SessionManager.start]
  refine ⟨fun sid hsid => ?_, fun sid hsid => ?_, fun sid hsid => ?_, h.gathers,
    fun hgathered sid hsid => ?_, fun hreturned sid hsid => ?_⟩
  · by_cases heq : sid = m.count
    · rw [heq, hnew]
      exact .started ⟨rfl, rfl, rfl, rfl⟩
    · have hlt : sid < m.count + 1 := hsid
      have hold : sid < m.count := by omega
      rw [hstates sid hold]
      exact h.escalated sid hold
  · rcases List.mem_append.mp hsid with hold | hlast
    · exact Nat.lt_succ_of_lt (h.entries sid hold)
    · rw [List.mem_singleton.mp hlast]
      exact Nat.lt_succ_self _
  · exact Nat.lt_succ_of_lt (h.found sid hsid)
  · rw [hstates sid (h.found sid hsid)]
    exact h.ended hgathered sid hsid
  · rcases List.mem_append.mp hsid with hold | hlast
    · exact h.cleared hreturned sid hold
    · rw [List.mem_singleton.mp hlast]
      exact fun hfound => Nat.lt_irrefl _ (h.found _ hfound)

/-- The call of `shutdown`, which takes the sessions it will end, keeps the manager sound. -/
theorem Sound.beginShutdown (h : m.Sound) : m.beginShutdown.Sound := by
  have hfound : ({ m with found := m.sessions, shutdown := .idle } : SessionManager).Sound :=
    ⟨h.escalated, h.entries, h.entries, fun _ hsids => (by cases hsids),
      fun hgathered => hgathered.elim, fun hreturned => (by cases hreturned)⟩
  have hsame : ({ m with found := m.sessions, shutdown := .idle } : SessionManager).SameProcesses
      { m.cancelGraces with found := m.sessions, shutdown := .gathering m.sessions } := by
    refine ⟨rfl, rfl, rfl, rfl, fun sid => ?_⟩
    show Termination.Same _ (ite _ _ _)
    split
    · exact Termination.same_cancelGrace _
    · exact .refl _
  have hgathering := hfound.same hsame h.entries
    (fun sids hsids => (ShutdownPc.gathering.inj hsids).symm) (fun hgathered => hgathered.elim)
    fun hreturned => (by cases hreturned)
  unfold SessionManager.beginShutdown
  dsimp only
  split
  · next hempty =>
    have hnone : ∀ sid ∈ m.sessions, sid ∉ m.sessions := by
      have hsessions : m.sessions = [] := hempty
      simp [hsessions]
    refine ⟨hgathering.escalated, fun sid hsid => (by cases hsid), hgathering.found,
      fun _ hsids => (by cases hsids), fun _ sid hsid => absurd hsid (hnone sid hsid),
      fun _ sid hsid => (by cases hsid)⟩
  · exact ⟨hgathering.escalated, hgathering.entries, hgathering.found, hgathering.gathers,
      fun hgathered => hgathered.elim, fun hreturned => (by cases hreturned)⟩

/-- The sessions that the `gather` waits for were created. -/
theorem Sound.gathered_lt (h : m.Sound) (hsid : sid ∈ m.gathers) : sid ∈ m.found := by
  unfold SessionManager.gathers at hsid
  split at hsid
  · next sids hsids =>
    rw [← h.gathers sids hsids]
    exact hsid
  · cases hsid

/-- Every event keeps what holds of the sessions. -/
theorem Sound.step (h : m.Sound) {e : ShutdownEvent} (hen : e.Enabled m) : (e.apply m).Sound := by
  cases e with
  | tick elapsed => exact ⟨h.escalated, h.entries, h.found, h.gathers, h.ended, h.cleared⟩
  | start idleSeconds => exact h.start idleSeconds
  | drop sid =>
    exact ⟨h.escalated, fun other hother => h.entries other (List.mem_of_mem_erase hother), h.found,
      h.gathers, h.ended, fun hreturned other hother =>
        h.cleared hreturned other (List.mem_of_mem_erase hother)⟩
  | other sid e =>
    obtain ⟨hlt, -, henabled⟩ := hen
    exact h.on (fun t => e.apply t) (fun _ => (h.escalated sid hlt).step henabled)
      (Termination.step_alive e)
  | connection sid e =>
    have hsame := ConnectionEvent.apply_same m.now (m.states sid) e
    refine h.on (fun t => t.on (e.apply m.now)) (fun hlt => (h.escalated sid hlt).same hsame)
      fun hlive => ?_
    rw [← hsame.alive]
    exact hlive
  | shutdown => exact h.beginShutdown
  | begins sid =>
    exact h.onCall _ (fun hlt => (h.escalated sid hlt).terminate) Termination.terminate_alive
  | wakes sid =>
    obtain ⟨-, habsent, hreturned, -⟩ := hen
    have henabled : (TerminationEvent.poll 0).Enabled (m.states sid) := ⟨habsent, hreturned⟩
    exact h.onCall _ (fun hlt => (h.escalated sid hlt).step henabled)
      (Termination.step_alive (.poll 0))
  | gathered =>
    obtain ⟨hnonempty, hall⟩ := hen
    refine h.stopWriters (fun sid hsid => ?_) _
    have hgathers : m.gathers = m.found := by
      unfold SessionManager.gathers at hnonempty ⊢
      split at hnonempty
      · next sids hsids => exact h.gathers sids hsids
      · exact absurd rfl hnonempty
    rw [← hgathers] at hsid
    have hreturned : (m.states sid).calls 0 = .returned := hall sid hsid
    exact (h.escalated sid (h.found sid (h.gathered_lt hsid))).returned 0 hreturned
  | stopped =>
    unfold ShutdownEvent.apply
    dsimp only
    split
    · next sid task rest hstopping =>
      refine h.stopWriters (h.ended ?_) _
      rw [hstopping]
      trivial
    · exact h

end SessionManager

/-- When `shutdown` has returned, in whatever interleaving with the other tasks, every session that
was in the map when it was called is out of the map and over, its master fd was closed exactly once,
and its child was reaped or has been sent `SIGKILL`. -/
theorem shutdown_leaves_none {m : SessionManager}
    (hrun : Run shutdownSystem (fun _ _ => True) {} m) (hreturned : m.shutdown = .returned) :
    ∀ sid ∈ m.found, sid ∉ m.sessions ∧ (m.states sid).session.alive = false ∧
      (m.states sid).session.masterFd = false ∧ (m.states sid).session.fdCloses = 1 ∧
      ((m.states sid).session.child = .reaped ∨
        ∃ signal ∈ (m.states sid).signals, signal.stage = .kill) := by
  intro sid hsid
  have hsound : m.Sound := hrun.invariant SessionManager.Sound.initial fun _ _ h hen _ => h.step hen
  have hescalated := hsound.escalated sid (hsound.found sid hsid)
  have hdead : (m.states sid).session.alive = false := by
    refine hsound.ended ?_ sid hsid
    rw [hreturned]
    trivial
  have hclosed := hescalated.settled.closed hdead
  refine ⟨fun hentry => hsound.cleared hreturned sid hentry hsid, hdead, hclosed, ?_,
    hescalated.ended hdead⟩
  have honce := hescalated.settled.once
  unfold Session.ClosedOnce at honce
  rw [honce, hclosed]
  rfl

/-- `shutdown` terminates two sessions, one of them with a connection. The other one ends at once.
-/
def twoSessions : SessionManager := shutdownSystem.exec {}
  [.start 0, .start 0, .connection 1 (.attach 5), .connection 1 (.writer 5 .takes), .tick second,
    .shutdown, .begins 0, .begins 1, .other 0 .childExits, .tick reapSleep, .wakes 1, .wakes 0]

/-- The first one ends too, and its writer is cancelled. -/
def shutDown : SessionManager := shutdownSystem.exec twoSessions
  [.other 1 .childExits, .tick reapSleep, .wakes 1, .gathered,
    .connection 1 (.writer 5 (.cancelled false)), .stopped]

/-- The hypotheses hold in such a run. -/
theorem shutdown_leaves_none_shutDown : shutDown.found = [0, 1] ∧
    ∀ sid ∈ shutDown.found, sid ∉ shutDown.sessions ∧ (shutDown.states sid).session.alive = false ∧
      (shutDown.states sid).session.masterFd = false ∧
      (shutDown.states sid).session.fdCloses = 1 ∧
      ((shutDown.states sid).session.child = .reaped ∨
        ∃ signal ∈ (shutDown.states sid).signals, signal.stage = .kill) := by
  have hbefore : Run shutdownSystem (fun _ _ => True) {} twoSessions :=
    System.Valid.run _ (by decide)
  have hafter : Run shutdownSystem (fun _ _ => True) twoSessions shutDown :=
    System.Valid.run _ (by decide)
  exact ⟨by decide, shutdown_leaves_none (hbefore.trans hafter) (by decide)⟩

end WTerm
