import WTerm.Manager.Invariants

/-!
# The grace and idle expiries

When `_expire_grace` and `_expire_idle` get the transition lock and go on to terminate, and
what has happened to the session before. Both decide to expire before they wait for the
lock, and only part of the decision is checked again inside it.
-/

namespace WTerm

open Transition Control

variable {cfg : Settings} {v w : World} {e : Event} {sid : SessionId}

/-- A list of events that is valid from the start reaches the state after it. -/
theorem reachable_exec {events : List Event} (h : (keySystem cfg).Valid {} events) :
    Reachable cfg ((keySystem cfg).exec {} events) :=
  System.Valid.run _ h

/-- The live session that `attach` starts on in an event, if there is one. -/
def Event.reattached (cfg : Settings) (w : World) (e : Event) : Option SessionId :=
  match e.grants cfg w with
  | some (.route _ mode) => if mode = .new then none else w.live
  | _ => none

/-- `reattached` computes the session that `Reattaches` speaks of. -/
theorem Event.reattached_eq_some : e.reattached cfg w = some sid ↔ e.Reattaches cfg w sid := by
  unfold reattached Reattaches
  constructor
  · intro h
    split at h
    · next ws mode hgrants =>
      split at h
      · cases h
      · next hmode => exact ⟨ws, mode, hgrants, hmode, h⟩
    · cases h
  · rintro ⟨ws, mode, hgrants, hmode, hlive⟩
    simp [hgrants, hmode, hlive]

/-- An event that computably reattaches nobody does not reattach. -/
theorem Event.not_reattaches (h : e.reattached cfg w = none) (sid : SessionId) :
    ¬e.Reattaches cfg w sid := by
  rw [← Event.reattached_eq_some, h]
  exact nofun

/-! ## The begin of a termination -/

namespace World

/-- A free lock goes to the task that asks for it. -/
theorem request_of_free (task : Waiter) (found : Bool) (hfree : w.Free) :
    w.request cfg task found = ((w.enqueue task).grant task []).enter cfg task found := by
  have hrequest : w.request cfg task found = (w.enqueue task).acquire cfg found := if_pos hfree
  have hwaiters : (w.enqueue task).waiters = [task] := by simp [hfree.2]
  rw [hrequest, acquire, hwaiters]

/-- The operation of an owner other than a handshake leaves the lock without a signal. -/
theorem finishEnding_signals {owner : Owner} (howner : owner.socket = none) :
    (w.finishEnding cfg owner sid).signals = w.signals := by
  have hdrop : (w.dropOwn sid).signals = w.signals := by
    unfold dropOwn
    split <;> rfl
  cases owner with
  | route ws mode message => cases howner
  | endRequest request => exact hdrop
  | grace k => exact hdrop
  | idle => exact hdrop

/-- One iteration of `_wait_reaped` sends no signal. -/
theorem checkReaped_signals {owner : Owner} (stage : Stage) (left : ℕ)
    (howner : owner.socket = none) :
    (w.checkReaped cfg owner sid stage left).signals = w.signals := by
  unfold checkReaped
  split
  · rw [finishEnding_signals howner]
    rfl
  · rfl

/-- `terminate` starts with a SIGHUP to a session that is alive, for its owner. -/
theorem terminate_hup {owner : Owner} (howner : owner.socket = none)
    (halive : (w.sessions sid).alive = true) :
    (w.terminate cfg owner sid).signals = w.signals ++ [⟨sid, owner, .hup⟩] := by
  unfold terminate
  rw [if_pos halive, checkReaped_signals _ _ howner]
  by_cases hterminating : (w.sessions sid).terminating
  · simp [hterminating, beginTerminate]
  · simp [hterminating, beginTerminate]

/-- `_expire_grace` signals a session exactly when its recheck finds it current, detached and
alive. -/
theorem enterGrace_signals (k : ℕ) :
    (w.enterGrace cfg sid k).signals =
      if w.entry = some sid ∧ (w.sessions sid).websocket = none ∧ (w.sessions sid).alive then
        w.signals ++ [⟨sid, .grace k, .hup⟩]
      else w.signals := by
  unfold enterGrace
  split
  · next hcurrent => exact terminate_hup (w := w.hold _) rfl hcurrent.2.2
  · rfl

/-- `_notify_and_terminate` of a session that is alive waits for the close of its connection,
or has sent the SIGHUP. -/
theorem notifyAndTerminate_begins {owner : Owner} (howner : owner.socket = none)
    (halive : (w.sessions sid).alive = true) (message : String) (code : ℕ) (reason : String) :
    (∃ pc, (w.notifyAndTerminate cfg owner sid message code reason).holder =
        some (.ending owner sid pc)) ∨
      (w.notifyAndTerminate cfg owner sid message code reason).signals =
        w.signals ++ [⟨sid, owner, .hup⟩] := by
  have htaken : ((w.takeSocket sid).sessions sid).alive = true := by
    simpa [takeSocket, Session.clearWebsocket] using halive
  unfold notifyAndTerminate notifySocket
  split
  · exact .inr (terminate_hup howner htaken)
  · next ws hws =>
    dsimp only
    split
    · refine .inr (terminate_hup howner ?_)
      simpa using htaken
    · exact .inl ⟨_, rfl⟩

end World

/-! ## Grace expiry -/

/-- `_expire_grace` gets the lock in this event, and its recheck lets it terminate the
session. -/
structure Event.ExpiresGrace (cfg : Settings) (w : World) (e : Event) (sid : SessionId) :
    Prop where
  granted : ∃ k, e.grants cfg w = some (.grace sid k)
  entry : w.entry = some sid
  left : (w.sessions sid).websocket = none
  alive : (w.sessions sid).alive = true

/-- `attach` starts on a live session while an earlier `detach` of it still awaits its writer,
or while a grace countdown of it that is over waits for the lock. -/
def Event.ReattachesEarly (cfg : Settings) (w : World) (e : Event) : Prop :=
  ∃ sid, e.Reattaches cfg w sid ∧
    ((∃ k, .grace sid k ∈ w.waiters) ∨ ∃ ws task, w.routes ws = .detaching sid task)

/-- The runs without an early reattach. -/
def NoEarlyReattach (cfg : Settings) (w : World) (e : Event) : Prop := ¬e.ReattachesEarly cfg w

/-- Without an early reattach the rules attach nobody to a session with an older timer. -/
theorem restricts_noEarlyReattach : Restricts cfg (NoEarlyReattach cfg)
    fun w l => AttachAfterDetach w.control l := by
  intro w e v l _ hcond _ horigin
  cases l with
  | attachStart sid =>
    obtain ⟨hreattaches, hwaiters, hroutes⟩ := horigin
    constructor
    · intro k hk
      exact hcond ⟨sid, hreattaches, .inl ⟨k, hwaiters hk⟩⟩
    · intro ws task hroute
      exact hcond ⟨sid, hreattaches, .inr ⟨ws, task, hroutes ws sid task hroute⟩⟩
  | _ => trivial

/-- The initial state has no grace countdown. -/
theorem graces_initial : Graces cfg ({} : World).control := by
  constructor <;> simp [World.control, Session.blank]

/-- Without an early reattach the grace countdowns measure the time since the last client. -/
theorem ReachableIf.graces (h : ReachableIf cfg (NoEarlyReattach cfg) w) :
    Graces cfg w.control := by
  have hkeeps :
      Keeps cfg (fun w l => AttachAfterDetach w.control l) fun w => Graces cfg w.control :=
    keeps_control _ _ fun c l c' hcore hs _ hinv hm hallow => hinv.step hcore hs hm hallow
  exact (hkeeps.run restricts_noEarlyReattach ⟨.initial, graces_initial⟩ h).2

/-- A state with a client bounds the time at which the last client left. -/
theorem leftSince_run {cond : World → Event → Prop} (hs : Sound v)
    (hclient : (v.sessions sid).websocket ≠ none) (hrun : Run (keySystem cfg) cond v w) :
    LeftSince v.now sid w.control := by
  have hkeeps : Keeps cfg (fun _ _ => True) fun w => LeftSince v.now sid w.control :=
    keeps_control (fun _ _ => True) _ fun c l c' _ _ _ hinv hm _ => hinv.step hm
  exact (hkeeps.run restricts_true ⟨hs, Nat.le_refl _, .inl hclient⟩ hrun).2

/-- A task gets the lock as the first of those that wait for it, or at once when it asks for it. -/
theorem Event.grants_cases {task : Waiter} (h : e.grants cfg w = some task) :
    (∃ found rest, e = .acquire found ∧ w.waiters = task :: rest) ∨
      (∃ ws mode found, e = .connect ws mode found ∧ task = .route ws mode) ∨
      (∃ request, e = .requestEnd request ∧ task = .endRequest request) ∨
      (∃ sid k, e = .graceExpires sid k ∧ task = .grace sid k) ∨
      ∃ sid, e = .idleWakes sid ∧ task = .idle sid ∧
        (w.sessions sid).lastActivity + cfg.idle ≤ w.now := by
  cases e with
  | acquire found =>
    obtain ⟨rest, hwaiters⟩ := List.head?_eq_some_iff.mp h
    exact Or.inl ⟨found, rest, rfl, hwaiters⟩
  | connect ws mode found =>
    have htask := (Option.ite_none_right_eq_some.mp h).2
    exact Or.inr (Or.inl ⟨ws, mode, found, rfl, (Option.some.inj htask).symm⟩)
  | requestEnd request =>
    have htask := (Option.ite_none_right_eq_some.mp h).2
    exact Or.inr (Or.inr (Or.inl ⟨request, rfl, (Option.some.inj htask).symm⟩))
  | graceExpires sid k =>
    have htask := (Option.ite_none_right_eq_some.mp h).2
    exact Or.inr (Or.inr (Or.inr (Or.inl ⟨sid, k, rfl, (Option.some.inj htask).symm⟩)))
  | idleWakes sid =>
    obtain ⟨hdue, htask⟩ := Option.ite_none_right_eq_some.mp h
    exact Or.inr (Or.inr (Or.inr (Or.inr ⟨sid, rfl, (Option.some.inj htask).symm, hdue.1⟩)))
  | _ => cases h

/-- The countdown that gets the lock in an event enters `_expire_grace`, with the map, the
session and the signals as they were before the event. -/
theorem Event.apply_grace {k : ℕ} (hgrants : e.grants cfg w = some (.grace sid k)) :
    ∃ v : World, e.apply cfg w = v.enterGrace cfg sid k ∧ v.entry = w.entry ∧
      v.signals = w.signals ∧ (v.sessions sid).websocket = (w.sessions sid).websocket ∧
      (v.sessions sid).alive = (w.sessions sid).alive := by
  rcases e.grants_cases hgrants with ⟨found, rest, rfl, hwaiters⟩ | ⟨ws, mode, found, -, htask⟩ |
    ⟨request, -, htask⟩ | ⟨sid', k', rfl, htask⟩ | ⟨sid', -, htask, -⟩
  · refine ⟨w.grant (.grace sid k) rest, ?_, rfl, rfl, rfl, rfl⟩
    simp only [apply, World.acquire, hwaiters, World.enter]
  · cases htask
  · cases htask
  · cases htask
    have hfree : (w.on sid (·.fireGrace k)).Free := (Option.ite_none_right_eq_some.mp hgrants).1
    refine ⟨_, World.request_of_free _ false hfree, rfl, rfl, ?_, ?_⟩
    · simp [Session.fireGrace, Lifecycle.fireGrace, World.grant, World.enterInside]
    · simp [Session.fireGrace, Lifecycle.fireGrace, World.grant, World.enterInside]
  · cases htask

/-- The countdown that gets the lock terminates the session in that event if and only if it
expires there. -/
theorem Event.expiresGrace_iff {k : ℕ} (hgrants : e.grants cfg w = some (.grace sid k)) :
    e.ExpiresGrace cfg w sid ↔
      (e.apply cfg w).signals = w.signals ++ [⟨sid, .grace k, .hup⟩] := by
  obtain ⟨v, hv, hentry, hsignals, hwebsocket, halive⟩ := Event.apply_grace hgrants
  rw [hv, World.enterGrace_signals, hentry, hsignals, hwebsocket, halive]
  constructor
  · rintro ⟨-, hcurrent, hleft, hlives⟩
    exact if_pos ⟨hcurrent, hleft, hlives⟩
  · intro hsent
    by_contra hexpires
    rw [if_neg fun h => hexpires ⟨⟨k, hgrants⟩, h.1, h.2.1, h.2.2⟩] at hsent
    simp at hsent

/-- When `_expire_grace` terminates a session, the countdown was over for its last client. -/
theorem Control.Graces.expires (h : Graces cfg w.control) (hen : e.Enabled w)
    (hexpires : e.ExpiresGrace cfg w sid) : (w.sessions sid).leftAt + cfg.grace ≤ w.now := by
  obtain ⟨k, hgrants⟩ := hexpires.granted
  rcases e.grants_cases hgrants with ⟨found, rest, -, hwaiters⟩ | ⟨ws, mode, found, -, htask⟩ |
    ⟨request, -, htask⟩ | ⟨sid', k', rfl, htask⟩ | ⟨sid', -, htask, -⟩
  · exact (h.firing sid k (by simp [hwaiters])).2.2
  · cases htask
  · cases htask
  · cases htask
    have hdue := hen.2
    unfold Countdown.Due at hdue
    split at hdue
    · next deadline hsleeping =>
      have := (h.sleeping sid k deadline hsleeping).2.2.2
      exact Nat.le_trans this hdue
    · cases hdue
  · cases htask

/-- Without an early reattach a grace expiry terminates a session only when nobody was
attached to it for the whole of the last `grace_seconds`. -/
theorem expireGrace_after_grace (hstart : ReachableIf cfg (NoEarlyReattach cfg) v)
    (hclient : (v.sessions sid).websocket ≠ none)
    (hrun : Run (keySystem cfg) (NoEarlyReattach cfg) v w) (hen : e.Enabled w)
    (hexpires : e.ExpiresGrace cfg w sid) : v.now + cfg.grace ≤ w.now := by
  have hgraces : Graces cfg w.control := ReachableIf.graces (hstart.trans hrun)
  have hexpired := hgraces.expires hen hexpires
  have hsince := (leftSince_run hstart.sound hclient hrun).2
  rcases hsince with hclient' | hleft
  · exact absurd hexpires.left hclient'
  · exact Nat.le_trans (Nat.add_le_add_right hleft _) hexpired

/-- Settings for concrete runs: a local shell, and an hour until it counts as idle. -/
def shellSettings : Settings where
  graceSeconds := 60
  idleSeconds := 3600
  agent := .shell
  remote := false

/-- An event in which no attach starts on a live session. -/
def ReattachesNone (cfg : Settings) (w : World) (e : Event) : Prop := e.reattached cfg w = none

instance (cfg : Settings) (w : World) (e : Event) : Decidable (ReattachesNone cfg w e) :=
  inferInstanceAs (Decidable (_ = _))

/-- Events that reattach nobody do not reattach anybody early. -/
theorem ReattachesNone.noEarlyReattach (h : ReattachesNone cfg w e) : NoEarlyReattach cfg w e :=
  fun ⟨sid, hreattaches, _⟩ => Event.not_reattaches h sid hreattaches

/-- A list of events without a reattach is a run without an early one. -/
theorem run_noEarlyReattach {events : List Event}
    (h : ((keySystem cfg).guarded (ReattachesNone cfg)).Valid w events) :
    Run (keySystem cfg) (NoEarlyReattach cfg) w ((keySystem cfg).exec w events) :=
  h.guardedRun.mono fun _ _ => ReattachesNone.noEarlyReattach

/-- A session with its first client. -/
def openSession : World :=
  (keySystem shellSettings).exec {} [.connect 0 .attach false]

/-- The end of the grace of a session whose only client has left. -/
def graceOver : World := (keySystem shellSettings).exec openSession
  [.leave 0, .writerCancelled 0 0 false, .detachResumes 0, .tick (60 * second)]

/-- The expiry at the end of the grace satisfies the conditions of the theorem. -/
theorem expireGrace_after_grace_alone : openSession.now + shellSettings.grace ≤ graceOver.now := by
  have hexpires : Event.ExpiresGrace shellSettings graceOver (.graceExpires 0 0) 0 :=
    ⟨⟨0, by decide⟩, by decide, by decide, by decide⟩
  exact expireGrace_after_grace (run_noEarlyReattach (by decide)) (by decide)
    (run_noEarlyReattach (by decide)) (by decide) hexpires

/-- A client leaves, another one attaches before the first one's writer has ended, and its
`detach` arms a countdown all the same. -/
def staleTimer : World := (keySystem shellSettings).exec {}
  [.connect 0 .attach false, .leave 0, .connect 1 .attach false, .writerCancelled 0 0 false,
    .detachResumes 0, .tick (59 * second)]

/-- The second client leaves one second before the countdown of the first one is over. -/
def staleExpiry : World := (keySystem shellSettings).exec staleTimer
  [.leave 1, .writerCancelled 0 1 false, .detachResumes 1, .tick second]

/-- A timer left over from an earlier disconnect ends a session a second after its last client
left. -/
theorem expireGrace_early : ¬∀ (cfg : Settings) (v w : World) (sid : SessionId) (e : Event),
    Reachable cfg v → (v.sessions sid).websocket ≠ none →
    Run (keySystem cfg) (fun _ _ => True) v w → e.Enabled w → e.ExpiresGrace cfg w sid →
    v.now + cfg.grace ≤ w.now := by
  intro h
  have hearly := h shellSettings staleTimer staleExpiry 0 (.graceExpires 0 0)
    (reachable_exec (by decide)) (by decide) (System.Valid.run _ (by decide)) (by decide)
    ⟨⟨0, by decide⟩, by decide, by decide, by decide⟩
  exact absurd hearly (by decide)

/-! ## Idle expiry -/

/-- `_expire_idle` gets the lock in this event, and its recheck lets it notify and terminate the
session. -/
structure Event.ExpiresIdle (cfg : Settings) (w : World) (e : Event) (sid : SessionId) :
    Prop where
  granted : e.grants cfg w = some (.idle sid)
  entry : w.entry = some sid
  alive : (w.sessions sid).alive = true

/-- The countdown that gets the lock in an event enters `_expire_idle`, with the map, the
session and the signals as they were before the event. -/
theorem Event.apply_idle (hgrants : e.grants cfg w = some (.idle sid)) :
    ∃ v : World, e.apply cfg w = v.enterIdle cfg sid ∧ v.entry = w.entry ∧
      v.signals = w.signals ∧ (v.sessions sid).alive = (w.sessions sid).alive := by
  rcases e.grants_cases hgrants with ⟨found, rest, rfl, hwaiters⟩ | ⟨ws, mode, found, -, htask⟩ |
    ⟨request, -, htask⟩ | ⟨sid', k', -, htask⟩ | ⟨sid', rfl, htask, hdue⟩
  · refine ⟨w.grant (.idle sid) rest, ?_, rfl, rfl, rfl⟩
    simp only [apply, World.acquire, hwaiters, World.enter]
  · cases htask
  · cases htask
  · cases htask
  · cases htask
    have hfree : (w.on sid Session.fireIdle).Free := (Option.ite_none_right_eq_some.mp hgrants).1.2
    have henters : w.idleWakes cfg sid = _ :=
      (if_pos hdue).trans (World.request_of_free (.idle sid) false hfree)
    refine ⟨_, henters, rfl, rfl, ?_⟩
    simp [Session.fireIdle, Lifecycle.fireIdle, World.grant, World.enterInside]

/-- The idle countdown that gets the lock begins to end the session in that event if and only
if it expires there: it sends the SIGHUP, or waits until the connection is closed to send it. -/
theorem Event.expiresIdle_iff (hgrants : e.grants cfg w = some (.idle sid)) :
    e.ExpiresIdle cfg w sid ↔
      (∃ pc, (e.apply cfg w).holder = some (.ending .idle sid pc)) ∨
        (e.apply cfg w).signals = w.signals ++ [⟨sid, .idle, .hup⟩] := by
  obtain ⟨v, hv, hentry, hsignals, halive⟩ := Event.apply_idle hgrants
  rw [hv]
  by_cases hcurrent : v.entry = some sid ∧ (v.sessions sid).alive
  · have henter : v.enterIdle cfg sid = _ := if_pos hcurrent
    rw [henter, ← hsignals]
    refine iff_of_true ⟨hgrants, hentry ▸ hcurrent.1, halive ▸ hcurrent.2⟩ ?_
    exact World.notifyAndTerminate_begins (w := v.hold (.ending .idle sid .begin)) rfl hcurrent.2
      _ _ _
  · have henter : v.enterIdle cfg sid = v.release := if_neg hcurrent
    rw [henter]
    refine iff_of_false (fun h => hcurrent ⟨hentry ▸ h.entry, halive ▸ h.alive⟩) ?_
    rintro (⟨pc, hholder⟩ | hsent)
    · cases hholder
    · simp [hsignals] at hsent

/-- Output, input or a reattach of a session whose idle countdown is over and waits for the
lock. -/
def Event.TouchesExpiring (cfg : Settings) (w : World) (e : Event) : Prop :=
  ∃ sid, e.Touches cfg w sid ∧ .idle sid ∈ w.waiters

/-- The runs in which no session is active while its idle expiry waits for the lock. -/
def QuietExpiry (cfg : Settings) (w : World) (e : Event) : Prop := ¬e.TouchesExpiring cfg w

/-- A reattach sets the last activity, whatever event starts it. -/
theorem Event.Reattaches.touches (h : e.Reattaches cfg w sid) : e.Touches cfg w sid := by
  obtain ⟨ws, mode, hgrants, hrest⟩ := h
  cases e with
  | ptyData sid' data => cases hgrants
  | receive ws' frame results => cases hgrants
  | _ => exact ⟨ws, mode, hgrants, hrest⟩

/-- The condition on the events lets no rule touch a session whose expiry waits. -/
theorem restricts_quietExpiry : Restricts cfg (QuietExpiry cfg)
    fun w l => QuietWhileExpiring w.control l := by
  intro w e v l _ hcond _ horigin
  cases l with
  | attachStart sid =>
    intro hwaits
    exact hcond ⟨sid, horigin.1.touches, horigin.2.1 hwaits⟩
  | touch sid =>
    intro hwaits
    exact hcond ⟨sid, horigin.1, horigin.2 ▸ hwaits⟩
  | _ => trivial

/-- If no session is active while its expiry waits, the ones that wait are due. -/
theorem ReachableIf.idleDue (h : ReachableIf cfg (QuietExpiry cfg) w) :
    IdleDue cfg w.control := by
  have hkeeps : Keeps cfg (fun w l => QuietWhileExpiring w.control l)
      fun w => IdleDue cfg w.control :=
    keeps_control _ _ fun c l c' _ hs _ hinv hm hallow => hinv.step hs hm hallow
  have hinitial : IdleDue cfg ({} : World).control := by
    constructor
    simp [World.control]
  exact (hkeeps.run restricts_quietExpiry ⟨.initial, hinitial⟩ h).2

/-- If no session is active while its idle expiry waits for the lock, an idle expiry terminates
a session only when `idle_seconds` have passed since its last activity. -/
theorem expireIdle_after_idle (h : ReachableIf cfg (QuietExpiry cfg) w) (hen : e.Enabled w)
    (hexpires : e.ExpiresIdle cfg w sid) :
    (w.sessions sid).lastActivity + cfg.idle ≤ w.now := by
  rcases e.grants_cases hexpires.granted with ⟨found, rest, rfl, hwaiters⟩ |
    ⟨ws, mode, found, -, htask⟩ | ⟨request, -, htask⟩ | ⟨sid', k, -, htask⟩ | ⟨sid', -, htask, hdue⟩
  · exact h.idleDue.due sid (by simp [hwaiters])
  · cases htask
  · cases htask
  · cases htask
  · cases htask
    exact hdue

/-- No task waits for the lock. -/
def NoneWaits (w : World) (_ : Event) : Prop := w.waiters = []

instance (w : World) (e : Event) : Decidable (NoneWaits w e) :=
  inferInstanceAs (Decidable (_ = _))

/-- While nothing waits for the lock, no expiry waits for it either. -/
theorem NoneWaits.quietExpiry (h : NoneWaits w e) : QuietExpiry cfg w e := by
  rintro ⟨sid, -, hwaits⟩
  rw [show w.waiters = [] from h] at hwaits
  cases hwaits

/-- A session that nothing happened to for an hour. -/
def idleSession : World := (keySystem shellSettings).exec {}
  [.connect 0 .attach false, .tick (3600 * second)]

/-- The expiry of that session satisfies the conditions of the theorem. -/
theorem expireIdle_after_idle_hour :
    (idleSession.sessions 0).lastActivity + shellSettings.idle ≤ idleSession.now := by
  have hrun : Run (keySystem shellSettings) NoneWaits {} idleSession :=
    System.Valid.guardedRun _ (by decide)
  have hexpires : Event.ExpiresIdle shellSettings idleSession (.idleWakes 0) 0 :=
    ⟨by decide, by decide, by decide⟩
  exact expireIdle_after_idle (hrun.mono fun _ _ => NoneWaits.quietExpiry) (by decide) hexpires

/-- An attach waits for its replay for an hour, the idle countdown is over and waits for the
lock, and then the program writes a byte and the attach returns. -/
def blockedReplay : World := (keySystem shellSettings).exec {}
  [.connect 0 .attach false, .ptyData 0 [65], .connect 1 .attach false, .writerCancelled 0 0 false,
    .resume, .resume, .tick (3600 * second), .idleWakes 0, .ptyData 0 [66], .writerTakes 0 1,
    .writerSent 0 1, .resume]

/-- An idle expiry that waited for the lock ends a session that has just been active. -/
theorem expireIdle_active : ¬∀ (cfg : Settings) (w : World) (sid : SessionId) (e : Event),
    Reachable cfg w → e.Enabled w → e.ExpiresIdle cfg w sid →
    (w.sessions sid).lastActivity + cfg.idle ≤ w.now := by
  intro h
  have hidle := h shellSettings blockedReplay 0 (.acquire false) (reachable_exec (by decide))
    (by decide) ⟨by decide, by decide, by decide⟩
  exact absurd hidle (by decide)

/-! ## The guard of a detached session -/

/-- An operation on the session is in progress: the lock's holder works on it, a grace expiry
of it waits for the lock, or a connection detaches from it. -/
def World.InProgress (w : World) (sid : SessionId) : Prop :=
  (∃ c, w.holder = some c ∧
      (c.role.session = some sid ∨ ∃ k, c.role = .entered (.grace sid k))) ∨
    (∃ k, .grace sid k ∈ w.waiters) ∨ ∃ ws task, w.routes ws = .detaching sid task

/-- `attach` of a live session is cancelled at its wait for `old.close` or for the replay. -/
def Event.AbortsLiveAttach (w : World) (e : Event) : Prop :=
  e = .cancelAttach ∧ ∃ c sid, w.holder = some c ∧ World.abortsAttach c = true ∧
    c.role.session = some sid ∧ (w.sessions sid).alive = true

/-- The runs in which no attach of a live session is aborted. -/
def NoAbort (w : World) (e : Event) : Prop := ¬e.AbortsLiveAttach w

/-- Without an aborted attach no rule aborts an attach of a live session. -/
theorem restricts_noAbort : Restricts cfg NoAbort fun w l => AttachNotAborted w.control l := by
  intro w e v l _ hcond _ horigin hlabel sid hwork
  subst hlabel
  obtain ⟨he, ⟨c, hholder, haborts⟩, rfl⟩ := horigin
  by_contra halive
  have hsession : c.role.session = some sid := by
    simpa [work, hholder] using hwork
  exact hcond ⟨he, c, sid, hholder, haborts, hsession, by simpa using halive⟩

/-- Work on a session at the level of the control machine is an operation in progress. -/
theorem inProgress_of_busy (h : w.control.Busy sid) : w.InProgress sid := by
  rcases h with hwork | ⟨k, hentered | hwaits⟩ | hroute
  · obtain ⟨role, hrole, hsession⟩ := Option.bind_eq_some_iff.mp hwork
    obtain ⟨c, hholder, rfl⟩ := Option.map_eq_some_iff.mp hrole
    exact .inl ⟨c, hholder, .inl hsession⟩
  · obtain ⟨c, hholder, hrole⟩ := Option.map_eq_some_iff.mp hentered
    exact .inl ⟨c, hholder, .inr ⟨k, hrole⟩⟩
  · exact .inr (.inl ⟨k, hwaits⟩)
  · exact .inr (.inr hroute)

/-- Without an aborted attach every live session without a client that no operation works on
has a pending grace countdown. -/
theorem detached_has_countdown (h : ReachableIf cfg NoAbort w)
    (halive : (w.sessions sid).alive = true) (hleft : (w.sessions sid).websocket = none)
    (hidle : ¬w.InProgress sid) :
    ∃ k deadline, (w.sessions sid).countdowns k = .sleeping deadline := by
  have hkeeps : Keeps cfg (fun w l => AttachNotAborted w.control l)
      fun w => Guarded w.control :=
    keeps_control _ _ fun c l c' hcore hs hclients hinv hm hallow =>
      hinv.step hcore hs hclients hm hallow
  have hinitial : Guarded ({} : World).control := by
    constructor <;> simp [World.control, Session.blank]
  have hguarded := (hkeeps.run restricts_noAbort ⟨.initial, hinitial⟩ h).2
  rcases hguarded.guarded sid halive hleft with hbusy | harmed
  · exact absurd (inProgress_of_busy hbusy) hidle
  · exact harmed

/-- Whether an event cancels an attach. -/
def Event.isCancel : Event → Bool
  | .cancelAttach => true
  | _ => false

/-- Without a cancellation nothing is aborted. -/
theorem noAbort_of_isCancel (h : e.isCancel = false) : NoAbort w e := by
  rintro ⟨rfl, -⟩
  cases h

/-- A session whose only client has left. -/
def detachedSession : World := (keySystem shellSettings).exec {}
  [.connect 0 .attach false, .leave 0, .writerCancelled 0 0 false, .detachResumes 0]

/-- No operation on that session is in progress. -/
theorem detachedSession_idle : ¬detachedSession.InProgress 0 := by
  rintro (⟨c, hholder, -⟩ | ⟨k, hwaits⟩ | ⟨ws, task, hroute⟩)
  · cases hholder
  · cases hwaits
  · cases ws with
    | zero => cases hroute
    | succ n => cases hroute

/-- That session satisfies the conditions of the theorem. -/
theorem detached_has_countdown_once :
    ∃ k deadline, (detachedSession.sessions 0).countdowns k = .sleeping deadline := by
  have hrun : Run (keySystem shellSettings) (fun _ e => e.isCancel = false) {} detachedSession :=
    System.Valid.guardedRun _ (by decide)
  exact detached_has_countdown (hrun.mono fun _ _ => noAbort_of_isCancel) (by decide) (by decide)
    detachedSession_idle

/-- A second client's attach is cancelled while it waits for the first client's close, and the
first client leaves. -/
def unguardedSession : World := (keySystem shellSettings).exec {}
  [.connect 0 .attach false, .connect 1 .attach false, .writerCancelled 0 0 false, .resume,
    .cancelAttach, .leave 0]

/-- No operation on that session is in progress. -/
theorem unguardedSession_idle : ¬unguardedSession.InProgress 0 := by
  rintro (⟨c, hholder, -⟩ | ⟨k, hwaits⟩ | ⟨ws, task, hroute⟩)
  · cases hholder
  · cases hwaits
  · match ws with
    | 0 => cases hroute
    | 1 => cases hroute
    | n + 2 => cases hroute

/-- A cancelled attach leaves a live session without a client and without a countdown. -/
theorem detached_without_countdown : ¬∀ (cfg : Settings) (w : World) (sid : SessionId),
    Reachable cfg w → (w.sessions sid).alive = true → (w.sessions sid).terminating = false →
    (w.sessions sid).websocket = none → ¬w.InProgress sid →
    ∃ k deadline, (w.sessions sid).countdowns k = .sleeping deadline := by
  intro h
  obtain ⟨k, deadline, hsleeping⟩ := h shellSettings unguardedSession 0
    (reachable_exec (by decide)) (by decide) (by decide) (by decide) unguardedSession_idle
  cases hsleeping

end WTerm
