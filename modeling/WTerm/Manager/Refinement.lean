import WTerm.Control.Timers
import WTerm.Manager.System
import WTerm.Session.Step

/-!
# The program refines the control machine

Every event of a session key is a sequence of fine steps. Each of them is one rule of the
control machine, or nothing at its level, and a sequence of session steps in each session.
The labels of the rules say which event they come from, so that a condition on the events of
a run becomes a condition on the rules.
-/

namespace WTerm

open Transition Control

/-! ## Lifecycle identities -/

namespace Lifecycle

/-- Clearing an empty `websocket` changes nothing. -/
theorem clearWebsocket_of_none {l : Lifecycle} (h : l.websocket = none) (now : Time) :
    l.clearWebsocket now = l := by
  cases l
  simp_all [clearWebsocket]

/-- The countdowns do not matter for the clearing of `websocket`. -/
theorem clearWebsocket_cancelGrace (l : Lifecycle) (now : Time) :
    l.cancelGrace.clearWebsocket now = (l.clearWebsocket now).cancelGrace := by
  cases h : l.graceTask <;> simp [clearWebsocket, cancelGrace, h]

/-- The last activity does not matter for the clearing of `websocket`. -/
theorem clearWebsocket_touch (l : Lifecycle) (now now' : Time) :
    (l.touch now').clearWebsocket now = (l.clearWebsocket now).touch now' := rfl

end Lifecycle

namespace World

variable {cfg : Settings} {w w' : World} {allow : World → Label → Prop}

/-! ## The control state of the world's primitives -/

@[simp]
theorem control_now : w.control.now = w.now := rfl

@[simp]
theorem control_role : w.control.role = w.holder.map Critical.role := rfl

@[simp]
theorem control_waiters : w.control.waiters = w.waiters := rfl

@[simp]
theorem control_entry : w.control.entry = w.entry := rfl

@[simp]
theorem control_count : w.control.count = w.count := rfl

@[simp]
theorem control_life (sid : SessionId) : w.control.life sid = (w.sessions sid).toLifecycle := rfl

@[simp]
theorem control_routes : w.control.routes = w.routes := rfl

@[simp]
theorem control_taken : w.control.taken = w.taken := rfl

/-- A change of one session is a change of its lifecycle. -/
theorem control_on {sid : SessionId} {f : Session → Session} {g : Lifecycle → Lifecycle}
    (h : (f (w.sessions sid)).toLifecycle = g (w.sessions sid).toLifecycle) :
    (w.on sid f).control = w.control.on sid g := by
  have hlife : (fun sid' => ((w.on sid f).sessions sid').toLifecycle) =
      Function.update w.control.life sid (g (w.control.life sid)) := by
    funext sid'
    by_cases hsid : sid' = sid
    · subst hsid
      simp [h]
    · simp [hsid]
  simp only [control, Control.on, on] at hlife ⊢
  rw [hlife]

/-- A change of one session that leaves its lifecycle alone leaves the control state alone. -/
theorem control_on_same {sid : SessionId} {f : Session → Session}
    (h : (f (w.sessions sid)).toLifecycle = (w.sessions sid).toLifecycle) :
    (w.on sid f).control = w.control := by
  have hid : w.control.on sid id = w.control := by
    unfold Control.on
    rw [id, Function.update_eq_self]
  exact (control_on h).trans hid

@[simp]
theorem control_hold (c : Critical) : (w.hold c).control = w.control.hold c.role := rfl

@[simp]
theorem control_release : w.release.control = w.control.release := rfl

@[simp]
theorem control_setRoute (ws : Ws) (route : Route) :
    (w.setRoute ws route).control = w.control.setRoute ws route := rfl

@[simp]
theorem control_enqueue (task : Waiter) :
    (w.enqueue task).control = w.control.enqueue task := rfl

@[simp]
theorem control_callClose (ws : Ws) (code : ℕ) : (w.callClose ws code).control = w.control := by
  unfold callClose
  split <;> rfl

@[simp]
theorem control_notify : w.notify.control = w.control := rfl

@[simp]
theorem control_setCloser (call : ℕ) (state : Option (SessionId × WaitClose)) :
    (w.setCloser call state).control = w.control := rfl

/-- An operation that takes a session from its connection and goes on in a new role. -/
theorem control_take {sid : SessionId} {f : Lifecycle → Lifecycle} {c : Critical}
    (hw : w' = { w with holder := some c, sessions := w'.sessions, taken := w'.taken })
    (hsid : (w'.sessions sid).toLifecycle =
      f ((w.sessions sid).toLifecycle.clearWebsocket w.now))
    (hothers : ∀ sid', sid' ≠ sid → w'.sessions sid' = w.sessions sid')
    (htaken : w'.taken =
      fun ws => w.taken ws || decide ((w.sessions sid).websocket = some ws)) :
    w'.control = (w.control.take sid f).hold c.role := by
  have hlife : (fun sid' => (w'.sessions sid').toLifecycle) =
      Function.update w.control.life sid (f ((w.control.life sid).clearWebsocket w.now)) := by
    funext sid'
    by_cases h : sid' = sid
    · subst h
      simpa using hsid
    · simp [Function.update_of_ne h, hothers sid' h]
  rw [hw]
  simp only [control, Control.take, Control.hold, Option.map_some] at hlife htaken ⊢
  rw [hlife, htaken]
  rfl

@[simp]
theorem callClose_holder (ws : Ws) (code : ℕ) : (w.callClose ws code).holder = w.holder := by
  unfold callClose
  split <;> rfl

@[simp]
theorem callClose_sessions (ws : Ws) (code : ℕ) :
    (w.callClose ws code).sessions = w.sessions := by
  unfold callClose
  split <;> rfl

@[simp]
theorem callClose_routes (ws : Ws) (code : ℕ) : (w.callClose ws code).routes = w.routes := by
  unfold callClose
  split <;> rfl

@[simp]
theorem callClose_waiters (ws : Ws) (code : ℕ) : (w.callClose ws code).waiters = w.waiters := by
  unfold callClose
  split <;> rfl

@[simp]
theorem callClose_now (ws : Ws) (code : ℕ) : (w.callClose ws code).now = w.now := by
  unfold callClose
  split <;> rfl

/-! ## Fine steps -/

/-- Every session of a world does a sequence of its steps. -/
def SessionsStep (w w' : World) : Prop :=
  ∀ sid, Session.Steps w.now (w.sessions sid) (w'.sessions sid)

/-- A fine step of the world. -/
inductive Step (cfg : Settings) (w : World) : Label → World → Prop
  /-- A rule of the control machine, other than the natural exit. -/
  | rule {l : Label} {v : World} (control : Control.Move cfg w.control l v.control)
      (sessions : w.SessionsStep v) (notExit : l.isExit = false) : Step cfg w l v
  /-- Nothing, for the control machine. -/
  | quiet {w' : World} (control : w'.control = w.control) (sessions : w.SessionsStep w') :
      Step cfg w .other w'
  /-- The installation of a connection, which also begins its replay. -/
  | install (ws : Ws) (sid : SessionId) (message : String) (pc : AttachPc)
      (holder : w.holder = some (.attaching ws sid message pc)) :
      Step cfg w .other (w.installed ws sid message)
  /-- The creation of a session. -/
  | spawn (ws : Ws) (message : String)
      (control : Control.Move cfg w.control .other (w.spawnSession cfg ws message).control) :
      Step cfg w .other (w.spawnSession cfg ws message)
  /-- A writer task takes its cancellation. -/
  | cancelWriter (sid : SessionId) (ws : Ws) (delivered : Bool)
      (requested : ((w.sessions sid).writers ws).cancelRequested = true)
      (unfinished : ((w.sessions sid).writers ws).pc ≠ .finished) :
      Step cfg w (.cancelWriter sid ws) (w.on sid (·.writerCancelled ws delivered))
  /-- The natural exit of a live session, up to the first wait of `_handle_exit`. -/
  | exit (sid : SessionId) (code : Option ℤ) (exists_ : sid < w.count)
      (alive : (w.sessions sid).alive = true) :
      Step cfg w (.exit sid) (w.on sid (·.handleExit w.now code))

/-- A sequence of fine steps whose labels are allowed. -/
abbrev Path (cfg : Settings) (allow : World → Label → Prop) : World → World → Prop :=
  Moves (Step cfg) allow

/-- The unnamed label is allowed everywhere. -/
def AllowsOther (allow : World → Label → Prop) : Prop := ∀ w, allow w .other

theorem SessionsStep.same (h : w'.sessions = w.sessions) : w.SessionsStep w' := fun sid => by
  rw [h]

/-- One session does a sequence of steps. -/
theorem SessionsStep.on {sid : SessionId} {f : Session → Session}
    (h : Session.Steps w.now (w.sessions sid) (f (w.sessions sid))) :
    w.SessionsStep (w.on sid f) := by
  intro sid'
  by_cases hsid : sid' = sid
  · subst hsid
    simpa using h
  · simp only [on_sessions, Function.update_of_ne hsid]
    exact .refl

theorem SessionsStep.trans {w'' : World} (h : w.SessionsStep w') (h' : w'.SessionsStep w'')
    (hnow : w'.now = w.now) : w.SessionsStep w'' := fun sid =>
  (h sid).trans (hnow ▸ h' sid)

/-- A world that differs neither in its control state nor in its sessions. -/
theorem path_unseen (hother : AllowsOther allow) (hcontrol : w'.control = w.control)
    (hsessions : w'.sessions = w.sessions) : Path cfg allow w w' :=
  .single (.quiet hcontrol (.same hsessions)) (hother w)

/-- A step of one session that leaves its lifecycle alone. -/
theorem path_on (hother : AllowsOther allow) (sid : SessionId) {f : Session → Session}
    (hlife : (f (w.sessions sid)).toLifecycle = (w.sessions sid).toLifecycle)
    (hstep : Session.Step w.now (w.sessions sid) (f (w.sessions sid))) :
    Path cfg allow w (w.on sid f) :=
  .single (.quiet (control_on_same hlife) (.on (.single hstep))) (hother w)

/-- A rule that does not concern the sessions. -/
theorem path_rule {l : Label} {v : World} (hallow : allow w l)
    (hcontrol : Control.Move cfg w.control l v.control) (hsessions : v.sessions = w.sessions)
    (hnotExit : l.isExit = false) : Path cfg allow w v :=
  .single (.rule hcontrol (.same hsessions) hnotExit) hallow

/-- At the level of the control machine a fine step is a rule, or nothing. -/
theorem Step.move {l : Label} (h : Step cfg w l w') :
    Control.Move cfg w.control l w'.control ∨ w'.control = w.control := by
  cases h with
  | rule control sessions notExit => exact .inl control
  | quiet control sessions => exact .inr control
  | install ws sid message pc holder =>
    refine .inl ?_
    unfold installed
    rw [control_hold, control_on (g := (·.setWebsocket ws)) (by simp)]
    exact .install ws sid (by simp [holder, Critical.role])
  | spawn ws message control => exact .inl control
  | cancelWriter sid ws delivered requested unfinished => exact .inr (control_on_same (by simp))
  | exit sid code exists_ alive =>
    refine .inl ?_
    rw [control_on (g := fun l => l.exit.clearWebsocket w.now)
      ((w.sessions sid).handleExit_toLifecycle w.now code alive)]
    exact .exit sid exists_ alive

/-- Waiting at another place in the same role. -/
theorem path_hold (hother : AllowsOther allow) {c c' : Critical} (hholder : w.holder = some c)
    (hrole : c'.role = c.role) : Path cfg allow w (w.hold c') := by
  refine path_unseen hother ?_ rfl
  simp [control, hold, hholder, hrole]

/-! ## The functions of the key -/

theorem path_callClose (hother : AllowsOther allow) (ws : Ws) (code : ℕ) :
    Path cfg allow w (w.callClose ws code) :=
  path_unseen hother (control_callClose ws code) (callClose_sessions ws code)

theorem path_notify (hother : AllowsOther allow) : Path cfg allow w w.notify :=
  path_unseen hother rfl rfl

theorem path_purge (hother : AllowsOther allow) : Path cfg allow w w.purge := by
  unfold purge
  split
  · exact .refl
  · next sid hentry =>
    split
    · exact .refl
    · next hdead =>
      exact path_rule (hother w) (.dropEntry sid hentry (by simpa using hdead)) rfl rfl

theorem path_finishDetach (hother : AllowsOther allow) {ws : Ws} {sid : SessionId}
    {t : Option Ws} (hroute : w.routes ws = .detaching sid t) :
    Path cfg allow w (w.finishDetach cfg ws sid) := by
  unfold finishDetach
  split
  · next halive =>
    refine .single (.rule (l := .other) ?_ ?_ rfl) (hother w)
    · rw [control_setRoute, control_on (g := (·.armGrace (w.now + cfg.grace))) rfl]
      exact .finishDetach ws sid t hroute halive
    · exact SessionsStep.on (f := (·.armGrace (w.now + cfg.grace)))
        (.single (.lifecycle _ rfl rfl .intro))
  · next hdead =>
      exact path_rule (hother w) (.detachDead ws sid t hroute (by simpa using hdead)) rfl rfl

theorem path_detach (hother : AllowsOther allow) {ws : Ws} {sid : SessionId}
    (hroute : w.routes ws = .looping sid) : Path cfg allow w (w.detach cfg ws sid) := by
  unfold detach
  split
  · next hcurrent =>
    set task := (w.sessions sid).stopAwaits ws
    have hbegin : Path cfg allow w
        ((w.setRoute ws (.detaching sid task)).on sid (·.clearWebsocket w.now)) := by
      refine .single (.rule (l := .other) ?_ ?_ rfl) (hother w)
      · rw [control_on (g := (·.clearWebsocket w.now)) rfl]
        exact .beginDetach ws sid task hroute hcurrent
      · exact SessionsStep.on (f := (·.clearWebsocket w.now)) (.single .clear)
    have hstop := hbegin.trans (path_on (f := (·.stopOutboundWriter ws)) hother
      sid (by simp) (.stop ws))
    dsimp only
    split
    · exact hstop
    · exact hstop.trans (path_finishDetach hother (t := task) (by simp))
  · next hother' => exact path_rule (hother w) (.skipDetach ws sid hroute hother') rfl rfl

theorem path_receiveNext (hother : AllowsOther allow) {ws : Ws} {sid : SessionId}
    (hroute : w.routes ws = .looping sid) : Path cfg allow w (w.receiveNext cfg ws sid) := by
  unfold receiveNext
  split
  · exact path_detach hother hroute
  · exact .refl

theorem path_attachReturned (hother : AllowsOther allow) {ws : Ws} {sid : SessionId}
    {message : String} {c : Critical} (hholder : w.holder = some c)
    (hrole : c.role = .replaying ws sid) :
    Path cfg allow w (w.attachReturned cfg ws sid message) := by
  have hstatus : Path cfg allow w (w.on sid (·.sendStatus message)) :=
    path_on hother sid (by simp) (.status message)
  have hloop : Path cfg allow (w.on sid (·.sendStatus message))
      ((w.on sid (·.sendStatus message)).enterLoop ws sid) :=
    path_rule (hother _) (.enterLoop ws sid (by simp [hholder, hrole])) rfl rfl
  exact (hstatus.trans hloop).trans (path_receiveNext hother (by simp [enterLoop]))

theorem path_installSocket (hother : AllowsOther allow) {ws : Ws} {sid : SessionId}
    {message : String} {p : AttachPc} (hholder : w.holder = some (.attaching ws sid message p)) :
    Path cfg allow w (w.installSocket cfg ws sid message) := by
  have hinstall : Path cfg allow w (w.installed ws sid message) :=
    .single (.install ws sid message p hholder) (hother w)
  unfold installSocket
  dsimp only
  split
  · exact hinstall.trans (path_attachReturned hother (by simp [installed]; rfl) rfl)
  · exact hinstall

theorem path_closeOld (hother : AllowsOther allow) {ws : Ws} {sid : SessionId} {message : String}
    {c : Critical} (hholder : w.holder = some c) (hrole : c.role = .attaching ws sid) (old : Ws) :
    Path cfg allow w (w.closeOld ws sid message old) :=
  (path_callClose hother old displacedCloseCode).trans
    (path_hold hother (by simpa using hholder) hrole.symm)

theorem path_displaceOld (hother : AllowsOther allow) {ws : Ws} {sid : SessionId}
    {message : String} {c : Critical} (hholder : w.holder = some c)
    (hrole : c.role = .attaching ws sid) (old : Ws) :
    Path cfg allow w (w.displaceOld ws sid message old) := by
  have hstop : Path cfg allow w (w.on sid (·.stopOutboundWriter old)) :=
    path_on hother sid (by simp) (.stop old)
  unfold displaceOld
  dsimp only
  split
  · exact hstop.trans (path_hold hother (by simpa using hholder) hrole.symm)
  · exact hstop.trans (path_closeOld hother (by simpa using hholder) hrole old)

/-- The beginning of `attach`, before it looks at `websocket`. -/
def begunAttach (w : World) (ws : Ws) (sid : SessionId) (message : String) : World :=
  ((w.hold (.attaching ws sid message .begin)).on sid (·.cancelGrace)).on sid (·.touch w.now)

theorem begunAttach_self (ws : Ws) (sid : SessionId) (message : String) :
    (w.begunAttach ws sid message).sessions sid = (w.sessions sid).cancelGrace.touch w.now := by
  simp [begunAttach]

theorem begunAttach_of_ne {ws : Ws} {sid sid' : SessionId} {message : String} (h : sid' ≠ sid) :
    (w.begunAttach ws sid message).sessions sid' = w.sessions sid' := by
  simp [begunAttach, h]

theorem sessionsStep_begunAttach (ws : Ws) (sid : SessionId) (message : String) :
    w.SessionsStep (w.begunAttach ws sid message) :=
  (SessionsStep.on (w := w.hold (.attaching ws sid message .begin)) (f := (·.cancelGrace))
    (.single (.lifecycle _ (by simp) (by simp) (by simpa using .intro)))).trans
  (SessionsStep.on (f := (·.touch w.now)) (.single (.lifecycle _ rfl rfl .intro))) rfl

theorem path_attach {ws : Ws} {mode : Mode} {sid : SessionId} {message : String}
    (hother : AllowsOther allow) (hallow : allow w (.attachStart sid))
    (hholder : w.holder = some (.entered (.route ws mode))) (hlive : w.control.Live sid) :
    Path cfg allow w (w.attach cfg ws sid message) := by
  have hrule : Control.Move cfg w.control (.attachStart sid) _ :=
    .beginAttach ws mode sid (by simp [hholder, Critical.role]) hlive
  have hsteps := w.sessionsStep_begunAttach ws sid message
  have hself := w.begunAttach_self ws sid message
  unfold attach
  rw [show ((w.hold (.attaching ws sid message .begin)).on sid (·.cancelGrace)).on sid
    (·.touch w.now) = w.begunAttach ws sid message from rfl]
  dsimp only
  split
  · next hnone =>
    have hnone' : (w.sessions sid).websocket = none := by simpa [hself] using hnone
    have hcontrol : (w.begunAttach ws sid message).control =
        (w.control.take sid fun l => l.cancelGrace.touch w.now).hold (.attaching ws sid) := by
      refine control_take (c := .attaching ws sid message .begin) rfl ?_
        (fun _ h => begunAttach_of_ne h) ?_
      · rw [hself]
        simp [Lifecycle.clearWebsocket_of_none hnone']
      · funext ws'
        simp [begunAttach, hnone']
    refine Moves.head (l := .attachStart sid)
      (.rule (v := w.begunAttach ws sid message) ?_ hsteps rfl)
      hallow (path_installSocket hother (p := .begin) rfl)
    rw [hcontrol]
    exact hrule
  · next old hold =>
    have hcontrol : ((w.begunAttach ws sid message).takeSocket sid).control =
        (w.control.take sid fun l => l.cancelGrace.touch w.now).hold (.attaching ws sid) := by
      refine control_take (c := .attaching ws sid message .begin) rfl ?_ ?_ ?_
      · simp [takeSocket, hself, Lifecycle.clearWebsocket_touch,
          Lifecycle.clearWebsocket_cancelGrace]
        rfl
      · intro sid' h
        simp [takeSocket, h, begunAttach_of_ne]
      · funext ws'
        simp [takeSocket, begunAttach]
    refine Moves.head (l := .attachStart sid)
      (.rule (v := (w.begunAttach ws sid message).takeSocket sid) ?_ ?_ rfl) hallow
      (path_displaceOld hother (c := .attaching ws sid message .begin) rfl rfl old)
    · rw [hcontrol]
      exact hrule
    · exact hsteps.trans (SessionsStep.on (f := (·.clearWebsocket w.now)) (.single .clear)) rfl

theorem hold_eq_self {c : Critical} (h : w.holder = some c) : w.hold c = w := by
  cases w
  simp_all [hold]

theorem on_eq_self {sid : SessionId} {f : Session → Session}
    (h : f (w.sessions sid) = w.sessions sid) : w.on sid f = w := by
  unfold on
  rw [h, Function.update_eq_self]

/-- The created session has just been spawned. -/
theorem spawnSession_self (ws : Ws) (message : String) :
    (w.spawnSession cfg ws message).sessions w.count =
      Session.blank.spawn w.now cfg.idleSeconds := by
  simp [spawnSession]

/-- The creation of a session leaves the others alone. -/
theorem spawnSession_of_ne {ws : Ws} {message : String} {sid : SessionId} (h : sid ≠ w.count) :
    (w.spawnSession cfg ws message).sessions sid = w.sessions sid := by
  simp [spawnSession, h]

/-- A new session has no connection and no countdown, so that `attach` goes straight on. -/
theorem startFresh_eq (ws : Ws) (message : String) :
    w.startFresh cfg ws message =
      (w.spawnSession cfg ws message).installSocket cfg ws w.count message := by
  have hself : (w.spawnSession cfg ws message).sessions w.count =
      Session.blank.spawn w.now cfg.idleSeconds := spawnSession_self ws message
  have hbegun : (w.spawnSession cfg ws message).begunAttach ws w.count message =
      w.spawnSession cfg ws message := by
    have hcancel : (w.spawnSession cfg ws message).on w.count (·.cancelGrace) =
        w.spawnSession cfg ws message := on_eq_self (by rw [hself]; rfl)
    have htouch : (w.spawnSession cfg ws message).on w.count (·.touch w.now) =
        w.spawnSession cfg ws message := on_eq_self (by rw [hself]; rfl)
    unfold begunAttach
    rw [hold_eq_self rfl, hcancel]
    exact htouch
  unfold startFresh attach
  rw [show (((w.spawnSession cfg ws message).hold (.attaching ws w.count message .begin)).on
    w.count (·.cancelGrace)).on w.count (·.touch (w.spawnSession cfg ws message).now) =
      (w.spawnSession cfg ws message).begunAttach ws w.count message from rfl, hbegun]
  dsimp only
  rw [hself]
  rfl

theorem path_startFresh (hother : AllowsOther allow) {ws : Ws} {message : String} {c : Critical}
    (hholder : w.holder = some c) (hpending : c.role.pending = some ws)
    (hfree : w.control.NoneLive ∧ (∃ mode, c.role = .entered (.route ws mode) ∨
      c.role = .probing ws mode) ∨ ∃ owner sid, c.role = .ended owner sid ∧ w.entry ≠ some sid) :
    Path cfg allow w (w.startFresh cfg ws message) := by
  rw [startFresh_eq]
  have hcontrol : (w.spawnSession cfg ws message).control = w.control.spawn cfg ws := by
    have hlife : (fun sid => ((w.spawnSession cfg ws message).sessions sid).toLifecycle) =
        Function.update w.control.life w.count
          (Session.blank.toLifecycle.spawn w.now cfg.idleSeconds) := by
      funext sid
      by_cases hsid : sid = w.count
      · subst hsid
        simp [spawnSession]
      · simp [spawnSession, hsid]
    simp only [control, Control.spawn] at hlife ⊢
    rw [hlife]
    rfl
  refine Moves.head (l := .other) (.spawn ws message ?_) (hother w)
    (path_installSocket hother (p := .begin) rfl)
  rw [hcontrol]
  exact .spawn ws c.role (by simp [hholder]) hpending hfree

theorem path_dropOwn (hother : AllowsOther allow) {sid : SessionId}
    (hdead : (w.sessions sid).alive = false) : Path cfg allow w (w.dropOwn sid) := by
  unfold dropOwn
  split
  · next hentry => exact path_rule (hother w) (.dropEntry sid hentry hdead) rfl rfl
  · exact .refl

theorem path_finishEnding (hother : AllowsOther allow) {owner : Owner} {sid : SessionId}
    (hholder : w.holder = some (.ended owner sid)) (hdead : (w.sessions sid).alive = false) :
    Path cfg allow w (w.finishEnding cfg owner sid) := by
  have hdrop : Path cfg allow w (w.dropOwn sid) := path_dropOwn hother hdead
  have hholder' : (w.dropOwn sid).holder = some (.ended owner sid) := by
    unfold dropOwn
    split <;> simpa using hholder
  have hentry : (w.dropOwn sid).entry ≠ some sid := by
    unfold dropOwn
    split
    · simp
    · assumption
  have hrelease (howner : owner.socket = none) : Path cfg allow w (w.dropOwn sid).release :=
    hdrop.trans (path_rule (hother _) (.leaveEnded owner sid (by simp [hholder', Critical.role])
      howner) rfl rfl)
  cases owner with
  | route ws mode message =>
    exact hdrop.trans (path_startFresh hother hholder' rfl (.inr ⟨_, sid, rfl, hentry⟩))
  | endRequest request => exact hrelease rfl
  | grace k => exact hrelease rfl
  | idle => exact hrelease rfl

theorem path_endTerminate (hother : AllowsOther allow) {c : Critical} {owner : Owner}
    {sid : SessionId} (hholder : w.holder = some c) (hrole : c.role = .polling owner sid) :
    Path cfg allow w ((w.endTerminate owner sid).finishEnding cfg owner sid) := by
  refine Moves.head (l := .other) (.rule (v := w.endTerminate owner sid) ?_ ?_ rfl) (hother w)
    (path_finishEnding hother rfl (by simp [endTerminate]))
  · have hcontrol : (w.endTerminate owner sid).control =
        (w.control.on sid Lifecycle.endTerminate).hold (.ended owner sid) := by
      unfold endTerminate
      rw [control_hold, control_on (g := Lifecycle.endTerminate) (by simp)]
      rfl
    rw [hcontrol]
    exact .endTerminate owner sid (by simp [hholder, hrole])
  · exact SessionsStep.on (f := Session.endTerminate) (.single .endTerminate)

theorem path_checkReaped (hother : AllowsOther allow) {c : Critical} {owner : Owner}
    {sid : SessionId} {stage : Stage} {left : ℕ} (hholder : w.holder = some c)
    (hrole : c.role = .polling owner sid) :
    Path cfg allow w (w.checkReaped cfg owner sid stage left) := by
  unfold checkReaped
  split
  · have hreap : Path cfg allow w (w.on sid Session.reapNoHang) := by
      have hsame := (w.sessions sid).reapNoHang_sameButTerminal
      exact path_on hother sid hsame.toLifecycle (.terminal _ hsame)
    exact hreap.trans (path_endTerminate hother (by simpa using hholder) hrole)
  · exact path_hold hother hholder hrole.symm

theorem path_signal (hother : AllowsOther allow) {c : Critical} {owner : Owner} {sid : SessionId}
    (stage : Stage) (hholder : w.holder = some c) (hrole : c.role = .polling owner sid) :
    Path cfg allow w (w.signal owner sid stage) :=
  path_rule (hother w) (.signal owner sid stage (by simp [hholder, hrole])) rfl rfl

theorem path_poll (hother : AllowsOther allow) {c : Critical} {owner : Owner} {sid : SessionId}
    {stage : Stage} {left : ℕ} (hholder : w.holder = some c)
    (hrole : c.role = .polling owner sid) :
    Path cfg allow w (w.poll cfg owner sid stage left) := by
  unfold poll
  split
  · cases stage with
    | hup =>
      exact (path_signal hother .term hholder hrole).trans
        (path_checkReaped hother (by simpa using hholder) hrole)
    | term =>
      exact (path_signal hother .kill hholder hrole).trans
        (path_checkReaped hother (by simpa using hholder) hrole)
    | kill => exact path_endTerminate hother hholder hrole
  · exact path_checkReaped hother hholder hrole

theorem path_terminate (hother : AllowsOther allow) {c : Critical} {owner : Owner}
    {sid : SessionId} (hholder : w.holder = some c) (hrole : c.role = .ending owner sid) :
    Path cfg allow w (w.terminate cfg owner sid) := by
  unfold terminate
  split
  · next halive =>
    dsimp only
    set w₁ := if (w.sessions sid).terminating = true then w else w.notify with hw₁
    have hnotify : Path cfg allow w w₁ := by
      rw [hw₁]
      split
      · exact .refl
      · exact path_notify hother
    have hw₁' : w₁.control = w.control ∧ w₁.sessions = w.sessions := by
      rw [hw₁]
      split <;> exact ⟨rfl, rfl⟩
    have hbegin : Path cfg allow w₁ (w₁.beginTerminate owner sid) := by
      refine .single (.rule (l := .other) ?_ ?_ rfl) (hother _)
      · have hcontrol : (w₁.beginTerminate owner sid).control =
            (w₁.control.on sid Lifecycle.beginTerminate).hold (.polling owner sid) := by
          unfold beginTerminate
          rw [control_hold, control_on (g := Lifecycle.beginTerminate) rfl]
          rfl
        rw [hcontrol, hw₁'.1]
        exact .beginTerminate owner sid (by simp [hholder, hrole]) halive
      · exact SessionsStep.on (f := Session.beginTerminate) (.single (.lifecycle _ rfl rfl nofun))
    exact ((hnotify.trans hbegin).trans (path_signal hother .hup rfl rfl)).trans
      (path_checkReaped hother rfl rfl)
  · next hdead =>
    have hdead' : (w.sessions sid).alive = false := by simpa using hdead
    exact (path_rule (hother w) (v := w.hold (.ended owner sid))
      (.alreadyDead owner sid (by simp [hholder, hrole]) hdead') rfl rfl).trans
      (path_finishEnding hother rfl hdead')

theorem path_notifySocket (hother : AllowsOther allow) {c : Critical} {owner : Owner}
    {sid : SessionId} (ws : Option Ws) (message : String) {code : ℕ}
    (hknown : code ∈ serverCloseCodes)
    (reason : String) (hholder : w.holder = some c) (hrole : c.role = .ending owner sid) :
    Path cfg allow w (w.notifySocket cfg owner sid ws message code reason) := by
  unfold notifySocket
  split
  · exact path_terminate hother hholder hrole
  · have hstatus : Path cfg allow w (w.on sid (·.sendStatus message)) :=
      path_on hother sid (by simp) (.status message)
    dsimp only
    split
    · exact hstatus.trans (path_terminate hother (by simpa using hholder) hrole)
    · have hclose := hstatus.trans
        (path_on (f := (·.queuedClose code reason)) hother sid (by simp)
          (.close code reason hknown))
      exact hclose.trans (path_hold hother (by simpa using hholder) hrole.symm)

theorem path_closeReplaced (hother : AllowsOther allow) {c : Critical} {owner : Owner}
    {sid : SessionId} (hholder : w.holder = some c) (hrole : c.role = .ending owner sid)
    (old : Ws) : Path cfg allow w (w.closeReplaced owner sid old) :=
  (path_callClose hother old displacedCloseCode).trans
    (path_hold hother (by simpa using hholder) hrole.symm)

theorem path_displaceSocket (hother : AllowsOther allow) {c : Critical} {owner : Owner}
    {sid : SessionId} (ws : Option Ws) (hholder : w.holder = some c)
    (hrole : c.role = .ending owner sid) :
    Path cfg allow w (w.displaceSocket cfg owner sid ws) := by
  unfold displaceSocket
  split
  · exact path_terminate hother hholder hrole
  · next old =>
    have hstop : Path cfg allow w (w.on sid (·.stopOutboundWriter old)) :=
      path_on hother sid (by simp) (.stop old)
    dsimp only
    split
    · exact hstop.trans (path_hold hother (by simpa using hholder) hrole.symm)
    · exact hstop.trans (path_closeReplaced hother (by simpa using hholder) hrole old)

/-- The beginning of `start_locked` and of `end`, up to the clearing of `websocket`. -/
def begunEnding (w : World) (owner : Owner) (sid : SessionId) : World :=
  ((w.hold (.ending owner sid .begin)).on sid (·.cancelGrace)).takeSocket sid

theorem control_begunEnding (owner : Owner) (sid : SessionId) :
    (w.begunEnding owner sid).control =
      (w.control.take sid Lifecycle.cancelGrace).hold (.ending owner sid) := by
  refine control_take (c := .ending owner sid .begin) rfl ?_ ?_ ?_
  · simp [begunEnding, takeSocket, Lifecycle.clearWebsocket_cancelGrace]
  · intro sid' h
    simp [begunEnding, takeSocket, h]
  · funext ws
    simp [begunEnding, takeSocket]

theorem sessionsStep_begunEnding (owner : Owner) (sid : SessionId) :
    w.SessionsStep (w.begunEnding owner sid) :=
  (SessionsStep.on (w := w.hold (.ending owner sid .begin)) (f := (·.cancelGrace))
    (.single (.lifecycle _ (by simp) (by simp) (by simpa using .intro)))).trans
  (SessionsStep.on (f := (·.clearWebsocket w.now)) (.single .clear)) rfl

/-- The session that `get_live` returns is the one of the map, alive and not terminating. -/
theorem live_of_eq {sid : SessionId} (h : w.live = some sid) : w.control.Live sid := by
  unfold live at h
  split at h
  · simp at h
  · next sid' hentry =>
    split at h
    · next hlive =>
      obtain rfl := Option.some.inj h
      simp only [Bool.and_eq_true, Bool.not_eq_true'] at hlive
      exact ⟨hentry, hlive.1, hlive.2⟩
    · simp at h

/-- When `get_live` returns nothing, the entry that is left is terminating. -/
theorem noneLive_of_purge (h : w.purge.live = none) : w.purge.control.NoneLive := by
  intro sid hentry
  have hentry' : w.purge.entry = some sid := hentry
  have halive : (w.purge.sessions sid).alive = true := by
    unfold purge at hentry' ⊢
    split at hentry'
    · simp_all
    · split at hentry'
      · simp_all
      · simp at hentry'
  refine ⟨halive, ?_⟩
  simp only [live, hentry', halive, Bool.true_and] at h
  simpa using h

/-- `get_live` finds the same session before and after it cleans the map. -/
theorem live_purge : w.purge.live = w.live := by
  cases hentry : w.entry with
  | none => simp [purge, hentry]
  | some sid =>
    by_cases halive : (w.sessions sid).alive = true
    · simp [purge, hentry, halive]
    · simp [purge, live, hentry, halive]

@[simp]
theorem purge_holder : w.purge.holder = w.holder := by
  unfold purge
  split
  · rfl
  · split <;> rfl

@[simp]
theorem purge_routes : w.purge.routes = w.routes := by
  unfold purge
  split
  · rfl
  · split <;> rfl

@[simp]
theorem purge_waiters : w.purge.waiters = w.waiters := by
  unfold purge
  split
  · rfl
  · split <;> rfl

theorem path_replace (hother : AllowsOther allow) {c : Critical} {ws : Ws} {mode : Mode}
    (message : String) {sid : SessionId} (hholder : w.holder = some c)
    (hrole : c.role = .entered (.route ws mode) ∧ mode = .new ∨ c.role = .probing ws mode)
    (hlive : w.control.Live sid) :
    Path cfg allow w (w.replace cfg (.route ws mode message) sid) := by
  refine Moves.head (l := .other)
    (.rule (v := w.begunEnding (.route ws mode message) sid) ?_
      (w.sessionsStep_begunEnding _ sid) rfl) (hother w)
    (path_displaceSocket hother (c := .ending (.route ws mode message) sid .begin) _ rfl rfl)
  rw [control_begunEnding]
  exact .beginReplace ws mode message sid (by simpa [hholder] using hrole) hlive

theorem path_startLocked (hother : AllowsOther allow) {c : Critical} {ws : Ws} {mode : Mode}
    (message : String) (hholder : w.holder = some c)
    (hrole : c.role = .entered (.route ws mode) ∨ c.role = .probing ws mode)
    (hnew : w.live ≠ none → mode = .new ∨ c.role = .probing ws mode) :
    Path cfg allow w (w.startLocked cfg ws mode message) := by
  have hpurge : Path cfg allow w w.purge := path_purge hother
  unfold startLocked
  dsimp only
  split
  · next hnone =>
    refine hpurge.trans (path_startFresh hother (c := c) (by simpa using hholder) ?_
      (.inl ⟨noneLive_of_purge hnone, mode, hrole⟩))
    rcases hrole with h | h <;> rw [h] <;> rfl
  · next sid hlive =>
    refine hpurge.trans (path_replace hother message (c := c) (by simpa using hholder) ?_
      (live_of_eq hlive))
    rw [live_purge] at hlive
    rcases hnew (by simp [hlive]) with h | h
    · exact hrole.imp (fun he => ⟨he, h⟩) id
    · exact .inr h

theorem path_startRoute (hother : AllowsOther allow) {ws : Ws} {mode : Mode} (found : Bool)
    (hholder : w.holder = some (.entered (.route ws mode)))
    (hnone : w.live = none ∧ w.control.NoneLive ∨ mode = .new) :
    Path cfg allow w (w.startRoute cfg ws mode found) := by
  have hstart (message : String) : Path cfg allow w (w.startLocked cfg ws mode message) :=
    path_startLocked hother message hholder (.inl rfl) fun hlive =>
      .inl (hnone.resolve_left fun h => hlive h.1)
  unfold startRoute
  split
  · exact hstart _
  · next hrestores =>
    split
    · have hmode : mode = .resume ∨ mode = .continue_ := by
        by_contra hm
        exact hrestores (.inr (not_or.mp hm))
      have hnone' : w.control.NoneLive := by
        rcases hnone with h | rfl
        · exact h.2
        · simp at hmode
      exact path_rule (hother w)
        (.probe ws mode (by simp [hholder, Critical.role]) hnone' hmode) rfl rfl
    · exact hstart _

theorem path_enterRoute (hother : AllowsOther allow) {ws : Ws} {mode : Mode} (found : Bool)
    (hholder : w.holder = some (.entered (.route ws mode)))
    (hattach : ∀ sid, mode ≠ .new → w.live = some sid → allow w.purge (.attachStart sid)) :
    Path cfg allow w (w.enterRoute cfg ws mode found) := by
  have hpurge : Path cfg allow w w.purge := path_purge hother
  unfold enterRoute
  dsimp only
  split
  · next hnone =>
    exact hpurge.trans (path_startRoute hother found (by simpa using hholder)
      (.inl ⟨hnone, noneLive_of_purge hnone⟩))
  · next sid hlive =>
    split
    · next hnew =>
      exact hpurge.trans (path_startRoute hother found (by simpa using hholder) (.inr hnew))
    · next hnew =>
      exact hpurge.trans (path_attach hother (hattach sid hnew (live_purge ▸ hlive))
        (by simpa using hholder) (live_of_eq hlive))

theorem path_enterEnd (hother : AllowsOther allow) {request : ℕ}
    (hholder : w.holder = some (.entered (.endRequest request))) :
    Path cfg allow w (w.enterEnd cfg request) := by
  have hpurge : Path cfg allow w w.purge := path_purge hother
  have hrole : w.purge.control.role = some (.entered (.endRequest request)) := by
    simp [hholder, Critical.role]
  unfold enterEnd
  dsimp only
  split
  · next hnone =>
    exact hpurge.trans (path_rule (hother _) (.refuse _ hrole (noneLive_of_purge hnone)) rfl rfl)
  · next sid hlive =>
    refine hpurge.trans (Moves.head (l := .other)
      (.rule (v := w.purge.begunEnding (.endRequest request) sid) ?_
        (w.purge.sessionsStep_begunEnding _ sid) rfl) (hother _)
      (path_notifySocket hother (c := .ending (.endRequest request) sid .begin) _ _ (by decide) _
        rfl rfl))
    rw [control_begunEnding]
    exact .beginEnd request sid hrole (live_of_eq hlive)

theorem path_enterGrace (hother : AllowsOther allow) {sid : SessionId} {k : ℕ}
    (hholder : w.holder = some (.entered (.grace sid k))) :
    Path cfg allow w (w.enterGrace cfg sid k) := by
  have hrole : w.control.role = some (.entered (.grace sid k)) := by
    simp [hholder, Critical.role]
  unfold enterGrace
  split
  · next hexpired =>
    exact (path_rule (hother w) (v := w.hold (.ending (.grace k) sid .begin))
      (.beginGrace sid k hrole hexpired.1 hexpired.2.1 hexpired.2.2) rfl rfl).trans
      (path_terminate hother rfl rfl)
  · next hrefused => exact path_rule (hother w) (.refuse _ hrole hrefused) rfl rfl

theorem path_enterIdle (hother : AllowsOther allow) {sid : SessionId}
    (hholder : w.holder = some (.entered (.idle sid))) :
    Path cfg allow w (w.enterIdle cfg sid) := by
  have hrole : w.control.role = some (.entered (.idle sid)) := by simp [hholder, Critical.role]
  unfold enterIdle
  split
  · next hexpired =>
    refine Moves.head (l := .other)
      (.rule (v := (w.hold (.ending .idle sid .begin)).takeSocket sid) ?_ ?_ rfl) (hother w)
      (path_notifySocket hother (c := .ending .idle sid .begin) _ _ (by decide) _ rfl rfl)
    · have hcontrol : ((w.hold (.ending .idle sid .begin)).takeSocket sid).control =
          (w.control.take sid id).hold (.ending .idle sid) := by
        refine control_take (c := .ending .idle sid .begin) rfl ?_ ?_ ?_
        · simp [takeSocket]
        · intro sid' h
          simp [takeSocket, h]
        · funext ws
          simp [takeSocket]
      rw [hcontrol]
      exact .beginIdle sid hrole hexpired.1 hexpired.2
    · exact SessionsStep.on (w := w) (f := (·.clearWebsocket w.now)) (.single .clear)
  · next hrefused => exact path_rule (hother w) (.refuse _ hrole hrefused) rfl rfl

/-- The label of an attach is allowed when the lock goes to a handshake that reattaches. -/
def AllowsAttach (allow : World → Label → Prop) (w : World) : Prop :=
  ∀ ws mode rest sid, w.waiters = .route ws mode :: rest → mode ≠ .new → w.live = some sid →
    allow (w.grant (.route ws mode) rest).purge (.attachStart sid)

theorem path_acquire (hother : AllowsOther allow) (found : Bool) (hfree : w.holder = none)
    (hattach : AllowsAttach allow w) : Path cfg allow w (w.acquire cfg found) := by
  unfold acquire
  split
  · exact .refl
  · next task rest hwaiters =>
    have hgrant (hnot : task.socket = none) : Path cfg allow w (w.grant task rest) := by
      cases task with
      | route ws mode => simp [Waiter.socket] at hnot
      | endRequest request =>
        exact path_rule (hother w) (.grant _ rest (by simp [hfree]) hwaiters hnot) rfl rfl
      | grace sid k =>
        exact path_rule (hother w) (.grant _ rest (by simp [hfree]) hwaiters hnot) rfl rfl
      | idle sid =>
        exact path_rule (hother w) (.grant _ rest (by simp [hfree]) hwaiters hnot) rfl rfl
    cases task with
    | route ws mode =>
      have hroute : Path cfg allow w (w.grant (.route ws mode) rest) :=
        path_rule (hother w) (.grantRoute ws mode rest (by simp [hfree]) hwaiters) rfl rfl
      exact hroute.trans (path_enterRoute hother found rfl fun sid hnew hlive =>
        hattach ws mode rest sid hwaiters hnew hlive)
    | endRequest request => exact (hgrant rfl).trans (path_enterEnd hother rfl)
    | grace sid k => exact (hgrant rfl).trans (path_enterGrace hother rfl)
    | idle sid => exact (hgrant rfl).trans (path_enterIdle hother rfl)

/-- After a task has joined the queue, it takes a lock that is free. -/
theorem path_request (hother : AllowsOther allow) {task : Waiter} (found : Bool)
    (hwait : Path cfg allow w' (w.enqueue task))
    (hattach : w.holder = none → w.waiters = [] → AllowsAttach allow (w.enqueue task)) :
    Path cfg allow w' (w.request cfg task found) := by
  unfold request
  split
  · next hfree => exact hwait.trans (path_acquire hother found hfree.1 (hattach hfree.1 hfree.2))
  · exact hwait

/-- Only a handshake in the queue can reattach. -/
theorem allowsAttach_of_socket {task : Waiter} (hwaiters : w.waiters = [])
    (hnot : task.socket = none) : AllowsAttach allow (w.enqueue task) := by
  intro ws mode rest sid hfirst
  have hsingle : [task] = .route ws mode :: rest := by simpa [hwaiters] using hfirst
  obtain rfl := (List.cons.inj hsingle).1
  simp [Waiter.socket] at hnot

/-! ## The waits -/

theorem path_waitWorld (hother : AllowsOther allow) (sid : SessionId) (timedOut : Bool)
    (wait : WaitClose) : Path cfg allow w (w.waitWorld sid timedOut wait) := by
  cases wait with
  | future ws code f deadline =>
    have hstop : Path cfg allow w (w.on sid (·.stopOutboundWriter ws)) :=
      path_on hother sid (by simp) (.stop ws)
    simp only [waitWorld]
    split
    · split
      · exact hstop
      · exact hstop.trans (path_callClose hother ws code)
    · exact .refl
  | stopping ws code task => exact path_callClose hother ws code
  | closing ws => exact .refl

@[simp]
theorem waitWorld_holder (sid : SessionId) (timedOut : Bool) (wait : WaitClose) :
    (w.waitWorld sid timedOut wait).holder = w.holder := by
  cases wait with
  | future ws code f deadline =>
    simp only [waitWorld]
    split
    · split <;> simp
    · rfl
  | stopping ws code task => simp [waitWorld]
  | closing ws => rfl

theorem path_continueEnding (hother : AllowsOther allow) {owner : Owner} {sid : SessionId}
    {timedOut : Bool} {wait : WaitClose} {c : Critical} (hholder : w.holder = some c)
    (hrole : c.role = .ending owner sid) :
    Path cfg allow w (w.continueEnding cfg owner sid timedOut wait) := by
  have hwait : Path cfg allow w (w.waitWorld sid timedOut wait) :=
    path_waitWorld hother sid timedOut wait
  unfold continueEnding
  dsimp only
  split
  · exact hwait.trans (path_hold hother (by simpa using hholder) hrole.symm)
  · exact hwait.trans (path_terminate hother (by simpa using hholder) hrole)

/-- Session fields outside the lifecycle that no session step is about. -/
theorem path_exitTask (hother : AllowsOther allow) (sid : SessionId) (task : ExitTask)
    (hbegun : task ≠ .none) : Path cfg allow w (w.on sid fun s => { s with exitTask := task }) :=
  path_on hother sid rfl (.exitTask task hbegun)

theorem path_exitReturns (hother : AllowsOther allow) (wasLive : Bool) :
    Path cfg allow w (w.exitReturns wasLive) := by
  unfold exitReturns
  split
  · exact path_notify hother
  · exact .refl

theorem path_continueExit (hother : AllowsOther allow) {sid : SessionId} {timedOut wasLive : Bool}
    {wait : WaitClose} : Path cfg allow w (w.continueExit sid timedOut wasLive wait) := by
  have hwait : Path cfg allow w (w.waitWorld sid timedOut wait) :=
    path_waitWorld hother sid timedOut wait
  unfold continueExit
  dsimp only
  split
  · exact hwait.trans (path_exitTask hother sid _ nofun)
  · exact (hwait.trans (path_exitTask hother sid .finished nofun)).trans
      (path_exitReturns hother wasLive)

theorem path_abandon (hother : AllowsOther allow) {c : Critical} {ws : Ws}
    (hholder : w.holder = some c)
    (hrole : (∃ sid, c.role = .aborting ws sid) ∨ ∃ mode, c.role = .probing ws mode) :
    Path cfg allow w (w.abandon ws) := by
  rcases hrole with ⟨sid, hrole⟩ | ⟨mode, hrole⟩
  · exact path_rule (hother w) (.aborted ws sid (by simp [hholder, hrole])) rfl rfl
  · exact path_rule (hother w) (.probeFailed ws mode (by simp [hholder, hrole])) rfl rfl

theorem path_cancelReplay (hother : AllowsOther allow) (hallow : allow w .abort) {c : Critical}
    {ws : Ws} {sid : SessionId} (hholder : w.holder = some c) (hrole : c.role = .replaying ws sid) :
    Path cfg allow w (w.cancelReplay ws sid) := by
  set w₁ := (w.on sid fun s => if s.websocket = some ws then s.clearWebsocket w.now else s).hold
    (.aborting ws sid ws) with hw₁
  have habort : Path cfg allow w w₁ := by
    refine .single (.rule (l := .abort) ?_ ?_ rfl) hallow
    · have hcontrol : w₁.control = (w.control.on sid fun l =>
          if l.websocket = some ws then l.clearWebsocket w.now else l).hold (.aborting ws sid) := by
        rw [hw₁, control_hold, control_on (g := fun l =>
          if l.websocket = some ws then l.clearWebsocket w.now else l)]
        · rfl
        · split <;> rfl
      rw [hcontrol]
      exact .abortReplay ws sid (by simp [hholder, hrole])
    · refine SessionsStep.on
        (f := fun s => if s.websocket = some ws then s.clearWebsocket w.now else s) ?_
      split
      · exact .single .clear
      · exact .refl
  have hstop := habort.trans
    (path_on (f := (·.stopOutboundWriter ws)) hother sid (by simp) (.stop ws))
  unfold cancelReplay
  dsimp only
  split
  · exact hstop
  · exact hstop.trans (path_abandon hother rfl (.inl ⟨sid, rfl⟩))

theorem path_resume (hother : AllowsOther allow) {c : Critical} (hholder : w.holder = some c) :
    Path cfg allow w (w.resume cfg c) := by
  cases c with
  | entered task => exact .refl
  | attaching ws sid message pc =>
    cases pc with
    | begin => exact .refl
    | stopping old task => exact path_closeOld hother hholder rfl old
    | closing old => exact path_installSocket hother hholder
  | replaying ws sid message f => exact path_attachReturned hother hholder rfl
  | aborting ws sid task => exact path_abandon hother hholder (.inl ⟨sid, rfl⟩)
  | probing ws mode pc =>
    cases pc with
    | asking => exact .refl
    | telling =>
      exact (path_callClose hother ws _).trans
        (path_hold hother (c := .probing ws mode .telling) (by simpa using hholder) rfl)
    | closing => exact path_abandon hother hholder (.inr ⟨mode, rfl⟩)
  | ending owner sid pc =>
    cases pc with
    | begin => exact .refl
    | stopping old task => exact path_closeReplaced hother hholder rfl old
    | closing old => exact path_terminate hother hholder rfl
    | wait wait => exact path_continueEnding hother hholder rfl
  | polling owner sid stage left => exact path_poll hother hholder rfl
  | ended owner sid => exact .refl

theorem path_timeOut (hother : AllowsOther allow) {c : Critical} (hholder : w.holder = some c) :
    Path cfg allow w (w.timeOut cfg c) := by
  cases c with
  | ending owner sid pc =>
    cases pc with
    | wait wait => exact path_continueEnding hother hholder rfl
    | _ => exact .refl
  | _ => exact .refl

/-- Whether a cancellation takes effect at a wait of `attach`. -/
def abortsAttach : Critical → Bool
  | .attaching _ _ _ (.closing _) | .replaying _ _ _ _ => true
  | _ => false

theorem path_cancelAttach (hother : AllowsOther allow) {c : Critical}
    (hallow : abortsAttach c = true → allow w .abort) (hholder : w.holder = some c) :
    Path cfg allow w (w.cancelAttach c) := by
  cases c with
  | attaching ws sid message pc =>
    cases pc with
    | begin => exact .refl
    | stopping old task => exact path_closeOld hother hholder rfl old
    | closing old =>
      exact path_rule (hallow rfl) (.abortAttach ws sid (by simp [hholder, Critical.role])) rfl rfl
  | replaying ws sid message f => exact path_cancelReplay hother (hallow rfl) hholder rfl
  | aborting ws sid task => exact path_abandon hother hholder (.inl ⟨sid, rfl⟩)
  | _ => exact .refl

end World

/-! ## The events -/

/-- The task that an event gives the transition lock to. -/
def Event.grants (cfg : Settings) (w : World) : Event → Option Waiter
  | .acquire _ => w.waiters.head?
  | .connect ws mode _ => if w.Free then some (.route ws mode) else none
  | .requestEnd request => if w.Free then some (.endRequest request) else none
  | .graceExpires sid k => if w.Free then some (.grace sid k) else none
  | .idleWakes sid =>
    if (w.sessions sid).lastActivity + cfg.idle ≤ w.now ∧ w.Free then some (.idle sid) else none
  | _ => none

/-- An event in which `attach` starts on a session that is live already. -/
def Event.Reattaches (cfg : Settings) (w : World) (e : Event) (sid : SessionId) : Prop :=
  ∃ ws mode, e.grants cfg w = some (.route ws mode) ∧ mode ≠ .new ∧ w.live = some sid

/-- An event that sets the last activity of a session: PTY output, input or a reattach. -/
def Event.Touches (cfg : Settings) (w : World) (e : Event) (sid : SessionId) : Prop :=
  match e with
  | .ptyData sid' _ => sid' = sid
  | .receive ws frame _ => w.loopSession ws = some sid ∧ (w.sessions sid).activeInput frame = true
  | e => e.Reattaches cfg w sid

/-- Where a labelled rule comes from: the event in whose step it is taken, and how much of the
state before the event is still the same then. -/
def Event.Origin (cfg : Settings) (w₀ : World) (e : Event) (w : World) : Label → Prop
  | .attachStart sid =>
    e.Reattaches cfg w₀ sid ∧ w.waiters ⊆ w₀.waiters ∧
      ∀ ws sid task, w.routes ws = .detaching sid task → w₀.routes ws = .detaching sid task
  | .touch sid => e.Touches cfg w₀ sid ∧ w.waiters = w₀.waiters
  | .exit sid => (∃ code, e = .exitRuns sid code) ∧ w = w₀
  | .abort => e = .cancelAttach ∧ (∃ c, w₀.holder = some c ∧ World.abortsAttach c = true) ∧ w = w₀
  | .connect => ∃ ws mode found, e = .connect ws mode found
  | .cancelWriter sid ws => (∃ delivered, e = .writerCancelled sid ws delivered) ∧ w = w₀
  | .other => True

namespace World

variable {cfg : Settings} {w w₀ : World} {allow : World → Label → Prop}

/-- Every event allows the rules without a name of their own. -/
theorem origin_other (cfg : Settings) (w₀ : World) (e : Event) : AllowsOther (e.Origin cfg w₀) :=
  fun _ => trivial

/-- The attaches of an event that takes the lock for a task that waits for it. -/
theorem allowsAttach_acquire {found : Bool} :
    AllowsAttach (Event.Origin cfg w (.acquire found)) w := by
  intro ws mode rest sid hwaiters hnew hlive
  refine ⟨⟨ws, mode, by simp [Event.grants, hwaiters], hnew, hlive⟩, ?_, ?_⟩
  · rw [purge_waiters, hwaiters]
    exact List.subset_cons_self _ _
  · intro ws' sid' task hroute
    rw [purge_routes] at hroute
    by_cases h : ws' = ws
    · subst h
      simp [grant, enterInside] at hroute
    · simpa [grant, enterInside, h] using hroute

/-- The attaches of a handshake that gets the lock at once. -/
theorem allowsAttach_connect {ws : Ws} {mode : Mode} {found : Bool} (hfree : w.Free) :
    AllowsAttach (Event.Origin cfg w (.connect ws mode found))
      ((w.setRoute ws .waiting).enqueue (.route ws mode)) := by
  intro ws' mode' rest sid hwaiters hnew hlive
  have hsingle : [Waiter.route ws mode] = .route ws' mode' :: rest := by
    simpa [hfree.2] using hwaiters
  obtain ⟨hfirst, rfl⟩ := List.cons.inj hsingle
  obtain ⟨rfl, rfl⟩ := Waiter.route.inj hfirst
  refine ⟨⟨ws, mode, by simp [Event.grants, hfree], hnew, hlive⟩, ?_, ?_⟩
  · rw [purge_waiters]
    exact List.nil_subset _
  · intro ws' sid' task hroute
    rw [purge_routes] at hroute
    by_cases h : ws' = ws
    · subst h
      simp [grant, enterInside] at hroute
    · simpa [grant, enterInside, h] using hroute

theorem path_graceExpires {sid : SessionId} {k : ℕ} (hexists : sid < w.count)
    (hdue : ((w.sessions sid).countdowns k).Due w.now) :
    Path cfg (Event.Origin cfg w (.graceExpires sid k)) w (w.graceExpires cfg sid k) := by
  have hother := origin_other cfg w (.graceExpires sid k)
  unfold graceExpires
  refine path_request hother false ?_ fun _ hwaiters => allowsAttach_of_socket hwaiters rfl
  refine .single (.rule (l := .other) ?_ ?_ rfl) trivial
  · rw [control_enqueue, control_on (g := (·.fireGrace k)) rfl]
    cases hsleep : (w.sessions sid).countdowns k with
    | sleeping deadline =>
      rw [hsleep] at hdue
      exact .graceExpires sid k deadline hexists hsleep hdue
    | unused => rw [hsleep] at hdue; exact hdue.elim
    | cancelled => rw [hsleep] at hdue; exact hdue.elim
    | fired => rw [hsleep] at hdue; exact hdue.elim
  · exact SessionsStep.on (w := w) (f := (·.fireGrace k)) (.single (.lifecycle _ rfl rfl .intro))

theorem path_idleWakes {sid : SessionId} (hexists : sid < w.count) :
    Path cfg (Event.Origin cfg w (.idleWakes sid)) w (w.idleWakes cfg sid) := by
  have hother := origin_other cfg w (.idleWakes sid)
  unfold idleWakes
  dsimp only
  split
  · next hdue =>
    refine path_request hother false ?_ fun _ hwaiters => allowsAttach_of_socket hwaiters rfl
    refine .single (.rule (l := .other) ?_ ?_ rfl) trivial
    · rw [control_enqueue, control_on (g := Lifecycle.fireIdle) rfl]
      exact .idleExpires sid hexists hdue
    · exact SessionsStep.on (w := w) (f := Session.fireIdle) (.single (.lifecycle _ rfl rfl .intro))
  · refine .single (.rule (l := .other) ?_ ?_ rfl) trivial
    · rw [control_on (g := (·.sleepIdle _)) rfl]
      exact .idleSleeps sid _ hexists
    · exact SessionsStep.on (f := (·.sleepIdle _)) (.single (.lifecycle _ rfl rfl .intro))

theorem path_exitRuns {sid : SessionId} {code : Option ℤ} (hexists : sid < w.count) :
    Path cfg (Event.Origin cfg w (.exitRuns sid code)) w (w.exitRuns sid code) := by
  have hother := origin_other cfg w (.exitRuns sid code)
  have hexit : Path cfg (Event.Origin cfg w (.exitRuns sid code)) w
      (w.on sid (·.handleExit w.now code)) := by
    by_cases halive : (w.sessions sid).alive = true
    · exact .single (.exit sid code hexists halive) ⟨⟨code, rfl⟩, rfl⟩
    · have hdead := (w.sessions sid).handleExit_of_dead w.now code (by simpa using halive)
      exact path_on hother sid (by rw [hdead]) (.exit code)
  unfold exitRuns
  dsimp only
  split
  · exact hexit.trans (path_exitReturns hother _)
  · exact hexit

theorem path_exitResumes {allow : World → Label → Prop} (hother : AllowsOther allow)
    (sid : SessionId) (timedOut : Bool) : Path cfg allow w (w.exitResumes sid timedOut) := by
  unfold exitResumes
  cases (w.sessions sid).exitTask.wait? with
  | none => exact .refl
  | some wait => exact path_continueExit hother

theorem path_closeAttached {allow : World → Label → Prop} (hother : AllowsOther allow)
    (call : ℕ) (sid : SessionId) (ws : Ws) : Path cfg allow w (w.closeAttached call sid ws) := by
  unfold closeAttached
  split
  · split
    · exact .refl
    · have hclose : Path cfg allow w
          (w.on sid (·.queuedClose unauthorizedCloseCode "세션이 폐기되었습니다")) :=
        path_on hother sid (by simp) (.close _ _ (by decide))
      exact hclose.trans (path_unseen hother rfl rfl)
  · exact path_callClose hother ws _

theorem path_closerResumes {allow : World → Label → Prop} (hother : AllowsOther allow)
    (call : ℕ) (timedOut : Bool) : Path cfg allow w (w.closerResumes call timedOut) := by
  unfold closerResumes
  cases w.closers call with
  | none => exact .refl
  | some closer => exact (path_waitWorld hother _ _ _).trans (path_unseen hother rfl rfl)

theorem path_writerTakes {allow : World → Label → Prop} (hother : AllowsOther allow)
    {sid : SessionId} {ws : Ws} (hwaiting : ((w.sessions sid).writers ws).pc.Waiting) :
    Path cfg allow w (w.writerTakes sid ws) := by
  have htake : Path cfg allow w (w.on sid (·.onWriter ws Writer.take)) :=
    path_on hother sid rfl (.take ws hwaiting)
  unfold writerTakes
  dsimp only
  split
  · exact htake.trans (path_callClose hother ws _)
  · exact htake

/-- A frame is handled before the receive loop goes on. -/
theorem path_frame (cfg : Settings) (frame : Received) (results : List WriteResult) {ws : Ws}
    {sid : SessionId} (hloop : w.routes ws = .looping sid) (hexists : sid < w.count) :
    Path cfg (Event.Origin cfg w (.receive ws frame results)) w
      (w.on sid fun s => (s.handleFrame w.now frame results).1) := by
  obtain ⟨hsteps, hlife⟩ := (w.sessions sid).handleFrame_steps w.now frame results
  have hon := SessionsStep.on (f := fun s => (s.handleFrame w.now frame results).1) hsteps
  by_cases hactive : (w.sessions sid).activeInput frame = true
  · rw [Session.frameLifecycle, if_pos hactive] at hlife
    refine .single (.rule (l := .touch sid) ?_ hon rfl) ?_
    · rw [control_on (g := (·.touch w.now)) hlife]
      exact .touch sid hexists
    · exact ⟨⟨by simp [loopSession, hloop], hactive⟩, rfl⟩
  · rw [Session.frameLifecycle, if_neg hactive] at hlife
    exact .single (.quiet (control_on_same hlife) hon) trivial

theorem loopSession_eq_some {ws : Ws} {sid : SessionId} (h : w.loopSession ws = some sid) :
    w.routes ws = .looping sid := by
  unfold loopSession at h
  split at h
  · next hroute => rw [hroute, Option.some.inj h]
  · simp at h

theorem path_receive {ws : Ws} {frame : Received} {results : List WriteResult}
    (hexists : ∀ sid, w.routes ws = .looping sid → sid < w.count) :
    Path cfg (Event.Origin cfg w (.receive ws frame results)) w
      (w.receive cfg ws frame results) := by
  have hother := origin_other cfg w (.receive ws frame results)
  unfold receive
  cases hloop : w.loopSession ws with
  | none => exact .refl
  | some sid =>
    have hroute := loopSession_eq_some hloop
    have hframe := path_frame cfg frame results hroute
      (hexists sid hroute)
    dsimp only [Option.elim]
    split
    · exact hframe.trans (path_receiveNext hother hroute)
    · exact hframe.trans (path_detach hother hroute)

theorem path_leave {allow : World → Label → Prop} (hother : AllowsOther allow) (ws : Ws) :
    Path cfg allow w (w.leave cfg ws) := by
  unfold leave
  cases hloop : w.loopSession ws with
  | none => exact .refl
  | some sid => exact path_detach hother (loopSession_eq_some hloop)

theorem path_detachResumes {allow : World → Label → Prop} (hother : AllowsOther allow) (ws : Ws) :
    Path cfg allow w (w.detachResumes cfg ws) := by
  unfold detachResumes
  cases hroute : w.routes ws with
  | detaching sid task =>
    cases task with
    | none => exact .refl
    | some task => exact path_finishDetach hother hroute
  | _ => exact .refl

theorem path_answer {allow : World → Label → Prop} (hother : AllowsOther allow)
    (history : HistoryState) : Path cfg allow w (Event.apply cfg w (.answer history)) := by
  simp only [Event.apply]
  cases hholder : w.holder with
  | none => exact .refl
  | some c =>
    cases c with
    | probing ws mode pc =>
      cases pc with
      | asking =>
        simp only [Option.bind_some, Critical.asking, Option.elim]
        unfold answerHistory
        split
        · exact path_hold hother hholder rfl
        · exact path_startLocked hother _ hholder (.inr rfl) fun _ => .inr rfl
      | telling => exact .refl
      | closing => exact .refl
    | _ => exact .refl

end World

open World in
/-- Every event is a path of fine steps, and their labels come from the event. -/
theorem Event.path {cfg : Settings} {w : World} {e : Event} (henabled : e.Enabled w)
    (hexists : ∀ ws sid, w.routes ws = .looping sid → sid < w.count) :
    Path cfg (e.Origin cfg w) w (e.apply cfg w) := by
  have hother := origin_other cfg w e
  cases e with
  | tick elapsed => exact path_rule (l := .other) trivial (.elapse elapsed) rfl rfl
  | connect ws mode found =>
    refine path_request hother found ?_ fun hholder hwaiters =>
      allowsAttach_connect ⟨hholder, hwaiters⟩
    exact path_rule (l := .connect) ⟨ws, mode, found, rfl⟩ (.connect ws mode henabled) rfl rfl
  | requestEnd request =>
    refine path_request hother false ?_ fun _ hwaiters => allowsAttach_of_socket hwaiters rfl
    exact path_rule (l := .other) trivial (.requestEnd request) rfl rfl
  | getLive => exact path_purge hother
  | acquire found => exact path_acquire hother found henabled.1 allowsAttach_acquire
  | resume =>
    obtain ⟨c, hholder, -⟩ := henabled
    simpa [Event.apply, hholder] using path_resume hother hholder
  | timeOut =>
    obtain ⟨c, hholder, -⟩ := henabled
    simpa [Event.apply, hholder] using path_timeOut hother hholder
  | answer history => exact path_answer hother history
  | cancelAttach =>
    obtain ⟨c, hholder, -⟩ := henabled
    simpa [Event.apply, hholder] using
      path_cancelAttach hother (fun haborts => ⟨rfl, ⟨c, hholder, haborts⟩, rfl⟩) hholder
  | graceExpires sid k => exact path_graceExpires henabled.1 henabled.2
  | idleWakes sid => exact path_idleWakes henabled.1
  | exitRuns sid code => exact path_exitRuns henabled.1
  | exitResumes sid timedOut => exact path_exitResumes hother sid timedOut
  | closeAttached call sid ws => exact path_closeAttached hother call sid ws
  | closerResumes call timedOut => exact path_closerResumes hother call timedOut
  | ptyData sid data =>
    refine .single (.rule (l := .touch sid) ?_ ?_ rfl) ⟨rfl, rfl⟩
    · simp only [Event.apply]
      rw [control_on (g := (·.touch w.now)) (by simp [Session.ptyData])]
      exact .touch sid henabled.1
    · exact SessionsStep.on (f := (·.ptyData w.now data))
        ((Relation.ReflTransGen.single (.lifecycle _ rfl rfl .intro)).tail (.output data))
  | ptyEof sid => exact path_on hother sid rfl .eof
  | childExits sid => exact path_on hother sid rfl (.terminal _ ⟨rfl, rfl⟩)
  | flush sid results =>
    have hsame := (w.sessions sid).flushWrite_sameButTerminal results
    exact path_on (f := (·.flushWrite results)) hother sid hsame.toLifecycle (.terminal _ hsame)
  | writerTakes sid ws => exact path_writerTakes hother henabled.2
  | writerSent sid ws => exact path_on (f := (·.writerSent ws)) hother sid (by simp) (.sent ws)
  | writerFails sid ws delivered =>
    exact path_on (f := (·.writerFailed ws delivered)) hother sid (by simp) (.failed ws delivered)
  | writerCancelled sid ws delivered =>
    exact .single (.cancelWriter sid ws delivered henabled.1 henabled.2) ⟨⟨delivered, rfl⟩, rfl⟩
  | receive ws frame results => exact path_receive fun sid => hexists ws sid
  | leave ws => exact path_leave hother ws
  | detachResumes ws => exact path_detachResumes hother ws

end WTerm
