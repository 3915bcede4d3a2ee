import Mathlib.Tactic.Simps.Basic
import WTerm.Manager.World

/-!
# The control machine of a session key

What decides who holds a session and when it ends: the transition lock, the map entry, the
lifecycle of each session and the routes of the connections. The machine has one rule for
each atomic change that the program makes to this state; an atomic step of the program is a
sequence of rules. Frames, buffers and file descriptors do not occur here.
-/

namespace WTerm

/-- What the holder of the transition lock is doing, without the await it stands at. -/
inductive Role where
  | entered (task : Waiter)
  /-- `attach`, before the installation of the connection. -/
  | attaching (ws : Ws) (sid : SessionId)
  /-- `attach`, after the installation. -/
  | replaying (ws : Ws) (sid : SessionId)
  | aborting (ws : Ws) (sid : SessionId)
  | probing (ws : Ws) (mode : Mode)
  /-- On the way to `terminate`. -/
  | ending (owner : Owner) (sid : SessionId)
  | polling (owner : Owner) (sid : SessionId)
  | ended (owner : Owner) (sid : SessionId)
  deriving DecidableEq

/-- The role of the lock's holder. -/
def Critical.role : Critical → Role
  | .entered task => .entered task
  | .attaching ws sid _ _ => .attaching ws sid
  | .replaying ws sid _ _ => .replaying ws sid
  | .aborting ws sid _ => .aborting ws sid
  | .probing ws mode _ => .probing ws mode
  | .ending owner sid _ => .ending owner sid
  | .polling owner sid _ _ => .polling owner sid
  | .ended owner sid => .ended owner sid

/-- The session that the holder works on. -/
def Role.session : Role → Option SessionId
  | .entered _ | .probing _ _ => none
  | .attaching _ sid | .replaying _ sid | .aborting _ sid | .ending _ sid | .polling _ sid
  | .ended _ sid => some sid

/-- Who terminates the session that the holder works on. -/
def Role.owner : Role → Option Owner
  | .ending owner _ | .polling owner _ | .ended owner _ => some owner
  | _ => none

/-- The session that a task asks the lock for. -/
def Waiter.session : Waiter → Option SessionId
  | .grace sid _ | .idle sid => some sid
  | _ => none

/-- The connection whose handshake asks for the lock. -/
def Waiter.socket : Waiter → Option Ws
  | .route ws _ => some ws
  | _ => none

/-- The session that the task of a connection serves. -/
def Route.session : Route → Option SessionId
  | .looping sid | .detaching sid _ => some sid
  | _ => none

/-- The connection of a handshake that terminates a session first. -/
def Owner.socket : Owner → Option Ws
  | .route ws _ _ => some ws
  | _ => none

/-- The connection that the holder is about to install. -/
def Role.pending : Role → Option Ws
  | .entered task => task.socket
  | .attaching ws _ | .probing ws _ => some ws
  | .ending owner _ | .polling owner _ | .ended owner _ => owner.socket
  | _ => none

/-- The control state of a session key. -/
structure Control where
  now : Time
  role : Option Role
  waiters : List Waiter
  entry : Option SessionId
  count : ℕ
  life : SessionId → Lifecycle
  routes : Ws → Route
  signals : List Signal
  taken : Ws → Bool

/-- The part of a key's state that the control machine speaks of. -/
def World.control (w : World) : Control where
  now := w.now
  role := w.holder.map Critical.role
  waiters := w.waiters
  entry := w.entry
  count := w.count
  life sid := (w.sessions sid).toLifecycle
  routes := w.routes
  signals := w.signals
  taken := w.taken

/-- A connection counts as joined from its installation on. -/
@[simp, grind =]
theorem Lifecycle.setWebsocket_joined (l : Lifecycle) (ws ws' : Ws) :
    (l.setWebsocket ws).joined ws' = (decide (ws' = ws) || l.joined ws') := by
  by_cases h : ws' = ws <;> simp [setWebsocket, h]

/-- The new countdown sleeps, and the others stay as they are. -/
@[simp, grind =]
theorem Lifecycle.armGrace_countdowns (l : Lifecycle) (deadline : Time) (k : ℕ) :
    (l.armGrace deadline).countdowns k =
      if k = l.nextCountdown then .sleeping deadline else l.countdowns k := by
  simp [armGrace, Function.update_apply]

/-- The fired countdown does not sleep any more, and the others stay as they are. -/
@[simp, grind =]
theorem Lifecycle.fireGrace_countdowns (l : Lifecycle) (k k' : ℕ) :
    (l.fireGrace k).countdowns k' = if k' = k then .fired else l.countdowns k' := by
  simp [fireGrace, Function.update_apply]

/-- A cancelled countdown does not sleep. -/
@[simp]
theorem Countdown.cancel_ne_sleeping (c : Countdown) (deadline : Time) :
    c.cancel ≠ .sleeping deadline := by
  cases c <;> simp [cancel]

grind_pattern Countdown.cancel_ne_sleeping => c.cancel, Countdown.sleeping deadline

/-- Only the countdown of the reference is cancelled. -/
@[simp, grind =]
theorem Lifecycle.cancelGrace_countdowns (l : Lifecycle) (k : ℕ) :
    l.cancelGrace.countdowns k =
      if l.graceTask = some k then (l.countdowns k).cancel else l.countdowns k := by
  cases h : l.graceTask with
  | none => simp [cancelGrace, h]
  | some k' =>
    by_cases hk : k' = k
    · simp [cancelGrace, h, hk]
    · simp [cancelGrace, h, hk, Ne.symm hk]

section CancelGrace

variable (l : Lifecycle)

/-- `cancel_grace` clears the reference, and everything but the countdowns stays. -/
@[simp, grind =] theorem Lifecycle.cancelGrace_graceTask : l.cancelGrace.graceTask = none := by
  cases h : l.graceTask <;> simp [cancelGrace, h]

@[simp, grind =] theorem Lifecycle.cancelGrace_alive : l.cancelGrace.alive = l.alive := by
  cases h : l.graceTask <;> simp [cancelGrace, h]

@[simp, grind =] theorem Lifecycle.cancelGrace_terminating :
    l.cancelGrace.terminating = l.terminating := by
  cases h : l.graceTask <;> simp [cancelGrace, h]

@[simp, grind =] theorem Lifecycle.cancelGrace_websocket :
    l.cancelGrace.websocket = l.websocket := by
  cases h : l.graceTask <;> simp [cancelGrace, h]

@[simp, grind =] theorem Lifecycle.cancelGrace_lastActivity :
    l.cancelGrace.lastActivity = l.lastActivity := by
  cases h : l.graceTask <;> simp [cancelGrace, h]

@[simp, grind =] theorem Lifecycle.cancelGrace_leftAt : l.cancelGrace.leftAt = l.leftAt := by
  cases h : l.graceTask <;> simp [cancelGrace, h]

@[simp, grind =] theorem Lifecycle.cancelGrace_joined : l.cancelGrace.joined = l.joined := by
  cases h : l.graceTask <;> simp [cancelGrace, h]

end CancelGrace

attribute [grind =] Lifecycle.touch Lifecycle.setWebsocket Lifecycle.clearWebsocket
  Lifecycle.armGrace Lifecycle.fireGrace Lifecycle.cancelIdle
  Lifecycle.sleepIdle Lifecycle.fireIdle Lifecycle.spawn Lifecycle.exit
  Lifecycle.beginTerminate Lifecycle.endTerminate Function.update_apply
  Lifecycle.touch_countdowns Lifecycle.clearWebsocket_countdowns Lifecycle.cancelIdle_countdowns
  Lifecycle.sleepIdle_countdowns Lifecycle.fireIdle_countdowns Lifecycle.spawn_countdowns
  Lifecycle.endTerminate_countdowns Lifecycle.exit_countdowns Lifecycle.beginTerminate_countdowns
  Role.session Role.owner Owner.socket Waiter.session Waiter.socket Route.session

namespace Control

/-- The names of the rules on which a property can depend. -/
inductive Label where
  /-- `attach` starts on a session that exists already, which also sets its last activity. -/
  | attachStart (sid : SessionId)
  /-- The last activity of a session is set. -/
  | touch (sid : SessionId)
  /-- `_handle_exit` finds the session alive. -/
  | exit (sid : SessionId)
  /-- The cancellation of `attach` takes effect. -/
  | abort
  /-- A handshake begins. -/
  | connect
  /-- A writer task of a session takes its cancellation. -/
  | cancelWriter (sid : SessionId) (ws : Ws)
  | other

/-- Whether a label is the natural exit of a session. -/
def Label.isExit : Label → Bool
  | .exit _ => true
  | _ => false

/-- Change one lifecycle. -/
@[simps]
def on (c : Control) (sid : SessionId) (f : Lifecycle → Lifecycle) : Control :=
  { c with life := Function.update c.life sid (f (c.life sid)) }

/-- The task of a connection moves on. -/
@[simps]
def setRoute (c : Control) (ws : Ws) (route : Route) : Control :=
  { c with routes := Function.update c.routes ws route }

/-- The holder moves on. -/
@[simps]
def hold (c : Control) (role : Role) : Control := { c with role := some role }

/-- The lock is released. -/
@[simps]
def release (c : Control) : Control := { c with role := none }

/-- A task waits for the lock. -/
@[simps]
def enqueue (c : Control) (task : Waiter) : Control := { c with waiters := c.waiters ++ [task] }

/-- An operation takes the session from its connection, `websocket = None`, and changes the
lifecycle further. -/
@[simps]
def take (c : Control) (sid : SessionId) (f : Lifecycle → Lifecycle) : Control :=
  { c with
    life := Function.update c.life sid (f ((c.life sid).clearWebsocket c.now))
    taken := fun ws => c.taken ws || decide ((c.life sid).websocket = some ws) }

/-- `start_locked` creates and registers a session and goes on to attach to it. -/
@[simps]
def spawn (cfg : Settings) (c : Control) (ws : Ws) : Control :=
  { c with
    life := Function.update c.life c.count
      (Session.blank.toLifecycle.spawn c.now cfg.idleSeconds)
    entry := some c.count
    count := c.count + 1
    role := some (.attaching ws c.count) }

/-- The session is live: `get_live` returns it. -/
structure Live (c : Control) (sid : SessionId) : Prop where
  entry : c.entry = some sid
  alive : (c.life sid).alive = true
  notTerminating : (c.life sid).terminating = false

/-- `get_live` returns nothing, and the map has no dead entry. -/
def NoneLive (c : Control) : Prop :=
  ∀ sid, c.entry = some sid → (c.life sid).alive = true ∧ (c.life sid).terminating = true

/-- An operation that got the lock finds nothing to do. -/
def Refused (c : Control) : Waiter → Prop
  | .route _ _ => False
  | .endRequest _ => c.NoneLive
  | .grace sid _ =>
    ¬(c.entry = some sid ∧ (c.life sid).websocket = none ∧ (c.life sid).alive = true)
  | .idle sid => ¬(c.entry = some sid ∧ (c.life sid).alive = true)

attribute [grind =] NoneLive Refused
  on_now on_role on_waiters on_entry on_count on_life on_routes on_signals on_taken
  setRoute_now setRoute_role setRoute_waiters setRoute_entry setRoute_count setRoute_life
  setRoute_routes setRoute_signals setRoute_taken
  hold_now hold_role hold_waiters hold_entry hold_count hold_life hold_routes hold_signals
  hold_taken
  release_now release_role release_waiters release_entry release_count release_life
  release_routes release_signals release_taken
  enqueue_now enqueue_role enqueue_waiters enqueue_entry enqueue_count enqueue_life
  enqueue_routes enqueue_signals enqueue_taken
  take_now take_role take_waiters take_entry take_count take_life
  take_routes take_signals take_taken
  spawn_now spawn_role spawn_waiters spawn_entry spawn_count spawn_life spawn_routes
  spawn_signals spawn_taken
attribute [grind →] Live.entry Live.alive Live.notTerminating

/-- The rules. -/
inductive Move (cfg : Settings) (c : Control) : Label → Control → Prop
  | elapse (d : Time) : Move cfg c .other { c with now := c.now + d }
  | touch (sid : SessionId) (exists_ : sid < c.count) :
      Move cfg c (.touch sid) (c.on sid (·.touch c.now))
  | dropEntry (sid : SessionId) (entry : c.entry = some sid)
      (dead : (c.life sid).alive = false) : Move cfg c .other { c with entry := none }
  | connect (ws : Ws) (mode : Mode) (absent : c.routes ws = .absent) :
      Move cfg c .connect ((c.setRoute ws .waiting).enqueue (.route ws mode))
  | requestEnd (request : ℕ) : Move cfg c .other (c.enqueue (.endRequest request))
  | graceExpires (sid : SessionId) (k : ℕ) (deadline : Time) (exists_ : sid < c.count)
      (sleeping : (c.life sid).countdowns k = .sleeping deadline) (due : deadline ≤ c.now) :
      Move cfg c .other ((c.on sid (·.fireGrace k)).enqueue (.grace sid k))
  | idleSleeps (sid : SessionId) (wake : Time) (exists_ : sid < c.count) :
      Move cfg c .other (c.on sid (·.sleepIdle wake))
  | idleExpires (sid : SessionId) (exists_ : sid < c.count)
      (due : (c.life sid).lastActivity + cfg.idle ≤ c.now) :
      Move cfg c .other ((c.on sid Lifecycle.fireIdle).enqueue (.idle sid))
  | grantRoute (ws : Ws) (mode : Mode) (rest : List Waiter) (free : c.role = none)
      (first : c.waiters = .route ws mode :: rest) :
      Move cfg c .other
        (({ c with waiters := rest }.setRoute ws .inside).hold (.entered (.route ws mode)))
  | grant (task : Waiter) (rest : List Waiter) (free : c.role = none)
      (first : c.waiters = task :: rest) (notRoute : task.socket = none) :
      Move cfg c .other ({ c with waiters := rest }.hold (.entered task))
  | refuse (task : Waiter) (holder : c.role = some (.entered task)) (refused : c.Refused task) :
      Move cfg c .other c.release
  | beginAttach (ws : Ws) (mode : Mode) (sid : SessionId)
      (holder : c.role = some (.entered (.route ws mode))) (live : c.Live sid) :
      Move cfg c (.attachStart sid) ((c.take sid fun l => l.cancelGrace.touch c.now).hold
        (.attaching ws sid))
  | install (ws : Ws) (sid : SessionId) (holder : c.role = some (.attaching ws sid)) :
      Move cfg c .other ((c.on sid (·.setWebsocket ws)).hold (.replaying ws sid))
  | enterLoop (ws : Ws) (sid : SessionId) (holder : c.role = some (.replaying ws sid)) :
      Move cfg c .other ((c.setRoute ws (.looping sid)).release)
  | abortAttach (ws : Ws) (sid : SessionId) (holder : c.role = some (.attaching ws sid)) :
      Move cfg c .abort ((c.setRoute ws .finished).release)
  | abortReplay (ws : Ws) (sid : SessionId) (holder : c.role = some (.replaying ws sid)) :
      Move cfg c .abort ((c.on sid fun l =>
        if l.websocket = some ws then l.clearWebsocket c.now else l).hold (.aborting ws sid))
  | aborted (ws : Ws) (sid : SessionId) (holder : c.role = some (.aborting ws sid)) :
      Move cfg c .other ((c.setRoute ws .finished).release)
  | probe (ws : Ws) (mode : Mode) (holder : c.role = some (.entered (.route ws mode)))
      (noneLive : c.NoneLive) (restores : mode = .resume ∨ mode = .continue_) :
      Move cfg c .other (c.hold (.probing ws mode))
  | probeFailed (ws : Ws) (mode : Mode) (holder : c.role = some (.probing ws mode)) :
      Move cfg c .other ((c.setRoute ws .finished).release)
  | beginReplace (ws : Ws) (mode : Mode) (message : String) (sid : SessionId)
      (holder : c.role = some (.entered (.route ws mode)) ∧ mode = .new ∨
        c.role = some (.probing ws mode)) (live : c.Live sid) :
      Move cfg c .other ((c.take sid Lifecycle.cancelGrace).hold
        (.ending (.route ws mode message) sid))
  | beginEnd (request : ℕ) (sid : SessionId)
      (holder : c.role = some (.entered (.endRequest request))) (live : c.Live sid) :
      Move cfg c .other ((c.take sid Lifecycle.cancelGrace).hold
        (.ending (.endRequest request) sid))
  | beginGrace (sid : SessionId) (k : ℕ) (holder : c.role = some (.entered (.grace sid k)))
      (entry : c.entry = some sid) (left : (c.life sid).websocket = none)
      (alive : (c.life sid).alive = true) :
      Move cfg c .other (c.hold (.ending (.grace k) sid))
  | beginIdle (sid : SessionId) (holder : c.role = some (.entered (.idle sid)))
      (entry : c.entry = some sid) (alive : (c.life sid).alive = true) :
      Move cfg c .other ((c.take sid id).hold (.ending .idle sid))
  | beginTerminate (owner : Owner) (sid : SessionId) (holder : c.role = some (.ending owner sid))
      (alive : (c.life sid).alive = true) :
      Move cfg c .other ((c.on sid Lifecycle.beginTerminate).hold (.polling owner sid))
  | alreadyDead (owner : Owner) (sid : SessionId) (holder : c.role = some (.ending owner sid))
      (dead : (c.life sid).alive = false) : Move cfg c .other (c.hold (.ended owner sid))
  | signal (owner : Owner) (sid : SessionId) (stage : Stage)
      (holder : c.role = some (.polling owner sid)) :
      Move cfg c .other { c with signals := c.signals ++ [⟨sid, owner, stage⟩] }
  | endTerminate (owner : Owner) (sid : SessionId)
      (holder : c.role = some (.polling owner sid)) :
      Move cfg c .other ((c.on sid Lifecycle.endTerminate).hold (.ended owner sid))
  | leaveEnded (owner : Owner) (sid : SessionId) (holder : c.role = some (.ended owner sid))
      (notRoute : owner.socket = none) : Move cfg c .other c.release
  | spawn (ws : Ws) (role : Role) (holder : c.role = some role) (pending : role.pending = some ws)
      (free : c.NoneLive ∧ (∃ mode, role = .entered (.route ws mode) ∨ role = .probing ws mode) ∨
        ∃ owner sid, role = .ended owner sid ∧ c.entry ≠ some sid) :
      Move cfg c .other (c.spawn cfg ws)
  | exit (sid : SessionId) (exists_ : sid < c.count) (alive : (c.life sid).alive = true) :
      Move cfg c (.exit sid) (c.on sid fun l => l.exit.clearWebsocket c.now)
  | beginDetach (ws : Ws) (sid : SessionId) (task : Option Ws)
      (loops : c.routes ws = .looping sid) (current : (c.life sid).websocket = some ws) :
      Move cfg c .other ((c.setRoute ws (.detaching sid task)).on sid (·.clearWebsocket c.now))
  | skipDetach (ws : Ws) (sid : SessionId) (loops : c.routes ws = .looping sid)
      (displaced : (c.life sid).websocket ≠ some ws) :
      Move cfg c .other (c.setRoute ws .finished)
  | finishDetach (ws : Ws) (sid : SessionId) (task : Option Ws)
      (detaches : c.routes ws = .detaching sid task) (alive : (c.life sid).alive = true) :
      Move cfg c .other ((c.on sid (·.armGrace (c.now + cfg.grace))).setRoute ws
        .finished)
  | detachDead (ws : Ws) (sid : SessionId) (task : Option Ws)
      (detaches : c.routes ws = .detaching sid task) (dead : (c.life sid).alive = false) :
      Move cfg c .other (c.setRoute ws .finished)

end Control

end WTerm
