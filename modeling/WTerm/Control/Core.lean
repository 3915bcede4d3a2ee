import WTerm.Control.Machine

/-!
# Invariants of every run of the control machine

The transition lock makes the operations on a session key sequential, but the natural exit
and the detach of a connection happen outside it. The first group of invariants links the
map entry, the live process and the holder of the lock. The second group says where a
connection can occur, from which it follows that each connection is installed only once.
-/

namespace WTerm.Control

variable {cfg : Settings} {c c' : Control} {l : Label}

/-- The process side: who can be alive, and who can end it. -/
structure Core (c : Control) : Prop where
  /-- A live process belongs to the session in the map. -/
  aliveEntry : ∀ sid, (c.life sid).alive = true → c.entry = some sid
  /-- While an operation works on a session, no other session is alive. -/
  sole : ∀ r sid sid', c.role = some r → r.session = some sid → (c.life sid').alive = true →
    sid' = sid
  /-- A live session is terminating only while the lock's holder polls it. -/
  terminating : ∀ sid, (c.life sid).alive = true → (c.life sid).terminating = true →
    ∃ owner, c.role = some (.polling owner sid)
  /-- A history check runs only while no session is alive. -/
  probing : ∀ ws mode sid, c.role = some (.probing ws mode) → (c.life sid).alive = false
  /-- A session is dead when `terminate` has returned. -/
  ended : ∀ owner sid, c.role = some (.ended owner sid) → (c.life sid).alive = false
  /-- A handshake ends a session only in mode `new`. -/
  ownerNew : ∀ r ws mode message, c.role = some r → r.owner = some (.route ws mode message) →
    mode = .new
  /-- A handshake signalled a process only in mode `new`. -/
  signalNew : ∀ s ∈ c.signals, ∀ ws mode message, s.owner = .route ws mode message → mode = .new
  /-- `websocket` stays `None` from its clearing until the session is dead. -/
  cleared : ∀ owner sid, c.role = some (.ending owner sid) ∨ c.role = some (.polling owner sid) →
    (c.life sid).websocket = none
  /-- `websocket` stays `None` from its clearing until the next connection is installed. -/
  displaced : ∀ ws sid, c.role = some (.attaching ws sid) → (c.life sid).websocket = none

/-- No session is alive when a new one is created. -/
theorem Core.noneAlive (h : Core c) {role : Role} {ws : Ws} (holder : c.role = some role)
    (free : c.NoneLive ∧ (∃ mode, role = .entered (.route ws mode) ∨ role = .probing ws mode) ∨
      ∃ owner sid, role = .ended owner sid ∧ c.entry ≠ some sid) (sid : SessionId) :
    (c.life sid).alive = false := by
  by_contra halive
  have halive' : (c.life sid).alive = true := by simpa using halive
  have hentry := h.aliveEntry sid halive'
  rcases free with ⟨hnone, mode, hrole⟩ | ⟨owner, sid', rfl, hne⟩
  · -- The map's session is terminating, so the holder would be polling it.
    obtain ⟨-, hterm⟩ := hnone sid hentry
    obtain ⟨owner, hpoll⟩ := h.terminating sid halive' hterm
    rcases hrole with rfl | rfl <;> simp [holder] at hpoll
  · -- The session in the map would be the one that has just ended.
    have hsame := h.sole _ sid' sid holder rfl halive'
    exact hne (hsame ▸ hentry)

/-- A rule keeps the link between live processes and the map. -/
theorem Core.aliveEntry_step (h : Core c) (hm : Move cfg c l c') {sid : SessionId}
    (halive : (c'.life sid).alive = true) : c'.entry = some sid := by
  have hkeep := h.aliveEntry
  cases hm with
  | spawn ws role holder pending free =>
    have hnone := h.noneAlive holder free sid
    grind
  | _ => grind

/-- A rule keeps other sessions dead while an operation works on one. -/
theorem Core.sole_step (h : Core c) (hm : Move cfg c l c') {r : Role} {sid sid' : SessionId}
    (hr : c'.role = some r) (hsid : r.session = some sid)
    (halive : (c'.life sid').alive = true) : sid' = sid := by
  have hkeep := h.sole
  have hentry := h.aliveEntry
  cases hm with
  | spawn ws role holder pending free =>
    have hnone := h.noneAlive holder free sid'
    grind
  | _ => grind

/-- A rule lets only the polling holder keep a live session terminating. -/
theorem Core.terminating_step (h : Core c) (hm : Move cfg c l c') {sid : SessionId}
    (halive : (c'.life sid).alive = true) (hterm : (c'.life sid).terminating = true) :
    ∃ owner, c'.role = some (.polling owner sid) := by
  have hkeep := h.terminating
  cases hm with
  | spawn ws role holder pending free =>
    -- The new session is not terminating, and no other session is alive.
    have hnone := h.noneAlive holder free sid
    have hblank : Session.blank.terminating = false := rfl
    grind
  | _ => grind

/-- A rule brings no session to life during a history check. -/
theorem Core.probing_step (h : Core c) (hm : Move cfg c l c') {ws : Ws} {mode : Mode}
    {sid : SessionId} (hr : c'.role = some (.probing ws mode)) :
    (c'.life sid).alive = false := by
  have hkeep := h.probing
  cases hm with
  | probe ws' mode' holder noneLive restores =>
    -- A live session would be terminating, but nobody polls it.
    have hentry := h.aliveEntry
    have hterm := h.terminating
    grind
  | _ => grind

/-- A rule does not revive a session that `terminate` has ended. -/
theorem Core.ended_step (h : Core c) (hm : Move cfg c l c') {owner : Owner} {sid : SessionId}
    (hr : c'.role = some (.ended owner sid)) : (c'.life sid).alive = false := by
  have hkeep := h.ended
  cases hm <;> grind

/-- A rule makes a handshake end a session only in mode `new`. -/
theorem Core.ownerNew_step (h : Core c) (hm : Move cfg c l c') {r : Role} {ws : Ws} {mode : Mode}
    {message : String} (hr : c'.role = some r) (ho : r.owner = some (.route ws mode message)) :
    mode = .new := by
  have hkeep := h.ownerNew
  cases hm with
  | beginReplace ws' mode' message' sid holder live =>
    -- After a history check there is no session to replace.
    have hprobing := h.probing
    grind
  | _ => grind

/-- A rule signals for a handshake only in mode `new`. -/
theorem Core.signalNew_step (h : Core c) (hm : Move cfg c l c') {s : Signal}
    (hs : s ∈ c'.signals) {ws : Ws} {mode : Mode} {message : String}
    (ho : s.owner = .route ws mode message) : mode = .new := by
  have hkeep := h.signalNew
  cases hm with
  | signal owner sid stage holder =>
    have howner := h.ownerNew _ ws mode message holder
    rcases List.mem_append.mp hs with hs | hs
    · exact hkeep s hs ws mode message ho
    · obtain rfl := List.mem_singleton.mp hs
      exact howner (congrArg some ho)
  | _ => grind

/-- A rule attaches nobody to a session that is being terminated. -/
theorem Core.cleared_step (h : Core c) (hm : Move cfg c l c') {owner : Owner} {sid : SessionId}
    (hr : c'.role = some (.ending owner sid) ∨ c'.role = some (.polling owner sid)) :
    (c'.life sid).websocket = none := by
  have hkeep := h.cleared
  cases hm <;> grind

/-- A rule attaches nobody while an attach waits for the connection that it displaces. -/
theorem Core.displaced_step (h : Core c) (hm : Move cfg c l c') {ws : Ws} {sid : SessionId}
    (hr : c'.role = some (.attaching ws sid)) : (c'.life sid).websocket = none := by
  have hkeep := h.displaced
  have hblank : Session.blank.websocket = none := rfl
  cases hm <;> grind

/-- Every rule keeps what is known about the processes. -/
theorem Core.step (h : Core c) (hm : Move cfg c l c') : Core c' where
  aliveEntry _ := h.aliveEntry_step hm
  sole _ _ _ := h.sole_step hm
  terminating _ := h.terminating_step hm
  probing _ _ _ := h.probing_step hm
  ended _ _ := h.ended_step hm
  ownerNew _ _ _ _ := h.ownerNew_step hm
  signalNew _ hs _ _ _ := h.signalNew_step hm hs
  cleared _ _ := h.cleared_step hm
  displaced _ _ := h.displaced_step hm

/-- The connection side: where a connection occurs before, during and after its attach. -/
structure Sockets (c : Control) : Prop where
  /-- Only created sessions occur. -/
  entryExists : ∀ sid, c.entry = some sid → sid < c.count
  roleExists : ∀ r sid, c.role = some r → r.session = some sid → sid < c.count
  waiterExists : ∀ task ∈ c.waiters, ∀ sid, task.session = some sid → sid < c.count
  routeExists : ∀ ws sid, (c.routes ws).session = some sid → sid < c.count
  /-- A session that was not created has its initial values. -/
  blank : ∀ sid, c.count ≤ sid → c.life sid = Session.blank.toLifecycle
  /-- A handshake waits at most once for the lock. -/
  waiting : ∀ ws mode, .route ws mode ∈ c.waiters → c.routes ws = .waiting
  once : c.waiters.Pairwise fun a b => a.socket = none ∨ a.socket ≠ b.socket
  /-- The holder's connection is still inside its handshake. -/
  pending : ∀ r ws, c.role = some r → r.pending = some ws → c.routes ws = .inside
  serving : ∀ ws sid, c.role = some (.replaying ws sid) ∨ c.role = some (.aborting ws sid) →
    c.routes ws = .inside
  /-- A connection that was attached has passed the lock, and it is not attached again. -/
  joinedRoute : ∀ sid ws, (c.life sid).joined ws = true →
    c.routes ws ≠ .absent ∧ c.routes ws ≠ .waiting
  joinedPending : ∀ sid ws r, (c.life sid).joined ws = true → c.role = some r →
    r.pending ≠ some ws
  joinedOnce : ∀ sid sid' ws, (c.life sid).joined ws = true → (c.life sid').joined ws = true →
    sid = sid'
  websocketJoined : ∀ sid ws, (c.life sid).websocket = some ws → (c.life sid).joined ws = true
  takenJoined : ∀ ws, c.taken ws = true → ∃ sid, (c.life sid).joined ws = true

attribute [grind =] List.pairwise_append List.pairwise_cons

/-- A rule keeps the references to sessions that were created. -/
theorem Sockets.exists_step (h : Sockets c) (hm : Move cfg c l c') :
    (∀ sid, c'.entry = some sid → sid < c'.count) ∧
      (∀ r sid, c'.role = some r → r.session = some sid → sid < c'.count) ∧
      (∀ task ∈ c'.waiters, ∀ sid, task.session = some sid → sid < c'.count) ∧
      ∀ ws sid, (c'.routes ws).session = some sid → sid < c'.count := by
  have hentry := h.entryExists
  have hrole := h.roleExists
  have hwaiter := h.waiterExists
  have hroute := h.routeExists
  cases hm <;> grind

/-- A rule changes only sessions that were created. -/
theorem Sockets.blank_step (h : Sockets c) (hm : Move cfg c l c') {sid : SessionId}
    (hsid : c'.count ≤ sid) : c'.life sid = Session.blank.toLifecycle := by
  have hkeep := h.blank
  have hentry := h.entryExists
  have hattaching := fun ws sid hr => h.roleExists (.attaching ws sid) sid hr rfl
  have hreplaying := fun ws sid hr => h.roleExists (.replaying ws sid) sid hr rfl
  have hending := fun owner sid hr => h.roleExists (.ending owner sid) sid hr rfl
  have hpolling := fun owner sid hr => h.roleExists (.polling owner sid) sid hr rfl
  cases hm with
  | beginDetach ws sid' task loops current =>
    have hlt := h.routeExists ws sid' (by rw [loops]; rfl)
    grind
  | finishDetach ws sid' task detaches alive =>
    have hlt := h.routeExists ws sid' (by rw [detaches]; rfl)
    grind
  | _ => grind

/-- A rule lets only handshakes at the lock wait for it. -/
theorem Sockets.waiting_step (h : Sockets c) (hm : Move cfg c l c') {ws : Ws} {mode : Mode}
    (hw : .route ws mode ∈ c'.waiters) : c'.routes ws = .waiting := by
  have hkeep := h.waiting
  have hserving := h.serving
  cases hm with
  | grantRoute ws' mode' rest free first =>
    have honce := h.once
    grind
  | abortAttach ws' sid holder =>
    have hinside := h.pending _ ws' holder rfl
    grind
  | probeFailed ws' mode' holder =>
    have hinside := h.pending _ ws' holder rfl
    grind
  | _ => grind

/-- A task that shares no connection with the tasks at the lock may come to the lock. -/
theorem once_enqueue {task : Waiter}
    (honce : c.waiters.Pairwise fun a b => a.socket = none ∨ a.socket ≠ b.socket)
    (hnew : ∀ a ∈ c.waiters, a.socket = none ∨ a.socket ≠ task.socket) :
    (c.enqueue task).waiters.Pairwise fun a b => a.socket = none ∨ a.socket ≠ b.socket := by
  refine List.pairwise_append.mpr ⟨honce, List.pairwise_singleton _ _, ?_⟩
  intro a ha b hb
  rw [List.mem_singleton.mp hb]
  exact hnew a ha

/-- A rule lets each handshake wait once. -/
theorem Sockets.once_step (h : Sockets c) (hm : Move cfg c l c') :
    c'.waiters.Pairwise fun a b => a.socket = none ∨ a.socket ≠ b.socket := by
  have honce := h.once
  cases hm with
  | connect ws mode absent =>
    refine once_enqueue honce fun a ha => ?_
    have hwaiting := h.waiting ws
    cases a <;> grind
  | requestEnd request => exact once_enqueue honce fun a _ => em _
  | graceExpires sid k deadline hexists sleeping due => exact once_enqueue honce fun a _ => em _
  | idleExpires sid hexists due => exact once_enqueue honce fun a _ => em _
  | _ => grind

/-- A rule keeps the holder's connection inside its handshake. -/
theorem Sockets.pending_step (h : Sockets c) (hm : Move cfg c l c') {r : Role} {ws : Ws}
    (hr : c'.role = some r) (hp : r.pending = some ws) : c'.routes ws = .inside := by
  have hkeep := h.pending
  cases hm <;> grind [Role.pending]

/-- A rule keeps the connection that was installed inside its handshake. -/
theorem Sockets.serving_step (h : Sockets c) (hm : Move cfg c l c') {ws : Ws} {sid : SessionId}
    (hr : c'.role = some (.replaying ws sid) ∨ c'.role = some (.aborting ws sid)) :
    c'.routes ws = .inside := by
  have hkeep := h.serving
  cases hm with
  | install ws' sid' holder =>
    have hinside := h.pending _ ws' holder rfl
    grind
  | _ => grind

/-- A rule marks a connection when it is installed and keeps the mark. -/
theorem Sockets.websocketJoined_step (h : Sockets c) (hm : Move cfg c l c') {sid : SessionId}
    {ws : Ws} (hw : (c'.life sid).websocket = some ws) : (c'.life sid).joined ws = true := by
  have hkeep := h.websocketJoined
  have hblank : Session.blank.websocket = none := rfl
  cases hm <;> grind

/-- What a rule can do to the mark of a connection: keep it, or set it at the installation. -/
theorem Move.joined (hm : Move cfg c l c') {sid : SessionId} {ws : Ws}
    (hj : (c'.life sid).joined ws = true) :
    (c.life sid).joined ws = true ∨
      c.role = some (.attaching ws sid) ∧ c'.role = some (.replaying ws sid) ∧
        c'.routes ws = c.routes ws := by
  cases hm with
  | spawn ws' role holder pending free =>
    have hblank : (Session.blank.toLifecycle.spawn c.now cfg.idleSeconds).joined ws = false := rfl
    grind
  | _ => grind

/-- A rule lets no attached connection return to the start of its handshake. -/
theorem Sockets.joinedRoute_step (h : Sockets c) (hm : Move cfg c l c') {sid : SessionId}
    {ws : Ws} (hj : (c'.life sid).joined ws = true) :
    c'.routes ws ≠ .absent ∧ c'.routes ws ≠ .waiting := by
  rcases hm.joined hj with hold | ⟨hattaching, -, hroute⟩
  · have hkeep := h.joinedRoute sid ws hold
    cases hm <;> grind
  · have hinside := h.pending _ ws hattaching rfl
    simp [hroute, hinside]

/-- A rule does not make the holder install a connection again. -/
theorem Sockets.joinedPending_step (h : Sockets c) (hm : Move cfg c l c') {sid : SessionId}
    {ws : Ws} {r : Role} (hj : (c'.life sid).joined ws = true) (hr : c'.role = some r) :
    r.pending ≠ some ws := by
  rcases hm.joined hj with hold | ⟨-, hreplaying, -⟩
  · have hkeep := h.joinedPending sid ws
    have hroute := h.joinedRoute sid ws hold
    have hwaiting := h.waiting ws
    cases hm <;> grind [Role.pending]
  · rw [hreplaying] at hr
    obtain rfl := Option.some.inj hr
    simp [Role.pending]

/-- A rule installs a connection on one session only. -/
theorem Sockets.joinedOnce_step (h : Sockets c) (hm : Move cfg c l c') {sid sid' : SessionId}
    {ws : Ws} (hj : (c'.life sid).joined ws = true) (hj' : (c'.life sid').joined ws = true) :
    sid = sid' := by
  rcases hm.joined hj with hold | ⟨hattaching, hreplaying, -⟩ <;>
    rcases hm.joined hj' with hold' | ⟨hattaching', hreplaying', -⟩
  · exact h.joinedOnce sid sid' ws hold hold'
  · exact absurd rfl (h.joinedPending sid ws _ hold hattaching')
  · exact absurd rfl (h.joinedPending sid' ws _ hold' hattaching)
  · simp_all

/-- A rule takes a session only from a connection that was attached. -/
theorem Sockets.takenJoined_step (h : Sockets c) (hm : Move cfg c l c') {ws : Ws}
    (ht : c'.taken ws = true) : ∃ sid, (c'.life sid).joined ws = true := by
  have hold : ∃ sid, (c.life sid).joined ws = true := by
    have hkeep := h.takenJoined
    have hsocket := h.websocketJoined
    cases hm <;> grind
  obtain ⟨sid, hjoined⟩ := hold
  have hblank : c.count ≤ sid → (c.life sid).joined ws = false := fun hle => by
    rw [h.blank sid hle]; rfl
  refine ⟨sid, ?_⟩
  cases hm <;> grind

/-- Every rule keeps what is known about the connections of the sessions. -/
theorem Sockets.step (h : Sockets c) (hm : Move cfg c l c') : Sockets c' where
  entryExists := (h.exists_step hm).1
  roleExists := (h.exists_step hm).2.1
  waiterExists := (h.exists_step hm).2.2.1
  routeExists := (h.exists_step hm).2.2.2
  blank _ := h.blank_step hm
  waiting _ _ := h.waiting_step hm
  once := h.once_step hm
  pending _ _ := h.pending_step hm
  serving _ _ := h.serving_step hm
  joinedRoute _ _ := h.joinedRoute_step hm
  joinedPending _ _ _ := h.joinedPending_step hm
  joinedOnce _ _ _ := h.joinedOnce_step hm
  websocketJoined _ _ := h.websocketJoined_step hm
  takenJoined _ := h.takenJoined_step hm

end WTerm.Control
