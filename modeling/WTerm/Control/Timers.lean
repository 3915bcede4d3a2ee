import WTerm.Control.Clients

/-!
# The grace and idle countdowns

`detach` arms its countdown after an await and outside the transition lock, and both kinds of
countdown wait for the lock when their time is over. What a countdown that is sleeping or
waiting says about the session depends on what happens in between, which the conditions of
this file name.
-/

namespace WTerm.Control

variable {cfg : Settings} {c c' : Control} {l : Label}

/-- No attach starts while a detach of the session awaits its writer, or while a countdown of
the session that is over waits for the lock. -/
def AttachAfterDetach (c : Control) : Label → Prop
  | .attachStart sid =>
    (∀ k, .grace sid k ∉ c.waiters) ∧ ∀ ws task, c.routes ws ≠ .detaching sid task
  | _ => True

/-- No operation is attaching a connection to the session. -/
def NotAttaching (c : Control) (sid : SessionId) : Prop :=
  ∀ ws, c.role ≠ some (.attaching ws sid)

/-- The grace countdowns measure the time since the last client left. -/
structure Graces (cfg : Settings) (c : Control) : Prop where
  leftAt : ∀ sid, (c.life sid).leftAt ≤ c.now
  /-- A sleeping countdown is the one of the reference, and its session has no client. -/
  sleeping : ∀ sid k deadline, (c.life sid).countdowns k = .sleeping deadline →
    (c.life sid).graceTask = some k ∧ (c.life sid).websocket = none ∧ c.NotAttaching sid ∧
      (c.life sid).leftAt + cfg.grace ≤ deadline
  /-- A countdown that waits for the lock is over, and its session has no client. -/
  firing : ∀ sid k, .grace sid k ∈ c.waiters →
    (c.life sid).websocket = none ∧ c.NotAttaching sid ∧
      (c.life sid).leftAt + cfg.grace ≤ c.now
  /-- A detach that awaits its writer is the only one, and no countdown sleeps meanwhile. -/
  detaching : ∀ ws sid task, c.routes ws = .detaching sid task →
    (c.life sid).websocket = none ∧ c.NotAttaching sid
  unarmed : ∀ ws sid task k deadline, c.routes ws = .detaching sid task →
    (c.life sid).countdowns k ≠ .sleeping deadline
  alone : ∀ ws ws' sid task task', c.routes ws = .detaching sid task →
    c.routes ws' = .detaching sid task' → ws = ws'

/-- A rule lets the last client leave in the past only. -/
theorem Graces.leftAt_step (h : Graces cfg c) (hm : Move cfg c l c') (sid : SessionId) :
    (c'.life sid).leftAt ≤ c'.now := by
  have hkeep := h.leftAt
  cases hm <;> grind

/-- After `cancel_grace` no grace countdown of the session sleeps. -/
theorem Graces.cancelled (h : Graces cfg c) (sid : SessionId) (now : Time) (k : ℕ)
    (deadline : Time) :
    ((c.life sid).clearWebsocket now).cancelGrace.countdowns k ≠ .sleeping deadline := by
  have hsleeping := h.sleeping sid k deadline
  rw [Lifecycle.cancelGrace_countdowns]
  split
  · exact Countdown.cancel_ne_sleeping _ _
  · intro hk
    exact absurd (hsleeping hk).1 (by assumption)

/-- A rule keeps every sleeping countdown behind the last client. -/
theorem Graces.sleeping_step (h : Graces cfg c) (hm : Move cfg c l c')
    (hallow : c.AttachAfterDetach l) {sid : SessionId} {k : ℕ} {deadline : Time}
    (hk : (c'.life sid).countdowns k = .sleeping deadline) :
    (c'.life sid).graceTask = some k ∧ (c'.life sid).websocket = none ∧ c'.NotAttaching sid ∧
      (c'.life sid).leftAt + cfg.grace ≤ deadline := by
  have hkeep := h.sleeping
  have hleft := h.leftAt
  have hdetaching := h.detaching
  have hunarmed := h.unarmed
  have hcancelled := h.cancelled sid c.now k deadline
  cases hm with
  | spawn ws role holder pending free =>
    by_cases hsid : sid = c.count
    · subst hsid
      simp [Lifecycle.spawn, Session.blank] at hk
    · grind [NotAttaching]
  | _ => grind [NotAttaching]

/-- A rule keeps every countdown that waits for the lock behind the last client. -/
theorem Graces.firing_step (h : Graces cfg c) (hs : Sockets c) (hm : Move cfg c l c')
    (hallow : c.AttachAfterDetach l) {sid : SessionId} {k : ℕ} (hk : .grace sid k ∈ c'.waiters) :
    (c'.life sid).websocket = none ∧ c'.NotAttaching sid ∧
      (c'.life sid).leftAt + cfg.grace ≤ c'.now := by
  have hkeep := h.firing
  have hsleeping := h.sleeping
  cases hm with
  | spawn ws role holder pending free =>
    have hlt := hs.waiterExists _ hk sid rfl
    grind [NotAttaching]
  | _ => grind [NotAttaching, AttachAfterDetach]

/-- A rule attaches nobody while a detach of the session awaits its writer. -/
theorem Graces.detaching_step (h : Graces cfg c) (hcore : Core c) (hs : Sockets c)
    (hm : Move cfg c l c') (hallow : c.AttachAfterDetach l) {ws : Ws} {sid : SessionId}
    {task : Option Ws}
    (hr : c'.routes ws = .detaching sid task) :
    (c'.life sid).websocket = none ∧ c'.NotAttaching sid := by
  have hkeep := h.detaching
  have hdisplaced := hcore.displaced
  cases hm with
  | spawn ws' role holder pending free =>
    have hlt := hs.routeExists ws sid (by rw [show c.routes ws = _ from hr]; rfl)
    grind [NotAttaching]
  | _ => grind [NotAttaching, AttachAfterDetach]

/-- A rule lets no countdown sleep while a detach of the session awaits its writer. -/
theorem Graces.unarmed_step (h : Graces cfg c) (hs : Sockets c) (hm : Move cfg c l c')
    {ws : Ws} {sid : SessionId} {task : Option Ws} {k : ℕ} {deadline : Time}
    (hr : c'.routes ws = .detaching sid task) :
    (c'.life sid).countdowns k ≠ .sleeping deadline := by
  intro hk
  have hkeep := h.unarmed ws sid task k deadline
  have hsleeping := h.sleeping sid k deadline
  have halone := h.alone
  have hcancelled := h.cancelled sid c.now k deadline
  cases hm with
  | spawn ws' role holder pending free =>
    have hlt := hs.routeExists ws sid (by rw [show c.routes ws = _ from hr]; rfl)
    grind
  | _ => grind

/-- A rule lets only one detach of a session await its writer. -/
theorem Graces.alone_step (h : Graces cfg c) (hm : Move cfg c l c') {ws ws' : Ws}
    {sid : SessionId} {task task' : Option Ws} (hr : c'.routes ws = .detaching sid task)
    (hr' : c'.routes ws' = .detaching sid task') : ws = ws' := by
  have hkeep := h.alone
  have hdetaching := h.detaching
  cases hm <;> grind

/-- Every allowed rule keeps the grace countdowns. -/
theorem Graces.step (h : Graces cfg c) (hcore : Core c) (hs : Sockets c)
    (hm : Move cfg c l c') (hallow : c.AttachAfterDetach l) : Graces cfg c' where
  leftAt := h.leftAt_step hm
  sleeping _ _ _ := h.sleeping_step hm hallow
  firing _ _ := h.firing_step hs hm hallow
  detaching _ _ _ := h.detaching_step hcore hs hm hallow
  unarmed _ _ _ _ _ := h.unarmed_step hs hm
  alone _ _ _ _ _ := h.alone_step hm

/-- Since a moment with a client, the last client left at that moment or later. -/
def LeftSince (since : Time) (sid : SessionId) (c : Control) : Prop :=
  since ≤ c.now ∧ ((c.life sid).websocket ≠ none ∨ since ≤ (c.life sid).leftAt)

/-- A rule keeps what is known since a moment with a client. -/
theorem LeftSince.step {since : Time} {sid : SessionId} (h : LeftSince since sid c)
    (hm : Move cfg c l c') : LeftSince since sid c' := by
  obtain ⟨hnow, hleft⟩ := h
  cases hm with
  | spawn ws role holder pending free =>
    by_cases hsid : sid = c.count
    · exact ⟨hnow, .inr (by simp [hsid, hnow])⟩
    · grind [LeftSince]
  | _ => grind [LeftSince]

/-- The session that the lock's holder works on. -/
def work (c : Control) : Option SessionId := c.role.bind Role.session

/-- The cancellation of an attach takes effect only if its session is over. -/
def AttachNotAborted (c : Control) (l : Label) : Prop :=
  l = .abort → ∀ sid, c.work = some sid → (c.life sid).alive = false

/-- An operation on the session is in progress: the lock's holder works on it, a connection
detaches from it, or a grace countdown that is over asks for the lock. -/
def Busy (c : Control) (sid : SessionId) : Prop :=
  c.work = some sid ∨
    (∃ k, c.role = some (.entered (.grace sid k)) ∨ .grace sid k ∈ c.waiters) ∨
      ∃ ws task, c.routes ws = .detaching sid task

/-- A countdown of the session sleeps. -/
def Armed (c : Control) (sid : SessionId) : Prop :=
  ∃ k deadline, (c.life sid).countdowns k = .sleeping deadline

/-- A live session without a client has a grace countdown, unless it is being worked on. -/
structure Guarded (c : Control) : Prop where
  guarded : ∀ sid, (c.life sid).alive = true → (c.life sid).websocket = none →
    c.Busy sid ∨ c.Armed sid
  aborting : ∀ ws sid, c.role = some (.aborting ws sid) → (c.life sid).alive = false

/-- What ends a detach that awaits its writer: it arms a countdown, unless the session died. -/
theorem Move.detaching (hm : Move cfg c l c') (hs : Sockets c) {ws : Ws} {sid : SessionId}
    {task : Option Ws} (hr : c.routes ws = .detaching sid task) :
    c'.routes ws = .detaching sid task ∨ (c'.life sid).alive = false ∨
      (c'.life sid).countdowns (c.life sid).nextCountdown = .sleeping (c.now + cfg.grace) := by
  -- A handshake changes only its own route, which is not in a detach.
  have hwaiting := hs.waiting ws
  have hattaching := fun sid hr => hs.pending (.attaching ws sid) ws hr rfl
  have hprobing := fun mode hr => hs.pending (.probing ws mode) ws hr rfl
  have hserving := hs.serving ws
  cases hm <;> grind

/-- What ends the wait of a countdown for the lock: it gets the lock. -/
theorem Move.waitingGrace (hm : Move cfg c l c') {sid : SessionId} {k : ℕ}
    (hw : .grace sid k ∈ c.waiters) :
    .grace sid k ∈ c'.waiters ∨ c'.role = some (.entered (.grace sid k)) := by
  cases hm <;> grind

/-- What a countdown does with the lock: it ends its session, unless somebody is there. -/
theorem Move.enteredGrace (hm : Move cfg c l c') (hcore : Core c) {sid : SessionId} {k : ℕ}
    (hr : c.role = some (.entered (.grace sid k))) :
    c'.role = some (.entered (.grace sid k)) ∨ c'.work = some sid ∨
      (c'.life sid).alive = false ∨ (c'.life sid).websocket ≠ none := by
  have hentry := hcore.aliveEntry sid
  cases hm <;> grind [work]

/-- What ends the work on a session: a client, its death, or an aborted attach. -/
theorem Move.working (hm : Move cfg c l c') (hcore : Core c) (hclients : Clients c)
    (hallow : c.AttachNotAborted l)
    (haborting : ∀ ws sid, c.role = some (.aborting ws sid) → (c.life sid).alive = false)
    {sid : SessionId} (hwork : c.work = some sid) :
    c'.work = some sid ∨ (c'.life sid).alive = false ∨ (c'.life sid).websocket ≠ none := by
  have hreplaying := fun ws => hclients.replaying ws sid
  have hended := fun owner => hcore.ended owner sid
  cases hm <;> grind [work, AttachNotAborted]

/-- What ends the sleep of a countdown: its time, or an operation that cancels it. -/
theorem Move.sleeping (hm : Move cfg c l c') (hs : Sockets c) {sid : SessionId} {k : ℕ}
    {deadline : Time} (hk : (c.life sid).countdowns k = .sleeping deadline) :
    (c'.life sid).countdowns k = .sleeping deadline ∨
      (c'.life sid).countdowns k = .sleeping (c.now + cfg.grace) ∨
      .grace sid k ∈ c'.waiters ∨ c'.work = some sid := by
  have hlt : sid < c.count := by
    by_contra hge
    rw [hs.blank sid (Nat.not_lt.mp hge)] at hk
    simp [Session.blank] at hk
  cases hm <;> grind [work]

/-- How a live session comes to have no client: an operation takes it, or its client leaves. -/
theorem Move.left (hm : Move cfg c l c') (hallow : c.AttachNotAborted l)
    {sid : SessionId} (halive : (c'.life sid).alive = true)
    (hleft : (c'.life sid).websocket = none) :
    (c.life sid).alive = true ∧ (c.life sid).websocket = none ∨ c'.Busy sid := by
  cases hm with
  | beginDetach ws sid' task loops current =>
    by_cases hsid : sid = sid'
    · subst hsid
      exact .inr (.inr (.inr ⟨ws, task, by simp⟩))
    · grind
  | _ => grind [Busy, work, AttachNotAborted]

/-- A rule keeps the guard of every live session if no attach is aborted. -/
theorem Guarded.guarded_step (h : Guarded c) (hcore : Core c) (hs : Sockets c)
    (hclients : Clients c) (hm : Move cfg c l c') (hallow : c.AttachNotAborted l)
    {sid : SessionId} (halive : (c'.life sid).alive = true)
    (hleft : (c'.life sid).websocket = none) : c'.Busy sid ∨ c'.Armed sid := by
  rcases hm.left hallow halive hleft with ⟨halive₀, hleft₀⟩ | hbusy
  swap
  · exact .inl hbusy
  rcases h.guarded sid halive₀ hleft₀ with (hwork | ⟨k, hentered | hwaiting⟩ | ⟨ws, task, hroute⟩) |
    ⟨k, deadline, hsleeping⟩
  · have := hm.working hcore hclients hallow h.aborting hwork
    grind [Busy]
  · have := hm.enteredGrace hcore hentered
    grind [Busy]
  · have := hm.waitingGrace hwaiting
    grind [Busy]
  · have := hm.detaching hs hroute
    grind [Busy, Armed]
  · have := hm.sleeping hs hsleeping
    grind [Busy, Armed]

/-- Every rule keeps the guard if no attach is aborted. -/
theorem Guarded.step (h : Guarded c) (hcore : Core c) (hs : Sockets c) (hclients : Clients c)
    (hm : Move cfg c l c') (hallow : c.AttachNotAborted l) : Guarded c' where
  guarded _ := h.guarded_step hcore hs hclients hm hallow
  aborting ws sid hr := by
    have hkeep := h.aborting ws sid
    cases hm <;> grind [AttachNotAborted, work]

/-- The last activity of a session is not set while its idle countdown waits for the lock. -/
def QuietWhileExpiring (c : Control) : Label → Prop
  | .touch sid | .attachStart sid => .idle sid ∉ c.waiters
  | _ => True

/-- A session whose idle countdown waits for the lock was idle for the whole time. -/
structure IdleDue (cfg : Settings) (c : Control) : Prop where
  due : ∀ sid, .idle sid ∈ c.waiters →
    (c.life sid).lastActivity + cfg.idle ≤ c.now

/-- Every rule keeps the idle countdowns if the waiting ones see no activity. -/
theorem IdleDue.step (h : IdleDue cfg c) (hs : Sockets c) (hm : Move cfg c l c')
    (hallow : c.QuietWhileExpiring l) : IdleDue cfg c' where
  due sid hw := by
    have hkeep := h.due sid
    cases hm with
    | spawn ws role holder pending free =>
      have hlt := hs.waiterExists _ hw sid rfl
      grind
    | _ => grind [QuietWhileExpiring]

/-- A handshake is on its way to the lock or inside it. -/
def Handshaking (c : Control) : Prop :=
  (∃ ws mode, .route ws mode ∈ c.waiters) ∨ ∃ r ws, c.role = some r ∧ r.pending = some ws

/-- No handshake begins. -/
def NoConnect (_ : Control) (l : Label) : Prop := l ≠ .connect

/-- Without a handshake nothing is spawned, and without a new one it stays so. -/
theorem Move.noSpawn (hm : Move cfg c l c') (hnone : ¬c.Handshaking) (hallow : c.NoConnect l) :
    c'.count = c.count ∧ ¬c'.Handshaking := by
  have hwaiter : ∀ ws mode, .route ws mode ∉ c.waiters := fun ws mode hw =>
    hnone (.inl ⟨ws, mode, hw⟩)
  have hrole : ∀ r ws, c.role = some r → r.pending ≠ some ws := fun r ws hr hp =>
    hnone (.inr ⟨r, ws, hr, hp⟩)
  cases hm <;> grind [Handshaking, NoConnect, Role.pending]

end WTerm.Control
