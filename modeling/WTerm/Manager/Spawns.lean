import WTerm.Manager.Invariants

/-!
# Which handshake starts a process

A step of the event loop runs the code of one task, and only a handshake starts a process. One
in mode `attach` starts it, if at all, in the step in which it gets the transition lock: then no
session of the key is live.
-/

namespace WTerm

open Transition Control

/-- The connection that an event begins. -/
def Event.connects : Event → Option Ws
  | .connect ws _ _ => some ws
  | _ => none

/-- The connection whose handshake gets the lock in an event, or goes on in it. -/
def Event.handshake (cfg : Settings) (w : World) : Event → Option Ws
  | .resume | .timeOut | .answer _ | .cancelAttach =>
    (w.holder.map Critical.role).bind Role.pending
  | e => (e.grants cfg w).bind Waiter.socket

/-- A handshake that gets the lock in an event is the one that the event runs. -/
theorem Event.handshake_of_grants {cfg : Settings} {w : World} {e : Event} {ws : Ws} {mode : Mode}
    (hgrants : e.grants cfg w = some (.route ws mode)) : e.handshake cfg w = some ws := by
  have hsocket : (e.grants cfg w).bind Waiter.socket = some ws := by
    rw [hgrants]
    rfl
  cases e with
  | resume | timeOut | answer | cancelAttach => cases hgrants
  | _ => exact hsocket

namespace World

variable {cfg : Settings} {w : World} {ws : Ws} {sid : SessionId} {message : String}

/-! ## The number of sessions -/

theorem callClose_count (ws : Ws) (code : ℕ) : (w.callClose ws code).count = w.count := by
  unfold callClose
  split <;> rfl

theorem purge_count : w.purge.count = w.count := by
  unfold purge
  split
  · rfl
  · split <;> rfl

theorem finishDetach_count : (w.finishDetach cfg ws sid).count = w.count := by
  unfold finishDetach
  split <;> rfl

theorem detach_count : (w.detach cfg ws sid).count = w.count := by
  unfold detach
  split
  · dsimp only
    split
    · rfl
    · exact finishDetach_count
  · rfl

theorem receiveNext_count : (w.receiveNext cfg ws sid).count = w.count := by
  unfold receiveNext
  split
  · exact detach_count
  · rfl

theorem attachReturned_count : (w.attachReturned cfg ws sid message).count = w.count :=
  receiveNext_count

theorem installSocket_count : (w.installSocket cfg ws sid message).count = w.count := by
  unfold installSocket
  dsimp only
  split
  · exact attachReturned_count
  · rfl

theorem closeOld_count (old : Ws) : (w.closeOld ws sid message old).count = w.count :=
  callClose_count old _

theorem displaceOld_count (old : Ws) : (w.displaceOld ws sid message old).count = w.count := by
  unfold displaceOld
  dsimp only
  split
  · rfl
  · exact closeOld_count old

/-- `attach`, up to its first wait, creates no session. -/
theorem attach_count : (w.attach cfg ws sid message).count = w.count := by
  unfold attach
  dsimp only
  split
  · exact installSocket_count
  · exact displaceOld_count _

/-- A new session is one more than there were before. -/
theorem startFresh_count : (w.startFresh cfg ws message).count = w.count + 1 := attach_count

/-- A handshake in mode `attach` that has got the lock creates a session if none is live. -/
theorem enterRoute_attach_count (found : Bool) :
    (w.enterRoute cfg ws .attach found).count =
      if w.live.isSome then w.count else w.count + 1 := by
  have hstart : w.purge.startRoute cfg ws .attach found =
      w.purge.startLocked cfg ws .attach (startMessage cfg .attach false) := if_pos (by simp)
  unfold enterRoute
  dsimp only
  rw [live_purge]
  cases hlive : w.live with
  | none =>
    have hlive' : w.purge.purge.live = none := by rw [live_purge, live_purge, hlive]
    simp only [hstart, startLocked, hlive', startFresh_count, purge_count]
    rfl
  | some sid =>
    have hmode : Mode.attach ≠ .new := by decide
    simp only [hmode, if_false, attach_count, purge_count]
    rfl

end World

/-! ## Handshakes in mode `attach` -/

namespace Control

variable {cfg : Settings} {c c' : Control} {l : Label} {ws : Ws}

/-- Every handshake of a connection is one in mode `attach`. -/
structure AttachOnly (ws : Ws) (c : Control) : Prop where
  waiting : ∀ mode, .route ws mode ∈ c.waiters → mode = .attach
  entered : ∀ mode, c.role = some (.entered (.route ws mode)) → mode = .attach
  probing : ∀ mode, c.role ≠ some (.probing ws mode)
  owner : ∀ role owner, c.role = some role → role.owner = some owner → owner.socket ≠ some ws

/-- A rule other than the beginning of a handshake keeps the mode. -/
theorem AttachOnly.step (h : AttachOnly ws c) (hm : Move cfg c l c') (hallow : c.NoConnect l) :
    AttachOnly ws c' := by
  obtain ⟨hwaiting, hentered, hprobing, howner⟩ := h
  constructor
  · intro mode hmem
    cases hm <;> grind [NoConnect]
  · intro mode hrole
    cases hm <;> grind [NoConnect]
  · intro mode hrole
    cases hm <;> grind [NoConnect]
  · intro role owner hrole hrole'
    cases hm <;> grind [NoConnect]

/-- At first no handshake of the connection is on its way. -/
theorem AttachOnly.initial : AttachOnly ws ({} : World).control := by
  constructor <;> simp [World.control]

end Control

/-! ## The steps of such a handshake -/

section AttachOnly

variable {cfg : Settings} {w v : World} {ws : Ws} {e : Event}

/-- Fine steps in which no handshake begins keep the mode. -/
theorem Control.AttachOnly.path {allow : World → Label → Prop} (h : AttachOnly ws w.control)
    (hpath : World.Path cfg allow w v) (hallow : ∀ u l, allow u l → l ≠ .connect) :
    AttachOnly ws v.control := by
  refine @Moves.invariant _ _ _ _ (fun u => AttachOnly ws u.control) _ _ hpath h ?_
  intro u l v hu hstep hl
  rcases hstep.move with hmove | hsame
  · exact hu.step hmove (hallow u l hl)
  · rwa [hsame]

/-- A handshake that joins the queue is one in mode `attach`, or one of another connection. -/
theorem Control.AttachOnly.enqueue (h : AttachOnly ws w.control) {ws' : Ws} {mode : Mode}
    (hmode : ws' = ws → mode = .attach) :
    AttachOnly ws ((w.setRoute ws' .waiting).enqueue (.route ws' mode)).control := by
  constructor
  · intro mode' hmem
    rcases List.mem_append.mp hmem with hold | hnew
    · exact h.waiting mode' hold
    · obtain ⟨rfl, rfl⟩ := Waiter.route.inj (List.mem_singleton.mp hnew)
      exact hmode rfl
  · exact h.entered
  · exact h.probing
  · exact h.owner

/-- An event keeps the mode of the handshakes of a connection, if it begins none in another
mode. -/
theorem Control.AttachOnly.apply (h : AttachOnly ws w.control) (hs : Sound w) (hen : e.Enabled w)
    (hmode : ∀ mode found, e = .connect ws mode found → mode = .attach) :
    AttachOnly ws (e.apply cfg w).control := by
  by_cases hconnect : ∃ ws' mode found, e = .connect ws' mode found
  · obtain ⟨ws', mode, found, rfl⟩ := hconnect
    have hjoined : AttachOnly ws ((w.setRoute ws' .waiting).enqueue (.route ws' mode)).control :=
      h.enqueue fun hws => hmode mode found (by rw [hws])
    have hother : World.AllowsOther fun _ l => l ≠ .connect := fun _ => by simp
    have hattach : ∀ u, World.AllowsAttach (fun _ l => l ≠ .connect) u := by
      intro u ws mode rest sid _ _ _
      simp
    exact hjoined.path (World.path_request hother found .refl fun _ _ => hattach _)
      fun _ _ hl => hl
  · refine h.path (hs.path hen) fun u l horigin => ?_
    rintro rfl
    exact hconnect horigin

/-- The step of a handshake in mode `attach` that has the lock creates no session. -/
theorem World.resume_attach_count (cfg : Settings) (h : AttachOnly ws w.control) {c : Critical}
    (hholder : w.holder = some c) (hpending : c.role.pending = some ws) :
    (w.resume cfg c).count = w.count ∧ (w.cancelAttach c).count = w.count ∧
      w.timeOut cfg c = w ∧ c.asking = none := by
  have hrole : w.control.role = some c.role := by simp [hholder]
  cases c with
  | attaching ws' sid message pc =>
    cases pc with
    | begin => exact ⟨rfl, rfl, rfl, rfl⟩
    | stopping old task => exact ⟨closeOld_count old, closeOld_count old, rfl, rfl⟩
    | closing old => exact ⟨installSocket_count, rfl, rfl, rfl⟩
  | probing ws' mode pc =>
    obtain rfl : ws' = ws := Option.some.inj hpending
    exact absurd hrole (h.probing mode)
  | ending owner sid pc => exact absurd hpending (h.owner _ owner hrole rfl)
  | polling owner sid stage left => exact absurd hpending (h.owner _ owner hrole rfl)
  | ended owner sid => exact ⟨rfl, rfl, rfl, rfl⟩
  | entered task => exact ⟨rfl, rfl, rfl, rfl⟩
  | replaying ws' sid message f => cases hpending
  | aborting ws' sid task => cases hpending

/-- The step in which a handshake in mode `attach` gets the lock. -/
theorem World.acquire_attach_count {rest : List Waiter} (found : Bool)
    (hwaiters : w.waiters = .route ws .attach :: rest) :
    (w.acquire cfg found).count = if w.live.isSome then w.count else w.count + 1 := by
  have hacquire : w.acquire cfg found =
      (w.grant (.route ws .attach) rest).enterRoute cfg ws .attach found := by
    unfold acquire
    rw [hwaiters]
    rfl
  rw [hacquire, enterRoute_attach_count]
  rfl

/-- A step of a handshake in mode `attach` creates a session if and only if the handshake gets
the lock in it and no session is live. -/
theorem Event.attach_count (h : AttachOnly ws w.control) (hws : e.handshake cfg w = some ws)
    (hmode : ∀ mode found, e = .connect ws mode found → mode = .attach) :
    (e.apply cfg w).count =
      if e.grants cfg w = some (.route ws .attach) ∧ w.live.isSome = false then w.count + 1
      else w.count := by
  have hholder (hrun : ((w.holder.map Critical.role).bind Role.pending) = some ws) :
      ∃ c, w.holder = some c ∧ c.role.pending = some ws := by
    obtain ⟨role, hrole, hpending⟩ := Option.bind_eq_some_iff.mp hrun
    obtain ⟨c, hc, rfl⟩ := Option.map_eq_some_iff.mp hrole
    exact ⟨c, hc, hpending⟩
  cases e with
  | connect ws' mode found =>
    by_cases hfree : w.Free
    · have hsame : ws' = ws := by simpa [handshake, grants, hfree, Waiter.socket] using hws
      subst hsame
      obtain rfl := hmode mode found rfl
      have hrequest : ((w.setRoute ws' .waiting).request cfg (.route ws' .attach) found) =
          ((w.setRoute ws' .waiting).enqueue (.route ws' .attach)).acquire cfg found :=
        if_pos hfree
      have hwaiters : ((w.setRoute ws' .waiting).enqueue (.route ws' .attach)).waiters =
          [.route ws' .attach] := by
        simp [hfree.2]
      have hlive : ((w.setRoute ws' .waiting).enqueue (.route ws' .attach)).live = w.live := rfl
      simp only [apply, hrequest, World.acquire_attach_count found hwaiters, hlive, grants, hfree,
        if_true, true_and]
      cases w.live <;> rfl
    · simp [handshake, grants, hfree] at hws
  | acquire found =>
    cases hwaiters : w.waiters with
    | nil => simp [handshake, grants, hwaiters] at hws
    | cons task rest =>
      have hsocket : task.socket = some ws := by simpa [handshake, grants, hwaiters] using hws
      cases task with
      | route ws' mode =>
        obtain rfl : ws' = ws := Option.some.inj hsocket
        obtain rfl := h.waiting mode (by simp [hwaiters])
        simp only [apply, World.acquire_attach_count found hwaiters, grants, hwaiters,
          List.head?_cons, true_and]
        cases w.live <;> rfl
      | endRequest _ | grace _ _ | idle _ => cases hsocket
  | resume =>
    obtain ⟨c, hc, hpending⟩ := hholder hws
    simpa [apply, hc, grants] using (World.resume_attach_count cfg h hc hpending).1
  | timeOut =>
    obtain ⟨c, hc, hpending⟩ := hholder hws
    simp [apply, hc, grants, (World.resume_attach_count cfg h hc hpending).2.2.1]
  | answer history =>
    obtain ⟨c, hc, hpending⟩ := hholder hws
    simp [apply, hc, grants, (World.resume_attach_count cfg h hc hpending).2.2.2]
  | cancelAttach =>
    obtain ⟨c, hc, hpending⟩ := hholder hws
    simpa [apply, hc, grants] using (World.resume_attach_count cfg h hc hpending).2.1
  | requestEnd _ | graceExpires _ _ | idleWakes _ =>
    simp only [handshake, grants] at hws
    split at hws <;> cases hws
  | _ => cases hws

end AttachOnly

end WTerm
