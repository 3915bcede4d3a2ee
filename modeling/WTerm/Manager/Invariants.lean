import WTerm.Manager.Refinement

/-!
# Invariants of the reachable states

The control machine's invariants hold in every state that a session key reaches. Those that
depend on a condition on the rules hold in every run whose events take only rules that
satisfy it.
-/

namespace WTerm

open Transition Control

variable {cfg : Settings} {w v : World} {e : Event}

/-- The invariants that no condition is needed for. -/
structure Sound (w : World) : Prop where
  core : w.control.Core
  sockets : w.control.Sockets
  clients : w.control.Clients

/-- The state at the start of the server is sound. -/
theorem Sound.initial : Sound {} where
  core := by
    constructor <;> simp [World.control, Session.blank]
  sockets := by
    constructor <;> simp [World.control, Session.blank, Route.session]
  clients := by
    constructor <;> simp [World.control]

/-- A fine step keeps a state sound. -/
theorem Sound.step {l : Label} (h : Sound w) (hstep : World.Step cfg w l v) : Sound v := by
  rcases hstep.move with hm | hsame
  · exact ⟨h.core.step hm, h.sockets.step hm, h.clients.step h.core h.sockets hm⟩
  · constructor
    · rw [hsame]
      exact h.core
    · rw [hsame]
      exact h.sockets
    · rw [hsame]
      exact h.clients

/-- In a sound state the session of a receive loop was created. -/
theorem Sound.loopExists (h : Sound w) (ws : Ws) (sid : SessionId)
    (hroute : w.routes ws = .looping sid) : sid < w.count :=
  h.sockets.routeExists ws sid (by rw [World.control_routes, hroute]; rfl)

/-- An event in a sound state is a path of fine steps. -/
theorem Sound.path (h : Sound w) (hen : e.Enabled w) :
    World.Path cfg (e.Origin cfg w) w (e.apply cfg w) :=
  e.path hen h.loopExists

/-- An event that can happen keeps a state sound. -/
theorem Sound.apply (h : Sound w) (hen : e.Enabled w) : Sound (e.apply cfg w) :=
  (h.path hen).invariant h fun _ _ _ hs hstep _ => hs.step hstep

/-- Every state of a run from a sound state is sound. -/
theorem Sound.run {cond : World → Event → Prop} (h : Sound w)
    (hrun : Run (keySystem cfg) cond w v) : Sound v :=
  hrun.invariant h fun _ _ hs hen _ => hs.apply hen

/-- Every state that is reached under a condition on the steps is sound. -/
theorem ReachableIf.sound {cond : World → Event → Prop} (h : ReachableIf cfg cond w) : Sound w :=
  Sound.initial.run h

/-- Every state that any run reaches is sound. -/
theorem Reachable.sound (h : Reachable cfg w) : Sound w := ReachableIf.sound h

/-- A property that allowed fine steps keep in sound states. -/
def Keeps (cfg : Settings) (allow : World → Label → Prop) (inv : World → Prop) : Prop :=
  ∀ u l v, Sound u → inv u → World.Step cfg u l v → allow u l → inv v

/-- A condition on events lets them take only fine steps that a condition on steps allows. -/
def Restricts (cfg : Settings) (cond : World → Event → Prop)
    (allow : World → Label → Prop) : Prop :=
  ∀ w e u l, Sound w → cond w e → Sound u → e.Origin cfg w u l → allow u l

/-- A property of the control state that allowed rules keep is kept by the fine steps. -/
theorem keeps_control (allow : Control → Label → Prop) (inv : Control → Prop)
    (hrules : ∀ c l c', c.Core → c.Sockets → c.Clients → inv c → Move cfg c l c' → allow c l →
      inv c') : Keeps cfg (fun w l => allow w.control l) fun w => inv w.control := by
  intro u l v hu hinv hstep hallow
  rcases hstep.move with hm | hsame
  · exact hrules _ l _ hu.core hu.sockets hu.clients hinv hm hallow
  · rwa [hsame]

/-- A sound state with a further property. -/
def SoundWith (inv : World → Prop) (w : World) : Prop := Sound w ∧ inv w

/-- Allowed fine steps keep the property in the events that satisfy the condition. -/
theorem Keeps.apply {allow : World → Label → Prop} {inv : World → Prop}
    {cond : World → Event → Prop} (hkeeps : Keeps cfg allow inv)
    (hrestricts : Restricts cfg cond allow) (h : SoundWith inv w)
    (hen : e.Enabled w) (hcond : cond w e) : SoundWith inv (e.apply cfg w) := by
  refine (h.1.path hen).invariant h ?_
  rintro u l v ⟨hu, hinv⟩ hstep horigin
  exact ⟨hu.step hstep, hkeeps u l v hu hinv hstep (hrestricts w e u l h.1 hcond hu horigin)⟩

/-- Allowed fine steps keep the property in the runs whose events satisfy the condition. -/
theorem Keeps.run {allow : World → Label → Prop} {inv : World → Prop}
    {cond : World → Event → Prop} (hkeeps : Keeps cfg allow inv)
    (hrestricts : Restricts cfg cond allow) (h : SoundWith inv w)
    (hrun : Run (keySystem cfg) cond w v) : SoundWith inv v :=
  hrun.invariant h fun _ _ hu hen hcond => hkeeps.apply hrestricts hu hen hcond

/-- Every condition on the events allows no more than all fine steps. -/
theorem restricts_true {cond : World → Event → Prop} : Restricts cfg cond fun _ _ => True :=
  fun _ _ _ _ _ _ _ _ => trivial

end WTerm
