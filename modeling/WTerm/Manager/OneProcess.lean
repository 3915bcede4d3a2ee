import WTerm.Manager.Expiry

/-!
# One process for each session key

The link between the map entry of a key, the live process and the transition lock.
-/

namespace WTerm

open Control

variable {cfg : Settings} {w : World}

/-- The operations that may signal a process: a request in mode `new`, an end request and the
two expiries. -/
def Owner.MaySignal : Owner → Prop
  | .route _ mode _ => mode = .new
  | .endRequest _ | .grace _ | .idle => True

/-- At most one session of a key is alive, a live session that is not terminating is the one in
the map, and no handshake in another mode than `new` ever signalled a process. -/
theorem one_live_process (h : Reachable cfg w) :
    (∀ sid sid', (w.sessions sid).alive = true → (w.sessions sid').alive = true → sid = sid') ∧
      (∀ sid, (w.sessions sid).alive = true → (w.sessions sid).terminating = false →
        w.entry = some sid) ∧
      ∀ s ∈ w.signals, s.owner.MaySignal := by
  have hcore : w.control.Core := h.sound.core
  have hentry (sid : SessionId) (halive : (w.sessions sid).alive = true) : w.entry = some sid :=
    hcore.aliveEntry sid halive
  refine ⟨?_, ?_, ?_⟩
  · intro sid sid' halive halive'
    have hsame : some sid = some sid' := (hentry sid halive).symm.trans (hentry sid' halive')
    exact Option.some.inj hsame
  · intro sid halive _
    exact hentry sid halive
  · intro s hs
    cases howner : s.owner with
    | route ws mode message => exact hcore.signalNew s hs ws mode message howner
    | _ => trivial

/-- A client starts a session, and another one replaces it in mode `new`. -/
def replacedSession : World := (keySystem shellSettings).exec {}
  [.connect 0 .attach false, .connect 1 .new false, .writerCancelled 0 0 false, .resume, .resume,
    .childExits 0, .resume]

/-- After the replacement only the new session is alive. -/
theorem one_live_process_replaced :
    (∀ sid sid', (replacedSession.sessions sid).alive = true →
        (replacedSession.sessions sid').alive = true → sid = sid') ∧
      (∀ sid, (replacedSession.sessions sid).alive = true →
        (replacedSession.sessions sid).terminating = false → replacedSession.entry = some sid) ∧
      ∀ s ∈ replacedSession.signals, s.owner.MaySignal :=
  one_live_process (reachable_exec (by decide : (keySystem shellSettings).Valid {} _))

/-- The run replaced the session: it signalled the first one, and the second one is alive. -/
example : replacedSession.signals.length = 1 ∧ replacedSession.entry = some 1 ∧
    (replacedSession.sessions 1).alive = true := by decide

end WTerm
