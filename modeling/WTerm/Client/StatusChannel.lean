import Mathlib.Logic.Function.Basic
import WTerm.Client.Tab
import WTerm.Status.Hub

/-!
# The status channel of a page

`createProjectStatusChannel` keeps one socket to the server. It is closed and made again at every
login, made again after a while when it is lost, and given up when the server rejects it. The
handlers of a socket stay when it is replaced. The last snapshot that came through is what
`applyProjects` shows.
-/

namespace WTerm

/-- `createProjectStatusChannel`, with the list of projects that the page shows. -/
structure Channel where
  sockets : Ws → Option ReadyState := fun _ => none
  socket : Option Ws := none
  /-- The delay of `reconnectTimer` in milliseconds, while the timer is pending. -/
  reconnectTimer : Option ℕ := none
  reconnectAttempts : ℕ := 0
  enabled : Bool := true
  /-- `lastProjects`. -/
  lastProjects : List StatusEntry := []

namespace Channel

/-- A socket changes its state. -/
def setState (c : Channel) (ws : Ws) (state : ReadyState) : Channel :=
  { c with sockets := Function.update c.sockets ws (some state) }

/-- `socket.close()`, if there is a socket. -/
def closeSocket (c : Channel) : Option Ws → Channel
  | none => c
  | some ws => if c.sockets ws = some .closed then c else c.setState ws .closing

/-- `stop`. -/
def stop (c : Channel) : Channel :=
  { c with enabled := false, reconnectTimer := none, socket := none }.closeSocket c.socket

/-- `connect`, with a new socket at hand. -/
def connect (c : Channel) (ws : Ws) : Channel :=
  if c.enabled = false then c
  else if c.socket.any fun current =>
      c.sockets current = some .opened || c.sockets current = some .connecting then c
  else { c with reconnectTimer := none, socket := some ws }.setState ws .connecting

/-- `start`. -/
def start (c : Channel) (ws : Ws) : Channel :=
  { c.stop with enabled := true, reconnectAttempts := 0 }.connect ws

/-- The timer fires. -/
def timer (c : Channel) (ws : Ws) : Channel := { c with reconnectTimer := none }.connect ws

/-- `onopen`. -/
def onOpen (c : Channel) (ws : Ws) : Channel :=
  let c := c.setState ws .opened
  if c.socket ≠ some ws then c else { c with reconnectAttempts := 0 }

/-- `onmessage`, with a snapshot. -/
def onMessage (c : Channel) (ws : Ws) (projects : List StatusEntry) : Channel :=
  if c.socket ≠ some ws then c else { c with lastProjects := projects }

/-- `onclose`. -/
def onClose (c : Channel) (ws : Ws) (code : ℕ) : Channel :=
  let c := c.setState ws .closed
  if c.socket ≠ some ws then c
  else
    let c := { c with socket := none }
    if c.enabled = false then c
    else if code = 4401 then { c with enabled := false }
    else
      let attempts := c.reconnectAttempts + 1
      { c with reconnectAttempts := attempts, reconnectTimer := some (min (1000 * attempts) 5000) }

/-- The end of a logout, after `stop`. -/
def clear (c : Channel) : Channel := { c with lastProjects := [] }

end Channel

/-- What happens to a status channel. -/
inductive ChannelEvent where
  /-- A login. -/
  | start (ws : Ws)
  /-- The beginning of a logout. -/
  | stop
  /-- The end of a logout. -/
  | clear
  | timer (ws : Ws)
  | opened (ws : Ws)
  | message (ws : Ws) (projects : List StatusEntry)
  | closed (ws : Ws) (code : ℕ)

namespace ChannelEvent

/-- The state after an event. -/
def apply (c : Channel) : ChannelEvent → Channel
  | .start ws => c.start ws
  | .stop => c.stop
  | .clear => c.clear
  | .timer ws => c.timer ws
  | .opened ws => c.onOpen ws
  | .message ws projects => c.onMessage ws projects
  | .closed ws code => c.onClose ws code

/-- When an event can happen. The end of a logout waits for the server, and may come late. -/
def Enabled (c : Channel) : ChannelEvent → Prop
  | .start ws => c.sockets ws = none
  | .stop | .clear => True
  | .timer ws => c.reconnectTimer ≠ none ∧ c.sockets ws = none
  | .opened ws => c.sockets ws = some .connecting
  | .message ws _ => c.sockets ws = some .opened
  | .closed ws _ => c.sockets ws ≠ none ∧ c.sockets ws ≠ some .closed

instance decidableEnabled (c : Channel) : (e : ChannelEvent) → Decidable (e.Enabled c)
  | .start _ | .opened _ | .message _ _ => inferInstanceAs (Decidable (_ = _))
  | .stop | .clear => inferInstanceAs (Decidable True)
  | .timer _ | .closed _ _ => inferInstanceAs (Decidable (_ ∧ _))

/-- A user logs in. -/
def isStart : ChannelEvent → Bool
  | .start _ => true
  | _ => false

end ChannelEvent

open Transition

/-- A status channel, in any sequence of events. -/
def channelSystem : System Channel ChannelEvent where
  Enabled c e := e.Enabled c
  apply := ChannelEvent.apply

instance (c : Channel) (e : ChannelEvent) : Decidable (channelSystem.Enabled c e) :=
  inferInstanceAs (Decidable (e.Enabled c))

/-- The channel after the script has run. -/
def Channel.initial (ws : Ws) : Channel := ({} : Channel).start ws

/-! ## One connection -/

namespace Channel

/-- A socket that has neither been closed nor been asked to close. -/
def Live (c : Channel) (ws : Ws) : Prop :=
  c.sockets ws = some .connecting ∨ c.sockets ws = some .opened

/-- What holds of a channel at any time. -/
structure InOrder (c : Channel) : Prop where
  /-- The live socket is `socket`, and `socket` is live. -/
  live : ∀ ws, c.Live ws ↔ c.socket = some ws
  /-- An enabled channel has a socket or waits for its timer, and not both. -/
  enabled : c.enabled = true → (c.socket.isSome = true ↔ c.reconnectTimer = none)
  /-- A channel that is given up has neither. -/
  disabled : c.enabled = false → c.socket = none ∧ c.reconnectTimer = none
  /-- The delay grows with the attempts, up to five seconds. -/
  delay : ∀ delay, c.reconnectTimer = some delay →
    0 < c.reconnectAttempts ∧ delay = min (1000 * c.reconnectAttempts) 5000

section

variable {c : Channel} {ws ws' : Ws} {code : ℕ}

/-- Sockets after `close()`. -/
theorem closeSocket_sockets (c : Channel) (socket : Option Ws) (ws : Ws) :
    (c.closeSocket socket).sockets ws =
      if socket = some ws ∧ c.sockets ws ≠ some .closed then some .closing else c.sockets ws := by
  cases socket with
  | none => simp [closeSocket]
  | some ws' =>
    unfold closeSocket
    by_cases hws : ws' = ws
    · subst hws
      by_cases hclosed : c.sockets ws' = some .closed <;> simp [hclosed, setState]
    · by_cases hclosed : c.sockets ws' = some .closed <;> simp [hclosed, setState, hws, Ne.symm hws]

/-- `close()` changes the state of a socket and nothing else of the channel. -/
theorem closeSocket_frame (c : Channel) (socket : Option Ws) :
    (c.closeSocket socket).socket = c.socket ∧ (c.closeSocket socket).enabled = c.enabled ∧
      (c.closeSocket socket).reconnectTimer = c.reconnectTimer ∧
      (c.closeSocket socket).reconnectAttempts = c.reconnectAttempts ∧
      (c.closeSocket socket).lastProjects = c.lastProjects := by
  cases socket with
  | none => exact ⟨rfl, rfl, rfl, rfl, rfl⟩
  | some ws =>
    by_cases hclosed : c.sockets ws = some .closed <;> simp [closeSocket, hclosed, setState]

/-- After `stop` no socket is live. -/
theorem InOrder.stop_live (h : c.InOrder) (ws : Ws) : ¬c.stop.Live ws := by
  intro hlive
  have hsockets := closeSocket_sockets
    { c with enabled := false, reconnectTimer := none, socket := none } c.socket ws
  unfold Live at hlive
  rw [show c.stop.sockets ws = _ from hsockets] at hlive
  dsimp only at hlive
  by_cases hcurrent : c.socket = some ws
  · by_cases hclosed : c.sockets ws = some .closed <;> simp [hcurrent, hclosed] at hlive
  · have hbefore : c.Live ws := by simpa [hcurrent, Live] using hlive
    exact hcurrent ((h.live ws).mp hbefore)

/-- `stop` keeps the channel in order. -/
theorem InOrder.stop (h : c.InOrder) : c.stop.InOrder := by
  obtain ⟨hsocket, henabled, htimer, -, -⟩ := closeSocket_frame
    { c with enabled := false, reconnectTimer := none, socket := none } c.socket
  refine ⟨fun ws => ?_, fun hon => ?_, fun _ => ⟨hsocket, htimer⟩, fun delay hdelay => ?_⟩
  · rw [show c.stop.socket = none from hsocket]
    exact iff_of_false (h.stop_live ws) (Option.some_ne_none ws).symm
  · rw [show c.stop.enabled = false from henabled] at hon
    cases hon
  · rw [show c.stop.reconnectTimer = none from htimer] at hdelay
    cases hdelay

/-- A new socket, where no other one is live. -/
theorem InOrder.connected (hlive : ∀ ws, ¬c.Live ws) (henabled : c.enabled = true) (ws : Ws) :
    ({ c with reconnectTimer := none, socket := some ws }.setState ws .connecting).InOrder := by
  refine ⟨fun ws' => ?_, fun _ => iff_of_true rfl rfl, fun hoff => ?_, fun delay hdelay => ?_⟩
  · by_cases hws : ws' = ws
    · subst hws
      simp [Live, setState]
    · have hdead : ¬(c.sockets ws' = some .connecting ∨ c.sockets ws' = some .opened) := hlive ws'
      simpa [Live, setState, hws, Ne.symm hws] using hdead
  · rw [show c.enabled = false from hoff] at henabled
    cases henabled
  · cases hdelay

/-- `connect` of an enabled channel without a live socket makes the new socket its own. -/
theorem connect_of_dead (hsocket : c.socket = none) (henabled : c.enabled = true) (ws : Ws) :
    c.connect ws =
      { c with reconnectTimer := none, socket := some ws }.setState ws .connecting := by
  simp [connect, henabled, hsocket]

/-- `start` of a channel in order connects the new socket. -/
theorem InOrder.start_socket (h : c.InOrder) (ws : Ws) : (c.start ws).socket = some ws := by
  have hsocket : c.stop.socket = none := h.stop.disabled (closeSocket_frame _ _).2.1 |>.1
  unfold Channel.start
  rw [connect_of_dead (c := { c.stop with enabled := true, reconnectAttempts := 0 }) hsocket rfl]
  rfl

/-- `start` with a new socket keeps the channel in order. -/
theorem InOrder.start (h : c.InOrder) (ws : Ws) : (c.start ws).InOrder := by
  have hsocket : c.stop.socket = none := h.stop.disabled (closeSocket_frame _ _).2.1 |>.1
  unfold Channel.start
  rw [connect_of_dead (c := { c.stop with enabled := true, reconnectAttempts := 0 }) hsocket rfl]
  exact InOrder.connected (c := { c.stop with enabled := true, reconnectAttempts := 0 })
    h.stop_live rfl ws

/-- A channel that waits for its timer is enabled and has no socket. -/
theorem InOrder.timer_parts (h : c.InOrder) (hpending : c.reconnectTimer ≠ none) :
    c.enabled = true ∧ c.socket = none := by
  have henabled : c.enabled = true := by
    by_contra hoff
    exact hpending (h.disabled (by simpa using hoff)).2
  refine ⟨henabled, ?_⟩
  by_contra hsome
  exact hpending ((h.enabled henabled).mp (Option.isSome_iff_ne_none.mpr hsome))

/-- The timer of a channel in order connects the new socket. -/
theorem InOrder.timer_socket (h : c.InOrder) (hpending : c.reconnectTimer ≠ none) (ws : Ws) :
    (c.timer ws).socket = some ws := by
  obtain ⟨henabled, hsocket⟩ := h.timer_parts hpending
  unfold Channel.timer
  rw [connect_of_dead (c := { c with reconnectTimer := none }) hsocket henabled]
  rfl

/-- The timer that fires with a new socket keeps the channel in order. -/
theorem InOrder.timer (h : c.InOrder) (hpending : c.reconnectTimer ≠ none) (ws : Ws) :
    (c.timer ws).InOrder := by
  obtain ⟨henabled, hsocket⟩ := h.timer_parts hpending
  have hlive : ∀ ws, ¬c.Live ws := by
    intro ws' hlive
    rw [(h.live ws').mp hlive] at hsocket
    cases hsocket
  unfold Channel.timer
  rw [connect_of_dead (c := { c with reconnectTimer := none }) hsocket henabled]
  exact InOrder.connected (c := { c with reconnectTimer := none }) hlive henabled ws

/-- A socket that is live, or not, stays so. -/
theorem setState_live (c : Channel) (state : ReadyState) (hws : ws' ≠ ws) :
    (c.setState ws state).Live ws' ↔ c.Live ws' := by
  simp [Live, setState, hws]

/-- `onopen` of a socket that was connecting keeps the channel in order. -/
theorem InOrder.onOpen (h : c.InOrder) (hconnecting : c.sockets ws = some .connecting) :
    (c.onOpen ws).InOrder := by
  have hsocket : c.socket = some ws := (h.live ws).mp (Or.inl hconnecting)
  have htimer : c.reconnectTimer = none := by
    by_contra hpending
    have henabled : c.enabled = true := by
      by_contra hoff
      exact hpending (h.disabled (by simpa using hoff)).2
    exact hpending ((h.enabled henabled).mp (by simp [hsocket]))
  have hopened : c.onOpen ws = { c.setState ws .opened with reconnectAttempts := 0 } := by
    simp [Channel.onOpen, setState, hsocket]
  rw [hopened]
  refine ⟨fun ws' => ?_, h.enabled, h.disabled, fun delay hdelay => ?_⟩
  · by_cases hws : ws' = ws
    · subst hws
      refine iff_of_true (Or.inr ?_) hsocket
      simp [setState]
    · exact (c.setState_live .opened hws).trans (h.live ws')
  · exact absurd (htimer.symm.trans hdelay) (by simp)

/-- A message changes the list of projects at most, and no socket. -/
theorem onMessage_frame (c : Channel) (ws : Ws) (projects : List StatusEntry) :
    (c.onMessage ws projects).socket = c.socket ∧
      (c.onMessage ws projects).sockets = c.sockets := by
  unfold onMessage
  split <;> exact ⟨rfl, rfl⟩

/-- `onclose` of any socket with any code keeps the channel in order. -/
theorem InOrder.onClose (h : c.InOrder) (ws : Ws) (code : ℕ) : (c.onClose ws code).InOrder := by
  have hdead : ¬(c.setState ws .closed).Live ws := by simp [Live, setState]
  unfold Channel.onClose
  dsimp only
  by_cases hsocket : c.socket = some ws
  · have henabled : c.enabled = true := by
      by_contra hoff
      rw [(h.disabled (by simpa using hoff)).1] at hsocket
      cases hsocket
    have hnone : ∀ ws', ¬(c.setState ws .closed).Live ws' := by
      intro ws' hlive
      by_cases hws : ws' = ws
      · subst hws
        exact hdead hlive
      · have hcurrent := (h.live ws').mp ((c.setState_live .closed hws).mp hlive)
        exact hws (Option.some.inj (hcurrent.symm.trans hsocket))
    have htimer : c.reconnectTimer = none := (h.enabled henabled).mp (by simp [hsocket])
    have hcurrent : (c.setState ws .closed).socket = some ws := hsocket
    have hon : (c.setState ws .closed).enabled ≠ false := by simp [setState, henabled]
    rw [if_neg (not_not.mpr hcurrent), if_neg hon]
    split
    · refine ⟨fun ws' => iff_of_false (hnone ws') (by simp), fun hon' => ?_, fun _ => ⟨rfl, htimer⟩,
        fun delay hdelay => absurd (htimer.symm.trans hdelay) (by simp)⟩
      cases hon'
    · refine ⟨fun ws' => iff_of_false (hnone ws') (by simp),
        fun _ => iff_of_false (by simp) (by simp),
        fun hoff => absurd hoff hon, fun delay hdelay => ?_⟩
      exact ⟨Nat.succ_pos _, (Option.some.inj hdelay).symm⟩
  · have hold : (c.setState ws .closed).socket ≠ some ws := hsocket
    rw [if_pos hold]
    refine ⟨fun ws' => ?_, h.enabled, h.disabled, h.delay⟩
    by_cases hws : ws' = ws
    · subst hws
      exact iff_of_false hdead hsocket
    · exact (c.setState_live .closed hws).trans (h.live ws')

/-- Every event keeps the channel in order. -/
theorem InOrder.apply (h : c.InOrder) {e : ChannelEvent} (hen : e.Enabled c) :
    (e.apply c).InOrder := by
  cases e with
  | start ws => exact h.start ws
  | stop => exact h.stop
  | clear => exact ⟨h.live, h.enabled, h.disabled, h.delay⟩
  | timer ws => exact h.timer hen.1 ws
  | opened ws => exact h.onOpen hen
  | message ws projects =>
    change (c.onMessage ws projects).InOrder
    unfold onMessage
    split
    · exact h
    · exact ⟨h.live, h.enabled, h.disabled, h.delay⟩
  | closed ws code => exact h.onClose ws code

/-- The channel is in order when the script has run. -/
theorem initial_inOrder (ws : Ws) : (initial ws).InOrder := by
  have hstart : initial ws =
      { ({} : Channel) with reconnectTimer := none, socket := some ws }.setState ws
        .connecting := by
    simp [initial, Channel.start, Channel.stop, closeSocket, connect]
  rw [hstart]
  refine InOrder.connected (fun ws' hlive => ?_) rfl ws
  rcases hlive with hlive | hlive <;> cases hlive

/-! ## What an event changes -/

/-- The socket of a channel stays, or it is a new one. -/
theorem InOrder.apply_socket (h : c.InOrder) {e : ChannelEvent} (hen : e.Enabled c)
    (hmessage : ∀ ws projects, e ≠ .message ws projects) (hws : (e.apply c).socket = some ws) :
    c.socket = some ws ∧ (e ≠ .clear → (e.apply c).lastProjects = c.lastProjects) ∨
      e = .start ws ∨ e = .timer ws := by
  cases e with
  | start ws' =>
    have hsocket : c.stop.socket = none := h.stop.disabled (closeSocket_frame _ _).2.1 |>.1
    have hstart := connect_of_dead (c := { c.stop with enabled := true, reconnectAttempts := 0 })
      hsocket rfl ws'
    rw [show (ChannelEvent.start ws').apply c = _ from hstart] at hws
    obtain rfl : ws' = ws := Option.some.inj hws
    exact Or.inr (Or.inl rfl)
  | stop =>
    have hnone : c.stop.socket = none := (closeSocket_frame _ _).1
    exact absurd (hnone.symm.trans hws) (by simp)
  | clear => exact Or.inl ⟨hws, fun hclear => absurd rfl hclear⟩
  | timer ws' =>
    obtain ⟨henabled, hsocket⟩ := h.timer_parts hen.1
    have htimer := connect_of_dead (c := { c with reconnectTimer := none }) hsocket henabled ws'
    rw [show (ChannelEvent.timer ws').apply c = _ from htimer] at hws
    obtain rfl : ws' = ws := Option.some.inj hws
    exact Or.inr (Or.inr rfl)
  | opened ws' =>
    refine Or.inl ?_
    simp only [ChannelEvent.apply, Channel.onOpen] at hws ⊢
    split at hws
    · next hother =>
      rw [if_pos hother]
      exact ⟨hws, fun _ => rfl⟩
    · next hcurrent =>
      rw [if_neg hcurrent]
      exact ⟨hws, fun _ => rfl⟩
  | message ws' projects => exact absurd rfl (hmessage ws' projects)
  | closed ws' code =>
    refine Or.inl ?_
    simp only [ChannelEvent.apply, Channel.onClose] at hws ⊢
    split at hws
    · next hother =>
      rw [if_pos hother]
      exact ⟨hws, fun _ => rfl⟩
    · split at hws
      · cases hws
      · split at hws <;> cases hws

/-- Only `start` and the timer make a socket. -/
theorem InOrder.apply_unknown (h : c.InOrder) {e : ChannelEvent} (hen : e.Enabled c)
    (hnone : c.sockets ws = none) (hstart : e ≠ .start ws) (htimer : e ≠ .timer ws) :
    (e.apply c).sockets ws = none := by
  have hcurrent : c.socket ≠ some ws := by
    intro hsocket
    rcases (h.live ws).mpr hsocket with hlive | hlive <;>
    · rw [hnone] at hlive
      cases hlive
  have hstop : c.stop.sockets ws = none := by
    have hclose := closeSocket_sockets
      { c with enabled := false, reconnectTimer := none, socket := none } c.socket ws
    rw [show c.stop.sockets ws = _ from hclose, if_neg fun hboth => hcurrent hboth.1]
    exact hnone
  have hset (d : Channel) (ws' : Ws) (state : ReadyState) (hd : d.sockets ws = none)
      (hne : ws ≠ ws') : (d.setState ws' state).sockets ws = none := by
    simpa [setState, hne] using hd
  cases e with
  | start ws' =>
    have hsocket : c.stop.socket = none := h.stop.disabled (closeSocket_frame _ _).2.1 |>.1
    have hconnect := connect_of_dead (c := { c.stop with enabled := true, reconnectAttempts := 0 })
      hsocket rfl ws'
    rw [show (ChannelEvent.start ws').apply c = _ from hconnect]
    exact hset _ ws' .connecting hstop fun hws => hstart (by rw [hws])
  | stop => exact hstop
  | clear => exact hnone
  | timer ws' =>
    obtain ⟨henabled, hsocket⟩ := h.timer_parts hen.1
    have hconnect := connect_of_dead (c := { c with reconnectTimer := none }) hsocket henabled ws'
    rw [show (ChannelEvent.timer ws').apply c = _ from hconnect]
    exact hset _ ws' .connecting hnone fun hws => htimer (by rw [hws])
  | opened ws' =>
    have hne : ws ≠ ws' := by
      rintro rfl
      exact absurd (hnone.symm.trans hen) (by simp)
    have hopened := hset c ws' .opened hnone hne
    simp only [ChannelEvent.apply, Channel.onOpen]
    split <;> exact hopened
  | message ws' projects =>
    rw [show ((ChannelEvent.message ws' projects).apply c).sockets = _ from
      (c.onMessage_frame ws' projects).2]
    exact hnone
  | closed ws' code =>
    have hne : ws ≠ ws' := by
      rintro rfl
      exact hen.1 hnone
    have hclosed := hset c ws' .closed hnone hne
    simp only [ChannelEvent.apply, Channel.onClose]
    split_ifs <;> exact hclosed

/-- A socket that was made stays one, in whatever state: no event unmakes it. -/
theorem apply_sockets (c : Channel) (e : ChannelEvent) (hws : (e.apply c).sockets ws = none) :
    c.sockets ws = none := by
  have hstate : ∀ (d : Channel) (ws' : Ws) (state : ReadyState),
      (d.setState ws' state).sockets ws = none → d.sockets ws = none := by
    intro d ws' state hnone
    by_cases hsame : ws = ws'
    · subst hsame
      simp [setState] at hnone
    · simpa [setState, hsame] using hnone
  have hstop : c.stop.sockets ws = none → c.sockets ws = none := by
    intro hnone
    have hclose := closeSocket_sockets
      { c with enabled := false, reconnectTimer := none, socket := none } c.socket ws
    rw [show c.stop.sockets ws = _ from hclose] at hnone
    split at hnone
    · cases hnone
    · exact hnone
  have hconnect : ∀ (d : Channel) (ws' : Ws), (d.connect ws').sockets ws = none →
      d.sockets ws = none := by
    intro d ws' hnone
    unfold connect at hnone
    split at hnone
    · exact hnone
    · split at hnone
      · exact hnone
      · exact hstate { d with reconnectTimer := none, socket := some ws' } ws' _ hnone
  cases e with
  | start ws' =>
    exact hstop (hconnect { c.stop with enabled := true, reconnectAttempts := 0 } ws' hws)
  | stop => exact hstop hws
  | clear => exact hws
  | timer ws' => exact hconnect { c with reconnectTimer := none } ws' hws
  | opened ws' =>
    simp only [ChannelEvent.apply, Channel.onOpen] at hws
    split at hws <;> exact hstate c ws' _ hws
  | message ws' projects =>
    simp only [ChannelEvent.apply, onMessage] at hws
    split at hws <;> exact hws
  | closed ws' code =>
    simp only [ChannelEvent.apply, Channel.onClose] at hws
    split at hws
    · exact hstate c ws' _ hws
    · split at hws
      · exact hstate c ws' _ hws
      · split at hws <;> exact hstate c ws' _ hws

/-- Without a message, the list of projects stays or is cleared. -/
theorem apply_lastProjects (c : Channel) {e : ChannelEvent}
    (hmessage : ∀ ws payload, e ≠ .message ws payload) :
    (e.apply c).lastProjects = c.lastProjects ∨ (e.apply c).lastProjects = [] := by
  have hstop : c.stop.lastProjects = c.lastProjects := (closeSocket_frame _ _).2.2.2.2
  have hconnect (d : Channel) (ws : Ws) : (d.connect ws).lastProjects = d.lastProjects := by
    unfold connect
    split_ifs <;> rfl
  cases e with
  | start ws =>
    exact Or.inl ((hconnect { c.stop with enabled := true, reconnectAttempts := 0 } ws).trans hstop)
  | stop => exact Or.inl hstop
  | clear => exact Or.inr rfl
  | timer ws => exact Or.inl (hconnect { c with reconnectTimer := none } ws)
  | opened ws =>
    refine Or.inl ?_
    simp only [ChannelEvent.apply, onOpen]
    split <;> rfl
  | message ws payload => exact absurd rfl (hmessage ws payload)
  | closed ws code =>
    refine Or.inl ?_
    simp only [ChannelEvent.apply, onClose]
    split_ifs <;> rfl

/-- A channel that is given up makes no socket and shows nothing new, except at a login. -/
theorem InOrder.apply_disabled (h : c.InOrder) (hoff : c.enabled = false) {e : ChannelEvent}
    (hen : e.Enabled c) (hstart : e.isStart = false) :
    (e.apply c).enabled = false ∧ (∀ ws, (e.apply c).sockets ws = none ↔ c.sockets ws = none) ∧
      ((e.apply c).lastProjects = c.lastProjects ∨ (e.apply c).lastProjects = []) := by
  obtain ⟨hsocket, htimer⟩ := h.disabled hoff
  have hkeeps {state : ReadyState} {ws' : Ws} (hmade : c.sockets ws' ≠ none) (ws : Ws) :
      (c.setState ws' state).sockets ws = none ↔ c.sockets ws = none := by
    by_cases hsame : ws = ws'
    · subst hsame
      simp [setState, hmade]
    · simp [setState, hsame]
  cases e with
  | start ws => cases hstart
  | stop =>
    have hsame : c.stop = { c with enabled := false, reconnectTimer := none, socket := none } := by
      rw [Channel.stop, hsocket]
      rfl
    rw [show ChannelEvent.stop.apply c = _ from hsame]
    exact ⟨rfl, fun _ => Iff.rfl, Or.inl rfl⟩
  | clear => exact ⟨hoff, fun _ => Iff.rfl, Or.inr rfl⟩
  | timer ws => exact absurd htimer hen.1
  | opened ws =>
    have hopened : c.onOpen ws = c.setState ws .opened := by
      simp [Channel.onOpen, setState, hsocket]
    rw [show (ChannelEvent.opened ws).apply c = _ from hopened]
    have hmade : c.sockets ws ≠ none := by
      rw [show c.sockets ws = some .connecting from hen]
      simp
    exact ⟨hoff, hkeeps hmade, Or.inl rfl⟩
  | message ws projects =>
    have hsame : c.onMessage ws projects = c := by simp [onMessage, hsocket]
    rw [show (ChannelEvent.message ws projects).apply c = _ from hsame]
    exact ⟨hoff, fun _ => Iff.rfl, Or.inl rfl⟩
  | closed ws code =>
    have hclosed : c.onClose ws code = c.setState ws .closed := by
      simp [Channel.onClose, setState, hsocket]
    rw [show (ChannelEvent.closed ws code).apply c = _ from hclosed]
    exact ⟨hoff, hkeeps hen.1, Or.inl rfl⟩

/-- What holds of a channel since it was given up. -/
structure GivenUp (c d : Channel) : Prop where
  inOrder : d.InOrder
  enabled : d.enabled = false
  sockets : ∀ ws, d.sockets ws = none ↔ c.sockets ws = none
  lastProjects : d.lastProjects = c.lastProjects ∨ d.lastProjects = []

/-- An event other than a login leaves a channel that was given up as it was. -/
theorem GivenUp.apply {d : Channel} (h : c.GivenUp d) {e : ChannelEvent} (hen : e.Enabled d)
    (hstart : e.isStart = false) : c.GivenUp (e.apply d) := by
  obtain ⟨henabled, hsockets, hlist⟩ := h.inOrder.apply_disabled h.enabled hen hstart
  refine ⟨h.inOrder.apply hen, henabled, fun ws => (hsockets ws).trans (h.sockets ws), ?_⟩
  rcases hlist with hsame | hnil
  · rw [hsame]
    exact h.lastProjects
  · exact Or.inr hnil

end

end Channel

/-! ## Runs -/

section

variable {c c' : Channel} {ws : Ws}

/-- A run keeps the channel in order. -/
theorem Channel.InOrder.run {guard : Channel → ChannelEvent → Prop} (h : c.InOrder)
    (hrun : Run channelSystem guard c c') : c'.InOrder :=
  hrun.invariant h fun _ _ h hen _ => h.apply hen

/-- In every run the channel is in order: it has at most one live socket, which is the one that its
handlers listen to, and it is either connected or waits at most five seconds until it connects
again, unless it was given up. -/
theorem channel_of_run (hrun : Run channelSystem (fun _ _ => True) (Channel.initial ws) c) :
    c.InOrder :=
  (Channel.initial_inOrder ws).run hrun

/-- The connection is lost twice before it is opened, and the second socket closes late. -/
def lostChannel : List ChannelEvent :=
  [.opened 0, .closed 0 1006, .timer 1, .closed 1 1006, .timer 2, .opened 2, .start 3,
    .closed 2 4401]

/-- The hypothesis holds in such a run. -/
theorem channel_of_run_lost : (channelSystem.exec (.initial 0) lostChannel).InOrder :=
  channel_of_run (System.Valid.run channelSystem (by decide))

/-- After a logout, or after the server has rejected the channel, there is no new connection and no
new list of projects until the user logs in, in whatever order the events of old sockets arrive. -/
theorem channel_given_up (hrun : Run channelSystem (fun _ _ => True) (Channel.initial ws) c)
    (hoff : c.enabled = false) (hrest : Run channelSystem (fun _ e => e.isStart = false) c c') :
    c'.enabled = false ∧ (∀ ws, c'.sockets ws = none ↔ c.sockets ws = none) ∧
      (c'.lastProjects = c.lastProjects ∨ c'.lastProjects = []) := by
  have hkept : c.GivenUp c' := by
    refine hrest.invariant ⟨(Channel.initial_inOrder ws).run hrun, hoff, fun _ => Iff.rfl,
      Or.inl rfl⟩ ?_
    intro d e hd hen hstart
    exact hd.apply hen hstart
  exact ⟨hkept.enabled, hkept.sockets, hkept.lastProjects⟩

/-- The hypotheses hold when the user logs out twice, and the old socket closes only between them.
-/
theorem channel_given_up_expired :
    let c := channelSystem.exec (.initial 0) [.opened 0, .stop]
    let late : List ChannelEvent := [.closed 0 1006, .stop, .clear]
    c.enabled = false ∧ (channelSystem.exec c late).enabled = false ∧
      (∀ ws, (channelSystem.exec c late).sockets ws = none ↔ c.sockets ws = none) ∧
      ((channelSystem.exec c late).lastProjects = c.lastProjects ∨
        (channelSystem.exec c late).lastProjects = []) :=
  ⟨by decide, channel_given_up (System.Valid.run channelSystem (by decide)) (by decide)
    (System.Valid.guardedRun channelSystem (by decide))⟩

end

end WTerm
