import WTerm.Manager.Streams

/-!
# Who is attached to a session

A connection that another client displaced still has one `receive_text` pending, and the
natural exit of a process can fall into an attach. This file says who controls the terminal
and who is told of the exit in the runs with and without these two.
-/

namespace WTerm

open Transition Control Relation

variable {cfg : Settings} {w v : World} {e : Event} {sid : SessionId} {ws : Ws}

/-! ## Control of the terminal -/

/-- Handling a frame of a session that is over leaves its PTY alone. -/
theorem Session.handleFrame_of_dead {s : Session} (hdead : s.alive = false) (now : Time)
    (frame : Received) (results : List WriteResult) :
    (s.handleFrame now frame results).1.ptyInput = s.ptyInput := by
  have hinput (data : PyStr) : s.writeInput now data results = (s, .ok false) := by
    simp [Session.writeInput, hdead]
  have hresize (cols rows : ℤ) : s.resize cols rows results = s := by
    simp [Session.resize, hdead]
  unfold Session.handleFrame
  split
  · rfl
  · rfl
  · rfl
  · next members =>
    unfold Session.applyMessage
    split
    · split
      · next data hdata => rw [Session.applyInput, hinput]
      · rfl
    · split
      · split
        · next cols rows hsize => rw [hresize]
        · rfl
      · rfl
  · rfl

/-- A frame that a connection sends has an effect on the PTY of its session: input that is
written or kept for it, or a new size. -/
def World.Applies (w : World) (sid : SessionId) (frame : Received) (results : List WriteResult) :
    Prop :=
  ((w.sessions sid).handleFrame w.now frame results).1.ptyInput ≠ (w.sessions sid).ptyInput

instance (w : World) (sid : SessionId) (frame : Received) (results : List WriteResult) :
    Decidable (w.Applies sid frame results) :=
  inferInstanceAs (Decidable (_ ≠ _))

/-- A frame with an effect on the PTY comes from the session's current `websocket` exactly if
no other operation has taken the session from the connection. -/
theorem applied_from_current_iff {frame : Received} {results : List WriteResult}
    (h : Reachable cfg w) (hloop : w.routes ws = .looping sid)
    (happlies : w.Applies sid frame results) :
    (w.sessions sid).websocket = some ws ↔ w.taken ws = false := by
  have hclients : w.control.Clients := h.sound.clients
  constructor
  · intro hcurrent
    by_contra htaken
    exact hclients.takenLeft sid ws (by simpa using htaken) hcurrent
  · intro hkept
    rcases hclients.looping ws sid hloop with hcurrent | htaken | hdead
    · exact hcurrent
    · rw [World.control_taken, hkept] at htaken
      cases htaken
    · exact absurd (Session.handleFrame_of_dead hdead w.now frame results) happlies

/-- The input message with the text `a`. -/
def inputFrame : Received :=
  .text (.ok (.obj [(py ['t', 'y', 'p', 'e'], .str Json.inputKind),
    (py ['d', 'a', 't', 'a'], .str (py ['a']))]))

/-- The only client of a session types. -/
theorem applied_from_current_iff_only :
    (openSession.sessions 0).websocket = some 0 ↔ openSession.taken 0 = false :=
  applied_from_current_iff (reachable_exec (by decide)) (by decide)
    (by decide : openSession.Applies 0 inputFrame [.wrote 1])

/-- A second client has displaced the first one and is attached. -/
def displacedClient : World := (keySystem shellSettings).exec {}
  [.connect 0 .attach false, .connect 1 .attach false, .writerCancelled 0 0 false, .resume,
    .resume]

/-- A frame of the displaced client reaches the PTY. -/
theorem applied_from_displaced : ¬∀ (cfg : Settings) (w : World) (ws : Ws) (sid : SessionId)
    (frame : Received) (results : List WriteResult), Reachable cfg w →
    w.routes ws = .looping sid → w.Applies sid frame results →
    (w.sessions sid).websocket = some ws := by
  intro h
  have hcurrent := h shellSettings displacedClient 0 0 inputFrame [.wrote 1]
    (reachable_exec (by decide)) (by decide) (by decide)
  exact absurd hcurrent (by decide)

/-! ## The natural exit -/

/-- `_handle_exit` of a live session takes its first step while `attach` has started on the
session and has not installed its connection. -/
def Event.ExitsDuringAttach (w : World) (e : Event) : Prop :=
  ∃ sid code ws message pc, e = .exitRuns sid code ∧ (w.sessions sid).alive = true ∧
    w.holder = some (.attaching ws sid message pc)

/-- The runs in which no exit falls into an attach. -/
def ExitOutside (w : World) (e : Event) : Prop := ¬e.ExitsDuringAttach w

/-- The exits of such a run fall outside every attach at the level of the control machine. -/
theorem restricts_exitOutside : Restricts cfg ExitOutside
    fun w l => ExitOutsideAttach w.control l := by
  intro w e u l _ hcond _ horigin
  cases l with
  | exit sid =>
    obtain ⟨⟨code, rfl⟩, rfl⟩ := horigin
    intro halive ws hrole
    obtain ⟨c, hholder, hc⟩ := Option.map_eq_some_iff.mp hrole
    cases c with
    | attaching ws' sid' message pc =>
      obtain ⟨rfl, rfl⟩ := Role.attaching.inj hc
      exact hcond ⟨sid', code, ws', message, pc, rfl, halive, hholder⟩
    | _ => cases hc
  | _ => trivial

/-- Connections that are served without having their session were told of the exit, or their
session was taken from them. -/
def Accounted (w : World) : Prop :=
  SoundStreams w ∧ ∀ ws sid, w.control.Serves ws sid → (w.sessions sid).websocket = some ws ∨
    w.taken ws = true ∨ (w.sessions sid).stream.Over ws

/-- A sequence of moves keeps what is over for a connection. -/
theorem Stream.Over.moves {limit : ℕ} {s s' : Stream} (ho : s.Over ws) (h : s.Sound limit)
    (hm : ReflTransGen (Stream.Move limit) s s') : s'.Over ws := by
  have hboth : s'.Sound limit ∧ s'.Over ws := by
    induction hm with
    | refl => exact ⟨h, ho⟩
    | tail _ hm ih => exact ⟨ih.1.step hm, ih.2.step ih.1 hm⟩
  exact hboth.2

/-- Apart from the natural exit, a fine step leaves a served connection without its session only
by taking it. -/
theorem World.Step.serves {l : Label} (hs : Sound w) (hstep : World.Step cfg w l v)
    (hl : l.isExit = false) {ws : Ws} {sid : SessionId} (hserves : v.control.Serves ws sid) :
    (v.sessions sid).websocket = some ws ∨ v.taken ws = true ∨
      w.control.Serves ws sid ∧ (w.sessions sid).websocket ≠ some ws ∧ w.taken ws = false := by
  rcases hstep.move with hm | hsame
  · exact hm.serves hs.core hs.sockets hl hserves
  · rw [hsame] at hserves
    have hlife : (v.sessions sid).websocket = (w.sessions sid).websocket :=
      congrArg (fun c : Control => (c.life sid).websocket) hsame
    have htaken : v.taken = w.taken := congrArg Control.taken hsame
    rw [hlife, htaken]
    by_cases hcurrent : (w.sessions sid).websocket = some ws
    · exact .inl hcurrent
    · cases hkept : w.taken ws with
      | true => exact .inr (.inl rfl)
      | false => exact .inr (.inr ⟨hserves, hcurrent, rfl⟩)

/-- A fine step keeps what is over for the connections of a created session. -/
theorem World.Step.over {l : Label} (hstep : World.Step cfg w l v) (hs : Sound w)
    (hstreams : SoundStreams w) (hexists : sid < w.count)
    (ho : (w.sessions sid).stream.Over ws) : (v.sessions sid).stream.Over ws := by
  rcases hstep.streams hs sid with hm | ⟨hnew, -⟩
  · exact ho.moves (hstreams sid) hm
  · rw [hnew] at hexists
    exact absurd hexists (Nat.lt_irrefl _)

/-- A fine step keeps the account of the served connections. -/
theorem Accounted.step {l : Label} (h : Accounted w) (hs : Sound w)
    (hstep : World.Step cfg w l v) : Accounted v := by
  refine ⟨h.1.step hs hstep, fun ws sid hserves => ?_⟩
  have hover (hserved : w.control.Serves ws sid) (ho : (w.sessions sid).stream.Over ws) :
      (v.sessions sid).stream.Over ws := by
    refine hstep.over hs h.1 ?_ ho
    rcases hserved with hroute | hrole
    · exact hs.loopExists ws sid hroute
    · exact hs.sockets.roleExists _ sid hrole rfl
  by_cases hl : l.isExit = false
  · rcases hstep.serves hs hl hserves with hcurrent | htaken | ⟨hserved, hleft, hkept⟩
    · exact .inl hcurrent
    · exact .inr (.inl htaken)
    · rcases h.2 ws sid hserved with hcurrent | htaken | ho
      · exact absurd hcurrent hleft
      · rw [hkept] at htaken
        cases htaken
      · exact .inr (.inr (hover hserved ho))
  · cases hstep with
    | exit sid' code exists_ alive =>
      have hserved : w.control.Serves ws sid := hserves
      rcases h.2 ws sid hserved with hcurrent | htaken | ho
      · by_cases hsid : sid = sid'
        · -- The exit puts its frames in the queue of the connection that is attached then.
          subst hsid
          have ho := (w.sessions sid).handleExit_over (h.1 sid) w.now code alive hcurrent
          exact .inr (.inr (by simpa using ho))
        · exact .inl (by simpa [hsid] using hcurrent)
      · exact .inr (.inl htaken)
      · exact .inr (.inr (hover hserved ho))
    | rule control sessions notExit => exact absurd notExit hl
    | _ => exact absurd rfl hl

/-- A session in which no exit fell into an attach has its clients only while it is alive.
Afterwards every connection in its receive loop has the exit message and the close frame in its
queue or behind it, unless the session was taken from it or its writer has ended. -/
theorem client_of_live_session (h : ReachableIf cfg ExitOutside w) :
    (∀ sid ws, (w.sessions sid).websocket = some ws → (w.sessions sid).alive = true) ∧
      ∀ sid ws, w.routes ws = .looping sid → (w.sessions sid).alive = false →
        w.taken ws = false → ((w.sessions sid).writers ws).pc ≠ .finished →
        (w.sessions sid).stream.Told ws := by
  have hlive : LiveClients w.control := by
    have hkeeps : Keeps cfg (fun w l => ExitOutsideAttach w.control l)
        fun w => LiveClients w.control :=
      keeps_control _ _ fun c l c' hcore _ _ hinv hm hallow => hinv.step hcore hm hallow
    have hinitial : LiveClients ({} : World).control := by
      constructor <;> simp [World.control, Session.blank]
    exact (hkeeps.run restricts_exitOutside ⟨.initial, hinitial⟩ h).2
  have haccounted : Accounted w := by
    have hkeeps : Keeps cfg (fun _ _ => True) Accounted :=
      fun _ _ _ hu hinv hstep _ => hinv.step hu hstep
    have hinitial : Accounted {} := by
      refine ⟨fun _ => Stream.sound_blank, fun ws sid hserves => ?_⟩
      rcases hserves with hroute | hrole
      · cases hroute
      · cases hrole
    exact (hkeeps.run restricts_true ⟨.initial, hinitial⟩ h).2
  refine ⟨hlive.websocket, ?_⟩
  intro sid ws hroute hdead hkept hrunning
  rcases haccounted.2 ws sid (.inl hroute) with hcurrent | htaken | htold | hfinished
  · have halive := hlive.websocket sid ws hcurrent
    rw [World.control_life, hdead] at halive
    cases halive
  · rw [hkept] at htaken
    cases htaken
  · exact htold
  · exact absurd hfinished hrunning

/-- Whether `_handle_exit` takes its first step in an event. -/
def Event.runsExit : Event → Bool
  | .exitRuns _ _ => true
  | _ => false

/-- If `_handle_exit` takes its first step, nobody holds the lock. -/
def FreeExit (w : World) (e : Event) : Prop := e.runsExit = true → w.holder = none

instance (w : World) (e : Event) : Decidable (FreeExit w e) :=
  inferInstanceAs (Decidable (_ → _))

/-- An exit while nobody holds the lock falls outside every attach. -/
theorem FreeExit.exitOutside (h : FreeExit w e) : ExitOutside w e := by
  rintro ⟨sid, code, ws, message, pc, rfl, -, hholder⟩
  rw [h rfl] at hholder
  cases hholder

/-- The process of a session with one client exits. -/
def exitedSession : World := (keySystem shellSettings).exec {}
  [.connect 0 .attach false, .ptyEof 0, .childExits 0, .exitRuns 0 (some 0)]

/-- The client of that run has been told of the exit. -/
theorem client_of_live_session_exited : (exitedSession.sessions 0).stream.Told 0 := by
  have hrun : Run (keySystem shellSettings) FreeExit {} exitedSession :=
    System.Valid.guardedRun _ (by decide)
  exact (client_of_live_session (hrun.mono fun _ _ => FreeExit.exitOutside)).2 0 0 (by decide)
    (by decide) (by decide) (by decide)

/-- The process exits while the attach of a second client waits for the writer of the first
one. -/
def deadAttachment : World := (keySystem shellSettings).exec {}
  [.connect 0 .attach false, .connect 1 .attach false, .ptyEof 0, .childExits 0,
    .exitRuns 0 (some 0), .writerCancelled 0 0 false, .resume, .resume]

/-- The second client stays attached to the dead session: no attach, detach or exit of it is in
progress. -/
theorem client_of_dead_session : ¬∀ (cfg : Settings) (w : World) (sid : SessionId) (ws : Ws),
    Reachable cfg w → ¬w.InProgress sid → (w.sessions sid).exitTask = .finished →
    (w.sessions sid).websocket = some ws → (w.sessions sid).alive = true := by
  intro h
  have hidle : ¬deadAttachment.InProgress 0 := by
    rintro (⟨c, hholder, -⟩ | ⟨k, hwaits⟩ | ⟨ws, task, hroute⟩)
    · cases hholder
    · cases hwaits
    · match ws with
      | 0 => cases hroute
      | 1 => cases hroute
      | n + 2 => cases hroute
  have halive := h shellSettings deadAttachment 0 1 (reachable_exec (by decide)) hidle (by decide)
    (by decide)
  exact absurd halive (by decide)

end WTerm
