import WTerm.Manager.OneProcess
import WTerm.Session.StreamSteps

/-!
# The output of a session reaches its connections in one stream

The invariant of the streams holds for every session in every reachable state: each
connection is installed at most once, so every installation is a move of its stream.
-/

namespace WTerm

open Transition Relation

variable {cfg : Settings} {w v : World}

/-- The stream of a session before anything happened to it is sound. -/
theorem Stream.sound_blank : Session.blank.stream.Sound bufferLimit where
  fresh _ _ := ⟨rfl, rfl, rfl, nofun, nofun⟩
  marked _ := nofun
  task := rfl
  owner := rfl
  buffer := (Window.latest_nil bufferLimit).symm
  queue _ := nofun
  current _ := nofun
  attached _ hinstalled := absurd rfl hinstalled
  installed _ _ := nofun
  removed _ _ := nofun
  fifo _ := Writer.fifo_absent
  full _ _ := nofun
  carried _ _ := nofun
  whole _ _ := nofun
  codes _ _ _ := nofun
  told _ _ := nofun
  exitLast _ pre p post h _ := by
    have : ([] : List Payload) = pre ++ p :: post := h
    simp at this

/-- The streams of all sessions are sound. -/
def SoundStreams (w : World) : Prop := ∀ sid, (w.sessions sid).stream.Sound bufferLimit

/-- A change of one session that moves its stream moves all streams. -/
theorem moves_on {sid : SessionId} {f : Session → Session}
    (hm : Session.Moves (w.sessions sid).stream (f (w.sessions sid)).stream) (sid' : SessionId) :
    Session.Moves (w.sessions sid').stream ((w.on sid f).sessions sid').stream := by
  by_cases hsid : sid' = sid
  · subst hsid
    simpa using hm
  · simpa [hsid] using ReflTransGen.refl

/-- A fine step moves every stream, except that of a session that it creates. -/
theorem World.Step.streams {l : Control.Label} (hs : Sound w) (hstep : World.Step cfg w l v)
    (sid : SessionId) : Session.Moves (w.sessions sid).stream (v.sessions sid).stream ∨
      sid = w.count ∧ (v.sessions sid).stream = Session.blank.stream := by
  cases hstep with
  | rule control sessions notExit => exact .inl (Session.Steps.moves (sessions sid))
  | quiet control sessions => exact .inl (Session.Steps.moves (sessions sid))
  | install ws sid' message pc holder =>
    have hrole : w.control.role = some (.attaching ws sid') := by simp [holder, Critical.role]
    have hfresh : (w.sessions sid').joined ws = false := by
      by_contra hjoined
      exact hs.sockets.joinedPending sid' ws _ (by simpa using hjoined) hrole rfl
    exact .inl (moves_on (f := (·.install ws)) ((w.sessions sid').install_moves hfresh) sid)
  | spawn ws message control =>
    by_cases hsid : sid = w.count
    · subst hsid
      exact .inr ⟨rfl, by rw [World.spawnSession_self]; rfl⟩
    · rw [World.spawnSession_of_ne hsid]
      exact .inl .refl
  | cancelWriter sid' ws delivered requested unfinished =>
    exact .inl (moves_on (f := (·.writerCancelled ws delivered))
      ((w.sessions sid').writerCancelled_moves delivered requested) sid)
  | exit sid' code exists_ alive =>
    exact .inl (moves_on (f := (·.handleExit w.now code))
      ((w.sessions sid').handleExit_moves w.now code) sid)

/-- A fine step keeps all streams sound. -/
theorem SoundStreams.step {l : Control.Label} (h : SoundStreams w) (hs : Sound w)
    (hstep : World.Step cfg w l v) : SoundStreams v := by
  intro sid
  rcases hstep.streams hs sid with hm | ⟨-, hblank⟩
  · exact (h sid).moves hm
  · rw [hblank]
    exact Stream.sound_blank

/-- In every reachable state the streams of all sessions are sound. -/
theorem ReachableIf.streams {cond : World → Event → Prop} (h : ReachableIf cfg cond w) :
    SoundStreams w := by
  have hkeeps : Keeps cfg (fun _ _ => True) SoundStreams :=
    fun _ _ _ hu hstreams hstep _ => hstreams.step hu hstep
  exact (hkeeps.run restricts_true ⟨.initial, fun _ => Stream.sound_blank⟩ h).2

/-- The frames sent to a connection are one stream without a gap. -/
structure Session.Gapless (s : Session) (ws : Ws) : Prop where
  /-- A connection that was never installed gets nothing. -/
  absent : s.installedAt ws = none → (s.writers ws).sent = []
  /-- The bytes are a first part of the output from the replay on, up to the moment at which
  the connection stopped being `websocket`. -/
  output : ∀ t, s.installedAt ws = some t → outputOf (s.writers ws).sent <+:
    Window.slice s.out (t - min t bufferLimit) ((s.removedAt ws).getD s.out.length)
  /-- Once the writer waits and its queue is empty, the bytes are the whole of it. -/
  complete : ∀ t, s.installedAt ws = some t → (s.writers ws).pc.Waiting →
    (s.writers ws).queue = [] → outputOf (s.writers ws).sent =
      Window.slice s.out (t - min t bufferLimit) ((s.removedAt ws).getD s.out.length)
  /-- Frames are sent in the order in which they were put in the queue. -/
  order : (s.writers ws).sent <+: (s.writers ws).accepted
  /-- No output is put in the queue after the exit message. -/
  exitLast : ∀ pre p post, (s.writers ws).accepted = pre ++ p :: post → p.isExit = true →
    outputOf post = []
  /-- Nothing is sent after a close frame. -/
  closeLast : ∀ pre p post, (s.writers ws).sent = pre ++ p :: post → p.isClose = true →
    post = []

/-- Replay and live output form one stream without a gap, for every connection of every
session in every reachable state. -/
theorem sent_gapless (h : Reachable cfg w) (sid : SessionId) (ws : Ws) :
    (w.sessions sid).Gapless ws := by
  have hstream := ReachableIf.streams h sid
  have hsent := (hstream.fifo ws).sent_first
  constructor
  · intro hnone
    have hfresh : (w.sessions sid).joined ws = false := by
      by_contra hjoined
      exact hstream.marked ws (by simpa using hjoined) hnone
    have hwriter : (w.sessions sid).writers ws = {} := (hstream.fresh ws hfresh).1
    rw [hwriter]
  · intro t ht
    exact (outputOf_mono hsent).trans (hstream.carried ws t ht)
  · intro t ht hwaiting hempty
    have haccepted : ((w.sessions sid).writers ws).accepted = ((w.sessions sid).writers ws).sent :=
      (hstream.fifo ws).sent_all hwaiting hempty
    have hrunning : ((w.sessions sid).writers ws).pc ≠ .finished := by
      intro hfinished
      rw [hfinished] at hwaiting
      exact hwaiting
    rw [← haccepted]
    exact hstream.whole ws t ht hrunning
  · exact hsent
  · exact hstream.exitLast ws
  · intro pre p post
    exact (hstream.fifo ws).close_last

/-- A second client gets a replay and live output, and the process exits. -/
def replayedSession : World := (keySystem shellSettings).exec {}
  [.connect 0 .attach false, .ptyData 0 [65, 66], .connect 1 .attach false,
    .writerCancelled 0 0 false, .resume, .resume, .ptyData 0 [67], .writerTakes 0 1,
    .writerSent 0 1, .resume, .writerTakes 0 1, .writerSent 0 1, .ptyEof 0, .childExits 0,
    .exitRuns 0 (some 0), .writerTakes 0 1, .writerSent 0 1]

/-- The second client of that run was sent the replay and what followed it. -/
theorem sent_gapless_replayed : (replayedSession.sessions 0).Gapless 1 :=
  sent_gapless (reachable_exec (by decide : (keySystem shellSettings).Valid {} _)) 0 1

/-- It was sent the replay, the output after it and the status message. -/
example : ((replayedSession.sessions 0).writers 1).sent =
    [.bytes [65, 66], .bytes [67], .text (.status reattachMessage)] := by rfl

end WTerm
