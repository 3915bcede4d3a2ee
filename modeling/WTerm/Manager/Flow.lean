import WTerm.Manager.Streams
import WTerm.Session.Accounting

/-!
# Backpressure

The pending output of a session pauses its PTY reader. This file has the invariant of the
reader and the accounting of the pending output, for every session in every reachable state.
-/

namespace WTerm

open Transition Control Relation

variable {cfg : Settings} {w v : World} {e : Event} {sid : SessionId} {ws : Ws}

/-! ## The PTY reader -/

/-- The PTY readers of all sessions are sound. -/
def SoundReaders (w : World) : Prop := ∀ sid, (w.sessions sid).reader.Sound

/-- A session before anything happened to it has no PTY to read. -/
theorem Reader.sound_blank : Session.blank.reader.Sound where
  gate := nofun
  off := nofun
  opened := nofun
  reading := nofun

/-- The reader of a session that has just been spawned is sound: it reads the PTY. -/
theorem Reader.sound_spawn (now : Time) (idleSeconds : ℕ) :
    (Session.blank.spawn now idleSeconds).reader.Sound where
  gate _ := ⟨nofun, fun _ => (by decide : (0 : ℤ) < outputHighWatermark)⟩
  off _ := nofun
  opened _ := rfl
  reading _ _ := .inl rfl

/-- A change of one session that moves its reader moves all readers. -/
theorem readerMoves_on {sid : SessionId} {f : Session → Session}
    (hm : Session.ReaderMoves (w.sessions sid).reader (f (w.sessions sid)).reader)
    (sid' : SessionId) :
    Session.ReaderMoves (w.sessions sid').reader ((w.on sid f).sessions sid').reader := by
  by_cases hsid : sid' = sid
  · subst hsid
    simpa using hm
  · simpa [hsid] using ReflTransGen.refl

/-- A fine step moves every reader, except that of a session that it creates. -/
theorem World.Step.readers {l : Label} (hstep : World.Step cfg w l v) (sid : SessionId) :
    Session.ReaderMoves (w.sessions sid).reader (v.sessions sid).reader ∨
      (v.sessions sid).reader.Sound := by
  cases hstep with
  | rule control sessions notExit => exact .inl (Session.Steps.readerMoves (sessions sid))
  | quiet control sessions => exact .inl (Session.Steps.readerMoves (sessions sid))
  | install ws sid' message pc holder =>
    exact .inl (readerMoves_on (f := (·.install ws)) ((w.sessions sid').install_readerMoves ws) sid)
  | spawn ws message control =>
    by_cases hsid : sid = w.count
    · subst hsid
      rw [World.spawnSession_self]
      exact .inr (Reader.sound_spawn _ _)
    · rw [World.spawnSession_of_ne hsid]
      exact .inl .refl
  | cancelWriter sid' ws delivered requested unfinished =>
    exact .inl (readerMoves_on (f := (·.writerCancelled ws delivered))
      ((w.sessions sid').writerCancelled_readerMoves ws delivered) sid)
  | exit sid' code exists_ alive =>
    exact .inl (readerMoves_on (f := (·.handleExit w.now code))
      ((w.sessions sid').handleExit_readerMoves w.now code) sid)

/-- A fine step keeps all readers sound. -/
theorem SoundReaders.step {l : Label} (h : SoundReaders w) (hstep : World.Step cfg w l v) :
    SoundReaders v := by
  intro sid
  rcases hstep.readers sid with hm | hnew
  · exact (h sid).moves hm
  · exact hnew

/-- In every reachable state the PTY readers of all sessions are sound. -/
theorem ReachableIf.readers {cond : World → Event → Prop} (h : ReachableIf cfg cond w) :
    SoundReaders w := by
  have hkeeps : Keeps cfg (fun _ _ => True) SoundReaders :=
    fun _ _ _ _ hreaders hstep _ => hreaders.step hstep
  exact (hkeeps.run restricts_true ⟨.initial, fun _ => Reader.sound_blank⟩ h).2

/-- The PTY reader is consistent with its watermarks. -/
structure Session.Backpressure (s : Session) : Prop where
  /-- A paused reader is not registered, and more than the low watermark is pending. -/
  paused : s.masterFd = true → s.ptyReaderPaused = true →
    s.readerRegistered = false ∧ (outputLowWatermark : ℤ) < s.outPendingBytes
  /-- Without a pause less than the high watermark is pending. -/
  flowing : s.masterFd = true → s.ptyReaderPaused = false →
    s.outPendingBytes < (outputHighWatermark : ℤ)
  /-- A live session that has not seen the end of the file is read or paused. -/
  reading : s.masterFd = true → s.alive = true → s.terminating = false → s.exitTask = .none →
    s.readerRegistered = true ∨ s.ptyReaderPaused = true

/-- A chunk of output adds at most its length to the counter. -/
theorem Session.ptyData_outPendingBytes_le (s : Session) (now : Time) (data : List UInt8) :
    (s.ptyData now data).outPendingBytes ≤ s.outPendingBytes + data.length := by
  have hkept : ((s.touch now).keepOutput data).outPendingBytes = s.outPendingBytes :=
    outPendingBytes_of_reader (keepOutput_reader _ data)
  unfold ptyData passOutput
  dsimp only
  split
  · rw [enqueueOutbound_outPendingBytes, hkept]
    split
    · exact Int.le_refl _
    · omega
  · omega

/-- In every reachable state the PTY reader of every session is consistent with its watermarks,
and a chunk that is read leaves less than the high watermark and one chunk pending. -/
theorem backpressure (h : Reachable cfg w) (sid : SessionId) :
    (w.sessions sid).Backpressure ∧ ∀ data, (Event.ptyData sid data).Enabled w →
      ((Event.ptyData sid data).apply cfg w |>.sessions sid).outPendingBytes <
        ((outputHighWatermark + readChunk : ℕ) : ℤ) := by
  have hreader : (w.sessions sid).reader.Sound := ReachableIf.readers h sid
  constructor
  · constructor
    · intro hopen hpaused
      exact ⟨hreader.off hopen hpaused, (hreader.gate hopen).ofShut hpaused⟩
    · intro hopen hflowing
      exact (hreader.gate hopen).ofOpen hflowing
    · intro _ halive hnot htask
      exact hreader.reading (by simp [Session.reader, halive, hnot])
        (by simp [Session.reader, htask])
  · rintro data ⟨-, hregistered, hopen, -, hlength⟩
    have hbelow : (w.sessions sid).outPendingBytes < outputHighWatermark :=
      hreader.below_high hopen hregistered
    have hadded := (w.sessions sid).ptyData_outPendingBytes_le w.now data
    have hself : ((Event.ptyData sid data).apply cfg w).sessions sid =
        (w.sessions sid).ptyData w.now data := by simp [Event.apply]
    rw [hself]
    push_cast
    omega

/-- The program of a session writes, its client reads, and another client displaces it. -/
theorem backpressure_replayed : (replayedSession.sessions 0).Backpressure ∧
    ∀ data, (Event.ptyData 0 data).Enabled replayedSession →
      ((Event.ptyData 0 data).apply shellSettings replayedSession |>.sessions 0).outPendingBytes <
        ((outputHighWatermark + readChunk : ℕ) : ℤ) :=
  backpressure (reachable_exec (by decide : (keySystem shellSettings).Valid {} _)) 0

/-! ## The accounting -/

/-- The accounts of all sessions: their streams are sound, and their counters are balanced. -/
def BalancedSessions (w : World) : Prop :=
  SoundStreams w ∧ ∀ sid, (w.sessions sid).Balanced

/-- A session before anything happened to it has nothing pending. -/
theorem Session.balanced_blank : Session.blank.Balanced := Tally.Balanced.zero

/-- A connection that attaches for the first time has no writer yet. -/
theorem World.installs_fresh {message : String} {pc : AttachPc} (hs : Sound w)
    (hstreams : SoundStreams w) (hholder : w.holder = some (.attaching ws sid message pc)) :
    (w.sessions sid).writers ws = {} := by
  have hrole : w.control.role = some (.attaching ws sid) := by simp [hholder, Critical.role]
  have hfresh : (w.sessions sid).joined ws = false := by
    by_contra hjoined
    exact hs.sockets.joinedPending sid ws _ (by simpa using hjoined) hrole rfl
  exact ((hstreams sid).fresh ws hfresh).1

/-- A property of sessions that one of them keeps is kept by all. -/
theorem keeps_on {P : Session → Prop} {f : Session → Session} (h : ∀ sid, P (w.sessions sid))
    (hf : P (f (w.sessions sid))) (sid' : SessionId) : P ((w.on sid f).sessions sid') := by
  by_cases hsid : sid' = sid
  · subst hsid
    simpa using hf
  · simpa [hsid] using h sid'

/-- A fine step keeps all counters balanced. -/
theorem BalancedSessions.step {l : Label} (h : BalancedSessions w) (hs : Sound w)
    (hstep : World.Step cfg w l v) : BalancedSessions v := by
  refine ⟨h.1.step hs hstep, ?_⟩
  cases hstep with
  | rule control sessions notExit => exact fun sid => (h.2 sid).steps (sessions sid)
  | quiet control sessions => exact fun sid => (h.2 sid).steps (sessions sid)
  | install ws sid message pc holder =>
    exact keeps_on (f := (·.install ws)) h.2
      ((h.2 sid).install (World.installs_fresh hs h.1 holder))
  | spawn ws message control =>
    intro sid
    by_cases hsid : sid = w.count
    · subst hsid
      rw [World.spawnSession_self]
      exact Session.balanced_blank
    · rw [World.spawnSession_of_ne hsid]
      exact h.2 sid
  | cancelWriter sid ws delivered requested unfinished =>
    exact keeps_on h.2 ((h.2 sid).writerCancelled ws delivered)
  | exit sid code exists_ alive => exact keeps_on h.2 ((h.2 sid).handleExit w.now code)

/-- In every reachable state the counter of every session is the sum of what its writers hold,
those included whose task was cancelled before its first step. -/
theorem ReachableIf.balanced {cond : World → Event → Prop} (h : ReachableIf cfg cond w) :
    BalancedSessions w := by
  have hkeeps : Keeps cfg (fun _ _ => True) BalancedSessions :=
    fun _ _ _ hu hinv hstep _ => hinv.step hu hstep
  have hinitial : BalancedSessions {} :=
    ⟨fun _ => Stream.sound_blank, fun _ => Session.balanced_blank⟩
  exact (hkeeps.run restricts_true ⟨.initial, hinitial⟩ h).2

/-- A writer task is cancelled before its first step although its queue has output, or while its
connection is attached, so that its queue still gets output. -/
def Event.DropsOutput (w : World) (e : Event) : Prop :=
  ∃ sid ws delivered, e = .writerCancelled sid ws delivered ∧
    ((w.sessions sid).writers ws).pc = .created ∧
    ((w.sessions sid).websocket = some ws ∨ queuedOutput ((w.sessions sid).writers ws).queue ≠ 0)

/-- The runs in which no output is dropped with a writer that never took a step. -/
def NoOutputDropped (w : World) (e : Event) : Prop := ¬e.DropsOutput w

/-- A writer that never took a step is cancelled only if its queue has no output and gets none. -/
def CleanCancel (w : World) (l : Label) : Prop :=
  ∀ sid ws, l = .cancelWriter sid ws → ((w.sessions sid).writers ws).pc = .created →
    (w.sessions sid).websocket ≠ some ws ∧ queuedOutput ((w.sessions sid).writers ws).queue = 0

/-- The cancellations of such a run are clean. -/
theorem restricts_noOutputDropped : Restricts cfg NoOutputDropped CleanCancel := by
  rintro w e u l - hcond - horigin sid ws rfl hcreated
  obtain ⟨⟨delivered, rfl⟩, rfl⟩ := horigin
  constructor
  · intro hattached
    exact hcond ⟨sid, ws, delivered, rfl, hcreated, .inl hattached⟩
  · by_contra hqueued
    exact hcond ⟨sid, ws, delivered, rfl, hcreated, .inr hqueued⟩

/-- The queues of all sessions are clean. -/
def CleanSessions (w : World) : Prop :=
  SoundStreams w ∧ ∀ sid, (w.sessions sid).stream.Clean

/-- A session before anything happened to it has no queues. -/
theorem Stream.clean_blank : Session.blank.stream.Clean := ⟨nofun, nofun⟩

/-- A fine step whose cancellation is clean keeps all queues clean. -/
theorem CleanSessions.step {l : Label} (h : CleanSessions w) (hs : Sound w)
    (hstep : World.Step cfg w l v) (hallow : CleanCancel w l) : CleanSessions v := by
  refine ⟨h.1.step hs hstep, ?_⟩
  have hsteps {u : World} (hsessions : w.SessionsStep u) (sid : SessionId) :
      (u.sessions sid).stream.Clean := (hsessions sid).clean (h.2 sid) (h.1 sid)
  cases hstep with
  | rule control sessions notExit => exact hsteps sessions
  | quiet control sessions => exact hsteps sessions
  | install ws sid message pc holder =>
    exact keeps_on (P := fun s => s.stream.Clean) (f := (·.install ws)) h.2
      (Session.clean_install (h.2 sid) ws)
  | spawn ws message control =>
    intro sid
    by_cases hsid : sid = w.count
    · subst hsid
      rw [World.spawnSession_self]
      exact Stream.clean_blank
    · rw [World.spawnSession_of_ne hsid]
      exact h.2 sid
  | cancelWriter sid ws delivered requested unfinished =>
    exact keeps_on (P := fun s => s.stream.Clean) h.2
      (Session.clean_writerCancelled (h.2 sid) (h.1 sid).task ws delivered (hallow sid ws rfl))
  | exit sid code exists_ alive =>
    exact keeps_on (P := fun s => s.stream.Clean) h.2
      (Session.clean_handleExit (h.2 sid) w.now code)

/-- Unless output is dropped with a writer that never took a step, the counter of every session is
the sum of the output that its writers still have to send. -/
theorem pending_exact (h : ReachableIf cfg NoOutputDropped w) (sid : SessionId) :
    Tally.Balanced (w.sessions sid).outPendingBytes
        (fun ws => (((w.sessions sid).writers ws).pending : ℤ)) ∧
      ((∀ ws, ((w.sessions sid).writers ws).pending = 0) →
        (w.sessions sid).outPendingBytes = 0) := by
  have hclean : (w.sessions sid).stream.Clean := by
    have hkeeps : Keeps cfg CleanCancel CleanSessions :=
      fun _ _ _ hu hinv hstep hallow => hinv.step hu hstep hallow
    have hinitial : CleanSessions {} := ⟨fun _ => Stream.sound_blank, fun _ => Stream.clean_blank⟩
    exact (hkeeps.run restricts_noOutputDropped ⟨.initial, hinitial⟩ h).2.2 sid
  have hheld : Tally.Balanced (w.sessions sid).outPendingBytes
      fun ws => (((w.sessions sid).writers ws).held : ℤ) := (ReachableIf.balanced h).2 sid
  have hsame (ws : Ws) :
      ((w.sessions sid).writers ws).pending = ((w.sessions sid).writers ws).held := by
    unfold Writer.pending
    split
    · next hfinished =>
      have hempty : queuedOutput ((w.sessions sid).writers ws).queue = 0 :=
        hclean.ended ws hfinished
      rw [Writer.held, hfinished, hempty]
      rfl
    · rfl
  have hpending : Tally.Balanced (w.sessions sid).outPendingBytes
      fun ws => (((w.sessions sid).writers ws).pending : ℤ) :=
    hheld.congr fun ws => by rw [hsame]
  exact ⟨hpending, fun hnone => hpending.eq_zero fun ws => by rw [hnone ws]; rfl⟩

/-- The writer of the second client is cancelled before its first step, with output in its queue,
and the third client has got everything there is. -/
def leakedOutput : World := (keySystem shellSettings).exec {}
  [.connect 0 .attach false, .writerTakes 0 0, .leave 0, .writerCancelled 0 0 false,
    .detachResumes 0, .connect 1 .attach false, .ptyData 0 [65], .connect 2 .attach false,
    .writerCancelled 0 1 false, .resume, .resume, .writerTakes 0 2, .writerSent 0 2]

/-- No writer has output to send, but the counter is not zero. -/
theorem pending_leaked : ¬∀ (cfg : Settings) (w : World) (sid : SessionId), Reachable cfg w →
    (∀ ws, ((w.sessions sid).writers ws).pending = 0) → (w.sessions sid).outPendingBytes = 0 := by
  intro h
  have hnone (ws : Ws) : ((leakedOutput.sessions 0).writers ws).pending = 0 := by
    match ws with
    | 0 => decide
    | 1 => decide
    | 2 => decide
    | n + 3 => rfl
  have hzero := h shellSettings leakedOutput 0 (reachable_exec (by decide)) hnone
  exact absurd hzero (by decide)

/-- Whether an event cancels a writer whose task never took a step. -/
def Event.cancelsCreated (w : World) : Event → Bool
  | .writerCancelled sid ws _ => decide (((w.sessions sid).writers ws).pc = .created)
  | _ => false

/-- Without such a cancellation no output is dropped. -/
theorem noOutputDropped_of_cancelsCreated (h : e.cancelsCreated w = false) :
    NoOutputDropped w e := by
  rintro ⟨sid, ws, delivered, rfl, hcreated, -⟩
  simp [Event.cancelsCreated, hcreated] at h

/-- A client displaces another one whose writer waits for a frame. -/
def cleanDisplacement : World := (keySystem shellSettings).exec {}
  [.connect 0 .attach false, .writerTakes 0 0, .writerSent 0 0, .ptyData 0 [65], .writerTakes 0 0,
    .connect 1 .attach false, .writerCancelled 0 0 false, .resume, .resume]

/-- The pending output is exact in such a run. -/
theorem pending_exact_displaced :
    Tally.Balanced (cleanDisplacement.sessions 0).outPendingBytes
        (fun ws => (((cleanDisplacement.sessions 0).writers ws).pending : ℤ)) ∧
      ((∀ ws, ((cleanDisplacement.sessions 0).writers ws).pending = 0) →
        (cleanDisplacement.sessions 0).outPendingBytes = 0) := by
  have hrun : Run (keySystem shellSettings) (fun w e => e.cancelsCreated w = false) {}
      cleanDisplacement := System.Valid.guardedRun _ (by decide)
  exact pending_exact (hrun.mono fun _ _ => noOutputDropped_of_cancelsCreated) 0

end WTerm
