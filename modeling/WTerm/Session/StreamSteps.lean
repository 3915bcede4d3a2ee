import WTerm.Session.Stream

/-!
# The steps of a session move its stream

Every step of a session is a sequence of moves of its stream. The accounting functions do
not concern the stream, and the others do what their namesakes on streams do.
-/

namespace WTerm.Session

open Relation

variable (s : Session)

/-! ## Functions that leave the stream alone -/

@[simp]
theorem pausePtyReader_stream : s.pausePtyReader.stream = s.stream := by
  unfold pausePtyReader
  split <;> rfl

@[simp]
theorem resumePtyReader_stream : s.resumePtyReader.stream = s.stream := by
  unfold resumePtyReader
  split_ifs <;> rfl

@[simp]
theorem resumeAtLowWatermark_stream : s.resumeAtLowWatermark.stream = s.stream := by
  unfold resumeAtLowWatermark
  split <;> simp

@[simp]
theorem settle_stream (done : Option ℕ) (sent : Bool) :
    (s.settle done sent).stream = s.stream := by
  unfold settle
  split
  · rfl
  · split <;> rfl

@[simp]
theorem createFuture_stream : s.createFuture.stream = s.stream := rfl

@[simp]
theorem countPending_stream (payload : Payload) :
    (s.countPending payload).stream = s.stream := by
  cases payload with
  | bytes data =>
    unfold countPending
    dsimp only
    split
    · rw [pausePtyReader_stream]
      rfl
    · rfl
  | text message => rfl
  | close code reason => rfl

@[simp]
theorem discard_stream (item : Outbound) : (s.discard item).stream = s.stream := by
  unfold discard
  rw [settle_stream]
  rfl

@[simp]
theorem releaseCurrent_stream (item : Outbound) (sent : Bool) :
    (s.releaseCurrent item sent).stream = s.stream := by
  unfold releaseCurrent
  split
  · rw [settle_stream, resumeAtLowWatermark_stream]
    rfl
  · rw [settle_stream]

/-- Discarding a whole queue leaves the stream alone. -/
theorem foldl_discard_stream (items : List Outbound) :
    (items.foldl discard s).stream = s.stream := by
  induction items generalizing s with
  | nil => rfl
  | cons item rest ih => rw [List.foldl_cons, ih, discard_stream]

@[simp]
theorem cleanupFd_stream : s.cleanupFd.stream = s.stream := by
  unfold cleanupFd
  split <;> rfl

@[simp]
theorem exitProcess_stream : s.exitProcess.stream = s.stream := by
  have hclean := cleanupFd_stream { s with toLifecycle := s.toLifecycle.exit }
  exact hclean

@[simp]
theorem endTerminate_stream : s.endTerminate.stream = s.stream := by
  have hclean := cleanupFd_stream { s with toLifecycle := s.toLifecycle.endTerminate }
  exact hclean

@[simp]
theorem touch_stream (now : Time) : (s.touch now).stream = s.stream := rfl

/-! ## Functions that move the stream -/

@[simp]
theorem onWriter_stream (ws : Ws) (f : Writer → Writer) :
    (s.onWriter ws f).stream = s.stream.onWriter ws f := rfl

@[simp]
theorem enqueueOutbound_stream (item : Outbound) :
    (s.enqueueOutbound item).stream = s.stream.put item := by
  unfold enqueueOutbound Stream.put
  cases hqueue : s.outQueue with
  | none => simp [hqueue]
  | some q => simp [hqueue]

@[simp]
theorem sendStatus_stream (message : String) : (s.sendStatus message).stream =
    s.stream.put { payload := .text (.status message) } :=
  s.enqueueOutbound_stream _

@[simp]
theorem queuedClose_stream (code : ℕ) (reason : String) : (s.queuedClose code reason).stream =
    s.stream.put { payload := .close code reason, done := some s.nextFuture } := by
  unfold queuedClose
  cases hqueue : s.outQueue with
  | none => simp [Stream.put, hqueue]
  | some q => simp

@[simp]
theorem forgetWriter_stream (ws : Ws) : (s.forgetWriter ws).stream = s.stream.forget ws := by
  unfold forgetWriter Stream.forget
  rw [stream_outWriterTask]
  split <;> rfl

@[simp]
theorem finishWriter_stream (ws : Ws) : (s.finishWriter ws).stream = s.stream.finish ws [] := by
  simp [finishWriter, Stream.finish, foldl_discard_stream]

@[simp]
theorem setWebsocket_stream (ws : Ws) : (s.setWebsocket ws).stream = s.stream.install ws := rfl

@[simp]
theorem clearWebsocket_stream (now : Time) : (s.clearWebsocket now).stream = s.stream.clear := rfl

@[simp]
theorem keepOutput_stream (data : List UInt8) :
    (s.keepOutput data).stream = s.stream.keep bufferLimit data := by
  simp [keepOutput, Stream.keep, stream, Window.latest_eq_drop]

/-- The moves of a stream with the session's replay limit, in sequence. -/
abbrev Moves : Stream → Stream → Prop := ReflTransGen (Stream.Move bufferLimit)

/-- A writer that sends has been installed. -/
theorem used_of_sending {ws : Ws} {item : Outbound} (h : (s.writers ws).pc = .sending item) :
    s.stream.writers ws ≠ {} := by
  intro hempty
  rw [show s.writers ws = {} from hempty] at h
  cases h

/-- A writer's last record and its end are one change. -/
theorem finish_onWriter (t : Stream) (ws : Ws) (last : List Payload) :
    (t.onWriter ws fun w => { w with sent := w.sent ++ last }).finish ws [] = t.finish ws last := by
  unfold Stream.finish Stream.forget
  simp only [Stream.onWriter_outWriterTask]
  split <;> simp [Stream.onWriter]

/-- The return of a send is a move, or nothing if there was none. -/
theorem writerSent_moves (ws : Ws) : Moves s.stream (s.writerSent ws).stream := by
  unfold writerSent
  split
  · next item hsending =>
    dsimp only
    split
    · next code reason hclose =>
      rw [finishWriter_stream, releaseCurrent_stream, recordSent, onWriter_stream,
        finish_onWriter s.stream ws [item.payload]]
      exact .single (.finish ws _ (s.used_of_sending hsending) (.inr ⟨item, hsending, rfl⟩))
    · next hopen =>
      have hnotClose : item.payload.isClose = false := by
        cases hpayload : item.payload with
        | close code reason => exact absurd hpayload (hopen code reason)
        | _ => rfl
      rw [onWriter_stream, releaseCurrent_stream, recordSent, onWriter_stream]
      have hmove : Stream.Move bufferLimit s.stream _ := .sent ws item hsending hnotClose
      simpa [Stream.onWriter] using ReflTransGen.single hmove
  · exact .refl

/-- The failure of a send is a move, or nothing if there was none. -/
theorem writerFailed_moves (ws : Ws) (delivered : Bool) :
    Moves s.stream (s.writerFailed ws delivered).stream := by
  unfold writerFailed
  split
  · next item hsending =>
    rw [finishWriter_stream, releaseCurrent_stream]
    cases delivered with
    | true =>
      rw [if_pos rfl, recordSent, onWriter_stream, finish_onWriter s.stream ws [item.payload]]
      exact .single (.finish ws _ (s.used_of_sending hsending) (.inr ⟨item, hsending, rfl⟩))
    | false => exact .single (.finish ws _ (s.used_of_sending hsending) (.inl rfl))
  · exact .refl

/-- The cancellation of a writer is a move. -/
theorem writerCancelled_moves {ws : Ws} (delivered : Bool)
    (hrequested : (s.writers ws).cancelRequested = true) :
    Moves s.stream (s.writerCancelled ws delivered).stream := by
  have hused : s.stream.writers ws ≠ {} := by
    intro hempty
    rw [show s.writers ws = {} from hempty] at hrequested
    cases hrequested
  unfold writerCancelled
  split
  · next hcreated => exact .single (.drop ws hcreated)
  · exact s.writerFailed_moves ws delivered
  · rw [finishWriter_stream]
    exact .single (.finish ws [] hused (.inl rfl))

/-- `_stop_outbound_writer` is a move, or nothing if the writer is another one's. -/
theorem stopOutboundWriter_moves (ws : Ws) :
    Moves s.stream (s.stopOutboundWriter ws).stream := by
  unfold stopOutboundWriter
  split
  · exact .refl
  · next task htask =>
    have hcurrent : s.outWriterTask = some task := by
      unfold stopTask at htask
      split at htask
      · exact htask
      · cases htask
    exact .single (.cancel task hcurrent)

/-- Keeping output leaves the attached connection alone. -/
theorem keepOutput_websocket (data : List UInt8) :
    (s.keepOutput data).websocket = s.websocket := by
  -- For any buffer, so that the kernel does not compute with the limit.
  have hbuffer (buffer out : List UInt8) :
      ({ s with buffer := buffer, out := out } : Session).websocket = s.websocket := rfl
  unfold keepOutput
  exact hbuffer _ _

/-- A chunk of output is a move. -/
theorem passOutput_moves (data : List UInt8) : Moves s.stream (s.passOutput data).stream := by
  unfold passOutput
  dsimp only
  rw [keepOutput_websocket]
  split
  · next hattached =>
    rw [enqueueOutbound_stream, keepOutput_stream]
    exact .single (.output data (Option.isSome_iff_ne_none.mp hattached))
  · next haway =>
    rw [keepOutput_stream]
    exact .single (.keep data (Option.not_isSome_iff_eq_none.mp haway))

/-- The installation of a new connection is a move. -/
theorem install_moves {ws : Ws} (hfresh : s.joined ws = false) :
    Moves s.stream (s.install ws).stream := by
  unfold install sendReplay
  split
  · next hempty => exact .single (.install ws hfresh hempty)
  · rw [enqueueOutbound_stream, createFuture_stream, setWebsocket_stream]
    exact .single (.replay ws _ hfresh)

/-- The exit message and the close frame go to the current queue. -/
theorem announceExit_stream (code : Option ℤ) : (s.announceExit code).stream =
    (s.stream.put { payload := .text (.exit code) }).put
      { payload := .close exitCloseCode "세션이 종료됨",
        done := some (s.enqueueOutbound { payload := .text (.exit code) }).nextFuture } := by
  rw [announceExit, queuedClose_stream, enqueueOutbound_stream]

/-- The exit message and the close frame are two moves, once `websocket` is cleared. -/
theorem announceExit_moves (code : Option ℤ) (hclear : s.websocket = none) :
    Moves s.stream (s.announceExit code).stream := by
  rw [announceExit_stream]
  have hexit : Stream.Move bufferLimit s.stream _ :=
    .put { payload := .text (.exit code) } rfl (fun _ => hclear) nofun
  refine (ReflTransGen.single hexit).tail (.put _ rfl nofun fun code' reason hclose => ?_)
  obtain ⟨rfl, -⟩ := Payload.close.inj hclose
  decide

/-- `_handle_exit` is a sequence of moves. -/
theorem handleExit_moves (now : Time) (code : Option ℤ) :
    Moves s.stream (s.handleExit now code).stream := by
  unfold handleExit
  split
  · exact .refl
  · dsimp only
    have hclear : Moves s.stream (s.exitProcess.clearWebsocket now).stream := by
      rw [clearWebsocket_stream, exitProcess_stream]
      exact .single .clear
    split
    · exact hclear.trans (announceExit_moves _ code rfl)
    · exact hclear

/-- The natural exit puts the exit message and the close frame in the queue of the attached
connection, unless its writer has ended. -/
theorem handleExit_over {ws : Ws} (h : s.stream.Sound bufferLimit) (now : Time)
    (code : Option ℤ) (halive : s.alive = true) (hattached : s.websocket = some ws) :
    (s.handleExit now code).stream.Over ws := by
  have hstream : ∃ done, (s.handleExit now code).stream =
      (s.stream.clear.put { payload := .text (.exit code) }).put
        { payload := .close exitCloseCode "세션이 종료됨", done := done } := by
    unfold handleExit
    simp only [halive, hattached, Bool.not_true, Bool.false_eq_true, if_false, Option.isSome_some,
      if_true]
    have hannounce := (s.exitProcess.clearWebsocket now).announceExit_stream code
    rw [clearWebsocket_stream, exitProcess_stream] at hannounce
    exact ⟨_, hannounce⟩
  obtain ⟨done, hstream⟩ := hstream
  rw [hstream]
  rcases h.queue ws hattached with hqueue | ⟨hnone, hfinished⟩
  · have hqueue' : s.outQueue = some ws := hqueue
    refine .inl ⟨⟨code, ?_⟩, "세션이 종료됨", ?_⟩
    · simp [hqueue', Writer.put]
    · simp [hqueue', Writer.put]
  · have hnone' : s.outQueue = none := hnone
    exact .inr (by simpa [hnone'] using hfinished)

/-- Every step of a session is a sequence of moves. -/
theorem Step.moves {now : Time} {s s' : Session} (h : Step now s s') :
    Moves s.stream s'.stream := by
  cases h with
  | lifecycle l websocket joined live =>
    have hsame : Session.stream { s with toLifecycle := l } = s.stream := by
      simp [stream, websocket, joined]
    rw [hsame]
  | clear => exact .single .clear
  | status message =>
    rw [sendStatus_stream]
    exact .single (.put _ rfl nofun nofun)
  | close code reason known =>
    rw [queuedClose_stream]
    refine .single (.put _ rfl nofun fun code' reason' hclose => ?_)
    obtain ⟨rfl, -⟩ := Payload.close.inj hclose
    exact known
  | stop ws => exact s.stopOutboundWriter_moves ws
  | take ws waiting => exact .single (.take ws waiting)
  | sent ws => exact s.writerSent_moves ws
  | failed ws delivered => exact s.writerFailed_moves ws delivered
  | output data => exact s.passOutput_moves data
  | eof => exact .refl
  | exitTask task begun => exact .refl
  | terminal s' same =>
    rw [same.1]
    exact .refl
  | exit code => exact s.handleExit_moves now code
  | endTerminate =>
    rw [endTerminate_stream]

/-- A sequence of steps is a sequence of moves. -/
theorem Steps.moves {now : Time} {s s' : Session} (h : Steps now s s') :
    Moves s.stream s'.stream := by
  induction h with
  | refl => exact .refl
  | tail _ hstep ih => exact ih.trans hstep.moves

end WTerm.Session
