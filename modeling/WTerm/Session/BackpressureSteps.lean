import Mathlib.Algebra.GroupWithZero.Nat
import WTerm.Session.Backpressure

/-!
# The steps of a session move its PTY reader

Every step of a session is a sequence of moves of its PTY reader: the frames count when they
are queued and when they are sent or discarded, and the rest of the writers does not occur
here.
-/

namespace WTerm

/-- The output in a sequence of frames, in bytes. -/
def queuedOutput (items : List Outbound) : ℕ := (items.map fun item => item.payload.size).sum

namespace Session

open Relation

variable (s : Session)

/-- The moves of a PTY reader, in sequence. -/
abbrev ReaderMoves : Reader → Reader → Prop := ReflTransGen Reader.Move

/-! ## Functions that leave the reader alone -/

@[simp]
theorem settle_reader (done : Option ℕ) (sent : Bool) :
    (s.settle done sent).reader = s.reader := by
  unfold settle
  split
  · rfl
  · split <;> rfl

@[simp]
theorem createFuture_reader : s.createFuture.reader = s.reader := rfl

@[simp]
theorem onWriter_reader (ws : Ws) (f : Writer → Writer) :
    (s.onWriter ws f).reader = s.reader := rfl

@[simp]
theorem recordSent_reader (ws : Ws) (item : Outbound) :
    (s.recordSent ws item).reader = s.reader := rfl

@[simp]
theorem forgetWriter_reader (ws : Ws) : (s.forgetWriter ws).reader = s.reader := by
  unfold forgetWriter
  split <;> rfl

@[simp]
theorem stopOutboundWriter_reader (ws : Ws) : (s.stopOutboundWriter ws).reader = s.reader := by
  unfold stopOutboundWriter
  split <;> rfl

@[simp]
theorem clearWebsocket_reader (now : Time) : (s.clearWebsocket now).reader = s.reader := rfl

@[simp]
theorem setWebsocket_reader (ws : Ws) : (s.setWebsocket ws).reader = s.reader := rfl

/-- Keeping output for later replays leaves the reader alone. -/
@[simp]
theorem keepOutput_reader (data : List UInt8) : (s.keepOutput data).reader = s.reader := by
  -- For any buffer, so that the kernel does not compute with the limit.
  have hbuffer (buffer out : List UInt8) :
      reader { s with buffer := buffer, out := out } = s.reader := rfl
  unfold keepOutput
  exact hbuffer _ _

/-! ## Functions that move the reader -/

@[simp]
theorem pausePtyReader_reader : s.pausePtyReader.reader = s.reader.pause := by
  unfold pausePtyReader Reader.pause
  cases hpaused : s.ptyReaderPaused
  · cases hfd : s.masterFd <;> simp [reader, hpaused, hfd]
  · simp [reader, hpaused]

@[simp]
theorem resumePtyReader_reader : s.resumePtyReader.reader = s.reader.resume := by
  unfold resumePtyReader Reader.resume
  cases hpaused : s.ptyReaderPaused
  · simp [reader, hpaused]
  · cases hlive : s.alive && !s.terminating
    · simp [reader, hpaused, hlive]
    · cases hfd : s.masterFd <;> simp [reader, hpaused, hlive, hfd]

/-- The check of the low watermark resumes the reader if the counter is at or below it. -/
theorem resumeAtLowWatermark_reader : s.resumeAtLowWatermark.reader =
    if s.outPendingBytes ≤ (outputLowWatermark : ℤ) then s.reader.resume else s.reader := by
  unfold resumeAtLowWatermark
  split
  · exact s.resumePtyReader_reader
  · rfl

/-- Sending or discarding output, and then checking the low watermark. -/
theorem release_resume_reader (n : ℕ) :
    ({ s with outPendingBytes := s.outPendingBytes - n } : Session).resumeAtLowWatermark.reader =
      s.reader.release n := by
  rw [resumeAtLowWatermark_reader]
  rfl

/-- A frame that is queued counts if it is output. -/
theorem countPending_moves (payload : Payload) :
    ReaderMoves s.reader (s.countPending payload).reader := by
  cases payload with
  | bytes data =>
    have harrive : (s.countPending (.bytes data)).reader = s.reader.arrive data.length := by
      unfold countPending Reader.arrive
      dsimp only
      split
      · next hhigh => exact (pausePtyReader_reader _).trans (if_pos hhigh).symm
      · next hhigh => exact (if_neg hhigh).symm
    rw [harrive]
    exact .single (.arrive _)
  | text message => exact .refl
  | close code reason => exact .refl

/-- `_enqueue_outbound` is a move, or nothing. -/
theorem enqueueOutbound_moves (item : Outbound) :
    ReaderMoves s.reader (s.enqueueOutbound item).reader := by
  unfold enqueueOutbound
  split
  · rw [settle_reader]
  · rw [onWriter_reader]
    exact s.countPending_moves item.payload

/-- `_queued_control` is a move, or nothing. -/
theorem queuedClose_moves (code : ℕ) (reason : String) :
    ReaderMoves s.reader (s.queuedClose code reason).reader := by
  unfold queuedClose
  split
  · exact .refl
  · exact s.createFuture.enqueueOutbound_moves _

/-- The end of a send is a move if its frame is output. -/
theorem releaseCurrent_moves (item : Outbound) (sent : Bool) :
    ReaderMoves s.reader (s.releaseCurrent item sent).reader := by
  unfold releaseCurrent
  split
  · rw [settle_reader, release_resume_reader]
    exact .single (.release _)
  · rw [settle_reader]

/-- Discarding a queue takes its output off the pending bytes. -/
theorem foldl_discard_reader (items : List Outbound) :
    (items.foldl discard s).reader =
      s.reader.setLevel (s.outPendingBytes - queuedOutput items) := by
  induction items generalizing s with
  | nil =>
    have hlevel : s.outPendingBytes - queuedOutput [] = s.outPendingBytes := by simp [queuedOutput]
    rw [hlevel]
    rfl
  | cons item rest ih =>
    have hpending : (s.discard item).outPendingBytes = s.outPendingBytes - item.payload.size := by
      have hreader := settle_reader
        { s with outPendingBytes := s.outPendingBytes - item.payload.size } item.done false
      exact congrArg (fun r : Reader => r.gate.level) hreader
    have hsetLevel (level : ℤ) : (s.discard item).reader.setLevel level =
        s.reader.setLevel level := by
      unfold discard
      rw [settle_reader]
      rfl
    have hsum : (queuedOutput (item :: rest) : ℤ) = item.payload.size + queuedOutput rest := by
      simp [queuedOutput]
    have hlevel : s.outPendingBytes - item.payload.size - queuedOutput rest =
        s.outPendingBytes - queuedOutput (item :: rest) := by omega
    rw [List.foldl_cons, ih, hpending, hsetLevel, hlevel]

/-- The end of a writer releases the output in its queue. -/
@[simp]
theorem finishWriter_reader (ws : Ws) :
    (s.finishWriter ws).reader = s.reader.release (queuedOutput (s.writers ws).queue) := by
  unfold finishWriter
  rw [onWriter_reader, forgetWriter_reader, resumeAtLowWatermark_reader, foldl_discard_reader]
  have hlevel := congrArg (fun r : Reader => r.gate.level)
    (s.foldl_discard_reader (s.writers ws).queue)
  rw [show ((s.writers ws).queue.foldl discard s).outPendingBytes =
    s.outPendingBytes - queuedOutput (s.writers ws).queue from hlevel]
  rfl

/-- The end of a writer is a move. -/
theorem finishWriter_moves (ws : Ws) : ReaderMoves s.reader (s.finishWriter ws).reader := by
  rw [finishWriter_reader]
  exact .single (.release _)

/-- The return of a send is a sequence of moves. -/
theorem writerSent_readerMoves (ws : Ws) : ReaderMoves s.reader (s.writerSent ws).reader := by
  unfold writerSent
  split
  · next item hsending =>
    have hrelease := (s.recordSent ws item).releaseCurrent_moves item true
    dsimp only
    split
    · exact hrelease.trans (finishWriter_moves _ ws)
    · exact hrelease
  · exact .refl

/-- The failure of a send is a sequence of moves. -/
theorem writerFailed_readerMoves (ws : Ws) (delivered : Bool) :
    ReaderMoves s.reader (s.writerFailed ws delivered).reader := by
  unfold writerFailed
  split
  · next item hsending =>
    cases delivered with
    | true =>
      exact ((s.recordSent ws item).releaseCurrent_moves item false).trans (finishWriter_moves _ ws)
    | false => exact (s.releaseCurrent_moves item false).trans (finishWriter_moves _ ws)
  · exact .refl

/-- The cancellation of a writer is a sequence of moves. -/
theorem writerCancelled_readerMoves (ws : Ws) (delivered : Bool) :
    ReaderMoves s.reader (s.writerCancelled ws delivered).reader := by
  unfold writerCancelled
  split
  · exact .refl
  · exact s.writerFailed_readerMoves ws delivered
  · exact s.finishWriter_moves ws

/-- A chunk of output is a move, or nothing. -/
theorem passOutput_readerMoves (data : List UInt8) :
    ReaderMoves s.reader (s.passOutput data).reader := by
  unfold passOutput
  dsimp only
  split
  · rw [← s.keepOutput_reader data]
    exact (s.keepOutput data).enqueueOutbound_moves _
  · rw [keepOutput_reader]

/-- The installation of a connection is a move, or nothing. -/
theorem install_readerMoves (ws : Ws) : ReaderMoves s.reader (s.install ws).reader := by
  unfold install sendReplay
  split
  · rw [setWebsocket_reader]
  · rw [← s.setWebsocket_reader ws]
    exact (s.setWebsocket ws).createFuture.enqueueOutbound_moves _

/-- The lifecycle of a session is over, and its PTY is closed. -/
theorem cleanupFd_reader (l : Lifecycle) (hdead : l.alive = false) :
    (cleanupFd { s with toLifecycle := l }).reader = s.reader.close := by
  unfold cleanupFd Reader.close
  dsimp only
  cases hfd : s.masterFd <;> simp [reader, hfd, hdead]

/-- `_handle_exit` is a sequence of moves. -/
theorem handleExit_readerMoves (now : Time) (code : Option ℤ) :
    ReaderMoves s.reader (s.handleExit now code).reader := by
  have htask (t : Session) (task : ExitTask) (hbegun : task ≠ .none) :
      ReaderMoves t.reader (reader { t with exitTask := task }) := by
    have heof : reader { t with exitTask := task } = { t.reader with seenEof := true } := by
      simp [reader, hbegun]
    rw [heof]
    exact .single .exitTask
  unfold handleExit
  split
  · exact htask s .finished nofun
  · have hclose : ReaderMoves s.reader (s.exitProcess.clearWebsocket now).reader := by
      have hsame : (s.exitProcess.clearWebsocket now).reader = s.reader.close :=
        s.cleanupFd_reader s.toLifecycle.exit rfl
      rw [hsame]
      exact .single .close
    have hbegun : (s.exitProcess.clearWebsocket now).exitWait now s.websocket (!s.terminating) ≠
        .none := by
      unfold exitWait
      split <;> nofun
    refine hclose.trans (.trans ?_ (htask _ _ hbegun))
    split
    · exact (enqueueOutbound_moves _ _).trans (queuedClose_moves _ _ _)
    · exact .refl

/-- Every step of a session is a sequence of moves of its reader. -/
theorem Step.readerMoves {now : Time} {s s' : Session} (h : Step now s s') :
    ReaderMoves s.reader s'.reader := by
  cases h with
  | lifecycle l websocket joined live =>
    cases hl : l.alive && !l.terminating
    · have hretire : reader { s with toLifecycle := l } = { s.reader with live := false } := by
        simp [reader, hl]
      rw [hretire]
      exact .single .retire
    · obtain ⟨halive, hnot⟩ := (Bool.and_eq_true _ _).mp hl
      obtain ⟨hwas, hwasNot⟩ := live halive (by simpa using hnot)
      have hsame : reader { s with toLifecycle := l } = s.reader := by
        simp [reader, hl, hwas, hwasNot]
      rw [hsame]
  | clear => exact .refl
  | status message => exact s.enqueueOutbound_moves _
  | close code reason => exact s.queuedClose_moves code reason
  | stop ws => rw [stopOutboundWriter_reader]
  | take ws waiting => exact .refl
  | sent ws => exact s.writerSent_readerMoves ws
  | failed ws delivered => exact s.writerFailed_readerMoves ws delivered
  | output data => exact s.passOutput_readerMoves data
  | eof =>
    have heof : s.ptyEof.reader =
        { s.reader with
          registered := s.reader.registered && !s.reader.masterFd
          seenEof := true } := by
      by_cases hbegun : s.exitTask = .none
      · simp [ptyEof, reader, hbegun]
      · simp [ptyEof, reader, hbegun]
    rw [heof]
    exact .single .eof
  | exitTask task begun =>
    have heof : reader { s with exitTask := task } = { s.reader with seenEof := true } := by
      simp [reader, begun]
    rw [heof]
    exact .single .exitTask
  | terminal s' same =>
    obtain ⟨hsame, hfd⟩ := same
    have hreader : s'.reader = s.reader := by
      rw [hsame]
      simp [reader, hfd]
    rw [hreader]
  | exit code => exact s.handleExit_readerMoves now code
  | endTerminate =>
    have hclose : s.endTerminate.reader = s.reader.close :=
      s.cleanupFd_reader s.toLifecycle.endTerminate rfl
    rw [hclose]
    exact .single .close

/-- A sequence of steps is a sequence of moves of the reader. -/
theorem Steps.readerMoves {now : Time} {s s' : Session} (h : Steps now s s') :
    ReaderMoves s.reader s'.reader := by
  induction h with
  | refl => exact .refl
  | tail _ hstep ih => exact ih.trans hstep.readerMoves

end Session

end WTerm
