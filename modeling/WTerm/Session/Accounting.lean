import WTerm.Lib.Tally
import WTerm.Session.BackpressureSteps
import WTerm.Session.StreamSteps

/-!
# The accounting of the pending output

`_out_pending_bytes` is shared by all writers of a session. It is the sum of what they hold,
where a writer whose task was cancelled before its first step goes on holding its queue.
-/

namespace WTerm

/-- The output in the frame that a writer is sending. -/
def WriterPc.inFlight : WriterPc → ℕ
  | .sending item => item.payload.size
  | _ => 0

@[simp]
theorem WriterPc.inFlight_sending (item : Outbound) :
    (WriterPc.sending item).inFlight = item.payload.size := rfl

/-- The output in the queue and in flight of a writer, also of one that has ended. -/
def Writer.held (w : Writer) : ℕ := w.pc.inFlight + queuedOutput w.queue

/-- The output that a writer still has to send; one that has ended sends nothing. -/
def Writer.pending (w : Writer) : ℕ := if w.pc = .finished then 0 else w.held

@[simp]
theorem queuedOutput_nil : queuedOutput [] = 0 := rfl

@[simp]
theorem queuedOutput_cons (item : Outbound) (items : List Outbound) :
    queuedOutput (item :: items) = item.payload.size + queuedOutput items := by
  simp [queuedOutput]

@[simp]
theorem queuedOutput_append (items rest : List Outbound) :
    queuedOutput (items ++ rest) = queuedOutput items + queuedOutput rest := by
  simp [queuedOutput]

namespace Writer

/-- Putting a frame in the queue adds its output to what the writer holds. -/
@[simp]
theorem put_held (w : Writer) (item : Outbound) :
    (w.put item).held = w.held + item.payload.size := by
  simp [put, held, Nat.add_assoc]

@[simp]
theorem cancel_held (w : Writer) : w.cancel.held = w.held := by
  unfold cancel
  split <;> rfl

@[simp]
theorem cancel_pc (w : Writer) : w.cancel.pc = w.pc := by
  unfold cancel
  split <;> rfl

@[simp]
theorem cancel_queue (w : Writer) : w.cancel.queue = w.queue := by
  unfold cancel
  split <;> rfl

/-- A writer that takes a frame has not ended. -/
theorem take_pc_ne (w : Writer) : w.take.pc ≠ .finished := by
  unfold take
  split <;> nofun

/-- A frame that is taken from the queue is in flight. -/
theorem take_held (w : Writer) (hwaiting : w.pc.Waiting) : w.take.held = w.held := by
  have hidle : w.pc.inFlight = 0 := by
    cases hpc : w.pc with
    | sending item =>
      rw [hpc] at hwaiting
      cases hwaiting
    | _ => rfl
  unfold take held
  split
  · next hqueue =>
    rw [hidle, hqueue]
    rfl
  · next item rest hqueue =>
    rw [hidle, hqueue, WriterPc.inFlight_sending, queuedOutput_cons, Nat.zero_add]

end Writer

/-- The end of a writer changes this writer only. -/
theorem Stream.finish_writers_of_ne (s : Stream) {ws ws' : Ws} (last : List Payload)
    (hne : ws' ≠ ws) : (s.finish ws last).writers ws' = s.writers ws' := by
  unfold finish forget
  rw [onWriter_writers, Function.update_of_ne hne]
  split <;> rfl

/-- A writer that has ended holds nothing. -/
theorem Stream.finish_held (s : Stream) (ws : Ws) (last : List Payload) :
    ((s.finish ws last).writers ws).held = 0 := by
  unfold finish
  rw [onWriter_writers, Function.update_self]
  rfl

namespace Session

variable (s : Session)

/-! ## The counter -/

/-- Sessions with the same reader have the same counter. -/
theorem outPendingBytes_of_reader {s s' : Session} (h : s'.reader = s.reader) :
    s'.outPendingBytes = s.outPendingBytes :=
  congrArg (fun r : Reader => r.gate.level) h

/-- Pausing the reader leaves the counter alone. -/
theorem pausePtyReader_outPendingBytes : s.pausePtyReader.outPendingBytes = s.outPendingBytes := by
  unfold pausePtyReader
  split <;> rfl

/-- Resuming the reader leaves the counter alone. -/
theorem resumeAtLowWatermark_outPendingBytes :
    s.resumeAtLowWatermark.outPendingBytes = s.outPendingBytes := by
  unfold resumeAtLowWatermark resumePtyReader
  split_ifs <;> rfl

/-- A frame that is queued adds its output to the counter. -/
theorem countPending_outPendingBytes (payload : Payload) :
    (s.countPending payload).outPendingBytes = s.outPendingBytes + payload.size := by
  cases payload with
  | bytes data =>
    unfold countPending
    dsimp only
    split
    · rw [pausePtyReader_outPendingBytes]
      rfl
    · rfl
  | text message => simp [countPending, Payload.size]
  | close code reason => simp [countPending, Payload.size]

/-- Without a queue nothing is added to the counter. -/
theorem enqueueOutbound_outPendingBytes (item : Outbound) :
    (s.enqueueOutbound item).outPendingBytes =
      if s.outQueue.isSome then s.outPendingBytes + item.payload.size else s.outPendingBytes := by
  unfold enqueueOutbound
  split
  · next hnone =>
    rw [outPendingBytes_of_reader (settle_reader _ _ _), hnone]
    rfl
  · next q hqueue =>
    rw [outPendingBytes_of_reader (onWriter_reader _ _ _), countPending_outPendingBytes, hqueue]
    rfl

/-- The end of a send takes its output off the counter. -/
theorem releaseCurrent_outPendingBytes (item : Outbound) (sent : Bool) :
    (s.releaseCurrent item sent).outPendingBytes = s.outPendingBytes - item.payload.size := by
  unfold releaseCurrent
  split
  · next data hpayload =>
    rw [outPendingBytes_of_reader (settle_reader _ _ _), resumeAtLowWatermark_outPendingBytes,
      hpayload]
    rfl
  · next hcontrol =>
    have hnone : item.payload.size = 0 := by
      cases hpayload : item.payload with
      | bytes data => exact absurd hpayload (hcontrol data)
      | _ => rfl
    rw [outPendingBytes_of_reader (settle_reader _ _ _), hnone]
    simp

/-- The end of a writer takes the output in its queue off the counter. -/
theorem finishWriter_outPendingBytes (ws : Ws) :
    (s.finishWriter ws).outPendingBytes =
      s.outPendingBytes - queuedOutput (s.writers ws).queue := by
  have hlevel : (s.finishWriter ws).outPendingBytes = _ :=
    congrArg (fun r : Reader => r.gate.level) (s.finishWriter_reader ws)
  rw [hlevel, Reader.release_gate]
  rfl

/-- Closing the PTY leaves the counter alone. -/
theorem cleanupFd_outPendingBytes : s.cleanupFd.outPendingBytes = s.outPendingBytes := by
  unfold cleanupFd
  split <;> rfl

/-! ## The balance -/

/-- The counter is the sum of what the writers hold. -/
def Balanced (s : Session) : Prop :=
  Tally.Balanced s.outPendingBytes fun ws => ((s.writers ws).held : ℤ)

variable {s} {s' : Session} {ws : Ws}

/-- A change of one writer that the counter follows keeps the balance. -/
theorem Balanced.change (h : s.Balanced) (ws : Ws)
    (hothers : ∀ ws', ws' ≠ ws → s'.stream.writers ws' = s.stream.writers ws')
    (hcounter : s'.outPendingBytes =
      s.outPendingBytes + ((s'.stream.writers ws).held - (s.stream.writers ws).held)) :
    s'.Balanced := by
  refine Tally.Balanced.update h ws (fun ws' hne => ?_) hcounter
  have hsame := hothers ws' hne
  simpa using congrArg (fun w : Writer => (w.held : ℤ)) hsame

/-- Sessions with the same writers and the same counter are balanced alike. -/
theorem Balanced.same (h : s.Balanced) (hwriters : s'.stream.writers = s.stream.writers)
    (hcounter : s'.outPendingBytes = s.outPendingBytes) : s'.Balanced := by
  refine h.change 0 (fun ws' _ => congrFun hwriters ws') ?_
  rw [hwriters, hcounter]
  simp

/-- `_enqueue_outbound` adds a frame's size both to its queue and to the counter. -/
theorem Balanced.enqueueOutbound (h : s.Balanced) (item : Outbound) :
    (s.enqueueOutbound item).Balanced := by
  unfold Session.enqueueOutbound
  split
  · exact h.same (by rw [settle_stream]) (outPendingBytes_of_reader (settle_reader _ _ _))
  · next q hqueue =>
    refine h.change q (fun ws' hne => ?_) ?_
    · rw [onWriter_stream, countPending_stream]
      simp [hne]
    · rw [outPendingBytes_of_reader (onWriter_reader _ _ _), countPending_outPendingBytes,
        onWriter_stream, countPending_stream]
      simp

/-- `_queued_control`, which puts the close frame, keeps the counter balanced. -/
theorem Balanced.queuedClose (h : s.Balanced) (code : ℕ) (reason : String) :
    (s.queuedClose code reason).Balanced := by
  unfold Session.queuedClose
  split
  · exact h
  · have hfuture : s.createFuture.Balanced := h
    exact hfuture.enqueueOutbound _

/-- A change of one writer that leaves what it holds alone keeps the balance. -/
theorem Balanced.onWriter (h : s.Balanced) (ws : Ws) {f : Writer → Writer}
    (hheld : (f (s.writers ws)).held = (s.writers ws).held) : (s.onWriter ws f).Balanced := by
  refine h.change ws (fun ws' hne => ?_) ?_
  · rw [onWriter_stream]
    simp [hne]
  · rw [outPendingBytes_of_reader (onWriter_reader _ _ _), onWriter_stream]
    simp [hheld]

/-- Recording a frame as sent keeps the balance. -/
theorem Balanced.recordSent (h : s.Balanced) (ws : Ws) (item : Outbound) :
    (s.recordSent ws item).Balanced :=
  h.onWriter ws rfl

/-- The program counter of a writer stays when a frame is recorded as sent. -/
theorem recordSent_pc (s : Session) (ws : Ws) (item : Outbound) :
    ((s.recordSent ws item).writers ws).pc = (s.writers ws).pc := by
  simp [Session.recordSent, Session.onWriter]

/-- A frame that was sent is held by nobody any more. -/
theorem Balanced.release {item : Outbound} (h : s.Balanced) (sent : Bool)
    (hsending : (s.writers ws).pc = .sending item) :
    ((s.releaseCurrent item sent).onWriter ws fun w => { w with pc := .getting }).Balanced := by
  refine h.change ws (fun ws' hne => ?_) ?_
  · rw [onWriter_stream, releaseCurrent_stream]
    simp [hne]
  · have hheld :
        ((s.writers ws).held : ℤ) = item.payload.size + queuedOutput (s.writers ws).queue := by
      simp [Writer.held, hsending]
    have hidle : ({ s.writers ws with pc := .getting } : Writer).held =
        queuedOutput (s.writers ws).queue := Nat.zero_add _
    rw [outPendingBytes_of_reader (onWriter_reader _ _ _), releaseCurrent_outPendingBytes,
      onWriter_stream, releaseCurrent_stream, Stream.onWriter_writers, Function.update_self,
      stream_writers, hheld, hidle]
    omega

/-- A writer that ends without a frame in flight keeps the balance. -/
theorem Balanced.finishWriter (h : s.Balanced) (ws : Ws) (hidle : (s.writers ws).pc.inFlight = 0) :
    (s.finishWriter ws).Balanced := by
  refine h.change ws (fun ws' hne => ?_) ?_
  · rw [finishWriter_stream, Stream.finish_writers_of_ne _ _ hne]
  · have hheld : (s.writers ws).held = queuedOutput (s.writers ws).queue := by
      rw [Writer.held, hidle, Nat.zero_add]
    rw [finishWriter_outPendingBytes, finishWriter_stream, Stream.finish_held,
      stream_writers, hheld]
    omega

/-- A writer that ends after its last send keeps the balance. -/
theorem Balanced.releaseFinish {item : Outbound} (h : s.Balanced) (sent : Bool)
    (hsending : (s.writers ws).pc = .sending item) :
    ((s.releaseCurrent item sent).finishWriter ws).Balanced := by
  have hwriters : (s.releaseCurrent item sent).writers = s.writers :=
    congrArg Stream.writers (s.releaseCurrent_stream item sent)
  refine h.change ws (fun ws' hne => ?_) ?_
  · rw [finishWriter_stream, Stream.finish_writers_of_ne _ _ hne, releaseCurrent_stream]
  · have hheld : (s.writers ws).held = item.payload.size + queuedOutput (s.writers ws).queue := by
      rw [Writer.held, hsending, WriterPc.inFlight_sending]
    rw [finishWriter_outPendingBytes, releaseCurrent_outPendingBytes, hwriters, finishWriter_stream,
      Stream.finish_held, stream_writers, hheld]
    omega

/-- The return of a send keeps the balance. -/
theorem Balanced.writerSent (h : s.Balanced) (ws : Ws) : (s.writerSent ws).Balanced := by
  unfold Session.writerSent
  split
  · next item hsending =>
    have hrecorded := h.recordSent ws item
    have hsending' : ((s.recordSent ws item).writers ws).pc = .sending item := by
      rw [recordSent_pc, hsending]
    dsimp only
    split
    · exact hrecorded.releaseFinish true hsending'
    · exact hrecorded.release true hsending'
  · exact h

/-- The failure of a send keeps the balance. -/
theorem Balanced.writerFailed (h : s.Balanced) (ws : Ws) (delivered : Bool) :
    (s.writerFailed ws delivered).Balanced := by
  unfold Session.writerFailed
  split
  · next item hsending =>
    cases delivered with
    | true =>
      exact (h.recordSent ws item).releaseFinish false ((recordSent_pc s ws item).trans hsending)
    | false => exact h.releaseFinish false hsending
  · exact h

/-- The cancellation of a writer keeps the balance: a task that never took a step goes on
holding its queue. -/
theorem Balanced.writerCancelled (h : s.Balanced) (ws : Ws) (delivered : Bool) :
    (s.writerCancelled ws delivered).Balanced := by
  unfold Session.writerCancelled
  split
  · next hcreated =>
    refine h.onWriter ws ?_
    rw [Writer.held, Writer.held, hcreated]
    rfl
  · exact h.writerFailed ws delivered
  · next hsending =>
    refine h.finishWriter ws ?_
    cases hpc : (s.writers ws).pc with
    | sending item => exact absurd hpc (hsending item)
    | _ => rfl

/-- `_stop_outbound_writer` keeps the counter balanced. -/
theorem Balanced.stopOutboundWriter (h : s.Balanced) (ws : Ws) :
    (s.stopOutboundWriter ws).Balanced := by
  unfold Session.stopOutboundWriter
  split
  · exact h
  · exact h.onWriter _ (Writer.cancel_held _)

/-- A chunk of output keeps the balance. -/
theorem Balanced.passOutput (h : s.Balanced) (data : List UInt8) :
    (s.passOutput data).Balanced := by
  have hkept : (s.keepOutput data).Balanced :=
    h.same (by rw [keepOutput_stream]; rfl) (outPendingBytes_of_reader (s.keepOutput_reader data))
  unfold Session.passOutput
  dsimp only
  split
  · exact hkept.enqueueOutbound _
  · exact hkept

/-- The installation of a new connection keeps the balance. -/
theorem Balanced.install (h : s.Balanced) {ws : Ws} (hfresh : s.writers ws = {}) :
    (s.install ws).Balanced := by
  have hset : (s.setWebsocket ws).Balanced := by
    refine h.change ws (fun ws' hne => ?_) ?_
    · rw [setWebsocket_stream]
      simp [hne]
    · rw [outPendingBytes_of_reader (s.setWebsocket_reader ws), setWebsocket_stream, stream_writers,
        hfresh]
      simp [Writer.held, WriterPc.inFlight]
  unfold Session.install sendReplay
  split
  · exact hset
  · have hfuture : (s.setWebsocket ws).createFuture.Balanced := hset
    exact hfuture.enqueueOutbound _

/-- The first step of `_handle_exit`, which puts two frames, keeps the counter balanced. -/
theorem Balanced.handleExit (h : s.Balanced) (now : Time) (code : Option ℤ) :
    (s.handleExit now code).Balanced := by
  unfold Session.handleExit
  split
  · exact h
  · have hclosed : (s.exitProcess.clearWebsocket now).Balanced := by
      refine h.same ?_ ?_
      · rw [clearWebsocket_stream, exitProcess_stream]
        rfl
      · exact cleanupFd_outPendingBytes { s with toLifecycle := s.toLifecycle.exit }
    dsimp only
    split
    · exact (hclosed.enqueueOutbound _).queuedClose _ _
    · exact hclosed

/-- Every step of a session keeps the balance. -/
theorem Balanced.step {now : Time} (h : s.Balanced) (hstep : Step now s s') : s'.Balanced := by
  cases hstep with
  | status message => exact h.enqueueOutbound _
  | close code reason => exact h.queuedClose code reason
  | stop ws => exact h.stopOutboundWriter ws
  | take ws waiting => exact h.onWriter ws (Writer.take_held _ waiting)
  | sent ws => exact h.writerSent ws
  | failed ws delivered => exact h.writerFailed ws delivered
  | output data => exact h.passOutput data
  | terminal s' same =>
    rw [same.1]
    exact h
  | exit code => exact h.handleExit now code
  | endTerminate =>
    refine h.same (by rw [endTerminate_stream]) ?_
    exact cleanupFd_outPendingBytes { s with toLifecycle := s.toLifecycle.endTerminate }
  | lifecycle | clear | eof | exitTask => exact h

/-- A sequence of steps keeps the balance. -/
theorem Balanced.steps {now : Time} (h : s.Balanced) (hsteps : Steps now s s') : s'.Balanced := by
  induction hsteps with
  | refl => exact h
  | tail _ hstep ih => exact ih.step hstep

end Session

/-! ## Queues without an owner -/

namespace Stream

/-- No output is left in a queue whose writer has ended, and none can get there: the attached
connection has a writer that has not ended. -/
structure Clean (s : Stream) : Prop where
  attached : ∀ ws, s.websocket = some ws → s.outQueue = some ws → (s.writers ws).pc ≠ .finished
  ended : ∀ ws, (s.writers ws).pc = .finished → queuedOutput (s.writers ws).queue = 0

variable {s : Stream} {ws : Ws}

/-- A frame without output keeps the queues clean, and so does any frame for a writer that has
not ended. -/
theorem Clean.put (h : s.Clean) (item : Outbound)
    (hput : item.payload.size = 0 ∨ ∀ q, s.outQueue = some q → (s.writers q).pc ≠ .finished) :
    (s.put item).Clean := by
  have hpc (ws : Ws) : ((s.put item).writers ws).pc = (s.writers ws).pc := by
    rw [put_writers]
    split <;> rfl
  constructor
  · intro ws hattached hqueue
    rw [hpc]
    exact h.attached ws (by simpa using hattached) (by simpa using hqueue)
  · intro ws hfinished
    rw [hpc] at hfinished
    rw [put_writers]
    split
    · next hqueue =>
      rcases hput with hnone | hlive
      · simp [Writer.put, h.ended ws hfinished, hnone]
      · exact absurd hfinished (hlive ws hqueue)
    · exact h.ended ws hfinished

/-- Clearing `websocket` keeps the queues clean. -/
theorem Clean.clear (h : s.Clean) : s.clear.Clean := ⟨nofun, h.ended⟩

/-- A change of one writer keeps the queues clean if it leaves its owner alone. -/
theorem Clean.onWriter (h : s.Clean) (ws : Ws) {f : Writer → Writer}
    (hpc : (f (s.writers ws)).pc = .finished →
      (s.websocket = some ws → s.outQueue ≠ some ws) ∧ queuedOutput (f (s.writers ws)).queue = 0) :
    (s.onWriter ws f).Clean := by
  constructor
  · intro ws' hattached hqueue hfinished
    by_cases hws : ws' = ws
    · subst hws
      rw [onWriter_writers, Function.update_self] at hfinished
      exact (hpc hfinished).1 hattached hqueue
    · rw [onWriter_writers, Function.update_of_ne hws] at hfinished
      exact h.attached ws' hattached hqueue hfinished
  · intro ws' hfinished
    by_cases hws : ws' = ws
    · subst hws
      rw [onWriter_writers, Function.update_self] at hfinished ⊢
      exact (hpc hfinished).2
    · rw [onWriter_writers, Function.update_of_ne hws] at hfinished ⊢
      exact h.ended ws' hfinished

/-- A writer that enters its `finally` empties its queue and gives it up. -/
theorem Clean.finish (h : s.Clean) (htask : s.outWriterTask = s.outQueue) (ws : Ws)
    (last : List Payload) : (s.finish ws last).Clean := by
  have hself : (s.finish ws last).writers ws =
      { s.writers ws with sent := (s.writers ws).sent ++ last, pc := .finished, queue := [] } := by
    unfold Stream.finish forget
    rw [onWriter_writers, Function.update_self]
    split <;> rfl
  constructor
  · intro ws' hattached hqueue
    have hsplit : s.outWriterTask ≠ some ws ∧ s.outQueue = some ws' ∧ s.websocket = some ws' := by
      unfold Stream.finish forget at hattached hqueue
      split at hqueue
      · cases hqueue
      · next hother => exact ⟨hother, hqueue, by rwa [if_neg hother] at hattached⟩
    obtain ⟨hother, hqueue', hattached'⟩ := hsplit
    have hne : ws' ≠ ws := by
      rintro rfl
      exact hother (htask.trans hqueue')
    rw [finish_writers_of_ne s last hne]
    exact h.attached ws' hattached' hqueue'
  · intro ws' hfinished
    by_cases hws : ws' = ws
    · subst hws
      rw [hself]
      rfl
    · rw [finish_writers_of_ne s last hws] at hfinished ⊢
      exact h.ended ws' hfinished

/-- A new connection has a queue and a writer of its own. -/
theorem Clean.install (h : s.Clean) (ws : Ws) : (s.install ws).Clean := by
  constructor
  · intro ws' hattached _
    obtain rfl : ws = ws' := Option.some.inj hattached
    simp
  · intro ws' hfinished
    by_cases hws : ws' = ws
    · subst hws
      simp at hfinished
    · rw [install_writers, Function.update_of_ne hws] at hfinished ⊢
      exact h.ended ws' hfinished

end Stream

namespace Session

variable {s s' : Session}

/-- A frame without output keeps the queues clean. -/
theorem clean_enqueueControl (h : s.stream.Clean) {item : Outbound}
    (hnone : item.payload.size = 0) :
    (s.enqueueOutbound item).stream.Clean := by
  rw [enqueueOutbound_stream]
  exact h.put item (.inl hnone)

/-- A close frame keeps the queues clean. -/
theorem clean_queuedClose (h : s.stream.Clean) (code : ℕ) (reason : String) :
    (s.queuedClose code reason).stream.Clean := by
  rw [queuedClose_stream]
  exact h.put _ (.inl rfl)

/-- The return of a send keeps the queues clean. -/
theorem clean_writerSent (h : s.stream.Clean) (htask : s.outWriterTask = s.outQueue) (ws : Ws) :
    (s.writerSent ws).stream.Clean := by
  unfold writerSent
  split
  · next item hsending =>
    dsimp only
    split
    · rw [finishWriter_stream, releaseCurrent_stream, recordSent, onWriter_stream,
        finish_onWriter s.stream ws [item.payload]]
      exact h.finish htask ws _
    · rw [onWriter_stream, releaseCurrent_stream, recordSent, onWriter_stream]
      refine (h.onWriter ws fun hfinished => ?_).onWriter ws fun hfinished => ?_
      · rw [stream_writers, hsending] at hfinished
        cases hfinished
      · cases hfinished
  · exact h

/-- The failure of a send keeps the queues clean. -/
theorem clean_writerFailed (h : s.stream.Clean) (htask : s.outWriterTask = s.outQueue) (ws : Ws)
    (delivered : Bool) : (s.writerFailed ws delivered).stream.Clean := by
  unfold writerFailed
  split
  · next item hsending =>
    rw [finishWriter_stream, releaseCurrent_stream]
    cases delivered with
    | true =>
      rw [if_pos rfl, recordSent, onWriter_stream, finish_onWriter s.stream ws [item.payload]]
      exact h.finish htask ws _
    | false => exact h.finish htask ws _
  · exact h

/-- The cancellation of a writer keeps the queues clean, unless its task never took a step and
its queue has output or can still get some. -/
theorem clean_writerCancelled (h : s.stream.Clean) (htask : s.outWriterTask = s.outQueue) (ws : Ws)
    (delivered : Bool) (hcreated : (s.writers ws).pc = .created →
      s.websocket ≠ some ws ∧ queuedOutput (s.writers ws).queue = 0) :
    (s.writerCancelled ws delivered).stream.Clean := by
  unfold writerCancelled
  split
  · next hpc =>
    obtain ⟨haway, hempty⟩ := hcreated hpc
    exact h.onWriter (f := fun w => { w with pc := .finished }) ws fun _ =>
      ⟨fun hattached => absurd hattached haway, hempty⟩
  · exact clean_writerFailed h htask ws delivered
  · rw [finishWriter_stream]
    exact h.finish htask ws []

/-- A chunk of output keeps the queues clean. -/
theorem clean_passOutput (h : s.stream.Clean) (hs : s.stream.Sound bufferLimit)
    (data : List UInt8) : (s.passOutput data).stream.Clean := by
  have hkept : (s.keepOutput data).stream.Clean := by
    rw [keepOutput_stream]
    exact ⟨h.attached, h.ended⟩
  unfold passOutput
  dsimp only
  rw [keepOutput_websocket]
  split
  · next hattached =>
    obtain ⟨ws, hws⟩ := Option.isSome_iff_exists.mp hattached
    rw [enqueueOutbound_stream]
    refine hkept.put _ (.inr fun q hq => ?_)
    rw [keepOutput_stream] at hq ⊢
    -- The current queue is that of the attached connection.
    rcases hs.queue ws hws with hqueue | ⟨hnone, -⟩
    · obtain rfl : ws = q := Option.some.inj (hqueue.symm.trans hq)
      exact h.attached ws hws hqueue
    · exact absurd (hq.symm.trans hnone) nofun
  · exact hkept

/-- The installation of a connection keeps the queues clean. -/
theorem clean_install (h : s.stream.Clean) (ws : Ws) : (s.install ws).stream.Clean := by
  have hset : (s.setWebsocket ws).stream.Clean := by
    rw [setWebsocket_stream]
    exact h.install ws
  unfold install sendReplay
  split
  · exact hset
  · rw [enqueueOutbound_stream, createFuture_stream]
    refine hset.put _ (.inr fun q hq => ?_)
    obtain rfl : ws = q := Option.some.inj hq
    simp [setWebsocket]

/-- The first step of `_handle_exit` puts no output, and keeps the queues clean. -/
theorem clean_handleExit (h : s.stream.Clean) (now : Time) (code : Option ℤ) :
    (s.handleExit now code).stream.Clean := by
  unfold handleExit
  split
  · exact h
  · have hclosed : (s.exitProcess.clearWebsocket now).stream.Clean := by
      rw [clearWebsocket_stream, exitProcess_stream]
      exact h.clear
    dsimp only
    split
    · exact clean_queuedClose (clean_enqueueControl hclosed rfl) _ _
    · exact hclosed

/-- Every step of a session keeps the queues clean. -/
theorem Step.clean {now : Time} (hstep : Step now s s') (h : s.stream.Clean)
    (hs : s.stream.Sound bufferLimit) : s'.stream.Clean := by
  cases hstep with
  | lifecycle l websocket joined live =>
    have hsame : Session.stream { s with toLifecycle := l } = s.stream := by
      simp [stream, websocket, joined]
    rw [hsame]
    exact h
  | clear => exact h.clear
  | status message => exact clean_enqueueControl h rfl
  | close code reason => exact clean_queuedClose h code reason
  | stop ws =>
    unfold stopOutboundWriter
    split
    · exact h
    · next task htask =>
      refine h.onWriter task fun hfinished => ?_
      rw [Writer.cancel_pc] at hfinished
      rw [Writer.cancel_queue]
      exact ⟨fun hattached hqueue => h.attached task hattached hqueue hfinished,
        h.ended task hfinished⟩
  | take ws waiting => exact h.onWriter ws fun hfinished => absurd hfinished (Writer.take_pc_ne _)
  | sent ws => exact clean_writerSent h hs.task ws
  | failed ws delivered => exact clean_writerFailed h hs.task ws delivered
  | output data => exact clean_passOutput h hs data
  | eof | exitTask => exact h
  | terminal s' same =>
    rw [same.1]
    exact h
  | exit code => exact clean_handleExit h now code
  | endTerminate =>
    rw [endTerminate_stream]
    exact h

/-- A sequence of steps keeps the queues clean. -/
theorem Steps.clean {now : Time} (hsteps : Steps now s s') (h : s.stream.Clean)
    (hs : s.stream.Sound bufferLimit) : s'.stream.Clean := by
  have hboth : s'.stream.Clean ∧ s'.stream.Sound bufferLimit := by
    induction hsteps with
    | refl => exact ⟨h, hs⟩
    | tail _ hstep ih => exact ⟨hstep.clean ih.1 ih.2, ih.2.moves hstep.moves⟩
  exact hboth.1

end Session

end WTerm
