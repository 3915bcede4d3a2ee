import WTerm.Lib.Window
import WTerm.Session.Step

/-!
# The output stream of a session

The frames of a connection: which are put in its queue, in which order its writer hands them
to the transport, and which part of the PTY output they carry. The accounting of the pending
bytes, the PTY reader and the futures do not occur here.
-/

namespace WTerm

/-- The PTY output in a frame. -/
def Payload.data : Payload → List UInt8
  | .bytes data => data
  | _ => []

/-- Whether a frame is the exit message. -/
def Payload.isExit : Payload → Bool
  | .text (.exit _) => true
  | _ => false

/-- Whether a frame is a close frame. -/
def Payload.isClose : Payload → Bool
  | .close _ _ => true
  | _ => false

/-- The PTY output in a sequence of frames. -/
def outputOf (frames : List Payload) : List UInt8 := frames.flatMap Payload.data

@[simp]
theorem outputOf_nil : outputOf [] = [] := rfl

@[simp]
theorem outputOf_append (frames rest : List Payload) :
    outputOf (frames ++ rest) = outputOf frames ++ outputOf rest := List.flatMap_append

@[simp]
theorem outputOf_singleton (payload : Payload) : outputOf [payload] = payload.data := by
  simp [outputOf]

/-- A longer beginning of the frames carries a longer beginning of the output. -/
theorem outputOf_mono {frames rest : List Payload} (h : frames <+: rest) :
    outputOf frames <+: outputOf rest := by
  obtain ⟨more, rfl⟩ := h
  exact ⟨outputOf more, (outputOf_append frames more).symm⟩

/-! ## One writer -/

namespace Writer

/-- A writer's frames leave it in the order in which they were put in its queue, and nothing
follows a close frame. -/
def Fifo (w : Writer) : Prop :=
  match w.pc with
  | .absent | .created | .getting =>
    w.accepted = w.sent ++ w.queue.map Outbound.payload ∧ ∀ p ∈ w.sent, p.isClose = false
  | .sending item =>
    w.accepted = w.sent ++ item.payload :: w.queue.map Outbound.payload ∧
      ∀ p ∈ w.sent, p.isClose = false
  | .finished =>
    w.sent <+: w.accepted ∧
      ∀ pre p post, w.sent = pre ++ p :: post → p.isClose = true → post = []

variable {w : Writer}

/-- The frames handed to the transport are the first of those put in the queue. -/
theorem Fifo.sent_first (h : w.Fifo) : w.sent <+: w.accepted := by
  unfold Fifo at h
  split at h
  · exact ⟨_, h.1.symm⟩
  · exact ⟨_, h.1.symm⟩
  · exact ⟨_, h.1.symm⟩
  · exact ⟨_, h.1.symm⟩
  · exact h.1

/-- What a writer that waits was given is what it has handed to the transport and its queue. -/
theorem Fifo.of_waiting (h : w.Fifo) (hwaiting : w.pc.Waiting) :
    w.accepted = w.sent ++ w.queue.map Outbound.payload ∧ ∀ p ∈ w.sent, p.isClose = false := by
  unfold Fifo at h
  unfold WriterPc.Waiting at hwaiting
  split at hwaiting
  · simpa [*] using h
  · simpa [*] using h
  · cases hwaiting

/-- A writer that waits with an empty queue has handed everything to the transport. -/
theorem Fifo.sent_all (h : w.Fifo) (hwaiting : w.pc.Waiting) (hempty : w.queue = []) :
    w.accepted = w.sent := by
  simpa [hempty] using (h.of_waiting hwaiting).1

/-- Nothing is handed to the transport after a close frame. -/
theorem Fifo.close_last (h : w.Fifo) {pre post : List Payload} {p : Payload}
    (hsent : w.sent = pre ++ p :: post) (hclose : p.isClose = true) : post = [] := by
  have habsurd (hopen : ∀ p ∈ w.sent, p.isClose = false) : post = [] := by
    have := hopen p (by simp [hsent])
    simp [hclose] at this
  unfold Fifo at h
  split at h
  · exact habsurd h.2
  · exact habsurd h.2
  · exact habsurd h.2
  · exact habsurd h.2
  · exact h.2 pre p post hsent hclose

/-- A writer that has just been created has sent nothing and has nothing queued. -/
theorem fifo_created : ({ pc := .created } : Writer).Fifo := by
  simp [Fifo]

/-- A connection without a writer has sent nothing. -/
theorem fifo_absent : ({} : Writer).Fifo := by
  simp [Fifo]

/-- Putting a frame in the queue keeps the order. -/
theorem Fifo.put (h : w.Fifo) (item : Outbound) : (w.put item).Fifo := by
  unfold Fifo Writer.put at *
  cases hpc : w.pc with
  | finished =>
    simp only [hpc] at h ⊢
    exact ⟨h.1.trans (List.prefix_append _ _), h.2⟩
  | _ =>
    simp only [hpc] at h ⊢
    exact ⟨by simp [h.1], h.2⟩

/-- A request to cancel keeps the order. -/
theorem Fifo.cancel (h : w.Fifo) : w.cancel.Fifo := by
  unfold Writer.cancel
  split
  · exact h
  · exact h

/-- Taking the next frame keeps the order. -/
theorem Fifo.take (h : w.Fifo) (hwaiting : w.pc.Waiting) : w.take.Fifo := by
  have hopen := h.of_waiting hwaiting
  unfold Writer.take
  split
  · next hqueue => simpa [Fifo, hqueue] using hopen
  · next item rest hqueue => simpa [Fifo, hqueue] using hopen

/-- The send of a frame other than a close frame keeps the order. -/
theorem Fifo.sent (h : w.Fifo) {item : Outbound} (hsending : w.pc = .sending item)
    (hopen : item.payload.isClose = false) :
    ({ w with sent := w.sent ++ [item.payload], pc := .getting } : Writer).Fifo := by
  simp only [Fifo, hsending] at h
  obtain ⟨haccepted, hclose⟩ := h
  refine ⟨by simp [haccepted], ?_⟩
  intro p hp
  rcases List.mem_append.mp hp with hsent | hlast
  · exact hclose p hsent
  · rw [List.mem_singleton.mp hlast, hopen]

/-- The end of a writer keeps the order, whether the frame in flight went out or not. -/
theorem Fifo.finish (h : w.Fifo) {last : List Payload}
    (hlast : last = [] ∨ ∃ item, w.pc = .sending item ∧ last = [item.payload]) :
    ({ w with sent := w.sent ++ last, pc := .finished, queue := [] } : Writer).Fifo := by
  rcases hlast with rfl | ⟨item, hsending, rfl⟩
  · refine ⟨by simpa using h.sent_first, ?_⟩
    intro pre p post hsent hclose
    exact h.close_last (by simpa using hsent) hclose
  · simp only [Fifo, hsending] at h
    obtain ⟨haccepted, hopen⟩ := h
    refine ⟨⟨w.queue.map Outbound.payload, by simp [haccepted]⟩, ?_⟩
    intro pre p post hsent hclose
    rcases List.append_eq_append_iff.mp hsent with ⟨mid, hpre, hrest⟩ | ⟨mid, hwsent, hrest⟩
    · cases mid with
      | nil => simpa using (List.cons.inj hrest.symm).2
      | cons q mid => simp at hrest
    · cases mid with
      | nil => simpa using (List.cons.inj hrest).2
      | cons q mid =>
        obtain ⟨rfl, -⟩ := List.cons.inj hrest
        have := hopen p (by simp [hwsent])
        simp [hclose] at this

/-- The end of a writer that never took a step keeps the order. -/
theorem Fifo.drop (h : w.Fifo) : ({ w with pc := .finished } : Writer).Fifo :=
  ⟨h.sent_first, fun _ _ _ hsent hclose => h.close_last hsent hclose⟩

/-- Taking a frame puts none in the queue. -/
@[simp, grind =]
theorem take_accepted (w : Writer) : w.take.accepted = w.accepted := by
  unfold Writer.take
  split <;> rfl

end Writer

/-! ## The stream -/

/-- The part of a session that decides which frames a connection gets. -/
structure Stream where
  websocket : Option Ws
  joined : Ws → Bool
  outQueue : Option Ws
  outWriterTask : Option Ws
  outWriterWs : Option Ws
  buffer : List UInt8
  out : List UInt8
  writers : Ws → Writer
  installedAt : Ws → Option ℕ
  removedAt : Ws → Option ℕ

/-- The stream of a session. -/
@[simps]
def Session.stream (s : Session) : Stream where
  websocket := s.websocket
  joined := s.joined
  outQueue := s.outQueue
  outWriterTask := s.outWriterTask
  outWriterWs := s.outWriterWs
  buffer := s.buffer
  out := s.out
  writers := s.writers
  installedAt := s.installedAt
  removedAt := s.removedAt

namespace Stream

/-- Change the writer of one connection. -/
@[simps]
def onWriter (s : Stream) (ws : Ws) (f : Writer → Writer) : Stream :=
  { s with writers := Function.update s.writers ws (f (s.writers ws)) }

/-- A frame goes to the current queue, if there is one. -/
def put (s : Stream) (item : Outbound) : Stream :=
  match s.outQueue with
  | none => s
  | some q => s.onWriter q (·.put item)

/-- The mark of the connection that stops being `websocket` now. -/
def removalMarks (s : Stream) : Ws → Option ℕ :=
  match s.websocket with
  | none => s.removedAt
  | some ws => Function.update s.removedAt ws (some s.out.length)

/-- `websocket = None`. -/
@[simps]
def clear (s : Stream) : Stream := { s with websocket := none, removedAt := s.removalMarks }

/-- A connection gets the session, a new queue and a new writer. -/
@[simps]
def install (s : Stream) (ws : Ws) : Stream :=
  { s with
    websocket := some ws
    joined := Function.update s.joined ws true
    outQueue := some ws
    outWriterTask := some ws
    outWriterWs := some ws
    writers := Function.update s.writers ws { pc := .created }
    installedAt := Function.update s.installedAt ws (some s.out.length)
    removedAt := s.removalMarks }

/-- The references to a writer are cleared if they still name it. -/
def forget (s : Stream) (ws : Ws) : Stream :=
  if s.outWriterTask = some ws then
    { s with outQueue := none, outWriterTask := none, outWriterWs := none }
  else s

/-- A writer enters its `finally`, after the given frames were handed to the transport. -/
def finish (s : Stream) (ws : Ws) (last : List Payload) : Stream :=
  (s.forget ws).onWriter ws fun w => { w with sent := w.sent ++ last, pc := .finished, queue := [] }

/-- A chunk of output is kept for later replays. -/
@[simps]
def keep (limit : ℕ) (s : Stream) (data : List UInt8) : Stream :=
  { s with
    buffer := Window.latest limit (s.buffer ++ data)
    out := s.out ++ data }

/-- The atomic changes of a stream whose replay buffer has the given limit. -/
inductive Move (limit : ℕ) (s : Stream) : Stream → Prop
  /-- A text or a close frame; the exit message follows only the clearing of `websocket`. -/
  | put (item : Outbound) (control : item.payload.data = [])
      (exit : item.payload.isExit = true → s.websocket = none)
      (known : ∀ code reason, item.payload = .close code reason → code ∈ serverCloseCodes) :
      Move limit s (s.put item)
  | clear : Move limit s s.clear
  /-- The installation of a connection while there is nothing to replay. -/
  | install (ws : Ws) (fresh : s.joined ws = false) (empty : s.buffer = []) :
      Move limit s (s.install ws)
  /-- The installation of a connection, with the replay. -/
  | replay (ws : Ws) (done : Option ℕ) (fresh : s.joined ws = false) :
      Move limit s ((s.install ws).put { payload := .bytes s.buffer, done := done })
  /-- Output while no connection is attached. -/
  | keep (data : List UInt8) (away : s.websocket = none) : Move limit s (s.keep limit data)
  /-- Output for the attached connection. -/
  | output (data : List UInt8) (attached : s.websocket ≠ none) :
      Move limit s ((s.keep limit data).put { payload := .bytes data })
  | cancel (ws : Ws) (current : s.outWriterTask = some ws) :
      Move limit s (s.onWriter ws Writer.cancel)
  | take (ws : Ws) (waiting : (s.writers ws).pc.Waiting) : Move limit s (s.onWriter ws Writer.take)
  | sent (ws : Ws) (item : Outbound) (sending : (s.writers ws).pc = .sending item)
      (notClose : item.payload.isClose = false) :
      Move limit s (s.onWriter ws fun w =>
        { w with sent := w.sent ++ [item.payload], pc := .getting })
  | finish (ws : Ws) (last : List Payload) (used : s.writers ws ≠ {})
      (inFlight : last = [] ∨
        ∃ item, (s.writers ws).pc = .sending item ∧ last = [item.payload]) :
      Move limit s (s.finish ws last)
  /-- A task that never took a step is cancelled: it does not enter its body. -/
  | drop (ws : Ws) (created : (s.writers ws).pc = .created) :
      Move limit s (s.onWriter ws fun w => { w with pc := .finished })

/-- What holds of the stream of a session at every moment. -/
structure Sound (limit : ℕ) (s : Stream) : Prop where
  /-- A connection that was never installed has left no trace. -/
  fresh : ∀ ws, s.joined ws = false → s.writers ws = {} ∧ s.installedAt ws = none ∧
    s.removedAt ws = none ∧ s.outQueue ≠ some ws ∧ s.websocket ≠ some ws
  /-- A connection that was installed has its mark. -/
  marked : ∀ ws, s.joined ws = true → s.installedAt ws ≠ none
  /-- The three references to the current writer agree. -/
  task : s.outWriterTask = s.outQueue
  owner : s.outWriterWs = s.outQueue
  /-- The replay buffer is the end of the output. -/
  buffer : s.buffer = Window.latest limit s.out
  /-- The attached connection has the current queue, unless its writer has ended. -/
  queue : ∀ ws, s.websocket = some ws → s.outQueue = some ws ∨
    s.outQueue = none ∧ (s.writers ws).pc = .finished
  /-- The attached connection was installed and not removed. -/
  current : ∀ ws, s.websocket = some ws → s.installedAt ws ≠ none ∧ s.removedAt ws = none
  /-- A connection that was installed is attached until it is removed. -/
  attached : ∀ ws, s.installedAt ws ≠ none → s.removedAt ws = none → s.websocket = some ws
  /-- Installation and removal lie in the past, in this order. -/
  installed : ∀ ws t, s.installedAt ws = some t → t ≤ s.out.length
  removed : ∀ ws t, s.removedAt ws = some t → t ≤ s.out.length
  fifo : ∀ ws, (s.writers ws).Fifo
  /-- The frames of an attached connection with a queue carry the output from its replay on. -/
  full : ∀ ws t, s.websocket = some ws → s.outQueue = some ws → s.installedAt ws = some t →
    outputOf (s.writers ws).accepted = s.out.drop (t - min t limit)
  /-- The frames of every connection carry a first part of the output from its replay to its
  removal. -/
  carried : ∀ ws t, s.installedAt ws = some t → outputOf (s.writers ws).accepted <+:
    Window.slice s.out (t - min t limit) ((s.removedAt ws).getD s.out.length)
  /-- Until its writer ends, the frames of a connection carry the whole output between the two. -/
  whole : ∀ ws t, s.installedAt ws = some t → (s.writers ws).pc ≠ .finished →
    outputOf (s.writers ws).accepted =
      Window.slice s.out (t - min t limit) ((s.removedAt ws).getD s.out.length)
  /-- A connection is closed with a code of the server. -/
  codes : ∀ ws code reason, .close code reason ∈ (s.writers ws).accepted → code ∈ serverCloseCodes
  /-- A connection that was told of the exit is not attached any more. -/
  told : ∀ ws, ∀ p ∈ (s.writers ws).accepted, p.isExit = true → s.websocket ≠ some ws
  /-- No output follows the exit message. -/
  exitLast : ∀ ws pre p post, (s.writers ws).accepted = pre ++ p :: post → p.isExit = true →
    outputOf post = []

variable {limit : ℕ} {s s' : Stream}

/-- Only the attached connection gets a new mark. -/
theorem removalMarks_apply (ws : Ws) :
    s.removalMarks ws = if s.websocket = some ws then some s.out.length else s.removedAt ws := by
  unfold removalMarks
  cases s.websocket with
  | none => simp
  | some ws' =>
    by_cases h : ws = ws'
    · simp [h]
    · simp [h, Ne.symm h]

section Put

variable (item : Outbound)

/-- Only the current queue gets a frame, and everything else stays. -/
@[simp, grind =]
theorem put_writers (ws : Ws) : (s.put item).writers ws =
    if s.outQueue = some ws then (s.writers ws).put item else s.writers ws := by
  unfold put
  cases s.outQueue with
  | none => simp
  | some q =>
    by_cases h : ws = q
    · simp [h]
    · simp [h, Ne.symm h]

@[simp, grind =] theorem put_websocket : (s.put item).websocket = s.websocket := by
  unfold put
  split <;> rfl

@[simp, grind =] theorem put_joined (ws : Ws) : (s.put item).joined ws = s.joined ws := by
  unfold put
  split <;> rfl

@[simp, grind =] theorem put_outQueue : (s.put item).outQueue = s.outQueue := by
  unfold put
  split <;> rfl

@[simp, grind =] theorem put_outWriterTask : (s.put item).outWriterTask = s.outWriterTask := by
  unfold put
  split <;> rfl

@[simp, grind =] theorem put_outWriterWs : (s.put item).outWriterWs = s.outWriterWs := by
  unfold put
  split <;> rfl

@[simp, grind =] theorem put_buffer : (s.put item).buffer = s.buffer := by
  unfold put
  split <;> rfl

@[simp, grind =] theorem put_out : (s.put item).out = s.out := by
  unfold put
  split <;> rfl

@[simp, grind =] theorem put_installedAt (ws : Ws) :
    (s.put item).installedAt ws = s.installedAt ws := by
  unfold put
  split <;> rfl

@[simp, grind =] theorem put_removedAt (ws : Ws) : (s.put item).removedAt ws = s.removedAt ws := by
  unfold put
  split <;> rfl

end Put

attribute [grind =] onWriter_writers onWriter_outQueue onWriter_websocket onWriter_joined
  onWriter_buffer onWriter_out onWriter_installedAt onWriter_removedAt onWriter_outWriterTask
  onWriter_outWriterWs clear_writers clear_outQueue clear_websocket clear_joined clear_buffer
  clear_out clear_installedAt clear_removedAt clear_outWriterTask clear_outWriterWs
  install_writers install_outQueue install_websocket install_joined install_buffer install_out
  install_installedAt install_removedAt install_outWriterTask install_outWriterWs keep_writers
  keep_outQueue keep_websocket keep_joined keep_buffer keep_out keep_installedAt keep_removedAt
  keep_outWriterTask keep_outWriterWs removalMarks_apply forget finish Function.update_apply
attribute [grind =] Writer.put Writer.cancel Payload.data Payload.isExit outputOf_append
  outputOf_singleton outputOf_nil Window.latest_eq_drop

/-- A move leaves no trace of a connection that was never installed. -/
theorem Sound.fresh_step (h : Sound limit s) (hm : Move limit s s') {ws : Ws}
    (hj : s'.joined ws = false) : s'.writers ws = {} ∧ s'.installedAt ws = none ∧
    s'.removedAt ws = none ∧ s'.outQueue ≠ some ws ∧ s'.websocket ≠ some ws := by
  have hfresh := h.fresh ws
  have hcur := h.task
  have habsent : ({} : Writer).pc = .absent := rfl
  cases hm with
  | take ws' hw =>
    by_cases hws : ws' = ws
    · subst hws
      rw [(hfresh hj).1] at hw
      cases hw
    · grind
  | _ => grind

/-- A move marks the connection that it installs. -/
theorem Sound.marked_step (h : Sound limit s) (hm : Move limit s s') {ws : Ws}
    (hj : s'.joined ws = true) : s'.installedAt ws ≠ none := by
  have hkeep := h.marked ws
  cases hm <;> grind

/-- A move keeps the three references to the current writer in agreement. -/
theorem Sound.task_step (h : Sound limit s) (hm : Move limit s s') :
    s'.outWriterTask = s'.outQueue ∧ s'.outWriterWs = s'.outQueue := by
  have ht := h.task
  have ho := h.owner
  cases hm <;> grind

/-- A move takes the current queue from the attached connection only when its writer ends. -/
theorem Sound.queue_step (h : Sound limit s) (hm : Move limit s s') {ws : Ws}
    (hw : s'.websocket = some ws) :
    s'.outQueue = some ws ∨ s'.outQueue = none ∧ (s'.writers ws).pc = .finished := by
  have hq := h.queue ws
  have ht := h.task
  cases hm with
  | take ws' hw' =>
    by_cases hws : ws' = ws
    · subst hws
      rcases hq hw with hq | ⟨hq, hfin⟩
      · exact .inl hq
      · rw [hfin] at hw'
        cases hw'
    · grind
  | _ => grind

/-- A move keeps the attached connection installed and not removed. -/
theorem Sound.current_step (h : Sound limit s) (hm : Move limit s s') {ws : Ws}
    (hw : s'.websocket = some ws) : s'.installedAt ws ≠ none ∧ s'.removedAt ws = none := by
  have hc := h.current ws
  have hf := h.fresh ws
  cases hm <;> grind

/-- A move that removes a connection marks it. -/
theorem Sound.attached_step (h : Sound limit s) (hm : Move limit s s') {ws : Ws}
    (hi : s'.installedAt ws ≠ none) (hr : s'.removedAt ws = none) : s'.websocket = some ws := by
  have ha := h.attached ws
  have hf := h.fresh ws
  cases hm <;> grind

/-- A move puts close frames with a code of the server in the queues. -/
theorem Sound.codes_step (h : Sound limit s) (hm : Move limit s s') {ws : Ws} {code : ℕ}
    {reason : String} (hp : .close code reason ∈ (s'.writers ws).accepted) :
    code ∈ serverCloseCodes := by
  have hkeep := h.codes ws code reason
  have hempty : ({} : Writer).accepted = [] := rfl
  cases hm <;> grind

/-- A move marks installations and removals with the present. -/
theorem Sound.past_step (h : Sound limit s) (hm : Move limit s s') {ws : Ws} :
    (∀ t, s'.installedAt ws = some t → t ≤ s'.out.length) ∧
      ∀ t, s'.removedAt ws = some t → t ≤ s'.out.length := by
  have hi := h.installed ws
  have hr := h.removed ws
  cases hm <;> grind

/-- A move keeps the replay buffer at the end of the output. -/
theorem Sound.buffer_step (h : Sound limit s) (hm : Move limit s s') :
    s'.buffer = Window.latest limit s'.out := by
  have hb := h.buffer
  have hl := Window.latest_latest_append limit s.out
  cases hm <;> grind

/-- Clearing the references leaves the writers and the output alone. -/
@[simp, grind =]
theorem forget_writers (ws : Ws) : (s.forget ws).writers = s.writers := by
  unfold forget
  split <;> rfl

@[simp, grind =]
theorem forget_out (ws : Ws) : (s.forget ws).out = s.out := by
  unfold forget
  split <;> rfl

/-- A move keeps the order of every writer's frames. -/
theorem Sound.fifo_step (h : Sound limit s) (hm : Move limit s s') (ws : Ws) :
    (s'.writers ws).Fifo := by
  have hf := h.fifo
  cases hm with
  | put item control exit =>
    rw [put_writers]
    split
    · exact (hf ws).put item
    · exact hf ws
  | clear => exact hf ws
  | install ws' fresh empty =>
    by_cases hws : ws = ws'
    · simpa [hws] using Writer.fifo_created
    · simpa [hws] using hf ws
  | replay ws' done fresh =>
    by_cases hws : ws = ws'
    · simpa [hws] using Writer.fifo_created.put _
    · simpa [hws, Ne.symm hws] using hf ws
  | keep data away => exact hf ws
  | output data attached =>
    rw [put_writers]
    split
    · exact (hf ws).put _
    · exact hf ws
  | cancel ws' current =>
    by_cases hws : ws = ws'
    · simpa [hws] using (hf ws').cancel
    · simpa [hws] using hf ws
  | take ws' waiting =>
    by_cases hws : ws = ws'
    · simpa [hws] using (hf ws').take waiting
    · simpa [hws] using hf ws
  | sent ws' item sending notClose =>
    by_cases hws : ws = ws'
    · simpa [hws] using (hf ws').sent sending notClose
    · simpa [hws] using hf ws
  | finish ws' last used inFlight =>
    by_cases hws : ws = ws'
    · simpa [finish, forget_writers, hws] using (hf ws').finish inFlight
    · simpa [finish, forget_writers, hws] using hf ws
  | drop ws' created =>
    by_cases hws : ws = ws'
    · simpa [hws] using (hf ws').drop
    · simpa [hws] using hf ws

/-- A move brings the whole output to an attached connection with a queue. -/
theorem Sound.full_step (h : Sound limit s) (hm : Move limit s s') {ws : Ws} {t : ℕ}
    (hw : s'.websocket = some ws) (hq : s'.outQueue = some ws) (ht : s'.installedAt ws = some t) :
    outputOf (s'.writers ws).accepted = s'.out.drop (t - min t limit) := by
  have hkeep := h.full ws t
  have hbuf := h.buffer
  have hfresh := h.fresh ws
  have hempty : ({} : Writer).accepted = [] := rfl
  have hi := h.installed ws
  cases hm with
  | output data attached =>
    have hpast : t - min t limit ≤ s.out.length := by grind
    have hdrop : (s.out ++ data).drop (t - min t limit) = s.out.drop (t - min t limit) ++ data :=
      List.drop_append_of_le_length hpast
    grind
  | _ => grind

/-- A move of the stream adds to what the program has written and takes nothing back. -/
theorem Move.out_append (hm : Move limit s s') : ∃ more, s'.out = s.out ++ more := by
  cases hm with
  | keep data away => exact ⟨data, rfl⟩
  | output data attached => exact ⟨data, by simp⟩
  | finish ws last used inFlight =>
    refine ⟨[], ?_⟩
    rw [List.append_nil]
    exact forget_out ws
  | _ => exact ⟨[], by simp⟩

/-- A move puts at most one frame in a queue. It carries output only for the attached
connection. -/
theorem Sound.accepted_step (h : Sound limit s) (hm : Move limit s s') (ws : Ws) :
    (s'.writers ws).accepted = (s.writers ws).accepted ∨
      ∃ p, (s'.writers ws).accepted = (s.writers ws).accepted ++ [p] ∧
        (p.data = [] ∧ (p.isExit = true → s.websocket = none) ∨
          s'.websocket = some ws ∧ s'.outQueue = some ws ∧ p.isExit = false) := by
  have hfresh := h.fresh ws
  have hqueue := h.queue
  have hempty : ({} : Writer).accepted = [] := rfl
  cases hm with
  | put item control exit =>
    by_cases hq : s.outQueue = some ws
    · exact .inr ⟨item.payload, by simp [hq, Writer.put], .inl ⟨control, exit⟩⟩
    · exact .inl (by simp [hq])
  | replay ws' done fresh =>
    by_cases hws : ws = ws'
    · subst hws
      exact .inr ⟨.bytes s.buffer, by simp [(hfresh fresh).1, Writer.put],
        .inr ⟨by simp, by simp, rfl⟩⟩
    · exact .inl (by simp [hws, Ne.symm hws])
  | output data attached =>
    by_cases hq : s.outQueue = some ws
    · refine .inr ⟨.bytes data, by simp [hq, Writer.put],
        .inr ⟨?_, by simpa using hq, rfl⟩⟩
      obtain ⟨ws', hws'⟩ := Option.ne_none_iff_exists'.mp attached
      grind
    · exact .inl (by simp [hq])
  | _ => exact .inl (by grind)

/-- A move marks only the connection that it removes. -/
theorem Sound.removedAt_step (h : Sound limit s) (hm : Move limit s s') (ws : Ws) :
    s'.removedAt ws = s.removedAt ws ∨
      s.removedAt ws = none ∧ s'.removedAt ws = some s.out.length := by
  have hcurrent := h.current ws
  cases hm <;> grind

/-- A move lets the frames of every connection carry a first part of its slice of the output. -/
theorem Sound.carried_step (h : Sound limit s) (hm : Move limit s s') {ws : Ws} {t : ℕ}
    (ht : s'.installedAt ws = some t) :
    outputOf (s'.writers ws).accepted <+:
      Window.slice s'.out (t - min t limit) ((s'.removedAt ws).getD s'.out.length) := by
  by_cases hattached : s'.websocket = some ws ∧ s'.outQueue = some ws
  · obtain ⟨hw, hq⟩ := hattached
    rw [(h.current_step hm hw).2, h.full_step hm hw hq ht]
    simp
  · have hinstalled : s.installedAt ws = some t := by cases hm <;> grind
    have hsame : outputOf (s'.writers ws).accepted = outputOf (s.writers ws).accepted := by
      rcases h.accepted_step hm ws with heq | ⟨p, heq, hp⟩
      · rw [heq]
      · grind
    obtain ⟨more, hout⟩ := hm.out_append
    have hlog : (s.removedAt ws).getD s.out.length ≤ s.out.length := by
      cases hremoved : s.removedAt ws with
      | none => simp
      | some t => simpa using h.removed ws t hremoved
    have hlast : (s.removedAt ws).getD s.out.length ≤ (s'.removedAt ws).getD s'.out.length := by
      rcases h.removedAt_step hm ws with heq | ⟨hnone, hsome⟩
      · rw [heq, hout]
        cases s.removedAt ws <;> simp
      · simp [hnone, hsome]
    rw [hsame]
    refine (h.carried ws t hinstalled).trans ?_
    rw [hout] at hlast ⊢
    exact Window.slice_prefix_append hlast hlog

/-- A writer that has ended does not start again. -/
theorem Sound.finished_step (h : Sound limit s) (hm : Move limit s s') {ws : Ws}
    (hfinished : (s.writers ws).pc = .finished) : (s'.writers ws).pc = .finished := by
  have hfresh := h.fresh ws
  have habsent : ({} : Writer).pc = .absent := rfl
  cases hm with
  | take ws' hw =>
    by_cases hws : ws' = ws
    · subst hws
      rw [hfinished] at hw
      cases hw
    · grind
  | _ => grind

/-- A move brings the whole output to every connection whose writer has not ended. -/
theorem Sound.whole_step (h : Sound limit s) (hm : Move limit s s') {ws : Ws} {t : ℕ}
    (ht : s'.installedAt ws = some t) (hpc : (s'.writers ws).pc ≠ .finished) :
    outputOf (s'.writers ws).accepted =
      Window.slice s'.out (t - min t limit) ((s'.removedAt ws).getD s'.out.length) := by
  by_cases hw : s'.websocket = some ws
  · have hq : s'.outQueue = some ws := by
      rcases h.queue_step hm hw with hq | ⟨-, hfinished⟩
      · exact hq
      · exact absurd hfinished hpc
    rw [(h.current_step hm hw).2, h.full_step hm hw hq ht]
    simp [Window.slice]
  · -- The connection has been removed: its frames and its slice are settled.
    obtain ⟨r, hr⟩ : ∃ r, s'.removedAt ws = some r := by
      refine Option.ne_none_iff_exists'.mp fun hnone => hw ?_
      exact h.attached_step hm (by simp [ht]) hnone
    have hinstalled : s.installedAt ws = some t := by cases hm <;> grind
    have hsame : outputOf (s'.writers ws).accepted = outputOf (s.writers ws).accepted := by
      rcases h.accepted_step hm ws with heq | ⟨p, heq, hp⟩
      · rw [heq]
      · grind
    have hlive : (s.writers ws).pc ≠ .finished :=
      fun hfinished => hpc (h.finished_step hm hfinished)
    have hmark : (s.removedAt ws).getD s.out.length = r := by
      rcases h.removedAt_step hm ws with heq | ⟨hnone, hsome⟩
      · rw [← heq, hr, Option.getD_some]
      · rw [hnone, Option.getD_none]
        exact Option.some.inj (hsome.symm.trans hr)
    have hpast : r ≤ s.out.length := by
      rw [← hmark]
      cases hremoved : s.removedAt ws with
      | none => simp
      | some t => simpa using h.removed ws t hremoved
    obtain ⟨more, hout⟩ := hm.out_append
    rw [hsame, h.whole ws t hinstalled hlive, hmark, hr, Option.getD_some, hout]
    exact (Window.slice_append_of_le hpast).symm

/-- A move tells only connections of the exit that are not attached. -/
theorem Sound.told_step (h : Sound limit s) (hm : Move limit s s') {ws : Ws} {p : Payload}
    (hp : p ∈ (s'.writers ws).accepted) (hexit : p.isExit = true) : s'.websocket ≠ some ws := by
  have hkeep := h.told ws p
  have hfresh := h.fresh ws
  have hempty : ({} : Writer).accepted = [] := rfl
  cases hm <;> grind

/-- A move lets no output follow the exit message. -/
theorem Sound.exitLast_step (h : Sound limit s) (hm : Move limit s s') {ws : Ws}
    {pre post : List Payload} {p : Payload} (hp : (s'.writers ws).accepted = pre ++ p :: post)
    (hexit : p.isExit = true) : outputOf post = [] := by
  have hkeep := h.exitLast ws pre p
  rcases h.accepted_step hm ws with heq | ⟨q, heq, hq⟩
  · exact hkeep post (heq ▸ hp) hexit
  rcases List.eq_nil_or_concat post with rfl | ⟨post, last, rfl⟩
  · rfl
  have hsplit : (s.writers ws).accepted = pre ++ p :: post ∧ q = last := by
    have : (s.writers ws).accepted ++ [q] = (pre ++ p :: post) ++ [last] := by
      rw [← heq, hp]
      simp
    simpa using List.append_inj' this rfl
  obtain ⟨hold, rfl⟩ := hsplit
  have hnew : q.data = [] := by
    rcases hq with ⟨hdata, -⟩ | ⟨hw, -⟩
    · exact hdata
    · exact absurd hw (h.told_step hm (by simp [hp]) hexit)
  simp [hkeep post hold hexit, hnew]

/-- Every move keeps the stream sound. -/
theorem Sound.step (h : Sound limit s) (hm : Move limit s s') : Sound limit s' where
  fresh _ := h.fresh_step hm
  marked _ := h.marked_step hm
  task := (h.task_step hm).1
  owner := (h.task_step hm).2
  buffer := h.buffer_step hm
  queue _ := h.queue_step hm
  current _ := h.current_step hm
  attached _ := h.attached_step hm
  installed _ := (h.past_step hm).1
  removed _ := (h.past_step hm).2
  fifo := h.fifo_step hm
  full _ _ := h.full_step hm
  carried _ _ := h.carried_step hm
  whole _ _ := h.whole_step hm
  codes _ _ _ := h.codes_step hm
  told _ _ := h.told_step hm
  exitLast _ _ _ _ := h.exitLast_step hm

/-- A sequence of moves keeps a stream sound. -/
theorem Sound.moves (h : s.Sound limit) (hm : Relation.ReflTransGen (Move limit) s s') :
    s'.Sound limit := by
  induction hm with
  | refl => exact h
  | tail _ hm ih => exact ih.step hm

/-- The exit message and the close frame of the natural exit are in a connection's queue or
behind it. -/
def Told (s : Stream) (ws : Ws) : Prop :=
  (∃ code, .text (.exit code) ∈ (s.writers ws).accepted) ∧
    ∃ reason, .close exitCloseCode reason ∈ (s.writers ws).accepted

/-- Nothing more has to be sent to a connection: it was told of the exit, or its writer has
ended. -/
def Over (s : Stream) (ws : Ws) : Prop := s.Told ws ∨ (s.writers ws).pc = .finished

/-- Frames that were put in a queue stay recorded. -/
theorem Sound.accepted_mem (h : Sound limit s) (hm : Move limit s s') {ws : Ws} {p : Payload}
    (hp : p ∈ (s.writers ws).accepted) : p ∈ (s'.writers ws).accepted := by
  rcases h.accepted_step hm ws with heq | ⟨q, heq, -⟩
  · rwa [heq]
  · rw [heq]
    exact List.mem_append_left _ hp

/-- What is over for a connection stays over. -/
theorem Over.step {ws : Ws} (ho : s.Over ws) (h : Sound limit s) (hm : Move limit s s') :
    s'.Over ws := by
  rcases ho with ⟨⟨code, hexit⟩, reason, hclose⟩ | hfinished
  · exact .inl ⟨⟨code, h.accepted_mem hm hexit⟩, reason, h.accepted_mem hm hclose⟩
  · exact .inr (h.finished_step hm hfinished)

end Stream

end WTerm
