import Mathlib.Data.List.Induction
import WTerm.Lib.Transition
import WTerm.Session.Step

/-!
# Terminal input, message by message

`write_input` keeps what the PTY does not take in a buffer with a hard limit, and a message that
does not fit is dropped as a whole. Every byte that is not dropped reaches the PTY in order. A
drop is reported once until the buffer is empty again, and `_flush_write` is what ends the report:
a message of more than the whole limit does not get there.
-/

namespace WTerm

open Transition

/-- A call on the input side of a session, with what each `os.write` of it does. -/
inductive InputEvent where
  /-- `write_input`. -/
  | write (now : Time) (data : PyStr) (results : List WriteResult)
  /-- `_flush_write`, called by the event loop. -/
  | flush (results : List WriteResult)

/-- The session after a call. -/
def Session.applyInputEvent (s : Session) : InputEvent → Session
  | .write now data results => (s.writeInput now data results).1
  | .flush results => s.flushWrite results

/-- The input side of a session: any call can come at any time. -/
def inputSystem : System Session InputEvent where
  Enabled _ _ := True
  apply := Session.applyInputEvent

/-- An `os.write` that takes bytes or would block. -/
def WriteResult.isLossless : WriteResult → Bool
  | .wrote _ | .blocked => true
  | .failed => false

/-- No `os.write` of a call fails. -/
def InputEvent.isLossless : InputEvent → Bool
  | .write _ _ results | .flush results => results.all WriteResult.isLossless

namespace Session

/-- A live session that has taken no input yet, as `spawn` leaves it. -/
structure InputReady (s : Session) : Prop where
  alive : s.alive = true
  masterFd : s.masterFd = true
  writeBuffer : s.writeBuffer = []
  writerRegistered : s.writerRegistered = false
  inputDropped : s.inputDropped = false

/-- `write_input` drops the message: the buffer would exceed its limit. `drops_iff` says what that
does to the message. -/
def drops (s : Session) (data : PyStr) : Bool :=
  match PyStr.encode data with
  | .ok encoded => decide (writeBufferLimit < s.writeBuffer.length + encoded.length)
  | .error _ => false

/-- The encoding of a message that is not dropped. One that cannot be encoded raises. -/
def admitted (s : Session) : InputEvent → List UInt8
  | .write _ data _ =>
    match PyStr.encode data with
    | .ok encoded => if s.drops data then [] else encoded
    | .error _ => []
  | .flush _ => []

/-- The encodings of the messages that are not dropped, in the order of the calls. -/
def admittedInput (s : Session) : List InputEvent → List UInt8
  | [] => []
  | e :: rest => s.admitted e ++ (s.applyInputEvent e).admittedInput rest

/-- An earlier drop was reported, and `_write_buffer` has not been empty since. -/
def Noticed (s : Session) (before : List InputEvent) : Prop :=
  ∃ first now data results between, before = first ++ .write now data results :: between ∧
    (inputSystem.exec s first).drops data = true ∧
    ((inputSystem.exec s first).writeInput now data results).2 = .ok true ∧
    ∀ since, since <+: between →
      (inputSystem.exec s (first ++ .write now data results :: since)).writeBuffer ≠ []

/-- Each message that `write_input` drops is reported, or an earlier drop was and `_write_buffer`
has not been empty since. -/
def DropsNoticed (s : Session) (events : List InputEvent) : Prop :=
  ∀ before now data results after, events = before ++ .write now data results :: after →
    (inputSystem.exec s before).drops data = true →
      ((inputSystem.exec s before).writeInput now data results).2 = .ok true ∨ s.Noticed before

/-- A message of more than the whole limit comes while nothing is pending. -/
def OverflowsEmpty (s : Session) : InputEvent → Prop
  | .write _ data _ => s.writeBuffer = [] ∧ s.drops data = true
  | .flush _ => False

variable {s : Session}

/-! ## One call -/

section Flush

variable (s) (results : List WriteResult)

/-- What `os.write` takes comes from the front of the buffer. -/
theorem writePending_append (hresults : results.all WriteResult.isLossless = true) :
    (s.writePending results).written ++ (s.writePending results).writeBuffer =
      s.written ++ s.writeBuffer := by
  induction results generalizing s with
  | nil => rfl
  | cons result rest ih =>
    rw [List.all_cons, Bool.and_eq_true] at hresults
    unfold writePending
    split
    · rfl
    · cases result with
      | blocked => rfl
      | failed => simp [WriteResult.isLossless] at hresults
      | wrote count =>
        dsimp only
        split
        · rfl
        · rw [ih _ hresults.2]
          simp

/-- `os.write` leaves at most what was pending. -/
theorem writePending_length_le :
    (s.writePending results).writeBuffer.length ≤ s.writeBuffer.length := by
  induction results generalizing s with
  | nil => exact Nat.le_refl _
  | cons result rest ih =>
    unfold writePending
    split
    · exact Nat.le_refl _
    · cases result with
      | blocked => exact Nat.le_refl _
      | failed => exact Nat.zero_le _
      | wrote count =>
        dsimp only
        split
        · exact Nat.le_refl _
        · refine Nat.le_trans (ih _) ?_
          rw [List.length_drop]
          exact Nat.sub_le _ _

/-- The loop over `os.write` has no part in the report of a drop. -/
theorem writePending_inputDropped :
    (s.writePending results).inputDropped = s.inputDropped := by
  induction results generalizing s with
  | nil => rfl
  | cons result rest ih =>
    unfold writePending
    split
    · rfl
    · cases result with
      | blocked => rfl
      | failed => rfl
      | wrote count =>
        dsimp only
        split
        · rfl
        · exact ih _

/-- `_flush_write` moves bytes from the buffer to the PTY. -/
theorem flushWrite_append (hresults : results.all WriteResult.isLossless = true) :
    (s.flushWrite results).written ++ (s.flushWrite results).writeBuffer =
      s.written ++ s.writeBuffer := by
  have hpending := s.writePending_append results hresults
  unfold flushWrite
  split_ifs
  · rfl
  · dsimp only
    split_ifs <;> exact hpending

/-- `_flush_write` leaves at most what was pending. -/
theorem flushWrite_length_le :
    (s.flushWrite results).writeBuffer.length ≤ s.writeBuffer.length := by
  have hpending := s.writePending_length_le results
  unfold flushWrite
  split_ifs
  · exact Nat.le_refl _
  · dsimp only
    split_ifs <;> exact hpending

/-- `_flush_write` leaves the writer callback registered if and only if something is pending. -/
theorem flushWrite_writerRegistered (hfd : s.masterFd = true) :
    (s.flushWrite results).writerRegistered = true ↔ (s.flushWrite results).writeBuffer ≠ [] := by
  unfold flushWrite
  rw [if_neg (by simp [hfd])]
  dsimp only
  by_cases hpending : (s.writePending results).writeBuffer = []
  · simp [hpending]
  · simp [hpending]

/-- After `_flush_write` a report goes on only while something is pending. -/
theorem flushWrite_inputDropped (hdropped : (s.flushWrite results).inputDropped = true)
    (hfd : s.masterFd = true) :
    s.inputDropped = true ∧ (s.flushWrite results).writeBuffer ≠ [] := by
  unfold flushWrite at hdropped ⊢
  rw [if_neg (by simp [hfd])] at hdropped ⊢
  dsimp only at hdropped ⊢
  by_cases hpending : (s.writePending results).writeBuffer = []
  · simp [hpending] at hdropped
  · rw [if_pos hpending] at hdropped ⊢
    rw [writePending_inputDropped] at hdropped
    exact ⟨hdropped, hpending⟩

end Flush

/-- What `write_input` does on a live session: the text cannot be encoded, the message is dropped,
or it is added to the buffer, which is flushed. -/
theorem writeInput_cases (halive : s.alive = true) (hfd : s.masterFd = true) (now : Time)
    (data : PyStr) (results : List WriteResult) :
    (∃ e, PyStr.encode data = .error e ∧
      s.writeInput now data results = (s.touch now, .error e)) ∨
    (s.drops data = true ∧ s.writeInput now data results =
      ({ s.touch now with inputDropped := true }, .ok !s.inputDropped)) ∨
    ∃ encoded, PyStr.encode data = .ok encoded ∧ s.drops data = false ∧
      s.writeBuffer.length + encoded.length ≤ writeBufferLimit ∧
      s.writeInput now data results =
        (({ s.touch now with writeBuffer := s.writeBuffer ++ encoded }).flushWrite results,
          .ok false) := by
  unfold writeInput drops
  rw [if_neg (by simp [halive, hfd])]
  cases hencode : PyStr.encode data with
  | error e => exact .inl ⟨e, rfl, rfl⟩
  | ok encoded =>
    refine .inr ?_
    by_cases hlimit : writeBufferLimit < s.writeBuffer.length + encoded.length
    · exact .inl ⟨decide_eq_true hlimit, if_pos hlimit⟩
    · exact .inr ⟨encoded, rfl, decide_eq_false hlimit, Nat.le_of_not_lt hlimit, if_neg hlimit⟩

/-- A message that is dropped leaves everything but the flag and the time of the activity. -/
theorem writeInput_of_drops (halive : s.alive = true) (hfd : s.masterFd = true) {data : PyStr}
    (hdrop : s.drops data = true) (now : Time) (results : List WriteResult) :
    s.writeInput now data results =
      ({ s.touch now with inputDropped := true }, .ok !s.inputDropped) := by
  rcases writeInput_cases halive hfd now data results with
    ⟨e, hencode, -⟩ | ⟨-, hsession⟩ | ⟨encoded, -, hkept, -, -⟩
  · simp [drops, hencode] at hdrop
  · exact hsession
  · rw [hdrop] at hkept
    exact absurd hkept (by simp)

/-- The step of a message is the call of `write_input` with it. -/
@[simp]
theorem applyInputEvent_write (now : Time) (data : PyStr) (results : List WriteResult) :
    s.applyInputEvent (.write now data results) = (s.writeInput now data results).1 := rfl

/-- The step of the event loop's writer callback is the call of `_flush_write`. -/
@[simp]
theorem applyInputEvent_flush (results : List WriteResult) :
    s.applyInputEvent (.flush results) = s.flushWrite results := rfl

/-- A message that cannot be encoded adds nothing. -/
theorem admitted_of_error {data : PyStr} {e : PyException} (hencode : PyStr.encode data = .error e)
    (now : Time) (results : List WriteResult) : s.admitted (.write now data results) = [] := by
  simp [admitted, hencode]

/-- A message that is dropped adds nothing. -/
theorem admitted_of_drops {data : PyStr} (hdrop : s.drops data = true) (now : Time)
    (results : List WriteResult) : s.admitted (.write now data results) = [] := by
  cases hencode : PyStr.encode data with
  | error e => exact admitted_of_error hencode now results
  | ok encoded => simp [admitted, hencode, hdrop]

/-- A message that is neither refused by the encoder nor dropped adds its encoding. -/
theorem admitted_of_encode {data : PyStr} {encoded : List UInt8}
    (hencode : PyStr.encode data = .ok encoded) (hdrop : s.drops data = false) (now : Time)
    (results : List WriteResult) : s.admitted (.write now data results) = encoded := by
  simp [admitted, hencode, hdrop]

/-- What holds of a live session between two calls: the buffer is within its limit, and the writer
callback is registered if and only if something is pending. -/
structure InputSound (s : Session) : Prop where
  alive : s.alive = true
  masterFd : s.masterFd = true
  bounded : s.writeBuffer.length ≤ writeBufferLimit
  registered : s.writerRegistered = true ↔ s.writeBuffer ≠ []

/-- A session that has taken no input has nothing pending. -/
theorem InputReady.inputSound (h : s.InputReady) : s.InputSound := by
  refine ⟨h.alive, h.masterFd, ?_, ?_⟩
  · simp [h.writeBuffer]
  · simp [h.writeBuffer, h.writerRegistered]

/-- After `_flush_write` the session is as between two calls, whatever `os.write` did. -/
theorem flushWrite_inputSound (halive : s.alive = true) (hfd : s.masterFd = true)
    (hbounded : s.writeBuffer.length ≤ writeBufferLimit) (results : List WriteResult) :
    (s.flushWrite results).InputSound where
  alive := by rw [(s.flushWrite_sameButTerminal results).toLifecycle, halive]
  masterFd := by rw [(s.flushWrite_sameButTerminal results).2, hfd]
  bounded := Nat.le_trans (s.flushWrite_length_le results) hbounded
  registered := s.flushWrite_writerRegistered results hfd

/-- A call leaves the session as between two calls. -/
theorem InputSound.step (h : s.InputSound) (e : InputEvent) : (s.applyInputEvent e).InputSound := by
  cases e with
  | flush results => exact flushWrite_inputSound h.alive h.masterFd h.bounded results
  | write now data results =>
    rw [applyInputEvent_write]
    rcases writeInput_cases h.alive h.masterFd now data results with
      ⟨e, -, hsession⟩ | ⟨-, hsession⟩ | ⟨encoded, -, -, hbounded, hsession⟩
    · rw [hsession]
      exact ⟨h.alive, h.masterFd, h.bounded, h.registered⟩
    · rw [hsession]
      exact ⟨h.alive, h.masterFd, h.bounded, h.registered⟩
    · rw [hsession]
      apply flushWrite_inputSound
      · exact h.alive
      · exact h.masterFd
      · rw [List.length_append]
        exact hbounded

/-- Any number of calls leave the session as between two calls. -/
theorem InputSound.exec (h : s.InputSound) (events : List InputEvent) :
    (inputSystem.exec s events).InputSound := by
  induction events generalizing s with
  | nil => exact h
  | cons e rest ih => exact ih (h.step e)

/-! ## Every byte that is not dropped -/

/-- A call adds the message that it does not drop to what the PTY gets. -/
theorem applyInputEvent_append (h : s.InputSound) {e : InputEvent} (he : e.isLossless = true) :
    (s.applyInputEvent e).written ++ (s.applyInputEvent e).writeBuffer =
      s.written ++ s.writeBuffer ++ s.admitted e := by
  cases e with
  | flush results => simpa [admitted] using s.flushWrite_append results he
  | write now data results =>
    rw [applyInputEvent_write]
    rcases writeInput_cases h.alive h.masterFd now data results with
      ⟨e, hencode, hsession⟩ | ⟨hdrop, hsession⟩ | ⟨encoded, hencode, hdrop, -, hsession⟩
    · rw [hsession, admitted_of_error hencode, List.append_nil]
      rfl
    · rw [hsession, admitted_of_drops hdrop, List.append_nil]
      rfl
    · rw [hsession, admitted_of_encode hencode hdrop, List.append_assoc]
      exact flushWrite_append _ results he

/-- A message is dropped if and only if it has bytes and none of them reaches the PTY or the
buffer. -/
theorem drops_iff (h : s.InputSound) {data : PyStr} {encoded : List UInt8}
    (hencode : PyStr.encode data = .ok encoded) (now : Time) {results : List WriteResult}
    (hresults : results.all WriteResult.isLossless = true) :
    s.drops data = true ↔ encoded ≠ [] ∧
      (s.writeInput now data results).1.written ++ (s.writeInput now data results).1.writeBuffer =
        s.written ++ s.writeBuffer := by
  have happend := applyInputEvent_append h (e := .write now data results) hresults
  rw [applyInputEvent_write] at happend
  cases hdrop : s.drops data with
  | true =>
    rw [admitted_of_drops hdrop, List.append_nil] at happend
    refine iff_of_true rfl ⟨?_, happend⟩
    rintro rfl
    have hlimit : writeBufferLimit < s.writeBuffer.length := by
      simpa [drops, hencode] using hdrop
    exact Nat.not_lt.mpr h.bounded hlimit
  | false =>
    rw [admitted_of_encode hencode hdrop] at happend
    refine iff_of_false (by simp) ?_
    rintro ⟨hne, hsame⟩
    exact hne (List.append_right_eq_self.mp (happend.symm.trans hsame))

/-- The bytes that `os.write` took, followed by the pending ones, are the messages that were not
dropped, one after the other. -/
theorem exec_append (h : s.InputSound) {events : List InputEvent}
    (hevents : ∀ e ∈ events, e.isLossless = true) :
    (inputSystem.exec s events).written ++ (inputSystem.exec s events).writeBuffer =
      s.written ++ s.writeBuffer ++ s.admittedInput events := by
  induction events generalizing s with
  | nil => simp [System.exec, admittedInput]
  | cons e rest ih =>
    have hrest := ih (h.step e) fun e' he' => hevents e' (List.mem_cons_of_mem e he')
    have hfirst := applyInputEvent_append h (hevents e List.mem_cons_self)
    calc (inputSystem.exec s (e :: rest)).written ++ (inputSystem.exec s (e :: rest)).writeBuffer
        = (s.applyInputEvent e).written ++ (s.applyInputEvent e).writeBuffer ++
            (s.applyInputEvent e).admittedInput rest := hrest
      _ = s.written ++ s.writeBuffer ++
          (s.admitted e ++ (s.applyInputEvent e).admittedInput rest) := by
          rw [hfirst, List.append_assoc]

/-- Input reaches the PTY exactly: after any calls, what `os.write` took and what is pending are the
encodings of the messages that were not dropped, in order; the buffer is within its limit, and the
writer callback is registered if and only if the buffer is not empty. -/
theorem input_exact (hready : s.InputReady) {events : List InputEvent}
    (hevents : ∀ e ∈ events, e.isLossless = true) :
    (inputSystem.exec s events).written ++ (inputSystem.exec s events).writeBuffer =
        s.written ++ s.admittedInput events ∧
      (inputSystem.exec s events).writeBuffer.length ≤ writeBufferLimit ∧
      ((inputSystem.exec s events).writerRegistered = true ↔
        (inputSystem.exec s events).writeBuffer ≠ []) := by
  have hsound := hready.inputSound.exec events
  refine ⟨?_, hsound.bounded, hsound.registered⟩
  rw [exec_append hready.inputSound hevents, hready.writeBuffer, List.append_nil]

/-- Any number of calls on a new session. -/
theorem spawn_inputReady (now : Time) (idleSeconds : ℕ) :
    (Session.blank.spawn now idleSeconds).InputReady := ⟨rfl, rfl, rfl, rfl, rfl⟩

/-- The PTY takes the first byte of a message of three bytes and blocks; a second message waits
behind it, and then the PTY takes three bytes more. -/
theorem input_exact_partial :
    let s := inputSystem.exec (Session.blank.spawn 0 0)
      [.write 1 [0xD55C] [.wrote 1], .write 2 [65, 66] [.blocked], .flush [.wrote 3, .blocked]]
    s.written ++ s.writeBuffer = [0xED, 0x95, 0x9C, 65, 66] ∧
      s.writeBuffer.length ≤ writeBufferLimit ∧
      (s.writerRegistered = true ↔ s.writeBuffer ≠ []) := by
  have hexact := @input_exact _ (spawn_inputReady 0 0)
    [.write 1 [0xD55C] [.wrote 1], .write 2 [65, 66] [.blocked], .flush [.wrote 3, .blocked]]
    (by decide)
  exact hexact

/-! ## No silent drop -/

section Notice

variable {before : List InputEvent} {e : InputEvent}

/-- One more call is made on the session that the calls before it leave. -/
theorem exec_concat (s : Session) (before : List InputEvent) (e : InputEvent) :
    inputSystem.exec s (before ++ [e]) = (inputSystem.exec s before).applyInputEvent e :=
  System.exec_append inputSystem s before [e]

/-- While a report goes on, something is pending. -/
theorem Noticed.writeBuffer_ne (h : s.Noticed before) :
    (inputSystem.exec s before).writeBuffer ≠ [] := by
  obtain ⟨first, now, data, results, between, rfl, -, -, hsince⟩ := h
  exact hsince between (List.prefix_refl between)

/-- A report goes on while something is pending. -/
theorem Noticed.concat (h : s.Noticed before)
    (hpending : (inputSystem.exec s (before ++ [e])).writeBuffer ≠ []) :
    s.Noticed (before ++ [e]) := by
  obtain ⟨first, now, data, results, between, rfl, hdrop, hreport, hsince⟩ := h
  refine ⟨first, now, data, results, between ++ [e], by simp, hdrop, hreport, ?_⟩
  intro since hprefix
  rcases List.prefix_concat_iff.mp hprefix with rfl | hprefix
  · simpa using hpending
  · exact hsince since hprefix

/-- A report begins with a drop while something is pending. -/
theorem Noticed.start {now : Time} {data : PyStr} {results : List WriteResult}
    (hdrop : (inputSystem.exec s before).drops data = true)
    (hreport : ((inputSystem.exec s before).writeInput now data results).2 = .ok true)
    (hpending : (inputSystem.exec s (before ++ [.write now data results])).writeBuffer ≠ []) :
    s.Noticed (before ++ [.write now data results]) := by
  refine ⟨before, now, data, results, [], rfl, hdrop, hreport, ?_⟩
  intro since hprefix
  obtain rfl := List.prefix_nil.mp hprefix
  exact hpending

/-- A call without an overflow of the empty buffer keeps `_input_dropped` a sign of a report. -/
theorem noticed_step (hsound : (inputSystem.exec s before).InputSound)
    (hbefore : (inputSystem.exec s before).inputDropped = true → s.Noticed before)
    (hguard : ¬(inputSystem.exec s before).OverflowsEmpty e)
    (hdropped : (inputSystem.exec s (before ++ [e])).inputDropped = true) :
    s.Noticed (before ++ [e]) := by
  have hafter := exec_concat s before e
  generalize hcurrent : inputSystem.exec s before = current at *
  cases e with
  | flush results =>
    rw [hafter] at hdropped
    obtain ⟨hold, hpending⟩ := current.flushWrite_inputDropped results hdropped hsound.masterFd
    exact (hbefore hold).concat (hafter ▸ hpending)
  | write now data results =>
    rcases writeInput_cases hsound.alive hsound.masterFd now data results with
      ⟨e, -, hsession⟩ | ⟨hdrop, hsession⟩ | ⟨encoded, -, -, -, hsession⟩
    · -- The exception leaves the flag and the buffer alone.
      rw [applyInputEvent_write, hsession] at hafter
      rw [hafter] at hdropped
      refine (hbefore hdropped).concat ?_
      rw [hafter]
      exact hcurrent ▸ (hbefore hdropped).writeBuffer_ne
    · rw [applyInputEvent_write, hsession] at hafter
      have hpending :
          (inputSystem.exec s (before ++ [.write now data results])).writeBuffer ≠ [] := by
        rw [hafter]
        exact fun hempty => hguard ⟨hempty, hdrop⟩
      cases hold : current.inputDropped with
      | true => exact (hbefore hold).concat hpending
      | false =>
        refine Noticed.start (hcurrent ▸ hdrop) ?_ hpending
        rw [hcurrent, hsession, hold]
        rfl
    · rw [applyInputEvent_write, hsession] at hafter
      rw [hafter] at hdropped
      obtain ⟨hold, hpending⟩ := flushWrite_inputDropped _ results hdropped hsound.masterFd
      exact (hbefore hold).concat (hafter ▸ hpending)

/-- Calls that do not overflow the empty buffer keep `_input_dropped` a sign of a report. -/
theorem noticed_of_inputDropped (hready : s.InputReady) {events : List InputEvent}
    (hguard : ∀ before e after, events = before ++ e :: after →
      ¬(inputSystem.exec s before).OverflowsEmpty e)
    (hdropped : (inputSystem.exec s events).inputDropped = true) : s.Noticed events := by
  induction events using List.reverseRecOn with
  | nil => simp [System.exec, hready.inputDropped] at hdropped
  | append_singleton before e ih =>
    refine noticed_step (hready.inputSound.exec before) (ih ?_) (hguard before e [] rfl) hdropped
    intro first e' after hsplit
    exact hguard first e' (after ++ [e]) (by simp [hsplit])

/-- No input is dropped silently in a run in which no message of more than the whole limit comes to
an empty buffer. -/
theorem drops_noticed (hready : s.InputReady) {events : List InputEvent}
    (hvalid : (inputSystem.guarded fun s e => ¬s.OverflowsEmpty e).Valid s events) :
    s.DropsNoticed events := by
  intro before now data results after hsplit hdrop
  have hguard : ∀ first e' rest, before = first ++ e' :: rest →
      ¬(inputSystem.exec s first).OverflowsEmpty e' := by
    intro first e' rest hbefore
    have hevents : events = first ++ e' :: (rest ++ .write now data results :: after) := by
      rw [hsplit, hbefore, List.append_assoc, List.cons_append]
    exact (hvalid.guarded_at _ hevents).2
  have hsound := hready.inputSound.exec before
  cases hdropped : (inputSystem.exec s before).inputDropped with
  | true => exact .inr (noticed_of_inputDropped hready hguard hdropped)
  | false =>
    rw [writeInput_of_drops hsound.alive hsound.masterFd hdrop, hdropped]
    exact .inl rfl

/-- A message within the limit fits into an empty buffer. -/
theorem not_overflowsEmpty {data : PyStr} {encoded : List UInt8}
    (hencode : PyStr.encode data = .ok encoded) (hlength : encoded.length ≤ writeBufferLimit)
    (now : Time) (results : List WriteResult) : ¬s.OverflowsEmpty (.write now data results) := by
  rintro ⟨hempty, hdrop⟩
  simp only [drops, hencode, hempty, List.length_nil, Nat.zero_add, decide_eq_true_eq] at hdrop
  exact Nat.not_lt.mpr hlength hdrop

/-- A message fills the buffer, and the next one is dropped and reported. -/
theorem drops_noticed_full : (Session.blank.spawn 0 0).DropsNoticed
    [.write 1 (List.replicate writeBufferLimit 65) [], .write 2 [66] []] := by
  refine drops_noticed (spawn_inputReady 0 0) ⟨⟨trivial, ?_⟩, ⟨trivial, ?_⟩, trivial⟩
  · exact not_overflowsEmpty (PyStr.encode_replicate (by decide) _)
      (Nat.le_of_eq List.length_replicate) 1 []
  · exact not_overflowsEmpty (PyStr.encode_replicate (by decide) 1) (by decide) 2 []

/-- More letters than the limit do not fit into any buffer. -/
theorem drops_replicate {n : ℕ} (hn : writeBufferLimit < n) (s : Session) :
    s.drops (List.replicate n 65) = true := by
  unfold drops
  rw [PyStr.encode_replicate (by decide)]
  simp only [List.length_replicate, decide_eq_true_eq]
  omega

/-- Of two messages that are larger than the limit the second is dropped without a report: nothing
has been pending, and `_input_dropped` is still set. -/
theorem not_dropsNoticed_replicate {n : ℕ} (hn : writeBufferLimit < n) :
    ¬(Session.blank.spawn 0 0).DropsNoticed
      [.write 1 (List.replicate n 65) [], .write 2 (List.replicate n 65) []] := by
  intro hnoticed
  have hafter : inputSystem.exec (Session.blank.spawn 0 0) [.write 1 (List.replicate n 65) []] =
      { (Session.blank.spawn 0 0).touch 1 with inputDropped := true } :=
    congrArg Prod.fst (writeInput_of_drops rfl rfl (drops_replicate hn _) 1 [])
  rcases hnoticed [.write 1 (List.replicate n 65) []] 2 _ [] [] rfl (drops_replicate hn _) with
    hreport | hold
  · rw [hafter, writeInput_of_drops rfl rfl (drops_replicate hn _)] at hreport
    exact absurd hreport (by simp)
  · refine hold.writeBuffer_ne ?_
    rw [hafter]
    rfl

/-- The smallest two messages of which the second one is dropped without a report. -/
theorem drop_silent : ¬(Session.blank.spawn 0 0).DropsNoticed
    [.write 1 (List.replicate (writeBufferLimit + 1) 65) [],
      .write 2 (List.replicate (writeBufferLimit + 1) 65) []] :=
  not_dropsNoticed_replicate (Nat.lt_succ_self _)

end Notice

end Session

end WTerm
