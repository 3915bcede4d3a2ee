import WTerm.Manager.Expiry

/-!
# Malformed frames

The receive loop should ignore every frame that is no input or resize message. Of the exceptions
that a frame can cause it catches `JSONDecodeError` only. This file says which frames go through,
over all runs of a session key.
-/

namespace WTerm

open Transition

/-- A frame of a client: a binary one, or any text. -/
inductive Frame where
  | binary
  | text (content : PyStr)

/-- A frame as `receive_text` and `json.loads` yield it. `depth` is how deep the text may nest. -/
def Frame.received (depth : ℕ) : Frame → Received
  | .binary => .binary
  | .text content => .text (Json.loads depth content)

/-- An input message with a text that can be encoded, or a resize message. -/
def Received.WellFormed : Received → Prop
  | .text (.ok (.obj members)) =>
    (Json.kind members = Json.inputKind ∧
        ∃ data, Json.inputData? members = some data ∧ PyStr.hasSurrogate data = false) ∨
      (Json.kind members = Json.resizeKind ∧ (Json.size? members).isSome = true)
  | _ => False

/-- The session takes input. -/
def Session.takesInput (s : Session) : Bool := s.alive && s.masterFd

/-- Nothing in a frame makes the loop raise: the decoder raises at most `JSONDecodeError`, and no
input with a lone surrogate comes to a session that takes input. -/
def Received.Harmless (s : Session) : Received → Prop
  | .text (.error e) => e = .jsonDecodeError
  | .text (.ok (.obj members)) =>
    s.takesInput = true → Json.kind members = Json.inputKind →
      ∀ data, Json.inputData? members = some data → PyStr.hasSurrogate data = false
  | _ => True

namespace Session

variable {s : Session} {now : Time} {results : List WriteResult}

/-- `write_input` raises on a lone surrogate, if it comes to the encoding. -/
theorem applyInput_ok_iff {data : PyStr} :
    (s.applyInput now data results).2 = .ok () ↔
      (s.takesInput = true → PyStr.hasSurrogate data = false) := by
  unfold applyInput writeInput takesInput
  cases htakes : s.alive && s.masterFd with
  | false => simp
  | true =>
    cases hencode : PyStr.encode data with
    | error e =>
      have hsurrogate := ((PyStr.encode_eq_error_iff data e).mp hencode).1
      simp [hsurrogate]
    | ok encoded =>
      have hnone : PyStr.hasSurrogate data = false := by
        by_contra hsome
        have herror := (PyStr.encode_eq_error_iff data .unicodeEncodeError).mpr
          ⟨by simpa using hsome, rfl⟩
        rw [hencode] at herror
        cases herror
      simp only [Bool.not_true, Bool.false_eq_true, if_false, hnone, implies_true, iff_true]
      by_cases hroom : writeBufferLimit < (s.touch now).writeBuffer.length + encoded.length
      · simp only [hroom, if_true]
        cases (s.touch now).inputDropped <;> rfl
      · simp only [hroom, if_false]

/-- A turn of the loop raises nothing exactly on the harmless frames. -/
theorem handleFrame_ok_iff {frame : Received} :
    (s.handleFrame now frame results).2 = .ok () ↔ frame.Harmless s := by
  match frame with
  | .binary => simp [handleFrame, Received.Harmless]
  | .text (.error e) => cases e <;> simp [handleFrame, Received.Harmless]
  | .text (.ok .null) | .text (.ok (.bool _)) | .text (.ok (.int _)) | .text (.ok (.float _))
  | .text (.ok (.str _)) | .text (.ok (.arr _)) => simp [handleFrame, Received.Harmless]
  | .text (.ok (.obj members)) =>
    simp only [handleFrame, applyMessage, Received.Harmless]
    by_cases hinput : Json.kind members = Json.inputKind
    · simp only [hinput, if_true, forall_const]
      cases hdata : Json.inputData? members with
      | none => simp
      | some data => simp [applyInput_ok_iff]
    · simp only [hinput, if_false, false_implies, implies_true, iff_true]
      by_cases hresize : Json.kind members = Json.resizeKind
      · simp only [hresize, if_true]
        cases Json.size? members <;> rfl
      · simp only [hresize, if_false]

/-- A malformed frame that raises nothing leaves the session as it is. -/
theorem handleFrame_malformed {frame : Received} (hmalformed : ¬frame.WellFormed)
    (hharmless : frame.Harmless s) : (s.handleFrame now frame results).1 = s := by
  match frame with
  | .binary => rfl
  | .text (.error e) => cases e <;> rfl
  | .text (.ok .null) | .text (.ok (.bool _)) | .text (.ok (.int _)) | .text (.ok (.float _))
  | .text (.ok (.str _)) | .text (.ok (.arr _)) => rfl
  | .text (.ok (.obj members)) =>
    simp only [Received.WellFormed, not_or, not_and, not_exists] at hmalformed
    simp only [Received.Harmless] at hharmless
    obtain ⟨hinput, hresize⟩ := hmalformed
    simp only [handleFrame, applyMessage]
    by_cases hkind : Json.kind members = Json.inputKind
    · simp only [hkind, if_true]
      cases hdata : Json.inputData? members with
      | none => rfl
      | some data =>
        have htakes : (s.alive && s.masterFd) = false := by
          by_contra htakes
          exact hinput hkind data hdata
            (hharmless (by simpa [takesInput] using htakes) hkind data hdata)
        simp [applyInput, writeInput, htakes]
    · simp only [hkind, if_false]
      by_cases hsize : Json.kind members = Json.resizeKind
      · have hnone : Json.size? members = none := by simpa using hresize hsize
        simp only [hsize, if_true, hnone]
      · simp only [hsize, if_false]

end Session

/-! ## Runs -/

/-- One turn of a receive loop. -/
structure Turn where
  received : Received
  before : Session
  after : Session
  outcome : Except PyException Unit
  /-- The loop goes on. -/
  loops : Bool
  /-- The server has closed the connection, and the next `receive_text` says so. -/
  closed : Bool

/-- The frame is handled without raising and without leaving the loop, and a malformed one leaves
the session unchanged. -/
structure Turn.Swallowed (t : Turn) : Prop where
  outcome : t.outcome = .ok ()
  loops : t.loops = true ∨ t.closed = true
  unchanged : ¬t.received.WellFormed → t.after = t.before

/-- A session key, and the turns of its receive loops so far. -/
structure FrameState where
  world : World := {}
  /-- History. -/
  turns : List Turn := []

/-- The steps of the event loop, with frames as the clients send them. -/
inductive FrameEvent where
  | frame (ws : Ws) (frame : Frame) (results : List WriteResult)
  | other (e : Event)

/-- The receive loop gets a frame. -/
def Event.receives : Event → Bool
  | .receive _ _ _ => true
  | _ => false

/-- The event of the event loop. -/
def FrameEvent.event (depth : ℕ) : FrameEvent → Event
  | .frame ws sent results => .receive ws (sent.received depth) results
  | .other e => e

/-- The turn of a receive loop that a frame makes. -/
def World.turn (cfg : Settings) (w : World) (ws : Ws) (received : Received)
    (results : List WriteResult) (sid : SessionId) : Turn where
  received := received
  before := w.sessions sid
  after := ((w.sessions sid).handleFrame w.now received results).1
  outcome := ((w.sessions sid).handleFrame w.now received results).2
  loops := decide ((w.receive cfg ws received results).loopSession ws = some sid)
  closed := (w.closeCall ws).isSome

/-- The turns that an event adds. -/
def FrameEvent.turns (cfg : Settings) (depth : ℕ) (w : World) : FrameEvent → List Turn
  | .frame ws sent results =>
    (w.loopSession ws).toList.map (w.turn cfg ws (sent.received depth) results)
  | .other _ => []

/-- When an event can happen. -/
def FrameEvent.Enabled (depth : ℕ) (w : World) (e : FrameEvent) : Prop :=
  (e.event depth).Enabled w ∧ ∀ other, e = .other other → other.receives = false

/-- The transition system of one session key, with frames as the clients send them. -/
def frameSystem (cfg : Settings) (depth : ℕ) : System FrameState FrameEvent where
  Enabled st e := e.Enabled depth st.world
  apply st e :=
    { world := (e.event depth).apply cfg st.world
      turns := st.turns ++ e.turns cfg depth st.world }

instance FrameEvent.decidableEnabled (depth : ℕ) (w : World) :
    (e : FrameEvent) → Decidable (e.Enabled depth w)
  | .frame _ _ _ => decidable_of_iff _ (and_iff_left fun _ h => nomatch h).symm
  | .other e =>
    decidable_of_iff (e.Enabled w ∧ e.receives = false)
      (and_congr_right' ⟨fun h _ he => by cases he; exact h, fun h => h e rfl⟩)

instance (cfg : Settings) (depth : ℕ) (st : FrameState) (e : FrameEvent) :
    Decidable ((frameSystem cfg depth).Enabled st e) :=
  inferInstanceAs (Decidable (e.Enabled depth st.world))

/-- A frame is harmless for the session that its connection serves. -/
def HarmlessFrame (depth : ℕ) (st : FrameState) : FrameEvent → Prop
  | .frame ws sent _ =>
    ∀ sid, st.world.loopSession ws = some sid →
      (sent.received depth).Harmless (st.world.sessions sid)
  | .other _ => True

section Turn

variable {cfg : Settings} {depth : ℕ} {w : World} {ws : Ws} {sid : SessionId}
  {received : Received} {results : List WriteResult}

/-- A loop whose frame raises nothing goes on, unless its connection is closed. -/
theorem World.turn_loops (hloop : w.loopSession ws = some sid)
    (hok : ((w.sessions sid).handleFrame w.now received results).2 = .ok ()) :
    (w.turn cfg ws received results sid).loops = true ∨
      (w.turn cfg ws received results sid).closed = true := by
  cases hclosed : w.closeCall ws with
  | some code => exact .inr (by simp [turn, hclosed])
  | none =>
    refine .inl (decide_eq_true ?_)
    simp only [receive, hloop, Option.elim, hok, receiveNext]
    rw [if_neg (by simp [hclosed])]
    exact hloop

/-- A frame is swallowed exactly if it is harmless. -/
theorem World.turn_swallowed_iff (hloop : w.loopSession ws = some sid) :
    (w.turn cfg ws received results sid).Swallowed ↔ received.Harmless (w.sessions sid) := by
  constructor
  · intro h
    exact Session.handleFrame_ok_iff.mp h.outcome
  · intro hharmless
    have hok : ((w.sessions sid).handleFrame w.now received results).2 = .ok () :=
      Session.handleFrame_ok_iff.mpr hharmless
    exact ⟨hok, World.turn_loops hloop hok,
      fun hmalformed => Session.handleFrame_malformed hmalformed hharmless⟩

/-- The turns of an event are swallowed exactly if its frame is harmless. -/
theorem FrameEvent.turns_swallowed_iff {st : FrameState} (e : FrameEvent) :
    (∀ t ∈ e.turns cfg depth st.world, t.Swallowed) ↔ HarmlessFrame depth st e := by
  cases e with
  | frame ws sent results =>
    simp only [turns, HarmlessFrame]
    cases hloop : st.world.loopSession ws with
    | none => simp
    | some sid => simp [World.turn_swallowed_iff hloop]
  | other e => simp [turns, HarmlessFrame]

end Turn

/-- Every frame of a run is swallowed if and only if every frame is harmless for the session it
comes to. -/
theorem frames_swallowed_iff (cfg : Settings) (depth : ℕ) (st : FrameState) :
    Run (frameSystem cfg depth) (fun _ _ => True) {} st ∧ (∀ t ∈ st.turns, t.Swallowed) ↔
      Run (frameSystem cfg depth) (HarmlessFrame depth) {} st := by
  constructor
  · rintro ⟨hrun, hturns⟩
    induction hrun with
    | refl => exact .refl
    | @step st e _ hen _ ih =>
      have hbefore : ∀ t ∈ st.turns, t.Swallowed := fun t ht =>
        hturns t (List.mem_append_left _ ht)
      have hnow : ∀ t ∈ e.turns cfg depth st.world, t.Swallowed := fun t ht =>
        hturns t (List.mem_append_right _ ht)
      exact (ih hbefore).step e hen (e.turns_swallowed_iff.mp hnow)
  · intro hrun
    refine ⟨hrun.mono fun _ _ _ => trivial, ?_⟩
    induction hrun with
    | refl => simp
    | @step st e _ _ hharmless ih =>
      intro t ht
      rcases List.mem_append.mp ht with hbefore | hnow
      · exact ih t hbefore
      · exact e.turns_swallowed_iff.mpr hharmless t hnow

/-- An input message whose text is an escaped lone surrogate. -/
def surrogateFrame : Frame :=
  .text (py ['{', '"', 't', 'y', 'p', 'e', '"', ':', '"', 'i', 'n', 'p', 'u', 't', '"', ',', '"',
    'd', 'a', 't', 'a', '"', ':', '"', '\\', 'u', 'd', '8', '0', '0', '"', '}'])

/-- The only client of a session sends the frame. -/
def surrogateRun : FrameState := (frameSystem shellSettings 100).exec {}
  [.other (.connect 0 .attach false), .frame 0 surrogateFrame []]

/-- An exception leaves the receive loop in the turn. -/
def Turn.raised (t : Turn) : Bool :=
  match t.outcome with
  | .ok _ => false
  | .error _ => true

/-- A lone surrogate ends the receive loop. -/
theorem frame_not_swallowed : ¬∀ (cfg : Settings) (depth : ℕ) (st : FrameState),
    Run (frameSystem cfg depth) (fun _ _ => True) {} st → ∀ t ∈ st.turns, t.Swallowed := by
  intro h
  have hswallowed := h shellSettings 100 surrogateRun (System.Valid.run _ (by decide))
  have hraised : surrogateRun.turns.any Turn.raised = true := by decide
  obtain ⟨t, hmem, ht⟩ := List.any_eq_true.mp hraised
  rw [Turn.raised, (hswallowed t hmem).outcome] at ht
  cases ht

end WTerm
