import Mathlib.Logic.Relation

/-!
# Guarded transition systems and their fine-grained refinements

A coarse system has named events: an event may be enabled in a state, and applying
it is one atomic step. A fine-grained relation splits such a step into labelled
moves. An invariant of the moves is an invariant of every run, also of the runs in
which some moves are forbidden. Nothing here mentions a particular program.
-/

namespace Transition

variable {State Event Label : Type*}

/-- A coarse system: which events are enabled, and the state after one. -/
structure System (State Event : Type*) where
  /-- The guard of an event. -/
  Enabled : State → Event → Prop
  /-- The state after the event. -/
  apply : State → Event → State

/-- The runs of a system all of whose steps satisfy a condition. -/
inductive Run (sys : System State Event) (cond : State → Event → Prop) (start : State) :
    State → Prop
  | refl : Run sys cond start start
  | step {s : State} (e : Event) : Run sys cond start s → sys.Enabled s e → cond s e →
      Run sys cond start (sys.apply s e)

/-- Sequences of labelled moves, each of them allowed in the state it leaves. -/
inductive Moves (move : State → Label → State → Prop) (allow : State → Label → Prop)
    (start : State) : State → Prop
  | refl : Moves move allow start start
  | tail {s t : State} (l : Label) : Moves move allow start s → move s l t → allow s l →
      Moves move allow start t

/-- A run from one state to a second, and a run from there to a third, are one run. -/
theorem Run.trans {sys : System State Event} {cond : State → Event → Prop} {a b c : State}
    (hab : Run sys cond a b) (hbc : Run sys cond b c) : Run sys cond a c := by
  induction hbc with
  | refl => exact hab
  | step e _ hen hcond ih => exact .step e ih hen hcond

/-- A run under a condition is a run under every weaker one. -/
theorem Run.mono {sys : System State Event} {cond cond' : State → Event → Prop} {a b : State}
    (hrun : Run sys cond a b) (hweaker : ∀ s e, cond s e → cond' s e) : Run sys cond' a b := by
  induction hrun with
  | refl => exact .refl
  | step e _ hen hcond ih => exact .step e ih hen (hweaker _ _ hcond)

/-- What every step preserves holds at the end of a run that starts with it. -/
theorem Run.invariant {sys : System State Event} {cond : State → Event → Prop}
    {Inv : State → Prop} {a b : State} (hrun : Run sys cond a b) (hstart : Inv a)
    (hstep : ∀ s e, Inv s → sys.Enabled s e → cond s e → Inv (sys.apply s e)) : Inv b := by
  induction hrun with
  | refl => exact hstart
  | step e _ hen hcond ih => exact hstep _ e ih hen hcond

section Moves

variable {move : State → Label → State → Prop} {allow : State → Label → Prop}

/-- One allowed move is a sequence of allowed moves. -/
theorem Moves.single {s t : State} {l : Label} (h : move s l t) (hallow : allow s l) :
    Moves move allow s t :=
  .tail l .refl h hallow

/-- Two sequences of allowed moves, one behind the other, are one. -/
theorem Moves.trans {a b c : State} (hab : Moves move allow a b) (hbc : Moves move allow b c) :
    Moves move allow a c := by
  induction hbc with
  | refl => exact hab
  | tail l _ hmove hallow ih => exact .tail l ih hmove hallow

/-- An allowed move followed by a sequence of moves. -/
theorem Moves.head {a b c : State} {l : Label} (hmove : move a l b) (hallow : allow a l)
    (hbc : Moves move allow b c) : Moves move allow a c :=
  (Moves.single hmove hallow).trans hbc

/-- What every allowed move preserves is preserved by a sequence of them. -/
theorem Moves.invariant {Inv : State → Prop} {a b : State} (h : Moves move allow a b)
    (hstart : Inv a) (hmove : ∀ s l t, Inv s → move s l t → allow s l → Inv t) : Inv b := by
  induction h with
  | refl => exact hstart
  | tail l _ hm hallow ih => exact hmove _ l _ ih hm hallow

end Moves

section Execution

variable (sys : System State Event)

/-- The state after a list of events. -/
def System.exec (s : State) (events : List Event) : State := events.foldl sys.apply s

/-- Every event of the list is enabled when its turn comes. -/
def System.Valid : State → List Event → Prop
  | _, [] => True
  | s, e :: rest => sys.Enabled s e ∧ System.Valid (sys.apply s e) rest

/-- Validity of a concrete list of events can be computed. -/
instance System.decidableValid [∀ s e, Decidable (sys.Enabled s e)] :
    ∀ (s : State) (events : List Event), Decidable (sys.Valid s events)
  | _, [] => inferInstanceAs (Decidable True)
  | s, e :: rest =>
    have : Decidable (sys.Valid (sys.apply s e) rest) := System.decidableValid (sys.apply s e) rest
    inferInstanceAs (Decidable (sys.Enabled s e ∧ sys.Valid (sys.apply s e) rest))

/-- A valid list of events is a run. -/
theorem System.Valid.run {events : List Event} {s : State} (h : sys.Valid s events) :
    Run sys (fun _ _ => True) s (sys.exec s events) := by
  induction events generalizing s with
  | nil => exact .refl
  | cons e rest ih => exact (Run.step e .refl h.1 trivial).trans (ih h.2)

/-- The system restricted to the events that satisfy a condition. -/
def System.guarded (cond : State → Event → Prop) : System State Event where
  Enabled s e := sys.Enabled s e ∧ cond s e
  apply := sys.apply

/-- The guard of a restricted system can be computed if both parts can. -/
instance System.decidableGuarded {cond : State → Event → Prop}
    [∀ s e, Decidable (sys.Enabled s e)] [∀ s e, Decidable (cond s e)] (s : State) (e : Event) :
    Decidable ((sys.guarded cond).Enabled s e) :=
  inferInstanceAs (Decidable (sys.Enabled s e ∧ cond s e))

/-- A list of events that is valid in the restricted system is a run under the condition. -/
theorem System.Valid.guardedRun {cond : State → Event → Prop} {events : List Event} {s : State}
    (h : (sys.guarded cond).Valid s events) : Run sys cond s (sys.exec s events) := by
  induction events generalizing s with
  | nil => exact .refl
  | cons e rest ih => exact (Run.step e .refl h.1.1 h.1.2).trans (ih h.2)

/-- Every event of a list that is valid in the restricted system satisfies the condition. -/
theorem System.Valid.guarded_at {cond : State → Event → Prop} {events before after : List Event}
    {s : State} {e : Event} (h : (sys.guarded cond).Valid s events)
    (hsplit : events = before ++ e :: after) :
    sys.Enabled (sys.exec s before) e ∧ cond (sys.exec s before) e := by
  subst hsplit
  induction before generalizing s with
  | nil => exact h.1
  | cons first rest ih => exact ih h.2

/-- A list of events behind another one is executed from the state that the other one leads to. -/
theorem System.exec_append (s : State) (events rest : List Event) :
    sys.exec s (events ++ rest) = sys.exec (sys.exec s events) rest := List.foldl_append

end Execution

end Transition
