import Mathlib.Algebra.BigOperators.Group.List.Basic
import WTerm.Lib.Watermark
import WTerm.Session.Step

/-!
# The PTY reader and its watermarks

The pending output of a session shuts a gate in front of its PTY reader. Here are the moves
of that gate, and the proof that every step of a session is a sequence of them.
-/

namespace WTerm

open Relation Watermark

/-- The part of a session that decides whether its PTY is read. -/
@[ext]
structure Reader where
  /-- `alive and not terminating`. -/
  live : Bool
  masterFd : Bool
  registered : Bool
  /-- The pending output, and whether the reader is paused. -/
  gate : Gate
  /-- The end of the file was read, or `_handle_exit` runs for another reason. -/
  seenEof : Bool

/-- The PTY reader of a session. -/
def Session.reader (s : Session) : Reader where
  live := s.alive && !s.terminating
  masterFd := s.masterFd
  registered := s.readerRegistered
  gate := ⟨s.outPendingBytes, s.ptyReaderPaused⟩
  seenEof := decide (s.exitTask ≠ .none)

namespace Reader

/-- The pending output changes, and nothing else. -/
def setLevel (r : Reader) (level : ℤ) : Reader := { r with gate := { r.gate with level := level } }

/-- The reader is paused, unless it is paused already or the PTY is closed. -/
def pause (r : Reader) : Reader :=
  if r.gate.shut || !r.masterFd then r
  else { r with registered := false, gate := { r.gate with shut := true } }

/-- The reader goes on, if it was paused. -/
def resume (r : Reader) : Reader :=
  if !r.gate.shut then r
  else if r.live && r.masterFd then
    { r with registered := true, gate := { r.gate with shut := false } }
  else { r with gate := { r.gate with shut := false } }

/-- Output becomes pending, which pauses the reader from the high watermark on. -/
def arrive (r : Reader) (n : ℕ) : Reader :=
  if (outputHighWatermark : ℤ) ≤ r.gate.level + n then (r.setLevel (r.gate.level + n)).pause
  else r.setLevel (r.gate.level + n)

/-- Output is no longer pending, which lets the reader go on from the low watermark down. -/
def release (r : Reader) (n : ℕ) : Reader :=
  if r.gate.level - n ≤ (outputLowWatermark : ℤ) then (r.setLevel (r.gate.level - n)).resume
  else r.setLevel (r.gate.level - n)

/-- The PTY is closed when the session is over. -/
def close (r : Reader) : Reader :=
  if r.masterFd then
    { r with
      live := false
      masterFd := false
      registered := false
      gate := { r.gate with shut := false } }
  else { r with live := false }

/-- The atomic changes of a PTY reader. -/
inductive Move (r : Reader) : Reader → Prop
  | arrive (n : ℕ) : Move r (r.arrive n)
  | release (n : ℕ) : Move r (r.release n)
  /-- The session starts to terminate. -/
  | retire : Move r { r with live := false }
  /-- The end of the file was read. -/
  | eof : Move r { r with registered := r.registered && !r.masterFd, seenEof := true }
  /-- `_handle_exit` goes on. -/
  | exitTask : Move r { r with seenEof := true }
  | close : Move r r.close

/-- What holds of the PTY reader of a session at every moment. -/
structure Sound (r : Reader) : Prop where
  /-- The pause of an open PTY obeys the watermarks. -/
  gate : r.masterFd = true → r.gate.Sound outputLowWatermark outputHighWatermark
  /-- A paused reader is not registered. -/
  off : r.masterFd = true → r.gate.shut = true → r.registered = false
  /-- The PTY of a live session is open. -/
  opened : r.live = true → r.masterFd = true
  /-- The PTY of a live session is read, unless it is paused or at its end. -/
  reading : r.live = true → r.seenEof = false → r.registered = true ∨ r.gate.shut = true

variable {r r' : Reader}

/-- Arriving output acts on the gate of an open PTY. -/
theorem arrive_gate (hopen : r.masterFd = true) (n : ℕ) :
    (r.arrive n).gate = r.gate.add outputHighWatermark n := by
  unfold arrive pause setLevel Gate.add
  by_cases hhigh : (outputHighWatermark : ℤ) ≤ r.gate.level + n
  · cases hshut : r.gate.shut <;> simp [hhigh, hshut, hopen]
  · simp [hhigh]

/-- Released output acts on the gate. -/
theorem release_gate (n : ℕ) : (r.release n).gate = r.gate.release outputLowWatermark n := by
  unfold release resume setLevel Gate.release
  by_cases hlow : r.gate.level - n ≤ (outputLowWatermark : ℤ)
  · have hnot : ¬(outputLowWatermark : ℤ) < r.gate.level - n := by omega
    cases hshut : r.gate.shut
    · simp [hlow, hshut]
    · simp only [hlow, if_true, Bool.not_true, Bool.false_eq_true, if_false]
      split <;> simp [hnot]
  · have hover : (outputLowWatermark : ℤ) < r.gate.level - n := by omega
    simp [hlow, hover]

/-- A pause leaves everything but the reader and its gate alone. -/
theorem arrive_rest (n : ℕ) : (r.arrive n).live = r.live ∧ (r.arrive n).masterFd = r.masterFd ∧
    (r.arrive n).seenEof = r.seenEof := by
  unfold arrive pause setLevel
  dsimp only
  split_ifs <;> exact ⟨rfl, rfl, rfl⟩

/-- A resumption leaves everything but the reader and its gate alone. -/
theorem release_rest (n : ℕ) : (r.release n).live = r.live ∧ (r.release n).masterFd = r.masterFd ∧
    (r.release n).seenEof = r.seenEof := by
  unfold release resume setLevel
  dsimp only
  split_ifs <;> exact ⟨rfl, rfl, rfl⟩

/-- Arriving output changes the registration only by a pause. -/
theorem arrive_registered (n : ℕ) :
    (r.arrive n).registered = r.registered ∧ (r.arrive n).gate.shut = r.gate.shut ∨
      (r.arrive n).registered = false ∧ (r.arrive n).gate.shut = true := by
  unfold arrive pause setLevel
  dsimp only
  split_ifs
  · exact .inl ⟨rfl, rfl⟩
  · exact .inr ⟨rfl, rfl⟩
  · exact .inl ⟨rfl, rfl⟩

/-- Released output changes the registration only by a resumption, which a live session with
an open PTY answers by a registered reader. -/
theorem release_registered (n : ℕ) :
    (r.release n).registered = r.registered ∧ (r.release n).gate.shut = r.gate.shut ∨
      (r.release n).gate.shut = false ∧
        (r.live = true → r.masterFd = true → (r.release n).registered = true) := by
  unfold release resume setLevel
  dsimp only
  split_ifs with hlow hshut hlive
  · exact .inl ⟨rfl, rfl⟩
  · exact .inr ⟨rfl, fun _ _ => rfl⟩
  · refine .inr ⟨rfl, fun halive hopen => ?_⟩
    rw [halive, hopen] at hlive
    exact absurd rfl hlive
  · exact .inl ⟨rfl, rfl⟩

/-- The low watermark is below the high one. -/
theorem watermarks : (outputLowWatermark : ℤ) < outputHighWatermark := by decide

/-- Arriving output keeps the reader sound. -/
theorem Sound.arrive (h : r.Sound) (n : ℕ) : (r.arrive n).Sound := by
  obtain ⟨hlive, hfd, heof⟩ := arrive_rest n (r := r)
  constructor
  · intro hopen
    rw [hfd] at hopen
    rw [arrive_gate hopen]
    exact (h.gate hopen).add watermarks n
  · intro hopen hshut
    rw [hfd] at hopen
    rcases arrive_registered n (r := r) with ⟨hregistered, hsame⟩ | ⟨hregistered, -⟩
    · rw [hregistered]
      exact h.off hopen (hsame ▸ hshut)
    · exact hregistered
  · rw [hlive, hfd]
    exact h.opened
  · rw [hlive, heof]
    intro halive hrunning
    rcases arrive_registered n (r := r) with ⟨hregistered, hsame⟩ | ⟨-, hshut⟩
    · rw [hregistered, hsame]
      exact h.reading halive hrunning
    · exact .inr hshut

/-- Released output keeps the reader sound. -/
theorem Sound.release (h : r.Sound) (n : ℕ) : (r.release n).Sound := by
  obtain ⟨hlive, hfd, heof⟩ := release_rest n (r := r)
  constructor
  · intro hopen
    rw [hfd] at hopen
    rw [release_gate]
    exact (h.gate hopen).release watermarks n
  · intro hopen hshut
    rw [hfd] at hopen
    rcases release_registered n (r := r) with ⟨hregistered, hsame⟩ | ⟨hresumed, -⟩
    · rw [hregistered]
      exact h.off hopen (hsame ▸ hshut)
    · rw [hshut] at hresumed
      cases hresumed
  · rw [hlive, hfd]
    exact h.opened
  · rw [hlive, heof]
    intro halive hrunning
    rcases release_registered n (r := r) with ⟨hregistered, hsame⟩ | ⟨-, hresumed⟩
    · rw [hregistered, hsame]
      exact h.reading halive hrunning
    · exact .inl (hresumed halive (h.opened halive))

/-- Closing the PTY keeps the reader sound. -/
theorem Sound.close (h : r.Sound) : r.close.Sound := by
  unfold Reader.close
  split
  · constructor <;> intro hfalse <;> cases hfalse
  · exact ⟨h.gate, h.off, nofun, nofun⟩

/-- A move keeps the reader sound. -/
theorem Sound.step (h : r.Sound) (hm : Move r r') : r'.Sound := by
  cases hm with
  | arrive n => exact h.arrive n
  | release n => exact h.release n
  | retire => exact ⟨h.gate, h.off, nofun, nofun⟩
  | eof =>
    refine ⟨h.gate, fun hopen hshut => ?_, h.opened, nofun⟩
    rw [h.off hopen hshut]
    rfl
  | exitTask => exact ⟨h.gate, h.off, h.opened, nofun⟩
  | close => exact h.close

/-- A sequence of moves keeps the reader sound. -/
theorem Sound.moves (h : r.Sound) (hm : ReflTransGen Move r r') : r'.Sound := by
  induction hm with
  | refl => exact h
  | tail _ hm ih => exact ih.step hm

/-- While an open PTY is read, less than the high watermark is pending. -/
theorem Sound.below_high (h : r.Sound) (hopen : r.masterFd = true)
    (hreads : r.registered = true) : r.gate.level < outputHighWatermark := by
  refine (h.gate hopen).ofOpen ?_
  by_contra hshut
  have hoff := h.off hopen (by simpa using hshut)
  rw [hreads] at hoff
  cases hoff

end Reader

end WTerm
