import Mathlib.Data.List.Basic

/-!
# The latest part of a growing log

A log only grows at its end. A bounded buffer keeps its latest elements, and a reader that
starts with such a buffer reads a slice of the log. Nothing here mentions a particular
program.
-/

namespace Window

variable {α : Type*}

/-- The last elements of a log, at most as many as the limit. -/
@[irreducible]
def latest (limit : ℕ) (log : List α) : List α := log.drop (log.length - limit)

/-- The part of a log from one position to another. -/
def slice (log : List α) (first last : ℕ) : List α := (log.take last).drop first

/-- The latest part of a log is what follows some position. -/
theorem latest_eq_drop (limit : ℕ) (log : List α) :
    latest limit log = log.drop (log.length - limit) := by
  unfold latest
  rfl

/-- Nothing is the latest part of nothing. -/
@[simp]
theorem latest_nil (limit : ℕ) : latest limit ([] : List α) = [] := by
  simp [latest_eq_drop]

/-- A buffer that is trimmed whenever the log grows keeps the latest part of the log. -/
theorem latest_latest_append (limit : ℕ) (log more : List α) :
    latest limit (latest limit log ++ more) = latest limit (log ++ more) := by
  simp only [latest_eq_drop, List.length_append, List.length_drop]
  rw [← List.drop_append_of_le_length (by omega), List.drop_drop]
  congr 1
  omega

/-- Up to the end of the log a slice is what follows its first position. -/
@[simp]
theorem slice_length (log : List α) (first : ℕ) :
    slice log first log.length = log.drop first := by
  simp [slice]

/-- What is added to a log lies behind a slice of it. -/
theorem slice_append_of_le {log more : List α} {first last : ℕ} (hlog : last ≤ log.length) :
    slice (log ++ more) first last = slice log first last := by
  unfold slice
  rw [List.take_append_of_le_length hlog]

/-- A slice of a log is a first part of every longer slice of a longer log. -/
theorem slice_prefix_append {log more : List α} {first last last' : ℕ} (hlast : last ≤ last')
    (hlog : last ≤ log.length) : slice log first last <+: slice (log ++ more) first last' := by
  have hsame : (log ++ more).take last = log.take last := List.take_append_of_le_length hlog
  have htake : log.take last <+: (log ++ more).take last' := by
    rw [← hsame]
    exact List.take_prefix_take_left hlast
  obtain ⟨rest, hrest⟩ := htake
  unfold slice
  rw [← hrest, List.drop_append]
  exact List.prefix_append _ _

end Window
