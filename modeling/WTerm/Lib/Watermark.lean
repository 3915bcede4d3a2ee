import Mathlib.Data.Int.Notation
import Mathlib.Order.Basic

/-!
# A gate with two watermarks

Work arrives and is released again, and a gate stops the source of the work: it shuts when
the level reaches the high watermark and opens when the level is down to the low one. In
between it stays as it is. Nothing here mentions a particular program.
-/

namespace Watermark

/-- The level of the work and whether the gate is shut. -/
structure Gate where
  level : ℤ
  shut : Bool

/-- Work arrives; at the high watermark the gate shuts. -/
def Gate.add (high : ℤ) (g : Gate) (n : ℕ) : Gate where
  level := g.level + n
  shut := g.shut || decide (high ≤ g.level + n)

/-- Work is released; at the low watermark the gate opens. -/
def Gate.release (low : ℤ) (g : Gate) (n : ℕ) : Gate where
  level := g.level - n
  shut := g.shut && decide (low < g.level - n)

/-- A shut gate has more than the low watermark behind it, and an open one less than the high
watermark. -/
structure Gate.Sound (low high : ℤ) (g : Gate) : Prop where
  ofShut : g.shut = true → low < g.level
  ofOpen : g.shut = false → g.level < high

variable {low high : ℤ} {g : Gate}

/-- Arriving work keeps the gate sound. -/
theorem Gate.Sound.add (h : g.Sound low high) (hmarks : low < high) (n : ℕ) :
    (g.add high n).Sound low high := by
  constructor
  · intro hshut
    rcases (Bool.or_eq_true _ _).mp hshut with hbefore | hreached
    · have hlow := h.ofShut hbefore
      show low < g.level + n
      omega
    · have hhigh : high ≤ g.level + n := of_decide_eq_true hreached
      show low < g.level + n
      omega
  · intro hopen
    have hbelow : ¬high ≤ g.level + n := of_decide_eq_false (Bool.or_eq_false_iff.mp hopen).2
    show g.level + n < high
    omega

/-- Released work keeps the gate sound. -/
theorem Gate.Sound.release (h : g.Sound low high) (hmarks : low < high) (n : ℕ) :
    (g.release low n).Sound low high := by
  constructor
  · intro hshut
    exact of_decide_eq_true ((Bool.and_eq_true _ _).mp hshut).2
  · intro hopen
    show g.level - n < high
    rcases Bool.and_eq_false_iff.mp hopen with hbefore | hreached
    · have hhigh := h.ofOpen hbefore
      omega
    · have hlow : ¬low < g.level - n := of_decide_eq_false hreached
      omega

end Watermark
