import Mathlib.Algebra.BigOperators.Finprod

/-!
# A total and its shares

A counter that several owners add to and subtract from is balanced if it is the sum of what
the owners have at the moment. Changing one share by the same amount as the total keeps the
balance. Nothing here mentions a particular program.
-/

namespace Tally

variable {ι : Type*}

/-- The total is the sum of the shares, of which only finitely many are not zero. -/
structure Balanced (total : ℤ) (share : ι → ℤ) : Prop where
  finite : (Function.support share).Finite
  total_eq : total = finsum share

/-- Shares that are all zero are balanced by a total of zero. -/
theorem Balanced.zero : Balanced 0 fun _ : ι => 0 where
  finite := by simp
  total_eq := by simp

/-- If no owner has anything, the total is zero. -/
theorem Balanced.eq_zero {total : ℤ} {share : ι → ℤ} (h : Balanced total share)
    (hnone : ∀ i, share i = 0) : total = 0 := by
  rw [h.total_eq, finsum_congr hnone, finsum_zero]

/-- A total that changes by as much as one share stays balanced. -/
theorem Balanced.update {total total' : ℤ} {share share' : ι → ℤ} (h : Balanced total share)
    (i : ι) (hothers : ∀ j, j ≠ i → share' j = share j)
    (htotal : total' = total + (share' i - share i)) : Balanced total' share' := by
  classical
  have hchange (j : ι) : share' j = share j + if j = i then share' i - share i else 0 := by
    by_cases hj : j = i
    · subst hj
      simp
    · simp [hj, hothers j hj]
  have hsingle : (Function.support fun j => if j = i then share' i - share i else 0).Finite := by
    refine (Set.finite_singleton i).subset fun j hj => ?_
    by_contra hne
    exact hj (if_neg hne)
  constructor
  · rw [funext hchange]
    exact (h.finite.union hsingle).subset (Function.support_add _ _)
  · rw [finsum_congr hchange, finsum_add_distrib h.finite hsingle,
      finsum_eq_single _ i fun j hj => if_neg hj, if_pos rfl, htotal, h.total_eq]

/-- A total that is balanced by shares is balanced by shares of the same size. -/
theorem Balanced.congr {total : ℤ} {share share' : ι → ℤ} (h : Balanced total share)
    (hsame : ∀ i, share' i = share i) : Balanced total share' := by
  rwa [show share' = share from funext hsame]

end Tally
