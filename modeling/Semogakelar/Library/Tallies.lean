import Mathlib.Algebra.BigOperators.Pi
import Mathlib.Algebra.Order.BigOperators.Group.Finset
import Mathlib.Data.Fintype.BigOperators

/-! Weighted counts over a finite table, and how one write to the table changes them. -/

namespace Semogakelar.Library

open Function

variable {ι α : Type*} [Fintype ι] {g : α → ℕ} {f : ι → α}

def tally (g : α → ℕ) (f : ι → α) : ℕ := ∑ i, g (f i)

lemma tally_update [DecidableEq ι] (g : α → ℕ) (f : ι → α) (i : ι) (a : α) :
    tally g (update f i a) + g (f i) = tally g f + g a := by
  have hu : (fun j => g (update f i a j)) = update (fun j => g (f j)) i (g a) := by
    funext j
    rw [apply_update fun _ => g]
  unfold tally
  rw [hu, Finset.sum_update_of_mem (Finset.mem_univ i), ← Finset.add_sum_erase _ _ (Finset.mem_univ i),
    Finset.sdiff_singleton_eq_erase]
  omega

lemma tally_congr {f' : ι → α} (h : ∀ i, g (f' i) = g (f i)) : tally g f' = tally g f :=
  Finset.sum_congr rfl fun i _ => h i

lemma tally_le_tally {f' : ι → α} (h : ∀ i, g (f' i) ≤ g (f i)) : tally g f' ≤ tally g f :=
  Finset.sum_le_sum fun i _ => h i

lemma tally_eq_zero_iff : tally g f = 0 ↔ ∀ i, g (f i) = 0 := by
  simp [tally]

lemma tally_eq_single (i : ι) (h : ∀ j, j ≠ i → g (f j) = 0) : tally g f = g (f i) :=
  Finset.sum_eq_single i (fun j _ hj => h j hj) fun hi => absurd (Finset.mem_univ i) hi

lemma tally_add_tally {g' : α → ℕ} (h : ∀ a, g a + g' a = 1) (f : ι → α) :
    tally g f + tally g' f = Fintype.card ι := by
  unfold tally
  rw [← Finset.sum_add_distrib, Finset.sum_congr rfl fun i _ => h (f i), Finset.sum_const, smul_eq_mul, mul_one]
  rfl

lemma exists_pos_of_tally_pos (h : 0 < tally g f) : ∃ i, 0 < g (f i) := by
  by_contra hn
  have hz : tally g f = 0 := tally_eq_zero_iff.mpr fun i => by
    have := not_exists.mp hn i
    omega
  omega

/-! ### Tables that hold every number up to some `n` -/

section Covers

variable {f : ι → ℕ} {n : ℕ}

lemma exists_injective_of_covers {κ : Type*} {f : κ → ℕ} (h : ∀ m < n, ∃ i, f i = m + 1) :
    ∃ g : Fin n → κ, Injective g ∧ ∀ m, f (g m) = m.val + 1 := by
  choose g hg using fun m : Fin n => h m.val m.isLt
  refine ⟨g, fun a b hab => ?_, hg⟩
  have hval := (hg a).symm.trans ((congrArg f hab).trans (hg b))
  exact Fin.ext (by omega)

lemma le_card_of_covers (h : ∀ m < n, ∃ i, f i = m + 1) : n ≤ Fintype.card ι := by
  obtain ⟨g, hinj, -⟩ := exists_injective_of_covers h
  simpa using Fintype.card_le_of_injective g hinj

lemma lt_card_of_covers {i : ι} (h : ∀ m < n, ∃ i, f i = m + 1) (hi : f i = 0) : n < Fintype.card ι := by
  obtain ⟨g, hinj, hg⟩ := exists_injective_of_covers h
  have hrange : i ∉ Set.range g := by
    rintro ⟨m, rfl⟩
    rw [hg m] at hi
    omega
  simpa using Fintype.card_lt_of_injective_of_notMem g hinj hrange

end Covers

end Semogakelar.Library
