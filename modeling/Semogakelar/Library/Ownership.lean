import Mathlib.Logic.Basic
import Mathlib.Tactic.Lemma
import Mathlib.Tactic.TypeStar

/-! Exclusive ownership: a relation from holders to resources in which no resource has two holders. -/

namespace Semogakelar.Library

variable {κ φ : Type*} {R S : κ → φ → Prop} {k₀ : κ} {f₀ : φ}

def Exclusive (R : κ → φ → Prop) : Prop := ∀ k k' f, R k f → R k' f → k = k'

def assign (R : κ → φ → Prop) (k₀ : κ) (f₀ : φ) (k : κ) (f : φ) : Prop :=
  k = k₀ ∧ f = f₀ ∨ k ≠ k₀ ∧ R k f

lemma Exclusive.mono (h : Exclusive S) (hRS : ∀ k f, R k f → S k f) : Exclusive R :=
  fun k k' f hk hk' => h k k' f (hRS k f hk) (hRS k' f hk')

lemma Exclusive.assign (h : Exclusive R) (hf : ∀ k, ¬ R k f₀) : Exclusive (assign R k₀ f₀) := by
  rintro k k' f (⟨rfl, rfl⟩ | ⟨hk, hR⟩) (⟨rfl, hf'⟩ | ⟨hk', hR'⟩)
  · rfl
  · exact absurd hR' (hf k')
  · exact absurd (hf' ▸ hR) (hf k)
  · exact h k k' f hR hR'

end Semogakelar.Library
