import Mathlib.Tactic.Lemma
import Mathlib.Tactic.TypeStar

/-! Runs of a labelled transition system, their invariants, and the transfer of a step simulation to runs. -/

namespace Semogakelar.Library

/-- `Run step s is os t`: on the inputs `is` the system goes from `s` to `t` and answers `os`. -/
inductive Run {σ ι ω : Type*} (step : σ → ι → ω → σ → Prop) : σ → List ι → List ω → σ → Prop
  | nil {s : σ} : Run step s [] [] s
  | cons {s t u : σ} {i : ι} {o : ω} {is : List ι} {os : List ω} :
    step s i o t → Run step t is os u → Run step s (i :: is) (o :: os) u

namespace Run

variable {σ τ ι κ ω : Type*} {step : σ → ι → ω → σ → Prop} {step' : τ → κ → ω → τ → Prop}

lemma invariant {P : σ → Prop} (hstep : ∀ s i o t, P s → step s i o t → P t) {s t : σ} {is : List ι}
    {os : List ω} (h : Run step s is os t) (hs : P s) : P t := by
  induction h with
  | nil => exact hs
  | cons hi _ ih => exact ih (hstep _ _ _ _ hs hi)

lemma invariant_on {P : σ → Prop} {Q : ι → Prop} (hstep : ∀ s i o t, Q i → P s → step s i o t → P t) {s t : σ}
    {is : List ι} {os : List ω} (h : Run step s is os t) (hQ : ∀ i ∈ is, Q i) (hs : P s) : P t := by
  induction h with
  | nil => exact hs
  | cons hi _ ih =>
    exact ih (fun j hj => hQ j (List.mem_cons_of_mem _ hj)) (hstep _ _ _ _ (hQ _ List.mem_cons_self) hs hi)

lemma simulates {R : σ → τ → Prop} {f : κ → ι}
    (hstep : ∀ s s' t k o, R s t → step s (f k) o s' → ∃ t', step' t k o t' ∧ R s' t') {s s' : σ} {t : τ}
    {ks : List κ} {os : List ω} (hR : R s t) (h : Run step s (ks.map f) os s') :
    ∃ t', Run step' t ks os t' ∧ R s' t' := by
  induction ks generalizing s t os with
  | nil =>
    cases h
    exact ⟨t, .nil, hR⟩
  | cons k ks ih =>
    cases h with
    | cons hi hr =>
      obtain ⟨t₁, ht, hR⟩ := hstep _ _ _ _ _ hR hi
      obtain ⟨t₂, hrun, hR⟩ := ih hR hr
      exact ⟨t₂, .cons ht hrun, hR⟩

lemma deterministic (hstep : ∀ s i o t o' t', step s i o t → step s i o' t' → o = o' ∧ t = t') {s t t' : σ}
    {is : List ι} {os os' : List ω} (h : Run step s is os t) (h' : Run step s is os' t') : os = os' ∧ t = t' := by
  induction h generalizing os' with
  | nil =>
    cases h'
    exact ⟨rfl, rfl⟩
  | cons hi _ ih =>
    cases h' with
    | cons hi' hr =>
      obtain ⟨rfl, rfl⟩ := hstep _ _ _ _ _ _ hi hi'
      obtain ⟨rfl, rfl⟩ := ih hr
      exact ⟨rfl, rfl⟩

end Run

end Semogakelar.Library
