import Mathlib.Order.Bounds.Basic
import Semogakelar.Library.Tallies
import Semogakelar.Process.Boot

/-! The search for a new pid, which ends at the least positive number that no slot has. -/

namespace Semogakelar.Process.Kernel

open Function Memory Fat32 Library

/-- The two loops of `process_generate_new_pid`, one turn for each test of the inner condition. A slot that has the
candidate ends the inner loop, and the search begins again with the next candidate. -/
def newPidLoop (processList : Fin 16 → ProcessControlBlock) : ℕ → UInt32 → ℕ → Outcome Unit UInt32
  | 0, _, _ => .running ()
  | fuel + 1, pid, idx =>
    if h : idx < 16 then
      if (processList ⟨idx, h⟩).pid ≠ pid then newPidLoop processList fuel pid (idx + 1)
      else newPidLoop processList fuel (pid + 1) 0
    else .returned pid ()

/-! ### The candidate -/

variable {processList : Fin 16 → ProcessControlBlock} {pid : UInt32} {fuel idx : ℕ}

lemma processGenerateNewPid_cases (processList : Fin 16 → ProcessControlBlock) (fuel : ℕ) (pid : UInt32) :
    ∃ n ≤ fuel, processGenerateNewPid processList fuel pid = pid + UInt32.ofNat n ∧
      (∀ m < n, ∃ i, (processList i).pid = pid + UInt32.ofNat m) ∧
      (n < fuel → ∀ i, (processList i).pid ≠ pid + UInt32.ofNat n) := by
  induction fuel generalizing pid with
  | zero => exact ⟨0, le_rfl, by simp [processGenerateNewPid], by simp, by simp⟩
  | succ fuel ih =>
    by_cases h : ∃ i, (processList i).pid = pid
    · obtain ⟨i, hi⟩ := h
      obtain ⟨n, hn, he, htaken, hfree⟩ := ih (pid + 1)
      have hadd : ∀ m, pid + 1 + UInt32.ofNat m = pid + UInt32.ofNat (m + 1) := by
        intro m
        rw [UInt32.add_assoc, UInt32.add_comm 1, UInt32.ofNat_add]
        rfl
      refine ⟨n + 1, by omega, ?_, fun m hm => ?_, fun hlt j => ?_⟩
      · rw [processGenerateNewPid_taken hi, he, hadd]
      · cases m with
        | zero => exact ⟨i, by simp [hi]⟩
        | succ m =>
          rw [← hadd]
          exact htaken m (by omega)
      · rw [← hadd]
        exact hfree (by omega) j
    · have h := not_exists.mp h
      exact ⟨0, Nat.zero_le _, by simp [processGenerateNewPid_free h], by simp, fun _ i => by simpa using h i⟩

lemma candidate_toNat {m : ℕ} (hm : m ≤ 16) : ((1 : UInt32) + UInt32.ofNat m).toNat = m + 1 := by
  rw [UInt32.toNat_add, UInt32.toNat_ofNat']
  change (1 + m % 2 ^ 32) % 2 ^ 32 = m + 1
  omega

lemma processGenerateNewPid_spec (processList : Fin 16 → ProcessControlBlock) :
    ∃ n, (processGenerateNewPid processList 16 1).toNat = n + 1 ∧ n ≤ 16 ∧
      (∀ m < n, ∃ i, (processList i).pid.toNat = m + 1) ∧ ∀ i, (processList i).pid.toNat ≠ n + 1 := by
  obtain ⟨n, hn, he, htaken, hfree⟩ := processGenerateNewPid_cases processList 16 1
  have htaken : ∀ m < n, ∃ i, (processList i).pid.toNat = m + 1 := by
    intro m hm
    obtain ⟨i, hi⟩ := htaken m hm
    exact ⟨i, by rw [hi, candidate_toNat (by omega)]⟩
  refine ⟨n, by rw [he, candidate_toNat hn], hn, htaken, fun i hi => ?_⟩
  obtain hlt | rfl := lt_or_eq_of_le hn
  · apply hfree hlt i
    apply UInt32.toNat_inj.mp
    rw [hi, candidate_toNat hn]
  · -- Sixteen slots do not take the seventeen numbers that the search has been through.
    have hcover : ∀ m < 17, ∃ i, (processList i).pid.toNat = m + 1 := by
      intro m hm
      obtain hlt | rfl := Nat.lt_or_eq_of_le (Nat.le_of_lt_succ hm)
      · exact htaken m hlt
      · exact ⟨i, hi⟩
    have hcard := le_card_of_covers hcover
    simp at hcard

lemma processGenerateNewPid_fresh (processList : Fin 16 → ProcessControlBlock) :
    processGenerateNewPid processList 16 1 ≠ 0 ∧ ∀ i, (processList i).pid ≠
    processGenerateNewPid processList 16 1 := by
  obtain ⟨n, hn, -, -, hfree⟩ := processGenerateNewPid_spec processList
  refine ⟨fun hz => ?_, fun i hi => hfree i (by rw [hi, hn])⟩
  rw [hz] at hn
  exact absurd hn (by simp)

/-! ### The loops -/

lemma newPidLoop_free (h : ∀ i : Fin 16, idx ≤ i.val → (processList i).pid ≠ pid) (hfuel : 17 ≤ fuel + idx)
    (hidx : idx ≤ 16) : newPidLoop processList fuel pid idx = .returned pid () := by
  induction fuel generalizing idx with
  | zero => omega
  | succ fuel ih =>
    rw [newPidLoop]
    by_cases hlt : idx < 16
    · rw [dif_pos hlt, if_pos (h ⟨idx, hlt⟩ le_rfl)]
      exact ih (fun i hi => h i (by omega)) (by omega) hlt
    · rw [dif_neg hlt]

lemma newPidLoop_taken {i : Fin 16} (hi : (processList i).pid = pid) (hidx : idx ≤ i.val) :
    ∃ c ≤ 16, ∀ fuel, newPidLoop processList (fuel + c) pid idx = newPidLoop processList fuel (pid + 1) 0 := by
  have hscan : ∀ n idx, idx + n = i.val →
      ∃ c ≤ n + 1, ∀ fuel, newPidLoop processList (fuel + c) pid idx =
      newPidLoop processList fuel (pid + 1) 0 := by
    intro n
    induction n with
    | zero =>
      rintro idx rfl
      refine ⟨1, le_rfl, fun fuel => ?_⟩
      rw [newPidLoop, dif_pos i.isLt, if_neg (not_not.mpr hi)]
    | succ n ih =>
      intro idx hn
      by_cases hhere : (processList ⟨idx, by omega⟩).pid = pid
      · refine ⟨1, by omega, fun fuel => ?_⟩
        rw [newPidLoop, dif_pos (by omega), if_neg (not_not.mpr hhere)]
      · obtain ⟨c, hc, hloop⟩ := ih (idx + 1) (by omega)
        refine ⟨c + 1, by omega, fun fuel => ?_⟩
        rw [← Nat.add_assoc, newPidLoop, dif_pos (by omega), if_pos hhere]
        exact hloop fuel
  obtain ⟨c, hc, hloop⟩ := hscan (i.val - idx) idx (by omega)
  exact ⟨c, by omega, hloop⟩

lemma newPidLoop_eq {n : ℕ} (h : ∀ i, (processList i).pid ≠ processGenerateNewPid processList n pid)
    (hfuel : 17 * (n + 1) ≤ fuel) :
    newPidLoop processList fuel pid 0 = .returned (processGenerateNewPid processList n pid) () := by
  induction n generalizing pid fuel with
  | zero => exact newPidLoop_free (fun i _ => h i) (by omega) (by omega)
  | succ n ih =>
    by_cases htaken : ∃ i, (processList i).pid = pid
    · obtain ⟨i, hi⟩ := htaken
      obtain ⟨c, hc, hloop⟩ := newPidLoop_taken hi (Nat.zero_le _)
      rw [processGenerateNewPid_taken hi] at h ⊢
      obtain ⟨rest, rfl⟩ : ∃ rest, fuel = rest + c := ⟨fuel - c, by omega⟩
      rw [hloop]
      exact ih h (by omega)
    · have hfree : ∀ i, (processList i).pid ≠ pid := not_exists.mp htaken
      rw [processGenerateNewPid_free hfree]
      exact newPidLoop_free (fun i _ => hfree i) (by omega) (by omega)

theorem generate_new_pid_least (processList : Fin 16 → ProcessControlBlock) :
    ∃ pid : UInt32, (∀ fuel, 289 ≤ fuel → newPidLoop processList fuel 1 0 = .returned pid ()) ∧
      processGenerateNewPid processList 16 1 = pid ∧
      IsLeast {n : ℕ | 0 < n ∧ ∀ i, (processList i).pid.toNat ≠ n} pid.toNat ∧ pid.toNat ≤ 17 ∧
      ((∃ i, (processList i).pid = 0) → pid.toNat ≤ 16) := by
  obtain ⟨n, hn, hle, htaken, hfree⟩ := processGenerateNewPid_spec processList
  refine ⟨_, fun fuel hfuel => newPidLoop_eq (processGenerateNewPid_fresh processList).2 hfuel, rfl, ?_⟩
  rw [hn]
  refine ⟨⟨⟨Nat.succ_pos n, hfree⟩, ?_⟩, by omega, ?_⟩
  · rintro m ⟨hpos, hm⟩
    by_contra hlt
    obtain ⟨i, hi⟩ := htaken (m - 1) (by omega)
    exact hm i (by omega)
  · rintro ⟨i, hi⟩
    have hcard := lt_card_of_covers (i := i) htaken (by rw [hi]; rfl)
    rw [Fintype.card_fin] at hcard
    omega

end Semogakelar.Process.Kernel
