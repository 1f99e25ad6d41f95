import Semogakelar.Memory.Frames

/-! The low addresses of a directory as one array of bytes, and the byte loops of `string.c` on it. -/

namespace Semogakelar.Memory

open Function

variable {pageDir : PageDirectory} {size : ℕ} {phys : ℕ → ℕ} {addr dest src : UInt32} {n : ℕ}
  {memory memory' : PhysicalMemory}

structure Window (pageDir : PageDirectory) (size : ℕ) (phys : ℕ → ℕ) : Prop where
  bound : size < 2 ^ 32
  present : ∀ a < size, translate pageDir (UInt32.ofNat a) = some (phys a)
  injective : ∀ a < size, ∀ b < size, phys a = phys b → a = b

namespace Window

variable (h : Window pageDir size phys)
include h

lemma translate_add (hn : addr.toNat + n < size) :
    translate pageDir (addr + UInt32.ofNat n) = some (phys (addr.toNat + n)) := by
  rw [← h.present _ hn, UInt32.ofNat_add, UInt32.ofNat_toNat]

lemma update_apply {a b : ℕ} (ha : a < size) (hb : b < size) (v : UInt8) :
    update memory (phys b) v (phys a) = if a = b then v else memory (phys a) := by
  by_cases he : a = b
  · rw [if_pos he, he, update_self]
  · rw [if_neg he, update_of_ne fun hp => he (h.injective a ha b hb hp)]

lemma storeBytes_apply {data : ℕ → UInt8} (hn : addr.toNat + n ≤ size)
    (hm : storeBytes pageDir addr data n memory = some memory') {a : ℕ} (ha : a < size) :
    memory' (phys a) = if addr.toNat ≤ a ∧ a < addr.toNat + n then data (a - addr.toNat) else memory (phys a) := by
  induction n generalizing memory' with
  | zero =>
    cases hm
    rw [if_neg (by omega)]
  | succ n ih =>
    obtain ⟨m₁, h₁, hm⟩ := Option.bind_eq_some_iff.mp hm
    rw [h.translate_add (by omega), Option.map_some] at hm
    obtain rfl := Option.some.inj hm
    rw [h.update_apply ha (by omega), ih (by omega) h₁]
    by_cases he : a = addr.toNat + n
    · rw [if_pos he, if_pos (by omega), he, Nat.add_sub_cancel_left]
    · rw [if_neg he]
      by_cases hc : addr.toNat ≤ a ∧ a < addr.toNat + n
      · rw [if_pos hc, if_pos (by omega)]
      · rw [if_neg hc, if_neg (by omega)]

/-- The forward copy to a lower address: no byte of the source is written before it is read. -/
lemma memcpy_apply (hn : src.toNat + n ≤ size) (hle : dest.toNat ≤ src.toNat)
    (hm : memcpy pageDir dest src n memory = some memory') {a : ℕ} (ha : a < size) :
    memory' (phys a) = if dest.toNat ≤ a ∧ a < dest.toNat + n then memory (phys (a - dest.toNat + src.toNat))
      else memory (phys a) := by
  induction n generalizing memory' a with
  | zero =>
    cases hm
    rw [if_neg (by omega)]
  | succ n ih =>
    obtain ⟨m₁, h₁, hm⟩ := Option.bind_eq_some_iff.mp hm
    rw [h.translate_add (by omega), Option.bind_some, h.translate_add (by omega), Option.map_some] at hm
    obtain rfl := Option.some.inj hm
    have hread : m₁ (phys (src.toNat + n)) = memory (phys (src.toNat + n)) := by
      rw [ih (by omega) h₁ (by omega), if_neg (by omega)]
    rw [h.update_apply ha (by omega), ih (by omega) h₁ ha, hread]
    by_cases he : a = dest.toNat + n
    · rw [if_pos he, if_pos (by omega), he, Nat.add_sub_cancel_left, Nat.add_comm n]
    · rw [if_neg he]
      by_cases hc : dest.toNat ≤ a ∧ a < dest.toNat + n
      · rw [if_pos hc, if_pos (by omega)]
      · rw [if_neg hc, if_neg (by omega)]

lemma memset_apply {c : UInt8} (hn : addr.toNat + n ≤ size) (hm : memset pageDir addr c n memory = some memory')
    {a : ℕ} (ha : a < size) :
    memory' (phys a) = if addr.toNat ≤ a ∧ a < addr.toNat + n then c else memory (phys a) :=
  h.storeBytes_apply hn hm ha

end Window

/-! ### Two pages -/

def frameOf (pageDir : PageDirectory) (a : ℕ) : ℕ :=
  (pageDir (Fin.ofNat 1024 (a / 2 ^ 22))).lowerAddress.val * 2 ^ 22 + a % 2 ^ 22

lemma window_of_pages (h₀ : (pageDir 0).flag.presentBit = true) (h₁ : (pageDir 1).flag.presentBit = true)
    (hne : (pageDir 0).lowerAddress ≠ (pageDir 1).lowerAddress) : Window pageDir (2 ^ 23) (frameOf pageDir) := by
  have hpage : ∀ a < 2 ^ 23, Fin.ofNat 1024 (a / 2 ^ 22) = if a < 2 ^ 22 then 0 else 1 := by
    intro a ha
    apply Fin.ext
    rw [Fin.val_ofNat]
    split_ifs
    · rw [Fin.val_zero]
      omega
    · rw [Fin.val_one]
      omega
  have hv := Fin.val_ne_of_ne hne
  refine ⟨by decide, fun a ha => ?_, fun a ha b hb he => ?_⟩
  · have hto : (UInt32.ofNat a).toNat = a := by
      rw [UInt32.toNat_ofNat']
      omega
    rw [translate, pageIndex, hto, if_pos, frameOf]
    rw [hpage a ha]
    split_ifs
    · exact h₀
    · exact h₁
  · rw [frameOf, frameOf, hpage a ha, hpage b hb] at he
    split_ifs at he <;> omega

lemma allocateUserPages_window {pm pm' : PageManager} {d : Fin 32} (hf : 2 ≤ pm.freePageFrameCount)
    (h : pm.allocateUserPages d 2 = some pm') :
    Window (pm'.pageDirectoryList d) (2 ^ 23) (frameOf (pm'.pageDirectoryList d)) := by
  have hpresent := fun {i : Fin 1024} => PageManager.allocateUserPages_present (i := i) hf (by decide) h
  refine window_of_pages (hpresent (by decide)) (hpresent (by decide)) ?_
  obtain ⟨pm₁, b, h₁, h₂⟩ := PageManager.allocateUserPages_succ h
  obtain ⟨-, hcount⟩ := PageManager.allocateUserPages_counts (by omega) h₁
  obtain ⟨pm₀, b₀, h₀, h₁⟩ := PageManager.allocateUserPages_succ h₁
  obtain rfl := Option.some.inj h₀
  obtain ⟨hz, -, -⟩ | ⟨i, -, -, -, -, rfl⟩ := PageManager.pagingAllocateUserPageFrame_cases h₁
  · omega
  obtain ⟨hz, -, -⟩ | ⟨j, -, -, hj, -, rfl⟩ := PageManager.pagingAllocateUserPageFrame_cases h₂
  · omega
  have hij : i ≠ j := fun he => by simp [he] at hj
  have hp₀ : pageIndex (UInt32.ofNat 0 * pageFrameSize) = 0 := Fin.ext (PageManager.pageIndex_page 0)
  have hp₁ : pageIndex (UInt32.ofNat 1 * pageFrameSize) = 1 := Fin.ext (PageManager.pageIndex_page 1)
  rw [PageManager.takeFrame_entry, PageManager.takeFrame_entry, PageManager.takeFrame_entry, hp₀, hp₁,
    if_neg fun he => absurd he.2 (by decide), if_pos ⟨rfl, rfl⟩, if_pos ⟨rfl, rfl⟩]
  exact fun he => hij (Fin.castLE_injective (by decide) he)

end Semogakelar.Memory
