import Mathlib.Data.List.GetD
import Semogakelar.Process.Privacy

/-! Pointers of user code as the kernel follows them, through the page directory of the caller. -/

namespace Semogakelar.Memory

open Function

def loadBytes (pageDir : PageDirectory) (memory : PhysicalMemory) (addr : UInt32) : ℕ → Option (List UInt8)
  | 0 => some []
  | n + 1 => (loadBytes pageDir memory addr n).bind fun bytes =>
      (translate pageDir (addr + UInt32.ofNat n)).map fun a => bytes ++ [memory a]

variable {pageDir : PageDirectory} {memory memory' : PhysicalMemory} {addr addr' : UInt32} {a n m : ℕ}
  {data : ℕ → UInt8} {bytes : List UInt8}

def Faithful (pageDir : PageDirectory) : Prop :=
  ∀ addr addr' a, translate pageDir addr = some a → translate pageDir addr' = some a → addr = addr'

lemma PageManager.Sound.kernelPage_iff {pm : PageManager} (h : pm.Sound) {d : Fin 32}
    (hd : pm.pageDirectoryUsed d = true) (ha : translate (pm.pageDirectoryList d) addr = some a) :
    pageIndex addr = kernelPage ↔ a < 2 ^ 22 := by
  constructor
  · intro hp
    obtain ⟨-, rfl⟩ := translate_eq_some ha
    rw [hp, h.kernelEntry d hd]
    change 0 * 2 ^ 22 + _ < _
    omega
  · intro hlt
    by_contra hp
    exact absurd (h.holds_user ⟨addr, hp, ha⟩) (not_le.mpr hlt)

lemma PageManager.Sound.faithful {pm : PageManager} (h : pm.Sound) {d : Fin 32}
    (hd : pm.pageDirectoryUsed d = true) : Faithful (pm.pageDirectoryList d) := by
  intro addr addr' a ha ha'
  have hkernel : pageIndex addr = kernelPage ↔ pageIndex addr' = kernelPage :=
    (h.kernelPage_iff hd ha).trans (h.kernelPage_iff hd ha').symm
  obtain ⟨hpresent, rfl⟩ := translate_eq_some ha
  obtain ⟨hpresent', he⟩ := translate_eq_some ha'
  have hindex : pageIndex addr = pageIndex addr' := by
    by_cases hp : pageIndex addr = kernelPage
    · rw [hp, hkernel.mp hp]
    · have hframe : (pm.pageDirectoryList d (pageIndex addr)).lowerAddress =
          (pm.pageDirectoryList d (pageIndex addr')).lowerAddress := Fin.ext (by omega)
      have hpage := h.exclusive (d, pageIndex addr) (d, pageIndex addr') _ ⟨hp, hpresent, hframe⟩
        ⟨mt hkernel.mpr hp, hpresent', rfl⟩
      exact (Prod.mk.inj hpage).2
  have hindex := congrArg Fin.val hindex
  simp only [pageIndex, Fin.val_ofNat] at hindex
  have hlt := addr.toNat_lt
  have hlt' := addr'.toNat_lt
  apply UInt32.toNat_inj.mp
  omega

lemma pageIndex_ne_of_lt (h : addr.toNat < 0xC0000000) : pageIndex addr ≠ kernelPage := by
  intro he
  have he := congrArg Fin.val he
  simp only [pageIndex, Fin.val_ofNat] at he
  change addr.toNat / 2 ^ 22 % 1024 = 0x300 at he
  omega

lemma loadBytes_eq_some : loadBytes pageDir memory addr n = some bytes ↔
    bytes.length = n ∧ ∀ j < n, (translate pageDir (addr + UInt32.ofNat j)).map memory =
    some (bytes.getD j 0) := by
  induction n generalizing bytes with
  | zero => simp [loadBytes, eq_comm]
  | succ n ih =>
    constructor
    · intro h
      obtain ⟨front, hfront, h⟩ := Option.bind_eq_some_iff.mp h
      obtain ⟨a, ha, rfl⟩ := Option.map_eq_some_iff.mp h
      obtain ⟨hlength, hbytes⟩ := ih.mp hfront
      refine ⟨by simp [hlength], fun j hj => ?_⟩
      rcases Nat.lt_succ_iff_lt_or_eq.mp hj with hlt | rfl
      · rw [hbytes j hlt, List.getD_append _ _ _ _ (by omega)]
      · rw [ha, Option.map_some, List.getD_append_right _ _ _ _ (by omega), hlength, Nat.sub_self]
        rfl
    · rintro ⟨hlength, hbytes⟩
      have hfront : loadBytes pageDir memory addr n = some (bytes.take n) := by
        refine ih.mpr ⟨by simp [hlength], fun j hj => ?_⟩
        rw [hbytes j (by omega), List.getD_eq_getElem?_getD, List.getD_eq_getElem?_getD, List.getElem?_take,
          if_pos hj]
      obtain ⟨a, ha, hlast⟩ := Option.map_eq_some_iff.mp (hbytes n (Nat.lt_succ_self n))
      rw [loadBytes, hfront, Option.bind_some, ha, Option.map_some, hlast]
      have hn : n < bytes.length := by omega
      rw [List.getD_eq_getElem _ _ hn, List.take_append_getElem hn, ← hlength, List.take_length]

lemma loadBytes_isSome : (loadBytes pageDir memory addr n).isSome ↔
    ∀ j < n, (translate pageDir (addr + UInt32.ofNat j)).isSome := by
  constructor
  · intro h j hj
    obtain ⟨bytes, hbytes⟩ := Option.isSome_iff_exists.mp h
    have hj := (loadBytes_eq_some.mp hbytes).2 j hj
    rw [← Option.isSome_map (f := memory), hj, Option.isSome_some]
  · intro h
    induction n with
    | zero => rfl
    | succ n ih =>
      obtain ⟨bytes, hbytes⟩ := Option.isSome_iff_exists.mp (ih fun j hj => h j (by omega))
      rw [loadBytes, hbytes, Option.bind_some, Option.isSome_map]
      exact h n (Nat.lt_succ_self n)

lemma storeBytes_translate (hfaithful : Faithful pageDir)
    (h : storeBytes pageDir addr data n memory = some memory') (hn : n ≤ 2 ^ 32) :
    ∀ j < n, (translate pageDir (addr + UInt32.ofNat j)).map memory' = some (data j) := by
  induction n generalizing memory' with
  | zero => simp
  | succ n ih =>
    intro j hj
    obtain ⟨m₁, h₁, h⟩ := Option.bind_eq_some_iff.mp h
    obtain ⟨a, ha, rfl⟩ := Option.map_eq_some_iff.mp h
    rcases Nat.lt_succ_iff_lt_or_eq.mp hj with hlt | rfl
    · obtain ⟨b, hb, hdata⟩ := Option.map_eq_some_iff.mp (ih h₁ (by omega) j hlt)
      have hne : b ≠ a := by
        rintro rfl
        have he := congrArg UInt32.toNat (hfaithful _ _ _ hb ha)
        simp only [UInt32.toNat_add, UInt32.toNat_ofNat'] at he
        omega
      rw [hb, Option.map_some, update_of_ne hne, hdata]
    · rw [ha, Option.map_some, update_self]

lemma storeBytes_other (hfaithful : Faithful pageDir) (h : storeBytes pageDir addr data n memory = some memory')
    (hother : ∀ j < n, addr' ≠ addr + UInt32.ofNat j) :
    (translate pageDir addr').map memory' = (translate pageDir addr').map memory := by
  cases ha : translate pageDir addr' with
  | none => rfl
  | some a =>
    rw [Option.map_some, Option.map_some, storeBytes_frame h]
    intro j hj hb
    exact hother j hj (hfaithful _ _ _ ha hb)

end Semogakelar.Memory
