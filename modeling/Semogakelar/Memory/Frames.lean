import Semogakelar.Library.Ownership
import Semogakelar.Library.Tallies
import Semogakelar.Memory.Paging

/-! The page manager's invariant: who holds which frame, and how many are left. -/

namespace Semogakelar.Memory.PageManager

open Function Library

variable {pm pm' : PageManager} {d : Fin 32} {addr : UInt32} {n : ℕ}

def Maps (pm : PageManager) (page : Fin 32 × Fin 1024) (f : Fin 1024) : Prop :=
  page.2 ≠ kernelPage ∧ (pm.pageDirectoryList page.1 page.2).flag.presentBit = true ∧
    (pm.pageDirectoryList page.1 page.2).lowerAddress = f

def usedFrames (pm : PageManager) : ℕ := tally Bool.toNat pm.pageFrameMap

def usedDirectories (pm : PageManager) : ℕ := tally Bool.toNat pm.pageDirectoryUsed

structure Sound (pm : PageManager) : Prop where
  kernelFrame : pm.pageFrameMap 0 = true
  count : pm.freePageFrameCount = tally (fun b => (!b).toNat) pm.pageFrameMap
  unused : ∀ d, pm.pageDirectoryUsed d = false → pm.pageDirectoryList d = fun _ => .zero
  kernelEntry : ∀ d, pm.pageDirectoryUsed d = true → pm.pageDirectoryList d kernelPage = kernelHigherHalf
  marked : ∀ page f, pm.Maps page f → ∃ i : Fin 32, f.val = i.val ∧ i ≠ 0 ∧ pm.pageFrameMap i = true
  exclusive : Exclusive pm.Maps

lemma initial_sound : initial.Sound where
  kernelFrame := rfl
  count := by decide
  unused := fun _ _ => rfl
  kernelEntry := fun _ h => nomatch h
  marked := fun _ _ h => nomatch h.2.1
  exclusive := fun _ _ _ h => nomatch h.2.1

lemma initial_usedFrames : initial.usedFrames = 1 := by
  decide

lemma pageIndex_frame (i : Fin 32) : (pageIndex (UInt32.ofNat i.val * pageFrameSize)).val = i.val := by
  revert i
  decide

lemma pageIndex_page (i : Fin 8) : (pageIndex (UInt32.ofNat i.val * pageFrameSize)).val = i.val := by
  revert i
  decide

lemma pagingAllocateCheck_pageFrameSize : pm.pagingAllocateCheck pageFrameSize = true ↔
    0 < pm.freePageFrameCount :=
  decide_eq_true_iff

/-! ### One frame -/

lemma pagingAllocateUserPageFrame_cases {b : Bool}
    (h : pm.pagingAllocateUserPageFrame d addr = some (b, pm')) :
    (pm.freePageFrameCount = 0 ∧ b = false ∧ pm' = pm) ∨
      ∃ i, b = true ∧ 0 < pm.freePageFrameCount ∧ pm.pageFrameMap i = false ∧
        (∀ j < i, pm.pageFrameMap j = true) ∧ pm' = pm.takeFrame d addr i := by
  simp only [pagingAllocateUserPageFrame, pagingAllocateCheck_pageFrameSize] at h
  split_ifs at h with hc
  · obtain ⟨i, hi, he⟩ := Option.map_eq_some_iff.mp h
    obtain ⟨rfl, rfl⟩ := Prod.mk.inj he
    rw [Fin.find?_eq_some_iff] at hi
    exact .inr ⟨i, rfl, hc, by simpa using hi.1, fun j hj => by simpa using hi.2 j hj, rfl⟩
  · obtain ⟨rfl, rfl⟩ := Prod.mk.inj (Option.some.inj h)
    exact .inl ⟨by omega, rfl, rfl⟩

lemma Sound.pagingAllocateUserPageFrame_isSome (h : pm.Sound) :
    (pm.pagingAllocateUserPageFrame d addr).isSome := by
  simp only [pagingAllocateUserPageFrame, pagingAllocateCheck_pageFrameSize, h.count]
  split_ifs with hc
  · obtain ⟨i, hi⟩ := exists_pos_of_tally_pos hc
    rw [Option.isSome_map, Fin.isSome_find?_iff]
    exact ⟨i, by cases hm : pm.pageFrameMap i <;> simp_all⟩
  · rfl

@[simp] lemma takeFrame_pageFrameMap (i : Fin 32) :
    (pm.takeFrame d addr i).pageFrameMap = update pm.pageFrameMap i true := rfl

@[simp] lemma takeFrame_freePageFrameCount (i : Fin 32) :
    (pm.takeFrame d addr i).freePageFrameCount = pm.freePageFrameCount - 1 := rfl

@[simp] lemma takeFrame_pageDirectoryUsed (i : Fin 32) :
    (pm.takeFrame d addr i).pageDirectoryUsed = pm.pageDirectoryUsed := rfl

lemma takeFrame_entry (i : Fin 32) (e : Fin 32) (p : Fin 1024) :
    (pm.takeFrame d addr i).pageDirectoryList e p =
      if e = d ∧ p = pageIndex addr then ⟨userFlag, i.castLE (by decide)⟩ else pm.pageDirectoryList e p := by
  have hi : pageIndex (UInt32.ofNat i.val * pageFrameSize) = i.castLE (by decide) := Fin.ext (pageIndex_frame i)
  by_cases he : e = d
  · subst he
    by_cases hp : p = pageIndex addr <;> simp [takeFrame, updatePageDirectoryEntry, hp, hi]
  · simp [takeFrame, he]

lemma takeFrame_maps (i : Fin 32) (hk : pageIndex addr ≠ kernelPage) (page : Fin 32 × Fin 1024) (f : Fin 1024) :
    (pm.takeFrame d addr i).Maps page f ↔ assign pm.Maps (d, pageIndex addr) (i.castLE (by decide)) page f := by
  obtain ⟨e, p⟩ := page
  unfold Maps assign
  rw [takeFrame_entry]
  by_cases h : e = d ∧ p = pageIndex addr
  · obtain ⟨rfl, rfl⟩ := h
    simp only [and_self, if_true, userFlag, true_and, ne_eq, not_true_eq_false, false_and, or_false]
    exact ⟨fun hf => hf.2.symm, fun hf => ⟨hk, hf.symm⟩⟩
  · simp [h]

lemma Sound.takeFrame {i : Fin 32} (h : pm.Sound) (hd : pm.pageDirectoryUsed d = true)
    (hk : pageIndex addr ≠ kernelPage) (hi : pm.pageFrameMap i = false) : (pm.takeFrame d addr i).Sound where
  kernelFrame := by
    have hi₀ : (0 : Fin 32) ≠ i := fun he => by simp [← he, h.kernelFrame] at hi
    simpa [hi₀] using h.kernelFrame
  count := by
    have ht := tally_update (fun b => (!b).toNat) pm.pageFrameMap i true
    have hc := h.count
    simp only [hi, Bool.not_false, Bool.toNat_true, Bool.not_true, Bool.toNat_false] at ht
    rw [takeFrame_freePageFrameCount, takeFrame_pageFrameMap]
    omega
  unused := by
    intro e he
    have hne : e ≠ d := fun hed => by simp [hed, hd] at he
    funext p
    rw [takeFrame_entry, if_neg (fun hp => hne hp.1), h.unused e he]
  kernelEntry := by
    intro e he
    rw [takeFrame_entry, if_neg (fun hp => hk hp.2.symm), h.kernelEntry e he]
  marked := by
    intro page f hf
    rw [takeFrame_maps i hk] at hf
    obtain ⟨-, rfl⟩ | ⟨-, hf⟩ := hf
    · have hi₀ : i ≠ 0 := fun he => by simp [he, h.kernelFrame] at hi
      exact ⟨i, rfl, hi₀, by simp⟩
    · obtain ⟨j, hj, hj₀, hm⟩ := h.marked page f hf
      have hji : j ≠ i := fun he => by simp [he, hi] at hm
      exact ⟨j, hj, hj₀, by simpa [hji] using hm⟩
  exclusive := by
    refine (h.exclusive.assign fun page hf => ?_).mono fun page f => (takeFrame_maps i hk page f).mp
    obtain ⟨j, hj, -, hm⟩ := h.marked page _ hf
    have hji : j = i := Fin.ext hj.symm
    simp [hji, hi] at hm

/-! ### A directory -/

lemma pagingCreateNewPageDirectory_eq_some (h : pm.pagingCreateNewPageDirectory = some (d, pm')) :
    pm.pageDirectoryUsed d = false ∧ pm' = pm.takeDirectory d := by
  obtain ⟨i, hi, he⟩ := Option.map_eq_some_iff.mp h
  obtain ⟨rfl, rfl⟩ := Prod.mk.inj he
  rw [Fin.find?_eq_some_iff] at hi
  exact ⟨by simpa using hi.1, rfl⟩

lemma pagingCreateNewPageDirectory_eq_none :
    pm.pagingCreateNewPageDirectory = none ↔ ∀ d, pm.pageDirectoryUsed d = true := by
  simp [pagingCreateNewPageDirectory]

lemma takeDirectory_maps (page : Fin 32 × Fin 1024) (f : Fin 1024) :
    (pm.takeDirectory d).Maps page f ↔ pm.Maps page f := by
  obtain ⟨e, p⟩ := page
  unfold Maps
  by_cases he : e = d
  · subst he
    by_cases hp : p = kernelPage <;> simp [takeDirectory, hp]
  · simp [takeDirectory, he]

lemma Sound.takeDirectory (h : pm.Sound) : (pm.takeDirectory d).Sound where
  kernelFrame := h.kernelFrame
  count := h.count
  unused := by
    intro e he
    have hne : e ≠ d := fun hed => by simp [PageManager.takeDirectory, hed] at he
    have he' : pm.pageDirectoryUsed e = false := by simpa [PageManager.takeDirectory, hne] using he
    simpa [PageManager.takeDirectory, hne] using h.unused e he'
  kernelEntry := by
    intro e he
    by_cases hne : e = d
    · simp [PageManager.takeDirectory, hne]
    · have he' : pm.pageDirectoryUsed e = true := by simpa [PageManager.takeDirectory, hne] using he
      simpa [PageManager.takeDirectory, hne] using h.kernelEntry e he'
  marked := fun page f hf => h.marked page f ((takeDirectory_maps page f).mp hf)
  exclusive := h.exclusive.mono fun page f => (takeDirectory_maps page f).mp

@[simp] lemma takeDirectory_usedFrames : (pm.takeDirectory d).usedFrames = pm.usedFrames := rfl

@[simp] lemma takeDirectory_freePageFrameCount : (pm.takeDirectory d).freePageFrameCount = pm.freePageFrameCount :=
  rfl

lemma takeDirectory_usedDirectories (hd : pm.pageDirectoryUsed d = false) :
    (pm.takeDirectory d).usedDirectories = pm.usedDirectories + 1 := by
  have ht := tally_update Bool.toNat pm.pageDirectoryUsed d true
  simpa [usedDirectories, takeDirectory, hd] using ht

/-! ### The frames of a process -/

lemma allocateUserPages_succ (h : pm.allocateUserPages d (n + 1) = some pm') :
    ∃ pm₁ b, pm.allocateUserPages d n = some pm₁ ∧
      pm₁.pagingAllocateUserPageFrame d (UInt32.ofNat n * pageFrameSize) = some (b, pm') := by
  obtain ⟨pm₁, h₁, h₂⟩ := Option.bind_eq_some_iff.mp h
  obtain ⟨⟨b, pm₂⟩, h₃, rfl⟩ := Option.map_eq_some_iff.mp h₂
  exact ⟨pm₁, b, h₁, h₃⟩

lemma pageIndex_lt_kernelPage (hn : n < 8) : pageIndex (UInt32.ofNat n * pageFrameSize) ≠ kernelPage := by
  have hp : (pageIndex (UInt32.ofNat n * pageFrameSize)).val = n := pageIndex_page ⟨n, hn⟩
  intro he
  rw [he] at hp
  exact absurd hp (by simp only [kernelPage]; omega)

lemma allocateUserPages_pageDirectoryUsed (h : pm.allocateUserPages d n = some pm') :
    pm'.pageDirectoryUsed = pm.pageDirectoryUsed := by
  induction n generalizing pm' with
  | zero =>
    cases h
    rfl
  | succ n ih =>
    obtain ⟨pm₁, b, h₁, h₂⟩ := allocateUserPages_succ h
    obtain ⟨-, -, rfl⟩ | ⟨i, -, -, -, -, rfl⟩ := pagingAllocateUserPageFrame_cases h₂
    · exact ih h₁
    · rw [takeFrame_pageDirectoryUsed, ih h₁]

lemma Sound.allocateUserPages (hs : pm.Sound) (hd : pm.pageDirectoryUsed d = true) (hn : n ≤ 8)
    (h : pm.allocateUserPages d n = some pm') : pm'.Sound := by
  induction n generalizing pm' with
  | zero =>
    cases h
    exact hs
  | succ n ih =>
    obtain ⟨pm₁, b, h₁, h₂⟩ := allocateUserPages_succ h
    have hs₁ := ih (by omega) h₁
    obtain ⟨-, -, rfl⟩ | ⟨i, -, -, hi, -, rfl⟩ := pagingAllocateUserPageFrame_cases h₂
    · exact hs₁
    · exact hs₁.takeFrame (by rw [allocateUserPages_pageDirectoryUsed h₁, hd]) (pageIndex_lt_kernelPage hn) hi

lemma Sound.allocateUserPages_isSome (hs : pm.Sound) (hd : pm.pageDirectoryUsed d = true) (hn : n ≤ 8) :
    (pm.allocateUserPages d n).isSome := by
  induction n with
  | zero => rfl
  | succ n ih =>
    obtain ⟨pm₁, h₁⟩ := Option.isSome_iff_exists.mp (ih (by omega))
    have hs₁ := hs.allocateUserPages hd (by omega) h₁
    rw [PageManager.allocateUserPages, h₁, Option.bind_some, Option.isSome_map]
    exact hs₁.pagingAllocateUserPageFrame_isSome

lemma allocateUserPages_counts (hn : n ≤ pm.freePageFrameCount) (h : pm.allocateUserPages d n = some pm') :
    pm'.usedFrames = pm.usedFrames + n ∧ pm'.freePageFrameCount + n = pm.freePageFrameCount := by
  induction n generalizing pm' with
  | zero =>
    cases h
    exact ⟨(Nat.add_zero _).symm, Nat.add_zero _⟩
  | succ n ih =>
    obtain ⟨pm₁, b, h₁, h₂⟩ := allocateUserPages_succ h
    obtain ⟨hu, hf⟩ := ih (by omega) h₁
    obtain ⟨hz, -, -⟩ | ⟨i, -, -, hi, -, rfl⟩ := pagingAllocateUserPageFrame_cases h₂
    · omega
    · have ht := tally_update Bool.toNat pm₁.pageFrameMap i true
      simp only [hi, Bool.toNat_false, Bool.toNat_true] at ht
      refine ⟨?_, by rw [takeFrame_freePageFrameCount]; omega⟩
      unfold usedFrames at *
      rw [takeFrame_pageFrameMap]
      omega

lemma allocateUserPages_taken (h : pm.allocateUserPages d n = some pm') {f : Fin 32}
    (hf : pm.pageFrameMap f = true) :
    pm'.pageFrameMap f = true := by
  induction n generalizing pm' with
  | zero =>
    cases h
    exact hf
  | succ n ih =>
    obtain ⟨pm₁, b, h₁, h₂⟩ := allocateUserPages_succ h
    obtain ⟨-, -, rfl⟩ | ⟨i, -, -, -, -, rfl⟩ := pagingAllocateUserPageFrame_cases h₂
    · exact ih h₁
    · rw [takeFrame_pageFrameMap]
      by_cases he : f = i
      · rw [he, update_self]
      · rw [update_of_ne he, ih h₁]

lemma allocateUserPages_entry (hn : n ≤ pm.freePageFrameCount) (hn₈ : n ≤ 8)
    (h : pm.allocateUserPages d n = some pm') {p : Fin 1024} (hp : p.val < n) :
    (pm'.pageDirectoryList d p).flag = userFlag ∧
      ∃ f : Fin 32, (pm'.pageDirectoryList d p).lowerAddress.val = f.val ∧ pm.pageFrameMap f = false := by
  induction n generalizing pm' with
  | zero => omega
  | succ n ih =>
    obtain ⟨pm₁, b, h₁, h₂⟩ := allocateUserPages_succ h
    obtain ⟨hu, hf⟩ := allocateUserPages_counts (by omega) h₁
    obtain ⟨hz, -, -⟩ | ⟨j, -, -, hj, -, rfl⟩ := pagingAllocateUserPageFrame_cases h₂
    · omega
    · have hn' : (pageIndex (UInt32.ofNat n * pageFrameSize)).val = n := pageIndex_page ⟨n, by omega⟩
      rw [takeFrame_entry]
      split_ifs with hc
      · refine ⟨rfl, j, rfl, ?_⟩
        by_contra htaken
        rw [allocateUserPages_taken h₁ (Bool.not_eq_false _ ▸ htaken)] at hj
        cases hj
      · have hne : p ≠ pageIndex (UInt32.ofNat n * pageFrameSize) := fun he => hc ⟨rfl, he⟩
        have hv := Fin.val_ne_of_ne hne
        exact ih (by omega) (by omega) h₁ (by omega)

lemma allocateUserPages_present (hn : n ≤ pm.freePageFrameCount) (hn₈ : n ≤ 8)
    (h : pm.allocateUserPages d n = some pm') {i : Fin 1024} (hi : i.val < n) :
    (pm'.pageDirectoryList d i).flag.presentBit = true := by
  rw [(allocateUserPages_entry hn hn₈ h hi).1]
  rfl

end Semogakelar.Memory.PageManager
