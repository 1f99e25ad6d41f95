import Semogakelar.Library.Runs
import Semogakelar.Memory.Frames

/-! The page manager under any sequence of its four calls: the counter, the map and the directories agree. -/

namespace Semogakelar.Memory.PageManager

open Function Library

variable {pm pm' : PageManager} {d e : Fin 32} {addr : UInt32} {p : Fin 1024} {L : Layout}

/-! ### Giving a frame back -/

lemma pageIndex_ne_kernelPage (h : addr < kernelVirtualAddressBase) : pageIndex addr ≠ kernelPage := by
  intro he
  have hv : addr.toNat / 2 ^ 22 % 1024 = 0x300 := congrArg Fin.val he
  have ha : addr.toNat < 0xC0000000 := UInt32.lt_iff_toNat_lt.mp h
  omega

lemma releaseFrame_entry (i : Fin 32) (q : Fin 1024) :
    (pm.releaseFrame d p i).pageDirectoryList e q =
      if e = d ∧ q = p then .zero else pm.pageDirectoryList e q := by
  by_cases he : e = d
  · subst he
    by_cases hq : q = p <;> simp [releaseFrame, hq]
  · simp [releaseFrame, he]

lemma releaseFrame_maps {i : Fin 32} {page : Fin 32 × Fin 1024} {f : Fin 1024}
    (h : (pm.releaseFrame d p i).Maps page f) : page ≠ (d, p) ∧ pm.Maps page f := by
  obtain ⟨e, q⟩ := page
  unfold Maps at h
  rw [releaseFrame_entry] at h
  split_ifs at h with hc
  · exact absurd h.2.1 (by decide)
  · refine ⟨?_, h⟩
    intro he
    exact hc (Prod.mk.inj he)

lemma Sound.releaseFrame {i : Fin 32} (h : pm.Sound) (hm : pm.Maps (d, p) (i.castLE (by decide))) :
    (pm.releaseFrame d p i).Sound := by
  obtain ⟨j, hj, hj₀, hmark⟩ := h.marked _ _ hm
  obtain rfl : i = j := Fin.ext hj
  constructor
  · simpa [PageManager.releaseFrame, hj₀.symm] using h.kernelFrame
  · have ht := tally_update (fun b => (!b).toNat) pm.pageFrameMap i false
    have hc := h.count
    simp only [hmark, Bool.not_false, Bool.toNat_true, Bool.not_true, Bool.toNat_false] at ht
    simp only [PageManager.releaseFrame]
    omega
  · intro e he
    funext q
    rw [releaseFrame_entry, h.unused e he, ite_self]
  · intro e he
    rw [releaseFrame_entry, if_neg (fun hp => hm.1 hp.2.symm), h.kernelEntry e he]
  · intro page f hf
    obtain ⟨hne, hold⟩ := releaseFrame_maps hf
    obtain ⟨k, hk, hk₀, hkm⟩ := h.marked page f hold
    refine ⟨k, hk, hk₀, ?_⟩
    -- a second page on the frame given back would have shared it before
    have hki : k ≠ i := by
      rintro rfl
      obtain rfl : f = k.castLE (by decide) := Fin.ext hk
      exact hne (h.exclusive _ _ _ hold hm)
    simpa [PageManager.releaseFrame, hki] using hkm
  · exact h.exclusive.mono fun _ _ hf => (releaseFrame_maps hf).2

lemma Sound.maps_lt {f : Fin 1024} {page : Fin 32 × Fin 1024} (h : pm.Sound) (hm : pm.Maps page f) :
    f.val < 32 := by
  obtain ⟨i, hi, -⟩ := h.marked page f hm
  omega

lemma Sound.pagingFreeUserPageFrame_isSome (h : pm.Sound) (ha : addr < kernelVirtualAddressBase) :
    (pm.pagingFreeUserPageFrame d addr).isSome := by
  simp only [PageManager.pagingFreeUserPageFrame]
  split_ifs with hp hlt
  · rfl
  · have hm : pm.Maps (d, pageIndex addr) (pm.pageDirectoryList d (pageIndex addr)).lowerAddress :=
      ⟨pageIndex_ne_kernelPage ha, hp, rfl⟩
    exact absurd (h.maps_lt hm) hlt
  · rfl

lemma Sound.pagingFreeUserPageFrame {b : Bool} (h : pm.Sound) (ha : addr < kernelVirtualAddressBase)
    (hf : pm.pagingFreeUserPageFrame d addr = some (b, pm')) : pm'.Sound := by
  simp only [PageManager.pagingFreeUserPageFrame] at hf
  split_ifs at hf with hp hlt
  · obtain ⟨-, rfl⟩ := Prod.mk.inj (Option.some.inj hf)
    apply h.releaseFrame
    exact ⟨pageIndex_ne_kernelPage ha, hp, rfl⟩
  · obtain ⟨-, rfl⟩ := Prod.mk.inj (Option.some.inj hf)
    exact h

/-! ### Giving a directory back -/

lemma releaseDirectory_maps {page : Fin 32 × Fin 1024} {f : Fin 1024}
    (h : (pm.releaseDirectory d).Maps page f) : pm.Maps page f := by
  obtain ⟨e, q⟩ := page
  by_cases he : e = d
  · subst he
    have hp : ((pm.releaseDirectory e).pageDirectoryList e q).flag.presentBit = true := h.2.1
    simp [releaseDirectory, PageDirectoryEntry.zero, noFlag] at hp
  · simpa [Maps, releaseDirectory, he] using h

lemma Sound.releaseDirectory (h : pm.Sound) : (pm.releaseDirectory d).Sound where
  kernelFrame := h.kernelFrame
  count := h.count
  unused := by
    intro e he
    by_cases hne : e = d
    · simp [PageManager.releaseDirectory, hne]
    · have he' : pm.pageDirectoryUsed e = false := by simpa [PageManager.releaseDirectory, hne] using he
      simpa [PageManager.releaseDirectory, hne] using h.unused e he'
  kernelEntry := by
    intro e he
    have hne : e ≠ d := fun hed => by simp [PageManager.releaseDirectory, hed] at he
    have he' : pm.pageDirectoryUsed e = true := by simpa [PageManager.releaseDirectory, hne] using he
    simpa [PageManager.releaseDirectory, hne] using h.kernelEntry e he'
  marked := fun page f hf => h.marked page f (releaseDirectory_maps hf)
  exclusive := h.exclusive.mono fun _ _ => releaseDirectory_maps

lemma pagingFreePageDirectory_cases (pm : PageManager) (L : Layout) (pageDir : UInt32) :
    (pm.pagingFreePageDirectory L pageDir).2 = pm ∨
      ∃ d, L.address d = pageDir ∧ (pm.pagingFreePageDirectory L pageDir).2 = pm.releaseDirectory d := by
  unfold pagingFreePageDirectory
  cases hf : Fin.find? fun i => L.address i == pageDir with
  | none => exact .inl rfl
  | some d =>
    have hd := (Fin.find?_eq_some_iff.mp hf).1
    exact .inr ⟨d, by simpa using hd, rfl⟩

/-! ### Any sequence of calls -/

inductive Call
  | pagingCreateNewPageDirectory
  | pagingAllocateUserPageFrame (pageDir : Fin 32) (virtualAddr : UInt32)
  | pagingFreeUserPageFrame (pageDir : Fin 32) (virtualAddr : UInt32)
  | pagingFreePageDirectory (pageDir : UInt32)

inductive Answer
  | directory (pageDir : Option (Fin 32))
  | success (b : Bool)
  deriving DecidableEq

def call (L : Layout) (pm : PageManager) : Call → Option (Answer × PageManager)
  | .pagingCreateNewPageDirectory =>
    some (pm.pagingCreateNewPageDirectory.elim (.directory none, pm) fun r => (.directory (some r.1), r.2))
  | .pagingAllocateUserPageFrame d addr =>
    (pm.pagingAllocateUserPageFrame d addr).map fun r => (.success r.1, r.2)
  | .pagingFreeUserPageFrame d addr => (pm.pagingFreeUserPageFrame d addr).map fun r => (.success r.1, r.2)
  | .pagingFreePageDirectory addr =>
    some (.success (pm.pagingFreePageDirectory L addr).1, (pm.pagingFreePageDirectory L addr).2)

def Permits (pm : PageManager) : Call → Prop
  | .pagingAllocateUserPageFrame d addr => pm.pageDirectoryUsed d = true ∧ addr < kernelVirtualAddressBase
  | .pagingFreeUserPageFrame _ addr => addr < kernelVirtualAddressBase
  | _ => True

def CallStep (L : Layout) (pm : PageManager) (c : Call) (a : Answer) (pm' : PageManager) : Prop :=
  pm.Permits c ∧ pm.call L c = some (a, pm')

lemma Sound.call_isSome {c : Call} (h : pm.Sound) (hc : pm.Permits c) : (pm.call L c).isSome := by
  cases c with
  | pagingCreateNewPageDirectory => rfl
  | pagingAllocateUserPageFrame d addr =>
    rw [call, Option.isSome_map]
    exact h.pagingAllocateUserPageFrame_isSome
  | pagingFreeUserPageFrame d addr =>
    rw [call, Option.isSome_map]
    exact h.pagingFreeUserPageFrame_isSome hc
  | pagingFreePageDirectory addr => rfl

lemma Sound.callStep {c : Call} {a : Answer} (h : pm.Sound) (hs : CallStep L pm c a pm') : pm'.Sound := by
  obtain ⟨hc, hs⟩ := hs
  cases c with
  | pagingCreateNewPageDirectory =>
    rw [call] at hs
    cases hd : pm.pagingCreateNewPageDirectory with
    | none =>
      rw [hd] at hs
      obtain ⟨-, rfl⟩ := Prod.mk.inj (Option.some.inj hs)
      exact h
    | some r =>
      rw [hd] at hs
      obtain ⟨-, rfl⟩ := Prod.mk.inj (Option.some.inj hs)
      obtain ⟨-, he⟩ := pagingCreateNewPageDirectory_eq_some hd
      rw [he]
      exact h.takeDirectory
  | pagingAllocateUserPageFrame d addr =>
    obtain ⟨⟨b, pm₁⟩, hr, he⟩ := Option.map_eq_some_iff.mp hs
    obtain ⟨-, rfl⟩ := Prod.mk.inj he
    obtain ⟨-, -, rfl⟩ | ⟨i, -, -, hi, -, rfl⟩ := pagingAllocateUserPageFrame_cases hr
    · exact h
    · exact h.takeFrame hc.1 (pageIndex_ne_kernelPage hc.2) hi
  | pagingFreeUserPageFrame d addr =>
    obtain ⟨⟨b, pm₁⟩, hr, he⟩ := Option.map_eq_some_iff.mp hs
    obtain ⟨-, rfl⟩ := Prod.mk.inj he
    exact h.pagingFreeUserPageFrame hc hr
  | pagingFreePageDirectory addr =>
    obtain ⟨-, rfl⟩ := Prod.mk.inj (Option.some.inj hs)
    obtain he | ⟨d, -, he⟩ := pagingFreePageDirectory_cases pm L addr
    · rw [he]
      exact h
    · rw [he]
      exact h.releaseDirectory

lemma tally_free : tally (fun b => (!b).toNat) pm.pageFrameMap =
    (Finset.univ.filter fun i => pm.pageFrameMap i = false).card := by
  rw [Finset.card_filter]
  apply Finset.sum_congr rfl
  intro i _
  cases pm.pageFrameMap i <;> rfl

def AllocatesLowest (pm : PageManager) (d : Fin 32) (addr : UInt32) (b : Bool) (pm' : PageManager) : Prop :=
  (b = true ↔ ∃ i, pm.pageFrameMap i = false) ∧ (b = false → pm' = pm) ∧
    (b = true → ∃ i, pm.pageFrameMap i = false ∧ (∀ j < i, pm.pageFrameMap j = true) ∧
      pm'.pageFrameMap = update pm.pageFrameMap i true ∧
      pm'.pageDirectoryUsed = pm.pageDirectoryUsed ∧
      pm'.pageDirectoryList = update pm.pageDirectoryList d
        (update (pm.pageDirectoryList d) (pageIndex addr) ⟨userFlag, i.castLE (by decide)⟩))

lemma Sound.allocatesLowest {b : Bool} (h : pm.Sound)
    (ha : pm.pagingAllocateUserPageFrame d addr = some (b, pm')) : pm.AllocatesLowest d addr b pm' := by
  obtain ⟨hz, rfl, rfl⟩ | ⟨i, rfl, -, hi, hlow, rfl⟩ := pagingAllocateUserPageFrame_cases ha
  · refine ⟨⟨(fun hb => nomatch hb), ?_⟩, fun _ => rfl, fun hb => nomatch hb⟩
    rintro ⟨i, hi⟩
    have hw := tally_eq_zero_iff.mp (h.count.symm.trans hz) i
    simp [hi] at hw
  · refine ⟨⟨fun _ => ⟨i, hi⟩, fun _ => rfl⟩, (fun hb => nomatch hb), fun _ => ⟨i, hi, hlow, rfl, rfl, ?_⟩⟩
    have hf : pageIndex (UInt32.ofNat i.val * pageFrameSize) = i.castLE (by decide) := Fin.ext (pageIndex_frame i)
    rw [PageManager.takeFrame, updatePageDirectoryEntry, hf]

theorem page_frames_accounted (L : Layout) (calls : List Call) (answers : List Answer) (pm : PageManager)
    (run : Run (CallStep L) initial calls answers pm) :
    pm.freePageFrameCount = (Finset.univ.filter fun i => pm.pageFrameMap i = false).card ∧
      pm.pageFrameMap 0 = true ∧
      (∀ page page' f, pm.Maps page f → pm.Maps page' f → page = page') ∧
      (∀ page f, pm.Maps page f → ∃ i : Fin 32, f.val = i.val ∧ 1 ≤ i.val ∧ pm.pageFrameMap i = true) ∧
      (∀ d addr, pm.pageDirectoryUsed d = true → addr < kernelVirtualAddressBase →
        ∃ b pm', pm.pagingAllocateUserPageFrame d addr = some (b, pm') ∧ pm.AllocatesLowest d addr b pm') ∧
      (∀ d, pm.pageDirectoryUsed d = false → ∀ page, pm.pageDirectoryList d page = .zero) ∧
      ∀ c, pm.Permits c → (pm.call L c).isSome := by
  have hs : pm.Sound := run.invariant (fun _ _ _ _ h hstep => h.callStep hstep) initial_sound
  refine ⟨hs.count.trans tally_free, hs.kernelFrame, hs.exclusive, ?_, ?_, ?_, fun c hc => hs.call_isSome hc⟩
  · intro page f hf
    obtain ⟨i, hi, hi₀, hm⟩ := hs.marked page f hf
    exact ⟨i, hi, Nat.one_le_iff_ne_zero.mpr (Fin.val_ne_of_ne hi₀), hm⟩
  · intro d addr _ _
    obtain ⟨⟨b, pm'⟩, hr⟩ := Option.isSome_iff_exists.mp hs.pagingAllocateUserPageFrame_isSome
    exact ⟨b, pm', hr, hs.allocatesLowest hr⟩
  · intro d hd page
    rw [hs.unused d hd]

def highPool : Layout := ⟨0xC0200000, 0xC0300000, by decide, by decide, by decide⟩

-- A page mapped twice and freed twice: the first of its frames stays marked.
theorem page_frames_accounted_remapped :
    ∃ pm, Run (CallStep highPool) initial
        [.pagingCreateNewPageDirectory, .pagingAllocateUserPageFrame 0 0, .pagingAllocateUserPageFrame 0 0,
          .pagingFreeUserPageFrame 0 0, .pagingFreeUserPageFrame 0 0, .pagingFreePageDirectory 0xC0300000]
        [.directory (some 0), .success true, .success true, .success true, .success false, .success true] pm ∧
      pm.freePageFrameCount = 30 ∧ (Finset.univ.filter fun i => pm.pageFrameMap i = false).card = 30 := by
  have hlow : (0 : UInt32) < kernelVirtualAddressBase := by decide
  have h₁ : CallStep highPool initial .pagingCreateNewPageDirectory (.directory (some 0))
      (initial.takeDirectory 0) := ⟨trivial, rfl⟩
  have h₂ : CallStep highPool (initial.takeDirectory 0) (.pagingAllocateUserPageFrame 0 0) (.success true)
      ((initial.takeDirectory 0).takeFrame 0 0 1) := ⟨⟨rfl, hlow⟩, rfl⟩
  have h₃ : CallStep highPool ((initial.takeDirectory 0).takeFrame 0 0 1) (.pagingAllocateUserPageFrame 0 0)
      (.success true) (((initial.takeDirectory 0).takeFrame 0 0 1).takeFrame 0 0 2) := ⟨⟨rfl, hlow⟩, rfl⟩
  have h₄ : CallStep highPool (((initial.takeDirectory 0).takeFrame 0 0 1).takeFrame 0 0 2)
      (.pagingFreeUserPageFrame 0 0) (.success true)
      ((((initial.takeDirectory 0).takeFrame 0 0 1).takeFrame 0 0 2).releaseFrame 0 0 2) := ⟨hlow, rfl⟩
  generalize hpm : (((initial.takeDirectory 0).takeFrame 0 0 1).takeFrame 0 0 2).releaseFrame 0 0 2 = pm at h₄
  have h₅ : CallStep highPool pm (.pagingFreeUserPageFrame 0 0) (.success false) pm := by
    refine ⟨hlow, ?_⟩
    rw [← hpm]
    rfl
  have h₆ : CallStep highPool pm (.pagingFreePageDirectory 0xC0300000) (.success true) (pm.releaseDirectory 0) :=
    ⟨trivial, rfl⟩
  have hrun := Run.cons h₁ (.cons h₂ (.cons h₃ (.cons h₄ (.cons h₅ (.cons h₆ .nil)))))
  have hc : (pm.releaseDirectory 0).freePageFrameCount = 30 := by
    rw [← hpm]
    rfl
  exact ⟨_, hrun, hc, (page_frames_accounted _ _ _ _ hrun).1.symm.trans hc⟩

end Semogakelar.Memory.PageManager
