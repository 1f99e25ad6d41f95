import Semogakelar.Process.RoundRobin

/-! The memory that a new process asks for and the memory that it gets. -/

namespace Semogakelar.Process.Kernel

open Function Memory Fat32 Library

variable {L : Layout} {k k' : Kernel} {s i : Fin 16} {r : Resumption} {event : Event} {response : Response}
  {request : ProcessRequest}

/-- The frames for the executable and one more for the stack, over unbounded numbers. -/
def frameCount (request : ProcessRequest) : ℕ := (request.bufferSize.toNat + 2 ^ 22 + (2 ^ 22 - 1)) / 2 ^ 22

structure Granted (L : Layout) (k k' : Kernel) (n : ℕ) (pIndex : Fin 16) (newPage : Fin 32) : Prop where
  small : n ≤ 8
  slot : k.state pIndex = .new ∧ k'.state pIndex = .ready
  directory : k.paging.pageDirectoryUsed newPage = false ∧
    (k'.processList pIndex).context.pageDirectoryVirtualAddr = L.address newPage
  pages : ∀ p : Fin 1024, p.val < n → (k'.paging.pageDirectoryList newPage p).flag = userFlag ∧
    ∃ f : Fin 32, (k'.paging.pageDirectoryList newPage p).lowerAddress.val = f.val ∧
    k.paging.pageFrameMap f = false
  distinct : ∀ p q : Fin 1024, p.val < n → q.val < n → (k'.paging.pageDirectoryList newPage p).lowerAddress =
    (k'.paging.pageDirectoryList newPage q).lowerAddress → p = q
  free : k'.paging.freePageFrameCount + n = k.paging.freePageFrameCount
  recorded : (k'.processList pIndex).pageFrameUsedCount.toNat = n ∧
    ∀ j : Fin 8, j.val < n → (k'.processList pIndex).virtualAddrUsed j = UInt32.ofNat j * pageFrameSize

structure GrantsMemory (L : Layout) (k : Kernel) (request : ProcessRequest) : Prop where
  success : ∀ fuel fs k', processCreateUserProcess L fuel fs request k = some (processCreateSuccess, k') →
    ∃ pIndex newPage, Granted L k k' (frameCount request) pIndex newPage
  shortage : k.paging.freePageFrameCount < frameCount request →
    ∀ fuel fs, ∃ k', processCreateUserProcess L fuel fs request k = some (processCreateFailNotEnoughMemory, k')

/-! ### The count in 32 bits -/

lemma ceilDiv_pageFrameSize (a : UInt32) : (ceilDiv a pageFrameSize).toNat =
    (a.toNat + (2 ^ 22 - 1)) / 2 ^ 22 := by
  have hb := a.toNat_lt
  have hsize : pageFrameSize.toNat = 2 ^ 22 := rfl
  have hne : a % pageFrameSize ≠ 0 ↔ a.toNat % 2 ^ 22 ≠ 0 := by
    rw [Ne, ← UInt32.toNat_inj, UInt32.toNat_mod, hsize]
    rfl
  rw [ceilDiv, UInt32.toNat_add, UInt32.toNat_div, hsize]
  split_ifs with h
  · rw [hne] at h
    rw [show UInt32.toNat 1 = 1 from rfl]
    omega
  · rw [hne, not_not] at h
    rw [show UInt32.toNat 0 = 0 from rfl]
    omega

lemma pageFrameCountNeeded_toNat (request : ProcessRequest) : (pageFrameCountNeeded request).toNat =
    ((request.bufferSize.toNat + 2 ^ 22) % 2 ^ 32 + (2 ^ 22 - 1)) / 2 ^ 22 := by
  rw [pageFrameCountNeeded, ceilDiv_pageFrameSize, UInt32.toNat_add]
  rfl

lemma pageFrameCountNeeded_exact (h : request.bufferSize.toNat < 2 ^ 32 - 2 ^ 22) :
    (pageFrameCountNeeded request).toNat = frameCount request := by
  rw [pageFrameCountNeeded_toNat, frameCount, Nat.mod_eq_of_lt (by omega)]

lemma pageFrameCountNeeded_wrapped (h : 2 ^ 32 - 2 ^ 22 ≤ request.bufferSize.toNat) :
    (pageFrameCountNeeded request).toNat = if request.bufferSize.toNat = 2 ^ 32 - 2 ^ 22 then 0 else 1 := by
  have hb := request.bufferSize.toNat_lt
  rw [pageFrameCountNeeded_toNat]
  split_ifs
  · omega
  · omega

lemma needed_gt_eight : 8 < pageFrameCountNeeded request ↔
    8 < frameCount request ∧ request.bufferSize.toNat < 2 ^ 32 - 2 ^ 22 := by
  rw [UInt32.lt_iff_toNat_lt, show UInt32.toNat 8 = 8 from rfl]
  by_cases h : request.bufferSize.toNat < 2 ^ 32 - 2 ^ 22
  · rw [pageFrameCountNeeded_exact h]
    exact (and_iff_left h).symm
  · rw [pageFrameCountNeeded_wrapped (by omega)]
    refine iff_of_false ?_ fun hh => h hh.2
    split_ifs <;> omega

lemma pagingAllocateCheck_needed : ¬ k.paging.pagingAllocateCheck (pageFrameCountNeeded request) = true ↔
    k.paging.freePageFrameCount = 0 ∧ request.bufferSize.toNat ≠ 2 ^ 32 - 2 ^ 22 := by
  have hb := request.bufferSize.toNat_lt
  have hn := pageFrameCountNeeded_toNat request
  rw [PageManager.pagingAllocateCheck, decide_eq_true_iff, show pageFrameSize.toNat = 2 ^ 22 from rfl]
  by_cases h : request.bufferSize.toNat = 2 ^ 32 - 2 ^ 22
  · have hz : (pageFrameCountNeeded request).toNat = 0 := by omega
    rw [hz]
    simp [h]
  · have hpos : 0 < (pageFrameCountNeeded request).toNat ∧
        (pageFrameCountNeeded request).toNat < 2 ^ 22 := by omega
    rw [Nat.div_eq_of_lt hpos.2, Nat.mod_eq_of_lt hpos.2, if_pos hpos.1]
    omega

def ShortOfMemory (k : Kernel) (request : ProcessRequest) : Prop :=
  (8 < frameCount request ∧ request.bufferSize.toNat < 2 ^ 32 - 2 ^ 22) ∨
    (k.paging.freePageFrameCount = 0 ∧ request.bufferSize.toNat ≠ 2 ^ 32 - 2 ^ 22) ∨
    ∀ d, k.paging.pageDirectoryUsed d = true

lemma not_shortOfMemory : ¬ ShortOfMemory k request ↔
    k.paging.pagingAllocateCheck (pageFrameCountNeeded request) = true ∧ pageFrameCountNeeded request ≤ 8 ∧
      ∃ d, k.paging.pageDirectoryUsed d = false := by
  rw [ShortOfMemory, ← needed_gt_eight, ← pagingAllocateCheck_needed, not_or, not_or, not_not, UInt32.not_lt,
    not_forall]
  simp only [Bool.not_eq_true]
  exact and_left_comm

lemma refused (hb : Bounded k) (ha : k.activeProcessCount < 16) (he : request.buf < kernelVirtualAddressBase)
    (hs : ShortOfMemory k request) (fuel : ℕ) (fs : FileSystem) :
    processCreateUserProcess L fuel fs request k = some (processCreateFailNotEnoughMemory, k) := by
  obtain ⟨i, hi⟩ := exists_inactive hb.live ha
  rw [processCreateUserProcess, if_neg (not_le.mpr ha), if_neg (UInt32.not_le.mpr he)]
  split_ifs with hmem
  · rfl
  · have hdir : k.paging.pagingCreateNewPageDirectory = none := by
      rw [PageManager.pagingCreateNewPageDirectory_eq_none]
      rw [ShortOfMemory, ← needed_gt_eight, ← pagingAllocateCheck_needed, ← or_assoc, or_comm (a := 8 < _)] at hs
      exact hs.resolve_left hmem
    rw [hi, Option.bind_some, hdir]

lemma admits (ha : k.activeProcessCount < 16) (he : request.buf < kernelVirtualAddressBase)
    (hs : ¬ ShortOfMemory k request) : k.Admits request := by
  obtain ⟨hcheck, hneeded, hdir⟩ := not_shortOfMemory.mp hs
  exact ⟨ha, he, hcheck, hneeded, hdir⟩

lemma Admits.not_refused (h : k.Admits request) {fuel : ℕ} {fs : FileSystem} :
    processCreateUserProcess L fuel fs request k ≠ some (processCreateFailNotEnoughMemory, k') := by
  intro hc
  obtain ⟨hna, -⟩ | ⟨_, _, _, -, hl⟩ := processCreateUserProcess_cases hc
  · exact hna h
  · obtain ⟨hcode, -⟩ | ⟨_, hcode, -⟩ := loadUserProcess_cases hl
    · exact absurd hcode (by decide)
    · exact absurd hcode (by decide)

/-! ### The frames of a new process -/

lemma free_le (h : k.paging.Sound) : k.paging.freePageFrameCount ≤ 32 := by
  have hone : ∀ b : Bool, (!b).toNat + b.toNat = 1 := by decide
  have hsum := tally_add_tally hone k.paging.pageFrameMap
  rw [← h.count, Fintype.card_fin] at hsum
  omega

lemma frameCount_wrapped (h : 2 ^ 32 - 2 ^ 22 ≤ request.bufferSize.toNat) : 1024 ≤ frameCount request := by
  rw [frameCount]
  omega

section

variable {pIndex : Fin 16} {newPage : Fin 32} {paging : PageManager}

lemma Created.granted (hc : Created L k k' request pIndex newPage paging) (hs : k.paging.Sound)
    (hn : frameCount request ≤ k.paging.freePageFrameCount) :
    Granted L k k' (frameCount request) pIndex newPage := by
  have hfree := free_le hs
  have hexact : (pageFrameCountNeeded request).toNat = frameCount request := by
    refine pageFrameCountNeeded_exact ?_
    by_contra hlt
    have : 1024 ≤ frameCount request := frameCount_wrapped (by omega)
    omega
  have hr := hc.reserves
  have hsmall : frameCount request ≤ 8 := hexact ▸ UInt32.le_iff_toNat_le.mp hr.admits.needed
  have hframes := hr.frames
  rw [hexact] at hframes
  have hn' : frameCount request ≤ (k.paging.takeDirectory newPage).freePageFrameCount := hn
  have hentry := fun {p : Fin 1024} => PageManager.allocateUserPages_entry (p := p) hn' hsmall hframes
  have hsound := hr.sound hs
  have hkernel : ∀ p : Fin 1024, p.val < frameCount request → p ≠ kernelPage := by
    intro p hp he
    have : kernelPage.val = 768 := rfl
    rw [he] at hp
    omega
  have hmaps : ∀ p : Fin 1024, p.val < frameCount request →
      paging.Maps (newPage, p) (paging.pageDirectoryList newPage p).lowerAddress := fun p hp =>
    ⟨hkernel p hp, by rw [(hentry hp).1]; rfl, rfl⟩
  have hpcb : k'.processList pIndex = ((k.processList pIndex).withPages (pageFrameCountNeeded request)).created
      request.name (L.address newPage)
      (processGenerateNewPid (k.reserve request pIndex paging).processList 16 1) := by
    rw [hc.processList, update_self]
  refine ⟨hsmall, ⟨hr.slot_new, hc.state_self⟩, ⟨hr.newPage_unused, by rw [hpcb]; rfl⟩, fun p hp => ?_,
    fun p q hp hq he => ?_, ?_, ?_, fun j hj => ?_⟩
  · rw [hc.paging]
    exact hentry hp
  · rw [hc.paging] at he
    have hpage := hsound.exclusive _ _ _ (hmaps p hp) (he ▸ hmaps q hq)
    exact (Prod.mk.inj hpage).2
  · rw [hc.paging]
    exact (PageManager.allocateUserPages_counts hn' hframes).2
  · rw [hpcb]
    exact hexact
  · rw [hpcb]
    simp only [ProcessControlBlock.created, ProcessControlBlock.withPages]
    rw [hexact, if_pos hj]

end

lemma handle_sound (hs : k.paging.Sound) (h : k.handle L event = some (response, k')) : k'.paging.Sound := by
  cases event with
  | timer frame => exact (timer_rescheduled h).paging ▸ hs
  | create fuel fs request =>
    obtain ⟨code, -, hc⟩ := createEvent_cases h
    obtain ⟨-, -, rfl⟩ | ⟨pIndex, newPage, paging, hr, hl⟩ := processCreateUserProcess_cases hc
    · exact hs
    · obtain ⟨-, rfl⟩ | ⟨memory, -, rfl⟩ := loadUserProcess_cases hl
      · exact hr.sound hs
      · exact hr.sound hs
  | kill pid =>
    obtain ⟨code, hk⟩ := killEvent_cases h
    obtain ⟨s, -, ⟨-, hsw⟩ | ⟨-, -, ⟨-, rfl⟩ | ⟨i, -, rfl⟩⟩⟩ := killProcess_cases hk
    · exact (switch_rescheduled hsw).paging ▸ hs
    · exact hs
    · exact hs
  | terminate =>
    obtain ⟨s, -, hsw⟩ := terminateCurrentProcess_cases (terminateEvent_cases h)
    exact (switch_rescheduled hsw).paging ▸ hs

structure Supplied (k : Kernel) : Prop extends Bounded k where
  sound : k.paging.Sound

lemma Supplied.step (h : Supplied k) (hstep : Step L k event response k') : Supplied k' := by
  refine ⟨h.toBounded.step hstep, ?_⟩
  obtain ⟨-, memory, hh⟩ := hstep
  exact handle_sound (k := { k with memory := memory }) h.sound hh

lemma Booted.supplied {memory : PhysicalMemory} (h : Booted L memory k) : Supplied k := by
  refine ⟨h.bounded, ?_⟩
  obtain ⟨fuel, fs, code, k₁, r, hc, hsw⟩ := h.cases
  have hcreate : (initial L memory).handle L (.create fuel fs shellRequest) =
      some (⟨some code, .interrupted⟩, k₁) := by
    rw [handle, hc]
    rfl
  have h₁ : k₁.paging.Sound := handle_sound PageManager.initial_sound hcreate
  exact (switch_rescheduled hsw).paging ▸ h₁

lemma grantsMemory_iff (h : Supplied k) : GrantsMemory L k request ↔
    frameCount request ≤ k.paging.freePageFrameCount ∨
      k.activeProcessCount < 16 ∧ request.buf < kernelVirtualAddressBase ∧ ShortOfMemory k request := by
  constructor
  · intro hg
    by_contra hno
    obtain ⟨hfree, hno⟩ := not_or.mp hno
    obtain ⟨k', hc⟩ := hg.shortage (by omega) 0 formatted
    have ha : k.activeProcessCount < 16 := by
      by_contra hge
      rw [processCreateUserProcess, if_pos (not_lt.mp hge)] at hc
      exact absurd (Prod.mk.inj (Option.some.inj hc)).1 (by decide)
    have he : request.buf < kernelVirtualAddressBase := by
      by_contra hge
      rw [processCreateUserProcess, if_neg (not_le.mpr ha), if_pos (UInt32.not_lt.mp hge)] at hc
      exact absurd (Prod.mk.inj (Option.some.inj hc)).1 (by decide)
    exact (admits ha he fun hs => hno ⟨ha, he, hs⟩).not_refused hc
  · rintro (hn | ⟨ha, he, hs⟩)
    · refine ⟨fun fuel fs k' hc => ?_, fun hlt => absurd hn (by omega)⟩
      obtain ⟨hne, -⟩ | ⟨-, pIndex, newPage, paging, hcr⟩ := processCreateUserProcess_outcomes hc
      · exact absurd rfl hne
      · exact ⟨pIndex, newPage, hcr.granted h.sound hn⟩
    · have hr := refused (L := L) h.toBounded ha he hs
      refine ⟨fun fuel fs k' hc => ?_, fun _ fuel fs => ⟨k, hr fuel fs⟩⟩
      rw [hr] at hc
      exact absurd (Prod.mk.inj (Option.some.inj hc)).1 (by decide)

theorem memory_granted_iff {memory : PhysicalMemory} {k₀ : Kernel} {events : List Event}
    {responses : List Response} (hboot : Booted L memory k₀) (hrun : Run (Step L) k₀ events responses k)
      (request : ProcessRequest) :
    GrantsMemory L k request ↔ frameCount request ≤ k.paging.freePageFrameCount ∨
      k.activeProcessCount < 16 ∧ request.buf < kernelVirtualAddressBase ∧ ShortOfMemory k request :=
  grantsMemory_iff (hrun.invariant (P := Supplied) (fun _ _ _ _ h hstep => h.step hstep) hboot.supplied)

def wrappingRequest : ProcessRequest := { shellRequest with bufferSize := 0xFFFFFFFF }

theorem memory_not_granted_wrapping : ∃ k₀, Booted linked (fun _ => 0) k₀ ∧
    k₀.paging.freePageFrameCount = 29 ∧ frameCount wrappingRequest = 1025 ∧
    (∀ fuel fs k', processCreateUserProcess linked fuel fs wrappingRequest k₀ ≠
      some (processCreateFailNotEnoughMemory, k')) ∧ ¬ GrantsMemory linked k₀ wrappingRequest := by
  obtain ⟨k₀, hboot, hshell⟩ := boot_shellDisk linked fun _ => 0
  have hcount : frameCount wrappingRequest = 1025 := by decide
  have hshort : ¬ ShortOfMemory k₀ wrappingRequest := by
    rw [ShortOfMemory, hshell.free]
    rintro (⟨-, h⟩ | ⟨h, -⟩ | h)
    · exact absurd h (by decide)
    · exact absurd h (by decide)
    · have := h 1
      rw [hshell.directories] at this
      exact absurd this (by decide)
  have hadmits : k₀.Admits wrappingRequest := admits (by rw [hshell.active]; decide) (by decide) hshort
  refine ⟨k₀, hboot.booted, hshell.free, hcount, fun fuel fs k' => hadmits.not_refused, fun hg => ?_⟩
  obtain h | ⟨-, -, h⟩ := (grantsMemory_iff hboot.booted.supplied).mp hg
  · rw [hcount, hshell.free] at h
    exact absurd h (by decide)
  · exact hshort h

theorem memory_granted_shell : ∃ k₀ k', Booted linked (fun _ => 0) k₀ ∧
    processCreateUserProcess linked 2 shellDisk shellRequest k₀ = some (processCreateSuccess, k') ∧
    ∃ pIndex newPage, Granted linked k₀ k' 2 pIndex newPage := by
  obtain ⟨k₀, hboot, hshell⟩ := boot_shellDisk linked fun _ => 0
  obtain ⟨paging, hr⟩ := hshell.reserves (by decide : shellRequest.buf < kernelVirtualAddressBase) (by decide)
  obtain ⟨k', hc, -⟩ := create_shellDisk (L := linked) hr (by rw [hshell.free]; decide)
  have hgrants : GrantsMemory linked k₀ shellRequest :=
    (memory_granted_iff hboot.booted .nil shellRequest).mpr (.inl (by rw [hshell.free]; decide))
  exact ⟨k₀, k', hboot.booted, hc, hgrants.success 2 shellDisk k' hc⟩

end Semogakelar.Process.Kernel
