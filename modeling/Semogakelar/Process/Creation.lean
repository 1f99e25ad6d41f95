import Semogakelar.Fat32.Read
import Semogakelar.Library.Runs
import Semogakelar.Memory.Frames
import Semogakelar.Process.Kernel

/-! What process creation can do to the kernel, and what a failed creation leaves behind. -/

namespace Semogakelar.Process.Kernel

open Function Memory Fat32 Library

variable {L : Layout} {fuel : ℕ} {fs : FileSystem} {request : ProcessRequest} {k k' : Kernel} {code : ℤ}
  {pIndex : Fin 16} {newPage : Fin 32} {paging : PageManager}

structure Admits (k : Kernel) (request : ProcessRequest) : Prop where
  active : k.activeProcessCount < 16
  entrypoint : request.buf < kernelVirtualAddressBase
  enough : k.paging.pagingAllocateCheck (pageFrameCountNeeded request) = true
  needed : pageFrameCountNeeded request ≤ 8
  directory : ∃ d, k.paging.pageDirectoryUsed d = false

structure Reserves (k : Kernel) (request : ProcessRequest) (pIndex : Fin 16) (newPage : Fin 32)
    (paging : PageManager) : Prop where
  admits : k.Admits request
  slot : processListGetInactiveIndex k.processList = some pIndex
  directory : k.paging.pagingCreateNewPageDirectory = some (newPage, k.paging.takeDirectory newPage)
  frames : (k.paging.takeDirectory newPage).allocateUserPages newPage
    (pageFrameCountNeeded request).toNat = some paging

lemma Reserves.slot_new (h : k.Reserves request pIndex newPage paging) : (k.processList pIndex).state = .new := by
  have hs := h.slot
  rw [processListGetInactiveIndex, Fin.find?_eq_some_iff] at hs
  simpa using hs.1

lemma Reserves.newPage_unused (h : k.Reserves request pIndex newPage paging) :
    k.paging.pageDirectoryUsed newPage = false :=
  (PageManager.pagingCreateNewPageDirectory_eq_some h.directory).1

lemma Reserves.pageDirectoryUsed (h : k.Reserves request pIndex newPage paging) :
    paging.pageDirectoryUsed = update k.paging.pageDirectoryUsed newPage true :=
  PageManager.allocateUserPages_pageDirectoryUsed h.frames

lemma Reserves.sound (hr : k.Reserves request pIndex newPage paging) (h : k.paging.Sound) : paging.Sound :=
  h.takeDirectory.allocateUserPages (update_self ..) (UInt32.le_iff_toNat_le.mp hr.admits.needed) hr.frames

lemma Reserves.used_mono (hr : k.Reserves request pIndex newPage paging) {d : Fin 32}
    (hd : k.paging.pageDirectoryUsed d = true) : paging.pageDirectoryUsed d = true := by
  rw [hr.pageDirectoryUsed]
  by_cases he : d = newPage <;> simp [he, hd]

lemma Reserves.processCreateUserProcess_eq (h : k.Reserves request pIndex newPage paging) :
    processCreateUserProcess L fuel fs request k =
      loadUserProcess L fuel fs request (k.reserve request pIndex paging) pIndex newPage := by
  have ha := h.admits
  rw [processCreateUserProcess, if_neg (not_le.mpr ha.active), if_neg (UInt32.not_le.mpr ha.entrypoint),
    if_neg (by simp [ha.enough, ha.needed]), h.slot, Option.bind_some, h.directory]
  simp only [h.frames, Option.bind_some]

def Refusal (k : Kernel) (code : ℤ) : Prop :=
  code ≠ processCreateSuccess ∧ (code = processCreateFailMaxProcessExceeded ↔ 16 ≤ k.activeProcessCount)

lemma processCreateUserProcess_cases (h : processCreateUserProcess L fuel fs request k = some (code, k')) :
    (¬ k.Admits request ∧ k.Refusal code ∧ k' = k) ∨
      ∃ pIndex newPage paging, k.Reserves request pIndex newPage paging ∧
        loadUserProcess L fuel fs request (k.reserve request pIndex paging) pIndex newPage = some (code, k') := by
  unfold processCreateUserProcess at h
  split_ifs at h with h₁ h₂ h₃
  · obtain ⟨rfl, rfl⟩ := Prod.mk.inj (Option.some.inj h)
    exact .inl ⟨fun ha => absurd ha.active (not_lt.mpr h₁), ⟨by decide, iff_of_true rfl h₁⟩, rfl⟩
  · obtain ⟨rfl, rfl⟩ := Prod.mk.inj (Option.some.inj h)
    exact .inl ⟨fun ha => absurd ha.entrypoint (UInt32.not_lt.mpr h₂),
      ⟨by decide, iff_of_false (by decide) h₁⟩, rfl⟩
  · obtain ⟨rfl, rfl⟩ := Prod.mk.inj (Option.some.inj h)
    refine .inl ⟨fun ha => ?_, ⟨by decide, iff_of_false (by decide) h₁⟩, rfl⟩
    exact h₃.elim (fun hn => hn ha.enough) fun hn => absurd ha.needed (UInt32.not_le.mpr hn)
  · obtain ⟨pIndex, hp, h⟩ := Option.bind_eq_some_iff.mp h
    cases hd : k.paging.pagingCreateNewPageDirectory with
    | none =>
      rw [hd] at h
      obtain ⟨rfl, rfl⟩ := Prod.mk.inj (Option.some.inj h)
      rw [PageManager.pagingCreateNewPageDirectory_eq_none] at hd
      refine .inl ⟨fun ha => ?_, ⟨by decide, iff_of_false (by decide) h₁⟩, rfl⟩
      obtain ⟨d, hu⟩ := ha.directory
      simp [hd d] at hu
    | some r =>
      obtain ⟨newPage, pm⟩ := r
      rw [hd] at h
      obtain ⟨paging, hf, hl⟩ := Option.bind_eq_some_iff.mp h
      obtain ⟨hu, rfl⟩ := PageManager.pagingCreateNewPageDirectory_eq_some hd
      obtain ⟨h₃, h₄⟩ := not_or.mp h₃
      have ha : k.Admits request :=
        ⟨not_le.mp h₁, UInt32.not_le.mp h₂, not_not.mp h₃, UInt32.not_lt.mp h₄, newPage, hu⟩
      exact .inr ⟨pIndex, newPage, paging, ⟨ha, hp, hd, hf⟩, hl⟩

lemma loadUserProcess_cases (h : loadUserProcess L fuel fs request k pIndex newPage = some (code, k')) :
    (code = processCreateFailFsReadFailure ∧
        k' = { k with cr3 := pagingUsePageDirectory (pagingGetCurrentPageDirectoryAddr k.cr3) }) ∨
      ∃ memory, code = processCreateSuccess ∧ k' = { k with
        cr3 := pagingUsePageDirectory (pagingGetCurrentPageDirectoryAddr k.cr3)
        memory := memory }.launch L request pIndex newPage := by
  simp only [loadUserProcess] at h
  split at h
  · split_ifs at h with hr
    · obtain ⟨rfl, rfl⟩ := Prod.mk.inj (Option.some.inj h)
      exact .inl ⟨rfl, rfl⟩
    · obtain ⟨memory, -, he⟩ := Option.map_eq_some_iff.mp h
      obtain ⟨rfl, rfl⟩ := Prod.mk.inj he
      exact .inr ⟨memory, rfl, rfl⟩
  · cases h
  · cases h

lemma loadUserProcess_failed {retVal : ℤ} {t : Transfer}
    (h : read fuel fs (request.driverRequest (k.paging.pageDirectoryList newPage) k.memory) = .returned retVal t)
    (hr : retVal ≠ 0) : loadUserProcess L fuel fs request k pIndex newPage = some (processCreateFailFsReadFailure,
      { k with cr3 := pagingUsePageDirectory (pagingGetCurrentPageDirectoryAddr k.cr3) }) := by
  simp only [loadUserProcess, h]
  rw [if_pos hr]

lemma loadUserProcess_loaded {t : Transfer} {memory : PhysicalMemory}
    (h : read fuel fs (request.driverRequest (k.paging.pageDirectoryList newPage) k.memory) = .returned 0 t)
    (hm : loadImage (k.paging.pageDirectoryList newPage) request (k.processList pIndex) t k.memory = some memory) :
    loadUserProcess L fuel fs request k pIndex newPage = some (processCreateSuccess, { k with
      cr3 := pagingUsePageDirectory (pagingGetCurrentPageDirectoryAddr k.cr3)
      memory := memory }.launch L request pIndex newPage) := by
  simp only [loadUserProcess, h]
  rw [if_neg (not_not.mpr rfl), hm, Option.map_some]

lemma processCreateUserProcess_exceeded (h : processCreateUserProcess L fuel fs request k = some (code, k')) :
    code = processCreateFailMaxProcessExceeded ↔ 16 ≤ k.activeProcessCount := by
  obtain ⟨-, hc, -⟩ | ⟨pIndex, newPage, paging, hr, hl⟩ := processCreateUserProcess_cases h
  · exact hc.2
  · have hlt := hr.admits.active
    obtain ⟨rfl, -⟩ | ⟨-, rfl, -⟩ := loadUserProcess_cases hl
    · exact iff_of_false (by decide) (not_le.mpr hlt)
    · exact iff_of_false (by decide) (not_le.mpr hlt)

structure Created (L : Layout) (k k' : Kernel) (request : ProcessRequest) (pIndex : Fin 16) (newPage : Fin 32)
    (paging : PageManager) : Prop where
  reserves : k.Reserves request pIndex newPage paging
  processList : k'.processList = update k.processList pIndex
    (((k.processList pIndex).withPages (pageFrameCountNeeded request)).created request.name (L.address newPage)
      (processGenerateNewPid (k.reserve request pIndex paging).processList 16 1))
  runningProcessIdx : k'.runningProcessIdx = k.runningProcessIdx
  activeProcessCount : k'.activeProcessCount = k.activeProcessCount + 1
  paging : k'.paging = paging

lemma Reserves.created (hr : k.Reserves request pIndex newPage paging) (cr3 : UInt32) (memory : PhysicalMemory) :
    Created L k ({ k.reserve request pIndex paging with cr3 := cr3, memory := memory }.launch L
      request pIndex newPage)
      request pIndex newPage paging where
  reserves := hr
  processList := by simp [launch, reserve]
  runningProcessIdx := rfl
  activeProcessCount := rfl
  paging := rfl

structure TableKept (k k' : Kernel) : Prop where
  runningProcessIdx : k'.runningProcessIdx = k.runningProcessIdx
  activeProcessCount : k'.activeProcessCount = k.activeProcessCount
  state : ∀ i, (k'.processList i).state = (k.processList i).state
  pid : ∀ i, (k'.processList i).pid = (k.processList i).pid
  context : ∀ i, (k'.processList i).context = (k.processList i).context
  live : ∀ i, (k.processList i).state ≠ .new → k'.processList i = k.processList i

lemma Reserves.tableKept (hr : k.Reserves request pIndex newPage paging) (cr3 : UInt32) :
    TableKept k { k.reserve request pIndex paging with cr3 := cr3 } := by
  refine ⟨rfl, rfl, fun i => ?_, fun i => ?_, fun i => ?_, fun i hi => ?_⟩
  · by_cases he : i = pIndex <;> simp [reserve, ProcessControlBlock.withPages, he]
  · by_cases he : i = pIndex <;> simp [reserve, ProcessControlBlock.withPages, he]
  · by_cases he : i = pIndex <;> simp [reserve, ProcessControlBlock.withPages, he]
  · have he : i ≠ pIndex := fun he => hi (he ▸ hr.slot_new)
    simp [reserve, he]

lemma processCreateUserProcess_outcomes (h : processCreateUserProcess L fuel fs request k = some (code, k')) :
    (code ≠ processCreateSuccess ∧ TableKept k k') ∨
      code = processCreateSuccess ∧ ∃ pIndex newPage paging, Created L k k' request pIndex newPage paging := by
  obtain ⟨-, hc, rfl⟩ | ⟨pIndex, newPage, paging, hr, hl⟩ := processCreateUserProcess_cases h
  · exact .inl ⟨hc.1, rfl, rfl, fun _ => rfl, fun _ => rfl, fun _ => rfl, fun _ _ => rfl⟩
  · obtain ⟨rfl, rfl⟩ | ⟨memory, rfl, rfl⟩ := loadUserProcess_cases hl
    · exact .inl ⟨by decide, hr.tableKept _⟩
    · exact .inr ⟨rfl, pIndex, newPage, paging, hr.created _ _⟩

/-! ### Failed creations -/

structure Unchanged (k k' : Kernel) : Prop where
  processList : k'.processList = k.processList
  activeProcessCount : k'.activeProcessCount = k.activeProcessCount
  runningProcessIdx : k'.runningProcessIdx = k.runningProcessIdx
  pageFrameMap : k'.paging.pageFrameMap = k.paging.pageFrameMap
  freePageFrameCount : k'.paging.freePageFrameCount = k.paging.freePageFrameCount
  pageDirectoryUsed : k'.paging.pageDirectoryUsed = k.paging.pageDirectoryUsed
  pageDirectoryList : k'.paging.pageDirectoryList = k.paging.pageDirectoryList
  cr3 : k'.cr3 = k.cr3

structure Exec where
  fuel : ℕ
  fs : FileSystem
  request : ProcessRequest

def Fails (L : Layout) (k : Kernel) (e : Exec) (code : ℤ) (k' : Kernel) : Prop :=
  processCreateUserProcess L e.fuel e.fs e.request k = some (code, k') ∧ code ≠ processCreateSuccess

variable {e : Exec}

lemma Fails.eq_of_not_admits (h : Fails L k e code k') (ha : ¬ k.Admits e.request) : k' = k := by
  obtain ⟨-, -, rfl⟩ | ⟨_, _, _, hr, -⟩ := processCreateUserProcess_cases h.1
  · rfl
  · exact absurd hr.admits ha

lemma Fails.leaks (h : Fails L k e code k') (ha : k.Admits e.request) :
    ∃ newPage, k.paging.pageDirectoryUsed newPage = false ∧ k'.paging.pageDirectoryUsed newPage = true := by
  obtain ⟨hn, -, -⟩ | ⟨pIndex, newPage, paging, hr, hl⟩ := processCreateUserProcess_cases h.1
  · exact absurd ha hn
  · obtain ⟨-, rfl⟩ | ⟨_, hc, -⟩ := loadUserProcess_cases hl
    · refine ⟨newPage, hr.newPage_unused, ?_⟩
      change paging.pageDirectoryUsed newPage = true
      rw [hr.pageDirectoryUsed, update_self]
    · exact absurd hc h.2

theorem failed_creation_unchanged_iff (L : Layout) :
    (∀ k e code k', Fails L k e code k' → (Unchanged k k' ↔ ¬ k.Admits e.request)) ∧
    ∀ k es codes k', Run (fun k e code k' => Fails L k e code k' ∧ ¬ k.Admits e.request) k es codes k' →
      Unchanged k k' ∧ ∀ fuel fs request,
        processCreateUserProcess L fuel fs request k' = processCreateUserProcess L fuel fs request k := by
  refine ⟨fun k e code k' h => ⟨fun hu ha => ?_, fun ha => ?_⟩, fun k es codes k' hrun => ?_⟩
  · obtain ⟨d, hd, hd'⟩ := h.leaks ha
    rw [hu.pageDirectoryUsed, hd] at hd'
    cases hd'
  · obtain rfl := h.eq_of_not_admits ha
    exact ⟨rfl, rfl, rfl, rfl, rfl, rfl, rfl, rfl⟩
  · have he : k' = k := hrun.invariant (P := fun s => s = k)
      (fun s e code t hs ht => (ht.1.eq_of_not_admits ht.2).trans hs) rfl
    subst he
    exact ⟨⟨rfl, rfl, rfl, rfl, rfl, rfl, rfl, rfl⟩, fun _ _ _ => rfl⟩

lemma linked_kernel : kernelVirtualAddressBase < 0xC0200000 := by decide

lemma linked_pool : kernelVirtualAddressBase < 0xC0300000 := by decide

lemma linked_fits : (0xC0300000 : UInt32).toNat + 32 * 4096 ≤ 2 ^ 32 := by decide

def linked : Layout := ⟨0xC0200000, 0xC0300000, linked_kernel, linked_pool, linked_fits⟩

def bootKernel : Kernel := initial linked fun _ => 0

lemma initial_reserves (L : Layout) (memory : PhysicalMemory) :
    ∃ paging, (initial L memory).Reserves shellRequest 0 0 paging := by
  have hs : (PageManager.initial.takeDirectory 0).Sound := PageManager.initial_sound.takeDirectory
  have hu : (PageManager.initial.takeDirectory 0).pageDirectoryUsed 0 = true := rfl
  obtain ⟨paging, hp⟩ := Option.isSome_iff_exists.mp (hs.allocateUserPages_isSome (n := 2) hu (by decide))
  refine ⟨paging, ⟨?_, ?_, ?_, hp⟩⟩
  · have ha : (0 : ℤ) < 16 := by decide
    have he : PageManager.initial.pagingAllocateCheck (pageFrameCountNeeded shellRequest) = true := by decide
    exact ⟨ha, by decide, he, by decide, 0, rfl⟩
  · exact Fin.find?_eq_some_iff.mpr ⟨rfl, fun j hj => absurd hj (Fin.not_lt_zero j)⟩
  · rw [PageManager.pagingCreateNewPageDirectory, Fin.find?_eq_some_iff.mpr
      ⟨rfl, fun j hj => absurd hj (Fin.not_lt_zero j)⟩]
    rfl

lemma read_shell_formatted (fuel : ℕ) (pageDir : PageDirectory) (memory : PhysicalMemory) :
    ∃ t, read fuel formatted (shellRequest.driverRequest pageDir memory) = .returned 2 t := by
  have hm : findEntry (formatted.table rootClusterNumber) (shellRequest.driverRequest pageDir memory) = none := by
    rw [findEntry_eq_none]
    rintro i ⟨hn, -⟩
    have hs : (formatted.table rootClusterNumber i).name = shellRequest.name := hn
    rcases formatted_name i with h | h
    · exact absurd (h.symm.trans hs) (by decide)
    · exact absurd (h.symm.trans hs) (by decide)
  exact ⟨_, read_of_none fuel formatted_rootTable.1.folder hm⟩

theorem failed_creation_leaks_formatted : ∃ k',
    Fails linked bootKernel ⟨1, formatted, shellRequest⟩ processCreateFailFsReadFailure k' ∧
      ¬ Unchanged bootKernel k' := by
  obtain ⟨paging, hr⟩ := initial_reserves linked fun _ => 0
  obtain ⟨t, ht⟩ := read_shell_formatted 1 (paging.pageDirectoryList 0) fun _ => 0
  have hk := hr.processCreateUserProcess_eq.trans (loadUserProcess_failed ht (by decide) (L := linked))
  have hf : Fails linked bootKernel ⟨1, formatted, shellRequest⟩ processCreateFailFsReadFailure _ :=
    ⟨hk, by decide⟩
  obtain ⟨d, hd, hd'⟩ := hf.leaks hr.admits
  refine ⟨_, hf, fun hu => ?_⟩
  rw [hu.pageDirectoryUsed, hd] at hd'
  cases hd'

def kernelBufferRequest : ProcessRequest := { shellRequest with buf := kernelVirtualAddressBase }

theorem failed_creation_unchanged_kernelBuffer :
    Fails linked bootKernel ⟨1, formatted, kernelBufferRequest⟩ processCreateFailInvalidEntrypoint bootKernel ∧
      Unchanged bootKernel bootKernel := by
  have hf : Fails linked bootKernel ⟨1, formatted, kernelBufferRequest⟩
      processCreateFailInvalidEntrypoint bootKernel :=
    ⟨rfl, by decide⟩
  exact ⟨hf, ((failed_creation_unchanged_iff linked).1 _ _ _ _ hf).mpr fun ha => absurd ha.entrypoint (by decide)⟩

end Semogakelar.Process.Kernel
