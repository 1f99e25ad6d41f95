import Semogakelar.Memory.Windows
import Semogakelar.Process.Scheduling

/-! Loading an executable into present pages succeeds, and so a disk with a shell boots. -/

namespace Semogakelar.Memory

open Function

variable {pageDir : PageDirectory} {addr : UInt32} {data : ℕ → UInt8} {n : ℕ} {memory : PhysicalMemory}

lemma translate_isSome (h : (pageDir (pageIndex addr)).flag.presentBit = true) :
    (translate pageDir addr).isSome := by
  rw [translate, if_pos h]
  rfl

lemma storeBytes_isSome (h : ∀ j < n, (translate pageDir (addr + UInt32.ofNat j)).isSome) :
    (storeBytes pageDir addr data n memory).isSome := by
  induction n with
  | zero => rfl
  | succ n ih =>
    obtain ⟨memory', hm⟩ := Option.isSome_iff_exists.mp (ih fun j hj => h j (Nat.lt_succ_of_lt hj))
    rw [storeBytes, hm, Option.bind_some, Option.isSome_map]
    exact h n (Nat.lt_succ_self n)

lemma memcpy_isSome {dest src : UInt32} (hd : ∀ j < n, (translate pageDir (dest + UInt32.ofNat j)).isSome)
    (hs : ∀ j < n, (translate pageDir (src + UInt32.ofNat j)).isSome) :
    (memcpy pageDir dest src n memory).isSome := by
  induction n with
  | zero => rfl
  | succ n ih =>
    obtain ⟨memory', hm⟩ := Option.isSome_iff_exists.mp
      (ih (fun j hj => hd j (Nat.lt_succ_of_lt hj)) fun j hj => hs j (Nat.lt_succ_of_lt hj))
    obtain ⟨b, hb⟩ := Option.isSome_iff_exists.mp (hs n (Nat.lt_succ_self n))
    rw [memcpy, hm, Option.bind_some, hb, Option.bind_some, Option.isSome_map]
    exact hd n (Nat.lt_succ_self n)

end Semogakelar.Memory

namespace Semogakelar.Process.Kernel

open Function Memory Fat32 Library

variable {L : Layout} {k : Kernel} {request : ProcessRequest} {pIndex : Fin 16} {newPage : Fin 32}
  {paging : PageManager}

lemma loadImage_isSome {pageDir : PageDirectory} {phys : ℕ → ℕ} {pcb : ProcessControlBlock} {t : Transfer}
    (hwin : Window pageDir (2 ^ 23) phys) (hbuf : request.buf.toNat ≤ 2 ^ 22) (hzero : pcb.virtualAddrUsed 0 = 0)
    (hone : pcb.virtualAddrUsed 1 = pageFrameSize) (ht : 2048 * t.clusters.length ≤ 2 ^ 22)
    (memory : PhysicalMemory) : (loadImage pageDir request pcb t memory).isSome := by
  have hsize : pageFrameSize.toNat = 2 ^ 22 := rfl
  have hpresent : ∀ addr : UInt32, addr.toNat ≤ 2 ^ 22 → ∀ j < 2 ^ 22,
      (translate pageDir (addr + UInt32.ofNat j)).isSome := by
    intro addr haddr j hj
    rw [hwin.translate_add (by omega)]
    rfl
  obtain ⟨m₁, hstore⟩ := Option.isSome_iff_exists.mp (@storeBytes_isSome _ _ t.buf _ memory fun j hj =>
    hpresent _ hbuf j (lt_of_lt_of_le hj ht))
  obtain ⟨m₂, hcopy⟩ := Option.isSome_iff_exists.mp (@memcpy_isSome _ pageFrameSize.toNat m₁ _ _
    (hpresent 0 (by decide)) (hpresent _ hbuf))
  rw [loadImage, hstore, Option.bind_some, hzero, hone, hcopy, Option.bind_some]
  exact storeBytes_isSome (hpresent pageFrameSize hsize.le)

lemma Reserves.create_of_read (hr : k.Reserves request pIndex newPage paging)
    (hf : 2 ≤ k.paging.freePageFrameCount) (hneeded : pageFrameCountNeeded request = 2)
    (hbuf : request.buf.toNat ≤ 2 ^ 22) {fuel : ℕ} {fs : FileSystem} {t : Transfer}
    (hread : read fuel fs (request.driverRequest (paging.pageDirectoryList newPage) k.memory) = .returned 0 t)
    (ht : 2048 * t.clusters.length ≤ 2 ^ 22) : ∃ k',
      processCreateUserProcess L fuel fs request k = some (processCreateSuccess, k') ∧
        Created L k k' request pIndex newPage paging := by
  have halloc := hr.frames
  rw [hneeded] at halloc
  have hpcb : (k.reserve request pIndex paging).processList pIndex = (k.processList pIndex).withPages 2 := by
    rw [reserve, hneeded]
    exact update_self ..
  have hwin := allocateUserPages_window (d := newPage) (by exact hf) halloc
  have hload : (loadImage (paging.pageDirectoryList newPage) request ((k.processList pIndex).withPages 2) t
      k.memory).isSome := loadImage_isSome hwin hbuf rfl rfl ht _
  obtain ⟨memory, hm⟩ := Option.isSome_iff_exists.mp hload
  rw [← hpcb] at hm
  exact ⟨_, hr.processCreateUserProcess_eq.trans (loadUserProcess_loaded hread hm), hr.created _ memory⟩

/-! ### A disk with a shell -/

def shellFile : DriverRequest := ⟨fun _ => 0, shellRequest.name, shellRequest.ext, rootClusterNumber, 2048⟩

def shellDisk : FileSystem := fileWritten formatted shellFile 2 3 []

lemma shell_fits : numberOfPartition shellFile.bufferSize ≤ (emptyClusters formatted.driver.fatTable).length := by
  rw [formatted, createFat32_fatTable, emptyClusters_formattedMap, List.length_range']
  decide

lemma shell_cluster :
    3 :: [] = (emptyClusters formatted.driver.fatTable).take (numberOfPartition shellFile.bufferSize) := by
  rw [formatted, createFat32_fatTable, emptyClusters_formattedMap]
  rfl

lemma read_shellDisk (pageDir : PageDirectory) (memory : PhysicalMemory) :
    ∃ t : Transfer, read 2 shellDisk (shellRequest.driverRequest pageDir memory) = .returned 0 t ∧
      t.clusters.length = 1 := by
  have hp : formatted.volume.IsDir shellFile.parentClusterNumber := formatted_isDir
  have hfree : ∀ j : Fin 64, ¬ ((formatted.table shellFile.parentClusterNumber j).name = shellFile.name ∧
      (formatted.table shellFile.parentClusterNumber j).ext = shellFile.ext) := by
    rintro j ⟨hn, -⟩
    rcases formatted_name j with h | h
    · exact absurd (h.symm.trans hn) (by decide)
    · exact absurd (h.symm.trans hn) (by decide)
  have hparent : (shellRequest.driverRequest pageDir memory).parentClusterNumber = shellFile.parentClusterNumber :=
    rfl
  have hsize : shellFile.bufferSize ≤ shellRequest.bufferSize := by decide
  refine ⟨_, read_fileWritten formatted_wellFormed hp (formatted_accepts rfl (by decide)) (by decide) hfree
    shell_fits
    shell_cluster hparent rfl rfl hsize (Nat.lt_succ_self 1), ?_⟩
  rw [Transfer.copyAll_clusters]
  rfl

lemma create_shellDisk (hr : k.Reserves shellRequest pIndex newPage paging)
    (hf : 2 ≤ k.paging.freePageFrameCount) : ∃ k',
      processCreateUserProcess L 2 shellDisk shellRequest k = some (processCreateSuccess, k') ∧
        Created L k k' shellRequest pIndex newPage paging := by
  obtain ⟨t, ht, hlen⟩ := read_shellDisk (paging.pageDirectoryList newPage) k.memory
  exact hr.create_of_read hf (by decide) (by decide) ht (by rw [hlen]; decide)

lemma processGenerateNewPid_free {processList : Fin 16 → ProcessControlBlock} {fuel : ℕ} {pid : UInt32}
    (h : ∀ i, (processList i).pid ≠ pid) : processGenerateNewPid processList (fuel + 1) pid = pid := by
  have hf : (Fin.find? fun i => (processList i).pid == pid) = none := by simpa using h
  rw [processGenerateNewPid, hf, Option.elim_none]

lemma processGenerateNewPid_taken {processList : Fin 16 → ProcessControlBlock} {fuel : ℕ} {pid : UInt32}
    {i : Fin 16} (h : (processList i).pid = pid) :
    processGenerateNewPid processList (fuel + 1) pid = processGenerateNewPid processList fuel (pid + 1) := by
  have hf : (Fin.find? fun i => (processList i).pid == pid).isSome := by
    rw [Fin.isSome_find?_iff]
    exact ⟨i, by simpa using h⟩
  obtain ⟨j, hj⟩ := Option.isSome_iff_exists.mp hf
  rw [processGenerateNewPid, hj, Option.elim_some]

lemma schedulerSwitchToNextProcess_first (hr : k.runningProcessIdx = none) (h : k.state 0 = .ready) :
    k.schedulerSwitchToNextProcess = (.switched 0 (k.processList 0).context, k.dispatch 0) := by
  have hs : searchReady k.processList none 16 0 = (0, 16) := by
    rw [searchReady, if_pos (.inr h)]
  simp only [schedulerSwitchToNextProcess, hr, hs]
  rw [if_neg (Option.some_ne_none _), if_neg (by decide)]

structure ShellRuns (k : Kernel) : Prop where
  running : k.runningProcessIdx = some 0
  state : k.state 0 = .running
  rest : ∀ i, i ≠ 0 → k.processList i = .zero
  pid : (k.processList 0).pid = 1
  pages : (k.processList 0).pageFrameUsedCount = 2
  active : k.activeProcessCount = 1
  sound : k.paging.Sound
  frames : k.paging.usedFrames = 3
  free : k.paging.freePageFrameCount = 29
  directories : k.paging.pageDirectoryUsed = update (fun _ => false) 0 true

lemma setup_shellDisk (L : Layout) (memory : PhysicalMemory) : ∃ k r,
    kernelSetup L 2 shellDisk memory = some (r, k) ∧ BootedShell L memory k ∧ k.ShellRuns := by
  obtain ⟨paging, hr⟩ := initial_reserves L memory
  obtain ⟨k₁, hc, h⟩ := create_shellDisk (L := L) hr (by decide : 2 ≤ PageManager.initial.freePageFrameCount)
  have hpid : processGenerateNewPid ((initial L memory).reserve shellRequest 0 paging).processList 16 1 = 1 := by
    refine processGenerateNewPid_free fun i => ?_
    by_cases hi : i = 0 <;> simp [reserve, hi, initial, ProcessControlBlock.zero, ProcessControlBlock.withPages]
  have hfree : 2 ≤ (PageManager.initial.takeDirectory 0).freePageFrameCount := by decide
  obtain ⟨hused, hleft⟩ := PageManager.allocateUserPages_counts hfree hr.frames
  rw [PageManager.takeDirectory_usedFrames, PageManager.initial_usedFrames] at hused
  rw [PageManager.takeDirectory_freePageFrameCount,
    show PageManager.initial.freePageFrameCount = 31 from rfl] at hleft
  have hstate : k₁.state 0 = .ready := by simp [state, h.processList, ProcessControlBlock.created]
  have hsw := schedulerSwitchToNextProcess_first h.runningProcessIdx hstate
  refine ⟨k₁.dispatch 0, .switched 0 (k₁.processList 0).context, ?_, ⟨2, shellDisk, k₁, _, hc, hsw⟩, rfl,
    by simp, fun i hi => ?_, ?_, ?_, ?_, ?_, ?_, ?_, ?_⟩
  · rw [kernelSetup, hc, Option.map_some, hsw]
  · simp [dispatch, markRunning, hi, h.processList, initial]
  · simp [dispatch, markRunning, h.processList, ProcessControlBlock.created, hpid]
  · simp [dispatch, markRunning, h.processList, ProcessControlBlock.created, ProcessControlBlock.withPages]
    decide
  · simp [dispatch, markRunning, h.activeProcessCount, initial]
  · rw [dispatch_paging, h.paging]
    exact hr.sound PageManager.initial_sound
  · rw [dispatch_paging, h.paging, hused]
  · rw [dispatch_paging, h.paging]
    omega
  · rw [dispatch_paging, h.paging, hr.pageDirectoryUsed]
    rfl

lemma boot_shellDisk (L : Layout) (memory : PhysicalMemory) : ∃ k, BootedShell L memory k ∧ k.ShellRuns := by
  obtain ⟨k, r, -, hboot, hshell⟩ := setup_shellDisk L memory
  exact ⟨k, hboot, hshell⟩

structure ShellAndChild (k : Kernel) : Prop where
  running : k.runningProcessIdx = some 0
  shell : k.state 0 = .running
  child : k.state 1 = .ready
  shellPid : (k.processList 0).pid = 1
  childPid : (k.processList 1).pid = 2
  rest : ∀ i, i ≠ 0 → i ≠ 1 → k.processList i = .zero
  active : k.activeProcessCount = 2

namespace ShellRuns

variable {frame : InterruptFrame}

lemma reserves (h : k.ShellRuns) (hbuf : request.buf < kernelVirtualAddressBase)
    (hneeded : pageFrameCountNeeded request = 2) : ∃ paging, k.Reserves request 1 1 paging := by
  have hzero : ∀ j : Fin 32, j < 1 → j = 0 := fun j hj => by omega
  have hzero' : ∀ j : Fin 16, j < 1 → j = 0 := fun j hj => by omega
  have hu : (k.paging.takeDirectory 1).pageDirectoryUsed 1 = true := by simp [PageManager.takeDirectory]
  obtain ⟨paging, hp⟩ := Option.isSome_iff_exists.mp
    (h.sound.takeDirectory.allocateUserPages_isSome (n := (pageFrameCountNeeded request).toNat) hu (by
      rw [hneeded]
      decide))
  have hd : k.paging.pageDirectoryUsed 1 = false := by rw [h.directories]; rfl
  refine ⟨paging, ⟨⟨?_, hbuf, ?_, ?_, 1, hd⟩, ?_, ?_, hp⟩⟩
  · rw [h.active]
    decide
  · rw [PageManager.pagingAllocateCheck, h.free, hneeded]
    decide
  · rw [hneeded]
    decide
  · refine Fin.find?_eq_some_iff.mpr ⟨by rw [h.rest 1 (by decide)]; rfl, fun j hj => ?_⟩
    have hs : (k.processList 0).state = .running := h.state
    rw [hzero' j hj, hs]
    rfl
  · have hf : (Fin.find? fun i => !k.paging.pageDirectoryUsed i) = some 1 := by
      refine Fin.find?_eq_some_iff.mpr ⟨by rw [hd]; rfl, fun j hj => ?_⟩
      rw [hzero j hj, h.directories]
      rfl
    rw [PageManager.pagingCreateNewPageDirectory, hf]
    rfl

lemma spawn (h : k.ShellRuns) (L : Layout) : ∃ k',
    Step L k (.create 2 shellDisk shellRequest) ⟨some processCreateSuccess, .interrupted⟩ k' ∧
    k'.ShellAndChild := by
  obtain ⟨paging, hr⟩ := h.reserves (by decide : shellRequest.buf < kernelVirtualAddressBase) (by decide)
  obtain ⟨k', hc, hcr⟩ := create_shellDisk (L := L) hr (by rw [h.free]; decide)
  have hpl : ∀ i, i ≠ 1 → k'.processList i = k.processList i :=
    fun i hi => by rw [hcr.processList, update_of_ne hi]
  have hone : (k.reserve shellRequest 1 paging).processList 0 = k.processList 0 := by simp [reserve]
  have hpid : processGenerateNewPid (k.reserve shellRequest 1 paging).processList 16 1 = 2 := by
    rw [processGenerateNewPid_taken (i := 0) (by rw [hone, h.pid])]
    refine processGenerateNewPid_free fun i => ?_
    by_cases h₁ : i = 1
    · simp [reserve, h₁, h.rest 1 (by decide), ProcessControlBlock.zero, ProcessControlBlock.withPages]
    · by_cases h₀ : i = 0
      · rw [h₀, hone, h.pid]
        decide
      · simp [reserve, h₁, h.rest i h₀, ProcessControlBlock.zero]
  refine ⟨k', ⟨.inr (by rw [h.running]; simp), k.memory, ?_⟩, ?_, ?_, ?_, ?_, ?_, ?_, ?_⟩
  · change (processCreateUserProcess L 2 shellDisk shellRequest k).map _ = _
    rw [hc]
    rfl
  · rw [hcr.runningProcessIdx, h.running]
  · rw [Kernel.state, hpl 0 (by decide)]
    exact h.state
  · simp [Kernel.state, hcr.processList, ProcessControlBlock.created]
  · rw [hpl 0 (by decide), h.pid]
  · simp [hcr.processList, ProcessControlBlock.created, hpid]
  · intro i h₀ h₁
    rw [hpl i h₁, h.rest i h₀]
  · rw [hcr.activeProcessCount, h.active]
    rfl

lemma switch (h : k.ShellRuns) {k' : Kernel} (hr : k'.runningProcessIdx = some 0)
    (hk : ∀ i, i ≠ 0 → k'.processList i = k.processList i) :
    k'.schedulerSwitchToNextProcess = (.interrupted, k'.markRunning 0) := by
  cases hsw : k'.schedulerSwitchToNextProcess with
  | mk r k'' =>
    obtain ⟨s, hs, -, rfl, rfl⟩ | ⟨hn, -⟩ | ⟨j, hj, hready, -⟩ := schedulerSwitchToNextProcess_cases hsw
    · rw [Option.some.inj (hr.symm.trans hs)]
    · rw [hr] at hn
      cases hn
    · have h₀ : j ≠ 0 := fun he => hj (he ▸ hr)
      rw [Kernel.state, hk j h₀, h.rest j h₀] at hready
      cases hready

lemma terminate (h : k.ShellRuns) (L : Layout) :
    Step L k .terminate ⟨none, .interrupted⟩ ((k.clearPcb 0).markRunning 0) := by
  have hsw : (k.clearPcb 0).schedulerSwitchToNextProcess = (.interrupted, (k.clearPcb 0).markRunning 0) :=
    h.switch h.running fun i hi => clearPcb_of_ne hi
  refine ⟨.inr (by rw [h.running]; simp), k.memory, ?_⟩
  change (k.terminateCurrentProcess).map _ = _
  rw [terminateCurrentProcess, h.running, Option.map_some, hsw]
  rfl

end ShellRuns

namespace ShellAndChild

lemma kill (h : k.ShellAndChild) (L : Layout) : Step L k (.kill 2) ⟨some 0, .interrupted⟩ (k.clearPcb 1) := by
  have hzero : ∀ j : Fin 16, j < 1 → j = 0 := fun j hj => by omega
  have hf : k.findPid 2 = some 1 := by
    refine Fin.find?_eq_some_iff.mpr ⟨by rw [h.childPid]; rfl, fun j hj => ?_⟩
    rw [hzero j hj, h.shellPid]
    rfl
  refine ⟨.inr (by rw [h.running]; simp), k.memory, ?_⟩
  change (k.killProcess 2).map _ = _
  rw [killProcess, h.running, Option.bind_some, if_neg (by rw [h.shellPid]; decide), hf]
  rfl

lemma timer (h : k.ShellAndChild) (L : Layout) (frame : InterruptFrame) :
    ∃ k', Step L k (.timer frame) ⟨none, .switched 1 (k.processList 1).context⟩ k' := by
  cases hsw : k.timerInterrupt frame with
  | mk r k' =>
    have hother : ∀ i, i ≠ 0 → (k.schedulerSaveContextToCurrentRunningPcb ⟨frame.cpu, frame.eip, frame.eflags,
        pagingGetCurrentPageDirectoryAddr k.cr3⟩).processList i = k.processList i := by
      intro i hi
      simp [schedulerSaveContextToCurrentRunningPcb, h.running, hi]
    obtain ⟨s, hs, hn, -⟩ | ⟨hn, -⟩ | ⟨j, hj, hready, rfl, -⟩ := schedulerSwitchToNextProcess_cases hsw
    · rw [save_runningProcessIdx] at hs
      have hone : (1 : Fin 16) ≠ s := by
        rw [← Option.some.inj (h.running.symm.trans hs)]
        decide
      exact absurd (by rw [Kernel.state, hother 1 (by decide)]; exact h.child) (hn 1 hone)
    · rw [save_runningProcessIdx, h.running] at hn
      cases hn
    · rw [save_runningProcessIdx, h.running] at hj
      have h₀ : j ≠ 0 := fun he => hj (he ▸ rfl)
      rw [Kernel.state, hother j h₀] at hready
      have h₁ : j = 1 := by
        by_contra hne
        rw [h.rest j h₀ hne] at hready
        cases hready
      subst h₁
      rw [hother 1 h₀] at hsw
      refine ⟨k', .inl ⟨frame, rfl⟩, k.memory, ?_⟩
      change some (_, _) = _
      rw [hsw]

end ShellAndChild

end Semogakelar.Process.Kernel
