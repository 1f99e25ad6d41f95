import Semogakelar.Fat32.Copies
import Semogakelar.Memory.Windows
import Semogakelar.Process.Grants

/-! The address space that a new process finds: its executable from address 0 on, and a cleared second page. -/

namespace Semogakelar.Process.Kernel

open Function Memory Fat32 Library FileSystem

variable {L : Layout} {k k' : Kernel} {request : ProcessRequest} {fs : FileSystem} {i : Fin 64}

def byteAt (k : Kernel) (d : Fin 32) (a : ℕ) : Option UInt8 :=
  (translate (k.paging.pageDirectoryList d) (UInt32.ofNat a)).map k.memory

structure NamesFile (fs : FileSystem) (request : ProcessRequest) (i : Fin 64) : Prop where
  isDir : fs.volume.IsDir request.parentClusterNumber
  slot : 2 ≤ i.val
  live : (fs.table request.parentClusterNumber i).Live
  file : ¬ (fs.table request.parentClusterNumber i).IsFolder
  name : (fs.table request.parentClusterNumber i).name = request.name
  ext : (fs.table request.parentClusterNumber i).ext = request.ext
  only : ∀ j : Fin 64, 2 ≤ j.val → (fs.table request.parentClusterNumber j).Live →
    ¬ (fs.table request.parentClusterNumber j).IsFolder →
    (fs.table request.parentClusterNumber j).name = request.name →
    (fs.table request.parentClusterNumber j).ext = request.ext → j = i

structure Loaded (L : Layout) (k k' : Kernel) (pIndex : Fin 16) (newPage : Fin 32) (f : ℕ) (content : ℕ → UInt8) :
    Prop where
  slot : k.state pIndex = .new ∧ k'.state pIndex = .ready
  directory : k.paging.pageDirectoryUsed newPage = false ∧
    (k'.processList pIndex).context.pageDirectoryVirtualAddr = L.address newPage
  image : ∀ j < f, k'.byteAt newPage j = some (content j)
  cleared : ∀ j < 2 ^ 22, k'.byteAt newPage (2 ^ 22 + j) = some 0

lemma NamesFile.read_eq (h : NamesFile fs request i) (hw : fs.WellFormed) {driverRequest : DriverRequest}
    (hparent : driverRequest.parentClusterNumber = request.parentClusterNumber)
    (hname : driverRequest.name = request.name) (hext : driverRequest.ext = request.ext) {l : List UInt32}
    (hl : Chain fs.volume.link (fs.table request.parentClusterNumber i).clusterNumber l) {fuel : ℕ} {t : Transfer}
    (hr : read fuel fs driverRequest = .returned 0 t) :
    t = (⟨driverRequest.buf, []⟩ : Transfer).copyAll fs.disk l := by
  have hp := h.isDir
  rw [← hparent] at hp hl
  obtain ⟨j, hj⟩ := read_zero hw hp hr
  obtain rfl : j = i := by
    have hlive := hj.live
    have hfile := hj.file
    have hn := hj.found.name
    have he := hj.found.ext
    rw [hparent] at hlive hfile hn he
    exact h.only j hj.slot hlive hfile (hn.trans hname) (he.trans hext)
  exact hj.transfer hl

lemma loadUserProcess_success {fuel : ℕ} {pIndex : Fin 16} {newPage : Fin 32}
    (h : loadUserProcess L fuel fs request k pIndex newPage = some (processCreateSuccess, k')) :
    ∃ t memory, read fuel fs (request.driverRequest (k.paging.pageDirectoryList newPage) k.memory) =
    .returned 0 t ∧
      loadImage (k.paging.pageDirectoryList newPage) request (k.processList pIndex) t k.memory = some memory ∧
      k' = { k with
        cr3 := pagingUsePageDirectory (pagingGetCurrentPageDirectoryAddr k.cr3)
        memory := memory }.launch L request pIndex newPage := by
  simp only [loadUserProcess] at h
  split at h
  case h_1 retVal t hr =>
    split_ifs at h with hne
    · exact absurd (Prod.mk.inj (Option.some.inj h)).1 (by decide)
    · obtain ⟨memory, hm, he⟩ := Option.map_eq_some_iff.mp h
      obtain rfl := not_not.mp hne
      exact ⟨t, memory, hr, hm, (Prod.mk.inj he).2.symm⟩
  · cases h
  · cases h

lemma loadImage_bytes {pageDir : PageDirectory} {phys : ℕ → ℕ} {pcb : ProcessControlBlock} {t : Transfer}
    {memory memory' : PhysicalMemory} (hwin : Window pageDir (2 ^ 23) phys) (hbuf : request.buf.toNat ≤ 2 ^ 22)
    (hzero : pcb.virtualAddrUsed 0 = 0) (hone : pcb.virtualAddrUsed 1 = pageFrameSize)
    (ht : 2048 * t.clusters.length ≤ 2 ^ 22) (h : loadImage pageDir request pcb t memory = some memory') :
    (∀ j < 2048 * t.clusters.length, memory' (phys j) = t.buf j) ∧
    ∀ j < 2 ^ 22, memory' (phys (2 ^ 22 + j)) = 0 := by
  obtain ⟨m₁, hstore, h⟩ := Option.bind_eq_some_iff.mp h
  obtain ⟨m₂, hcopy, hclear⟩ := Option.bind_eq_some_iff.mp h
  rw [hzero] at hcopy
  rw [hone] at hclear
  have hsize : pageFrameSize.toNat = 2 ^ 22 := rfl
  have hdest : (0 : UInt32).toNat = 0 := rfl
  have hm₁ := fun {a : ℕ} => hwin.storeBytes_apply (a := a) (by omega) hstore
  have hm₂ := fun {a : ℕ} => hwin.memcpy_apply (a := a) (by omega) (by omega) hcopy
  have hm₃ := fun {a : ℕ} => hwin.memset_apply (a := a) (by omega) hclear
  refine ⟨fun j hj => ?_, fun j hj => ?_⟩
  · rw [hm₃ (by omega), if_neg (by omega), hm₂ (by omega), if_pos (by omega), hdest, Nat.sub_zero, hm₁ (by omega),
      if_pos (by omega), Nat.add_sub_cancel]
  · rw [hm₃ (by omega), if_pos (by omega)]

lemma byteAt_window {d : Fin 32} {size : ℕ} {phys : ℕ → ℕ} (h : Window (k.paging.pageDirectoryList d) size phys)
    {a : ℕ} (ha : a < size) : k.byteAt d a = some (k.memory (phys a)) := by
  rw [byteAt, h.present a ha, Option.map_some]

lemma needed_two (h : 1 ≤ request.bufferSize.toNat) (hle : request.bufferSize.toNat ≤ 2 ^ 22) :
    pageFrameCountNeeded request = 2 := by
  rw [← UInt32.toNat_inj, pageFrameCountNeeded_toNat, show UInt32.toNat 2 = 2 from rfl]
  omega

theorem image_loaded {fuel : ℕ} (hw : fs.WellFormed) (hfile : NamesFile fs request i)
    (hsize : (fs.table request.parentClusterNumber i).filesize ≤ request.bufferSize)
    (hmax : request.bufferSize.toNat ≤ 2 ^ 22) (hbuf : request.buf.toNat ≤ 2 ^ 22)
    (hframes : 2 ≤ k.paging.freePageFrameCount)
    (hc : processCreateUserProcess L fuel fs request k = some (processCreateSuccess, k')) :
    ∃ l pIndex newPage, Chain fs.volume.link (fs.table request.parentClusterNumber i).clusterNumber l ∧
      (fs.table request.parentClusterNumber i).filesize.toNat ≤ 2048 * l.length ∧
      Loaded L k k' pIndex newPage (fs.table request.parentClusterNumber i).filesize.toNat (fileByte fs l) := by
  have hle := UInt32.le_iff_toNat_le.mp hsize
  obtain ⟨l, hl, hlen, -⟩ := hw.sound.chain ⟨hfile.isDir, item_of_live hfile.slot hfile.live⟩
  have hl : Chain fs.volume.link (fs.table request.parentClusterNumber i).clusterNumber l := hl
  rw [DirectoryEntry.blocks_of_file hfile.file] at hlen
  have hpos : 0 < l.length := List.length_pos_of_mem hl.head_mem
  obtain ⟨-, hrefused, -⟩ | ⟨pIndex, newPage, paging, hr, hload⟩ := processCreateUserProcess_cases hc
  · exact absurd rfl hrefused.1
  obtain ⟨t, memory, hread, himage, rfl⟩ := loadUserProcess_success hload
  have ht := hfile.read_eq hw rfl rfl rfl hl hread
  have hclusters : t.clusters.length = l.length := by
    rw [ht, Transfer.copyAll_clusters, List.nil_append]
  have hneeded : pageFrameCountNeeded request = 2 := needed_two (by omega) hmax
  have halloc := hr.frames
  rw [hneeded] at halloc
  have hwin := allocateUserPages_window (d := newPage) (by exact hframes) halloc
  have hpcb : (k.reserve request pIndex paging).processList pIndex = (k.processList pIndex).withPages 2 := by
    rw [reserve, hneeded]
    exact update_self ..
  rw [hpcb] at himage
  obtain ⟨hbytes, hclear⟩ := loadImage_bytes hwin hbuf rfl rfl (by rw [hclusters]; omega) himage
  have hcr := hr.created (L := L) (pagingUsePageDirectory (pagingGetCurrentPageDirectoryAddr k.cr3)) memory
  refine ⟨l, pIndex, newPage, hl, by omega, ⟨hr.slot_new, hcr.state_self⟩, ⟨hr.newPage_unused, ?_⟩, fun j hj => ?_,
    fun j hj => ?_⟩
  · have hslot := congrFun hcr.processList pIndex
    rw [update_self] at hslot
    exact congrArg (fun pcb => pcb.context.pageDirectoryVirtualAddr) hslot
  · rw [byteAt_window hwin (by omega), ← copyAll_fileByte _ l (by omega), ← ht]
    exact congrArg some (hbytes j (by omega))
  · rw [byteAt_window hwin (by omega)]
    exact congrArg some (hclear j hj)

-- The load address is below the end of the first page, so that the copy down to 0 overlaps its source.
def programRequest : ProcessRequest :=
  ⟨0x1000, ![0x70, 0x72, 0x6F, 0x67, 0, 0, 0, 0], fun _ => 0, rootClusterNumber, 0x1000⟩

def programFile : DriverRequest :=
  ⟨fun j => UInt8.ofNat (j % 255 + 1), programRequest.name, programRequest.ext, rootClusterNumber, 3000⟩

def programDisk : FileSystem := fileWritten formatted programFile 2 3 [4]

lemma program_fits : numberOfPartition programFile.bufferSize ≤
    (emptyClusters formatted.driver.fatTable).length := by
  rw [formatted, createFat32_fatTable, emptyClusters_formattedMap, List.length_range']
  decide

lemma program_clusters :
    3 :: [4] = (emptyClusters formatted.driver.fatTable).take (numberOfPartition programFile.bufferSize) := by
  rw [formatted, createFat32_fatTable, emptyClusters_formattedMap]
  rfl

lemma programDisk_written : Written formatted programDisk programFile 2 (fileEntry formatted programFile 2 3)
    ([3, 4].map UInt32.ofNat) :=
  writeFile_written formatted_wellFormed formatted_isDir (formatted_accepts rfl (by decide)) (by decide)
    program_fits
    program_clusters

lemma programDisk_root : programDisk.table rootClusterNumber =
    update (formatted.table rootClusterNumber) 2 (fileEntry formatted programFile 2 3) :=
  programDisk_written.added.parent

lemma programDisk_entry : programDisk.table programRequest.parentClusterNumber 2 =
    fileEntry formatted programFile 2 3 :=
  programDisk_written.added.slot_self

lemma program_named : NamesFile programDisk programRequest 2 where
  isDir := Volume.isDir_root
  slot := le_rfl
  live := by
    rw [programDisk_entry]
    exact programDisk_written.added.live
  file := by
    rw [programDisk_entry]
    exact file_not_folder
  name := by
    rw [programDisk_entry]
    rfl
  ext := by
    rw [programDisk_entry]
    rfl
  only := by
    intro j hj hlive _ _ _
    by_contra hne
    rw [show programRequest.parentClusterNumber = rootClusterNumber from rfl, programDisk_root, update_of_ne hne,
      formatted_rootTable.2.2 j hj] at hlive
    exact EntryAdded.not_live_zero hlive

lemma read_programDisk (pageDir : PageDirectory) (memory : PhysicalMemory) :
    ∃ t : Transfer, read 3 programDisk (programRequest.driverRequest pageDir memory) = .returned 0 t ∧
      t.clusters.length = 2 := by
  have hfree : ∀ j : Fin 64, ¬ ((formatted.table programFile.parentClusterNumber j).name = programFile.name ∧
      (formatted.table programFile.parentClusterNumber j).ext = programFile.ext) := by
    rintro j ⟨hn, -⟩
    rcases formatted_name j with h | h
    · exact absurd (h.symm.trans hn) (by decide)
    · exact absurd (h.symm.trans hn) (by decide)
  have hparent : (programRequest.driverRequest pageDir memory).parentClusterNumber =
    programFile.parentClusterNumber := rfl
  have hsize : programFile.bufferSize ≤ programRequest.bufferSize := by decide
  refine ⟨_, read_fileWritten formatted_wellFormed formatted_isDir (formatted_accepts rfl (by decide))
    (by decide) hfree
    program_fits program_clusters hparent rfl rfl hsize (Nat.lt_succ_self 2), ?_⟩
  rw [Transfer.copyAll_clusters]
  rfl

theorem image_loaded_program : ∃ k₀ k' pIndex newPage, Booted linked (fun _ => 0) k₀ ∧
    processCreateUserProcess linked 3 programDisk programRequest k₀ = some (processCreateSuccess, k') ∧
    Loaded linked k₀ k' pIndex newPage 3000 programFile.buf := by
  obtain ⟨k₀, hboot, hshell⟩ := boot_shellDisk linked fun _ => 0
  obtain ⟨paging, hr⟩ := hshell.reserves (by decide : programRequest.buf < kernelVirtualAddressBase) (by decide)
  have hfree : 2 ≤ k₀.paging.freePageFrameCount := by
    rw [hshell.free]
    decide
  obtain ⟨t, hread, hlength⟩ := read_programDisk (paging.pageDirectoryList 1) k₀.memory
  obtain ⟨k', hc, -⟩ := hr.create_of_read (L := linked) hfree (by decide) (by decide) hread
    (by rw [hlength]; decide)
  have hsize : (programDisk.table programRequest.parentClusterNumber 2).filesize = 3000 := by
    rw [programDisk_entry]
    rfl
  obtain ⟨l, pIndex, newPage, hl, -, hloaded⟩ := image_loaded programDisk_written.wellFormed program_named
    (by rw [hsize]; decide) (by decide) (by decide) hfree hc
  obtain rfl := hl.unique programDisk_written.added.chain
  obtain ⟨hslot, hdirectory, himage, hcleared⟩ := hloaded
  rw [hsize] at himage
  refine ⟨k₀, k', pIndex, newPage, hboot.booted, hc, hslot, hdirectory, fun j hj => ?_, hcleared⟩
  have hbyte : fileByte programDisk ([3, 4].map UInt32.ofNat) j = programFile.buf j :=
    fileWritten_byte formatted_wellFormed (allocates_fits program_fits program_clusters) (by
      simp only [List.length_cons, List.length_nil]
      omega)
  rw [himage j hj, hbyte]

end Semogakelar.Process.Kernel
