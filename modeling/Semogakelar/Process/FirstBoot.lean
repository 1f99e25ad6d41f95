import Semogakelar.Fat32.Inserter
import Semogakelar.Process.Boot
import Semogakelar.Process.Loading

/-! The first process, from the file that the inserter has put into the image to the memory in which it runs. -/

namespace Semogakelar.Process.Kernel

open Function Memory Fat32 Library FileSystem Inserter
open Host (Image diskOf)

variable {L : Layout} {k : Kernel} {fs : FileSystem} {content : List UInt8} {i : Fin 64} {l : List UInt32}
  {pIndex : Fin 16} {newPage : Fin 32} {paging : PageManager}

structure RunsImage (L : Layout) (k : Kernel) (context : Context) (content : List UInt8) : Prop where
  running : k.runningProcessIdx = some 0 ∧ k.state 0 = .running
  entry : context.eip = 0
  directory : context.pageDirectoryVirtualAddr = L.address 0
  image : ∀ j (h : j < content.length), k.byteAt 0 j = some content[j]
  cleared : ∀ j < 2 ^ 22, k.byteAt 0 (2 ^ 22 + j) = some 0

lemma kernelSetup_cr3 {fuel : ℕ} {memory : PhysicalMemory} {i : Fin 16} {context : Context}
    (h : kernelSetup L fuel fs memory = some (.switched i context, k)) :
    k.cr3 = pagingUsePageDirectory context.pageDirectoryVirtualAddr := by
  obtain ⟨x, -, hsw⟩ := Option.map_eq_some_iff.mp h
  obtain ⟨_, -, -, hr, -⟩ | ⟨-, hr, -⟩ | ⟨j, -, -, hr, rfl⟩ := schedulerSwitchToNextProcess_cases hsw
  · cases hr
  · cases hr
  · cases hr
    rfl

structure FindsShell (fs : FileSystem) (content : List UInt8) (i : Fin 64) (l : List UInt32) : Prop where
  wellFormed : fs.WellFormed
  holds : HoldsAt fs rootClusterNumber shellRequest.name shellRequest.ext content i l
  first : ∀ request : DriverRequest, request.name = shellRequest.name → request.ext = shellRequest.ext →
    FirstMatch (fs.table rootClusterNumber) request i
  size : content.length ≤ 0x100000

namespace FindsShell

lemma same {fs' : FileSystem} (h : FindsShell fs content i l) (hsame : SameVolume fs fs') :
    FindsShell fs' content i l where
  wellFormed := hsame.wellFormed h.wellFormed
  holds := h.holds.same hsame
  first request hname hext := by
    rw [hsame.table]
    exact h.first request hname hext
  size := h.size

lemma clusters_fit (h : FindsShell fs content i l) : 2048 * l.length ≤ 2 ^ 22 := by
  have hmax := h.size
  have hlength : content.length < 2 ^ 32 := by omega
  rw [h.holds.blocks h.wellFormed, numberOfPartition_eq, UInt32.toNat_ofNat_of_lt' hlength]
  omega

lemma read_eq (h : FindsShell fs content i l) {request : DriverRequest}
    (hparent : request.parentClusterNumber = rootClusterNumber) (hname : request.name = shellRequest.name)
    (hext : request.ext = shellRequest.ext) (hsize : request.bufferSize.toNat = 0x100000) {fuel : ℕ}
    (hfuel : l.length < fuel) :
    read fuel fs request = .returned 0 ((⟨request.buf, []⟩ : Transfer).copyAll fs.disk l) := by
  have hmax := h.size
  have hle : UInt32.ofNat content.length ≤ request.bufferSize := by
    rw [UInt32.le_iff_toNat_le, UInt32.toNat_ofNat_of_lt' (lt_of_le_of_lt hmax (by decide)), hsize]
    exact hmax
  exact h.holds.read_eq h.wellFormed (h.first request hname hext) hparent hle hfuel

lemma create (h : FindsShell fs content i l) (hr : k.Reserves shellRequest pIndex newPage paging)
    (hfree : 2 ≤ k.paging.freePageFrameCount) : ∃ k' : Kernel,
      (∀ fuel, l.length < fuel →
        processCreateUserProcess L fuel fs shellRequest k = some (processCreateSuccess, k')) ∧
      Created L k k' shellRequest pIndex newPage paging ∧
      (∀ j (h : j < content.length), k'.byteAt newPage j = some content[j]) ∧
      ∀ j < 2 ^ 22, k'.byteAt newPage (2 ^ 22 + j) = some 0 := by
  have hneeded : pageFrameCountNeeded shellRequest = 2 := by decide
  have hsize : shellRequest.bufferSize.toNat = 0x100000 := by decide
  have halloc := hr.frames
  rw [hneeded] at halloc
  have hwin := allocateUserPages_window (d := newPage) (by exact hfree) halloc
  have hpcb : (k.reserve shellRequest pIndex paging).processList pIndex = (k.processList pIndex).withPages 2 := by
    rw [reserve, hneeded]
    exact update_self ..
  have hfit := h.clusters_fit
  have hclusters : ∀ buf : ℕ → UInt8, ((⟨buf, []⟩ : Transfer).copyAll fs.disk l).clusters.length = l.length := by
    intro buf
    rw [Transfer.copyAll_clusters, List.nil_append]
  have hload : (loadImage (paging.pageDirectoryList newPage) shellRequest ((k.processList pIndex).withPages 2)
      ((⟨(shellRequest.driverRequest (paging.pageDirectoryList newPage) k.memory).buf, []⟩ :
        Transfer).copyAll fs.disk l)
      k.memory).isSome := by
    exact loadImage_isSome hwin (by decide) rfl rfl (by rwa [hclusters]) _
  obtain ⟨memory, hm⟩ := Option.isSome_iff_exists.mp hload
  obtain ⟨hbytes, hclear⟩ := loadImage_bytes hwin (by decide) rfl rfl (by rwa [hclusters]) hm
  rw [← hpcb] at hm
  refine ⟨_, fun fuel hfuel =>
    hr.processCreateUserProcess_eq.trans (loadUserProcess_loaded (h.read_eq rfl rfl rfl hsize hfuel) hm),
    hr.created _ memory, fun j hj => ?_, fun j hj => ?_⟩
  · have hlen := h.holds.length
    rw [byteAt_window hwin (by omega), ← h.holds.bytes j hj, ← copyAll_fileByte _ l (by omega)]
    exact congrArg some (hbytes j (by rw [hclusters]; omega))
  · rw [byteAt_window hwin (by omega)]
    exact congrArg some (hclear j hj)

lemma boots (h : FindsShell fs content i l) (L : Layout) (memory : PhysicalMemory) : ∃ k context,
    (∀ fuel, l.length < fuel → kernelSetup L fuel fs memory = some (.switched 0 context, k)) ∧
      RunsImage L k context content := by
  obtain ⟨paging, hr⟩ := initial_reserves L memory
  obtain ⟨k, hcreate, hcreated, himage, hcleared⟩ :=
    h.create (L := L) hr (by decide : 2 ≤ PageManager.initial.freePageFrameCount)
  have hstate : k.state 0 = .ready := hcreated.state_self
  have hswitch := schedulerSwitchToNextProcess_first hcreated.runningProcessIdx hstate
  have hslot := congrFun hcreated.processList 0
  rw [update_self] at hslot
  refine ⟨k.dispatch 0, (k.processList 0).context, fun fuel hfuel => ?_, ⟨rfl, by simp⟩, ?_, ?_, himage, hcleared⟩
  · rw [kernelSetup, hcreate fuel hfuel, Option.map_some, hswitch]
  · rw [hslot]
    rfl
  · rw [hslot]
    rfl

end FindsShell

lemma inserted_shell_found {image image' : Image} {insertions : List Insertion} {retcodes : List ℤ}
    {ins : Insertion} (hblank : isEmptyStorage (diskOf image) = true)
    (hrun : Run Inserts image insertions retcodes image')
    (hroot : ∀ ins ∈ insertions, IntoRoot ins) (hmem : (ins, 0) ∈ insertions.zip retcodes)
    (hname : ins.request.name = shellRequest.name ∧ ins.request.ext = shellRequest.ext)
    (hfile : ins.file = some content) (hmax : content.length ≤ 0x100000) (img : KernelImage) :
    ∃ i l, FindsShell (boot img (diskOf image')) content i l := by
  have hins := hroot ins (List.of_mem_zip hmem).1
  have hpos : content ≠ [] := by
    rintro rfl
    refine hins.file ?_
    rw [Insertion.request, Insertion.filesize, hfile]
    rfl
  obtain ⟨hu, hholds⟩ := @run_holds _ _ ins content _ _ hrun (.inl hblank) img
  have hw := (hu.mounted img).1
  obtain ⟨i, l, hi⟩ := hholds hmem hfile hpos (by omega)
  rw [hins.parent, hname.1, hname.2] at hi
  have hfiles := filesOnly_run hrun (.inl hblank) hroot (filesOnly_blank hblank) img
  refine ⟨i, l, hw, hi, fun request hn he => ?_, hmax⟩
  exact hi.firstMatch hw (fun h => absurd h.1 (by decide)) (hfiles.only (by decide)) ⟨hn, he⟩

theorem built_image_boots {image image' : Image} {insertions : List Insertion} {retcodes : List ℤ}
    {ins : Insertion} (hblank : isEmptyStorage (diskOf image) = true)
    (hrun : Run Inserts image insertions retcodes image')
    (hroot : ∀ ins ∈ insertions, IntoRoot ins) (hmem : (ins, 0) ∈ insertions.zip retcodes)
    (hname : ins.request.name = shellRequest.name ∧ ins.request.ext = shellRequest.ext)
    (hfile : ins.file = some content) (hmax : content.length ≤ 0x100000) (img : KernelImage) (L : Layout)
    (memory : PhysicalMemory) : ∃ enough k context,
      (∀ fuel, enough ≤ fuel → kernelSetup L fuel (boot img (diskOf image')) memory =
        some (.switched 0 context, k)) ∧ RunsImage L k context content := by
  obtain ⟨i, l, hfinds⟩ := inserted_shell_found hblank hrun hroot hmem hname hfile hmax img
  obtain ⟨k, context, hsetup, hruns⟩ := hfinds.boots L memory
  exact ⟨l.length + 1, k, context, fun fuel hfuel => hsetup fuel hfuel, hruns⟩

def shellInsertion : Insertion :=
  ⟨plainImage, some [0xEB, 0xFE], fun _ => 0xFF, [0x73, 0x68, 0x65, 0x6C, 0x6C], rootClusterNumber⟩

theorem built_image_boots_shell : ∃ image', Inserts blankImage shellInsertion 0 image' ∧ ∃ enough k context,
    (∀ fuel, enough ≤ fuel → kernelSetup linked fuel (boot plainImage (diskOf image')) (fun _ => 0) =
      some (.switched 0 context, k)) ∧ k.byteAt 0 0 = some 0xEB ∧ k.byteAt 0 1 = some 0xFE := by
  have hblank : isEmptyStorage (diskOf blankImage) = true := by decide +kernel
  have hroot : IntoRoot shellInsertion := ⟨rfl, by decide⟩
  have hname : shellInsertion.request.name = shellRequest.name ∧
      shellInsertion.request.ext = shellRequest.ext := by
    decide +kernel
  obtain ⟨image', hins⟩ := blank_insertion hblank hroot (by decide) (by decide +kernel) (by decide)
  obtain ⟨enough, k, context, hsetup, hruns⟩ := built_image_boots hblank (.cons hins .nil)
    (List.forall_mem_singleton.mpr hroot) (List.mem_singleton.mpr rfl) hname rfl
    (by decide) plainImage linked fun _ => 0
  exact ⟨image', hins, enough, k, context, hsetup, hruns.image 0 (by decide), hruns.image 1 (by decide)⟩

end Semogakelar.Process.Kernel
