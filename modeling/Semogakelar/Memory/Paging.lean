import Mathlib.Algebra.GroupWithZero.Nat
import Mathlib.Data.Fintype.Card
import Mathlib.Logic.Function.Basic
import Mathlib.Tactic.Lemma
import Mathlib.Data.Finset.Card

/-! The page manager: the frame map, the pool of page directories, and memory as an active directory maps it. -/

namespace Semogakelar.Memory

open Function

-- The proofs behind the literals of a `Fin` are named once for its index type and shared by every definition.
instance neZero_pageIndices : NeZero 1024 := ⟨by decide⟩
instance neZero_pageFrames : NeZero 32 := ⟨by decide⟩

def kernelVirtualAddressBase : UInt32 := 0xC0000000
def pageFrameSize : UInt32 := 0x400000
def kernelPage : Fin 1024 := 0x300

structure PageDirectoryEntryFlag where
  presentBit : Bool
  writeBit : Bool
  userSupervisorBit : Bool
  pwtBit : Bool
  pcdBit : Bool
  accesedBit : Bool
  dirtyBit : Bool
  usePagesize4Mb : Bool
  deriving DecidableEq

structure PageDirectoryEntry where
  flag : PageDirectoryEntryFlag
  lowerAddress : Fin 1024
  deriving DecidableEq

abbrev PageDirectory := Fin 1024 → PageDirectoryEntry

def noFlag : PageDirectoryEntryFlag := ⟨false, false, false, false, false, false, false, false⟩
def userFlag : PageDirectoryEntryFlag := ⟨true, true, true, false, false, false, false, true⟩

def PageDirectoryEntry.zero : PageDirectoryEntry := ⟨noFlag, 0⟩

def kernelHigherHalf : PageDirectoryEntry := ⟨⟨true, true, false, false, false, false, false, true⟩, 0⟩

/-- `page_manager_state`, `page_directory_list` and `page_directory_manager`. -/
structure PageManager where
  pageFrameMap : Fin 32 → Bool
  freePageFrameCount : ℕ
  pageDirectoryList : Fin 32 → PageDirectory
  pageDirectoryUsed : Fin 32 → Bool

def pageIndex (addr : UInt32) : Fin 1024 := Fin.ofNat 1024 (addr.toNat / 2 ^ 22)

def updatePageDirectoryEntry (pageDir : PageDirectory) (physicalAddr virtualAddr : UInt32)
    (flag : PageDirectoryEntryFlag) : PageDirectory :=
  update pageDir (pageIndex virtualAddr) ⟨flag, pageIndex physicalAddr⟩

namespace PageManager

def initial : PageManager where
  pageFrameMap i := i == 0
  freePageFrameCount := 31
  pageDirectoryList _ _ := .zero
  pageDirectoryUsed _ := false

def pagingAllocateCheck (pm : PageManager) (amount : UInt32) : Bool :=
  amount.toNat / pageFrameSize.toNat + (if amount.toNat % pageFrameSize.toNat > 0 then 1 else 0) ≤
    pm.freePageFrameCount

def takeFrame (pm : PageManager) (pageDir : Fin 32) (virtualAddr : UInt32) (i : Fin 32) : PageManager :=
  { pm with
    pageFrameMap := update pm.pageFrameMap i true
    freePageFrameCount := pm.freePageFrameCount - 1
    pageDirectoryList := update pm.pageDirectoryList pageDir (updatePageDirectoryEntry
      (pm.pageDirectoryList pageDir) (UInt32.ofNat i.val * pageFrameSize) virtualAddr userFlag) }

/-- First fit over the frame map. A count that promises a frame the map does not have leads outside the map. -/
def pagingAllocateUserPageFrame (pm : PageManager) (pageDir : Fin 32) (virtualAddr : UInt32) :
    Option (Bool × PageManager) :=
  if ¬ pm.pagingAllocateCheck pageFrameSize then some (false, pm)
  else (Fin.find? fun i => !pm.pageFrameMap i).map fun i => (true, pm.takeFrame pageDir virtualAddr i)

def releaseFrame (pm : PageManager) (pageDir : Fin 32) (page : Fin 1024) (i : Fin 32) : PageManager :=
  { pm with
    pageFrameMap := update pm.pageFrameMap i false
    freePageFrameCount := pm.freePageFrameCount + 1
    pageDirectoryList := update pm.pageDirectoryList pageDir (update (pm.pageDirectoryList pageDir) page .zero) }

-- `lower_address` has ten bits and the map 32 cells: an entry for a frame beyond the map leads outside it.
def pagingFreeUserPageFrame (pm : PageManager) (pageDir : Fin 32) (virtualAddr : UInt32) :
    Option (Bool × PageManager) :=
  let pageEntry := pm.pageDirectoryList pageDir (pageIndex virtualAddr)
  if ¬ pageEntry.flag.presentBit then some (false, pm)
  else if h : pageEntry.lowerAddress.val < 32 then
    some (true, pm.releaseFrame pageDir (pageIndex virtualAddr) ⟨pageEntry.lowerAddress, h⟩)
  else none

def takeDirectory (pm : PageManager) (i : Fin 32) : PageManager :=
  { pm with
    pageDirectoryUsed := update pm.pageDirectoryUsed i true
    pageDirectoryList := update pm.pageDirectoryList i
      (update (pm.pageDirectoryList i) kernelPage kernelHigherHalf) }

def pagingCreateNewPageDirectory (pm : PageManager) : Option (Fin 32 × PageManager) :=
  (Fin.find? fun i => !pm.pageDirectoryUsed i).map fun i => (i, pm.takeDirectory i)

/-- The allocation loop of process creation: the frames for the virtual pages 0 to `count - 1`. -/
def allocateUserPages (pm : PageManager) (pageDir : Fin 32) : ℕ → Option PageManager
  | 0 => some pm
  | i + 1 => (pm.allocateUserPages pageDir i).bind fun pm =>
      (pm.pagingAllocateUserPageFrame pageDir (UInt32.ofNat i * pageFrameSize)).map Prod.snd

end PageManager

/-! ### Page directory addresses -/

/-- Where the linker puts the kernel's page directory and the pool: in the higher half, one page apart. -/
structure Layout where
  kernelPageDirectory : UInt32
  pageDirectoryList : UInt32
  kernel_high : kernelVirtualAddressBase < kernelPageDirectory
  pool_high : kernelVirtualAddressBase < pageDirectoryList
  pool_fits : pageDirectoryList.toNat + 32 * 4096 ≤ 2 ^ 32

def Layout.address (L : Layout) (pageDir : Fin 32) : UInt32 :=
  L.pageDirectoryList + UInt32.ofNat (4096 * pageDir)

-- The entries are cleared, the frames they name stay marked.
def PageManager.releaseDirectory (pm : PageManager) (i : Fin 32) : PageManager :=
  { pm with
    pageDirectoryUsed := update pm.pageDirectoryUsed i false
    pageDirectoryList := update pm.pageDirectoryList i fun _ => .zero }

def PageManager.pagingFreePageDirectory (pm : PageManager) (L : Layout) (pageDir : UInt32) : Bool × PageManager :=
  (Fin.find? fun i => L.address i == pageDir).elim (false, pm) fun i => (true, pm.releaseDirectory i)

def pagingGetCurrentPageDirectoryAddr (cr3 : UInt32) : UInt32 := cr3 + kernelVirtualAddressBase

def pagingUsePageDirectory (pageDirVirtualAddr : UInt32) : UInt32 :=
  if pageDirVirtualAddr > kernelVirtualAddressBase then pageDirVirtualAddr - kernelVirtualAddressBase
  else pageDirVirtualAddr

/-! ### Memory through the active directory -/

abbrev PhysicalMemory := ℕ → UInt8

def translate (pageDir : PageDirectory) (addr : UInt32) : Option ℕ :=
  if (pageDir (pageIndex addr)).flag.presentBit then
    some ((pageDir (pageIndex addr)).lowerAddress.val * 2 ^ 22 + addr.toNat % 2 ^ 22)
  else none

/-- Store `data 0`, ..., `data (n - 1)` from `addr` on; a page that is not present faults. -/
def storeBytes (pageDir : PageDirectory) (addr : UInt32) (data : ℕ → UInt8) :
    ℕ → PhysicalMemory → Option PhysicalMemory
  | 0, memory => some memory
  | n + 1, memory => (storeBytes pageDir addr data n memory).bind fun memory =>
      (translate pageDir (addr + UInt32.ofNat n)).map fun a => update memory a (data n)

def memset (pageDir : PageDirectory) (s : UInt32) (c : UInt8) (n : ℕ) (memory : PhysicalMemory) :
    Option PhysicalMemory := storeBytes pageDir s (fun _ => c) n memory

def memcpy (pageDir : PageDirectory) (dest src : UInt32) : ℕ → PhysicalMemory → Option PhysicalMemory
  | 0, memory => some memory
  | n + 1, memory => (memcpy pageDir dest src n memory).bind fun memory =>
      (translate pageDir (src + UInt32.ofNat n)).bind fun b =>
        (translate pageDir (dest + UInt32.ofNat n)).map fun a => update memory a (memory b)

end Semogakelar.Memory
