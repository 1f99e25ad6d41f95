import Semogakelar.Fat32.Tables

/-! The driver state with its packed memory, the allocation searches, and the creation and mounting of a volume. -/

namespace Semogakelar.Fat32

open Library Function

structure DriverState where
  fatTable : ClusterMap
  dirTableBuf : DirectoryTable
  clusterBuf : Cluster

namespace DriverState

/-- The word at `cluster_map[i]`. The driver state is packed, so past the map lie the words of
`dir_table_buf` and of `cluster_buf`, and past those the memory is not the driver's. -/
def word (d : DriverState) (i : ℕ) : Option UInt32 :=
  if h : i < 512 then some (d.fatTable ⟨i, h⟩)
  else if h : i - 512 < 512 then some (mapEquiv (tableEquiv.symm d.dirTableBuf) ⟨i - 512, h⟩)
  else if h : i - 1024 < 512 then some (mapEquiv d.clusterBuf ⟨i - 1024, h⟩)
  else none

def setWord (d : DriverState) (i : ℕ) (v : UInt32) : DriverState :=
  if h : i < 512 then { d with fatTable := update d.fatTable ⟨i, h⟩ v }
  else if h : i - 512 < 512 then
    let words := update (mapEquiv (tableEquiv.symm d.dirTableBuf)) ⟨i - 512, h⟩ v
    { d with dirTableBuf := tableEquiv (mapEquiv.symm words) }
  else if h : i - 1024 < 512 then
    { d with clusterBuf := mapEquiv.symm (update (mapEquiv d.clusterBuf) ⟨i - 1024, h⟩ v) }
  else d

def zeroed : DriverState := ⟨fun _ => 0, fun _ => .zero, fun _ => 0⟩

end DriverState

def rootName : Name := ![0x72, 0x6F, 0x6F, 0x74, 0, 0, 0, 0]

inductive RootLiteral
  | intact
  | overwritten (bytes : Name)

def RootLiteral.bytes : RootLiteral → Name
  | .intact => rootName
  | .overwritten bytes => bytes

/-- What the linked image holds and the source leaves open: the bytes behind `fs_signature`, which
`create_fat32` copies to the boot cluster, and what the eight bytes stored over the literal `""` in
`init_directory_table` do to the literal `"root\0\0\0\0"`. -/
structure KernelImage where
  afterSignature : Fin 1536 → UInt8
  overwriteRoot : Name → Name → Name

structure FileSystem where
  driver : DriverState
  disk : Disk
  rootLiteral : RootLiteral

structure DriverRequest where
  buf : ℕ → UInt8
  name : Name
  ext : Ext
  parentClusterNumber : UInt32
  bufferSize : UInt32

/-- How a driver operation ends: with a value, at an index outside the driver state, or out of fuel. -/
inductive Outcome (σ α : Type)
  | returned (value : α) (state : σ)
  | outside (state : σ)
  | running (state : σ)

def findEmptyCluster (fatTable : ClusterMap) : Option (Fin 512) :=
  Fin.find? fun idx => fatTable idx == fatEmptyEntry

def enoughEmptyClusterLoop (driver : DriverState) (required : ℕ) : ℕ → ℕ → ℕ → Bool
  | 0, _, count => count == required
  | fuel + 1, idx, count =>
    if count < required then
      enoughEmptyClusterLoop driver required fuel (idx + 1)
        (if driver.word (idx + 1) = some fatEmptyEntry then count + 1 else count)
    else count == required

-- `idx` starts at 2 and is raised before the test, so the words looked at are 3 to 512.
def enoughEmptyCluster (driver : DriverState) (required : ℕ) : Bool :=
  enoughEmptyClusterLoop driver required (512 - 2) 2 0

def initDirectoryTable (img : KernelImage) (fs : FileSystem) (name : Name) (parentDirCluster : UInt32) :
    DirectoryTable × RootLiteral :=
  (findEmptyCluster fs.driver.fatTable).elim (fun _ => .zero, fs.rootLiteral) fun emptyClusterIdx =>
    let table : DirectoryTable := update (fun _ => .zero) 0
      (initDirectoryEntry .zero name (fun _ => 0) attrSubdirectory (UInt32.ofNat emptyClusterIdx) 0)
    let parentEntry (parentName : Name) : DirectoryEntry :=
      initDirectoryEntry .zero parentName (fun _ => 0) attrSubdirectory parentDirCluster 0
    if parentDirCluster = rootClusterNumber then
      (update table 1 (parentEntry fs.rootLiteral.bytes), fs.rootLiteral)
    else
      let c := readClusters fs.disk parentDirCluster
      let parentName : Name := fun j => c (Fin.castLE (by decide) j)
      (update table 1 (parentEntry parentName),
        .overwritten (img.overwriteRoot fs.rootLiteral.bytes parentName))

def fsSignatureText : List UInt8 :=
  ("Course          Designed by     Lab Sister ITB  Made with <3    -----------2024\n".toList.map
    fun c => UInt8.ofNat c.toNat)

def fsSignature : Block := fun i =>
  if i.val = 510 then 0x4F else if i.val = 511 then 0x6B else fsSignatureText.getD i.val 0

def isEmptyStorage (disk : Disk) : Bool := memcmp (readBlocks disk bootSector 1 0) fsSignature != 0

def createFat32 (img : KernelImage) (fs : FileSystem) : FileSystem :=
  let fatTable : ClusterMap := fun i =>
    if i = 0 then cluster0Value else if i = 1 then cluster1Value else fatEmptyEntry
  let fs := { fs with driver := { fs.driver with fatTable := fatTable } }
  let root := initDirectoryTable img fs rootName rootClusterNumber
  let fatTable := update fatTable 2 fatEndOfFile
  let boot : Cluster := fun i =>
    if h : i.val < 512 then fsSignature ⟨i, h⟩ else img.afterSignature ⟨i - 512, by omega⟩
  { driver := { fs.driver with fatTable := fatTable, dirTableBuf := root.1 }
    disk := writeClusters (writeClusters (writeClusters fs.disk bootSector boot)
      fatClusterNumber (mapEquiv.symm fatTable)) rootClusterNumber (tableEquiv.symm root.1)
    rootLiteral := root.2 }

def initializeFilesystemFat32 (img : KernelImage) (fs : FileSystem) : FileSystem :=
  if isEmptyStorage fs.disk then createFat32 img fs
  else { fs with driver := { fs.driver with fatTable := mapEquiv (readClusters fs.disk fatClusterNumber) } }

def boot (img : KernelImage) (disk : Disk) : FileSystem :=
  initializeFilesystemFat32 img ⟨.zeroed, disk, .intact⟩

end Semogakelar.Fat32
