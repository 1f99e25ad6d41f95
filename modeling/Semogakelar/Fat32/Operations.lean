import Semogakelar.Fat32.Driver

/-! The four operations of the driver. -/

namespace Semogakelar.Fat32

open Library Function

def DirectoryEntry.hasName (e : DirectoryEntry) (request : DriverRequest) : Bool := memcmp e.name request.name == 0

def DirectoryEntry.hasExt (e : DirectoryEntry) (request : DriverRequest) : Bool := memcmp e.ext request.ext == 0

def FileSystem.table (fs : FileSystem) (c : UInt32) : DirectoryTable := tableEquiv (readClusters fs.disk c)

def findEntry (table : DirectoryTable) (request : DriverRequest) : Option (Fin 64) :=
  Fin.find? fun idx => (table idx).hasName request && (table idx).hasExt request

def findDirectory (table : DirectoryTable) (request : DriverRequest) : Option (Fin 64) :=
  Fin.find? fun idx => decide (2 ≤ idx.val) && (table idx).hasName request

def findChild (table : DirectoryTable) : Option (Fin 64) :=
  Fin.find? fun idx => decide (2 ≤ idx.val) && (table idx).userAttribute == uattrNotEmpty

structure Transfer where
  buf : ℕ → UInt8
  clusters : List UInt32

def Transfer.copy (t : Transfer) (disk : Disk) (c : UInt32) : Transfer where
  buf := fun i => if h : 2048 * t.clusters.length ≤ i ∧ i - 2048 * t.clusters.length < 2048 then
      readClusters disk c ⟨i - 2048 * t.clusters.length, h.2⟩
    else t.buf i
  clusters := t.clusters ++ [c]

def readDirectory (fs : FileSystem) (request : DriverRequest) : ℤ × Transfer :=
  let start : Transfer := ⟨request.buf, []⟩
  if request.bufferSize < 2048 then (-1, start) else
  let parentDirectoryTable := fs.table request.parentClusterNumber
  if (parentDirectoryTable 0).attr ≠ attrSubdirectory then (-1, start) else
  match findDirectory parentDirectoryTable request with
  | none => (2, start)
  | some idx =>
    let dirEntry := parentDirectoryTable idx
    if dirEntry.attr ≠ attrSubdirectory then (1, start)
    else (0, start.copy fs.disk dirEntry.clusterNumber)

def readPartitions (fs : FileSystem) : ℕ → UInt32 → Transfer → Outcome Transfer ℤ
  | 0, _, t => .running t
  | fuel + 1, clusterNumber, t =>
    if clusterNumber = fatEndOfFile then .returned 0 t
    else
      let t := t.copy fs.disk clusterNumber
      match fs.driver.word clusterNumber.toNat with
      | none => .outside t
      | some next => readPartitions fs fuel next t

def read (fuel : ℕ) (fs : FileSystem) (request : DriverRequest) : Outcome Transfer ℤ :=
  let start : Transfer := ⟨request.buf, []⟩
  let parentDirectoryTable := fs.table request.parentClusterNumber
  if (parentDirectoryTable 0).attr ≠ attrSubdirectory then .returned (-1) start else
  match findEntry parentDirectoryTable request with
  | none => .returned 2 start
  | some idx =>
    let dirEntry := parentDirectoryTable idx
    if dirEntry.attr = attrSubdirectory then .returned 1 start
    else if request.bufferSize < dirEntry.filesize then .returned (-1) start
    else readPartitions fs fuel dirEntry.clusterNumber start

structure ParentScan where
  idx : ℕ
  emptyEntryIdx : ℕ
  numberOfEmptyEntry : ℕ
  found : Bool

def scanParent (table : DirectoryTable) (request : DriverRequest) (requestAttribute : UInt8) :
    ℕ → ParentScan → ParentScan
  | 0, s => s
  | fuel + 1, s =>
    if h : s.idx < 64 then
      let entry := table ⟨s.idx, h⟩
      if entry.hasName request && entry.hasExt request && entry.attr == requestAttribute then s
      else if entry.userAttribute ≠ uattrNotEmpty then
        scanParent table request requestAttribute fuel
          ⟨s.idx + 1, if s.found then s.emptyEntryIdx else s.idx, s.numberOfEmptyEntry + 1, true⟩
      else scanParent table request requestAttribute fuel { s with idx := s.idx + 1 }
    else s

def chunk (buf : ℕ → UInt8) (n : ℕ) : Cluster := fun j => buf (2048 * n + j)

/-- `while (cluster_map[i] != EMPTY) i++`, which ends only at an empty word. -/
def nextEmptyCluster (driver : DriverState) (i : ℕ) : Option (Fin 1536) :=
  Fin.find? fun j => decide (i ≤ j.val) && driver.word j == some fatEmptyEntry

def writePartitions (buf : ℕ → UInt8) : ℕ → ℕ → ℕ → FileSystem → Outcome FileSystem ℤ
  | 0, partitionsCount, emptyClusterIdx, fs =>
    let driver := fs.driver.setWord emptyClusterIdx fatEndOfFile
    let disk := writeClusters fs.disk (UInt32.ofNat emptyClusterIdx) (chunk buf partitionsCount)
    .returned 0 { fs with
      driver := driver
      disk := writeClusters disk fatClusterNumber (mapEquiv.symm driver.fatTable) }
  | left + 1, partitionsCount, idx, fs =>
    (nextEmptyCluster fs.driver (idx + 1)).elim (.outside fs) fun emptyClusterIdx =>
      writePartitions buf left (partitionsCount + 1) emptyClusterIdx { fs with
        driver := fs.driver.setWord idx (UInt32.ofNat emptyClusterIdx)
        disk := writeClusters fs.disk (UInt32.ofNat idx) (chunk buf partitionsCount) }

def writeFolder (img : KernelImage) (fs : FileSystem) (request : DriverRequest)
    (parentDirectoryTable : DirectoryTable) (emptyEntryIdx : Fin 64) : Outcome FileSystem ℤ :=
  (findEmptyCluster fs.driver.fatTable).elim (.returned (-1) fs) fun emptyClusterIdx =>
    let c := UInt32.ofNat emptyClusterIdx
    let created := initDirectoryTable img fs request.name request.parentClusterNumber
    let parentDirectoryTable := update parentDirectoryTable emptyEntryIdx
      (initDirectoryEntry (parentDirectoryTable emptyEntryIdx) request.name request.ext attrSubdirectory c
        request.bufferSize)
    let fatTable := update fs.driver.fatTable emptyClusterIdx fatEndOfFile
    .returned 0
      { driver := { fs.driver with fatTable := fatTable, dirTableBuf := created.1 }
        disk := writeClusters (writeClusters (writeClusters fs.disk fatClusterNumber (mapEquiv.symm fatTable))
          c (tableEquiv.symm created.1)) request.parentClusterNumber (tableEquiv.symm parentDirectoryTable)
        rootLiteral := created.2 }

def numberOfPartition (bufferSize : UInt32) : ℕ :=
  bufferSize.toNat / 2048 + if bufferSize.toNat % 2048 > 0 then 1 else 0

def writeFile (fs : FileSystem) (request : DriverRequest) (parentDirectoryTable : DirectoryTable)
    (emptyEntryIdx : Fin 64) : Outcome FileSystem ℤ :=
  if ¬ enoughEmptyCluster fs.driver (numberOfPartition request.bufferSize) then .returned (-1) fs else
  (findEmptyCluster fs.driver.fatTable).elim (.returned (-1) fs) fun emptyClusterIdx =>
    let parentDirectoryTable := update parentDirectoryTable emptyEntryIdx
      (initDirectoryEntry (parentDirectoryTable emptyEntryIdx) request.name request.ext 0
        (UInt32.ofNat emptyClusterIdx) request.bufferSize)
    writePartitions request.buf (numberOfPartition request.bufferSize - 1) 0 emptyClusterIdx { fs with
      disk := writeClusters fs.disk request.parentClusterNumber (tableEquiv.symm parentDirectoryTable) }

def writeEntry (img : KernelImage) (fs : FileSystem) (request : DriverRequest)
    (parentDirectoryTable : DirectoryTable) (emptyEntryIdx : Fin 64) : Outcome FileSystem ℤ :=
  if request.bufferSize = 0 then writeFolder img fs request parentDirectoryTable emptyEntryIdx
  else writeFile fs request parentDirectoryTable emptyEntryIdx

def requestAttribute (request : DriverRequest) : UInt8 := if request.bufferSize = 0 then attrSubdirectory else 0

def write (img : KernelImage) (fs : FileSystem) (request : DriverRequest) : Outcome FileSystem ℤ :=
  let parentDirectoryTable := fs.table request.parentClusterNumber
  if (parentDirectoryTable 0).attr ≠ attrSubdirectory then .returned 2 fs else
  let scan := scanParent parentDirectoryTable request (requestAttribute request) 62 ⟨2, 2 ^ 32 - 1, 0, false⟩
  if scan.idx < 64 then .returned 1 fs
  else if scan.numberOfEmptyEntry = 0 then .returned (-1) fs
  else if h : scan.emptyEntryIdx < 64 then writeEntry img fs request parentDirectoryTable ⟨scan.emptyEntryIdx, h⟩
  else .outside fs

def freePartitions : ℕ → UInt32 → FileSystem → Outcome FileSystem UInt32
  | 0, _, fs => .running fs
  | fuel + 1, deletedCluster, fs =>
    match fs.driver.word deletedCluster.toNat with
    | none => .outside fs
    | some next =>
      if next = fatEndOfFile then .returned deletedCluster fs
      else freePartitions fuel next { fs with
        driver := fs.driver.setWord deletedCluster.toNat fatEmptyEntry
        disk := writeClusters fs.disk deletedCluster (fun _ => 0) }

def clearEntry (fs : FileSystem) (request : DriverRequest) (parentDirectoryTable : DirectoryTable) (idx : Fin 64)
    (deletedCluster : UInt32) : Outcome FileSystem ℤ :=
  let disk := writeClusters fs.disk deletedCluster (fun _ => 0)
  if deletedCluster.toNat < 1536 then
    let driver := fs.driver.setWord deletedCluster.toNat fatEmptyEntry
    let disk := writeClusters disk request.parentClusterNumber
      (tableEquiv.symm (update parentDirectoryTable idx .zero))
    .returned 0 { fs with
      driver := driver
      disk := writeClusters disk fatClusterNumber (mapEquiv.symm driver.fatTable) }
  else .outside { fs with disk := disk }

def delete (fuel : ℕ) (fs : FileSystem) (request : DriverRequest) : Outcome FileSystem ℤ :=
  let parentDirectoryTable := fs.table request.parentClusterNumber
  if (parentDirectoryTable 0).attr ≠ attrSubdirectory then .returned (-1) fs else
  match findEntry parentDirectoryTable request with
  | none => .returned 1 fs
  | some idx =>
    let dirEntry := parentDirectoryTable idx
    if dirEntry.attr = attrSubdirectory then
      let folderDirectoryTable := fs.table dirEntry.clusterLow.toUInt32
      match findChild folderDirectoryTable with
      | some _ => .returned 2 fs
      | none => clearEntry fs request parentDirectoryTable idx dirEntry.clusterNumber
    else
      match freePartitions fuel dirEntry.clusterNumber fs with
      | .returned deletedCluster fs => clearEntry fs request parentDirectoryTable idx deletedCluster
      | .outside fs => .outside fs
      | .running fs => .running fs

end Semogakelar.Fat32
