import Semogakelar.Fat32.Operations

/-! The driver linked with the block functions of the host, over an image in memory, and that inside the image it
is the driver of the kernel. -/

namespace Semogakelar.Fat32.Host

open Library Function

/-- The bytes of `image_storage`. -/
abbrev Image := ℕ → UInt8

def diskOf (image : Image) : Disk := fun b j => image (512 * b + j)

def imageOf (disk : Disk) : Image := fun a => disk (a / 512) ⟨a % 512, Nat.mod_lt _ (by decide)⟩

/-! ### The block functions -/

/-- `BLOCK_SIZE*(logical_block_address+i)`, in 32 bits. -/
def blockOffset (logicalBlockAddress : UInt32) (i : ℕ) : ℕ := (512 * (logicalBlockAddress + UInt32.ofNat i)).toNat

/-- The blocks lie in the 4 MiB that the image has been given. -/
def Within (logicalBlockAddress : UInt32) (blockCount : ℕ) : Prop :=
  ∀ i < blockCount, blockOffset logicalBlockAddress i + 512 ≤ 4 * 1024 * 1024

instance (logicalBlockAddress : UInt32) (blockCount : ℕ) : Decidable (Within logicalBlockAddress blockCount) :=
  inferInstanceAs (Decidable (∀ i < blockCount, _ ≤ _))

def copyBlock (image : Image) (offset : ℕ) (block : Block) : Image := fun a =>
  if h : offset ≤ a ∧ a - offset < 512 then block ⟨a - offset, h.2⟩ else image a

def readBlocks (image : Image) (logicalBlockAddress : UInt32) (blockCount : ℕ) : Option (Fin blockCount → Block) :=
  if Within logicalBlockAddress blockCount then
    some fun i j => image (blockOffset logicalBlockAddress i + j)
  else none

def writeBlocks (image : Image) (logicalBlockAddress : UInt32) (blockCount : ℕ) (data : Fin blockCount → Block) :
    Option Image :=
  if Within logicalBlockAddress blockCount then
    some ((List.finRange blockCount).foldl
      (fun image (i : Fin blockCount) => copyBlock image (blockOffset logicalBlockAddress i) (data i)) image)
  else none

/-! ### The driver over them -/

structure Storage where
  driver : DriverState
  image : Image

def readClusters (image : Image) (clusterNumber : UInt32) : Option Cluster :=
  (readBlocks image (clusterToLba clusterNumber) 4).map (rows UInt8 4 512).symm

def writeClusters (image : Image) (clusterNumber : UInt32) (data : Cluster) : Option Image :=
  writeBlocks image (clusterToLba clusterNumber) 4 (rows UInt8 4 512 data)

-- Under a directory other than the root the name is stored over the literal `""`, which the host keeps read-only.
def initDirectoryTable (fatTable : ClusterMap) (name : Name) (parentDirCluster : UInt32) : Option DirectoryTable :=
  (findEmptyCluster fatTable).elim (some fun _ => .zero) fun emptyClusterIdx =>
    let table : DirectoryTable := update (fun _ => .zero) 0
      (initDirectoryEntry .zero name (fun _ => 0) attrSubdirectory (UInt32.ofNat emptyClusterIdx) 0)
    if parentDirCluster = rootClusterNumber then
      some (update table 1 (initDirectoryEntry .zero rootName (fun _ => 0) attrSubdirectory parentDirCluster 0))
    else none

def isEmptyStorage (image : Image) : Option Bool :=
  (readBlocks image bootSector 1).map fun blocks => memcmp (blocks ⟨0, Nat.one_pos⟩) fsSignature != 0

lemma behind_signature (i : Fin 2048) (h : ¬ i.val < 512) : i.val - 512 < 1536 := by omega

def createFat32 (img : KernelImage) (st : Storage) : Option Storage := do
  let fatTable : ClusterMap := fun i =>
    if i = 0 then cluster0Value else if i = 1 then cluster1Value else fatEmptyEntry
  let root ← initDirectoryTable fatTable rootName rootClusterNumber
  let fatTable := update fatTable 2 fatEndOfFile
  let boot : Cluster := fun i =>
    if h : i.val < 512 then fsSignature ⟨i, h⟩ else img.afterSignature ⟨i - 512, behind_signature i h⟩
  let image ← writeClusters st.image bootSector boot
  let image ← writeClusters image fatClusterNumber (mapEquiv.symm fatTable)
  let image ← writeClusters image rootClusterNumber (tableEquiv.symm root)
  some ⟨{ st.driver with fatTable := fatTable, dirTableBuf := root }, image⟩

def initializeFilesystemFat32 (img : KernelImage) (st : Storage) : Option Storage := do
  if ← isEmptyStorage st.image then createFat32 img st
  else
    let fatTable ← readClusters st.image fatClusterNumber
    some { st with driver := { st.driver with fatTable := mapEquiv fatTable } }

def writePartitions (buf : ℕ → UInt8) : ℕ → ℕ → ℕ → Storage → Option (ℤ × Storage)
  | 0, partitionsCount, emptyClusterIdx, st => do
    let driver := st.driver.setWord emptyClusterIdx fatEndOfFile
    let image ← writeClusters st.image (UInt32.ofNat emptyClusterIdx) (chunk buf partitionsCount)
    let image ← writeClusters image fatClusterNumber (mapEquiv.symm driver.fatTable)
    some (0, ⟨driver, image⟩)
  | left + 1, partitionsCount, idx, st =>
    (nextEmptyCluster st.driver (idx + 1)).elim none fun emptyClusterIdx => do
      let image ← writeClusters st.image (UInt32.ofNat idx) (chunk buf partitionsCount)
      writePartitions buf left (partitionsCount + 1) emptyClusterIdx
        ⟨st.driver.setWord idx (UInt32.ofNat emptyClusterIdx), image⟩

def writeFolder (st : Storage) (request : DriverRequest) (parentDirectoryTable : DirectoryTable)
    (emptyEntryIdx : Fin 64) : Option (ℤ × Storage) :=
  (findEmptyCluster st.driver.fatTable).elim (some (-1, st)) fun emptyClusterIdx => do
    let c := UInt32.ofNat emptyClusterIdx
    let created ← initDirectoryTable st.driver.fatTable request.name request.parentClusterNumber
    let parentDirectoryTable := update parentDirectoryTable emptyEntryIdx
      (initDirectoryEntry (parentDirectoryTable emptyEntryIdx) request.name request.ext attrSubdirectory c
        request.bufferSize)
    let fatTable := update st.driver.fatTable emptyClusterIdx fatEndOfFile
    let image ← writeClusters st.image fatClusterNumber (mapEquiv.symm fatTable)
    let image ← writeClusters image c (tableEquiv.symm created)
    let image ← writeClusters image request.parentClusterNumber (tableEquiv.symm parentDirectoryTable)
    some (0, ⟨{ st.driver with fatTable := fatTable, dirTableBuf := created }, image⟩)

def writeFile (st : Storage) (request : DriverRequest) (parentDirectoryTable : DirectoryTable)
    (emptyEntryIdx : Fin 64) : Option (ℤ × Storage) :=
  if ¬ enoughEmptyCluster st.driver (numberOfPartition request.bufferSize) then some (-1, st) else
  (findEmptyCluster st.driver.fatTable).elim (some (-1, st)) fun emptyClusterIdx => do
    let parentDirectoryTable := update parentDirectoryTable emptyEntryIdx
      (initDirectoryEntry (parentDirectoryTable emptyEntryIdx) request.name request.ext 0
        (UInt32.ofNat emptyClusterIdx) request.bufferSize)
    let image ← writeClusters st.image request.parentClusterNumber (tableEquiv.symm parentDirectoryTable)
    writePartitions request.buf (numberOfPartition request.bufferSize - 1) 0 emptyClusterIdx
      { st with image := image }

def writeEntry (st : Storage) (request : DriverRequest) (parentDirectoryTable : DirectoryTable)
    (emptyEntryIdx : Fin 64) : Option (ℤ × Storage) :=
  if request.bufferSize = 0 then writeFolder st request parentDirectoryTable emptyEntryIdx
  else writeFile st request parentDirectoryTable emptyEntryIdx

def write (st : Storage) (request : DriverRequest) : Option (ℤ × Storage) :=
  (readClusters st.image request.parentClusterNumber).bind fun parent =>
    let parentDirectoryTable := tableEquiv parent
    if (parentDirectoryTable 0).attr ≠ attrSubdirectory then some (2, st) else
    let scan := scanParent parentDirectoryTable request (requestAttribute request) 62 ⟨2, 2 ^ 32 - 1, 0, false⟩
    if scan.idx < 64 then some (1, st)
    else if scan.numberOfEmptyEntry = 0 then some (-1, st)
    else if h : scan.emptyEntryIdx < 64 then writeEntry st request parentDirectoryTable ⟨scan.emptyEntryIdx, h⟩
    else none

/-! ### The host as a machine -/

def Storage.fileSystem (st : Storage) : FileSystem := ⟨st.driver, diskOf st.image, .intact⟩

def hosted : Outcome FileSystem ℤ → Option (ℤ × Storage)
  | .returned code ⟨driver, disk, .intact⟩ => some (code, ⟨driver, imageOf disk⟩)
  | _ => none

variable {image : Image} {st st' : Storage} {img : KernelImage} {request : DriverRequest} {lba c : UInt32} {n : ℕ}

@[simp] lemma diskOf_imageOf (disk : Disk) : diskOf (imageOf disk) = disk := by
  funext b j
  have hb : (512 * b + j.val) / 512 = b := by omega
  have hj : (512 * b + j.val) % 512 = j.val := by omega
  simp only [diskOf, imageOf, hb, hj]

@[simp] lemma imageOf_diskOf (image : Image) : imageOf (diskOf image) = image :=
  funext fun a => congrArg image (Nat.div_add_mod a 512)

lemma blockOffset_eq {i : ℕ} (h : lba.toNat + i < 8192) : blockOffset lba i = 512 * (lba.toNat + i) := by
  rw [blockOffset, UInt32.toNat_mul, UInt32.toNat_add, UInt32.toNat_ofNat']
  simp only [UInt32.reduceToNat]
  omega

lemma within_of_le (h : lba.toNat + n ≤ 8192) : Within lba n := by
  intro i hi
  rw [blockOffset_eq (by omega)]
  omega

lemma diskOf_copyBlock (image : Image) (b : ℕ) (block : Block) :
    diskOf (copyBlock image (512 * b) block) = update (diskOf image) b block := by
  funext c j
  rw [diskOf, copyBlock]
  by_cases hc : c = b
  · subst hc
    have hsub : 512 * c + j.val - 512 * c = j.val := by omega
    rw [update_self, dif_pos ⟨by omega, by omega⟩]
    simp only [hsub]
  · rw [update_of_ne hc, dif_neg (by omega)]
    rfl

lemma foldl_update {n : ℕ} (data : Fin n → Block) (m : ℕ) (is : List (Fin n)) (disk : Disk) (b : ℕ) :
    is.foldl (fun disk i => update disk (m + i.val) (data i)) disk b =
      if h : m ≤ b ∧ b - m < n then if ⟨b - m, h.2⟩ ∈ is then data ⟨b - m, h.2⟩ else disk b else disk b := by
  induction is generalizing disk with
  | nil => simp
  | cons i is ih =>
    rw [List.foldl_cons, ih]
    by_cases h : m ≤ b ∧ b - m < n
    · rw [dif_pos h, dif_pos h]
      by_cases hi : i = ⟨b - m, h.2⟩
      · have hb : b = m + i.val := by
          rw [hi]
          dsimp only
          omega
        rw [if_pos (List.mem_cons.mpr (.inl hi.symm))]
        split_ifs
        · rfl
        · rw [← hb, update_self, hi]
      · have hb : b ≠ m + i.val := by
          rintro rfl
          exact hi (Fin.ext (by dsimp only; omega))
        rw [update_of_ne hb]
        simp only [List.mem_cons, Ne.symm hi, false_or]
    · rw [dif_neg h, dif_neg h, update_of_ne]
      rintro rfl
      exact h ⟨by omega, by omega⟩

lemma deviceAddress_small (h : lba.toNat + n ≤ 8192) : deviceAddress lba = lba.toNat := by
  rw [deviceAddress]
  omega

lemma readBlocks_eq (h : lba.toNat + n ≤ 8192) (image : Image) :
    readBlocks image lba n = some (Fat32.readBlocks (diskOf image) lba n) := by
  rw [readBlocks, if_pos (within_of_le h)]
  congr 1
  funext i j
  have hi := i.isLt
  rw [blockOffset_eq (by omega), Fat32.readBlocks, deviceAddress_small h]
  rfl

lemma writeBlocks_eq (h : lba.toNat + n ≤ 8192) (image : Image) (data : Fin n → Block) :
    writeBlocks image lba n data = some (imageOf (Fat32.writeBlocks (diskOf image) lba n data)) := by
  have hfold : ∀ (is : List (Fin n)) (image : Image), diskOf (is.foldl
      (fun image (i : Fin n) => copyBlock image (blockOffset lba i) (data i)) image) =
        is.foldl (fun disk i => update disk (lba.toNat + i.val) (data i)) (diskOf image) := by
    intro is
    induction is with
    | nil => exact fun _ => rfl
    | cons i is ih =>
      intro image
      have hi := i.isLt
      rw [List.foldl_cons, List.foldl_cons, ih, blockOffset_eq (by omega), diskOf_copyBlock]
  rw [writeBlocks, if_pos (within_of_le h), ← imageOf_diskOf (List.foldl ..), hfold]
  congr 2
  funext b
  rw [foldl_update, Fat32.writeBlocks]
  simp only [deviceAddress_small h, List.mem_finRange, if_true]

lemma clusterToLba_small (h : c.toNat < 2048) : (clusterToLba c).toNat + 4 ≤ 8192 := by
  rw [clusterToLba, UInt32.toNat_mul]
  simp only [UInt32.reduceToNat]
  omega

lemma readClusters_eq (h : c.toNat < 2048) (image : Image) :
    readClusters image c = some (Fat32.readClusters (diskOf image) c) := by
  rw [readClusters, readBlocks_eq (clusterToLba_small h)]
  rfl

lemma writeClusters_eq (h : c.toNat < 2048) (image : Image) (data : Cluster) :
    writeClusters image c data = some (imageOf (Fat32.writeClusters (diskOf image) c data)) := by
  rw [writeClusters, writeBlocks_eq (clusterToLba_small h)]
  rfl

/-! ### Formatting and mounting -/

lemma isEmptyStorage_eq (image : Image) : isEmptyStorage image = some (Fat32.isEmptyStorage (diskOf image)) := by
  rw [isEmptyStorage, readBlocks_eq (by decide)]
  rfl

lemma initDirectoryTable_root (img : KernelImage) (fs : FileSystem) (hintact : fs.rootLiteral = .intact)
    (name : Name) :
    ∃ table, Fat32.initDirectoryTable img fs name rootClusterNumber = (table, .intact) ∧
      initDirectoryTable fs.driver.fatTable name rootClusterNumber = some table := by
  rw [Fat32.initDirectoryTable, initDirectoryTable]
  cases findEmptyCluster fs.driver.fatTable with
  | none => exact ⟨_, congrArg (Prod.mk _) hintact, rfl⟩
  | some k =>
    simp only [Option.elim_some, if_true, hintact]
    exact ⟨_, rfl, rfl⟩

lemma createFat32_eq (img : KernelImage) (st : Storage) : ∃ fs, Fat32.createFat32 img st.fileSystem = fs ∧
    fs.rootLiteral = .intact ∧ createFat32 img st = some ⟨fs.driver, imageOf fs.disk⟩ := by
  obtain ⟨root, hport, hhost⟩ := initDirectoryTable_root img
    { st.fileSystem with driver := { st.driver with fatTable := fun i =>
      if i = 0 then cluster0Value else if i = 1 then cluster1Value else fatEmptyEntry } } rfl rootName
  rw [Fat32.createFat32, createFat32]
  simp only [Storage.fileSystem] at hport ⊢
  simp only [hport, hhost, Option.bind_eq_bind, Option.bind_some, writeClusters_eq (c := bootSector) (by decide),
    writeClusters_eq (c := fatClusterNumber) (by decide), writeClusters_eq (c := rootClusterNumber) (by decide),
    diskOf_imageOf]
  exact ⟨_, rfl, rfl, rfl⟩

lemma initializeFilesystemFat32_eq (img : KernelImage) (image : Image) : ∃ st,
    initializeFilesystemFat32 img ⟨.zeroed, image⟩ = some st ∧ st.fileSystem = boot img (diskOf image) := by
  rw [initializeFilesystemFat32, isEmptyStorage_eq, boot, Fat32.initializeFilesystemFat32]
  obtain ⟨fs, hfs, hintact, hhost⟩ := createFat32_eq img ⟨.zeroed, image⟩
  simp only [Option.bind_eq_bind, Option.bind_some]
  split_ifs
  · refine ⟨_, hhost, ?_⟩
    rw [Storage.fileSystem, diskOf_imageOf]
    obtain ⟨driver, disk, literal⟩ := fs
    obtain rfl := hintact
    exact hfs.symm
  · rw [readClusters_eq (by decide)]
    exact ⟨_, rfl, rfl⟩

/-! ### Writing -/

lemma toNat_idx {i : ℕ} (h : i < 1536) : (UInt32.ofNat i).toNat < 2048 := by
  rw [UInt32.toNat_ofNat']
  omega

lemma writePartitions_eq {buf : ℕ → UInt8} {left partitionsCount idx : ℕ} (hidx : idx < 1536) (st : Storage) :
    writePartitions buf left partitionsCount idx st =
      hosted (Fat32.writePartitions buf left partitionsCount idx st.fileSystem) := by
  induction left generalizing partitionsCount idx st with
  | zero =>
    simp only [writePartitions, Fat32.writePartitions, Option.bind_eq_bind, Option.bind_some,
      writeClusters_eq (toNat_idx hidx), writeClusters_eq (c := fatClusterNumber) (by decide), diskOf_imageOf]
    rfl
  | succ left ih =>
    rw [writePartitions, Fat32.writePartitions, show st.fileSystem.driver = st.driver from rfl]
    cases nextEmptyCluster st.driver (idx + 1) with
    | none => rfl
    | some k =>
      simp only [Option.elim_some, Option.bind_eq_bind, writeClusters_eq (toNat_idx hidx), Option.bind_some]
      rw [ih k.isLt]
      simp only [Storage.fileSystem, diskOf_imageOf]

lemma hosted_fileSystem (code : ℤ) (st : Storage) : hosted (.returned code st.fileSystem) = some (code, st) :=
  congrArg (fun image => some (code, Storage.mk st.driver image)) (imageOf_diskOf st.image)

lemma hosted_eq_some {o : Outcome FileSystem ℤ} {code : ℤ} (h : hosted o = some (code, st)) :
    o = .returned code st.fileSystem := by
  match o, h with
  | .returned _ ⟨driver, disk, .intact⟩, h =>
    obtain ⟨rfl, rfl⟩ := Prod.mk.inj (Option.some.inj h)
    rw [Storage.fileSystem, diskOf_imageOf]

lemma writeFolder_eq (img : KernelImage) (table : DirectoryTable) (i : Fin 64) :
    writeFolder st request table i = hosted (Fat32.writeFolder img st.fileSystem request table i) := by
  rw [writeFolder, Fat32.writeFolder, show st.fileSystem.driver = st.driver from rfl]
  cases hk : findEmptyCluster st.driver.fatTable with
  | none => exact (hosted_fileSystem (-1) st).symm
  | some k =>
    have hk' : (UInt32.ofNat k).toNat < 2048 := toNat_idx (k.isLt.trans (by decide))
    simp only [Option.elim_some, Option.bind_eq_bind]
    by_cases hroot : request.parentClusterNumber = rootClusterNumber
    · obtain ⟨table, hport, hhost⟩ := initDirectoryTable_root img st.fileSystem rfl request.name
      rw [show st.fileSystem.driver = st.driver from rfl] at hhost
      rw [hroot, hport, hhost]
      simp only [Option.bind_some, writeClusters_eq (c := fatClusterNumber) (by decide), writeClusters_eq hk',
        writeClusters_eq (c := rootClusterNumber) (by decide), diskOf_imageOf]
      rfl
    · simp only [initDirectoryTable, Fat32.initDirectoryTable, Storage.fileSystem, hk, Option.elim_some,
        if_neg hroot]
      rfl

lemma writeFile_eq (hp : request.parentClusterNumber.toNat < 2048) (table : DirectoryTable) (i : Fin 64) :
    writeFile st request table i = hosted (Fat32.writeFile st.fileSystem request table i) := by
  rw [writeFile, Fat32.writeFile, show st.fileSystem.driver = st.driver from rfl]
  split_ifs
  · cases findEmptyCluster st.driver.fatTable with
    | none => exact (hosted_fileSystem (-1) st).symm
    | some k =>
      simp only [Option.elim_some, Option.bind_eq_bind, writeClusters_eq hp, Option.bind_some]
      rw [writePartitions_eq (k.isLt.trans (by decide))]
      simp only [Storage.fileSystem, diskOf_imageOf]
  · exact (hosted_fileSystem (-1) st).symm

/-- Inside the image the driver of the host is the driver of the kernel, up to the literal that it cannot
overwrite. -/
lemma write_eq (img : KernelImage) (hp : request.parentClusterNumber.toNat < 2048) :
    write st request = hosted (Fat32.write img st.fileSystem request) := by
  have htable : tableEquiv (Fat32.readClusters (diskOf st.image) request.parentClusterNumber) =
      st.fileSystem.table request.parentClusterNumber := rfl
  rw [write, readClusters_eq hp, Option.bind_some, htable, Fat32.write]
  simp only
  split_ifs
  · exact (hosted_fileSystem 2 st).symm
  · exact (hosted_fileSystem 1 st).symm
  · exact (hosted_fileSystem (-1) st).symm
  · rw [writeEntry, Fat32.writeEntry]
    split_ifs
    · exact writeFolder_eq img _ _
    · exact writeFile_eq hp _ _
  · rfl

/-! ### Refused writes -/

lemma writePartitions_code {buf : ℕ → UInt8} {left partitionsCount idx : ℕ} {code : ℤ}
    (h : writePartitions buf left partitionsCount idx st = some (code, st')) : code = 0 := by
  induction left generalizing partitionsCount idx st with
  | zero =>
    simp only [writePartitions, Option.bind_eq_bind, Option.bind_eq_some_iff, Option.some.injEq,
      Prod.mk.injEq] at h
    obtain ⟨_, -, _, -, h, -⟩ := h
    exact h.symm
  | succ left ih =>
    rw [writePartitions] at h
    cases hnext : nextEmptyCluster st.driver (idx + 1) with
    | none =>
      rw [hnext] at h
      cases h
    | some k =>
      simp only [hnext, Option.elim_some, Option.bind_eq_bind, Option.bind_eq_some_iff] at h
      obtain ⟨_, -, h⟩ := h
      exact ih h

lemma writeEntry_failed {table : DirectoryTable} {i : Fin 64} {code : ℤ}
    (h : writeEntry st request table i = some (code, st')) (hc : code ≠ 0) : st' = st := by
  rw [writeEntry, writeFolder, writeFile] at h
  cases hk : findEmptyCluster st.driver.fatTable with
  | none =>
    rw [hk] at h
    split_ifs at h
    · exact (Prod.mk.inj (Option.some.inj h)).2.symm
    · exact (Prod.mk.inj (Option.some.inj h)).2.symm
    · exact (Prod.mk.inj (Option.some.inj h)).2.symm
  | some k =>
    rw [hk] at h
    split_ifs at h
    · simp only [Option.elim_some, Option.bind_eq_bind, Option.bind_eq_some_iff, Option.some.injEq,
        Prod.mk.injEq] at h
      obtain ⟨_, -, _, -, _, -, _, -, h, -⟩ := h
      exact (hc h.symm).elim
    · simp only [Option.elim_some, Option.bind_eq_bind, Option.bind_eq_some_iff] at h
      obtain ⟨_, -, h⟩ := h
      exact (hc (writePartitions_code h)).elim
    · exact (Prod.mk.inj (Option.some.inj h)).2.symm

lemma write_failed {code : ℤ} (h : write st request = some (code, st')) (hc : code ≠ 0) : st' = st := by
  obtain ⟨parent, -, h⟩ := Option.bind_eq_some_iff.mp h
  simp only at h
  split_ifs at h
  · exact (Prod.mk.inj (Option.some.inj h)).2.symm
  · exact (Prod.mk.inj (Option.some.inj h)).2.symm
  · exact (Prod.mk.inj (Option.some.inj h)).2.symm
  · exact writeEntry_failed h hc

end Semogakelar.Fat32.Host
