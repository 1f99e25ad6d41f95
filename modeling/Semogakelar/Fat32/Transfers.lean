import Semogakelar.Fat32.Remount

/-! What the operations move between the volume and the buffer of a request, and that they move nothing when they
fail. -/

namespace Semogakelar.Fat32

open Library Function FileSystem

variable {img : KernelImage} {fs fs' : FileSystem} {request : DriverRequest} {i : Fin 64}

inductive Touch
  | store (offset : ℕ) (cluster : UInt32)
  | fetch (offset : ℕ)
  | index (i : ℕ)

/-! ### The operations with a record of what they touch -/

def loggedReadDirectory (fs : FileSystem) (request : DriverRequest) : List Touch × ℤ × Transfer :=
  let start : Transfer := ⟨request.buf, []⟩
  if request.bufferSize < 2048 then ([], -1, start) else
  let parentDirectoryTable := fs.table request.parentClusterNumber
  if (parentDirectoryTable 0).attr ≠ attrSubdirectory then ([], -1, start) else
  match findDirectory parentDirectoryTable request with
  | none => ([], 2, start)
  | some idx =>
    let dirEntry := parentDirectoryTable idx
    if dirEntry.attr ≠ attrSubdirectory then ([], 1, start)
    else ([.store 0 dirEntry.clusterNumber], 0, start.copy fs.disk dirEntry.clusterNumber)

def loggedReadPartitions (fs : FileSystem) : ℕ → UInt32 → Transfer → List Touch × Outcome Transfer ℤ
  | 0, _, t => ([], .running t)
  | fuel + 1, clusterNumber, t =>
    if clusterNumber = fatEndOfFile then ([], .returned 0 t)
    else
      let copied := t.copy fs.disk clusterNumber
      let touches := [.store (2048 * t.clusters.length) clusterNumber, .index clusterNumber.toNat]
      match fs.driver.word clusterNumber.toNat with
      | none => (touches, .outside copied)
      | some next =>
        let rest := loggedReadPartitions fs fuel next copied
        (touches ++ rest.1, rest.2)

def loggedRead (fuel : ℕ) (fs : FileSystem) (request : DriverRequest) : List Touch × Outcome Transfer ℤ :=
  let start : Transfer := ⟨request.buf, []⟩
  let parentDirectoryTable := fs.table request.parentClusterNumber
  if (parentDirectoryTable 0).attr ≠ attrSubdirectory then ([], .returned (-1) start) else
  match findEntry parentDirectoryTable request with
  | none => ([], .returned 2 start)
  | some idx =>
    let dirEntry := parentDirectoryTable idx
    if dirEntry.attr = attrSubdirectory then ([], .returned 1 start)
    else if request.bufferSize < dirEntry.filesize then ([], .returned (-1) start)
    else loggedReadPartitions fs fuel dirEntry.clusterNumber start

def loggedWritePartitions (buf : ℕ → UInt8) : ℕ → ℕ → ℕ → FileSystem → List Touch × Outcome FileSystem ℤ
  | 0, partitionsCount, emptyClusterIdx, fs =>
    let driver := fs.driver.setWord emptyClusterIdx fatEndOfFile
    let disk := writeClusters fs.disk (UInt32.ofNat emptyClusterIdx) (chunk buf partitionsCount)
    ([.fetch (2048 * partitionsCount)], .returned 0 { fs with
      driver := driver
      disk := writeClusters disk fatClusterNumber (mapEquiv.symm driver.fatTable) })
  | left + 1, partitionsCount, idx, fs =>
    (nextEmptyCluster fs.driver (idx + 1)).elim ([], .outside fs) fun emptyClusterIdx =>
      let rest := loggedWritePartitions buf left (partitionsCount + 1) emptyClusterIdx { fs with
        driver := fs.driver.setWord idx (UInt32.ofNat emptyClusterIdx)
        disk := writeClusters fs.disk (UInt32.ofNat idx) (chunk buf partitionsCount) }
      (.fetch (2048 * partitionsCount) :: rest.1, rest.2)

def loggedWriteFile (fs : FileSystem) (request : DriverRequest) (parentDirectoryTable : DirectoryTable)
    (emptyEntryIdx : Fin 64) : List Touch × Outcome FileSystem ℤ :=
  if ¬ enoughEmptyCluster fs.driver (numberOfPartition request.bufferSize) then ([], .returned (-1) fs) else
  (findEmptyCluster fs.driver.fatTable).elim ([], .returned (-1) fs) fun emptyClusterIdx =>
    let parentDirectoryTable := update parentDirectoryTable emptyEntryIdx
      (initDirectoryEntry (parentDirectoryTable emptyEntryIdx) request.name request.ext 0
        (UInt32.ofNat emptyClusterIdx) request.bufferSize)
    loggedWritePartitions request.buf (numberOfPartition request.bufferSize - 1) 0 emptyClusterIdx { fs with
      disk := writeClusters fs.disk request.parentClusterNumber (tableEquiv.symm parentDirectoryTable) }

-- A folder is written without a look at the buffer.
def loggedWriteEntry (img : KernelImage) (fs : FileSystem) (request : DriverRequest)
    (parentDirectoryTable : DirectoryTable) (emptyEntryIdx : Fin 64) : List Touch × Outcome FileSystem ℤ :=
  if request.bufferSize = 0 then ([], writeFolder img fs request parentDirectoryTable emptyEntryIdx)
  else loggedWriteFile fs request parentDirectoryTable emptyEntryIdx

def loggedWrite (img : KernelImage) (fs : FileSystem) (request : DriverRequest) :
    List Touch × Outcome FileSystem ℤ :=
  let parentDirectoryTable := fs.table request.parentClusterNumber
  if (parentDirectoryTable 0).attr ≠ attrSubdirectory then ([], .returned 2 fs) else
  let scan := scanParent parentDirectoryTable request (requestAttribute request) 62 ⟨2, 2 ^ 32 - 1, 0, false⟩
  if scan.idx < 64 then ([], .returned 1 fs)
  else if scan.numberOfEmptyEntry = 0 then ([], .returned (-1) fs)
  else if h : scan.emptyEntryIdx < 64 then loggedWriteEntry img fs request parentDirectoryTable
    ⟨scan.emptyEntryIdx, h⟩
  else ([], .outside fs)

lemma loggedReadDirectory_snd : (loggedReadDirectory fs request).2 = readDirectory fs request := by
  rw [loggedReadDirectory, readDirectory]
  simp only
  split_ifs
  · rfl
  · rfl
  · cases findDirectory (fs.table request.parentClusterNumber) request with
    | none => rfl
    | some idx =>
      simp only
      split_ifs
      · rfl
      · rfl

lemma loggedReadPartitions_snd (fuel : ℕ) (c : UInt32) (t : Transfer) :
    (loggedReadPartitions fs fuel c t).2 = readPartitions fs fuel c t := by
  induction fuel generalizing c t with
  | zero => rfl
  | succ fuel ih =>
    rw [loggedReadPartitions, readPartitions]
    split_ifs
    · rfl
    · cases fs.driver.word c.toNat with
      | none => rfl
      | some next => exact ih next _

lemma loggedRead_snd (fuel : ℕ) : (loggedRead fuel fs request).2 = read fuel fs request := by
  rw [loggedRead, read]
  simp only
  split_ifs
  · rfl
  · cases findEntry (fs.table request.parentClusterNumber) request with
    | none => rfl
    | some idx =>
      simp only
      split_ifs
      · rfl
      · rfl
      · exact loggedReadPartitions_snd _ _ _

lemma loggedWritePartitions_snd (buf : ℕ → UInt8) (left n idx : ℕ) (fs : FileSystem) :
    (loggedWritePartitions buf left n idx fs).2 = writePartitions buf left n idx fs := by
  induction left generalizing n idx fs with
  | zero => rfl
  | succ left ih =>
    rw [loggedWritePartitions, writePartitions]
    cases nextEmptyCluster fs.driver (idx + 1) with
    | none => rfl
    | some k => exact ih _ _ _

lemma loggedWriteFile_snd (table : DirectoryTable) :
    (loggedWriteFile fs request table i).2 = writeFile fs request table i := by
  rw [loggedWriteFile, writeFile]
  split_ifs
  · cases findEmptyCluster fs.driver.fatTable with
    | none => rfl
    | some k => exact loggedWritePartitions_snd _ _ _ _ _
  · rfl

lemma loggedWriteEntry_snd (table : DirectoryTable) :
    (loggedWriteEntry img fs request table i).2 = writeEntry img fs request table i := by
  rw [loggedWriteEntry, writeEntry]
  split_ifs
  · simp only
  · exact loggedWriteFile_snd table

lemma loggedWrite_snd : (loggedWrite img fs request).2 = write img fs request := by
  rw [loggedWrite, write]
  simp only
  split_ifs
  · rfl
  · rfl
  · rfl
  · exact loggedWriteEntry_snd _
  · rfl

/-! ### Failing operations -/

lemma readPartitions_code {fuel : ℕ} {c : UInt32} {code : ℤ} {t t' : Transfer}
    (h : readPartitions fs fuel c t = .returned code t') : code = 0 := by
  induction fuel generalizing c t with
  | zero => cases h
  | succ fuel ih =>
    rw [readPartitions] at h
    split_ifs at h
    · exact (Outcome.returned.inj h).1.symm
    · cases hword : fs.driver.word c.toNat with
      | none =>
        rw [hword] at h
        cases h
      | some next =>
        rw [hword] at h
        exact ih h

lemma writePartitions_code {buf : ℕ → UInt8} {left n idx : ℕ} {code : ℤ}
    (h : writePartitions buf left n idx fs = .returned code fs') : code = 0 := by
  induction left generalizing n idx fs with
  | zero => exact (Outcome.returned.inj h).1.symm
  | succ left ih =>
    rw [writePartitions] at h
    cases hnext : nextEmptyCluster fs.driver (idx + 1) with
    | none =>
      rw [hnext] at h
      cases h
    | some k =>
      rw [hnext] at h
      exact ih h

lemma clearEntry_code {table : DirectoryTable} {z : UInt32} {code : ℤ}
    (h : clearEntry fs request table i z = .returned code fs') : code = 0 := by
  rw [clearEntry] at h
  simp only at h
  split_ifs at h
  exact (Outcome.returned.inj h).1.symm

lemma write_failed {code : ℤ} (h : write img fs request = .returned code fs') (hc : code ≠ 0) : fs' = fs := by
  rcases write_cases img fs request with ⟨⟨_, -, hwr⟩, -⟩ | ⟨i, -, hwr⟩
  · rw [hwr fs rfl] at h
    exact (Outcome.returned.inj h).2.symm
  · rw [hwr fs rfl, writeEntry, writeFolder, writeFile] at h
    split_ifs at h
    · cases hk : findEmptyCluster fs.driver.fatTable with
      | none =>
        rw [hk] at h
        exact (Outcome.returned.inj h).2.symm
      | some k =>
        rw [hk] at h
        exact (hc (Outcome.returned.inj h).1.symm).elim
    · cases hk : findEmptyCluster fs.driver.fatTable with
      | none =>
        rw [hk] at h
        exact (Outcome.returned.inj h).2.symm
      | some k =>
        rw [hk] at h
        exact (hc (writePartitions_code h)).elim
    · exact (Outcome.returned.inj h).2.symm

lemma delete_failed {fuel : ℕ} {code : ℤ} (h : delete fuel fs request = .returned code fs') (hc : code ≠ 0) :
    fs' = fs := by
  rw [delete] at h
  simp only at h
  split_ifs at h
  · exact (Outcome.returned.inj h).2.symm
  · cases hm : findEntry (fs.table request.parentClusterNumber) request with
    | none =>
      rw [hm] at h
      exact (Outcome.returned.inj h).2.symm
    | some idx =>
      rw [hm] at h
      simp only at h
      split_ifs at h
      · split at h
        · exact (Outcome.returned.inj h).2.symm
        · exact (hc (clearEntry_code h)).elim
      · split at h
        · exact (hc (clearEntry_code h)).elim
        · cases h
        · cases h

lemma read_failed {fuel : ℕ} {code : ℤ} {t : Transfer} (h : read fuel fs request = .returned code t)
    (hc : code ≠ 0) : (loggedRead fuel fs request).1 = [] ∧ t = ⟨request.buf, []⟩ := by
  rw [read] at h
  rw [loggedRead]
  simp only at h ⊢
  split_ifs at h ⊢
  · exact ⟨rfl, (Outcome.returned.inj h).2.symm⟩
  · cases hm : findEntry (fs.table request.parentClusterNumber) request with
    | none =>
      rw [hm] at h
      exact ⟨rfl, (Outcome.returned.inj h).2.symm⟩
    | some idx =>
      rw [hm] at h
      simp only at h ⊢
      split_ifs at h ⊢
      · exact ⟨rfl, (Outcome.returned.inj h).2.symm⟩
      · exact ⟨rfl, (Outcome.returned.inj h).2.symm⟩
      · exact (hc (readPartitions_code h)).elim

lemma readDirectory_failed (hc : (readDirectory fs request).1 ≠ 0) :
    (loggedReadDirectory fs request).1 = [] ∧ (readDirectory fs request).2 = ⟨request.buf, []⟩ := by
  revert hc
  rw [readDirectory, loggedReadDirectory]
  simp only
  split_ifs
  · exact fun _ => ⟨rfl, rfl⟩
  · exact fun _ => ⟨rfl, rfl⟩
  · cases findDirectory (fs.table request.parentClusterNumber) request with
    | none => exact fun _ => ⟨rfl, rfl⟩
    | some idx =>
      simp only
      split_ifs
      · exact fun _ => ⟨rfl, rfl⟩
      · exact fun hc => absurd rfl hc

theorem failed_operations_change_nothing (img : KernelImage) (fs : FileSystem) (request : DriverRequest) :
    (∀ code fs', write img fs request = .returned code fs' → code ≠ 0 → fs' = fs) ∧
    (∀ fuel code fs', delete fuel fs request = .returned code fs' → code ≠ 0 → fs' = fs) ∧
    (∀ fuel code t, read fuel fs request = .returned code t → code ≠ 0 →
      (loggedRead fuel fs request).1 = [] ∧ t = ⟨request.buf, []⟩) ∧
    ((readDirectory fs request).1 ≠ 0 →
      (loggedReadDirectory fs request).1 = [] ∧ (readDirectory fs request).2 = ⟨request.buf, []⟩) :=
  ⟨fun _ _ => write_failed, fun _ _ _ => delete_failed, fun _ _ _ => read_failed, readDirectory_failed⟩

end Semogakelar.Fat32
