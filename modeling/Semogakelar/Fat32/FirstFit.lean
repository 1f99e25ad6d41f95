import Semogakelar.Fat32.Write

/-! The clusters that a file write takes: the first empty cells of the map, in their order. -/

namespace Semogakelar.Fat32

open Library Function FileSystem

variable {img : KernelImage} {fs fs' : FileSystem} {request : DriverRequest} {i : Fin 64} {l : List ℕ}

structure Deposit where
  cluster : UInt32
  data : Cluster

def Deposit.apply (disk : Disk) (w : Deposit) : Disk := writeClusters disk w.cluster w.data

/-! ### The write with a record of its deposits -/

def depositedWritePartitions (buf : ℕ → UInt8) : ℕ → ℕ → ℕ → FileSystem → List Deposit × Outcome FileSystem ℤ
  | 0, partitionsCount, emptyClusterIdx, fs =>
    let driver := fs.driver.setWord emptyClusterIdx fatEndOfFile
    let disk := writeClusters fs.disk (UInt32.ofNat emptyClusterIdx) (chunk buf partitionsCount)
    ([⟨UInt32.ofNat emptyClusterIdx, chunk buf partitionsCount⟩,
      ⟨fatClusterNumber, mapEquiv.symm driver.fatTable⟩],
      .returned 0 { fs with
        driver := driver
        disk := writeClusters disk fatClusterNumber (mapEquiv.symm driver.fatTable) })
  | left + 1, partitionsCount, idx, fs =>
    (nextEmptyCluster fs.driver (idx + 1)).elim ([], .outside fs) fun emptyClusterIdx =>
      let rest := depositedWritePartitions buf left (partitionsCount + 1) emptyClusterIdx { fs with
        driver := fs.driver.setWord idx (UInt32.ofNat emptyClusterIdx)
        disk := writeClusters fs.disk (UInt32.ofNat idx) (chunk buf partitionsCount) }
      (⟨UInt32.ofNat idx, chunk buf partitionsCount⟩ :: rest.1, rest.2)

def depositedWriteFile (fs : FileSystem) (request : DriverRequest) (parentDirectoryTable : DirectoryTable)
    (emptyEntryIdx : Fin 64) : List Deposit × Outcome FileSystem ℤ :=
  if ¬ enoughEmptyCluster fs.driver (numberOfPartition request.bufferSize) then ([], .returned (-1) fs) else
  (findEmptyCluster fs.driver.fatTable).elim ([], .returned (-1) fs) fun emptyClusterIdx =>
    let parentDirectoryTable := update parentDirectoryTable emptyEntryIdx
      (initDirectoryEntry (parentDirectoryTable emptyEntryIdx) request.name request.ext 0
        (UInt32.ofNat emptyClusterIdx) request.bufferSize)
    let rest := depositedWritePartitions request.buf (numberOfPartition request.bufferSize - 1) 0 emptyClusterIdx
      { fs with disk := writeClusters fs.disk request.parentClusterNumber (tableEquiv.symm parentDirectoryTable) }
    (⟨request.parentClusterNumber, tableEquiv.symm parentDirectoryTable⟩ :: rest.1, rest.2)

lemma depositedWritePartitions_snd (buf : ℕ → UInt8) (left n idx : ℕ) (fs : FileSystem) :
    (depositedWritePartitions buf left n idx fs).2 = writePartitions buf left n idx fs := by
  induction left generalizing n idx fs with
  | zero => rfl
  | succ left ih =>
    rw [depositedWritePartitions, writePartitions]
    cases nextEmptyCluster fs.driver (idx + 1) with
    | none => rfl
    | some k => exact ih _ _ _

lemma depositedWriteFile_snd (table : DirectoryTable) :
    (depositedWriteFile fs request table i).2 = writeFile fs request table i := by
  rw [depositedWriteFile, writeFile]
  split_ifs
  · cases findEmptyCluster fs.driver.fatTable with
    | none => rfl
    | some k => exact depositedWritePartitions_snd _ _ _ _ _
  · rfl

lemma write_deposited (img : KernelImage) (ha : Accepted fs request i) (hz : request.bufferSize ≠ 0) :
    write img fs request = (depositedWriteFile fs request (fs.table request.parentClusterNumber) i).2 := by
  rcases write_cases img fs request with ⟨-, hna⟩ | ⟨j, hj, hwr⟩
  · exact (hna i ha).elim
  · obtain rfl := ha.slot.unique hj.slot
    rw [depositedWriteFile_snd, hwr fs rfl, writeEntry, if_neg hz]

/-! ### The cells taken -/

def chunks (buf : ℕ → UInt8) (n : ℕ) (l : List ℕ) : List Deposit :=
  l.mapIdx fun m c => ⟨UInt32.ofNat c, chunk buf (n + m)⟩

lemma chunks_cons (buf : ℕ → UInt8) (n c : ℕ) (l : List ℕ) :
    chunks buf n (c :: l) = ⟨UInt32.ofNat c, chunk buf n⟩ :: chunks buf (n + 1) l := by
  rw [chunks, List.mapIdx_cons, Nat.add_zero]
  simp only [chunks, Nat.add_assoc, Nat.add_comm 1]

/-- The scan for the next cell runs over the map as it is being changed, but only behind the cells taken so far. -/
lemma depositedWritePartitions_fst (buf : ℕ → UInt8) (left n idx : ℕ) (fs : FileSystem)
    (h : left ≤ (fs.driver.emptyFrom (idx + 1)).length) :
    (depositedWritePartitions buf left n idx fs).1 =
      chunks buf n (idx :: (fs.driver.emptyFrom (idx + 1)).take left) ++ [⟨fatClusterNumber,
        mapEquiv.symm (linkWords (idx :: (fs.driver.emptyFrom (idx + 1)).take left) fs.driver).fatTable⟩] := by
  induction left generalizing n idx fs with
  | zero =>
    rw [List.take_zero]
    rfl
  | succ left ih =>
    cases hn : nextEmptyCluster fs.driver (idx + 1) with
    | none => simp [DriverState.nextEmptyCluster_eq_none hn] at h
    | some k =>
      have he := DriverState.nextEmptyCluster_eq_some hn
      have hk : idx + 1 ≤ k := (DriverState.mem_emptyFrom.mp (by rw [he]; exact List.mem_cons_self)).1
      have hsame : ∀ v, (fs.driver.setWord idx v).emptyFrom (k + 1) = fs.driver.emptyFrom (k + 1) :=
        fun v => DriverState.emptyFrom_setWord (by omega)
      rw [he, List.length_cons, Nat.add_le_add_iff_right] at h
      rw [depositedWritePartitions, hn, Option.elim_some]
      dsimp only
      rw [ih _ _ _ (by rw [hsame]; exact h), he, List.take_succ_cons, hsame, chunks_cons buf n idx,
        List.cons_append]
      rfl

lemma writeChunks_eq (buf : ℕ → UInt8) (n : ℕ) (l : List ℕ) (disk : Disk) :
    writeChunks buf n l disk = (chunks buf n l).foldl Deposit.apply disk := by
  induction l generalizing n disk with
  | nil => rfl
  | cons c l ih =>
    rw [writeChunks, ih, chunks_cons, List.foldl_cons]
    rfl

structure FirstFit (fs : FileSystem) (request : DriverRequest) (i : Fin 64) (cells : List ℕ) (log : List Deposit)
    (fs' : FileSystem) : Prop where
  first : ∃ c entry, cells.head? = some c ∧ entry.clusterNumber = UInt32.ofNat c ∧
    log = ⟨request.parentClusterNumber,
        tableEquiv.symm (update (fs.table request.parentClusterNumber) i entry)⟩ ::
      chunks request.buf 0 cells ++ [⟨fatClusterNumber, mapEquiv.symm fs'.driver.fatTable⟩]
  links : cells.IsChain fun c next => c < next ∧ cell fs'.driver.fatTable (UInt32.ofNat c) = UInt32.ofNat next
  last : ∀ c, cells.getLast? = some c → cell fs'.driver.fatTable (UInt32.ofNat c) = fatEndOfFile
  others : ∀ c : Fin 512, c.val ∉ cells → fs'.driver.fatTable c = fs.driver.fatTable c
  disk : fs'.disk = log.foldl Deposit.apply fs.disk

lemma cell_of_word {d : DriverState} {c : ℕ} {v : UInt32} (hc : c < 512) (h : d.word c = some v) :
    cell d.fatTable (UInt32.ofNat c) = v := by
  rw [DriverState.word_of_lt hc] at h
  rw [show UInt32.ofNat c = UInt32.ofNat (⟨c, hc⟩ : Fin 512) from rfl, cell_ofNat]
  exact Option.some.inj h

lemma depositedWriteFile_taken (hr : ∀ c : Fin 512, c.val < 3 → fs.driver.fatTable c ≠ fatEmptyEntry)
    (hz : request.bufferSize ≠ 0)
    (hk : numberOfPartition request.bufferSize ≤ (emptyClusters fs.driver.fatTable).length) :
    ∃ k l, k :: l = (emptyClusters fs.driver.fatTable).take (numberOfPartition request.bufferSize) ∧
      depositedWriteFile fs request (fs.table request.parentClusterNumber) i =
        (⟨request.parentClusterNumber,
            tableEquiv.symm (update (fs.table request.parentClusterNumber) i (fileEntry fs request i k))⟩ ::
          chunks request.buf 0 (k :: l) ++
            [⟨fatClusterNumber, mapEquiv.symm (fileWritten fs request i k l).driver.fatTable⟩],
        .returned 0 (fileWritten fs request i k l)) := by
  have hword : ∀ j < 3, fs.driver.word j ≠ some fatEmptyEntry := by
    intro j hj he
    rw [DriverState.word_of_lt (by omega)] at he
    exact hr ⟨j, by omega⟩ hj (Option.some.inj he)
  have henough := (DriverState.enoughEmptyCluster_iff hword _).mpr (Nat.le_add_right_of_le hk)
  obtain ⟨k, n, hfirst, hn, hlen, htake⟩ := first_taken_of_fits (numberOfPartition_pos hz).ne' hk
  refine ⟨k, _, htake, ?_⟩
  rw [depositedWriteFile, if_neg (not_not.mpr henough), hfirst, Option.elim_some, hn, Nat.add_sub_cancel]
  refine Prod.ext ?_ ?_
  · exact congrArg (List.cons _) (depositedWritePartitions_fst request.buf n 0 k (withEntry fs request i k) hlen)
  · rw [depositedWritePartitions_snd]
    exact writePartitions_eq request.buf n 0 k (withEntry fs request i k) hlen

theorem write_first_fit (img : KernelImage) (fs : FileSystem) (request : DriverRequest) (i : Fin 64)
    (hr : ∀ c : Fin 512, c.val < 3 → fs.driver.fatTable c ≠ fatEmptyEntry) (hz : request.bufferSize ≠ 0)
    (ha : Accepted fs request i)
    (hk : (request.bufferSize.toNat + 2047) / 2048 ≤ (emptyClusters fs.driver.fatTable).length) :
    write img fs request = (depositedWriteFile fs request (fs.table request.parentClusterNumber) i).2 ∧
    ∃ fs', write img fs request = .returned 0 fs' ∧
      FirstFit fs request i
        ((emptyClusters fs.driver.fatTable).take ((request.bufferSize.toNat + 2047) / 2048))
        (depositedWriteFile fs request (fs.table request.parentClusterNumber) i).1 fs' := by
  rw [← numberOfPartition_eq] at hk ⊢
  obtain ⟨k, l, hkl, he⟩ := depositedWriteFile_taken (i := i) hr hz hk
  have hl := allocates_fits hk hkl
  have hb : ∀ c ∈ k :: l, c < 512 := fun c hc => (mem_emptyClusters.mp (List.mem_of_mem_take (hkl ▸ hc))).1
  refine ⟨write_deposited img ha hz, fileWritten fs request i k l, ?_, ?_⟩
  · rw [write_deposited img ha hz, he]
  rw [he, ← hkl]
  refine ⟨⟨k, fileEntry fs request i k, rfl, fileEntry_clusterNumber, rfl⟩, ?_, fun c hc => ?_, fun c hc => ?_, ?_⟩
  · refine (linkWords_isChain (d := fs.driver) hl.sorted hl.below).imp_of_mem_imp ?_
    rintro c next hc - ⟨hlt, hword⟩
    exact ⟨hlt, cell_of_word (hb c hc) hword⟩
  · exact cell_of_word (hb c (List.mem_of_getLast? hc)) (linkWords_last (d := fs.driver) hl.below hc)
  · exact DriverState.fatTable_eq_of_word _ _ (fileWritten_word_of_not_mem hc)
  · rw [List.cons_append, List.foldl_cons, List.foldl_append, ← writeChunks_eq]
    rfl

theorem write_first_fit_formatted : ∃ fs', write plainImage formatted fillRequest = .returned 0 fs' ∧
    FirstFit formatted fillRequest 2 (3 :: List.range' 4 507)
      (depositedWriteFile formatted fillRequest (formatted.table rootClusterNumber) 2).1 fs' := by
  obtain ⟨-, fs', hwr, hfit⟩ := write_first_fit plainImage formatted fillRequest 2
    (fun c hc => formatted_wellFormed.reserved_used c hc) (by decide) fill_accepted
    (by rw [← numberOfPartition_eq]; exact fill_fits)
  rw [← numberOfPartition_eq, ← fill_clusters] at hfit
  exact ⟨fs', hwr, hfit⟩

end Semogakelar.Fat32
