import Semogakelar.Fat32.Write

/-! Which words of the packed driver state a file write looks at, and when they all lie in the map. -/

namespace Semogakelar.Fat32

open Library Function FileSystem

variable {img : KernelImage} {fs : FileSystem} {d : DriverState} {request : DriverRequest} {i : Fin 64}

inductive Access
  | read (i : ℕ)
  | link (i next : ℕ)
  | last (i : ℕ)
  | entry (cluster : ℕ)

def Access.InRange : Access → Prop
  | .read i => i < 512
  | .link i next => i < 512 ∧ next < 512
  | .last i => i < 512
  | .entry cluster => cluster < 512

def reads (i n : ℕ) : List Access := (List.range' i n).map .read

/-! ### The write with a record of its accesses -/

def tracedEnoughEmptyClusterLoop (driver : DriverState) (required : ℕ) : ℕ → ℕ → ℕ → List Access × Bool
  | 0, _, count => ([], count == required)
  | fuel + 1, idx, count =>
    if count < required then
      let rest := tracedEnoughEmptyClusterLoop driver required fuel (idx + 1)
        (if driver.word (idx + 1) = some fatEmptyEntry then count + 1 else count)
      (.read (idx + 1) :: rest.1, rest.2)
    else ([], count == required)

def tracedEnoughEmptyCluster (driver : DriverState) (required : ℕ) : List Access × Bool :=
  tracedEnoughEmptyClusterLoop driver required (512 - 2) 2 0

-- The scan reads up to the cell it stops at.
def tracedFindEmptyCluster (fatTable : ClusterMap) : List Access × Option (Fin 512) :=
  (reads 0 ((findEmptyCluster fatTable).elim 512 fun k => k + 1), findEmptyCluster fatTable)

def tracedNextEmptyCluster (driver : DriverState) (i : ℕ) : List Access × Option (Fin 1536) :=
  (reads i ((nextEmptyCluster driver i).elim (1536 - i) fun k => k + 1 - i), nextEmptyCluster driver i)

-- The last access is the copy of the map to the disk.
def tracedWritePartitions (buf : ℕ → UInt8) : ℕ → ℕ → ℕ → FileSystem → List Access × Outcome FileSystem ℤ
  | 0, partitionsCount, emptyClusterIdx, fs =>
    let driver := fs.driver.setWord emptyClusterIdx fatEndOfFile
    let disk := writeClusters fs.disk (UInt32.ofNat emptyClusterIdx) (chunk buf partitionsCount)
    (.last emptyClusterIdx :: reads 0 512, .returned 0 { fs with
      driver := driver
      disk := writeClusters disk fatClusterNumber (mapEquiv.symm driver.fatTable) })
  | left + 1, partitionsCount, idx, fs =>
    let next := tracedNextEmptyCluster fs.driver (idx + 1)
    next.2.elim (next.1, .outside fs) fun emptyClusterIdx =>
      let rest := tracedWritePartitions buf left (partitionsCount + 1) emptyClusterIdx { fs with
        driver := fs.driver.setWord idx (UInt32.ofNat emptyClusterIdx)
        disk := writeClusters fs.disk (UInt32.ofNat idx) (chunk buf partitionsCount) }
      (next.1 ++ .link idx emptyClusterIdx :: rest.1, rest.2)

def tracedWriteFile (fs : FileSystem) (request : DriverRequest) (parentDirectoryTable : DirectoryTable)
    (emptyEntryIdx : Fin 64) : List Access × Outcome FileSystem ℤ :=
  let enough := tracedEnoughEmptyCluster fs.driver (numberOfPartition request.bufferSize)
  if ¬ enough.2 then (enough.1, .returned (-1) fs) else
  let first := tracedFindEmptyCluster fs.driver.fatTable
  first.2.elim (enough.1 ++ first.1, .returned (-1) fs) fun emptyClusterIdx =>
    let parentDirectoryTable := update parentDirectoryTable emptyEntryIdx
      (initDirectoryEntry (parentDirectoryTable emptyEntryIdx) request.name request.ext 0
        (UInt32.ofNat emptyClusterIdx) request.bufferSize)
    let rest := tracedWritePartitions request.buf (numberOfPartition request.bufferSize - 1) 0 emptyClusterIdx
      { fs with
      disk := writeClusters fs.disk request.parentClusterNumber (tableEquiv.symm parentDirectoryTable) }
    (enough.1 ++ first.1 ++ .entry emptyClusterIdx :: rest.1, rest.2)

lemma tracedEnoughEmptyClusterLoop_snd (required fuel idx count : ℕ) :
    (tracedEnoughEmptyClusterLoop d required fuel idx count).2 =
      enoughEmptyClusterLoop d required fuel idx count := by
  induction fuel generalizing idx count with
  | zero => rfl
  | succ fuel ih =>
    rw [tracedEnoughEmptyClusterLoop, enoughEmptyClusterLoop]
    by_cases h : count < required
    · rw [if_pos h, if_pos h]
      exact ih _ _
    · rw [if_neg h, if_neg h]

lemma tracedEnoughEmptyCluster_snd (required : ℕ) :
    (tracedEnoughEmptyCluster d required).2 = enoughEmptyCluster d required :=
  tracedEnoughEmptyClusterLoop_snd _ _ _ _

lemma tracedWritePartitions_snd (buf : ℕ → UInt8) (left n idx : ℕ) (fs : FileSystem) :
    (tracedWritePartitions buf left n idx fs).2 = writePartitions buf left n idx fs := by
  induction left generalizing n idx fs with
  | zero => rfl
  | succ left ih =>
    rw [tracedWritePartitions, writePartitions, tracedNextEmptyCluster]
    cases nextEmptyCluster fs.driver (idx + 1) with
    | none => rfl
    | some k => exact ih _ _ _

lemma tracedWriteFile_snd (table : DirectoryTable) :
    (tracedWriteFile fs request table i).2 = writeFile fs request table i := by
  simp only [tracedWriteFile, writeFile, tracedEnoughEmptyCluster_snd]
  split_ifs with h
  · rw [tracedFindEmptyCluster]
    cases findEmptyCluster fs.driver.fatTable with
    | none => rfl
    | some k => exact tracedWritePartitions_snd _ _ _ _ _
  · rfl

lemma write_traced (img : KernelImage) (ha : Accepted fs request i) (hz : request.bufferSize ≠ 0) :
    write img fs request = (tracedWriteFile fs request (fs.table request.parentClusterNumber) i).2 := by
  rcases write_cases img fs request with ⟨-, hna⟩ | ⟨j, hj, hwr⟩
  · exact (hna i ha).elim
  · obtain rfl := ha.slot.unique hj.slot
    rw [hwr fs rfl, writeEntry, if_neg hz, tracedWriteFile_snd]

/-! ### The count -/

def emptyAbove (d : DriverState) (idx : ℕ) : ℕ :=
  ((List.range' (idx + 1) (511 - idx)).filter fun j => d.word j == some fatEmptyEntry).length

lemma emptyAbove_succ {idx : ℕ} (h : idx < 511) : emptyAbove d idx =
    (if d.word (idx + 1) = some fatEmptyEntry then 1 else 0) + emptyAbove d (idx + 1) := by
  unfold emptyAbove
  rw [show 511 - idx = 511 - (idx + 1) + 1 by omega, List.range'_succ, List.filter_cons]
  by_cases hw : d.word (idx + 1) = some fatEmptyEntry
  · simp only [hw, beq_self_eq_true, if_true, List.length_cons]
    omega
  · simp [hw]

lemma tracedEnoughEmptyClusterLoop_inRange {required fuel idx count : ℕ} (hf : idx + fuel = 512)
    (h : required ≤ count + emptyAbove d idx) :
    ∀ a ∈ (tracedEnoughEmptyClusterLoop d required fuel idx count).1, a.InRange := by
  induction fuel generalizing idx count with
  | zero => exact fun a ha => nomatch ha
  | succ fuel ih =>
    rw [tracedEnoughEmptyClusterLoop]
    by_cases hc : count < required
    · have hidx : idx < 511 := by
        by_contra hge
        have hz : emptyAbove d idx = 0 := by
          rw [emptyAbove, show 511 - idx = 0 by omega]
          rfl
        omega
      rw [emptyAbove_succ hidx] at h
      rw [if_pos hc, List.forall_mem_cons]
      refine ⟨show idx + 1 < 512 by omega, ih (by omega) ?_⟩
      split_ifs at h ⊢ <;> omega
    · rw [if_neg hc]
      exact fun a ha => nomatch ha

lemma read_512_mem {required fuel idx count : ℕ} (hidx : idx < 512) (hf : idx + fuel = 512)
    (h : count + emptyAbove d idx < required) :
    .read 512 ∈ (tracedEnoughEmptyClusterLoop d required fuel idx count).1 := by
  induction fuel generalizing idx count with
  | zero => omega
  | succ fuel ih =>
    rw [tracedEnoughEmptyClusterLoop, if_pos (by omega), List.mem_cons]
    by_cases hlast : idx = 511
    · exact .inl (by rw [hlast])
    · rw [emptyAbove_succ (by omega)] at h
      apply Or.inr
      apply ih (by omega) (by omega)
      split_ifs at h ⊢ <;> omega

structure ReservedCells (m : ClusterMap) : Prop where
  cell_zero : m 0 = cluster0Value
  cell_one : m 1 = cluster1Value
  cell_two : m 2 = fatEndOfFile

lemma ReservedCells.word_ne_empty (h : ReservedCells d.fatTable) {j : ℕ} (hj : j < 3) :
    d.word j ≠ some fatEmptyEntry := by
  rw [DriverState.word_of_lt (by omega)]
  intro he
  have he := Option.some.inj he
  rcases (by omega : j = 0 ∨ j = 1 ∨ j = 2) with rfl | rfl | rfl
  · exact absurd (h.cell_zero.symm.trans he) (by decide)
  · exact absurd (h.cell_one.symm.trans he) (by decide)
  · exact absurd (h.cell_two.symm.trans he) (by decide)

lemma ReservedCells.emptyAbove_two (h : ReservedCells d.fatTable) :
    emptyAbove d 2 = (emptyClusters d.fatTable).length := by
  have hlow : (List.range' 0 (3 - 0)).filter (fun j => d.word j == some fatEmptyEntry) = [] := by
    rw [List.filter_eq_nil_iff]
    intro j hj
    simpa using h.word_ne_empty (by simpa using (List.mem_range'_1.mp hj).2)
  have hsum : (d.emptyFrom 0).length = emptyAbove d 2 + (d.emptyFrom 512).length := by
    rw [DriverState.emptyFrom_append (Nat.zero_le 3) (by decide), hlow, List.nil_append,
      DriverState.emptyFrom_append (by decide : 3 ≤ 512) (by decide), List.length_append]
    rfl
  rw [DriverState.emptyFrom_zero, List.length_append] at hsum
  omega

/-! ### The allocation -/

lemma reads_inRange {i n : ℕ} (h : i + n ≤ 512) : ∀ a ∈ reads i n, a.InRange := by
  intro a ha
  obtain ⟨j, hj, rfl⟩ := List.mem_map.mp ha
  have hj := (List.mem_range'_1.mp hj).2
  exact show j < 512 by omega

lemma tracedWritePartitions_inRange (buf : ℕ → UInt8) {left n idx : ℕ} {fs : FileSystem} (hidx : idx < 512)
    (hl : left ≤ (fs.driver.emptyFrom (idx + 1)).length)
    (hb : ∀ j ∈ (fs.driver.emptyFrom (idx + 1)).take left, j < 512) :
    ∀ a ∈ (tracedWritePartitions buf left n idx fs).1, a.InRange := by
  induction left generalizing n idx fs with
  | zero =>
    rw [tracedWritePartitions, List.forall_mem_cons]
    exact ⟨hidx, reads_inRange (by omega)⟩
  | succ left ih =>
    rw [tracedWritePartitions, tracedNextEmptyCluster]
    cases hn : nextEmptyCluster fs.driver (idx + 1) with
    | none => simp [DriverState.nextEmptyCluster_eq_none hn] at hl
    | some k =>
      have he := DriverState.nextEmptyCluster_eq_some hn
      rw [he, List.take_succ_cons, List.forall_mem_cons] at hb
      rw [he, List.length_cons, Nat.add_le_add_iff_right] at hl
      have hk : idx + 1 ≤ k := (DriverState.mem_emptyFrom.mp (by rw [he]; exact List.mem_cons_self)).1
      have hsame : ∀ v, (fs.driver.setWord idx v).emptyFrom (k + 1) = fs.driver.emptyFrom (k + 1) :=
        fun v => DriverState.emptyFrom_setWord (by omega)
      simp only [Option.elim_some]
      rw [List.forall_mem_append, List.forall_mem_cons]
      refine ⟨reads_inRange ?_, ⟨hidx, hb.1⟩, ih hb.1 ?_ ?_⟩
      · have := hb.1
        omega
      · rw [hsame]
        exact hl
      · rw [hsame]
        exact hb.2

lemma enoughEmptyCluster_of_le (hm : ReservedCells d.fatTable) {n : ℕ}
    (hn : n ≤ (emptyClusters d.fatTable).length) :
    enoughEmptyCluster d n = true :=
  (DriverState.enoughEmptyCluster_iff (fun _ hj => hm.word_ne_empty hj) n).mpr (Nat.le_add_right_of_le hn)

lemma tracedWriteFile_fits (hm : ReservedCells fs.driver.fatTable) (hz : request.bufferSize ≠ 0)
    (hn : numberOfPartition request.bufferSize ≤ (emptyClusters fs.driver.fatTable).length)
    (table : DirectoryTable) : (∀ a ∈ (tracedWriteFile fs request table i).1, a.InRange) ∧
      ∃ fs', (tracedWriteFile fs request table i).2 = .returned 0 fs' := by
  have henough := enoughEmptyCluster_of_le hm hn
  obtain ⟨k, n, hk, hsucc, hlen, htake⟩ := first_taken_of_fits (numberOfPartition_pos hz).ne' hn
  rw [hsucc] at henough
  have hb : ∀ j ∈ (fs.driver.emptyFrom (k + 1)).take n, j < 512 := by
    intro j hj
    exact (mem_emptyClusters.mp (List.mem_of_mem_take (htake ▸ List.mem_cons_of_mem _ hj))).1
  constructor
  · simp only [tracedWriteFile, tracedEnoughEmptyCluster_snd, henough, not_true_eq_false, if_false,
      tracedFindEmptyCluster, hk, Option.elim_some, hsucc, Nat.add_sub_cancel]
    rw [List.forall_mem_append, List.forall_mem_append, List.forall_mem_cons]
    refine ⟨⟨?_, reads_inRange (by omega)⟩, k.isLt, tracedWritePartitions_inRange _ k.isLt hlen hb⟩
    apply tracedEnoughEmptyClusterLoop_inRange rfl
    rw [Nat.zero_add, hm.emptyAbove_two, ← hsucc]
    exact hn
  · rw [tracedWriteFile_snd]
    simp only [writeFile, henough, not_true_eq_false, if_false, hk, Option.elim_some, hsucc, Nat.add_sub_cancel]
    exact ⟨_, writePartitions_eq _ _ _ _ _ hlen⟩

lemma tracedWriteFile_short (hm : ReservedCells fs.driver.fatTable)
    (hn : (emptyClusters fs.driver.fatTable).length < numberOfPartition request.bufferSize)
    (table : DirectoryTable) :
    .read 512 ∈ (tracedWriteFile fs request table i).1 := by
  have hread : .read 512 ∈ (tracedEnoughEmptyCluster fs.driver (numberOfPartition request.bufferSize)).1 := by
    apply read_512_mem (by decide) rfl
    rw [Nat.zero_add, hm.emptyAbove_two]
    exact hn
  rw [tracedWriteFile]
  split_ifs
  · simp only [tracedFindEmptyCluster]
    cases findEmptyCluster fs.driver.fatTable with
    | none => exact List.mem_append_left _ hread
    | some k => exact List.mem_append_left _ (List.mem_append_left _ hread)
  · exact hread

structure DecidesCapacity (img : KernelImage) (fs : FileSystem) (request : DriverRequest) (i : Fin 64) : Prop where
  refuses_iff : (∃ fs', write img fs request = .returned (-1) fs') ↔
    (emptyClusters fs.driver.fatTable).length < (request.bufferSize.toNat + 2047) / 2048
  inRange : ∀ a ∈ (tracedWriteFile fs request (fs.table request.parentClusterNumber) i).1, a.InRange

theorem write_capacity_iff (img : KernelImage) (fs : FileSystem) (request : DriverRequest) (i : Fin 64)
    (hm : ReservedCells fs.driver.fatTable) (hz : request.bufferSize ≠ 0) (ha : Accepted fs request i) :
    write img fs request = (tracedWriteFile fs request (fs.table request.parentClusterNumber) i).2 ∧
      (DecidesCapacity img fs request i ↔
        (request.bufferSize.toNat + 2047) / 2048 ≤ (emptyClusters fs.driver.fatTable).length) := by
  refine ⟨write_traced img ha hz, ?_⟩
  rw [← numberOfPartition_eq]
  constructor
  · intro h
    by_contra hn
    have h512 := h.inRange _ (tracedWriteFile_short hm (by omega) _)
    exact absurd (show 512 < 512 from h512) (lt_irrefl 512)
  · intro hn
    obtain ⟨hin, fs', hret⟩ := tracedWriteFile_fits hm hz hn (fs.table request.parentClusterNumber)
    refine ⟨?_, hin⟩
    rw [write_traced img ha hz, hret, ← numberOfPartition_eq]
    refine iff_of_false ?_ (by omega)
    rintro ⟨fs'', he⟩
    exact absurd (Outcome.returned.inj he).1 (by decide)

lemma nearlyFull_accepts_excess : Accepted (remount nearlyFull) excessRequest 3 :=
  (nearlyFull_accepts rfl (by decide) (by decide)).remount

theorem write_grants_excess : (remount nearlyFull).WellFormed ∧ excessRequest.bufferSize ≠ 0 ∧
    Accepted (remount nearlyFull) excessRequest 3 ∧
    (∃ fs', write plainImage (remount nearlyFull) excessRequest = .returned 0 fs') ∧
    ¬ DecidesCapacity plainImage (remount nearlyFull) excessRequest 3 := by
  have hw : (remount nearlyFull).WellFormed := (remount_same _).wellFormed nearlyFull_written.wellFormed
  obtain ⟨k, l, -, hf⟩ := writeFile_overcommits (i := 3) hw remount_overcommits
  have hwr : write plainImage (remount nearlyFull) excessRequest =
      .returned 0 (fileWritten (remount nearlyFull) excessRequest 3 k l) := by
    rw [write_traced plainImage nearlyFull_accepts_excess (by decide), tracedWriteFile_snd]
    exact hf
  refine ⟨hw, by decide, nearlyFull_accepts_excess, ⟨_, hwr⟩, fun h => ?_⟩
  obtain ⟨fs', hr⟩ := h.refuses_iff.mpr (by
    rw [remount_fatTable, nearlyFull_empty]
    decide)
  exact absurd (Outcome.returned.inj (hwr.symm.trans hr)).1 (by decide)

theorem write_capacity_formatted : Accepted formatted fillRequest 2 ∧
    DecidesCapacity plainImage formatted fillRequest 2 := by
  have hr : ReservedCells formatted.driver.fatTable :=
    ⟨formatted_wellFormed.cell_zero, formatted_wellFormed.cell_one, formatted_wellFormed.cell_two⟩
  refine ⟨fill_accepted,
    (write_capacity_iff plainImage formatted fillRequest 2 hr (by decide) fill_accepted).2.mpr ?_⟩
  rw [← numberOfPartition_eq]
  exact fill_fits

end Semogakelar.Fat32
