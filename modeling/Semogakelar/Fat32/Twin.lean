import Semogakelar.Fat32.Lookup

/-! Two states that agree on the disk and on the cached map answer every request alike. -/

namespace Semogakelar.Fat32

open Library Function FileSystem

structure Twin (fs fs' : FileSystem) : Prop extends SameVolume fs fs' where
  literal : fs.rootLiteral = .intact → fs'.rootLiteral = .intact

variable {img : KernelImage} {fs fs' fs₁ : FileSystem} {request : DriverRequest} {i : Fin 64} {l : List UInt32}

lemma isDir_same (h : SameVolume fs fs') {d : UInt32} (hd : fs.volume.IsDir d) : fs'.volume.IsDir d :=
  h.volume ▸ hd

lemma readPartitions_mono {fuel n : ℕ} {a : UInt32} {t t' : Transfer} {code : ℤ}
    (h : readPartitions fs fuel a t = .returned code t') (hle : fuel ≤ n) :
    readPartitions fs n a t = .returned code t' := by
  induction fuel generalizing a t n with
  | zero => cases h
  | succ fuel ih =>
    obtain ⟨n, rfl⟩ : ∃ k, n = k + 1 := ⟨n - 1, by omega⟩
    rw [readPartitions] at h ⊢
    split_ifs at h ⊢ with hend
    · exact h
    · simp only at h ⊢
      cases hword : fs.driver.word a.toNat with
      | none =>
        rw [hword] at h
        cases h
      | some next =>
        rw [hword] at h
        exact ih h (Nat.le_of_succ_le_succ hle)

lemma read_mono {fuel n : ℕ} {t : Transfer} {code : ℤ} (h : read fuel fs request = .returned code t)
    (hle : fuel ≤ n) : read n fs request = .returned code t := by
  obtain ⟨i, hi⟩ | ⟨-, code', -, hrefused⟩ := read_cases fs request
  · rw [hi.read_eq] at h ⊢
    exact readPartitions_mono h hle
  · rw [hrefused fs fuel rfl] at h
    rw [hrefused fs n rfl, h]

/-! ### Reading -/

lemma readDirectory_same (h : SameVolume fs fs') : readDirectory fs' request = readDirectory fs request := by
  simp only [readDirectory, h.table, h.disk]

lemma read_same (h : SameVolume fs fs') (hw : fs.WellFormed) (hp : fs.volume.IsDir request.parentClusterNumber)
    {fuel : ℕ} {code : ℤ} {t : Transfer} (hr : read fuel fs request = .returned code t) :
    ∃ n, read n fs' request = .returned code t := by
  have hw' := h.wellFormed hw
  have hp' := isDir_same h hp
  have ht := h.table request.parentClusterNumber
  obtain ⟨i, hi⟩ | ⟨-, code', -, hrefused⟩ := read_cases fs request
  · have hslot := slot_of_file hw hp hi.file
    have hlive := hi.live hw hp hr
    have hm' : FirstMatch (fs'.table request.parentClusterNumber) request i := ht ▸ hi.first
    obtain ⟨l, hl, -⟩ := hw.sound.chain ⟨hp, item_of_live hslot hlive⟩
    have hlong := read_file hw hp hi.first hslot hlive hi.file hi.size hl
      (Nat.lt_succ_of_le (Nat.le_add_left l.length fuel))
    rw [read_mono hr (by omega)] at hlong
    refine ⟨l.length + 1, ?_⟩
    rw [read_file hw' hp' hm' hslot (ht ▸ hlive) (ht ▸ hi.file) (ht ▸ hi.size) (by rwa [ht, h.volume])
      (Nat.lt_succ_self _), h.disk, ← hlong]
  · exact ⟨fuel, by rw [hrefused fs' fuel ht, ← hr, hrefused fs fuel rfl]⟩

/-! ### Writing -/

lemma linkWords_fatTable {d d' : DriverState} {l : List ℕ} (hb : ∀ j ∈ l, j < 512) (h : d'.fatTable = d.fatTable) :
    (linkWords l d').fatTable = (linkWords l d).fatTable := by
  induction l generalizing d d' with
  | nil => exact h
  | cons i l ih =>
    have hi := hb i List.mem_cons_self
    cases l with
    | nil => rw [linkWords, linkWords, DriverState.fatTable_setWord_of_lt hi,
        DriverState.fatTable_setWord_of_lt hi, h]
    | cons j l =>
      rw [linkWords, linkWords]
      refine ih (fun k hk => hb k (List.mem_cons_of_mem _ hk)) ?_
      rw [DriverState.fatTable_setWord_of_lt hi, DriverState.fatTable_setWord_of_lt hi, h]

lemma fileWritten_twin (h : Twin fs fs') {k : ℕ} {l : List ℕ} (hb : ∀ j ∈ k :: l, j < 512) :
    Twin (fileWritten fs request i k l) (fileWritten fs' request i k l) := by
  have hmap : (fileWritten fs' request i k l).driver.fatTable = (fileWritten fs request i k l).driver.fatTable :=
    linkWords_fatTable hb h.fatTable
  have hentry : (withEntry fs' request i k).disk = (withEntry fs request i k).disk := by
    simp only [withEntry, fileEntry, h.table, h.disk]
  refine ⟨⟨?_, hmap⟩, h.literal⟩
  simp only [fileWritten, allocated] at hmap ⊢
  rw [hmap, hentry]

lemma folderWritten_twin (h : Twin fs fs') {k : Fin 512} (hk : findEmptyCluster fs.driver.fatTable = some k)
    (hlit : request.parentClusterNumber = rootClusterNumber → fs.rootLiteral = .intact) :
    Twin (folderWritten img fs request i k) (folderWritten img fs' request i k) := by
  have hk' : findEmptyCluster fs'.driver.fatTable = some k := by rwa [h.fatTable]
  have hcreated : (initDirectoryTable img fs' request.name request.parentClusterNumber).1 =
      (initDirectoryTable img fs request.name request.parentClusterNumber).1 := by
    rw [initDirectoryTable, initDirectoryTable, hk, hk', Option.elim_some, Option.elim_some]
    simp only
    split_ifs with hroot
    · rw [hlit hroot, h.literal (hlit hroot)]
    · rw [h.disk]
  have hliteral : (folderWritten img fs request i k).rootLiteral = .intact →
      (folderWritten img fs' request i k).rootLiteral = .intact := by
    simp only [folderWritten]
    rw [initDirectoryTable, initDirectoryTable, hk, hk', Option.elim_some, Option.elim_some]
    simp only
    split_ifs with hroot
    · exact h.literal
    · intro he
      cases he
  refine ⟨⟨?_, ?_⟩, hliteral⟩
  · simp only [folderWritten, folderEntry, hcreated, h.table, h.disk, h.fatTable]
  · simp only [folderWritten, h.fatTable]

lemma write_same (h : Twin fs fs') (hw : fs.WellFormed) (ho : ¬ OneShort fs request)
    (hlit : request.bufferSize = 0 → request.parentClusterNumber = rootClusterNumber → fs.rootLiteral = .intact)
    {code : ℤ} (hwr : write img fs request = .returned code fs₁) :
    ∃ fs₁', write img fs' request = .returned code fs₁' ∧ Twin fs₁ fs₁' := by
  have hw' := h.wellFormed hw
  have ht := h.table request.parentClusterNumber
  rcases write_cases img fs request with ⟨⟨c, -, he⟩, -⟩ | ⟨i, ha, he⟩
  · obtain ⟨rfl, rfl⟩ := Outcome.returned.inj ((he fs rfl).symm.trans hwr)
    exact ⟨fs', he fs' ht, h⟩
  have ha' : Accepted fs' request i := ⟨by rw [ht]; exact ha.parent, by rw [ht]; exact ha.unmatched,
    by rw [ht]; exact ha.slot⟩
  rw [he fs rfl, writeEntry] at hwr
  rw [he fs' ht, writeEntry, ← ht]
  split_ifs at hwr ⊢ with hz
  · cases hk : findEmptyCluster fs.driver.fatTable with
    | none =>
      have hk' : findEmptyCluster fs'.driver.fatTable = none := by rwa [h.fatTable]
      rw [writeFolder_full hk] at hwr
      obtain ⟨rfl, rfl⟩ := Outcome.returned.inj hwr
      exact ⟨fs', writeFolder_full hk', h⟩
    | some k =>
      have hk' : findEmptyCluster fs'.driver.fatTable = some k := by rwa [h.fatTable]
      rw [writeFolder_eq hk] at hwr
      obtain ⟨rfl, rfl⟩ := Outcome.returned.inj hwr
      exact ⟨_, writeFolder_eq hk', folderWritten_twin h hk (hlit hz)⟩
  · by_cases hn : numberOfPartition request.bufferSize ≤ (emptyClusters fs.driver.fatTable).length
    · obtain ⟨k, l, hkl, hf⟩ := writeFile_fits (i := i) hw hz hn
      obtain ⟨k', l', hkl', hf'⟩ := writeFile_fits (i := i) hw' hz (by rwa [h.fatTable])
      rw [h.fatTable, ← hkl] at hkl'
      obtain ⟨rfl, rfl⟩ := List.cons.inj hkl'
      obtain ⟨rfl, rfl⟩ := Outcome.returned.inj (hf.symm.trans hwr)
      refine ⟨_, hf', fileWritten_twin h fun j hj => ?_⟩
      rw [hkl] at hj
      exact (mem_emptyClusters.mp (List.mem_of_mem_take hj)).1
    · have hone : ¬ OneShort fs' request := by
        rintro ⟨hfile, -, hleft, hexcess⟩
        rw [h.fatTable] at hleft hexcess
        exact ho ⟨hfile, ⟨i, ha⟩, hleft, hexcess⟩
      rw [writeFile_refused hw ha hz hn fun hov => ho hov.toOneShort] at hwr
      obtain ⟨rfl, rfl⟩ := Outcome.returned.inj hwr
      exact ⟨fs', writeFile_refused hw' ha' hz (by rwa [h.fatTable]) fun hov => hone hov.toOneShort, h⟩

/-! ### Deleting -/

lemma freeClusters_twin (h : Twin fs fs') (hl : ∀ a ∈ l, a.toNat < 512) :
    Twin (freeClusters l fs) (freeClusters l fs') := by
  induction l generalizing fs fs' with
  | nil => exact h
  | cons a l ih =>
    have ha := hl a List.mem_cons_self
    rw [freeClusters_cons, freeClusters_cons]
    refine ih ⟨⟨?_, ?_⟩, h.literal⟩ fun b hb => hl b (List.mem_cons_of_mem _ hb)
    · simp only [h.disk]
    · simp only
      rw [DriverState.fatTable_setWord_of_lt ha, DriverState.fatTable_setWord_of_lt ha, h.fatTable]

lemma deleted_twin (h : Twin fs fs') (hl : ∀ a ∈ l, a.toNat < 512) :
    Twin (deleted fs request i l) (deleted fs' request i l) := by
  have hf := freeClusters_twin h hl
  refine ⟨⟨?_, hf.fatTable⟩, hf.literal⟩
  simp only [deleted, hf.disk, hf.fatTable, h.table]

lemma delete_same (h : Twin fs fs') (hw : fs.WellFormed) (hp : fs.volume.IsDir request.parentClusterNumber)
    (hd : DeletesLive fs request) {fuel : ℕ} {code : ℤ} (hdel : delete fuel fs request = .returned code fs₁) :
    ∃ n fs₁', delete n fs' request = .returned code fs₁' ∧ Twin fs₁ fs₁' := by
  have hpar := parent_folder hw hp
  have hpar' := parent_folder (h.wellFormed hw) (isDir_same h.toSameVolume hp)
  have ht := h.table request.parentClusterNumber
  cases hm : findEntry (fs.table request.parentClusterNumber) request with
  | none =>
    have hm' : findEntry (fs'.table request.parentClusterNumber) request = none := by rwa [ht]
    rw [delete_of_none fuel hpar hm] at hdel
    obtain ⟨rfl, rfl⟩ := Outcome.returned.inj hdel
    exact ⟨fuel, fs', delete_of_none fuel hpar' hm', h⟩
  | some i =>
    have hm := findEntry_eq_some.mp hm
    have hm' : FirstMatch (fs'.table request.parentClusterNumber) request i := by rwa [ht]
    have hfull : ∀ j : Fin 64, (fs.table request.parentClusterNumber i).IsFolder →
        (fs.table request.parentClusterNumber i).clusterNumber.toNat < 512 → 2 ≤ j.val →
        (fs.table (fs.table request.parentClusterNumber i).clusterNumber j).Live →
        ∃ n fs₁', delete n fs' request = .returned code fs₁' ∧ Twin fs₁ fs₁' := by
      intro j hf hc hj hlive
      rw [delete_of_full fuel hpar hm hf hc hj hlive] at hdel
      obtain ⟨rfl, rfl⟩ := Outcome.returned.inj hdel
      exact ⟨fuel, fs', delete_of_full fuel hpar' hm' (by rwa [ht]) (by rwa [ht]) hj (by rwa [ht, h.table]), h⟩
    rcases hd i hm with ⟨hi, hlive⟩ | ⟨hi, j, hj, hlive⟩
    · have hentry := And.intro hp (item_of_live hi hlive)
      obtain ⟨l, hl, -, hu⟩ := hw.sound.chain hentry
      have hc : (fs.table request.parentClusterNumber i).clusterNumber.toNat < 512 := (hu _ hl.head_mem).lt
      by_cases hf : (fs.table request.parentClusterNumber i).IsFolder
      · by_cases hchild : ∃ j : Fin 64, 2 ≤ j.val ∧
            (fs.table (fs.table request.parentClusterNumber i).clusterNumber j).Live
        · obtain ⟨j, hj, hjl⟩ := hchild
          exact hfull j hf hc hj hjl
        · have hempty : ∀ j : Fin 64, 2 ≤ j.val →
              ¬ (fs.table (fs.table request.parentClusterNumber i).clusterNumber j).Live :=
            fun j hj hjl => hchild ⟨j, hj, hjl⟩
          rw [delete_of_empty fuel hpar hm hf hc hempty] at hdel
          obtain ⟨rfl, rfl⟩ := Outcome.returned.inj hdel
          refine ⟨fuel, _, delete_of_empty fuel hpar' hm' (by rwa [ht]) (by rwa [ht]) (by rwa [ht, h.table]), ?_⟩
          rw [ht]
          exact deleted_twin h fun a ha => List.mem_singleton.mp ha ▸ hc
      · have hlong := delete_of_file (fuel + l.length) hpar hm hf hl hu (Nat.le_add_left _ _)
        rw [delete_mono hdel (Nat.le_add_right _ _)] at hlong
        obtain ⟨rfl, rfl⟩ := Outcome.returned.inj hlong
        exact ⟨l.length, _, delete_of_file l.length hpar' hm' (by rwa [ht]) (by rwa [ht, h.volume]) hu le_rfl,
          deleted_twin h fun a ha => (hu a ha).lt⟩
    · obtain ⟨d, r, hn, hdir⟩ := reserved_names hw hp hi
      exact hfull j hn.folder (hn.cluster ▸ (hw.dir_lt hdir.isDir).2) hj hlive

end Semogakelar.Fat32
