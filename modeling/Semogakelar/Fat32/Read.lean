import Semogakelar.Fat32.Write

/-! Reading follows the chain of the entry it finds, so it gives back the bytes that `write` stored. -/

namespace Semogakelar.Fat32

open Library Function FileSystem

structure FirstMatch (t : DirectoryTable) (request : DriverRequest) (i : Fin 64) : Prop where
  name : (t i).name = request.name
  ext : (t i).ext = request.ext
  before : ∀ j < i, ¬ ((t j).name = request.name ∧ (t j).ext = request.ext)

section Search

variable {t : DirectoryTable} {request : DriverRequest} {i : Fin 64}

lemma findEntry_eq_some : findEntry t request = some i ↔ FirstMatch t request i := by
  rw [findEntry, Fin.find?_eq_some_iff]
  simp only [Bool.and_eq_true, hasName_iff, hasExt_iff]
  constructor
  · rintro ⟨h, hb⟩
    refine ⟨h.1, h.2, fun j hj hm => ?_⟩
    have := hb j hj
    simp [hasName_iff.mpr hm.1, hasExt_iff.mpr hm.2] at this
  · rintro ⟨hn, he, hb⟩
    refine ⟨⟨hn, he⟩, fun j hj => ?_⟩
    rw [Bool.eq_false_iff, Ne, Bool.and_eq_true, hasName_iff, hasExt_iff]
    exact hb j hj

lemma findEntry_eq_none :
    findEntry t request = none ↔ ∀ j, ¬ ((t j).name = request.name ∧ (t j).ext = request.ext) := by
  rw [findEntry, Fin.find?_eq_none_iff]
  refine forall_congr' fun j => ?_
  rw [Bool.eq_false_iff, Ne, Bool.and_eq_true, hasName_iff, hasExt_iff]

lemma FirstMatch.unique {j : Fin 64} (h : FirstMatch t request i) (h' : FirstMatch t request j) : i = j :=
  Option.some.inj ((findEntry_eq_some.mpr h).symm.trans (findEntry_eq_some.mpr h'))

end Search

namespace Transfer

variable (t : Transfer) (disk : Disk)

def copyAll (l : List UInt32) : Transfer := l.foldl (fun t c => t.copy disk c) t

lemma copyAll_clusters (l : List UInt32) : (t.copyAll disk l).clusters = t.clusters ++ l := by
  induction l generalizing t with
  | nil => simp [copyAll]
  | cons c l ih =>
    rw [copyAll, List.foldl_cons, ← copyAll, ih]
    simp [copy]

lemma copy_buf (c : UInt32) (j : Fin 2048) :
    (t.copy disk c).buf (2048 * t.clusters.length + j) = readClusters disk c j := by
  rw [copy]
  simp

lemma copyAll_buf_of_lt (l : List UInt32) {j : ℕ} (hj : j < 2048 * t.clusters.length) :
    (t.copyAll disk l).buf j = t.buf j := by
  induction l generalizing t with
  | nil => rfl
  | cons c l ih =>
    rw [copyAll, List.foldl_cons, ← copyAll, ih]
    · simp only [copy]
      exact dif_neg fun h => absurd h.1 (by omega)
    · simp only [copy, List.length_append, List.length_singleton]
      omega

lemma copyAll_buf (l : List UInt32) (k : ℕ) (hk : k < l.length) (j : Fin 2048) :
    (t.copyAll disk l).buf (2048 * (t.clusters.length + k) + j) = readClusters disk l[k] j := by
  induction l generalizing t k with
  | nil => simp at hk
  | cons c l ih =>
    rw [copyAll, List.foldl_cons, ← copyAll]
    have hlen : (t.copy disk c).clusters.length = t.clusters.length + 1 := by simp [copy]
    cases k with
    | zero =>
      rw [Nat.add_zero, copyAll_buf_of_lt _ _ _ (by rw [hlen]; omega), copy_buf, List.getElem_cons_zero]
    | succ k =>
      have := ih (t.copy disk c) k (by simpa using hk)
      rwa [hlen, Nat.add_assoc, Nat.add_comm 1 k] at this

end Transfer

variable {img : KernelImage} {fs fs' : FileSystem} {request : DriverRequest} {i : Fin 64}

lemma cell_of_link_next {c b : UInt32} (h : fs.volume.link c = .next b) : cell fs.driver.fatTable c = b :=
  (linkOf_eq_next.mp h).1

lemma cell_of_link_last {c : UInt32} (h : fs.volume.link c = .last) : cell fs.driver.fatTable c = fatEndOfFile :=
  linkOf_eq_last.mp h

lemma word_of_usable {c : UInt32} (h : Usable c) : fs.driver.word c.toNat = some (cell fs.driver.fatTable c) := by
  rw [DriverState.word_of_lt h.lt, cell_of_lt h.lt]

lemma WellFormed.word_zero (hw : fs.WellFormed) :
    fs.driver.word DirectoryEntry.zero.clusterNumber.toNat = some cluster0Value := by
  rw [show DirectoryEntry.zero.clusterNumber.toNat = 0 from rfl, DriverState.word_of_lt (by decide)]
  exact congrArg some hw.cell_zero

lemma word_cluster0Value (d : DriverState) : d.word cluster0Value.toNat = none := by
  rw [DriverState.word, dif_neg (by decide), dif_neg (by decide), dif_neg (by decide)]

lemma Usable.ne_end {c : UInt32} (h : Usable c) : c ≠ fatEndOfFile := by
  rintro rfl
  exact absurd h.2 (by decide)

lemma readPartitions_eq {a : UInt32} {l : List UInt32} (h : Chain fs.volume.link a l) (hu : ∀ c ∈ l, Usable c)
    (t : Transfer) {fuel : ℕ} (hf : l.length < fuel) :
    readPartitions fs fuel a t = .returned 0 (t.copyAll fs.disk l) := by
  induction h generalizing t fuel with
  | @last a hl =>
    obtain ⟨fuel, rfl⟩ : ∃ n, fuel = n + 2 := ⟨fuel - 2, by simp at hf; omega⟩
    have ha := hu a (by simp)
    rw [readPartitions, if_neg ha.ne_end]
    simp only [word_of_usable ha, cell_of_link_last hl]
    rw [readPartitions, if_pos rfl]
    rfl
  | @next a b l hl _ ih =>
    obtain ⟨fuel, rfl⟩ : ∃ n, fuel = n + 1 := ⟨fuel - 1, by omega⟩
    have ha := hu a (by simp)
    rw [readPartitions, if_neg ha.ne_end]
    simp only [word_of_usable ha, cell_of_link_next hl]
    rw [ih (fun c hc => hu c (List.mem_cons_of_mem _ hc)) _ (by simpa using hf)]
    rfl

lemma read_of_none (fuel : ℕ) (hpar : (fs.table request.parentClusterNumber 0).IsFolder)
    (hm : findEntry (fs.table request.parentClusterNumber) request = none) :
    read fuel fs request = .returned 2 ⟨request.buf, []⟩ := by
  have hpar : ¬ (fs.table request.parentClusterNumber 0).attr ≠ attrSubdirectory := not_not.mpr hpar
  rw [read]
  simp only
  rw [if_neg hpar, hm]

lemma read_of_match (fuel : ℕ) (hpar : (fs.table request.parentClusterNumber 0).IsFolder)
    (hm : FirstMatch (fs.table request.parentClusterNumber) request i) :
    read fuel fs request =
      if (fs.table request.parentClusterNumber i).IsFolder then .returned 1 ⟨request.buf, []⟩
      else if request.bufferSize < (fs.table request.parentClusterNumber i).filesize then
        .returned (-1) ⟨request.buf, []⟩
      else readPartitions fs fuel (fs.table request.parentClusterNumber i).clusterNumber ⟨request.buf, []⟩ := by
  have hpar : ¬ (fs.table request.parentClusterNumber 0).attr ≠ attrSubdirectory := not_not.mpr hpar
  rw [read]
  simp only
  rw [if_neg hpar, findEntry_eq_some.mpr hm]
  rfl

structure Selects (fs : FileSystem) (request : DriverRequest) (i : Fin 64) : Prop where
  parent : (fs.table request.parentClusterNumber 0).IsFolder
  first : FirstMatch (fs.table request.parentClusterNumber) request i
  file : ¬ (fs.table request.parentClusterNumber i).IsFolder
  size : (fs.table request.parentClusterNumber i).filesize ≤ request.bufferSize

lemma Selects.read_eq (h : Selects fs request i) (fuel : ℕ) : read fuel fs request =
    readPartitions fs fuel (fs.table request.parentClusterNumber i).clusterNumber ⟨request.buf, []⟩ := by
  rw [read_of_match fuel h.parent h.first, if_neg h.file, if_neg (UInt32.not_lt.mpr h.size)]

lemma read_cases (fs : FileSystem) (request : DriverRequest) :
    (∃ i, Selects fs request i) ∨
    (∀ i, ¬ Selects fs request i) ∧ ∃ code : ℤ, code ≠ 0 ∧ ∀ fs' fuel,
      fs'.table request.parentClusterNumber = fs.table request.parentClusterNumber →
      read fuel fs' request = .returned code ⟨request.buf, []⟩ := by
  by_cases hpar : (fs.table request.parentClusterNumber 0).IsFolder
  swap
  · refine Or.inr ⟨fun i h => hpar h.parent, -1, by decide, fun fs' fuel ht => ?_⟩
    have hattr : (fs'.table request.parentClusterNumber 0).attr ≠ attrSubdirectory := by rwa [ht]
    rw [read]
    simp only [if_pos hattr]
  cases hm : findEntry (fs.table request.parentClusterNumber) request with
  | none =>
    refine Or.inr ⟨fun i h => ?_, 2, by decide, fun fs' fuel ht => read_of_none fuel (ht ▸ hpar) (ht ▸ hm)⟩
    exact Option.some_ne_none i ((findEntry_eq_some.mpr h.first).symm.trans hm)
  | some i =>
    have hm := findEntry_eq_some.mp hm
    by_cases hf : (fs.table request.parentClusterNumber i).IsFolder
    · refine Or.inr ⟨fun j h => h.file (hm.unique h.first ▸ hf), 1, by decide, fun fs' fuel ht => ?_⟩
      rw [read_of_match fuel (ht ▸ hpar) (ht ▸ hm), ht, if_pos hf]
    by_cases hs : request.bufferSize < (fs.table request.parentClusterNumber i).filesize
    · refine Or.inr ⟨fun j h => UInt32.not_lt.mpr h.size (hm.unique h.first ▸ hs),
        -1, by decide, fun fs' fuel ht => ?_⟩
      rw [read_of_match fuel (ht ▸ hpar) (ht ▸ hm), ht, if_neg hf, if_pos hs]
    · exact Or.inl ⟨i, hpar, hm, hf, UInt32.not_lt.mp hs⟩

lemma read_file (hw : fs.WellFormed) (hp : fs.volume.IsDir request.parentClusterNumber)
    (hm : FirstMatch (fs.table request.parentClusterNumber) request i) (hi : 2 ≤ i.val)
    (hlive : (fs.table request.parentClusterNumber i).Live)
    (hf : ¬ (fs.table request.parentClusterNumber i).IsFolder)
    (hs : (fs.table request.parentClusterNumber i).filesize ≤ request.bufferSize) {l : List UInt32}
    (hl : Chain fs.volume.link (fs.table request.parentClusterNumber i).clusterNumber l) {fuel : ℕ}
    (hfuel : l.length < fuel) :
    read fuel fs request = .returned 0 ((⟨request.buf, []⟩ : Transfer).copyAll fs.disk l) := by
  have hu := (hw.sound.entry_chain ⟨hp, item_of_live hi hlive⟩ hl).2
  obtain ⟨q, hq⟩ := hp
  rw [read_of_match fuel (hw.self hq).folder hm, if_neg hf, if_neg (UInt32.not_lt.mpr hs),
    readPartitions_eq hl hu _ hfuel]

lemma write_file_eq (hw : fs.WellFormed) (hz : request.bufferSize ≠ 0)
    (hn : numberOfPartition request.bufferSize ≤ (emptyClusters fs.driver.fatTable).length)
    (hwr : write img fs request = .returned 0 fs') :
    ∃ i k l, Accepted fs request i ∧ fs' = fileWritten fs request i k l ∧
      k :: l = (emptyClusters fs.driver.fatTable).take (numberOfPartition request.bufferSize) := by
  rcases write_cases img fs request with ⟨⟨code, hc, he⟩, -⟩ | ⟨i, ha, -⟩
  · rw [he fs rfl] at hwr
    exact absurd (Outcome.returned.inj hwr).1 hc
  · obtain ⟨k, l, hkl, he⟩ := write_fits hw img ha hz hn
    exact ⟨i, k, l, ha, (Outcome.returned.inj (hwr.symm.trans he)).2, hkl⟩

lemma fileWritten_chunk (hw : fs.WellFormed) {k : ℕ} {l : List ℕ} (hl : Allocates fs.driver (k :: l)) (n : ℕ)
    (hn : n < (k :: l).length) :
    readClusters (fileWritten fs request i k l).disk (UInt32.ofNat (k :: l)[n]) = chunk request.buf n := by
  have hm := List.getElem_mem hn
  have h3 := hl.three_le hw hm
  have hb := hl.below _ hm
  have ht := toNat_ofNat_of_lt hb
  have hfat : UInt32.ofNat (k :: l)[n] ≠ fatClusterNumber := by
    intro he
    rw [he, show fatClusterNumber.toNat = 1 from rfl] at ht
    omega
  rw [fileWritten, allocated]
  simp only
  rw [read_write_ne _ _ (by decide) (by omega) hfat,
    read_writeChunks_getElem _ _ hl.below (hl.sorted.imp Nat.ne_of_lt) n hn, Nat.zero_add]

lemma read_fileWritten (hw : fs.WellFormed) (hp : fs.volume.IsDir request.parentClusterNumber)
    (ha : Accepted fs request i) (hz : request.bufferSize ≠ 0)
    (hfree : ∀ j : Fin 64, ¬ ((fs.table request.parentClusterNumber j).name = request.name ∧
      (fs.table request.parentClusterNumber j).ext = request.ext))
    (hn : numberOfPartition request.bufferSize ≤ (emptyClusters fs.driver.fatTable).length) {k : ℕ} {l : List ℕ}
    (hkl : k :: l = (emptyClusters fs.driver.fatTable).take (numberOfPartition request.bufferSize))
    {reread : DriverRequest} (hparent : reread.parentClusterNumber = request.parentClusterNumber)
    (hname : reread.name = request.name) (hext : reread.ext = request.ext)
    (hsize : request.bufferSize ≤ reread.bufferSize) {fuel : ℕ} (hfuel : (k :: l).length < fuel) :
    read fuel (fileWritten fs request i k l) reread =
      .returned 0 ((⟨reread.buf, []⟩ : Transfer).copyAll (fileWritten fs request i k l).disk
        ((k :: l).map UInt32.ofNat)) := by
  have hh := writeFile_written hw hp ha hz hn hkl
  have hslot : (fileWritten fs request i k l).table request.parentClusterNumber i = fileEntry fs request i k :=
    hh.added.slot_self
  have hm : FirstMatch ((fileWritten fs request i k l).table request.parentClusterNumber) reread i := by
    refine ⟨by rw [hslot, hname]; rfl, by rw [hslot, hext]; rfl, fun j hj hmatch => hfree j ?_⟩
    rwa [hh.added.parent, update_of_ne hj.ne, hname, hext] at hmatch
  obtain ⟨q, hq⟩ := hp
  have hchain := hh.added.chain
  rw [← hslot] at hchain
  rw [← hparent] at hm hslot hchain
  refine read_file hh.wellFormed (hparent.symm ▸ (hh.dir hw ⟨q, hq⟩ hq).isDir) hm hh.added.slot ?_ ?_ ?_ hchain
    (by rwa [List.length_map])
  · rw [hslot]
    exact hh.added.live
  · rw [hslot]
    exact file_not_folder
  · rw [hslot]
    exact hsize

theorem read_after_write (hw : fs.WellFormed) (hp : fs.volume.IsDir request.parentClusterNumber)
    (hz : 0 < request.bufferSize.toNat)
    (hfree : ∀ j : Fin 64, ¬ ((fs.table request.parentClusterNumber j).name = request.name ∧
      (fs.table request.parentClusterNumber j).ext = request.ext))
    (hn : (request.bufferSize.toNat + 2047) / 2048 ≤ (emptyClusters fs.driver.fatTable).length)
    (hwr : write img fs request = .returned 0 fs') {reread : DriverRequest}
    (hparent : reread.parentClusterNumber = request.parentClusterNumber) (hname : reread.name = request.name)
    (hext : reread.ext = request.ext) (hsize : request.bufferSize ≤ reread.bufferSize) :
    ∃ t : Transfer, (∀ fuel, (request.bufferSize.toNat + 2047) / 2048 < fuel →
        read fuel fs' reread = .returned 0 t) ∧
      t.clusters.length = (request.bufferSize.toNat + 2047) / 2048 ∧
      ∀ j < request.bufferSize.toNat, t.buf j = request.buf j := by
  rw [← numberOfPartition_eq] at hn ⊢
  have hz : request.bufferSize ≠ 0 := fun he => absurd hz (by rw [he]; decide)
  obtain ⟨i, k, l, ha, rfl, hkl⟩ := write_file_eq hw hz hn hwr
  have hlen : (k :: l).length = numberOfPartition request.bufferSize := by
    rw [hkl, List.length_take, Nat.min_eq_left hn]
  refine ⟨(⟨reread.buf, []⟩ : Transfer).copyAll (fileWritten fs request i k l).disk ((k :: l).map UInt32.ofNat),
    fun fuel hfuel => ?_, ?_, fun j hj => ?_⟩
  · exact read_fileWritten hw hp ha hz hfree hn hkl hparent hname hext hsize (by rwa [hlen])
  · rw [Transfer.copyAll_clusters, List.nil_append, List.length_map, hlen]
  · have hk : j / 2048 < (k :: l).length := by
      rw [hlen, numberOfPartition_eq]
      omega
    have hbuf := Transfer.copyAll_buf ⟨reread.buf, []⟩ (fileWritten fs request i k l).disk
      ((k :: l).map UInt32.ofNat) (j / 2048) (by rwa [List.length_map]) ⟨j % 2048, Nat.mod_lt _ (by decide)⟩
    rw [List.getElem_map, fileWritten_chunk hw (allocates_fits hn hkl) _ hk, chunk, List.length_nil, Nat.zero_add,
      Nat.div_add_mod] at hbuf
    exact hbuf

def helloRequest : DriverRequest :=
  ⟨fun j => UInt8.ofNat j, ![0x68, 0x65, 0x6C, 0x6C, 0x6F, 0, 0, 0], fun _ => 0, rootClusterNumber, 2049⟩

lemma hello_fits :
    (helloRequest.bufferSize.toNat + 2047) / 2048 ≤ (emptyClusters formatted.driver.fatTable).length := by
  rw [formatted, createFat32_fatTable, emptyClusters_formattedMap, List.length_range']
  decide

theorem read_after_write_hello : ∃ fs', write plainImage formatted helloRequest = .returned 0 fs' ∧
    ∃ t : Transfer, (∀ fuel, 2 < fuel → read fuel fs' helloRequest = .returned 0 t) ∧ t.clusters.length = 2 ∧
      ∀ j < 2049, t.buf j = UInt8.ofNat j := by
  obtain ⟨k, l, -, hwr⟩ := write_fits formatted_wellFormed plainImage
    (formatted_accepts (by rfl : helloRequest.parentClusterNumber = _) (by decide)) (by decide)
    (by rw [numberOfPartition_eq]; exact hello_fits)
  refine ⟨_, hwr, read_after_write formatted_wellFormed formatted_isDir (by decide) (fun j hm => ?_) hello_fits hwr
    rfl rfl rfl (by decide)⟩
  rcases formatted_name j with hn | hn
  · exact absurd (hn.symm.trans hm.1) (by decide)
  · exact absurd (hn.symm.trans hm.1) (by decide)

end Semogakelar.Fat32
