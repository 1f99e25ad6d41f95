import Semogakelar.Fat32.Format
import Semogakelar.Fat32.WriteFile

/-! The outcome of `write`, and the writes after which the volume is still well-formed. -/

namespace Semogakelar.Fat32

open Library Function FileSystem

variable {img : KernelImage} {fs fs' : FileSystem} {request : DriverRequest} {i : Fin 64}

structure Written (fs fs' : FileSystem) (request : DriverRequest) (i : Fin 64) (e : DirectoryEntry)
    (l : List UInt32) : Prop where
  slot : FirstFree (fs.table request.parentClusterNumber) i
  added : EntryAdded fs fs' request.parentClusterNumber i e l
  frame : SameOutside fs fs' (fatClusterNumber :: request.parentClusterNumber :: l)
  wellFormed : fs'.WellFormed
  name : e.name = request.name
  ext : e.ext = request.ext
  attr : e.attr = requestAttribute request

structure OneShort (fs : FileSystem) (request : DriverRequest) : Prop where
  file : request.bufferSize ≠ 0
  accepted : ∃ i, Accepted fs request i
  left : emptyClusters fs.driver.fatTable ≠ []
  excess : numberOfPartition request.bufferSize = (emptyClusters fs.driver.fatTable).length + 1

/-- The request is one cluster short, and the word behind the map reads as the missing one. -/
structure Overcommits (fs : FileSystem) (request : DriverRequest) : Prop extends OneShort fs request where
  adjacent : fs.driver.word 512 = some fatEmptyEntry

lemma boot_not_mem (hw : fs.WellFormed) (hp : fs.volume.IsDir request.parentClusterNumber) {l : List UInt32}
    (hl : ∀ c ∈ l, Usable c) : bootSector ∉ fatClusterNumber :: request.parentClusterNumber :: l := by
  rw [List.mem_cons, List.mem_cons, not_or, not_or]
  exact ⟨by decide, (hw.dir_ne_boot hp).symm, fun hm => (hl _ hm).ne_boot rfl⟩

lemma Written.boot (hw : fs.WellFormed) (hp : fs.volume.IsDir request.parentClusterNumber) {e : DirectoryEntry}
    {l : List UInt32} (h : Written fs fs' request i e l) :
    readClusters fs'.disk bootSector = readClusters fs.disk bootSector :=
  h.frame _ (by decide) (boot_not_mem hw hp h.added.usable)

lemma Written.dir (hw : fs.WellFormed) (hp : fs.volume.IsDir request.parentClusterNumber) {e : DirectoryEntry}
    {l : List UInt32} (h : Written fs fs' request i e l) {d q : UInt32} (hd : fs.volume.Dir d q) :
    fs'.volume.Dir d q := (h.added.adds.dir_iff hw.sound hp).mpr (Or.inl hd)

lemma allocates_fits (hn : numberOfPartition request.bufferSize ≤ (emptyClusters fs.driver.fatTable).length)
    {k : ℕ} {l : List ℕ} (hkl : k :: l =
      (emptyClusters fs.driver.fatTable).take (numberOfPartition request.bufferSize)) :
    Allocates fs.driver (k :: l) := by
  have htake := allocates_take fs.driver (numberOfPartition request.bufferSize)
  rwa [DriverState.emptyFrom_zero, List.take_append_of_le_length hn, ← hkl] at htake

lemma not_overcommits_of_fits
    (hn : numberOfPartition request.bufferSize ≤ (emptyClusters fs.driver.fatTable).length) :
    ¬ Overcommits fs request := by
  intro ho
  have := ho.excess
  omega

lemma allocates_overcommits (ho : Overcommits fs request) {k : ℕ} {l : List ℕ}
    (hkl : k :: l = emptyClusters fs.driver.fatTable ++ [512]) :
    Allocates fs.driver (k :: l) ∧ (∀ j ∈ k :: l, j ≤ 512) ∧ 512 ∈ k :: l := by
  refine ⟨?_, fun j hj => ?_, by simp [hkl]⟩
  · have htake := allocates_take fs.driver ((emptyClusters fs.driver.fatTable).length + 1)
    rwa [DriverState.emptyFrom_zero, DriverState.emptyFrom_512, if_pos ho.adjacent, List.take_length_add_append,
      List.take_append_of_le_length (by simp), List.take_of_length_le (by simp), ← hkl] at htake
  · rw [hkl, List.mem_append] at hj
    rcases hj with hj | hj
    · exact (mem_emptyClusters.mp hj).1.le
    · exact (List.mem_singleton.mp hj).le

lemma first_taken {d : DriverState} {m : ℕ} (hm : m ≠ 0) (hne : emptyClusters d.fatTable ≠ [])
    (hlen : m ≤ (d.emptyFrom 0).length) :
    ∃ (k : Fin 512) (n : ℕ), findEmptyCluster d.fatTable = some k ∧ m = n + 1 ∧ n ≤ (d.emptyFrom (k + 1)).length ∧
      k.val :: (d.emptyFrom (k + 1)).take n = (d.emptyFrom 0).take m := by
  obtain ⟨n, rfl⟩ := Nat.exists_eq_add_one_of_ne_zero hm
  cases hk : findEmptyCluster d.fatTable with
  | none => exact (hne (findEmptyCluster_eq_none_iff.mp hk)).elim
  | some k =>
    have hfrom := DriverState.findEmptyCluster_eq_some hk
    rw [hfrom, List.length_cons, Nat.add_le_add_iff_right] at hlen
    exact ⟨k, n, rfl, rfl, hlen, by rw [hfrom, List.take_succ_cons]⟩

lemma first_taken_of_fits {d : DriverState} {m : ℕ} (hm : m ≠ 0) (hn : m ≤ (emptyClusters d.fatTable).length) :
    ∃ (k : Fin 512) (n : ℕ), findEmptyCluster d.fatTable = some k ∧ m = n + 1 ∧ n ≤ (d.emptyFrom (k + 1)).length ∧
      k.val :: (d.emptyFrom (k + 1)).take n = (emptyClusters d.fatTable).take m := by
  have hne : emptyClusters d.fatTable ≠ [] := List.ne_nil_of_length_pos ((Nat.pos_of_ne_zero hm).trans_le hn)
  have hlen : m ≤ (d.emptyFrom 0).length := by
    rw [DriverState.emptyFrom_zero, List.length_append]
    omega
  obtain ⟨k, n, hk, hsucc, hrest, htake⟩ := first_taken hm hne hlen
  rw [DriverState.emptyFrom_zero, List.take_append_of_le_length hn] at htake
  exact ⟨k, n, hk, hsucc, hrest, htake⟩

section

variable (hw : fs.WellFormed)
include hw

lemma WellFormed.enoughEmptyCluster_iff (n : ℕ) : enoughEmptyCluster fs.driver n = true ↔
    n ≤ (emptyClusters fs.driver.fatTable).length + if fs.driver.word 512 = some fatEmptyEntry then 1 else 0 := by
  refine DriverState.enoughEmptyCluster_iff (fun j hj he => ?_) n
  rw [DriverState.word_of_lt (by omega)] at he
  exact hw.reserved_used ⟨j, by omega⟩ hj (Option.some.inj he)

lemma writeFile_taken (hz : request.bufferSize ≠ 0) (hne : emptyClusters fs.driver.fatTable ≠ [])
    (he : enoughEmptyCluster fs.driver (numberOfPartition request.bufferSize) = true) :
    ∃ k l, k :: l = (fs.driver.emptyFrom 0).take (numberOfPartition request.bufferSize) ∧
      writeFile fs request (fs.table request.parentClusterNumber) i =
      .returned 0 (fileWritten fs request i k l) := by
  have hlen : numberOfPartition request.bufferSize ≤ (fs.driver.emptyFrom 0).length := by
    rw [WellFormed.enoughEmptyCluster_iff hw] at he
    rw [DriverState.emptyFrom_zero, DriverState.emptyFrom_512, List.length_append, List.length_append]
    split_ifs at he ⊢ with h512
    · rw [List.length_singleton]
      omega
    · omega
  obtain ⟨k, n, hk, hn, hrest, htake⟩ := first_taken (numberOfPartition_pos hz).ne' hne hlen
  refine ⟨k, (fs.driver.emptyFrom (k + 1)).take n, htake, ?_⟩
  rw [writeFile, if_neg (not_not.mpr he), hk, Option.elim_some]
  simp only
  rw [hn, Nat.add_sub_cancel]
  exact writePartitions_eq _ _ _ _ _ hrest

lemma writeFile_fits (hz : request.bufferSize ≠ 0)
    (hn : numberOfPartition request.bufferSize ≤ (emptyClusters fs.driver.fatTable).length) :
    ∃ k l, k :: l = (emptyClusters fs.driver.fatTable).take (numberOfPartition request.bufferSize) ∧
      writeFile fs request (fs.table request.parentClusterNumber) i =
      .returned 0 (fileWritten fs request i k l) := by
  have hpos := numberOfPartition_pos hz
  have hne : emptyClusters fs.driver.fatTable ≠ [] := by
    intro hnil
    rw [hnil, List.length_nil] at hn
    omega
  obtain ⟨k, l, hkl, hf⟩ := writeFile_taken hw hz hne
    ((WellFormed.enoughEmptyCluster_iff hw _).mpr (Nat.le_add_right_of_le hn))
  rw [DriverState.emptyFrom_zero, List.take_append_of_le_length hn] at hkl
  exact ⟨k, l, hkl, hf⟩

lemma writeFile_overcommits (h : Overcommits fs request) :
    ∃ k l, k :: l = emptyClusters fs.driver.fatTable ++ [512] ∧
      writeFile fs request (fs.table request.parentClusterNumber) i =
      .returned 0 (fileWritten fs request i k l) := by
  obtain ⟨k, l, hkl, hf⟩ := writeFile_taken hw h.file h.left
    ((WellFormed.enoughEmptyCluster_iff hw _).mpr (by rw [if_pos h.adjacent, h.excess]))
  rw [DriverState.emptyFrom_zero, DriverState.emptyFrom_512, if_pos h.adjacent, h.excess,
    List.take_length_add_append,
    List.take_append_of_le_length (by simp), List.take_of_length_le (by simp)] at hkl
  exact ⟨k, l, hkl, hf⟩

lemma writeFile_refused (ha : Accepted fs request i) (hz : request.bufferSize ≠ 0)
    (hn : ¬ numberOfPartition request.bufferSize ≤ (emptyClusters fs.driver.fatTable).length)
    (ho : ¬ Overcommits fs request) :
    writeFile fs request (fs.table request.parentClusterNumber) i = .returned (-1) fs := by
  rw [writeFile]
  split_ifs with he
  · cases hk : findEmptyCluster fs.driver.fatTable with
    | none => rfl
    | some k =>
      have hne := emptyClusters_ne_nil hk
      rw [WellFormed.enoughEmptyCluster_iff hw] at he
      split_ifs at he with h512
      · exact (ho ⟨⟨hz, ⟨i, ha⟩, hne, by omega⟩, h512⟩).elim
      · rw [Nat.add_zero] at he
        exact (hn he).elim
  · rfl

lemma write_fits (img : KernelImage) (ha : Accepted fs request i) (hz : request.bufferSize ≠ 0)
    (hn : numberOfPartition request.bufferSize ≤ (emptyClusters fs.driver.fatTable).length) :
    ∃ k l, k :: l = (emptyClusters fs.driver.fatTable).take (numberOfPartition request.bufferSize) ∧
      write img fs request = .returned 0 (fileWritten fs request i k l) := by
  rcases write_cases img fs request with ⟨-, hna⟩ | ⟨j, hj, hwr⟩
  · exact (hna i ha).elim
  · obtain rfl := ha.slot.unique hj.slot
    rw [hwr fs rfl, writeEntry, if_neg hz]
    exact writeFile_fits hw hz hn

variable (hp : fs.volume.IsDir request.parentClusterNumber)
include hp

lemma writeFolder_written (ha : Accepted fs request i) (hz : request.bufferSize = 0) {k : Fin 512}
    (hk : findEmptyCluster fs.driver.fatTable = some k) :
    Written fs (folderWritten img fs request i k) request i (folderEntry fs request i k) [UInt32.ofNat k] where
  slot := ha.slot
  added := folderWritten_added hw hp hk ha
  frame := folderWritten_frame hw hp hk
  wellFormed := folderWritten_wellFormed hw hp hk hz ha
  name := rfl
  ext := rfl
  attr := (if_pos hz).symm

lemma writeFile_written (ha : Accepted fs request i) (hz : request.bufferSize ≠ 0)
    (hn : numberOfPartition request.bufferSize ≤ (emptyClusters fs.driver.fatTable).length) {k : ℕ} {l : List ℕ}
    (hkl : k :: l = (emptyClusters fs.driver.fatTable).take (numberOfPartition request.bufferSize)) :
    Written fs (fileWritten fs request i k l) request i (fileEntry fs request i k)
      ((k :: l).map UInt32.ofNat) := by
  have hl := allocates_fits hn hkl
  have hb : ∀ j ∈ k :: l, j < 512 := by
    intro j hj
    rw [hkl] at hj
    exact (mem_emptyClusters.mp (List.mem_of_mem_take hj)).1
  have hlen : (k :: l).length = numberOfPartition request.bufferSize := by
    rw [hkl, List.length_take, Nat.min_eq_left hn]
  exact ⟨ha.slot, fileWritten_added hw hl hb hp ha hlen, fileWritten_frame hw hl hp,
    fileWritten_wellFormed hw hl hb hp ha hz hlen, rfl, rfl, (if_neg hz).symm⟩

lemma emptyClusters_fileWritten (ha : Accepted fs request i) (hz : request.bufferSize ≠ 0)
    (hn : numberOfPartition request.bufferSize ≤ (emptyClusters fs.driver.fatTable).length) {k : ℕ} {l : List ℕ}
    (hkl : k :: l = (emptyClusters fs.driver.fatTable).take (numberOfPartition request.bufferSize)) :
    emptyClusters (fileWritten fs request i k l).driver.fatTable =
      (emptyClusters fs.driver.fatTable).drop (numberOfPartition request.bufferSize) := by
  have h := (writeFile_written hw hp ha hz hn hkl).added
  have hnodup : (emptyClusters fs.driver.fatTable).Nodup := List.nodup_range.filter _
  have hlt : ∀ j ∈ emptyClusters fs.driver.fatTable, j < 1536 := fun j hj => by
    have := (mem_emptyClusters.mp hj).1
    omega
  have hfilter : emptyClusters (fileWritten fs request i k l).driver.fatTable =
      (emptyClusters fs.driver.fatTable).filter fun j => decide (UInt32.ofNat j ∉ (k :: l).map UInt32.ofNat) := by
    rw [emptyClusters, emptyClusters, List.filter_filter]
    refine List.filter_congr fun j _ => ?_
    by_cases hm : UInt32.ofNat j ∈ (k :: l).map UInt32.ofNat
    · have hne := h.chain.not_free _ hm
      rw [volume_link, Ne, linkOf_eq_free] at hne
      rw [beq_eq_false_iff_ne.mpr hne, decide_eq_false (not_not.mpr hm), Bool.false_and]
    · rw [decide_eq_true hm, Bool.true_and, h.linked _ hm]
  rw [hfilter]
  nth_rewrite 1 [← List.take_append_drop (numberOfPartition request.bufferSize) (emptyClusters fs.driver.fatTable)]
  rw [List.filter_append, ← hkl, List.filter_eq_nil_iff.mpr, List.filter_eq_self.mpr, List.nil_append]
  · intro j hj
    rw [decide_eq_true_eq, List.mem_map]
    rintro ⟨j', hj', he⟩
    rw [hkl] at hj'
    have hjj := ofNat_injOn (hlt _ (List.mem_of_mem_take hj')) (hlt _ (List.mem_of_mem_drop hj)) he
    exact List.disjoint_take_drop hnodup le_rfl hj' (hjj ▸ hj)
  · intro j hj
    rw [decide_eq_true_eq, not_not]
    exact List.mem_map_of_mem hj

lemma writeFile_ill_formed (ho : Overcommits fs request) (ha : Accepted fs request i) {k : ℕ} {l : List ℕ}
    (hkl : k :: l = emptyClusters fs.driver.fatTable ++ [512]) : ¬ (fileWritten fs request i k l).WellFormed := by
  obtain ⟨hl, hb, hlast⟩ := allocates_overcommits ho hkl
  exact fileWritten_overrun hw hl hp ha hb hlast

lemma write_outcome (img : KernelImage) :
    (∃ code, code ≠ 0 ∧ write img fs request = .returned code fs ∧ ¬ Overcommits fs request) ∨
    (∃ fs' i e l, write img fs request = .returned 0 fs' ∧ Written fs fs' request i e l ∧
      ¬ Overcommits fs request) ∨
    (∃ fs', write img fs request = .returned 0 fs' ∧ ¬ fs'.WellFormed ∧ Overcommits fs request) := by
  rcases write_cases img fs request with ⟨⟨code, hc, hwr⟩, hna⟩ | ⟨i, ha, hwr⟩
  · exact Or.inl ⟨code, hc, hwr fs rfl, fun ho => ho.accepted.elim hna⟩
  rw [hwr fs rfl, writeEntry]
  split_ifs with hz
  · cases hk : findEmptyCluster fs.driver.fatTable with
    | none =>
      exact Or.inl ⟨-1, by decide, writeFolder_full hk, fun ho => ho.file hz⟩
    | some k =>
      exact Or.inr (Or.inl ⟨_, i, _, _, writeFolder_eq hk, writeFolder_written hw hp ha hz hk,
        fun ho => ho.file hz⟩)
  · by_cases hn : numberOfPartition request.bufferSize ≤ (emptyClusters fs.driver.fatTable).length
    · obtain ⟨k, l, hkl, hf⟩ := writeFile_fits (i := i) hw hz hn
      exact Or.inr (Or.inl ⟨_, i, _, _, hf, writeFile_written hw hp ha hz hn hkl, not_overcommits_of_fits hn⟩)
    · by_cases ho : Overcommits fs request
      · obtain ⟨k, l, hkl, hf⟩ := writeFile_overcommits (i := i) hw ho
        exact Or.inr (Or.inr ⟨_, hf, writeFile_ill_formed hw hp ho ha hkl, ho⟩)
      · exact Or.inl ⟨-1, by decide, writeFile_refused hw ha hz hn ho, ho⟩

lemma write_written (ho : ¬ Overcommits fs request) (hwr : write img fs request = .returned 0 fs') :
    ∃ i e l, Written fs fs' request i e l := by
  rcases write_outcome hw hp img with ⟨code, hc, he, -⟩ | ⟨fs₁, i, e, l, he, hh, -⟩ | ⟨-, -, -, ho'⟩
  · exact absurd (Outcome.returned.inj (he.symm.trans hwr)).1 hc
  · obtain rfl := (Outcome.returned.inj (he.symm.trans hwr)).2
    exact ⟨i, e, l, hh⟩
  · exact (ho ho').elim

theorem write_preserves_wellFormed_iff :
    (∃ code fs', write img fs request = .returned code fs' ∧ fs'.WellFormed ∧
      readClusters fs'.disk bootSector = readClusters fs.disk bootSector) ↔ ¬ Overcommits fs request := by
  rcases write_outcome hw hp img with ⟨code, _, hwr, ho⟩ | ⟨fs', i, e, l, hwr, hh, ho⟩ | ⟨fs', hwr, hill, ho⟩
  · exact iff_of_true ⟨code, fs, hwr, hw, rfl⟩ ho
  · exact iff_of_true ⟨0, fs', hwr, hh.wellFormed, hh.boot hw hp⟩ ho
  · refine iff_of_false ?_ (not_not.mpr ho)
    rintro ⟨code, fs'', hwr', hw', -⟩
    obtain ⟨rfl, rfl⟩ := Outcome.returned.inj (hwr.symm.trans hwr')
    exact hill hw'

end

def fillRequest : DriverRequest :=
  ⟨fun _ => 0, ![0x66, 0x69, 0x6C, 0x6C, 0, 0, 0, 0], fun _ => 0, rootClusterNumber, 1040384⟩

def excessRequest : DriverRequest :=
  ⟨fun _ => 0, ![0x6D, 0x6F, 0x72, 0x65, 0, 0, 0, 0], fun _ => 0, rootClusterNumber, 2049⟩

def nearlyFull : FileSystem := fileWritten formatted fillRequest 2 3 (List.range' 4 507)

lemma fill_clusters : 3 :: List.range' 4 507 =
    (emptyClusters formatted.driver.fatTable).take (numberOfPartition fillRequest.bufferSize) := by
  rw [formatted, createFat32_fatTable, emptyClusters_formattedMap]
  decide +kernel

lemma fill_fits : numberOfPartition fillRequest.bufferSize ≤ (emptyClusters formatted.driver.fatTable).length := by
  rw [formatted, createFat32_fatTable, emptyClusters_formattedMap, List.length_range']
  decide

lemma formatted_accepts {request : DriverRequest} (hp : request.parentClusterNumber = rootClusterNumber)
    (hn : request.name ≠ fun _ => 0) : Accepted formatted request 2 := createFat32_accepts hp hn

lemma fill_accepted : Accepted formatted fillRequest 2 := formatted_accepts rfl (by decide)

lemma nearlyFull_written : Written formatted nearlyFull fillRequest 2 (fileEntry formatted fillRequest 2 3)
    ((3 :: List.range' 4 507).map UInt32.ofNat) :=
  writeFile_written formatted_wellFormed formatted_isDir fill_accepted (by decide) fill_fits fill_clusters

lemma write_fill : write plainImage formatted fillRequest = .returned 0 nearlyFull := by
  obtain ⟨k, l, hkl, hwr⟩ := write_fits formatted_wellFormed plainImage fill_accepted (by decide) fill_fits
  obtain ⟨rfl, rfl⟩ := List.cons.inj (fill_clusters.trans hkl.symm)
  exact hwr

lemma nearlyFull_empty : emptyClusters nearlyFull.driver.fatTable = [511] := by
  rw [nearlyFull, emptyClusters_fileWritten formatted_wellFormed formatted_isDir fill_accepted (by decide)
    fill_fits
    fill_clusters, formatted, createFat32_fatTable, emptyClusters_formattedMap]
  decide +kernel

lemma nearlyFull_root : nearlyFull.table rootClusterNumber =
    update (formatted.table rootClusterNumber) 2 (fileEntry formatted fillRequest 2 3) :=
  nearlyFull_written.added.parent

lemma nearlyFull_accepts {request : DriverRequest} (hp : request.parentClusterNumber = rootClusterNumber)
    (hfill : fillRequest.name ≠ request.name) (hn : request.name ≠ fun _ => 0) :
    Accepted nearlyFull request 3 := by
  obtain ⟨hself, _, hzero⟩ := formatted_rootTable
  have hslot : ∀ j : Fin 64, 2 ≤ j.val → j ≠ 2 → nearlyFull.table rootClusterNumber j = .zero := by
    intro j hj hne
    rw [nearlyFull_root, update_of_ne hne]
    exact hzero j hj
  refine ⟨?_, fun j hj hd => ?_, ?_⟩
  · rw [hp, nearlyFull_root, update_of_ne (by decide)]
    exact hself.folder
  · have hname := hd.name
    by_cases hne : j = 2
    · rw [hp, hne, nearlyFull_root, update_self] at hname
      exact hfill hname
    · rw [hp, hslot j hj hne] at hname
      exact hn hname.symm
  · rw [hp]
    refine ⟨by decide, ?_, fun j hj hlt => ?_⟩
    · rw [hslot 3 (by decide) (by decide)]
      exact EntryAdded.not_live_zero
    · obtain rfl : j = 2 := by
        have := Fin.lt_def.mp hlt
        exact Fin.ext (by simp only [Fin.val_two] at *; omega)
      rw [nearlyFull_root, update_self]
      rfl

lemma Accepted.remount (h : Accepted fs request i) : Accepted (remount fs) request i :=
  ⟨h.parent, h.unmatched, h.slot⟩

lemma remount_overcommits : Overcommits (remount nearlyFull) excessRequest where
  file := by decide
  accepted := ⟨3, (nearlyFull_accepts rfl (by decide) (by decide)).remount⟩
  left := by
    rw [remount_fatTable, nearlyFull_empty]
    decide
  excess := by
    rw [remount_fatTable, nearlyFull_empty]
    decide
  adjacent := remount_word

theorem write_breaks_nearlyFull : (remount nearlyFull).WellFormed ∧
    (remount nearlyFull).volume.IsDir excessRequest.parentClusterNumber ∧
    ∃ fs', write plainImage (remount nearlyFull) excessRequest = .returned 0 fs' ∧ ¬ fs'.WellFormed := by
  have hw : (remount nearlyFull).WellFormed := (remount_same _).wellFormed nearlyFull_written.wellFormed
  have hp : (remount nearlyFull).volume.IsDir excessRequest.parentClusterNumber := Volume.isDir_root
  refine ⟨hw, hp, ?_⟩
  rcases write_outcome hw hp plainImage with ⟨_, _, _, ho⟩ | ⟨_, _, _, _, _, _, ho⟩ | ⟨fs', hwr, hill, _⟩
  · exact (ho remount_overcommits).elim
  · exact (ho remount_overcommits).elim
  · exact ⟨fs', hwr, hill⟩

lemma fill_not_overcommits : ¬ Overcommits formatted fillRequest := not_overcommits_of_fits fill_fits

theorem write_preserves_wellFormed_formatted : formatted.WellFormed ∧
    formatted.volume.IsDir fillRequest.parentClusterNumber ∧
    ∃ code fs', write plainImage formatted fillRequest = .returned code fs' ∧ fs'.WellFormed ∧
      readClusters fs'.disk bootSector = readClusters formatted.disk bootSector := by
  exact ⟨formatted_wellFormed, formatted_isDir,
    (write_preserves_wellFormed_iff formatted_wellFormed formatted_isDir).mpr fill_not_overcommits⟩

end Semogakelar.Fat32
