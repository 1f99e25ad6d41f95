import Semogakelar.Fat32.WriteFolder

/-! A file write stores its chunks over the empty words it finds, in increasing order. -/

namespace Semogakelar.Fat32

open Library Function FileSystem

lemma mem_emptyClusters {m : ClusterMap} {j : ℕ} :
    j ∈ emptyClusters m ↔ ∃ h : j < 512, m ⟨j, h⟩ = fatEmptyEntry := by
  rw [emptyClusters, List.mem_filter, List.mem_range, beq_iff_eq]
  constructor
  · rintro ⟨hj, he⟩
    exact ⟨hj, by rwa [← cell_ofNat m ⟨j, hj⟩]⟩
  · rintro ⟨hj, he⟩
    exact ⟨hj, by rwa [← cell_ofNat m ⟨j, hj⟩] at he⟩

structure Allocates (d : DriverState) (l : List ℕ) : Prop where
  sorted : l.Pairwise (· < ·)
  below : ∀ j ∈ l, j < 1536
  empty : ∀ j ∈ l, d.word j = some fatEmptyEntry

lemma allocates_take (d : DriverState) (n : ℕ) : Allocates d ((d.emptyFrom 0).take n) where
  sorted := (d.emptyFrom_pairwise 0).sublist (List.take_sublist _ _)
  below := fun _ hj => (DriverState.mem_emptyFrom.mp (List.mem_of_mem_take hj)).2.1
  empty := fun _ hj => (DriverState.mem_emptyFrom.mp (List.mem_of_mem_take hj)).2.2

def fileEntry (fs : FileSystem) (request : DriverRequest) (i : Fin 64) (k : ℕ) : DirectoryEntry :=
  initDirectoryEntry (fs.table request.parentClusterNumber i) request.name request.ext 0 (UInt32.ofNat k)
    request.bufferSize

def withEntry (fs : FileSystem) (request : DriverRequest) (i : Fin 64) (k : ℕ) : FileSystem :=
  { fs with
    disk := writeClusters fs.disk request.parentClusterNumber
      (tableEquiv.symm (update (fs.table request.parentClusterNumber) i (fileEntry fs request i k))) }

def fileWritten (fs : FileSystem) (request : DriverRequest) (i : Fin 64) (k : ℕ) (l : List ℕ) : FileSystem :=
  allocated request.buf 0 (k :: l) (withEntry fs request i k)

variable {fs : FileSystem} {request : DriverRequest} {i : Fin 64} {k : ℕ} {l : List ℕ}

lemma file_not_folder : ¬ (fileEntry fs request i k).IsFolder := by
  simp [DirectoryEntry.IsFolder, fileEntry, initDirectoryEntry, attrSubdirectory]

lemma fileEntry_clusterNumber : (fileEntry fs request i k).clusterNumber = UInt32.ofNat k :=
  clusterNumber_init _ _ _ _ _ _

lemma fileWritten_word_of_not_mem {j : ℕ} (hj : j ∉ k :: l) :
    (fileWritten fs request i k l).driver.word j = fs.driver.word j := linkWords_word_of_not_mem hj

lemma fileWritten_cached : (fileWritten fs request i k l).driver.fatTable =
    mapEquiv (readClusters (fileWritten fs request i k l).disk fatClusterNumber) := by
  rw [fileWritten, allocated]
  simp only
  rw [read_write_self, Equiv.apply_symm_apply]

lemma numberOfPartition_pos {n : UInt32} (hn : n ≠ 0) : 0 < numberOfPartition n := by
  have : n.toNat ≠ 0 := fun h => hn (UInt32.toNat_inj.mp h)
  rw [numberOfPartition_eq]
  omega

lemma fileWritten_read (hl : Allocates fs.driver (k :: l)) {c : UInt32} (hc : c.toNat < 2 ^ 26)
    (hf : c ≠ fatClusterNumber) (hm : c.toNat ∉ k :: l) :
    readClusters (fileWritten fs request i k l).disk c = readClusters (withEntry fs request i k).disk c := by
  rw [fileWritten, allocated]
  simp only
  rw [read_write_ne _ _ (by decide) hc hf, read_writeChunks_of_not_mem _ _ hc hl.below hm]

section

variable (hw : fs.WellFormed) (hl : Allocates fs.driver (k :: l))
include hw hl

lemma Allocates.three_le {j : ℕ} (hj : j ∈ k :: l) : 3 ≤ j := by
  by_contra hlt
  have he := hl.empty j hj
  rw [DriverState.word_of_lt (by omega : j < 512)] at he
  exact hw.reserved_used ⟨j, by omega⟩ (by simp only; omega) (Option.some.inj he)

lemma Allocates.not_mem_of_dir {d : UInt32} (hd : fs.volume.IsDir d) : d.toNat ∉ k :: l := by
  intro hm
  have hlt := (hw.dir_lt hd).2
  have he := hl.empty _ hm
  rw [DriverState.word_of_lt hlt] at he
  refine hw.sound.dir_used hd (linkOf_eq_free.mpr ?_)
  rw [cell_of_lt hlt]
  exact Option.some.inj he

lemma fileWritten_frame (hp : fs.volume.IsDir request.parentClusterNumber) :
    SameOutside fs (fileWritten fs request i k l)
      (fatClusterNumber :: request.parentClusterNumber :: (k :: l).map UInt32.ofNat) := by
  intro c hc hm
  rw [List.mem_cons, List.mem_cons, not_or, not_or] at hm
  have hm' : c.toNat ∉ k :: l := fun hh => hm.2.2 (List.mem_map.mpr ⟨c.toNat, hh, UInt32.ofNat_toNat⟩)
  rw [fileWritten_read hl hc hm.1 hm', withEntry]
  exact read_write_ne _ _ (hw.dir_lt_device hp) hc hm.2.1

lemma fileWritten_parent (hp : fs.volume.IsDir request.parentClusterNumber) :
    (fileWritten fs request i k l).table request.parentClusterNumber =
      update (fs.table request.parentClusterNumber) i (fileEntry fs request i k) := by
  rw [FileSystem.table, fileWritten_read hl (hw.dir_lt_device hp) (hw.dir_ne_fat hp) (hl.not_mem_of_dir hw hp),
    withEntry, read_write_self, Equiv.apply_symm_apply]

lemma fileWritten_others (hp : fs.volume.IsDir request.parentClusterNumber) {d : UInt32}
    (hd : Usable d ∨ d = rootClusterNumber) (hm : d ∉ (k :: l).map UInt32.ofNat)
    (hne : d ≠ request.parentClusterNumber) : (fileWritten fs request i k l).table d = fs.table d := by
  have hlt : d.toNat < 512 ∧ d ≠ fatClusterNumber := by
    rcases hd with hd | rfl
    · exact ⟨hd.lt, hd.ne_fat⟩
    · decide
  refine (fileWritten_frame hw hl hp).table (by omega) ?_
  rw [List.mem_cons, List.mem_cons, not_or, not_or]
  exact ⟨hlt.2, hne, hm⟩

lemma fileWritten_link (hb : ∀ j ∈ k :: l, j ≤ 512) :
    ((k :: l).map UInt32.ofNat).IsChain fun x y => (fileWritten fs request i k l).volume.link x = .next y := by
  rw [List.isChain_map]
  refine (linkWords_isChain (d := fs.driver) hl.sorted hl.below).imp_of_mem_imp ?_
  rintro x y hx hy ⟨hlt, he⟩
  have hx : x < 512 := by
    have := hb y hy
    omega
  rw [DriverState.word_of_lt hx] at he
  have he : (fileWritten fs request i k l).driver.fatTable ⟨x, hx⟩ = UInt32.ofNat y := Option.some.inj he
  rw [volume_link, show UInt32.ofNat x = UInt32.ofNat (⟨x, hx⟩ : Fin 512) from rfl, cell_ofNat, he,
    linkOf_ofNat (hl.three_le hw hy) (hl.below y hy)]

lemma fileWritten_dir (hp : fs.volume.IsDir request.parentClusterNumber) (ha : Accepted fs request i)
    {d q : UInt32} (hd : fs.volume.Dir d q) : (fileWritten fs request i k l).volume.Dir d q := by
  refine hd.mono (volume_root fs).symm fun d t e hd he => ?_
  have hm : d ∉ (k :: l).map UInt32.ofNat := by
    intro hm
    obtain ⟨j, hj, rfl⟩ := List.mem_map.mp hm
    have hn := hl.not_mem_of_dir hw hd
    rw [toNat_ofNat_of_lt (hl.below j hj)] at hn
    exact hn hj
  obtain ⟨ht, hlive, hi⟩ := item_eq_some.mp he
  have hsame : (fileWritten fs request i k l).table d t = fs.table d t := by
    by_cases hne : d = request.parentClusterNumber
    · subst hne
      rw [fileWritten_parent hw hl hp, update_of_ne]
      rintro rfl
      exact ha.slot.free hlive
    · rw [fileWritten_others hw hl hp (hw.sound.dir_usable hd) hm hne]
  rw [item_eq_some, hsame]
  exact ⟨ht, hlive, hi⟩

lemma fileWritten_overrun (hp : fs.volume.IsDir request.parentClusterNumber) (ha : Accepted fs request i)
    (hb : ∀ j ∈ k :: l, j ≤ 512) (hlast : 512 ∈ k :: l) : ¬ (fileWritten fs request i k l).WellFormed := by
  intro hw'
  obtain ⟨q, hq⟩ := hp
  have hslot : (fileWritten fs request i k l).table request.parentClusterNumber i = fileEntry fs request i k := by
    rw [fileWritten_parent hw hl ⟨q, hq⟩, update_self]
  have hentry : (fileWritten fs request i k l).volume.Entry request.parentClusterNumber i
      (fileEntry fs request i k).item := by
    refine ⟨⟨q, fileWritten_dir hw hl ⟨q, hq⟩ ha hq⟩, item_eq_some.mpr ⟨ha.slot.slot, ?_, ?_⟩⟩
    · rw [hslot]
      rfl
    · rw [hslot]
  obtain ⟨m, hm, -, hu⟩ := hw'.sound.chain hentry
  have hhead : (fileEntry fs request i k).item.head = UInt32.ofNat k := fileEntry_clusterNumber
  rw [hhead] at hm
  have hu := hu _ (hm.mem_of_isChain (fileWritten_link hw hl hb) _ (List.mem_map_of_mem hlast))
  exact absurd hu.2 (by decide)

end

section

variable (hw : fs.WellFormed) (hl : Allocates fs.driver (k :: l)) (hb : ∀ j ∈ k :: l, j < 512)
include hw hl hb

lemma fileWritten_chain : Chain (fileWritten fs request i k l).volume.link (UInt32.ofNat k)
    ((k :: l).map UInt32.ofNat) := by
  refine Chain.of_isChain (fileWritten_link hw hl fun j hj => (hb j hj).le) fun z hz => ?_
  rw [← List.map_cons, List.getLast?_map, Option.map_eq_some_iff] at hz
  obtain ⟨j, hj, rfl⟩ := hz
  have hlt := hb j (List.mem_of_getLast? hj)
  have he := linkWords_last (d := fs.driver) hl.below hj
  rw [DriverState.word_of_lt hlt] at he
  have he : (fileWritten fs request i k l).driver.fatTable ⟨j, hlt⟩ = fatEndOfFile := Option.some.inj he
  rw [volume_link, show UInt32.ofNat j = UInt32.ofNat (⟨j, hlt⟩ : Fin 512) from rfl, cell_ofNat,
    linkOf_eq_last, he]

lemma fileWritten_usable {c : UInt32} (hc : c ∈ (k :: l).map UInt32.ofNat) : Usable c := by
  obtain ⟨j, hj, rfl⟩ := List.mem_map.mp hc
  have h3 := hl.three_le hw hj
  have ht := toNat_ofNat_of_lt (hl.below j hj)
  have hlt := hb j hj
  exact ⟨by omega, by omega⟩

lemma fileWritten_added (hp : fs.volume.IsDir request.parentClusterNumber) (ha : Accepted fs request i)
    (hn : (k :: l).length = numberOfPartition request.bufferSize) :
    EntryAdded fs (fileWritten fs request i k l) request.parentClusterNumber i (fileEntry fs request i k)
      ((k :: l).map UInt32.ofNat) where
  slot := ha.slot.slot
  before := hw.dead hp i ha.slot.slot ha.slot.free
  live := rfl
  parent := fileWritten_parent hw hl hp
  others := fun _ hd hm hne => fileWritten_others hw hl hp hd hm hne
  fresh := fun hf => (file_not_folder hf).elim
  free := by
    intro c hc
    obtain ⟨j, hj, rfl⟩ := List.mem_map.mp hc
    have he := hl.empty j hj
    rw [DriverState.word_of_lt (hb j hj)] at he
    rw [show UInt32.ofNat j = UInt32.ofNat (⟨j, hb j hj⟩ : Fin 512) from rfl, cell_ofNat]
    exact Option.some.inj he
  linked := by
    intro c hc
    unfold cell
    split_ifs with hlt
    · refine DriverState.fatTable_eq_of_word _ _ (fileWritten_word_of_not_mem fun hm => hc ?_)
      exact List.mem_map.mpr ⟨_, hm, UInt32.ofNat_toNat⟩
    · rfl
  chain := by
    rw [fileEntry_clusterNumber]
    exact fileWritten_chain hw hl hb
  length := by
    rw [List.length_map, hn, DirectoryEntry.blocks_of_file file_not_folder]
    exact numberOfPartition_eq _
  usable := fun _ hc => fileWritten_usable hw hl hb hc

lemma fileWritten_wellFormed (hp : fs.volume.IsDir request.parentClusterNumber) (ha : Accepted fs request i)
    (hz : request.bufferSize ≠ 0) (hn : (k :: l).length = numberOfPartition request.bufferSize) :
    (fileWritten fs request i k l).WellFormed := by
  refine (fileWritten_added hw hl hb hp ha hn).wellFormed hw hp fileWritten_cached
    (fun hf => (file_not_folder hf).elim) (fun hf => (file_not_folder hf).elim) ?_
  intro t ht _ hs
  exact ha.unmatched t ht ⟨hs.name, hs.ext, by rw [requestAttribute, if_neg hz]; exact hs.attr⟩

end

end Semogakelar.Fat32
