import Semogakelar.Fat32.WriteFolder

/-! A freshly formatted volume is well-formed: the root is its only directory and every cell from 3 on is empty. -/

namespace Semogakelar.Fat32

open Library Function FileSystem

variable (img : KernelImage) (fs : FileSystem)

def freshMap : ClusterMap := fun i =>
  if i = 0 then cluster0Value else if i = 1 then cluster1Value else fatEmptyEntry

def formattedMap : ClusterMap := update freshMap 2 fatEndOfFile

lemma findEmptyCluster_freshMap : findEmptyCluster freshMap = some 2 := by
  rw [findEmptyCluster, Fin.find?_eq_some_iff]
  refine ⟨by decide, fun j hj => ?_⟩
  rcases (by omega : j = 0 ∨ j = 1) with rfl | rfl <;> decide

lemma formattedMap_usable {c : UInt32} (h : Usable c) : cell formattedMap c = fatEmptyEntry := by
  have h3 := h.1
  rw [cell_of_lt h.lt, formattedMap, update_of_ne, freshMap, if_neg, if_neg]
  · exact fun he => absurd (congrArg Fin.val he) (by simp only [Fin.val_one]; omega)
  · exact fun he => absurd (congrArg Fin.val he) (by simp only [Fin.val_zero]; omega)
  · exact fun he => absurd (congrArg Fin.val he) (by simp only [Fin.val_two]; omega)

lemma createFat32_fatTable : (createFat32 img fs).driver.fatTable = formattedMap := rfl

lemma createFat32_root : (createFat32 img fs).table rootClusterNumber =
    (initDirectoryTable img { fs with driver := { fs.driver with fatTable := freshMap } } rootName
      rootClusterNumber).1 := by
  rw [FileSystem.table, createFat32]
  simp only
  rw [read_write_self, Equiv.apply_symm_apply]
  rfl

lemma createFat32_dirTableBuf :
    (createFat32 img fs).driver.dirTableBuf = (createFat32 img fs).table rootClusterNumber := by
  rw [createFat32_root, createFat32]
  simp only
  rfl

lemma createFat32_table : (createFat32 img fs).table rootClusterNumber =
    update (update (fun _ => .zero) 0
      (initDirectoryEntry .zero rootName (fun _ => 0) attrSubdirectory rootClusterNumber 0)) 1
      (initDirectoryEntry .zero fs.rootLiteral.bytes (fun _ => 0) attrSubdirectory rootClusterNumber 0) := by
  rw [createFat32_root, initDirectoryTable, findEmptyCluster_freshMap, Option.elim_some]
  simp only
  rw [if_pos trivial]
  rfl

lemma createFat32_rootTable : ((createFat32 img fs).table rootClusterNumber 0).Names rootClusterNumber ∧
    ((createFat32 img fs).table rootClusterNumber 1).Names rootClusterNumber ∧
    ∀ t : Fin 64, 2 ≤ t.val → (createFat32 img fs).table rootClusterNumber t = .zero := by
  rw [createFat32_root]
  set fs' : FileSystem := { fs with driver := { fs.driver with fatTable := freshMap } }
  have hk : findEmptyCluster fs'.driver.fatTable = some 2 := findEmptyCluster_freshMap
  have h := initDirectoryTable_spec img hk rootName rootClusterNumber
  rwa [show UInt32.ofNat (2 : Fin 512).val = rootClusterNumber from rfl] at h

lemma createFat32_cached : (createFat32 img fs).driver.fatTable =
    mapEquiv (readClusters (createFat32 img fs).disk fatClusterNumber) := by
  rw [createFat32]
  simp only
  rw [read_write_ne _ _ (by decide) (by decide) (by decide), read_write_self, Equiv.apply_symm_apply]

variable {img fs}

lemma createFat32_dir {d p : UInt32} (h : (createFat32 img fs).volume.Dir d p) :
    d = rootClusterNumber ∧ p = rootClusterNumber := by
  induction h with
  | root => exact ⟨rfl, rfl⟩
  | sub _ hi _ ih =>
    obtain ⟨hs, hl, _⟩ := item_eq_some.mp hi
    rw [ih.1, (createFat32_rootTable img fs).2.2 _ hs] at hl
    exact (EntryAdded.not_live_zero hl).elim

lemma createFat32_no_entry {d : UInt32} {s : Fin 64} {e : Item UInt32} :
    ¬ (createFat32 img fs).volume.Entry d s e := by
  rintro ⟨⟨p, hd⟩, hi⟩
  obtain ⟨hs, hl, _⟩ := item_eq_some.mp hi
  rw [(createFat32_dir hd).1, (createFat32_rootTable img fs).2.2 _ hs] at hl
  exact EntryAdded.not_live_zero hl

lemma createFat32_sound : (createFat32 img fs).volume.Sound Usable where
  chain := fun he => (createFat32_no_entry he).elim
  single := fun he => (createFat32_no_entry he).elim
  disjoint := fun ho => by
    obtain ⟨e, l, he, -⟩ := ho
    exact (createFat32_no_entry he).elim
  complete := fun hu hl => (hl (linkOf_eq_free.mpr (formattedMap_usable hu))).elim
  root_reserved := fun hr => hr.ne_root rfl
  root_used := by
    rw [volume_link, createFat32_fatTable, volume_root]
    exact fun he => absurd (linkOf_eq_free.mp he) (by decide)

theorem createFat32_wellFormed : (createFat32 img fs).WellFormed where
  cached := createFat32_cached img fs
  cell_zero := rfl
  cell_one := rfl
  cell_two := rfl
  self := by
    intro d p hd
    rw [(createFat32_dir hd).1]
    exact (createFat32_rootTable img fs).1
  parent := by
    intro d p hd
    rw [(createFat32_dir hd).1, (createFat32_dir hd).2]
    exact (createFat32_rootTable img fs).2.1
  sound := createFat32_sound
  dead := by
    rintro d ⟨p, hd⟩ s hs _
    rw [(createFat32_dir hd).1]
    exact (createFat32_rootTable img fs).2.2 s hs
  distinct := by
    rintro d ⟨p, hd⟩ s t hs _ hl
    rw [(createFat32_dir hd).1, (createFat32_rootTable img fs).2.2 s hs] at hl
    exact (EntryAdded.not_live_zero hl).elim

lemma createFat32_accepts {request : DriverRequest} (hp : request.parentClusterNumber = rootClusterNumber)
    (hn : request.name ≠ fun _ => 0) : Accepted (createFat32 img fs) request 2 := by
  obtain ⟨hself, _, hzero⟩ := createFat32_rootTable img fs
  refine ⟨by rw [hp]; exact hself.folder, fun j hj hd => hn ?_, ?_⟩
  · rw [hp, hzero j hj] at hd
    exact hd.name.symm
  · rw [hp]
    refine ⟨le_rfl, ?_, fun j hj hlt => absurd hlt (by simp only [Fin.lt_def, Fin.val_two]; omega)⟩
    rw [hzero 2 le_rfl]
    exact EntryAdded.not_live_zero

lemma emptyClusters_formattedMap : emptyClusters formattedMap = List.range' 3 509 := by
  decide +kernel

def plainImage : KernelImage := ⟨fun _ => 0, fun root _ => root⟩

def blankDisk : Disk := fun _ _ => 0

def formatted : FileSystem := createFat32 plainImage ⟨.zeroed, blankDisk, .intact⟩

def remount (fs : FileSystem) : FileSystem :=
  ⟨{ DriverState.zeroed with fatTable := fs.driver.fatTable }, fs.disk, .intact⟩

@[simp] lemma remount_fatTable : (remount fs).driver.fatTable = fs.driver.fatTable := rfl

lemma tableEquiv_symm_zero : tableEquiv.symm (fun _ => .zero) = fun _ => 0 := by
  rw [Equiv.symm_apply_eq]
  funext i
  exact zero_eq

lemma remount_word : (remount fs).driver.word 512 = some fatEmptyEntry := by
  have hz : mapEquiv (tableEquiv.symm fun _ => .zero) = fun _ => 0 := by
    rw [tableEquiv_symm_zero]
    funext i
    exact uint32_zero
  exact congrArg some (congrFun hz 0)

lemma remount_same (fs : FileSystem) : SameVolume fs (remount fs) := ⟨rfl, rfl⟩

lemma formatted_name (j : Fin 64) : (formatted.table rootClusterNumber j).name = rootName ∨
    (formatted.table rootClusterNumber j).name = fun _ => 0 := by
  rw [formatted, createFat32_table]
  by_cases h1 : j = 1
  · rw [h1, update_self]
    exact Or.inl rfl
  rw [update_of_ne h1]
  by_cases h0 : j = 0
  · rw [h0, update_self]
    exact Or.inl rfl
  · rw [update_of_ne h0]
    exact Or.inr rfl

lemma formatted_rootTable : (formatted.table rootClusterNumber 0).Names rootClusterNumber ∧
    (formatted.table rootClusterNumber 1).Names rootClusterNumber ∧
    ∀ t : Fin 64, 2 ≤ t.val → formatted.table rootClusterNumber t = .zero := createFat32_rootTable _ _

lemma formatted_wellFormed : formatted.WellFormed := createFat32_wellFormed

lemma formatted_isDir : formatted.volume.IsDir rootClusterNumber := Volume.isDir_root

end Semogakelar.Fat32
