import Semogakelar.Fat32.Allocation
import Semogakelar.Fat32.Entries
import Semogakelar.Fat32.ParentScan

/-! A folder write that finds an empty cluster adds one well-formed directory to the tree. -/

namespace Semogakelar.Fat32

open Library Function FileSystem

def SameOutside (fs fs' : FileSystem) (l : List UInt32) : Prop :=
  ∀ c : UInt32, c.toNat < 2 ^ 26 → c ∉ l → readClusters fs'.disk c = readClusters fs.disk c

lemma SameOutside.table {fs fs' : FileSystem} {l : List UInt32} (h : SameOutside fs fs' l) {c : UInt32}
    (hc : c.toNat < 2 ^ 26) (hl : c ∉ l) : fs'.table c = fs.table c := by
  rw [FileSystem.table, FileSystem.table, h c hc hl]

variable {img : KernelImage} {fs : FileSystem} {request : DriverRequest} {i : Fin 64} {k : Fin 512}

lemma names_init (name : Name) (ext : Ext) (c n : UInt32) (e : DirectoryEntry) :
    (initDirectoryEntry e name ext attrSubdirectory c n).Names c := ⟨rfl, rfl, clusterNumber_init _ _ _ _ _ _⟩

lemma initDirectoryTable_spec (img : KernelImage) (hk : findEmptyCluster fs.driver.fatTable = some k) (name : Name)
    (p : UInt32) :
    ((initDirectoryTable img fs name p).1 0).Names (UInt32.ofNat k) ∧
    ((initDirectoryTable img fs name p).1 1).Names p ∧
    ∀ t : Fin 64, 2 ≤ t.val → (initDirectoryTable img fs name p).1 t = .zero := by
  obtain ⟨parentName, ht⟩ : ∃ parentName, (initDirectoryTable img fs name p).1 =
      update (update (fun _ => .zero) 0
        (initDirectoryEntry .zero name (fun _ => 0) attrSubdirectory (UInt32.ofNat k) 0)) 1
        (initDirectoryEntry .zero parentName (fun _ => 0) attrSubdirectory p 0) := by
    rw [initDirectoryTable, hk, Option.elim_some]
    simp only
    split_ifs
    · exact ⟨_, rfl⟩
    · exact ⟨_, rfl⟩
  rw [ht]
  refine ⟨?_, ?_, fun t h2 => ?_⟩
  · rw [update_of_ne (by decide), update_self]
    exact names_init _ _ _ _ _
  · rw [update_self]
    exact names_init _ _ _ _ _
  · have h1 : t ≠ 1 := fun he => absurd h2 (by rw [he]; decide)
    have h0 : t ≠ 0 := fun he => absurd h2 (by rw [he]; decide)
    rw [update_of_ne h1, update_of_ne h0]

lemma findEmptyCluster_eq_none_iff {m : ClusterMap} : findEmptyCluster m = none ↔ emptyClusters m = [] := by
  rw [findEmptyCluster, Fin.find?_eq_none_iff, emptyClusters, List.filter_eq_nil_iff]
  constructor
  · intro h j hj
    have hj : j < 512 := List.mem_range.mp hj
    have := h ⟨j, hj⟩
    rwa [← cell_ofNat m ⟨j, hj⟩, Bool.eq_false_iff] at this
  · intro h j
    have := h j.val (List.mem_range.mpr j.isLt)
    rw [cell_ofNat] at this
    exact Bool.eq_false_iff.mpr this

lemma emptyClusters_ne_nil {m : ClusterMap} {k : Fin 512} (h : findEmptyCluster m = some k) :
    emptyClusters m ≠ [] := by
  intro hnil
  rw [findEmptyCluster_eq_none_iff.mpr hnil] at h
  exact Option.some_ne_none k h.symm

lemma findEmptyCluster_empty (hk : findEmptyCluster fs.driver.fatTable = some k) :
    fs.driver.fatTable k = fatEmptyEntry := by
  simpa using Fin.eq_true_of_find?_eq_some hk

lemma usable_ofNat (hw : fs.WellFormed) (hk : fs.driver.fatTable k = fatEmptyEntry) : Usable (UInt32.ofNat k) := by
  have h3 := hw.empty_usable hk
  have ht := toNat_ofNat_of_lt (by omega : k.val < 1536)
  exact ⟨by omega, by omega⟩

def folderEntry (fs : FileSystem) (request : DriverRequest) (i : Fin 64) (k : Fin 512) : DirectoryEntry :=
  initDirectoryEntry (fs.table request.parentClusterNumber i) request.name request.ext attrSubdirectory
    (UInt32.ofNat k) request.bufferSize

def folderWritten (img : KernelImage) (fs : FileSystem) (request : DriverRequest) (i : Fin 64) (k : Fin 512) :
    FileSystem :=
  let c := UInt32.ofNat k
  let created := initDirectoryTable img fs request.name request.parentClusterNumber
  let fatTable := update fs.driver.fatTable k fatEndOfFile
  { driver := { fs.driver with fatTable := fatTable, dirTableBuf := created.1 }
    disk := writeClusters (writeClusters (writeClusters fs.disk fatClusterNumber (mapEquiv.symm fatTable))
      c (tableEquiv.symm created.1)) request.parentClusterNumber
      (tableEquiv.symm (update (fs.table request.parentClusterNumber) i (folderEntry fs request i k)))
    rootLiteral := created.2 }

lemma writeFolder_eq (hk : findEmptyCluster fs.driver.fatTable = some k) :
    writeFolder img fs request (fs.table request.parentClusterNumber) i =
      .returned 0 (folderWritten img fs request i k) := by
  rw [writeFolder, hk, Option.elim_some]
  rfl

lemma writeFolder_full (hk : findEmptyCluster fs.driver.fatTable = none) :
    writeFolder img fs request (fs.table request.parentClusterNumber) i = .returned (-1) fs := by
  rw [writeFolder, hk, Option.elim_none]

lemma folderWritten_parent : (folderWritten img fs request i k).table request.parentClusterNumber =
    update (fs.table request.parentClusterNumber) i (folderEntry fs request i k) := by
  simp [FileSystem.table, folderWritten]

section

variable (hw : fs.WellFormed) (hp : fs.volume.IsDir request.parentClusterNumber)
  (hk : findEmptyCluster fs.driver.fatTable = some k)
include hw hp hk

lemma folder_cluster_ne_parent : UInt32.ofNat k ≠ request.parentClusterNumber := by
  intro he
  refine hw.sound.dir_used hp (linkOf_eq_free.mpr ?_)
  rw [← he, cell_ofNat]
  exact findEmptyCluster_empty hk

lemma folderWritten_frame : SameOutside fs (folderWritten img fs request i k)
    [fatClusterNumber, request.parentClusterNumber, UInt32.ofNat k] := by
  intro c hc hl
  simp only [List.mem_cons, List.not_mem_nil, or_false, not_or] at hl
  have hu := usable_ofNat hw (findEmptyCluster_empty hk)
  rw [folderWritten]
  simp only
  rw [read_write_ne _ _ (hw.dir_lt_device hp) hc hl.2.1, read_write_ne _ _ (by have := hu.2; omega) hc hl.2.2,
    read_write_ne _ _ (by decide) hc hl.1]

lemma folderWritten_created : (folderWritten img fs request i k).table (UInt32.ofNat k) =
    (initDirectoryTable img fs request.name request.parentClusterNumber).1 := by
  have hu := usable_ofNat hw (findEmptyCluster_empty hk)
  rw [FileSystem.table, folderWritten]
  simp only
  rw [read_write_ne _ _ (hw.dir_lt_device hp) (by have := hu.2; omega) (folder_cluster_ne_parent hw hp hk),
    read_write_self, Equiv.apply_symm_apply]

lemma folderWritten_cached : (folderWritten img fs request i k).driver.fatTable =
    mapEquiv (readClusters (folderWritten img fs request i k).disk fatClusterNumber) := by
  have hu := usable_ofNat hw (findEmptyCluster_empty hk)
  rw [folderWritten]
  simp only
  rw [read_write_ne _ _ (hw.dir_lt_device hp) (by decide) (hw.dir_ne_fat hp).symm,
    read_write_ne _ _ (by have := hu.2; omega) (by decide) hu.ne_fat.symm, read_write_self,
    Equiv.apply_symm_apply]

lemma folderWritten_added (ha : Accepted fs request i) :
    EntryAdded fs (folderWritten img fs request i k) request.parentClusterNumber i (folderEntry fs request i k)
      [UInt32.ofNat k] := by
  have hu := usable_ofNat hw (findEmptyCluster_empty hk)
  have hc : (folderEntry fs request i k).clusterNumber = UInt32.ofNat k := clusterNumber_init _ _ _ _ _ _
  have hf : (folderEntry fs request i k).IsFolder := rfl
  have hmap : (folderWritten img fs request i k).driver.fatTable = update fs.driver.fatTable k fatEndOfFile := rfl
  exact {
    slot := ha.slot.slot
    before := hw.dead hp i ha.slot.slot ha.slot.free
    live := rfl
    parent := folderWritten_parent
    others := by
      intro d hd hl hne
      have hlt : d.toNat < 512 ∧ d ≠ fatClusterNumber := by
        rcases hd with hd | rfl
        · exact ⟨hd.lt, hd.ne_fat⟩
        · decide
      exact (folderWritten_frame hw hp hk).table (by omega) (by simp_all)
    fresh := by
      intro _ t ht
      rw [hc, folderWritten_created hw hp hk]
      exact (initDirectoryTable_spec img hk _ _).2.2 t ht
    free := by
      intro c hm
      rw [List.mem_singleton.mp hm, cell_ofNat]
      exact findEmptyCluster_empty hk
    linked := by
      intro c hm
      rw [hmap, cell_update, if_neg (by simpa using hm)]
    chain := by
      rw [hc]
      refine .last (linkOf_eq_last.mpr ?_)
      rw [hmap, cell_ofNat, update_self]
    length := (DirectoryEntry.blocks_of_folder hf).symm
    usable := by
      intro c hm
      rwa [List.mem_singleton.mp hm] }

lemma folderWritten_wellFormed (hz : request.bufferSize = 0) (ha : Accepted fs request i) :
    (folderWritten img fs request i k).WellFormed := by
  have hc : (folderEntry fs request i k).clusterNumber = UInt32.ofNat k := clusterNumber_init _ _ _ _ _ _
  refine (folderWritten_added hw hp hk ha).wellFormed hw hp (folderWritten_cached hw hp hk) ?_ ?_ ?_
  · intro _
    rw [hc, folderWritten_created hw hp hk]
    exact (initDirectoryTable_spec img hk _ _).1
  · intro _
    rw [hc, folderWritten_created hw hp hk]
    exact (initDirectoryTable_spec img hk _ _).2.1
  · intro t ht _ hs
    exact ha.unmatched t ht ⟨hs.name, hs.ext, by rw [requestAttribute, if_pos hz]; exact hs.attr⟩

end

end Semogakelar.Fat32
