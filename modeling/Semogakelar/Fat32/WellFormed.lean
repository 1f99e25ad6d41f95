import Semogakelar.Fat32.Operations
import Semogakelar.Library.Volumes

/-! The well-formed states of the driver, over the directory tree that the tables and the map describe. -/

namespace Semogakelar.Fat32

open Library Function

def cell (m : ClusterMap) (c : UInt32) : UInt32 := if h : c.toNat < 512 then m ⟨c.toNat, h⟩ else fatEmptyEntry

def linkOf (v : UInt32) : Link UInt32 :=
  if v = fatEmptyEntry then .free else if v = fatEndOfFile then .last else .next v

def Usable (c : UInt32) : Prop := 3 ≤ c.toNat ∧ c.toNat ≤ 511

namespace DirectoryEntry

def Live (e : DirectoryEntry) : Prop := e.userAttribute = uattrNotEmpty

def IsFolder (e : DirectoryEntry) : Prop := e.attr = attrSubdirectory

instance (e : DirectoryEntry) : Decidable e.Live := inferInstanceAs (Decidable (e.userAttribute = uattrNotEmpty))

instance (e : DirectoryEntry) : Decidable e.IsFolder := inferInstanceAs (Decidable (e.attr = attrSubdirectory))

def item (e : DirectoryEntry) : Item UInt32 where
  folder := decide e.IsFolder
  head := e.clusterNumber
  blocks := if e.IsFolder then 1 else (e.filesize.toNat + 2047) / 2048

lemma blocks_of_folder {e : DirectoryEntry} (h : e.IsFolder) : e.item.blocks = 1 := if_pos h

lemma blocks_of_file {e : DirectoryEntry} (h : ¬ e.IsFolder) :
    e.item.blocks = (e.filesize.toNat + 2047) / 2048 := if_neg h

structure Names (e : DirectoryEntry) (c : UInt32) : Prop where
  folder : e.IsFolder
  live : e.Live
  cluster : e.clusterNumber = c

structure Same (e f : DirectoryEntry) : Prop where
  name : e.name = f.name
  ext : e.ext = f.ext
  attr : e.attr = f.attr

end DirectoryEntry

def volumeOf (m : ClusterMap) (table : UInt32 → DirectoryTable) : Volume UInt32 (Fin 64) where
  root := rootClusterNumber
  link c := linkOf (cell m c)
  item d s := if 2 ≤ s.val ∧ (table d s).Live then some (table d s).item else none

namespace FileSystem

def volume (fs : FileSystem) : Volume UInt32 (Fin 64) := volumeOf fs.driver.fatTable fs.table

structure WellFormed (fs : FileSystem) : Prop where
  cached : fs.driver.fatTable = mapEquiv (readClusters fs.disk fatClusterNumber)
  cell_zero : fs.driver.fatTable 0 = cluster0Value
  cell_one : fs.driver.fatTable 1 = cluster1Value
  cell_two : fs.driver.fatTable 2 = fatEndOfFile
  self : ∀ {d p}, fs.volume.Dir d p → (fs.table d 0).Names d
  parent : ∀ {d p}, fs.volume.Dir d p → (fs.table d 1).Names p
  sound : fs.volume.Sound Usable
  dead : ∀ {d}, fs.volume.IsDir d → ∀ s : Fin 64, 2 ≤ s.val → ¬ (fs.table d s).Live → fs.table d s = .zero
  distinct : ∀ {d}, fs.volume.IsDir d → ∀ s t : Fin 64, 2 ≤ s.val → 2 ≤ t.val →
    (fs.table d s).Live → (fs.table d t).Live → (fs.table d s).Same (fs.table d t) → s = t

end FileSystem

lemma cell_of_lt {m : ClusterMap} {c : UInt32} (h : c.toNat < 512) : cell m c = m ⟨c.toNat, h⟩ := dif_pos h

@[simp] lemma cell_ofNat (m : ClusterMap) (i : Fin 512) : cell m (UInt32.ofNat i) = m i := by
  have h : (UInt32.ofNat i.val).toNat = i.val := by
    rw [UInt32.toNat_ofNat']
    exact Nat.mod_eq_of_lt (by omega)
  rw [cell_of_lt (by omega)]
  congr 1
  exact Fin.ext h

lemma cell_update (m : ClusterMap) (i : Fin 512) (v c : UInt32) :
    cell (update m i v) c = if c = UInt32.ofNat i then v else cell m c := by
  split_ifs with h
  · rw [h, cell_ofNat, update_self]
  · unfold cell
    split_ifs with hc
    · refine update_of_ne (fun he => h ?_) _ _
      rw [← he]
      exact UInt32.ofNat_toNat.symm
    · rfl

lemma linkOf_eq_free {v : UInt32} : linkOf v = .free ↔ v = fatEmptyEntry := by
  unfold linkOf
  split_ifs <;> simp_all

lemma linkOf_eq_last {v : UInt32} : linkOf v = .last ↔ v = fatEndOfFile := by
  unfold linkOf
  split_ifs with h₁ h₂ <;> simp_all [fatEmptyEntry, fatEndOfFile]

lemma linkOf_eq_next {v c : UInt32} : linkOf v = .next c ↔ v = c ∧ v ≠ fatEmptyEntry ∧ v ≠ fatEndOfFile := by
  unfold linkOf
  split_ifs <;> simp_all

lemma Usable.lt {c : UInt32} (h : Usable c) : c.toNat < 512 := by
  have := h.2
  omega

lemma Usable.ne_root {c : UInt32} (h : Usable c) : c ≠ rootClusterNumber := by
  rintro rfl
  exact absurd h.1 (by decide)

lemma Usable.ne_fat {c : UInt32} (h : Usable c) : c ≠ fatClusterNumber := by
  rintro rfl
  exact absurd h.1 (by decide)

lemma Usable.ne_boot {c : UInt32} (h : Usable c) : c ≠ bootSector := by
  rintro rfl
  exact absurd h.1 (by decide)

lemma numberOfPartition_eq (n : UInt32) : numberOfPartition n = (n.toNat + 2047) / 2048 := by
  unfold numberOfPartition
  split_ifs <;> omega

namespace FileSystem

variable {fs : FileSystem} {d p c : UInt32} {s : Fin 64}

@[simp] lemma volume_root (fs : FileSystem) : fs.volume.root = rootClusterNumber := rfl

lemma volume_link (fs : FileSystem) (c : UInt32) : fs.volume.link c = linkOf (cell fs.driver.fatTable c) := rfl

lemma item_eq_some {f : Item UInt32} :
    fs.volume.item d s = some f ↔ 2 ≤ s.val ∧ (fs.table d s).Live ∧ (fs.table d s).item = f := by
  simp only [volume, volumeOf]
  split_ifs with h
  · simp [h]
  · simp only [false_iff]
    exact fun hh => h ⟨hh.1, hh.2.1⟩

lemma item_eq_none : fs.volume.item d s = none ↔ ¬ (2 ≤ s.val ∧ (fs.table d s).Live) := by
  simp [volume, volumeOf]

lemma item_of_live (hs : 2 ≤ s.val) (hl : (fs.table d s).Live) :
    fs.volume.item d s = some (fs.table d s).item := item_eq_some.mpr ⟨hs, hl, rfl⟩

namespace WellFormed

variable (h : fs.WellFormed)
include h

lemma dir_lt (hd : fs.volume.IsDir d) : 2 ≤ d.toNat ∧ d.toNat < 512 := by
  rcases h.sound.dir_usable hd with hu | rfl
  · exact ⟨by have := hu.1; omega, hu.lt⟩
  · exact (by decide : 2 ≤ rootClusterNumber.toNat ∧ rootClusterNumber.toNat < 512)

lemma dir_lt_device (hd : fs.volume.IsDir d) : d.toNat < 2 ^ 26 := by
  have := (h.dir_lt hd).2
  omega

lemma dir_ne_fat (hd : fs.volume.IsDir d) : d ≠ fatClusterNumber := by
  rintro rfl
  exact absurd (h.dir_lt hd).1 (by decide)

lemma dir_ne_boot (hd : fs.volume.IsDir d) : d ≠ bootSector := by
  rintro rfl
  exact absurd (h.dir_lt hd).1 (by decide)

lemma reserved_used (i : Fin 512) (hi : i.val < 3) : fs.driver.fatTable i ≠ fatEmptyEntry := by
  rcases (by omega : i.val = 0 ∨ i.val = 1 ∨ i.val = 2) with hv | hv | hv
  · rw [show i = 0 from Fin.ext hv, h.cell_zero]
    decide
  · rw [show i = 1 from Fin.ext hv, h.cell_one]
    decide
  · rw [show i = 2 from Fin.ext hv, h.cell_two]
    decide

lemma empty_usable {i : Fin 512} (hi : fs.driver.fatTable i = fatEmptyEntry) : 3 ≤ i.val := by
  by_contra hlt
  exact h.reserved_used i (by omega) hi

end WellFormed

structure SameVolume (fs fs' : FileSystem) : Prop where
  disk : fs'.disk = fs.disk
  fatTable : fs'.driver.fatTable = fs.driver.fatTable

namespace SameVolume

variable {fs' : FileSystem}

lemma refl (fs : FileSystem) : SameVolume fs fs := ⟨rfl, rfl⟩

lemma table (h : SameVolume fs fs') (c : UInt32) : fs'.table c = fs.table c := by
  rw [FileSystem.table, FileSystem.table, h.disk]

lemma volume (h : SameVolume fs fs') : fs'.volume = fs.volume := by
  rw [FileSystem.volume, FileSystem.volume, h.fatTable, funext h.table]

lemma wellFormed (h : SameVolume fs fs') (hw : fs.WellFormed) : fs'.WellFormed := by
  constructor
  · rw [h.fatTable, h.disk]
    exact hw.cached
  · exact h.fatTable ▸ hw.cell_zero
  · exact h.fatTable ▸ hw.cell_one
  · exact h.fatTable ▸ hw.cell_two
  all_goals
    simp only [h.volume, h.table]
  · exact hw.self
  · exact hw.parent
  · exact hw.sound
  · exact hw.dead
  · exact hw.distinct

end SameVolume

end FileSystem

end Semogakelar.Fat32
