import Semogakelar.Fat32.Frame

/-! Runs of writes and deletions, and the entry that a name denotes for each operation in the states they reach. -/

namespace Semogakelar.Fat32

open Library Function FileSystem Relation

inductive SafeStep (img : KernelImage) : FileSystem → FileSystem → Prop
  | write {fs fs' : FileSystem} {request : DriverRequest} {code : ℤ} :
    fs.volume.IsDir request.parentClusterNumber → ¬ Overcommits fs request →
    write img fs request = .returned code fs' → SafeStep img fs fs'
  | delete {fs fs' : FileSystem} {request : DriverRequest} {fuel : ℕ} {code : ℤ} :
    fs.volume.IsDir request.parentClusterNumber → DeletesLive fs request →
    delete fuel fs request = .returned code fs' → SafeStep img fs fs'

variable {img : KernelImage} {fs fs' : FileSystem} {request : DriverRequest} {i : Fin 64}

lemma write_kept (hw : fs.WellFormed) (hp : fs.volume.IsDir request.parentClusterNumber)
    (ho : ¬ Overcommits fs request) {code : ℤ} (hwr : write img fs request = .returned code fs') :
    fs'.WellFormed ∧ readClusters fs'.disk bootSector = readClusters fs.disk bootSector := by
  rcases write_outcome hw hp img with ⟨_, -, he, -⟩ | ⟨fs₁, i, e, l, he, hh, -⟩ | ⟨fs₁, -, -, ho'⟩
  · obtain rfl := (Outcome.returned.inj (he.symm.trans hwr)).2
    exact ⟨hw, rfl⟩
  · obtain rfl := (Outcome.returned.inj (he.symm.trans hwr)).2
    exact ⟨hh.wellFormed, hh.boot hw hp⟩
  · exact (ho ho').elim

lemma delete_kept (hw : fs.WellFormed) (hp : fs.volume.IsDir request.parentClusterNumber)
    (hd : DeletesLive fs request) {fuel : ℕ} {code : ℤ} (hdel : delete fuel fs request = .returned code fs') :
    fs'.WellFormed ∧ readClusters fs'.disk bootSector = readClusters fs.disk bootSector := by
  rcases delete_outcome hw hp with ⟨_, -, he, -⟩ | ⟨fs₁, i, l, he, hrem, -⟩ | ⟨_, -, -, hd'⟩ | ⟨-, hd'⟩
  · obtain rfl := (Outcome.returned.inj ((he fuel).symm.trans hdel)).2
    exact ⟨hw, rfl⟩
  · have he := he (max fuel l.length) (le_max_right _ _)
    obtain rfl := (Outcome.returned.inj (he.symm.trans (delete_mono hdel (le_max_left _ _)))).2
    exact ⟨hrem.wellFormed, hrem.boot hw hp⟩
  · exact (hd' hd).elim
  · exact (hd' hd).elim

lemma SafeStep.wellFormed (h : SafeStep img fs fs') (hw : fs.WellFormed) : fs'.WellFormed := by
  cases h with
  | write hp ho hwr => exact (write_kept hw hp ho hwr).1
  | delete hp hd hdel => exact (delete_kept hw hp hd hdel).1

lemma safeRun_wellFormed {start : FileSystem} (h : ReflTransGen (SafeStep img) (createFat32 img start) fs) :
    fs.WellFormed := by
  induction h with
  | refl => exact createFat32_wellFormed
  | tail _ hs ih => exact hs.wellFormed ih

structure HasName (t : DirectoryTable) (request : DriverRequest) (i : Fin 64) : Prop where
  slot : 2 ≤ i.val
  live : (t i).Live
  name : (t i).name = request.name

section

variable (hw : fs.WellFormed) (hp : fs.volume.IsDir request.parentClusterNumber)
include hw hp

lemma parent_folder : (fs.table request.parentClusterNumber 0).IsFolder := by
  obtain ⟨q, hq⟩ := hp
  exact (hw.self hq).folder

lemma reserved_folder (hi : i.val < 2) : (fs.table request.parentClusterNumber i).IsFolder := by
  obtain ⟨d, r, hn, -⟩ := reserved_names hw hp hi
  exact hn.folder

lemma slot_of_file (hf : ¬ (fs.table request.parentClusterNumber i).IsFolder) : 2 ≤ i.val := by
  by_contra hlt
  exact hf (reserved_folder hw hp (by omega))

lemma read_dead (hm : FirstMatch (fs.table request.parentClusterNumber) request i) (hi : 2 ≤ i.val)
    (hlive : ¬ (fs.table request.parentClusterNumber i).Live) (fuel : ℕ) (code : ℤ) (t : Transfer) :
    read fuel fs request ≠ .returned code t := by
  have hsize : ¬ request.bufferSize < DirectoryEntry.zero.filesize := UInt32.not_lt.mpr UInt32.zero_le
  rw [read_of_match fuel (parent_folder hw hp) hm, hw.dead hp i hi hlive, if_neg (by decide), if_neg hsize]
  intro h
  match fuel with
  | 0 => cases h
  | 1 =>
    rw [readPartitions, if_neg (by decide), WellFormed.word_zero hw] at h
    cases h
  | fuel + 2 =>
    rw [readPartitions, if_neg (by decide), WellFormed.word_zero hw] at h
    simp only at h
    rw [readPartitions, if_neg (by decide), word_cluster0Value] at h
    cases h

lemma Selects.live (h : Selects fs request i) {fuel : ℕ} {code : ℤ} {t : Transfer}
    (hr : read fuel fs request = .returned code t) : (fs.table request.parentClusterNumber i).Live := by
  by_contra hlive
  -- The chain of an empty slot leaves the map.
  exact read_dead hw hp h.first (slot_of_file hw hp h.file) hlive fuel code t hr

end

lemma fill_entry : nearlyFull.table rootClusterNumber 2 = fileEntry formatted fillRequest 2 3 := by
  rw [nearlyFull_root, update_self]

lemma fill_hasName : HasName (nearlyFull.table rootClusterNumber) fillRequest 2 :=
  ⟨le_rfl, by rw [fill_entry]; rfl, by rw [fill_entry]; rfl⟩

end Semogakelar.Fat32
