import Semogakelar.Fat32.WellFormed

/-! Adding one live entry to a directory, or taking it away, keeps the volume well-formed. -/

namespace Semogakelar.Fat32

open Library Function FileSystem

structure EntryAdded (fs fs' : FileSystem) (p : UInt32) (s : Fin 64) (e : DirectoryEntry) (l : List UInt32) :
    Prop where
  slot : 2 ≤ s.val
  before : fs.table p s = .zero
  live : e.Live
  parent : fs'.table p = update (fs.table p) s e
  others : ∀ d, Usable d ∨ d = rootClusterNumber → d ∉ l → d ≠ p → fs'.table d = fs.table d
  fresh : e.IsFolder → ∀ t : Fin 64, 2 ≤ t.val → fs'.table e.clusterNumber t = .zero
  free : ∀ c ∈ l, cell fs.driver.fatTable c = fatEmptyEntry
  linked : ∀ c ∉ l, cell fs'.driver.fatTable c = cell fs.driver.fatTable c
  chain : Chain fs'.volume.link e.clusterNumber l
  length : l.length = e.item.blocks
  usable : ∀ c ∈ l, Usable c

namespace EntryAdded

variable {fs fs' : FileSystem} {p d q : UInt32} {s : Fin 64} {e : DirectoryEntry} {l : List UInt32}

lemma not_live_zero : ¬ DirectoryEntry.zero.Live := by decide

lemma table_slot (h : EntryAdded fs fs' p s e l) (hd : Usable d ∨ d = rootClusterNumber) (hl : d ∉ l)
    (t : Fin 64) (ht : ¬ (d = p ∧ t = s)) : fs'.table d t = fs.table d t := by
  by_cases hp : d = p
  · subst hp
    rw [h.parent, update_of_ne fun hts => ht ⟨rfl, hts⟩]
  · rw [h.others d hd hl hp]

lemma slot_self (h : EntryAdded fs fs' p s e l) : fs'.table p s = e := by simp [h.parent]

lemma adds (h : EntryAdded fs fs' p s e l) :
    Volume.Adds fs.volume fs'.volume Usable p s e.item l where
  root := rfl
  before := by
    rw [item_eq_none, h.before]
    exact fun hn => not_live_zero hn.2
  after := by
    rw [item_eq_some, h.slot_self]
    exact ⟨h.slot, h.live, rfl⟩
  others := by
    intro d hd hl t ht
    simp only [volume, volumeOf, h.table_slot hd hl t ht]
  fresh := by
    intro hf t
    rw [item_eq_none]
    rintro ⟨ht, hl⟩
    exact not_live_zero (h.fresh (of_decide_eq_true hf) t ht ▸ hl)
  free := fun c hc => linkOf_eq_free.mpr (h.free c hc)
  linked := fun c hc => by rw [volume_link, volume_link, h.linked c hc]
  chain := h.chain
  length := h.length
  single := fun hf => if_pos (of_decide_eq_true hf)
  cells := h.usable

lemma cell_reserved (h : EntryAdded fs fs' p s e l) (i : Fin 512) (hi : i.val < 3) :
    fs'.driver.fatTable i = fs.driver.fatTable i := by
  have hl : UInt32.ofNat i ∉ l := by
    intro hl
    have hu := (h.usable _ hl).1
    rw [UInt32.toNat_ofNat'] at hu
    omega
  simpa only [cell_ofNat] using h.linked _ hl

lemma reserved_slot (h : EntryAdded fs fs' p s e l) (hd : Usable d ∨ d = rootClusterNumber) (hl : d ∉ l)
    (t : Fin 64) (ht : t.val < 2) : fs'.table d t = fs.table d t := by
  refine h.table_slot hd hl t ?_
  rintro ⟨-, rfl⟩
  have := h.slot
  omega

section After

variable (h : EntryAdded fs fs' p s e l) (hw : fs.WellFormed) (hp : fs.volume.IsDir p)
include h hw

lemma not_mem (hd : fs.volume.IsDir d) : d ∉ l := h.adds.dir_not_mem hw.sound hd

include hp

lemma dir_cases (hd : fs'.volume.Dir d q) :
    (fs.volume.Dir d q ∧ d ∉ l) ∨ (e.IsFolder ∧ d = e.clusterNumber ∧ q = p) := by
  rcases (h.adds.dir_iff hw.sound hp).mp hd with hd | ⟨hf, rfl, rfl⟩
  · exact Or.inl ⟨hd, h.not_mem hw hd.isDir⟩
  · exact Or.inr ⟨of_decide_eq_true hf, rfl, rfl⟩

lemma live_cases {t : Fin 64} (hd : fs'.volume.IsDir d) (ht : 2 ≤ t.val) (hlive : (fs'.table d t).Live) :
    (d = p ∧ t = s) ∨ (fs.volume.IsDir d ∧ fs'.table d t = fs.table d t) := by
  obtain ⟨q, hd⟩ := hd
  rcases h.dir_cases hw hp hd with ⟨hd, hl⟩ | ⟨hf, rfl, rfl⟩
  · by_cases hs : d = p ∧ t = s
    · exact .inl hs
    · exact .inr ⟨hd.isDir, h.table_slot (hw.sound.dir_usable hd.isDir) hl t hs⟩
  · rw [h.fresh hf t ht] at hlive
    exact (not_live_zero hlive).elim

lemma wellFormed (hc : fs'.driver.fatTable = mapEquiv (readClusters fs'.disk fatClusterNumber))
    (hself : e.IsFolder → (fs'.table e.clusterNumber 0).Names e.clusterNumber)
    (hparent : e.IsFolder → (fs'.table e.clusterNumber 1).Names p)
    (hnew : ∀ t : Fin 64, 2 ≤ t.val → (fs.table p t).Live → ¬ (fs.table p t).Same e) : fs'.WellFormed where
  cached := hc
  cell_zero := (h.cell_reserved 0 (by decide)).trans hw.cell_zero
  cell_one := (h.cell_reserved 1 (by decide)).trans hw.cell_one
  cell_two := (h.cell_reserved 2 (by decide)).trans hw.cell_two
  self := by
    intro d q hd
    rcases h.dir_cases hw hp hd with ⟨hd, hl⟩ | ⟨hf, rfl, rfl⟩
    · rw [h.reserved_slot (hw.sound.dir_usable hd.isDir) hl 0 (by decide)]
      exact hw.self hd
    · exact hself hf
  parent := by
    intro d q hd
    rcases h.dir_cases hw hp hd with ⟨hd, hl⟩ | ⟨hf, rfl, rfl⟩
    · rw [h.reserved_slot (hw.sound.dir_usable hd.isDir) hl 1 (by decide)]
      exact hw.parent hd
    · exact hparent hf
  sound := h.adds.sound hw.sound hp
  dead := by
    rintro d ⟨q, hd⟩ t ht hlive
    rcases h.dir_cases hw hp hd with ⟨hd, hl⟩ | ⟨hf, rfl, rfl⟩
    · by_cases hs : d = p ∧ t = s
      · obtain ⟨rfl, rfl⟩ := hs
        exact (hlive (h.slot_self ▸ h.live)).elim
      · rw [h.table_slot (hw.sound.dir_usable hd.isDir) hl t hs] at hlive ⊢
        exact hw.dead hd.isDir t ht hlive
    · exact h.fresh hf t ht
  distinct := by
    intro d hd t t' ht ht' hlt hlt' hsame
    rcases h.live_cases hw hp hd ht hlt with hs | ⟨hold, he⟩
    · rcases h.live_cases hw hp hd ht' hlt' with hs' | ⟨-, he'⟩
      · rw [hs.2, hs'.2]
      · obtain ⟨rfl, rfl⟩ := hs
        rw [he'] at hlt' hsame
        rw [h.slot_self] at hsame
        exact (hnew t' ht' hlt' ⟨hsame.name.symm, hsame.ext.symm, hsame.attr.symm⟩).elim
    · rcases h.live_cases hw hp hd ht' hlt' with hs' | ⟨-, he'⟩
      · obtain ⟨rfl, rfl⟩ := hs'
        rw [he] at hlt hsame
        rw [h.slot_self] at hsame
        exact (hnew t ht hlt hsame).elim
      · rw [he] at hlt hsame
        rw [he'] at hlt' hsame
        exact hw.distinct hold t t' ht ht' hlt hlt' hsame

end After

section Before

variable (h : EntryAdded fs fs' p s e l) (hw : fs'.WellFormed) (hp : fs'.volume.IsDir p)
include h hw hp

lemma dir_of_after (hd : fs.volume.Dir d q) : fs'.volume.Dir d q ∧ d ∉ l :=
  (h.adds.dir_iff_of_after hw.sound hp).mp hd

lemma wellFormed_of_after (hc : fs.driver.fatTable = mapEquiv (readClusters fs.disk fatClusterNumber)) :
    fs.WellFormed where
  cached := hc
  cell_zero := (h.cell_reserved 0 (by decide)).symm.trans hw.cell_zero
  cell_one := (h.cell_reserved 1 (by decide)).symm.trans hw.cell_one
  cell_two := (h.cell_reserved 2 (by decide)).symm.trans hw.cell_two
  self := by
    intro d q hd
    obtain ⟨hd, hl⟩ := h.dir_of_after hw hp hd
    rw [← h.reserved_slot (hw.sound.dir_usable hd.isDir) hl 0 (by decide)]
    exact hw.self hd
  parent := by
    intro d q hd
    obtain ⟨hd, hl⟩ := h.dir_of_after hw hp hd
    rw [← h.reserved_slot (hw.sound.dir_usable hd.isDir) hl 1 (by decide)]
    exact hw.parent hd
  sound := h.adds.sound_of_after hw.sound hp
  dead := by
    rintro d ⟨q, hd⟩ t ht hlive
    obtain ⟨hd, hl⟩ := h.dir_of_after hw hp hd
    by_cases hs : d = p ∧ t = s
    · obtain ⟨rfl, rfl⟩ := hs
      exact h.before
    · rw [← h.table_slot (hw.sound.dir_usable hd.isDir) hl t hs] at hlive ⊢
      exact hw.dead hd.isDir t ht hlive
  distinct := by
    rintro d ⟨q, hd⟩ t t' ht ht' hlt hlt' hsame
    obtain ⟨hd, hl⟩ := h.dir_of_after hw hp hd
    have hu := hw.sound.dir_usable hd.isDir
    have hkeep : ∀ t : Fin 64, (fs.table d t).Live → fs'.table d t = fs.table d t := by
      intro t hlt
      refine h.table_slot hu hl t ?_
      rintro ⟨rfl, rfl⟩
      exact not_live_zero (h.before ▸ hlt)
    have he := hkeep t hlt
    have he' := hkeep t' hlt'
    exact hw.distinct hd.isDir t t' ht ht' (he ▸ hlt) (he' ▸ hlt') (he ▸ he' ▸ hsame)

end Before

end EntryAdded

end Semogakelar.Fat32
