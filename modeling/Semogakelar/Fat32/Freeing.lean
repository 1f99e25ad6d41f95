import Semogakelar.Fat32.Read

/-! Deletion walks the chain of an entry and frees it cluster by cluster. -/

namespace Semogakelar.Fat32

open Library Function FileSystem

def freeClusters (l : List UInt32) (fs : FileSystem) : FileSystem :=
  l.foldl (fun fs c => { fs with
    driver := fs.driver.setWord c.toNat fatEmptyEntry
    disk := writeClusters fs.disk c (fun _ => 0) }) fs

def deleted (fs : FileSystem) (request : DriverRequest) (i : Fin 64) (l : List UInt32) : FileSystem :=
  let freed := freeClusters l fs
  { freed with
    disk := writeClusters (writeClusters freed.disk request.parentClusterNumber
      (tableEquiv.symm (update (fs.table request.parentClusterNumber) i .zero))) fatClusterNumber
      (mapEquiv.symm freed.driver.fatTable) }

variable {fs : FileSystem} {request : DriverRequest} {i : Fin 64} {l : List UInt32} {c : UInt32}

lemma freeClusters_cons (a : UInt32) (l : List UInt32) (fs : FileSystem) :
    freeClusters (a :: l) fs = freeClusters l { fs with
      driver := fs.driver.setWord a.toNat fatEmptyEntry
      disk := writeClusters fs.disk a (fun _ => 0) } := rfl

lemma cell_setWord {a : UInt32} (ha : a.toNat < 512) (v : UInt32) (d : DriverState) :
    cell (d.setWord a.toNat v).fatTable c = if c = a then v else cell d.fatTable c := by
  rw [DriverState.fatTable_setWord_of_lt ha, cell_update]
  simp

lemma freeClusters_cell (hl : ∀ a ∈ l, a.toNat < 512) :
    cell (freeClusters l fs).driver.fatTable c = if c ∈ l then fatEmptyEntry else cell fs.driver.fatTable c := by
  induction l generalizing fs with
  | nil => simp [freeClusters]
  | cons a l ih =>
    rw [freeClusters_cons, ih fun b hb => hl b (List.mem_cons_of_mem _ hb)]
    simp only
    rw [cell_setWord (hl a List.mem_cons_self)]
    by_cases hm : c ∈ l <;> by_cases ha : c = a <;> simp [hm, ha]

lemma freeClusters_read (hl : ∀ a ∈ l, a.toNat < 512) (hc : c.toNat < 2 ^ 26) (hm : c ∉ l) :
    readClusters (freeClusters l fs).disk c = readClusters fs.disk c := by
  induction l generalizing fs with
  | nil => rfl
  | cons a l ih =>
    rw [List.mem_cons, not_or] at hm
    have ha := hl a List.mem_cons_self
    rw [freeClusters_cons, ih (fun b hb => hl b (List.mem_cons_of_mem _ hb)) hm.2]
    exact read_write_ne _ _ (by omega) hc hm.1

lemma freePartitions_eq {a : UInt32} (h : Chain fs.volume.link a l) (hu : ∀ c ∈ l, Usable c) {fuel : ℕ}
    (hf : l.length ≤ fuel) :
    ∃ m z, l = m ++ [z] ∧ freePartitions fuel a fs = .returned z (freeClusters m fs) := by
  induction l generalizing a fs fuel with
  | nil => exact (h.ne_nil rfl).elim
  | cons b l ih =>
    obtain ⟨fuel, rfl⟩ : ∃ n, fuel = n + 1 := ⟨fuel - 1, by simp only [List.length_cons] at hf; omega⟩
    have ha := hu b List.mem_cons_self
    have hnodup := h.nodup
    cases h with
    | last hlast =>
      refine ⟨[], b, rfl, ?_⟩
      rw [freePartitions, word_of_usable ha, cell_of_link_last hlast]
      simp only
      rw [if_pos trivial]
      rfl
    | @next _ b' _ hnext ht =>
      have hne : b' ≠ fatEndOfFile := (hu b' (List.mem_cons_of_mem _ ht.head_mem)).ne_end
      set fs₁ : FileSystem := { fs with
        driver := fs.driver.setWord b.toNat fatEmptyEntry
        disk := writeClusters fs.disk b (fun _ => 0) } with hfs
      have hchain : Chain fs₁.volume.link b' l := by
        refine ht.congr fun c hc => ?_
        rw [volume_link, volume_link, hfs, cell_setWord ha.lt, if_neg]
        rintro rfl
        exact (List.nodup_cons.mp hnodup).1 hc
      obtain ⟨m, z, rfl, he⟩ := ih hchain (fun c hc => hu c (List.mem_cons_of_mem _ hc))
        (Nat.le_of_succ_le_succ hf)
      refine ⟨b :: m, z, rfl, ?_⟩
      rw [freePartitions, word_of_usable ha, cell_of_link_next hnext]
      simp only
      rw [if_neg hne, freeClusters_cons, ← hfs, he]

lemma clearEntry_eq (m : List UInt32) {z : UInt32} (hz : z.toNat < 512) :
    clearEntry (freeClusters m fs) request (fs.table request.parentClusterNumber) i z =
      .returned 0 (deleted fs request i (m ++ [z])) := by
  rw [clearEntry]
  simp only
  rw [if_pos (by omega), deleted, freeClusters, freeClusters, List.foldl_append]
  rfl

lemma deleted_cell (hl : ∀ a ∈ l, a.toNat < 512) : cell (deleted fs request i l).driver.fatTable c =
    if c ∈ l then fatEmptyEntry else cell fs.driver.fatTable c := freeClusters_cell hl

lemma deleted_cached : (deleted fs request i l).driver.fatTable =
    mapEquiv (readClusters (deleted fs request i l).disk fatClusterNumber) := by
  rw [deleted]
  simp only
  rw [read_write_self, Equiv.apply_symm_apply]

section

variable (hw : fs.WellFormed) (hp : fs.volume.IsDir request.parentClusterNumber)
include hw hp

lemma deleted_parent : (deleted fs request i l).table request.parentClusterNumber =
    update (fs.table request.parentClusterNumber) i .zero := by
  rw [FileSystem.table, deleted]
  simp only
  rw [read_write_ne _ _ (by decide) (hw.dir_lt_device hp) (hw.dir_ne_fat hp), read_write_self,
    Equiv.apply_symm_apply]

lemma deleted_frame (hl : ∀ a ∈ l, a.toNat < 512) : SameOutside fs (deleted fs request i l)
    (fatClusterNumber :: request.parentClusterNumber :: l) := by
  intro c hc hm
  rw [List.mem_cons, List.mem_cons, not_or, not_or] at hm
  rw [deleted]
  simp only
  rw [read_write_ne _ _ (by decide) hc hm.1, read_write_ne _ _ (hw.dir_lt_device hp) hc hm.2.1,
    freeClusters_read hl hc hm.2.2]

lemma deleted_others (hl : ∀ a ∈ l, a.toNat < 512) {d : UInt32} (hd : Usable d ∨ d = rootClusterNumber)
    (hm : d ∉ l) (hne : d ≠ request.parentClusterNumber) : (deleted fs request i l).table d = fs.table d := by
  have hlt : d.toNat < 512 ∧ d ≠ fatClusterNumber := by
    rcases hd with hd | rfl
    · exact ⟨hd.lt, hd.ne_fat⟩
    · decide
  refine (deleted_frame hw hp hl).table (by omega) ?_
  rw [List.mem_cons, List.mem_cons, not_or, not_or]
  exact ⟨hlt.2, hne, hm⟩

lemma deleted_added (hi : 2 ≤ i.val) (hlive : (fs.table request.parentClusterNumber i).Live)
    (hchain : Chain fs.volume.link (fs.table request.parentClusterNumber i).clusterNumber l)
    (hfresh : (fs.table request.parentClusterNumber i).IsFolder →
      ∀ t : Fin 64, 2 ≤ t.val → fs.table (fs.table request.parentClusterNumber i).clusterNumber t = .zero) :
    EntryAdded (deleted fs request i l) fs request.parentClusterNumber i
      (fs.table request.parentClusterNumber i) l := by
  obtain ⟨hlen, hu⟩ := hw.sound.entry_chain ⟨hp, item_of_live hi hlive⟩ hchain
  have hl : ∀ a ∈ l, a.toNat < 512 := fun a ha => (hu a ha).lt
  exact {
    slot := hi
    before := by rw [deleted_parent hw hp, update_self]
    live := hlive
    parent := by rw [deleted_parent hw hp, update_idem, update_eq_self]
    others := fun d hd hm hne => (deleted_others hw hp hl hd hm hne).symm
    fresh := hfresh
    free := fun c hc => by rw [deleted_cell hl, if_pos hc]
    linked := fun c hc => by rw [deleted_cell hl, if_neg hc]
    chain := hchain
    length := hlen
    usable := hu }

end

end Semogakelar.Fat32
