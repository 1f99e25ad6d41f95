import Semogakelar.Fat32.Delete

/-! Deleting what has just been written brings the map and the directory back. -/

namespace Semogakelar.Fat32

open Library Function FileSystem

variable {img : KernelImage} {fs fs₁ : FileSystem} {request erase : DriverRequest} {i : Fin 64}
  {e : DirectoryEntry} {l : List UInt32} {c : UInt32}

lemma freeClusters_zero (hl : ∀ a ∈ l, a.toNat < 512) (hc : c ∈ l) :
    readClusters (freeClusters l fs).disk c = fun _ => 0 := by
  induction l generalizing fs with
  | nil => cases hc
  | cons a l ih =>
    have htail : ∀ b ∈ l, b.toNat < 512 := fun b hb => hl b (List.mem_cons_of_mem _ hb)
    rw [freeClusters_cons]
    by_cases hm : c ∈ l
    · exact ih htail hm
    · obtain rfl : c = a := (List.mem_cons.mp hc).resolve_right hm
      have hlt := hl c List.mem_cons_self
      rw [freeClusters_read htail (by omega) hm]
      exact read_write_self _ _ _

lemma deleted_zero (hw : fs.WellFormed) (hp : fs.volume.IsDir request.parentClusterNumber) (hl : ∀ a ∈ l, Usable a)
    (hc : c ∈ l) (hne : c ≠ request.parentClusterNumber) :
    readClusters (deleted fs request i l).disk c = fun _ => 0 := by
  have hu := hl c hc
  have hlt := hu.lt
  rw [deleted]
  simp only
  rw [read_write_ne _ _ (by decide) (by omega) hu.ne_fat, read_write_ne _ _ (hw.dir_lt_device hp) (by omega) hne]
  exact freeClusters_zero (fun a ha => (hl a ha).lt) hc

def Taken (fs fs₁ : FileSystem) (c : UInt32) : Prop :=
  cell fs.driver.fatTable c = fatEmptyEntry ∧ cell fs₁.driver.fatTable c ≠ fatEmptyEntry

namespace Written

variable (h : Written fs fs₁ request i e l)
include h

lemma taken_iff : Taken fs fs₁ c ↔ c ∈ l := by
  constructor
  · intro ht
    by_contra hm
    exact ht.2 ((h.added.linked c hm).trans ht.1)
  · intro hm
    refine ⟨h.added.free c hm, ?_⟩
    have hne := h.added.chain.not_free c hm
    rwa [volume_link, Ne, linkOf_eq_free] at hne

lemma firstMatch (hname : erase.name = request.name) (hext : erase.ext = request.ext)
    (hfresh : ∀ j : Fin 64, ¬ ((fs.table request.parentClusterNumber j).name = request.name ∧
      (fs.table request.parentClusterNumber j).ext = request.ext)) :
    FirstMatch (fs₁.table request.parentClusterNumber) erase i := by
  refine ⟨?_, ?_, ?_⟩
  · rw [h.added.slot_self, h.name, hname]
  · rw [h.added.slot_self, h.ext, hext]
  · intro j hj hm
    rw [h.added.parent, update_of_ne hj.ne, hname, hext] at hm
    exact hfresh j hm

lemma folder_clusters (hf : e.IsFolder) : l = [e.clusterNumber] := by
  have hlen := h.added.length
  rw [DirectoryEntry.blocks_of_folder hf] at hlen
  obtain ⟨a, rfl⟩ := List.length_eq_one_iff.mp hlen
  rw [List.mem_singleton.mp h.added.chain.head_mem]

lemma delete_eq (hp : fs₁.volume.IsDir erase.parentClusterNumber)
    (hpe : erase.parentClusterNumber = request.parentClusterNumber)
    (hm : FirstMatch (fs₁.table erase.parentClusterNumber) erase i) {fuel : ℕ} (hfuel : l.length ≤ fuel) :
    delete fuel fs₁ erase = .returned 0 (deleted fs₁ erase i l) := by
  have hslot : fs₁.table erase.parentClusterNumber i = e := by rw [hpe, h.added.slot_self]
  have hpar : (fs₁.table erase.parentClusterNumber 0).IsFolder := by
    obtain ⟨q, hq⟩ := hp
    exact (h.wellFormed.self hq).folder
  by_cases hf : e.IsFolder
  · have hl := h.folder_clusters hf
    have hlt : e.clusterNumber.toNat < 512 := (h.added.usable _ h.added.chain.head_mem).lt
    have hd := delete_of_empty fuel hpar hm (by rwa [hslot]) (by rwa [hslot]) ?_
    · rwa [hslot, ← hl] at hd
    · intro j hj
      rw [hslot, h.added.fresh hf j hj]
      exact EntryAdded.not_live_zero
  · apply delete_of_file fuel hpar hm (by rwa [hslot]) ?_ h.added.usable hfuel
    rw [hslot]
    exact h.added.chain

end Written

structure Restored (fs fs₁ fs₂ : FileSystem) : Prop where
  cached : fs₂.driver.fatTable = fs.driver.fatTable
  zeroed : ∀ c, c.toNat < 2 ^ 26 → Taken fs fs₁ c → readClusters fs₂.disk c = fun _ => 0
  others : ∀ c, c.toNat < 2 ^ 26 → ¬ Taken fs fs₁ c → readClusters fs₂.disk c = readClusters fs.disk c

lemma Written.deleted_cached_eq (h : Written fs fs₁ request i e l) :
    (deleted fs₁ erase i l).driver.fatTable = fs.driver.fatTable := by
  funext j
  rw [← cell_ofNat (deleted fs₁ erase i l).driver.fatTable j, ← cell_ofNat fs.driver.fatTable j,
    deleted_cell fun a ha => (h.added.usable a ha).lt]
  split_ifs with hm
  · exact (h.added.free _ hm).symm
  · exact h.added.linked _ hm

lemma Written.deleted_fat (h : Written fs fs₁ request i e l) (hw : fs.WellFormed) :
    readClusters (deleted fs₁ erase i l).disk fatClusterNumber = readClusters fs.disk fatClusterNumber := by
  apply mapEquiv.injective
  rw [← deleted_cached, h.deleted_cached_eq, hw.cached]

section

variable (h : Written fs fs₁ request i e l) (hw : fs.WellFormed) (hp : fs.volume.IsDir request.parentClusterNumber)
  (hpe : erase.parentClusterNumber = request.parentClusterNumber)
include h hw hp hpe

lemma Written.isDir_after : fs₁.volume.IsDir erase.parentClusterNumber := by
  obtain ⟨q, hq⟩ := hp
  rw [hpe]
  exact ⟨q, h.dir hw ⟨q, hq⟩ hq⟩

lemma Written.deleted_table :
    (deleted fs₁ erase i l).table request.parentClusterNumber = fs.table request.parentClusterNumber := by
  rw [← hpe, deleted_parent h.wellFormed (h.isDir_after hw hp hpe), hpe, h.added.parent, update_idem,
    ← h.added.before, update_eq_self]

lemma Written.restored : Restored fs fs₁ (deleted fs₁ erase i l) := by
  have hp₁ := h.isDir_after hw hp hpe
  refine ⟨h.deleted_cached_eq, ?_, ?_⟩
  · intro c _ ht
    have hm := h.taken_iff.mp ht
    apply deleted_zero h.wellFormed hp₁ h.added.usable hm
    rintro rfl
    exact h.added.not_mem hw hp (hpe ▸ hm)
  · intro c hc ht
    have hm : c ∉ l := fun hm => ht (h.taken_iff.mpr hm)
    by_cases hfat : c = fatClusterNumber
    · rw [hfat]
      exact h.deleted_fat hw
    by_cases hpar : c = request.parentClusterNumber
    · rw [hpar]
      exact tableEquiv.injective (h.deleted_table hw hp hpe)
    have hout : c ∉ fatClusterNumber :: request.parentClusterNumber :: l := by
      rw [List.mem_cons, List.mem_cons, not_or, not_or]
      exact ⟨hfat, hpar, hm⟩
    calc readClusters (deleted fs₁ erase i l).disk c
        = readClusters fs₁.disk c :=
          deleted_frame h.wellFormed hp₁ (fun a ha => (h.added.usable a ha).lt) c hc (hpe ▸ hout)
      _ = readClusters fs.disk c := h.frame c hc hout

end

theorem delete_undoes_write (hw : fs.WellFormed) (hp : fs.volume.IsDir request.parentClusterNumber)
    (hfresh : ∀ j : Fin 64, ¬ ((fs.table request.parentClusterNumber j).name = request.name ∧
      (fs.table request.parentClusterNumber j).ext = request.ext))
    (hn : (request.bufferSize.toNat + 2047) / 2048 ≤ (emptyClusters fs.driver.fatTable).length)
    (hwr : write img fs request = .returned 0 fs₁)
    (hpe : erase.parentClusterNumber = request.parentClusterNumber) (hname : erase.name = request.name)
    (hext : erase.ext = request.ext) :
    ∃ fs₂ enough, (∀ fuel, enough ≤ fuel → delete fuel fs₁ erase = .returned 0 fs₂) ∧
      fs₂.driver.fatTable = fs.driver.fatTable ∧
      readClusters fs₂.disk fatClusterNumber = readClusters fs.disk fatClusterNumber ∧
      fs₂.table request.parentClusterNumber = fs.table request.parentClusterNumber ∧
      (∀ c, c.toNat < 2 ^ 26 → Taken fs fs₁ c → readClusters fs₂.disk c = fun _ => 0) ∧
      ∀ c, c.toNat < 2 ^ 26 → ¬ Taken fs fs₁ c → readClusters fs₂.disk c = readClusters fs.disk c := by
  rw [← numberOfPartition_eq] at hn
  obtain ⟨i, e, l, h⟩ := write_written hw hp (not_overcommits_of_fits hn) hwr
  have hm : FirstMatch (fs₁.table erase.parentClusterNumber) erase i := by
    rw [hpe]
    exact h.firstMatch hname hext hfresh
  have hr := h.restored hw hp hpe
  exact ⟨deleted fs₁ erase i l, l.length, fun fuel hfuel => h.delete_eq (h.isDir_after hw hp hpe) hpe hm hfuel,
    hr.cached, h.deleted_fat hw, h.deleted_table hw hp hpe, hr.zeroed, hr.others⟩

theorem delete_undoes_write_hello : ∃ fs₁ fs₂ enough, write plainImage formatted helloRequest = .returned 0 fs₁ ∧
    (∀ fuel, enough ≤ fuel → delete fuel fs₁ helloRequest = .returned 0 fs₂) ∧
    fs₂.driver.fatTable = formatted.driver.fatTable := by
  have ha : Accepted formatted helloRequest 2 := formatted_accepts rfl (by decide)
  obtain ⟨k, l, -, hwr⟩ := write_fits formatted_wellFormed plainImage ha (by decide)
    (by rw [numberOfPartition_eq]; exact hello_fits)
  have hfresh : ∀ j : Fin 64, ¬ ((formatted.table helloRequest.parentClusterNumber j).name = helloRequest.name ∧
      (formatted.table helloRequest.parentClusterNumber j).ext = helloRequest.ext) := by
    intro j hm
    rcases formatted_name j with hn | hn
    · exact absurd (hn.symm.trans hm.1) (by decide)
    · exact absurd (hn.symm.trans hm.1) (by decide)
  obtain ⟨fs₂, enough, hd, hc, -⟩ :=
    delete_undoes_write formatted_wellFormed formatted_isDir hfresh hello_fits hwr rfl rfl rfl
  exact ⟨_, fs₂, enough, hwr, hd, hc⟩

end Semogakelar.Fat32
