import Semogakelar.Fat32.Delete

/-! What a successful write or deletion leaves alone: every other file, every other slot, every other directory. -/

namespace Semogakelar.Fat32

open Library Function FileSystem

structure FileKept (fs fs' : FileSystem) (d : UInt32) (s : Fin 64) : Prop where
  isDir : fs'.volume.IsDir d
  entry : fs'.table d s = fs.table d s
  contents : ∃ m, Chain fs.volume.link (fs.table d s).clusterNumber m ∧
    Chain fs'.volume.link (fs.table d s).clusterNumber m ∧
    (∀ c ∈ m, readClusters fs'.disk c = readClusters fs.disk c) ∧
    ∀ t fuel, m.length < fuel → readPartitions fs' fuel (fs.table d s).clusterNumber t =
      readPartitions fs fuel (fs.table d s).clusterNumber t

structure Untouched (fs fs' : FileSystem) (p : UInt32) (i : Fin 64) (e : DirectoryEntry) : Prop where
  files : ∀ {d : UInt32} {s : Fin 64}, fs.volume.IsDir d → 2 ≤ s.val → (fs.table d s).Live →
    ¬ (fs.table d s).IsFolder → ¬ (d = p ∧ s = i) → FileKept fs fs' d s
  slots : ∀ j : Fin 64, j ≠ i → fs'.table p j = fs.table p j
  tables : ∀ {d : UInt32}, fs.volume.IsDir d → d ≠ p → ¬ (e.IsFolder ∧ d = e.clusterNumber) →
    fs'.volume.IsDir d ∧ readClusters fs'.disk d = readClusters fs.disk d
  boot : readClusters fs'.disk bootSector = readClusters fs.disk bootSector

variable {img : KernelImage} {fs fs' : FileSystem} {request : DriverRequest} {i : Fin 64} {p d : UInt32}
  {l m : List UInt32}

lemma Transfer.copyAll_congr (t : Transfer) {disk disk' : Disk}
    (h : ∀ c ∈ m, readClusters disk' c = readClusters disk c) : t.copyAll disk' m = t.copyAll disk m := by
  induction m generalizing t with
  | nil => rfl
  | cons c m ih =>
    have hc : t.copy disk' c = t.copy disk c := by simp only [Transfer.copy, h c List.mem_cons_self]
    rw [copyAll, copyAll, List.foldl_cons, List.foldl_cons, hc, ← copyAll, ← copyAll]
    exact ih _ fun b hb => h b (List.mem_cons_of_mem _ hb)

lemma fileKept_of_chain (hw : fs.WellFormed) (hp : fs.volume.IsDir p) {s : Fin 64} (hd : fs.volume.IsDir d)
    (hs : 2 ≤ s.val) (hlive : (fs.table d s).Live) (hfile : ¬ (fs.table d s).IsFolder)
    (hframe : SameOutside fs fs' (fatClusterNumber :: p :: l)) (hd' : fs'.volume.IsDir d)
    (he : fs'.table d s = fs.table d s) (hm : Chain fs.volume.link (fs.table d s).clusterNumber m)
    (hm' : Chain fs'.volume.link (fs.table d s).clusterNumber m) (hl : ∀ c ∈ m, c ∉ l) : FileKept fs fs' d s := by
  have hentry := And.intro hd (item_of_live hs hlive)
  have hu := (hw.sound.entry_chain hentry hm).2
  have hsame : ∀ c ∈ m, readClusters fs'.disk c = readClusters fs.disk c := by
    intro c hc
    have hlt := (hu c hc).lt
    refine hframe c (by omega) ?_
    rw [List.mem_cons, List.mem_cons, not_or, not_or]
    refine ⟨(hu c hc).ne_fat, ?_, hl c hc⟩
    rintro rfl
    exact hfile (of_decide_eq_true (hw.sound.dir_in_chain hp hentry hm hc).1)
  refine ⟨hd', he, m, hm, hm', hsame, fun t fuel hfuel => ?_⟩
  rw [readPartitions_eq hm' hu t hfuel, readPartitions_eq hm hu t hfuel, Transfer.copyAll_congr t hsame]

lemma SameOutside.dir (hw : fs.WellFormed) (h : SameOutside fs fs' (fatClusterNumber :: p :: l))
    (hd : fs.volume.IsDir d) (hne : d ≠ p) (hl : d ∉ l) : readClusters fs'.disk d = readClusters fs.disk d := by
  refine h d (hw.dir_lt_device hd) ?_
  rw [List.mem_cons, List.mem_cons, not_or, not_or]
  exact ⟨hw.dir_ne_fat hd, hne, hl⟩

section

variable (hw : fs.WellFormed) (hp : fs.volume.IsDir request.parentClusterNumber)
include hw hp

lemma Written.untouched {e : DirectoryEntry} (h : Written fs fs' request i e l) :
    Untouched fs fs' request.parentClusterNumber i e where
  files := by
    intro d s hd hs hlive hfile hne
    obtain ⟨m, hm, -⟩ := hw.sound.chain ⟨hd, item_of_live hs hlive⟩
    have hl : ∀ c ∈ m, c ∉ l := fun c hc hcl => hm.not_free c hc (h.added.adds.free c hcl)
    have hd' : fs'.volume.IsDir d := by
      obtain ⟨q, hq⟩ := hd
      exact (h.dir hw hp hq).isDir
    exact fileKept_of_chain hw hp hd hs hlive hfile h.frame hd'
      (h.added.table_slot (hw.sound.dir_usable hd) (h.added.not_mem hw hd) s hne) hm
      (hm.congr fun c hc => h.added.adds.linked c (hl c hc)) hl
  slots := by
    intro j hj
    rw [h.added.parent, update_of_ne hj]
  tables := by
    intro d hd hne _
    refine ⟨?_, h.frame.dir hw hd hne (h.added.not_mem hw hd)⟩
    obtain ⟨q, hq⟩ := hd
    exact (h.dir hw hp hq).isDir
  boot := h.boot hw hp

lemma Removed.untouched (h : Removed fs fs' request i l) :
    Untouched fs fs' request.parentClusterNumber i (fs.table request.parentClusterNumber i) where
  files := by
    intro d s hd hs hlive hfile hne
    have hentry := And.intro hd (item_of_live hs hlive)
    obtain ⟨m, hm, -⟩ := hw.sound.chain hentry
    have hmem := h.added.adds.not_mem_of_item hw.sound hp hd hentry.2
    have hl : ∀ c ∈ m, c ∉ l := fun c hc hcl => hne <|
      hw.sound.disjoint ⟨_, m, hentry, hm, hc⟩ ⟨_, l, h.added.adds.entry_after hp, h.added.adds.chain, hcl⟩
    have hd' : fs'.volume.IsDir d := by
      obtain ⟨q, hq⟩ := hd
      exact ((h.added.adds.dir_iff_of_after hw.sound hp).mpr ⟨hq, hmem⟩).isDir
    exact fileKept_of_chain hw hp hd hs hlive hfile h.frame hd'
      (h.added.table_slot (hw.sound.dir_usable hd) hmem s hne).symm hm
      (h.added.adds.chain_kept_of_after hw.sound hp hentry hne hm) hl
  slots := by
    intro j hj
    rw [h.added.parent, update_of_ne hj]
  tables := by
    intro d hd hne hnd
    have hmem : d ∉ l := by
      intro hl
      obtain ⟨hf, rfl⟩ := hw.sound.dir_in_chain hd (h.added.adds.entry_after hp) h.added.adds.chain hl
      exact hnd ⟨of_decide_eq_true hf, rfl⟩
    refine ⟨?_, h.frame.dir hw hd hne hmem⟩
    obtain ⟨q, hq⟩ := hd
    exact ((h.added.adds.dir_iff_of_after hw.sound hp).mpr ⟨hq, hmem⟩).isDir
  boot := h.boot hw hp

end

lemma freePartitions_mono {fuel n : ℕ} {a z : UInt32} (h : freePartitions fuel a fs = .returned z fs')
    (hle : fuel ≤ n) : freePartitions n a fs = .returned z fs' := by
  induction fuel generalizing a fs n with
  | zero => cases h
  | succ fuel ih =>
    obtain ⟨n, rfl⟩ : ∃ k, n = k + 1 := ⟨n - 1, by omega⟩
    rw [freePartitions] at h ⊢
    cases hword : fs.driver.word a.toNat with
    | none =>
      rw [hword] at h
      cases h
    | some next =>
      rw [hword] at h
      simp only at h ⊢
      split_ifs at h ⊢ with hend
      · exact h
      · exact ih h (Nat.le_of_succ_le_succ hle)

lemma delete_mono {fuel n : ℕ} {code : ℤ} (h : delete fuel fs request = .returned code fs') (hle : fuel ≤ n) :
    delete n fs request = .returned code fs' := by
  rw [delete] at h ⊢
  simp only at h ⊢
  split_ifs at h ⊢ with hpar
  · exact h
  · cases hm : findEntry (fs.table request.parentClusterNumber) request with
    | none =>
      rw [hm] at h
      exact h
    | some i =>
      rw [hm] at h
      simp only at h ⊢
      split_ifs at h ⊢ with hf
      · exact h
      · cases hfree : freePartitions fuel (fs.table request.parentClusterNumber i).clusterNumber fs with
        | returned z fs₁ =>
          rw [hfree] at h
          rw [freePartitions_mono hfree hle]
          exact h
        | outside fs₁ =>
          rw [hfree] at h
          cases h
        | running fs₁ =>
          rw [hfree] at h
          cases h

theorem write_delete_untouched (hw : fs.WellFormed) (hp : fs.volume.IsDir request.parentClusterNumber) :
    (∀ fs', write img fs request = .returned 0 fs' →
      (request.bufferSize.toNat + 2047) / 2048 ≤ (emptyClusters fs.driver.fatTable).length →
      ∃ i, FirstFree (fs.table request.parentClusterNumber) i ∧
        Untouched fs fs' request.parentClusterNumber i (fs'.table request.parentClusterNumber i)) ∧
    ∀ fuel fs', delete fuel fs request = .returned 0 fs' →
      ∀ i, FirstMatch (fs.table request.parentClusterNumber) request i → 2 ≤ i.val →
        (fs.table request.parentClusterNumber i).Live →
        Untouched fs fs' request.parentClusterNumber i (fs.table request.parentClusterNumber i) := by
  constructor
  · intro fs' hwr hn
    rw [← numberOfPartition_eq] at hn
    obtain ⟨i, e, l, hh⟩ := write_written hw hp (not_overcommits_of_fits hn) hwr
    refine ⟨i, hh.slot, ?_⟩
    rw [hh.added.slot_self]
    exact hh.untouched hw hp
  · intro fuel fs' hdel i hm hi hlive
    rcases delete_live hw hp hm hi hlive with ⟨-, hr⟩ | ⟨-, l, hr, hrem⟩
    · cases (hr fuel).symm.trans hdel
    · have he := (hr (max fuel l.length) (le_max_right _ _)).symm.trans (delete_mono hdel (le_max_left _ _))
      obtain rfl := (Outcome.returned.inj he).2
      exact hrem.untouched hw hp

def noteRequest : DriverRequest :=
  ⟨fun _ => 1, ![0x6E, 0x6F, 0x74, 0x65, 0, 0, 0, 0], fun _ => 0, rootClusterNumber, 1⟩

lemma fill_slot : (nearlyFull.table rootClusterNumber 2).Live ∧
    ¬ (nearlyFull.table rootClusterNumber 2).IsFolder := by
  rw [show nearlyFull.table rootClusterNumber 2 = fileEntry formatted fillRequest 2 3 from
    nearlyFull_written.added.slot_self]
  exact ⟨rfl, file_not_folder⟩

section Beside

variable {e : DirectoryEntry} (h : fs.table rootClusterNumber = update (nearlyFull.table rootClusterNumber) 3 e)
include h

lemma fill_beside : fs.table rootClusterNumber 2 = nearlyFull.table rootClusterNumber 2 := by
  rw [h, update_of_ne (by decide)]

lemma fill_first_beside : FirstMatch (fs.table rootClusterNumber) fillRequest 2 := by
  obtain ⟨hname, hext, hbefore⟩ := fill_first
  rw [← fill_beside h] at hname hext
  refine ⟨hname, hext, fun j hj => ?_⟩
  rw [h, update_of_ne (hj.trans (by decide)).ne]
  exact hbefore j hj

lemma delete_fill_beside (hw : fs.WellFormed) : ∃ enough fs', delete enough fs fillRequest = .returned 0 fs' := by
  have hp : fs.volume.IsDir fillRequest.parentClusterNumber := Volume.isDir_root
  have hslot : fs.table fillRequest.parentClusterNumber 2 = nearlyFull.table rootClusterNumber 2 := fill_beside h
  have hfirst : FirstMatch (fs.table fillRequest.parentClusterNumber) fillRequest 2 := fill_first_beside h
  have hlive : (fs.table fillRequest.parentClusterNumber 2).Live := by
    rw [hslot]
    exact fill_slot.1
  obtain ⟨hoccupied, -⟩ | ⟨-, l, hdel, -⟩ := delete_live hw hp hfirst (by decide) hlive
  · have hfolder := hoccupied.1
    rw [hslot] at hfolder
    exact (fill_slot.2 hfolder).elim
  · exact ⟨_, _, hdel _ le_rfl⟩

end Beside

theorem write_delete_untouched_nearlyFull : ∃ fs' fs'' enough,
    write plainImage nearlyFull noteRequest = .returned 0 fs' ∧ FileKept nearlyFull fs' rootClusterNumber 2 ∧
    delete enough fs' fillRequest = .returned 0 fs'' ∧ FileKept fs' fs'' rootClusterNumber 3 := by
  have hw := nearlyFull_written.wellFormed
  have hp : nearlyFull.volume.IsDir noteRequest.parentClusterNumber := Volume.isDir_root
  have ha : Accepted nearlyFull noteRequest 3 := nearlyFull_accepts rfl (by decide) (by decide)
  have hn : (noteRequest.bufferSize.toNat + 2047) / 2048 ≤ (emptyClusters nearlyFull.driver.fatTable).length := by
    rw [nearlyFull_empty]
    decide
  obtain ⟨fs', hwr⟩ : ∃ fs', write plainImage nearlyFull noteRequest = .returned 0 fs' := by
    obtain ⟨k, l, -, hwr⟩ := write_fits hw plainImage ha (by decide) (by rwa [numberOfPartition_eq])
    exact ⟨_, hwr⟩
  obtain ⟨i, e, l, hnote⟩ := write_written hw hp (not_overcommits_of_fits (by rwa [numberOfPartition_eq])) hwr
  obtain rfl := ha.slot.unique hnote.slot
  obtain ⟨enough, fs'', hdel⟩ := delete_fill_beside hnote.added.parent hnote.wellFormed
  obtain ⟨i, hi, hwritten⟩ := (write_delete_untouched hw hp).1 _ hwr hn
  obtain rfl := ha.slot.unique hi
  have hp' : fs'.volume.IsDir fillRequest.parentClusterNumber := Volume.isDir_root
  have hfill : (fs'.table rootClusterNumber 2).Live := by
    rw [fill_beside hnote.added.parent]
    exact fill_slot.1
  have hdeleted := (@write_delete_untouched plainImage _ _ hnote.wellFormed hp').2 _ _ hdel 2
    (fill_first_beside hnote.added.parent) (by decide) hfill
  have hslot : fs'.table rootClusterNumber 3 = e := hnote.added.slot_self
  refine ⟨fs', fs'', enough, hwr, hwritten.files hp (by decide) fill_slot.1 fill_slot.2 (by decide), hdel,
    hdeleted.files hp' (by decide) ?_ ?_ (by decide)⟩
  · rw [hslot]
    exact hnote.added.live
  · rw [hslot, DirectoryEntry.IsFolder, hnote.attr]
    decide

end Semogakelar.Fat32
