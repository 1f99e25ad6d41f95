import Semogakelar.Fat32.Freeing

/-! The outcome of `Delete`, and the deletions after which the volume is still well-formed. -/

namespace Semogakelar.Fat32

open Library Function FileSystem

lemma clusterLow_eq {e : DirectoryEntry} (h : e.clusterNumber.toNat < 65536) :
    e.clusterLow.toUInt32 = e.clusterNumber := by
  have hlow := e.clusterLow.toNat_lt
  have hhigh := e.clusterHigh.toNat_lt
  have hs : e.clusterHigh.toNat <<< 16 < 2 ^ 32 := by
    rw [Nat.shiftLeft_eq]
    omega
  have ht : e.clusterNumber.toNat = e.clusterHigh.toNat * 65536 + e.clusterLow.toNat := by
    simp only [DirectoryEntry.clusterNumber, UInt32.toNat_or, UInt32.toNat_shiftLeft, UInt16.toNat_toUInt32,
      UInt32.reduceToNat]
    rw [Nat.mod_eq_of_lt (a := _ <<< _) hs, ← Nat.shiftLeft_add_eq_or_of_lt (by omega), Nat.shiftLeft_eq]
  apply UInt32.toNat_inj.mp
  rw [UInt16.toNat_toUInt32, ht]
  omega

lemma findChild_eq_none {t : DirectoryTable} : findChild t = none ↔ ∀ j : Fin 64, 2 ≤ j.val → ¬ (t j).Live := by
  rw [findChild, Fin.find?_eq_none_iff]
  refine forall_congr' fun j => ?_
  rw [Bool.eq_false_iff, Ne, Bool.and_eq_true, decide_eq_true_eq, beq_iff_eq, not_and]
  rfl

variable {fs fs' : FileSystem} {request : DriverRequest} {i : Fin 64}

section

variable (fuel : ℕ) (hpar : (fs.table request.parentClusterNumber 0).IsFolder)
include hpar

lemma delete_of_none (hm : findEntry (fs.table request.parentClusterNumber) request = none) :
    delete fuel fs request = .returned 1 fs := by
  have hpar : ¬ (fs.table request.parentClusterNumber 0).attr ≠ attrSubdirectory := not_not.mpr hpar
  rw [delete]
  simp only
  rw [if_neg hpar, hm]

variable (hm : FirstMatch (fs.table request.parentClusterNumber) request i)
include hm

lemma delete_of_match : delete fuel fs request =
    if (fs.table request.parentClusterNumber i).IsFolder then
      match findChild (fs.table (fs.table request.parentClusterNumber i).clusterLow.toUInt32) with
      | some _ => .returned 2 fs
      | none => clearEntry fs request (fs.table request.parentClusterNumber) i
          (fs.table request.parentClusterNumber i).clusterNumber
    else
      match freePartitions fuel (fs.table request.parentClusterNumber i).clusterNumber fs with
      | .returned z fs' => clearEntry fs' request (fs.table request.parentClusterNumber) i z
      | .outside fs' => .outside fs'
      | .running fs' => .running fs' := by
  have hpar : ¬ (fs.table request.parentClusterNumber 0).attr ≠ attrSubdirectory := not_not.mpr hpar
  rw [delete]
  simp only
  rw [if_neg hpar, findEntry_eq_some.mpr hm]
  rfl

lemma delete_of_full {j : Fin 64} (hf : (fs.table request.parentClusterNumber i).IsFolder)
    (hc : (fs.table request.parentClusterNumber i).clusterNumber.toNat < 512) (hj : 2 ≤ j.val)
    (hlive : (fs.table (fs.table request.parentClusterNumber i).clusterNumber j).Live) :
    delete fuel fs request = .returned 2 fs := by
  rw [delete_of_match fuel hpar hm, if_pos hf, clusterLow_eq (by omega)]
  cases hk : findChild (fs.table (fs.table request.parentClusterNumber i).clusterNumber) with
  | none => exact (findChild_eq_none.mp hk j hj hlive).elim
  | some k => rfl

lemma delete_of_empty (hf : (fs.table request.parentClusterNumber i).IsFolder)
    (hc : (fs.table request.parentClusterNumber i).clusterNumber.toNat < 512)
    (hd : ∀ j : Fin 64, 2 ≤ j.val → ¬ (fs.table (fs.table request.parentClusterNumber i).clusterNumber j).Live) :
    delete fuel fs request =
      .returned 0 (deleted fs request i [(fs.table request.parentClusterNumber i).clusterNumber]) := by
  rw [delete_of_match fuel hpar hm, if_pos hf, clusterLow_eq (by omega), findChild_eq_none.mpr hd]
  exact clearEntry_eq [] hc

lemma delete_of_file {l : List UInt32} (hf : ¬ (fs.table request.parentClusterNumber i).IsFolder)
    (hl : Chain fs.volume.link (fs.table request.parentClusterNumber i).clusterNumber l)
    (hu : ∀ c ∈ l, Usable c) (hfuel : l.length ≤ fuel) :
    delete fuel fs request = .returned 0 (deleted fs request i l) := by
  obtain ⟨m, z, rfl, he⟩ := freePartitions_eq hl hu hfuel
  rw [delete_of_match fuel hpar hm, if_neg hf, he]
  exact clearEntry_eq m (hu z (by simp)).lt

lemma delete_of_dead (hw : fs.WellFormed) (hz : fs.table request.parentClusterNumber i = .zero)
    (hfuel : 2 ≤ fuel) :
    ∃ fs', delete fuel fs request = .outside fs' := by
  obtain ⟨fuel, rfl⟩ : ∃ n, fuel = n + 2 := ⟨fuel - 2, by omega⟩
  rw [delete_of_match _ hpar hm, hz, if_neg (by decide), freePartitions, WellFormed.word_zero hw]
  simp only
  rw [if_neg (by decide), freePartitions, word_cluster0Value]
  exact ⟨_, rfl⟩

end

structure Removed (fs fs' : FileSystem) (request : DriverRequest) (i : Fin 64) (l : List UInt32) : Prop where
  first : FirstMatch (fs.table request.parentClusterNumber) request i
  added : EntryAdded fs' fs request.parentClusterNumber i (fs.table request.parentClusterNumber i) l
  frame : SameOutside fs fs' (fatClusterNumber :: request.parentClusterNumber :: l)
  wellFormed : fs'.WellFormed

def DeletesLive (fs : FileSystem) (request : DriverRequest) : Prop :=
  ∀ i : Fin 64, FirstMatch (fs.table request.parentClusterNumber) request i →
    (2 ≤ i.val ∧ (fs.table request.parentClusterNumber i).Live) ∨
    (i.val < 2 ∧ ∃ j : Fin 64, 2 ≤ j.val ∧
      (fs.table (fs.table request.parentClusterNumber i).clusterNumber j).Live)

def Occupied (fs : FileSystem) (d : UInt32) (i : Fin 64) : Prop :=
  (fs.table d i).IsFolder ∧ ∃ j : Fin 64, 2 ≤ j.val ∧ (fs.table (fs.table d i).clusterNumber j).Live

section

variable (hw : fs.WellFormed) (hp : fs.volume.IsDir request.parentClusterNumber)
include hw hp

lemma deleted_disk_ne {l : List UInt32} (h : fs.table request.parentClusterNumber i ≠ .zero) :
    (deleted fs request i l).disk ≠ fs.disk := by
  intro he
  have htable := deleted_parent (i := i) (l := l) hw hp
  rw [FileSystem.table, he, ← FileSystem.table] at htable
  refine h ?_
  rw [htable, update_self]

lemma deleted_removed {l : List UInt32} (hm : FirstMatch (fs.table request.parentClusterNumber) request i)
    (hi : 2 ≤ i.val) (hlive : (fs.table request.parentClusterNumber i).Live)
    (hchain : Chain fs.volume.link (fs.table request.parentClusterNumber i).clusterNumber l)
    (hfresh : (fs.table request.parentClusterNumber i).IsFolder →
      ∀ t : Fin 64, 2 ≤ t.val → fs.table (fs.table request.parentClusterNumber i).clusterNumber t = .zero) :
    Removed fs (deleted fs request i l) request i l := by
  have hadd := deleted_added hw hp hi hlive hchain hfresh
  exact ⟨hm, hadd, deleted_frame hw hp fun a ha => (hadd.usable a ha).lt,
    hadd.wellFormed_of_after hw hp deleted_cached⟩

lemma deleted_dir_ill_formed {d q : UInt32} (hd : fs.volume.Dir d q) (hi : i.val < 2)
    (hempty : ∀ j : Fin 64, 2 ≤ j.val → ¬ (fs.table d j).Live) : ¬ (deleted fs request i [d]).WellFormed := by
  intro hw'
  have hl : ∀ a ∈ [d], a.toNat < 512 := fun a ha => List.mem_singleton.mp ha ▸ (hw.dir_lt hd.isDir).2
  have hfree : cell (deleted fs request i [d]).driver.fatTable d = fatEmptyEntry := by
    rw [deleted_cell hl, if_pos (List.mem_singleton_self d)]
  rcases hd.root_or_entry with ⟨rfl, -⟩ | ⟨s, e, he, -, rfl⟩
  · have h2 := (cell_ofNat _ 2).trans hw'.cell_two
    exact absurd (hfree.symm.trans h2) (by decide)
  · have hkeep : ∀ d t f, fs.volume.IsDir d → fs.volume.item d t = some f →
        (deleted fs request i [e.head]).volume.item d t = some f := by
      intro d t f hd hf
      obtain ⟨ht, hlive, hf⟩ := item_eq_some.mp hf
      have hne : d ∉ [e.head] := by
        rw [List.mem_singleton]
        rintro rfl
        exact hempty t ht hlive
      have hsame : (deleted fs request i [e.head]).table d t = fs.table d t := by
        by_cases hpd : d = request.parentClusterNumber
        · rw [hpd, deleted_parent hw hp, update_of_ne]
          rintro rfl
          omega
        · rw [deleted_others hw hp hl (hw.sound.dir_usable hd) hne hpd]
      rw [item_eq_some, hsame]
      exact ⟨ht, hlive, hf⟩
    obtain ⟨⟨r, hr⟩, hitem⟩ := he
    have hentry : (deleted fs request i [e.head]).volume.Entry q s e :=
      ⟨(hr.mono (volume_root fs).symm hkeep).isDir, hkeep _ _ _ hr.isDir hitem⟩
    exact hw'.sound.head_used hentry (linkOf_eq_free.mpr hfree)

lemma reserved_names (hi : i.val < 2) :
    ∃ d r, (fs.table request.parentClusterNumber i).Names d ∧ fs.volume.Dir d r := by
  obtain ⟨q, hq⟩ := hp
  rcases (by omega : i.val = 0 ∨ i.val = 1) with h0 | h1
  · obtain rfl : i = 0 := Fin.ext h0
    exact ⟨_, q, hw.self hq, hq⟩
  · obtain rfl : i = 1 := Fin.ext h1
    obtain ⟨r, hr⟩ := hq.parent_isDir
    exact ⟨q, r, hw.parent hq, hr⟩

lemma delete_live (hm : FirstMatch (fs.table request.parentClusterNumber) request i) (hi : 2 ≤ i.val)
    (hlive : (fs.table request.parentClusterNumber i).Live) :
    (Occupied fs request.parentClusterNumber i ∧ ∀ fuel, delete fuel fs request = .returned 2 fs) ∨
    ¬ Occupied fs request.parentClusterNumber i ∧
      ∃ l, (∀ fuel, l.length ≤ fuel → delete fuel fs request = .returned 0 (deleted fs request i l)) ∧
        Removed fs (deleted fs request i l) request i l := by
  have hpar : (fs.table request.parentClusterNumber 0).IsFolder := by
    obtain ⟨q, hq⟩ := hp
    exact (hw.self hq).folder
  have hentry := And.intro hp (item_of_live hi hlive)
  obtain ⟨l, hl, -, hu⟩ := hw.sound.chain hentry
  by_cases hf : (fs.table request.parentClusterNumber i).IsFolder
  · have hc : (fs.table request.parentClusterNumber i).clusterNumber.toNat < 512 := (hu _ hl.head_mem).lt
    by_cases hchild : ∃ j : Fin 64, 2 ≤ j.val ∧
        (fs.table (fs.table request.parentClusterNumber i).clusterNumber j).Live
    · obtain ⟨j, hj, hjl⟩ := hchild
      exact Or.inl ⟨⟨hf, j, hj, hjl⟩, fun fuel => delete_of_full fuel hpar hm hf hc hj hjl⟩
    · have hempty : ∀ j : Fin 64, 2 ≤ j.val →
          ¬ (fs.table (fs.table request.parentClusterNumber i).clusterNumber j).Live :=
        fun j hj hjl => hchild ⟨j, hj, hjl⟩
      obtain ⟨q, hq⟩ := hp
      have hdir := (Volume.Dir.sub hq hentry.2 (decide_eq_true hf)).isDir
      refine Or.inr ⟨fun h => hchild h.2, _, fun fuel _ => delete_of_empty fuel hpar hm hf hc hempty,
        deleted_removed hw ⟨q, hq⟩ hm hi hlive (hw.sound.folder_chain hentry (decide_eq_true hf)) fun _ t ht => ?_⟩
      exact hw.dead hdir t ht (hempty t ht)
  · exact Or.inr ⟨fun h => hf h.1, l, fun fuel hfuel => delete_of_file fuel hpar hm hf hl hu hfuel,
      deleted_removed hw hp hm hi hlive hl fun hf' => (hf hf').elim⟩

lemma delete_reserved (hm : FirstMatch (fs.table request.parentClusterNumber) request i) (hi : i.val < 2) :
    (Occupied fs request.parentClusterNumber i ∧ ∀ fuel, delete fuel fs request = .returned 2 fs) ∨
    ¬ Occupied fs request.parentClusterNumber i ∧
      ∃ l, (∀ fuel, delete fuel fs request = .returned 0 (deleted fs request i l)) ∧
        ¬ (deleted fs request i l).WellFormed ∧ (deleted fs request i l).disk ≠ fs.disk := by
  have hpar : (fs.table request.parentClusterNumber 0).IsFolder := by
    obtain ⟨q, hq⟩ := hp
    exact (hw.self hq).folder
  obtain ⟨d, r, hn, hd⟩ := reserved_names hw hp hi
  have hc : (fs.table request.parentClusterNumber i).clusterNumber.toNat < 512 :=
    hn.cluster ▸ (hw.dir_lt hd.isDir).2
  by_cases hchild : ∃ j : Fin 64, 2 ≤ j.val ∧ (fs.table d j).Live
  · obtain ⟨j, hj, hjl⟩ := hchild
    rw [← hn.cluster] at hjl
    exact Or.inl ⟨⟨hn.folder, j, hj, hjl⟩, fun fuel => delete_of_full fuel hpar hm hn.folder hc hj hjl⟩
  · have hempty : ∀ j : Fin 64, 2 ≤ j.val → ¬ (fs.table d j).Live := fun j hj hjl => hchild ⟨j, hj, hjl⟩
    refine Or.inr ⟨fun h => ?_, _, fun fuel => delete_of_empty fuel hpar hm hn.folder hc ?_, ?_, ?_⟩
    · obtain ⟨-, j, hj, hjl⟩ := h
      rw [hn.cluster] at hjl
      exact hempty j hj hjl
    · rwa [hn.cluster]
    · rw [hn.cluster]
      exact deleted_dir_ill_formed hw hp hd hi hempty
    · refine deleted_disk_ne hw hp fun hz => ?_
      have hf := hn.folder
      rw [hz] at hf
      exact absurd hf (by decide)

lemma delete_ends_iff (hm : FirstMatch (fs.table request.parentClusterNumber) request i) (P : FileSystem → Prop)
    (hP : ∀ fs', P fs' → fs'.WellFormed) :
    (∃ enough, ∀ fuel, enough ≤ fuel →
      ∃ code fs', delete fuel fs request = .returned code fs' ∧ (fs'.disk = fs.disk ∨ P fs')) ↔
    Occupied fs request.parentClusterNumber i ∨
      ∃ l, Removed fs (deleted fs request i l) request i l ∧ P (deleted fs request i l) := by
  by_cases hi : 2 ≤ i.val
  · by_cases hlive : (fs.table request.parentClusterNumber i).Live
    · rcases delete_live hw hp hm hi hlive with ⟨hocc, hr⟩ | ⟨hocc, l, hr, hrem⟩
      · exact iff_of_true ⟨0, fun fuel _ => ⟨2, fs, hr fuel, .inl rfl⟩⟩ (.inl hocc)
      · rw [or_iff_right hocc]
        constructor
        · rintro ⟨enough, h⟩
          obtain ⟨code, fs', hdelete, h⟩ := h _ (le_max_left enough l.length)
          obtain ⟨-, rfl⟩ := Outcome.returned.inj ((hr _ (le_max_right _ _)).symm.trans hdelete)
          refine ⟨l, hrem, h.resolve_left (deleted_disk_ne hw hp fun hz => ?_)⟩
          exact EntryAdded.not_live_zero (hz ▸ hlive)
        · rintro ⟨l', hrem', h⟩
          obtain rfl := hrem.added.chain.unique hrem'.added.chain
          exact ⟨l.length, fun fuel hfuel => ⟨0, _, hr fuel hfuel, .inr h⟩⟩
    · have hdead := hw.dead hp i hi hlive
      refine iff_of_false ?_ ?_
      · rintro ⟨enough, h⟩
        obtain ⟨code, fs', hdelete, -⟩ := h _ (le_max_left enough 2)
        obtain ⟨q, hq⟩ := hp
        obtain ⟨fs'', hout⟩ := delete_of_dead _ (hw.self hq).folder hm hw hdead (le_max_right enough 2)
        cases hout.symm.trans hdelete
      · rintro (⟨hf, -⟩ | ⟨l, hrem, -⟩)
        · rw [hdead] at hf
          exact absurd hf (by decide)
        · exact hlive hrem.added.live
  · rcases delete_reserved hw hp hm (not_le.mp hi) with ⟨hocc, hr⟩ | ⟨hocc, l, hr, hill, hdisk⟩
    · exact iff_of_true ⟨0, fun fuel _ => ⟨2, fs, hr fuel, .inl rfl⟩⟩ (.inl hocc)
    · refine iff_of_false ?_ ?_
      · rintro ⟨enough, h⟩
        obtain ⟨code, fs', hdelete, h⟩ := h enough le_rfl
        obtain ⟨-, rfl⟩ := Outcome.returned.inj ((hr enough).symm.trans hdelete)
        rcases h with h | h
        · exact hdisk h
        · exact hill (hP _ h)
      · rintro (hocc' | ⟨l, hrem, -⟩)
        · exact hocc hocc'
        · exact hi hrem.added.slot

lemma delete_outcome :
    (∃ code, code ≠ 0 ∧ (∀ fuel, delete fuel fs request = .returned code fs) ∧ DeletesLive fs request) ∨
    (∃ fs' i l, (∀ fuel, l.length ≤ fuel → delete fuel fs request = .returned 0 fs') ∧ Removed fs fs' request i l ∧
      DeletesLive fs request) ∨
    (∃ fs', (∀ fuel, delete fuel fs request = .returned 0 fs') ∧ ¬ fs'.WellFormed ∧ ¬ DeletesLive fs request) ∨
    ((∀ fuel, 2 ≤ fuel → ∃ fs', delete fuel fs request = .outside fs') ∧ ¬ DeletesLive fs request) := by
  have hpar : (fs.table request.parentClusterNumber 0).IsFolder := by
    obtain ⟨q, hq⟩ := hp
    exact (hw.self hq).folder
  cases hm : findEntry (fs.table request.parentClusterNumber) request with
  | none =>
    refine Or.inl ⟨1, by decide, fun fuel => delete_of_none fuel hpar hm, fun i hi => ?_⟩
    exact (findEntry_eq_none.mp hm i ⟨hi.name, hi.ext⟩).elim
  | some i =>
    have hm := findEntry_eq_some.mp hm
    by_cases hi : 2 ≤ i.val
    · by_cases hlive : (fs.table request.parentClusterNumber i).Live
      · have hd : DeletesLive fs request := fun j hj => Or.inl (hm.unique hj ▸ ⟨hi, hlive⟩)
        rcases delete_live hw hp hm hi hlive with ⟨-, hr⟩ | ⟨-, l, hr, hrem⟩
        · exact Or.inl ⟨2, by decide, hr, hd⟩
        · exact Or.inr (Or.inl ⟨_, i, l, hr, hrem, hd⟩)
      · have hdead := hw.dead hp i hi hlive
        refine Or.inr (Or.inr (Or.inr ⟨fun fuel => delete_of_dead fuel hpar hm hw hdead, fun hd => ?_⟩))
        rcases hd i hm with ⟨-, hl⟩ | ⟨hlt, -⟩
        · exact hlive hl
        · omega
    · have hi : i.val < 2 := not_le.mp hi
      rcases delete_reserved hw hp hm hi with ⟨hocc, hr⟩ | ⟨hocc, l, hr, hill, -⟩
      · exact Or.inl ⟨2, by decide, hr, fun k hk => Or.inr (hm.unique hk ▸ ⟨hi, hocc.2⟩)⟩
      · refine Or.inr (Or.inr (Or.inl ⟨_, hr, hill, fun hdl => ?_⟩))
        obtain ⟨d, r, hn, -⟩ := reserved_names hw hp hi
        rcases hdl i hm with ⟨hlt, -⟩ | ⟨-, hchild⟩
        · omega
        · exact hocc ⟨hn.folder, hchild⟩

lemma Removed.boot {l : List UInt32} (h : Removed fs fs' request i l) :
    readClusters fs'.disk bootSector = readClusters fs.disk bootSector :=
  h.frame _ (by decide) (boot_not_mem hw hp h.added.usable)

theorem delete_preserves_wellFormed_iff :
    (∃ enough code fs', (∀ fuel, enough ≤ fuel → delete fuel fs request = .returned code fs') ∧ fs'.WellFormed ∧
      readClusters fs'.disk bootSector = readClusters fs.disk bootSector) ↔ DeletesLive fs request := by
  rcases delete_outcome hw hp with ⟨code, -, hr, hd⟩ | ⟨fs', i, l, hr, hrem, hd⟩ | ⟨fs', hr, hill, hd⟩ | ⟨hr, hd⟩
  · exact iff_of_true ⟨0, code, fs, fun fuel _ => hr fuel, hw, rfl⟩ hd
  · exact iff_of_true ⟨l.length, 0, fs', hr, hrem.wellFormed, hrem.boot hw hp⟩ hd
  · refine iff_of_false ?_ hd
    rintro ⟨n, code, fs'', hr', hw', -⟩
    obtain ⟨rfl, rfl⟩ := Outcome.returned.inj ((hr n).symm.trans (hr' n le_rfl))
    exact hill hw'
  · refine iff_of_false ?_ hd
    rintro ⟨n, code, fs'', hr', -⟩
    obtain ⟨fs', he⟩ := hr (max n 2) (le_max_right _ _)
    cases he.symm.trans (hr' _ (le_max_left _ _))

end

def rootRequest : DriverRequest := ⟨fun _ => 0, rootName, fun _ => 0, rootClusterNumber, 0⟩

lemma root_first : FirstMatch (formatted.table rootClusterNumber) rootRequest 0 := by
  rw [formatted, createFat32_table]
  refine ⟨?_, ?_, fun j hj => absurd hj (Fin.not_lt_zero j)⟩
  all_goals
    rw [update_of_ne (by decide), update_self]
    rfl

theorem delete_breaks_formatted : formatted.WellFormed ∧ formatted.volume.IsDir rootRequest.parentClusterNumber ∧
    ∃ fs', (∀ fuel, delete fuel formatted rootRequest = .returned 0 fs') ∧ ¬ fs'.WellFormed := by
  obtain ⟨hself, -, hzero⟩ := formatted_rootTable
  have hempty : ∀ j : Fin 64, 2 ≤ j.val → ¬ (formatted.table rootClusterNumber j).Live := by
    intro j hj
    rw [hzero j hj]
    exact EntryAdded.not_live_zero
  have hd : formatted.volume.Dir rootClusterNumber rootClusterNumber := .root
  have hdel : ∀ fuel, delete fuel formatted rootRequest =
      .returned 0 (deleted formatted rootRequest 0 [rootClusterNumber]) := by
    intro fuel
    have hpar : (formatted.table rootRequest.parentClusterNumber 0).IsFolder := hself.folder
    have hc : (formatted.table rootRequest.parentClusterNumber 0).clusterNumber = rootClusterNumber :=
      hself.cluster
    rw [delete_of_empty fuel hpar root_first hpar (by rw [hc]; decide) (by rwa [hc]), hc]
  exact ⟨formatted_wellFormed, formatted_isDir, _, hdel,
    deleted_dir_ill_formed formatted_wellFormed formatted_isDir hd (by decide) hempty⟩

lemma fill_first : FirstMatch (nearlyFull.table rootClusterNumber) fillRequest 2 := by
  rw [nearlyFull_root]
  refine ⟨by rw [update_self]; rfl, by rw [update_self]; rfl, fun j hj hm => ?_⟩
  rw [update_of_ne hj.ne] at hm
  rcases formatted_name j with hn | hn
  · exact absurd (hn.symm.trans hm.1) (by decide)
  · exact absurd (hn.symm.trans hm.1) (by decide)

theorem delete_preserves_wellFormed_nearlyFull : nearlyFull.WellFormed ∧
    nearlyFull.volume.IsDir fillRequest.parentClusterNumber ∧
    ∃ enough code fs', (∀ fuel, enough ≤ fuel → delete fuel nearlyFull fillRequest = .returned code fs') ∧
      fs'.WellFormed ∧ readClusters fs'.disk bootSector = readClusters nearlyFull.disk bootSector := by
  have hp : nearlyFull.volume.IsDir fillRequest.parentClusterNumber := Volume.isDir_root
  refine ⟨nearlyFull_written.wellFormed, hp,
    (delete_preserves_wellFormed_iff nearlyFull_written.wellFormed hp).mpr fun i hi => ?_⟩
  obtain rfl := fill_first.unique hi
  exact Or.inl ⟨le_rfl, nearlyFull_written.added.slot_self ▸ nearlyFull_written.added.live⟩

end Semogakelar.Fat32
