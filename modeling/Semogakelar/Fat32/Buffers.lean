import Semogakelar.Fat32.ReadSafety

/-! The bytes of the buffer that the operations store and fetch. -/

namespace Semogakelar.Fat32

open Library Function FileSystem

variable {img : KernelImage} {fs fs' : FileSystem} {request : DriverRequest} {i : Fin 64}

/-- The four operations touch the buffer only below its size, and what a write stores depends on those bytes alone.
A read that leaves the driver state follows words that are not the driver's, so its stores have no bound. -/
structure Disciplined (img : KernelImage) (fs : FileSystem) (request : DriverRequest) : Prop where
  stored : ∀ fuel o c, .store o c ∈ (loggedRead fuel fs request).1 → o + 2048 ≤ request.bufferSize.toNat
  inside : ∀ fuel t, read fuel fs request ≠ .outside t
  listed : ∀ o c, .store o c ∈ (loggedReadDirectory fs request).1 → o + 2048 ≤ request.bufferSize.toNat
  fetched : ∀ o, .fetch o ∈ (loggedWrite img fs request).1 → o + 2048 ≤ request.bufferSize.toNat
  determined : ∀ buf : ℕ → UInt8, (∀ j < request.bufferSize.toNat, buf j = request.buf j) →
    write img fs { request with buf := buf } = write img fs request

def ReadFits (fs : FileSystem) (request : DriverRequest) : Prop :=
  (fs.table request.parentClusterNumber 0).IsFolder → ∀ i,
    FirstMatch (fs.table request.parentClusterNumber) request i →
    ¬ (fs.table request.parentClusterNumber i).IsFolder →
    (fs.table request.parentClusterNumber i).filesize ≤ request.bufferSize →
    ∃ l, Walk fs.driver (fs.table request.parentClusterNumber i).clusterNumber l ∧
      2048 * l.length ≤ request.bufferSize.toNat

structure StoresFile (fs : FileSystem) (request : DriverRequest) : Prop where
  file : request.bufferSize ≠ 0
  accepted : ∃ i, Accepted fs request i
  left : emptyClusters fs.driver.fatTable ≠ []
  enough : enoughEmptyCluster fs.driver (numberOfPartition request.bufferSize) = true

lemma readDirectory_disciplined {o : ℕ} {c : UInt32} (h : .store o c ∈ (loggedReadDirectory fs request).1) :
    o + 2048 ≤ request.bufferSize.toNat := by
  rw [loggedReadDirectory] at h
  simp only at h
  split_ifs at h with hs
  · exact absurd h List.not_mem_nil
  · exact absurd h List.not_mem_nil
  · cases hm : findDirectory (fs.table request.parentClusterNumber) request with
    | none =>
      rw [hm] at h
      exact absurd h List.not_mem_nil
    | some idx =>
      rw [hm] at h
      simp only at h
      split_ifs at h
      · exact absurd h List.not_mem_nil
      · obtain ⟨rfl, -⟩ := Touch.store.inj (List.mem_singleton.mp h)
        have hs := UInt32.le_iff_toNat_le.mp (UInt32.not_lt.mp hs)
        rw [show UInt32.toNat 2048 = 2048 from rfl] at hs
        omega

lemma walk_of_disciplined {size : ℕ} {c : UInt32} {t : Transfer}
    (hstore : ∀ fuel o c', .store o c' ∈ (loggedReadPartitions fs fuel c t).1 → o + 2048 ≤ size)
    (hinside : ∀ fuel t', readPartitions fs fuel c t ≠ .outside t') (ht : 2048 * t.clusters.length ≤ size) :
    ∃ l, Walk fs.driver c l ∧ 2048 * (t.clusters.length + l.length) ≤ size := by
  induction hr : size - 2048 * t.clusters.length using Nat.strong_induction_on generalizing c t with
  | _ r ih =>
    by_cases hend : c = fatEndOfFile
    · exact ⟨[], hend ▸ .stop, ht⟩
    cases hword : fs.driver.word c.toNat with
    | none =>
      refine (hinside 1 (t.copy fs.disk c) ?_).elim
      rw [readPartitions, if_neg hend, hword]
    | some next =>
      have hlen : (t.copy fs.disk c).clusters.length = t.clusters.length + 1 := by simp [Transfer.copy]
      have hfirst : 2048 * t.clusters.length + 2048 ≤ size := by
        refine hstore 1 _ c ?_
        rw [loggedReadPartitions, if_neg hend]
        simp [hword]
      have hlog : ∀ fuel, (loggedReadPartitions fs (fuel + 1) c t).1 =
          [.store (2048 * t.clusters.length) c, .index c.toNat] ++
            (loggedReadPartitions fs fuel next (t.copy fs.disk c)).1 := by
        intro fuel
        rw [loggedReadPartitions, if_neg hend]
        simp only [hword]
      have hread : ∀ fuel, readPartitions fs (fuel + 1) c t = readPartitions fs fuel next (t.copy fs.disk c) := by
        intro fuel
        rw [readPartitions, if_neg hend]
        simp only [hword]
      obtain ⟨l, hl, hfit⟩ := ih (size - 2048 * (t.copy fs.disk c).clusters.length) (by rw [hlen]; omega)
        (c := next) (t := t.copy fs.disk c)
        (fun fuel o c' hm => hstore (fuel + 1) o c' (by rw [hlog]; exact List.mem_append_right _ hm))
        (fun fuel t' => by rw [← hread]; exact hinside _ _) (by rw [hlen]; omega) rfl
      refine ⟨c :: l, .step hend hword hl, ?_⟩
      rw [hlen] at hfit
      rw [List.length_cons]
      omega

lemma readFits_iff : ReadFits fs request ↔
    (∀ fuel o c, .store o c ∈ (loggedRead fuel fs request).1 → o + 2048 ≤ request.bufferSize.toNat) ∧
    ∀ fuel t, read fuel fs request ≠ .outside t := by
  obtain ⟨i, hi⟩ | ⟨hnone, code, -, hrefused⟩ := read_cases fs request
  swap
  · refine iff_of_true (fun hpar i hm hf hs => (hnone i ⟨hpar, hm, hf, hs⟩).elim)
      ⟨fun fuel o c hmem => ?_, fun fuel t => ?_⟩
    · rw [loggedRead_refused hnone] at hmem
      exact absurd hmem List.not_mem_nil
    · rw [hrefused fs fuel rfl]
      simp
  constructor
  · intro h
    obtain ⟨l, hl, hfit⟩ := h hi.parent i hi.first hi.file hi.size
    refine ⟨fun fuel o c hmem => ?_, fun fuel t => ?_⟩
    · rw [hi.loggedRead_eq] at hmem
      obtain ⟨k, hk, hx | hx⟩ := hl.mem_touches fuel _ _ hmem
      · obtain ⟨rfl, -⟩ := Touch.store.inj hx
        simp only [List.length_nil]
        omega
      · cases hx
    · rw [hi.read_eq]
      exact hl.not_outside fuel _ t
  · rintro ⟨hstore, hinside⟩ - j hj hf hs
    obtain rfl := hi.first.unique hj
    simp only [hi.loggedRead_eq] at hstore
    simp only [hi.read_eq] at hinside
    obtain ⟨l, hl, hfit⟩ := walk_of_disciplined hstore hinside (by simp)
    exact ⟨l, hl, by simpa using hfit⟩

lemma loggedWrite_cases (img : KernelImage) (fs : FileSystem) (request : DriverRequest) :
    ((loggedWrite img fs request).1 = [] ∧ ∀ i, ¬ Accepted fs request i) ∨
    ∃ i, Accepted fs request i ∧
      loggedWrite img fs request = loggedWriteEntry img fs request (fs.table request.parentClusterNumber) i := by
  rw [loggedWrite]
  by_cases hp : (fs.table request.parentClusterNumber 0).attr ≠ attrSubdirectory
  · exact Or.inl ⟨by simp only [if_pos hp], fun i hi => hp hi.parent⟩
  simp only [if_neg hp]
  rcases scanParent_cases fs request (not_not.mp hp) rfl with ⟨hr, hna⟩ | ⟨hr, hn, hna⟩ | ⟨hr, hn, hlt, ha⟩
  · exact Or.inl ⟨by rw [if_pos hr], hna⟩
  · exact Or.inl ⟨by rw [if_neg hr, if_pos hn], hna⟩
  · exact Or.inr ⟨_, ha, by rw [if_neg hr, if_neg hn, dif_pos hlt]⟩

lemma loggedWritePartitions_fetch {buf : ℕ → UInt8} {left n idx o : ℕ}
    (h : .fetch o ∈ (loggedWritePartitions buf left n idx fs).1) : o ≤ 2048 * (n + left) := by
  induction left generalizing n idx fs with
  | zero =>
    obtain rfl := Touch.fetch.inj (List.mem_singleton.mp h)
    exact le_rfl
  | succ left ih =>
    rw [loggedWritePartitions] at h
    cases hnext : nextEmptyCluster fs.driver (idx + 1) with
    | none =>
      rw [hnext] at h
      exact absurd h List.not_mem_nil
    | some k =>
      rw [hnext, Option.elim_some, List.mem_cons] at h
      rcases h with h | h
      · obtain rfl := Touch.fetch.inj h
        omega
      · have := ih h
        omega

lemma loggedWrite_fetch {o : ℕ} (h : .fetch o ∈ (loggedWrite img fs request).1) :
    o ≤ 2048 * (numberOfPartition request.bufferSize - 1) := by
  obtain ⟨hnil, -⟩ | ⟨i, -, he⟩ := loggedWrite_cases img fs request
  · rw [hnil] at h
    exact absurd h List.not_mem_nil
  rw [he, loggedWriteEntry] at h
  split_ifs at h with hz
  · exact absurd h List.not_mem_nil
  rw [loggedWriteFile] at h
  split at h
  · exact absurd h List.not_mem_nil
  cases hk : findEmptyCluster fs.driver.fatTable with
  | none =>
    rw [hk] at h
    exact absurd h List.not_mem_nil
  | some k =>
    rw [hk, Option.elim_some] at h
    have := loggedWritePartitions_fetch h
    omega

lemma loggedWritePartitions_last {buf : ℕ → UInt8} {left n idx : ℕ} {code : ℤ}
    (h : writePartitions buf left n idx fs = .returned code fs') :
    .fetch (2048 * (n + left)) ∈ (loggedWritePartitions buf left n idx fs).1 := by
  induction left generalizing n idx fs with
  | zero => exact List.mem_singleton_self _
  | succ left ih =>
    rw [writePartitions] at h
    rw [loggedWritePartitions]
    cases hnext : nextEmptyCluster fs.driver (idx + 1) with
    | none =>
      rw [hnext] at h
      cases h
    | some k =>
      rw [hnext, Option.elim_some] at h
      rw [Option.elim_some, List.mem_cons, ← Nat.add_assoc, Nat.add_right_comm]
      exact Or.inr (ih h)

lemma writePartitions_determined {buf buf' : ℕ → UInt8} {left n idx : ℕ}
    (h : ∀ o, .fetch o ∈ (loggedWritePartitions buf left n idx fs).1 → ∀ j < 2048, buf' (o + j) = buf (o + j)) :
    writePartitions buf' left n idx fs = writePartitions buf left n idx fs := by
  have hchunk : .fetch (2048 * n) ∈ (loggedWritePartitions buf left n idx fs).1 → chunk buf' n = chunk buf n :=
    fun hm => funext fun j => h _ hm j j.isLt
  induction left generalizing n idx fs with
  | zero =>
    rw [writePartitions, writePartitions, hchunk (List.mem_singleton_self _)]
  | succ left ih =>
    rw [loggedWritePartitions] at h hchunk
    rw [writePartitions, writePartitions]
    cases hnext : nextEmptyCluster fs.driver (idx + 1) with
    | none => rfl
    | some k =>
      rw [hnext, Option.elim_some] at h hchunk
      rw [Option.elim_some, Option.elim_some, hchunk List.mem_cons_self]
      have hrest := fun o hm => h o (List.mem_cons_of_mem _ hm)
      exact ih hrest fun hm => funext fun j => hrest _ hm j j.isLt

lemma scanParent_buf (table : DirectoryTable) (a : UInt8) (buf : ℕ → UInt8) (fuel : ℕ) (s : ParentScan) :
    scanParent table { request with buf := buf } a fuel s = scanParent table request a fuel s := by
  induction fuel generalizing s with
  | zero => rfl
  | succ fuel ih =>
    rw [scanParent, scanParent]
    simp only [ih]
    rfl

lemma writeFile_determined {buf : ℕ → UInt8} (table : DirectoryTable)
    (h : ∀ o, .fetch o ∈ (loggedWriteFile fs request table i).1 → ∀ j < 2048, buf (o + j) = request.buf (o + j)) :
    writeFile fs { request with buf := buf } table i = writeFile fs request table i := by
  rw [loggedWriteFile] at h
  rw [writeFile, writeFile]
  split_ifs at h ⊢
  · cases hk : findEmptyCluster fs.driver.fatTable with
    | none => rfl
    | some k =>
      rw [hk, Option.elim_some] at h
      exact writePartitions_determined h
  · rfl

lemma write_determined {buf : ℕ → UInt8}
    (h : ∀ o, .fetch o ∈ (loggedWrite img fs request).1 → ∀ j < 2048, buf (o + j) = request.buf (o + j)) :
    write img fs { request with buf := buf } = write img fs request := by
  have hattr : requestAttribute { request with buf := buf } = requestAttribute request := rfl
  rw [loggedWrite] at h
  rw [write, write]
  simp only [scanParent_buf, hattr] at h ⊢
  split_ifs at h ⊢
  · rfl
  · rfl
  · rfl
  · rw [loggedWriteEntry] at h
    rw [writeEntry, writeEntry]
    split_ifs at h ⊢
    · rw [writeFolder, writeFolder]
    · exact writeFile_determined _ h
  · rfl

lemma last_fetch_fits_iff (hz : request.bufferSize ≠ 0) :
    2048 * (numberOfPartition request.bufferSize - 1) + 2048 ≤ request.bufferSize.toNat ↔
      2048 ∣ request.bufferSize.toNat := by
  have hpos := numberOfPartition_pos hz
  have hnum := numberOfPartition_eq request.bufferSize
  omega

lemma fetches_fit_iff (hw : fs.WellFormed) :
    (∀ o, .fetch o ∈ (loggedWrite img fs request).1 → o + 2048 ≤ request.bufferSize.toNat) ↔
      (StoresFile fs request → 2048 ∣ request.bufferSize.toNat) := by
  rcases loggedWrite_cases img fs request with ⟨hnil, hna⟩ | ⟨i, ha, hlog⟩
  · rw [hnil]
    exact iff_of_true (fun o hm => absurd hm List.not_mem_nil) fun h => (h.accepted.elim hna).elim
  rw [hlog, loggedWriteEntry]
  split_ifs with hz
  · exact iff_of_true (fun o hm => absurd hm List.not_mem_nil) fun h => (h.file hz).elim
  rw [loggedWriteFile]
  split_ifs with he
  swap
  · exact iff_of_true (fun o hm => absurd hm List.not_mem_nil) fun h => (he h.enough).elim
  cases hk : findEmptyCluster fs.driver.fatTable with
  | none =>
    have hnil := findEmptyCluster_eq_none_iff.mp hk
    exact iff_of_true (fun o hm => absurd hm List.not_mem_nil) fun h => (h.left hnil).elim
  | some k =>
    have hne := emptyClusters_ne_nil hk
    have hstores : StoresFile fs request := ⟨hz, ⟨i, ha⟩, hne, he⟩
    rw [Option.elim_some, ← last_fetch_fits_iff hz]
    constructor
    · intro h _
      obtain ⟨_, _, -, hret⟩ := writeFile_taken (i := i) hw hz hne he
      rw [writeFile, if_neg (not_not.mpr he), hk, Option.elim_some] at hret
      have hlast := loggedWritePartitions_last hret
      rw [Nat.zero_add] at hlast
      exact h _ hlast
    · intro h o hm
      have := loggedWritePartitions_fetch hm
      have := h hstores
      omega

lemma disciplined_iff (hw : fs.WellFormed) : Disciplined img fs request ↔
    ReadFits fs request ∧ (StoresFile fs request → 2048 ∣ request.bufferSize.toNat) := by
  have hfit : (∀ o, .fetch o ∈ (loggedWrite img fs request).1 → o + 2048 ≤ request.bufferSize.toNat) ↔
      (StoresFile fs request → 2048 ∣ request.bufferSize.toNat) := fetches_fit_iff hw
  rw [readFits_iff, ← hfit]
  constructor
  · exact fun h => ⟨⟨h.stored, h.inside⟩, h.fetched⟩
  · rintro ⟨⟨hstored, hinside⟩, hfetched⟩
    refine ⟨hstored, hinside, fun _ _ => readDirectory_disciplined, hfetched, fun buf hbuf => ?_⟩
    refine write_determined fun o hm j hj => hbuf _ ?_
    have := hfetched o hm
    omega

lemma readFits_of_isDir (hw : fs.WellFormed) (hp : fs.volume.IsDir request.parentClusterNumber) :
    ReadFits fs request ↔ ∀ i, FirstMatch (fs.table request.parentClusterNumber) request i →
      ¬ (fs.table request.parentClusterNumber i).IsFolder →
      (fs.table request.parentClusterNumber i).filesize ≤ request.bufferSize →
      (fs.table request.parentClusterNumber i).Live ∧
      2048 * (((fs.table request.parentClusterNumber i).filesize.toNat + 2047) / 2048) ≤
      request.bufferSize.toNat := by
  rw [ReadFits, forall_prop_of_true (parent_folder hw hp)]
  refine forall_congr' fun i => imp_congr_right fun hm => imp_congr_right fun hf => imp_congr_right fun hs => ?_
  have hi := slot_of_file hw hp hf
  by_cases hlive : (fs.table request.parentClusterNumber i).Live
  · have he : fs.volume.Entry request.parentClusterNumber i (fs.table request.parentClusterNumber i).item :=
      ⟨hp, item_of_live hi hlive⟩
    obtain ⟨l, hl, hlen, hu⟩ := hw.sound.chain he
    rw [DirectoryEntry.blocks_of_file hf] at hlen
    rw [← hlen]
    constructor
    · rintro ⟨m, hm, hfit⟩
      obtain rfl := hm.unique (Walk.of_chain hl hu)
      exact ⟨hlive, hfit⟩
    · exact fun h => ⟨l, .of_chain hl hu, h.2⟩
  · refine iff_of_false ?_ fun h => hlive h.1
    rintro ⟨l, hl, -⟩
    rw [hw.dead hp i hi hlive] at hl
    cases hl with
    | step _ hword hnext =>
      rw [WellFormed.word_zero hw] at hword
      obtain rfl := Option.some.inj hword
      cases hnext with
      | step _ hword _ =>
        rw [word_cluster0Value] at hword
        cases hword

theorem buffer_discipline_iff (img : KernelImage) (hw : fs.WellFormed) (request : DriverRequest) :
    ((∀ fuel, (loggedRead fuel fs request).2 = read fuel fs request) ∧
      (loggedReadDirectory fs request).2 = readDirectory fs request ∧
      (loggedWrite img fs request).2 = write img fs request) ∧
    (Disciplined img fs request ↔
      ReadFits fs request ∧ (StoresFile fs request → 2048 ∣ request.bufferSize.toNat)) ∧
    (fs.volume.IsDir request.parentClusterNumber →
      (ReadFits fs request ↔ ∀ i, FirstMatch (fs.table request.parentClusterNumber) request i →
        ¬ (fs.table request.parentClusterNumber i).IsFolder →
        (fs.table request.parentClusterNumber i).filesize ≤ request.bufferSize →
        (fs.table request.parentClusterNumber i).Live ∧
        2048 * (((fs.table request.parentClusterNumber i).filesize.toNat + 2047) / 2048) ≤
          request.bufferSize.toNat)) :=
  ⟨⟨loggedRead_snd, loggedReadDirectory_snd, loggedWrite_snd⟩, disciplined_iff hw, readFits_of_isDir hw⟩

lemma hello_misaligned : ¬ 2048 ∣ helloRequest.bufferSize.toNat := by decide

lemma hello_accepted : Accepted formatted helloRequest 2 := formatted_accepts rfl (by decide)

lemma hello_stores : StoresFile formatted helloRequest where
  file := by decide
  accepted := ⟨2, hello_accepted⟩
  left := by
    rw [formatted, createFat32_fatTable, emptyClusters_formattedMap]
    decide
  enough := by
    rw [WellFormed.enoughEmptyCluster_iff formatted_wellFormed, numberOfPartition_eq]
    exact Nat.le_add_right_of_le hello_fits

lemma hello_found {k : ℕ} {l : List ℕ} (hkl : k :: l =
      (emptyClusters formatted.driver.fatTable).take (numberOfPartition helloRequest.bufferSize)) :
    Written formatted (fileWritten formatted helloRequest 2 k l) helloRequest 2 (fileEntry formatted
      helloRequest 2 k) ((k :: l).map UInt32.ofNat) ∧
    FirstMatch ((fileWritten formatted helloRequest 2 k l).table rootClusterNumber) helloRequest 2 := by
  have hh := writeFile_written formatted_wellFormed formatted_isDir hello_accepted (by decide)
    (by rw [numberOfPartition_eq]; exact hello_fits) hkl
  have hslot : (fileWritten formatted helloRequest 2 k l).table rootClusterNumber 2 =
    fileEntry formatted helloRequest 2 k := hh.added.slot_self
  have hparent : (fileWritten formatted helloRequest 2 k l).table rootClusterNumber =
    update (formatted.table rootClusterNumber) 2 (fileEntry formatted helloRequest 2 k) := hh.added.parent
  refine ⟨hh, by rw [hslot]; rfl, by rw [hslot]; rfl, fun j hj hm => ?_⟩
  rw [hparent, update_of_ne hj.ne] at hm
  rcases formatted_name j with hn | hn
  · exact absurd (hn.symm.trans hm.1) (by decide)
  · exact absurd (hn.symm.trans hm.1) (by decide)

theorem buffer_overrun_hello : formatted.WellFormed ∧ ¬ Disciplined plainImage formatted helloRequest ∧
    ∃ fs', write plainImage formatted helloRequest = .returned 0 fs' ∧ fs'.WellFormed ∧
      ¬ ReadFits fs' helloRequest ∧ ¬ Disciplined plainImage fs' helloRequest := by
  refine ⟨formatted_wellFormed, fun h => ?_, ?_⟩
  · exact hello_misaligned (((disciplined_iff formatted_wellFormed).mp h).2 hello_stores)
  obtain ⟨k, l, hkl, hwr⟩ := write_fits formatted_wellFormed plainImage hello_accepted (by decide)
    (by rw [numberOfPartition_eq]; exact hello_fits)
  obtain ⟨hh, hm⟩ := hello_found hkl
  have hslot : (fileWritten formatted helloRequest 2 k l).table rootClusterNumber 2 =
    fileEntry formatted helloRequest 2 k := hh.added.slot_self
  have hp : (fileWritten formatted helloRequest 2 k l).volume.IsDir helloRequest.parentClusterNumber :=
    Volume.isDir_root
  have hfits : ¬ ReadFits (fileWritten formatted helloRequest 2 k l) helloRequest := by
    intro h
    have hsize := (readFits_of_isDir hh.wellFormed hp).mp h 2 hm
    rw [show helloRequest.parentClusterNumber = rootClusterNumber from rfl, hslot] at hsize
    have hsize := (hsize file_not_folder (UInt32.le_refl _)).2
    rw [show (fileEntry formatted helloRequest 2 k).filesize = helloRequest.bufferSize from rfl] at hsize
    exact absurd hsize (by decide)
  exact ⟨_, hwr, hh.wellFormed, hfits, fun h => hfits ((disciplined_iff hh.wellFormed).mp h).1⟩

theorem buffer_discipline_nearlyFull : nearlyFull.WellFormed ∧ Disciplined plainImage nearlyFull fillRequest := by
  have hw := nearlyFull_written.wellFormed
  have hp : nearlyFull.volume.IsDir fillRequest.parentClusterNumber := Volume.isDir_root
  obtain ⟨-, hiff, hdir⟩ := buffer_discipline_iff plainImage hw fillRequest
  refine ⟨hw, hiff.mpr ⟨(hdir hp).mpr fun i hm _ _ => ?_, fun _ => by decide⟩⟩
  obtain rfl := hm.unique fill_first
  refine ⟨fill_hasName.live, ?_⟩
  rw [show fillRequest.parentClusterNumber = rootClusterNumber from rfl, fill_entry]
  decide

end Semogakelar.Fat32
