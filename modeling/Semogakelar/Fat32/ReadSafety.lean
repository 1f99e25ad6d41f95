import Semogakelar.Fat32.Transfers

/-! The clusters that `read` copies out and the words of the map that it follows. -/

namespace Semogakelar.Fat32

open Library Function FileSystem Relation

variable {img : KernelImage} {fs fs' : FileSystem} {request : DriverRequest} {i : Fin 64}

inductive Walk (driver : DriverState) : UInt32 → List UInt32 → Prop
  | stop : Walk driver fatEndOfFile []
  | step {c next : UInt32} {l : List UInt32} : c ≠ fatEndOfFile → driver.word c.toNat = some next →
    Walk driver next l → Walk driver c (c :: l)

lemma Walk.of_chain {a : UInt32} {l : List UInt32} (h : Chain fs.volume.link a l) (hu : ∀ c ∈ l, Usable c) :
    Walk fs.driver a l := by
  induction h with
  | @last a hl =>
    have ha := hu a (by simp)
    refine .step ha.ne_end (word_of_usable ha) ?_
    rw [cell_of_link_last hl]
    exact .stop
  | @next a b l hl _ ih =>
    have ha := hu a (by simp)
    refine .step ha.ne_end (word_of_usable ha) ?_
    rw [cell_of_link_next hl]
    exact ih fun c hc => hu c (List.mem_cons_of_mem _ hc)

lemma Walk.unique {driver : DriverState} {c : UInt32} {l m : List UInt32} (h : Walk driver c l)
    (h' : Walk driver c m) : l = m := by
  induction h generalizing m with
  | stop =>
    cases h' with
    | stop => rfl
    | step hne _ _ => exact (hne rfl).elim
  | step hne hword _ ih =>
    cases h' with
    | stop => exact (hne rfl).elim
    | step _ hword' hwalk =>
      obtain rfl := Option.some.inj (hword.symm.trans hword')
      rw [ih hwalk]

lemma Walk.mem_touches {c : UInt32} {l : List UInt32} (h : Walk fs.driver c l) (fuel : ℕ) (t : Transfer) :
    ∀ x ∈ (loggedReadPartitions fs fuel c t).1, ∃ k, ∃ hk : k < l.length,
      x = .store (2048 * (t.clusters.length + k)) l[k] ∨ x = .index l[k].toNat := by
  induction h generalizing fuel t with
  | stop =>
    cases fuel with
    | zero => exact fun x hx => absurd hx List.not_mem_nil
    | succ fuel =>
      rw [loggedReadPartitions, if_pos rfl]
      exact fun x hx => absurd hx List.not_mem_nil
  | @step c next l hne hword _ ih =>
    cases fuel with
    | zero => exact fun x hx => absurd hx List.not_mem_nil
    | succ fuel =>
      rw [loggedReadPartitions, if_neg hne]
      simp only [hword, List.cons_append, List.nil_append, List.forall_mem_cons]
      refine ⟨⟨0, by simp, .inl rfl⟩, ⟨0, by simp, .inr rfl⟩, fun x hx => ?_⟩
      obtain ⟨k, hk, hx⟩ := ih fuel _ x hx
      have hlen : (t.copy fs.disk c).clusters.length = t.clusters.length + 1 := by simp [Transfer.copy]
      rw [hlen, Nat.add_assoc, Nat.add_comm 1 k] at hx
      exact ⟨k + 1, by simpa using hk, by simpa using hx⟩

lemma Walk.not_outside {c : UInt32} {l : List UInt32} (h : Walk fs.driver c l) (fuel : ℕ) (t t' : Transfer) :
    readPartitions fs fuel c t ≠ .outside t' := by
  induction h generalizing fuel t with
  | stop =>
    cases fuel with
    | zero => simp [readPartitions]
    | succ fuel =>
      rw [readPartitions, if_pos rfl]
      simp
  | @step c next l hne hword _ ih =>
    cases fuel with
    | zero => simp [readPartitions]
    | succ fuel =>
      rw [readPartitions, if_neg hne]
      simp only [hword]
      exact ih fuel _

lemma Selects.loggedRead_eq (h : Selects fs request i) (fuel : ℕ) : loggedRead fuel fs request =
    loggedReadPartitions fs fuel (fs.table request.parentClusterNumber i).clusterNumber ⟨request.buf, []⟩ := by
  have hpar : ¬ (fs.table request.parentClusterNumber 0).attr ≠ attrSubdirectory := not_not.mpr h.parent
  rw [loggedRead]
  simp only
  rw [if_neg hpar, findEntry_eq_some.mpr h.first]
  exact (if_neg h.file).trans (if_neg (UInt32.not_lt.mpr h.size))

lemma loggedRead_refused (h : ∀ i, ¬ Selects fs request i) (fuel : ℕ) : (loggedRead fuel fs request).1 = [] := by
  rw [loggedRead]
  simp only
  split_ifs with hpar
  · rfl
  cases hm : findEntry (fs.table request.parentClusterNumber) request with
  | none => rfl
  | some i =>
    simp only
    split_ifs with hf hs
    · rfl
    · rfl
    · exact (h i ⟨not_not.mp hpar, findEntry_eq_some.mp hm, hf, UInt32.not_lt.mp hs⟩).elim

structure ReadSafe (fs : FileSystem) (request : DriverRequest) : Prop where
  returns : ∃ enough code t, ∀ fuel, enough ≤ fuel → read fuel fs request = .returned code t
  indices : ∀ fuel j, .index j ∈ (loggedRead fuel fs request).1 → j < 512
  copies : ∀ fuel o c, .store o c ∈ (loggedRead fuel fs request).1 →
    (∃ i l, 2 ≤ i.val ∧ (fs.table request.parentClusterNumber i).Live ∧
      ¬ (fs.table request.parentClusterNumber i).IsFolder ∧
      Chain fs.volume.link (fs.table request.parentClusterNumber i).clusterNumber l ∧ c ∈ l) ∧
    c ≠ bootSector ∧ c ≠ fatClusterNumber ∧ ¬ fs.volume.IsDir c

section

variable (hw : fs.WellFormed) (hp : fs.volume.IsDir request.parentClusterNumber)
include hw hp

lemma file_clusters (hi : 2 ≤ i.val) (hlive : (fs.table request.parentClusterNumber i).Live)
    (hf : ¬ (fs.table request.parentClusterNumber i).IsFolder) {l : List UInt32}
    (hl : Chain fs.volume.link (fs.table request.parentClusterNumber i).clusterNumber l) {c : UInt32}
    (hc : c ∈ l) :
    c.toNat < 512 ∧ c ≠ bootSector ∧ c ≠ fatClusterNumber ∧ ¬ fs.volume.IsDir c := by
  have he : fs.volume.Entry request.parentClusterNumber i (fs.table request.parentClusterNumber i).item :=
    ⟨hp, item_of_live hi hlive⟩
  have hu := (hw.sound.entry_chain he hl).2 c hc
  refine ⟨hu.lt, hu.ne_boot, hu.ne_fat, fun hd => hf ?_⟩
  exact of_decide_eq_true (hw.sound.dir_in_chain hd he hl hc).1

lemma readSafe_of_live (h : Selects fs request i) (hlive : (fs.table request.parentClusterNumber i).Live) :
    ReadSafe fs request := by
  have hi := slot_of_file hw hp h.file
  obtain ⟨l, hl, -, hu⟩ := hw.sound.chain ⟨hp, item_of_live hi hlive⟩
  have htouch := (Walk.of_chain hl hu).mem_touches
  have hclusters := fun {k : ℕ} (hk : k < l.length) => file_clusters hw hp hi hlive h.file hl (List.getElem_mem hk)
  refine ⟨⟨l.length + 1, 0, _, fun fuel hfuel => read_file hw hp h.first hi hlive h.file h.size hl hfuel⟩,
    fun fuel j hj => ?_, fun fuel o c hc => ?_⟩
  · rw [h.loggedRead_eq] at hj
    obtain ⟨k, hk, hx | hx⟩ := htouch fuel _ _ hj
    · cases hx
    · obtain rfl := Touch.index.inj hx
      exact (hclusters hk).1
  · rw [h.loggedRead_eq] at hc
    obtain ⟨k, hk, hx | hx⟩ := htouch fuel _ _ hc
    · obtain ⟨rfl, rfl⟩ := Touch.store.inj hx
      exact ⟨⟨i, l, hi, hlive, h.file, hl, List.getElem_mem hk⟩, (hclusters hk).2⟩
    · cases hx

lemma readSafe_iff : ReadSafe fs request ↔
    ∀ i, FirstMatch (fs.table request.parentClusterNumber) request i →
      (fs.table request.parentClusterNumber i).Live := by
  constructor
  · intro h i hm
    by_contra hlive
    have hi : 2 ≤ i.val := by
      by_contra hlt
      obtain ⟨d, r, hn, -⟩ := reserved_names hw hp (by omega : i.val < 2)
      exact hlive hn.live
    obtain ⟨enough, code, t, hret⟩ := h.returns
    exact read_dead hw hp hm hi hlive enough code t (hret enough le_rfl)
  · intro h
    obtain ⟨i, hi⟩ | ⟨hnone, code, -, hrefused⟩ := read_cases fs request
    · exact readSafe_of_live hw hp hi (h i hi.first)
    · refine ⟨⟨0, code, _, fun fuel _ => hrefused fs fuel rfl⟩, fun fuel j hj => ?_, fun fuel o c hc => ?_⟩
      · rw [loggedRead_refused hnone] at hj
        exact absurd hj List.not_mem_nil
      · rw [loggedRead_refused hnone] at hc
        exact absurd hc List.not_mem_nil

end

theorem safeRun_read_safe_iff {start : FileSystem} (hrun : ReflTransGen (SafeStep img) (createFat32 img start) fs)
    (hp : fs.volume.IsDir request.parentClusterNumber) :
    (∀ fuel, (loggedRead fuel fs request).2 = read fuel fs request) ∧
    (ReadSafe fs request ↔ ∀ i, FirstMatch (fs.table request.parentClusterNumber) request i →
      (fs.table request.parentClusterNumber i).Live) :=
  ⟨loggedRead_snd, readSafe_iff (safeRun_wellFormed hrun) hp⟩

def unnamedRequest : DriverRequest := ⟨fun _ => 0, fun _ => 0, fun _ => 0, rootClusterNumber, 2048⟩

lemma unnamed_first : FirstMatch (formatted.table rootClusterNumber) unnamedRequest 2 := by
  have hzero := formatted_rootTable.2.2 2 le_rfl
  refine ⟨by rw [hzero]; rfl, by rw [hzero]; rfl, fun j hj hm => ?_⟩
  have hname : (formatted.table rootClusterNumber j).name = rootName := by
    rw [formatted, createFat32_table]
    rcases (by simp only [Fin.lt_def, Fin.val_two] at hj; omega : j.val = 0 ∨ j.val = 1) with h | h
    · rw [show j = 0 from Fin.ext h, update_of_ne (by decide), update_self]
      rfl
    · rw [show j = 1 from Fin.ext h, update_self]
      rfl
  exact absurd (hname.symm.trans hm.1) (by decide)

theorem read_unsafe_formatted : ReflTransGen (SafeStep plainImage) formatted formatted ∧
    formatted.volume.IsDir unnamedRequest.parentClusterNumber ∧ ¬ ReadSafe formatted unnamedRequest ∧
    .store 0 bootSector ∈ (loggedRead 2 formatted unnamedRequest).1 ∧
    .index cluster0Value.toNat ∈ (loggedRead 2 formatted unnamedRequest).1 := by
  have hp : formatted.volume.IsDir unnamedRequest.parentClusterNumber := formatted_isDir
  have hzero : formatted.table unnamedRequest.parentClusterNumber 2 = .zero := formatted_rootTable.2.2 2 le_rfl
  have hsafe : ¬ ReadSafe formatted unnamedRequest := by
    intro h
    have hlive := (readSafe_iff formatted_wellFormed hp).mp h 2 unnamed_first
    rw [hzero] at hlive
    exact EntryAdded.not_live_zero hlive
  have hselects : Selects formatted unnamedRequest 2 :=
    ⟨parent_folder formatted_wellFormed hp, unnamed_first, hzero ▸ by decide, hzero ▸ by decide⟩
  have hlog : (loggedRead 2 formatted unnamedRequest).1 =
      [.store 0 bootSector, .index 0, .store 2048 cluster0Value, .index cluster0Value.toNat] := by
    rw [hselects.loggedRead_eq, hzero, loggedReadPartitions, if_neg (by decide)]
    simp only [WellFormed.word_zero formatted_wellFormed]
    rw [loggedReadPartitions, if_neg (by decide)]
    simp only [word_cluster0Value]
    rfl
  rw [hlog]
  exact ⟨.refl, hp, hsafe, by simp, by simp⟩

theorem safeRun_read_safe_nearlyFull : ReflTransGen (SafeStep plainImage) formatted nearlyFull ∧
    nearlyFull.volume.IsDir fillRequest.parentClusterNumber ∧ ReadSafe nearlyFull fillRequest := by
  have hrun : ReflTransGen (SafeStep plainImage) formatted nearlyFull :=
    .single (.write formatted_isDir fill_not_overcommits write_fill)
  have hp : nearlyFull.volume.IsDir fillRequest.parentClusterNumber := Volume.isDir_root
  refine ⟨hrun, hp, (safeRun_read_safe_iff hrun hp).2.mpr fun i hm => ?_⟩
  obtain rfl := hm.unique fill_first
  exact fill_hasName.live

end Semogakelar.Fat32
