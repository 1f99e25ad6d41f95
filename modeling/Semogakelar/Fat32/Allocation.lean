import Semogakelar.Fat32.WellFormed
import Mathlib.Data.List.Chain
import Mathlib.Data.List.FinRange

/-! First-fit allocation: the empty words of the packed driver state and the loop that links them. -/

namespace Semogakelar.Fat32

open Library Function

def emptyClusters (m : ClusterMap) : List ℕ :=
  (List.range 512).filter fun i => cell m (UInt32.ofNat i) == fatEmptyEntry

namespace DriverState

variable {d : DriverState} {i j : ℕ} {v : UInt32}

lemma word_of_lt (h : i < 512) : d.word i = some (d.fatTable ⟨i, h⟩) := dif_pos h

lemma word_setWord_self (h : i < 1536) : (d.setWord i v).word i = some v := by
  unfold setWord
  split_ifs with h₁ h₂ h₃
  · simp [word, h₁]
  · simp [word, h₁, h₂]
  · simp [word, h₁, h₂, h₃]
  · omega

lemma word_setWord_ne (h : j ≠ i) : (d.setWord i v).word j = d.word j := by
  unfold setWord
  split_ifs with h₁ h₂ h₃
  · unfold word
    split_ifs with hj
    · exact congrArg some (update_of_ne (fun he => h (Fin.mk.inj he)) _ _)
    all_goals rfl
  · unfold word
    split_ifs with hj hj'
    · rfl
    · have hne : (⟨j - 512, hj'⟩ : Fin 512) ≠ ⟨i - 512, h₂⟩ := fun he => by
        have := Fin.mk.inj he
        omega
      simp [update_of_ne hne]
    all_goals rfl
  · unfold word
    split_ifs with hj hj' hj''
    · rfl
    · rfl
    · have hne : (⟨j - 1024, hj''⟩ : Fin 512) ≠ ⟨i - 1024, h₃⟩ := fun he => by
        have := Fin.mk.inj he
        omega
      simp [update_of_ne hne]
    · rfl
  · rfl

lemma fatTable_setWord_of_lt (h : i < 512) : (d.setWord i v).fatTable = update d.fatTable ⟨i, h⟩ v := by
  simp [setWord, h]

lemma fatTable_eq_of_word (d d' : DriverState) {i : Fin 512} (h : d'.word i = d.word i) :
    d'.fatTable i = d.fatTable i := by
  rw [word_of_lt i.isLt, word_of_lt i.isLt] at h
  exact Option.some.inj h

def emptyFrom (d : DriverState) (i : ℕ) : List ℕ :=
  (List.range' i (1536 - i)).filter fun j => d.word j == some fatEmptyEntry

lemma mem_emptyFrom : j ∈ d.emptyFrom i ↔ i ≤ j ∧ j < 1536 ∧ d.word j = some fatEmptyEntry := by
  simp only [emptyFrom, List.mem_filter, List.mem_range'_1, beq_iff_eq, ← and_assoc]
  exact and_congr_left fun _ => by omega

lemma emptyFrom_pairwise (d : DriverState) (i : ℕ) : (d.emptyFrom i).Pairwise (· < ·) :=
  List.Pairwise.filter _ List.pairwise_lt_range'

lemma emptyFrom_congr {d' : DriverState} (h : ∀ j, i ≤ j → d'.word j = d.word j) :
    d'.emptyFrom i = d.emptyFrom i := by
  apply List.filter_congr
  intro j hj
  rw [h j (List.mem_range'_1.mp hj).1]

lemma emptyFrom_setWord (h : i < j) : (d.setWord i v).emptyFrom j = d.emptyFrom j :=
  emptyFrom_congr fun _ hk => word_setWord_ne (by omega)

lemma emptyFrom_append {k : ℕ} (hi : i ≤ k) (hk : k ≤ 1536) :
    d.emptyFrom i =
      (List.range' i (k - i)).filter (fun j => d.word j == some fatEmptyEntry) ++ d.emptyFrom k := by
  unfold emptyFrom
  rw [← List.filter_append, show 1536 - i = (k - i) + (1536 - k) by omega, ← List.range'_append_1,
    show i + (k - i) = k by omega]

lemma emptyFrom_eq_cons {k : ℕ} (hi : i ≤ k) (hk : k < 1536) (he : d.word k = some fatEmptyEntry)
    (hmin : ∀ j, i ≤ j → j < k → d.word j ≠ some fatEmptyEntry) :
    d.emptyFrom i = k :: d.emptyFrom (k + 1) := by
  have hnone : (List.range' i (k - i)).filter (fun j => d.word j == some fatEmptyEntry) = [] := by
    rw [List.filter_eq_nil_iff]
    intro j hj
    have hj := List.mem_range'_1.mp hj
    simpa using hmin j hj.1 (by omega)
  have hone : (List.range' k (k + 1 - k)).filter (fun j => d.word j == some fatEmptyEntry) = [k] := by
    rw [Nat.add_sub_cancel_left]
    simp [he]
  rw [emptyFrom_append hi hk.le, hnone, List.nil_append, emptyFrom_append (Nat.le_succ k) hk, hone,
    List.singleton_append]

lemma nextEmptyCluster_eq_some {k : Fin 1536} (h : nextEmptyCluster d i = some k) :
    d.emptyFrom i = k.val :: d.emptyFrom (k.val + 1) := by
  obtain ⟨hk, hmin⟩ := Fin.find?_eq_some_iff.mp h
  simp only [Bool.and_eq_true, decide_eq_true_eq, beq_iff_eq] at hk
  refine emptyFrom_eq_cons hk.1 k.isLt hk.2 fun j hi hj => ?_
  simpa [hi] using hmin ⟨j, by omega⟩ hj

lemma nextEmptyCluster_eq_none (h : nextEmptyCluster d i = none) : d.emptyFrom i = [] := by
  rw [nextEmptyCluster, Fin.find?_eq_none_iff] at h
  rw [List.eq_nil_iff_forall_not_mem]
  intro j hj
  obtain ⟨hi, hlt, he⟩ := mem_emptyFrom.mp hj
  have hj := h ⟨j, hlt⟩
  simp [hi, he] at hj

lemma findEmptyCluster_eq_some {k : Fin 512} (h : findEmptyCluster d.fatTable = some k) :
    d.emptyFrom 0 = k.val :: d.emptyFrom (k.val + 1) := by
  obtain ⟨hk, hmin⟩ := Fin.find?_eq_some_iff.mp h
  refine emptyFrom_eq_cons (Nat.zero_le _) (by omega) ?_ fun j _ hj => ?_
  · rw [word_of_lt k.isLt]
    simpa using hk
  · rw [word_of_lt (by omega)]
    simpa using hmin ⟨j, by omega⟩ hj

lemma emptyFrom_zero (d : DriverState) : d.emptyFrom 0 = emptyClusters d.fatTable ++ d.emptyFrom 512 := by
  rw [emptyFrom_append (Nat.zero_le 512) (by decide), emptyClusters, List.range_eq_range', Nat.sub_zero]
  refine congrArg (· ++ _) (List.filter_congr fun j hj => ?_)
  have hj : j < 512 := by simpa using (List.mem_range'_1.mp hj).2
  rw [word_of_lt hj, show UInt32.ofNat j = UInt32.ofNat (⟨j, hj⟩ : Fin 512) from rfl, cell_ofNat]
  simp

lemma emptyFrom_512 (d : DriverState) :
    d.emptyFrom 512 = (if d.word 512 = some fatEmptyEntry then [512] else []) ++ d.emptyFrom 513 := by
  rw [emptyFrom_append (by decide : 512 ≤ 513) (by decide)]
  refine congrArg (· ++ _) ?_
  rw [show 513 - 512 = 1 from rfl, List.range'_one]
  by_cases hw : d.word 512 = some fatEmptyEntry <;> simp [hw]

lemma enoughEmptyClusterLoop_eq (required fuel idx count : ℕ) (h : count ≤ required) :
    enoughEmptyClusterLoop d required fuel idx count = decide (required ≤ count +
      ((List.range' (idx + 1) fuel).filter fun j => d.word j == some fatEmptyEntry).length) := by
  induction fuel generalizing idx count with
  | zero =>
    simp only [enoughEmptyClusterLoop, List.range'_zero, List.filter_nil, List.length_nil, Nat.add_zero]
    rw [Bool.eq_iff_iff, beq_iff_eq, decide_eq_true_eq]
    omega
  | succ fuel ih =>
    rw [enoughEmptyClusterLoop, List.range'_succ]
    split_ifs with hlt hw
    · rw [ih _ _ (by omega), List.filter_cons_of_pos (by simpa using hw), List.length_cons]
      congr 2
      omega
    · rw [ih _ _ h, List.filter_cons_of_neg (by simpa using hw)]
    · rw [Bool.eq_iff_iff, beq_iff_eq, decide_eq_true_eq]
      omega

/-- The count runs over the words 3 to 512, so it takes the first word of `dir_table_buf` for a cell. -/
lemma enoughEmptyCluster_iff (hr : ∀ j < 3, d.word j ≠ some fatEmptyEntry) (required : ℕ) :
    enoughEmptyCluster d required = true ↔ required ≤
      (emptyClusters d.fatTable).length + if d.word 512 = some fatEmptyEntry then 1 else 0 := by
  have hlow : (List.range' 0 (3 - 0)).filter (fun j => d.word j == some fatEmptyEntry) = [] := by
    rw [List.filter_eq_nil_iff]
    intro j hj
    simpa using hr j (by simpa using (List.mem_range'_1.mp hj).2)
  have hsum := congrArg List.length (emptyFrom_append (d := d) (Nat.zero_le 3) (by decide))
  rw [hlow, List.nil_append, emptyFrom_append (by decide : 3 ≤ 513) (by decide), emptyFrom_zero, emptyFrom_512]
    at hsum
  simp only [List.length_append] at hsum
  rw [enoughEmptyCluster, enoughEmptyClusterLoop_eq _ _ _ _ (Nat.zero_le _), decide_eq_true_eq]
  have hif : (if d.word 512 = some fatEmptyEntry then [512] else []).length =
      if d.word 512 = some fatEmptyEntry then 1 else 0 := by split <;> rfl
  rw [hif] at hsum
  have hrange : (List.range' 3 (513 - 3)).filter (fun j => d.word j == some fatEmptyEntry) =
      (List.range' (2 + 1) (512 - 2)).filter (fun j => d.word j == some fatEmptyEntry) := rfl
  rw [hrange] at hsum
  omega

end DriverState

def linkWords : List ℕ → DriverState → DriverState
  | [], d => d
  | [i], d => d.setWord i fatEndOfFile
  | i :: j :: l, d => linkWords (j :: l) (d.setWord i (UInt32.ofNat j))

def writeChunks (buf : ℕ → UInt8) : ℕ → List ℕ → Disk → Disk
  | _, [], disk => disk
  | n, i :: l, disk => writeChunks buf (n + 1) l (writeClusters disk (UInt32.ofNat i) (chunk buf n))

def allocated (buf : ℕ → UInt8) (n : ℕ) (l : List ℕ) (fs : FileSystem) : FileSystem :=
  { fs with
    driver := linkWords l fs.driver
    disk := writeClusters (writeChunks buf n l fs.disk) fatClusterNumber
      (mapEquiv.symm (linkWords l fs.driver).fatTable) }

lemma allocated_cons_cons (buf : ℕ → UInt8) (n i j : ℕ) (l : List ℕ) (fs : FileSystem) :
    allocated buf n (i :: j :: l) fs = allocated buf (n + 1) (j :: l) { fs with
      driver := fs.driver.setWord i (UInt32.ofNat j)
      disk := writeClusters fs.disk (UInt32.ofNat i) (chunk buf n) } := rfl

lemma writePartitions_succ {buf : ℕ → UInt8} {left n idx : ℕ} {fs : FileSystem} {k : Fin 1536}
    (h : nextEmptyCluster fs.driver (idx + 1) = some k) :
    writePartitions buf (left + 1) n idx fs = writePartitions buf left (n + 1) k { fs with
      driver := fs.driver.setWord idx (UInt32.ofNat k)
      disk := writeClusters fs.disk (UInt32.ofNat idx) (chunk buf n) } := by
  rw [writePartitions, h, Option.elim_some]

lemma writePartitions_eq (buf : ℕ → UInt8) (left n idx : ℕ) (fs : FileSystem)
    (h : left ≤ (fs.driver.emptyFrom (idx + 1)).length) :
    writePartitions buf left n idx fs =
      .returned 0 (allocated buf n (idx :: (fs.driver.emptyFrom (idx + 1)).take left) fs) := by
  induction left generalizing n idx fs with
  | zero =>
    rw [List.take_zero]
    rfl
  | succ left ih =>
    cases hn : nextEmptyCluster fs.driver (idx + 1) with
    | none => simp [DriverState.nextEmptyCluster_eq_none hn] at h
    | some k =>
      have he := DriverState.nextEmptyCluster_eq_some hn
      have hk : k.val ∈ fs.driver.emptyFrom (idx + 1) := by
        rw [he]
        exact List.mem_cons_self
      have hk := (DriverState.mem_emptyFrom.mp hk).1
      rw [he, List.length_cons, Nat.add_le_add_iff_right] at h
      have hsame : ∀ v, (fs.driver.setWord idx v).emptyFrom (k + 1) = fs.driver.emptyFrom (k + 1) :=
        fun v => DriverState.emptyFrom_setWord (by omega)
      rw [he, List.take_succ_cons, writePartitions_succ hn, ih _ _ _ (by rw [hsame]; exact h), hsame,
        allocated_cons_cons]

variable {d : DriverState} {l : List ℕ} {i n : ℕ}

lemma linkWords_word_of_not_mem (h : i ∉ l) : (linkWords l d).word i = d.word i := by
  fun_induction linkWords l d with
  | case1 => rfl
  | case2 j d => exact DriverState.word_setWord_ne (by simpa using h)
  | case3 j k l d ih =>
    rw [ih (fun hm => h (List.mem_cons_of_mem _ hm)),
      DriverState.word_setWord_ne (by rintro rfl; exact h List.mem_cons_self)]

lemma linkWords_isChain (hp : l.Pairwise (· < ·)) (hb : ∀ i ∈ l, i < 1536) :
    l.IsChain fun i j => i < j ∧ (linkWords l d).word i = some (UInt32.ofNat j) := by
  fun_induction linkWords l d with
  | case1 => exact .nil
  | case2 j d => exact .singleton j
  | case3 j k l d ih =>
    rw [List.pairwise_cons] at hp
    refine .cons_cons ⟨hp.1 k List.mem_cons_self, ?_⟩ (ih hp.2 fun i hi => hb i (List.mem_cons_of_mem _ hi))
    rw [linkWords_word_of_not_mem (fun hm => lt_irrefl _ (hp.1 j hm))]
    exact DriverState.word_setWord_self (hb j List.mem_cons_self)

lemma linkWords_last (hb : ∀ i ∈ l, i < 1536) (hl : l.getLast? = some i) :
    (linkWords l d).word i = some fatEndOfFile := by
  fun_induction linkWords l d with
  | case1 => simp at hl
  | case2 j d =>
    obtain rfl : j = i := by simpa using hl
    exact DriverState.word_setWord_self (hb j List.mem_cons_self)
  | case3 j k l d ih =>
    rw [List.getLast?_cons_cons] at hl
    exact ih (fun i hi => hb i (List.mem_cons_of_mem _ hi)) hl

lemma toNat_ofNat_of_lt (h : i < 1536) : (UInt32.ofNat i).toNat = i := by
  rw [UInt32.toNat_ofNat']
  exact Nat.mod_eq_of_lt (by omega)

lemma ofNat_injOn {j : ℕ} (hi : i < 1536) (hj : j < 1536) (h : UInt32.ofNat i = UInt32.ofNat j) : i = j := by
  rw [← toNat_ofNat_of_lt hi, h, toNat_ofNat_of_lt hj]

lemma linkOf_ofNat (h : 3 ≤ i) (hb : i < 1536) : linkOf (UInt32.ofNat i) = .next (UInt32.ofNat i) := by
  have ht := toNat_ofNat_of_lt hb
  refine linkOf_eq_next.mpr ⟨rfl, fun he => ?_, fun he => ?_⟩
  · rw [he, fatEmptyEntry, UInt32.toNat_zero] at ht
    omega
  · rw [he, show fatEndOfFile.toNat = 0x0FFFFFFF from rfl] at ht
    omega

lemma read_writeChunks_of_not_mem (buf : ℕ → UInt8) (disk : Disk) {c : UInt32} (hc : c.toNat < 2 ^ 26)
    (hb : ∀ i ∈ l, i < 1536) (h : c.toNat ∉ l) :
    readClusters (writeChunks buf n l disk) c = readClusters disk c := by
  induction l generalizing n disk with
  | nil => rfl
  | cons i l ih =>
    have hi := toNat_ofNat_of_lt (hb i List.mem_cons_self)
    rw [writeChunks, ih _ (fun i hi => hb i (List.mem_cons_of_mem _ hi)) (fun hm => h (List.mem_cons_of_mem _ hm)),
      read_write_ne _ _ (by have := hb i List.mem_cons_self; omega) hc]
    intro he
    rw [he, hi] at h
    exact h List.mem_cons_self

lemma read_writeChunks_getElem (buf : ℕ → UInt8) (disk : Disk) (hb : ∀ i ∈ l, i < 1536) (hn : l.Nodup)
    (k : ℕ) (hk : k < l.length) :
    readClusters (writeChunks buf n l disk) (UInt32.ofNat l[k]) = chunk buf (n + k) := by
  induction l generalizing n disk k with
  | nil => simp at hk
  | cons i l ih =>
    have hb' : ∀ i ∈ l, i < 1536 := fun i hi => hb i (List.mem_cons_of_mem _ hi)
    rw [List.nodup_cons] at hn
    cases k with
    | zero =>
      have hi := hb i List.mem_cons_self
      have ht := toNat_ofNat_of_lt hi
      rw [writeChunks, List.getElem_cons_zero,
        read_writeChunks_of_not_mem buf _ (by omega) hb' (ht.symm ▸ hn.1), read_write_self]
      rfl
    | succ k =>
      rw [writeChunks, List.getElem_cons_succ, ih _ hb' hn.2 k (by simpa using hk), Nat.add_right_comm]
      rfl

end Semogakelar.Fat32
