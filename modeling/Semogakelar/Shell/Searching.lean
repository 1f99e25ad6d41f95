import Mathlib.Data.List.TakeWhile
import Mathlib.Data.Set.Card
import Semogakelar.Library.Traversals
import Semogakelar.Shell.Moving

/-! When `find` finds every entry with a name: its queue has no tail index, so the folders of one directory may be
put over those of another. -/

namespace Semogakelar.Shell

open Library Fat32 FileSystem Function

/-! ### The scan of a directory -/

def slots : List (Fin 64) := (List.finRange 64).drop 2

def queued (entry : DirectoryEntry) : Option UInt32 :=
  if entry.Live ∧ entry.IsFolder then some entry.clusterLow.toUInt32 else none

def subfolders (fs : FileSystem) (d : UInt32) : List UInt32 := slots.filterMap fun i => queued (fs.table d i)

def hits (env : Env) (fs : FileSystem) (goal : Str) (d : UInt32) : ℕ :=
  slots.countP fun i => currName env (fs.table d i).name = goal

def storeAll (queue : ℕ → UInt32) : ℕ → List UInt32 → ℕ → UInt32
  | _, [] => queue
  | k, c :: l => storeAll (update queue k c) (k + 1) l

variable {env : Env} {fs : FileSystem} {goal : Str} {d c : UInt32} {i j : Fin 64} {s : Search} {l : List UInt32}
  {w : World}

lemma mem_slots : i ∈ slots ↔ 2 ≤ i.val := by
  revert i
  decide

lemma slots_pairwise : slots.Pairwise (· < ·) := by
  rw [slots]
  exact (List.pairwise_lt_finRange 64).sublist (List.drop_sublist 2 _)

lemma storeAll_apply (queue : ℕ → UInt32) (k j : ℕ) :
    storeAll queue k l j = if k ≤ j then (l[j - k]?).getD (queue j) else queue j := by
  induction l generalizing queue k with
  | nil => simp [storeAll]
  | cons c l ih =>
    rw [storeAll, ih]
    rcases lt_trichotomy j k with hlt | rfl | hlt
    · rw [if_neg (by omega), if_neg (by omega), update_of_ne (by omega)]
    · simp
    · rw [if_pos (by omega), if_pos (by omega), update_of_ne (by omega),
        show j - k = j - (k + 1) + 1 by omega, List.getElem?_cons_succ]

lemma storeAll_putOver {queue queue₀ : ℕ → UInt32} {pending : List UInt32} {k : ℕ}
    (h : ∀ j, queue (k + j) = ((d :: pending)[j]?).getD (queue₀ (k + j))) (j : ℕ) :
    storeAll queue (k + 1) l (k + 1 + j) = ((putOver l pending)[j]?).getD (queue₀ (k + 1 + j)) := by
  have hold := h (j + 1)
  rw [List.getElem?_cons_succ, show k + (j + 1) = k + 1 + j by omega] at hold
  rw [storeAll_apply, if_pos (by omega), Nat.add_sub_cancel_left, getElem?_putOver, hold]
  split_ifs with hj
  · rw [List.getElem?_eq_getElem hj, Option.getD_some, Option.getD_some]
  · rw [List.getElem?_eq_none (by omega), Option.getD_none]

lemma searchEntry_eq (htrack : (trackToParent fs env.fuel d []).isSome) (entry : DirectoryEntry)
    (hfit : s.tempIdx + (queued entry).toList.length ≤ 2048) :
    searchEntry env fs goal d entry s = some
      ⟨storeAll s.queue s.tempIdx (queued entry).toList, s.tempIdx + (queued entry).toList.length,
        s.tracked ++ if currName env entry.name = goal then [d] else []⟩ := by
  obtain ⟨path, hpath⟩ := Option.isSome_iff_exists.mp htrack
  by_cases hfolder : entry.userAttribute = uattrNotEmpty ∧ entry.attr = attrSubdirectory
  · have hqueued : queued entry = some entry.clusterLow.toUInt32 := if_pos hfolder
    have hlt : s.tempIdx < 2048 := by
      rw [hqueued, Option.toList_some, List.length_singleton] at hfit
      omega
    unfold searchEntry
    by_cases hname : currName env entry.name = goal
    · simp [hname, hpath, hfolder, hlt, hqueued, storeAll]
    · simp [hname, hfolder, hlt, hqueued, storeAll]
  · have hqueued : queued entry = none := if_neg hfolder
    unfold searchEntry
    by_cases hname : currName env entry.name = goal
    · simp [hname, hpath, hfolder, hqueued, storeAll]
    · simp [hname, hfolder, hqueued, storeAll]

lemma storeAll_append (queue : ℕ → UInt32) (k : ℕ) (l l' : List UInt32) :
    storeAll queue k (l ++ l') = storeAll (storeAll queue k l) (k + l.length) l' := by
  induction l generalizing queue k with
  | nil => rfl
  | cons c l ih =>
    rw [List.cons_append, storeAll, storeAll, ih, List.length_cons, Nat.add_right_comm, Nat.add_assoc]

lemma foldlM_searchEntry (htrack : (trackToParent fs env.fuel d []).isSome) (is : List (Fin 64))
    (hfit : s.tempIdx + (is.filterMap fun i => queued (fs.table d i)).length ≤ 2048) :
    is.foldlM (fun s i => searchEntry env fs goal d (fs.table d i) s) s = some
      ⟨storeAll s.queue s.tempIdx (is.filterMap fun i => queued (fs.table d i)),
        s.tempIdx + (is.filterMap fun i => queued (fs.table d i)).length,
        s.tracked ++ List.replicate (is.countP fun i => currName env (fs.table d i).name = goal) d⟩ := by
  induction is generalizing s with
  | nil => simp [storeAll]
  | cons i is ih =>
    have hsplit : (i :: is).filterMap (fun i => queued (fs.table d i)) =
        (queued (fs.table d i)).toList ++ is.filterMap fun i => queued (fs.table d i) := by
      rw [List.filterMap_cons]
      cases queued (fs.table d i) <;> rfl
    have hcount : List.replicate ((i :: is).countP fun i => currName env (fs.table d i).name = goal) d =
        (if currName env (fs.table d i).name = goal then [d] else []) ++
          List.replicate (is.countP fun i => currName env (fs.table d i).name = goal) d := by
      rw [List.countP_cons]
      by_cases hname : currName env (fs.table d i).name = goal <;> simp [hname, List.replicate_succ]
    rw [hsplit, List.length_append] at hfit
    rw [List.foldlM_cons, searchEntry_eq htrack _ (by omega), hsplit, hcount, List.length_append, storeAll_append]
    refine (ih (by simp only; omega)).trans ?_
    rw [Nat.add_assoc, List.append_assoc]

/-! ### The tree that `find` walks -/

lemma mem_slots_filterMap : c ∈ subfolders fs d ↔ ∃ i : Fin 64, 2 ≤ i.val ∧ (fs.table d i).Live ∧
    (fs.table d i).IsFolder ∧ (fs.table d i).clusterLow.toUInt32 = c := by
  simp only [subfolders, queued, List.mem_filterMap, mem_slots, Option.ite_none_right_eq_some, Option.some.injEq,
    and_assoc]

section WellFormed

variable (hw : fs.WellFormed)
include hw

lemma nodup_dirs_length {l : List UInt32} (hn : l.Nodup) (hd : ∀ x ∈ l, fs.volume.IsDir x) : l.length ≤ 510 := by
  have hnodup : (l.map UInt32.toNat).Nodup := hn.map fun x y h => UInt32.toNat_inj.mp h
  have hsub : l.map UInt32.toNat ⊆ List.range' 2 510 := by
    intro n hm
    obtain ⟨x, hx, rfl⟩ := List.mem_map.mp hm
    have hlt := hw.dir_lt (hd x hx)
    exact List.mem_range'_1.mpr ⟨hlt.1, by omega⟩
  simpa using (hnodup.subperm hsub).length_le

lemma folder_clusterLow (hd : fs.volume.IsDir d) (hi : 2 ≤ i.val) (hf : (fs.table d i).IsFolder) :
    (fs.table d i).clusterLow.toUInt32 = (fs.table d i).clusterNumber := by
  have hlt := hw.dir_lt (folder_settled hw hd hi hf).1.isDir
  exact clusterLow_eq (by omega)

lemma mem_subfolders (hd : fs.volume.IsDir d) : c ∈ subfolders fs d ↔ ∃ i : Fin 64, 2 ≤ i.val ∧
    (fs.table d i).Live ∧ (fs.table d i).IsFolder ∧ (fs.table d i).clusterNumber = c := by
  rw [mem_slots_filterMap]
  refine exists_congr fun i => and_congr_right fun hi => and_congr_right fun _ => and_congr_right fun hf => ?_
  rw [folder_clusterLow hw hd hi hf]

lemma dir_of_mem_subfolders (hd : fs.volume.IsDir d) (hc : c ∈ subfolders fs d) : fs.volume.Dir c d := by
  obtain ⟨i, hi, -, hf, rfl⟩ := (mem_subfolders hw hd).mp hc
  exact (folder_settled hw hd hi hf).1

lemma below_iff : Below (subfolders fs) rootClusterNumber d ↔ fs.volume.IsDir d := by
  constructor
  · intro h
    induction h with
    | root => exact Volume.isDir_root
    | child _ hc ih => exact (dir_of_mem_subfolders hw ih hc).isDir
  · rintro ⟨p, h⟩
    induction h with
    | root => exact .root
    | @sub d p i e hd he hf ih =>
      obtain ⟨hi, hlive, rfl⟩ := item_eq_some.mp he
      exact .child ih ((mem_subfolders hw hd.isDir).mpr ⟨i, hi, hlive, of_decide_eq_true hf, rfl⟩)

lemma arborescent : Arborescent (subfolders fs) rootClusterNumber where
  nodup := by
    intro d hd
    have hd := (below_iff hw).mp hd
    rw [subfolders, List.Nodup, List.pairwise_filterMap]
    refine slots_pairwise.imp_of_mem fun {i j} hi hj hij c hc c' hc' he => hij.ne ?_
    simp only [queued, Option.ite_none_right_eq_some, Option.some.injEq] at hc hc'
    obtain ⟨⟨hli, hfi⟩, rfl⟩ := hc
    obtain ⟨⟨hlj, hfj⟩, rfl⟩ := hc'
    rw [mem_slots] at hi hj
    rw [folder_clusterLow hw hd hi hfi, folder_clusterLow hw hd hj hfj] at he
    exact (slot_unique hw hd hj hlj hd hi hli he).2
  parent := by
    intro d d' c hd hd' hc hc'
    exact hw.sound.dir_parent_unique (dir_of_mem_subfolders hw ((below_iff hw).mp hd) hc)
      (dir_of_mem_subfolders hw ((below_iff hw).mp hd') hc')
  top := by
    intro d hd hm
    obtain ⟨i, hi, hlive, -, he⟩ := (mem_subfolders hw ((below_iff hw).mp hd)).mp hm
    have hu := hw.sound.head_usable ⟨(below_iff hw).mp hd, item_of_live hi hlive⟩
    exact Usable.ne_root hu he

/-! ### The way up -/

def parentLink (fs : FileSystem) (d : UInt32) : Link UInt32 :=
  if d = rootClusterNumber then .last else .next (fs.table d 1).clusterNumber

lemma exists_ancestors (hd : fs.volume.IsDir d) : ∃ l, Chain (parentLink fs) d l ∧ ∀ x ∈ l, fs.volume.IsDir x := by
  obtain ⟨p, hd⟩ := hd
  induction hd with
  | root =>
    refine ⟨_, .last (if_pos rfl), fun x hx => ?_⟩
    obtain rfl := List.mem_singleton.mp hx
    exact Volume.isDir_root
  | @sub d p i e hd he hf ih =>
    obtain ⟨l, hl, hdirs⟩ := ih
    have hsub : fs.volume.Dir e.head d := .sub hd he hf
    have hne : e.head ≠ rootClusterNumber := Usable.ne_root (hw.sound.head_usable ⟨hd.isDir, he⟩)
    have hparent := (hw.parent hsub).cluster
    refine ⟨_, .next (b := d) (by rw [parentLink, if_neg hne, hparent]) hl, fun x hx => ?_⟩
    rcases List.mem_cons.mp hx with rfl | hx
    · exact hsub.isDir
    · exact hdirs x hx

lemma self_clusterLow (hd : fs.volume.IsDir d) : (fs.table d 0).clusterLow = 2 ↔ d = rootClusterNumber := by
  obtain ⟨p, hdir⟩ := hd
  have hlt := hw.dir_lt hdir.isDir
  have hself := (hw.self hdir).cluster
  have hlow := clusterLow_eq (e := fs.table d 0) (by rw [hself]; omega)
  rw [hself] at hlow
  rw [← UInt16.toUInt32_inj, hlow]
  exact Iff.rfl

lemma parent_clusterLow (hd : fs.volume.IsDir d) :
    (fs.table d 1).clusterLow.toUInt32 = (fs.table d 1).clusterNumber := by
  obtain ⟨p, hdir⟩ := hd
  have hlt := hw.dir_lt hdir.parent_isDir
  exact clusterLow_eq (by rw [(hw.parent hdir).cluster]; omega)

lemma trackToParent_of_chain (hl : Chain (parentLink fs) d l) (hd : ∀ x ∈ l, fs.volume.IsDir x) {fuel : ℕ}
    (hfuel : l.length ≤ fuel) (listPath : List Name) (hroom : listPath.length + l.length ≤ 511) :
    (trackToParent fs fuel d listPath).isSome := by
  induction hl generalizing fuel listPath with
  | @last d hlink =>
    obtain ⟨fuel, rfl⟩ : ∃ n, fuel = n + 1 := ⟨fuel - 1, by simp at hfuel; omega⟩
    have hroot : d = rootClusterNumber := by
      by_contra hne
      rw [parentLink, if_neg hne] at hlink
      cases hlink
    rw [List.length_singleton] at hroom
    rw [trackToParent, if_pos (by omega), if_pos ((self_clusterLow hw (hd d (by simp))).mpr hroot)]
    rfl
  | @next d p l hlink hl ih =>
    obtain ⟨fuel, rfl⟩ : ∃ n, fuel = n + 1 := ⟨fuel - 1, by simp at hfuel; omega⟩
    have hisDir := hd d (by simp)
    have hne : d ≠ rootClusterNumber := by
      rintro rfl
      rw [parentLink, if_pos rfl] at hlink
      cases hlink
    rw [parentLink, if_neg hne] at hlink
    rw [List.length_cons] at hroom hfuel
    rw [trackToParent, if_pos (by omega), if_neg (mt (self_clusterLow hw hisDir).mp hne),
      parent_clusterLow hw hisDir, Link.next.inj hlink]
    exact ih (fun x hx => hd x (List.mem_cons_of_mem _ hx)) (by omega) _ (by simp; omega)

lemma trackToParent_isSome (hd : fs.volume.IsDir d) {fuel : ℕ} (hfuel : 510 ≤ fuel) :
    (trackToParent fs fuel d []).isSome := by
  obtain ⟨l, hl, hdirs⟩ := exists_ancestors hw hd
  have hlen := nodup_dirs_length hw hl.nodup hdirs
  exact trackToParent_of_chain hw hl hdirs (by omega) [] (by simp; omega)

/-! ### The run of `find` -/

lemma searchLoop_scan {pending visited : List UInt32} {fuel : ℕ} (hs : Scan (subfolders fs) pending l)
    (h : Frontier (subfolders fs) rootClusterNumber visited pending)
    (hqueue : ∀ j, s.queue (visited.length + j) = (pending[j]?).getD (env.queue (visited.length + j)))
    (hend : env.queue (visited.length + l.length) = 0) (hfuel : l.length < fuel) (htrack : 510 ≤ env.fuel) :
    ∃ s', searchLoop env fs goal fuel visited.length s = some s' ∧
      s'.tracked = s.tracked ++ l.flatMap fun d => List.replicate (hits env fs goal d) d := by
  induction hs generalizing visited s fuel with
  | nil =>
    obtain ⟨fuel, rfl⟩ : ∃ n, fuel = n + 1 := ⟨fuel - 1, by omega⟩
    have hlen := nodup_dirs_length hw h.nodup fun x hx => (below_iff hw).mp (h.below x hx)
    rw [List.append_nil] at hlen
    have hzero : s.queue visited.length = 0 := by
      have hlast : s.queue visited.length = env.queue visited.length := by simpa using hqueue 0
      exact hlast.trans hend
    exact ⟨s, by rw [searchLoop, if_pos (by omega), if_pos hzero], by simp⟩
  | @cons d pending l _ ih =>
    obtain ⟨fuel, rfl⟩ : ∃ n, fuel = n + 1 := ⟨fuel - 1, by omega⟩
    have hd := (below_iff hw).mp (h.below d (by simp))
    have hnext := h.next (arborescent hw)
    have hlen := nodup_dirs_length hw hnext.nodup fun x hx => (below_iff hw).mp (hnext.below x hx)
    rw [List.length_append, putOver, List.length_append, List.length_append, List.length_singleton] at hlen
    have hfront : s.queue visited.length = d := by simpa using hqueue 0
    have hne : s.queue visited.length ≠ 0 := by
      intro hzero
      have hlt := (hw.dir_lt hd).1
      rw [← hfront, hzero] at hlt
      exact absurd hlt (by decide)
    have hfold : ((List.finRange 64).drop 2).foldlM (fun s i => searchEntry env fs goal d (fs.table d i) s)
        { s with tempIdx := visited.length + 1 } = some
          ⟨storeAll s.queue (visited.length + 1) (subfolders fs d), visited.length + 1 + (subfolders fs d).length,
            s.tracked ++ List.replicate (hits env fs goal d) d⟩ :=
      foldlM_searchEntry (trackToParent_isSome hw hd htrack) slots
        (show visited.length + 1 + (subfolders fs d).length ≤ 2048 by omega)
    have hqueue' := storeAll_putOver (l := subfolders fs d) hqueue
    have hlength : (visited ++ [d]).length =
      visited.length + 1 := by rw [List.length_append, List.length_singleton]
    rw [List.length_cons] at hend hfuel
    rw [← hlength] at hqueue' hfold
    obtain ⟨s', hloop, htracked⟩ := ih hnext (s := ⟨_, (visited ++ [d]).length + (subfolders fs d).length,
      s.tracked ++ List.replicate (hits env fs goal d) d⟩) hqueue'
      (by rw [hlength, ← hend]; congr 1; omega) (Nat.lt_of_succ_lt_succ hfuel)
    refine ⟨s', ?_, ?_⟩
    · rw [searchLoop, if_pos (by omega), if_neg hne]
      simp only [hfront, ← hlength, hfold]
      exact hloop
    · rw [htracked, List.flatMap_cons, List.append_assoc]

lemma searched_sound (hs : Scan (subfolders fs) [rootClusterNumber] l) :
    l.Nodup ∧ (∀ x ∈ l, fs.volume.IsDir x) ∧ l.length ≤ 510 := by
  obtain ⟨hnodup, hbelow⟩ := scan_sound (arborescent hw) hs
  have hdirs : ∀ x ∈ l, fs.volume.IsDir x := fun x hx => (below_iff hw).mp (hbelow x hx)
  exact ⟨hnodup, hdirs, nodup_dirs_length hw hnodup hdirs⟩

end WellFormed

lemma find_eq (hw : w.fs.WellFormed) (hs : Scan (subfolders w.fs) [rootClusterNumber] l)
    (hend : env.queue l.length = 0) (hfuel : 511 ≤ env.fuel) :
    find env [goal] w = some (l.flatMap fun d => List.replicate (hits env w.fs goal d) d, w) := by
  obtain ⟨-, -, hlen⟩ := searched_sound hw hs
  have hqueue : ∀ j, update env.queue 0 2 (0 + j) =
      (([rootClusterNumber] : List UInt32)[j]?).getD (env.queue (0 + j)) := by
    intro j
    cases j with
    | zero => rfl
    | succ j => simp
  obtain ⟨s', hloop, htracked⟩ : ∃ s', searchLoop env w.fs goal env.fuel 0
      ⟨update env.queue 0 2, 0, []⟩ = some s' ∧
      s'.tracked = [] ++ l.flatMap fun d => List.replicate (hits env w.fs goal d) d :=
    searchLoop_scan hw hs (frontier_start (arborescent hw)) hqueue (by simpa using hend) (by omega) (by omega)
  simp only [find, hloop, htracked, Option.map_some, List.nil_append]

/-! ### What `find` is for -/

def entryName (name : Name) : Str := (List.ofFn name).takeWhile (· ≠ 0)

def Named (fs : FileSystem) (goal : Str) (d : UInt32) (i : Fin 64) : Prop :=
  (fs.table d i).Live ∧ entryName (fs.table d i).name = goal

instance : Decidable (Named fs goal d i) := inferInstanceAs (Decidable (_ ∧ _))

structure IsGoal (goal : Str) : Prop where
  nonempty : goal ≠ []
  short : goal.length ≤ 8
  chars : 0 ∉ goal

/-- The calls of `trackToParent`: one with its directory for each entry of the tree that has the name. `find`
counts them in `finalPathCount`, and reports an error where the count is zero. -/
structure Finds (fs : FileSystem) (goal : Str) (tracked : List UInt32) : Prop where
  each : ∀ d, fs.volume.IsDir d → tracked.count d = slots.countP fun i => Named fs goal d i
  only : ∀ d ∈ tracked, fs.volume.IsDir d
  missing : tracked.length = 0 ↔ ¬ ∃ d, fs.volume.IsDir d ∧ ∃ i ∈ slots, Named fs goal d i

def FindsAll (env : Env) (w : World) : Prop := ∀ goal, IsGoal goal → ∃ tracked enough, Finds w.fs goal tracked ∧
  ∀ fuel, enough ≤ fuel → find { env with fuel := fuel } [goal] w = some (tracked, w)

def Subfolder (fs : FileSystem) (d : UInt32) (i : Fin 64) : Prop :=
  i ∈ slots ∧ (fs.table d i).Live ∧ (fs.table d i).IsFolder

def OnlyLastNests (fs : FileSystem) : Prop :=
  ∀ d i j, fs.volume.IsDir d → Subfolder fs d i → Subfolder fs d j → i < j →
    ∀ k, ¬ Subfolder fs (fs.table d i).clusterNumber k

def NamesEnd (env : Env) (fs : FileSystem) : Prop :=
  env.afterName = [] ∨ ∀ d i, fs.volume.IsDir d → i ∈ slots → (fs.table d i).Live →
  0 ∈ List.ofFn (fs.table d i).name

structure FindReady (env : Env) (fs : FileSystem) : Prop where
  shape : OnlyLastNests fs
  ended : env.queue (Set.ncard {d | fs.volume.IsDir d}) = 0
  names : NamesEnd env fs

structure Telling (env : Env) (fs : FileSystem) : Prop where
  inhabited : ∀ d, fs.volume.IsDir d → d ≠ rootClusterNumber → ∃ i ∈ slots, (fs.table d i).Live ∧
    entryName (fs.table d i).name ≠ []
  cleared : ∀ k, 0 < k → env.queue k = 0

lemma count_flatMap_replicate (n : UInt32 → ℕ) (hl : l.Nodup) :
    (l.flatMap fun x => List.replicate (n x) x).count d = if d ∈ l then n d else 0 := by
  induction l with
  | nil => rfl
  | cons x l ih =>
    obtain ⟨hx, hl⟩ := List.nodup_cons.mp hl
    rw [List.flatMap_cons, List.count_append, ih hl, List.count_replicate]
    by_cases he : x = d
    · subst he
      simp [hx]
    · have he' : d ≠ x := fun h => he h.symm
      simp [he, he']

lemma entryName_length (name : Name) : (entryName name).length ≤ 8 := by
  have h := (List.takeWhile_sublist (· ≠ (0 : UInt8)) (l := List.ofFn name)).length_le
  simpa [entryName] using h

lemma zero_not_mem_entryName (name : Name) : 0 ∉ entryName name := by
  intro h
  simpa using List.mem_takeWhile_imp h

lemma currName_eq {name : Name} (h : env.afterName = [] ∨ 0 ∈ List.ofFn name) : currName env name =
    entryName name := by
  unfold currName entryName
  dsimp only
  split_ifs with hzero
  · rfl
  · rw [h.resolve_right hzero, List.append_nil, eq_comm, List.takeWhile_eq_self_iff]
    intro c hc
    exact decide_eq_true fun he => hzero (he ▸ hc)

lemma currName_ne {name : Name} (h : env.afterName ≠ []) (hfull : goal.length = 8) : currName env name ≠ goal := by
  have hbytes : (List.ofFn name).length = 8 := List.length_ofFn
  intro he
  have hlen := congrArg List.length he
  unfold currName at hlen
  dsimp only at hlen
  split_ifs at hlen with hzero
  · have hprefix := List.takeWhile_prefix (· ≠ (0 : UInt8)) (l := List.ofFn name)
    have hsame := hprefix.eq_of_length (by rw [hlen, hbytes, hfull])
    rw [← hsame] at hzero
    exact zero_not_mem_entryName name hzero
  · have hpos := List.length_pos_of_ne_nil h
    rw [List.length_append] at hlen
    omega

lemma subfolder_iff :
    Subfolder fs d i ↔ i ∈ slots ∧ queued (fs.table d i) = some (fs.table d i).clusterLow.toUInt32 := by
  simp [Subfolder, queued]

lemma subfolders_eq_nil : subfolders fs d = [] ↔ ∀ i, ¬ Subfolder fs d i := by
  rw [List.eq_nil_iff_forall_not_mem]
  constructor
  · intro h i hi
    exact h _ (mem_slots_filterMap.mpr ⟨i, mem_slots.mp hi.1, hi.2.1, hi.2.2, rfl⟩)
  · intro h c hc
    obtain ⟨i, hi, hlive, hf, -⟩ := mem_slots_filterMap.mp hc
    exact h i ⟨mem_slots.mpr hi, hlive, hf⟩

lemma slots_pairwise_iff {R : Fin 64 → Fin 64 → Prop} :
    slots.Pairwise R ↔ ∀ i ∈ slots, ∀ j ∈ slots, i < j → R i j := by
  constructor
  · intro h
    have hforward : slots.Pairwise fun i j => i < j → R i j := by
      refine h.imp ?_
      intro i j hr _
      exact hr
    have hbackward : slots.Pairwise (flip fun i j => i < j → R i j) := by
      refine slots_pairwise.imp ?_
      intro i j hlt hgt
      exact absurd hlt hgt.asymm
    exact List.Pairwise.forall_of_forall_of_flip (fun i _ hlt => absurd hlt (lt_irrefl i)) hforward hbackward
  · intro h
    exact slots_pairwise.imp_of_mem fun hi hj hlt => h _ hi _ hj hlt

lemma shape_iff (hw : fs.WellFormed) :
    (∀ d, Below (subfolders fs) rootClusterNumber d → (subfolders fs d).Pairwise fun c _ => subfolders fs c = []) ↔
    OnlyLastNests fs := by
  have hdir : ∀ d, fs.volume.IsDir d → (((subfolders fs d).Pairwise fun c _ => subfolders fs c = []) ↔
      ∀ i j, Subfolder fs d i → Subfolder fs d j → i < j →
      ∀ k, ¬ Subfolder fs (fs.table d i).clusterNumber k) := by
    intro d hd
    rw [subfolders, List.pairwise_filterMap, slots_pairwise_iff]
    constructor
    · intro h i j hi hj hij
      have hnil := h i hi.1 j hj.1 hij _ (subfolder_iff.mp hi).2 _ (subfolder_iff.mp hj).2
      rwa [folder_clusterLow hw hd (mem_slots.mp hi.1) hi.2.2, subfolders_eq_nil] at hnil
    · intro h i hi j hj hij c hc c' hc'
      simp only [queued, Option.ite_none_right_eq_some, Option.some.injEq] at hc hc'
      obtain ⟨hfi, rfl⟩ := hc
      obtain ⟨hfj, rfl⟩ := hc'
      rw [folder_clusterLow hw hd (mem_slots.mp hi) hfi.2, subfolders_eq_nil]
      exact h i j ⟨hi, hfi⟩ ⟨hj, hfj⟩ hij
  constructor
  · intro h d i j hd
    exact (hdir d hd).mp (h d ((below_iff hw).mpr hd)) i j
  · intro h d hd
    have hd := (below_iff hw).mp hd
    exact (hdir d hd).mpr fun i j => h d i j hd

section

variable (hw : fs.WellFormed)
include hw

lemma live_of_currName (hd : fs.volume.IsDir d) (hi : i ∈ slots) (hgoal : goal ≠ [])
    (h : currName env (fs.table d i).name = goal) : (fs.table d i).Live := by
  by_contra hdead
  rw [hw.dead hd i (mem_slots.mp hi) hdead] at h
  refine hgoal (h.symm.trans ?_)
  rw [currName_eq (.inr (by decide))]
  decide

lemma hits_eq (hd : fs.volume.IsDir d) (hgoal : goal ≠ []) (hnames : NamesEnd env fs) :
    hits env fs goal d = slots.countP fun i => Named fs goal d i := by
  refine List.countP_congr fun i hi => ?_
  rw [decide_eq_true_eq, decide_eq_true_eq]
  constructor
  · intro h
    have hlive := live_of_currName hw hd hi hgoal h
    rw [currName_eq (hnames.imp_right fun hzero => hzero d i hd hi hlive)] at h
    exact ⟨hlive, h⟩
  · rintro ⟨hlive, h⟩
    rwa [currName_eq (hnames.imp_right fun hzero => hzero d i hd hi hlive)]

lemma finds_of_covers (hs : Scan (subfolders fs) [rootClusterNumber] l) (hall : ∀ d, fs.volume.IsDir d → d ∈ l)
    (hgoal : goal ≠ []) (hnames : NamesEnd env fs) :
    Finds fs goal (l.flatMap fun d => List.replicate (hits env fs goal d) d) := by
  obtain ⟨hnodup, hdirs, -⟩ := searched_sound hw hs
  have hcount : ∀ d, fs.volume.IsDir d → (l.flatMap fun d => List.replicate (hits env fs goal d) d).count d =
      slots.countP fun i => Named fs goal d i := by
    intro d hd
    rw [count_flatMap_replicate _ hnodup, if_pos (hall d hd), hits_eq hw hd hgoal hnames]
  have honly : ∀ d ∈ l.flatMap fun d => List.replicate (hits env fs goal d) d, fs.volume.IsDir d := by
    intro d hd
    obtain ⟨x, hx, hm⟩ := List.mem_flatMap.mp hd
    exact List.eq_of_mem_replicate hm ▸ hdirs x hx
  refine ⟨hcount, honly, ?_⟩
  rw [List.length_eq_zero_iff, List.eq_nil_iff_forall_not_mem]
  constructor
  · rintro hnone ⟨d, hd, i, hi, hnamed⟩
    refine hnone d (List.count_pos_iff.mp ?_)
    rw [hcount d hd]
    exact List.countP_pos_iff.mpr ⟨i, hi, decide_eq_true hnamed⟩
  · intro hnone d hm
    have hpos := List.count_pos_iff.mpr hm
    rw [hcount d (honly d hm)] at hpos
    obtain ⟨i, hi, hnamed⟩ := List.countP_pos_iff.mp hpos
    exact hnone ⟨d, honly d hm, i, hi, of_decide_eq_true hnamed⟩

lemma exists_search : ∃ l, Scan (subfolders fs) [rootClusterNumber] l :=
  exists_scan (arborescent hw) (fun _ hn hb => nodup_dirs_length hw hn fun x hx => (below_iff hw).mp (hb x hx))
    (frontier_start (arborescent hw))

lemma search_covers_iff (hs : Scan (subfolders fs) [rootClusterNumber] l) :
    (∀ d, fs.volume.IsDir d → d ∈ l) ↔ OnlyLastNests fs := by
  rw [← shape_iff hw, ← scan_covers_iff (arborescent hw) hs]
  simp only [below_iff hw]

lemma ncard_dirs (hs : Scan (subfolders fs) [rootClusterNumber] l) (hall : ∀ d, fs.volume.IsDir d → d ∈ l) :
    Set.ncard {d | fs.volume.IsDir d} = l.length := by
  obtain ⟨hnodup, hdirs, -⟩ := searched_sound hw hs
  have hset : {d | fs.volume.IsDir d} = (l.toFinset : Set UInt32) := by
    ext d
    simp only [Set.mem_ofPred_eq, List.coe_toFinset]
    exact ⟨hall d, hdirs d⟩
  rw [hset, Set.ncard_coe_finset, List.toFinset_card_of_nodup hnodup]

end

lemma isGoal_entryName {name : Name} (h : entryName name ≠ []) : IsGoal (entryName name) :=
  ⟨h, entryName_length name, zero_not_mem_entryName name⟩

section

variable (hw : w.fs.WellFormed) (hs : Scan (subfolders w.fs) [rootClusterNumber] l) (hfinds : FindsAll env w)
  (hend : env.queue l.length = 0)
include hw hs hfinds hend

lemma FindsAll.hit (hd : w.fs.volume.IsDir d) (hi : i ∈ slots) (hlive : (w.fs.table d i).Live)
    (hname : entryName (w.fs.table d i).name ≠ []) :
    d ∈ l ∧ 0 < hits env w.fs (entryName (w.fs.table d i).name) d := by
  obtain ⟨tracked, enough, hf, hfind⟩ := hfinds _ (isGoal_entryName hname)
  have hrun : find { env with fuel := max enough 511 } [entryName (w.fs.table d i).name] w = some _ :=
    find_eq hw hs hend (le_max_right _ _)
  obtain rfl := (Prod.mk.inj (Option.some.inj ((hfind _ (le_max_left _ _)).symm.trans hrun))).1
  have hcount := hf.each d hd
  rw [count_flatMap_replicate _ (searched_sound hw hs).1] at hcount
  have hpos : 0 < slots.countP fun j => Named w.fs (entryName (w.fs.table d i).name) d j :=
    List.countP_pos_iff.mpr ⟨i, hi, decide_eq_true ⟨hlive, rfl⟩⟩
  rw [← hcount] at hpos
  split_ifs at hpos with hm
  · exact ⟨hm, hpos⟩
  · exact absurd hpos (lt_irrefl 0)

lemma FindsAll.names : NamesEnd env w.fs := by
  by_contra hno
  rw [NamesEnd, not_or] at hno
  obtain ⟨hafter, hno⟩ := hno
  push Not at hno
  obtain ⟨d, i, hd, hi, hlive, hzero⟩ := hno
  have hfull : entryName (w.fs.table d i).name = List.ofFn (w.fs.table d i).name :=
    List.takeWhile_eq_self_iff.mpr fun c hc => decide_eq_true fun he => hzero (he ▸ hc)
  have hlen : (entryName (w.fs.table d i).name).length = 8 := by rw [hfull, List.length_ofFn]
  have hne : entryName (w.fs.table d i).name ≠ [] := by
    intro hnil
    rw [hnil] at hlen
    cases hlen
  obtain ⟨-, hpos⟩ := FindsAll.hit hw hs hfinds hend hd hi hlive hne
  obtain ⟨j, -, hj⟩ := List.countP_pos_iff.mp hpos
  exact currName_ne hafter hlen (of_decide_eq_true hj)

end

lemma root_mem_scan (hs : Scan (subfolders fs) [rootClusterNumber] l) : rootClusterNumber ∈ l := by
  cases hs
  exact List.mem_cons_self

theorem find_complete (env : Env) (w : World) (hw : w.fs.WellFormed) :
    (FindReady env w.fs → FindsAll env w) ∧ (Telling env w.fs → FindsAll env w → FindReady env w.fs) := by
  obtain ⟨l, hs⟩ := exists_search hw
  constructor
  · intro hready goal hgoal
    have hall := (search_covers_iff hw hs).mpr hready.shape
    have hend := hready.ended
    rw [ncard_dirs hw hs hall] at hend
    exact ⟨_, 511, finds_of_covers hw hs hall hgoal.nonempty hready.names, fun fuel hfuel =>
      find_eq hw hs hend hfuel⟩
  · intro htell hfinds
    have hend : env.queue l.length = 0 := htell.cleared _ (List.length_pos_of_mem (root_mem_scan hs))
    have hall : ∀ d, w.fs.volume.IsDir d → d ∈ l := by
      intro d hd
      by_cases hroot : d = rootClusterNumber
      · exact hroot ▸ root_mem_scan hs
      · obtain ⟨i, hi, hlive, hname⟩ := htell.inhabited d hd hroot
        exact (FindsAll.hit hw hs hfinds hend hd hi hlive hname).1
    refine ⟨(search_covers_iff hw hs).mp hall, ?_, FindsAll.names hw hs hfinds hend⟩
    rwa [ncard_dirs hw hs hall]

lemma isDir_mem {ds : List UInt32} (hroot : rootClusterNumber ∈ ds)
    (hclosed : ∀ d ∈ ds, ∀ i : Fin 64, Subfolder fs d i → (fs.table d i).clusterNumber ∈ ds) {d : UInt32}
    (hd : fs.volume.IsDir d) : d ∈ ds := by
  obtain ⟨p, hd⟩ := hd
  induction hd with
  | root => exact hroot
  | @sub d p i e _ he hf ih =>
    obtain ⟨hi, hlive, rfl⟩ := item_eq_some.mp he
    exact hclosed d ih i ⟨mem_slots.mpr hi, hlive, of_decide_eq_true hf⟩

def nested : Option World := twoFolders.bind (run plainEnv .mkdir [[0x62, slash, 0x79]])

lemma nested_spec (h : nested = some w) : w.fs.WellFormed ∧ FindReady plainEnv w.fs := by
  have htables : nested.all fun w => decide (∀ d ∈ ([2, 3, 4, 5] : List UInt32), ∀ i ∈ slots,
      (w.fs.table d i).Live → d = 2 ∧ i = 2 ∧ (w.fs.table d i).clusterNumber = 3 ∨
        d = 2 ∧ i = 3 ∧ (w.fs.table d i).clusterNumber = 4 ∨
          d = 4 ∧ i = 2 ∧ (w.fs.table d i).clusterNumber = 5) := by
    decide +kernel
  obtain ⟨w₁, htwo, hmkdir⟩ := Option.bind_eq_some_iff.mp h
  obtain ⟨hw₁, hs₁⟩ := twoFolders_root htwo
  rw [h, Option.all_some, decide_eq_true_eq] at htables
  have hmem : ∀ {d}, w.fs.volume.IsDir d → d ∈ ([2, 3, 4, 5] : List UInt32) := by
    refine isDir_mem (by decide) fun d hd i hi => ?_
    obtain ⟨-, -, he⟩ | ⟨-, -, he⟩ | ⟨-, -, he⟩ := htables d hd i hi.1 hi.2.1
    · rw [he]
      decide
    · rw [he]
      decide
    · rw [he]
      decide
  refine ⟨(mkdir_at_root hw₁ hs₁ rfl hmkdir).1, fun d i j hd hi hj hij k hk => ?_, rfl, .inl rfl⟩
  -- Two folders are only in the root, and the first of them is empty.
  have hfirst : d = 2 ∧ i = 2 ∧ (w.fs.table d i).clusterNumber = 3 := by
    obtain hfirst | ⟨rfl, rfl, -⟩ | ⟨rfl, rfl, -⟩ := htables d (hmem hd) i hi.1 hi.2.1
    · exact hfirst
    · obtain ⟨-, rfl, -⟩ | ⟨-, rfl, -⟩ | ⟨he, -⟩ := htables 2 (by decide) j hj.1 hj.2.1
      · exact absurd hij (by decide)
      · exact absurd hij (by decide)
      · exact absurd he (by decide)
    · obtain ⟨he, -⟩ | ⟨he, -⟩ | ⟨-, rfl, -⟩ := htables 4 (by decide) j hj.1 hj.2.1
      · exact absurd he (by decide)
      · exact absurd he (by decide)
      · exact absurd hij (by decide)
  rw [hfirst.2.2] at hk
  obtain ⟨h3, -⟩ | ⟨h3, -⟩ | ⟨h3, -⟩ := htables 3 (by decide) k hk.1 hk.2.1
  · exact absurd h3 (by decide)
  · exact absurd h3 (by decide)
  · exact absurd h3 (by decide)

theorem find_complete_nested : ∃ w, nested = some w ∧ FindsAll plainEnv w := by
  have hsome : nested.isSome := by decide +kernel
  obtain ⟨w, hnested⟩ := Option.isSome_iff_exists.mp hsome
  obtain ⟨hw, hready⟩ := nested_spec hnested
  exact ⟨w, hnested, (find_complete plainEnv w hw).1 hready⟩

def overwritten : Option World := crowded.bind (run plainEnv .mkdir [[0x62, slash, 0x79]])

theorem find_misses_overwritten : ∃ w, overwritten = some w ∧ w.fs.WellFormed ∧ ¬ FindsAll plainEnv w := by
  have hrun : overwritten.any fun w => decide ((find { plainEnv with fuel := 511 } [[0x79]] w).map
      Prod.fst = some [] ∧
      (w.fs.table 2 3).IsFolder ∧ (w.fs.table 2 3).clusterNumber = 5 ∧ (w.fs.table 5 2).Live ∧
      entryName (w.fs.table 5 2).name = [0x79]) := by decide +kernel
  obtain ⟨w, hover, hrun⟩ := (Option.any_eq_true _ _).mp hrun
  obtain ⟨hfind, hfolder, hcluster, hlive, hname⟩ := of_decide_eq_true hrun
  obtain ⟨w₀, hcrowded, hmkdir⟩ := Option.bind_eq_some_iff.mp hover
  obtain ⟨hw₀, hs₀⟩ := crowded_root hcrowded
  have hw := (mkdir_at_root hw₀ hs₀ rfl hmkdir).1
  refine ⟨w, hover, hw, fun hfinds => ?_⟩
  have hdir : w.fs.volume.IsDir 5 := by
    have hroot : w.fs.volume.IsDir 2 := Volume.isDir_root
    exact hcluster ▸ (folder_settled hw hroot (by decide) hfolder).1.isDir
  obtain ⟨l, hs⟩ := exists_search hw
  obtain ⟨hm, hpos⟩ := FindsAll.hit hw hs hfinds rfl hdir (by decide) hlive (by rw [hname]; decide)
  rw [find_eq hw hs rfl le_rfl, Option.map_some, Option.some.injEq] at hfind
  rw [hname] at hpos
  have hmem : (5 : UInt32) ∈ l.flatMap fun d => List.replicate (hits plainEnv w.fs [0x79] d) d :=
    List.mem_flatMap.mpr ⟨5, hm, List.mem_replicate.mpr ⟨hpos.ne', rfl⟩⟩
  exact List.ne_nil_of_mem hmem hfind

end Semogakelar.Shell
