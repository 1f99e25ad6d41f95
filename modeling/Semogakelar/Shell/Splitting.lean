import Semogakelar.Shell.FileNames
import Semogakelar.Shell.Resolution
import Mathlib.Data.List.GetD

/-! The array that `parse_path` fills: one row for each component of a path, as long as the count fits into
a byte. -/

namespace Semogakelar.Shell

open Fat32 Function

abbrev Rows := ℕ → ℕ → UInt8

def copyPaths : Str → ℕ → ℕ → Rows → Rows
  | [], _, _, paths => paths
  | c :: str, pathCnt, pathIdx, paths =>
    if isSeparator c then
      if str.isEmpty then copyPaths str pathCnt pathIdx paths else copyPaths str (pathCnt + 1) 0 paths
    else copyPaths str pathCnt (pathIdx + 1) (update paths pathCnt (update (paths pathCnt) pathIdx c))

def withoutLeading (str : Str) : Str := if isAbsolute str then str.drop 1 else str

/-- The two passes of `parse_path` over an array of zeros: the count that the caller gets, and the array. -/
def parsePathRows (str : Str) : ℕ × Rows :=
  ((countFolders (withoutLeading str) 1).toNat, copyPaths (withoutLeading str) 0 0 fun _ _ => 0)

def withoutTrailing (str : Str) : Str := if str.getLast?.any isSeparator then str.dropLast else str

def components (str : Str) : List Str := (withoutTrailing (withoutLeading str)).splitOnP isSeparator

def rowText (paths : Rows) (i : ℕ) : Str := fieldText fun j : Fin 512 => paths i j

structure Splits (str : Str) : Prop where
  count : (parsePathRows str).1 = (components str).length
  rows : ∀ i, (parsePathRows str).2 i = fun j => ((components str).getD i []).getD j 0
  terminated : ∀ i < (parsePathRows str).1, (parsePathRows str).2 i 511 = 0
  text : (List.range (parsePathRows str).1).map (rowText (parsePathRows str).2) = components str
  empty : ∀ i ≥ (parsePathRows str).1, ∀ j, (parsePathRows str).2 i j = 0
  last : (components str).getLast? = some (rowText (parsePathRows str).2 ((parsePathRows str).1 - 1))

variable {str row : Str} {rows : List Str} {c : UInt8} {paths : Rows}

/-! ### The components -/

lemma withoutTrailing_cons (h : str ≠ []) : withoutTrailing (c :: str) = c :: withoutTrailing str := by
  unfold withoutTrailing
  rw [List.getLast?_cons, List.getLast?_eq_getLast_of_ne_nil h, Option.getD_some, List.dropLast_cons_of_ne_nil h]
  simp only [Option.any_some]
  split_ifs <;> rfl

lemma components_singleton : (withoutTrailing [c]).splitOnP isSeparator = [if isSeparator c then [] else [c]] := by
  unfold withoutTrailing
  by_cases h : isSeparator c <;> simp [h, List.splitOnP_cons_eq_if_modifyHead]

lemma countFolders_eq (str : Str) (n : UInt8) :
    countFolders str n + 1 = n + UInt8.ofNat ((withoutTrailing str).splitOnP isSeparator).length := by
  induction str generalizing n with
  | nil => rfl
  | cons c str ih =>
    rw [countFolders, ih]
    cases str with
    | nil =>
      rw [components_singleton]
      simp [withoutTrailing]
    | cons c' str =>
      rw [withoutTrailing_cons (List.cons_ne_nil c' str), List.splitOnP_cons_eq_if_modifyHead]
      by_cases h : isSeparator c
      · simp only [h, List.isEmpty_cons, Bool.not_false, Bool.and_self, if_true, List.length_cons, UInt8.ofNat_add]
        rw [UInt8.add_assoc, UInt8.add_comm 1]
        rfl
      · simp [h]

lemma countFolders_toNat (str : Str) :
    (countFolders str 1).toNat = ((withoutTrailing str).splitOnP isSeparator).length % 256 := by
  have h := countFolders_eq str 1
  rw [UInt8.add_comm 1, UInt8.add_left_inj] at h
  rw [h, UInt8.toNat_ofNat']

lemma modifyHead_self (l : List Str) : l.modifyHead (fun row => row) = l := by
  cases l <;> rfl

lemma copyRows_eq (str : Str) (rows : List Str) (row : Str) :
    copyRows str rows row = rows ++ ((withoutTrailing str).splitOnP isSeparator).modifyHead (row ++ ·) := by
  induction str generalizing rows row with
  | nil => simp [copyRows, withoutTrailing]
  | cons c str ih =>
    rw [copyRows]
    cases str with
    | nil =>
      rw [components_singleton]
      by_cases h : isSeparator c <;> simp [h, copyRows]
    | cons c' str =>
      rw [withoutTrailing_cons (List.cons_ne_nil c' str), List.splitOnP_cons_eq_if_modifyHead]
      by_cases h : isSeparator c
      · simp [h, ih, modifyHead_self]
      · simp [h, ih, List.modifyHead_modifyHead, comp_def]

lemma splitPath_eq (str : Str) :
    splitPath str = ⟨isAbsolute str, (components str).length % 256, components str⟩ := by
  have hrows : copyRows (withoutLeading str) [] [] = components str := by
    rw [copyRows_eq, List.nil_append]
    exact modifyHead_self _
  have hcount : (countFolders (withoutLeading str) 1).toNat = (components str).length % 256 := countFolders_toNat _
  rw [← hcount, ← hrows]
  rfl

/-! ### The array -/

def Represents (paths : Rows) (rows : List Str) : Prop := ∀ i, paths i = fun j => (rows.getD i []).getD j 0

lemma Represents.push (h : Represents paths (rows ++ [row])) :
    Represents (update paths rows.length (update (paths rows.length) row.length c)) (rows ++ [row ++ [c]]) := by
  intro i
  obtain hlt | rfl | hgt := lt_trichotomy i rows.length
  · rw [update_of_ne hlt.ne, h i, List.getD_append _ _ _ _ hlt, List.getD_append _ _ _ _ hlt]
  · funext j
    rw [update_self, h, List.getD_append_right _ _ _ _ le_rfl, List.getD_append_right _ _ _ _ le_rfl, Nat.sub_self,
      List.getD_cons_zero, List.getD_cons_zero]
    obtain hj | rfl | hj := lt_trichotomy j row.length
    · rw [update_of_ne hj.ne, List.getD_append _ _ _ _ hj]
    · rw [update_self, List.getD_append_right _ _ _ _ le_rfl, Nat.sub_self, List.getD_cons_zero]
    · rw [update_of_ne hj.ne', List.getD_eq_default _ _ hj.le, List.getD_eq_default]
      simpa [Nat.succ_le_iff] using hj
  · rw [update_of_ne hgt.ne', h i, List.getD_eq_default, List.getD_eq_default]
    · simpa [Nat.succ_le_iff] using hgt
    · simpa [Nat.succ_le_iff] using hgt

lemma Represents.next (h : Represents paths rows) : Represents paths (rows ++ [[]]) := by
  intro i
  obtain hlt | hle := lt_or_ge i rows.length
  · rw [h i, List.getD_append _ _ _ _ hlt]
  · rw [h i, List.getD_eq_default _ _ hle, List.getD_append_right _ _ _ _ hle]
    cases i - rows.length <;> rfl

lemma Represents.copyPaths (h : Represents paths (rows ++ [row])) :
    Represents (copyPaths str rows.length row.length paths) (copyRows str rows row) := by
  induction str generalizing rows row paths with
  | nil => exact h
  | cons c str ih =>
    rw [Shell.copyPaths, copyRows]
    split_ifs with hsep hend
    · exact ih h
    · simpa using ih h.next
    · simpa using ih h.push

lemma parsePathRows_eq (str : Str) : (parsePathRows str).1 = (splitPath str).numOfDirectory ∧
    Represents (parsePathRows str).2 (splitPath str).rows := by
  have hempty : Represents (fun _ _ => 0) ([] ++ [[]]) := by
    intro i
    cases i <;> rfl
  exact ⟨rfl, hempty.copyPaths⟩

/-! ### Both passes -/

lemma sublist_of_mem_splitOnP {p : UInt8 → Bool} (h : row ∈ str.splitOnP p) : row.Sublist str := by
  induction str generalizing row with
  | nil =>
    obtain rfl : row = [] := by simpa using h
    exact List.Sublist.refl _
  | cons c str ih =>
    rw [List.splitOnP_cons_eq_if_modifyHead] at h
    split_ifs at h
    · rcases List.mem_cons.mp h with rfl | h
      · exact List.nil_sublist _
      · exact (ih h).cons c
    · cases hl : str.splitOnP p with
      | nil =>
        rw [hl] at h
        cases h
      | cons first others =>
        rw [hl, List.modifyHead_cons] at h
        rcases List.mem_cons.mp h with rfl | h
        · exact (ih (hl ▸ List.mem_cons_self)).cons_cons c
        · exact (ih (hl ▸ List.mem_cons_of_mem _ h)).cons c

lemma sublist_of_mem_components (h : row ∈ components str) : row.Sublist str := by
  have htrailing : (withoutTrailing (withoutLeading str)).Sublist (withoutLeading str) := by
    unfold withoutTrailing
    split_ifs
    · exact List.dropLast_sublist _
    · exact List.Sublist.refl _
  have hleading : (withoutLeading str).Sublist str := by
    unfold withoutLeading
    split_ifs
    · exact List.drop_sublist _ _
    · exact List.Sublist.refl _
  exact (sublist_of_mem_splitOnP h).trans (htrailing.trans hleading)

lemma getD_components_sublist (str : Str) (i : ℕ) : ((components str).getD i []).Sublist str := by
  by_cases hi : i < (components str).length
  · rw [List.getD_eq_getElem _ _ hi]
    exact sublist_of_mem_components (List.getElem_mem hi)
  · rw [List.getD_eq_default _ _ (not_lt.mp hi)]
    exact List.nil_sublist _

lemma components_ne_nil (str : Str) : components str ≠ [] := List.splitOnP_ne_nil _ _

lemma rowText_eq (hlen : str.length ≤ 511) (hs : 0 ∉ str) (i : ℕ) :
    rowText (parsePathRows str).2 i = (components str).getD i [] := by
  have hrow := getD_components_sublist str i
  have hfield : (fun j : Fin 512 => (parsePathRows str).2 i j) = padded 512 ((components str).getD i []) := by
    have h := (parsePathRows_eq str).2 i
    rw [splitPath_eq] at h
    rw [h]
    rfl
  rw [rowText, hfield]
  refine fieldText_padded ?_ fun h => hs (hrow.mem h)
  have := hrow.length_le
  omega

theorem parse_path_splits_iff (str : Str) (hlen : 1 ≤ str.length ∧ str.length ≤ 511) (hs : 0 ∉ str) :
    Splits str ↔ (components str).length ≤ 255 := by
  have hcount : (parsePathRows str).1 = (components str).length % 256 := by
    rw [(parsePathRows_eq str).1, splitPath_eq]
  have hrows : ∀ i, (parsePathRows str).2 i = fun j => ((components str).getD i []).getD j 0 := by
    have h := (parsePathRows_eq str).2
    rwa [splitPath_eq] at h
  constructor
  · intro h
    have := h.count
    omega
  · intro h
    have hnum : (parsePathRows str).1 = (components str).length := by omega
    refine ⟨hnum, hrows, fun i _ => ?_, ?_, fun i hi j => ?_, ?_⟩
    · rw [hrows]
      exact List.getD_eq_default _ _ ((getD_components_sublist str i).length_le.trans hlen.2)
    · rw [hnum]
      refine List.ext_getElem (by simp) fun i hi hi' => ?_
      rw [List.getElem_map, List.getElem_range, rowText_eq hlen.2 hs, List.getD_eq_getElem _ _ hi']
    · rw [hrows, List.getD_eq_default _ _ (hnum ▸ hi)]
      rfl
    · rw [hnum, rowText_eq hlen.2 hs, List.getLast?_eq_getElem?, List.getD_eq_getElem?_getD]
      have hpos := List.length_pos_of_ne_nil (components_ne_nil str)
      rw [List.getElem?_eq_getElem (by omega), Option.getD_some]

/-- `a/a/.../a` with 256 components, the longest argument the shell takes. -/
def manyComponents : Str := (List.replicate 255 [0x61, slash]).flatten ++ [0x61]

theorem parse_path_miscounts : 1 ≤ manyComponents.length ∧ manyComponents.length ≤ 511 ∧ 0 ∉ manyComponents ∧
    (parsePathRows manyComponents).1 = 0 ∧ ¬ Splits manyComponents := by
  have hcount : (parsePathRows manyComponents).1 = 0 := by decide +kernel
  refine ⟨by decide +kernel, by decide +kernel, by decide +kernel, hcount, fun h => ?_⟩
  rw [h.count, List.length_eq_zero_iff] at hcount
  exact components_ne_nil _ hcount

theorem parse_path_splits_absolute : Splits [slash, 0x61, slash, 0x62] := by
  have hlength : (components [slash, 0x61, slash, 0x62]).length ≤ 255 := by
    have h : (splitPath [slash, 0x61, slash, 0x62]).rows = components [slash, 0x61, slash,
      0x62] := by rw [splitPath_eq]
    rw [← h]
    decide
  exact (parse_path_splits_iff [slash, 0x61, slash, 0x62] (by decide) (by decide)).mpr hlength

end Semogakelar.Shell
