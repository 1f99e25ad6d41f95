import Semogakelar.Fat32.WellFormed
import Semogakelar.Shell.Paths
import Mathlib.Data.List.TakeWhile

/-! File names in the 8.3 format: which strings `parse_file_name` takes, and how `ls` prints what it has stored. -/

namespace Semogakelar.Shell

open Fat32

/-- The string in a field of fixed size. A full field has no terminator. -/
def fieldText {n : ℕ} (bytes : Fin n → UInt8) : Str := (List.ofFn bytes).takeWhile (· ≠ 0)

/-- A folder's name is printed as the string that begins in its slot and may run on behind the name. -/
def slotText (table : DirectoryTable) (idx : Fin 64) : Option Str :=
  let bytes := (List.ofFn (tableEquiv.symm table)).drop (32 * idx)
  if 0 ∈ bytes then some (bytes.takeWhile (· ≠ 0)) else none

def fileText (entry : DirectoryEntry) : Str :=
  fieldText entry.name ++ if memcmp entry.ext (fun _ => 0) ≠ 0 then dot :: fieldText entry.ext else []

def printDirectoryEntry (table : DirectoryTable) (idx : Fin 64) (spaces : Bool) : Option Str :=
  (if (table idx).attr = attrSubdirectory then slotText table idx else some (fileText (table idx))).map fun text =>
    (if spaces then List.replicate 4 0x20 else []) ++ text

/-! ### The two parts of a name -/

def stem (s : Str) : Str := s.takeWhile (· ≠ dot)

def extension (s : Str) : Str := (s.dropWhile (· ≠ dot)).drop 1

structure Fits (s : Str) : Prop where
  name : (stem s).length ≤ 8
  ext : (extension s).length ≤ 3

def EndsAtDot (s : Str) : Prop := s = stem s ++ [dot]

variable {s s' : Str} {c : UInt8} {n : ℕ}

lemma stem_cons (h : c ≠ dot) : stem (c :: s) = c :: stem s := List.takeWhile_cons_of_pos (decide_eq_true h)

@[simp] lemma stem_dot : stem (dot :: s) = [] := rfl

lemma stem_append (s : Str) : stem s ++ s.dropWhile (· ≠ dot) = s := List.takeWhile_append_dropWhile

lemma drop_stem (s : Str) : s.drop (stem s).length = s.dropWhile (· ≠ dot) := by
  have h : (stem s ++ s.dropWhile (· ≠ dot)).drop (stem s).length = s.dropWhile (· ≠ dot) := List.drop_left' rfl
  rwa [stem_append] at h

lemma rest_cases (s : Str) : s.dropWhile (· ≠ dot) = [] ∨ s.dropWhile (· ≠ dot) = dot :: extension s := by
  cases h : s.dropWhile (· ≠ dot) with
  | nil => exact .inl rfl
  | cons c rest =>
    have hc : c = dot := by
      have hhead := List.head?_dropWhile_not (· ≠ dot) s
      rw [h] at hhead
      simpa using hhead
    refine .inr ?_
    rw [hc, extension, h, List.drop_one, List.tail_cons]

lemma eq_parts (h : ¬ EndsAtDot s) : s = stem s ++ if extension s = [] then [] else dot :: extension s := by
  nth_rewrite 1 [← stem_append s]
  congr 1
  obtain hrest | hrest := rest_cases s
  · rw [hrest, extension, hrest]
    rfl
  · rw [if_neg, hrest]
    intro hext
    rw [hext] at hrest
    refine h ?_
    rw [EndsAtDot, ← hrest, stem_append]

/-! ### `parse_file_name` -/

lemma copyName_eq (room : ℕ) (s : Str) : copyName room s =
    ((stem s).take room, s.drop (min room (stem s).length)) := by
  induction room generalizing s with
  | zero => simp [copyName]
  | succ room ih =>
    cases s with
    | nil => rfl
    | cons c s =>
      rw [copyName]
      split_ifs with hc
      · subst hc
        simp
      · rw [ih, stem_cons hc, List.take_succ_cons, List.length_cons, Nat.succ_min_succ, List.drop_succ_cons]

lemma parseFileName_long (h : 8 < (stem s).length) : (parseFileName s).1 = 1 := by
  have hs : 8 < s.length := h.trans_le (List.takeWhile_prefix _).length_le
  have hhead : (s.drop 8).head? ≠ some dot := by
    rw [List.head?_drop, ← stem_append s, List.getElem?_append_left h]
    intro he
    have hmem : dot ∈ stem s := List.mem_of_getElem? he
    simpa using List.mem_takeWhile_imp hmem
  unfold parseFileName
  rw [copyName_eq, min_eq_left h.le]
  dsimp only
  rw [if_pos]
  refine ⟨by rw [List.length_take, min_eq_left h.le], ?_, hhead⟩
  rw [Ne, List.drop_eq_nil_iff]
  omega

lemma parseFileName_short (h : (stem s).length ≤ 8) : parseFileName s =
    (if 3 < (extension s).length then -1 else 0, ⟨padded 8 (stem s), padded 3 ((extension s).take 3)⟩) := by
  unfold parseFileName
  rw [copyName_eq, min_eq_right h, drop_stem, List.take_of_length_le h]
  dsimp only
  rw [if_neg]
  · rfl
  · rintro ⟨-, hne, hhead⟩
    obtain hrest | hrest := rest_cases s
    · exact hne hrest
    · rw [hrest] at hhead
      exact hhead rfl

lemma parseFileName_zero_iff : (parseFileName s).1 = 0 ↔ Fits s := by
  by_cases hname : (stem s).length ≤ 8
  · rw [parseFileName_short hname]
    split_ifs with hext
    · exact iff_of_false (show (-1 : ℤ) ≠ 0 by decide) fun h => by have := h.ext; omega
    · exact iff_of_true rfl ⟨hname, by omega⟩
  · rw [parseFileName_long (by omega)]
    exact iff_of_false (by decide) fun h => hname h.name

lemma Fits.parseFileName (h : Fits s) : parseFileName s = (0, ⟨padded 8 (stem s), padded 3 (extension s)⟩) := by
  rw [parseFileName_short h.name, if_neg (by have := h.ext; omega), List.take_of_length_le h.ext]

/-! ### Reading the fields back -/

lemma terminated_eq_some {bytes : List UInt8} :
    (if 0 ∈ bytes then some (bytes.takeWhile (· ≠ 0)) else none) = some s ↔
    ∃ rest, bytes = s ++ 0 :: rest ∧ 0 ∉ s := by
  constructor
  · intro h
    split_ifs at h with hzero
    cases h
    have hs : 0 ∉ bytes.takeWhile (· ≠ 0) := fun hmem => by simpa using List.mem_takeWhile_imp hmem
    cases hrest : bytes.dropWhile (· ≠ 0) with
    | nil =>
      have hall := List.takeWhile_append_dropWhile (p := (· ≠ 0)) (l := bytes)
      rw [hrest, List.append_nil] at hall
      exact absurd (hall.symm ▸ hzero) hs
    | cons c rest =>
      have hhead := List.head?_dropWhile_not (· ≠ 0) bytes
      rw [hrest] at hhead
      obtain rfl : c = 0 := by simpa using hhead
      exact ⟨rest, by rw [← hrest, List.takeWhile_append_dropWhile], hs⟩
  · rintro ⟨rest, rfl, hs⟩
    have hpos : ∀ c ∈ s, decide (c ≠ 0) = true := fun c hc => decide_eq_true fun he => hs (he ▸ hc)
    rw [if_pos (by simp), List.takeWhile_append_of_pos hpos]
    simp

lemma fieldText_padded (hn : s.length ≤ n) (hs : 0 ∉ s) : fieldText (padded n s) = s := by
  have hbytes : List.ofFn (padded n s) = s ++ List.replicate (n - s.length) 0 := by
    apply List.ext_getElem
    · simp
      omega
    · intro i hi hi'
      simp only [List.getElem_ofFn, padded, List.getD_eq_getElem?_getD, List.getElem_append,
        List.getElem_replicate]
      split_ifs with h
      · rw [List.getElem?_eq_getElem h, Option.getD_some]
      · rw [List.getElem?_eq_none (by omega), Option.getD_none]
  have hpos : ∀ c ∈ s, decide (c ≠ 0) = true := fun c hc => decide_eq_true fun he => hs (he ▸ hc)
  rw [fieldText, hbytes, List.takeWhile_append_of_pos hpos]
  cases n - s.length with
  | zero => simp
  | succ k => simp [List.replicate_succ]

lemma padded_injective (hn : s.length ≤ n) (hn' : s'.length ≤ n) (hs : 0 ∉ s) (hs' : 0 ∉ s')
    (h : padded n s = padded n s') : s = s' := by
  rw [← fieldText_padded hn hs, h, fieldText_padded hn' hs']

lemma padded_eq_zero_iff (hn : s.length ≤ n) (hs : 0 ∉ s) : padded n s = (fun _ => 0) ↔ s = [] := by
  constructor
  · intro h
    exact padded_injective hn (Nat.zero_le n) hs List.not_mem_nil h
  · rintro rfl
    rfl

lemma zero_not_mem_stem (hs : 0 ∉ s) : 0 ∉ stem s := fun h => hs (List.takeWhile_sublist _ |>.mem h)

lemma zero_not_mem_extension (hs : 0 ∉ s) : 0 ∉ extension s :=
  fun h => hs ((List.dropWhile_sublist _).mem (List.mem_of_mem_drop h))

lemma fileText_parts {entry : DirectoryEntry} (hs : 0 ∉ s) (hfits : Fits s) (hdot : ¬ EndsAtDot s)
    (hname : entry.name = padded 8 (stem s)) (hext : entry.ext = padded 3 (extension s)) : fileText entry = s := by
  have hzero : memcmp (padded 3 (extension s)) (fun _ => 0) = 0 ↔ extension s = [] := by
    rw [memcmp_eq_zero, padded_eq_zero_iff hfits.ext (zero_not_mem_extension hs)]
  rw [fileText, hname, hext, fieldText_padded hfits.name (zero_not_mem_stem hs),
    fieldText_padded hfits.ext (zero_not_mem_extension hs)]
  conv_rhs => rw [eq_parts hdot]
  congr 1
  simp only [Ne, hzero, ite_not]

theorem file_names_round_trip (s : Str) (hs : 0 ∉ s) :
    ((parseFileName s).1 = 0 ↔ Fits s) ∧
    ((parseFileName s).1 = 0 → (parseFileName s).2 = ⟨padded 8 (stem s), padded 3 (extension s)⟩) ∧
    (∀ s', 0 ∉ s' → (parseFileName s).1 = 0 → (parseFileName s').1 = 0 → ¬ EndsAtDot s → ¬ EndsAtDot s' →
      (parseFileName s).2 = (parseFileName s').2 → s = s') ∧
    ((parseFileName s).1 = 0 → ¬ EndsAtDot s → ∀ (table : DirectoryTable) (idx : Fin 64), ¬ (table idx).IsFolder →
      (table idx).name = (parseFileName s).2.name → (table idx).ext = (parseFileName s).2.ext →
      printDirectoryEntry table idx false = some s) := by
  have hparts : ∀ {s}, (parseFileName s).1 = 0 →
      Fits s ∧ (parseFileName s).2 = ⟨padded 8 (stem s), padded 3 (extension s)⟩ := by
    intro s h
    have hfits := parseFileName_zero_iff.mp h
    exact ⟨hfits, by rw [hfits.parseFileName]⟩
  refine ⟨parseFileName_zero_iff, fun h => (hparts h).2, fun s' hs' h h' hdot hdot' he => ?_,
    fun h hdot table idx hfile hname hext => ?_⟩
  · obtain ⟨hfits, hfields⟩ := hparts h
    obtain ⟨hfits', hfields'⟩ := hparts h'
    rw [hfields, hfields', FileName.mk.injEq] at he
    have hstem := padded_injective hfits.name hfits'.name (zero_not_mem_stem hs) (zero_not_mem_stem hs') he.1
    have hext := padded_injective hfits.ext hfits'.ext (zero_not_mem_extension hs) (zero_not_mem_extension hs')
      he.2
    rw [eq_parts hdot, eq_parts hdot', hstem, hext]
  · obtain ⟨hfits, hfields⟩ := hparts h
    rw [hfields] at hname hext
    have hattr : (table idx).attr ≠ attrSubdirectory := hfile
    rw [printDirectoryEntry, if_neg hattr, fileText_parts hs hfits hdot hname hext]
    rfl

def dottedTable : DirectoryTable := fun _ =>
  { DirectoryEntry.zero with name := padded 8 [0x61, 0x62], ext := padded 3 [0x63] }

theorem file_names_round_trip_dotted : (0 : UInt8) ∉ ([0x61, 0x62, dot, 0x63] : Str) ∧
    Fits [0x61, 0x62, dot, 0x63] ∧ ¬ EndsAtDot [0x61, 0x62, dot, 0x63] ∧
    printDirectoryEntry dottedTable 2 false = some [0x61, 0x62, dot, 0x63] := by
  have hs : (0 : UInt8) ∉ ([0x61, 0x62, dot, 0x63] : Str) := by decide
  have hdot : ¬ EndsAtDot [0x61, 0x62, dot, 0x63] := by
    unfold EndsAtDot
    decide
  obtain ⟨hfits, -, -, hprint⟩ := file_names_round_trip _ hs
  have hzero : (parseFileName [0x61, 0x62, dot, 0x63]).1 = 0 := by decide
  exact ⟨hs, hfits.mp hzero, hdot, hprint hzero hdot dottedTable 2 (by decide) (by decide) (by decide)⟩

end Semogakelar.Shell
