import Semogakelar.Shell.FileNames
import Mathlib.Data.List.GetD

/-! The words of a command line, and the arrays into which `parse_input` copies them. -/

namespace Semogakelar.Shell

open Function

def space : UInt8 := 0x20

def ignoreBlanks : Str → Str
  | [] => []
  | c :: str => if c = space then ignoreBlanks str else c :: str

/-- `copy_word` into an array of `size` bytes, from index `i` on. It is not defined where it leaves the array. -/
def copyWord (size : ℕ) : Str → ℕ → (ℕ → UInt8) → Option (Str × (ℕ → UInt8))
  | [], _, dest => some ([], dest)
  | c :: str, i, dest =>
    if c = space then some (c :: str, dest)
    else if i < size then copyWord size str (i + 1) (update dest i c) else none

/-- What `parse_input` fills. `args[0]` and `args[1]` are the halves of 1024 bytes. -/
structure CommandLine where
  cmd : ℕ → UInt8
  args : ℕ → UInt8
  argsCount : UInt8

def CommandLine.cleared : CommandLine := ⟨fun _ => 0, fun _ => 0, 0⟩

def parseInput (bufInput : Str) (l : CommandLine) : Option (ℤ × CommandLine) := do
  let (rest, cmd) ← copyWord 512 (ignoreBlanks bufInput) 0 l.cmd
  let (rest, args) ← copyWord 1024 (ignoreBlanks rest) 0 l.args
  let (rest, args) ← copyWord 1024 (ignoreBlanks rest) 512 args
  let argsCount := l.argsCount + (if args 0 ≠ 0 then 1 else 0) + (if args 512 ≠ 0 then 1 else 0)
  return (if rest.any (· ≠ space) then -1 else 0, ⟨cmd, args, argsCount⟩)

def words (line : Str) : List Str := (line.splitOnP (· == space)).filter (· ≠ [])

def textAt (size : ℕ) (bytes : ℕ → UInt8) (start : ℕ) : Option Str :=
  let text := (List.range (size - start)).map fun j => bytes (start + j)
  if 0 ∈ text then some (text.takeWhile (· ≠ 0)) else none

structure Tokenises (line : Str) (code : ℤ) (l : CommandLine) : Prop where
  cmd : textAt 512 l.cmd 0 = some ((words line).getD 0 [])
  first : textAt 1024 l.args 0 = some ((words line).getD 1 [])
  second : textAt 1024 l.args 512 = some ((words line).getD 2 [])
  count : l.argsCount.toNat = min ((words line).length - 1) 2
  code : code = -1 ↔ 4 ≤ (words line).length

variable {line str s w w' : Str} {c : UInt8} {size start i : ℕ} {dest bytes : ℕ → UInt8}

/-! ### The words -/

def word (line : Str) : Str := (ignoreBlanks line).takeWhile (· ≠ space)

def afterWord (line : Str) : Str := (ignoreBlanks line).dropWhile (· ≠ space)

lemma words_space : words (space :: line) = words line := by
  simp [words, List.splitOnP_cons_eq_if_modifyHead]

lemma words_ignoreBlanks (line : Str) : words (ignoreBlanks line) = words line := by
  induction line with
  | nil => rfl
  | cons c line ih =>
    rw [ignoreBlanks]
    split_ifs with hc
    · rw [ih, hc, words_space]
    · rfl

lemma splitOnP_word (line : Str) : line.splitOnP (· == space) =
    line.takeWhile (· ≠ space) :: ((line.dropWhile (· ≠ space)).splitOnP (· == space)).tail := by
  induction line with
  | nil => rfl
  | cons c line ih =>
    by_cases hc : c = space
    · simp [hc, List.splitOnP_cons_eq_if_modifyHead]
    · rw [List.splitOnP_cons_eq_if_modifyHead, if_neg (by simpa using hc), ih]
      simp [hc]

lemma words_tail (line : Str) :
    (((line.dropWhile (· ≠ space)).splitOnP (· == space)).tail).filter (· ≠ []) =
      words (line.dropWhile (· ≠ space)) := by
  cases h : line.dropWhile (· ≠ space) with
  | nil => rfl
  | cons c rest =>
    have hc : c = space := by
      have hhead := List.head?_dropWhile_not (· ≠ space) line
      rw [h] at hhead
      simpa using hhead
    simp [words, hc, List.splitOnP_cons_eq_if_modifyHead]

lemma word_eq_nil : word line = [] ↔ ignoreBlanks line = [] := by
  unfold word
  induction line with
  | nil => rfl
  | cons c line ih =>
    rw [ignoreBlanks]
    split_ifs with hc
    · exact ih
    · simp [hc]

lemma words_eq (line : Str) : words line = if word line = [] then [] else word line :: words (afterWord line) := by
  rw [← words_ignoreBlanks]
  split_ifs with h
  · rw [word_eq_nil.mp h]
    rfl
  · have hne : (ignoreBlanks line).takeWhile (· ≠ space) ≠ [] := h
    rw [words, splitOnP_word, List.filter_cons, if_pos (decide_eq_true hne), words_tail]
    rfl

lemma afterWord_of_nil (h : word line = []) : afterWord line = [] := by
  rw [afterWord, word_eq_nil.mp h]
  rfl

lemma words_getD_zero (line : Str) : (words line).getD 0 [] = word line := by
  rw [words_eq]
  split_ifs with h
  · rw [h]
    rfl
  · rfl

lemma words_getD_succ (line : Str) (n : ℕ) :
    (words line).getD (n + 1) [] = (words (afterWord line)).getD n [] := by
  rw [words_eq line]
  split_ifs with h
  · rw [afterWord_of_nil h]
    rfl
  · rfl

lemma words_length (line : Str) :
    (words line).length = if word line = [] then 0 else (words (afterWord line)).length + 1 := by
  rw [words_eq line]
  split_ifs <;> rfl

lemma any_iff_words : line.any (· ≠ space) = true ↔ words line ≠ [] := by
  induction line with
  | nil => simp [words]
  | cons c line ih =>
    by_cases hc : c = space
    · subst hc
      rw [words_space, ← ih]
      simp
    · have hword : word (c :: line) ≠ [] := by
        rw [Ne, word_eq_nil, ignoreBlanks, if_neg hc]
        exact List.cons_ne_nil _ _
      rw [words_eq, if_neg hword]
      simp [hc]

/-! ### The arrays -/

def storeAt (dest : ℕ → UInt8) (i : ℕ) (w : Str) : ℕ → UInt8 :=
  fun k => if i ≤ k ∧ k < i + w.length then w.getD (k - i) 0 else dest k

lemma storeAt_cons (dest : ℕ → UInt8) (i : ℕ) (c : UInt8) (w : Str) :
    storeAt (update dest i c) (i + 1) w = storeAt dest i (c :: w) := by
  funext k
  simp only [storeAt, List.length_cons]
  by_cases hk : i + 1 ≤ k ∧ k < i + 1 + w.length
  · rw [if_pos hk, if_pos (by omega), show k - i = k - (i + 1) + 1 by omega, List.getD_cons_succ]
  · rw [if_neg hk]
    by_cases hi : k = i
    · subst hi
      rw [update_self, if_pos (by omega), Nat.sub_self, List.getD_cons_zero]
    · rw [update_of_ne hi, if_neg (by omega)]

lemma storeAt_nil (dest : ℕ → UInt8) (i : ℕ) : storeAt dest i [] = dest := by
  funext k
  exact if_neg (by simp)

lemma copyWord_eq (hi : i ≤ size) (str : Str) (dest : ℕ → UInt8) : copyWord size str i dest =
    if i + (str.takeWhile (· ≠ space)).length ≤ size then
      some (str.dropWhile (· ≠ space), storeAt dest i (str.takeWhile (· ≠ space)))
    else none := by
  induction str generalizing i dest with
  | nil => simp [copyWord, storeAt_nil, hi]
  | cons c str ih =>
    rw [copyWord]
    by_cases hc : c = space
    · simp [hc, storeAt_nil, hi]
    · have htake : (c :: str).takeWhile (· ≠ space) = c :: str.takeWhile (· ≠ space) := by simp [hc]
      have hdrop : (c :: str).dropWhile (· ≠ space) = str.dropWhile (· ≠ space) := by simp [hc]
      rw [if_neg hc, htake, hdrop, List.length_cons]
      by_cases hlt : i < size
      · rw [if_pos hlt, ih hlt, storeAt_cons]
        congr 1
        simp only [eq_iff_iff]
        omega
      · rw [if_neg hlt, if_neg (by omega)]

lemma textAt_eq_some : textAt size bytes start = some s ↔
    start + s.length < size ∧ (∀ j ≤ s.length, bytes (start + j) = s.getD j 0) ∧ 0 ∉ s := by
  rw [textAt, terminated_eq_some]
  constructor
  · rintro ⟨rest, hbytes, hs⟩
    have hlen := congrArg List.length hbytes
    simp only [List.length_map, List.length_range, List.length_append, List.length_cons] at hlen
    refine ⟨by omega, fun j hj => ?_, hs⟩
    have hj' := congrArg (fun l : List UInt8 => l.getD j 0) hbytes
    simp only [List.getD_eq_getElem?_getD, List.getElem?_map] at hj'
    rw [List.getElem?_range (by omega), Option.map_some, Option.getD_some] at hj'
    rw [hj', List.getD_eq_getElem?_getD]
    obtain hlt | rfl := lt_or_eq_of_le hj
    · rw [List.getElem?_append_left hlt]
    · rw [List.getElem?_append_right le_rfl, Nat.sub_self]
      simp
  · rintro ⟨hlen, hbytes, hs⟩
    refine ⟨(List.range (size - start - s.length - 1)).map fun j => bytes (start + (s.length + 1 + j)), ?_, hs⟩
    apply List.ext_getElem
    · simp
      omega
    · intro j hj hj'
      simp only [List.getElem_map, List.getElem_range, List.getElem_append]
      split_ifs with hlt
      · rw [hbytes j hlt.le, List.getD_eq_getElem _ _ hlt]
      · obtain rfl | hgt := Nat.eq_or_lt_of_not_lt hlt
        · simp [hbytes _ le_rfl]
        · rw [List.getElem_cons, dif_neg (by omega), List.getElem_map, List.getElem_range]
          congr 1
          omega

lemma textAt_head (h : textAt size bytes start = some s) : bytes start ≠ 0 ↔ s ≠ [] := by
  obtain ⟨-, hbytes, hs⟩ := textAt_eq_some.mp h
  have hstart := hbytes 0 (Nat.zero_le _)
  rw [Nat.add_zero] at hstart
  rw [hstart]
  cases s with
  | nil => simp
  | cons c s =>
    refine iff_of_true ?_ (List.cons_ne_nil c s)
    rintro rfl
    exact hs List.mem_cons_self

lemma textAt_drop (h : textAt size bytes 0 = some s) (hi : i ≤ s.length) : textAt size bytes i = some
    (s.drop i) := by
  obtain ⟨hlen, hbytes, hs⟩ := textAt_eq_some.mp h
  refine textAt_eq_some.mpr ⟨by rw [List.length_drop]; omega, fun j hj => ?_, fun hmem =>
    hs (List.mem_of_mem_drop hmem)⟩
  rw [List.length_drop] at hj
  have hij := hbytes (i + j) (by omega)
  rw [Nat.zero_add] at hij
  rw [hij, List.getD_eq_getElem?_getD, List.getD_eq_getElem?_getD, List.getElem?_drop]

/-! ### `parse_input` -/

structure Fitting (first second third : Str) : Prop where
  first : first.length ≤ 511
  second : second.length ≤ 511 ∨ third = second.drop 512
  third : third.length ≤ 511

lemma copyWord_word (hi : i ≤ size) (line : Str) (dest : ℕ → UInt8) : copyWord size (ignoreBlanks line) i dest =
    if i + (word line).length ≤ size then some (afterWord line, storeAt dest i (word line)) else none :=
  copyWord_eq hi _ _

def storedArgs (second third : Str) : ℕ → UInt8 := storeAt (storeAt (fun _ => 0) 0 second) 512 third

lemma parseInput_eq (line : Str) : parseInput line .cleared =
    if (word line).length ≤ 512 ∧ (word (afterWord line)).length ≤ 1024 ∧
      (word (afterWord (afterWord line))).length ≤ 512 then
      let args := storedArgs (word (afterWord line)) (word (afterWord (afterWord line)))
      some (if words (afterWord (afterWord (afterWord line))) = [] then 0 else -1,
        ⟨storeAt (fun _ => 0) 0 (word line), args, (if args 0 ≠ 0 then 1 else 0) + if args 512 ≠ 0 then 1 else 0⟩)
    else none := by
  have hcode : ∀ rest : Str, (if rest.any (· ≠ space) then (-1 : ℤ) else 0) = if words rest =
    [] then 0 else -1 := by
    intro rest
    rw [← ite_not]
    simp only [any_iff_words, Ne, not_not]
  unfold parseInput
  rw [copyWord_word (Nat.zero_le _)]
  by_cases h₁ : (word line).length ≤ 512
  swap
  · rw [if_neg (by omega), if_neg fun h => h₁ h.1]
    rfl
  rw [if_pos (by omega), Option.bind_eq_bind, Option.bind_some]
  dsimp only
  rw [copyWord_word (Nat.zero_le _)]
  by_cases h₂ : (word (afterWord line)).length ≤ 1024
  swap
  · rw [if_neg (by omega), if_neg fun h => h₂ h.2.1]
    rfl
  rw [if_pos (by omega), Option.bind_some]
  dsimp only
  rw [copyWord_word (by omega)]
  by_cases h₃ : (word (afterWord (afterWord line))).length ≤ 512
  swap
  · rw [if_neg (by omega), if_neg fun h => h₃ h.2.2]
    rfl
  rw [if_pos (by omega), if_pos ⟨h₁, h₂, h₃⟩, Option.bind_some]
  dsimp only [CommandLine.cleared]
  rw [hcode, UInt8.zero_add]
  rfl

lemma textAt_cmd (hs : 0 ∉ w) (hw : w.length ≤ 511) : textAt 512 (storeAt (fun _ => 0) 0 w) 0 = some w := by
  refine textAt_eq_some.mpr ⟨by omega, fun j hj => ?_, hs⟩
  unfold storeAt
  split_ifs with h
  · rw [Nat.zero_add, Nat.sub_zero]
  · rw [List.getD_eq_default _ _ (by omega)]

lemma textAt_args {second third : Str} (hs : 0 ∉ second) (ht : 0 ∉ third) (hfit : Fitting [] second third) :
    textAt 1024 (storedArgs second third) 0 = some second ∧ textAt 1024 (storedArgs second third) 512 =
    some third := by
  have hthird := hfit.third
  have hlong : second.length ≤ 511 ∨ second.length = 512 + third.length ∧ third = second.drop 512 := by
    obtain h | h := hfit.second
    · exact .inl h
    · obtain hle | hlt := Nat.lt_or_ge 511 second.length
      · exact .inr ⟨by rw [h, List.length_drop]; omega, h⟩
      · exact .inl hlt
  have hbyte : ∀ k, storedArgs second third k =
      if 512 ≤ k ∧ k < 512 + third.length then third.getD (k - 512) 0 else second.getD k 0 := by
    intro k
    unfold storedArgs
    rw [storeAt, storeAt]
    congr 1
    split_ifs with h
    · rfl
    · rw [List.getD_eq_default _ _ (by omega)]
  constructor
  · refine textAt_eq_some.mpr ⟨by omega, fun j hj => ?_, hs⟩
    rw [hbyte, Nat.zero_add]
    split_ifs with h
    · obtain hle | ⟨hlen, hdrop⟩ := hlong
      · omega
      · rw [hdrop, List.getD_eq_getElem?_getD, List.getElem?_drop, List.getD_eq_getElem?_getD,
          Nat.add_sub_cancel' h.1]
    · rfl
  · refine textAt_eq_some.mpr ⟨by omega, fun j hj => ?_, ht⟩
    rw [hbyte]
    split_ifs with h
    · rw [Nat.add_sub_cancel_left]
    · rw [List.getD_eq_default _ _ (by omega), List.getD_eq_default _ _ (by omega)]

lemma word_of_afterWord (h : word line = []) : word (afterWord line) = [] := by
  rw [afterWord_of_nil h]
  rfl

lemma words_length_cases (line : Str) : (words line).length =
    if word line = [] then 0 else if word (afterWord line) = [] then 1
      else if word (afterWord (afterWord line)) = [] then 2
        else (words (afterWord (afterWord (afterWord line)))).length + 3 := by
  rw [words_length, words_length (afterWord line), words_length (afterWord (afterWord line))]
  split_ifs <;> rfl

lemma argsCount_eq (line : Str) : min ((words line).length - 1) 2 =
    (if word (afterWord line) ≠ [] then 1 else 0) + if word (afterWord (afterWord line)) ≠ [] then 1 else 0 := by
  rw [words_length_cases]
  by_cases h₁ : word line = []
  · simp [h₁, word_of_afterWord h₁, word_of_afterWord (word_of_afterWord h₁)]
  by_cases h₂ : word (afterWord line) = []
  · simp [h₁, h₂, word_of_afterWord h₂]
  by_cases h₃ : word (afterWord (afterWord line)) = []
  · simp [h₁, h₂, h₃]
  · simp [h₁, h₂, h₃]

lemma four_words_iff (line : Str) :
    4 ≤ (words line).length ↔ words (afterWord (afterWord (afterWord line))) ≠ [] := by
  rw [words_length_cases, ← List.length_pos_iff]
  have hnil : ∀ {line}, word line = [] → (words (afterWord line)).length = 0 := by
    intro line h
    rw [afterWord_of_nil h]
    rfl
  split_ifs with h₁ h₂ h₃
  · rw [hnil (word_of_afterWord (word_of_afterWord h₁))]
    decide
  · rw [hnil (word_of_afterWord h₂)]
    decide
  · rw [hnil h₃]
    decide
  · omega

lemma ignoreBlanks_sublist (line : Str) : (ignoreBlanks line).Sublist line := by
  induction line with
  | nil => exact List.Sublist.refl _
  | cons c line ih =>
    rw [ignoreBlanks]
    split_ifs
    · exact ih.cons c
    · exact List.Sublist.refl _

lemma zero_not_mem_word (hs : 0 ∉ line) : 0 ∉ word line :=
  fun h => hs (((List.takeWhile_sublist _).trans (ignoreBlanks_sublist line)).mem h)

lemma zero_not_mem_afterWord (hs : 0 ∉ line) : 0 ∉ afterWord line :=
  fun h => hs (((List.dropWhile_sublist _).trans (ignoreBlanks_sublist line)).mem h)

lemma Tokenises.fitting {code : ℤ} {l : CommandLine} (h : Tokenises line code l) :
    Fitting ((words line).getD 0 []) ((words line).getD 1 []) ((words line).getD 2 []) := by
  have hcmd := (textAt_eq_some.mp h.cmd).1
  have hthird := (textAt_eq_some.mp h.second).1
  refine ⟨by omega, ?_, by omega⟩
  obtain hlt | hge := Nat.lt_or_ge ((words line).getD 1 []).length 512
  · exact .inl (by omega)
  · exact .inr (Option.some.inj (h.second.symm.trans (textAt_drop h.first hge)))

theorem parse_input_tokenises_iff (line : Str) (hs : 0 ∉ line) :
    (∃ code l, parseInput line .cleared = some (code, l) ∧ Tokenises line code l) ↔
      Fitting ((words line).getD 0 []) ((words line).getD 1 []) ((words line).getD 2 []) := by
  have hwords : (words line).getD 0 [] = word line ∧ (words line).getD 1 [] = word (afterWord line) ∧
      (words line).getD 2 [] = word (afterWord (afterWord line)) := by
    simp only [words_getD_succ, words_getD_zero, and_self]
  constructor
  · rintro ⟨code, l, -, h⟩
    exact h.fitting
  · intro h
    rw [hwords.1, hwords.2.1, hwords.2.2] at h
    have hs₁ := zero_not_mem_afterWord hs
    obtain ⟨hfirst, hsecond⟩ := textAt_args (zero_not_mem_word hs₁) (zero_not_mem_word
      (zero_not_mem_afterWord hs₁)) ⟨Nat.zero_le _, h.second, h.third⟩
    have hlen := (textAt_eq_some.mp hfirst).1
    refine ⟨_, _, (parseInput_eq line).trans
      (if_pos ⟨by have := h.first; omega, by omega, by have := h.third; omega⟩), ?_⟩
    refine ⟨?_, ?_, ?_, ?_, ?_⟩
    · rw [hwords.1]
      exact textAt_cmd (zero_not_mem_word hs) h.first
    · rw [hwords.2.1]
      exact hfirst
    · rw [hwords.2.2]
      exact hsecond
    · rw [argsCount_eq]
      simp only [← textAt_head hfirst, ← textAt_head hsecond]
      split_ifs <;> rfl
    · rw [four_words_iff]
      split_ifs with hnil <;> simp [hnil]

def longArgument : Str := [0x63, 0x64, space] ++ List.replicate 513 0x61

theorem parse_input_overruns : longArgument.length ≤ 2047 ∧ 0 ∉ longArgument ∧
    (parseInput longArgument .cleared).map (fun r => r.2.argsCount) = some 2 ∧
    ¬ ∃ code l, parseInput longArgument .cleared = some (code, l) ∧ Tokenises longArgument code l := by
  refine ⟨by decide +kernel, by decide +kernel, by decide +kernel, ?_⟩
  rintro ⟨code, l, -, h⟩
  have hfit := h.fitting
  simp only [words_getD_succ, words_getD_zero] at hfit
  have hlong : ¬ ((word (afterWord longArgument)).length ≤ 511 ∨
      word (afterWord (afterWord longArgument)) = (word (afterWord longArgument)).drop 512) := by decide +kernel
  exact hlong hfit.second

theorem parse_input_tokenises_short : ∃ code l,
    parseInput [space, 0x63, 0x64, space, space, 0x61] .cleared = some (code, l) ∧
      Tokenises [space, 0x63, 0x64, space, space, 0x61] code l := by
  refine (parse_input_tokenises_iff [space, 0x63, 0x64, space, space, 0x61] (by decide)).mpr ?_
  simp only [words_getD_succ, words_getD_zero]
  exact ⟨by decide, .inl (by decide), by decide⟩

end Semogakelar.Shell
