import Semogakelar.Fat32.WellFormed

/-! What the search through the parent's table finds: a duplicate, no room, or the first slot that is not live. -/

namespace Semogakelar.Fat32

open Library Function

variable {t : DirectoryTable} {request : DriverRequest} {a : UInt8} {s : ParentScan} {i : Fin 64}

lemma hasName_iff {e : DirectoryEntry} : e.hasName request = true ↔ e.name = request.name := by
  simp [DirectoryEntry.hasName]

lemma hasExt_iff {e : DirectoryEntry} : e.hasExt request = true ↔ e.ext = request.ext := by
  simp [DirectoryEntry.hasExt]

structure Duplicate (e : DirectoryEntry) (request : DriverRequest) (a : UInt8) : Prop where
  name : e.name = request.name
  ext : e.ext = request.ext
  attr : e.attr = a

lemma duplicate_iff {e : DirectoryEntry} :
    (e.hasName request && e.hasExt request && e.attr == a) = true ↔ Duplicate e request a := by
  simp only [Bool.and_eq_true, hasName_iff, hasExt_iff, beq_iff_eq]
  exact ⟨fun h => ⟨h.1.1, h.1.2, h.2⟩, fun h => ⟨⟨h.name, h.ext⟩, h.attr⟩⟩

structure FirstFree (t : DirectoryTable) (i : Fin 64) : Prop where
  slot : 2 ≤ i.val
  free : ¬ (t i).Live
  before : ∀ j : Fin 64, 2 ≤ j.val → j < i → (t j).Live

structure ScanInvariant (t : DirectoryTable) (request : DriverRequest) (a : UInt8) (s : ParentScan) : Prop where
  low : 2 ≤ s.idx
  high : s.idx ≤ 64
  unmatched : ∀ j : Fin 64, 2 ≤ j.val → j.val < s.idx → ¬ Duplicate (t j) request a
  full : s.found = false → s.numberOfEmptyEntry = 0 ∧ ∀ j : Fin 64, 2 ≤ j.val → j.val < s.idx → (t j).Live
  free : s.found = true → s.numberOfEmptyEntry ≠ 0 ∧
    ∃ h : s.emptyEntryIdx < 64, s.emptyEntryIdx < s.idx ∧ FirstFree t ⟨s.emptyEntryIdx, h⟩

lemma scan_next (h : ScanInvariant t request a s) (hi : s.idx < 64)
    (hd : ¬ Duplicate (t ⟨s.idx, hi⟩) request a) (hl : (t ⟨s.idx, hi⟩).Live) :
    ScanInvariant t request a { s with idx := s.idx + 1 } where
  low := Nat.le_succ_of_le h.low
  high := hi
  unmatched := by
    intro j hj hlt
    rcases Nat.lt_succ_iff_lt_or_eq.mp hlt with hlt | he
    · exact h.unmatched j hj hlt
    · rwa [show j = ⟨s.idx, hi⟩ from Fin.ext he]
  full := by
    intro hf
    refine ⟨(h.full hf).1, fun j hj hlt => ?_⟩
    rcases Nat.lt_succ_iff_lt_or_eq.mp hlt with hlt | he
    · exact (h.full hf).2 j hj hlt
    · rwa [show j = ⟨s.idx, hi⟩ from Fin.ext he]
  free := by
    intro hf
    obtain ⟨hn, hb, hlt, hff⟩ := h.free hf
    exact ⟨hn, hb, Nat.lt_succ_of_lt hlt, hff⟩

lemma scan_next_free (h : ScanInvariant t request a s) (hi : s.idx < 64)
    (hd : ¬ Duplicate (t ⟨s.idx, hi⟩) request a) (hl : ¬ (t ⟨s.idx, hi⟩).Live) :
    ScanInvariant t request a
      ⟨s.idx + 1, if s.found then s.emptyEntryIdx else s.idx, s.numberOfEmptyEntry + 1, true⟩ where
  low := Nat.le_succ_of_le h.low
  high := hi
  unmatched := by
    intro j hj hlt
    rcases Nat.lt_succ_iff_lt_or_eq.mp hlt with hlt | he
    · exact h.unmatched j hj hlt
    · rwa [show j = ⟨s.idx, hi⟩ from Fin.ext he]
  full := by simp
  free := by
    rintro -
    refine ⟨Nat.succ_ne_zero _, ?_⟩
    cases hf : s.found with
    | true =>
      obtain ⟨_, hb, hlt, hff⟩ := h.free hf
      exact ⟨by simpa using hb, by simp only [if_true]; omega, by simpa using hff⟩
    | false =>
      refine ⟨by simpa using hi, by simp, ?_⟩
      simp only [Bool.false_eq_true, if_false]
      exact ⟨h.low, hl, fun j hj hlt => (h.full hf).2 j hj hlt⟩

lemma scanParent_spec (fuel : ℕ) (h : ScanInvariant t request a s) (hf : s.idx + fuel = 64) :
    ScanInvariant t request a (scanParent t request a fuel s) ∧
      ∀ j : Fin 64, j.val = (scanParent t request a fuel s).idx → Duplicate (t j) request a := by
  induction fuel generalizing s with
  | zero => exact ⟨h, fun j hj => absurd j.isLt (by rw [hj, scanParent]; omega)⟩
  | succ fuel ih =>
    have hi : s.idx < 64 := by omega
    rw [scanParent, dif_pos hi]
    simp only
    by_cases hd : Duplicate (t ⟨s.idx, hi⟩) request a
    · rw [if_pos (duplicate_iff.mpr hd)]
      exact ⟨h, fun j hj => by rwa [show j = ⟨s.idx, hi⟩ from Fin.ext hj]⟩
    · rw [if_neg (mt duplicate_iff.mp hd)]
      by_cases hl : (t ⟨s.idx, hi⟩).userAttribute = uattrNotEmpty
      · rw [if_neg (not_not.mpr hl)]
        exact ih (scan_next h hi hd hl) (by simp only; omega)
      · rw [if_pos hl]
        exact ih (scan_next_free h hi hd hl) (by simp only; omega)

structure Accepted (fs : FileSystem) (request : DriverRequest) (i : Fin 64) : Prop where
  parent : (fs.table request.parentClusterNumber 0).IsFolder
  unmatched : ∀ j : Fin 64, 2 ≤ j.val →
    ¬ Duplicate (fs.table request.parentClusterNumber j) request (requestAttribute request)
  slot : FirstFree (fs.table request.parentClusterNumber) i

lemma FirstFree.unique {j : Fin 64} (h : FirstFree t i) (h' : FirstFree t j) : i = j := by
  rcases lt_trichotomy i j with hlt | he | hlt
  · exact (h.free (h'.before i h.slot hlt)).elim
  · exact he
  · exact (h'.free (h.before j h'.slot hlt)).elim

lemma scanParent_cases (fs : FileSystem) (request : DriverRequest)
    (hp : (fs.table request.parentClusterNumber 0).IsFolder) {scan : ParentScan}
    (hscan : scan = scanParent (fs.table request.parentClusterNumber) request (requestAttribute request) 62
      ⟨2, 2 ^ 32 - 1, 0, false⟩) :
    (scan.idx < 64 ∧ ∀ i, ¬ Accepted fs request i) ∨
    (¬ scan.idx < 64 ∧ scan.numberOfEmptyEntry = 0 ∧ ∀ i, ¬ Accepted fs request i) ∨
    ¬ scan.idx < 64 ∧ scan.numberOfEmptyEntry ≠ 0 ∧
      ∃ h : scan.emptyEntryIdx < 64, Accepted fs request ⟨scan.emptyEntryIdx, h⟩ := by
  set t := fs.table request.parentClusterNumber with ht
  have hstart : ScanInvariant t request (requestAttribute request) ⟨2, 2 ^ 32 - 1, 0, false⟩ :=
    ⟨le_rfl, by decide, fun j hj hlt => absurd hlt (by simp only; omega),
      fun _ => ⟨rfl, fun j hj hlt => absurd hlt (by simp only; omega)⟩, fun hf => absurd hf Bool.false_ne_true⟩
  obtain ⟨hinv, hmatch⟩ := scanParent_spec 62 hstart rfl
  rw [← hscan] at hinv hmatch
  by_cases hr : scan.idx < 64
  · exact Or.inl ⟨hr, fun i hi => hi.unmatched ⟨_, hr⟩ hinv.low (hmatch _ rfl)⟩
  by_cases hn : scan.numberOfEmptyEntry = 0
  · refine Or.inr (Or.inl ⟨hr, hn, fun i hi => ?_⟩)
    cases hf : scan.found with
    | true => exact (hinv.free hf).1 hn
    | false => exact hi.slot.free ((hinv.full hf).2 i hi.slot.slot (by omega))
  · obtain ⟨_, hlt, _, hff⟩ := hinv.free (Bool.not_eq_false _ ▸ fun hf => hn (hinv.full hf).1)
    exact Or.inr (Or.inr ⟨hr, hn, hlt, hp, fun j hj => hinv.unmatched j hj (by omega), hff⟩)

lemma write_cases (img : KernelImage) (fs : FileSystem) (request : DriverRequest) :
    ((∃ code, code ≠ 0 ∧ ∀ fs' : FileSystem,
        fs'.table request.parentClusterNumber = fs.table request.parentClusterNumber →
        write img fs' request = .returned code fs') ∧ ∀ i, ¬ Accepted fs request i) ∨
    ∃ i, Accepted fs request i ∧ ∀ fs' : FileSystem,
      fs'.table request.parentClusterNumber = fs.table request.parentClusterNumber →
      write img fs' request = writeEntry img fs' request (fs.table request.parentClusterNumber) i := by
  by_cases hp : (fs.table request.parentClusterNumber 0).attr ≠ attrSubdirectory
  · refine Or.inl ⟨⟨2, by decide, fun fs' he => ?_⟩, fun i hi => hp hi.parent⟩
    rw [write]
    simp only [he, if_pos hp]
  rcases scanParent_cases fs request (not_not.mp hp) rfl with ⟨hr, hna⟩ | ⟨hr, hn, hna⟩ | ⟨hr, hn, hlt, ha⟩
  · refine Or.inl ⟨⟨1, by decide, fun fs' he => ?_⟩, hna⟩
    rw [write]
    simp only [he, if_neg hp, if_pos hr]
  · refine Or.inl ⟨⟨-1, by decide, fun fs' he => ?_⟩, hna⟩
    rw [write]
    simp only [he, if_neg hp, if_neg hr, if_pos hn]
  · refine Or.inr ⟨_, ha, fun fs' he => ?_⟩
    rw [write]
    simp only [he, if_neg hp, if_neg hr, if_neg hn, dif_pos hlt]

end Semogakelar.Fat32
