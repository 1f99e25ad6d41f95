import Semogakelar.Fat32.Disk
import Mathlib.Tactic.FinCases

/-! Directory entries, directory tables and the file allocation table, and their packed images in a cluster. -/

namespace Semogakelar.Fat32

open Library

abbrev Name := Fin 8 → UInt8
abbrev Ext := Fin 3 → UInt8

def attrSubdirectory : UInt8 := 0b00010000
def uattrNotEmpty : UInt8 := 0b10101010
def fatEndOfFile : UInt32 := 0x0FFFFFFF
def fatEmptyEntry : UInt32 := 0x00000000
def cluster0Value : UInt32 := 0x0FFFFFF0
def cluster1Value : UInt32 := 0x0FFFFFFF
def bootSector : UInt32 := 0
def fatClusterNumber : UInt32 := 1
def rootClusterNumber : UInt32 := 2

structure DirectoryEntry where
  name : Name
  ext : Ext
  attr : UInt8
  userAttribute : UInt8
  undelete : UInt8
  createTime : UInt16
  createDate : UInt16
  accessDate : UInt16
  clusterHigh : UInt16
  modifiedTime : UInt16
  modifiedDate : UInt16
  clusterLow : UInt16
  filesize : UInt32

abbrev DirectoryTable := Fin 64 → DirectoryEntry
abbrev ClusterMap := Fin 512 → UInt32

-- The proofs behind the literals of a `Fin` are named once for its index type and shared by every definition.
instance neZero_tableEntries : NeZero 64 := ⟨by decide⟩
instance neZero_mapEntries : NeZero 512 := ⟨by decide⟩

def field (b : Fin 32 → UInt8) (offset size : ℕ) (h : offset + size ≤ 32) : Fin size → UInt8 :=
  fun j => b ⟨offset + j, by omega⟩

def unpackEntry (b : Fin 32 → UInt8) : DirectoryEntry where
  name := field b 0 8 (by decide)
  ext := field b 8 3 (by decide)
  attr := b 11
  userAttribute := b 12
  undelete := b 13
  createTime := uint16 (field b 14 2 (by decide))
  createDate := uint16 (field b 16 2 (by decide))
  accessDate := uint16 (field b 18 2 (by decide))
  clusterHigh := uint16 (field b 20 2 (by decide))
  modifiedTime := uint16 (field b 22 2 (by decide))
  modifiedDate := uint16 (field b 24 2 (by decide))
  clusterLow := uint16 (field b 26 2 (by decide))
  filesize := uint32 (field b 28 4 (by decide))

def packEntry (e : DirectoryEntry) : Fin 32 → UInt8 := fun i =>
  if h : i.val < 8 then e.name ⟨i, h⟩
  else if h : i.val < 11 then e.ext ⟨i - 8, by omega⟩
  else if i.val = 11 then e.attr
  else if i.val = 12 then e.userAttribute
  else if i.val = 13 then e.undelete
  else if h : i.val < 16 then uint16.symm e.createTime ⟨i - 14, by omega⟩
  else if h : i.val < 18 then uint16.symm e.createDate ⟨i - 16, by omega⟩
  else if h : i.val < 20 then uint16.symm e.accessDate ⟨i - 18, by omega⟩
  else if h : i.val < 22 then uint16.symm e.clusterHigh ⟨i - 20, by omega⟩
  else if h : i.val < 24 then uint16.symm e.modifiedTime ⟨i - 22, by omega⟩
  else if h : i.val < 26 then uint16.symm e.modifiedDate ⟨i - 24, by omega⟩
  else if h : i.val < 28 then uint16.symm e.clusterLow ⟨i - 26, by omega⟩
  else uint32.symm e.filesize ⟨i - 28, by omega⟩

def entryEquiv : (Fin 32 → UInt8) ≃ DirectoryEntry where
  toFun := unpackEntry
  invFun := packEntry
  left_inv b := by
    funext i
    fin_cases i <;> simp [packEntry, unpackEntry, field]
  right_inv e := by
    have h2 : ∀ (v : UInt16) (f : Fin 2 → UInt8), (∀ j, f j = uint16.symm v j) → uint16 f = v := by
      intro v f h
      rw [← Equiv.eq_symm_apply]
      exact funext h
    have h4 : uint32 (field (packEntry e) 28 4 (by decide)) = e.filesize := by
      rw [← Equiv.eq_symm_apply]
      funext j
      fin_cases j <;> rfl
    cases e
    simp only [unpackEntry, DirectoryEntry.mk.injEq]
    refine ⟨?_, ?_, rfl, rfl, rfl, h2 _ _ ?_, h2 _ _ ?_, h2 _ _ ?_, h2 _ _ ?_, h2 _ _ ?_, h2 _ _ ?_,
      h2 _ _ ?_, h4⟩
    · funext j
      fin_cases j <;> rfl
    · funext j
      fin_cases j <;> rfl
    all_goals
      intro j
      fin_cases j <;> rfl

def tableEquiv : Cluster ≃ DirectoryTable :=
  (rows UInt8 64 32).trans (Equiv.arrowCongr (Equiv.refl (Fin 64)) entryEquiv)

def mapEquiv : Cluster ≃ ClusterMap :=
  (rows UInt8 512 4).trans (Equiv.arrowCongr (Equiv.refl (Fin 512)) uint32)

namespace DirectoryEntry

def zero : DirectoryEntry := ⟨fun _ => 0, fun _ => 0, 0, 0, 0, 0, 0, 0, 0, 0, 0, 0, 0⟩

def clusterNumber (e : DirectoryEntry) : UInt32 := (e.clusterHigh.toUInt32 <<< 16) ||| e.clusterLow.toUInt32

end DirectoryEntry

def initDirectoryEntry (dest : DirectoryEntry) (name : Name) (ext : Ext) (attr : UInt8)
    (clusterNumber filesize : UInt32) : DirectoryEntry :=
  { dest with
    name := name
    ext := ext
    attr := attr
    userAttribute := uattrNotEmpty
    clusterLow := (clusterNumber &&& 0xFFFF).toUInt16
    clusterHigh := ((clusterNumber >>> 16) &&& 0xFFFF).toUInt16
    filesize := filesize }

def memcmp {n : ℕ} (s₁ s₂ : Fin n → UInt8) : ℤ :=
  match Fin.find? fun i => s₁ i != s₂ i with
  | none => 0
  | some i => if s₁ i < s₂ i then -1 else 1

@[simp] lemma memcmp_eq_zero {n : ℕ} (s₁ s₂ : Fin n → UInt8) : memcmp s₁ s₂ = 0 ↔ s₁ = s₂ := by
  unfold memcmp
  split
  · next h =>
    rw [Fin.find?_eq_none_iff] at h
    exact iff_of_true rfl (funext fun i => by simpa using h i)
  · next i h =>
    have hi := Fin.eq_true_of_find?_eq_some h
    refine iff_of_false (by split <;> decide) fun he => ?_
    simp [he] at hi

lemma zero_eq : DirectoryEntry.zero = entryEquiv (fun _ => 0) := by
  rw [← Equiv.symm_apply_eq]
  funext i
  fin_cases i <;> rfl

@[simp] lemma clusterNumber_init (dest : DirectoryEntry) (name : Name) (ext : Ext) (a : UInt8) (c n : UInt32) :
    (initDirectoryEntry dest name ext a c n).clusterNumber = c := by
  apply UInt32.toNat_inj.mp
  have hc := c.toNat_lt
  simp only [DirectoryEntry.clusterNumber, initDirectoryEntry, UInt32.toNat_or, UInt32.toNat_shiftLeft,
    UInt16.toNat_toUInt32, UInt32.toNat_toUInt16, UInt32.toNat_and, UInt32.toNat_shiftRight, UInt32.reduceToNat]
  have hm : ∀ n : ℕ, n &&& 65535 = n % 65536 := fun n => Nat.and_two_pow_sub_one_eq_mod n 16
  have hs : (c.toNat / 65536 % 65536 % 65536) <<< 16 < 2 ^ 32 := by
    rw [Nat.shiftLeft_eq]
    omega
  rw [hm, hm, Nat.shiftRight_eq_div_pow, Nat.mod_eq_of_lt (a := _ <<< _) hs,
    ← Nat.shiftLeft_add_eq_or_of_lt (by omega), Nat.shiftLeft_eq]
  omega

end Semogakelar.Fat32
