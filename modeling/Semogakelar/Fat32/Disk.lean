import Semogakelar.Library.Bytes

/-! The disk as the ATA block driver presents it, and its clusters of four blocks. -/

namespace Semogakelar.Fat32

open Library

abbrev Block := Fin 512 → UInt8
abbrev Cluster := Fin 2048 → UInt8
abbrev Disk := ℕ → Block

/-- The driver hands the device 28 bits of the block address. -/
def deviceAddress (logicalBlockAddress : UInt32) : ℕ := logicalBlockAddress.toNat % 2 ^ 28

def readBlocks (disk : Disk) (logicalBlockAddress : UInt32) (blockCount : ℕ) : Fin blockCount → Block :=
  fun i => disk (deviceAddress logicalBlockAddress + i)

def writeBlocks (disk : Disk) (logicalBlockAddress : UInt32) (blockCount : ℕ) (data : Fin blockCount → Block) :
    Disk := fun b =>
  if h : deviceAddress logicalBlockAddress ≤ b ∧ b - deviceAddress logicalBlockAddress < blockCount then
    data ⟨b - deviceAddress logicalBlockAddress, h.2⟩
  else disk b

def clusterToLba (cluster : UInt32) : UInt32 := 4 * cluster

def readClusters (disk : Disk) (clusterNumber : UInt32) : Cluster :=
  (rows UInt8 4 512).symm (readBlocks disk (clusterToLba clusterNumber) 4)

def writeClusters (disk : Disk) (clusterNumber : UInt32) (data : Cluster) : Disk :=
  writeBlocks disk (clusterToLba clusterNumber) 4 (rows UInt8 4 512 data)

lemma deviceAddress_clusterToLba (c : UInt32) : deviceAddress (clusterToLba c) = 4 * (c.toNat % 2 ^ 26) := by
  simp only [deviceAddress, clusterToLba, UInt32.toNat_mul, UInt32.reduceToNat]
  omega

@[simp] lemma read_write_self (disk : Disk) (c : UInt32) (data : Cluster) :
    readClusters (writeClusters disk c data) c = data := by
  rw [readClusters, Equiv.symm_apply_eq]
  funext i
  simp [readBlocks, writeClusters, writeBlocks]

lemma write_read_self (disk : Disk) (c : UInt32) : writeClusters disk c (readClusters disk c) = disk := by
  funext b
  rw [writeClusters, readClusters, Equiv.apply_symm_apply, writeBlocks]
  split_ifs with h
  · exact congrArg disk (Nat.add_sub_cancel' h.1)
  · rfl

lemma read_write_of_ne (disk : Disk) {c c' : UInt32} (data : Cluster)
    (h : c'.toNat % 2 ^ 26 ≠ c.toNat % 2 ^ 26) :
    readClusters (writeClusters disk c data) c' = readClusters disk c' := by
  simp only [readClusters]
  congr 1
  funext i
  simp only [readBlocks, writeClusters, writeBlocks, deviceAddress_clusterToLba]
  exact dif_neg (by omega)

lemma read_write_ne (disk : Disk) {c c' : UInt32} (data : Cluster) (hc : c.toNat < 2 ^ 26)
    (hc' : c'.toNat < 2 ^ 26) (h : c' ≠ c) :
    readClusters (writeClusters disk c data) c' = readClusters disk c' := by
  apply read_write_of_ne
  rw [Nat.mod_eq_of_lt hc, Nat.mod_eq_of_lt hc']
  exact fun hn => h (UInt32.toNat_inj.mp hn)

end Semogakelar.Fat32
