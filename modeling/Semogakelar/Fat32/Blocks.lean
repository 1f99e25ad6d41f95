import Semogakelar.Fat32.Disk
import Semogakelar.Library.Ata

/-! The block driver over the ports of an ATA disk, and that it shows the disk of the file system whatever the
disk's delays. -/

namespace Semogakelar.Fat32.Ata

open Function Library Library.Ata

def ataStatusBsy : UInt8 := 0x80
def ataStatusRdy : UInt8 := 0x40
def halfBlockSize : ℕ := 256

def ataBusyWait : ℕ → Device → Option Device
  | 0, _ => none
  | fuel + 1, d =>
    let (status, d) := d.inb 0x1F7
    if status &&& ataStatusBsy ≠ 0 then ataBusyWait fuel d else some d

-- The loop looks at the ready bit, not at the request bit.
def ataDrqWait : ℕ → Device → Option Device
  | 0, _ => none
  | fuel + 1, d =>
    let (status, d) := d.inb 0x1F7
    if status &&& ataStatusRdy = 0 then ataDrqWait fuel d else some d

def ataCommand (logicalBlockAddress : UInt32) (blockCount command : UInt8) (d : Device) : Device :=
  let d := d.outb 0x1F6 ((0xE0 : UInt8) ||| ((logicalBlockAddress >>> 24) &&& 0xF).toUInt8)
  let d := d.outb 0x1F2 blockCount
  let d := d.outb 0x1F3 logicalBlockAddress.toUInt8
  let d := d.outb 0x1F4 (logicalBlockAddress >>> 8).toUInt8
  let d := d.outb 0x1F5 (logicalBlockAddress >>> 16).toUInt8
  d.outb 0x1F7 command

def readWords : ℕ → ℕ → (ℕ → UInt16) → Device → (ℕ → UInt16) × Device
  | 0, _, target, d => (target, d)
  | n + 1, j, target, d =>
    let (word, d) := d.inw 0x1F0
    readWords n (j + 1) (update target j word) d

def readLoop (fuel : ℕ) : ℕ → ℕ → (ℕ → UInt16) → Device → Option ((ℕ → UInt16) × Device)
  | 0, _, target, d => some (target, d)
  | n + 1, j, target, d => do
    let d ← ataBusyWait fuel d
    let d ← ataDrqWait fuel d
    let block := readWords halfBlockSize j target d
    readLoop fuel n (j + halfBlockSize) block.1 block.2

def readBlocks (fuel : ℕ) (ptr : ℕ → UInt16) (logicalBlockAddress : UInt32) (blockCount : UInt8) (d : Device) :
    Option ((ℕ → UInt16) × Device) := do
  let d ← ataBusyWait fuel d
  readLoop fuel blockCount.toNat 0 ptr (ataCommand logicalBlockAddress blockCount 0x20 d)

def writeWords (ptr : ℕ → UInt16) : ℕ → ℕ → Device → Device
  | 0, _, d => d
  | n + 1, j, d => writeWords ptr n (j + 1) (d.outw 0x1F0 (ptr j))

def writeLoop (fuel : ℕ) (ptr : ℕ → UInt16) : ℕ → ℕ → Device → Option Device
  | 0, _, d => some d
  | n + 1, j, d => do
    let d ← ataBusyWait fuel d
    let d ← ataDrqWait fuel d
    writeLoop fuel ptr n (j + halfBlockSize) (writeWords ptr halfBlockSize j d)

def writeBlocks (fuel : ℕ) (ptr : ℕ → UInt16) (logicalBlockAddress : UInt32) (blockCount : UInt8) (d : Device) :
    Option Device := do
  let d ← ataBusyWait fuel d
  writeLoop fuel ptr blockCount.toNat 0 (ataCommand logicalBlockAddress blockCount 0x30 d)

/-! ### Waiting -/

variable {d : Device} {a left fuel : ℕ}

lemma ataBusyWait_eq (h : d.busy < fuel) : ataBusyWait fuel d = some d.settled := by
  induction fuel generalizing d with
  | zero => omega
  | succ fuel ih =>
    by_cases hb : d.busy = 0
    · obtain ⟨s, hs, hbsy, -⟩ := Device.inb_free hb
      simp [ataBusyWait, ataStatusBsy, hs, hbsy, Device.settled, ← hb]
    · have hbsy : ∀ v : UInt8, (0x80 ||| v) &&& 0x80 ≠ 0 := by
        intro v hv
        have hbit := congrArg (fun x : UInt8 => x.toBitVec.getLsbD 7) hv
        simp at hbit
      have hlt : d.busy - 1 < fuel := by omega
      rw [ataBusyWait, Device.inb_busy hb]
      exact (if_pos (hbsy _)).trans (ih (d := { d with busy := d.busy - 1 }) hlt)

lemma ataDrqWait_eq (hb : d.busy = 0) (h : 0 < fuel) : ataDrqWait fuel d = some d := by
  obtain ⟨fuel, rfl⟩ := Nat.exists_eq_succ_of_ne_zero h.ne'
  obtain ⟨s, hs, -, hrdy⟩ := Device.inb_free hb
  simp [ataDrqWait, ataStatusRdy, hs, hrdy]

/-! ### Commands -/

lemma address_registers (lba : UInt32) :
    (((0xE0 : UInt8) ||| ((lba >>> 24) &&& 0xF).toUInt8) &&& 0xF).toNat * 2 ^ 24 +
    (lba >>> 16).toUInt8.toNat * 2 ^ 16 +
      (lba >>> 8).toUInt8.toNat * 2 ^ 8 + lba.toUInt8.toNat = deviceAddress lba := by
  have hlow : ∀ n : ℕ, n &&& 15 = n % 16 := fun n => Nat.and_two_pow_sub_one_eq_mod n 4
  have hhead : ∀ n : ℕ, (224 ||| n) &&& 15 = n % 16 := fun n => by
    rw [Nat.and_or_distrib_right, hlow n]
    exact Nat.zero_or _
  have hlt := lba.toNat_lt
  simp only [deviceAddress, UInt8.toNat_and, UInt8.toNat_or, UInt32.toNat_toUInt8, UInt32.toNat_and,
    UInt32.toNat_shiftRight, UInt32.reduceToNat, UInt8.reduceToNat, Nat.reduceMod, Nat.shiftRight_eq_div_pow,
    hhead, hlow]
  omega

lemma ataCommand_eq (hb : d.busy = 0) (hp : d.phase = .idle) (lba : UInt32) (blockCount command : UInt8) :
    ataCommand lba blockCount command d = Device.command { d with
      driveHead := (0xE0 : UInt8) ||| ((lba >>> 24) &&& 0xF).toUInt8
      sectorCount := blockCount
      lbaLow := lba.toUInt8
      lbaMid := (lba >>> 8).toUInt8
      lbaHigh := (lba >>> 16).toUInt8 } command := by
  simp [ataCommand, Device.outb, hb, hp]

lemma drive_selected (x : UInt32) : ((0xE0 : UInt8) ||| (x &&& 0xF).toUInt8) &&& 0x50 = 0x40 := by
  have hbits : ∀ n : ℕ, n < 16 → (224 ||| n) &&& 80 = 64 := by decide
  apply UInt8.toNat_inj.mp
  have hx : x.toNat &&& 15 < 16 := Nat.and_lt_two_pow (n := 4) _ (by decide)
  have hm : (x.toNat &&& 15) % 2 ^ 8 = x.toNat &&& 15 := Nat.mod_eq_of_lt (by omega)
  simp only [UInt8.toNat_and, UInt8.toNat_or, UInt32.toNat_toUInt8, UInt32.toNat_and, UInt32.reduceToNat,
    UInt8.reduceToNat, hm]
  exact hbits _ hx

lemma read_command (hb : d.busy = 0) (hp : d.phase = .idle) (lba : UInt32) {blockCount : UInt8}
    (hn : blockCount ≠ 0) : ∃ d', ataCommand lba blockCount 0x20 d = d' ∧
      d'.phase = .reading (deviceAddress lba) (blockCount.toNat - 1) ∧ d'.word = 0 ∧ d'.storage = d.storage := by
  rw [ataCommand_eq hb hp, Device.command, if_neg (not_not.mpr (drive_selected _)), if_pos rfl]
  refine ⟨_, rfl, ?_, rfl, rfl⟩
  simp only [Device.stall, Device.address, Device.left, address_registers, if_neg hn]

lemma write_command (hb : d.busy = 0) (hp : d.phase = .idle) (lba : UInt32) {blockCount : UInt8}
    (hn : blockCount ≠ 0) : ∃ d', ataCommand lba blockCount 0x30 d = d' ∧
      d'.phase = .writing (deviceAddress lba) (blockCount.toNat - 1) ∧ d'.word = 0 ∧ d'.storage = d.storage := by
  rw [ataCommand_eq hb hp, Device.command, if_neg (not_not.mpr (drive_selected _)), if_neg (by decide), if_pos rfl]
  refine ⟨_, rfl, ?_, rfl, rfl⟩
  simp only [Device.stall, Device.address, Device.left, address_registers, if_neg hn]

/-! ### Sectors -/

def overlay (target : ℕ → UInt16) (j n : ℕ) (f : ℕ → UInt16) : ℕ → UInt16 :=
  fun x => if j ≤ x ∧ x < j + n then f (x - j) else target x

lemma overlay_zero (target : ℕ → UInt16) (j : ℕ) (f : ℕ → UInt16) : overlay target j 0 f = target :=
  funext fun _ => if_neg (by omega)

lemma overlay_congr {target : ℕ → UInt16} {j n : ℕ} {f g : ℕ → UInt16} (h : ∀ x < n, f x = g x) :
    overlay target j n f = overlay target j n g := by
  funext x
  by_cases hx : j ≤ x ∧ x < j + n
  · rw [overlay, overlay, if_pos hx, if_pos hx, h (x - j) (by omega)]
  · rw [overlay, overlay, if_neg hx, if_neg hx]

lemma overlay_append (target : ℕ → UInt16) (j m n : ℕ) (f : ℕ → UInt16) :
    overlay (overlay target j m f) (j + m) n (fun x => f (m + x)) = overlay target j (m + n) f := by
  funext x
  by_cases hm : j + m ≤ x
  · have hx : m + (x - (j + m)) = x - j := by omega
    have hj : j ≤ x := by omega
    simp [overlay, hx, hm, hj, ← add_assoc, not_lt_of_ge hm]
  · simp only [overlay, hm, false_and, if_false]
    exact if_congr (by omega) rfl rfl

lemma overlay_succ (target : ℕ → UInt16) (j n : ℕ) (f : ℕ → UInt16) :
    overlay (update target j (f 0)) (j + 1) n (fun x => f (1 + x)) = overlay target j (n + 1) f := by
  have hone : update target j (f 0) = overlay target j 1 f := by
    funext x
    by_cases hx : x = j
    · simp [overlay, hx]
    · rw [update_of_ne hx]
      exact (if_neg (by omega)).symm
  rw [hone, overlay_append, add_comm]

lemma readWords_eq (hb : d.busy = 0) (hp : d.phase = .reading a left) (n j : ℕ) (target : ℕ → UInt16)
    (hn : d.word.val + n = 255) : readWords (n + 1) j target d =
      (overlay target j (n + 1) fun x => d.storage a (Fin.ofNat 256 (d.word.val + x)),
        d.nextSector .reading a left) := by
  induction n generalizing j target d with
  | zero =>
    have hword : Fin.ofNat 256 (d.word.val + 0) = d.word := Fin.ext (Nat.mod_eq_of_lt d.word.isLt)
    change readWords 0 (j + 1) (update target j (d.inw 0x1F0).1) (d.inw 0x1F0).2 = _
    rw [Device.inw_reading hb hp, if_pos (by omega), ← overlay_succ, overlay_zero, hword, readWords]
  | succ n ih =>
    have hne : d.word.val ≠ 255 := by omega
    have hval := Device.nextWord_val hne
    have hword : Fin.ofNat 256 (d.word.val + 0) = d.word := Fin.ext (Nat.mod_eq_of_lt d.word.isLt)
    change readWords (n + 1) (j + 1) (update target j (d.inw 0x1F0).1) (d.inw 0x1F0).2 = _
    rw [Device.inw_reading hb hp, if_neg hne, ih (d := d.nextWord) hb hp _ _ (by omega), hval,
      Device.nextWord_nextSector, ← overlay_succ target j (n + 1), hword]
    simp only [add_assoc]
    rfl

lemma readLoop_turn (hp : d.phase = .reading a left) (hw : d.word = 0) (h : d.busy < fuel) (n j : ℕ)
    (target : ℕ → UInt16) : readLoop fuel (n + 1) j target d =
      readLoop fuel n (j + 256) (overlay target j 256 fun x => d.storage (a + x / 256) (Fin.ofNat 256 x))
        (d.settled.nextSector .reading a left) := by
  have hwords := readWords_eq (d := d.settled) rfl hp 255 j target (by rw [Device.settled, hw]; rfl)
  have hsector : (overlay target j 256 fun x => d.storage a (Fin.ofNat 256 (d.word.val + x))) =
      overlay target j 256 fun x => d.storage (a + x / 256) (Fin.ofNat 256 x) := by
    refine overlay_congr fun x hx => ?_
    rw [hw, Nat.div_eq_of_lt hx]
    exact congrArg (fun i => d.storage a (Fin.ofNat 256 i)) (Nat.zero_add x)
  simp only [readLoop, ataBusyWait_eq h, Option.bind_eq_bind, Option.bind_some, ataDrqWait_eq (d := d.settled) rfl
    (Nat.zero_lt_of_lt h), show halfBlockSize = 255 + 1 from rfl, hwords]
  exact congrArg (fun t => readLoop fuel n (j + 256) t (d.settled.nextSector .reading a left)) hsector

lemma readLoop_spec (hp : d.phase = .reading a left) (hw : d.word = 0) (j : ℕ) (target : ℕ → UInt16) :
    ∃ enough d', d'.phase = .idle ∧ d'.storage = d.storage ∧ ∀ fuel, enough ≤ fuel →
      readLoop fuel (left + 1) j target d = some (overlay target j (256 * (left + 1)) fun x =>
        d.storage (a + x / 256) (Fin.ofNat 256 x), d') := by
  induction left generalizing a j target d with
  | zero =>
    refine ⟨d.busy + 1, d.settled.nextSector .reading a 0, rfl, rfl, fun fuel hfuel => ?_⟩
    rw [readLoop_turn hp hw hfuel, readLoop]
  | succ left ih =>
    obtain ⟨enough, d', hidle, hsame, hrest⟩ := ih (d := d.settled.nextSector .reading a (left + 1)) rfl rfl
      (j + 256) (overlay target j 256 fun x => d.storage (a + x / 256) (Fin.ofNat 256 x))
    refine ⟨max (d.busy + 1) enough, d', hidle, hsame, fun fuel hfuel => ?_⟩
    have hword : ∀ x, d.storage (a + 1 + x / 256) (Fin.ofNat 256 x) =
        d.storage (a + (256 + x) / 256) (Fin.ofNat 256 (256 + x)) := by
      intro x
      have hrow : a + (256 + x) / 256 = a + 1 + x / 256 := by omega
      rw [hrow]
      exact congrArg _ (Fin.ext (Nat.add_mod_left 256 x).symm)
    rw [readLoop_turn hp hw (by omega), hrest fuel (by omega), Nat.mul_add_one 256 (left + 1),
      add_comm (256 * (left + 1)) 256, ← overlay_append]
    exact congrArg (fun t => some (t, d')) (overlay_congr fun x _ => hword x)

def filledFrom (ptr : ℕ → UInt16) (j : ℕ) (d : Device) : Sector :=
  fun w => if d.word ≤ w then ptr (j + (w.val - d.word.val)) else d.buffer w

lemma writeWords_eq (hb : d.busy = 0) (hp : d.phase = .writing a left) (ptr : ℕ → UInt16) (n j : ℕ)
    (hn : d.word.val + n = 255) : writeWords ptr (n + 1) j d =
      ((d.fill (filledFrom ptr j d)).commit a).nextSector .writing a left := by
  induction n generalizing j d with
  | zero =>
    have hlast : d.word.val = 255 := hn
    have hfill : update d.buffer d.word (ptr j) = filledFrom ptr j d := by
      funext w
      by_cases hw : w = d.word
      · simp [filledFrom, hw]
      · have hv := Fin.val_ne_of_ne hw
        rw [update_of_ne hw, filledFrom, if_neg]
        rw [Fin.le_def]
        omega
    rw [writeWords, Device.outw_writing hb hp, if_pos hlast, writeWords, hfill]
  | succ n ih =>
    have hne : d.word.val ≠ 255 := by omega
    have hval : (d.fill (update d.buffer d.word (ptr j))).nextWord.word.val = d.word.val + 1 :=
      Device.nextWord_val (d := d.fill _) hne
    have hfill : filledFrom ptr (j + 1) (d.fill (update d.buffer d.word (ptr j))).nextWord =
        filledFrom ptr j d := by
      funext w
      simp only [filledFrom, Fin.le_def, hval]
      by_cases hw : w = d.word
      · subst hw
        rw [if_neg (by omega), if_pos le_rfl, Nat.sub_self]
        exact update_self ..
      · have hv := Fin.val_ne_of_ne hw
        have hbuf : (d.fill (update d.buffer d.word (ptr j))).nextWord.buffer w = d.buffer w := update_of_ne hw ..
        rw [hbuf]
        by_cases hle : d.word.val + 1 ≤ w.val
        · rw [if_pos hle, if_pos (by omega)]
          congr 1
          omega
        · rw [if_neg hle, if_neg (by omega)]
    rw [writeWords, Device.outw_writing hb hp, if_neg hne,
      ih (d := (d.fill (update d.buffer d.word (ptr j))).nextWord) hb hp _ (by omega), hfill]
    cases left <;> rfl

def written (storage : ℕ → Sector) (a n : ℕ) (ptr : ℕ → UInt16) (j : ℕ) : ℕ → Sector :=
  fun b => if a ≤ b ∧ b < a + n then fun w => ptr (j + 256 * (b - a) + w.val) else storage b

lemma written_succ (storage : ℕ → Sector) (a n : ℕ) (ptr : ℕ → UInt16) (j : ℕ) :
    written (update storage a fun w => ptr (j + w.val)) (a + 1) n ptr (j + 256) =
    written storage a (n + 1) ptr j := by
  funext b
  by_cases hb : b = a
  · simp [written, hb]
  · simp only [written, update_of_ne hb]
    by_cases hin : a + 1 ≤ b ∧ b < a + 1 + n
    · have hrow : 256 * (b - a) = 256 + 256 * (b - (a + 1)) := by omega
      rw [if_pos hin, if_pos (by omega), hrow, ← add_assoc]
    · rw [if_neg hin, if_neg (by omega)]

lemma writeLoop_turn (hp : d.phase = .writing a left) (hw : d.word = 0) (h : d.busy < fuel)
    (ptr : ℕ → UInt16) (n j : ℕ) : writeLoop fuel ptr (n + 1) j d = writeLoop fuel ptr n (j + 256)
      (((d.settled.fill fun w => ptr (j + w.val)).commit a).nextSector .writing a left) := by
  have hwords := writeWords_eq (d := d.settled) rfl hp ptr 255 j (by rw [Device.settled, hw]; rfl)
  have hbuf : filledFrom ptr j d.settled = fun w => ptr (j + w.val) := by
    funext w
    have hzero : d.settled.word = 0 := hw
    simp [filledFrom, hzero]
  simp only [writeLoop, ataBusyWait_eq h, Option.bind_eq_bind, Option.bind_some, ataDrqWait_eq (d := d.settled) rfl
    (Nat.zero_lt_of_lt h), show halfBlockSize = 255 + 1 from rfl, hwords, hbuf]

lemma writeLoop_spec (hp : d.phase = .writing a left) (hw : d.word = 0) (ptr : ℕ → UInt16) (j : ℕ) :
    ∃ enough d', d'.phase = .idle ∧ d'.storage = written d.storage a (left + 1) ptr j ∧
      ∀ fuel, enough ≤ fuel → writeLoop fuel ptr (left + 1) j d = some d' := by
  induction left generalizing a j d with
  | zero =>
    refine ⟨d.busy + 1, ((d.settled.fill fun w => ptr (j + w.val)).commit a).nextSector .writing a 0, rfl, ?_,
      fun fuel hfuel => by rw [writeLoop_turn hp hw hfuel, writeLoop]⟩
    rw [← written_succ]
    exact funext fun b => (if_neg (by omega)).symm
  | succ left ih =>
    obtain ⟨enough, d', hidle, hstored, hrest⟩ := ih
      (d := ((d.settled.fill fun w => ptr (j + w.val)).commit a).nextSector .writing a (left + 1)) rfl rfl
      (j + 256)
    refine ⟨max (d.busy + 1) enough, d', hidle, ?_, fun fuel hfuel => ?_⟩
    · exact hstored.trans (written_succ d.storage a (left + 1) ptr j)
    · rw [writeLoop_turn hp hw (by omega), hrest fuel (by omega)]

/-! ### Runs of calls -/

def sectorEquiv : Block ≃ Sector := (rows UInt8 256 2).trans (Equiv.arrowCongr (Equiv.refl (Fin 256)) uint16)

def blocksAt (ptr : ℕ → UInt16) (n : ℕ) : Fin n → Block :=
  fun i => sectorEquiv.symm fun w => ptr (256 * i.val + w.val)

def storeBlocks (ptr : ℕ → UInt16) {n : ℕ} (blocks : Fin n → Block) : ℕ → UInt16 := fun x =>
  if h : x / 256 < n then sectorEquiv (blocks ⟨x / 256, h⟩) (Fin.ofNat 256 x) else ptr x

inductive Call
  | read (ptr : ℕ → UInt16) (logicalBlockAddress : UInt32) (blockCount : UInt8)
  | write (ptr : ℕ → UInt16) (logicalBlockAddress : UInt32) (blockCount : UInt8)

namespace Call

def blockCount : Call → UInt8
  | .read _ _ n => n
  | .write _ _ n => n

def onDevice (fuel : ℕ) : Call → Device → Option ((ℕ → UInt16) × Device)
  | .read ptr lba n, d => readBlocks fuel ptr lba n d
  | .write ptr lba n, d => (writeBlocks fuel ptr lba n d).map fun d => (ptr, d)

def onDisk : Call → Disk → (ℕ → UInt16) × Disk
  | .read ptr lba n, disk => (storeBlocks ptr (Fat32.readBlocks disk lba n.toNat), disk)
  | .write ptr lba n, disk => (ptr, Fat32.writeBlocks disk lba n.toNat (blocksAt ptr n.toNat))

def allOnDevice (fuel : ℕ) : List Call → Device → Option (List (ℕ → UInt16) × Device)
  | [], d => some ([], d)
  | call :: calls, d =>
    (call.onDevice fuel d).bind fun r => (allOnDevice fuel calls r.2).map fun rs => (r.1 :: rs.1, rs.2)

def allOnDisk : List Call → Disk → List (ℕ → UInt16) × Disk
  | [], disk => ([], disk)
  | call :: calls, disk => ((call.onDisk disk).1 :: (allOnDisk calls (call.onDisk disk).2).1,
      (allOnDisk calls (call.onDisk disk).2).2)

end Call

/-- The disk is between commands and holds these blocks; it may still be busy. -/
structure Shows (d : Device) (disk : Disk) : Prop where
  idle : d.phase = .idle
  storage : ∀ b, d.storage b = sectorEquiv (disk b)

variable {disk : Disk} {lba : UInt32} {n : UInt8}

lemma Shows.read (h : Shows d disk) (hn : n ≠ 0) (ptr : ℕ → UInt16) (lba : UInt32) : ∃ enough d', Shows d' disk ∧
    ∀ fuel, enough ≤ fuel →
      readBlocks fuel ptr lba n d = some (storeBlocks ptr (Fat32.readBlocks disk lba n.toNat), d') := by
  obtain ⟨d₁, hcommand, hp, hw, hsame⟩ := read_command (d := d.settled) rfl h.idle lba hn
  obtain ⟨enough, d', hidle, hstored, hloop⟩ := readLoop_spec hp hw 0 ptr
  have hpos : n.toNat - 1 + 1 = n.toNat := Nat.sub_one_add_one fun hz => hn (UInt8.toNat_inj.mp hz)
  refine ⟨max (d.busy + 1) enough, d', ⟨hidle, fun b => ?_⟩, fun fuel hfuel => ?_⟩
  · rw [hstored, hsame]
    exact h.storage b
  · have hwords : overlay ptr 0 (256 * n.toNat) (fun x => d₁.storage (deviceAddress lba + x / 256)
      (Fin.ofNat 256 x)) =
        storeBlocks ptr (Fat32.readBlocks disk lba n.toNat) := by
      funext x
      by_cases hx : x / 256 < n.toNat
      · rw [overlay, if_pos (by omega), storeBlocks, dif_pos hx, hsame, Nat.sub_zero]
        exact congrFun (h.storage _) _
      · rw [overlay, if_neg (by omega), storeBlocks, dif_neg hx]
    rw [readBlocks, ataBusyWait_eq (by omega), Option.bind_eq_bind, Option.bind_some, hcommand, ← hpos,
      hloop fuel (by omega), hpos, hwords]

lemma Shows.write (h : Shows d disk) (hn : n ≠ 0) (ptr : ℕ → UInt16) (lba : UInt32) : ∃ enough d',
    Shows d' (Fat32.writeBlocks disk lba n.toNat (blocksAt ptr n.toNat)) ∧
      ∀ fuel, enough ≤ fuel → writeBlocks fuel ptr lba n d = some d' := by
  obtain ⟨d₁, hcommand, hp, hw, hsame⟩ := write_command (d := d.settled) rfl h.idle lba hn
  obtain ⟨enough, d', hidle, hstored, hloop⟩ := writeLoop_spec hp hw ptr 0
  have hpos : n.toNat - 1 + 1 = n.toNat := Nat.sub_one_add_one fun hz => hn (UInt8.toNat_inj.mp hz)
  refine ⟨max (d.busy + 1) enough, d', ⟨hidle, fun b => ?_⟩, fun fuel hfuel => ?_⟩
  · rw [hstored, hpos, written, Fat32.writeBlocks]
    by_cases hb : deviceAddress lba ≤ b ∧ b - deviceAddress lba < n.toNat
    · rw [if_pos (by omega), dif_pos hb, blocksAt, Equiv.apply_symm_apply]
      simp only [zero_add]
    · rw [if_neg (by omega), dif_neg hb, hsame]
      exact h.storage b
  · rw [writeBlocks, ataBusyWait_eq (by omega), Option.bind_eq_bind, Option.bind_some, hcommand, ← hpos,
      hloop fuel (by omega)]

lemma Shows.call (h : Shows d disk) {call : Call} (hn : call.blockCount ≠ 0) : ∃ enough d',
    Shows d' (call.onDisk disk).2 ∧
      ∀ fuel, enough ≤ fuel → call.onDevice fuel d = some ((call.onDisk disk).1, d') := by
  cases call with
  | read ptr lba n => exact h.read hn ptr lba
  | write ptr lba n =>
    obtain ⟨enough, d', hshows, hwrite⟩ := h.write hn ptr lba
    exact ⟨enough, d', hshows, fun fuel hfuel =>
      congrArg (Option.map fun d => (ptr, d)) (hwrite fuel hfuel)⟩

theorem block_driver_shows_disk (h : Shows d disk) (calls : List Call)
    (hcalls : ∀ call ∈ calls, call.blockCount ≠ 0) :
    ∃ enough d', Shows d' (Call.allOnDisk calls disk).2 ∧
      ∀ fuel, enough ≤ fuel → Call.allOnDevice fuel calls d = some ((Call.allOnDisk calls disk).1, d') := by
  induction calls generalizing d disk with
  | nil => exact ⟨0, d, h, fun _ _ => rfl⟩
  | cons call calls ih =>
    obtain ⟨hcall, hrest⟩ := List.forall_mem_cons.mp hcalls
    obtain ⟨enough₁, d₁, h₁, hdone₁⟩ := h.call hcall
    obtain ⟨enough₂, d₂, h₂, hdone₂⟩ := ih h₁ hrest
    refine ⟨max enough₁ enough₂, d₂, h₂, fun fuel hfuel => ?_⟩
    rw [Call.allOnDevice, hdone₁ fuel (le_of_max_le_left hfuel), Option.bind_some,
      hdone₂ fuel (le_of_max_le_right hfuel)]
    rfl

def slowDisk : Device where
  storage := fun _ => sectorEquiv fun _ => 0
  sectorCount := 0
  lbaLow := 0
  lbaMid := 0
  lbaHigh := 0
  driveHead := 0
  phase := .idle
  word := 0
  buffer := fun _ => 0
  busy := 5
  delays := fun n => n
  noise := fun _ => 0x58

theorem block_driver_shows_disk_slow : ∃ enough d' first second, second 255 = 7 ∧ second 256 = 0 ∧
    ∀ fuel, enough ≤ fuel → Call.allOnDevice fuel [.write (fun _ => 7) 5 1, .read (fun _ => 0) 5 1] slowDisk =
      some ([first, second], d') := by
  have hshows : Shows slowDisk fun _ _ => 0 := ⟨rfl, fun _ => rfl⟩
  obtain ⟨enough, d', -, hdone⟩ := block_driver_shows_disk hshows
    [.write (fun _ => 7) 5 1, .read (fun _ => 0) 5 1] (by simp [Call.blockCount])
  refine ⟨enough, d', _, _, ?_, ?_, hdone⟩
  · simp [Call.onDisk, storeBlocks, Fat32.readBlocks, Fat32.writeBlocks, blocksAt]
  · simp [Call.onDisk, storeBlocks]

end Semogakelar.Fat32.Ata
