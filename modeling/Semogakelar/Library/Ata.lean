import Mathlib.Algebra.GroupWithZero.Nat
import Mathlib.Logic.Function.Basic

/-! An ATA disk that is driven by programmed input and output with 28-bit block addresses. How long it stays busy
after a command or a sector is its own affair. -/

namespace Semogakelar.Library.Ata

open Function

instance neZero_sectorWords : NeZero 256 := ⟨by decide⟩

abbrev Sector := Fin 256 → UInt16

inductive Phase
  | idle
  | reading (address left : ℕ)
  | writing (address left : ℕ)

structure Device where
  storage : ℕ → Sector
  sectorCount : UInt8
  lbaLow : UInt8
  lbaMid : UInt8
  lbaHigh : UInt8
  driveHead : UInt8
  phase : Phase
  word : Fin 256
  buffer : Sector
  busy : ℕ
  delays : ℕ → ℕ
  noise : ℕ → UInt8

namespace Device

variable (d : Device)

-- While the disk is busy only the top bit of the status counts, the others read as anything.
def status : UInt8 :=
  if d.busy = 0 then
    match d.phase with
    | .idle => 0x40
    | .reading _ _ => 0x48
    | .writing _ _ => 0x48
  else 0x80 ||| d.noise d.busy

def inb (port : UInt16) : UInt8 × Device :=
  if port = 0x1F7 then (d.status, { d with busy := d.busy - 1 }) else (0xFF, d)

def settled : Device := { d with busy := 0 }

def stall : Device := { d with busy := d.delays 0, delays := fun n => d.delays (n + 1) }

def address : ℕ :=
  (d.driveHead &&& 0xF).toNat * 2 ^ 24 + d.lbaHigh.toNat * 2 ^ 16 + d.lbaMid.toNat * 2 ^ 8 + d.lbaLow.toNat

-- A count of 0 stands for 256 sectors.
def left : ℕ := if d.sectorCount = 0 then 255 else d.sectorCount.toNat - 1

-- Commands to the other drive of the bus, or without block addressing, are not this disk's.
def command (value : UInt8) : Device :=
  if d.driveHead &&& 0x50 ≠ 0x40 then d
  else if value = 0x20 then { d with phase := .reading d.address d.left, word := 0 }.stall
  else if value = 0x30 then { d with phase := .writing d.address d.left, word := 0 }.stall
  else d

-- The registers take nothing while the disk is busy or a transfer is under way.
def outb (port : UInt16) (value : UInt8) : Device :=
  if d.busy ≠ 0 then d
  else match d.phase with
    | .reading _ _ => d
    | .writing _ _ => d
    | .idle =>
      if port = 0x1F2 then { d with sectorCount := value }
      else if port = 0x1F3 then { d with lbaLow := value }
      else if port = 0x1F4 then { d with lbaMid := value }
      else if port = 0x1F5 then { d with lbaHigh := value }
      else if port = 0x1F6 then { d with driveHead := value }
      else if port = 0x1F7 then d.command value
      else d

def nextSector (phase : ℕ → ℕ → Phase) (address : ℕ) : ℕ → Device
  | 0 => { d with phase := .idle, word := 0 }.stall
  | left + 1 => { d with phase := phase (address + 1) left, word := 0 }.stall

def nextWord : Device := { d with word := d.word + 1 }

def fill (buffer : Sector) : Device := { d with buffer := buffer }

def commit (address : ℕ) : Device := { d with storage := update d.storage address d.buffer }

def inw (port : UInt16) : UInt16 × Device :=
  if port = 0x1F0 ∧ d.busy = 0 then
    match d.phase with
    | .reading address left =>
      (d.storage address d.word,
        if d.word.val = 255 then d.nextSector .reading address left else d.nextWord)
    | .writing _ _ => (0, d)
    | .idle => (0, d)
  else (0, d)

def outw (port : UInt16) (value : UInt16) : Device :=
  if port = 0x1F0 ∧ d.busy = 0 then
    match d.phase with
    | .writing address left =>
      let filled := d.fill (update d.buffer d.word value)
      if d.word.val = 255 then (filled.commit address).nextSector .writing address left else filled.nextWord
    | .reading _ _ => d
    | .idle => d
  else d

variable {d} {a left : ℕ}

lemma nextWord_val (h : d.word.val ≠ 255) : d.nextWord.word.val = d.word.val + 1 := by
  change (d.word + 1).val = _
  rw [Fin.val_add]
  change (d.word.val + 1) % 256 = _
  omega

lemma nextWord_nextSector (phase : ℕ → ℕ → Phase) : d.nextWord.nextSector phase a left =
    d.nextSector phase a left := by
  cases left <;> rfl

lemma inb_busy (h : d.busy ≠ 0) :
    d.inb 0x1F7 = (0x80 ||| d.noise d.busy, { d with busy := d.busy - 1 }) := by
  rw [inb, if_pos rfl, status, if_neg h]

lemma inb_free (h : d.busy = 0) : ∃ s, d.inb 0x1F7 = (s, d) ∧ s &&& 0x80 = 0 ∧ s &&& 0x40 ≠ 0 := by
  obtain ⟨storage, count, low, mid, high, head, phase, word, buffer, busy, delays, noise⟩ := d
  subst h
  cases phase with
  | idle => exact ⟨0x40, rfl, by decide, by decide⟩
  | reading a left => exact ⟨0x48, rfl, by decide, by decide⟩
  | writing a left => exact ⟨0x48, rfl, by decide, by decide⟩

lemma inw_reading (hb : d.busy = 0) (hp : d.phase = .reading a left) :
    d.inw 0x1F0 = (d.storage a d.word,
      if d.word.val = 255 then d.nextSector .reading a left else d.nextWord) := by
  rw [inw, if_pos ⟨rfl, hb⟩, hp]

lemma outw_writing (hb : d.busy = 0) (hp : d.phase = .writing a left) (v : UInt16) :
    d.outw 0x1F0 v = if d.word.val = 255 then
      ((d.fill (update d.buffer d.word v)).commit a).nextSector .writing a left
    else (d.fill (update d.buffer d.word v)).nextWord := by
  rw [outw, if_pos ⟨rfl, hb⟩, hp]

end Device

end Semogakelar.Library.Ata
