import Mathlib.Algebra.GroupWithZero.Nat
import Mathlib.Logic.Function.Basic
import Mathlib.Tactic.Lemma

/-! A 32-bit x86 processor in protected mode: stack and segment instructions, and interrupts from an outer
level. -/

namespace Semogakelar.Library.X86

open Function

inductive Reg
  | eax
  | ebx
  | ecx
  | edx
  | esi
  | edi
  | ebp
  | esp
  deriving DecidableEq

inductive Seg
  | ds
  | es
  | fs
  | gs

structure Registers where
  eax : UInt32
  ebx : UInt32
  ecx : UInt32
  edx : UInt32
  esi : UInt32
  edi : UInt32
  ebp : UInt32
  esp : UInt32
  eip : UInt32
  eflags : UInt32
  cs : UInt16
  ss : UInt16
  ds : UInt16
  es : UInt16
  fs : UInt16
  gs : UInt16
  deriving DecidableEq

namespace Registers

def get (r : Registers) : Reg → UInt32
  | .eax => r.eax
  | .ebx => r.ebx
  | .ecx => r.ecx
  | .edx => r.edx
  | .esi => r.esi
  | .edi => r.edi
  | .ebp => r.ebp
  | .esp => r.esp

def set (r : Registers) (v : UInt32) : Reg → Registers
  | .eax => { r with eax := v }
  | .ebx => { r with ebx := v }
  | .ecx => { r with ecx := v }
  | .edx => { r with edx := v }
  | .esi => { r with esi := v }
  | .edi => { r with edi := v }
  | .ebp => { r with ebp := v }
  | .esp => { r with esp := v }

def getSeg (r : Registers) : Seg → UInt16
  | .ds => r.ds
  | .es => r.es
  | .fs => r.fs
  | .gs => r.gs

def setSeg (r : Registers) (v : UInt16) : Seg → Registers
  | .ds => { r with ds := v }
  | .es => { r with es := v }
  | .fs => { r with fs := v }
  | .gs => { r with gs := v }

def withEsp (r : Registers) (v : UInt32) : Registers := { r with esp := v }

variable {r : Registers} {v w : UInt32} {x : Reg}

lemma get_withEsp (hx : x ≠ .esp) : (r.withEsp v).get x = r.get x := by
  cases x with
  | esp => exact absurd rfl hx
  | _ => rfl

lemma set_withEsp (hx : x ≠ .esp) : (r.withEsp v).set w x = (r.set w x).withEsp v := by
  cases x with
  | esp => exact absurd rfl hx
  | _ => rfl

lemma getSeg_withEsp (s : Seg) : (r.withEsp v).getSeg s = r.getSeg s := by
  cases s <;> rfl

lemma setSeg_withEsp (s : Seg) (u : UInt16) : (r.withEsp v).setSeg u s = (r.setSeg u s).withEsp v := by
  cases s <;> rfl

end Registers

/-- The memory is given by the double word at each address; the stack is only used in steps of four. -/
structure Machine where
  registers : Registers
  memory : UInt32 → UInt32

/-- What the manual leaves open: the upper half of a pushed selector, and the arithmetic flags other than ZF. The
privilege level of a descriptor is what the descriptor table says. -/
structure Processor where
  widen : UInt32 → UInt16 → UInt32
  arithmeticFlags : UInt32 → UInt32 → UInt32 → UInt32 → UInt32
  descriptorPrivilege : UInt16 → UInt16
  widen_low : ∀ old s, (widen old s).toUInt16 = s
  zero_iff : ∀ eflags a b result, arithmeticFlags eflags a b result &&& 0x40 = 0 ↔ result ≠ 0

inductive Instruction
  | push (r : Reg)
  | pushImm (v : UInt32)
  | pop (r : Reg)
  | pushSeg (s : Seg)
  | popSeg (s : Seg)
  | pushad
  | popad
  | pushf
  | popf
  | mov (dst src : Reg)
  | movImm (r : Reg) (v : UInt32)
  | movAx (v : UInt16)
  | movSeg (s : Seg)
  | load (r base : Reg) (offset : UInt32)
  | store (base : Reg) (offset : UInt32) (r : Reg)
  | lea (r base : Reg) (offset : UInt32)
  | and (r : Reg) (v : UInt32)
  | add (r : Reg) (v : UInt32)
  | iret

namespace Machine

def pushWord (m : Machine) (v : UInt32) : Machine where
  registers := { m.registers with esp := m.registers.esp - 4 }
  memory := update m.memory (m.registers.esp - 4) v

def pushSelector (P : Processor) (m : Machine) (s : UInt16) : Machine :=
  m.pushWord (P.widen (m.memory (m.registers.esp - 4)) s)

def top (m : Machine) : UInt32 := m.memory m.registers.esp

def drop (m : Machine) : Machine := { m with registers.esp := m.registers.esp + 4 }

def popInto (m : Machine) (r : Reg) : Machine := { m.drop with registers := m.drop.registers.set m.top r }

-- The saved `esp` is skipped.
def popad (m : Machine) : Machine :=
  ((((((m.popInto .edi).popInto .esi).popInto .ebp).drop.popInto .ebx).popInto .edx).popInto .ecx).popInto .eax

def privilege (selector : UInt16) : UInt16 := selector &&& 3

def visible (P : Processor) (level selector : UInt16) : UInt16 :=
  if P.descriptorPrivilege selector < level then 0 else selector

def iret (P : Processor) (m : Machine) : Machine :=
  let cs := m.drop.top.toUInt16
  let r := { m.registers with eip := m.top, cs := cs, eflags := m.drop.drop.top }
  if privilege m.registers.cs < privilege cs then
    { m with registers := { r with
        esp := m.drop.drop.drop.top
        ss := m.drop.drop.drop.drop.top.toUInt16
        ds := visible P (privilege cs) r.ds
        es := visible P (privilege cs) r.es
        fs := visible P (privilege cs) r.fs
        gs := visible P (privilege cs) r.gs } }
  else { m with registers := { r with esp := m.drop.drop.drop.registers.esp } }

def exec (P : Processor) (m : Machine) : Instruction → Machine
  | .push r => m.pushWord (m.registers.get r)
  | .pushImm v => m.pushWord v
  | .pop r => m.popInto r
  | .pushSeg s => m.pushSelector P (m.registers.getSeg s)
  | .popSeg s => { m.drop with registers := m.drop.registers.setSeg m.top.toUInt16 s }
  | .pushad =>
    (((((((m.pushWord m.registers.eax).pushWord m.registers.ecx).pushWord m.registers.edx).pushWord
      m.registers.ebx).pushWord m.registers.esp).pushWord m.registers.ebp).pushWord m.registers.esi).pushWord
      m.registers.edi
  | .popad => m.popad
  | .pushf => m.pushWord m.registers.eflags
  | .popf => { m.drop with registers.eflags := m.top }
  | .mov dst src => { m with registers := m.registers.set (m.registers.get src) dst }
  | .movImm r v => { m with registers := m.registers.set v r }
  | .movAx v => { m with registers.eax := m.registers.eax &&& 0xFFFF0000 ||| v.toUInt32 }
  | .movSeg s => { m with registers := m.registers.setSeg m.registers.eax.toUInt16 s }
  | .load r base offset => { m with registers := m.registers.set (m.memory (m.registers.get base + offset)) r }
  | .store base offset r =>
    { m with memory := update m.memory (m.registers.get base + offset) (m.registers.get r) }
  | .lea r base offset => { m with registers := m.registers.set (m.registers.get base + offset) r }
  | .and r v =>
    let a := m.registers.get r
    { m with registers := { m.registers.set (a &&& v) r with
        eflags := P.arithmeticFlags m.registers.eflags a v (a &&& v) } }
  | .add r v =>
    let a := m.registers.get r
    { m with registers := { m.registers.set (a + v) r with
        eflags := P.arithmeticFlags m.registers.eflags a v (a + v) } }
  | .iret => m.iret P

def run (P : Processor) (program : List Instruction) (m : Machine) : Machine := program.foldl (exec P) m

def zeroFlag (m : Machine) : Bool := m.registers.eflags &&& 0x40 != 0

/-- An interrupt gate to the innermost level, taken at an outer one: the processor changes to the stack of the task
state segment, saves the outer stack, and clears TF, IF, NT, RF and VM. -/
def interrupt (P : Processor) (m : Machine) (cs ss : UInt16) (esp eip : UInt32) : Machine :=
  let inner : Machine := { m with registers := { m.registers with ss := ss, esp := esp } }
  let saved := (((((inner.pushSelector P m.registers.ss).pushWord m.registers.esp).pushWord
    m.registers.eflags).pushSelector P m.registers.cs).pushWord m.registers.eip)
  { saved with registers := { saved.registers with
      cs := cs, eip := eip, eflags := m.registers.eflags &&& ~~~0x34300 } }

end Machine

/-! ### What the stack holds -/

def Stacked (memory : UInt32 → UInt32) (a : UInt32) : List UInt32 → Prop
  | [] => True
  | w :: ws => memory a = w ∧ Stacked memory (a + 4) ws

variable {memory : UInt32 → UInt32} {a b v w : UInt32} {ws : List UInt32}

lemma slot_zero : a + UInt32.ofNat (4 * 0) = a := UInt32.add_zero a

lemma slot_succ (i : ℕ) : a + 4 + UInt32.ofNat (4 * i) = a + UInt32.ofNat (4 * (i + 1)) := by
  have h : UInt32.ofNat (4 * (i + 1)) = 4 + UInt32.ofNat (4 * i) := by
    rw [Nat.mul_add, Nat.add_comm, UInt32.ofNat_add]
    rfl
  rw [h, UInt32.add_assoc]

lemma Stacked.update (h : Stacked memory a ws) (hb : ∀ i < ws.length, a + UInt32.ofNat (4 * i) ≠ b) :
    Stacked (update memory b v) a ws := by
  induction ws generalizing a with
  | nil => trivial
  | cons w ws ih =>
    have ha : a ≠ b := by
      intro he
      apply hb 0 (Nat.zero_lt_succ _)
      rw [slot_zero, he]
    refine ⟨by rw [update_of_ne ha, h.1], ih h.2 ?_⟩
    intro i hi
    rw [slot_succ]
    exact hb (i + 1) (Nat.succ_lt_succ hi)

lemma slot_ne {i j : ℕ} (hi : i < 2 ^ 30) (hj : j < 2 ^ 30) (hij : i ≠ j) :
    a + UInt32.ofNat (4 * i) ≠ a + UInt32.ofNat (4 * j) := by
  intro he
  have hn := congrArg UInt32.toNat (UInt32.add_right_inj a |>.mp he)
  rw [UInt32.toNat_ofNat_of_lt' (by simp only [UInt32.size]; omega),
    UInt32.toNat_ofNat_of_lt' (by simp only [UInt32.size]; omega)] at hn
  omega

lemma Stacked.push (h : Stacked memory a ws) (hl : ws.length < 2 ^ 30 - 1) :
    Stacked (Function.update memory (a - 4) v) (a - 4) (v :: ws) := by
  have hs : a - 4 + 4 = a := UInt32.sub_add_cancel a 4
  refine ⟨update_self .., ?_⟩
  rw [hs]
  apply h.update
  intro i hi he
  -- seen from the new top the old words start one slot up
  have hne : a - 4 + UInt32.ofNat (4 * (i + 1)) ≠ a - 4 + UInt32.ofNat (4 * 0) :=
    slot_ne (by omega) (by omega) (by omega)
  rw [← slot_succ, hs, slot_zero] at hne
  exact hne he

lemma Stacked.set (h : Stacked memory a ws) (hl : ws.length < 2 ^ 30) (i : ℕ) (hi : i < ws.length) :
    Stacked (Function.update memory (a + UInt32.ofNat (4 * i)) v) a (ws.set i v) := by
  induction ws generalizing a i with
  | nil => exact absurd hi (Nat.not_lt_zero i)
  | cons w ws ih =>
    rw [List.length_cons] at hl hi
    cases i with
    | zero =>
      rw [slot_zero]
      refine ⟨update_self .., h.2.update ?_⟩
      intro j hj
      have hne : a + UInt32.ofNat (4 * (j + 1)) ≠ a + UInt32.ofNat (4 * 0) :=
        slot_ne (by omega) (by omega) (by omega)
      rwa [slot_zero, ← slot_succ] at hne
    | succ i =>
      have hne : a + UInt32.ofNat (4 * 0) ≠ a + UInt32.ofNat (4 * (i + 1)) :=
        slot_ne (by omega) (by omega) (by omega)
      rw [slot_zero] at hne
      refine ⟨by rw [update_of_ne hne, h.1], ?_⟩
      rw [← slot_succ]
      exact ih h.2 (by omega) i (by omega)

lemma Stacked.get (h : Stacked memory a ws) (i : ℕ) (hw : ws[i]? = some w) :
    memory (a + UInt32.ofNat (4 * i)) = w := by
  induction ws generalizing a i with
  | nil => cases hw
  | cons v ws ih =>
    cases i with
    | zero =>
      rw [slot_zero, h.1]
      exact Option.some.inj hw
    | succ i =>
      rw [← slot_succ]
      exact ih h.2 i hw

lemma Stacked.congr {memory' : UInt32 → UInt32} (h : Stacked memory a ws)
    (hm : ∀ i < ws.length, memory' (a + UInt32.ofNat (4 * i)) = memory (a + UInt32.ofNat (4 * i))) :
    Stacked memory' a ws := by
  induction ws generalizing a with
  | nil => trivial
  | cons w ws ih =>
    constructor
    · have h₀ := hm 0 (Nat.zero_lt_succ _)
      rw [slot_zero] at h₀
      exact h₀.trans h.1
    · apply ih h.2
      intro i hi
      rw [slot_succ]
      exact hm (i + 1) (Nat.succ_lt_succ hi)

/-! ### Rules for the instructions -/

def below (B : UInt32) (n : ℕ) : UInt32 := B - UInt32.ofNat (4 * n)

lemma below_sub (B : UInt32) (n : ℕ) : below B n - 4 = below B (n + 1) := by
  have h : UInt32.ofNat (4 * (n + 1)) = UInt32.ofNat (4 * n) + 4 := by
    rw [Nat.mul_add, UInt32.ofNat_add]
    rfl
  rw [below, below, h, UInt32.eq_sub_iff_add_eq, UInt32.add_comm (UInt32.ofNat (4 * n)), ← UInt32.add_assoc,
    UInt32.sub_add_cancel, UInt32.sub_add_cancel]

lemma below_add (B : UInt32) (n : ℕ) : below B (n + 1) + 4 = below B n := by
  rw [← below_sub, UInt32.sub_add_cancel]

lemma below_slot (B : UInt32) {n i : ℕ} (hi : i ≤ n) : below B n + UInt32.ofNat (4 * i) = below B (n - i) := by
  induction i generalizing n with
  | zero => exact slot_zero
  | succ i ih =>
    obtain ⟨n, rfl⟩ := Nat.exists_eq_add_one_of_ne_zero (by omega : n ≠ 0)
    rw [← slot_succ, below_add, ih (by omega), Nat.add_sub_add_right]

structure Machine.At (m : Machine) (B : UInt32) (r : Registers) (ws : List UInt32) : Prop where
  registers : m.registers = r.withEsp (below B ws.length)
  stack : Stacked m.memory (below B ws.length) ws

namespace Machine.At

variable {P : Processor} {m : Machine} {B : UInt32} {r : Registers}

lemma esp (h : m.At B r ws) : m.registers.esp = below B ws.length := by
  rw [h.registers, Registers.withEsp]

lemma pushWord (h : m.At B r ws) (hl : ws.length < 2 ^ 30 - 1) (v : UInt32) : (m.pushWord v).At B r (v :: ws) := by
  have hb : m.registers.esp - 4 = below B (v :: ws).length := by
    rw [h.esp, below_sub, List.length_cons]
  constructor
  · rw [Machine.pushWord, hb, h.registers]
    rfl
  · rw [Machine.pushWord, ← hb, h.esp]
    exact h.stack.push hl

lemma pushSelector (h : m.At B r ws) (hl : ws.length < 2 ^ 30 - 1) (s : UInt16) :
    ∃ w, w.toUInt16 = s ∧ (m.pushSelector P s).At B r (w :: ws) :=
  ⟨_, P.widen_low _ s, h.pushWord hl _⟩

lemma push (h : m.At B r ws) (hl : ws.length < 2 ^ 30 - 1) {x : Reg} (hx : x ≠ .esp) :
    (m.exec P (.push x)).At B r (r.get x :: ws) := by
  rw [exec, h.registers, Registers.get_withEsp hx]
  exact h.pushWord hl _

lemma pushf (h : m.At B r ws) (hl : ws.length < 2 ^ 30 - 1) : (m.exec P .pushf).At B r (r.eflags :: ws) := by
  rw [exec, h.registers]
  exact h.pushWord hl _

lemma pushSeg (h : m.At B r ws) (hl : ws.length < 2 ^ 30 - 1) (s : Seg) :
    ∃ w, w.toUInt16 = r.getSeg s ∧ (m.exec P (.pushSeg s)).At B r (w :: ws) := by
  rw [exec, h.registers, Registers.getSeg_withEsp]
  exact h.pushSelector hl _

lemma pushad (h : m.At B r ws) (hl : ws.length < 2 ^ 30 - 8) : ∃ esp, (m.exec P .pushad).At B r
    (r.edi :: r.esi :: r.ebp :: esp :: r.ebx :: r.edx :: r.ecx :: r.eax :: ws) := by
  rw [exec, h.registers]
  have h₁ := h.pushWord (by omega) r.eax
  have h₂ := h₁.pushWord (by rw [List.length_cons]; omega) r.ecx
  have h₃ := h₂.pushWord (by simp only [List.length_cons]; omega) r.edx
  have h₄ := h₃.pushWord (by simp only [List.length_cons]; omega) r.ebx
  have h₅ := h₄.pushWord (by simp only [List.length_cons]; omega) (below B ws.length)
  have h₆ := h₅.pushWord (by simp only [List.length_cons]; omega) r.ebp
  have h₇ := h₆.pushWord (by simp only [List.length_cons]; omega) r.esi
  exact ⟨_, h₇.pushWord (by simp only [List.length_cons]; omega) r.edi⟩

lemma drop (h : m.At B r (w :: ws)) : m.top = w ∧ m.drop.At B r ws := by
  have hb : m.registers.esp + 4 = below B ws.length := by
    rw [h.esp, List.length_cons, below_add]
  have hs := h.stack.2
  rw [List.length_cons, below_add] at hs
  refine ⟨by rw [top, h.esp, h.stack.1], ?_, hs⟩
  rw [Machine.drop, hb, h.registers]
  rfl

lemma onRegisters (h : m.At B r ws) (f : Registers → Registers) (r' : Registers)
    (hf : ∀ v, f (r.withEsp v) = r'.withEsp v) : { m with registers := f m.registers }.At B r' ws :=
  ⟨by rw [h.registers, hf], h.stack⟩

lemma popInto (h : m.At B r (w :: ws)) {x : Reg} (hx : x ≠ .esp) : (m.popInto x).At B (r.set w x) ws := by
  obtain ⟨ht, hd⟩ := h.drop
  rw [Machine.popInto, ht]
  exact hd.onRegisters (fun r => r.set w x) _ fun _ => Registers.set_withEsp hx

lemma popSeg (h : m.At B r (w :: ws)) (s : Seg) :
    (m.exec P (.popSeg s)).At B (r.setSeg w.toUInt16 s) ws := by
  obtain ⟨ht, hd⟩ := h.drop
  rw [exec, ht]
  exact hd.onRegisters (fun r => r.setSeg w.toUInt16 s) _ fun _ => Registers.setSeg_withEsp s _

lemma popf (h : m.At B r (w :: ws)) : (m.exec P .popf).At B { r with eflags := w } ws := by
  obtain ⟨ht, hd⟩ := h.drop
  rw [exec, ht]
  exact hd.onRegisters (fun r => { r with eflags := w }) _ fun _ => rfl

lemma popad {edi esi ebp esp ebx edx ecx eax : UInt32}
    (h : m.At B r (edi :: esi :: ebp :: esp :: ebx :: edx :: ecx :: eax :: ws)) :
    (m.exec P .popad).At B { r with
      edi := edi, esi := esi, ebp := ebp, ebx := ebx, edx := edx, ecx := ecx, eax := eax } ws := by
  have h₁ : At _ _ { r with edi := edi } _ := h.popInto (by decide : Reg.edi ≠ .esp)
  have h₂ := h₁.popInto (by decide : Reg.esi ≠ .esp)
  have h₃ := h₂.popInto (by decide : Reg.ebp ≠ .esp)
  have h₄ := h₃.drop.2.popInto (by decide : Reg.ebx ≠ .esp)
  have h₅ := h₄.popInto (by decide : Reg.edx ≠ .esp)
  have h₆ := h₅.popInto (by decide : Reg.ecx ≠ .esp)
  exact h₆.popInto (by decide : Reg.eax ≠ .esp)

lemma mov (h : m.At B r ws) {x : Reg} (hx : x ≠ .esp) :
    (m.exec P (.mov x .esp)).At B (r.set (below B ws.length) x) ws := by
  rw [exec, Registers.get, h.esp]
  exact h.onRegisters (fun r => r.set _ x) _ fun _ => Registers.set_withEsp hx

lemma movImm (h : m.At B r ws) {x : Reg} (hx : x ≠ .esp) (v : UInt32) :
    (m.exec P (.movImm x v)).At B (r.set v x) ws :=
  h.onRegisters (fun r => r.set v x) _ fun _ => Registers.set_withEsp hx

lemma movAx (h : m.At B r ws) (v : UInt16) :
    (m.exec P (.movAx v)).At B { r with eax := r.eax &&& 0xFFFF0000 ||| v.toUInt32 } ws :=
  h.onRegisters (fun r => { r with eax := r.eax &&& 0xFFFF0000 ||| v.toUInt32 }) _ fun _ => rfl

lemma movSeg (h : m.At B r ws) (s : Seg) : (m.exec P (.movSeg s)).At B (r.setSeg r.eax.toUInt16 s) ws :=
  h.onRegisters (fun r => r.setSeg r.eax.toUInt16 s) _ fun _ => Registers.setSeg_withEsp s _

lemma lea (h : m.At B r (w :: ws)) {x : Reg} (hx : x ≠ .esp) :
    (m.exec P (.lea x .esp 4)).At B (r.set (below B ws.length) x) (w :: ws) := by
  rw [exec, Registers.get, h.esp, List.length_cons, below_add]
  exact h.onRegisters (fun r => r.set _ x) _ fun _ => Registers.set_withEsp hx

lemma load (h : m.At B r ws) {x base : Reg} {offset : UInt32} (i : ℕ) (hw : ws[i]? = some w) (hx : x ≠ .esp)
    (ha : (r.withEsp (below B ws.length)).get base + offset = below B ws.length + UInt32.ofNat (4 * i)) :
    (m.exec P (.load x base offset)).At B (r.set w x) ws := by
  have hv : m.memory (m.registers.get base + offset) = w := by
    rw [h.registers, ha]
    exact h.stack.get i hw
  rw [exec, hv]
  exact h.onRegisters (fun r => r.set w x) _ fun _ => Registers.set_withEsp hx

lemma loadEsp (h : m.At B r ws) {x : Reg} (i : ℕ) (hw : ws[i]? = some w) (hx : x ≠ .esp) :
    (m.exec P (.load x .esp (UInt32.ofNat (4 * i)))).At B (r.set w x) ws :=
  h.load i hw hx rfl

lemma loadFrom (h : m.At B r ws) {x base : Reg} {n : ℕ} (j : ℕ) (hbase : base ≠ .esp) (hb : r.get base = below B n)
    (hj : j ≤ n) (hn : n ≤ ws.length) (hw : ws[ws.length - n + j]? = some w) (hx : x ≠ .esp) :
    (m.exec P (.load x base (UInt32.ofNat (4 * j)))).At B (r.set w x) ws := by
  apply h.load _ hw hx
  rw [Registers.get_withEsp hbase, hb, below_slot B hj, below_slot B (by omega)]
  congr 1
  omega

lemma store (h : m.At B r ws) {x : Reg} (i : ℕ) (hi : i < ws.length) (hl : ws.length < 2 ^ 30) (hx : x ≠ .esp) :
    (m.exec P (.store .esp (UInt32.ofNat (4 * i)) x)).At B r (ws.set i (r.get x)) := by
  constructor
  · rw [exec, List.length_set]
    exact h.registers
  · rw [exec, List.length_set, Registers.get, h.esp, h.registers, Registers.get_withEsp hx]
    exact h.stack.set hl i hi

lemma and (h : m.At B r ws) {x : Reg} (hx : x ≠ .esp) (v : UInt32) :
    (m.exec P (.and x v)).At B { r.set (r.get x &&& v) x with
      eflags := P.arithmeticFlags r.eflags (r.get x) v (r.get x &&& v) } ws := by
  apply h.onRegisters fun r => { r.set (r.get x &&& v) x with
    eflags := P.arithmeticFlags r.eflags (r.get x) v (r.get x &&& v) }
  intro e
  simp only [Registers.get_withEsp hx, Registers.set_withEsp hx]
  rfl

lemma addEsp {w' : UInt32} (h : m.At B r (w :: w' :: ws)) :
    ∃ eflags, (m.exec P (.add .esp 8)).At B { r with eflags := eflags } ws := by
  have he : m.registers.esp + 8 = below B ws.length := by
    have h₈ : (8 : UInt32) = 4 + 4 := rfl
    rw [h.esp, List.length_cons, List.length_cons, h₈, ← UInt32.add_assoc, below_add, below_add]
  have hr : (m.exec P (.add .esp 8)).registers = { r with
      eflags := P.arithmeticFlags r.eflags (below B (ws.length + 2)) 8 (below B ws.length) }.withEsp
        (below B ws.length) := by
    rw [exec, Registers.get, he, h.registers]
    rfl
  exact ⟨_, hr, h.drop.2.drop.2.stack⟩

lemma iret {eip cs eflags esp ss : UInt32} (h : m.At B r (eip :: cs :: eflags :: esp :: ss :: ws))
    (hp : privilege r.cs < privilege cs.toUInt16) :
    (m.exec P .iret).registers = { r with
      eip := eip, cs := cs.toUInt16, eflags := eflags, esp := esp, ss := ss.toUInt16
      ds := visible P (privilege cs.toUInt16) r.ds
      es := visible P (privilege cs.toUInt16) r.es
      fs := visible P (privilege cs.toUInt16) r.fs
      gs := visible P (privilege cs.toUInt16) r.gs } := by
  obtain ⟨h₁, hd₁⟩ := h.drop
  obtain ⟨h₂, hd₂⟩ := hd₁.drop
  obtain ⟨h₃, hd₃⟩ := hd₂.drop
  obtain ⟨h₄, hd₄⟩ := hd₃.drop
  obtain ⟨h₅, -⟩ := hd₄.drop
  simp only [exec, Machine.iret, h₁, h₂, h₃, h₄, h₅, h.registers, Registers.withEsp, if_pos hp]

end Machine.At

end Semogakelar.Library.X86
