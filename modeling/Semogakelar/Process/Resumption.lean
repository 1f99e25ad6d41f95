import Semogakelar.Library.X86
import Semogakelar.Process.Contexts

/-! The two ways back to an interrupted process: the return of the interrupt handler, and the context switch. -/

namespace Semogakelar.Process

open Memory Library.X86 Machine

variable {P : Processor} {u m : Machine} {ctx : Context}

/-! ### `intsetup.s` -/

def interruptHandler32 : List Instruction := [.pushImm 0, .pushImm 32]

def callGenericHandler : List Instruction :=
  [.pushSeg .ds, .pushSeg .es, .pushSeg .fs, .pushSeg .gs, .pushad, .pushf, .push .eax,
    .load .eax .esp 52, .and .eax 0x3]

def interprivilegeInterrupt : List Instruction := [.load .eax .esp 76, .store .esp 20 .eax]

-- Up to the call of `main_interrupt_handler`.
def segmentRegisterSetup : List Instruction :=
  [.movAx 0x10, .movSeg .ds, .movSeg .es, .movSeg .fs, .movSeg .gs, .pop .eax, .popf, .mov .ebp .esp]

-- From the return of `main_interrupt_handler` on.
def restoreRegisters : List Instruction :=
  [.popad, .popSeg .gs, .popSeg .fs, .popSeg .es, .popSeg .ds, .add .esp 8, .iret]

def timerEntry (P : Processor) (esp0 isr : UInt32) (u : Machine) : Machine :=
  let m := run P (interruptHandler32 ++ callGenericHandler) (u.interrupt P 0x8 0x10 esp0 isr)
  let m := if m.zeroFlag then m else run P interprivilegeInterrupt m
  run P segmentRegisterSetup m

/-! ### `kernel-entrypoint.s` -/

def cpuIndexEdiOffset : UInt32 := 0
def cpuIndexEsiOffset : UInt32 := 4
def cpuStackEbpOffset : UInt32 := 8
def cpuStackEspOffset : UInt32 := 12
def cpuGeneralEbxOffset : UInt32 := 16
def cpuGeneralEdxOffset : UInt32 := 20
def cpuGeneralEcxOffset : UInt32 := 24
def cpuGeneralEaxOffset : UInt32 := 28
def contextEipOffset : UInt32 := 48
def contextEflagsOffset : UInt32 := 52

def processContextSwitch : List Instruction :=
  [.movImm .eax (0x20 ||| 0x3), .movSeg .ds, .movSeg .es, .movSeg .fs, .movSeg .gs, .lea .ecx .esp 4, .push .eax,
    .load .eax .ecx cpuStackEspOffset, .push .eax, .load .eax .ecx contextEflagsOffset, .push .eax,
    .movImm .eax (0x18 ||| 0x3), .push .eax, .load .eax .ecx contextEipOffset, .push .eax,
    .load .edi .ecx cpuIndexEdiOffset, .load .esi .ecx cpuIndexEsiOffset, .load .ebp .ecx cpuStackEbpOffset,
    .load .ebx .ecx cpuGeneralEbxOffset, .load .edx .ecx cpuGeneralEdxOffset, .load .eax .ecx cpuGeneralEaxOffset,
    .load .ecx .ecx cpuGeneralEcxOffset, .iret]

/-! ### The C structures in memory -/

def cpuRegisterAt (memory : UInt32 → UInt32) (a : UInt32) : CPURegister where
  edi := memory a
  esi := memory (a + 4)
  ebp := memory (a + 8)
  esp := memory (a + 12)
  ebx := memory (a + 16)
  edx := memory (a + 20)
  ecx := memory (a + 24)
  eax := memory (a + 28)
  gs := memory (a + 32)
  fs := memory (a + 36)
  es := memory (a + 40)
  ds := memory (a + 44)

def intNumberAt (memory : UInt32 → UInt32) (a : UInt32) : UInt32 := memory (a + 48)

def interruptFrameAt (memory : UInt32 → UInt32) (a : UInt32) : InterruptFrame :=
  ⟨cpuRegisterAt memory a, memory (a + 56), memory (a + 64)⟩

def contextAt (memory : UInt32 → UInt32) (a : UInt32) : Context :=
  ⟨cpuRegisterAt memory a, memory (a + 48), memory (a + 52), memory (a + 56)⟩

def descriptorPrivilegeLevel (selector : UInt16) : UInt16 :=
  if selector >>> 3 = 3 ∨ selector >>> 3 = 4 then 3 else 0

def loadGdt (P : Processor) : Processor := { P with descriptorPrivilege := descriptorPrivilegeLevel }

structure UserMode (r : Registers) : Prop where
  cs : r.cs = 0x1B
  ss : r.ss = 0x23
  ds : r.ds = 0x23
  es : r.es = 0x23
  fs : r.fs = 0x23
  gs : r.gs = 0x23

/-- What is on the stack when the registers `r` were interrupted, from the last word pushed on; the upper halves of
the selectors are open. -/
inductive FrameOf (r : Registers) : List UInt32 → Prop
  | intro (gs fs es ds cs ss : UInt32) : gs.toUInt16 = r.gs → fs.toUInt16 = r.fs → es.toUInt16 = r.es →
      ds.toUInt16 = r.ds → cs.toUInt16 = r.cs → ss.toUInt16 = r.ss →
      FrameOf r [r.edi, r.esi, r.ebp, r.esp, r.ebx, r.edx, r.ecx, r.eax, gs, fs, es, ds, 32, 0, r.eip, cs,
      r.eflags,
        r.esp, ss]

lemma interrupt_at (P : Processor) (u : Machine) (cs ss : UInt16) (esp eip : UInt32) :
    ∃ cs' ss' : UInt32, cs'.toUInt16 = u.registers.cs ∧ ss'.toUInt16 = u.registers.ss ∧
      (u.interrupt P cs ss esp eip).At esp
        { u.registers with cs := cs, ss := ss, eip := eip, eflags := u.registers.eflags &&& ~~~0x34300 }
        [u.registers.eip, cs', u.registers.eflags, u.registers.esp, ss'] := by
  have h₀ : (Machine.mk { u.registers with ss := ss, esp := esp } u.memory).At esp
      { u.registers with ss := ss } [] := by
    refine ⟨?_, trivial⟩
    simp only [Registers.withEsp, below, List.length_nil, Nat.mul_zero]
    rw [show UInt32.ofNat 0 = 0 from rfl, UInt32.sub_zero]
  obtain ⟨ss', hs, h₁⟩ := h₀.pushSelector (by decide) u.registers.ss (P := P)
  have h₂ := h₁.pushWord (by simp) u.registers.esp
  have h₃ := h₂.pushWord (by simp) u.registers.eflags
  obtain ⟨cs', hc, h₄⟩ := h₃.pushSelector (by simp) u.registers.cs (P := P)
  have h₅ := h₄.pushWord (by simp) u.registers.eip
  refine ⟨cs', ss', hc, hs, ?_⟩
  exact h₅.onRegisters (fun r => { r with
    cs := cs, eip := eip, eflags := u.registers.eflags &&& ~~~0x34300 }) _ fun _ => rfl

lemma callGenericHandler_at {B : UInt32} {r : Registers} {ws : List UInt32} (P : Processor) (h : m.At B r ws)
    (hl : ws.length < 100) :
    ∃ gs fs es ds esp eflags : UInt32, gs.toUInt16 = r.gs ∧ fs.toUInt16 = r.fs ∧ es.toUInt16 = r.es ∧
      ds.toUInt16 = r.ds ∧ (eflags &&& 0x40 = 0 ↔ ds &&& 0x3 ≠ 0) ∧
      (run P callGenericHandler m).At B { r with eax := ds &&& 0x3, eflags := eflags }
        (r.eax :: r.eflags :: r.edi :: r.esi :: r.ebp :: esp :: r.ebx :: r.edx :: r.ecx :: r.eax :: gs ::
          fs :: es ::
          ds :: ws) := by
  obtain ⟨ds, hds, h₁⟩ := h.pushSeg (P := P) (by omega) .ds
  obtain ⟨es, hes, h₂⟩ := h₁.pushSeg (P := P) (by simp; omega) .es
  obtain ⟨fs, hfs, h₃⟩ := h₂.pushSeg (P := P) (by simp; omega) .fs
  obtain ⟨gs, hgs, h₄⟩ := h₃.pushSeg (P := P) (by simp; omega) .gs
  obtain ⟨esp, h₅⟩ := h₄.pushad (P := P) (by simp; omega)
  have h₆ := h₅.pushf (P := P) (by simp; omega)
  have h₇ := h₆.push (P := P) (by simp; omega) (by decide : Reg.eax ≠ .esp)
  have h₈ := h₇.loadEsp (P := P) 13 rfl (by decide : Reg.eax ≠ .esp)
  have h₉ := h₈.and (P := P) (by decide : Reg.eax ≠ .esp) 0x3
  exact ⟨gs, fs, es, ds, esp, _, hgs, hfs, hes, hds, P.zero_iff _ _ _ _, h₉⟩

lemma interprivilegeInterrupt_at {B : UInt32} {r : Registers} {ws : List UInt32} {uesp : UInt32} (P : Processor)
    (h : m.At B r ws) (hl : ws.length < 100) (hw : ws[19]? = some uesp) :
    (run P interprivilegeInterrupt m).At B { r with eax := uesp } (ws.set 5 uesp) := by
  obtain ⟨h₁₉, -⟩ := List.getElem?_eq_some_iff.mp hw
  have h₁ := h.loadEsp (P := P) 19 hw (by decide : Reg.eax ≠ .esp)
  exact h₁.store (P := P) 5 (by omega) (by omega) (by decide : Reg.eax ≠ .esp)

lemma segmentRegisterSetup_at {B eax eflags : UInt32} {r : Registers} {ws : List UInt32} (P : Processor)
    (h : m.At B r (eax :: eflags :: ws)) :
    ∃ r', r'.cs = r.cs ∧ (run P segmentRegisterSetup m).At B r' ws := by
  have h₁ := h.movAx (P := P) 0x10
  have h₅ := (((h₁.movSeg (P := P) .ds).movSeg (P := P) .es).movSeg (P := P) .fs).movSeg (P := P) .gs
  have h₆ := h₅.popInto (by decide : Reg.eax ≠ .esp)
  have h₇ := h₆.popf (P := P)
  have h₈ := h₇.mov (P := P) (by decide : Reg.ebp ≠ .esp)
  refine ⟨_, ?_, h₈⟩
  rfl

lemma timerEntry_frame (P : Processor) (esp0 isr : UInt32) (hu : UserMode u.registers) :
    ∃ ws r, FrameOf u.registers ws ∧ r.cs = 0x8 ∧ (timerEntry P esp0 isr u).At esp0 r ws := by
  obtain ⟨cs, ss, hcs, hss, h₀⟩ := interrupt_at P u 0x8 0x10 esp0 isr
  have h₁ := (h₀.pushWord (by simp) 0).pushWord (by simp) 32
  obtain ⟨gs, fs, es, ds, esp, eflags, hgs, hfs, hes, hds, hz, h₂⟩ := callGenericHandler_at P h₁ (by simp)
  have hd : ds &&& 0x3 ≠ 0 := by
    intro h
    have hl := congrArg UInt32.toUInt16 h
    rw [UInt32.toUInt16_and, hds, hu.ds] at hl
    exact absurd hl (by decide)
  have hflag : (run P callGenericHandler
      (((u.interrupt P 0x8 0x10 esp0 isr).pushWord 0).pushWord 32)).zeroFlag = false := by
    rw [zeroFlag, h₂.registers, Registers.withEsp]
    simpa using hz.mpr hd
  have h₃ := interprivilegeInterrupt_at P h₂ (by simp) rfl
  obtain ⟨r', hr, h₄⟩ := segmentRegisterSetup_at P h₃
  refine ⟨_, r', .intro gs fs es ds cs ss hgs hfs hes hds hcs hss, hr, ?_⟩
  have hrun : run P (interruptHandler32 ++ callGenericHandler) (u.interrupt P 0x8 0x10 esp0 isr) =
      run P callGenericHandler (((u.interrupt P 0x8 0x10 esp0 isr).pushWord 0).pushWord 32) := List.foldl_append
  simp only [timerEntry, hrun, hflag]
  exact h₄

/-! ### The way back through the handler -/

lemma UserMode.registers_eq {r : Registers} (hu : UserMode r) : r =
    ⟨r.eax, r.ebx, r.ecx, r.edx, r.esi, r.edi, r.ebp, r.esp, r.eip, r.eflags, 0x1B, 0x23, 0x23, 0x23, 0x23,
      0x23⟩ := by
  cases r
  obtain ⟨rfl, rfl, rfl, rfl, rfl, rfl⟩ := hu
  rfl

lemma UserMode.visible {r : Registers} (hu : UserMode r) (hP : P.descriptorPrivilege = descriptorPrivilegeLevel)
    {s : UInt16} (hs : s = 0x23) : visible P (privilege r.cs) s = s := by
  rw [Machine.visible, hP, hu.cs, hs]
  decide

lemma restoreRegisters_registers {B : UInt32} {r r' : Registers} {ws : List UInt32}
    (hP : P.descriptorPrivilege = descriptorPrivilegeLevel) (hu : UserMode r) (hf : FrameOf r ws)
    (hr : r'.cs = 0x8) (h : m.At B r' ws) : (run P restoreRegisters m).registers = r := by
  obtain ⟨gs, fs, es, ds, cs, ss, hgs, hfs, hes, hds, hcs, hss⟩ := hf
  have h₁ := h.popad (P := P)
  have h₂ := ((h₁.popSeg (P := P) .gs).popSeg (P := P) .fs).popSeg (P := P) .es
  have h₃ := h₂.popSeg (P := P) .ds
  obtain ⟨eflags, h₄⟩ := h₃.addEsp (P := P)
  have hp : privilege r'.cs < privilege cs.toUInt16 := by
    rw [hr, hcs, hu.cs]
    decide
  apply (h₄.iret (P := P) hp).trans
  simp only [Registers.setSeg, hgs, hfs, hes, hds, hcs, hss, hu.visible hP hu.ds, hu.visible hP hu.es,
    hu.visible hP hu.fs, hu.visible hP hu.gs]

/-! ### The way back through the context switch -/

lemma processContextSwitch_registers {B w : UInt32} {r : Registers} {ctx : Context}
    (hP : P.descriptorPrivilege = descriptorPrivilegeLevel) (hr : r.cs = 0x8)
    (h : m.At B r [w, ctx.cpu.edi, ctx.cpu.esi, ctx.cpu.ebp, ctx.cpu.esp, ctx.cpu.ebx, ctx.cpu.edx, ctx.cpu.ecx,
      ctx.cpu.eax, ctx.cpu.gs, ctx.cpu.fs, ctx.cpu.es, ctx.cpu.ds, ctx.eip, ctx.eflags,
      ctx.pageDirectoryVirtualAddr]) :
    (run P processContextSwitch m).registers =
      ⟨ctx.cpu.eax, ctx.cpu.ebx, ctx.cpu.ecx, ctx.cpu.edx, ctx.cpu.esi, ctx.cpu.edi, ctx.cpu.ebp, ctx.cpu.esp,
        ctx.eip, ctx.eflags, 0x1B, 0x23, 0x23, 0x23, 0x23, 0x23⟩ := by
  have heax : Reg.eax ≠ .esp := by decide
  have hecx : Reg.ecx ≠ .esp := by decide
  have h₁ := h.movImm (P := P) heax (0x20 ||| 0x3)
  have h₂ := (((h₁.movSeg (P := P) .ds).movSeg (P := P) .es).movSeg (P := P) .fs).movSeg (P := P) .gs
  have h₃ := h₂.lea (P := P) hecx
  have h₄ := h₃.push (P := P) (by simp) heax
  have h₅ := h₄.loadFrom (P := P) 3 hecx rfl (by simp) (by simp) rfl heax
  have h₆ := h₅.push (P := P) (by simp) heax
  have h₇ := h₆.loadFrom (P := P) 13 hecx rfl (by simp) (by simp) rfl heax
  have h₈ := h₇.push (P := P) (by simp) heax
  have h₉ := h₈.movImm (P := P) heax (0x18 ||| 0x3)
  have h₁₀ := h₉.push (P := P) (by simp) heax
  have h₁₁ := h₁₀.loadFrom (P := P) 12 hecx rfl (by simp) (by simp) rfl heax
  have h₁₂ := h₁₁.push (P := P) (by simp) heax
  have h₁₃ := h₁₂.loadFrom (P := P) 0 hecx rfl (by simp) (by simp) rfl (by decide : Reg.edi ≠ .esp)
  have h₁₄ := h₁₃.loadFrom (P := P) 1 hecx rfl (by simp) (by simp) rfl (by decide : Reg.esi ≠ .esp)
  have h₁₅ := h₁₄.loadFrom (P := P) 2 hecx rfl (by simp) (by simp) rfl (by decide : Reg.ebp ≠ .esp)
  have h₁₆ := h₁₅.loadFrom (P := P) 4 hecx rfl (by simp) (by simp) rfl (by decide : Reg.ebx ≠ .esp)
  have h₁₇ := h₁₆.loadFrom (P := P) 5 hecx rfl (by simp) (by simp) rfl (by decide : Reg.edx ≠ .esp)
  have h₁₈ := h₁₇.loadFrom (P := P) 7 hecx rfl (by simp) (by simp) rfl heax
  have h₁₉ := h₁₈.loadFrom (P := P) 6 hecx rfl (by simp) (by simp) rfl hecx
  have hp : privilege r.cs < privilege (0x18 ||| 0x3 : UInt32).toUInt16 := by
    rw [hr]
    decide
  apply (h₁₉.iret (P := P) hp).trans
  have hv : visible P (privilege (0x18 ||| 0x3 : UInt32).toUInt16) (0x20 ||| 0x3 : UInt32).toUInt16 = 0x23 := by
    rw [visible, hP]
    decide
  simp only [Registers.set, Registers.setSeg, Registers.get, hv]
  rfl

/-! ### Both ways -/

/-- The C handler has returned: the stack pointer is back at the frame, and the frame is as it was. -/
structure Returned (entered m : Machine) : Prop where
  esp : m.registers.esp = entered.registers.esp
  cs : m.registers.cs = entered.registers.cs
  frame : ∀ i < 19, m.memory (entered.registers.esp + UInt32.ofNat (4 * i)) =
    entered.memory (entered.registers.esp + UInt32.ofNat (4 * i))

/-- Kernel code has just called `process_context_switch` with the context by value. -/
structure Called (m : Machine) (ctx : Context) : Prop where
  cs : m.registers.cs = 0x8
  argument : contextAt m.memory (m.registers.esp + 4) = ctx

lemma FrameOf.length {r : Registers} {ws : List UInt32} (hf : FrameOf r ws) : ws.length = 19 := by
  cases hf
  rfl

lemma Returned.at_frame {B : UInt32} {r : Registers} {ws : List UInt32} (h : Returned u m) (hu : u.At B r ws)
    (hl : ws.length = 19) : m.At B m.registers ws := by
  constructor
  · rw [← hu.esp, ← h.esp]
    rfl
  · rw [← hu.esp]
    apply Stacked.congr (by rw [hu.esp]; exact hu.stack)
    intro i hi
    exact h.frame i (by omega)

lemma Called.at_context (h : Called m ctx) :
    m.At (m.registers.esp + 64) m.registers [m.memory m.registers.esp, ctx.cpu.edi, ctx.cpu.esi, ctx.cpu.ebp,
      ctx.cpu.esp, ctx.cpu.ebx, ctx.cpu.edx, ctx.cpu.ecx, ctx.cpu.eax, ctx.cpu.gs, ctx.cpu.fs, ctx.cpu.es,
      ctx.cpu.ds, ctx.eip, ctx.eflags, ctx.pageDirectoryVirtualAddr] := by
  have hb : below (m.registers.esp + 64) 16 = m.registers.esp := UInt32.add_sub_cancel m.registers.esp 64
  constructor
  · simp only [List.length_cons, List.length_nil, Nat.zero_add, Nat.reduceAdd, hb]
    rfl
  · simp only [List.length_cons, List.length_nil, Nat.zero_add, Nat.reduceAdd, hb]
    rw [← h.argument]
    simp only [Stacked, contextAt, cpuRegisterAt, UInt32.add_assoc, UInt32.reduceAdd, and_self]

lemma frame_timerContext {B : UInt32} {r r' : Registers} {ws : List UInt32} (hf : FrameOf r ws) (h : m.At B r' ws)
    (k : Kernel) :
    intNumberAt m.memory m.registers.esp = 32 ∧
      ∃ gs fs es ds, k.timerContext (interruptFrameAt m.memory m.registers.esp) =
        ⟨⟨r.edi, r.esi, r.ebp, r.esp, r.ebx, r.edx, r.ecx, r.eax, gs, fs, es, ds⟩, r.eip, r.eflags,
          pagingGetCurrentPageDirectoryAddr k.cr3⟩ := by
  obtain ⟨gs, fs, es, ds, cs, ss, hgs, hfs, hes, hds, hcs, hss⟩ := hf
  have hs := h.stack
  rw [← h.esp] at hs
  simp only [Stacked, UInt32.add_assoc, UInt32.reduceAdd] at hs
  refine ⟨?_, gs, fs, es, ds, ?_⟩
  · simp only [intNumberAt, hs]
  · simp only [Kernel.timerContext, interruptFrameAt, cpuRegisterAt, hs]

lemma markRunning_context {k : Kernel} {i j : Fin 16} :
    ((k.markRunning i).processList j).context = (k.processList j).context := by
  by_cases h : j = i
  · simp [Kernel.markRunning, h]
  · simp [Kernel.markRunning, h]

lemma timerInterrupt_context {k : Kernel} {s : Fin 16} {frame : InterruptFrame}
    (hs : k.runningProcessIdx = some s) : ((k.timerInterrupt frame).2.processList s).context =
    k.timerContext frame := by
  have hc : ((k.schedulerSaveContextToCurrentRunningPcb (k.timerContext frame)).processList s).context =
      k.timerContext frame := Kernel.save_context hs
  cases h : k.timerInterrupt frame with
  | mk r k' =>
    obtain ⟨i, -, -, -, rfl⟩ | ⟨-, -, rfl⟩ | ⟨j, -, -, -, rfl⟩ := Kernel.schedulerSwitchToNextProcess_cases h
    · rw [markRunning_context]
      exact hc
    · exact hc
    · rw [Kernel.dispatch, markRunning_context]
      exact hc

lemma timerInterrupt_alone {k : Kernel} {s : Fin 16} {frame : InterruptFrame} (hs : k.runningProcessIdx = some s)
    (hn : ∀ j ≠ s, k.state j ≠ .ready) : (k.timerInterrupt frame).1 = .interrupted := by
  cases h : k.timerInterrupt frame with
  | mk r k' =>
    obtain ⟨i, -, -, rfl, -⟩ | ⟨-, rfl, -⟩ | ⟨j, hne, hj, -, -⟩ := Kernel.schedulerSwitchToNextProcess_cases h
    · rfl
    · rfl
    · rw [Kernel.save_runningProcessIdx, hs] at hne
      have hjs : j ≠ s := fun he => hne (he ▸ rfl)
      rw [Kernel.state, Kernel.save_of_ne (by rw [hs]; exact hne)] at hj
      exact absurd hj (hn j hjs)

theorem resumptions_agree (P : Processor) (esp0 isr : UInt32) (u : Machine) (hu : UserMode u.registers)
    (k : Kernel) (s : Fin 16) (hs : k.runningProcessIdx = some s) :
    let entered := timerEntry (loadGdt P) esp0 isr u
    let frame := interruptFrameAt entered.memory entered.registers.esp
    intNumberAt entered.memory entered.registers.esp = 32 ∧
      ((k.timerInterrupt frame).2.processList s).context = k.timerContext frame ∧
      ((∀ j ≠ s, k.state j ≠ .ready) → (k.timerInterrupt frame).1 = .interrupted) ∧
      ∀ returned called, Returned entered returned → Called called (k.timerContext frame) →
        (run (loadGdt P) restoreRegisters returned).registers =
            (run (loadGdt P) processContextSwitch called).registers ∧
          (run (loadGdt P) restoreRegisters returned).registers = u.registers := by
  intro entered frame
  obtain ⟨ws, r, hf, hr, hat⟩ := timerEntry_frame (loadGdt P) esp0 isr hu
  obtain ⟨hnumber, gs, fs, es, ds, hctx⟩ := frame_timerContext hf hat k
  refine ⟨hnumber, timerInterrupt_context hs, timerInterrupt_alone hs, ?_⟩
  intro returned called hret hcall
  have hcs : returned.registers.cs = 0x8 := by
    rw [hret.cs, hat.registers]
    exact hr
  have h₁ := restoreRegisters_registers (P := loadGdt P) rfl hu hf hcs (hret.at_frame hat hf.length)
  have h₂ : (run (loadGdt P) processContextSwitch called).registers = u.registers := by
    rw [processContextSwitch_registers (P := loadGdt P) rfl hcall.cs hcall.at_context, hctx]
    exact hu.registers_eq.symm
  exact ⟨h₁.trans h₂.symm, h₁⟩

def plainProcessor : Processor where
  widen _ s := s.toUInt32
  arithmeticFlags _ _ _ result := if result = 0 then 0x46 else 0x6
  descriptorPrivilege _ := 0
  widen_low := by simp
  zero_iff := by
    intro _ _ _ result
    by_cases h : result = 0
    · simp only [h, if_true, ne_eq, not_true_eq_false, iff_false]
      decide
    · simp only [h, if_false, ne_eq, not_false_eq_true, iff_true]
      decide

def userRegisters : Registers :=
  ⟨1, 2, 3, 4, 5, 6, 0x3FFFE0, 0x3FFFC0, 0x1234, 0x202, 0x1B, 0x23, 0x23, 0x23, 0x23, 0x23⟩

def switching (ctx : Context) : Machine where
  registers := ⟨0, 0, 0, 0, 0, 0, 0, 0x1000, 0, 0x2, 0x8, 0x10, 0x10, 0x10, 0x10, 0x10⟩
  memory a := [ctx.cpu.edi, ctx.cpu.esi, ctx.cpu.ebp, ctx.cpu.esp, ctx.cpu.ebx, ctx.cpu.edx, ctx.cpu.ecx,
  ctx.cpu.eax,
    ctx.cpu.gs, ctx.cpu.fs, ctx.cpu.es, ctx.cpu.ds, ctx.eip, ctx.eflags, ctx.pageDirectoryVirtualAddr].getD
      ((a.toNat - 0x1004) / 4) 0

theorem resumptions_agree_plain :
    ∃ ctx : Context, Called (switching ctx) ctx ∧
      (run (loadGdt plainProcessor) processContextSwitch (switching ctx)).registers = userRegisters := by
  have hu : UserMode userRegisters := ⟨rfl, rfl, rfl, rfl, rfl, rfl⟩
  have h := resumptions_agree plainProcessor 0xC0200000 0xC0100000 ⟨userRegisters, fun _ => 0⟩ hu
    (Kernel.bootKernel.dispatch 0) 0 rfl
  generalize hm : timerEntry (loadGdt plainProcessor) 0xC0200000 0xC0100000 ⟨userRegisters, fun _ => 0⟩ =
    entered at h
  obtain ⟨-, -, -, hboth⟩ := h
  have hret : Returned entered entered := ⟨rfl, rfl, fun _ _ => rfl⟩
  have hcall : ∀ ctx, Called (switching ctx) ctx := by
    intro ctx
    refine ⟨rfl, ?_⟩
    obtain ⟨⟨_, _, _, _, _, _, _, _, _, _, _, _⟩, _, _, _⟩ := ctx
    simp [contextAt, cpuRegisterAt, switching]
  obtain ⟨hagree, hsame⟩ := hboth _ _ hret (hcall _)
  exact ⟨_, hcall _, hagree.symm.trans hsame⟩

end Semogakelar.Process
