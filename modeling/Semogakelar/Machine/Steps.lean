import Semogakelar.Machine.Booting
import Semogakelar.Process.Lifecycle

/-! What one interrupt does to the machine, and what holds of it in every state of a run. -/

namespace Semogakelar.Process.Kernel

open Function Memory Library Relation

variable {L : Layout} {k k' k'' : Kernel} {home : Fin 16 → UInt32} {memory memory' : PhysicalMemory} {d : Fin 32}
  {event : Event} {response : Response}

def Serves (L : Layout) (k k' : Kernel) : Prop := ∃ memory, k.Leaves L memory ∧ k' = { k with memory := memory }

lemma Leaves.trans (h : k.Leaves L memory) (h' : { k with memory := memory }.Leaves L memory') :
    k.Leaves L memory' := by
  simp only [Leaves] at h h' ⊢
  cases hr : k.runningProcessIdx with
  | none =>
    simp only [hr] at h h' ⊢
    exact h'.trans h
  | some s =>
    simp only [hr] at h h' ⊢
    obtain ⟨d, hd, hstores⟩ := h
    obtain ⟨e, he, hstores'⟩ := h'
    obtain rfl := Layout.use_injective (hd.symm.trans he)
    exact ⟨d, hd, hstores.trans hstores'⟩

lemma Isolated.serves_self (h : Isolated L k home) : Serves L k k := ⟨k.memory, h.leaves_self, rfl⟩

lemma Serves.trans (h : Serves L k k') (h' : Serves L k' k'') : Serves L k k'' := by
  obtain ⟨m, hm, rfl⟩ := h
  obtain ⟨m', hm', rfl⟩ := h'
  exact ⟨m', hm.trans hm', rfl⟩

lemma Serves.running (h : Serves L k k') : k'.runningProcessIdx = k.runningProcessIdx := by
  obtain ⟨m, -, rfl⟩ := h
  rfl

lemma Serves.isolated (h : Serves L k k') (hiso : Isolated L k home) : Isolated L k' home := by
  obtain ⟨m, -, rfl⟩ := h
  exact hiso.memory m

lemma Serves.settled (h : Serves L k k') (hs : k.Settled) : k'.Settled := by
  obtain ⟨m, -, rfl⟩ := h
  exact hs

lemma Step.isolated (h : Step L k event response k') (hiso : Isolated L k home)
    (hs : k.Settled) : Isolated L k' (track k k' home) ∧ k'.Settled :=
  TracedStep.isolated (x := (k, home)) (y := (k', track k k' home)) ⟨h, rfl⟩ ⟨hiso, hs⟩

lemma GuestStep.of_serves (h : GuestStep L k' event response k'')
    (hk : Serves L k k') : GuestStep L k event response k'' := by
  obtain ⟨m, hm, rfl⟩ := hk
  obtain ⟨hr, memory, hleaves, hh⟩ := h
  exact ⟨hr, memory, hm.trans hleaves, hh⟩

lemma handle_switched_code {slot : Fin 16} {ctx : Context}
    (hh : k.handle L event = some (response, k')) (hswitch : response.resumption = .switched slot ctx) :
    response.code = none := by
  cases event with
  | timer frame =>
    obtain ⟨rfl, -⟩ := Prod.mk.inj (Option.some.inj hh)
    rfl
  | create fuel fs request =>
    obtain ⟨x, -, he⟩ := Option.map_eq_some_iff.mp hh
    obtain ⟨rfl, -⟩ := Prod.mk.inj he
    cases hswitch
  | kill pid =>
    obtain ⟨x, -, he⟩ := Option.map_eq_some_iff.mp hh
    obtain ⟨rfl, -⟩ := Prod.mk.inj he
    have hx : x.2.1 = .switched slot ctx := hswitch
    simp [hx, Resumption.stored]
  | terminate =>
    obtain ⟨x, -, he⟩ := Option.map_eq_some_iff.mp hh
    obtain ⟨rfl, -⟩ := Prod.mk.inj he
    rfl

lemma handle_timer_code {frame : InterruptFrame} (h : GuestStep L k (.timer frame) response k') :
    response.code = none := by
  obtain ⟨-, memory, -, hh⟩ := h
  obtain ⟨rfl, -⟩ := Prod.mk.inj (Option.some.inj hh)
  rfl

lemma Waits.serves {j : Fin 16} {ctx : Context} {view : UInt32 → Option UInt8} (h : Waits L j d ctx view k)
    (hserves : Serves L k k') : Waits L j d ctx view k' := by
  have hrunning := h.not_running
  obtain ⟨memory, hm, rfl⟩ := hserves
  obtain ⟨⟨home, hiso, hhome⟩, hs, hready, hcontext, hshown⟩ := h
  refine ⟨⟨home, hiso.memory memory, hhome⟩, hs, hready, hcontext, ?_⟩
  rw [← hshown]
  have hlive : k.Occupied j := .inl (by rw [hready]; decide)
  exact shown_eq rfl fun a ha => hiso.leaves_frame hm hlive hrunning hhome ha

end Semogakelar.Process.Kernel

namespace Semogakelar.Machine

open Function Memory Fat32 Library Process Kernel

variable {L : Layout} {img : KernelImage} {s s' : State} {i : Interrupt} {a : Arrival} {r : Resumption}
  {cpu : CPURegister} {fuel n : ℕ} {addr : UInt32} {home : Fin 16 → UInt32}

/-! ### What an interrupt does -/

def Interrupt.Calls (i : Interrupt) (n : ℕ) : Prop := i.intNumber.toNat = 0x30 ∧ i.frame.cpu.eax.toNat = n

def Interrupt.Requests (L : Layout) (s : State) (i : Interrupt) : Event → Prop
  | .timer frame => i.intNumber.toNat = 0x20 ∧ frame = i.frame
  | .create _ fs request => i.Calls 12 ∧ fs = s.fs ∧ s.request L i.frame.cpu.ebx = some request
  | .kill pid => i.Calls 14 ∧ pid = i.frame.cpu.ebx
  | .terminate => i.Calls 11

lemma Interrupt.Requests.number {event : Event} (h : i.Requests L s event) :
    i.intNumber.toNat = 0x20 ∧ event = .timer i.frame ∨ i.Calls 11 ∨ i.Calls 12 ∨ i.Calls 14 := by
  cases event with
  | timer frame => exact .inl ⟨h.1, by rw [h.2]⟩
  | create _ _ _ => exact .inr (.inr (.inl h.1))
  | kill _ => exact .inr (.inr (.inr h.1))
  | terminate => exact .inr (.inl h)

lemma Interrupt.Requests.timer {event : Event} (h : i.Requests L s event) (hi : i.intNumber.toNat = 0x20) :
    event = .timer i.frame := by
  have hne : ∀ n, ¬ i.Calls n := by
    rintro n ⟨hcall, -⟩
    rw [hi] at hcall
    cases hcall
  obtain ⟨-, he⟩ | h | h | h := h.number
  · exact he
  · exact (hne 11 h).elim
  · exact (hne 12 h).elim
  · exact (hne 14 h).elim

lemma Interrupt.Calls.not_requests (h : i.Calls n) (h₁ : n ≠ 11) (h₂ : n ≠ 12) (h₄ : n ≠ 14) (event : Event) :
    ¬ i.Requests L s event := by
  intro hr
  obtain ⟨hi, -⟩ | h' | h' | h' := hr.number
  · rw [h.1] at hi
    cases hi
  · exact h₁ (h.2.symm.trans h'.2)
  · exact h₂ (h.2.symm.trans h'.2)
  · exact h₄ (h.2.symm.trans h'.2)

inductive Does (L : Layout) (img : KernelImage) (i : Interrupt) (s : State) : Resumption → State → Prop
  | serve {s' : State} : (∀ event, ¬ i.Requests L s event) → Serves L s.kernel s'.kernel → s'.fs = s.fs →
    Does L img i s .interrupted s'
  | write {s' : State} {buf : UInt32} {request : DriverRequest} {code : ℤ} : i.Calls 2 →
    s.driverRequest L i.frame.cpu.ebx = some (buf, request) → Fat32.write img s.fs request = .returned code s'.fs →
    Serves L s.kernel s'.kernel → Does L img i s .interrupted s'
  | delete {s' : State} {buf : UInt32} {request : DriverRequest} {fuel : ℕ} {code : ℤ} : i.Calls 3 →
    s.driverRequest L i.frame.cpu.ebx = some (buf, request) → Fat32.delete fuel s.fs request =
    .returned code s'.fs → Serves L s.kernel s'.kernel → Does L img i s .interrupted s'
  | writeClusters {s' : State} : i.Calls 10 → Serves L s.kernel s'.kernel → Does L img i s .interrupted s'
  | manage {s' : State} {event : Event} {response : Response} {k : Kernel} : i.Requests L s event →
    s.kernel.handle L event = some (response, k) → Serves L k s'.kernel →
    (response.code = none → s'.kernel = k) → s'.fs = s.fs → Does L img i s response.resumption s'

namespace State

variable (hr : s.kernel.runningProcessIdx ≠ none) (hiso : Isolated L s.kernel home)

section

include hr

lemma store_serves {data : ℕ → UInt8} (h : s.store L addr data n = some s') :
    Serves L s.kernel s'.kernel ∧ s'.fs = s.fs := by
  obtain ⟨memory, hm, rfl⟩ := store_spec hr h
  exact ⟨⟨memory, hm, rfl⟩, rfl⟩

lemma storeTransfer_serves {buf : UInt32} {t : Transfer} {code : ℤ}
    (h : ((s.storeTransfer L buf t).bind fun s => s.storeCode L addr code) = some s') :
    Serves L s.kernel s'.kernel ∧ s'.fs = s.fs := by
  obtain ⟨s₁, hfirst, hcode⟩ := Option.bind_eq_some_iff.mp h
  obtain ⟨hserves, hfs⟩ := store_serves hr hfirst
  obtain ⟨hserves', hfs'⟩ := store_serves (by rwa [hserves.running]) hcode
  exact ⟨hserves.trans hserves', hfs'.trans hfs⟩

lemma read_serves (h : s.read L fuel cpu = some s') : Serves L s.kernel s'.kernel ∧ s'.fs = s.fs := by
  obtain ⟨⟨buf, request⟩, -, h⟩ := Option.bind_eq_some_iff.mp h
  dsimp only at h
  split at h
  · exact storeTransfer_serves hr h
  · cases h
  · cases h

lemma readDirectory_serves (h : s.readDirectory L cpu = some s') : Serves L s.kernel s'.kernel ∧ s'.fs = s.fs := by
  obtain ⟨⟨buf, request⟩, -, h⟩ := Option.bind_eq_some_iff.mp h
  exact storeTransfer_serves hr h

lemma conclude_serves {o : Outcome FileSystem ℤ} (h : s.conclude L addr o = some s') :
    Serves L s.kernel s'.kernel ∧ ∃ code, o = .returned code s'.fs := by
  cases o with
  | returned code fs =>
    obtain ⟨hserves, rfl⟩ := store_serves (s := { s with fs := fs }) hr h
    exact ⟨hserves, code, rfl⟩
  | outside fs => cases h
  | running fs => cases h

lemma write_serves (h : s.write L img cpu = some s') : Serves L s.kernel s'.kernel ∧ ∃ buf request code,
    s.driverRequest L cpu.ebx = some (buf, request) ∧ Fat32.write img s.fs request = .returned code s'.fs := by
  obtain ⟨⟨buf, request⟩, hrequest, h⟩ := Option.bind_eq_some_iff.mp h
  dsimp only at h
  split_ifs at h
  obtain ⟨hserves, code, hwrite⟩ := conclude_serves hr h
  exact ⟨hserves, buf, request, code, hrequest, hwrite⟩

lemma delete_serves (h : s.delete L fuel cpu = some s') : Serves L s.kernel s'.kernel ∧ ∃ buf request code,
    s.driverRequest L cpu.ebx = some (buf, request) ∧ Fat32.delete fuel s.fs request = .returned code s'.fs := by
  obtain ⟨⟨buf, request⟩, hrequest, h⟩ := Option.bind_eq_some_iff.mp h
  obtain ⟨hserves, code, hdelete⟩ := conclude_serves hr h
  exact ⟨hserves, buf, request, code, hrequest, hdelete⟩

end

lemma manage_does {event : Event} (hr : s.kernel.runningProcessIdx ≠ none) (hiso : Isolated L s.kernel home)
    (hs : s.kernel.Settled) (h : s.manage L addr event = some (r, s')) (hrequests : i.Requests L s event) :
    Does L img i s r s' := by
  obtain ⟨⟨response, k⟩, hh, h⟩ := Option.bind_eq_some_iff.mp h
  dsimp only at h
  cases hcode : response.code with
  | none =>
    rw [hcode] at h
    obtain ⟨rfl, rfl⟩ := Prod.mk.inj (Option.some.inj h)
    have hstep : Step L s.kernel event response k := ⟨.inr hr, s.kernel.memory, hh⟩
    exact .manage hrequests hh (hstep.isolated hiso hs).1.serves_self (fun _ => rfl) rfl
  | some code =>
    rw [hcode] at h
    obtain ⟨s₁, hstore, he⟩ := Option.map_eq_some_iff.mp h
    obtain ⟨rfl, rfl⟩ := Prod.mk.inj he
    obtain ⟨hserves, hfs⟩ := store_serves (s := { s with kernel := k }) (handle_running hh hr) hstore
    refine .manage hrequests hh hserves (fun hnone => ?_) hfs
    rw [hcode] at hnone
    cases hnone

lemma returned_eq_some {o : Option State} (h : returned o = some (r, s')) : r = .interrupted ∧ o = some s' := by
  obtain ⟨s, rfl, he⟩ := Option.map_eq_some_iff.mp h
  obtain ⟨rfl, rfl⟩ := Prod.mk.inj he
  exact ⟨rfl, rfl⟩

lemma does_of_console {t : Terminal.Console} {digits : ℕ → UInt8} {rtc : Terminal.Rtc}
    (hnone : ∀ event, ¬ i.Requests L s event) (hiso : Isolated L s.kernel home) :
    Does L img i s .interrupted { s with console := t, digits := digits, rtc := rtc } :=
  .serve hnone hiso.serves_self rfl

lemma does_of_serves (hnone : ∀ event, ¬ i.Requests L s event) (h : Serves L s.kernel s'.kernel ∧ s'.fs = s.fs) :
    Does L img i s .interrupted s' := .serve hnone h.1 h.2

lemma interrupt_does (hr : s.kernel.runningProcessIdx ≠ none) (hiso : Isolated L s.kernel home)
    (hs : s.kernel.Settled) (hi : i.intNumber.toNat = 0x30)
    (h : s.interrupt L img fuel i.frame.cpu = some (r, s')) :
    Does L img i s r s' := by
  have hnone : ∀ n, i.frame.cpu.eax.toNat = n → n ≠ 11 → n ≠ 12 → n ≠ 14 → ∀ event, ¬ i.Requests L s event :=
    fun n hn => Interrupt.Calls.not_requests (n := n) ⟨hi, hn⟩
  unfold interrupt at h
  split at h
  case h_12 hn => exact manage_does hr hiso hs h ⟨hi, hn⟩
  case h_13 hn =>
    obtain ⟨request, hrequest, h⟩ := Option.bind_eq_some_iff.mp h
    exact manage_does hr hiso hs h ⟨⟨hi, hn⟩, rfl, hrequest⟩
  case h_15 hn => exact manage_does hr hiso hs h ⟨⟨hi, hn⟩, rfl⟩
  all_goals replace h := returned_eq_some h
  all_goals obtain ⟨rfl, h⟩ := h
  all_goals try replace hnone := hnone _ ‹_› (by decide) (by decide) (by decide)
  case h_1 => exact does_of_serves hnone (read_serves hr h)
  case h_2 => exact does_of_serves hnone (readDirectory_serves hr h)
  case h_3 hn =>
    obtain ⟨hserves, buf, request, code, hrequest, hwrite⟩ := write_serves hr h
    exact .write ⟨hi, hn⟩ hrequest hwrite hserves
  case h_4 hn =>
    obtain ⟨hserves, buf, request, code, hrequest, hdelete⟩ := delete_serves hr h
    exact .delete ⟨hi, hn⟩ hrequest hdelete hserves
  case h_5 =>
    exact does_of_serves hnone
      (store_serves (s := { s with console := s.console.getKeyboardBuffer.2 }) hr h)
  case h_6 =>
    obtain ⟨c, -, rfl⟩ := Option.map_eq_some_iff.mp h
    exact does_of_console hnone hiso
  case h_7 =>
    obtain ⟨text, -, rfl⟩ := Option.map_eq_some_iff.mp h
    exact does_of_console hnone hiso
  case h_10 => exact does_of_serves hnone (store_serves hr h)
  case h_11 hn =>
    obtain ⟨bytes, -, rfl⟩ := Option.map_eq_some_iff.mp h
    exact .writeClusters ⟨hi, hn⟩ hiso.serves_self
  case h_14 =>
    obtain ⟨printed, -, rfl⟩ := Option.map_eq_some_iff.mp h
    exact does_of_console hnone hiso
  case h_16 =>
    obtain ⟨printed, -, rfl⟩ := Option.map_eq_some_iff.mp h
    exact does_of_console hnone hiso
  -- What is left are the calls without a pointer or a failure, and the numbers of no call.
  case h_19 =>
    cases h
    exact does_of_console (hnone _ rfl ‹_› ‹_› ‹_›) hiso
  all_goals
    cases h
    exact does_of_console hnone hiso

end State

open State

lemma mainInterruptHandler_does (hcall : i.intNumber.toNat = 0x30 → s.kernel.runningProcessIdx ≠ none)
    (hiso : Isolated L s.kernel home) (hs : s.kernel.Settled)
    (h : s.mainInterruptHandler L img fuel i = some (r, s')) :
    Does L img i s r s' := by
  have hnone : i.intNumber.toNat ≠ 0x20 → i.intNumber.toNat ≠ 0x30 → ∀ event, ¬ i.Requests L s event := by
    intro htimer hcall event hr
    obtain ⟨hi, -⟩ | hi | hi | hi := hr.number
    · exact htimer hi
    · exact hcall hi.1
    · exact hcall hi.1
    · exact hcall hi.1
  unfold mainInterruptHandler at h
  split at h
  case h_1 => cases h
  case h_2 hn =>
    cases h
    exact does_of_console (hnone (by omega) (by omega)) hiso
  case h_3 hn =>
    obtain ⟨rfl, rfl⟩ := Prod.mk.inj (Option.some.inj h)
    have hstep : Step L s.kernel (.timer i.frame) _ _ := ⟨.inl ⟨i.frame, rfl⟩, s.kernel.memory, rfl⟩
    exact @Does.manage _ _ _ _ _ (.timer i.frame) _ _ ⟨hn, rfl⟩ rfl (hstep.isolated hiso hs).1.serves_self
      (fun _ => rfl) rfl
  case h_4 hn => exact interrupt_does (hcall hn) hiso hs hn h
  case h_5 htimer hcall =>
    cases h
    exact does_of_console (hnone htimer hcall) hiso

/-! ### Steps and runs -/

lemma MachineStep.does (h : MachineStep L img s a r s') (hkeeps : a.KeepsOut L img)
    (hiso : Isolated L s.kernel home) (hs : s.kernel.Settled) : Does L img a.interrupt a.state r s' := by
  obtain ⟨⟨hcall, memory, -, hstate⟩, hh⟩ := h
  obtain ⟨fuel, hh⟩ := hh hkeeps
  rw [hstate] at hh ⊢
  exact mainInterruptHandler_does hcall (hiso.memory memory) hs hh

lemma MachineStep.kernel (h : MachineStep L img s a r s') (hkeeps : a.KeepsOut L img)
    (hiso : Isolated L s.kernel home) (hs : s.kernel.Settled) :
    (∀ event, ¬ a.interrupt.Requests L a.state event) ∧ r = .interrupted ∧ Serves L s.kernel s'.kernel ∨
      ∃ event response k, a.interrupt.Requests L a.state event ∧ GuestStep L s.kernel event response k ∧
        response.resumption = r ∧ Serves L k s'.kernel ∧ (response.code = none → s'.kernel = k) := by
  have hdoes := h.does hkeeps hiso hs
  obtain ⟨⟨hcall, memory, hm, hstate⟩, -⟩ := h
  have hleft : Serves L s.kernel a.state.kernel := ⟨memory, hm, by rw [hstate]; rfl⟩
  cases hdoes with
  | serve hnone hserves _ => exact .inl ⟨hnone, rfl, hleft.trans hserves⟩
  | write hcalls _ _ hserves =>
    exact .inl ⟨hcalls.not_requests (by decide) (by decide) (by decide), rfl, hleft.trans hserves⟩
  | delete hcalls _ _ hserves =>
    exact .inl ⟨hcalls.not_requests (by decide) (by decide) (by decide), rfl, hleft.trans hserves⟩
  | writeClusters hcalls hserves =>
    exact .inl ⟨hcalls.not_requests (by decide) (by decide) (by decide), rfl, hleft.trans hserves⟩
  | @manage _ event response k hrequests hk hserves hsame _ =>
    rw [hstate] at hk
    refine .inr ⟨event, response, k, hrequests, ⟨?_, memory, hm, hk⟩, rfl, hserves, hsame⟩
    cases event with
    | timer frame => exact .inl ⟨frame, rfl⟩
    | create _ _ _ => exact .inr (hcall hrequests.1.1)
    | kill _ => exact .inr (hcall hrequests.1.1)
    | terminate => exact .inr (hcall hrequests.1)

lemma Boots.booted (h : Boots L img s) : ∃ memory, Booted L memory s.kernel := by
  obtain ⟨fuel, disk, memory, screen, registers, r, h⟩ := h
  obtain ⟨⟨r', kernel⟩, hsetup, he⟩ := Option.map_eq_some_iff.mp h
  obtain ⟨rfl, rfl⟩ := Prod.mk.inj he
  exact ⟨memory, fuel, _, r', hsetup⟩

lemma MachineStep.sound (h : MachineStep L img s a r s') (hkeeps : a.KeepsOut L img)
    (hsound : (∃ home, Isolated L s.kernel home) ∧ s.kernel.Settled) :
    (∃ home, Isolated L s'.kernel home) ∧ s'.kernel.Settled := by
  obtain ⟨⟨home, hiso⟩, hs⟩ := hsound
  obtain ⟨-, -, hserves⟩ | ⟨event, response, k, -, hguest, -, hserves, -⟩ := h.kernel hkeeps hiso hs
  · exact ⟨⟨home, hserves.isolated hiso⟩, hserves.settled hs⟩
  · obtain ⟨hiso', hs'⟩ := hguest.step.isolated hiso hs
    exact ⟨⟨_, hserves.isolated hiso'⟩, hserves.settled hs'⟩

lemma Boots.sound {s₀ : State} {arrivals : List Arrival} {resumptions : List Resumption} (hboot : Boots L img s₀)
    (hrun : Run (MachineStep L img) s₀ arrivals resumptions s) (hkeeps : ∀ a ∈ arrivals, a.KeepsOut L img) :
    (∃ home, Isolated L s.kernel home) ∧ s.kernel.Settled := by
  obtain ⟨memory, hboot⟩ := hboot.booted
  exact hrun.invariant_on (P := fun s => (∃ home, Isolated L s.kernel home) ∧ s.kernel.Settled)
    (fun _ _ _ _ ha hsound hstep => hstep.sound ha hsound) hkeeps ⟨⟨_, hboot.isolated fun _ => 0⟩, hboot.settled⟩

end Semogakelar.Machine
