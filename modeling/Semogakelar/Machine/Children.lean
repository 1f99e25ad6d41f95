import Semogakelar.Fat32.Twin
import Semogakelar.Machine.Steps

/-! Two processes that take turns: the shell and a child that it has created. -/

namespace Semogakelar.Process.Kernel

open Function Memory Fat32

variable {L : Layout} {k k' : Kernel} {s j : Fin 16} {event : Event} {response : Response}

lemma timer_dispatch {frame : InterruptFrame} {ctx : Context} (h : GuestStep L k (.timer frame) response k')
    (hr : response.resumption = .switched j ctx) :
    k'.paging = k.paging ∧ k'.cr3 = pagingUsePageDirectory ctx.pageDirectoryVirtualAddr := by
  obtain ⟨-, memory, -, hh⟩ := h
  have hsw := timerInterrupt_cases hh
  have hpaging := (switch_memory hsw).2.trans save_memory.2
  rw [hr] at hsw
  obtain ⟨_, -, -, hn, -⟩ | ⟨-, hn, -⟩ | ⟨i, -, -, hi, rfl⟩ := schedulerSwitchToNextProcess_cases hsw
  · cases hn
  · cases hn
  · obtain ⟨rfl, rfl⟩ := Resumption.switched.inj hi
    exact ⟨hpaging, rfl⟩

lemma timer_saved {frame : InterruptFrame} (h : GuestStep L k (.timer frame) response k')
    (hs : k.runningProcessIdx = some s) (haway : k'.runningProcessIdx ≠ some s) :
    (k'.processList s).context.pageDirectoryVirtualAddr = pagingGetCurrentPageDirectoryAddr k.cr3 := by
  obtain ⟨-, memory, -, hh⟩ := h
  rw [switch_keeps (timerInterrupt_cases hh) haway, save_context (k := { k with memory := memory }) hs]

lemma FindsShell.clusters_le {fs : FileSystem} {content : List UInt8} {i : Fin 64} {l : List UInt32}
    (h : FindsShell fs content i l) {request : DriverRequest}
    (hparent : request.parentClusterNumber = rootClusterNumber) (hname : request.name = shellRequest.name)
    (hext : request.ext = shellRequest.ext)
    (hsize : request.bufferSize.toNat = 0x100000) {fuel : ℕ} {t : Transfer}
    (hr : read fuel fs request = .returned 0 t) : 2048 * t.clusters.length ≤ 2 ^ 22 := by
  have hfuel := read_mono hr (le_max_left fuel (l.length + 1))
  rw [h.read_eq hparent hname hext hsize (Nat.lt_of_succ_le (le_max_right _ _))] at hfuel
  obtain ⟨-, rfl⟩ := Outcome.returned.inj hfuel
  rw [Transfer.copyAll_clusters, List.nil_append]
  exact h.clusters_fit

end Semogakelar.Process.Kernel

namespace Semogakelar.Machine

open Function Memory Fat32 Library Process Kernel State

variable {L : Layout} {img : KernelImage} {s s' : State} {i : Interrupt} {a : Arrival} {j l : Fin 16}
  {d e : Fin 32} {home : Fin 16 → UInt32}

lemma mainInterruptHandler_call {n : ℕ} (h : i.Calls n) (fuel : ℕ) :
    s.mainInterruptHandler L img fuel i = s.interrupt L img fuel i.frame.cpu := by
  unfold mainInterruptHandler
  rw [h.1]
  rfl

def callOf (eax ebx ecx : UInt32) : Interrupt :=
  ⟨0x30, ⟨{ CPURegister.zero with eax := eax, ebx := ebx, ecx := ecx }, 0, 0⟩, 0⟩

def timerAt (eip : UInt32) : Interrupt := ⟨0x20, ⟨.zero, eip, 0⟩, 0⟩

lemma Arrival.keepsOut_of_low (h : ∀ addr n, a.state.Follows L img a.interrupt.frame.cpu addr n →
    addr.toNat + n ≤ 0xC0000000) : a.KeepsOut L img := by
  intro _ addr n hf j hj
  have hlow := h addr n hf
  apply pageIndex_ne_of_lt
  rw [UInt32.toNat_add, UInt32.toNat_ofNat']
  omega

lemma keepsOut_timer (eip : UInt32) (s : State) : Arrival.KeepsOut L img ⟨timerAt eip, s⟩ := fun h => by cases h

/-! ### Taking turns -/

structure Pair (L : Layout) (s : State) (j l : Fin 16) (d e : Fin 32) : Prop where
  running : s.kernel.runningProcessIdx = some j
  other : l ≠ j
  ready : s.kernel.state l = .ready
  rest : ∀ i, i ≠ j → i ≠ l → s.kernel.state i ≠ .ready
  uses : Uses L s d
  saved : (s.kernel.processList l).context.pageDirectoryVirtualAddr = L.address e
  present : (s.kernel.paging.pageDirectoryList e 0).flag.presentBit = true

lemma Uses.serves (h : Uses L s d) (hs : Serves L s.kernel s'.kernel) : Uses L s' d := by
  obtain ⟨memory, -, hk⟩ := hs
  refine ⟨?_, ?_, ?_⟩
  · rw [hk]
    exact h.running
  · rw [hk]
    exact h.directory
  · rw [hk]
    exact h.present

lemma Pair.serves (h : Pair L s j l d e) (hs : Serves L s.kernel s'.kernel) : Pair L s' j l d e := by
  have huses := h.uses.serves hs
  obtain ⟨memory, -, hk⟩ := hs
  refine ⟨?_, h.other, ?_, fun i hj hl => ?_, huses, ?_, ?_⟩
  · rw [hk]
    exact h.running
  · rw [hk]
    exact h.ready
  · rw [hk]
    exact h.rest i hj hl
  · rw [hk]
    exact h.saved
  · rw [hk]
    exact h.present

lemma MachineStep.of_timer (img : KernelImage) {eip : UInt32} {response : Response} {k : Kernel}
    (h : GuestStep L s.kernel (.timer (timerAt eip).frame) response k) : ∃ found,
      MachineStep L img s ⟨timerAt eip, found⟩ response.resumption { s with kernel := k } := by
  obtain ⟨-, memory, hm, hh⟩ := h
  obtain ⟨rfl, rfl⟩ := Prod.mk.inj (Option.some.inj hh)
  refine ⟨s.withMemory memory, ⟨fun hcall => ?_, memory, hm, rfl⟩, fun _ => ⟨0, rfl⟩⟩
  cases hcall

lemma Pair.turns (h : Pair L s j l d e) (hiso : Isolated L s.kernel home) (img : KernelImage) (eip : UInt32) :
    ∃ found ctx s', MachineStep L img s ⟨timerAt eip, found⟩ (.switched l ctx) s' ∧ s'.fs = s.fs ∧
      Pair L s' l j e d := by
  obtain ⟨k, hguest, hrunning, hready, hrest⟩ :=
    hiso.timer_pair h.running h.other h.ready h.rest (timerAt eip).frame
  obtain ⟨found, hstep⟩ := MachineStep.of_timer img hguest
  obtain ⟨hpaging, hcr⟩ := timer_dispatch hguest rfl
  have haway : k.runningProcessIdx ≠ some j := by
    rw [hrunning]
    exact fun he => h.other (Option.some.inj he)
  have hsaved := timer_saved hguest h.running haway
  rw [h.uses.directory, pagingGetCurrentPageDirectoryAddr_use (L.address_high d)] at hsaved
  refine ⟨found, _, _, hstep, rfl, hrunning, h.other.symm, hready, fun i hl hj => ?_, ⟨?_, ?_, ?_⟩, hsaved, ?_⟩
  · exact fun hi => h.rest i hj hl ((hrest i hj hl).symm.trans hi)
  · exact fun hnone => Option.some_ne_none l (hrunning.symm.trans hnone)
  · exact hcr.trans (congrArg pagingUsePageDirectory h.saved)
  · change (k.paging.pageDirectoryList e 0).flag.presentBit = true
    rw [hpaging]
    exact h.present
  · change (k.paging.pageDirectoryList d 0).flag.presentBit = true
    rw [hpaging]
    exact h.uses.present

/-! ### The system call 4 -/

lemma interrupt_key (h : i.Calls 4) (fuel : ℕ) : s.interrupt L img fuel i.frame.cpu =
    returned (s.getKeyboardBuffer L i.frame.cpu) := by
  unfold interrupt
  rw [h.2]
  rfl

lemma keepsOut_key {ebx : UInt32} (h : ebx.toNat + 1 ≤ 0xC0000000) (ecx : UInt32) (s : State) :
    Arrival.KeepsOut L img ⟨callOf 4 ebx ecx, s⟩ := by
  refine Arrival.keepsOut_of_low fun addr n hf => ?_
  cases hf with
  | char _ => exact h
  | _ => simp_all [callOf]

lemma Uses.key (h : Uses L s d) (hiso : Isolated L s.kernel home) (img : KernelImage) (ebx : UInt32)
    (hebx : ebx.toNat + 1 ≤ 2 ^ 22) (ecx : UInt32) : ∃ s',
      MachineStep L img s ⟨callOf 4 ebx ecx, s⟩ .interrupted s' ∧ Serves L s.kernel s'.kernel ∧ s'.fs = s.fs := by
  have hcalls : (callOf 4 ebx ecx).Calls 4 := ⟨rfl, rfl⟩
  have huses : Uses L { s with console := s.console.getKeyboardBuffer.2 } d := ⟨h.running, h.directory, h.present⟩
  have hload := huses.load_isSome hebx
  obtain ⟨s', hstore, -⟩ := store_translate (fun _ => s.console.getKeyboardBuffer.1) huses.pages
    (huses.faithful hiso) (by decide) hload
  obtain ⟨hserves, hfs⟩ := store_serves huses.running hstore
  have hreturn : s.getKeyboardBuffer L (callOf 4 ebx ecx).frame.cpu = some s' := hstore
  refine ⟨s', ⟨⟨fun _ => h.running, s.kernel.memory, hiso.leaves_self, rfl⟩, fun _ => ⟨0, ?_⟩⟩, hserves, hfs⟩
  rw [mainInterruptHandler_call hcalls, interrupt_key hcalls, hreturn]
  rfl

/-! ### The shell and its child -/

lemma interrupt_create (h : i.Calls 12) (fuel : ℕ) : s.interrupt L img fuel i.frame.cpu =
    (s.request L i.frame.cpu.ebx).bind fun request => s.manage L i.frame.cpu.ecx (.create fuel s.fs request) := by
  unfold interrupt
  rw [h.2]
  rfl

lemma Uses.handle {event : Event} {response : Response} {k : Kernel} (h : Uses L s d)
    (hiso : Isolated L s.kernel home) (hs : s.kernel.Settled) (hj : s.kernel.runningProcessIdx = some j)
    (hh : s.kernel.handle L event = some (response, k)) (hj' : k.runningProcessIdx = some j) :
    Uses L { s with kernel := k } d := by
  have hstep : Step L s.kernel event response k := ⟨.inr h.running, s.kernel.memory, hh⟩
  obtain ⟨hiso', -⟩ := hstep.isolated hiso hs
  obtain ⟨e, hused, he⟩ := hiso.home_used j (.inr hj)
  obtain rfl : d = e := by
    apply Layout.use_injective (L := L)
    rw [← h.directory, hiso.active j hj, he]
  have ht : track s.kernel k home j = home j := if_neg fun hn => by
    rw [hs j hj] at hn
    cases hn.1
  refine ⟨?_, ?_, ?_⟩
  · change k.runningProcessIdx ≠ none
    rw [hj']
    exact Option.some_ne_none j
  · change k.cr3 = _
    rw [hiso'.active j hj', ht, he]
  · change (k.paging.pageDirectoryList d 0).flag.presentBit = true
    rw [(handle_frame hiso.sound hused hh).1]
    exact h.present

lemma keepsOut_spawn (hfs : s.fs = shellVolume) (hrequest : s.request linked 0 = some shellRequest) :
    Arrival.KeepsOut linked plainImage ⟨callOf 12 0 4096, s⟩ := by
  obtain ⟨content, i, l, hfinds, -, -⟩ := shellDisk_found
  refine Arrival.keepsOut_of_low fun addr n hf => ?_
  cases hf with
  | request _ =>
    change (0 : UInt32).toNat + 23 ≤ _
    decide
  | code _ =>
    change (4096 : UInt32).toNat + 1 ≤ _
    decide
  | executable _ _ _ _ hasks hread hn =>
    obtain ⟨pageDir, -, hasks⟩ := Option.bind_eq_some_iff.mp hasks
    obtain ⟨request, hloaded, he⟩ := Option.map_eq_some_iff.mp hasks
    obtain rfl := Option.some.inj (hrequest.symm.trans hloaded)
    obtain ⟨rfl, rfl⟩ := Prod.mk.inj he
    have hmax : (shellRequest.driverRequest pageDir s.kernel.memory).bufferSize.toNat = 0x100000 := by
      change (0x100000 : UInt32).toNat = 0x100000
      decide
    have hfits := (hfinds.same shellVolume_same).clusters_le rfl rfl rfl hmax (hfs ▸ hread)
    have hbuf : shellRequest.buf.toNat = 0 := by decide
    have hsize : pageFrameSize.toNat = 2 ^ 22 := by decide
    omega
  | _ => simp_all [callOf]

lemma ShellMachine.spawns (h : ShellMachine s) : ∃ found s₁,
    MachineStep linked plainImage s ⟨callOf 12 0 4096, found⟩ .interrupted s₁ ∧
      Arrival.KeepsOut linked plainImage ⟨callOf 12 0 4096, found⟩ ∧ s₁.fs = s.fs ∧ Pair linked s₁ 0 1 0 1 := by
  obtain ⟨memory₀, hboot⟩ := h.boots.booted
  have hiso := hboot.isolated fun _ => 0
  obtain ⟨memory, hm, hrequest, -⟩ := h.uses.requests hiso shellRequest [] (by decide)
  have hshell : (s.withMemory memory).kernel.ShellRuns := h.shell.memory memory
  obtain ⟨paging, hr⟩ := hshell.reserves (by decide : shellRequest.buf < kernelVirtualAddressBase) (by decide)
  have hfree : 2 ≤ (s.withMemory memory).kernel.paging.freePageFrameCount := by
    rw [hshell.free]
    decide
  obtain ⟨k, hc, hcreated⟩ := create_shellDisk (L := linked) hr hfree
  have hh : (s.withMemory memory).kernel.handle linked (.create 2 s.fs shellRequest) =
      some (⟨some processCreateSuccess, .interrupted⟩, k) := by
    change (processCreateUserProcess linked 2 s.fs shellRequest _).map _ = _
    rw [h.fs, create_shellVolume, hc]
    rfl
  have hrunning : k.runningProcessIdx = some 0 := hcreated.runningProcessIdx.trans h.shell.running
  have huses := (h.uses.memory memory).handle (hiso.memory memory) hboot.settled h.shell.running hh hrunning
  have haddr : (4096 : UInt32).toNat + 1 ≤ 2 ^ 22 := by decide
  obtain ⟨s₁, hstore⟩ := Option.isSome_iff_exists.mp (huses.storeCode_isSome processCreateSuccess haddr)
  have hmanage : (s.withMemory memory).manage linked 4096 (.create 2 s.fs shellRequest) =
    some (.interrupted, s₁) := by
    rw [State.manage, hh, Option.bind_some]
    dsimp only
    rw [hstore, Option.map_some]
  obtain ⟨memory', -, rfl⟩ := store_spec huses.running hstore
  have hcalls : (callOf 12 0 4096).Calls 12 := ⟨rfl, rfl⟩
  have hslot := congrFun hcreated.processList 1
  rw [update_self] at hslot
  refine ⟨s.withMemory memory, State.withMemory { s.withMemory memory with kernel := k } memory',
    ⟨⟨fun _ => h.uses.running, memory, hm, rfl⟩, fun _ => ⟨2, ?_⟩⟩, keepsOut_spawn h.fs hrequest, rfl, hrunning,
    by decide, hcreated.state_self, fun j h₀ h₁ hready => ?_, huses.memory memory', ?_, ?_⟩
  · rw [mainInterruptHandler_call hcalls, interrupt_create hcalls]
    change ((s.withMemory memory).request linked 0).bind _ = _
    rw [hrequest, Option.bind_some]
    exact hmanage
  · change k.state j = .ready at hready
    rw [Kernel.state, hcreated.processList, update_of_ne h₁, hshell.rest j h₀] at hready
    cases hready
  · change (k.processList 1).context.pageDirectoryVirtualAddr = _
    rw [hslot]
    rfl
  · change (k.paging.pageDirectoryList 1 0).flag.presentBit = true
    have halloc := hr.frames
    rw [show pageFrameCountNeeded shellRequest = 2 by decide] at halloc
    rw [hcreated.paging]
    exact PageManager.allocateUserPages_present (by exact hfree) (by decide) halloc (by decide)

end Semogakelar.Machine
