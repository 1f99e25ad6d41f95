import Semogakelar.Machine.Children

/-! What `print_active_processes` shows of the processes, in every state of the machine. -/

namespace Semogakelar.Process.Kernel

open Function Memory Fat32

variable {L : Layout} {k k' : Kernel} {event : Event} {response : Response}

def PidsShort (k : Kernel) : Prop := ∀ i, (k.processList i).pid.toNat ≤ 17

namespace PidsShort

lemma rescheduled (h : PidsShort k) (hr : Rescheduled k k') : PidsShort k' := by
  intro i
  rw [hr.pid]
  exact h i

lemma clearPcb (h : PidsShort k) (s : Fin 16) : PidsShort (k.clearPcb s) := by
  intro i
  by_cases hi : i = s
  · simp [Kernel.clearPcb, hi, ProcessControlBlock.zero]
  · rw [clearPcb_of_ne hi]
    exact h i

lemma create (h : PidsShort k) {fuel : ℕ} {fs : FileSystem} {request : ProcessRequest} {code : ℤ}
    (hc : processCreateUserProcess L fuel fs request k = some (code, k')) : PidsShort k' := by
  intro i
  obtain ⟨-, ht⟩ | ⟨-, pIndex, newPage, paging, hcr⟩ := processCreateUserProcess_outcomes hc
  · rw [ht.pid]
    exact h i
  · by_cases hi : i = pIndex
    · obtain ⟨n, hn, hle, -⟩ := processGenerateNewPid_spec (k.reserve request pIndex paging).processList
      have hpid : (k'.processList pIndex).pid =
          processGenerateNewPid (k.reserve request pIndex paging).processList 16 1 := by
        simp [hcr.processList, ProcessControlBlock.created]
      rw [hi, hpid, hn]
      omega
    · rw [hcr.of_ne hi]
      exact h i

lemma handle (h : PidsShort k) (hh : k.handle L event = some (response, k')) : PidsShort k' := by
  cases event with
  | timer frame => exact h.rescheduled (timer_rescheduled hh)
  | create fuel fs request =>
    obtain ⟨code, -, hc⟩ := createEvent_cases hh
    exact h.create hc
  | kill pid =>
    obtain ⟨code, hk⟩ := killEvent_cases hh
    obtain ⟨s, -, ⟨-, hsw⟩ | ⟨-, -, ⟨-, rfl⟩ | ⟨i, -, rfl⟩⟩⟩ := killProcess_cases hk
    · exact (h.clearPcb s).rescheduled (switch_rescheduled hsw)
    · exact h
    · exact h.clearPcb i
  | terminate =>
    obtain ⟨s, -, hsw⟩ := terminateCurrentProcess_cases (terminateEvent_cases hh)
    exact (h.clearPcb s).rescheduled (switch_rescheduled hsw)

end PidsShort

lemma Booted.pidsShort {memory : PhysicalMemory} (h : Booted L memory k) : PidsShort k := by
  obtain ⟨fuel, fs, code, k₁, r, hc, hsw⟩ := h.cases
  have h₀ : PidsShort (initial L memory) := fun _ => Nat.zero_le 17
  exact (h₀.create hc).rescheduled (switch_rescheduled hsw)

end Semogakelar.Process.Kernel

namespace Semogakelar.Terminal

variable {val base : ℤ} {start m n : ℕ} {buf buf' : ℕ → UInt8}

lemma itoa_end (h : itoa val base buf = some (start, buf')) : buf' 31 = buf 31 := by
  have hcalls : itoaCalls [(val, base)] buf = some buf' := by
    rw [itoaCalls, h, Option.bind_some]
    rfl
  exact itoaCalls_end hcalls

lemma lastDigits_injective (hm : m < 10 ^ 30) (hn : n < 10 ^ 30) (h : lastDigits 10 30 m = lastDigits 10 30 n) :
    m = n := by
  have hdenotes : ∀ {val : ℕ}, val < 10 ^ 30 → val ≠ 0 → Denotes 10 val (lastDigits 10 30 val) := fun hlt hval =>
    (lastDigits_denotes (by decide) (by decide) (by decide)).mpr ⟨hval, Nat.mod_eq_of_lt hlt⟩
  by_cases hzero : m = 0
  · by_contra hne
    have hd := hdenotes hn fun hz => hne (hzero.trans hz.symm)
    rw [← h, lastDigits_denotes (by decide) (by decide) (by decide)] at hd
    exact hd.1 hzero
  · have hd := hdenotes hm hzero
    rw [h, lastDigits_denotes (by decide) (by decide) (by decide), Nat.mod_eq_of_lt hn] at hd
    exact hd.2.symm

end Semogakelar.Terminal

namespace Semogakelar.Machine

open Function Memory Fat32 Library Process Kernel Terminal

variable {L : Layout} {img : KernelImage} {s s' : State} {a : Arrival} {r : Resumption} {cpu : CPURegister}
  {fuel n : ℕ} {addr : UInt32} {digits digits' : ℕ → UInt8} {t t' : Console} {pcb : ProcessControlBlock}

/-! ### The list -/

def showTexts (texts : List (List UInt8 × UInt8)) (t : Console) : Console :=
  texts.foldl (fun t text => t.puts text.1 text.2) t

/-- The line of a process; the numeral of the pid 0 is empty. -/
def processLine (pcb : ProcessControlBlock) : List (List UInt8 × UInt8) :=
  [(textBytes "PID: ", 0x7), (lastDigits 10 30 pcb.pid.toNat, 0xF), (textBytes "     Name: ", 0x7),
    (processText pcb, 0xF), (textBytes "\n", 0xF)]

def live (k : Kernel) : List (Fin 16) := (List.finRange 16).filter fun i => k.state i ≠ .new

def listing (k : Kernel) : List (List UInt8 × UInt8) :=
  (textBytes "Currently running processes:\n", 0x7) :: (live k).flatMap fun i => processLine (k.processList i)

lemma showTexts_listing (k : Kernel) (t : Console) : showTexts (listing k) t =
    showTexts ((live k).flatMap fun i => processLine (k.processList i))
      (t.puts (textBytes "Currently running processes:\n") 0x7) := by
  rw [listing, showTexts, List.foldl_cons, ← showTexts]

lemma mem_live {k : Kernel} {j : Fin 16} : j ∈ live k ↔ k.state j ≠ .new := by
  simp [live]

lemma printProcess_eq (hpid : pcb.pid.toNat ≤ 17) (hend : digits 31 = 0) : ∃ digits',
    printProcess pcb digits t = some (digits', showTexts (processLine pcb) t) ∧ digits' 31 = 0 := by
  have hint : pcb.pid.toInt32.toInt = (pcb.pid.toNat : ℤ) := by
    have hlt : 2 * pcb.pid.toBitVec.toNat < 2 ^ 32 := by
      change 2 * pcb.pid.toNat < 2 ^ 32
      omega
    exact BitVec.toInt_eq_toNat_of_lt hlt
  obtain ⟨start, digits', hitoa, htext⟩ := itoa_text pcb.pid.toNat (by decide : 2 ≤ 10) (by decide) hend
  refine ⟨digits', ?_, (itoa_end hitoa).trans hend⟩
  rw [printProcess, hint]
  change (itoa pcb.pid.toNat ((10 : ℕ) : ℤ) digits).bind _ = _
  rw [hitoa, Option.bind_some]
  dsimp only
  rw [htext, Option.map_some]
  rfl

lemma printProcesses_eq {k : Kernel} (ho : Orderly k) (hpids : PidsShort k) (js : List (Fin 16))
    (hend : digits 31 = 0) : ∃ digits', printProcesses k.processList js digits t = some (digits',
      showTexts ((js.filter fun j => k.state j ≠ .new).flatMap fun j => processLine (k.processList j)) t) ∧
      digits' 31 = 0 := by
  induction js generalizing digits t with
  | nil => exact ⟨digits, rfl, hend⟩
  | cons j js ih =>
    by_cases hj : k.state j = .new
    · obtain ⟨digits', hrest, hend'⟩ := ih hend (t := t)
      refine ⟨digits', ?_, hend'⟩
      have hskip : ¬ ((k.processList j).state = .running ∨ (k.processList j).state = .ready) := by
        rw [show (k.processList j).state = .new from hj]
        simp
      rw [printProcesses, if_neg hskip, hrest, List.filter_cons_of_neg (by simpa using hj)]
    · have hshown : (k.processList j).state = .running ∨ (k.processList j).state = .ready := by
        rcases ho.states j with hnew | hready | hrunning
        · exact absurd hnew hj
        · exact .inr hready
        · exact .inl hrunning.1
      obtain ⟨digits₁, hfirst, hend₁⟩ := printProcess_eq (t := t) (hpids j) hend
      obtain ⟨digits', hrest, hend'⟩ := ih hend₁ (t := showTexts (processLine (k.processList j)) t)
      refine ⟨digits', ?_, hend'⟩
      rw [printProcesses, if_pos hshown, hfirst, Option.bind_some]
      dsimp only
      rw [hrest, List.filter_cons_of_pos (by simpa using hj), List.flatMap_cons, showTexts, showTexts, showTexts,
        List.foldl_append]

/-! ### The buffer of the numerals -/

lemma printProcesses_end {processList : Fin 16 → ProcessControlBlock} {js : List (Fin 16)}
    (h : printProcesses processList js digits t = some (digits', t')) : digits' 31 = digits 31 := by
  induction js generalizing digits t with
  | nil =>
    cases h
    rfl
  | cons j js ih =>
    rw [printProcesses] at h
    split at h
    · obtain ⟨⟨digits₁, t₁⟩, hfirst, h⟩ := Option.bind_eq_some_iff.mp h
      obtain ⟨⟨start, digits₂⟩, hitoa, hfirst⟩ := Option.bind_eq_some_iff.mp hfirst
      obtain ⟨pid, -, he⟩ := Option.map_eq_some_iff.mp hfirst
      obtain ⟨rfl, -⟩ := Prod.mk.inj he
      exact (ih h).trans (itoa_end hitoa)
    · exact ih h

lemma writeNumber_end {col : UInt8} {val : ℤ} (h : writeNumber col val digits t = some (digits', t')) :
    digits' 31 = digits 31 := by
  obtain ⟨⟨start, digits₁⟩, hitoa, h⟩ := Option.bind_eq_some_iff.mp h
  obtain ⟨text, -, he⟩ := Option.map_eq_some_iff.mp h
  obtain rfl : digits₁ = digits' := by
    split at he
    · exact (Prod.mk.inj he).1
    · exact (Prod.mk.inj he).1
  exact itoa_end hitoa

lemma printCurrentTime_end {g g' : Rtc} (h : printCurrentTime fuel g digits t = some (g', digits', t')) :
    digits' 31 = digits 31 := by
  obtain ⟨g₁, -, h⟩ := Option.bind_eq_some_iff.mp h
  obtain ⟨⟨digits₁, t₁⟩, hour, h⟩ := Option.bind_eq_some_iff.mp h
  obtain ⟨⟨digits₂, t₂⟩, hminute, h⟩ := Option.bind_eq_some_iff.mp h
  obtain ⟨⟨digits₃, t₃⟩, hsecond, he⟩ := Option.map_eq_some_iff.mp h
  obtain ⟨-, he⟩ := Prod.mk.inj he
  obtain ⟨rfl, -⟩ := Prod.mk.inj he
  rw [writeNumber_end hsecond, writeNumber_end hminute, writeNumber_end hour]

namespace State

lemma store_digits {data : ℕ → UInt8} (h : s.store L addr data n = some s') : s'.digits = s.digits := by
  obtain ⟨pageDir, -, h⟩ := Option.bind_eq_some_iff.mp h
  obtain ⟨memory, -, rfl⟩ := Option.map_eq_some_iff.mp h
  rfl

lemma storeTransfer_digits {buf : UInt32} {t : Transfer} {code : ℤ}
    (h : ((s.storeTransfer L buf t).bind fun s => s.storeCode L addr code) = some s') : s'.digits = s.digits := by
  obtain ⟨s₁, hfirst, hcode⟩ := Option.bind_eq_some_iff.mp h
  exact (store_digits hcode).trans (store_digits hfirst)

lemma conclude_digits {o : Outcome FileSystem ℤ} (h : s.conclude L addr o = some s') : s'.digits = s.digits := by
  cases o with
  | returned code fs => exact store_digits (s := { s with fs := fs }) h
  | outside fs => cases h
  | running fs => cases h

lemma manage_digits {event : Kernel.Event} (h : s.manage L addr event = some (r, s')) : s'.digits = s.digits := by
  obtain ⟨⟨response, k⟩, -, h⟩ := Option.bind_eq_some_iff.mp h
  dsimp only at h
  split at h
  · obtain ⟨-, rfl⟩ := Prod.mk.inj (Option.some.inj h)
    rfl
  · obtain ⟨s₁, hstore, he⟩ := Option.map_eq_some_iff.mp h
    obtain ⟨-, rfl⟩ := Prod.mk.inj he
    exact store_digits (s := { s with kernel := k }) hstore

lemma interrupt_digits (h : s.interrupt L img fuel cpu = some (r, s')) : s'.digits 31 = s.digits 31 := by
  unfold interrupt at h
  split at h
  case h_12 => rw [manage_digits h]
  case h_13 =>
    obtain ⟨request, -, h⟩ := Option.bind_eq_some_iff.mp h
    rw [manage_digits h]
  case h_15 => rw [manage_digits h]
  all_goals replace h := (returned_eq_some h).2
  case h_1 =>
    obtain ⟨⟨buf, request⟩, -, h⟩ := Option.bind_eq_some_iff.mp h
    dsimp only at h
    split at h
    · rw [storeTransfer_digits h]
    · cases h
    · cases h
  case h_2 =>
    obtain ⟨⟨buf, request⟩, -, h⟩ := Option.bind_eq_some_iff.mp h
    rw [storeTransfer_digits h]
  case h_3 =>
    obtain ⟨⟨buf, request⟩, -, h⟩ := Option.bind_eq_some_iff.mp h
    dsimp only at h
    split_ifs at h
    rw [conclude_digits h]
  case h_4 =>
    obtain ⟨⟨buf, request⟩, -, h⟩ := Option.bind_eq_some_iff.mp h
    rw [conclude_digits h]
  case h_5 => rw [store_digits (s := { s with console := s.console.getKeyboardBuffer.2 }) h]
  case h_6 =>
    obtain ⟨c, -, rfl⟩ := Option.map_eq_some_iff.mp h
    rfl
  case h_7 =>
    obtain ⟨text, -, rfl⟩ := Option.map_eq_some_iff.mp h
    rfl
  case h_10 => rw [store_digits h]
  case h_11 =>
    obtain ⟨bytes, -, rfl⟩ := Option.map_eq_some_iff.mp h
    rfl
  case h_14 =>
    obtain ⟨⟨digits, t⟩, hprint, rfl⟩ := Option.map_eq_some_iff.mp h
    exact printProcesses_end hprint
  case h_16 =>
    obtain ⟨⟨rtc, digits, t⟩, hprint, rfl⟩ := Option.map_eq_some_iff.mp h
    exact printCurrentTime_end hprint
  all_goals
    cases h
    rfl

end State

open State

structure Lists (L : Layout) (s : State) : Prop where
  sound : (∃ home, Isolated L s.kernel home) ∧ s.kernel.Settled
  orderly : Orderly s.kernel
  pids : PidsShort s.kernel
  terminated : s.digits 31 = 0

lemma MachineStep.keeps_terminator (h : MachineStep L img s a r s') (hkeeps : a.KeepsOut L img) :
    s'.digits 31 = s.digits 31 := by
  obtain ⟨⟨-, memory, -, hstate⟩, hh⟩ := h
  obtain ⟨fuel, hh⟩ := hh hkeeps
  rw [hstate] at hh
  unfold mainInterruptHandler at hh
  split at hh
  case h_1 => cases hh
  case h_4 => exact interrupt_digits (s := s.withMemory memory) hh
  all_goals
    cases hh
    rfl

lemma Lists.step (h : Lists L s) (hkeeps : a.KeepsOut L img) (hstep : MachineStep L img s a r s') :
    Lists L s' := by
  obtain ⟨⟨home, hiso⟩, hs⟩ := h.sound
  obtain ⟨k, memory, hk, horderly, hpids⟩ :
      ∃ k memory, s'.kernel = { k with memory := memory } ∧ Orderly k ∧ PidsShort k := by
    obtain ⟨-, -, memory, -, hk⟩ | ⟨event, response, k, -, hguest, -, ⟨memory, -, hk⟩, -⟩ :=
      hstep.kernel hkeeps hiso hs
    · exact ⟨s.kernel, memory, hk, h.orderly, h.pids⟩
    · refine ⟨k, memory, hk, h.orderly.step hguest.step, ?_⟩
      obtain ⟨-, memory', -, hh⟩ := hguest
      have hpids : PidsShort { s.kernel with memory := memory' } := h.pids
      exact hpids.handle hh
  refine ⟨hstep.sound hkeeps h.sound, ?_, ?_, (hstep.keeps_terminator hkeeps).trans h.terminated⟩
  · rw [hk]
    exact horderly.memory memory
  · rw [hk]
    exact hpids

lemma Boots.lists (h : Boots L img s) : Lists L s := by
  obtain ⟨memory, hboot⟩ := h.booted
  refine ⟨h.sound .nil (by simp), hboot.orderly, hboot.pidsShort, ?_⟩
  obtain ⟨fuel, disk, memory, screen, registers, r, h⟩ := h
  obtain ⟨x, -, he⟩ := Option.map_eq_some_iff.mp h
  obtain ⟨-, rfl⟩ := Prod.mk.inj he
  rfl

theorem listing_shows_live_processes {s₀ : State} {arrivals : List Arrival} {resumptions : List Resumption}
    (hboot : Boots L img s₀) (hrun : Run (MachineStep L img) s₀ arrivals resumptions s)
    (hkeeps : ∀ a ∈ arrivals, a.KeepsOut L img) :
    (∃ digits, s.showProcesses =
      some { s with digits := digits, console := showTexts (listing s.kernel) s.console }) ∧
      (∀ j, s.kernel.runningProcessIdx = some j → j ∈ live s.kernel) ∧
      ∀ j ∈ live s.kernel, ∀ j' ∈ live s.kernel, lastDigits 10 30 (s.kernel.processList j).pid.toNat =
        lastDigits 10 30 (s.kernel.processList j').pid.toNat → j = j' := by
  have hlists := hrun.invariant_on (fun _ _ _ _ ha hlists hstep => Lists.step hlists ha hstep) hkeeps hboot.lists
  refine ⟨?_, fun j hj => ?_, fun j hj j' hj' he => ?_⟩
  · obtain ⟨digits, hprint, -⟩ := printProcesses_eq hlists.orderly hlists.pids (List.finRange 16)
      (t := s.console.puts (textBytes "Currently running processes:\n") 0x7) hlists.terminated
    refine ⟨digits, ?_⟩
    rw [showProcesses, printActiveProcesses, hprint, Option.map_some, showTexts_listing, live]
  · rw [mem_live, hlists.sound.2 j hj]
    decide
  · have hpid := lastDigits_injective (lt_of_le_of_lt (hlists.pids j) (by decide))
      (lt_of_le_of_lt (hlists.pids j') (by decide)) he
    exact hlists.orderly.distinct j j' (mem_live.mp hj) (mem_live.mp hj') (UInt32.toNat_inj.mp hpid)

theorem listing_shows_live_processes_child : ∃ s₀ s found, Boots linked plainImage s₀ ∧
    Run (MachineStep linked plainImage) s₀ [⟨callOf 12 0 4096, found⟩] [.interrupted] s ∧
    (∃ digits, s.showProcesses =
      some { s with digits := digits, console := showTexts (listing s.kernel) s.console }) ∧
    0 ∈ live s.kernel ∧ 1 ∈ live s.kernel ∧ lastDigits 10 30 (s.kernel.processList 0).pid.toNat ≠
      lastDigits 10 30 (s.kernel.processList 1).pid.toNat := by
  obtain ⟨s₀, hshell⟩ := shellMachine
  obtain ⟨found, s, hspawn, hout, -, hpair⟩ := hshell.spawns
  have hrun := Run.cons hspawn .nil
  obtain ⟨hshown, hlive, hdistinct⟩ := listing_shows_live_processes hshell.boots hrun
    (List.forall_mem_singleton.mpr hout)
  have hzero := hlive 0 hpair.running
  have hone : 1 ∈ live s.kernel := by
    rw [mem_live, hpair.ready]
    decide
  refine ⟨s₀, s, found, hshell.boots, hrun, hshown, hzero, hone, fun he => ?_⟩
  have heq := hdistinct 0 hzero 1 hone he
  cases heq

end Semogakelar.Machine
