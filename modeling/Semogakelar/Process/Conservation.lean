import Semogakelar.Process.Boot

/-! Frames, page directories and the process counter, against the processes that are there. -/

namespace Semogakelar.Process.Kernel

open Function Memory Fat32 Library

variable {L : Layout} {k k' : Kernel} {s i : Fin 16} {r : Resumption} {event : Event} {response : Response}

def liveWeight (g : ProcessControlBlock → ℕ) (pcb : ProcessControlBlock) : ℕ :=
  if pcb.state = .new then 0 else g pcb

def heldFrames (k : Kernel) : ℕ := tally (liveWeight fun pcb => pcb.pageFrameUsedCount.toNat) k.processList

def liveCount (k : Kernel) : ℕ := tally (liveWeight fun _ => 1) k.processList

lemma liveCount_congr (h : ∀ i, k'.state i = .new ↔ k.state i = .new) : k'.liveCount = k.liveCount := by
  refine tally_congr fun i => ?_
  have hi : (k'.processList i).state = .new ↔ (k.processList i).state = .new := h i
  simp only [liveWeight, hi]

lemma heldFrames_congr (h : ∀ i, k'.state i = .new ↔ k.state i = .new)
    (hp : ∀ i, k.state i ≠ .new → (k'.processList i).pageFrameUsedCount = (k.processList i).pageFrameUsedCount) :
    k'.heldFrames = k.heldFrames := by
  refine tally_congr fun i => ?_
  have hi : (k'.processList i).state = .new ↔ (k.processList i).state = .new := h i
  by_cases hn : (k.processList i).state = .new
  · simp only [liveWeight, hi, hn, if_true]
  · simp only [liveWeight, hi, hn, if_false, hp i hn]

lemma TableKept.new (h : TableKept k k') (i : Fin 16) : k'.state i = .new ↔ k.state i = .new :=
  iff_of_eq (congrArg (· = ProcessState.new) (h.state i))

section

variable {request : ProcessRequest} {pIndex : Fin 16} {newPage : Fin 32} {paging : PageManager}

lemma Created.liveCount (h : Created L k k' request pIndex newPage paging) : k'.liveCount = k.liveCount + 1 := by
  have hn := h.reserves.slot_new
  have ht := tally_update (liveWeight fun _ => 1) k.processList pIndex
    (((k.processList pIndex).withPages (pageFrameCountNeeded request)).created request.name (L.address newPage)
      (processGenerateNewPid (k.reserve request pIndex paging).processList 16 1))
  rw [← h.processList] at ht
  simpa [Kernel.liveCount, liveWeight, hn, ProcessControlBlock.created] using ht

lemma Created.heldFrames (h : Created L k k' request pIndex newPage paging) :
    k'.heldFrames = k.heldFrames + (pageFrameCountNeeded request).toNat := by
  have hn := h.reserves.slot_new
  have ht := tally_update (liveWeight fun pcb => pcb.pageFrameUsedCount.toNat) k.processList pIndex
    (((k.processList pIndex).withPages (pageFrameCountNeeded request)).created request.name (L.address newPage)
      (processGenerateNewPid (k.reserve request pIndex paging).processList 16 1))
  rw [← h.processList] at ht
  simpa [Kernel.heldFrames, liveWeight, hn, ProcessControlBlock.created, ProcessControlBlock.withPages] using ht

lemma Created.usedDirectories (h : Created L k k' request pIndex newPage paging) :
    k'.paging.usedDirectories = k.paging.usedDirectories + 1 := by
  have hu : paging.usedDirectories = (k.paging.takeDirectory newPage).usedDirectories := by
    rw [PageManager.usedDirectories, h.reserves.pageDirectoryUsed]
    rfl
  rw [h.paging, hu, PageManager.takeDirectory_usedDirectories h.reserves.newPage_unused]

lemma Created.usedFrames (h : Created L k k' request pIndex newPage paging)
    (hf : (pageFrameCountNeeded request).toNat ≤ k.paging.freePageFrameCount) :
    k'.paging.usedFrames = k.paging.usedFrames + (pageFrameCountNeeded request).toNat := by
  have hf' : (pageFrameCountNeeded request).toNat ≤ (k.paging.takeDirectory newPage).freePageFrameCount := hf
  rw [h.paging, (PageManager.allocateUserPages_counts hf' h.reserves.frames).1,
    PageManager.takeDirectory_usedFrames]

end

lemma clearPcb_new (hi : k.state i = .new) (j : Fin 16) : (k.clearPcb i).state j = .new ↔ k.state j = .new := by
  rw [clearPcb_state]
  split_ifs with he
  · exact iff_of_true rfl (he ▸ hi)
  · rfl

lemma clearPcb_live (hi : k.state i = .new) {j : Fin 16} (hj : k.state j ≠ .new) :
    (k.clearPcb i).processList j = k.processList j := by
  have he : j ≠ i := fun he => hj (he ▸ hi)
  exact clearPcb_of_ne he

lemma timer_new (hs : k.Settled) {frame : InterruptFrame} (h : k.handle L (.timer frame) = some (response, k'))
    (i : Fin 16) : k'.state i = .new ↔ k.state i = .new := by
  refine ⟨fun hi => ?_, fun hi => (handle_new hs h hi).resolve_right (by simp)⟩
  by_contra hn
  exact (timer_rescheduled h).live i hn hi

/-! ### The process counter -/

structure Counted (L : Layout) (k : Kernel) : Prop where
  active : k.activeProcessCount = k.liveCount
  exceeded : ∀ fuel fs request, (∃ k', processCreateUserProcess L fuel fs request k =
    some (processCreateFailMaxProcessExceeded, k')) ↔ ∀ i, k.state i ≠ .new

def KeepsSlots (k : Kernel) : Event → Prop
  | .timer _ => True
  | .create _ _ _ => True
  | .kill pid => k.Unheld pid ∨
      ∃ s, k.runningProcessIdx = some s ∧ (k.processList s).pid = pid ∧ ∀ j ≠ s, k.state j ≠ .ready
  | .terminate => ∀ s, k.runningProcessIdx = some s → ∀ j ≠ s, k.state j ≠ .ready

lemma fallback_new (hs : k.Settled) (hr : k.runningProcessIdx = some s) (hn : ∀ j ≠ s, k.state j ≠ .ready)
    (h : (k.clearPcb s).schedulerSwitchToNextProcess = (r, k')) (i : Fin 16) :
    (k'.state i = .new ↔ k.state i = .new) ∧ k'.activeProcessCount = k.activeProcessCount := by
  obtain ⟨-, rfl⟩ := switch_fallback hr hn h
  refine ⟨?_, rfl⟩
  rw [markRunning_state, clearPcb_state]
  split_ifs with he
  · exact iff_of_false (by decide) (by rw [he, hs s hr]; decide)
  · rfl

lemma handle_active (hs : k.Settled) (hk : k.KeepsSlots event) (h : k.handle L event = some (response, k'))
    (ha : k.activeProcessCount = k.liveCount) : k'.activeProcessCount = k'.liveCount := by
  have hsame : (∀ i, k'.state i = .new ↔ k.state i = .new) → k'.activeProcessCount = k.activeProcessCount →
      k'.activeProcessCount = k'.liveCount := fun hn hc => by rw [hc, liveCount_congr hn, ha]
  cases event with
  | timer frame => exact hsame (timer_new hs h) (timer_rescheduled h).activeProcessCount
  | create fuel fs request =>
    obtain ⟨code, -, hc⟩ := createEvent_cases h
    obtain ⟨-, ht⟩ | ⟨-, pIndex, newPage, paging, hcr⟩ := processCreateUserProcess_outcomes hc
    · exact hsame ht.new ht.activeProcessCount
    · rw [hcr.activeProcessCount, hcr.liveCount, ha]
      rfl
  | kill pid =>
    obtain hn | ⟨s, hr, hp, hn⟩ := hk
    · obtain rfl | ⟨i, hi, rfl⟩ := kill_unheld hs hn h
      · exact ha
      · exact hsame (clearPcb_new hi) rfl
    · obtain ⟨code, hk⟩ := killEvent_cases h
      obtain ⟨s', hr', ⟨-, hsw⟩ | ⟨hp', -⟩⟩ := killProcess_cases hk
      · obtain rfl : s = s' := Option.some.inj (hr.symm.trans hr')
        exact hsame (fun i => (fallback_new hs hr hn hsw i).1) (fallback_new hs hr hn hsw s).2
      · obtain rfl : s = s' := Option.some.inj (hr.symm.trans hr')
        exact absurd hp hp'
  | terminate =>
    obtain ⟨s, hr, hsw⟩ := terminateCurrentProcess_cases (terminateEvent_cases h)
    exact hsame (fun i => (fallback_new hs hr (hk s hr) hsw i).1) (fallback_new hs hr (hk s hr) hsw s).2

def newCount (k : Kernel) : ℕ := tally (fun pcb => if pcb.state = .new then 1 else 0) k.processList

lemma liveCount_add_newCount : k.liveCount + k.newCount = 16 := by
  refine tally_add_tally (fun pcb => ?_) k.processList
  by_cases h : pcb.state = .new <;> simp [liveWeight, h]

lemma newCount_eq_zero : k.newCount = 0 ↔ ∀ i, k.state i ≠ .new := by
  rw [newCount, tally_eq_zero_iff]
  simp [state]

lemma exceeded_iff {fuel : ℕ} {fs : FileSystem} {request : ProcessRequest} :
    (∃ k', processCreateUserProcess L fuel fs request k = some (processCreateFailMaxProcessExceeded, k')) ↔
      16 ≤ k.activeProcessCount := by
  constructor
  · rintro ⟨k', h⟩
    exact (processCreateUserProcess_exceeded h).mp rfl
  · intro hle
    exact ⟨k, by rw [processCreateUserProcess, if_pos hle]⟩

lemma counted_of_active (ha : k.activeProcessCount = k.liveCount) : Counted L k := by
  refine ⟨ha, fun fuel fs request => ?_⟩
  have hc := k.liveCount_add_newCount
  rw [exceeded_iff, ha, ← newCount_eq_zero]
  omega

lemma initial_liveCount (L : Layout) (memory : PhysicalMemory) : (initial L memory).liveCount = 0 :=
  tally_eq_zero_iff.mpr fun _ => rfl

lemma Booted.active {memory : PhysicalMemory} (h : Booted L memory k) : k.activeProcessCount = k.liveCount := by
  obtain ⟨fuel, fs, code, k₁, r, hc, hsw⟩ := h.cases
  have hl := switch_rescheduled hsw
  have hnone : k₁.runningProcessIdx = none := (create_states hc).1
  have h₁ : k₁.activeProcessCount = k₁.liveCount := by
    obtain ⟨-, ht⟩ | ⟨-, pIndex, newPage, paging, hcr⟩ := processCreateUserProcess_outcomes hc
    · rw [ht.activeProcessCount, liveCount_congr ht.new, initial_liveCount]
      rfl
    · rw [hcr.activeProcessCount, hcr.liveCount, initial_liveCount]
      rfl
  rw [hl.activeProcessCount, h₁]
  refine congrArg Nat.cast (liveCount_congr fun i => ⟨fun hi => ?_, fun hi => ?_⟩).symm
  · by_contra hn
    exact hl.live i hn hi
  · exact switch_new hsw hi (by rw [hnone]; simp)

theorem process_counter_counted {memory : PhysicalMemory} {k₀ : Kernel} {events : List Event}
    {responses : List Response} (hboot : Booted L memory k₀)
    (hrun : Run (fun k event response k' => Step L k event response k' ∧ k.KeepsSlots event)
      k₀ events responses k) :
    Counted L k := by
  have hi : k.activeProcessCount = k.liveCount ∧ k.Settled := by
    refine hrun.invariant (P := fun k => k.activeProcessCount = k.liveCount ∧ k.Settled) ?_
      ⟨hboot.active, hboot.settled⟩
    rintro k event response k' ⟨ha, hs⟩ ⟨hstep, hk⟩
    refine ⟨?_, hstep.settled hs⟩
    obtain ⟨-, memory, hh⟩ := hstep
    exact handle_active (k := { k with memory := memory }) hs (by cases event <;> exact hk) hh ha
  exact counted_of_active hi.1

lemma liveCount_single (h : ∀ j, j ≠ i → k.state j = .new) (hi : k.state i ≠ .new) : k.liveCount = 1 := by
  have hl : k.liveCount = liveWeight (fun _ => 1) (k.processList i) :=
    tally_eq_single i fun j hj => if_pos (h j hj)
  exact hl.trans (if_neg hi)

theorem process_counter_counted_child : ∃ k₀ k, Booted linked (fun _ => 0) k₀ ∧
    Run (fun k event response k' => Step linked k event response k' ∧ k.KeepsSlots event) k₀
      [.create 2 shellDisk shellRequest] [⟨some processCreateSuccess, .interrupted⟩] k ∧ Counted linked k := by
  obtain ⟨k₀, hboot, hshell⟩ := boot_shellDisk linked fun _ => 0
  obtain ⟨k, hstep, -⟩ := hshell.spawn linked
  have hrun : Run (fun k event response k' => Step linked k event response k' ∧ k.KeepsSlots event) k₀
      [.create 2 shellDisk shellRequest] [⟨some processCreateSuccess, .interrupted⟩] k :=
      .cons ⟨hstep, trivial⟩ .nil
  exact ⟨k₀, k, hboot.booted, hrun, process_counter_counted hboot.booted hrun⟩

theorem process_counter_kept_by_kill : ∃ k₀ k, Booted linked (fun _ => 0) k₀ ∧
    Run (Step linked) k₀ [.create 2 shellDisk shellRequest, .kill 2]
      [⟨some processCreateSuccess, .interrupted⟩, ⟨some 0, .interrupted⟩] k ∧ ¬ Counted linked k := by
  obtain ⟨k₀, hboot, hshell⟩ := boot_shellDisk linked fun _ => 0
  obtain ⟨k₁, hstep, hchild⟩ := hshell.spawn linked
  refine ⟨k₀, k₁.clearPcb 1, hboot.booted, .cons hstep (.cons (hchild.kill linked) .nil), fun hc => ?_⟩
  have hlive : (k₁.clearPcb 1).liveCount = 1 := by
    refine liveCount_single (i := 0) (fun j hj => ?_) ?_
    · rw [clearPcb_state]
      split_ifs with h₁
      · rfl
      · rw [state, hchild.rest j hj h₁]
        rfl
    · rw [clearPcb_state, if_neg (by decide), hchild.shell]
      decide
  have ha : k₁.activeProcessCount = 2 := hchild.active
  have := hc.active
  rw [hlive] at this
  exact absurd (ha.symm.trans this) (by decide)

/-! ### Frames and page directories -/

structure Conserved (k : Kernel) : Prop where
  frames : k.paging.usedFrames = 1 + k.heldFrames
  directories : k.paging.usedDirectories = k.liveCount

inductive Operation
  | interrupt (event : Event)
  | destroy (pid : UInt32)

def Operates (L : Layout) (k : Kernel) (op : Operation) (response : Option Response) (k' : Kernel) : Prop :=
  match op with
  | .interrupt event => ∃ answer, response = some answer ∧ Step L k event answer k' ∧
      ((∃ fuel fs request, event = .create fuel fs request) → answer.code = some processCreateSuccess)
  | .destroy pid => response = none ∧ k' = (k.processDestroy pid).2

def Preserves (k : Kernel) : Operation → Prop
  | .interrupt (.timer _) => True
  | .interrupt (.create _ _ request) => (pageFrameCountNeeded request).toNat ≤ k.paging.freePageFrameCount
  | .interrupt (.kill pid) => k.Unheld pid
  | .interrupt .terminate => False
  | .destroy pid => k.Unheld pid

lemma Conserved.same (h : Conserved k) (hn : ∀ i, k'.state i = .new ↔ k.state i = .new)
    (hp : ∀ i, k.state i ≠ .new → (k'.processList i).pageFrameUsedCount = (k.processList i).pageFrameUsedCount)
    (hpm : k'.paging = k.paging) : Conserved k' :=
  ⟨by rw [hpm, h.frames, heldFrames_congr hn hp], by rw [hpm, h.directories, liveCount_congr hn]⟩

lemma Conserved.clearPcb (h : Conserved k) (hi : k.state i = .new) : Conserved (k.clearPcb i) :=
  h.same (clearPcb_new hi) (fun j hj => by rw [clearPcb_live hi hj]) rfl

lemma Conserved.created (h : Conserved k) {request : ProcessRequest} {pIndex : Fin 16} {newPage : Fin 32}
    {paging : PageManager} (hc : Created L k k' request pIndex newPage paging)
    (hf : (pageFrameCountNeeded request).toNat ≤ k.paging.freePageFrameCount) : Conserved k' := by
  refine ⟨?_, ?_⟩
  · rw [hc.usedFrames hf, hc.heldFrames, h.frames, Nat.add_assoc]
  · rw [hc.usedDirectories, hc.liveCount, h.directories]

lemma Conserved.handle (h : Conserved k) (hs : k.Settled) (hp : k.Preserves (.interrupt event))
    (hok : (∃ fuel fs request, event = .create fuel fs request) → response.code = some processCreateSuccess)
    (hh : k.handle L event = some (response, k')) : Conserved k' := by
  cases event with
  | timer frame =>
    have ht := timer_rescheduled hh
    exact h.same (timer_new hs hh) (fun i _ => ht.pages i) ht.paging
  | create fuel fs request =>
    obtain ⟨code, rfl, hc⟩ := createEvent_cases hh
    obtain ⟨hne, -⟩ | ⟨-, pIndex, newPage, paging, hcr⟩ := processCreateUserProcess_outcomes hc
    · exact absurd (Option.some.inj (hok ⟨fuel, fs, request, rfl⟩)) hne
    · exact h.created hcr hp
  | kill pid =>
    obtain rfl | ⟨i, hi, rfl⟩ := kill_unheld hs hp hh
    · exact h
    · exact h.clearPcb hi
  | terminate => exact hp.elim

lemma processDestroy_unheld {pid : UInt32} (hn : k.Unheld pid) :
    (k.processDestroy pid).2 = k ∨ ∃ i, k.state i = .new ∧ (k.processDestroy pid).2 = k.clearPcb i := by
  cases hf : k.findPid pid with
  | none => exact .inl (by rw [processDestroy, hf, Option.elim_none])
  | some i => exact .inr ⟨i, findPid_unheld hn hf, by rw [processDestroy, hf, Option.elim_some]⟩

lemma clearPcb_settled (hs : k.Settled) (hi : k.state i = .new) : (k.clearPcb i).Settled := by
  intro s hr
  have hrun := hs s hr
  have hne : s ≠ i := fun he => by
    rw [he, hi] at hrun
    cases hrun
  rw [clearPcb_state, if_neg hne, hrun]

lemma Operates.conserved {op : Operation} {answer : Option Response} (ho : Operates L k op answer k')
    (hp : k.Preserves op) (h : Conserved k ∧ k.Settled) : Conserved k' ∧ k'.Settled := by
  cases op with
  | interrupt event =>
    obtain ⟨response, -, hstep, hok⟩ := ho
    refine ⟨?_, hstep.settled h.2⟩
    obtain ⟨-, memory, hh⟩ := hstep
    have hm : Conserved { k with memory := memory } := ⟨h.1.frames, h.1.directories⟩
    exact hm.handle h.2 (by cases event <;> exact hp) hok hh
  | destroy pid =>
    obtain ⟨-, rfl⟩ := ho
    obtain he | ⟨i, hi, he⟩ := processDestroy_unheld hp
    · rw [he]
      exact h
    · rw [he]
      exact ⟨h.1.clearPcb hi, clearPcb_settled h.2 hi⟩

lemma initial_conserved (L : Layout) (memory : PhysicalMemory) : Conserved (initial L memory) where
  frames := by
    have hz : (initial L memory).heldFrames = 0 := tally_eq_zero_iff.mpr fun _ => rfl
    rw [hz]
    exact PageManager.initial_usedFrames
  directories := by
    rw [initial_liveCount]
    exact tally_eq_zero_iff.mpr fun _ => rfl

lemma BootedShell.conserved {memory : PhysicalMemory} (h : BootedShell L memory k) : Conserved k := by
  obtain ⟨fuel, fs, k₁, r, hc, hsw⟩ := h
  obtain ⟨hne, -⟩ | ⟨-, pIndex, newPage, paging, hcr⟩ := processCreateUserProcess_outcomes hc
  · exact absurd rfl hne
  · have hfree : (pageFrameCountNeeded shellRequest).toNat ≤ PageManager.initial.freePageFrameCount := by decide
    have h₁ := (initial_conserved L memory).created hcr hfree
    have hl := switch_rescheduled hsw
    refine h₁.same (fun i => ⟨fun hi => ?_, fun hi => ?_⟩) (fun i _ => hl.pages i) hl.paging
    · by_contra hn
      exact hl.live i hn hi
    · have hnone : k₁.runningProcessIdx = none := hcr.runningProcessIdx
      exact switch_new hsw hi (by rw [hnone]; simp)

theorem resources_conserved {memory : PhysicalMemory} {k₀ : Kernel} {ops : List Operation}
    {answers : List (Option Response)} (hboot : BootedShell L memory k₀)
    (hrun : Run (fun k op answer k' => Operates L k op answer k' ∧ k.Preserves op) k₀ ops answers k) :
    Conserved k := by
  have hi : Conserved k ∧ k.Settled := by
    refine hrun.invariant (P := fun k => Conserved k ∧ k.Settled) ?_ ⟨hboot.conserved, hboot.booted.settled⟩
    rintro k op answer k' h ⟨ho, hp⟩
    exact ho.conserved hp h
  exact hi.1

theorem resources_conserved_child : ∃ k₀ k, BootedShell linked (fun _ => 0) k₀ ∧
    Run (fun k op answer k' => Operates linked k op answer k' ∧ k.Preserves op) k₀
      [.interrupt (.create 2 shellDisk shellRequest)] [some ⟨some processCreateSuccess, .interrupted⟩] k ∧
    Conserved k := by
  obtain ⟨k₀, hboot, hshell⟩ := boot_shellDisk linked fun _ => 0
  obtain ⟨k, hstep, -⟩ := hshell.spawn linked
  have hfree : (pageFrameCountNeeded shellRequest).toNat ≤ k₀.paging.freePageFrameCount := by
    rw [hshell.free]
    decide
  have hrun : Run (fun k op answer k' => Operates linked k op answer k' ∧ k.Preserves op) k₀
      [.interrupt (.create 2 shellDisk shellRequest)] [some ⟨some processCreateSuccess, .interrupted⟩] k :=
    .cons ⟨⟨_, rfl, hstep, fun _ => rfl⟩, hfree⟩ .nil
  exact ⟨k₀, k, hboot, hrun, resources_conserved hboot hrun⟩

theorem resources_lost_by_terminate : ∃ k₀ k, BootedShell linked (fun _ => 0) k₀ ∧
    Run (Operates linked) k₀ [.interrupt .terminate] [some ⟨none, .interrupted⟩] k ∧ ¬ Conserved k := by
  obtain ⟨k₀, hboot, hshell⟩ := boot_shellDisk linked fun _ => 0
  refine ⟨k₀, (k₀.clearPcb 0).markRunning 0, hboot,
    .cons ⟨_, rfl, hshell.terminate linked, fun ⟨_, _, _, he⟩ => nomatch he⟩ .nil, fun hc => ?_⟩
  have hz : ((k₀.clearPcb 0).markRunning 0).heldFrames = 0 := by
    refine tally_eq_zero_iff.mpr fun i => ?_
    by_cases hi : i = 0
    · simp [hi, liveWeight, markRunning, clearPcb, ProcessControlBlock.zero]
    · simp [hi, liveWeight, markRunning, clearPcb, hshell.rest i hi, ProcessControlBlock.zero]
  have hf := hc.frames
  rw [markRunning_paging, clearPcb_paging, hshell.frames, hz] at hf
  exact absurd hf (by decide)

end Semogakelar.Process.Kernel
