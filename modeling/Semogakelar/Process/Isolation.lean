import Semogakelar.Process.Boot

/-! Every process keeps to the address space it was created with, and no two address spaces share a frame. -/

namespace Semogakelar.Memory

variable {L : Layout} {a : UInt32} {d e : Fin 32}

lemma Layout.address_toNat (L : Layout) (d : Fin 32) :
    (L.address d).toNat = L.pageDirectoryList.toNat + 4096 * d.val := by
  have hd : (UInt32.ofNat (4096 * d.val)).toNat = 4096 * d.val := by
    rw [UInt32.toNat_ofNat']
    omega
  have hp := L.pool_fits
  rw [address, UInt32.toNat_add, hd]
  omega

lemma Layout.address_high (L : Layout) (d : Fin 32) : kernelVirtualAddressBase < L.address d := by
  have hp := UInt32.lt_iff_toNat_lt.mp L.pool_high
  rw [UInt32.lt_iff_toNat_lt, L.address_toNat]
  omega

lemma Layout.address_injective (h : L.address d = L.address e) : d = e := by
  have hv := congrArg UInt32.toNat h
  rw [L.address_toNat, L.address_toNat] at hv
  exact Fin.ext (by omega)

lemma pagingGetCurrentPageDirectoryAddr_use (h : kernelVirtualAddressBase < a) :
    pagingGetCurrentPageDirectoryAddr (pagingUsePageDirectory a) = a := by
  rw [pagingGetCurrentPageDirectoryAddr, pagingUsePageDirectory, if_pos h, UInt32.sub_add_cancel]

end Semogakelar.Memory

namespace Semogakelar.Process.Kernel

open Function Memory Fat32 Library

variable {L : Layout} {k k' : Kernel} {s i : Fin 16} {r : Resumption} {event : Event} {response : Response}
  {home : Fin 16 → UInt32}

def savedDirectory (k : Kernel) (i : Fin 16) : UInt32 := (k.processList i).context.pageDirectoryVirtualAddr

def Occupied (k : Kernel) (i : Fin 16) : Prop := k.state i ≠ .new ∨ k.runningProcessIdx = some i

/-- `home i` is the page directory that the process in slot `i` was created with. -/
structure Isolated (L : Layout) (k : Kernel) (home : Fin 16 → UInt32) : Prop where
  sound : k.paging.Sound
  home_used : ∀ i, k.Occupied i → ∃ d, k.paging.pageDirectoryUsed d = true ∧ home i = L.address d
  exclusive : Exclusive fun i p => k.Occupied i ∧ home i = p
  saved : ∀ i, k.Occupied i → k.savedDirectory i = home i ∨ k.savedDirectory i = 0
  ready : ∀ i, k.state i = .ready → k.savedDirectory i = home i
  active : ∀ i, k.runningProcessIdx = some i → k.cr3 = pagingUsePageDirectory (home i)

lemma markRunning_savedDirectory : (k.markRunning s).savedDirectory i = k.savedDirectory i := by
  by_cases hi : i = s <;> simp [savedDirectory, markRunning, hi]

lemma dispatch_savedDirectory : (k.dispatch s).savedDirectory i = k.savedDirectory i := markRunning_savedDirectory

namespace Isolated

lemma memory (h : Isolated L k home) (memory : PhysicalMemory) : Isolated L { k with memory := memory } home :=
  ⟨h.sound, h.home_used, h.exclusive, h.saved, h.ready, h.active⟩

lemma current (h : Isolated L k home) (hs : k.runningProcessIdx = some s) :
    pagingGetCurrentPageDirectoryAddr k.cr3 = home s := by
  obtain ⟨d, -, hd⟩ := h.home_used s (.inr hs)
  rw [h.active s hs, pagingGetCurrentPageDirectoryAddr_use (by rw [hd]; exact L.address_high d)]

lemma of_occupied (h : Isolated L k home) (hp : k'.paging = k.paging) (ho : ∀ i, k'.Occupied i → k.Occupied i)
    (hsaved : ∀ i, k'.Occupied i → k'.savedDirectory i = home i ∨ k'.savedDirectory i = 0)
    (hready : ∀ i, k'.state i = .ready → k'.savedDirectory i = home i)
    (hactive : ∀ i, k'.runningProcessIdx = some i → k'.cr3 = pagingUsePageDirectory (home i)) :
    Isolated L k' home where
  sound := hp ▸ h.sound
  home_used i hi := hp ▸ h.home_used i (ho i hi)
  exclusive := h.exclusive.mono fun i _ hi => ⟨ho i hi.1, hi.2⟩
  saved := hsaved
  ready := hready
  active := hactive

lemma clearPcb (h : Isolated L k home) (j : Fin 16) : Isolated L (k.clearPcb j) home := by
  have ho : ∀ i, (k.clearPcb j).Occupied i → k.Occupied i := by
    rintro i (hi | hi)
    · rw [clearPcb_state] at hi
      split_ifs at hi
      · exact (hi rfl).elim
      · exact .inl hi
    · exact .inr hi
  refine h.of_occupied rfl ho (fun i hi => ?_) (fun i hi => ?_) h.active
  · by_cases hij : i = j
    · exact .inr (by simp [savedDirectory, Kernel.clearPcb, hij, ProcessControlBlock.zero])
    · simpa [savedDirectory, Kernel.clearPcb, hij] using h.saved i (ho i hi)
  · rw [clearPcb_state] at hi
    split_ifs at hi with hij
    simpa [savedDirectory, Kernel.clearPcb, hij] using h.ready i hi

lemma save (h : Isolated L k home) {ctx : Context}
    (hc : ctx.pageDirectoryVirtualAddr = pagingGetCurrentPageDirectoryAddr k.cr3) :
    Isolated L (k.schedulerSaveContextToCurrentRunningPcb ctx) home := by
  cases hr : k.runningProcessIdx with
  | none => simpa [schedulerSaveContextToCurrentRunningPcb, hr] using h
  | some s =>
    have hsaved : ∀ i, (k.schedulerSaveContextToCurrentRunningPcb ctx).savedDirectory i =
        if i = s then home s else k.savedDirectory i := by
      intro i
      by_cases hi : i = s
      · simp [savedDirectory, schedulerSaveContextToCurrentRunningPcb, hr, hi, hc, h.current hr]
      · simp [savedDirectory, schedulerSaveContextToCurrentRunningPcb, hr, hi]
    have ho : ∀ i, (k.schedulerSaveContextToCurrentRunningPcb ctx).Occupied i → k.Occupied i := by
      rintro i (hi | hi)
      · rw [save_state hr] at hi
        split_ifs at hi with hs
        · exact .inr (hs ▸ hr)
        · exact .inl hi
      · exact .inr (by rwa [save_runningProcessIdx] at hi)
    have hp : (k.schedulerSaveContextToCurrentRunningPcb ctx).paging = k.paging := by
      simp [schedulerSaveContextToCurrentRunningPcb, hr]
    have hcr : (k.schedulerSaveContextToCurrentRunningPcb ctx).cr3 = k.cr3 := by
      simp [schedulerSaveContextToCurrentRunningPcb, hr]
    refine h.of_occupied hp ho (fun i hi => ?_) (fun i hi => ?_) (fun i hi => ?_)
    · rw [hsaved]
      split_ifs with hs
      · exact .inl (by rw [hs])
      · exact h.saved i (ho i hi)
    · rw [hsaved]
      rw [save_state hr] at hi
      split_ifs at hi ⊢ with hs
      · rw [hs]
      · exact h.ready i hi
    · rw [hcr]
      exact h.active i (by rwa [save_runningProcessIdx] at hi)

lemma markRunning (h : Isolated L k home) (hs : k.runningProcessIdx = some s) :
    Isolated L (k.markRunning s) home := by
  have ho : ∀ i, (k.markRunning s).Occupied i → k.Occupied i := by
    rintro i (hi | hi)
    · rw [markRunning_state] at hi
      split_ifs at hi with hi'
      · exact .inr (hi' ▸ hs)
      · exact .inl hi
    · exact .inr hi
  refine h.of_occupied rfl ho (fun i hi => ?_) (fun i hi => ?_) h.active
  · rw [markRunning_savedDirectory]
    exact h.saved i (ho i hi)
  · rw [markRunning_state] at hi
    split_ifs at hi
    rw [markRunning_savedDirectory]
    exact h.ready i hi

lemma dispatch (h : Isolated L k home) {j : Fin 16} (hj : k.state j = .ready) :
    Isolated L (k.dispatch j) home := by
  have hlive : k.Occupied j := .inl (by rw [hj]; decide)
  have ho : ∀ i, (k.dispatch j).Occupied i → k.Occupied i := by
    rintro i (hi | hi)
    · rw [dispatch_state] at hi
      split_ifs at hi with hi'
      · exact hi' ▸ hlive
      · exact .inl hi
    · exact Option.some.inj hi ▸ hlive
  refine h.of_occupied rfl ho (fun i hi => ?_) (fun i hi => ?_) (fun i hi => ?_)
  · rw [dispatch_savedDirectory]
    exact h.saved i (ho i hi)
  · rw [dispatch_state] at hi
    split_ifs at hi
    rw [dispatch_savedDirectory]
    exact h.ready i hi
  · obtain rfl : j = i := Option.some.inj hi
    exact congrArg pagingUsePageDirectory (h.ready j hj)

lemma switch (h : Isolated L k home) (hsw : k.schedulerSwitchToNextProcess = (r, k')) : Isolated L k' home := by
  obtain ⟨s, hs, -, -, rfl⟩ | ⟨-, -, rfl⟩ | ⟨j, -, hj, -, rfl⟩ := schedulerSwitchToNextProcess_cases hsw
  · exact h.markRunning hs
  · exact h
  · exact h.dispatch hj

end Isolated

/-! ### Creation -/

section

variable {fuel : ℕ} {fs : FileSystem} {request : ProcessRequest} {code : ℤ} {pIndex : Fin 16} {newPage : Fin 32}
  {paging : PageManager}

lemma reserve_savedDirectory : (k.reserve request pIndex paging).savedDirectory i = k.savedDirectory i := by
  by_cases h : i = pIndex <;> simp [savedDirectory, reserve, ProcessControlBlock.withPages, h]

lemma launch_savedDirectory : (k.launch L request pIndex newPage).savedDirectory i =
    if i = pIndex then L.address newPage else k.savedDirectory i := by
  by_cases h : i = pIndex <;> simp [savedDirectory, launch, ProcessControlBlock.created, h]

namespace Isolated

lemma withCr3 (h : Isolated L k home) {cr3 : UInt32}
    (hc : ∀ i, k.runningProcessIdx = some i → cr3 = pagingUsePageDirectory (home i)) (memory : PhysicalMemory) :
    Isolated L { k with cr3 := cr3, memory := memory } home :=
  ⟨h.sound, h.home_used, h.exclusive, h.saved, h.ready, hc⟩

lemma restore (h : Isolated L k home) (memory : PhysicalMemory) :
    Isolated L { k with
      cr3 := pagingUsePageDirectory (pagingGetCurrentPageDirectoryAddr k.cr3)
      memory := memory } home :=
  h.withCr3 (fun _ hi => congrArg pagingUsePageDirectory (h.current hi)) memory

lemma reserve (h : Isolated L k home) (hr : k.Reserves request pIndex newPage paging) :
    Isolated L (k.reserve request pIndex paging) home := by
  have ho : ∀ i, (k.reserve request pIndex paging).Occupied i → k.Occupied i := by
    rintro i (hi | hi)
    · exact .inl (by rwa [reserve_state] at hi)
    · exact .inr hi
  refine ⟨hr.sound h.sound, fun i hi => ?_, h.exclusive.mono fun i p hi => ⟨ho i hi.1, hi.2⟩, fun i hi => ?_,
    fun i hi => ?_, h.active⟩
  · obtain ⟨d, hd, he⟩ := h.home_used i (ho i hi)
    exact ⟨d, hr.used_mono hd, he⟩
  · rw [reserve_savedDirectory]
    exact h.saved i (ho i hi)
  · rw [reserve_savedDirectory]
    exact h.ready i (by rwa [reserve_state] at hi)

lemma launch (h : Isolated L k home) (hfree : ∀ i, k.Occupied i → home i ≠ L.address newPage)
    (hu : k.paging.pageDirectoryUsed newPage = true) (hp : k.runningProcessIdx ≠ some pIndex) :
    Isolated L (k.launch L request pIndex newPage) (update home pIndex (L.address newPage)) := by
  have ho : ∀ i, i ≠ pIndex → (k.launch L request pIndex newPage).Occupied i → k.Occupied i := by
    rintro i hi (hs | hs)
    · exact .inl (by rwa [launch_state, if_neg hi] at hs)
    · exact .inr hs
  refine ⟨h.sound, fun i hi => ?_, ?_, fun i hi => ?_, fun i hi => ?_, fun i hi => ?_⟩
  · by_cases he : i = pIndex
    · exact ⟨newPage, hu, by rw [he, update_self]⟩
    · rw [update_of_ne he]
      exact h.home_used i (ho i he hi)
  · have hassign : Exclusive (assign (fun i p => k.Occupied i ∧ home i = p) pIndex (L.address newPage)) :=
      h.exclusive.assign fun i hi => hfree i hi.1 hi.2
    refine hassign.mono fun i p hi => ?_
    by_cases he : i = pIndex
    · exact .inl ⟨he, by rw [← hi.2, he, update_self]⟩
    · exact .inr ⟨he, ho i he hi.1, by rw [← hi.2, update_of_ne he]⟩
  · rw [launch_savedDirectory]
    split_ifs with he
    · exact .inl (by rw [he, update_self])
    · rw [update_of_ne he]
      exact h.saved i (ho i he hi)
  · rw [launch_savedDirectory]
    rw [launch_state] at hi
    split_ifs at hi ⊢ with he
    · rw [he, update_self]
    · rw [update_of_ne he]
      exact h.ready i hi
  · have he : i ≠ pIndex := fun he => hp (he ▸ hi)
    rw [update_of_ne he]
    exact h.active i hi

end Isolated

end

/-! ### Runs -/

/-- The page directory of a process is recorded when its slot stops being NEW. -/
def track (k k' : Kernel) (home : Fin 16 → UInt32) (i : Fin 16) : UInt32 :=
  if k.state i = .new ∧ k'.state i ≠ .new then k'.savedDirectory i else home i

lemma track_eq (h : ∀ i, k.state i = .new → k'.state i = .new) : track k k' home = home := by
  funext i
  rw [track, if_neg fun hi => hi.2 (h i hi.1)]

lemma Isolated.create (h : Isolated L k home) (hs : k.Settled) {fuel : ℕ} {fs : FileSystem}
    {request : ProcessRequest} {code : ℤ} (hc : processCreateUserProcess L fuel fs request k = some (code, k')) :
    Isolated L k' (track k k' home) := by
  obtain ⟨-, -, rfl⟩ | ⟨pIndex, newPage, paging, hr, hl⟩ := processCreateUserProcess_cases hc
  · rwa [track_eq fun _ hi => hi]
  · have hres := h.reserve hr
    obtain ⟨-, rfl⟩ | ⟨memory, -, rfl⟩ := loadUserProcess_cases hl
    · rw [track_eq fun i hi => by rw [state_cr3, reserve_state, hi]]
      exact hres.restore k.memory
    · have hnew : k.state pIndex = .new := hr.slot_new
      have hp : k.runningProcessIdx ≠ some pIndex := fun he => by
        have := hs pIndex he
        rw [hnew] at this
        cases this
      have ht : ∀ k' : Kernel, (∀ i, k'.state i = if i = pIndex then .ready else k.state i) →
          k'.savedDirectory pIndex = L.address newPage → track k k' home =
          update home pIndex (L.address newPage) := by
        intro k' hst hsv
        funext i
        rw [track, hst]
        by_cases he : i = pIndex
        · rw [he, if_pos rfl, update_self, if_pos ⟨hnew, by decide⟩, hsv]
        · rw [if_neg he, update_of_ne he, if_neg fun hi => hi.2 hi.1]
      rw [ht]
      · refine (hres.restore memory).launch (fun i hi he => ?_) ?_ hp
        · have ho : k.Occupied i := hi.imp (fun hi => by rwa [state_cr3_memory, reserve_state] at hi) id
          obtain ⟨d, hd, hd'⟩ := h.home_used i ho
          rw [Layout.address_injective (hd'.symm.trans he), hr.newPage_unused] at hd
          cases hd
        · exact (congrFun hr.pageDirectoryUsed newPage).trans (update_self ..)
      · intro i
        rw [launch_state, state_cr3_memory, reserve_state]
      · rw [launch_savedDirectory, if_pos rfl]

lemma Isolated.handle (h : Isolated L k home) (hs : k.Settled) (hh : k.handle L event = some (response, k')) :
    Isolated L k' (track k k' home) := by
  cases event with
  | create fuel fs request =>
    obtain ⟨code, -, hc⟩ := createEvent_cases hh
    exact h.create hs hc
  | timer frame =>
    rw [track_eq fun i hi => (handle_new hs hh hi).resolve_right (by simp)]
    have hsw := timerInterrupt_cases hh
    refine Isolated.switch ?_ hsw
    exact h.save rfl
  | kill pid =>
    rw [track_eq fun i hi => (handle_new hs hh hi).resolve_right (by simp)]
    obtain ⟨code, hk⟩ := killEvent_cases hh
    obtain ⟨s, -, ⟨-, hsw⟩ | ⟨-, -, ⟨-, rfl⟩ | ⟨i, -, rfl⟩⟩⟩ := killProcess_cases hk
    · exact (h.clearPcb s).switch hsw
    · exact h
    · exact h.clearPcb i
  | terminate =>
    rw [track_eq fun i hi => (handle_new hs hh hi).resolve_right (by simp)]
    obtain ⟨s, -, hsw⟩ := terminateCurrentProcess_cases (terminateEvent_cases hh)
    exact (h.clearPcb s).switch hsw

lemma initial_isolated (L : Layout) (memory : PhysicalMemory) (home : Fin 16 → UInt32) :
    Isolated L (initial L memory) home := by
  have ho : ∀ i, ¬ (initial L memory).Occupied i := fun i hi => hi.elim (fun hi => hi rfl) (by simp [initial])
  exact ⟨PageManager.initial_sound, fun i hi => (ho i hi).elim, fun i _ _ hi => (ho i hi.1).elim,
    fun i hi => (ho i hi).elim, fun i hi => (ho i (.inl (hi ▸ by decide))).elim, by simp [initial]⟩

lemma Booted.isolated {memory : PhysicalMemory} (h : Booted L memory k) (home : Fin 16 → UInt32) :
    Isolated L k (track (initial L memory) k home) := by
  obtain ⟨fuel, fs, code, k₁, r, hc, hsw⟩ := h.cases
  have h₁ := (initial_isolated L memory home).create (fun s hs => nomatch hs) hc
  have hrun : k₁.runningProcessIdx = none := (create_states hc).1
  obtain ⟨s, hs, -⟩ | ⟨-, -, rfl⟩ | ⟨j, -, hj, -, rfl⟩ := schedulerSwitchToNextProcess_cases hsw
  · rw [hrun] at hs
    cases hs
  · exact h₁
  · have ht : track (initial L memory) (k₁.dispatch j) home = track (initial L memory) k₁ home := by
      funext i
      rw [track, track, dispatch_savedDirectory, dispatch_state]
      by_cases hi : i = j
      · simp [hi, hj]
      · rw [if_neg hi]
    rw [ht]
    exact h₁.dispatch hj

def TracedStep (L : Layout) (x : Kernel × (Fin 16 → UInt32)) (event : Event) (response : Response)
    (y : Kernel × (Fin 16 → UInt32)) : Prop :=
  Step L x.1 event response y.1 ∧ y.2 = track x.1 y.1 x.2

lemma TracedStep.isolated {x y : Kernel × (Fin 16 → UInt32)} (h : TracedStep L x event response y)
    (hx : Isolated L x.1 x.2 ∧ x.1.Settled) : Isolated L y.1 y.2 ∧ y.1.Settled := by
  obtain ⟨hstep, ht⟩ := h
  refine ⟨?_, hstep.settled hx.2⟩
  obtain ⟨-, memory, hh⟩ := hstep
  rw [ht]
  exact (hx.1.memory memory).handle hx.2 hh

structure Separated (L : Layout) (k : Kernel) (home : Fin 16 → UInt32) : Prop where
  directories : ∀ i j, i ≠ j → k.state i ≠ .new → k.state j ≠ .new → k.savedDirectory i ≠ 0 →
    k.savedDirectory j ≠ 0 → k.savedDirectory i ≠ k.savedDirectory j
  frames : ∀ d e p q f, k.paging.pageDirectoryUsed d = true → k.paging.pageDirectoryUsed e = true →
    k.paging.Maps (d, p) f → k.paging.Maps (e, q) f → d = e ∧ p = q
  user : ∀ d p f, k.paging.pageDirectoryUsed d = true → k.paging.Maps (d, p) f → f ≠ 0
  kernel : ∀ d, k.paging.pageDirectoryUsed d = true →
    (k.paging.pageDirectoryList d kernelPage).flag.presentBit = true ∧
      (k.paging.pageDirectoryList d kernelPage).flag.userSupervisorBit = false ∧
      (k.paging.pageDirectoryList d kernelPage).lowerAddress = 0
  active : ∀ i, k.runningProcessIdx = some i →
    (∃ d, k.paging.pageDirectoryUsed d = true ∧ home i = L.address d) ∧
      k.cr3 = pagingUsePageDirectory (home i) ∧ pagingGetCurrentPageDirectoryAddr k.cr3 = home i

lemma Isolated.separated (h : Isolated L k home) : Separated L k home where
  directories := by
    intro i j hij hi hj hi₀ hj₀ he
    have hhi := (h.saved i (.inl hi)).resolve_right hi₀
    have hhj := (h.saved j (.inl hj)).resolve_right hj₀
    exact hij (h.exclusive i j _ ⟨.inl hi, hhi.symm⟩ ⟨.inl hj, hhj.symm.trans he.symm⟩)
  frames := by
    intro d e p q f _ _ hp hq
    exact Prod.mk.inj (h.sound.exclusive _ _ f hp hq)
  user := by
    intro d p f _ hf hf₀
    obtain ⟨i, hi, hi₀, -⟩ := h.sound.marked _ _ hf
    exact hi₀ (Fin.ext (hi.symm.trans (congrArg Fin.val hf₀)))
  kernel := by
    intro d hd
    rw [h.sound.kernelEntry d hd]
    exact ⟨rfl, rfl, rfl⟩
  active := fun i hi => ⟨h.home_used i (.inr hi), h.active i hi, h.current hi⟩

theorem address_spaces_separated {memory : PhysicalMemory} {k₀ : Kernel} {events : List Event}
    {responses : List Response} (hboot : Booted L memory k₀)
    (hrun : Run (TracedStep L) (k₀, track (initial L memory) k₀ fun _ => 0) events responses (k, home)) :
    Separated L k home := by
  have hi : Isolated L k home ∧ k.Settled :=
    hrun.invariant (P := fun x => Isolated L x.1 x.2 ∧ x.1.Settled)
      (fun _ _ _ _ hx hstep => TracedStep.isolated hstep hx) ⟨hboot.isolated _, hboot.settled⟩
  exact hi.1.separated

theorem address_spaces_separated_child : ∃ k₀ k home, Booted linked (fun _ => 0) k₀ ∧
    Run (TracedStep linked) (k₀, track (initial linked fun _ => 0) k₀ fun _ => 0)
      [.create 2 shellDisk shellRequest] [⟨some processCreateSuccess, .interrupted⟩] (k, home) ∧
    Separated linked k home := by
  obtain ⟨k₀, hboot, hshell⟩ := boot_shellDisk linked fun _ => 0
  obtain ⟨k, hstep, -⟩ := hshell.spawn linked
  have hrun : Run (TracedStep linked) (k₀, track (initial linked fun _ => 0) k₀ fun _ => 0)
      [.create 2 shellDisk shellRequest] [⟨some processCreateSuccess, .interrupted⟩]
      (k, track k₀ k (track (initial linked fun _ => 0) k₀ fun _ => 0)) := .cons ⟨hstep, rfl⟩ .nil
  exact ⟨k₀, k, _, hboot.booted, hrun, address_spaces_separated hboot.booted hrun⟩

end Semogakelar.Process.Kernel
