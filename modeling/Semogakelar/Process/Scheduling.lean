import Semogakelar.Process.Creation

/-! The round-robin search and what an interrupt can do to the process table. -/

namespace Semogakelar.Process.Kernel

open Function Memory Fat32

variable {L : Layout} {k k' : Kernel} {s i : Fin 16} {r : Resumption} {event : Event}
  {response : Response}

def state (k : Kernel) (i : Fin 16) : ProcessState := (k.processList i).state

lemma searchReady_some (processList : Fin 16 → ProcessControlBlock) {n m : ℕ} {x : Fin 16} (hm : m < n)
    (hm' : m < 16) (hx : (x.val + m) % 16 = s.val) :
    0 < (searchReady processList (some s) n x).2 ∧
      ((searchReady processList (some s) n x).1 ≠ s →
        (processList (searchReady processList (some s) n x).1).state = .ready) ∧
      ((searchReady processList (some s) n x).1 = s →
        ∀ l < m, ∀ j : Fin 16, j.val = (x.val + l) % 16 → (processList j).state ≠ .ready) := by
  induction n generalizing m x with
  | zero => omega
  | succ n ih =>
    rw [searchReady]
    split_ifs with hc
    · refine ⟨Nat.succ_pos n, fun hne => ?_, fun he l hl => ?_⟩
      · exact hc.resolve_left fun he => hne (Option.some.inj he)
      · have hv : x.val = s.val := congrArg Fin.val he
        omega
    · obtain ⟨hne, hnr⟩ := not_or.mp hc
      have hv : x.val ≠ s.val := fun hv => hne (congrArg some (Fin.ext hv))
      have hm₀ : m ≠ 0 := by
        rintro rfl
        omega
      have hx₁ : (x + 1).val = (x.val + 1) % 16 := by
        rw [Fin.val_add]
        rfl
      obtain ⟨hpos, hready, hnone⟩ := ih (m := m - 1) (x := x + 1) (by omega) (by omega) (by omega)
      refine ⟨hpos, hready, fun he l hl j hj => ?_⟩
      cases l with
      | zero =>
        have hjx : j = x := Fin.ext (by omega)
        exact hjx ▸ hnr
      | succ l => exact hnone he l (by omega) j (by omega)

lemma searchReady_none {processList : Fin 16 → ProcessControlBlock} {n : ℕ} {x : Fin 16}
    (h : (searchReady processList none n x).2 ≠ 0) :
    (processList (searchReady processList none n x).1).state = .ready := by
  induction n generalizing x with
  | zero => exact absurd rfl h
  | succ n ih =>
    by_cases hc : some x = none ∨ (processList x).state = .ready
    · rw [searchReady, if_pos hc]
      exact hc.resolve_left (Option.some_ne_none x)
    · rw [searchReady, if_neg hc] at h ⊢
      exact ih h

lemma schedulerSwitchToNextProcess_cases (h : k.schedulerSwitchToNextProcess = (r, k')) :
    (∃ s, k.runningProcessIdx = some s ∧ (∀ j ≠ s, k.state j ≠ .ready) ∧ r = .interrupted ∧ k' = k.markRunning s) ∨
      (k.runningProcessIdx = none ∧ r = .interrupted ∧ k' = k) ∨
      ∃ j, k.runningProcessIdx ≠ some j ∧ k.state j = .ready ∧ r = .switched j (k.processList j).context ∧
        k' = k.dispatch j := by
  unfold schedulerSwitchToNextProcess at h
  cases hr : k.runningProcessIdx with
  | none =>
    simp only [hr] at h
    rw [if_neg (Option.some_ne_none _)] at h
    split_ifs at h with h₀
    · obtain ⟨rfl, rfl⟩ := Prod.mk.inj h
      exact .inr (.inl ⟨rfl, rfl, rfl⟩)
    · obtain ⟨rfl, rfl⟩ := Prod.mk.inj h
      exact .inr (.inr ⟨_, by simp, searchReady_none h₀, rfl, rfl⟩)
  | some s =>
    have hx : ((s + 1).val + 15) % 16 = s.val := by
      rw [Fin.val_add]
      change ((s.val + 1) % 16 + 15) % 16 = s.val
      omega
    obtain ⟨hpos, hready, hnone⟩ := searchReady_some k.processList (n := 16) (by decide) (by decide) hx
    simp only [hr] at h
    split_ifs at h with h₁ h₂
    · obtain ⟨rfl, rfl⟩ := Prod.mk.inj h
      have he := Option.some.inj h₁
      refine .inl ⟨s, rfl, fun j hj => ?_, rfl, by rw [he]⟩
      have hv := Fin.val_ne_of_ne hj
      refine hnone he ((j.val + 15 - s.val) % 16) ?_ j ?_
      · omega
      · rw [Fin.val_add]
        change j.val = ((s.val + 1) % 16 + (j.val + 15 - s.val) % 16) % 16
        omega
    · omega
    · obtain ⟨rfl, rfl⟩ := Prod.mk.inj h
      exact .inr (.inr ⟨_, fun he => h₁ he.symm, hready fun he => h₁ (congrArg some he), rfl, rfl⟩)

lemma terminateCurrentProcess_cases (h : k.terminateCurrentProcess = some (r, k')) :
    ∃ s, k.runningProcessIdx = some s ∧ (k.clearPcb s).schedulerSwitchToNextProcess = (r, k') := by
  obtain ⟨s, hs, h⟩ := Option.map_eq_some_iff.mp h
  exact ⟨s, hs, h⟩

lemma findPid_eq_some {pid : UInt32} (h : k.findPid pid = some i) : (k.processList i).pid = pid := by
  have hi := (Fin.find?_eq_some_iff.mp h).1
  simpa using hi

lemma findPid_eq_none {pid : UInt32} (h : k.findPid pid = none) (i : Fin 16) : (k.processList i).pid ≠ pid := by
  have hi := Fin.find?_eq_none_iff.mp h i
  simpa using hi

lemma killProcess_cases {pid : UInt32} {code : ℤ} (h : k.killProcess pid = some (code, r, k')) :
    ∃ s, k.runningProcessIdx = some s ∧
      (((k.processList s).pid = pid ∧ (k.clearPcb s).schedulerSwitchToNextProcess = (r, k')) ∨
        ((k.processList s).pid ≠ pid ∧ r = .interrupted ∧
          ((k.findPid pid = none ∧ k' = k) ∨ ∃ i, k.findPid pid = some i ∧ k' = k.clearPcb i))) := by
  obtain ⟨s, hs, h⟩ := Option.bind_eq_some_iff.mp h
  refine ⟨s, hs, ?_⟩
  split_ifs at h with hp
  · obtain ⟨⟨r₁, k₁⟩, ht, he⟩ := Option.map_eq_some_iff.mp h
    obtain ⟨-, rfl, rfl⟩ := by simpa using he
    obtain ⟨s', hs', ht⟩ := terminateCurrentProcess_cases ht
    obtain rfl := Option.some.inj (hs.symm.trans hs')
    exact .inl ⟨hp, ht⟩
  · refine .inr ⟨hp, ?_⟩
    cases hf : k.findPid pid with
    | none =>
      rw [hf] at h
      obtain ⟨-, rfl, rfl⟩ := by simpa using h
      exact ⟨rfl, .inl ⟨rfl, rfl⟩⟩
    | some i =>
      rw [hf] at h
      obtain ⟨-, rfl, rfl⟩ := by simpa using h
      exact ⟨rfl, .inr ⟨i, rfl, rfl⟩⟩

/-! ### The state of a slot -/

@[simp] lemma markRunning_paging : (k.markRunning s).paging = k.paging := rfl

@[simp] lemma dispatch_paging : (k.dispatch s).paging = k.paging := rfl

@[simp] lemma clearPcb_paging : (k.clearPcb s).paging = k.paging := rfl

lemma state_cr3 (k : Kernel) (cr3 : UInt32) : { k with cr3 := cr3 }.state i = k.state i := rfl

lemma state_cr3_memory (k : Kernel) (cr3 : UInt32) (memory : PhysicalMemory) :
    { k with cr3 := cr3, memory := memory }.state i = k.state i := rfl

@[simp] lemma markRunning_state : (k.markRunning s).state i = if i = s then .running else k.state i := by
  by_cases h : i = s <;> simp [state, markRunning, h]

@[simp] lemma dispatch_state : (k.dispatch s).state i = if i = s then .running else k.state i :=
  markRunning_state

@[simp] lemma clearPcb_state : (k.clearPcb s).state i = if i = s then .new else k.state i := by
  by_cases h : i = s <;> simp [state, clearPcb, h, ProcessControlBlock.zero]

lemma clearPcb_of_ne (h : i ≠ s) : (k.clearPcb s).processList i = k.processList i := update_of_ne h ..

@[simp] lemma reserve_state {request : ProcessRequest} {paging : PageManager} :
    (k.reserve request s paging).state i = k.state i := by
  by_cases h : i = s <;> simp [state, reserve, h, ProcessControlBlock.withPages]

@[simp] lemma launch_state {request : ProcessRequest} {newPage : Fin 32} :
    (k.launch L request s newPage).state i = if i = s then .ready else k.state i := by
  by_cases h : i = s <;> simp [state, launch, h, ProcessControlBlock.created]

lemma save_state {ctx : Context} (h : k.runningProcessIdx = some s) :
    (k.schedulerSaveContextToCurrentRunningPcb ctx).state i = if i = s then .ready else k.state i := by
  by_cases hi : i = s <;> simp [state, schedulerSaveContextToCurrentRunningPcb, h, hi]

lemma save_runningProcessIdx {ctx : Context} :
    (k.schedulerSaveContextToCurrentRunningPcb ctx).runningProcessIdx = k.runningProcessIdx := by
  cases h : k.runningProcessIdx <;> simp [schedulerSaveContextToCurrentRunningPcb, h]

def Settled (k : Kernel) : Prop := ∀ s, k.runningProcessIdx = some s → k.state s = .running

lemma switch_settled (h : k.schedulerSwitchToNextProcess = (r, k')) : k'.Settled := by
  intro s hs
  obtain ⟨s', hs', -, -, rfl⟩ | ⟨hn, -, rfl⟩ | ⟨j, -, -, -, rfl⟩ := schedulerSwitchToNextProcess_cases h
  · obtain rfl : s = s' := Option.some.inj (hs.symm.trans hs')
    simp
  · simp [hn] at hs
  · obtain rfl : j = s := Option.some.inj hs
    simp

lemma create_states {fuel : ℕ} {fs : FileSystem} {request : ProcessRequest} {code : ℤ}
    (h : processCreateUserProcess L fuel fs request k = some (code, k')) :
    k'.runningProcessIdx = k.runningProcessIdx ∧
      ((∀ i, k'.state i = k.state i) ∨ code = processCreateSuccess ∧ ∃ pIndex newPage paging,
        k.Reserves request pIndex newPage paging ∧ ∀ i, k'.state i = if i =
        pIndex then .ready else k.state i) := by
  obtain ⟨-, -, rfl⟩ | ⟨pIndex, newPage, paging, hr, hl⟩ := processCreateUserProcess_cases h
  · exact ⟨rfl, .inl fun _ => rfl⟩
  · have hres : ∀ i, (k.reserve request pIndex paging).state i = k.state i := fun _ => reserve_state
    obtain ⟨-, rfl⟩ | ⟨memory, rfl, rfl⟩ := loadUserProcess_cases hl
    · refine ⟨rfl, .inl fun i => ?_⟩
      rw [state_cr3, hres]
    · refine ⟨rfl, .inr ⟨rfl, pIndex, newPage, paging, hr, fun i => ?_⟩⟩
      rw [launch_state, state_cr3_memory, hres]

lemma timerInterrupt_cases {frame : InterruptFrame} (h : k.handle L (.timer frame) = some (response, k')) :
    (k.schedulerSaveContextToCurrentRunningPcb
      ⟨frame.cpu, frame.eip, frame.eflags, pagingGetCurrentPageDirectoryAddr k.cr3⟩).schedulerSwitchToNextProcess =
      (response.resumption, k') := by
  obtain ⟨rfl, rfl⟩ := Prod.mk.inj (Option.some.inj h)
  rfl

lemma createEvent_cases {fuel : ℕ} {fs : FileSystem} {request : ProcessRequest}
    (h : k.handle L (.create fuel fs request) = some (response, k')) :
    ∃ code, response = ⟨some code, .interrupted⟩ ∧ processCreateUserProcess L fuel fs request k =
    some (code, k') := by
  obtain ⟨⟨code, k₁⟩, hc, he⟩ := Option.map_eq_some_iff.mp h
  obtain ⟨rfl, rfl⟩ := Prod.mk.inj he
  exact ⟨code, rfl, hc⟩

lemma killEvent_cases {pid : UInt32} (h : k.handle L (.kill pid) = some (response, k')) :
    ∃ code, k.killProcess pid = some (code, response.resumption, k') := by
  obtain ⟨⟨code, r, k₁⟩, hc, he⟩ := Option.map_eq_some_iff.mp h
  obtain ⟨rfl, rfl⟩ := Prod.mk.inj he
  exact ⟨code, hc⟩

lemma terminateEvent_cases (h : k.handle L .terminate = some (response, k')) :
    k.terminateCurrentProcess = some (response.resumption, k') := by
  obtain ⟨⟨r, k₁⟩, hc, he⟩ := Option.map_eq_some_iff.mp h
  obtain ⟨rfl, rfl⟩ := Prod.mk.inj he
  exact hc

lemma handle_settled (hs : k.Settled) (h : k.handle L event = some (response, k')) : k'.Settled := by
  cases event with
  | timer frame => exact switch_settled (timerInterrupt_cases h)
  | create fuel fs request =>
    obtain ⟨code, -, hc⟩ := createEvent_cases h
    obtain ⟨hr, hst⟩ := create_states hc
    intro s hs'
    rw [hr] at hs'
    have hrun := hs s hs'
    obtain hst | ⟨-, pIndex, newPage, paging, hres, hst⟩ := hst
    · rw [hst, hrun]
    · have hne : s ≠ pIndex := fun he => by
        have hnew := hres.slot_new
        rw [← he, show (k.processList s).state = .running from hrun] at hnew
        cases hnew
      rw [hst, if_neg hne, hrun]
  | kill pid =>
    obtain ⟨code, hk⟩ := killEvent_cases h
    obtain ⟨s, hrun, ⟨-, hsw⟩ | ⟨hp, -, ⟨-, rfl⟩ | ⟨i, hi, rfl⟩⟩⟩ := killProcess_cases hk
    · exact switch_settled hsw
    · exact hs
    · intro s' hs'
      obtain rfl : s = s' := Option.some.inj (hrun.symm.trans hs')
      have hne : s ≠ i := fun he => hp (he ▸ findPid_eq_some hi)
      rw [clearPcb_state, if_neg hne, hs s hrun]
  | terminate =>
    obtain ⟨s, -, hsw⟩ := terminateCurrentProcess_cases (terminateEvent_cases h)
    exact switch_settled hsw

lemma switch_new (h : k.schedulerSwitchToNextProcess = (r, k')) (hi : k.state i = .new)
    (hrun : k.runningProcessIdx ≠ some i) : k'.state i = .new := by
  obtain ⟨s, hs, -, -, rfl⟩ | ⟨-, -, rfl⟩ | ⟨j, -, hj, -, rfl⟩ := schedulerSwitchToNextProcess_cases h
  · have hne : i ≠ s := fun he => hrun (he ▸ hs)
    rw [markRunning_state, if_neg hne, hi]
  · exact hi
  · have hne : i ≠ j := fun he => by
      rw [← he, hi] at hj
      cases hj
    rw [dispatch_state, if_neg hne, hi]

lemma handle_new (hs : k.Settled) (h : k.handle L event = some (response, k')) (hi : k.state i = .new) :
    k'.state i = .new ∨ ∃ fuel fs request newPage paging, event = .create fuel fs request ∧
      response.code = some processCreateSuccess ∧ k.Reserves request i newPage paging := by
  have hrun : k.runningProcessIdx ≠ some i := fun he => by
    have := hs i he
    rw [hi] at this
    cases this
  cases event with
  | timer frame =>
    refine .inl (switch_new (timerInterrupt_cases h) ?_ (by rwa [save_runningProcessIdx]))
    cases hr : k.runningProcessIdx with
    | none => simpa [schedulerSaveContextToCurrentRunningPcb, hr] using hi
    | some s =>
      have hne : i ≠ s := fun he => hrun (he ▸ hr)
      rw [save_state hr, if_neg hne, hi]
  | create fuel fs request =>
    obtain ⟨code, rfl, hc⟩ := createEvent_cases h
    obtain ⟨-, hst | ⟨rfl, pIndex, newPage, paging, hres, hst⟩⟩ := create_states hc
    · exact .inl ((hst i).trans hi)
    · by_cases he : i = pIndex
      · subst he
        exact .inr ⟨fuel, fs, request, newPage, paging, rfl, rfl, hres⟩
      · exact .inl (by rw [hst, if_neg he, hi])
  | kill pid =>
    obtain ⟨code, hk⟩ := killEvent_cases h
    obtain ⟨s, hs', ⟨-, hsw⟩ | ⟨hp, -, ⟨-, rfl⟩ | ⟨j, hj, rfl⟩⟩⟩ := killProcess_cases hk
    · have hne : i ≠ s := fun he => hrun (he ▸ hs')
      exact .inl (switch_new hsw (by rw [clearPcb_state, if_neg hne, hi]) hrun)
    · exact .inl hi
    · exact .inl (by rw [clearPcb_state]; split_ifs <;> [rfl; exact hi])
  | terminate =>
    obtain ⟨s, hs', hsw⟩ := terminateCurrentProcess_cases (terminateEvent_cases h)
    have hne : i ≠ s := fun he => hrun (he ▸ hs')
    exact .inl (switch_new hsw (by rw [clearPcb_state, if_neg hne, hi]) hrun)

lemma switch_fallback (hs : k.runningProcessIdx = some s) (hn : ∀ j ≠ s, k.state j ≠ .ready)
    (h : (k.clearPcb s).schedulerSwitchToNextProcess = (r, k')) :
    r = .interrupted ∧ k' = (k.clearPcb s).markRunning s := by
  obtain ⟨s', hs', -, rfl, rfl⟩ | ⟨hn', -⟩ | ⟨j, -, hj, -⟩ := schedulerSwitchToNextProcess_cases h
  · obtain rfl : s = s' := Option.some.inj (hs.symm.trans hs')
    exact ⟨rfl, rfl⟩
  · exact absurd (hs.symm.trans hn') (Option.some_ne_none s)
  · rw [clearPcb_state] at hj
    split_ifs at hj with he
    exact absurd hj (hn j he)

lemma switch_away (hs : k.runningProcessIdx = some s) (hn : ∃ j ≠ s, k.state j = .ready)
    (h : (k.clearPcb s).schedulerSwitchToNextProcess = (r, k')) :
    ∃ j ≠ s, k.state j = .ready ∧ r = .switched j (k.processList j).context ∧ k' = (k.clearPcb s).dispatch j := by
  obtain ⟨s', hs', hnone, -⟩ | ⟨hn', -⟩ | ⟨j, -, hj, rfl, rfl⟩ := schedulerSwitchToNextProcess_cases h
  · obtain rfl : s = s' := Option.some.inj (hs.symm.trans hs')
    obtain ⟨j, hjs, hj⟩ := hn
    exact absurd (by rw [clearPcb_state, if_neg hjs, hj]) (hnone j hjs)
  · exact absurd (hs.symm.trans hn') (Option.some_ne_none s)
  · rw [clearPcb_state] at hj
    split_ifs at hj with he
    exact ⟨j, he, hj, by rw [clearPcb_of_ne he], rfl⟩

def Unheld (k : Kernel) (pid : UInt32) : Prop := ∀ i, k.state i ≠ .new → (k.processList i).pid ≠ pid

lemma findPid_unheld {pid : UInt32} (hn : k.Unheld pid) (h : k.findPid pid = some i) : k.state i = .new := by
  by_contra hi
  exact hn i hi (findPid_eq_some h)

lemma kill_unheld {pid : UInt32} (hs : k.Settled) (hn : k.Unheld pid)
    (h : k.handle L (.kill pid) = some (response, k')) : k' = k ∨ ∃ i, k.state i = .new ∧ k' = k.clearPcb i := by
  obtain ⟨code, hk⟩ := killEvent_cases h
  obtain ⟨s, hrun, ⟨hp, -⟩ | ⟨-, -, ⟨-, rfl⟩ | ⟨i, hi, rfl⟩⟩⟩ := killProcess_cases hk
  · exact absurd hp (hn s (by rw [hs s hrun]; decide))
  · exact .inl rfl
  · exact .inr ⟨i, findPid_unheld hn hi, rfl⟩

/-! ### What scheduling leaves alone -/

structure Rescheduled (k k' : Kernel) : Prop where
  pid : ∀ i, (k'.processList i).pid = (k.processList i).pid
  pages : ∀ i, (k'.processList i).pageFrameUsedCount = (k.processList i).pageFrameUsedCount
  activeProcessCount : k'.activeProcessCount = k.activeProcessCount
  paging : k'.paging = k.paging
  live : ∀ i, k.state i ≠ .new → k'.state i ≠ .new

lemma Rescheduled.trans {k'' : Kernel} (h : Rescheduled k k') (h' : Rescheduled k' k'') : Rescheduled k k'' :=
  ⟨fun i => (h'.pid i).trans (h.pid i), fun i => (h'.pages i).trans (h.pages i),
    h'.activeProcessCount.trans h.activeProcessCount, h'.paging.trans h.paging, fun i hi =>
    h'.live i (h.live i hi)⟩

lemma markRunning_rescheduled : Rescheduled k (k.markRunning s) := by
  refine ⟨fun i => ?_, fun i => ?_, rfl, rfl, fun i hi => ?_⟩
  · by_cases h : i = s <;> simp [markRunning, h]
  · by_cases h : i = s <;> simp [markRunning, h]
  · rw [markRunning_state]
    split_ifs
    · decide
    · exact hi

lemma dispatch_rescheduled : Rescheduled k (k.dispatch s) :=
  ⟨markRunning_rescheduled.pid, markRunning_rescheduled.pages, rfl, rfl, markRunning_rescheduled.live⟩

lemma save_rescheduled {ctx : Context} : Rescheduled k (k.schedulerSaveContextToCurrentRunningPcb ctx) := by
  cases hr : k.runningProcessIdx with
  | none =>
    rw [schedulerSaveContextToCurrentRunningPcb, hr]
    exact ⟨fun _ => rfl, fun _ => rfl, rfl, rfl, fun _ hi => hi⟩
  | some s =>
    refine ⟨fun i => ?_, fun i => ?_, ?_, ?_, fun i hi => ?_⟩
    · by_cases h : i = s <;> simp [schedulerSaveContextToCurrentRunningPcb, hr, h]
    · by_cases h : i = s <;> simp [schedulerSaveContextToCurrentRunningPcb, hr, h]
    · simp [schedulerSaveContextToCurrentRunningPcb, hr]
    · simp [schedulerSaveContextToCurrentRunningPcb, hr]
    · rw [save_state hr]
      split_ifs
      · decide
      · exact hi

lemma switch_rescheduled (h : k.schedulerSwitchToNextProcess = (r, k')) : Rescheduled k k' := by
  obtain ⟨s, -, -, -, rfl⟩ | ⟨-, -, rfl⟩ | ⟨j, -, -, -, rfl⟩ := schedulerSwitchToNextProcess_cases h
  · exact markRunning_rescheduled
  · exact ⟨fun _ => rfl, fun _ => rfl, rfl, rfl, fun _ hi => hi⟩
  · exact dispatch_rescheduled

lemma timer_rescheduled {frame : InterruptFrame} (h : k.handle L (.timer frame) = some (response, k')) :
    Rescheduled k k' :=
  save_rescheduled.trans (switch_rescheduled (timerInterrupt_cases h))

lemma Booted.cases {memory : PhysicalMemory} (h : Booted L memory k) : ∃ fuel fs code k₁ r,
    processCreateUserProcess L fuel fs shellRequest (initial L memory) = some (code, k₁) ∧
      k₁.schedulerSwitchToNextProcess = (r, k) := by
  obtain ⟨fuel, fs, r, h⟩ := h
  obtain ⟨⟨code, k₁⟩, hc, hsw⟩ := Option.map_eq_some_iff.mp h
  exact ⟨fuel, fs, code, k₁, r, hc, hsw⟩

lemma Booted.settled {memory : PhysicalMemory} (h : Booted L memory k) : k.Settled := by
  obtain ⟨fuel, fs, code, k₁, r, -, hsw⟩ := h.cases
  exact switch_settled hsw

def BootedShell (L : Layout) (memory : PhysicalMemory) (k : Kernel) : Prop := ∃ fuel fs k₁ r,
  processCreateUserProcess L fuel fs shellRequest (initial L memory) = some (processCreateSuccess, k₁) ∧
    k₁.schedulerSwitchToNextProcess = (r, k)

lemma BootedShell.booted {memory : PhysicalMemory} (h : BootedShell L memory k) : Booted L memory k := by
  obtain ⟨fuel, fs, k₁, r, hc, hsw⟩ := h
  exact ⟨fuel, fs, r, by rw [kernelSetup, hc, Option.map_some, hsw]⟩

lemma Step.settled (h : Step L k event response k') (hs : k.Settled) : k'.Settled := by
  obtain ⟨-, memory, h⟩ := h
  exact handle_settled (k := { k with memory := memory }) hs h

end Semogakelar.Process.Kernel
