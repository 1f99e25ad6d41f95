import Semogakelar.Process.Pids

/-! The states and the pids of the slots over whole runs: one process runs, pids are distinct, and what is ended
stays ended. -/

namespace Semogakelar.Process.Kernel

open Function Memory Fat32 Library

variable {L : Layout} {k k' : Kernel} {s i : Fin 16} {r : Resumption} {event : Event} {response : Response}

/-! ### Pids -/

structure PidsDistinct (k : Kernel) : Prop where
  new : ∀ i, k.state i = .new → (k.processList i).pid = 0
  distinct : ∀ i j, k.state i ≠ .new → k.state j ≠ .new → (k.processList i).pid = (k.processList j).pid → i = j

namespace PidsDistinct

lemma rescheduled (h : PidsDistinct k) (hr : Rescheduled k k') (hn : ∀ i, k.state i = .new → k'.state i = .new) :
    PidsDistinct k' := by
  have hlive : ∀ i, k'.state i ≠ .new → k.state i ≠ .new := fun i hi hi' => hi (hn i hi')
  refine ⟨fun i hi => ?_, fun i j hi hj he => ?_⟩
  · rw [hr.pid]
    by_contra hp
    exact hr.live i (fun hi' => hp (h.new i hi')) hi
  · rw [hr.pid, hr.pid] at he
    exact h.distinct i j (hlive i hi) (hlive j hj) he

lemma clearPcb (h : PidsDistinct k) (s : Fin 16) : PidsDistinct (k.clearPcb s) := by
  have hlive : ∀ i, (k.clearPcb s).state i ≠ .new → i ≠ s ∧ k.state i ≠ .new := by
    intro i hi
    rw [clearPcb_state] at hi
    split_ifs at hi with he
    · exact (hi rfl).elim
    · exact ⟨he, hi⟩
  refine ⟨fun i hi => ?_, fun i j hi hj he => ?_⟩
  · by_cases hs : i = s
    · simp [Kernel.clearPcb, hs, ProcessControlBlock.zero]
    · rw [clearPcb_state, if_neg hs] at hi
      rw [clearPcb_of_ne hs, h.new i hi]
  · rw [clearPcb_of_ne (hlive i hi).1, clearPcb_of_ne (hlive j hj).1] at he
    exact h.distinct i j (hlive i hi).2 (hlive j hj).2 he

lemma tableKept (h : PidsDistinct k) (ht : TableKept k k') : PidsDistinct k' := by
  have hstate : ∀ i, k'.state i = k.state i := ht.state
  refine ⟨fun i hi => ?_, fun i j hi hj he => ?_⟩
  · rw [ht.pid, h.new i (by rwa [hstate] at hi)]
  · rw [hstate] at hi hj
    rw [ht.pid, ht.pid] at he
    exact h.distinct i j hi hj he

end PidsDistinct

section

variable {request : ProcessRequest} {pIndex : Fin 16} {newPage : Fin 32} {paging : PageManager}

lemma reserve_pid : ((k.reserve request pIndex paging).processList i).pid = (k.processList i).pid := by
  by_cases h : i = pIndex <;> simp [reserve, ProcessControlBlock.withPages, h]

lemma Created.of_ne (h : Created L k k' request pIndex newPage paging) (hi : i ≠ pIndex) :
    k'.processList i = k.processList i := by
  rw [h.processList, update_of_ne hi]

lemma Created.state_self (h : Created L k k' request pIndex newPage paging) : k'.state pIndex = .ready := by
  simp [state, h.processList, ProcessControlBlock.created]

lemma Created.pid (h : Created L k k' request pIndex newPage paging) :
    (k'.processList pIndex).pid ≠ 0 ∧ ∀ j, (k.processList j).pid ≠ (k'.processList pIndex).pid := by
  have hfresh := processGenerateNewPid_fresh (k.reserve request pIndex paging).processList
  have he : (k'.processList pIndex).pid =
      processGenerateNewPid (k.reserve request pIndex paging).processList 16 1 := by
    simp [h.processList, ProcessControlBlock.created]
  rw [he]
  refine ⟨hfresh.1, fun j => ?_⟩
  have hj := hfresh.2 j
  rwa [reserve_pid] at hj

lemma PidsDistinct.created (hp : PidsDistinct k) (h : Created L k k' request pIndex newPage paging) :
    PidsDistinct k' := by
  have hfresh := h.pid.2
  refine ⟨fun i hi => ?_, fun i j hi hj he => ?_⟩
  · have hne : i ≠ pIndex := fun hip => by
      rw [hip, h.state_self] at hi
      cases hi
    rw [state, h.of_ne hne] at hi
    rw [h.of_ne hne, hp.new i hi]
  · by_cases hip : i = pIndex
    · by_cases hjp : j = pIndex
      · rw [hip, hjp]
      · rw [h.of_ne hjp, hip] at he
        exact absurd he.symm (hfresh j)
    · by_cases hjp : j = pIndex
      · rw [h.of_ne hip, hjp] at he
        exact absurd he (hfresh i)
      · rw [state, h.of_ne hip] at hi
        rw [state, h.of_ne hjp] at hj
        rw [h.of_ne hip, h.of_ne hjp] at he
        exact hp.distinct i j hi hj he

end

lemma PidsDistinct.create (h : PidsDistinct k) {fuel : ℕ} {fs : FileSystem} {request : ProcessRequest} {code : ℤ}
    (hc : processCreateUserProcess L fuel fs request k = some (code, k')) : PidsDistinct k' := by
  obtain ⟨-, ht⟩ | ⟨-, pIndex, newPage, paging, hcr⟩ := processCreateUserProcess_outcomes hc
  · exact h.tableKept ht
  · exact h.created hcr

/-! ### States -/

/-- No process has the state RUNNING, as it is while the scheduler looks for the next one. -/
structure Suspended (k : Kernel) : Prop extends PidsDistinct k where
  states : ∀ i, k.state i = .new ∨ k.state i = .ready

structure Orderly (k : Kernel) : Prop extends PidsDistinct k where
  settled : k.Settled
  states : ∀ i, k.state i = .new ∨ k.state i = .ready ∨ k.state i = .running ∧ k.runningProcessIdx = some i

lemma Suspended.markRunning (h : Suspended k) (hs : k.runningProcessIdx = some s)
    (hn : ∀ j ≠ s, k.state j ≠ .ready) :
    Orderly (k.markRunning s) := by
  have hnew : ∀ j, j ≠ s → k.state j = .new := fun j hj => (h.states j).resolve_right (hn j hj)
  have hlive : ∀ j, (k.markRunning s).state j ≠ .new → j = s := by
    intro j hj
    by_contra hne
    rw [markRunning_state, if_neg hne] at hj
    exact hj (hnew j hne)
  refine ⟨⟨fun i hi => ?_, fun i j hi hj _ => (hlive i hi).trans (hlive j hj).symm⟩, fun i hi => ?_, fun i => ?_⟩
  · rw [markRunning_rescheduled.pid]
    refine h.new i (hnew i fun he => ?_)
    rw [markRunning_state, if_pos he] at hi
    cases hi
  · obtain rfl : s = i := Option.some.inj (hs.symm.trans hi)
    rw [markRunning_state, if_pos rfl]
  · rw [markRunning_state]
    split_ifs with he
    · exact .inr (.inr ⟨rfl, he ▸ hs⟩)
    · exact .inl (hnew i he)

lemma Suspended.dispatch (h : Suspended k) {j : Fin 16} (hj : k.state j = .ready) : Orderly (k.dispatch j) := by
  have hp : PidsDistinct (k.dispatch j) := by
    refine h.rescheduled dispatch_rescheduled fun i hi => ?_
    have hne : i ≠ j := fun he => by
      rw [he, hj] at hi
      cases hi
    rw [dispatch_state, if_neg hne, hi]
  refine ⟨hp, fun i hi => ?_, fun i => ?_⟩
  · rw [dispatch_state, if_pos (Option.some.inj hi).symm]
  · rw [dispatch_state]
    split_ifs with he
    · exact .inr (.inr ⟨rfl, congrArg some he.symm⟩)
    · exact (h.states i).imp id .inl

lemma Suspended.switch (h : Suspended k) (hsw : k.schedulerSwitchToNextProcess = (r, k')) : Orderly k' := by
  obtain ⟨s, hs, hn, -, rfl⟩ | ⟨hn, -, rfl⟩ | ⟨j, -, hj, -, rfl⟩ := schedulerSwitchToNextProcess_cases hsw
  · exact h.markRunning hs hn
  · exact ⟨h.toPidsDistinct, fun s hs => absurd (hn.symm.trans hs) (by simp), fun i => (h.states i).imp id .inl⟩
  · exact h.dispatch hj

namespace Orderly

lemma new_ne_running (h : Orderly k) (hs : k.runningProcessIdx = some s) (hi : k.state i = .new) : i ≠ s := by
  rintro rfl
  have := h.settled i hs
  rw [hi] at this
  cases this

lemma save (h : Orderly k) {ctx : Context} : Suspended (k.schedulerSaveContextToCurrentRunningPcb ctx) := by
  cases hr : k.runningProcessIdx with
  | none =>
    have he : k.schedulerSaveContextToCurrentRunningPcb ctx =
      k := by rw [schedulerSaveContextToCurrentRunningPcb, hr]
    rw [he]
    refine ⟨h.toPidsDistinct, fun i => (h.states i).imp id fun hi => hi.resolve_right fun hi => ?_⟩
    exact absurd (hr.symm.trans hi.2) (by simp)
  | some s =>
    refine ⟨h.rescheduled save_rescheduled fun i hi => ?_, fun i => ?_⟩
    · rw [save_state hr, if_neg (h.new_ne_running hr hi), hi]
    · rw [save_state hr]
      split_ifs with he
      · exact .inr rfl
      · refine (h.states i).imp id fun hi => hi.resolve_right fun hi => he ?_
        exact (Option.some.inj (hr.symm.trans hi.2)).symm

lemma clearRunning (h : Orderly k) (hs : k.runningProcessIdx = some s) : Suspended (k.clearPcb s) := by
  refine ⟨h.clearPcb s, fun i => ?_⟩
  rw [clearPcb_state]
  split_ifs with he
  · exact .inl rfl
  · refine (h.states i).imp id fun hi => hi.resolve_right fun hi => he ?_
    exact (Option.some.inj (hs.symm.trans hi.2)).symm

lemma clearOther (h : Orderly k) (hi : k.runningProcessIdx ≠ some i) : Orderly (k.clearPcb i) := by
  refine ⟨h.clearPcb i, fun s hs => ?_, fun j => ?_⟩
  · have hne : s ≠ i := fun he => hi (he ▸ hs)
    rw [clearPcb_state, if_neg hne, h.settled s hs]
  · rw [clearPcb_state]
    split_ifs
    · exact .inl rfl
    · exact h.states j

lemma create (h : Orderly k) {fuel : ℕ} {fs : FileSystem} {request : ProcessRequest} {code : ℤ}
    (hc : processCreateUserProcess L fuel fs request k = some (code, k')) : Orderly k' := by
  obtain ⟨hr, hst⟩ := create_states hc
  have hh : k.handle L (.create fuel fs request) = some (⟨some code, .interrupted⟩, k') := by
    rw [Kernel.handle, hc]
    rfl
  refine ⟨h.toPidsDistinct.create hc, handle_settled h.settled hh, fun i => ?_⟩
  rw [hr]
  obtain hst | ⟨-, pIndex, newPage, paging, -, hst⟩ := hst
  · rw [hst]
    exact h.states i
  · rw [hst]
    split_ifs
    · exact .inr (.inl rfl)
    · exact h.states i

lemma handle (h : Orderly k) (hh : k.handle L event = some (response, k')) : Orderly k' := by
  cases event with
  | timer frame => exact h.save.switch (timerInterrupt_cases hh)
  | create fuel fs request =>
    obtain ⟨code, -, hc⟩ := createEvent_cases hh
    exact h.create hc
  | kill pid =>
    obtain ⟨code, hk⟩ := killEvent_cases hh
    obtain ⟨s, hrun, ⟨-, hsw⟩ | ⟨hp, -, ⟨-, rfl⟩ | ⟨i, hi, rfl⟩⟩⟩ := killProcess_cases hk
    · exact (h.clearRunning hrun).switch hsw
    · exact h
    · refine h.clearOther fun he => hp ?_
      rw [Option.some.inj (hrun.symm.trans he), findPid_eq_some hi]
  | terminate =>
    obtain ⟨s, hrun, hsw⟩ := terminateCurrentProcess_cases (terminateEvent_cases hh)
    exact (h.clearRunning hrun).switch hsw

lemma memory (h : Orderly k) (memory : PhysicalMemory) : Orderly { k with memory := memory } :=
  ⟨⟨h.new, h.distinct⟩, h.settled, h.states⟩

lemma step (h : Orderly k) (hstep : Step L k event response k') : Orderly k' := by
  obtain ⟨-, memory, hh⟩ := hstep
  exact (h.memory memory).handle hh

lemma run (h : Orderly k) {events : List Event} {responses : List Response}
    (hrun : Run (Step L) k events responses k') : Orderly k' :=
  hrun.invariant (P := Orderly) (fun _ _ _ _ h hstep => h.step hstep) h

end Orderly

lemma Booted.orderly {memory : PhysicalMemory} (h : Booted L memory k) : Orderly k := by
  obtain ⟨fuel, fs, code, k₁, r, hc, hsw⟩ := h.cases
  have h₀ : Orderly (initial L memory) :=
    ⟨⟨fun _ _ => rfl, fun i j hi => absurd rfl hi⟩, fun _ hs => (nomatch hs), fun _ => .inl rfl⟩
  have h₁ := h₀.create hc
  have hnone : k₁.runningProcessIdx = none := (create_states hc).1
  have hsus : Suspended k₁ := by
    refine ⟨h₁.toPidsDistinct, fun i => (h₁.states i).imp id fun hi => hi.resolve_right fun hi => ?_⟩
    exact absurd (hnone.symm.trans hi.2) (by simp)
  exact hsus.switch hsw

theorem pids_distinct {memory : PhysicalMemory} {k₀ : Kernel} {events : List Event} {responses : List Response}
    (hboot : Booted L memory k₀) (hrun : Run (Step L) k₀ events responses k) {i j : Fin 16} (hij : i ≠ j)
    (hi : k.state i ≠ .new) (hj : k.state j ≠ .new) : (k.processList i).pid ≠ (k.processList j).pid :=
  fun he => hij ((hboot.orderly.run hrun).distinct i j hi hj he)

theorem pids_distinct_child : ∃ k₀ k, Booted linked (fun _ => 0) k₀ ∧
    Run (Step linked) k₀ [.create 2 shellDisk shellRequest] [⟨some processCreateSuccess, .interrupted⟩] k ∧
    k.state 0 ≠ .new ∧ k.state 1 ≠ .new ∧ (k.processList 0).pid ≠ (k.processList 1).pid := by
  obtain ⟨k₀, hboot, hshell⟩ := boot_shellDisk linked fun _ => 0
  obtain ⟨k, hstep, hchild⟩ := hshell.spawn linked
  have hrun : Run (Step linked) k₀ [.create 2 shellDisk shellRequest]
      [⟨some processCreateSuccess, .interrupted⟩] k :=
    .cons hstep .nil
  have h₀ : k.state 0 ≠ .new := by
    rw [hchild.shell]
    decide
  have h₁ : k.state 1 ≠ .new := by
    rw [hchild.child]
    decide
  exact ⟨k₀, k, hboot.booted, hrun, h₀, h₁, pids_distinct hboot.booted hrun (by decide) h₀ h₁⟩

/-! ### One running process -/

lemma switch_running (h : k.schedulerSwitchToNextProcess = (r, k')) (hr : k.runningProcessIdx ≠ none) :
    k'.runningProcessIdx ≠ none := by
  obtain ⟨s, -, -, -, rfl⟩ | ⟨-, -, rfl⟩ | ⟨j, -, -, -, rfl⟩ := schedulerSwitchToNextProcess_cases h
  · exact hr
  · exact hr
  · exact Option.some_ne_none j

lemma handle_running (hh : k.handle L event = some (response, k')) (hr : k.runningProcessIdx ≠ none) :
    k'.runningProcessIdx ≠ none := by
  cases event with
  | timer frame => exact switch_running (timerInterrupt_cases hh) (by rwa [save_runningProcessIdx])
  | create fuel fs request =>
    obtain ⟨code, -, hc⟩ := createEvent_cases hh
    rwa [(create_states hc).1]
  | kill pid =>
    obtain ⟨code, hk⟩ := killEvent_cases hh
    obtain ⟨s, hrun, ⟨-, hsw⟩ | ⟨-, -, ⟨-, rfl⟩ | ⟨i, -, rfl⟩⟩⟩ := killProcess_cases hk
    · exact switch_running hsw hr
    · exact hr
    · exact hr
  | terminate =>
    obtain ⟨s, hrun, hsw⟩ := terminateCurrentProcess_cases (terminateEvent_cases hh)
    exact switch_running hsw hr

lemma BootedShell.running {memory : PhysicalMemory} (h : BootedShell L memory k) : k.runningProcessIdx ≠ none := by
  obtain ⟨fuel, fs, k₁, r, hc, hsw⟩ := h
  obtain ⟨hne, -⟩ | ⟨-, pIndex, newPage, paging, hcr⟩ := processCreateUserProcess_outcomes hc
  · exact absurd rfl hne
  · have hslot : pIndex = 0 := by
      have hs := Fin.find?_eq_some_iff.mp hcr.reserves.slot
      by_contra hne
      exact absurd (hs.2 0 (Fin.pos_of_ne_zero hne)) (by simp [initial, ProcessControlBlock.zero])
    have hready : k₁.state 0 = .ready := hslot ▸ hcr.state_self
    rw [schedulerSwitchToNextProcess_first hcr.runningProcessIdx hready] at hsw
    obtain ⟨-, rfl⟩ := Prod.mk.inj hsw
    exact Option.some_ne_none 0

theorem one_process_running {memory : PhysicalMemory} {k₀ : Kernel} {events : List Event}
    {responses : List Response} (hboot : BootedShell L memory k₀) (hrun : Run (Step L) k₀ events responses k) :
    ∃ i, k.runningProcessIdx = some i ∧ k.state i = .running ∧ ∀ j ≠ i, k.state j ≠ .running := by
  have ho := hboot.booted.orderly.run hrun
  have hr : k.runningProcessIdx ≠ none := hrun.invariant (P := fun k => k.runningProcessIdx ≠ none)
    (fun _ _ _ _ hr hstep => by
      obtain ⟨-, memory, hh⟩ := hstep
      exact handle_running hh hr) hboot.running
  obtain ⟨i, hi⟩ := Option.ne_none_iff_exists'.mp hr
  refine ⟨i, hi, ho.settled i hi, fun j hj hjr => hj ?_⟩
  obtain hn | hn | ⟨-, hn⟩ := ho.states j
  · rw [hjr] at hn
    cases hn
  · rw [hjr] at hn
    cases hn
  · exact Option.some.inj (hn.symm.trans hi)

theorem one_process_running_terminate : ∃ k₀ k, BootedShell linked (fun _ => 0) k₀ ∧
    Run (Step linked) k₀ [.terminate] [⟨none, .interrupted⟩] k ∧
    ∃ i, k.runningProcessIdx = some i ∧ k.state i = .running ∧ ∀ j ≠ i, k.state j ≠ .running := by
  obtain ⟨k₀, hboot, hshell⟩ := boot_shellDisk linked fun _ => 0
  have hrun : Run (Step linked) k₀ [.terminate] [⟨none, .interrupted⟩] ((k₀.clearPcb 0).markRunning 0) :=
    .cons (hshell.terminate linked) .nil
  exact ⟨k₀, _, hboot, hrun, one_process_running hboot hrun⟩

end Semogakelar.Process.Kernel
