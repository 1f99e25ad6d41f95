import Semogakelar.Process.Lifecycle

/-! A process that has been ended stays ended, as long as another one is ready to take over from it. -/

namespace Semogakelar.Process.Kernel

open Function Memory Fat32 Library

variable {L : Layout} {k k' : Kernel} {s i : Fin 16} {r : Resumption} {event : Event} {response : Response}

def Ends (k : Kernel) (s : Fin 16) : Event → Prop
  | .terminate => k.runningProcessIdx = some s
  | .kill pid => k.state s ≠ .new ∧ (k.processList s).pid = pid
  | .timer _ => False
  | .create _ _ _ => False

def LeavesReady (k : Kernel) : Event → Prop
  | .terminate => ∀ s, k.runningProcessIdx = some s → ∃ j ≠ s, k.state j = .ready
  | .kill pid => ∀ s, k.runningProcessIdx = some s → (k.processList s).pid = pid → ∃ j ≠ s, k.state j = .ready
  | .timer _ => True
  | .create _ _ _ => True

def resumes (k : Kernel) (response : Response) : Option (Fin 16) :=
  match response.resumption with
  | .interrupted => k.runningProcessIdx
  | .switched j _ => some j

def TakesSlot (k : Kernel) (s : Fin 16) (event : Event) (response : Response) : Prop :=
  (∃ fuel fs request, event = .create fuel fs request) ∧ response.code = some processCreateSuccess ∧
    processListGetInactiveIndex k.processList = some s

def Named (k : Kernel) : Prop := ∀ i, k.state i ≠ .new → (k.processList i).pid ≠ 0

lemma Named.clearPcb (h : Named k) (s : Fin 16) : Named (k.clearPcb s) := by
  intro i hi
  rw [clearPcb_state] at hi
  split_ifs at hi with he
  · exact (hi rfl).elim
  · rw [clearPcb_of_ne he]
    exact h i hi

lemma Named.rescheduled (h : Named k) (hr : Rescheduled k k') (hn : ∀ i, k.state i = .new → k'.state i = .new) :
    Named k' := by
  intro i hi
  rw [hr.pid]
  exact h i fun hi' => hi (hn i hi')

lemma Named.create (h : Named k) {fuel : ℕ} {fs : FileSystem} {request : ProcessRequest}
    {code : ℤ} (hc : processCreateUserProcess L fuel fs request k = some (code, k')) : Named k' := by
  intro i hi
  obtain ⟨-, ht⟩ | ⟨-, pIndex, newPage, paging, hcr⟩ := processCreateUserProcess_outcomes hc
  · rw [ht.pid]
    exact h i fun hi' => hi ((ht.state i).trans hi')
  · by_cases he : i = pIndex
    · rw [he]
      exact hcr.pid.1
    · rw [state, hcr.of_ne he] at hi
      rw [hcr.of_ne he]
      exact h i hi

lemma end_running (hs : k.runningProcessIdx = some s) (hn : ∃ j ≠ s, k.state j = .ready)
    (hsw : (k.clearPcb s).schedulerSwitchToNextProcess = (r, k')) :
    k'.state s = .new ∧ (Named k → Named k') ∧ ∃ j ≠ s, r = .switched j (k.processList j).context := by
  obtain ⟨j, hj, hready, rfl, rfl⟩ := switch_away hs hn hsw
  refine ⟨?_, fun h => (h.clearPcb s).rescheduled dispatch_rescheduled fun i hi => ?_, j, hj, rfl⟩
  · rw [dispatch_state, if_neg hj.symm, clearPcb_state, if_pos rfl]
  · have hij : i ≠ j := fun he => by
      rw [he, clearPcb_state, if_neg hj, hready] at hi
      cases hi
    rw [dispatch_state, if_neg hij, hi]

lemma Named.handle (h : Named k) (ho : Orderly k) (hl : k.LeavesReady event)
    (hh : k.handle L event = some (response, k')) : Named k' := by
  cases event with
  | timer frame =>
    exact h.rescheduled (timer_rescheduled hh) fun i hi => (handle_new ho.settled hh hi).resolve_right (by simp)
  | create fuel fs request =>
    obtain ⟨code, -, hc⟩ := createEvent_cases hh
    exact h.create hc
  | kill pid =>
    obtain ⟨code, hk⟩ := killEvent_cases hh
    obtain ⟨s, hs, ⟨hp, hsw⟩ | ⟨-, -, ⟨-, rfl⟩ | ⟨i, -, rfl⟩⟩⟩ := killProcess_cases hk
    · exact (end_running hs (hl s hs hp) hsw).2.1 h
    · exact h
    · exact h.clearPcb i
  | terminate =>
    obtain ⟨s, hs, hsw⟩ := terminateCurrentProcess_cases (terminateEvent_cases hh)
    exact (end_running hs (hl s hs) hsw).2.1 h

lemma handle_ends (h : Named k) (ho : Orderly k) (hl : k.LeavesReady event) (he : k.Ends s event)
    (hh : k.handle L event = some (response, k')) : k'.state s = .new ∧ k.resumes response ≠ some s := by
  cases event with
  | timer frame => exact he.elim
  | create fuel fs request => exact he.elim
  | terminate =>
    obtain ⟨s', hs', hsw⟩ := terminateCurrentProcess_cases (terminateEvent_cases hh)
    obtain rfl : s = s' := Option.some.inj (he.symm.trans hs')
    obtain ⟨hn, -, j, hj, hr⟩ := end_running he (hl s he) hsw
    refine ⟨hn, ?_⟩
    rw [resumes, hr]
    exact fun hjs => hj (Option.some.inj hjs)
  | kill pid =>
    obtain ⟨hlive, hpid⟩ := he
    obtain ⟨code, hk⟩ := killEvent_cases hh
    obtain ⟨s', hs', ⟨hp, hsw⟩ | ⟨hp, hr, ⟨hf, -⟩ | ⟨i, hi, rfl⟩⟩⟩ := killProcess_cases hk
    · have hlive' : k.state s' ≠ .new := by
        rw [ho.settled s' hs']
        decide
      obtain rfl : s = s' := ho.distinct s s' hlive hlive' (hpid.trans hp.symm)
      obtain ⟨hn, -, j, hj, hr⟩ := end_running hs' (hl s hs' hp) hsw
      refine ⟨hn, ?_⟩
      rw [resumes, hr]
      exact fun hjs => hj (Option.some.inj hjs)
    · exact absurd hpid (findPid_eq_none hf s)
    · have hip := findPid_eq_some hi
      have hilive : k.state i ≠ .new := fun hn => h s hlive ((hpid.trans hip.symm).trans (ho.new i hn))
      obtain rfl : s = i := ho.distinct s i hlive hilive (hpid.trans hip.symm)
      refine ⟨by rw [clearPcb_state, if_pos rfl], ?_⟩
      rw [resumes, hr]
      exact fun hs =>
        hp ((congrArg (fun j => (k.processList j).pid) (Option.some.inj (hs'.symm.trans hs))).trans hpid)

lemma switch_switched {j : Fin 16} {ctx : Context} (h : k.schedulerSwitchToNextProcess = (.switched j ctx, k')) :
    k'.runningProcessIdx = some j := by
  obtain ⟨s, -, -, hr, -⟩ | ⟨-, hr, -⟩ | ⟨j', -, -, hr, rfl⟩ := schedulerSwitchToNextProcess_cases h
  · cases hr
  · cases hr
  · cases hr
    rfl

lemma handle_switched {j : Fin 16} {ctx : Context} (hh : k.handle L event = some (response, k'))
    (hr : response.resumption = .switched j ctx) : k'.runningProcessIdx = some j ∧
      ∀ fuel fs request, event ≠ .create fuel fs request := by
  cases event with
  | timer frame =>
    have hsw := timerInterrupt_cases hh
    rw [hr] at hsw
    exact ⟨switch_switched hsw, by simp⟩
  | create fuel fs request =>
    obtain ⟨code, rfl, -⟩ := createEvent_cases hh
    cases hr
  | kill pid =>
    obtain ⟨code, hk⟩ := killEvent_cases hh
    obtain ⟨s, hs, ⟨-, hsw⟩ | ⟨-, hr', -⟩⟩ := killProcess_cases hk
    · rw [hr] at hsw
      exact ⟨switch_switched hsw, by simp⟩
    · rw [hr] at hr'
      cases hr'
  | terminate =>
    obtain ⟨s, hs, hsw⟩ := terminateCurrentProcess_cases (terminateEvent_cases hh)
    rw [hr] at hsw
    exact ⟨switch_switched hsw, by simp⟩

lemma Orderly.not_resumes (ho : Orderly k) (hs : k.state s = .new) (hh : k.handle L event = some (response, k')) :
    k.resumes response ≠ some s := by
  intro he
  cases hr : response.resumption with
  | interrupted =>
    rw [resumes, hr] at he
    exact ho.new_ne_running he hs rfl
  | switched j ctx =>
    rw [resumes, hr] at he
    obtain rfl := Option.some.inj he
    obtain ⟨hrun, hne⟩ := handle_switched hh hr
    have hnew := (handle_new ho.settled hh hs).resolve_right fun ⟨fuel, fs, request, _, _, hev, _⟩ =>
      hne fuel fs request hev
    exact (ho.handle hh).new_ne_running hrun hnew rfl

lemma Booted.named {memory : PhysicalMemory} (h : Booted L memory k) : Named k := by
  obtain ⟨fuel, fs, code, k₁, r, hc, hsw⟩ := h.cases
  have h₀ : Named (initial L memory) := fun i hi => absurd rfl hi
  have hnone : k₁.runningProcessIdx = none := (create_states hc).1
  exact (h₀.create hc).rescheduled (switch_rescheduled hsw) fun i hi => switch_new hsw hi (by rw [hnone]; simp)

def SafeStep (L : Layout) (k : Kernel) (event : Event) (response : Response) (k' : Kernel) : Prop :=
  Step L k event response k' ∧ k.LeavesReady event

def SparingStep (L : Layout) (s : Fin 16) (k : Kernel) (event : Event) (response : Response) (k' : Kernel) :
    Prop :=
  Step L k event response k' ∧ ¬ k.TakesSlot s event response

lemma SafeStep.named (hstep : SafeStep L k event response k') (h : Orderly k ∧ Named k) :
    Orderly k' ∧ Named k' := by
  obtain ⟨hstep, hl⟩ := hstep
  refine ⟨h.1.step hstep, ?_⟩
  obtain ⟨-, memory, hh⟩ := hstep
  have hm : Named { k with memory := memory } := h.2
  exact hm.handle (h.1.memory memory) (by cases event <;> exact hl) hh

lemma SparingStep.new (hstep : SparingStep L s k event response k') (h : Orderly k ∧ k.state s = .new) :
    Orderly k' ∧ k'.state s = .new := by
  obtain ⟨hstep, hn⟩ := hstep
  refine ⟨h.1.step hstep, ?_⟩
  obtain ⟨-, memory, hh⟩ := hstep
  have hs : { k with memory := memory }.Settled := h.1.settled
  refine (handle_new hs hh h.2).resolve_right ?_
  rintro ⟨fuel, fs, request, newPage, paging, he, hc, hr⟩
  exact hn ⟨⟨fuel, fs, request, he⟩, hc, hr.slot⟩

theorem ended_process_stays_ended {memory : PhysicalMemory} {k₀ k₁ k₂ : Kernel} {events later : List Event}
    {responses answers : List Response} (hboot : Booted L memory k₀)
      (hrun : Run (SafeStep L) k₀ events responses k)
    (hend : SafeStep L k event response k₁) (hs : k.Ends s event)
      (hlater : Run (SparingStep L s) k₁ later answers k₂) :
    k₂.state s = .new ∧ k.resumes response ≠ some s ∧
      ∀ event response k₃, Step L k₂ event response k₃ → k₂.resumes response ≠ some s := by
  have h : Orderly k ∧ Named k := hrun.invariant (P := fun k => Orderly k ∧ Named k)
    (fun _ _ _ _ h hstep => SafeStep.named hstep h) ⟨hboot.orderly, hboot.named⟩
  have h₁ : k₁.state s = .new ∧ k.resumes response ≠ some s := by
    obtain ⟨⟨-, memory, hh⟩, hl⟩ := hend
    have hm : Named { k with memory := memory } := h.2
    have hl' : { k with memory := memory }.LeavesReady event := by cases event <;> exact hl
    have hs' : { k with memory := memory }.Ends s event := by cases event <;> exact hs
    have he := handle_ends hm (h.1.memory memory) hl' hs' hh
    exact ⟨he.1, he.2⟩
  have h₂ : Orderly k₂ ∧ k₂.state s = .new := hlater.invariant (P := fun k => Orderly k ∧ k.state s = .new)
    (fun _ _ _ _ h hstep => SparingStep.new hstep h) ⟨h.1.step hend.1, h₁.1⟩
  refine ⟨h₂.2, h₁.2, fun event response k₃ hstep => ?_⟩
  obtain ⟨-, memory, hh⟩ := hstep
  exact (h₂.1.memory memory).not_resumes h₂.2 hh

theorem ended_process_stays_ended_child : ∃ k₀ k k₁, Booted linked (fun _ => 0) k₀ ∧
    Run (SafeStep linked) k₀ [.create 2 shellDisk shellRequest] [⟨some processCreateSuccess, .interrupted⟩] k ∧
    SafeStep linked k (.kill 2) ⟨some 0, .interrupted⟩ k₁ ∧ k.Ends 1 (.kill 2) ∧ k₁.state 1 = .new := by
  obtain ⟨k₀, hboot, hshell⟩ := boot_shellDisk linked fun _ => 0
  obtain ⟨k, hstep, hchild⟩ := hshell.spawn linked
  have hrun : Run (SafeStep linked) k₀ [.create 2 shellDisk shellRequest]
      [⟨some processCreateSuccess, .interrupted⟩] k := .cons ⟨hstep, trivial⟩ .nil
  have hl : k.LeavesReady (.kill 2) := by
    intro s hs hp
    rw [← Option.some.inj (hchild.running.symm.trans hs), hchild.shellPid] at hp
    exact absurd hp (by decide)
  have hs : k.Ends 1 (.kill 2) := ⟨by rw [hchild.child]; decide, hchild.childPid⟩
  have hend : SafeStep linked k (.kill 2) ⟨some 0, .interrupted⟩ (k.clearPcb 1) := ⟨hchild.kill linked, hl⟩
  exact ⟨k₀, k, k.clearPcb 1, hboot.booted, hrun, hend, hs,
    (ended_process_stays_ended hboot.booted hrun hend hs .nil).1⟩

theorem ended_process_resumes_shell : ∃ k₀ k, Booted linked (fun _ => 0) k₀ ∧
    Step linked k₀ .terminate ⟨none, .interrupted⟩ k ∧ k₀.Ends 0 .terminate ∧ k.state 0 = .running ∧
    k₀.resumes ⟨none, .interrupted⟩ = some 0 := by
  obtain ⟨k₀, hboot, hshell⟩ := boot_shellDisk linked fun _ => 0
  exact ⟨k₀, (k₀.clearPcb 0).markRunning 0, hboot.booted, hshell.terminate linked, hshell.running,
    by rw [markRunning_state, if_pos rfl], hshell.running⟩

end Semogakelar.Process.Kernel
