import Semogakelar.Process.Isolation
import Semogakelar.Process.Termination

/-! The context a process is switched to is the one it was left with. -/

namespace Semogakelar.Process.Kernel

open Function Memory Fat32 Library

variable {L : Layout} {k k' : Kernel} {s i j : Fin 16} {r : Resumption} {event : Event} {response : Response}
  {ctx : Context}

def initialContext (pageDir : UInt32) : Context := ⟨newRegisterState, 0, 0x2 ||| 0x200, pageDir⟩

def timerContext (k : Kernel) (frame : InterruptFrame) : Context :=
  ⟨frame.cpu, frame.eip, frame.eflags, pagingGetCurrentPageDirectoryAddr k.cr3⟩

def Clears (k : Kernel) (i : Fin 16) : Event → Prop
  | .terminate => k.runningProcessIdx = some i
  | .kill pid => ∃ s, k.runningProcessIdx = some s ∧
      ((k.processList s).pid = pid ∧ i = s ∨ (k.processList s).pid ≠ pid ∧ k.findPid pid = some i)
  | .timer _ => False
  | .create _ _ _ => False

instance (k : Kernel) (i : Fin 16) : (event : Event) → Decidable (k.Clears i event)
  | .terminate => inferInstanceAs (Decidable (k.runningProcessIdx = some i))
  | .kill pid => inferInstanceAs (Decidable (∃ s, k.runningProcessIdx = some s ∧
      ((k.processList s).pid = pid ∧ i = s ∨ (k.processList s).pid ≠ pid ∧ k.findPid pid = some i)))
  | .timer _ => inferInstanceAs (Decidable False)
  | .create _ _ _ => inferInstanceAs (Decidable False)

def savedAt (k : Kernel) (i : Fin 16) (last : Option Context) : Event → Option Context
  | .timer frame => if k.runningProcessIdx = some i then some (k.timerContext frame) else last
  | .create _ _ _ => last
  | .kill _ => last
  | .terminate => last

def recordContext (k : Kernel) (event : Event) (last : Fin 16 → Option Context) (i : Fin 16) :
    Option Context :=
  if k.state i = .new ∨ k.Clears i event then none else k.savedAt i (last i) event

lemma save_of_ne (hr : k.runningProcessIdx ≠ some i) :
    (k.schedulerSaveContextToCurrentRunningPcb ctx).processList i = k.processList i := by
  cases h : k.runningProcessIdx with
  | none => rw [schedulerSaveContextToCurrentRunningPcb, h]
  | some s =>
    have hne : i ≠ s := fun he => hr (he ▸ h)
    simp [schedulerSaveContextToCurrentRunningPcb, h, hne]

lemma save_context (hr : k.runningProcessIdx = some i) :
    ((k.schedulerSaveContextToCurrentRunningPcb ctx).processList i).context = ctx := by
  simp [schedulerSaveContextToCurrentRunningPcb, hr]

lemma switch_ready (h : k.schedulerSwitchToNextProcess = (r, k')) (hi : k'.state i = .ready) :
    k'.processList i = k.processList i := by
  obtain ⟨s, -, -, -, rfl⟩ | ⟨-, -, rfl⟩ | ⟨j, -, -, -, rfl⟩ := schedulerSwitchToNextProcess_cases h
  · rw [markRunning_state] at hi
    split_ifs at hi with he
    exact update_of_ne he ..
  · rfl
  · rw [dispatch_state] at hi
    split_ifs at hi with he
    exact update_of_ne he ..

lemma switch_switched_context (h : k.schedulerSwitchToNextProcess = (.switched j ctx, k')) :
    k.runningProcessIdx ≠ some j ∧ k.state j = .ready ∧ ctx = (k.processList j).context ∧ k' = k.dispatch j := by
  obtain ⟨s, -, -, hr, -⟩ | ⟨-, hr, -⟩ | ⟨j', hne, hj, hr, hk⟩ := schedulerSwitchToNextProcess_cases h
  · cases hr
  · cases hr
  · cases hr
    exact ⟨hne, hj, rfl, hk⟩

lemma handle_switched_context (hh : k.handle L event = some (response, k'))
    (hr : response.resumption = .switched j ctx) : k.state j = .ready ∧ ctx = (k.processList j).context := by
  have hclear : ∀ s, k.runningProcessIdx = some s →
      (k.clearPcb s).schedulerSwitchToNextProcess = (.switched j ctx, k') →
      k.state j = .ready ∧ ctx = (k.processList j).context := by
    intro s hs hsw
    obtain ⟨hne, hj, rfl, -⟩ := switch_switched_context hsw
    have hjs : j ≠ s := fun he => hne (he ▸ hs)
    rw [clearPcb_state, if_neg hjs] at hj
    exact ⟨hj, by rw [clearPcb_of_ne hjs]⟩
  cases event with
  | timer frame =>
    have hsw := timerInterrupt_cases hh
    rw [hr] at hsw
    obtain ⟨hne, hj, rfl, -⟩ := switch_switched_context hsw
    rw [save_runningProcessIdx] at hne
    rw [state, save_of_ne hne] at hj
    exact ⟨hj, by rw [save_of_ne hne]⟩
  | create fuel fs request =>
    obtain ⟨code, rfl, -⟩ := createEvent_cases hh
    cases hr
  | kill pid =>
    obtain ⟨code, hk⟩ := killEvent_cases hh
    obtain ⟨s, hs, ⟨-, hsw⟩ | ⟨-, hr', -⟩⟩ := killProcess_cases hk
    · rw [hr] at hsw
      exact hclear s hs hsw
    · rw [hr] at hr'
      cases hr'
  | terminate =>
    obtain ⟨s, hs, hsw⟩ := terminateCurrentProcess_cases (terminateEvent_cases hh)
    rw [hr] at hsw
    exact hclear s hs hsw

lemma clears_kill_self {pid : UInt32} (hs : k.runningProcessIdx = some s)
    (hp : (k.processList s).pid = pid) : k.Clears i (.kill pid) ↔ i = s := by
  constructor
  · rintro ⟨s', hs', h⟩
    obtain rfl := Option.some.inj (hs.symm.trans hs')
    exact h.elim And.right fun h => (h.1 hp).elim
  · exact fun he => ⟨s, hs, .inl ⟨hp, he⟩⟩

lemma clears_kill_other {pid : UInt32} (hs : k.runningProcessIdx = some s)
    (hp : (k.processList s).pid ≠ pid) : k.Clears i (.kill pid) ↔ k.findPid pid = some i := by
  constructor
  · rintro ⟨s', hs', h⟩
    obtain rfl := Option.some.inj (hs.symm.trans hs')
    exact h.elim (fun h => (hp h.1).elim) And.right
  · exact fun hf => ⟨s, hs, .inr ⟨hp, hf⟩⟩

lemma clear_switch_ready (hsw : (k.clearPcb s).schedulerSwitchToNextProcess = (r, k'))
    (hi : k'.state i = .ready) : i ≠ s ∧ k.state i = .ready ∧ k'.processList i = k.processList i := by
  have hpcb := switch_ready hsw hi
  have hsi : i ≠ s := by
    rintro rfl
    rw [state, hpcb] at hi
    simp [Kernel.clearPcb, ProcessControlBlock.zero] at hi
  rw [clearPcb_of_ne hsi] at hpcb
  exact ⟨hsi, by rwa [state, hpcb] at hi, hpcb⟩

lemma handle_ready (hh : k.handle L event = some (response, k')) (hi : k'.state i = .ready) :
    (k.state i = .ready ∧ ¬ k.Clears i event ∧ (∀ frame, event = .timer frame → k.runningProcessIdx ≠ some i) ∧
        (k'.processList i).context = (k.processList i).context) ∨
      (∃ frame, event = .timer frame ∧ k.runningProcessIdx = some i ∧
        (k'.processList i).context = k.timerContext frame) ∨
      (k.state i = .new ∧ ∃ pageDir, (k'.processList i).context = initialContext pageDir) := by
  cases event with
  | timer frame =>
    have hpcb := switch_ready (timerInterrupt_cases hh) hi
    by_cases hr : k.runningProcessIdx = some i
    · exact .inr (.inl ⟨frame, rfl, hr, by rw [hpcb, save_context hr]; rfl⟩)
    · rw [save_of_ne hr] at hpcb
      exact .inl ⟨by rwa [state, hpcb] at hi, id, fun _ _ => hr, by rw [hpcb]⟩
  | create fuel fs request =>
    obtain ⟨code, -, hc⟩ := createEvent_cases hh
    obtain ⟨-, ht⟩ | ⟨-, pIndex, newPage, paging, hcr⟩ := processCreateUserProcess_outcomes hc
    · exact .inl ⟨(ht.state i).symm.trans hi, id, by simp, ht.context i⟩
    · by_cases he : i = pIndex
      · subst he
        exact .inr (.inr ⟨hcr.reserves.slot_new, L.address newPage, by rw [hcr.processList, update_self]; rfl⟩)
      · rw [state, hcr.of_ne he] at hi
        exact .inl ⟨hi, id, by simp, by rw [hcr.of_ne he]⟩
  | kill pid =>
    obtain ⟨code, hk⟩ := killEvent_cases hh
    obtain ⟨s, hs, ⟨hp, hsw⟩ | ⟨hp, -, ⟨hf, rfl⟩ | ⟨i', hi', rfl⟩⟩⟩ := killProcess_cases hk
    · obtain ⟨hne, hi, hpcb⟩ := clear_switch_ready hsw hi
      exact .inl ⟨hi, fun hc => hne ((clears_kill_self hs hp).mp hc), by simp, by rw [hpcb]⟩
    · refine .inl ⟨hi, fun hc => ?_, by simp, rfl⟩
      rw [clears_kill_other hs hp, hf] at hc
      exact Option.some_ne_none i hc.symm
    · rw [clearPcb_state] at hi
      split_ifs at hi with he
      refine .inl ⟨hi, fun hc => ?_, by simp, by rw [clearPcb_of_ne he]⟩
      rw [clears_kill_other hs hp, hi'] at hc
      exact he (Option.some.inj hc).symm
  | terminate =>
    obtain ⟨s, hs, hsw⟩ := terminateCurrentProcess_cases (terminateEvent_cases hh)
    obtain ⟨hne, hi, hpcb⟩ := clear_switch_ready hsw hi
    exact .inl ⟨hi, fun he => hne (Option.some.inj (he.symm.trans hs)), by simp, by rw [hpcb]⟩

/-! ### Runs -/

structure History where
  kernel : Kernel
  home : Fin 16 → UInt32
  last : Fin 16 → Option Context

def RecordedStep (L : Layout) (x : History) (event : Event) (response : Response) (y : History) : Prop :=
  Step L x.kernel event response y.kernel ∧ y.home = track x.kernel y.kernel x.home ∧
    y.last = recordContext x.kernel event x.last

lemma Step.recorded {x : History} (h : Step L x.kernel event response k') :
    RecordedStep L x event response ⟨k', track x.kernel k' x.home, recordContext x.kernel event x.last⟩ :=
  ⟨h, rfl, rfl⟩

def History.expected (x : History) (i : Fin 16) : Context := (x.last i).getD (initialContext (x.home i))

def History.booted (L : Layout) (memory : PhysicalMemory) (k : Kernel) : History :=
  ⟨k, track (initial L memory) k fun _ => 0, fun _ => none⟩

structure Remembers (L : Layout) (x : History) : Prop where
  isolated : Isolated L x.kernel x.home
  orderly : Orderly x.kernel
  contexts : ∀ i, x.kernel.state i = .ready → (x.kernel.processList i).context = x.expected i

lemma RecordedStep.remembers {x y : History} (hstep : RecordedStep L x event response y) (h : Remembers L x) :
    Remembers L y := by
  obtain ⟨hstep, hhome, hlast⟩ := hstep
  have hiso : Isolated L y.kernel y.home ∧ y.kernel.Settled :=
    TracedStep.isolated (x := (x.kernel, x.home)) (y := (y.kernel, y.home)) ⟨hstep, hhome⟩
      ⟨h.isolated, h.orderly.settled⟩
  refine ⟨hiso.1, h.orderly.step hstep, fun i hi => ?_⟩
  obtain ⟨-, memory, hh⟩ := hstep
  rw [History.expected, hhome, hlast]
  obtain ⟨hready, hclear, htimer, hctx⟩ | ⟨frame, rfl, hr, hctx⟩ | ⟨hnew, pageDir, hctx⟩ := handle_ready hh hi
  · have hready : x.kernel.state i = .ready := hready
    have hn : ¬ (x.kernel.state i = .new ∨ x.kernel.Clears i event) := by
      rw [hready]
      exact fun hor => hor.elim (by decide) (by cases event <;> exact hclear)
    have hl : recordContext x.kernel event x.last i = x.last i := by
      rw [recordContext, if_neg hn]
      cases event with
      | timer frame => exact if_neg (htimer frame rfl)
      | create fuel fs request => rfl
      | kill pid => rfl
      | terminate => rfl
    have ht : track x.kernel y.kernel x.home i = x.home i := by
      rw [track, hready]
      exact if_neg fun hor => absurd hor.1 (by decide)
    rw [hl, ht, hctx]
    exact h.contexts i hready
  · have hr : x.kernel.runningProcessIdx = some i := hr
    have hn : ¬ (x.kernel.state i = .new ∨ x.kernel.Clears i (.timer frame)) := by
      rw [h.orderly.settled i hr]
      exact fun hor => hor.elim (by decide) id
    rw [hctx, recordContext, if_neg hn, savedAt, if_pos hr, Option.getD_some]
    rfl
  · have hnew : x.kernel.state i = .new := hnew
    rw [recordContext, if_pos (.inl hnew), Option.getD_none, track, hnew, hi, if_pos ⟨rfl, by decide⟩,
      savedDirectory, hctx]
    rfl

lemma Booted.remembers {memory : PhysicalMemory} (h : Booted L memory k) :
    Remembers L (History.booted L memory k) := by
  refine ⟨h.isolated _, h.orderly, fun i hi => ?_⟩
  obtain ⟨fuel, fs, code, k₁, r, hc, hsw⟩ := h.cases
  have hi : k.state i = .ready := hi
  have hpcb := switch_ready hsw hi
  have hi₁ : k₁.state i = .ready := by rwa [state, ← hpcb]
  have hh : (initial L memory).handle L (.create fuel fs shellRequest) = some (⟨some code, .interrupted⟩, k₁) := by
    rw [Kernel.handle, hc]
    rfl
  obtain ⟨hready, -⟩ | ⟨_, he, -⟩ | ⟨-, pageDir, hctx⟩ := handle_ready hh hi₁
  · cases hready
  · cases he
  · have ht : track (initial L memory) k (fun _ => 0) i = pageDir := by
      rw [track, if_pos ⟨rfl, by rw [hi]; decide⟩, savedDirectory, hpcb, hctx]
      rfl
    change (k.processList i).context = initialContext (track (initial L memory) k (fun _ => 0) i)
    rw [ht, hpcb, hctx]

lemma boot_switched {memory : PhysicalMemory} {fuel : ℕ} {fs : FileSystem}
    (h : kernelSetup L fuel fs memory = some (.switched j ctx, k)) :
    ctx = initialContext (track (initial L memory) k (fun _ => 0) j) := by
  obtain ⟨⟨code, k₁⟩, hc, hsw⟩ := Option.map_eq_some_iff.mp h
  have hsw : k₁.schedulerSwitchToNextProcess = (.switched j ctx, k) := hsw
  obtain ⟨-, hj, rfl, rfl⟩ := switch_switched_context hsw
  have hh : (initial L memory).handle L (.create fuel fs shellRequest) = some (⟨some code, .interrupted⟩, k₁) := by
    rw [Kernel.handle, hc]
    rfl
  obtain ⟨hready, -⟩ | ⟨_, he, -⟩ | ⟨-, pageDir, hctx⟩ := handle_ready hh hj
  · cases hready
  · cases he
  · rw [hctx, track, dispatch_state, if_pos rfl, if_pos ⟨rfl, by decide⟩, dispatch_savedDirectory,
      savedDirectory, hctx]
    rfl

theorem switched_context_expected {memory : PhysicalMemory} {fuel : ℕ} {fs : FileSystem} {k₀ : Kernel}
    (hboot : kernelSetup L fuel fs memory = some (r, k₀)) :
    (∀ j ctx, r = .switched j ctx → ctx = initialContext (track (initial L memory) k₀ (fun _ => 0) j)) ∧
    ∀ events responses x event response y j ctx,
      Run (RecordedStep L) (History.booted L memory k₀) events responses x → RecordedStep L x event response y →
      response.resumption = .switched j ctx →
      ctx = (x.last j).getD (initialContext (x.home j)) ∧
        ∃ d, x.kernel.paging.pageDirectoryUsed d = true ∧ x.home j = L.address d ∧
          ∀ i ≠ j, x.kernel.state i ≠ .new → x.home i ≠ x.home j := by
  have hbooted : Booted L memory k₀ := ⟨fuel, fs, r, hboot⟩
  refine ⟨fun j ctx hr => boot_switched (hr ▸ hboot),
    fun events responses x event response y j ctx hrun hstep hr => ?_⟩
  have h : Remembers L x := hrun.invariant (P := Remembers L)
    (fun _ _ _ _ h hstep => RecordedStep.remembers hstep h) hbooted.remembers
  obtain ⟨⟨-, memory, hh⟩, -⟩ := hstep
  obtain ⟨hj, rfl⟩ := handle_switched_context hh hr
  have hj : x.kernel.state j = .ready := hj
  have hlive : x.kernel.Occupied j := .inl (by rw [hj]; decide)
  obtain ⟨d, hd, he⟩ := h.isolated.home_used j hlive
  refine ⟨h.contexts j hj, d, hd, he, fun i hij hi heq => hij ?_⟩
  exact h.isolated.exclusive i j _ ⟨.inl hi, heq⟩ ⟨hlive, rfl⟩

theorem switched_context_expected_child : ∃ k₀ r x y ctx,
    kernelSetup linked 2 shellDisk (fun _ => 0) = some (r, k₀) ∧
    Run (RecordedStep linked) (History.booted linked (fun _ => 0) k₀)
      [.create 2 shellDisk shellRequest] [⟨some processCreateSuccess, .interrupted⟩] x ∧
    RecordedStep linked x (.timer ⟨.zero, 0, 0⟩) ⟨none, .switched 1 ctx⟩ y ∧
    ctx = (x.last 1).getD (initialContext (x.home 1)) := by
  obtain ⟨k₀, r, hsetup, -, hshell⟩ := setup_shellDisk linked fun _ => 0
  obtain ⟨k, hstep, hchild⟩ := hshell.spawn linked
  obtain ⟨k', htimer⟩ := hchild.timer linked ⟨.zero, 0, 0⟩
  have hspawn := Step.recorded (x := History.booted linked (fun _ => 0) k₀) hstep
  have hswitch := Step.recorded (x := ⟨k, track k₀ k (History.booted linked (fun _ => 0) k₀).home,
    recordContext k₀ (.create 2 shellDisk shellRequest) fun _ => none⟩) htimer
  have hrun := Run.cons hspawn .nil
  exact ⟨k₀, r, _, _, _, hsetup, hrun, hswitch,
    ((switched_context_expected hsetup).2 _ _ _ _ _ _ _ _ hrun hswitch rfl).1⟩

end Semogakelar.Process.Kernel
