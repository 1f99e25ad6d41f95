import Semogakelar.Machine.Children

/-! The runs of the machine are runs of the process manager in which user code has stored through its own page
directory only, and a process that waits is left alone by all of them. -/

namespace Semogakelar.Machine

open Function Memory Fat32 Library Process Kernel State

variable {L : Layout} {img : KernelImage} {s : State} {r : Resumption} {home : Fin 16 → UInt32}

/-! ### Runs of the process manager -/

def switchOf : Resumption → Option (Fin 16 × Context)
  | .interrupted => none
  | .switched slot context => some (slot, context)

def Arrival.Raises (L : Layout) (a : Arrival) : Option Event → Prop
  | none => ∀ event, ¬ a.interrupt.Requests L a.state event
  | some event => a.interrupt.Requests L a.state event

lemma run_kernel {arrivals : List Arrival} {resumptions : List Resumption} {s' : State} {k : Kernel}
    (hrun : Run (MachineStep L img) s arrivals resumptions s') (hkeeps : ∀ a ∈ arrivals, a.KeepsOut L img)
    (hk : Serves L k s.kernel) (hiso : Isolated L k home) (hs : k.Settled) :
    ∃ events responses k', List.Forall₂ (Arrival.Raises L) arrivals events ∧
      Run (GuestStep L) k events.reduceOption responses k' ∧ Serves L k' s'.kernel ∧
      responses.filterMap (fun response => switchOf response.resumption) = resumptions.filterMap switchOf := by
  induction hrun generalizing k home with
  | nil => exact ⟨[], [], k, .nil, .nil, hk, rfl⟩
  | @cons s t u a r as rs hstep _ ih =>
    obtain ⟨ha, has⟩ := List.forall_mem_cons.mp hkeeps
    obtain ⟨hnone, rfl, hserves⟩ | ⟨event, response, k₁, hrequests, hguest, rfl, hserves, -⟩ :=
      hstep.kernel ha (hk.isolated hiso) (hk.settled hs)
    · obtain ⟨events, responses, k', hraises, hrun, hk', hswitch⟩ := ih has (hk.trans hserves) hiso hs
      exact ⟨none :: events, responses, k', .cons hnone hraises, hrun, hk', hswitch⟩
    · have hguest := GuestStep.of_serves hguest hk
      obtain ⟨hiso', hs'⟩ := hguest.step.isolated hiso hs
      obtain ⟨events, responses, k', hraises, hrun, hk', hswitch⟩ := ih has hserves hiso' hs'
      refine ⟨some event :: events, response :: responses, k', .cons hrequests hraises, .cons hguest hrun, hk', ?_⟩
      simp [List.filterMap_cons, hswitch]

theorem machine_runs_process_manager {s₀ : State} {arrivals : List Arrival} {resumptions : List Resumption}
    (hboot : Boots L img s₀) (hrun : Run (MachineStep L img) s₀ arrivals resumptions s)
    (hkeeps : ∀ a ∈ arrivals, a.KeepsOut L img) :
    (∃ events responses k, List.Forall₂ (Arrival.Raises L) arrivals events ∧
      Run (GuestStep L) s₀.kernel events.reduceOption responses k ∧ Serves L k s.kernel ∧
      responses.filterMap (fun response => switchOf response.resumption) = resumptions.filterMap switchOf) ∧
    ∀ a r s', MachineStep L img s a r s' → a.KeepsOut L img → a.Raises L none →
      r = .interrupted ∧ Serves L s.kernel s'.kernel := by
  obtain ⟨⟨home, hiso⟩, hs⟩ := hboot.sound hrun hkeeps
  obtain ⟨memory, hboot⟩ := hboot.booted
  have hiso₀ := hboot.isolated fun _ => 0
  refine ⟨run_kernel hrun hkeeps hiso₀.serves_self hiso₀ hboot.settled, fun a r s' hstep ha hnone => ?_⟩
  obtain ⟨-, hserves⟩ | ⟨event, response, k, hrequests, -⟩ := hstep.kernel ha hiso hs
  · exact hserves
  · exact (hnone event hrequests).elim

theorem machine_runs_process_manager_child : ∃ s₀ s found found' ctx, Boots linked plainImage s₀ ∧
    Run (MachineStep linked plainImage) s₀ [⟨callOf 12 0 4096, found⟩, ⟨timerAt 7, found'⟩]
      [.interrupted, .switched 1 ctx] s ∧
    ∃ events responses k, List.Forall₂ (Arrival.Raises linked) [⟨callOf 12 0 4096, found⟩,
      ⟨timerAt 7, found'⟩] events ∧
      Run (GuestStep linked) s₀.kernel events.reduceOption responses k ∧ Serves linked k s.kernel ∧
      responses.filterMap (fun response => switchOf response.resumption) = [(1, ctx)] := by
  obtain ⟨s₀, hshell⟩ := shellMachine
  obtain ⟨found, s₁, hspawn, hout, -, hpair⟩ := hshell.spawns
  obtain ⟨⟨home, hiso⟩, -⟩ := hshell.boots.sound (.cons hspawn .nil) (List.forall_mem_singleton.mpr hout)
  obtain ⟨found', ctx, s₂, hstep, -⟩ := hpair.turns hiso plainImage 7
  have hrun := Run.cons hspawn (.cons hstep .nil)
  have hkeeps : ∀ a ∈ [⟨callOf 12 0 4096, found⟩, ⟨timerAt 7, found'⟩], Arrival.KeepsOut linked plainImage a := by
    simp [hout, keepsOut_timer]
  exact ⟨s₀, s₂, found, found', ctx, hshell.boots, hrun, (machine_runs_process_manager hshell.boots hrun hkeeps).1⟩

/-! ### A process that waits -/

variable {j : Fin 16} {d : Fin 32} {ctx : Context} {view : UInt32 → Option UInt8} {a : Arrival} {s' : State}

def WaitingMachineStep (L : Layout) (img : KernelImage) (j : Fin 16) (s : State) (a : Arrival) (r : Resumption)
    (s' : State) : Prop :=
  MachineStep L img s a r s' ∧ (∀ event, a.interrupt.Requests L a.state event → ¬ s.kernel.Clears j event) ∧
    s'.kernel.runningProcessIdx ≠ some j

lemma WaitingMachineStep.waits (h : Waits L j d ctx view s.kernel) (hkeeps : a.KeepsOut L img)
    (hstep : WaitingMachineStep L img j s a r s') : Waits L j d ctx view s'.kernel := by
  obtain ⟨hstep, hclears, haway⟩ := hstep
  obtain ⟨home, hiso, -⟩ := h.isolated
  obtain ⟨-, -, hserves⟩ | ⟨event, response, k, hrequests, hguest, -, hserves, -⟩ :=
    hstep.kernel hkeeps hiso h.settled
  · exact h.serves hserves
  · have hk : k.runningProcessIdx ≠ some j := by rwa [hserves.running] at haway
    exact (h.step ⟨hguest, hclears event hrequests, hk⟩).serves hserves

theorem waiting_process_is_left_alone {s₀ s₁ s₂ s₃ s₄ : State} {arrivals others : List Arrival}
    {resumptions replies : List Resumption} {a₁ a₂ : Arrival} {r₁ : Resumption} (hboot : Boots L img s₀)
    (hrun : Run (MachineStep L img) s₀ arrivals resumptions s₁) (hj : s₁.kernel.runningProcessIdx = some j)
    (htimer : MachineStep L img s₁ a₁ r₁ s₂) (hi : a₁.interrupt.intNumber.toNat = 0x20)
    (haway : s₂.kernel.runningProcessIdx ≠ some j)
    (hwait : Run (WaitingMachineStep L img j) s₂ others replies s₃)
    (hback : MachineStep L img s₃ a₂ (.switched j ctx) s₄)
    (hkeeps : ∀ a ∈ arrivals ++ a₁ :: others ++ [a₂], a.KeepsOut L img) :
    ctx.cpu = a₁.interrupt.frame.cpu ∧ ctx.eip = a₁.interrupt.frame.eip ∧ ctx.eflags = a₁.interrupt.frame.eflags ∧
      s₄.kernel.cr3 = s₁.kernel.cr3 ∧
      ∃ d, s₁.kernel.cr3 = pagingUsePageDirectory (L.address d) ∧ s₄.kernel.shown d = s₂.kernel.shown d := by
  obtain ⟨⟨home, hiso⟩, hs⟩ := hboot.sound hrun fun a ha => hkeeps a (by simp [ha])
  obtain ⟨-, -, hserves⟩ | ⟨event, response, k, hrequests, hguest, -, -, hsame⟩ :=
    htimer.kernel (hkeeps a₁ (by simp)) hiso hs
  · rw [hserves.running] at haway
    exact (haway hj).elim
  obtain rfl := hrequests.timer hi
  have hk : s₂.kernel = k := hsame (handle_timer_code hguest)
  subst hk
  obtain ⟨d, hd, hw⟩ := timer_waits hiso hs hj hguest haway
  have hw := hwait.invariant_on (P := fun s => Waits L j d _ _ s.kernel)
    (fun _ _ _ _ ha hw hstep => WaitingMachineStep.waits hw ha hstep) (fun a ha => hkeeps a (by simp [ha])) hw
  obtain ⟨home', hiso', -⟩ := hw.isolated
  obtain ⟨-, hr, -⟩ | ⟨event, response, k, -, hguest', hr, -, hsame⟩ :=
    hback.kernel (hkeeps a₂ (by simp)) hiso' hw.settled
  · cases hr
  obtain ⟨⟨home'', hiso'', hd''⟩, -, hshown⟩ := hw.guest hguest'
  obtain ⟨-, memory, -, hh⟩ := hguest'
  have hk := hsame (handle_switched_code hh hr)
  have hctx : ctx = (s₃.kernel.processList j).context := (handle_switched_context hh hr).2
  rw [hw.context] at hctx
  subst hctx
  have hcr : s₁.kernel.cr3 = pagingUsePageDirectory (L.address d) := by rw [hiso.active j hj, hd]
  refine ⟨rfl, rfl, rfl, ?_, d, hcr, ?_⟩
  · rw [hcr, hk, hiso''.active j (handle_switched hh hr).1, hd'']
  · rw [hk, hshown]

theorem waiting_process_is_left_alone_shell : ∃ s₀ s₁ s₂ s₃ s₄ found found₁ found₃ ctx ctx',
    Boots linked plainImage s₀ ∧ MachineStep linked plainImage s₀ ⟨callOf 12 0 4096, found⟩ .interrupted s₁ ∧
    MachineStep linked plainImage s₁ ⟨timerAt 7, found₁⟩ (.switched 1 ctx') s₂ ∧
    MachineStep linked plainImage s₂ ⟨callOf 4 0 0, s₂⟩ .interrupted s₃ ∧
    MachineStep linked plainImage s₃ ⟨timerAt 0, found₃⟩ (.switched 0 ctx) s₄ ∧ ctx.eip = 7 ∧
    ∃ d, s₁.kernel.cr3 = pagingUsePageDirectory (linked.address d) ∧ s₄.kernel.shown d = s₂.kernel.shown d := by
  obtain ⟨s₀, hshell⟩ := shellMachine
  obtain ⟨found, s₁, hspawn, hout, -, hpair₁⟩ := hshell.spawns
  obtain ⟨⟨home₁, hiso₁⟩, -⟩ := hshell.boots.sound (.cons hspawn .nil) (List.forall_mem_singleton.mpr hout)
  obtain ⟨found₁, ctx', s₂, haway, -, hpair₂⟩ := hpair₁.turns hiso₁ plainImage 7
  obtain ⟨⟨home₂, hiso₂⟩, -⟩ := hshell.boots.sound (.cons hspawn (.cons haway .nil))
    (by simp [hout, keepsOut_timer])
  obtain ⟨s₃, hkey, hserves, -⟩ := hpair₂.uses.key hiso₂ plainImage 0 (by decide) 0
  have hkeyOut : Arrival.KeepsOut linked plainImage ⟨callOf 4 0 0, s₂⟩ := keepsOut_key (by decide) 0 s₂
  have hpair₃ := hpair₂.serves hserves
  obtain ⟨found₃, ctx, s₄, hback, -⟩ := hpair₃.turns (hserves.isolated hiso₂) plainImage 0
  have hne : ∀ {t : State}, t.kernel.runningProcessIdx = some 1 → t.kernel.runningProcessIdx ≠ some 0 := by
    intro t ht
    rw [ht]
    decide
  have hwait : WaitingMachineStep linked plainImage 0 s₂ ⟨callOf 4 0 0, s₂⟩ .interrupted s₃ := by
    have hcalls : (callOf 4 0 0).Calls 4 := ⟨rfl, rfl⟩
    exact ⟨hkey, fun event hr => (hcalls.not_requests (by decide) (by decide) (by decide) event hr).elim,
      hne hpair₃.running⟩
  have hme := waiting_process_is_left_alone hshell.boots (.cons hspawn .nil) hpair₁.running haway rfl
    (hne hpair₂.running) (.cons hwait .nil) hback (by simp [hout, keepsOut_timer, hkeyOut])
  exact ⟨s₀, s₁, s₂, s₃, s₄, found, found₁, found₃, ctx, ctx', hshell.boots, hspawn, haway, hkey, hback, hme.2.1,
    hme.2.2.2.2⟩

end Semogakelar.Machine
