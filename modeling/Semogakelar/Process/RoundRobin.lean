import Semogakelar.Process.Conservation
import Semogakelar.Process.Lifecycle

/-! The slot that a creation gets, and the order in which the timer takes the slots. -/

namespace Semogakelar.Process.Kernel

open Function Memory Fat32 Library

variable {L : Layout} {k k' : Kernel} {s i : Fin 16} {r : Resumption} {event : Event} {response : Response}

/-! ### The free slot -/

/-- `process_list_get_inactive_index` as the loop that it is: nothing but a NEW slot ends it. -/
def inactiveIndexLoop (processList : Fin 16 → ProcessControlBlock) : ℕ → ℕ → Outcome Unit ℕ
  | 0, _ => .running ()
  | fuel + 1, i =>
    if h : i < 16 then
      if (processList ⟨i, h⟩).state ≠ .new then inactiveIndexLoop processList fuel (i + 1) else .returned i ()
    else .outside ()

lemma inactiveIndexLoop_eq {processList : Fin 16 → ProcessControlBlock} (hi : (processList i).state = .new)
    {j fuel : ℕ} (hj : j ≤ i.val) (hlow : ∀ l : Fin 16, j ≤ l.val → l < i → (processList l).state ≠ .new)
    (hf : i.val - j < fuel) : inactiveIndexLoop processList fuel j = .returned i.val () := by
  induction fuel generalizing j with
  | zero => omega
  | succ fuel ih =>
    rw [inactiveIndexLoop, dif_pos (by omega)]
    by_cases he : j = i.val
    · subst he
      rw [if_neg (not_not.mpr hi)]
    · rw [if_pos (hlow ⟨j, by omega⟩ le_rfl (by rw [Fin.lt_def]; simp only; omega))]
      exact ih (by omega) (fun l hl hlt => hlow l (by omega) hlt) (by omega)

lemma processListGetInactiveIndex_loop (h : processListGetInactiveIndex k.processList = some i) :
    k.state i = .new ∧ ∀ fuel, i.val < fuel → inactiveIndexLoop k.processList fuel 0 = .returned i.val () := by
  obtain ⟨hi, hlow⟩ := Fin.find?_eq_some_iff.mp h
  have hi : (k.processList i).state = .new := by simpa using hi
  refine ⟨hi, fun fuel hf => inactiveIndexLoop_eq hi (Nat.zero_le _) (fun l _ hlt => ?_) hf⟩
  simpa using hlow l hlt

lemma liveCount_le (h : ∀ i, k.state i = .new → k'.state i = .new) : k'.liveCount ≤ k.liveCount := by
  refine tally_le_tally fun i => ?_
  have hi : (k.processList i).state = .new → (k'.processList i).state = .new := h i
  by_cases hn : (k.processList i).state = .new
  · simp only [liveWeight, hi hn, hn, le_refl]
  · simp only [liveWeight, hn, if_false]
    split_ifs
    · exact Nat.zero_le 1
    · exact le_rfl

lemma handle_liveCount_le (hs : k.Settled) (h : k.handle L event = some (response, k'))
    (ha : (k.liveCount : ℤ) ≤ k.activeProcessCount) : (k'.liveCount : ℤ) ≤ k'.activeProcessCount := by
  have hother : (∀ fuel fs request, event ≠ .create fuel fs request) →
      k'.activeProcessCount = k.activeProcessCount → (k'.liveCount : ℤ) ≤ k'.activeProcessCount := by
    intro hne hc
    have hle := liveCount_le fun i hi => (handle_new hs h hi).resolve_right
      fun ⟨fuel, fs, request, _, _, he, _⟩ => hne fuel fs request he
    rw [hc]
    omega
  cases event with
  | timer frame => exact hother nofun (timer_rescheduled h).activeProcessCount
  | create fuel fs request =>
    obtain ⟨code, -, hc⟩ := createEvent_cases h
    obtain ⟨-, ht⟩ | ⟨-, pIndex, newPage, paging, hcr⟩ := processCreateUserProcess_outcomes hc
    · rw [liveCount_congr ht.new, ht.activeProcessCount]
      exact ha
    · rw [hcr.activeProcessCount, hcr.liveCount, Nat.cast_succ]
      omega
  | kill pid =>
    obtain ⟨code, hk⟩ := killEvent_cases h
    obtain ⟨s, -, ⟨-, hsw⟩ | ⟨-, -, ⟨-, rfl⟩ | ⟨i, -, rfl⟩⟩⟩ := killProcess_cases hk
    · exact hother nofun (switch_rescheduled hsw).activeProcessCount
    · exact ha
    · exact hother nofun rfl
  | terminate =>
    obtain ⟨s, -, hsw⟩ := terminateCurrentProcess_cases (terminateEvent_cases h)
    exact hother nofun (switch_rescheduled hsw).activeProcessCount

lemma exists_inactive (ha : (k.liveCount : ℤ) ≤ k.activeProcessCount) (hlt : k.activeProcessCount < 16) :
    ∃ i, processListGetInactiveIndex k.processList = some i := by
  have hsum := k.liveCount_add_newCount
  have hne : k.newCount ≠ 0 := by omega
  rw [Ne, newCount_eq_zero, not_forall] at hne
  obtain ⟨j, hj⟩ := hne
  refine Option.ne_none_iff_exists'.mp fun hf => hj fun hn => ?_
  have hnone := Fin.find?_eq_none_iff.mp hf j
  rw [show (k.processList j).state = .new from hn] at hnone
  exact absurd hnone (by decide)

structure Bounded (k : Kernel) : Prop where
  live : (k.liveCount : ℤ) ≤ k.activeProcessCount
  settled : k.Settled

lemma Bounded.step (h : Bounded k) (hstep : Step L k event response k') : Bounded k' := by
  refine ⟨?_, hstep.settled h.settled⟩
  obtain ⟨-, memory, hh⟩ := hstep
  exact handle_liveCount_le (k := { k with memory := memory }) h.settled hh h.live

lemma Booted.bounded {memory : PhysicalMemory} (h : Booted L memory k) : Bounded k :=
  ⟨h.active.symm.le, h.settled⟩

theorem inactive_index_found {memory : PhysicalMemory} {k₀ : Kernel} {events : List Event}
    {responses : List Response} (hboot : Booted L memory k₀) (hrun : Run (Step L) k₀ events responses k)
      (hlt : k.activeProcessCount < 16) :
    ∃ i : Fin 16, k.state i = .new ∧ processListGetInactiveIndex k.processList = some i ∧
      ∀ fuel, i.val < fuel → inactiveIndexLoop k.processList fuel 0 = .returned i.val () := by
  have hb : Bounded k := hrun.invariant (P := Bounded) (fun _ _ _ _ h hstep => h.step hstep) hboot.bounded
  obtain ⟨i, hf⟩ := exists_inactive hb.live hlt
  obtain ⟨hnew, hloop⟩ := processListGetInactiveIndex_loop hf
  exact ⟨i, hnew, hf, hloop⟩

theorem inactive_index_found_child : ∃ k₀ k, Booted linked (fun _ => 0) k₀ ∧
    Run (Step linked) k₀ [.create 2 shellDisk shellRequest, .kill 2]
      [⟨some processCreateSuccess, .interrupted⟩, ⟨some 0, .interrupted⟩] k ∧ k.activeProcessCount < 16 ∧
    ∃ i : Fin 16, k.state i = .new ∧ processListGetInactiveIndex k.processList = some i ∧
      ∀ fuel, i.val < fuel → inactiveIndexLoop k.processList fuel 0 = .returned i.val () := by
  obtain ⟨k₀, hboot, hshell⟩ := boot_shellDisk linked fun _ => 0
  obtain ⟨k₁, hstep, hchild⟩ := hshell.spawn linked
  have hrun : Run (Step linked) k₀ [.create 2 shellDisk shellRequest, .kill 2]
      [⟨some processCreateSuccess, .interrupted⟩, ⟨some 0, .interrupted⟩] (k₁.clearPcb 1) :=
    .cons hstep (.cons (hchild.kill linked) .nil)
  have hlt : (k₁.clearPcb 1).activeProcessCount < 16 := by
    rw [show (k₁.clearPcb 1).activeProcessCount = 2 from hchild.active]
    decide
  exact ⟨k₀, _, hboot.booted, hrun, hlt, inactive_index_found hboot.booted hrun hlt⟩

/-! ### The order of the timer -/

def cycle (x : Fin 16) : ℕ → List (Fin 16)
  | 0 => []
  | n + 1 => x :: cycle (x + 1) n

def ring (s : Fin 16) : List (Fin 16) := cycle (s + 1) 16

def Scheduled (k : Kernel) (i : Fin 16) : Prop := k.state i = .ready ∨ k.state i = .running

instance (k : Kernel) : DecidablePred k.Scheduled := fun i =>
  inferInstanceAs (Decidable (k.state i = .ready ∨ k.state i = .running))

def rounds (k : Kernel) (s : Fin 16) : List (Fin 16) := (ring s).filter fun i => k.Scheduled i

lemma ring_nodup (s : Fin 16) : (ring s).Nodup := by
  revert s
  decide

lemma mem_ring (s i : Fin 16) : i ∈ ring s := by
  revert s i
  decide

lemma ring_rotate_one (s : Fin 16) : (ring s).rotate 1 = ring (s + 1) := by
  revert s
  decide

lemma ring_getLast? (s : Fin 16) : (ring s).getLast? = some s := by
  revert s
  decide

lemma ring_rotate (s : Fin 16) (n : ℕ) : ∃ x, (ring s).rotate n = ring x := by
  induction n with
  | zero => exact ⟨s, List.rotate_zero _⟩
  | succ n ih =>
    obtain ⟨x, hx⟩ := ih
    exact ⟨x + 1, by rw [← List.rotate_rotate, hx, ring_rotate_one]⟩

lemma searchReady_find {processList : Fin 16 → ProcessControlBlock} {running : Option (Fin 16)} {n : ℕ}
    {x y : Fin 16} (h : (cycle x n).find? (fun i => some i = running ∨ (processList i).state = .ready) = some y) :
    (searchReady processList running n x).1 = y ∧ (searchReady processList running n x).2 ≠ 0 := by
  induction n generalizing x with
  | zero => cases h
  | succ n ih =>
    rw [searchReady]
    rw [cycle, List.find?_cons] at h
    split_ifs with hc
    · rw [decide_eq_true hc] at h
      exact ⟨Option.some.inj h, Nat.succ_ne_zero n⟩
    · rw [decide_eq_false hc] at h
      exact ih h

lemma Orderly.not_running (h : Orderly k) (hs : k.runningProcessIdx = some s) (hi : i ≠ s) :
    k.state i ≠ .running := by
  intro hr
  obtain hn | hn | ⟨-, hn⟩ := h.states i
  · cases hr.symm.trans hn
  · cases hr.symm.trans hn
  · exact hi (Option.some.inj (hn.symm.trans hs))

lemma Orderly.scheduled_running (h : Orderly k) (hs : k.runningProcessIdx = some s) : k.Scheduled s :=
  .inr (h.settled s hs)

lemma rounds_getLast? (h : Orderly k) (hs : k.runningProcessIdx = some s) : (k.rounds s).getLast? = some s := by
  obtain ⟨l, hl⟩ := List.getLast?_eq_some_iff.mp (ring_getLast? s)
  rw [rounds, hl, List.filter_append, List.filter_singleton, decide_eq_true (h.scheduled_running hs), cond_true,
    List.getLast?_append, List.getLast?_singleton, Option.some_or]

lemma mem_rounds : i ∈ k.rounds s ↔ k.Scheduled i := by
  rw [rounds, List.mem_filter, decide_eq_true_eq]
  exact and_iff_right (mem_ring s i)

lemma rounds_congr (h : ∀ i, k'.Scheduled i ↔ k.Scheduled i) (s : Fin 16) : k'.rounds s = k.rounds s :=
  List.filter_congr fun i _ => decide_eq_decide.mpr (h i)

lemma rounds_next {x : Fin 16} {l : List (Fin 16)} (h : k.rounds s = x :: l) : k.rounds x = l ++ [x] := by
  obtain ⟨l₁, l₂, hring, hfirst, hx, rfl⟩ := List.filter_eq_cons_iff.mp h
  obtain ⟨y, hy⟩ := ring_rotate s (l₁ ++ [x]).length
  rw [hring, show l₁ ++ x :: l₂ = (l₁ ++ [x]) ++ l₂ by simp, List.rotate_append_length_eq] at hy
  have hlast := ring_getLast? y
  rw [← hy, ← List.append_assoc, List.getLast?_append, List.getLast?_singleton, Option.some_or] at hlast
  obtain rfl := Option.some.inj hlast
  have hnil : l₁.filter (fun i => decide (k.Scheduled i)) = [] := List.filter_eq_nil_iff.mpr hfirst
  rw [rounds, ← hy, List.filter_append, List.filter_append, hnil, List.nil_append, List.filter_singleton, hx,
    cond_true]

lemma switch_next (hs : k.runningProcessIdx = some s) {x : Fin 16}
    (hx : (ring s).find? (fun i => some i = k.runningProcessIdx ∨ k.state i = .ready) = some x)
    (h : k.schedulerSwitchToNextProcess = (r, k')) :
    k'.runningProcessIdx = some x ∧ ∀ i, k'.state i = if i = x then .running else k.state i := by
  rw [hs] at hx
  obtain ⟨hnext, hleft⟩ : (searchReady k.processList (some s) 16 (s + 1)).1 = x ∧
      (searchReady k.processList (some s) 16 (s + 1)).2 ≠ 0 := searchReady_find hx
  unfold schedulerSwitchToNextProcess at h
  simp only [hs, hnext] at h
  split_ifs at h with he
  · obtain ⟨-, rfl⟩ := Prod.mk.inj h
    exact ⟨hs.trans he.symm, fun _ => markRunning_state⟩
  · obtain ⟨-, rfl⟩ := Prod.mk.inj h
    exact ⟨rfl, fun _ => dispatch_state⟩

lemma timer_rounds (ho : Orderly k) (hs : k.runningProcessIdx = some s) {frame : InterruptFrame}
    (h : k.handle L (.timer frame) = some (response, k')) :
    ∃ x l, k.rounds s = x :: l ∧ k'.runningProcessIdx = some x ∧ ∀ i, k'.Scheduled i ↔ k.Scheduled i := by
  have hsw := timerInterrupt_cases h
  set saved := k.schedulerSaveContextToCurrentRunningPcb
    ⟨frame.cpu, frame.eip, frame.eflags, pagingGetCurrentPageDirectoryAddr k.cr3⟩
  have hrun : saved.runningProcessIdx = some s := save_runningProcessIdx.trans hs
  have hstate : ∀ i, saved.state i = if i = s then .ready else k.state i := fun i => save_state hs
  have hsched : ∀ i, (some i = saved.runningProcessIdx ∨ saved.state i = .ready) ↔ k.Scheduled i := by
    intro i
    rw [hrun, hstate]
    by_cases hi : i = s
    · exact iff_of_true (.inl (congrArg some hi)) (hi ▸ ho.scheduled_running hs)
    · rw [if_neg hi, or_iff_right fun he => hi (Option.some.inj he)]
      exact ⟨.inl, fun hk => hk.resolve_right (ho.not_running hs hi)⟩
  obtain ⟨x, l, hxl⟩ := List.exists_cons_of_ne_nil (List.ne_nil_of_mem (mem_rounds.mpr (ho.scheduled_running hs)))
  have hhead : (k.rounds s).head? = some x := by rw [hxl, List.head?_cons]
  have hfind : (ring s).find? (fun i => some i = saved.runningProcessIdx ∨ saved.state i = .ready) = some x := by
    rw [← hhead, rounds, List.head?_filter]
    simp only [hsched]
  have hx : k.Scheduled x := mem_rounds.mp (hxl ▸ List.mem_cons_self)
  obtain ⟨hx', hst⟩ := switch_next hrun hfind hsw
  refine ⟨x, l, hxl, hx', fun i => ?_⟩
  rw [Scheduled, hst]
  by_cases hi : i = x
  · rw [if_pos hi]
    exact iff_of_true (.inr rfl) (hi ▸ hx)
  · rw [if_neg hi, hstate]
    split_ifs with his
    · exact iff_of_true (.inl rfl) (his ▸ ho.scheduled_running hs)
    · rfl

lemma timer_rotates (ho : Orderly k) (hs : k.runningProcessIdx = some s) {frame : InterruptFrame}
    (h : Step L k (.timer frame) response k') :
    ∃ x, k'.runningProcessIdx = some x ∧ k'.rounds x = (k.rounds s).rotate 1 ∧
      ∀ i, k'.Scheduled i ↔ k.Scheduled i := by
  obtain ⟨-, memory, hh⟩ := h
  obtain ⟨x, l, hxl, hx, hsched⟩ := timer_rounds (ho.memory memory) hs hh
  have hxl : k.rounds s = x :: l := hxl
  refine ⟨x, hx, ?_, hsched⟩
  rw [rounds_congr hsched]
  exact (rounds_next hxl).trans (by rw [hxl, List.rotate_cons_succ, List.rotate_zero])

lemma timers_rotate {frames : List InterruptFrame} {responses : List Response} (ho : Orderly k)
    (hs : k.runningProcessIdx = some s) (h : Run (Step L) k (frames.map .timer) responses k') :
    ∃ x, k'.runningProcessIdx = some x ∧ k'.rounds x = (k.rounds s).rotate frames.length ∧
      ∀ i, k'.Scheduled i ↔ k.Scheduled i := by
  induction frames generalizing k s responses with
  | nil =>
    cases h
    exact ⟨s, hs, (List.rotate_zero _).symm, fun _ => Iff.rfl⟩
  | cons frame frames ih =>
    cases h with
    | cons hstep hrun =>
      obtain ⟨x, hx, hrot, hsched⟩ := timer_rotates ho hs hstep
      obtain ⟨y, hy, hrot', hsched'⟩ := ih (ho.step hstep) hx hrun
      refine ⟨y, hy, ?_, fun i => (hsched' i).trans (hsched i)⟩
      rw [hrot', hrot, List.rotate_rotate, List.length_cons, Nat.add_comm]

lemma timers_run (L : Layout) (k : Kernel) (frames : List InterruptFrame) :
    ∃ responses k', Run (Step L) k (frames.map .timer) responses k' := by
  induction frames generalizing k with
  | nil => exact ⟨[], k, .nil⟩
  | cons frame frames ih =>
    have hstep : Step L k (.timer frame) ⟨none, (k.timerInterrupt frame).1⟩ (k.timerInterrupt frame).2 :=
      ⟨.inl ⟨frame, rfl⟩, k.memory, rfl⟩
    obtain ⟨responses, k', hrun⟩ := ih (k.timerInterrupt frame).2
    exact ⟨_, k', .cons hstep hrun⟩

lemma getLast?_rotate {α : Type*} (l : List α) {n : ℕ} (hn : n < l.length) :
    (l.rotate (n + 1)).getLast? = l[n]? := by
  rw [List.rotate_eq_drop_append_take (by omega), List.take_succ_eq_append_getElem hn, ← List.append_assoc,
    List.getLast?_append, List.getLast?_singleton, Option.some_or, List.getElem?_eq_getElem hn]

structure Round (k : Kernel) (s : Fin 16) : Prop where
  mem : ∀ i, i ∈ k.rounds s ↔ k.Scheduled i
  nodup : (k.rounds s).Nodup
  length : (k.rounds s).length = (Finset.univ.filter k.Scheduled).card
  last : (k.rounds s).getLast? = some s

lemma Orderly.round (ho : Orderly k) (hs : k.runningProcessIdx = some s) : Round k s := by
  have hnodup : (k.rounds s).Nodup := (ring_nodup s).filter _
  refine ⟨fun _ => mem_rounds, hnodup, ?_, rounds_getLast? ho hs⟩
  rw [← List.toFinset_card_of_nodup hnodup]
  congr 1
  ext i
  simp [mem_rounds]

theorem round_robin {memory : PhysicalMemory} {k₀ : Kernel} {events : List Event} {responses : List Response}
    (hboot : Booted L memory k₀) (hrun : Run (Step L) k₀ events responses k) (hs : k.runningProcessIdx = some s) :
    Round k s ∧
    (∀ frames : List InterruptFrame, ∃ answers k', Run (Step L) k (frames.map .timer) answers k') ∧
    ∀ (frames : List InterruptFrame) (answers : List Response) (k' : Kernel),
      Run (Step L) k (frames.map .timer) answers k' → (∀ i, k'.Scheduled i ↔ k.Scheduled i) ∧
      ∀ n, frames.length = n + 1 → n < (k.rounds s).length → k'.runningProcessIdx = (k.rounds s)[n]? := by
  have ho := hboot.orderly.run hrun
  refine ⟨ho.round hs, timers_run L k, fun frames answers k' h => ?_⟩
  obtain ⟨x, hx, hrot, hsched⟩ := timers_rotate ho hs h
  refine ⟨hsched, fun n hn hlt => ?_⟩
  rw [hx, ← rounds_getLast? (ho.run h) hx, hrot, hn, getLast?_rotate _ hlt]

lemma ShellAndChild.rounds (h : k.ShellAndChild) : k.rounds 0 = [1, 0] := by
  have hsched : ∀ i, k.Scheduled i ↔ i = 0 ∨ i = 1 := by
    intro i
    by_cases h₀ : i = 0
    · exact iff_of_true (.inr (h₀ ▸ h.shell)) (.inl h₀)
    by_cases h₁ : i = 1
    · exact iff_of_true (.inl (h₁ ▸ h.child)) (.inr h₁)
    · have hnew : k.state i = .new := by
        rw [state, h.rest i h₀ h₁]
        rfl
      exact iff_of_false (by simp [Scheduled, hnew]) (by simp [h₀, h₁])
  rw [Kernel.rounds]
  simp only [hsched]
  decide

theorem round_robin_child : ∃ k₀ k, Booted linked (fun _ => 0) k₀ ∧
    Run (Step linked) k₀ [.create 2 shellDisk shellRequest] [⟨some processCreateSuccess, .interrupted⟩] k ∧
    k.runningProcessIdx = some 0 ∧ k.rounds 0 = [1, 0] ∧
    ∀ first second answers k', Run (Step linked) k [.timer first, .timer second] answers k' →
      k'.runningProcessIdx = some 0 := by
  obtain ⟨k₀, hboot, hshell⟩ := boot_shellDisk linked fun _ => 0
  obtain ⟨k, hstep, hchild⟩ := hshell.spawn linked
  have hrun : Run (Step linked) k₀ [.create 2 shellDisk shellRequest]
      [⟨some processCreateSuccess, .interrupted⟩] k :=
    .cons hstep .nil
  refine ⟨k₀, k, hboot.booted, hrun, hchild.running, hchild.rounds, fun first second answers k' h => ?_⟩
  have hround := (round_robin hboot.booted hrun hchild.running).2.2 [first, second] answers k' h
  have hlast := hround.2 1 rfl
  rw [hchild.rounds] at hlast
  exact hlast (by decide)

end Semogakelar.Process.Kernel
