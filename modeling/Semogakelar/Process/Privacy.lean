import Mathlib.Logic.Relation
import Semogakelar.Process.Contexts
import Semogakelar.Process.Loading

/-! What a process has in memory stays as it is while other processes run. -/

namespace Semogakelar.Memory

open Function

variable {pageDir : PageDirectory} {memory memory' : PhysicalMemory} {addr dest src : UInt32} {n a : ℕ}

lemma translate_eq_some (h : translate pageDir addr = some a) :
    (pageDir (pageIndex addr)).flag.presentBit = true ∧
      a = (pageDir (pageIndex addr)).lowerAddress.val * 2 ^ 22 + addr.toNat % 2 ^ 22 := by
  rw [translate] at h
  split_ifs at h with hp
  exact ⟨hp, (Option.some.inj h).symm⟩

lemma storeBytes_frame {data : ℕ → UInt8} (h : storeBytes pageDir addr data n memory = some memory')
    (ha : ∀ j < n, translate pageDir (addr + UInt32.ofNat j) ≠ some a) : memory' a = memory a := by
  induction n generalizing memory' with
  | zero =>
    cases h
    rfl
  | succ n ih =>
    obtain ⟨m₁, h₁, h⟩ := Option.bind_eq_some_iff.mp h
    obtain ⟨b, hb, rfl⟩ := Option.map_eq_some_iff.mp h
    have hne : a ≠ b := fun he => ha n (Nat.lt_succ_self n) (he ▸ hb)
    rw [update_of_ne hne]
    exact ih h₁ fun j hj => ha j (Nat.lt_succ_of_lt hj)

lemma memcpy_frame (h : memcpy pageDir dest src n memory = some memory')
    (ha : ∀ j < n, translate pageDir (dest + UInt32.ofNat j) ≠ some a) : memory' a = memory a := by
  induction n generalizing memory' with
  | zero =>
    cases h
    rfl
  | succ n ih =>
    obtain ⟨m₁, h₁, h⟩ := Option.bind_eq_some_iff.mp h
    obtain ⟨c, -, h⟩ := Option.bind_eq_some_iff.mp h
    obtain ⟨b, hb, rfl⟩ := Option.map_eq_some_iff.mp h
    have hne : a ≠ b := fun he => ha n (Nat.lt_succ_self n) (he ▸ hb)
    rw [update_of_ne hne]
    exact ih h₁ fun j hj => ha j (Nat.lt_succ_of_lt hj)

namespace PageManager

variable {pm pm' : PageManager} {d e : Fin 32}

def Holds (pm : PageManager) (d : Fin 32) (a : ℕ) : Prop :=
  ∃ addr, pageIndex addr ≠ kernelPage ∧ translate (pm.pageDirectoryList d) addr = some a

lemma Holds.maps (h : pm.Holds d a) : ∃ p f, pm.Maps (d, p) f ∧ a / 2 ^ 22 = f.val := by
  obtain ⟨addr, hp, ht⟩ := h
  obtain ⟨hpresent, rfl⟩ := translate_eq_some ht
  refine ⟨pageIndex addr, _, ⟨hp, hpresent, rfl⟩, ?_⟩
  dsimp only
  omega

lemma Sound.holds_unique (h : pm.Sound) (hd : pm.Holds d a) (he : pm.Holds e a) : d = e := by
  obtain ⟨p, f, hp, hf⟩ := hd.maps
  obtain ⟨q, g, hq, hg⟩ := he.maps
  obtain rfl : f = g := Fin.ext (hf.symm.trans hg)
  exact (Prod.mk.inj (h.exclusive _ _ f hp hq)).1

lemma Sound.holds_user (h : pm.Sound) (hd : pm.Holds d a) : 2 ^ 22 ≤ a := by
  obtain ⟨p, f, hp, hf⟩ := hd.maps
  obtain ⟨i, hi, hi₀, -⟩ := h.marked _ _ hp
  have hv : i.val ≠ 0 := fun hz => hi₀ (Fin.ext hz)
  omega

lemma Sound.translate_cases (h : pm.Sound) (hd : pm.pageDirectoryUsed d = true)
    (ht : translate (pm.pageDirectoryList d) addr = some a) : pm.Holds d a ∨ a < 2 ^ 22 := by
  by_cases hp : pageIndex addr = kernelPage
  · obtain ⟨-, rfl⟩ := translate_eq_some ht
    rw [hp, h.kernelEntry d hd]
    right
    change 0 * 2 ^ 22 + _ < _
    omega
  · exact .inl ⟨addr, hp, ht⟩

lemma allocateUserPages_other (h : pm.allocateUserPages d n = some pm') (he : e ≠ d) :
    pm'.pageDirectoryList e = pm.pageDirectoryList e := by
  induction n generalizing pm' with
  | zero =>
    cases h
    rfl
  | succ n ih =>
    obtain ⟨pm₁, b, h₁, h₂⟩ := allocateUserPages_succ h
    obtain ⟨-, -, rfl⟩ | ⟨i, -, -, -, -, rfl⟩ := pagingAllocateUserPageFrame_cases h₂
    · exact ih h₁
    · rw [← ih h₁]
      exact update_of_ne he ..

end PageManager

end Semogakelar.Memory

namespace Semogakelar.Process.Kernel

open Function Memory Fat32 Library Relation

variable {L : Layout} {k k' : Kernel} {s i : Fin 16} {d : Fin 32} {event : Event} {response : Response}
  {home : Fin 16 → UInt32} {memory memory' : PhysicalMemory} {a : ℕ}

/-! ### The stores of user code -/

/-- One byte stored through the directory, by user code or by a system call that it has given the address. -/
def Stores (pageDir : PageDirectory) (memory memory' : PhysicalMemory) : Prop :=
  ∃ addr a v, translate pageDir addr = some a ∧ memory' = update memory a v

/-- What the memory can be at the next interrupt: only the running process has stored, and only through its
directory. -/
def Leaves (L : Layout) (k : Kernel) (memory : PhysicalMemory) : Prop :=
  match k.runningProcessIdx with
  | none => memory = k.memory
  | some _ => ∃ d, k.cr3 = pagingUsePageDirectory (L.address d) ∧
      ReflTransGen (Stores (k.paging.pageDirectoryList d)) k.memory memory

def GuestStep (L : Layout) (k : Kernel) (event : Event) (response : Response) (k' : Kernel) : Prop :=
  ((∃ frame, event = .timer frame) ∨ k.runningProcessIdx ≠ none) ∧
    ∃ memory, k.Leaves L memory ∧ { k with memory := memory }.handle L event = some (response, k')

lemma GuestStep.step (h : GuestStep L k event response k') : Step L k event response k' := by
  obtain ⟨hr, memory, -, hh⟩ := h
  exact ⟨hr, memory, hh⟩

lemma stores_frame {pageDir : PageDirectory} (h : ReflTransGen (Stores pageDir) memory memory')
    (ha : ∀ addr, translate pageDir addr ≠ some a) : memory' a = memory a := by
  induction h with
  | refl => rfl
  | tail _ hstore ih =>
    obtain ⟨addr, b, v, ht, rfl⟩ := hstore
    have hne : a ≠ b := fun he => ha addr (he ▸ ht)
    rw [update_of_ne hne, ih]

lemma Isolated.current_directory (h : Isolated L k home) (hs : k.runningProcessIdx = some s) :
    ∃ d, home s = L.address d ∧ k.paging.pageDirectoryUsed d = true ∧
    k.cr3 = pagingUsePageDirectory (L.address d) := by
  obtain ⟨d, hused, hd⟩ := h.home_used s (.inr hs)
  exact ⟨d, hd, hused, by rw [h.active s hs, hd]⟩

lemma Isolated.leaves_self (h : Isolated L k home) : k.Leaves L k.memory := by
  rw [Leaves]
  cases hr : k.runningProcessIdx with
  | none => rfl
  | some s =>
    obtain ⟨d, -, -, hd⟩ := h.current_directory hr
    exact ⟨d, hd, .refl⟩

lemma Isolated.leaves_frame (h : Isolated L k home) (hm : k.Leaves L memory) (ho : k.Occupied i)
    (hi : k.runningProcessIdx ≠ some i) (hd : home i = L.address d) (ha : k.paging.Holds d a) :
    memory a = k.memory a := by
  rw [Leaves] at hm
  cases hr : k.runningProcessIdx with
  | none =>
    rw [hr] at hm
    rw [hm]
  | some s =>
    rw [hr] at hm
    obtain ⟨e, he, hstores⟩ := hm
    obtain ⟨e', hs, hused, he'⟩ := h.current_directory hr
    obtain rfl : e' = e := by
      refine Layout.address_injective (L := L) ?_
      rw [← pagingGetCurrentPageDirectoryAddr_use (L.address_high e'), ← he', he,
        pagingGetCurrentPageDirectoryAddr_use (L.address_high e)]
    refine stores_frame hstores fun addr ht => ?_
    rcases h.sound.translate_cases hused ht with hheld | hlow
    · obtain rfl := h.sound.holds_unique ha hheld
      have hsi := h.exclusive s i _ ⟨.inr hr, rfl⟩ ⟨ho, hd.trans hs.symm⟩
      exact hi (hsi ▸ hr)
    · exact absurd (h.sound.holds_user ha) (not_le.mpr hlow)

/-! ### Creation -/

section

variable {fuel : ℕ} {fs : FileSystem} {request : ProcessRequest} {code : ℤ} {pIndex : Fin 16} {newPage : Fin 32}
  {paging : PageManager}

lemma loadImage_frame {pageDir : PageDirectory} {pcb : ProcessControlBlock} {t : Transfer}
    (h : loadImage pageDir request pcb t memory = some memory') (ha : ∀ addr, translate pageDir addr ≠ some a) :
    memory' a = memory a := by
  obtain ⟨m₁, hstore, h⟩ := Option.bind_eq_some_iff.mp h
  obtain ⟨m₂, hcopy, hclear⟩ := Option.bind_eq_some_iff.mp h
  rw [storeBytes_frame hclear fun _ _ => ha _, memcpy_frame hcopy fun _ _ => ha _,
    storeBytes_frame hstore fun _ _ => ha _]

lemma Reserves.other (hr : k.Reserves request pIndex newPage paging) (hd : k.paging.pageDirectoryUsed d = true) :
    d ≠ newPage ∧ paging.pageDirectoryList d = k.paging.pageDirectoryList d := by
  have hne : d ≠ newPage := by
    rintro rfl
    rw [hr.newPage_unused] at hd
    cases hd
  refine ⟨hne, (PageManager.allocateUserPages_other hr.frames hne).trans ?_⟩
  exact update_of_ne hne ..

lemma create_frame (hs : k.paging.Sound) (hd : k.paging.pageDirectoryUsed d = true)
    (hc : processCreateUserProcess L fuel fs request k = some (code, k')) :
    k'.paging.pageDirectoryList d = k.paging.pageDirectoryList d ∧
      ∀ a, k.paging.Holds d a → k'.memory a = k.memory a := by
  obtain ⟨-, -, rfl⟩ | ⟨pIndex, newPage, paging, hr, hl⟩ := processCreateUserProcess_cases hc
  · exact ⟨rfl, fun _ _ => rfl⟩
  obtain ⟨hne, hdir⟩ := hr.other hd
  obtain ⟨rfl, rfl⟩ | ⟨memory, rfl, -⟩ := loadUserProcess_cases hl
  · exact ⟨hdir, fun _ _ => rfl⟩
  obtain ⟨t, memory, -, hload, rfl⟩ := loadUserProcess_success hl
  refine ⟨hdir, fun a ha => loadImage_frame hload fun addr ht => ?_⟩
  have hsound := hr.sound hs
  have hused : paging.pageDirectoryUsed newPage = true :=
    (congrFun hr.pageDirectoryUsed newPage).trans (update_self ..)
  have ha : paging.Holds d a := by
    obtain ⟨addr, hp, ht⟩ := ha
    exact ⟨addr, hp, by rwa [hdir]⟩
  rcases hsound.translate_cases hused ht with hnew | hlow
  · exact hne (hsound.holds_unique ha hnew)
  · exact absurd (hsound.holds_user ha) (not_le.mpr hlow)

end

lemma switch_memory {r : Resumption} (h : k.schedulerSwitchToNextProcess = (r, k')) :
    k'.memory = k.memory ∧ k'.paging = k.paging := by
  obtain ⟨s, -, -, -, rfl⟩ | ⟨-, -, rfl⟩ | ⟨j, -, -, -, rfl⟩ := schedulerSwitchToNextProcess_cases h
  · exact ⟨rfl, rfl⟩
  · exact ⟨rfl, rfl⟩
  · exact ⟨rfl, rfl⟩

lemma save_memory {ctx : Context} : (k.schedulerSaveContextToCurrentRunningPcb ctx).memory = k.memory ∧
    (k.schedulerSaveContextToCurrentRunningPcb ctx).paging = k.paging := by
  unfold schedulerSaveContextToCurrentRunningPcb
  split
  · exact ⟨rfl, rfl⟩
  · exact ⟨rfl, rfl⟩

lemma handle_frame (hs : k.paging.Sound) (hd : k.paging.pageDirectoryUsed d = true)
    (hh : k.handle L event = some (response, k')) :
    k'.paging.pageDirectoryList d = k.paging.pageDirectoryList d ∧
      ∀ a, k.paging.Holds d a → k'.memory a = k.memory a := by
  have hsame : k'.memory = k.memory ∧ k'.paging = k.paging →
      k'.paging.pageDirectoryList d = k.paging.pageDirectoryList d ∧
        ∀ a, k.paging.Holds d a → k'.memory a = k.memory a :=
    fun h => ⟨by rw [h.2], fun a _ => congrFun h.1 a⟩
  cases event with
  | timer frame =>
    obtain ⟨hm, hp⟩ := switch_memory (timerInterrupt_cases hh)
    exact hsame ⟨hm.trans save_memory.1, hp.trans save_memory.2⟩
  | create fuel fs request =>
    obtain ⟨code, -, hc⟩ := createEvent_cases hh
    exact create_frame hs hd hc
  | kill pid =>
    obtain ⟨code, hk⟩ := killEvent_cases hh
    obtain ⟨s, -, ⟨-, hsw⟩ | ⟨-, -, ⟨-, rfl⟩ | ⟨i, -, rfl⟩⟩⟩ := killProcess_cases hk
    · have hmem := switch_memory hsw
      exact hsame hmem
    · exact hsame ⟨rfl, rfl⟩
    · exact hsame ⟨rfl, rfl⟩
  | terminate =>
    obtain ⟨s, -, hsw⟩ := terminateCurrentProcess_cases (terminateEvent_cases hh)
    have hmem := switch_memory hsw
    exact hsame hmem

/-! ### A process that waits -/

def shown (k : Kernel) (d : Fin 32) (addr : UInt32) : Option UInt8 :=
  if pageIndex addr = kernelPage then none else (translate (k.paging.pageDirectoryList d) addr).map k.memory

lemma shown_eq (hp : k'.paging.pageDirectoryList d = k.paging.pageDirectoryList d)
    (hm : ∀ a, k.paging.Holds d a → k'.memory a = k.memory a) : k'.shown d = k.shown d := by
  funext addr
  rw [shown, shown, hp]
  split_ifs with hk
  · rfl
  cases ht : translate (k.paging.pageDirectoryList d) addr with
  | none => rfl
  | some a => rw [Option.map_some, Option.map_some, hm a ⟨addr, hk, ht⟩]

lemma GuestStep.shown (hstep : GuestStep L k event response k') (h : Isolated L k home) (ho : k.Occupied i)
    (hi : k.runningProcessIdx ≠ some i) (hd : home i = L.address d) : k'.shown d = k.shown d := by
  obtain ⟨-, memory, hm, hh⟩ := hstep
  obtain ⟨e, hused, he⟩ := h.home_used i ho
  obtain rfl := Layout.address_injective (hd.symm.trans he)
  obtain ⟨hdir, hmem⟩ := handle_frame (h.memory memory).sound hused hh
  exact shown_eq hdir fun a ha => (hmem a ha).trans (h.leaves_frame hm ho hi hd ha)

lemma switch_keeps {r : Resumption} (h : k.schedulerSwitchToNextProcess = (r, k'))
    (hi : k'.runningProcessIdx ≠ some i) : k'.processList i = k.processList i := by
  obtain ⟨s, hs, -, -, rfl⟩ | ⟨-, -, rfl⟩ | ⟨j, -, -, -, rfl⟩ := schedulerSwitchToNextProcess_cases h
  · have hne : i ≠ s := fun he => hi (he ▸ hs)
    exact update_of_ne hne ..
  · rfl
  · have hne : i ≠ j := fun he => hi (he ▸ rfl)
    exact update_of_ne hne ..

lemma handle_waits (hs : k.Settled) (hh : k.handle L event = some (response, k')) (hi : k.state i = .ready)
    (hc : ¬ k.Clears i event) (hr : k'.runningProcessIdx ≠ some i) :
    k'.state i = .ready ∧ (k'.processList i).context = (k.processList i).context := by
  have hne : k.runningProcessIdx ≠ some i := by
    intro he
    have hrun := hs i he
    rw [hi] at hrun
    cases hrun
  have hsame : k'.processList i = k.processList i →
      k'.state i = .ready ∧ (k'.processList i).context = (k.processList i).context :=
    fun he => ⟨by rwa [state, he], by rw [he]⟩
  cases event with
  | timer frame => exact hsame ((switch_keeps (timerInterrupt_cases hh) hr).trans (save_of_ne hne))
  | create fuel fs request =>
    obtain ⟨code, -, hc⟩ := createEvent_cases hh
    obtain ⟨-, ht⟩ | ⟨-, pIndex, newPage, paging, hcr⟩ := processCreateUserProcess_outcomes hc
    · exact ⟨(ht.state i).trans hi, ht.context i⟩
    · have hp : i ≠ pIndex := by
        rintro rfl
        have hnew := hcr.reserves.slot_new
        rw [← state, hi] at hnew
        cases hnew
      exact hsame (hcr.of_ne hp)
  | kill pid =>
    obtain ⟨code, hk⟩ := killEvent_cases hh
    obtain ⟨s, hs, ⟨hp, hsw⟩ | ⟨hp, -, ⟨-, rfl⟩ | ⟨j, hj, rfl⟩⟩⟩ := killProcess_cases hk
    · have his : i ≠ s := fun he => hne (he ▸ hs)
      exact hsame ((switch_keeps hsw hr).trans (clearPcb_of_ne his))
    · exact hsame rfl
    · rw [clears_kill_other hs hp] at hc
      have hij : i ≠ j := fun he => hc (he ▸ hj)
      exact hsame (clearPcb_of_ne hij)
  | terminate =>
    obtain ⟨s, hs, hsw⟩ := terminateCurrentProcess_cases (terminateEvent_cases hh)
    have his : i ≠ s := fun he => hne (he ▸ hs)
    exact hsame ((switch_keeps hsw hr).trans (clearPcb_of_ne his))

/-! ### Runs -/

def WaitingStep (L : Layout) (i : Fin 16) (k : Kernel) (event : Event) (response : Response) (k' : Kernel) :
    Prop :=
  GuestStep L k event response k' ∧ ¬ k.Clears i event ∧ k'.runningProcessIdx ≠ some i

structure Waits (L : Layout) (i : Fin 16) (d : Fin 32) (ctx : Context)
    (view : UInt32 → Option UInt8) (k : Kernel) :
    Prop where
  isolated : ∃ home, Isolated L k home ∧ home i = L.address d
  settled : k.Settled
  ready : k.state i = .ready
  context : (k.processList i).context = ctx
  shown : k.shown d = view

variable {ctx : Context} {view : UInt32 → Option UInt8}

lemma Waits.not_running (h : Waits L i d ctx view k) : k.runningProcessIdx ≠ some i := by
  intro hr
  have hrun := h.settled i hr
  rw [h.ready] at hrun
  cases hrun

lemma Waits.guest (h : Waits L i d ctx view k) (hstep : GuestStep L k event response k') :
    (∃ home, Isolated L k' home ∧ home i = L.address d) ∧ k'.Settled ∧ k'.shown d = view := by
  obtain ⟨home, hiso, hhome⟩ := h.isolated
  have hlive : k.Occupied i := .inl (by rw [h.ready]; decide)
  have htraced := TracedStep.isolated (x := (k, home)) (y := (k', track k k' home)) ⟨hstep.step, rfl⟩
    ⟨hiso, h.settled⟩
  have ht : track k k' home i = home i := if_neg fun hn => by
    rw [h.ready] at hn
    cases hn.1
  exact ⟨⟨_, htraced.1, ht.trans hhome⟩, htraced.2,
    (hstep.shown hiso hlive h.not_running hhome).trans h.shown⟩

lemma Waits.step (h : Waits L i d ctx view k) (hstep : WaitingStep L i k event response k') :
    Waits L i d ctx view k' := by
  obtain ⟨hstep, hc, hr⟩ := hstep
  obtain ⟨hiso, hsettled, hshown⟩ := h.guest hstep
  obtain ⟨-, memory, -, hh⟩ := hstep
  have hc : ¬ { k with memory := memory }.Clears i event := by cases event <;> exact hc
  have hw := handle_waits (k := { k with memory := memory }) h.settled hh h.ready hc hr
  exact ⟨hiso, hsettled, hw.1, hw.2.trans h.context, hshown⟩

lemma timer_waits (hiso : Isolated L k home) (hs : k.Settled) (hi : k.runningProcessIdx = some i)
    {frame : InterruptFrame} (hstep : GuestStep L k (.timer frame) response k')
      (haway : k'.runningProcessIdx ≠ some i) :
    ∃ d, home i = L.address d ∧
      Waits L i d ⟨frame.cpu, frame.eip, frame.eflags, L.address d⟩ (k'.shown d) k' := by
  obtain ⟨d, -, hd⟩ := hiso.home_used i (.inr hi)
  have htraced := TracedStep.isolated (x := (k, home)) (y := (k', track k k' home)) ⟨hstep.step, rfl⟩ ⟨hiso, hs⟩
  have ht : track k k' home i = home i := if_neg fun hn => by
    rw [hs i hi] at hn
    cases hn.1
  have hcr := hiso.current hi
  obtain ⟨-, memory, -, hh⟩ := hstep
  have hkept := switch_keeps (timerInterrupt_cases hh) haway
  refine ⟨d, hd, ⟨_, htraced.1, ht.trans hd⟩, htraced.2, ?_, ?_, rfl⟩
  · rw [state, hkept, ← state, save_state (k := { k with memory := memory }) hi, if_pos rfl]
  · rw [hkept, save_context (k := { k with memory := memory }) hi]
    exact congrArg (Context.mk frame.cpu frame.eip frame.eflags) (hcr.trans hd)

lemma Isolated.timer_pair {j : Fin 16} (h : Isolated L k home) (hr : k.runningProcessIdx = some s) (hj : j ≠ s)
    (hready : k.state j = .ready) (hrest : ∀ i, i ≠ s → i ≠ j → k.state i ≠ .ready) (frame : InterruptFrame) :
    ∃ k', GuestStep L k (.timer frame) ⟨none, .switched j (k.processList j).context⟩ k' ∧
      k'.runningProcessIdx = some j ∧ k'.state s = .ready ∧ ∀ i, i ≠ s → i ≠ j → k'.state i = k.state i := by
  cases hsw : k.timerInterrupt frame with
  | mk r k' =>
    have hother : ∀ i, i ≠ s → (k.schedulerSaveContextToCurrentRunningPcb ⟨frame.cpu, frame.eip, frame.eflags,
        pagingGetCurrentPageDirectoryAddr k.cr3⟩).processList i = k.processList i := by
      intro i hi
      exact save_of_ne fun he => hi (Option.some.inj (hr.symm.trans he)).symm
    obtain ⟨t, ht, hn, -⟩ | ⟨hn, -⟩ | ⟨l, hl, hlready, rfl, hk⟩ := schedulerSwitchToNextProcess_cases hsw
    · rw [save_runningProcessIdx, hr] at ht
      obtain rfl := Option.some.inj ht
      exact absurd (by rw [state, hother j hj]; exact hready) (hn j hj)
    · rw [save_runningProcessIdx, hr] at hn
      cases hn
    · rw [save_runningProcessIdx, hr] at hl
      have hls : l ≠ s := fun he => hl (he ▸ rfl)
      obtain rfl : l = j := by
        by_contra hne
        rw [state, hother l hls] at hlready
        exact hrest l hls hne hlready
      rw [hother l hls] at hsw
      refine ⟨k', ⟨.inl ⟨frame, rfl⟩, k.memory, h.leaves_self, ?_⟩, by rw [hk]; rfl, ?_, fun i his hil => ?_⟩
      · change some (_, _) = _
        rw [hsw]
      · rw [hk, dispatch_state, if_neg hls.symm, save_state hr, if_pos rfl]
      · rw [hk, dispatch_state, if_neg hil, state, hother i his, state]

end Semogakelar.Process.Kernel
