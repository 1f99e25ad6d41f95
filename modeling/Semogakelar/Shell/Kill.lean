import Mathlib.Data.Nat.Digits.Defs
import Semogakelar.Process.Lifecycle
import Semogakelar.Shell.Paths

/-! The command `kill`, from its argument to the table of processes. -/

namespace Semogakelar.Shell

open Memory Process Process.Kernel Library

def lightGrey : UInt8 := 0b0111
def lightRed : UInt8 := 0b1100

structure Message where
  text : String
  color : UInt8
  deriving DecidableEq

def missingArgument : Message := ⟨"error: missing argument\n", lightRed⟩
def invalidArgument : Message := ⟨"error: invalid argument\n", lightRed⟩
def tooManyArguments : Message := ⟨"error: too many arguments, expected 1 argument\n", lightRed⟩
def noSuchProcess : Message := ⟨"error: no such active process with that pid\n", lightRed⟩
def killUsage : Message := ⟨"Usage: kill <active_process_pid>\n", lightGrey⟩

def zeroChar : UInt8 := 0x30
def nineChar : UInt8 := 0x39

def IsKillDigit (c : UInt8) : Prop := zeroChar < c ∧ c ≤ nineChar

instance (c : UInt8) : Decidable (IsKillDigit c) := inferInstanceAs (Decidable (_ ∧ _))

def Refused (arg : Str) : Prop :=
  arg.length > 2 ∨ ¬ IsKillDigit (arg.getD 0 0) ∨ (arg.length = 2 ∧ ¬ IsKillDigit (arg.getD 1 0))

instance (arg : Str) : Decidable (Refused arg) := inferInstanceAs (Decidable (_ ∨ _))

def killPid (arg : Str) : UInt8 :=
  let pid := arg.getD 0 0 - zeroChar
  if arg.length > 2 then pid * 10 + (arg.getD 1 0 - zeroChar) else pid

/-- What `kill` prints, how the kernel resumes, and the kernel it leaves. When the kernel has switched to another
process, the shell does not see the answer. -/
def kill (args : List Str) (k : Kernel) : Option (List Message × Resumption × Kernel) :=
  match args with
  | [] => some ([missingArgument, killUsage], .interrupted, k)
  | [arg] =>
    if Refused arg then some ([invalidArgument, killUsage], .interrupted, k)
    else
      (k.killProcess (killPid arg).toInt8.toInt32.toUInt32).map fun (retVal, resumption, k) =>
        match resumption.stored retVal with
        | some retVal => (if retVal ≠ 0 then [noSuchProcess] else [], resumption, k)
        | none => ([], resumption, k)
  | _ => some ([tooManyArguments, killUsage], .interrupted, k)

/-! ### What `kill` is for -/

def numeral (n : ℕ) : Str :=
  if n = 0 then [zeroChar] else (Nat.digits 10 n).reverse.map fun d => zeroChar + UInt8.ofNat d

def Names (k : Kernel) (s : Str) (i : Fin 16) : Prop := k.state i ≠ .new ∧ numeral (k.processList i).pid.toNat = s

def ReportsError (messages : List Message) : Prop := invalidArgument ∈ messages ∨ noSuchProcess ∈ messages

def KillsNamed (k : Kernel) (s : Str) : Prop :=
  ∃ messages r k', kill [s] k = some (messages, r, k') ∧
    (∀ i, Names k s i → k'.state i = .new ∧ ∀ j ≠ i, k.state j ≠ .new → k'.state j ≠ .new) ∧
    ((∀ i, ¬ Names k s i) → ReportsError messages ∧ k'.processList = k.processList)

/-- One digit is right unless it ends the last process that could run. Of two digits only the first is read, so
neither may name a process. An argument that is refused must not be a numeral in use, such as 10. -/
def KillSound (k : Kernel) (s : Str) : Prop :=
  if Refused s then ∀ i, ¬ Names k s i
  else if s.length = 2 then ∀ i, ¬ Names k s i ∧ ¬ Names k (s.take 1) i
  else ∀ i, k.runningProcessIdx = some i → Names k s i → ∃ j ≠ i, k.state j = .ready

variable {L : Layout} {k : Kernel} {s : Str} {c : UInt8} {i r : Fin 16} {n : ℕ}

/-! ### The argument -/

lemma IsKillDigit.toNat_sub (h : IsKillDigit c) :
    (c - zeroChar).toNat = c.toNat - 48 ∧ 48 < c.toNat ∧ c.toNat < 58 := by
  have hlow : 48 < c.toNat := UInt8.lt_iff_toNat_lt.mp h.1
  have hhigh : c.toNat ≤ 57 := UInt8.le_iff_toNat_le.mp h.2
  refine ⟨UInt8.toNat_sub_of_le _ _ (UInt8.le_iff_toNat_le.mpr hlow.le), hlow, by omega⟩

lemma numeral_digit (h : IsKillDigit c) : numeral n = [c] ↔ n = (c - zeroChar).toNat := by
  obtain ⟨hsub, hlow, hhigh⟩ := h.toNat_sub
  constructor
  · intro hn
    rw [numeral] at hn
    split_ifs at hn with hzero
    · have hc : zeroChar = c := List.singleton_inj.mp hn
      rw [← hc] at hlow
      exact absurd hlow (by decide)
    · obtain ⟨d, hdigits, hd⟩ := List.map_eq_singleton_iff.mp hn
      have hrev : Nat.digits 10 n = [d] := by rw [← List.reverse_reverse (Nat.digits 10 n), hdigits]; rfl
      have hnd : n = d := by rw [← Nat.ofDigits_digits 10 n, hrev, Nat.ofDigits_singleton]
      have hlt : d < 10 := Nat.digits_lt_base (b := 10) (m := n) (by decide)
        (by rw [hrev]; exact List.mem_singleton_self d)
      rw [hnd, ← hd, UInt8.add_comm, UInt8.add_sub_cancel, UInt8.toNat_ofNat', Nat.mod_eq_of_lt (by omega)]
  · intro hn
    have hpos : n ≠ 0 := by omega
    have hc : zeroChar + UInt8.ofNat n = c := by
      rw [hn, UInt8.ofNat_toNat, UInt8.add_comm, UInt8.sub_add_cancel]
    rw [numeral, if_neg hpos, Nat.digits_of_lt 10 n hpos (by omega)]
    simp [hc]

lemma refused_or (s : Str) : Refused s ∨
    (∃ c, IsKillDigit c ∧ s = [c]) ∨ ∃ c e, IsKillDigit c ∧ IsKillDigit e ∧ s = [c, e] := by
  match s with
  | [] => exact .inl (.inr (.inl (by decide)))
  | [c] =>
    by_cases hc : IsKillDigit c
    · exact .inr (.inl ⟨c, hc, rfl⟩)
    · exact .inl (.inr (.inl hc))
  | [c, e] =>
    by_cases hc : IsKillDigit c
    · by_cases he : IsKillDigit e
      · exact .inr (.inr ⟨c, e, hc, he, rfl⟩)
      · exact .inl (.inr (.inr ⟨rfl, he⟩))
    · exact .inl (.inr (.inl hc))
  | _ :: _ :: _ :: s => exact .inl (.inl (by simp))

def sentPid (c : UInt8) : UInt32 := (c - zeroChar).toInt8.toInt32.toUInt32

lemma IsKillDigit.sentPid_toNat (h : IsKillDigit c) : (sentPid c).toNat = (c - zeroChar).toNat := by
  have hall : ∀ m < 10, (UInt8.ofNat m).toInt8.toInt32.toUInt32.toNat = m := by decide
  obtain ⟨hsub, hlow, hhigh⟩ := h.toNat_sub
  have hm := hall (c - zeroChar).toNat (by omega)
  rwa [UInt8.ofNat_toNat] at hm

lemma IsKillDigit.sentPid_ne_zero (h : IsKillDigit c) : sentPid c ≠ 0 := by
  intro hzero
  obtain ⟨hsub, hlow, hhigh⟩ := h.toNat_sub
  have hnat := h.sentPid_toNat
  rw [hzero] at hnat
  have hnone : (0 : UInt32).toNat = 0 := rfl
  omega

lemma names_digit (h : IsKillDigit c) : Names k [c] i ↔ k.state i ≠ .new ∧ (k.processList i).pid = sentPid c := by
  rw [Names, numeral_digit h, ← h.sentPid_toNat, UInt32.toNat_inj]

/-! ### The table -/

lemma findPid_held {pid : UInt32} (hk : Orderly k) (hpid : pid ≠ 0) (hi : k.state i ≠ .new)
    (hip : (k.processList i).pid = pid) : k.findPid pid = some i := by
  cases hf : k.findPid pid with
  | none => exact absurd hip (findPid_eq_none hf i)
  | some j =>
    have hjp := findPid_eq_some hf
    have hj : k.state j ≠ .new := fun hnew => hpid (hjp.symm.trans (hk.new j hnew))
    rw [hk.distinct i j hi hj (hip.trans hjp.symm)]

lemma findPid_free {pid : UInt32} (hk : Orderly k) (hpid : pid ≠ 0) (hn : k.Unheld pid) :
    k.findPid pid = none := by
  cases hf : k.findPid pid with
  | none => rfl
  | some i => exact absurd ((findPid_eq_some hf).symm.trans (hk.new i (findPid_unheld hn hf))) hpid

lemma clearRunning_switch {res : Resumption} {k' : Kernel} (hr : k.runningProcessIdx = some r)
    (hsw : (k.clearPcb r).schedulerSwitchToNextProcess = (res, k')) :
    (∀ j ≠ r, k.state j ≠ .new → k'.state j ≠ .new) ∧ (k'.state r = .new ↔ ∃ j ≠ r, k.state j = .ready) := by
  by_cases hready : ∃ j ≠ r, k.state j = .ready
  · obtain ⟨j, hj, -, -, rfl⟩ := switch_away hr hready hsw
    refine ⟨fun m hm hlive => dispatch_rescheduled.live m ?_, iff_of_true ?_ hready⟩
    · rwa [clearPcb_state, if_neg hm]
    · rw [dispatch_state, if_neg hj.symm, clearPcb_state, if_pos rfl]
  · have hnone : ∀ j ≠ r, k.state j ≠ .ready := fun j hj h => hready ⟨j, hj, h⟩
    obtain ⟨-, rfl⟩ := switch_fallback hr hnone hsw
    refine ⟨fun m hm hlive => markRunning_rescheduled.live m ?_, iff_of_false ?_ hready⟩
    · rwa [clearPcb_state, if_neg hm]
    · rw [markRunning_state, if_pos rfl]
      decide

lemma killProcess_free {pid : UInt32} (hk : Orderly k) (hr : k.runningProcessIdx = some r) (hpid : pid ≠ 0)
    (hn : k.Unheld pid) : k.killProcess pid = some (-1, .interrupted, k) := by
  have hrunning : k.state r ≠ .new := by rw [hk.settled r hr]; decide
  rw [killProcess, hr, Option.bind_some, if_neg (hn r hrunning), findPid_free hk hpid hn]

lemma killProcess_held {pid : UInt32} (hk : Orderly k) (hr : k.runningProcessIdx = some r) (hpid : pid ≠ 0)
    (hi : k.state i ≠ .new) (hip : (k.processList i).pid = pid) :
    ∃ res k', k.killProcess pid = some (0, res, k') ∧ (∀ j ≠ i, k.state j ≠ .new → k'.state j ≠ .new) ∧
      (k'.state i = .new ↔ (k.runningProcessIdx = some i → ∃ j ≠ i, k.state j = .ready)) := by
  by_cases hri : r = i
  · subst hri
    cases hsw : (k.clearPcb r).schedulerSwitchToNextProcess with
    | mk res k' =>
      obtain ⟨hother, hended⟩ := clearRunning_switch hr hsw
      refine ⟨res, k', ?_, hother, hended.trans ⟨fun h _ => h, fun h => h hr⟩⟩
      rw [killProcess, hr, Option.bind_some, if_pos hip, terminateCurrentProcess, hr, Option.map_some, hsw]
      rfl
  · have hrunning : k.state r ≠ .new := by rw [hk.settled r hr]; decide
    have hrp : (k.processList r).pid ≠ pid := fun h => hri (hk.distinct r i hrunning hi (h.trans hip.symm))
    refine ⟨.interrupted, k.clearPcb i, ?_, fun j hj hlive => ?_, iff_of_true ?_ fun h => ?_⟩
    · rw [killProcess, hr, Option.bind_some, if_neg hrp, findPid_held hk hpid hi hip]
    · rwa [clearPcb_state, if_neg hj]
    · rw [clearPcb_state, if_pos rfl]
    · exact absurd (Option.some.inj (hr.symm.trans h)) hri

lemma kill_digit (hk : Orderly k) (hr : k.runningProcessIdx = some r) (hs : ¬ Refused s) (hc : IsKillDigit c)
    (hfirst : s.getD 0 0 = c) :
    ((∀ i, ¬ Names k [c] i) ∧ kill [s] k = some ([noSuchProcess], .interrupted, k)) ∨
    ∃ i res k', Names k [c] i ∧ kill [s] k = some ([], res, k') ∧
      (∀ j ≠ i, k.state j ≠ .new → k'.state j ≠ .new) ∧
      (k'.state i = .new ↔ (k.runningProcessIdx = some i → ∃ j ≠ i, k.state j = .ready)) := by
  have hlength : ¬ s.length > 2 := fun h => hs (.inl h)
  have hpid : (killPid s).toInt8.toInt32.toUInt32 = sentPid c := by
    rw [killPid, if_neg hlength, hfirst, sentPid]
  by_cases hn : k.Unheld (sentPid c)
  · refine .inl ⟨fun i hi => ?_, ?_⟩
    · obtain ⟨hlive, hip⟩ := (names_digit hc).mp hi
      exact hn i hlive hip
    · rw [kill, if_neg hs, hpid, killProcess_free hk hr hc.sentPid_ne_zero hn]
      rfl
  · obtain ⟨i, hi, hip⟩ : ∃ i, k.state i ≠ .new ∧ (k.processList i).pid = sentPid c := by
      simpa [Unheld] using hn
    obtain ⟨res, k', hkill, hother, hended⟩ := killProcess_held hk hr hc.sentPid_ne_zero hi hip
    refine .inr ⟨i, res, k', (names_digit hc).mpr ⟨hi, hip⟩, ?_, hother, hended⟩
    rw [kill, if_neg hs, hpid, hkill]
    cases res <;> rfl

lemma Names.unique {j : Fin 16} (hk : Orderly k) (hc : IsKillDigit c) (hi : Names k [c] i) (hj : Names k [c] j) :
    i = j := by
  obtain ⟨hilive, hip⟩ := (names_digit hc).mp hi
  obtain ⟨hjlive, hjp⟩ := (names_digit hc).mp hj
  exact hk.distinct i j hilive hjlive (hip.trans hjp.symm)

lemma not_reportsError_nil : ¬ ReportsError [] := by simp [ReportsError]

lemma reportsError_noSuchProcess : ReportsError [noSuchProcess] := .inr (List.mem_singleton_self _)

lemma killsNamed_refused (hs : Refused s) : KillsNamed k s ↔ ∀ i, ¬ Names k s i := by
  have hkill : kill [s] k = some ([invalidArgument, killUsage], .interrupted, k) := by rw [kill, if_pos hs]
  constructor
  · rintro ⟨messages, res, k', hsome, hends, -⟩ i hi
    rw [hkill] at hsome
    obtain ⟨-, -, rfl⟩ := by simpa using hsome
    exact hi.1 (hends i hi).1
  · intro hnone
    exact ⟨_, _, k, hkill, fun i hi => (hnone i hi).elim, fun _ => ⟨.inl List.mem_cons_self, rfl⟩⟩

lemma killsNamed_one (hk : Orderly k) (hr : k.runningProcessIdx = some r) (hc : IsKillDigit c) :
    KillsNamed k [c] ↔ ∀ i, k.runningProcessIdx = some i → Names k [c] i → ∃ j ≠ i, k.state j = .ready := by
  have hs : ¬ Refused [c] := by simp [Refused, hc]
  obtain ⟨hnone, hkill⟩ | ⟨i, res, k', hi, hkill, hother, hended⟩ := kill_digit hk hr hs hc rfl
  · refine iff_of_true ⟨_, _, k, hkill, fun i hi => (hnone i hi).elim,
      fun _ => ⟨reportsError_noSuchProcess, rfl⟩⟩ ?_
    exact fun i _ hi => (hnone i hi).elim
  · constructor
    · rintro ⟨messages, res', k'', hsome, hends, -⟩ m hm hmi
      rw [hkill] at hsome
      obtain ⟨-, -, rfl⟩ := by simpa using hsome
      obtain rfl := Names.unique hk hc hi hmi
      exact hended.mp (hends i hi).1 hm
    · intro hready
      refine ⟨_, res, k', hkill, fun m hm => ?_, fun hnone => (hnone i hi).elim⟩
      obtain rfl := Names.unique hk hc hi hm
      exact ⟨hended.mpr fun hrunning => hready i hrunning hi, hother⟩

lemma killsNamed_two {e : UInt8} (hk : Orderly k) (hr : k.runningProcessIdx = some r) (hc : IsKillDigit c)
    (he : IsKillDigit e) : KillsNamed k [c, e] ↔ ∀ i, ¬ Names k [c, e] i ∧ ¬ Names k [c] i := by
  have hs : ¬ Refused [c, e] := by simp [Refused, hc, he]
  obtain ⟨hnone, hkill⟩ | ⟨i, res, k', hi, hkill, hother, -⟩ := kill_digit hk hr hs hc rfl
  · constructor
    · rintro ⟨messages, res, k', hsome, hends, -⟩ i
      rw [hkill] at hsome
      obtain ⟨-, -, rfl⟩ := by simpa using hsome
      exact ⟨fun hi => hi.1 (hends i hi).1, hnone i⟩
    · intro hfree
      exact ⟨_, _, k, hkill, fun i hi => ((hfree i).1 hi).elim, fun _ => ⟨reportsError_noSuchProcess, rfl⟩⟩
  · -- The process of the first digit ends, whatever the two digits name.
    refine iff_of_false ?_ fun hfree => (hfree i).2 hi
    rintro ⟨messages, res', k'', hsome, hends, herror⟩
    rw [hkill] at hsome
    obtain ⟨rfl, -, rfl⟩ := by simpa using hsome
    by_cases hnamed : ∃ m, Names k [c, e] m
    · obtain ⟨m, hm⟩ := hnamed
      have hne : m ≠ i := by
        rintro rfl
        exact absurd (hm.2.symm.trans hi.2) (by simp)
      exact hother m hne hm.1 (hends m hm).1
    · exact not_reportsError_nil (herror fun m hm => hnamed ⟨m, hm⟩).1

lemma killsNamed_iff (hk : Orderly k) (hr : k.runningProcessIdx = some r) (s : Str) : KillsNamed k s ↔
    KillSound k s := by
  rw [KillSound]
  by_cases hs : Refused s
  · rw [if_pos hs]
    exact killsNamed_refused hs
  rw [if_neg hs]
  obtain hrefused | ⟨c, hc, rfl⟩ | ⟨c, e, hc, he, rfl⟩ := refused_or s
  · exact (hs hrefused).elim
  · rw [if_neg (by simp)]
    exact killsNamed_one hk hr hc
  · have htwo : [c, e].length = 2 := rfl
    rw [if_pos htwo]
    exact killsNamed_two hk hr hc he

lemma killProcess_zero_iff (hr : k.runningProcessIdx = some r) (pid : UInt32) :
    (∃ res k', k.killProcess pid = some (0, res, k')) ↔ ∃ i, (k.processList i).pid = pid := by
  rw [killProcess, hr, Option.bind_some]
  by_cases hself : (k.processList r).pid = pid
  · rw [if_pos hself, terminateCurrentProcess, hr]
    exact iff_of_true ⟨_, _, rfl⟩ ⟨r, hself⟩
  · rw [if_neg hself]
    cases hf : k.findPid pid with
    | none => exact iff_of_false (by simp) (not_exists.mpr (findPid_eq_none hf))
    | some i => exact iff_of_true ⟨_, _, rfl⟩ ⟨i, findPid_eq_some hf⟩

/-- The pid 0 is also in every slot that is not in use. -/
lemma pid_live_iff (hk : Orderly k) (pid : UInt32) :
    ((∃ i, (k.processList i).pid = pid) ↔ ∃ i, k.state i ≠ .new ∧ (k.processList i).pid = pid) ↔
      (pid = 0 → (∃ i, k.state i ≠ .new ∧ (k.processList i).pid = 0) ∨ ∀ i, k.state i ≠ .new) := by
  constructor
  · rintro hlive rfl
    by_cases hnew : ∃ i, k.state i = .new
    · obtain ⟨i, hi⟩ := hnew
      exact .inl (hlive.mp ⟨i, hk.new i hi⟩)
    · exact .inr fun i hi => hnew ⟨i, hi⟩
  · intro hzero
    refine ⟨fun ⟨i, hi⟩ => ?_, fun ⟨i, _, hi⟩ => ⟨i, hi⟩⟩
    by_cases hnew : k.state i = .new
    · have hpid : pid = 0 := hi.symm.trans (hk.new i hnew)
      obtain hlive | hnone := hzero hpid
      · rwa [hpid]
      · exact (hnone i hnew).elim
    · exact ⟨i, hnew, hi⟩

theorem kill_ends_named_iff {memory : PhysicalMemory} {k₀ : Kernel} {events : List Event}
    {responses : List Response} (hboot : Booted L memory k₀) (hrun : Run (Step L) k₀ events responses k)
      (hrunning : k.runningProcessIdx ≠ none) :
    (∀ s, KillsNamed k s ↔ KillSound k s) ∧
    ∀ pid, ((∃ res k', k.killProcess pid = some (0, res, k')) ↔ ∃ i, k.state i ≠ .new ∧
    (k.processList i).pid = pid) ↔
      (pid = 0 → (∃ i, k.state i ≠ .new ∧ (k.processList i).pid = 0) ∨ ∀ i, k.state i ≠ .new) := by
  have hk : Orderly k := hboot.orderly.run hrun
  obtain ⟨r, hr⟩ := Option.ne_none_iff_exists'.mp hrunning
  refine ⟨killsNamed_iff hk hr, fun pid => ?_⟩
  rw [killProcess_zero_iff hr]
  exact pid_live_iff hk pid

theorem kill_ends_named_child : ∃ k₀ k, Booted linked (fun _ => 0) k₀ ∧
    Run (Step linked) k₀ [.create 2 shellDisk shellRequest] [⟨some processCreateSuccess, .interrupted⟩] k ∧
    Names k [0x32] 1 ∧ KillsNamed k [0x32] := by
  obtain ⟨k₀, hboot, hshell⟩ := boot_shellDisk linked fun _ => 0
  obtain ⟨k, hstep, hchild⟩ := hshell.spawn linked
  have hrun : Run (Step linked) k₀ [.create 2 shellDisk shellRequest]
      [⟨some processCreateSuccess, .interrupted⟩] k := .cons hstep .nil
  have hrunning : k.runningProcessIdx ≠ none := by rw [hchild.running]; simp
  have hdigit : IsKillDigit 0x32 := by decide
  have hnames : Names k [0x32] 1 := (names_digit hdigit).mpr ⟨by rw [hchild.child]; decide, hchild.childPid⟩
  have hsound : KillSound k [0x32] := by
    rw [KillSound, if_neg (by decide), if_neg (by decide)]
    intro i hi hshell
    obtain rfl : 0 = i := Option.some.inj (hchild.running.symm.trans hi)
    exact ⟨1, by decide, hchild.child⟩
  exact ⟨k₀, k, hboot.booted, hrun, hnames, ((kill_ends_named_iff hboot.booted hrun hrunning).1 _).mpr hsound⟩

/-- With only the shell alive, `kill 12` does not report an error: it ends the shell, whose pid is 1. -/
theorem kill_twelve_ends_shell : ¬ ∀ (L : Layout) (memory : PhysicalMemory) (k : Kernel), Booted L memory k →
    k.runningProcessIdx ≠ none → (∀ s, KillsNamed k s) ∧
      ∀ pid, (∃ res k', k.killProcess pid = some (0, res, k')) ↔
        ∃ i, k.state i ≠ .new ∧ (k.processList i).pid = pid := by
  intro h
  obtain ⟨k, hboot, hshell⟩ := boot_shellDisk linked fun _ => 0
  have hrunning : k.runningProcessIdx ≠ none := by rw [hshell.running]; simp
  have hkills := (h linked (fun _ => 0) k hboot.booted hrunning).1 [0x31, 0x32]
  have hone : IsKillDigit 0x31 := by decide
  have hnames : Names k [0x31] 0 := (names_digit hone).mpr ⟨by rw [hshell.state]; decide, hshell.pid⟩
  exact (((killsNamed_two hboot.booted.orderly hshell.running hone (by decide)).mp hkills) 0).2 hnames

end Semogakelar.Shell
