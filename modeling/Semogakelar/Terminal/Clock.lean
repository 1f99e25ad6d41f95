import Semogakelar.Library.Timepieces
import Semogakelar.Terminal.Keyboard
import Semogakelar.Terminal.Numerals

/-! The clock in the corner of the screen: `read_rtc` on a CMOS clock that goes on while it is read, and what
`print_current_time` makes of it. -/

namespace Semogakelar.Terminal

open Function Library Shell

/-- The registers as the reads of the data port find them, one after another. -/
structure Cmos where
  registers : ℕ → UInt8 → UInt8
  reads : ℕ
  index : UInt8

namespace Cmos

def out (port : UInt16) (data : UInt8) (c : Cmos) : Cmos := if port = 0x70 then { c with index := data } else c

def inb (port : UInt16) (c : Cmos) : UInt8 × Cmos :=
  if port = 0x71 then (c.registers c.reads c.index, { c with reads := c.reads + 1 }) else (0xFF, c)

def getRTCRegister (reg : UInt8) (c : Cmos) : UInt8 × Cmos := (c.out 0x70 reg).inb 0x71

def getUpdateInProgressFlag (c : Cmos) : UInt8 × Cmos :=
  let (status, c) := (c.out 0x70 0x0A).inb 0x71
  (status &&& 0x80, c)

def waitUpdate : ℕ → Cmos → Option Cmos
  | 0, _ => none
  | polls + 1, c =>
    let (flag, c) := c.getUpdateInProgressFlag
    if flag = 0 then some c else waitUpdate polls c

end Cmos

/-- The variables of cmos.c. `century_register` is 0 throughout, so that nothing is read into `century`. -/
structure Rtc where
  cmos : Cmos
  second : UInt8
  minute : UInt8
  hour : UInt8
  day : UInt8
  month : UInt8
  year : UInt32

def bcdToBinary (value : UInt8) : UInt8 := (value &&& 0x0F) + value / 16 * 10

namespace Rtc

def readRegisters (g : Rtc) : Rtc :=
  let (second, c) := g.cmos.getRTCRegister 0x00
  let (minute, c) := c.getRTCRegister 0x02
  let (hour, c) := c.getRTCRegister 0x04
  let (day, c) := c.getRTCRegister 0x07
  let (month, c) := c.getRTCRegister 0x08
  let (year, c) := c.getRTCRegister 0x09
  ⟨c, second, minute, hour, day, month, year.toUInt32⟩

def readRound (polls : ℕ) (g : Rtc) : Option Rtc :=
  (g.cmos.waitUpdate polls).map fun c => { g with cmos := c }.readRegisters

-- `last_year` is a byte.
def differs (last g : Rtc) : Prop :=
  last.second ≠ g.second ∨ last.minute ≠ g.minute ∨ last.hour ≠ g.hour ∨ last.day ≠ g.day ∨ last.month ≠ g.month ∨
    last.year.toUInt8.toUInt32 ≠ g.year

instance (last g : Rtc) : Decidable (differs last g) := inferInstanceAs (Decidable (_ ∨ _))

def readAgain (polls : ℕ) : ℕ → Rtc → Option Rtc
  | 0, _ => none
  | rounds + 1, last =>
    (last.readRound polls).bind fun g => if differs last g then readAgain polls rounds g else some g

def bcdConverted (registerB : UInt8) (g : Rtc) : Rtc :=
  if registerB &&& 0x04 = 0 then
    { g with
      second := bcdToBinary g.second
      minute := bcdToBinary g.minute
      hour := ((g.hour &&& 0x0F) + (g.hour &&& 0x70) / 16 * 10) ||| (g.hour &&& 0x80)
      day := bcdToBinary g.day
      month := bcdToBinary g.month
      year := (g.year &&& 0x0F) + g.year / 16 * 10 }
  else g

def hourConverted (registerB : UInt8) (g : Rtc) : Rtc :=
  if registerB &&& 0x02 = 0 ∧ g.hour &&& 0x80 ≠ 0 then { g with hour := ((g.hour &&& 0x7F) + 12) % 24 } else g

def yearConverted (g : Rtc) : Rtc :=
  let year := g.year + 2024 / 100 * 100
  { g with year := if year < 2024 then year + 100 else year }

def readRtc (fuel : ℕ) (g : Rtc) : Option Rtc :=
  (g.readRound fuel).bind fun g => (readAgain fuel fuel g).map fun g =>
    let (registerB, c) := g.cmos.getRTCRegister 0x0B
    (({ g with cmos := c }.bcdConverted registerB).hourConverted registerB).yearConverted

end Rtc

/-- A number of two digits, from the string that `itoa` has left at `start`. The second character of an empty one
is behind the buffer. -/
def writeNumber (col : UInt8) (val : ℤ) (buf : ℕ → UInt8) (t : Console) : Option ((ℕ → UInt8) × Console) :=
  (itoa val 10 buf).bind fun (start, buf) => (textAt 32 buf start).map fun text =>
    if text.length = 1 then
      (buf, (t.framebufferWrite 24 col 0x30 0xF 0).framebufferWrite 24 (col + 1) (buf start) 0xF 0)
    else
      (buf, (t.framebufferWrite 24 col (if buf start = 0 then 0x30 else buf start) 0xF 0).framebufferWrite
        24 (col + 1) (if buf (start + 1) = 0 then 0x30 else buf (start + 1)) 0xF 0)

def printCurrentTime (fuel : ℕ) (g : Rtc) (buf : ℕ → UInt8) (t : Console) : Option (Rtc × (ℕ → UInt8) × Console) :=
  (g.readRtc fuel).bind fun g =>
    (writeNumber 72 ((g.hour.toNat + 7) % 24) buf t).bind fun (buf, t) =>
      (writeNumber 75 g.minute.toNat buf (t.framebufferWrite 24 74 0x3A 0xF 0)).bind fun (buf, t) =>
        (writeNumber 78 g.second.toNat buf (t.framebufferWrite 24 77 0x3A 0xF 0)).map fun (buf, t) => (g, buf, t)

/-! ### The clock behind the registers -/

def clockRegisters : List UInt8 := [0x00, 0x02, 0x04, 0x07, 0x08, 0x09]

def encoded (registerB : UInt8) (value : ℕ) : UInt8 :=
  if registerB &&& 0x04 = 0 then UInt8.ofNat (value / 10 * 16 + value % 10) else UInt8.ofNat value

-- On a face of twelve hours both midnight and noon are at 12, and the top bit tells the afternoon.
def encodedHour (registerB : UInt8) (hour : ℕ) : UInt8 :=
  if registerB &&& 0x02 = 0 then
    encoded registerB ((hour + 11) % 12 + 1) ||| (if 12 ≤ hour then 0x80 else 0)
  else encoded registerB hour

structure Date where
  day : Fin 32
  month : Fin 13
  year : Fin 100

/-- The registers are those of a clock that counts seconds from a midnight, in the format that register B tells. -/
structure Keeps (registers : ℕ → UInt8 → UInt8) (clock : Timepiece UInt8 UInt8) (registerB : UInt8)
    (date : ℕ → Date) :
    Prop where
  flag : ∀ n, registers n 0x0A &&& 0x80 = 0 ↔ ¬ clock.updating n
  read : ∀ n, ∀ r ∈ clockRegisters, registers n r = clock.read n r
  format : ∀ n, registers n 0x0B = registerB
  face : ∀ t, clockRegisters.map (clock.face t) =
    [encoded registerB (t % 60), encoded registerB (t / 60 % 60), encodedHour registerB (t / 3600 % 24),
      encoded registerB (date (t / 86400)).day, encoded registerB (date (t / 86400)).month,
      encoded registerB (date (t / 86400)).year]

/-- In the time of five rounds from the read `n` on, the flag is clear at one of any `polls` reads, and there is
one update at most. -/
structure Prompt (clock : Timepiece UInt8 UInt8) (polls n : ℕ) : Prop where
  clear : ∀ m, n ≤ m → m ≤ n + 4 * (polls + 6) → ∃ p < polls, ¬ clock.updating (m + p)
  slow : clock.time (n + 5 * (polls + 6)) ≤ clock.time n + 1

def firstClear (clock : Timepiece UInt8 UInt8) (polls n : ℕ) : ℕ :=
  ((List.range polls).find? fun p => !clock.updating (n + p)).getD 0

def polled (clock : Timepiece UInt8 UInt8) (polls n : ℕ) : ℕ → ℕ
  | 0 => n + firstClear clock polls n
  | k + 1 => polled clock polls n k + 7 + firstClear clock polls (polled clock polls n k + 7)

namespace Rtc

def roundAt (registers : ℕ → UInt8 → UInt8) (q : ℕ) : Rtc :=
  ⟨⟨registers, q + 7, 0x09⟩, registers (q + 1) 0x00, registers (q + 2) 0x02, registers (q + 3) 0x04,
    registers (q + 4) 0x07, registers (q + 5) 0x08, (registers (q + 6) 0x09).toUInt32⟩

end Rtc

variable {registers : ℕ → UInt8 → UInt8} {clock : Timepiece UInt8 UInt8} {registerB : UInt8} {date : ℕ → Date}
  {polls n : ℕ} {g : Rtc}

lemma Cmos.waitUpdate_eq {p : ℕ} {c : Cmos} (hset : ∀ i < p, c.registers (c.reads + i) 0x0A &&& 0x80 ≠ 0)
    (hclear : c.registers (c.reads + p) 0x0A &&& 0x80 = 0) (hp : p < polls) :
    c.waitUpdate polls = some ⟨c.registers, c.reads + p + 1, 0x0A⟩ := by
  induction p generalizing c polls with
  | zero =>
    obtain ⟨polls, rfl⟩ := Nat.exists_eq_add_of_lt hp
    exact if_pos hclear
  | succ p ih =>
    cases polls with
    | zero => omega
    | succ polls =>
      have hpoll : c.waitUpdate (polls + 1) = Cmos.waitUpdate polls ⟨c.registers, c.reads + 1, 0x0A⟩ :=
        if_neg (hset 0 (by omega))
      rw [hpoll, ih]
      · simp only [Nat.add_comm, Nat.add_left_comm]
      · intro i hi
        simpa only [Nat.add_assoc, Nat.add_comm 1] using hset (i + 1) (by omega)
      · simpa only [Nat.add_assoc, Nat.add_comm 1] using hclear
      · omega

lemma firstClear_spec (h : ∃ p < polls, ¬ clock.updating (n + p)) : firstClear clock polls n < polls ∧
    ¬ clock.updating (n + firstClear clock polls n) ∧ ∀ i < firstClear clock polls n, clock.updating (n + i) := by
  have hfound : ((List.range polls).find? fun p => !clock.updating (n + p)).isSome := by
    obtain ⟨p, hp, hclear⟩ := h
    rw [List.find?_isSome]
    exact ⟨p, List.mem_range.mpr hp, by simpa using hclear⟩
  obtain ⟨p, hp⟩ := Option.isSome_iff_exists.mp hfound
  rw [firstClear, hp, Option.getD_some]
  obtain ⟨hclear, hlt, hbefore⟩ := List.find?_range_eq_some.mp hp
  exact ⟨List.mem_range.mp hlt, by simpa using hclear, fun i hi => by simpa using hbefore i hi⟩

lemma Keeps.readRound_eq (h : Keeps registers clock registerB date)
    (hclear : ∃ p < polls, ¬ clock.updating (g.cmos.reads + p)) (hg : g.cmos.registers = registers) :
    g.readRound polls = some (Rtc.roundAt registers (g.cmos.reads + firstClear clock polls g.cmos.reads)) := by
  obtain ⟨hlt, hend, hbefore⟩ := firstClear_spec hclear
  have hwait : g.cmos.waitUpdate polls =
      some ⟨registers, g.cmos.reads + firstClear clock polls g.cmos.reads + 1, 0x0A⟩ := by
    rw [← hg]
    apply Cmos.waitUpdate_eq _ _ hlt
    · intro i hi hflag
      exact (h.flag _).mp (hg ▸ hflag) (hbefore i hi)
    · rw [hg]
      exact (h.flag _).mpr hend
  rw [Rtc.readRound, hwait]
  rfl

lemma differs_roundAt (h : Keeps registers clock registerB date) (q q' : ℕ) :
    Rtc.differs (Rtc.roundAt registers q) (Rtc.roundAt registers q') ↔
      clock.round (q + 1) clockRegisters ≠ clock.round (q' + 1) clockRegisters := by
  have hread : ∀ n, ∀ r ∈ clockRegisters, clock.read n r = registers n r := fun n r hr => (h.read n r hr).symm
  simp [clockRegisters] at hread
  simp only [clockRegisters, Timepiece.round, hread, Rtc.differs, Rtc.roundAt, ne_eq, List.cons.injEq, and_true,
    UInt8.toUInt8_toUInt32, not_and_or, UInt8.toUInt32_inj]

lemma bcdToBinary_encoded : ∀ v < 100, bcdToBinary (UInt8.ofNat (v / 10 * 16 + v % 10)) =
    UInt8.ofNat v := by decide

lemma encoded_injOn {v w : ℕ} (hv : v < 60) (hw : w < 60)
    (h : encoded registerB v = encoded registerB w) : v = w := by
  have hbinary : UInt8.ofNat v = UInt8.ofNat w := by
    unfold encoded at h
    split_ifs at h with hb
    · rw [← bcdToBinary_encoded v (by omega), h, bcdToBinary_encoded w (by omega)]
    · exact h
  have hmod := congrArg UInt8.toNat hbinary
  simp only [UInt8.toNat_ofNat'] at hmod
  omega

lemma Keeps.sweeps (h : Keeps registers clock registerB date) :
    clock.Sweeps 0x00 [0x02, 0x04, 0x07, 0x08, 0x09] 60 := by
  constructor
  · intro t t' he
    have ht := (List.cons.inj (h.face t)).1
    have ht' := (List.cons.inj (h.face t')).1
    exact encoded_injOn (Nat.mod_lt _ (by decide)) (Nat.mod_lt _ (by decide)) (ht.symm.trans (he.trans ht'))
  · intro r hr t t' he
    have hhour : t / 3600 = t' / 3600 := by omega
    have hday : t / 86400 = t' / 86400 := by omega
    have hface : clockRegisters.tail.map (clock.face t) = clockRegisters.tail.map (clock.face t') := by
      have ht := (List.cons.inj (h.face t)).2
      have ht' := (List.cons.inj (h.face t')).2
      rw [he, hhour, hday] at ht
      exact ht.trans ht'.symm
    exact List.map_inj_left.mp hface r hr

/-! ### The rounds of a reading -/

lemma polled_step (clock : Timepiece UInt8 UInt8) (polls n k : ℕ) :
    polled clock polls n k + 7 ≤ polled clock polls n (k + 1) :=
  Nat.le_add_right _ _

lemma polled_mono : Monotone (polled clock polls n) :=
  monotone_nat_of_le_succ fun k => (Nat.le_add_right _ 7).trans (polled_step clock polls n k)

lemma le_polled (k : ℕ) : n ≤ polled clock polls n k :=
  (Nat.le_add_right _ _).trans (polled_mono (Nat.zero_le k))

namespace Prompt

lemma polled_spec (h : Prompt clock polls n) {k : ℕ} (hk : k ≤ 4) :
    polled clock polls n k < n + k * (polls + 6) + polls ∧ ¬ clock.updating (polled clock polls n k) := by
  induction k with
  | zero =>
    obtain ⟨hlt, hclear, -⟩ := firstClear_spec (h.clear n le_rfl (Nat.le_add_right _ _))
    rw [polled]
    exact ⟨by omega, hclear⟩
  | succ k ih =>
    have hlt := (ih (by omega)).1
    have hround : polled clock polls n k + 7 ≤ n + 4 * (polls + 6) := by
      have hmul := Nat.mul_le_mul_right (polls + 6) hk
      rw [Nat.add_mul] at hmul
      omega
    obtain ⟨hfirst, hclear, -⟩ := firstClear_spec (h.clear (polled clock polls n k + 7)
      ((le_polled k).trans (Nat.le_add_right _ _)) hround)
    rw [polled, Nat.add_mul]
    exact ⟨by omega, hclear⟩

lemma time_polled (h : Prompt clock polls n) : clock.time (polled clock polls n 4) ≤ clock.time n + 1 := by
  have hlt := (h.polled_spec le_rfl).1
  exact (clock.time_mono (by omega)).trans h.slow

end Prompt

lemma readAgain_stops (rounds : ℕ) {n : ℕ} {rs : ℕ → Rtc}
    (hrs : ∀ k ≤ n, (rs k).readRound polls = some (rs (k + 1))) (hn : n < rounds)
    (h : ¬ Rtc.differs (rs n) (rs (n + 1))) :
    ∃ k ≤ n, ¬ Rtc.differs (rs k) (rs (k + 1)) ∧ (rs 0).readAgain polls rounds = some (rs (k + 1)) := by
  induction n generalizing rounds rs with
  | zero =>
    obtain ⟨rounds, rfl⟩ := Nat.exists_eq_add_of_lt hn
    refine ⟨0, le_rfl, h, ?_⟩
    rw [Nat.zero_add, Rtc.readAgain, hrs 0 le_rfl, Option.bind_some, if_neg h]
  | succ n ih =>
    cases rounds with
    | zero => omega
    | succ rounds =>
      rw [Rtc.readAgain, hrs 0 (Nat.zero_le _), Option.bind_some]
      by_cases hfirst : Rtc.differs (rs 0) (rs (0 + 1))
      · have hlt : n < rounds := by omega
        obtain ⟨k, hk, hsame, hread⟩ := @ih rounds (fun k => rs (k + 1)) (fun k hk => hrs (k + 1) (by omega)) hlt h
        exact ⟨k + 1, by omega, hsame, (if_pos hfirst).trans hread⟩
      · exact ⟨0, by omega, hfirst, if_neg hfirst⟩

lemma Keeps.readAgain_spec (h : Keeps registers clock registerB date) (hp : Prompt clock polls g.cmos.reads)
    (hpolls : 3 ≤ polls) (hg : g.cmos.registers = registers) :
    ∃ k ≤ 2, ∃ t, clock.time g.cmos.reads ≤ t ∧ t ≤ clock.time (polled clock polls g.cmos.reads (k + 1)) ∧
      ((g.readRound polls).bind fun g => g.readAgain polls polls) =
        some (Rtc.roundAt registers (polled clock polls g.cmos.reads (k + 1))) ∧
      clock.round (polled clock polls g.cmos.reads (k + 1) + 1) clockRegisters =
        clockRegisters.map (clock.face t) := by
  have hfirst : g.readRound polls = some (Rtc.roundAt registers (polled clock polls g.cmos.reads 0)) :=
    h.readRound_eq (hp.clear _ le_rfl (Nat.le_add_right _ _)) hg
  generalize g.cmos.reads = n at hp hfirst ⊢
  have hnext : ∀ k < 4, (Rtc.roundAt registers (polled clock polls n k)).readRound polls =
      some (Rtc.roundAt registers (polled clock polls n (k + 1))) := by
    intro k hk
    have hlt := (hp.polled_spec hk.le).1
    have hlast : polled clock polls n k + 7 ≤ n + 4 * (polls + 6) := by
      have hmul := Nat.mul_le_mul_right (polls + 6) (Nat.succ_le_of_lt hk)
      rw [Nat.succ_mul] at hmul
      omega
    exact h.readRound_eq (hp.clear _ ((le_polled k).trans (Nat.le_add_right _ _)) hlast) rfl
  have hclear : ∀ k ≤ 4, ¬ clock.updating (polled clock polls n k) := fun k hk => (hp.polled_spec hk).2
  -- Two rounds agree at the first turn of the loop or at the third.
  have hstop : ∃ n' ≤ 2, ¬ Rtc.differs (Rtc.roundAt registers (polled clock polls n n'))
      (Rtc.roundAt registers (polled clock polls n (n' + 1))) := by
    have hlength : ∀ k, polled clock polls n k + clockRegisters.length < polled clock polls n (k + 1) :=
      polled_step clock polls n
    rcases Timepiece.rounds_settle hlength hclear (clock.time_mono (le_polled 0)) hp.time_polled with hsame | hsame
    · exact ⟨0, by decide, fun hd => (differs_roundAt h _ _).mp hd hsame⟩
    · exact ⟨2, by decide, fun hd => (differs_roundAt h _ _).mp hd hsame⟩
  obtain ⟨n', hn', hsame⟩ := hstop
  obtain ⟨k, hk, hagree, hread⟩ := readAgain_stops polls (fun k hk => hnext k (by omega)) (by omega) hsame
  have hround : clock.round (polled clock polls n k + 1) clockRegisters =
      clock.round (polled clock polls n (k + 1) + 1) clockRegisters :=
    not_not.mp fun hd => hagree ((differs_roundAt h _ _).mpr hd)
  have hstep := polled_step clock polls n k
  have hshort : clock.time (polled clock polls n (k + 1) + 1 + 5) + 1 <
    clock.time (polled clock polls n k + 1) + 60 := by
    have hlast : polled clock polls n (k + 1) + 7 ≤ polled clock polls n 4 :=
      (polled_step clock polls n (k + 1)).trans (polled_mono (by omega))
    have htime := clock.time_mono (show polled clock polls n (k + 1) + 1 + 5 ≤ polled clock polls n 4 by omega)
    have hstart := clock.time_mono (show n ≤ polled clock polls n k + 1 from (le_polled k).trans (Nat.le_succ _))
    have hwindow := hp.time_polled
    omega
  refine ⟨k, hk.trans hn', clock.shown (polled clock polls n k + 1) 0x00, ?_, ?_, ?_, ?_⟩
  · exact (clock.time_mono ((le_polled k).trans (Nat.le_succ _))).trans Timepiece.time_le_shown
  · exact Timepiece.shown_le_time (by omega) (hclear (k + 1) (by omega))
  · rw [hfirst, Option.bind_some, hread]
  · rw [← hround]
    exact Timepiece.round_eq_face h.sweeps (by omega) (Nat.lt_succ_self _) (hclear (k + 1) (by omega))
      (show polled clock polls n k + 1 + 5 < _ by omega) hshort hround

/-! ### What the readings are taken for -/

/-- Midnight and noon of a clock of twelve hours are taken for each other. -/
def toldHour (registerB : UInt8) (hour : ℕ) : ℕ :=
  if registerB &&& 0x02 = 0 ∧ hour % 12 = 0 then (hour + 12) % 24 else hour

structure Rtc.Tells (g : Rtc) (registerB : UInt8) (date : ℕ → Date) (t : ℕ) : Prop where
  second : g.second.toNat = t % 60
  minute : g.minute.toNat = t / 60 % 60
  hour : g.hour.toNat = toldHour registerB (t / 3600 % 24)
  day : g.day.toNat = (date (t / 86400)).day
  month : g.month.toNat = (date (t / 86400)).month
  year : g.year.toNat = if 24 ≤ (date (t / 86400)).year.val then 2000 + (date (t / 86400)).year.val
    else 2100 + (date (t / 86400)).year.val

def convertedHour (registerB hour : UInt8) : UInt8 :=
  let hour := if registerB &&& 0x04 = 0 then
    ((hour &&& 0x0F) + (hour &&& 0x70) / 16 * 10) ||| (hour &&& 0x80) else hour
  if registerB &&& 0x02 = 0 ∧ hour &&& 0x80 ≠ 0 then ((hour &&& 0x7F) + 12) % 24 else hour

lemma convertedHour_encodedHour {hour : ℕ} (h : hour < 24) :
    (convertedHour registerB (encodedHour registerB hour)).toNat = toldHour registerB hour := by
  have hall : ∀ bcd twelve : Bool, ∀ hour < 24,
      let e := fun v : ℕ => if bcd then UInt8.ofNat (v / 10 * 16 + v % 10) else UInt8.ofNat v
      let x := if twelve then e ((hour + 11) % 12 + 1) ||| (if 12 ≤ hour then 0x80 else 0) else e hour
      let y := if bcd then ((x &&& 0x0F) + (x &&& 0x70) / 16 * 10) ||| (x &&& 0x80) else x
      (if twelve ∧ y &&& 0x80 ≠ 0 then ((y &&& 0x7F) + 12) % 24 else y).toNat =
        if twelve ∧ hour % 12 = 0 then (hour + 12) % 24 else hour := by
    decide +kernel
  have := hall (registerB &&& 0x04 = 0) (registerB &&& 0x02 = 0) hour h
  simpa [convertedHour, encodedHour, toldHour, encoded] using this

def convertedByte (registerB value : UInt8) : UInt8 := if registerB &&& 0x04 = 0 then bcdToBinary value else value

lemma convertedByte_encoded {v : ℕ} (h : v < 100) : (convertedByte registerB (encoded registerB v)).toNat = v := by
  have hbinary : convertedByte registerB (encoded registerB v) = UInt8.ofNat v := by
    unfold convertedByte encoded
    split_ifs with hb
    · exact bcdToBinary_encoded v h
    · rfl
  rw [hbinary, UInt8.toNat_ofNat']
  omega

def convertedYear (registerB : UInt8) (year : UInt32) : UInt32 :=
  let year := (if registerB &&& 0x04 = 0 then (year &&& 0x0F) + year / 16 * 10 else year) + 2024 / 100 * 100
  if year < 2024 then year + 100 else year

lemma convertedYear_encoded {v : ℕ} (h : v < 100) :
    (convertedYear registerB (encoded registerB v).toUInt32).toNat = if 24 ≤ v then 2000 + v else 2100 + v := by
  have hall : ∀ bcd : Bool, ∀ v < 100,
      let x := (if bcd then UInt8.ofNat (v / 10 * 16 + v % 10) else UInt8.ofNat v).toUInt32
      let y := (if bcd then (x &&& 0x0F) + x / 16 * 10 else x) + 2024 / 100 * 100
      (if y < 2024 then y + 100 else y).toNat = if 24 ≤ v then 2000 + v else 2100 + v := by
    decide +kernel
  have := hall (registerB &&& 0x04 = 0) v h
  simpa [convertedYear, encoded] using this

lemma converted_eq (registerB : UInt8) (g : Rtc) :
    ((g.bcdConverted registerB).hourConverted registerB).yearConverted =
      ⟨g.cmos, convertedByte registerB g.second, convertedByte registerB g.minute, convertedHour registerB g.hour,
        convertedByte registerB g.day, convertedByte registerB g.month, convertedYear registerB g.year⟩ := by
  unfold Rtc.yearConverted Rtc.hourConverted Rtc.bcdConverted convertedByte convertedHour convertedYear
  split_ifs <;> simp_all

lemma readRtc_eq {g₀ g₁ : Rtc} (hfirst : g.readRound polls = some g₀) (hagain : g₀.readAgain polls polls = some g₁)
    (hformat : g₁.cmos.registers g₁.cmos.reads 0x0B = registerB) :
    g.readRtc polls = some ((({ g₁ with cmos := ⟨g₁.cmos.registers, g₁.cmos.reads + 1, 0x0B⟩ }.bcdConverted
      registerB).hourConverted registerB).yearConverted) := by
  subst hformat
  rw [Rtc.readRtc, hfirst, Option.bind_some, hagain, Option.map_some]
  rfl

lemma Keeps.readRtc_tells (h : Keeps registers clock registerB date) (hp : Prompt clock polls g.cmos.reads)
    (hpolls : 3 ≤ polls) (hg : g.cmos.registers = registers) :
    ∃ g' t, g.readRtc polls = some g' ∧ g'.cmos.registers = registers ∧ g'.Tells registerB date t ∧
      clock.time g.cmos.reads ≤ t ∧ t ≤ clock.time g'.cmos.reads := by
  obtain ⟨k, -, t, hlow, hhigh, hread, hround⟩ := h.readAgain_spec hp hpolls hg
  generalize polled clock polls g.cmos.reads (k + 1) = q at *
  obtain ⟨g₀, hfirst, hagain⟩ := Option.bind_eq_some_iff.mp hread
  have hreg : ∀ n, ∀ r ∈ clockRegisters, clock.read n r = registers n r := fun n r hr => (h.read n r hr).symm
  simp only [clockRegisters, List.mem_cons, List.not_mem_nil, or_false, forall_eq_or_imp, forall_eq] at hreg
  rw [h.face] at hround
  simp only [clockRegisters, Timepiece.round, hreg, List.cons.injEq, and_true] at hround
  obtain ⟨hsecond, hminute, hhour, hday, hmonth, hyear⟩ := hround
  refine ⟨⟨⟨registers, q + 8, 0x0B⟩, convertedByte registerB (registers (q + 1) 0x00),
    convertedByte registerB (registers (q + 2) 0x02), convertedHour registerB (registers (q + 3) 0x04),
    convertedByte registerB (registers (q + 4) 0x07), convertedByte registerB (registers (q + 5) 0x08),
    convertedYear registerB (registers (q + 6) 0x09).toUInt32⟩, t, ?_, rfl, ?_, hlow, ?_⟩
  · rw [readRtc_eq hfirst hagain (h.format _), converted_eq]
    rfl
  · constructor
    · exact hsecond ▸ convertedByte_encoded (by omega)
    · exact hminute ▸ convertedByte_encoded (by omega)
    · exact hhour ▸ convertedHour_encodedHour (by omega)
    · exact hday ▸ convertedByte_encoded (by omega)
    · exact hmonth ▸ convertedByte_encoded (by omega)
    · have hyear : registers (q + 6) 0x09 = encoded registerB (date (t / 86400)).year := hyear
      dsimp only
      rw [hyear, convertedYear_encoded (Fin.isLt _)]
  · exact hhigh.trans (clock.time_mono (Nat.le_add_right q 8))

/-! ### The digits on the screen -/

/-- Zero has no digits: its second place shows the byte behind the buffer of `itoa`, unless that is 0. -/
def shownDigits (behind : UInt8) (val : ℕ) : List UInt8 :=
  if val = 0 then [0x30, if behind = 0 then 0x30 else behind] else [digitChar (val / 10), digitChar (val % 10)]

def clockCell (c : UInt8) : UInt16 := (if c < 0x80 then c.toUInt16 else 0xFF00 ||| c.toUInt16) ||| 0x0F00

def showAt (col : ℕ) (text : List UInt8) (t : Console) : Console :=
  { t with screen := fun p =>
      if 24 * 80 + col ≤ p ∧ p < 24 * 80 + col + text.length then clockCell (text.getD (p - (24 * 80 + col)) 0)
      else t.screen p }

lemma framebufferWrite_eq (col c : UInt8) (t : Console) :
    t.framebufferWrite 24 col c 0xF 0 = showAt col.toNat [c] t := by
  have hattrib : (((0 : UInt8).toUInt16 <<< 4) ||| ((0xF : UInt8).toUInt16 &&& 0x0F)) <<< 8 =
    (0x0F00 : UInt16) := by
    decide
  have hposition : Console.position 24 col = 24 * 80 + col.toNat := rfl
  simp only [Console.framebufferWrite, showAt, hposition, hattrib]
  congr 1
  funext p
  by_cases hp : p = 24 * 80 + col.toNat
  · simp [hp, clockCell]
  · rw [update_of_ne hp, if_neg]
    simp only [List.length_singleton]
    omega

lemma showAt_showAt (col : ℕ) (s s' : List UInt8) (t : Console) :
    showAt (col + s.length) s' (showAt col s t) = showAt col (s ++ s') t := by
  unfold showAt
  congr 1
  funext p
  simp only [List.length_append]
  by_cases hlow : p < 24 * 80 + col
  · rw [if_neg (by omega), if_neg (by omega), if_neg (by omega)]
  by_cases hs : p < 24 * 80 + col + s.length
  · rw [if_neg (by omega), if_pos (by omega), if_pos (by omega), List.getD_append _ _ _ _ (by omega)]
  · have hindex : p - (24 * 80 + col) - s.length = p - (24 * 80 + (col + s.length)) := by omega
    rw [List.getD_append_right _ _ _ _ (by omega), hindex]
    split_ifs <;> first | rfl | omega

lemma shownDigits_length (behind : UInt8) (val : ℕ) : (shownDigits behind val).length = 2 := by
  unfold shownDigits
  split_ifs <;> rfl

lemma framebufferWrite_two {col : UInt8} (hcol : col < 0xFF) (c c' : UInt8) (t : Console) :
    (t.framebufferWrite 24 col c 0xF 0).framebufferWrite 24 (col + 1) c' 0xF 0 = showAt col.toNat [c, c'] t := by
  have hnext : (col + 1).toNat = col.toNat + 1 := by
    have : col.toNat < 0xFF := hcol
    rw [UInt8.toNat_add]
    change (col.toNat + 1) % 256 = col.toNat + 1
    omega
  rw [framebufferWrite_eq, framebufferWrite_eq, hnext]
  exact showAt_showAt col.toNat [c] [c'] t

lemma writeNumber_text {col : UInt8} {val : ℤ} {buf buf' : ℕ → UInt8} {start : ℕ} {text : List UInt8} (t : Console)
    (hcol : col < 0xFF) (hitoa : itoa val 10 buf = some (start, buf')) (htext : textAt 32 buf' start = some text) :
    writeNumber col val buf t = some (buf', showAt col.toNat (if text.length = 1 then [0x30, buf' start] else
      [if buf' start = 0 then 0x30 else buf' start,
        if buf' (start + 1) = 0 then 0x30 else buf' (start + 1)]) t) := by
  simp only [writeNumber, hitoa, Option.bind_some, htext, Option.map_some]
  by_cases hlength : text.length = 1
  · rw [if_pos hlength, if_pos hlength, framebufferWrite_two hcol]
  · rw [if_neg hlength, if_neg hlength, framebufferWrite_two hcol]

lemma writeNumber_eq (col : UInt8) (val : ℕ) {buf : ℕ → UInt8} (hcol : col < 0xFF) (hval : val < 100)
    (hend : buf 31 = 0) :
    ∃ buf', (∀ t, writeNumber col val buf t = some (buf', showAt col.toNat (shownDigits (buf 32) val) t)) ∧
      buf' 31 = 0 ∧ buf' 32 = buf 32 := by
  have hempty : textAt 32 buf 31 = some [] :=
    textAt_eq_some.mpr ⟨by decide, fun j hj => by rw [Nat.le_zero.mp hj]; exact hend, List.not_mem_nil⟩
  have hdigit : ∀ v, digitChar (v % 10) ≠ 0 :=
    fun v => digitChar_ne_zero ((Nat.mod_lt v (by decide)).trans (by decide))
  by_cases hzero : val = 0
  · have hitoa : itoa (val : ℤ) 10 buf = some (31, buf) := by
      subst hzero
      rfl
    refine ⟨buf, fun t => ?_, hend, rfl⟩
    rw [writeNumber_text t hcol hitoa hempty, shownDigits, if_pos hzero]
    simp [hend]
  have hlast := @itoaLoop_digit 10 29 val buf (by decide) (by decide) hzero
  have hshown : shownDigits (buf 32) val = [digitChar (val / 10), digitChar (val % 10)] := if_neg hzero
  have htext := textAt_update hempty (hdigit val)
  by_cases hone : val / 10 = 0
  · have hitoa : itoa (val : ℤ) 10 buf = some (30, update buf 30 (digitChar (val % 10))) := by
      rw [hone] at hlast
      exact congrArg (Option.map fun r => (r.1 + 1, r.2)) hlast
    refine ⟨update buf 30 (digitChar (val % 10)), fun t => ?_, hend, rfl⟩
    rw [writeNumber_text t hcol hitoa htext, hshown, hone]
    simp [digitChar, hexDigits]
  · have hfirst := @itoaLoop_digit 10 28 _ (update buf 30 (digitChar (val % 10))) (by decide) (by decide) hone
    have hitoa : itoa (val : ℤ) 10 buf =
        some (29, update (update buf 30 (digitChar (val % 10))) 29 (digitChar (val / 10 % 10))) := by
      rw [show val / 10 / 10 = 0 by omega] at hfirst
      exact congrArg (Option.map fun r => (r.1 + 1, r.2)) (hlast.trans hfirst)
    have htens : val / 10 % 10 = val / 10 := Nat.mod_eq_of_lt (by omega)
    have hten : digitChar (val / 10) ≠ 0 := htens ▸ hdigit (val / 10)
    refine ⟨update (update buf 30 (digitChar (val % 10))) 29 (digitChar (val / 10 % 10)), fun t => ?_, hend, rfl⟩
    rw [writeNumber_text t hcol hitoa (textAt_update htext (hdigit (val / 10))), hshown, htens]
    simp [hten, hdigit val, update_of_ne]

def clockText (behind : UInt8) (hour minute second : ℕ) : List UInt8 :=
  shownDigits behind hour ++ [0x3A] ++ shownDigits behind minute ++ [0x3A] ++ shownDigits behind second

def showTime (registerB behind : UInt8) (moment : ℕ) (t : Console) : Console :=
  showAt 72 (clockText behind ((toldHour registerB (moment / 3600 % 24) + 7) % 24) (moment / 60 % 60)
  (moment % 60)) t

lemma printCurrentTime_eq {g' : Rtc} {moment : ℕ} {buf : ℕ → UInt8} (t : Console)
    (hread : g.readRtc polls = some g') (htells : g'.Tells registerB date moment) (hend : buf 31 = 0) :
    ∃ buf', printCurrentTime polls g buf t = some (g', buf', showTime registerB (buf 32) moment t) := by
  have hhour : ((g'.hour.toNat : ℤ) + 7) % 24 = ((toldHour registerB (moment / 3600 % 24) + 7) % 24 : ℕ) := by
    rw [htells.hour]
    push_cast
    rfl
  obtain ⟨buf₁, hfirst, hend₁, hbehind₁⟩ :=
    writeNumber_eq 72 ((toldHour registerB (moment / 3600 % 24) + 7) % 24) (by decide) (by omega) hend
  obtain ⟨buf₂, hsecond, hend₂, hbehind₂⟩ := writeNumber_eq 75 (moment / 60 % 60) (by decide) (by omega) hend₁
  obtain ⟨buf₃, hthird, -, -⟩ := writeNumber_eq 78 (moment % 60) (by decide) (by omega) hend₂
  refine ⟨buf₃, ?_⟩
  simp only [printCurrentTime, hread, hhour, htells.minute, htells.second, Option.bind_some, hfirst, hsecond,
    hthird, Option.map_some, hbehind₁, hbehind₂, framebufferWrite_eq]
  rw [showTime, clockText, ← showAt_showAt, ← showAt_showAt, ← showAt_showAt, ← showAt_showAt]
  simp only [List.length_append, shownDigits_length, List.length_singleton]
  rfl

/-- A call of `print_current_time`: how many reads' worth of time goes by before it, and the buffer of `itoa` and
the screen as it finds them. -/
structure Showing where
  idle : ℕ
  buf : ℕ → UInt8
  screen : Console

def Rtc.idled (g : Rtc) (n : ℕ) : Rtc := { g with cmos := { g.cmos with reads := g.cmos.reads + n } }

def printTimes (fuel : ℕ) : Rtc → List Showing → Option (List (Rtc × Console))
  | _, [] => some []
  | g, call :: calls =>
    (printCurrentTime fuel (g.idled call.idle) call.buf call.screen).bind fun (g, _, t) =>
      (printTimes fuel g calls).map fun outcomes => (g, t) :: outcomes

def begins (fuel : ℕ) : Rtc → List Showing → List ℕ
  | _, [] => []
  | g, call :: calls =>
    (g.idled call.idle).cmos.reads ::
      (printCurrentTime fuel (g.idled call.idle) call.buf call.screen).elim [] fun (g, _, _) => begins fuel g calls

lemma begins_eq {fuel : ℕ} {calls : List Showing} {outcomes : List (Rtc × Console)}
    (h : printTimes fuel g calls = some outcomes) : begins fuel g calls =
      List.zipWith (fun call reads => reads + call.idle) calls
        (g.cmos.reads :: outcomes.map fun outcome => outcome.1.cmos.reads) := by
  induction calls generalizing g outcomes with
  | nil => rfl
  | cons call calls ih =>
    obtain ⟨⟨g', buf, t⟩, hprint, h⟩ := Option.bind_eq_some_iff.mp h
    obtain ⟨rest, hrest, rfl⟩ := Option.map_eq_some_iff.mp h
    rw [begins, hprint, Option.elim_some]
    exact congrArg (List.cons _) (ih hrest)

theorem clock_shows_moments_in_order (h : Keeps registers clock registerB date) (hpolls : 3 ≤ polls)
    (hg : g.cmos.registers = registers) {calls : List Showing} (hcalls : ∀ call ∈ calls, call.buf 31 = 0)
    (hp : ∀ n ∈ begins polls g calls, Prompt clock polls n) :
    ∃ outcomes moments, printTimes polls g calls = some outcomes ∧ moments.length = calls.length ∧
      outcomes.map Prod.snd =
        List.zipWith (fun call t => showTime registerB (call.buf 32) t call.screen) calls moments ∧
      List.Forall₂ (fun call t => call.2.1.Tells registerB date t ∧ clock.time call.1 ≤ t ∧
        t ≤ clock.time call.2.1.cmos.reads) ((begins polls g calls).zip outcomes) moments ∧
      (∀ t ∈ moments, clock.time g.cmos.reads ≤ t) ∧ moments.Pairwise (· ≤ ·) := by
  induction calls generalizing g with
  | nil => exact ⟨[], [], rfl, rfl, rfl, .nil, by simp, .nil⟩
  | cons call calls ih =>
    obtain ⟨hnow, hlater⟩ := List.forall_mem_cons.mp hp
    obtain ⟨g', moment, hread, hg', htells, hlow, hhigh⟩ := h.readRtc_tells hnow hpolls hg
    obtain ⟨buf', hprint⟩ := printCurrentTime_eq call.screen hread htells (hcalls call List.mem_cons_self)
    rw [hprint, Option.elim_some] at hlater
    obtain ⟨outcomes, moments, hrest, hlength, hscreens, htold, hafter, hsorted⟩ :=
      ih hg' (fun call hcall => hcalls call (List.mem_cons_of_mem _ hcall)) hlater
    have hbegin : clock.time g.cmos.reads ≤ moment := (clock.time_mono (Nat.le_add_right _ call.idle)).trans hlow
    refine ⟨(g', showTime registerB (call.buf 32) moment call.screen) :: outcomes, moment :: moments, ?_, ?_,
      ?_, ?_, ?_, ?_⟩
    · simp only [printTimes, hprint, Option.bind_some, hrest, Option.map_some]
    · simp [hlength]
    · simp [hscreens]
    · rw [begins, hprint, Option.elim_some, List.zip_cons_cons]
      exact .cons ⟨htells, hlow, hhigh⟩ htold
    · intro t ht
      rcases List.mem_cons.mp ht with rfl | ht
      · exact hbegin
      · exact (hbegin.trans hhigh).trans (hafter t ht)
    · exact List.pairwise_cons.mpr ⟨fun t ht => hhigh.trans (hafter t ht), hsorted⟩

/-- A clock of twelve hours, in decimals, that is updated at every thousandth access, where the flag shows
early. -/
def noonClock : Timepiece UInt8 UInt8 where
  time n := n / 1000
  updating n := 997 < n % 1000
  shown n _ := n / 1000
  face t r :=
    if r = 0x00 then encoded 0 (t % 60) else if r = 0x02 then encoded 0 (t / 60 % 60)
    else if r = 0x04 then encodedHour 0 (t / 3600 % 24) else if r = 0x07 then encoded 0 12
    else if r = 0x08 then encoded 0 6 else encoded 0 24
  time_mono := fun _ _ h => Nat.div_le_div_right h
  shown_eq := fun _ _ => .inl rfl
  update_ends m n hmn hm hn := by
    simp only [decide_eq_true_eq] at hm hn
    omega

def noonRegisters (n : ℕ) (r : UInt8) : UInt8 :=
  if r = 0x0A then if noonClock.updating n then 0xA6 else 0x26
  else if r = 0x0B then 0 else noonClock.read n r

def noonStart : Rtc := ⟨⟨noonRegisters, 43199997, 0⟩, 0, 0, 0, 0, 0, 0⟩

def darkScreen : Console := ⟨false, 0, 0, 0, 0, fun _ => 0, 0⟩

lemma noonRegisters_keeps : Keeps noonRegisters noonClock 0 fun _ => ⟨⟨12, by decide⟩, 6, 24⟩ := by
  constructor
  · intro n
    change (if noonClock.updating n = true then (0xA6 : UInt8) else 0x26) &&& 0x80 = 0 ↔ _
    by_cases hu : noonClock.updating n = true
    · rw [if_pos hu]
      exact iff_of_false (by decide) (not_not.mpr hu)
    · rw [if_neg hu]
      exact iff_of_true (by decide) hu
  · intro n r hr
    have ha : (0x0A : UInt8) ∉ clockRegisters := by decide
    have hb : (0x0B : UInt8) ∉ clockRegisters := by decide
    rw [noonRegisters, if_neg (ne_of_mem_of_not_mem hr ha), if_neg (ne_of_mem_of_not_mem hr hb)]
  · intro n
    rfl
  · intro t
    rfl

lemma noonClock_prompt (n : ℕ) : Prompt noonClock 3 n := by
  constructor
  · intro m _ _
    by_cases hm : 997 < m % 1000
    · refine ⟨1000 - m % 1000, by omega, ?_⟩
      simp only [noonClock, decide_eq_true_eq]
      omega
    · exact ⟨0, by decide, by simpa [noonClock] using Nat.le_of_not_lt hm⟩
  · simp only [noonClock]
    omega

def noonCalls : List Showing := [⟨0, fun _ => 0, darkScreen⟩, ⟨5000, fun _ => 0, darkScreen⟩]

theorem clock_shows_moments_in_order_noon : ∃ t t', t + 5 ≤ t' ∧
    (printTimes 3 noonStart noonCalls).map (List.map Prod.snd) =
      some [showTime 0 0 t darkScreen, showTime 0 0 t' darkScreen] := by
  have hcalls : ∀ call ∈ noonCalls, call.buf 31 = 0 := by simp [noonCalls]
  obtain ⟨outcomes, moments, hprint, hlength, hscreens, htold, -, -⟩ :=
    clock_shows_moments_in_order (g := noonStart) noonRegisters_keeps le_rfl rfl hcalls fun n _ =>
    noonClock_prompt n
  obtain ⟨t, t', rfl⟩ := List.length_eq_two.mp hlength
  obtain ⟨o, o', rfl⟩ : ∃ o o', outcomes = [o, o'] := by
    rw [← List.length_eq_two]
    simpa [noonCalls] using congrArg List.length hscreens
  rw [begins_eq hprint] at htold
  refine ⟨t, t', ?_, ?_⟩
  · simp only [noonCalls, List.map_cons, List.zipWith_cons_cons, List.zip_cons_cons, List.forall₂_cons] at htold
    obtain ⟨⟨-, -, hfirst⟩, ⟨-, hsecond, -⟩, -⟩ := htold
    simp only [noonClock] at hfirst hsecond
    omega
  · rw [hprint, Option.map_some, hscreens]
    rfl

end Semogakelar.Terminal
