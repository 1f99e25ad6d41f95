import Mathlib.Data.Nat.Digits.Defs
import Semogakelar.Shell.CommandLine

/-! `itoa`: the numerals that the kernel prints, and the buffer in which it leaves them. -/

namespace Semogakelar.Terminal

open Function Shell

def hexDigits : Str :=
  [0x30, 0x31, 0x32, 0x33, 0x34, 0x35, 0x36, 0x37, 0x38, 0x39, 0x61, 0x62, 0x63, 0x64, 0x65, 0x66]

/-- The literal `"0123456789abcdef"` at an index, with its terminator. -/
def literalAt (d : ℤ) : Option UInt8 := if 0 ≤ d then (hexDigits ++ [0])[d.toNat]? else none

/-- The loop of `itoa` with index `i`. The remainder and the quotient are those of C, which trap at zero and where
the quotient does not fit. -/
def itoaLoop (base : ℤ) : ℕ → ℤ → (ℕ → UInt8) → Option (ℕ × (ℕ → UInt8))
  | 0, _, buf => some (0, buf)
  | i + 1, val, buf =>
    if val = 0 then some (i + 1, buf)
    else if base = 0 ∨ val = -2 ^ 31 ∧ base = -1 then none
    else (literalAt (val.tmod base)).bind fun c => itoaLoop base i (val.tdiv base) (update buf (i + 1) c)

/-- The index in the buffer that the result points to, and the buffer. -/
def itoa (val base : ℤ) (buf : ℕ → UInt8) : Option (ℕ × (ℕ → UInt8)) :=
  (itoaLoop base 30 val buf).map fun r => (r.1 + 1, r.2)

def itoaCalls : List (ℤ × ℤ) → (ℕ → UInt8) → Option (ℕ → UInt8)
  | [], buf => some buf
  | (val, base) :: calls, buf => (itoa val base buf).bind fun r => itoaCalls calls r.2

/-! ### What a numeral denotes -/

def digitValue (c : UInt8) : ℕ := hexDigits.idxOf c

def readIn (base : ℕ) (s : Str) : ℕ := s.foldl (fun n c => n * base + digitValue c) 0

structure Denotes (base val : ℕ) (s : Str) : Prop where
  nonempty : s ≠ []
  digits : ∀ c ∈ s, c ∈ hexDigits.take base
  value : readIn base s = val

def RoundTrips (val base : ℤ) (buf : ℕ → UInt8) : Prop :=
  ∃ start buf' s, itoa val base buf = some (start, buf') ∧ textAt 32 buf' start = some s ∧
    Denotes base.toNat val.toNat s

def digitChar (d : ℕ) : UInt8 := hexDigits.getD d 0

def lastDigits (b n val : ℕ) : Str := ((Nat.digits b val).take n).reverse.map digitChar

variable {b i n val : ℕ} {buf : ℕ → UInt8} {s : Str} {c : UInt8}

lemma digitValue_digitChar {d : ℕ} (h : d < 16) : digitValue (digitChar d) = d := by
  have hall : ∀ d < 16, digitValue (digitChar d) = d := by decide
  exact hall d h

lemma digitChar_mem {d : ℕ} (hb : b ≤ 16) (h : d < b) : digitChar d ∈ hexDigits.take b := by
  have hall : ∀ b ≤ 16, ∀ d < b, digitChar d ∈ hexDigits.take b := by decide
  exact hall b hb d h

lemma digitChar_ne_zero {d : ℕ} (h : d < 16) : digitChar d ≠ 0 := by
  have hall : ∀ d < 16, digitChar d ≠ 0 := by decide
  exact hall d h

lemma literalAt_digit {d : ℕ} (h : d < 16) : literalAt d = some (digitChar d) := by
  have hall : ∀ d < 16, literalAt (d : ℕ) = some (digitChar d) := by decide
  exact hall d h

lemma readIn_digits (ds : List ℕ) (h : ∀ d ∈ ds, d < 16) : readIn b (ds.reverse.map digitChar) =
    Nat.ofDigits b ds := by
  induction ds with
  | nil => rfl
  | cons d ds ih =>
    have hd : d < 16 := h d List.mem_cons_self
    have hrest := ih fun d hd => h d (List.mem_cons_of_mem _ hd)
    rw [List.reverse_cons, List.map_append, readIn, List.foldl_append, ← readIn, hrest]
    simp [digitValue_digitChar hd, Nat.ofDigits_cons, Nat.mul_comm, Nat.add_comm]

lemma lastDigits_denotes (hb : 2 ≤ b) (hb' : b ≤ 16) (hn : n ≠ 0) {m : ℕ} :
    Denotes b m (lastDigits b n val) ↔ val ≠ 0 ∧ val % b ^ n = m := by
  have hdigit : ∀ d ∈ (Nat.digits b val).take n, d < b :=
    fun d hd => Nat.digits_lt_base hb (List.mem_of_mem_take hd)
  have hvalue : readIn b (lastDigits b n val) = val % b ^ n := by
    rw [lastDigits, readIn_digits _ fun d hd => (hdigit d hd).trans_le hb',
      Nat.self_mod_pow_eq_ofDigits_take n val hb]
  have hnil : lastDigits b n val ≠ [] ↔ val ≠ 0 := by
    simp [lastDigits, hn, Nat.digits_eq_nil_iff_eq_zero]
  constructor
  · intro h
    exact ⟨hnil.mp h.nonempty, hvalue.symm.trans h.value⟩
  · rintro ⟨hval, hm⟩
    refine ⟨hnil.mpr hval, fun c hc => ?_, hvalue.trans hm⟩
    obtain ⟨d, hd, rfl⟩ := List.mem_map.mp hc
    exact digitChar_mem hb' (hdigit d (List.mem_reverse.mp hd))

/-! ### The loop -/

lemma textAt_update {size : ℕ} (h : textAt size buf (n + 1) = some s) (hc : c ≠ 0) :
    textAt size (update buf n c) n = some (c :: s) := by
  obtain ⟨hlen, hbytes, hs⟩ := textAt_eq_some.mp h
  apply textAt_eq_some.mpr
  refine ⟨by simp only [List.length_cons]; omega, fun j hj => ?_, ?_⟩
  · cases j with
    | zero => simp
    | succ j =>
      rw [update_of_ne (by omega), List.getD_cons_succ, ← hbytes j (by simpa using hj)]
      congr 1
      omega
  · rintro hmem
    rcases List.mem_cons.mp hmem with he | hmem
    · exact hc he.symm
    · exact hs hmem

lemma itoaLoop_digit (hb : 2 ≤ b) (hb' : b ≤ 16) (hval : val ≠ 0) :
    itoaLoop b (i + 1) val buf = itoaLoop b i (val / b : ℕ) (update buf (i + 1) (digitChar (val % b))) := by
  have hmod : val % b < 16 := (Nat.mod_lt val (by omega)).trans_le hb'
  have htrap : ¬ ((b : ℤ) = 0 ∨ (val : ℤ) = -2 ^ 31 ∧ (b : ℤ) = -1) := by omega
  rw [itoaLoop, if_neg (by omega), if_neg htrap, ← Int.ofNat_tmod, literalAt_digit hmod, ← Int.ofNat_tdiv]
  rfl

lemma itoaLoop_text (val : ℕ) (hb : 2 ≤ b) (hb' : b ≤ 16) (h : textAt 32 buf (i + 1) = some s) :
    ∃ i' buf', itoaLoop b i val buf = some (i', buf') ∧ textAt 32 buf' (i' + 1) =
    some (lastDigits b i val ++ s) := by
  induction i generalizing val buf s with
  | zero => exact ⟨0, buf, rfl, by simpa [lastDigits] using h⟩
  | succ i ih =>
    by_cases hval : val = 0
    · subst hval
      exact ⟨i + 1, buf, rfl, by simpa [lastDigits] using h⟩
    · -- The last digit goes before the string that is there already, and the others before it.
      have hchar : digitChar (val % b) ≠ 0 := digitChar_ne_zero ((Nat.mod_lt val (by omega)).trans_le hb')
      obtain ⟨i', buf', hloop, htext⟩ := ih (val / b) (textAt_update h hchar)
      refine ⟨i', buf', (itoaLoop_digit hb hb' hval).trans hloop, ?_⟩
      rw [htext, lastDigits, lastDigits, Nat.digits_def' hb (Nat.pos_of_ne_zero hval)]
      simp

lemma itoaLoop_above {base v : ℤ} {i' : ℕ} {buf' : ℕ → UInt8} (h : itoaLoop base i v buf = some (i', buf')) {j : ℕ}
    (hj : i < j) : buf' j = buf j := by
  induction i generalizing v buf with
  | zero =>
    cases h
    rfl
  | succ i ih =>
    rw [itoaLoop] at h
    split_ifs at h with hzero htrap
    · cases h
      rfl
    · obtain ⟨c, -, h⟩ := Option.bind_eq_some_iff.mp h
      rw [ih h (by omega), update_of_ne (by omega)]

/-! ### Every call -/

lemma itoaCalls_end {calls : List (ℤ × ℤ)} {buf' : ℕ → UInt8} (h : itoaCalls calls buf = some buf') :
    buf' 31 = buf 31 := by
  induction calls generalizing buf with
  | nil =>
    cases h
    rfl
  | cons call calls ih =>
    obtain ⟨⟨start, buf₁⟩, hcall, h⟩ := Option.bind_eq_some_iff.mp h
    obtain ⟨⟨i', buf₂⟩, hloop, he⟩ := Option.map_eq_some_iff.mp hcall
    cases he
    exact (ih h).trans (itoaLoop_above hloop (by decide))

lemma itoa_text (val : ℕ) (hb : 2 ≤ b) (hb' : b ≤ 16) (hend : buf 31 = 0) :
    ∃ start buf', itoa val b buf = some (start, buf') ∧ textAt 32 buf' start = some (lastDigits b 30 val) := by
  have hempty : textAt 32 buf (30 + 1) = some [] :=
    textAt_eq_some.mpr ⟨by decide, fun j hj => by rw [Nat.le_zero.mp hj]; exact hend, List.not_mem_nil⟩
  obtain ⟨i', buf', hloop, htext⟩ := itoaLoop_text val hb hb' hempty
  rw [List.append_nil] at htext
  exact ⟨i' + 1, buf', by rw [itoa, hloop, Option.map_some], htext⟩

lemma roundTrips_iff (hb : 2 ≤ b) (hb' : b ≤ 16) (hend : buf 31 = 0) :
    RoundTrips val b buf ↔ val ≠ 0 ∧ val < b ^ 30 := by
  obtain ⟨start, buf', hitoa, htext⟩ := itoa_text val hb hb' hend
  have hdenotes : RoundTrips val b buf ↔ Denotes b val (lastDigits b 30 val) := by
    constructor
    · rintro ⟨start', buf'', s, hitoa', htext', hs⟩
      obtain ⟨rfl, rfl⟩ := Prod.mk.inj (Option.some.inj (hitoa.symm.trans hitoa'))
      obtain rfl := Option.some.inj (htext.symm.trans htext')
      exact hs
    · intro h
      exact ⟨start, buf', _, hitoa, htext, h⟩
  rw [hdenotes, lastDigits_denotes hb hb' (by decide), Nat.mod_eq_iff_lt (by positivity)]

theorem itoa_round_trip_iff {calls : List (ℤ × ℤ)} {buf : ℕ → UInt8}
    (hcalls : itoaCalls calls (fun _ => 0) = some buf) {val base : ℤ} (hval : 0 ≤ val ∧ val < 2 ^ 31)
    (hbase : 2 ≤ base ∧ base ≤ 16) :
    RoundTrips val base buf ↔ 0 < val ∧ ¬ (base = 2 ∧ 2 ^ 30 ≤ val) := by
  obtain ⟨n, rfl⟩ := Int.eq_ofNat_of_zero_le hval.1
  obtain ⟨b, rfl⟩ := Int.eq_ofNat_of_zero_le (by omega : 0 ≤ base)
  have hn : n < 2 ^ 31 := by exact_mod_cast hval.2
  rw [roundTrips_iff (by omega) (by omega) (itoaCalls_end hcalls)]
  have hwide : b ≠ 2 → n < b ^ 30 := by
    intro hb
    calc n < 2 ^ 31 := hn
      _ ≤ 3 ^ 30 := by decide
      _ ≤ b ^ 30 := Nat.pow_le_pow_left (by omega) 30
  by_cases hb : b = 2
  · subst hb
    omega
  · have := hwide hb
    omega

theorem itoa_round_trip_after_longest : ∃ buf, itoaCalls [(2 ^ 31 - 1, 2)] (fun _ => 0) = some buf ∧
    RoundTrips 16 10 buf := by
  have hcalls : (itoaCalls [(2 ^ 31 - 1, 2)] fun _ => 0).isSome := by decide
  obtain ⟨buf, hcalls⟩ := Option.isSome_iff_exists.mp hcalls
  exact ⟨buf, hcalls, (itoa_round_trip_iff hcalls (by decide) (by decide)).mpr (by decide)⟩

/-- Zero has no digits, and 2 ^ 30 has one more in base two than the loop writes. -/
theorem itoa_loses_digits :
    (itoa 0 10 fun _ => 0).map (fun r => textAt 32 r.2 r.1) = some (some []) ∧
    ¬ RoundTrips 0 10 (fun _ => 0) ∧
    (itoa (2 ^ 30) 2 fun _ => 0).map (fun r => textAt 32 r.2 r.1) = some (some (List.replicate 30 0x30)) ∧
    ¬ RoundTrips (2 ^ 30) 2 fun _ => 0 := by
  refine ⟨by decide, fun h => ?_, by decide +kernel, fun h => ?_⟩
  · have h : RoundTrips (0 : ℕ) (10 : ℕ) fun _ => 0 := h
    exact ((roundTrips_iff (by decide) (by decide) rfl).mp h).1 rfl
  · have h : RoundTrips (2 ^ 30 : ℕ) (2 : ℕ) fun _ => 0 := h
    exact lt_irrefl _ ((roundTrips_iff (by decide) (by decide) rfl).mp h).2

end Semogakelar.Terminal
