import Mathlib.Data.Int.ModEq
import Mathlib.Order.Monotone.Basic
import Mathlib.Tactic.Linarith

/-! A timepiece whose registers are read one after another while it runs. During an update a register shows the
value of either side of it, so that a round of readings may be torn; two rounds that agree are not. -/

namespace Semogakelar.Library

/-- The number of updates that are complete at an access, whether one is under way then, and the count of updates
whose value a register shows. -/
structure Timepiece (R V : Type) where
  time : ℕ → ℕ
  updating : ℕ → Bool
  shown : ℕ → R → ℕ
  face : ℕ → R → V
  time_mono : Monotone time
  shown_eq : ∀ n r, shown n r = time n ∨ updating n ∧ shown n r = time n + 1
  update_ends : ∀ m n, m < n → updating m → ¬ updating n → time m < time n

namespace Timepiece

variable {R V : Type} (c : Timepiece R V)

/-- The register `sweep` counts through a period, and the registers `rs` move only where it starts again. -/
structure Sweeps (sweep : R) (rs : List R) (period : ℕ) : Prop where
  sweep_inj : ∀ t t', c.face t sweep = c.face t' sweep → t % period = t' % period
  carry : ∀ r ∈ rs, ∀ t t', t / period = t' / period → c.face t r = c.face t' r

def read (n : ℕ) (r : R) : V := c.face (c.shown n r) r

def round : ℕ → List R → List V
  | _, [] => []
  | n, r :: rs => c.read n r :: round (n + 1) rs

variable {c} {sweep r : R} {rs : List R} {period i m n p q : ℕ}

lemma round_eq_map {t : ℕ} (h : ∀ i < rs.length, ¬ c.updating (n + i) ∧ c.time (n + i) = t) :
    c.round n rs = rs.map (c.face t) := by
  induction rs generalizing n with
  | nil => rfl
  | cons r rs ih =>
    have hfirst := h 0 (by simp)
    have hrest : c.round (n + 1) rs = rs.map (c.face t) := ih fun i hi => by
      have := h (i + 1) (by simpa using hi)
      rwa [← Nat.add_assoc, Nat.add_right_comm] at this
    have hshown : c.shown n r = t := by
      rcases c.shown_eq n r with he | ⟨hu, -⟩
      · exact he.trans hfirst.2
      · exact absurd hu hfirst.1
    rw [round, read, hshown, hrest, List.map_cons]

lemma getElem?_round (n i : ℕ) (rs : List R) : (c.round n rs)[i]? = rs[i]?.map (c.read (n + i)) := by
  induction rs generalizing n i with
  | nil => simp [round]
  | cons r rs ih =>
    cases i with
    | zero => simp [round]
    | succ i => simp [round, ih, Nat.add_assoc, Nat.add_comm 1]

lemma time_le_shown : c.time n ≤ c.shown n r := by
  rcases c.shown_eq n r with h | ⟨-, h⟩ <;> omega

lemma shown_le_time (hnp : n < p) (hp : ¬ c.updating p) : c.shown n r ≤ c.time p := by
  have hmono := c.time_mono hnp.le
  rcases c.shown_eq n r with h | ⟨hu, h⟩
  · omega
  · have := c.update_ends n p hnp hu hp
    omega

/-! ### Two rounds that agree -/

section Agree

variable (hc : c.Sweeps sweep rs period) (hnp : n < p) (hpm : p < m) (hp : ¬ c.updating p)
include hc hnp hpm hp

lemma shown_sweep_eq (hshort : c.time m + 1 < c.time n + period) (h : c.read n sweep = c.read m sweep) :
    c.shown n sweep = c.shown m sweep := by
  have hmod : c.shown n sweep ≡ c.shown m sweep [MOD period] := hc.sweep_inj _ _ h
  have hle := shown_le_time (r := sweep) hnp hp
  have hmono := c.time_mono hpm.le
  have hn := time_le_shown (c := c) (n := n) (r := sweep)
  have hm := time_le_shown (c := c) (n := m) (r := sweep)
  have hm' : c.shown m sweep ≤ c.time m + 1 := by
    rcases c.shown_eq m sweep with h | ⟨-, h⟩ <;> omega
  apply Nat.ModEq.eq_of_abs_lt hmod
  rw [abs_lt]
  omega

lemma read_eq_face {i j : ℕ} (hr : r ∈ rs) (hs : c.shown n sweep = c.shown m sweep) (hi : n ≤ i) (hip : i < p)
    (hj : m ≤ j) (hshort : c.time j + 1 < c.time n + period) (h : c.read i r = c.read j r) :
    c.read i r = c.face (c.shown n sweep) r := by
  have hm := time_le_shown (c := c) (n := m) (r := sweep)
  have hi' := time_le_shown (c := c) (n := i) (r := r)
  have hj' := time_le_shown (c := c) (n := j) (r := r)
  have hj'' : c.shown j r ≤ c.time j + 1 := by
    rcases c.shown_eq j r with h | ⟨-, h⟩ <;> omega
  -- What is under way in the first round is complete in the second one, so neither side shows more than it.
  have hle : c.shown i r ≤ c.shown n sweep := by
    have := shown_le_time (r := r) hip hp
    have := c.time_mono hpm.le
    omega
  have hge : c.shown n sweep ≤ c.shown j r := by
    have := shown_le_time (r := sweep) hnp hp
    have := c.time_mono hpm.le
    have := c.time_mono hj
    omega
  have hlow := c.time_mono hi
  have hperiod : c.shown j r < c.shown i r + period := by omega
  have hdiv : c.shown j r / period ≤ c.shown i r / period + 1 := by
    have hpos : 0 < period := by omega
    rw [← Nat.add_div_right _ hpos]
    exact Nat.div_le_div_right hperiod.le
  have h1 := Nat.div_le_div_right (c := period) hle
  have h2 := Nat.div_le_div_right (c := period) hge
  rcases Nat.lt_or_ge (c.shown i r / period) (c.shown n sweep / period) with hlt | hge
  · -- The registers have moved on before the first reading of `sweep`.
    rw [h]
    exact hc.carry r hr _ _ (by omega)
  · exact hc.carry r hr _ _ (by omega)

theorem round_eq_face (hlast : n + rs.length < p) (hshort : c.time (m + rs.length) + 1 < c.time n + period)
    (h : c.round n (sweep :: rs) = c.round m (sweep :: rs)) :
    c.round n (sweep :: rs) = (sweep :: rs).map (c.face (c.shown n sweep)) := by
  have hmono := c.time_mono (show m ≤ m + rs.length by omega)
  have hs := shown_sweep_eq hc hnp hpm hp (by omega) (List.cons.inj h).1
  apply List.ext_getElem?
  intro i
  cases i with
  | zero => simp [round, read]
  | succ i =>
    rw [getElem?_round, List.getElem?_cons_succ, List.map_cons, List.getElem?_cons_succ, List.getElem?_map]
    cases hr : rs[i]? with
    | none => rfl
    | some r =>
      have hi : i < rs.length := (List.getElem?_eq_some_iff.mp hr).1
      have hagree : c.read (n + (i + 1)) r = c.read (m + (i + 1)) r := by
        have hith := congrArg (·[i + 1]?) h
        simpa [getElem?_round, hr] using hith
      have hmono' := c.time_mono (show m + (i + 1) ≤ m + rs.length by omega)
      have hread := read_eq_face hc hnp hpm hp (List.mem_of_getElem? hr) hs
        (show n ≤ n + (i + 1) by omega) (by omega) (show m ≤ m + (i + 1) by omega) (by omega) hagree
      rw [Option.map_some, Option.map_some, hread]

end Agree

/-! ### How soon two rounds agree -/

lemma time_eq_of_updating (hip : i < p) (hp : ¬ c.updating p) {t : ℕ} (hi : t ≤ c.time i) (hpt : c.time p ≤ t) :
    ¬ c.updating i := by
  intro hu
  have := c.update_ends i p hip hu hp
  omega

lemma rounds_settle {t : ℕ} {q : ℕ → ℕ} (hq : ∀ k, q k + rs.length < q (k + 1))
    (hclear : ∀ k ≤ 4, ¬ c.updating (q k)) (hlow : t ≤ c.time (q 0)) (hhigh : c.time (q 4) ≤ t + 1) :
    c.round (q 0 + 1) rs = c.round (q 1 + 1) rs ∨ c.round (q 2 + 1) rs = c.round (q 3 + 1) rs := by
  have hround : ∀ k < 4, ∀ t, t ≤ c.time (q k) → c.time (q (k + 1)) ≤ t →
      c.round (q k + 1) rs = rs.map (c.face t) := by
    intro k hk t hlow hhigh
    apply round_eq_map
    intro i hi
    have hbefore : q k + 1 + i < q (k + 1) := by
      have := hq k
      omega
    have hge := c.time_mono (show q k ≤ q k + 1 + i by omega)
    have hle := c.time_mono hbefore.le
    exact ⟨time_eq_of_updating hbefore (hclear _ hk) (by omega) hhigh, by omega⟩
  have hmono : Monotone q := monotone_nat_of_le_succ fun k => by
    have := hq k
    omega
  have h01 := c.time_mono (hmono (show 0 ≤ 1 by decide))
  have h12 := c.time_mono (hmono (show 1 ≤ 2 by decide))
  have h23 := c.time_mono (hmono (show 2 ≤ 3 by decide))
  have h34 := c.time_mono (hmono (show 3 ≤ 4 by decide))
  rcases Nat.lt_or_ge t (c.time (q 2)) with hlt | hge
  · right
    rw [hround 2 (by decide) (t + 1) hlt (h34.trans hhigh), hround 3 (by decide) (t + 1) (hlt.trans_le h23) hhigh]
  · left
    rw [hround 0 (by decide) t hlow (h12.trans hge), hround 1 (by decide) t (hlow.trans h01) hge]

end Timepiece

end Semogakelar.Library
