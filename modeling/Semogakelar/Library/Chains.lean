import Mathlib.Data.List.Chain
import Mathlib.Data.List.Nodup
import Mathlib.Tactic.Lemma

/-! Chains in a linked allocation map: every cell is free, the last of its chain, or names the next cell. -/

namespace Semogakelar.Library

inductive Link (ι : Type*)
  | free
  | last
  | next (c : ι)
  deriving DecidableEq

inductive Chain {ι : Type*} (link : ι → Link ι) : ι → List ι → Prop
  | last {a : ι} : link a = .last → Chain link a [a]
  | next {a b : ι} {l : List ι} : link a = .next b → Chain link b l → Chain link a (a :: l)

namespace Chain

variable {ι : Type*} {link link' : ι → Link ι} {a b c : ι} {l l' : List ι}

lemma head_mem (h : Chain link a l) : a ∈ l := by
  cases h <;> simp

lemma ne_nil (h : Chain link a l) : l ≠ [] :=
  List.ne_nil_of_mem h.head_mem

lemma not_free (h : Chain link a l) : ∀ c ∈ l, link c ≠ .free := by
  induction h with
  | last he => simp [he]
  | next he _ ih => simpa [he] using ih

lemma unique (h : Chain link a l) (h' : Chain link a l') : l = l' := by
  induction h generalizing l' with
  | last he =>
    cases h' with
    | last _ => rfl
    | next he' _ => simp [he] at he'
  | next he _ ih =>
    cases h' with
    | last he' => simp [he] at he'
    | next he' ht =>
      obtain rfl : _ = _ := Link.next.inj (he.symm.trans he')
      rw [ih ht]

lemma suffix (h : Chain link a l) (hc : c ∈ l) : ∃ m, Chain link c m ∧ m <:+ l := by
  induction h with
  | last he =>
    obtain rfl := List.mem_singleton.mp hc
    exact ⟨_, .last he, List.suffix_rfl⟩
  | @next a b l he ht ih =>
    rcases List.mem_cons.mp hc with rfl | hc
    · exact ⟨_, .next he ht, List.suffix_rfl⟩
    · obtain ⟨m, hm, hs⟩ := ih hc
      exact ⟨m, hm, hs.trans (List.suffix_cons a l)⟩

lemma nodup (h : Chain link a l) : l.Nodup := by
  induction h with
  | last _ => simp
  | @next a b l he ht ih =>
    refine List.nodup_cons.mpr ⟨fun ha => ?_, ih⟩
    obtain ⟨m, hm, hs⟩ := ht.suffix ha
    have hl := congrArg List.length (hm.unique (.next he ht))
    have hle := hs.length_le
    simp only [List.length_cons] at hl
    omega

lemma congr (h : Chain link a l) (he : ∀ c ∈ l, link' c = link c) : Chain link' a l := by
  induction h with
  | last hl => exact .last ((he _ (by simp)).trans hl)
  | next hl _ ih =>
    exact .next ((he _ (by simp)).trans hl) (ih fun c hc => he c (List.mem_cons_of_mem _ hc))

lemma of_isChain (hc : (a :: l).IsChain fun x y => link x = .next y)
    (hl : ∀ z, (a :: l).getLast? = some z → link z = .last) : Chain link a (a :: l) := by
  induction l generalizing a with
  | nil => exact .last (hl a rfl)
  | cons b l ih =>
    rw [List.isChain_cons_cons] at hc
    exact .next hc.1 (ih hc.2 fun z hz => hl z (by rwa [List.getLast?_cons_cons]))

lemma mem_of_isChain (h : Chain link a l) (hc : (a :: l').IsChain fun x y => link x = .next y) :
    ∀ x ∈ a :: l', x ∈ l := by
  induction l' generalizing a l with
  | nil =>
    intro x hx
    obtain rfl := List.mem_singleton.mp hx
    exact h.head_mem
  | cons b l' ih =>
    rw [List.isChain_cons_cons] at hc
    cases h with
    | last he => simp [hc.1] at he
    | @next _ b' m he ht =>
      obtain rfl : b' = b := Link.next.inj (he.symm.trans hc.1)
      intro x hx
      rcases List.mem_cons.mp hx with rfl | hx
      · exact List.mem_cons_self
      · exact List.mem_cons_of_mem _ (ih ht hc.2 x hx)

end Chain

end Semogakelar.Library
