import Mathlib.Data.List.Nodup
import Mathlib.Tactic.Lemma
import Mathlib.Tactic.TypeStar

/-! Breadth-first traversals of a tree with a queue that has no tail index: the children of the node in front are
put over the nodes that wait behind it. Every node is visited at most once, and all of them are exactly when no
node with children has a later sibling. -/

namespace Semogakelar.Library

variable {α : Type*}

inductive Below (children : α → List α) (root : α) : α → Prop
  | root : Below children root root
  | child {d c : α} : Below children root d → c ∈ children d → Below children root c

structure Arborescent (children : α → List α) (root : α) : Prop where
  nodup : ∀ {d}, Below children root d → (children d).Nodup
  parent : ∀ {d d' c}, Below children root d → Below children root d' → c ∈ children d → c ∈ children d' → d = d'
  top : ∀ {d}, Below children root d → root ∉ children d

def putOver (l pending : List α) : List α := l ++ pending.drop l.length

/-- From the queue `pending` on, the traversal visits the nodes of the second list and ends. -/
inductive Scan (children : α → List α) : List α → List α → Prop
  | nil : Scan children [] []
  | cons {d : α} {pending l : List α} : Scan children (putOver (children d) pending) l →
      Scan children (d :: pending) (d :: l)

structure Frontier (children : α → List α) (root : α) (visited pending : List α) : Prop where
  nodup : (visited ++ pending).Nodup
  below : ∀ x ∈ visited ++ pending, Below children root x
  parents : ∀ x ∈ visited ++ pending, ∀ d, Below children root d → x ∈ children d → d ∈ visited

variable {children : α → List α} {root d q : α} {visited pending l : List α}

lemma getElem?_putOver (j : ℕ) : (putOver l pending)[j]? = if j < l.length then l[j]? else pending[j]? := by
  rw [putOver]
  split_ifs with hj
  · exact List.getElem?_append_left hj
  · rw [List.getElem?_append_right (by omega), List.getElem?_drop]
    congr 1
    omega

lemma mem_putOver (h : d ∈ putOver l pending) : d ∈ l ∨ d ∈ pending :=
  (List.mem_append.mp h).imp_right List.mem_of_mem_drop

section

variable (ht : Arborescent children root)
include ht

lemma frontier_start : Frontier children root [] [root] where
  nodup := by simp
  below := by
    intro x hx
    obtain rfl : x = root := by simpa using hx
    exact .root
  parents := by
    intro x hx d hd hm
    obtain rfl : x = root := by simpa using hx
    exact (ht.top hd hm).elim

omit ht in
lemma Frontier.child_not_mem (h : Frontier children root visited (d :: pending)) {c : α} (hc : c ∈ children d) :
    c ∉ visited ++ d :: pending := by
  intro hm
  have hd := h.below d (by simp)
  have hv := h.parents c hm d hd hc
  exact (List.nodup_append.mp h.nodup).2.2 d hv d (by simp) rfl

lemma Frontier.next (h : Frontier children root visited (d :: pending)) :
    Frontier children root (visited ++ [d]) (putOver (children d) pending) where
  nodup := by
    have hold := h.nodup
    rw [List.append_cons, List.nodup_append] at hold
    obtain ⟨hvisited, hpending, hapart⟩ := hold
    have hchild := fun c hc => h.child_not_mem (c := c) hc
    refine List.nodup_append.mpr ⟨hvisited, List.nodup_append.mpr ⟨ht.nodup (h.below d (by simp)),
      hpending.sublist (List.drop_sublist _ _), fun c hc x hx hcx => ?_⟩, fun x hx y hy hxy => ?_⟩
    · subst hcx
      exact hchild c hc (by simp [List.mem_of_mem_drop hx])
    · subst hxy
      rcases mem_putOver hy with hy | hy
      · exact hchild x hy (by simp at hx ⊢; tauto)
      · exact hapart x hx x hy rfl
  below := by
    intro x hx
    rcases List.mem_append.mp hx with hx | hx
    · exact h.below x (by simp at hx ⊢; tauto)
    · rcases mem_putOver hx with hx | hx
      · exact .child (h.below d (by simp)) hx
      · exact h.below x (by simp [hx])
  parents := by
    intro x hx d' hd' hm
    have hcases : x ∈ visited ++ d :: pending ∨ x ∈ children d := by
      rcases List.mem_append.mp hx with hx | hx
      · exact .inl (by simp at hx ⊢; tauto)
      · exact (mem_putOver hx).symm.imp_left fun hx => by simp [hx]
    rcases hcases with hx | hx
    · exact List.mem_append_left _ (h.parents x hx d' hd' hm)
    · simp [ht.parent hd' (h.below d (by simp)) hm hx]

lemma Scan.frontier (hs : Scan children pending l) (h : Frontier children root visited pending) :
    Frontier children root (visited ++ l) [] := by
  induction hs generalizing visited with
  | nil => simpa using h
  | cons _ ih =>
    rw [List.append_cons]
    exact ih (h.next ht)

lemma Scan.not_mem (hs : Scan children pending l) (h : Frontier children root visited pending)
    (hq : q ∉ visited ++ pending) (hp : ∀ d, Below children root d → q ∈ children d → d ∈ visited) :
    q ∉ visited ++ l := by
  induction hs generalizing visited with
  | nil => exact hq
  | @cons d pending l _ ih =>
    rw [List.append_cons]
    refine ih (h.next ht) (fun hm => ?_) fun d' hd' hm => List.mem_append_left _ (hp d' hd' hm)
    have hd := h.below d (by simp)
    rcases List.mem_append.mp hm with hm | hm
    · exact hq (by simp at hm ⊢; tauto)
    · rcases mem_putOver hm with hm | hm
      · exact (List.nodup_append.mp h.nodup).2.2 d (hp d hd hm) d (by simp) rfl
      · exact hq (by simp [hm])

lemma exists_scan {N : ℕ} (hN : ∀ l : List α, l.Nodup → (∀ x ∈ l, Below children root x) → l.length ≤ N)
    (h : Frontier children root visited pending) : ∃ l, Scan children pending l := by
  induction hn : N - visited.length generalizing visited pending with
  | zero =>
    cases pending with
    | nil => exact ⟨[], .nil⟩
    | cons d pending =>
      have hle := hN _ h.nodup h.below
      simp only [List.length_append, List.length_cons] at hle
      omega
  | succ n ih =>
    cases pending with
    | nil => exact ⟨[], .nil⟩
    | cons d pending =>
      obtain ⟨l, hl⟩ := ih (h.next ht) (by rw [List.length_append, List.length_singleton]; omega)
      exact ⟨d :: l, .cons hl⟩

/-! ### Completeness -/

omit ht in
lemma Scan.covers (hshape : ∀ d, Below children root d → (children d).Pairwise fun c _ => children c = [])
    (hs : Scan children pending l) (hbelow : ∀ x ∈ pending, Below children root x)
    (hpending : pending.Pairwise fun c _ => children c = []) (hroot : root ∈ visited ++ pending)
    (hclosed : ∀ x ∈ visited, ∀ c ∈ children x, c ∈ visited ++ pending) :
    ∀ x, Below children root x → x ∈ visited ++ l := by
  induction hs generalizing visited with
  | nil =>
    intro x hx
    induction hx with
    | root => exact hroot
    | child _ hc ih => exact hclosed _ (by simpa using ih) _ hc
  | @cons d pending l _ ih =>
    rw [List.append_cons]
    -- Nothing is lost: the node in front is the only one that waits, or it has no children.
    have hkept : ∀ x ∈ pending, x ∈ putOver (children d) pending := by
      intro x hx
      rw [putOver, (List.pairwise_cons.mp hpending).1 x hx]
      exact hx
    have hd := hbelow d (by simp)
    refine ih (fun x hx => ?_) ?_ ?_ fun x hx c hc => ?_
    · exact (mem_putOver hx).elim (.child hd) fun hx => hbelow x (by simp [hx])
    · rcases pending with _ | ⟨q, pending⟩
      · simpa [putOver] using hshape d hd
      · rw [putOver, (List.pairwise_cons.mp hpending).1 q (by simp)]
        exact (List.pairwise_cons.mp hpending).2
    · simp only [List.mem_append, List.mem_cons, List.not_mem_nil, or_false] at hroot ⊢
      rcases hroot with hr | rfl | hr
      · exact .inl (.inl hr)
      · exact .inl (.inr rfl)
      · exact .inr (hkept _ hr)
    · rcases List.mem_append.mp hx with hx | hx
      · have hm := hclosed x hx c hc
        simp only [List.mem_append, List.mem_cons, List.not_mem_nil, or_false] at hm ⊢
        rcases hm with hm | rfl | hm
        · exact .inl (.inl hm)
        · exact .inl (.inr rfl)
        · exact .inr (hkept _ hm)
      · obtain rfl : x = d := by simpa using hx
        simp [putOver, hc]

lemma Scan.shape (hs : Scan children pending l) (h : Frontier children root visited pending)
    (hall : ∀ x, Below children root x → x ∈ visited ++ l) :
    pending.Pairwise (fun c _ => children c = []) ∧ ∀ d ∈ l, (children d).Pairwise fun c _ => children c = [] := by
  induction hs generalizing visited with
  | nil => simp
  | @cons d pending l hs ih =>
    rw [List.append_cons] at hall
    obtain ⟨hnext, hrest⟩ := ih (h.next ht) hall
    have hlossless : children d = [] ∨ pending = [] := by
      by_contra hne
      rw [not_or] at hne
      obtain ⟨q, rest, rfl⟩ := List.exists_cons_of_ne_nil hne.2
      obtain ⟨c, cs, hc⟩ := List.exists_cons_of_ne_nil hne.1
      -- The first child takes the place of `q`.
      have hnot : q ∉ visited ++ [d] ++ l := by
        refine hs.not_mem ht (h.next ht) (fun hm => ?_) fun d' hd' hm => ?_
        · have hold := h.nodup
          rw [List.append_cons, List.nodup_append] at hold
          rcases List.mem_append.mp hm with hm | hm
          · exact hold.2.2 q hm q (by simp) rfl
          · rw [putOver, List.mem_append] at hm
            rcases hm with hm | hm
            · exact h.child_not_mem hm (by simp)
            · rw [hc, List.length_cons, List.drop_succ_cons] at hm
              exact (List.nodup_cons.mp hold.2.1).1 (List.mem_of_mem_drop hm)
        · exact List.mem_append_left _ (h.parents q (by simp) d' hd' hm)
      exact hnot (hall q (h.below q (by simp)))
    refine ⟨?_, fun x hx => ?_⟩
    · rcases hlossless with hd | rfl
      · rw [putOver, hd] at hnext
        exact List.pairwise_cons.mpr ⟨fun _ _ => hd, hnext⟩
      · simp
    · rcases List.mem_cons.mp hx with rfl | hx
      · exact hnext.sublist (List.sublist_append_left _ _)
      · exact hrest x hx

lemma scan_covers_iff (hs : Scan children [root] l) : (∀ x, Below children root x → x ∈ l) ↔
    ∀ d, Below children root d → (children d).Pairwise fun c _ => children c = [] := by
  constructor
  · intro hall d hd
    exact (hs.shape ht (frontier_start ht) (by simpa using hall)).2 d (hall d hd)
  · intro hshape
    have hbelow : ∀ x ∈ [root], Below children root x := by
      intro x hx
      obtain rfl := List.mem_singleton.mp hx
      exact .root
    have hall : ∀ x, Below children root x → x ∈ [] ++ l := hs.covers hshape hbelow (by simp) (by simp) (by simp)
    exact hall

lemma scan_sound (hs : Scan children [root] l) : l.Nodup ∧ ∀ x ∈ l, Below children root x := by
  have h := hs.frontier ht (frontier_start ht)
  rw [List.nil_append] at h
  exact ⟨by simpa using h.nodup, fun x hx => h.below x (by simpa using hx)⟩

end

end Semogakelar.Library
