import Semogakelar.Library.Volumes

/-! Moving one item of a directory tree to another slot: what stays reachable, and when a folder cuts itself
off. -/

namespace Semogakelar.Library.Volume

variable {ι κ : Type*}

inductive Within (V : Volume ι κ) (c : ι) : ι → Prop
  | self : Within V c c
  | sub {d : ι} {s : κ} {e : Item ι} : Within V c d → V.item d s = some e → e.folder = true → Within V c e.head

structure Relocates (V W : Volume ι κ) (d : ι) (i : κ) (t : ι) (j : κ) (e : Item ι) : Prop where
  root : W.root = V.root
  before : V.Entry d i e
  target : V.IsDir t
  free : V.item t j = none
  gone : W.item d i = none
  after : W.item t j = some e
  others : ∀ x k, V.IsDir x → ¬ (x = d ∧ k = i) → ¬ (x = t ∧ k = j) → W.item x k = V.item x k

variable {V W : Volume ι κ} {usable : ι → Prop} {c d p t x y : ι} {i j k : κ} {e f : Item ι}

lemma IsDir.sub (hd : V.IsDir d) (hi : V.item d i = some e) (hf : e.folder = true) : V.IsDir e.head := by
  obtain ⟨p, hd⟩ := hd
  exact ⟨d, .sub hd hi hf⟩

lemma Within.isDir (h : V.Within c x) (hc : V.IsDir c) : V.IsDir x := by
  induction h with
  | self => exact hc
  | sub _ hi hf ih => exact ih.sub hi hf

lemma Sound.head_ne (h : V.Sound usable) (hd : V.IsDir d) (hi : V.item d i = some e) (hf : e.folder = true) :
    e.head ≠ d := by
  obtain ⟨p, hd⟩ := hd
  induction hd generalizing i e with
  | root =>
    intro hr
    exact h.root_reserved (hr ▸ h.head_usable ⟨isDir_root, hi⟩)
  | @sub y p k f hy hk hfold ih =>
    intro hr
    have hown := h.entry_owns ⟨(hy.isDir.sub hk hfold), hi⟩
    obtain ⟨heq, rfl⟩ := h.disjoint (h.entry_owns ⟨hy.isDir, hk⟩) (hr ▸ hown)
    exact ih hk hfold heq.symm

lemma Within.trans (h : V.Within c x) (h' : V.Within x y) : V.Within c y := by
  induction h' with
  | self => exact h
  | sub _ hi hf ih => exact .sub ih hi hf

lemma isDir_congr (hr : W.root = V.root) (hi : ∀ x k, V.IsDir x → W.item x k = V.item x k) :
    W.IsDir x ↔ V.IsDir x := by
  constructor
  · rintro ⟨p, hx⟩
    induction hx with
    | root => exact hr ▸ isDir_root
    | sub _ hk hf ih => exact ih.sub ((hi _ _ ih).symm.trans hk) hf
  · rintro ⟨p, hx⟩
    exact (hx.mono hr fun d t e hd hk => (hi d t hd).trans hk).isDir

lemma dir_congr (hr : W.root = V.root) (hi : ∀ x k, V.IsDir x → W.item x k = V.item x k) :
    W.Dir x p ↔ V.Dir x p := by
  constructor
  · intro hx
    induction hx with
    | root => exact hr ▸ .root
    | sub _ hk hf ih => exact .sub ih (hi _ _ ih.isDir ▸ hk) hf
  · intro hx
    exact hx.mono hr fun y k f hy hk => (hi y k hy).trans hk

lemma Sound.congr (h : V.Sound usable) (hr : W.root = V.root) (hl : W.link = V.link)
    (hi : ∀ x k, V.IsDir x → W.item x k = V.item x k) : W.Sound usable := by
  have hentry : ∀ {x k f}, W.Entry x k f ↔ V.Entry x k f := by
    intro x k f
    rw [Entry, Entry, isDir_congr hr hi]
    exact and_congr_right fun hx => by rw [hi x k hx]
  have howns : ∀ {x k c}, W.Owns x k c ↔ V.Owns x k c := by
    intro x k c
    simp only [Owns, hentry, hl]
  constructor
  · intro x k f hf
    rw [hl]
    exact h.chain (hentry.mp hf)
  · exact fun hf => h.single (hentry.mp hf)
  · exact fun ho ho' => h.disjoint (howns.mp ho) (howns.mp ho')
  · intro c hu hc
    rw [hl] at hc
    obtain ⟨x, k, ho⟩ := h.complete hu hc
    exact ⟨x, k, howns.mpr ho⟩
  · exact hr ▸ h.root_reserved
  · rw [hr, hl]
    exact h.root_used

namespace Relocates

variable (h : Relocates V W d i t j e)
include h

lemma item_cases (hx : V.IsDir x) (hi : W.item x k = some f) :
    (x = t ∧ k = j ∧ f = e) ∨ (¬ (x = d ∧ k = i) ∧ V.item x k = some f) := by
  by_cases ht : x = t ∧ k = j
  · obtain ⟨rfl, rfl⟩ := ht
    exact .inl ⟨rfl, rfl, Option.some.inj (hi.symm.trans h.after)⟩
  · have hd : ¬ (x = d ∧ k = i) := by
      rintro ⟨rfl, rfl⟩
      rw [h.gone] at hi
      cases hi
    exact .inr ⟨hd, (h.others x k hx hd ht).symm.trans hi⟩

lemma isDir_of_after (hx : W.IsDir x) : V.IsDir x := by
  obtain ⟨p, hx⟩ := hx
  induction hx with
  | root => exact h.root ▸ isDir_root
  | sub _ hi hf ih =>
    rcases h.item_cases ih hi with ⟨-, -, rfl⟩ | ⟨-, hi⟩
    · exact h.before.1.sub h.before.2 hf
    · exact ih.sub hi hf

lemma item_kept (hx : V.IsDir x) (hi : V.item x k = some f) (hne : ¬ (x = d ∧ k = i)) : W.item x k = some f := by
  rw [h.others x k hx hne, hi]
  rintro ⟨rfl, rfl⟩
  rw [h.free] at hi
  cases hi

lemma isDir_outside (hx : V.IsDir x) (hn : e.folder = true → ¬ V.Within e.head x) : W.IsDir x := by
  obtain ⟨p, hx⟩ := hx
  induction hx with
  | root => exact h.root ▸ isDir_root
  | @sub y p k f hy hi hf ih =>
    have hne : ¬ (y = d ∧ k = i) := by
      rintro ⟨rfl, rfl⟩
      obtain rfl : e = f := Option.some.inj (h.before.2.symm.trans hi)
      exact hn hf .self
    have hy' : W.IsDir y := ih fun he hw => hn he (.sub hw hi hf)
    exact hy'.sub (h.item_kept hy.isDir hi hne) hf

lemma isDir_kept (hn : e.folder = true → ¬ V.Within e.head t) (hx : V.IsDir x) : W.IsDir x := by
  by_cases hin : e.folder = true ∧ V.Within e.head x
  · obtain ⟨hf, hin⟩ := hin
    clear hx
    induction hin with
    | self => exact (h.isDir_outside h.target hn).sub h.after hf
    | @sub y k f hw hi hfold ih =>
      by_cases hne : y = d ∧ k = i
      · obtain ⟨rfl, rfl⟩ := hne
        obtain rfl : e = f := Option.some.inj (h.before.2.symm.trans hi)
        exact (h.isDir_outside h.target hn).sub h.after hf
      · have hy := hw.isDir (h.before.1.sub h.before.2 hf)
        exact ih.sub (h.item_kept hy hi hne) hfold
  · exact h.isDir_outside hx fun hf hw => hin ⟨hf, hw⟩

lemma listed_once (hV : V.Sound usable) (hx : W.IsDir x) (hi : W.item x k = some f) (hh : f.head = e.head) :
    x = t ∧ k = j := by
  have hx := h.isDir_of_after hx
  rcases h.item_cases hx hi with ⟨rfl, rfl, -⟩ | ⟨hne, hi⟩
  · exact ⟨rfl, rfl⟩
  · exact (hne (hV.disjoint (hV.entry_owns ⟨hx, hi⟩) (hh ▸ hV.entry_owns h.before))).elim

lemma dir_cases (hV : V.Sound usable) (hx : W.Dir x p) :
    (e.folder = true ∧ x = e.head ∧ p = t) ∨ (V.Dir x p ∧ ¬ (e.folder = true ∧ x = e.head)) := by
  induction hx with
  | root =>
    refine .inr ⟨h.root ▸ .root, fun hr => hV.root_reserved ?_⟩
    rw [← h.root, hr.2]
    exact hV.head_usable h.before
  | @sub y q k f hy hi hf ih =>
    have hdir := h.isDir_of_after hy.isDir
    rcases h.item_cases hdir hi with ⟨rfl, -, rfl⟩ | ⟨hne, hi'⟩
    · exact .inl ⟨hf, rfl, rfl⟩
    · obtain ⟨q', hq'⟩ := hdir
      refine .inr ⟨.sub hq' hi' hf, fun hr => hne ?_⟩
      exact hV.disjoint (hV.entry_owns ⟨⟨q', hq'⟩, hi'⟩) (hr.2 ▸ hV.entry_owns h.before)

section Kept

variable (hV : V.Sound usable) (hn : e.folder = true → ¬ V.Within e.head t) (hl : W.link = V.link)
include hn

lemma entry_iff : W.Entry x k f ↔ (V.Entry x k f ∧ ¬ (x = d ∧ k = i)) ∨ (x = t ∧ k = j ∧ f = e) := by
  constructor
  · rintro ⟨hx, hi⟩
    have hx := h.isDir_of_after hx
    rcases h.item_cases hx hi with hnew | ⟨hne, hi⟩
    · exact .inr hnew
    · exact .inl ⟨⟨hx, hi⟩, hne⟩
  · rintro (⟨⟨hx, hi⟩, hne⟩ | ⟨rfl, rfl, rfl⟩)
    · exact ⟨h.isDir_kept hn hx, h.item_kept hx hi hne⟩
    · exact ⟨h.isDir_kept hn h.target, h.after⟩

include hl in
lemma owns_iff : W.Owns x k c ↔ (V.Owns x k c ∧ ¬ (x = d ∧ k = i)) ∨ (x = t ∧ k = j ∧ V.Owns d i c) := by
  constructor
  · rintro ⟨f, l, hf, hchain, hc⟩
    rw [hl] at hchain
    rcases (h.entry_iff hn).mp hf with ⟨hf, hne⟩ | ⟨rfl, rfl, rfl⟩
    · exact .inl ⟨⟨f, l, hf, hchain, hc⟩, hne⟩
    · exact .inr ⟨rfl, rfl, f, l, h.before, hchain, hc⟩
  · rintro (⟨⟨f, l, hf, hchain, hc⟩, hne⟩ | ⟨rfl, rfl, f, l, hf, hchain, hc⟩)
    · exact ⟨f, l, (h.entry_iff hn).mpr (.inl ⟨hf, hne⟩), hl ▸ hchain, hc⟩
    · obtain rfl : e = f := Option.some.inj (h.before.2.symm.trans hf.2)
      exact ⟨e, l, (h.entry_iff hn).mpr (.inr ⟨rfl, rfl, rfl⟩), hl ▸ hchain, hc⟩

include hV hl in
lemma sound : W.Sound usable where
  chain := by
    intro x k f hf
    rw [hl]
    rcases (h.entry_iff hn).mp hf with ⟨hf, -⟩ | ⟨rfl, rfl, rfl⟩
    · exact hV.chain hf
    · exact hV.chain h.before
  single := by
    intro x k f hf
    rcases (h.entry_iff hn).mp hf with ⟨hf, -⟩ | ⟨rfl, rfl, rfl⟩
    · exact hV.single hf
    · exact hV.single h.before
  disjoint := by
    intro x k x' k' c ho ho'
    rcases (h.owns_iff hn hl).mp ho with ⟨ho, hne⟩ | ⟨rfl, rfl, ho⟩ <;>
      rcases (h.owns_iff hn hl).mp ho' with ⟨ho', hne'⟩ | ⟨rfl, rfl, ho'⟩
    · exact hV.disjoint ho ho'
    · exact (hne (hV.disjoint ho ho')).elim
    · exact (hne' (hV.disjoint ho' ho)).elim
    · exact ⟨rfl, rfl⟩
  complete := by
    intro c hu hc
    rw [hl] at hc
    obtain ⟨x, k, ho⟩ := hV.complete hu hc
    by_cases hne : x = d ∧ k = i
    · obtain ⟨rfl, rfl⟩ := hne
      exact ⟨t, j, (h.owns_iff hn hl).mpr (.inr ⟨rfl, rfl, ho⟩)⟩
    · exact ⟨x, k, (h.owns_iff hn hl).mpr (.inl ⟨ho, hne⟩)⟩
  root_reserved := h.root ▸ hV.root_reserved
  root_used := by
    rw [h.root, hl]
    exact hV.root_used

end Kept

end Relocates

end Semogakelar.Library.Volume
