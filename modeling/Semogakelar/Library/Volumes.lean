import Semogakelar.Library.Chains

/-! Directory trees over a linked allocation map. Every live item owns the chain that starts at its head,
the chains are disjoint, and no allocated cell is left without an owner. -/

namespace Semogakelar.Library

structure Item (ι : Type*) where
  folder : Bool
  head : ι
  blocks : ℕ

structure Volume (ι κ : Type*) where
  root : ι
  link : ι → Link ι
  item : ι → κ → Option (Item ι)

namespace Volume

variable {ι κ : Type*}

/-- `V.Dir d p`: the directory `d` is reachable from the root and `p` is its parent. -/
inductive Dir (V : Volume ι κ) : ι → ι → Prop
  | root : Dir V V.root V.root
  | sub {d p : ι} {s : κ} {e : Item ι} : Dir V d p → V.item d s = some e → e.folder = true → Dir V e.head d

def IsDir (V : Volume ι κ) (d : ι) : Prop := ∃ p, V.Dir d p

def Entry (V : Volume ι κ) (d : ι) (s : κ) (e : Item ι) : Prop := V.IsDir d ∧ V.item d s = some e

def Owns (V : Volume ι κ) (d : ι) (s : κ) (c : ι) : Prop :=
  ∃ e l, V.Entry d s e ∧ Chain V.link e.head l ∧ c ∈ l

structure Sound (V : Volume ι κ) (usable : ι → Prop) : Prop where
  chain : ∀ {d s e}, V.Entry d s e →
    ∃ l, Chain V.link e.head l ∧ l.length = e.blocks ∧ ∀ c ∈ l, usable c
  single : ∀ {d s e}, V.Entry d s e → e.folder = true → e.blocks = 1
  disjoint : ∀ {d s d' s' c}, V.Owns d s c → V.Owns d' s' c → d = d' ∧ s = s'
  complete : ∀ {c}, usable c → V.link c ≠ .free → ∃ d s, V.Owns d s c
  root_reserved : ¬ usable V.root
  root_used : V.link V.root ≠ .free

structure Adds (V W : Volume ι κ) (usable : ι → Prop) (p : ι) (s : κ) (e : Item ι) (l : List ι) : Prop where
  root : W.root = V.root
  before : V.item p s = none
  after : W.item p s = some e
  others : ∀ d, usable d ∨ d = V.root → d ∉ l → ∀ t, ¬ (d = p ∧ t = s) → W.item d t = V.item d t
  fresh : e.folder = true → ∀ t, W.item e.head t = none
  free : ∀ c ∈ l, V.link c = .free
  linked : ∀ c ∉ l, W.link c = V.link c
  chain : Chain W.link e.head l
  length : l.length = e.blocks
  single : e.folder = true → e.blocks = 1
  cells : ∀ c ∈ l, usable c

variable {V W : Volume ι κ} {usable : ι → Prop} {p q d c : ι} {s : κ} {e : Item ι} {l : List ι}

lemma Dir.isDir (h : V.Dir d p) : V.IsDir d := ⟨p, h⟩

lemma isDir_root : V.IsDir V.root := ⟨_, .root⟩

lemma Dir.mono (hr : W.root = V.root)
    (hi : ∀ d t e, V.IsDir d → V.item d t = some e → W.item d t = some e) (h : V.Dir d q) : W.Dir d q := by
  induction h with
  | root => exact hr ▸ .root
  | sub hd hs hf ih => exact .sub ih (hi _ _ _ hd.isDir hs) hf

lemma Dir.root_or_entry (h : V.Dir d q) :
    (d = V.root ∧ q = V.root) ∨ ∃ s e, V.Entry q s e ∧ e.folder = true ∧ e.head = d := by
  cases h with
  | root => exact Or.inl ⟨rfl, rfl⟩
  | sub hd hs hf => exact Or.inr ⟨_, _, ⟨hd.isDir, hs⟩, hf, rfl⟩

lemma Dir.parent_isDir (h : V.Dir d q) : V.IsDir q := by
  rcases h.root_or_entry with ⟨_, rfl⟩ | ⟨_, _, he, _⟩
  · exact isDir_root
  · exact he.1

namespace Sound

lemma entry_chain (h : V.Sound usable) (he : V.Entry d s e) (hl : Chain V.link e.head l) :
    l.length = e.blocks ∧ ∀ c ∈ l, usable c := by
  obtain ⟨m, hm, hlen, hu⟩ := h.chain he
  obtain rfl := hl.unique hm
  exact ⟨hlen, hu⟩

lemma folder_chain (h : V.Sound usable) (he : V.Entry d s e) (hf : e.folder = true) :
    Chain V.link e.head [e.head] := by
  obtain ⟨l, hl, hlen, _⟩ := h.chain he
  rw [h.single he hf, List.length_eq_one_iff] at hlen
  obtain ⟨a, rfl⟩ := hlen
  obtain rfl : e.head = a := by simpa using hl.head_mem
  exact hl

lemma head_usable (h : V.Sound usable) (he : V.Entry d s e) : usable e.head := by
  obtain ⟨l, hl, _, hu⟩ := h.chain he
  exact hu _ hl.head_mem

lemma entry_owns (h : V.Sound usable) (he : V.Entry d s e) : V.Owns d s e.head := by
  obtain ⟨l, hl, _⟩ := h.chain he
  exact ⟨e, l, he, hl, hl.head_mem⟩

lemma head_used (h : V.Sound usable) (he : V.Entry d s e) : V.link e.head ≠ .free := by
  obtain ⟨l, hl, _⟩ := h.chain he
  exact hl.not_free _ hl.head_mem

lemma owned_used (ho : V.Owns d s c) : V.link c ≠ .free := by
  obtain ⟨e, l, _, hl, hc⟩ := ho
  exact hl.not_free c hc

lemma dir_usable (h : V.Sound usable) (hd : V.IsDir d) : usable d ∨ d = V.root := by
  obtain ⟨q, hd⟩ := hd
  rcases hd.root_or_entry with ⟨hr, _⟩ | ⟨s, e, he, hf, rfl⟩
  · exact Or.inr hr
  · exact Or.inl (h.head_usable he)

lemma dir_used (h : V.Sound usable) (hd : V.IsDir d) : V.link d ≠ .free := by
  obtain ⟨q, hd⟩ := hd
  rcases hd.root_or_entry with ⟨rfl, _⟩ | ⟨s, e, he, hf, rfl⟩
  · exact h.root_used
  · exact h.head_used he

lemma dir_in_chain (h : V.Sound usable) (hd : V.IsDir d) (he : V.Entry p s e) (hl : Chain V.link e.head l)
    (hm : d ∈ l) : e.folder = true ∧ e.head = d := by
  obtain ⟨q, hd⟩ := hd
  rcases hd.root_or_entry with ⟨rfl, _⟩ | ⟨t, f, hf, hfold, rfl⟩
  · exact (h.root_reserved ((h.entry_chain he hl).2 _ hm)).elim
  · obtain ⟨rfl, rfl⟩ := h.disjoint ⟨e, l, he, hl, hm⟩ (h.entry_owns hf)
    obtain rfl : e = f := Option.some.inj (he.2.symm.trans hf.2)
    exact ⟨hfold, rfl⟩

lemma dir_parent_unique (h : V.Sound usable) {q' : ι} (hd : V.Dir d q) (hd' : V.Dir d q') : q = q' := by
  rcases hd.root_or_entry with ⟨hr, rfl⟩ | ⟨s, e, he, _, hh⟩ <;>
    rcases hd'.root_or_entry with ⟨hr', rfl⟩ | ⟨s', e', he', _, hh'⟩
  · rfl
  · exact (h.root_reserved (hr ▸ hh' ▸ h.head_usable he')).elim
  · exact (h.root_reserved (hr' ▸ hh ▸ h.head_usable he)).elim
  · exact (h.disjoint (h.entry_owns he) (hh ▸ hh' ▸ h.entry_owns he')).1

end Sound

namespace Adds

/-! ### Putting the item in -/

lemma dir_not_mem (h : Adds V W usable p s e l) (hV : V.Sound usable) (hd : V.IsDir d) : d ∉ l :=
  fun hm => hV.dir_used hd (h.free d hm)

lemma item_kept (h : Adds V W usable p s e l) (hV : V.Sound usable) {t : κ} {f : Item ι}
    (hd : V.IsDir d) (hi : V.item d t = some f) : W.item d t = some f := by
  rw [h.others d (hV.dir_usable hd) (h.dir_not_mem hV hd) t, hi]
  rintro ⟨rfl, rfl⟩
  simp [h.before] at hi

lemma dir_iff (h : Adds V W usable p s e l) (hV : V.Sound usable) (hp : V.IsDir p) :
    W.Dir d q ↔ V.Dir d q ∨ (e.folder = true ∧ d = e.head ∧ q = p) := by
  have hkeep : ∀ {d q}, V.Dir d q → W.Dir d q :=
    Dir.mono h.root (fun _ _ _ hd hi => h.item_kept hV hd hi)
  constructor
  · intro hd
    induction hd with
    | root => exact Or.inl (h.root ▸ .root)
    | @sub d q t f hd hi hf ih =>
      rcases ih with hd | ⟨he, rfl, rfl⟩
      · by_cases hs : d = p ∧ t = s
        · obtain ⟨rfl, rfl⟩ := hs
          obtain rfl : e = f := Option.some.inj (h.after.symm.trans hi)
          exact Or.inr ⟨hf, rfl, rfl⟩
        · rw [h.others d (hV.dir_usable hd.isDir) (h.dir_not_mem hV hd.isDir) t hs] at hi
          exact Or.inl (.sub hd hi hf)
      · simp [h.fresh he] at hi
  · rintro (hd | ⟨he, rfl, rfl⟩)
    · exact hkeep hd
    · obtain ⟨q, hp⟩ := hp
      exact .sub (hkeep hp) h.after he

lemma entry_iff (h : Adds V W usable p s e l) (hV : V.Sound usable) (hp : V.IsDir p) {t : κ} {f : Item ι} :
    W.Entry d t f ↔ V.Entry d t f ∨ (d = p ∧ t = s ∧ f = e) := by
  constructor
  · rintro ⟨⟨q, hd⟩, hi⟩
    rcases (h.dir_iff hV hp).mp hd with hd | ⟨he, rfl, rfl⟩
    · by_cases hs : d = p ∧ t = s
      · obtain ⟨rfl, rfl⟩ := hs
        exact Or.inr ⟨rfl, rfl, Option.some.inj (hi.symm.trans h.after)⟩
      · rw [h.others d (hV.dir_usable hd.isDir) (h.dir_not_mem hV hd.isDir) t hs] at hi
        exact Or.inl ⟨hd.isDir, hi⟩
    · simp [h.fresh he] at hi
  · rintro (⟨hd, hi⟩ | ⟨rfl, rfl, rfl⟩)
    · obtain ⟨q, hq⟩ := hd
      exact ⟨⟨q, (h.dir_iff hV hp).mpr (Or.inl hq)⟩, h.item_kept hV ⟨q, hq⟩ hi⟩
    · obtain ⟨q, hq⟩ := hp
      exact ⟨⟨q, (h.dir_iff hV ⟨q, hq⟩).mpr (Or.inl hq)⟩, h.after⟩

lemma owns_iff (h : Adds V W usable p s e l) (hV : V.Sound usable) (hp : V.IsDir p) {t : κ} :
    W.Owns d t c ↔ V.Owns d t c ∨ (d = p ∧ t = s ∧ c ∈ l) := by
  have hsame : ∀ {m a}, Chain V.link a m → ∀ c ∈ m, W.link c = V.link c := fun hm c hc =>
    h.linked c fun hl => hm.not_free c hc (h.free c hl)
  constructor
  · rintro ⟨f, m, hf, hm, hc⟩
    rcases (h.entry_iff hV hp).mp hf with hf | ⟨rfl, rfl, rfl⟩
    · obtain ⟨m', hm', _⟩ := hV.chain hf
      obtain rfl := hm.unique (hm'.congr (hsame hm'))
      exact Or.inl ⟨f, m, hf, hm', hc⟩
    · exact Or.inr ⟨rfl, rfl, hm.unique h.chain ▸ hc⟩
  · rintro (⟨f, m, hf, hm, hc⟩ | ⟨rfl, rfl, hc⟩)
    · exact ⟨f, m, (h.entry_iff hV hp).mpr (Or.inl hf), hm.congr (hsame hm), hc⟩
    · exact ⟨e, l, (h.entry_iff hV hp).mpr (Or.inr ⟨rfl, rfl, rfl⟩), h.chain, hc⟩

lemma sound (h : Adds V W usable p s e l) (hV : V.Sound usable) (hp : V.IsDir p) : W.Sound usable where
  chain := by
    intro d t f hf
    rcases (h.entry_iff hV hp).mp hf with hf | ⟨rfl, rfl, rfl⟩
    · obtain ⟨m, hm, hlen, hu⟩ := hV.chain hf
      refine ⟨m, hm.congr fun c hc => h.linked c fun hl => ?_, hlen, hu⟩
      exact hm.not_free c hc (h.free c hl)
    · exact ⟨l, h.chain, h.length, h.cells⟩
  single := by
    intro d t f hf
    rcases (h.entry_iff hV hp).mp hf with hf | ⟨rfl, rfl, rfl⟩
    · exact hV.single hf
    · exact h.single
  disjoint := by
    intro d t d' t' c ho ho'
    rcases (h.owns_iff hV hp).mp ho with ho | ⟨rfl, rfl, hc⟩ <;>
      rcases (h.owns_iff hV hp).mp ho' with ho' | ⟨rfl, rfl, hc'⟩
    · exact hV.disjoint ho ho'
    · exact (Sound.owned_used ho (h.free c hc')).elim
    · exact (Sound.owned_used ho' (h.free c hc)).elim
    · exact ⟨rfl, rfl⟩
  complete := by
    intro c hu hc
    by_cases hl : c ∈ l
    · exact ⟨p, s, (h.owns_iff hV hp).mpr (Or.inr ⟨rfl, rfl, hl⟩)⟩
    · obtain ⟨d, t, ho⟩ := hV.complete hu (h.linked c hl ▸ hc)
      exact ⟨d, t, (h.owns_iff hV hp).mpr (Or.inl ho)⟩
  root_reserved := h.root ▸ hV.root_reserved
  root_used := by
    rw [h.root, h.linked _ fun hl => hV.root_used (h.free _ hl)]
    exact hV.root_used

/-! ### Taking the item out -/

lemma entry_after (h : Adds V W usable p s e l) (hp : W.IsDir p) : W.Entry p s e := ⟨hp, h.after⟩

lemma not_mem_of_item (h : Adds V W usable p s e l) (hW : W.Sound usable) (hp : W.IsDir p) {t : κ}
    {f : Item ι} (hd : W.IsDir d) (hi : W.item d t = some f) : d ∉ l := by
  intro hm
  obtain ⟨hf, rfl⟩ := hW.dir_in_chain hd (h.entry_after hp) h.chain hm
  simp [h.fresh hf] at hi

lemma dir_iff_of_after (h : Adds V W usable p s e l) (hW : W.Sound usable) (hp : W.IsDir p) :
    V.Dir d q ↔ W.Dir d q ∧ d ∉ l := by
  constructor
  · intro hd
    induction hd with
    | root => exact ⟨h.root ▸ .root, fun hl => hW.root_reserved (h.root ▸ h.cells _ hl)⟩
    | @sub d q t f hd hi hf ih =>
      have hs : ¬ (d = p ∧ t = s) := by
        rintro ⟨rfl, rfl⟩
        simp [h.before] at hi
      have hi' : W.item d t = some f := by
        rw [h.others d (by simpa only [h.root] using hW.dir_usable ih.1.isDir) ih.2 t hs, hi]
      refine ⟨.sub ih.1 hi' hf, fun hl => hs ?_⟩
      exact hW.disjoint (hW.entry_owns ⟨ih.1.isDir, hi'⟩) ⟨e, l, h.entry_after hp, h.chain, hl⟩
  · rintro ⟨hd, hl⟩
    induction hd with
    | root => exact h.root ▸ .root
    | @sub d q t f hd hi hf ih =>
      have hm := h.not_mem_of_item hW hp hd.isDir hi
      have hs : ¬ (d = p ∧ t = s) := by
        rintro ⟨rfl, rfl⟩
        obtain rfl : e = f := Option.some.inj (h.after.symm.trans hi)
        exact hl h.chain.head_mem
      rw [h.others d (by simpa only [h.root] using hW.dir_usable hd.isDir) hm t hs] at hi
      exact .sub (ih hm) hi hf

lemma entry_iff_of_after (h : Adds V W usable p s e l) (hW : W.Sound usable) (hp : W.IsDir p) {t : κ}
    {f : Item ι} : V.Entry d t f ↔ W.Entry d t f ∧ ¬ (d = p ∧ t = s) := by
  constructor
  · rintro ⟨⟨q, hd⟩, hi⟩
    obtain ⟨hd', hm⟩ := (h.dir_iff_of_after hW hp).mp hd
    have hs : ¬ (d = p ∧ t = s) := by
      rintro ⟨rfl, rfl⟩
      simp [h.before] at hi
    refine ⟨⟨hd'.isDir, ?_⟩, hs⟩
    rw [h.others d (by simpa only [h.root] using hW.dir_usable hd'.isDir) hm t hs, hi]
  · rintro ⟨⟨⟨q, hd⟩, hi⟩, hs⟩
    have hm := h.not_mem_of_item hW hp hd.isDir hi
    refine ⟨⟨q, (h.dir_iff_of_after hW hp).mpr ⟨hd, hm⟩⟩, ?_⟩
    rw [← h.others d (by simpa only [h.root] using hW.dir_usable hd.isDir) hm t hs, hi]

lemma chain_kept_of_after (h : Adds V W usable p s e l) (hW : W.Sound usable) (hp : W.IsDir p) {t : κ}
    {f : Item ι} {m : List ι} (hf : W.Entry d t f) (hs : ¬ (d = p ∧ t = s)) (hm : Chain W.link f.head m) :
    Chain V.link f.head m := by
  refine hm.congr fun c hc => (h.linked c fun hl => hs ?_).symm
  exact hW.disjoint ⟨f, m, hf, hm, hc⟩ ⟨e, l, h.entry_after hp, h.chain, hl⟩

lemma owns_iff_of_after (h : Adds V W usable p s e l) (hW : W.Sound usable) (hp : W.IsDir p) {t : κ} :
    V.Owns d t c ↔ W.Owns d t c ∧ ¬ (d = p ∧ t = s) := by
  constructor
  · rintro ⟨f, m, hf, hm, hc⟩
    obtain ⟨hf', hs⟩ := (h.entry_iff_of_after hW hp).mp hf
    obtain ⟨m', hm', _⟩ := hW.chain hf'
    obtain rfl := hm.unique (h.chain_kept_of_after hW hp hf' hs hm')
    exact ⟨⟨f, m, hf', hm', hc⟩, hs⟩
  · rintro ⟨⟨f, m, hf, hm, hc⟩, hs⟩
    exact ⟨f, m, (h.entry_iff_of_after hW hp).mpr ⟨hf, hs⟩, h.chain_kept_of_after hW hp hf hs hm, hc⟩

lemma sound_of_after (h : Adds V W usable p s e l) (hW : W.Sound usable) (hp : W.IsDir p) :
    V.Sound usable where
  chain := by
    intro d t f hf
    obtain ⟨hf', hs⟩ := (h.entry_iff_of_after hW hp).mp hf
    obtain ⟨m, hm, hlen, hu⟩ := hW.chain hf'
    exact ⟨m, h.chain_kept_of_after hW hp hf' hs hm, hlen, hu⟩
  single := fun hf => hW.single ((h.entry_iff_of_after hW hp).mp hf).1
  disjoint := fun ho ho' => hW.disjoint ((h.owns_iff_of_after hW hp).mp ho).1
    ((h.owns_iff_of_after hW hp).mp ho').1
  complete := by
    intro c hu hc
    have hl : c ∉ l := fun hl => hc (h.free c hl)
    obtain ⟨d, t, ho⟩ := hW.complete hu (by rwa [h.linked c hl])
    refine ⟨d, t, (h.owns_iff_of_after hW hp).mpr ⟨ho, ?_⟩⟩
    rintro ⟨rfl, rfl⟩
    obtain ⟨f, m, hf, hm, hcm⟩ := ho
    obtain rfl : e = f := Option.some.inj (h.after.symm.trans hf.2)
    exact hl (hm.unique h.chain ▸ hcm)
  root_reserved := h.root ▸ hW.root_reserved
  root_used := by
    have hl : V.root ∉ l := fun hl => hW.root_reserved (h.root ▸ h.cells _ hl)
    rw [← h.linked _ hl, ← h.root]
    exact hW.root_used

end Adds

/-! ### Levels -/

/-- `V.Level d n`: the directory `d` is `n` steps below the root. -/
inductive Level (V : Volume ι κ) : ι → ℕ → Prop
  | root : Level V V.root 0
  | sub {d : ι} {n : ℕ} {s : κ} {e : Item ι} : Level V d n → V.item d s = some e → e.folder = true →
      Level V e.head (n + 1)

variable {n m : ℕ}

lemma IsDir.level (h : V.IsDir d) : ∃ n, V.Level d n := by
  obtain ⟨q, h⟩ := h
  induction h with
  | root => exact ⟨0, .root⟩
  | sub _ hs hf ih =>
    obtain ⟨n, hn⟩ := ih
    exact ⟨n + 1, .sub hn hs hf⟩

lemma Level.isDir (h : V.Level d n) : V.IsDir d := by
  induction h with
  | root => exact isDir_root
  | sub _ hs hf ih =>
    obtain ⟨q, hd⟩ := ih
    exact ⟨_, .sub hd hs hf⟩

lemma Level.eq_root (h : V.Level d 0) : d = V.root := by
  cases h
  rfl

namespace Sound

lemma level_parent (h : V.Sound usable) (hd : V.Dir d q) (hn : V.Level d n) : V.Level q (n - 1) := by
  cases hn with
  | root =>
    rcases hd.root_or_entry with ⟨-, rfl⟩ | ⟨s, e, he, -, hh⟩
    · exact .root
    · exact (h.root_reserved (hh ▸ h.head_usable he)).elim
  | sub hn hs hf =>
    obtain ⟨q', hd'⟩ := hn.isDir
    rw [h.dir_parent_unique hd (.sub hd' hs hf)]
    exact hn

lemma level_unique (h : V.Sound usable) (hn : V.Level d n) (hm : V.Level d m) : n = m := by
  induction hn generalizing m with
  | root =>
    generalize hd : V.root = d at hm
    cases hm with
    | root => rfl
    | sub hm hs hf => exact (h.root_reserved (hd ▸ h.head_usable ⟨hm.isDir, hs⟩)).elim
  | @sub d n s e hn hs hf ih =>
    obtain ⟨q, hd⟩ := hn.isDir
    have hparent := h.level_parent (.sub hd hs hf) hm
    have hpos : m ≠ 0 := by
      rintro rfl
      exact h.root_reserved (hm.eq_root ▸ h.head_usable ⟨hd.isDir, hs⟩)
    have := ih hparent
    omega

end Sound

end Volume

end Semogakelar.Library
