import Semogakelar.Shell.AbsolutePaths

/-! The walker of `mv` beside the one of `cd`: it keeps a table of its own, which a name does not move, and after
an error it leaves the text of the path where it was. -/

namespace Semogakelar.Shell

open Library Fat32 FileSystem

def IsPlain (name : Str) : Prop := name ≠ [dot] ∧ name ≠ [dot, dot]

instance (name : Str) : Decidable (IsPlain name) := inferInstanceAs (Decidable (_ ∧ _))

def MvSound (fs : FileSystem) (s : Session) (names : List Str) : Prop :=
  (∀ n ∈ names, ¬ IsPlain n) ∨
    ∃ front name rest, names = front ++ name :: rest ∧ (∀ n ∈ front, n = [dot]) ∧ IsPlain name ∧
      (readDirectory fs (directoryRequest name s.currentDirectory)).1 ≠ 0

variable {fs : FileSystem} {scratch : Scratch} {name : Str} {names front rest : List Str} {t t' : Trail}
  {s s' : Session} {d a : UInt32} {n : ℕ} {code : ℤ}

/-! ### Where the walkers do the same -/

lemma walk_dots (h : ∀ n ∈ names, ¬ IsPlain n) : walk scratch fs names t = walk .shared fs names t := by
  induction names generalizing t with
  | nil => rfl
  | cons name names ih =>
    have hrest : ∀ n ∈ names, ¬ IsPlain n := fun n hn => h n (List.mem_cons_of_mem _ hn)
    rw [walk, walk]
    split_ifs with hup hroot hstay
    · rfl
    · congr 1
      funext t₁
      exact ih hrest
    · exact ih hrest
    · exact (h name List.mem_cons_self ⟨hstay, hup⟩).elim

lemma walk_dots_code (h : ∀ n ∈ names, ¬ IsPlain n)
    (hwalk : walk scratch fs names t = some (code, t')) : code = 0 := by
  induction names generalizing t with
  | nil =>
    cases hwalk
    rfl
  | cons name names ih =>
    have hrest : ∀ n ∈ names, ¬ IsPlain n := fun n hn => h n (List.mem_cons_of_mem _ hn)
    unfold walk at hwalk
    split_ifs at hwalk with hup hroot hstay
    · obtain ⟨t₁, -, hwalk⟩ := Option.bind_eq_some_iff.mp hwalk
      exact ih hrest hwalk
    · exact ih hrest hwalk
    · exact (h name List.mem_cons_self ⟨hstay, hup⟩).elim

lemma walk_stays (h : ∀ n ∈ names, n = [dot]) : walk scratch fs names t = some (0, t) := by
  induction names generalizing t with
  | nil => rfl
  | cons name names ih =>
    have hrest : ∀ n ∈ names, n = [dot] := fun n hn => h n (List.mem_cons_of_mem _ hn)
    have hup : name ≠ [dot, dot] := by
      rw [h name List.mem_cons_self]
      decide
    rw [walk, if_neg hup, if_pos (h name List.mem_cons_self)]
    exact ih hrest

lemma walk_fails (hfront : walk scratch fs front t = some (0, t')) (hname : IsPlain name)
    (hcode : (readDirectory fs (directoryRequest name t'.cluster)).1 ≠ 0) :
    walk scratch fs (front ++ name :: rest) t =
      some ((readDirectory fs (directoryRequest name t'.cluster)).1, t') := by
  have hc : changeDirectory scratch fs name t' =
      some ((readDirectory fs (directoryRequest name t'.cluster)).1, t') := by
    unfold changeDirectory
    dsimp only
    rw [if_pos hcode]
  rw [walk_append, hfront, Option.bind_some, if_pos rfl, walk, if_neg hname.2, if_neg hname.1, hc,
    Option.bind_some, if_neg hcode]

lemma MvSound.agrees (h : MvSound fs s names) : s.changePathMv fs names = s.changePath fs names := by
  unfold Session.changePathMv Session.changePath
  by_cases hnames : names = []
  · rw [if_pos hnames, if_pos hnames]
  rw [if_neg hnames, if_neg hnames]
  obtain hdots | ⟨front, name, rest, rfl, hfront, hname, hcode⟩ := h
  · rw [walk_dots hdots]
    refine Option.map_congr fun r hr => ?_
    have hzero : r.1 = 0 := walk_dots_code hdots hr
    rw [if_pos hzero, if_pos hzero]
  · have hstart : (readDirectory fs (directoryRequest name s.trail.cluster)).1 ≠ 0 := hcode
    rw [walk_fails (walk_stays hfront) hname hstart, walk_fails (walk_stays hfront) hname hstart, Option.map_some,
      Option.map_some, if_neg hstart, if_neg hstart]
    rfl

/-! ### Where they part -/

def plainCount (names : List Str) : ℕ := names.countP (decide <| IsPlain ·)

def upCount (names : List Str) : ℕ := names.count [dot, dot]

lemma plainCount_pos : 0 < plainCount names ↔ ¬ ∀ n ∈ names, ¬ IsPlain n := by
  simp [plainCount, List.countP_pos_iff]

lemma plainCount_cons (name : Str) (names : List Str) :
    plainCount (name :: names) = plainCount names + if IsPlain name then 1 else 0 := by
  simp [plainCount, List.countP_cons]

lemma upCount_cons (name : Str) (names : List Str) :
    upCount (name :: names) = upCount names + if name = [dot, dot] then 1 else 0 := by
  simp [upCount, List.count_cons]

section

variable (hw : fs.WellFormed)
include hw

lemma Advances.level (h : Advances .shared fs name t t') (ht : t.Settled fs) (hn : fs.volume.Level t.cluster n) :
    ∃ m, fs.volume.Level t'.cluster m ∧
      n + (if IsPlain name then 1 else 0) ≤ m + if name = [dot, dot] then 1 else 0 := by
  cases h with
  | up _ hp =>
    obtain ⟨path, -, rfl⟩ := Option.map_eq_some_iff.mp hp
    obtain ⟨p, hdir⟩ := ht.directory
    have hparent : (t.table 1).clusterNumber = p := by rw [ht.table, (hw.parent hdir).cluster]
    have hlevel : fs.volume.Level (t.table 1).clusterNumber (n - 1) := hparent ▸ hw.sound.level_parent hdir hn
    rw [if_neg (by decide), if_pos rfl]
    exact ⟨n - 1, hlevel, by omega⟩
  | stay => exact ⟨n, hn, by simp [IsPlain]⟩
  | down hup hstay hc =>
    obtain ⟨i, hi, hf, hnext, -⟩ := changeDirectory_zero hc
    have hslot := (findName_eq_some.mp hi).1.1
    have hlive := live_of_isFolder hw ht.directory hslot hf
    have hlevel : fs.volume.Level t'.cluster (n + 1) := by
      rw [hnext, (folder_settled hw ht.directory hslot hf).2]
      exact .sub hn (item_of_live hslot hlive) (decide_eq_true hf)
    rw [if_pos ⟨hstay, hup⟩, if_neg hup]
    exact ⟨n + 1, hlevel, le_rfl⟩

lemma Walks.level (h : Walks .shared fs names t t') (ht : t.Settled fs) (hn : fs.volume.Level t.cluster n) :
    ∃ m, fs.volume.Level t'.cluster m ∧ n + plainCount names ≤ m + upCount names := by
  induction h generalizing n with
  | nil => exact ⟨n, hn, le_rfl⟩
  | cons hstep _ ih =>
    obtain ⟨n₁, hn₁, hle₁⟩ := hstep.level hw ht hn
    obtain ⟨m, hm, hle⟩ := ih (hstep.settled hw ht) hn₁
    rw [plainCount_cons, upCount_cons]
    exact ⟨m, hm, by omega⟩

lemma Advances.own_level (h : Advances .own fs name t t') (htable : t.table = fs.table a)
    (hn : fs.volume.Level a n) :
    ∃ a', t'.table = fs.table a' ∧ fs.volume.Level a' (n - if name = [dot, dot] then 1 else 0) := by
  cases h with
  | up _ hp =>
    obtain ⟨path, -, rfl⟩ := Option.map_eq_some_iff.mp hp
    obtain ⟨p, hdir⟩ := hn.isDir
    have hparent : (t.table 1).clusterNumber = p := by rw [htable, (hw.parent hdir).cluster]
    exact ⟨_, rfl, hparent ▸ hw.sound.level_parent hdir hn⟩
  | stay => exact ⟨a, htable, hn⟩
  | down hup _ hc =>
    obtain ⟨i, -, -, -, hkept, -⟩ := changeDirectory_zero hc
    rw [if_neg hup]
    exact ⟨a, hkept.trans htable, hn⟩

lemma Walks.own_level (h : Walks .own fs names t t') (htable : t.table = fs.table a) (hn : fs.volume.Level a n) :
    ∃ a', t'.table = fs.table a' ∧ fs.volume.Level a' (n - upCount names) := by
  induction h generalizing a n with
  | nil => exact ⟨a, htable, hn⟩
  | cons hstep _ ih =>
    obtain ⟨a₁, htable₁, hn₁⟩ := hstep.own_level hw htable hn
    obtain ⟨a', htable', hlevel⟩ := ih htable₁ hn₁
    rw [upCount_cons, Nat.add_comm, ← Nat.sub_sub]
    exact ⟨a', htable', hlevel⟩

lemma table_injective (hd : fs.volume.IsDir d) (ha : fs.volume.IsDir a) (h : fs.table d = fs.table a) : d = a := by
  obtain ⟨p, hd⟩ := hd
  obtain ⟨q, ha⟩ := ha
  rw [← (hw.self hd).cluster, h, (hw.self ha).cluster]

lemma plain_parts (hs : s.Settled fs) (hplain : ¬ ∀ n ∈ names, ¬ IsPlain n)
    (h : s.changePath fs names = some (0, s')) (hroot : s'.currentDirectory ≠ rootClusterNumber) :
    s.changePathMv fs names ≠ some (0, s') := by
  intro hmv
  have hnames : names ≠ [] := by
    rintro rfl
    exact hplain (by simp)
  have hcount := plainCount_pos.mpr hplain
  obtain ⟨n, hn⟩ := hs.directory.level
  obtain ⟨m, hm, hle⟩ := (walks_of_walk (changePath_zero.mp h)).level hw ⟨hs.directory, hs.table⟩ hn
  unfold Session.changePathMv at hmv
  rw [if_neg hnames] at hmv
  obtain ⟨⟨code, t⟩, hwalk, he⟩ := Option.map_eq_some_iff.mp hmv
  obtain ⟨rfl, rfl⟩ := Prod.mk.inj he
  obtain ⟨a, htable, ha⟩ := (walks_of_walk hwalk).own_level hw hs.table hn
  have hsettled := changePath_settled hw hs h
  have hsame : t.cluster = a := table_injective hw hsettled.directory ha.isDir (hsettled.table.symm.trans htable)
  have hlevel := hw.sound.level_unique hm (hsame ▸ ha)
  have hzero : m ≠ 0 := by
    rintro rfl
    exact hroot hm.eq_root
  omega

end

lemma retractCurrentPath_length {text text' : Str} (hroot : text ≠ rootPath)
    (h : retractCurrentPath text = some text') : text'.length < text.length := by
  have hsuffix : (text.reverse.dropWhile (· ≠ slash)).length ≤ text.length :=
    (List.dropWhile_sublist _).length_le.trans_eq List.length_reverse
  unfold retractCurrentPath at h
  split at h
  · cases h
  · next c hc =>
    cases h
    have hlong : text.length ≠ 1 := by
      intro hone
      obtain ⟨c', rfl⟩ := List.length_eq_one_iff.mp hone
      simp only [List.reverse_singleton, List.dropWhile_cons] at hc
      split_ifs at hc with hslash
      · cases hc
      · refine hroot ?_
        simpa [rootPath] using hslash
    rw [hc] at hsuffix
    simp at hsuffix ⊢
    omega
  · next c parent hne hc =>
    cases h
    rw [hc] at hsuffix
    simp at hsuffix ⊢
    omega

lemma Advances.text_length (h : Advances scratch fs name t t') (hname : ¬ IsPlain name) :
    t'.path.length ≤ t.path.length ∧ (name = [dot, dot] → t'.path.length < t.path.length) := by
  cases h with
  | up hroot hp =>
    obtain ⟨path, hpath, rfl⟩ := Option.map_eq_some_iff.mp hp
    have hshort := retractCurrentPath_length hroot hpath
    exact ⟨hshort.le, fun _ => hshort⟩
  | stay => exact ⟨le_rfl, fun h => absurd h (by decide)⟩
  | down hup hstay => exact (hname ⟨hstay, hup⟩).elim

lemma Walks.text_length (hwalks : Walks scratch fs names t t') (h : ∀ n ∈ names, ¬ IsPlain n) :
    t'.path.length ≤ t.path.length ∧ ([dot, dot] ∈ names → t'.path.length < t.path.length) := by
  induction hwalks with
  | nil => exact ⟨le_rfl, fun hmem => (List.not_mem_nil hmem).elim⟩
  | cons hstep _ ih =>
    obtain ⟨hle₁, hlt₁⟩ := hstep.text_length (h _ List.mem_cons_self)
    obtain ⟨hle, hlt⟩ := ih fun n hn => h n (List.mem_cons_of_mem _ hn)
    refine ⟨hle.trans hle₁, fun hmem => ?_⟩
    rcases List.mem_cons.mp hmem with hup | hmem
    · exact hle.trans_lt (hlt₁ hup.symm)
    · exact (hlt hmem).trans_le hle₁

lemma up_parts (hfront : ∀ n ∈ front, ¬ IsPlain n) (hup : [dot, dot] ∈ front) (hname : IsPlain name)
    (hwalk : walk .shared fs front s.trail = some (0, t))
    (hcode : (readDirectory fs (directoryRequest name t.cluster)).1 ≠ 0) :
    s.changePathMv fs (front ++ name :: rest) ≠ s.changePath fs (front ++ name :: rest) := by
  have hnames : front ++ name :: rest ≠ [] := by simp
  have hown : walk .own fs front s.trail = some (0, t) := (walk_dots hfront).trans hwalk
  have hshort := ((walks_of_walk hwalk).text_length hfront).2 hup
  unfold Session.changePathMv Session.changePath
  rw [if_neg hnames, if_neg hnames, walk_fails hwalk hname hcode, walk_fails hown hname hcode, Option.map_some,
    Option.map_some, if_neg hcode, if_neg hcode]
  intro he
  have hpath : t.path = s.currentPath := by simpa using congrArg (Option.map fun r => r.2.currentPath) he
  have hlength : s.trail.path.length = s.currentPath.length := rfl
  rw [hpath, hlength] at hshort
  exact lt_irrefl _ hshort

theorem mv_walk_agrees (hw : fs.WellFormed) (hs : s.Settled fs) (names : List Str) :
    (MvSound fs s names → s.changePathMv fs names = s.changePath fs names) ∧
    (¬ MvSound fs s names → ∀ s', s.changePath fs names = some (0, s') → s'.currentDirectory ≠ rootClusterNumber →
      s.changePathMv fs names ≠ s.changePath fs names) ∧
    ∀ front name rest t, names = front ++ name :: rest → (∀ n ∈ front, ¬ IsPlain n) → [dot, dot] ∈ front →
      IsPlain name → walk .shared fs front s.trail = some (0, t) →
      (readDirectory fs (directoryRequest name t.cluster)).1 ≠ 0 →
      s.changePathMv fs names ≠ s.changePath fs names := by
  refine ⟨MvSound.agrees, fun hsound s' h hroot => ?_, ?_⟩
  · rw [h]
    exact plain_parts hw hs (fun hdots => hsound (.inl hdots)) h hroot
  · rintro front name rest t rfl hfront hup hname hwalk hcode
    exact up_parts hfront hup hname hwalk hcode

theorem mv_walk_agrees_up : (inRootFolder [0x61]).changePathMv (rootFolder [0x61]) [[dot, dot]] =
    (inRootFolder [0x61]).changePath (rootFolder [0x61]) [[dot, dot]] := by
  have hname : fieldText (padded 8 [0x61]) = [0x61] := by decide
  have hnonempty : ([0x61] : Str) ≠ [] := by decide
  have hw := rootFolder_wellFormed hname hnonempty
  have hdescribes := inRootFolder_describes hname hnonempty
  have hsound : MvSound (rootFolder [0x61]) (inRootFolder [0x61]) [[dot, dot]] := .inl (by decide)
  exact (mv_walk_agrees hw ⟨hdescribes.isDir hw, rfl⟩ [[dot, dot]]).1 hsound

/-- After the name of a folder in the root, `mv` has the directory of the folder and the table of the root. -/
theorem mv_walk_keeps_table : ¬ ∀ (fs : FileSystem) (d : UInt32) (s : Session) (names : List Str)
    (r r' : ℤ × Session), fs.WellFormed → s.Describes fs d → s.changePath fs names = some r →
    s.changePathMv fs names = some r' → r' = r := by
  intro h
  have hw := rootFolder_wellFormed (by decide : fieldText (padded 8 [0x61]) = [0x61]) (by decide)
  have hroot : (Session.toRoot (rootFolder [0x61])).Describes (rootFolder [0x61]) rootClusterNumber :=
    ⟨rfl, rfl, [], .root, rfl⟩
  have hcd : ((Session.toRoot (rootFolder [0x61])).changePath (rootFolder [0x61]) [[0x61]]).map
      (fun r => (r.2.currentDirTable 0).clusterNumber) = some 3 := by decide +kernel
  have hmv : ((Session.toRoot (rootFolder [0x61])).changePathMv (rootFolder [0x61]) [[0x61]]).map
      (fun r => (r.2.currentDirTable 0).clusterNumber) = some 2 := by decide +kernel
  obtain ⟨r, hr, hthree⟩ := Option.map_eq_some_iff.mp hcd
  obtain ⟨r', hr', htwo⟩ := Option.map_eq_some_iff.mp hmv
  rw [h _ _ _ _ r r' hw hroot hr hr', hthree] at htwo
  exact absurd htwo (by decide)

end Semogakelar.Shell
