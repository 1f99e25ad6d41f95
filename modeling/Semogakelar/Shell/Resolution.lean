import Semogakelar.Fat32.Read
import Semogakelar.Shell.Mv

/-! What the walkers do on a well-formed volume. -/

namespace Semogakelar.Shell

open Library Fat32 FileSystem

variable {fs : FileSystem} {scratch : Scratch} {name : Str} {names more : List Str} {t t' : Trail} {s s' : Session}
  {code : ℤ} {d : UInt32} {i j : Fin 64} {table : DirectoryTable} {key : Name} {start : ℕ}

structure Trail.Settled (fs : FileSystem) (t : Trail) : Prop where
  directory : fs.volume.IsDir t.cluster
  table : t.table = fs.table t.cluster

structure Session.Settled (fs : FileSystem) (s : Session) : Prop where
  directory : fs.volume.IsDir s.currentDirectory
  table : s.currentDirTable = fs.table s.currentDirectory

@[simp] lemma Session.trail_session (s : Session) : s.trail.session = s := rfl

lemma findName_eq_some : findName table start key = some i ↔
    (start ≤ i.val ∧ (table i).name = key) ∧ ∀ j < i, start ≤ j.val → (table j).name ≠ key := by
  rw [findName, Fin.find?_eq_some_iff]
  simp only [Bool.and_eq_true, decide_eq_true_eq, beq_iff_eq, memcmp_eq_zero]
  refine and_congr_right fun _ => forall₂_congr fun j _ => ?_
  rw [Bool.eq_false_iff, Ne, Bool.and_eq_true, decide_eq_true_eq, beq_iff_eq, memcmp_eq_zero, not_and]

lemma readDirectory_zero {transfer : Transfer} (h : readDirectory fs (directoryRequest name d) = (0, transfer)) :
    ∃ i, findName (fs.table d) 2 (padded 8 name) = some i ∧ (fs.table d i).IsFolder ∧
      tableEquiv (chunk transfer.buf 0) = fs.table (fs.table d i).clusterNumber := by
  unfold readDirectory at h
  dsimp only at h
  split_ifs at h with hsize hparent
  · cases h
  · cases h
  split at h
  · cases h
  · next i hi =>
    split_ifs at h with hf
    · cases h
    refine ⟨i, hi, not_not.mp hf, ?_⟩
    cases h
    apply congrArg tableEquiv
    funext k
    exact Transfer.copy_buf ⟨_, []⟩ fs.disk _ k

lemma readDirectory_folder (hd : (fs.table d 0).IsFolder) (hi : findName (fs.table d) 2 (padded 8 name) = some i)
    (hf : (fs.table d i).IsFolder) : (readDirectory fs (directoryRequest name d)).1 = 0 := by
  have hsize : ¬ (directoryRequest name d).bufferSize < 2048 := UInt32.lt_irrefl _
  have hparent : ¬ (fs.table (directoryRequest name d).parentClusterNumber 0).attr ≠ attrSubdirectory :=
    not_not.mpr hd
  have hfind : findDirectory (fs.table (directoryRequest name d).parentClusterNumber) (directoryRequest name d) =
      some i := hi
  unfold readDirectory
  dsimp only
  rw [if_neg hsize, if_neg hparent, hfind]
  exact congrArg Prod.fst (if_neg (not_not.mpr hf))

lemma changeDirectory_zero (h : changeDirectory scratch fs name t = some (0, t')) :
    ∃ i, findName (fs.table t.cluster) 2 (padded 8 name) = some i ∧ (fs.table t.cluster i).IsFolder ∧
      t'.cluster = (fs.table (fs.table t.cluster i).clusterNumber 0).clusterNumber ∧
      t'.table = scratch.fill t.table (fs.table (fs.table t.cluster i).clusterNumber) ∧
      ∃ own, selfName (fs.table (fs.table t.cluster i).clusterNumber) = some own ∧
        appendCurrentPath t.path own = some t'.path := by
  unfold changeDirectory at h
  dsimp only at h
  split_ifs at h with hr
  · exact (hr (congrArg Prod.fst (Option.some.inj h))).elim
  · obtain ⟨own, hown, h⟩ := Option.bind_eq_some_iff.mp h
    obtain ⟨path, hpath, h⟩ := Option.map_eq_some_iff.mp h
    obtain ⟨i, hi, hf, htable⟩ := readDirectory_zero (Prod.ext (not_not.mp hr) rfl)
    rw [htable] at h hown
    cases h
    exact ⟨i, hi, hf, rfl, rfl, own, hown, hpath⟩

lemma changeDirectory_code (h : changeDirectory scratch fs name t = some (code, t'))
    (hr : (readDirectory fs (directoryRequest name t.cluster)).1 = 0) : code = 0 := by
  unfold changeDirectory at h
  dsimp only at h
  rw [if_neg (not_not.mpr hr)] at h
  obtain ⟨_, -, h⟩ := Option.bind_eq_some_iff.mp h
  obtain ⟨_, -, h⟩ := Option.map_eq_some_iff.mp h
  exact (Prod.mk.inj h).1.symm

lemma walk_append : walk scratch fs (names ++ more) t =
    (walk scratch fs names t).bind fun r => if r.1 = 0 then walk scratch fs more r.2 else some r := by
  induction names generalizing t with
  | nil => rfl
  | cons name names ih =>
    rw [List.cons_append, walk, walk]
    split_ifs with hup hroot hstay
    · rfl
    · rw [Option.bind_assoc]
      congr 1
      funext t₁
      exact ih
    · exact ih
    · rw [Option.bind_assoc]
      congr 1
      funext r
      split_ifs with hr
      · exact ih
      · rw [Option.bind_some, if_neg hr]

lemma changePath_zero : s.changePath fs names = some (0, s') ↔ walk .shared fs names s.trail = some
    (0, s'.trail) := by
  unfold Session.changePath
  split_ifs with hn
  · subst hn
    constructor
    · intro h
      cases h
      rfl
    · intro h
      have ht := (Prod.mk.inj (Option.some.inj h)).2
      rw [← Session.trail_session s, ht, Session.trail_session]
  · rw [Option.map_eq_some_iff]
    constructor
    · rintro ⟨⟨c, t⟩, hwalk, he⟩
      obtain ⟨rfl, rfl⟩ := Prod.mk.inj he
      exact hwalk
    · intro h
      exact ⟨_, h, by rw [if_pos rfl, Session.trail_session]⟩

/-! ### The steps of a walk -/

inductive Advances (scratch : Scratch) (fs : FileSystem) : Str → Trail → Trail → Prop
  | up {t t' : Trail} : t.path ≠ rootPath → parentDirectory fs t = some t' → Advances scratch fs [dot, dot] t t'
  | stay {t : Trail} : Advances scratch fs [dot] t t
  | down {name : Str} {t t' : Trail} : name ≠ [dot, dot] → name ≠ [dot] →
      changeDirectory scratch fs name t = some (0, t') → Advances scratch fs name t t'

inductive Walks (scratch : Scratch) (fs : FileSystem) : List Str → Trail → Trail → Prop
  | nil {t : Trail} : Walks scratch fs [] t t
  | cons {name : Str} {names : List Str} {t t₁ t' : Trail} : Advances scratch fs name t t₁ →
      Walks scratch fs names t₁ t' → Walks scratch fs (name :: names) t t'

lemma walks_of_walk (h : walk scratch fs names t = some (0, t')) : Walks scratch fs names t t' := by
  induction names generalizing t with
  | nil =>
    cases h
    exact .nil
  | cons name names ih =>
    unfold walk at h
    split_ifs at h with hup hroot hstay
    · obtain ⟨t₁, hp, h⟩ := Option.bind_eq_some_iff.mp h
      subst hup
      exact .cons (.up hroot hp) (ih h)
    · subst hstay
      exact .cons .stay (ih h)
    · obtain ⟨⟨c, t₁⟩, hc, h⟩ := Option.bind_eq_some_iff.mp h
      dsimp only at h
      split_ifs at h with hzero
      · subst hzero
        exact .cons (.down hup hstay hc) (ih h)
      · exact (hzero (Prod.mk.inj (Option.some.inj h)).1).elim

def Path.Counted (path : Path) : Prop := path.numOfDirectory = path.rows.length

lemma copyRows_ne_nil (str : Str) (rows : List Str) (row : Str) : copyRows str rows row ≠ [] := by
  induction str generalizing rows row with
  | nil => simp [copyRows]
  | cons c str ih =>
    rw [copyRows]
    split_ifs
    · exact ih _ _
    · exact ih _ _
    · exact ih _ _

lemma Path.Counted.all_eq {arg : Str} (h : (splitPath arg).Counted) (below : Str) :
    (splitPath arg).all = (splitPath arg).parents ++ [(splitPath arg).last below] := by
  have hne : (splitPath arg).rows ≠ [] := copyRows_ne_nil _ _ _
  have hpos : (splitPath arg).rows.length ≠ 0 := by simpa using hne
  rw [Path.all, Path.parents, Path.last, Path.front, Path.front, h, if_neg hpos, List.take_length,
    List.getD_eq_getElem?_getD, ← List.dropLast_eq_take, ← List.getLast?_eq_getElem?,
    List.getLast?_eq_getLast_of_ne_nil hne]
  exact (List.dropLast_append_getLast hne).symm

lemma Path.Counted.last_eq {arg : Str} (h : (splitPath arg).Counted) (below : Str) :
    (splitPath arg).last below = (splitPath arg).last [] := by
  have hne : (splitPath arg).rows ≠ [] := copyRows_ne_nil _ _ _
  have hpos : (splitPath arg).numOfDirectory ≠ 0 := by
    rw [h]
    simpa using hne
  rw [Path.last, Path.last, if_neg hpos, if_neg hpos]

section WellFormed

variable (hw : fs.WellFormed)
include hw

lemma live_of_isFolder (hd : fs.volume.IsDir d) (hi : 2 ≤ i.val) (hf : (fs.table d i).IsFolder) :
    (fs.table d i).Live := by
  by_contra hlive
  rw [hw.dead hd i hi hlive] at hf
  exact absurd hf (by decide)

lemma folder_settled (hd : fs.volume.IsDir d) (hi : 2 ≤ i.val) (hf : (fs.table d i).IsFolder) :
    fs.volume.Dir (fs.table d i).clusterNumber d ∧
      (fs.table (fs.table d i).clusterNumber 0).clusterNumber = (fs.table d i).clusterNumber := by
  obtain ⟨p, hd'⟩ := hd
  have hdir : fs.volume.Dir (fs.table d i).clusterNumber d :=
    .sub hd' (item_of_live hi (live_of_isFolder hw ⟨p, hd'⟩ hi hf)) (decide_eq_true hf)
  exact ⟨hdir, (hw.self hdir).cluster⟩

lemma parentDirectory_settled (ht : t.Settled fs) (h : parentDirectory fs t = some t') : t'.Settled fs := by
  obtain ⟨path, -, rfl⟩ := Option.map_eq_some_iff.mp h
  obtain ⟨p, hp⟩ := ht.directory
  refine ⟨?_, rfl⟩
  rw [ht.table, (hw.parent hp).cluster]
  exact hp.parent_isDir

lemma changeDirectory_settled (ht : t.Settled fs) (h : changeDirectory .shared fs name t = some (0, t')) :
    t'.Settled fs := by
  obtain ⟨i, hi, hf, hc, htable, -⟩ := changeDirectory_zero h
  obtain ⟨hdir, hself⟩ := folder_settled hw ht.directory (findName_eq_some.mp hi).1.1 hf
  rw [hself] at hc
  exact ⟨hc ▸ hdir.isDir, htable.trans (hc ▸ rfl)⟩

lemma Advances.settled (h : Advances .shared fs name t t') (ht : t.Settled fs) : t'.Settled fs := by
  cases h with
  | up _ hp => exact parentDirectory_settled hw ht hp
  | stay => exact ht
  | down _ _ hc => exact changeDirectory_settled hw ht hc

lemma Walks.settled (h : Walks .shared fs names t t') (ht : t.Settled fs) : t'.Settled fs := by
  induction h with
  | nil => exact ht
  | cons hstep _ ih => exact ih (hstep.settled hw ht)

lemma walk_settled (ht : t.Settled fs) (h : walk .shared fs names t = some (0, t')) : t'.Settled fs :=
  (walks_of_walk h).settled hw ht

lemma changePath_settled (hs : s.Settled fs) (h : s.changePath fs names = some (code, s')) : s'.Settled fs := by
  unfold Session.changePath at h
  split_ifs at h with hn
  · cases h
    exact hs
  · obtain ⟨⟨c, t⟩, hwalk, he⟩ := Option.map_eq_some_iff.mp h
    cases he
    dsimp only
    split_ifs with hc
    · subst hc
      obtain ⟨hd, ht⟩ := walk_settled hw ⟨hs.directory, hs.table⟩ hwalk
      exact ⟨hd, ht⟩
    · exact hs

lemma changePath_folder {s₀ : Session} (hs : s.Settled fs) (hp : s₀.changePath fs names = some (0, s))
    (hplain : name ≠ [dot] ∧ name ≠ [dot, dot])
    (hi : findName (fs.table s.currentDirectory) 2 (padded 8 name) = some i)
    (hf : (fs.table s.currentDirectory i).IsFolder) (h : s₀.changePath fs (names ++ [name]) = some (code, s')) :
    s'.currentDirectory = (fs.table s.currentDirectory i).clusterNumber ∧
      s'.currentDirTable = fs.table (fs.table s.currentDirectory i).clusterNumber := by
  obtain ⟨p, hdir⟩ := hs.directory
  have hcode := readDirectory_folder (hw.self hdir).folder hi hf
  unfold Session.changePath at h
  rw [if_neg (by simp)] at h
  obtain ⟨⟨c, t⟩, hwalk, he⟩ := Option.map_eq_some_iff.mp h
  rw [walk_append, changePath_zero.mp hp, Option.bind_some, if_pos rfl, walk, if_neg hplain.2,
    if_neg hplain.1] at hwalk
  obtain ⟨⟨c₁, t₁⟩, hc, hwalk⟩ := Option.bind_eq_some_iff.mp hwalk
  obtain rfl := changeDirectory_code hc hcode
  cases hwalk
  cases he
  obtain ⟨i', hi', -, hcluster, htable, -⟩ := changeDirectory_zero hc
  obtain rfl := Option.some.inj (hi.symm.trans hi')
  exact ⟨hcluster.trans (folder_settled hw hs.directory (findName_eq_some.mp hi).1.1 hf).2, htable⟩

end WellFormed

end Semogakelar.Shell
