import Semogakelar.Fat32.Lookup
import Semogakelar.Shell.Renaming

/-! The moving branch of `mv`, and what the command does to the tree. -/

namespace Semogakelar.Shell

open Library Fat32 FileSystem Function

variable {env : Env} {w w' : World} {src dest : Str} {fs fs' : FileSystem} {d t x : UInt32} {i j k : Fin 64}
  {e : DirectoryEntry}

def movedEntry (fs : FileSystem) (e : DirectoryEntry) : DirectoryEntry :=
  if e.IsFolder then fs.table e.clusterNumber 0 else e

def transferred (fs : FileSystem) (d : UInt32) (i : Fin 64) (t : UInt32) (j : Fin 64) (x : UInt32) :
    DirectoryTable :=
  if x = t then update (fs.table t) j (movedEntry fs (fs.table d i))
  else if x = d then update (fs.table d) i .zero
  else if (fs.table d i).IsFolder ∧ x = (fs.table d i).clusterNumber then update (fs.table x) 1 (fs.table t 0)
  else fs.table x

lemma findFree_eq_some {table : DirectoryTable} {start : ℕ} (h : findFree table start = some j) :
    start ≤ j.val := by
  have := Fin.eq_true_of_find?_eq_some h
  simp only [Bool.and_eq_true, decide_eq_true_eq] at this
  exact this.1

lemma writeTable_eq {c : UInt32} (hc : c.toNat < 2 ^ 26) (hx : x.toNat < 2 ^ 26) (table : DirectoryTable)
    (w : World) : (w.writeTable c table).fs.table x = if x = c then table else w.fs.table x := by
  rw [writeTable_table hc hx, update_apply]

lemma transferEntry_table {source : Located} (hfs : w.fs = fs) (hw : fs.WellFormed) (hd : fs.volume.IsDir d)
    (ht : fs.volume.IsDir t) (hi : 2 ≤ i.val)
    (hsource : (fs.table d i).IsFolder →
      source = ⟨fs.table (fs.table d i).clusterNumber, (fs.table d i).clusterNumber⟩)
    (hj : findFree (fs.table t) 2 = some j)
    (h : transferEntry ⟨fs.table d, d⟩ ⟨fs.table t, t⟩ source
      ((fs.table d i).attr != attrSubdirectory) (some i) w =
      some w') (hx : fs.volume.IsDir x) : w'.fs.table x = transferred fs d i t j x := by
  subst hfs
  have hd' := hw.dir_lt_device hd
  have ht' := hw.dir_lt_device ht
  have hx' := hw.dir_lt_device hx
  unfold transferEntry at h
  simp only [Option.bind_eq_bind, Option.bind_some, hj] at h
  by_cases hf : (w.fs.table d i).IsFolder
  · have hfile : ((w.fs.table d i).attr != attrSubdirectory) = false := by simpa using! hf
    have hc := hw.dir_lt_device (folder_settled hw hd hi hf).1.isDir
    rw [hfile, hsource hf] at h
    cases h
    simp only [Bool.false_eq_true, if_false]
    rw [writeTable_eq ht' hx', writeTable_eq hd' hx', writeTable_eq hc hx', transferred, movedEntry, if_pos hf,
      update_of_ne (by decide : (0 : Fin 64) ≠ 1)]
    simp only [hf, true_and]
    split_ifs with hxt hxd hxc
    · rfl
    · rfl
    · rw [hxc]
    · rfl
  · have hfile : ((w.fs.table d i).attr != attrSubdirectory) = true := by simpa using! hf
    rw [hfile] at h
    cases h
    simp only [if_true]
    rw [writeTable_eq ht' hx', writeTable_eq hd' hx', transferred, movedEntry, if_neg hf]
    simp only [hf, false_and, if_false]

lemma transferred_other (ht : ¬ (x = t ∧ k = j)) (hd : x ≠ t → ¬ (x = d ∧ k = i))
    (hown : (fs.table d i).IsFolder → x = (fs.table d i).clusterNumber → k ≠ 1) :
    transferred fs d i t j x k = fs.table x k := by
  unfold transferred
  split_ifs with hxt hxd hc
  · rw [update_of_ne fun hkj => ht ⟨hxt, hkj⟩, hxt]
  · rw [update_of_ne fun hki => hd hxt ⟨hxd, hki⟩, hxd]
  · rw [update_of_ne (hown hc.1 hc.2)]
  · rfl

lemma transferred_target : transferred fs d i t j t j = movedEntry fs (fs.table d i) := by
  rw [transferred, if_pos rfl, update_self]

lemma transferred_origin (h : d ≠ t) : transferred fs d i t j d i = .zero := by
  rw [transferred, if_neg h, if_pos rfl, update_self]

lemma ne_one_of_slot (hk : 2 ≤ k.val) : k ≠ 1 := by
  rintro rfl
  exact absurd hk (by decide)

lemma not_ownEntry (hk : 2 ≤ k.val) : ¬ OwnEntry w dest e x k := by
  rintro ⟨-, -, rfl | ⟨rfl, -⟩⟩
  · exact absurd hk (by decide)
  · exact absurd hk (by decide)

section Transfer

variable (hw : w.fs.WellFormed) (hs : w.session.Settled w.fs)
  (htable : ∀ x, w.fs.volume.IsDir x → w'.fs.table x = transferred w.fs d i t j x)
include hw hs htable

lemma inPlace_losesNothing (hsrc : IsSource w src d i) (hself : movedEntry w.fs (w.fs.table d i) = w.fs.table d i)
    (htd : t = d) (hji : j = i) : LosesNothing env w src dest w' := by
  subst htd hji
  have hslot : ∀ x k, w.fs.volume.IsDir x →
      ((w.fs.table t j).IsFolder → x = (w.fs.table t j).clusterNumber → k ≠ 1) →
      w'.fs.table x k = w.fs.table x k := by
    intro x k hx hown
    rw [htable x hx]
    by_cases hxk : x = t ∧ k = j
    · rw [hxk.1, hxk.2, transferred_target, hself]
    · exact transferred_other hxk (fun _ => hxk) hown
  have hkept : ∀ x k, w.fs.volume.IsDir x → 2 ≤ k.val → w'.fs.table x k = w.fs.table x k := fun x k hx hk =>
    hslot x k hx fun _ _ => ne_one_of_slot hk
  have hsame : SameItems w.fs w'.fs :=
    ⟨fun x k hx hk => by rw [hkept x k hx hk], fun x k hx hk => by rw [hkept x k hx hk]⟩
  have hdir := hsrc.isDir hw hs
  apply losesNothing_of_source hsrc
  · refine ⟨fun x hx => hsame.isDir_iff.mpr hx, fun x k hx _ _ hown => ?_⟩
    exact hslot x k hx fun hf hc hk => hown ⟨hf, hc, .inl hk⟩
  · refine ⟨t, j, _, .stayed, ?_⟩
    rw [← hkept t j hdir hsrc.slot]
    exact hsame.listedOnce hw hdir hsrc.slot hsrc.live

lemma relocates (hsrc : IsSource w src d i) (hself : movedEntry w.fs (w.fs.table d i) = w.fs.table d i)
    (ht : w.fs.volume.IsDir t) (hj : 2 ≤ j.val) (htd : t ≠ d) (hvacant : ¬ (w.fs.table t j).Live) :
    w.fs.volume.Relocates w'.fs.volume d i t j (w.fs.table d i).item where
  root := rfl
  before := ⟨hsrc.isDir hw hs, item_of_live hsrc.slot hsrc.live⟩
  target := ht
  free := item_eq_none.mpr fun h => hvacant h.2
  gone := by
    rw [item_eq_none, htable d (hsrc.isDir hw hs), transferred_origin htd.symm]
    exact fun h => absurd h.2 (by decide)
  after := by
    rw [item_eq_some, htable t ht, transferred_target, hself]
    exact ⟨hj, hsrc.live, rfl⟩
  others := by
    intro x k hx hxd hxt
    by_cases hk : 2 ≤ k.val
    · have hslot : w'.fs.table x k = w.fs.table x k := by
        rw [htable x hx]
        exact transferred_other hxt (fun _ => hxd) fun _ _ => ne_one_of_slot hk
      simp only [volume, volumeOf, hslot]
    · rw [item_eq_none.mpr fun h => hk h.1, item_eq_none.mpr fun h => hk h.1]

lemma elsewhere_losesNothing (hsrc : IsSource w src d i)
    (hself : movedEntry w.fs (w.fs.table d i) = w.fs.table d i) (ht : w.fs.volume.IsDir t) (hj : 2 ≤ j.val)
    (htd : t ≠ d) (hdest : IsDestination w dest t) (hvacant : ¬ (w.fs.table t j).Live)
    (hout : (w.fs.table d i).IsFolder → ¬ w.fs.volume.Within (w.fs.table d i).clusterNumber t) :
    LosesNothing env w src dest w' := by
  have hrel := relocates hw hs htable hsrc hself ht hj htd hvacant
  have hout : (w.fs.table d i).item.folder = true → ¬ w.fs.volume.Within (w.fs.table d i).item.head t := fun hf =>
    hout (of_decide_eq_true hf)
  apply losesNothing_of_source hsrc
  · refine ⟨fun x hx => hrel.isDir_kept hout hx, fun x k hx hlive hne hown => ?_⟩
    rw [htable x hx]
    apply transferred_other
    · rintro ⟨rfl, rfl⟩
      exact hvacant hlive
    · exact fun _ => hne
    · exact fun hf hc hk => hown ⟨hf, hc, .inl hk⟩
  · refine ⟨t, j, _, .moved hdest, hj, hsrc.live, hrel.isDir_kept hout ht, ?_, ?_⟩
    · rw [htable t ht, transferred_target, hself]
    · intro x k hx hk hlive hc
      exact hrel.listed_once hw.sound hx (item_of_live hk hlive) hc

end Transfer

/-! ### The walks of `move` -/

lemma cancel_settled {s : Session} (hs : s.Settled fs) :
    Session.cancelChangePath fs s.currentDirectory s.currentPath = s := by
  rw [Session.cancelChangePath, ← hs.table]

section Walks

variable {path : Path} {l : Located} {code : ℤ} (hset : w.session.Settled w.fs)
include hset

lemma locateParent_spec (h : locateParent path w = some (l, w')) :
    w'.fs = w.fs ∧ w'.session = w.session ∧ ∃ c s, w.session.changePath w.fs path.parents = some (c, s) ∧
      l = ⟨s.currentDirTable, s.currentDirectory⟩ := by
  unfold locateParent at h
  split_ifs at h with hn
  · cases h
    refine ⟨rfl, rfl, 0, w.session, ?_, rfl⟩
    rw [Path.parents, hn]
    rfl
  · obtain ⟨⟨_, _⟩, hc, he⟩ := Option.map_eq_some_iff.mp h
    obtain ⟨⟨c, s⟩, hs, hw₁⟩ := Option.map_eq_some_iff.mp hc
    cases hw₁
    cases he
    exact ⟨rfl, cancel_settled hset, c, s, hs, rfl⟩

lemma locate_spec (h : locate path w = some (code, l, w')) :
    w'.fs = w.fs ∧ w'.session = w.session ∧ ∃ s, w.session.changePath w.fs path.all = some (code, s) ∧
      l = ⟨s.currentDirTable, s.currentDirectory⟩ := by
  obtain ⟨⟨_, _⟩, hc, he⟩ := Option.map_eq_some_iff.mp h
  obtain ⟨⟨c, s⟩, hs, hw₁⟩ := Option.map_eq_some_iff.mp hc
  cases hw₁
  cases he
  exact ⟨rfl, cancel_settled hset, s, hs, rfl⟩

lemma locateSource_spec {isfile : Bool} (h : locateSource isfile path w = some (l, w')) :
    w'.fs = w.fs ∧ w'.session = w.session ∧ (isfile = false → ∃ c s,
      w.session.changePath w.fs path.all = some (c, s) ∧ l = ⟨s.currentDirTable, s.currentDirectory⟩) := by
  unfold locateSource at h
  split_ifs at h with hf
  · cases h
    exact ⟨rfl, rfl, fun hfile => by rw [hfile] at hf; cases hf⟩
  · obtain ⟨⟨c, _, _⟩, hl, he⟩ := Option.map_eq_some_iff.mp h
    cases he
    obtain ⟨hfs, hsession, s, hs, rfl⟩ := locate_spec hset hl
    exact ⟨hfs, hsession, fun _ => ⟨c, s, hs, rfl⟩⟩

end Walks

lemma moveListed_cases {srcPath destPath : Path} (hset : w.session.Settled w.fs)
    (h : moveListed env srcPath destPath w = some w') :
    (w'.fs = w.fs ∧ ∀ t, w.session.changePath w.fs destPath.all = some (0, t) →
      findFree t.currentDirTable 1 = none) ∨
    ∃ c s i t j source w₁ w₂, w.session.changePath w.fs srcPath.parents = some (c, s) ∧
      findName s.currentDirTable 2 (padded 8 (srcPath.last env.below)) = some i ∧
      w.session.changePath w.fs destPath.all = some (0, t) ∧ findFree t.currentDirTable 2 = some j ∧
      ((s.currentDirTable i).IsFolder → ∃ c' s', w.session.changePath w.fs srcPath.all = some (c', s') ∧
        source = ⟨s'.currentDirTable, s'.currentDirectory⟩) ∧
      w₁.fs = w.fs ∧ w'.fs = w₂.fs ∧
      transferEntry ⟨s.currentDirTable, s.currentDirectory⟩ ⟨t.currentDirTable, t.currentDirectory⟩ source
        ((s.currentDirTable i).attr != attrSubdirectory) (some i) w₁ = some w₂ := by
  obtain ⟨⟨parentSrc, w₁⟩, hp, h⟩ := Option.bind_eq_some_iff.mp h
  obtain ⟨hfs₁, hses₁, c, s, hs, rfl⟩ := locateParent_spec hset hp
  dsimp only at h
  obtain ⟨⟨source, w₂⟩, hsrc, h⟩ := Option.bind_eq_some_iff.mp h
  have hset₁ : w₁.session.Settled w₁.fs := by rwa [hfs₁, hses₁]
  obtain ⟨hfs₂, hses₂, hsource⟩ := locateSource_spec hset₁ hsrc
  obtain ⟨⟨ret, target, w₃⟩, hd, h⟩ := Option.bind_eq_some_iff.mp h
  have hset₂ : w₂.session.Settled w₂.fs := by rwa [hfs₂, hses₂]
  obtain ⟨hfs₃, hses₃, t, ht, rfl⟩ := locate_spec hset₂ hd
  rw [hfs₂, hses₂, hfs₁, hses₁] at ht
  rw [hfs₁, hses₁] at hsource
  have hfs : w₃.fs = w.fs := hfs₃.trans (hfs₂.trans hfs₁)
  dsimp only at h
  split_ifs at h with hr
  · cases h
    refine .inl ⟨hfs, fun t' ht' => (hr ?_).elim⟩
    exact (outcome_unique ht ht').1
  · obtain ⟨w₄, hplace, h⟩ := Option.bind_eq_some_iff.mp h
    cases h
    rw [not_not.mp hr] at ht
    unfold placeEntry at hplace
    split_ifs at hplace with hfull
    · cases hplace
      refine .inl ⟨hfs, fun t' ht' => ?_⟩
      obtain rfl := (outcome_unique ht ht').2
      exact hfull
    · cases hi : findName s.currentDirTable 2 (padded 8 (srcPath.last env.below)) with
      | none =>
        rw [hi] at hplace
        cases hplace
      | some i =>
        rw [hi] at hplace hsource
        cases hj : findFree t.currentDirTable 2 with
        | none =>
          simp only [transferEntry, Option.bind_eq_bind, Option.bind_some, hj, Option.bind_none] at hplace
          cases hplace
        | some j =>
          refine .inr ⟨c, s, i, t, j, source, w₃, w₄, hs, hi, ht, hj, fun hf => hsource ?_, hfs, rfl, hplace⟩
          simpa using! hf

lemma moveStart_settled (hs : w.session.Settled w.fs) (src dest : Str) : (moveStart w src dest).Settled w.fs := by
  have hdest : (w.parsed dest).session.Settled (w.parsed dest).fs := by
    rw [parsed_fs]
    exact parsed_settled hs dest
  have hsrc := parsed_settled hdest src
  rwa [parsed_fs] at hsrc

lemma findFree_settled (hw : fs.WellFormed) (ht : fs.volume.IsDir t) : findFree (fs.table t) 1 ≠ none := by
  intro hnone
  obtain ⟨p, ht⟩ := ht
  have hattr : (fs.table t 1).attr = attrSubdirectory := (hw.parent ht).folder
  have hslot := Fin.find?_eq_none_iff.mp hnone 1
  rw [hattr] at hslot
  exact absurd hslot (by decide)

lemma moveListed_outcome {w₀ : World} (hw : w.fs.WellFormed) (hs : w.session.Settled w.fs)
    (hfs : w₀.fs = w.fs) (hsession : w₀.session = moveStart w src dest)
    (h : moveListed env (splitPath src) (splitPath dest) w₀ = some w') :
    (w'.fs = w.fs ∧ ∀ t, (moveStart w src dest).changePath w.fs (splitPath dest).all ≠ some (0, t)) ∨
    ∃ c s i t j, (moveStart w src dest).changePath w.fs (splitPath src).parents = some (c, s) ∧
      findName s.currentDirTable 2 (padded 8 ((splitPath src).last env.below)) = some i ∧
      (moveStart w src dest).changePath w.fs (splitPath dest).all = some (0, t) ∧
      findFree t.currentDirTable 2 = some j ∧ w.fs.volume.IsDir t.currentDirectory ∧
      (c = 0 → IsSource w src s.currentDirectory i → ∀ x, w.fs.volume.IsDir x →
        w'.fs.table x = transferred w.fs s.currentDirectory i t.currentDirectory j x) := by
  have hset := moveStart_settled hs src dest
  have hset₀ := hset
  rw [← hsession, ← hfs] at hset₀
  rcases moveListed_cases hset₀ h with ⟨hsame, hfull⟩ |
    ⟨c, s, i, t, j, source, w₁, w₂, hp, hi, ht, hj, hsource, hfs₁, hw', htr⟩
  · rw [hfs, hsession] at hfull
    refine .inl ⟨hsame.trans hfs, fun t ht => ?_⟩
    have hsett := changePath_settled hw hset ht
    have hnone := hfull t ht
    rw [hsett.table] at hnone
    exact findFree_settled hw hsett.directory hnone
  · rw [hfs, hsession] at hp ht hsource
    have hsets := changePath_settled hw hset hp
    have hsett := changePath_settled hw hset ht
    refine .inr ⟨c, s, i, t, j, hp, hi, ht, hj, hsett.directory, ?_⟩
    rintro rfl hsrc x hx
    rw [hsets.table] at hsource hi htr
    rw [hsett.table] at hj htr
    have hfolder : (w.fs.table s.currentDirectory i).IsFolder → source =
        ⟨w.fs.table (w.fs.table s.currentDirectory i).clusterNumber,
          (w.fs.table s.currentDirectory i).clusterNumber⟩ := by
      intro hf
      obtain ⟨c', s', hall, rfl⟩ := hsource hf
      rw [hsrc.counted.all_eq env.below] at hall
      have hplain := hsrc.plain
      rw [← hsrc.counted.last_eq env.below] at hplain
      obtain ⟨hcluster, htab⟩ := changePath_folder hw hsets hp hplain hi hf hall
      rw [hcluster, htab]
    rw [hw']
    exact transferEntry_table (hfs₁.trans hfs) hw hsets.directory hsett.directory hsrc.slot hfolder hj htr hx

lemma moveListed_losesNothing {w₀ : World} (hw : w.fs.WellFormed) (hs : w.session.Settled w.fs)
    (hfs : w₀.fs = w.fs) (hsession : w₀.session = moveStart w src dest) (hsafe : MoveSafe env w src dest)
    (h : moveListed env (splitPath src) (splitPath dest) w₀ = some w') : LosesNothing env w src dest w' := by
  rcases moveListed_outcome hw hs hfs hsession h with ⟨hsame, -⟩ | ⟨c, s, i, t, j, hp, hi, ht, hj, hdir, htable⟩
  · exact losesNothing_of_fs hw hs hsame
  · obtain ⟨s', i', j', hfinds, hj', hsafe⟩ := hsafe t ht
    obtain ⟨rfl, rfl⟩ := outcome_unique hp hfinds.entered
    obtain rfl := Option.some.inj (hi.symm.trans hfinds.found)
    obtain rfl := Option.some.inj (hj.symm.trans hj')
    have hsrc := hsafe.source
    have hself : movedEntry w.fs (w.fs.table s.currentDirectory i) = w.fs.table s.currentDirectory i := by
      unfold movedEntry
      split_ifs with hf
      · exact hsafe.self hf
      · rfl
    by_cases htd : t.currentDirectory = s.currentDirectory
    · exact inPlace_losesNothing hw hs (htable rfl hsrc) hsrc hself htd (hsafe.inPlace htd)
    · exact elsewhere_losesNothing hw hs (htable rfl hsrc) hsrc hself hdir (findFree_eq_some hj) htd
        (hsafe.destination htd) (hsafe.vacant htd) (hsafe.outside htd)

lemma parsed_session {w₁ : World} (hfs : w₁.fs = w.fs) (hs : w₁.session = w.session) (arg : Str) :
    (w₁.parsed arg).session = (w.parsed arg).session := by
  cases h : isAbsolute arg with
  | false => rw [parsed_relative h, parsed_relative h, hs]
  | true => rw [parsed_absolute h, parsed_absolute h, hfs]

lemma mv_cases (hw : w.fs.WellFormed) (hs : w.session.Settled w.fs) (h : mv env [src, dest] w = some w') :
    (DestinationMissing w dest ∧ containsInvalidChar ((splitPath dest).last env.below) dot = true ∧ w'.fs = w.fs) ∨
    (∃ w₀ : World, DestinationMissing w dest ∧ containsInvalidChar ((splitPath dest).last env.below) dot = false ∧
      w₀.fs = w.fs ∧ w₀.session = (w.parsed src).session ∧
      renameListed (splitPath src) src ((splitPath dest).last env.below) w₀ = some w') ∨
    ∃ w₀ : World, ¬ DestinationMissing w dest ∧ w₀.fs = w.fs ∧ w₀.session = moveStart w src dest ∧
      moveListed env (splitPath src) (splitPath dest) w₀ = some w' := by
  obtain ⟨⟨ret, w₁⟩, hp, h⟩ := Option.bind_eq_some_iff.mp h
  obtain ⟨hfs, hsession, -, s, hret⟩ := probe_spec hp
  rw [cancel_settled hs] at hsession
  dsimp only at h
  split_ifs at h with h2 hlow
  · subst h2
    have hmiss : DestinationMissing w dest := ⟨s, hret⟩
    unfold rename at h
    split_ifs at h with hdot
    · cases h
      exact .inl ⟨hmiss, hdot, hfs⟩
    · refine .inr (.inl ⟨w₁.parsed src, hmiss, Bool.eq_false_iff.mpr hdot, ?_, parsed_session hfs hsession src, h⟩)
      rw [parsed_fs, hfs]
  · -- The self entry of the current directory carries its cluster.
    obtain ⟨p, hdir⟩ := hs.directory
    have hc := (hw.self hdir).cluster
    have hlt := hw.dir_lt hdir.isDir
    rw [hsession, hs.table, clusterLow_eq (by rw [hc]; omega)] at hlow
    exact (hlow hc).elim
  · refine .inr (.inr ⟨(w₁.parsed dest).parsed src, ?_, ?_, ?_, h⟩)
    · rintro ⟨s', hs'⟩
      exact h2 (outcome_unique hret hs').1
    · rw [parsed_fs, parsed_fs, hfs]
    · apply parsed_session
      · rw [parsed_fs, parsed_fs, hfs]
      · exact parsed_session hfs hsession dest

lemma writeTo_folder {name : Str} {path : Path} {buf : ℕ → UInt8} {code : ℤ} (hw : w.fs.WellFormed)
    (hs : w.session.Settled w.fs) (h : writeTo env name path buf 0 true w = some (code, w')) :
    w'.fs.WellFormed ∧ w'.session = .cancelChangePath w'.fs w.session.currentDirectory w.session.currentPath := by
  obtain ⟨⟨retVal, w₁⟩, hc, h⟩ := Option.bind_eq_some_iff.mp h
  obtain ⟨⟨c, s⟩, hp, he⟩ := Option.map_eq_some_iff.mp hc
  obtain ⟨-, rfl⟩ := Prod.mk.inj he
  have hset := changePath_settled hw hs hp
  dsimp only at h
  rw [if_pos rfl] at h
  split_ifs at h with hr
  · cases h
    exact ⟨hw, rfl⟩
  · obtain ⟨⟨_, w₂⟩, hst, h⟩ := Option.bind_eq_some_iff.mp h
    cases h
    refine ⟨?_, rfl⟩
    obtain ⟨fs, hwr, rfl⟩ := store_returned hst
    exact (write_kept hw hset.directory (fun ho => ho.file rfl) hwr).1

lemma mkdir_at_root {arg : Str} (hw : w.fs.WellFormed) (hs : w.session = .toRoot w.fs)
    (harg : isAbsolute arg = false) (h : run env .mkdir [arg] w = some w') : w'.fs.WellFormed ∧ w'.session =
    .toRoot w'.fs := by
  have hset : w.session.Settled w.fs := by
    rw [hs]
    exact ⟨Volume.isDir_root, rfl⟩
  have h : createDirectory env (splitPath arg) (w.parsed arg) = some w' := h
  rw [parsed_relative harg] at h
  unfold createDirectory at h
  split_ifs at h with hdot
  · cases h
    exact ⟨hw, hs⟩
  · obtain ⟨⟨_, w₁⟩, hwr, rfl⟩ := Option.map_eq_some_iff.mp h
    obtain ⟨hw', hsession⟩ := writeTo_folder hw hset hwr
    rw [hs] at hsession
    exact ⟨hw', hsession⟩

lemma freshWorld_wellFormed : freshWorld.fs.WellFormed := createFat32_wellFormed

lemma isSource_here {arg : Str} (hpath : splitPath arg = ⟨false, 1, [arg]⟩)
    (hplain : arg ≠ [dot] ∧ arg ≠ [dot, dot]) (hd : w.session.currentDirectory = d) (hi : 2 ≤ i.val)
    (hl : (w.fs.table d i).Live) (hfind : findName (w.fs.table d) 2 (padded 8 arg) = some i) :
    IsSource w arg d i := by
  obtain ⟨⟨-, hname⟩, hfirst⟩ := findName_eq_some.mp hfind
  have hlast : (splitPath arg).last [] = arg := by
    rw [hpath]
    rfl
  have hrel : isAbsolute arg = false := congrArg Path.absolute hpath
  refine ⟨?_, ?_, ⟨w.session, ?_, hd⟩, hi, hl, ?_, ?_⟩
  · rw [hpath]
    rfl
  · rw [hlast]
    exact hplain
  · rw [Enters, parsed_relative hrel, hpath]
    rfl
  · rw [hlast, hname]
  · intro j hj hji _
    rw [hlast]
    exact hfirst j hji hj

def oneFolder : Option World := run plainEnv .mkdir [[0x61]] freshWorld

def crowded : Option World :=
  (oneFolder.bind (run plainEnv .mkdir [[0x61, slash, 0x78]])).bind (run plainEnv .mkdir [[0x62]])

lemma oneFolder_root (h : oneFolder = some w) : w.fs.WellFormed ∧ w.session = .toRoot w.fs :=
  mkdir_at_root freshWorld_wellFormed rfl rfl h

lemma crowded_root (h : crowded = some w) : w.fs.WellFormed ∧ w.session = .toRoot w.fs := by
  obtain ⟨w₂, h, h₃⟩ := Option.bind_eq_some_iff.mp h
  obtain ⟨w₁, h₁, h₂⟩ := Option.bind_eq_some_iff.mp h
  obtain ⟨hw₁, hs₁⟩ := oneFolder_root h₁
  obtain ⟨hw₂, hs₂⟩ := mkdir_at_root hw₁ hs₁ rfl h₂
  exact mkdir_at_root hw₂ hs₂ rfl h₃

lemma settled_root (h : w.session = .toRoot w.fs) : w.session.Settled w.fs := by
  rw [h]
  exact ⟨Volume.isDir_root, rfl⟩

def twoFolders : Option World := oneFolder.bind (run plainEnv .mkdir [[0x62]])

lemma twoFolders_root (h : twoFolders = some w) : w.fs.WellFormed ∧ w.session = .toRoot w.fs := by
  obtain ⟨w₁, h₁, h⟩ := Option.bind_eq_some_iff.mp h
  obtain ⟨hw₁, hs₁⟩ := oneFolder_root h₁
  exact mkdir_at_root hw₁ hs₁ rfl h

end Semogakelar.Shell
