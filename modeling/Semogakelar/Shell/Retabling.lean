import Semogakelar.Shell.Moving

/-! `mv` writes directory tables only, and where it loses nothing and makes no name double it keeps the volume well
formed. -/

namespace Semogakelar.Shell

open Library Fat32 FileSystem Function

variable {env : Env} {w w' : World} {src dest newName : Str} {fs fs' : FileSystem} {d t x c : UInt32}
  {i j k : Fin 64} {e : DirectoryEntry}

structure Retabled (fs fs' : FileSystem) : Prop where
  driver : fs'.driver = fs.driver
  outside : ∀ c : UInt32, c.toNat < 2 ^ 26 → ¬ fs.volume.IsDir c → readClusters fs'.disk c = readClusters fs.disk c

def Clashes (table : DirectoryTable) (i : Fin 64) (e : DirectoryEntry) : Prop :=
  ∃ k : Fin 64, k ≠ i ∧ 2 ≤ k.val ∧ (table k).Live ∧ (table k).Same e

namespace Retabled

lemma refl (fs : FileSystem) : Retabled fs fs := ⟨rfl, fun _ _ _ => rfl⟩

lemma writeTable (h : Retabled fs w.fs) (hw : fs.WellFormed) (hc : fs.volume.IsDir c) (table : DirectoryTable) :
    Retabled fs (w.writeTable c table).fs where
  driver := h.driver
  outside := by
    intro b hb hdir
    have hne : b ≠ c := fun he => hdir (he ▸ hc)
    exact (read_write_ne _ _ (hw.dir_lt_device hc) hb hne).trans (h.outside b hb hdir)

lemma link (h : Retabled fs fs') : fs'.volume.link = fs.volume.link := by
  funext b
  rw [volume_link, volume_link, h.driver]

lemma wellFormed (h : Retabled fs fs') (hw : fs.WellFormed) (hsound : fs'.volume.Sound Usable)
    (hself : ∀ {d p}, fs'.volume.Dir d p → (fs'.table d 0).Names d)
    (hparent : ∀ {d p}, fs'.volume.Dir d p → (fs'.table d 1).Names p)
    (hdead : ∀ {d}, fs'.volume.IsDir d → ∀ s : Fin 64, 2 ≤ s.val → ¬ (fs'.table d s).Live → fs'.table d s = .zero)
    (hdistinct : ∀ {d}, fs'.volume.IsDir d → ∀ s t : Fin 64, 2 ≤ s.val → 2 ≤ t.val → (fs'.table d s).Live →
      (fs'.table d t).Live → (fs'.table d s).Same (fs'.table d t) → s = t) : fs'.WellFormed where
  cached := by
    rw [h.driver, hw.cached, h.outside fatClusterNumber (by decide) fun hd => hw.dir_ne_fat hd rfl]
  cell_zero := by rw [h.driver, hw.cell_zero]
  cell_one := by rw [h.driver, hw.cell_one]
  cell_two := by rw [h.driver, hw.cell_two]
  self := hself
  parent := hparent
  sound := hsound
  dead := hdead
  distinct := hdistinct

end Retabled

lemma SameItems.item_eq (h : SameItems fs fs') (hx : fs.volume.IsDir x) : fs'.volume.item x k =
    fs.volume.item x k := by
  by_cases hk : 2 ≤ k.val
  · simp only [volume, volumeOf, h.live x k hx hk, h.item x k hx hk]
  · rw [item_eq_none.mpr fun hn => hk hn.1, item_eq_none.mpr fun hn => hk hn.1]

lemma Names.renamed {b : UInt32} {name : Name} (h : e.Names b) : { e with name := name }.Names b :=
  ⟨h.folder, h.live, h.cluster⟩

/-! ### A new name -/

section Rename

variable (hw : w.fs.WellFormed) (hs : w.session.Settled w.fs)
include hw hs

lemma renameEntry_retabled (newName : Str) (i : Fin 64) : Retabled w.fs (renameEntry newName i w).fs := by
  have hfirst := (Retabled.refl w.fs).writeTable hw hs.directory (withName w.session.currentDirTable i newName)
  unfold renameEntry
  dsimp only
  split_ifs with hsub
  · have hf : (w.fs.table w.session.currentDirectory i).IsFolder := by
      rw [withName_self, hs.table] at hsub
      exact hsub
    have hdir := folder_isDir hw hs.directory hf
    have hlow : (withName w.session.currentDirTable i newName i).clusterLow.toUInt32 =
        (w.fs.table w.session.currentDirectory i).clusterNumber := by
      have hc := hw.dir_lt hdir
      rw [withName_self, hs.table]
      exact clusterLow_eq (e := w.fs.table w.session.currentDirectory i) (by omega)
    rw [hlow]
    exact hfirst.writeTable hw hdir _
  · exact hfirst

lemma renameEntry_slot (newName : Str) (hx : w.fs.volume.IsDir x) (k : Fin 64) :
    (renameEntry newName i w).fs.table x k = w.fs.table x k ∨
      (renameEntry newName i w).fs.table x k = { w.fs.table x k with name := padded 8 newName } := by
  have hparent : update w.fs.table w.session.currentDirectory
      (withName (w.fs.table w.session.currentDirectory) i newName)
      x k = w.fs.table x k ∨ update w.fs.table w.session.currentDirectory
        (withName (w.fs.table w.session.currentDirectory) i newName) x k =
          { w.fs.table x k with name := padded 8 newName } := by
    by_cases hxd : x = w.session.currentDirectory
    · rw [hxd, update_self]
      by_cases hki : k = i
      · rw [hki]
        exact .inr (withName_self ..)
      · exact .inl (withName_other hki)
    · rw [update_of_ne hxd]
      exact .inl rfl
  rw [renameEntry_table hw hs newName hx]
  split_ifs with hc
  · by_cases hk : k = 0
    · subst hk
      rw [withName_self]
      rcases hparent with h | h
      · rw [h]
        exact .inr rfl
      · rw [h]
        exact .inr rfl
    · rw [withName_other hk]
      exact hparent
  · exact hparent

lemma renameEntry_other (newName : Str) (hx : w.fs.volume.IsDir x) (hk : 2 ≤ k.val)
    (hne : ¬ (x = w.session.currentDirectory ∧ k = i)) : (renameEntry newName i w).fs.table x k =
    w.fs.table x k := by
  have hk0 : k ≠ 0 := by
    rintro rfl
    exact absurd hk (by decide)
  have hparent : update w.fs.table w.session.currentDirectory
      (withName (w.fs.table w.session.currentDirectory) i newName)
      x k = w.fs.table x k := by
    by_cases hxd : x = w.session.currentDirectory
    · rw [hxd, update_self, withName_other fun hki => hne ⟨hxd, hki⟩]
    · rw [update_of_ne hxd]
  rw [renameEntry_table hw hs newName hx]
  split_ifs with hc
  · rw [withName_other hk0, hparent]
  · exact hparent

lemma renameEntry_wellFormed (hi : 2 ≤ i.val) (hlive : (w.fs.table w.session.currentDirectory i).Live)
    (hfree : ¬ Clashes (w.fs.table w.session.currentDirectory) i
      { w.fs.table w.session.currentDirectory i with name := padded 8 newName }) :
    (renameEntry newName i w).fs.WellFormed := by
  have hsame := renameEntry_sameItems (i := i) hw hs newName
  have hdir : ∀ {x p}, (renameEntry newName i w).fs.volume.Dir x p ↔ w.fs.volume.Dir x p :=
    Volume.dir_congr rfl fun x k hx => hsame.item_eq hx
  have hnames : ∀ {x k b}, w.fs.volume.IsDir x → (w.fs.table x k).Names b →
      ((renameEntry newName i w).fs.table x k).Names b := by
    intro x k b hx hb
    rcases renameEntry_slot hw hs (i := i) newName hx k with h | h
    · rw [h]
      exact hb
    · rw [h]
      exact Names.renamed hb
  have hnew : (renameEntry newName i w).fs.table w.session.currentDirectory i =
      { w.fs.table w.session.currentDirectory i with name := padded 8 newName } := by
    rw [renameEntry_table hw hs newName hs.directory, if_neg, update_self, withName_self]
    rintro ⟨hf, hc⟩
    exact hw.sound.head_ne hs.directory (item_of_live hi hlive) (decide_eq_true hf) hc.symm
  refine (renameEntry_retabled hw hs newName i).wellFormed hw ?_ ?_ ?_ ?_ ?_
  · exact hw.sound.congr rfl (renameEntry_retabled hw hs newName i).link fun x k hx => hsame.item_eq hx
  · intro x p hx
    have hx := hdir.mp hx
    exact hnames hx.isDir (hw.self hx)
  · intro x p hx
    have hx := hdir.mp hx
    exact hnames hx.isDir (hw.parent hx)
  · intro x hx k hk hdead
    have hx := hsame.isDir_iff.mp hx
    have hold : ¬ (w.fs.table x k).Live := fun hl => hdead ((hsame.live x k hx hk).mpr hl)
    rw [renameEntry_other hw hs newName hx hk]
    · exact hw.dead hx k hk hold
    · rintro ⟨rfl, rfl⟩
      exact hold hlive
  · intro x hdir' k l hk hl hlk' hll' hkl
    have hx := hsame.isDir_iff.mp hdir'
    have hlk := (hsame.live x k hx hk).mp hlk'
    have hll := (hsame.live x l hx hl).mp hll'
    clear hdir' hlk' hll'
    by_cases hkne : x = w.session.currentDirectory ∧ k = i
    · obtain ⟨rfl, rfl⟩ := hkne
      by_contra hne
      rw [hnew, renameEntry_other hw hs newName hx hl fun h => hne h.2.symm] at hkl
      exact hfree ⟨l, Ne.symm hne, hl, hll, hkl.name.symm, hkl.ext.symm, hkl.attr.symm⟩
    · rw [renameEntry_other hw hs newName hx hk hkne] at hkl
      by_cases hlne : x = w.session.currentDirectory ∧ l = i
      · obtain ⟨rfl, rfl⟩ := hlne
        rw [hnew] at hkl
        exact (hfree ⟨k, fun h => hkne ⟨rfl, h⟩, hk, hlk, hkl⟩).elim
      · rw [renameEntry_other hw hs newName hx hl hlne] at hkl
        exact hw.distinct hx k l hk hl hlk hll hkl

end Rename

/-! ### A new place -/

lemma transferEntry_retabled {source : Located} (hfs : w.fs = fs) (hw : fs.WellFormed) (hd : fs.volume.IsDir d)
    (ht : fs.volume.IsDir t) (hi : 2 ≤ i.val)
    (hsource : (fs.table d i).IsFolder →
      source = ⟨fs.table (fs.table d i).clusterNumber, (fs.table d i).clusterNumber⟩)
    (h : transferEntry ⟨fs.table d, d⟩ ⟨fs.table t, t⟩ source
      ((fs.table d i).attr != attrSubdirectory) (some i) w = some w') : Retabled fs w'.fs := by
  subst hfs
  unfold transferEntry at h
  cases hj : findFree (w.fs.table t) 2 with
  | none =>
    simp only [Option.bind_eq_bind, Option.bind_some, hj, Option.bind_none] at h
    cases h
  | some j =>
  simp only [Option.bind_eq_bind, Option.bind_some, hj] at h
  by_cases hf : (w.fs.table d i).IsFolder
  · have hfile : ((w.fs.table d i).attr != attrSubdirectory) = false := by simpa using! hf
    rw [hfile, hsource hf] at h
    cases h
    exact (((Retabled.refl w.fs).writeTable hw (folder_settled hw hd hi hf).1.isDir _).writeTable
      hw hd _).writeTable
      hw ht _
  · have hfile : ((w.fs.table d i).attr != attrSubdirectory) = true := by simpa using! hf
    rw [hfile] at h
    cases h
    exact ((Retabled.refl w.fs).writeTable hw hd _).writeTable hw ht _

section Transfer

variable (hw : w.fs.WellFormed) (hs : w.session.Settled w.fs) (hret : Retabled w.fs w'.fs)
  (htable : ∀ x, w.fs.volume.IsDir x → w'.fs.table x = transferred w.fs d i t j x)
include hw hs hret htable

lemma elsewhere_wellFormed (hsrc : IsSource w src d i) (hself : movedEntry w.fs (w.fs.table d i) = w.fs.table d i)
    (ht : w.fs.volume.IsDir t) (hj : 2 ≤ j.val) (htd : t ≠ d) (hvacant : ¬ (w.fs.table t j).Live)
    (hout : (w.fs.table d i).IsFolder → ¬ w.fs.volume.Within (w.fs.table d i).clusterNumber t)
    (hfree : ¬ Clashes (w.fs.table t) j (w.fs.table d i)) : w'.fs.WellFormed := by
  have hd := hsrc.isDir hw hs
  have hrel := relocates hw hs htable hsrc hself ht hj htd hvacant
  have hn : (w.fs.table d i).item.folder = true → ¬ w.fs.volume.Within (w.fs.table d i).item.head t := fun hf =>
    hout (of_decide_eq_true hf)
  have hreserved : ∀ {x : UInt32} {k : Fin 64}, k.val < 2 → w.fs.volume.IsDir x →
      ((w.fs.table d i).IsFolder → x = (w.fs.table d i).clusterNumber → k ≠ 1) →
      w'.fs.table x k = w.fs.table x k := by
    intro x k hk hx hown
    have hslot := hsrc.slot
    rw [htable x hx]
    refine transferred_other ?_ (fun _ => ?_) hown
    · rintro ⟨-, rfl⟩
      omega
    · rintro ⟨-, rfl⟩
      omega
  have hentry : ∀ {x : UInt32} {k : Fin 64}, w.fs.volume.IsDir x → 2 ≤ k.val → ¬ (x = t ∧ k = j) →
    ¬ (x = d ∧ k = i) →
      w'.fs.table x k = w.fs.table x k := by
    intro x k hx hk hxt hxd
    rw [htable x hx]
    exact transferred_other hxt (fun _ => hxd) fun _ _ => ne_one_of_slot hk
  have hnew : w'.fs.table t j = w.fs.table d i := by rw [htable t ht, transferred_target, hself]
  have hold : w'.fs.table d i = .zero := by rw [htable d hd, transferred_origin htd.symm]
  refine hret.wellFormed hw (hrel.sound hw.sound hn hret.link) ?_ ?_ ?_ ?_
  · intro x p hx
    obtain ⟨q, hq⟩ := hrel.isDir_of_after hx.isDir
    rw [hreserved (by decide) hq.isDir fun _ _ => by decide]
    exact hw.self hq
  · intro x p hx
    rcases hrel.dir_cases hw.sound hx with ⟨hf, rfl, rfl⟩ | ⟨hx, hne⟩
    · -- The folder that moves has got its new directory as its parent.
      have hf : (w.fs.table d i).IsFolder := of_decide_eq_true hf
      have hc := (folder_settled hw hd hsrc.slot hf).1.isDir
      have hct : (w.fs.table d i).clusterNumber ≠ p := fun he => hout hf (he ▸ .self)
      have hcd : (w.fs.table d i).clusterNumber ≠ d :=
        hw.sound.head_ne hd (item_of_live hsrc.slot hsrc.live) (decide_eq_true hf)
      change (w'.fs.table (w.fs.table d i).clusterNumber 1).Names p
      rw [htable _ hc, transferred, if_neg hct, if_neg hcd, if_pos ⟨hf, rfl⟩, update_self]
      obtain ⟨q, hq⟩ := ht
      exact hw.self hq
    · rw [hreserved (by decide) hx.isDir fun hf hc => (hne ⟨decide_eq_true hf, hc⟩).elim]
      exact hw.parent hx
  · intro x hx k hk hdead
    have hx := hrel.isDir_of_after hx
    by_cases hxd : x = d ∧ k = i
    · rw [hxd.1, hxd.2, hold]
    · have hxt : ¬ (x = t ∧ k = j) := by
        rintro ⟨rfl, rfl⟩
        rw [hnew] at hdead
        exact hdead hsrc.live
      rw [hentry hx hk hxt hxd] at hdead ⊢
      exact hw.dead hx k hk hdead
  · intro x hx k l hk hl hlk hll hkl
    have hx := hrel.isDir_of_after hx
    have hgone : ∀ {k : Fin 64}, (w'.fs.table x k).Live → ¬ (x = d ∧ k = i) := by
      rintro k hk ⟨rfl, rfl⟩
      rw [hold] at hk
      exact absurd hk (by decide)
    by_cases hkt : x = t ∧ k = j
    · obtain ⟨rfl, rfl⟩ := hkt
      by_contra hne
      have hlt : ¬ (x = x ∧ l = k) := fun h => hne h.2.symm
      have hslot := hentry hx hl hlt (hgone hll)
      rw [hslot] at hll hkl
      rw [hnew] at hkl
      exact hfree ⟨l, Ne.symm hne, hl, hll, hkl.name.symm, hkl.ext.symm, hkl.attr.symm⟩
    · have hslot := hentry hx hk hkt (hgone hlk)
      rw [hslot] at hlk hkl
      by_cases hlt : x = t ∧ l = j
      · obtain ⟨rfl, rfl⟩ := hlt
        rw [hnew] at hkl
        exact (hfree ⟨k, fun h => hkt ⟨rfl, h⟩, hk, hlk, hkl⟩).elim
      · have hslot := hentry hx hl hlt (hgone hll)
        rw [hslot] at hll hkl
        exact hw.distinct hx k l hk hl hlk hll hkl

lemma inPlace_wellFormed (hsrc : IsSource w src d i) (hself : movedEntry w.fs (w.fs.table d i) = w.fs.table d i)
    (htd : t = d) (hji : j = i) : w'.fs.WellFormed := by
  subst htd hji
  have hd := hsrc.isDir hw hs
  have hslot : ∀ {x : UInt32} {k : Fin 64}, w.fs.volume.IsDir x →
      ((w.fs.table t j).IsFolder → x = (w.fs.table t j).clusterNumber → k ≠ 1) →
      w'.fs.table x k = w.fs.table x k := by
    intro x k hx hown
    rw [htable x hx]
    by_cases hxk : x = t ∧ k = j
    · rw [hxk.1, hxk.2, transferred_target, hself]
    · exact transferred_other hxk (fun _ => hxk) hown
  have hkept : ∀ {x : UInt32} {k : Fin 64}, w.fs.volume.IsDir x → 2 ≤ k.val → w'.fs.table x k = w.fs.table x k :=
    fun hx hk => hslot hx fun _ _ => ne_one_of_slot hk
  have hsame : SameItems w.fs w'.fs :=
    ⟨fun x k hx hk => by rw [hkept hx hk], fun x k hx hk => by rw [hkept hx hk]⟩
  have hdir : ∀ {x p}, w'.fs.volume.Dir x p ↔ w.fs.volume.Dir x p :=
    Volume.dir_congr rfl fun x k hx => hsame.item_eq hx
  refine hret.wellFormed hw (hw.sound.congr rfl hret.link fun x k hx => hsame.item_eq hx) ?_ ?_ ?_ ?_
  · intro x p hx
    have hx := hdir.mp hx
    rw [hslot hx.isDir fun _ _ => by decide]
    exact hw.self hx
  · intro x p hx
    have hx := hdir.mp hx
    by_cases hown : (w.fs.table t j).IsFolder ∧ x = (w.fs.table t j).clusterNumber
    · -- The parent entry of the folder is written anew, with the self entry of the same directory.
      obtain ⟨hf, rfl⟩ := hown
      obtain ⟨q, hq⟩ := hd
      have hitem := item_of_live hsrc.slot hsrc.live
      have hct : (w.fs.table t j).clusterNumber ≠ t := hw.sound.head_ne hq.isDir hitem (decide_eq_true hf)
      obtain rfl : p = t := hw.sound.dir_parent_unique hx (.sub hq hitem (decide_eq_true hf))
      rw [htable _ hx.isDir, transferred, if_neg hct, if_neg hct, if_pos ⟨hf, rfl⟩, update_self]
      exact hw.self hq
    · rw [hslot hx.isDir fun hf hc => (hown ⟨hf, hc⟩).elim]
      exact hw.parent hx
  · intro x hx k hk hdead
    have hx := hsame.isDir_iff.mp hx
    rw [hkept hx hk] at hdead ⊢
    exact hw.dead hx k hk hdead
  · intro x hx k l hk hl hlk hll hkl
    have hx := hsame.isDir_iff.mp hx
    rw [hkept hx hk] at hlk hkl
    rw [hkept hx hl] at hll hkl
    exact hw.distinct hx k l hk hl hlk hll hkl

end Transfer

/-! ### The command -/

structure MvCareful (env : Env) (w : World) (src dest : Str) : Prop where
  safe : MvSafe env w src dest
  renamed : ∀ d i, IsSource w src d i → DestinationMissing w dest → ¬ Clashes (w.fs.table d) i
    { w.fs.table d i with name := padded 8 ((splitPath dest).last env.below) }
  moved : ∀ d i t j, IsSource w src d i → IsDestination w dest t → t ≠ d →
    ¬ Clashes (w.fs.table t) j (w.fs.table d i)

structure Keeps (fs fs' : FileSystem) (touched : UInt32 → Fin 64 → Prop) : Prop where
  wellFormed : fs'.WellFormed
  files : ∀ {d : UInt32} {s : Fin 64}, fs.volume.IsDir d → 2 ≤ s.val → (fs.table d s).Live →
    ¬ (fs.table d s).IsFolder → ¬ touched d s → FileKept fs fs' d s

lemma Retabled.fileKept (h : Retabled fs fs') (hw : fs.WellFormed) (hd : fs.volume.IsDir d) (hi : 2 ≤ i.val)
    (hlive : (fs.table d i).Live) (hfile : ¬ (fs.table d i).IsFolder) (hd' : fs'.volume.IsDir d)
    (he : fs'.table d i = fs.table d i) : FileKept fs fs' d i := by
  have hentry := And.intro hd (item_of_live hi hlive)
  obtain ⟨m, hchain, -, hu⟩ := hw.sound.chain hentry
  have hm : Chain fs.volume.link (fs.table d i).clusterNumber m := hchain
  have hm' : Chain fs'.volume.link (fs.table d i).clusterNumber m := h.link ▸ hm
  have hsame : ∀ c ∈ m, readClusters fs'.disk c = readClusters fs.disk c := by
    intro c hc
    have hlt := (hu c hc).lt
    refine h.outside c (by omega) fun hdir => ?_
    exact hfile (of_decide_eq_true (hw.sound.dir_in_chain hdir hentry hm hc).1)
  refine ⟨hd', he, m, hm, hm', hsame, fun t fuel hfuel => ?_⟩
  rw [readPartitions_eq hm' hu t hfuel, readPartitions_eq hm hu t hfuel, Transfer.copyAll_congr t hsame]

lemma Keeps.refl {T : UInt32 → Fin 64 → Prop} (hw : fs.WellFormed) : Keeps fs fs T :=
  ⟨hw, fun hd hi hlive hfile _ => (Retabled.refl fs).fileKept hw hd hi hlive hfile hd rfl⟩

lemma LosesNothing.dirs (h : LosesNothing env w src dest w') (hret : Retabled w.fs w'.fs)
    (hx : w.fs.volume.IsDir x) :
    w'.fs.volume.IsDir x := by
  by_cases hsrc : ∃ d i, IsSource w src d i
  · obtain ⟨d, i, hsrc⟩ := hsrc
    exact (h.others d i hsrc).dirs x hx
  · have hvolume : w'.fs.volume = w.fs.volume := by
      rw [volume, volume, hret.driver]
      exact congrArg (volumeOf _) (funext fun c => by rw [FileSystem.table, FileSystem.table, h.missing hsrc])
    rwa [hvolume]

lemma LosesNothing.keeps (h : LosesNothing env w src dest w') (hw : w.fs.WellFormed) (hret : Retabled w.fs w'.fs)
    (hw' : w'.fs.WellFormed) : Keeps w.fs w'.fs (IsSource w src) := by
  refine ⟨hw', fun {d} {s} hd hi hlive hfile hne => ?_⟩
  refine hret.fileKept hw hd hi hlive hfile (h.dirs hret hd) (h.kept hd hlive ?_)
  intro d' i' hsrc
  refine ⟨?_, not_ownEntry hi⟩
  rintro ⟨rfl, rfl⟩
  exact hne hsrc

section Command

variable (hw : w.fs.WellFormed) (hs : w.session.Settled w.fs)
include hw hs

lemma renameListed_kept {w₀ : World} (hfs : w₀.fs = w.fs) (hsession : w₀.session = (w.parsed src).session)
    (hsafe : RenameSafe env w src dest)
    (hfree : ∀ d i, IsSource w src d i → ¬ Clashes (w.fs.table d) i
      { w.fs.table d i with name := padded 8 ((splitPath dest).last env.below) })
    (h : renameListed (splitPath src) src ((splitPath dest).last env.below) w₀ = some w') :
    Retabled w.fs w'.fs ∧ w'.fs.WellFormed := by
  obtain ⟨c, w₁, hfs₁, hp, hfind⟩ := renameListed_spec h
  rw [hfs, hsession] at hp
  have hset := changePath_settled hw (parsed_settled hs src) hp
  have hfs₁ := hfs₁.trans hfs
  rw [hset.table] at hfind
  rcases hfind with ⟨-, hw'⟩ | ⟨i, hi, hw'⟩
  · rw [hw', hfs₁]
    exact ⟨.refl w.fs, hw⟩
  · have hret := renameEntry_retabled (hfs₁ ▸ hw) (hfs₁ ▸ hset) ((splitPath dest).last env.below) i
    rw [← hw', hfs₁] at hret
    refine ⟨hret, ?_⟩
    rw [hw']
    rcases hsafe c w₁.session i hp hi with hsrc | halready
    · have hfree := hfree _ _ hsrc
      have hlive := hsrc.live
      rw [← hfs₁] at hw hset hfree hlive
      exact renameEntry_wellFormed hw hset hsrc.slot hlive hfree
    · rw [← hfs₁] at hw hset halready
      rwa [renameEntry_already hw hset halready]

lemma moveListed_kept {w₀ : World} (hfs : w₀.fs = w.fs) (hsession : w₀.session = moveStart w src dest)
    (hsafe : MoveSafe env w src dest)
    (hfree : ∀ d i t j, IsSource w src d i → IsDestination w dest t → t ≠ d →
      ¬ Clashes (w.fs.table t) j (w.fs.table d i))
    (h : moveListed env (splitPath src) (splitPath dest) w₀ = some w') : Retabled w.fs w'.fs ∧
      w'.fs.WellFormed := by
  have hset := moveStart_settled hs src dest
  have hset₀ := hset
  rw [← hsession, ← hfs] at hset₀
  rcases moveListed_cases hset₀ h with ⟨hsame, -⟩ |
    ⟨c, s, i, t, j, source, w₁, w₂, hp, hi, ht, hj, hsource, hfs₁, hw', htr⟩
  · rw [hsame, hfs]
    exact ⟨.refl w.fs, hw⟩
  rw [hfs, hsession] at hp ht hsource
  obtain ⟨s', i', j', hfinds, hj', hsafe⟩ := hsafe t ht
  obtain ⟨rfl, rfl⟩ := outcome_unique hp hfinds.entered
  obtain rfl := Option.some.inj (hi.symm.trans hfinds.found)
  obtain rfl := Option.some.inj (hj.symm.trans hj')
  have hsrc := hsafe.source
  have hsets := changePath_settled hw hset hp
  have hsett := changePath_settled hw hset ht
  rw [hsets.table] at hsource hi htr
  rw [hsett.table] at hj htr
  have hfolder : (w.fs.table s.currentDirectory i).IsFolder → source =
      ⟨w.fs.table (w.fs.table s.currentDirectory i).clusterNumber,
        (w.fs.table s.currentDirectory i).clusterNumber⟩ := by
    intro hf
    obtain ⟨c', s', hall, rfl⟩ := hsource hf
    rw [hsrc.counted.all_eq env.below] at hall
    have hplain := hsrc.plain
    rw [← hsrc.counted.last_eq env.below] at hplain
    obtain ⟨hcluster, htab⟩ := changePath_folder hw hsets hp hplain hi hf hall
    rw [hcluster, htab]
  have hret := transferEntry_retabled (hfs₁.trans hfs) hw hsets.directory hsett.directory hsrc.slot hfolder htr
  have htable : ∀ x, w.fs.volume.IsDir x →
      w'.fs.table x = transferred w.fs s.currentDirectory i t.currentDirectory j x := by
    intro x hx
    rw [hw']
    exact transferEntry_table (hfs₁.trans hfs) hw hsets.directory hsett.directory hsrc.slot hfolder hj htr hx
  rw [← hw'] at hret
  have hself : movedEntry w.fs (w.fs.table s.currentDirectory i) = w.fs.table s.currentDirectory i := by
    unfold movedEntry
    split_ifs with hf
    · exact hsafe.self hf
    · rfl
  refine ⟨hret, ?_⟩
  by_cases htd : t.currentDirectory = s.currentDirectory
  · exact inPlace_wellFormed hw hs hret htable hsrc hself htd (hsafe.inPlace htd)
  · exact elsewhere_wellFormed hw hs hret htable hsrc hself hsett.directory (findFree_eq_some hj) htd
      (hsafe.vacant htd) (hsafe.outside htd) (hfree _ _ _ _ hsrc (hsafe.destination htd) htd)

lemma mv_keeps (hcare : MvCareful env w src dest) (h : mv env [src, dest] w = some w') :
    Keeps w.fs w'.fs (IsSource w src) ∧ ∀ x, w.fs.volume.IsDir x → w'.fs.volume.IsDir x := by
  have hfinish : LosesNothing env w src dest w' → Retabled w.fs w'.fs ∧ w'.fs.WellFormed →
      Keeps w.fs w'.fs (IsSource w src) ∧ ∀ x, w.fs.volume.IsDir x → w'.fs.volume.IsDir x := fun hlost hkept =>
    ⟨hlost.keeps hw hkept.1 hkept.2, fun x hx => hlost.dirs hkept.1 hx⟩
  rcases mv_cases hw hs h with ⟨-, -, hfs⟩ | ⟨w₀, hmiss, hdot, hfs, hsession, h⟩ | ⟨w₀, hmiss, hfs, hsession, h⟩
  · rw [hfs]
    exact ⟨.refl hw, fun x hx => hx⟩
  · have hsafe := hcare.safe.rename hmiss hdot
    exact hfinish (renameListed_losesNothing hw hs hfs hsession hmiss hsafe h)
      (renameListed_kept hw hs hfs hsession hsafe (fun d i hsrc => hcare.renamed d i hsrc hmiss) h)
  · have hsafe := hcare.safe.move hmiss
    exact hfinish (moveListed_losesNothing hw hs hfs hsession hsafe h)
      (moveListed_kept hw hs hfs hsession hsafe hcare.moved h)

end Command

end Semogakelar.Shell
