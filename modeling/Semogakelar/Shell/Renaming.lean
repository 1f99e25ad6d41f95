import Semogakelar.Shell.Relocation

/-! The renaming branch of `mv`. -/

namespace Semogakelar.Shell

open Library Fat32 FileSystem Function

variable {env : Env} {w w' : World} {src dest : Str} {fs fs' : FileSystem} {d t x : UInt32} {i j k : Fin 64}
  {e : DirectoryEntry}

@[simp] lemma withName_other {table : DirectoryTable} {newName : Str} (h : k ≠ i) :
    withName table i newName k = table k :=
  update_of_ne h _ _

@[simp] lemma withName_self (table : DirectoryTable) (i : Fin 64) (newName : Str) :
    withName table i newName i = { table i with name := padded 8 newName } := update_self _ _ _

lemma withName_same {table : DirectoryTable} {newName : Str} (h : (table i).name = padded 8 newName) :
    withName table i newName = table := by
  rw [withName, ← h]
  exact update_eq_self i table

lemma writeTable_same (w : World) (c : UInt32) : w.writeTable c (w.fs.table c) = w := by
  rw [World.writeTable, FileSystem.table, Equiv.symm_apply_apply, write_read_self]

lemma names_settled (hw : fs.WellFormed) (hd : fs.volume.IsDir d) (hi : i.val < 2) :
    (fs.table d i).Live ∧ fs.volume.IsDir (fs.table d i).clusterNumber := by
  obtain ⟨p, hd⟩ := hd
  rcases (by omega : i.val = 0 ∨ i.val = 1) with hi | hi
  · obtain rfl : i = 0 := Fin.ext hi
    rw [(hw.self hd).cluster]
    exact ⟨(hw.self hd).live, hd.isDir⟩
  · obtain rfl : i = 1 := Fin.ext hi
    rw [(hw.parent hd).cluster]
    exact ⟨(hw.parent hd).live, hd.parent_isDir⟩

lemma folder_isDir (hw : fs.WellFormed) (hd : fs.volume.IsDir d) (hf : (fs.table d i).IsFolder) :
    fs.volume.IsDir (fs.table d i).clusterNumber := by
  by_cases hi : 2 ≤ i.val
  · exact (folder_settled hw hd hi hf).1.isDir
  · exact (names_settled hw hd (by omega)).2

lemma renameEntry_table (hw : w.fs.WellFormed) (hs : w.session.Settled w.fs) (newName : Str)
    (hx : w.fs.volume.IsDir x) : (renameEntry newName i w).fs.table x =
      if (w.fs.table w.session.currentDirectory i).IsFolder ∧
        x = (w.fs.table w.session.currentDirectory i).clusterNumber
      then withName (update w.fs.table w.session.currentDirectory
        (withName (w.fs.table w.session.currentDirectory) i newName) x) 0 newName
      else update w.fs.table w.session.currentDirectory
        (withName (w.fs.table w.session.currentDirectory) i newName) x := by
  have hd := hw.dir_lt_device hs.directory
  have hx' := hw.dir_lt_device hx
  have hattr : (withName (w.fs.table w.session.currentDirectory) i newName i).attr =
      (w.fs.table w.session.currentDirectory i).attr := by simp
  have hlow : (withName (w.fs.table w.session.currentDirectory) i newName i).clusterLow =
      (w.fs.table w.session.currentDirectory i).clusterLow := by simp
  unfold renameEntry
  dsimp only
  rw [hs.table, hattr, hlow]
  by_cases hf : (w.fs.table w.session.currentDirectory i).IsFolder
  · have hsub : (w.fs.table w.session.currentDirectory i).attr = attrSubdirectory := hf
    have hc := hw.dir_lt (folder_isDir hw hs.directory hf)
    rw [if_pos hsub, clusterLow_eq (by omega), writeTable_table (by omega) hx', writeTable_table hd (by omega)]
    by_cases hxc : x = (w.fs.table w.session.currentDirectory i).clusterNumber
    · rw [if_pos ⟨hf, hxc⟩, ← hxc, update_self]
    · rw [if_neg fun h => hxc h.2, update_of_ne hxc, writeTable_table hd hx']
  · have hsub : ¬ (w.fs.table w.session.currentDirectory i).attr = attrSubdirectory := hf
    rw [if_neg hsub, if_neg fun h => hf h.1, writeTable_table hd hx']

lemma renameEntry_sameItems (hw : w.fs.WellFormed) (hs : w.session.Settled w.fs) (newName : Str) :
    SameItems w.fs (renameEntry newName i w).fs := by
  have hslot : ∀ x k, w.fs.volume.IsDir x → 2 ≤ k.val →
      (renameEntry newName i w).fs.table x k = w.fs.table x k ∨
        (renameEntry newName i w).fs.table x k = { w.fs.table x k with name := padded 8 newName } := by
    intro x k hx hk
    have hk0 : k ≠ 0 := by
      rintro rfl
      exact absurd hk (by decide)
    have hfirst : (renameEntry newName i w).fs.table x k = update w.fs.table w.session.currentDirectory
        (withName (w.fs.table w.session.currentDirectory) i newName) x k := by
      rw [renameEntry_table hw hs newName hx]
      split_ifs
      · exact withName_other hk0
      · rfl
    rw [hfirst]
    by_cases hxd : x = w.session.currentDirectory
    · subst hxd
      rw [update_self]
      by_cases hki : k = i
      · subst hki
        exact .inr (withName_self _ _ _)
      · exact .inl (withName_other hki)
    · rw [update_of_ne hxd]
      exact .inl rfl
  constructor
  · intro x k hx hk
    rcases hslot x k hx hk with h | h
    · rw [h]
    · rw [h]
      exact Iff.rfl
  · intro x k hx hk
    rcases hslot x k hx hk with h | h
    · rw [h]
    · rw [h]
      rfl

lemma renameEntry_losesNothing (w₁ : World) (hw : w.fs.WellFormed) (hfs : w₁.fs = w.fs)
    (hs : w₁.session.Settled w.fs) (hmiss : DestinationMissing w dest)
    (hsrc : IsSource w src w₁.session.currentDirectory i)
    (hw' : w'.fs = (renameEntry ((splitPath dest).last env.below) i w₁).fs) : LosesNothing env w src dest w' := by
  have hdir := hs.directory
  have hne : (w.fs.table w₁.session.currentDirectory i).IsFolder →
      w₁.session.currentDirectory ≠ (w.fs.table w₁.session.currentDirectory i).clusterNumber := fun hf =>
    (hw.sound.head_ne hdir (item_of_live hsrc.slot hsrc.live) (decide_eq_true hf)).symm
  have hsame : SameItems w.fs w'.fs := by
    rw [hw', ← hfs]
    exact renameEntry_sameItems (hfs ▸ hw) (hfs ▸ hs) _
  have htable := fun x hx => renameEntry_table (x := x) (i := i) (hfs ▸ hw) (hfs ▸ hs)
    ((splitPath dest).last env.below) hx
  rw [← hw', hfs] at htable
  apply losesNothing_of_source hsrc
  · refine ⟨fun x hx => hsame.isDir_iff.mpr hx, fun x k hx _ hk hown => ?_⟩
    rw [htable x hx]
    split_ifs with hc
    · have hxd : x ≠ w₁.session.currentDirectory := fun hxd => hne hc.1 (hxd.symm.trans hc.2)
      rw [withName_other fun hk0 => hown ⟨hc.1, hc.2, .inr ⟨hk0, hmiss⟩⟩, update_of_ne hxd]
    · by_cases hxd : x = w₁.session.currentDirectory
      · rw [hxd, update_self, withName_other fun hki => hk ⟨hxd, hki⟩]
      · rw [update_of_ne hxd]
  · have hentry : w'.fs.table w₁.session.currentDirectory i =
        { w.fs.table w₁.session.currentDirectory i with name := padded 8 ((splitPath dest).last env.below) } := by
      rw [htable _ hdir, if_neg fun hc => hne hc.1 hc.2, update_self, withName_self]
    refine ⟨_, i, _, .renamed hmiss, ?_⟩
    rw [← hentry]
    exact hsame.listedOnce hw hdir hsrc.slot hsrc.live

lemma renameEntry_already (hw : w.fs.WellFormed) (hs : w.session.Settled w.fs) {newName : Str}
    (h : AlreadyNamed w.fs w.session.currentDirectory i newName) : (renameEntry newName i w).fs = w.fs := by
  have hwrite : w.writeTable w.session.currentDirectory (w.fs.table w.session.currentDirectory) = w :=
    writeTable_same w _
  unfold renameEntry
  dsimp only
  rw [hs.table, withName_same h.entry, hwrite]
  split_ifs with hsub
  · have hf : (w.fs.table w.session.currentDirectory i).IsFolder := hsub
    have hc := hw.dir_lt (folder_isDir hw hs.directory hf)
    rw [clusterLow_eq (by omega), withName_same (h.folder hf), writeTable_same]
  · rfl

lemma renameListed_spec {path : Path} {arg newName : Str} (h : renameListed path arg newName w = some w') :
    ∃ c w₁, w₁.fs = w.fs ∧ w.session.changePath w.fs path.parents = some (c, w₁.session) ∧
      ((findName w₁.session.currentDirTable 0 (padded 8 arg) = none ∧ w'.fs = w₁.fs) ∨
        ∃ i, findName w₁.session.currentDirTable 0 (padded 8 arg) = some i ∧
          w'.fs = (renameEntry newName i w₁).fs) := by
  obtain ⟨⟨_, w₁⟩, hc, rfl⟩ := Option.map_eq_some_iff.mp h
  obtain ⟨⟨c, s⟩, hp, he⟩ := Option.map_eq_some_iff.mp hc
  obtain ⟨-, rfl⟩ := Prod.mk.inj he
  refine ⟨c, { w.resolving path with session := s }, rfl, hp, ?_⟩
  cases findName s.currentDirTable 0 (padded 8 arg) with
  | none => exact .inl ⟨rfl, rfl⟩
  | some i => exact .inr ⟨i, rfl, rfl⟩

lemma renameListed_losesNothing {w₀ : World} (hw : w.fs.WellFormed) (hs : w.session.Settled w.fs)
    (hfs : w₀.fs = w.fs) (hsession : w₀.session = (w.parsed src).session) (hmiss : DestinationMissing w dest)
    (hsafe : RenameSafe env w src dest)
    (h : renameListed (splitPath src) src ((splitPath dest).last env.below) w₀ = some w') :
    LosesNothing env w src dest w' := by
  obtain ⟨c, w₁, hfs₁, hp, hfind⟩ := renameListed_spec h
  rw [hfs, hsession] at hp
  have hset := changePath_settled hw (parsed_settled hs src) hp
  have hfs₁ := hfs₁.trans hfs
  rw [hset.table] at hfind
  rcases hfind with ⟨-, hw'⟩ | ⟨i, hi, hw'⟩
  · exact losesNothing_of_fs hw hs (hw'.trans hfs₁)
  · rcases hsafe c w₁.session i hp hi with hsrc | halready
    · exact renameEntry_losesNothing w₁ hw hfs₁ hset hmiss hsrc hw'
    · apply losesNothing_of_fs hw hs
      rw [← hfs₁] at hw hset halready
      rw [hw', renameEntry_already hw hset halready, hfs₁]

end Semogakelar.Shell
