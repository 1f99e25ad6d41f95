import Semogakelar.Fat32.Format
import Semogakelar.Memory.Allocator
import Semogakelar.Shell.Mv

/-! Where the commands leave the shell, and from where they resolve their arguments. -/

namespace Semogakelar.Shell

open Fat32 Process

variable {env : Env} {w w₁ w₂ w' : World} {path : Path} {names : List Str} {arg src dest : Str} {code : ℤ}

structure Unmoved (w w' : World) : Prop where
  directory : w'.session.currentDirectory = w.session.currentDirectory
  path : w'.session.currentPath = w.session.currentPath
  resolved : ∃ l, w'.resolutions = w.resolutions ++ l ∧
    ∀ r ∈ l, r.path.absolute = false → r.start = w.session.currentDirectory

namespace Unmoved

lemma of_same (hd : w'.session.currentDirectory = w.session.currentDirectory)
    (hp : w'.session.currentPath = w.session.currentPath) (hr : w'.resolutions = w.resolutions) : Unmoved w w' :=
  ⟨hd, hp, [], by rw [hr, List.append_nil], fun _ hr => nomatch hr⟩

lemma refl (w : World) : Unmoved w w := .of_same rfl rfl rfl

lemma trans (h₁ : Unmoved w w₁) (h₂ : Unmoved w₁ w₂) : Unmoved w w₂ := by
  obtain ⟨l₁, hl₁, hr₁⟩ := h₁.resolved
  obtain ⟨l₂, hl₂, hr₂⟩ := h₂.resolved
  refine ⟨h₂.directory.trans h₁.directory, h₂.path.trans h₁.path, l₁ ++ l₂, ?_, ?_⟩
  · rw [hl₂, hl₁, List.append_assoc]
  · intro r hr ha
    rcases List.mem_append.mp hr with hr | hr
    · exact hr₁ r hr ha
    · exact (hr₂ r hr ha).trans h₁.directory

lemma of_resolution {start : UInt32} (hd : w'.session.currentDirectory = w.session.currentDirectory)
    (hp : w'.session.currentPath = w.session.currentPath) (hr : w'.resolutions = w.resolutions ++ [⟨path, start⟩])
    (hs : path.absolute = false → start = w.session.currentDirectory) : Unmoved w w' := by
  refine ⟨hd, hp, [⟨path, start⟩], hr, ?_⟩
  intro r hr ha
  obtain rfl := List.mem_singleton.mp hr
  exact hs ha

end Unmoved

lemma outcome_unique {o : Option (ℤ × Session)} {c c' : ℤ} {s s' : Session} (h : o = some (c, s))
    (h' : o = some (c', s')) : c = c' ∧ s = s' := Prod.mk.inj (Option.some.inj (h.symm.trans h'))

lemma changePath_resolutions (h : w.changePath path names = some (code, w')) :
    w'.resolutions = w.resolutions ++ [⟨path, w.session.currentDirectory⟩] := by
  obtain ⟨r, -, he⟩ := Option.map_eq_some_iff.mp h
  cases he
  rfl

lemma changePathMv_resolutions (h : w.changePathMv path names = some (code, w')) :
    w'.resolutions = w.resolutions ++ [⟨path, w.session.currentDirectory⟩] := by
  obtain ⟨r, -, he⟩ := Option.map_eq_some_iff.mp h
  cases he
  rfl

lemma unmoved_cancel (h : w'.resolutions = w.resolutions ++ [⟨path, w.session.currentDirectory⟩]) :
    Unmoved w (w'.cancelChangePath w.session.currentDirectory w.session.currentPath) := by
  apply Unmoved.of_resolution
  · rfl
  · rfl
  · exact h
  · intro _
    rfl

lemma store_returned {o : Outcome FileSystem ℤ} (h : w.store o = some (code, w')) :
    ∃ fs, o = .returned code fs ∧ w' = { w with fs := fs } := by
  cases o with
  | returned retVal fs =>
    cases h
    exact ⟨fs, rfl, rfl⟩
  | outside _ => cases h
  | running _ => cases h

lemma store_resolutions {o : Outcome FileSystem ℤ} (h : w.store o = some (code, w')) :
    w'.resolutions = w.resolutions := by
  obtain ⟨fs, -, rfl⟩ := store_returned h
  rfl

lemma writeTo_unmoved {name : Str} {buf : ℕ → UInt8} {bufferSize : UInt32} {isDirectory : Bool}
    (h : writeTo env name path buf bufferSize isDirectory w = some (code, w')) : Unmoved w w' := by
  obtain ⟨⟨retVal, w₁⟩, hc, h⟩ := Option.bind_eq_some_iff.mp h
  dsimp only at h
  split_ifs at h with hr
  · cases h
    exact unmoved_cancel (changePath_resolutions hc)
  all_goals
    obtain ⟨⟨_, w₂⟩, hs, h⟩ := Option.bind_eq_some_iff.mp h
    cases h
    exact unmoved_cancel ((store_resolutions hs).trans (changePath_resolutions hc))

lemma readFile_unmoved {buffer : ℕ → UInt8} (h : readFile env path w = some (code, buffer, w')) :
    Unmoved w w' := by
  obtain ⟨⟨retVal, w₁⟩, hc, h⟩ := Option.bind_eq_some_iff.mp h
  dsimp only at h
  split_ifs at h with hr hn
  · cases h
    exact unmoved_cancel (changePath_resolutions hc)
  · cases h
    exact unmoved_cancel (changePath_resolutions hc)
  · split at h
    · cases h
      exact unmoved_cancel (changePath_resolutions hc)
    · cases h
    · cases h

lemma createDirectory_unmoved (h : createDirectory env path w = some w') : Unmoved w w' := by
  unfold createDirectory at h
  split_ifs at h with hd
  · cases h
    exact .refl w
  · obtain ⟨⟨_, w₁⟩, hw, rfl⟩ := Option.map_eq_some_iff.mp h
    exact writeTo_unmoved hw

lemma copyFile_unmoved {filePath destPath : Path} (h : copyFile env filePath destPath w = some w') :
    Unmoved w w' := by
  obtain ⟨⟨retVal, buffer, w₁⟩, hf, h⟩ := Option.bind_eq_some_iff.mp h
  dsimp only at h
  split_ifs at h with hr
  · cases h
    exact readFile_unmoved hf
  · obtain ⟨⟨_, w₂⟩, hw, h⟩ := Option.bind_eq_some_iff.mp h
    cases h
    exact (readFile_unmoved hf).trans (writeTo_unmoved hw)

lemma renameEntry_resolutions (newName : Str) (i : Fin 64) (w : World) :
    (renameEntry newName i w).resolutions = w.resolutions := by
  unfold renameEntry
  dsimp only
  split_ifs <;> rfl

lemma renameListed_unmoved {newName : Str} (h : renameListed path arg newName w = some w') : Unmoved w w' := by
  obtain ⟨⟨_, w₁⟩, hc, rfl⟩ := Option.map_eq_some_iff.mp h
  apply unmoved_cancel
  rw [← changePath_resolutions hc]
  cases findName w₁.session.currentDirTable 0 (padded 8 arg) with
  | none => rfl
  | some i => exact renameEntry_resolutions newName i w₁

lemma locateParent_unmoved {l : Located} (h : locateParent path w = some (l, w')) : Unmoved w w' := by
  unfold locateParent at h
  split_ifs at h with hn
  · cases h
    exact .of_resolution rfl rfl rfl fun _ => rfl
  · obtain ⟨⟨_, w₁⟩, hc, he⟩ := Option.map_eq_some_iff.mp h
    cases he
    exact unmoved_cancel (changePath_resolutions hc)

lemma locate_unmoved {l : Located} (h : locate path w = some (code, l, w')) : Unmoved w w' := by
  obtain ⟨⟨_, w₁⟩, hc, he⟩ := Option.map_eq_some_iff.mp h
  cases he
  exact unmoved_cancel (changePath_resolutions hc)

lemma transferEntry_unmoved {parentSrc dest src : Located} {isfile : Bool} {idx : Option (Fin 64)}
    (h : transferEntry parentSrc dest src isfile idx w = some w') : Unmoved w w' := by
  obtain ⟨i, -, h⟩ := Option.bind_eq_some_iff.mp h
  obtain ⟨j, -, h⟩ := Option.bind_eq_some_iff.mp h
  cases isfile
  all_goals
    cases h
    exact .of_same rfl rfl rfl

lemma placeEntry_unmoved {parentSrc dest src : Located} {isfile : Bool} {idx : Option (Fin 64)}
    (h : placeEntry parentSrc dest src isfile idx w = some w') : Unmoved w w' := by
  unfold placeEntry at h
  split_ifs at h with hf
  · cases h
    exact .refl w
  · exact transferEntry_unmoved h

lemma locateSource_unmoved {isfile : Bool} {l : Located} (h : locateSource isfile path w = some (l, w')) :
    Unmoved w w' := by
  unfold locateSource at h
  split_ifs at h with hf
  · cases h
    exact .refl w
  · obtain ⟨⟨_, _, _⟩, hl, he⟩ := Option.map_eq_some_iff.mp h
    cases he
    exact locate_unmoved hl

lemma moveListed_unmoved {srcPath destPath : Path} (h : moveListed env srcPath destPath w = some w') :
    Unmoved w w' := by
  obtain ⟨⟨parentSrc, w₁⟩, hp, h⟩ := Option.bind_eq_some_iff.mp h
  dsimp only at h
  obtain ⟨⟨source, w₂⟩, hs, h⟩ := Option.bind_eq_some_iff.mp h
  obtain ⟨⟨ret, target, w₃⟩, hd, h⟩ := Option.bind_eq_some_iff.mp h
  have hback := ((locateParent_unmoved hp).trans (locateSource_unmoved hs)).trans (locate_unmoved hd)
  dsimp only at h
  split_ifs at h with hr
  · cases h
    exact hback
  · obtain ⟨w₄, ht, h⟩ := Option.bind_eq_some_iff.mp h
    cases h
    exact (hback.trans (placeEntry_unmoved ht)).trans (.of_same rfl rfl rfl)

/-! ### The condition -/

def World.AtRoot (w : World) : Prop :=
  w.session.currentDirectory = rootClusterNumber ∧ w.session.currentPath = rootPath

def Stays (w : World) (arg : Str) : Prop := isAbsolute arg = false ∨ w.AtRoot

def CdSucceeds (w : World) (arg : Str) : Prop :=
  ∃ s, (w.parsed arg).session.changePath w.fs (splitPath arg).all = some (0, s)

def Enters (w : World) (arg : Str) (s : Session) : Prop :=
  (w.parsed arg).session.changePath w.fs (splitPath arg).parents = some (0, s)

/-- `exec` does not come back from the directory of its program, so that has to be the directory where
the shell is. -/
structure LeadsBack (w : World) (arg : Str) : Prop where
  entered : ∀ s, Enters w arg s →
    s.currentDirectory = w.session.currentDirectory ∧ s.currentPath = w.session.currentPath
  failed : (¬ ∃ s, Enters w arg s) → Stays w arg

def DestinationMissing (w : World) (dest : Str) : Prop :=
  ∃ s, (w.parsed dest).session.changePathMv w.fs (splitPath dest).all = some (2, s)

def Renames (env : Env) (w : World) (dest : Str) : Prop :=
  (w.fs.table w.session.currentDirectory 0).clusterLow.toUInt32 = w.session.currentDirectory ∧
    containsInvalidChar ((splitPath dest).last env.below) dot = false

def KeepsPlace (env : Env) (w : World) : Command → List Str → Prop
  | .cd, [arg] => Stays w arg
  | .mkdir, [arg] => Stays w arg
  | .cat, [arg] => Stays w arg
  | .cp, [src, dest] => Stays w src ∧ Stays w dest
  | .mv, [src, dest] => (DestinationMissing w dest → Renames env w dest → Stays w src) ∧
      (¬ DestinationMissing w dest → Stays w src ∧ Stays w dest)
  | .exec, [arg] => LeadsBack w arg
  | _, _ => True

lemma parsed_relative (h : isAbsolute arg = false) : (w.parsed arg) = w := by
  rw [World.parsed, if_neg (by rw [h]; decide)]

lemma parsed_absolute (h : isAbsolute arg = true) :
    (w.parsed arg) = { w with session := .toRoot w.fs } := if_pos h

lemma parsed_resolutions (arg : Str) (w : World) : (w.parsed arg).resolutions = w.resolutions := by
  cases h : isAbsolute arg with
  | false => rw [parsed_relative h]
  | true => rw [parsed_absolute h]

@[simp] lemma parsed_fs (arg : Str) (w : World) : (w.parsed arg).fs = w.fs := by
  cases h : isAbsolute arg with
  | false => rw [parsed_relative h]
  | true => rw [parsed_absolute h]

lemma unmoved_parsed : Unmoved w (w.parsed arg) ↔ Stays w arg := by
  cases h : isAbsolute arg with
  | false =>
    rw [parsed_relative h]
    exact iff_of_true (.refl w) (.inl h)
  | true =>
    rw [parsed_absolute h]
    constructor
    · intro hu
      exact .inr ⟨hu.directory.symm, hu.path.symm⟩
    · rintro (hr | ⟨hd, hp⟩)
      · rw [hr] at h
        cases h
      · exact .of_same hd.symm hp.symm rfl

lemma Stays.congr (h : Unmoved w w₁) : Stays w₁ arg ↔ Stays w arg := by
  unfold Stays World.AtRoot
  rw [h.directory, h.path]

lemma unmoved_iff_jump (h₁ : Unmoved w w₁) (hr : w₂.resolutions = w₁.resolutions) (h₂ : Unmoved w₂ w') :
    Unmoved w w' ↔ Unmoved w₁ w₂ := by
  constructor
  · intro h
    apply Unmoved.of_same
    · rw [← h₂.directory, h.directory, h₁.directory]
    · rw [← h₂.path, h.path, h₁.path]
    · exact hr
  · intro h
    exact (h₁.trans h).trans h₂

lemma unmoved_iff_parse (h₁ : Unmoved w w₁) (h₂ : Unmoved (w₁.parsed arg) w') : Unmoved w w' ↔ Stays w arg := by
  rw [unmoved_iff_jump h₁ (parsed_resolutions arg w₁) h₂, unmoved_parsed, Stays.congr h₁]

lemma unmoved_iff_parse_two (h₁ : Unmoved w w₁) (h₂ : Unmoved ((w₁.parsed src).parsed dest) w') :
    Unmoved w w' ↔ Stays w src ∧ Stays w dest := by
  have hr := (parsed_resolutions dest (w₁.parsed src)).trans (parsed_resolutions src w₁)
  rw [unmoved_iff_jump h₁ hr h₂, ← Stays.congr h₁, ← Stays.congr h₁]
  cases hs : isAbsolute src with
  | false =>
    rw [parsed_relative hs, unmoved_parsed]
    exact (and_iff_right (.inl hs)).symm
  | true =>
    have hroot : Unmoved (w₁.parsed src) ((w₁.parsed src).parsed dest) := by
      apply unmoved_parsed.mpr
      rw [parsed_absolute hs]
      exact .inr ⟨rfl, rfl⟩
    rw [unmoved_iff_jump (.refl w₁) (parsed_resolutions src w₁) hroot, unmoved_parsed, iff_self_and]
    rintro (hrel | hat)
    · rw [hrel] at hs
      cases hs
    · exact .inr hat

/-! ### The commands -/

lemma changePath_failed {fs : FileSystem} {s s' : Session} (h : s.changePath fs names = some (code, s'))
    (hc : code ≠ 0) : s' = s := by
  unfold Session.changePath at h
  split_ifs at h with hn
  · cases h
    rfl
  · obtain ⟨r, -, he⟩ := Option.map_eq_some_iff.mp h
    cases he
    exact if_neg hc

lemma cd_unmoved_iff (hcd : ¬ CdSucceeds w arg) (h : cd [arg] w = some w') : Unmoved w w' ↔ Stays w arg := by
  obtain ⟨⟨_, _⟩, hc, rfl⟩ := Option.map_eq_some_iff.mp h
  obtain ⟨⟨c, s⟩, hs, he⟩ := Option.map_eq_some_iff.mp hc
  rw [parsed_fs] at hs
  have hfailed : c ≠ 0 := by
    rintro rfl
    exact hcd ⟨s, hs⟩
  obtain rfl := changePath_failed hs hfailed
  cases he
  exact unmoved_iff_parse (.refl w) (.of_resolution rfl rfl rfl fun _ => rfl)

lemma rm_unmoved (h : rm env [arg] w = some w') : Unmoved w w' := by
  obtain ⟨⟨retVal, w₁⟩, hc, h⟩ := Option.bind_eq_some_iff.mp h
  have hres := changePath_resolutions hc
  rw [parsed_resolutions] at hres
  have hstart : (splitPath arg).absolute = false →
      (w.parsed arg).session.currentDirectory = w.session.currentDirectory := by
    intro hrel
    rw [parsed_relative hrel]
  dsimp only at h
  split_ifs at h with hr
  · cases h
    exact .of_resolution rfl rfl hres hstart
  · obtain ⟨⟨_, w₂⟩, hs, h⟩ := Option.bind_eq_some_iff.mp h
    cases h
    exact .of_resolution rfl rfl ((store_resolutions hs).trans hres) hstart

lemma executeProgram_session (h : executeProgram env path w = some w') :
    ∃ c, w.session.changePath w.fs path.parents = some (c, w'.session) ∧
      w'.resolutions = w.resolutions ++ [⟨path, w.session.currentDirectory⟩] := by
  obtain ⟨⟨c, w₁⟩, hc, h⟩ := Option.bind_eq_some_iff.mp h
  have hres := changePath_resolutions hc
  obtain ⟨⟨c, s⟩, hs, he⟩ := Option.map_eq_some_iff.mp hc
  cases he
  refine ⟨c, ?_⟩
  dsimp only at h
  split_ifs at h with hr hn
  · cases h
    exact ⟨hs, hres⟩
  · cases h
    exact ⟨hs, hres⟩
  · obtain ⟨⟨_, kernel⟩, -, h⟩ := Option.bind_eq_some_iff.mp h
    cases h
    exact ⟨hs, hres⟩

lemma exec_unmoved_iff (h : exec env [arg] w = some w') : Unmoved w w' ↔ LeadsBack w arg := by
  obtain ⟨c, hs, hres⟩ := executeProgram_session h
  rw [parsed_fs] at hs
  by_cases hc : c = 0
  · subst hc
    constructor
    · intro hu
      refine ⟨fun s he => ?_, fun hn => (hn ⟨_, hs⟩).elim⟩
      obtain rfl := (outcome_unique he hs).2
      exact ⟨hu.directory, hu.path⟩
    · intro hl
      obtain ⟨hd, hp⟩ := hl.entered _ hs
      rw [parsed_resolutions] at hres
      apply Unmoved.of_resolution hd hp hres
      intro hrel
      rw [parsed_relative hrel]
  · have hsame := changePath_failed hs hc
    have hback : Unmoved (w.parsed arg) w' :=
      .of_resolution (congrArg _ hsame) (congrArg _ hsame) hres fun _ => rfl
    rw [unmoved_iff_parse (.refl w) hback]
    have hnot : ¬ ∃ s, Enters w arg s := by
      rintro ⟨s, he⟩
      exact hc (outcome_unique hs he).1
    exact ⟨fun hst => ⟨fun s he => (hnot ⟨s, he⟩).elim, fun _ => hst⟩, fun hl => hl.failed hnot⟩

lemma probe_spec (h : probe dest w = some (code, w₁)) :
    w₁.fs = w.fs ∧ w₁.session = .cancelChangePath w.fs w.session.currentDirectory w.session.currentPath ∧
      Unmoved w w₁ ∧ ∃ s, (w.parsed dest).session.changePathMv w.fs (splitPath dest).all = some (code, s) := by
  obtain ⟨⟨ret, w₂⟩, hc, he⟩ := Option.map_eq_some_iff.mp h
  have hres := changePathMv_resolutions hc
  rw [parsed_resolutions] at hres
  obtain ⟨⟨c, s⟩, hs, hw₂⟩ := Option.map_eq_some_iff.mp hc
  rw [parsed_fs] at hs
  cases hw₂
  cases he
  refine ⟨parsed_fs dest w, ?_, ?_, s, hs⟩
  · exact congrArg (fun fs => Session.cancelChangePath fs _ _) (parsed_fs dest w)
  · refine Unmoved.of_resolution ?_ ?_ hres ?_
    · rfl
    · rfl
    · intro hrel
      rw [parsed_relative hrel]

lemma mv_unmoved_iff (h : mv env [src, dest] w = some w') :
    Unmoved w w' ↔ (DestinationMissing w dest → Renames env w dest → Stays w src) ∧
      (¬ DestinationMissing w dest → Stays w src ∧ Stays w dest) := by
  obtain ⟨⟨ret, w₁⟩, hp, h⟩ := Option.bind_eq_some_iff.mp h
  obtain ⟨-, hsession, hback, s, hs⟩ := probe_spec hp
  have htable : w₁.session.currentDirTable = w.fs.table w.session.currentDirectory := by
    rw [hsession]
    rfl
  dsimp only at h
  rw [htable] at h
  have hmissing : DestinationMissing w dest ↔ ret = 2 := by
    constructor
    · rintro ⟨s', hs'⟩
      exact (outcome_unique hs hs').1
    · rintro rfl
      exact ⟨s, hs⟩
  rw [hmissing]
  by_cases hret : ret = 2
  · rw [if_pos hret] at h
    suffices hu : Unmoved w w' ↔ (Renames env w dest → Stays w src) by
      simpa [hret] using hu
    by_cases hl : (w.fs.table w.session.currentDirectory 0).clusterLow.toUInt32 = w.session.currentDirectory
    · rw [if_pos hl] at h
      unfold rename at h
      split_ifs at h with hn
      · cases h
        refine iff_of_true hback fun hren => ?_
        rw [hren.2] at hn
        cases hn
      · rw [unmoved_iff_parse hback (renameListed_unmoved h)]
        have hren : Renames env w dest := ⟨hl, Bool.eq_false_iff.mpr hn⟩
        exact ⟨fun hst _ => hst, fun hst => hst hren⟩
    · rw [if_neg hl] at h
      cases h
      exact iff_of_true hback fun hren => (hl hren.1).elim
  · rw [if_neg hret] at h
    suffices hu : Unmoved w w' ↔ Stays w src ∧ Stays w dest by
      simpa [hret] using hu
    rw [and_comm]
    exact unmoved_iff_parse_two hback (moveListed_unmoved h)

lemma find_world {args : List Str} {tracked : List UInt32}
    (h : find env args w = some (tracked, w')) : w' = w := by
  unfold find at h
  split at h
  · obtain ⟨_, -, he⟩ := Option.map_eq_some_iff.mp h
    exact (Prod.mk.inj he).2.symm
  · exact (Prod.mk.inj (Option.some.inj h)).2.symm

lemma unmoved_of_some (h : some w = some w') : Unmoved w w' ↔ True := by
  cases h
  exact iff_of_true (.refl w) trivial

theorem run_unmoved_iff (env : Env) (command : Command) (args : List Str) (w w' : World)
    (hcd : ∀ arg, command = .cd → args = [arg] → ¬ CdSucceeds w arg) (h : run env command args w = some w') :
    Unmoved w w' ↔ KeepsPlace env w command args := by
  cases command with
  | cd =>
    match args, h with
    | [arg], h => exact cd_unmoved_iff (hcd arg rfl rfl) h
    | [], h | _ :: _ :: _, h => exact unmoved_of_some h
  | ls =>
    cases h
    cases args <;> exact iff_of_true (.refl w) trivial
  | mkdir =>
    match args, h with
    | [arg], h => exact unmoved_iff_parse (.refl w) (createDirectory_unmoved h)
    | [], h | _ :: _ :: _, h => exact unmoved_of_some h
  | cat =>
    match args, h with
    | [arg], h =>
      obtain ⟨⟨_, _, _⟩, hf, rfl⟩ := Option.map_eq_some_iff.mp h
      exact unmoved_iff_parse (.refl w) (readFile_unmoved hf)
    | [], h | _ :: _ :: _, h => exact unmoved_of_some h
  | cp =>
    match args, h with
    | [src, dest], h => exact unmoved_iff_parse_two (.refl w) (copyFile_unmoved h)
    | [], h | [_], h | _ :: _ :: _ :: _, h => exact unmoved_of_some h
  | rm =>
    match args, h with
    | [arg], h => exact iff_of_true (rm_unmoved h) trivial
    | [], h | _ :: _ :: _, h => exact unmoved_of_some h
  | find =>
    obtain ⟨⟨_, w₁⟩, hf, rfl⟩ := Option.map_eq_some_iff.mp h
    obtain rfl := find_world hf
    exact iff_of_true (.refl _) trivial
  | mv =>
    match args, h with
    | [src, dest], h => exact mv_unmoved_iff h
    | [], h | [_], h | _ :: _ :: _ :: _, h => exact unmoved_of_some h
  | exec =>
    match args, h with
    | [arg], h => exact exec_unmoved_iff h
    | [], h | _ :: _ :: _, h => exact unmoved_of_some h

/-! ### A shell on a new disk -/

def plainEnv : Env where
  img := plainImage
  layout := Memory.PageManager.highPool
  fuel := 8
  below := []
  buffer _ := 0
  bufferAddr := 0x200000
  afterName := []
  queue _ := 0
  isfile := true

def freshWorld : World := ⟨formatted, .initial Memory.PageManager.highPool fun _ => 0, .toRoot formatted, []⟩

def World.place (w : World) : UInt32 × Str := (w.session.currentDirectory, w.session.currentPath)

def inFolder : Option World := (run plainEnv .mkdir [[0x61]] freshWorld).bind (run plainEnv .cd [[0x61]])

lemma inFolder_place : inFolder.map World.place = some (3, [slash, 0x61]) := by decide +kernel

lemma not_cdSucceeds {w₀ : Option World} (hw : w₀ = some w)
    (h : (w₀.bind fun w => (w.parsed arg).session.changePath w.fs (splitPath arg).all).map Prod.fst = some 2) :
    ¬ CdSucceeds w arg := by
  rintro ⟨s, hs⟩
  rw [hw, Option.bind_some, hs] at h
  exact absurd (Option.some.inj h) (by dsimp only; decide)

theorem run_unmoved_iff_relative : ∃ w w', inFolder = some w ∧ run plainEnv .cd [[0x78]] w = some w' ∧
    Unmoved w w' := by
  obtain ⟨w, hw, -⟩ := Option.map_eq_some_iff.mp inFolder_place
  have hrun : (inFolder.bind (run plainEnv .cd [[0x78]])).isSome := by decide +kernel
  rw [hw] at hrun
  obtain ⟨w', h⟩ := Option.isSome_iff_exists.mp hrun
  have hcd : ∀ arg, Command.cd = .cd → [([0x78] : Str)] = [arg] → ¬ CdSucceeds w arg := by
    rintro _ - ⟨rfl⟩
    exact not_cdSucceeds hw (by decide +kernel)
  exact ⟨w, w', hw, h, (run_unmoved_iff plainEnv .cd _ w w' hcd h).mpr (.inl rfl)⟩

theorem failed_cd_moves : ∃ w w', inFolder = some w ∧ ¬ CdSucceeds w [slash, 0x78] ∧
    run plainEnv .cd [[slash, 0x78]] w = some w' ∧ ¬ Unmoved w w' := by
  obtain ⟨w, hw, hplace⟩ := Option.map_eq_some_iff.mp inFolder_place
  have hrun : (inFolder.bind (run plainEnv .cd [[slash, 0x78]])).map World.place = some (2, [slash]) := by
    decide +kernel
  rw [hw] at hrun
  obtain ⟨w', h, hplace'⟩ := Option.map_eq_some_iff.mp hrun
  refine ⟨w, w', hw, not_cdSucceeds hw (by decide +kernel), h, fun hu => ?_⟩
  have hd := hu.directory
  rw [(Prod.mk.inj hplace).1, (Prod.mk.inj hplace').1] at hd
  exact absurd hd (by decide)

end Semogakelar.Shell
