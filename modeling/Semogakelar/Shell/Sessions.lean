import Semogakelar.Library.Runs
import Semogakelar.Shell.Copying
import Semogakelar.Shell.Removing
import Semogakelar.Shell.Retabling

/-! Whole sessions of the shell: the volume stays in order, the shell stays in a directory of the tree, and the
files that no command names stay as they are. -/

namespace Semogakelar.Shell

open Library Fat32 FileSystem Function Process

variable {env : Env} {w w' : World} {arg src dest : Str} {fs fs' : FileSystem} {request : DriverRequest} {code : ℤ}
  {T : UInt32 → Fin 64 → Prop} {d x : UInt32} {i : Fin 64} {path : Path}

structure RmCareful (env : Env) (w : World) (arg : Str) (d : UInt32) : Prop where
  live : DeletesLive w.fs (removal ((splitPath arg).last env.below) d)
  elsewhere : ∀ i, FirstMatch (w.fs.table d) (removal ((splitPath arg).last env.below) d) i →
    (w.fs.table d i).IsFolder → (w.fs.table d i).clusterNumber ≠ w.session.currentDirectory

def CpCareful (env : Env) (w : World) (src dest : Str) : Prop :=
  ∀ buffer w₁ s, readFile env (splitPath src) (copyStart w src dest) = some (0, buffer, w₁) →
    w₁.session.changePath w₁.fs (splitPath dest).all = some (0, s) →
    ¬ Overcommits w₁.fs ⟨buffer, (parseFileName ((splitPath src).last env.below)).2.name,
      (parseFileName ((splitPath src).last env.below)).2.ext, s.currentDirectory, findBufferSize buffer⟩

def Careful (env : Env) (w : World) : Command → List Str → Prop
  | .cp, [src, dest] => CpCareful env w src dest
  | .rm, [arg] => ∀ s, Enters w arg s → RmCareful env w arg s.currentDirectory
  | .mv, [src, dest] => MvCareful env w src dest
  | _, _ => True

def Touches (env : Env) (w : World) : Command → List Str → UInt32 → Fin 64 → Prop
  | .rm, [arg], d, i => (∃ s, Enters w arg s ∧ s.currentDirectory = d) ∧
      FirstMatch (w.fs.table d) (removal ((splitPath arg).last env.below) d) i
  | .mv, [src, _], d, i => IsSource w src d i
  | _, _, _, _ => False

structure Order where
  env : Env
  command : Command
  args : List Str

def Obeys (w : World) (order : Order) (_ : Unit) (w' : World) : Prop :=
  run order.env order.command order.args w = some w' ∧ Careful order.env w order.command order.args

/-! ### The driver -/

lemma write_keeps {img : KernelImage} (hw : fs.WellFormed) (hp : fs.volume.IsDir request.parentClusterNumber)
    (ho : ¬ Overcommits fs request) (h : write img fs request = .returned code fs') :
    Keeps fs fs' T ∧ ∀ x, fs.volume.IsDir x → fs'.volume.IsDir x := by
  rcases write_outcome hw hp img with ⟨_, -, he, -⟩ | ⟨fs₁, j, e, l, he, hwritten, -⟩ | ⟨_, -, -, ho'⟩
  · obtain rfl := (Outcome.returned.inj (he.symm.trans h)).2
    exact ⟨.refl hw, fun x hx => hx⟩
  · obtain rfl := (Outcome.returned.inj (he.symm.trans h)).2
    refine ⟨⟨hwritten.wellFormed, fun hd hi hlive hfile _ => ?_⟩, fun x hx => ?_⟩
    · refine (hwritten.untouched hw hp).files hd hi hlive hfile ?_
      rintro ⟨rfl, rfl⟩
      rw [hwritten.added.before] at hlive
      exact EntryAdded.not_live_zero hlive
    · obtain ⟨q, hq⟩ := hx
      exact (hwritten.dir hw hp hq).isDir
  · exact (ho ho').elim

lemma delete_keeps {fuel : ℕ} (hw : fs.WellFormed) (hp : fs.volume.IsDir request.parentClusterNumber)
    (hlive : DeletesLive fs request) (h : delete fuel fs request = .returned code fs') :
    Keeps fs fs' (fun d i => d = request.parentClusterNumber ∧ FirstMatch (fs.table d) request i) ∧
      ∀ x, fs.volume.IsDir x → (∀ i, FirstMatch (fs.table request.parentClusterNumber) request i →
        (fs.table request.parentClusterNumber i).IsFolder →
          (fs.table request.parentClusterNumber i).clusterNumber ≠ x) → fs'.volume.IsDir x := by
  rcases delete_outcome hw hp with ⟨_, -, he, -⟩ | ⟨fs₁, j, l, he, hrem, -⟩ | ⟨_, -, -, hd'⟩ | ⟨-, hd'⟩
  · obtain rfl := (Outcome.returned.inj ((he fuel).symm.trans h)).2
    exact ⟨.refl hw, fun x hx _ => hx⟩
  · have he := he (max fuel l.length) (le_max_right _ _)
    obtain rfl := (Outcome.returned.inj (he.symm.trans (delete_mono h (le_max_left _ _)))).2
    refine ⟨⟨hrem.wellFormed, fun hd hi hl hfile hne => ?_⟩, fun x hx hother => ?_⟩
    · refine (hrem.untouched hw hp).files hd hi hl hfile ?_
      rintro ⟨rfl, rfl⟩
      exact hne ⟨rfl, hrem.first⟩
    · have hmem : x ∉ l := by
        intro hl
        obtain ⟨hf, hc⟩ := hw.sound.dir_in_chain hx (hrem.added.adds.entry_after hp) hrem.added.adds.chain hl
        exact hother j hrem.first (of_decide_eq_true hf) hc
      obtain ⟨q, hq⟩ := hx
      exact ((hrem.added.adds.dir_iff_of_after hw.sound hp).mpr ⟨hq, hmem⟩).isDir
  · exact (hd' hlive).elim
  · exact (hd' hlive).elim

/-! ### The commands -/

structure Maintains (w w' : World) (touched : UInt32 → Fin 64 → Prop) : Prop where
  keeps : Keeps w.fs w'.fs touched
  settled : w'.session.Settled w'.fs

lemma Maintains.of_fs (hw : w.fs.WellFormed) (hfs : w'.fs = w.fs) (hs : w'.session.Settled w.fs) :
    Maintains w w' T := by
  refine ⟨?_, by rwa [hfs]⟩
  rw [hfs]
  exact .refl hw

lemma cancel_table (w : World) (d : UInt32) (pathTemp : Str) :
    (w.cancelChangePath d pathTemp).session.currentDirTable =
    (w.cancelChangePath d pathTemp).fs.table (w.cancelChangePath d pathTemp).session.currentDirectory := rfl

lemma renameListed_table {newName : Str} (h : renameListed path arg newName w = some w') :
    w'.session.currentDirTable = w'.fs.table w'.session.currentDirectory := by
  obtain ⟨⟨_, w₁⟩, -, rfl⟩ := Option.map_eq_some_iff.mp h
  exact cancel_table ..

lemma cancel_isDir (hd : fs.volume.IsDir d) (pathTemp : Str) :
    (Session.cancelChangePath fs d pathTemp).Settled fs :=
  ⟨hd, rfl⟩

section Commands

variable (hw : w.fs.WellFormed) (hs : w.session.Settled w.fs)
include hs

lemma readFile_maintains {buffer : ℕ → UInt8} (h : readFile env path w = some (code, buffer, w')) :
    w'.fs = w.fs ∧ w'.session.Settled w.fs := by
  obtain ⟨⟨retVal, w₁⟩, hc, h⟩ := Option.bind_eq_some_iff.mp h
  obtain ⟨r, -, he⟩ := Option.map_eq_some_iff.mp hc
  obtain ⟨-, rfl⟩ := Prod.mk.inj he
  have hcancel := cancel_isDir hs.directory w.session.currentPath
  dsimp only at h
  split_ifs at h with hr hn
  · cases h
    exact ⟨rfl, hcancel⟩
  · cases h
    exact ⟨rfl, hcancel⟩
  · split at h
    · cases h
      exact ⟨rfl, hcancel⟩
    · cases h
    · cases h

lemma moveListed_session {srcPath destPath : Path} (h : moveListed env srcPath destPath w = some w') :
    w'.session.currentDirectory = w.session.currentDirectory ∧
      w'.session.currentDirTable = w'.fs.table w'.session.currentDirectory := by
  refine ⟨(moveListed_unmoved h).directory, ?_⟩
  obtain ⟨⟨parentSrc, w₁⟩, hp, h⟩ := Option.bind_eq_some_iff.mp h
  obtain ⟨hfs₁, hses₁, -⟩ := locateParent_spec hs hp
  have hset₁ : w₁.session.Settled w₁.fs := by rwa [hfs₁, hses₁]
  dsimp only at h
  obtain ⟨⟨source, w₂⟩, hsrc, h⟩ := Option.bind_eq_some_iff.mp h
  obtain ⟨hfs₂, hses₂, -⟩ := locateSource_spec hset₁ hsrc
  have hset₂ : w₂.session.Settled w₂.fs := by rwa [hfs₂, hses₂]
  obtain ⟨⟨ret, target, w₃⟩, hd, h⟩ := Option.bind_eq_some_iff.mp h
  obtain ⟨hfs₃, hses₃, -⟩ := locate_spec hset₂ hd
  have hset₃ : w₃.session.Settled w₃.fs := by rwa [hfs₃, hses₃]
  dsimp only at h
  split_ifs at h with hr
  · cases h
    exact hset₃.table
  · obtain ⟨w₄, hplace, h⟩ := Option.bind_eq_some_iff.mp h
    cases h
    change w₄.fs.table w.session.currentDirectory = w₄.fs.table w₄.session.currentDirectory
    rw [(placeEntry_unmoved hplace).directory, hses₃, hses₂, hses₁]

include hw

lemma cd_maintains (h : cd [arg] w = some w') : Maintains w w' T := by
  obtain ⟨⟨c, w₁⟩, hc, rfl⟩ := Option.map_eq_some_iff.mp h
  obtain ⟨⟨c, s⟩, hp, he⟩ := Option.map_eq_some_iff.mp hc
  obtain ⟨-, rfl⟩ := Prod.mk.inj he
  rw [parsed_fs] at hp
  exact .of_fs hw (parsed_fs arg w) (changePath_settled hw (parsed_settled hs arg) hp)

lemma writeTo_maintains {name : Str} {buf : ℕ → UInt8} {bufferSize : UInt32} {isDirectory : Bool}
    (hroom : ∀ s, w.session.changePath w.fs (if isDirectory then path.parents else path.all) = some (0, s) →
      ∀ fileName : FileName, fileName =
      (if isDirectory then ⟨padded 8 name, fun _ => 0⟩ else (parseFileName name).2) →
        ¬ Overcommits w.fs ⟨buf, fileName.name, fileName.ext, s.currentDirectory, bufferSize⟩)
    (h : writeTo env name path buf bufferSize isDirectory w = some (code, w')) : Maintains w w' T := by
  obtain ⟨⟨retVal, w₁⟩, hc, h⟩ := Option.bind_eq_some_iff.mp h
  obtain ⟨⟨c, s⟩, hp, he⟩ := Option.map_eq_some_iff.mp hc
  obtain ⟨rfl, rfl⟩ := Prod.mk.inj he
  have hset := changePath_settled hw hs hp
  dsimp only at h
  by_cases hr : c ≠ 0
  · rw [if_pos hr] at h
    cases h
    exact .of_fs hw rfl (cancel_isDir hs.directory _)
  · rw [if_neg hr] at h
    obtain rfl := not_not.mp hr
    obtain ⟨⟨_, w₂⟩, hst, h⟩ := Option.bind_eq_some_iff.mp h
    cases h
    obtain ⟨fs, hwr, rfl⟩ := store_returned hst
    obtain ⟨hkeeps, hdirs⟩ := write_keeps (T := T) hw hset.directory (hroom s hp _ rfl) hwr
    exact ⟨hkeeps, cancel_isDir (hdirs _ hs.directory) _⟩

lemma mkdir_maintains (h : mkdir env [arg] w = some w') : Maintains w w' T := by
  have h : createDirectory env (splitPath arg) (w.parsed arg) = some w' := h
  have hset := parsed_settled hs arg
  unfold createDirectory at h
  split_ifs at h with hdot
  · cases h
    exact .of_fs hw (parsed_fs arg w) hset
  · obtain ⟨⟨c, w₁⟩, hwr, rfl⟩ := Option.map_eq_some_iff.mp h
    rw [← parsed_fs arg w] at hw hset
    obtain ⟨hkeeps, hsettled⟩ := writeTo_maintains (T := T) hw hset
      (fun _ _ _ _ ho => ho.file rfl) hwr
    rw [parsed_fs] at hkeeps
    exact ⟨hkeeps, hsettled⟩

lemma cat_maintains (h : cat env [arg] w = some w') : Maintains w w' T := by
  obtain ⟨⟨c, buffer, w₁⟩, hread, rfl⟩ := Option.map_eq_some_iff.mp h
  have hset : (w.parsed arg).session.Settled (w.parsed arg).fs := by
    rw [parsed_fs]
    exact parsed_settled hs arg
  obtain ⟨hfs, hsettled⟩ := readFile_maintains hset hread
  rw [parsed_fs] at hfs hsettled
  exact .of_fs hw hfs hsettled

lemma cp_maintains (hcare : CpCareful env w src dest) (h : cp env [src, dest] w = some w') : Maintains w w' T := by
  have hfs₀ : ((w.parsed src).parsed dest).fs = w.fs := by rw [parsed_fs, parsed_fs]
  have hset : ((w.parsed src).parsed dest).session.Settled ((w.parsed src).parsed dest).fs := by
    have hsrc : (w.parsed src).session.Settled (w.parsed src).fs := by
      rw [parsed_fs]
      exact parsed_settled hs src
    have hdest := parsed_settled hsrc dest
    rwa [hfs₀, ← parsed_fs src w]
  obtain ⟨⟨c, buffer, w₁⟩, hread, h⟩ := Option.bind_eq_some_iff.mp h
  obtain ⟨hfs, hsettled⟩ := readFile_maintains hset hread
  rw [hfs₀] at hfs hsettled
  dsimp only at h
  split_ifs at h with hr
  · cases h
    exact .of_fs hw hfs hsettled
  · obtain ⟨⟨_, w₂⟩, hwr, h⟩ := Option.bind_eq_some_iff.mp h
    cases h
    obtain rfl := not_not.mp hr
    rw [← hfs] at hw hsettled
    obtain ⟨hkeeps, hsettled⟩ := writeTo_maintains (T := T) hw hsettled (fun s hs fileName hname => by
      rw [hname]
      exact hcare buffer w₁ s hread hs) hwr
    rw [hfs] at hkeeps
    exact ⟨hkeeps, hsettled⟩

lemma rm_maintains (hcare : ∀ s, Enters w arg s → RmCareful env w arg s.currentDirectory)
    (h : rm env [arg] w = some w') : Maintains w w' (Touches env w .rm [arg]) := by
  obtain ⟨⟨c, w₁⟩, hc, h⟩ := Option.bind_eq_some_iff.mp h
  obtain ⟨⟨c, s⟩, hp, he⟩ := Option.map_eq_some_iff.mp hc
  obtain ⟨rfl, rfl⟩ := Prod.mk.inj he
  have hfs := parsed_fs arg w
  rw [hfs] at hp
  have hset := changePath_settled hw (parsed_settled hs arg) hp
  dsimp only at h
  split_ifs at h with hr
  · cases h
    refine .of_fs hw hfs ?_
    rw [← hfs] at hs ⊢
    exact cancel_isDir hs.directory _
  · obtain ⟨⟨_, w₂⟩, hst, h⟩ := Option.bind_eq_some_iff.mp h
    cases h
    obtain ⟨fs, hdel, rfl⟩ := store_returned hst
    have henters : Enters w arg s := by
      rw [Enters, hp, not_not.mp hr]
    have hcare := hcare s henters
    rw [show ((w.parsed arg).resolving (splitPath arg)).fs = w.fs from hfs] at hdel
    obtain ⟨hkeeps, hdirs⟩ := delete_keeps hw hset.directory hcare.live hdel
    refine ⟨⟨hkeeps.wellFormed, fun hd hi hlive hfile hne => ?_⟩, ?_⟩
    · refine hkeeps.files hd hi hlive hfile fun htouched => hne ?_
      obtain ⟨rfl, hmatch⟩ := htouched
      exact ⟨⟨s, henters, rfl⟩, hmatch⟩
    · exact cancel_isDir (hdirs _ hs.directory fun i hi hf => hcare.elsewhere i hi hf) _

lemma exec_maintains (h : exec env [arg] w = some w') : Maintains w w' T := by
  obtain ⟨c, hp, -⟩ := executeProgram_session h
  rw [parsed_fs] at hp
  have hset := changePath_settled hw (parsed_settled hs arg) hp
  refine .of_fs hw ?_ hset
  obtain ⟨⟨c, w₁⟩, hc, h⟩ := Option.bind_eq_some_iff.mp h
  obtain ⟨r, -, he⟩ := Option.map_eq_some_iff.mp hc
  obtain ⟨-, rfl⟩ := Prod.mk.inj he
  have hfs := parsed_fs arg w
  dsimp only at h
  split_ifs at h with hr hn
  · cases h
    exact hfs
  · cases h
    exact hfs
  · obtain ⟨⟨_, kernel⟩, -, h⟩ := Option.bind_eq_some_iff.mp h
    cases h
    exact hfs

omit hw in
lemma mv_session (h : mv env [src, dest] w = some w') : w.fs.volume.IsDir w'.session.currentDirectory ∧
    w'.session.currentDirTable = w'.fs.table w'.session.currentDirectory := by
  obtain ⟨⟨ret, w₁⟩, hp, h⟩ := Option.bind_eq_some_iff.mp h
  obtain ⟨hfs, hsession, -⟩ := probe_spec hp
  rw [cancel_settled hs] at hsession
  have hset₁ : w₁.session.Settled w₁.fs := by rwa [hfs, hsession]
  have hstay : w.fs.volume.IsDir w₁.session.currentDirectory ∧
      w₁.session.currentDirTable = w₁.fs.table w₁.session.currentDirectory :=
    ⟨by rw [hsession]; exact hs.directory, hset₁.table⟩
  have hsrc := parsed_settled hset₁ src
  dsimp only at h
  split_ifs at h with h2 hlow
  · unfold rename at h
    split_ifs at h with hdot
    · cases h
      exact hstay
    · refine ⟨?_, renameListed_table h⟩
      rw [(renameListed_unmoved h).directory, ← hfs]
      exact hsrc.directory
  · cases h
    exact hstay
  · have hdest : (w₁.parsed dest).session.Settled (w₁.parsed dest).fs := by
      rw [parsed_fs]
      exact parsed_settled hset₁ dest
    have hboth := parsed_settled hdest src
    have hset : ((w₁.parsed dest).parsed src).session.Settled ((w₁.parsed dest).parsed src).fs := by
      rwa [parsed_fs src]
    obtain ⟨hdir, htab⟩ := moveListed_session hset h
    refine ⟨?_, htab⟩
    rw [hdir, ← hfs, ← parsed_fs dest w₁]
    exact hboth.directory

lemma mv_maintains (hcare : MvCareful env w src dest) (h : mv env [src, dest] w = some w') :
    Maintains w w' (IsSource w src) := by
  obtain ⟨hkeeps, hdirs⟩ := mv_keeps hw hs hcare h
  obtain ⟨hdir, htab⟩ := mv_session hs h
  exact ⟨hkeeps, hdirs _ hdir, htab⟩

end Commands

/-! ### Sessions -/

lemma run_maintains {command : Command} {args : List Str} (hw : w.fs.WellFormed) (hs : w.session.Settled w.fs)
    (hcare : Careful env w command args) (h : run env command args w = some w') :
    Maintains w w' (Touches env w command args) := by
  have hsame : w' = w → Maintains w w' (Touches env w command args) := by
    rintro rfl
    exact .of_fs hw rfl hs
  cases command with
  | cd =>
    rcases args with _ | ⟨arg, _ | ⟨arg', args⟩⟩
    · exact hsame (Option.some.inj h).symm
    · exact cd_maintains hw hs h
    · exact hsame (Option.some.inj h).symm
  | ls =>
    rcases args with _ | ⟨arg, args⟩
    · exact hsame (Option.some.inj h).symm
    · exact hsame (Option.some.inj h).symm
  | mkdir =>
    rcases args with _ | ⟨arg, _ | ⟨arg', args⟩⟩
    · exact hsame (Option.some.inj h).symm
    · exact mkdir_maintains hw hs h
    · exact hsame (Option.some.inj h).symm
  | cat =>
    rcases args with _ | ⟨arg, _ | ⟨arg', args⟩⟩
    · exact hsame (Option.some.inj h).symm
    · exact cat_maintains hw hs h
    · exact hsame (Option.some.inj h).symm
  | cp =>
    rcases args with _ | ⟨src, _ | ⟨dest, _ | ⟨arg, args⟩⟩⟩
    · exact hsame (Option.some.inj h).symm
    · exact hsame (Option.some.inj h).symm
    · exact cp_maintains hw hs hcare h
    · exact hsame (Option.some.inj h).symm
  | rm =>
    rcases args with _ | ⟨arg, _ | ⟨arg', args⟩⟩
    · exact hsame (Option.some.inj h).symm
    · exact rm_maintains hw hs hcare h
    · exact hsame (Option.some.inj h).symm
  | find =>
    obtain ⟨⟨tracked, w₁⟩, hfind, rfl⟩ := Option.map_eq_some_iff.mp h
    refine hsame ?_
    rcases args with _ | ⟨goal, _ | ⟨arg, args⟩⟩
    · exact (Prod.mk.inj (Option.some.inj hfind)).2.symm
    · obtain ⟨s, -, he⟩ := Option.map_eq_some_iff.mp hfind
      exact (Prod.mk.inj he).2.symm
    · exact (Prod.mk.inj (Option.some.inj hfind)).2.symm
  | mv =>
    rcases args with _ | ⟨src, _ | ⟨dest, _ | ⟨arg, args⟩⟩⟩
    · exact hsame (Option.some.inj h).symm
    · exact hsame (Option.some.inj h).symm
    · exact mv_maintains hw hs hcare h
    · exact hsame (Option.some.inj h).symm
  | exec =>
    rcases args with _ | ⟨arg, _ | ⟨arg', args⟩⟩
    · exact hsame (Option.some.inj h).symm
    · exact exec_maintains hw hs h
    · exact hsame (Option.some.inj h).symm

lemma fileKept_trans {fs'' : FileSystem} (h : FileKept fs fs' d i) (h' : FileKept fs' fs'' d i) :
    FileKept fs fs'' d i := by
  obtain ⟨m, hm, hm', hsame, hread⟩ := h.contents
  obtain ⟨n, hn, hn', hsame', hread'⟩ := h'.contents
  rw [h.entry] at hn hn' hread'
  obtain rfl := hm'.unique hn
  refine ⟨h'.isDir, h'.entry.trans h.entry, m, hm, hn', fun c hc => (hsame' c hc).trans (hsame c hc), ?_⟩
  exact fun t fuel hfuel => (hread' t fuel hfuel).trans (hread t fuel hfuel)

theorem session_keeps_volume {orders : List Order} {outs : List Unit} (hw : w.fs.WellFormed)
    (hs : w.session.Settled w.fs) (hrun : Run Obeys w orders outs w') : w'.fs.WellFormed ∧
    w'.session.Settled w'.fs := by
  refine hrun.invariant (P := fun w => w.fs.WellFormed ∧ w.session.Settled w.fs) ?_ ⟨hw, hs⟩
  rintro w order - w' ⟨hw, hs⟩ ⟨hstep, hcare⟩
  have h := run_maintains hw hs hcare hstep
  exact ⟨h.keeps.wellFormed, h.settled⟩

lemma oneFolder_only (hone : oneFolder = some w) {k : Fin 64} (hk : 2 ≤ k.val)
    (hl : (w.fs.table 2 k).Live) : k = 2 := by
  have hslots : oneFolder.all fun w => decide (∀ k : Fin 64, 2 ≤ k.val → (w.fs.table 2 k).Live → k = 2) := by
    decide +kernel
  rw [hone, Option.all_some, decide_eq_true_eq] at hslots
  exact hslots k hk hl

lemma oneFolder_careful (hone : oneFolder = some w) : MvCareful plainEnv w [0x61] [0x63] := by
  have hcode : oneFolder.all fun w => decide
      (((w.parsed [0x63]).session.changePathMv w.fs (splitPath [0x63]).all).map Prod.fst = some 2 ∧
        ((w.parsed [0x63]).session.changePath w.fs (splitPath [0x63]).all).map Prod.fst ≠
        some 0) := by decide +kernel
  have hfind : oneFolder.all fun w => decide (findName (w.fs.table 2) 0 (padded 8 [0x61]) = some 2 ∧
      findName (w.fs.table 2) 2 (padded 8 [0x61]) = some 2 ∧ (w.fs.table 2 2).Live) := by decide +kernel
  rw [hone, Option.all_some, decide_eq_true_eq] at hcode hfind
  have hrel : w.parsed [0x61] = w := parsed_relative rfl
  have hdir : w.session.currentDirectory = 2 := by
    rw [(oneFolder_root hone).2]
    rfl
  obtain ⟨⟨_, r⟩, hr, rfl⟩ := Option.map_eq_some_iff.mp hcode.1
  refine ⟨⟨fun _ _ c s i hp hi => ?_, fun hnot => (hnot ⟨r, hr⟩).elim⟩, ?_, ?_⟩
  · left
    cases hp
    rw [hrel, hdir] at hi ⊢
    obtain rfl := Option.some.inj (hfind.1.symm.trans hi)
    exact isSource_here rfl (by decide) hdir (by decide) hfind.2.2 hfind.2.1
  · rintro d i hsrc - ⟨k, hki, hk, hl, -⟩
    obtain ⟨s, hs, rfl⟩ := hsrc.entered
    have hlive := hsrc.live
    cases hs
    rw [hrel, hdir] at hl hlive
    exact hki ((oneFolder_only hone hk hl).trans (oneFolder_only hone hsrc.slot hlive).symm)
  · rintro d i t j - hdest
    obtain ⟨s, hs, -⟩ := hdest.entered
    exact (hcode.2 (by rw [hs]; rfl)).elim

theorem session_keeps_volume_renamed : ∃ w', Run Obeys freshWorld
    [⟨plainEnv, .mkdir, [[0x61]]⟩, ⟨plainEnv, .mv, [[0x61], [0x63]]⟩] [(), ()] w' ∧
      w'.fs.WellFormed ∧ w'.session.Settled w'.fs := by
  have hrun : (oneFolder.bind (mv plainEnv [[0x61], [0x63]])).isSome := by decide +kernel
  obtain ⟨w', hrun⟩ := Option.isSome_iff_exists.mp hrun
  obtain ⟨w, hone, hrun⟩ := Option.bind_eq_some_iff.mp hrun
  have hobeys : Run Obeys freshWorld [⟨plainEnv, .mkdir, [[0x61]]⟩, ⟨plainEnv, .mv, [[0x61], [0x63]]⟩]
      [(), ()] w' :=
    .cons ⟨hone, trivial⟩ (.cons ⟨hrun, oneFolder_careful hone⟩ .nil)
  exact ⟨w', hobeys, session_keeps_volume freshWorld_wellFormed (settled_root rfl) hobeys⟩

def Spares (d : UInt32) (i : Fin 64) (w : World) (order : Order) (out : Unit) (w' : World) : Prop :=
  Obeys w order out w' ∧ ¬ Touches order.env w order.command order.args d i

lemma kept_read (hw : fs.WellFormed) (hw' : fs'.WellFormed) (hd : fs.volume.IsDir d) (h : FileKept fs fs' d i)
    (hfile : ¬ (fs.table d i).IsFolder) (hparent : request.parentClusterNumber = d)
    (hm : FirstMatch (fs.table d) request i) (hm' : FirstMatch (fs'.table d) request i) :
    ∃ enough, ∀ fuel, enough ≤ fuel → read fuel fs' request = read fuel fs request := by
  obtain ⟨m, -, -, -, hread⟩ := h.contents
  have hentry := h.entry
  have hd' := h.isDir
  rw [← hparent] at hm hm' hread hentry hd hd' hfile
  refine ⟨m.length + 1, fun fuel hfuel => ?_⟩
  rw [read_of_match fuel (parent_folder hw' hd') hm', read_of_match fuel (parent_folder hw hd) hm, hentry,
    if_neg hfile, if_neg hfile, hread _ _ hfuel]

theorem session_keeps_file {orders : List Order} {outs : List Unit} (hw : w.fs.WellFormed)
    (hs : w.session.Settled w.fs) (hd : w.fs.volume.IsDir d) (hi : 2 ≤ i.val) (hlive : (w.fs.table d i).Live)
    (hfile : ¬ (w.fs.table d i).IsFolder) (hrun : Run (Spares d i) w orders outs w') :
    FileKept w.fs w'.fs d i ∧ ∀ request : DriverRequest, request.parentClusterNumber = d →
      FirstMatch (w.fs.table d) request i → FirstMatch (w'.fs.table d) request i →
      ∃ enough, ∀ fuel, enough ≤ fuel → read fuel w'.fs request = read fuel w.fs request := by
  have hkept : (w'.fs.WellFormed ∧ w'.session.Settled w'.fs) ∧ FileKept w.fs w'.fs d i := by
    refine hrun.invariant (P := fun w₁ => (w₁.fs.WellFormed ∧ w₁.session.Settled w₁.fs) ∧
      FileKept w.fs w₁.fs d i) ?_
      ⟨⟨hw, hs⟩, (Keeps.refl (T := fun _ _ => False) hw).files hd hi hlive hfile not_false⟩
    rintro w₁ order - w₂ ⟨⟨hw₁, hs₁⟩, hkept⟩ ⟨⟨hstep, hcare⟩, hspared⟩
    have h := run_maintains hw₁ hs₁ hcare hstep
    refine ⟨⟨h.keeps.wellFormed, h.settled⟩, fileKept_trans hkept ?_⟩
    refine h.keeps.files hkept.isDir hi ?_ ?_ hspared
    · rw [hkept.entry]
      exact hlive
    · rw [hkept.entry]
      exact hfile
  obtain ⟨⟨hw', -⟩, hkept⟩ := hkept
  exact ⟨hkept, fun request hparent hm hm' => kept_read hw hw' hd hkept hfile hparent hm hm'⟩

def shelfRequest : DriverRequest := ⟨fun _ => 0, padded 8 [0x66], fun _ => 0, rootClusterNumber, 2048⟩

theorem session_keeps_file_shelf : ∃ w w', shelf 2048 = some w ∧ Run (Spares 2 3) w
    [⟨plainEnv, .mkdir, [[0x62]]⟩, ⟨plainEnv, .cd, [[0x62]]⟩] [(), ()] w' ∧ FileKept w.fs w'.fs 2 3 ∧
    ∃ enough, ∀ fuel, enough ≤ fuel → read fuel w'.fs shelfRequest = read fuel w.fs shelfRequest := by
  have hfound : ((shelf 2048).bind fun w => (run plainEnv .mkdir [[0x62]] w).bind (run plainEnv .cd [[0x62]])).any
      fun w => decide (findEntry (w.fs.table 2) shelfRequest = some 3) := by decide +kernel
  have hlive : (shelf 2048).all fun w => decide ((w.fs.table 2 3).Live ∧ ¬ (w.fs.table 2 3).IsFolder ∧
      findEntry (w.fs.table 2) shelfRequest = some 3) := by decide +kernel
  obtain ⟨w₂, hrun, hfound⟩ := (Option.any_eq_true _ _).mp hfound
  obtain ⟨w, hshelf, hrun⟩ := Option.bind_eq_some_iff.mp hrun
  obtain ⟨w₁, hmkdir, hcd⟩ := Option.bind_eq_some_iff.mp hrun
  rw [hshelf, Option.all_some, decide_eq_true_eq] at hlive
  obtain ⟨hw, hs⟩ := shelf_root (by decide) hshelf
  have hspares : Run (Spares 2 3) w [⟨plainEnv, .mkdir, [[0x62]]⟩, ⟨plainEnv, .cd, [[0x62]]⟩] [(), ()] w₂ :=
    .cons ⟨⟨hmkdir, trivial⟩, not_false⟩ (.cons ⟨⟨hcd, trivial⟩, not_false⟩ .nil)
  obtain ⟨hkept, hread⟩ := session_keeps_file hw hs Volume.isDir_root (by decide) hlive.1 hlive.2.1 hspares
  exact ⟨w, w₂, hshelf, hspares, hkept, hread shelfRequest rfl (findEntry_eq_some.mp hlive.2.2)
    (findEntry_eq_some.mp (of_decide_eq_true hfound))⟩

end Semogakelar.Shell
