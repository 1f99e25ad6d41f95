import Semogakelar.Shell.AbsolutePaths
import Semogakelar.Shell.Moving
import Semogakelar.Shell.Splitting

/-! What `rm` removes. It goes on with the fields that `parse_file_name` has filled, whatever that returns. -/

namespace Semogakelar.Shell

open Library Fat32 FileSystem

def lastComponent (arg : Str) : Str := (components arg).getLastD []

def LeadsTo (w : World) (arg : Str) (d : UInt32) : Prop :=
  ∃ s, (w.parsed arg).session.changePath w.fs (components arg).dropLast = some (0, s) ∧ s.currentDirectory = d

def removal (name : Str) (d : UInt32) : DriverRequest :=
  ⟨fun _ => 0, (parseFileName name).2.name, (parseFileName name).2.ext, d, 0⟩

structure RemovesNamed (arg : Str) (w : World) (fs' : FileSystem) : Prop where
  fits : Fits (lastComponent arg)
  nonempty : lastComponent arg ≠ []
  entry : ∃ d i l, LeadsTo w arg d ∧ fileText (w.fs.table d i) = lastComponent arg ∧
    Removed w.fs fs' (removal (lastComponent arg) d) i l

def RmExact (env : Env) (arg : Str) (w : World) : Prop :=
  ∃ enough, ∀ fuel, enough ≤ fuel → (w.parsed arg).session.changePath w.fs (splitPath arg).parents = none ∨
    ∃ w', rm { env with fuel := fuel } [arg] w = some w' ∧ (w'.fs.disk = w.fs.disk ∨ RemovesNamed arg w w'.fs)

/-- The last component survives `parse_file_name`. From 256 components on the count of `parse_path` wraps around,
and the last two fields say that this leads to the same place. -/
structure Spelled (env : Env) (arg : Str) (w : World) (d : UInt32) : Prop where
  fits : Fits (lastComponent arg)
  nonempty : lastComponent arg ≠ []
  dotted : ¬ EndsAtDot (lastComponent arg)
  directory : LeadsTo w arg d
  fields : (parseFileName ((splitPath arg).last env.below)).2 = (parseFileName (lastComponent arg)).2

def RmSafe (env : Env) (arg : Str) (w : World) : Prop :=
  ∀ s i, Enters w arg s →
    FirstMatch (w.fs.table s.currentDirectory) (removal ((splitPath arg).last env.below) s.currentDirectory) i →
      Occupied w.fs s.currentDirectory i ∨ 2 ≤ i.val ∧ Spelled env arg w s.currentDirectory

variable {env : Env} {w w' : World} {arg name : Str} {s : Session} {fs fs' : FileSystem} {d : UInt32} {i : Fin 64}
  {l : List UInt32} {entry : DirectoryEntry} {code : ℤ}

/-! ### The last component -/

lemma lastComponent_mem (arg : Str) : lastComponent arg ∈ components arg := by
  rw [lastComponent, List.getLastD_eq_getLast?, List.getLast?_eq_getLast_of_ne_nil (components_ne_nil arg),
    Option.getD_some]
  exact List.getLast_mem _

lemma zero_not_mem_lastComponent (harg : 0 ∉ arg) : 0 ∉ lastComponent arg :=
  fun h => harg ((sublist_of_mem_components (lastComponent_mem arg)).mem h)

lemma parents_eq (h : (components arg).length ≤ 255) : (splitPath arg).parents = (components arg).dropLast := by
  rw [splitPath_eq, Path.parents, Path.front, Nat.mod_eq_of_lt (by omega), List.dropLast_eq_take]

lemma last_eq (h : (components arg).length ≤ 255) (below : Str) : (splitPath arg).last below =
    lastComponent arg := by
  have hpos := List.length_pos_of_ne_nil (components_ne_nil arg)
  rw [splitPath_eq, Path.last, Nat.mod_eq_of_lt (by omega), if_neg hpos.ne', lastComponent,
    List.getLastD_eq_getLast?, List.getLast?_eq_getElem?, List.getD_eq_getElem?_getD]

lemma spelled_iff (h : (components arg).length ≤ 255) (he : Enters w arg s) :
    Spelled env arg w s.currentDirectory ↔
      Fits (lastComponent arg) ∧ lastComponent arg ≠ [] ∧ ¬ EndsAtDot (lastComponent arg) := by
  constructor
  · intro hs
    exact ⟨hs.fits, hs.nonempty, hs.dotted⟩
  · rintro ⟨hfits, hnonempty, hdotted⟩
    rw [Enters, parents_eq h] at he
    exact ⟨hfits, hnonempty, hdotted, ⟨s, he, rfl⟩, by rw [last_eq h]⟩

/-! ### The entry with the fields of a name -/

lemma extension_of_endsAtDot (h : EndsAtDot name) : extension name = [] := by
  have hrest : stem name ++ name.dropWhile (· ≠ dot) = stem name ++ [dot] := (stem_append name).trans h
  rw [extension, List.append_cancel_left hrest]
  rfl

lemma fileText_dropped (hs : 0 ∉ name) (hfits : Fits name) (hdot : EndsAtDot name)
    (hname : entry.name = padded 8 (stem name)) (hext : entry.ext = padded 3 (extension name)) :
    fileText entry ≠ name := by
  rw [extension_of_endsAtDot hdot] at hext
  have hzero : ¬ memcmp (padded 3 []) (fun _ => 0) ≠ 0 := by decide
  rw [fileText, hname, hext, fieldText_padded hfits.name (zero_not_mem_stem hs), if_neg hzero, List.append_nil]
  intro he
  have hlen := congrArg List.length (he.trans hdot)
  rw [List.length_append, List.length_singleton] at hlen
  omega

lemma removal_name (h : Fits name) : (removal name d).name = padded 8
    (stem name) := by rw [removal, h.parseFileName]

lemma removal_ext (h : Fits name) : (removal name d).ext = padded 3 (extension name) := by
  rw [removal, h.parseFileName]

lemma fileText_of_match (hs : 0 ∉ name) (hfits : Fits name) (hdot : ¬ EndsAtDot name)
    (hm : FirstMatch (fs.table d) (removal name d) i) : fileText (fs.table d i) = name :=
  fileText_parts hs hfits hdot (hm.name.trans (removal_name hfits)) (hm.ext.trans (removal_ext hfits))

lemma fields_eq {f f' : FileName} (hname : f.name = f'.name) (hext : f.ext = f'.ext) : f = f' := by
  cases f
  cases f'
  exact congrArg₂ FileName.mk hname hext

lemma removal_congr (h : (parseFileName name).2 = (parseFileName arg).2) (d : UInt32) :
    removal name d = removal arg d := by rw [removal, removal, h]

lemma Spelled.not_unused (h : Spelled env arg w d) (harg : 0 ∉ arg)
    (hm : FirstMatch (w.fs.table d) (removal ((splitPath arg).last env.below) d) i) : w.fs.table d i ≠ .zero := by
  intro hdead
  rw [removal_congr h.fields] at hm
  have htext := fileText_of_match (zero_not_mem_lastComponent harg) h.fits h.dotted hm
  rw [hdead] at htext
  exact h.nonempty htext.symm

lemma Removed.unique {r r' : DriverRequest} {i' : Fin 64} {l' : List UInt32} (hw : fs.WellFormed)
    (hp : fs.volume.IsDir r.parentClusterNumber) (hp' : fs.volume.IsDir r'.parentClusterNumber)
    (h : Removed fs fs' r i l) (h' : Removed fs fs' r' i' l') :
    r'.parentClusterNumber = r.parentClusterNumber ∧ i' = i := by
  have hlive := h'.added.live
  have hitem := item_of_live h'.added.slot hlive
  by_contra hne
  rw [h.added.table_slot (hw.sound.dir_usable hp') (h.added.adds.not_mem_of_item hw.sound hp hp' hitem) i' hne,
    h'.added.before] at hlive
  exact EntryAdded.not_live_zero hlive

/-! ### The run -/

lemma rm_failed (h : (w.parsed arg).session.changePath w.fs (splitPath arg).parents = some (code, s))
    (hc : code ≠ 0) : ∃ w', rm env [arg] w = some w' ∧ w'.fs = w.fs := by
  have hwalk : (w.parsed arg).changePath (splitPath arg) (splitPath arg).parents =
      some (code, { (w.parsed arg).resolving (splitPath arg) with session := s }) := by
    rw [World.changePath, parsed_fs, h]
    rfl
  refine ⟨World.cancelChangePath w.session.currentDirectory w.session.currentPath
    { (w.parsed arg).resolving (splitPath arg) with session := s }, ?_, parsed_fs arg w⟩
  unfold rm
  dsimp only [World.parsePath]
  rw [hwalk]
  exact (Option.bind_some _ _).trans (if_pos hc)

lemma rm_returns (env : Env) (he : Enters w arg s) (P : FileSystem → Prop) :
    (∃ w', rm env [arg] w = some w' ∧ P w'.fs) ↔
      ∃ code fs', delete env.fuel w.fs (removal ((splitPath arg).last env.below) s.currentDirectory) =
        .returned code fs' ∧ P fs' := by
  have hwalk : (w.parsed arg).changePath (splitPath arg) (splitPath arg).parents =
      some (0, { (w.parsed arg).resolving (splitPath arg) with session := s }) := by
    rw [World.changePath, parsed_fs, he]
    rfl
  have hrm : rm env [arg] w = (World.store { (w.parsed arg).resolving (splitPath arg) with session := s }
      (delete env.fuel w.fs (removal ((splitPath arg).last env.below) s.currentDirectory))).map fun r =>
        r.2.cancelChangePath w.session.currentDirectory w.session.currentPath := by
    unfold rm
    dsimp only [World.parsePath]
    rw [hwalk, Option.map_eq_bind]
    have hfs : ((w.parsed arg).resolving (splitPath arg)).fs = w.fs := parsed_fs arg w
    change Option.bind (World.store _ (delete env.fuel ((w.parsed arg).resolving (splitPath arg)).fs _)) _ = _
    rw [hfs]
    rfl
  rw [hrm]
  constructor
  · rintro ⟨w', h, hP⟩
    obtain ⟨⟨code, w₁⟩, hstore, rfl⟩ := Option.map_eq_some_iff.mp h
    obtain ⟨fs', hdelete, rfl⟩ := store_returned hstore
    exact ⟨code, fs', hdelete, hP⟩
  · rintro ⟨code, fs', hdelete, hP⟩
    rw [hdelete]
    exact ⟨_, rfl, hP⟩

lemma rmExact_iff_delete (he : Enters w arg s) : RmExact env arg w ↔ ∃ enough, ∀ fuel, enough ≤ fuel →
    ∃ code fs', delete fuel w.fs (removal ((splitPath arg).last env.below) s.currentDirectory) =
    .returned code fs' ∧
      (fs'.disk = w.fs.disk ∨ RemovesNamed arg w fs') := by
  refine exists_congr fun enough => forall₂_congr fun fuel _ => ?_
  have hwalk : ¬ (w.parsed arg).session.changePath w.fs (splitPath arg).parents = none := by
    rw [he]
    exact Option.some_ne_none _
  rw [or_iff_right hwalk]
  exact rm_returns { env with fuel := fuel } he fun fs' => fs'.disk = w.fs.disk ∨ RemovesNamed arg w fs'

section WellFormed

variable (hw : w.fs.WellFormed) (hs : w.session.Settled w.fs) (harg : 0 ∉ arg)
include hw hs

lemma LeadsTo.isDir (h : LeadsTo w arg d) : w.fs.volume.IsDir d := by
  obtain ⟨s, hwalk, rfl⟩ := h
  exact (changePath_settled hw (parsed_settled hs arg) hwalk).directory

include harg

lemma removesNamed_iff (hd : w.fs.volume.IsDir d)
    (hr : Removed w.fs fs' (removal ((splitPath arg).last env.below) d) i l) :
    RemovesNamed arg w fs' ↔ Spelled env arg w d := by
  have hzero := zero_not_mem_lastComponent harg
  constructor
  · rintro ⟨hfits, hnonempty, d', i', l', hto, htext, hr'⟩
    obtain ⟨rfl, rfl⟩ : d' = d ∧ i' = i := Removed.unique hw hd (hto.isDir hw hs) hr hr'
    refine ⟨hfits, hnonempty, fun hdot => ?_, hto, ?_⟩
    · exact fileText_dropped hzero hfits hdot (hr'.first.name.trans (removal_name hfits))
        (hr'.first.ext.trans (removal_ext hfits)) htext
    · exact fields_eq (hr.first.name.symm.trans hr'.first.name) (hr.first.ext.symm.trans hr'.first.ext)
  · intro h
    rw [removal_congr h.fields] at hr
    exact ⟨h.fits, h.nonempty, d, i, l, h.directory, fileText_of_match hzero h.fits h.dotted hr.first, hr⟩

lemma rmExact_iff_of_match (he : Enters w arg s)
    (hm : FirstMatch (w.fs.table s.currentDirectory)
      (removal ((splitPath arg).last env.below) s.currentDirectory) i) :
    RmExact env arg w ↔ Occupied w.fs s.currentDirectory i ∨ 2 ≤ i.val ∧ Spelled env arg w s.currentDirectory := by
  have hd : w.fs.volume.IsDir (removal ((splitPath arg).last env.below) s.currentDirectory).parentClusterNumber :=
    (changePath_settled hw (parsed_settled hs arg) he).directory
  have hwf : ∀ fs', RemovesNamed arg w fs' → fs'.WellFormed := by
    intro fs' h
    obtain ⟨_, _, _, -, -, hrem⟩ := h.entry
    exact hrem.wellFormed
  rw [rmExact_iff_delete he, delete_ends_iff hw hd hm _ hwf]
  by_cases hocc : Occupied w.fs s.currentDirectory i
  · exact iff_of_true (.inl hocc) (.inl hocc)
  refine or_congr_right ⟨?_, ?_⟩
  · rintro ⟨l, hrem, hnamed⟩
    exact ⟨hrem.added.slot, (removesNamed_iff hw hs harg hd hrem).mp hnamed⟩
  · rintro ⟨hi, h⟩
    have hlive : (w.fs.table s.currentDirectory i).Live := by
      by_contra hlive
      exact h.not_unused harg hm (hw.dead hd i hi hlive)
    rcases delete_live hw hd hm hi hlive with ⟨hocc', -⟩ | ⟨-, l, -, hrem⟩
    · exact (hocc hocc').elim
    · exact ⟨l, hrem, (removesNamed_iff hw hs harg hd hrem).mpr h⟩

theorem rm_removes_named_iff (env : Env) : RmExact env arg w ↔ RmSafe env arg w := by
  cases hwalk : (w.parsed arg).session.changePath w.fs (splitPath arg).parents with
  | none =>
    refine iff_of_true ⟨0, fun _ _ => .inl hwalk⟩ fun s i he => ?_
    cases hwalk.symm.trans he
  | some r =>
    obtain ⟨code, s⟩ := r
    by_cases hc : code = 0
    · subst hc
      have hd : w.fs.volume.IsDir s.currentDirectory :=
        (changePath_settled hw (parsed_settled hs arg) hwalk).directory
      have hsame : ∀ {s'}, Enters w arg s' → s' = s := fun he => (outcome_unique he hwalk).2
      cases hm : findEntry (w.fs.table s.currentDirectory)
          (removal ((splitPath arg).last env.below) s.currentDirectory) with
      | none =>
        obtain ⟨q, hq⟩ := hd
        refine iff_of_true ((rmExact_iff_delete hwalk).mpr ⟨0, fun fuel _ => ?_⟩) fun s' i he hi => ?_
        · exact ⟨1, w.fs, delete_of_none fuel (hw.self hq).folder hm, .inl rfl⟩
        · obtain rfl := hsame he
          exact (findEntry_eq_none.mp hm i ⟨hi.name, hi.ext⟩).elim
      | some i =>
        have hm := findEntry_eq_some.mp hm
        rw [rmExact_iff_of_match hw hs harg hwalk hm]
        constructor
        · intro h s' i' he hi
          obtain rfl := hsame he
          exact hm.unique hi ▸ h
        · intro h
          exact h s i hwalk hm
    · refine iff_of_true ⟨0, fun fuel _ => .inr ?_⟩ fun s' i he => ?_
      · obtain ⟨w', hrm, hfs⟩ := rm_failed hwalk hc
        exact ⟨w', hrm, .inl (by rw [hfs])⟩
      · exact (hc (outcome_unique hwalk he).1).elim

end WellFormed

def eightLetters : Str := [0x61, 0x62, 0x63, 0x64, 0x65, 0x66, 0x67, 0x68]

def tenLetters : Str := eightLetters ++ [0x69, 0x6A]

def namedWorld : World :=
  { freshWorld with
    fs := rootFolder eightLetters
    session := .toRoot (rootFolder eightLetters) }

lemma namedWorld_wellFormed : namedWorld.fs.WellFormed := rootFolder_wellFormed (by decide) (by decide)

lemma namedWorld_settled : namedWorld.session.Settled namedWorld.fs := settled_root rfl

lemma lastComponent_single (arg : Str) (h : splitPath arg = ⟨false, 1, [arg]⟩) :
    (components arg).length ≤ 255 ∧ lastComponent arg = arg := by
  have hcomponents : components arg = [arg] := by
    rw [splitPath_eq] at h
    exact congrArg Path.rows h
  rw [lastComponent, hcomponents]
  exact ⟨by simp, rfl⟩

lemma namedWorld_match (arg : Str) (h : splitPath arg = ⟨false, 1, [arg]⟩)
    (hfind : findEntry (namedWorld.fs.table rootClusterNumber) (removal arg rootClusterNumber) = some 2) :
    Enters namedWorld arg namedWorld.session ∧ FirstMatch (namedWorld.fs.table rootClusterNumber)
      (removal ((splitPath arg).last plainEnv.below) rootClusterNumber) 2 := by
  have hrel : isAbsolute arg = false := congrArg Path.absolute h
  constructor
  · rw [Enters, parsed_relative hrel, h]
    rfl
  · rw [h]
    exact findEntry_eq_some.mp hfind

theorem rm_removes_named_eightLetters : RmExact plainEnv eightLetters namedWorld ∧
    Fits eightLetters ∧ (namedWorld.fs.table rootClusterNumber 2).Live := by
  have hfits : Fits eightLetters := ⟨by decide, by decide⟩
  obtain ⟨hlength, hlast⟩ := lastComponent_single eightLetters rfl
  obtain ⟨he, hm⟩ := namedWorld_match eightLetters rfl (by decide +kernel)
  refine ⟨(rm_removes_named_iff namedWorld_wellFormed namedWorld_settled (by decide) plainEnv).mpr
    fun s i he' hi => ?_, hfits, by decide +kernel⟩
  obtain rfl := (outcome_unique he he').2
  obtain rfl := hm.unique hi
  refine .inr ⟨by decide, (spelled_iff hlength he).mpr ?_⟩
  rw [hlast]
  refine ⟨hfits, by decide, ?_⟩
  unfold EndsAtDot
  decide

theorem rm_truncates : namedWorld.fs.WellFormed ∧ namedWorld.session.Settled namedWorld.fs ∧
    (namedWorld.fs.table rootClusterNumber 2).Live ∧ ¬ Fits tenLetters ∧
    (rm plainEnv [tenLetters] namedWorld).map (fun w => decide (w.fs.table rootClusterNumber 2).Live) =
    some false ∧ ¬ RmExact plainEnv tenLetters namedWorld := by
  have hfits : ¬ Fits tenLetters := fun h => absurd h.name (by decide)
  refine ⟨namedWorld_wellFormed, namedWorld_settled, by decide +kernel, hfits, by decide +kernel, fun h => ?_⟩
  obtain ⟨he, hm⟩ := namedWorld_match tenLetters rfl (by decide +kernel)
  rw [rmExact_iff_of_match namedWorld_wellFormed namedWorld_settled (by decide) he hm] at h
  rcases h with h | ⟨-, h⟩
  · have hempty : ¬ Occupied namedWorld.fs rootClusterNumber 2 := by
      unfold Occupied
      decide +kernel
    exact hempty h
  · have hlast := (lastComponent_single tenLetters rfl).2
    exact hfits (hlast ▸ h.fits)

end Semogakelar.Shell
