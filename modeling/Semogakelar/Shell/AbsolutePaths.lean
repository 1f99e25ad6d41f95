import Semogakelar.Shell.FileNames
import Semogakelar.Shell.Resolution

/-! The directory to which the components of a path lead, and the absolute path of a directory, against what
`change_path` leaves in its three variables. -/

namespace Semogakelar.Shell

open Library Fat32 FileSystem Function

/-! ### Directories and their paths -/

structure FolderAt (fs : FileSystem) (d : UInt32) (i : Fin 64) : Prop where
  slot : 2 ≤ i.val
  live : (fs.table d i).Live
  folder : (fs.table d i).IsFolder

inductive PathTo (fs : FileSystem) : UInt32 → List Str → Prop
  | root : PathTo fs rootClusterNumber []
  | sub {d : UInt32} {names : List Str} {i : Fin 64} : PathTo fs d names → FolderAt fs d i →
      PathTo fs (fs.table d i).clusterNumber (names ++ [fieldText (fs.table d i).name])

def pathText (names : List Str) : Str := slash :: List.intercalate [slash] names

inductive Resolves (fs : FileSystem) : UInt32 → List Str → UInt32 → Prop
  | nil {d : UInt32} : Resolves fs d [] d
  | stay {d d' : UInt32} {names : List Str} : Resolves fs d names d' → Resolves fs d ([dot] :: names) d'
  | up {d p d' : UInt32} {names : List Str} : fs.volume.Dir d p → Resolves fs p names d' →
      Resolves fs d ([dot, dot] :: names) d'
  | down {d d' : UInt32} {i : Fin 64} {name : Str} {names : List Str} : name ≠ [dot] → name ≠ [dot, dot] →
      FolderAt fs d i → (fs.table d i).name = padded 8 name →
      Resolves fs (fs.table d i).clusterNumber names d' → Resolves fs d (name :: names) d'

structure Session.Describes (fs : FileSystem) (d : UInt32) (s : Session) : Prop where
  currentDirectory : s.currentDirectory = d
  currentDirTable : s.currentDirTable = fs.table d
  currentPath : ∃ names, PathTo fs d names ∧ s.currentPath = pathText names

structure NamedFolders (fs : FileSystem) : Prop where
  self : ∀ {d i}, fs.volume.IsDir d → FolderAt fs d i →
    (fs.table (fs.table d i).clusterNumber 0).name = (fs.table d i).name ∧
      (fs.table (fs.table d i).clusterNumber 0).ext = fun _ => 0
  nonempty : ∀ {d i}, fs.volume.IsDir d → FolderAt fs d i → fieldText (fs.table d i).name ≠ []
  unique : ∀ {d i j}, fs.volume.IsDir d → FolderAt fs d i → 2 ≤ j.val → (fs.table d j).Live →
    (fs.table d j).name = (fs.table d i).name → j = i

def NoSlash (fs : FileSystem) : Prop :=
  ∀ d i, fs.volume.IsDir d → FolderAt fs d i → slash ∉ fieldText (fs.table d i).name

variable {fs : FileSystem} {d d' p : UInt32} {i : Fin 64} {name : Str} {names : List Str} {s s' : Session}
  {t t' : Trail} {table : DirectoryTable}

/-! ### The text of a path -/

lemma intercalate_concat (hnames : names ≠ []) :
    [slash].intercalate (names ++ [name]) = [slash].intercalate names ++ slash :: name := by
  induction names with
  | nil => exact (hnames rfl).elim
  | cons first rest ih =>
    by_cases hrest : rest = []
    · simp [hrest, List.intercalate_cons_cons]
    · have hmore : rest ++ [name] ≠ [] := by simp
      rw [List.cons_append, List.intercalate_cons_of_ne_nil hmore, List.intercalate_cons_of_ne_nil hrest, ih hrest]
      simp only [List.append_assoc]

lemma pathText_concat (hnames : names ≠ []) : pathText (names ++ [name]) = pathText names ++ slash :: name := by
  rw [pathText, intercalate_concat hnames]
  rfl

lemma pathText_length (hnames : names ≠ []) (hnonempty : ∀ n ∈ names, n ≠ []) : 1 < (pathText names).length := by
  cases names with
  | nil => exact (hnames rfl).elim
  | cons first rest =>
    have hfirst := List.length_pos_iff.mpr (hnonempty first List.mem_cons_self)
    have htext : first.length ≤ ([slash].intercalate (first :: rest)).length := by
      by_cases hrest : rest = []
      · simp [hrest]
      · rw [List.intercalate_cons_of_ne_nil hrest]
        simp
    rw [pathText, List.length_cons]
    omega

lemma appendCurrentPath_pathText (hnonempty : ∀ n ∈ names, n ≠ []) {text : Str}
    (h : appendCurrentPath (pathText names) name = some text) : text = pathText (names ++ [name]) := by
  rw [appendCurrentPath] at h
  split_ifs at h with hone hfits hfits
  · obtain rfl := Option.some.inj h
    have hnames : names ≠ [] := fun he => hone (by rw [he]; rfl)
    rw [pathText_concat hnames, List.append_assoc]
    rfl
  · obtain rfl := Option.some.inj h
    have hnames : names = [] := by
      by_contra hnames
      have := pathText_length hnames hnonempty
      omega
    subst hnames
    simp [pathText]

lemma dropWhile_name (hname : slash ∉ name) (rest : Str) :
    (name.reverse ++ slash :: rest).dropWhile (· ≠ slash) = slash :: rest := by
  have hpos : ∀ c ∈ name.reverse, decide (c ≠ slash) = true := by
    intro c hc
    exact decide_eq_true fun he => hname (he ▸ List.mem_reverse.mp hc)
  rw [List.dropWhile_append_of_pos hpos]
  simp

lemma retractCurrentPath_pathText (hname : slash ∉ name) :
    retractCurrentPath (pathText (names ++ [name])) = some (pathText names) := by
  by_cases hnames : names = []
  · subst hnames
    have htext : (pathText ([] ++ [name])).reverse = name.reverse ++ slash :: [] := by simp [pathText]
    rw [retractCurrentPath, htext, dropWhile_name hname]
    rfl
  · have htext : (pathText (names ++ [name])).reverse = name.reverse ++ slash :: (pathText names).reverse := by
      rw [pathText_concat hnames]
      simp
    rw [retractCurrentPath, htext, dropWhile_name hname]
    cases hrest : (pathText names).reverse with
    | nil => simp [pathText] at hrest
    | cons c rest =>
      dsimp only
      rw [← hrest, List.reverse_reverse]

/-! ### The name in a table -/

lemma tableEquiv_symm_self (table : DirectoryTable) (j : Fin 32) :
    tableEquiv.symm table ⟨j, by omega⟩ = packEntry (table 0) j := by
  have hrow : rows UInt8 64 32 (tableEquiv.symm table) 0 = entryEquiv.symm (table 0) := by
    rw [Equiv.eq_symm_apply]
    exact congrFun (tableEquiv.apply_symm_apply table) 0
  have hindex : (⟨j, by omega⟩ : Fin (64 * 32)) = finProdFinEquiv (0, j) := by
    apply Fin.ext
    rw [finProdFinEquiv_apply_val]
    rfl
  exact (congrArg (tableEquiv.symm table) hindex).trans (congrFun hrow j)

lemma takeWhile_terminated (bytes rest : Str) :
    (bytes ++ 0 :: rest).takeWhile (· ≠ 0) = bytes.takeWhile (· ≠ 0) := by
  induction bytes with
  | nil => simp
  | cons c bytes ih => rw [List.cons_append, List.takeWhile_cons, List.takeWhile_cons, ih]

lemma ofFn_field {m n : ℕ} {bytes : Fin n → UInt8} {field : Fin m → UInt8} (hm : m < n)
    (hfield : ∀ j : Fin m, bytes ⟨j, by omega⟩ = field j) (hend : bytes ⟨m, hm⟩ = 0) :
    ∃ rest, List.ofFn bytes = List.ofFn field ++ 0 :: rest := by
  refine ⟨(List.ofFn bytes).drop (m + 1), List.ext_getElem ?_ fun j hj hj' => ?_⟩
  · simp only [List.length_append, List.length_cons, List.length_drop, List.length_ofFn]
    omega
  · rw [List.length_ofFn] at hj
    rw [List.getElem_ofFn, List.getElem_append]
    simp only [List.length_ofFn]
    split_ifs with hlow
    · rw [List.getElem_ofFn]
      exact hfield ⟨j, hlow⟩
    · obtain rfl | hhigh := eq_or_lt_of_le (not_lt.mp hlow)
      · simp only [Nat.sub_self, List.getElem_cons_zero]
        exact hend
      · obtain ⟨k, rfl⟩ : ∃ k, j = m + 1 + k := ⟨j - (m + 1), by omega⟩
        have hindex : m + 1 + k - m = k + 1 := by omega
        simp only [hindex, List.getElem_cons_succ, List.getElem_drop, List.getElem_ofFn]

lemma selfName_eq (hext : (table 0).ext = fun _ => 0) : selfName table = some (fieldText (table 0).name) := by
  have hname (j : Fin 8) : tableEquiv.symm table ⟨j, by omega⟩ = (table 0).name j := by
    have hbyte := tableEquiv_symm_self table ⟨j, by omega⟩
    rw [packEntry, dif_pos j.isLt] at hbyte
    exact hbyte
  have hend : tableEquiv.symm table ⟨8, by decide⟩ = 0 := by
    have hbyte := tableEquiv_symm_self table 8
    rw [packEntry, dif_neg (by decide), dif_pos (by decide), hext] at hbyte
    exact hbyte
  obtain ⟨rest, hbytes⟩ := ofFn_field (by decide) hname hend
  have hzero : 0 ∈ List.ofFn (table 0).name ++ 0 :: rest := List.mem_append_right _ List.mem_cons_self
  unfold selfName
  rw [hbytes]
  dsimp only
  rw [if_pos hzero, takeWhile_terminated]
  rfl

/-! ### One component -/

lemma resolves_stay : Resolves fs d ([dot] :: names) d' ↔ Resolves fs d names d' := by
  constructor
  · intro h
    cases h with
    | stay hrest => exact hrest
    | down hne => exact (hne rfl).elim
  · exact .stay

lemma resolves_down (hn : NamedFolders fs) (hd : fs.volume.IsDir d) (hname : name ≠ [dot] ∧ name ≠ [dot, dot])
    (hi : FolderAt fs d i) (he : (fs.table d i).name = padded 8 name) :
    Resolves fs d (name :: names) d' ↔ Resolves fs (fs.table d i).clusterNumber names d' := by
  constructor
  · intro h
    cases h with
    | stay => exact (hname.1 rfl).elim
    | up => exact (hname.2 rfl).elim
    | down _ _ hj hje hrest =>
      obtain rfl := hn.unique hd hi hj.slot hj.live (hje.trans he.symm)
      exact hrest
  · exact .down hname.1 hname.2 hi he

section

variable (hw : fs.WellFormed)
include hw

lemma FolderAt.dir (hd : fs.volume.IsDir d) (h : FolderAt fs d i) : fs.volume.Dir (fs.table d i).clusterNumber d :=
  (folder_settled hw hd h.slot h.folder).1

lemma PathTo.isDir (h : PathTo fs d names) : fs.volume.IsDir d := by
  induction h with
  | root => exact Volume.isDir_root
  | sub _ hi ih => exact (hi.dir hw ih).isDir

lemma Session.Describes.isDir (h : s.Describes fs d) : fs.volume.IsDir d := by
  obtain ⟨names, hnames, -⟩ := h.currentPath
  exact hnames.isDir hw

lemma Session.Describes.up (hslash : NoSlash fs) (h : t.session.Describes fs d) (hroot : t.path ≠ rootPath)
    (hp : parentDirectory fs t = some t') : ∃ p, fs.volume.Dir d p ∧ t'.session.Describes fs p := by
  obtain ⟨path, hpath, rfl⟩ := Option.map_eq_some_iff.mp hp
  obtain ⟨names, hnames, htext⟩ := h.currentPath
  have htext : t.path = pathText names := htext
  cases hnames with
  | root => exact (hroot htext).elim
  | @sub p names i hnames hi =>
    have hpd := hnames.isDir hw
    have hdir := hi.dir hw hpd
    have hparent : (t.table 1).clusterNumber = p := by
      have htable : t.table = fs.table (fs.table p i).clusterNumber := h.currentDirTable
      rw [htable, (hw.parent hdir).cluster]
    rw [htext, retractCurrentPath_pathText (hslash p i hpd hi)] at hpath
    obtain rfl := Option.some.inj hpath
    rw [hparent]
    exact ⟨p, hdir, rfl, rfl, names, hnames, rfl⟩

lemma resolves_up (hdir : fs.volume.Dir d p) :
    Resolves fs d ([dot, dot] :: names) d' ↔ Resolves fs p names d' := by
  constructor
  · intro h
    cases h with
    | up hdir' hrest =>
      rw [hw.sound.dir_parent_unique hdir' hdir] at hrest
      exact hrest
    | down _ hne => exact (hne rfl).elim
  · exact .up hdir

variable (hn : NamedFolders fs)
include hn

lemma PathTo.nonempty (h : PathTo fs d names) : ∀ n ∈ names, n ≠ [] := by
  induction h with
  | root => exact fun n hmem => (List.not_mem_nil hmem).elim
  | sub hd hi ih =>
    intro n hmem
    obtain hmem | hmem := List.mem_append.mp hmem
    · exact ih n hmem
    · rw [List.mem_singleton.mp hmem]
      exact hn.nonempty (hd.isDir hw) hi

/-- Dead slots have an empty name and live ones their own, so the search by name ends at the folder. -/
lemma FolderAt.findName (hd : fs.volume.IsDir d) (h : FolderAt fs d i)
    (hname : (fs.table d i).name = padded 8 name) :
    findName (fs.table d) 2 (padded 8 name) = some i := by
  refine findName_eq_some.mpr ⟨⟨h.slot, hname⟩, fun j hj hslot he => ?_⟩
  by_cases hlive : (fs.table d j).Live
  · exact absurd (hn.unique hd h hslot hlive (he.trans hname.symm)) hj.ne
  · rw [hw.dead hd j hslot hlive] at he
    refine hn.nonempty hd h ?_
    rw [hname, ← he]
    rfl

lemma Session.Describes.down {code : ℤ} (h : t.session.Describes fs d)
    (hc : changeDirectory .shared fs name t = some (code, t')) :
    (code = 0 ∧ ∃ i, FolderAt fs d i ∧ (fs.table d i).name = padded 8 name ∧
      t'.session.Describes fs (fs.table d i).clusterNumber) ∨
    (code ≠ 0 ∧ ∀ i, FolderAt fs d i → (fs.table d i).name ≠ padded 8 name) := by
  have hd := h.isDir hw
  have hcluster : t.cluster = d := h.currentDirectory
  obtain ⟨q, hdir⟩ := h.isDir hw
  by_cases hcode : code = 0
  · subst hcode
    obtain ⟨i, hi, hf, hnext, htable, own, hown, hpath⟩ := changeDirectory_zero hc
    rw [hcluster] at hi hf hnext htable hown
    obtain ⟨⟨hslot, hname⟩, -⟩ := findName_eq_some.mp hi
    have hfolder : FolderAt fs d i := ⟨hslot, live_of_isFolder hw hd hslot hf, hf⟩
    obtain ⟨hself, hext⟩ := hn.self hd hfolder
    obtain ⟨names, hnames, htext⟩ := h.currentPath
    refine .inl ⟨rfl, i, hfolder, hname, ?_, htable, _, .sub hnames hfolder, ?_⟩
    · exact hnext.trans (folder_settled hw hd hslot hf).2
    · rw [selfName_eq hext, hself] at hown
      obtain rfl := Option.some.inj hown
      have htext : t.path = pathText names := htext
      rw [htext] at hpath
      exact appendCurrentPath_pathText (hnames.nonempty hw hn) hpath
  · refine .inr ⟨hcode, fun i hi hname => hcode ?_⟩
    refine changeDirectory_code hc ?_
    rw [hcluster]
    exact readDirectory_folder (hw.self hdir).folder (hi.findName hw hn hd hname) hi.folder

/-! ### Every list of components -/

lemma walk_resolves (hslash : NoSlash fs) {code : ℤ} (h : t.session.Describes fs d)
    (hwalk : walk .shared fs names t = some (code, t')) :
    (code = 0 → ∃ d', Resolves fs d names d' ∧ t'.session.Describes fs d') ∧
    (code ≠ 0 → ¬ ∃ d', Resolves fs d names d') := by
  induction names generalizing t d with
  | nil =>
    cases hwalk
    exact ⟨fun _ => ⟨d, .nil, h⟩, fun hcode => (hcode rfl).elim⟩
  | cons name names ih =>
    unfold walk at hwalk
    split_ifs at hwalk with hup hroot hstay
    · obtain ⟨t₁, hp, hwalk⟩ := Option.bind_eq_some_iff.mp hwalk
      obtain ⟨p, hdir, hnext⟩ := h.up hw hslash hroot hp
      subst hup
      simp only [resolves_up hw hdir]
      exact ih hnext hwalk
    · subst hstay
      simp only [resolves_stay]
      exact ih h hwalk
    · obtain ⟨⟨c, t₁⟩, hc, hwalk⟩ := Option.bind_eq_some_iff.mp hwalk
      obtain ⟨rfl, i, hi, hname, hnext⟩ | ⟨hc₀, hnone⟩ := h.down hw hn hc
      · simp only [resolves_down hn (h.isDir hw) ⟨hstay, hup⟩ hi hname]
        exact ih hnext hwalk
      · dsimp only at hwalk
        rw [if_neg hc₀] at hwalk
        cases hwalk
        refine ⟨fun hcode => (hc₀ hcode).elim, fun _ => ?_⟩
        rintro ⟨d', hd'⟩
        cases hd' with
        | stay => exact hstay rfl
        | up => exact hup rfl
        | down _ _ hj hjname => exact hnone _ hj hjname

end

theorem change_path_resolves (hw : fs.WellFormed) (hn : NamedFolders fs) (hslash : NoSlash fs)
    (hs : s.Describes fs d) {code : ℤ} (h : s.changePath fs names = some (code, s')) :
    (code = 0 → ∃ d', Resolves fs d names d' ∧ s'.Describes fs d') ∧
    (code ≠ 0 → (¬ ∃ d', Resolves fs d names d') ∧ s' = s) := by
  unfold Session.changePath at h
  split_ifs at h with hnames
  · cases h
    subst hnames
    exact ⟨fun _ => ⟨d, .nil, hs⟩, fun hcode => (hcode rfl).elim⟩
  · obtain ⟨⟨c, t⟩, hwalk, he⟩ := Option.map_eq_some_iff.mp h
    obtain ⟨rfl, rfl⟩ := Prod.mk.inj he
    have hstart : s.trail.session.Describes fs d := hs
    obtain ⟨hzero, hfail⟩ := walk_resolves hw hn hslash hstart hwalk
    refine ⟨fun hcode => ?_, fun hcode => ⟨hfail hcode, if_neg hcode⟩⟩
    obtain ⟨d', hd', hdescribes⟩ := hzero hcode
    refine ⟨d', hd', ?_⟩
    rw [if_pos hcode]
    exact hdescribes

/-! ### Trees with folders -/

lemma createFat32_namedFolders {img : KernelImage} : NamedFolders (createFat32 img fs) := by
  have hnone {d : UInt32} {i : Fin 64} (hd : (createFat32 img fs).volume.IsDir d) :
    ¬ FolderAt (createFat32 img fs) d i :=
    fun hi => createFat32_no_entry ⟨hd, item_of_live hi.slot hi.live⟩
  exact ⟨fun hd hi => (hnone hd hi).elim, fun hd hi => (hnone hd hi).elim, fun hd hi => (hnone hd hi).elim⟩

lemma initDirectoryTable_self (img : KernelImage) {k : Fin 512} (hk : findEmptyCluster fs.driver.fatTable = some k)
    (name : Name) (p : UInt32) : ((initDirectoryTable img fs name p).1 0).name = name ∧
      ((initDirectoryTable img fs name p).1 0).ext = fun _ => 0 := by
  rw [initDirectoryTable, hk, Option.elim_some]
  dsimp only
  split_ifs
  · exact ⟨rfl, rfl⟩
  · exact ⟨rfl, rfl⟩

section

variable {img : KernelImage} {request : DriverRequest} {k : Fin 512} (hw : fs.WellFormed)
  (hp : fs.volume.IsDir request.parentClusterNumber) (hk : findEmptyCluster fs.driver.fatTable = some k)
  (ha : Accepted fs request i)
include hw hp hk ha

lemma folderWritten_namedFolders (hn : NamedFolders fs) (hname : fieldText request.name ≠ [])
    (hfresh : ∀ j : Fin 64, 2 ≤ j.val → (fs.table request.parentClusterNumber j).Live →
      (fs.table request.parentClusterNumber j).name ≠ request.name) :
    NamedFolders (folderWritten img fs request i k) := by
  have hadded : EntryAdded fs (folderWritten img fs request i k) _ _ _ _ := folderWritten_added hw hp hk ha
  have hself : (folderWritten img fs request i k).table request.parentClusterNumber i =
    folderEntry fs request i k :=
    hadded.slot_self
  have hcases {d : UInt32} {j : Fin 64} (hd : (folderWritten img fs request i k).volume.IsDir d)
      (hj : FolderAt (folderWritten img fs request i k) d j) : (d = request.parentClusterNumber ∧ j = i) ∨
      (fs.volume.IsDir d ∧ FolderAt fs d j ∧ (folderWritten img fs request i k).table d j = fs.table d j) := by
    obtain hnew | ⟨hold, htable⟩ := hadded.live_cases hw hp hd hj.slot hj.live
    · exact .inl hnew
    · exact .inr ⟨hold, ⟨hj.slot, htable ▸ hj.live, htable ▸ hj.folder⟩, htable⟩
  refine ⟨fun {d j} hd hj => ?_, fun {d j} hd hj => ?_, fun {d j m} hd hj hm hlive he => ?_⟩
  · obtain ⟨rfl, rfl⟩ | ⟨hold, hfolder, htable⟩ := hcases hd hj
    · have hcluster : (folderEntry fs request j k).clusterNumber = UInt32.ofNat k := clusterNumber_init _ _ _ _ _ _
      rw [hself, hcluster, folderWritten_created hw hp hk]
      exact initDirectoryTable_self img hk _ _
    · have hdir := (hfolder.dir hw hold).isDir
      rw [htable, hadded.reserved_slot (hw.sound.dir_usable hdir) (hadded.not_mem hw hdir) 0 (by decide)]
      exact hn.self hold hfolder
  · obtain ⟨rfl, rfl⟩ | ⟨hold, hfolder, htable⟩ := hcases hd hj
    · rw [hself]
      exact hname
    · rw [htable]
      exact hn.nonempty hold hfolder
  · obtain ⟨rfl, rfl⟩ | ⟨hold, hfolder, htable⟩ := hcases hd hj
    · obtain ⟨-, rfl⟩ | ⟨-, htable'⟩ := hadded.live_cases hw hp hd hm hlive
      · rfl
      · rw [htable'] at hlive he
        rw [hself] at he
        exact (hfresh m hm hlive he).elim
    · obtain ⟨rfl, rfl⟩ | ⟨-, htable'⟩ := hadded.live_cases hw hp hd hm hlive
      · rw [hself, htable] at he
        exact (hfresh j hfolder.slot hfolder.live he.symm).elim
      · rw [htable'] at hlive he
        rw [htable] at he
        exact hn.unique hold hfolder hm hlive he

end

def rootFolder (name : Str) : FileSystem :=
  folderWritten plainImage formatted ⟨fun _ => 0, padded 8 name, fun _ => 0, rootClusterNumber, 0⟩ 2 3

def inRootFolder (name : Str) : Session := ⟨3, slash :: name, (rootFolder name).table 3⟩

section RootFolder

variable (hname : fieldText (padded 8 name) = name) (hnonempty : name ≠ [])
include hname hnonempty

lemma rootFolder_accepted :
    Accepted formatted ⟨fun _ => 0, padded 8 name, fun _ => 0, rootClusterNumber, 0⟩ 2 := by
  refine formatted_accepts rfl fun he => hnonempty ?_
  rw [← hname, show padded 8 name = fun _ => 0 from he]
  rfl

lemma rootFolder_wellFormed : (rootFolder name).WellFormed :=
  folderWritten_wellFormed formatted_wellFormed formatted_isDir (by decide +kernel) rfl
    (rootFolder_accepted hname hnonempty)

lemma rootFolder_namedFolders : NamedFolders (rootFolder name) := by
  refine folderWritten_namedFolders formatted_wellFormed formatted_isDir (by decide +kernel)
    (rootFolder_accepted hname hnonempty) createFat32_namedFolders ?_ fun j hj hlive => ?_
  · exact hname.symm ▸ hnonempty
  · rw [show formatted.table _ j = .zero from formatted_rootTable.2.2 j hj] at hlive
    exact (EntryAdded.not_live_zero hlive).elim

lemma rootFolder_folderAt : FolderAt (rootFolder name) rootClusterNumber 2 ∧
    ((rootFolder name).table rootClusterNumber 2).name = padded 8 name ∧
    ((rootFolder name).table rootClusterNumber 2).clusterNumber = 3 := by
  have hself : (rootFolder name).table rootClusterNumber 2 = folderEntry formatted _ 2 3 :=
    (folderWritten_added formatted_wellFormed formatted_isDir (by decide +kernel)
      (rootFolder_accepted hname hnonempty)).slot_self
  rw [hself]
  exact ⟨⟨by decide, hself ▸ rfl, hself ▸ rfl⟩, rfl, clusterNumber_init _ _ _ _ _ _⟩

lemma rootFolder_noSlash (hslash : slash ∉ name) : NoSlash (rootFolder name) := by
  intro d i hd hi
  have hadded : EntryAdded formatted (rootFolder name) _ _ _ _ :=
    folderWritten_added formatted_wellFormed formatted_isDir
    (by decide +kernel) (rootFolder_accepted hname hnonempty)
  obtain ⟨rfl, rfl⟩ | ⟨hold, htable⟩ := hadded.live_cases formatted_wellFormed formatted_isDir hd hi.slot hi.live
  · rw [(rootFolder_folderAt hname hnonempty).2.1, hname]
    exact hslash
  · exact (createFat32_no_entry ⟨hold, item_of_live hi.slot (htable ▸ hi.live)⟩).elim

lemma inRootFolder_describes : (inRootFolder name).Describes (rootFolder name) 3 := by
  obtain ⟨hfolder, hentry, hcluster⟩ := rootFolder_folderAt hname hnonempty
  have hpath : PathTo (rootFolder name) _ _ := .sub .root hfolder
  rw [hcluster, hentry, hname] at hpath
  exact ⟨rfl, rfl, _, hpath, by simp [inRootFolder, pathText]⟩

end RootFolder

lemma PathTo.root_nil (hw : fs.WellFormed) (h : PathTo fs d names) (hd : d = rootClusterNumber) : names = [] := by
  cases h with
  | root => rfl
  | sub hnames hi =>
    have hentry := hw.sound.head_usable ⟨hnames.isDir hw, item_of_live hi.slot hi.live⟩
    exact (Usable.ne_root hentry hd).elim

theorem change_path_resolves_there_and_back : ∃ s', (inRootFolder [0x61]).changePath (rootFolder [0x61])
      [[dot, dot], [0x61]] = some (0, s') ∧
    ∃ d', Resolves (rootFolder [0x61]) 3 [[dot, dot], [0x61]] d' ∧ s'.Describes (rootFolder [0x61]) d' := by
  have hcode : ((inRootFolder [0x61]).changePath (rootFolder [0x61]) [[dot, dot], [0x61]]).map
      Prod.fst = some 0 := by
    decide +kernel
  obtain ⟨⟨code, s'⟩, hpath, rfl⟩ := Option.map_eq_some_iff.mp hcode
  have hname : fieldText (padded 8 [0x61]) = [0x61] := by decide
  have hnonempty : ([0x61] : Str) ≠ [] := by decide
  refine ⟨s', hpath, (change_path_resolves (rootFolder_wellFormed hname hnonempty)
    (rootFolder_namedFolders hname hnonempty) (rootFolder_noSlash hname hnonempty (by decide))
    (inRootFolder_describes hname hnonempty) hpath).1 rfl⟩

/-- Going up from a folder with the name `a/b`, the shell takes `/a` for the path of the root. -/
theorem change_path_keeps_slash : ¬ ∀ (fs : FileSystem) (d : UInt32) (s s' : Session)
    (names : List Str) (code : ℤ),
    fs.WellFormed → NamedFolders fs → s.Describes fs d → s.changePath fs names = some (code, s') →
      (code = 0 → ∃ d', Resolves fs d names d' ∧ s'.Describes fs d') ∧
      (code ≠ 0 → (¬ ∃ d', Resolves fs d names d') ∧ s' = s) := by
  intro h
  have hname : fieldText (padded 8 [0x61, slash, 0x62]) = [0x61, slash, 0x62] := by decide
  have hnonempty : ([0x61, slash, 0x62] : Str) ≠ [] := by decide
  have hw := rootFolder_wellFormed hname hnonempty
  have hup : ((inRootFolder [0x61, slash, 0x62]).changePath (rootFolder [0x61, slash, 0x62]) [[dot, dot]]).map
      (fun r => (r.1, r.2.currentDirectory, r.2.currentPath)) = some (0, rootClusterNumber, [slash, 0x61]) := by
    decide +kernel
  obtain ⟨⟨code, s'⟩, hpath, he⟩ := Option.map_eq_some_iff.mp hup
  simp only [Prod.mk.injEq] at he
  obtain ⟨rfl, hdirectory, htext⟩ := he
  obtain ⟨d', -, hdescribes⟩ := (h _ 3 _ s' _ 0 hw (rootFolder_namedFolders hname hnonempty)
    (inRootFolder_describes hname hnonempty) hpath).1 rfl
  obtain ⟨names, hnames, htext'⟩ := hdescribes.currentPath
  have hnil := hnames.root_nil hw (hdescribes.currentDirectory.symm.trans hdirectory)
  rw [htext, hnil] at htext'
  exact absurd htext' (by decide)

end Semogakelar.Shell
