import Semogakelar.Fat32.Copies
import Semogakelar.Shell.Moving

/-! When `cp` copies a file: the size that it writes is the one it guesses from the buffer. -/

namespace Semogakelar.Shell

open Library Fat32 FileSystem

/-! ### The guess at the size -/

def Blank (f : ℕ → UInt8) (k : ℕ) : Prop := ∀ n < 2048, f (2048 * k + n) = 0

lemma blank_iff {f : ℕ → UInt8} {k : ℕ} :
    ((List.range 2048).all fun n => f (2048 * k + n) == 0) = true ↔ Blank f k := by
  simp only [List.all_eq_true, List.mem_range, beq_iff_eq, Blank]

lemma blank_congr {f g : ℕ → UInt8} {k : ℕ} (h : ∀ n, 2048 * k ≤ n → n < 2048 * (k + 1) → f n = g n) :
    Blank f k ↔ Blank g k := by
  refine forall₂_congr fun n hn => ?_
  rw [h _ (by omega) (by omega)]

lemma findBufferSize_eq (buf : ℕ → UInt8) : ∃ m ≤ 64, findBufferSize buf = UInt32.ofNat (m * 2048) ∧
    (∀ k < m, ¬ Blank buf k) ∧ (m < 64 → Blank buf m) := by
  unfold findBufferSize
  dsimp only
  cases h : (List.range 64).find? fun idx => (List.range 2048).all fun i => buf (2048 * idx + i) == 0 with
  | none =>
    refine ⟨64, le_rfl, rfl, fun k hk hb => ?_, fun hlt => absurd hlt (lt_irrefl _)⟩
    exact List.find?_eq_none.mp h k (List.mem_range.mpr hk) (blank_iff.mpr hb)
  | some m =>
    obtain ⟨hm, hlt, hbefore⟩ := List.find?_range_eq_some.mp h
    refine ⟨m, (List.mem_range.mp hlt).le, rfl, fun k hk hb => ?_, fun _ => blank_iff.mp hm⟩
    have hk := hbefore k hk
    rw [blank_iff.mpr hb] at hk
    cases hk

lemma findBufferSize_eq_iff {buf : ℕ → UInt8} {m : ℕ} (hm : m < 64) {size : UInt32}
    (hsize : size.toNat < 2048 * (m + 1)) (hle : 2048 * m ≤ size.toNat + 2047) :
    findBufferSize buf = size ↔ size.toNat = 2048 * m ∧ (∀ k < m, ¬ Blank buf k) ∧ Blank buf m := by
  obtain ⟨n, hn, he, hbefore, hblank⟩ := findBufferSize_eq buf
  have ht : (findBufferSize buf).toNat = n * 2048 := by
    rw [he, UInt32.toNat_ofNat']
    exact Nat.mod_eq_of_lt (by omega)
  rw [← UInt32.toNat_inj, ht]
  constructor
  · intro h
    obtain rfl : n = m := by omega
    exact ⟨by omega, hbefore, hblank hm⟩
  · rintro ⟨hs, hfull, hb⟩
    rcases lt_trichotomy n m with hlt | rfl | hlt
    · exact (hfull n hlt (hblank (by omega))).elim
    · omega
    · exact (hbefore m hlt hb).elim

/-! ### The run of a copy -/

/-- Where both walks of `cp` start: at the root as soon as one of the arguments is absolute. -/
def copyStart (w : World) (src dest : Str) : World := (w.parsed src).parsed dest

structure CpSucceeds (env : Env) (w : World) (src dest : Str) (w' : World) : Prop where
  written : ∃ buffer w₁, readFile env (splitPath src) (copyStart w src dest) = some (0, buffer, w₁) ∧
    writeTo env ((splitPath src).last env.below) (splitPath dest) buffer (findBufferSize buffer)
      false w₁ = some (0, w')

structure Copies (env : Env) (w : World) (src dest : Str) (source : UInt32) (i : Fin 64) (l : List UInt32)
    (target : UInt32) : Prop where
  entered : ∃ s, (copyStart w src dest).session.changePath w.fs (splitPath src).parents = some (0, s) ∧
    s.currentDirectory = source
  destination : ∃ s, (copyStart w src dest).session.changePath w.fs (splitPath dest).all = some (0, s) ∧
    s.currentDirectory = target
  isDir : w.fs.volume.IsDir source ∧ w.fs.volume.IsDir target
  slot : 2 ≤ i.val
  live : (w.fs.table source i).Live
  file : ¬ (w.fs.table source i).IsFolder
  name : (w.fs.table source i).name = (parseFileName ((splitPath src).last env.below)).2.name
  ext : (w.fs.table source i).ext = (parseFileName ((splitPath src).last env.below)).2.ext
  first : ∀ j < i, ¬ ((w.fs.table source j).name = (w.fs.table source i).name ∧
    (w.fs.table source j).ext = (w.fs.table source i).ext)
  chain : Chain w.fs.volume.link (w.fs.table source i).clusterNumber l
  length : l.length = ((w.fs.table source i).filesize.toNat + 2047) / 2048
  fits : l.length ≤ 32

structure SizeFound (fs : FileSystem) (size : UInt32) (l : List UInt32) (leftover : ℕ → UInt8) : Prop where
  whole : 2048 ∣ size.toNat
  full : ∀ k < l.length, ¬ Blank (fileByte fs l) k
  cleared : Blank leftover l.length

def copyRequest (buf : ℕ → UInt8) (fs : FileSystem) (source : UInt32) (i : Fin 64) (target : UInt32) :
    DriverRequest :=
  ⟨buf, (fs.table source i).name, (fs.table source i).ext, target, (fs.table source i).filesize⟩

variable {env : Env} {w w' : World} {src dest : Str} {fs : FileSystem} {source target : UInt32} {i : Fin 64}
  {l : List UInt32} {buffer : ℕ → UInt8}

lemma CpSucceeds.completes (h : CpSucceeds env w src dest w') : cp env [src, dest] w = some w' := by
  obtain ⟨buffer, w₁, hread, hwrite⟩ := h.written
  have hcp : cp env [src, dest] w = copyFile env (splitPath src) (splitPath dest) (copyStart w src dest) := rfl
  simp [hcp, copyFile, hread, hwrite]

lemma readFile_zero {path : Path} (hs : w.session.Settled w.fs)
    (h : readFile env path w = some (0, buffer, w')) :
    w'.fs = w.fs ∧ w'.session = w.session ∧ ∃ s t, w.session.changePath w.fs path.parents = some (0, s) ∧
      read env.fuel w.fs ⟨env.buffer, (parseFileName (path.last env.below)).2.name,
        (parseFileName (path.last env.below)).2.ext, s.currentDirectory, 2048 * 32⟩ = .returned 0 t ∧
      buffer = t.buf := by
  obtain ⟨⟨retVal, w₁⟩, hc, h⟩ := Option.bind_eq_some_iff.mp h
  obtain ⟨⟨c, s⟩, hp, he⟩ := Option.map_eq_some_iff.mp hc
  obtain ⟨rfl, rfl⟩ := Prod.mk.inj he
  dsimp only at h
  split_ifs at h with hr hname
  · exact absurd (Prod.mk.inj (Option.some.inj h)).1 hr
  · exact absurd (Prod.mk.inj (Option.some.inj h)).1 hname
  obtain rfl := not_not.mp hr
  split at h
  case h_1 code t hread =>
    cases h
    exact ⟨rfl, cancel_settled hs, s, t, hp, hread, rfl⟩
  · cases h
  · cases h

lemma writeTo_file_zero {name : Str} {path : Path} {size : UInt32}
    (h : writeTo env name path buffer size false w = some (0, w')) :
    ∃ s, w.session.changePath w.fs path.all = some (0, s) ∧
      write env.img w.fs ⟨buffer, (parseFileName name).2.name, (parseFileName name).2.ext,
        s.currentDirectory, size⟩ = .returned 0 w'.fs := by
  obtain ⟨⟨retVal, w₁⟩, hc, h⟩ := Option.bind_eq_some_iff.mp h
  obtain ⟨⟨c, s⟩, hp, he⟩ := Option.map_eq_some_iff.mp hc
  obtain ⟨rfl, rfl⟩ := Prod.mk.inj he
  dsimp only at h
  simp only [Bool.false_eq_true, if_false] at h hp
  split_ifs at h with hr
  · exact absurd (Prod.mk.inj (Option.some.inj h)).1 hr
  obtain rfl := not_not.mp hr
  obtain ⟨⟨_, w₂⟩, hst, h⟩ := Option.bind_eq_some_iff.mp h
  cases h
  obtain ⟨fs, hwr, rfl⟩ := store_returned hst
  exact ⟨s, hp, hwr⟩

lemma overcommits_buf {request : DriverRequest} (buf : ℕ → UInt8) :
    Overcommits fs { request with buf := buf } ↔ Overcommits fs request := by
  have haccepted : ∀ s, Accepted fs { request with buf := buf } s ↔ Accepted fs request s := fun s =>
    ⟨fun h => ⟨h.parent, fun j hj hd => h.unmatched j hj ⟨hd.name, hd.ext, hd.attr⟩, h.slot⟩,
      fun h => ⟨h.parent, fun j hj hd => h.unmatched j hj ⟨hd.name, hd.ext, hd.attr⟩, h.slot⟩⟩
  constructor
  · rintro ⟨⟨hz, ⟨s, ha⟩, hleft, hexcess⟩, hadj⟩
    exact ⟨⟨hz, ⟨s, (haccepted s).mp ha⟩, hleft, hexcess⟩, hadj⟩
  · rintro ⟨⟨hz, ⟨s, ha⟩, hleft, hexcess⟩, hadj⟩
    exact ⟨⟨hz, ⟨s, (haccepted s).mpr ha⟩, hleft, hexcess⟩, hadj⟩

section

variable (hw : w.fs.WellFormed) (hs : w.session.Settled w.fs)
include hw hs

lemma CpSucceeds.copies (h : CpSucceeds env w src dest w') : ∃ source i l request,
    Copies env w src dest source i l request.parentClusterNumber ∧ Carries w.fs source i l request ∧
    (∀ n, 2048 * l.length ≤ n → request.buf n = env.buffer n) ∧ request.bufferSize = findBufferSize request.buf ∧
    write env.img w.fs request = .returned 0 w'.fs := by
  have hstart : (copyStart w src dest).session.Settled w.fs := by
    have hsrc := parsed_settled hs src
    rw [← parsed_fs src w] at hsrc
    simpa [copyStart] using parsed_settled hsrc dest
  have hfs : (copyStart w src dest).fs = w.fs := by rw [copyStart, parsed_fs, parsed_fs]
  obtain ⟨_, w₁, hreadFile, hwriteTo⟩ := h.written
  obtain ⟨hfs₁, hsession, s, t, hentered, hread, rfl⟩ := readFile_zero (hfs.symm ▸ hstart) hreadFile
  obtain ⟨s', hdest, hwrite⟩ := writeTo_file_zero hwriteTo
  rw [hsession] at hdest
  rw [hfs₁, hfs] at hdest hwrite
  rw [hfs] at hentered hread
  have hsource := (changePath_settled hw hstart hentered).directory
  obtain ⟨i, hi⟩ := read_zero hw hsource hread
  obtain ⟨l, hl, hlen, -⟩ := hw.sound.chain ⟨hsource, item_of_live hi.slot hi.live⟩
  have hl : Chain w.fs.volume.link (w.fs.table s.currentDirectory i).clusterNumber l := hl
  rw [DirectoryEntry.blocks_of_file hi.file] at hlen
  dsimp only at hlen
  have hsize : (w.fs.table s.currentDirectory i).filesize.toNat ≤ 2048 * 32 := UInt32.le_iff_toNat_le.mp hi.size
  have htransfer : t = (⟨env.buffer, []⟩ : Transfer).copyAll w.fs.disk l := hi.transfer hl
  refine ⟨s.currentDirectory, i, l, _, ?_, ?_, fun n hn => ?_, ?_, hwrite⟩
  · refine ⟨⟨s, hentered, rfl⟩, ⟨s', hdest, rfl⟩, ⟨hsource, (changePath_settled hw hstart hdest).directory⟩,
      hi.slot, hi.live, hi.file, hi.found.name, hi.found.ext, ?_, hl, hlen, by omega⟩
    rw [hi.found.name, hi.found.ext]
    exact hi.found.before
  · refine ⟨hsource, hi.slot, hi.live, hi.file, hl, hi.found.name.symm, hi.found.ext.symm, fun n hn => ?_⟩
    rw [htransfer]
    exact copyAll_fileByte _ l hn
  · rw [htransfer]
    exact copyAll_rest _ l hn
  · rfl

end

lemma findBufferSize_filesize_iff {size : UInt32} (hlen : l.length = (size.toNat + 2047) / 2048)
    (hfits : l.length ≤ 32) (hfile : ∀ n < 2048 * l.length, buffer n = fileByte fs l n)
    (hrest : ∀ n, 2048 * l.length ≤ n → buffer n = env.buffer n) :
    findBufferSize buffer = size ↔ SizeFound fs size l env.buffer := by
  have hblank : ∀ k < l.length, Blank buffer k ↔ Blank (fileByte fs l) k := fun k hk =>
    blank_congr fun n _ hn => hfile n (by omega)
  rw [findBufferSize_eq_iff (m := l.length) (by omega) (by omega) (by omega),
    blank_congr fun n hn _ => hrest n hn]
  constructor
  · rintro ⟨hsize, hfull, hcleared⟩
    exact ⟨⟨l.length, hsize⟩, fun k hk hb => hfull k hk ((hblank k hk).mpr hb), hcleared⟩
  · rintro ⟨⟨m, hm⟩, hfull, hcleared⟩
    exact ⟨by omega, fun k hk hb => hfull k hk ((hblank k hk).mp hb), hcleared⟩

lemma findBufferSize_zero_iff (hpos : 0 < l.length) (hfile : ∀ n < 2048 * l.length, buffer n = fileByte fs l n) :
    findBufferSize buffer = 0 ↔ Blank (fileByte fs l) 0 := by
  rw [findBufferSize_eq_iff (m := 0) (by decide) (by decide) (by decide)]
  have hblank : Blank buffer 0 ↔ Blank (fileByte fs l) 0 := blank_congr fun n _ hn => hfile n (by omega)
  rw [hblank]
  exact ⟨fun h => h.2.2, fun h => ⟨rfl, fun k hk => absurd hk (Nat.not_lt_zero k), h⟩⟩

theorem cp_copies_iff (env : Env) (w w' : World) (src dest : Str) (hw : w.fs.WellFormed)
    (hs : w.session.Settled w.fs) (h : CpSucceeds env w src dest w') :
    cp env [src, dest] w = some w' ∧ ∃ source i l target, Copies env w src dest source i l target ∧
      (HasCopy w.fs w'.fs source i target ↔
        SizeFound w.fs (w.fs.table source i).filesize l env.buffer ∧
            ¬ Overcommits w.fs (copyRequest env.buffer w.fs source i target) ∨
          Blank (fileByte w.fs l) 0 ∧ HasCopy w.fs w.fs source i target) := by
  obtain ⟨source, i, l, request, hcopies, hcar, hrest, hguess, hwrite⟩ := h.copies hw hs
  refine ⟨h.completes, source, i, l, request.parentClusterNumber, hcopies, ?_⟩
  have hlen := hcopies.length
  have hpos : 0 < l.length := List.length_pos_of_mem hcopies.chain.head_mem
  have hsize := findBufferSize_filesize_iff hlen hcopies.fits hcar.buf hrest
  have hzero := findBufferSize_zero_iff hpos hcar.buf
  rw [← hguess] at hsize hzero
  by_cases hz : request.bufferSize = 0
  · have hnot : ¬ SizeFound w.fs (w.fs.table source i).filesize l env.buffer := by
      rw [← hsize, hz]
      intro he
      rw [← he, show (0 : UInt32).toNat = 0 from rfl] at hlen
      omega
    rw [folder_copied_iff hw hcopies.isDir.2 hz hwrite, or_iff_right (fun hh => hnot hh.1),
      and_iff_right (hzero.mp hz)]
  · rw [file_copied_iff hw hcopies.isDir.2 hcar hz hwrite, or_iff_left (fun hh => hz (hzero.mpr hh.1)), ← hsize]
    refine and_congr_right fun he => not_congr ?_
    rw [copyRequest, ← he, ← hcar.name, ← hcar.ext]
    exact (overcommits_buf env.buffer).symm

/-! ### A file beside a folder -/

def shelf (size : UInt32) : Option World := oneFolder.bind fun w =>
  (w.store (write plainImage w.fs ⟨fun _ => 1, padded 8 [0x66], fun _ => 0, rootClusterNumber, size⟩)).map fun r =>
    { r.2 with session := .toRoot r.2.fs }

def shelfRun (w : World) : Option (ℤ × ℤ × World) :=
  (readFile plainEnv (splitPath [0x66]) (copyStart w [0x66] [0x61])).bind fun r =>
    (writeTo plainEnv ((splitPath [0x66]).last []) (splitPath [0x61]) r.2.1 (findBufferSize r.2.1) false r.2.2).map
      fun q => (r.1, q.1, q.2)

lemma not_overcommits_single {request : DriverRequest} (h : request.bufferSize.toNat ≤ 2048) :
    ¬ Overcommits fs request := by
  intro ho
  have he := ho.excess
  rw [numberOfPartition_eq] at he
  exact ho.left (List.length_eq_zero_iff.mp (by omega))

lemma shelf_root {size : UInt32} (hsize : size.toNat ≤ 2048) (h : shelf size = some w) :
    w.fs.WellFormed ∧ w.session.Settled w.fs := by
  obtain ⟨w₁, hone, h⟩ := Option.bind_eq_some_iff.mp h
  obtain ⟨⟨_, w₂⟩, hstore, rfl⟩ := Option.map_eq_some_iff.mp h
  obtain ⟨fs, hwrite, rfl⟩ := store_returned hstore
  exact ⟨(write_kept (oneFolder_root hone).1 Volume.isDir_root (not_overcommits_single hsize) hwrite).1,
    settled_root rfl⟩

structure OnShelf (w : World) (size : UInt32) : Prop where
  directory : w.session.currentDirectory = 2
  only : ∀ j : Fin 64, (w.fs.table 2 j).name = padded 8 [0x66] → j = 3
  folder : ((copyStart w [0x66] [0x61]).session.changePath w.fs (splitPath [0x61]).all).map
    (fun r => r.2.currentDirectory) = some 3
  size : (w.fs.table 2 3).filesize = size
  byte : readClusters w.fs.disk (w.fs.table 2 3).clusterNumber 0 = 1

lemma OnShelf.copies {size : UInt32} (h : OnShelf w size)
    (hc : Copies plainEnv w [0x66] [0x61] source i l target) : source = 2 ∧ i = 3 ∧ target = 3 := by
  obtain ⟨s, hs, rfl⟩ := hc.entered
  obtain ⟨t, ht, rfl⟩ := hc.destination
  cases hs
  have hsource : (copyStart w [0x66] [0x61]).session.currentDirectory = 2 := h.directory
  have hname := hc.name
  have hfolder := h.folder
  rw [hsource] at hname
  rw [ht, Option.map_some, Option.some.injEq] at hfolder
  exact ⟨hsource, h.only i (hname.trans (by decide +kernel)), hfolder⟩

lemma OnShelf.not_blank {size : UInt32} (h : OnShelf w size)
    (hl : Chain w.fs.volume.link (w.fs.table 2 3).clusterNumber l) : ¬ Blank (fileByte w.fs l) 0 := by
  intro hb
  have hhead : l.getD 0 0 = (w.fs.table 2 3).clusterNumber := by cases hl <;> rfl
  have hzero : readClusters w.fs.disk (l.getD 0 0) 0 = 0 := hb 0 (by decide)
  rw [hhead, h.byte] at hzero
  exact absurd hzero (by decide)

lemma shelf_spec (size : UInt32) (hsize : size.toNat ≤ 2048)
    (h : (shelf size).any fun w => decide (w.session.currentDirectory = 2 ∧
      (∀ j : Fin 64, (w.fs.table 2 j).name = padded 8 [0x66] → j = 3) ∧
      ((copyStart w [0x66] [0x61]).session.changePath w.fs (splitPath [0x61]).all).map
        (fun r => r.2.currentDirectory) = some 3 ∧ (w.fs.table 2 3).filesize = size ∧
      readClusters w.fs.disk (w.fs.table 2 3).clusterNumber 0 = 1 ∧
      (shelfRun w).map (fun r => (r.1, r.2.1)) = some (0, 0))) :
    ∃ w w', shelf size = some w ∧ w.fs.WellFormed ∧ w.session.Settled w.fs ∧ OnShelf w size ∧
      CpSucceeds plainEnv w [0x66] [0x61] w' := by
  obtain ⟨w, hw, h⟩ := (Option.any_eq_true _ _).mp h
  obtain ⟨hdir, honly, hfolder, hfilesize, hbyte, hrun⟩ := of_decide_eq_true h
  obtain ⟨⟨_, _, _⟩, hrun, he⟩ := Option.map_eq_some_iff.mp hrun
  cases he
  obtain ⟨⟨_, buffer, w₁⟩, hread, hrun⟩ := Option.bind_eq_some_iff.mp hrun
  obtain ⟨⟨_, w₂⟩, hwrite, he⟩ := Option.map_eq_some_iff.mp hrun
  cases he
  obtain ⟨hwf, hs⟩ := shelf_root hsize hw
  exact ⟨w, w₂, hw, hwf, hs, ⟨hdir, honly, hfolder, hfilesize, hbyte⟩, ⟨buffer, w₁, hread, hwrite⟩⟩

theorem cp_copies_whole_cluster : ∃ w w', shelf 2048 = some w ∧ cp plainEnv [[0x66], [0x61]] w = some w' ∧
    HasCopy w.fs w'.fs 2 3 3 := by
  obtain ⟨w, w', hw, hwf, hs, hon, hrun⟩ := shelf_spec 2048 (by decide) (by decide +kernel)
  obtain ⟨hcp, source, i, l, target, hcopies, hiff⟩ := cp_copies_iff plainEnv w w' [0x66] [0x61] hwf hs hrun
  obtain ⟨rfl, rfl, rfl⟩ := hon.copies hcopies
  have hlen := hcopies.length
  rw [hon.size] at hlen hiff
  refine ⟨w, w', hw, hcp, hiff.mpr (.inl ⟨⟨by decide, fun k hk hb => ?_, fun n _ => rfl⟩,
    not_overcommits_single ?_⟩)⟩
  · obtain rfl : k = 0 := by
      rw [hlen] at hk
      exact Nat.lt_one_iff.mp hk
    exact hon.not_blank hcopies.chain hb
  · have hsize : (copyRequest plainEnv.buffer w.fs 2 3 3).bufferSize = 2048 := hon.size
    rw [hsize]
    decide

theorem cp_changes_size : ∃ w w' l, shelf 1 = some w ∧ w.fs.WellFormed ∧ w.session.Settled w.fs ∧
    CpSucceeds plainEnv w [0x66] [0x61] w' ∧ Copies plainEnv w [0x66] [0x61] 2 3 l 3 ∧
    ¬ HasCopy w.fs w'.fs 2 3 3 := by
  obtain ⟨w, w', hw, hwf, hs, hon, hrun⟩ := shelf_spec 1 (by decide) (by decide +kernel)
  obtain ⟨source, i, l, request, hcopies, hcar, -, hguess, hwrite⟩ := hrun.copies hwf hs
  obtain ⟨rfl, rfl, htarget⟩ := hon.copies hcopies
  have hpos : 0 < l.length := List.length_pos_of_mem hcopies.chain.head_mem
  have hz : request.bufferSize ≠ 0 := by
    rw [hguess, Ne, findBufferSize_zero_iff hpos hcar.buf]
    exact hon.not_blank hcopies.chain
  have hiff := file_copied_iff hwf hcopies.isDir.2 hcar hz hwrite
  rw [htarget] at hcopies hiff
  refine ⟨w, w', l, hw, hwf, hs, hrun, hcopies, fun hcopy => ?_⟩
  have hsize := (hiff.mp hcopy).1
  obtain ⟨m, hm, he, -⟩ := findBufferSize_eq request.buf
  rw [hguess, he, hon.size, ← UInt32.toNat_inj, UInt32.toNat_ofNat', Nat.mod_eq_of_lt (by omega),
    show (1 : UInt32).toNat = 1 from rfl] at hsize
  omega

end Semogakelar.Shell
