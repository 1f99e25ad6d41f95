import Semogakelar.Fat32.Contents
import Semogakelar.Fat32.Host
import Semogakelar.Shell.Paths

/-! The program that puts files into a disk image on the host, and that the kernel finds them there. -/

namespace Semogakelar.Fat32.Inserter

open Library Function FileSystem Shell
open Host (Image diskOf)

/-! ### A run of the program -/

/-- What a run depends on: the linked program, the contents of the file if it can be opened, what `malloc` hands
out, `argv[1]`, and the number in `argv[2]`. -/
structure Insertion where
  img : KernelImage
  file : Option (List UInt8)
  heap : ℕ → UInt8
  argument : Str
  parent : UInt32

def isSpace (c : UInt8) : Bool := c == 0x20 || (0x09 ≤ c && c ≤ 0x0D)

/-- The word that `%s` reads. -/
def scanWord (s : Str) : Str := (s.dropWhile isSpace).takeWhile fun c => !isSpace c

namespace Insertion

/-- At most 4 MiB are read, but the size is that of the whole file. -/
def fileBuffer (ins : Insertion) : ℕ → UInt8 := fun j =>
  (((ins.file.getD []).take (4 * 1024 * 1024))[j]?).getD (ins.heap j)

def filesize (ins : Insertion) : ℕ := (ins.file.getD []).length

def filename (ins : Insertion) : Str := scanWord ins.argument

/-- The code of `parse_file_name` is ignored. -/
def request (ins : Insertion) : DriverRequest where
  buf := ins.fileBuffer
  name := (parseFileName ins.filename).2.name
  ext := (parseFileName ins.filename).2.ext
  parentClusterNumber := ins.parent
  bufferSize := UInt32.ofNat ins.filesize

/-- No result where the run leaves its memory: past the image, past the 20 characters of `filename`, or at the
store to a literal. The image is written back only at the end. -/
def main (ins : Insertion) (image : Image) : Option (ℤ × Image) := do
  let st ← Host.initializeFilesystemFat32 ins.img ⟨.zeroed, image⟩
  if 20 ≤ ins.filename.length then none
  else
    let (retcode, st) ← Host.write st ins.request
    some (retcode, st.image)

end Insertion

structure Inserts (image : Image) (ins : Insertion) (retcode : ℤ) (image' : Image) : Prop where
  main : ins.main image = some (retcode, image')
  parent : retcode = 0 → (boot ins.img (diskOf image)).volume.IsDir ins.parent
  room : retcode = 0 → ¬ Overcommits (boot ins.img (diskOf image)) ins.request

variable {image image' : Image} {img : KernelImage} {fs : FileSystem} {request : DriverRequest} {ins : Insertion}
  {retcode : ℤ} {p : UInt32} {name : Name} {ext : Ext} {content : List UInt8}

/-! ### The driver of the host and that of the kernel -/

lemma main_eq_some (h : ins.main image = some (retcode, image')) : ∃ st st',
    st.fileSystem = boot ins.img (diskOf image) ∧ Host.write st ins.request = some (retcode, st') ∧
      image' = st'.image := by
  obtain ⟨st, hst, hboot⟩ := Host.initializeFilesystemFat32_eq ins.img image
  rw [Insertion.main, hst] at h
  simp only [Option.bind_eq_bind, Option.bind_some] at h
  split_ifs at h
  obtain ⟨⟨code, st'⟩, hwr, he⟩ := Option.bind_eq_some_iff.mp h
  obtain ⟨rfl, rfl⟩ := Prod.mk.inj (Option.some.inj he)
  exact ⟨st, st', hboot, hwr, rfl⟩

lemma Inserts.outcome (h : Inserts image ins retcode image') (hw : (boot ins.img (diskOf image)).WellFormed) :
    ∃ fs, fs.disk = diskOf image' ∧
      (retcode = 0 → write ins.img (boot ins.img (diskOf image)) ins.request = .returned 0 fs) ∧
      (retcode ≠ 0 → fs = boot ins.img (diskOf image)) := by
  obtain ⟨st, st', hboot, hwr, rfl⟩ := main_eq_some h.main
  refine ⟨st'.fileSystem, rfl, fun hcode => ?_, fun hcode => ?_⟩
  · have hp := (hw.dir_lt (h.parent hcode)).2
    rw [Host.write_eq ins.img (hp.trans (by decide))] at hwr
    rw [← hboot, Host.hosted_eq_some hwr, hcode]
  · rw [Host.write_failed hwr hcode, hboot]

/-! ### Every sequence of runs -/

structure Sealed (image : Image) : Prop where
  signed : isEmptyStorage (diskOf image) = false
  wellFormed : ∀ img, (boot img (diskOf image)).WellFormed

lemma sealed_of_wellFormed (hw : fs.WellFormed) (hs : isEmptyStorage fs.disk = false)
    (hdisk : fs.disk = diskOf image) (img : KernelImage) :
    SameVolume fs (boot img (diskOf image)) ∧ Sealed image := by
  rw [← hdisk]
  exact ⟨hw.sameVolume_boot hs img, hdisk ▸ hs, fun img => hdisk ▸ (hw.sameVolume_boot hs img).wellFormed hw⟩

def Insertable (image : Image) : Prop := isEmptyStorage (diskOf image) = true ∨ Sealed image

lemma Insertable.mounted (h : Insertable image) (img : KernelImage) :
    (boot img (diskOf image)).WellFormed ∧ isEmptyStorage (boot img (diskOf image)).disk = false := by
  obtain hblank | hsealed := h
  · have hboot : boot img (diskOf image) = createFat32 img ⟨.zeroed, diskOf image, .intact⟩ := by
      rw [boot, initializeFilesystemFat32, if_pos hblank]
    rw [hboot]
    exact ⟨createFat32_wellFormed, createFat32_signed img _⟩
  · refine ⟨hsealed.wellFormed img, ?_⟩
    rw [boot_eq img hsealed.signed]
    exact hsealed.signed

lemma Inserts.step (h : Inserts image ins retcode image') (hu : Insertable image) (img : KernelImage) :
    Sealed image' ∧ (∀ {p name ext content}, Holds (boot ins.img (diskOf image)) p name ext content →
      Holds (boot img (diskOf image')) p name ext content) ∧
    ∀ content, retcode = 0 → ins.file = some content → content ≠ [] → content.length ≤ 2 ^ 22 →
      Holds (boot img (diskOf image')) ins.parent ins.request.name ins.request.ext content := by
  obtain ⟨hw, hs⟩ := hu.mounted ins.img
  obtain ⟨fs, hdisk, hwritten, hrefused⟩ := h.outcome hw
  by_cases hcode : retcode = 0
  · have hwr := hwritten hcode
    obtain ⟨hw', hboot⟩ := write_kept hw (h.parent hcode) (h.room hcode) hwr
    obtain ⟨hsame, hsealed⟩ := sealed_of_wellFormed hw' ((isEmptyStorage_congr hboot).trans hs) hdisk img
    refine ⟨hsealed, fun hh => (hh.write hw (h.parent hcode) (h.room hcode) hwr).same hsame,
      fun content _ hfile hpos hmax => ?_⟩
    refine Holds.same
      (holds_of_write hw (h.parent hcode) (h.room hcode) hwr hpos (by omega) ?_ fun j hj => ?_) hsame
    · rw [Insertion.request, Insertion.filesize, hfile]
      rfl
    · have hj' : j < 4 * 1024 * 1024 := by omega
      change (((ins.file.getD []).take (4 * 1024 * 1024))[j]?).getD (ins.heap j) = content[j]
      rw [hfile, Option.getD_some, List.getElem?_take, if_pos hj', List.getElem?_eq_getElem hj, Option.getD_some]
  · rw [hrefused hcode] at hdisk
    obtain ⟨hsame, hsealed⟩ := sealed_of_wellFormed hw hs hdisk img
    exact ⟨hsealed, fun hh => hh.same hsame, fun _ hzero => (hcode hzero).elim⟩

lemma holds_run {insertions : List Insertion} {retcodes : List ℤ}
    (hrun : Run Inserts image insertions retcodes image') (hsealed : Sealed image) (img : KernelImage)
    (h : Holds (boot img (diskOf image)) p name ext content) :
    Holds (boot img (diskOf image')) p name ext content := by
  induction hrun with
  | nil => exact h
  | @cons image image₁ image' ins retcode insertions retcodes hi _ ih =>
    have hboot : boot ins.img (diskOf image) = boot img (diskOf image) := by
      rw [boot_eq _ hsealed.signed, boot_eq _ hsealed.signed]
    obtain ⟨hsealed₁, hkept, -⟩ := hi.step (.inr hsealed) img
    rw [← hboot] at h
    exact ih hsealed₁ (hkept h)

lemma run_holds {insertions : List Insertion} {retcodes : List ℤ}
    (hrun : Run Inserts image insertions retcodes image') (hu : Insertable image) (img : KernelImage) :
    Insertable image' ∧ ((ins, 0) ∈ insertions.zip retcodes → ins.file = some content → content ≠ [] →
    content.length ≤ 2 ^ 22 →
      Holds (boot img (diskOf image')) ins.parent ins.request.name ins.request.ext content) := by
  induction hrun with
  | nil => exact ⟨hu, fun hmem => (List.not_mem_nil hmem).elim⟩
  | @cons image image₁ image' ins₁ retcode insertions retcodes hi hrest ih =>
    obtain ⟨hsealed, -, hnew⟩ := hi.step hu img
    obtain ⟨hu', hold⟩ := ih (.inr hsealed)
    refine ⟨hu', fun hmem hfile hpos hmax => ?_⟩
    rw [List.zip_cons_cons, List.mem_cons] at hmem
    obtain he | hmem := hmem
    · obtain ⟨rfl, rfl⟩ := Prod.mk.inj he
      exact holds_run hrest hsealed img (hnew content rfl hfile hpos hmax)
    · exact hold hmem hfile hpos hmax

theorem inserted_file_reads_back {insertions : List Insertion} {retcodes : List ℤ}
    (hblank : isEmptyStorage (diskOf image) = true) (hrun : Run Inserts image insertions retcodes image')
    (hmem : (ins, 0) ∈ insertions.zip retcodes) (hfile : ins.file = some content) (hpos : content ≠ [])
    (hmax : content.length ≤ 2 ^ 22)
    (hname : ¬ (ins.request.name = (fun _ => 0) ∧ ins.request.ext = fun _ => 0)) (img : KernelImage)
    (honly : ∀ j : Fin 64, ((boot img (diskOf image')).table ins.parent j).attr ≠ 0 →
      ¬ (((boot img (diskOf image')).table ins.parent j).name = ins.request.name ∧
        ((boot img (diskOf image')).table ins.parent j).ext = ins.request.ext))
    (hparent : request.parentClusterNumber = ins.parent) (hrequest : request.name = ins.request.name ∧
      request.ext = ins.request.ext) (hsize : UInt32.ofNat content.length ≤ request.bufferSize) :
    (boot img (diskOf image')).WellFormed ∧ ∃ enough t,
      (∀ fuel, enough ≤ fuel → read fuel (boot img (diskOf image')) request = .returned 0 t) ∧
      ∀ j (h : j < content.length), t.buf j = content[j] := by
  obtain ⟨hu, hholds⟩ := @run_holds _ _ ins content _ _ hrun (.inl hblank) img
  have hw := (hu.mounted img).1
  obtain ⟨i, l, hi⟩ := hholds hmem hfile hpos hmax
  have hfirst := hi.firstMatch hw hname honly hrequest
  refine ⟨hw, l.length + 1, _, fun fuel hfuel => hi.read_eq hw hfirst hparent hsize hfuel, fun j hj => ?_⟩
  have hlen := hi.length
  rw [copyAll_fileByte _ l (by omega), hi.bytes j hj]

lemma filesOnly_blank (hblank : isEmptyStorage (diskOf image) = true) (img : KernelImage) :
    FilesOnly (boot img (diskOf image)) := by
  rw [boot, initializeFilesystemFat32, if_pos hblank]
  exact createFat32_filesOnly img rfl

structure IntoRoot (ins : Insertion) : Prop where
  parent : ins.parent = rootClusterNumber
  file : ins.request.bufferSize ≠ 0

lemma Inserts.filesOnly (h : Inserts image ins retcode image') (hu : Insertable image) (hroot : IntoRoot ins)
    (hfiles : FilesOnly (boot ins.img (diskOf image))) (img : KernelImage) :
    FilesOnly (boot img (diskOf image')) := by
  obtain ⟨hw, hs⟩ := hu.mounted ins.img
  obtain ⟨fs, hdisk, hwritten, hrefused⟩ := h.outcome hw
  by_cases hcode : retcode = 0
  · have hwr := hwritten hcode
    obtain ⟨hw', hboot⟩ := write_kept hw (h.parent hcode) (h.room hcode) hwr
    obtain ⟨hsame, -⟩ := sealed_of_wellFormed hw' ((isEmptyStorage_congr hboot).trans hs) hdisk img
    obtain ⟨i, e, l, hadded⟩ := write_written hw (h.parent hcode) (h.room hcode) hwr
    exact (hfiles.written hadded hroot.parent hroot.file).same hsame
  · rw [hrefused hcode] at hdisk
    exact hfiles.same (sealed_of_wellFormed hw hs hdisk img).1

lemma filesOnly_run {insertions : List Insertion} {retcodes : List ℤ}
    (hrun : Run Inserts image insertions retcodes image') (hu : Insertable image)
    (hroot : ∀ ins ∈ insertions, IntoRoot ins) (hfiles : ∀ img, FilesOnly (boot img (diskOf image)))
    (img : KernelImage) :
    FilesOnly (boot img (diskOf image')) := by
  induction hrun with
  | nil => exact hfiles img
  | @cons image image₁ image' ins retcode insertions retcodes hi _ ih =>
    obtain ⟨hins, hrest⟩ := List.forall_mem_cons.mp hroot
    exact ih (.inr (hi.step hu img).1) hrest fun img => hi.filesOnly hu hins (hfiles ins.img) img

/-! ### The first run -/

lemma blank_insertion (hblank : isEmptyStorage (diskOf image) = true) (hroot : IntoRoot ins)
    (hshort : ins.filename.length < 20) (hname : ins.request.name ≠ fun _ => 0)
    (hfits : ins.request.bufferSize.toNat ≤ 2 ^ 20 - 2 ^ 13) :
    ∃ image', Inserts image ins 0 image' := by
  have hboot : boot ins.img (diskOf image) = createFat32 ins.img ⟨.zeroed, diskOf image, .intact⟩ := by
    rw [boot, initializeFilesystemFat32, if_pos hblank]
  have hn : numberOfPartition ins.request.bufferSize ≤
      (emptyClusters (boot ins.img (diskOf image)).driver.fatTable).length := by
    rw [hboot, createFat32_fatTable, emptyClusters_formattedMap, List.length_range', numberOfPartition_eq]
    omega
  have haccepted : Accepted (boot ins.img (diskOf image)) ins.request 2 := by
    rw [hboot]
    exact createFat32_accepts hroot.parent hname
  have hw : (boot ins.img (diskOf image)).WellFormed := by
    rw [hboot]
    exact createFat32_wellFormed
  obtain ⟨st, hst, hmounted⟩ := Host.initializeFilesystemFat32_eq ins.img image
  obtain ⟨k, l, -, hwr⟩ := write_fits hw ins.img haccepted hroot.file hn
  have hp : ins.request.parentClusterNumber.toNat < 2048 := by
    change ins.parent.toNat < 2048
    rw [hroot.parent]
    decide
  obtain ⟨st', hhost⟩ : ∃ st', Host.write st ins.request = some (0, st') := by
    rw [Host.write_eq ins.img hp, hmounted, hwr, ← hmounted]
    exact ⟨_, rfl⟩
  refine ⟨st'.image, ?_, fun _ => ?_, fun _ => not_overcommits_of_fits hn⟩
  · rw [Insertion.main, hst]
    simp only [Option.bind_eq_bind, Option.bind_some, if_neg (not_le.mpr hshort), hhost]
  · rw [hroot.parent]
    exact Volume.isDir_root

def blankImage : Image := fun _ => 0

def helloInsertion : Insertion :=
  ⟨plainImage, some [0x68, 0x69], fun _ => 0xFF, [0x68, 0x69, dot, 0x74, 0x78, 0x74], rootClusterNumber⟩

theorem inserted_file_reads_back_hello : ∃ image', Inserts blankImage helloInsertion 0 image' ∧ ∃ enough t,
    (∀ fuel, enough ≤ fuel → read fuel (boot plainImage (diskOf image')) helloInsertion.request = .returned 0 t) ∧
      t.buf 0 = 0x68 ∧ t.buf 1 = 0x69 := by
  have hblank : isEmptyStorage (diskOf blankImage) = true := by decide +kernel
  have hroot : IntoRoot helloInsertion := ⟨rfl, by decide⟩
  have hname : helloInsertion.request.name ≠ fun _ => 0 := by decide +kernel
  obtain ⟨image', hins⟩ := blank_insertion hblank hroot (by decide) hname (by decide)
  have hrun : Run Inserts blankImage [helloInsertion] [0] image' := .cons hins .nil
  have hfiles :=
    filesOnly_run hrun (.inl hblank) (List.forall_mem_singleton.mpr hroot) (filesOnly_blank hblank) plainImage
  obtain ⟨-, enough, t, hread, hbuf⟩ :=
    inserted_file_reads_back hblank hrun (List.mem_singleton.mpr rfl) rfl (by decide)
    (by decide) (fun h => hname h.1) plainImage (hfiles.only (by decide +kernel)) rfl ⟨rfl, rfl⟩ (by decide)
  exact ⟨image', hins, enough, t, hread, hbuf 0 (by decide), hbuf 1 (by decide)⟩

end Semogakelar.Fat32.Inserter
