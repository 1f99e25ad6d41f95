import Semogakelar.Fat32.Copies
import Semogakelar.Fat32.Remount
import Semogakelar.Fat32.Transfers

/-! A file with its contents in a volume, and the operations that keep it. -/

namespace Semogakelar.Fat32

open Library Function FileSystem

structure HoldsAt (fs : FileSystem) (p : UInt32) (name : Name) (ext : Ext) (content : List UInt8) (i : Fin 64)
    (l : List UInt32) : Prop where
  isDir : fs.volume.IsDir p
  slot : 2 ≤ i.val
  live : (fs.table p i).Live
  file : (fs.table p i).attr = 0
  name : (fs.table p i).name = name
  ext : (fs.table p i).ext = ext
  size : (fs.table p i).filesize = UInt32.ofNat content.length
  chain : Chain fs.volume.link (fs.table p i).clusterNumber l
  length : content.length ≤ 2048 * l.length
  bytes : ∀ j (h : j < content.length), fileByte fs l j = content[j]

def Holds (fs : FileSystem) (p : UInt32) (name : Name) (ext : Ext) (content : List UInt8) : Prop :=
  ∃ i l, HoldsAt fs p name ext content i l

variable {img : KernelImage} {fs fs' : FileSystem} {request : DriverRequest} {p : UInt32} {name : Name} {ext : Ext}
  {content : List UInt8}

lemma HoldsAt.kept {i : Fin 64} {l : List UInt32} (h : HoldsAt fs p name ext content i l)
    (hkept : FileKept fs fs' p i) : HoldsAt fs' p name ext content i l := by
  obtain ⟨m, hm, hm', hsame, -⟩ := hkept.contents
  obtain rfl := h.chain.unique hm
  obtain ⟨-, hslot, hlive, hattr, hname, hext, hsize, -, hlength, hbytes⟩ := h
  rw [← hkept.entry] at hlive hattr hname hext hsize hm'
  refine ⟨hkept.isDir, hslot, hlive, hattr, hname, hext, hsize, hm', hlength, fun j hj => ?_⟩
  rw [← hbytes j hj, fileByte_getElem (by omega), fileByte_getElem (by omega), hsame _ (List.getElem_mem _)]

lemma HoldsAt.same {i : Fin 64} {l : List UInt32} (h : HoldsAt fs p name ext content i l)
    (hsame : SameVolume fs fs') : HoldsAt fs' p name ext content i l := by
  obtain ⟨hdir, hslot, hlive, hattr, hname, hext, hsize, hchain, hlength, hbytes⟩ := h
  rw [← hsame.table] at hlive hattr hname hext hsize hchain
  rw [← hsame.volume] at hdir hchain
  refine ⟨hdir, hslot, hlive, hattr, hname, hext, hsize, hchain, hlength, fun j hj => ?_⟩
  rw [← hbytes j hj, fileByte, fileByte, hsame.disk]

lemma Holds.same (h : Holds fs p name ext content) (hsame : SameVolume fs fs') : Holds fs' p name ext content := by
  obtain ⟨i, l, h⟩ := h
  exact ⟨i, l, h.same hsame⟩

lemma HoldsAt.blocks {i : Fin 64} {l : List UInt32} (h : HoldsAt fs p name ext content i l) (hw : fs.WellFormed) :
    l.length = numberOfPartition (UInt32.ofNat content.length) := by
  obtain ⟨m, hm, hlen, -⟩ := hw.sound.chain ⟨h.isDir, item_of_live h.slot h.live⟩
  obtain rfl := h.chain.unique hm
  rw [DirectoryEntry.blocks_of_file (not_folder_of_attr h.file), h.size] at hlen
  rw [hlen, numberOfPartition_eq]

lemma Holds.written (h : Holds fs p name ext content) (hw : fs.WellFormed)
    (hp : fs.volume.IsDir request.parentClusterNumber) {i : Fin 64} {e : DirectoryEntry} {l : List UInt32}
    (hwr : Written fs fs' request i e l) : Holds fs' p name ext content := by
  obtain ⟨j, m, h⟩ := h
  refine ⟨j, m, h.kept ((hwr.untouched hw hp).files h.isDir h.slot h.live (not_folder_of_attr h.file) ?_)⟩
  rintro ⟨rfl, rfl⟩
  have hlive := h.live
  rw [hwr.added.before] at hlive
  exact EntryAdded.not_live_zero hlive

lemma holds_of_write (hw : fs.WellFormed) (hp : fs.volume.IsDir request.parentClusterNumber)
    (ho : ¬ Overcommits fs request) (hwr : write img fs request = .returned 0 fs') (hpos : content ≠ [])
    (hmax : content.length < 2 ^ 32) (hsize : request.bufferSize = UInt32.ofNat content.length)
    (hbuf : ∀ j (h : j < content.length), request.buf j = content[j]) :
    Holds fs' request.parentClusterNumber request.name request.ext content := by
  have hlen : request.bufferSize.toNat = content.length := by
    rw [hsize, UInt32.toNat_ofNat_of_lt' hmax]
  have hz : request.bufferSize ≠ 0 := by
    intro hz
    rw [hz] at hlen
    exact hpos (List.length_eq_zero_iff.mp hlen.symm)
  obtain ⟨i, k, m, ha, hl, rfl, hcase⟩ := write_file_cases hw hz hwr
  obtain ⟨-, hcount, hb⟩ | ⟨hover, -⟩ := hcase
  swap
  · exact (ho hover).elim
  rw [numberOfPartition_eq, hlen] at hcount
  have hadded := fileWritten_added hw hl hb hp ha (by rw [numberOfPartition_eq, hlen, hcount])
  have hslot := hadded.slot_self
  refine ⟨i, (k :: m).map UInt32.ofNat, ?_, hadded.slot, ?_, ?_, ?_, ?_, ?_, ?_, ?_, fun j hj => ?_⟩
  · obtain ⟨q, hq⟩ := hp
    exact ((hadded.adds.dir_iff hw.sound ⟨q, hq⟩).mpr (.inl hq)).isDir
  · rw [hslot]
    exact hadded.live
  · rw [hslot]
    rfl
  · rw [hslot]
    rfl
  · rw [hslot]
    rfl
  · rw [hslot]
    exact hsize
  · rw [hslot]
    exact hadded.chain
  · rw [List.length_map, hcount]
    omega
  · rw [fileWritten_byte hw hl (by omega)]
    exact hbuf j hj

lemma HoldsAt.firstMatch {i : Fin 64} {l : List UInt32} (h : HoldsAt fs p name ext content i l)
    (hw : fs.WellFormed) (hname : ¬ (name = (fun _ => 0) ∧ ext = fun _ => 0))
    (honly : ∀ j : Fin 64, (fs.table p j).attr ≠ 0 → ¬ ((fs.table p j).name = name ∧
      (fs.table p j).ext = ext)) (hrequest : request.name = name ∧ request.ext = ext) :
    FirstMatch (fs.table p) request i := by
  refine ⟨h.name.trans hrequest.1.symm, h.ext.trans hrequest.2.symm, fun j hj hmatch => ?_⟩
  rw [hrequest.1, hrequest.2] at hmatch
  have hattr : (fs.table p j).attr = 0 := not_not.mp fun hne => honly j hne hmatch
  have hfile := not_folder_of_attr hattr
  have hslot : 2 ≤ j.val := by
    by_contra hlt
    obtain ⟨q, hq⟩ := h.isDir
    obtain rfl | rfl : j = 0 ∨ j = 1 := by omega
    · exact hfile (hw.self hq).folder
    · exact hfile (hw.parent hq).folder
  have hlive : (fs.table p j).Live := by
    by_contra hdead
    rw [hw.dead h.isDir j hslot hdead] at hmatch
    exact hname ⟨hmatch.1.symm, hmatch.2.symm⟩
  exact hj.ne (hw.distinct h.isDir j i hslot h.slot hlive h.live
    ⟨hmatch.1.trans h.name.symm, hmatch.2.trans h.ext.symm, hattr.trans h.file.symm⟩)

lemma HoldsAt.read_eq {i : Fin 64} {l : List UInt32} (h : HoldsAt fs p name ext content i l) (hw : fs.WellFormed)
    (hfirst : FirstMatch (fs.table p) request i) (hparent : request.parentClusterNumber = p)
    (hsize : UInt32.ofNat content.length ≤ request.bufferSize) {fuel : ℕ} (hfuel : l.length < fuel) :
    read fuel fs request = .returned 0 ((⟨request.buf, []⟩ : Transfer).copyAll fs.disk l) := by
  obtain ⟨hdir, hslot, hlive, hattr, -, -, hsz, hchain, -, -⟩ := h
  rw [← hparent] at hdir hlive hattr hsz hchain hfirst
  exact read_file hw hdir hfirst hslot hlive (not_folder_of_attr hattr) (by rw [hsz]; exact hsize) hchain hfuel

/-! ### Every operation -/

lemma Holds.removed (h : Holds fs p name ext content) (hw : fs.WellFormed)
    (hp : fs.volume.IsDir request.parentClusterNumber) {i : Fin 64} {l : List UInt32}
    (hrem : Removed fs fs' request i l)
    (hother : ¬ (request.parentClusterNumber = p ∧ request.name = name ∧ request.ext = ext)) :
    Holds fs' p name ext content := by
  obtain ⟨j, m, h⟩ := h
  refine ⟨j, m, h.kept ((hrem.untouched hw hp).files h.isDir h.slot h.live (not_folder_of_attr h.file) ?_)⟩
  rintro ⟨rfl, rfl⟩
  exact hother ⟨rfl, hrem.first.name.symm.trans h.name, hrem.first.ext.symm.trans h.ext⟩

lemma Holds.delete (h : Holds fs p name ext content) (hw : fs.WellFormed)
    (hp : fs.volume.IsDir request.parentClusterNumber) (hd : DeletesLive fs request)
    (hother : ¬ (request.parentClusterNumber = p ∧ request.name = name ∧ request.ext = ext)) {fuel : ℕ} {code : ℤ}
    (hdel : Fat32.delete fuel fs request = .returned code fs') : Holds fs' p name ext content := by
  rcases delete_outcome hw hp with ⟨_, -, he, -⟩ | ⟨fs₁, i, l, he, hrem, -⟩ | ⟨_, -, -, hd'⟩ | ⟨-, hd'⟩
  · obtain rfl := (Outcome.returned.inj ((he fuel).symm.trans hdel)).2
    exact h
  · have he := he (max fuel l.length) (le_max_right _ _)
    obtain rfl := (Outcome.returned.inj (he.symm.trans (delete_mono hdel (le_max_left _ _)))).2
    exact h.removed hw hp hrem hother
  · exact (hd' hd).elim
  · exact (hd' hd).elim

lemma Holds.write (h : Holds fs p name ext content) (hw : fs.WellFormed)
    (hp : fs.volume.IsDir request.parentClusterNumber) (ho : ¬ Overcommits fs request) {code : ℤ}
    (hwr : Fat32.write img fs request = .returned code fs') : Holds fs' p name ext content := by
  by_cases hcode : code = 0
  · subst hcode
    obtain ⟨i, e, l, hwritten⟩ := write_written hw hp ho hwr
    exact h.written hw hp hwritten
  · rwa [write_failed hwr hcode]

/-! ### Files in the root -/

structure FilesOnly (fs : FileSystem) : Prop where
  reserved : ∀ j : Fin 64, j.val < 2 → (fs.table rootClusterNumber j).name = rootName
  files : ∀ j : Fin 64, 2 ≤ j.val → (fs.table rootClusterNumber j).attr = 0

lemma FilesOnly.same (h : FilesOnly fs) (hsame : SameVolume fs fs') : FilesOnly fs' := by
  refine ⟨fun j hj => ?_, fun j hj => ?_⟩
  · rw [hsame.table]
    exact h.reserved j hj
  · rw [hsame.table]
    exact h.files j hj

lemma createFat32_filesOnly (img : KernelImage) (hliteral : fs.rootLiteral = .intact) :
    FilesOnly (createFat32 img fs) := by
  constructor
  · intro j hj
    rw [createFat32_table, hliteral]
    obtain rfl | rfl : j = 0 ∨ j = 1 := by omega
    · rfl
    · rfl
  · intro j hj
    rw [(createFat32_rootTable img fs).2.2 j hj]
    rfl

lemma FilesOnly.written (h : FilesOnly fs) {i : Fin 64} {e : DirectoryEntry} {l : List UInt32}
    (hwr : Written fs fs' request i e l) (hparent : request.parentClusterNumber = rootClusterNumber)
    (hfile : request.bufferSize ≠ 0) : FilesOnly fs' := by
  have htable := hwr.added.parent
  rw [hparent] at htable
  refine ⟨fun j hj => ?_, fun j hj => ?_⟩
  · have hne : j ≠ i := by
      rintro rfl
      have hslot := hwr.added.slot
      omega
    rw [htable, update_of_ne hne]
    exact h.reserved j hj
  · rw [htable]
    by_cases hne : j = i
    · rw [hne, update_self, hwr.attr, requestAttribute, if_neg hfile]
    · rw [update_of_ne hne]
      exact h.files j hj

lemma FilesOnly.only (h : FilesOnly fs) (hname : name ≠ rootName) (j : Fin 64)
    (hattr : (fs.table rootClusterNumber j).attr ≠ 0) :
    ¬ ((fs.table rootClusterNumber j).name = name ∧ (fs.table rootClusterNumber j).ext = ext) := by
  rintro ⟨hj, -⟩
  obtain hlt | hge := Nat.lt_or_ge j.val 2
  · exact hname (hj.symm.trans (h.reserved j hlt))
  · exact hattr (h.files j hge)

end Semogakelar.Fat32
