import Semogakelar.Fat32.Twin

/-! What a read gives of a file, and when the entry that a write then adds is a copy of it. -/

namespace Semogakelar.Fat32

open Library Function FileSystem

variable {img : KernelImage} {fs fs' : FileSystem} {request : DriverRequest} {source target : UInt32}
  {i j : Fin 64}

def fileByte (fs : FileSystem) (l : List UInt32) (n : ℕ) : UInt8 :=
  readClusters fs.disk (l.getD (n / 2048) 0) ⟨n % 2048, Nat.mod_lt _ (by decide)⟩

lemma fileByte_getElem {l : List UInt32} {n : ℕ} (hn : n < 2048 * l.length) :
    fileByte fs l n = readClusters fs.disk (l[n / 2048]) ⟨n % 2048, Nat.mod_lt _ (by decide)⟩ := by
  have hk : n / 2048 < l.length := by omega
  rw [fileByte, List.getD_eq_getElem?_getD, List.getElem?_eq_getElem hk, Option.getD_some]

lemma copyAll_fileByte (buf : ℕ → UInt8) (l : List UInt32) {n : ℕ} (hn : n < 2048 * l.length) :
    ((⟨buf, []⟩ : Transfer).copyAll fs.disk l).buf n = fileByte fs l n := by
  have hbuf := Transfer.copyAll_buf ⟨buf, []⟩ fs.disk l (n / 2048) (by omega) ⟨n % 2048, Nat.mod_lt _ (by decide)⟩
  rw [List.length_nil, Nat.zero_add, Nat.div_add_mod] at hbuf
  rw [hbuf, fileByte_getElem hn]

lemma copyAll_rest (buf : ℕ → UInt8) (l : List UInt32) {n : ℕ} (hn : 2048 * l.length ≤ n) :
    ((⟨buf, []⟩ : Transfer).copyAll fs.disk l).buf n = buf n := by
  have hcopy : ∀ (t : Transfer) (l : List UInt32), 2048 * (t.clusters.length + l.length) ≤ n →
      (t.copyAll fs.disk l).buf n = t.buf n := by
    intro t l
    induction l generalizing t with
    | nil => exact fun _ => rfl
    | cons c l ih =>
      intro hle
      rw [List.length_cons] at hle
      have hlen : (t.copy fs.disk c).clusters.length = t.clusters.length + 1 := by simp [Transfer.copy]
      rw [Transfer.copyAll, List.foldl_cons, ← Transfer.copyAll, ih _ (by rw [hlen]; omega)]
      simp only [Transfer.copy]
      exact dif_neg fun h => absurd h.2 (by omega)
  exact hcopy _ l (by simpa using hn)

structure Reads (fs : FileSystem) (request : DriverRequest) (i : Fin 64) (t : Transfer) : Prop where
  found : FirstMatch (fs.table request.parentClusterNumber) request i
  slot : 2 ≤ i.val
  live : (fs.table request.parentClusterNumber i).Live
  file : ¬ (fs.table request.parentClusterNumber i).IsFolder
  size : (fs.table request.parentClusterNumber i).filesize ≤ request.bufferSize
  transfer : ∀ {l : List UInt32}, Chain fs.volume.link (fs.table request.parentClusterNumber i).clusterNumber l →
    t = (⟨request.buf, []⟩ : Transfer).copyAll fs.disk l

lemma read_zero (hw : fs.WellFormed) (hp : fs.volume.IsDir request.parentClusterNumber) {fuel : ℕ} {t : Transfer}
    (hr : read fuel fs request = .returned 0 t) : ∃ i, Reads fs request i t := by
  obtain ⟨j, hj⟩ | ⟨-, code, hcode, hrefused⟩ := read_cases fs request
  · have hslot := slot_of_file hw hp hj.file
    have hlive := hj.live hw hp hr
    refine ⟨j, hj.first, hslot, hlive, hj.file, hj.size, fun {l} hl => ?_⟩
    have hr' := read_mono hr (Nat.le_max_left fuel (l.length + 1))
    have hfull := read_file hw hp hj.first hslot hlive hj.file hj.size hl
      (lt_of_lt_of_le (Nat.lt_succ_self _) (Nat.le_max_right fuel (l.length + 1)))
    exact (Outcome.returned.inj (hr'.symm.trans hfull)).2
  · rw [hrefused fs fuel rfl] at hr
    exact (hcode (Outcome.returned.inj hr).1).elim

structure IsCopy (fs fs' : FileSystem) (source : UInt32) (i : Fin 64) (target : UInt32) (j : Fin 64) : Prop where
  slot : 2 ≤ j.val
  live : (fs'.table target j).Live
  attr : (fs'.table target j).attr = 0
  name : (fs'.table target j).name = (fs.table source i).name
  ext : (fs'.table target j).ext = (fs.table source i).ext
  filesize : (fs'.table target j).filesize = (fs.table source i).filesize
  contents : ∃ l l', Chain fs.volume.link (fs.table source i).clusterNumber l ∧
    Chain fs'.volume.link (fs'.table target j).clusterNumber l' ∧
    ∀ n < (fs.table source i).filesize.toNat, fileByte fs' l' n = fileByte fs l n

def HasCopy (fs fs' : FileSystem) (source : UInt32) (i : Fin 64) (target : UInt32) : Prop :=
  ∃ j, IsCopy fs fs' source i target j

structure Carries (fs : FileSystem) (source : UInt32) (i : Fin 64) (l : List UInt32) (request : DriverRequest) :
    Prop where
  isDir : fs.volume.IsDir source
  slot : 2 ≤ i.val
  live : (fs.table source i).Live
  file : ¬ (fs.table source i).IsFolder
  chain : Chain fs.volume.link (fs.table source i).clusterNumber l
  name : request.name = (fs.table source i).name
  ext : request.ext = (fs.table source i).ext
  buf : ∀ n < 2048 * l.length, request.buf n = fileByte fs l n

lemma Carries.length {l : List UInt32} (h : Carries fs source i l request) (hw : fs.WellFormed) :
    l.length = ((fs.table source i).filesize.toNat + 2047) / 2048 := by
  have hlen := (hw.sound.entry_chain ⟨h.isDir, item_of_live h.slot h.live⟩ h.chain).1
  rwa [DirectoryEntry.blocks_of_file h.file] at hlen

lemma not_folder_of_attr {e : DirectoryEntry} (h : e.attr = 0) : ¬ e.IsFolder := by
  rw [DirectoryEntry.IsFolder, h]
  decide

lemma FileKept.isCopy_iff (hw : fs.WellFormed) (hp : fs.volume.IsDir target) (h : FileKept fs fs' target j) :
    IsCopy fs fs' source i target j ↔ IsCopy fs fs source i target j := by
  obtain ⟨m, hm, hm', hsame, -⟩ := h.contents
  have hbyte : 2 ≤ j.val → (fs.table target j).Live → (fs.table target j).attr = 0 →
      ∀ n < (fs.table target j).filesize.toNat, fileByte fs' m n = fileByte fs m n := by
    intro hj hlive hattr n hn
    have hlen := (hw.sound.entry_chain ⟨hp, item_of_live hj hlive⟩ hm).1
    rw [DirectoryEntry.blocks_of_file (not_folder_of_attr hattr)] at hlen
    have hlt : n < 2048 * m.length := by omega
    rw [fileByte_getElem hlt, fileByte_getElem hlt, hsame _ (List.getElem_mem _)]
  constructor
  · rintro ⟨hj, hlive, hattr, hname, hext, hsize, l, l', hl, hl', hc⟩
    rw [h.entry] at hlive hattr hname hext hsize hl'
    obtain rfl := hl'.unique hm'
    refine ⟨hj, hlive, hattr, hname, hext, hsize, l, l', hl, hm, fun n hn => ?_⟩
    rw [← hbyte hj hlive hattr n (by rwa [hsize]), hc n hn]
  · rintro ⟨hj, hlive, hattr, hname, hext, hsize, l, l', hl, hl', hc⟩
    obtain rfl := hl'.unique hm
    rw [← h.entry] at hlive hattr hname hext hsize
    refine ⟨hj, hlive, hattr, hname, hext, hsize, l, l', hl, h.entry.symm ▸ hm', fun n hn => ?_⟩
    rw [h.entry] at hlive hattr hsize
    rw [hbyte hj hlive hattr n (by rwa [hsize]), hc n hn]

section

variable (hw : fs.WellFormed)
include hw

lemma no_chain_overrun {k : ℕ} {m : List ℕ} (hl : Allocates fs.driver (k :: m)) (hb : ∀ n ∈ k :: m, n ≤ 512)
    (hlast : 512 ∈ k :: m) (l : List UInt32) :
    ¬ Chain (fileWritten fs request i k m).volume.link (UInt32.ofNat k) l := by
  intro hc
  have hmem := hc.mem_of_isChain (fileWritten_link hw hl hb) _ (List.mem_map_of_mem hlast)
  refine hc.not_free _ hmem ?_
  rw [volume_link, linkOf_eq_free, cell, dif_neg (by decide)]

/-- A file that is written takes empty words of the map or, one short of them, also the word behind the map. -/
lemma write_file_cases (hz : request.bufferSize ≠ 0) (hwr : write img fs request = .returned 0 fs') :
    ∃ s k m, Accepted fs request s ∧ Allocates fs.driver (k :: m) ∧ fs' = fileWritten fs request s k m ∧
      ((¬ Overcommits fs request ∧ (k :: m).length = numberOfPartition request.bufferSize ∧
          ∀ n ∈ k :: m, n < 512) ∨
        Overcommits fs request ∧ (∀ n ∈ k :: m, n ≤ 512) ∧ 512 ∈ k :: m) := by
  rcases write_cases img fs request with ⟨⟨code, hc, he⟩, -⟩ | ⟨s, ha, he⟩
  · rw [he fs rfl] at hwr
    exact absurd (Outcome.returned.inj hwr).1 hc
  rw [he fs rfl, writeEntry, if_neg hz] at hwr
  by_cases hn : numberOfPartition request.bufferSize ≤ (emptyClusters fs.driver.fatTable).length
  · obtain ⟨k, m, hkm, hf⟩ := writeFile_fits (i := s) hw hz hn
    refine ⟨s, k, m, ha, allocates_fits hn hkm, (Outcome.returned.inj (hwr.symm.trans hf)).2,
      .inl ⟨not_overcommits_of_fits hn, ?_, fun n hmem => ?_⟩⟩
    · rw [hkm, List.length_take, Nat.min_eq_left hn]
    · rw [hkm] at hmem
      exact (mem_emptyClusters.mp (List.mem_of_mem_take hmem)).1
  by_cases ho : Overcommits fs request
  · obtain ⟨k, m, hkm, hf⟩ := writeFile_overcommits (i := s) hw ho
    obtain ⟨hl, hb, hlast⟩ := allocates_overcommits ho hkm
    exact ⟨s, k, m, ha, hl, (Outcome.returned.inj (hwr.symm.trans hf)).2, .inr ⟨ho, hb, hlast⟩⟩
  · rw [writeFile_refused hw ha hz hn ho] at hwr
    exact absurd (Outcome.returned.inj hwr).1 (by decide)

lemma fileWritten_byte {k : ℕ} {m : List ℕ} (hl : Allocates fs.driver (k :: m)) {n : ℕ}
    (hn : n < 2048 * (k :: m).length) :
    fileByte (fileWritten fs request i k m) ((k :: m).map UInt32.ofNat) n = request.buf n := by
  have hk : n / 2048 < (k :: m).length := by omega
  rw [fileByte_getElem (by rwa [List.length_map]), List.getElem_map, fileWritten_chunk hw hl _ hk, chunk]
  exact congrArg request.buf (Nat.div_add_mod n 2048)

variable (hp : fs.volume.IsDir request.parentClusterNumber)
include hp

lemma folder_copied_iff (hz : request.bufferSize = 0) (hwr : write img fs request = .returned 0 fs') :
    HasCopy fs fs' source i request.parentClusterNumber ↔ HasCopy fs fs source i request.parentClusterNumber := by
  obtain ⟨s, e, m, hh⟩ := write_written hw hp (fun ho => ho.file hz) hwr
  have hun := hh.untouched hw hp
  constructor
  · rintro ⟨j, hj⟩
    have hne : j ≠ s := by
      rintro rfl
      have hattr := hj.attr
      rw [hh.added.slot_self, hh.attr, requestAttribute, if_pos hz] at hattr
      exact absurd hattr (by decide)
    have he := hun.slots j hne
    have hkept := hun.files hp hj.slot (he ▸ hj.live) (not_folder_of_attr (he ▸ hj.attr)) fun h => hne h.2
    exact ⟨j, (hkept.isCopy_iff hw hp).mp hj⟩
  · rintro ⟨j, hj⟩
    have hne : j ≠ s := by
      rintro rfl
      exact hh.slot.free hj.live
    have hkept := hun.files hp hj.slot hj.live (not_folder_of_attr hj.attr) fun h => hne h.2
    exact ⟨j, (hkept.isCopy_iff hw hp).mpr hj⟩

variable {l : List UInt32} (hcar : Carries fs source i l request)
include hcar

lemma file_copied_iff (hz : request.bufferSize ≠ 0) (hwr : write img fs request = .returned 0 fs') :
    HasCopy fs fs' source i request.parentClusterNumber ↔
      request.bufferSize = (fs.table source i).filesize ∧ ¬ Overcommits fs request := by
  obtain ⟨s, k, m, ha, hl, rfl, hcase⟩ := write_file_cases hw hz hwr
  have hparent : (fileWritten fs request s k m).table request.parentClusterNumber =
      update (fs.table request.parentClusterNumber) s (fileEntry fs request s k) := fileWritten_parent hw hl hp
  have hslot : (fileWritten fs request s k m).table request.parentClusterNumber s = fileEntry fs request s k := by
    rw [hparent, update_self]
  constructor
  · rintro ⟨j, hj⟩
    obtain rfl : j = s := by
      by_contra hne
      have hsame : (fileWritten fs request s k m).table request.parentClusterNumber j =
          fs.table request.parentClusterNumber j := by rw [hparent, update_of_ne hne]
      have hname := hj.name
      have hext := hj.ext
      have hattr := hj.attr
      rw [hsame] at hname hext hattr
      refine ha.unmatched j hj.slot ⟨hname.trans hcar.name.symm, hext.trans hcar.ext.symm, ?_⟩
      rw [hattr, requestAttribute, if_neg hz]
    have hsize := hj.filesize
    rw [hslot] at hsize
    refine ⟨hsize, fun ho => ?_⟩
    rcases hcase with ⟨hno, -⟩ | ⟨-, hb, hlast⟩
    · exact hno ho
    · obtain ⟨-, l', -, hl', -⟩ := hj.contents
      rw [hslot, fileEntry_clusterNumber] at hl'
      exact no_chain_overrun hw hl hb hlast l' hl'
  · rintro ⟨hsize, hno⟩
    obtain ⟨-, hlen, hb⟩ := hcase.resolve_right fun h => hno h.1
    refine ⟨s, ha.slot.slot, ?_, ?_, ?_, ?_, ?_, l, (k :: m).map UInt32.ofNat, hcar.chain, ?_, fun n hn => ?_⟩
    · rw [hslot]
      rfl
    · rw [hslot]
      rfl
    · rw [hslot]
      exact hcar.name
    · rw [hslot]
      exact hcar.ext
    · rw [hslot]
      exact hsize
    · rw [hslot, fileEntry_clusterNumber]
      exact fileWritten_chain hw hl hb
    · have hlength := hcar.length hw
      rw [fileWritten_byte hw hl (by rw [hlen, numberOfPartition_eq, hsize]; omega)]
      exact hcar.buf n (by omega)

end

end Semogakelar.Fat32
