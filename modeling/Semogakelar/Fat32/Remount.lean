import Semogakelar.Fat32.Twin
import Semogakelar.Library.Runs

/-! A run with reboots at arbitrary points answers like the run without them, as long as no request reads what a
reboot resets. -/

namespace Semogakelar.Fat32

open Library Function FileSystem

inductive Call
  | read (request : DriverRequest)
  | readDirectory (request : DriverRequest)
  | write (request : DriverRequest)
  | delete (request : DriverRequest)

def Call.request : Call → DriverRequest
  | .read request | .readDirectory request | .write request | .delete request => request

structure Reply where
  code : ℤ
  data : ℕ → UInt8
  disk : Disk

inductive Performs (img : KernelImage) : FileSystem → Call → Reply → FileSystem → Prop
  | read {fs : FileSystem} {request : DriverRequest} {fuel : ℕ} {code : ℤ} {t : Transfer} :
    read fuel fs request = .returned code t → Performs img fs (.read request) ⟨code, t.buf, fs.disk⟩ fs
  | readDirectory {fs : FileSystem} {request : DriverRequest} :
    Performs img fs (.readDirectory request)
      ⟨(readDirectory fs request).1, (readDirectory fs request).2.buf, fs.disk⟩ fs
  | write {fs fs' : FileSystem} {request : DriverRequest} {code : ℤ} :
    write img fs request = .returned code fs' → Performs img fs (.write request) ⟨code, request.buf, fs'.disk⟩ fs'
  | delete {fs fs' : FileSystem} {request : DriverRequest} {fuel : ℕ} {code : ℤ} :
    delete fuel fs request = .returned code fs' →
      Performs img fs (.delete request) ⟨code, request.buf, fs'.disk⟩ fs'

/-- The request depends on nothing that a reboot resets: not on the word behind the map, not on the literal
`"root\0\0\0\0"` once it has been written over, and a deletion frees no directory that is still in the tree. -/
def Call.Steady (fs : FileSystem) : Call → Prop
  | .read _ | .readDirectory _ => True
  | .write request => ¬ OneShort fs request ∧
      (request.bufferSize = 0 → request.parentClusterNumber = rootClusterNumber → fs.rootLiteral = .intact)
  | .delete request => DeletesLive fs request

structure SteadyStep (img : KernelImage) (fs : FileSystem) (call : Call) (reply : Reply) (fs' : FileSystem) :
    Prop where
  isDir : fs.volume.IsDir call.request.parentClusterNumber
  steady : call.Steady fs
  performs : Performs img fs call reply fs'

def RebootStep (img : KernelImage) (fs : FileSystem) (call : Bool × Call) (reply : Reply) (fs' : FileSystem) :
    Prop :=
  Performs img (if call.1 then boot img fs.disk else fs) call.2 reply fs'

variable {img : KernelImage} {fs fs' : FileSystem} {call : Call} {reply : Reply}

lemma readBlocks_boot (disk : Disk) :
    readBlocks disk bootSector 1 0 = rows UInt8 4 512 (readClusters disk bootSector) 0 := by
  rw [readClusters, Equiv.apply_symm_apply]
  rfl

lemma isEmptyStorage_congr {disk disk' : Disk} (h : readClusters disk' bootSector = readClusters disk bootSector) :
    isEmptyStorage disk' = isEmptyStorage disk := by
  rw [isEmptyStorage, isEmptyStorage, readBlocks_boot, readBlocks_boot, h]

lemma createFat32_signed (img : KernelImage) (start : FileSystem) :
    isEmptyStorage (createFat32 img start).disk = false := by
  rw [isEmptyStorage, readBlocks_boot, createFat32]
  simp only
  rw [read_write_ne _ _ (by decide) (by decide) (by decide), read_write_ne _ _ (by decide) (by decide) (by decide),
    read_write_self, bne_eq_false_iff_eq, memcmp_eq_zero]
  funext j
  rw [rows_apply]
  have hj : (finProdFinEquiv ((0 : Fin 4), j)).val = j.val := by
    rw [finProdFinEquiv_apply_val, Fin.val_zero, Nat.mul_zero, Nat.add_zero]
  rw [dif_pos (by omega)]
  exact congrArg fsSignature (Fin.ext hj)

lemma boot_eq (img : KernelImage) {disk : Disk} (h : isEmptyStorage disk = false) :
    boot img disk = ⟨{ DriverState.zeroed with fatTable := mapEquiv (readClusters disk fatClusterNumber) }, disk,
      .intact⟩ := by
  rw [boot, initializeFilesystemFat32]
  simp only [h]
  rfl

lemma FileSystem.WellFormed.sameVolume_boot {fs : FileSystem} (hw : fs.WellFormed)
    (hs : isEmptyStorage fs.disk = false) (img : KernelImage) : SameVolume fs (boot img fs.disk) := by
  rw [boot_eq img hs]
  exact ⟨rfl, hw.cached.symm⟩

structure Mounted (fs fs' : FileSystem) : Prop where
  wellFormed : fs.WellFormed
  signed : isEmptyStorage fs.disk = false
  twin : Twin fs fs'

lemma Mounted.reboot (h : Mounted fs fs') (img : KernelImage) : Twin fs (boot img fs'.disk) := by
  rw [h.twin.disk, boot_eq img h.signed]
  exact ⟨⟨rfl, h.wellFormed.cached.symm⟩, fun _ => rfl⟩

lemma SteadyStep.kept (h : SteadyStep img fs call reply fs') (hw : fs.WellFormed)
    (hs : isEmptyStorage fs.disk = false) : fs'.WellFormed ∧ isEmptyStorage fs'.disk = false := by
  obtain ⟨hp, hsteady, hperf⟩ := h
  cases hperf with
  | read _ => exact ⟨hw, hs⟩
  | readDirectory => exact ⟨hw, hs⟩
  | write hwr =>
    obtain ⟨hw', hb⟩ := write_kept hw hp (fun ho => hsteady.1 ho.toOneShort) hwr
    exact ⟨hw', (isEmptyStorage_congr hb).trans hs⟩
  | delete hdel =>
    obtain ⟨hw', hb⟩ := delete_kept hw hp hsteady hdel
    exact ⟨hw', (isEmptyStorage_congr hb).trans hs⟩

lemma SteadyStep.twin (h : SteadyStep img fs call reply fs') {rebooted : FileSystem} (hw : fs.WellFormed)
    (ht : Twin fs rebooted) : ∃ rebooted', Performs img rebooted call reply rebooted' ∧ Twin fs' rebooted' := by
  obtain ⟨hp, hsteady, hperf⟩ := h
  cases hperf with
  | read hr =>
    obtain ⟨n, hr'⟩ := read_same ht.toSameVolume hw hp hr
    exact ⟨rebooted, ht.disk ▸ .read hr', ht⟩
  | readDirectory =>
    refine ⟨rebooted, ?_, ht⟩
    rw [← readDirectory_same ht.toSameVolume, ← ht.disk]
    exact .readDirectory
  | write hwr =>
    obtain ⟨r, hwr', ht'⟩ := write_same ht hw hsteady.1 hsteady.2 hwr
    exact ⟨r, ht'.disk ▸ .write hwr', ht'⟩
  | delete hdel =>
    obtain ⟨n, r, hdel', ht'⟩ := delete_same ht hw hp hsteady hdel
    exact ⟨r, ht'.disk ▸ .delete hdel', ht'⟩

lemma rebootStep_simulates {flagged : Bool × Call} {fs₁ : FileSystem} (hm : Mounted fs fs')
    (h : SteadyStep img fs flagged.2 reply fs₁) :
    ∃ fs₁', RebootStep img fs' flagged reply fs₁' ∧ Mounted fs₁ fs₁' := by
  have ht : Twin fs (if flagged.1 then boot img fs'.disk else fs') := by
    split_ifs
    · exact hm.reboot img
    · exact hm.twin
  obtain ⟨fs₁', hperf, ht'⟩ := h.twin hm.wellFormed ht
  obtain ⟨hw, hs⟩ := h.kept hm.wellFormed hm.signed
  exact ⟨fs₁', hperf, hw, hs, ht'⟩

lemma performs_deterministic {reply' : Reply} {fs₁ fs₁' : FileSystem} (h : Performs img fs call reply fs₁)
    (h' : Performs img fs call reply' fs₁') : reply = reply' ∧ fs₁ = fs₁' := by
  cases h with
  | @read _ n _ _ hr =>
    cases h' with
    | @read _ n' _ _ hr' =>
      have he := (read_mono hr (le_max_left n n')).symm.trans (read_mono hr' (le_max_right n n'))
      obtain ⟨rfl, rfl⟩ := Outcome.returned.inj he
      exact ⟨rfl, rfl⟩
  | readDirectory =>
    cases h'
    exact ⟨rfl, rfl⟩
  | write hwr =>
    cases h' with
    | write hwr' =>
      obtain ⟨rfl, rfl⟩ := Outcome.returned.inj (hwr.symm.trans hwr')
      exact ⟨rfl, rfl⟩
  | @delete _ _ n _ hdel =>
    cases h' with
    | @delete _ _ n' _ hdel' =>
      have he := (delete_mono hdel (le_max_left n n')).symm.trans (delete_mono hdel' (le_max_right n n'))
      obtain ⟨rfl, rfl⟩ := Outcome.returned.inj he
      exact ⟨rfl, rfl⟩

theorem reboots_transparent {start : FileSystem} {calls : List (Bool × Call)} {replies : List Reply}
    (hrun : Run (SteadyStep img) (createFat32 img start) (calls.map Prod.snd) replies fs) :
    (∃ fs', Run (RebootStep img) (createFat32 img start) calls replies fs') ∧
    ∀ replies' fs', Run (RebootStep img) (createFat32 img start) calls replies' fs' → replies' = replies := by
  have hm : Mounted (createFat32 img start) (createFat32 img start) :=
    ⟨createFat32_wellFormed, createFat32_signed img start, .refl _, id⟩
  have hstep : ∀ s s' t (call : Bool × Call) reply, Mounted s t → SteadyStep img s (Prod.snd call) reply s' →
      ∃ t', RebootStep img t call reply t' ∧ Mounted s' t' := fun _ _ _ _ _ hm h => rebootStep_simulates hm h
  obtain ⟨fs', hreb, -⟩ := Run.simulates hstep hm hrun
  have hdet : ∀ s call reply t reply' t', RebootStep img s call reply t → RebootStep img s call reply' t' →
      reply = reply' ∧ t = t' := fun _ _ _ _ _ _ hs hs' => performs_deterministic hs hs'
  exact ⟨⟨fs', hreb⟩, fun replies' fs'' h => (Run.deterministic hdet h hreb).1⟩

lemma name_of_word (x : Cluster) (h : mapEquiv x 0 = 0) : (tableEquiv x 0).name 0 = 0 :=
  congrFun (uint32_eq_zero.mp h) 0

lemma formatted_word : formatted.driver.word 512 ≠ some fatEmptyEntry := by
  have hbuf : formatted.driver.dirTableBuf = formatted.table rootClusterNumber := createFat32_dirTableBuf _ _
  rw [DriverState.word, dif_neg (by decide), dif_pos (by decide), hbuf]
  intro he
  have hname := name_of_word _ (Option.some.inj he)
  rw [Equiv.apply_symm_apply] at hname
  have hroot := congrFun root_first.name 0
  exact absurd (hname.symm.trans hroot) (by decide)

lemma nearlyFull_word : nearlyFull.driver.word 512 ≠ some fatEmptyEntry := by
  rw [nearlyFull, fileWritten_word_of_not_mem]
  · exact formatted_word
  · rw [fill_clusters, formatted, createFat32_fatTable, emptyClusters_formattedMap]
    decide +kernel

lemma nearlyFull_signed : isEmptyStorage nearlyFull.disk = false :=
  (isEmptyStorage_congr (nearlyFull_written.boot formatted_wellFormed formatted_isDir)).trans
    (createFat32_signed plainImage _)

lemma excess_refused : write plainImage nearlyFull excessRequest = .returned (-1) nearlyFull := by
  have ha : Accepted nearlyFull excessRequest 3 := nearlyFull_accepts rfl (by decide) (by decide)
  have hn : ¬ numberOfPartition excessRequest.bufferSize ≤ (emptyClusters nearlyFull.driver.fatTable).length := by
    rw [nearlyFull_empty]
    decide
  rcases write_cases plainImage nearlyFull excessRequest with ⟨-, hna⟩ | ⟨i, hi, he⟩
  · exact (hna 3 ha).elim
  · rw [he nearlyFull rfl, writeEntry, if_neg (by decide)]
    exact writeFile_refused nearlyFull_written.wellFormed hi (by decide) hn fun ho => nearlyFull_word ho.adjacent

lemma boot_nearlyFull : boot plainImage nearlyFull.disk = remount nearlyFull := by
  rw [boot_eq plainImage nearlyFull_signed, ← nearlyFull_written.wellFormed.cached]
  rfl

lemma excess_granted : ∃ fs', write plainImage (remount nearlyFull) excessRequest = .returned 0 fs' := by
  have hw := (remount_same _).wellFormed nearlyFull_written.wellFormed
  have hp : (remount nearlyFull).volume.IsDir excessRequest.parentClusterNumber := Volume.isDir_root
  rcases write_outcome hw hp plainImage with ⟨_, _, _, ho⟩ | ⟨_, _, _, _, _, _, ho⟩ | ⟨fs', hwr, _⟩
  · exact (ho remount_overcommits).elim
  · exact (ho remount_overcommits).elim
  · exact ⟨fs', hwr⟩

theorem reboot_changes_reply :
    (∃ replies fs, Run (RebootStep plainImage) formatted
      [(false, .write fillRequest), (false, .write excessRequest)] replies fs ∧ replies.map Reply.code = [0, -1]) ∧
    ∃ replies fs, Run (RebootStep plainImage) formatted
      [(false, .write fillRequest), (true, .write excessRequest)] replies fs ∧
      replies.map Reply.code = [0, 0] := by
  have hfill : RebootStep plainImage formatted (false, .write fillRequest)
      ⟨0, fillRequest.buf, nearlyFull.disk⟩ nearlyFull := .write write_fill
  obtain ⟨fs', hwr⟩ := excess_granted
  have hreb : RebootStep plainImage nearlyFull (true, .write excessRequest)
      ⟨0, excessRequest.buf, fs'.disk⟩ fs' := by
    rw [RebootStep, if_pos rfl, boot_nearlyFull]
    exact .write hwr
  exact ⟨⟨_, _, .cons hfill (.cons (.write excess_refused) .nil), rfl⟩, ⟨_, _, .cons hfill (.cons hreb .nil), rfl⟩⟩

theorem reboots_transparent_fill : ∃ replies,
    Run (SteadyStep plainImage) formatted [.write fillRequest, .readDirectory fillRequest] replies nearlyFull ∧
    ∃ fs', Run (RebootStep plainImage) formatted [(true, .write fillRequest), (true, .readDirectory fillRequest)]
      replies fs' := by
  have hfill : SteadyStep plainImage formatted (.write fillRequest) ⟨0, fillRequest.buf,
    nearlyFull.disk⟩ nearlyFull :=
    ⟨formatted_isDir, ⟨fun ho => by have := ho.excess; have := fill_fits; omega, fun hz => absurd hz (by decide)⟩,
      .write write_fill⟩
  have hread : SteadyStep plainImage nearlyFull (.readDirectory fillRequest) _ nearlyFull :=
    ⟨Volume.isDir_root, trivial, .readDirectory⟩
  have hrun := Run.cons hfill (.cons hread .nil)
  exact ⟨_, hrun, (reboots_transparent hrun).1⟩

end Semogakelar.Fat32
