import Semogakelar.Machine.Calls
import Semogakelar.Process.FirstBoot

/-! What a process stores in its own memory, and a machine that has booted into the shell. -/

namespace Semogakelar.Memory

open Function Process Kernel Relation

variable {L : Layout} {d e : Fin 32} {memory memory' : PhysicalMemory}

lemma Layout.use_injective (h : pagingUsePageDirectory (L.address d) = pagingUsePageDirectory (L.address e)) :
    d = e := by
  apply Layout.address_injective (L := L)
  rw [← pagingGetCurrentPageDirectoryAddr_use (L.address_high d), h,
    pagingGetCurrentPageDirectoryAddr_use (L.address_high e)]

lemma pagingUsePageDirectory_current {cr3 : UInt32} (h : L.address d = pagingGetCurrentPageDirectoryAddr cr3) :
    cr3 = pagingUsePageDirectory (L.address d) := by
  have hhigh := L.address_high d
  rw [pagingUsePageDirectory, if_pos hhigh, h, pagingGetCurrentPageDirectoryAddr, UInt32.add_sub_cancel]

lemma storeBytes_stores {pageDir : PageDirectory} {addr : UInt32} {data : ℕ → UInt8} {n : ℕ}
    (h : storeBytes pageDir addr data n memory = some memory') :
    ReflTransGen (Stores pageDir) memory memory' := by
  induction n generalizing memory' with
  | zero =>
    cases h
    exact .refl
  | succ n ih =>
    obtain ⟨m, hm, h⟩ := Option.bind_eq_some_iff.mp h
    obtain ⟨a, ha, rfl⟩ := Option.map_eq_some_iff.mp h
    exact (ih hm).tail ⟨_, a, _, ha, rfl⟩

end Semogakelar.Memory

namespace Semogakelar.Process.Kernel

open Memory Fat32

lemma processCreateUserProcess_congr {L : Layout} {fuel : ℕ} {fs fs' : FileSystem} {request : ProcessRequest}
    (h : ∀ pageDir memory, read fuel fs (request.driverRequest pageDir memory) =
      read fuel fs' (request.driverRequest pageDir memory)) (k : Kernel) :
    processCreateUserProcess L fuel fs request k = processCreateUserProcess L fuel fs' request k := by
  simp only [processCreateUserProcess, loadUserProcess, h]

lemma RunsImage.present {L : Layout} {k : Kernel} {context : Context} {content : List UInt8}
    (h : RunsImage L k context content) (hpos : content ≠ []) :
    (k.paging.pageDirectoryList 0 0).flag.presentBit = true := by
  obtain ⟨a, ha, -⟩ := Option.map_eq_some_iff.mp (h.image 0 (List.length_pos_iff.mpr hpos))
  exact (translate_eq_some ha).1

lemma ShellRuns.memory {k : Kernel} (h : k.ShellRuns) (memory : PhysicalMemory) :
    { k with memory := memory }.ShellRuns :=
  ⟨h.running, h.state, h.rest, h.pid, h.pages, h.active, h.sound, h.frames, h.free, h.directories⟩

end Semogakelar.Process.Kernel

namespace Semogakelar.Machine

open Function Memory Fat32 Library Process Kernel FileSystem

variable {L : Layout} {s s' : State} {d : Fin 32} {addr : UInt32} {n : ℕ} {home : Fin 16 → UInt32}

/-! ### Requests in memory -/

def requestBytes (request : ProcessRequest) : List UInt8 :=
  List.ofFn (uint32.symm request.buf) ++ (List.ofFn request.name ++ (List.ofFn request.ext ++
    (List.ofFn (uint32.symm request.parentClusterNumber) ++ List.ofFn (uint32.symm request.bufferSize))))

lemma requestBytes_length (request : ProcessRequest) : (requestBytes request).length = 23 := by
  simp [requestBytes]

lemma requestOf_requestBytes (request : ProcessRequest) : requestOf (requestBytes request) = request := by
  obtain ⟨buf, name, ext, parent, size⟩ := request
  simp only [requestOf, requestBytes]
  congr 1
  · rw [← Equiv.eq_symm_apply]
    funext j
    fin_cases j <;> simp
  · funext j
    fin_cases j <;> simp
  · funext j
    fin_cases j <;> simp
  · rw [← Equiv.eq_symm_apply]
    funext j
    fin_cases j <;> simp
  · rw [← Equiv.eq_symm_apply]
    funext j
    fin_cases j <;> simp

/-! ### Stores of the running process -/

namespace State

lemma pages_eq_some {pageDir : PageDirectory} (h : s.pages L = some pageDir) : ∃ d,
    s.kernel.cr3 = pagingUsePageDirectory (L.address d) ∧ pageDir = s.kernel.paging.pageDirectoryList d := by
  obtain ⟨d, hd, rfl⟩ := Option.map_eq_some_iff.mp h
  have hd : L.address d = pagingGetCurrentPageDirectoryAddr s.kernel.cr3 := by
    simpa using (Fin.find?_eq_some_iff.mp hd).1
  exact ⟨d, pagingUsePageDirectory_current hd, rfl⟩

lemma store_spec {data : ℕ → UInt8} (hr : s.kernel.runningProcessIdx ≠ none)
    (h : s.store L addr data n = some s') :
    ∃ memory, s.kernel.Leaves L memory ∧ s' = s.withMemory memory := by
  obtain ⟨pageDir, hp, h⟩ := Option.bind_eq_some_iff.mp h
  obtain ⟨memory, hstore, rfl⟩ := Option.map_eq_some_iff.mp h
  obtain ⟨d, hd, rfl⟩ := pages_eq_some hp
  obtain ⟨j, hj⟩ := Option.ne_none_iff_exists'.mp hr
  refine ⟨memory, ?_, rfl⟩
  rw [Leaves, hj]
  exact ⟨d, hd, storeBytes_stores hstore⟩

lemma store_translate {pageDir : PageDirectory} (data : ℕ → UInt8)
    (hpages : s.pages L = some pageDir) (hfaithful : Faithful pageDir) (hn : n ≤ 2 ^ 32)
    (hmapped : (s.load L addr n).isSome) : ∃ s', s.store L addr data n = some s' ∧ s'.pages L = some pageDir ∧
      (∀ j < n, (translate pageDir (addr + UInt32.ofNat j)).map s'.kernel.memory = some (data j)) ∧
      ∀ addr', (∀ j < n, addr' ≠ addr + UInt32.ofNat j) →
        (translate pageDir addr').map s'.kernel.memory = (translate pageDir addr').map s.kernel.memory := by
  rw [State.load, hpages, Option.bind_some, loadBytes_isSome] at hmapped
  have hsome : (storeBytes pageDir addr data n s.kernel.memory).isSome := storeBytes_isSome hmapped
  obtain ⟨memory, hstore⟩ := Option.isSome_iff_exists.mp hsome
  refine ⟨s.withMemory memory, ?_, hpages, storeBytes_translate hfaithful hstore hn, fun addr' hother => ?_⟩
  · rw [State.store, hpages, Option.bind_some, hstore, Option.map_some]
  · exact storeBytes_other hfaithful hstore hother

end State

open State

structure Uses (L : Layout) (s : State) (d : Fin 32) : Prop where
  running : s.kernel.runningProcessIdx ≠ none
  directory : s.kernel.cr3 = pagingUsePageDirectory (L.address d)
  present : (s.kernel.paging.pageDirectoryList d 0).flag.presentBit = true

namespace Uses

lemma memory (h : Uses L s d) (memory : PhysicalMemory) : Uses L (s.withMemory memory) d :=
  ⟨h.running, h.directory, h.present⟩

lemma pages (h : Uses L s d) : s.pages L = some (s.kernel.paging.pageDirectoryList d) := by
  have haddr := pagingGetCurrentPageDirectoryAddr_use (L.address_high d)
  have hfind : (Fin.find? fun e => L.address e == pagingGetCurrentPageDirectoryAddr s.kernel.cr3) = some d := by
    refine Fin.find?_eq_some_iff.mpr ⟨?_, fun e he => ?_⟩
    · rw [h.directory, haddr]
      simp
    · rw [h.directory, haddr]
      simp only [beq_eq_false_iff_ne, ne_eq]
      intro heq
      exact he.ne (Layout.address_injective heq)
  rw [State.pages, hfind, Option.map_some]

lemma mapped (h : Uses L s d) {addr : UInt32} (ha : addr.toNat < 2 ^ 22) :
    (translate (s.kernel.paging.pageDirectoryList d) addr).isSome := by
  have hp : pageIndex addr = 0 := by
    rw [pageIndex, Nat.div_eq_of_lt ha]
    rfl
  apply translate_isSome
  rw [hp]
  exact h.present

lemma load_isSome (h : Uses L s d) (ha : addr.toNat + n ≤ 2 ^ 22) : (s.load L addr n).isSome := by
  rw [State.load, h.pages, Option.bind_some, loadBytes_isSome]
  intro j hj
  apply h.mapped
  rw [UInt32.toNat_add, UInt32.toNat_ofNat']
  omega

lemma storeCode_isSome (h : Uses L s d) (code : ℤ) (ha : addr.toNat + 1 ≤ 2 ^ 22) :
    (s.storeCode L addr code).isSome := by
  have hload := h.load_isSome ha
  rw [State.load, h.pages, Option.bind_some, loadBytes_isSome] at hload
  rw [storeCode, State.store, h.pages, Option.bind_some, Option.isSome_map]
  exact storeBytes_isSome hload

lemma faithful (h : Uses L s d) (hiso : Isolated L s.kernel home) :
    Faithful (s.kernel.paging.pageDirectoryList d) := by
  obtain ⟨j, hj⟩ := Option.ne_none_iff_exists'.mp h.running
  obtain ⟨e, -, hused, he⟩ := hiso.current_directory hj
  obtain rfl := Layout.use_injective (h.directory.symm.trans he)
  exact hiso.sound.faithful hused

lemma stores (h : Uses L s d) (hiso : Isolated L s.kernel home) (text : List UInt8) (hlen : text.length ≤ 2 ^ 22) :
    ∃ memory, s.kernel.Leaves L memory ∧ ∀ j n, j + n ≤ text.length →
      (s.withMemory memory).load L (UInt32.ofNat j) n = some ((text.drop j).take n) := by
  have hload : (s.load L 0 text.length).isSome := h.load_isSome (by simpa using hlen)
  obtain ⟨s', hstore, hpages, hbytes, -⟩ := store_translate (fun j => text.getD j 0) h.pages (h.faithful hiso)
    (le_trans hlen (by decide)) hload
  obtain ⟨memory, hm, rfl⟩ := store_spec h.running hstore
  refine ⟨memory, hm, fun j n hjn => ?_⟩
  rw [State.load, hpages, Option.bind_some, loadBytes_eq_some]
  refine ⟨by simp; omega, fun i hi => ?_⟩
  have haddr : UInt32.ofNat j + UInt32.ofNat i = 0 + UInt32.ofNat (j + i) := by
    rw [UInt32.zero_add, UInt32.ofNat_add]
  rw [haddr, hbytes (j + i) (by omega)]
  congr 1
  rw [List.getD_eq_getElem?_getD, List.getD_eq_getElem?_getD, List.getElem?_take, if_pos hi, List.getElem?_drop]

lemma requests (h : Uses L s d) (hiso : Isolated L s.kernel home) (raw : ProcessRequest) (rest : List UInt8)
    (hrest : rest.length ≤ 2048) : ∃ memory, s.kernel.Leaves L memory ∧
      (s.withMemory memory).request L 0 = some raw ∧ (s.withMemory memory).load L 23 rest.length = some rest := by
  have hlength := requestBytes_length raw
  obtain ⟨memory, hm, hload⟩ := h.stores hiso (requestBytes raw ++ rest)
    (by rw [List.length_append, hlength]; omega)
  have hraw : (s.withMemory memory).load L 0 23 = _ := hload 0 23 (by rw [List.length_append, hlength]; omega)
  have hbytes : (s.withMemory memory).load L 23 rest.length = _ := hload 23 rest.length
    (by rw [List.length_append, hlength])
  refine ⟨memory, hm, ?_, ?_⟩
  · rw [State.request, hraw, Option.map_some, List.drop_zero, ← hlength, List.take_left, requestOf_requestBytes]
  · rw [hbytes, ← hlength, List.drop_left, List.take_length]

end Uses

/-! ### A machine with a shell -/

lemma shellFile_accepted : Accepted formatted shellFile 2 := formatted_accepts rfl (by decide)

lemma write_shellFile : write plainImage formatted shellFile = .returned 0 shellDisk := by
  obtain ⟨k, l, hkl, hwr⟩ := write_fits formatted_wellFormed plainImage shellFile_accepted (by decide) shell_fits
  obtain ⟨rfl, rfl⟩ := List.cons.inj (shell_cluster.trans hkl.symm)
  exact hwr

lemma shellDisk_written : ∃ e l, Written formatted shellDisk shellFile 2 e l :=
  ⟨_, _, writeFile_written formatted_wellFormed formatted_isDir shellFile_accepted (by decide) shell_fits
    shell_cluster⟩

lemma shellDisk_filesOnly : FilesOnly shellDisk := by
  obtain ⟨e, l, hwritten⟩ := shellDisk_written
  exact (createFat32_filesOnly plainImage rfl).written hwritten rfl (by decide)

lemma shellDisk_found : ∃ content i l, FindsShell shellDisk content i l ∧ content ≠ [] ∧ l.length = 1 := by
  obtain ⟨e, l, hwritten⟩ := shellDisk_written
  have hw := hwritten.wellFormed
  obtain ⟨content, hcontent, hzero⟩ : ∃ content : List UInt8, content.length = 2048 ∧
      ∀ j (h : j < content.length), content[j] = 0 :=
    ⟨List.replicate 2048 0, List.length_replicate, fun _ _ => List.getElem_replicate _⟩
  have hpos : content ≠ [] := List.ne_nil_of_length_pos (by omega)
  obtain ⟨i, l, hi⟩ := holds_of_write formatted_wellFormed formatted_isDir (not_overcommits_of_fits shell_fits)
    write_shellFile hpos (by omega) (by rw [hcontent]; rfl) fun j hj => (hzero j hj).symm
  refine ⟨content, i, l, ⟨hw, hi, fun request hname hext => ?_, by omega⟩, hpos, ?_⟩
  · exact hi.firstMatch hw (fun h => absurd h.1 (by decide)) (shellDisk_filesOnly.only (by decide)) ⟨hname, hext⟩
  · rw [hi.blocks hw, hcontent]
    decide

def shellVolume : FileSystem := boot plainImage shellDisk.disk

lemma shellVolume_same : SameVolume shellDisk shellVolume := by
  obtain ⟨e, l, hwritten⟩ := shellDisk_written
  have hsigned := isEmptyStorage_congr (hwritten.boot formatted_wellFormed formatted_isDir)
  exact hwritten.wellFormed.sameVolume_boot (hsigned.trans (createFat32_signed plainImage _)) plainImage

lemma read_shellVolume (pageDir : PageDirectory) (memory : PhysicalMemory) :
    Fat32.read 2 shellVolume (shellRequest.driverRequest pageDir memory) =
      Fat32.read 2 shellDisk (shellRequest.driverRequest pageDir memory) := by
  obtain ⟨content, i, l, hfinds, -, hl⟩ := shellDisk_found
  have hfuel : l.length < 2 := by omega
  have hsize : shellRequest.bufferSize.toNat = 0x100000 := by decide
  rw [hfinds.read_eq rfl rfl rfl hsize hfuel, (hfinds.same shellVolume_same).read_eq rfl rfl rfl hsize hfuel,
    shellVolume_same.disk]

lemma create_shellVolume (k : Kernel) : processCreateUserProcess L 2 shellVolume shellRequest k =
    processCreateUserProcess L 2 shellDisk shellRequest k :=
  processCreateUserProcess_congr read_shellVolume k

lemma kernelSetup_eq {img : KernelImage} {fuel : ℕ} {disk : Disk} {memory : PhysicalMemory} {r : Resumption}
    {k : Kernel} (h : Kernel.kernelSetup L fuel (boot img disk) memory = some (r, k)) (screen : ℕ → UInt16)
    (registers : ℕ → UInt8 → UInt8) : ∃ s, kernelSetup L img fuel disk memory screen registers = some (r, s) ∧
      s.kernel = k ∧ s.fs = boot img disk := by
  have hsome : (kernelSetup L img fuel disk memory screen registers).isSome := by
    rw [kernelSetup, Option.isSome_map, h, Option.isSome_some]
  obtain ⟨⟨r', s⟩, hs⟩ := Option.isSome_iff_exists.mp hsome
  obtain ⟨x, hx, he⟩ := Option.map_eq_some_iff.mp hs
  obtain rfl := Option.some.inj (h.symm.trans hx)
  obtain ⟨rfl, rfl⟩ := Prod.mk.inj he
  exact ⟨_, hs, by dsimp only, by dsimp only⟩

structure ShellMachine (s : State) : Prop where
  boots : Boots linked plainImage s
  shell : s.kernel.ShellRuns
  uses : Uses linked s 0
  fs : s.fs = shellVolume

lemma shellMachine : ∃ s, ShellMachine s := by
  obtain ⟨k, r, hsetup, -, hshell⟩ := setup_shellDisk linked fun _ => 0
  obtain ⟨content, i, l, hfinds, hpos, hl⟩ := shellDisk_found
  obtain ⟨k', context, hsetup', hruns⟩ := hfinds.boots linked fun _ => 0
  have hsetup' := hsetup' 2 (by omega)
  obtain ⟨rfl, rfl⟩ := Prod.mk.inj (Option.some.inj (hsetup.symm.trans hsetup'))
  have hcr := kernelSetup_cr3 hsetup
  rw [hruns.directory] at hcr
  have hboot : Kernel.kernelSetup linked 2 shellVolume (fun _ => 0) = some (.switched 0 context, k) := by
    rw [Kernel.kernelSetup, create_shellVolume, ← Kernel.kernelSetup, hsetup]
  obtain ⟨s, hs, rfl, hfs⟩ := kernelSetup_eq hboot (fun _ => 0) fun _ _ => 0
  refine ⟨s, ⟨_, _, _, _, _, _, hs⟩, hshell, ⟨?_, hcr, hruns.present hpos⟩, hfs⟩
  rw [hshell.running]
  exact Option.some_ne_none 0

end Semogakelar.Machine
