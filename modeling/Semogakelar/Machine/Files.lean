import Semogakelar.Fat32.Buffers
import Semogakelar.Fat32.Contents
import Semogakelar.Machine.Children

/-! A file as the processes see it: what one of them writes, another one reads. -/

namespace Semogakelar.Machine

open Function Memory Fat32 Library Process Kernel FileSystem State

variable {L : Layout} {img : KernelImage} {s s' t : State} {i : Interrupt} {a : Arrival} {r : Resumption}
  {home : Fin 16 → UInt32} {p : UInt32} {name : Name} {ext : Ext} {content : List UInt8}
  {request asked : DriverRequest} {buf buf' : UInt32}

structure Arrival.Spares (L : Layout) (p : UInt32) (name : Name) (ext : Ext) (a : Arrival) : Prop where
  clusters : ¬ a.interrupt.Calls 10
  write : ∀ buf request, a.interrupt.Calls 2 →
    a.state.driverRequest L a.interrupt.frame.cpu.ebx = some (buf, request) →
    a.state.fs.volume.IsDir request.parentClusterNumber ∧ ¬ Overcommits a.state.fs request
  delete : ∀ buf request, a.interrupt.Calls 3 →
    a.state.driverRequest L a.interrupt.frame.cpu.ebx = some (buf, request) →
    a.state.fs.volume.IsDir request.parentClusterNumber ∧ DeletesLive a.state.fs request ∧
      ¬ (request.parentClusterNumber = p ∧ request.name = name ∧ request.ext = ext)

structure WritesFile (L : Layout) (img : KernelImage) (s : State) (a : Arrival) (buf : UInt32)
    (request : DriverRequest) (content : List UInt8) (s' : State) : Prop where
  calls : a.interrupt.Calls 2
  step : MachineStep L img s a .interrupted s'
  asks : a.state.driverRequest L a.interrupt.frame.cpu.ebx = some (buf, request)
  content : a.state.load L buf request.bufferSize.toNat = some content
  isDir : s.fs.volume.IsDir request.parentClusterNumber
  room : ¬ Overcommits s.fs request
  file : request.bufferSize ≠ 0
  reply : Fat32.write img s.fs request = .returned 0 s'.fs

structure ReadsFile (L : Layout) (s : State) (a : Arrival) (buf : UInt32) (asked request : DriverRequest) :
    Prop where
  calls : a.interrupt.Calls 0
  found : a.FoundIn L s
  asks : a.state.driverRequest L a.interrupt.frame.cpu.ebx = some (buf, asked)
  parent : asked.parentClusterNumber = request.parentClusterNumber
  name : asked.name = request.name
  ext : asked.ext = request.ext
  size : request.bufferSize ≤ asked.bufferSize
  buffer : (a.state.load L buf (2048 * numberOfPartition request.bufferSize)).isSome
  code : (a.state.load L a.interrupt.frame.cpu.ecx 1).isSome
  apart : ∀ j < 2048 * numberOfPartition request.bufferSize, a.interrupt.frame.cpu.ecx ≠ buf + UInt32.ofNat j

lemma Arrival.FoundIn.fs (h : a.FoundIn L s) : a.state.fs = s.fs := by
  obtain ⟨-, memory, -, hstate⟩ := h
  rw [hstate]
  rfl

/-! ### The volume -/

lemma Does.holds (h : Does L img a.interrupt a.state r s') (hspares : a.Spares L p name ext)
    (hw : a.state.fs.WellFormed) (hholds : Holds a.state.fs p name ext content) : s'.fs.WellFormed ∧
    Holds s'.fs p name ext content := by
  cases h with
  | serve _ _ hfs => exact hfs ▸ ⟨hw, hholds⟩
  | write hcalls hrequest hwrite _ =>
    obtain ⟨hp, ho⟩ := hspares.write _ _ hcalls hrequest
    exact ⟨(write_kept hw hp ho hwrite).1, hholds.write hw hp ho hwrite⟩
  | delete hcalls hrequest hdelete _ =>
    obtain ⟨hp, hd, hother⟩ := hspares.delete _ _ hcalls hrequest
    exact ⟨(delete_kept hw hp hd hdelete).1, hholds.delete hw hp hd hother hdelete⟩
  | writeClusters hcalls _ => exact (hspares.clusters hcalls).elim
  | manage _ _ _ _ hfs => exact hfs ▸ ⟨hw, hholds⟩

structure Keeps (L : Layout) (p : UInt32) (name : Name) (ext : Ext) (content : List UInt8) (s : State) : Prop where
  sound : (∃ home, Isolated L s.kernel home) ∧ s.kernel.Settled
  wellFormed : s.fs.WellFormed
  holds : Holds s.fs p name ext content

lemma Keeps.step (h : Keeps L p name ext content s) (hkeeps : a.KeepsOut L img) (hspares : a.Spares L p name ext)
    (hstep : MachineStep L img s a r s') : Keeps L p name ext content s' := by
  obtain ⟨home, hiso⟩ := h.sound.1
  have hfs := hstep.1.fs
  obtain ⟨hw, hholds⟩ := (hstep.does hkeeps hiso h.sound.2).holds hspares (hfs ▸ h.wellFormed) (hfs ▸ h.holds)
  exact ⟨hstep.sound hkeeps h.sound, hw, hholds⟩

lemma driverRequest_buf (h : t.driverRequest L buf' = some (buf, request)) : ∃ pageDir, t.pages L = some pageDir ∧
    ∀ j, request.buf j = ((translate pageDir (buf + UInt32.ofNat j)).map t.kernel.memory).getD 0 := by
  obtain ⟨pageDir, hpages, h⟩ := Option.bind_eq_some_iff.mp h
  obtain ⟨raw, -, he⟩ := Option.map_eq_some_iff.mp h
  obtain ⟨rfl, rfl⟩ := Prod.mk.inj he
  exact ⟨pageDir, hpages, fun _ => rfl⟩

lemma WritesFile.holds (h : WritesFile L img s a buf request content s') (hw : s.fs.WellFormed) :
    content.length = request.bufferSize.toNat ∧
      Holds s'.fs request.parentClusterNumber request.name request.ext content := by
  obtain ⟨pageDir, hpages, hbuf⟩ := driverRequest_buf h.asks
  have hload := h.content
  rw [State.load, hpages, Option.bind_some] at hload
  obtain ⟨hlength, hbytes⟩ := loadBytes_eq_some.mp hload
  have hlt : content.length < 2 ^ 32 := hlength ▸ request.bufferSize.toNat_lt
  refine ⟨hlength, holds_of_write hw h.isDir h.room h.reply ?_ hlt ?_ fun j hj => ?_⟩
  · rintro rfl
    exact h.file (UInt32.toNat_inj.mp hlength.symm)
  · rw [hlength, UInt32.ofNat_toNat]
  · rw [hbuf, hbytes j (hlength ▸ hj), Option.getD_some, List.getD_eq_getElem _ _ hj]

lemma WritesFile.keeps (h : WritesFile L img s a buf request content s') (hw : s.fs.WellFormed)
    (hkeeps : a.KeepsOut L img) (hsound : (∃ home, Isolated L s.kernel home) ∧ s.kernel.Settled) :
    Keeps L request.parentClusterNumber request.name request.ext content s' :=
  ⟨h.step.sound hkeeps hsound, (write_kept hw h.isDir h.room h.reply).1, (h.holds hw).2⟩

/-! ### The reader -/

lemma interrupt_read (h : i.Calls 0) (fuel : ℕ) :
    s.interrupt L img fuel i.frame.cpu = returned (s.read L fuel i.frame.cpu) := by
  unfold interrupt
  rw [h.2]
  rfl

lemma read_eq {cpu : CPURegister} {asked : DriverRequest} {fuel : ℕ} {code : ℤ} {transfer : Transfer} {s₁ : State}
    (hasks : t.driverRequest L cpu.ebx = some (buf, asked))
    (hread : Fat32.read fuel t.fs asked = .returned code transfer)
    (hstore : t.store L buf transfer.buf (2048 * transfer.clusters.length) = some s₁)
    (hcode : s₁.storeCode L cpu.ecx code = some s') : t.read L fuel cpu = some s' := by
  rw [State.read, hasks, Option.bind_some]
  simp only [hread]
  rw [storeTransfer, hstore, Option.bind_some, hcode]

lemma ReadsFile.returns (h : ReadsFile L s a buf asked request) (hiso : Isolated L s.kernel home)
    (hw : s.fs.WellFormed) (hlength : content.length = request.bufferSize.toNat) {k : Fin 64} {l : List UInt32}
    (hholds : HoldsAt s.fs request.parentClusterNumber request.name request.ext content k l)
    (hfirst : FirstMatch (s.fs.table request.parentClusterNumber) asked k) {fuel : ℕ} (hfuel : l.length < fuel) :
    ∃ s', a.state.mainInterruptHandler L img fuel a.interrupt = some (.interrupted, s') ∧
      s'.load L buf content.length = some content ∧ s'.load L a.interrupt.frame.cpu.ecx 1 = some [0] := by
  obtain ⟨pageDir, hpages, -⟩ := driverRequest_buf h.asks
  have hfaithful : Faithful pageDir := by
    obtain ⟨hcall, memory, -, hstate⟩ := h.found
    obtain ⟨j, hj⟩ := Option.ne_none_iff_exists'.mp (hcall h.calls.1)
    rw [hstate] at hpages
    obtain ⟨d, hd, rfl⟩ := pages_eq_some hpages
    obtain ⟨e, -, hused, he⟩ := hiso.current_directory hj
    obtain rfl := Layout.use_injective (hd.symm.trans he)
    exact hiso.sound.faithful hused
  have hblocks : l.length = numberOfPartition request.bufferSize := by
    rw [hholds.blocks hw, hlength, UInt32.ofNat_toNat]
  have hread : Fat32.read fuel a.state.fs asked =
      .returned 0 ((⟨asked.buf, []⟩ : Transfer).copyAll s.fs.disk l) := by
    rw [h.found.fs]
    refine hholds.read_eq hw hfirst h.parent ?_ hfuel
    rw [hlength, UInt32.ofNat_toNat]
    exact h.size
  have hlen := hholds.length
  have hbound : 2048 * l.length ≤ 2 ^ 32 := by
    have := request.bufferSize.toNat_lt
    rw [hblocks, numberOfPartition_eq]
    omega
  -- The clusters of the file go to the buffer first, and the code next to it.
  obtain ⟨s₁, hstore, hpages₁, hbytes₁, hother₁⟩ := store_translate
    ((⟨asked.buf, []⟩ : Transfer).copyAll s.fs.disk l).buf hpages hfaithful hbound (hblocks ▸ h.buffer)
  have hmapped : (s₁.load L a.interrupt.frame.cpu.ecx 1).isSome := by
    have hcode := h.code
    rw [State.load, hpages, Option.bind_some, loadBytes_isSome] at hcode
    rw [State.load, hpages₁, Option.bind_some, loadBytes_isSome]
    exact hcode
  obtain ⟨s₂, hcode, hpages₂, hbytes₂, hother₂⟩ := store_translate
    (fun _ => UInt8.ofNat ((0 : ℤ) % 256).toNat) hpages₁ hfaithful (by decide) hmapped
  refine ⟨s₂, ?_, ?_, ?_⟩
  · have hclusters : ((⟨asked.buf, []⟩ : Transfer).copyAll s.fs.disk l).clusters.length = l.length := by
      rw [Transfer.copyAll_clusters, List.nil_append]
    rw [← hclusters] at hstore
    have hreturn : a.state.read L fuel a.interrupt.frame.cpu = some s₂ := read_eq h.asks hread hstore hcode
    rw [mainInterruptHandler_call h.calls, interrupt_read h.calls, hreturn]
    rfl
  · rw [State.load, hpages₂, Option.bind_some, loadBytes_eq_some]
    refine ⟨rfl, fun j hj => ?_⟩
    have hapart : ∀ j' < 1, buf + UInt32.ofNat j ≠ a.interrupt.frame.cpu.ecx + UInt32.ofNat j' := by
      intro j' hj' he
      obtain rfl : j' = 0 := by omega
      refine h.apart j (by rw [← hblocks]; omega) ?_
      rw [he]
      exact (UInt32.add_zero _).symm
    rw [hother₂ _ hapart, hbytes₁ j (by omega), copyAll_fileByte _ l (by omega), hholds.bytes j hj,
      List.getD_eq_getElem _ _ hj]
  · rw [State.load, hpages₂, Option.bind_some, loadBytes_eq_some]
    refine ⟨rfl, fun j hj => ?_⟩
    rw [hbytes₂ j hj]
    obtain rfl : j = 0 := by omega
    rfl

/-! ### A shell that writes a file -/

lemma shellVolume_accepts (hp : request.parentClusterNumber = rootClusterNumber)
    (hshell : shellFile.name ≠ request.name) (hn : request.name ≠ fun _ => 0) :
    Accepted shellVolume request 3 := by
  obtain ⟨e, l, hwritten⟩ := shellDisk_written
  obtain ⟨hself, -, hzero⟩ := formatted_rootTable
  have htable : shellVolume.table rootClusterNumber = update (formatted.table rootClusterNumber) 2 e :=
    (shellVolume_same.table _).trans hwritten.added.parent
  have hslot : ∀ j : Fin 64, 2 ≤ j.val → j ≠ 2 → shellVolume.table rootClusterNumber j = .zero := by
    intro j hj hne
    rw [htable, update_of_ne hne]
    exact hzero j hj
  refine ⟨?_, fun j hj hd => ?_, ?_⟩
  · rw [hp, htable, update_of_ne (by decide)]
    exact hself.folder
  · have hname := hd.name
    by_cases hne : j = 2
    · rw [hp, hne, htable, update_self, hwritten.name] at hname
      exact hshell hname
    · rw [hp, hslot j hj hne] at hname
      exact hn hname.symm
  · rw [hp]
    refine ⟨by decide, ?_, fun j hj hlt => ?_⟩
    · rw [hslot 3 (by decide) (by decide)]
      exact EntryAdded.not_live_zero
    · obtain rfl : j = 2 := by
        have := Fin.lt_def.mp hlt
        exact Fin.ext (by simp only [Fin.val_two] at *; omega)
      rw [htable, update_self]
      exact hwritten.added.live

lemma shellVolume_room : 1 ≤ (emptyClusters shellVolume.driver.fatTable).length := by
  rw [shellVolume_same.fatTable, shellDisk, emptyClusters_fileWritten formatted_wellFormed formatted_isDir
    shellFile_accepted (by decide) shell_fits shell_cluster, formatted, createFat32_fatTable,
    emptyClusters_formattedMap, List.length_drop, List.length_range']
  decide

lemma shellVolume_wellFormed : shellVolume.WellFormed := by
  obtain ⟨e, l, hwritten⟩ := shellDisk_written
  exact shellVolume_same.wellFormed hwritten.wellFormed

def hiFile (buf : UInt32) : ProcessRequest :=
  ⟨buf, ![0x68, 0x69, 0, 0, 0, 0, 0, 0], fun _ => 0, rootClusterNumber, 2⟩

lemma hiFile_blocks (buf : UInt32) (pageDir : PageDirectory) (memory : PhysicalMemory) :
    numberOfPartition ((hiFile buf).driverRequest pageDir memory).bufferSize = 1 := by
  change numberOfPartition 2 = 1
  decide

lemma Uses.asks {d : Fin 32} (h : Uses L s d) (hiso : Isolated L s.kernel home) (raw : ProcessRequest)
    (rest : List UInt8) (hrest : rest.length ≤ 2048) : ∃ memory, s.kernel.Leaves L memory ∧
      (s.withMemory memory).driverRequest L 0 =
        some (raw.buf, raw.driverRequest (s.kernel.paging.pageDirectoryList d) memory) ∧
      (s.withMemory memory).load L 23 rest.length = some rest := by
  obtain ⟨memory, hm, hrequest, hload⟩ := h.requests hiso raw rest hrest
  refine ⟨memory, hm, ?_, hload⟩
  rw [driverRequest, (h.memory memory).pages, Option.bind_some, hrequest, Option.map_some]
  rfl

lemma interrupt_write (h : i.Calls 2) (fuel : ℕ) :
    s.interrupt L img fuel i.frame.cpu = returned (s.write L img i.frame.cpu) := by
  unfold interrupt
  rw [h.2]
  rfl

lemma write_eq {cpu : CPURegister} {code : ℤ} {fs : FileSystem}
    (hasks : t.driverRequest L cpu.ebx = some (buf, request))
    (hfetch : ∀ touch ∈ (loggedWrite img t.fs request).1, Fetchable L t buf touch)
    (hwrite : Fat32.write img t.fs request = .returned code fs)
    (hcode : { t with fs := fs }.storeCode L cpu.ecx code = some s') : t.write L img cpu = some s' := by
  rw [State.write, hasks, Option.bind_some]
  dsimp only
  rw [if_pos hfetch, hwrite]
  exact hcode

lemma keepsOut_write {pageDir : PageDirectory} {memory : PhysicalMemory}
    (h : t.driverRequest L 0 = some (23, (hiFile 23).driverRequest pageDir memory)) :
    Arrival.KeepsOut L img ⟨callOf 2 0 4096, t⟩ := by
  refine Arrival.keepsOut_of_low fun addr n hf => ?_
  cases hf with
  | request _ =>
    change (0 : UInt32).toNat + 23 ≤ _
    decide
  | code _ =>
    change (4096 : UInt32).toNat + 1 ≤ _
    decide
  | fetch _ hasks hfetch =>
    obtain ⟨rfl, rfl⟩ := Prod.mk.inj (Option.some.inj (h.symm.trans hasks))
    have ho := loggedWrite_fetch hfetch
    rw [hiFile_blocks] at ho
    obtain rfl := Nat.le_zero.mp ho
    decide
  | _ => simp_all [callOf]

lemma Uses.writes (h : Uses linked s 0) (hiso : Isolated linked s.kernel home) (hfs : s.fs = shellVolume) :
    ∃ found s' pageDir memory, WritesFile linked plainImage s ⟨callOf 2 0 4096, found⟩ 23
        ((hiFile 23).driverRequest pageDir memory) [0x68, 0x69] s' ∧
      Arrival.KeepsOut linked plainImage ⟨callOf 2 0 4096, found⟩ ∧ Serves linked s.kernel s'.kernel ∧
      FilesOnly s'.fs := by
  obtain ⟨memory, hm, hasks, hload⟩ := h.asks hiso (hiFile 23) [0x68, 0x69] (by decide)
  generalize hpages : s.kernel.paging.pageDirectoryList 0 = pageDir at hasks
  have hwf : s.fs.WellFormed := hfs ▸ shellVolume_wellFormed
  have hz : ((hiFile 23).driverRequest pageDir memory).bufferSize ≠ 0 := by
    change (2 : UInt32) ≠ 0
    decide
  have hone := hiFile_blocks 23 pageDir memory
  have hshell : shellFile.name ≠ (hiFile 23).name := by decide
  have hname : (hiFile 23).name ≠ fun _ => 0 := by decide
  have haccepted : Accepted s.fs ((hiFile 23).driverRequest pageDir memory) 3 := by
    rw [hfs]
    exact shellVolume_accepts rfl hshell hname
  have hn : numberOfPartition ((hiFile 23).driverRequest pageDir memory).bufferSize ≤
      (emptyClusters s.fs.driver.fatTable).length := by
    rw [hone, hfs]
    exact shellVolume_room
  have hfetch : ∀ touch ∈ (loggedWrite plainImage s.fs ((hiFile 23).driverRequest pageDir memory)).1,
      Fetchable linked (s.withMemory memory) 23 touch := by
    intro touch hmem
    cases touch with
    | fetch o =>
      have ho := loggedWrite_fetch hmem
      rw [hone] at ho
      obtain rfl : o = 0 := by omega
      exact (h.memory memory).load_isSome (by decide)
    | store _ _ => trivial
    | index _ => trivial
  have hp : s.fs.volume.IsDir rootClusterNumber := Volume.isDir_root
  obtain ⟨k, l, -, hwr⟩ := write_fits hwf plainImage haccepted hz hn
  generalize fileWritten s.fs ((hiFile 23).driverRequest pageDir memory) 3 k l = fs at hwr
  obtain ⟨i, e, l, hwritten⟩ := write_written hwf hp (not_overcommits_of_fits hn) hwr
  have huses : Uses linked { s.withMemory memory with fs := fs } 0 := ⟨h.running, h.directory, h.present⟩
  have haddr : (4096 : UInt32).toNat + 1 ≤ 2 ^ 22 := by decide
  obtain ⟨s', hcode⟩ := Option.isSome_iff_exists.mp (huses.storeCode_isSome 0 haddr)
  have hreturn : (s.withMemory memory).write linked plainImage (callOf 2 0 4096).frame.cpu = some s' :=
    write_eq hasks hfetch hwr hcode
  have hcalls : (callOf 2 0 4096).Calls 2 := ⟨rfl, rfl⟩
  obtain ⟨hserves, hfs'⟩ := store_serves huses.running hcode
  have hleft : Serves linked s.kernel (s.withMemory memory).kernel := ⟨memory, hm, rfl⟩
  refine ⟨s.withMemory memory, s', pageDir, memory, ⟨hcalls, ⟨⟨fun _ => h.running, memory, hm, rfl⟩,
    fun _ => ⟨0, ?_⟩⟩, hasks, hload, hp, not_overcommits_of_fits hn, hz, ?_⟩, keepsOut_write hasks,
    hleft.trans hserves, ?_⟩
  · rw [mainInterruptHandler_call hcalls, interrupt_write hcalls, hreturn]
    rfl
  · rw [hfs']
    exact hwr
  · rw [hfs']
    apply FilesOnly.written _ hwritten rfl hz
    rw [hfs]
    exact shellDisk_filesOnly.same shellVolume_same

lemma keepsOut_read {pageDir : PageDirectory} {memory : PhysicalMemory} (hw : t.fs.WellFormed) {k : Fin 64}
    {l : List UInt32} (hholds : HoldsAt t.fs rootClusterNumber (hiFile 23).name (hiFile 23).ext [0x68, 0x69] k l)
    (hfirst : ∀ request : DriverRequest, request.name = (hiFile 23).name ∧ request.ext = (hiFile 23).ext →
      FirstMatch (t.fs.table rootClusterNumber) request k)
    (h : t.driverRequest L 0 = some (8192, (hiFile 8192).driverRequest pageDir memory)) :
    Arrival.KeepsOut L img ⟨callOf 0 0 4096, t⟩ := by
  refine Arrival.keepsOut_of_low fun addr n hf => ?_
  cases hf with
  | request _ =>
    change (0 : UInt32).toNat + 23 ≤ _
    decide
  | code _ =>
    change (4096 : UInt32).toNat + 1 ≤ _
    decide
  | @file fuel _ _ _ _ _ hasks hread =>
    obtain ⟨rfl, rfl⟩ := Prod.mk.inj (Option.some.inj (h.symm.trans hasks))
    have hone : l.length = 1 := by
      rw [hholds.blocks hw]
      decide
    have hsize : UInt32.ofNat [0x68, 0x69].length ≤ ((hiFile 8192).driverRequest pageDir memory).bufferSize := by
      change (2 : UInt32) ≤ 2
      decide
    have hmore := read_mono hread (le_max_left fuel (l.length + 1))
    rw [hholds.read_eq hw (hfirst _ ⟨rfl, rfl⟩) rfl hsize (Nat.lt_of_succ_le (le_max_right _ _))] at hmore
    obtain ⟨-, rfl⟩ := Outcome.returned.inj hmore
    rw [Transfer.copyAll_clusters, List.nil_append, hone]
    decide
  | _ => simp_all [callOf]

/-! ### A file that passes -/

theorem file_passes_between_processes {s₀ s₁ s₂ s₃ : State} {arrivals others : List Arrival}
    {resumptions replies : List Resumption} {a₁ a₃ : Arrival} (hboot : Boots L img s₀)
    (hrun : Run (MachineStep L img) s₀ arrivals resumptions s₁) (hw : s₁.fs.WellFormed)
    (hwrite : WritesFile L img s₁ a₁ buf request content s₂) (hname : request.name ≠ fun _ => 0)
    (hothers : Run (MachineStep L img) s₂ others replies s₃)
    (hspares : ∀ a ∈ others, a.Spares L request.parentClusterNumber request.name request.ext)
    (hfolders : ∀ j : Fin 64, (s₃.fs.table request.parentClusterNumber j).attr ≠ 0 →
      ¬ ((s₃.fs.table request.parentClusterNumber j).name = request.name ∧
        (s₃.fs.table request.parentClusterNumber j).ext = request.ext))
    (hread : ReadsFile L s₃ a₃ buf' asked request)
    (hkeeps : ∀ a ∈ arrivals ++ a₁ :: others ++ [a₃], a.KeepsOut L img) :
    ∃ enough, ∀ fuel, enough ≤ fuel → ∃ s₄,
      a₃.state.mainInterruptHandler L img fuel a₃.interrupt = some (.interrupted, s₄) ∧
      s₄.load L buf' content.length = some content ∧ s₄.load L a₃.interrupt.frame.cpu.ecx 1 = some [0] := by
  have hsound := hboot.sound hrun fun a ha => hkeeps a (by simp [ha])
  have hkept := hothers.invariant_on
    (Q := fun a => a.KeepsOut L img ∧ a.Spares L request.parentClusterNumber request.name request.ext)
    (fun _ _ _ _ ha hk hstep => Keeps.step hk ha.1 ha.2 hstep)
    (fun a ha => ⟨hkeeps a (by simp [ha]), hspares a ha⟩) (hwrite.keeps hw (hkeeps a₁ (by simp)) hsound)
  obtain ⟨home, hiso⟩ := hkept.sound.1
  obtain ⟨k, l, hholds⟩ := hkept.holds
  have hfirst := hholds.firstMatch hkept.wellFormed (fun h => hname h.1) hfolders ⟨hread.name, hread.ext⟩
  exact ⟨l.length + 1, fun fuel hfuel => hread.returns hiso hkept.wellFormed (hwrite.holds hw).1
    hholds hfirst hfuel⟩

theorem file_passes_between_processes_hi : ∃ s₀ s₁ s₂ s₃ found found₁ found₂ found₃ ctx request asked,
    Boots linked plainImage s₀ ∧
    MachineStep linked plainImage s₀ ⟨callOf 12 0 4096, found⟩ .interrupted s₁ ∧
    s₁.kernel.runningProcessIdx = some 0 ∧
    WritesFile linked plainImage s₁ ⟨callOf 2 0 4096, found₁⟩ 23 request [0x68, 0x69] s₂ ∧
    MachineStep linked plainImage s₂ ⟨timerAt 0, found₂⟩ (.switched 1 ctx) s₃ ∧
    s₃.kernel.runningProcessIdx = some 1 ∧ ReadsFile linked s₃ ⟨callOf 0 0 4096, found₃⟩ 8192 asked request ∧
    ∃ enough, ∀ fuel, enough ≤ fuel → ∃ s₄,
      found₃.mainInterruptHandler linked plainImage fuel (callOf 0 0 4096) = some (.interrupted, s₄) ∧
      s₄.load linked 8192 2 = some [0x68, 0x69] ∧ s₄.load linked 4096 1 = some [0] := by
  obtain ⟨s₀, hshell⟩ := shellMachine
  obtain ⟨found, s₁, hspawn, hout, hfs₁, hpair₁⟩ := hshell.spawns
  have hsound := hshell.boots.sound (.cons hspawn .nil) (List.forall_mem_singleton.mpr hout)
  obtain ⟨home₁, hiso₁⟩ := hsound.1
  have hfs₁ : s₁.fs = shellVolume := hfs₁.trans hshell.fs
  obtain ⟨found₁, s₂, pageDir, memory, hwrites, hout₁, hserves, hfiles⟩ := hpair₁.uses.writes hiso₁ hfs₁
  have hw : s₁.fs.WellFormed := hfs₁ ▸ shellVolume_wellFormed
  obtain ⟨found₂, ctx, s₃, hturn, hfs₃, hpair₃⟩ :=
    (hpair₁.serves hserves).turns (hserves.isolated hiso₁) plainImage 0
  have hspares : Arrival.Spares linked rootClusterNumber (hiFile 23).name (hiFile 23).ext ⟨timerAt 0, found₂⟩ := by
    refine ⟨fun h => ?_, fun _ _ h => ?_, fun _ _ h => ?_⟩
    · cases h.1
    · cases h.1
    · cases h.1
  have hkept : Keeps linked rootClusterNumber (hiFile 23).name (hiFile 23).ext [0x68, 0x69] s₃ :=
    (hwrites.keeps hw hout₁ hsound).step (keepsOut_timer 0 found₂) hspares hturn
  obtain ⟨home₃, hiso₃⟩ := hkept.sound.1
  obtain ⟨memory₃, hm, hasks, -⟩ := hpair₃.uses.asks hiso₃ (hiFile 8192) [] (by decide)
  have huses₃ := hpair₃.uses.memory memory₃
  have hreads : ReadsFile linked s₃ ⟨callOf 0 0 4096, s₃.withMemory memory₃⟩ 8192
      ((hiFile 8192).driverRequest (s₃.kernel.paging.pageDirectoryList 1) memory₃)
      ((hiFile 23).driverRequest pageDir memory) := by
    refine ⟨⟨rfl, rfl⟩, ⟨fun _ => hpair₃.uses.running, memory₃, hm, rfl⟩, hasks, rfl, rfl, rfl, ?_, ?_, ?_,
      fun j hj he => ?_⟩
    · change (2 : UInt32) ≤ 2
      decide
    · exact huses₃.load_isSome (by rw [hiFile_blocks]; decide)
    · have hcode : ((4096 : UInt32).toNat + 1 ≤ 2 ^ 22) := by decide
      exact huses₃.load_isSome hcode
    · rw [hiFile_blocks] at hj
      have he := congrArg UInt32.toNat he
      rw [UInt32.toNat_add, UInt32.toNat_ofNat'] at he
      change 4096 = (8192 + j % 2 ^ 32) % 2 ^ 32 at he
      omega
  have hname : (hiFile 23).name ≠ fun _ => 0 := by decide
  have hroot : (hiFile 23).name ≠ rootName := by decide
  have hfolders : ∀ j : Fin 64, (s₃.fs.table rootClusterNumber j).attr ≠ 0 →
      ¬ ((s₃.fs.table rootClusterNumber j).name = (hiFile 23).name ∧
        (s₃.fs.table rootClusterNumber j).ext = (hiFile 23).ext) := by
    rw [hfs₃]
    exact hfiles.only hroot
  obtain ⟨k, l, hholds⟩ := hkept.holds
  have hout₃ : Arrival.KeepsOut linked plainImage ⟨callOf 0 0 4096, s₃.withMemory memory₃⟩ :=
    keepsOut_read hkept.wellFormed hholds (fun _ => hholds.firstMatch hkept.wellFormed (fun h =>
    hname h.1) hfolders) hasks
  have hpass := file_passes_between_processes hshell.boots (.cons hspawn .nil) hw hwrites hname (.cons hturn .nil)
    (List.forall_mem_singleton.mpr hspares) hfolders hreads (by simp [hout, hout₁, keepsOut_timer, hout₃])
  exact ⟨s₀, s₁, s₂, s₃, found, found₁, found₂, _, ctx, _, _, hshell.boots, hspawn, hpair₁.running, hwrites, hturn,
    hpair₃.running, hreads, hpass⟩

end Semogakelar.Machine
