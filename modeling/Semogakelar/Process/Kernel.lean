import Semogakelar.Fat32.Operations
import Semogakelar.Memory.Paging

/-! The process manager and the scheduler as the interrupt handler drives them. -/

namespace Semogakelar.Process

open Function Memory Fat32

instance neZero_processes : NeZero 16 := ⟨by decide⟩

structure CPURegister where
  edi : UInt32
  esi : UInt32
  ebp : UInt32
  esp : UInt32
  ebx : UInt32
  edx : UInt32
  ecx : UInt32
  eax : UInt32
  gs : UInt32
  fs : UInt32
  es : UInt32
  ds : UInt32

structure Context where
  cpu : CPURegister
  eip : UInt32
  eflags : UInt32
  pageDirectoryVirtualAddr : UInt32

structure InterruptFrame where
  cpu : CPURegister
  eip : UInt32
  eflags : UInt32

inductive ProcessState
  | new
  | waiting
  | ready
  | running
  | terminated
  deriving DecidableEq

structure ProcessControlBlock where
  pid : UInt32
  processName : Name
  state : ProcessState
  context : Context
  virtualAddrUsed : Fin 8 → UInt32
  pageFrameUsedCount : UInt32

def CPURegister.zero : CPURegister := ⟨0, 0, 0, 0, 0, 0, 0, 0, 0, 0, 0, 0⟩

def ProcessControlBlock.zero : ProcessControlBlock :=
  ⟨0, fun _ => 0, .new, ⟨.zero, 0, 0, 0⟩, fun _ => 0, 0⟩

/-- The process manager, the page manager, the register CR3 and the memory of the user frames. The index of the
running process is `none` where the source has -1. -/
structure Kernel where
  processList : Fin 16 → ProcessControlBlock
  runningProcessIdx : Option (Fin 16)
  activeProcessCount : ℤ
  paging : PageManager
  cr3 : UInt32
  memory : PhysicalMemory

structure ProcessRequest where
  buf : UInt32
  name : Name
  ext : Ext
  parentClusterNumber : UInt32
  bufferSize : UInt32

/-- The request as the driver sees it, with the bytes that the active directory shows at its buffer. -/
def ProcessRequest.driverRequest (request : ProcessRequest) (pageDir : PageDirectory) (memory : PhysicalMemory) :
    DriverRequest where
  buf j := ((translate pageDir (request.buf + UInt32.ofNat j)).map memory).getD 0
  name := request.name
  ext := request.ext
  parentClusterNumber := request.parentClusterNumber
  bufferSize := request.bufferSize

def ceilDiv (a b : UInt32) : UInt32 := a / b + if a % b ≠ 0 then 1 else 0

def processListGetInactiveIndex (processList : Fin 16 → ProcessControlBlock) : Option (Fin 16) :=
  Fin.find? fun i => (processList i).state == .new

def processGenerateNewPid (processList : Fin 16 → ProcessControlBlock) : ℕ → UInt32 → UInt32
  | 0, pid => pid
  | fuel + 1, pid =>
    (Fin.find? fun i => (processList i).pid == pid).elim pid fun _ =>
      processGenerateNewPid processList fuel (pid + 1)

def userSegment : UInt32 := (0x3 : UInt32) ||| ((0x4 : UInt32) <<< 3)

def newRegisterState : CPURegister :=
  { CPURegister.zero with
    ebp := 0x400000 - 4
    esp := 0x400000 - 4
    gs := userSegment
    fs := userSegment
    es := userSegment
    ds := userSegment }

def processCreateSuccess : ℤ := 0
def processCreateFailMaxProcessExceeded : ℤ := 1
def processCreateFailInvalidEntrypoint : ℤ := 2
def processCreateFailNotEnoughMemory : ℤ := 3
def processCreateFailFsReadFailure : ℤ := 4

def pageFrameCountNeeded (request : ProcessRequest) : UInt32 :=
  ceilDiv (request.bufferSize + pageFrameSize) pageFrameSize

def ProcessControlBlock.withPages (pcb : ProcessControlBlock) (needed : UInt32) : ProcessControlBlock :=
  { pcb with
    virtualAddrUsed := fun i => if i.val <
      needed.toNat then UInt32.ofNat i * pageFrameSize else pcb.virtualAddrUsed i
    pageFrameUsedCount := needed }

/-- What creation does in the new address space once the executable has been read: the copy to the first page and
the cleared second page. -/
def loadImage (pageDir : PageDirectory) (request : ProcessRequest) (pcb : ProcessControlBlock) (t : Transfer)
    (memory : PhysicalMemory) : Option PhysicalMemory :=
  (storeBytes pageDir request.buf t.buf (2048 * t.clusters.length) memory).bind fun memory =>
    (memcpy pageDir (pcb.virtualAddrUsed 0) request.buf pageFrameSize.toNat memory).bind
      (memset pageDir (pcb.virtualAddrUsed 1) 0 pageFrameSize.toNat)

def ProcessControlBlock.created (pcb : ProcessControlBlock) (name : Name) (pageDir pid : UInt32) :
    ProcessControlBlock :=
  { pcb with
    pid := pid
    processName := name
    state := .ready
    context := ⟨newRegisterState, 0, 0x2 ||| 0x200, pageDir⟩ }

namespace Kernel

def reserve (k : Kernel) (request : ProcessRequest) (pIndex : Fin 16) (paging : PageManager) : Kernel :=
  { k with
    processList := update k.processList pIndex
      ((k.processList pIndex).withPages (pageFrameCountNeeded request))
    paging := paging }

def launch (k : Kernel) (L : Layout) (request : ProcessRequest) (pIndex : Fin 16) (newPage : Fin 32) : Kernel :=
  { k with
    processList := update k.processList pIndex ((k.processList pIndex).created request.name (L.address newPage)
      (processGenerateNewPid k.processList 16 1))
    activeProcessCount := k.activeProcessCount + 1 }

def loadUserProcess (L : Layout) (fuel : ℕ) (fs : FileSystem) (request : ProcessRequest) (k : Kernel)
    (pIndex : Fin 16) (newPage : Fin 32) : Option (ℤ × Kernel) :=
  let tempPage := pagingGetCurrentPageDirectoryAddr k.cr3
  let k := { k with cr3 := pagingUsePageDirectory (L.address newPage) }
  let pageDir := k.paging.pageDirectoryList newPage
  match read fuel fs (request.driverRequest pageDir k.memory) with
  | .returned retVal t =>
    if retVal ≠ 0 then
      some (processCreateFailFsReadFailure, { k with cr3 := pagingUsePageDirectory tempPage })
    else
      (loadImage pageDir request (k.processList pIndex) t k.memory).map fun memory =>
        (processCreateSuccess, { k with
          cr3 := pagingUsePageDirectory tempPage
          memory := memory }.launch L request pIndex newPage)
  | .outside _ => none
  | .running _ => none

/-- `process_create_user_process`. It does not return when it faults on a page that is not present, when the read
of the executable does not return, or when no slot is free. -/
def processCreateUserProcess (L : Layout) (fuel : ℕ) (fs : FileSystem) (request : ProcessRequest) (k : Kernel) :
    Option (ℤ × Kernel) :=
  if k.activeProcessCount ≥ 16 then some (processCreateFailMaxProcessExceeded, k)
  else if request.buf ≥ kernelVirtualAddressBase then some (processCreateFailInvalidEntrypoint, k)
  else if ¬ k.paging.pagingAllocateCheck (pageFrameCountNeeded request) ∨ pageFrameCountNeeded request > 8 then
    some (processCreateFailNotEnoughMemory, k)
  else
    (processListGetInactiveIndex k.processList).bind fun pIndex =>
      match k.paging.pagingCreateNewPageDirectory with
      | none => some (processCreateFailNotEnoughMemory, k)
      | some (newPage, paging) =>
        (paging.allocateUserPages newPage (pageFrameCountNeeded request).toNat).bind fun paging =>
          loadUserProcess L fuel fs request (k.reserve request pIndex paging) pIndex newPage

def searchReady (processList : Fin 16 → ProcessControlBlock) (running : Option (Fin 16)) : ℕ → Fin 16 → Fin 16 × ℕ
  | 0, nextIndex => (nextIndex, 0)
  | left + 1, nextIndex =>
    if some nextIndex = running ∨ (processList nextIndex).state = .ready then (nextIndex, left + 1)
    else searchReady processList running left (nextIndex + 1)

/-- How the scheduler leaves: it returns, so that the interrupted code goes on, or it loads the context of
a slot. -/
inductive Resumption
  | interrupted
  | switched (slot : Fin 16) (context : Context)

def markRunning (k : Kernel) (i : Fin 16) : Kernel :=
  { k with processList := update k.processList i { k.processList i with state := .running } }

def dispatch (k : Kernel) (i : Fin 16) : Kernel :=
  { k.markRunning i with
    runningProcessIdx := some i
    cr3 := pagingUsePageDirectory (k.processList i).context.pageDirectoryVirtualAddr }

def schedulerSwitchToNextProcess (k : Kernel) : Resumption × Kernel :=
  let start : Fin 16 := match k.runningProcessIdx with
    | none => 0
    | some running => running + 1
  let (nextIndex, left) := searchReady k.processList k.runningProcessIdx 16 start
  if some nextIndex = k.runningProcessIdx then (.interrupted, k.markRunning nextIndex)
  else if left = 0 then (.interrupted, k)
  else (.switched nextIndex (k.processList nextIndex).context, k.dispatch nextIndex)

def schedulerSaveContextToCurrentRunningPcb (k : Kernel) (ctx : Context) : Kernel :=
  match k.runningProcessIdx with
  | none => k
  | some i =>
    { k with processList := update k.processList i { k.processList i with context := ctx, state := .ready } }

def timerInterrupt (k : Kernel) (frame : InterruptFrame) : Resumption × Kernel :=
  (k.schedulerSaveContextToCurrentRunningPcb
    ⟨frame.cpu, frame.eip, frame.eflags, pagingGetCurrentPageDirectoryAddr k.cr3⟩).schedulerSwitchToNextProcess

def clearPcb (k : Kernel) (i : Fin 16) : Kernel := { k with processList := update k.processList i .zero }

/-- Without a running process the block pointer is null. -/
def terminateCurrentProcess (k : Kernel) : Option (Resumption × Kernel) :=
  k.runningProcessIdx.map fun i => (k.clearPcb i).schedulerSwitchToNextProcess

def findPid (k : Kernel) (pid : UInt32) : Option (Fin 16) := Fin.find? fun i => (k.processList i).pid == pid

def killProcess (k : Kernel) (pid : UInt32) : Option (ℤ × Resumption × Kernel) :=
  k.runningProcessIdx.bind fun running =>
    if (k.processList running).pid = pid then k.terminateCurrentProcess.map fun r => (0, r)
    else
      match k.findPid pid with
      | none => some (-1, .interrupted, k)
      | some i => some (0, .interrupted, k.clearPcb i)

def processDestroy (k : Kernel) (pid : UInt32) : Bool × Kernel :=
  (k.findPid pid).elim (false, k) fun i => (true, k.clearPcb i)

/-! ### Runs -/

def initial (L : Layout) (memory : PhysicalMemory) : Kernel where
  processList _ := .zero
  runningProcessIdx := none
  activeProcessCount := 0
  paging := .initial
  cr3 := pagingUsePageDirectory L.kernelPageDirectory
  memory := memory

def shellRequest : ProcessRequest :=
  ⟨0, ![0x73, 0x68, 0x65, 0x6C, 0x6C, 0, 0, 0], fun _ => 0, rootClusterNumber, 0x100000⟩

def kernelSetup (L : Layout) (fuel : ℕ) (fs : FileSystem) (memory : PhysicalMemory) :
    Option (Resumption × Kernel) :=
  (processCreateUserProcess L fuel fs shellRequest (initial L memory)).map fun r =>
    r.2.schedulerSwitchToNextProcess

def Booted (L : Layout) (memory : PhysicalMemory) (k : Kernel) : Prop :=
  ∃ fuel fs r, kernelSetup L fuel fs memory = some (r, k)

/-- The timer, and the system calls 12, 14 and 11. A creation comes with the file system it reads from. -/
inductive Event
  | timer (frame : InterruptFrame)
  | create (fuel : ℕ) (fs : FileSystem) (request : ProcessRequest)
  | kill (pid : UInt32)
  | terminate

structure Response where
  code : Option ℤ
  resumption : Resumption

def Resumption.stored (code : ℤ) : Resumption → Option ℤ
  | .interrupted => some code
  | .switched _ _ => none

def handle (L : Layout) (k : Kernel) : Event → Option (Response × Kernel)
  | .timer frame => some (⟨none, (k.timerInterrupt frame).1⟩, (k.timerInterrupt frame).2)
  | .create fuel fs request =>
    (processCreateUserProcess L fuel fs request k).map fun r => (⟨some r.1, .interrupted⟩, r.2)
  | .kill pid => (k.killProcess pid).map fun r => (⟨r.2.1.stored r.1, r.2.1⟩, r.2.2)
  | .terminate => k.terminateCurrentProcess.map fun r => (⟨none, r.1⟩, r.2)

/-- One interrupt. Since the last one user code has left the memory as it pleased; without a running process there
are no system calls. -/
def Step (L : Layout) (k : Kernel) (event : Event) (response : Response) (k' : Kernel) : Prop :=
  ((∃ frame, event = .timer frame) ∨ k.runningProcessIdx ≠ none) ∧
    ∃ memory, { k with memory := memory }.handle L event = some (response, k')

end Kernel

end Semogakelar.Process
