import Semogakelar.Fat32.Transfers
import Semogakelar.Machine.Pointers
import Semogakelar.Terminal.Clock

/-! The interrupt handler of the kernel with every system call, over all the state that the calls work on. -/

namespace Semogakelar.Machine

open Function Memory Fat32 Library Process Terminal

/-- The variables of the kernel and its devices; `digits` is the buffer of `itoa`. -/
structure State where
  kernel : Kernel
  fs : FileSystem
  console : Console
  digits : ℕ → UInt8
  rtc : Rtc

/-! ### The texts of `print_active_processes` -/

def stateByte : ProcessState → UInt8
  | .new => 0
  | .waiting => 1
  | .ready => 2
  | .running => 3
  | .terminated => 4

/-- `process_name` up to the first zero byte. The state is right behind it, which ends a name of eight
characters. -/
def processText (pcb : ProcessControlBlock) : List UInt8 :=
  (List.ofFn pcb.processName ++ [stateByte pcb.state]).takeWhile (· ≠ 0)

def textBytes (text : String) : List UInt8 := text.toList.map fun c => UInt8.ofNat c.toNat

-- The identifier is passed as an `int`.
def printProcess (pcb : ProcessControlBlock) (digits : ℕ → UInt8) (t : Console) :
    Option ((ℕ → UInt8) × Console) :=
  (itoa pcb.pid.toInt32.toInt 10 digits).bind fun (start, digits) => (Shell.textAt 32 digits start).map fun pid =>
    (digits, ((((t.puts (textBytes "PID: ") 0x7).puts pid 0xF).puts (textBytes "     Name: ") 0x7).puts
      (processText pcb) 0xF).puts (textBytes "\n") 0xF)

def printProcesses (processList : Fin 16 → ProcessControlBlock) :
    List (Fin 16) → (ℕ → UInt8) → Console → Option ((ℕ → UInt8) × Console)
  | [], digits, t => some (digits, t)
  | i :: is, digits, t =>
    if (processList i).state = .running ∨ (processList i).state = .ready then
      (printProcess (processList i) digits t).bind fun (digits, t) => printProcesses processList is digits t
    else printProcesses processList is digits t

def printActiveProcesses (processList : Fin 16 → ProcessControlBlock) (digits : ℕ → UInt8) (t : Console) :
    Option ((ℕ → UInt8) × Console) :=
  printProcesses processList (List.finRange 16) digits (t.puts (textBytes "Currently running processes:\n") 0x7)

/-! ### Pointers of the caller -/

/-- The request that is stored at a pointer, field after field without padding. -/
def requestOf (bytes : List UInt8) : ProcessRequest where
  buf := uint32 fun j => bytes.getD j 0
  name := fun j => bytes.getD (4 + j) 0
  ext := fun j => bytes.getD (12 + j) 0
  parentClusterNumber := uint32 fun j => bytes.getD (15 + j) 0
  bufferSize := uint32 fun j => bytes.getD (19 + j) 0

namespace State

def withMemory (s : State) (memory : PhysicalMemory) : State :=
  { s with kernel := { s.kernel with memory := memory } }

def pages (L : Layout) (s : State) : Option PageDirectory :=
  (Fin.find? fun d => L.address d == pagingGetCurrentPageDirectoryAddr s.kernel.cr3).map
    s.kernel.paging.pageDirectoryList

def load (L : Layout) (s : State) (addr : UInt32) (n : ℕ) : Option (List UInt8) :=
  (s.pages L).bind fun pageDir => loadBytes pageDir s.kernel.memory addr n

def store (L : Layout) (s : State) (addr : UInt32) (data : ℕ → UInt8) (n : ℕ) : Option State :=
  (s.pages L).bind fun pageDir => (storeBytes pageDir addr data n s.kernel.memory).map s.withMemory

/-- An `int8_t` at a pointer. -/
def storeCode (L : Layout) (s : State) (addr : UInt32) (code : ℤ) : Option State :=
  s.store L addr (fun _ => UInt8.ofNat (code % 256).toNat) 1

def request (L : Layout) (s : State) (addr : UInt32) : Option ProcessRequest := (s.load L addr 23).map requestOf

def driverRequest (L : Layout) (s : State) (addr : UInt32) : Option (UInt32 × DriverRequest) :=
  (s.pages L).bind fun pageDir => (s.request L addr).map fun request =>
    (request.buf, request.driverRequest pageDir s.kernel.memory)

/-! ### The calls -/

def storeTransfer (L : Layout) (s : State) (buf : UInt32) (t : Transfer) : Option State :=
  s.store L buf t.buf (2048 * t.clusters.length)

def read (L : Layout) (fuel : ℕ) (cpu : CPURegister) (s : State) : Option State :=
  (s.driverRequest L cpu.ebx).bind fun (buf, request) =>
    match Fat32.read fuel s.fs request with
    | .returned code t => (s.storeTransfer L buf t).bind fun s => s.storeCode L cpu.ecx code
    | .outside _ => none
    | .running _ => none

def readDirectory (L : Layout) (cpu : CPURegister) (s : State) : Option State :=
  (s.driverRequest L cpu.ebx).bind fun (buf, request) =>
    let (code, t) := Fat32.readDirectory s.fs request
    (s.storeTransfer L buf t).bind fun s => s.storeCode L cpu.ecx code

def Fetchable (L : Layout) (s : State) (buf : UInt32) : Touch → Prop
  | .fetch offset => (s.load L (buf + UInt32.ofNat offset) 2048).isSome
  | .store _ _ => True
  | .index _ => True

instance (L : Layout) (s : State) (buf : UInt32) (touch : Touch) : Decidable (Fetchable L s buf touch) :=
  match touch with
  | .fetch offset => inferInstanceAs (Decidable ((s.load L (buf + UInt32.ofNat offset) 2048).isSome = true))
  | .store _ _ => inferInstanceAs (Decidable True)
  | .index _ => inferInstanceAs (Decidable True)

def conclude (L : Layout) (s : State) (addr : UInt32) : Outcome FileSystem ℤ → Option State
  | .returned code fs => { s with fs := fs }.storeCode L addr code
  | .outside _ => none
  | .running _ => none

def write (L : Layout) (img : KernelImage) (cpu : CPURegister) (s : State) : Option State :=
  (s.driverRequest L cpu.ebx).bind fun (buf, request) =>
    if ∀ touch ∈ (loggedWrite img s.fs request).1, Fetchable L s buf touch then
      s.conclude L cpu.ecx (Fat32.write img s.fs request)
    else none

def delete (L : Layout) (fuel : ℕ) (cpu : CPURegister) (s : State) : Option State :=
  (s.driverRequest L cpu.ebx).bind fun (_, request) => s.conclude L cpu.ecx (Fat32.delete fuel s.fs request)

def getKeyboardBuffer (L : Layout) (cpu : CPURegister) (s : State) : Option State :=
  let (c, console) := s.console.getKeyboardBuffer
  { s with console := console }.store L cpu.ebx (fun _ => c) 1

def putchar (L : Layout) (cpu : CPURegister) (s : State) : Option State :=
  (s.load L cpu.ebx 1).map fun c => { s with console := s.console.putchar (c.getD 0 0) cpu.ecx.toUInt8 }

def puts (L : Layout) (cpu : CPURegister) (s : State) : Option State :=
  (s.load L cpu.ebx cpu.ecx.toNat).map fun text => { s with console := s.console.puts text cpu.edx.toUInt8 }

def readClusters (L : Layout) (cpu : CPURegister) (s : State) : Option State :=
  s.store L cpu.ebx (fun j => Fat32.readClusters s.fs.disk cpu.ecx (Fin.ofNat 2048 j)) 2048

def writeClusters (L : Layout) (cpu : CPURegister) (s : State) : Option State :=
  (s.load L cpu.ebx 2048).map fun bytes =>
    { s with fs := { s.fs with disk := Fat32.writeClusters s.fs.disk cpu.ecx fun j => bytes.getD j 0 } }

def showProcesses (s : State) : Option State :=
  (printActiveProcesses s.kernel.processList s.digits s.console).map fun (digits, console) =>
    { s with digits := digits, console := console }

def showTime (fuel : ℕ) (s : State) : Option State :=
  (printCurrentTime fuel s.rtc s.digits s.console).map fun (rtc, digits, console) =>
    { s with rtc := rtc, digits := digits, console := console }

def manage (L : Layout) (addr : UInt32) (event : Kernel.Event) (s : State) : Option (Kernel.Resumption × State) :=
  (s.kernel.handle L event).bind fun (response, kernel) =>
    let s := { s with kernel := kernel }
    match response.code with
    | none => some (response.resumption, s)
    | some code => (s.storeCode L addr code).map fun s => (response.resumption, s)

def returned (s : Option State) : Option (Kernel.Resumption × State) := s.map fun s => (.interrupted, s)

def interrupt (L : Layout) (img : KernelImage) (fuel : ℕ) (cpu : CPURegister) (s : State) :
    Option (Kernel.Resumption × State) :=
  match cpu.eax.toNat with
  | 0 => returned (s.read L fuel cpu)
  | 1 => returned (s.readDirectory L cpu)
  | 2 => returned (s.write L img cpu)
  | 3 => returned (s.delete L fuel cpu)
  | 4 => returned (s.getKeyboardBuffer L cpu)
  | 5 => returned (s.putchar L cpu)
  | 6 => returned (s.puts L cpu)
  | 7 => returned (some { s with console := s.console.keyboardStateActivate })
  | 8 => returned (some { s with console := s.console.framebufferClear.resetWritePosition })
  | 9 => returned (s.readClusters L cpu)
  | 10 => returned (s.writeClusters L cpu)
  | 11 => s.manage L 0 .terminate
  | 12 => (s.request L cpu.ebx).bind fun request => s.manage L cpu.ecx (.create fuel s.fs request)
  | 13 => returned s.showProcesses
  | 14 => s.manage L cpu.ecx (.kill cpu.ebx)
  | 15 => returned (s.showTime fuel)
  | 16 => returned (some { s with console := s.console.keyboardStateActivate })
  | 17 => returned (some { s with
      console := s.console.framebufferWrite cpu.ecx.toUInt8 cpu.edx.toUInt8 cpu.ebx.toUInt8 0xF 0 })
  | _ => returned (some s)

end State

/-- An interrupt, with the byte that the keyboard has for it. -/
structure Interrupt where
  intNumber : UInt32
  frame : InterruptFrame
  scancode : UInt8

/-- After a page fault the machine halts with interrupts off. -/
def State.mainInterruptHandler (L : Layout) (img : KernelImage) (fuel : ℕ) (i : Interrupt) (s : State) :
    Option (Kernel.Resumption × State) :=
  match i.intNumber.toNat with
  | 0xE => none
  | 0x21 => some (.interrupted, { s with console := s.console.keyboardIsr i.scancode })
  | 0x20 =>
    let (r, kernel) := s.kernel.timerInterrupt i.frame
    some (r, { s with kernel := kernel })
  | 0x30 => s.interrupt L img fuel i.frame.cpu
  | _ => some (.interrupted, s)

def kernelSetup (L : Layout) (img : KernelImage) (fuel : ℕ) (disk : Disk) (memory : PhysicalMemory)
    (screen : ℕ → UInt16) (registers : ℕ → UInt8 → UInt8) : Option (Kernel.Resumption × State) :=
  (Kernel.kernelSetup L fuel (boot img disk) memory).map fun (r, kernel) => (r, {
    kernel := kernel
    fs := boot img disk
    console := (Console.mk false 0 0 0 0 screen 0).framebufferClear.framebufferSetCursor 0 0
    digits := fun _ => 0
    rtc := ⟨⟨registers, 0, 0⟩, 0, 0, 0, 0, 0, 0⟩ })

def Boots (L : Layout) (img : KernelImage) (s : State) : Prop :=
  ∃ fuel disk memory screen registers r, kernelSetup L img fuel disk memory screen registers = some (r, s)

/-! ### The kernel's own page -/

/-- The kernel goes through `n` bytes from the address on, for a pointer of the call. -/
inductive State.Follows (L : Layout) (img : KernelImage) (s : State) (cpu : CPURegister) : UInt32 → ℕ → Prop
  | request : cpu.eax.toNat ≤ 3 ∨ cpu.eax.toNat = 12 → Follows L img s cpu cpu.ebx 23
  | code : cpu.eax.toNat ≤ 3 ∨ cpu.eax.toNat = 12 ∨ cpu.eax.toNat = 14 → Follows L img s cpu cpu.ecx 1
  | file {fuel : ℕ} {buf : UInt32} {request : DriverRequest} {code : ℤ} {t : Transfer} : cpu.eax.toNat = 0 →
    s.driverRequest L cpu.ebx = some (buf, request) → Fat32.read fuel s.fs request = .returned code t →
    Follows L img s cpu buf (2048 * t.clusters.length)
  | folder {buf : UInt32} {request : DriverRequest} : cpu.eax.toNat = 1 →
    s.driverRequest L cpu.ebx = some (buf, request) →
    Follows L img s cpu buf (2048 * (Fat32.readDirectory s.fs request).2.clusters.length)
  | fetch {buf : UInt32} {request : DriverRequest} {offset : ℕ} : cpu.eax.toNat = 2 →
    s.driverRequest L cpu.ebx = some (buf, request) → .fetch offset ∈ (loggedWrite img s.fs request).1 →
    Follows L img s cpu (buf + UInt32.ofNat offset) 2048
  | char : cpu.eax.toNat = 4 ∨ cpu.eax.toNat = 5 → Follows L img s cpu cpu.ebx 1
  | text : cpu.eax.toNat = 6 → Follows L img s cpu cpu.ebx cpu.ecx.toNat
  | cluster : cpu.eax.toNat = 9 ∨ cpu.eax.toNat = 10 → Follows L img s cpu cpu.ebx 2048
  | executable {fuel : ℕ} {request : ProcessRequest} {response : Kernel.Response} {kernel : Kernel} {buf : UInt32}
      {driverRequest : DriverRequest} {t : Transfer} {n : ℕ} : cpu.eax.toNat = 12 →
    s.request L cpu.ebx = some request → s.kernel.handle L (.create fuel s.fs request) = some (response, kernel) →
    response.code = some processCreateSuccess → s.driverRequest L cpu.ebx = some (buf, driverRequest) →
    Fat32.read fuel s.fs driverRequest = .returned 0 t → n = 2048 * t.clusters.length ∨ n = pageFrameSize.toNat →
    Follows L img s cpu buf n

structure Arrival where
  interrupt : Interrupt
  state : State

/-- User code has stored what it has since the last interrupt. Without a running process there are no system
calls. -/
def Arrival.FoundIn (L : Layout) (a : Arrival) (s : State) : Prop :=
  (a.interrupt.intNumber.toNat = 0x30 → s.kernel.runningProcessIdx ≠ none) ∧
    ∃ memory, s.kernel.Leaves L memory ∧ a.state = s.withMemory memory

/-- The call gives the kernel no pointer into the kernel's own page, which is writable in every directory. -/
def Arrival.KeepsOut (L : Layout) (img : KernelImage) (a : Arrival) : Prop :=
  a.interrupt.intNumber.toNat = 0x30 → ∀ addr n, a.state.Follows L img a.interrupt.frame.cpu addr n →
    ∀ j < n, pageIndex (addr + UInt32.ofNat j) ≠ kernelPage

/-- One interrupt. A call whose pointer leads into the kernel's page goes over the variables of the kernel, and any
state can follow. -/
def MachineStep (L : Layout) (img : KernelImage) (s : State) (a : Arrival) (r : Kernel.Resumption) (s' : State) :
    Prop :=
  a.FoundIn L s ∧
    (a.KeepsOut L img → ∃ fuel, a.state.mainInterruptHandler L img fuel a.interrupt = some (r, s'))

end Semogakelar.Machine
