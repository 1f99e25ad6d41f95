import Semogakelar.Process.Kernel
import Semogakelar.Shell.Navigation

/-! The commands of the shell that take paths or list directories, `mv` apart. -/

namespace Semogakelar.Shell

open Fat32 Process Memory

/-- What the commands depend on besides the state: the kernel they call, and what the stack holds where they read
before they write. -/
structure Env where
  img : KernelImage
  layout : Layout
  fuel : ℕ
  /-- The string in the row before an array of rows. -/
  below : Str
  /-- The memory from the array `buffer` on, and its address. -/
  buffer : ℕ → UInt8
  bufferAddr : UInt32
  /-- The string behind the eight bytes of `currName`. -/
  afterName : Str
  queue : ℕ → UInt32
  isfile : Bool

structure Resolution where
  path : Path
  start : UInt32

/-- `resolutions` records what the current command has resolved; nothing reads it. -/
structure World where
  fs : FileSystem
  kernel : Kernel
  session : Session
  resolutions : List Resolution

namespace World

def resolving (w : World) (path : Path) : World :=
  { w with resolutions := w.resolutions ++ [⟨path, w.session.currentDirectory⟩] }

def parsed (str : Str) (w : World) : World := if isAbsolute str then { w with session := .toRoot w.fs } else w

def parsePath (str : Str) (w : World) : Path × World := (splitPath str, w.parsed str)

def changePath (path : Path) (names : List Str) (w : World) : Option (ℤ × World) :=
  (w.session.changePath w.fs names).map fun r => (r.1, { w.resolving path with session := r.2 })

def changePathMv (path : Path) (names : List Str) (w : World) : Option (ℤ × World) :=
  (w.session.changePathMv w.fs names).map fun r => (r.1, { w.resolving path with session := r.2 })

def cancelChangePath (currentDirectoryTemp : UInt32) (pathTemp : Str) (w : World) : World :=
  { w with session := .cancelChangePath w.fs currentDirectoryTemp pathTemp }

end World

variable (env : Env)

/-- A system call that may leave the file system changed. It has no result when the driver does not return. -/
def World.store (w : World) : Outcome FileSystem ℤ → Option (ℤ × World)
  | .returned retVal fs => some (retVal, { w with fs := fs })
  | .outside _ => none
  | .running _ => none

def writeTo (name : Str) (path : Path) (buf : ℕ → UInt8) (bufferSize : UInt32) (isDirectory : Bool) (w : World) :
    Option (ℤ × World) := do
  let currentDirectoryTemp := w.session.currentDirectory
  let pathTemp := w.session.currentPath
  let (retVal, w) ← w.changePath path (if isDirectory then path.parents else path.all)
  if retVal ≠ 0 then
    return (retVal, w.cancelChangePath currentDirectoryTemp pathTemp)
  let fileName : FileName := if isDirectory then ⟨padded 8 name, fun _ => 0⟩ else (parseFileName name).2
  let (retVal, w) ← w.store
    (write env.img w.fs ⟨buf, fileName.name, fileName.ext, w.session.currentDirectory, bufferSize⟩)
  return (retVal, w.cancelChangePath currentDirectoryTemp pathTemp)

def readFile (path : Path) (w : World) : Option (ℤ × (ℕ → UInt8) × World) := do
  let currentDirectoryTemp := w.session.currentDirectory
  let pathTemp := w.session.currentPath
  let (retVal, w) ← w.changePath path path.parents
  if retVal ≠ 0 then
    return (retVal, env.buffer, w.cancelChangePath currentDirectoryTemp pathTemp)
  let (retVal, fileName) := parseFileName (path.last env.below)
  if retVal ≠ 0 then
    return (retVal, env.buffer, w.cancelChangePath currentDirectoryTemp pathTemp)
  match read env.fuel w.fs
    ⟨env.buffer, fileName.name, fileName.ext, w.session.currentDirectory, 2048 * 32⟩ with
  | .returned retVal t => return (retVal, t.buf, w.cancelChangePath currentDirectoryTemp pathTemp)
  | .outside _ => none
  | .running _ => none

def createDirectory (path : Path) (w : World) : Option World :=
  if containsInvalidChar (path.last env.below) dot then some w
  else (writeTo env (path.last env.below) path (fun _ => 0) 0 true w).map Prod.snd

def findBufferSize (buf : ℕ → UInt8) : UInt32 :=
  let idx := ((List.range 64).find? fun idx => (List.range 2048).all fun i => buf (2048 * idx + i) == 0).getD 64
  UInt32.ofNat (idx * 2048)

def copyFile (filePath destPath : Path) (w : World) : Option World := do
  let (retVal, buffer, w) ← readFile env filePath w
  if retVal ≠ 0 then
    return w
  let (_, w) ← writeTo env (filePath.last env.below) destPath buffer (findBufferSize buffer) false w
  return w

def executeProgram (path : Path) (w : World) : Option World := do
  let (retVal, w) ← w.changePath path path.parents
  if retVal ≠ 0 then
    return w
  let (retVal, fileName) := parseFileName (path.last env.below)
  if retVal ≠ 0 then
    return w
  let (_, kernel) ← Kernel.processCreateUserProcess env.layout env.fuel w.fs
    ⟨env.bufferAddr, fileName.name, fileName.ext, w.session.currentDirectory, 0x100000⟩ w.kernel
  return { w with kernel := kernel }

/-! ### `find` -/

def trackToParent (fs : FileSystem) : ℕ → UInt32 → List Name → Option (List Name)
  | 0, _, _ => none
  | fuel + 1, currCluster, listPath =>
    if listPath.length < 511 then
      let currDirectory := fs.table currCluster
      let listPath := listPath ++ [(currDirectory 0).name]
      if (currDirectory 0).clusterLow = 2 then some listPath
      else trackToParent fs fuel (currDirectory 1).clusterLow.toUInt32 listPath
    else none

structure Search where
  queue : ℕ → UInt32
  tempIdx : ℕ
  tracked : List UInt32

/-- A name of eight characters has no terminator of its own in `currName`. -/
def currName (name : Name) : Str :=
  let bytes := List.ofFn name
  if 0 ∈ bytes then bytes.takeWhile (· ≠ 0) else bytes ++ env.afterName

def searchEntry (fs : FileSystem) (goal : Str) (currCluster : UInt32) (entry : DirectoryEntry) (s : Search) :
    Option Search := do
  let s ← if currName env entry.name = goal then
      (trackToParent fs env.fuel currCluster []).map fun _ => { s with tracked := s.tracked ++ [currCluster] }
    else some s
  if entry.userAttribute = uattrNotEmpty ∧ entry.attr = attrSubdirectory then
    if s.tempIdx < 2048 then
      return { s with
        queue := Function.update s.queue s.tempIdx entry.clusterLow.toUInt32
        tempIdx := s.tempIdx + 1 }
    else none
  return s

def searchLoop (fs : FileSystem) (goal : Str) : ℕ → ℕ → Search → Option Search
  | 0, _, _ => none
  | fuel + 1, idxQueue, s =>
    if idxQueue < 2048 then
      if s.queue idxQueue = 0 then some s
      else do
        let currCluster := s.queue idxQueue
        let currDirectory := fs.table currCluster
        let s ← ((List.finRange 64).drop 2).foldlM (fun s i =>
          searchEntry env fs goal currCluster (currDirectory i) s)
          { s with tempIdx := idxQueue + 1 }
        searchLoop fs goal fuel (idxQueue + 1) s
    else none

/-! ### The commands -/

def cd (args : List Str) (w : World) : Option World :=
  match args with
  | [arg] =>
    let (path, w) := w.parsePath arg
    (w.changePath path path.all).map Prod.snd
  | _ => some w

def mkdir (args : List Str) (w : World) : Option World :=
  match args with
  | [arg] =>
    let (path, w) := w.parsePath arg
    createDirectory env path w
  | _ => some w

def cat (args : List Str) (w : World) : Option World :=
  match args with
  | [arg] =>
    let (path, w) := w.parsePath arg
    (readFile env path w).map fun r => r.2.2
  | _ => some w

def cp (args : List Str) (w : World) : Option World :=
  match args with
  | [src, dest] =>
    let (filePath, w) := w.parsePath src
    let (destPath, w) := w.parsePath dest
    copyFile env filePath destPath w
  | _ => some w

def rm (args : List Str) (w : World) : Option World :=
  match args with
  | [arg] => do
    let currentDirectoryTemp := w.session.currentDirectory
    let pathTemp := w.session.currentPath
    let (path, w) := w.parsePath arg
    let (retVal, w) ← w.changePath path path.parents
    if retVal ≠ 0 then
      return w.cancelChangePath currentDirectoryTemp pathTemp
    let fileName := (parseFileName (path.last env.below)).2
    let (_, w) ← w.store
      (delete env.fuel w.fs ⟨fun _ => 0, fileName.name, fileName.ext, w.session.currentDirectory, 0⟩)
    return w.cancelChangePath currentDirectoryTemp pathTemp
  | _ => some w

def exec (args : List Str) (w : World) : Option World :=
  match args with
  | [arg] =>
    let (path, w) := w.parsePath arg
    executeProgram env path w
  | _ => some w

def printDirectoryEntries (table : DirectoryTable) : List (Fin 64) :=
  (List.finRange 64).filter fun i => decide (2 ≤ i.val) && (table i).userAttribute == uattrNotEmpty

def ls (args : List Str) (w : World) : List (Fin 64) × World :=
  match args with
  | [] => (printDirectoryEntries w.session.currentDirTable, w)
  | _ => ([], w)

def find (args : List Str) (w : World) : Option (List UInt32 × World) :=
  match args with
  | [goal] =>
    (searchLoop env w.fs goal env.fuel 0 ⟨Function.update env.queue 0 2, 0, []⟩).map fun s => (s.tracked, w)
  | _ => some ([], w)

end Semogakelar.Shell
