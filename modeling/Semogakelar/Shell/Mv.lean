import Semogakelar.Shell.Commands

/-! The command `mv`, which edits directory tables by raw cluster writes, and the dispatch of the commands. -/

namespace Semogakelar.Shell

open Fat32 Function

variable (env : Env)

def World.writeTable (cluster : UInt32) (table : DirectoryTable) (w : World) : World :=
  { w with fs := { w.fs with disk := writeClusters w.fs.disk cluster (tableEquiv.symm table) } }

def findName (table : DirectoryTable) (start : ℕ) (name : Name) : Option (Fin 64) :=
  Fin.find? fun i => decide (start ≤ i.val) && memcmp (table i).name name == 0

/-- The test for a free slot compares `attribute`, which holds the kind of the entry. -/
def findFree (table : DirectoryTable) (start : ℕ) : Option (Fin 64) :=
  Fin.find? fun i => decide (start ≤ i.val) && (table i).attr != uattrNotEmpty

def withName (table : DirectoryTable) (i : Fin 64) (newName : Str) : DirectoryTable :=
  update table i { table i with name := padded 8 newName }

def renameEntry (newName : Str) (indexTable : Fin 64) (w : World) : World :=
  let currentDirTable := withName w.session.currentDirTable indexTable newName
  let w := w.writeTable w.session.currentDirectory currentDirTable
  if (currentDirTable indexTable).attr = attrSubdirectory then
    let cluster := (currentDirTable indexTable).clusterLow.toUInt32
    w.writeTable cluster (withName (w.fs.table cluster) 0 newName)
  else w

/-- The name is searched as the first eight bytes of the whole argument, from slot 0 on. -/
def renameListed (listPath : Path) (path newName : Str) (w : World) : Option World :=
  (w.changePath listPath listPath.parents).map fun r =>
    ((findName r.2.session.currentDirTable 0 (padded 8 path)).elim r.2
      fun indexTable => renameEntry newName indexTable r.2).cancelChangePath
        w.session.currentDirectory w.session.currentPath

def rename (path newName : Str) (w : World) : Option World :=
  if containsInvalidChar newName dot then some w
  else
    let (listPath, w) := w.parsePath path
    renameListed listPath path newName w

structure Located where
  table : DirectoryTable
  cluster : UInt32

def World.located (w : World) : Located := ⟨w.session.currentDirTable, w.session.currentDirectory⟩

/-- The directory of the source. A path that does not resolve leaves the current directory in its place. -/
def locateParent (path : Path) (w : World) : Option (Located × World) :=
  if path.numOfDirectory = 1 then some (w.located, w.resolving path)
  else (w.changePath path path.parents).map fun r =>
    (r.2.located, r.2.cancelChangePath w.session.currentDirectory w.session.currentPath)

def locate (path : Path) (w : World) : Option (ℤ × Located × World) :=
  (w.changePath path path.all).map fun r =>
    (r.1, r.2.located, r.2.cancelChangePath w.session.currentDirectory w.session.currentPath)

def locateSource (isfile : Bool) (path : Path) (w : World) : Option (Located × World) :=
  if isfile then some (⟨fun _ => .zero, 0⟩, w) else (locate path w).map Prod.snd

/-- The writes of `move`, in the order of the source: the folder that moves, its old directory, its new one. The
index 64 of a source that was not found, and a destination slot 64, lie behind the tables. -/
def transferEntry (parentSrc dest src : Located) (isfile : Bool) (idx : Option (Fin 64)) (w : World) :
    Option World := do
  let i ← idx
  let j ← findFree dest.table 2
  let srcDirectory := update src.table 1 (dest.table 0)
  let w := if isfile then w else w.writeTable src.cluster srcDirectory
  let w := w.writeTable parentSrc.cluster (update parentSrc.table i .zero)
  let moved := if isfile then parentSrc.table i else srcDirectory 0
  return w.writeTable dest.cluster (update dest.table j moved)

def placeEntry (parentSrc dest src : Located) (isfile : Bool) (idx : Option (Fin 64)) (w : World) : Option World :=
  if findFree dest.table 1 = none then some w else transferEntry parentSrc dest src isfile idx w

def moveListed (srcPath destPath : Path) (w : World) : Option World := do
  let initialCluster := w.session.currentDirectory
  let (parentSrc, w) ← locateParent srcPath w
  let idx := findName parentSrc.table 2 (padded 8 (srcPath.last env.below))
  -- Without a match `isfile` keeps what the stack held.
  let isfile := idx.elim env.isfile fun i => (parentSrc.table i).attr != attrSubdirectory
  let (src, w) ← locateSource isfile srcPath w
  let (ret, dest, w) ← locate destPath w
  if ret ≠ 0 then
    return w
  let w ← placeEntry parentSrc dest src isfile idx w
  return { w with session := { w.session with currentDirTable := w.fs.table initialCluster } }

def move (args0 args1 : Str) (w : World) : Option World :=
  let (destPath, w) := w.parsePath args1
  let (srcPath, w) := w.parsePath args0
  moveListed env srcPath destPath w

def probe (dest : Str) (w : World) : Option (ℤ × World) :=
  let (destPath, w₁) := w.parsePath dest
  (w₁.changePathMv destPath destPath.all).map fun r =>
    (r.1, r.2.cancelChangePath w.session.currentDirectory w.session.currentPath)

def mv (args : List Str) (w : World) : Option World :=
  match args with
  | [src, dest] => do
    let initialCluster := w.session.currentDirectory
    let (ret, w) ← probe dest w
    if ret = 2 then
      if (w.session.currentDirTable 0).clusterLow.toUInt32 = initialCluster then
        rename src ((splitPath dest).last env.below) w
      else return w
    else move env src dest w
  | _ => some w

inductive Command
  | cd
  | ls
  | mkdir
  | cat
  | cp
  | rm
  | find
  | mv
  | exec

def run (command : Command) (args : List Str) (w : World) : Option World :=
  match command with
  | .cd => cd args w
  | .ls => some (ls args w).2
  | .mkdir => mkdir env args w
  | .cat => cat env args w
  | .cp => cp env args w
  | .rm => rm env args w
  | .find => (find env args w).map Prod.snd
  | .mv => mv env args w
  | .exec => exec env args w

end Semogakelar.Shell
