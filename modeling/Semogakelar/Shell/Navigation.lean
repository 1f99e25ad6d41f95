import Semogakelar.Fat32.Operations
import Semogakelar.Shell.Paths

/-! The current directory of the shell, and the two walkers that change it. -/

namespace Semogakelar.Shell

open Fat32

structure Session where
  currentDirectory : UInt32
  currentPath : Str
  currentDirTable : DirectoryTable

/-- The variables of a walk: `temp_parent_cluster_number`, `current_path` and the walker's `temp_dir_table`. -/
structure Trail where
  cluster : UInt32
  path : Str
  table : DirectoryTable

def Session.trail (s : Session) : Trail := ⟨s.currentDirectory, s.currentPath, s.currentDirTable⟩

def Trail.session (t : Trail) : Session := ⟨t.cluster, t.path, t.table⟩

/-- Which table `temp_dir_table` is in a walker: the global one, which `change_directory` fills, or a local one. -/
inductive Scratch
  | shared
  | own

def Scratch.fill : Scratch → DirectoryTable → DirectoryTable → DirectoryTable
  | .shared, _, filled => filled
  | .own, kept, _ => kept

def directoryRequest (directoryName : Str) (parent : UInt32) : DriverRequest where
  buf _ := 0
  name := padded 8 directoryName
  ext _ := 0
  parentClusterNumber := parent
  bufferSize := 2048

def changeDirectory (scratch : Scratch) (fs : FileSystem) (directoryName : Str) (t : Trail) : Option (ℤ × Trail) :=
  let (retVal, transfer) := readDirectory fs (directoryRequest directoryName t.cluster)
  if retVal ≠ 0 then some (retVal, t)
  else
    let filled := tableEquiv (chunk transfer.buf 0)
    (selfName filled).bind fun name =>
      (appendCurrentPath t.path name).map fun path =>
        (0, ⟨(filled 0).clusterNumber, path, scratch.fill t.table filled⟩)

def parentDirectory (fs : FileSystem) (t : Trail) : Option Trail :=
  let parent := (t.table 1).clusterNumber
  (retractCurrentPath t.path).map fun path => ⟨parent, path, fs.table parent⟩

/-- The loop over the components. At the root `..` goes round without advancing the index, so it never ends. -/
def walk (scratch : Scratch) (fs : FileSystem) : List Str → Trail → Option (ℤ × Trail)
  | [], t => some (0, t)
  | name :: names, t =>
    if name = [dot, dot] then
      if t.path = rootPath then none else (parentDirectory fs t).bind fun t => walk scratch fs names t
    else if name = [dot] then walk scratch fs names t
    else
      (changeDirectory scratch fs name t).bind fun r =>
        if r.1 = 0 then walk scratch fs names r.2 else some r

namespace Session

def changePath (fs : FileSystem) (names : List Str) (s : Session) : Option (ℤ × Session) :=
  if names = [] then some (0, s)
  else (walk .shared fs names s.trail).map fun r => (r.1, if r.1 = 0 then r.2.session else s)

/-- The copy of the walker in `mv.c`, which does not undo the text of the path. -/
def changePathMv (fs : FileSystem) (names : List Str) (s : Session) : Option (ℤ × Session) :=
  if names = [] then some (0, s)
  else (walk .own fs names s.trail).map fun r =>
    (r.1, if r.1 = 0 then r.2.session else { s with currentPath := r.2.path })

def cancelChangePath (fs : FileSystem) (currentDirectoryTemp : UInt32) (pathTemp : Str) : Session :=
  ⟨currentDirectoryTemp, pathTemp, fs.table currentDirectoryTemp⟩

def toRoot (fs : FileSystem) : Session := ⟨rootClusterNumber, rootPath, fs.table rootClusterNumber⟩

end Session

end Semogakelar.Shell
