import Semogakelar.Fat32.Tables

/-! The strings of the shell: path arguments and their components, file names, and the text of the current path. -/

namespace Semogakelar.Shell

open Fat32

/-- The characters of a C string before its terminator. -/
abbrev Str := List UInt8

def slash : UInt8 := 0x2F
def dot : UInt8 := 0x2E

def isSeparator (c : UInt8) : Bool := c == slash || c == 0x5C

def padded (n : ℕ) (s : Str) : Fin n → UInt8 := fun i => s.getD i 0

/-! ### `parse_path` -/

/-- A parsed argument: `rows` are the rows filled of the array `paths`, and `numOfDirectory` is the count that the
caller gets, which has gone through a byte. -/
structure Path where
  absolute : Bool
  numOfDirectory : ℕ
  rows : List Str

def countFolders : Str → UInt8 → UInt8
  | [], numOfFolder => numOfFolder
  | c :: str, numOfFolder => countFolders str (if isSeparator c && !str.isEmpty then numOfFolder +
      1 else numOfFolder)

def copyRows : Str → List Str → Str → List Str
  | [], rows, row => rows ++ [row]
  | c :: str, rows, row =>
    if isSeparator c then
      if str.isEmpty then copyRows str rows row else copyRows str (rows ++ [row]) []
    else copyRows str rows (row ++ [c])

def isAbsolute : Str → Bool
  | [] => false
  | c :: _ => isSeparator c

def splitPath (str : Str) : Path :=
  let rest := if isAbsolute str then str.drop 1 else str
  ⟨isAbsolute str, (countFolders rest 1).toNat, copyRows rest [] []⟩

namespace Path

def front (path : Path) (n : ℕ) : List Str := path.rows.take n

def parents (path : Path) : List Str := path.front (path.numOfDirectory - 1)

def all (path : Path) : List Str := path.front path.numOfDirectory

/-- The row `paths[num_of_directory - 1]`. A count of zero addresses the row before the array. -/
def last (path : Path) (below : Str) : Str :=
  if path.numOfDirectory = 0 then below else path.rows.getD (path.numOfDirectory - 1) []

end Path

/-! ### `parse_file_name` -/

def copyName : ℕ → Str → Str × Str
  | 0, s => ([], s)
  | _ + 1, [] => ([], [])
  | room + 1, c :: s =>
    if c = dot then ([], c :: s)
    else
      let r := copyName room s
      (c :: r.1, r.2)

structure FileName where
  name : Name
  ext : Ext

def parseFileName (fileName : Str) : ℤ × FileName :=
  let (name, rest) := copyName 8 fileName
  if name.length = 8 ∧ rest ≠ [] ∧ rest.head? ≠ some dot then (1, ⟨padded 8 name, fun _ => 0⟩)
  else
    -- The character the first loop stopped at is skipped, whatever it is.
    let rest := rest.drop 1
    let ext := rest.take 3
    (if 3 < rest.length then -1 else 0, ⟨padded 8 name, padded 3 ext⟩)

/-! ### `current_path` -/

def rootPath : Str := [slash]

/-- Appending stops being defined where the text leaves the 512 bytes of `current_path`. -/
def appendCurrentPath (currentPath path : Str) : Option Str :=
  let extended := (if currentPath.length ≠ 1 then currentPath ++ [slash] else currentPath) ++ path
  if extended.length < 512 then some extended else none

/-- A text without a separator is left at its front, which is not defined either. -/
def retractCurrentPath (currentPath : Str) : Option Str :=
  match currentPath.reverse.dropWhile (· ≠ slash) with
  | [] => none
  | [c] => some [c]
  | _ :: parent => some parent.reverse

/-- The string that begins at the name of a table's self entry, which may run on into the bytes behind the name. -/
def selfName (table : DirectoryTable) : Option Str :=
  let bytes := List.ofFn (tableEquiv.symm table)
  if 0 ∈ bytes then some (bytes.takeWhile (· ≠ 0)) else none

def containsInvalidChar (name : Str) (invalidChar : UInt8) : Bool := name.contains invalidChar

end Semogakelar.Shell
