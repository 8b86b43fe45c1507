import BuildCondition.Text.Cut

/-!
# Files

What the command line needs of the files around it: the text of a file, or why there is none,
and whether something exists at a path. How this is found out is left open; here it is also done
for a folder that is given by its files. Such a folder lies in an otherwise bare system, of which
only the usual directories are known.
-/

namespace BuildCondition.CommandLine

open BuildCondition.Text

/-! ## §1  Access -/

/-- Why a file cannot be read. -/
inductive ReadError where
  /-- No path holds the character with code zero. -/
  | nulInPath
  /-- The path, or a name in it, exceeds the limits of the system. -/
  | nameTooLong
  | missing
  /-- A file stands where a directory should. -/
  | notDirectory
  | isDirectory
  /-- The octets of the file are not UTF-8. -/
  | notText
  /-- Anything else that a system may report. -/
  | other (reason : String)
  deriving DecidableEq, Repr

namespace ReadError

def message : ReadError → String
  | nulInPath => "file name contained an unexpected NUL byte"
  | nameTooLong => "File name too long (os error 36)"
  | missing => "No such file or directory (os error 2)"
  | notDirectory => "Not a directory (os error 20)"
  | isDirectory => "Is a directory (os error 21)"
  | notText => "stream did not contain valid UTF-8"
  | other reason => reason

/-- The reasons by the numbers that systems give them. -/
def ofCode? (code : Nat) : Option ReadError :=
  if code = 2 then some missing
  else if code = 20 then some notDirectory
  else if code = 21 then some isDirectory
  else if code = 36 then some nameTooLong
  else none

end ReadError

/-- Access to files. Reading gives the text of a file, or the reason why it cannot be read. -/
structure Files (m : Type → Type) where
  read : String → m (Except ReadError String)
  holds : String → m Bool

/-! ## §2  Paths -/

/-- Whether a path holds the character with code zero. -/
def hasNul (path : String) : Bool :=
  path.toList.contains '\u0000'

/-- The most octets that a name in a path may have. -/
def nameLimit : Nat := 255

/-- The most octets that a path may have. -/
def pathLimit : Nat := 4095

/-- The steps of a path. -/
def pathSteps (path : String) : List String :=
  (fields '/' path.toList).map String.ofList

/-- Steps that lead nowhere else. -/
def isIdle (step : String) : Bool :=
  step == "" || step == "."

/-! ## §3  A tree of files -/

/-- What stands at a path. -/
inductive Found where
  | file (text : String)
  | directory
  deriving DecidableEq, Repr

/-- Files with their texts and some directories, by their steps from the root. A directory that
holds a file need not be listed. -/
structure Tree where
  files : List (List String × String)
  directories : List (List String)

namespace Tree

/-- What stands at the end of some names from the root. -/
def at? (tree : Tree) (names : List String) : Option Found :=
  match tree.files.lookup names with
  | some text => some (.file text)
  | none =>
      if tree.directories.contains names || tree.files.any (fun f => names.isPrefixOf f.1) then
        some .directory
      else none

/-- Goes from a directory along some steps. The root is its own parent. -/
def walk (tree : Tree) (here : List String) : List String → Except ReadError Found
  | [] => .ok .directory
  | step :: steps =>
      if isIdle step then walk tree here steps
      else if step = ".." then walk tree here.dropLast steps
      else if nameLimit < step.utf8ByteSize then .error .nameTooLong
      else
        match tree.at? (here ++ [step]) with
        | some (.file text) => if steps.isEmpty then .ok (.file text) else .error .notDirectory
        | some .directory => walk tree (here ++ [step]) steps
        | none => .error .missing

end Tree

/-! ## §4  A folder -/

/-- A folder that is the present one, with the paths and texts of the files in it. -/
structure Folder where
  files : List (String × String)

namespace Folder

/-- Where the folder lies. -/
def place : List String := ["tmp", "folder"]

/-- The directories at the root of every system. -/
def usualDirectories : List String :=
  ["bin", "boot", "dev", "etc", "home", "lib", "media", "mnt", "opt", "proc", "root", "run",
   "sbin", "srv", "sys", "tmp", "usr", "var"]

/-- The system around the folder. There is always an empty file to read from. -/
def tree (folder : Folder) : Tree :=
  ⟨(["dev", "null"], "") ::
      folder.files.map fun f => (place ++ (pathSteps f.1).filter fun step => !isIdle step, f.2),
    [] :: place :: usualDirectories.map fun name => [name]⟩

/-- What is at a path. A path that starts with a slash leads from the root, all others from the
folder. -/
def find (folder : Folder) (path : String) : Except ReadError Found :=
  if hasNul path then .error .nulInPath
  else if path = "" then .error .missing
  else if pathLimit < path.utf8ByteSize then .error .nameTooLong
  else folder.tree.walk (if path.toList.head? = some '/' then [] else place) (pathSteps path)

/-- The text at a path, or the reason why there is none. -/
def read (folder : Folder) (path : String) : Except ReadError String :=
  match folder.find path with
  | .ok (.file text) => .ok text
  | .ok .directory => .error .isDirectory
  | .error e => .error e

/-- Whether there is something at a path. -/
def holds (folder : Folder) (path : String) : Bool :=
  match folder.find path with
  | .ok _ => true
  | .error _ => false

/-- Access to the files of a folder. -/
def access (folder : Folder) : Files Id :=
  ⟨folder.read, folder.holds⟩

end Folder

end BuildCondition.CommandLine
