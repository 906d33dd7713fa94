/-!
# Files — what paths lead to, and trees of files in which paths are followed
-/
namespace Wiring

inductive FileNode where
  | file (content : String)
  /-- A file that is there but cannot be read as text, with what the system says of it. -/
  | sealed (reason : String)
  | directory (entries : List (String × FileNode))

inductive FileFault where
  | notFound
  | notDirectory
  | isDirectory
  | nameTooLong
  | nulInName
  | refused (reason : String)
  deriving DecidableEq

def FileFault.message : FileFault → String
  | .notFound => "No such file or directory (os error 2)"
  | .notDirectory => "Not a directory (os error 20)"
  | .isDirectory => "Is a directory (os error 21)"
  | .nameTooLong => "File name too long (os error 36)"
  | .nulInName => "file name contained an unexpected NUL byte"
  | .refused reason => reason

/-- A file system as a program sees it: what each path leads to. -/
structure Files where
  find : String → Except FileFault FileNode := fun _ => .error .notFound

namespace Files

def has (fs : Files) (path : String) : Bool := (fs.find path).toOption.isSome

def read (fs : Files) (path : String) : Except FileFault String :=
  match fs.find path with
  | .ok (.file content) => .ok content
  | .ok (.sealed reason) => .error (.refused reason)
  | .ok (.directory _) => .error .isDirectory
  | .error fault => .error fault

end Files

/-- The files below a root, and the names that lead from there to the working directory. -/
structure FileTree where
  root : List (String × FileNode) := []
  directory : List String := []

namespace FileTree

/-- The names of a path: what stands between slashes.  Doubled slashes leave empty names. -/
def parts : List Char → List (List Char)
  | [] => [[]]
  | '/' :: s => [] :: parts s
  | c :: s =>
    match parts s with
    | [] => [[c]]
    | p :: ps => (c :: p) :: ps

def names (path : String) : List String := (parts path.toList).map String.ofList

def put (name : String) (node : FileNode) : List (String × FileNode) → List (String × FileNode)
  | [] => [(name, node)]
  | e :: es => if e.1 = name then (name, node) :: es else e :: put name node es

def write (node : FileNode) : List String → List (String × FileNode) → List (String × FileNode)
  | [], entries => entries
  | [name], entries => put name node entries
  | name :: path, entries =>
    match entries.lookup name with
    | some (.directory inner) => put name (.directory (write node path inner)) entries
    | _ => put name (.directory (write node path [])) entries

def makeDirectory : List String → List (String × FileNode) → List (String × FileNode)
  | [], entries => entries
  | name :: path, entries =>
    match entries.lookup name with
    | some (.directory inner) => put name (.directory (makeDirectory path inner)) entries
    | _ => put name (.directory (makeDirectory path [])) entries

/-- Files written below a working directory, with their contents; a path without content makes a directory. -/
def ofPaths (directory : List String) (paths : List (String × Option String)) : FileTree where
  root := paths.foldl (fun entries p =>
    let path := directory ++ (names p.1).filter fun n => n ≠ "" ∧ n ≠ "."
    match p.2 with
    | some content => write (.file content) path entries
    | none => makeDirectory path entries) (makeDirectory directory [])
  directory := directory

def longestName : Nat := 255

def longestPath : Nat := 4095

/-- Follows names from a directory inside others, the nearest first.  A file has nothing below it, not even
itself, and above the root is the root. -/
def walk (outer : List (List (String × FileNode))) (here : List (String × FileNode)) :
    List String → Except FileFault FileNode
  | [] => .ok (.directory here)
  | name :: path =>
    if name = "" ∨ name = "." then walk outer here path
    else if name = ".." then
      match outer with
      | up :: more => walk more up path
      | [] => walk [] here path
    else if longestName < name.utf8ByteSize then .error .nameTooLong
    else match here.lookup name with
      | none => .error .notFound
      | some (.directory entries) => walk (here :: outer) entries path
      | some node => if path.isEmpty then .ok node else .error .notDirectory

/-- The names from the root on.  A path that does not begin with a slash begins at the working directory. -/
def way (t : FileTree) (path : String) : List String :=
  if path.toList.head? = some '/' then names path else t.directory ++ names path

/-- What a path leads to.  The empty path leads nowhere. -/
def find (t : FileTree) (path : String) : Except FileFault FileNode :=
  if path.toList.contains (Char.ofNat 0) then .error .nulInName
  else if path.isEmpty then .error .notFound
  else if longestPath < path.utf8ByteSize then .error .nameTooLong
  else walk [] t.root (t.way path)

def files (t : FileTree) : Files := ⟨t.find⟩

example : (["a", "./a", "/run/a", "../etc/a", "/../etc/a", "a/", "b"].map fun path =>
    (FileTree.mk [("etc", .directory [("a", .file "1")]), ("run", .directory [("a", .file "2")])] ["run"]).files.read
      path).map Except.toOption =
    [some "2", some "2", some "2", some "1", some "1", none, none] := by decide +kernel

end FileTree
end Wiring
