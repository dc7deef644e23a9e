import SignOn.Bytes.Utf8
import SignOn.Failure

/-!
A tree of files. A location lists the names from the root down; the tree records what stands at
each location, and the root is always a directory. Names are followed one at a time, so that a file
in the middle of a path is told from a directory that is missing.
-/

namespace SignOn

abbrev Location := List String

inductive Node where
  | file (bytes : List UInt8)
  | directory
deriving DecidableEq

structure FileTree where
  nodes : List (Location × Node) := []

namespace FileTree

/-- What stands at a location. -/
def node? (tree : FileTree) (location : Location) : Option Node :=
  if location = [] then some .directory else tree.nodes.lookup location

def isDirectory (tree : FileTree) (location : Location) : Bool :=
  tree.node? location == some .directory

def remove (tree : FileTree) (location : Location) : FileTree :=
  ⟨tree.nodes.filter fun node => node.1 != location⟩

def put (tree : FileTree) (location : Location) (node : Node) : FileTree :=
  ⟨(tree.remove location).nodes ++ [(location, node)]⟩

def longestName : Nat := 255

def isTooLong (name : String) : Bool := longestName < (Utf8.encode name).length

/-- The location that names lead to from a directory. All but the last must lead to directories
that exist; two dots lead to the directory above. -/
def follow (tree : FileTree) : Location → List String → Except FileFault Location
  | here, [] => .ok here
  | here, name :: rest =>
    match tree.node? here with
    | none => .error .missing
    | some (.file _) => .error .notDirectory
    | some .directory =>
      if name = ".." then tree.follow here.dropLast rest
      else if isTooLong name then .error .nameTooLong
      else tree.follow (here ++ [name]) rest

def find (tree : FileTree) (start : Location) (names : List String) :
    Except FileFault (Option Node) :=
  match tree.follow start names with
  | .ok location => .ok (tree.node? location)
  | .error .nameTooLong => .error .nameTooLong
  | .error _ => .ok none

def makeDirectory (tree : FileTree) (start : Location) (names : List String) :
    Except FileFault FileTree :=
  match tree.follow start names with
  | .error fault => .error fault
  | .ok location =>
    match tree.node? location with
    | some _ => .error .occupied
    | none => .ok (tree.put location .directory)

def leadsToDirectory (tree : FileTree) (start : Location) (names : List String) : Bool :=
  match tree.find start names with
  | .ok (some .directory) => true
  | _ => false

/-- Makes a directory unless there is one, and those above it that are missing. The names are given
from the last to the first. What was made before a fault stays. -/
def ensureDirectory (tree : FileTree) (start : Location) :
    List String → Except FileFault Unit × FileTree
  | [] => (.ok (), tree)
  | name :: above =>
    let names := (name :: above).reverse
    match tree.makeDirectory start names with
    | .ok made => (.ok (), made)
    | .error .missing =>
      match tree.ensureDirectory start above with
      | (.error fault, reached) => (.error fault, reached)
      | (.ok (), reached) => settle reached names
    | .error fault =>
      if tree.leadsToDirectory start names then (.ok (), tree) else (.error fault, tree)
where
  settle (reached : FileTree) (names : List String) : Except FileFault Unit × FileTree :=
    match reached.makeDirectory start names with
    | .ok made => (.ok (), made)
    | .error fault =>
      if reached.leadsToDirectory start names then (.ok (), reached) else (.error fault, reached)

def rename (tree : FileTree) (source target : Location) : Except FileFault FileTree :=
  match tree.node? target, tree.node? source with
  | some .directory, _ => .error .isDirectory
  | _, none => .error .missing
  | _, some node => .ok ((tree.remove source).put target node)

def plant (tree : FileTree) (node : Node) : Location → List String → FileTree
  | here, [] => if here = [] then tree else tree.put here node
  | here, name :: rest =>
    let opened := if here = [] then tree else tree.put here .directory
    opened.plant node (if name = ".." then here.dropLast else here ++ [name]) rest

/-- How many names are tried for a temporary file. -/
def attempts : Nat := 10000

/-- A name for a temporary file beside the file of the given name. -/
def temporaryName (name : String) (number : Nat) : String :=
  let digits := Nat.repr number
  "." ++ name ++ "." ++ String.ofList (List.replicate (8 - digits.length) '0') ++ digits ++ ".tmp"

def freeName? (tree : FileTree) (directory : Location) (name : String) : Nat → Option String
  | 0 => none
  | left + 1 =>
    let candidate := temporaryName name left
    if (tree.node? (directory ++ [candidate])).isNone then some candidate
    else tree.freeName? directory name left

/-- Replaces the file of a name in a directory that exists: the bytes go to a temporary file, which
is moved over the old one, or is removed when that cannot be done. No file can take the place of a
directory, and the names that lead to the directory itself or to the one above it are always in
use. -/
def replaceFile (tree : FileTree) (directory : Location) (name : String) (bytes : List UInt8) :
    Except FileFault Unit × FileTree :=
  if ! tree.isDirectory directory then (.error .missing, tree)
  else if isTooLong (temporaryName name 0) then (.error .nameTooLong, tree)
  else
    match tree.freeName? directory name attempts with
    | none => (.error .occupied, tree)
    | some temporary =>
      let source := directory ++ [temporary]
      let staged := tree.put source (.file bytes)
      let moved :=
        if name = "" ∨ name = ".." then .error .busy
        else staged.rename source (directory ++ [name])
      match moved with
      | .ok moved => (.ok (), moved)
      | .error fault => (.error fault, staged.remove source)

end FileTree

end SignOn
