import SignOn.Files.Path
import SignOn.Files.Tree
import SignOn.Text.Newline

/-!
The host that the program runs on: its environment variables, its accounts, its files and the
directory that relative paths start from. Reading and writing never show how the host keeps them.
-/

namespace SignOn

structure Host where
  environment : Entries String := []
  /-- The home directory of each user. -/
  accounts : Entries String := []
  /-- The home directory of the user that the program runs as, if there is such an account. -/
  ownHome : Option String := none
  /-- The characters that standard output can encode. -/
  encodes : Char → Bool := fun _ => true
  workingDirectory : Location := []
  files : FileTree := {}

namespace Host

def valueOf? (host : Host) (name : String) : Option String := host.environment.get? name

/-- The value of a variable, where an empty one counts as absent. -/
def nonEmptyValueOf? (host : Host) (name : String) : Option String :=
  match host.valueOf? name with
  | some "" => none
  | other => other

def pathLimit : Nat := 4096

def isNul (c : Char) : Bool := c.toNat == 0

def holdsNul (text : String) : Bool := text.toList.any isNul

def isTooLong (path : Path) : Bool := pathLimit ≤ (Utf8.encode path.text).length

def start (host : Host) (path : Path) : Location :=
  if path.root = .relative then host.workingDirectory else []

/-- The bytes of the file at a path, if there is one. -/
def read? (host : Host) (path : Path) : Except FileFault (Option (List UInt8)) :=
  if holdsNul path.text then .ok none
  else if isTooLong path then .error .nameTooLong
  else
    match host.files.find (host.start path) path.segments with
    | .ok (some (.file bytes)) => .ok (some bytes)
    | .ok _ => .ok none
    | .error fault => .error fault

def plant (host : Host) (path : Path) (node : Node) : Host :=
  { host with files := host.files.plant node (host.start path) path.segments }

/-- The text of a file: UTF-8 with any kind of line end. -/
def textOf (bytes : List UInt8) : Option String :=
  (Utf8.decode bytes).map fun text => String.ofList (Text.unifyNewlines text.toList)

def withoutEndingSlashes (text : String) : String :=
  String.ofList (text.toList.reverse.dropWhile (· == '/')).reverse

def homeOf? (host : Host) (segment : String) : Option String :=
  let home :=
    if segment = "~" then (host.valueOf? "HOME").or host.ownHome
    else host.accounts.get? (String.ofList (segment.toList.drop 1))
  home.map fun home =>
    let bare := withoutEndingSlashes home
    if bare = "" then "/" else bare

/-- The path with the home directory in place of a tilde at its start. -/
def expand (host : Host) (path : Path) : Except Failure Path :=
  match path.isHomely, path.segments with
  | true, first :: rest =>
    if holdsNul first then .error (.file .badName)
    else
      match host.homeOf? first with
      | none => .error .unknownUser
      | some home =>
        if "~".toList.isPrefixOf home.toList then .error .unknownUser
        else
          let start := Path.ofString home
          .ok { start with segments := start.segments ++ rest }
  | _, _ => .ok path

/-- Whether the file at a path, or the temporary one beside it, has too long a path. -/
def isTooLongToReplace (path : Path) (directory : Location) : Bool :=
  isTooLong path ||
    isTooLong { root := .rooted, segments := directory ++ [FileTree.temporaryName path.name 0] }

/-- Writes a text to a path at one stroke. The directories on the way are made; whatever happens,
the file holds either all that it held before or all of the text. -/
def write (host : Host) (path : Path) (text : String) : Except FileFault Unit × Host :=
  if holdsNul path.parent.text then (.error .badName, host)
  else if isTooLong path.parent then (.error .nameTooLong, host)
  else
    match host.files.ensureDirectory (host.start path) path.parent.segments.reverse with
    | (.error fault, reached) => (.error fault, { host with files := reached })
    | (.ok (), reached) =>
      if holdsNul path.name then (.error .badName, { host with files := reached })
      else
        match reached.follow (host.start path) path.parent.segments with
        | .error fault => (.error fault, { host with files := reached })
        | .ok directory =>
          if isTooLongToReplace path directory then
            (.error .nameTooLong, { host with files := reached })
          else
            let (result, files) := reached.replaceFile directory path.name (Utf8.encode text)
            (result, { host with files })

end Host

end SignOn
