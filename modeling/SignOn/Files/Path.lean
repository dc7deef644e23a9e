import SignOn.Text.Percent

/-!
Path names: where they start and the segments they pass through. Empty segments and single dots say
nothing and are dropped; two dots are kept, because they mean the directory above whatever the
segments before them lead to.
-/

namespace SignOn

inductive Root where
  | relative
  | rooted
  | doublyRooted
deriving DecidableEq

structure Path where
  root : Root
  segments : List String
deriving DecidableEq

namespace Path

def rootOf : List Char → Root
  | '/' :: '/' :: '/' :: _ => .rooted
  | '/' :: '/' :: _ => .doublyRooted
  | '/' :: _ => .rooted
  | _ => .relative

def saysSomething (segment : List Char) : Bool := segment != [] && segment != ['.']

def ofString (text : String) : Path :=
  { root := rootOf text.toList,
    segments := ((text.toList.splitOn '/').filter saysSomething).map String.ofList }

def rootText : Root → String
  | .relative => ""
  | .rooted => "/"
  | .doublyRooted => "//"

/-- The path as text; the empty path is a dot. -/
def text (path : Path) : String :=
  if path.root = .relative ∧ path.segments = [] then "."
  else rootText path.root ++ "/".intercalate path.segments

def name (path : Path) : String := path.segments.getLastD ""

def parent (path : Path) : Path := { path with segments := path.segments.dropLast }

def join (path : Path) (segment : String) : Path :=
  { path with segments := path.segments ++ [segment] }

/-- Whether the path begins with a tilde, for the home directory of a user. -/
def isHomely (path : Path) : Bool :=
  match path.root, path.segments with
  | .relative, first :: _ => "~".toList.isPrefixOf first.toList
  | _, _ => false

end Path

end SignOn
