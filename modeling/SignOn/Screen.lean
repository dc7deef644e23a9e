import SignOn.Files.Host

/-!
The package that shows things on a terminal. It is no part of the program: what is proved of the
program holds whatever the package makes of a message or a table.
-/

namespace SignOn

structure Table where
  title : Option String := none
  headers : List String
  rows : List (List String)

/-- What the package writes when it shows something. It takes every message as it is, but reads the
cells of a table as markup, and may raise an exception of some name over them. -/
structure Screen where
  notice : String → String
  /-- A label in a style, with more to follow on its line. -/
  label : (style text : String) → String
  table : Table → Except String String
  frame : (title text : String) → String

/-- Opens a screen in some surroundings, with colours or not, and with data written as for a
terminal or not. Unfit surroundings make it raise an exception of some name. -/
abbrev OpenScreen := Host → (noColor rich : Bool) → Except String Screen

end SignOn
