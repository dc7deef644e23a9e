import SignOn.Terminal.Notice
import SignOn.Terminal.Table
import SignOn.Text.Digits
import SignOn.Toolkit

/-!
A screen that the package would open. The environment tells what kind of terminal there is and how
large it is.
-/

namespace SignOn.Terminal

def kindOf (host : Host) : String := Text.lower ((host.valueOf? "TERM").getD "")

def isDumb (host : Host) : Bool := kindOf host ∈ ["dumb", "unknown"]

def paletteOf (host : Host) : Option Palette :=
  if isDumb host then none
  else if Text.strip (Text.lower ((host.valueOf? "COLORTERM").getD "")) ∈ ["truecolor", "24bit"]
  then some .mixed
  else
    match (Text.splitBy "-" (Text.strip (kindOf host))).getLast? with
    | some "256color" => some .indexed
    | some "kitty" => some .indexed
    | _ => some .sixteen

def defaultWidth : Nat := 80

/-- A measure of the terminal that the environment gives. What is not made of digits is none, and
digits may stand for no number. -/
def sizeOf? (host : Host) (name : String) : Except String (Option Nat) :=
  match host.valueOf? name with
  | none => .ok none
  | some text =>
    if text = "" ∨ ! text.toList.all Text.isDigit then .ok none
    else
      match Text.digitsNumber? text.toList with
      | some size => .ok (some size)
      | none => .error "ValueError"

/-- A table drawn with lines. On a terminal without width nothing is shown. -/
def drawn (palette : Option Palette) (colored : Bool) (width : Nat) (table : Table) :
    Except String String :=
  if width = 0 then .ok ""
  else
    match table.lines width with
    | .error fault => .error fault.name
    | .ok lines =>
      .ok (String.ofList (lines.flatMap fun line =>
        Segment.write palette colored width line ++ ['\n']))

/-- Data in rich form is always written as for a terminal. One that understands no escape sequences
has the default width, unless the environment gives all of its size. -/
def screen : OpenScreen := fun host noColor rich => do
  let columns ← sizeOf? host "COLUMNS"
  let lines ← sizeOf? host "LINES"
  let width := columns.getD defaultWidth
  let dataWidth :=
    if rich && isDumb host && ! (columns.isSome && lines.isSome) then defaultWidth else width
  pure
    { notice := notice width
      label := fun _ text => lead width (text ++ ": ")
      table := drawn (if rich then paletteOf host else none) (! noColor) dataWidth
      frame := frame width }

/-- The packages as the program comes with them. -/
def toolkit : Toolkit := { read := ConfigFile.parse, openScreen := screen }

end SignOn.Terminal
