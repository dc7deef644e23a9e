import SignOn.Failure
import SignOn.Json.Writer
import SignOn.Screen

/-!
What the program says. Data goes to standard output, plain, as JSON or as a drawn table; messages
about the work go to standard error, each with a label. A quiet printer leaves out what is only
informative, and only a verbose one shows what is for debugging.
-/

namespace SignOn

inductive OutputFormat where
  | plain
  | json
  | rich
deriving DecidableEq

/-- How output is asked for; without a format it is settled by the terminal. -/
structure OutputStyle where
  format : Option OutputFormat := none
  noColor : Bool := false
  quiet : Bool := false
  verbose : Bool := false

structure Printer where
  format : OutputFormat
  noColor : Bool
  quiet : Bool
  verbose : Bool
  screen : Screen
  encodes : Char → Bool

inductive Label where
  | ok
  | warning
  | error
  | debug
deriving DecidableEq

def Label.text : Label → String
  | .ok => "OK"
  | .warning => "Warning"
  | .error => "Error"
  | .debug => "Debug"

def Label.style : Label → String
  | .ok => "green"
  | .warning => "yellow"
  | .error => "red"
  | .debug => "dim"

inductive Message where
  | data (text : String)
  | json (value : Value)
  | table (table : Table)
  | info (text : String)
  | labelled (label : Label) (text : String)

/-- What was written to standard output and to standard error. -/
structure Written where
  stdout : String := ""
  stderr : String := ""

def Written.append (first second : Written) : Written :=
  ⟨first.stdout ++ second.stdout, first.stderr ++ second.stderr⟩

namespace Printer

def disablesColor (host : Host) : Bool :=
  (host.valueOf? "NO_COLOR").isSome || host.valueOf? "TERM" == some "dumb"

def settle (onTerminal noColor : Bool) : Option OutputFormat → OutputFormat
  | some format => format
  | none => if onTerminal && ! noColor then .rich else .plain

def ofStyle (openScreen : OpenScreen) (host : Host) (onTerminal : Bool) (style : OutputStyle) :
    Except Failure Printer := do
  let noColor := style.noColor || disablesColor host
  let format := settle onTerminal noColor style.format
  let screen ← (openScreen host noColor (format == .rich)).mapError .escaped
  pure
    { format, noColor, quiet := style.quiet, verbose := style.verbose, screen,
      encodes := host.encodes }

def rowObject (headers cells : List String) : Value :=
  .table (Entries.ofList ((headers.zip cells).map fun (header, cell) => (header, .text cell)))

def tableJson (table : Table) : String :=
  Json.render .all (.list (table.rows.map (rowObject table.headers)))

def tabbed (cells : List String) : String := "\t".intercalate cells ++ "\n"

def tableText (printer : Printer) (table : Table) : Except Failure String :=
  match printer.format with
  | .json => .ok (tableJson table ++ "\n")
  | .plain => .ok (String.join ((table.headers :: table.rows).map tabbed))
  | .rich => (printer.screen.table table).mapError .escaped

/-- Writes data to standard output. A text that cannot be encoded there is not written. -/
def emit (printer : Printer) (text : String) : Except Failure Written :=
  if text.toList.all printer.encodes then .ok { stdout := text }
  else .error (.escaped "UnicodeEncodeError")

/-- A labelled message. Without colour it is one text. -/
def labelledText (printer : Printer) (label : Label) (text : String) : String :=
  if printer.noColor then printer.screen.notice (label.text ++ ": " ++ text)
  else printer.screen.label label.style label.text ++ printer.screen.notice text

def shows (printer : Printer) : Label → Bool
  | .ok => ! printer.quiet
  | .warning => true
  | .error => true
  | .debug => printer.verbose

def say (printer : Printer) (text : String) : Written :=
  { stderr := if printer.quiet then "" else printer.screen.notice text }

def tell (printer : Printer) (label : Label) (text : String) : Written :=
  { stderr := if printer.shows label then printer.labelledText label text else "" }

def print (printer : Printer) : Message → Except Failure Written
  | .data text => printer.emit (text ++ "\n")
  | .json value => printer.emit (Json.render .all value ++ "\n")
  | .table table => do printer.emit (← printer.tableText table)
  | .info text => .ok (printer.say text)
  | .labelled label text => .ok (printer.tell label text)

def printAll (printer : Printer) : List Message → Except Failure Written
  | [] => .ok {}
  | message :: rest => do
    let first ← printer.print message
    let others ← printer.printAll rest
    pure (first.append others)

end Printer

end SignOn
