import SignOn.Bytes.Utf16
import SignOn.Text.Quoted
import SignOn.Value

/-!
Writing JSON text, two spaces to a level and one item to a line. Either every character beyond
ASCII is escaped by its UTF-16 units, or it stands for itself.
-/

namespace SignOn.Json

inductive Charset where
  | ascii
  | all
deriving DecidableEq

def escapeUnit (unit : Nat) : List Char := '\\' :: 'u' :: Text.hexDigits 4 unit

def escapeChar (charset : Charset) (c : Char) : List Char :=
  if c = '"' then ['\\', '"']
  else if c = '\\' then ['\\', '\\']
  else if c = '\n' then ['\\', 'n']
  else if c = '\r' then ['\\', 'r']
  else if c = '\t' then ['\\', 't']
  else if c = '\x0c' then ['\\', 'f']
  else if c = '\x08' then ['\\', 'b']
  else if c.toNat < 0x20 then escapeUnit c.toNat
  else if charset = .ascii ∧ 0x7F ≤ c.toNat then (Utf16.unitsOfChar c).flatMap escapeUnit
  else [c]

def writeString (charset : Charset) (cs : List Char) : List Char :=
  '"' :: cs.flatMap (escapeChar charset) ++ ['"']

def writeFloat (x : Binary64) : List Char :=
  match x.kind with
  | .nan => "NaN".toList
  | .infinite => if x.isNegative then "-Infinity".toList else "Infinity".toList
  | .finite _ _ => x.text.toList

def margin (level : Nat) : List Char := '\n' :: List.replicate (2 * level) ' '

def enclose (opening closing : Char) (level : Nat) : List (List Char) → List Char
  | [] => [opening, closing]
  | parts =>
    opening :: margin (level + 1) ++
      (',' :: margin (level + 1)).intercalate parts ++ margin level ++ [closing]

mutual

/-- The text of a value that begins at the given depth. A tuple is written as a list, and a set,
for which there is no form, as the text that displays it. -/
def write (charset : Charset) (level : Nat) : Value → List Char
  | .null => "null".toList
  | .bool b => if b then "true".toList else "false".toList
  | .int n => (Value.intText n).toList
  | .float x => writeFloat x
  | .text s => writeString charset s.toList
  | .list items => enclose '[' ']' level (writeItems charset (level + 1) items)
  | .tuple items => enclose '[' ']' level (writeItems charset (level + 1) items)
  | .set items => writeString charset (Value.set items).display.toList
  | .table entries => enclose '{' '}' level (writeEntries charset (level + 1) entries)

def writeItems (charset : Charset) (level : Nat) : List Value → List (List Char)
  | [] => []
  | item :: rest => write charset level item :: writeItems charset level rest

def writeEntries (charset : Charset) (level : Nat) : List (String × Value) → List (List Char)
  | [] => []
  | (key, item) :: rest =>
    (writeString charset key.toList ++ ':' :: ' ' :: write charset level item) ::
      writeEntries charset level rest

end

def render (charset : Charset) (value : Value) : String := String.ofList (write charset 0 value)

end SignOn.Json
