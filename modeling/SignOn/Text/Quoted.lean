import SignOn.Text.Percent
import SignOn.Text.Printable

/-!
Quoted literals. A text stands between single quotes, or between double quotes when it holds a
single quote and no double one; within, the quote, the backslash and every character that cannot be
printed are escaped.
-/

namespace SignOn.Text

def lowerHexDigit (n : Nat) : Char := (Percent.hexDigit n).toLower

def hexDigits : Nat → Nat → List Char
  | 0, _ => []
  | width + 1, n => hexDigits width (n / 16) ++ [lowerHexDigit (n % 16)]

def quoteMark (cs : List Char) : Char :=
  if '\'' ∈ cs ∧ '"' ∉ cs then '"' else '\''

def escapeQuoted (mark : Char) (c : Char) : List Char :=
  if c = mark || c = '\\' then ['\\', c]
  else if c = '\n' then ['\\', 'n']
  else if c = '\r' then ['\\', 'r']
  else if c = '\t' then ['\\', 't']
  else if isPrintable c then [c]
  else if c.toNat < 0x100 then '\\' :: 'x' :: hexDigits 2 c.toNat
  else if c.toNat < 0x10000 then '\\' :: 'u' :: hexDigits 4 c.toNat
  else '\\' :: 'U' :: hexDigits 8 c.toNat

def quoteChars (cs : List Char) : List Char :=
  let mark := quoteMark cs
  mark :: cs.flatMap (escapeQuoted mark) ++ [mark]

def quote (text : String) : String := String.ofList (quoteChars text.toList)

end SignOn.Text
