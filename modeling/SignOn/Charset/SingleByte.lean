import SignOn.Charset.Reading
import SignOn.Charset.SingleByteSets
import SignOn.Text.Percent

/-!
Reading text in a character set in which each byte is one character.
-/

namespace SignOn.Charset

def replacement : Char := '\uFFFD'

def readRun (word : List Char) : List Char :=
  let (start, more) := Text.cut '+' word
  let count := Percent.hexNumber (more.getD []) + 1
  if start = ['-'] then List.replicate count replacement
  else (List.range count).map fun i => Char.ofNat (Percent.hexNumber start + i)

def readSet (description : String) : Array Char :=
  ((Text.wordLists description.toList).flatMap readRun).toArray

def asciiChars : Array Char := ((List.range 0x80).map Char.ofNat).toArray

def singleByteSet? (name : String) : Option (Array Char) :=
  match extensions.lookup name with
  | some description => some (asciiChars ++ readSet description)
  | none => (otherSets.lookup name).map readSet

def readSingleBytes (set : Array Char) (bytes : List UInt8) : Reading :=
  bytes.map fun byte => (set[byte.toNat]?).filter (· ≠ replacement)

end SignOn.Charset
