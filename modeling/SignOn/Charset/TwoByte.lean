import SignOn.Charset.Big5
import SignOn.Charset.Gb2312
import SignOn.Charset.Jis0208
import SignOn.Charset.Jis0212
import SignOn.Charset.Ksx1001
import SignOn.Charset.SingleByte
import SignOn.Charset.Supplements

/-!
Sets of characters with codes of two bytes, and the characters that are found by counting: those of
a script that a smaller set lacks, in order.
-/

namespace SignOn.Charset

abbrev TwoByteSet := List (Nat × Array Char)

def TwoByteSet.ofText (text : String) : TwoByteSet :=
  (text.toList.splitOnP fun c => c = ' ' || c = '\n').filterMap fun run =>
    if run.isEmpty then none else some (Percent.hexNumber (run.take 4), (run.drop 4).toArray)

def TwoByteSet.find? (set : TwoByteSet) (code : Nat) : Option Char :=
  set.findSome? fun (first, chars) => if first ≤ code then chars[code - first]? else none

def TwoByteSet.chars (set : TwoByteSet) : List Char := set.flatMap (·.2.toList)

def japanese : TwoByteSet := .ofText jis0208

def japaneseSupplement : TwoByteSet := .ofText jis0212

def chinese : TwoByteSet := .ofText gb2312

def korean : TwoByteSet := .ofText ksx1001

def traditional : TwoByteSet := .ofText big5

def japaneseWindows : TwoByteSet := .ofText cp932Extra

def traditionalWindows : TwoByteSet := .ofText cp950Extra

def chineseExtra : TwoByteSet := .ofText gbkExtra

def chineseFurther : TwoByteSet := .ofText gb18030Extra

def unmarked (first last : Nat) (marks : Array Bool) : Array Nat :=
  ((List.range (last + 1 - first)).filterMap fun i =>
    if marks.getD (first + i) false then none else some (first + i)).toArray

def mark (marks : Array Bool) (codes : List Nat) : Array Bool :=
  codes.foldl (fun marks code => marks.setIfInBounds code true) marks

def noMarks : Array Bool := Array.replicate 0x10000 false

def otherHan : Array Nat := unmarked 0x4E00 0x9FA5 (mark noMarks (chinese.chars.map Char.toNat))

def otherSyllables : Array Nat :=
  unmarked 0xAC00 0xD7A3 (mark noMarks (korean.chars.map Char.toNat))

/-- The characters of the first plane that the further extended Chinese set has no codes of two
bytes for. Two signs of the smaller set gave way to others in it. -/
def otherChars : Array Nat :=
  let simple := (chinese.chars.map Char.toNat).filter (· ≠ 0x30FB)
  let extra := (chineseExtra.chars ++ chineseFurther.chars).map Char.toNat
  let privates := privateRuns.flatMap fun (_, first, count) =>
    (List.range count).map (first + ·)
  let marks := mark noMarks (simple ++ extra ++ privates)
  let marks := mark marks ((List.range 0x51A6).map (0x4E00 + ·))
  unmarked 0x80 0xFFFF (mark marks ((List.range 0x800).map (0xD800 + ·)))

def private? (code : Nat) : Option Char :=
  privateRuns.findSome? fun (first, char, count) =>
    if first ≤ code ∧ code < first + count then some (Char.ofNat (char + (code - first))) else none

end SignOn.Charset
