import SignOn.Provider.NameChars
import SignOn.Provider.Punycode
import SignOn.Text.Percent

/-!
Internationalised host names. Each label of a name is checked, for characters that may stand in it,
for their order and for the direction they are written in, and is then written in ASCII.
-/

namespace SignOn.HostName

open Text (inRanges)

/-- The class of a mark, by which marks on one character are ordered; of other characters zero. -/
def markClass (c : Char) : Nat :=
  ((markClasses.find? fun (first, last, _) => first ≤ c.toNat && c.toNat ≤ last).map
    (·.2.2)).getD 0

def viramaClass : Nat := 9

def isMark (c : Char) : Bool := inRanges nonspacingRanges c || inRanges spacingMarkRanges c

/-! A label must be in its composed form: no two of its characters may be composed into one, and
marks on one character stand in the order of their classes. -/

def triples : List Nat → List (Char × Char × Char)
  | whole :: first :: second :: rest =>
    (Char.ofNat whole, Char.ofNat first, Char.ofNat second) :: triples rest
  | _ => []

def compositions : List (Char × Char × Char) :=
  triples ((Text.wordLists composed.toList).map Percent.hexNumber)

/-- A character in its parts; `fuel` bounds how often a part has parts. -/
def decompose : Nat → Char → List Char
  | 0, c => [c]
  | fuel + 1, c =>
    match compositions.lookup c with
    | some (first, second) => decompose fuel first ++ [second]
    | none => [c]

def insertMark (mark : Char) : List Char → List Char
  | [] => [mark]
  | c :: rest =>
    if markClass c ≠ 0 ∧ markClass c < markClass mark then c :: insertMark mark rest
    else mark :: c :: rest

def orderMarks : List Char → List Char
  | [] => []
  | c :: rest => if markClass c = 0 then c :: orderMarks rest else insertMark c (orderMarks rest)

def compose? (first second : Char) : Option Char :=
  (compositions.find? fun composition => composition.2 == (first, second)).map (·.1)

def composeBehind : Char → List Char → List Char → List Char
  | base, marks, [] => base :: marks
  | base, marks, c :: rest =>
    let free := marks.getLast?.all fun mark => markClass mark < markClass c
    match (if free then compose? base c else none) with
    | some whole => composeBehind whole marks rest
    | none =>
      if markClass c = 0 then base :: marks ++ composeBehind c [] rest
      else composeBehind base (marks ++ [c]) rest

def composedForm (label : List Char) : List Char :=
  match orderMarks (label.flatMap (decompose 4)) with
  | [] => []
  | c :: rest => composeBehind c [] rest

/-! Some characters may stand in a label only next to certain others. -/

/-- Whether letters on both sides are joined across a place. The characters in front are in reverse
order. -/
def joins (before after : List Char) : Bool :=
  let isTransparent (c : Char) : Bool :=
    inRanges nonspacingRanges c && c.toNat ≠ 0x1171E || inRanges otherTransparentRanges c
  let isDual (c : Char) : Bool := inRanges dualJoiningRanges c
  (before.dropWhile isTransparent).head?.any (fun c => isDual c || inRanges leftJoiningRanges c) &&
    (after.dropWhile isTransparent).head?.any (fun c => isDual c || inRanges rightJoiningRanges c)

def fits (before : List Char) (c : Char) (after : List Char) : Bool :=
  let followsVirama := before.head?.any fun c => markClass c = viramaClass
  match c.toNat with
  | 0x200C => followsVirama || joins before after
  | 0x200D => followsVirama
  | 0xB7 => before.head? == some 'l' && after.head? == some 'l'
  | 0x375 => after.head?.any (inRanges greekRanges)
  | 0x5F3 => before.head?.any (inRanges hebrewRanges)
  | 0x5F4 => before.head?.any (inRanges hebrewRanges)
  | 0x30FB => (before ++ after).any (inRanges kanaOrHanRanges)
  | code =>
    if 0x660 ≤ code ∧ code ≤ 0x669 then
      ! (before ++ after).any (inRanges [(0x6F0, 0x6F9)])
    else if 0x6F0 ≤ code ∧ code ≤ 0x6F9 then
      ! (before ++ after).any (inRanges [(0x660, 0x669)])
    else inRanges allowedRanges c

def allFit : List Char → List Char → Bool
  | _, [] => true
  | before, c :: rest => fits before c rest && allFit (c :: before) rest

/-! A label with letters that are written from right to left must not hold others. -/

inductive Direction where
  | left
  | right
  | number
  | arabicNumber
  | mark
  | neutral
deriving DecidableEq

def neutralRanges : List (Nat × Nat) :=
  [(0x2D, 0x2D), (0xB7, 0xB7), (0x2B9, 0x2BA), (0x2C6, 0x2CF), (0x2EC, 0x2EC), (0x375, 0x375),
   (0x200C, 0x200D), (0x2E2F, 0x2E2F), (0x30FB, 0x30FB), (0xA67F, 0xA67F), (0xA717, 0xA71F),
   (0xA788, 0xA788)]

def rightToLeftRanges : List (Nat × Nat) :=
  [(0x590, 0x8FF), (0xFB1D, 0xFDFF), (0xFE70, 0xFEFF), (0x10800, 0x10FFF), (0x1E800, 0x1EFFF)]

def direction (c : Char) : Direction :=
  if inRanges nonspacingRanges c then .mark
  else if inRanges [(0x30, 0x39), (0x6F0, 0x6F9)] c then .number
  else if inRanges [(0x660, 0x669), (0x10D30, 0x10D39)] c then .arabicNumber
  else if inRanges neutralRanges c then .neutral
  else if inRanges rightToLeftRanges c then .right
  else .left

def directionsAgree (label : List Char) : Bool :=
  let directions := label.map direction
  let last := (directions.filter (· ≠ .mark)).getLast?
  if ! directions.any (fun one => one = .right || one = .arabicNumber) then true
  else if directions.head? = some .right then
    ! directions.contains .left && last != some .neutral &&
      ! (directions.contains .number && directions.contains .arabicNumber)
  else false

/-! Writing names. -/

def labelLimit : Nat := 63

def isLabel (label : List Char) : Bool :=
  ! label.isEmpty && label.length ≤ 254 && composedForm label == label &&
    (label.drop 2).take 2 != ['-', '-'] && label.head? != some '-' && label.getLast? != some '-' &&
    ! label.head?.any isMark && allFit [] label && directionsAgree label

def encodedMark : List Char := "xn--".toList

def isPlainLabel (label : List Char) : Bool :=
  let lower := label.map Char.toLower
  if encodedMark.isPrefixOf lower then
    let encoded := lower.drop encodedMark.length
    ! encoded.isEmpty && encoded.getLast? != some '-' && (Punycode.decode encoded).any isLabel
  else isLabel lower

def encodeLabel (label : List Char) : Option (List Char) :=
  let encoded :=
    if label.all (·.toNat < 0x80) then (if isPlainLabel label then some label else none)
    else if isLabel label then some (encodedMark ++ Punycode.encode label)
    else none
  encoded.filter (·.length ≤ labelLimit)

def isDot (c : Char) : Bool := c.toNat ∈ [0x2E, 0x3002, 0xFF0E, 0xFF61]

/-- A name in ASCII, if it is one. A dot may end it. -/
def encode (name : List Char) : Option (List Char) :=
  let labels := name.splitOnP isDot
  let dotted := labels.getLast? = some []
  let labels := if dotted then labels.dropLast else labels
  if labels.isEmpty then none
  else
    (labels.mapM encodeLabel).bind fun labels =>
      let name := ['.'].intercalate (if dotted then labels ++ [[]] else labels)
      if name.length ≤ (if dotted then 254 else 253) then some name else none

end SignOn.HostName
