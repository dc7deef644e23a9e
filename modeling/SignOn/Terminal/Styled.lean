import SignOn.Terminal.Style
import SignOn.Terminal.Width
import SignOn.Text.Split

/-!
Text with styles on parts of it, and how it is laid out. Control characters are left out, tabs
become blanks, and a line that is too wide is broken in front of a word. A word that fits on no line
is broken itself, or cut off with an ellipsis.
-/

namespace SignOn.Terminal

/-- A stretch of text that a style is laid over; the end is not included. -/
structure Span where
  start : Nat
  stop : Nat
  style : Style

structure Styled where
  chars : List Char
  spans : List Span := []
  base : Option Style := none

structure Segment where
  chars : List Char
  style : Style := .plain

inductive Alignment where
  | natural
  | left
  | centre
deriving DecidableEq

inductive Overflow where
  | broken
  | cutOff
deriving DecidableEq

def isHidden (c : Char) : Bool := c.toNat ∈ [7, 8, 11, 12, 13]

def shown (text : List Char) : List Char := text.filter (! isHidden ·)

def blanks (count : Nat) : List Char := List.replicate count ' '

namespace Span

def shift (count : Nat) (span : Span) : Span :=
  { span with start := span.start + count, stop := span.stop + count }

def within? (start stop : Nat) (span : Span) : Option Span :=
  let first := span.start - start
  let last := min span.stop stop - start
  if first < last then some { span with start := first, stop := last } else none

end Span

namespace Styled

def ofText (text : List Char) : Styled := { chars := shown text }

def withChars (text : Styled) (chars : List Char) : Styled :=
  let length := chars.length
  if length < text.chars.length then
    { text with
      chars
      spans := (text.spans.filter fun span => span.start < length).map fun span =>
        { span with stop := min span.stop length } }
  else { text with chars }

def padLeft (count : Nat) (text : Styled) : Styled :=
  { text with chars := blanks count ++ text.chars, spans := text.spans.map (Span.shift count) }

def padRight (count : Nat) (text : Styled) : Styled :=
  { text with chars := text.chars ++ blanks count }

def trimmed (text : Styled) : Styled := text.withChars (Text.trimEnd text.chars)

def trimmedTo (width : Nat) (text : Styled) : Styled :=
  let excess := text.chars.length - width
  let trailing := text.chars.length - (Text.trimEnd text.chars).length
  text.withChars (text.chars.take (text.chars.length - min trailing excess))

def cropped (width : Nat) (overflow : Overflow) (text : Styled) : Styled :=
  if cellWidth text.chars ≤ width then text
  else
    match overflow with
    | .broken => text.withChars (fitTo width text.chars)
    | .cutOff => text.withChars (fitTo (width - 1) text.chars ++ ['…'])

def align (alignment : Alignment) (width : Nat) (overflow : Overflow) (text : Styled) : Styled :=
  match alignment with
  | .natural => text
  | .left => text.cropped width overflow |>.padRight (width - cellWidth text.chars)
  | .centre =>
    let text := text.trimmed.cropped width overflow
    let text := text.padLeft ((width - cellWidth text.chars) / 2)
    text.padRight (width - cellWidth text.chars)

def slice (start stop : Nat) (text : Styled) : Styled :=
  { text with
    chars := (text.chars.take stop).drop start
    spans := text.spans.filterMap (Span.within? start stop) }

/-- A text in parts that end at the given places. Without a place it stays as it is, with all its
styles, even those over nothing. -/
def divide (text : Styled) (places : List Nat) : List Styled :=
  if places.isEmpty then [text]
  else
    ((0 :: places).zip (places ++ [text.chars.length])).map fun (start, stop) =>
      text.slice start stop

def placesOf (test : Char → Bool) : Nat → List Char → List Nat
  | _, [] => []
  | place, c :: rest =>
    if test c then place :: placesOf test (place + 1) rest else placesOf test (place + 1) rest

def lines (text : Styled) : List Styled :=
  let places := placesOf (· = '\n') 0 text.chars
  (text.divide (places.flatMap fun place => [place, place + 1])).filter (·.chars != ['\n'])

/-- Texts one after another. What lay below all of one lies below it alone. -/
def join (texts : List Styled) : Styled :=
  texts.foldl (fun (whole : Styled) text =>
    let place := whole.chars.length
    let below := text.base.toList.map fun style => ⟨0, text.chars.length, style⟩
    { whole with
      chars := whole.chars ++ text.chars
      spans := whole.spans ++ (below ++ text.spans).map (Span.shift place) })
    { chars := [] }

def extend (count : Nat) (text : Styled) : Styled :=
  { text with
    chars := text.chars ++ blanks count
    spans := text.spans.map fun span =>
      if text.chars.length ≤ span.stop then { span with stop := span.stop + count } else span }

def tabSize : Nat := 8

def stopTabs : Nat → List Styled → List Styled
  | _, [] => []
  | column, part :: rest =>
    if part.chars.getLast? = some '\t' then
      let bare := { part with chars := part.chars.dropLast ++ [' '] }
      let column := column + cellWidth bare.chars
      let missing := if column % tabSize = 0 then 0 else tabSize - column % tabSize
      bare.extend missing :: stopTabs (column + missing) rest
    else part :: stopTabs (column + cellWidth part.chars) rest

def expandTabs (line : Styled) : Styled :=
  if '\t' ∈ line.chars then
    let parts := line.divide ((placesOf (· = '\t') 0 line.chars).map (· + 1))
    let parts := if line.chars.getLast? = some '\t' then parts.dropLast else parts
    let whole := join (stopTabs 0 parts)
    { line with chars := whole.chars, spans := whole.spans }
  else line

/-- The words of a line, each with the blanks that follow it; the blanks in front belong to the
first word. A blank line has no words. -/
def words (line : List Char) : List (List Char) :=
  match line.splitBy fun c d => ! (Text.isSpace c && ! Text.isSpace d) with
  | [] => []
  | [only] => if only.all Text.isSpace then [] else [only]
  | first :: second :: rest =>
    if first.all Text.isSpace then (first ++ second) :: rest else first :: second :: rest

def placesBehind : Nat → List (List Char) → List Nat
  | _, [] => []
  | _, [_] => []
  | place, piece :: next :: rest =>
    (place + piece.length) :: placesBehind (place + piece.length) (next :: rest)

def breaks (width : Nat) (overflow : Overflow) : Nat → Nat → List (List Char) → List Nat
  | _, _, [] => []
  | used, place, word :: rest =>
    let bare := cellWidth (Text.trimEnd word)
    let after := place + word.length
    let here := if place = 0 then [] else [place]
    if used + bare ≤ width then breaks width overflow (used + cellWidth word) after rest
    else if width < bare then
      match overflow with
      | .broken =>
        let pieces := chop width word
        (here ++ placesBehind place pieces).filter (· ≠ 0) ++
          breaks width overflow (cellWidth (pieces.getLastD [])) after rest
      | .cutOff => here ++ breaks width overflow (cellWidth word) after rest
    else if used = 0 ∨ place = 0 then breaks width overflow used after rest
    else here ++ breaks width overflow (cellWidth word) after rest

def wrapLine (width : Nat) (alignment : Alignment) (overflow : Overflow) (line : Styled) :
    List Styled :=
  let line := line.expandTabs
  (line.divide (breaks width overflow 0 0 (words line.chars))).map fun part =>
    ((part.trimmedTo width).align alignment width overflow).cropped width overflow

def wrap (width : Nat) (alignment : Alignment) (overflow : Overflow) (text : Styled) :
    List Styled :=
  text.lines.flatMap (wrapLine width alignment overflow)

def styleAt (spans : List Span) (place : Nat) : Style :=
  (spans.filter fun span => span.start ≤ place && place < span.stop).foldl
    (fun style span => style.under span.style) .plain

def segments (line : Styled) : List Segment :=
  let spans := (line.base.toList.map fun style => ⟨0, line.chars.length, style⟩) ++ line.spans
  let places := (spans.flatMap fun span => [span.start, span.stop]) ++ [0, line.chars.length]
  let places := (places.mergeSort (· ≤ ·)).eraseDups
  (places.zip (places.drop 1)).map fun (start, stop) =>
    ⟨(line.chars.take stop).drop start, styleAt spans start⟩

end Styled

namespace Segment

def crop : Nat → List Segment → List Segment
  | _, [] => []
  | room, segment :: rest =>
    if cellWidth segment.chars < room then
      segment :: crop (room - cellWidth segment.chars) rest
    else [{ segment with chars := fitTo room segment.chars }]

def totalWidth (segments : List Segment) : Nat :=
  segments.foldl (fun total segment => total + cellWidth segment.chars) 0

def fit (width : Nat) (style : Style) (segments : List Segment) : List Segment :=
  let given := totalWidth segments
  if given < width then segments ++ [⟨blanks (width - given), style⟩]
  else if width < given then crop width segments
  else segments

def write (palette : Option Palette) (colored : Bool) (width : Nat) (segments : List Segment) :
    List Char :=
  let segments := if width < totalWidth segments then crop width segments else segments
  segments.flatMap fun segment =>
    match palette with
    | none => segment.chars
    | some palette =>
      let style := if colored then segment.style else segment.style.colorless
      style.dress palette segment.chars

end Segment

end SignOn.Terminal
