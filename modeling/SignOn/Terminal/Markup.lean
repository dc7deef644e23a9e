import SignOn.Terminal.Emoji
import SignOn.Terminal.Styled

/-!
Marked-up text. A tag in brackets opens a style, a tag that begins with a slash closes the style
that it names, or the one opened last. A bracket that begins no tag is text, and so is a tag behind
an odd number of backslashes.
-/

namespace SignOn.Terminal.Markup

inductive Fault where
  | closesNothing
  | brokenColor
deriving DecidableEq

def Fault.name : Fault → String
  | .closesNothing => "MarkupError"
  | .brokenColor => "ValueError"

structure Tag where
  name : String
  parameter : Option String

inductive Piece where
  | text (chars : List Char)
  | tag (tag : Tag)

def beginsTag (c : Char) : Bool :=
  ('a' ≤ c && c ≤ 'z') || c = '#' || c = '/' || c = '@'

/-- What stands in front of the closing bracket, and the rest; no other bracket may open before. -/
def closing? : List Char → Option (List Char × List Char)
  | [] => none
  | c :: rest =>
    if c = ']' then some ([], rest)
    else if c = '[' then none
    else (closing? rest).map fun (inside, rest) => (c :: inside, rest)

def tagAt? : List Char → Option (List Char × List Char)
  | '[' :: c :: rest =>
    if beginsTag c then (closing? rest).map fun (inside, rest) => (c :: inside, rest) else none
  | _ => none

def Tag.ofInside (inside : List Char) : Tag :=
  let (name, parameter) := Text.cut '=' inside
  ⟨String.ofList name, parameter.map String.ofList⟩

def escaped (backslashes : Nat) (inside : List Char) : List Piece :=
  let kept := List.replicate (backslashes / 2) '\\'
  (if kept.isEmpty then [] else [.text kept]) ++
    (if backslashes % 2 = 1 then [.text ('[' :: inside ++ [']'])] else [.tag (.ofInside inside)])

/-- The pieces of a text behind some text already read, of which the last character comes first;
`fuel` bounds the number of characters. -/
def readPieces : Nat → List Char → List Char → List Piece
  | 0, read, rest => [.text (read.reverse ++ rest)]
  | fuel + 1, read, rest =>
    let before : List Piece := if read.isEmpty then [] else [.text read.reverse]
    match rest with
    | [] => before
    | c :: after =>
      let backslashes := (rest.takeWhile (· = '\\')).length
      match tagAt? (rest.drop backslashes) with
      | some (inside, behind) => before ++ escaped backslashes inside ++ readPieces fuel [] behind
      | none =>
        if backslashes = 0 then readPieces fuel (c :: read) after
        else
          readPieces fuel (List.replicate backslashes '\\' ++ read) (rest.drop backslashes)

def pieces (text : List Char) : List Piece := readPieces text.length [] text

def unescaped : List Char → List Char
  | [] => []
  | '\\' :: '[' :: rest => '[' :: unescaped rest
  | c :: rest => c :: unescaped rest

structure Open where
  place : Nat
  name : String
  parameter : Option String

def Open.definition (tag : Open) : String :=
  match tag.parameter with
  | none => tag.name
  | some parameter => tag.name ++ " " ++ parameter

/-- A style by its definition; what defines none is plain. -/
def styleOf (definition : String) : Except Fault Style :=
  match Style.ofName definition with
  | .ok style => .ok style
  | .error .unknown => .ok .plain
  | .error .incomplete => .error .brokenColor

def normalName (name : String) : Except Fault String :=
  (Style.normalName name).mapError fun _ => .brokenColor

def Open.span (stop : Nat) (tag : Open) : Except Fault Span :=
  (styleOf tag.definition).map fun style => ⟨tag.place, stop, style⟩

structure Progress where
  chars : List Char := []
  opened : List Open := []
  spans : List Span := []

def Progress.close (progress : Progress) (test : Open → Bool) : Except Fault Progress :=
  match progress.opened.span (! test ·) with
  | (_, []) => .error .closesNothing
  | (inner, tag :: outer) => do
    let span ← tag.span progress.chars.length
    pure { progress with opened := inner ++ outer, spans := span :: progress.spans }

def Progress.apply (progress : Progress) : Piece → Except Fault Progress
  | .text chars =>
    .ok { progress with chars := progress.chars ++ shown (withEmoji (unescaped chars)) }
  | .tag ⟨name, parameter⟩ =>
    match name.toList with
    | '/' :: name =>
      let name := Text.strip (String.ofList name)
      if name = "" then progress.close fun _ => true
      else do
        let name ← normalName name
        progress.close (·.name == name)
    | _ => do
      let name ← normalName name
      pure { progress with opened := ⟨progress.chars.length, name, parameter⟩ :: progress.opened }

/-- A text with its tags turned into styles. What is still open at the end is closed there. -/
def read (text : String) : Except Fault Styled := do
  if '[' ∈ text.toList then
    let progress ← (pieces text.toList).foldlM Progress.apply {}
    let spans ← progress.opened.mapM (Open.span progress.chars.length)
    let spans := spans.reverse ++ progress.spans
    pure { chars := progress.chars, spans := spans.mergeSort fun a b => a.start ≤ b.start }
  else pure (.ofText (withEmoji text.toList))

end SignOn.Terminal.Markup
