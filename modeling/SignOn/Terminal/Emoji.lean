import SignOn.Terminal.EmojiNames
import SignOn.Terminal.Width
import SignOn.Text.LetterCase
import SignOn.Text.Split

/-!
Emoji by name. A name between colons stands for an emoji; it may end in `-emoji` or `-text`, which
selects how the emoji is drawn. What is no name stays as it was written.
-/

namespace SignOn.Terminal

def pairUp : List String → List (String × String)
  | name :: emoji :: rest => (name, emoji) :: pairUp rest
  | _ => []

def emoji : List (String × String) := pairUp (Text.words emojiNames)

inductive Drawing where
  | unsaid
  | asEmoji
  | asText

def Drawing.selector : Drawing → String
  | .unsaid => ""
  | .asEmoji => "\uFE0F"
  | .asText => "\uFE0E"

def nameEnd? : List Char → Option (Drawing × List Char)
  | ':' :: rest => some (.unsaid, rest)
  | '-' :: 'e' :: 'm' :: 'o' :: 'j' :: 'i' :: ':' :: rest => some (.asEmoji, rest)
  | '-' :: 't' :: 'e' :: 'x' :: 't' :: ':' :: rest => some (.asText, rest)
  | _ => none

/-- A name up to its end, how to draw it, and the rest; no blank may come before the end. -/
def readName : List Char → Option (List Char × Drawing × List Char)
  | [] => none
  | c :: rest =>
    match nameEnd? (c :: rest) with
    | some (drawing, rest) => some ([], drawing, rest)
    | none =>
      if Text.isSpace c then none
      else (readName rest).map fun (name, found) => (c :: name, found)

/-- A text with emoji in place of their names; `fuel` bounds the number of characters read. -/
def putEmoji : Nat → List Char → List Char
  | 0, text => text
  | _, [] => []
  | fuel + 1, c :: rest =>
    match if c = ':' then readName rest else none with
    | some (name, drawing, after) =>
      let known := emoji.lookup (Text.lower (String.ofList name))
      match known with
      | some emoji => (emoji ++ drawing.selector).toList ++ putEmoji fuel after
      | none => c :: (rest.take (rest.length - after.length) ++ putEmoji fuel after)
    | none => c :: putEmoji fuel rest

def withEmoji (text : List Char) : List Char := putEmoji text.length text

end SignOn.Terminal
