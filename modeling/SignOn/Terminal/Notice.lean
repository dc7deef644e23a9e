import SignOn.Terminal.Emoji
import SignOn.Terminal.Styled

/-!
Plain text on a terminal: names of emoji give way to the emoji, and lines that are too wide are
broken. On a terminal without width nothing is shown.
-/

namespace SignOn.Terminal

def noticeLines (width : Nat) (text : String) : List (List Char) :=
  if width = 0 then []
  else
    ((Styled.ofText (withEmoji text.toList)).wrap width .natural .broken).map fun line =>
      Segment.write none false width line.segments

def notice (width : Nat) (text : String) : String :=
  String.ofList ((noticeLines width text).flatMap (· ++ ['\n']))

def lead (width : Nat) (text : String) : String :=
  String.ofList (['\n'].intercalate (noticeLines width text))

def frame (width : Nat) (title text : String) : String :=
  let room := width - 4
  let dashes (count : Nat) := List.replicate count '─'
  let heading := (' ' :: title.toList ++ [' ']).take room
  let top :=
    if room = 0 then '╭' :: dashes (width - 2) ++ ['╮']
    else '╭' :: '─' :: heading ++ dashes (room - heading.length) ++ ['─', '╮']
  let inside := if room = 0 then [] else (Styled.ofText text.toList).wrap room .natural .broken
  let lines :=
    [top] ++ (inside.map fun line => '│' :: ' ' :: fitTo room line.chars ++ [' ', '│']) ++
      ['╰' :: dashes (width - 2) ++ ['╯']]
  if width = 0 then ""
  else String.ofList (lines.flatMap fun line => line.take width ++ ['\n'])

end SignOn.Terminal
