import SignOn.Screen
import SignOn.Terminal.Markup

/-!
A table drawn with lines. The header stands in a heavy box over the rows in a light one, every cell
with a blank on either side. Columns are as wide as their widest lines; where the terminal is too
narrow for that, the widest columns give way first. The title stands over the middle.
-/

namespace SignOn.Terminal

structure Measure where
  least : Nat
  most : Nat

namespace Measure

def upTo (width : Nat) (measure : Measure) : Measure :=
  ⟨min measure.least width, min measure.most width⟩

def ofText (text : Styled) : Measure :=
  let widest (parts : List (List Char)) := (parts.map cellWidth).foldl max 0
  let most := widest (text.chars.splitOnP Text.endsLine)
  let words := Text.wordLists text.chars
  let least := if words.isEmpty then most else widest words
  ⟨min least most, most⟩

end Measure

end Terminal

namespace Table

open Terminal

def padding : Nat := 2

def columnCount (table : Table) : Nat :=
  (table.rows.map List.length).foldl max table.headers.length

def filled (table : Table) (cells : List String) : List String :=
  (List.range table.columnCount).map fun i => (cells[i]?).getD ""

def allRows (table : Table) : List (List String) :=
  (table.headers :: table.rows).map table.filled

def columns (table : Table) : List (List String) :=
  (List.range table.columnCount).map fun i => table.allRows.map fun row => (row[i]?).getD ""

def measureCell (room : Nat) (cell : String) : Except Markup.Fault Measure :=
  if room ≤ padding then .ok ⟨room, room⟩
  else
    (Markup.read cell).map fun text =>
      let needed := (Measure.ofText text).upTo room
      if needed.most = 0 then Measure.upTo room ⟨padding, padding⟩
      else Measure.upTo room ⟨needed.least + padding, needed.most + padding⟩

def measureColumn (room : Nat) (cells : List String) : Except Markup.Fault Nat :=
  if room = 0 then .ok 0
  else do
    let measures ← cells.mapM (measureCell room)
    pure (min room ((measures.map Measure.most).foldl max 0))

def takeEvenly (limit : Nat → Nat) : Nat → Nat → List (Nat × Bool) → List Nat
  | _, _, [] => []
  | excess, sharers, (width, shares) :: rest =>
    if shares ∧ 0 < sharers then
      let share := min (limit width) (Color.roundHalfEven excess sharers)
      (width - share) :: takeEvenly limit (excess - share) (sharers - 1) rest
    else width :: takeEvenly limit excess sharers rest

def total (widths : List Nat) : Nat := widths.foldl (· + ·) 0

/-- Makes the widest columns narrower, down to the next widest, until all fit into a room or all
are equal; `fuel` bounds the rounds. -/
def narrow (room : Nat) : Nat → List Nat → List Nat
  | 0, widths => widths
  | fuel + 1, widths =>
    let excess := total widths - room
    let widest := widths.foldl max 0
    let next := (widths.filter (· ≠ widest)).foldl max 0
    if excess = 0 ∨ widest = next then widths
    else
      let sharers := (widths.filter (· = widest)).length
      narrow room fuel
        (takeEvenly (fun _ => min excess (widest - next)) excess sharers
          (widths.map fun width => (width, width = widest)))

def squeeze (room : Nat) (widths : List Nat) : List Nat :=
  let excess := total widths - room
  if excess = 0 then widths
  else takeEvenly id excess (widths.filter (· ≠ 0)).length
    (widths.map fun width => (width, width ≠ 0))

def widths (room : Nat) (table : Table) : Except Markup.Fault (List Nat) := do
  let wanted ← table.columns.mapM (measureColumn room)
  let wanted := wanted.map (max 1)
  if total wanted ≤ room then pure wanted
  else
    let given := squeeze room (narrow room (total wanted) wanted)
    (given.zip table.columns).mapM fun (width, cells) => measureColumn width cells

/-- The lines of a cell in a column. A column too narrow for its blanks shows nothing. -/
def cellLines (style : Style) (width : Nat) (cell : String) :
    Except Markup.Fault (List (List Segment)) :=
  if width ≤ padding then .ok []
  else
    (Markup.read cell).map fun text =>
      (text.wrap (width - padding) .left .cutOff).map fun line =>
        let inside := Segment.fit (width - padding) .plain line.segments
        let whole := ⟨[' '], .plain⟩ :: inside ++ [⟨[' '], .plain⟩]
        Segment.fit width style (whole.map fun segment =>
          { segment with style := style.under segment.style })

def level (header : Bool) (style : Style) (height width : Nat) (lines : List (List Segment)) :
    List (List Segment) :=
  let missing := List.replicate (height - lines.length) [⟨blanks width, style⟩]
  if header then missing ++ lines else lines ++ missing

/-- The lines of a row between bars; a row of nothing but empty columns has one blank line. -/
def rowLines (header : Bool) (style : Style) (bar : Char) (widths : List Nat)
    (cells : List String) : Except Markup.Fault (List (List Segment)) := do
  let texts ← (widths.zip cells).mapM fun (width, cell) => cellLines style width cell
  let height := (texts.map List.length).foldl max 0
  let levelled := List.zipWith (level header style height) widths texts
  let bar : Segment := ⟨[bar], .plain⟩
  let line (parts : List (List Segment)) := bar :: parts.flatMap (· ++ [bar])
  if height = 0 then pure [line (widths.map fun width => [⟨blanks width, .plain⟩])]
  else pure ((List.range height).map fun i => line (levelled.map fun cell => (cell[i]?).getD []))

def rule (left dash joint right : Char) (widths : List Nat) : List Segment :=
  [⟨left :: [joint].intercalate (widths.map fun width => List.replicate width dash) ++ [right],
    .plain⟩]

def headerStyle : Style := Style.plain.set .bold true

def titleStyle : Style := Style.plain.set .italic true

def titleLines (width : Nat) : Option String → Except Markup.Fault (List (List Segment))
  | none => .ok []
  | some title =>
    if title = "" then .ok []
    else
      (Markup.read title).map fun text =>
        ({ text with base := some titleStyle }.wrap width .centre .broken).map Styled.segments

def lines (width : Nat) (table : Table) : Except Markup.Fault (List (List Segment)) := do
  let count := table.columnCount
  if count = 0 then pure [[]]
  else
    let widths ← table.widths (width - (count + 1))
    let title ← titleLines (total widths + count + 1) table.title
    match table.allRows with
    | [] => pure []
    | header :: rows =>
      let head ← rowLines true headerStyle '┃' widths header
      let body ← rows.mapM (rowLines false .plain '│' widths)
      pure (title ++ [rule '┏' '━' '┳' '┓' widths] ++ head ++ [rule '┡' '━' '╇' '┩' widths] ++
        body.flatten ++ [rule '└' '─' '┴' '┘' widths])

end Table

end SignOn
