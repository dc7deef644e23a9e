import SignOn.Terminal.Color
import SignOn.Text.LetterCase

/-!
Styles of text on a terminal: traits that are on, off or left as they are, and the colours of
the text and of its background. A style can be laid over another one, and is defined in words.
-/

namespace SignOn.Terminal

inductive Trait where
  | bold
  | dim
  | italic
  | underline
  | blink
  | fastBlink
  | reverse
  | conceal
  | strike
  | doubleUnderline
  | frame
  | encircle
  | overline
deriving DecidableEq

namespace Trait

def all : List Trait :=
  [bold, dim, italic, underline, blink, fastBlink, reverse, conceal, strike, doubleUnderline, frame,
    encircle, overline]

def word : Trait → String
  | bold => "bold"
  | dim => "dim"
  | italic => "italic"
  | underline => "underline"
  | blink => "blink"
  | fastBlink => "blink2"
  | reverse => "reverse"
  | conceal => "conceal"
  | strike => "strike"
  | doubleUnderline => "underline2"
  | frame => "frame"
  | encircle => "encircle"
  | overline => "overline"

def selector : Trait → Nat
  | bold => 1
  | dim => 2
  | italic => 3
  | underline => 4
  | blink => 5
  | fastBlink => 6
  | reverse => 7
  | conceal => 8
  | strike => 9
  | doubleUnderline => 21
  | frame => 51
  | encircle => 52
  | overline => 53

def abbreviations : List (String × Trait) :=
  [("d", dim), ("b", bold), ("i", italic), ("u", underline), ("r", reverse), ("c", conceal),
    ("s", strike), ("uu", doubleUnderline), ("o", overline)]

def ofWord? (text : String) : Option Trait :=
  match all.find? (·.word == text) with
  | some trait => some trait
  | none => abbreviations.lookup text

end Trait

structure Style where
  traits : List (Trait × Bool) := []
  color : Option Color := none
  background : Option Color := none
  link : Option String := none

namespace Style

def plain : Style := {}

def setting? (style : Style) (trait : Trait) : Option Bool :=
  style.traits.lookup trait

def set (style : Style) (trait : Trait) (on : Bool) : Style :=
  { style with
    traits := (trait, on) :: style.traits.filter (·.1 != trait) }

def under (lower upper : Style) : Style :=
  { traits := upper.traits ++
      lower.traits.filter fun (trait, _) => (upper.setting? trait).isNone
    color := upper.color <|> lower.color
    background := upper.background <|> lower.background
    link := upper.link <|> lower.link }

def colorless (style : Style) : Style := { style with color := none, background := none }

/-- The words that define a style; none define the plain one. -/
def ofWords : Style → List String → Except Color.Fault Style
  | style, [] => .ok style
  | style, word :: rest =>
    match Text.lower word, rest with
    | "on", [] => .error .unknown
    | "on", name :: rest => do
      let color ← Color.ofWord (Text.lower name)
      ofWords { style with background := some color } rest
    | "not", [] => .error .unknown
    | "not", name :: rest =>
      match Trait.ofWord? name with
      | some trait => ofWords (style.set trait false) rest
      | none => .error .unknown
    | "link", [] => .error .unknown
    | "link", address :: rest => ofWords { style with link := some address } rest
    | word, rest =>
      match Trait.ofWord? word with
      | some trait => ofWords (style.set trait true) rest
      | none => do
        let color ← Color.ofWord word
        ofWords { style with color := some color } rest

def ofDefinition (definition : String) : Except Color.Fault Style :=
  if Text.strip definition = "none" then .ok plain
  else ofWords plain (Text.words definition)

def definition (style : Style) : String :=
  let traits := Trait.all.filterMap fun trait =>
    (style.setting? trait).map fun on => (if on then "" else "not ") ++ trait.word
  let color := style.color.toList.map Color.name
  let background := style.background.toList.map fun color => "on " ++ color.name
  let link := style.link.toList.map ("link " ++ ·)
  match traits ++ color ++ background ++ link with
  | [] => "none"
  | words => " ".intercalate words

def named : List (String × String) :=
  [("none", "none"),
    ("reset", "not bold not dim not italic not underline not blink not blink2 not reverse " ++
      "not conceal not strike default on default"),
    ("dim", "dim"), ("bright", "not dim"), ("bold", "bold"), ("strong", "bold"),
    ("code", "bold reverse"), ("italic", "italic"), ("emphasize", "italic"),
    ("underline", "underline"), ("blink", "blink"), ("blink2", "blink2"), ("reverse", "reverse"),
    ("strike", "strike"), ("black", "black"), ("red", "red"), ("green", "green"),
    ("yellow", "yellow"), ("magenta", "magenta"), ("cyan", "cyan"), ("white", "white"),
    ("inspect.attr", "italic yellow"), ("inspect.attr.dunder", "dim italic yellow"),
    ("inspect.callable", "bold red"), ("inspect.async_def", "italic bright_cyan"),
    ("inspect.def", "italic bright_cyan"), ("inspect.class", "italic bright_cyan"),
    ("inspect.error", "bold red"), ("inspect.equals", "none"), ("inspect.help", "cyan"),
    ("inspect.doc", "dim"), ("inspect.value.border", "green"), ("live.ellipsis", "bold red"),
    ("layout.tree.row", "not dim red"), ("layout.tree.column", "not dim blue"),
    ("logging.keyword", "bold yellow"), ("logging.level.notset", "dim"),
    ("logging.level.debug", "green"), ("logging.level.info", "blue"),
    ("logging.level.warning", "red"), ("logging.level.error", "bold red"),
    ("logging.level.critical", "bold reverse red"), ("log.level", "none"),
    ("log.time", "dim cyan"), ("log.message", "none"), ("log.path", "dim"),
    ("repr.ellipsis", "yellow"), ("repr.indent", "dim green"), ("repr.error", "bold red"),
    ("repr.str", "not bold not italic green"), ("repr.brace", "bold"), ("repr.comma", "bold"),
    ("repr.ipv4", "bold bright_green"), ("repr.ipv6", "bold bright_green"),
    ("repr.eui48", "bold bright_green"), ("repr.eui64", "bold bright_green"),
    ("repr.tag_start", "bold"), ("repr.tag_name", "bold bright_magenta"),
    ("repr.tag_contents", "default"), ("repr.tag_end", "bold"),
    ("repr.attrib_name", "not italic yellow"), ("repr.attrib_equal", "bold"),
    ("repr.attrib_value", "not italic magenta"), ("repr.number", "bold not italic cyan"),
    ("repr.number_complex", "bold not italic cyan"), ("repr.bool_true", "italic bright_green"),
    ("repr.bool_false", "italic bright_red"), ("repr.none", "italic magenta"),
    ("repr.url", "not bold not italic underline bright_blue"),
    ("repr.uuid", "not bold bright_yellow"), ("repr.call", "bold magenta"),
    ("repr.path", "magenta"), ("repr.filename", "bright_magenta"), ("rule.line", "bright_green"),
    ("rule.text", "none"), ("json.brace", "bold"), ("json.bool_true", "italic bright_green"),
    ("json.bool_false", "italic bright_red"), ("json.null", "italic magenta"),
    ("json.number", "bold not italic cyan"), ("json.str", "not bold not italic green"),
    ("json.key", "bold blue"), ("prompt", "none"), ("prompt.choices", "bold magenta"),
    ("prompt.default", "bold cyan"), ("prompt.invalid", "red"), ("prompt.invalid.choice", "red"),
    ("pretty", "none"), ("scope.border", "blue"), ("scope.key", "italic yellow"),
    ("scope.key.special", "dim italic yellow"), ("scope.equals", "red"), ("table.header", "bold"),
    ("table.footer", "bold"), ("table.cell", "none"), ("table.title", "italic"),
    ("table.caption", "dim italic"), ("traceback.error", "italic red"),
    ("traceback.border.syntax_error", "bright_red"), ("traceback.border", "red"),
    ("traceback.text", "none"), ("traceback.title", "bold red"),
    ("traceback.exc_type", "bold bright_red"), ("traceback.exc_value", "none"),
    ("traceback.offset", "bold bright_red"), ("bar.back", "grey23"),
    ("bar.complete", "rgb(249,38,114)"), ("bar.finished", "rgb(114,156,31)"),
    ("bar.pulse", "rgb(249,38,114)"), ("progress.description", "none"),
    ("progress.filesize", "green"), ("progress.filesize.total", "green"),
    ("progress.download", "green"), ("progress.elapsed", "yellow"),
    ("progress.percentage", "magenta"), ("progress.remaining", "cyan"),
    ("progress.data.speed", "red"), ("progress.spinner", "green"), ("status.spinner", "green"),
    ("tree", "none"), ("tree.line", "none"), ("markdown.paragraph", "none"),
    ("markdown.text", "none"), ("markdown.em", "italic"), ("markdown.emph", "italic"),
    ("markdown.strong", "bold"), ("markdown.code", "bold cyan on black"),
    ("markdown.code_block", "cyan on black"), ("markdown.block_quote", "magenta"),
    ("markdown.list", "cyan"), ("markdown.item", "none"), ("markdown.item.bullet", "bold yellow"),
    ("markdown.item.number", "bold yellow"), ("markdown.hr", "yellow"),
    ("markdown.h1.border", "none"), ("markdown.h1", "bold"), ("markdown.h2", "bold underline"),
    ("markdown.h3", "bold"), ("markdown.h4", "bold dim"), ("markdown.h5", "underline"),
    ("markdown.h6", "italic"), ("markdown.h7", "dim italic"), ("markdown.link", "bright_blue"),
    ("markdown.link_url", "underline blue"), ("markdown.s", "strike"), ("iso8601.date", "blue"),
    ("iso8601.time", "magenta"), ("iso8601.timezone", "yellow")]

def ofName (name : String) : Except Color.Fault Style :=
  ofDefinition ((named.lookup name).getD name)

def normalName (name : String) : Except Color.Fault String :=
  match ofDefinition name with
  | .ok style => .ok style.definition
  | .error .unknown => .ok (Text.lower (Text.strip name))
  | .error .incomplete => .error .incomplete

def selectors (palette : Palette) (style : Style) : List Nat :=
  let traits := Trait.all.filter fun trait => style.setting? trait == some true
  let ofColor (background : Bool) (color : Option Color) : List Nat :=
    color.toList.flatMap fun color => Color.selectors background (Color.reduce palette color.shade)
  traits.map Trait.selector ++ ofColor false style.color ++ ofColor true style.background

def dress (palette : Palette) (style : Style) (text : List Char) : List Char :=
  let selectors := style.selectors palette
  if text.isEmpty || selectors.isEmpty then text
  else
    ("\x1b[" ++ ";".intercalate (selectors.map Nat.repr) ++ "m").toList ++ text ++
      "\x1b[0m".toList

end Style

end SignOn.Terminal
