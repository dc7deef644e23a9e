import SignOn.Bytes.Utf16
import SignOn.Entries
import SignOn.Text.Percent
import SignOn.Value

/-!
Reading JSON text. Besides the standard grammar the reader knows three numbers by name, `NaN`,
`Infinity` and `-Infinity`; of entries with one key the last one counts. A text that is no JSON is
refused with the reason and the place, which is kept as the number of characters from the fault to
the end.

A text holds whole characters here. An escape of a surrogate without its counterpart is therefore
refused at the string that it is in, where another reader might hand on half a character.
-/

namespace SignOn.Json

inductive Reason where
  | value
  | entryKey
  | colon
  | comma
  | unterminated
  | controlCharacter
  | escape
  | unicodeEscape
  | extraData
  | byteOrderMark
  | tooLong (digits : Nat)
  /-- Lists and tables stand in one another more often than the reader follows. -/
  | tooDeep
  /-- Half a character. -/
  | loneSurrogate
deriving DecidableEq

structure Fault where
  reason : Reason
  remaining : Nat
deriving DecidableEq

def mostDigits : Nat := 4300

def mostLevels : Nat := 970

def Reason.message : Reason → String
  | .value => "Expecting value"
  | .entryKey => "Expecting property name enclosed in double quotes"
  | .colon => "Expecting ':' delimiter"
  | .comma => "Expecting ',' delimiter"
  | .unterminated => "Unterminated string starting at"
  | .controlCharacter => "Invalid control character at"
  | .escape => "Invalid \\escape"
  | .unicodeEscape => "Invalid \\uXXXX escape"
  | .extraData => "Extra data"
  | .byteOrderMark => "Unexpected UTF-8 BOM (decode using utf-8-sig)"
  | .tooLong digits =>
    "Exceeds the limit (" ++ Nat.repr mostDigits ++
      " digits) for integer string conversion: value has " ++ Nat.repr digits ++
      " digits; use sys.set_int_max_str_digits() to increase the limit"
  | .tooDeep => "maximum recursion depth exceeded"
  | .loneSurrogate => "surrogates not allowed"

def Fault.message (text : List Char) (fault : Fault) : String :=
  match fault.reason with
  | .tooLong _ => fault.reason.message
  | reason =>
    let before := text.take (text.length - fault.remaining)
    let line := before.count '\n' + 1
    let column := (before.reverse.takeWhile (· != '\n')).length + 1
    reason.message ++ ": line " ++ Nat.repr line ++ " column " ++ Nat.repr column ++
      " (char " ++ Nat.repr before.length ++ ")"

def refuse {α : Type} (reason : Reason) (rest : List Char) : Except Fault (α × List Char) :=
  .error ⟨reason, rest.length⟩

def isGap (c : Char) : Bool := c == ' ' || c == '\t' || c == '\n' || c == '\r'

def skipGap (cs : List Char) : List Char := cs.dropWhile isGap

def simpleEscape? : Char → Option Char
  | '"' => some '"'
  | '\\' => some '\\'
  | '/' => some '/'
  | 'b' => some '\x08'
  | 'f' => some '\x0c'
  | 'n' => some '\n'
  | 'r' => some '\r'
  | 't' => some '\t'
  | _ => none

def hexNumber? (digits : List Char) : Option Nat :=
  (digits.mapM Percent.hexValue?).map (·.foldl (fun n digit => 16 * n + digit) 0)

/-- The code units up to the closing quote. A string that does not end is reported where it was
opened, an escape that is none where it begins. -/
def stringUnits (opened : Nat) : List Char → Except Fault (List Nat × List Char)
  | [] => .error ⟨.unterminated, opened⟩
  | '"' :: rest => .ok ([], rest)
  | ['\\'] => .error ⟨.unterminated, opened⟩
  | '\\' :: 'u' :: a :: b :: c :: d :: after :: rest =>
    match hexNumber? [a, b, c, d] with
    | some unit => do
      let (units, left) ← stringUnits opened (after :: rest)
      .ok (unit :: units, left)
    | none => .error ⟨.unicodeEscape, rest.length + 6⟩
  | '\\' :: 'u' :: rest => .error ⟨.unicodeEscape, rest.length + 1⟩
  | '\\' :: e :: rest =>
    match simpleEscape? e with
    | some c => do
      let (units, left) ← stringUnits opened rest
      .ok (c.toNat :: units, left)
    | none => .error ⟨.escape, rest.length + 2⟩
  | c :: rest =>
    if c.toNat < 0x20 then .error ⟨.controlCharacter, rest.length + 1⟩
    else do
      let (units, left) ← stringUnits opened rest
      .ok (Utf16.unitsOfChar c ++ units, left)

def string (cs : List Char) : Except Fault (String × List Char) := do
  let (units, rest) ← stringUnits (cs.length + 1) cs
  match Utf16.characters units with
  | some characters => .ok (String.ofList characters, rest)
  | none => .error ⟨.loneSurrogate, cs.length + 1⟩

def digitsValue (digits : List Char) : Nat :=
  digits.foldl (fun n c => 10 * n + (c.toNat - 0x30)) 0

def sign (cs : List Char) : Bool × List Char :=
  match cs with
  | '-' :: rest => (true, rest)
  | rest => (false, rest)

/-- The digits in front of a point. A zero is the only one. -/
def wholeDigits (cs : List Char) : List Char :=
  match cs with
  | '0' :: _ => ['0']
  | rest => rest.takeWhile Char.isDigit

def fraction (cs : List Char) : List Char × List Char :=
  match cs with
  | '.' :: rest =>
    let digits := rest.takeWhile Char.isDigit
    if digits.isEmpty then ([], cs) else (digits, rest.dropWhile Char.isDigit)
  | _ => ([], cs)

def power? (cs : List Char) : Option (Int × List Char) :=
  match cs with
  | e :: rest =>
    if e = 'e' || e = 'E' then
      let (negative, digits) := match rest with
        | '-' :: more => (true, more)
        | '+' :: more => (false, more)
        | more => (false, more)
      let exponent := digits.takeWhile Char.isDigit
      if exponent.isEmpty then none
      else
        let n : Int := digitsValue exponent
        some (if negative then -n else n, digits.dropWhile Char.isDigit)
    else none
  | [] => none

def number (cs : List Char) : Except Fault (Value × List Char) :=
  let (negative, body) := sign cs
  let whole := wholeDigits body
  if whole.isEmpty then refuse .value cs
  else
    let (decimals, afterPoint) := fraction (body.drop whole.length)
    match decimals, power? afterPoint with
    | [], none =>
      if mostDigits < whole.length then refuse (.tooLong whole.length) cs
      else
        let n : Int := digitsValue whole
        .ok (.int (if negative then -n else n), afterPoint)
    | decimals, scaled =>
      let (exponent, rest) := scaled.getD (0, afterPoint)
      .ok (.float (Binary64.ofDecimal negative (digitsValue (whole ++ decimals))
        (exponent - decimals.length)), rest)

def constants : List (List Char × Value) :=
  [("null".toList, .null), ("true".toList, .bool true), ("false".toList, .bool false),
    ("NaN".toList, .float .nan), ("Infinity".toList, .float (.infinity false)),
    ("-Infinity".toList, .float (.infinity true))]

def scalar (cs : List Char) : Except Fault (Value × List Char) :=
  match constants.find? fun (name, _) => name.isPrefixOf cs with
  | some (name, value) => .ok (value, cs.drop name.length)
  | none => number cs

mutual

/-- One value. The fuel bounds the steps; twice the length of the text is always enough. Within
the value as many levels of lists and tables are followed as the second argument tells. -/
def value : Nat → Nat → List Char → Except Fault (Value × List Char)
  | 0, _, cs => refuse .value cs
  | fuel + 1, levels, cs =>
    match cs with
    | '"' :: rest => do
      let (s, left) ← string rest
      .ok (.text s, left)
    | '[' :: rest =>
      match levels, skipGap rest with
      | 0, _ => refuse .tooDeep cs
      | _, ']' :: left => .ok (.list [], left)
      | levels + 1, inside => do
        let (read, left) ← items fuel levels inside
        .ok (.list read, left)
    | '{' :: rest =>
      match levels, skipGap rest with
      | 0, _ => refuse .tooDeep cs
      | _, '}' :: left => .ok (.table [], left)
      | levels + 1, inside => do
        let (read, left) ← members fuel levels inside
        .ok (.table (Entries.ofList read), left)
    | cs => scalar cs

def items : Nat → Nat → List Char → Except Fault (List Value × List Char)
  | 0, _, cs => refuse .value cs
  | fuel + 1, levels, cs => do
    let (first, rest) ← value fuel levels cs
    match skipGap rest with
    | ']' :: left => .ok ([first], left)
    | ',' :: more => do
      let (others, left) ← items fuel levels (skipGap more)
      .ok (first :: others, left)
    | other => refuse .comma other

def members : Nat → Nat → List Char → Except Fault (List (String × Value) × List Char)
  | 0, _, cs => refuse .entryKey cs
  | fuel + 1, levels, cs =>
    match cs with
    | '"' :: named => do
      let (key, rest) ← string named
      match skipGap rest with
      | ':' :: valued => do
        let (first, rest) ← value fuel levels (skipGap valued)
        match skipGap rest with
        | '}' :: left => .ok ([(key, first)], left)
        | ',' :: more => do
          let (others, left) ← members fuel levels (skipGap more)
          .ok ((key, first) :: others, left)
        | other => refuse .comma other
      | other => refuse .colon other
    | other => refuse .entryKey other

end

/-- The value that a whole text stands for. -/
def read (text : List Char) : Except Fault Value :=
  match text with
  | '\uFEFF' :: _ => .error ⟨.byteOrderMark, text.length⟩
  | _ => do
    let (read, rest) ← value (2 * text.length + 2) mostLevels (skipGap text)
    match skipGap rest with
    | [] => .ok read
    | extra => .error ⟨.extraData, extra.length⟩

end SignOn.Json
