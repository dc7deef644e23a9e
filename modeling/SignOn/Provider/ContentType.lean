import SignOn.Charset
import SignOn.Provider.Reply

/-!
The content type of a response: its parameters, among them the name of the character set, and the
text of a body in that set.
-/

namespace SignOn.ContentType

def countPair (a b : Char) : List Char → Nat
  | [] => 0
  | [_] => 0
  | c :: d :: rest => (if c = a ∧ d = b then 1 else 0) + countPair a b (d :: rest)

def isOpen (part : List Char) : Bool := (part.count '"' - countPair '\\' '"' part) % 2 = 1

def joinParts : List Char → List (List Char) → List (List Char)
  | part, [] => [part]
  | part, next :: rest =>
    if isOpen part then joinParts (part ++ ';' :: next) rest else part :: joinParts next rest

def parts (text : List Char) : List (List Char) :=
  match text.splitOn ';' with
  | [] => []
  | first :: rest => joinParts first rest

def lower (cs : List Char) : List Char := (Text.lower (String.ofList cs)).toList

/-- A name and a value; without an equals sign it is a name as it stands. -/
def readPart (part : List Char) : List Char × List Char :=
  match Text.cut '=' part with
  | (name, some value) => (lower (Text.trim name), Text.trim value)
  | (name, none) => (Text.trim name, [])

def unquote (cs : List Char) : List Char :=
  let inner := cs.tail.dropLast
  if cs.length < 2 then cs
  else if cs.head? = some '"' ∧ cs.getLast? = some '"' then
    let once := ['\\'].intercalate (Text.pieces ['\\', '\\'] 0 inner)
    ['"'].intercalate (Text.pieces ['\\', '"'] 0 once)
  else if cs.head? = some '<' ∧ cs.getLast? = some '>' then inner
  else cs

structure Piece where
  name : List Char
  number : Option Nat
  value : List Char
  isEncoded : Bool

def piece? (name value : List Char) : Option Piece :=
  let isNameChar (c : Char) : Bool := c.isAlphanum || c = '_'
  let stem := name.takeWhile isNameChar
  match name.dropWhile isNameChar with
  | '*' :: rest =>
    let digits := rest.takeWhile Char.isDigit
    let number := Text.digitsNumber? digits
    let star := rest.dropWhile Char.isDigit
    if stem.isEmpty then none
    else if star.isEmpty then some ⟨stem, number, value, digits.isEmpty⟩
    else if star = ['*'] ∧ ! digits.isEmpty then some ⟨stem, number, value, true⟩
    else none
  | _ => none

def Piece.precedes (a b : Piece) : Bool :=
  if a.number ≠ b.number then a.number.getD 0 < b.number.getD 0
  else if a.value ≠ b.value then a.value < b.value
  else ! a.isEncoded || b.isEncoded

def areOrdered (pieces : List Piece) : Bool :=
  pieces.all fun a => pieces.all fun b => a.name ≠ b.name || a.number.isSome = b.number.isSome

/-- The value of a piece; a byte is the character with its number as code. -/
def Piece.chars (piece : Piece) : List Char :=
  if piece.isEncoded then (Percent.bytes piece.value).map fun byte => Char.ofNat byte.toNat
  else piece.value

def readExtended (cs : List Char) : Except Charset.Fault (List Char) :=
  let (set, text) := match Text.cut '\'' cs with
    | (_, none) => ([], cs)
    | (set, some rest) =>
      match Text.cut '\'' rest with
      | (_, none) => ([], cs)
      | (_, some text) => (set, text)
  let name := if set.isEmpty then "us-ascii" else String.ofList set
  if name.contains '\x00' then .error .brokenName
  else
    let read := (Charset.find? name).bind fun charset =>
      charset.readStrictly? (text.map fun c => UInt8.ofNat c.toNat)
    .ok (read.getD text)

def joinPieces (pieces : List Piece) : Except Charset.Fault (List Char) :=
  let text := (pieces.mergeSort Piece.precedes).flatMap Piece.chars
  if pieces.any Piece.isEncoded then readExtended text else .ok text

def parameter? (name : List Char) (contentType : String) :
    Except Charset.Fault (Option (List Char)) :=
  let isNamed (found : List Char) : Bool := lower found = name
  match (parts contentType.toList).map readPart with
  | [] => .ok none
  | first :: rest =>
    let rest := rest.map fun (name, value) => (name, unquote value)
    let pieces := rest.filterMap fun (name, value) => piece? name value
    let whole := rest.filter fun (name, value) => (piece? name value).isNone
    if ! areOrdered pieces then .error .unordered
    else if isNamed first.1 then .ok (some (unquote first.2))
    else
      match whole.find? fun (name, _) => isNamed name with
      | some (_, value) => .ok (some value)
      | none =>
        match pieces.find? fun piece => isNamed piece.name with
        | none => .ok none
        | some found => (joinPieces (pieces.filter (·.name = found.name))).map some

def charset? (contentType : String) : Except Charset.Fault (Option Charset) := do
  match ← parameter? "charset".toList contentType with
  | none => pure none
  | some name =>
    if ! name.all (·.toNat < 0x80) then pure none
    else if name.contains '\x00' then throw .brokenName
    else pure (Charset.find? (String.ofList name))

def bodyText (headers : Reply.Headers) (body : List UInt8) : Except Charset.Fault String := do
  if body.isEmpty then pure ""
  else
    let named ← match Reply.header? headers "content-type" with
      | none => pure none
      | some contentType => charset? contentType
    (named.getD (.plain (Utf8.scan none))).decode body

end SignOn.ContentType
