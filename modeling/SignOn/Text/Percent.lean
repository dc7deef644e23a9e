import SignOn.Bytes.Utf8
import SignOn.Text.Split

/-!
Percent-encoding of URL components, and the form encoding of parameter lists. The encoder and the
decoder stand side by side: what a component or a form says is what its decoder reads from it.
-/

namespace SignOn.Percent

/-- Letters, digits and `_ . - ~`, which stand for themselves everywhere in a URL. -/
def isUnreserved (c : Char) : Bool :=
  c.isAlphanum || c == '_' || c == '.' || c == '-' || c == '~'

def hexDigit (n : Nat) : Char :=
  if n < 10 then Char.ofNat (0x30 + n) else Char.ofNat (0x37 + n)

def hexValue? (c : Char) : Option Nat :=
  let n := c.toNat
  if 0x30 ≤ n && n ≤ 0x39 then some (n - 0x30)
  else if 0x41 ≤ n && n ≤ 0x46 then some (n - 0x37)
  else if 0x61 ≤ n && n ≤ 0x66 then some (n - 0x57)
  else none

/-- The number in hexadecimal digits; other characters count as zeros. -/
def hexNumber (cs : List Char) : Nat :=
  cs.foldl (fun n c => 16 * n + (hexValue? c).getD 0) 0

def escapeByte (byte : UInt8) : List Char :=
  ['%', hexDigit (byte.toNat / 16), hexDigit (byte.toNat % 16)]

def escapeChar (c : Char) : List Char :=
  if isUnreserved c then [c] else (Utf8.encodeChar c).flatMap escapeByte

def escapeFormChar (c : Char) : List Char :=
  if c = ' ' then ['+'] else escapeChar c

def encodeChars (cs : List Char) : List Char := cs.flatMap escapeChar

def encodeFormChars (cs : List Char) : List Char := cs.flatMap escapeFormChar

/-- A component of a URL: only unreserved characters are left as they are. -/
def encode (text : String) : String := String.ofList (encodeChars text.toList)

/-- The bytes that a component of a URL stands for. A percent sign that no two hexadecimal digits
follow stands for itself. -/
def bytes : List Char → List UInt8
  | [] => []
  | '%' :: a :: b :: rest =>
    match hexValue? a, hexValue? b with
    | some high, some low => UInt8.ofNat (16 * high + low) :: bytes rest
    | _, _ => 0x25 :: bytes (a :: b :: rest)
  | c :: rest => Utf8.encodeChar c ++ bytes rest

/-- The bytes that a component of a form stands for. A percent sign that no two hexadecimal digits
follow stands for itself. -/
def formBytes : List Char → List UInt8
  | [] => []
  | '%' :: a :: b :: rest =>
    match hexValue? a, hexValue? b with
    | some high, some low => UInt8.ofNat (16 * high + low) :: formBytes rest
    | _, _ => 0x25 :: formBytes (a :: b :: rest)
  | c :: rest => (if c = '+' then [0x20] else Utf8.encodeChar c) ++ formBytes rest

def decodeFormChars (cs : List Char) : String := Utf8.decodeLossy (formBytes cs)

abbrev Fields := List (String × String)

def formField (field : String × String) : List Char :=
  encodeFormChars field.1.toList ++ '=' :: encodeFormChars field.2.toList

/-- The fields as a form body or a query: `name=value` joined by `&`. -/
def encodeForm (fields : Fields) : String :=
  String.ofList (['&'].intercalate (fields.map formField))

/-- One field of a form; without an equals sign it has an empty value. -/
def readField (part : List Char) : String × String :=
  let (name, value) := Text.cut '=' part
  (decodeFormChars name, decodeFormChars (value.getD []))

def decodeFormList (cs : List Char) : Fields :=
  ((cs.splitOn '&').filter (! ·.isEmpty)).map readField

/-- The fields of a form, empty parts skipped. -/
def decodeForm (text : String) : Fields := decodeFormList text.toList

end SignOn.Percent
