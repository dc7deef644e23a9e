/-!
UTF-8. A character becomes one to four bytes; reading goes byte by byte and marks each stretch of
bytes that begins no character, so that a strict reader can refuse and a lenient one can put the
replacement character in its place.
-/

namespace SignOn.Utf8

def encodeChar (c : Char) : List UInt8 :=
  let code := c.toNat
  if code < 0x80 then [UInt8.ofNat code]
  else if code < 0x800 then
    [UInt8.ofNat (0xC0 + code / 64), UInt8.ofNat (0x80 + code % 64)]
  else if code < 0x10000 then
    [UInt8.ofNat (0xE0 + code / 4096), UInt8.ofNat (0x80 + code / 64 % 64),
      UInt8.ofNat (0x80 + code % 64)]
  else
    [UInt8.ofNat (0xF0 + code / 262144), UInt8.ofNat (0x80 + code / 4096 % 64),
      UInt8.ofNat (0x80 + code / 64 % 64), UInt8.ofNat (0x80 + code % 64)]

def encodeChars (cs : List Char) : List UInt8 := cs.flatMap encodeChar

def encode (text : String) : List UInt8 := encodeChars text.toList

structure Partial where
  code : Nat
  owed : Nat
  low : Nat
  high : Nat

inductive Lead where
  | whole (c : Char)
  | opened (begun : Partial)
  | stray

/-- What a byte means where a character may begin. The narrowed ranges after `E0`, `ED`, `F0` and
`F4` exclude overlong forms, surrogates and codes beyond the last plane. -/
def lead (byte : UInt8) : Lead :=
  let b := byte.toNat
  if b < 0x80 then .whole (Char.ofNat b)
  else if b < 0xC2 then .stray
  else if b < 0xE0 then .opened ⟨b - 0xC0, 0, 0x80, 0xBF⟩
  else if b = 0xE0 then .opened ⟨0, 1, 0xA0, 0xBF⟩
  else if b = 0xED then .opened ⟨0xD, 1, 0x80, 0x9F⟩
  else if b < 0xF0 then .opened ⟨b - 0xE0, 1, 0x80, 0xBF⟩
  else if b = 0xF0 then .opened ⟨0, 2, 0x90, 0xBF⟩
  else if b < 0xF4 then .opened ⟨b - 0xF0, 2, 0x80, 0xBF⟩
  else if b = 0xF4 then .opened ⟨4, 2, 0x80, 0x8F⟩
  else .stray

def scan : Option Partial → List UInt8 → List (Option Char)
  | none, [] => []
  | some _, [] => [none]
  | none, byte :: rest =>
    match lead byte with
    | .whole c => some c :: scan none rest
    | .opened begun => scan (some begun) rest
    | .stray => none :: scan none rest
  | some begun, byte :: rest =>
    let b := byte.toNat
    if begun.low ≤ b && b ≤ begun.high then
      let code := begun.code * 64 + (b - 0x80)
      match begun.owed with
      | 0 => some (Char.ofNat code) :: scan none rest
      | owed + 1 => scan (some ⟨code, owed, 0x80, 0xBF⟩) rest
    else
      match lead byte with
      | .whole c => none :: some c :: scan none rest
      | .opened next => none :: scan (some next) rest
      | .stray => none :: none :: scan none rest

/-- The text of the bytes, provided every one of them belongs to a character. -/
def decode (bytes : List UInt8) : Option String :=
  ((scan none bytes).mapM id).map String.ofList

def decodeLossy (bytes : List UInt8) : String :=
  String.ofList ((scan none bytes).map (·.getD '\uFFFD'))

end SignOn.Utf8
