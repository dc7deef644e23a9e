/-!
Base64. Three bytes become four digits; the last group may be short. The URL form has its own last
two digits and no padding; the strict reader accepts the standard digits only.
-/

namespace SignOn.Base64

structure Alphabet where
  sixtyTwo : Char
  sixtyThree : Char

def standard : Alphabet := ⟨'+', '/'⟩

def urlSafe : Alphabet := ⟨'-', '_'⟩

def Alphabet.digit (alphabet : Alphabet) (n : Nat) : Char :=
  if n < 26 then Char.ofNat (0x41 + n)
  else if n < 52 then Char.ofNat (0x61 + (n - 26))
  else if n < 62 then Char.ofNat (0x30 + (n - 52))
  else if n = 62 then alphabet.sixtyTwo
  else alphabet.sixtyThree

def Alphabet.value? (alphabet : Alphabet) (c : Char) : Option Nat :=
  let n := c.toNat
  if 0x41 ≤ n && n ≤ 0x5A then some (n - 0x41)
  else if 0x61 ≤ n && n ≤ 0x7A then some (n - 0x61 + 26)
  else if 0x30 ≤ n && n ≤ 0x39 then some (n - 0x30 + 52)
  else if c = alphabet.sixtyTwo then some 62
  else if c = alphabet.sixtyThree then some 63
  else none

def Alphabet.encode (alphabet : Alphabet) : List UInt8 → List Char
  | [] => []
  | [a] =>
    [alphabet.digit (a.toNat / 4), alphabet.digit (a.toNat % 4 * 16)]
  | [a, b] =>
    [alphabet.digit (a.toNat / 4), alphabet.digit (a.toNat % 4 * 16 + b.toNat / 16),
      alphabet.digit (b.toNat % 16 * 4)]
  | a :: b :: c :: rest =>
    alphabet.digit (a.toNat / 4) :: alphabet.digit (a.toNat % 4 * 16 + b.toNat / 16) ::
      alphabet.digit (b.toNat % 16 * 4 + c.toNat / 64) :: alphabet.digit (c.toNat % 64) ::
      alphabet.encode rest

def padded (digits : List Char) : List Char :=
  digits ++ List.replicate ((4 - digits.length % 4) % 4) '='

def unpadded (cs : List Char) : List Char := (cs.reverse.dropWhile (· == '=')).reverse

/-- The URL form, from which the padding is taken away. -/
def encodeUrl (bytes : List UInt8) : String :=
  String.ofList (unpadded (padded (urlSafe.encode bytes)))

/-- The standard form, with its padding. -/
def encodePadded (bytes : List UInt8) : List Char := padded (standard.encode bytes)

/-- The bytes of a digit sequence; the bits left over in a short last group are dropped, and a
single digit is no group. -/
def bytesOfDigits : List Nat → Option (List UInt8)
  | [] => some []
  | [_] => none
  | [a, b] => some [UInt8.ofNat (a * 4 + b / 16)]
  | [a, b, c] => some [UInt8.ofNat (a * 4 + b / 16), UInt8.ofNat (b % 16 * 16 + c / 4)]
  | a :: b :: c :: d :: rest =>
    (bytesOfDigits rest).map fun bytes =>
      UInt8.ofNat (a * 4 + b / 16) :: UInt8.ofNat (b % 16 * 16 + c / 4) ::
        UInt8.ofNat (c % 4 * 64 + d) :: bytes

def paddingFits (digits padding : Nat) : Bool :=
  match digits % 4 with
  | 0 => padding == 0 || digits != 0
  | 1 => false
  | short => short + padding == 4

def decodeStrict (cs : List Char) : Option (List UInt8) :=
  let digits := cs.takeWhile (standard.value? · |>.isSome)
  let padding := cs.dropWhile (standard.value? · |>.isSome)
  if padding.all (· == '=') && paddingFits digits.length padding.length then
    bytesOfDigits (digits.filterMap standard.value?)
  else none

end SignOn.Base64
