/-!
UTF-16 and UTF-32, in either byte order. Both readers are strict: a code unit that stands for no
character makes the whole text unreadable.
-/

namespace SignOn

inductive ByteOrder where
  | big
  | little

namespace Utf16

def units (order : ByteOrder) : List UInt8 → Option (List Nat)
  | [] => some []
  | [_] => none
  | a :: b :: rest =>
    let unit := match order with
      | .big => a.toNat * 256 + b.toNat
      | .little => b.toNat * 256 + a.toNat
    (units order rest).map (unit :: ·)

def characters : List Nat → Option (List Char)
  | [] => some []
  | unit :: rest =>
    if unit < 0xD800 || 0xE000 ≤ unit then (characters rest).map (Char.ofNat unit :: ·)
    else if unit < 0xDC00 then
      match rest with
      | low :: after =>
        if 0xDC00 ≤ low && low < 0xE000 then
          (characters after).map
            (Char.ofNat (0x10000 + (unit - 0xD800) * 1024 + (low - 0xDC00)) :: ·)
        else none
      | [] => none
    else none

def unitsOfChar (c : Char) : List Nat :=
  let code := c.toNat
  if code < 0x10000 then [code]
  else [0xD800 + (code - 0x10000) / 1024, 0xDC00 + (code - 0x10000) % 1024]

def decode (order : ByteOrder) (bytes : List UInt8) : Option String :=
  ((units order bytes).bind characters).map String.ofList

end Utf16

namespace Utf32

def code (order : ByteOrder) (a b c d : UInt8) : Nat :=
  match order with
  | .big => ((a.toNat * 256 + b.toNat) * 256 + c.toNat) * 256 + d.toNat
  | .little => ((d.toNat * 256 + c.toNat) * 256 + b.toNat) * 256 + a.toNat

def characters (order : ByteOrder) : List UInt8 → Option (List Char)
  | [] => some []
  | a :: b :: c :: d :: rest =>
    let code := code order a b c d
    if code < 0xD800 || (0xE000 ≤ code && code < 0x110000) then
      (characters order rest).map (Char.ofNat code :: ·)
    else none
  | _ => none

def decode (order : ByteOrder) (bytes : List UInt8) : Option String :=
  (characters order bytes).map String.ofList

def inPlanes (order : ByteOrder) : List UInt8 → Bool
  | [] => true
  | a :: b :: c :: d :: rest => decide (code order a b c d < 0x110000) && inPlanes order rest
  | _ => false

end Utf32

end SignOn
