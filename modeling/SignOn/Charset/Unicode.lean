import SignOn.Bytes.Utf16
import SignOn.Bytes.Utf8
import SignOn.Charset.Reading

/-!
Reading UTF-8, UTF-16 and UTF-32 with a mark at what stands for nothing.
-/

namespace SignOn.Charset

def readMarkedUtf8 : List UInt8 → Reading
  | 0xEF :: 0xBB :: 0xBF :: rest => Utf8.scan none rest
  | [0xEF, 0xBB] => []
  | [0xEF] => []
  | bytes => Utf8.scan none bytes

def isHighHalf (unit : Nat) : Bool := 0xD800 ≤ unit && unit < 0xDC00

def isLowHalf (unit : Nat) : Bool := 0xDC00 ≤ unit && unit < 0xE000

def unitChar? (unit : Nat) : Option Char :=
  if isHighHalf unit || isLowHalf unit then none else some (Char.ofNat unit)

/-- The characters of code units, with a mark at the end if a byte is left over. Together with half
a pair in front of it such a byte is one stretch that stands for nothing. -/
def readUnits (isOdd : Bool) : List Nat → Reading
  | [] => if isOdd then [none] else []
  | [unit] =>
    if isHighHalf unit then [none]
    else unitChar? unit :: if isOdd then [none] else []
  | unit :: low :: rest =>
    if isHighHalf unit && isLowHalf low then
      some (Char.ofNat (0x10000 + (unit - 0xD800) * 1024 + (low - 0xDC00))) :: readUnits isOdd rest
    else unitChar? unit :: readUnits isOdd (low :: rest)

def readUtf16 (order : ByteOrder) (bytes : List UInt8) : Reading :=
  let isOdd := bytes.length % 2 = 1
  let whole := if isOdd then bytes.dropLast else bytes
  readUnits isOdd ((Utf16.units order whole).getD [])

def readUtf32 (order : ByteOrder) : List UInt8 → Reading
  | [] => []
  | a :: b :: c :: d :: rest =>
    ((Utf32.characters order [a, b, c, d]).bind List.head?) :: readUtf32 order rest
  | _ => [none]

def utf16Mark? : List UInt8 → Option (ByteOrder × List UInt8)
  | 0xFE :: 0xFF :: rest => some (.big, rest)
  | 0xFF :: 0xFE :: rest => some (.little, rest)
  | _ => none

def utf32Mark? : List UInt8 → Option (ByteOrder × List UInt8)
  | 0x00 :: 0x00 :: 0xFE :: 0xFF :: rest => some (.big, rest)
  | 0xFF :: 0xFE :: 0x00 :: 0x00 :: rest => some (.little, rest)
  | _ => none

end SignOn.Charset
