import SignOn.Bytes.Base64
import SignOn.Charset.Reading

/-!
UTF-7: ASCII, in which a plus sign begins a stretch of base64 digits that spell UTF-16.
-/

namespace SignOn.Charset.Utf7

structure Pending where
  count : Nat
  bits : Nat
  half : Option Nat

inductive Mode where
  | plain
  | begun
  | inside (pending : Pending)

def digit? (byte : Nat) : Option Nat := Base64.standard.value? (Char.ofNat byte)

/-- The character of a code unit; half a pair by itself is none. -/
def unitChar (unit : Nat) : Char :=
  if 0xD800 ≤ unit ∧ unit < 0xE000 then '\uFFFD' else Char.ofNat unit

def addUnit (half : Option Nat) (unit : Nat) : List Char × Option Nat :=
  let isHigh := 0xD800 ≤ unit && unit < 0xDC00
  match half with
  | none => if isHigh then ([], some unit) else ([unitChar unit], none)
  | some high =>
    if 0xDC00 ≤ unit ∧ unit < 0xE000 then
      ([Char.ofNat (0x10000 + (high - 0xD800) * 1024 + (unit - 0xDC00))], none)
    else if isHigh then ([unitChar high], some unit)
    else ([unitChar high, unitChar unit], none)

def addDigit (pending : Pending) (digit : Nat) : Reading × Mode :=
  let bits := pending.bits * 64 + digit
  let count := pending.count + 6
  if count < 16 then ([], .inside { pending with count, bits })
  else
    let left := count - 16
    let (chars, half) := addUnit pending.half (bits >>> left)
    (chars.map some, .inside ⟨left, bits % (1 <<< left), half⟩)

def Pending.isRagged (pending : Pending) : Bool := 6 ≤ pending.count || pending.bits ≠ 0

def plainByte (byte : Nat) : Reading × Mode :=
  if byte = 0x2B then ([], .begun)
  else if byte < 0x80 then ([some (Char.ofNat byte)], .plain)
  else ([none], .plain)

def leave (pending : Pending) (byte : Nat) : Reading × Mode :=
  if pending.isRagged then ([none], .plain)
  else
    let isDirect := byte < 0x80 && byte ≠ 0x2B
    let half := if isDirect then pending.half.toList.map fun unit => some (unitChar unit) else []
    if byte = 0x2D then (half, .plain)
    else let (reading, mode) := plainByte byte; (half ++ reading, mode)

def step : Mode → Nat → Reading × Mode
  | .plain, byte => plainByte byte
  | .begun, byte =>
    match digit? byte with
    | some digit => addDigit ⟨0, 0, none⟩ digit
    | none => ([if byte = 0x2D then some '+' else none], .plain)
  | .inside pending, byte =>
    match digit? byte with
    | some digit => addDigit pending digit
    | none => leave pending byte

def readFrom : Mode → List Nat → Reading
  | .inside pending, [] => if pending.isRagged || pending.half.isSome then [none] else []
  | _, [] => []
  | mode, byte :: rest => let (reading, next) := step mode byte; reading ++ readFrom next rest

def read (bytes : List Nat) : Reading := readFrom .plain bytes

end SignOn.Charset.Utf7
