import SignOn.Bytes.Utf8
import SignOn.Json.Reader

/-!
JSON received as bytes. The encoding is recognised from a byte order mark or from the zero bytes
among the first four; without either it is UTF-8.
-/

namespace SignOn.Json

inductive Encoding where
  | utf8
  | utf16 (order : ByteOrder)
  | utf32 (order : ByteOrder)

/-- The byte order marks, with the encodings that they stand for. Of two that begin alike the longer
one comes first. -/
def marks : List (List UInt8 × Encoding) :=
  [([0, 0, 0xFE, 0xFF], .utf32 .big), ([0xFF, 0xFE, 0, 0], .utf32 .little),
    ([0xFE, 0xFF], .utf16 .big), ([0xFF, 0xFE], .utf16 .little), ([0xEF, 0xBB, 0xBF], .utf8)]

def guess : List UInt8 → Encoding
  | a :: b :: c :: d :: _ =>
    if a = 0 then if b = 0 then .utf32 .big else .utf16 .big
    else if b = 0 then if c = 0 ∧ d = 0 then .utf32 .little else .utf16 .little
    else .utf8
  | [a, b] => if a = 0 then .utf16 .big else if b = 0 then .utf16 .little else .utf8
  | _ => .utf8

def detect (bytes : List UInt8) : Encoding × List UInt8 :=
  match marks.find? (·.1.isPrefixOf bytes) with
  | some (mark, encoding) => (encoding, bytes.drop mark.length)
  | none => (guess bytes, bytes)

inductive Defect where
  | notJson
  | tooDeep
  | loneSurrogate
deriving DecidableEq

def maskSurrogates : List UInt8 → List UInt8
  | 0xED :: second :: third :: rest =>
    if 0xA0 ≤ second && second < 0xC0 && 0x80 ≤ third && third < 0xC0 then
      0xEF :: 0xBF :: 0xBD :: maskSurrogates rest
    else 0xED :: maskSurrogates (second :: third :: rest)
  | byte :: rest => byte :: maskSurrogates rest
  | [] => []

def holdsSurrogates : Encoding → List UInt8 → Bool
  | .utf8, bytes => (Utf8.decode (maskSurrogates bytes)).isSome
  | .utf16 order, bytes => (Utf16.units order bytes).isSome
  | .utf32 order, bytes => Utf32.inPlanes order bytes

def decodeBytes (bytes : List UInt8) : Except Defect String :=
  let (encoding, rest) := detect bytes
  let text := match encoding with
    | .utf8 => Utf8.decode rest
    | .utf16 order => Utf16.decode order rest
    | .utf32 order => Utf32.decode order rest
  match text with
  | some text => .ok text
  | none => .error (if holdsSurrogates encoding rest then .loneSurrogate else .notJson)

def Defect.ofReason : Reason → Defect
  | .tooDeep => .tooDeep
  | .loneSurrogate => .loneSurrogate
  | _ => .notJson

def readBytes (bytes : List UInt8) : Except Defect Value := do
  (read (← decodeBytes bytes).toList).mapError fun fault => .ofReason fault.reason

end SignOn.Json
