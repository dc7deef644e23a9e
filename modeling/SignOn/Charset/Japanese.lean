import SignOn.Charset.Reading
import SignOn.Charset.TwoByte

/-!
The Japanese character sets in which bytes beyond ASCII begin a character of one byte, two or three.
-/

namespace SignOn.Charset

def unshifted? (lead trail : Nat) : Option Nat :=
  let row := if lead < 0xE0 then lead - 0x81 else lead - 0xC1
  let cell := if trail < 0x80 then trail - 0x40 else trail - 0x41
  if trail < 0x40 ∨ trail = 0x7F ∨ 0xFC < trail then none
  else some ((2 * row + cell / 94 + 0x21) * 256 + cell % 94 + 0x21)

def findShifted (lead trail : Nat) : Option Char := (unshifted? lead trail).bind japanese.find?

def smallLetter (byte : Nat) : Nat := 0xFEC0 + byte

def isSmallLetter (byte : Nat) : Bool := 0xA1 ≤ byte && byte ≤ 0xDF

def shiftJisStep (byte : Nat) (rest : List Nat) : Step Unit :=
  let isLead := (0x81 ≤ byte && byte ≤ 0x9F) || (0xE0 ≤ byte && byte ≤ 0xFC)
  if isSmallLetter byte then passedChar (smallLetter byte) 0
  else if byte < 0x80 || isLead then pairStep findShifted byte rest
  else .broken 0

def findWindowsShifted (lead trail : Nat) : Option Char :=
  match japaneseWindows.find? (lead * 256 + trail) with
  | some c => some c
  | none =>
    if lead ≤ 0x9F ∨ (0xE0 ≤ lead ∧ lead ≤ 0xEA) then findShifted lead trail
    else if 0xF0 ≤ lead ∧ lead ≤ 0xF9 ∧ 0x40 ≤ trail ∧ trail ≠ 0x7F ∧ trail ≤ 0xFC then
      let cell := if trail < 0x80 then trail - 0x40 else trail - 0x41
      some (Char.ofNat (0xE000 + 188 * (lead - 0xF0) + cell))
    else none

def windowsShiftJisStep (byte : Nat) (rest : List Nat) : Step Unit :=
  if isSmallLetter byte then passedChar (smallLetter byte) 0
  else if byte = 0x80 then passedChar byte 0
  else if byte = 0xA0 then passedChar 0xF8F0 0
  else if 0xFD ≤ byte then passedChar (0xF8F1 + (byte - 0xFD)) 0
  else pairStep findWindowsShifted byte rest

def eucJpStep (byte : Nat) (rest : List Nat) : Step Unit :=
  match byte, rest with
  | 0x8E, small :: _ =>
    if isSmallLetter small then passedChar (smallLetter small) 1 else .broken 0
  | 0x8F, lead :: trail :: _ =>
    passedOrBroken 2 (japaneseSupplement.find? (lowCode lead trail))
  | 0x8F, _ => .short
  | _, _ => pairStep (fun lead trail => japanese.find? (lowCode lead trail)) byte rest

end SignOn.Charset
