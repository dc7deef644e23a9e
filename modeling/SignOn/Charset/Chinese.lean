import SignOn.Charset.Reading
import SignOn.Charset.TwoByte

/-!
The Chinese character sets in which bytes beyond ASCII begin a character of two bytes or four.
-/

namespace SignOn.Charset

def findSimplified (lead trail : Nat) : Option Char := chinese.find? (lowCode lead trail)

def otherHanIndex? (lead trail : Nat) : Option Nat :=
  let cell := if trail < 0x7F then trail - 0x40 else trail - 0x41
  if trail < 0x40 ∨ trail = 0x7F then none
  else if 0x81 ≤ lead ∧ lead ≤ 0xA0 ∧ trail ≤ 0xFE then some ((lead - 0x81) * 190 + cell)
  else if 0xAA ≤ lead ∧ lead ≤ 0xFE ∧ trail ≤ 0xA0 then
    some (6080 + (lead - 0xAA) * 96 + cell)
  else none

def findOtherHan (lead trail : Nat) : Option Char :=
  ((otherHanIndex? lead trail).bind (otherHan[·]?)).map Char.ofNat

def findExtended (lead trail : Nat) : Option Char :=
  chineseExtra.find? (lead * 256 + trail) <|> findSimplified lead trail <|>
    findOtherHan lead trail

def findFurther (lead trail : Nat) : Option Char :=
  findExtended lead trail <|> chineseFurther.find? (lead * 256 + trail) <|>
    private? (lead * 256 + trail)

def findCounted (a b c d : Nat) : Option Char :=
  let count := ((a - 0x81) * 10 + (b - 0x30)) * 1260 + (c - 0x81) * 10 + (d - 0x30)
  if a < 0x81 ∨ a = 0xFF ∨ c < 0x81 ∨ c = 0xFF ∨ d < 0x30 ∨ 0x39 < d then none
  else if a < 0x85 then (otherChars[count]?).map Char.ofNat
  else if a < 0x90 then none
  else
    let code := 0x10000 + (count - 15 * 12600)
    if code < 0x110000 then some (Char.ofNat code) else none

def gb18030Step (byte : Nat) (rest : List Nat) : Step Unit :=
  match rest with
  | second :: more =>
    if 0x80 ≤ byte ∧ 0x30 ≤ second ∧ second ≤ 0x39 then
      match more with
      | third :: fourth :: _ => passedOrBroken 3 (findCounted byte second third fourth)
      | _ => .short
    else pairStep findFurther byte rest
  | [] => pairStep findFurther byte rest

def findTraditional (lead trail : Nat) : Option Char := traditional.find? (lead * 256 + trail)

def findWindowsTraditional (lead trail : Nat) : Option Char :=
  traditionalWindows.find? (lead * 256 + trail) <|> findTraditional lead trail

end SignOn.Charset
