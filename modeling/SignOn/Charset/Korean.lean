import SignOn.Charset.Reading
import SignOn.Charset.TwoByte

/-!
The Korean character sets in which bytes beyond ASCII begin a character of two bytes, or spell a
syllable by its letters.
-/

namespace SignOn.Charset

def findKorean (lead trail : Nat) : Option Char := korean.find? (lowCode lead trail)

def initials : List Char := "ㄱㄲㄴㄷㄸㄹㅁㅂㅃㅅㅆㅇㅈㅉㅊㅋㅌㅍㅎ".toList

def finals : List Char := "ㄱㄲㄳㄴㄵㄶㄷㄹㄺㄻㄼㄽㄾㄿㅀㅁㅂㅄㅅㅆㅇㅈㅊㅋㅌㅍㅎ".toList

def syllable (first vowel last : Nat) : Char :=
  Char.ofNat (0xAC00 + first * 588 + vowel * 28 + last)

def consonant? (byte : Nat) : Option Char :=
  if 0xA1 ≤ byte ∧ byte ≤ 0xBE then some (Char.ofNat (0x3131 + (byte - 0xA1))) else none

def filler : Nat := 0xD4

def spelled? (first vowel last : Nat) : Option Char := do
  let first ← (← consonant? first) |> initials.idxOf?
  let last ← if last = filler then some 0
    else (← consonant? last) |> finals.idxOf? |>.map (· + 1)
  if 0xBF ≤ vowel ∧ vowel ≤ 0xD3 then some (syllable first (vowel - 0xBF) last) else none

def eucKrStep (byte : Nat) (rest : List Nat) : Step Unit :=
  if byte = 0xA4 ∧ rest.head? = some filler then
    match rest with
    | _ :: a :: first :: b :: vowel :: c :: last :: _ =>
      if a = 0xA4 ∧ b = 0xA4 ∧ c = 0xA4 then passedOrBroken 7 (spelled? first vowel last)
      else .broken 0
    | _ => .short
  else pairStep findKorean byte rest

def otherSyllableCell? (trail : Nat) : Option Nat :=
  if 0x41 ≤ trail ∧ trail ≤ 0x5A then some (trail - 0x41)
  else if 0x61 ≤ trail ∧ trail ≤ 0x7A then some (trail - 0x61 + 26)
  else if 0x81 ≤ trail ∧ trail ≤ 0xFE then some (trail - 0x81 + 52)
  else none

def otherSyllableIndex? (lead trail : Nat) : Option Nat := do
  let cell ← otherSyllableCell? trail
  if 0x81 ≤ lead ∧ lead ≤ 0xA0 then some ((lead - 0x81) * 178 + cell)
  else if 0xA1 ≤ lead ∧ lead ≤ 0xC6 ∧ trail ≤ 0xA0 then some (5696 + (lead - 0xA1) * 84 + cell)
  else none

def findWindowsKorean (lead trail : Nat) : Option Char :=
  if lead = 0xA4 ∧ trail = filler then some 'ㅤ'
  else findKorean lead trail <|>
    ((otherSyllableIndex? lead trail).bind (otherSyllables[·]?)).map Char.ofNat

inductive Spelling where
  | nothing
  | letter (place : Nat)

def placeIn (number : Nat) : Nat → List (Nat × Nat) → Option Nat
  | _, [] => none
  | start, (low, high) :: runs =>
    if low ≤ number ∧ number ≤ high then some (start + (number - low))
    else placeIn number (start + (high + 1 - low)) runs

def spelling? (empty : Nat) (runs : List (Nat × Nat)) (bits : Nat) : Option Spelling :=
  if bits = empty then some .nothing else (placeIn bits 0 runs).map .letter

def combined? : Spelling → Spelling → Spelling → Option Char
  | .letter first, .letter vowel, .nothing => some (syllable first vowel 0)
  | .letter first, .letter vowel, .letter last => some (syllable first vowel (last + 1))
  | .letter first, .nothing, .nothing => initials[first]?
  | .nothing, .letter vowel, .nothing => some (Char.ofNat (0x314F + vowel))
  | .nothing, .nothing, .letter last => finals[last]?
  | .nothing, .nothing, .nothing => some '　'
  | _, _, _ => none

def findSpelled (lead trail : Nat) : Option Char := do
  let code := lead * 256 + trail
  let first ← spelling? 1 [(2, 20)] (code / 1024 % 32)
  let vowel ← spelling? 2 [(3, 7), (10, 15), (18, 23), (26, 29)] (code / 32 % 32)
  let last ← spelling? 1 [(2, 17), (19, 29)] (code % 32)
  combined? first vowel last

def findJohabSign (lead trail : Nat) : Option Char :=
  let row := if lead < 0xE0 then 2 * (lead - 0xD9) else 2 * lead - 0x197
  let cell := if trail < 0x91 then trail - 0x31 else trail - 0x43
  if lead = 0xD8 ∨ lead = 0xDF ∨ 0xF9 < lead ∨ trail < 0x31 ∨ (0x80 ≤ trail ∧ trail < 0x91) ∨
      trail % 128 = 0x7F ∨ (lead = 0xDA ∧ 0xA1 ≤ trail ∧ trail ≤ 0xD3) then none
  else korean.find? ((row + cell / 94 + 0x21) * 256 + cell % 94 + 0x21)

def findJohab (lead trail : Nat) : Option Char :=
  if lead < 0xD8 then findSpelled lead trail else findJohabSign lead trail

end SignOn.Charset
