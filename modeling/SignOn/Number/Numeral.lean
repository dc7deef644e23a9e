import SignOn.Text.Ranges

/-!
Integers as text. In the plain form there are no leading zeros and no other characters than digits
behind a minus sign; the lenient form also allows blanks around the number, a plus sign, leading
zeros, single underscores between digits, and zeros behind a decimal point.
-/

namespace SignOn.Numeral

inductive Fault where
  | unreadable
  | oversized
deriving DecidableEq

def isBlank (c : Char) : Bool :=
  Text.inRanges
    [(0x9, 0xD), (0x20, 0x20), (0x85, 0x85), (0xA0, 0xA0), (0x1680, 0x1680), (0x2000, 0x200A),
      (0x2028, 0x2029), (0x202F, 0x202F), (0x205F, 0x205F), (0x3000, 0x3000)] c

def trim (cs : List Char) : List Char :=
  ((cs.dropWhile isBlank).reverse.dropWhile isBlank).reverse

def limit : Nat := 4300

def digitsValue (cs : List Char) : Nat := cs.foldl (fun n c => 10 * n + (c.toNat - 0x30)) 0

def plainNat? (cs : List Char) : Option Nat :=
  if cs = ['0'] then some 0
  else if cs.all Char.isDigit ∧ (cs.head?.any (· ≠ '0')) then some (digitsValue cs)
  else none

def plainInt? : List Char → Option Int
  | '-' :: rest => (plainNat? rest).map fun n => -(n : Int)
  | cs => (plainNat? cs).map fun n => (n : Int)

/-- Whether a text begins with a number in plain form of too many digits; the sign counts too. -/
def isOversized (cs : List Char) : Bool :=
  let unsigned := if cs.head? = some '-' then cs.drop 1 else cs
  let digits := (unsigned.takeWhile Char.isDigit).length
  digits ≠ 0 && unsigned.head? != some '0' && limit < digits + (cs.length - unsigned.length)

/-- What follows a zero, without further zeros and underscores; one zero is kept where no other
digit follows. The first argument is the character in front. -/
def withoutZeros : Char → List Char → Option (List Char)
  | before, [] => some [before]
  | before, c :: rest =>
    if c = '0' ∨ c = '_' then withoutZeros c rest
    else if c.isDigit then some (c :: rest)
    else if c = '.' then some (before :: c :: rest)
    else none

/-- A number without its leading zeros. Behind a minus sign they stay. -/
def stripZeros : List Char → Option (List Char)
  | [] => none
  | c :: rest =>
    if c = '0' then withoutZeros c rest
    else if c.isDigit ∨ c = '-' then some (c :: rest)
    else none

def stripDecimals (cs : List Char) : List Char :=
  let whole := cs.takeWhile (· ≠ '.')
  let decimals := cs.drop (whole.length + 1)
  if ! decimals.isEmpty && decimals.all (· = '0') then whole else cs

def holdsDouble : List Char → Bool
  | '_' :: '_' :: _ => true
  | _ :: rest => holdsDouble rest
  | [] => false

def stripUnderscores (cs : List Char) : List Char :=
  if cs.head? = some '_' ∨ cs.getLast? = some '_' ∨ holdsDouble cs then cs
  else cs.filter (· ≠ '_')

def simplify? (cs : List Char) : Option (List Char) :=
  let cs := trim cs
  match cs with
  | '+' :: '-' :: _ => none
  | '+' :: rest => (stripZeros rest).map (stripUnderscores ∘ stripDecimals)
  | _ => (stripZeros cs).map (stripUnderscores ∘ stripDecimals)

def read (text : String) : Except Fault Int :=
  let cs := text.toList
  if isOversized cs then .error .oversized
  else
    match plainInt? cs with
    | some n => .ok n
    | none =>
      match simplify? cs with
      | none => .error .unreadable
      | some cs =>
        if isOversized cs then .error .unreadable
        else
          match plainInt? cs with
          | some n => .ok n
          | none => .error .unreadable

end SignOn.Numeral
