/-!
Labels of host names in letters, digits and hyphens. The ASCII characters of a label come first,
behind a hyphen follows in numbers of variable length which other characters stand where.
-/

namespace SignOn.Punycode

def base : Nat := 36

def settle (bias delta : Nat) : Nat :=
  if 455 < delta then settle (bias + base) (delta / 35) else bias + 36 * delta / (delta + 38)
termination_by delta
decreasing_by exact Nat.div_lt_self (by omega) (by omega)

def adapt (first : Bool) (delta count : Nat) : Nat :=
  let scaled := if first then delta / 700 else delta / 2
  settle 0 (scaled + scaled / count)

def threshold (position bias : Nat) : Nat := min 26 (max 1 (base * (position + 1) - bias))

def digit (n : Nat) : Char := if n < 26 then Char.ofNat (0x61 + n) else Char.ofNat (0x16 + n)

def digitValue? (c : Char) : Option Nat :=
  let lower := c.toLower
  if 'a' ≤ lower ∧ lower ≤ 'z' then some (lower.toNat - 0x61)
  else if c.isDigit then some (c.toNat - 0x16)
  else none

theorem threshold_pos (position bias : Nat) : 0 < threshold position bias := by
  unfold threshold
  omega

def writeNumber (bias position n : Nat) : List Char :=
  let least := threshold position bias
  if n < least then [digit n]
  else
    digit (least + (n - least) % (base - least)) ::
      writeNumber bias (position + 1) ((n - least) / (base - least))
termination_by n
decreasing_by
  have positive := threshold_pos position bias
  have shrinks := Nat.div_le_self (n - threshold position bias) (base - threshold position bias)
  omega

structure Progress where
  count : Nat
  bias : Nat := 72
  delta : Nat := 0
  written : List Char

def writePlaces (basic code : Nat) (progress : Progress) : List Char → Progress
  | [] => progress
  | c :: rest =>
    if c.toNat < code then
      writePlaces basic code { progress with delta := progress.delta + 1 } rest
    else if c.toNat = code then
      let number := writeNumber progress.bias 0 progress.delta
      writePlaces basic code
        { count := progress.count + 1
          bias := adapt (progress.count = basic) progress.delta (progress.count + 1)
          written := progress.written ++ number }
        rest
    else writePlaces basic code progress rest

def writeCodes (label : List Char) (basic : Nat) : Nat → List Nat → Progress → Progress
  | _, [], progress => progress
  | least, code :: rest, progress =>
    let started :=
      { progress with delta := progress.delta + (code - least) * (progress.count + 1) }
    let next := writePlaces basic code started label
    writeCodes label basic (code + 1) rest { next with delta := next.delta + 1 }

def encode (label : List Char) : List Char :=
  let basic := label.filter (·.toNat < 0x80)
  let codes := ((label.map Char.toNat).filter (0x80 ≤ ·)).mergeSort.eraseDups
  let start := if basic.isEmpty then [] else basic ++ ['-']
  (writeCodes label basic.length 0x80 codes { count := basic.length, written := start }).written

def readNumber (bias : Nat) : Nat → Nat → Nat → List Char → Option (Nat × List Char)
  | _, _, _, [] => none
  | position, weight, sum, c :: rest =>
    (digitValue? c).bind fun value =>
      let least := threshold position bias
      let sum := sum + value * weight
      if value < least then some (sum, rest)
      else readNumber bias (position + 1) (weight * (base - least)) sum rest

/-- Puts characters into a label; the place is where the next one would come after the last one,
and the first argument tells whether none was put in before. `fuel` bounds their number. -/
def insertAll : Bool → Nat → Nat → Nat → Nat → List Char → List Char → Option (List Char)
  | _, _, _, _, _, label, [] => some label
  | _, 0, _, _, _, _, _ => none
  | first, fuel + 1, code, place, bias, label, rest =>
    (readNumber bias 0 1 0 rest).bind fun (delta, behind) =>
      let count := label.length + 1
      let code := code + (place + delta) / count
      let place := (place + delta) % count
      if valid : code.isValidChar then
        let longer := label.take place ++ Char.ofNatAux code valid :: label.drop place
        insertAll false fuel code (place + 1) (adapt first delta count) longer behind
      else none

def decode (encoded : List Char) : Option (List Char) :=
  let behind := (encoded.reverse.takeWhile (· ≠ '-')).reverse
  let inFront := encoded.take (encoded.length - behind.length - 1)
  insertAll true encoded.length 0x80 0 72 inFront behind

end SignOn.Punycode
