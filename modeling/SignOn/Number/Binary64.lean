/-!
Binary floating-point numbers of sixty-four bits, kept as their bits. A decimal is read by rounding
an exact quotient to the nearest number, ties to even; a number is written with the fewest decimal
digits that read back to it.
-/

namespace SignOn

structure Binary64 where
  bits : UInt64
deriving DecidableEq, Repr

namespace Binary64

inductive Kind where
  | nan
  | infinite
  | finite (mantissa : Nat) (exponent : Int)

def isNegative (x : Binary64) : Bool := Nat.pow 2 63 ≤ x.bits.toNat

def kind (x : Binary64) : Kind :=
  let field : Nat := x.bits.toNat / Nat.pow 2 52 % 2048
  let fraction := x.bits.toNat % Nat.pow 2 52
  if field = 2047 then (if fraction = 0 then .infinite else .nan)
  else if field = 0 then .finite fraction (-1074)
  else .finite (fraction + Nat.pow 2 52) ((field : Int) - 1075)

def isNan (x : Binary64) : Bool :=
  match x.kind with
  | .nan => true
  | _ => false

def wholeNumber? (x : Binary64) : Option Int :=
  match x.kind with
  | .finite mantissa exponent =>
    let signed (n : Nat) : Int := if x.isNegative then -n else n
    if 0 ≤ exponent then some (signed (mantissa * Nat.pow 2 exponent.toNat))
    else if mantissa % Nat.pow 2 (-exponent).toNat = 0 then
      some (signed (mantissa / Nat.pow 2 (-exponent).toNat))
    else none
  | _ => none

def infinityBits : Nat := 2047 * Nat.pow 2 52

def ofMagnitude (negative : Bool) (bits : Nat) : Binary64 :=
  ⟨UInt64.ofNat (bits + if negative then Nat.pow 2 63 else 0)⟩

def nan : Binary64 := ⟨UInt64.ofNat (infinityBits + Nat.pow 2 51)⟩

def infinity (negative : Bool) : Binary64 := ofMagnitude negative infinityBits

def roundQuotient (dividend divisor : Nat) : Nat :=
  let whole := dividend / divisor
  let twice := 2 * (dividend % divisor)
  if divisor < twice || (twice = divisor && whole % 2 = 1) then whole + 1 else whole

/-- The bits of the number nearest to a positive quotient. Adding the rounded mantissa to the
shifted exponent field carries into the exponent by itself when the mantissa overflows. -/
def magnitudeOfQuotient (dividend divisor : Nat) : Nat :=
  let scaled (exponent : Int) : Nat × Nat :=
    (dividend * Nat.pow 2 (-exponent).toNat, divisor * Nat.pow 2 exponent.toNat)
  let guess : Int := (dividend.log2 : Int) - divisor.log2 - 52
  let (high, low) := scaled guess
  let exponent := max (if high / low < Nat.pow 2 52 then guess - 1 else guess) (-1074)
  let (top, bottom) := scaled exponent
  min ((exponent + 1074).toNat * Nat.pow 2 52 + roundQuotient top bottom) infinityBits

def digitCount (n : Nat) : Nat := (Nat.toDigits 10 n).length

/-- The number nearest to `digits * 10 ^ exponent`. Exponents beyond the range of the format are
settled without computing the power. -/
def ofDecimal (negative : Bool) (digits : Nat) (exponent : Int) : Binary64 :=
  let magnitude : Int := digitCount digits + exponent
  if digits = 0 || magnitude < -330 then ofMagnitude negative 0
  else if 310 < magnitude then infinity negative
  else ofMagnitude negative
    (magnitudeOfQuotient (digits * Nat.pow 10 exponent.toNat) (Nat.pow 10 (-exponent).toNat))

/-- The reals that round to a positive number, doubled or quadrupled so that the ends are whole:
`low * 2 ^ exponent` to `high * 2 ^ exponent` around `value * 2 ^ exponent`, ends included exactly
for an even mantissa. Below a power of two the neighbours lie half as far away. -/
structure Rounding where
  low : Nat
  value : Nat
  high : Nat
  exponent : Int
  closed : Bool

def rounding (mantissa : Nat) (exponent : Int) : Rounding :=
  if mantissa = Nat.pow 2 52 && -1074 < exponent then
    ⟨4 * mantissa - 1, 4 * mantissa, 4 * mantissa + 2, exponent - 2, true⟩
  else ⟨2 * mantissa - 1, 2 * mantissa, 2 * mantissa + 1, exponent - 1, mantissa % 2 = 0⟩

def compareScaled (n : Nat) (twos : Int) (m : Nat) (tens : Int) : Ordering :=
  compare (n * Nat.pow 2 twos.toNat * Nat.pow 10 (-tens).toNat)
    (m * Nat.pow 10 tens.toNat * Nat.pow 2 (-twos).toNat)

def Rounding.holds (r : Rounding) (digits : Nat) (tens : Int) : Bool :=
  let below := compareScaled r.low r.exponent digits tens
  let above := compareScaled r.high r.exponent digits tens
  (below == .lt || (r.closed && below == .eq)) && (above == .gt || (r.closed && above == .eq))

def Rounding.floor (r : Rounding) (tens : Int) : Nat :=
  r.value * Nat.pow 2 r.exponent.toNat * Nat.pow 10 (-tens).toNat /
    (Nat.pow 10 tens.toNat * Nat.pow 2 (-r.exponent).toNat)

def Rounding.nearerAbove (r : Rounding) (below : Nat) (tens : Int) : Bool :=
  match compareScaled (2 * r.value) r.exponent (2 * below + 1) tens with
  | .lt => false
  | .eq => below % 2 = 1
  | .gt => true

def leadingExponent (r : Rounding) : Int :=
  let estimate : Int := ((r.value.log2 : Int) + r.exponent) * 30103 / 100000
  if compareScaled r.value r.exponent 1 (estimate + 1) != .lt then estimate + 1
  else if compareScaled r.value r.exponent 1 estimate != .lt then estimate
  else estimate - 1

/-- Tries grids of one digit more each time; seventeen digits always suffice. -/
def searchDigits (r : Rounding) (leading : Int) : Nat → Nat → Nat × Int
  | 0, count => (r.floor (leading - count + 1), leading - count + 1)
  | fuel + 1, count =>
    let tens := leading - count + 1
    let below := r.floor tens
    match r.holds below tens, r.holds (below + 1) tens with
    | true, false => (below, tens)
    | false, true => (below + 1, tens)
    | true, true => (if r.nearerAbove below tens then below + 1 else below, tens)
    | false, false => searchDigits r leading fuel (count + 1)

def shortest (mantissa : Nat) (exponent : Int) : Nat × Int :=
  let r := rounding mantissa exponent
  searchDigits r (leadingExponent r) 17 1

structure Layout where
  leastPositional : Int
  mostPositional : Int
  exponentDigits : Nat

def plainLayout : Layout := ⟨-4, 15, 2⟩

def zeros (n : Nat) : List Char := List.replicate n '0'

def Layout.render (layout : Layout) (digits : Nat) (tens : Int) : List Char :=
  let ds := Nat.toDigits 10 digits
  let leading := tens + ds.length - 1
  if layout.leastPositional ≤ leading && leading ≤ layout.mostPositional then
    if leading < 0 then ['0', '.'] ++ zeros (-leading - 1).toNat ++ ds
    else
      let before := leading.toNat + 1
      if ds.length ≤ before then ds ++ zeros (before - ds.length) ++ ['.', '0']
      else ds.take before ++ '.' :: ds.drop before
  else
    let power := Nat.toDigits 10 leading.natAbs
    ds.take 1 ++ (if ds.length = 1 then [] else '.' :: ds.drop 1) ++
      ['e', if leading < 0 then '-' else '+'] ++ zeros (layout.exponentDigits - power.length) ++
      power

def stripZeros : Nat → Nat → Int → Nat × Int
  | 0, digits, tens => (digits, tens)
  | fuel + 1, digits, tens =>
    if digits % 10 = 0 && digits != 0 then stripZeros fuel (digits / 10) (tens + 1)
    else (digits, tens)

def text (x : Binary64) : String :=
  let sign := if x.isNegative then "-" else ""
  match x.kind with
  | .nan => "nan"
  | .infinite => sign ++ "inf"
  | .finite 0 _ => sign ++ "0.0"
  | .finite mantissa exponent =>
    let (digits, tens) := shortest mantissa exponent
    let (digits, tens) := stripZeros 20 digits tens
    sign ++ String.ofList (plainLayout.render digits tens)

end Binary64

end SignOn
