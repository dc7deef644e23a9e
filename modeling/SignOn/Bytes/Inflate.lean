import SignOn.Bytes.Checksum

/-!
Unpacking compressed bytes. The packed form is a series of blocks, each stored as it is or written
in two codes, one for bytes and lengths and one for distances: a length and a distance stand for
bytes that came before. Around the blocks there is a header, and behind them a checksum. What ends too
early is unpacked as far as it goes.
-/

namespace SignOn.Inflate

inductive Fault where
  | header
  | method
  | window
  | flags
  | headerChecksum
  | blockType
  | storedLength
  | tooManySymbols
  | lengthCode
  | repetition
  | noEnd
  | symbolCode
  | distanceCode
  | symbol
  | distance
  | tooFar
  | checksum
  | length
deriving DecidableEq

def Fault.reason : Fault → String
  | .header => "incorrect header check"
  | .method => "unknown compression method"
  | .window => "invalid window size"
  | .flags => "unknown header flags set"
  | .headerChecksum => "header crc mismatch"
  | .blockType => "invalid block type"
  | .storedLength => "invalid stored block lengths"
  | .tooManySymbols => "too many length or distance symbols"
  | .lengthCode => "invalid code lengths set"
  | .repetition => "invalid bit length repeat"
  | .noEnd => "invalid code -- missing end-of-block"
  | .symbolCode => "invalid literal/lengths set"
  | .distanceCode => "invalid distances set"
  | .symbol => "invalid literal/length code"
  | .distance => "invalid distance code"
  | .tooFar => "invalid distance too far back"
  | .checksum => "incorrect data check"
  | .length => "incorrect length check"

def Fault.message (fault : Fault) : String :=
  "Error -3 while decompressing data: " ++ fault.reason

abbrev Bits := List Bool

def bitsOfByte (byte : UInt8) : Bits := (List.range 8).map byte.toNat.testBit

def number? : Nat → Bits → Option (Nat × Bits)
  | 0, bits => some (0, bits)
  | _ + 1, [] => none
  | count + 1, bit :: rest =>
    (number? count rest).map fun (n, rest) => (2 * n + bit.toNat, rest)

def align (bits : Bits) : Bits := bits.drop (bits.length % 8)

/-- Why unpacking stopped, and what was unpacked until then. Without a fault the end came too
early. -/
structure Stop where
  fault : Option Fault
  unpacked : Array UInt8

abbrev Unpacking (α : Type) := Except Stop α

def orStop {α : Type} (unpacked : Array UInt8) : Option α → Unpacking α
  | some a => .ok a
  | none => .error ⟨none, unpacked⟩

def refuse {α : Type} (unpacked : Array UInt8) (fault : Fault) : Unpacking α :=
  .error ⟨some fault, unpacked⟩

structure Code where
  counts : List Nat
  symbols : Array Nat

namespace Code

/-- The code in which every symbol has a word of the given length, or none if that is zero. A code
without words is read as one of words of length one. -/
def ofLengths (lengths : List Nat) : Code :=
  let longest := lengths.foldl max 1
  { counts := (List.range longest).map fun length => lengths.count (length + 1)
    symbols := ((List.range longest).flatMap fun length =>
      (lengths.zipIdx.filter fun one => one.1 = length + 1).map (·.2)).toArray }

/-- How many words of the greatest length are left over; less than none if there are too many. -/
def leftOver (code : Code) : Int :=
  code.counts.foldl (fun (left : Int) (count : Nat) => 2 * left - count) 1

def isEmpty (code : Code) : Bool := code.symbols.isEmpty

def isComplete (code : Code) : Bool := code.leftOver == 0

def isUsable (code : Code) : Bool :=
  code.isEmpty || code.isComplete || (code.counts.length == 1 && 0 < code.leftOver)

def walk? (symbols : Array Nat) :
    List Nat → Nat → Nat → Nat → Bits → Option (Option Nat × Bits)
  | [], _, _, _, bits => some (none, bits)
  | _ :: _, _, _, _, [] => none
  | count :: more, word, first, index, bit :: rest =>
    let word := 2 * word + bit.toNat
    if word < first + count then some (symbols[index + (word - first)]?, rest)
    else walk? symbols more word (2 * (first + count)) (index + count) rest

def read? (code : Code) (bits : Bits) : Option (Option Nat × Bits) :=
  walk? code.symbols code.counts 0 0 0 bits

end Code

structure Codes where
  symbols : Code
  distances : Code

/-- The codes that a block may use without defining them. Two symbols of each stand for nothing. -/
def fixedCodes : Codes :=
  { symbols := .ofLengths (List.replicate 144 8 ++ List.replicate 112 9 ++ List.replicate 24 7 ++
      List.replicate 8 8)
    distances := .ofLengths (List.replicate 32 5) }

structure Range where
  first : Nat
  bits : Nat

def lengthRanges : List Range :=
  [⟨3, 0⟩, ⟨4, 0⟩, ⟨5, 0⟩, ⟨6, 0⟩, ⟨7, 0⟩, ⟨8, 0⟩, ⟨9, 0⟩, ⟨10, 0⟩, ⟨11, 1⟩, ⟨13, 1⟩, ⟨15, 1⟩,
    ⟨17, 1⟩, ⟨19, 2⟩, ⟨23, 2⟩, ⟨27, 2⟩, ⟨31, 2⟩, ⟨35, 3⟩, ⟨43, 3⟩, ⟨51, 3⟩, ⟨59, 3⟩, ⟨67, 4⟩,
    ⟨83, 4⟩, ⟨99, 4⟩, ⟨115, 4⟩, ⟨131, 5⟩, ⟨163, 5⟩, ⟨195, 5⟩, ⟨227, 5⟩, ⟨258, 0⟩]

def distanceRanges : List Range :=
  [⟨1, 0⟩, ⟨2, 0⟩, ⟨3, 0⟩, ⟨4, 0⟩, ⟨5, 1⟩, ⟨7, 1⟩, ⟨9, 2⟩, ⟨13, 2⟩, ⟨17, 3⟩, ⟨25, 3⟩, ⟨33, 4⟩,
    ⟨49, 4⟩, ⟨65, 5⟩, ⟨97, 5⟩, ⟨129, 6⟩, ⟨193, 6⟩, ⟨257, 7⟩, ⟨385, 7⟩, ⟨513, 8⟩, ⟨769, 8⟩,
    ⟨1025, 9⟩, ⟨1537, 9⟩, ⟨2049, 10⟩, ⟨3073, 10⟩, ⟨4097, 11⟩, ⟨6145, 11⟩, ⟨8193, 12⟩,
    ⟨12289, 12⟩, ⟨16385, 13⟩, ⟨24577, 13⟩]

def Range.read? (range : Range) (bits : Bits) : Option (Nat × Bits) :=
  (number? range.bits bits).map fun (n, rest) => (range.first + n, rest)

def repeatBytes (distance : Nat) : Nat → Array UInt8 → Array UInt8
  | 0, unpacked => unpacked
  | count + 1, unpacked =>
    repeatBytes distance count (unpacked.push (unpacked.getD (unpacked.size - distance) 0))

def unpackLength (codes : Codes) (range : Range) (bits : Bits) (unpacked : Array UInt8) :
    Unpacking (Bits × Array UInt8) := do
  let (length, bits) ← orStop unpacked (range.read? bits)
  let (symbol, bits) ← orStop unpacked (codes.distances.read? bits)
  match symbol.bind (distanceRanges[·]?) with
  | none => refuse unpacked .distance
  | some range =>
    let (distance, bits) ← orStop unpacked (range.read? bits)
    if unpacked.size < distance then refuse unpacked .tooFar
    else pure (bits, repeatBytes distance length unpacked)

def endSymbol : Nat := 256

/-- The bytes of a block up to its end; `fuel` bounds the number of symbols. -/
def unpackSymbols (codes : Codes) : Nat → Bits → Array UInt8 → Unpacking (Bits × Array UInt8)
  | 0, _, unpacked => .error ⟨none, unpacked⟩
  | fuel + 1, bits, unpacked => do
    let (symbol, bits) ← orStop unpacked (codes.symbols.read? bits)
    match symbol with
    | none => refuse unpacked .symbol
    | some symbol =>
      if symbol < endSymbol then
        unpackSymbols codes fuel bits (unpacked.push (UInt8.ofNat symbol))
      else if symbol = endSymbol then pure (bits, unpacked)
      else
        match lengthRanges[symbol - endSymbol - 1]? with
        | none => refuse unpacked .symbol
        | some range => do
          let (bits, unpacked) ← unpackLength codes range bits unpacked
          unpackSymbols codes fuel bits unpacked

def unpackStored : Nat → Bits → Array UInt8 → Unpacking (Bits × Array UInt8)
  | 0, bits, unpacked => .ok (bits, unpacked)
  | count + 1, bits, unpacked => do
    let (byte, bits) ← orStop unpacked (number? 8 bits)
    unpackStored count bits (unpacked.push (UInt8.ofNat byte))

def lengthOrder : List Nat := [16, 17, 18, 0, 8, 7, 9, 6, 10, 5, 11, 4, 12, 3, 13, 2, 14, 1, 15]

def threes? : Nat → Bits → Option (List Nat × Bits)
  | 0, bits => some ([], bits)
  | count + 1, bits => do
    let (n, bits) ← number? 3 bits
    let (rest, bits) ← threes? count bits
    pure (n :: rest, bits)

/-- The lengths of the words of both codes behind those already read, which are in reverse order;
`fuel` bounds the number of words. -/
def readLengths (code : Code) (total : Nat) (unpacked : Array UInt8) :
    Nat → List Nat → Bits → Unpacking (List Nat × Bits)
  | 0, _, _ => .error ⟨none, unpacked⟩
  | fuel + 1, read, bits =>
    if total ≤ read.length then .ok (read.reverse, bits)
    else do
      let (symbol, bits) ← orStop unpacked (code.read? bits)
      let again (length first count : Nat) : Unpacking (List Nat × Bits) := do
        let (more, bits) ← orStop unpacked (number? count bits)
        let times := first + more
        if total < read.length + times then refuse unpacked .repetition
        else readLengths code total unpacked fuel (List.replicate times length ++ read) bits
      match symbol.getD 0 with
      | 16 => do
        let _ ← orStop unpacked (number? 2 bits)
        match read with
        | [] => refuse unpacked .repetition
        | last :: _ => again last 3 2
      | 17 => again 0 3 3
      | 18 => again 0 11 7
      | length => readLengths code total unpacked fuel (length :: read) bits

def readCodes (bits : Bits) (unpacked : Array UInt8) : Unpacking (Codes × Bits) := do
  let (counts, bits) ← orStop unpacked (number? 14 bits)
  let symbolCount := counts % 32 + 257
  let distanceCount := counts / 32 % 32 + 1
  if 286 < symbolCount ∨ 30 < distanceCount then refuse unpacked .tooManySymbols
  else
    let (written, bits) ← orStop unpacked (threes? (counts / 1024 + 4) bits)
    let lengths := lengthOrder.zip written
    let code := Code.ofLengths ((List.range 19).map fun symbol => (lengths.lookup symbol).getD 0)
    if ! (code.isEmpty || code.isComplete) then refuse unpacked .lengthCode
    else
      let total := symbolCount + distanceCount
      let (lengths, bits) ← readLengths code total unpacked (total + 1) [] bits
      let symbols := Code.ofLengths (lengths.take symbolCount)
      let distances := Code.ofLengths (lengths.drop symbolCount)
      if lengths.getD endSymbol 0 = 0 then refuse unpacked .noEnd
      else if ! symbols.isUsable then refuse unpacked .symbolCode
      else if ! distances.isUsable then refuse unpacked .distanceCode
      else pure (⟨symbols, distances⟩, bits)

def unpackBlock (type : Nat) (bits : Bits) (unpacked : Array UInt8) :
    Unpacking (Bits × Array UInt8) := do
  match type with
  | 0 =>
    let (lengths, bits) ← orStop unpacked (number? 32 (align bits))
    if lengths % 65536 + lengths / 65536 ≠ 65535 then refuse unpacked .storedLength
    else unpackStored (lengths % 65536) bits unpacked
  | 1 => unpackSymbols fixedCodes (bits.length + 1) bits unpacked
  | 2 =>
    let (codes, bits) ← readCodes bits unpacked
    unpackSymbols codes (bits.length + 1) bits unpacked
  | _ => refuse unpacked .blockType

/-- The bytes of all blocks, and the bits behind them; `fuel` bounds the number of blocks. -/
def unpackBlocks : Nat → Bits → Array UInt8 → Unpacking (Bits × Array UInt8)
  | 0, _, unpacked => .error ⟨none, unpacked⟩
  | fuel + 1, bits, unpacked => do
    let (head, bits) ← orStop unpacked (number? 3 bits)
    let (bits, unpacked) ← unpackBlock (head / 2) bits unpacked
    if head % 2 = 1 then pure (align bits, unpacked) else unpackBlocks fuel bits unpacked

def unpackBare (bytes : List UInt8) : Unpacking (Bits × Array UInt8) :=
  unpackBlocks (8 * bytes.length + 1) (bytes.flatMap bitsOfByte) #[]

def settle : Unpacking (Array UInt8) → Except Fault (List UInt8)
  | .ok unpacked => .ok unpacked.toList
  | .error ⟨none, unpacked⟩ => .ok unpacked.toList
  | .error ⟨some fault, _⟩ => .error fault

def bigEndian (n : Nat) : Nat :=
  n % 256 * 16777216 + n / 256 % 256 * 65536 + n / 65536 % 256 * 256 + n / 16777216

def unpackDeflated : List UInt8 → Unpacking (Array UInt8)
  | first :: second :: rest => do
    if (256 * first.toNat + second.toNat) % 31 ≠ 0 then refuse #[] .header
    else if first.toNat % 16 ≠ 8 then refuse #[] .method
    else if 7 < first.toNat / 16 then refuse #[] .window
    else if second.toNat.testBit 5 then
      if rest.length < 4 then .error ⟨none, #[]⟩ else refuse #[] .header
    else
      let (bits, unpacked) ← unpackBare rest
      let (sum, _) ← orStop unpacked (number? 32 bits)
      if bigEndian sum ≠ Checksum.paired unpacked.toList then refuse unpacked .checksum
      else pure unpacked
  | _ => .error ⟨none, #[]⟩

def afterText? : List UInt8 → Option (List UInt8)
  | [] => none
  | byte :: rest => if byte = 0 then some rest else afterText? rest

def dropExactly? (count : Nat) (bytes : List UInt8) : Option (List UInt8) :=
  if bytes.length < count then none else some (bytes.drop count)

def afterField? : List UInt8 → Option (List UInt8)
  | low :: high :: rest => dropExactly? (256 * high.toNat + low.toNat) rest
  | _ => none

def afterParts? (flags : Nat) (bytes : List UInt8) : Option (List UInt8) := do
  let bytes ← dropExactly? 6 bytes
  let bytes ← if flags.testBit 2 then afterField? bytes else some bytes
  let bytes ← if flags.testBit 3 then afterText? bytes else some bytes
  if flags.testBit 4 then afterText? bytes else some bytes

def afterHeader (flags : Nat) (whole rest : List UInt8) : Unpacking (List UInt8) :=
  if ! flags.testBit 1 then .ok rest
  else
    match rest with
    | low :: high :: body =>
      let sum := Checksum.cyclic (whole.take (whole.length - rest.length))
      if 256 * high.toNat + low.toNat = sum % 65536 then .ok body else refuse #[] .headerChecksum
    | _ => .error ⟨none, #[]⟩

def unpackGzip (bytes : List UInt8) : Unpacking (Array UInt8) := do
  match bytes with
  | first :: second :: rest =>
    if first ≠ 0x1F ∨ second ≠ 0x8B then refuse #[] .header
    else
      match rest with
      | method :: flags :: rest =>
        if method ≠ 8 then refuse #[] .method
        else if 32 ≤ flags.toNat then refuse #[] .flags
        else
          let rest ← orStop #[] (afterParts? flags.toNat rest)
          let body ← afterHeader flags.toNat bytes rest
          let (bits, unpacked) ← unpackBare body
          let (sum, bits) ← orStop unpacked (number? 32 bits)
          if sum ≠ Checksum.cyclic unpacked.toList then refuse unpacked .checksum
          else
            let (length, _) ← orStop unpacked (number? 32 bits)
            if length ≠ unpacked.size % 4294967296 then refuse unpacked .length
            else pure unpacked
      | _ => .error ⟨none, #[]⟩
  | _ => .error ⟨none, #[]⟩

def gunzip (bytes : List UInt8) : Except Fault (List UInt8) := settle (unpackGzip bytes)

/-- Unpacks deflated bytes. Many senders leave out the header and the checksum. -/
def inflate (bytes : List UInt8) : Except Fault (List UInt8) :=
  match settle (unpackDeflated bytes) with
  | .ok unpacked => .ok unpacked
  | .error _ => settle ((unpackBare bytes).map (·.2))

end SignOn.Inflate
