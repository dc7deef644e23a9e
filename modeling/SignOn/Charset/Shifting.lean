import SignOn.Charset.Reading
import SignOn.Charset.SingleByte
import SignOn.Charset.TwoByte

/-!
Texts of seven-bit bytes that change from one set of characters to another: by the escape sequences
of ISO 2022, or by the tildes of HZ.
-/

namespace SignOn.Charset

inductive Graphic where
  | ascii
  | japaneseRoman
  | japaneseKana
  | japanese
  | japaneseSupplement
  | korean
  | chinese
  | latin
  | greek
deriving DecidableEq

structure SetMark where
  isDouble : Bool
  final : Nat
deriving DecidableEq

structure Escapes where
  sets : List (SetMark × Graphic)
  shifts : Bool
  borrows : Bool
  revises : Bool

structure EscapeState where
  passing : Bool
  shifted : Bool
  main : Graphic
  other : Graphic
  borrowed : Graphic

def EscapeState.start : EscapeState := ⟨false, false, .ascii, .ascii, .ascii⟩

def japaneseSets : List (SetMark × Graphic) :=
  [(⟨true, 0x42⟩, .japanese), (⟨true, 0x40⟩, .japanese), (⟨false, 0x4A⟩, .japaneseRoman)]

def supplementedSets : List (SetMark × Graphic) :=
  (⟨true, 0x44⟩, .japaneseSupplement) :: japaneseSets

def multilingualSets : List (SetMark × Graphic) :=
  supplementedSets ++ [(⟨true, 0x43⟩, .korean), (⟨true, 0x41⟩, .chinese),
    (⟨false, 0x41⟩, .latin), (⟨false, 0x46⟩, .greek)]

def iso2022Jp : Escapes := ⟨japaneseSets, false, false, true⟩

def iso2022Jp1 : Escapes := ⟨supplementedSets, false, false, true⟩

def iso2022Jp2 : Escapes := ⟨multilingualSets, false, true, true⟩

def iso2022JpExt : Escapes :=
  ⟨(⟨false, 0x49⟩, .japaneseKana) :: supplementedSets, false, false, true⟩

def iso2022Kr : Escapes := ⟨[(⟨true, 0x43⟩, .korean)], true, false, false⟩

def escape : Nat := 0x1B

def endsEscape (byte : Nat) : Bool := (0x41 ≤ byte && byte ≤ 0x5A) || byte = 0x40

def sequenceLength (revises : Bool) : Nat → Nat → List Nat → Option Nat
  | 0, _, _ => some 0
  | fuel + 1, place, bytes =>
    if 16 ≤ place then some 0
    else
      match bytes with
      | [] => none
      | byte :: rest =>
        if endsEscape byte then some (place + 1)
        else if revises && byte = 0x26 && rest.head? = some 0x40 then
          sequenceLength revises fuel (place + 3) (rest.drop 2)
        else sequenceLength revises fuel (place + 1) rest

inductive Role where
  | main
  | other
  | borrowed

def called? (escapes : Escapes) : List Nat → Option (SetMark × Role)
  | [0x24, final] => some (⟨true, final⟩, .main)
  | [0x28, final] => some (⟨false, final⟩, .main)
  | [0x29, final] => some (⟨false, final⟩, .other)
  | [0x2E, final] => if escapes.borrows then some (⟨false, final⟩, .borrowed) else none
  | [0x24, 0x28, final] => some (⟨true, final⟩, .main)
  | [0x24, 0x29, final] => some (⟨true, final⟩, .other)
  | [_, _, 0x1B, 0x24, 0x42] => if escapes.revises then some (⟨true, 0x42⟩, .main) else none
  | _ => none

def Escapes.graphic? (escapes : Escapes) (mark : SetMark) : Option Graphic :=
  if mark = ⟨false, 0x42⟩ then some .ascii else escapes.sets.lookup mark

def EscapeState.call (state : EscapeState) (graphic : Graphic) : Role → EscapeState
  | .main => { state with main := graphic }
  | .other => { state with other := graphic }
  | .borrowed => { state with borrowed := graphic }

def callStep (escapes : Escapes) (state : EscapeState) (rest : List Nat) : Step EscapeState :=
  match sequenceLength escapes.revises 15 1 rest with
  | none => .short
  | some length =>
    let target := (called? escapes (rest.take (length - 1))).bind fun (mark, role) =>
      (escapes.graphic? mark).map fun graphic => (graphic, role)
    match target with
    | some (graphic, role) => .passed [] (length - 1) (state.call graphic role)
    | none => .broken (length - 1)

def romanChar (byte : Nat) : Option Char :=
  if byte = 0x5C then some '¥' else if byte = 0x7E then some '‾' else some (Char.ofNat byte)

def kanaChar (byte : Nat) : Option Char :=
  if 0x21 ≤ byte ∧ byte ≤ 0x5F then some (Char.ofNat (0xFF40 + byte)) else none

def greekChar (byte : Nat) : Option Char :=
  if byte ∈ [0x24, 0x25, 0x2A] then none
  else if 0x80 ≤ byte then some (Char.ofNat (byte - 0x80))
  else ((singleByteSet? "iso8859_7").bind (·[byte + 0x80]?)).filter (· ≠ replacement)

def latinChar (byte : Nat) : Option Char :=
  if byte < 0x80 then some (Char.ofNat (byte + 0x80)) else none

/-- The character of a set for a byte, or for two if its codes have two. Two sets have characters
only where they are borrowed. -/
def Graphic.step (graphic : Graphic) (state : EscapeState) (byte : Nat) (rest : List Nat) :
    Step EscapeState :=
  let single (found : Option Char) : Step EscapeState :=
    match found with
    | some c => .passed [c] 0 state
    | none => .broken 0
  let double (set : TwoByteSet) : Step EscapeState :=
    match rest with
    | [] => .short
    | trail :: _ =>
      match set.find? (byte * 256 + trail) with
      | some c => .passed [c] 1 state
      | none => .broken 1
  match graphic with
  | .ascii => single (some (Char.ofNat byte))
  | .japaneseRoman => single (romanChar byte)
  | .japaneseKana => single (kanaChar byte)
  | .japanese => double Charset.japanese
  | .japaneseSupplement => double Charset.japaneseSupplement
  | .korean => double Charset.korean
  | .chinese => double Charset.chinese
  | .latin => .broken 0
  | .greek => .broken 0

def borrowedChar : Graphic → Nat → Option Char
  | .latin, byte => latinChar byte
  | .greek, byte => greekChar byte
  | .ascii, byte => if byte < 0x80 then some (Char.ofNat byte) else none
  | _, _ => none

def escapeStep (escapes : Escapes) (state : EscapeState) : List Nat → Step EscapeState
  | [] => .short
  | second :: rest =>
    if second ∈ [0x24, 0x26, 0x28, 0x29, 0x2E] then callStep escapes state (second :: rest)
    else if escapes.borrows && second = 0x4E then
      match rest with
      | [] => .short
      | byte :: _ =>
        match borrowedChar state.borrowed byte with
        | some c => .passed [c] 2 state
        | none => .broken 2
    else .passed [Char.ofNat escape] 0 { state with passing := true }

def Escapes.step (escapes : Escapes) (state : EscapeState) (byte : Nat) (rest : List Nat) :
    Step EscapeState :=
  let literal (next : EscapeState) : Step EscapeState := .passed [Char.ofNat byte] 0 next
  if state.passing then literal { state with passing := ! endsEscape byte }
  else if byte = escape then escapeStep escapes state rest
  else if escapes.shifts && byte = 0x0E then .passed [] 0 { state with shifted := true }
  else if escapes.shifts && byte = 0x0F then .passed [] 0 { state with shifted := false }
  else if byte = 0x0A then literal { state with shifted := false }
  else if byte < 0x20 then literal state
  else if 0x80 ≤ byte then .broken 0
  else (if state.shifted then state.other else state.main).step state byte rest

def Escapes.read (escapes : Escapes) (bytes : List Nat) : Reading :=
  readSteps escapes.step .start 0 bytes

def Escapes.unfinished (escapes : Escapes) (bytes : List Nat) : Nat :=
  unfinishedSteps escapes.step .start 0 bytes

/-- One step of HZ. The state tells whether pairs of bytes are Chinese characters. -/
def hzStep (isChinese : Bool) (byte : Nat) (rest : List Nat) : Step Bool :=
  if byte = 0x7E then
    match rest with
    | [] => .short
    | second :: _ =>
      if second = 0x7D && isChinese then .passed [] 1 false
      else if second = 0x7B && ! isChinese then .passed [] 1 true
      else if second = 0x0A && ! isChinese then .passed [] 1 false
      else if second = 0x7E && ! isChinese then .passed ['~'] 1 false
      else .broken 0
  else if 0x80 ≤ byte then .broken 0
  else if ! isChinese then .passed [Char.ofNat byte] 0 false
  else
    match rest with
    | [] => .short
    | trail :: _ =>
      match chinese.find? (byte * 256 + trail) with
      | some c => .passed [c] 1 true
      | none => .broken 0

end SignOn.Charset
