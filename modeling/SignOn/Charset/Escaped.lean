import SignOn.Charset.Reading
import SignOn.Text.Percent

/-!
Latin text with escapes: behind a backslash stand the code of a character or a letter for a control
character.
-/

namespace SignOn.Charset.Escaped

def codeStep (digits : Nat) (rest : List Nat) : Step Unit :=
  let found := (rest.take digits).takeWhile fun byte =>
    (Percent.hexValue? (Char.ofNat byte)).isSome
  let code := Percent.hexNumber (found.map Char.ofNat)
  if found.length < digits ∨ 0x110000 ≤ code then .broken (found.length + 1)
  else .passed [if 0xD800 ≤ code ∧ code < 0xE000 then '\uFFFD' else Char.ofNat code] (digits + 1) ()

def isOctal (byte : Nat) : Bool := 0x30 ≤ byte && byte ≤ 0x37

def letters : List (Nat × Nat) :=
  [(0x5C, 0x5C), (0x27, 0x27), (0x22, 0x22), (0x61, 7), (0x62, 8), (0x66, 12), (0x6E, 10),
    (0x72, 13), (0x74, 9), (0x76, 11)]

def escapeStep : List Nat → Step Unit
  | [] => .short
  | second :: rest =>
    if second = 0x0A then .passed [] 1 ()
    else if isOctal second then
      let digits := second :: (rest.take 2).takeWhile isOctal
      passedChar (digits.foldl (fun n byte => 8 * n + (byte - 0x30)) 0) digits.length
    else if second = 0x78 then codeStep 2 rest
    else if second = 0x75 then codeStep 4 rest
    else if second = 0x55 then codeStep 8 rest
    else
      match letters.lookup second with
      | some code => passedChar code 1
      | none => .passed ['\\', Char.ofNat second] 1 ()

def step (byte : Nat) (rest : List Nat) : Step Unit :=
  if byte = 0x5C then escapeStep rest else passedChar byte 0

/-- The raw form has codes only; another backslash stands for itself, together with what follows. -/
def rawStep (byte : Nat) (rest : List Nat) : Step Unit :=
  match byte, rest with
  | 0x5C, 0x75 :: digits => codeStep 4 digits
  | 0x5C, 0x55 :: digits => codeStep 8 digits
  | 0x5C, second :: _ => .passed ['\\', Char.ofNat second] 1 ()
  | _, _ => passedChar byte 0

end SignOn.Charset.Escaped
