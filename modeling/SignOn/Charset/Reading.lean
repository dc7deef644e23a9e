/-!
Reading a text whose characters take one byte or several. One step says what the bytes at the front
mean; a text is read step by step, with a mark at each stretch of bytes that stands for nothing.
-/

namespace SignOn.Charset

abbrev Reading := List (Option Char)

inductive Step (State : Type) where
  | passed (chars : List Char) (beyond : Nat) (next : State)
  | broken (beyond : Nat)
  | short

/-- The text from a state on. The number counts bytes that were read ahead and are to be passed. -/
def readSteps {State : Type} (step : State → Nat → List Nat → Step State) :
    State → Nat → List Nat → Reading
  | _, _, [] => []
  | state, ahead + 1, _ :: rest => readSteps step state ahead rest
  | state, 0, byte :: rest =>
    match step state byte rest with
    | .passed chars beyond next => chars.map some ++ readSteps step next beyond rest
    | .broken beyond => none :: readSteps step state beyond rest
    | .short => [none]

def unfinishedSteps {State : Type} (step : State → Nat → List Nat → Step State) :
    State → Nat → List Nat → Nat
  | _, _, [] => 0
  | state, ahead + 1, _ :: rest => unfinishedSteps step state ahead rest
  | state, 0, byte :: rest =>
    match step state byte rest with
    | .passed _ beyond next => unfinishedSteps step next beyond rest
    | .broken beyond => unfinishedSteps step state beyond rest
    | .short => rest.length + 1

def readPlain (step : Nat → List Nat → Step Unit) (bytes : List Nat) : Reading :=
  readSteps (fun _ => step) () 0 bytes

def passedChar (code beyond : Nat) : Step Unit := .passed [Char.ofNat code] beyond ()

def passedOrBroken (beyond : Nat) : Option Char → Step Unit
  | some c => .passed [c] beyond ()
  | none => .broken 0

def pairStep (find : Nat → Nat → Option Char) (lead : Nat) (rest : List Nat) : Step Unit :=
  if lead < 0x80 then passedChar lead 0
  else
    match rest with
    | [] => .short
    | trail :: _ => passedOrBroken 1 (find lead trail)

def lowCode (lead trail : Nat) : Nat := (lead ^^^ 0x80) * 256 + (trail ^^^ 0x80)

end SignOn.Charset
