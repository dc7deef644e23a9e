import SignOn.Entries
import SignOn.Number.Numeral
import SignOn.Value

/-!
Checking dynamic values against the shape they should have. All faults of a value are collected,
each with the path to it and its kind, and reading lenient where nothing is lost: a boolean may be
written as a number or a word, a list as a tuple.
-/

namespace SignOn

inductive Place where
  | key (name : String)
  | index (n : Nat)
deriving DecidableEq

inductive Flaw where
  | missing
  | notText
  | notList
  | notTable
  | notRecord
  | notBool
  | unreadableBool
  | notInt
  | unreadableInt
  | oversizedInt
  | fractionalInt
  | endlessInt
  | notOption
  | frozen
deriving DecidableEq

structure Issue where
  path : List Place
  flaw : Flaw
deriving DecidableEq

/-- A value of the wanted shape, or everything that is wrong with what was given. -/
inductive Checked (α : Type) where
  | valid (a : α)
  | invalid (issues : List Issue)

namespace Checked

variable {α β : Type}

def flawed (flaw : Flaw) : Checked α := .invalid [⟨[], flaw⟩]

def map (f : α → β) : Checked α → Checked β
  | .valid a => .valid (f a)
  | .invalid issues => .invalid issues

/-- Puts two checks together; the faults of the first come first. -/
def both : Checked (α → β) → Checked α → Checked β
  | .valid f, .valid a => .valid (f a)
  | .valid _, .invalid issues => .invalid issues
  | .invalid issues, .valid _ => .invalid issues
  | .invalid first, .invalid second => .invalid (first ++ second)

instance : Applicative Checked where
  pure := .valid
  seq f a := both f (a ())

def within (place : Place) : Checked α → Checked α
  | .valid a => .valid a
  | .invalid issues => .invalid (issues.map fun issue => { issue with path := place :: issue.path })

def text : Value → Checked String
  | .text s => .valid s
  | _ => flawed .notText

def orNull (check : Value → Checked α) : Value → Checked (Option α)
  | .null => .valid none
  | value => (check value).map some

def truthWords : List (String × Bool) :=
  [("1", true), ("t", true), ("true", true), ("y", true), ("yes", true), ("on", true),
    ("0", false), ("f", false), ("false", false), ("n", false), ("no", false), ("off", false)]

def fitsSixtyFourBits (n : Int) : Bool :=
  let bound : Int := (Nat.pow 2 63 : Nat)
  n < bound && -bound ≤ n

def isSmall (n : Int) : Bool := n.natAbs < Nat.pow 2 63

def boolOfInt (n : Int) : Checked Bool :=
  if n = 0 then .valid false
  else if n = 1 then .valid true
  else if fitsSixtyFourBits n then flawed .unreadableBool
  else flawed .notBool

def bool : Value → Checked Bool
  | .bool b => .valid b
  | .int n => boolOfInt n
  | .float x =>
    match x.wholeNumber? with
    | some n => if isSmall n then boolOfInt n else flawed .notBool
    | none => flawed .notBool
  | .text s =>
    match truthWords.lookup (String.ofList (s.toList.map Char.toLower)) with
    | some b => .valid b
    | none => flawed .unreadableBool
  | _ => flawed .notBool

def int : Value → Checked Int
  | .int n => .valid n
  | .bool b => .valid (if b then 1 else 0)
  | .float x =>
    match x.kind with
    | .finite _ _ =>
      match x.wholeNumber? with
      | some n => if isSmall n then .valid n else flawed .oversizedInt
      | none => flawed .fractionalInt
    | _ => flawed .endlessInt
  | .text s =>
    match Numeral.read s with
    | .ok n => .valid n
    | .error .oversized => flawed .oversizedInt
    | .error .unreadable => flawed .unreadableInt
  | _ => flawed .notInt

def option (options : List (String × α)) : Value → Checked α
  | .text s =>
    match options.lookup s with
    | some a => .valid a
    | none => flawed .notOption
  | _ => flawed .notOption

def eachItem (check : Value → Checked α) : Nat → List Value → Checked (List α)
  | _, [] => .valid []
  | n, item :: rest =>
    List.cons <$> (check item).within (.index n) <*> eachItem check (n + 1) rest

def list (check : Value → Checked α) : Value → Checked (List α)
  | .list items => eachItem check 0 items
  | .tuple items => eachItem check 0 items
  | .set items => eachItem check 0 items
  | _ => flawed .notList

def eachEntry (check : Value → Checked α) : List (String × Value) → Checked (Entries α)
  | [] => .valid []
  | (key, item) :: rest =>
    (fun a others => (key, a) :: others) <$> (check item).within (.key key) <*>
      eachEntry check rest

def table (check : Value → Checked α) : Value → Checked (Entries α)
  | .table entries => eachEntry check entries
  | _ => flawed .notTable

def record (check : Entries Value → Checked α) : Value → Checked α
  | .table entries => check entries
  | _ => flawed .notRecord

def required (entries : Entries Value) (key : String) (check : Value → Checked α) : Checked α :=
  match entries.get? key with
  | some value => (check value).within (.key key)
  | none => (flawed .missing).within (.key key)

def optional (entries : Entries Value) (key : String) (default : α)
    (check : Value → Checked α) : Checked α :=
  match entries.get? key with
  | some value => (check value).within (.key key)
  | none => .valid default

end Checked

end SignOn
