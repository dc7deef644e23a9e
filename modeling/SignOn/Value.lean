import SignOn.Number.Binary64
import SignOn.Text.Quoted

/-!
Dynamic values: what a session remembers, what a profile says about a user, and what a settings
file holds. Tables keep the order in which their entries were written.
-/

namespace SignOn

inductive Value where
  | null
  | bool (b : Bool)
  | int (n : Int)
  | float (x : Binary64)
  | text (s : String)
  | list (items : List Value)
  | tuple (items : List Value)
  | set (items : List Value)
  | table (entries : List (String × Value))

namespace Value

def boolText (b : Bool) : String := if b then "True" else "False"

/-- The digits of an integer, however many. An interpreter that writes no more than 4300 of them
would refuse longer ones, which no reader of values here lets in. -/
def intText (n : Int) : String :=
  if n < 0 then "-" ++ Nat.repr n.natAbs else Nat.repr n.natAbs

/-- What stands between the brackets of a tuple; one item alone is followed by a comma. -/
def tupleBody : List String → String
  | [one] => one ++ ","
  | many => ", ".intercalate many

mutual

def literal : Value → String
  | .null => "None"
  | .bool b => boolText b
  | .int n => intText n
  | .float x => x.text
  | .text s => Text.quote s
  | .list items => "[" ++ ", ".intercalate (literals items) ++ "]"
  | .tuple items => "(" ++ tupleBody (literals items) ++ ")"
  | .set [] => "set()"
  | .set items => "\x7b" ++ ", ".intercalate (literals items) ++ "\x7d"
  | .table entries => "\x7b" ++ ", ".intercalate (entryLiterals entries) ++ "\x7d"

def literals : List Value → List String
  | [] => []
  | item :: rest => literal item :: literals rest

def entryLiterals : List (String × Value) → List String
  | [] => []
  | (key, item) :: rest => (Text.quote key ++ ": " ++ literal item) :: entryLiterals rest

end

/-- The value as text: a text is itself, everything else its literal. -/
def display : Value → String
  | .text s => s
  | other => other.literal

def isBlank : Value → Bool
  | .null => true
  | other => Text.isBlank other.display

/-- The whole number that a value is equal to. Truth values count as one and zero. -/
def whole? : Value → Option Int
  | .bool b => some (if b then 1 else 0)
  | .int n => some n
  | .float x => x.wholeNumber?
  | _ => none

/-- Equality of values without parts. A number that is not a number differs even from itself. -/
def sameAtom (a b : Value) : Bool :=
  match a.whole?, b.whole? with
  | some n, some m => n == m
  | none, none =>
    match a, b with
    | .null, .null => true
    | .text s, .text t => s == t
    | .float x, .float y => x == y && ! x.isNan
    | _, _ => false
  | _, _ => false

mutual

def same : Value → Value → Bool
  | .list a, .list b => sameItems a b
  | .tuple a, .tuple b => sameItems a b
  | .set a, .set b => sameItems a b
  | .table a, .table b => sameEntries a b
  | a, b => sameAtom a b

def sameItems : List Value → List Value → Bool
  | [], [] => true
  | a :: as, b :: bs => same a b && sameItems as bs
  | _, _ => false

def sameEntries : List (String × Value) → List (String × Value) → Bool
  | [], [] => true
  | (k, a) :: as, (l, b) :: bs => k == l && same a b && sameEntries as bs
  | _, _ => false

end

mutual

/-- How many levels there are of the value and the values within it. -/
def depth : Value → Nat
  | .list items => itemsDepth items + 1
  | .tuple items => itemsDepth items + 1
  | .set items => itemsDepth items + 1
  | .table entries => entriesDepth entries + 1
  | _ => 1

def itemsDepth : List Value → Nat
  | [] => 0
  | item :: rest => max (depth item) (itemsDepth rest)

def entriesDepth : List (String × Value) → Nat
  | [] => 0
  | (_, item) :: rest => max (depth item) (entriesDepth rest)

end

def distinct : List Value → List Value
  | [] => []
  | item :: rest => item :: (distinct rest).filter (! same item ·)

def ofItems (items : List Value) : Value := .set (distinct items)

end Value

end SignOn
