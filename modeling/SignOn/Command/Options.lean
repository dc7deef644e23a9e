import SignOn.Text.Split

/-!
Command line options. An option has a long name and perhaps a short one; it is a flag, or takes a
value, attached to it or as the next argument. Short options may be written together. Two hyphens
alone end the options.
-/

namespace SignOn.Command

structure OptionSpec (κ : Type) where
  key : κ
  long : String
  short : Option Char := none
  takesValue : Bool := false

structure Given (κ : Type) where
  key : κ
  value : Option String := none

inductive UsageFault where
  | needsValue (option : String)
  | takesNoValue (option : String)
  | unknownOption (option : String)
  | unknownCommand (name : String)
  | noCommand
  | noName
  | extraArgument (argument : String)
  | notNumber (text : String)
deriving DecidableEq

section

variable {κ : Type}

structure Awaited (κ : Type) where
  key : κ
  name : String

abbrev Read (κ : Type) := List (Given κ) × Option (Awaited κ)

def Read.put (given : Given κ) (read : Read κ) : Read κ := (given :: read.1, read.2)

def shortName (c : Char) : String := String.ofList ['-', c]

/-- Options written together behind one hyphen. A value takes up the rest of the argument. -/
def readShort (specs : List (OptionSpec κ)) : List Char → Except UsageFault (Read κ)
  | [] => .ok ([], none)
  | c :: rest =>
    match specs.find? (·.short == some c) with
    | none => .error (.unknownOption (shortName c))
    | some spec =>
      if ! spec.takesValue then (readShort specs rest).map (Read.put { key := spec.key })
      else if rest.isEmpty then .ok ([], some { key := spec.key, name := shortName c })
      else .ok ([{ key := spec.key, value := some (String.ofList rest) }], none)

def readLong (spec : OptionSpec κ) (value : Option String) : Except UsageFault (Read κ) :=
  match spec.takesValue, value with
  | true, some value => .ok ([{ key := spec.key, value := some value }], none)
  | true, none => .ok ([], some { key := spec.key, name := spec.long })
  | false, none => .ok ([{ key := spec.key }], none)
  | false, some _ => .error (.takesNoValue spec.long)

def readOption (specs : List (OptionSpec κ)) (argument : String) : Except UsageFault (Read κ) :=
  let (name, value) := Text.cut '=' argument.toList
  match specs.find? (·.long == String.ofList name) with
  | some spec => readLong spec (value.map String.ofList)
  | none =>
    if "--".toList.isPrefixOf argument.toList then .error (.unknownOption (String.ofList name))
    else readShort specs (argument.toList.drop 1)

def isOption (argument : String) : Bool :=
  "-".toList.isPrefixOf argument.toList && argument != "-"

/-- The options among the arguments, and the arguments that are none. Where options may not be
interspersed they end at the first such argument. -/
def scan (specs : List (OptionSpec κ)) (interspersed : Bool) :
    Option (Awaited κ) → List String → Except UsageFault (List (Given κ) × List String)
  | some awaited, [] => .error (.needsValue awaited.name)
  | none, [] => .ok ([], [])
  | some awaited, value :: rest => do
    let (given, others) ← scan specs interspersed none rest
    pure ({ key := awaited.key, value := some value } :: given, others)
  | none, argument :: rest =>
    if argument = "--" then .ok ([], rest)
    else if isOption argument then do
      let (given, awaited) ← readOption specs argument
      let (more, others) ← scan specs interspersed awaited rest
      pure (given ++ more, others)
    else if interspersed then do
      let (given, others) ← scan specs interspersed none rest
      pure (given, argument :: others)
    else .ok ([], argument :: rest)

end

end SignOn.Command
