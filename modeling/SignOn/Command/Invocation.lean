import SignOn.Command.Options
import SignOn.Output

/-!
What a command line asks for: the version, help, or one of the commands under the global options.
Of an option that is given more than once the last one counts.
-/

namespace SignOn.Command

structure UrlQuery where
  name : String
  scheme : String := "http"
  server : String := "localhost"
  port : Int := 80
  guarded : Bool := false
  scripted : Bool := false

inductive Task where
  | clients
  | check
  | url (query : UrlQuery)

structure Settings where
  configPath : Option String := none
  json : Bool := false
  plain : Bool := false
  quiet : Bool := false
  verbose : Bool := false

/-- JSON prevails over plain output. -/
def Settings.style (settings : Settings) : OutputStyle :=
  { format := if settings.json then some .json else if settings.plain then some .plain else none,
    quiet := settings.quiet, verbose := settings.verbose }

inductive Invocation where
  | version
  | help
  | run (settings : Settings) (task : Task)

inductive GlobalKey where
  | config
  | json
  | plain
  | quiet
  | verbose
  | version
  | help
deriving DecidableEq

def globalSpecs : List (OptionSpec GlobalKey) :=
  [{ key := .version, long := "--version" },
    { key := .config, long := "--config", short := some 'c', takesValue := true },
    { key := .json, long := "--json" },
    { key := .plain, long := "--plain" },
    { key := .quiet, long := "--quiet", short := some 'q' },
    { key := .verbose, long := "--verbose", short := some 'v' },
    { key := .help, long := "--help" }]

def Settings.apply (settings : Settings) (given : Given GlobalKey) : Settings :=
  match given.key with
  | .config => { settings with configPath := given.value }
  | .json => { settings with json := true }
  | .plain => { settings with plain := true }
  | .quiet => { settings with quiet := true }
  | .verbose => { settings with verbose := true }
  | .version => settings
  | .help => settings

inductive UrlKey where
  | scheme
  | host
  | port
  | guarded
  | scripted
  | help
deriving DecidableEq

def urlSpecs : List (OptionSpec UrlKey) :=
  [{ key := .scheme, long := "--scheme", takesValue := true },
    { key := .host, long := "--host", takesValue := true },
    { key := .port, long := "--port", takesValue := true },
    { key := .guarded, long := "--protected" },
    { key := .scripted, long := "--ajax" },
    { key := .help, long := "--help" }]

def UrlQuery.apply (query : UrlQuery) (given : Given UrlKey) : Except UsageFault UrlQuery :=
  let value := given.value.getD ""
  match given.key with
  | .scheme => .ok { query with scheme := value }
  | .host => .ok { query with server := value }
  | .port =>
    match Numeral.read value with
    | .ok port => .ok { query with port }
    | .error _ => .error (.notNumber value)
  | .guarded => .ok { query with guarded := true }
  | .scripted => .ok { query with scripted := true }
  | .help => .ok query

def UrlQuery.applyAll (query : UrlQuery) : List (Given UrlKey) → Except UsageFault UrlQuery
  | [] => .ok query
  | given :: rest => do (← query.apply given).applyAll rest

def lastOfEach {κ : Type} [DecidableEq κ] : List (Given κ) → List (Given κ)
  | [] => []
  | given :: rest =>
    if rest.any (·.key == given.key) then lastOfEach rest else given :: lastOfEach rest

def helpSpecs : List (OptionSpec Unit) := [{ key := (), long := "--help" }]

def readBare (settings : Settings) (task : Task) (arguments : List String) :
    Except UsageFault Invocation := do
  let (given, others) ← scan helpSpecs true none arguments
  if ! given.isEmpty then pure .help
  else
    match others with
    | [] => pure (.run settings task)
    | extra :: _ => .error (.extraArgument extra)

def readUrl (settings : Settings) (arguments : List String) : Except UsageFault Invocation := do
  let (given, others) ← scan urlSpecs true none arguments
  if given.any (·.key == .help) then pure .help
  else
    match others with
    | [] => .error .noName
    | name :: extras => do
      let query ← UrlQuery.applyAll { name } (lastOfEach given)
      match extras with
      | [] => pure (.run settings (.url query))
      | extra :: _ => .error (.extraArgument extra)

def eager? (given : List (Given GlobalKey)) : Option Invocation :=
  given.findSome? fun one =>
    match one.key with
    | .version => some .version
    | .help => some .help
    | _ => none

def readUnknown (name : String) (arguments : List String) : Except UsageFault Invocation := do
  let (given, _) ← scan globalSpecs false none arguments
  match eager? given with
  | some invocation => pure invocation
  | none => .error (.unknownCommand name)

/-- What the arguments of a command line ask for. -/
def Invocation.ofArguments (arguments : List String) : Except UsageFault Invocation := do
  let (given, others) ← scan globalSpecs false none arguments
  match eager? given with
  | some invocation => pure invocation
  | none =>
    let settings := given.foldl Settings.apply {}
    match others with
    | [] => .error .noCommand
    | "clients" :: rest => readBare settings .clients rest
    | "check" :: rest => readBare settings .check rest
    | "url" :: rest => readUrl settings rest
    | name :: _ => readUnknown name others

end SignOn.Command
