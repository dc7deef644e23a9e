import SignOn.Failure
import SignOn.Files.Host
import SignOn.Json.Reader
import SignOn.Json.Writer
import SignOn.Settings

/-!
The configuration file: where it is, how it is read and how it is saved. An explicit path comes
first, then the path in the environment, then the file in the working directory. The callback URL
in the environment overrides the one in the file.

The packages that read JSON into a configuration, and make JSON of one, are parameters. What they
are taken to do is written down as `parse` and `dumpWithin`.
-/

namespace SignOn.ConfigFile

/-- Why a text describes no configuration: it is no JSON, holds an integer of too many digits, has
not the shape of one, or made the reader raise an exception that is no value error. -/
inductive Unread where
  | malformed (reason : String)
  | oversized (reason : String)
  | misshapen (issues : List Issue)
  | escaped (exception : String)

def Unread.failure (path : String) : Unread → Failure
  | .malformed reason => .config (.malformed path reason)
  | .oversized reason => .config (.oversized path reason)
  | .misshapen issues => .config (.misshapen path issues)
  | .escaped exception => .escaped exception

/-- Reads the text of a file. -/
abbrev Reader := String → Except Unread ClientsConfig

/-- Makes the value that is saved of a configuration, or raises an exception of some name. -/
abbrev Dumper := ClientsConfig → Except String Value

def fileName : String := "handshake.json"

def pathVariable : String := "HANDSHAKE_CONFIG"

def callbackVariable : String := "HANDSHAKE_CALLBACK_URL"

def defaultPath (host : Host) : Except Failure Path :=
  if host.files.isDirectory host.workingDirectory then
    .ok { root := .rooted, segments := host.workingDirectory ++ [fileName] }
  else .error (.file .missing)

/-- Where the configuration is. -/
def locate (host : Host) (path : Option String) : Except Failure Path :=
  match path, host.nonEmptyValueOf? pathVariable with
  | some path, _ => host.expand (.ofString path)
  | none, some path => host.expand (.ofString path)
  | none, none => defaultPath host

def ofBytes (read : Reader) (path : String) (bytes : List UInt8) : Except Failure ClientsConfig :=
  match Host.textOf bytes with
  | none => .error (.config (.undecodable path))
  | some text => (read text).mapError (Unread.failure path)

/-- The configuration with the callback URL of the environment, where that is set. -/
def withOverride (host : Host) (config : ClientsConfig) : ClientsConfig :=
  match host.nonEmptyValueOf? callbackVariable with
  | none => config
  | some url => { config with callbackUrl := some url }

def loadFrom (read : Reader) (host : Host) (path : Path) : Except Failure ClientsConfig :=
  match host.read? path with
  | .error fault => .error (.file fault)
  | .ok none => .error (.config (.fileNotFound path.text))
  | .ok (some bytes) => (ofBytes read path.text bytes).map (withOverride host)

def load (read : Reader) (host : Host) (path : Option String) : Except Failure ClientsConfig := do
  loadFrom read host (← locate host path)

/-- The text of the file that holds a value. -/
def textOf (value : Value) : String := Json.render .ascii value ++ "\n"

/-- Saves a configuration; a tilde in the path is a name like any other. -/
def save (dump : Dumper) (host : Host) (config : ClientsConfig) (path : String) :
    Except Failure Unit × Host :=
  match dump config with
  | .error exception => (.error (.escaped exception), host)
  | .ok value =>
    let (result, after) := host.write (.ofString path) (textOf value)
    (result.mapError .file, after)

def Unread.ofFault (text : List Char) (fault : Json.Fault) : Unread :=
  match fault.reason with
  | .tooLong _ => .oversized (fault.message text)
  | .tooDeep => .escaped "RecursionError"
  | .loneSurrogate => .escaped "UnicodeEncodeError"
  | _ => .malformed (fault.message text)

/-- The reader: a JSON text, whose value is checked against the fields of a configuration. -/
def parse : Reader := fun text => do
  let value ← (Json.read text.toList).mapError (Unread.ofFault text.toList)
  match ClientsConfig.ofValue value with
  | .invalid issues => .error (.misshapen issues)
  | .valid config => .ok config

/-- The dumper, which follows the values of extra fields down to some level. -/
def dumpWithin (levels : Nat) : Dumper := fun config =>
  if config.clients.all fun settings => settings.extras.all fun extra => extra.2.depth ≤ levels then
    .ok config.dump
  else .error "ValueError"

/-- How many levels the dumper follows. -/
def dumpLevels : Nat := 255

end SignOn.ConfigFile
