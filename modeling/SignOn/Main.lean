import SignOn.Command.Run
import SignOn.Terminal.Screen

/-!
The program: it looks at its surroundings, carries out one command line, and writes what that says.
-/

namespace SignOn.Main

def knownVariables : List String :=
  [ConfigFile.pathVariable, ConfigFile.callbackVariable, "HOME", "NO_COLOR", "TERM", "COLORTERM",
    "COLUMNS", "LINES"]

def lookUp (host : Host) (name : String) : IO Host := do
  match ← IO.getEnv name with
  | none => pure host
  | some value => pure { host with environment := host.environment.put name value }

def readIn (host : Host) (path : Path) : IO Host := do
  let bytes ← (some <$> IO.FS.readBinFile path.text) <|> pure none
  match bytes with
  | none => pure host
  | some bytes => pure (host.plant path (.file bytes.toList))

def readSource (host : Host) (source : String) : IO Host :=
  match SecretSource.ofString? source with
  | some (.variable name) => lookUp host name
  | some (.file path) =>
    match host.expand (.ofString path) with
    | .ok path => readIn host path
    | .error _ => pure host
  | _ => pure host

def sources (settings : ClientSettings) : List String :=
  settings.clientIdSource.toList ++ settings.clientSecretSource.toList ++
    settings.users.map (·.2)

def surroundings (configPath : Option String) : IO Host := do
  let here := (Path.ofString (← IO.currentDir).toString).segments
  let bare : Host := { workingDirectory := here }
  let start := bare.plant { root := .rooted, segments := here } .directory
  let host ← knownVariables.foldlM lookUp start
  match ConfigFile.locate host configPath with
  | .error _ => pure host
  | .ok path => do
    let host ← readIn host path
    match ConfigFile.loadFrom ConfigFile.parse host path with
    | .error _ => pure host
    | .ok config => (config.clients.flatMap sources).foldlM readSource host

def configPath (arguments : List String) : Option String :=
  match Command.Invocation.ofArguments arguments with
  | .ok (.run settings _) => settings.configPath
  | _ => none

def randomness : IO Entropy := do
  let bytes := (← IO.getRandomBytes 96).toList
  pure { byte := fun n => (bytes[n]?).getD 0, position := 0 }

def usage : String :=
  "Usage: handshake [OPTIONS] COMMAND [ARGS]...\n\n" ++
    "  clients   List the configured clients.\n" ++
    "  check     Validate every client's settings.\n" ++
    "  url NAME  Show where an anonymous request would be sent.\n"

end SignOn.Main

open SignOn SignOn.Main in
def main (arguments : List String) : IO UInt32 := do
  let stdout ← IO.getStdout
  let stderr ← IO.getStderr
  let host ← surroundings (configPath arguments)
  match Command.run Terminal.toolkit host (← stdout.isTty) (← randomness) arguments with
  | .error _ =>
    stderr.putStr "The command could not be carried out.\n"
    pure 1
  | .ok .help =>
    stdout.putStr usage
    pure 0
  | .ok (.misused _) =>
    stderr.putStr usage
    pure 2
  | .ok (.ended ended) =>
    stdout.putStr ended.written.stdout
    stderr.putStr ended.written.stderr
    pure (UInt32.ofNat ended.exitCode)
