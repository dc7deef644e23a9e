import SignOn.Files.Host

/-!
Secrets are named by their source, so that a settings file never holds one: a variable of the
environment, a file whose text is stripped, or, for trials, the secret itself.
-/

namespace SignOn

inductive SecretSource where
  | variable (name : String)
  | file (path : String)
  | literal (secret : String)

namespace SecretSource

def after? (marker text : String) : Option String :=
  if marker.toList.isPrefixOf text.toList then
    some (String.ofList (text.toList.drop marker.length))
  else none

def ofString? (text : String) : Option SecretSource :=
  match after? "env:" text, after? "file:" text, after? "literal:" text with
  | some name, _, _ => some (.variable name)
  | _, some path, _ => some (.file path)
  | _, _, some secret => some (.literal secret)
  | none, none, none => none

def readSecret (host : Host) (path : Path) (source : String) : Except Failure String :=
  match host.read? path with
  | .error fault => .error (.file fault)
  | .ok none => .error (.config (.secretNotFound path.text source))
  | .ok (some bytes) =>
    match Host.textOf bytes with
    | some text => .ok (Text.strip text)
    | none => .error .undecodableSecret

end SecretSource

/-- The secret that a source names on a host. -/
def resolveSecret (host : Host) (source : String) : Except Failure String :=
  match SecretSource.ofString? source with
  | none => .error (.config (.unknownSource source))
  | some (.literal secret) => .ok secret
  | some (.variable name) =>
    match host.valueOf? name with
    | some secret => .ok secret
    | none => .error (.config (.variableNotSet name source))
  | some (.file path) => do
    SecretSource.readSecret host (← host.expand (.ofString path)) source

end SignOn
