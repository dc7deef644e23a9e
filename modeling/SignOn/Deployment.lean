import SignOn.Registry
import SignOn.Secret
import SignOn.Settings

/-!
From settings to clients. Each entry of a configuration becomes a client: its type names the
handler, its sources are resolved, its lists become generators and its users an authenticator. The
clients of a configuration are then registered together.
-/

namespace SignOn

/-- The kinds of handler that settings can ask for. A scripted one cannot be built from settings. -/
inductive HandlerType where
  | form
  | basic
  | oauth2
  | scripted
deriving DecidableEq

def builtInTypes : Entries HandlerType := [("form", .form), ("basic", .basic), ("oauth2", .oauth2)]

def HandlerType.typeName : HandlerType → String
  | .form => (Handler.form {}).typeName
  | .basic => (Handler.basic {}).typeName
  | .oauth2 => (Handler.oauth2 {}).typeName
  | .scripted => (Handler.scripted {}).typeName

/-- An empty text says no more than an absent one. -/
def nonEmpty : Option String → Option String
  | some "" => none
  | other => other

def resolveOptional (host : Host) (source : Option String) : Except Failure (Option String) :=
  match nonEmpty source with
  | none => .ok none
  | some source => do pure (some (← resolveSecret host source))

def resolveUsers (host : Host) : Entries String → Except Failure (Entries String)
  | [] => .ok []
  | (user, source) :: rest => do
    let password ← resolveSecret host source
    pure ((user, password) :: (← resolveUsers host rest))

namespace ClientSettings

def handler (host : Host) (settings : ClientSettings) : HandlerType → Except Failure Handler
  | .form =>
    .ok (.form { loginUrl := settings.loginUrl, usernameParameter := settings.usernameParameter,
                 passwordParameter := settings.passwordParameter })
  | .basic => .ok (.basic { realm := settings.realm })
  | .oauth2 => do
    let clientId ← resolveOptional host settings.clientIdSource
    let clientSecret ← resolveOptional host settings.clientSecretSource
    pure (.oauth2
      { authorizationUrl := settings.authorizationUrl, tokenUrl := settings.tokenUrl,
        userinfoUrl := settings.userinfoUrl, clientId, clientSecret, scopes := settings.scopes,
        usesProofKey := settings.usesProofKey, idAttribute := settings.idAttribute })
  | .scripted => .error (.config (.notConfigurable HandlerType.scripted.typeName))

def roleSeparator : String := ","

def generators (settings : ClientSettings) : List Generator :=
  (if settings.defaultRoles.isEmpty && settings.defaultPermissions.isEmpty then []
    else [.defaults settings.defaultRoles settings.defaultPermissions]) ++
  (if settings.roleAttributes.isEmpty then []
    else [.fromAttributes settings.roleAttributes [] roleSeparator])

def sortedNames (types : Entries HandlerType) : List String :=
  (types.map (·.1)).mergeSort fun a b => decide (a ≤ b)

/-- The client that the settings describe. -/
def build (host : Host) (types : Entries HandlerType) (settings : ClientSettings) :
    Except Failure Client :=
  match types.get? settings.type with
  | none => .error (.config (.unknownType settings.type (sortedNames types)))
  | some type => do
    let handler ← settings.handler host type
    let users ← resolveUsers host settings.users
    pure
      { handler, givenName := nonEmpty settings.name,
        callbackUrl := nonEmpty settings.callbackUrl, contextual := settings.contextual,
        includesName := settings.includesName, generators := settings.generators,
        authenticator := if users.isEmpty then none else some (.passwords users),
        takesAttached := ! users.isEmpty }

end ClientSettings

namespace ClientsConfig

def buildAll (host : Host) (types : Entries HandlerType) :
    List ClientSettings → Except Failure (List Client)
  | [] => .ok []
  | settings :: rest => do
    let client ← settings.build host types
    pure (client :: (← buildAll host types rest))

/-- The registry of a configuration, with the records of the registrations on the way. -/
def deploy (host : Host) (config : ClientsConfig) : Except Failure Registry × List LogRecord :=
  match buildAll host builtInTypes config.clients with
  | .error failure => (.error failure, [])
  | .ok clients =>
    let (registry, records) := Registry.create config.callbackUrl clients config.defaultClient
    (registry.mapError .config, records)

end ClientsConfig

end SignOn
