import SignOn.Outcome
import SignOn.Profile
import SignOn.Validation

/-!
Everything that can go wrong, by cause. One function words the causes that carry a message, and each
cause belongs to a category, which fixes the exit code of a command that ends with it.
-/

namespace SignOn

inductive Category where
  | general
  | usage
  | credentials
  | action
  | notFound
  | provider
  | config
deriving DecidableEq

def Category.exitCode : Category → Nat
  | .general => 1
  | .usage => 2
  | .credentials => 3
  | .action => 3
  | .notFound => 4
  | .provider => 6
  | .config => 1

/-- What an identity provider did instead of answering well. -/
inductive ProviderFault where
  | status (code : Int) (text : String)
  | transport (reason : String)
  | notJson
  | notObject

/-- Why no identity came of a conversation with the provider. -/
inductive ProviderFailure where
  | call (method url : String) (fault : ProviderFault)
  | noAccessToken
  | noIdentifier (field : String)

def ProviderFailure.message : ProviderFailure → String
  | .call method url fault =>
    method ++ " " ++ url ++
      (match fault with
        | .status code text => " failed with status " ++ Value.intText code ++ ": " ++ text
        | .transport reason => " failed: " ++ reason
        | .notJson => " returned invalid JSON"
        | .notObject => " returned a non-object JSON payload")
  | .noAccessToken => "Token response missing 'access_token' field"
  | .noIdentifier field => "Userinfo response missing '" ++ field ++ "' field"

inductive ConfigFailure where
  | duplicateName (name : String)
  | defaultNotRegistered (name : String)
  | unknownType (type : String) (known : List String)
  | notConfigurable (handler : String)
  | variableNotSet (name source : String)
  | secretNotFound (path source : String)
  | unknownSource (source : String)
  | fileNotFound (path : String)
  | malformed (path reason : String)
  | oversized (path reason : String)
  | misshapen (path : String) (issues : List Issue)
  | undecodable (path : String)

def listing (names : List String) : String :=
  if names.isEmpty then "(none)" else ", ".intercalate names

/-- The wording. For a misshapen or undecodable file it ends after the path, because the details
are data. -/
def ConfigFailure.message : ConfigFailure → String
  | .duplicateName name =>
    "Duplicate client name '" ++ name ++
      "': clients sharing a name corrupt each other's session state"
  | .defaultNotRegistered name => "Default client '" ++ name ++ "' is not registered"
  | .unknownType type known =>
    "Unknown client type '" ++ type ++ "'. Available types: " ++ listing known
  | .notConfigurable handler => handler ++ " cannot be built from settings"
  | .variableNotSet name source =>
    "Environment variable '" ++ name ++ "' is not set (source: " ++ source ++ ")"
  | .secretNotFound path source =>
    "Secret file not found: " ++ path ++ " (source: " ++ source ++ ")"
  | .unknownSource source => "Unknown secret source format: " ++ source
  | .fileNotFound path => "Configuration file not found: " ++ path
  | .malformed path reason => "Invalid configuration at " ++ path ++ ": " ++ reason
  | .oversized path reason => "Invalid configuration at " ++ path ++ ": " ++ reason
  | .misshapen path _ => "Invalid configuration at " ++ path ++ ": "
  | .undecodable path => "Invalid configuration at " ++ path ++ ": "

/-- What the file system answers to an operation it cannot carry out. -/
inductive FileFault where
  | missing
  | occupied
  | notDirectory
  | isDirectory
  | nameTooLong
  | busy
  | badName
deriving DecidableEq

inductive Failure where
  | needsCallback (client : String)
  | misconfigured (client : String) (problems : List String)
  | notReady
  | interrupted (action : HttpAction)
  | unknownClient (name : String) (available : List String)
  | unnamedRequest
  | provider (failure : ProviderFailure)
  | config (failure : ConfigFailure)
  | unsplittable (reached : Profile)
  | invalid (issues : List Issue)
  /-- A handler answered a deferred redirect with something that is no redirect. -/
  | noContinuation
  | undecodableSecret
  | unknownUser
  | noClientThere
  | file (fault : FileFault)
  /-- A package or the standard library raised an exception of this name that nothing here
  catches. -/
  | escaped (exception : String)

namespace Failure

def category? : Failure → Option Category
  | .needsCallback _ => some .usage
  | .misconfigured _ _ => some .usage
  | .notReady => some .usage
  | .interrupted _ => some .action
  | .unknownClient _ _ => some .notFound
  | .unnamedRequest => some .notFound
  | .provider _ => some .provider
  | .config _ => some .config
  | .unsplittable _ => none
  | .invalid _ => none
  | .noContinuation => none
  | .undecodableSecret => none
  | .unknownUser => none
  | .noClientThere => none
  | .file _ => none
  | .escaped _ => none

/-- The message of a failure that belongs to a category; the others are defects and have none. -/
def message : Failure → String
  | .needsCallback client =>
    "Client '" ++ client ++ "' redirects indirectly and needs a callback URL"
  | .misconfigured client problems =>
    "Client '" ++ client ++ "' is misconfigured: " ++ "; ".intercalate problems
  | .notReady => "not ready"
  | .interrupted action => action.message
  | .unknownClient name available =>
    "No client named '" ++ name ++ "'. Available clients: " ++ listing available
  | .unnamedRequest => "Request has no 'client_name' parameter"
  | .provider failure => failure.message
  | .config failure => failure.message
  | .unsplittable _ => ""
  | .invalid _ => ""
  | .noContinuation => ""
  | .undecodableSecret => ""
  | .unknownUser => ""
  | .noClientThere => ""
  | .file _ => ""
  | .escaped _ => ""

end Failure

end SignOn
