import SignOn.Profile

/-!
Credentials: what a request offers as proof of identity, stamped with the client that accepted it
and, once checked, with the profile of the user. The description shows who, never the secret.
-/

namespace SignOn

inductive Evidence where
  | none
  | password (username password : String)
  | token (token : String)
  | code (code : String) (state redirectUri codeVerifier : Option String)
deriving DecidableEq

structure Credentials where
  clientName : Option String := .none
  profile : Option Profile := .none
  evidence : Evidence := .none

namespace Evidence

def typeName : Evidence → String
  | .none => "Credentials"
  | .password _ _ => "UsernamePasswordCredentials"
  | .token _ => "TokenCredentials"
  | .code _ _ _ _ => "OAuthCodeCredentials"

/-- The same evidence with its secrets blanked: password, token, code and code verifier. -/
def redacted : Evidence → Evidence
  | .none => .none
  | .password username _ => .password username ""
  | .token _ => .token ""
  | .code _ state redirectUri _ => .code "" state redirectUri .none

end Evidence

def optionalLiteral : Option String → String
  | .none => "None"
  | some text => Text.quote text

def Profile.describe (profile : Profile) : String :=
  "UserProfile(id=" ++ Text.quote profile.id ++
    ", client_name=" ++ optionalLiteral profile.clientName ++
    ", attributes=" ++ (Value.table profile.attributes).literal ++
    ", roles=" ++ (Value.list (profile.roles.map .text)).literal ++
    ", permissions=" ++ (Value.list (profile.permissions.map .text)).literal ++
    ", remember_me=" ++ Value.boolText profile.rememberMe ++ ")"

namespace Credentials

def shownEvidence : Evidence → String
  | .none => ""
  | .password username _ => ", username=" ++ Text.quote username
  | .token _ => ""
  | .code _ state redirectUri _ =>
    ", state=" ++ optionalLiteral state ++ ", redirect_uri=" ++ optionalLiteral redirectUri

def describe (credentials : Credentials) : String :=
  let profile := match credentials.profile with
    | .none => "None"
    | some profile => profile.describe
  credentials.evidence.typeName ++ "(client_name=" ++ optionalLiteral credentials.clientName ++
    ", user_profile=" ++ profile ++ shownEvidence credentials.evidence ++ ")"

end Credentials

end SignOn
