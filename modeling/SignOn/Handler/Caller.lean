import SignOn.Credentials
import SignOn.Exchange

/-!
What a protocol handler sees of the client that calls it: its name, which keys the session, and its
callback URL.
-/

namespace SignOn

structure Caller where
  name : String
  callbackUrl : Option String
  contextual : Bool

/-- The callback URL, completed with the origin of the request where the client asks for that. -/
def Caller.callbackFor (caller : Caller) (origin : Origin) : Option String :=
  caller.callbackUrl.map fun url =>
    if caller.contextual then Url.prependHost url origin else url

def Credentials.attachedOrNamed (credentials : Credentials) : Option Profile :=
  match credentials.profile, credentials.evidence with
  | some profile, _ => some profile
  | .none, .password username _ => some (Profile.ofUsername username)
  | .none, _ => .none

end SignOn
