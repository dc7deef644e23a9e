import SignOn.Handler.Basic
import SignOn.Handler.Form
import SignOn.Handler.OAuth2
import SignOn.Handler.Scripted

/-!
Protocol handlers: how a client reaches its identity provider, what it takes for credentials, and
how it makes a profile of them. A direct handler sends the user agent straight on; an indirect one
goes through the callback URL first.
-/

namespace SignOn

inductive Mechanism where
  | form
  | basicAuth
  | oauth
  | openid
  | saml
  | cas
  | other

def Mechanism.text : Mechanism → String
  | .form => "form"
  | .basicAuth => "basic_auth"
  | .oauth => "oauth"
  | .openid => "openid"
  | .saml => "saml"
  | .cas => "cas"
  | .other => "other"

inductive Handler where
  | form (login : FormLogin)
  | basic (login : BasicLogin)
  | oauth2 (login : OAuth2Login)
  | scripted (login : ScriptedLogin)

namespace Handler

def typeName : Handler → String
  | .form _ => "FormHandler"
  | .basic _ => "BasicAuthHandler"
  | .oauth2 _ => "OAuth2Handler"
  | .scripted _ => "ScriptedHandler"

/-- The word for the handler in settings; a scripted one has none. -/
def settingsType : Handler → String
  | .form _ => "form"
  | .basic _ => "basic"
  | .oauth2 _ => "oauth2"
  | .scripted _ => ""

def mechanism : Handler → Mechanism
  | .form _ => .form
  | .basic _ => .basicAuth
  | .oauth2 _ => .oauth
  | .scripted _ => .other

def isDirect : Handler → Bool
  | .form _ => false
  | .basic _ => true
  | .oauth2 _ => false
  | .scripted login => login.direct

/-- What is wrong with the settings of the handler; nothing when it can be used. -/
def problems : Handler → List String
  | .form login => login.problems
  | .basic _ => []
  | .oauth2 login => login.problems
  | .scripted login => login.problems

def start (handler : Handler) (client : String) : Exchange Unit := do
  match handler with
  | .scripted login => login.start
  | _ => pure ()
  if handler.problems.isEmpty then pure ()
  else Exchange.fail (.misconfigured client handler.problems)

def redirect (handler : Handler) (caller : Caller) (request : Request) : Exchange Outcome :=
  match handler with
  | .form login => pure (.redirect (login.redirect caller request))
  | .basic _ => pure (.redirect (BasicLogin.redirect caller request))
  | .oauth2 login => do pure (.redirect (← login.redirect caller request))
  | .scripted login => login.redirect

def extract (handler : Handler) (caller : Caller) (request : Request) :
    Exchange (Option Credentials) :=
  match handler with
  | .form login => pure (login.credentials request)
  | .basic login =>
    match login.credentials request with
    | .ok credentials => pure (some credentials)
    | .error challenge => Exchange.fail (.interrupted challenge)
  | .oauth2 _ => OAuth2Login.extract caller request
  | .scripted login => login.extract

def buildProfile (handler : Handler) (credentials : Credentials) : Exchange (Option Profile) :=
  match handler with
  | .form _ => pure credentials.attachedOrNamed
  | .basic _ => pure credentials.attachedOrNamed
  | .oauth2 login => login.buildProfile credentials
  | .scripted login => login.buildProfile

def returnsAttached (handler : Handler) (credentials : Credentials) : Bool :=
  match handler with
  | .form _ => credentials.profile.isSome
  | .basic _ => credentials.profile.isSome
  | .oauth2 _ => false
  | .scripted _ => false

end Handler

end SignOn
