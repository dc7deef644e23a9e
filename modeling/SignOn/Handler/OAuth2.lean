import SignOn.Bytes.Sha256
import SignOn.Handler.Caller

/-!
The OAuth2 authorization code grant. A redirect to the provider carries a random state and, with
proof keys, the hash of a random verifier; both are kept in the session for one use. The callback is
believed only if it returns that state. The code is then exchanged for an access token, and the
token for what the provider knows of the user.
-/

namespace SignOn

structure OAuth2Login where
  authorizationUrl : Option String := none
  tokenUrl : Option String := none
  userinfoUrl : Option String := none
  clientId : Option String := none
  clientSecret : Option String := none
  scopes : List String := []
  usesProofKey : Bool := true
  idAttribute : String := "sub"

namespace OAuth2Login

def stateKey (client : String) : String := client ++ "$state"

def verifierKey (client : String) : String := client ++ "$codeVerifier"

def challengeOf (verifier : String) : String :=
  Base64.encodeUrl (Sha256.hash (Utf8.encode verifier))

/-- A field that is left out when its value is absent or empty. -/
def present (name : String) : Option String → Percent.Fields
  | none => []
  | some value => if value = "" then [] else [(name, value)]

def authorizationFields (oauth : OAuth2Login) (state : String)
    (redirectUri verifier : Option String) : Percent.Fields :=
  [("response_type", "code"), ("state", state)] ++ present "client_id" oauth.clientId ++
    present "redirect_uri" redirectUri ++
    (if oauth.scopes.isEmpty then [] else [("scope", " ".intercalate oauth.scopes)]) ++
    (match verifier with
      | none => []
      | some verifier =>
        [("code_challenge", challengeOf verifier), ("code_challenge_method", "S256")])

def location (oauth : OAuth2Login) (fields : Percent.Fields) : String :=
  let url := oauth.authorizationUrl.getD ""
  url ++ (if '?' ∈ url.toList then "&" else "?") ++ Percent.encodeForm fields

def verifierOf (token : String) : String := String.ofList (token.toList.take 128)

def drawVerifier (oauth : OAuth2Login) (client : String) : Exchange (Option String) :=
  if oauth.usesProofKey then do
    let token ← Exchange.drawToken 64
    let verifier := verifierOf token
    Exchange.setSession (verifierKey client) (.text verifier)
    pure (some verifier)
  else pure none

def redirect (oauth : OAuth2Login) (caller : Caller) (request : Request) :
    Exchange RedirectAction := do
  let state ← Exchange.drawToken 32
  Exchange.setSession (stateKey caller.name) (.text state)
  let verifier ← oauth.drawVerifier caller.name
  pure (.redirect (oauth.location
    (oauth.authorizationFields state (caller.callbackFor request.origin) verifier)))

def forget (client : String) : Exchange Unit := do
  Exchange.clearSession (stateKey client)
  Exchange.clearSession (verifierKey client)

def stateMatches (kept : Value) (returned : String) : Bool :=
  ! kept.isBlank && kept.display == returned

def keptVerifier : Value → Except Failure (Option String)
  | .null => .ok none
  | .text verifier => .ok (some verifier)
  | _ => .error (.invalid [⟨[.key "code_verifier"], .notText⟩])

/-- The credentials of a callback. An error of the provider and a code each use up what the session
kept; a callback with neither leaves it. -/
def extract (caller : Caller) (request : Request) : Exchange (Option Credentials) :=
  let client := caller.name
  let error := request.parameter? "error"
  let code := request.parameter? "code"
  if ! Text.isAbsentOrBlank error then do
    Exchange.record .info .oauth2
      ("Client '" ++ client ++ "': provider returned error '" ++ error.getD "" ++ "': " ++
        (request.parameter? "error_description").getD "")
    forget client
    pure none
  else if Text.isAbsentOrBlank code then pure none
  else do
    let kept ← Exchange.sessionValue (stateKey client)
    let verifier ← Exchange.sessionValue (verifierKey client)
    forget client
    let returned := (request.parameter? "state").getD ""
    if stateMatches kept returned then do
      let verifier ← Exchange.lift (keptVerifier verifier)
      let redirectUri := caller.callbackFor request.origin
      pure (some { evidence := .code (code.getD "") (some returned) redirectUri verifier })
    else do
      Exchange.record .warning .oauth2
        ("Client '" ++ client ++ "': OAuth2 state mismatch, ignoring code")
      pure none

def problems (oauth : OAuth2Login) : List String :=
  let lacking (value : Option String) (problem : String) : List String :=
    if value.getD "" = "" then [problem] else []
  lacking oauth.authorizationUrl "OAuth2 requires 'authorization_url'" ++
    lacking oauth.tokenUrl "OAuth2 requires 'token_url'" ++
    lacking oauth.userinfoUrl "OAuth2 requires 'userinfo_url'" ++
    lacking oauth.clientId "OAuth2 requires a client id"

inductive Unanswered where
  | fault (fault : ProviderFault)
  | escaped (exception : String)

def Unanswered.ofException : HttpException → Unanswered
  | .http _ message => .fault (.transport message)
  | .value _ => .fault .notJson
  | .other name => .escaped name

def isSuccess (status : Int) : Bool := 200 ≤ status && status < 300

def readJson : Except HttpException Value → Except Unanswered (Entries Value)
  | .error exception => .error (.ofException exception)
  | .ok (.table entries) => .ok entries
  | .ok _ => .error (.fault .notObject)

/-- Reads a response without success, of which the text is told. Nothing is caught here that is
raised while the text is read. -/
def readError (status : Int) : Except HttpException String → Except Unanswered (Entries Value)
  | .error exception => .error (.escaped exception.name)
  | .ok text => .error (.fault (.status status text))

def readResponse (response : HttpResponse) : Except Unanswered (Entries Value) :=
  if isSuccess response.status then readJson response.json
  else readError response.status response.text

def readAnswer : Except HttpException HttpResponse → Except Unanswered (Entries Value)
  | .error exception => .error (.ofException exception)
  | .ok response => readResponse response

def isOutage : Except HttpException HttpResponse → Bool
  | .error exception => exception.isOwn
  | .ok response =>
    match isSuccess response.status, response.json with
    | true, .error exception => exception.isOwn
    | success, _ => ! success

def warn (request : ProviderRequest) : Exchange Unit :=
  Exchange.record .warning .oauth2
    ("Provider call " ++ request.method ++ " " ++ request.url ++ " failed")

def warnOfOutage (request : ProviderRequest) (answer : Except HttpException HttpResponse) :
    Exchange Unit :=
  if isOutage answer then warn request else pure ()

def Unanswered.report (request : ProviderRequest) : Unanswered → Failure
  | .fault blamed => .provider (.call request.method request.url blamed)
  | .escaped exception => .escaped exception

def reply (request : ProviderRequest) (answer : Except HttpException HttpResponse) :
    Except Failure (Entries Value) :=
  (readAnswer answer).mapError (Unanswered.report request)

def ask (request : ProviderRequest) : Exchange (Entries Value) := do
  let answer ← Exchange.call request
  warnOfOutage request answer
  Exchange.lift (reply request answer)

def tokenFields (oauth : OAuth2Login) (code : String) (redirectUri verifier : Option String) :
    Percent.Fields :=
  [("grant_type", "authorization_code"), ("code", code)] ++ present "redirect_uri" redirectUri ++
    present "code_verifier" verifier ++ present "client_id" oauth.clientId ++
    present "client_secret" oauth.clientSecret

def tokenRequest (oauth : OAuth2Login) (fields : Percent.Fields) : ProviderRequest :=
  { method := "POST", url := oauth.tokenUrl.getD "",
    headers := [("accept", "application/json"),
      ("content-type", "application/x-www-form-urlencoded")],
    body := Percent.encodeForm fields }

def userinfoRequest (oauth : OAuth2Login) (accessToken : String) : ProviderRequest :=
  { method := "GET", url := oauth.userinfoUrl.getD "",
    headers := [("accept", "application/json"), ("authorization", "Bearer " ++ accessToken)],
    body := "" }

def scopeWords : Option Value → List String
  | some (.text scope) => Text.words scope
  | _ => []

def profileOf (oauth : OAuth2Login) (accessToken : Value) (token userinfo : Entries Value) :
    Except ProviderFailure Profile :=
  match (userinfo.get? oauth.idAttribute).getD .null with
  | .null => .error (.noIdentifier oauth.idAttribute)
  | identifier =>
    let profile : Profile := { id := identifier.display, attributes := userinfo }
    .ok (((profile.addAttribute "access_token" accessToken).addAttribute "refresh_token"
      ((token.get? "refresh_token").getD .null)).addPermissions (scopeWords (token.get? "scope")))

def buildProfile (oauth : OAuth2Login) (credentials : Credentials) : Exchange (Option Profile) :=
  match credentials.evidence with
  | .code code _ redirectUri verifier => do
    let token ← ask (oauth.tokenRequest (oauth.tokenFields code redirectUri verifier))
    match token.get? "access_token" with
    | none => Exchange.fail (.provider .noAccessToken)
    | some accessToken => do
      let userinfo ← ask (oauth.userinfoRequest accessToken.display)
      match oauth.profileOf accessToken token userinfo with
      | .ok profile => pure (some profile)
      | .error failure => Exchange.fail (.provider failure)
  | _ => pure none

end OAuth2Login

end SignOn
