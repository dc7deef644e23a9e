import SignOn.Authenticator
import SignOn.Authorization
import SignOn.Handler
import SignOn.LoopGuard

/-!
The authentication client: the decisions that are the same for every protocol. A redirect decision
refuses scripts, refuses a protected page after a failed attempt, and otherwise sends the user agent
to the provider or, deferring that, to the callback URL. Credentials are extracted, checked and
remembered in the loop guard. A profile is built and enriched.
-/

namespace SignOn

structure Client where
  handler : Handler
  givenName : Option String := none
  callbackUrl : Option String := none
  contextual : Bool := false
  includesName : Bool := true
  generators : List Generator := []
  authenticator : Option Authenticator := none
  /-- Whether the profile is the one that the authenticator attached, and no other. -/
  takesAttached : Bool := false

namespace Client

/-- The parameter that marks the request on which a deferred redirect is carried out. -/
def continuationParameter : String := "needs_client_redirection"

/-- The given name, or the name of the handler's type when that is blank. -/
def name (client : Client) : String :=
  match client.givenName with
  | none => client.handler.typeName
  | some given => if Text.isBlank given then client.handler.typeName else given

def guardKey (client : Client) : String := LoopGuard.key client.name

def isDirect (client : Client) : Bool := client.handler.isDirect

def caller (client : Client) : Caller :=
  { name := client.name, callbackUrl := client.callbackUrl, contextual := client.contextual }

def callbackFor (client : Client) : Option Origin → Option String
  | none => client.callbackUrl
  | some origin => client.caller.callbackFor origin

def withCallbackUrl (client : Client) (callbackUrl : Option String) : Client :=
  { client with callbackUrl }

def describe (client : Client) : String :=
  "AuthenticationClient(name=" ++ Text.quote client.name ++
    ", callback_url=" ++ optionalLiteral client.callbackUrl ++
    ", direct_redirection=" ++ Value.boolText client.isDirect ++
    ", enable_contextual_redirects=" ++ Value.boolText client.contextual ++ ")"

/-- Whether the client would have nowhere to send the user agent back to. -/
def lacksCallback (client : Client) : Bool :=
  ! client.isDirect && Text.isAbsentOrBlank client.callbackUrl

/-- Prepares the client before its first operation; what failed is tried again on the next one. -/
def init (client : Client) : Exchange Unit := do
  if (← Exchange.state).progress.initialized then pure ()
  else if client.lacksCallback then Exchange.fail (.needsCallback client.name)
  else do
    client.handler.start client.name
    Exchange.markInitialized
    Exchange.record .debug .client ("Initialized client " ++ client.describe)

def consumeMark (client : Client) : Exchange Bool := do
  let (marked, session) := LoopGuard.consume client.name (← Exchange.state).session
  Exchange.update fun state => { state with session }
  pure marked

def deferredLocation (client : Client) (origin : Origin) : String :=
  Url.addParameter ((client.callbackFor (some origin)).getD "") continuationParameter (some "true")

/-- The answer to a request that needs the user to authenticate. The page may be protected, and the
request may come from a script. -/
def resolveRedirect (client : Client) (request : Request) (guarded scripted : Bool) :
    Exchange Outcome := do
  client.init
  if scripted then pure (.http (.unauthorized "AJAX request -> 401" []))
  else do
    let marked ← client.consumeMark
    if marked && guarded then do
      Exchange.record .error .client ("Client '" ++ client.name ++
        "': authentication already tried and protected target -> forbidden")
      pure (.http (.forbidden "authentication already tried -> forbidden"))
    else if client.isDirect || guarded then client.handler.redirect client.caller request
    else pure (.redirect (.redirect (client.deferredLocation request.origin)))

def redirectAction (client : Client) (request : Request) (guarded scripted : Bool) :
    Exchange RedirectAction := do
  match ← client.resolveRedirect request guarded scripted with
  | .redirect action => pure action
  | .http action => Exchange.fail (.interrupted action)

/-- The decision, written to the response. -/
def redirect (client : Client) (request : Request) (guarded scripted : Bool) :
    Exchange Outcome := do
  let outcome ← client.resolveRedirect request guarded scripted
  Exchange.write outcome
  pure outcome

def redirectionUrl (client : Client) (request : Request) : Exchange (Option String) := do
  pure (← client.resolveRedirect request false false).location?

def isContinuation (request : Request) : Bool :=
  ! Text.isAbsentOrBlank (request.parameter? continuationParameter)

def continuationAction : Outcome → Except Failure HttpAction
  | .redirect ⟨.success, _, content⟩ => .ok (.ok "Needs client redirection" (content.getD ""))
  | .redirect ⟨.redirect, location, _⟩ =>
    .ok (.redirect "Needs client redirection" (location.getD ""))
  | .http _ => .error .noContinuation

def check (client : Client) (credentials : Credentials) : Exchange (Option Credentials) :=
  match client.authenticator with
  | none => pure (some credentials)
  | some authenticator =>
    match authenticator.validate credentials with
    | .ok accepted => pure (some accepted)
    | .error rejection => do
      Exchange.record .info .client ("Client '" ++ client.name ++ "': credentials rejected: " ++
        rejection.message)
      pure none

/-- Marks the session after a failed attempt; clears the mark and stamps the credentials after a
successful one. -/
def conclude (client : Client) : Option Credentials → Exchange (Option Credentials)
  | none => do
    Exchange.update fun state =>
      { state with session := LoopGuard.mark client.name state.session }
    pure none
  | some credentials => do
    Exchange.update fun state =>
      { state with session := LoopGuard.clear client.name state.session }
    pure (some { credentials with clientName := some client.name })

/-- The credentials of a request, or none when it asserts no valid identity. A deferred redirect is
carried out instead. -/
def credentials (client : Client) (request : Request) : Exchange (Option Credentials) := do
  client.init
  if isContinuation request then do
    let outcome ← client.handler.redirect client.caller request
    let action ← Exchange.lift (continuationAction outcome)
    Exchange.fail (.interrupted action)
  else do
    match ← client.handler.extract client.caller request with
    | none => client.conclude none
    | some offered => client.conclude (← client.check offered)

def bareProfile (client : Client) (credentials : Credentials) : Exchange (Option Profile) :=
  if client.takesAttached then pure credentials.profile
  else client.handler.buildProfile credentials

/-- The profile stamped with the client and enriched by its generators. -/
def enrich (client : Client) (profile : Profile) : Except Unsplittable Profile :=
  Generator.generateAll client.generators { profile with clientName := some client.name }

/-- The enriched profile of credentials; none without credentials. -/
def profile (client : Client) : Option Credentials → Exchange (Option Profile)
  | none => do
    client.init
    pure none
  | some credentials => do
    client.init
    match ← client.bareProfile credentials with
    | none => pure none
    | some bare =>
      match client.enrich bare with
      | .ok enriched => pure (some enriched)
      | .error stopped => Exchange.fail (.unsplittable stopped.reached)

/-- Whether enriching the profile of these credentials enriches the one attached to them. -/
def enrichesAttached (client : Client) (credentials : Credentials) : Bool :=
  client.takesAttached || client.handler.returnsAttached credentials

/-- The credentials after a profile was made of them: one that was attached stays attached, as far
as it was enriched. -/
def keepProfile (client : Client) (credentials : Credentials)
    (result : Except Failure (Option Profile)) : Credentials :=
  if client.enrichesAttached credentials then
    match result with
    | .ok (some enriched) => { credentials with profile := some enriched }
    | .error (.unsplittable reached) => { credentials with profile := some reached }
    | _ => credentials
  else credentials

end Client

/-- The operations of a client on one request. -/
inductive Operation where
  | init
  | resolveRedirect (guarded scripted : Bool)
  | redirectAction (guarded scripted : Bool)
  | redirect (guarded scripted : Bool)
  | redirectionUrl
  | credentials
  | profile (credentials : Option Credentials)

inductive Answer where
  | done
  | outcome (outcome : Outcome)
  | action (action : RedirectAction)
  | url (url : Option String)
  | credentials (credentials : Option Credentials)
  | profile (profile : Option Profile)

def Client.perform (client : Client) (request : Request) : Operation → Exchange Answer
  | .init => do
    client.init
    pure .done
  | .resolveRedirect guarded scripted => do
    pure (.outcome (← client.resolveRedirect request guarded scripted))
  | .redirectAction guarded scripted => do
    pure (.action (← client.redirectAction request guarded scripted))
  | .redirect guarded scripted => do
    pure (.outcome (← client.redirect request guarded scripted))
  | .redirectionUrl => do pure (.url (← client.redirectionUrl request))
  | .credentials => do pure (.credentials (← client.credentials request))
  | .profile credentials => do pure (.profile (← client.profile credentials))

end SignOn
