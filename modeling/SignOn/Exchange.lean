import SignOn.Entropy
import SignOn.Failure

/-!
One exchange with a client: an operation that reads and changes the session and the response, may
draw random bytes, call the identity provider and leave log records, and may be interrupted by a
failure. What was changed before an interruption stays changed.
-/

namespace SignOn

inductive Level where
  | debug
  | info
  | warning
  | error
deriving DecidableEq

/-- The part of the program that a log record comes from. -/
inductive LogSource where
  | client
  | registry
  | oauth2

def LogSource.text : LogSource → String
  | .client => "handshake.auth.client"
  | .registry => "handshake.auth.manager"
  | .oauth2 => "handshake.protocols.oauth2.protocol"

structure LogRecord where
  level : Level
  source : LogSource
  message : String

structure ProviderRequest where
  method : String
  url : String
  headers : List (String × String)
  body : String

/-- An exception of the library that speaks HTTP: an error of its own, a value error, or an
exception of another kind. -/
inductive HttpException where
  | http (name message : String)
  | value (name : String)
  | other (name : String)

def HttpException.name : HttpException → String
  | .http name _ => name
  | .value name => name
  | .other name => name

def HttpException.isOwn : HttpException → Bool
  | .http _ _ => true
  | _ => false

/-- A response as the library presents it. Its text and its JSON value are made when they are asked
for, which may raise an exception. -/
structure HttpResponse where
  status : Int
  text : Except HttpException String
  json : Except HttpException Value

/-- The identity provider, as the library that speaks HTTP shows it. Nothing is assumed of either:
what comes of a request may depend on it and on all that was requested before. -/
structure Provider where
  respond : List ProviderRequest → ProviderRequest → Except HttpException HttpResponse :=
    fun _ _ => .error (.http "ConnectError" "")
  received : List ProviderRequest := []

/-- What comes of the next request. -/
def Provider.answer (provider : Provider) (request : ProviderRequest) :
    Except HttpException HttpResponse :=
  provider.respond provider.received request

def Provider.asked (provider : Provider) (request : ProviderRequest) : Provider :=
  { provider with received := provider.received ++ [request] }

/-- The methods of a handler that a client calls. -/
inductive HandlerCall where
  | start
  | redirectOutcome
  | extractCredentials
  | buildProfile
deriving DecidableEq

/-- How far a client has come: whether it is initialised, and what a scripted handler was asked. -/
structure Progress where
  initialized : Bool := false
  calls : List HandlerCall := []

structure State where
  session : Session
  response : Response
  progress : Progress
  entropy : Entropy
  provider : Provider
  log : List LogRecord

def Exchange (α : Type) : Type := State → Except Failure α × State

namespace Exchange

variable {α β : Type}

instance : Monad Exchange where
  pure a := fun state => (.ok a, state)
  bind x f := fun state =>
    match x state with
    | (.ok a, next) => f a next
    | (.error failure, next) => (.error failure, next)

@[simp] theorem pure_apply (a : α) (state : State) :
    (pure a : Exchange α) state = (.ok a, state) := rfl

@[simp] theorem bind_apply (x : Exchange α) (f : α → Exchange β) (state : State) :
    (x >>= f) state =
      match x state with
      | (.ok a, next) => f a next
      | (.error failure, next) => (.error failure, next) := rfl

def fail (failure : Failure) : Exchange α := fun state => (.error failure, state)

def state : Exchange State := fun current => (.ok current, current)

def update (f : State → State) : Exchange Unit := fun current => (.ok (), f current)

def lift : Except Failure α → Exchange α
  | .ok a => pure a
  | .error failure => fail failure

def settle : Checked α → Exchange α
  | .valid a => pure a
  | .invalid issues => fail (.invalid issues)

def sessionValue (key : String) : Exchange Value := do
  pure (((← state).session.get? key).getD .null)

def setSession (key : String) (value : Value) : Exchange Unit :=
  update fun current => { current with session := current.session.set key value }

def clearSession (key : String) : Exchange Unit :=
  update fun current => { current with session := current.session.clear key }

def write (outcome : Outcome) : Exchange Unit :=
  update fun current => { current with response := current.response.writeOutcome outcome }

def record (level : Level) (source : LogSource) (message : String) : Exchange Unit :=
  update fun current => { current with log := current.log ++ [⟨level, source, message⟩] }

def note (call : HandlerCall) : Exchange Unit :=
  update fun current =>
    { current with
      progress := { current.progress with calls := current.progress.calls ++ [call] } }

def markInitialized : Exchange Unit :=
  update fun current =>
    { current with progress := { current.progress with initialized := true } }

def drawToken (count : Nat) : Exchange String := fun current =>
  let (token, entropy) := current.entropy.drawToken count
  (.ok token, { current with entropy })

def call (request : ProviderRequest) : Exchange (Except HttpException HttpResponse) :=
  fun current =>
    (.ok (current.provider.answer request),
      { current with provider := current.provider.asked request })

end Exchange

end SignOn
