import SignOn.Client

/-!
A registry: several clients behind one callback URL, told apart by their names. A client without a
callback URL of its own receives the shared one, tagged with its name; a request names its client in
the same parameter.
-/

namespace SignOn

structure Registry where
  callbackUrl : Option String := none
  /-- In the order of registration. -/
  clients : List Client := []
  defaultClient : Option String := none

namespace Registry

/-- The parameter that names the client of a callback request. -/
def nameParameter : String := "client_name"

def names (registry : Registry) : List String := registry.clients.map Client.name

def find? (registry : Registry) (name : String) : Option Client :=
  registry.clients.find? (·.name == name)

/-- The callback URL a client has once it is registered: its own unless that is blank, else the
shared one; with its name, unless the client leaves that out or the URL has the parameter. -/
def sharedCallback (shared : Option String) (client : Client) : Option String :=
  let url := if Text.isAbsentOrBlank client.callbackUrl then shared else client.callbackUrl
  url.map fun url =>
    if client.includesName && ! Url.hasParameter url nameParameter then
      Url.addParameter url nameParameter (some client.name)
    else url

/-- The client as the registry keeps it. -/
def adopt (shared : Option String) (client : Client) : Client :=
  client.withCallbackUrl (sharedCallback shared client)

/-- Adds a client under its name, which must be new. -/
def register (registry : Registry) (client : Client) :
    Except ConfigFailure (Registry × Client) :=
  if client.name ∈ registry.names then .error (.duplicateName client.name)
  else
    let adopted := adopt registry.callbackUrl client
    .ok ({ registry with clients := registry.clients ++ [adopted] }, adopted)

def registrationRecord (client : Client) : LogRecord :=
  ⟨.info, .registry,
    "Registered client '" ++ client.name ++ "' (" ++ client.handler.mechanism.text ++ ")"⟩

/-- Registers clients one after another until one of them cannot be registered. -/
def registerAll : Registry → List Client → Except ConfigFailure Registry × List LogRecord
  | registry, [] => (.ok registry, [])
  | registry, client :: rest =>
    match registry.register client with
    | .error failure => (.error failure, [])
    | .ok (extended, adopted) =>
      let (result, records) := registerAll extended rest
      (result, registrationRecord adopted :: records)

def withDefault (registry : Registry) : Option String → Except ConfigFailure Registry
  | none => .ok registry
  | some name =>
    if name ∈ registry.names then .ok { registry with defaultClient := some name }
    else .error (.defaultNotRegistered name)

/-- A registry of the clients, with the records of what was registered on the way. -/
def create (callbackUrl : Option String) (clients : List Client) (defaultClient : Option String) :
    Except ConfigFailure Registry × List LogRecord :=
  let (registered, records) := registerAll { callbackUrl } clients
  (registered.bind (·.withDefault defaultClient), records)

def find (registry : Registry) (name : String) : Except Failure Client :=
  match registry.find? name with
  | some client => .ok client
  | none => .error (.unknownClient name registry.names)

def nameFor (registry : Registry) (request : Request) : Except Failure String :=
  match request.parameter? nameParameter with
  | some name => if Text.isBlank name then fallback else .ok name
  | none => fallback
where
  fallback : Except Failure String :=
    match registry.defaultClient with
    | some name => .ok name
    | none => .error .unnamedRequest

def findFor (registry : Registry) (request : Request) : Except Failure Client := do
  registry.find (← registry.nameFor request)

end Registry

end SignOn
