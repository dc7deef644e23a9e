import SignOn.Registry

/-!
A site: clients at work on the requests of one session. It remembers how far each client has come,
the credentials that were accepted last, and what was logged and asked of the provider. A client and
its copies with another callback URL have one handler between them, so what a scripted handler was
asked counts for all of them.
-/

namespace SignOn

structure Member where
  client : Client
  handler : Nat
  registered : Bool := false
  initialized : Bool := false

inductive ClientRef where
  | index (n : Nat)
  | named (name : String)

structure Site where
  registry : Registry := {}
  members : List Member := []
  calls : List (List HandlerCall) := []
  request : Request := {}
  session : Session := []
  response : Response := {}
  accepted : Option Credentials := none
  entropy : Entropy
  provider : Provider := {}
  log : List LogRecord := []

namespace Site

def enrol (site : Site) (client : Client) (registered : Bool) : Site :=
  { site with
    members := site.members ++ [{ client, handler := site.calls.length, registered }],
    calls := site.calls ++ [[]] }

def enrolAll (site : Site) (clients : List Client) (registered : Bool) : Site :=
  clients.foldl (fun site client => site.enrol client registered) site

def serve (site : Site) (registry : Registry) (records : List LogRecord) : Site :=
  { site.enrolAll registry.clients true with registry, log := site.log ++ records }

def member (site : Site) : ClientRef → Except Failure (Nat × Member)
  | .index n => at? n
  | .named name => do
    let client ← site.registry.find name
    at? (site.members.findIdx fun member =>
      member.registered && member.client.name == client.name)
where
  at? (n : Nat) : Except Failure (Nat × Member) :=
    match site.members[n]? with
    | some member => .ok (n, member)
    | none => .error .noClientThere

def receive (site : Site) (request : Request) (response : Response) : Site :=
  { site with request, response }

def echo (site : Site) (name key : String) : Site :=
  match site.session.get? key with
  | none => site
  | some value => { site with request := site.request.withParameter name value.display }

def register (site : Site) (client : Client) : Except Failure Client × Site :=
  match site.registry.register client with
  | .error failure => (.error (.config failure), site)
  | .ok (registry, adopted) =>
    (.ok adopted,
      { site.enrol adopted true with
        registry, log := site.log ++ [Registry.registrationRecord adopted] })

def copyWith (site : Site) (member : Member) (callbackUrl : Option String) : Client × Site :=
  let client := member.client.withCallbackUrl callbackUrl
  (client, { site with members := site.members ++ [{ client, handler := member.handler }] })

def callsOf (site : Site) (member : Member) : List HandlerCall :=
  (site.calls[member.handler]?).getD []

def stateFor (site : Site) (member : Member) : State :=
  { session := site.session, response := site.response,
    progress := { initialized := member.initialized, calls := site.callsOf member },
    entropy := site.entropy, provider := site.provider, log := site.log }

def after (site : Site) (n : Nat) (member : Member) (state : State) : Site :=
  { site with
    members := site.members.set n { member with initialized := state.progress.initialized },
    calls := site.calls.set member.handler state.progress.calls,
    session := state.session, response := state.response, entropy := state.entropy,
    provider := state.provider, log := state.log }

def perform (site : Site) (n : Nat) (member : Member) (operation : Operation) :
    Except Failure Answer × Site :=
  let (result, state) := member.client.perform site.request operation (site.stateFor member)
  (result, site.after n member state)

def readCredentials (site : Site) (n : Nat) (member : Member) : Except Failure Answer × Site :=
  let (result, next) := site.perform n member .credentials
  match result with
  | .ok (.credentials credentials) => (result, { next with accepted := credentials })
  | _ => (result, next)

def profileOf : Except Failure Answer → Except Failure (Option Profile)
  | .ok (.profile profile) => .ok profile
  | .ok _ => .ok none
  | .error failure => .error failure

/-- Makes a profile of the remembered credentials; one that was attached to them is remembered as
it is enriched. -/
def readProfile (site : Site) (n : Nat) (member : Member) : Except Failure Answer × Site :=
  let (result, next) := site.perform n member (.profile site.accepted)
  let accepted := site.accepted.map fun credentials =>
    member.client.keepProfile credentials (profileOf result)
  (result, { next with accepted })

end Site

end SignOn
