import SignOn.Command.Invocation
import SignOn.Deployment
import SignOn.Toolkit

/-!
The commands: listing the clients of a configuration, checking their settings, and showing where an
anonymous request would be sent. A failure of a known category is reported on standard error and
ends the command with the exit code of its category; any other failure is not caught here.
-/

namespace SignOn.Command

structure Ended where
  exitCode : Nat
  written : Written := {}

/-- How a command line ends: with its commands carried out, with help, or unread. -/
inductive Ending where
  | ended (ended : Ended)
  | help
  | misused (fault : UsageFault)

def version : String := "0.3.0"

def versionText : String := "handshake " ++ version ++ "\n"

def misconfigured : Nat := Category.usage.exitCode

def refused : Nat := Category.action.exitCode

/-- The message of a failure. What is wrong with a file is not told in detail. -/
def reportText : Failure → String
  | .config (.misshapen path issues) =>
    (ConfigFailure.misshapen path issues).message ++ "<validation errors>"
  | .config (.undecodable path) => (ConfigFailure.undecodable path).message ++ "<not UTF-8>"
  | failure => failure.message

def report (printer : Printer) (category : Category) (message : String) : Ended :=
  { exitCode := category.exitCode, written := printer.tell .error message }

def cancelled : Ended := { exitCode := 130, written := { stderr := "\nCancelled.\n" } }

def levelText : Level → String
  | .debug => "DEBUG"
  | .info => "INFO"
  | .warning => "WARNING"
  | .error => "ERROR"

def isShown (verbose : Bool) : Level → Bool
  | .debug => verbose
  | .info => verbose
  | .warning => true
  | .error => true

def logText (verbose : Bool) (records : List LogRecord) : String :=
  String.join ((records.filter fun record => isShown verbose record.level).map fun record =>
    levelText record.level ++ " " ++ record.source.text ++ ": " ++ record.message ++ "\n")

def Ended.logging (printer : Printer) (records : List LogRecord) (ended : Ended) : Ended :=
  { ended with written :=
      Written.append { stderr := logText printer.verbose records } ended.written }

def conclude (printer : Printer) : Except Failure Ended → Except Failure Ended
  | .ok ended => .ok ended
  | .error failure =>
    match failure.category? with
    | some category => .ok (report printer category (reportText failure))
    | none => .error failure

def directText (direct : Bool) : String := if direct then "yes" else "no"

def typeText (handler : Handler) : String :=
  if handler.settingsType = "" then handler.typeName else handler.settingsType

def clientRow (client : Client) : List String :=
  [client.name, typeText client.handler, client.handler.mechanism.text,
    directText client.isDirect, client.callbackUrl.getD ""]

def clientTable (clients : List Client) : Table :=
  { title := some "Clients", headers := ["Name", "Type", "Mechanism", "Direct", "Callback URL"],
    rows := clients.map clientRow }

def listMessage (clients : List Client) : Message :=
  if clients.isEmpty then .info "No clients configured." else .table (clientTable clients)

/-- A registry of the configuration that the settings name, with the records of its making. -/
def loadRegistry (read : ConfigFile.Reader) (host : Host) (settings : Settings) :
    Except Failure Registry × List LogRecord :=
  match ConfigFile.load read host settings.configPath with
  | .error failure => (.error failure, [])
  | .ok config => config.deploy host

def runClients (read : ConfigFile.Reader) (host : Host) (printer : Printer)
    (settings : Settings) : Except Failure Ended :=
  let (registry, records) := loadRegistry read host settings
  let listed := registry.bind fun registry =>
    (printer.print (listMessage registry.clients)).map fun written => { exitCode := 0, written }
  (conclude printer listed).map (Ended.logging printer records)

/-- How a problem names an entry: by its name, or by its place and type. -/
def entryLabel (index : Nat) (settings : ClientSettings) : String :=
  match nonEmpty settings.name with
  | some name => name
  | none => "#" ++ Nat.repr (index + 1) ++ " (" ++ settings.type ++ ")"

def lacksCallback (shared : Option String) (client : Client) : Bool :=
  ! client.isDirect &&
    Text.isAbsentOrBlank (match nonEmpty client.callbackUrl with
      | some url => some url
      | none => shared)

def clientProblems (shared : Option String) (client : Client) : List String :=
  client.handler.problems ++
    (if lacksCallback shared client then ["indirect client needs a callback URL"] else [])

/-- What is wrong with one entry. -/
def entryProblems (host : Host) (shared : Option String) (settings : ClientSettings) :
    Except Failure (List String) :=
  match settings.build host builtInTypes with
  | .ok client => .ok (clientProblems shared client)
  | .error failure =>
    if failure.category?.isSome then .ok [reportText failure] else .error failure

def problems (host : Host) (shared : Option String) :
    Nat → List ClientSettings → Except Failure (List String)
  | _, [] => .ok []
  | index, settings :: rest => do
    let found ← entryProblems host shared settings
    let others ← problems host shared (index + 1) rest
    pure (found.map (fun problem => entryLabel index settings ++ ": " ++ problem) ++ others)

/-- What is wrong with a configuration; nothing when all its clients can be used. -/
def configProblems (host : Host) (config : ClientsConfig) : Except Failure (List String) :=
  problems host config.callbackUrl 0 config.clients

def successText (count : Nat) : String := Nat.repr count ++ " client(s) OK."

def checked (printer : Printer) (count : Nat) : List String → Ended
  | [] => { exitCode := 0, written := printer.tell .ok (successText count) }
  | found =>
    { exitCode := misconfigured,
      written := (found.map (printer.tell .error)).foldl Written.append {} }

def runCheck (read : ConfigFile.Reader) (host : Host) (printer : Printer) (settings : Settings) :
    Except Failure Ended :=
  match ConfigFile.load read host settings.configPath with
  | .error failure => conclude printer (.error failure)
  | .ok config => (configProblems host config).map (checked printer config.clients.length)

/-- The anonymous request that a query describes. -/
def UrlQuery.request (query : UrlQuery) : Request :=
  { headers := if query.scripted then [("X-Requested-With", "XMLHttpRequest")] else [],
    origin := { scheme := query.scheme, server := query.server, port := query.port } }

/-- A session of which nothing is known yet. -/
def freshState (entropy : Entropy) : State :=
  { session := [], response := {}, progress := {}, entropy, provider := {}, log := [] }

def shownOf (action : RedirectAction) : String :=
  match action.location with
  | some location => location
  | none => action.content.getD ""

def outcomeEnd (printer : Printer) : Outcome → Except Failure Ended
  | .http action =>
    .ok
      { exitCode := refused,
        written := printer.tell .error (Value.intText action.status ++ ": " ++ action.message) }
  | .redirect action =>
    (printer.print (.data (shownOf action))).map fun written => { exitCode := 0, written }

def decide (query : UrlQuery) (entropy : Entropy) (client : Client) :
    Except Failure Outcome × List LogRecord :=
  let request := query.request
  let (outcome, state) :=
    client.resolveRedirect request query.guarded request.isScripted (freshState entropy)
  (outcome, state.log)

def runUrl (read : ConfigFile.Reader) (host : Host) (printer : Printer) (entropy : Entropy)
    (settings : Settings) (query : UrlQuery) : Except Failure Ended :=
  let (registry, registered) := loadRegistry read host settings
  match registry.bind (·.find query.name) with
  | .error failure =>
    (conclude printer (.error failure)).map (Ended.logging printer registered)
  | .ok client =>
    let (outcome, records) := decide query entropy client
    (conclude printer (outcome.bind (outcomeEnd printer))).map
      (Ended.logging printer (registered ++ records))

def runTask (read : ConfigFile.Reader) (host : Host) (printer : Printer) (entropy : Entropy)
    (settings : Settings) : Task → Except Failure Ended
  | .clients => runClients read host printer settings
  | .check => runCheck read host printer settings
  | .url query => runUrl read host printer entropy settings query

def UsageFault.framed? : UsageFault → Option String
  | .needsValue option => some ("Option '" ++ option ++ "' requires an argument.")
  | .takesNoValue option => some ("Option '" ++ option ++ "' does not take a value.")
  | _ => none

def bareScreen (tools : Toolkit) (host : Host) : Except Failure Screen :=
  (tools.openScreen host false false).mapError .escaped

def misuse (tools : Toolkit) (host : Host) (fault : UsageFault) : Except Failure Ending :=
  (bareScreen tools host).map fun screen =>
    match fault.framed? with
    | some message =>
      .ended
        { exitCode := misconfigured, written := { stderr := screen.frame "Error" message } }
    | none => .misused fault

/-- Carries out a command line. -/
def run (tools : Toolkit) (host : Host) (onTerminal : Bool) (entropy : Entropy)
    (arguments : List String) : Except Failure Ending :=
  match Invocation.ofArguments arguments with
  | .error fault => misuse tools host fault
  | .ok .version => .ok (.ended { exitCode := 0, written := { stdout := versionText } })
  | .ok .help => (bareScreen tools host).map fun _ => .help
  | .ok (.run settings task) => do
    let printer ← Printer.ofStyle tools.openScreen host onTerminal settings.style
    (runTask tools.read host printer entropy settings task).map .ended

end SignOn.Command
