import SignOn.Proofs.ClientListing
import SignOn.Proofs.Destinations
import SignOn.Proofs.RegistrationCalls
import SignOn.Proofs.Strays

/-!
What the command says that shows where an anonymous request would be sent. It asks one thing after
another: whether the configuration can be deployed, whether the client is there, whether it gets
ready, and whether a script asks. The first of these that fails decides how the command ends, and
then it shows no data. Otherwise it shows the location that the client sends a new session to, and
no client forbids that.
-/

namespace SignOn

namespace ConfigFile

end ConfigFile

namespace Client

variable {client : Client} {request : Request} {guarded : Bool} {state : State}

end Client

namespace Command

variable {tools : Toolkit} {read : ConfigFile.Reader} {host : Host} {onTerminal : Bool}
  {printer : Printer} {entropy : Entropy} {arguments : List String} {options : Settings}
  {query : UrlQuery} {registry : Registry} {client : Client}

/-- What the command comes to, before a failure is reported and the log is put in front. -/
def shown (read : ConfigFile.Reader) (host : Host) (printer : Printer) (entropy : Entropy)
    (options : Settings) (query : UrlQuery) : Except Failure Ended := do
  let registry ← (loadRegistry read host options).1
  let client ← registry.find query.name
  let outcome ← (client.resolveRedirect query.request query.guarded query.scripted
    (freshState entropy)).1
  outcomeEnd printer outcome

section

variable (understood : Invocation.ofArguments arguments = .ok (.run options (.url query)))
  (settled : Printer.ofStyle tools.openScreen host onTerminal options.style = .ok printer)

include understood settled

end

end Command

end SignOn
