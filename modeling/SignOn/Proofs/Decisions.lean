import SignOn.Proofs.Runs
import SignOn.Proofs.Footprint

/-!
The redirect decision, case by case, and the four operations that make one. They differ only in how
they report what was decided.
-/

namespace SignOn

/-- Whether an operation is a redirect decision, for a protected page and for a script. -/
def Operation.decision? : Operation → Option (Bool × Bool)
  | .resolveRedirect guarded scripted => some (guarded, scripted)
  | .redirectAction guarded scripted => some (guarded, scripted)
  | .redirect guarded scripted => some (guarded, scripted)
  | .redirectionUrl => some (false, false)
  | _ => none

theorem Operation.kinds (operation : Operation) :
    (∃ guarded scripted, operation.decision? = some (guarded, scripted)) ∨
      operation = .credentials ∨ operation = .init ∨
      ∃ credentials, operation = .profile credentials := by
  cases operation <;> simp [Operation.decision?]

/-- How an operation reports a decision. -/
def Operation.report : Operation → Outcome → Except Failure Answer
  | .redirectAction _ _, .redirect action => .ok (.action action)
  | .redirectAction _ _, .http action => .error (.interrupted action)
  | .redirectionUrl, outcome => .ok (.url outcome.location?)
  | _, outcome => .ok (.outcome outcome)

namespace LoopGuard

def refusal : HttpAction := .forbidden "authentication already tried -> forbidden"

def refusalRecord (client : String) : LogRecord :=
  ⟨.error, .client,
    "Client '" ++ client ++ "': authentication already tried and protected target -> forbidden"⟩

theorem isMarked_of_none {client : String} {session : Session}
    (absent : session.get? (key client) = none) :
    isMarked client session = false := by
  rw [isMarked, absent]
  rfl

end LoopGuard

namespace Client

open Exchange

theorem init_of_initialized (client : Client) (state : State)
    (ready : state.progress.initialized = true) : client.init state = (.ok (), state) := by
  unfold Client.init
  rw [bind_apply]
  simp only [Exchange.state, ready, if_true]
  rfl

/-- What a decision does once the guard lets it pass. -/
def proceed (client : Client) (request : Request) (guarded : Bool) : Exchange Outcome :=
  if client.isDirect || guarded then client.handler.redirect client.caller request
  else pure (.redirect (.redirect (client.deferredLocation request.origin)))

theorem proceed_guarded (client : Client) (request : Request) :
    client.proceed request true = client.handler.redirect client.caller request := by
  unfold Client.proceed
  rw [Bool.or_true, if_pos rfl]

theorem proceed_deferred (client : Client) (request : Request)
    (indirect : client.isDirect = false) :
    client.proceed request false =
      pure (.redirect (.redirect (client.deferredLocation request.origin))) := by
  unfold Client.proceed
  rw [indirect, Bool.or_false, if_neg Bool.false_ne_true]

theorem confined_proceed (client : Client) (request : Request) (guarded : Bool) :
    Confined (OAuth2Login.keys client.name) (client.proceed request guarded) := by
  unfold Client.proceed
  split
  · exact client.handler.confined_redirect client.caller request
  · exact (blind_pure _).confined _

variable {client : Client} {state ready : State}

theorem resolveRedirect_of_init_error (request : Request) {failure : Failure}
    {guarded scripted : Bool} (failed : client.init state = (.error failure, ready)) :
    client.resolveRedirect request guarded scripted state = (.error failure, ready) :=
  bind_of_error failed

theorem resolveRedirect_scripted (request : Request) {guarded : Bool}
    (passed : client.init state = (.ok (), ready)) :
    client.resolveRedirect request guarded true state =
      (.ok (.http (.unauthorized "AJAX request -> 401" [])), ready) :=
  bind_of_ok passed

theorem resolveRedirect_marked (request : Request) (passed : client.init state = (.ok (), ready))
    (marked : LoopGuard.isMarked client.name ready.session = true) :
    client.resolveRedirect request true false state =
      (.ok (.http LoopGuard.refusal),
        { ready with
          session := LoopGuard.clear client.name ready.session,
          log := ready.log ++ [LoopGuard.refusalRecord client.name] }) := by
  refine (bind_of_ok passed).trans ?_
  refine (bind_of_ok (client.consumeMark_apply ready)).trans ?_
  simp only [marked, LoopGuard.consume, Bool.and_self, if_true]
  rfl

theorem resolveRedirect_passing (request : Request) {guarded : Bool}
    (passed : client.init state = (.ok (), ready))
    (passes : (LoopGuard.isMarked client.name ready.session && guarded) = false) :
    client.resolveRedirect request guarded false state =
      client.proceed request guarded
        (ready.withSession (LoopGuard.consume client.name ready.session).2) := by
  refine (bind_of_ok passed).trans ?_
  refine (bind_of_ok (client.consumeMark_apply ready)).trans ?_
  simp only [passes, Bool.false_eq_true, if_false]
  unfold Client.proceed
  split <;> rfl

variable {request : Request}

theorem perform_decision_error {operation : Operation} {guarded scripted : Bool} {failure : Failure}
    (decides : operation.decision? = some (guarded, scripted))
    (failed : client.resolveRedirect request guarded scripted state = (.error failure, ready)) :
    client.perform request operation state = (.error failure, ready) := by
  cases operation with
  | resolveRedirect _ _ =>
    cases decides
    exact bind_of_error failed
  | redirectAction _ _ =>
    cases decides
    exact bind_of_error (bind_of_error failed)
  | redirect _ _ =>
    cases decides
    exact bind_of_error (bind_of_error failed)
  | redirectionUrl =>
    cases decides
    exact bind_of_error (bind_of_error failed)
  | init => cases decides
  | credentials => cases decides
  | profile _ => cases decides

/-- An operation that decides reports the decision; at most the response is written besides. -/
theorem perform_decision {operation : Operation} {guarded scripted : Bool} {outcome : Outcome}
    (decides : operation.decision? = some (guarded, scripted))
    (decided : client.resolveRedirect request guarded scripted state = (.ok outcome, ready)) :
    ∃ response, client.perform request operation state =
      (operation.report outcome, { ready with response }) := by
  cases operation with
  | resolveRedirect _ _ =>
    cases decides
    exact ⟨ready.response, bind_of_ok decided⟩
  | redirectAction _ _ =>
    cases decides
    refine ⟨ready.response, ?_⟩
    cases outcome with
    | redirect action => exact bind_of_ok (bind_of_ok decided)
    | http action => exact bind_of_error (bind_of_ok decided)
  | redirect _ _ =>
    cases decides
    exact ⟨ready.response.writeOutcome outcome, bind_of_ok (bind_of_ok decided)⟩
  | redirectionUrl =>
    cases decides
    exact ⟨ready.response, bind_of_ok (bind_of_ok decided)⟩
  | init => cases decides
  | credentials => cases decides
  | profile _ => cases decides

end Client

end SignOn
