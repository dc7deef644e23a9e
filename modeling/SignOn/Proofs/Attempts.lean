import SignOn.Proofs.Decisions

/-!
Reading the credentials of a request, case by case: a deferred redirect is carried out and nothing
else; otherwise the handler extracts what the request offers, the authenticator has its say, and the
guard takes note of the result.
-/

namespace SignOn

namespace Visit

/-- Credentials were read and none were found. -/
def Failed (visit : Visit) : Prop :=
  visit.call.operation = .credentials ∧ visit.result = .ok (.credentials none)

def Succeeded (visit : Visit) : Prop :=
  visit.call.operation = .credentials ∧
    ∃ credentials, visit.result = .ok (.credentials (some credentials))

end Visit

namespace Client

open Exchange

def accepted (client : Client) (offered : Credentials) : Option Credentials :=
  match client.authenticator with
  | none => some offered
  | some authenticator => (authenticator.validate offered).toOption

theorem check_apply (client : Client) (offered : Credentials) (state : State) :
    ∃ log, client.check offered state = (.ok (client.accepted offered), { state with log }) := by
  unfold Client.check Client.accepted
  cases client.authenticator with
  | none => exact ⟨state.log, rfl⟩
  | some authenticator =>
    simp only
    cases authenticator.validate offered with
    | ok credentials => exact ⟨state.log, rfl⟩
    | error rejection => exact ⟨_, rfl⟩

def stamped (client : Client) (credentials : Credentials) : Credentials :=
  { credentials with clientName := some client.name }

def concluded (client : Client) (session : Session) : Option Credentials → Session
  | none => LoopGuard.mark client.name session
  | some _ => LoopGuard.clear client.name session

theorem conclude_apply (client : Client) (credentials : Option Credentials) (state : State) :
    client.conclude credentials state =
      (.ok (credentials.map client.stamped),
        state.withSession (client.concluded state.session credentials)) := by
  cases credentials <;> rfl

variable {client : Client} {request : Request} {state ready next : State}

theorem credentials_of_init_error {failure : Failure}
    (failed : client.init state = (.error failure, ready)) :
    client.credentials request state = (.error failure, ready) :=
  bind_of_error failed

theorem credentials_of_continuation (started : client.init state = (.ok (), ready))
    (deferred : isContinuation request = true) :
    ∃ failure, client.credentials request state =
      (.error failure, (client.handler.redirect client.caller request ready).2) := by
  unfold Client.credentials
  rw [bind_of_ok started, if_pos deferred]
  rcases reached : client.handler.redirect client.caller request ready with
    ⟨failure | outcome, next⟩
  · exact ⟨failure, bind_of_error reached⟩
  · rw [bind_of_ok reached]
    cases continuationAction outcome with
    | error failure => exact ⟨failure, rfl⟩
    | ok action => exact ⟨.interrupted action, rfl⟩

theorem credentials_of_carried {outcome : Outcome} {action : HttpAction}
    (started : client.init state = (.ok (), ready)) (deferred : isContinuation request = true)
    (reached : client.handler.redirect client.caller request ready = (.ok outcome, next))
    (carried : continuationAction outcome = .ok action) :
    client.credentials request state = (.error (.interrupted action), next) := by
  unfold Client.credentials
  rw [bind_of_ok started, if_pos deferred, bind_of_ok reached, carried]
  rfl

theorem credentials_of_extract_error {failure : Failure}
    (started : client.init state = (.ok (), ready)) (direct : isContinuation request = false)
    (failed : client.handler.extract client.caller request ready = (.error failure, next)) :
    client.credentials request state = (.error failure, next) := by
  unfold Client.credentials
  rw [bind_of_ok started, direct, if_neg Bool.false_ne_true]
  exact bind_of_error failed

theorem credentials_of_extract {offered : Option Credentials}
    (started : client.init state = (.ok (), ready)) (direct : isContinuation request = false)
    (extracted : client.handler.extract client.caller request ready = (.ok offered, next)) :
    ∃ log, client.credentials request state =
      (.ok ((offered.bind client.accepted).map client.stamped),
        { next with
          session := client.concluded next.session (offered.bind client.accepted), log }) := by
  unfold Client.credentials
  rw [bind_of_ok started, direct, if_neg Bool.false_ne_true, bind_of_ok extracted]
  cases offered with
  | none => exact ⟨next.log, client.conclude_apply none next⟩
  | some offered =>
    obtain ⟨log, checked⟩ := client.check_apply offered next
    exact ⟨log, (bind_of_ok checked).trans (client.conclude_apply _ _)⟩

theorem visit_of_credentials (client : Client) (standing : Standing) (call : Call)
    (reads : call.operation = .credentials) :
    (client.visit standing call).result =
        (client.credentials call.request (call.enter standing)).1.map .credentials ∧
      (client.visit standing call).after =
        (client.credentials call.request (call.enter standing)).2 := by
  unfold Client.visit
  rw [reads]
  rcases read : client.credentials call.request (call.enter standing) with ⟨failure | found, after⟩
  · have performed : client.perform call.request .credentials (call.enter standing) =
      (.error failure, after) := bind_of_error read
    exact ⟨congrArg Prod.fst performed, congrArg Prod.snd performed⟩
  · have performed : client.perform call.request .credentials (call.enter standing) =
      (.ok (.credentials found), after) := bind_of_ok read
    exact ⟨congrArg Prod.fst performed, congrArg Prod.snd performed⟩

end Client

end SignOn
