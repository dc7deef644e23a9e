import SignOn.Proofs.Attempts
import SignOn.Proofs.Profiles
import SignOn.Proofs.ProviderCallback

/-!
The state of an OAuth2 client over whole runs. A redirect to the provider is pending until the next
one, or until a callback tells of an error or brings a code. The session remembers just the redirect
that is pending, so credentials are handed out only for the state of that redirect, and only once.
-/

namespace SignOn

open Exchange

def Answer.isRedirect : Answer → Bool
  | .outcome (.redirect _) => true
  | .action _ => true
  | _ => false

def Operation.redirected (operation : Operation) : Except Failure Answer → Bool
  | .ok answer => operation.decision? == some (true, false) && answer.isRedirect
  | .error _ => false

def Answer.location? : Answer → Option String
  | .outcome decided => decided.location?
  | .action taken => taken.location
  | _ => none

namespace Visit

/-- Where the user agent was sent, by an answer or by one that was raised. -/
def location? (visit : Visit) : Option String :=
  match visit.result with
  | .ok answer => answer.location?
  | .error (.interrupted action) => action.location
  | .error _ => none

/-- Whether the user agent was sent to the provider: by the answer for a protected page, or because
that had been deferred. -/
def redirects (visit : Visit) : Bool :=
  match visit.call.operation with
  | .credentials => Client.isContinuation visit.call.request
  | operation => operation.redirected visit.result

/-- Whether a callback told of an error or brought a code. -/
def spends (visit : Visit) : Bool :=
  match visit.call.operation with
  | .credentials =>
    ! Client.isContinuation visit.call.request && OAuth2Login.spends visit.call.request
  | _ => false

def pending (oauth : OAuth2Login) (earlier : Option Issued) (visit : Visit) : Option Issued :=
  if visit.redirects then some (oauth.issue visit.call.entropy).1
  else if visit.spends then none
  else earlier

end Visit

theorem Visit.pending_of_spends {visit : Visit} (spends : visit.spends = true)
    (oauth : OAuth2Login) (earlier : Option Issued) : visit.pending oauth earlier = none := by
  have stays : visit.redirects = false := by
    unfold Visit.spends at spends
    unfold Visit.redirects
    split at spends
    next operation => exact Bool.not_eq_eq_eq_not.mp (Bool.and_eq_true_iff.1 spends).1
    next => cases spends
  rw [Visit.pending, stays, spends, if_neg Bool.false_ne_true, if_pos rfl]

/-- What was drawn for the redirect that is pending after some visits. -/
def OAuth2Login.pending (oauth : OAuth2Login) (history : List Visit) : Option Issued :=
  history.foldl (Visit.pending oauth) none

theorem OAuth2Login.pending_append (oauth : OAuth2Login) (history more : List Visit) :
    oauth.pending (history ++ more) = more.foldl (Visit.pending oauth) (oauth.pending history) :=
  List.foldl_append

theorem OAuth2Login.foldl_pending_none (oauth : OAuth2Login) (visits : List Visit)
    (still : ∀ visit ∈ visits, visit.redirects = false) :
    visits.foldl (Visit.pending oauth) none = none := by
  induction visits with
  | nil => rfl
  | cons visit rest ih =>
    have unmoved : Visit.pending oauth none visit = none := by
      rw [Visit.pending, still visit List.mem_cons_self, if_neg Bool.false_ne_true]
      exact ite_self none
    rw [List.foldl_cons, unmoved]
    exact ih (fun other member => still other (List.mem_cons_of_mem _ member))

theorem Visit.redirects_of_ne (visit : Visit) (other : visit.call.operation ≠ .credentials) :
    visit.redirects = visit.call.operation.redirected visit.result ∧ visit.spends = false := by
  unfold Visit.redirects Visit.spends
  cases operation : visit.call.operation with
  | credentials => exact absurd operation other
  | _ => exact ⟨rfl, rfl⟩

theorem Operation.redirected_of_ne {operation : Operation}
    (unguarded : operation.decision? ≠ some (true, false)) (result : Except Failure Answer) :
    operation.redirected result = false := by
  cases result with
  | error failure => rfl
  | ok answer => rw [Operation.redirected, beq_eq_false_iff_ne.2 unguarded, Bool.false_and]

theorem Operation.report_redirect {operation : Operation}
    (decides : operation.decision? = some (true, false)) (action : RedirectAction) :
    ∃ answer, operation.report (.redirect action) = .ok answer ∧
      operation.redirected (.ok answer) = true ∧ answer.location? = action.location := by
  cases operation with
  | redirectionUrl => cases decides
  | init => cases decides
  | credentials => cases decides
  | profile _ => cases decides
  | resolveRedirect _ _ =>
    cases decides
    exact ⟨_, rfl, rfl, rfl⟩
  | redirectAction _ _ =>
    cases decides
    exact ⟨_, rfl, rfl, rfl⟩
  | redirect _ _ =>
    cases decides
    exact ⟨_, rfl, rfl, rfl⟩

theorem Operation.redirected_http (operation : Operation) (action : HttpAction) :
    operation.redirected (operation.report (.http action)) = false := by
  cases operation with
  | resolveRedirect _ _ => exact Bool.and_false _
  | redirect _ _ => exact Bool.and_false _
  | _ => rfl

theorem Handler.extract_oauth2 (oauth : OAuth2Login) (caller : Caller) (request : Request) :
    (Handler.oauth2 oauth).extract caller request = OAuth2Login.extract caller request := rfl

namespace Client

theorem agree_of_guard (client : Client) {session other : Session}
    (elsewhere : ∀ key ≠ client.guardKey, other.get? key = session.get? key) :
    Session.Agree (OAuth2Login.keys client.name) other session := by
  intro key member
  exact elsewhere key (fun same => client.guardKey_not_mem (same ▸ member))

theorem agree_clear (client : Client) (session : Session) :
    Session.Agree (OAuth2Login.keys client.name) (LoopGuard.clear client.name session) session :=
  client.agree_of_guard fun _ away => (Session.get?_clear _ _ _).trans (if_neg away)

theorem agree_consume (client : Client) (session : Session) :
    Session.Agree (OAuth2Login.keys client.name) (LoopGuard.consume client.name session).2
      session := by
  unfold LoopGuard.consume
  split
  · exact client.agree_clear session
  · exact fun _ _ => rfl

theorem agree_concluded (client : Client) (session : Session)
    (credentials : Option Credentials) :
    Session.Agree (OAuth2Login.keys client.name) (client.concluded session credentials)
      session := by
  cases credentials with
  | none =>
    exact client.agree_of_guard fun _ away => (Session.get?_set_text _ _ _ _).trans (if_neg away)
  | some credentials => exact client.agree_clear session

variable {client : Client} {oauth : OAuth2Login} {state : State}

theorem resolveRedirect_oauth2 (handler : client.handler = .oauth2 oauth)
    (ready : state.progress.initialized = true)
    (unmarked : LoopGuard.isMarked client.name state.session = false) (request : Request) :
    client.resolveRedirect request true false state =
      (.ok (.redirect (.redirect
          (oauth.destination client.caller request.origin (oauth.issue state.entropy).1))),
        { state with
          session := OAuth2Login.remember client.name (oauth.issue state.entropy).1
            (LoopGuard.consume client.name state.session).2,
          entropy := (oauth.issue state.entropy).2 }) := by
  have started := client.init_of_initialized state ready
  have passes : (LoopGuard.isMarked client.name state.session && true) = false := by
    rw [unmarked]
    rfl
  rw [resolveRedirect_passing request started passes, proceed_guarded, handler,
    Handler.redirect_oauth2]
  rfl

theorem perform_unmoved {after : State} {operation : Operation} {guarded scripted : Bool}
    {request : Request} {outcome : Outcome}
    (decides : operation.decision? = some (guarded, scripted))
    (decided : client.resolveRedirect request guarded scripted state = (.ok outcome, after))
    (unmoved : operation.redirected (operation.report outcome) = false) :
    let done := client.perform request operation state
    done.2.progress = after.progress ∧ operation.redirected done.1 = false ∧
      done.2.session = after.session := by
  obtain ⟨response, reported⟩ := perform_decision decides decided
  rw [reported]
  exact ⟨rfl, unmoved, rfl⟩

theorem decision_oauth2 (handler : client.handler = .oauth2 oauth)
    (ready : state.progress.initialized = true) {operation : Operation} {guarded scripted : Bool}
    (decides : operation.decision? = some (guarded, scripted)) (request : Request) :
    let done := client.perform request operation state
    let issued := (oauth.issue state.entropy).1
    done.2.progress = state.progress ∧
      ∃ session, Session.Agree (OAuth2Login.keys client.name) session state.session ∧
        ((∃ answer, done.1 = .ok answer ∧ operation.redirected (.ok answer) = true ∧
            answer.location? = some (oauth.destination client.caller request.origin issued) ∧
            done.2.session = OAuth2Login.remember client.name issued session) ∨
          operation.redirected done.1 = false ∧ done.2.session = session) := by
  have started := client.init_of_initialized state ready
  intro done issued
  cases scripted with
  | true =>
    obtain ⟨progress, left⟩ := perform_unmoved decides (resolveRedirect_scripted request started)
      (operation.redirected_http _)
    exact ⟨progress, _, fun _ _ => rfl, Or.inr left⟩
  | false =>
    cases refused : LoopGuard.isMarked client.name state.session && guarded with
    | true =>
      obtain ⟨marked, here⟩ := Bool.and_eq_true_iff.1 refused
      subst here
      obtain ⟨progress, left⟩ := perform_unmoved decides
        (resolveRedirect_marked request started marked) (operation.redirected_http _)
      exact ⟨progress, _, client.agree_clear state.session, Or.inr left⟩
    | false =>
      cases guarded with
      | true =>
        rw [Bool.and_true] at refused
        obtain ⟨response, reported⟩ := perform_decision decides
          (resolveRedirect_oauth2 handler ready refused request)
        obtain ⟨answer, answered, redirected, location⟩ :=
          Operation.report_redirect decides (.redirect _)
        rw [answered] at reported
        exact ⟨congrArg (·.2.progress) reported, _, client.agree_consume state.session,
          Or.inl ⟨answer, congrArg Prod.fst reported, redirected, location,
            congrArg (·.2.session) reported⟩⟩
      | false =>
        have indirect : client.isDirect = false := congrArg Handler.isDirect handler
        have passing := resolveRedirect_passing request started refused
        have deferred := passing.trans (congrFun (client.proceed_deferred request indirect) _)
        have unguarded : operation.decision? ≠ some (true, false) := by
          rw [decides]
          decide
        obtain ⟨progress, left⟩ := perform_unmoved decides deferred
          (Operation.redirected_of_ne unguarded _)
        exact ⟨progress, _, client.agree_consume state.session, Or.inr left⟩

theorem continuation_oauth2 (handler : client.handler = .oauth2 oauth)
    (ready : state.progress.initialized = true) {request : Request}
    (deferred : isContinuation request = true) :
    let issued := (oauth.issue state.entropy).1
    ∃ after, client.credentials request state =
        (.error (.interrupted (.redirect "Needs client redirection"
          (oauth.destination client.caller request.origin issued))), after) ∧
      after.progress = state.progress ∧
      after.session = OAuth2Login.remember client.name issued state.session := by
  have started := client.init_of_initialized state ready
  have reached := Handler.redirect_oauth2 oauth client.caller request state
  rw [← handler] at reached
  exact ⟨_, credentials_of_carried started deferred reached rfl, rfl, rfl⟩

theorem callback_oauth2 (handler : client.handler = .oauth2 oauth)
    (unchecked : client.authenticator = none) (ready : state.progress.initialized = true)
    {pending : Option Issued} (remembers : oauth.Remembers client.name pending state.session)
    {request : Request} (direct : isContinuation request = false) :
    ∃ after, client.credentials request state =
        (.ok ((OAuth2Login.granted client.caller request pending).map client.stamped), after) ∧
      after.progress = state.progress ∧
      Session.Agree (OAuth2Login.keys client.name) after.session
        (if OAuth2Login.spends request then OAuth2Login.forgotten client.name state.session
          else state.session) := by
  have started := client.init_of_initialized state ready
  obtain ⟨log, extracted⟩ := OAuth2Login.extract_apply client.caller request remembers
  rw [← Handler.extract_oauth2 oauth, ← handler] at extracted
  obtain ⟨noted, read⟩ := credentials_of_extract started direct extracted
  have accepts : client.accepted = some := by
    funext offered
    rw [accepted, unchecked]
  rw [accepts, Option.bind_fun_some] at read
  exact ⟨_, read, rfl, client.agree_concluded _ _⟩

theorem profile_progress (handler : client.handler = .oauth2 oauth)
    (ready : state.progress.initialized = true) (credentials : Option Credentials) :
    (client.profile credentials state).2.progress = state.progress := by
  have started := client.init_of_initialized state ready
  cases credentials with
  | none =>
    have done : client.profile none state = (.ok none, state) := bind_of_ok started
    rw [done]
  | some credentials =>
    rw [profile_state started]
    unfold Client.bareProfile
    rw [handler]
    split
    · rfl
    · exact oauth.keeps_progress_buildProfile credentials state

/-- The client is ready, and the session remembers the redirect that is pending. -/
structure Awaits (client : Client) (oauth : OAuth2Login) (pending : Option Issued)
    (standing : Standing) : Prop where
  ready : standing.progress.initialized = true
  remembers : oauth.Remembers client.name pending standing.session

section

variable (handler : client.handler = .oauth2 oauth) (unchecked : client.authenticator = none)
  {pending : Option Issued} {standing : Standing} (awaits : client.Awaits oauth pending standing)
  (call : Call)

include handler awaits

theorem visit_awaits_continuation (reads : call.operation = .credentials)
    (deferred : isContinuation call.request = true) :
    client.Awaits oauth ((client.visit standing call).pending oauth pending)
      (client.visit standing call).after.standing := by
  have pends : (client.visit standing call).pending oauth pending =
      some (oauth.issue call.entropy).1 := by
    refine if_pos ?_
    rw [Visit.redirects, show (client.visit standing call).call = call from rfl, reads]
    exact deferred
  obtain ⟨next, read, progress, session⟩ :=
    continuation_oauth2 handler (show (call.enter standing).progress.initialized = true from
      awaits.ready) deferred
  have after := (client.visit_of_credentials standing call reads).2
  rw [read] at after
  rw [pends, after]
  refine ⟨(congrArg Progress.initialized progress).trans awaits.ready, ?_⟩
  show oauth.Remembers client.name _ next.session
  rw [session]
  exact oauth.remembers_remember client.name awaits.remembers.verifierless call.entropy

include unchecked in
theorem visit_awaits_callback (reads : call.operation = .credentials)
    (direct : isContinuation call.request = false) :
    client.Awaits oauth ((client.visit standing call).pending oauth pending)
      (client.visit standing call).after.standing := by
  have pends : (client.visit standing call).pending oauth pending =
      if OAuth2Login.spends call.request then none else pending := by
    rw [Visit.pending, Visit.redirects, Visit.spends,
      show (client.visit standing call).call = call from rfl, reads]
    simp only [direct, Bool.false_eq_true, if_false, Bool.not_false, Bool.true_and]
  obtain ⟨next, read, progress, agree⟩ :=
    callback_oauth2 handler unchecked (show (call.enter standing).progress.initialized = true from
      awaits.ready) awaits.remembers direct
  have after := (client.visit_of_credentials standing call reads).2
  rw [read] at after
  rw [pends, after]
  refine ⟨(congrArg Progress.initialized progress).trans awaits.ready, ?_⟩
  refine OAuth2Login.Remembers.congr ?_ agree
  split
  · exact oauth.remembers_forgotten _ _
  · exact awaits.remembers

theorem visit_awaits_decision {guarded scripted : Bool}
    (decides : call.operation.decision? = some (guarded, scripted)) :
    client.Awaits oauth
      (if call.operation.redirected (client.visit standing call).result then
        some (oauth.issue call.entropy).1 else pending)
      (client.visit standing call).after.standing := by
  obtain ⟨progress, session, agree, sent⟩ :=
    decision_oauth2 handler (show (call.enter standing).progress.initialized = true from
      awaits.ready) decides call.request
  refine ⟨(congrArg Progress.initialized progress).trans awaits.ready, ?_⟩
  have known := awaits.remembers.congr agree
  rcases sent with ⟨answer, answered, redirected, -, left⟩ | ⟨unmoved, left⟩
  · rw [show (client.visit standing call).result = _ from answered, if_pos redirected,
      show (client.visit standing call).after.standing.session = _ from left]
    exact oauth.remembers_remember client.name known.verifierless call.entropy
  · rw [show call.operation.redirected (client.visit standing call).result = _ from unmoved,
      if_neg Bool.false_ne_true,
      show (client.visit standing call).after.standing.session = _ from left]
    exact known

theorem visit_awaits_rest
    (rest : call.operation = .init ∨ ∃ credentials, call.operation = .profile credentials) :
    client.Awaits oauth pending (client.visit standing call).after.standing := by
  have entered : (call.enter standing).progress.initialized = true := awaits.ready
  have progress : (client.visit standing call).after.progress = standing.progress := by
    rw [visit_after]
    rcases rest with init | ⟨credentials, profile⟩
    · rw [init]
      exact congrArg (·.2.progress) (bind_of_ok (client.init_of_initialized _ entered) :
        client.perform call.request .init (call.enter standing) = _)
    · rw [profile, perform_profile_state]
      exact profile_progress handler entered credentials
  have session : (client.visit standing call).after.session = standing.session :=
    (client.blind_perform call.request rest).session_eq (call.enter standing)
  refine ⟨(congrArg Progress.initialized progress).trans awaits.ready, ?_⟩
  rw [show (client.visit standing call).after.standing.session = _ from session]
  exact awaits.remembers

include unchecked in
/-- Every call keeps track of the pending redirect. -/
theorem visit_awaits :
    client.Awaits oauth ((client.visit standing call).pending oauth pending)
      (client.visit standing call).after.standing := by
  by_cases reads : call.operation = .credentials
  · cases deferred : isContinuation call.request with
    | true => exact visit_awaits_continuation handler awaits call reads deferred
    | false => exact visit_awaits_callback handler unchecked awaits call reads deferred
  · -- Only a decision can redirect now, and nothing can be spent.
    obtain ⟨redirects, spends⟩ := (client.visit standing call).redirects_of_ne reads
    have pends : (client.visit standing call).pending oauth pending =
        if call.operation.redirected (client.visit standing call).result then
          some (oauth.issue call.entropy).1 else pending := by
      rw [Visit.pending, redirects, spends, if_neg Bool.false_ne_true]
      rfl
    rw [pends]
    rcases call.operation.kinds with ⟨guarded, scripted, decides⟩ | found | rest
    · exact visit_awaits_decision handler awaits call decides
    · exact absurd found reads
    · have unmoved : call.operation.decision? ≠ some (true, false) := by
        rcases rest with init | ⟨credentials, profile⟩
        · rw [init]
          decide
        · rw [profile]
          exact fun other => nomatch other
      rw [Operation.redirected_of_ne unmoved, if_neg Bool.false_ne_true]
      exact visit_awaits_rest handler awaits call rest

end

theorem location_of_redirects (handler : client.handler = .oauth2 oauth) {standing : Standing}
    (ready : standing.progress.initialized = true) {call : Call}
    (redirects : (client.visit standing call).redirects = true) :
    (client.visit standing call).location? =
      some (oauth.destination client.caller call.request.origin (oauth.issue call.entropy).1) := by
  have entered : (call.enter standing).progress.initialized = true := ready
  by_cases reads : call.operation = .credentials
  · have deferred : isContinuation call.request = true := by
      unfold Visit.redirects at redirects
      rw [show (client.visit standing call).call.operation = _ from reads] at redirects
      exact redirects
    obtain ⟨next, raised, -, -⟩ := continuation_oauth2 handler entered deferred
    have result := (client.visit_of_credentials standing call reads).1
    rw [raised] at result
    rw [Visit.location?, result]
    rfl
  · rw [((client.visit standing call).redirects_of_ne reads).1] at redirects
    have decides : call.operation.decision? = some (true, false) := by
      by_contra unguarded
      cases redirects.symm.trans (Operation.redirected_of_ne unguarded _)
    obtain ⟨-, session, -, sent⟩ := decision_oauth2 handler entered decides call.request
    rcases sent with ⟨answer, answered, -, location, -⟩ | ⟨unmoved, -⟩
    · rw [Visit.location?, show (client.visit standing call).result = _ from answered]
      exact location
    · cases redirects.symm.trans unmoved

/-- After every run the session remembers the redirect that is pending. -/
theorem run_awaits (handler : client.handler = .oauth2 oauth)
    (unchecked : client.authenticator = none) {start : Standing}
    (awaits : client.Awaits oauth none start) (calls : List Call) :
    client.Awaits oauth (oauth.pending (client.run start calls)) (client.leave start calls) := by
  refine client.run_invariant
    (fun history standing => client.Awaits oauth (oauth.pending history) standing) start awaits
    (fun history standing call before => ?_) calls
  rw [oauth.pending_append]
  exact visit_awaits handler unchecked before call

theorem visit_callback (handler : client.handler = .oauth2 oauth)
    (unchecked : client.authenticator = none) {pending : Option Issued} {standing : Standing}
    (awaits : client.Awaits oauth pending standing) {call : Call}
    (reads : call.operation = .credentials) (direct : isContinuation call.request = false) :
    (client.visit standing call).result = .ok (.credentials
      ((OAuth2Login.granted client.caller call.request pending).map client.stamped)) := by
  obtain ⟨next, read, -, -⟩ :=
    callback_oauth2 handler unchecked (show (call.enter standing).progress.initialized = true from
      awaits.ready) awaits.remembers direct
  have result := (client.visit_of_credentials standing call reads).1
  rw [read] at result
  exact result

theorem granted_of_succeeded (handler : client.handler = .oauth2 oauth)
    (unchecked : client.authenticator = none) {pending : Option Issued} {standing : Standing}
    (awaits : client.Awaits oauth pending standing) {call : Call}
    (succeeded : (client.visit standing call).Succeeded) :
    (client.visit standing call).spends = true ∧ pending ≠ none := by
  obtain ⟨operation, credentials, found⟩ := succeeded
  have reads : call.operation = .credentials := operation
  have direct : isContinuation call.request = false := by
    rw [← Bool.not_eq_true]
    intro deferred
    obtain ⟨next, raised, -, -⟩ :=
      continuation_oauth2 handler (show (call.enter standing).progress.initialized = true from
        awaits.ready) deferred
    have result := (client.visit_of_credentials standing call reads).1
    rw [raised, found] at result
    cases result
  rw [visit_callback handler unchecked awaits reads direct] at found
  cases told : OAuth2Login.spends call.request with
  | true =>
    refine ⟨?_, ?_⟩
    · rw [Visit.spends, show (client.visit standing call).call.operation = _ from reads]
      have known : isContinuation (client.visit standing call).call.request = false := direct
      exact Bool.and_eq_true_iff.2 ⟨by rw [known]; rfl, told⟩
    · rintro rfl
      cases found
  | false =>
    have absent := (Bool.or_eq_false_iff.1 told).2
    rw [OAuth2Login.granted_of_no_code (by simpa using absent)] at found
    cases found

theorem visit_callback_iff (handler : client.handler = .oauth2 oauth)
    (unchecked : client.authenticator = none) {pending : Option Issued} {standing : Standing}
    (awaits : client.Awaits oauth pending standing) {call : Call}
    (reads : call.operation = .credentials) (direct : isContinuation call.request = false)
    (credentials : Credentials) :
    (client.visit standing call).result = .ok (.credentials (some credentials)) ↔
      Text.isAbsentOrBlank (call.request.parameter? "error") = true ∧
        ∃ code issued, call.request.parameter? "code" = some code ∧ Text.isBlank code = false ∧
          pending = some issued ∧ call.request.parameter? "state" = some issued.state ∧
          credentials =
            { clientName := some client.name,
              evidence := .code code (some issued.state)
                (client.caller.callbackFor call.request.origin) issued.verifier } := by
  rw [visit_callback handler unchecked awaits reads direct]
  constructor
  · intro result
    cases earned : OAuth2Login.granted client.caller call.request pending with
    | none =>
      rw [earned] at result
      cases result
    | some offered =>
      rw [earned] at result
      obtain ⟨untold, code, issued, here, whole, pends, returned, same⟩ :=
        OAuth2Login.granted_eq_some_iff.1 earned
      cases result
      exact ⟨untold, code, issued, here, whole, pends, returned, by rw [same]; rfl⟩
  · rintro ⟨untold, code, issued, here, whole, pends, returned, rfl⟩
    rw [OAuth2Login.granted_eq_some_iff.2
      ⟨untold, code, issued, here, whole, pends, returned, rfl⟩]
    rfl

theorem redirect_between (handler : client.handler = .oauth2 oauth)
    (unchecked : client.authenticator = none) {start : Standing}
    (begun : client.Awaits oauth none start) {calls : List Call}
    {before between after : List Visit} {first second : Visit}
    (split : client.run start calls = before ++ first :: (between ++ second :: after))
    (succeeded : first.Succeeded) (again : second.Succeeded) :
    ∃ visit ∈ between, visit.redirects = true := by
  obtain ⟨fewer, call, earlier, here⟩ := run_split split
  have reached := run_awaits handler unchecked begun fewer
  rw [← earlier] at reached
  rw [here] at succeeded
  have spent := (granted_of_succeeded handler unchecked reached succeeded).1
  rw [← here] at spent
  -- The same run, cut at the second call: what was pending there is what has become pending since
  -- the first one, which left nothing.
  have later : client.run start calls = (before ++ first :: between) ++ second :: after := by
    rw [List.append_assoc, List.cons_append]
    exact split
  obtain ⟨more, last, since, there⟩ := run_split later
  have reached := run_awaits handler unchecked begun more
  rw [← since, oauth.pending_append, List.foldl_cons, Visit.pending_of_spends spent] at reached
  rw [there] at again
  have pends := (granted_of_succeeded handler unchecked reached again).2
  by_contra still
  refine pends (oauth.foldl_pending_none between fun visit member => ?_)
  exact eq_false_of_ne_true (fun moved => still ⟨visit, member, moved⟩)

theorem awaits_of_mem (handler : client.handler = .oauth2 oauth)
    (unchecked : client.authenticator = none) {start : Standing}
    (begun : client.Awaits oauth none start) {calls : List Call} {visit : Visit}
    (member : visit ∈ client.run start calls) :
    ∃ pending standing call, client.Awaits oauth pending standing ∧
      visit = client.visit standing call := by
  obtain ⟨earlier, later, split⟩ := List.append_of_mem member
  obtain ⟨before, call, -, here⟩ := run_split split
  exact ⟨_, _, call, run_awaits handler unchecked begun before, here⟩

end Client

/-- For every run of a ready OAuth2 client that checks no further: a callback is given credentials
exactly when it returns, with a code and without an error, the state drawn for the redirect that is
pending, and the verifier is the one drawn with it; between two calls that were given credentials
lies a redirect; and what the session remembered is gone after each callback with an error or a
code. Every redirect takes the user agent to the provider with what was drawn for it. -/
theorem credentials_iff_pending (client : Client) (oauth : OAuth2Login)
    (handler : client.handler = .oauth2 oauth) (unchecked : client.authenticator = none)
    (start : Standing) (ready : start.progress.initialized = true)
    (stateless : start.session.get? (OAuth2Login.stateKey client.name) = none)
    (verifierless : start.session.get? (OAuth2Login.verifierKey client.name) = none)
    (calls : List Call) :
    let history := client.run start calls
    let standing := client.leave start calls
    (∀ callback : Call, callback.operation = .credentials →
      Client.isContinuation callback.request = false → ∀ credentials,
        (client.visit standing callback).result = .ok (.credentials (some credentials)) ↔
          Text.isAbsentOrBlank (callback.request.parameter? "error") = true ∧
            ∃ code issued, callback.request.parameter? "code" = some code ∧
              Text.isBlank code = false ∧ oauth.pending history = some issued ∧
              callback.request.parameter? "state" = some issued.state ∧
              credentials =
                { clientName := some client.name,
                  evidence := .code code (some issued.state)
                    (client.caller.callbackFor callback.request.origin) issued.verifier }) ∧
    (∀ issued, oauth.pending history = some issued →
      issued.verifier.isSome = oauth.usesProofKey) ∧
    (∀ before first between second after,
      history = before ++ first :: (between ++ second :: after) →
      first.Succeeded → second.Succeeded → ∃ visit ∈ between, visit.redirects = true) ∧
    (∀ visit ∈ history, visit.spends = true →
      visit.after.session.get? (OAuth2Login.stateKey client.name) = none ∧
        visit.after.session.get? (OAuth2Login.verifierKey client.name) = none) ∧
    ∀ visit ∈ history, visit.redirects = true →
      visit.location? = some (oauth.destination client.caller visit.call.request.origin
        (oauth.issue visit.call.entropy).1) := by
  have begun : client.Awaits oauth none start :=
    ⟨ready, stateless, verifierless, fun _ absent => nomatch absent⟩
  intro history standing
  have awaits : client.Awaits oauth (oauth.pending history) standing :=
    Client.run_awaits handler unchecked begun calls
  refine ⟨?_, fun issued pends => ?_, ?_, ?_, ?_⟩
  · intro callback reads direct
    exact Client.visit_callback_iff handler unchecked awaits reads direct
  · obtain ⟨entropy, drawn⟩ := awaits.remembers.drawn issued pends
    rw [drawn]
    exact oauth.issue_verifier_isSome entropy
  · intro before first between second after split
    exact Client.redirect_between handler unchecked begun split
  · intro visit member spends
    obtain ⟨pending, standing, call, reached, here⟩ :=
      Client.awaits_of_mem handler unchecked begun member
    have left := Client.visit_awaits handler unchecked reached call
    rw [← here, Visit.pending_of_spends spends] at left
    exact ⟨left.remembers.state, left.remembers.verifier⟩
  · intro visit member redirects
    obtain ⟨pending, standing, call, reached, here⟩ :=
      Client.awaits_of_mem handler unchecked begun member
    rw [here] at redirects ⊢
    exact Client.location_of_redirects handler reached.ready redirects

def oauthLogin : OAuth2Login :=
  { authorizationUrl := some "https://id.test/authorize?tenant=1",
    tokenUrl := some "https://id.test/token", userinfoUrl := some "https://id.test/user",
    clientId := some "app" }

def oauthClient : Client := { handler := .oauth2 oauthLogin, callbackUrl := some "/callback" }

theorem oauthClient_credentials :
    let start : Standing := { progress := { initialized := true } }
    let calls := [Call.bare (.resolveRedirect true false)]
    let issued := (oauthLogin.issue (Call.bare .credentials).entropy).1
    let callback := { Call.bare .credentials with
      request := { parameters := [("code", "granted"), ("state", issued.state)] } }
    oauthClient.handler = .oauth2 oauthLogin ∧ oauthClient.authenticator = none ∧
      start.progress.initialized = true ∧
      start.session.get? (OAuth2Login.stateKey oauthClient.name) = none ∧
      start.session.get? (OAuth2Login.verifierKey oauthClient.name) = none ∧
      (oauthClient.visit (oauthClient.leave start calls) callback).result =
        .ok (.credentials (some
          { clientName := some "OAuth2Handler",
            evidence := .code "granted" (some issued.state) (some "/callback")
              issued.verifier })) := by
  intro start calls issued callback
  have told := (credentials_iff_pending oauthClient oauthLogin rfl rfl start rfl rfl rfl calls).1
    callback rfl rfl
  refine ⟨rfl, rfl, rfl, rfl, rfl, (told _).2 ⟨rfl, "granted", issued, ?_, by decide, rfl, ?_, rfl⟩⟩
  · rfl
  · rfl

end SignOn
