import SignOn.Proofs.Attempts
import SignOn.Proofs.ProviderRedirect

/-!
The loop guard over whole runs. Reading credentials sets the mark when it finds none and removes it
when it finds some; a decision that a person waits for removes it; nothing else touches it. So the
mark says that an attempt to authenticate failed and nothing has come of it since, and a protected
page is refused in just that case.
-/

namespace SignOn

open Exchange

/-- The client was ready for the call, or got ready, so that the operation itself began. -/
def Client.Begins (client : Client) (standing : Standing) (call : Call) : Prop :=
  (client.init (call.enter standing)).1 = .ok ()

namespace Visit

/-- A redirect was decided on, and no script waits for it. -/
def Decided (client : Client) (visit : Visit) : Prop :=
  (∃ guarded, visit.call.operation.decision? = some (guarded, false)) ∧
    client.Begins visit.before visit.call

/-- A call that the guard takes no notice of: the client was not ready, reading credentials was
interrupted, a script waits for the decision, or a profile was asked for. -/
def Unnoticed (client : Client) (visit : Visit) : Prop :=
  ¬ client.Begins visit.before visit.call ∨
    (visit.call.operation = .credentials ∧ ∃ failure, visit.result = .error failure) ∨
    (∃ guarded, visit.call.operation.decision? = some (guarded, true)) ∨
    ∃ credentials, visit.call.operation = .profile credentials

end Visit

/-- An attempt failed, and since the last one that did, none succeeded and no redirect was
decided on. -/
def Outstanding (client : Client) (history : List Visit) : Prop :=
  ∃ earlier failed later, history = earlier ++ failed :: later ∧ failed.Failed ∧
    ∀ visit ∈ later, ¬ visit.Failed ∧ ¬ visit.Succeeded ∧ ¬ visit.Decided client

/-- The HTTP answer 403. -/
def Outcome.Forbids : Outcome → Prop
  | .http action => action.kind = .forbidden ∧ action.status = 403
  | .redirect _ => False

/-- An operation ended with the HTTP answer 403, given or raised. -/
def Forbidden : Except Failure Answer → Prop
  | .ok (.outcome outcome) => outcome.Forbids
  | .error (.interrupted action) => (Outcome.http action).Forbids
  | _ => False

/-- A handler that answers a redirect with 403 of its own accord. Handlers are to answer with a
redirect, and only a scripted one can be made to do otherwise. -/
def Handler.Forbids : Handler → Prop
  | .scripted login => ∃ outcome, login.outcome = .valid outcome ∧ outcome.Forbids
  | _ => False

theorem outstanding_append (client : Client) (history : List Visit) (visit : Visit) :
    Outstanding client (history ++ [visit]) ↔
      visit.Failed ∨ Outstanding client history ∧
        ¬ visit.Failed ∧ ¬ visit.Succeeded ∧ ¬ visit.Decided client := by
  constructor
  · rintro ⟨earlier, failed, later, split, failure, quiet⟩
    -- The attempt that failed is the last visit, or the last visit is one of those after it.
    rcases List.eq_nil_or_concat later with none | ⟨middle, last, some⟩
    · subst none
      obtain ⟨-, same⟩ := List.append_inj' split rfl
      have here : visit = failed := by simpa using same
      exact Or.inl (here ▸ failure)
    · rw [List.concat_eq_append] at some
      subst some
      rw [← List.cons_append, ← List.append_assoc] at split
      obtain ⟨before, same⟩ := List.append_inj' split rfl
      have here : visit = last := by simpa using same
      subst here
      refine Or.inr ⟨⟨earlier, failed, middle, before, failure, ?_⟩, quiet visit (by simp)⟩
      intro other member
      exact quiet other (by simp [member])
  · rintro (failure | ⟨⟨earlier, failed, later, split, failure, quiet⟩, silent⟩)
    · exact ⟨history, visit, [], rfl, failure, by simp⟩
    · refine ⟨earlier, failed, later ++ [visit], by simp [split], failure, ?_⟩
      intro other member
      rcases List.mem_append.1 member with inside | last
      · exact quiet other inside
      · rw [List.mem_singleton.1 last]
        exact silent

theorem LoopGuard.isMarked_of_true {client : String} {session : Session}
    (present : session.get? (LoopGuard.key client) = some (.text "true")) :
    LoopGuard.isMarked client session = true := by
  rw [LoopGuard.isMarked, present]
  decide

theorem LoopGuard.consume_get? (client : String) (session : Session) :
    (LoopGuard.consume client session).2.get? (LoopGuard.key client) =
      if LoopGuard.isMarked client session then none
      else session.get? (LoopGuard.key client) := by
  unfold LoopGuard.consume
  split
  · exact (Session.get?_clear _ _ _).trans (if_pos rfl)
  · rfl

namespace Client

variable {client : Client} {standing : Standing} {call : Call}

theorem init_session {state ready : State} {result : Except Failure Unit}
    (done : client.init state = (result, ready)) : ready.session = state.session := by
  have same := client.blind_init.session_eq state
  rw [done] at same
  exact same

theorem credentials_mark (client : Client) (request : Request) (state : State) :
    (∃ after, client.credentials request state = (.ok none, after) ∧
      after.session.get? client.guardKey = some (.text "true")) ∨
    (∃ found after, client.credentials request state = (.ok (some found), after) ∧
      after.session.get? client.guardKey = none) ∨
    (∃ failure after, client.credentials request state = (.error failure, after) ∧
      after.session.get? client.guardKey = state.session.get? client.guardKey) := by
  rcases started : client.init state with ⟨failure | _, ready⟩
  · refine Or.inr (Or.inr ⟨failure, ready, credentials_of_init_error started, ?_⟩)
    rw [init_session started]
  have kept : ready.session = state.session := init_session started
  cases deferred : isContinuation request with
  | true =>
    obtain ⟨failure, raised⟩ := credentials_of_continuation started deferred
    refine Or.inr (Or.inr ⟨failure, _, raised, ?_⟩)
    rw [← kept]
    exact (client.handler.confined_redirect client.caller request).frame ready _
      client.guardKey_not_mem
  | false =>
    have frame := (client.handler.confined_extract client.caller request).frame ready _
      client.guardKey_not_mem
    rcases extracted : client.handler.extract client.caller request ready with
      ⟨failure | offered, next⟩
    · refine Or.inr (Or.inr ⟨failure, next,
        credentials_of_extract_error started deferred extracted, ?_⟩)
      rw [extracted] at frame
      rw [← kept]
      exact frame
    · obtain ⟨log, read⟩ := credentials_of_extract started deferred extracted
      cases left : offered.bind client.accepted with
      | none =>
        rw [left] at read
        refine Or.inl ⟨_, read, ?_⟩
        exact (Session.get?_set_text _ _ _ _).trans (if_pos rfl)
      | some found =>
        rw [left] at read
        refine Or.inr (Or.inl ⟨_, _, read, ?_⟩)
        exact (Session.get?_clear _ _ _).trans (if_pos rfl)

theorem decision_mark {operation : Operation} {guarded : Bool} {request : Request}
    {state ready : State} (decides : operation.decision? = some (guarded, false))
    (started : client.init state = (.ok (), ready)) :
    (client.perform request operation state).2.session.get? client.guardKey =
      if LoopGuard.isMarked client.name state.session then none
      else state.session.get? client.guardKey := by
  have kept : ready.session = state.session := init_session started
  cases refused : LoopGuard.isMarked client.name ready.session && guarded with
  | true =>
    obtain ⟨marked, here⟩ := Bool.and_eq_true_iff.1 refused
    subst here
    obtain ⟨response, reported⟩ :=
      perform_decision decides (resolveRedirect_marked request started marked)
    rw [reported, ← kept, if_pos marked]
    exact (Session.get?_clear _ _ _).trans (if_pos rfl)
  | false =>
    have passing := resolveRedirect_passing request started refused
    have frame := (client.confined_proceed request guarded).frame
      (ready.withSession (LoopGuard.consume client.name ready.session).2) _ client.guardKey_not_mem
    have left := frame.trans (LoopGuard.consume_get? client.name ready.session)
    rw [← kept]
    rcases went : client.proceed request guarded
      (ready.withSession (LoopGuard.consume client.name ready.session).2) with
      ⟨failure | outcome, next⟩
    · rw [went] at left
      rw [perform_decision_error decides (passing.trans went)]
      exact left
    · rw [went] at left
      obtain ⟨response, reported⟩ := perform_decision decides (passing.trans went)
      rw [reported]
      exact left

theorem decision_session {operation : Operation} {guarded scripted : Bool} {request : Request}
    {state : State} (decides : operation.decision? = some (guarded, scripted))
    (idle : scripted = true ∨ (client.init state).1 ≠ .ok ()) :
    (client.perform request operation state).2.session = state.session := by
  rcases started : client.init state with ⟨failure | _, ready⟩
  · rw [perform_decision_error decides (resolveRedirect_of_init_error request started)]
    exact init_session started
  · have waits : scripted = true := idle.resolve_right (fun other => other (by rw [started]))
    subst waits
    obtain ⟨response, reported⟩ :=
      perform_decision decides (resolveRedirect_scripted request started)
    rw [reported]
    show ready.session = state.session
    exact init_session started

end Client

/-- What a call was to the guard, and what it left of the mark. -/
inductive Visit.Moves (client : Client) (visit : Visit) : Prop
  | failed (failed : visit.Failed)
    (left : visit.after.session.get? client.guardKey = some (.text "true"))
  | succeeded (unfailed : ¬ visit.Failed) (succeeded : visit.Succeeded)
    (left : visit.after.session.get? client.guardKey = none)
  | decided (unfailed : ¬ visit.Failed) (decided : visit.Decided client)
    (left : visit.after.session.get? client.guardKey =
      if LoopGuard.isMarked client.name visit.before.session then none
      else visit.before.session.get? client.guardKey)
  | other (unfailed : ¬ visit.Failed) (unsucceeded : ¬ visit.Succeeded)
    (undecided : ¬ visit.Decided client)
    (left : visit.after.session.get? client.guardKey = visit.before.session.get? client.guardKey)

namespace Client

theorem moves_of_credentials (client : Client) (standing : Standing) {call : Call}
    (reads : call.operation = .credentials) : (client.visit standing call).Moves client := by
  have undecided : ¬ (client.visit standing call).Decided client := by
    rintro ⟨⟨guarded, decides⟩, -⟩
    rw [show (client.visit standing call).call.operation = _ from reads] at decides
    cases decides
  obtain ⟨result, after⟩ := client.visit_of_credentials standing call reads
  have seen := congrArg (fun state : State => state.session.get? client.guardKey) after
  rcases client.credentials_mark call.request (call.enter standing) with
    ⟨next, read, mark⟩ | ⟨found, next, read, mark⟩ | ⟨failure, next, read, mark⟩
  · rw [read] at result seen
    exact .failed ⟨reads, result⟩ (seen.trans mark)
  · rw [read] at result seen
    refine .succeeded ?_ ⟨reads, found, result⟩ (seen.trans mark)
    rintro ⟨-, other⟩
    cases result.symm.trans other
  · rw [read] at result seen
    refine .other ?_ ?_ undecided (seen.trans mark)
    · rintro ⟨-, other⟩
      cases result.symm.trans other
    · rintro ⟨-, found, other⟩
      cases result.symm.trans other

/-- What one call does to the mark. -/
theorem visit_moves (client : Client) (standing : Standing) (call : Call) :
    (client.visit standing call).Moves client := by
  by_cases reads : call.operation = .credentials
  · exact client.moves_of_credentials standing reads
  have unfailed : ¬ (client.visit standing call).Failed := fun failed => reads failed.1
  have unsucceeded : ¬ (client.visit standing call).Succeeded := fun found => reads found.1
  by_cases decided : (client.visit standing call).Decided client
  · obtain ⟨⟨guarded, decides⟩, begins⟩ := decided
    have started : client.init (call.enter standing) =
      (.ok (), (client.init (call.enter standing)).2) := Prod.ext begins rfl
    exact .decided unfailed ⟨⟨guarded, decides⟩, begins⟩ (decision_mark decides started)
  · refine .other unfailed unsucceeded decided (congrArg (Entries.get? · _) ?_)
    rcases call.operation.kinds with ⟨guarded, scripted, decides⟩ | found | rest
    · refine decision_session decides ?_
      cases scripted with
      | true => exact Or.inl rfl
      | false => exact Or.inr (fun begins => decided ⟨⟨guarded, decides⟩, begins⟩)
    · exact absurd found reads
    · exact (client.blind_perform call.request rest).session_eq (call.enter standing)

variable {client : Client} {standing : Standing} {call : Call}

theorem begins_of_read {answer : Answer} (reads : call.operation = .credentials)
    (read : (client.visit standing call).result = .ok answer) : client.Begins standing call := by
  rcases started : client.init (call.enter standing) with ⟨failure | _, ready⟩
  · have result := (client.visit_of_credentials standing call reads).1
    rw [credentials_of_init_error started, read] at result
    cases result
  · rw [Client.Begins, started]

theorem not_unnoticed_of_read {answer : Answer} (reads : call.operation = .credentials)
    (read : (client.visit standing call).result = .ok answer) :
    ¬ (client.visit standing call).Unnoticed client := by
  rintro (idle | ⟨-, failure, raised⟩ | ⟨guarded, scripted⟩ | ⟨credentials, profile⟩)
  · exact idle (begins_of_read reads read)
  · cases read.symm.trans raised
  · rw [show (client.visit standing call).call.operation = .credentials from reads] at scripted
    cases scripted
  · rw [show (client.visit standing call).call.operation = .credentials from reads] at profile
    cases profile

theorem mark_of_unnoticed (unnoticed : (client.visit standing call).Unnoticed client) :
    (client.visit standing call).after.session.get? client.guardKey =
      standing.session.get? client.guardKey := by
  cases client.visit_moves standing call with
  | failed failed left => exact absurd unnoticed (not_unnoticed_of_read failed.1 failed.2)
  | succeeded _ succeeded left =>
    obtain ⟨reads, found, read⟩ := succeeded
    exact absurd unnoticed (not_unnoticed_of_read reads read)
  | decided _ decided left =>
    obtain ⟨⟨guarded, decides⟩, begins⟩ := decided
    rcases unnoticed with idle | ⟨reads, -⟩ | ⟨other, scripted⟩ | ⟨credentials, profile⟩
    · exact absurd begins idle
    · rw [reads] at decides
      cases decides
    · rw [scripted] at decides
      cases decides
    · rw [profile] at decides
      cases decides
  | other _ _ _ left => exact left

end Client

/-- The mark says whether an attempt is outstanding. -/
def MarkTells (client : Client) (history : List Visit) (standing : Standing) : Prop :=
  (Outstanding client history ∧ standing.session.get? client.guardKey = some (.text "true")) ∨
    (¬ Outstanding client history ∧ standing.session.get? client.guardKey = none)

theorem markTells_visit (client : Client) (history : List Visit) (standing : Standing) (call : Call)
    (tells : MarkTells client history standing) :
    MarkTells client (history ++ [client.visit standing call])
      (client.visit standing call).after.standing := by
  unfold MarkTells
  rw [outstanding_append]
  cases client.visit_moves standing call with
  | failed failed left => exact Or.inl ⟨Or.inl failed, left⟩
  | succeeded unfailed succeeded left =>
    refine Or.inr ⟨?_, left⟩
    rintro (failed | ⟨-, -, unsucceeded, -⟩)
    · exact unfailed failed
    · exact unsucceeded succeeded
  | decided unfailed decided left =>
    refine Or.inr ⟨?_, left.trans ?_⟩
    · rintro (failed | ⟨-, -, -, undecided⟩)
      · exact unfailed failed
      · exact undecided decided
    · rcases tells with ⟨-, marked⟩ | ⟨-, unmarked⟩
      · exact if_pos (LoopGuard.isMarked_of_true marked)
      · exact (if_neg (ne_true_of_eq_false (LoopGuard.isMarked_of_none unmarked))).trans unmarked
  | other unfailed unsucceeded undecided left =>
    rcases tells with ⟨outstanding, marked⟩ | ⟨settled, unmarked⟩
    · exact Or.inl ⟨Or.inr ⟨outstanding, unfailed, unsucceeded, undecided⟩, left.trans marked⟩
    · refine Or.inr ⟨?_, left.trans unmarked⟩
      rintro (failed | ⟨outstanding, -⟩)
      · exact unfailed failed
      · exact settled outstanding

theorem markTells_run (client : Client) (start : Standing)
    (unmarked : start.session.get? client.guardKey = none) (calls : List Call) :
    MarkTells client (client.run start calls) (client.leave start calls) := by
  refine client.run_invariant (MarkTells client) start ?_ (markTells_visit client) calls
  refine Or.inr ⟨?_, unmarked⟩
  rintro ⟨earlier, failed, later, split, -⟩
  simp at split

theorem Handler.forbids_of_redirect {handler : Handler} {caller : Caller} {request : Request}
    {state next : State} {outcome : Outcome}
    (answered : handler.redirect caller request state = (.ok outcome, next))
    (forbids : outcome.Forbids) : handler.Forbids := by
  cases handler with
  | form login =>
    cases answered
    exact forbids
  | basic login =>
    cases answered
    exact forbids
  | oauth2 login =>
    rw [Handler.redirect_oauth2] at answered
    cases answered
    exact forbids
  | scripted login =>
    cases settled : login.outcome with
    | valid settledOutcome =>
      have same : (Exchange.settle login.outcome _).1 = _ := congrArg Prod.fst answered
      rw [settled] at same
      cases same
      exact ⟨outcome, settled, forbids⟩
    | invalid issues =>
      have same : (Exchange.settle login.outcome _).1 = _ := congrArg Prod.fst answered
      rw [settled] at same
      cases same

theorem Handler.not_forbidden_of_redirect_error {handler : Handler} {caller : Caller}
    {request : Request} {state next : State} {failure : Failure}
    (failed : handler.redirect caller request state = (.error failure, next)) :
    ¬ Forbidden (.error failure) := by
  cases handler with
  | form login => cases failed
  | basic login => cases failed
  | oauth2 login =>
    rw [Handler.redirect_oauth2] at failed
    cases failed
  | scripted login =>
    have same : (Exchange.settle login.outcome _).1 = _ := congrArg Prod.fst failed
    cases settled : login.outcome with
    | valid outcome =>
      rw [settled] at same
      cases same
    | invalid issues =>
      rw [settled] at same
      cases same
      exact id

theorem Operation.forbids_of_report {operation : Operation} {outcome : Outcome}
    (forbidden : Forbidden (operation.report outcome)) : outcome.Forbids := by
  cases operation with
  | redirectAction _ _ =>
    cases outcome with
    | redirect action => exact forbidden
    | http action => exact forbidden
  | redirectionUrl => exact False.elim forbidden
  | init => exact forbidden
  | resolveRedirect _ _ => exact forbidden
  | redirect _ _ => exact forbidden
  | credentials => exact forbidden
  | profile _ => exact forbidden

namespace Client

variable {client : Client} {standing : Standing} {call : Call}

theorem refused_of_marked (decides : call.operation.decision? = some (true, false))
    (begins : client.Begins standing call)
    (marked : LoopGuard.isMarked client.name standing.session = true) :
    Forbidden (client.visit standing call).result ∧
      ∃ record ∈ (client.visit standing call).after.log, record.level = .error := by
  rcases started : client.init (call.enter standing) with ⟨failure | _, ready⟩
  · rw [Client.Begins, started] at begins
    cases begins
  have same : ready.session = standing.session := init_session started
  rw [← same] at marked
  obtain ⟨response, reported⟩ :=
    perform_decision decides (resolveRedirect_marked call.request started marked)
  unfold Client.visit
  rw [reported]
  constructor
  · revert decides
    cases call.operation with
    | redirectionUrl => exact fun other => nomatch other
    | resolveRedirect _ _ => exact fun _ => ⟨rfl, rfl⟩
    | redirectAction _ _ => exact fun _ => ⟨rfl, rfl⟩
    | redirect _ _ => exact fun _ => ⟨rfl, rfl⟩
    | init => exact fun other => nomatch other
    | credentials => exact fun other => nomatch other
    | profile _ => exact fun other => nomatch other
  · exact ⟨LoopGuard.refusalRecord client.name, by simp, rfl⟩

theorem init_quiet {ready : State} (started : client.init (call.enter standing) = (.ok (), ready)) :
    ∀ record ∈ ready.log, record.level ≠ .error := by
  have noted := client.init_log (call.enter standing)
  intro record member
  rw [started] at noted
  rcases noted with none | ⟨message, one⟩
  · rw [show ready.log = [] from none] at member
    cases member
  · rw [show ready.log = [⟨.debug, .client, message⟩] from one] at member
    rw [List.mem_singleton.1 member]
    exact fun other => nomatch other

theorem not_refused_of_unmarked (decides : call.operation.decision? = some (true, false))
    (begins : client.Begins standing call)
    (unmarked : LoopGuard.isMarked client.name standing.session = false) :
    (∀ record ∈ (client.visit standing call).after.log, record.level ≠ .error) ∧
      (¬ client.handler.Forbids → ¬ Forbidden (client.visit standing call).result) := by
  rcases started : client.init (call.enter standing) with ⟨failure | _, ready⟩
  · rw [Client.Begins, started] at begins
    cases begins
  have same : ready.session = standing.session := init_session started
  have passes : (LoopGuard.isMarked client.name ready.session && true) = false := by
    rw [same, unmarked]
    rfl
  have passing := (resolveRedirect_passing call.request started passes).trans
    (congrFun (client.proceed_guarded call.request) _)
  have quiet := init_quiet started
  generalize reached : ready.withSession (LoopGuard.consume client.name ready.session).2 = passed
    at passing
  have silent : (client.handler.redirect client.caller call.request passed).2.log = passed.log :=
    client.handler.keeps_log_redirect client.caller call.request passed
  have logs : passed.log = ready.log := by rw [← reached]; rfl
  rw [logs] at silent
  unfold Client.visit
  rcases went : client.handler.redirect client.caller call.request passed with
    ⟨failure | outcome, next⟩
  · rw [perform_decision_error decides (passing.trans went)]
    rw [went] at silent
    exact ⟨fun record member => quiet record (silent ▸ member),
      fun _ => Handler.not_forbidden_of_redirect_error went⟩
  · obtain ⟨response, reported⟩ := perform_decision decides (passing.trans went)
    rw [reported]
    rw [went] at silent
    refine ⟨fun record member => quiet record (silent ▸ member), fun keeps forbidden => ?_⟩
    exact keeps (Handler.forbids_of_redirect went (Operation.forbids_of_report forbidden))

end Client

/-- A protected page is refused exactly when an attempt is outstanding: one failed, and since the
last that did, none succeeded and no redirect was decided on. The guard takes no notice of any
other call. -/
theorem forbidden_iff_outstanding (client : Client) (start : Standing)
    (unmarked : start.session.get? client.guardKey = none) (calls : List Call) :
    let history := client.run start calls
    let standing := client.leave start calls
    (∀ decision : Call, decision.operation.decision? = some (true, false) →
      client.Begins standing decision →
        let visit := client.visit standing decision
        ((Forbidden visit.result ∧ ∃ record ∈ visit.after.log, record.level = .error) ↔
          Outstanding client history) ∧
        (¬ client.handler.Forbids →
          (Forbidden visit.result ↔ Outstanding client history))) ∧
    ∀ visit ∈ history, visit.Unnoticed client →
      visit.after.session.get? client.guardKey = visit.before.session.get? client.guardKey := by
  intro history standing
  refine ⟨fun decision decides begins => ?_, fun visit member unnoticed => ?_⟩
  · intro visit
    rcases markTells_run client start unmarked calls with ⟨outstanding, marked⟩ | ⟨settled, bare⟩
    · have refused := Client.refused_of_marked decides begins (LoopGuard.isMarked_of_true marked)
      exact ⟨iff_of_true refused outstanding, fun _ => iff_of_true refused.1 outstanding⟩
    · have passed := Client.not_refused_of_unmarked decides begins (LoopGuard.isMarked_of_none bare)
      refine ⟨iff_of_false ?_ settled, fun keeps => iff_of_false (passed.2 keeps) settled⟩
      rintro ⟨-, record, member, error⟩
      exact passed.1 record member error
  · obtain ⟨earlier, later, split⟩ := List.append_of_mem member
    obtain ⟨before, call, -, same⟩ := Client.run_split split
    rw [same] at unnoticed ⊢
    exact Client.mark_of_unnoticed unnoticed

def formClient : Client :=
  { handler := .form { loginUrl := some "/login" }, callbackUrl := some "/callback" }

theorem formClient_forbidden :
    let calls := [Call.bare .credentials, Call.bare (.resolveRedirect true true)]
    let standing := formClient.leave {} calls
    (({} : Standing).session.get? formClient.guardKey = none) ∧
      ¬ formClient.handler.Forbids ∧
      Outstanding formClient (formClient.run {} calls) ∧
      formClient.Begins standing (Call.bare (.resolveRedirect true false)) ∧
      Forbidden (formClient.visit standing (Call.bare (.resolveRedirect true false))).result := by
  intro calls standing
  have begins : formClient.Begins standing (Call.bare (.resolveRedirect true false)) := rfl
  have outstanding : Outstanding formClient (formClient.run {} calls) := by
    refine ⟨[], _, [_], rfl, ⟨rfl, rfl⟩, fun visit member => ?_⟩
    rw [List.mem_singleton.1 member]
    refine ⟨?_, ?_, ?_⟩
    · rintro ⟨reads, -⟩
      cases reads
    · rintro ⟨reads, -⟩
      cases reads
    · rintro ⟨⟨guarded, decides⟩, -⟩
      cases decides
  have told := (forbidden_iff_outstanding formClient {} rfl calls).1 _ rfl begins
  exact ⟨rfl, id, outstanding, begins, (told.2 id).2 outstanding⟩

end SignOn
