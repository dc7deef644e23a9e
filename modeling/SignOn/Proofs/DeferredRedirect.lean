import SignOn.Proofs.LoopGuard
import SignOn.Proofs.Parameters
import SignOn.Proofs.Registrations

/-!
The redirect that is put off. A user agent that asks for a page anyone may see is sent to the
callback URL first, and only the request that it then makes is answered with the redirect of the
handler. That request reaches the client that sent the user agent there, and what it is answered
with is what a protected page would have been answered with at once.
-/

namespace SignOn

open Exchange

/-- The HTTP answer that stands for a redirect that was put off. -/
def RedirectAction.answer : RedirectAction → HttpAction
  | ⟨.success, _, content⟩ => .ok "Needs client redirection" (content.getD "")
  | ⟨.redirect, location, _⟩ => .redirect "Needs client redirection" (location.getD "")

theorem Client.continuationAction_redirect (action : RedirectAction) :
    Client.continuationAction (.redirect action) = .ok action.answer := by
  obtain ⟨kind, location, content⟩ := action
  cases kind <;> rfl

theorem Response.writeOutcome_answer (response : Response) (action : RedirectAction) :
    response.writeOutcome (.http action.answer) = response.writeOutcome (.redirect action) := by
  obtain ⟨kind, location, content⟩ := action
  cases kind <;> rfl

/-- The request says of each parameter one of the values that the fields give it, and nothing of a
parameter that they do not have. -/
def Request.Carries (request : Request) (fields : Percent.Fields) : Prop :=
  ∀ name, match request.parameter? name with
    | none => Percent.valuesOf name fields = []
    | some value => value ∈ Percent.valuesOf name fields

theorem Handler.redirect_congr (handler : Handler) (caller : Caller) {request other : Request}
    (same : request.origin = other.origin) :
    handler.redirect caller request = handler.redirect caller other := by
  cases handler with
  | form login =>
    change (pure _ : Exchange Outcome) = pure _
    rw [FormLogin.redirect, FormLogin.redirect, same]
  | basic login =>
    change (pure _ : Exchange Outcome) = pure _
    rw [BasicLogin.redirect, BasicLogin.redirect, same]
  | oauth2 login =>
    funext state
    rw [Handler.redirect_oauth2, Handler.redirect_oauth2, same]
  | scripted login => rfl

/-- A handler that answers a redirect with a redirect, as handlers are to do. Only a scripted one
can be made to do otherwise. -/
def Handler.Redirects : Handler → Prop
  | .scripted login => ∃ action, login.outcome = .valid (.redirect action)
  | _ => True

theorem Handler.redirect_of_redirects {handler : Handler} (redirects : handler.Redirects)
    (caller : Caller) (request : Request) (state : State) :
    ∃ action, (handler.redirect caller request state).1 = .ok (.redirect action) := by
  cases handler with
  | form login => exact ⟨_, rfl⟩
  | basic login => exact ⟨_, rfl⟩
  | oauth2 login =>
    exact ⟨_, congrArg Prod.fst (Handler.redirect_oauth2 login caller request state)⟩
  | scripted login =>
    obtain ⟨action, settled⟩ := redirects
    refine ⟨action, ?_⟩
    change ((Exchange.note .redirectOutcome >>= fun _ => Exchange.settle login.outcome) state).1 = _
    rw [settled]
    rfl

namespace Client

variable {client : Client} {request : Request} {state ready next : State}

theorem name_not_blank (client : Client) : Text.isBlank client.name = false := by
  have typed : Text.isBlank client.handler.typeName = false := by
    cases client.handler with
    | form login => exact (by decide : Text.isBlank "FormHandler" = false)
    | basic login => exact (by decide : Text.isBlank "BasicAuthHandler" = false)
    | oauth2 login => exact (by decide : Text.isBlank "OAuth2Handler" = false)
    | scripted login => exact (by decide : Text.isBlank "ScriptedHandler" = false)
  unfold Client.name
  split
  · exact typed
  · split
    · exact typed
    next whole => exact eq_false_of_ne_true whole

theorem isContinuation_withParameter {value : String} (whole : Text.isBlank value = false)
    (request : Request) :
    isContinuation (request.withParameter continuationParameter value) = true := by
  have present : (request.withParameter continuationParameter value).parameter?
      continuationParameter = some value :=
    (Entries.get?_put request.parameters _ _ _).trans (if_pos rfl)
  unfold isContinuation
  rw [present]
  change (! Text.isBlank value) = true
  rw [whole]
  rfl

theorem credentials_of_redirect_error {failure : Failure}
    (started : client.init state = (.ok (), ready)) (deferred : isContinuation request = true)
    (failed : client.handler.redirect client.caller request ready = (.error failure, next)) :
    client.credentials request state = (.error failure, next) := by
  unfold Client.credentials
  rw [bind_of_ok started, if_pos deferred]
  exact bind_of_error failed

theorem redirect_unmarked (started : client.init state = (.ok (), ready))
    (unmarked : LoopGuard.isMarked client.name state.session = false) :
    client.resolveRedirect request true false state =
      client.handler.redirect client.caller request ready := by
  rw [← init_session started] at unmarked
  have passes : (LoopGuard.isMarked client.name ready.session && true) = false := by
    rw [unmarked]
    rfl
  have untouched : (LoopGuard.consume client.name ready.session).2 = ready.session := by
    unfold LoopGuard.consume
    rw [unmarked]
    rfl
  rw [resolveRedirect_passing request started passes, proceed_guarded, untouched,
    State.withSession_self]

end Client

theorem Request.carries_parameters (fields : Percent.Fields) :
    ({ parameters := fields } : Request).Carries fields := by
  intro name
  induction fields with
  | nil => rfl
  | cons field rest ih =>
    obtain ⟨other, value⟩ := field
    by_cases here : name = other
    · subst here
      simp [Request.parameter?, Entries.get?, Percent.valuesOf]
    · have apart : (name == other) = false := beq_eq_false_iff_ne.2 here
      have away : (other == name) = false := beq_eq_false_iff_ne.2 (Ne.symm here)
      simp only [Request.parameter?, Entries.get?, List.lookup_cons, apart, Percent.valuesOf,
        List.filter_cons, away] at ih ⊢
      exact ih

theorem Request.Carries.parameter? {request : Request} {fields : Percent.Fields}
    (carries : request.Carries fields) {name value : String}
    (once : Percent.valuesOf name fields = [value]) : request.parameter? name = some value := by
  have said := carries name
  cases given : request.parameter? name with
  | none =>
    rw [given, once] at said
    cases said
  | some other =>
    rw [given, once] at said
    rw [List.mem_singleton.1 said]

namespace Registry

/-- The callback URL that a client has before its name is added to it: its own unless that is blank,
else the shared one. -/
def effectiveCallback (shared : Option String) (client : Client) : Option String :=
  if Text.isAbsentOrBlank client.callbackUrl then shared else client.callbackUrl

theorem sharedCallback_eq (shared : Option String) (client : Client) :
    sharedCallback shared client = (effectiveCallback shared client).map fun url =>
      if client.includesName && ! Url.hasParameter url nameParameter then
        Url.addParameter url nameParameter (some client.name)
      else url := rfl

theorem adopt_callbackUrl {shared : Option String} {client : Client} {url : String}
    (effective : effectiveCallback shared client = some url) (named : client.includesName = true)
    (untagged : ∀ field ∈ Url.parameters url, field.1 ≠ nameParameter) :
    (adopt shared client).callbackUrl =
      some (Url.addParameter url nameParameter (some client.name)) := by
  have untold : Url.hasParameter url nameParameter = false :=
    Url.hasParameter_eq_false (List.all_eq_true.1 rfl) untagged
  change sharedCallback shared client = _
  rw [sharedCallback_eq, effective]
  simp only [Option.map_some, named, untold, Bool.not_false, Bool.and_self, if_true]

end Registry

namespace Client

theorem parameters_deferredLocation {client : Client} {url : String}
    (callback : client.callbackUrl = some url) {origin : Origin}
    (noQuery : '?' ∉ origin.scheme.toList ∧ '?' ∉ origin.server.toList)
    (noFragment : '#' ∉ origin.scheme.toList ∧ '#' ∉ origin.server.toList) :
    Url.parameters (client.deferredLocation origin) =
      Url.parameters url ++ [(continuationParameter, "true")] := by
  unfold deferredLocation
  rw [Url.parameters_addParameter]
  congr 1
  change Url.parameters ((client.callbackUrl.map _).getD "") = _
  rw [callback]
  change Url.parameters (if client.contextual then Url.prependHost url origin else url) = _
  split
  · exact Url.parameters_prependHost url noQuery noFragment
  · rfl

/-- An indirect client answers for a page that anyone may see with the address at which it carries
the redirect out. -/
theorem visit_deferred {client : Client} (indirect : client.isDirect = false) {start : Standing}
    {asked : Call} (asks : asked.operation = .resolveRedirect false false)
    (begins : client.Begins start asked) :
    (client.visit start asked).result =
      .ok (.outcome (.redirect (.redirect (client.deferredLocation asked.request.origin)))) := by
  have started : client.init (asked.enter start) = (.ok (), _) := Prod.ext begins rfl
  have passing := resolveRedirect_passing asked.request started (Bool.and_false _)
  rw [proceed_deferred client asked.request indirect] at passing
  have decides : asked.operation.decision? = some (false, false) := by
    rw [asks]
    rfl
  obtain ⟨response, reported⟩ := perform_decision decides passing
  refine (congrArg Prod.fst reported).trans ?_
  rw [asks]
  rfl

def extractions (state : State) : Nat := state.progress.calls.count .extractCredentials

theorem keeps_extractions_init (client : Client) : Along (Keeps extractions) client.init := by
  have noted : Along (Keeps extractions) (note .start) := fun state => by
    change (state.progress.calls ++ [_]).count HandlerCall.extractCredentials = _
    rw [List.count_append]
    rfl
  exact client.along_init noted (fun _ => rfl) (fun _ _ => rfl)

theorem keeps_extractions_redirect (handler : Handler) (caller : Caller) (request : Request) :
    Along (Keeps extractions) (handler.redirect caller request) := by
  have noted : Along (Keeps extractions) (note .redirectOutcome) := fun state => by
    change (state.progress.calls ++ [_]).count HandlerCall.extractCredentials = _
    rw [List.count_append]
    rfl
  exact handler.along_redirect noted (fun _ _ => rfl) (fun _ _ _ => rfl) caller request

/-- The request that carries out a deferred redirect is answered with what the handler's redirect
says, and leaves what that leaves. -/
theorem visit_continuation {client : Client} {later : Standing} {returned : Call}
    (reads : returned.operation = .credentials) (begins : client.Begins later returned)
    (continues : isContinuation returned.request = true) :
    let visit := client.visit later returned
    let redirected := client.handler.redirect client.caller returned.request
      (client.init (returned.enter later)).2
    visit.after = redirected.2 ∧
      ∀ action, redirected.1 = .ok (.redirect action) →
        visit.result = .error (.interrupted action.answer) := by
  intro visit redirected
  have started : client.init (returned.enter later) = (.ok (), _) := Prod.ext begins rfl
  obtain ⟨result, after⟩ := client.visit_of_credentials later returned reads
  obtain ⟨failure, raised⟩ := credentials_of_continuation started continues
  constructor
  · rw [after, raised]
  · intro action redirects
    have reached : client.handler.redirect client.caller returned.request
      (client.init (returned.enter later)).2 = (.ok (.redirect action), _) := Prod.ext redirects rfl
    rw [result,
      credentials_of_carried started continues reached (continuationAction_redirect action)]
    rfl

end Client

/-- The user agent that an indirect client puts off comes back to that client. Whatever its name is
and however its callback URL was settled, the address it gives says its name and asks for the
redirect; a request with the parameters of that address is found to belong to it, and is answered
with the redirect of the handler, by its location or its content. No credentials are extracted. -/
theorem deferred_callback_reaches_client
    {shared defaultClient : Option String} {originals more : List Client}
    {created registry : Registry} {records further : List LogRecord}
    (made : Registry.create shared originals defaultClient = (.ok created, records))
    (extended : Registry.registerAll created more = (.ok registry, further))
    (original : Client) (member : original ∈ originals ++ more)
    (indirect : original.isDirect = false) (named : original.includesName = true) (url : String)
    (effective : Registry.effectiveCallback shared original = some url)
    (untagged : ∀ field ∈ Url.parameters url,
      field.1 ≠ Registry.nameParameter ∧ field.1 ≠ Client.continuationParameter)
    (start : Standing) (asked : Call) (asks : asked.operation = .resolveRedirect false false)
    (begins : (Registry.adopt shared original).Begins start asked)
    (noQuery : '?' ∉ asked.request.origin.scheme.toList ∧ '?' ∉ asked.request.origin.server.toList)
    (noFragment :
      '#' ∉ asked.request.origin.scheme.toList ∧ '#' ∉ asked.request.origin.server.toList) :
    let client := Registry.adopt shared original
    ∃ location,
      (client.visit start asked).result = .ok (.outcome (.redirect (.redirect location))) ∧
      ∀ (later : Standing) (returned : Call), returned.request.Carries (Url.parameters location) →
        registry.findFor returned.request = .ok client ∧
        (returned.operation = .credentials → client.Begins later returned →
          let visit := client.visit later returned
          let redirected := client.handler.redirect client.caller returned.request
            (client.init (returned.enter later)).2
          visit.after = redirected.2 ∧
          visit.after.progress.calls.count .extractCredentials =
            later.progress.calls.count .extractCredentials ∧
          (∀ action, redirected.1 = .ok (.redirect action) →
            visit.result = .error (.interrupted action.answer)) ∧
          (client.handler.Redirects → ∃ action, redirected.1 = .ok (.redirect action))) := by
  intro client
  have holds := (Registry.holds_of_create made).registerAll extended
  have registered : client ∈ registry.clients := holds.clients ▸ List.mem_map_of_mem member
  have callback := Registry.adopt_callbackUrl effective named fun field inside =>
    (untagged field inside).1
  have read := Client.parameters_deferredLocation callback noQuery noFragment
  rw [Url.parameters_addParameter, List.append_assoc] at read
  have own (name : String) (known : name = Registry.nameParameter ∨
      name = Client.continuationParameter) : Percent.valuesOf name (Url.parameters url) = [] := by
    refine Percent.valuesOf_eq_nil fun field inside same => ?_
    obtain ⟨first, second⟩ := untagged field inside
    rcases known with tag | tag
    · exact first (same.trans tag)
    · exact second (same.trans tag)
  have put : client.isDirect = false := indirect
  refine ⟨_, Client.visit_deferred put asks begins, fun later returned carries => ?_⟩
  rw [read] at carries
  have tagged : returned.request.parameter? Registry.nameParameter = some client.name := by
    refine carries.parameter? ?_
    rw [Percent.valuesOf_append, own _ (Or.inl rfl)]
    rfl
  have flagged : returned.request.parameter? Client.continuationParameter = some "true" := by
    refine carries.parameter? ?_
    rw [Percent.valuesOf_append, own _ (Or.inr rfl)]
    rfl
  refine ⟨Registry.findFor_of_named holds.names registered tagged client.name_not_blank, ?_⟩
  intro reads ready visit redirected
  have continues : Client.isContinuation returned.request = true := by
    unfold Client.isContinuation
    rw [flagged]
    decide
  obtain ⟨after, answered⟩ := Client.visit_continuation reads ready continues
  refine ⟨after, ?_, answered, fun redirects => Handler.redirect_of_redirects redirects _ _ _⟩
  change Client.extractions visit.after = Client.extractions (returned.enter later)
  rw [after]
  exact (Client.keeps_extractions_redirect _ _ _ _).trans (client.keeps_extractions_init _)

def awkwardClient : Client :=
  { handler := .form { loginUrl := some "/login" }, givenName := some "a&b=c#d%e+f ü" }

theorem awkwardClient_reached :
    let shared := some "/callback?page=1#top"
    let client := Registry.adopt shared awkwardClient
    let asked := Call.bare (.resolveRedirect false false)
    ∃ registry location,
      (Registry.create shared [awkwardClient] none).1 = .ok registry ∧
      awkwardClient ∈ [awkwardClient] ++ [] ∧ awkwardClient.isDirect = false ∧
      awkwardClient.includesName = true ∧
      Registry.effectiveCallback shared awkwardClient = some "/callback?page=1#top" ∧
      (∀ field ∈ Url.parameters "/callback?page=1#top",
        field.1 ≠ Registry.nameParameter ∧ field.1 ≠ Client.continuationParameter) ∧
      client.Begins {} asked ∧
      (client.visit {} asked).result = .ok (.outcome (.redirect (.redirect location))) ∧
      let returned := { Call.bare .credentials with
        request := { parameters := Url.parameters location } }
      registry.findFor returned.request = .ok client ∧
      (client.visit {} returned).result =
        .error (.interrupted (.redirect "Needs client redirection" "/login")) := by
  intro shared client asked
  have untagged : ∀ field ∈ Url.parameters "/callback?page=1#top",
      field.1 ≠ Registry.nameParameter ∧ field.1 ≠ Client.continuationParameter := by
    decide
  have ready : client.Begins {} asked := rfl
  obtain ⟨location, answered, returns⟩ := deferred_callback_reaches_client
    (show Registry.create shared [awkwardClient] none = (.ok _, _) from rfl)
    (show Registry.registerAll _ [] = (.ok _, _) from rfl)
    awkwardClient (by simp) rfl rfl _ rfl untagged {} asked rfl ready (by decide) (by decide)
  obtain ⟨found, continues⟩ := returns {} { Call.bare .credentials with
    request := { parameters := Url.parameters location } } (Request.carries_parameters _)
  obtain ⟨-, -, redirected, -⟩ := continues rfl rfl
  exact ⟨_, location, rfl, by simp, rfl, rfl, rfl, untagged, ready, answered, found,
    redirected _ rfl⟩

/-- A redirect that was put off answers like one that was not: where nothing is marked, the request
that carries it out ends in the same state as a protected page, once what it raises is written to
the response. It fails where that one fails. -/
theorem deferred_eq_immediate (client : Client) (request : Request) (value : String)
    (whole : Text.isBlank value = false) (state : State)
    (begins : (client.init state).1 = .ok ())
    (unmarked : LoopGuard.isMarked client.name state.session = false) :
    let immediate := client.redirect request true false state
    let deferred :=
      client.credentials (request.withParameter Client.continuationParameter value) state
    let answered :=
      (client.handler.redirect client.caller request (client.init state).2).1
    (∀ action, answered = .ok (.redirect action) →
      immediate.1 = .ok (.redirect action) ∧
      ∃ answer, deferred.1 = .error (.interrupted answer) ∧
        { deferred.2 with response := deferred.2.response.writeOutcome (.http answer) } =
          immediate.2) ∧
    (∀ failure, answered = .error failure →
      immediate.1 = .error failure ∧ deferred = (.error failure, immediate.2)) ∧
    (client.handler.Redirects → ∃ action, answered = .ok (.redirect action)) := by
  intro immediate deferred answered
  have started : client.init state = (.ok (), (client.init state).2) := Prod.ext begins rfl
  have continues := Client.isContinuation_withParameter whole request
  have decided : client.resolveRedirect request true false state =
      client.handler.redirect client.caller request (client.init state).2 :=
    Client.redirect_unmarked started unmarked
  have carried : client.handler.redirect client.caller
      (request.withParameter Client.continuationParameter value) (client.init state).2 =
        client.handler.redirect client.caller request (client.init state).2 :=
    congrFun (client.handler.redirect_congr client.caller rfl) _
  refine ⟨?_, ?_, fun redirects => Handler.redirect_of_redirects redirects _ _ _⟩
  · intro action redirected
    have reached : client.handler.redirect client.caller request (client.init state).2 =
      (.ok (.redirect action), _) := Prod.ext redirected rfl
    have written : immediate = (.ok (.redirect action), _) :=
      bind_of_ok (decided.trans reached)
    have raised : deferred = (.error (.interrupted action.answer), _) :=
      Client.credentials_of_carried started continues (carried.trans reached)
        (Client.continuationAction_redirect action)
    refine ⟨congrArg Prod.fst written, action.answer, congrArg Prod.fst raised, ?_⟩
    rw [raised, written]
    simp only [Response.writeOutcome_answer]
  · intro failure failed
    have reached : client.handler.redirect client.caller request (client.init state).2 =
      (.error failure, _) := Prod.ext failed rfl
    have written : immediate = (.error failure, _) := bind_of_error (decided.trans reached)
    have raised : deferred = (.error failure, _) :=
      Client.credentials_of_redirect_error started continues (carried.trans reached)
    exact ⟨congrArg Prod.fst written, raised.trans (congrArg (_, ·.2) written.symm)⟩

def pagelessClient : Client :=
  { handler := .scripted { outcome := .valid (.redirect ⟨.success, some "/unused", none⟩) },
    callbackUrl := some "/callback" }

theorem pagelessClient_answers :
    let state : State :=
      { Call.enter (Call.bare .init) {} with response := { content := "before" } }
    let deferred := pagelessClient.credentials
      (({} : Request).withParameter Client.continuationParameter "true") state
    Text.isBlank "true" = false ∧ (pagelessClient.init state).1 = .ok () ∧
      LoopGuard.isMarked pagelessClient.name state.session = false ∧
      ∃ answer, deferred.1 = .error (.interrupted answer) ∧
        (deferred.2.response.writeOutcome (.http answer)).status = 200 ∧
        (deferred.2.response.writeOutcome (.http answer)).content = "before" := by
  intro state deferred
  have whole : Text.isBlank "true" = false := by decide
  have unmarked : LoopGuard.isMarked pagelessClient.name state.session = false :=
    LoopGuard.isMarked_of_none rfl
  obtain ⟨same, -, -⟩ := deferred_eq_immediate pagelessClient {} "true" whole state rfl unmarked
  obtain ⟨-, answer, raised, written⟩ := same _ rfl
  refine ⟨whole, rfl, unmarked, answer, raised, ?_, ?_⟩
  · exact congrArg (fun state : State => state.response.status) written
  · exact congrArg (fun state : State => state.response.content) written

end SignOn
