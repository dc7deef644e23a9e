import SignOn.Proofs.Check
import SignOn.Proofs.DeferredRedirect
import SignOn.Proofs.ProviderCallback

/-!
Where the user agent is sent. A client whose set-up is in order sends it somewhere: a form has its
page, a provider its address, and what is put off goes to a callback URL with a parameter. Only
a client that redirects straight to its callback URL, and may do without one, can send it nowhere.
-/

namespace SignOn

open Exchange

namespace Text

theorem isBlank_of_mem {text : String} {mark : Char} (inside : mark ∈ text.toList)
    (seen : isSpace mark = false) : isBlank text = false :=
  eq_false_of_ne_true fun blank => not_mem_of_isBlank blank seen inside

end Text

theorem Url.isBlank_prependHost (url : String) (origin : Origin) :
    Text.isBlank (prependHost url origin) = false := by
  have seen : Text.isSpace ':' = false := by decide
  unfold prependHost
  split
  next absolute =>
    refine Text.isBlank_of_mem ?_ seen
    rcases Bool.or_eq_true _ _ ▸ absolute with plain | secure
    · exact (List.isPrefixOf_iff_prefix.1 plain).subset (by decide)
    · exact (List.isPrefixOf_iff_prefix.1 secure).subset (by decide)
  · refine Text.isBlank_of_mem ?_ seen
    simp [Origin.text]

theorem OAuth2Login.isBlank_location (oauth : OAuth2Login) (fields : Percent.Fields) :
    Text.isBlank (oauth.location fields) = false := by
  unfold location
  simp only
  split
  · exact Text.isBlank_of_mem (by simp) (show Text.isSpace '&' = false by decide)
  · exact Text.isBlank_of_mem (by simp) (show Text.isSpace '?' = false by decide)

theorem FormLogin.isBlank_redirect {form : FormLogin} (fit : form.problems = []) (caller : Caller)
    (request : Request) :
    ∃ location, form.redirect caller request = .redirect location ∧
      Text.isBlank location = false := by
  refine ⟨_, rfl, ?_⟩
  split
  · exact Url.isBlank_prependHost _ _
  · unfold problems at fit
    split at fit
    · cases fit
    next whole =>
      obtain ⟨url, given, visible⟩ :=
        Text.isAbsentOrBlank_eq_false_iff.1 (eq_false_of_ne_true whole)
      rw [given]
      exact visible

namespace Client

/-- A client that redirects straight to its callback URL and has none to speak of: none at all, or
one made of blank characters that is not completed with an origin. -/
structure Aimless (client : Client) : Prop where
  straight : ∃ login, client.handler = .basic login
  nowhere : client.callbackUrl = none ∨
    Text.isAbsentOrBlank client.callbackUrl = true ∧ client.contextual = false

variable {client : Client} {request : Request} {state : State}

theorem isBlank_basic_redirect {login : BasicLogin} (straight : client.handler = .basic login)
    (request : Request) :
    ∃ location, BasicLogin.redirect client.caller request = .redirect location ∧
      (Text.isBlank location = true ↔ client.Aimless) := by
  refine ⟨_, rfl, ?_⟩
  have aimless : client.Aimless ↔ client.callbackUrl = none ∨
      Text.isAbsentOrBlank client.callbackUrl = true ∧ client.contextual = false :=
    ⟨Aimless.nowhere, fun nowhere => ⟨⟨login, straight⟩, nowhere⟩⟩
  rw [aimless]
  change Text.isBlank ((client.callbackUrl.map _).getD "") = true ↔ _
  cases client.callbackUrl with
  | none => exact iff_of_true rfl (Or.inl rfl)
  | some url =>
    cases contextual : client.contextual with
    | true => simp [caller, contextual, Url.isBlank_prependHost]
    | false => simp [caller, contextual, Text.isAbsentOrBlank]

theorem redirect_isBlank_iff (builtIn : client.handler.IsBuiltIn) (usable : client.Usable)
    (request : Request) (state : State) :
    ∃ location, (client.handler.redirect client.caller request state).1 =
        .ok (.redirect (.redirect location)) ∧
      (Text.isBlank location = true ↔ client.Aimless) := by
  have fit := usable.settings
  have directed {location : String} (whole : Text.isBlank location = false)
      (other : ∀ login, client.handler ≠ .basic login) :
      Text.isBlank location = true ↔ client.Aimless := by
    refine iff_of_false (by rw [whole]; exact Bool.false_ne_true) ?_
    rintro ⟨⟨login, straight⟩, -⟩
    exact other login straight
  cases handler : client.handler with
  | form login =>
    rw [handler] at fit
    obtain ⟨location, sent, whole⟩ := FormLogin.isBlank_redirect fit client.caller request
    refine ⟨location, ?_, directed whole (handler ▸ nofun)⟩
    change Except.ok (Outcome.redirect (login.redirect client.caller request)) = _
    rw [sent]
  | basic login =>
    obtain ⟨location, sent, blank⟩ := isBlank_basic_redirect handler request
    refine ⟨location, ?_, blank⟩
    change Except.ok (Outcome.redirect (BasicLogin.redirect client.caller request)) = _
    rw [sent]
  | oauth2 login =>
    exact ⟨_, congrArg Prod.fst (Handler.redirect_oauth2 login client.caller request state),
      directed (login.isBlank_location _) (handler ▸ nofun)⟩
  | scripted login =>
    rw [handler] at builtIn
    exact builtIn.elim

theorem usable_of_init (builtIn : client.handler.IsBuiltIn) {first : State}
    (fresh : first.progress.initialized = false) (started : (client.init first).1 = .ok ()) :
    client.Usable := by
  by_contra unusable
  obtain ⟨failure, failed, -⟩ := init_of_not_usable builtIn unusable fresh
  cases started.symm.trans failed

theorem Aimless.isDirect (aimless : client.Aimless) : client.isDirect = true := by
  obtain ⟨login, straight⟩ := aimless.straight
  unfold Client.isDirect
  rw [straight]
  rfl

theorem decision_isBlank_iff (builtIn : client.handler.IsBuiltIn) (usable : client.Usable)
    {guarded scripted : Bool} {action : RedirectAction}
    (decided : (client.resolveRedirect request guarded scripted state).1 =
      .ok (.redirect action)) :
    ∃ location, action = .redirect location ∧
      (Text.isBlank location = true ↔ client.Aimless) := by
  have started : client.init state = (.ok (), _) :=
    Prod.ext (init_of_usable builtIn usable state) rfl
  cases scripted with
  | true =>
    rw [resolveRedirect_scripted request started] at decided
    cases decided
  | false =>
    cases passes : LoopGuard.isMarked client.name (client.init state).2.session && guarded with
    | true =>
      obtain ⟨marked, rfl⟩ := Bool.and_eq_true_iff.1 passes
      rw [resolveRedirect_marked request started marked] at decided
      cases decided
    | false =>
      rw [resolveRedirect_passing request started passes] at decided
      cases direct : client.isDirect || guarded with
      | true =>
        unfold proceed at decided
        rw [if_pos direct] at decided
        obtain ⟨location, sent, blank⟩ := redirect_isBlank_iff builtIn usable request _
        cases sent.symm.trans decided
        exact ⟨location, rfl, blank⟩
      | false =>
        -- The redirect is put off, and its location holds the parameter that says so.
        obtain ⟨indirect, rfl⟩ := Bool.or_eq_false_iff.1 direct
        rw [proceed_deferred client request indirect] at decided
        cases decided
        refine ⟨_, rfl, iff_of_false ?_ fun aimless => ?_⟩
        · unfold deferredLocation
          rw [Url.isBlank_addParameter]
          exact Bool.false_ne_true
        · cases indirect.symm.trans aimless.isDirect

theorem continuation_isBlank_iff (builtIn : client.handler.IsBuiltIn) (usable : client.Usable)
    (continues : isContinuation request = true) :
    ∃ location, (client.credentials request state).1 =
        .error (.interrupted (.redirect "Needs client redirection" location)) ∧
      (Text.isBlank location = true ↔ client.Aimless) := by
  have started : client.init state = (.ok (), _) :=
    Prod.ext (init_of_usable builtIn usable state) rfl
  obtain ⟨location, sent, blank⟩ :=
    redirect_isBlank_iff builtIn usable request (client.init state).2
  have raised := credentials_of_carried started continues (Prod.ext sent rfl) rfl
  exact ⟨location, congrArg Prod.fst raised, blank⟩

end Client

theorem Registry.aimless_adopt_iff {shared : Option String} {client : Client} :
    (adopt shared client).Aimless ↔ (∃ login, client.handler = .basic login) ∧
      (effectiveCallback shared client = none ∨
        Text.isAbsentOrBlank (effectiveCallback shared client) = true ∧
          client.includesName = false ∧ client.contextual = false) := by
  have absent : sharedCallback shared client = none ↔ effectiveCallback shared client = none := by
    rw [sharedCallback_eq, Option.map_eq_none_iff]
  have nowhere : (adopt shared client).Aimless ↔ (∃ login, client.handler = .basic login) ∧
      (sharedCallback shared client = none ∨
        Text.isAbsentOrBlank (sharedCallback shared client) = true ∧
          client.contextual = false) :=
    ⟨fun aimless => ⟨aimless.straight, aimless.nowhere⟩, fun ⟨straight, url⟩ => ⟨straight, url⟩⟩
  rw [nowhere, absent, isAbsentOrBlank_sharedCallback]
  by_cases missing : effectiveCallback shared client = none
  · simp [missing]
  · simp [missing, and_assoc]

namespace Client

/-- A client that gets ready as a new one sends the user agent somewhere, on every request and
wherever it has come to: unless it is aimless no location is blank, and if it is aimless all are.
Registered clients that include their name are aimless only where there is no callback URL. -/
theorem location_isBlank_iff_aimless (builtIn : client.handler.IsBuiltIn) {first : State}
    (fresh : first.progress.initialized = false) (started : (client.init first).1 = .ok ())
    (request : Request) (state : State) :
    (∀ guarded scripted action,
      (client.resolveRedirect request guarded scripted state).1 = .ok (.redirect action) →
        ∃ location, action = .redirect location ∧
          (Text.isBlank location = true ↔ client.Aimless)) ∧
    (isContinuation request = true →
      ∃ location, (client.credentials request state).1 =
          .error (.interrupted (.redirect "Needs client redirection" location)) ∧
        (Text.isBlank location = true ↔ client.Aimless)) ∧
    ∀ shared original, client = Registry.adopt shared original →
      (client.Aimless ↔ (∃ login, original.handler = .basic login) ∧
        (Registry.effectiveCallback shared original = none ∨
          Text.isAbsentOrBlank (Registry.effectiveCallback shared original) = true ∧
            original.includesName = false ∧ original.contextual = false)) := by
  have usable := usable_of_init builtIn fresh started
  refine ⟨fun _ _ _ decided => decision_isBlank_iff builtIn usable decided,
    fun continues => continuation_isBlank_iff builtIn usable continues, ?_⟩
  rintro shared original rfl
  exact Registry.aimless_adopt_iff

def guidedClient : Client where
  handler := .basic {}
  callbackUrl := some ""
  contextual := true

theorem guidedClient_sends :
    let state := Command.freshState Command.stillEntropy
    guidedClient.handler.IsBuiltIn ∧ (guidedClient.init state).1 = .ok () ∧
      (guidedClient.resolveRedirect {} true false state).1 =
        .ok (.redirect (.redirect "http://localhost/")) ∧
      Text.isBlank "http://localhost/" = false := by
  intro state
  have started : (guidedClient.init state).1 = .ok () := rfl
  have decided : (guidedClient.resolveRedirect {} true false state).1 =
    .ok (.redirect (.redirect "http://localhost/")) := rfl
  have builtIn : guidedClient.handler.IsBuiltIn := trivial
  obtain ⟨decisions, -, -⟩ := location_isBlank_iff_aimless builtIn rfl started {} state
  obtain ⟨location, same, blank⟩ := decisions true false _ decided
  cases same
  refine ⟨builtIn, started, decided, eq_false_of_ne_true fun empty => ?_⟩
  rcases (blank.1 empty).nowhere with absent | ⟨-, contextless⟩
  · cases absent
  · cases contextless

theorem aimlessClient_sends_nowhere :
    ¬ ∀ (client : Client) (state : State) (request : Request) (guarded scripted : Bool)
        (location : String),
      client.handler.IsBuiltIn → state.progress.initialized = false →
      (client.init state).1 = .ok () →
      (client.resolveRedirect request guarded scripted state).1 =
        .ok (.redirect (.redirect location)) →
      Text.isBlank location = false := by
  intro claim
  cases claim { handler := .basic {}, givenName := some "A" }
    (Command.freshState Command.stillEntropy) {} true false "" trivial rfl rfl rfl

end Client

end SignOn
