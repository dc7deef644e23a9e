import SignOn.Proofs.Check
import SignOn.Proofs.Initialisation
import SignOn.Proofs.RegistrationCalls

/-!
Clients that are left without a callback URL. A client that redirects indirectly and has a blank URL
of its own takes the shared one. Where there is none, or where the client leaves its name out and
the shared one is blank, it is refused for good; a shared URL that is blank but not absent is made a
URL to speak of by the name that is added to it.
-/

namespace SignOn

open Exchange

theorem Handler.raises_start (handler : Handler) (caller name : String) :
    Raises (· ≠ .needsCallback name) (handler.start caller) := by
  intro state failure failed
  rw [handler.start_apply] at failed
  simp only at failed
  split at failed
  · cases failed
    exact nofun
  · split at failed
    · cases failed
    · cases failed
      exact nofun

namespace Client

variable {client : Client} {request : Request} {operation : Operation} {state : State}

/-- No operation gets anywhere for want of a callback URL: each fails for that and leaves everything
as it was, also where others have changed the session in between, and however many are tried. -/
structure Refuses (client : Client) : Prop where
  usage : (Failure.needsCallback client.name).IsUsage
  visit : ∀ (standing : Standing) (call : Call), standing.progress.initialized = false →
    (client.visit standing call).result = .error (.needsCallback client.name) ∧
      (client.visit standing call).after = call.enter standing
  run : ∀ (session : Session) (calls : List Call), ∀ visit ∈ client.run { session } calls,
    visit.result = .error (.needsCallback client.name) ∧
      visit.after = visit.call.enter { session }

theorem refuses_of_lacksCallback (lacks : client.lacksCallback = true) : client.Refuses where
  usage := rfl
  visit _ _ fresh := visit_of_lacksCallback fresh lacks
  run session calls visit member := (run_of_lacksCallback lacks session calls visit member).2

theorem init_ne_needsCallback (reachable : client.lacksCallback = false) (name : String) :
    (client.init state).1 ≠ .error (.needsCallback name) := by
  intro failed
  cases fresh : state.progress.initialized with
  | true =>
    rw [client.init_of_initialized state fresh] at failed
    cases failed
  | false =>
    rw [← initBy_start, initBy_of_fresh fresh reachable] at failed
    refine raises_bind (client.handler.raises_start _ name) (fun _ => ?_) state _ failed rfl
    exact raises_bind (raises_update _) fun _ => raises_update _

theorem perform_ne_needsCallback (reachable : client.lacksCallback = false) (name : String) :
    (client.perform request operation state).1 ≠ .error (.needsCallback name) := fun failed =>
  init_ne_needsCallback reachable name (init_of_usage failed rfl)

theorem lacksCallback_of_parameter {url name : String} {value : Option String}
    (callback : client.callbackUrl = some (Url.addParameter url name value)) :
    client.lacksCallback = false := by
  unfold lacksCallback
  rw [callback]
  change (! client.isDirect && Text.isBlank (Url.addParameter url name value)) = false
  rw [Url.isBlank_addParameter, Bool.and_false]

end Client

namespace Registry

variable {registry : Registry} {shared defaultClient : Option String}
  {offered originals : List Client} {client original : Client} {url : String}

theorem Admitted.first_of_mem (admitted : registry.Admitted shared defaultClient offered originals)
    (member : client ∈ registry.clients) :
    ∃ original, offered.find? (·.name == client.name) = some original ∧
      client = adopt shared original := by
  have found := find_of_mem admitted.holds.names member
  cases came : offered.find? (·.name == client.name) with
  | none =>
    unfold Registry.find at found
    rw [admitted.holds.find?, admitted.first, came] at found
    cases found
  | some original =>
    cases found.symm.trans (admitted.find came)
    exact ⟨original, rfl, rfl⟩

theorem lacksCallback_adopt_of_blank (indirect : original.isDirect = false)
    (own : Text.isAbsentOrBlank original.callbackUrl = true)
    (blank : Text.isAbsentOrBlank shared = true)
    (bare : shared = none ∨ original.includesName = false) :
    (adopt shared original).lacksCallback = true := by
  have effective : effectiveCallback shared original = shared := if_pos own
  have missing : Text.isAbsentOrBlank (sharedCallback shared original) = true := by
    rw [isAbsentOrBlank_sharedCallback, effective]
    exact ⟨blank, bare⟩
  change (! original.isDirect && Text.isAbsentOrBlank (sharedCallback shared original)) = true
  rw [indirect, missing]
  rfl

theorem callbackUrl_adopt_of_blank (own : Text.isAbsentOrBlank original.callbackUrl = true)
    (blank : Text.isBlank url = true) (named : original.includesName = true) :
    (adopt (some url) original).callbackUrl =
      some (Url.addParameter url nameParameter (some original.name)) := by
  have effective : effectiveCallback (some url) original = some url := if_pos own
  change sharedCallback (some url) original = _
  rw [sharedCallback_eq, effective, Option.map_some, named, Url.hasParameter_of_isBlank blank]
  rfl

/-- A registered client that redirects indirectly, and has no callback URL but blank ones, is
refused for good where there is no shared URL or the client leaves its name out. A blank URL that is
shared is its callback URL otherwise, with the name of the client added to it, and no operation
finds fault with that. -/
theorem blank_callback_refused {records : List LogRecord}
    (created : Registry.create shared offered defaultClient = (.ok registry, records))
    (calls : List Client) :
    ∀ client ∈ (registry.registerEach calls).1.clients, ∃ original,
      (offered ++ calls).find? (·.name == client.name) = some original ∧
      client = adopt shared original ∧
      (original.isDirect = false → Text.isAbsentOrBlank original.callbackUrl = true →
        Text.isAbsentOrBlank shared = true →
        ((shared = none ∨ original.includesName = false) → client.Refuses) ∧
        ∀ url, shared = some url → original.includesName = true →
          client.callbackUrl = some (Url.addParameter url nameParameter (some client.name)) ∧
          ∀ (standing : Standing) (call : Call) (name : String),
            (client.visit standing call).result ≠ .error (.needsCallback name)) := by
  intro client member
  obtain ⟨originals, admitted⟩ := (admitted_of_create created).registerEach calls
  obtain ⟨original, came, rfl⟩ := admitted.first_of_mem member
  refine ⟨original, came, rfl, fun indirect own blank => ⟨fun bare => ?_, ?_⟩⟩
  · exact Client.refuses_of_lacksCallback (lacksCallback_adopt_of_blank indirect own blank bare)
  · rintro url rfl named
    have callback := callbackUrl_adopt_of_blank own blank named
    refine ⟨callback, fun standing call name => ?_⟩
    exact Client.perform_ne_needsCallback (Client.lacksCallback_of_parameter callback) name

theorem namelessForm_refused :
    let nameless : Client := { formNamed "A" with callbackUrl := some " ", includesName := false }
    let neighbour : Client := { formNamed "B" with callbackUrl := some "" }
    ∃ registry records,
      Registry.create (some "\t") [nameless] none = (.ok registry, records) ∧
      (registry.registerEach [neighbour]).1.clients =
        [adopt (some "\t") nameless, adopt (some "\t") neighbour] ∧
      (adopt (some "\t") nameless).Refuses ∧
      (adopt (some "\t") neighbour).callbackUrl = some "\t?client_name=B" := by
  intro nameless neighbour
  let registry : Registry :=
    { callbackUrl := some "\t", clients := [adopt (some "\t") nameless] }
  have created : Registry.create (some "\t") [nameless] none = (.ok registry, _) := rfl
  have clients : (registry.registerEach [neighbour]).1.clients =
    [adopt (some "\t") nameless, adopt (some "\t") neighbour] := rfl
  have known := blank_callback_refused created [neighbour]
  rw [clients] at known
  obtain ⟨original, came, -, refused⟩ := known _ List.mem_cons_self
  obtain ⟨other, later, -, tagged⟩ := known _ (List.mem_cons_of_mem _ List.mem_cons_self)
  have first : nameless = original := Option.some.inj came
  have second : neighbour = other := Option.some.inj later
  subst first second
  have written : Url.addParameter "\t" nameParameter (some "B") = "\t?client_name=B" := by decide
  have callback : (adopt (some "\t") neighbour).callbackUrl =
    some (Url.addParameter "\t" nameParameter (some "B")) := ((tagged rfl rfl rfl).2 "\t" rfl rfl).1
  rw [written] at callback
  exact ⟨registry, _, created, clients, (refused rfl rfl rfl).1 (Or.inr rfl), callback⟩

theorem blank_callback_passed :
    ¬ ∀ (shared defaultClient : Option String) (offered : List Client) (registry : Registry)
        (records : List LogRecord),
      Registry.create shared offered defaultClient = (.ok registry, records) →
      ∀ original ∈ offered, original.isDirect = false →
        Text.isAbsentOrBlank original.callbackUrl = true → Text.isAbsentOrBlank shared = true →
        ∃ client, registry.find original.name = .ok client ∧
          ∀ call : Call, ∃ failure,
            (client.visit {} call).result = .error failure ∧ failure.IsUsage := by
  intro always
  obtain ⟨client, found, refused⟩ := always (some "  ") none [formNamed "A"] _ _ rfl
    (formNamed "A") List.mem_cons_self rfl rfl rfl
  cases found
  obtain ⟨failure, failed, -⟩ := refused (.bare (.resolveRedirect false false))
  have sent : ((adopt (some "  ") (formNamed "A")).visit {}
      (.bare (.resolveRedirect false false))).result = .ok (.outcome (.redirect
        (.redirect "  ?client_name=A&needs_client_redirection=true"))) := rfl
  cases sent.symm.trans failed

end Registry

end SignOn
