import SignOn.Proofs.Form
import SignOn.Proofs.PendingRedirect

/-!
A login through an OAuth2 provider, from the redirect to the token request. What the provider reads
from the address it is visited at is what was drawn and configured; a callback that returns it is
given credentials with the redirect URI and the verifier of that redirect; and the token request
carries these and nothing else.
-/

namespace SignOn

open Exchange

/-- A client whose initialisation is over, and found nothing wrong. -/
structure Client.Initialised (client : Client) (progress : Progress) : Prop where
  ready : progress.initialized = true
  callback : client.lacksCallback = false
  settings : client.handler.problems = []

theorem Url.prependHost_ne_empty {url : String} (nonempty : url ≠ "") (origin : Origin) :
    Url.prependHost url origin ≠ "" := by
  unfold Url.prependHost
  split
  · exact nonempty
  · intro empty
    have letters := congrArg String.toList empty
    simp [Origin.text, String.toList_append] at letters

theorem Handler.problems_of_start {handler : Handler} {client : String} {state after : State}
    (started : handler.start client state = (.ok (), after)) : handler.problems = [] := by
  have checked (middle : State)
      (passed : (if handler.problems.isEmpty then pure ()
        else fail (.misconfigured client handler.problems) : Exchange Unit) middle =
          (.ok (), after)) : handler.problems = [] := by
    split at passed
    next empty => exact List.isEmpty_iff.1 empty
    next => cases passed
  cases handler with
  | scripted login =>
    rcases begun : login.start state with ⟨failure | _, middle⟩
    · cases (bind_of_error begun).symm.trans started
    · exact checked middle ((bind_of_ok begun).symm.trans started)
  | _ => exact checked state started

namespace Client

theorem initialised_of_init {client : Client} {state ready : State}
    (fresh : state.progress.initialized = false) (started : client.init state = (.ok (), ready)) :
    client.Initialised ready.progress := by
  unfold Client.init at started
  rw [bind_apply] at started
  simp only [Exchange.state, fresh, Bool.false_eq_true, if_false] at started
  split at started
  · cases started
  next callback =>
    rcases begun : client.handler.start client.name state with ⟨failure | _, middle⟩
    · cases (bind_of_error begun).symm.trans started
    · cases (bind_of_ok begun).symm.trans started
      exact ⟨rfl, eq_false_of_ne_true callback, Handler.problems_of_start begun⟩

theorem callbackFor_of_initialised {client : Client} {progress : Progress}
    (initialised : client.Initialised progress) (indirect : client.isDirect = false)
    (origin : Origin) :
    ∃ redirectUri, client.caller.callbackFor origin = some redirectUri ∧ redirectUri ≠ "" := by
  have callback := initialised.callback
  rw [lacksCallback, indirect, Bool.not_false, Bool.true_and] at callback
  obtain ⟨url, given, whole⟩ := Text.isAbsentOrBlank_eq_false_iff.1 callback
  have nonempty : url ≠ "" := by
    rintro rfl
    cases whole
  unfold Caller.callbackFor
  rw [show client.caller.callbackUrl = some url from given]
  refine ⟨_, rfl, ?_⟩
  split
  · exact Url.prependHost_ne_empty nonempty origin
  · exact nonempty

end Client

namespace OAuth2Login

/-- The fields of an authorization request that the callback has to agree with. -/
def agreedNames : List String := ["state", "redirect_uri", "code_challenge"]

theorem present_of_ne_empty (name : String) {value : String} (nonempty : value ≠ "") :
    present name (some value) = [(name, value)] :=
  if_neg nonempty

theorem valuesOf_present_of_ne {name other : String} (apart : other ≠ name)
    (value : Option String) : Percent.valuesOf name (present other value) = [] := by
  refine Percent.valuesOf_eq_nil fun field member => ?_
  cases value with
  | none => cases member
  | some value =>
    unfold present at member
    simp only at member
    split at member
    · cases member
    · rw [List.mem_singleton.1 member]
      exact apart

def proofFields : Option String → Percent.Fields
  | none => []
  | some verifier =>
    [("code_challenge", challengeOf verifier), ("code_challenge_method", "S256")]

theorem valuesOf_authorizationFields (oauth : OAuth2Login) (state redirectUri : String)
    (verifier : Option String) (nonempty : redirectUri ≠ "") :
    let fields := oauth.authorizationFields state (some redirectUri) verifier
    Percent.valuesOf "state" fields = [state] ∧
      Percent.valuesOf "redirect_uri" fields = [redirectUri] ∧
      Percent.valuesOf "code_challenge" fields = verifier.toList.map challengeOf := by
  intro fields
  have scope (name : String) (apart : "scope" ≠ name) : Percent.valuesOf name
      (if oauth.scopes.isEmpty then [] else [("scope", " ".intercalate oauth.scopes)]) = [] := by
    refine Percent.valuesOf_eq_nil fun field member => ?_
    split at member
    · cases member
    · rw [List.mem_singleton.1 member]
      exact apart
  have pieces (name : String) : Percent.valuesOf name fields =
      Percent.valuesOf name [("response_type", "code"), ("state", state)] ++
        Percent.valuesOf name (present "client_id" oauth.clientId) ++
        Percent.valuesOf name [("redirect_uri", redirectUri)] ++
        Percent.valuesOf name
          (if oauth.scopes.isEmpty then [] else [("scope", " ".intercalate oauth.scopes)]) ++
        Percent.valuesOf name (proofFields verifier) := by
    simp only [← Percent.valuesOf_append, ← present_of_ne_empty "redirect_uri" nonempty]
    rfl
  refine ⟨?_, ?_, ?_⟩
  · rw [pieces, valuesOf_present_of_ne (by decide), scope _ (by decide)]
    cases verifier <;> rfl
  · rw [pieces, valuesOf_present_of_ne (by decide), scope _ (by decide)]
    cases verifier <;> rfl
  · rw [pieces, valuesOf_present_of_ne (by decide), scope _ (by decide)]
    cases verifier <;> rfl

theorem clientId_of_problems {oauth : OAuth2Login} (usable : oauth.problems = []) :
    ∃ clientId, oauth.clientId = some clientId ∧ clientId ≠ "" := by
  have given : oauth.clientId.getD "" ≠ "" := by
    intro absent
    have problem := (List.append_eq_nil_iff.1 usable).2
    simp only [absent, if_true] at problem
    cases problem
  cases known : oauth.clientId with
  | none =>
    rw [known] at given
    exact absurd rfl given
  | some clientId =>
    rw [known] at given
    exact ⟨clientId, rfl, given⟩

theorem tokenFields_eq {oauth : OAuth2Login} {clientId redirectUri : String}
    {verifier : Option String} (known : oauth.clientId = some clientId) (named : clientId ≠ "")
    (nonempty : redirectUri ≠ "") (drawn : ∀ text ∈ verifier, Text.isBlank text = false)
    (code : String) :
    oauth.tokenFields code (some redirectUri) verifier =
      [("grant_type", "authorization_code"), ("code", code), ("redirect_uri", redirectUri)] ++
        verifier.toList.map ("code_verifier", ·) ++ [("client_id", clientId)] ++
        present "client_secret" oauth.clientSecret := by
  unfold tokenFields
  rw [known, present_of_ne_empty _ nonempty, present_of_ne_empty _ named]
  cases verifier with
  | none => rfl
  | some text =>
    have whole : text ≠ "" := by
      rintro rfl
      cases drawn "" rfl
    rw [present_of_ne_empty _ whole]
    rfl

end OAuth2Login

theorem OAuth2Login.valuesOf_destination {oauth : OAuth2Login} {caller : Caller} {origin : Origin}
    (unfragmented : '#' ∉ (oauth.authorizationUrl.getD "").toList)
    (distinct : ∀ field ∈ Url.parameters (oauth.authorizationUrl.getD ""),
      field.1 ∉ agreedNames)
    {redirectUri : String} (called : caller.callbackFor origin = some redirectUri)
    (nonempty : redirectUri ≠ "") (issued : Issued) :
    let parameters := Url.parameters (oauth.destination caller origin issued)
    Percent.valuesOf "state" parameters = [issued.state] ∧
      Percent.valuesOf "redirect_uri" parameters = [redirectUri] ∧
      Percent.valuesOf "code_challenge" parameters = issued.verifier.toList.map challengeOf := by
  have read : Url.parameters (oauth.destination caller origin issued) =
      Url.parameters (oauth.authorizationUrl.getD "") ++
        oauth.authorizationFields issued.state (some redirectUri) issued.verifier := by
    unfold destination
    rw [called]
    exact Url.parameters_append_form _ _ unfragmented
  have own (name : String) (agreed : name ∈ agreedNames) :
      Percent.valuesOf name (Url.parameters (oauth.authorizationUrl.getD "")) = [] :=
    Percent.valuesOf_eq_nil fun field member same => distinct field member (same ▸ agreed)
  obtain ⟨state, redirect, challenge⟩ :=
    oauth.valuesOf_authorizationFields issued.state redirectUri issued.verifier nonempty
  intro parameters
  refine ⟨?_, ?_, ?_⟩
  · rw [show parameters = _ from read, Percent.valuesOf_append, own _ (by decide), state]
    rfl
  · rw [show parameters = _ from read, Percent.valuesOf_append, own _ (by decide), redirect]
    rfl
  · rw [show parameters = _ from read, Percent.valuesOf_append, own _ (by decide), challenge]
    rfl

theorem Client.visit_protected {client : Client} {oauth : OAuth2Login}
    (handler : client.handler = .oauth2 oauth) {start : Standing}
    (ready : start.progress.initialized = true)
    (unmarked : start.session.get? client.guardKey = none)
    (verifierless : start.session.get? (OAuth2Login.verifierKey client.name) = none)
    {asked : Call} (asks : asked.operation = .resolveRedirect true false) :
    let issued := (oauth.issue asked.entropy).1
    (client.visit start asked).result = .ok (.outcome (.redirect (.redirect
        (oauth.destination client.caller asked.request.origin issued)))) ∧
      oauth.Remembers client.name (some issued) (client.visit start asked).after.session := by
  intro issued
  have decides : asked.operation.decision? = some (true, false) := by
    rw [asks]
    rfl
  have entered : (asked.enter start).progress.initialized = true := ready
  obtain ⟨response, reported⟩ := perform_decision decides
    (resolveRedirect_oauth2 handler entered (LoopGuard.isMarked_of_none unmarked) asked.request)
  constructor
  · refine (congrArg Prod.fst reported).trans ?_
    rw [asks]
    rfl
  · rw [show (client.visit start asked).after.session = _ from congrArg (·.2.session) reported]
    refine oauth.remembers_remember client.name (fun _ => ?_) asked.entropy
    exact (client.agree_consume start.session _ (OAuth2Login.verifierKey_mem _)).trans verifierless

theorem Client.profile_received {client : Client} {oauth : OAuth2Login}
    (handler : client.handler = .oauth2 oauth) {last : Standing}
    (ready : last.progress.initialized = true) {exchange : Call} {credentials : Credentials}
    (asks : exchange.operation = .profile (some credentials)) {code : String}
    {kept redirectUri verifier : Option String}
    (evidence : credentials.evidence = .code code kept redirectUri verifier) :
    ∃ requests,
      (client.visit last exchange).after.provider.received =
        exchange.provider.received ++ requests ∧
      (∀ request ∈ requests.head?, request.method = "POST" ∧
        request.body = Percent.encodeForm (oauth.tokenFields code redirectUri verifier)) ∧
      (client.takesAttached = false → requests ≠ []) := by
  have started := client.init_of_initialized (exchange.enter last) ready
  have made : (client.visit last exchange).after =
      (client.bareProfile credentials (exchange.enter last)).2 := by
    rw [visit_after, asks, perform_profile_state, profile_state started]
  rw [made]
  unfold Client.bareProfile
  cases attached : client.takesAttached with
  | true =>
    refine ⟨[], (List.append_nil _).symm, ?_, ?_⟩
    · intro request absent
      cases absent
    · intro other
      cases other
  | false =>
    rw [if_neg Bool.false_ne_true, handler]
    obtain ⟨more, received⟩ := oauth.buildProfile_received evidence (exchange.enter last)
    refine ⟨_, received, fun request first => ?_, fun _ => List.cons_ne_nil _ _⟩
    cases first
    exact ⟨rfl, rfl⟩

/-- A login, from the redirect of a protected page to the token request. The address that the user
agent is sent to says one state, one redirect URI and, with proof keys, one challenge. A callback at
the same origin that returns the state with a code is given credentials with the code, the state,
the redirect URI and the verifier that the challenge was made of. What is then asked for a profile
is a token first, and that request says the grant type, the code, the redirect URI, the verifier,
the client id and the secret, where there are such, and nothing else. -/
theorem login_round_trip (client : Client) (oauth : OAuth2Login)
    (handler : client.handler = .oauth2 oauth) (unchecked : client.authenticator = none)
    (start : Standing) (initialised : client.Initialised start.progress)
    (unmarked : start.session.get? client.guardKey = none)
    (verifierless : start.session.get? (OAuth2Login.verifierKey client.name) = none)
    (unfragmented : '#' ∉ (oauth.authorizationUrl.getD "").toList)
    (distinct : ∀ field ∈ Url.parameters (oauth.authorizationUrl.getD ""),
      field.1 ∉ OAuth2Login.agreedNames)
    (asked : Call) (asks : asked.operation = .resolveRedirect true false) :
    let sent := client.visit start asked
    ∃ location state redirectUri clientId verifier,
      sent.result = .ok (.outcome (.redirect (.redirect location))) ∧
      Percent.valuesOf "state" (Url.parameters location) = [state] ∧
      Percent.valuesOf "redirect_uri" (Url.parameters location) = [redirectUri] ∧
      Percent.valuesOf "code_challenge" (Url.parameters location) =
        verifier.toList.map (fun text => Base64.encodeUrl (Sha256.hash (Utf8.encode text))) ∧
      verifier.isSome = oauth.usesProofKey ∧
      oauth.clientId = some clientId ∧
      ∀ (later : Standing) (returned : Call) (code : String),
        later.progress.initialized = true →
        Session.Agree (OAuth2Login.keys client.name) later.session sent.after.session →
        returned.operation = .credentials →
        Client.isContinuation returned.request = false →
        returned.request.origin = asked.request.origin →
        Text.isAbsentOrBlank (returned.request.parameter? "error") = true →
        returned.request.parameter? "state" = some state →
        returned.request.parameter? "code" = some code → Text.isBlank code = false →
        let credentials : Credentials :=
          { clientName := some client.name,
            evidence := .code code (some state) (some redirectUri) verifier }
        (client.visit later returned).result = .ok (.credentials (some credentials)) ∧
        ∀ (last : Standing) (exchange : Call), last.progress.initialized = true →
          exchange.operation = .profile (some credentials) →
          ∃ requests,
            (client.visit last exchange).after.provider.received =
              exchange.provider.received ++ requests ∧
            (∀ request ∈ requests.head?, request.method = "POST" ∧
              Percent.decodeForm request.body =
                [("grant_type", "authorization_code"), ("code", code),
                  ("redirect_uri", redirectUri)] ++
                  verifier.toList.map ("code_verifier", ·) ++ [("client_id", clientId)] ++
                  OAuth2Login.present "client_secret" oauth.clientSecret) ∧
            (client.takesAttached = false → requests ≠ []) := by
  intro sent
  have indirect : client.isDirect = false := congrArg Handler.isDirect handler
  obtain ⟨redirectUri, called, nonempty⟩ :=
    Client.callbackFor_of_initialised initialised indirect asked.request.origin
  have usable : oauth.problems = [] := by
    have settings := initialised.settings
    rw [handler] at settings
    exact settings
  obtain ⟨clientId, known, named⟩ := OAuth2Login.clientId_of_problems usable
  obtain ⟨answered, remembers⟩ :=
    Client.visit_protected handler initialised.ready unmarked verifierless asks
  generalize drawn : (oauth.issue asked.entropy).1 = issued at answered remembers
  obtain ⟨state, redirect, challenge⟩ :=
    OAuth2Login.valuesOf_destination unfragmented distinct called nonempty issued
  refine ⟨_, issued.state, redirectUri, clientId, issued.verifier, answered, state, redirect,
    challenge, drawn ▸ oauth.issue_verifier_isSome _, known, ?_⟩
  intro later returned code ready same reads direct origin untold echoed present whole credentials
  have awaits : client.Awaits oauth (some issued) later := ⟨ready, remembers.congr same⟩
  have granted : OAuth2Login.granted client.caller returned.request (some issued) =
      some { evidence := .code code (some issued.state) (some redirectUri) issued.verifier } := by
    rw [← called, ← origin]
    exact OAuth2Login.granted_eq_some_iff.2
      ⟨untold, code, issued, present, whole, rfl, echoed, rfl⟩
  constructor
  · rw [Client.visit_callback handler unchecked awaits reads direct, granted]
    rfl
  · intro last exchange ready asks
    obtain ⟨requests, received, first, sent⟩ :=
      Client.profile_received handler ready asks (show credentials.evidence = _ from rfl)
    refine ⟨requests, received, fun request member => ?_, sent⟩
    obtain ⟨method, body⟩ := first request member
    have proof : ∀ text ∈ issued.verifier, Text.isBlank text = false :=
      drawn ▸ oauth.issue_verifier_not_blank asked.entropy
    rw [body, Percent.decodeForm_encodeForm,
      OAuth2Login.tokenFields_eq known named nonempty proof]
    exact ⟨method, rfl⟩

theorem oauthClient_login :
    let start : Standing := { progress := { initialized := true } }
    let asked := Call.bare (.resolveRedirect true false)
    let sent := oauthClient.visit start asked
    oauthClient.handler = .oauth2 oauthLogin ∧ oauthClient.authenticator = none ∧
      oauthClient.Initialised start.progress ∧
      start.session.get? oauthClient.guardKey = none ∧
      start.session.get? (OAuth2Login.verifierKey oauthClient.name) = none ∧
      '#' ∉ (oauthLogin.authorizationUrl.getD "").toList ∧
      (∀ field ∈ Url.parameters (oauthLogin.authorizationUrl.getD ""),
        field.1 ∉ OAuth2Login.agreedNames) ∧
      asked.operation = .resolveRedirect true false ∧
      ∃ location state redirectUri verifier,
        sent.result = .ok (.outcome (.redirect (.redirect location))) ∧
        Percent.valuesOf "state" (Url.parameters location) = [state] ∧
        (oauthClient.visit sent.after.standing { Call.bare .credentials with
            request := { parameters := [("code", "granted"), ("state", state)] } }).result =
          .ok (.credentials (some
            { clientName := some oauthClient.name,
              evidence := .code "granted" (some state) (some redirectUri) verifier })) := by
  intro start asked sent
  have initialised : oauthClient.Initialised start.progress := ⟨rfl, rfl, rfl⟩
  have unfragmented : '#' ∉ (oauthLogin.authorizationUrl.getD "").toList := by decide
  have distinct : ∀ field ∈ Url.parameters (oauthLogin.authorizationUrl.getD ""),
      field.1 ∉ OAuth2Login.agreedNames := by
    decide
  obtain ⟨location, state, redirectUri, clientId, verifier, answered, read, -, -, -, -, returns⟩ :=
    login_round_trip oauthClient oauthLogin rfl rfl start initialised rfl rfl unfragmented distinct
      asked rfl
  have returned := returns sent.after.standing { Call.bare .credentials with
      request := { parameters := [("code", "granted"), ("state", state)] } }
    "granted" rfl (fun _ _ => rfl) rfl rfl rfl rfl rfl rfl (by decide)
  exact ⟨rfl, rfl, initialised, rfl, rfl, unfragmented, distinct, rfl, location, state,
    redirectUri, verifier, answered, read, returned.1⟩

end SignOn
