import SignOn.Proofs.ExtendedUrl
import SignOn.Proofs.ProviderRedirect

/-!
The address that a redirect to an OAuth2 provider goes to. An authorization URL without a fragment,
be there a query in it or not, is extended by what the client has to say, as if the parameters had
been added to it. Behind a fragment the parameters go into the fragment, so the provider is told
nothing.
-/

namespace SignOn

namespace Url

theorem fragment_of_not_mem {cs : List Char} (unfragmented : '#' ∉ cs) : fragment cs = [] := by
  rw [fragment, Text.cut_of_not_mem unfragmented]

theorem extends_append_form (url : String) (fields : Percent.Fields)
    (unfragmented : '#' ∉ url.toList) :
    Extends url fields
      (url ++ (if '?' ∈ url.toList then "&" else "?") ++ Percent.encodeForm fields) := by
  have whole := not_mem_joined unfragmented (Percent.not_mem_encodeForm fields)
  constructor
  · exact parameters_append_form url fields unfragmented
  · rw [toList_append_form, beforeQuery, beforeQuery, beforeFragment_of_not_mem whole,
      beforeFragment_of_not_mem unfragmented, cut_joined]
  · rw [toList_append_form, fragment_of_not_mem whole, fragment_of_not_mem unfragmented]

theorem append_of_fragmented {cs : List Char} (fragmented : '#' ∈ cs) (more : List Char) :
    query (cs ++ more) = query cs ∧ fragment (cs ++ more) = fragment cs ++ more := by
  obtain ⟨before, after, whole, first⟩ := List.eq_append_cons_of_mem fragmented
  constructor
  · unfold query beforeFragment
    rw [Text.cut_append_of_mem fragmented]
  · unfold fragment
    rw [Text.cut_append_of_mem fragmented, whole, Text.cut_append_cons first]
    rfl

end Url

namespace OAuth2Login

/-- The parameters of an authorization request that apply: what is configured and not empty, and
what is drawn from the random bytes. -/
def applicableFields (oauth : OAuth2Login) (redirectUri : Option String) (entropy : Entropy) :
    Percent.Fields :=
  let state := entropy.drawToken 32
  let verifier := state.2.drawToken 64
  [("response_type", "code"), ("state", state.1)] ++ present "client_id" oauth.clientId ++
    present "redirect_uri" redirectUri ++
    (if oauth.scopes = [] then [] else [("scope", " ".intercalate oauth.scopes)]) ++
    (if oauth.usesProofKey then
      [("code_challenge", challengeOf verifier.1), ("code_challenge_method", "S256")]
    else [])

theorem authorizationFields_issue (oauth : OAuth2Login) (redirectUri : Option String)
    (entropy : Entropy) :
    oauth.authorizationFields (oauth.issue entropy).1.state redirectUri
        (oauth.issue entropy).1.verifier =
      oauth.applicableFields redirectUri entropy := by
  unfold authorizationFields applicableFields issue
  simp only [List.isEmpty_iff]
  cases oauth.usesProofKey with
  | true => rfl
  | false => rfl

theorem toList_location (oauth : OAuth2Login) (fields : Percent.Fields) :
    (oauth.location fields).toList =
      Url.joined (oauth.authorizationUrl.getD "").toList (Percent.encodeForm fields).toList :=
  Url.toList_append_form _ _

theorem parameters_location_of_fragmented {oauth : OAuth2Login}
    (fragmented : '#' ∈ (oauth.authorizationUrl.getD "").toList) (fields : Percent.Fields) :
    Url.parameters (oauth.location fields) = Url.parameters (oauth.authorizationUrl.getD "") := by
  unfold Url.parameters
  rw [toList_location, Url.joined, (Url.append_of_fragmented fragmented _).1]

theorem location_not_extends {oauth : OAuth2Login}
    (fragmented : '#' ∈ (oauth.authorizationUrl.getD "").toList) {fields : Percent.Fields}
    (nonempty : fields ≠ []) :
    ¬ Url.Extends (oauth.authorizationUrl.getD "") fields (oauth.location fields) := by
  intro extended
  have read := extended.reads
  rw [parameters_location_of_fragmented fragmented, List.self_eq_append_right] at read
  exact nonempty read

theorem redirect_applicable {client : Client} {oauth : OAuth2Login}
    (handler : client.handler = .oauth2 oauth) (request : Request) (state : State) :
    let fields := oauth.applicableFields (client.caller.callbackFor request.origin) state.entropy
    (client.handler.redirect client.caller request state).1 =
      .ok (.redirect (.redirect (oauth.location fields))) := by
  rw [handler, Handler.redirect_oauth2, destination, authorizationFields_issue]

/-- On every request and with all random bytes a redirect to the provider goes to the authorization
URL, extended by the parameters that apply, if and only if that URL has no fragment. If it has one,
the address says nothing but what the URL says itself, and ends with the parameters as part of the
fragment. -/
theorem authorization_extends_iff {client : Client} {oauth : OAuth2Login}
    (handler : client.handler = .oauth2 oauth) (request : Request) (state : State) :
    let url := oauth.authorizationUrl.getD ""
    let fields := oauth.applicableFields (client.caller.callbackFor request.origin) state.entropy
    ∃ location,
      (client.handler.redirect client.caller request state).1 =
        .ok (.redirect (.redirect location)) ∧
      (Url.Extends url fields location ↔ '#' ∉ url.toList) ∧
      ('#' ∈ url.toList →
        Url.parameters location = Url.parameters url ∧
        Url.fragment location.toList = Url.fragment url.toList ++
          (if '?' ∈ url.toList then '&' else '?') :: (Percent.encodeForm fields).toList) := by
  intro url fields
  have told : fields ≠ [] := List.cons_ne_nil _ _
  refine ⟨oauth.location fields, redirect_applicable handler request state, ⟨?_, ?_⟩, ?_⟩
  · intro extended fragmented
    exact location_not_extends fragmented told extended
  · intro unfragmented
    exact Url.extends_append_form url fields unfragmented
  · intro fragmented
    refine ⟨parameters_location_of_fragmented fragmented fields, ?_⟩
    rw [toList_location, Url.joined, (Url.append_of_fragmented fragmented _).2]

def tenantLogin : OAuth2Login where
  authorizationUrl := some "https://id.test/authorize??tenant=a+b&&"
  clientId := some "c&d=e"
  scopes := ["openid", "mail"]
  usesProofKey := false

def tenantClient : Client := { handler := .oauth2 tenantLogin, callbackUrl := some "/back?x=1#top" }

def zeroState : State :=
  { session := [], response := {}, progress := {}, entropy := ⟨fun _ => 0, 0⟩, provider := {},
    log := [] }

theorem tenantClient_extends :
    tenantClient.handler = .oauth2 tenantLogin ∧
      '#' ∉ (tenantLogin.authorizationUrl.getD "").toList ∧
      ∃ location,
        (tenantClient.handler.redirect tenantClient.caller {} zeroState).1 =
          .ok (.redirect (.redirect location)) ∧
        Url.parameters location =
          [("?tenant", "a b"), ("response_type", "code"),
            ("state", (zeroState.entropy.drawToken 32).1), ("client_id", "c&d=e"),
            ("redirect_uri", "/back?x=1#top"), ("scope", "openid mail")] := by
  have unfragmented : '#' ∉ (tenantLogin.authorizationUrl.getD "").toList := by decide
  have handler : tenantClient.handler = .oauth2 tenantLogin := rfl
  obtain ⟨location, sent, extended, -⟩ := authorization_extends_iff handler {} zeroState
  have own : Url.parameters (tenantLogin.authorizationUrl.getD "") = [("?tenant", "a b")] := by
    decide
  have read := (extended.2 unfragmented).reads
  rw [own] at read
  exact ⟨handler, unfragmented, location, sent, read⟩

def anchoredLogin : OAuth2Login where
  authorizationUrl := some "https://id.test/authorize#login"
  tokenUrl := some "https://id.test/token"
  userinfoUrl := some "https://id.test/user"
  clientId := some "app"

theorem anchored_url_not_extended :
    ¬ ∀ (client : Client) (oauth : OAuth2Login) (request : Request) (state : State)
        (location : String),
      client.handler = .oauth2 oauth → oauth.problems = [] →
      (client.handler.redirect client.caller request state).1 =
        .ok (.redirect (.redirect location)) →
      Url.Extends (oauth.authorizationUrl.getD "")
        (oauth.applicableFields (client.caller.callbackFor request.origin) state.entropy)
        location := by
  intro always
  have fragmented : '#' ∈ (anchoredLogin.authorizationUrl.getD "").toList := by decide
  let client : Client := { handler := .oauth2 anchoredLogin, callbackUrl := some "/back" }
  have handler : client.handler = .oauth2 anchoredLogin := rfl
  exact location_not_extends fragmented (List.cons_ne_nil _ _)
    (always client anchoredLogin {} zeroState _ handler (by decide)
      (redirect_applicable handler {} zeroState))

end OAuth2Login

end SignOn
