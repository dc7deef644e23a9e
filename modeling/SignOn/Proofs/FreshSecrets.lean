import Mathlib.Data.List.Basic
import SignOn.Proofs.AuthorizationUrl
import SignOn.Proofs.LoginRoundTrip

/-!
The secrets of a redirect to an OAuth2 provider. State and verifier are the URL form of the bytes
that are drawn for them, the whole of it: texts of a fixed length in letters, digits, `-` and `_`,
and different bytes make different texts. The challenge is such a text of the hash of the verifier.
No form has to escape any of them, so they stand in the address of the provider as they are.
-/

namespace SignOn

theorem Base64.isUnreserved_of_isUrlDigit {c : Char} (digit : isUrlDigit c = true) :
    Percent.isUnreserved c = true := by
  unfold isUrlDigit at digit
  unfold Percent.isUnreserved
  simp only [Bool.or_eq_true] at digit ⊢
  tauto

theorem Base64.ascii_digit : ∀ n < 64, (urlSafe.digit n).toNat < 0x80 := by
  decide

theorem Base64.ascii_encodeUrl (bytes : List UInt8) :
    ∀ c ∈ (encodeUrl bytes).toList, c.toNat < 0x80 := by
  intro c inside
  rw [toList_encodeUrl] at inside
  obtain ⟨n, small, rfl⟩ := mem_encode inside
  exact ascii_digit n small

namespace Percent

theorem encodeFormChars_of_unreserved {cs : List Char}
    (plain : ∀ c ∈ cs, isUnreserved c = true) : encodeFormChars cs = cs := by
  have each : ∀ c ∈ cs, escapeFormChar c = escapeChar c := by
    intro c inside
    have letter : c ≠ ' ' := by
      rintro rfl
      cases plain ' ' inside
    exact if_neg letter
  calc encodeFormChars cs
      = encodeChars cs := List.flatMap_congr each
    _ = cs := encodeChars_of_unreserved plain

/-- The fields that stand behind others in a form. -/
def further (fields : Fields) : String :=
  String.ofList (fields.flatMap fun field => '&' :: formField field)

theorem further_append (first second : Fields) :
    further (first ++ second) = further first ++ further second := by
  rw [further, List.flatMap_append, String.ofList_append]
  rfl

theorem encodeForm_cons (first : String × String) (fields : Fields) :
    encodeForm (first :: fields) = String.ofList (formField first) ++ further fields := by
  rw [encodeForm, further, ← String.ofList_append, List.map_cons]
  congr 1
  induction fields generalizing first with
  | nil => simp
  | cons second fields ih =>
    rw [List.map_cons, List.intercalate_cons_cons, ih, List.flatMap_cons]
    simp

def isUnescaped (text : String) : Bool := text.toList.all isUnreserved

theorem ofList_formField {name value : String} (plain : isUnescaped name = true)
    (unescaped : isUnescaped value = true) :
    String.ofList (formField (name, value)) = name ++ "=" ++ value := by
  unfold formField
  rw [encodeFormChars_of_unreserved (List.all_eq_true.1 plain),
    encodeFormChars_of_unreserved (List.all_eq_true.1 unescaped)]
  apply String.toList_inj.1
  simp

theorem further_cons {name value : String} (plain : isUnescaped name = true)
    (unescaped : isUnescaped value = true) (fields : Fields) :
    further ((name, value) :: fields) = "&" ++ name ++ "=" ++ value ++ further fields := by
  have written := ofList_formField plain unescaped
  unfold further
  rw [List.flatMap_cons, String.ofList_append]
  apply String.toList_inj.1
  have letters := congrArg String.toList written
  rw [String.toList_ofList] at letters
  simp [letters]

end Percent

theorem Base64.UrlText.isUnescaped {length : Nat} {text : String} (digits : UrlText length text) :
    Percent.isUnescaped text = true :=
  List.all_eq_true.2 fun c inside => isUnreserved_of_isUrlDigit (digits.digits c inside)

namespace OAuth2Login

/-- What RFC 7636 allows for a verifier and for a challenge: 43 to 128 unreserved characters. -/
structure Admissible (text : String) : Prop where
  least : 43 ≤ text.length
  most : text.length ≤ 128
  unreserved : ∀ c ∈ text.toList, Percent.isUnreserved c = true

theorem admissible_of_urlText {length : Nat} {text : String} (digits : Base64.UrlText length text)
    (least : 43 ≤ length) (most : length ≤ 128) : Admissible text where
  least := by rwa [digits.length_eq]
  most := by rwa [digits.length_eq]
  unreserved c inside := Base64.isUnreserved_of_isUrlDigit (digits.digits c inside)

theorem urlText_state (source : Entropy) :
    Base64.UrlText 43 (Base64.encodeUrl (stateBytes source)) := by
  have digits := Base64.urlText_encodeUrl (stateBytes source)
  rw [show (stateBytes source).length = 32 from source.draw_length 32] at digits
  exact digits

theorem urlText_verifier (source : Entropy) :
    Base64.UrlText 86 (Base64.encodeUrl (verifierBytes source)) := by
  have digits := Base64.urlText_encodeUrl (verifierBytes source)
  rw [show (verifierBytes source).length = 64 from Entropy.draw_length 64 _] at digits
  exact digits

theorem urlText_hash (message : List UInt8) :
    Base64.UrlText 43 (Base64.encodeUrl (Sha256.hash message)) := by
  have digits := Base64.urlText_encodeUrl (Sha256.hash message)
  rw [Sha256.hash_length] at digits
  exact digits

theorem challengeOf_encodeUrl (bytes : List UInt8) :
    challengeOf (Base64.encodeUrl bytes) =
      Base64.encodeUrl (Sha256.hash (Utf8.asciiBytes (Base64.encodeUrl bytes))) := by
  rw [challengeOf, Utf8.encode_of_ascii (Base64.ascii_encodeUrl bytes)]

/-- The example that RFC 7636 gives. -/
example : challengeOf "dBjftJeZ4CVP-mB92K27uhbUJU1p1r_wW1gFWFOEjXk" =
    "E9Melhoa2OwvFrEMTJguCHaoeK1t8URWbuGJSstw-cM" := by
  decide +kernel

/-- What an authorization request says of the client and of what it asks for. -/
def clientFields (oauth : OAuth2Login) (redirectUri : Option String) : Percent.Fields :=
  present "client_id" oauth.clientId ++ present "redirect_uri" redirectUri ++
    (if oauth.scopes.isEmpty then [] else [("scope", " ".intercalate oauth.scopes)])

def proofText : Option String → String
  | none => ""
  | some verifier =>
    "&code_challenge=" ++ challengeOf verifier ++ "&code_challenge_method=S256"

theorem further_proofFields (verifier : Option String) :
    Percent.further (proofFields verifier) = proofText verifier := by
  cases verifier with
  | none => rfl
  | some verifier =>
    have plain : Percent.isUnescaped (challengeOf verifier) = true :=
      (urlText_hash (Utf8.encode verifier)).isUnescaped
    unfold proofFields proofText
    rw [Percent.further_cons (by decide) plain,
      Percent.further_cons (by decide) (by decide)]
    simp [Percent.further, String.append_assoc]

theorem location_authorizationFields (oauth : OAuth2Login) {length : Nat} {state : String}
    (digits : Base64.UrlText length state) (redirectUri verifier : Option String) :
    let url := oauth.authorizationUrl.getD ""
    oauth.location (oauth.authorizationFields state redirectUri verifier) =
      url ++ (if '?' ∈ url.toList then "&" else "?") ++ "response_type=code&state=" ++ state ++
        Percent.further (oauth.clientFields redirectUri) ++ proofText verifier := by
  intro url
  have fields : oauth.authorizationFields state redirectUri verifier =
      ("response_type", "code") :: ("state", state) ::
        (oauth.clientFields redirectUri ++ proofFields verifier) := by
    simp only [authorizationFields, clientFields, List.append_assoc]
    rfl
  have begins : Percent.encodeForm (oauth.authorizationFields state redirectUri verifier) =
      "response_type=code&state=" ++ state ++ Percent.further (oauth.clientFields redirectUri) ++
        proofText verifier := by
    rw [fields, Percent.encodeForm_cons, Percent.ofList_formField (by decide) (by decide),
      Percent.further_cons (by decide) digits.isUnescaped, Percent.further_append,
      further_proofFields]
    have joined : "response_type=code" ++ "&state=" = "response_type=code&state=" := by decide
    simp only [← joined, String.append_assoc]
    rfl
  unfold location
  rw [begins]
  simp only [url, String.append_assoc]

theorem redirect_keeps_state (oauth : OAuth2Login) (caller : Caller) (request : Request)
    (before : State) :
    (oauth.redirect caller request before).2.session.get? (stateKey caller.name) =
      some (.text (Base64.encodeUrl (stateBytes before.entropy))) := by
  rw [redirect_apply, ← oauth.issue_state]
  exact remember_stateKey caller.name _ _

theorem redirect_keeps_verifier {oauth : OAuth2Login} (proof : oauth.usesProofKey = true)
    (caller : Caller) (request : Request) (before : State) :
    (oauth.redirect caller request before).2.session.get? (verifierKey caller.name) =
      some (.text (Base64.encodeUrl (verifierBytes before.entropy))) := by
  rw [redirect_apply]
  refine (remember_verifierKey caller.name _ _).trans ?_
  rw [issue_verifier, proof]
  rfl

/-- On every redirect the state and, with proof keys, the verifier are the URL form of the bytes
that were drawn for them, of which nothing is cut off: 43 and 86 letters, digits, `-` and `_`. The
challenge is the URL form of the hash of the verifier, 43 such characters. State and challenge stand
in the location as they are. Two redirects keep the same state, or the same verifier, just when they
drew the same bytes for it. -/
theorem secrets_well_formed (oauth : OAuth2Login) (caller : Caller) (request : Request)
    (before : State) :
    let sent := oauth.redirect caller request before
    let state := Base64.encodeUrl (stateBytes before.entropy)
    let verifier := Base64.encodeUrl (verifierBytes before.entropy)
    let challenge := Base64.encodeUrl (Sha256.hash (Utf8.asciiBytes verifier))
    let url := oauth.authorizationUrl.getD ""
    sent.1 = .ok (.redirect
        (url ++ (if '?' ∈ url.toList then "&" else "?") ++ "response_type=code&state=" ++ state ++
          Percent.further (oauth.clientFields (caller.callbackFor request.origin)) ++
          if oauth.usesProofKey then
            "&code_challenge=" ++ challenge ++ "&code_challenge_method=S256"
          else "")) ∧
      sent.2.session.get? (stateKey caller.name) = some (.text state) ∧
      (oauth.usesProofKey = true →
        sent.2.session.get? (verifierKey caller.name) = some (.text verifier)) ∧
      (Base64.UrlText 43 state ∧ Text.isBlank state = false) ∧
      (Base64.UrlText 86 verifier ∧ Text.isBlank verifier = false ∧ Admissible verifier) ∧
      (Base64.UrlText 43 challenge ∧ Admissible challenge) ∧
      ∀ (login : OAuth2Login) (neighbour : Caller) (later : Request) (start : State),
        let kept := (login.redirect neighbour later start).2.session
        (kept.get? (stateKey neighbour.name) = some (.text state) ↔
          stateBytes start.entropy = stateBytes before.entropy) ∧
        (login.usesProofKey = true →
          (kept.get? (verifierKey neighbour.name) = some (.text verifier) ↔
            verifierBytes start.entropy = verifierBytes before.entropy)) := by
  intro sent state verifier challenge url
  have stateDigits : Base64.UrlText 43 state := urlText_state before.entropy
  have verifierDigits : Base64.UrlText 86 verifier := urlText_verifier before.entropy
  have challengeDigits : Base64.UrlText 43 challenge := urlText_hash _
  refine ⟨?_, redirect_keeps_state oauth caller request before,
    fun proof => redirect_keeps_verifier proof caller request before,
    ⟨stateDigits, Entropy.not_isBlank_drawToken (by decide) before.entropy⟩,
    ⟨verifierDigits, Entropy.not_isBlank_drawToken (by decide) _,
      admissible_of_urlText verifierDigits (by decide) (by decide)⟩,
    ⟨challengeDigits, admissible_of_urlText challengeDigits (by decide) (by decide)⟩, ?_⟩
  · have made : challengeOf verifier = challenge := challengeOf_encodeUrl _
    rw [show sent = _ from redirect_apply oauth caller request before, destination, issue_state,
      issue_verifier, oauth.location_authorizationFields stateDigits, ← made]
    cases oauth.usesProofKey with
    | true => rfl
    | false => rfl
  · intro login neighbour later start kept
    constructor
    · rw [redirect_keeps_state login neighbour later start, Option.some_inj, Value.text.injEq]
      exact Base64.encodeUrl_injective.eq_iff
    · intro proof
      rw [redirect_keeps_verifier proof neighbour later start, Option.some_inj, Value.text.injEq]
      exact Base64.encodeUrl_injective.eq_iff

def lastBytes : State :=
  { zeroState with entropy := ⟨fun place => if place = 31 ∨ place = 95 then 1 else 0, 0⟩ }

theorem last_bytes_told_apart :
    let name := oauthClient.caller.name
    let kept := fun start : State => (oauthLogin.redirect oauthClient.caller {} start).2.session
    oauthLogin.usesProofKey = true ∧
      ∃ state verifier,
        (kept zeroState).get? (stateKey name) = some (.text state) ∧ state.length = 43 ∧
        (kept zeroState).get? (verifierKey name) = some (.text verifier) ∧ verifier.length = 86 ∧
        (kept lastBytes).get? (stateKey name) ≠ some (.text state) ∧
        (kept lastBytes).get? (verifierKey name) ≠ some (.text verifier) := by
  intro name kept
  have proof : oauthLogin.usesProofKey = true := rfl
  obtain ⟨-, state, verifier, ⟨stateDigits, -⟩, ⟨verifierDigits, -, -⟩, -, others⟩ :=
    secrets_well_formed oauthLogin oauthClient.caller {} zeroState
  obtain ⟨sameState, sameVerifier⟩ := others oauthLogin oauthClient.caller {} lastBytes
  have stateBytesDiffer : stateBytes lastBytes.entropy ≠ stateBytes zeroState.entropy := by decide
  have verifierBytesDiffer : verifierBytes lastBytes.entropy ≠ verifierBytes zeroState.entropy := by
    decide
  exact ⟨proof, _, _, state, stateDigits.length_eq, verifier proof, verifierDigits.length_eq,
    fun same => stateBytesDiffer (sameState.1 same),
    fun same => verifierBytesDiffer ((sameVerifier proof).1 same)⟩

end OAuth2Login

end SignOn
