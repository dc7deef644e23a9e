import SignOn.Proofs.JsonBytes
import SignOn.Proofs.ProviderAnswers
import SignOn.Proofs.ProviderAttributes
import SignOn.Provider.Canned

/-!
Making a profile in two steps: the provider is asked for a token, and with the token for the user.
There is a profile exactly where both answers are good and hold the fields that are asked of them. A
token that is null passes for one, so that a profile may come without.

What the provider answers, and what the library that speaks HTTP makes of it, is a parameter here:
the statements hold of every one.
-/

namespace SignOn

open Exchange

namespace OAuth2Login

variable {oauth : OAuth2Login} {accessToken identifier : Value} {token userinfo : Entries Value}
  {answer : Except HttpException HttpResponse} {state : State}

/-- The token step: the answer is a good one and holds an access token. -/
structure Redeems (answer : Except HttpException HttpResponse) (token : Entries Value)
    (accessToken : Value) : Prop where
  tells : Tells answer token
  found : token.get? "access_token" = some accessToken

theorem Redeems.unique {others : Entries Value} {other : Value}
    (redeems : Redeems answer token accessToken) (redeemsOther : Redeems answer others other) :
    accessToken = other := by
  cases redeems.tells.unique redeemsOther.tells
  exact Option.some.inj (redeems.found.symm.trans redeemsOther.found)

/-- The user step: the answer is a good one and holds an identifier. -/
structure Identifies (oauth : OAuth2Login) (answer : Except HttpException HttpResponse)
    (userinfo : Entries Value) (identifier : Value) : Prop where
  tells : Tells answer userinfo
  found : userinfo.get? oauth.idAttribute = some identifier
  whole : identifier ≠ .null

/-- What comes of the user step. -/
def identify (oauth : OAuth2Login) (token : Entries Value) (accessToken : Value)
    (answer : Except HttpException HttpResponse) : Except Failure (Option Profile) :=
  match reply (oauth.userinfoRequest accessToken.display) answer with
  | .error failure => .error failure
  | .ok userinfo =>
    match oauth.profileOf accessToken token userinfo with
    | .ok profile => .ok (some profile)
    | .error failure => .error (.provider failure)

theorem identify_of_identifies (identifies : oauth.Identifies answer userinfo identifier) :
    oauth.identify token accessToken answer =
      .ok (some (identified token userinfo accessToken identifier)) := by
  unfold identify
  rw [reply_eq_ok_iff.2 identifies.tells]
  simp only [profileOf_of_identifier identifies.found identifies.whole]

theorem identify_of_escapes {failure : Failure} (escapes : Escapes answer failure) :
    oauth.identify token accessToken answer = .error failure := by
  unfold identify
  rw [reply_of_escapes escapes]

/-- The user step gives a profile of the user, blames the provider, or has escaped. -/
theorem identify_cases (oauth : OAuth2Login) (token : Entries Value) (accessToken : Value)
    (answer : Except HttpException HttpResponse) :
    (∃ userinfo identifier, oauth.Identifies answer userinfo identifier ∧
      oauth.identify token accessToken answer =
        .ok (some (identified token userinfo accessToken identifier))) ∨
    ∃ failure, oauth.identify token accessToken answer = .error failure ∧
      ((∃ blamed, failure = .provider blamed) ∨ Escapes answer failure) := by
  cases read : reply (oauth.userinfoRequest accessToken.display) answer with
  | error failure =>
    refine .inr ⟨failure, by unfold identify; rw [read], ?_⟩
    rcases blamed_or_escapes read with escapes | ⟨fault, rfl⟩
    · exact .inr escapes
    · exact .inl ⟨_, rfl⟩
  | ok userinfo =>
    by_cases known : ∃ identifier, userinfo.get? oauth.idAttribute = some identifier ∧
        identifier ≠ .null
    · obtain ⟨identifier, found, whole⟩ := known
      have identifies : oauth.Identifies answer userinfo identifier :=
        ⟨reply_eq_ok_iff.1 read, found, whole⟩
      exact .inl ⟨userinfo, identifier, identifies, identify_of_identifies identifies⟩
    · refine .inr ⟨.provider (.noIdentifier oauth.idAttribute), ?_, .inl ⟨_, rfl⟩⟩
      unfold identify
      rw [read]
      simp only [profileOf_of_nobody known]

theorem handler_buildProfile (oauth : OAuth2Login) (credentials : Credentials) :
    (Handler.oauth2 oauth).buildProfile credentials = oauth.buildProfile credentials := rfl

theorem ask_asked (request : ProviderRequest) (state : State) :
    ∃ after, ask request state = (reply request (state.provider.answer request), after) ∧
      after.provider = state.provider.asked request ∧ Asked state after [request] := by
  obtain ⟨log, asked⟩ := ask_apply request state
  exact ⟨_, asked, rfl, rfl, rfl, rfl⟩

theorem redeem_of_no_token (absent : token.get? "access_token" = none) (state : State) :
    oauth.redeem token state = (.error (.provider .noAccessToken), state) := by
  unfold redeem
  rw [absent]
  rfl

theorem redeem_of_token (found : token.get? "access_token" = some accessToken) (state : State) :
    ∃ after, oauth.redeem token state = (oauth.identify token accessToken
        (state.provider.answer (oauth.userinfoRequest accessToken.display)), after) ∧
      Asked state after [oauth.userinfoRequest accessToken.display] := by
  obtain ⟨after, asked, -, traces⟩ := ask_asked (oauth.userinfoRequest accessToken.display) state
  refine ⟨after, ?_, traces⟩
  unfold redeem identify
  rw [found]
  generalize state.provider.answer (oauth.userinfoRequest accessToken.display) = answer at asked
  cases read : reply (oauth.userinfoRequest accessToken.display) answer with
  | error failure =>
    rw [read] at asked
    exact bind_of_error asked
  | ok userinfo =>
    rw [read] at asked
    refine (bind_of_ok asked).trans ?_
    dsimp only
    cases oauth.profileOf accessToken token userinfo <;> rfl

/-- The request for the token that the code of the credentials is exchanged for. -/
def tokenRequestOf (oauth : OAuth2Login) (code : String) (redirectUri verifier : Option String) :
    ProviderRequest :=
  oauth.tokenRequest (oauth.tokenFields code redirectUri verifier)

/-- What comes of asking for the user, after a request for a token. -/
def userinfoAnswer (oauth : OAuth2Login) (provider : Provider) (tokenRequest : ProviderRequest)
    (accessToken : Value) : Except HttpException HttpResponse :=
  (provider.asked tokenRequest).answer (oauth.userinfoRequest accessToken.display)

/-- The failures, not blamed on the provider, in which making a profile can end: that of the token
step, or after a token that of the user step. -/
def Evades (oauth : OAuth2Login) (provider : Provider) (tokenRequest : ProviderRequest)
    (failure : Failure) : Prop :=
  Escapes (provider.answer tokenRequest) failure ∨
    ∃ token accessToken, Redeems (provider.answer tokenRequest) token accessToken ∧
      Escapes (oauth.userinfoAnswer provider tokenRequest accessToken) failure

variable {credentials : Credentials} {code : String} {kept redirectUri verifier : Option String}

section

variable (oauth : OAuth2Login)
  (evidence : credentials.evidence = .code code kept redirectUri verifier)

include evidence

theorem buildProfile_of_unredeemed {failure : Failure}
    (refused : reply (oauth.tokenRequestOf code redirectUri verifier)
      (state.provider.answer (oauth.tokenRequestOf code redirectUri verifier)) = .error failure) :
    ∃ after, oauth.buildProfile credentials state = (.error failure, after) ∧
      Asked state after [oauth.tokenRequestOf code redirectUri verifier] := by
  obtain ⟨after, asked, -, traces⟩ :=
    ask_asked (oauth.tokenRequestOf code redirectUri verifier) state
  rw [refused] at asked
  rw [oauth.buildProfile_of_code evidence]
  exact ⟨after, bind_of_error asked, traces⟩

theorem buildProfile_of_no_token
    (tells : Tells (state.provider.answer (oauth.tokenRequestOf code redirectUri verifier)) token)
    (absent : token.get? "access_token" = none) :
    ∃ after, oauth.buildProfile credentials state = (.error (.provider .noAccessToken), after) ∧
      Asked state after [oauth.tokenRequestOf code redirectUri verifier] := by
  obtain ⟨after, asked, -, traces⟩ :=
    ask_asked (oauth.tokenRequestOf code redirectUri verifier) state
  rw [reply_eq_ok_iff.2 tells] at asked
  rw [oauth.buildProfile_of_code evidence]
  exact ⟨after, (bind_of_ok asked).trans (redeem_of_no_token absent after), traces⟩

theorem buildProfile_of_token
    (redeems : Redeems (state.provider.answer (oauth.tokenRequestOf code redirectUri verifier))
      token accessToken) :
    ∃ after, oauth.buildProfile credentials state = (oauth.identify token accessToken
        (oauth.userinfoAnswer state.provider (oauth.tokenRequestOf code redirectUri verifier)
          accessToken), after) ∧
      Asked state after [oauth.tokenRequestOf code redirectUri verifier,
        oauth.userinfoRequest accessToken.display] := by
  obtain ⟨middle, asked, provider, first⟩ :=
    ask_asked (oauth.tokenRequestOf code redirectUri verifier) state
  rw [reply_eq_ok_iff.2 redeems.tells] at asked
  obtain ⟨after, identified, second⟩ := redeem_of_token redeems.found middle
  rw [provider] at identified
  rw [oauth.buildProfile_of_code evidence]
  exact ⟨after, (bind_of_ok asked).trans identified, first.trans second⟩

/-- Making a profile ends with the token step, or with what comes of the user step. -/
theorem buildProfile_cases (state : State) :
    (∃ failure after, oauth.buildProfile credentials state = (.error failure, after) ∧
      Asked state after [oauth.tokenRequestOf code redirectUri verifier] ∧
      ((∃ blamed, failure = .provider blamed) ∨
        Escapes (state.provider.answer (oauth.tokenRequestOf code redirectUri verifier))
          failure)) ∨
    ∃ token accessToken after,
      Redeems (state.provider.answer (oauth.tokenRequestOf code redirectUri verifier)) token
        accessToken ∧
      oauth.buildProfile credentials state = (oauth.identify token accessToken
        (oauth.userinfoAnswer state.provider (oauth.tokenRequestOf code redirectUri verifier)
          accessToken), after) ∧
      Asked state after [oauth.tokenRequestOf code redirectUri verifier,
        oauth.userinfoRequest accessToken.display] := by
  cases read : reply (oauth.tokenRequestOf code redirectUri verifier)
      (state.provider.answer (oauth.tokenRequestOf code redirectUri verifier)) with
  | error failure =>
    obtain ⟨after, made, asked⟩ := buildProfile_of_unredeemed oauth evidence read
    refine .inl ⟨failure, after, made, asked, ?_⟩
    rcases blamed_or_escapes read with escapes | ⟨fault, rfl⟩
    · exact .inr escapes
    · exact .inl ⟨_, rfl⟩
  | ok token =>
    have tells := reply_eq_ok_iff.1 read
    cases found : token.get? "access_token" with
    | none =>
      obtain ⟨after, made, asked⟩ := buildProfile_of_no_token oauth evidence tells found
      exact .inl ⟨_, after, made, asked, .inl ⟨_, rfl⟩⟩
    | some accessToken =>
      obtain ⟨after, made, asked⟩ := buildProfile_of_token oauth evidence ⟨tells, found⟩
      exact .inr ⟨token, accessToken, after, ⟨tells, found⟩, made, asked⟩

theorem asked_of_buildProfile (state : State) :
    ∃ later, Asked state (oauth.buildProfile credentials state).2
        (oauth.tokenRequestOf code redirectUri verifier :: later) ∧
      (later ≠ [] → ∃ token accessToken,
        Redeems (state.provider.answer (oauth.tokenRequestOf code redirectUri verifier)) token
          accessToken ∧
        later = [oauth.userinfoRequest accessToken.display]) := by
  obtain ⟨failure, after, made, asked, -⟩ | ⟨token, accessToken, after, redeems, made, asked⟩ :=
    buildProfile_cases oauth evidence state
  · rw [made]
    exact ⟨[], asked, fun other => absurd rfl other⟩
  · rw [made]
    exact ⟨_, asked, fun _ => ⟨token, accessToken, redeems, rfl⟩⟩

theorem identified_of_buildProfile {profile : Profile}
    (made : (oauth.buildProfile credentials state).1 = .ok (some profile)) :
    ∃ token accessToken userinfo identifier after,
      Redeems (state.provider.answer (oauth.tokenRequestOf code redirectUri verifier)) token
        accessToken ∧
      oauth.Identifies (oauth.userinfoAnswer state.provider
        (oauth.tokenRequestOf code redirectUri verifier) accessToken) userinfo identifier ∧
      profile = identified token userinfo accessToken identifier ∧
      oauth.buildProfile credentials state = (.ok (some profile), after) ∧
      Asked state after [oauth.tokenRequestOf code redirectUri verifier,
        oauth.userinfoRequest accessToken.display] := by
  obtain ⟨failure, after, build, -⟩ | ⟨token, accessToken, after, redeems, build, asked⟩ :=
    buildProfile_cases oauth evidence state
  · rw [build] at made
    cases made
  · obtain ⟨userinfo, identifier, identifies, done⟩ | ⟨failure, refused, -⟩ :=
      oauth.identify_cases token accessToken (oauth.userinfoAnswer state.provider
        (oauth.tokenRequestOf code redirectUri verifier) accessToken)
    · rw [done] at build
      rw [build] at made
      cases made
      exact ⟨token, accessToken, userinfo, identifier, after, redeems, identifies, rfl, build,
        asked⟩
    · rw [build, refused] at made
      cases made

theorem blamed_of_buildProfile
    (nothing : ¬ ∃ profile, (oauth.buildProfile credentials state).1 = .ok (some profile)) :
    ∃ failure, (oauth.buildProfile credentials state).1 = .error failure ∧
      ((∃ blamed, failure = .provider blamed) ∨
        oauth.Evades state.provider (oauth.tokenRequestOf code redirectUri verifier)
          failure) := by
  obtain ⟨failure, after, build, -, blamed⟩ | ⟨token, accessToken, after, redeems, build, -⟩ :=
    buildProfile_cases oauth evidence state
  · rw [build]
    exact ⟨failure, rfl, blamed.imp_right .inl⟩
  · rw [build] at nothing ⊢
    obtain ⟨userinfo, identifier, -, made⟩ | ⟨failure, refused, blamed⟩ :=
      oauth.identify_cases token accessToken (oauth.userinfoAnswer state.provider
        (oauth.tokenRequestOf code redirectUri verifier) accessToken)
    · exact absurd ⟨_, made⟩ nothing
    · exact ⟨failure, refused, blamed.imp_right fun escapes =>
        .inr ⟨token, accessToken, redeems, escapes⟩⟩

theorem buildProfile_of_evades {failure : Failure}
    (evades : oauth.Evades state.provider (oauth.tokenRequestOf code redirectUri verifier)
      failure) :
    (oauth.buildProfile credentials state).1 = .error failure := by
  rcases evades with escapes | ⟨token, accessToken, redeems, escapes⟩
  · obtain ⟨after, made, -⟩ := buildProfile_of_unredeemed oauth evidence (reply_of_escapes escapes)
    rw [made]
  · obtain ⟨after, made, -⟩ := buildProfile_of_token oauth evidence redeems
    rw [made]
    exact identify_of_escapes escapes

theorem buildProfile_of_identifies
    (redeems : Redeems (state.provider.answer (oauth.tokenRequestOf code redirectUri verifier))
      token accessToken)
    (identifies : oauth.Identifies (oauth.userinfoAnswer state.provider
      (oauth.tokenRequestOf code redirectUri verifier) accessToken) userinfo identifier) :
    (oauth.buildProfile credentials state).1 =
      .ok (some (identified token userinfo accessToken identifier)) := by
  obtain ⟨after, made, -⟩ := buildProfile_of_token oauth evidence redeems
  rw [made]
  exact identify_of_identifies identifies

end

/-- Logging in at a provider in the form that settings usually give it. -/
def plainLogin : OAuth2Login where
  authorizationUrl := some "https://idp.example.com/authorize"
  tokenUrl := some "https://idp.example.com/token"
  userinfoUrl := some "https://idp.example.com/userinfo"
  clientId := some "my-app"

def plainCode : Credentials := { evidence := .code "code" none none none }

theorem plainCode_evidence : plainCode.evidence = .code "code" none none none := rfl

def plainTokenRequest : ProviderRequest := plainLogin.tokenRequestOf "code" none none

/-- A state in which the provider answers one request after the other with success and a body. -/
def awaiting (bodies : List (List UInt8)) : State :=
  { Call.bare (.profile none) with
    provider :=
      { respond := fun earlier _ =>
          .ok (Canned.responseOf 200 [] (bodies.getD earlier.length [])) } }.enter {}

/-- The body that tells of the entries. -/
def telling (entries : Entries Value) : List UInt8 :=
  Utf8.encode (String.ofList (Json.write .all 0 (.table entries) ++ ['\n']))

theorem tells_responseOf {body : List UInt8} {entries : Entries Value}
    (read : Json.readBytes body = .ok (.table entries)) :
    Tells (.ok (Canned.responseOf 200 [] body)) entries := by
  refine ⟨_, rfl, show (200 : Int) ≤ 200 by decide, show (200 : Int) < 300 by decide, ?_⟩
  unfold Canned.responseOf
  rw [read]
  rfl

theorem tells_telling {entries : Entries Value} (distinct : (entries.map (·.1)).Nodup)
    (flat : ∀ entry ∈ entries, entry.2 = .null ∨ ∃ s, entry.2 = .text s) :
    Tells (.ok (Canned.responseOf 200 [] (telling entries))) entries :=
  tells_responseOf (Json.readBytes_write .all (Json.storable_of_flat distinct flat))

/-- The body that knows the user by one letter. -/
def oneLetterBody : List UInt8 := telling [("sub", .text "u")]

theorem identifies_oneLetter :
    plainLogin.Identifies (.ok (Canned.responseOf 200 [] oneLetterBody)) [("sub", .text "u")]
      (.text "u") :=
  ⟨tells_telling (by decide) (by simp), rfl, Value.noConfusion⟩

/-- A profile is made exactly where the provider tells of a token and of a user, and it describes
both. Everything else is a failure that is blamed on the provider, but for those that evade that.
The provider is asked for the user only with a token; session and response stay. -/
theorem profile_iff_redeems_identifies (oauth : OAuth2Login)
    (evidence : credentials.evidence = .code code kept redirectUri verifier) (state : State) :
    let made := (Handler.oauth2 oauth).buildProfile credentials state
    let tokenRequest := oauth.tokenRequestOf code redirectUri verifier
    let tokenAnswer := state.provider.answer tokenRequest
    let userinfoAnswer := oauth.userinfoAnswer state.provider tokenRequest
    ((∃ profile, made.1 = .ok (some profile)) ↔
      ∃ token accessToken userinfo identifier, Redeems tokenAnswer token accessToken ∧
        oauth.Identifies (userinfoAnswer accessToken) userinfo identifier) ∧
    (∀ profile token accessToken userinfo identifier, made.1 = .ok (some profile) →
      Redeems tokenAnswer token accessToken →
      oauth.Identifies (userinfoAnswer accessToken) userinfo identifier →
      oauth.Describes token userinfo profile) ∧
    ((¬ ∃ profile, made.1 = .ok (some profile)) → ∃ failure, made.1 = .error failure ∧
      ((∃ blamed, failure = .provider blamed) ∨
        oauth.Evades state.provider tokenRequest failure)) ∧
    (∀ failure, oauth.Evades state.provider tokenRequest failure → made.1 = .error failure) ∧
    (∃ later, made.2.provider.received = state.provider.received ++ tokenRequest :: later ∧
      (later ≠ [] → ∃ token accessToken, Redeems tokenAnswer token accessToken ∧
        later = [oauth.userinfoRequest accessToken.display])) ∧
    made.2.session = state.session ∧ made.2.response = state.response := by
  obtain ⟨later, asked, tokened⟩ := asked_of_buildProfile oauth evidence state
  refine ⟨⟨?_, ?_⟩, ?_, blamed_of_buildProfile oauth evidence,
    fun failure => buildProfile_of_evades oauth evidence, ⟨later, asked.received, tokened⟩,
    asked.session, asked.response⟩
  · rintro ⟨profile, made⟩
    obtain ⟨token, accessToken, userinfo, identifier, -, redeems, identifies, -⟩ :=
      identified_of_buildProfile oauth evidence made
    exact ⟨token, accessToken, userinfo, identifier, redeems, identifies⟩
  · rintro ⟨token, accessToken, userinfo, identifier, redeems, identifies⟩
    exact ⟨_, buildProfile_of_identifies oauth evidence redeems identifies⟩
  · intro profile token accessToken userinfo identifier made redeems identifies
    cases (buildProfile_of_identifies oauth evidence redeems identifies).symm.trans made
    exact describes_identified redeems.found identifies.found

theorem profile_of_plainLogin :
    let body := telling [("access_token", .text "t"), ("scope", .text "a b a")]
    let state := awaiting [body, oneLetterBody]
    plainCode.evidence = .code "code" none none none ∧
    ∃ profile, ((Handler.oauth2 plainLogin).buildProfile plainCode state).1 = .ok (some profile) ∧
      profile.id = "u" ∧ profile.permissions = ["a", "b"] := by
  intro body state
  have tells : Tells (state.provider.answer plainTokenRequest)
      [("access_token", .text "t"), ("scope", .text "a b a")] := tells_telling (by decide) (by simp)
  have redeems : Redeems (state.provider.answer plainTokenRequest) _ (.text "t") :=
    ⟨tells, rfl⟩
  obtain ⟨made, describes, -⟩ :=
    profile_iff_redeems_identifies plainLogin plainCode_evidence state
  obtain ⟨profile, found⟩ := made.2 ⟨_, _, _, _, redeems, identifies_oneLetter⟩
  have described := describes _ _ _ _ _ found redeems identifies_oneLetter
  refine ⟨plainCode_evidence, profile, found, ?_, ?_⟩
  · obtain ⟨identifier, known, same⟩ := described.id
    cases identifies_oneLetter.found.symm.trans known
    exact same
  · rw [described.permitted _ rfl]
    decide +kernel

theorem brackets_blame_nobody :
    let state := awaiting [List.replicate 5000 0x5B, oneLetterBody]
    (∀ token, ¬ Tells (state.provider.answer plainTokenRequest) token) ∧
      ((Handler.oauth2 plainLogin).buildProfile plainCode state).1 =
        .error (.escaped "RecursionError") ∧
      ∀ blamed, Failure.escaped "RecursionError" ≠ .provider blamed := by
  intro state
  have raised : (Canned.responseOf 200 [] (List.replicate 5000 0x5B)).json =
      .error (.other "RecursionError") := by
    unfold Canned.responseOf
    rw [Json.readBytes_brackets (by decide)]
    rfl
  have escapes : Escapes (state.provider.answer plainTokenRequest) (.escaped "RecursionError") :=
    .unread _ _ rfl (by decide) (by decide) raised
  refine ⟨fun token tells => ?_, ?_, fun _ => Failure.noConfusion⟩
  · have told : reply plainTokenRequest (state.provider.answer plainTokenRequest) = .ok token :=
      reply_eq_ok_iff.2 tells
    cases (reply_of_escapes escapes).symm.trans told
  · exact buildProfile_of_evades plainLogin plainCode_evidence (.inl escapes)

/-- A profile comes of an access token that the token answer holds. It is the token with which the
provider is asked for the user, and it is on the profile unless it is null. Without one the provider
is not asked for the user. -/
theorem profile_carries_token (oauth : OAuth2Login)
    (evidence : credentials.evidence = .code code kept redirectUri verifier) (state : State) :
    let made := (Handler.oauth2 oauth).buildProfile credentials state
    let tokenRequest := oauth.tokenRequestOf code redirectUri verifier
    let tokenAnswer := state.provider.answer tokenRequest
    (∀ profile, made.1 = .ok (some profile) →
      ∃ token accessToken asked, Redeems tokenAnswer token accessToken ∧
        made.2.provider.received = state.provider.received ++ [tokenRequest, asked] ∧
        asked.method = "GET" ∧ asked.url = oauth.userinfoUrl.getD "" ∧
        asked.headers.lookup "authorization" = some ("Bearer " ++ accessToken.display) ∧
        (accessToken ≠ .null → profile.attributes.get? "access_token" = some accessToken)) ∧
    (∀ token, Tells tokenAnswer token → token.get? "access_token" = none →
      made.1 = .error (.provider .noAccessToken) ∧
        made.2.provider.received = state.provider.received ++ [tokenRequest]) := by
  refine ⟨fun profile made => ?_, fun token tells absent => ?_⟩
  · obtain ⟨token, accessToken, userinfo, identifier, after, redeems, identifies, rfl, build,
      asked⟩ := identified_of_buildProfile oauth evidence made
    have same : (Handler.oauth2 oauth).buildProfile credentials state = _ := build
    refine ⟨token, accessToken, oauth.userinfoRequest accessToken.display, redeems, ?_, rfl, rfl,
      rfl, fun whole => ?_⟩
    · rw [same]
      exact asked.received
    · exact (describes_identified redeems.found identifies.found).laidOver _ List.mem_cons_self _
        redeems.found whole
  · obtain ⟨after, build, asked⟩ := buildProfile_of_no_token oauth evidence tells absent
    have same : (Handler.oauth2 oauth).buildProfile credentials state = _ := build
    rw [same]
    exact ⟨rfl, asked.received⟩

theorem plainLogin_carries_token :
    let body := telling [("access_token", .text "t")]
    let tokenless := telling [("token_type", .text "Bearer")]
    (∃ profile, ((Handler.oauth2 plainLogin).buildProfile plainCode
        (awaiting [body, oneLetterBody])).1 = .ok (some profile) ∧
      profile.attributes.get? "access_token" = some (.text "t")) ∧
    ((Handler.oauth2 plainLogin).buildProfile plainCode (awaiting [tokenless, oneLetterBody])).1 =
      .error (.provider .noAccessToken) := by
  intro body tokenless
  have redeems : Redeems ((awaiting [body, oneLetterBody]).provider.answer plainTokenRequest)
      [("access_token", .text "t")] (.text "t") := ⟨tells_telling (by decide) (by simp), rfl⟩
  have made :=
    buildProfile_of_identifies plainLogin plainCode_evidence redeems identifies_oneLetter
  rw [← handler_buildProfile] at made
  refine ⟨⟨_, made, ?_⟩, ?_⟩
  · obtain ⟨token, accessToken, -, found, -, -, -, -, carried⟩ :=
      (profile_carries_token plainLogin plainCode_evidence _).1 _ made
    cases redeems.unique found
    exact carried Value.noConfusion
  · have tells : Tells ((awaiting [tokenless, oneLetterBody]).provider.answer plainTokenRequest)
        [("token_type", .text "Bearer")] := tells_telling (by decide) (by simp)
    exact ((profile_carries_token plainLogin plainCode_evidence _).2 _ tells rfl).1

theorem null_token_accepted :
    let state := awaiting [telling [("access_token", .null)], oneLetterBody]
    let made := (Handler.oauth2 plainLogin).buildProfile plainCode state
    Redeems (state.provider.answer plainTokenRequest) [("access_token", .null)] .null ∧
    (∃ profile, made.1 = .ok (some profile) ∧ profile.attributes.get? "access_token" = none) ∧
    ∃ asked ∈ made.2.provider.received, asked.method = "GET" ∧
      asked.headers.lookup "authorization" = some "Bearer None" := by
  intro state made
  have redeems : Redeems (state.provider.answer plainTokenRequest) [("access_token", .null)]
      .null := ⟨tells_telling (by decide) (by simp), rfl⟩
  obtain ⟨after, build, asked⟩ := buildProfile_of_token plainLogin plainCode_evidence redeems
  have identifies : plainLogin.Identifies (plainLogin.userinfoAnswer state.provider
      plainTokenRequest .null) [("sub", .text "u")] (.text "u") := identifies_oneLetter
  have same : made = (.ok (some (identified [("access_token", .null)] [("sub", .text "u")] .null
      (.text "u"))), after) :=
    build.trans (congrArg (·, after) (identify_of_identifies identifies))
  rw [same]
  refine ⟨redeems, ⟨_, rfl, ?_⟩, plainLogin.userinfoRequest Value.null.display, ?_, rfl, rfl⟩
  · have described := describes_identified redeems.found identifies.found
    refine (described.underneath _ ?_).trans rfl
    intro _ value known
    exact (Option.some.inj known).symm
  · change _ ∈ after.provider.received
    rw [asked.received]
    simp

end OAuth2Login

end SignOn
