import SignOn.Proofs.Decisions

/-!
Making a profile, and what an OAuth2 provider is asked for it: first for a token, in exchange for
the code of the credentials, and then for the user.
-/

namespace SignOn

open Exchange

namespace Client

theorem perform_profile_state (client : Client) (request : Request)
    (credentials : Option Credentials) (state : State) :
    (client.perform request (.profile credentials) state).2 =
      (client.profile credentials state).2 := by
  rcases made : client.profile credentials state with ⟨failure | profile, after⟩
  · exact congrArg Prod.snd
      (bind_of_error made : client.perform request (.profile credentials) state = _)
  · exact congrArg Prod.snd
      (bind_of_ok made : client.perform request (.profile credentials) state = _)

theorem profile_state {client : Client} {state ready : State}
    (started : client.init state = (.ok (), ready)) (credentials : Credentials) :
    (client.profile (some credentials) state).2 = (client.bareProfile credentials ready).2 := by
  have entered : client.profile (some credentials) state = _ := bind_of_ok started
  rw [entered]
  rcases made : client.bareProfile credentials ready with ⟨failure | bare, after⟩
  · rw [bind_of_error made]
  · rw [bind_of_ok made]
    cases bare with
    | none => rfl
    | some bare =>
      cases enriched : client.enrich bare with
      | ok profile => simp only [enriched, pure_apply]
      | error stopped =>
        simp only [enriched]
        rfl

/-- The client makes a profile of the credentials, and has still to enrich it. -/
def Builds (client : Client) (credentials : Option Credentials) (state : State) (bare : Profile)
    (after : State) : Prop :=
  ∃ given ready, credentials = some given ∧ client.init state = (.ok (), ready) ∧
    client.bareProfile given ready = (.ok (some bare), after)

variable {client : Client} {credentials : Option Credentials} {state after : State}
  {bare final : Profile}

theorem profile_of_builds (builds : client.Builds credentials state bare after)
    (enriched : client.enrich bare = .ok final) :
    client.profile credentials state = (.ok (some final), after) := by
  obtain ⟨given, ready, rfl, started, built⟩ := builds
  refine (bind_of_ok started).trans ((bind_of_ok built).trans ?_)
  simp only [enriched, pure_apply]

theorem builds_of_profile (returned : (client.profile credentials state).1 = .ok (some final)) :
    ∃ bare after, client.Builds credentials state bare after ∧ client.enrich bare = .ok final := by
  cases credentials with
  | none =>
    obtain ⟨-, ready, -, returned⟩ := reached_of_bind returned
    cases returned
  | some given =>
    obtain ⟨⟨⟩, ready, started, returned⟩ := reached_of_bind returned
    obtain ⟨bare, after, built, returned⟩ := reached_of_bind returned
    cases bare with
    | none => cases returned
    | some bare =>
      simp only at returned
      cases enriched : client.enrich bare with
      | error stopped =>
        rw [enriched] at returned
        cases returned
      | ok made =>
        rw [enriched] at returned
        cases returned
        exact ⟨bare, after, ⟨given, ready, rfl, started, built⟩, enriched⟩

end Client

namespace OAuth2Login

/-- What is made of the answer to a token request. -/
def redeem (oauth : OAuth2Login) (token : Entries Value) : Exchange (Option Profile) :=
  match token.get? "access_token" with
  | none => Exchange.fail (.provider .noAccessToken)
  | some accessToken => do
    let userinfo ← ask (oauth.userinfoRequest accessToken.display)
    match oauth.profileOf accessToken token userinfo with
    | .ok profile => pure (some profile)
    | .error failure => Exchange.fail (.provider failure)

theorem buildProfile_of_code (oauth : OAuth2Login) {credentials : Credentials} {code : String}
    {state redirectUri verifier : Option String}
    (evidence : credentials.evidence = .code code state redirectUri verifier) :
    oauth.buildProfile credentials =
      ask (oauth.tokenRequest (oauth.tokenFields code redirectUri verifier)) >>= oauth.redeem := by
  unfold buildProfile
  rw [evidence]
  rfl

section

variable {related : State → State → Prop} [IsPreorder State related]
  (called : ∀ request, Along related (call request))
  (warned : ∀ request, Along related (warn request))

include called warned

theorem along_ask (request : ProviderRequest) : Along related (ask request) := by
  refine along_bind (called _) fun answer => along_bind ?_ fun _ => along_lift _
  unfold warnOfOutage
  split
  · exact warned request
  · exact along_pure ()

theorem along_redeem (oauth : OAuth2Login) (token : Entries Value) :
    Along related (oauth.redeem token) := by
  unfold redeem
  split
  · exact along_fail _
  · refine along_bind (along_ask called warned _) (fun userinfo => ?_)
    split
    · exact along_pure _
    · exact along_fail _

theorem along_buildProfile (oauth : OAuth2Login) (credentials : Credentials) :
    Along related (oauth.buildProfile credentials) := by
  cases evidence : credentials.evidence with
  | code code state redirectUri verifier =>
    rw [oauth.buildProfile_of_code evidence]
    exact along_bind (along_ask called warned _) (along_redeem called warned oauth)
  | _ =>
    unfold buildProfile
    rw [evidence]
    exact along_pure none

end

theorem keeps_progress_buildProfile (oauth : OAuth2Login) (credentials : Credentials) :
    Along (Keeps State.progress) (oauth.buildProfile credentials) :=
  along_buildProfile (fun _ _ => rfl) (fun _ _ => rfl) oauth credentials

theorem receives_call (request : ProviderRequest) : Along Receives (call request) :=
  fun _ => List.prefix_append _ _

theorem receives_redeem (oauth : OAuth2Login) (token : Entries Value) :
    Along Receives (oauth.redeem token) :=
  along_redeem receives_call (fun _ _ => List.prefix_rfl) oauth token

theorem warnOfOutage_apply (request : ProviderRequest)
    (answer : Except HttpException HttpResponse) (state : State) :
    ∃ log, warnOfOutage request answer state = (.ok (), { state with log }) := by
  unfold warnOfOutage
  split
  · exact ⟨_, rfl⟩
  · exact ⟨_, rfl⟩

/-- A request is put to the library, and what comes of it is read. Nothing else changes but the
log. -/
theorem ask_apply (request : ProviderRequest) (state : State) :
    ∃ log, ask request state = (reply request (state.provider.answer request),
      { state with provider := state.provider.asked request, log }) := by
  have called : call request state = (.ok (state.provider.answer request),
      { state with provider := state.provider.asked request }) := rfl
  obtain ⟨log, warned⟩ := warnOfOutage_apply request (state.provider.answer request)
    { state with provider := state.provider.asked request }
  refine ⟨log, (bind_of_ok called).trans ((bind_of_ok warned).trans ?_)⟩
  cases reply request (state.provider.answer request) <;> rfl

theorem buildProfile_received (oauth : OAuth2Login) {credentials : Credentials} {code : String}
    {kept redirectUri verifier : Option String}
    (evidence : credentials.evidence = .code code kept redirectUri verifier) (state : State) :
    ∃ more, (oauth.buildProfile credentials state).2.provider.received =
      state.provider.received ++
        oauth.tokenRequest (oauth.tokenFields code redirectUri verifier) :: more := by
  rw [oauth.buildProfile_of_code evidence]
  generalize oauth.tokenRequest (oauth.tokenFields code redirectUri verifier) = request
  obtain ⟨log, asked⟩ := ask_apply request state
  have later : Receives (ask request state).2 ((ask request >>= oauth.redeem) state).2 :=
    along_rest _ oauth.receives_redeem state
  rw [asked] at later
  obtain ⟨more, received⟩ := later
  refine ⟨more, received.symm.trans ?_⟩
  change state.provider.received ++ [request] ++ more = _
  rw [List.append_assoc, List.singleton_append]

end OAuth2Login

end SignOn
