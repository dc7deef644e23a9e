import SignOn.Proofs.Exchanges

/-!
What a client touches of the session. Getting ready and making a profile are blind to it, reaching
the provider and reading credentials are confined to the state and the verifier, and the decisions
are confined to these and the mark of the loop guard. Clients of different names have no key in
common.
-/

namespace SignOn

open Exchange

theorem OAuth2Login.blind_warn (request : ProviderRequest) : Blind (OAuth2Login.warn request) :=
  blind_record _ _ _

theorem OAuth2Login.blind_ask (request : ProviderRequest) : Blind (OAuth2Login.ask request) := by
  refine blind_bind (blind_call _) fun answer => blind_bind ?_ fun _ => blind_lift _
  unfold OAuth2Login.warnOfOutage
  split
  · exact OAuth2Login.blind_warn request
  · exact blind_pure ()

theorem OAuth2Login.blind_buildProfile (oauth : OAuth2Login) (credentials : Credentials) :
    Blind (oauth.buildProfile credentials) := by
  unfold OAuth2Login.buildProfile
  split
  · refine blind_bind (OAuth2Login.blind_ask _) (fun token => ?_)
    split
    · exact blind_fail _
    · refine blind_bind (OAuth2Login.blind_ask _) (fun userinfo => ?_)
      split
      · exact blind_pure _
      · exact blind_fail _
  · exact blind_pure none

theorem ScriptedLogin.blind_start (script : ScriptedLogin) : Blind script.start := by
  unfold ScriptedLogin.start
  refine blind_state_bind (fun _ _ => rfl) (fun state => ?_)
  refine blind_bind (blind_note _) (fun _ => ?_)
  split
  · exact blind_fail _
  · exact blind_pure ()

theorem ScriptedLogin.blind_redirect (script : ScriptedLogin) : Blind script.redirect :=
  blind_bind (blind_note _) (fun _ => blind_settle _)

theorem ScriptedLogin.blind_extract (script : ScriptedLogin) : Blind script.extract := by
  unfold ScriptedLogin.extract
  refine blind_bind (blind_note _) (fun _ => ?_)
  cases script.challenge with
  | none => exact blind_settle _
  | some challenge =>
    refine blind_bind (blind_settle _) (fun outcome => ?_)
    cases outcome with
    | http action => exact blind_fail _
    | redirect action => exact blind_fail _

theorem ScriptedLogin.blind_buildProfile (script : ScriptedLogin) : Blind script.buildProfile :=
  blind_bind (blind_note _) (fun _ => blind_settle _)

/-- The keys under which a handler keeps what it needs again on the callback. -/
def OAuth2Login.keys (client : String) : List String :=
  [OAuth2Login.stateKey client, OAuth2Login.verifierKey client]

theorem OAuth2Login.stateKey_mem (client : String) :
    OAuth2Login.stateKey client ∈ OAuth2Login.keys client :=
  List.mem_cons_self

theorem OAuth2Login.verifierKey_mem (client : String) :
    OAuth2Login.verifierKey client ∈ OAuth2Login.keys client :=
  List.mem_cons_of_mem _ List.mem_cons_self

theorem OAuth2Login.confined_forget (client : String) :
    Confined (OAuth2Login.keys client) (OAuth2Login.forget client) :=
  confined_bind (confined_clearSession (OAuth2Login.stateKey_mem client))
    (fun _ => confined_clearSession (OAuth2Login.verifierKey_mem client))

theorem OAuth2Login.confined_redirect (oauth : OAuth2Login) (caller : Caller)
    (request : Request) :
    Confined (OAuth2Login.keys caller.name) (oauth.redirect caller request) := by
  unfold OAuth2Login.redirect
  refine confined_bind ((blind_drawToken 32).confined _) (fun state => ?_)
  refine confined_bind (confined_setSession _ (OAuth2Login.stateKey_mem _)) (fun _ => ?_)
  refine confined_bind ?_ (fun verifier => (blind_pure _).confined _)
  unfold OAuth2Login.drawVerifier
  split
  · refine confined_bind ((blind_drawToken 64).confined _) (fun verifier => ?_)
    exact confined_bind (confined_setSession _ (OAuth2Login.verifierKey_mem _))
      (fun _ => (blind_pure _).confined _)
  · exact (blind_pure _).confined _

theorem OAuth2Login.confined_extract (caller : Caller) (request : Request) :
    Confined (OAuth2Login.keys caller.name) (OAuth2Login.extract caller request) := by
  unfold OAuth2Login.extract
  simp only
  split
  · refine confined_bind ((blind_record _ _ _).confined _) (fun _ => ?_)
    exact confined_bind (OAuth2Login.confined_forget _) (fun _ => (blind_pure _).confined _)
  · split
    · exact (blind_pure _).confined _
    · refine confined_bind (confined_sessionValue (OAuth2Login.stateKey_mem _)) (fun kept => ?_)
      refine confined_bind (confined_sessionValue (OAuth2Login.verifierKey_mem _))
        (fun verifier => ?_)
      refine confined_bind (OAuth2Login.confined_forget _) (fun _ => ?_)
      split
      · exact confined_bind ((blind_lift _).confined _) (fun _ => (blind_pure _).confined _)
      · exact confined_bind ((blind_record _ _ _).confined _) (fun _ => (blind_pure _).confined _)

namespace Handler

theorem blind_start (handler : Handler) (client : String) : Blind (handler.start client) := by
  have checked : Blind (if handler.problems.isEmpty then pure ()
      else fail (.misconfigured client handler.problems) : Exchange Unit) := by
    split
    · exact blind_pure ()
    · exact blind_fail _
  cases handler with
  | scripted login => exact blind_bind login.blind_start (fun _ => checked)
  | _ => exact checked

section

variable {related : State → State → Prop} [IsPreorder State related]

theorem along_start (noted : Along related (note .start)) (handler : Handler) (client : String) :
    Along related (handler.start client) := by
  have checked : Along related (if handler.problems.isEmpty then pure ()
      else fail (.misconfigured client handler.problems) : Exchange Unit) := by
    split
    · exact along_pure ()
    · exact along_fail _
  cases handler with
  | scripted login =>
    refine along_bind (along_state_bind (fun state => ?_)) (fun _ => checked)
    refine along_bind noted (fun _ => ?_)
    split
    · exact along_fail _
    · exact along_pure ()
  | _ => exact checked

theorem along_redirect (noted : Along related (note .redirectOutcome))
    (drawn : ∀ count, Along related (drawToken count))
    (kept : ∀ key value, Along related (setSession key value))
    (handler : Handler) (caller : Caller) (request : Request) :
    Along related (handler.redirect caller request) := by
  cases handler with
  | form login => exact along_pure _
  | basic login => exact along_pure _
  | scripted login => exact along_bind noted (fun _ => along_settle _)
  | oauth2 login =>
    refine along_bind ?_ (fun _ => along_pure _)
    refine along_bind (drawn 32) (fun state => ?_)
    refine along_bind (kept _ _) (fun _ => ?_)
    refine along_bind ?_ (fun verifier => along_pure _)
    unfold OAuth2Login.drawVerifier
    split
    · refine along_bind (drawn 64) (fun verifier => ?_)
      exact along_bind (kept _ _) (fun _ => along_pure _)
    · exact along_pure _

end

theorem keeps_log_start (handler : Handler) (client : String) :
    Along (Keeps State.log) (handler.start client) := by
  have noted : Along (Keeps State.log) (note .start) := fun _ => rfl
  exact along_start noted handler client

theorem keeps_log_redirect (handler : Handler) (caller : Caller) (request : Request) :
    Along (Keeps State.log) (handler.redirect caller request) := by
  have noted : Along (Keeps State.log) (note .redirectOutcome) := fun _ => rfl
  exact along_redirect noted (fun _ _ => rfl) (fun _ _ _ => rfl) handler caller request

theorem blind_buildProfile (handler : Handler) (credentials : Credentials) :
    Blind (handler.buildProfile credentials) := by
  cases handler with
  | form login => exact blind_pure _
  | basic login => exact blind_pure _
  | oauth2 login => exact login.blind_buildProfile credentials
  | scripted login => exact login.blind_buildProfile

theorem confined_redirect (handler : Handler) (caller : Caller) (request : Request) :
    Confined (OAuth2Login.keys caller.name) (handler.redirect caller request) := by
  cases handler with
  | form login => exact (blind_pure _).confined _
  | basic login => exact (blind_pure _).confined _
  | oauth2 login =>
    exact confined_bind (login.confined_redirect caller request)
      (fun _ => (blind_pure _).confined _)
  | scripted login => exact login.blind_redirect.confined _

theorem confined_extract (handler : Handler) (caller : Caller) (request : Request) :
    Confined (OAuth2Login.keys caller.name) (handler.extract caller request) := by
  cases handler with
  | form login => exact (blind_pure _).confined _
  | basic login =>
    unfold Handler.extract
    simp only
    split
    · exact (blind_pure _).confined _
    · exact (blind_fail _).confined _
  | oauth2 login => exact OAuth2Login.confined_extract caller request
  | scripted login => exact login.blind_extract.confined _

end Handler

namespace Client

theorem blind_init (client : Client) : Blind client.init := by
  unfold Client.init
  refine blind_state_bind (fun _ _ => rfl) (fun state => ?_)
  split
  · exact blind_pure ()
  · split
    · exact blind_fail _
    · refine blind_bind (client.handler.blind_start client.name) (fun _ => ?_)
      exact blind_bind blind_markInitialized (fun _ => blind_record _ _ _)

theorem init_log (client : Client) (state : State) :
    (client.init state).2.log = state.log ∨
      ∃ message, (client.init state).2.log = state.log ++ [⟨.debug, .client, message⟩] := by
  unfold Client.init
  rw [bind_apply]
  simp only [Exchange.state]
  split
  · exact Or.inl rfl
  · split
    · exact Or.inl rfl
    · have quiet := client.handler.keeps_log_start client.name state
      rw [bind_apply]
      generalize client.handler.start client.name state = reached at quiet
      rcases reached with ⟨failure | _, ready⟩
      · exact Or.inl quiet
      · exact Or.inr ⟨_, congrArg (· ++ _) quiet⟩

theorem along_init {related : State → State → Prop} [IsPreorder State related]
    (noted : Along related (note .start)) (marked : Along related markInitialized)
    (recorded : ∀ message, Along related (record .debug .client message)) (client : Client) :
    Along related client.init := by
  unfold Client.init
  refine along_state_bind (fun state => ?_)
  split
  · exact along_pure ()
  · split
    · exact along_fail _
    · refine along_bind (client.handler.along_start noted client.name) (fun _ => ?_)
      exact along_bind marked (fun _ => recorded _)

theorem blind_check (client : Client) (credentials : Credentials) :
    Blind (client.check credentials) := by
  unfold Client.check
  split
  · exact blind_pure _
  · split
    · exact blind_pure _
    · exact blind_bind (blind_record _ _ _) (fun _ => blind_pure none)

theorem blind_profile (client : Client) (credentials : Option Credentials) :
    Blind (client.profile credentials) := by
  cases credentials with
  | none => exact blind_bind client.blind_init (fun _ => blind_pure none)
  | some credentials =>
    refine blind_bind client.blind_init (fun _ => blind_bind ?_ (fun bare => ?_))
    · unfold Client.bareProfile
      split
      · exact blind_pure _
      · exact client.handler.blind_buildProfile credentials
    · cases bare with
      | none => exact blind_pure none
      | some bare =>
        simp only
        split
        · exact blind_pure _
        · exact blind_fail _

/-- The keys of the session that belong to a client. -/
def keys (client : Client) : List String := client.guardKey :: OAuth2Login.keys client.name

theorem handlerKeys_subset (client : Client) :
    OAuth2Login.keys client.caller.name ⊆ client.keys :=
  List.subset_cons_self _ _

theorem consumeMark_apply (client : Client) (state : State) :
    client.consumeMark state =
      (.ok (LoopGuard.isMarked client.name state.session),
        state.withSession (LoopGuard.consume client.name state.session).2) := by
  unfold Client.consumeMark LoopGuard.consume
  rw [bind_apply]
  simp only [Exchange.state]
  split
  next marked => simp [marked, Exchange.update, State.withSession]
  next unmarked => simp [unmarked, Exchange.update, State.withSession]

theorem confined_consumeMark (client : Client) : Confined [client.guardKey] client.consumeMark where
  frame state key outside := by
    rw [consumeMark_apply]
    show (LoopGuard.consume client.name state.session).2.get? key = _
    unfold LoopGuard.consume
    split
    · refine (Session.get?_clear _ _ _).trans (if_neg ?_)
      exact fun same => outside (same ▸ List.mem_cons_self)
    · rfl
  agree state session same := by
    have known : state.session.get? (LoopGuard.key client.name) =
      session.get? (LoopGuard.key client.name) := same _ List.mem_cons_self
    have marked : LoopGuard.isMarked client.name session =
        LoopGuard.isMarked client.name state.session := by
      unfold LoopGuard.isMarked
      rw [known]
    refine ⟨(LoopGuard.consume client.name session).2, ?_, ?_⟩
    · rw [consumeMark_apply, consumeMark_apply, State.withSession_session, marked]
      rfl
    · rw [consumeMark_apply]
      intro key inside
      have here : key = LoopGuard.key client.name := List.mem_singleton.1 inside
      show (LoopGuard.consume client.name state.session).2.get? key =
        (LoopGuard.consume client.name session).2.get? key
      unfold LoopGuard.consume
      rw [marked]
      split
      · exact (Session.get?_clear _ _ _).trans
          ((if_pos here).trans ((Session.get?_clear _ _ _).trans (if_pos here)).symm)
      · exact here ▸ known

theorem guardKey_mem (client : Client) : client.guardKey ∈ client.keys := List.mem_cons_self

theorem confined_resolveRedirect (client : Client) (request : Request) (guarded scripted : Bool) :
    Confined client.keys (client.resolveRedirect request guarded scripted) := by
  have consumed : Confined client.keys client.consumeMark :=
    client.confined_consumeMark.mono (List.cons_subset_cons _ (List.nil_subset _))
  have reached : Confined client.keys (client.handler.redirect client.caller request) :=
    (client.handler.confined_redirect client.caller request).mono client.handlerKeys_subset
  unfold Client.resolveRedirect
  refine confined_bind (client.blind_init.confined _) (fun _ => ?_)
  split
  · exact (blind_pure _).confined _
  · refine confined_bind consumed (fun marked => ?_)
    split
    · exact confined_bind ((blind_record _ _ _).confined _) (fun _ => (blind_pure _).confined _)
    · split
      · exact reached
      · exact (blind_pure _).confined _

theorem confined_conclude (client : Client) (credentials : Option Credentials) :
    Confined client.keys (client.conclude credentials) := by
  cases credentials with
  | none =>
    have marked := confined_setSession (.text "true") client.guardKey_mem
    exact confined_bind marked (fun _ => (blind_pure none).confined _)
  | some credentials =>
    have cleared := confined_clearSession client.guardKey_mem
    exact confined_bind cleared (fun _ => (blind_pure _).confined _)

theorem confined_credentials (client : Client) (request : Request) :
    Confined client.keys (client.credentials request) := by
  have reached : Confined client.keys (client.handler.redirect client.caller request) :=
    (client.handler.confined_redirect client.caller request).mono client.handlerKeys_subset
  have extracted : Confined client.keys (client.handler.extract client.caller request) :=
    (client.handler.confined_extract client.caller request).mono client.handlerKeys_subset
  unfold Client.credentials
  refine confined_bind (client.blind_init.confined _) (fun _ => ?_)
  split
  · refine confined_bind reached (fun outcome => ?_)
    exact confined_bind ((blind_lift _).confined _) (fun _ => (blind_fail _).confined _)
  · refine confined_bind extracted (fun offered => ?_)
    cases offered with
    | none => exact client.confined_conclude none
    | some offered =>
      exact confined_bind ((client.blind_check offered).confined _)
        (fun checked => client.confined_conclude checked)

theorem blind_perform (client : Client) (request : Request) {operation : Operation}
    (rest : operation = .init ∨ ∃ credentials, operation = .profile credentials) :
    Blind (client.perform request operation) := by
  rcases rest with init | ⟨credentials, profile⟩
  · rw [init]
    exact blind_bind client.blind_init (fun _ => blind_pure _)
  · rw [profile]
    exact blind_bind (client.blind_profile credentials) (fun _ => blind_pure _)

/-- Every operation of a client is confined to the keys of the client. -/
theorem confined_perform (client : Client) (request : Request) (operation : Operation) :
    Confined client.keys (client.perform request operation) := by
  cases operation with
  | init => exact (client.blind_perform request (Or.inl rfl)).confined _
  | resolveRedirect guarded scripted =>
    exact confined_bind (client.confined_resolveRedirect request guarded scripted)
      (fun _ => (blind_pure _).confined _)
  | redirectAction guarded scripted =>
    refine confined_bind ?_ (fun _ => (blind_pure _).confined _)
    refine confined_bind (client.confined_resolveRedirect request guarded scripted)
      (fun outcome => ?_)
    cases outcome with
    | redirect action => exact (blind_pure action).confined _
    | http action => exact (blind_fail _).confined _
  | redirect guarded scripted =>
    refine confined_bind ?_ (fun _ => (blind_pure _).confined _)
    refine confined_bind (client.confined_resolveRedirect request guarded scripted)
      (fun outcome => ?_)
    exact confined_bind ((blind_write outcome).confined _) (fun _ => (blind_pure _).confined _)
  | redirectionUrl =>
    refine confined_bind ?_ (fun _ => (blind_pure _).confined _)
    exact confined_bind (client.confined_resolveRedirect request false false)
      (fun _ => (blind_pure _).confined _)
  | credentials =>
    exact confined_bind (client.confined_credentials request) (fun _ => (blind_pure _).confined _)
  | profile credentials =>
    exact (client.blind_perform request (Or.inr ⟨credentials, rfl⟩)).confined _

def keyEndings : List String := ["$attemptedAuthentication", "$state", "$codeVerifier"]

theorem keys_eq_map (client : Client) : client.keys = keyEndings.map (client.name ++ ·) := rfl

theorem keyEndings_last : ∀ first ∈ keyEndings, ∀ second ∈ keyEndings,
    first.toList.getLast? = second.toList.getLast? → first = second := by
  decide

theorem keyEndings_nonempty : ∀ ending ∈ keyEndings, ending.toList.getLast?.isSome := by
  decide

theorem getLast?_key (name : String) {ending : String} (known : ending ∈ keyEndings) :
    (name ++ ending).toList.getLast? = ending.toList.getLast? := by
  have present := keyEndings_nonempty ending known
  rw [String.toList_append, List.getLast?_append]
  exact Option.or_of_isSome present

theorem name_eq_of_common_key (first second : Client) (key : String) (mine : key ∈ first.keys)
    (theirs : key ∈ second.keys) : first.name = second.name := by
  rw [keys_eq_map] at mine theirs
  obtain ⟨ending, known, rfl⟩ := List.mem_map.1 mine
  obtain ⟨other, otherKnown, same⟩ := List.mem_map.1 theirs
  have lasts := congrArg (fun key : String => key.toList.getLast?) same
  simp only [getLast?_key _ known, getLast?_key _ otherKnown] at lasts
  have endings : other = ending := keyEndings_last other otherKnown ending known lasts
  subst endings
  exact ((String.append_left_inj other).1 same).symm

theorem guardKey_not_mem (client : Client) : client.guardKey ∉ OAuth2Login.keys client.name := by
  intro inside
  simp only [OAuth2Login.keys, List.mem_cons, List.not_mem_nil, or_false] at inside
  rcases inside with same | same
  · exact absurd ((String.append_right_inj client.name).1 same) (by decide)
  · exact absurd ((String.append_right_inj client.name).1 same) (by decide)

end Client

end SignOn
