import SignOn.Deployment
import SignOn.Proofs.Footprint
import SignOn.Proofs.ProviderRedirect

/-!
Which failures can come of what. Building a client from its settings fails by a fault of the
configuration, or by one that no category knows. A client that is ready is done with its set-up:
none of its operations finds anything wrong with that any more.
-/

namespace SignOn

variable {α β : Type} {allowed : Failure → Prop}

/-- A result that is a failure only if it is one of the allowed ones. -/
def FailsOnly (allowed : Failure → Prop) (result : Except Failure α) : Prop :=
  ∀ failure, result = .error failure → allowed failure

theorem failsOnly_ok (a : α) : FailsOnly allowed (.ok a) := by
  intro failure failed
  cases failed

theorem failsOnly_error {failure : Failure} (known : allowed failure) :
    FailsOnly allowed (.error failure : Except Failure α) := by
  intro other failed
  cases failed
  exact known

theorem failsOnly_bind {first : Except Failure α} {next : α → Except Failure β}
    (fails : FailsOnly allowed first) (rest : ∀ a, FailsOnly allowed (next a)) :
    FailsOnly allowed (first >>= next) := by
  cases first with
  | error failure => exact failsOnly_error (fails failure rfl)
  | ok a => exact rest a

theorem ok_of_bind {ε : Type} {first : Except ε α} {next : α → Except ε β} {b : β}
    (done : (first >>= next) = .ok b) : ∃ a, first = .ok a ∧ next a = .ok b := by
  cases first with
  | error failure => cases done
  | ok a => exact ⟨a, rfl, done⟩

theorem ok_of_map {ε : Type} {result : Except ε α} {make : α → β} {b : β}
    (done : result.map make = .ok b) : ∃ a, result = .ok a ∧ b = make a := by
  cases result with
  | error failure => cases done
  | ok a =>
    cases done
    exact ⟨a, rfl, rfl⟩

theorem error_of_map {ε : Type} {result : Except ε α} {make : α → β} {failure : ε}
    (failed : result.map make = .error failure) : result = .error failure := by
  cases result with
  | error other =>
    cases failed
    rfl
  | ok a => cases failed

theorem error_of_mapError {ε δ : Type} {result : Except ε α} {make : ε → δ} {failure : δ}
    (failed : result.mapError make = .error failure) :
    ∃ cause, result = .error cause ∧ failure = make cause := by
  cases result with
  | error cause =>
    cases failed
    exact ⟨cause, rfl, rfl⟩
  | ok a => cases failed

def Failure.FromConfig (failure : Failure) : Prop :=
  failure.category? = none ∨ ∃ fault, failure = .config fault

/-- The set-up of a client is at fault. -/
def Failure.IsUsage (failure : Failure) : Prop := failure.category? = some .usage

theorem failsOnly_expand (host : Host) (path : Path) :
    FailsOnly Failure.FromConfig (host.expand path) := by
  unfold Host.expand
  split
  · split
    · exact failsOnly_error (Or.inl rfl)
    · split
      · exact failsOnly_error (Or.inl rfl)
      · split
        · exact failsOnly_error (Or.inl rfl)
        · exact failsOnly_ok _
  · exact failsOnly_ok _

theorem failsOnly_readSecret (host : Host) (path : Path) (source : String) :
    FailsOnly Failure.FromConfig (SecretSource.readSecret host path source) := by
  unfold SecretSource.readSecret
  split
  · exact failsOnly_error (Or.inl rfl)
  · exact failsOnly_error (Or.inr ⟨_, rfl⟩)
  · split
    · exact failsOnly_ok _
    · exact failsOnly_error (Or.inl rfl)

theorem failsOnly_resolveSecret (host : Host) (source : String) :
    FailsOnly Failure.FromConfig (resolveSecret host source) := by
  unfold resolveSecret
  split
  · exact failsOnly_error (Or.inr ⟨_, rfl⟩)
  · exact failsOnly_ok _
  · split
    · exact failsOnly_ok _
    · exact failsOnly_error (Or.inr ⟨_, rfl⟩)
  · exact failsOnly_bind (failsOnly_expand host _) fun path => failsOnly_readSecret host path source

theorem failsOnly_resolveOptional {host : Host} {source : Option String}
    (fails : ∀ given ∈ nonEmpty source, FailsOnly allowed (resolveSecret host given)) :
    FailsOnly allowed (resolveOptional host source) := by
  unfold resolveOptional
  split
  · exact failsOnly_ok _
  next given named => exact failsOnly_bind (fails given named) fun _ => failsOnly_ok _

theorem failsOnly_resolveUsers {host : Host} {users : Entries String}
    (fails : ∀ source ∈ users.map (·.2), FailsOnly allowed (resolveSecret host source)) :
    FailsOnly allowed (resolveUsers host users) := by
  induction users with
  | nil => exact failsOnly_ok []
  | cons first rest ih =>
    refine failsOnly_bind (fails first.2 List.mem_cons_self) fun password => ?_
    exact failsOnly_bind (ih fun source member => fails source (List.mem_cons_of_mem _ member))
      fun _ => failsOnly_ok _

namespace ClientSettings

def handlerSources (settings : ClientSettings) : HandlerType → List String
  | .oauth2 => [settings.clientIdSource, settings.clientSecretSource].filterMap nonEmpty
  | _ => []

theorem failsOnly_handler {host : Host} {settings : ClientSettings} {type : HandlerType}
    (unfit : ∀ handler, allowed (.config (.notConfigurable handler)))
    (fails : ∀ source ∈ settings.handlerSources type, FailsOnly allowed (resolveSecret host source)) :
    FailsOnly allowed (settings.handler host type) := by
  cases type with
  | form => exact failsOnly_ok _
  | basic => exact failsOnly_ok _
  | oauth2 =>
    have among {source : Option String}
        (one : source ∈ [settings.clientIdSource, settings.clientSecretSource]) :
        FailsOnly allowed (resolveOptional host source) :=
      failsOnly_resolveOptional fun given named =>
        fails given (List.mem_filterMap.2 ⟨source, one, named⟩)
    refine failsOnly_bind (among List.mem_cons_self) fun clientId => ?_
    refine failsOnly_bind (among ?_) fun clientSecret => failsOnly_ok _
    exact List.mem_cons_of_mem _ List.mem_cons_self
  | scripted => exact failsOnly_error (unfit _)

theorem failsOnly_build_of {host : Host} {types : Entries HandlerType} {settings : ClientSettings}
    (unknown : ∀ type known, allowed (.config (.unknownType type known)))
    (unfit : ∀ handler, allowed (.config (.notConfigurable handler)))
    (fails : ∀ type ∈ types.get? settings.type,
      ∀ source ∈ settings.handlerSources type ++ settings.users.map (·.2),
        FailsOnly allowed (resolveSecret host source)) :
    FailsOnly allowed (settings.build host types) := by
  unfold build
  split
  · exact failsOnly_error (unknown _ _)
  next type asked =>
    have own (source : String) (member : source ∈ settings.handlerSources type) :=
      fails type asked source (List.mem_append_left _ member)
    have users (source : String) (member : source ∈ settings.users.map (·.2)) :=
      fails type asked source (List.mem_append_right _ member)
    refine failsOnly_bind (failsOnly_handler unfit own) fun handler => ?_
    exact failsOnly_bind (failsOnly_resolveUsers users) fun users => failsOnly_ok _

theorem failsOnly_build (host : Host) (types : Entries HandlerType) (settings : ClientSettings) :
    FailsOnly Failure.FromConfig (settings.build host types) :=
  failsOnly_build_of (fun _ _ => Or.inr ⟨_, rfl⟩) (fun _ => Or.inr ⟨_, rfl⟩)
    fun _ _ source _ => failsOnly_resolveSecret host source

end ClientSettings

namespace Exchange

/-- An exchange that raises no failures but the allowed ones, in whatever state it begins. -/
def Raises (allowed : Failure → Prop) (exchange : Exchange α) : Prop :=
  ∀ state, FailsOnly allowed (exchange state).1

theorem raises_pure (a : α) : Raises allowed (pure a : Exchange α) := fun _ => failsOnly_ok a

theorem raises_fail {failure : Failure} (known : allowed failure) :
    Raises allowed (fail failure : Exchange α) := fun _ => failsOnly_error known

theorem raises_lift {result : Except Failure α} (fails : FailsOnly allowed result) :
    Raises allowed (lift result) := by
  cases result with
  | ok a => exact raises_pure a
  | error failure => exact raises_fail (fails failure rfl)

theorem raises_update (f : State → State) : Raises allowed (update f) := fun _ => failsOnly_ok ()

theorem raises_call (request : ProviderRequest) : Raises allowed (call request) :=
  fun _ => failsOnly_ok _

theorem raises_bind {first : Exchange α} {next : α → Exchange β} (raises : Raises allowed first)
    (rest : ∀ a, Raises allowed (next a)) : Raises allowed (first >>= next) := by
  intro state
  rw [bind_apply]
  rcases reached : first state with ⟨failure | a, middle⟩
  · exact failsOnly_error (raises state failure (congrArg Prod.fst reached))
  · exact rest a middle

theorem raises_settle (checked : Checked α) :
    Raises (¬ Failure.IsUsage ·) (settle checked) := by
  cases checked with
  | valid a => exact raises_pure a
  | invalid issues => exact raises_fail nofun

theorem raises_sessionValue (key : String) : Raises allowed (sessionValue key) :=
  fun _ => failsOnly_ok _

theorem first_of_usage {first : Exchange α} {next : α → Exchange β} {state : State}
    {failure : Failure} (rest : ∀ a, Raises (¬ Failure.IsUsage ·) (next a))
    (failed : ((first >>= next) state).1 = .error failure) (usage : failure.IsUsage) :
    (first state).1 = .error failure := by
  rcases reached : first state with ⟨other | a, middle⟩
  · rw [bind_of_error reached] at failed
    cases failed
    rfl
  · rw [bind_of_ok reached] at failed
    exact absurd usage (rest a middle failure failed)

end Exchange

open Exchange

namespace OAuth2Login

theorem failsOnly_reply (request : ProviderRequest)
    (answer : Except HttpException HttpResponse) :
    FailsOnly (¬ Failure.IsUsage ·) (reply request answer) := by
  intro failure failed
  unfold reply at failed
  cases read : readAnswer answer with
  | ok entries =>
    rw [read] at failed
    cases failed
  | error unanswered =>
    rw [read] at failed
    cases unanswered <;> cases failed <;> exact nofun

theorem raises_ask (request : ProviderRequest) :
    Raises (¬ Failure.IsUsage ·) (ask request) := by
  refine raises_bind (raises_call _) fun answer => raises_bind ?_ fun _ =>
    raises_lift (failsOnly_reply request answer)
  unfold warnOfOutage
  split
  · exact raises_update _
  · exact raises_pure ()

theorem raises_forget (client : String) : Raises allowed (forget client) :=
  raises_bind (raises_update _) fun _ => raises_update _

theorem raises_extract (caller : Caller) (request : Request) :
    Raises (¬ Failure.IsUsage ·) (extract caller request) := by
  unfold extract
  simp only
  split
  · refine raises_bind (raises_update _) fun _ => ?_
    exact raises_bind (raises_forget _) fun _ => raises_pure none
  · split
    · exact raises_pure none
    · refine raises_bind (raises_sessionValue _) fun kept => ?_
      refine raises_bind (raises_sessionValue _) fun verifier => ?_
      refine raises_bind (raises_forget _) fun _ => ?_
      split
      · refine raises_bind (raises_lift ?_) fun _ => raises_pure _
        unfold keptVerifier
        split
        · exact failsOnly_ok _
        · exact failsOnly_ok _
        · exact failsOnly_error nofun
      · exact raises_bind (raises_update _) fun _ => raises_pure none

theorem raises_buildProfile (oauth : OAuth2Login) (credentials : Credentials) :
    Raises (¬ Failure.IsUsage ·) (oauth.buildProfile credentials) := by
  unfold buildProfile
  split
  · refine raises_bind (raises_ask _) fun token => ?_
    split
    · exact raises_fail nofun
    · refine raises_bind (raises_ask _) fun userinfo => ?_
      split
      · exact raises_pure _
      · exact raises_fail nofun
  · exact raises_pure none

end OAuth2Login

namespace Handler

theorem raises_redirect (handler : Handler) (caller : Caller) (request : Request) :
    Raises (¬ Failure.IsUsage ·) (handler.redirect caller request) := by
  cases handler with
  | form login => exact raises_pure _
  | basic login => exact raises_pure _
  | oauth2 login =>
    intro state
    rw [Handler.redirect_oauth2]
    exact failsOnly_ok _
  | scripted login => exact raises_bind (raises_update _) fun _ => raises_settle _

theorem raises_extract (handler : Handler) (caller : Caller) (request : Request) :
    Raises (¬ Failure.IsUsage ·) (handler.extract caller request) := by
  cases handler with
  | form login => exact raises_pure _
  | basic login =>
    unfold Handler.extract
    simp only
    split
    · exact raises_pure _
    · exact raises_fail nofun
  | oauth2 login => exact OAuth2Login.raises_extract caller request
  | scripted login =>
    refine raises_bind (raises_update _) fun _ => ?_
    split
    · exact raises_settle _
    · refine raises_bind (raises_settle _) fun challenge => ?_
      split
      · exact raises_fail nofun
      · exact raises_fail nofun

theorem raises_buildProfile (handler : Handler) (credentials : Credentials) :
    Raises (¬ Failure.IsUsage ·) (handler.buildProfile credentials) := by
  cases handler with
  | form login => exact raises_pure _
  | basic login => exact raises_pure _
  | oauth2 login => exact login.raises_buildProfile credentials
  | scripted login => exact raises_bind (raises_update _) fun _ => raises_settle _

/-- A handler of one of the protocols that settings can ask for. -/
def IsBuiltIn : Handler → Prop
  | .scripted _ => False
  | _ => True

end Handler

namespace Client

theorem raises_consumeMark (client : Client) : Raises allowed client.consumeMark := by
  intro state
  rw [consumeMark_apply]
  exact failsOnly_ok _

theorem raises_check (client : Client) (credentials : Credentials) :
    Raises allowed (client.check credentials) := by
  unfold check
  split
  · exact raises_pure _
  · split
    · exact raises_pure _
    · exact raises_bind (raises_update _) fun _ => raises_pure none

theorem raises_conclude (client : Client) (credentials : Option Credentials) :
    Raises allowed (client.conclude credentials) := by
  cases credentials with
  | none => exact raises_bind (raises_update _) fun _ => raises_pure none
  | some credentials => exact raises_bind (raises_update _) fun _ => raises_pure _

theorem raises_bareProfile (client : Client) (credentials : Credentials) :
    Raises (¬ Failure.IsUsage ·) (client.bareProfile credentials) := by
  unfold bareProfile
  split
  · exact raises_pure _
  · exact client.handler.raises_buildProfile credentials

variable {client : Client} {request : Request} {state : State} {failure : Failure}

theorem init_of_resolveRedirect {guarded scripted : Bool}
    (failed : (client.resolveRedirect request guarded scripted state).1 = .error failure)
    (usage : failure.IsUsage) : (client.init state).1 = .error failure := by
  refine first_of_usage (fun _ => ?_) failed usage
  split
  · exact raises_pure _
  · refine raises_bind client.raises_consumeMark fun marked => ?_
    split
    · exact raises_bind (raises_update _) fun _ => raises_pure _
    · split
      · exact client.handler.raises_redirect _ _
      · exact raises_pure _

theorem init_of_credentials (failed : (client.credentials request state).1 = .error failure)
    (usage : failure.IsUsage) : (client.init state).1 = .error failure := by
  refine first_of_usage (fun _ => ?_) failed usage
  split
  · refine raises_bind (client.handler.raises_redirect _ _) fun outcome => ?_
    refine raises_bind (raises_lift ?_) fun _ => raises_fail nofun
    unfold continuationAction
    split
    · exact failsOnly_ok _
    · exact failsOnly_ok _
    · exact failsOnly_error nofun
  · refine raises_bind (client.handler.raises_extract _ _) fun offered => ?_
    split
    · exact client.raises_conclude none
    · exact raises_bind (client.raises_check _) fun accepted => client.raises_conclude accepted

theorem init_of_profile {credentials : Option Credentials}
    (failed : (client.profile credentials state).1 = .error failure) (usage : failure.IsUsage) :
    (client.init state).1 = .error failure := by
  cases credentials with
  | none => exact first_of_usage (fun _ => raises_pure none) failed usage
  | some credentials =>
    refine first_of_usage (fun _ => ?_) failed usage
    refine raises_bind (client.raises_bareProfile credentials) fun bare => ?_
    split
    · exact raises_pure none
    · split
      · exact raises_pure _
      · exact raises_fail nofun

/-- A client finds something wrong with its set-up while it gets ready, or not at all: where an
operation fails for that, it is the getting ready that failed. -/
theorem init_of_usage {operation : Operation}
    (failed : (client.perform request operation state).1 = .error failure)
    (usage : failure.IsUsage) : (client.init state).1 = .error failure := by
  cases operation with
  | init => exact first_of_usage (fun _ => raises_pure _) failed usage
  | resolveRedirect guarded scripted =>
    exact init_of_resolveRedirect (first_of_usage (fun _ => raises_pure _) failed usage) usage
  | redirectAction guarded scripted =>
    have action := first_of_usage (fun _ => raises_pure _) failed usage
    refine init_of_resolveRedirect (first_of_usage (fun outcome => ?_) action usage) usage
    split
    · exact raises_pure _
    · exact raises_fail nofun
  | redirect guarded scripted =>
    have written := first_of_usage (fun _ => raises_pure _) failed usage
    refine init_of_resolveRedirect (first_of_usage (fun outcome => ?_) written usage) usage
    exact raises_bind (raises_update _) fun _ => raises_pure _
  | redirectionUrl =>
    have url := first_of_usage (fun _ => raises_pure _) failed usage
    exact init_of_resolveRedirect (first_of_usage (fun _ => raises_pure _) url usage) usage
  | credentials =>
    exact init_of_credentials (first_of_usage (fun _ => raises_pure _) failed usage) usage
  | profile credentials =>
    exact init_of_profile (first_of_usage (fun _ => raises_pure _) failed usage) usage

/-- Nothing is wrong with the set-up of a client. -/
structure Usable (client : Client) : Prop where
  callback : client.lacksCallback = false
  settings : client.handler.problems = []

theorem init_of_usable (builtIn : client.handler.IsBuiltIn) (usable : client.Usable)
    (state : State) : (client.init state).1 = .ok () := by
  have started : client.handler.start client.name = pure () := by
    unfold Handler.start
    rw [usable.settings]
    cases handler : client.handler with
    | scripted login =>
      rw [handler] at builtIn
      exact builtIn.elim
    | _ => rfl
  unfold init
  rw [started, usable.callback]
  cases ready : state.progress.initialized with
  | true =>
    rw [bind_apply]
    simp only [Exchange.state, ready, if_true]
    rfl
  | false =>
    rw [bind_apply]
    simp only [Exchange.state, ready, Bool.false_eq_true, if_false]
    rfl

/-- What is wrong with the set-up of a client is found when it gets ready for the first time. -/
theorem init_of_not_usable (builtIn : client.handler.IsBuiltIn) (unusable : ¬ client.Usable)
    (fresh : state.progress.initialized = false) :
    ∃ failure, (client.init state).1 = .error failure ∧ failure.IsUsage := by
  unfold init
  rw [bind_apply]
  simp only [Exchange.state, fresh, Bool.false_eq_true, if_false]
  split
  · exact ⟨_, rfl, rfl⟩
  next callback =>
    have wrong : client.handler.problems.isEmpty = false := by
      apply eq_false_of_ne_true
      intro empty
      exact unusable ⟨eq_false_of_ne_true callback, List.isEmpty_iff.1 empty⟩
    have refused : client.handler.start client.name =
        fail (.misconfigured client.name client.handler.problems) := by
      unfold Handler.start
      cases handler : client.handler with
      | scripted login =>
        rw [handler] at builtIn
        exact builtIn.elim
      | _ =>
        rw [handler] at wrong
        simp only [wrong]
        rfl
    rw [refused]
    exact ⟨_, rfl, rfl⟩

end Client

end SignOn
