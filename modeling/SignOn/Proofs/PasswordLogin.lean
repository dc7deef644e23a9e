import SignOn.Proofs.Deployment
import SignOn.Proofs.Enrichment
import SignOn.Proofs.LoginRoundTrip
import SignOn.Proofs.LoopGuard
import SignOn.Proofs.Utf8

/-!
Logging in with a user name and a password. A client that settings with users describe accepts what
a request presents exactly when neither part is blank and the table has that password for that user;
it then knows the user by name, and its generators grant without touching who the user is. In every
other case it finds no credentials, and the session is marked.
-/

namespace SignOn

open Exchange

/-- The credentials that a user name and a password are, as they are offered. -/
def Credentials.ofPair (pair : String × String) : Credentials :=
  { evidence := .password pair.1 pair.2 }

namespace Authenticator

theorem accepts_passwords {users : Entries String} {username password : String} :
    (passwords users).accepts username password = true ↔ users.get? username = some password := by
  unfold accepts
  cases known : users.get? username with
  | none => simp only [known, Bool.false_eq_true, reduceCtorEq]
  | some expected =>
    simp only [known, beq_iff_eq, Option.some.injEq]
    exact ⟨Utf8.encode_injective, congrArg Utf8.encode⟩

/-- The table has the password of the pair for its user name, and neither is blank. -/
structure Grants (users : Entries String) (pair : String × String) : Prop where
  wholeName : Text.isBlank pair.1 = false
  wholeWord : Text.isBlank pair.2 = false
  known : users.get? pair.1 = some pair.2

def vouched (pair : String × String) : Credentials :=
  { Credentials.ofPair pair with profile := some (Profile.ofUsername pair.1) }

theorem offered_ofPair (pair : String × String) :
    offered (.ofPair pair) =
      if Text.isBlank pair.1 then .error .blankUsername
      else if Text.isBlank pair.2 then .error .blankPassword
      else .ok pair := rfl

variable {users : Entries String} {pair : String × String}

theorem validate_of_grants (grants : Grants users pair) :
    (passwords users).validate (.ofPair pair) = .ok (vouched pair) := by
  unfold validate
  rw [offered_ofPair, grants.wholeName, grants.wholeWord]
  change (if (passwords users).accepts pair.1 pair.2 then _ else _) = _
  rw [if_pos (accepts_passwords.2 grants.known)]
  rfl

theorem validate_of_not_grants (refused : ¬ Grants users pair) :
    ∃ rejection, (passwords users).validate (.ofPair pair) = .error rejection := by
  unfold validate
  rw [offered_ofPair]
  cases blankName : Text.isBlank pair.1 with
  | true => exact ⟨.blankUsername, rfl⟩
  | false =>
    cases blankWord : Text.isBlank pair.2 with
    | true => exact ⟨.blankPassword, rfl⟩
    | false =>
      have unknown : ¬ (passwords users).accepts pair.1 pair.2 = true := fun accepted =>
        refused ⟨blankName, blankWord, accepts_passwords.1 accepted⟩
      refine ⟨(passwords users).refusal pair.1, ?_⟩
      change (if (passwords users).accepts pair.1 pair.2 then _ else _) = _
      rw [if_neg unknown]

end Authenticator

namespace Profile

/-- Two profiles of one user, which differ at most in what the user is granted. -/
structure SameUser (first second : Profile) : Prop where
  id : second.id = first.id
  clientName : second.clientName = first.clientName
  attributes : second.attributes = first.attributes

theorem SameUser.refl (profile : Profile) : profile.SameUser profile := ⟨rfl, rfl, rfl⟩

theorem SameUser.trans {first second third : Profile} (one : first.SameUser second)
    (two : second.SameUser third) : first.SameUser third :=
  ⟨two.id.trans one.id, two.clientName.trans one.clientName, two.attributes.trans one.attributes⟩

end Profile

namespace Generator

def Grants (generator : Generator) : Prop :=
  ∀ profile : Profile, ∃ enriched, generator.generate profile = .ok enriched ∧
    profile.SameUser enriched

theorem OnlyGrants.grants {generator : Generator} (only : generator.OnlyGrants) :
    generator.Grants :=
  fun profile => ⟨_, only profile, rfl, rfl, rfl⟩

theorem generateAll_sameUser {generators : List Generator}
    (all : ∀ generator ∈ generators, generator.Grants) (profile : Profile) :
    ∃ enriched, generateAll generators profile = .ok enriched ∧ profile.SameUser enriched := by
  induction generators generalizing profile with
  | nil => exact ⟨profile, rfl, .refl profile⟩
  | cons generator rest ih =>
    obtain ⟨middle, granted, same⟩ := all generator List.mem_cons_self profile
    obtain ⟨enriched, further, still⟩ :=
      ih (fun other member => all other (List.mem_cons_of_mem _ member)) middle
    refine ⟨enriched, ?_, same.trans still⟩
    change (generator.generate profile >>= generateAll rest) = _
    rw [granted]
    exact further

end Generator

theorem Handler.extract_basic {login : BasicLogin} {caller : Caller} {request : Request}
    {pair : String × String}
    (read : BasicLogin.decode (request.header? "Authorization") = .ok pair) :
    (Handler.basic login).extract caller request = pure (some (.ofPair pair)) := by
  unfold Handler.extract BasicLogin.credentials
  simp only [read]
  rfl

namespace ClientSettings

theorem onlyGrants_of_mem_generators {settings : ClientSettings} {generator : Generator}
    (member : generator ∈ settings.generators) : generator.OnlyGrants := by
  unfold generators at member
  rcases List.mem_append.1 member with fixed | read
  · split at fixed
    · cases fixed
    · rw [List.mem_singleton.1 fixed]
      exact Generator.onlyGrants_defaults _ _
  · split at read
    · cases read
    · rw [List.mem_singleton.1 read]
      exact Generator.onlyGrants_fromAttributes _ _ (by decide)

theorem grants_of_mem_generators {settings : ClientSettings} {generator : Generator}
    (member : generator ∈ settings.generators) : generator.Grants :=
  (onlyGrants_of_mem_generators member).grants

/-- The user name and the password that a request presents to a form, or in its header. -/
def presented (settings : ClientSettings) (request : Request) : Option (String × String) :=
  if settings.type = "basic" then (BasicLogin.decode (request.header? "Authorization")).toOption
  else do
    let username ← request.parameter? settings.usernameParameter
    let password ← request.parameter? settings.passwordParameter
    pure (username, password)

theorem build_of_users {host : Host} {settings : ClientSettings} {types : Entries HandlerType}
    {client : Client} {passwords : Entries String} (known : settings.users ≠ [])
    (resolved : resolveUsers host settings.users = .ok passwords)
    (built : settings.build host types = .ok client) :
    (∃ type, types.get? settings.type = some type ∧
      settings.handler host type = .ok client.handler) ∧
      client.generators = settings.generators ∧
      client.authenticator = some (.passwords passwords) ∧ client.takesAttached = true := by
  have some : passwords.isEmpty = false := by
    cases users : settings.users with
    | nil => exact absurd users known
    | cons first rest =>
      obtain ⟨user, source⟩ := first
      rw [users] at resolved
      change (resolveSecret host source >>= fun password => _) = _ at resolved
      obtain ⟨password, -, resolved⟩ := ok_of_bind resolved
      change (resolveUsers host rest >>= fun more => _) = _ at resolved
      obtain ⟨more, -, resolved⟩ := ok_of_bind resolved
      cases resolved
      rfl
  obtain ⟨type, handler, found, asked, made, again, rfl⟩ := made_of_build built
  cases again.symm.trans resolved
  refine ⟨⟨type, asked, made⟩, rfl, ?_, ?_⟩
  · simp only [some, Bool.false_eq_true, if_false]
  · simp only [some, Bool.not_false]

theorem extract_of_presented {host : Host} {settings : ClientSettings} {type : HandlerType}
    {handler : Handler} (typed : settings.type = "form" ∨ settings.type = "basic")
    (asked : builtInTypes.get? settings.type = some type)
    (made : settings.handler host type = .ok handler) (caller : Caller) {request : Request}
    (wellFormed : settings.type = "basic" → (settings.presented request).isSome = true)
    (state : State) :
    ∃ offered, handler.extract caller request state = (.ok offered, state) ∧
      (offered = (settings.presented request).map Credentials.ofPair ∨
        offered = none ∧ ∀ pair ∈ settings.presented request,
          Text.isBlank pair.1 = true ∨ Text.isBlank pair.2 = true) := by
  rcases typed with form | basic
  · have apart : settings.type ≠ "basic" := by
      rw [form]
      decide
    rw [form] at asked
    cases asked
    cases made
    refine ⟨_, rfl, ?_⟩
    unfold presented FormLogin.credentials
    rw [if_neg apart]
    cases username : request.parameter? settings.usernameParameter with
    | none => exact Or.inl rfl
    | some username =>
      cases password : request.parameter? settings.passwordParameter with
      | none => exact Or.inl (by simp only [*]; rfl)
      | some password =>
        simp only [*]
        split
        next blank =>
          refine Or.inr ⟨rfl, fun pair member => ?_⟩
          cases member
          exact by simpa only [Bool.or_eq_true] using blank
        next whole => exact Or.inl rfl
  · rw [basic] at asked
    cases asked
    cases made
    have decoded := wellFormed basic
    unfold presented at decoded ⊢
    rw [if_pos basic] at decoded ⊢
    cases read : BasicLogin.decode (request.header? "Authorization") with
    | error fault =>
      rw [read] at decoded
      cases decoded
    | ok pair =>
      refine ⟨_, ?_, Or.inl rfl⟩
      rw [Handler.extract_basic read]
      rfl

end ClientSettings

namespace Client

variable {client : Client} {passwords : Entries String}

theorem accepted_of_presented (knows : client.authenticator = some (.passwords passwords))
    {presented : Option (String × String)} {offered : Option Credentials}
    (extracted : offered = presented.map Credentials.ofPair ∨
      offered = none ∧ ∀ pair ∈ presented,
        Text.isBlank pair.1 = true ∨ Text.isBlank pair.2 = true) :
    (∀ pair ∈ presented, Authenticator.Grants passwords pair →
      offered.bind client.accepted = some (Authenticator.vouched pair)) ∧
    ((∀ pair ∈ presented, ¬ Authenticator.Grants passwords pair) →
      offered.bind client.accepted = none) := by
  have judged (pair : String × String) : client.accepted (.ofPair pair) =
      ((Authenticator.passwords passwords).validate (.ofPair pair)).toOption := by
    unfold accepted
    rw [knows]
  rcases extracted with whole | ⟨blank, part⟩
  · subst whole
    constructor
    · intro pair member grants
      rw [Option.mem_def.1 member]
      change client.accepted (.ofPair pair) = _
      rw [judged, Authenticator.validate_of_grants grants]
      rfl
    · intro refused
      cases presented with
      | none => rfl
      | some pair =>
        obtain ⟨rejection, rejected⟩ := Authenticator.validate_of_not_grants (refused pair rfl)
        change client.accepted (.ofPair pair) = _
        rw [judged, rejected]
        rfl
  · subst blank
    refine ⟨fun pair member grants => ?_, fun _ => rfl⟩
    rcases part pair member with name | word
    · exact absurd grants.wholeName (by simp only [name, Bool.true_eq_false, not_false_eq_true])
    · exact absurd grants.wholeWord (by simp only [word, Bool.true_eq_false, not_false_eq_true])

theorem ready_of_init {state ready : State} (started : client.init state = (.ok (), ready)) :
    ready.progress.initialized = true := by
  cases fresh : state.progress.initialized with
  | false => exact (initialised_of_init fresh started).ready
  | true =>
    cases (client.init_of_initialized state fresh).symm.trans started
    exact fresh

theorem profile_of_vouched (attached : client.takesAttached = true)
    (granting : ∀ generator ∈ client.generators, generator.Grants) {later : Standing}
    (ready : later.progress.initialized = true) {next : Call} (pair : String × String)
    (asks : next.operation =
      .profile (some (client.stamped (Authenticator.vouched pair)))) :
    ∃ profile, (client.visit later next).result = .ok (.profile (some profile)) ∧
      profile.id = pair.1 ∧ profile.attributes = [("username", .text pair.1)] ∧
      profile.clientName = some client.name := by
  have started := client.init_of_initialized (next.enter later) ready
  obtain ⟨enriched, generated, same⟩ := Generator.generateAll_sameUser granting
    { Profile.ofUsername pair.1 with clientName := some client.name }
  have enriches : client.enrich (Profile.ofUsername pair.1) = .ok enriched := generated
  have made : client.profile (some (client.stamped (Authenticator.vouched pair)))
      (next.enter later) = (.ok (some enriched), next.enter later) := by
    refine profile_of_builds ⟨_, _, rfl, started, ?_⟩ enriches
    unfold bareProfile
    rw [attached, if_pos rfl]
    rfl
  refine ⟨enriched, ?_, same.id, same.attributes, same.clientName⟩
  unfold visit
  rw [asks]
  have performed : client.perform next.request
      (.profile (some (client.stamped (Authenticator.vouched pair)))) (next.enter later) =
        (.ok (.profile (some enriched)), next.enter later) := bind_of_ok made
  exact congrArg Prod.fst performed

end Client

/-- A client that settings with users describe lets in whom its table knows, by just the password
that the table has, and nobody else. Credentials are found exactly when the request presents such a
pair; then nothing is marked, and the profile of the credentials is that of the user, whatever
session it is asked in. In every other case none are found, and the session is marked. -/
theorem password_login_iff {host : Host} {settings : ClientSettings} {client : Client}
    {passwords : Entries String} (typed : settings.type = "form" ∨ settings.type = "basic")
    (peopled : settings.users ≠ [])
    (resolved : resolveUsers host settings.users = .ok passwords)
    (built : settings.build host builtInTypes = .ok client) (standing : Standing) (call : Call)
    (reads : call.operation = .credentials) (begins : client.Begins standing call)
    (direct : Client.isContinuation call.request = false)
    (wellFormed : settings.type = "basic" → (settings.presented call.request).isSome = true) :
    let visit := client.visit standing call
    ((∃ credentials, visit.result = .ok (.credentials (some credentials))) ↔
      ∃ pair ∈ settings.presented call.request, Authenticator.Grants passwords pair) ∧
    (∀ pair ∈ settings.presented call.request, Authenticator.Grants passwords pair →
      ∃ credentials, visit.result = .ok (.credentials (some credentials)) ∧
        credentials.evidence = .password pair.1 pair.2 ∧
        visit.after.session.get? client.guardKey = none ∧
        ∀ later next, later.progress = visit.after.progress →
          next.operation = .profile (some credentials) →
          ∃ profile, (client.visit later next).result = .ok (.profile (some profile)) ∧
            profile.id = pair.1 ∧ profile.attributes = [("username", .text pair.1)] ∧
            profile.clientName = some client.name) ∧
    ((∀ pair ∈ settings.presented call.request, ¬ Authenticator.Grants passwords pair) →
      visit.result = .ok (.credentials none) ∧
        visit.after.session.get? client.guardKey = some (.text "true")) := by
  intro visit
  obtain ⟨⟨type, asked, made⟩, generators, knows, attached⟩ :=
    ClientSettings.build_of_users peopled resolved built
  have started : client.init (call.enter standing) = (.ok (), _) := Prod.ext begins rfl
  obtain ⟨offered, extracted, presented⟩ := ClientSettings.extract_of_presented typed asked made
    client.caller wellFormed (client.init (call.enter standing)).2
  obtain ⟨granted, refused⟩ := Client.accepted_of_presented knows presented
  obtain ⟨log, read⟩ := Client.credentials_of_extract started direct extracted
  obtain ⟨result, after⟩ := client.visit_of_credentials standing call reads
  rw [read] at result after
  have kept : visit.after.progress = (client.init (call.enter standing)).2.progress := by
    change (client.visit standing call).after.progress = _
    rw [after]
  have session : visit.after.session = _ := congrArg State.session after
  have accepts : ∀ pair ∈ settings.presented call.request, Authenticator.Grants passwords pair →
      visit.result =
        .ok (.credentials (some (client.stamped (Authenticator.vouched pair)))) := by
    intro pair member grants
    refine result.trans ?_
    rw [granted pair member grants]
    rfl
  have refuses : (∀ pair ∈ settings.presented call.request,
      ¬ Authenticator.Grants passwords pair) → visit.result = .ok (.credentials none) := by
    intro none
    refine result.trans ?_
    rw [refused none]
    rfl
  refine ⟨⟨?_, ?_⟩, ?_, ?_⟩
  · rintro ⟨credentials, found⟩
    by_contra nobody
    have nothing := refuses fun pair member grants => nobody ⟨pair, member, grants⟩
    cases found.symm.trans nothing
  · rintro ⟨pair, member, grants⟩
    exact ⟨_, accepts pair member grants⟩
  · intro pair member grants
    refine ⟨_, accepts pair member grants, rfl, ?_, ?_⟩
    · rw [session, granted pair member grants]
      exact (Session.get?_clear _ _ _).trans (if_pos rfl)
    · intro later next same asks
      have ready : later.progress.initialized = true := by
        rw [same, kept]
        exact Client.ready_of_init started
      refine Client.profile_of_vouched attached (fun generator inside => ?_) ready pair asks
      exact ClientSettings.grants_of_mem_generators (generators ▸ inside)
  · intro nobody
    refine ⟨refuses nobody, ?_⟩
    rw [session, refused nobody]
    exact (Session.get?_set_text _ _ _ _).trans (if_pos rfl)

def oneUserSettings : ClientSettings :=
  { type := "basic", users := [("renée", "literal:open: sesame")] }

theorem oneUser_enters :
    let request : Request :=
      { headers := [("Authorization", BasicLogin.encode "renée" "open: sesame")] }
    let call := { Call.bare .credentials with request }
    ∃ client passwords, resolveUsers {} oneUserSettings.users = .ok passwords ∧
      oneUserSettings.build {} builtInTypes = .ok client ∧
      oneUserSettings.type = "basic" ∧ oneUserSettings.users ≠ [] ∧
      client.Begins {} call ∧ Client.isContinuation request = false ∧
      (oneUserSettings.presented request).isSome = true ∧
      ∃ credentials, (client.visit {} call).result = .ok (.credentials (some credentials)) ∧
        credentials.evidence = .password "renée" "open: sesame" := by
  intro request call
  have presents : oneUserSettings.presented request = some ("renée", "open: sesame") := by
    decide +kernel
  have known : resolveUsers {} oneUserSettings.users = .ok [("renée", "open: sesame")] := rfl
  have built : oneUserSettings.build {} builtInTypes = .ok _ := rfl
  have wellFormed : (oneUserSettings.presented request).isSome = true := by
    rw [presents]
    rfl
  obtain ⟨-, enters, -⟩ := password_login_iff (Or.inr rfl) (by decide) known built {} call rfl rfl
    rfl (fun _ => wellFormed)
  obtain ⟨credentials, found, evidence, -, -⟩ :=
    enters ("renée", "open: sesame") presents ⟨by decide, by decide, rfl⟩
  exact ⟨_, _, known, built, rfl, by decide, rfl, rfl, wellFormed, credentials, found, evidence⟩

end SignOn
