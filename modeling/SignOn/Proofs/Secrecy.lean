import SignOn.Proofs.PasswordLogin

/-!
What is told of secrets. A description of credentials is the same whatever password, token, code or
verifier they hold. Of two attempts to log in that are turned away nothing tells apart which password
was tried, nor whether the user is known: the messages are the same, and so is everything that the
attempts leave behind.
-/

namespace SignOn

open Exchange

namespace Evidence

theorem typeName_redacted (evidence : Evidence) :
    evidence.redacted.typeName = evidence.typeName := by
  cases evidence <;> rfl

theorem shownEvidence_redacted (evidence : Evidence) :
    Credentials.shownEvidence evidence.redacted = Credentials.shownEvidence evidence := by
  cases evidence <;> rfl

end Evidence

theorem Credentials.describe_congr {first second : Credentials}
    (name : first.clientName = second.clientName) (profile : first.profile = second.profile)
    (evidence : first.evidence.redacted = second.evidence.redacted) :
    first.describe = second.describe := by
  have type : first.evidence.typeName = second.evidence.typeName := by
    rw [← Evidence.typeName_redacted, evidence, Evidence.typeName_redacted]
  have shown : shownEvidence first.evidence = shownEvidence second.evidence := by
    rw [← Evidence.shownEvidence_redacted, evidence, Evidence.shownEvidence_redacted]
  unfold describe
  rw [name, profile, type, shown]

namespace Authenticator

/-- What a table says against a user, whatever password was offered. -/
def refusalOf (username : String) : Rejection :=
  if Text.isBlank username then .blankUsername else .unknownOrWrong username

theorem validate_of_evidence {authenticator : Authenticator} {first second : Credentials}
    {rejection : Rejection} (same : first.evidence = second.evidence)
    (rejected : authenticator.validate first = .error rejection) :
    authenticator.validate second = .error rejection := by
  have offers : offered first = offered second := by
    unfold offered
    rw [same]
  unfold validate at rejected ⊢
  rw [← offers]
  cases offer : offered first with
  | error other =>
    rw [offer] at rejected
    cases rejected
    rfl
  | ok pair =>
    rw [offer] at rejected
    change (if authenticator.accepts pair.1 pair.2 then _ else _) = _ at rejected ⊢
    split at rejected
    · cases rejected
    next refused =>
      cases rejected
      exact if_neg refused

theorem rejection_eq_refusalOf {users : Entries String} {credentials : Credentials}
    {username password : String} {rejection : Rejection}
    (evidence : credentials.evidence = .password username password)
    (whole : Text.isBlank password = false)
    (rejected : (passwords users).validate credentials = .error rejection) :
    rejection = refusalOf username := by
  unfold validate offered at rejected
  rw [evidence] at rejected
  unfold refusalOf
  simp only [whole, Bool.false_eq_true, if_false] at rejected
  cases blank : Text.isBlank username with
  | true =>
    rw [blank] at rejected
    cases rejected
    rfl
  | false =>
    rw [blank] at rejected
    change (if (passwords users).accepts username password then _ else _) = _ at rejected
    split at rejected
    · cases rejected
    · cases rejected
      rfl

end Authenticator

namespace Handler

/-- The request presents a user name and a password to the handler: as parameters to a form, in its
header, or by what was settled for it. -/
def Presents (handler : Handler) (request : Request) (pair : String × String) : Prop :=
  match handler with
  | .form login =>
    request.parameter? login.usernameParameter = some pair.1 ∧
      request.parameter? login.passwordParameter = some pair.2
  | .basic _ => BasicLogin.decode (request.header? "Authorization") = .ok pair
  | .oauth2 _ => False
  | .scripted login =>
    login.challenge = none ∧ ∃ credentials, login.credentials = .valid (some credentials) ∧
      credentials.evidence = .password pair.1 pair.2

def overlooks (handler : Handler) (username : String) : Bool :=
  match handler with
  | .form _ => Text.isBlank username
  | _ => false

theorem extract_of_presents (handler : Handler) (caller : Caller) (username : String)
    (state : State) :
    ∃ next, ∀ request password, handler.Presents request (username, password) →
      Text.isBlank password = false →
      ∃ offered, handler.extract caller request state = (.ok offered, next) ∧
        (handler.overlooks username = true ∧ offered = none ∨
          handler.overlooks username = false ∧ ∃ credentials, offered = some credentials ∧
            credentials.evidence = .password username password) := by
  cases handler with
  | form login =>
    refine ⟨state, fun request password presents whole => ⟨_, rfl, ?_⟩⟩
    unfold overlooks FormLogin.credentials
    simp only [presents.1, presents.2, whole, Bool.or_false]
    cases Text.isBlank username with
    | true => exact Or.inl ⟨rfl, rfl⟩
    | false => exact Or.inr ⟨rfl, _, rfl, rfl⟩
  | basic login =>
    refine ⟨state, fun request password presents _ => ?_⟩
    rw [Handler.extract_basic presents]
    exact ⟨_, rfl, Or.inr ⟨rfl, _, rfl, rfl⟩⟩
  | oauth2 login => exact ⟨state, fun _ _ presents => presents.elim⟩
  | scripted login =>
    refine ⟨(Exchange.note .extractCredentials state).2, fun request password presents _ => ?_⟩
    obtain ⟨unchallenged, credentials, settled, evidence⟩ := presents
    refine ⟨some credentials, ?_, Or.inr ⟨rfl, credentials, rfl, evidence⟩⟩
    change login.extract state = _
    unfold ScriptedLogin.extract
    rw [unchallenged, settled]
    rfl

end Handler

namespace Client

/-- The client with a table of users to check passwords against. -/
def knowing (client : Client) (users : Entries String) : Client :=
  { client with authenticator := some (.passwords users) }

def rejectionRecord (name : String) (rejection : Rejection) : LogRecord :=
  ⟨.info, .client, "Client '" ++ name ++ "': credentials rejected: " ++ rejection.message⟩

/-- How things stand once a user was turned away, whatever password was tried on whatever table. -/
def turnedAway (client : Client) (username : String) (state : State) : State :=
  { state with
    session := LoopGuard.mark client.name state.session,
    log := if client.handler.overlooks username then state.log
      else state.log ++ [rejectionRecord client.name (Authenticator.refusalOf username)] }

variable {client : Client} {state ready : State}

theorem check_of_rejected {users : Entries String} {offered : Credentials} {rejection : Rejection}
    (rejected : (Authenticator.passwords users).validate offered = .error rejection)
    (state : State) :
    (client.knowing users).check offered state =
      (.ok none, { state with log := state.log ++ [rejectionRecord client.name rejection] }) := by
  unfold Client.check knowing
  simp only [rejected]
  rfl

theorem turned_away (started : client.init state = (.ok (), ready)) (username : String) :
    ∃ after, ∀ users request password rejection, Text.isBlank password = false →
      isContinuation request = false → client.handler.Presents request (username, password) →
      (Authenticator.passwords users).validate (.ofPair (username, password)) = .error rejection →
      (client.knowing users).credentials request state = (.ok none, after) := by
  obtain ⟨next, extracts⟩ := client.handler.extract_of_presents client.caller username ready
  refine ⟨client.turnedAway username next, ?_⟩
  intro users request password rejection whole direct presents rejected
  have started : (client.knowing users).init state = (.ok (), ready) := started
  obtain ⟨offered, extracted, offer⟩ := extracts request password presents whole
  have extracted : (client.knowing users).handler.extract (client.knowing users).caller request
    ready = (.ok offered, next) := extracted
  unfold Client.credentials turnedAway
  rw [bind_of_ok started, direct, if_neg Bool.false_ne_true, bind_of_ok extracted]
  -- Whether anything is offered, and what is said against it, both follow from the user name.
  rcases offer with ⟨overlooked, rfl⟩ | ⟨seen, credentials, rfl, evidence⟩
  · rw [overlooked, if_pos rfl]
    exact conclude_apply _ none next
  · have refused : (Authenticator.passwords users).validate credentials = .error rejection :=
      Authenticator.validate_of_evidence evidence.symm rejected
    rw [seen, if_neg Bool.false_ne_true,
      ← Authenticator.rejection_eq_refusalOf evidence whole refused]
    exact (bind_of_ok (check_of_rejected refused next)).trans (conclude_apply _ none _)

end Client

/-- Secrets do not show. Credentials that differ only in a password, a token, a code or a verifier
have one description. Two attempts of one user that are turned away, with different passwords and on
different tables, are turned away with the same words; and where they were made by requests, no
credentials are found in either and everything is left the same. -/
theorem secrets_unseen :
    (∀ first second : Credentials, first.clientName = second.clientName →
      first.profile = second.profile → first.evidence.redacted = second.evidence.redacted →
      first.describe = second.describe) ∧
    ∀ (username password other : String) (users others : Entries String)
      (first second : Credentials) (rejection another : Rejection),
      Text.isBlank password = false → Text.isBlank other = false →
      first.evidence = .password username password → second.evidence = .password username other →
      (Authenticator.passwords users).validate first = .error rejection →
      (Authenticator.passwords others).validate second = .error another →
      rejection.message = another.message ∧
        ∀ (client : Client) (state : State) (request later : Request),
          (client.init state).1 = .ok () → Client.isContinuation request = false →
          Client.isContinuation later = false →
          client.handler.Presents request (username, password) →
          client.handler.Presents later (username, other) →
          ∃ after, (client.knowing users).credentials request state = (.ok none, after) ∧
            (client.knowing others).credentials later state = (.ok none, after) := by
  refine ⟨fun _ _ => Credentials.describe_congr, ?_⟩
  intro username password other users others first second rejection another whole otherWhole
    evidence otherEvidence rejected otherRejected
  constructor
  · rw [Authenticator.rejection_eq_refusalOf evidence whole rejected,
      Authenticator.rejection_eq_refusalOf otherEvidence otherWhole otherRejected]
  · intro client state request later begins direct otherDirect presents otherPresents
    have started : client.init state = (.ok (), _) := Prod.ext begins rfl
    obtain ⟨after, away⟩ := client.turned_away started username
    refine ⟨after, away users request password rejection whole direct presents ?_,
      away others later other another otherWhole otherDirect otherPresents ?_⟩
    · exact Authenticator.validate_of_evidence evidence rejected
    · exact Authenticator.validate_of_evidence otherEvidence otherRejected

def loginPage : Client :=
  { handler := .form { loginUrl := some "/login" }, callbackUrl := some "/callback" }

def posting (username password : String) : Request :=
  { parameters := [("username", username), ("password", password)] }

theorem loginPage_discreet :
    let known : Entries String := [("alice", "secret")]
    let state := (Call.bare .credentials).enter {}
    (Authenticator.passwords known).validate (.ofPair ("alice", "wrong")) =
        .error (.unknownOrWrong "alice") ∧
      (Authenticator.passwords []).validate (.ofPair ("alice", "guess")) =
        .error (.unknownOrWrong "alice") ∧
      (∃ after,
        (loginPage.knowing known).credentials (posting "alice" "wrong") state = (.ok none, after) ∧
          (loginPage.knowing []).credentials (posting "alice" "guess") state = (.ok none, after)) ∧
      ({ evidence := .token "wrong" } : Credentials).describe =
        ({ evidence := .token "guess" } : Credentials).describe := by
  intro known state
  have wrong : (Authenticator.passwords known).validate (.ofPair ("alice", "wrong")) =
    .error (.unknownOrWrong "alice") := rfl
  have unknown : (Authenticator.passwords []).validate (.ofPair ("alice", "guess")) =
    .error (.unknownOrWrong "alice") := rfl
  obtain ⟨described, turnedAway⟩ := secrets_unseen
  obtain ⟨-, alike⟩ := turnedAway "alice" "wrong" "guess" known [] _ _ _ _ (by decide) (by decide)
    rfl rfl wrong unknown
  refine ⟨wrong, unknown, ?_, described _ _ rfl rfl rfl⟩
  exact alike loginPage state (posting "alice" "wrong") (posting "alice" "guess") rfl rfl rfl
    ⟨rfl, rfl⟩ ⟨rfl, rfl⟩

end SignOn
