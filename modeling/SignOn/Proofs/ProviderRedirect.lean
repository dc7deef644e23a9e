import SignOn.Proofs.Base64
import SignOn.Proofs.Exchanges

/-!
A redirect to an OAuth2 provider: what it draws at random, what it keeps in the session and where it
sends the user agent.
-/

namespace SignOn

/-- What a redirect to the provider draws: the state, and with proof keys the verifier. -/
structure Issued where
  state : String
  verifier : Option String

namespace OAuth2Login

open Exchange

/-- The texts drawn from the random bytes, and the bytes left. -/
def issue (oauth : OAuth2Login) (entropy : Entropy) : Issued × Entropy :=
  let drawn := entropy.drawToken 32
  if oauth.usesProofKey then
    (⟨drawn.1, some (drawn.2.drawToken 64).1⟩, (drawn.2.drawToken 64).2)
  else (⟨drawn.1, none⟩, drawn.2)

/-- The bytes that a redirect draws for its state. -/
def stateBytes (source : Entropy) : List UInt8 := (source.draw 32).1

/-- The bytes that a redirect draws for its verifier, behind those of the state. -/
def verifierBytes (source : Entropy) : List UInt8 := ((source.draw 32).2.draw 64).1

theorem issue_state (oauth : OAuth2Login) (source : Entropy) :
    (oauth.issue source).1.state = Base64.encodeUrl (stateBytes source) := by
  unfold issue
  cases oauth.usesProofKey with
  | true => rfl
  | false => rfl

theorem issue_verifier (oauth : OAuth2Login) (source : Entropy) :
    (oauth.issue source).1.verifier =
      if oauth.usesProofKey then some (Base64.encodeUrl (verifierBytes source)) else none := by
  unfold issue
  cases oauth.usesProofKey with
  | true => rfl
  | false => rfl

def remember (client : String) (issued : Issued) (session : Session) : Session :=
  let kept := session.set (stateKey client) (.text issued.state)
  match issued.verifier with
  | none => kept
  | some verifier => kept.set (verifierKey client) (.text verifier)

theorem verifierKey_ne_stateKey (client : String) : verifierKey client ≠ stateKey client := by
  intro same
  exact absurd ((String.append_right_inj client).1 same) (by decide)

theorem remember_stateKey (client : String) (issued : Issued) (session : Session) :
    (remember client issued session).get? (stateKey client) = some (.text issued.state) := by
  unfold remember
  cases issued.verifier with
  | none => exact (Session.get?_set_text _ _ _ _).trans (if_pos rfl)
  | some verifier =>
    refine (Session.get?_set_text _ _ _ _).trans ?_
    rw [if_neg (verifierKey_ne_stateKey client).symm]
    exact (Session.get?_set_text _ _ _ _).trans (if_pos rfl)

theorem remember_verifierKey (client : String) (issued : Issued) (session : Session) :
    (remember client issued session).get? (verifierKey client) =
      match issued.verifier with
      | none => session.get? (verifierKey client)
      | some verifier => some (.text verifier) := by
  unfold remember
  cases issued.verifier with
  | none =>
    refine (Session.get?_set_text _ _ _ _).trans ?_
    rw [if_neg (verifierKey_ne_stateKey client)]
  | some verifier => exact (Session.get?_set_text _ _ _ _).trans (if_pos rfl)

/-- The address of the provider, with what the redirect has to say. -/
def destination (oauth : OAuth2Login) (caller : Caller) (origin : Origin) (issued : Issued) :
    String :=
  oauth.location
    (oauth.authorizationFields issued.state (caller.callbackFor origin) issued.verifier)

theorem verifierOf_drawToken (source : Entropy) :
    verifierOf (source.drawToken 64).1 = (source.drawToken 64).1 := by
  have drawn := Base64.urlText_encodeUrl (source.draw 64).1
  rw [source.draw_length] at drawn
  have short : (source.drawToken 64).1.toList.length ≤ 128 := by
    rw [String.length_toList, show (source.drawToken 64).1.length = 86 from drawn.length_eq]
    decide
  rw [verifierOf, List.take_of_length_le short, String.ofList_toList]

theorem redirect_apply (oauth : OAuth2Login) (caller : Caller) (request : Request)
    (state : State) :
    oauth.redirect caller request state =
      (.ok (.redirect (oauth.destination caller request.origin (oauth.issue state.entropy).1)),
        { state with
          session := remember caller.name (oauth.issue state.entropy).1 state.session,
          entropy := (oauth.issue state.entropy).2 }) := by
  have whole := verifierOf_drawToken (state.entropy.drawToken 32).2
  unfold OAuth2Login.redirect drawVerifier issue
  cases oauth.usesProofKey with
  | true =>
    simp only [if_true]
    rw [← whole]
    rfl
  | false => rfl

end OAuth2Login

theorem Handler.redirect_oauth2 (oauth : OAuth2Login) (caller : Caller) (request : Request)
    (state : State) :
    (Handler.oauth2 oauth).redirect caller request state =
      (.ok (.redirect (.redirect
          (oauth.destination caller request.origin (oauth.issue state.entropy).1))),
        { state with
          session :=
            OAuth2Login.remember caller.name (oauth.issue state.entropy).1 state.session,
          entropy := (oauth.issue state.entropy).2 }) := by
  unfold Handler.redirect
  simp only [Exchange.bind_apply, oauth.redirect_apply]
  rfl

end SignOn
