import SignOn.Proofs.Footprint
import SignOn.Proofs.ProviderRedirect

/-!
The callback from an OAuth2 provider. The session remembers the redirect that is pending; a callback
earns credentials by returning the state of that redirect with a code and without an error, and an
error or a code makes the session forget the redirect, whatever comes of it.
-/

namespace SignOn

theorem Base64.not_isSpace_digit :
    ∀ n < 64, Text.isSpace (Base64.urlSafe.digit n) = false := by
  decide

theorem Base64.not_isBlank_encodeUrl {bytes : List UInt8} (nonempty : bytes ≠ []) :
    Text.isBlank (Base64.encodeUrl bytes) = false := by
  have digits : 0 < (urlSafe.encode bytes).length := by
    have positive := List.length_pos_iff.2 nonempty
    rw [length_encode]
    omega
  obtain ⟨c, inside⟩ := List.exists_mem_of_length_pos digits
  obtain ⟨n, small, rfl⟩ := mem_encode inside
  rw [Text.isBlank, toList_encodeUrl, List.all_eq_false]
  refine ⟨urlSafe.digit n, inside, ?_⟩
  rw [not_isSpace_digit n small]
  exact Bool.false_ne_true

theorem Entropy.not_isBlank_drawToken {count : Nat} (positive : 0 < count) (source : Entropy) :
    Text.isBlank (source.drawToken count).1 = false := by
  refine Base64.not_isBlank_encodeUrl ?_
  have length := source.draw_length count
  intro empty
  rw [show (source.draw count).1 = [] from empty] at length
  rw [← length] at positive
  exact absurd positive (by decide)

theorem Text.isAbsentOrBlank_eq_false_iff {text : Option String} :
    Text.isAbsentOrBlank text = false ↔
      ∃ present, text = some present ∧ Text.isBlank present = false := by
  cases text with
  | none =>
    constructor
    · intro absent
      cases absent
    · rintro ⟨present, absent, -⟩
      cases absent
  | some present =>
    constructor
    · intro whole
      exact ⟨present, rfl, whole⟩
    · rintro ⟨other, same, whole⟩
      cases same
      exact whole

namespace OAuth2Login

open Exchange

theorem issue_state_not_blank (oauth : OAuth2Login) (entropy : Entropy) :
    Text.isBlank (oauth.issue entropy).1.state = false := by
  rw [issue_state]
  exact Entropy.not_isBlank_drawToken (by decide) entropy

theorem issue_verifier_not_blank (oauth : OAuth2Login) (entropy : Entropy) :
    ∀ verifier ∈ (oauth.issue entropy).1.verifier, Text.isBlank verifier = false := by
  intro verifier member
  rw [issue_verifier, Option.mem_def, Option.ite_none_right_eq_some] at member
  rw [← Option.some.inj member.2]
  exact Entropy.not_isBlank_drawToken (by decide) _

theorem issue_verifier_isSome (oauth : OAuth2Login) (entropy : Entropy) :
    (oauth.issue entropy).1.verifier.isSome = oauth.usesProofKey := by
  unfold issue
  cases oauth.usesProofKey with
  | true => rfl
  | false => rfl

/-- What the session holds for the redirect that is pending, if one is. -/
structure Remembers (oauth : OAuth2Login) (client : String) (pending : Option Issued)
    (session : Session) : Prop where
  state : session.get? (stateKey client) = pending.map fun issued => .text issued.state
  verifier : session.get? (verifierKey client) = (pending.bind Issued.verifier).map .text
  drawn : ∀ issued ∈ pending, ∃ entropy, issued = (oauth.issue entropy).1

namespace Remembers

variable {oauth : OAuth2Login} {client : String} {pending : Option Issued} {session : Session}

theorem congr {other : Session} (remembers : oauth.Remembers client pending session)
    (same : Session.Agree (keys client) other session) :
    oauth.Remembers client pending other where
  state := (same _ (stateKey_mem client)).trans remembers.state
  verifier := (same _ (verifierKey_mem client)).trans remembers.verifier
  drawn := remembers.drawn

theorem verifierless (remembers : oauth.Remembers client pending session)
    (unproved : oauth.usesProofKey = false) : session.get? (verifierKey client) = none := by
  rw [remembers.verifier]
  cases earlier : pending with
  | none => rfl
  | some issued =>
    obtain ⟨source, issue⟩ := remembers.drawn issued earlier
    have none := oauth.issue_verifier_isSome source
    rw [unproved, ← issue] at none
    exact congrArg (Option.map Value.text) (Option.not_isSome_iff_eq_none.1 (by simp [none]))

end Remembers

theorem remembers_remember (oauth : OAuth2Login) (client : String) {session : Session}
    (clean : oauth.usesProofKey = false → session.get? (verifierKey client) = none)
    (entropy : Entropy) :
    oauth.Remembers client (some (oauth.issue entropy).1)
      (remember client (oauth.issue entropy).1 session) := by
  have proof := oauth.issue_verifier_isSome entropy
  refine ⟨remember_stateKey _ _ _, ?_,
    fun issued member => ⟨entropy, (Option.some.inj member).symm⟩⟩
  rw [remember_verifierKey, Option.bind_some]
  cases drawn : (oauth.issue entropy).1.verifier with
  | some verifier => rfl
  | none =>
    rw [drawn] at proof
    exact clean proof.symm

def forgotten (client : String) (session : Session) : Session :=
  (session.clear (stateKey client)).clear (verifierKey client)

theorem forgotten_stateKey (client : String) (session : Session) :
    (forgotten client session).get? (stateKey client) = none := by
  unfold forgotten
  rw [Session.get?_clear, if_neg (verifierKey_ne_stateKey client).symm]
  exact (Session.get?_clear _ _ _).trans (if_pos rfl)

theorem forgotten_verifierKey (client : String) (session : Session) :
    (forgotten client session).get? (verifierKey client) = none :=
  (Session.get?_clear _ _ _).trans (if_pos rfl)

theorem remembers_forgotten (oauth : OAuth2Login) (client : String) (session : Session) :
    oauth.Remembers client none (forgotten client session) where
  state := forgotten_stateKey client session
  verifier := forgotten_verifierKey client session
  drawn := fun _ absent => nomatch absent

def spends (request : Request) : Bool :=
  ! Text.isAbsentOrBlank (request.parameter? "error") ||
    ! Text.isAbsentOrBlank (request.parameter? "code")

def granted (caller : Caller) (request : Request) : Option Issued → Option Credentials
  | none => none
  | some issued =>
    if Text.isAbsentOrBlank (request.parameter? "error") = true ∧
        Text.isAbsentOrBlank (request.parameter? "code") = false ∧
        request.parameter? "state" = some issued.state then
      some
        { evidence :=
            .code ((request.parameter? "code").getD "") (some issued.state)
              (caller.callbackFor request.origin) issued.verifier }
    else none

theorem stateMatches_text {kept returned : String} (whole : Text.isBlank kept = false) :
    stateMatches (.text kept) returned = (kept == returned) := by
  unfold stateMatches
  rw [show Value.isBlank (.text kept) = Text.isBlank kept from rfl, whole]
  rfl

theorem getD_eq_iff {kept : String} (whole : Text.isBlank kept = false)
    (returned : Option String) : kept = returned.getD "" ↔ returned = some kept := by
  cases returned with
  | some text =>
    constructor
    · intro same
      rw [same]
      rfl
    · intro same
      exact (Option.some.inj same).symm
  | none =>
    constructor
    · intro same
      rw [same] at whole
      cases whole
    · intro same
      cases same

theorem forget_apply (client : String) (state : State) :
    forget client state = (.ok (), state.withSession (forgotten client state.session)) := rfl

variable {oauth : OAuth2Login} {caller : Caller} {request : Request} {state : State}
  {pending : Option Issued}

theorem granted_of_error (told : Text.isAbsentOrBlank (request.parameter? "error") = false) :
    granted caller request pending = none := by
  cases pending with
  | none => rfl
  | some issued => exact if_neg (fun earned => by simp [told] at earned)

theorem granted_of_no_code (absent : Text.isAbsentOrBlank (request.parameter? "code") = true) :
    granted caller request pending = none := by
  cases pending with
  | none => rfl
  | some issued => exact if_neg (fun earned => by simp [absent] at earned)

theorem granted_eq_some_iff {credentials : Credentials} :
    granted caller request pending = some credentials ↔
      Text.isAbsentOrBlank (request.parameter? "error") = true ∧
        ∃ code issued, request.parameter? "code" = some code ∧ Text.isBlank code = false ∧
          pending = some issued ∧ request.parameter? "state" = some issued.state ∧
          credentials =
            { evidence :=
                .code code (some issued.state) (caller.callbackFor request.origin)
                  issued.verifier } := by
  constructor
  · intro earned
    cases pending with
    | none => cases earned
    | some issued =>
      obtain ⟨⟨untold, present, returned⟩, same⟩ := Option.ite_none_right_eq_some.1 earned
      obtain ⟨code, here, whole⟩ := Text.isAbsentOrBlank_eq_false_iff.1 present
      refine ⟨untold, code, issued, here, whole, rfl, returned, ?_⟩
      rw [here] at same
      exact (Option.some.inj same).symm
  · rintro ⟨untold, code, issued, here, whole, rfl, returned, rfl⟩
    have present := Text.isAbsentOrBlank_eq_false_iff.2 ⟨code, here, whole⟩
    refine (if_pos ⟨untold, present, returned⟩).trans ?_
    rw [here]
    rfl

theorem extract_of_error (told : Text.isAbsentOrBlank (request.parameter? "error") = false) :
    ∃ log, extract caller request state =
      (.ok none,
        { state with session := forgotten caller.name state.session, log }) := by
  unfold extract
  simp only [told, Bool.not_false, if_true]
  exact ⟨_, rfl⟩

theorem extract_of_no_code (untold : Text.isAbsentOrBlank (request.parameter? "error") = true)
    (absent : Text.isAbsentOrBlank (request.parameter? "code") = true) :
    extract caller request state = (.ok none, state) := by
  unfold extract
  simp only [untold, absent, Bool.not_true, Bool.false_eq_true, if_false, if_true]
  rfl

theorem extract_of_code (remembers : oauth.Remembers caller.name pending state.session)
    (untold : Text.isAbsentOrBlank (request.parameter? "error") = true)
    (present : Text.isAbsentOrBlank (request.parameter? "code") = false) :
    ∃ log, extract caller request state =
      (.ok (granted caller request pending),
        { state with session := forgotten caller.name state.session, log }) := by
  unfold extract
  simp only [untold, present, Bool.not_true, Bool.false_eq_true, if_false]
  have kept : sessionValue (stateKey caller.name) state =
      (.ok ((pending.map fun issued => Value.text issued.state).getD .null), state) := by
    rw [← remembers.state]
    rfl
  have verifier : sessionValue (verifierKey caller.name) state =
      (.ok (((pending.bind Issued.verifier).map Value.text).getD .null), state) := by
    rw [← remembers.verifier]
    rfl
  refine Exists.imp (fun log left => (bind_of_ok kept).trans ((bind_of_ok verifier).trans
    ((bind_of_ok (forget_apply caller.name state)).trans left))) ?_
  cases pending with
  | none => exact ⟨_, rfl⟩
  | some issued =>
    obtain ⟨source, issue⟩ := remembers.drawn issued rfl
    have whole : Text.isBlank issued.state = false := issue ▸ oauth.issue_state_not_blank source
    simp only [Option.map_some, Option.getD_some, stateMatches_text whole, beq_iff_eq,
      getD_eq_iff whole, granted, untold, present, true_and]
    by_cases returned : request.parameter? "state" = some issued.state
    · rw [if_pos returned, if_pos returned]
      refine ⟨state.log, ?_⟩
      rw [returned]
      cases drawn : issued.verifier with
      | none =>
        rw [Option.bind_some, drawn]
        rfl
      | some verifier =>
        rw [Option.bind_some, drawn]
        rfl
    · rw [if_neg returned, if_neg returned]
      exact ⟨_, rfl⟩

theorem extract_apply (caller : Caller) (request : Request)
    (remembers : oauth.Remembers caller.name pending state.session) :
    ∃ log, extract caller request state =
      (.ok (granted caller request pending),
        { state with
          session := if spends request then forgotten caller.name state.session else state.session,
          log }) := by
  cases told : Text.isAbsentOrBlank (request.parameter? "error") with
  | false =>
    have spent : spends request = true := by rw [spends, told, Bool.not_false, Bool.true_or]
    rw [granted_of_error told, spent, if_pos rfl]
    exact extract_of_error told
  | true =>
    cases absent : Text.isAbsentOrBlank (request.parameter? "code") with
    | true =>
      have spared : spends request = false := by rw [spends, told, absent]; rfl
      rw [granted_of_no_code absent, spared, if_neg Bool.false_ne_true]
      exact ⟨state.log, extract_of_no_code told absent⟩
    | false =>
      have spent : spends request = true := by rw [spends, absent, Bool.not_false, Bool.or_true]
      rw [spent, if_pos rfl]
      exact extract_of_code remembers told absent

end OAuth2Login

end SignOn
