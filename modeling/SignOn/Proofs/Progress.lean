import SignOn.Proofs.Profiles

/-!
How far a client comes with an operation. Every operation gets the client ready; beyond that it
changes nothing of how far the client has come but for the notes of what else its handler was asked.
-/

namespace SignOn

namespace Exchange

/-- A relation that holds wherever a client has come as far as before, and between before and after
its handler was asked for anything but to get ready. -/
structure Tolerant (related : State → State → Prop) : Prop where
  same : ∀ before after, after.progress = before.progress → related before after
  noted : ∀ called, called ≠ .start → Along related (note called)

variable {related : State → State → Prop}

theorem Tolerant.update {change : State → State} (tolerant : Tolerant related)
    (keeps : ∀ state, (change state).progress = state.progress) : Along related (update change) :=
  fun state => tolerant.same _ _ (keeps state)

theorem Tolerant.drawToken (tolerant : Tolerant related) (count : Nat) :
    Along related (drawToken count) :=
  fun _ => tolerant.same _ _ rfl

theorem Tolerant.call (tolerant : Tolerant related) (request : ProviderRequest) :
    Along related (call request) :=
  fun _ => tolerant.same _ _ rfl

end Exchange

open Exchange

section

variable {related : State → State → Prop} [IsPreorder State related]

namespace OAuth2Login

theorem along_forget (tolerant : Tolerant related) (client : String) :
    Along related (forget client) :=
  along_bind (tolerant.update fun _ => rfl) fun _ => tolerant.update fun _ => rfl

theorem along_extract (tolerant : Tolerant related) (caller : Caller) (request : Request) :
    Along related (extract caller request) := by
  unfold extract
  simp only
  split
  · refine along_bind (tolerant.update fun _ => rfl) fun _ => ?_
    exact along_bind (along_forget tolerant _) fun _ => along_pure _
  · split
    · exact along_pure _
    · refine along_bind (along_state_bind fun _ => along_pure _) fun kept => ?_
      refine along_bind (along_state_bind fun _ => along_pure _) fun verifier => ?_
      refine along_bind (along_forget tolerant _) fun _ => ?_
      split
      · exact along_bind (along_lift _) fun _ => along_pure _
      · exact along_bind (tolerant.update fun _ => rfl) fun _ => along_pure _

end OAuth2Login

namespace Handler

theorem along_extract (tolerant : Tolerant related) (handler : Handler) (caller : Caller)
    (request : Request) : Along related (handler.extract caller request) := by
  cases handler with
  | form login => exact along_pure _
  | basic login =>
    unfold Handler.extract
    simp only
    split
    · exact along_pure _
    · exact along_fail _
  | oauth2 login => exact OAuth2Login.along_extract tolerant caller request
  | scripted login =>
    refine along_bind (tolerant.noted _ nofun) fun _ => ?_
    split
    · exact along_settle _
    · refine along_bind (along_settle _) fun challenge => ?_
      split
      · exact along_fail _
      · exact along_fail _

theorem along_buildProfile (tolerant : Tolerant related) (handler : Handler)
    (credentials : Credentials) : Along related (handler.buildProfile credentials) := by
  cases handler with
  | form login => exact along_pure _
  | basic login => exact along_pure _
  | oauth2 login =>
    exact OAuth2Login.along_buildProfile tolerant.call (fun _ => tolerant.update fun _ => rfl)
      login credentials
  | scripted login => exact along_bind (tolerant.noted _ nofun) fun _ => along_settle _

end Handler

namespace Client

variable {client : Client}

theorem along_conclude (tolerant : Tolerant related) (credentials : Option Credentials) :
    Along related (client.conclude credentials) := by
  cases credentials with
  | none => exact along_bind (tolerant.update fun _ => rfl) fun _ => along_pure _
  | some credentials => exact along_bind (tolerant.update fun _ => rfl) fun _ => along_pure _

theorem along_check (tolerant : Tolerant related) (credentials : Credentials) :
    Along related (client.check credentials) := by
  unfold check
  split
  · exact along_pure _
  · split
    · exact along_pure _
    · exact along_bind (tolerant.update fun _ => rfl) fun _ => along_pure _

variable (started : Along related client.init)
include started

theorem along_resolveRedirect (tolerant : Tolerant related) (request : Request)
    (guarded scripted : Bool) :
    Along related (client.resolveRedirect request guarded scripted) := by
  refine along_bind started fun _ => ?_
  split
  · exact along_pure _
  · refine along_bind ?_ fun marked => ?_
    · intro state
      rw [consumeMark_apply]
      exact tolerant.same _ _ rfl
    · split
      · exact along_bind (tolerant.update fun _ => rfl) fun _ => along_pure _
      · split
        · exact client.handler.along_redirect (tolerant.noted _ nofun) tolerant.drawToken
            (fun _ _ => tolerant.update fun _ => rfl) _ _
        · exact along_pure _

theorem along_credentials (tolerant : Tolerant related) (request : Request) :
    Along related (client.credentials request) := by
  refine along_bind started fun _ => ?_
  split
  · refine along_bind ?_ fun outcome => along_bind (along_lift _) fun _ => along_fail _
    exact client.handler.along_redirect (tolerant.noted _ nofun) tolerant.drawToken
      (fun _ _ => tolerant.update fun _ => rfl) _ _
  · refine along_bind (client.handler.along_extract tolerant _ _) fun offered => ?_
    split
    · exact along_conclude tolerant none
    · exact along_bind (along_check tolerant _) fun accepted => along_conclude tolerant accepted

theorem along_profile (tolerant : Tolerant related) (credentials : Option Credentials) :
    Along related (client.profile credentials) := by
  cases credentials with
  | none => exact along_bind started fun _ => along_pure none
  | some credentials =>
    refine along_bind started fun _ => along_bind ?_ fun bare => ?_
    · unfold bareProfile
      split
      · exact along_pure _
      · exact client.handler.along_buildProfile tolerant credentials
    · split
      · exact along_pure none
      · split
        · exact along_pure _
        · exact along_fail _

theorem along_perform (tolerant : Tolerant related) (request : Request) (operation : Operation) :
    Along related (client.perform request operation) := by
  have decided (guarded scripted : Bool) :
      Along related (client.resolveRedirect request guarded scripted) :=
    along_resolveRedirect started tolerant request guarded scripted
  cases operation with
  | init => exact along_bind started fun _ => along_pure _
  | resolveRedirect guarded scripted =>
    exact along_bind (decided guarded scripted) fun _ => along_pure _
  | redirectAction guarded scripted =>
    refine along_bind (along_bind (decided guarded scripted) fun outcome => ?_)
      fun _ => along_pure _
    cases outcome with
    | redirect action => exact along_pure action
    | http action => exact along_fail _
  | redirect guarded scripted =>
    refine along_bind (along_bind (decided guarded scripted) fun outcome => ?_)
      fun _ => along_pure _
    exact along_bind (tolerant.update fun _ => rfl) fun _ => along_pure _
  | redirectionUrl =>
    exact along_bind (along_bind (decided false false) fun _ => along_pure _) fun _ => along_pure _
  | credentials =>
    exact along_bind (along_credentials started tolerant request) fun _ => along_pure _
  | profile credentials =>
    exact along_bind (along_profile started tolerant credentials) fun _ => along_pure _

end Client

end

end SignOn
