import Mathlib.Order.Defs.Unbundled
import SignOn.Client

/-!
What an exchange sees and changes of the session. A blind exchange does the same whatever the
session holds and leaves it as it is. A confined one reads and writes the session under the given
keys only: what else the session holds neither matters to it nor is changed by it. These properties,
and that of leading from a state to a related one, pass from the parts of an exchange to the
whole.
-/

namespace SignOn

def Session.Agree (keys : List String) (first second : Session) : Prop :=
  ∀ key ∈ keys, first.get? key = second.get? key

def State.withSession (state : State) (session : Session) : State := { state with session }

@[simp] theorem State.withSession_session (state : State) (session : Session) :
    (state.withSession session).session = session := rfl

@[simp] theorem State.withSession_self (state : State) :
    state.withSession state.session = state := rfl

theorem Session.get?_set_text (session : Session) (key other text : String) :
    (session.set key (.text text)).get? other =
      if other = key then some (.text text) else session.get? other :=
  Entries.get?_put session key other _

theorem Session.get?_clear (session : Session) (key other : String) :
    (session.clear key).get? other = if other = key then none else session.get? other :=
  Entries.get?_remove session key other

theorem Session.get?_set_of_ne (session : Session) {key other : String} (value : Value)
    (away : other ≠ key) : (session.set key value).get? other = session.get? other := by
  cases value with
  | null => exact (Entries.get?_remove session key other).trans (if_neg away)
  | _ => exact (Entries.get?_put session key other _).trans (if_neg away)

theorem Session.get?_set_congr {first second : Session} {key other : String} (value : Value)
    (same : first.get? other = second.get? other) :
    (first.set key value).get? other = (second.set key value).get? other := by
  cases value with
  | null => simp only [Session.set, Entries.get?_remove, same]
  | _ => simp only [Session.set, Entries.get?_put, same]

namespace Exchange

variable {α β : Type}

theorem bind_of_ok {first : Exchange α} {next : α → Exchange β} {state middle : State} {a : α}
    (done : first state = (.ok a, middle)) : (first >>= next) state = next a middle := by
  rw [bind_apply, done]

theorem bind_of_error {first : Exchange α} {next : α → Exchange β} {state middle : State}
    {failure : Failure} (done : first state = (.error failure, middle)) :
    (first >>= next) state = (.error failure, middle) := by
  rw [bind_apply, done]

theorem reached_of_bind {first : Exchange α} {next : α → Exchange β} {state : State} {b : β}
    (done : ((first >>= next) state).1 = .ok b) :
    ∃ a middle, first state = (.ok a, middle) ∧ (next a middle).1 = .ok b := by
  rcases reached : first state with ⟨failure | a, middle⟩
  · rw [bind_of_error reached] at done
    cases done
  · rw [bind_of_ok reached] at done
    exact ⟨a, middle, rfl, done⟩

/-- An exchange that does the same whatever the session holds, and leaves the session as it is. -/
def Blind (exchange : Exchange α) : Prop :=
  ∀ state session, exchange (state.withSession session) =
    ((exchange state).1, (exchange state).2.withSession session)

theorem Blind.session_eq {exchange : Exchange α} (blind : Blind exchange) (state : State) :
    (exchange state).2.session = state.session := by
  have same := blind state state.session
  rw [State.withSession_self] at same
  exact congrArg (·.2.session) same

theorem blind_pure (a : α) : Blind (pure a : Exchange α) := fun _ _ => rfl

theorem blind_fail (failure : Failure) : Blind (fail failure : Exchange α) := fun _ _ => rfl

theorem blind_bind {first : Exchange α} {next : α → Exchange β} (blind : Blind first)
    (rest : ∀ a, Blind (next a)) : Blind (first >>= next) := by
  intro state session
  rw [bind_apply, bind_apply, blind state session]
  rcases first state with ⟨result, middle⟩
  cases result with
  | error failure => rfl
  | ok a => exact rest a middle session

theorem blind_state_bind {next : State → Exchange β}
    (unseen : ∀ state session, next (state.withSession session) = next state)
    (rest : ∀ state, Blind (next state)) : Blind (state >>= next) := by
  intro current session
  show next (current.withSession session) (current.withSession session) = _
  rw [unseen current session]
  exact rest current current session

theorem blind_lift (result : Except Failure α) : Blind (lift result) := by
  cases result with
  | ok a => exact blind_pure a
  | error failure => exact blind_fail failure

theorem blind_settle (checked : Checked α) : Blind (settle checked) := by
  cases checked with
  | valid a => exact blind_pure a
  | invalid issues => exact blind_fail _

theorem blind_write (outcome : Outcome) : Blind (write outcome) := fun _ _ => rfl

theorem blind_record (level : Level) (source : LogSource) (message : String) :
    Blind (record level source message) := fun _ _ => rfl

theorem blind_note (called : HandlerCall) : Blind (note called) := fun _ _ => rfl

theorem blind_markInitialized : Blind markInitialized := fun _ _ => rfl

theorem blind_drawToken (count : Nat) : Blind (drawToken count) := fun _ _ => rfl

theorem blind_call (request : ProviderRequest) : Blind (call request) := fun _ _ => rfl

/-- An exchange that reads and writes the session under the given keys only. -/
structure Confined (keys : List String) (exchange : Exchange α) : Prop where
  /-- What the session holds under any other key stays. -/
  frame : ∀ state key, key ∉ keys → (exchange state).2.session.get? key = state.session.get? key
  /-- Sessions that agree under the keys give the same result and agree under the keys after it. -/
  agree : ∀ state session, Session.Agree keys state.session session →
    ∃ left, exchange (state.withSession session) =
      ((exchange state).1, (exchange state).2.withSession left) ∧
      Session.Agree keys (exchange state).2.session left

theorem Blind.confined {exchange : Exchange α} (blind : Blind exchange) (keys : List String) :
    Confined keys exchange where
  frame state key _ := by rw [blind.session_eq]
  agree state session same := by
    refine ⟨session, blind state session, ?_⟩
    rw [blind.session_eq]
    exact same

theorem Confined.mono {keys more : List String} {exchange : Exchange α}
    (confined : Confined keys exchange) (included : keys ⊆ more) : Confined more exchange where
  frame state key outside := confined.frame state key (fun inside => outside (included inside))
  agree state session same := by
    obtain ⟨left, result, agree⟩ :=
      confined.agree state session (fun key inside => same key (included inside))
    refine ⟨left, result, fun key inside => ?_⟩
    by_cases known : key ∈ keys
    · exact agree key known
    · -- The exchange has changed neither session here, so they agree as they did before.
      have untouched := confined.frame (state.withSession session) key known
      rw [result] at untouched
      exact (confined.frame state key known).trans ((same key inside).trans untouched.symm)

theorem confined_bind {keys : List String} {first : Exchange α} {next : α → Exchange β}
    (confined : Confined keys first) (rest : ∀ a, Confined keys (next a)) :
    Confined keys (first >>= next) where
  frame state key outside := by
    have before := confined.frame state key outside
    rw [bind_apply]
    generalize first state = reached at before
    rcases reached with ⟨result, middle⟩
    cases result with
    | error failure => exact before
    | ok a => exact ((rest a).frame middle key outside).trans before
  agree state session same := by
    obtain ⟨left, result, agree⟩ := confined.agree state session same
    rw [bind_apply, bind_apply, result]
    generalize first state = reached at agree
    rcases reached with ⟨result, middle⟩
    cases result with
    | error failure => exact ⟨left, rfl, agree⟩
    | ok a => exact (rest a).agree middle left agree

theorem confined_setSession {keys : List String} {key : String} (value : Value)
    (inside : key ∈ keys) : Confined keys (setSession key value) where
  frame state other outside := by
    refine Session.get?_set_of_ne state.session value ?_
    intro same
    exact outside (same ▸ inside)
  agree state session same :=
    ⟨session.set key value, rfl, fun other known => Session.get?_set_congr value (same other known)⟩

theorem confined_clearSession {keys : List String} {key : String} (inside : key ∈ keys) :
    Confined keys (clearSession key) :=
  confined_setSession .null inside

theorem confined_sessionValue {keys : List String} {key : String} (inside : key ∈ keys) :
    Confined keys (sessionValue key) where
  frame _ _ _ := rfl
  agree state session same := by
    refine ⟨session, ?_, same⟩
    have found := same key inside
    show (Except.ok ((session.get? key).getD .null), state.withSession session) =
      (Except.ok ((state.session.get? key).getD .null), state.withSession session)
    rw [found]

/-- An exchange that leads from every state to a related one. -/
def Along (related : State → State → Prop) (exchange : Exchange α) : Prop :=
  ∀ state, related state (exchange state).2

section

variable {related : State → State → Prop} [IsPreorder State related]

theorem along_pure (a : α) : Along related (pure a : Exchange α) := fun state => refl_of _ state

theorem along_fail (failure : Failure) : Along related (fail failure : Exchange α) :=
  fun state => refl_of _ state

theorem along_rest (first : Exchange α) {next : α → Exchange β}
    (rest : ∀ a, Along related (next a)) (state : State) :
    related (first state).2 ((first >>= next) state).2 := by
  rw [bind_apply]
  rcases first state with ⟨result, middle⟩
  cases result with
  | error failure => exact refl_of related middle
  | ok a => exact rest a middle

theorem along_bind {first : Exchange α} {next : α → Exchange β} (along : Along related first)
    (rest : ∀ a, Along related (next a)) : Along related (first >>= next) :=
  fun state => trans_of related (along state) (along_rest first rest state)

omit [IsPreorder State related] in
theorem along_state_bind {next : State → Exchange β}
    (rest : ∀ state, Along related (next state)) : Along related (state >>= next) :=
  fun current => rest current current

theorem along_lift (result : Except Failure α) : Along related (lift result) := by
  cases result with
  | ok a => exact along_pure a
  | error failure => exact along_fail failure

theorem along_settle (checked : Checked α) : Along related (settle checked) := by
  cases checked with
  | valid a => exact along_pure a
  | invalid issues => exact along_fail _

end

/-- One part of the state is left as it is. -/
def Keeps {γ : Type} (part : State → γ) (before after : State) : Prop := part after = part before

instance {γ : Type} (part : State → γ) : IsPreorder State (Keeps part) where
  refl _ := rfl
  trans _ _ _ first second := Eq.trans second first

/-- The provider has received the requests that it had received before, and perhaps more. -/
def Receives (before after : State) : Prop :=
  before.provider.received <+: after.provider.received

instance : IsPreorder State Receives where
  refl _ := List.prefix_rfl
  trans _ _ _ first second := List.IsPrefix.trans first second

end Exchange

end SignOn
