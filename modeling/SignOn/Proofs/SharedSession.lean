import SignOn.Proofs.Footprint
import SignOn.Proofs.Runs

/-!
Several clients on one session. Each client has its own progress, the session is common to all. A
client of another name touches none of the keys of this one, so whatever the others do in between,
a client gives the same answers and leaves the same under its keys as if it were alone.
-/

namespace SignOn

open Exchange

variable {ι : Type} [DecidableEq ι]

/-- What remains from one call to the next where several clients are called. -/
structure Shared (ι : Type) where
  session : Session
  progress : ι → Progress

def Shared.standing (shared : Shared ι) (i : ι) : Standing := ⟨shared.session, shared.progress i⟩

def Shared.next (shared : Shared ι) (i : ι) (after : State) : Shared ι :=
  ⟨after.session, Function.update shared.progress i after.progress⟩

/-- A run of several clients on one session, and which of them was called each time. -/
def sharedRun (clients : ι → Client) : Shared ι → List (ι × Call) → List (ι × Visit)
  | _, [] => []
  | shared, (i, call) :: rest =>
    let visit := (clients i).visit (shared.standing i) call
    (i, visit) :: sharedRun clients (shared.next i visit.after) rest

def sharedLeave (clients : ι → Client) : Shared ι → List (ι × Call) → Shared ι
  | shared, [] => shared
  | shared, (i, call) :: rest =>
    sharedLeave clients (shared.next i ((clients i).visit (shared.standing i) call).after) rest

/-- What belongs to one of the clients. -/
def ownOf {α : Type} (i : ι) (all : List (ι × α)) : List α :=
  all.filterMap fun entry => if entry.1 = i then some entry.2 else none

/-- All that shows of a call besides the session: the answer or what was raised, the response, the
requests to the provider and the log. -/
def Visit.shown (visit : Visit) : Except Failure Answer × State :=
  (visit.result, visit.after.withSession [])

theorem ownOf_cons_self {α : Type} (i : ι) (item : α) (rest : List (ι × α)) :
    ownOf i ((i, item) :: rest) = item :: ownOf i rest :=
  List.filterMap_cons_some (if_pos rfl)

theorem ownOf_cons_of_ne {α : Type} {i j : ι} (other : j ≠ i) (item : α)
    (rest : List (ι × α)) : ownOf i ((j, item) :: rest) = ownOf i rest :=
  List.filterMap_cons_none (if_neg other)

namespace Client

/-- On sessions that agree under its keys a client does the same. -/
theorem visit_agree (client : Client) {standing other : Standing} (call : Call)
    (same : Session.Agree client.keys standing.session other.session)
    (far : standing.progress = other.progress) :
    (client.visit standing call).shown = (client.visit other call).shown ∧
      Session.Agree client.keys (client.visit standing call).after.session
        (client.visit other call).after.session ∧
      (client.visit standing call).after.progress = (client.visit other call).after.progress := by
  obtain ⟨left, result, agree⟩ := (client.confined_perform call.request call.operation).agree
    (call.enter standing) other.session same
  have entered : (call.enter standing).withSession other.session = call.enter other := by
    unfold Call.enter
    rw [far]
    rfl
  rw [entered] at result
  unfold Client.visit Visit.shown
  simp only [result]
  exact ⟨rfl, agree, rfl⟩

/-- A client of another name leaves the keys of this one alone. -/
theorem visit_elsewhere {client other : Client} (names : client.name ≠ other.name)
    (standing : Standing) (call : Call) :
    Session.Agree client.keys (other.visit standing call).after.session standing.session := by
  intro key mine
  refine (other.confined_perform call.request call.operation).frame (call.enter standing) key ?_
  intro theirs
  exact names (client.name_eq_of_common_key other key mine theirs)

end Client

/-- The standing of one client among others, and its standing alone. -/
structure Shared.Follows (client : Client) (shared alone : Standing) : Prop where
  session : Session.Agree client.keys shared.session alone.session
  progress : shared.progress = alone.progress

/-- Whatever the others do, each client's own part of the run is the run of that client alone. -/
theorem sharedRun_follows (clients : ι → Client)
    (names : Function.Injective fun i => (clients i).name) (i : ι)
    (calls : List (ι × Call)) (shared : Shared ι) (alone : Standing)
    (follows : Shared.Follows (clients i) (shared.standing i) alone) :
    (ownOf i (sharedRun clients shared calls)).map Visit.shown =
        ((clients i).run alone (ownOf i calls)).map Visit.shown ∧
      Shared.Follows (clients i) ((sharedLeave clients shared calls).standing i)
        ((clients i).leave alone (ownOf i calls)) := by
  induction calls generalizing shared alone with
  | nil => exact ⟨rfl, follows⟩
  | cons first rest ih =>
    obtain ⟨j, call⟩ := first
    by_cases mine : j = i
    · -- The client itself is called, here and alone.
      subst mine
      obtain ⟨shown, session, progress⟩ :=
        (clients j).visit_agree call follows.session follows.progress
      have further : Shared.Follows (clients j)
          ((shared.next j ((clients j).visit (shared.standing j) call).after).standing j)
          ((clients j).visit alone call).after.standing :=
        ⟨session, (Function.update_self _ _ _).trans progress⟩
      obtain ⟨visits, left⟩ := ih _ _ further
      rw [sharedRun, ownOf_cons_self, ownOf_cons_self]
      refine ⟨?_, left⟩
      rw [List.map_cons, shown, visits]
      rfl
    · -- Another one is called, which the client alone does not see.
      have apart : (clients i).name ≠ (clients j).name := fun same => mine (names same).symm
      have further : Shared.Follows (clients i)
          ((shared.next j ((clients j).visit (shared.standing j) call).after).standing i)
          alone := by
        refine ⟨fun key inside => ?_, ?_⟩
        · exact (Client.visit_elsewhere apart (shared.standing j) call key inside).trans
            (follows.session key inside)
        · exact (Function.update_of_ne (fun same => mine same.symm) _ _).trans follows.progress
      obtain ⟨visits, left⟩ := ih _ _ further
      rw [sharedRun, ownOf_cons_of_ne mine, ownOf_cons_of_ne mine]
      exact ⟨visits, left⟩

theorem sharedLeave_elsewhere (clients : ι → Client) (calls : List (ι × Call))
    (shared : Shared ι) {key : String} (foreign : ∀ i, key ∉ (clients i).keys) :
    (sharedLeave clients shared calls).session.get? key = shared.session.get? key := by
  induction calls generalizing shared with
  | nil => rfl
  | cons first rest ih =>
    obtain ⟨j, call⟩ := first
    refine (ih _).trans ?_
    exact ((clients j).confined_perform call.request call.operation).frame
      (call.enter (shared.standing j)) key (foreign j)

/-- Clients of different names do not disturb each other on a common session: in every interleaving
of their calls each gives the same answers, and leaves the same under its keys, as in a run of its
own calls alone, and what belongs to none of them stays as it was. -/
theorem sharedRun_eq_alone (clients : ι → Client)
    (names : Function.Injective fun i => (clients i).name) (start : Shared ι)
    (calls : List (ι × Call)) :
    (∀ i, (ownOf i (sharedRun clients start calls)).map Visit.shown =
        ((clients i).run (start.standing i) (ownOf i calls)).map Visit.shown) ∧
    (∀ i, ∀ key ∈ (clients i).keys,
      (sharedLeave clients start calls).session.get? key =
        ((clients i).leave (start.standing i) (ownOf i calls)).session.get? key) ∧
    ∀ key, (∀ i, key ∉ (clients i).keys) →
      (sharedLeave clients start calls).session.get? key = start.session.get? key := by
  have follows (i : ι) := sharedRun_follows clients names i calls start (start.standing i)
    ⟨fun _ _ => rfl, rfl⟩
  refine ⟨fun i => (follows i).1, fun i => (follows i).2.session, fun key foreign => ?_⟩
  exact sharedLeave_elsewhere clients calls start foreign

def neighbours : Bool → Client
  | false =>
    { handler := .oauth2
        { authorizationUrl := some "https://id.test/authorize",
          tokenUrl := some "https://id.test/token", userinfoUrl := some "https://id.test/user",
          clientId := some "app" },
      givenName := some "IdP", callbackUrl := some "/callback" }
  | true =>
    { handler := .form { loginUrl := some "/login" }, givenName := some "IdP$state",
      callbackUrl := some "/callback" }

theorem neighbours_undisturbed :
    let start : Shared Bool := ⟨[], fun _ => {}⟩
    let redirect := Call.bare (.resolveRedirect true false)
    let calls := [(false, redirect), (true, Call.bare .credentials)]
    (Function.Injective fun i => (neighbours i).name) ∧
      (sharedLeave neighbours start calls).session.get? "IdP$state" =
        some (.text (redirect.entropy.drawToken 32).1) := by
  intro start redirect calls
  have names : Function.Injective fun i => (neighbours i).name := by
    intro i j same
    cases i <;> cases j
    · rfl
    · exact absurd same (by decide)
    · exact absurd same (by decide)
    · rfl
  have alone := (sharedRun_eq_alone neighbours names start calls).2.1 false "IdP$state"
    (List.mem_cons_of_mem _ (OAuth2Login.stateKey_mem _))
  exact ⟨names, alone.trans rfl⟩

end SignOn
