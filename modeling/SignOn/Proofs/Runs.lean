import Mathlib.Data.List.Induction
import SignOn.Client

/-!
Runs of a client: calls one after another on one session. A call brings its own request, response,
random bytes and answers of the provider. From one call to the next there remain the session and
how far the client has come.
-/

namespace SignOn

/-- An operation, with all that it meets besides the session. -/
structure Call where
  operation : Operation
  request : Request := {}
  response : Response := {}
  entropy : Entropy
  provider : Provider := {}

def Call.bare (operation : Operation) : Call := { operation, entropy := ⟨fun _ => 0, 0⟩ }

/-- What remains from one call to the next. -/
structure Standing where
  session : Session := []
  progress : Progress := {}

def Call.enter (call : Call) (standing : Standing) : State :=
  { session := standing.session, response := call.response, progress := standing.progress,
    entropy := call.entropy, provider := call.provider, log := [] }

def State.standing (state : State) : Standing := ⟨state.session, state.progress⟩

/-- A call, and what came of it. -/
structure Visit where
  call : Call
  before : Standing
  result : Except Failure Answer
  after : State

namespace Client

def visit (client : Client) (standing : Standing) (call : Call) : Visit :=
  let done := client.perform call.request call.operation (call.enter standing)
  { call, before := standing, result := done.1, after := done.2 }

theorem visit_after (client : Client) (standing : Standing) (call : Call) :
    (client.visit standing call).after =
      (client.perform call.request call.operation (call.enter standing)).2 := rfl

def run (client : Client) : Standing → List Call → List Visit
  | _, [] => []
  | standing, call :: rest =>
    client.visit standing call :: client.run (client.visit standing call).after.standing rest

/-- What remains after all the calls. -/
def leave (client : Client) (start : Standing) (calls : List Call) : Standing :=
  calls.foldl (fun standing call => (client.visit standing call).after.standing) start

theorem run_append (client : Client) (start : Standing) (calls more : List Call) :
    client.run start (calls ++ more) =
      client.run start calls ++ client.run (client.leave start calls) more := by
  induction calls generalizing start with
  | nil => rfl
  | cons call rest ih => exact congrArg (_ :: ·) (ih _)

theorem leave_append (client : Client) (start : Standing) (calls more : List Call) :
    client.leave start (calls ++ more) = client.leave (client.leave start calls) more :=
  List.foldl_append

/-- Every visit of a run is made where the calls before it have led. -/
theorem run_split {client : Client} {start : Standing} {calls : List Call} {earlier : List Visit}
    {visit : Visit} {later : List Visit}
    (split : client.run start calls = earlier ++ visit :: later) :
    ∃ before call, earlier = client.run start before ∧
      visit = client.visit (client.leave start before) call := by
  induction earlier generalizing start calls with
  | nil =>
    cases calls with
    | nil => cases split
    | cons call rest =>
      obtain ⟨here, -⟩ := List.cons.inj split
      exact ⟨[], call, rfl, here.symm⟩
  | cons first earlier ih =>
    cases calls with
    | nil => cases split
    | cons call rest =>
      obtain ⟨here, further⟩ := List.cons.inj split
      obtain ⟨before, next, reached, there⟩ := ih further
      refine ⟨call :: before, next, ?_, there⟩
      rw [← here, reached]
      rfl

/-- What holds at the start, and is kept by every call, holds after every run. -/
theorem run_invariant (client : Client) (Holds : List Visit → Standing → Prop) (start : Standing)
    (first : Holds [] start)
    (step : ∀ history standing call, Holds history standing →
      Holds (history ++ [client.visit standing call])
        (client.visit standing call).after.standing)
    (calls : List Call) : Holds (client.run start calls) (client.leave start calls) := by
  induction calls using List.reverseRecOn with
  | nil => exact first
  | append_singleton calls call ih =>
    rw [run_append, leave_append]
    exact step _ _ call ih

end Client

end SignOn
