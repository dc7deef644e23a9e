import Mathlib.Data.ENat.Lattice
import SignOn.Proofs.Failures
import SignOn.Proofs.PasswordLogin
import SignOn.Proofs.Progress

/-!
Getting ready over whole runs. Every operation gets the client ready before it does anything else,
so an operation for which that fails leaves no trace, and the next one tries again. Once the handler
is ready it is never asked to get ready again.
-/

namespace SignOn

open Exchange

namespace Handler

def failures : Handler → Nat
  | .scripted login => login.initFailures
  | _ => 0

/-- How often a handler fails to get ready before it succeeds: for good where its settings are not
fit for it. -/
def setbacks (handler : Handler) : ℕ∞ :=
  if handler.problems = [] then handler.failures else ⊤

/-- What is noted where a handler is asked to get ready. -/
def noted : Handler → List HandlerCall
  | .scripted _ => [.start]
  | _ => []

end Handler

/-- A state in which more calls of the handler are noted. -/
def State.noting (state : State) (calls : List HandlerCall) : State :=
  { state with progress := { state.progress with calls := state.progress.calls ++ calls } }

/-- How often the handler was asked to get ready, as far as that was noted. -/
def Progress.starts (progress : Progress) : Nat := progress.calls.count .start

@[simp] theorem State.noting_nil (state : State) : state.noting [] = state := by
  unfold State.noting
  rw [List.append_nil]

namespace Handler

variable {handler : Handler} {state : State}

theorem start_apply (handler : Handler) (name : String) (state : State) :
    handler.start name state =
      (if state.progress.starts < handler.failures then .error .notReady
        else if handler.problems = [] then .ok ()
        else .error (.misconfigured name handler.problems), state.noting handler.noted) := by
  have inspected (state : State) : (if handler.problems.isEmpty then pure ()
      else fail (.misconfigured name handler.problems) : Exchange Unit) state =
        (if handler.problems = [] then .ok ()
          else .error (.misconfigured name handler.problems), state) := by
    cases handler.problems <;> rfl
  cases handler with
  | scripted login =>
    have begun : login.start state = (if state.progress.starts < login.initFailures
        then fail .notReady else pure () : Exchange Unit) (state.noting [.start]) := rfl
    unfold failures
    split at begun
    next early =>
      rw [if_pos early]
      exact bind_of_error begun
    next due =>
      rw [if_neg due]
      exact (bind_of_ok begun).trans (inspected _)
  | _ =>
    unfold noted
    rw [State.noting_nil]
    exact inspected state

theorem start_of_lt (name : String) (early : (state.progress.starts : ℕ∞) < handler.setbacks) :
    ∃ failure, handler.start name state = (.error failure, state.noting handler.noted) ∧
      failure.IsUsage := by
  rw [start_apply]
  unfold setbacks at early
  split
  · exact ⟨_, rfl, rfl⟩
  next due =>
    split
    next fit =>
      rw [if_pos fit, Nat.cast_lt] at early
      exact absurd early due
    · exact ⟨_, rfl, rfl⟩

theorem start_of_le (name : String) (due : handler.setbacks ≤ (state.progress.starts : ℕ∞)) :
    handler.start name state = (.ok (), state.noting handler.noted) := by
  rw [start_apply]
  unfold setbacks at due
  split at due
  next fit => rw [if_neg (not_lt.2 (Nat.cast_le.1 due)), if_pos fit]
  next unfit => exact absurd (top_le_iff.1 due) (ENat.natCast_ne_top _)

end Handler

namespace Client

/-- Getting a client ready, with its handler's part in that left open. -/
def initBy (client : Client) (start : Exchange Unit) : Exchange Unit := do
  if (← Exchange.state).progress.initialized then pure ()
  else if client.lacksCallback then Exchange.fail (.needsCallback client.name)
  else do
    start
    Exchange.markInitialized
    Exchange.record .debug .client ("Initialized client " ++ client.describe)

theorem initBy_start (client : Client) :
    client.initBy (client.handler.start client.name) = client.init := rfl

variable {client : Client} {request : Request} {operation : Operation} {state ready : State}
  {start : Exchange Unit} {failure : Failure}

theorem initBy_of_initialized (done : state.progress.initialized = true) :
    client.initBy start state = (.ok (), state) := by
  unfold initBy
  rw [bind_apply]
  simp only [Exchange.state, done, if_true]
  rfl

theorem initBy_of_lacksCallback (fresh : state.progress.initialized = false)
    (lacks : client.lacksCallback = true) :
    client.initBy start state = (.error (.needsCallback client.name), state) := by
  unfold initBy
  rw [bind_apply]
  simp only [Exchange.state, fresh, lacks, Bool.false_eq_true, if_false, if_true]
  rfl

theorem initBy_of_fresh (fresh : state.progress.initialized = false)
    (reachable : client.lacksCallback = false) :
    client.initBy start state = (do
      start
      Exchange.markInitialized
      Exchange.record .debug .client ("Initialized client " ++ client.describe)) state := by
  unfold initBy
  rw [bind_apply]
  simp only [Exchange.state, fresh, reachable, Bool.false_eq_true, if_false]

theorem perform_of_init_error (failed : client.init state = (.error failure, ready)) :
    client.perform request operation state = (.error failure, ready) := by
  rcases operation.kinds with ⟨guarded, scripted, decides⟩ | rfl | rfl | ⟨credentials, rfl⟩
  · exact perform_decision_error decides (resolveRedirect_of_init_error request failed)
  · exact bind_of_error (credentials_of_init_error failed)
  · exact bind_of_error failed
  · cases credentials with
    | none => exact bind_of_error (bind_of_error failed)
    | some credentials => exact bind_of_error (bind_of_error failed)

theorem rest_of_init {α : Type} {rest : Unit → Exchange α}
    (started : client.init state = (.ok (), ready)) :
    (client.init >>= rest) state = (client.init >>= rest) ready := by
  rw [bind_of_ok started, bind_of_ok (client.init_of_initialized ready (ready_of_init started))]

theorem perform_of_init (started : client.init state = (.ok (), ready)) :
    client.perform request operation state = client.perform request operation ready := by
  have decided (guarded scripted : Bool) :
      client.resolveRedirect request guarded scripted state =
        client.resolveRedirect request guarded scripted ready := rest_of_init started
  have through {α β : Type} {first : Exchange α} {next : α → Exchange β}
      (same : first state = first ready) : (first >>= next) state = (first >>= next) ready := by
    rw [bind_apply, bind_apply, same]
  cases operation with
  | init => exact rest_of_init started
  | resolveRedirect guarded scripted => exact through (decided guarded scripted)
  | redirectAction guarded scripted => exact through (through (decided guarded scripted))
  | redirect guarded scripted => exact through (through (decided guarded scripted))
  | redirectionUrl => exact through (through (decided false false))
  | credentials => exact through (rest_of_init started)
  | profile credentials =>
    cases credentials with
    | none => exact through (rest_of_init started)
    | some credentials => exact through (rest_of_init started)

/-- An operation, with what the handler does to get ready left open. -/
def performBy (client : Client) (start : Exchange Unit) (request : Request)
    (operation : Operation) : Exchange Answer := do
  client.initBy start
  client.perform request operation

theorem performBy_start (client : Client) (request : Request) (operation : Operation) :
    client.performBy (client.handler.start client.name) request operation =
      client.perform request operation := by
  funext state
  unfold performBy
  rw [initBy_start]
  rcases started : client.init state with ⟨failure | _, ready⟩
  · rw [bind_of_error started, perform_of_init_error started]
  · rw [bind_of_ok started, perform_of_init started]

/-- A call asks the handler to get ready: if the handler failed at that, for whatever reason, so
would the call. -/
def Starts (client : Client) (standing : Standing) (call : Call) : Prop :=
  ∀ failure, (client.performBy (fail failure) call.request call.operation
    (call.enter standing)).1 = .error failure

theorem starts_iff {standing : Standing} {call : Call} :
    client.Starts standing call ↔
      standing.progress.initialized = false ∧ client.lacksCallback = false := by
  unfold Starts performBy
  cases fresh : standing.progress.initialized with
  | true =>
    have done : (call.enter standing).progress.initialized = true := fresh
    simp only [bind_of_ok (initBy_of_initialized done), Bool.true_eq_false, false_and, iff_false]
    intro claim
    -- The start is not run, so the call cannot end with each of two failures that it might end in.
    cases (claim .notReady).symm.trans (claim .noContinuation)
  | false =>
    have fresh : (call.enter standing).progress.initialized = false := fresh
    cases reachable : client.lacksCallback with
    | true =>
      simp only [bind_of_error (initBy_of_lacksCallback fresh reachable), Bool.true_eq_false,
        and_false, iff_false]
      intro claim
      cases claim .notReady
    | false =>
      refine iff_of_true (fun failure => ?_) ⟨rfl, rfl⟩
      have failed : client.initBy (fail failure) (call.enter standing) =
        (.error failure, call.enter standing) := initBy_of_fresh fresh reachable
      exact congrArg Prod.fst (bind_of_error failed)

instance (standing : Standing) (call : Call) : Decidable (client.Starts standing call) :=
  decidable_of_iff _ starts_iff.symm

end Client

/-- A visit on which the handler was asked to get ready. -/
def Visit.Starts (client : Client) (visit : Visit) : Prop := client.Starts visit.before visit.call

instance (client : Client) (visit : Visit) : Decidable (visit.Starts client) :=
  inferInstanceAs (Decidable (client.Starts visit.before visit.call))

/-- The client is no less ready than before, and once it was ready its handler was not asked to get
ready any more. -/
def StaysReady (before after : State) : Prop :=
  before.progress.initialized = true →
    after.progress.initialized = true ∧ after.progress.starts = before.progress.starts

instance : IsPreorder State StaysReady where
  refl _ ready := ⟨ready, rfl⟩
  trans _ _ _ first second ready := by
    obtain ⟨middle, same⟩ := first ready
    obtain ⟨last, again⟩ := second middle
    exact ⟨last, again.trans same⟩

theorem tolerant_staysReady : Tolerant StaysReady where
  same before after same ready := by
    rw [same]
    exact ⟨ready, rfl⟩
  noted called other state ready := by
    refine ⟨ready, ?_⟩
    change (state.progress.calls ++ [called]).count .start = _
    rw [List.count_append, List.count_singleton, if_neg (by simpa using other)]
    rfl

theorem State.starts_noting (state : State) (calls : List HandlerCall) :
    (state.noting calls).progress.starts = state.progress.starts + calls.count .start :=
  List.count_append

namespace Client

variable {client : Client} {standing : Standing} {call : Call}

theorem staysReady_perform (client : Client) (request : Request) (operation : Operation) :
    Along StaysReady (client.perform request operation) := by
  have started : Along StaysReady client.init := by
    intro state ready
    rw [client.init_of_initialized state ready]
    exact ⟨ready, rfl⟩
  exact along_perform started tolerant_staysReady request operation

theorem visit_of_initialized (ready : standing.progress.initialized = true) :
    (client.visit standing call).after.progress.initialized = true ∧
      (client.visit standing call).after.progress.starts = standing.progress.starts :=
  client.staysReady_perform call.request call.operation (call.enter standing) ready

theorem visit_of_init_error {failure : Failure} {after : State}
    (failed : client.init (call.enter standing) = (.error failure, after)) :
    (client.visit standing call).result = .error failure ∧
      (client.visit standing call).after = after := by
  have performed : client.perform call.request call.operation (call.enter standing) =
      (.error failure, after) := by
    rw [← performBy_start]
    exact bind_of_error failed
  exact ⟨congrArg Prod.fst performed, congrArg Prod.snd performed⟩

theorem not_starts_of_lacksCallback (lacks : client.lacksCallback = true) :
    ¬ client.Starts standing call := by
  intro starts
  cases lacks.symm.trans (starts_iff.1 starts).2

theorem visit_of_lacksCallback (fresh : standing.progress.initialized = false)
    (lacks : client.lacksCallback = true) :
    (client.visit standing call).result = .error (.needsCallback client.name) ∧
      (client.visit standing call).after = call.enter standing :=
  visit_of_init_error (initBy_of_lacksCallback fresh lacks)

theorem visit_of_setback (fresh : standing.progress.initialized = false)
    (reachable : client.lacksCallback = false)
    (early : (standing.progress.starts : ℕ∞) < client.handler.setbacks) :
    (∃ failure, (client.visit standing call).result = .error failure ∧ failure.IsUsage) ∧
      (client.visit standing call).after = (call.enter standing).noting client.handler.noted := by
  have early : ((call.enter standing).progress.starts : ℕ∞) < client.handler.setbacks := early
  obtain ⟨failure, started, usage⟩ := Handler.start_of_lt client.name early
  have failed : client.init (call.enter standing) =
    (.error failure, (call.enter standing).noting client.handler.noted) :=
      (initBy_of_fresh fresh reachable).trans (bind_of_error started)
  obtain ⟨refused, same⟩ := visit_of_init_error failed
  exact ⟨⟨failure, refused, usage⟩, same⟩

theorem visit_of_due (fresh : standing.progress.initialized = false)
    (reachable : client.lacksCallback = false)
    (due : client.handler.setbacks ≤ (standing.progress.starts : ℕ∞)) :
    (client.init (call.enter standing)).1 = .ok () ∧
      (client.visit standing call).after.progress.initialized = true ∧
      (client.visit standing call).after.progress.starts =
        standing.progress.starts + client.handler.noted.count .start := by
  have due : client.handler.setbacks ≤ ((call.enter standing).progress.starts : ℕ∞) := due
  have begun := Handler.start_of_le client.name due
  have started : client.init (call.enter standing) = (.ok (), _) :=
    (initBy_of_fresh fresh reachable).trans (bind_of_ok begun)
  have same : client.perform call.request call.operation (call.enter standing) = _ :=
    perform_of_init started
  obtain ⟨ready, kept⟩ := client.staysReady_perform call.request call.operation _
    (ready_of_init started)
  rw [← same] at ready kept
  exact ⟨congrArg Prod.fst started, ready, kept.trans (State.starts_noting _ _)⟩

/-- What a client comes to on the visit of a run that stands at a place. -/
structure Stage (client : Client) (place : Nat) (visit : Visit) : Prop where
  /-- The handler is asked to get ready until it has succeeded. -/
  starts : visit.Starts client ↔ (place : ℕ∞) ≤ client.handler.setbacks
  /-- Until then the visit fails for that, and leaves no trace but for the note of it. -/
  refused : (place : ℕ∞) < client.handler.setbacks →
    (∃ failure, visit.result = .error failure ∧ failure.IsUsage) ∧
      visit.after = (visit.call.enter visit.before).noting client.handler.noted
  /-- From then on no visit fails for that any more. -/
  ready : client.handler.setbacks ≤ (place : ℕ∞) →
    ∀ failure, visit.result = .error failure → ¬ failure.IsUsage
  /-- A handler that notes anything notes each time that it is asked. -/
  noted : visit.after.progress.starts = visit.before.progress.starts +
    if visit.Starts client then client.handler.noted.count .start else 0

/-- Every time the handler is asked to get ready it is noted, if anything of the handler is. -/
theorem starts_visit (client : Client) (standing : Standing) (call : Call) :
    (client.visit standing call).after.progress.starts = standing.progress.starts +
      if client.Starts standing call then client.handler.noted.count .start else 0 := by
  cases fresh : standing.progress.initialized with
  | true =>
    have idle : ¬ client.Starts standing call := by
      intro starts
      cases fresh.symm.trans (starts_iff.1 starts).1
    rw [if_neg idle]
    exact (visit_of_initialized fresh).2
  | false =>
    cases reachable : client.lacksCallback with
    | true =>
      rw [if_neg (not_starts_of_lacksCallback reachable),
        (visit_of_lacksCallback fresh reachable).2]
      rfl
    | false =>
      rw [if_pos (starts_iff.2 ⟨fresh, reachable⟩)]
      rcases lt_or_ge (standing.progress.starts : ℕ∞) client.handler.setbacks with early | due
      · rw [(visit_of_setback fresh reachable early).2]
        exact State.starts_noting _ _
      · exact (visit_of_due fresh reachable due).2.2

/-- How a client stands after some visits that it began as a new one. -/
structure Underway (client : Client) (history : List Visit) (standing : Standing) : Prop where
  ready : standing.progress.initialized = true ↔
    client.handler.setbacks < (history.length : ℕ∞)
  noted : standing.progress.starts =
    (history.countP fun visit => visit.Starts client) * client.handler.noted.count .start
  started : ((history.countP fun visit => visit.Starts client : ℕ) : ℕ∞) =
    min (history.length : ℕ∞) (client.handler.setbacks + 1)
  stages : ∀ place visit, history[place]? = some visit → client.Stage place visit

end Client

theorem Handler.min_succ (handler : Handler) (visits : Nat) :
    min ((visits + 1 : ℕ) : ℕ∞) (handler.setbacks + 1) =
      min (visits : ℕ∞) (handler.setbacks + 1) +
        if (visits : ℕ∞) ≤ handler.setbacks then 1 else 0 := by
  rw [Nat.cast_succ]
  split
  next within => rw [min_eq_left (by gcongr), min_eq_left (within.trans le_self_add)]
  next past =>
    have past : handler.setbacks + 1 ≤ (visits : ℕ∞) := Order.add_one_le_of_lt (not_le.1 past)
    rw [min_eq_right past, min_eq_right (past.trans le_self_add), add_zero]

theorem Handler.starts_lt_iff (handler : Handler) (visits : Nat) :
    ((visits * handler.noted.count .start : ℕ) : ℕ∞) < handler.setbacks ↔
      (visits : ℕ∞) < handler.setbacks := by
  unfold setbacks
  split
  · cases handler with
    | scripted login => simp [noted]
    | _ => simp [noted, failures]
  · exact iff_of_true (ENat.natCast_lt_top _) (ENat.natCast_lt_top _)

namespace Client

variable {client : Client} {history : List Visit} {standing : Standing}

theorem underway_nil (session : Session) : client.Underway [] { session } where
  ready := by simp
  noted := (Nat.zero_mul _).symm
  started := by simp
  stages := by simp

theorem Underway.starts_lt_iff (underway : client.Underway history standing)
    (fresh : standing.progress.initialized = false) :
    (standing.progress.starts : ℕ∞) < client.handler.setbacks ↔
      (history.length : ℕ∞) < client.handler.setbacks := by
  -- A client that is not ready has no more visits behind it than setbacks, and each was a start.
  have within : (history.length : ℕ∞) ≤ client.handler.setbacks := by
    refine not_lt.1 fun past => ?_
    cases fresh.symm.trans (underway.ready.2 past)
  have each : (history.countP fun visit => visit.Starts client) = history.length := by
    have started := underway.started
    rw [min_eq_left (within.trans le_self_add)] at started
    exact Nat.cast_inj.1 started
  rw [underway.noted, each, client.handler.starts_lt_iff]

theorem Underway.stage (underway : client.Underway history standing)
    (reachable : client.lacksCallback = false) (call : Call) :
    client.Stage history.length (client.visit standing call) where
  starts := by
    rw [← not_lt, ← underway.ready, Bool.not_eq_true]
    exact starts_iff.trans (and_iff_left reachable)
  refused early := by
    have fresh : standing.progress.initialized = false :=
      eq_false_of_ne_true fun ready => lt_asymm early (underway.ready.1 ready)
    exact visit_of_setback fresh reachable ((underway.starts_lt_iff fresh).2 early)
  ready due failure failed usage := by
    have begins : (client.init (call.enter standing)).1 = .ok () := by
      cases fresh : standing.progress.initialized with
      | true => exact congrArg Prod.fst (client.init_of_initialized (call.enter standing) fresh)
      | false =>
        have past := not_lt.1 (mt (underway.starts_lt_iff fresh).1 (not_lt.2 due))
        exact (visit_of_due fresh reachable past).1
    cases begins.symm.trans (init_of_usage failed usage)
  noted := client.starts_visit standing call

theorem Underway.ready_visit (underway : client.Underway history standing)
    (reachable : client.lacksCallback = false) (call : Call) :
    (client.visit standing call).after.progress.initialized = true ↔
      client.handler.setbacks ≤ (history.length : ℕ∞) := by
  cases fresh : standing.progress.initialized with
  | true => exact iff_of_true (visit_of_initialized fresh).1 (underway.ready.1 fresh).le
  | false =>
    rcases lt_or_ge (history.length : ℕ∞) client.handler.setbacks with early | due
    · have few := (underway.starts_lt_iff fresh).2 early
      rw [(visit_of_setback fresh reachable few).2]
      refine iff_of_false (fun ready => ?_) (not_le.2 early)
      cases fresh.symm.trans ready
    · have past := not_lt.1 (mt (underway.starts_lt_iff fresh).1 (not_lt.2 due))
      exact iff_of_true (visit_of_due fresh reachable past).2.1 due

theorem Underway.visit (underway : client.Underway history standing)
    (reachable : client.lacksCallback = false) (call : Call) :
    client.Underway (history ++ [client.visit standing call])
      (client.visit standing call).after.standing := by
  have stage := underway.stage reachable call
  have counted : (history ++ [client.visit standing call]).countP (fun visit =>
      visit.Starts client) = (history.countP fun visit => visit.Starts client) +
        if (client.visit standing call).Starts client then 1 else 0 := by
    rw [List.countP_append, List.countP_singleton]
    simp only [decide_eq_true_eq]
  refine ⟨?_, ?_, ?_, ?_⟩
  · rw [List.length_append, List.length_singleton, Nat.cast_succ, ENat.lt_natCast_add_one_iff]
    exact underway.ready_visit reachable call
  · rw [counted, Nat.add_mul, ite_mul, Nat.one_mul, Nat.zero_mul, ← underway.noted]
    exact client.starts_visit standing call
  · rw [counted, List.length_append, List.length_singleton, client.handler.min_succ,
      ← underway.started, Nat.cast_add, Nat.cast_ite, Nat.cast_one, Nat.cast_zero]
    simp only [stage.starts]
  · intro place visit here
    rw [List.getElem?_append] at here
    split at here
    · exact underway.stages place visit here
    next beyond =>
      rw [List.getElem?_singleton] at here
      split at here
      next last =>
        have same : place = history.length := by omega
        cases here
        exact same ▸ stage
      · cases here

theorem run_length (client : Client) (start : Standing) (calls : List Call) :
    (client.run start calls).length = calls.length := by
  induction calls generalizing start with
  | nil => rfl
  | cons call rest ih => exact congrArg Nat.succ (ih _)

theorem run_of_lacksCallback (lacks : client.lacksCallback = true) (session : Session)
    (calls : List Call) :
    ∀ visit ∈ client.run { session } calls,
      ¬ visit.Starts client ∧ visit.result = .error (.needsCallback client.name) ∧
        visit.after = visit.call.enter { session } := by
  have stays := client.run_invariant (fun history standing => standing = { session } ∧
    ∀ visit ∈ history, ¬ visit.Starts client ∧
      visit.result = .error (.needsCallback client.name) ∧
      visit.after = visit.call.enter { session }) { session } ⟨rfl, by simp⟩ ?_ calls
  · exact stays.2
  rintro history standing call ⟨rfl, before⟩
  obtain ⟨refused, same⟩ :
    (client.visit { session } call).result = _ ∧ _ = call.enter { session } :=
      visit_of_lacksCallback rfl lacks
  refine ⟨congrArg State.standing same, fun visit member => ?_⟩
  rcases List.mem_append.1 member with earlier | last
  · exact before visit earlier
  · rw [List.mem_singleton.1 last]
    exact ⟨not_starts_of_lacksCallback lacks, refused, same⟩

/-- A client that redirects indirectly and has no callback URL never gets anywhere: every operation
fails, nothing changes and the handler is not asked for anything. Any other client asks its handler
to get ready until that has succeeded, and never again; as long as it does not succeed, operations
fail and leave no trace. -/
theorem starts_until_ready (client : Client) (session : Session) (calls : List Call) :
    (client.lacksCallback = true → ∀ visit ∈ client.run { session } calls,
      ¬ visit.Starts client ∧ visit.result = .error (.needsCallback client.name) ∧
        visit.after = visit.call.enter { session }) ∧
    (client.lacksCallback = false →
      (((client.run { session } calls).countP fun visit => visit.Starts client : ℕ) : ℕ∞) =
          min (calls.length : ℕ∞) (client.handler.setbacks + 1) ∧
        (∀ place visit, (client.run { session } calls)[place]? = some visit →
          client.Stage place visit) ∧
        ∀ login, client.handler = .scripted login →
          (client.leave { session } calls).progress.starts =
            (client.run { session } calls).countP fun visit => visit.Starts client) := by
  refine ⟨fun lacks => run_of_lacksCallback lacks session calls, fun reachable => ?_⟩
  have underway : client.Underway (client.run { session } calls)
      (client.leave { session } calls) :=
    client.run_invariant client.Underway { session } (underway_nil session)
      (fun _ _ call before => before.visit reachable call) calls
  refine ⟨?_, underway.stages, fun login scripted => ?_⟩
  · rw [← client.run_length { session } calls]
    exact underway.started
  · rw [underway.noted, scripted]
    exact Nat.mul_one _

def stumblingClient : Client where
  handler := .scripted { initFailures := 2 }
  givenName := some "C"
  callbackUrl := some "/callback"

theorem stumblingClient_starts :
    let visits := stumblingClient.run {}
      ([.redirectAction true false, .credentials, .profile none, .init].map Call.bare)
    (visits.countP fun visit => visit.Starts stumblingClient) = 3 ∧
      ∀ place visit, visits[place]? = some visit →
        (visit.Starts stumblingClient ↔ place ≤ 2) ∧
        (place < 2 → ∃ failure, visit.result = .error failure ∧ failure.IsUsage) := by
  have setbacks : stumblingClient.handler.setbacks = (2 : ℕ) := rfl
  obtain ⟨counted, stages, -⟩ := (starts_until_ready stumblingClient []
    ([.redirectAction true false, .credentials, .profile none, .init].map Call.bare)).2 rfl
  rw [setbacks] at counted
  refine ⟨Nat.cast_inj.1 counted, fun place visit here => ?_⟩
  obtain ⟨starts, refused, -, -⟩ := stages place visit here
  rw [setbacks, Nat.cast_le] at starts
  rw [setbacks, Nat.cast_lt] at refused
  exact ⟨starts, fun early => (refused early).1⟩

end Client

end SignOn
