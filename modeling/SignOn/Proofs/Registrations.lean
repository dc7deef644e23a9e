import SignOn.Registry

/-!
What a registry holds. However clients came to be registered, with the registry or later, it has
them in that order, each with its callback URL settled and each under a name of its own; so whoever
is looked up by the name of a client is that client.
-/

namespace SignOn.Registry

/-- The registry holds these clients, adopted with the shared callback URL, and no two of them have
one name. -/
structure Holds (registry : Registry) (shared : Option String) (originals : List Client) :
    Prop where
  callback : registry.callbackUrl = shared
  clients : registry.clients = originals.map (adopt shared)
  names : registry.names.Nodup

@[simp] theorem adopt_name (shared : Option String) (client : Client) :
    (adopt shared client).name = client.name := rfl

variable {registry extended : Registry} {shared : Option String} {originals : List Client}

theorem register_of_known {client : Client} (known : client.name ∈ registry.names) :
    registry.register client = .error (.duplicateName client.name) := if_pos known

theorem register_of_new {client : Client} (new : client.name ∉ registry.names) :
    registry.register client =
      .ok ({ registry with clients := registry.clients ++ [adopt registry.callbackUrl client] },
        adopt registry.callbackUrl client) := if_neg new

theorem Holds.register (holds : registry.Holds shared originals) {client adopted : Client}
    (registered : registry.register client = .ok (extended, adopted)) :
    extended.Holds shared (originals ++ [client]) := by
  unfold Registry.register at registered
  split at registered
  · cases registered
  next fresh =>
    cases registered
    refine ⟨holds.callback, ?_, ?_⟩
    · change registry.clients ++ [adopt registry.callbackUrl client] = _
      rw [holds.clients, holds.callback, List.map_append]
      rfl
    · change ((registry.clients ++ [adopt registry.callbackUrl client]).map Client.name).Nodup
      rw [List.map_append, List.nodup_append]
      refine ⟨holds.names, List.pairwise_singleton _ _, ?_⟩
      intro known member other last same
      rw [List.map_singleton, List.mem_singleton, adopt_name] at last
      exact fresh (last ▸ same ▸ member)

theorem registered_of_registerAll {client : Client} {rest : List Client}
    {records : List LogRecord}
    (registered : Registry.registerAll registry (client :: rest) = (.ok extended, records)) :
    ∃ next adopted later, registry.register client = .ok (next, adopted) ∧
      Registry.registerAll next rest = (.ok extended, later) := by
  unfold Registry.registerAll at registered
  cases first : registry.register client with
  | error failure =>
    rw [first] at registered
    cases registered
  | ok result =>
    obtain ⟨next, adopted⟩ := result
    simp only [first, Prod.mk.injEq] at registered
    exact ⟨next, adopted, _, rfl, Prod.ext registered.1 rfl⟩

/-- The clients that are registered one after another are held in that order. -/
theorem Holds.registerAll {more : List Client} {records : List LogRecord}
    (holds : registry.Holds shared originals)
    (registered : Registry.registerAll registry more = (.ok extended, records)) :
    extended.Holds shared (originals ++ more) := by
  induction more generalizing registry originals records with
  | nil =>
    cases registered
    rw [List.append_nil]
    exact holds
  | cons client rest ih =>
    obtain ⟨next, adopted, later, first, further⟩ := registered_of_registerAll registered
    have held := ih (holds.register first) further
    rw [List.append_assoc] at held
    exact held

/-- The default client has to be one of the clients; without one, nothing changes. -/
theorem withDefault_eq_ok {defaultClient : Option String} :
    registry.withDefault defaultClient = .ok extended ↔
      (∀ name ∈ defaultClient, name ∈ registry.names) ∧
        extended = { registry with defaultClient := defaultClient.or registry.defaultClient } := by
  unfold Registry.withDefault
  cases defaultClient with
  | none =>
    constructor
    · intro settled
      cases settled
      exact ⟨by simp, rfl⟩
    · rintro ⟨-, rfl⟩
      rfl
  | some name => by_cases known : name ∈ registry.names <;> simp [known, eq_comm]

theorem Holds.withDefault (holds : registry.Holds shared originals) {defaultClient : Option String}
    (settled : registry.withDefault defaultClient = .ok extended) :
    extended.Holds shared originals := by
  obtain ⟨-, rfl⟩ := withDefault_eq_ok.1 settled
  exact ⟨holds.callback, holds.clients, holds.names⟩

theorem registered_of_create {defaultClient : Option String}
    (created : (Registry.create shared originals defaultClient).1 = .ok registry) :
    ∃ filled records,
      Registry.registerAll { callbackUrl := shared } originals = (.ok filled, records) ∧
        filled.withDefault defaultClient = .ok registry := by
  unfold Registry.create at created
  rcases registered : Registry.registerAll { callbackUrl := shared } originals with
    ⟨failure | filled, records⟩
  · rw [registered] at created
    cases created
  · rw [registered] at created
    exact ⟨filled, records, rfl, created⟩

theorem holds_of_create {defaultClient : Option String} {records : List LogRecord}
    (created : Registry.create shared originals defaultClient = (.ok registry, records)) :
    registry.Holds shared originals := by
  have empty : Holds { callbackUrl := shared } shared [] := ⟨rfl, rfl, List.nodup_nil⟩
  obtain ⟨filled, made, registered, settled⟩ := registered_of_create (congrArg Prod.fst created)
  exact (empty.registerAll registered).withDefault settled

theorem find_of_mem (names : registry.names.Nodup) {client : Client}
    (member : client ∈ registry.clients) : registry.find client.name = .ok client := by
  have found : registry.find? client.name = some client := by
    unfold Registry.find?
    unfold Registry.names at names
    generalize registry.clients = clients at names member
    induction clients with
    | nil => cases member
    | cons first rest ih =>
      rw [List.map_cons, List.nodup_cons] at names
      rcases List.mem_cons.1 member with here | further
      · rw [here]
        exact List.find?_cons_of_pos (beq_self_eq_true _)
      · have apart : first.name ≠ client.name := fun same =>
          names.1 (same ▸ List.mem_map_of_mem further)
        rw [List.find?_cons_of_neg (by simpa using apart)]
        exact ih names.2 further
  unfold Registry.find
  rw [found]

theorem Holds.find (holds : registry.Holds shared originals) {client : Client}
    (member : client ∈ originals) :
    registry.find client.name = .ok (adopt shared client) := by
  have kept : adopt shared client ∈ registry.clients :=
    holds.clients ▸ List.mem_map_of_mem member
  exact find_of_mem holds.names kept

theorem findFor_of_named (names : registry.names.Nodup) {client : Client}
    (member : client ∈ registry.clients) {request : Request}
    (named : request.parameter? nameParameter = some client.name)
    (whole : Text.isBlank client.name = false) : registry.findFor request = .ok client := by
  have meant : registry.nameFor request = .ok client.name := by
    unfold Registry.nameFor
    rw [named]
    simp only [whole, Bool.false_eq_true, if_false]
  unfold Registry.findFor
  rw [meant]
  exact find_of_mem names member

end SignOn.Registry
