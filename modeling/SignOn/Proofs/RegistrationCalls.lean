import SignOn.Proofs.CallbackNames
import SignOn.Proofs.Deployment

/-!
Registering clients one call after another. A call is refused where the name of the client is known,
and then nothing has changed; so after any calls the registry has each name once, in the order in
which the names came up, and under a name the client that came up with it first. Whoever asks the
registry gets that client, which differs from what was registered in its callback URL alone.
-/

namespace SignOn.Registry

/-- Registers clients one after another, passing over those that are refused, and lists what each
call was answered with. -/
def registerEach : Registry → List Client → Registry × List (Except ConfigFailure Client)
  | registry, [] => (registry, [])
  | registry, client :: rest =>
    match registry.register client with
    | .error failure =>
      let (reached, answers) := registry.registerEach rest
      (reached, .error failure :: answers)
    | .ok (extended, adopted) =>
      let (reached, answers) := extended.registerEach rest
      (reached, .ok adopted :: answers)

/-- What a registry is after some clients were offered to it. -/
structure Serves (registry : Registry) (shared defaultClient : Option String)
    (offered : List Client) : Prop where
  /-- Each name is there once, at the place where it came up first. -/
  names : registry.names = (offered.map Client.name).eraseDups
  whole : ∀ name ∈ registry.names, Text.isBlank name = false
  /-- Under a name there is the client that came up with it first, but for its callback URL. -/
  found : ∀ name original, offered.find? (·.name == name) = some original →
    ∃ client, registry.find name = .ok client ∧ client.name = name ∧
      client.guardKey = LoopGuard.key name ∧
      client = original.withCallbackUrl client.callbackUrl
  unknown : ∀ name, name ∉ offered.map Client.name →
    registry.find name = .error (.unknownClient name registry.names)
  /-- A call with a name that is there is refused, and has changed nothing. -/
  refuses : ∀ client, client.name ∈ registry.names →
    registry.registerEach [client] = (registry, [.error (.duplicateName client.name)])
  /-- Any other call answers with the client that is found from then on. -/
  admits : ∀ client, client.name ∉ registry.names → ∃ extended adopted,
    registry.registerEach [client] = (extended, [.ok adopted]) ∧
      extended.names = registry.names ++ [client.name] ∧
      extended.find client.name = .ok adopted
  /-- A request that names nobody belongs to the default client, if there is one. -/
  fallback : ∀ name ∈ defaultClient, ∃ client, registry.find name = .ok client ∧
    ∀ request : Request, Text.isAbsentOrBlank (request.parameter? nameParameter) = true →
      registry.findFor request = .ok client
  /-- A registered client is taken as it is by any registry with the same callback URL. -/
  again : ∀ client ∈ registry.clients, ∀ other : Registry, other.callbackUrl = shared →
    client.name ∉ other.names →
    other.register client = .ok ({ other with clients := other.clients ++ [client] }, client)

variable {registry extended : Registry} {shared defaultClient : Option String}
  {offered originals : List Client} {client : Client}

theorem registerEach_of_known (known : client.name ∈ registry.names) :
    registry.registerEach [client] = (registry, [.error (.duplicateName client.name)]) := by
  unfold registerEach
  rw [register_of_known known]
  rfl

theorem registerEach_of_new (new : client.name ∉ registry.names) :
    let adopted := adopt registry.callbackUrl client
    registry.registerEach [client] =
      ({ registry with clients := registry.clients ++ [adopted] }, [.ok adopted]) := by
  intro adopted
  unfold registerEach
  rw [register_of_new new]
  rfl

theorem registerEach_cons (registry : Registry) (client : Client) (rest : List Client) :
    (registry.registerEach (client :: rest)).1 =
      ((registry.registerEach [client]).1.registerEach rest).1 := by
  by_cases known : client.name ∈ registry.names
  · rw [registerEach_of_known known, registerEach, register_of_known known]
  · rw [registerEach_of_new known, registerEach, register_of_new known]

theorem Holds.find? (holds : registry.Holds shared originals) (name : String) :
    registry.find? name = (originals.find? (·.name == name)).map (adopt shared) := by
  unfold Registry.find?
  rw [holds.clients, List.find?_map]
  rfl

/-- What carries over from call to call: the registry holds some of the clients that were offered to
it, which have all the names, each for the first of those that came up with it; and it has its
default client. -/
structure Admitted (registry : Registry) (shared defaultClient : Option String)
    (offered originals : List Client) : Prop where
  holds : registry.Holds shared originals
  names : originals.map Client.name = (offered.map Client.name).eraseDups
  first : ∀ name, originals.find? (·.name == name) = offered.find? (·.name == name)
  fallback : registry.defaultClient = defaultClient
  listed : ∀ name ∈ defaultClient, name ∈ registry.names

theorem Admitted.mem_names (admitted : registry.Admitted shared defaultClient offered originals)
    {name : String} : name ∈ registry.names ↔ name ∈ offered.map Client.name := by
  rw [admitted.holds.names_eq, admitted.names, List.mem_eraseDups]

theorem find?_eq_none_of_not_mem {name : String} (absent : name ∉ offered.map Client.name) :
    offered.find? (·.name == name) = none :=
  List.find?_eq_none.2 fun _ member same =>
    absent (eq_of_beq same ▸ List.mem_map_of_mem member)

theorem find?_isSome_of_mem {name : String} (present : name ∈ offered.map Client.name) :
    (offered.find? (·.name == name)).isSome = true := by
  obtain ⟨client, member, same⟩ := List.mem_map.1 present
  exact List.find?_isSome.2 ⟨client, member, beq_iff_eq.2 same⟩

theorem find_of_unknown {name : String} (absent : name ∉ registry.names) :
    registry.find name = .error (.unknownClient name registry.names) := by
  have nothing : registry.find? name = none := find?_eq_none_of_not_mem absent
  unfold Registry.find
  rw [nothing]

theorem Admitted.register (admitted : registry.Admitted shared defaultClient offered originals)
    (client : Client) :
    ∃ originals, (registry.registerEach [client]).1.Admitted shared defaultClient
      (offered ++ [client]) originals := by
  by_cases known : client.name ∈ registry.names
  · have present := admitted.mem_names.1 known
    rw [registerEach_of_known known]
    refine ⟨originals, admitted.holds, ?_, fun name => ?_, admitted.fallback, admitted.listed⟩
    · have gone : [client.name].removeAll (offered.map Client.name) = [] := by
        simpa [List.removeAll] using present
      rw [List.map_append, List.map_singleton, List.eraseDups_append, gone, admitted.names]
      exact (List.append_nil _).symm
    · rw [admitted.first, List.find?_append]
      by_cases own : client.name = name
      · subst own
        exact (Option.or_of_isSome (find?_isSome_of_mem present)).symm
      · have other : [client].find? (·.name == name) = none :=
          List.find?_cons_of_neg (by simpa using own)
        rw [other, Option.or_none]
  · have absent := mt admitted.mem_names.2 known
    have holds := admitted.holds.register (register_of_new known)
    rw [registerEach_of_new known]
    refine ⟨originals ++ [client], holds, ?_, fun name => ?_, admitted.fallback, ?_⟩
    · have fresh : [client.name].removeAll (offered.map Client.name) = [client.name] := by
        simpa [List.removeAll] using absent
      rw [List.map_append, List.map_append, List.map_singleton, List.eraseDups_append, fresh,
        admitted.names]
      rfl
    · rw [List.find?_append, List.find?_append, admitted.first]
    · intro name given
      rw [holds.names_eq, List.map_append, ← admitted.holds.names_eq]
      exact List.mem_append_left _ (admitted.listed name given)

theorem Admitted.registerEach (calls : List Client)
    (admitted : registry.Admitted shared defaultClient offered originals) :
    ∃ originals, (registry.registerEach calls).1.Admitted shared defaultClient
      (offered ++ calls) originals := by
  induction calls generalizing registry offered originals with
  | nil =>
    rw [List.append_nil]
    exact ⟨originals, admitted⟩
  | cons client rest ih =>
    obtain ⟨further, next⟩ := admitted.register client
    obtain ⟨last, reached⟩ := ih next
    rw [List.append_assoc] at reached
    rw [registerEach_cons]
    exact ⟨last, reached⟩

theorem eraseDups_of_nodup {names : List String} (distinct : names.Nodup) :
    names.eraseDups = names := by
  induction names with
  | nil => rfl
  | cons name rest ih =>
    obtain ⟨apart, further⟩ := List.nodup_cons.1 distinct
    have kept : rest.filter (fun other => ! other == name) = rest :=
      List.filter_eq_self.2 fun other member => by
        have unlike : other ≠ name := fun same => apart (same ▸ member)
        simpa using unlike
    rw [List.eraseDups_cons, kept, ih further]

theorem defaultClient_of_registerAll {records : List LogRecord}
    (registered : Registry.registerAll registry originals = (.ok extended, records)) :
    extended.defaultClient = registry.defaultClient := by
  induction originals generalizing registry records with
  | nil =>
    cases registered
    rfl
  | cons client rest ih =>
    obtain ⟨next, adopted, later, first, further⟩ := registered_of_registerAll registered
    have same : next.defaultClient = registry.defaultClient := by
      by_cases known : client.name ∈ registry.names
      · cases (register_of_known known).symm.trans first
      · cases (register_of_new known).symm.trans first
        rfl
    exact (ih further).trans same

theorem defaultClient_of_create {records : List LogRecord}
    (created : Registry.create shared originals defaultClient = (.ok registry, records)) :
    registry.defaultClient = defaultClient := by
  obtain ⟨filled, made, registered, settled⟩ := registered_of_create (congrArg Prod.fst created)
  have bare : filled.defaultClient = none := defaultClient_of_registerAll registered
  obtain ⟨-, rfl⟩ := withDefault_eq_ok.1 settled
  rw [bare, Option.or_none]

theorem admitted_of_create {records : List LogRecord}
    (created : Registry.create shared originals defaultClient = (.ok registry, records)) :
    registry.Admitted shared defaultClient originals originals := by
  have holds := holds_of_create created
  have distinct : (originals.map Client.name).Nodup := holds.names_eq ▸ holds.names
  have accepted : ∃ registry, (Registry.create shared originals defaultClient).1 = .ok registry :=
    ⟨registry, congrArg Prod.fst created⟩
  refine ⟨holds, (eraseDups_of_nodup distinct).symm, fun name => rfl,
    defaultClient_of_create created, fun name given => ?_⟩
  rw [holds.names_eq]
  exact (create_isOk_iff.1 accepted).2 name given

section

variable (admitted : registry.Admitted shared defaultClient offered originals)
include admitted

theorem Admitted.find {name : String} {original : Client}
    (came : offered.find? (·.name == name) = some original) :
    registry.find name = .ok (adopt shared original) := by
  unfold Registry.find
  rw [admitted.holds.find?, admitted.first, came]
  rfl

theorem Admitted.find_of_unknown {name : String} (absent : name ∉ offered.map Client.name) :
    registry.find name = .error (.unknownClient name registry.names) := by
  apply Registry.find_of_unknown
  exact mt admitted.mem_names.1 absent

theorem Admitted.findFor_of_blank {name : String} (given : defaultClient = some name)
    {request : Request}
    (blank : Text.isAbsentOrBlank (request.parameter? nameParameter) = true) :
    registry.findFor request = registry.find name := by
  have settled : nameFor.fallback registry = .ok name := by
    unfold nameFor.fallback
    rw [admitted.fallback, given]
  have meant : registry.nameFor request = .ok name := by
    unfold Registry.nameFor
    cases said : request.parameter? nameParameter with
    | none => exact settled
    | some text =>
      rw [said] at blank
      exact (if_pos blank).trans settled
  unfold Registry.findFor
  rw [meant]
  rfl

theorem Admitted.serves : registry.Serves shared defaultClient offered where
  names := admitted.holds.names_eq.trans admitted.names
  whole name member := by
    rw [admitted.holds.names_eq] at member
    obtain ⟨client, -, rfl⟩ := List.mem_map.1 member
    exact client.name_not_blank
  found name original came := by
    have named : original.name = name := eq_of_beq (List.find?_some came :)
    subst named
    exact ⟨_, admitted.find came, rfl, rfl, rfl⟩
  unknown name absent := admitted.find_of_unknown absent
  refuses client known := registerEach_of_known known
  admits client new := by
    have holds := admitted.holds.register (register_of_new new)
    refine ⟨_, _, registerEach_of_new new, ?_, ?_⟩
    · rw [holds.names_eq, List.map_append, ← admitted.holds.names_eq]
      rfl
    · rw [holds.find (List.mem_append_right _ List.mem_cons_self), admitted.holds.callback]
  fallback name given := by
    have present := admitted.mem_names.1 (admitted.listed name given)
    obtain ⟨original, came⟩ := Option.isSome_iff_exists.1 (find?_isSome_of_mem present)
    refine ⟨_, admitted.find came, fun request blank => ?_⟩
    rw [admitted.findFor_of_blank given blank, admitted.find came]
  again client member other same new := by
    rw [admitted.holds.clients] at member
    obtain ⟨original, -, rfl⟩ := List.mem_map.1 member
    rw [register_of_new new, same, adopt_adopt]

end

/-- However calls come after one another, a registry is faithful to the clients that were offered to
it: to those that it was made of and to those of the calls. -/
theorem serves_after_calls {records : List LogRecord}
    (created : Registry.create shared offered defaultClient = (.ok registry, records))
    (calls : List Client) :
    (registry.registerEach calls).1.Serves shared defaultClient (offered ++ calls) := by
  obtain ⟨originals, reached⟩ := (admitted_of_create created).registerEach calls
  exact reached.serves

theorem borrowed_names_refused :
    let unnamed : Client := { handler := .basic {} }
    let calls := [unnamed, formNamed "BasicAuthHandler", formNamed "A"]
    ∃ registry records,
      Registry.create (some "/callback") [formNamed "A"] (some "A") = (.ok registry, records) ∧
      (registry.registerEach calls).1.Serves (some "/callback") (some "A")
        ([formNamed "A"] ++ calls) ∧
      (registry.registerEach calls).1.names = ["A", "BasicAuthHandler"] ∧
      ∃ client, (registry.registerEach calls).1.find "BasicAuthHandler" = .ok client ∧
        client = unnamed.withCallbackUrl client.callbackUrl := by
  intro unnamed calls
  have served := serves_after_calls
    (show Registry.create (some "/callback") [formNamed "A"] (some "A") = (.ok _, _) from rfl) calls
  obtain ⟨client, found, -, -, same⟩ := served.found "BasicAuthHandler" unnamed rfl
  exact ⟨_, _, rfl, served, served.names.trans (by decide), client, found, same⟩

end SignOn.Registry
