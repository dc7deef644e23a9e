import Mathlib.Data.List.Forall2
import SignOn.Proofs.Failures
import SignOn.Proofs.Registrations

/-!
What becomes of a configuration. Each entry that can be built is a client under a name of its own
or under that of its handler; the clients are registered as long as their names differ, and the
default client has to be one of them. A configuration is deployed exactly when all of that goes
well.
-/

namespace SignOn

namespace Registry

variable {registry : Registry} {shared defaultClient : Option String} {clients : List Client}

theorem Holds.names_eq (holds : registry.Holds shared clients) :
    registry.names = clients.map Client.name := by
  unfold Registry.names
  rw [holds.clients, List.map_map]
  rfl

theorem registerAll_of_nodup (distinct : (registry.names ++ clients.map Client.name).Nodup) :
    ∃ extended records, Registry.registerAll registry clients = (.ok extended, records) := by
  induction clients generalizing registry with
  | nil => exact ⟨registry, [], rfl⟩
  | cons client rest ih =>
    have fresh : client.name ∉ registry.names := by
      intro known
      have apart := (List.nodup_append.1 distinct).2.2
      exact apart _ known _ List.mem_cons_self rfl
    let adopted := adopt registry.callbackUrl client
    let next : Registry := { registry with clients := registry.clients ++ [adopted] }
    have first : registry.register client = .ok (next, adopted) := register_of_new fresh
    have names : next.names = registry.names ++ [client.name] := by
      change (registry.clients ++ [adopted]).map Client.name = _
      rw [List.map_append]
      rfl
    have further : (next.names ++ rest.map Client.name).Nodup := by
      rw [names, List.append_assoc]
      exact distinct
    obtain ⟨extended, records, registered⟩ := ih further
    refine ⟨extended, registrationRecord adopted :: records, ?_⟩
    unfold Registry.registerAll
    rw [first]
    simp only [registered]

theorem create_isOk_iff :
    (∃ registry, (Registry.create shared clients defaultClient).1 = .ok registry) ↔
      (clients.map Client.name).Nodup ∧
        ∀ name ∈ defaultClient, name ∈ clients.map Client.name := by
  have empty : Holds { callbackUrl := shared } shared [] := ⟨rfl, rfl, List.nodup_nil⟩
  constructor
  · rintro ⟨registry, created⟩
    have holds := holds_of_create (Prod.ext created rfl)
    refine ⟨holds.names_eq ▸ holds.names, fun name given => ?_⟩
    obtain ⟨filled, records, registered, settled⟩ := registered_of_create created
    have listed := (withDefault_eq_ok.1 settled).1 name given
    rw [(empty.registerAll registered).names_eq] at listed
    exact listed
  · rintro ⟨distinct, known⟩
    have fresh : (({ callbackUrl := shared } : Registry).names ++
        clients.map Client.name).Nodup := distinct
    obtain ⟨filled, records, registered⟩ := registerAll_of_nodup fresh
    have filledNames := (empty.registerAll registered).names_eq
    unfold Registry.create
    rw [registered]
    exact ⟨_, withDefault_eq_ok.2 ⟨fun name given => filledNames ▸ known name given, rfl⟩⟩

end Registry

theorem nonEmpty_of_ne {text : String} (filled : text ≠ "") :
    nonEmpty (some text) = some text := by
  unfold nonEmpty
  split
  next same =>
    cases same
    exact absurd rfl filled
  · rfl

namespace ClientSettings

def handlerName (settings : ClientSettings) : String :=
  ((builtInTypes.get? settings.type).map HandlerType.typeName).getD ""

/-- The name that a client has by its settings: the given one unless that is blank, else the name
of its handler. -/
def effectiveName (settings : ClientSettings) : String :=
  match settings.name with
  | none => settings.handlerName
  | some given => if Text.isBlank given then settings.handlerName else given

/-- What a client has of the settings it was built from. -/
structure Describes (host : Host) (types : Entries HandlerType) (settings : ClientSettings)
    (client : Client) : Prop where
  handler : ∃ type, types.get? settings.type = some type ∧
    settings.handler host type = .ok client.handler
  givenName : client.givenName = nonEmpty settings.name
  callbackUrl : client.callbackUrl = nonEmpty settings.callbackUrl
  includesName : client.includesName = settings.includesName

variable {host : Host} {types : Entries HandlerType} {settings : ClientSettings} {client : Client}

theorem made_of_build (built : settings.build host types = .ok client) :
    ∃ type handler passwords, types.get? settings.type = some type ∧
      settings.handler host type = .ok handler ∧
      resolveUsers host settings.users = .ok passwords ∧
      client =
        { handler, givenName := nonEmpty settings.name,
          callbackUrl := nonEmpty settings.callbackUrl, contextual := settings.contextual,
          includesName := settings.includesName, generators := settings.generators,
          authenticator := if passwords.isEmpty then none else some (.passwords passwords),
          takesAttached := ! passwords.isEmpty } := by
  unfold build at built
  cases asked : types.get? settings.type with
  | none =>
    rw [asked] at built
    cases built
  | some type =>
    rw [asked] at built
    change (settings.handler host type >>= fun handler => _) = _ at built
    obtain ⟨handler, made, built⟩ := ok_of_bind built
    change (resolveUsers host settings.users >>= fun passwords => _) = _ at built
    obtain ⟨passwords, resolved, built⟩ := ok_of_bind built
    cases built
    exact ⟨type, handler, passwords, rfl, made, resolved, rfl⟩

theorem describes_of_build (built : settings.build host types = .ok client) :
    settings.Describes host types client := by
  obtain ⟨type, handler, passwords, asked, made, -, rfl⟩ := made_of_build built
  exact ⟨⟨type, asked, made⟩, rfl, rfl, rfl⟩

theorem typeName_of_handler {type : HandlerType} {handler : Handler}
    (made : settings.handler host type = .ok handler) : handler.typeName = type.typeName := by
  cases type with
  | form =>
    cases made
    rfl
  | basic =>
    cases made
    rfl
  | oauth2 =>
    change (resolveOptional host settings.clientIdSource >>= fun clientId => _) = _ at made
    obtain ⟨clientId, -, made⟩ := ok_of_bind made
    obtain ⟨clientSecret, -, made⟩ := ok_of_bind made
    cases made
    rfl
  | scripted => cases made

theorem isBuiltIn_of_handler {type : HandlerType} {handler : Handler}
    (made : settings.handler host type = .ok handler) : handler.IsBuiltIn := by
  cases type with
  | form =>
    cases made
    trivial
  | basic =>
    cases made
    trivial
  | oauth2 =>
    change (resolveOptional host settings.clientIdSource >>= fun clientId => _) = _ at made
    obtain ⟨clientId, -, made⟩ := ok_of_bind made
    obtain ⟨clientSecret, -, made⟩ := ok_of_bind made
    cases made
    trivial
  | scripted => cases made

theorem Describes.isBuiltIn (describes : settings.Describes host types client) :
    client.handler.IsBuiltIn := by
  obtain ⟨type, -, made⟩ := describes.handler
  exact isBuiltIn_of_handler made

theorem name_of_build (built : settings.build host builtInTypes = .ok client) :
    client.name = settings.effectiveName := by
  have describes := describes_of_build built
  obtain ⟨type, asked, made⟩ := describes.handler
  have typed : client.handler.typeName = settings.handlerName := by
    unfold handlerName
    rw [asked, typeName_of_handler made]
    rfl
  unfold Client.name effectiveName
  rw [describes.givenName, typed]
  cases settings.name with
  | none => rfl
  | some given =>
    by_cases empty : given = ""
    · subst empty
      rfl
    · rw [nonEmpty_of_ne empty]

end ClientSettings

namespace ClientsConfig

variable {host : Host} {config : ClientsConfig} {clients : List Client}

theorem buildAll_eq_ok_iff {types : Entries HandlerType} {entries : List ClientSettings} :
    buildAll host types entries = .ok clients ↔
      List.Forall₂ (fun settings client => settings.build host types = .ok client) entries
        clients := by
  induction entries generalizing clients with
  | nil =>
    constructor
    · intro built
      cases built
      exact .nil
    · intro described
      cases described
      rfl
  | cons settings rest ih =>
    constructor
    · intro built
      obtain ⟨client, first, built⟩ := ok_of_bind built
      obtain ⟨others, further, built⟩ := ok_of_bind built
      cases built
      exact .cons first (ih.1 further)
    · intro described
      cases described with
      | cons first further =>
        unfold buildAll
        rw [first, ih.2 further]
        rfl

theorem mem_of_buildAll {types : Entries HandlerType} {entries : List ClientSettings}
    (built : buildAll host types entries = .ok clients) {client : Client} :
    client ∈ clients ↔ ∃ settings ∈ entries, settings.build host types = .ok client := by
  have described := buildAll_eq_ok_iff.1 built
  clear built
  induction described with
  | nil => simp
  | @cons settings first rest others here _ ih =>
    constructor
    · intro member
      rcases List.mem_cons.1 member with rfl | further
      · exact ⟨settings, List.mem_cons_self, here⟩
      · obtain ⟨other, entry, made⟩ := ih.1 further
        exact ⟨other, List.mem_cons_of_mem _ entry, made⟩
    · rintro ⟨other, entry, made⟩
      rcases List.mem_cons.1 entry with rfl | further
      · cases made.symm.trans here
        exact List.mem_cons_self
      · exact List.mem_cons_of_mem _ (ih.2 ⟨other, further, made⟩)

theorem build_of_buildAll {types : Entries HandlerType} {entries : List ClientSettings}
    (built : buildAll host types entries = .ok clients) {settings : ClientSettings}
    (member : settings ∈ entries) : ∃ client, settings.build host types = .ok client := by
  have described := buildAll_eq_ok_iff.1 built
  clear built
  induction described with
  | nil => cases member
  | cons here _ ih =>
    rcases List.mem_cons.1 member with rfl | further
    · exact ⟨_, here⟩
    · exact ih further

theorem build_of_buildAll_error {types : Entries HandlerType} {entries : List ClientSettings}
    {failure : Failure} (failed : buildAll host types entries = .error failure) :
    ∃ settings ∈ entries, settings.build host types = .error failure := by
  induction entries with
  | nil => cases failed
  | cons settings rest ih =>
    cases first : settings.build host types with
    | error other =>
      unfold buildAll at failed
      rw [first] at failed
      cases failed
      exact ⟨settings, List.mem_cons_self, first⟩
    | ok client =>
      cases further : buildAll host types rest with
      | error other =>
        unfold buildAll at failed
        rw [first, further] at failed
        cases failed
        obtain ⟨culprit, member, fails⟩ := ih further
        exact ⟨culprit, List.mem_cons_of_mem _ member, fails⟩
      | ok others =>
        unfold buildAll at failed
        rw [first, further] at failed
        cases failed

theorem names_of_buildAll (built : buildAll host builtInTypes config.clients = .ok clients) :
    clients.map Client.name = config.clients.map ClientSettings.effectiveName := by
  have described := buildAll_eq_ok_iff.1 built
  clear built
  generalize config.clients = entries at described
  induction described with
  | nil => rfl
  | cons first _ ih => rw [List.map_cons, List.map_cons, ih, ClientSettings.name_of_build first]

/-- No two entries have one name, and the default client, if there is one, is an entry. -/
structure Consistent (config : ClientsConfig) : Prop where
  distinct : (config.clients.map ClientSettings.effectiveName).Nodup
  known : ∀ name ∈ config.defaultClient, name ∈ config.clients.map ClientSettings.effectiveName

theorem deploy_of_buildAll (built : buildAll host builtInTypes config.clients = .ok clients) :
    (config.deploy host).1 =
      (Registry.create config.callbackUrl clients config.defaultClient).1.mapError .config := by
  unfold deploy
  rw [built]

/-- Once its clients are built, a configuration is deployed exactly if its names are consistent. -/
theorem deploy_isOk_iff (built : buildAll host builtInTypes config.clients = .ok clients) :
    (∃ registry, (config.deploy host).1 = .ok registry) ↔ config.Consistent := by
  have created : (∃ registry, (Registry.create config.callbackUrl clients
      config.defaultClient).1 = .ok registry) ↔ _ := Registry.create_isOk_iff
  rw [names_of_buildAll built] at created
  rw [deploy_of_buildAll built]
  constructor
  · rintro ⟨registry, deployed⟩
    cases made : (Registry.create config.callbackUrl clients config.defaultClient).1 with
    | error failure =>
      rw [made] at deployed
      cases deployed
    | ok registry =>
      obtain ⟨distinct, known⟩ := created.1 ⟨registry, made⟩
      exact ⟨distinct, known⟩
  · intro consistent
    obtain ⟨registry, made⟩ := created.2 ⟨consistent.distinct, consistent.known⟩
    rw [made]
    exact ⟨registry, rfl⟩

theorem holds_of_deploy {registry : Registry} (deployed : (config.deploy host).1 = .ok registry) :
    ∃ clients, buildAll host builtInTypes config.clients = .ok clients ∧
      registry.Holds config.callbackUrl clients := by
  cases built : buildAll host builtInTypes config.clients with
  | error failure =>
    unfold deploy at deployed
    rw [built] at deployed
    cases deployed
  | ok clients =>
    rw [deploy_of_buildAll built] at deployed
    cases made : (Registry.create config.callbackUrl clients config.defaultClient).1 with
    | error failure =>
      rw [made] at deployed
      cases deployed
    | ok created =>
      rw [made] at deployed
      cases deployed
      exact ⟨clients, rfl, Registry.holds_of_create (Prod.ext made rfl)⟩

theorem mem_clients_of_deploy {registry : Registry}
    (deployed : (config.deploy host).1 = .ok registry) {client : Client} :
    client ∈ registry.clients ↔
      ∃ settings ∈ config.clients, ∃ original, settings.build host builtInTypes = .ok original ∧
        client = Registry.adopt config.callbackUrl original := by
  obtain ⟨clients, built, holds⟩ := holds_of_deploy deployed
  rw [holds.clients, List.mem_map]
  constructor
  · rintro ⟨original, member, rfl⟩
    obtain ⟨settings, entry, made⟩ := (mem_of_buildAll built).1 member
    exact ⟨settings, entry, original, made, rfl⟩
  · rintro ⟨settings, entry, original, made, rfl⟩
    exact ⟨original, (mem_of_buildAll built).2 ⟨settings, entry, made⟩, rfl⟩

theorem isBuiltIn_of_deploy {registry : Registry} (deployed : (config.deploy host).1 = .ok registry)
    {client : Client} (member : client ∈ registry.clients) : client.handler.IsBuiltIn := by
  obtain ⟨settings, -, original, built, rfl⟩ := (mem_clients_of_deploy deployed).1 member
  exact (ClientSettings.describes_of_build built).isBuiltIn

end ClientsConfig

end SignOn
