import SignOn.Proofs.Deployment

/-!
Which configurations can be deployed. The secrets that an entry needs are those of its users and,
with a provider, those by which the provider knows the client. Where each of them is there or is
missing by a fault of the configuration, a configuration fails to be deployed by such a fault, and
exactly if it has one of four defects; without a defect every entry is a client of the registry.
-/

namespace SignOn

/-- The configuration is at fault. -/
def Failure.IsConfig (failure : Failure) : Prop := ∃ fault, failure = .config fault

theorem isOk_bind_iff {α β : Type} {first : Except Failure α} {next : α → Except Failure β} :
    (∃ b, (first >>= next) = .ok b) ↔ ∃ a, first = .ok a ∧ ∃ b, next a = .ok b := by
  constructor
  · rintro ⟨b, done⟩
    obtain ⟨a, started, rest⟩ := ok_of_bind done
    exact ⟨a, started, b, rest⟩
  · rintro ⟨a, started, b, rest⟩
    rw [started]
    exact ⟨b, rest⟩

/-- The secret that a source names is there. -/
def Resolves (host : Host) (source : String) : Prop :=
  ∃ secret, resolveSecret host source = .ok secret

variable {host : Host}

theorem resolveOptional_isOk_iff {source : Option String} :
    (∃ secret, resolveOptional host source = .ok secret) ↔
      ∀ given ∈ nonEmpty source, Resolves host given := by
  unfold resolveOptional
  split
  next empty =>
    rw [empty]
    simp
  next given named =>
    rw [named, isOk_bind_iff]
    simp [Resolves, pure, Except.pure]

theorem resolveUsers_isOk_iff {users : Entries String} :
    (∃ passwords, resolveUsers host users = .ok passwords) ↔
      ∀ source ∈ users.map (·.2), Resolves host source := by
  induction users with
  | nil => simp [resolveUsers]
  | cons first rest ih =>
    unfold resolveUsers
    rw [isOk_bind_iff, List.map_cons, List.forall_mem_cons, ← ih]
    constructor
    · rintro ⟨password, own, done⟩
      obtain ⟨others, further, -⟩ := isOk_bind_iff.1 done
      exact ⟨⟨password, own⟩, others, further⟩
    · rintro ⟨⟨password, own⟩, others, further⟩
      exact ⟨password, own, isOk_bind_iff.2 ⟨others, further, _, rfl⟩⟩

namespace ClientSettings

variable {types : Entries HandlerType} {settings : ClientSettings}

/-- The sources of the secrets that a client of the settings is built from. -/
def neededSources (settings : ClientSettings) : List String :=
  (match builtInTypes.get? settings.type with
    | some type => settings.handlerSources type
    | none => []) ++ settings.users.map (·.2)

theorem handler_isOk_iff {type : HandlerType} (fit : type ≠ .scripted) :
    (∃ handler, settings.handler host type = .ok handler) ↔
      ∀ source ∈ settings.handlerSources type, Resolves host source := by
  cases type with
  | form => simp [handler, handlerSources]
  | basic => simp [handler, handlerSources]
  | oauth2 =>
    have parts : (∃ handler, settings.handler host .oauth2 = .ok handler) ↔
        (∃ secret, resolveOptional host settings.clientIdSource = .ok secret) ∧
          ∃ secret, resolveOptional host settings.clientSecretSource = .ok secret := by
      unfold handler
      rw [isOk_bind_iff]
      constructor
      · rintro ⟨clientId, known, done⟩
        obtain ⟨clientSecret, proved, -⟩ := isOk_bind_iff.1 done
        exact ⟨⟨clientId, known⟩, clientSecret, proved⟩
      · rintro ⟨⟨clientId, known⟩, clientSecret, proved⟩
        exact ⟨clientId, known, isOk_bind_iff.2 ⟨clientSecret, proved, _, rfl⟩⟩
    rw [parts, resolveOptional_isOk_iff, resolveOptional_isOk_iff]
    unfold handlerSources
    simp only [List.mem_filterMap, List.mem_cons, List.not_mem_nil, or_false]
    constructor
    · rintro ⟨id, secret⟩ source ⟨named, rfl | rfl, given⟩
      · exact id source given
      · exact secret source given
    · intro all
      exact ⟨fun given named => all given ⟨_, Or.inl rfl, named⟩,
        fun given named => all given ⟨_, Or.inr rfl, named⟩⟩
  | scripted => exact absurd rfl fit

theorem listed_of_builtIn {type : HandlerType}
    (asked : builtInTypes.get? settings.type = some type) :
    (settings.type, type) ∈ builtInTypes := by
  obtain ⟨before, after, split, -⟩ := List.lookup_eq_some_iff.1 asked
  rw [split]
  exact List.mem_append_right before List.mem_cons_self

theorem fit_of_builtIn {type : HandlerType} (asked : builtInTypes.get? settings.type = some type) :
    type ≠ .scripted := by
  rintro rfl
  have offered : HandlerType.scripted ∈ builtInTypes.map (·.2) :=
    List.mem_map_of_mem (listed_of_builtIn asked)
  exact absurd offered (by decide)

theorem build_isOk_iff :
    (∃ client, settings.build host builtInTypes = .ok client) ↔
      builtInTypes.get? settings.type ≠ none ∧
        ∀ source ∈ settings.neededSources, Resolves host source := by
  unfold build neededSources
  cases asked : builtInTypes.get? settings.type with
  | none => simp
  | some type =>
    simp only [List.forall_mem_append, ← handler_isOk_iff (fit_of_builtIn asked),
      ← resolveUsers_isOk_iff]
    rw [isOk_bind_iff]
    constructor
    · rintro ⟨handler, made, done⟩
      obtain ⟨users, resolved, -⟩ := isOk_bind_iff.1 done
      exact ⟨Option.some_ne_none type, ⟨handler, made⟩, users, resolved⟩
    · rintro ⟨-, ⟨handler, made⟩, users, resolved⟩
      exact ⟨handler, made, isOk_bind_iff.2 ⟨users, resolved, _, rfl⟩⟩

theorem failsOnly_build_of_sources
    (fails : ∀ source ∈ settings.neededSources,
      FailsOnly Failure.IsConfig (resolveSecret host source)) :
    FailsOnly Failure.IsConfig (settings.build host builtInTypes) := by
  refine failsOnly_build_of (fun _ _ => ⟨_, rfl⟩) (fun _ => ⟨_, rfl⟩) fun type asked => ?_
  unfold neededSources at fails
  rw [asked] at fails
  exact fails

end ClientSettings

namespace ClientsConfig

variable {config : ClientsConfig}

/-- What keeps a configuration from being deployed. -/
inductive Defect (host : Host) (config : ClientsConfig) : Prop where
  | unknownType (settings : ClientSettings) (entry : settings ∈ config.clients)
      (unknown : builtInTypes.get? settings.type = none)
  | missingSecret (settings : ClientSettings) (entry : settings ∈ config.clients)
      (source : String) (needed : source ∈ settings.neededSources)
      (missing : ¬ Resolves host source)
  | sharedName (shared : ¬ (config.clients.map ClientSettings.effectiveName).Nodup)
  | unknownDefault (name : String) (given : config.defaultClient = some name)
      (unknown : name ∉ config.clients.map ClientSettings.effectiveName)

theorem buildAll_isOk_iff :
    (∃ clients, buildAll host builtInTypes config.clients = .ok clients) ↔
      ∀ settings ∈ config.clients, ∃ client, settings.build host builtInTypes = .ok client := by
  constructor
  · rintro ⟨clients, built⟩ settings entry
    exact build_of_buildAll built entry
  · intro each
    cases built : buildAll host builtInTypes config.clients with
    | ok clients => exact ⟨clients, rfl⟩
    | error failure =>
      obtain ⟨settings, entry, failed⟩ := build_of_buildAll_error built
      obtain ⟨client, made⟩ := each settings entry
      cases failed.symm.trans made

theorem deploy_isOk_iff_not_defect :
    (∃ registry, (config.deploy host).1 = .ok registry) ↔ ¬ config.Defect host := by
  constructor
  · rintro ⟨registry, deployed⟩ defect
    obtain ⟨clients, built, -⟩ := holds_of_deploy deployed
    have each := buildAll_isOk_iff.1 ⟨clients, built⟩
    have consistent := (deploy_isOk_iff built).1 ⟨registry, deployed⟩
    cases defect with
    | unknownType settings entry unknown =>
      exact (ClientSettings.build_isOk_iff.1 (each settings entry)).1 unknown
    | missingSecret settings entry source needed missing =>
      exact missing ((ClientSettings.build_isOk_iff.1 (each settings entry)).2 source needed)
    | sharedName shared => exact shared consistent.distinct
    | unknownDefault name given unknown => exact unknown (consistent.known name given)
  · intro sound
    have each : ∀ settings ∈ config.clients,
        ∃ client, settings.build host builtInTypes = .ok client := by
      refine fun settings entry => ClientSettings.build_isOk_iff.2 ⟨fun unknown => ?_, ?_⟩
      · exact sound (.unknownType settings entry unknown)
      · intro source needed
        by_contra missing
        exact sound (.missingSecret settings entry source needed missing)
    obtain ⟨clients, built⟩ := buildAll_isOk_iff.2 each
    refine (deploy_isOk_iff built).2 ⟨?_, fun name given => ?_⟩
    · by_contra shared
      exact sound (.sharedName shared)
    · by_contra unknown
      exact sound (.unknownDefault name given unknown)

theorem failsOnly_deploy_of {allowed : Failure → Prop} (faulty : ∀ fault, allowed (.config fault))
    (builds : ∀ settings ∈ config.clients, FailsOnly allowed (settings.build host builtInTypes)) :
    FailsOnly allowed (config.deploy host).1 := by
  cases built : buildAll host builtInTypes config.clients with
  | error failure =>
    unfold deploy
    rw [built]
    obtain ⟨settings, entry, failed⟩ := build_of_buildAll_error built
    exact failsOnly_error (builds settings entry failure failed)
  | ok clients =>
    rw [deploy_of_buildAll built]
    cases (Registry.create config.callbackUrl clients config.defaultClient).1 with
    | error fault => exact failsOnly_error (faulty fault)
    | ok registry => exact failsOnly_ok registry

/-- Where secrets are missing only by a fault of the configuration, nothing else keeps it from being
deployed. -/
theorem failsOnly_deploy
    (fails : ∀ settings ∈ config.clients, ∀ source ∈ settings.neededSources,
      FailsOnly Failure.IsConfig (resolveSecret host source)) :
    FailsOnly Failure.IsConfig (config.deploy host).1 :=
  failsOnly_deploy_of (fun fault => ⟨fault, rfl⟩) fun settings entry =>
    ClientSettings.failsOnly_build_of_sources (fails settings entry)

theorem clients_of_deploy {registry : Registry}
    (deployed : (config.deploy host).1 = .ok registry) :
    registry.names = config.clients.map ClientSettings.effectiveName ∧
      List.Forall₂ (fun settings client => ∃ original,
        settings.build host builtInTypes = .ok original ∧
          client = Registry.adopt config.callbackUrl original ∧
          registry.find settings.effectiveName = .ok client) config.clients registry.clients := by
  obtain ⟨clients, built, holds⟩ := holds_of_deploy deployed
  refine ⟨holds.names_eq.trans (names_of_buildAll built), ?_⟩
  have described : List.Forall₂ (fun settings client => settings ∈ config.clients ∧
      settings.build host builtInTypes = .ok client) config.clients clients :=
    (List.forall₂_and_left _ _).2 ⟨fun settings entry => entry, buildAll_eq_ok_iff.1 built⟩
  rw [holds.clients, List.forall₂_map_right_iff]
  refine described.imp fun settings original ⟨entry, made⟩ => ⟨original, made, rfl, ?_⟩
  rw [← ClientSettings.name_of_build made]
  exact holds.find ((mem_of_buildAll built).2 ⟨settings, entry, made⟩)

/-- A configuration whose secrets are there, or missing by a fault of the configuration, fails to be
deployed by such a fault if it has a defect. Otherwise its clients are those of its entries. -/
theorem deploy_fails_iff_defect
    (fails : ∀ settings ∈ config.clients, ∀ source ∈ settings.neededSources,
      FailsOnly Failure.IsConfig (resolveSecret host source)) :
    ((∃ fault, (config.deploy host).1 = .error (.config fault)) ↔ config.Defect host) ∧
      (¬ config.Defect host → ∃ registry, (config.deploy host).1 = .ok registry ∧
        registry.names = config.clients.map ClientSettings.effectiveName ∧
        List.Forall₂ (fun settings client => ∃ original,
          settings.build host builtInTypes = .ok original ∧
            client = Registry.adopt config.callbackUrl original ∧
            registry.find settings.effectiveName = .ok client)
          config.clients registry.clients) := by
  have sound : (∃ registry, (config.deploy host).1 = .ok registry) ↔ ¬ config.Defect host :=
    deploy_isOk_iff_not_defect
  refine ⟨⟨?_, fun defect => ?_⟩, fun whole => ?_⟩
  · rintro ⟨fault, failed⟩
    by_contra whole
    obtain ⟨registry, deployed⟩ := sound.2 whole
    cases failed.symm.trans deployed
  · cases deployed : (config.deploy host).1 with
    | ok registry => exact absurd defect (sound.1 ⟨registry, deployed⟩)
    | error failure =>
      obtain ⟨fault, rfl⟩ := failsOnly_deploy fails failure deployed
      exact ⟨fault, rfl⟩
  · obtain ⟨registry, deployed⟩ := sound.2 whole
    exact ⟨registry, deployed, clients_of_deploy deployed⟩

def besideUnnamed (name : String) : ClientsConfig where
  clients := [{ type := "basic", users := [("ann", "env:ANN")] },
    { type := "form", name := some name, loginUrl := some "/login" }]

theorem besideUnnamed_deployed :
    let host : Host := { environment := [("ANN", "s3cret")] }
    let clash := besideUnnamed "BasicAuthHandler"
    let fair := besideUnnamed "Form"
    (∀ settings ∈ clash.clients, ∀ source ∈ settings.neededSources,
        FailsOnly Failure.IsConfig (resolveSecret host source)) ∧
      (∃ fault, (clash.deploy host).1 = .error (.config fault)) ∧
      (∀ settings ∈ fair.clients, ∀ source ∈ settings.neededSources,
        FailsOnly Failure.IsConfig (resolveSecret host source)) ∧
      ∃ registry, (fair.deploy host).1 = .ok registry ∧
        registry.names = ["BasicAuthHandler", "Form"] ∧ registry.clients.length = 2 := by
  intro host clash fair
  have known (source : String) (same : source = "env:ANN") :
      FailsOnly Failure.IsConfig (resolveSecret host source) := by
    subst same
    exact failsOnly_ok "s3cret"
  have clashSources : ∀ settings ∈ clash.clients, ∀ source ∈ settings.neededSources,
      source = "env:ANN" := by decide
  have fairSources : ∀ settings ∈ fair.clients, ∀ source ∈ settings.neededSources,
      source = "env:ANN" := by decide
  have clashFails := fun settings entry source needed =>
    known source (clashSources settings entry source needed)
  have fairFails := fun settings entry source needed =>
    known source (fairSources settings entry source needed)
  have defect : clash.Defect host := .sharedName (by decide)
  have sound : ¬ fair.Defect host := deploy_isOk_iff_not_defect.1 ⟨_, rfl⟩
  obtain ⟨registry, deployed, names, clients⟩ := (deploy_fails_iff_defect fairFails).2 sound
  exact ⟨clashFails, (deploy_fails_iff_defect clashFails).1.2 defect, fairFails, registry, deployed,
    names, clients.length_eq.symm⟩

end ClientsConfig

end SignOn
