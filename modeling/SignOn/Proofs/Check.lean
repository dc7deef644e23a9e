import SignOn.Command.Run
import SignOn.Proofs.ConfigFile
import SignOn.Proofs.DeferredRedirect
import SignOn.Proofs.Deployment
import SignOn.Terminal.Screen

/-!
What the check of a configuration is worth. It builds the clients of the entries one by one and
looks at each of them alone. What it passes can be deployed as long as the names agree, and is
ready for use once it is deployed. What it complains of fails to deploy or to get ready, but for
some callback URLs that the check holds to be missing and the registry settles.
-/

namespace SignOn

namespace Registry

variable {shared : Option String} {client : Client}

theorem isAbsentOrBlank_sharedCallback :
    Text.isAbsentOrBlank (sharedCallback shared client) = true ↔
      Text.isAbsentOrBlank (effectiveCallback shared client) = true ∧
        (effectiveCallback shared client = none ∨ client.includesName = false) := by
  rw [sharedCallback_eq]
  cases effectiveCallback shared client with
  | none => simp [Text.isAbsentOrBlank]
  | some url =>
    simp only [Option.map_some, Text.isAbsentOrBlank, reduceCtorEq, false_or]
    cases blank : Text.isBlank url with
    | true =>
      rw [Url.hasParameter_of_isBlank blank]
      cases client.includesName with
      | true => simp [Url.isBlank_addParameter]
      | false => simp [blank]
    | false =>
      split
      · simp [Url.isBlank_addParameter]
      · simp [blank]

end Registry

namespace ClientSettings

/-- The registry settles a callback URL where the check sees none. One that is made of blank
characters is the callback URL of an entry for the check, while the registry takes the shared one in
its place; and to a shared one of that kind, or an empty one, the registry adds the name of the
client. -/
def Rescued (shared : Option String) (settings : ClientSettings) : Prop :=
  Text.isAbsentOrBlank settings.callbackUrl = true ∧
    ((nonEmpty settings.callbackUrl ≠ none ∧ Text.isAbsentOrBlank shared = false) ∨
      (settings.includesName = true ∧ ∃ url, shared = some url ∧ Text.isBlank url = true))

variable {host : Host} {types : Entries HandlerType} {shared : Option String}
  {settings : ClientSettings} {client : Client}

theorem isAbsentOrBlank_nonEmpty (text : Option String) :
    Text.isAbsentOrBlank (nonEmpty text) = Text.isAbsentOrBlank text := by
  unfold nonEmpty
  split <;> rfl

theorem nonEmpty_nonEmpty (text : Option String) : nonEmpty (nonEmpty text) = nonEmpty text := by
  cases text with
  | none => rfl
  | some given =>
    by_cases empty : given = ""
    · subst empty
      rfl
    · rw [nonEmpty_of_ne empty, nonEmpty_of_ne empty]

/-- Where the check finds a callback URL, the registry does too; where it finds none, the registry
may yet settle one. -/
theorem lacksCallback_adopt (describes : settings.Describes host types client) :
    (Registry.adopt shared client).lacksCallback = true ↔
      Command.lacksCallback shared client = true ∧ ¬ settings.Rescued shared := by
  have direct : (Registry.adopt shared client).isDirect = client.isDirect := rfl
  have kept : (Registry.adopt shared client).callbackUrl =
    Registry.sharedCallback shared client := rfl
  have same := isAbsentOrBlank_nonEmpty settings.callbackUrl
  unfold Client.lacksCallback Command.lacksCallback Rescued
  rw [direct, kept, Bool.and_eq_true, Registry.isAbsentOrBlank_sharedCallback,
    Bool.and_eq_true]
  unfold Registry.effectiveCallback
  rw [describes.callbackUrl, describes.includesName, nonEmpty_nonEmpty, ← same]
  cases nonEmpty settings.callbackUrl with
  | none =>
    cases shared <;> cases settings.includesName <;> simp [Text.isAbsentOrBlank]
  | some own =>
    cases blank : Text.isBlank own
    · simp [Text.isAbsentOrBlank, blank]
    · cases shared <;> cases settings.includesName <;> simp [Text.isAbsentOrBlank, blank]

end ClientSettings

namespace Command

variable {host : Host} {shared : Option String} {settings : ClientSettings} {client : Client}
  {entries : List ClientSettings} {found own : List String} {problem : String} {index : Nat}

theorem entryProblems_eq_ok (inspected : entryProblems host shared settings = .ok own) :
    (∃ client, settings.build host builtInTypes = .ok client ∧ own = clientProblems shared client) ∨
      ∃ fault, settings.build host builtInTypes = .error (.config fault) ∧
        own = [reportText (.config fault)] := by
  unfold entryProblems at inspected
  cases built : settings.build host builtInTypes with
  | ok client =>
    rw [built] at inspected
    cases inspected
    exact Or.inl ⟨client, rfl, rfl⟩
  | error failure =>
    rw [built] at inspected
    simp only at inspected
    split at inspected
    next known =>
      cases inspected
      rcases settings.failsOnly_build host builtInTypes failure built with unknown | ⟨fault, rfl⟩
      · rw [unknown] at known
        cases known
      · exact Or.inr ⟨fault, rfl, rfl⟩
    · cases inspected

/-- What the check finds is what it finds of the entries, each problem under the label of its
entry. -/
theorem mem_problems (inspected : problems host shared index entries = .ok found) :
    problem ∈ found ↔
      ∃ place settings own fault, entries[place]? = some settings ∧
        entryProblems host shared settings = .ok own ∧ fault ∈ own ∧
        problem = entryLabel (index + place) settings ++ ": " ++ fault := by
  induction entries generalizing index found with
  | nil =>
    cases inspected
    simp
  | cons settings rest ih =>
    obtain ⟨own, first, inspected⟩ := ok_of_bind inspected
    obtain ⟨others, further, inspected⟩ := ok_of_bind inspected
    cases inspected
    rw [List.mem_append, ih further, List.mem_map]
    constructor
    · rintro (⟨fault, member, rfl⟩ | ⟨place, settings, own, fault, here, rest⟩)
      · exact ⟨0, settings, own, fault, rfl, first, member, rfl⟩
      · rw [Nat.add_assoc, Nat.add_comm 1] at rest
        exact ⟨place + 1, settings, own, fault, here, rest⟩
    · rintro ⟨place, settings, own, fault, here, looked, member, rfl⟩
      cases place with
      | zero =>
        cases here
        cases looked.symm.trans first
        exact Or.inl ⟨fault, member, rfl⟩
      | succ place =>
        refine Or.inr ⟨place, settings, own, fault, here, looked, member, ?_⟩
        rw [Nat.add_assoc, Nat.add_comm 1]

theorem inspected_of_mem (inspected : problems host shared index entries = .ok found)
    (member : settings ∈ entries) : ∃ own, entryProblems host shared settings = .ok own := by
  induction entries generalizing index found with
  | nil => cases member
  | cons first rest ih =>
    obtain ⟨own, here, inspected⟩ := ok_of_bind inspected
    obtain ⟨others, further, -⟩ := ok_of_bind inspected
    rcases List.mem_cons.1 member with rfl | later
    · exact ⟨own, here⟩
    · exact ih further later

theorem clientProblems_eq_nil_iff :
    clientProblems shared client = [] ↔
      client.handler.problems = [] ∧ lacksCallback shared client = false := by
  unfold clientProblems
  cases lacksCallback shared client <;> simp

theorem client_of_passed (passed : problems host shared index entries = .ok [])
    (member : settings ∈ entries) :
    ∃ client, settings.build host builtInTypes = .ok client ∧
      client.handler.problems = [] ∧ lacksCallback shared client = false := by
  obtain ⟨own, inspected⟩ := inspected_of_mem passed member
  have clean : own = [] := by
    refine List.eq_nil_iff_forall_not_mem.2 fun fault inside => ?_
    obtain ⟨place, here⟩ := List.getElem?_of_mem member
    exact List.not_mem_nil ((mem_problems passed).2
      ⟨place, settings, own, fault, here, inspected, inside, rfl⟩)
  rcases entryProblems_eq_ok inspected with ⟨client, built, rfl⟩ | ⟨fault, -, rfl⟩
  · exact ⟨client, built, clientProblems_eq_nil_iff.1 clean⟩
  · cases clean

theorem config_of_buildAll_error {failure : Failure}
    (inspected : problems host shared index entries = .ok found)
    (failed : ClientsConfig.buildAll host builtInTypes entries = .error failure) :
    ∃ fault, failure = .config fault := by
  obtain ⟨settings, member, culprit⟩ := ClientsConfig.build_of_buildAll_error failed
  obtain ⟨own, looked⟩ := inspected_of_mem inspected member
  rcases entryProblems_eq_ok looked with ⟨client, built, -⟩ | ⟨fault, failed, -⟩
  · cases culprit.symm.trans built
  · cases culprit.symm.trans failed
    exact ⟨fault, rfl⟩

theorem config_of_deploy_error {config : ClientsConfig} {failure : Failure}
    (inspected : configProblems host config = .ok found)
    (failed : (config.deploy host).1 = .error failure) : ∃ fault, failure = .config fault := by
  cases built : ClientsConfig.buildAll host builtInTypes config.clients with
  | error other =>
    unfold ClientsConfig.deploy at failed
    rw [built] at failed
    cases failed
    exact config_of_buildAll_error inspected built
  | ok clients =>
    rw [ClientsConfig.deploy_of_buildAll built] at failed
    obtain ⟨fault, -, rfl⟩ := error_of_mapError failed
    exact ⟨fault, rfl⟩

theorem buildAll_of_passed {config : ClientsConfig}
    (passed : configProblems host config = .ok []) :
    ∃ clients, ClientsConfig.buildAll host builtInTypes config.clients = .ok clients := by
  cases built : ClientsConfig.buildAll host builtInTypes config.clients with
  | ok clients => exact ⟨clients, rfl⟩
  | error failure =>
    obtain ⟨settings, member, failed⟩ := ClientsConfig.build_of_buildAll_error built
    obtain ⟨client, made, -⟩ := client_of_passed passed member
    cases failed.symm.trans made

theorem rescued_of_usable (built : settings.build host builtInTypes = .ok client)
    (usable : (Registry.adopt shared client).Usable) {fault : String}
    (complaint : fault ∈ clientProblems shared client) :
    settings.Rescued shared ∧ fault = "indirect client needs a callback URL" := by
  have fit : client.handler.problems = [] := usable.settings
  unfold clientProblems at complaint
  rw [fit, List.nil_append] at complaint
  cases lacks : lacksCallback shared client with
  | false =>
    rw [lacks] at complaint
    cases complaint
  | true =>
    rw [lacks, if_pos rfl, List.mem_singleton] at complaint
    refine ⟨?_, complaint⟩
    by_contra unsettled
    have missing := (ClientSettings.lacksCallback_adopt
      (ClientSettings.describes_of_build built)).2 ⟨lacks, unsettled⟩
    rw [usable.callback] at missing
    cases missing

theorem rescued_of_deploy {config : ClientsConfig} {registry : Registry}
    (inspected : configProblems host config = .ok found)
    (deployed : (config.deploy host).1 = .ok registry)
    (usable : ∀ client ∈ registry.clients, client.Usable) (told : problem ∈ found) :
    ∃ place settings, config.clients[place]? = some settings ∧
      settings.Rescued config.callbackUrl ∧
      problem = entryLabel place settings ++ ": " ++ "indirect client needs a callback URL" := by
  obtain ⟨place, settings, own, fault, here, looked, inside, rfl⟩ :=
    (mem_problems inspected).1 told
  have entry : settings ∈ config.clients := List.mem_of_getElem? here
  obtain ⟨clients, made, -⟩ := ClientsConfig.holds_of_deploy deployed
  obtain ⟨client, built⟩ := ClientsConfig.build_of_buildAll made entry
  rcases entryProblems_eq_ok looked with ⟨same, again, rfl⟩ | ⟨other, failed, -⟩
  · cases again.symm.trans built
    have registered := (ClientsConfig.mem_clients_of_deploy deployed).2
      ⟨settings, entry, client, built, rfl⟩
    obtain ⟨rescued, rfl⟩ := rescued_of_usable built (usable _ registered) inside
    rw [Nat.zero_add]
    exact ⟨place, settings, here, rescued, rfl⟩
  · cases failed.symm.trans built

section Commands

variable {tools : Toolkit} {printer : Printer} {onTerminal : Bool} {entropy : Entropy}
  {options : Settings} {arguments : List String} {config : ClientsConfig} {ended : Ended}

theorem run_of_understood {task : Task}
    (understood : Invocation.ofArguments arguments = .ok (.run options task))
    (settled : Printer.ofStyle tools.openScreen host onTerminal options.style = .ok printer) :
    run tools host onTerminal entropy arguments =
      (runTask tools.read host printer entropy options task).map .ended := by
  unfold run
  rw [understood]
  simp only [settled, bind, Except.bind]

theorem run_of_unsettled {task : Task} {failure : Failure}
    (understood : Invocation.ofArguments arguments = .ok (.run options task))
    (unsettled : Printer.ofStyle tools.openScreen host onTerminal options.style =
      .error failure) :
    run tools host onTerminal entropy arguments = .error failure := by
  unfold run
  rw [understood]
  simp only [unsettled, bind, Except.bind]

theorem carried_of_run {task : Task} {ending : Ending}
    (understood : Invocation.ofArguments arguments = .ok (.run options task))
    (came : run tools host onTerminal entropy arguments = .ok ending) :
    ∃ printer ended,
      Printer.ofStyle tools.openScreen host onTerminal options.style = .ok printer ∧
      runTask tools.read host printer entropy options task = .ok ended ∧
      ending = .ended ended := by
  cases settled : Printer.ofStyle tools.openScreen host onTerminal options.style with
  | error failure =>
    rw [run_of_unsettled understood settled] at came
    cases came
  | ok printer =>
    rw [run_of_understood understood settled] at came
    obtain ⟨ended, carried, same⟩ := ok_of_map came
    exact ⟨printer, ended, rfl, carried, same⟩

theorem exitCode_checked (printer : Printer) (count : Nat) (found : List String) :
    (checked printer count found).exitCode = 0 ↔ found = [] := by
  cases found with
  | nil => simp [checked]
  | cons first rest => simp [checked, misconfigured, Category.exitCode]

theorem runTask_check (loaded : ConfigFile.load tools.read host options.configPath = .ok config) :
    runTask tools.read host printer entropy options .check =
      (configProblems host config).map (checked printer config.clients.length) := by
  change runCheck tools.read host printer options = _
  unfold runCheck
  rw [loaded]

theorem checked_of_run {ending : Ending}
    (understood : Invocation.ofArguments arguments = .ok (.run options .check))
    (loaded : ConfigFile.load tools.read host options.configPath = .ok config)
    (came : run tools host onTerminal entropy arguments = .ok ending) :
    ∃ printer found,
      Printer.ofStyle tools.openScreen host onTerminal options.style = .ok printer ∧
      configProblems host config = .ok found ∧
      ending = .ended (checked printer config.clients.length found) := by
  obtain ⟨printer, ended, settled, carried, rfl⟩ := carried_of_run understood came
  rw [runTask_check loaded] at carried
  obtain ⟨found, inspected, rfl⟩ := ok_of_map carried
  exact ⟨printer, found, settled, inspected, rfl⟩

theorem found_of_check (understood : Invocation.ofArguments arguments = .ok (.run options .check))
    (loaded : ConfigFile.load tools.read host options.configPath = .ok config)
    (done : run tools host onTerminal entropy arguments = .ok (.ended ended)) :
    ∃ found, configProblems host config = .ok found ∧ (ended.exitCode = 0 ↔ found = []) := by
  obtain ⟨printer, found, -, inspected, ⟨⟩⟩ := checked_of_run understood loaded done
  exact ⟨found, inspected, exitCode_checked printer config.clients.length found⟩

theorem passed_of_check (understood : Invocation.ofArguments arguments = .ok (.run options .check))
    (done : run tools host onTerminal entropy arguments = .ok (.ended ended))
    (clean : ended.exitCode = 0) :
    ∃ config, ConfigFile.load tools.read host options.configPath = .ok config ∧
      configProblems host config = .ok [] := by
  cases loaded : ConfigFile.load tools.read host options.configPath with
  | error failure =>
    obtain ⟨printer, _, -, carried, ⟨⟩⟩ := carried_of_run understood done
    unfold runTask runCheck conclude at carried
    rw [loaded] at carried
    simp only at carried
    split at carried
    next category _ =>
      cases carried
      cases category <;> cases clean
    · cases carried
  | ok config =>
    obtain ⟨found, inspected, empty⟩ := found_of_check understood loaded done
    rw [empty.1 clean] at inspected
    exact ⟨config, rfl, inspected⟩

theorem emit_eq_ok {text : String} (legible : text.toList.all printer.encodes = true) :
    printer.emit text = .ok { stdout := text } := if_pos legible

theorem emit_eq_error {text : String} (illegible : ¬ text.toList.all printer.encodes = true) :
    printer.emit text = .error (.escaped "UnicodeEncodeError") := if_neg illegible

/-- Why a table cannot be shown, with the exception that says so: as a drawing the package refuses
it, or standard output has no code for one of its characters. -/
inductive Unshown (printer : Printer) (table : Table) : String → Prop where
  | refused (exception : String) (drawn : printer.format = .rich)
      (raised : printer.screen.table table = .error exception) : Unshown printer table exception
  | illegible (text : String) (made : printer.tableText table = .ok text)
      (lost : ¬ text.toList.all printer.encodes = true) :
      Unshown printer table "UnicodeEncodeError"

theorem print_table (printer : Printer) (table : Table) :
    printer.print (.table table) = printer.tableText table >>= printer.emit := rfl

theorem tableText_eq_error {table : Table} {failure : Failure}
    (unmade : printer.tableText table = .error failure) :
    ∃ exception, failure = .escaped exception ∧ Unshown printer table exception := by
  unfold Printer.tableText at unmade
  cases format : printer.format with
  | rich =>
    rw [format] at unmade
    obtain ⟨exception, raised, rfl⟩ := error_of_mapError unmade
    exact ⟨exception, rfl, .refused exception format raised⟩
  | _ =>
    rw [format] at unmade
    cases unmade

theorem shown_or_unshown (printer : Printer) (table : Table) :
    (∃ written, printer.print (.table table) = .ok written) ∨
      ∃ exception, printer.print (.table table) = .error (.escaped exception) ∧
        Unshown printer table exception := by
  rw [print_table]
  cases made : printer.tableText table with
  | ok text =>
    change (∃ written, printer.emit text = _) ∨ ∃ exception, printer.emit text = _ ∧ _
    by_cases legible : text.toList.all printer.encodes = true
    · exact Or.inl ⟨_, emit_eq_ok legible⟩
    · exact Or.inr ⟨_, emit_eq_error legible, .illegible text made legible⟩
  | error failure =>
    obtain ⟨exception, rfl, reason⟩ := tableText_eq_error made
    exact Or.inr ⟨exception, rfl, reason⟩

theorem loadRegistry_of_loaded {read : ConfigFile.Reader}
    (loaded : ConfigFile.load read host options.configPath = .ok config) :
    loadRegistry read host options = config.deploy host := by
  unfold loadRegistry
  rw [loaded]

section

variable {registry : Registry}
  (understood : Invocation.ofArguments arguments = .ok (.run options .clients))
  (settled : Printer.ofStyle tools.openScreen host onTerminal options.style = .ok printer)
  (loaded : ConfigFile.load tools.read host options.configPath = .ok config)
  (deployed : (config.deploy host).1 = .ok registry)

include understood settled loaded deployed

theorem run_clients : run tools host onTerminal entropy arguments =
    ((conclude printer ((printer.print (listMessage registry.clients)).map fun written =>
      { exitCode := 0, written })).map (Ended.logging printer (config.deploy host).2)).map
        .ended := by
  have registered : loadRegistry tools.read host options =
      (.ok registry, (config.deploy host).2) :=
    (loadRegistry_of_loaded loaded).trans (Prod.ext deployed rfl)
  rw [run_of_understood understood settled]
  change (runClients tools.read host printer options).map _ = _
  unfold runClients
  rw [registered]
  rfl

/-- The clients of a configuration that can be deployed are listed, where they can be shown. -/
theorem listed_of_deploy :
    (∃ listed, run tools host onTerminal entropy arguments = .ok (.ended listed) ∧
        listed.exitCode = 0) ∨
      ∃ exception, run tools host onTerminal entropy arguments = .error (.escaped exception) ∧
        Unshown printer (clientTable registry.clients) exception := by
  rw [run_clients understood settled loaded deployed]
  unfold listMessage
  split
  · exact Or.inl ⟨_, rfl, rfl⟩
  · rcases shown_or_unshown printer (clientTable registry.clients) with
      ⟨written, shown⟩ | ⟨exception, unshown, reason⟩
    · rw [shown]
      exact Or.inl ⟨_, rfl, rfl⟩
    · rw [unshown]
      exact Or.inr ⟨exception, rfl, reason⟩

end

/-- A configuration that the check ends well with is served exactly where its names agree: no two
entries have one name, be it that of their handler, and the default client is an entry. The check
looks at neither. What is served is listed, unless it cannot be shown. -/
theorem served_iff_consistent
    (understood : Invocation.ofArguments arguments = .ok (.run options .check))
    (done : run tools host onTerminal entropy arguments = .ok (.ended ended))
    (clean : ended.exitCode = 0) :
    ∃ config, ConfigFile.load tools.read host options.configPath = .ok config ∧
      (config.Consistent → ∃ registry, (config.deploy host).1 = .ok registry ∧
        registry.names = config.clients.map ClientSettings.effectiveName ∧
        ∀ others, Invocation.ofArguments others = .ok (.run options .clients) →
          (∃ listed, run tools host onTerminal entropy others = .ok (.ended listed) ∧
            listed.exitCode = 0) ∨
          ∃ printer exception,
            Printer.ofStyle tools.openScreen host onTerminal options.style = .ok printer ∧
            run tools host onTerminal entropy others = .error (.escaped exception) ∧
            Unshown printer (clientTable registry.clients) exception) ∧
      (¬ config.Consistent → ∃ fault, (config.deploy host).1 = .error (.config fault)) := by
  obtain ⟨config, loaded, passed⟩ := passed_of_check understood done clean
  obtain ⟨clients, built⟩ := buildAll_of_passed passed
  have agreed := ClientsConfig.deploy_isOk_iff built
  refine ⟨config, loaded, fun consistent => ?_, fun inconsistent => ?_⟩
  · obtain ⟨registry, deployed⟩ := agreed.2 consistent
    obtain ⟨originals, made, holds⟩ := ClientsConfig.holds_of_deploy deployed
    obtain ⟨printer, _, settled, -⟩ := carried_of_run understood done
    refine ⟨registry, deployed, ?_, fun others asked => ?_⟩
    · rw [holds.names_eq, ClientsConfig.names_of_buildAll made]
    · exact (listed_of_deploy asked settled loaded deployed).imp_right
        fun ⟨exception, failed, unshown⟩ => ⟨printer, exception, settled, failed, unshown⟩
  · cases deployed : (config.deploy host).1 with
    | ok registry => exact absurd (agreed.1 ⟨registry, deployed⟩) inconsistent
    | error failure =>
      obtain ⟨fault, rfl⟩ := config_of_deploy_error passed deployed
      exact ⟨fault, rfl⟩

def stillEntropy : Entropy := ⟨fun _ => 0, 0⟩

theorem ofArguments_check : Invocation.ofArguments ["check"] = .ok (.run {} .check) := rfl

theorem ofArguments_clients : Invocation.ofArguments ["clients"] = .ok (.run {} .clients) := rfl

theorem settled_keeping (config : ClientsConfig) :
    ∃ printer, Printer.ofStyle Terminal.toolkit.openScreen (ConfigFile.keeping config) false
      ({} : Settings).style = .ok printer ∧ printer.format = .plain ∧
        printer.encodes = fun _ => true := ⟨_, rfl, rfl, rfl⟩

theorem check_of_keeping (entropy : Entropy)
    (bare : ∀ settings ∈ config.clients, settings.users = [] ∧ settings.extras = [])
    (inspected : configProblems (ConfigFile.keeping config) config = .ok found) :
    ∃ ended, run Terminal.toolkit (ConfigFile.keeping config) false entropy ["check"] =
      .ok (.ended ended) ∧ (ended.exitCode = 0 ↔ found = []) := by
  have loaded : ConfigFile.load Terminal.toolkit.read (ConfigFile.keeping config)
      ({} : Settings).configPath = .ok config := ConfigFile.load_keeping_of_bare bare
  obtain ⟨printer, settled, -⟩ := settled_keeping config
  refine ⟨checked printer config.clients.length found, ?_, exitCode_checked _ _ _⟩
  rw [run_of_understood ofArguments_check settled, runTask_check loaded, inspected]
  rfl

def neighbourConfig : ClientsConfig where
  callbackUrl := some "/callback"
  defaultClient := some "BasicAuthHandler"
  clients := [{ type := "basic", name := some " " },
    { type := "form", name := some "BasicAuthHandler2", loginUrl := some "/login" }]

theorem neighbourConfig_served :
    let host := ConfigFile.keeping neighbourConfig
    ∃ ended, Invocation.ofArguments ["check"] = .ok (.run {} .check) ∧
      run Terminal.toolkit host false stillEntropy ["check"] = .ok (.ended ended) ∧
      ended.exitCode = 0 ∧
      ∃ config registry,
        ConfigFile.load Terminal.toolkit.read host ({} : Settings).configPath = .ok config ∧
        config.Consistent ∧ (config.deploy host).1 = .ok registry ∧
        registry.names = ["BasicAuthHandler", "BasicAuthHandler2"] ∧
        ∃ listed, run Terminal.toolkit host false stillEntropy ["clients"] =
          .ok (.ended listed) ∧ listed.exitCode = 0 := by
  intro host
  have bare : ∀ settings ∈ neighbourConfig.clients,
      settings.users = [] ∧ settings.extras = [] := by
    simp [neighbourConfig]
  have loaded : ConfigFile.load Terminal.toolkit.read host ({} : Settings).configPath =
      .ok neighbourConfig := ConfigFile.load_keeping_of_bare bare
  obtain ⟨ended, done, clean⟩ := check_of_keeping stillEntropy bare rfl
  obtain ⟨config, again, served, -⟩ :=
    served_iff_consistent ofArguments_check done (clean.2 rfl)
  cases again.symm.trans loaded
  have consistent : neighbourConfig.Consistent := by
    constructor
    · decide
    · decide
  obtain ⟨registry, deployed, named, listing⟩ := served consistent
  refine ⟨ended, ofArguments_check, done, clean.2 rfl, _, registry, loaded, consistent, deployed,
    named, ?_⟩
  rcases listing ["clients"] ofArguments_clients with listed | ⟨printer, exception, settled, -, lost⟩
  · exact listed
  · obtain ⟨plain, again, format, encodes⟩ := settled_keeping neighbourConfig
    cases settled.symm.trans again
    cases lost with
    | refused _ drawn => cases format.symm.trans drawn
    | illegible text _ lost =>
      rw [encodes] at lost
      simp at lost

def namesakes : ClientsConfig := { clients := [{ type := "basic" }, { type := "basic" }] }

theorem namesakes_not_served :
    ¬ ∀ (host : Host) (onTerminal : Bool) (entropy : Entropy) (arguments : List String)
        (options : Settings) (ended : Ended),
      Invocation.ofArguments arguments = .ok (.run options .check) →
      run Terminal.toolkit host onTerminal entropy arguments = .ok (.ended ended) →
      ended.exitCode = 0 →
      ∃ config, ConfigFile.load Terminal.toolkit.read host options.configPath = .ok config ∧
        ∃ registry, (config.deploy host).1 = .ok registry := by
  intro claim
  have bare : ∀ settings ∈ namesakes.clients, settings.users = [] ∧ settings.extras = [] := by
    simp [namesakes]
  have loaded : ConfigFile.load Terminal.toolkit.read (ConfigFile.keeping namesakes)
      ({} : Settings).configPath = .ok namesakes := ConfigFile.load_keeping_of_bare bare
  obtain ⟨ended, done, clean⟩ := check_of_keeping stillEntropy bare rfl
  obtain ⟨config, again, registry, deployed⟩ :=
    claim _ _ _ _ _ _ ofArguments_check done (clean.2 rfl)
  cases again.symm.trans loaded
  have refused : (namesakes.deploy (ConfigFile.keeping namesakes)).1 =
      .error (.config (.duplicateName "BasicAuthHandler")) := rfl
  cases refused.symm.trans deployed

end Commands

/-- A configuration that the check finds nothing wrong with is ready for use once it is deployed:
each of its clients gets ready, and none of its operations finds a fault of the set-up. -/
theorem ready_of_passed {config : ClientsConfig} {registry : Registry}
    (deployed : (config.deploy host).1 = .ok registry)
    (passed : configProblems host config = .ok []) (member : client ∈ registry.clients) :
    (∀ state, (client.init state).1 = .ok ()) ∧
      ∀ request operation state failure,
        (client.perform request operation state).1 = .error failure → ¬ failure.IsUsage := by
  obtain ⟨settings, entry, original, built, rfl⟩ :=
    (ClientsConfig.mem_clients_of_deploy deployed).1 member
  obtain ⟨checked, made, fit, reachable⟩ := client_of_passed passed entry
  cases built.symm.trans made
  have describes := ClientSettings.describes_of_build built
  have usable : (Registry.adopt config.callbackUrl original).Usable := by
    refine ⟨eq_false_of_ne_true fun lacks => ?_, fit⟩
    have found := ((ClientSettings.lacksCallback_adopt describes).1 lacks).1
    rw [reachable] at found
    cases found
  have ready := Client.init_of_usable (ClientsConfig.isBuiltIn_of_deploy deployed member) usable
  refine ⟨ready, fun request operation state failure failed usage => ?_⟩
  cases (ready state).symm.trans (Client.init_of_usage failed usage)

def providerSettings : ClientSettings where
  type := "oauth2"
  authorizationUrl := some "https://provider.test/authorize"
  tokenUrl := some "https://provider.test/token"
  userinfoUrl := some "https://provider.test/user"
  clientIdSource := some "env:APP_ID"
  clientSecretSource := some "env:APP_SECRET"

def providerConfig : ClientsConfig :=
  { callbackUrl := some "/callback", clients := [providerSettings] }

theorem providerConfig_ready :
    let host : Host := { environment := [("APP_ID", "app"), ("APP_SECRET", "s3cret")] }
    ∃ registry client, (providerConfig.deploy host).1 = .ok registry ∧
      configProblems host providerConfig = .ok [] ∧ client ∈ registry.clients ∧
      client.callbackUrl = some "/callback?client_name=OAuth2Handler" ∧
      (∀ state, (client.init state).1 = .ok ()) ∧
      ∀ request operation state failure,
        (client.perform request operation state).1 = .error failure → ¬ failure.IsUsage := by
  intro host
  have deployed : (providerConfig.deploy host).1 = .ok _ := rfl
  have passed : configProblems host providerConfig = .ok [] := rfl
  have ready := ready_of_passed deployed passed List.mem_cons_self
  exact ⟨_, _, deployed, passed, List.mem_cons_self, by decide +kernel, ready⟩

section Commands

variable {tools : Toolkit} {onTerminal : Bool} {entropy : Entropy} {options : Settings}
  {arguments : List String} {config : ClientsConfig} {ended : Ended}

/-- What the check complains of fails: the configuration cannot be deployed, or one of its clients
never gets ready. The only complaints without that end are of callback URLs that the registry
settles; then every client gets ready. -/
theorem refused_or_rescued
    (understood : Invocation.ofArguments arguments = .ok (.run options .check))
    (loaded : ConfigFile.load tools.read host options.configPath = .ok config)
    (done : run tools host onTerminal entropy arguments = .ok (.ended ended))
    (alarmed : ended.exitCode ≠ 0) :
    ∃ found, configProblems host config = .ok found ∧ found ≠ [] ∧
      ((∃ fault, (config.deploy host).1 = .error (.config fault)) ∨
        ∃ registry, (config.deploy host).1 = .ok registry ∧
          ((∃ client ∈ registry.clients, ∀ state, state.progress.initialized = false →
              ∃ failure, (client.init state).1 = .error failure ∧ failure.IsUsage) ∨
            ((∀ problem ∈ found, ∃ place settings, config.clients[place]? = some settings ∧
                settings.Rescued config.callbackUrl ∧
                problem = entryLabel place settings ++
                  ": " ++ "indirect client needs a callback URL") ∧
              ∀ client ∈ registry.clients, ∀ state, (client.init state).1 = .ok ()))) := by
  obtain ⟨found, inspected, empty⟩ := found_of_check understood loaded done
  refine ⟨found, inspected, mt empty.2 alarmed, ?_⟩
  cases deployed : (config.deploy host).1 with
  | error failure =>
    obtain ⟨fault, rfl⟩ := config_of_deploy_error inspected deployed
    exact Or.inl ⟨fault, rfl⟩
  | ok registry =>
    refine Or.inr ⟨registry, rfl, ?_⟩
    have builtIn {client : Client} (member : client ∈ registry.clients) :
        client.handler.IsBuiltIn := ClientsConfig.isBuiltIn_of_deploy deployed member
    by_cases usable : ∀ client ∈ registry.clients, client.Usable
    · refine Or.inr ⟨fun problem told => rescued_of_deploy inspected deployed usable told, ?_⟩
      intro client member
      exact Client.init_of_usable (builtIn member) (usable client member)
    · simp only [not_forall] at usable
      obtain ⟨client, member, unusable⟩ := usable
      refine Or.inl ⟨client, member, fun state fresh => ?_⟩
      exact Client.init_of_not_usable (builtIn member) unusable fresh

def pagelessConfig : ClientsConfig where
  callbackUrl := some "/callback"
  clients := [{ type := "form" }]

theorem pagelessConfig_refused :
    let host := ConfigFile.keeping pagelessConfig
    Invocation.ofArguments ["check"] = .ok (.run {} .check) ∧
      ConfigFile.load Terminal.toolkit.read host ({} : Settings).configPath = .ok pagelessConfig ∧
      ∃ ended, run Terminal.toolkit host false stillEntropy ["check"] = .ok (.ended ended) ∧
        ended.exitCode ≠ 0 ∧
        ∃ registry, (pagelessConfig.deploy host).1 = .ok registry ∧
          ∃ client ∈ registry.clients, ∀ state, state.progress.initialized = false →
            ∃ failure, (client.init state).1 = .error failure ∧ failure.IsUsage := by
  intro host
  have bare : ∀ settings ∈ pagelessConfig.clients, settings.users = [] ∧ settings.extras = [] := by
    simp [pagelessConfig]
  have loaded : ConfigFile.load Terminal.toolkit.read host ({} : Settings).configPath =
      .ok pagelessConfig := ConfigFile.load_keeping_of_bare bare
  have inspected : configProblems host pagelessConfig =
      .ok ["#1 (form): Form login requires 'login_url'"] := rfl
  obtain ⟨ended, done, clean⟩ := check_of_keeping stillEntropy bare inspected
  have alarmed := mt clean.1 (List.cons_ne_nil _ _)
  obtain ⟨-, -, -, ⟨fault, failed⟩ | ⟨registry, deployed, refused | ⟨-, ready⟩⟩⟩ :=
    refused_or_rescued ofArguments_check loaded done alarmed
  · cases failed
  · exact ⟨ofArguments_check, loaded, _, done, alarmed, registry, deployed, refused⟩
  · cases deployed
    cases ready _ List.mem_cons_self (freshState stillEntropy)

def blankConfig : ClientsConfig where
  callbackUrl := some "/callback"
  clients := [{ type := "form", callbackUrl := some "  ", loginUrl := some "/login" }]

theorem blankConfig_ready :
    ¬ ∀ (host : Host) (onTerminal : Bool) (entropy : Entropy) (arguments : List String)
        (options : Settings) (config : ClientsConfig) (ended : Ended),
      Invocation.ofArguments arguments = .ok (.run options .check) →
      ConfigFile.load Terminal.toolkit.read host options.configPath = .ok config →
      run Terminal.toolkit host onTerminal entropy arguments = .ok (.ended ended) →
      ended.exitCode ≠ 0 →
      (∃ fault, (config.deploy host).1 = .error (.config fault)) ∨
        ∃ registry, (config.deploy host).1 = .ok registry ∧
          ∃ client ∈ registry.clients, ∃ state failure,
            (client.init state).1 = .error failure ∧ failure.IsUsage := by
  intro claim
  have bare : ∀ settings ∈ blankConfig.clients, settings.users = [] ∧ settings.extras = [] := by
    simp [blankConfig]
  have loaded : ConfigFile.load Terminal.toolkit.read (ConfigFile.keeping blankConfig)
      ({} : Settings).configPath = .ok blankConfig := ConfigFile.load_keeping_of_bare bare
  have inspected : configProblems (ConfigFile.keeping blankConfig) blankConfig =
      .ok ["#1 (form): indirect client needs a callback URL"] := rfl
  obtain ⟨ended, done, clean⟩ := check_of_keeping stillEntropy bare inspected
  rcases claim _ _ _ _ _ _ _ ofArguments_check loaded done (mt clean.1 (List.cons_ne_nil _ _)) with
    ⟨fault, failed⟩ | ⟨registry, deployed, client, member, state, failure, failed, -⟩
  · cases failed
  · cases deployed
    have builtIn : client.handler.IsBuiltIn := by
      rw [List.mem_singleton.1 member]
      trivial
    have usable : client.Usable := by
      rw [List.mem_singleton.1 member]
      exact ⟨rfl, rfl⟩
    cases (Client.init_of_usable builtIn usable state).symm.trans failed

end Commands

end Command

end SignOn
