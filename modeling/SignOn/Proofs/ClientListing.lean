import SignOn.Proofs.Check
import SignOn.Proofs.Deployable

/-!
The listing of clients as JSON. Each client is an object that says of it what the client says of
itself, and all of them together are one list, in the order of registration, that is read from what
was written whatever their names and callback URLs are. Where there is no client to list there is no
list either: only a message is shown, and what is left of the output cannot be read.
-/

namespace SignOn

namespace ClientSettings

variable {host : Host} {settings : ClientSettings}

theorem settingsType_of_handler {type : HandlerType} {handler : Handler}
    (asked : builtInTypes.get? settings.type = some type)
    (made : settings.handler host type = .ok handler) : handler.settingsType = settings.type := by
  have listed := listed_of_builtIn asked
  simp only [builtInTypes, List.mem_cons, Prod.mk.injEq, List.not_mem_nil, or_false] at listed
  rcases listed with ⟨word, rfl⟩ | ⟨word, rfl⟩ | ⟨word, rfl⟩
  · cases made
    exact word.symm
  · cases made
    exact word.symm
  · obtain ⟨clientId, -, made⟩ := ok_of_bind made
    obtain ⟨clientSecret, -, made⟩ := ok_of_bind made
    cases made
    exact word.symm

theorem typeText_of_handler {type : HandlerType} {handler : Handler}
    (asked : builtInTypes.get? settings.type = some type)
    (made : settings.handler host type = .ok handler) :
    Command.typeText handler = settings.type := by
  have word := settingsType_of_handler asked made
  have builtIn := isBuiltIn_of_handler made
  unfold Command.typeText
  cases handler with
  | scripted login => exact builtIn.elim
  | _ => exact word

end ClientSettings

namespace Command

variable {tools : Toolkit} {host : Host} {printer : Printer} {entropy : Entropy}
  {options : Settings} {arguments : List String} {onTerminal : Bool} {config : ClientsConfig}
  {registry : Registry}

theorem format_of_style {openScreen : OpenScreen} {style : OutputStyle} {format : OutputFormat}
    (asked : style.format = some format)
    (settled : Printer.ofStyle openScreen host onTerminal style = .ok printer) :
    printer.format = format := by
  obtain ⟨screen, -, settled⟩ := ok_of_bind settled
  cases settled
  simp [Printer.settle, asked]

theorem encodes_of_style {openScreen : OpenScreen} {style : OutputStyle}
    (settled : Printer.ofStyle openScreen host onTerminal style = .ok printer) :
    printer.encodes = host.encodes := by
  obtain ⟨screen, -, settled⟩ := ok_of_bind settled
  cases settled
  rfl

@[simp] theorem Ended.stdout_logging (printer : Printer) (records : List LogRecord)
    (ended : Ended) : (ended.logging printer records).written.stdout = ended.written.stdout := by
  simp [Ended.logging, Written.append]

def listing (client : Client) : Value :=
  .table [("Name", .text client.name), ("Type", .text (typeText client.handler)),
    ("Mechanism", .text client.handler.mechanism.text),
    ("Direct", .text (directText client.isDirect)),
    ("Callback URL", .text (client.callbackUrl.getD ""))]

theorem rowObject_clientRow (clients : List Client) (client : Client) :
    Printer.rowObject (clientTable clients).headers (clientRow client) = listing client := by
  unfold Printer.rowObject listing
  apply congrArg Value.table
  apply Entries.ofList_of_nodup
  change ["Name", "Type", "Mechanism", "Direct", "Callback URL"].Nodup
  decide

theorem storable_listing (client : Client) : Value.Storable 1 (listing client) := by
  apply Value.Storable.table
  · change ["Name", "Type", "Mechanism", "Direct", "Callback URL"].Nodup
    decide
  · intro entry member
    simp only [List.mem_cons, List.not_mem_nil, or_false] at member
    rcases member with rfl | rfl | rfl | rfl | rfl
    all_goals exact .text 0 _

theorem read_tableJson (clients : List Client) :
    Json.read (Printer.tableJson (clientTable clients) ++ "\n").toList =
      .ok (.list (clients.map listing)) := by
  have rows : (clientTable clients).rows.map (Printer.rowObject (clientTable clients).headers) =
      clients.map listing := by
    change (clients.map clientRow).map _ = _
    rw [List.map_map]
    exact List.map_congr_left fun client _ => rowObject_clientRow clients client
  have storable : Value.Storable Json.mostLevels (.list (clients.map listing)) := by
    have rows : Value.Storable 2 (.list (clients.map listing)) := by
      apply Value.Storable.list
      intro row member
      obtain ⟨client, -, rfl⟩ := List.mem_map.1 member
      exact storable_listing client
    exact rows.mono (by decide)
  unfold Printer.tableJson
  rw [rows, String.toList_append, Json.render, String.toList_ofList]
  exact Json.read_write storable

/-- The data of the listing in JSON: a table, or nothing where there is nothing to list. -/
def listedText (clients : List Client) : String :=
  if clients.isEmpty then "" else Printer.tableJson (clientTable clients) ++ "\n"

theorem listedText_of_filled {clients : List Client} (filled : clients ≠ []) :
    listedText clients = Printer.tableJson (clientTable clients) ++ "\n" := by
  unfold listedText
  rw [List.isEmpty_eq_false_iff.2 filled, if_neg Bool.false_ne_true]

theorem print_listMessage_filled (json : printer.format = .json) (client : Client)
    (rest : List Client) : printer.print (listMessage (client :: rest)) =
      printer.emit (listedText (client :: rest)) := by
  have made : printer.tableText (clientTable (client :: rest)) =
      .ok (listedText (client :: rest)) := by
    unfold Printer.tableText
    rw [json, listedText_of_filled (List.cons_ne_nil _ _)]
  change printer.print (.table (clientTable (client :: rest))) = _
  rw [print_table, made]
  simp only [bind, Except.bind]

theorem print_listMessage_json (json : printer.format = .json) {clients : List Client}
    (legible : (listedText clients).toList.all printer.encodes = true) :
    ∃ written, printer.print (listMessage clients) = .ok written ∧
      written.stdout = listedText clients := by
  cases clients with
  | nil => exact ⟨_, rfl, rfl⟩
  | cons client rest =>
    refine ⟨{ stdout := listedText (client :: rest) }, ?_, rfl⟩
    rw [print_listMessage_filled json]
    exact emit_eq_ok legible

theorem print_listMessage_illegible (json : printer.format = .json) {clients : List Client}
    (illegible : ¬ (listedText clients).toList.all printer.encodes = true) :
    printer.print (listMessage clients) = .error (.escaped "UnicodeEncodeError") := by
  cases clients with
  | nil => exact absurd rfl illegible
  | cons client rest =>
    rw [print_listMessage_filled json]
    exact emit_eq_error illegible

section

variable (understood : Invocation.ofArguments arguments = .ok (.run options .clients))
  (settled : Printer.ofStyle tools.openScreen host onTerminal options.style = .ok printer)
  (loaded : ConfigFile.load tools.read host options.configPath = .ok config)
  (deployed : (config.deploy host).1 = .ok registry)

include understood settled loaded deployed

theorem run_clients_json (entropy : Entropy) (json : options.json = true)
    (legible : (listedText registry.clients).toList.all host.encodes = true) :
    ∃ ended, run tools host onTerminal entropy arguments = .ok (.ended ended) ∧
      ended.exitCode = 0 ∧ ended.written.stdout = listedText registry.clients := by
  have asked : options.style.format = some .json := by simp [Settings.style, json]
  rw [← encodes_of_style settled] at legible
  obtain ⟨written, shown, data⟩ := print_listMessage_json (format_of_style asked settled) legible
  rw [run_clients understood settled loaded deployed, shown]
  refine ⟨Ended.logging printer (config.deploy host).2 { exitCode := 0, written }, rfl, rfl, ?_⟩
  rw [Ended.stdout_logging]
  exact data

theorem run_clients_illegible (entropy : Entropy) (json : options.json = true)
    (illegible : ¬ (listedText registry.clients).toList.all host.encodes = true) :
    run tools host onTerminal entropy arguments = .error (.escaped "UnicodeEncodeError") := by
  have asked : options.style.format = some .json := by simp [Settings.style, json]
  rw [← encodes_of_style settled] at illegible
  rw [run_clients understood settled loaded deployed,
    print_listMessage_illegible (format_of_style asked settled) illegible]
  rfl

end

/-- What the listing says of an entry: the name and the type that it asks for, and how the client
that is registered under that name works. -/
def Lists (registry : Registry) (entry : ClientSettings) (row : Value) : Prop :=
  ∃ client, registry.find entry.effectiveName = .ok client ∧
    row = .table [("Name", .text entry.effectiveName), ("Type", .text entry.type),
      ("Mechanism", .text client.handler.mechanism.text),
      ("Direct", .text (if client.isDirect then "yes" else "no")),
      ("Callback URL", .text (client.callbackUrl.getD ""))]

theorem lists_of_deploy (deployed : (config.deploy host).1 = .ok registry) :
    List.Forall₂ (Lists registry) config.clients (registry.clients.map listing) := by
  obtain ⟨-, described⟩ := ClientsConfig.clients_of_deploy deployed
  rw [List.forall₂_map_right_iff]
  apply described.imp
  intro entry client ⟨original, built, adopted, found⟩
  have describes := ClientSettings.describes_of_build built
  obtain ⟨type, asked, made⟩ := describes.handler
  have name : client.name = entry.effectiveName := by
    rw [adopted, Registry.adopt_name, ClientSettings.name_of_build built]
  have word : typeText client.handler = entry.type := by
    rw [adopted]
    exact ClientSettings.typeText_of_handler asked made
  refine ⟨client, found, ?_⟩
  unfold listing
  rw [name, word]
  rfl

/-- The listing is read as one list, with one object for each entry in the order of the entries,
provided that there is an entry; with no entries it is empty, which is read as no value at all. -/
theorem read_listedText (deployed : (config.deploy host).1 = .ok registry) :
    ((∃ value, Json.read (listedText registry.clients).toList = .ok value) ↔
      config.clients ≠ []) ∧
    (config.clients ≠ [] → ∃ rows,
      Json.read (listedText registry.clients).toList = .ok (.list rows) ∧
        List.Forall₂ (Lists registry) config.clients rows) ∧
    (config.clients = [] → listedText registry.clients = "") := by
  have lists := lists_of_deploy deployed
  have empty : registry.clients = [] ↔ config.clients = [] := by
    have same := lists.length_eq
    rw [List.length_map] at same
    rw [← List.length_eq_zero_iff, ← List.length_eq_zero_iff, same]
  have silent (bare : config.clients = []) : listedText registry.clients = "" := by
    rw [empty.2 bare]
    rfl
  have rows (filled : config.clients ≠ []) : Json.read (listedText registry.clients).toList =
      .ok (.list (registry.clients.map listing)) := by
    rw [listedText_of_filled (mt empty.1 filled), read_tableJson]
  refine ⟨⟨?_, fun filled => ⟨_, rows filled⟩⟩, fun filled => ⟨_, rows filled, lists⟩, silent⟩
  intro ⟨value, read⟩ bare
  rw [silent bare] at read
  cases read

/-- The command that lists the clients of a configuration in JSON ends well wherever the
configuration can be deployed. What it writes as data is read as one list, with one object for each
entry in the order of the entries, provided that there is an entry; with no entries nothing is
written, which is read as no value at all. Without a screen the command does not begin, and a
listing that cannot be encoded is not written. -/
theorem json_listing_read_iff (entropy : Entropy)
    (understood : Invocation.ofArguments arguments = .ok (.run options .clients))
    (json : options.json = true)
    (loaded : ConfigFile.load tools.read host options.configPath = .ok config)
    (deployed : (config.deploy host).1 = .ok registry) :
    (∀ failure, Printer.ofStyle tools.openScreen host onTerminal options.style = .error failure →
      run tools host onTerminal entropy arguments = .error failure) ∧
    ∀ printer, Printer.ofStyle tools.openScreen host onTerminal options.style = .ok printer →
      (¬ (listedText registry.clients).toList.all host.encodes = true ∧
        run tools host onTerminal entropy arguments = .error (.escaped "UnicodeEncodeError")) ∨
      ∃ ended, run tools host onTerminal entropy arguments = .ok (.ended ended) ∧
        ended.exitCode = 0 ∧
        ((∃ value, Json.read ended.written.stdout.toList = .ok value) ↔ config.clients ≠ []) ∧
        (config.clients ≠ [] → ∃ rows, Json.read ended.written.stdout.toList = .ok (.list rows) ∧
          List.Forall₂ (Lists registry) config.clients rows) ∧
        (config.clients = [] → ended.written.stdout = "") := by
  refine ⟨fun failure => run_of_unsettled understood, fun printer settled => ?_⟩
  by_cases legible : (listedText registry.clients).toList.all host.encodes = true
  · obtain ⟨ended, done, clean, data⟩ :=
      run_clients_json understood settled loaded deployed entropy json legible
    refine Or.inr ⟨ended, done, clean, ?_⟩
    rw [data]
    exact read_listedText deployed
  · exact Or.inl ⟨legible,
      run_clients_illegible understood settled loaded deployed entropy json legible⟩

def quotedConfig : ClientsConfig where
  clients := [
    { type := "form", name := some "\"zoë\"\\\n", callbackUrl := some "/back\u2028?q=\"",
      loginUrl := some "/login" },
    { type := "basic", name := some "\u0007𝄞" }]

def listingSettings : Settings := { json := true }

theorem ofArguments_listing :
    Invocation.ofArguments ["--json", "clients"] = .ok (.run listingSettings .clients) := rfl

theorem quotedConfig_listed :
    let host := ConfigFile.keeping quotedConfig
    ∃ registry ended,
      Invocation.ofArguments ["--json", "clients"] = .ok (.run listingSettings .clients) ∧
      ConfigFile.load Terminal.toolkit.read host listingSettings.configPath = .ok quotedConfig ∧
      (quotedConfig.deploy host).1 = .ok registry ∧
      run Terminal.toolkit host false stillEntropy ["--json", "clients"] = .ok (.ended ended) ∧
      ended.exitCode = 0 ∧
      ∃ rows, Json.read ended.written.stdout.toList = .ok (.list rows) ∧
        List.Forall₂ (Lists registry) quotedConfig.clients rows := by
  intro host
  have settled : Printer.ofStyle Terminal.toolkit.openScreen host false listingSettings.style =
      .ok _ := rfl
  have bare : ∀ settings ∈ quotedConfig.clients, settings.users = [] ∧ settings.extras = [] := by
    simp [quotedConfig]
  have loaded : ConfigFile.load Terminal.toolkit.read host listingSettings.configPath =
      .ok quotedConfig := ConfigFile.load_keeping_of_bare bare
  obtain ⟨registry, deployed⟩ : ∃ registry, (quotedConfig.deploy host).1 = .ok registry :=
    ⟨_, rfl⟩
  obtain ⟨-, listing⟩ :=
    json_listing_read_iff stillEntropy ofArguments_listing rfl loaded deployed
  rcases listing _ settled with ⟨illegible, -⟩ | ⟨ended, done, clean, -, listed, -⟩
  · exact absurd (List.all_eq_true.2 fun _ _ => rfl) illegible
  · exact ⟨registry, ended, ofArguments_listing, loaded, deployed, done, clean,
      listed (List.cons_ne_nil _ _)⟩

theorem empty_listing_unread :
    ¬ ∀ (host : Host) (onTerminal : Bool) (entropy : Entropy) (arguments : List String)
        (options : Settings) (printer : Printer) (config : ClientsConfig) (registry : Registry),
      Invocation.ofArguments arguments = .ok (.run options .clients) → options.json = true →
      Printer.ofStyle Terminal.toolkit.openScreen host onTerminal options.style = .ok printer →
      ConfigFile.load Terminal.toolkit.read host options.configPath = .ok config →
      (config.deploy host).1 = .ok registry →
      (listedText registry.clients).toList.all host.encodes = true →
      ∃ ended, run Terminal.toolkit host onTerminal entropy arguments = .ok (.ended ended) ∧
        ended.exitCode = 0 ∧
        ∃ rows, Json.read ended.written.stdout.toList = .ok (.list rows) ∧
          List.Forall₂ (Lists registry) config.clients rows := by
  intro claim
  have loaded : ConfigFile.load Terminal.toolkit.read (ConfigFile.keeping {})
      listingSettings.configPath = .ok {} :=
    ConfigFile.load_keeping_of_bare fun settings absent => absurd absent List.not_mem_nil
  have settled : Printer.ofStyle Terminal.toolkit.openScreen (ConfigFile.keeping {}) false
      listingSettings.style = .ok _ := rfl
  obtain ⟨ended, done, -, rows, read, -⟩ := claim _ false stillEntropy _ _ _ _ _ ofArguments_listing
    rfl settled loaded rfl rfl
  obtain ⟨silent, listed, -, data⟩ :=
    run_clients_json ofArguments_listing settled loaded rfl stillEntropy rfl rfl
  cases listed.symm.trans done
  rw [data] at read
  cases read

end Command

end SignOn
