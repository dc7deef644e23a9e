import SignOn.ConfigFile
import SignOn.Proofs.SavedFile
import SignOn.Proofs.SavedSettings

/-!
Saving a configuration and loading it again. The bytes that are saved are found again, they are the
text that was saved, the text is that of the value the configuration was dumped to, and the value is
that of the configuration.
-/

namespace SignOn.ConfigFile

open ClientsConfig

variable {config : ClientsConfig}

/-- How many lists and tables may stand in one another within an extra field. Around it there are
the fields of a client, the list of clients and the fields of the configuration. -/
def mostExtraLevels : Nat := Json.mostLevels - 3

theorem ofBytes_textOf (validated : ∀ settings ∈ config.clients, settings.Validated)
    (keepable : ∀ settings ∈ config.clients, settings.Keepable mostExtraLevels) (path : String) :
    ofBytes parse path (Utf8.encode (textOf config.dump)) = .ok config := by
  have storable : Value.Storable Json.mostLevels config.dump := storable_dump validated keepable
  have text : (textOf config.dump).toList = Json.write .ascii 0 config.dump ++ ['\n'] := by
    rw [textOf, String.toList_append, Json.render, String.toList_ofList]
    rfl
  have lines : '\r' ∉ (textOf config.dump).toList := by
    rw [text, List.mem_append, List.mem_singleton]
    rintro (inside | last)
    · exact Json.not_mem_write storable 0 inside
    · cases last
  have read : Json.read (textOf config.dump).toList = .ok config.dump := by
    rw [text]
    exact Json.read_write storable
  have decoded : Host.textOf (Utf8.encode (textOf config.dump)) = some (textOf config.dump) := by
    rw [Host.textOf, Utf8.decode_encode, Option.map_some, Text.unifyNewlines_eq_self lines,
      String.ofList_toList]
  have checked : ofValue config.dump = .valid config := ofValue_dump validated keepable
  have unharmed (reason : Json.Fault → Unread) :
      (Except.ok config.dump : Except Json.Fault Value).mapError reason = .ok config.dump := rfl
  have parsed : parse (textOf config.dump) = .ok config := by
    unfold parse
    rw [read, unharmed]
    simp only [bind, Except.bind, checked]
  unfold ofBytes
  simp only [decoded, parsed]
  rfl

theorem load_of_located {read : Reader} {host : Host} {path : Option String} {place : Path}
    (found : locate host path = .ok place) : load read host path = loadFrom read host place := by
  unfold load
  rw [found]
  rfl

theorem load_of_unlocated {read : Reader} {host : Host} {path : Option String} {failure : Failure}
    (lost : locate host path = .error failure) : load read host path = .error failure := by
  unfold load
  rw [lost]
  rfl

/-- A host that has nothing but the file of a configuration, in its working directory. -/
def keeping (config : ClientsConfig) : Host :=
  { files := ⟨[([fileName], .file (Utf8.encode (textOf config.dump)))]⟩ }

theorem load_keeping (validated : ∀ settings ∈ config.clients, settings.Validated)
    (keepable : ∀ settings ∈ config.clients, settings.Keepable mostExtraLevels) :
    load parse (keeping config) none = .ok config := by
  let path : Path := { root := .rooted, segments := [fileName] }
  have plain : Host.holdsNul path.text = false := by decide +kernel
  have short : Host.isTooLong path = false := by decide +kernel
  have found : (keeping config).files.find ((keeping config).start path) path.segments =
      .ok (some (.file (Utf8.encode (textOf config.dump)))) := rfl
  have kept : (keeping config).read? path = .ok (some (Utf8.encode (textOf config.dump))) := by
    unfold Host.read?
    rw [plain, short, found]
    rfl
  have located : locate (keeping config) none = .ok path := rfl
  rw [load_of_located located]
  unfold loadFrom
  rw [kept]
  simp only [ofBytes_textOf validated keepable]
  rfl

theorem load_keeping_of_bare
    (bare : ∀ settings ∈ config.clients, settings.users = [] ∧ settings.extras = []) :
    load parse (keeping config) none = .ok config := by
  refine load_keeping (fun settings member => ?_) fun settings member entry inside => ?_
  · obtain ⟨users, extras⟩ := bare settings member
    refine ⟨by simp [users], by simp [extras], by simp [extras]⟩
  · rw [(bare settings member).2] at inside
    cases inside

theorem locate_of_plain {host : Host} {path : String}
    (plain : (Path.ofString path).isHomely = false) :
    locate host (some path) = .ok (.ofString path) := by
  unfold locate
  simp only [Host.expand, plain]

theorem save_of_dump {dump : Dumper} {value : Value} (dumped : dump config = .ok value)
    (host : Host) (path : String) :
    save dump host config path =
      ((host.write (.ofString path) (textOf value)).1.mapError .file,
        (host.write (.ofString path) (textOf value)).2) := by
  unfold save
  rw [dumped]

theorem save_of_undumped {dump : Dumper} {exception : String}
    (undumped : dump config = .error exception) (host : Host) (path : String) :
    save dump host config path = (.error (.escaped exception), host) := by
  unfold save
  rw [undumped]

theorem written_of_save {dump : Dumper} {host after : Host} {path : String}
    (saved : save dump host config path = (.ok (), after)) :
    ∃ value, dump config = .ok value ∧
      host.write (.ofString path) (textOf value) = (.ok (), after) := by
  cases dumped : dump config with
  | error exception => cases (save_of_undumped dumped host path).symm.trans saved
  | ok value =>
    rw [save_of_dump dumped] at saved
    refine ⟨value, rfl, ?_⟩
    rcases written : host.write (.ofString path) (textOf value) with ⟨fault | done, files⟩ <;>
      rw [written] at saved <;> cases saved
    rfl

theorem save_of_write {dump : Dumper} {value : Value} {host after : Host} {path : String}
    (dumped : dump config = .ok value)
    (written : host.write (.ofString path) (textOf value) = (.ok (), after)) :
    save dump host config path = (.ok (), after) := by
  rw [save_of_dump dumped, written]
  rfl

/-- A configuration is saved to every path that can be written to, and is loaded again from there,
field for field and in its order, apart from a callback URL in the environment. One that the dumper
does not follow to its end is not saved, and nothing is written. -/
theorem load_of_save (dump : Dumper) {host : Host} {path : String}
    (validated : ∀ settings ∈ config.clients, settings.Validated)
    (keepable : ∀ settings ∈ config.clients, settings.Keepable mostExtraLevels)
    (plain : (Path.ofString path).isHomely = false)
    (writable : host.Writable (.ofString path)) :
    (dump config = .ok config.dump →
      ∃ saved, save dump host config path = (.ok (), saved) ∧
        ∀ later : Host, later.files = saved.files →
          later.workingDirectory = host.workingDirectory →
          (later.nonEmptyValueOf? callbackVariable = none →
            load parse later (some path) = .ok config) ∧
          (∀ url, later.nonEmptyValueOf? callbackVariable = some url →
            load parse later (some path) = .ok { config with callbackUrl := some url })) ∧
    ∀ exception, dump config = .error exception →
      save dump host config path = (.error (.escaped exception), host) := by
  refine ⟨fun dumped => ?_, fun exception undumped => save_of_undumped undumped host path⟩
  obtain ⟨saved, written⟩ := Host.write_of_writable writable (textOf config.dump)
  refine ⟨saved, save_of_write dumped written, fun later files directory => ?_⟩
  have start : later.workingDirectory = saved.workingDirectory := by
    rw [directory, Host.rest_of_write written]
  have bytes : later.read? (.ofString path) = .ok (some (Utf8.encode (textOf config.dump))) :=
    (Host.read?_congr files start _).trans (Host.read?_of_write written)
  have loaded : load parse later (some path) = .ok (withOverride later config) := by
    rw [load_of_located (locate_of_plain plain)]
    unfold loadFrom
    rw [bytes]
    simp only [ofBytes_textOf validated keepable]
    rfl
  rw [loaded]
  unfold withOverride
  constructor
  · intro unset
    rw [unset]
  · intro url set_
    rw [set_]

/-- Nothing in an extra field is deeper than some number of levels. -/
def Shallow (levels : Nat) (config : ClientsConfig) : Prop :=
  ∀ settings ∈ config.clients, ∀ extra ∈ settings.extras, extra.2.depth ≤ levels

theorem dumpWithin_of_shallow {levels : Nat} (shallow : Shallow levels config) :
    dumpWithin levels config = .ok config.dump := by
  refine if_pos (List.all_eq_true.2 fun settings member => ?_)
  exact List.all_eq_true.2 fun extra inside => decide_eq_true (shallow settings member extra inside)

theorem dumpWithin_of_deep {levels : Nat} (deep : ¬ Shallow levels config) :
    dumpWithin levels config = .error "ValueError" := by
  refine if_neg fun shallow => deep fun settings member extra inside => ?_
  exact of_decide_eq_true
    (List.all_eq_true.1 (List.all_eq_true.1 shallow settings member) extra inside)

def ornateSettings : ClientSettings where
  type := "basic"
  users := [("zoë", "env:ZOE"), ("al", "literal:x")]
  extras := [("limits", .list [.table [], .int (-40), .text "\"\n\u2028𝄞", .null])]

def ornateConfig : ClientsConfig := { callbackUrl := some "/callback", clients := [ornateSettings] }

def overridingHost : Host := { environment := [(callbackVariable, "/other")] }

theorem ornateConfig_loaded :
    (Path.ofString "etc/./site//handshake.json").isHomely = false ∧
      (∃ saved, save (dumpWithin dumpLevels) {} ornateConfig "etc/./site//handshake.json" =
          (.ok (), saved) ∧
        load parse saved (some "etc/./site//handshake.json") = .ok ornateConfig ∧
        load parse { overridingHost with files := saved.files }
          (some "etc/./site//handshake.json") =
            .ok { ornateConfig with callbackUrl := some "/other" }) ∧
      save (dumpWithin 1) {} ornateConfig "etc/./site//handshake.json" =
        (.error (.escaped "ValueError"), {}) := by
  have validated : ∀ settings ∈ ornateConfig.clients, settings.Validated := by
    intro settings member
    rw [List.mem_singleton.1 member]
    exact ⟨by decide, by decide, by decide⟩
  have keepable : ∀ settings ∈ ornateConfig.clients, settings.Keepable mostExtraLevels := by
    intro settings member
    rw [List.mem_singleton.1 member]
    intro entry inside
    rw [List.mem_singleton.1 inside]
    have small : (-40 : Int).natAbs < 10 ^ Json.mostDigits :=
      Nat.lt_of_lt_of_le (show 40 < 10 ^ 2 by decide)
        (Nat.pow_le_pow_right (by decide) (by decide))
    refine Value.Storable.list ?_
    simp only [List.forall_mem_cons]
    exact ⟨.table List.nodup_nil (by simp), .int _ small, .text _ _, .null _, by simp⟩
  have plain : (Path.ofString "etc/./site//handshake.json").isHomely = false := by
    decide +kernel
  have writable : ({} : Host).Writable (.ofString "etc/./site//handshake.json") :=
    ⟨"", _, Prod.ext (show _ = Except.ok () from rfl) rfl⟩
  have depth : ∀ levels, Shallow levels ornateConfig ↔ 2 ≤ levels := by
    intro levels
    unfold Shallow ornateConfig ornateSettings
    simp [Value.depth, Value.itemsDepth, Value.entriesDepth]
  obtain ⟨saved, done, loads⟩ :=
    (load_of_save (dumpWithin dumpLevels) validated keepable plain writable).1
      (dumpWithin_of_shallow ((depth dumpLevels).2 (by decide)))
  have rest : saved = { files := saved.files } := by
    obtain ⟨_, -, written⟩ := written_of_save done
    exact Host.rest_of_write written
  refine ⟨plain, ⟨saved, done, ?_, ?_⟩, ?_⟩
  · apply (loads saved rfl (by rw [rest])).1
    rw [rest]
    rfl
  · exact (loads { overridingHost with files := saved.files } rfl rfl).2 "/other" rfl
  · have deep : dumpWithin 1 ornateConfig = .error "ValueError" :=
      dumpWithin_of_deep fun shallow => absurd ((depth 1).1 shallow) (by decide)
    exact (load_of_save (dumpWithin 1) validated keepable plain writable).2 _ deep

def homelyHost : Host := { environment := [("HOME", "/home/user")] }

theorem load_of_save_homely :
    ¬ ∀ (host : Host) (config : ClientsConfig) (path : String),
      (∀ settings ∈ config.clients, settings.Validated) →
      (∀ settings ∈ config.clients, settings.Keepable mostExtraLevels) →
      Shallow dumpLevels config →
      "~".toList.isPrefixOf path.toList = false → host.Writable (.ofString path) →
      host.nonEmptyValueOf? callbackVariable = none →
      ∃ saved, save (dumpWithin dumpLevels) host config path = (.ok (), saved) ∧
        load parse saved (some path) = .ok config := by
  intro claim
  have writable : homelyHost.Writable (.ofString "./~/x.json") :=
    ⟨"", _, Prod.ext (show _ = Except.ok () from rfl) rfl⟩
  have unset : homelyHost.nonEmptyValueOf? callbackVariable = none := by
    decide +kernel
  have missed : load parse (save (dumpWithin dumpLevels) homelyHost {} "./~/x.json").2
      (some "./~/x.json") = .error (.config (.fileNotFound "/home/user/x.json")) := rfl
  obtain ⟨saved, done, loaded⟩ := claim homelyHost {} "./~/x.json"
    (fun settings absent => absurd absent List.not_mem_nil)
    (fun settings absent => absurd absent List.not_mem_nil)
    (fun settings absent => absurd absent List.not_mem_nil) (by decide) writable unset
  rw [done] at missed
  cases missed.symm.trans loaded

end SignOn.ConfigFile
