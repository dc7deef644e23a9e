import SignOn.Proofs.Check
import SignOn.Proofs.Deployable
import SignOn.Proofs.Directories

/-!
Failures that nobody reports. Where a configuration cannot be loaded, a secret not be found or a
client not be built, the configuration is at fault, and that is told. There are a few ways besides:
a home directory that is nobody's, a name that is too long for any file, a file that is nested too
deep, and a secret that is no text. They go astray past everyone who would have told of them, and
the check of a configuration ends with the first entry that meets one.
-/

namespace SignOn

variable {α β : Type} {host : Host} {failure : Failure}

/-- The failure that a result is, if it is one. -/
def failureOf? : Except Failure α → Option Failure
  | .ok _ => none
  | .error failure => some failure

theorem failureOf?_eq_some_iff {result : Except Failure α} :
    failureOf? result = some failure ↔ result = .error failure := by
  cases result <;> simp [failureOf?]

theorem failureOf?_eq_none_iff {result : Except Failure α} :
    failureOf? result = none ↔ ∃ a, result = .ok a := by
  cases result <;> simp [failureOf?]

theorem failureOf?_bind {first : Except Failure α} {next : α → Except Failure β}
    {rest : Option Failure} (onward : ∀ a, failureOf? (next a) = rest) :
    failureOf? (first >>= next) = (failureOf? first).or rest := by
  cases first with
  | error failure => rfl
  | ok a => exact onward a

namespace FileTree

/-- A name that is too long for any file stands behind names that lead to a directory. -/
def Overlong (tree : FileTree) (start : Location) (names : List String) : Prop :=
  ∃ front name back, names = front ++ name :: back ∧ tree.Open start front ∧
    isTooLong name = true

variable {tree : FileTree} {start : Location} {names : List String} {name : String}
  {fault : FileFault}

theorem overlong_cons_iff :
    tree.Overlong start (name :: names) ↔
      tree.node? start = some .directory ∧
        (isTooLong name = true ∨ tree.Overlong (step start name) names) := by
  constructor
  · rintro ⟨front, long, back, split, stops, tooLong⟩
    refine ⟨stops [] List.nil_prefix, ?_⟩
    cases front with
    | nil =>
      cases split
      exact Or.inl tooLong
    | cons first front =>
      cases split
      refine Or.inr ⟨front, long, back, rfl, fun more begins => ?_, tooLong⟩
      exact stops (name :: more) (List.cons_prefix_cons.2 ⟨rfl, begins⟩)
  · rintro ⟨directory, here | ⟨front, long, back, rfl, stops, tooLong⟩⟩
    · refine ⟨[], name, names, rfl, fun more begins => ?_, here⟩
      rw [List.prefix_nil.1 begins]
      exact directory
    · refine ⟨name :: front, long, back, rfl, fun more begins => ?_, tooLong⟩
      rcases List.prefix_cons_iff.1 begins with rfl | ⟨further, rfl, onward⟩
      · exact directory
      · exact stops further onward

theorem follow_eq_nameTooLong_iff :
    tree.follow start names = .error .nameTooLong ↔ tree.Overlong start names := by
  induction names generalizing start with
  | nil =>
    constructor
    · intro failed
      cases failed
    · rintro ⟨front, long, back, split, -⟩
      cases front <;> cases split
  | cons name rest ih =>
    have upIsShort : isTooLong ".." = false := by decide
    rw [overlong_cons_iff, follow, ← ih]
    cases tree.node? start with
    | none => simp
    | some node =>
      cases node with
      | file bytes => simp
      | directory =>
        unfold step
        by_cases up : name = ".."
        · simp [up, upIsShort]
        · cases isTooLong name <;> simp [up]

theorem find_eq_error_iff :
    tree.find start names = .error fault ↔ fault = .nameTooLong ∧ tree.Overlong start names := by
  rw [← follow_eq_nameTooLong_iff]
  unfold find
  cases tree.follow start names with
  | ok location => simp
  | error other => cases other <;> simp [eq_comm]

end FileTree

namespace Host

/-- What keeps a host from so much as looking for the file at a path, and how that shows. -/
inductive Barred (host : Host) (path : Path) : Failure → Prop where
  /-- The name of the user whose home directory is meant holds a NUL. -/
  | unspeakable (user : String) (rest : List String) (homely : path.isHomely = true)
      (begins : path.segments = user :: rest) (nul : holdsNul user = true) :
      Barred host path (.file .badName)
  /-- There is no such user, or one whose home directory would again be somebody's. -/
  | stranger (user : String) (rest : List String) (homely : path.isHomely = true)
      (begins : path.segments = user :: rest) (plain : holdsNul user = false)
      (homeless : ∀ home ∈ host.homeOf? user, "~".toList.isPrefixOf home.toList = true) :
      Barred host path .unknownUser
  /-- The path is too long, or a name that is too long stands on its way. -/
  | overlong (place : Path) (expanded : host.expand path = .ok place)
      (plain : holdsNul place.text = false)
      (long : isTooLong place = true ∨ host.files.Overlong (host.start place) place.segments) :
      Barred host path (.file .nameTooLong)

theorem expand_eq_error (path : Path) (failed : host.expand path = .error failure) :
    host.Barred path failure := by
  unfold expand at failed
  split at failed
  next user rest homely begins =>
    split at failed
    next nul =>
      cases failed
      exact .unspeakable user rest homely begins nul
    next plain =>
      have plain : holdsNul user = false := eq_false_of_ne_true plain
      split at failed
      next nobody =>
        cases failed
        refine .stranger user rest homely begins plain fun home known => ?_
        cases nobody.symm.trans known
      next home known =>
        split at failed
        next again =>
          cases failed
          refine .stranger user rest homely begins plain fun other same => ?_
          cases known.symm.trans same
          exact again
        · cases failed
  · cases failed

theorem read?_eq_error_iff {place : Path} {fault : FileFault} :
    host.read? place = .error fault ↔ fault = .nameTooLong ∧ holdsNul place.text = false ∧
      (isTooLong place = true ∨ host.files.Overlong (host.start place) place.segments) := by
  unfold read?
  cases plain : holdsNul place.text with
  | true => simp
  | false =>
    cases long : isTooLong place with
    | true => simp [eq_comm]
    | false =>
      have looked : host.files.find (host.start place) place.segments = .error fault ↔ _ :=
        FileTree.find_eq_error_iff
      simp only [Bool.false_eq_true, if_false, true_and, false_or, ← looked]
      cases host.files.find (host.start place) place.segments with
      | error other => simp
      | ok found =>
        cases found with
        | none => simp
        | some node => cases node <;> simp

/-- To look for a file is to expand its path and to read what is there. A host is barred from that
exactly as its failing tells. -/
theorem barred_iff {path : Path} :
    host.Barred path failure ↔ host.expand path = .error failure ∨
      ∃ place fault, host.expand path = .ok place ∧ host.read? place = .error fault ∧
        failure = .file fault := by
  constructor
  · intro barred
    cases barred with
    | unspeakable user rest homely begins nul =>
      refine Or.inl ?_
      unfold expand
      simp only [homely, begins, nul, if_true]
    | stranger user rest homely begins plain homeless =>
      refine Or.inl ?_
      unfold expand
      simp only [homely, begins, plain, Bool.false_eq_true, if_false]
      cases known : host.homeOf? user with
      | none => rfl
      | some home => simp only [homeless home known, if_true]
    | overlong place expanded plain long =>
      exact Or.inr ⟨place, _, expanded, read?_eq_error_iff.2 ⟨rfl, plain, long⟩, rfl⟩
  · rintro (failed | ⟨place, fault, expanded, failed, rfl⟩)
    · exact expand_eq_error path failed
    · obtain ⟨rfl, plain, long⟩ := read?_eq_error_iff.1 failed
      exact .overlong place expanded plain long

theorem Barred.not_isConfig {path : Path} (barred : host.Barred path failure) :
    ¬ failure.IsConfig := by
  rintro ⟨fault, rfl⟩
  cases barred

end Host

namespace SecretSource

/-- How the finding of a secret goes astray: its file cannot be looked for, or is no text. -/
inductive Strays (host : Host) (source : String) : Failure → Prop where
  | barred (path : String) (failure : Failure) (named : ofString? source = some (.file path))
      (barred : host.Barred (.ofString path) failure) : Strays host source failure
  | garbled (path : String) (place : Path) (bytes : List UInt8)
      (named : ofString? source = some (.file path))
      (expanded : host.expand (.ofString path) = .ok place)
      (there : host.read? place = .ok (some bytes)) (garbled : Utf8.decode bytes = none) :
      Strays host source .undecodableSecret

variable {source path : String} {place : Path}

theorem resolveSecret_of_file (named : ofString? source = some (.file path)) :
    resolveSecret host source =
      (host.expand (.ofString path) >>= fun place => readSecret host place source) := by
  unfold resolveSecret
  rw [named]

theorem named_of_stray (failed : resolveSecret host source = .error failure)
    (stray : ¬ failure.IsConfig) : ∃ path, ofString? source = some (.file path) := by
  unfold resolveSecret at failed
  split at failed
  · cases failed
    exact absurd ⟨_, rfl⟩ stray
  · cases failed
  · split at failed
    · cases failed
    · cases failed
      exact absurd ⟨_, rfl⟩ stray
  next path named => exact ⟨path, named⟩

theorem readSecret_eq_error (failed : readSecret host place source = .error failure)
    (stray : ¬ failure.IsConfig) :
    (∃ fault, host.read? place = .error fault ∧ failure = .file fault) ∨
      ∃ bytes, host.read? place = .ok (some bytes) ∧ Utf8.decode bytes = none ∧
        failure = .undecodableSecret := by
  unfold readSecret at failed
  split at failed
  next fault unread =>
    cases failed
    exact Or.inl ⟨fault, unread, rfl⟩
  next =>
    cases failed
    exact absurd ⟨_, rfl⟩ stray
  next bytes there =>
    split at failed
    · cases failed
    next garbled =>
      cases failed
      exact Or.inr ⟨bytes, there, Option.map_eq_none_iff.1 garbled, rfl⟩

/-- What keeps a secret from being found is a fault of the configuration, or goes astray. -/
theorem strays_iff :
    (resolveSecret host source = .error failure ∧ ¬ failure.IsConfig) ↔
      Strays host source failure := by
  constructor
  · rintro ⟨failed, stray⟩
    obtain ⟨path, named⟩ := named_of_stray failed stray
    rw [resolveSecret_of_file named] at failed
    cases expanded : host.expand (.ofString path) with
    | error other =>
      rw [expanded] at failed
      cases failed
      exact .barred path failure named (Host.expand_eq_error _ expanded)
    | ok place =>
      rw [expanded] at failed
      rcases readSecret_eq_error failed stray with
        ⟨fault, unread, rfl⟩ | ⟨bytes, there, garbled, rfl⟩
      · have barred := Host.barred_iff.2 (Or.inr ⟨place, fault, expanded, unread, rfl⟩)
        exact .barred path _ named barred
      · exact .garbled path place bytes named expanded there garbled
  · intro strays
    cases strays with
    | barred path failure named barred =>
      refine ⟨?_, barred.not_isConfig⟩
      rw [resolveSecret_of_file named]
      rcases Host.barred_iff.1 barred with failed | ⟨place, fault, expanded, unread, rfl⟩
      · rw [failed]
        rfl
      · rw [expanded]
        change readSecret host place source = _
        unfold readSecret
        rw [unread]
    | garbled path place bytes named expanded there garbled =>
      refine ⟨?_, nofun⟩
      rw [resolveSecret_of_file named, expanded]
      change readSecret host place source = _
      unfold readSecret Host.textOf
      rw [there]
      simp only [garbled, Option.map_none]

end SecretSource

namespace ConfigFile

/-- The path of the configuration as it is named, before any home directory is put into it. -/
def namedPath (host : Host) (path : Option String) : Except Failure Path :=
  match path, host.nonEmptyValueOf? pathVariable with
  | some path, _ => .ok (.ofString path)
  | none, some path => .ok (.ofString path)
  | none, none => defaultPath host

/-- How the loading of a configuration goes astray: there is no directory any more that it could be
in, its file cannot be looked for, or the reader of its text is at a loss. -/
inductive Strays (read : Reader) (host : Host) (path : Option String) : Failure → Prop where
  | adrift (unnamed : path = none ∧ host.nonEmptyValueOf? pathVariable = none)
      (removed : host.files.isDirectory host.workingDirectory = false) :
      Strays read host path (.file .missing)
  | barred (named : Path) (failure : Failure) (meant : namedPath host path = .ok named)
      (barred : host.Barred named failure) : Strays read host path failure
  | escaped (place : Path) (bytes : List UInt8) (text exception : String)
      (located : locate host path = .ok place) (there : host.read? place = .ok (some bytes))
      (decoded : Host.textOf bytes = some text)
      (raised : read text = .error (.escaped exception)) :
      Strays read host path (.escaped exception)

variable {read : Reader} {path : Option String} {place : Path}

theorem namedPath_eq_error_iff :
    namedPath host path = .error failure ↔
      (path = none ∧ host.nonEmptyValueOf? pathVariable = none) ∧
        host.files.isDirectory host.workingDirectory = false ∧ failure = .file .missing := by
  unfold namedPath
  cases path with
  | some path => simp
  | none =>
    cases host.nonEmptyValueOf? pathVariable with
    | some path => simp
    | none =>
      simp only [defaultPath]
      cases host.files.isDirectory host.workingDirectory <;> simp [eq_comm]

theorem locate_eq (host : Host) (path : Option String) :
    locate host path = namedPath host path >>= host.expand := by
  unfold locate namedPath
  cases path with
  | some path => rfl
  | none =>
    cases host.nonEmptyValueOf? pathVariable with
    | some path => rfl
    | none =>
      simp only [defaultPath]
      split <;> rfl

theorem locate_of_named {named : Path} (meant : namedPath host path = .ok named) :
    locate host path = host.expand named := by
  rw [locate_eq, meant]
  rfl

theorem locate_of_adrift (lost : namedPath host path = .error failure) :
    locate host path = .error failure := by
  rw [locate_eq, lost]
  rfl

theorem ofBytes_eq_error {name : String} {bytes : List UInt8}
    (failed : ofBytes read name bytes = .error failure) (stray : ¬ failure.IsConfig) :
    ∃ text exception, Host.textOf bytes = some text ∧
      read text = .error (.escaped exception) ∧ failure = .escaped exception := by
  unfold ofBytes at failed
  cases decoded : Host.textOf bytes with
  | none =>
    rw [decoded] at failed
    cases failed
    exact absurd ⟨_, rfl⟩ stray
  | some text =>
    rw [decoded] at failed
    obtain ⟨unread, described, rfl⟩ := error_of_mapError failed
    cases unread with
    | escaped exception => exact ⟨text, exception, rfl, described, rfl⟩
    | _ => exact absurd ⟨_, rfl⟩ stray

theorem loadFrom_eq_error (failed : loadFrom read host place = .error failure)
    (stray : ¬ failure.IsConfig) :
    (∃ fault, host.read? place = .error fault ∧ failure = .file fault) ∨
      ∃ bytes text exception, host.read? place = .ok (some bytes) ∧
        Host.textOf bytes = some text ∧ read text = .error (.escaped exception) ∧
        failure = .escaped exception := by
  unfold loadFrom at failed
  split at failed
  next fault unread =>
    cases failed
    exact Or.inl ⟨fault, unread, rfl⟩
  next =>
    cases failed
    exact absurd ⟨_, rfl⟩ stray
  next bytes there =>
    obtain ⟨text, exception, decoded, raised, same⟩ :=
      ofBytes_eq_error (error_of_map failed) stray
    exact Or.inr ⟨bytes, text, exception, there, decoded, raised, same⟩

/-- What keeps a configuration from being loaded is a fault of the configuration, or goes astray. -/
theorem strays_iff :
    (load read host path = .error failure ∧ ¬ failure.IsConfig) ↔
      Strays read host path failure := by
  constructor
  · rintro ⟨failed, stray⟩
    cases meant : namedPath host path with
    | error other =>
      cases (load_of_unlocated (locate_of_adrift meant)).symm.trans failed
      obtain ⟨unnamed, removed, rfl⟩ := namedPath_eq_error_iff.1 meant
      exact .adrift unnamed removed
    | ok named =>
      have same := locate_of_named meant
      cases expanded : host.expand named with
      | error other =>
        cases (load_of_unlocated (same.trans expanded)).symm.trans failed
        exact .barred named failure meant (Host.expand_eq_error _ expanded)
      | ok place =>
        rw [load_of_located (same.trans expanded)] at failed
        rcases loadFrom_eq_error failed stray with
          ⟨fault, unread, rfl⟩ | ⟨bytes, text, exception, there, decoded, raised, rfl⟩
        · exact .barred named _ meant
            (Host.barred_iff.2 (Or.inr ⟨place, fault, expanded, unread, rfl⟩))
        · exact .escaped place bytes text exception (same.trans expanded) there decoded raised
  · intro strays
    cases strays with
    | adrift unnamed removed =>
      have lost := locate_of_adrift (namedPath_eq_error_iff.2 ⟨unnamed, removed, rfl⟩)
      exact ⟨load_of_unlocated lost, nofun⟩
    | barred named failure meant barred =>
      refine ⟨?_, barred.not_isConfig⟩
      have same := locate_of_named meant
      rcases Host.barred_iff.1 barred with failed | ⟨place, fault, expanded, unread, rfl⟩
      · exact load_of_unlocated (same.trans failed)
      · rw [load_of_located (same.trans expanded)]
        unfold loadFrom
        rw [unread]
    | escaped place bytes text exception located there decoded raised =>
      refine ⟨?_, nofun⟩
      rw [load_of_located located]
      unfold loadFrom ofBytes
      simp only [there, decoded, raised]
      rfl

end ConfigFile

/-- The failure of the first of some sources that cannot be resolved. -/
def firstFailure? (host : Host) (sources : List String) : Option Failure :=
  sources.findSome? fun source => failureOf? (resolveSecret host source)

theorem failureOf?_bind_pure {result : Except Failure α} (make : α → β) :
    failureOf? (result >>= fun a => pure (make a)) = failureOf? result := by
  cases result <;> rfl

theorem failureOf?_resolveOptional (source : Option String) :
    failureOf? (resolveOptional host source) = firstFailure? host (nonEmpty source).toList := by
  unfold resolveOptional firstFailure?
  cases nonEmpty source with
  | none => rfl
  | some given =>
    refine (failureOf?_bind_pure some).trans ?_
    rw [Option.toList_some, List.findSome?_singleton]

theorem failureOf?_resolveUsers (users : Entries String) :
    failureOf? (resolveUsers host users) = firstFailure? host (users.map (·.2)) := by
  unfold firstFailure?
  induction users with
  | nil => rfl
  | cons first rest ih =>
    unfold resolveUsers
    rw [List.map_cons, List.findSome?_cons, ← ih]
    refine (failureOf?_bind fun password => failureOf?_bind_pure _).trans ?_
    cases failureOf? (resolveSecret host first.2) <;> rfl

namespace ClientSettings

variable {settings : ClientSettings}

theorem failureOf?_handler {type : HandlerType} (fit : type ≠ .scripted) :
    failureOf? (settings.handler host type) =
      firstFailure? host (settings.handlerSources type) := by
  cases type with
  | form => rfl
  | basic => rfl
  | oauth2 =>
    have listed : settings.handlerSources .oauth2 =
        (nonEmpty settings.clientIdSource).toList ++
          (nonEmpty settings.clientSecretSource).toList := by
      cases id : nonEmpty settings.clientIdSource <;>
        cases secret : nonEmpty settings.clientSecretSource <;>
        simp [handlerSources, id, secret]
    unfold handler
    rw [listed, failureOf?_bind fun clientId => failureOf?_bind_pure _,
      failureOf?_resolveOptional, failureOf?_resolveOptional]
    unfold firstFailure?
    rw [List.findSome?_append]
  | scripted => exact absurd rfl fit

theorem failureOf?_build (known : builtInTypes.get? settings.type ≠ none) :
    failureOf? (settings.build host builtInTypes) =
      firstFailure? host settings.neededSources := by
  obtain ⟨type, asked⟩ := Option.ne_none_iff_exists'.1 known
  unfold build neededSources
  rw [asked]
  simp only
  rw [failureOf?_bind fun handler => failureOf?_bind_pure _,
    failureOf?_handler (fit_of_builtIn asked), failureOf?_resolveUsers]
  unfold firstFailure?
  rw [List.findSome?_append]

/-- How the building of a client goes astray: the first of its sources that cannot be resolved
does. -/
inductive Strays (host : Host) (settings : ClientSettings) (failure : Failure) : Prop where
  | secret (before : List String) (source : String) (after : List String)
      (known : builtInTypes.get? settings.type ≠ none)
      (needed : settings.neededSources = before ++ source :: after)
      (resolved : ∀ earlier ∈ before, Resolves host earlier)
      (strays : SecretSource.Strays host source failure)

/-- What keeps a client from being built is a fault of the configuration, or goes astray. -/
theorem strays_iff :
    (settings.build host builtInTypes = .error failure ∧ ¬ failure.IsConfig) ↔
      settings.Strays host failure := by
  have firstToFail (known : builtInTypes.get? settings.type ≠ none) :
      settings.build host builtInTypes = .error failure ↔
        ∃ before source after, settings.neededSources = before ++ source :: after ∧
          resolveSecret host source = .error failure ∧
          ∀ earlier ∈ before, Resolves host earlier := by
    rw [← failureOf?_eq_some_iff, failureOf?_build known, firstFailure?,
      List.findSome?_eq_some_iff]
    simp only [failureOf?_eq_some_iff, failureOf?_eq_none_iff]
    rfl
  constructor
  · rintro ⟨failed, stray⟩
    have known : builtInTypes.get? settings.type ≠ none := by
      intro unknown
      unfold build at failed
      rw [unknown] at failed
      cases failed
      exact stray ⟨_, rfl⟩
    obtain ⟨before, source, after, needed, culprit, resolved⟩ := (firstToFail known).1 failed
    exact .secret before source after known needed resolved
      (SecretSource.strays_iff.1 ⟨culprit, stray⟩)
  · rintro ⟨before, source, after, known, needed, resolved, strays⟩
    obtain ⟨culprit, stray⟩ := SecretSource.strays_iff.2 strays
    exact ⟨(firstToFail known).2 ⟨before, source, after, needed, culprit, resolved⟩, stray⟩

end ClientSettings

namespace Command

variable {shared : Option String} {settings : ClientSettings} {entries : List ClientSettings}
  {index : Nat}

theorem entryProblems_eq_error_iff :
    entryProblems host shared settings = .error failure ↔ settings.Strays host failure := by
  rw [← ClientSettings.strays_iff]
  unfold entryProblems
  cases built : settings.build host builtInTypes with
  | ok client => simp
  | error other =>
    rcases settings.failsOnly_build host builtInTypes other built with unknown | ⟨fault, rfl⟩
    · simp only [unknown, Option.isSome_none, Bool.false_eq_true, if_false, Except.error.injEq]
      constructor
      · rintro rfl
        refine ⟨rfl, ?_⟩
        rintro ⟨fault, rfl⟩
        cases unknown
      · exact And.left
    · constructor
      · intro failed
        cases failed
      · rintro ⟨same, stray⟩
        cases same
        exact absurd ⟨fault, rfl⟩ stray

theorem failureOf?_problems :
    failureOf? (problems host shared index entries) =
      entries.findSome? fun settings => failureOf? (entryProblems host shared settings) := by
  induction entries generalizing index with
  | nil => rfl
  | cons settings rest ih =>
    unfold problems
    rw [List.findSome?_cons, ← @ih (index + 1)]
    refine (failureOf?_bind fun own => failureOf?_bind_pure _).trans ?_
    cases failureOf? (entryProblems host shared settings) <;> rfl

/-- The check of the entries ends with the first that goes astray, and with no other. -/
theorem problems_eq_error_iff :
    problems host shared index entries = .error failure ↔
      ∃ before settings after, entries = before ++ settings :: after ∧
        (∀ earlier ∈ before, ∀ other, ¬ earlier.Strays host other) ∧
        settings.Strays host failure := by
  rw [← failureOf?_eq_some_iff, failureOf?_problems, List.findSome?_eq_some_iff]
  simp only [failureOf?_eq_some_iff, failureOf?_eq_none_iff, entryProblems_eq_error_iff]
  have sound (earlier : ClientSettings) :
      (∃ own, entryProblems host shared earlier = .ok own) ↔
        ∀ other, ¬ earlier.Strays host other := by
    have astray (other : Failure) : entryProblems host shared earlier = .error other ↔
      earlier.Strays host other := entryProblems_eq_error_iff
    simp only [← astray]
    cases entryProblems host shared earlier <;> simp
  simp only [sound]
  constructor
  · rintro ⟨before, settings, after, split, strays, unharmed⟩
    exact ⟨before, settings, after, split, unharmed, strays⟩
  · rintro ⟨before, settings, after, split, unharmed, strays⟩
    exact ⟨before, settings, after, split, strays, unharmed⟩

theorem configProblems_eq_error_iff {config : ClientsConfig} :
    configProblems host config = .error failure ↔
      ∃ before settings after, config.clients = before ++ settings :: after ∧
        (∀ earlier ∈ before, ∀ other, ¬ earlier.Strays host other) ∧
        settings.Strays host failure :=
  problems_eq_error_iff

/-- The check has been through all entries: it tells the problems of each of them, and no others. -/
structure Thorough (host : Host) (config : ClientsConfig) (found : List String) : Prop where
  inspected : ∀ settings ∈ config.clients,
    ∃ own, entryProblems host config.callbackUrl settings = .ok own
  told : ∀ problem, problem ∈ found ↔
    ∃ place settings own fault, config.clients[place]? = some settings ∧
      entryProblems host config.callbackUrl settings = .ok own ∧ fault ∈ own ∧
      problem = entryLabel place settings ++ ": " ++ fault

theorem thorough_of_inspected {config : ClientsConfig} {found : List String}
    (inspected : configProblems host config = .ok found) : Thorough host config found where
  inspected _ member := inspected_of_mem inspected member
  told problem := by
    have told : problem ∈ found ↔ _ := mem_problems inspected
    simpa only [Nat.zero_add] using told

theorem exitCode_checked_mem (printer : Printer) (count : Nat) (found : List String) :
    (checked printer count found).exitCode = 0 ∨ (checked printer count found).exitCode = 2 := by
  cases found with
  | nil => exact Or.inl rfl
  | cons first rest => exact Or.inr rfl

/-- The check ends with the first entry that goes astray, unless it has not so much as begun. -/
theorem run_check_eq_error_iff {tools : Toolkit} {onTerminal : Bool} {entropy : Entropy}
    {arguments : List String} {options : Settings} {config : ClientsConfig}
    (understood : Invocation.ofArguments arguments = .ok (.run options .check))
    (loaded : ConfigFile.load tools.read host options.configPath = .ok config) :
    run tools host onTerminal entropy arguments = .error failure ↔
      Printer.ofStyle tools.openScreen host onTerminal options.style = .error failure ∨
      (∃ printer, Printer.ofStyle tools.openScreen host onTerminal options.style = .ok printer) ∧
        ∃ before settings after, config.clients = before ++ settings :: after ∧
          (∀ earlier ∈ before, ∀ other, ¬ earlier.Strays host other) ∧
          settings.Strays host failure := by
  rw [← configProblems_eq_error_iff]
  cases settled : Printer.ofStyle tools.openScreen host onTerminal options.style with
  | error other =>
    rw [run_of_unsettled understood settled]
    simp
  | ok printer =>
    rw [run_of_understood understood settled, runTask_check loaded]
    cases configProblems host config <;> simp [Except.map]

/-- Finding a secret, loading a configuration and building a client end well or with a fault of the
configuration, but for what goes astray. The check of a configuration that can be loaded goes
through all entries, and its exit code is one of two; but it ends with the first entry that goes
astray, and does not begin without a screen. -/
theorem unreported_iff_strays (tools : Toolkit) (host : Host) :
    (∀ source failure, (resolveSecret host source = .error failure ∧ ¬ failure.IsConfig) ↔
      SecretSource.Strays host source failure) ∧
    (∀ path failure, (ConfigFile.load tools.read host path = .error failure ∧
      ¬ failure.IsConfig) ↔ ConfigFile.Strays tools.read host path failure) ∧
    (∀ (settings : ClientSettings) failure,
      (settings.build host builtInTypes = .error failure ∧ ¬ failure.IsConfig) ↔
        settings.Strays host failure) ∧
    ∀ onTerminal entropy arguments options config,
      Invocation.ofArguments arguments = .ok (.run options .check) →
      ConfigFile.load tools.read host options.configPath = .ok config →
      (∀ failure, run tools host onTerminal entropy arguments = .error failure ↔
        Printer.ofStyle tools.openScreen host onTerminal options.style = .error failure ∨
        (∃ printer,
          Printer.ofStyle tools.openScreen host onTerminal options.style = .ok printer) ∧
          ∃ before settings after, config.clients = before ++ settings :: after ∧
            (∀ earlier ∈ before, ∀ other, ¬ earlier.Strays host other) ∧
            settings.Strays host failure) ∧
      (∀ ending, run tools host onTerminal entropy arguments = .ok ending →
        ∃ printer found,
          Printer.ofStyle tools.openScreen host onTerminal options.style = .ok printer ∧
          ending = .ended (checked printer config.clients.length found) ∧
          ((checked printer config.clients.length found).exitCode = 0 ∨
            (checked printer config.clients.length found).exitCode = 2) ∧
          Thorough host config found) := by
  refine ⟨fun _ _ => SecretSource.strays_iff, fun _ _ => ConfigFile.strays_iff,
    fun _ _ => ClientSettings.strays_iff, ?_⟩
  intro onTerminal entropy arguments options config understood loaded
  refine ⟨fun failure => run_check_eq_error_iff understood loaded, fun ending came => ?_⟩
  obtain ⟨printer, found, settled, inspected, rfl⟩ := checked_of_run understood loaded came
  exact ⟨printer, found, settled, rfl, exitCode_checked_mem _ _ _, thorough_of_inspected inspected⟩

def homelessConfig : ClientsConfig where
  clients := [{ type := "basic" }, { type := "oauth2", clientIdSource := some "file:~nobody/id" }]

theorem homelessConfig_goes_astray :
    let host := ConfigFile.keeping homelessConfig
    Invocation.ofArguments ["check"] = .ok (.run {} .check) ∧
      ConfigFile.load Terminal.toolkit.read host ({} : Settings).configPath = .ok homelessConfig ∧
      run Terminal.toolkit host false stillEntropy ["check"] = .error .unknownUser := by
  intro host
  have loaded : ConfigFile.load Terminal.toolkit.read host ({} : Settings).configPath =
      .ok homelessConfig := ConfigFile.load_keeping_of_bare (by simp [homelessConfig])
  obtain ⟨-, -, building, checking⟩ := unreported_iff_strays Terminal.toolkit host
  obtain ⟨printer, settled, -⟩ := settled_keeping homelessConfig
  refine ⟨ofArguments_check, loaded,
    ((checking false stillEntropy ["check"] {} homelessConfig ofArguments_check loaded).1 _).2
      (Or.inr ⟨⟨printer, settled⟩, [{ type := "basic" }], _, [], rfl, ?_,
        (building _ _).1 ⟨rfl, nofun⟩⟩)⟩
  intro earlier member other strays
  cases List.mem_singleton.1 member
  have built : ({ type := "basic" } : ClientSettings).build host builtInTypes = .ok _ := rfl
  cases built.symm.trans ((building _ _).2 strays).1

end Command

theorem garbled_secret_unreported :
    ¬ ∀ (host : Host) (source : String),
      FailsOnly Failure.IsConfig (resolveSecret host source) := by
  intro claim
  let host : Host := { files := ⟨[(["secret"], .file [0xFF])]⟩ }
  have unread : resolveSecret host "file:secret" = .error .undecodableSecret := rfl
  obtain ⟨fault, same⟩ := claim host "file:secret" _ unread
  cases same

end SignOn
