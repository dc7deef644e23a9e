import SignOn.Proofs.AtomicSave
import SignOn.Proofs.ConfigFile

/-!
Which file is loaded after a save. A file is the one that is read from a path when it makes the
difference: whatever it holds is what is read, and what other files hold does not matter. Saving and
loading take a path for the same file, provided that the path does not begin with a tilde. Where it
does, only loading looks for a home directory, and the file is the same only if that directory is
the one that the tilde names where the path is saved.
-/

namespace SignOn

namespace FileTree

variable {tree : FileTree} {place : Location} {held : List UInt8}

theorem node?_overwrite (there : tree.node? place = some (.file held)) (bytes : List UInt8)
    (location : Location) :
    (tree.put place (.file bytes)).node? location =
      if location = place then some (.file bytes) else tree.node? location := by
  have below : place ≠ [] := by
    rintro rfl
    cases there
  rw [node?_put]
  by_cases root : location = []
  · rw [if_pos root, if_neg (root ▸ below.symm), root, node?, if_pos rfl]
  · rw [if_neg root]

theorem follow_overwrite (there : tree.node? place = some (.file held)) (bytes : List UInt8)
    (start : Location) (names : List String) :
    (tree.put place (.file bytes)).follow start names = tree.follow start names := by
  induction names generalizing start with
  | nil => rfl
  | cons name rest ih =>
    unfold follow
    rw [node?_overwrite there]
    by_cases here : start = place
    · rw [if_pos here, here, there]
    · simp only [if_neg here, ih]

theorem find_of_follow {start here : Location} {names : List String}
    (reached : tree.follow start names = .ok here) :
    tree.find start names = .ok (tree.node? here) := by
  unfold find
  rw [reached]

theorem find_overwrite {start : Location} {names : List String}
    (there : tree.node? place = some (.file held)) (bytes : List UInt8)
    (elsewhere : tree.follow start names ≠ .ok place) :
    (tree.put place (.file bytes)).find start names = tree.find start names := by
  have same := follow_overwrite there bytes start names
  cases led : tree.follow start names with
  | error fault =>
    unfold find
    rw [same, led]
    cases fault <;> rfl
  | ok location =>
    have apart : location ≠ place := by
      rintro rfl
      exact elsewhere led
    rw [find_of_follow led, find_of_follow (same.trans led), node?_overwrite there, if_neg apart]

end FileTree

namespace Host

variable {host : Host} {path : Path} {place : Location} {held : List UInt8}

/-- The way of a path can be followed up to a place, be there anything at it or not. -/
structure Leads (host : Host) (path : Path) (place : Location) : Prop where
  whole : holdsNul path.text = false
  short : isTooLong path = false
  led : host.files.follow (host.start path) path.segments = .ok place

/-- The host with other bytes in the file at a place. -/
def holding (host : Host) (place : Location) (bytes : List UInt8) : Host :=
  { host with files := host.files.put place (.file bytes) }

theorem start_holding (place : Location) (bytes : List UInt8) (path : Path) :
    (host.holding place bytes).start path = host.start path := rfl

theorem Leads.unique {other : Location} (leads : host.Leads path place)
    (also : host.Leads path other) : place = other :=
  Except.ok.inj (leads.led.symm.trans also.led)

theorem read?_of_leads {bytes : List UInt8} (leads : host.Leads path place)
    (there : host.files.node? place = some (.file bytes)) :
    host.read? path = .ok (some bytes) := by
  unfold read?
  rw [leads.whole, leads.short, FileTree.find_of_follow leads.led, there]
  rfl

theorem leads_of_read? {bytes : List UInt8} (read : host.read? path = .ok (some bytes)) :
    ∃ place, host.Leads path place ∧ host.files.node? place = some (.file bytes) := by
  unfold read? at read
  split at read
  next => cases read
  next whole =>
    split at read
    next => cases read
    next short =>
      cases led : host.files.follow (host.start path) path.segments with
      | error fault =>
        unfold FileTree.find at read
        rw [led] at read
        cases fault <;> cases read
      | ok place =>
        rw [FileTree.find_of_follow led] at read
        refine ⟨place, ⟨eq_false_of_ne_true whole, eq_false_of_ne_true short, led⟩, ?_⟩
        cases there : host.files.node? place with
        | none =>
          rw [there] at read
          cases read
        | some node =>
          rw [there] at read
          cases node with
          | directory => cases read
          | file held =>
            cases read
            rfl

theorem leads_holding_iff (there : host.files.node? place = some (.file held))
    (bytes : List UInt8) {other : Location} :
    (host.holding place bytes).Leads path other ↔ host.Leads path other := by
  have same := FileTree.follow_overwrite there bytes (host.start path) path.segments
  constructor
  · intro leads
    exact ⟨leads.whole, leads.short, same.symm.trans leads.led⟩
  · intro leads
    exact ⟨leads.whole, leads.short, same.trans leads.led⟩

theorem read?_holding (there : host.files.node? place = some (.file held))
    (leads : host.Leads path place) (bytes : List UInt8) :
    (host.holding place bytes).read? path = .ok (some bytes) := by
  apply read?_of_leads ((leads_holding_iff there bytes).2 leads)
  exact (FileTree.node?_overwrite there bytes place).trans (if_pos rfl)

theorem read?_holding_of_elsewhere (there : host.files.node? place = some (.file held))
    (elsewhere : ¬ host.Leads path place) (bytes : List UInt8) :
    (host.holding place bytes).read? path = host.read? path := by
  by_cases whole : holdsNul path.text = true
  · unfold read?
    rw [if_pos whole, if_pos whole]
  · by_cases short : isTooLong path = true
    · unfold read?
      rw [if_neg whole, if_neg whole, if_pos short, if_pos short]
    · have unled : host.files.follow (host.start path) path.segments ≠ .ok place := by
        intro led
        exact elsewhere ⟨eq_false_of_ne_true whole, eq_false_of_ne_true short, led⟩
      have found : (host.holding place bytes).files.find (host.start path) path.segments =
          host.files.find (host.start path) path.segments :=
        FileTree.find_overwrite there bytes unled
      unfold read?
      rw [start_holding, found]

theorem leads_of_write {after : Host} {text : String}
    (written : host.write path text = (.ok (), after)) :
    after.Leads path (host.placeOf path) := by
  obtain ⟨place, leads, there⟩ := leads_of_read? (read?_of_write written)
  have start : after.start path = host.start path := by
    rw [rest_of_write written]
    rfl
  obtain ⟨same, -⟩ := FileTree.follow_eq_ok_iff.1 leads.led
  rw [start] at same
  rw [placeOf, ← same]
  exact leads

end Host

namespace ConfigFile

variable {host : Host} {path : String} {place : Location} {held : List UInt8} {read : Reader}

/-- Loading from a path reads the file at a place: whatever that file holds, and however it is read,
is what is loaded. -/
def Reads (host : Host) (path : String) (place : Location) : Prop :=
  ∃ name, ∀ read bytes, load read (host.holding place bytes) (some path) =
    (ofBytes read name bytes).map (withOverride host)

theorem load_holding {located : Path} (found : locate host (some path) = .ok located)
    (there : host.files.node? place = some (.file held)) (leads : host.Leads located place)
    (read : Reader) (bytes : List UInt8) :
    load read (host.holding place bytes) (some path) =
      (ofBytes read located.text bytes).map (withOverride host) := by
  have again : locate (host.holding place bytes) (some path) = .ok located := found
  rw [load_of_located again]
  unfold loadFrom
  rw [Host.read?_holding there leads]
  rfl

theorem load_holding_of_elsewhere {located : Path}
    (found : locate host (some path) = .ok located)
    (there : host.files.node? place = some (.file held)) (elsewhere : ¬ host.Leads located place)
    (read : Reader) (bytes : List UInt8) :
    load read (host.holding place bytes) (some path) = load read host (some path) := by
  have again : locate (host.holding place bytes) (some path) = .ok located := found
  rw [load_of_located again, load_of_located found]
  unfold loadFrom
  rw [Host.read?_holding_of_elsewhere there elsewhere]
  rfl

/-- Loading reads the file that the path leads to once it is known what its tilde stands for. -/
theorem reads_iff (there : host.files.node? place = some (.file held)) :
    Reads host path place ↔
      ∃ located, host.expand (.ofString path) = .ok located ∧ host.Leads located place := by
  constructor
  · rintro ⟨name, reads⟩
    -- A reader that takes anything but an empty text tells where a path was found, and that the
    -- file there matters.
    let read : Reader := fun text => if text = "" then .error (.malformed "") else .ok {}
    have full : load read (host.holding place [0x20]) (some path) = .ok (withOverride host {}) :=
      reads read [0x20]
    have empty : load read (host.holding place []) (some path) =
        .error (.config (.malformed name "")) := reads read []
    cases found : host.expand (.ofString path) with
    | error failure =>
      have lost : locate (host.holding place [0x20]) (some path) = .error failure := found
      unfold load at full
      rw [lost] at full
      cases full
    | ok located =>
      refine ⟨located, rfl, ?_⟩
      by_cases leads : host.Leads located place
      · exact leads
      · rw [load_holding_of_elsewhere found there leads] at full empty
        cases full.symm.trans empty
  · rintro ⟨located, found, leads⟩
    exact ⟨located.text, load_holding found there leads⟩

theorem ofBytes_ne_fileNotFound (name missing : String) (bytes : List UInt8) :
    (ofBytes read name bytes).map (withOverride host) ≠
      .error (.config (.fileNotFound missing)) := by
  intro failed
  unfold ofBytes at failed
  cases decoded : Host.textOf bytes with
  | none =>
    rw [decoded] at failed
    cases failed
  | some text =>
    rw [decoded] at failed
    simp only at failed
    rcases described : read text with unread | config
    · rw [described] at failed
      cases unread <;> cases failed
    · rw [described] at failed
      cases failed

/-- Saving and loading agree on the file that a path names, exactly where the path does not begin
with a tilde or the tilde stands for the place that it names. Then what was saved is what loading
reads, it is not missed, and no other file matters. -/
theorem saved_read_iff {dump : Dumper} {config : ClientsConfig} {after : Host}
    (saved : save dump host config path = (.ok (), after)) :
    let place := host.placeOf (.ofString path)
    ∃ value, dump config = .ok value ∧
      host.files.Replaced after.files (host.start (.ofString path)) (Path.ofString path).segments
        (Utf8.encode (textOf value)) ∧
      (Reads after path place ↔ (Path.ofString path).isHomely = false ∨
        ∃ located, after.expand (.ofString path) = .ok located ∧ after.Leads located place) ∧
      (Reads after path place → ∀ read,
        (∃ name, load read after (some path) =
          (ofBytes read name (Utf8.encode (textOf value))).map (withOverride after)) ∧
        (∀ missing, load read after (some path) ≠ .error (.config (.fileNotFound missing))) ∧
        ∀ other held, other ≠ place → after.files.node? other = some (.file held) →
          ∀ others, load read (after.holding other others) (some path) =
            load read after (some path)) := by
  intro place
  obtain ⟨value, dumped, written⟩ := written_of_save saved
  have replaced := Host.replaced_of_write written
  have leads := Host.leads_of_write written
  have there : after.files.node? place = some (.file (Utf8.encode (textOf value))) :=
    replaced.there
  refine ⟨value, dumped, replaced, ?_, ?_⟩
  · rw [reads_iff there]
    constructor
    · exact Or.inr
    · rintro (plain | home)
      · have found : after.expand (.ofString path) = .ok (.ofString path) := locate_of_plain plain
        exact ⟨_, found, leads⟩
      · exact home
  · intro reads read
    obtain ⟨located, found, leads⟩ := (reads_iff there).1 reads
    have again : locate after (some path) = .ok located := found
    have loaded : load read after (some path) =
        (ofBytes read located.text (Utf8.encode (textOf value))).map (withOverride after) := by
      rw [load_of_located again]
      unfold loadFrom
      rw [Host.read?_of_leads leads there]
    refine ⟨⟨_, loaded⟩, fun missing => ?_, fun other held apart elsewhere others => ?_⟩
    · rw [loaded]
      exact ofBytes_ne_fileNotFound _ _ _
    · apply load_holding_of_elsewhere found elsewhere
      intro also
      exact apart (also.unique leads)

theorem inner_tilde_read :
    ∃ after, save (dumpWithin dumpLevels) homelyHost {} "etc/.//~/x.json/" = (.ok (), after) ∧
      Reads after "etc/.//~/x.json/" ["etc", "~", "x.json"] ∧
      load parse after (some "etc/.//~/x.json/") = .ok {} := by
  have plain : (Path.ofString "etc/.//~/x.json/").isHomely = false := by decide +kernel
  have saved : save (dumpWithin dumpLevels) homelyHost {} "etc/.//~/x.json/" = (.ok (), _) :=
    Prod.ext (show _ = Except.ok () from rfl) rfl
  obtain ⟨value, dumped, -, agrees, reading⟩ := saved_read_iff saved
  have reads := agrees.2 (Or.inl plain)
  obtain ⟨name, loaded⟩ := (reading reads parse).1
  have empty : value = ClientsConfig.dump {} := (Except.ok.inj dumped).symm
  rw [empty, ofBytes_textOf (fun _ absent => absurd absent List.not_mem_nil)
    (fun _ absent => absurd absent List.not_mem_nil)] at loaded
  exact ⟨_, saved, reads, loaded⟩

theorem tilde_missed :
    ¬ ∀ (host after : Host) (config : ClientsConfig) (path : String),
      save (dumpWithin dumpLevels) host config path = (.ok (), after) →
      Reads after path (host.placeOf (.ofString path)) ∧
        ∀ missing, load parse after (some path) ≠ .error (.config (.fileNotFound missing)) := by
  intro claim
  have saved : save (dumpWithin dumpLevels) homelyHost {} "~/x.json" = (.ok (), _) :=
    Prod.ext (show _ = Except.ok () from rfl) rfl
  have missed : load parse (save (dumpWithin dumpLevels) homelyHost {} "~/x.json").2
      (some "~/x.json") = .error (.config (.fileNotFound "/home/user/x.json")) := rfl
  exact (claim _ _ _ _ saved).2 _ missed

end ConfigFile

end SignOn
