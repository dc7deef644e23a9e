import SignOn.Files.Host

/-!
Reading a file that was written. Whether a path can be written to does not depend on the text. A
write makes the directories on the way and then puts the bytes where the path leads, and changes
nothing else. It leaves every directory a directory, so following the path again finds the bytes
there. Bytes that cannot be put where the path leads are not left anywhere else.
-/

namespace SignOn

namespace FileTree

variable {tree other : FileTree} {start here : Location} {names : List String}

theorem node?_remove (tree : FileTree) (location other : Location) :
    (tree.remove location).node? other =
      if other = [] then some .directory else if other = location then none
      else tree.node? other := by
  unfold node? remove
  split
  · rfl
  · exact Entries.lookup_filter_ne tree.nodes location other

theorem node?_put (tree : FileTree) (location other : Location) (node : Node) :
    (tree.put location node).node? other =
      if other = [] then some .directory else if other = location then some node
      else tree.node? other := by
  have gone : (tree.remove location).nodes.lookup other =
      if other = location then none else tree.nodes.lookup other :=
    Entries.lookup_filter_ne tree.nodes location other
  unfold node? put
  rw [List.lookup_append, gone]
  by_cases root : other = []
  · rw [if_pos root, if_pos root]
  · by_cases same : other = location
    · simp [same]
    · have apart : (other == location) = false := beq_eq_false_iff_ne.2 same
      simp only [if_neg root, if_neg same, List.lookup_cons, apart, List.lookup_nil,
        Option.or_none]

theorem follow_cons_eq_ok {name : String} {rest : List String} :
    tree.follow start (name :: rest) = .ok here ↔
      tree.node? start = some .directory ∧
        (if name = ".." then tree.follow start.dropLast rest = .ok here
          else isTooLong name = false ∧ tree.follow (start ++ [name]) rest = .ok here) := by
  rw [follow]
  cases tree.node? start with
  | none => simp
  | some node =>
    cases node with
    | file bytes => simp
    | directory =>
      by_cases up : name = ".."
      · simp [up]
      · cases isTooLong name <;> simp [up]

theorem follow_append (reached : tree.follow start names = .ok here) (more : List String) :
    tree.follow start (names ++ more) = tree.follow here more := by
  induction names generalizing start with
  | nil =>
    cases reached
    rfl
  | cons name rest ih =>
    obtain ⟨directory, onward⟩ := follow_cons_eq_ok.1 reached
    rw [List.cons_append, follow, directory]
    simp only
    split at onward
    next up => rw [if_pos up, ih onward]
    next down => rw [if_neg down, onward.1, if_neg Bool.false_ne_true, ih onward.2]

theorem follow_of_directories
    (stay : ∀ location, tree.node? location = some .directory →
      other.node? location = some .directory)
    (reached : tree.follow start names = .ok here) : other.follow start names = .ok here := by
  induction names generalizing start with
  | nil => exact reached
  | cons name rest ih =>
    obtain ⟨directory, onward⟩ := follow_cons_eq_ok.1 reached
    refine follow_cons_eq_ok.2 ⟨stay start directory, ?_⟩
    split at onward
    next up => exact (if_pos up).mpr (ih onward)
    next down => exact (if_neg down).mpr ⟨onward.1, ih onward.2⟩

theorem free_of_freeName? {directory : Location} {name candidate : String} {attempts : Nat}
    (free : tree.freeName? directory name attempts = some candidate) :
    tree.node? (directory ++ [candidate]) = none ∧
      ∃ number < attempts, candidate = temporaryName name number := by
  induction attempts with
  | zero => cases free
  | succ left ih =>
    unfold freeName? at free
    simp only at free
    split at free
    next unused =>
      cases free
      exact ⟨Option.isNone_iff_eq_none.1 unused, left, Nat.lt_succ_self left, rfl⟩
    next =>
      obtain ⟨unused, number, earlier, same⟩ := ih free
      exact ⟨unused, number, Nat.lt_succ_of_lt earlier, same⟩

theorem taken_of_freeName? {directory : Location} {name : String} {attempts : Nat}
    (none : tree.freeName? directory name attempts = none) :
    ∀ number < attempts, (tree.node? (directory ++ [temporaryName name number])).isSome = true := by
  induction attempts with
  | zero => simp
  | succ left ih =>
    unfold freeName? at none
    simp only at none
    split at none
    next => cases none
    next used =>
      intro number earlier
      rcases Nat.lt_succ_iff_lt_or_eq.1 earlier with further | rfl
      · exact ih none number further
      · rw [Option.isSome_iff_ne_none]
        exact fun free => used (Option.isNone_iff_eq_none.2 free)

/-- What it means that a file was put in a directory: it is there, and whatever was a directory
still is one. -/
structure Placed (before after : FileTree) (directory : Location) (name : String)
    (bytes : List UInt8) : Prop where
  inside : before.node? directory = some .directory
  named : name ≠ "" ∧ name ≠ ".."
  short : isTooLong name = false
  there : after.node? (directory ++ [name]) = some (.file bytes)
  stay : ∀ location, before.node? location = some .directory →
    after.node? location = some .directory

theorem isTooLong_of_temporary {name : String} (short : isTooLong (temporaryName name 0) = false) :
    isTooLong name = false := by
  have whole : (Utf8.encode (temporaryName name 0)).length ≤ longestName := by
    simpa [isTooLong] using short
  have part : (Utf8.encode name).length ≤ (Utf8.encode (temporaryName name 0)).length := by
    simp only [temporaryName, Utf8.encode, Utf8.encodeChars, String.toList_append,
      List.flatMap_append, List.length_append]
    omega
  simpa [isTooLong] using Nat.le_trans part whole

theorem ne_root_of_free {location : Location} (free : tree.node? location = none) :
    location ≠ [] := by
  rintro rfl
  cases free

theorem node?_put_of_free {source : Location} (free : tree.node? source = none) (node : Node)
    (location : Location) :
    (tree.put source node).node? location =
      if location = source then some node else tree.node? location := by
  rw [node?_put]
  by_cases same : location = source
  · rw [if_neg (same ▸ ne_root_of_free free)]
  · simp only [if_neg same]
    split
    next root => rw [root, node?, if_pos rfl]
    next => rfl

theorem rename_new {source : Location} (free : tree.node? source = none) (target : Location)
    (bytes : List UInt8) :
    (tree.put source (.file bytes)).rename source target =
      if tree.isDirectory target then .error .isDirectory
      else .ok (((tree.put source (.file bytes)).remove source).put target (.file bytes)) := by
  unfold rename isDirectory
  rw [node?_put_of_free free, node?_put_of_free free, if_pos rfl]
  by_cases same : target = source
  · rw [if_pos same, same, free]
    rfl
  · rw [if_neg same]
    cases tree.node? target with
    | none => rfl
    | some node => cases node <;> rfl

theorem node?_of_rename {moved : FileTree} {source target : Location} {bytes : List UInt8}
    (free : tree.node? source = none) (top : target ≠ [])
    (renamed : (tree.put source (.file bytes)).rename source target = .ok moved) :
    tree.node? target ≠ some .directory ∧ ∀ location, moved.node? location =
      if location = target then some (.file bytes) else tree.node? location := by
  rw [rename_new free] at renamed
  split at renamed
  next => cases renamed
  next replaceable =>
    cases renamed
    refine ⟨fun directory => replaceable (beq_iff_eq.2 directory), fun location => ?_⟩
    rw [node?_put, node?_remove, node?_put_of_free free]
    by_cases root : location = []
    · rw [if_pos root, if_neg (root ▸ top.symm), root]
      rfl
    · rw [if_neg root, if_neg root]
      by_cases target : location = target
      · rw [if_pos target, if_pos target]
      · rw [if_neg target, if_neg target]
        split
        next here => rw [here, free]
        next => rfl

theorem node?_remove_put {source : Location} (free : tree.node? source = none) (node : Node)
    (location : Location) :
    ((tree.put source node).remove source).node? location = tree.node? location := by
  rw [node?_remove, node?_put_of_free free]
  split
  next root => rw [root, FileTree.node?, if_pos rfl]
  next =>
    split
    next here => rw [here, free]
    next => rfl

/-- All that comes of putting a file in a directory: it is there and nothing else has changed, the
temporary name that was free before included. -/
structure Swapped (before after : FileTree) (directory : Location) (name : String)
    (bytes : List UInt8) : Prop extends Placed before after directory name bytes where
  hidden : isTooLong (temporaryName name 0) = false
  replaceable : before.node? (directory ++ [name]) ≠ some .directory
  elsewhere : ∀ location, location ≠ directory ++ [name] →
    after.node? location = before.node? location
  unused : ∃ number < attempts, before.node? (directory ++ [temporaryName name number]) = none

theorem swapped_of_replaceFile {tree after : FileTree} {directory : Location} {name : String}
    {bytes : List UInt8} (replaced : tree.replaceFile directory name bytes = (.ok (), after)) :
    Swapped tree after directory name bytes := by
  unfold replaceFile at replaced
  split at replaced
  next => cases replaced
  next inside =>
    split at replaced
    next => cases replaced
    next short =>
      cases free : tree.freeName? directory name attempts with
      | none =>
        rw [free] at replaced
        cases replaced
      | some temporary =>
        simp only [free] at replaced
        split at replaced
        next moved renamed =>
          cases replaced
          split at renamed
          next => cases renamed
          next named =>
            rw [not_or] at named
            obtain ⟨unused, number, earlier, rfl⟩ := free_of_freeName? free
            obtain ⟨replaceable, nodes⟩ := node?_of_rename unused (by simp) renamed
            have hidden : isTooLong (temporaryName name 0) = false := eq_false_of_ne_true short
            have elsewhere (location : Location) (away : location ≠ directory ++ [name]) :
                after.node? location = tree.node? location := (nodes location).trans (if_neg away)
            exact
              { inside := by simpa [isDirectory] using inside
                named := named
                short := isTooLong_of_temporary hidden
                there := (nodes _).trans (if_pos rfl)
                stay := fun location stood => by
                  have away : location ≠ directory ++ [name] := by
                    rintro rfl
                    exact replaceable stood
                  rw [elsewhere location away, stood]
                hidden := hidden
                replaceable := replaceable
                elsewhere := elsewhere
                unused := ⟨number, earlier, unused⟩ }
        next => cases replaced

/-- A file that cannot be put in a directory leaves nothing behind. It cannot be put where there is
no directory, where its name is too long, where no temporary name is left, where it has no name of
its own, and where a directory has that name. -/
theorem unswapped_of_replaceFile {tree after : FileTree} {directory : Location} {name : String}
    {bytes : List UInt8} {fault : FileFault}
    (failed : tree.replaceFile directory name bytes = (.error fault, after)) :
    (∀ location, after.node? location = tree.node? location) ∧
      (tree.node? directory ≠ some .directory ∨ isTooLong (temporaryName name 0) = true ∨
        (∀ number < attempts,
          (tree.node? (directory ++ [temporaryName name number])).isSome = true) ∨
        (name = "" ∨ name = "..") ∨ tree.node? (directory ++ [name]) = some .directory) := by
  unfold replaceFile at failed
  split at failed
  next outside =>
    cases failed
    exact ⟨fun _ => rfl, Or.inl (by simpa [isDirectory] using outside)⟩
  next =>
    split at failed
    next long =>
      cases failed
      exact ⟨fun _ => rfl, Or.inr (Or.inl long)⟩
    next =>
      cases free : tree.freeName? directory name attempts with
      | none =>
        rw [free] at failed
        cases failed
        exact ⟨fun _ => rfl, Or.inr (Or.inr (Or.inl (taken_of_freeName? free)))⟩
      | some temporary =>
        simp only [free] at failed
        have unused := (free_of_freeName? free).1
        split at failed
        next => cases failed
        next reason unmoved =>
          cases failed
          refine ⟨node?_remove_put unused _, Or.inr (Or.inr (Or.inr ?_))⟩
          split at unmoved
          next unnamed => exact Or.inl unnamed
          next =>
            rw [rename_new unused] at unmoved
            split at unmoved
            next directory => exact Or.inr (beq_iff_eq.1 directory)
            next => cases unmoved

theorem replaceFile_outcome (tree : FileTree) (directory : Location) (name : String)
    (bytes other : List UInt8) :
    (tree.replaceFile directory name bytes).1 = (tree.replaceFile directory name other).1 := by
  unfold replaceFile
  cases tree.isDirectory directory with
  | false => rfl
  | true =>
    cases isTooLong (temporaryName name 0) with
    | true => rfl
    | false =>
      cases free : tree.freeName? directory name attempts with
      | none => rfl
      | some temporary =>
        simp only [rename_new (free_of_freeName? free).1]
        by_cases fixed : name = "" ∨ name = ".."
        · simp only [if_pos fixed]
          rfl
        · simp only [if_neg fixed]
          cases tree.isDirectory (directory ++ [name]) <;> rfl

end FileTree

namespace Host

theorem holdsNul_text (path : Path) : holdsNul path.text = path.segments.any holdsNul := by
  have slashes : (Path.rootText path.root).toList.any isNul = false := by
    cases path.root <;> rfl
  have between : "/".toList.any isNul = false := by
    decide
  unfold Path.text
  split
  next empty =>
    rw [empty.2]
    rfl
  next =>
    unfold holdsNul
    rw [String.toList_append, List.any_append, slashes, String.toList_intercalate,
      Text.any_intercalate between, List.any_map]
    rfl

variable {host after : Host} {path : Path} {text : String}

/-- All of a write but the writing: the directories on the way are made and the last of them is
found. -/
def approach (host : Host) (path : Path) : Except FileFault Location × FileTree :=
  if holdsNul path.parent.text then (.error .badName, host.files)
  else if isTooLong path.parent then (.error .nameTooLong, host.files)
  else
    match host.files.ensureDirectory (host.start path) path.parent.segments.reverse with
    | (.error fault, reached) => (.error fault, reached)
    | (.ok (), reached) =>
      if holdsNul path.name then (.error .badName, reached)
      else
        match reached.follow (host.start path) path.parent.segments with
        | .error fault => (.error fault, reached)
        | .ok directory =>
          if isTooLongToReplace path directory then (.error .nameTooLong, reached)
          else (.ok directory, reached)

theorem write_eq (host : Host) (path : Path) (text : String) :
    host.write path text =
      match host.approach path with
      | (.error fault, reached) => (.error fault, { host with files := reached })
      | (.ok directory, reached) =>
        let (result, files) := reached.replaceFile directory path.name (Utf8.encode text)
        (result, { host with files }) := by
  unfold write approach
  split
  next => rfl
  next =>
    split
    next => rfl
    next =>
      rcases host.files.ensureDirectory (host.start path) path.parent.segments.reverse with
        ⟨fault | _, reached⟩
      · rfl
      · dsimp only
        split
        next => rfl
        next =>
          cases reached.follow (host.start path) path.parent.segments with
          | error fault => rfl
          | ok directory =>
            dsimp only
            split <;> rfl

/-- Some text can be written to the path. -/
def Writable (host : Host) (path : Path) : Prop :=
  ∃ text after, host.write path text = (.ok (), after)

theorem write_outcome (host : Host) (path : Path) (text other : String) :
    (host.write path text).1 = (host.write path other).1 := by
  rw [write_eq, write_eq]
  split
  next => rfl
  next directory reached _ => exact FileTree.replaceFile_outcome reached directory path.name _ _

theorem write_of_writable (writable : host.Writable path) (text : String) :
    ∃ after, host.write path text = (.ok (), after) := by
  obtain ⟨other, elsewhere, written⟩ := writable
  refine ⟨(host.write path text).2, Prod.ext ?_ rfl⟩
  rw [write_outcome host path text other, written]

/-- How the file itself is reached: the way to it can be followed, once the directories are made,
and no name is too long or unfit for one. -/
structure Approached (host : Host) (path : Path) (directory : Location) (reached : FileTree) :
    Prop where
  readable : holdsNul path.parent.text = false ∧ holdsNul path.name = false
  short : isTooLong path.parent = false ∧ isTooLongToReplace path directory = false
  ensured : host.files.ensureDirectory (host.start path) path.parent.segments.reverse =
    (.ok (), reached)
  led : reached.follow (host.start path) path.parent.segments = .ok directory

theorem approached_of_approach {directory : Location} {reached : FileTree}
    (found : host.approach path = (.ok directory, reached)) :
    host.Approached path directory reached := by
  unfold approach at found
  split at found
  next => cases found
  next parentWhole =>
    split at found
    next => cases found
    next parentShort =>
      split at found
      next => cases found
      next ensured =>
        split at found
        next => cases found
        next nameWhole =>
          split at found
          next => cases found
          next led =>
            split at found
            next => cases found
            next short =>
              cases found
              exact
                { readable := ⟨eq_false_of_ne_true parentWhole, eq_false_of_ne_true nameWhole⟩
                  short := ⟨eq_false_of_ne_true parentShort, eq_false_of_ne_true short⟩
                  ensured := ensured
                  led := led }

theorem swapped_of_write (written : host.write path text = (.ok (), after)) :
    ∃ directory reached, host.approach path = (.ok directory, reached) ∧
      reached.Swapped after.files directory path.name (Utf8.encode text) ∧
      after = { host with files := after.files } := by
  rw [write_eq] at written
  split at written
  next => cases written
  next directory reached found =>
    rcases replaced : reached.replaceFile directory path.name (Utf8.encode text) with
      ⟨result, files⟩
    rw [replaced] at written
    cases written
    exact ⟨directory, reached, found, FileTree.swapped_of_replaceFile replaced, rfl⟩

theorem rest_of_write (written : host.write path text = (.ok (), after)) :
    after = { host with files := after.files } := by
  obtain ⟨directory, reached, found, swapped, rest⟩ := swapped_of_write written
  exact rest

theorem segments_of_name (named : path.name ≠ "") :
    path.segments = path.parent.segments ++ [path.name] := by
  unfold Path.name Path.parent at *
  rcases List.eq_nil_or_concat path.segments with none | ⟨front, last, some⟩
  · rw [none] at named
    exact absurd rfl named
  · simp [some]

theorem read?_of_write (written : host.write path text = (.ok (), after)) :
    after.read? path = .ok (some (Utf8.encode text)) := by
  obtain ⟨directory, reached, found, swapped, rest⟩ := swapped_of_write written
  have approached := approached_of_approach found
  have placed := swapped.toPlaced
  have split := segments_of_name placed.named.1
  have whole : holdsNul path.text = false := by
    have parents := approached.readable.1
    rw [holdsNul_text] at parents
    rw [holdsNul_text, split, List.any_append, parents, List.any_cons, approached.readable.2]
    rfl
  have short : isTooLong path = false := by
    have replaceable := approached.short.2
    rw [isTooLongToReplace, Bool.or_eq_false_iff] at replaceable
    exact replaceable.1
  have start : after.start path = host.start path := by
    rw [rest]
    rfl
  have inside : after.files.follow directory [path.name] = .ok (directory ++ [path.name]) := by
    refine FileTree.follow_cons_eq_ok.2 ⟨placed.stay directory placed.inside, ?_⟩
    rw [if_neg placed.named.2]
    exact ⟨placed.short, rfl⟩
  have found : after.files.find (after.start path) path.segments =
      .ok (some (.file (Utf8.encode text))) := by
    have onward := FileTree.follow_append
      (FileTree.follow_of_directories placed.stay approached.led) [path.name]
    unfold FileTree.find
    rw [start, split, onward, inside]
    simp only [placed.there]
  unfold read?
  rw [whole, short]
  simp only [Bool.false_eq_true, if_false, found]

theorem read?_congr {other : Host} (files : other.files = host.files)
    (directory : other.workingDirectory = host.workingDirectory) (path : Path) :
    other.read? path = host.read? path := by
  unfold read? start
  rw [files, directory]

end Host

end SignOn
