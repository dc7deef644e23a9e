import SignOn.Proofs.ConfigFile
import SignOn.Proofs.Directories

/-!
Saving at one stroke. A write either puts the whole text at the path, and changes nothing else but
that the directories on the way are there now, or it fails and leaves no file behind that was not
there before. Which of the two it is can be told beforehand, from what is in the way.
-/

namespace SignOn

/-- The file of the names is there, every other file and directory is as it was, and what else is
new is a directory on the way to the file. -/
structure FileTree.Replaced (before after : FileTree) (start : Location) (names : List String)
    (bytes : List UInt8) : Prop where
  there : after.node? (walk start names) = some (.file bytes)
  kept : ∀ location node, location ≠ walk start names → before.node? location = some node →
    after.node? location = some node
  new : ∀ location node, location ≠ walk start names → before.node? location = none →
    after.node? location = some node → node = .directory ∧ Passes start names.dropLast location

namespace Host

open FileTree (walk Passes Blocked Grown temporaryName attempts)

/-- The location that a path leads to, be there anything or not. -/
def placeOf (host : Host) (path : Path) : Location := walk (host.start path) path.segments

/-- There is something at the location, or there will be once the directories on the way to the
path are made. -/
def Taken (host : Host) (path : Path) (location : Location) : Prop :=
  host.files.node? location ≠ none ∨ Passes (host.start path) path.parent.segments location

/-- What keeps a file from being written: a name or a path that no file can have, a working
directory that is gone, a file or too long a name on the way, a directory in its place, be it one
that is still to be made, or that every temporary name is taken. -/
inductive Obstacle (host : Host) (path : Path) : Prop where
  | badName (name : String) (member : name ∈ path.segments) (unfit : holdsNul name = true)
  | tooLong (long : isTooLong path.parent = true ∨
      isTooLongToReplace path (host.placeOf path.parent) = true ∨
      FileTree.isTooLong (temporaryName path.name 0) = true)
  | nowhere (gone : host.files.node? (host.start path) = none)
  | blocked (way : Blocked host.files (host.start path) path.parent.segments)
  | nameless (unnamed : path.name = "" ∨ path.name = "..")
  | directory (there : host.files.node? (host.placeOf path) = some .directory ∨
      Passes (host.start path) path.parent.segments (host.placeOf path))
  | crowded (full : ∀ number < attempts,
      host.Taken path (host.placeOf path.parent ++ [temporaryName path.name number]))

variable {host after : Host} {path : Path} {text : String} {directory : Location}
  {reached : FileTree} {fault : FileFault}

theorem placeOf_of_named (named : path.name ≠ "") (down : path.name ≠ "..") :
    host.placeOf path = host.placeOf path.parent ++ [path.name] := by
  have last : walk (host.placeOf path.parent) [path.name] =
      host.placeOf path.parent ++ [path.name] := if_neg down
  rw [← last]
  unfold placeOf
  rw [segments_of_name named, FileTree.walk_append]
  rfl

theorem grown_approach (host : Host) (path : Path) :
    Grown host.files (host.approach path).2 (host.start path) path.parent.segments := by
  have untouched := Grown.refl host.files (host.start path) path.parent.segments
  have grown := FileTree.grown_ensureDirectory host.files (host.start path)
    path.parent.segments.reverse
  rw [List.reverse_reverse] at grown
  unfold approach
  split
  next => exact untouched
  next =>
    split
    next => exact untouched
    next =>
      generalize host.files.ensureDirectory _ _ = made at grown
      rcases made with ⟨fault | _, reached⟩
      · exact grown
      · dsimp only
        split
        next => exact grown
        next =>
          cases reached.follow (host.start path) path.parent.segments with
          | error fault => exact grown
          | ok directory =>
            dsimp only
            split <;> exact grown

theorem grown_of_approach {result : Except FileFault Location}
    (found : host.approach path = (result, reached)) :
    Grown host.files reached (host.start path) path.parent.segments := by
  have grown := grown_approach host path
  rw [found] at grown
  exact grown

theorem obstacle_of_approach (failed : host.approach path = (.error fault, reached)) :
    host.Obstacle path := by
  unfold approach at failed
  split at failed
  next unfit =>
    rw [holdsNul_text, List.any_eq_true] at unfit
    obtain ⟨name, member, unfit⟩ := unfit
    exact .badName name (List.dropLast_subset path.segments member) unfit
  next =>
    split at failed
    next long => exact .tooLong (Or.inl long)
    next =>
      split at failed
      next other files unmade =>
        have blocked := FileTree.blocked_of_ensureDirectory (congrArg Prod.fst unmade)
        rw [List.reverse_reverse] at blocked
        rcases blocked with gone | way
        · exact .nowhere gone
        · exact .blocked way
      next ensured =>
        have way := FileTree.follow_of_ensureDirectory ensured
        rw [List.reverse_reverse] at way
        split at failed
        next unfit =>
          have named : path.name ≠ "" := by
            intro empty
            rw [empty] at unfit
            cases unfit
          exact .badName path.name (by simp [segments_of_name named]) unfit
        next =>
          rw [way] at failed
          dsimp only at failed
          split at failed
          next long => exact .tooLong (Or.inr (Or.inl long))
          next => cases failed

theorem obstacle_of_outside (found : host.approach path = (.ok directory, reached))
    (outside : reached.node? directory ≠ some .directory) : host.Obstacle path := by
  have approached := approached_of_approach found
  have ensured := approached.ensured
  have led := approached.led
  rcases names : path.parent.segments with _ | ⟨name, rest⟩
  · rw [names] at ensured led
    cases ensured
    cases led
    cases there : host.files.node? (host.start path) with
    | none => exact .nowhere there
    | some node =>
      cases node with
      | directory => exact absurd there outside
      | file bytes =>
        exact .blocked (.file [] List.nil_prefix bytes there)
  · have leads := FileTree.leads_of_ensureDirectory (congrArg Prod.fst ensured) (by simp [names])
    rw [ensured, List.reverse_reverse] at leads
    obtain ⟨rfl, -⟩ := FileTree.follow_eq_ok_iff.1 led
    exact absurd ((FileTree.leadsToDirectory_iff.1 leads).1 _ (List.prefix_refl _)) outside

theorem start_of_approached (approached : host.Approached path directory reached)
    (inside : reached.node? directory = some .directory) :
    host.files.node? (host.start path) ≠ none := by
  have ensured := approached.ensured
  have led := approached.led
  intro gone
  rcases names : path.parent.segments.reverse with _ | ⟨name, above⟩
  · rw [names] at ensured
    rw [List.reverse_eq_nil_iff.1 names] at led
    cases ensured
    cases led
    cases gone.symm.trans inside
  · rw [names, FileTree.ensureDirectory_of_nowhere gone] at ensured
    cases ensured

theorem not_obstacle_of_write (written : host.write path text = (.ok (), after)) :
    ¬ host.Obstacle path := by
  obtain ⟨directory, reached, found, swapped, -⟩ := swapped_of_write written
  have approached := approached_of_approach found
  have grown := grown_of_approach found
  have stops := FileTree.open_of_follow approached.led swapped.inside
  obtain ⟨same, -, short⟩ := FileTree.follow_eq_ok_iff.1 approached.led
  have place : host.placeOf path.parent = directory := same.symm
  obtain ⟨named, down⟩ := swapped.named
  intro obstacle
  cases obstacle with
  | badName name member unfit =>
    have whole := approached.readable.1
    rw [holdsNul_text, List.any_eq_false] at whole
    rw [segments_of_name named, List.mem_append, List.mem_singleton] at member
    rcases member with inside | last
    · exact whole name inside unfit
    · rw [last, approached.readable.2] at unfit
      cases unfit
  | tooLong long =>
    rw [place, approached.short.1, approached.short.2, swapped.hidden] at long
    simp at long
  | nowhere gone => exact start_of_approached approached swapped.inside gone
  | blocked way =>
    cases way with
    | file front begins bytes there =>
      cases (stops front begins).symm.trans (grown.kept _ _ there)
    | tooLong name member long => cases (short name member).symm.trans long
  | nameless unnamed => exact unnamed.elim named down
  | directory there =>
    have target := (grown.directory_iff stops).2 there
    rw [placeOf_of_named named down, place] at target
    exact swapped.replaceable target
  | crowded full =>
    obtain ⟨number, earlier, unused⟩ := swapped.unused
    rw [place] at full
    exact (grown.occupied_iff stops).2 (full number earlier) unused

/-- A write that succeeds replaces the file at the path. -/
theorem replaced_of_write (written : host.write path text = (.ok (), after)) :
    host.files.Replaced after.files (host.start path) path.segments (Utf8.encode text) := by
  obtain ⟨directory, reached, found, swapped, -⟩ := swapped_of_write written
  have grown := grown_of_approach found
  have place : walk (host.start path) path.segments = directory ++ [path.name] := by
    obtain ⟨same, -⟩ := FileTree.follow_eq_ok_iff.1 (approached_of_approach found).led
    rw [same]
    exact placeOf_of_named swapped.named.1 swapped.named.2
  refine ⟨?_, fun location node apart there => ?_, fun location node apart missing there => ?_⟩
  · rw [place]
    exact swapped.there
  · rw [place] at apart
    rw [swapped.elsewhere location apart]
    exact grown.kept location node there
  · rw [place] at apart
    rw [swapped.elsewhere location apart] at there
    exact grown.new location node missing there

/-- A write that fails leaves nothing behind but directories on the way, and something was in the
way. -/
theorem unwritten_of_write (failed : host.write path text = (.error fault, after)) :
    after = { host with files := after.files } ∧ host.Obstacle path ∧
      Grown host.files after.files (host.start path) path.parent.segments := by
  rw [write_eq] at failed
  split at failed
  next other reached lost =>
    cases failed
    exact ⟨rfl, obstacle_of_approach lost, grown_of_approach lost⟩
  next directory reached found =>
    rcases kept : reached.replaceFile directory path.name (Utf8.encode text) with ⟨result, files⟩
    rw [kept] at failed
    cases failed
    have grown := grown_of_approach found
    obtain ⟨same, reason⟩ := FileTree.unswapped_of_replaceFile kept
    have place : host.placeOf path.parent = directory :=
      (FileTree.follow_eq_ok_iff.1 (approached_of_approach found).led).1.symm
    refine ⟨rfl, ?_, grown.congr same⟩
    by_cases inside : reached.node? directory = some .directory
    · have stops := FileTree.open_of_follow (approached_of_approach found).led inside
      rcases reason with outside | long | full | unnamed | there
      · exact absurd inside outside
      · exact .tooLong (Or.inr (Or.inr long))
      · refine .crowded fun number earlier => (grown.occupied_iff stops).1 ?_
        rw [place, ← Option.isSome_iff_ne_none]
        exact full number earlier
      · exact .nameless unnamed
      · by_cases unnamed : path.name = "" ∨ path.name = ".."
        · exact .nameless unnamed
        · obtain ⟨named, down⟩ := not_or.1 unnamed
          refine .directory ((grown.directory_iff stops).1 ?_)
          rw [placeOf_of_named named down, place]
          exact there
    · exact obstacle_of_outside found inside

end Host

namespace ConfigFile

/-- Saving is atomic. Where the configuration cannot be dumped, nothing is touched. Where it can,
either nothing was in the way, and then the text is what the path holds, the other files and
directories are as they were, and what else is new are directories on the way; or something was in
the way, and then all files and directories are as they were, and what is new are directories on the
way, so that no file is new, the temporary one included. -/
theorem save_atomic (dump : Dumper) (host : Host) (config : ClientsConfig) (path : String) :
    (∀ exception, dump config = .error exception →
      save dump host config path = (.error (.escaped exception), host)) ∧
    ∀ value, dump config = .ok value →
      ∃ result files, save dump host config path = (result, { host with files }) ∧
        ((result = .ok () ∧ ¬ host.Obstacle (.ofString path) ∧
            { host with files }.read? (.ofString path) = .ok (some (Utf8.encode (textOf value))) ∧
            host.files.Replaced files (host.start (.ofString path)) (Path.ofString path).segments
              (Utf8.encode (textOf value))) ∨
          (∃ fault, result = .error (.file fault)) ∧ host.Obstacle (.ofString path) ∧
            host.files.Grown files (host.start (.ofString path))
              (Path.ofString path).parent.segments) := by
  refine ⟨fun exception undumped => save_of_undumped undumped host path, fun value dumped => ?_⟩
  rw [save_of_dump dumped]
  rcases written : host.write (.ofString path) (textOf value) with ⟨fault | _, after⟩
  · obtain ⟨rest, obstacle, grown⟩ := Host.unwritten_of_write written
    exact ⟨.error (.file fault), after.files, by rw [← rest]; rfl,
      Or.inr ⟨⟨fault, rfl⟩, obstacle, grown⟩⟩
  · have rest := Host.rest_of_write written
    have held := Host.read?_of_write written
    rw [rest] at held
    exact ⟨.ok (), after.files, by rw [← rest]; rfl, Or.inl ⟨rfl, Host.not_obstacle_of_write written,
      held, Host.replaced_of_write written⟩⟩

/-- A path may come back to a directory that is made on its way; no file can take its place. -/
example :
    let (result, after) := save (dumpWithin dumpLevels) {} {} "a/../a"
    result = .error (.file .isDirectory) ∧ after.files.node? ["a"] = some .directory := ⟨rfl, rfl⟩

end ConfigFile

end SignOn
