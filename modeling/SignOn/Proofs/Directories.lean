import SignOn.Proofs.SavedFile

/-!
The directories on the way to a file. Names lead to one location, whatever stands on the way; they
can be followed as long as there are directories to follow them in and no name is too long. Making
directories takes nothing away and adds nothing but directories on that way. It fails only where
something is in the way, and then what was made before that stays.
-/

namespace SignOn.FileTree

/-- The location that a name leads to from a directory. -/
def step (here : Location) (name : String) : Location :=
  if name = ".." then here.dropLast else here ++ [name]

/-- The location that names lead to, if they can be followed. -/
def walk (start : Location) (names : List String) : Location := names.foldl step start

theorem walk_append (start : Location) (front back : List String) :
    walk start (front ++ back) = walk (walk start front) back := List.foldl_append

/-- The location is one of those that names lead to on their way, from the first to the last. -/
def Passes (start : Location) (names : List String) (location : Location) : Prop :=
  ∃ front, front <+: names ∧ location = walk start front

/-- There is a directory wherever names lead on their way. -/
def Open (tree : FileTree) (start : Location) (names : List String) : Prop :=
  ∀ front, front <+: names → tree.node? (walk start front) = some .directory

/-- What keeps names from leading to a directory, be it to one that is still to be made. -/
inductive Blocked (tree : FileTree) (start : Location) (names : List String) : Prop where
  | file (front : List String) (begins : front <+: names) (bytes : List UInt8)
      (there : tree.node? (walk start front) = some (.file bytes))
  | tooLong (name : String) (member : name ∈ names) (long : isTooLong name = true)

/-- What was there is still there, and what is new is a directory on the way of the names. -/
structure Grown (before after : FileTree) (start : Location) (names : List String) : Prop where
  kept : ∀ location node, before.node? location = some node → after.node? location = some node
  new : ∀ location node, before.node? location = none → after.node? location = some node →
    node = .directory ∧ Passes start names location

variable {tree before middle after : FileTree} {start here : Location} {names more : List String}
  {name : String} {fault : FileFault}

theorem Passes.append {location : Location} (passes : Passes start names location)
    (more : List String) : Passes start (names ++ more) location := by
  obtain ⟨front, begins, here⟩ := passes
  exact ⟨front, begins.trans (List.prefix_append names more), here⟩

theorem Blocked.append (blocked : tree.Blocked start names) (more : List String) :
    tree.Blocked start (names ++ more) := by
  cases blocked with
  | file front begins bytes there =>
    exact .file front (begins.trans (List.prefix_append names more)) bytes there
  | tooLong name member long => exact .tooLong name (List.mem_append_left more member) long

namespace Grown

theorem refl (tree : FileTree) (start : Location) (names : List String) :
    tree.Grown tree start names where
  kept _ _ there := there
  new location node missing there := by
    cases missing.symm.trans there

theorem trans (first : before.Grown middle start names) (second : middle.Grown after start names) :
    before.Grown after start names where
  kept location node there := second.kept location node (first.kept location node there)
  new location node missing there := by
    cases between : middle.node? location with
    | none => exact second.new location node between there
    | some other =>
      cases (second.kept location other between).symm.trans there
      exact first.new location node missing between

theorem append (grown : before.Grown after start names) (more : List String) :
    before.Grown after start (names ++ more) where
  kept := grown.kept
  new location node missing there := by
    obtain ⟨directory, passes⟩ := grown.new location node missing there
    exact ⟨directory, passes.append more⟩

theorem congr (grown : before.Grown middle start names)
    (same : ∀ location, after.node? location = middle.node? location) :
    before.Grown after start names where
  kept location node there := (same location).trans (grown.kept location node there)
  new location node missing there :=
    grown.new location node missing ((same location).symm.trans there)

theorem file (grown : before.Grown after start names) {location : Location} {bytes : List UInt8}
    (there : after.node? location = some (.file bytes)) :
    before.node? location = some (.file bytes) := by
  cases earlier : before.node? location with
  | none => cases (grown.new location _ earlier there).1
  | some node => exact (grown.kept location node earlier).symm.trans there

theorem blocked (grown : before.Grown after start names) (blocked : after.Blocked start more) :
    before.Blocked start more := by
  cases blocked with
  | file front begins bytes there => exact .file front begins bytes (grown.file there)
  | tooLong name member long => exact .tooLong name member long

theorem occupied_iff (grown : before.Grown after start names) (stops : after.Open start names)
    {location : Location} :
    after.node? location ≠ none ↔
      before.node? location ≠ none ∨ Passes start names location := by
  constructor
  · intro occupied
    cases earlier : before.node? location with
    | some node => exact Or.inl (by simp)
    | none =>
      obtain ⟨node, there⟩ := Option.ne_none_iff_exists'.1 occupied
      exact Or.inr (grown.new location node earlier there).2
  · rintro (occupied | ⟨front, begins, rfl⟩)
    · obtain ⟨node, there⟩ := Option.ne_none_iff_exists'.1 occupied
      simp [grown.kept location node there]
    · simp [stops front begins]

theorem directory_iff (grown : before.Grown after start names) (stops : after.Open start names)
    {location : Location} :
    after.node? location = some .directory ↔
      before.node? location = some .directory ∨ Passes start names location := by
  constructor
  · intro there
    cases earlier : before.node? location with
    | some node => exact Or.inl ((grown.kept location node earlier).symm.trans there)
    | none => exact Or.inr (grown.new location .directory earlier there).2
  · rintro (there | ⟨front, begins, rfl⟩)
    · exact grown.kept location .directory there
    · exact stops front begins

end Grown

theorem follow_cons_iff {rest : List String} :
    tree.follow start (name :: rest) = .ok here ↔
      tree.node? start = some .directory ∧ isTooLong name = false ∧
        tree.follow (step start name) rest = .ok here := by
  have upIsShort : isTooLong ".." = false := by decide
  rw [follow_cons_eq_ok]
  unfold step
  by_cases up : name = ".."
  · subst up
    simp only [if_true, upIsShort, true_and]
  · simp only [if_neg up]

theorem follow_eq_ok_iff :
    tree.follow start names = .ok here ↔
      here = walk start names ∧
        (∀ front, front <+: names → front ≠ names →
          tree.node? (walk start front) = some .directory) ∧
        ∀ name ∈ names, isTooLong name = false := by
  induction names generalizing start with
  | nil =>
    have whole (front : List String) (begins : front <+: []) : front = [] :=
      List.prefix_nil.1 begins
    constructor
    · intro reached
      cases reached
      exact ⟨rfl, fun front begins partly => absurd (whole front begins) partly, by simp⟩
    · rintro ⟨rfl, -, -⟩
      rfl
  | cons name rest ih =>
    rw [follow_cons_iff, ih, List.forall_mem_cons]
    constructor
    · rintro ⟨first, short, rfl, stops, others⟩
      refine ⟨rfl, fun front begins partly => ?_, short, others⟩
      rcases List.prefix_cons_iff.1 begins with rfl | ⟨further, rfl, onward⟩
      · exact first
      · exact stops further onward (by simpa using partly)
    · rintro ⟨rfl, stops, short, others⟩
      refine ⟨stops [] List.nil_prefix (by simp), short, rfl, fun front begins partly => ?_, others⟩
      exact stops (name :: front) (List.cons_prefix_cons.2 ⟨rfl, begins⟩) (by simpa using partly)

theorem open_of_follow (reached : tree.follow start names = .ok here)
    (directory : tree.node? here = some .directory) : tree.Open start names := by
  obtain ⟨rfl, stops, -⟩ := follow_eq_ok_iff.1 reached
  intro front begins
  by_cases whole : front = names
  · rw [whole]
    exact directory
  · exact stops front begins whole

theorem leadsToDirectory_iff :
    tree.leadsToDirectory start names = true ↔
      tree.Open start names ∧ ∀ name ∈ names, isTooLong name = false := by
  have parts : tree.leadsToDirectory start names = true ↔
      ∃ here, tree.follow start names = .ok here ∧ tree.node? here = some .directory := by
    unfold leadsToDirectory find
    cases tree.follow start names with
    | error fault => cases fault <;> simp
    | ok here =>
      simp only [Except.ok.injEq, exists_eq_left']
      cases tree.node? here with
      | none => simp
      | some node => cases node <;> simp
  rw [parts]
  constructor
  · rintro ⟨here, reached, directory⟩
    exact ⟨open_of_follow reached directory, (follow_eq_ok_iff.1 reached).2.2⟩
  · rintro ⟨stops, short⟩
    exact ⟨_, follow_eq_ok_iff.2 ⟨rfl, fun front begins _ => stops front begins, short⟩,
      stops names (List.prefix_refl names)⟩

theorem Blocked.cons (blocked : tree.Blocked (step start name) names) :
    tree.Blocked start (name :: names) := by
  cases blocked with
  | file front begins bytes there =>
    exact .file (name :: front) (List.cons_prefix_cons.2 ⟨rfl, begins⟩) bytes there
  | tooLong other member long => exact .tooLong other (List.mem_cons_of_mem name member) long

/-- Names that cannot be followed lead into nothing, or are blocked. -/
theorem follow_eq_error (failed : tree.follow start names = .error fault) :
    (fault = .missing ∧ ∃ front, front <+: names ∧ front ≠ names ∧
        tree.node? (walk start front) = none) ∨
      (fault ≠ .missing ∧ tree.Blocked start names) := by
  induction names generalizing start with
  | nil => cases failed
  | cons name rest ih =>
    have further (onward : tree.follow (step start name) rest = .error fault) :
        (fault = .missing ∧ ∃ front, front <+: name :: rest ∧ front ≠ name :: rest ∧
            tree.node? (walk start front) = none) ∨
          (fault ≠ .missing ∧ tree.Blocked start (name :: rest)) := by
      rcases ih onward with ⟨missing, front, begins, partly, gone⟩ | ⟨present, blocked⟩
      · exact Or.inl ⟨missing, name :: front, List.cons_prefix_cons.2 ⟨rfl, begins⟩,
          by simpa using partly, gone⟩
      · exact Or.inr ⟨present, blocked.cons⟩
    rw [follow] at failed
    split at failed
    next gone =>
      cases failed
      exact Or.inl ⟨rfl, [], List.nil_prefix, by simp, gone⟩
    next bytes there =>
      cases failed
      exact Or.inr ⟨by simp, .file [] List.nil_prefix bytes there⟩
    next =>
      unfold step at further
      split at failed
      next up => exact further (by rw [if_pos up]; exact failed)
      next down =>
        split at failed
        next long =>
          cases failed
          exact Or.inr ⟨by simp, .tooLong name List.mem_cons_self long⟩
        next => exact further (by rw [if_neg down]; exact failed)

theorem makeDirectory_eq_ok (made : tree.makeDirectory start names = .ok after) :
    tree.follow start names = .ok (walk start names) ∧ tree.node? (walk start names) = none ∧
      after = tree.put (walk start names) .directory := by
  unfold makeDirectory at made
  split at made
  next => cases made
  next here reached =>
    split at made
    next => cases made
    next free =>
      obtain ⟨rfl, -⟩ := follow_eq_ok_iff.1 reached
      cases made
      exact ⟨reached, free, rfl⟩

theorem grown_of_makeDirectory (made : tree.makeDirectory start names = .ok after) :
    tree.Grown after start names := by
  obtain ⟨-, free, rfl⟩ := makeDirectory_eq_ok made
  constructor
  · intro location node there
    have apart : location ≠ walk start names := by
      rintro rfl
      cases free.symm.trans there
    rw [node?_put_of_free free, if_neg apart, there]
  · intro location node missing there
    rw [node?_put_of_free free] at there
    split at there
    next here =>
      cases there
      exact ⟨rfl, names, List.prefix_refl names, here⟩
    next => cases missing.symm.trans there

theorem leads_of_makeDirectory (made : tree.makeDirectory start names = .ok after) :
    after.leadsToDirectory start names = true := by
  have grown := grown_of_makeDirectory made
  obtain ⟨reached, free, rfl⟩ := makeDirectory_eq_ok made
  have onward := follow_of_directories (grown.kept · .directory) reached
  refine leadsToDirectory_iff.2 ⟨open_of_follow onward ?_, (follow_eq_ok_iff.1 reached).2.2⟩
  rw [node?_put_of_free free, if_pos rfl]

theorem blocked_of_makeDirectory (failed : tree.makeDirectory start names = .error fault)
    (absent : tree.leadsToDirectory start names = false) :
    (fault = .missing ∧ ∃ front, front <+: names ∧ front ≠ names ∧
        tree.node? (walk start front) = none) ∨
      (fault ≠ .missing ∧ tree.Blocked start names) := by
  unfold makeDirectory at failed
  split at failed
  next lost =>
    cases failed
    exact follow_eq_error lost
  next here reached =>
    obtain ⟨rfl, -, short⟩ := follow_eq_ok_iff.1 reached
    split at failed
    next node there =>
      cases failed
      cases node with
      | file bytes => exact Or.inr ⟨by simp, .file names (List.prefix_refl names) bytes there⟩
      | directory =>
        have leads := leadsToDirectory_iff.2 ⟨open_of_follow reached there, short⟩
        cases leads.symm.trans absent
    next => cases failed

section Ensuring

open ensureDirectory

variable {above : List String}

theorem grown_settle (tree : FileTree) (start : Location) (names : List String) :
    tree.Grown (settle start tree names).2 start names := by
  unfold settle
  split
  next after made => exact grown_of_makeDirectory made
  next => split <;> exact .refl tree start names

theorem leads_of_settle (settled : (settle start tree names).1 = .ok ()) :
    (settle start tree names).2.leadsToDirectory start names = true := by
  unfold settle at settled ⊢
  split
  next after made => exact leads_of_makeDirectory made
  next fault failed =>
    rw [failed] at settled
    split
    next leads => exact leads
    next absent =>
      simp only [if_neg absent] at settled
      cases settled

theorem blocked_of_settle (unsettled : (settle start tree names).1 = .error fault) :
    tree.makeDirectory start names = .error fault ∧ tree.leadsToDirectory start names = false := by
  unfold settle at unsettled
  split at unsettled
  next => cases unsettled
  next fault failed =>
    split at unsettled
    next => cases unsettled
    next absent =>
      cases unsettled
      exact ⟨failed, eq_false_of_ne_true absent⟩

theorem ensureDirectory_of_ensured
    (missing : tree.makeDirectory start (above.reverse ++ [name]) = .error .missing)
    (ensured : tree.ensureDirectory start above = (.ok (), after)) :
    tree.ensureDirectory start (name :: above) = settle start after (above.reverse ++ [name]) := by
  rw [ensureDirectory, List.reverse_cons, missing, ensured]

theorem ensureDirectory_of_unmade
    (missing : tree.makeDirectory start (above.reverse ++ [name]) = .error .missing)
    (unmade : tree.ensureDirectory start above = (.error fault, after)) :
    tree.ensureDirectory start (name :: above) = (.error fault, after) := by
  rw [ensureDirectory, List.reverse_cons, missing, unmade]

theorem ensureDirectory_of_not_missing
    (present : tree.makeDirectory start (above.reverse ++ [name]) ≠ .error .missing) :
    tree.ensureDirectory start (name :: above) =
      settle start tree (above.reverse ++ [name]) := by
  rw [ensureDirectory, List.reverse_cons]
  unfold settle
  cases made : tree.makeDirectory start (above.reverse ++ [name]) with
  | ok after => rfl
  | error fault =>
    rw [made] at present
    cases fault with
    | missing => exact absurd rfl present
    | _ => rfl

theorem grown_ensureDirectory (tree : FileTree) (start : Location) (above : List String) :
    tree.Grown (tree.ensureDirectory start above).2 start above.reverse := by
  induction above with
  | nil => exact .refl tree start []
  | cons name above ih =>
    rw [List.reverse_cons]
    by_cases missing : tree.makeDirectory start (above.reverse ++ [name]) = .error .missing
    · have first := ih.append [name]
      rcases made : tree.ensureDirectory start above with ⟨fault | _, reached⟩
      · rw [made] at first
        rw [ensureDirectory_of_unmade missing made]
        exact first
      · rw [made] at first
        rw [ensureDirectory_of_ensured missing made]
        exact first.trans (grown_settle reached start (above.reverse ++ [name]))
    · rw [ensureDirectory_of_not_missing missing]
      exact grown_settle tree start (above.reverse ++ [name])

theorem leads_of_ensureDirectory (ensured : (tree.ensureDirectory start above).1 = .ok ())
    (some : above ≠ []) :
    (tree.ensureDirectory start above).2.leadsToDirectory start above.reverse = true := by
  cases above with
  | nil => exact absurd rfl some
  | cons name above =>
    rw [List.reverse_cons]
    by_cases missing : tree.makeDirectory start (above.reverse ++ [name]) = .error .missing
    · rcases made : tree.ensureDirectory start above with ⟨fault | _, reached⟩
      · rw [ensureDirectory_of_unmade missing made] at ensured
        cases ensured
      · rw [ensureDirectory_of_ensured missing made] at ensured ⊢
        exact leads_of_settle ensured
    · rw [ensureDirectory_of_not_missing missing] at ensured ⊢
      exact leads_of_settle ensured

theorem follow_of_ensureDirectory (ensured : tree.ensureDirectory start above = (.ok (), after)) :
    after.follow start above.reverse = .ok (walk start above.reverse) := by
  by_cases some : above = []
  · rw [some]
    rfl
  · have leads := leads_of_ensureDirectory (congrArg Prod.fst ensured) some
    rw [ensured] at leads
    obtain ⟨stops, short⟩ := leadsToDirectory_iff.1 leads
    exact follow_eq_ok_iff.2 ⟨rfl, fun front begins _ => stops front begins, short⟩

theorem blocked_of_ensureDirectory
    (failed : (tree.ensureDirectory start above).1 = .error fault) :
    tree.node? start = none ∨ tree.Blocked start above.reverse := by
  induction above generalizing fault with
  | nil => cases failed
  | cons name above ih =>
    rw [List.reverse_cons]
    by_cases missing : tree.makeDirectory start (above.reverse ++ [name]) = .error .missing
    · have grown := grown_ensureDirectory tree start above
      have leads (ensured : (tree.ensureDirectory start above).1 = .ok ()) (some : above ≠ []) :=
        leads_of_ensureDirectory ensured some
      have begun : above = [] → (tree.ensureDirectory start above).2 = tree := by
        rintro rfl
        rfl
      rcases made : tree.ensureDirectory start above with ⟨other | _, reached⟩
      · rw [made] at ih
        rcases ih rfl with nowhere | blocked
        · exact Or.inl nowhere
        · exact Or.inr (blocked.append [name])
      · rw [ensureDirectory_of_ensured missing made] at failed
        rw [made] at grown leads begun
        obtain ⟨unmade, absent⟩ := blocked_of_settle failed
        rcases blocked_of_makeDirectory unmade absent with
          ⟨-, front, begins, partly, gone⟩ | ⟨-, blocked⟩
        · have earlier : front <+: above.reverse :=
            (List.prefix_concat_iff.1 begins).resolve_left partly
          by_cases first : above = []
          · subst first
            cases List.prefix_nil.1 earlier
            cases begun rfl
            exact Or.inl gone
          · have stops := (leadsToDirectory_iff.1 (leads rfl first)).1
            cases (stops front earlier).symm.trans gone
        · exact Or.inr (grown.blocked blocked)
    · rw [ensureDirectory_of_not_missing missing] at failed
      obtain ⟨unmade, absent⟩ := blocked_of_settle failed
      rcases blocked_of_makeDirectory unmade absent with ⟨rfl, -⟩ | ⟨-, blocked⟩
      · exact absurd unmade missing
      · exact Or.inr blocked

theorem ensureDirectory_of_nowhere (nowhere : tree.node? start = none) (name : String)
    (above : List String) :
    tree.ensureDirectory start (name :: above) = (.error .missing, tree) := by
  have lost (first : String) (rest : List String) :
      tree.follow start (first :: rest) = .error .missing := by
    rw [follow, nowhere]
  have unmade (name : String) (above : List String) :
      tree.makeDirectory start (above.reverse ++ [name]) = .error .missing ∧
        tree.leadsToDirectory start (above.reverse ++ [name]) = false := by
    rcases split : above.reverse ++ [name] with _ | ⟨first, rest⟩
    · simp at split
    · unfold makeDirectory leadsToDirectory find
      rw [lost]
      exact ⟨rfl, rfl⟩
  induction above generalizing name with
  | nil =>
    rw [ensureDirectory_of_ensured (unmade name []).1 rfl, settle, (unmade name []).1]
    exact if_neg (Bool.eq_false_iff.1 (unmade name []).2)
  | cons next above ih =>
    exact ensureDirectory_of_unmade (unmade name (next :: above)).1 (ih next)

end Ensuring

end SignOn.FileTree
