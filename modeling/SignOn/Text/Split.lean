import SignOn.Text.Blank

/-!
Taking text apart: at the first occurrence of a character, at every occurrence of a separator, and
into words.
-/

namespace SignOn.Text

def cut (mark : Char) : List Char → List Char × Option (List Char)
  | [] => ([], none)
  | c :: cs =>
    if c = mark then ([], some cs)
    else let (before, after) := cut mark cs; (c :: before, after)

/-- The stretches between occurrences of a separator, scanned from the left without overlap. The
first argument counts characters of a separator already recognised and still to be skipped. -/
def pieces (separator : List Char) : Nat → List Char → List (List Char)
  | _, [] => [[]]
  | skip + 1, _ :: cs => pieces separator skip cs
  | 0, c :: cs =>
    if separator.isPrefixOf (c :: cs) then
      [] :: pieces separator (separator.length - 1) cs
    else (pieces separator 0 cs).modifyHead (c :: ·)

def splitBy (separator text : String) : List String :=
  (pieces separator.toList 0 text.toList).map String.ofList

def wordLists (cs : List Char) : List (List Char) :=
  let rec go : List Char → List Char → List (List Char)
    | word, [] => if word.isEmpty then [] else [word.reverse]
    | word, c :: rest =>
      if isSpace c then (if word.isEmpty then go [] rest else word.reverse :: go [] rest)
      else go (c :: word) rest
  go [] cs

def words (text : String) : List String := (wordLists text.toList).map String.ofList

theorem cut_append (mark : Char) (cs : List Char) :
    cs = (cut mark cs).1 ++ (match (cut mark cs).2 with
      | none => []
      | some after => mark :: after) := by
  induction cs with
  | nil => rfl
  | cons c cs ih =>
    by_cases h : c = mark
    · simp [cut, h]
    · simp only [cut, if_neg h, List.cons_append]
      exact congrArg (c :: ·) ih

theorem not_mem_cut (mark : Char) (cs : List Char) : mark ∉ (cut mark cs).1 := by
  induction cs with
  | nil => simp [cut]
  | cons c cs ih =>
    by_cases h : c = mark
    · simp [cut, h]
    · simp only [cut, if_neg h, List.mem_cons, not_or]
      exact ⟨fun same => h same.symm, ih⟩

theorem any_intercalate {p : Char → Bool} {between : List Char} (none : between.any p = false)
    (parts : List (List Char)) : (between.intercalate parts).any p = parts.any (·.any p) := by
  induction parts with
  | nil => rfl
  | cons part parts ih =>
    cases parts with
    | nil => simp
    | cons next parts =>
      rw [List.intercalate_cons_cons, List.any_append, List.any_append, none, ih]
      simp

theorem not_mem_intercalate {mark : Char} {between : List Char} (apart : mark ∉ between)
    {parts : List (List Char)} (clean : ∀ part ∈ parts, mark ∉ part) :
    mark ∉ between.intercalate parts := by
  have none (cs : List Char) (absent : mark ∉ cs) : cs.any (· == mark) = false :=
    List.any_eq_false.2 fun c inside same => absent (beq_iff_eq.1 same ▸ inside)
  have joined : (between.intercalate parts).any (· == mark) = false := by
    rw [any_intercalate (none between apart), List.any_eq_false]
    intro part member
    rw [none part (clean part member)]
    exact Bool.false_ne_true
  intro member
  exact List.any_eq_false.1 joined mark member (beq_self_eq_true mark)

end SignOn.Text
