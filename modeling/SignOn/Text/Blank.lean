/-!
Blank characters, and text that holds nothing else. A name, a URL or a password made of blank
characters alone counts as absent everywhere in this library, so one definition of "blank" serves
all of them.
-/

namespace SignOn.Text

/-- The twenty-nine characters that separate words without being seen. -/
def isSpace (c : Char) : Bool :=
  let code := c.toNat
  (9 ≤ code && code ≤ 13) || (28 ≤ code && code ≤ 32) || code == 0x85 || code == 0xA0 ||
    code == 0x1680 || (0x2000 ≤ code && code ≤ 0x200A) || code == 0x2028 || code == 0x2029 ||
    code == 0x202F || code == 0x205F || code == 0x3000

def endsLine (c : Char) : Bool :=
  let code := c.toNat
  (10 ≤ code && code ≤ 13) || (28 ≤ code && code ≤ 30) || code == 0x85 || code == 0x2028 ||
    code == 0x2029

def trimStart (cs : List Char) : List Char := cs.dropWhile isSpace

def trimEnd (cs : List Char) : List Char := (cs.reverse.dropWhile isSpace).reverse

def trim (cs : List Char) : List Char := trimEnd (trimStart cs)

def strip (text : String) : String := String.ofList (trim text.toList)

def isBlank (text : String) : Bool := text.toList.all isSpace

/-- An absent text is blank too. -/
def isAbsentOrBlank : Option String → Bool
  | none => true
  | some text => isBlank text

theorem dropWhile_isSpace_eq_nil_iff {cs : List Char} :
    cs.dropWhile isSpace = [] ↔ ∀ c ∈ cs, isSpace c = true := by
  induction cs with
  | nil => simp
  | cons c cs ih => by_cases h : isSpace c = true <;> simp [h, ih]

theorem trimEnd_eq_nil_iff {cs : List Char} : trimEnd cs = [] ↔ ∀ c ∈ cs, isSpace c = true := by
  rw [trimEnd, List.reverse_eq_nil_iff, dropWhile_isSpace_eq_nil_iff]
  simp only [List.mem_reverse]

theorem trim_eq_nil_iff {cs : List Char} : trim cs = [] ↔ ∀ c ∈ cs, isSpace c = true := by
  rw [trim, trimEnd_eq_nil_iff, trimStart]
  constructor
  · intro inside
    refine dropWhile_isSpace_eq_nil_iff.1 ?_
    cases rest : cs.dropWhile isSpace with
    | nil => rfl
    | cons c tail =>
      have stops := List.head_dropWhile_not (p := isSpace) (l := cs) (by simp [rest])
      simp only [rest, List.head_cons] at stops
      simp [inside c (by simp [rest])] at stops
  · intro all c member
    exact all c (List.Sublist.subset (List.dropWhile_sublist isSpace) member)

theorem trim_parts (cs : List Char) : ∃ before after, cs = before ++ (trim cs ++ after) ∧
    (∀ c ∈ before, isSpace c = true) ∧ ∀ c ∈ after, isSpace c = true := by
  refine ⟨cs.takeWhile isSpace, ((trimStart cs).reverse.takeWhile isSpace).reverse, ?_, ?_, ?_⟩
  · rw [trim, trimEnd, ← List.reverse_append, List.takeWhile_append_dropWhile,
      List.reverse_reverse, trimStart, List.takeWhile_append_dropWhile]
  · exact List.all_eq_true.1 List.all_takeWhile
  · intro c inside
    exact List.all_eq_true.1 List.all_takeWhile c (List.mem_reverse.1 inside)

theorem dropWhile_isSpace_of_begins {cs : List Char}
    (begins : ∀ c ∈ cs.head?, isSpace c = false) : cs.dropWhile isSpace = cs := by
  cases cs with
  | nil => rfl
  | cons c rest => exact List.dropWhile_cons_of_neg (Bool.eq_false_iff.1 (begins c rfl))

theorem trim_of_ends {before token after : List Char} (first : ∀ c ∈ before, isSpace c = true)
    (begins : ∀ c ∈ token.head?, isSpace c = false)
    (ends : ∀ c ∈ token.getLast?, isSpace c = false) (last : ∀ c ∈ after, isSpace c = true) :
    trim (before ++ (token ++ after)) = token := by
  have start : trimStart (before ++ (token ++ after)) = trimStart (token ++ after) :=
    List.dropWhile_append_of_pos first
  rw [trim, start]
  cases token with
  | nil => exact trim_eq_nil_iff.2 last
  | cons c rest =>
    have kept : trimStart (c :: rest ++ after) = c :: rest ++ after :=
      dropWhile_isSpace_of_begins begins
    rw [kept, trimEnd, List.reverse_append,
      List.dropWhile_append_of_pos fun c inside => last c (List.mem_reverse.1 inside),
      dropWhile_isSpace_of_begins (List.head?_reverse ▸ ends), List.reverse_reverse]

theorem trim_of_bare {before token after : List Char} (first : ∀ c ∈ before, isSpace c = true)
    (bare : ∀ c ∈ token, isSpace c = false) (last : ∀ c ∈ after, isSpace c = true) :
    trim (before ++ (token ++ after)) = token :=
  trim_of_ends first (fun c member => bare c (List.mem_of_head? member))
    (fun c member => bare c (List.mem_of_getLast? member)) last

end SignOn.Text
