import SignOn.Proofs.Parameters

/-!
URLs that are extended by parameters. Reading an extended URL gives the parameters that it had and
behind them the new ones, while the text in front of the query and the fragment are what they were.
A search for a parameter compares names as they are written, not as they are read: it finds what was
added only under a name that needs no encoding.
-/

namespace SignOn

namespace Percent

theorem length_flatMap_escapeByte (bytes : List UInt8) :
    (bytes.flatMap escapeByte).length = 3 * bytes.length := by
  induction bytes with
  | nil => rfl
  | cons byte bytes ih =>
    rw [List.flatMap_cons, List.length_append, ih, List.length_cons,
      show (escapeByte byte).length = 3 from rfl]
    omega

theorem length_encodeChar_pos (c : Char) : 0 < (Utf8.encodeChar c).length := by
  unfold Utf8.encodeChar
  simp only
  repeat' split
  all_goals exact Nat.zero_lt_succ _

theorem one_lt_length_escapeChar {c : Char} (reserved : isUnreserved c = false) :
    1 < (escapeChar c).length := by
  have bytes := length_encodeChar_pos c
  unfold escapeChar
  rw [if_neg (Bool.eq_false_iff.1 reserved), length_flatMap_escapeByte]
  omega

theorem length_le_encodeChars (cs : List Char) : cs.length ≤ (encodeChars cs).length := by
  induction cs with
  | nil => exact Nat.le_refl 0
  | cons c cs ih =>
    have first : 1 ≤ (escapeChar c).length := by
      cases plain : isUnreserved c with
      | true => simp [escapeChar, plain]
      | false => exact Nat.le_of_lt (one_lt_length_escapeChar plain)
    have whole : encodeChars (c :: cs) = escapeChar c ++ encodeChars cs := rfl
    rw [whole, List.length_append, List.length_cons]
    omega

theorem encodeChars_eq_self_iff {cs : List Char} :
    encodeChars cs = cs ↔ ∀ c ∈ cs, isUnreserved c = true := by
  refine ⟨fun same => ?_, encodeChars_of_unreserved⟩
  induction cs with
  | nil => simp
  | cons c cs ih =>
    have whole : escapeChar c ++ encodeChars cs = c :: cs := same
    cases plain : isUnreserved c with
    | true =>
      rw [escapeChar, if_pos plain, List.singleton_append] at whole
      have rest := ih (List.cons.inj whole).2
      simpa [plain] using rest
    | false =>
      -- An escape would make the text longer, and nothing makes it shorter again.
      have longer := one_lt_length_escapeChar plain
      have rest := length_le_encodeChars cs
      have lengths := congrArg List.length whole
      rw [List.length_append, List.length_cons] at lengths
      omega

theorem encode_eq_self_iff {text : String} :
    encode text = text ↔ ∀ c ∈ text.toList, isUnreserved c = true := by
  rw [← encodeChars_eq_self_iff, encode, ← String.toList_inj, String.toList_ofList]

end Percent

namespace Url

/-- A URL with fields behind the parameters that another one has, and otherwise like that one. -/
structure Extends (url : String) (fields : Percent.Fields) (extended : String) : Prop where
  reads : parameters extended = parameters url ++ fields
  front : beforeQuery extended.toList = beforeQuery url.toList
  fragment : fragment extended.toList = fragment url.toList

/-- Adding a parameter extends a URL of any shape by exactly this parameter, whatever the name and
the value are; an absent value is read as an empty one. -/
theorem extends_addParameter (url name : String) (value : Option String) :
    Extends url [(name, value.getD "")] (addParameter url name value) := by
  obtain ⟨before, kept⟩ := addParameter_parts url name value
  constructor
  · exact parameters_addParameter url name value
  · unfold beforeQuery
    rw [before, cut_joined]
  · exact kept

/-- Whatever URL a parameter of this name is added to, the name is found in it, and no other name is
found that was not there. -/
def FoundWhereAdded (name : String) : Prop :=
  ∀ (url : String) (value : Option String),
    hasParameter (addParameter url name value) name = true ∧
      ∀ other ≠ name, hasParameter (addParameter url name value) other = hasParameter url other

/-- In a URL that a parameter was added to those names are found that were found before, and the
encoded form of the new name. So the names that are found where they are added, and no others with
them, are the ones that need no encoding. -/
theorem found_iff_unreserved (name : String) :
    (∀ (url : String) (value : Option String) (other : String),
      hasParameter (addParameter url name value) other = true ↔
        hasParameter url other = true ∨ other = Percent.encode name) ∧
    (FoundWhereAdded name ↔ ∀ c ∈ name.toList, Percent.isUnreserved c = true) := by
  constructor
  · intro url value other
    rw [hasParameter_addParameter_eq, Bool.or_eq_true, beq_iff_eq]
  · rw [← Percent.encode_eq_self_iff]
    constructor
    · intro found
      have here := (found "" none).1
      rw [hasParameter_addParameter_eq, Bool.or_eq_true, beq_iff_eq] at here
      rcases here with before | same
      · rw [hasParameter_of_isBlank rfl] at before
        cases before
      · exact same.symm
    · intro same url value
      constructor
      · rw [hasParameter_addParameter_eq, same, beq_self_eq_true, Bool.or_true]
      · intro other apart
        rw [hasParameter_addParameter_eq, same, beq_false_of_ne apart, Bool.or_false]

theorem spaced_name_not_found :
    ¬ ∀ (url name : String) (value : Option String),
      hasParameter (addParameter url name value) name = true ∧
        ∀ other ≠ name,
          hasParameter (addParameter url name value) other = hasParameter url other := by
  intro always
  have lost : hasParameter (addParameter "/cb" "a b" (some "1")) "a b" = false := by decide
  rw [(always "/cb" "a b" (some "1")).1] at lost
  cases lost

end Url

end SignOn
