import Mathlib.Algebra.Group.Nat.Defs
import SignOn.Json.Reader
import SignOn.Json.Writer
import SignOn.Proofs.Utf8

/-!
Reading back the texts and the numbers of JSON. A character is escaped by its code units or stands
for itself, and either way its units are read; the units of a text make up its characters again. A
number is read to its last digit, provided that what follows it ends it.
-/

namespace SignOn

theorem Percent.hexValue_lowerHexDigit : ∀ n < 16,
    Percent.hexValue? (Text.lowerHexDigit n) = some n := by
  decide

namespace Value

theorem toList_intText (n : Int) :
    (intText n).toList = (if n < 0 then ['-'] else []) ++ Nat.toDigits 10 n.natAbs := by
  unfold intText
  split
  next => rw [String.toList_append, Nat.toList_repr, show "-".toList = ['-'] from rfl]
  next => rw [Nat.toList_repr, List.nil_append]

theorem mem_intText {n : Int} {c : Char} (member : c ∈ (intText n).toList) :
    c = '-' ∨ c.isDigit = true := by
  rw [toList_intText, List.mem_append] at member
  rcases member with sign | digit
  · split at sign
    · exact Or.inl (List.mem_singleton.1 sign)
    · cases sign
  · exact Or.inr (Nat.isDigit_of_mem_toDigits (by decide) (by decide) digit)

end Value

namespace Json

theorem hexNumber_hexDigits (width : Nat) :
    ∀ n < 16 ^ width, hexNumber? (Text.hexDigits width n) = some n := by
  induction width with
  | zero =>
    intro n small
    rw [Nat.lt_one_iff.1 small]
    rfl
  | succ width ih =>
    intro n small
    have above := ih (n / 16) (by omega)
    have last := Percent.hexValue_lowerHexDigit (n % 16) (Nat.mod_lt _ (by decide))
    unfold hexNumber? at above ⊢
    obtain ⟨values, read, value⟩ := Option.map_eq_some_iff.1 above
    rw [Text.hexDigits, List.mapM_append, read]
    simp only [List.mapM_cons, List.mapM_nil, last, Option.pure_def, Option.bind_eq_bind,
      Option.bind_some, Option.map_some, List.foldl_append, List.foldl_cons, List.foldl_nil, value]
    rw [Nat.div_add_mod]

variable {opened : Nat} {rest left : List Char} {units : List Nat}

/-- An escaped unit is read as that unit. Something must follow it, as the quote at the end does. -/
theorem stringUnits_escapeUnit {unit : Nat} (fits : unit < 0x10000)
    (read : stringUnits opened rest = .ok (units, left)) :
    stringUnits opened (escapeUnit unit ++ rest) = .ok (unit :: units, left) := by
  cases rest with
  | nil => cases read
  | cons after rest =>
    have number := hexNumber_hexDigits 4 unit fits
    have four : ∃ a b c d, Text.hexDigits 4 unit = [a, b, c, d] := ⟨_, _, _, _, rfl⟩
    obtain ⟨a, b, c, d, digits⟩ := four
    rw [digits] at number
    unfold escapeUnit
    rw [digits]
    change stringUnits opened ('\\' :: 'u' :: a :: b :: c :: d :: after :: rest) = _
    rw [stringUnits, number]
    simp only [read]
    rfl

theorem stringUnits_simpleEscape {letter c : Char} (known : simpleEscape? letter = some c)
    (read : stringUnits opened rest = .ok (units, left)) :
    stringUnits opened ('\\' :: letter :: rest) = .ok (c.toNat :: units, left) := by
  have apart : letter ≠ 'u' := by
    rintro rfl
    cases known
  rw [stringUnits]
  · simp only [known, read]
    rfl
  · intro a b c d after more same
    exact absurd same apart
  · exact apart

theorem stringUnits_plain {c : Char} (visible : 0x20 ≤ c.toNat) (noQuote : c ≠ '"')
    (noBackslash : c ≠ '\\') (read : stringUnits opened rest = .ok (units, left)) :
    stringUnits opened (c :: rest) = .ok (Utf16.unitsOfChar c ++ units, left) := by
  rw [stringUnits]
  · rw [if_neg (Nat.not_lt.2 visible), read]
    rfl
  · exact noQuote
  · intro same
    exact absurd same noBackslash
  · intro a b d e after more same
    exact absurd same noBackslash
  · intro more same
    exact absurd same noBackslash
  · intro letter more same
    exact absurd same noBackslash

theorem unitsOfChar_of_simpleEscape {letter c : Char} (known : simpleEscape? letter = some c) :
    Utf16.unitsOfChar c = [c.toNat] := by
  unfold simpleEscape? at known
  split at known
  all_goals cases known
  all_goals rfl

theorem escapeChar_cases (charset : Charset) (c : Char) :
    (∃ letter, simpleEscape? letter = some c ∧ escapeChar charset c = ['\\', letter]) ∨
    escapeChar charset c = (Utf16.unitsOfChar c).flatMap escapeUnit ∨
    (escapeChar charset c = [c] ∧ 0x20 ≤ c.toNat ∧ c ≠ '"' ∧ c ≠ '\\') := by
  unfold escapeChar
  split
  next same => exact Or.inl ⟨'"', congrArg some same.symm, rfl⟩
  next noQuote =>
    split
    next same => exact Or.inl ⟨'\\', congrArg some same.symm, rfl⟩
    next noBackslash =>
      split
      next same => exact Or.inl ⟨'n', congrArg some same.symm, rfl⟩
      next =>
      split
      next same => exact Or.inl ⟨'r', congrArg some same.symm, rfl⟩
      next =>
      split
      next same => exact Or.inl ⟨'t', congrArg some same.symm, rfl⟩
      next =>
      split
      next same => exact Or.inl ⟨'f', congrArg some same.symm, rfl⟩
      next =>
      split
      next same => exact Or.inl ⟨'b', congrArg some same.symm, rfl⟩
      next =>
      split
      next control =>
        refine Or.inr (Or.inl ?_)
        unfold Utf16.unitsOfChar
        rw [if_pos (by omega), List.flatMap_singleton]
      next visible =>
      split
      next => exact Or.inr (Or.inl rfl)
      next => exact Or.inr (Or.inr ⟨rfl, Nat.not_lt.1 visible, noQuote, noBackslash⟩)

theorem unitsOfChar_lt (c : Char) : ∀ unit ∈ Utf16.unitsOfChar c, unit < 0x10000 := by
  have bounds := Utf8.code_bounds c
  intro unit member
  unfold Utf16.unitsOfChar at member
  simp only at member
  split at member
  next first =>
    rw [List.mem_singleton.1 member]
    exact first
  next =>
    rw [List.mem_cons, List.mem_singleton] at member
    omega

theorem stringUnits_escapeUnits {read : List Nat} (fits : ∀ unit ∈ read, unit < 0x10000)
    (further : stringUnits opened rest = .ok (units, left)) :
    stringUnits opened (read.flatMap escapeUnit ++ rest) = .ok (read ++ units, left) := by
  induction read with
  | nil => exact further
  | cons unit read ih =>
    rw [List.flatMap_cons, List.append_assoc]
    exact stringUnits_escapeUnit (fits unit List.mem_cons_self)
      (ih fun other member => fits other (List.mem_cons_of_mem _ member))

theorem stringUnits_escapeChar (charset : Charset) (c : Char)
    (read : stringUnits opened rest = .ok (units, left)) :
    stringUnits opened (escapeChar charset c ++ rest) =
      .ok (Utf16.unitsOfChar c ++ units, left) := by
  rcases escapeChar_cases charset c with
    ⟨letter, known, escaped⟩ | escaped | ⟨plain, visible, noQuote, noBackslash⟩
  · rw [escaped, unitsOfChar_of_simpleEscape known]
    exact stringUnits_simpleEscape known read
  · rw [escaped]
    exact stringUnits_escapeUnits (unitsOfChar_lt c) read
  · rw [plain]
    exact stringUnits_plain visible noQuote noBackslash read

theorem stringUnits_writeString (charset : Charset) (cs : List Char) :
    stringUnits opened (cs.flatMap (escapeChar charset) ++ '"' :: rest) =
      .ok (cs.flatMap Utf16.unitsOfChar, rest) := by
  induction cs with
  | nil => rfl
  | cons c cs ih =>
    rw [List.flatMap_cons, List.flatMap_cons, List.append_assoc]
    exact stringUnits_escapeChar charset c ih

end Json

namespace Utf16

theorem characters_unitsOfChar (c : Char) (units : List Nat) :
    characters (unitsOfChar c ++ units) = (characters units).map (c :: ·) := by
  have bounds := Utf8.code_bounds c
  have back : Char.ofNat c.toNat = c := Char.ofNat_toNat c
  generalize reached : c.toNat = code at bounds back
  unfold unitsOfChar
  simp only [reached]
  split
  next first =>
    have whole : (decide (code < 0xD800) || decide (0xE000 ≤ code)) = true := by
      rw [Bool.or_eq_true, decide_eq_true_eq, decide_eq_true_eq]
      omega
    rw [List.singleton_append]
    conv => lhs; unfold characters
    simp only [whole, if_true, back]
  next beyond =>
    have high : (decide (0xD800 + (code - 0x10000) / 1024 < 0xD800) ||
        decide (0xE000 ≤ 0xD800 + (code - 0x10000) / 1024)) = false := by
      rw [Bool.or_eq_false_iff, decide_eq_false_iff_not, decide_eq_false_iff_not]
      omega
    have first : 0xD800 + (code - 0x10000) / 1024 < 0xDC00 := by omega
    have low : (decide (0xDC00 ≤ 0xDC00 + (code - 0x10000) % 1024) &&
        decide (0xDC00 + (code - 0x10000) % 1024 < 0xE000)) = true := by
      rw [Bool.and_eq_true, decide_eq_true_eq, decide_eq_true_eq]
      omega
    rw [List.cons_append, List.cons_append, List.nil_append]
    conv => lhs; unfold characters
    simp only [high, Bool.false_eq_true, if_false, first, if_true, low]
    rw [show 0x10000 + (0xD800 + (code - 0x10000) / 1024 - 0xD800) * 1024 +
      (0xDC00 + (code - 0x10000) % 1024 - 0xDC00) = code by omega, back]

theorem characters_units (cs : List Char) : characters (cs.flatMap unitsOfChar) = some cs := by
  induction cs with
  | nil => rfl
  | cons c cs ih => rw [List.flatMap_cons, characters_unitsOfChar, ih, Option.map_some]

end Utf16

namespace Json

theorem string_writeString (charset : Charset) (text : String) (rest : List Char) :
    string (text.toList.flatMap (escapeChar charset) ++ '"' :: rest) = .ok (text, rest) := by
  unfold string
  rw [stringUnits_writeString]
  simp only [bind, Except.bind, Utf16.characters_units, String.ofList_toList]

/-- What follows a value within a text: the comma before the next one, or the end of the line. -/
inductive Ends : List Char → Prop where
  | comma (rest : List Char) : Ends (',' :: rest)
  | line (rest : List Char) : Ends ('\n' :: rest)

theorem toDigits_eq_zero {n : Nat} {more : List Char} (begins : Nat.toDigits 10 n = '0' :: more) :
    more = [] := by
  induction n using Nat.strongRecOn generalizing more with
  | ind n ih =>
    rw [Nat.toDigits_eq_if (by decide)] at begins
    split at begins
    next => exact (List.cons.inj begins).2.symm
    next large =>
      cases above : Nat.toDigits 10 (n / 10) with
      | nil => exact absurd above Nat.toDigits_ne_nil
      | cons first others =>
        rw [above, List.cons_append] at begins
        obtain ⟨rfl, -⟩ := List.cons.inj begins
        have none := ih (n / 10) (by omega) above
        subst none
        have zero : n / 10 = 0 := by
          rw [← Nat.ofDigitChars_toDigits (b := 10) (n := n / 10) (by decide) (by decide), above]
          rfl
        omega

theorem wholeDigits_toDigits (n : Nat) (ends : Ends rest) :
    wholeDigits (Nat.toDigits 10 n ++ rest) = Nat.toDigits 10 n := by
  have stops : rest.takeWhile Char.isDigit = [] := by cases ends <;> rfl
  have all : (Nat.toDigits 10 n ++ rest).takeWhile Char.isDigit = Nat.toDigits 10 n := by
    rw [List.takeWhile_append_of_pos
      (fun c member => Nat.isDigit_of_mem_toDigits (by decide) (by decide) member),
      stops, List.append_nil]
  unfold wholeDigits
  split
  next zero tail begins =>
    cases digits : Nat.toDigits 10 n with
    | nil => exact absurd digits Nat.toDigits_ne_nil
    | cons first more =>
      rw [digits, List.cons_append] at begins
      obtain ⟨rfl, -⟩ := List.cons.inj begins
      rw [toDigits_eq_zero digits]
  next => exact all

theorem number_of_sign {cs : List Char} {negative : Bool} {n : Nat}
    (signed : sign cs = (negative, Nat.toDigits 10 n ++ rest))
    (fits : n < 10 ^ mostDigits) (ends : Ends rest) :
    number cs = .ok (.int (if negative then -n else n), rest) := by
  have pointless : fraction rest = ([], rest) := by cases ends <;> rfl
  have unscaled : power? rest = none := by cases ends <;> rfl
  have nonempty : (Nat.toDigits 10 n).isEmpty = false :=
    List.isEmpty_eq_false_iff.2 Nat.toDigits_ne_nil
  have short : ¬ mostDigits < (Nat.toDigits 10 n).length :=
    Nat.not_lt.2 ((Nat.length_toDigits_le_iff (by decide) (by decide)).2 fits)
  have value : digitsValue (Nat.toDigits 10 n) = n :=
    Nat.ofDigitChars_toDigits (by decide) (by decide)
  unfold number
  simp only [signed, wholeDigits_toDigits n ends, nonempty, Bool.false_eq_true, if_false,
    List.drop_left, pointless, unscaled, short, value]

theorem toDigits_first (n : Nat) :
    ∃ c tail, Nat.toDigits 10 n = c :: tail ∧ c.isDigit = true := by
  cases digits : Nat.toDigits 10 n with
  | nil => exact absurd digits Nat.toDigits_ne_nil
  | cons c tail =>
    have member : c ∈ Nat.toDigits 10 n := digits ▸ List.mem_cons_self
    exact ⟨c, tail, rfl, Nat.isDigit_of_mem_toDigits (by decide) (by decide) member⟩

theorem sign_intText (n : Int) (rest : List Char) :
    sign ((Value.intText n).toList ++ rest) =
      (decide (n < 0), Nat.toDigits 10 n.natAbs ++ rest) := by
  rw [Value.toList_intText]
  by_cases negative : n < 0
  · rw [if_pos negative, decide_eq_true negative]
    rfl
  · obtain ⟨c, tail, digits, digit⟩ := toDigits_first n.natAbs
    rw [if_neg negative, decide_eq_false negative, List.nil_append, digits]
    change sign (c :: (tail ++ rest)) = (false, c :: (tail ++ rest))
    unfold sign
    split
    next minus =>
      obtain ⟨rfl, -⟩ := List.cons.inj minus
      exact absurd digit (by decide)
    next => rfl

theorem number_intText {n : Int} (fits : n.natAbs < 10 ^ mostDigits) (ends : Ends rest) :
    number ((Value.intText n).toList ++ rest) = .ok (.int n, rest) := by
  rw [number_of_sign (sign_intText n rest) fits ends]
  by_cases negative : n < 0
  · rw [decide_eq_true negative, if_pos rfl, Int.ofNat_natAbs_of_nonpos (Int.le_of_lt negative),
      Int.neg_neg]
  · rw [decide_eq_false negative, if_neg Bool.false_ne_true,
      Int.natAbs_of_nonneg (Int.not_lt.1 negative)]

theorem sign_append {cs : List Char} (nonempty : cs ≠ []) (more : List Char) :
    sign (cs ++ more) = ((sign cs).1, (sign cs).2 ++ more) := by
  cases cs with
  | nil => exact absurd rfl nonempty
  | cons c cs =>
    rw [List.cons_append]
    unfold sign
    split
    next minus =>
      obtain ⟨rfl, rfl⟩ := List.cons.inj minus
      rfl
    next other =>
      split
      next minus =>
        obtain ⟨rfl, rfl⟩ := List.cons.inj minus
        exact absurd rfl (other _)
      next => rfl

theorem constants_named : ∀ named ∈ constants,
    ∃ c ∈ (sign named.1).2.head?, c.isDigit = false := by
  simp [constants, sign]

theorem scalar_intText {n : Int} (fits : n.natAbs < 10 ^ mostDigits) (ends : Ends rest) :
    scalar ((Value.intText n).toList ++ rest) = .ok (.int n, rest) := by
  have unnamed : constants.find?
      (fun named => named.1.isPrefixOf ((Value.intText n).toList ++ rest)) = none := by
    rw [List.find?_eq_none]
    intro named member begins
    obtain ⟨more, whole⟩ := List.isPrefixOf_iff_prefix.1 begins
    obtain ⟨c, first, letter⟩ := constants_named named member
    obtain ⟨tail, letters⟩ := List.head?_eq_some_iff.1 first
    obtain ⟨d, others, digits, digit⟩ := toDigits_first n.natAbs
    have nonempty : named.1 ≠ [] := by
      intro empty
      rw [empty] at letters
      cases letters
    have split := congrArg (fun cs => (sign cs).2) whole
    simp only [sign_append nonempty, sign_intText, letters, digits, List.cons_append] at split
    rw [(List.cons.inj split).1, digit] at letter
    cases letter
  unfold scalar
  rw [unnamed]
  exact number_intText fits ends

end Json

end SignOn
