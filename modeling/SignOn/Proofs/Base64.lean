import Mathlib.Algebra.Group.Nat.Defs
import Mathlib.Data.List.TakeWhile
import SignOn.Bytes.Base64
import SignOn.Proofs.Utf8

/-!
Base64 by bits. Digits and bytes cut one sequence of bits in two ways, into sixes and into eights,
with fewer than six bits left over at the end. The strict reader takes digits of the standard
alphabet and padding that fits them, and reads the bytes that the digits carry, which there is but
one way to do; the padded form of bytes carries them. The URL form has a length that the number of
bytes determines, is written in its own digits alone, and differs where the bytes differ.
-/

namespace SignOn.Base64

def bits : Nat → Nat → List Bool
  | 0, _ => []
  | width + 1, n => bits width (n / 2) ++ [n % 2 == 1]

@[simp] theorem length_bits (width n : Nat) : (bits width n).length = width := by
  induction width generalizing n with
  | zero => rfl
  | succ width ih => rw [bits, List.length_append, ih, List.length_singleton]

theorem bits_injective {width first second : Nat} (small : first < 2 ^ width)
    (fits : second < 2 ^ width) (same : bits width first = bits width second) :
    first = second := by
  induction width generalizing first second with
  | zero =>
    rw [Nat.pow_zero] at small fits
    omega
  | succ width ih =>
    rw [Nat.pow_succ] at small fits
    obtain ⟨higher, lowest⟩ := List.append_inj same (by rw [length_bits, length_bits])
    have halves := ih (by omega) (by omega) higher
    have parity : (first % 2 == 1) = (second % 2 == 1) := (List.cons.inj lowest).1
    rw [Bool.eq_iff_iff, beq_iff_eq, beq_iff_eq] at parity
    omega

theorem bits_append {width : Nat} (high n : Nat) {low : Nat} (small : low < 2 ^ width) :
    bits n high ++ bits width low = bits (n + width) (high * 2 ^ width + low) := by
  induction width generalizing low with
  | zero =>
    rw [Nat.pow_zero] at small ⊢
    rw [show high * 1 + low = high by omega]
    exact List.append_nil _
  | succ width ih =>
    rw [Nat.pow_succ] at small ⊢
    have half : (high * (2 ^ width * 2) + low) / 2 = high * 2 ^ width + low / 2 := by
      rw [← Nat.mul_assoc]
      omega
    have parity : (high * (2 ^ width * 2) + low) % 2 = low % 2 := by
      rw [← Nat.mul_assoc]
      omega
    rw [← Nat.add_assoc, bits, bits, half, parity, ← ih (by omega), List.append_assoc]

def bitsOfDigits (digits : List Nat) : List Bool := digits.flatMap (bits 6)

def bitsOfBytes (bytes : List UInt8) : List Bool := bytes.flatMap fun byte => bits 8 byte.toNat

theorem length_bitsOfDigits (digits : List Nat) :
    (bitsOfDigits digits).length = 6 * digits.length := by
  induction digits with
  | nil => rfl
  | cons digit rest ih =>
    change (bits 6 digit ++ bitsOfDigits rest).length = _
    rw [List.length_append, length_bits, ih, List.length_cons]
    omega

theorem length_bitsOfBytes (bytes : List UInt8) :
    (bitsOfBytes bytes).length = 8 * bytes.length := by
  induction bytes with
  | nil => rfl
  | cons byte rest ih =>
    change (bits 8 byte.toNat ++ bitsOfBytes rest).length = _
    rw [List.length_append, length_bits, ih, List.length_cons]
    omega

theorem bitsOfBytes_injective {first second : List UInt8}
    (same : bitsOfBytes first = bitsOfBytes second) : first = second := by
  have lengths := congrArg List.length same
  rw [length_bitsOfBytes, length_bitsOfBytes] at lengths
  induction first generalizing second with
  | nil =>
    rw [List.length_nil] at lengths
    exact (List.eq_nil_of_length_eq_zero (by omega)).symm
  | cons byte rest ih =>
    cases second with
    | nil =>
      rw [List.length_cons, List.length_nil] at lengths
      omega
    | cons other more =>
      change bits 8 byte.toNat ++ bitsOfBytes rest = bits 8 other.toNat ++ bitsOfBytes more at same
      obtain ⟨here, further⟩ := List.append_inj same (by rw [length_bits, length_bits])
      have equal := bits_injective byte.toNat_lt other.toNat_lt here
      rw [List.length_cons, List.length_cons] at lengths
      rw [UInt8.toNat_inj.1 equal, ih further (by omega)]

/-- The digits carry the bytes: theirs are the bits of the bytes, and fewer than six more. -/
def Carries (digits : List Nat) (bytes : List UInt8) : Prop :=
  ∃ left : List Bool, left.length < 6 ∧ bitsOfDigits digits = bitsOfBytes bytes ++ left

variable {digits : List Nat} {bytes : List UInt8}

theorem Carries.length (carries : Carries digits bytes) :
    8 * bytes.length ≤ 6 * digits.length ∧ 6 * digits.length < 8 * bytes.length + 6 := by
  obtain ⟨left, few, same⟩ := carries
  have lengths := congrArg List.length same
  rw [length_bitsOfDigits, List.length_append, length_bitsOfBytes] at lengths
  omega

theorem Carries.unique {other : List UInt8} (carries : Carries digits bytes)
    (carriesOther : Carries digits other) : bytes = other := by
  have bounds := carries.length
  have boundsOther := carriesOther.length
  obtain ⟨left, few, same⟩ := carries
  obtain ⟨leftOther, fewOther, sameOther⟩ := carriesOther
  refine bitsOfBytes_injective (List.append_inj (same.symm.trans sameOther) ?_).1
  rw [length_bitsOfBytes, length_bitsOfBytes]
  omega

theorem Carries.group (carries : Carries digits bytes) {a b c d : Nat} (second : b < 64)
    (third : c < 64) (fourth : d < 64) {x y z : UInt8}
    (one : x.toNat = a * 4 + b / 16) (two : y.toNat = b % 16 * 16 + c / 4)
    (three : z.toNat = c % 4 * 64 + d) :
    Carries (a :: b :: c :: d :: digits) (x :: y :: z :: bytes) := by
  obtain ⟨left, few, same⟩ := carries
  refine ⟨left, few, ?_⟩
  have regrouped : bits 6 a ++ (bits 6 b ++ (bits 6 c ++ bits 6 d)) =
      bits 8 x.toNat ++ (bits 8 y.toNat ++ bits 8 z.toNat) := by
    have last := z.toNat_lt
    have middle := y.toNat_lt
    rw [bits_append c 6 (by omega), bits_append b 6 (by omega), bits_append a 6 (by omega),
      bits_append _ 8 (by omega), bits_append _ 8 (by omega)]
    simp only [Nat.reduceAdd, Nat.reducePow]
    exact congrArg (bits 24) (by omega)
  calc bitsOfDigits (a :: b :: c :: d :: digits)
      = bits 6 a ++ (bits 6 b ++ (bits 6 c ++ bits 6 d)) ++ bitsOfDigits digits := by
        simp [bitsOfDigits]
    _ = bits 8 x.toNat ++ (bits 8 y.toNat ++ bits 8 z.toNat) ++ (bitsOfBytes bytes ++ left) := by
        rw [regrouped, same]
    _ = bitsOfBytes (x :: y :: z :: bytes) ++ left := by simp [bitsOfBytes]

theorem carries_pair {a b : Nat} (second : b < 64) {x : UInt8}
    (one : x.toNat = a * 4 + b / 16) : Carries [a, b] [x] := by
  refine ⟨bits 4 (b % 16), by rw [length_bits]; omega, ?_⟩
  change bits 6 a ++ (bits 6 b ++ []) = bits 8 x.toNat ++ [] ++ bits 4 (b % 16)
  rw [List.append_nil, List.append_nil, bits_append a 6 (by omega),
    bits_append _ 8 (by omega)]
  congr 1
  omega

theorem carries_triple {a b c : Nat} (second : b < 64) (third : c < 64)
    {x y : UInt8} (one : x.toNat = a * 4 + b / 16) (two : y.toNat = b % 16 * 16 + c / 4) :
    Carries [a, b, c] [x, y] := by
  refine ⟨bits 2 (c % 4), by rw [length_bits]; omega, ?_⟩
  change bits 6 a ++ (bits 6 b ++ (bits 6 c ++ [])) =
    bits 8 x.toNat ++ (bits 8 y.toNat ++ []) ++ bits 2 (c % 4)
  have middle := y.toNat_lt
  rw [List.append_nil, List.append_nil, bits_append b 6 (by omega), bits_append a 6 (by omega),
    bits_append _ 8 (by omega), bits_append _ _ (by omega)]
  congr 1
  omega

theorem carries_of_bytesOfDigits (small : ∀ digit ∈ digits, digit < 64)
    (read : bytesOfDigits digits = some bytes) : Carries digits bytes := by
  fun_induction bytesOfDigits digits generalizing bytes with
  | case1 =>
    cases read
    exact ⟨[], by decide, rfl⟩
  | case2 => cases read
  | case3 a b =>
    cases read
    simp only [List.mem_cons, List.not_mem_nil, or_false, forall_eq_or_imp, forall_eq] at small
    exact carries_pair small.2 (Utf8.toNat_ofNat (by omega))
  | case4 a b c =>
    cases read
    simp only [List.mem_cons, List.not_mem_nil, or_false, forall_eq_or_imp, forall_eq] at small
    exact carries_triple small.2.1 small.2.2 (Utf8.toNat_ofNat (by omega))
      (Utf8.toNat_ofNat (by omega))
  | case5 a b c d rest ih =>
    obtain ⟨more, further, rfl⟩ := Option.map_eq_some_iff.1 read
    simp only [List.mem_cons, forall_eq_or_imp] at small
    obtain ⟨first, second, third, fourth, others⟩ := small
    exact (ih others further).group second third fourth (Utf8.toNat_ofNat (by omega))
      (Utf8.toNat_ofNat (by omega)) (Utf8.toNat_ofNat (by omega))

theorem bytesOfDigits_isSome (digits : List Nat) (whole : digits.length % 4 ≠ 1) :
    ∃ bytes, bytesOfDigits digits = some bytes := by
  fun_induction bytesOfDigits digits with
  | case1 => exact ⟨_, rfl⟩
  | case2 => exact absurd rfl whole
  | case3 => exact ⟨_, rfl⟩
  | case4 => exact ⟨_, rfl⟩
  | case5 a b c d rest ih =>
    obtain ⟨bytes, read⟩ := ih (by simp only [List.length_cons] at whole; omega)
    rw [read]
    exact ⟨_, rfl⟩

theorem bytesOfDigits_eq_some_iff (small : ∀ digit ∈ digits, digit < 64) :
    bytesOfDigits digits = some bytes ↔ Carries digits bytes := by
  refine ⟨carries_of_bytesOfDigits small, fun carries => ?_⟩
  obtain ⟨found, read⟩ := bytesOfDigits_isSome digits (by have bounds := carries.length; omega)
  rw [read, (carries_of_bytesOfDigits small read).unique carries]

theorem carries_encode (alphabet : Alphabet) (bytes : List UInt8) :
    ∃ digits, alphabet.encode bytes = digits.map alphabet.digit ∧
      (∀ digit ∈ digits, digit < 64) ∧ Carries digits bytes := by
  fun_induction Alphabet.encode alphabet bytes with
  | case1 => exact ⟨[], rfl, by simp, [], by decide, rfl⟩
  | case2 a =>
    have byte := a.toNat_lt
    refine ⟨[a.toNat / 4, a.toNat % 4 * 16], rfl, ?_, carries_pair (by omega) (by omega)⟩
    simp only [List.mem_cons, List.not_mem_nil, or_false, forall_eq_or_imp, forall_eq]
    omega
  | case3 a b =>
    have first := a.toNat_lt
    have second := b.toNat_lt
    refine ⟨[a.toNat / 4, a.toNat % 4 * 16 + b.toNat / 16, b.toNat % 16 * 4], rfl, ?_,
      carries_triple (by omega) (by omega) (by omega) (by omega)⟩
    simp only [List.mem_cons, List.not_mem_nil, or_false, forall_eq_or_imp, forall_eq]
    omega
  | case4 a b c rest ih =>
    have first := a.toNat_lt
    have second := b.toNat_lt
    have third := c.toNat_lt
    obtain ⟨digits, written, small, carries⟩ := ih
    refine ⟨a.toNat / 4 :: (a.toNat % 4 * 16 + b.toNat / 16) ::
      (b.toNat % 16 * 4 + c.toNat / 64) :: c.toNat % 64 :: digits, ?_, ?_,
      carries.group (by omega) (by omega) (by omega) (by omega) (by omega) (by omega)⟩
    · rw [written]
      rfl
    · simp only [List.mem_cons, forall_eq_or_imp]
      exact ⟨by omega, by omega, by omega, by omega, small⟩

def Alphabet.Legible (alphabet : Alphabet) : Prop :=
  ∀ n < 64, alphabet.value? (alphabet.digit n) = some n

theorem legible_standard : standard.Legible := by
  unfold Alphabet.Legible
  decide

theorem legible_urlSafe : urlSafe.Legible := by
  unfold Alphabet.Legible
  decide

theorem digit_of_value? {c : Char} {n : Nat} (known : standard.value? c = some n) :
    standard.digit n = c ∧ n < 64 := by
  have back : Char.ofNat c.toNat = c := Char.ofNat_toNat c
  unfold Alphabet.value? at known
  simp only [Bool.and_eq_true, decide_eq_true_eq] at known
  unfold Alphabet.digit
  split at known
  next upper =>
    cases known
    rw [if_pos (by omega), show 0x41 + (c.toNat - 0x41) = c.toNat by omega]
    exact ⟨back, by omega⟩
  split at known
  next lower =>
    cases known
    rw [if_neg (by omega), if_pos (by omega),
      show 0x61 + (c.toNat - 0x61 + 26 - 26) = c.toNat by omega]
    exact ⟨back, by omega⟩
  split at known
  next number =>
    cases known
    rw [if_neg (by omega), if_neg (by omega), if_pos (by omega),
      show 0x30 + (c.toNat - 0x30 + 52 - 52) = c.toNat by omega]
    exact ⟨back, by omega⟩
  split at known
  next plus =>
    cases known
    exact ⟨plus.symm, by decide⟩
  split at known
  next slash =>
    cases known
    exact ⟨slash.symm, by decide⟩
  next => cases known

/-- A short last group is filled up to four. Behind full groups any number of equals signs may
stand, but equals signs alone are nothing. -/
def Fits (digits padding : Nat) : Prop :=
  (digits % 4 = 0 ∧ (0 < digits ∨ padding = 0)) ∨ (2 ≤ digits % 4 ∧ digits % 4 + padding = 4)

theorem paddingFits_iff {digits padding : Nat} :
    paddingFits digits padding = true ↔ Fits digits padding := by
  unfold paddingFits Fits
  obtain whole | single | short | short : digits % 4 = 0 ∨ digits % 4 = 1 ∨ digits % 4 = 2 ∨
      digits % 4 = 3 := by omega
  · rw [whole]
    change (padding == 0 || digits != 0) = true ↔ _
    rw [Bool.or_eq_true, beq_iff_eq, bne_iff_ne]
    omega
  · rw [single]
    exact iff_of_false Bool.false_ne_true (by omega)
  · rw [short]
    change (2 + padding == 4) = true ↔ _
    rw [beq_iff_eq]
    omega
  · rw [short]
    change (3 + padding == 4) = true ↔ _
    rw [beq_iff_eq]
    omega

/-- A token in strict form: digits of the standard alphabet that carry the bytes, and equals signs
that fit. -/
inductive Strict : List Char → List UInt8 → Prop where
  | mk {digits : List Nat} {padding : Nat} {bytes : List UInt8}
      (small : ∀ digit ∈ digits, digit < 64) (fits : Fits digits.length padding)
      (carries : Carries digits bytes) :
      Strict (digits.map standard.digit ++ List.replicate padding '=') bytes

theorem digits_of_values {cs : List Char}
    (known : ∀ c ∈ cs, (standard.value? c).isSome = true) :
    cs = (cs.filterMap standard.value?).map standard.digit ∧
      (cs.filterMap standard.value?).length = cs.length ∧
      ∀ n ∈ cs.filterMap standard.value?, n < 64 := by
  induction cs with
  | nil => exact ⟨rfl, rfl, by simp⟩
  | cons c rest ih =>
    obtain ⟨n, value⟩ := Option.isSome_iff_exists.1 (known c List.mem_cons_self)
    have further : ∀ other ∈ rest, _ := fun other member =>
      known other (List.mem_cons_of_mem _ member)
    obtain ⟨same, lengths, small⟩ := ih further
    obtain ⟨digit, bound⟩ := digit_of_value? value
    rw [List.filterMap_cons_some value, List.map_cons, digit, ← same, List.length_cons, lengths]
    exact ⟨rfl, rfl, List.forall_mem_cons.2 ⟨bound, small⟩⟩

theorem values_of_digits {alphabet : Alphabet} (legible : alphabet.Legible)
    (small : ∀ digit ∈ digits, digit < 64) :
    (digits.map alphabet.digit).filterMap alphabet.value? = digits ∧
      ∀ c ∈ digits.map alphabet.digit, (alphabet.value? c).isSome = true := by
  induction digits with
  | nil => exact ⟨rfl, by simp⟩
  | cons digit rest ih =>
    obtain ⟨here, others⟩ := List.forall_mem_cons.1 small
    obtain ⟨same, known⟩ := ih others
    have value := legible digit here
    rw [List.map_cons, List.filterMap_cons_some value, same]
    exact ⟨rfl, List.forall_mem_cons.2 ⟨by rw [value]; rfl, known⟩⟩

/-- The strict reader finds bytes in a token exactly where the token is in strict form for them. -/
theorem decodeStrict_eq_some_iff {token : List Char} :
    decodeStrict token = some bytes ↔ Strict token bytes := by
  constructor
  · intro read
    unfold decodeStrict at read
    simp only at read
    split at read
    next fits =>
      rw [Bool.and_eq_true, List.all_eq_true, paddingFits_iff] at fits
      obtain ⟨equals, fits⟩ := fits
      have known : ∀ c ∈ token.takeWhile fun c => (standard.value? c).isSome,
          (standard.value? c).isSome = true := fun c inside =>
        List.mem_takeWhile_imp (p := fun c => (standard.value? c).isSome) inside
      obtain ⟨named, lengths, small⟩ := digits_of_values known
      have padding := List.eq_replicate_of_mem fun c inside => beq_iff_eq.1 (equals c inside)
      have whole := List.takeWhile_append_dropWhile (l := token)
        (p := fun c => (standard.value? c).isSome)
      rw [named, padding] at whole
      rw [← lengths] at fits
      rw [← whole]
      exact .mk small fits ((bytesOfDigits_eq_some_iff small).1 read)
    next => cases read
  · rintro ⟨small, fits, carries⟩
    obtain ⟨values, known⟩ := values_of_digits legible_standard small
    have equals : ∀ padding, (List.replicate padding '=').takeWhile
        (fun c => (standard.value? c).isSome) = [] ∧ (List.replicate padding '=').dropWhile
          (fun c => (standard.value? c).isSome) = List.replicate padding '=' := by
      intro padding
      cases padding <;> exact ⟨rfl, rfl⟩
    unfold decodeStrict
    rw [List.takeWhile_append_of_pos known, List.dropWhile_append_of_pos known, (equals _).1,
      (equals _).2, List.append_nil]
    dsimp only
    rw [List.length_map, List.length_replicate, values, paddingFits_iff.2 fits, Bool.and_true,
      if_pos (List.all_eq_true.2 fun c inside => beq_iff_eq.2 (List.eq_of_mem_replicate inside))]
    exact (bytesOfDigits_eq_some_iff small).2 carries

theorem strict_encodePadded (bytes : List UInt8) : Strict (encodePadded bytes) bytes := by
  obtain ⟨digits, written, small, carries⟩ := carries_encode standard bytes
  have bounds := carries.length
  unfold encodePadded padded
  rw [written, List.length_map]
  refine .mk small ?_ carries
  unfold Fits
  omega

theorem length_encode (alphabet : Alphabet) (bytes : List UInt8) :
    (alphabet.encode bytes).length = (4 * bytes.length + 2) / 3 := by
  obtain ⟨digits, written, -, carries⟩ := carries_encode alphabet bytes
  have bounds := carries.length
  rw [written, List.length_map]
  omega

theorem mem_encode {alphabet : Alphabet} {c : Char} (inside : c ∈ alphabet.encode bytes) :
    ∃ n < 64, alphabet.digit n = c := by
  obtain ⟨digits, written, small, -⟩ := carries_encode alphabet bytes
  rw [written] at inside
  obtain ⟨n, member, same⟩ := List.mem_map.1 inside
  exact ⟨n, small n member, same⟩

theorem encode_injective {alphabet : Alphabet} (legible : alphabet.Legible) :
    Function.Injective alphabet.encode := by
  intro first second same
  obtain ⟨digits, written, small, carries⟩ := carries_encode alphabet first
  obtain ⟨others, writtenOther, smallOther, carriesOther⟩ := carries_encode alphabet second
  have equal : digits = others := by
    calc digits
        = (alphabet.encode first).filterMap alphabet.value? := by
          rw [written, (values_of_digits legible small).1]
      _ = (alphabet.encode second).filterMap alphabet.value? := by rw [same]
      _ = others := by rw [writtenOther, (values_of_digits legible smallOther).1]
  rw [← equal] at carriesOther
  exact carries.unique carriesOther

theorem unpadded_padded {cs : List Char} (plain : '=' ∉ cs) : unpadded (padded cs) = cs := by
  have kept : cs.reverse.dropWhile (· == '=') = cs.reverse := by
    cases backwards : cs.reverse with
    | nil => rfl
    | cons last rest =>
      refine List.dropWhile_cons_of_neg fun equals => plain (List.mem_reverse.1 ?_)
      rw [backwards, ← beq_iff_eq.1 equals]
      exact List.mem_cons_self
  have equals (count : Nat) : ∀ c ∈ List.replicate count '=', (c == '=') = true :=
    fun c inside => beq_iff_eq.2 (List.eq_of_mem_replicate inside)
  unfold unpadded padded
  rw [List.reverse_append, List.reverse_replicate, List.dropWhile_append_of_pos (equals _), kept,
    List.reverse_reverse]

/-- The characters of the URL form. -/
def isUrlDigit (c : Char) : Bool := c.isAlphanum || c == '-' || c == '_'

theorem isUrlDigit_digit : ∀ n < 64, isUrlDigit (urlSafe.digit n) = true := by
  decide

theorem isUrlDigit_of_mem_encode {c : Char} (inside : c ∈ urlSafe.encode bytes) :
    isUrlDigit c = true := by
  obtain ⟨n, small, rfl⟩ := mem_encode inside
  exact isUrlDigit_digit n small

theorem toList_encodeUrl (bytes : List UInt8) :
    (encodeUrl bytes).toList = urlSafe.encode bytes := by
  have plain : '=' ∉ urlSafe.encode bytes := by
    intro inside
    exact absurd (isUrlDigit_of_mem_encode inside) (by decide)
  rw [encodeUrl, String.toList_ofList, unpadded_padded plain]

theorem encodeUrl_injective : Function.Injective encodeUrl := by
  intro first second same
  have digits := congrArg String.toList same
  rw [toList_encodeUrl, toList_encodeUrl] at digits
  exact encode_injective legible_urlSafe digits

/-- A text of so many characters, all of them digits of the URL form. -/
structure UrlText (length : Nat) (text : String) : Prop where
  length_eq : text.length = length
  digits : ∀ c ∈ text.toList, isUrlDigit c = true

theorem urlText_encodeUrl (bytes : List UInt8) :
    UrlText ((4 * bytes.length + 2) / 3) (encodeUrl bytes) where
  length_eq := by rw [← String.length_toList, toList_encodeUrl, length_encode]
  digits := by
    intro c inside
    rw [toList_encodeUrl] at inside
    exact isUrlDigit_of_mem_encode inside

end SignOn.Base64
