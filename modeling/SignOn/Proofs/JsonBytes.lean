import SignOn.Json.Bytes
import SignOn.Proofs.JsonRoundTrip
import SignOn.Proofs.Utf8

/-!
JSON in bytes. The bytes that are written for a table give it back, since no table begins as another
encoding would. Bytes that only open lists are too deep as soon as there are more of them than the
reader follows, whatever they would have been with an end.
-/

namespace SignOn.Json

theorem marks_begin : ∀ mark ∈ marks, ∃ first more, mark.1 = first :: more ∧
    (first.toNat = 0 ∨ 0x80 ≤ first.toNat) := by
  simp [marks]

theorem guess_of_filled {a b : UInt8} (whole : a ≠ 0) (filled : b ≠ 0) (rest : List UInt8) :
    guess (a :: b :: rest) = .utf8 := by
  unfold guess
  split
  next same =>
    cases same
    rw [if_neg whole, if_neg filled]
  next same =>
    cases same
    rw [if_neg whole, if_neg filled]
  next => rfl

theorem detect_of_ascii {a b : UInt8} (first : 0 < a.toNat) (small : a.toNat < 0x80)
    (second : 0 < b.toNat) (rest : List UInt8) :
    detect (a :: b :: rest) = (.utf8, a :: b :: rest) := by
  have unmarked : marks.find? (·.1.isPrefixOf (a :: b :: rest)) = none := by
    refine List.find?_eq_none.2 fun mark member begins => ?_
    obtain ⟨head, more, same, range⟩ := marks_begin mark member
    rw [same, List.isPrefixOf_cons_cons, Bool.and_eq_true, beq_iff_eq] at begins
    have equal := congrArg UInt8.toNat begins.1
    omega
  have whole : a ≠ 0 := by
    rintro rfl
    exact Nat.lt_irrefl 0 first
  have filled : b ≠ 0 := by
    rintro rfl
    exact Nat.lt_irrefl 0 second
  unfold detect
  rw [unmarked, guess_of_filled whole filled]

theorem decodeBytes_encode {c d : Char} {rest : List Char} (first : 0 < c.toNat ∧ c.toNat < 0x80)
    (second : 0 < d.toNat ∧ d.toNat < 0x80) :
    decodeBytes (Utf8.encode (String.ofList (c :: d :: rest))) =
      .ok (String.ofList (c :: d :: rest)) := by
  have written : Utf8.encode (String.ofList (c :: d :: rest)) =
      UInt8.ofNat c.toNat :: UInt8.ofNat d.toNat :: Utf8.encodeChars rest := by
    have one (c : Char) (small : c.toNat < 0x80) : Utf8.encodeChar c = [UInt8.ofNat c.toNat] := by
      unfold Utf8.encodeChar
      rw [if_pos small]
    rw [Utf8.encode, String.toList_ofList]
    change Utf8.encodeChar c ++ (Utf8.encodeChar d ++ Utf8.encodeChars rest) = _
    rw [one c first.2, one d second.2]
    rfl
  have plain : detect (Utf8.encode (String.ofList (c :: d :: rest))) =
      (.utf8, Utf8.encode (String.ofList (c :: d :: rest))) := by
    have byte {n : Nat} (small : n < 0x80) : (UInt8.ofNat n).toNat = n :=
      Utf8.toNat_ofNat (by omega)
    rw [written]
    refine detect_of_ascii ?_ ?_ ?_ _
    · rw [byte first.2]
      exact first.1
    · rw [byte first.2]
      exact first.2
    · rw [byte second.2]
      exact second.1
  unfold decodeBytes
  rw [plain]
  simp only [Utf8.decode_encode]

theorem writtenTable_begins (charset : Charset) (entries : Entries Value) :
    ∃ d rest, write charset 0 (.table entries) ++ ['\n'] = '{' :: d :: rest ∧
      0 < d.toNat ∧ d.toNat < 0x80 := by
  change ∃ d rest, enclose '{' '}' 0 (writeEntries charset 1 entries) ++ ['\n'] = _ ∧ _
  cases writeEntries charset 1 entries with
  | nil => exact ⟨'}', ['\n'], rfl, by decide, by decide⟩
  | cons part parts => exact ⟨'\n', _, rfl, by decide, by decide⟩

theorem readBytes_write (charset : Charset) {entries : Entries Value}
    (storable : Value.Storable mostLevels (.table entries)) :
    readBytes (Utf8.encode (String.ofList (write charset 0 (.table entries) ++ ['\n']))) =
      .ok (.table entries) := by
  obtain ⟨d, rest, begins, second⟩ := writtenTable_begins charset entries
  have back : read (write charset 0 (.table entries) ++ ['\n']) = .ok (.table entries) :=
    read_write storable
  unfold readBytes
  rw [begins] at back ⊢
  rw [decodeBytes_encode (by decide) second]
  change (read _).mapError _ = _
  rw [String.toList_ofList, back]
  rfl

theorem value_brackets (levels more : Nat) {fuel : Nat} (enough : 2 * levels < fuel) :
    ∃ remaining, value fuel levels ('[' :: List.replicate (levels + more) '[') =
      .error ⟨.tooDeep, remaining⟩ := by
  induction levels generalizing fuel with
  | zero =>
    obtain ⟨fuel, rfl⟩ : ∃ left, fuel = left + 1 := ⟨fuel - 1, by omega⟩
    exact ⟨_, rfl⟩
  | succ levels ih =>
    obtain ⟨fuel, rfl⟩ : ∃ left, fuel = left + 2 := ⟨fuel - 2, by omega⟩
    obtain ⟨remaining, deep⟩ := ih (show 2 * levels < fuel by omega)
    refine ⟨remaining, ?_⟩
    rw [show levels + 1 + more = levels + more + 1 by omega, List.replicate_succ]
    have within : items (fuel + 1) levels ('[' :: List.replicate (levels + more) '[') =
        .error ⟨.tooDeep, remaining⟩ := by
      rw [items, deep]
      rfl
    change (items (fuel + 1) levels ('[' :: List.replicate (levels + more) '[') >>= _) = _
    rw [within]
    rfl

theorem encodeChars_brackets (count : Nat) :
    Utf8.encodeChars (List.replicate count '[') = List.replicate count 0x5B := by
  induction count with
  | zero => rfl
  | succ count ih =>
    rw [List.replicate_succ, List.replicate_succ, ← ih]
    rfl

theorem readBytes_brackets {count : Nat} (many : mostLevels < count) :
    readBytes (List.replicate count 0x5B) = .error .tooDeep := by
  have levels : mostLevels = 970 := rfl
  obtain ⟨more, rfl⟩ : ∃ more, count = mostLevels + (more + 1) :=
    ⟨count - mostLevels - 1, by omega⟩
  have begins : List.replicate (mostLevels + (more + 1)) '[' =
      '[' :: '[' :: List.replicate (mostLevels + more - 1) '[' := by
    rw [← List.replicate_succ, ← List.replicate_succ]
    congr 1
    omega
  obtain ⟨remaining, deep⟩ := value_brackets mostLevels more
    (show 2 * mostLevels < 2 * (mostLevels + (more + 1)) + 2 by omega)
  have unread : read (List.replicate (mostLevels + (more + 1)) '[') =
      .error ⟨.tooDeep, remaining⟩ := by
    rw [← Nat.add_assoc, List.replicate_succ]
    unfold read
    split
    next marked => exact absurd (List.cons.inj marked).1 (by decide)
    next =>
      rw [List.length_cons, List.length_replicate]
      change (value _ _ ('[' :: List.replicate (mostLevels + more) '[') >>= _) = _
      rw [Nat.add_assoc, deep]
      rfl
  have bytes : List.replicate (mostLevels + (more + 1)) 0x5B =
      Utf8.encode (String.ofList (List.replicate (mostLevels + (more + 1)) '[')) := by
    rw [Utf8.encode, String.toList_ofList, encodeChars_brackets]
  unfold readBytes
  rw [bytes, begins, decodeBytes_encode (by decide) (by decide)]
  change (read _).mapError _ = _
  rw [String.toList_ofList, ← begins, unread]
  rfl

theorem storable_of_flat {entries : Entries Value} (distinct : (entries.map (·.1)).Nodup)
    (flat : ∀ entry ∈ entries, entry.2 = .null ∨ ∃ s, entry.2 = .text s) :
    Value.Storable mostLevels (.table entries) := by
  refine .table distinct fun entry inside => ?_
  rcases flat entry inside with empty | ⟨s, text⟩
  · rw [empty]
    exact .null _
  · rw [text]
    exact .text _ s

end SignOn.Json
