import SignOn.Bytes.Utf8

/-!
Reading UTF-8 back. What was written for a character is read as that character and nothing else,
whatever follows it. The first byte tells the length, and the narrowed ranges for the second one
leave room for every character that needs it, and for no more: bytes in which no fault is found are
the very ones that are written for what is read from them.
-/

namespace SignOn.Utf8

theorem toNat_ofNat {n : Nat} (small : n < 256) : (UInt8.ofNat n).toNat = n := by
  rw [UInt8.toNat_ofNat']
  exact Nat.mod_eq_of_lt small

theorem code_bounds (c : Char) :
    c.toNat < 0xD800 ∨ (0xDFFF < c.toNat ∧ c.toNat < 0x110000) :=
  c.valid

theorem lead_one {code : Nat} (small : code < 0x80) :
    lead (UInt8.ofNat code) = .whole (Char.ofNat code) := by
  have byte := toNat_ofNat (show code < 256 by omega)
  unfold lead
  simp only [byte]
  rw [if_pos small]

theorem lead_two {high : Nat} (least : 2 ≤ high) (most : high < 32) :
    lead (UInt8.ofNat (0xC0 + high)) = .opened ⟨high, 0, 0x80, 0xBF⟩ := by
  have byte := toNat_ofNat (show 0xC0 + high < 256 by omega)
  unfold lead
  simp only [byte]
  rw [if_neg (by omega), if_neg (by omega), if_pos (by omega), Nat.add_sub_cancel_left]

theorem lead_three (high middle : Nat) (most : high < 16) (fits : middle < 64)
    (least : high = 0 → 32 ≤ middle) (surrogate : high = 13 → middle < 32) :
    ∃ low top, lead (UInt8.ofNat (0xE0 + high)) = .opened ⟨high, 1, low, top⟩ ∧
      low ≤ 0x80 + middle ∧ 0x80 + middle ≤ top := by
  have byte := toNat_ofNat (show 0xE0 + high < 256 by omega)
  unfold lead
  simp only [byte]
  rw [if_neg (by omega), if_neg (by omega), if_neg (by omega)]
  by_cases first : high = 0
  · subst first
    refine ⟨0xA0, 0xBF, if_pos rfl, ?_, ?_⟩
    · have room := least rfl
      omega
    · omega
  · rw [if_neg (by omega)]
    by_cases before : high = 13
    · subst before
      refine ⟨0x80, 0x9F, if_pos rfl, ?_, ?_⟩
      · omega
      · have room := surrogate rfl
        omega
    · rw [if_neg (by omega), if_pos (by omega), Nat.add_sub_cancel_left]
      exact ⟨0x80, 0xBF, rfl, by omega, by omega⟩

theorem lead_four (high middle : Nat) (most : high < 5) (fits : middle < 64)
    (least : high = 0 → 16 ≤ middle) (last : high = 4 → middle < 16) :
    ∃ low top, lead (UInt8.ofNat (0xF0 + high)) = .opened ⟨high, 2, low, top⟩ ∧
      low ≤ 0x80 + middle ∧ 0x80 + middle ≤ top := by
  have byte := toNat_ofNat (show 0xF0 + high < 256 by omega)
  unfold lead
  simp only [byte]
  rw [if_neg (by omega), if_neg (by omega), if_neg (by omega), if_neg (by omega),
    if_neg (by omega), if_neg (by omega)]
  by_cases first : high = 0
  · subst first
    refine ⟨0x90, 0xBF, if_pos rfl, ?_, ?_⟩
    · have room := least rfl
      omega
    · omega
  · rw [if_neg (by omega)]
    by_cases final : high = 4
    · subst final
      refine ⟨0x80, 0x8F, rfl, ?_, ?_⟩
      · omega
      · have room := last rfl
        omega
    · rw [if_pos (by omega), Nat.add_sub_cancel_left]
      exact ⟨0x80, 0xBF, rfl, by omega, by omega⟩

theorem scan_inside (begun : Partial) {low : Nat} (rest : List UInt8) (small : low < 64)
    (above : begun.low ≤ 0x80 + low) (below : 0x80 + low ≤ begun.high) :
    scan (some begun) (UInt8.ofNat (0x80 + low) :: rest) =
      match begun.owed with
      | 0 => some (Char.ofNat (begun.code * 64 + low)) :: scan none rest
      | owed + 1 => scan (some ⟨begun.code * 64 + low, owed, 0x80, 0xBF⟩) rest := by
  have byte := toNat_ofNat (show 0x80 + low < 256 by omega)
  have inside : (begun.low ≤ 0x80 + low && 0x80 + low ≤ begun.high) = true :=
    Bool.and_eq_true_iff.2 ⟨decide_eq_true above, decide_eq_true below⟩
  obtain ⟨code, owed, bottom, top⟩ := begun
  cases owed with
  | zero =>
    rw [scan]
    simp only [byte, inside, if_true, Nat.add_sub_cancel_left]
  | succ owed =>
    rw [scan]
    simp only [byte, inside, if_true, Nat.add_sub_cancel_left]

theorem scan_opened {byte : UInt8} {begun : Partial} (opens : lead byte = .opened begun)
    (rest : List UInt8) : scan none (byte :: rest) = scan (some begun) rest := by
  rw [scan, opens]

theorem scan_encodeChar (c : Char) (rest : List UInt8) :
    scan none (encodeChar c ++ rest) = some c :: scan none rest := by
  have bounds := code_bounds c
  have back : Char.ofNat c.toNat = c := Char.ofNat_toNat c
  -- The bytes carry the digits of the code in base 64, from which omega puts it together again.
  generalize reached : c.toNat = code at bounds back
  unfold encodeChar
  simp only [reached]
  split
  next one =>
    rw [List.singleton_append, scan, lead_one one, back]
  next =>
    split
    next two =>
      rw [List.cons_append, List.singleton_append,
        scan_opened (lead_two (by omega) (by omega)),
        scan_inside _ _ (Nat.mod_lt _ (by decide)) (by simp) (by simp; omega)]
      simp only
      rw [show code / 64 * 64 + code % 64 = code by omega, back]
    next =>
      split
      next three =>
        obtain ⟨low, top, opens, above, below⟩ :=
          lead_three (code / 4096) (code / 64 % 64) (by omega) (by omega)
            (by omega) (by omega)
        rw [List.cons_append, List.cons_append, List.singleton_append, scan_opened opens,
          scan_inside _ _ (Nat.mod_lt _ (by decide)) above below]
        simp only
        rw [scan_inside _ _ (Nat.mod_lt _ (by decide)) (by simp) (by simp; omega)]
        simp only
        rw [show (code / 4096 * 64 + code / 64 % 64) * 64 + code % 64 = code by omega, back]
      next four =>
        obtain ⟨low, top, opens, above, below⟩ :=
          lead_four (code / 262144) (code / 4096 % 64) (by omega) (by omega)
            (by omega) (by omega)
        rw [List.cons_append, List.cons_append, List.cons_append, List.singleton_append,
          scan_opened opens, scan_inside _ _ (Nat.mod_lt _ (by decide)) above below]
        simp only
        rw [scan_inside _ _ (Nat.mod_lt _ (by decide)) (by simp) (by simp; omega)]
        simp only
        rw [scan_inside _ _ (Nat.mod_lt _ (by decide)) (by simp) (by simp; omega)]
        simp only
        rw [show ((code / 262144 * 64 + code / 4096 % 64) * 64 + code / 64 % 64) * 64 + code % 64 =
          code by omega, back]

theorem scan_encodeChars (cs : List Char) : scan none (encodeChars cs) = cs.map some := by
  induction cs with
  | nil => rfl
  | cons c cs ih =>
    rw [encodeChars, List.flatMap_cons, scan_encodeChar, List.map_cons]
    exact congrArg (some c :: ·) ih

theorem decodeLossy_encodeChars (cs : List Char) :
    decodeLossy (encodeChars cs) = String.ofList cs := by
  rw [decodeLossy, scan_encodeChars, List.map_map]
  exact congrArg String.ofList (List.map_id cs)

theorem decode_encode (text : String) : decode (encode text) = some text := by
  have every (cs : List Char) : (cs.map some).mapM id = some cs := by
    induction cs with
    | nil => rfl
    | cons c cs ih => simp [List.mapM_cons, ih]
  rw [decode, encode, scan_encodeChars, every, Option.map_some, String.ofList_toList]

theorem encode_injective {first second : String} (same : encode first = encode second) :
    first = second := by
  have read := decode_encode first
  rw [same, decode_encode] at read
  exact (Option.some.inj read).symm

/-- One byte for each character: its code. -/
def asciiBytes (text : String) : List UInt8 := text.toList.map fun c => UInt8.ofNat c.toNat

theorem encode_of_ascii {text : String} (ascii : ∀ c ∈ text.toList, c.toNat < 0x80) :
    encode text = asciiBytes text := by
  unfold encode asciiBytes
  generalize text.toList = cs at ascii ⊢
  induction cs with
  | nil => rfl
  | cons c cs ih =>
    have here : encodeChar c = [UInt8.ofNat c.toNat] := if_pos (ascii c List.mem_cons_self)
    have rest := ih fun other inside => ascii other (List.mem_cons_of_mem c inside)
    rw [encodeChars, List.flatMap_cons, here]
    exact congrArg (UInt8.ofNat c.toNat :: ·) rest

theorem toNat_ofCode {code : Nat} (valid : code.isValidChar) : (Char.ofNat code).toNat = code := by
  unfold Char.ofNat
  rw [dif_pos valid]
  rfl

theorem opened_of_lead {byte : UInt8} {code owed low high : Nat}
    (opens : lead byte = .opened ⟨code, owed, low, high⟩) :
    (owed = 0 ∧ code + 0xC0 = byte.toNat ∧ 2 ≤ code ∧ code < 32 ∧ low = 0x80 ∧ high = 0xBF) ∨
      (owed = 1 ∧ code + 0xE0 = byte.toNat ∧ code < 16 ∧ 0x80 ≤ low ∧ high ≤ 0xBF ∧
        (code = 0 → 0xA0 ≤ low) ∧ (code = 13 → high ≤ 0x9F)) ∨
      (owed = 2 ∧ code + 0xF0 = byte.toNat ∧ code < 5 ∧ 0x80 ≤ low ∧ high ≤ 0xBF ∧
        (code = 0 → 0x90 ≤ low) ∧ (code = 4 → high ≤ 0x8F)) := by
  unfold lead at opens
  generalize byte.toNat = b at opens ⊢
  simp only at opens
  repeat' split at opens
  all_goals simp only [Lead.opened.injEq, Partial.mk.injEq, reduceCtorEq] at opens
  all_goals omega

theorem scan_within {begun : Partial} {bytes : List UInt8} {cs : List Char}
    (read : scan (some begun) bytes = cs.map some) :
    ∃ byte rest, bytes = byte :: rest ∧ begun.low ≤ byte.toNat ∧ byte.toNat ≤ begun.high := by
  have faultless (more : List (Option Char)) : none :: more ≠ cs.map some := by
    cases cs <;> simp
  cases bytes with
  | nil => exact absurd read (faultless [])
  | cons byte rest =>
    rw [scan.eq_def] at read
    simp only at read
    split at read
    next inside =>
      rw [Bool.and_eq_true, decide_eq_true_eq, decide_eq_true_eq] at inside
      exact ⟨byte, rest, rfl, inside⟩
    next =>
      split at read
      · exact absurd read (faultless _)
      · exact absurd read (faultless _)
      · exact absurd read (faultless _)

theorem scan_last {code low high : Nat} {bytes : List UInt8} {cs : List Char}
    (read : scan (some ⟨code, 0, low, high⟩) bytes = cs.map some) :
    ∃ byte rest more, bytes = byte :: rest ∧ low ≤ byte.toNat ∧ byte.toNat ≤ high ∧
      cs = Char.ofNat (code * 64 + (byte.toNat - 0x80)) :: more ∧
      scan none rest = more.map some := by
  obtain ⟨byte, rest, rfl, above, below⟩ := scan_within read
  rw [scan.eq_def] at read
  simp only [above, below, decide_true, Bool.and_self, if_true] at read
  cases cs with
  | nil => cases read
  | cons c more =>
    obtain ⟨first, later⟩ := List.cons.inj read
    exact ⟨byte, rest, more, rfl, above, below, by rw [Option.some.inj first], later⟩

theorem scan_further {code owed low high : Nat} {bytes : List UInt8} {cs : List Char}
    (read : scan (some ⟨code, owed + 1, low, high⟩) bytes = cs.map some) :
    ∃ byte rest, bytes = byte :: rest ∧ low ≤ byte.toNat ∧ byte.toNat ≤ high ∧
      scan (some ⟨code * 64 + (byte.toNat - 0x80), owed, 0x80, 0xBF⟩) rest = cs.map some := by
  obtain ⟨byte, rest, rfl, above, below⟩ := scan_within read
  rw [scan.eq_def] at read
  simp only [above, below, decide_true, Bool.and_self, if_true] at read
  exact ⟨byte, rest, rfl, above, below, read⟩

theorem eq_ofNat {byte : UInt8} {n : Nat} (same : byte.toNat = n) : byte = UInt8.ofNat n := by
  rw [← same, UInt8.ofNat_toNat]

theorem encodeChar_of_opened {byte : UInt8} {begun : Partial} {bytes : List UInt8}
    {cs : List Char} (opens : lead byte = .opened begun)
    (read : scan (some begun) bytes = cs.map some) :
    ∃ c more rest, cs = c :: more ∧ byte :: bytes = encodeChar c ++ rest ∧
      scan none rest = more.map some := by
  obtain ⟨code, owed, low, high⟩ := begun
  -- What the first byte tells keeps the code within the range of its length, clear of surrogates.
  rcases opened_of_lead opens with ⟨rfl, first, least, most, rfl, rfl⟩ |
    ⟨rfl, first, most, least, top, overlong, surrogate⟩ |
    ⟨rfl, first, most, least, top, overlong, beyond⟩
  · obtain ⟨second, rest, more, rfl, above, below, rfl, after⟩ := scan_last read
    refine ⟨_, more, rest, rfl, ?_, after⟩
    unfold encodeChar
    rw [toNat_ofCode (by omega), if_neg (by omega), if_pos (by omega)]
    exact List.cons_eq_cons.2 ⟨eq_ofNat (by omega), List.cons_eq_cons.2 ⟨eq_ofNat (by omega), rfl⟩⟩
  · obtain ⟨second, later, rfl, above, below, read⟩ := scan_further read
    obtain ⟨third, rest, more, rfl, above, below, rfl, after⟩ := scan_last read
    refine ⟨_, more, rest, rfl, ?_, after⟩
    unfold encodeChar
    rw [toNat_ofCode (by omega), if_neg (by omega), if_neg (by omega), if_pos (by omega)]
    exact List.cons_eq_cons.2 ⟨eq_ofNat (by omega), List.cons_eq_cons.2 ⟨eq_ofNat (by omega),
      List.cons_eq_cons.2 ⟨eq_ofNat (by omega), rfl⟩⟩⟩
  · obtain ⟨second, later, rfl, above, below, read⟩ := scan_further read
    obtain ⟨third, last, rfl, above, below, read⟩ := scan_further read
    obtain ⟨fourth, rest, more, rfl, above, below, rfl, after⟩ := scan_last read
    refine ⟨_, more, rest, rfl, ?_, after⟩
    unfold encodeChar
    rw [toNat_ofCode (by omega), if_neg (by omega), if_neg (by omega), if_neg (by omega)]
    exact List.cons_eq_cons.2 ⟨eq_ofNat (by omega), List.cons_eq_cons.2 ⟨eq_ofNat (by omega),
      List.cons_eq_cons.2 ⟨eq_ofNat (by omega), List.cons_eq_cons.2 ⟨eq_ofNat (by omega), rfl⟩⟩⟩⟩

theorem encodeChar_of_whole {byte : UInt8} {c : Char} (whole : lead byte = .whole c) :
    encodeChar c = [byte] := by
  unfold lead at whole
  simp only at whole
  split at whole
  next small =>
    have same : c = Char.ofNat byte.toNat := (Lead.whole.inj whole).symm
    unfold encodeChar
    rw [same, toNat_ofCode (by omega), if_pos small, UInt8.ofNat_toNat]
  next =>
    repeat' split at whole
    all_goals simp only [reduceCtorEq] at whole

theorem encodeChars_of_scan {bytes : List UInt8} {cs : List Char}
    (read : scan none bytes = cs.map some) : bytes = encodeChars cs := by
  cases bytes with
  | nil =>
    have nothing : cs = [] := List.map_eq_nil_iff.1 read.symm
    rw [nothing]
    rfl
  | cons byte rest =>
    rw [scan.eq_def] at read
    simp only at read
    cases led : lead byte with
    | whole c =>
      rw [led] at read
      simp only at read
      cases cs with
      | nil => cases read
      | cons first more =>
        obtain ⟨same, further⟩ := List.cons.inj read
        rw [encodeChars_of_scan further, ← Option.some.inj same]
        change _ = encodeChar c ++ encodeChars more
        rw [encodeChar_of_whole led]
        rfl
    | stray =>
      rw [led] at read
      simp only at read
      cases cs <;> cases read
    | opened begun =>
      rw [led] at read
      obtain ⟨c, more, further, rfl, written, later⟩ := encodeChar_of_opened led read
      have shorter : further.length < (byte :: rest).length := by
        rw [written, List.length_append]
        have nonempty : encodeChar c ≠ [] := by
          unfold encodeChar
          simp only
          repeat' split
          all_goals exact List.cons_ne_nil _ _
        have positive := List.length_pos_iff.2 nonempty
        omega
      rw [written, encodeChars_of_scan later]
      rfl
termination_by bytes.length

theorem eq_map_some_of_mapM {found : List (Option Char)} {cs : List Char}
    (all : found.mapM id = some cs) : found = cs.map some := by
  induction found generalizing cs with
  | nil =>
    cases all
    rfl
  | cons first rest ih =>
    rw [List.mapM_cons] at all
    obtain ⟨c, here, further⟩ := Option.bind_eq_some_iff.1 all
    obtain ⟨more, later, same⟩ := Option.bind_eq_some_iff.1 further
    cases same
    rw [ih later]
    exact congrArg (· :: more.map some) here

/-- Bytes are UTF-8 for a text exactly where they are what is written for it. -/
theorem decode_eq_some_iff {bytes : List UInt8} {text : String} :
    decode bytes = some text ↔ bytes = encode text := by
  constructor
  · intro read
    unfold decode at read
    obtain ⟨cs, all, rfl⟩ := Option.map_eq_some_iff.1 read
    rw [encode, String.toList_ofList]
    exact encodeChars_of_scan (eq_map_some_of_mapM all)
  · rintro rfl
    exact decode_encode text

end SignOn.Utf8
