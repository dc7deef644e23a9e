import SignOn.Charset.Chinese
import SignOn.Charset.Escaped
import SignOn.Charset.Fault
import SignOn.Charset.Japanese
import SignOn.Charset.Korean
import SignOn.Charset.Names
import SignOn.Charset.Shifting
import SignOn.Charset.Unicode
import SignOn.Charset.Utf7
import SignOn.Text.LetterCase

/-!
Character sets by name, and the text that bytes stand for in one of them. Bytes that stand for
nothing are replaced.
-/

namespace SignOn

inductive Charset where
  | plain (read : List UInt8 → Charset.Reading)
  | markedUtf16
  | markedUtf32
  | escaping (escapes : Charset.Escapes)
  | unreadable (fault : Charset.Fault)

namespace Charset

def ofNumbers (read : List Nat → Reading) : Charset :=
  .plain fun bytes => read (bytes.map UInt8.toNat)

def ofPairs (find : Nat → Nat → Option Char) : Charset := ofNumbers (readPlain (pairStep find))

def asciiChar? (byte : Nat) : Option Char := if byte < 0x80 then some (Char.ofNat byte) else none

def sets : List (String × Charset) :=
  [("ascii", ofNumbers (·.map asciiChar?)), ("latin_1", ofNumbers (·.map (some ∘ Char.ofNat))),
    ("utf_8", .plain (Utf8.scan none)), ("utf_8_sig", .plain readMarkedUtf8),
    ("utf_7", ofNumbers Utf7.read), ("utf_16", .markedUtf16), ("utf_32", .markedUtf32),
    ("utf_16_be", .plain (readUtf16 .big)), ("utf_16_le", .plain (readUtf16 .little)),
    ("utf_32_be", .plain (readUtf32 .big)), ("utf_32_le", .plain (readUtf32 .little)),
    ("shift_jis", ofNumbers (readPlain shiftJisStep)),
    ("cp932", ofNumbers (readPlain windowsShiftJisStep)),
    ("euc_jp", ofNumbers (readPlain eucJpStep)), ("gb2312", ofPairs findSimplified),
    ("gbk", ofPairs findExtended), ("gb18030", ofNumbers (readPlain gb18030Step)),
    ("big5", ofPairs findTraditional), ("cp950", ofPairs findWindowsTraditional),
    ("euc_kr", ofNumbers (readPlain eucKrStep)), ("cp949", ofPairs findWindowsKorean),
    ("johab", ofPairs findJohab), ("hz", ofNumbers (readSteps hzStep false 0)),
    ("iso2022_jp", .escaping iso2022Jp), ("iso2022_jp_1", .escaping iso2022Jp1),
    ("iso2022_jp_2", .escaping iso2022Jp2), ("iso2022_jp_ext", .escaping iso2022JpExt),
    ("iso2022_kr", .escaping iso2022Kr),
    ("unicode_escape", ofNumbers (readPlain Escaped.step)),
    ("raw_unicode_escape", ofNumbers (readPlain Escaped.rawStep)),
    ("base64_codec", .unreadable .packing),
    ("bz2_codec", .unreadable .packing), ("hex_codec", .unreadable .packing),
    ("quopri_codec", .unreadable .packing), ("uu_codec", .unreadable .packing),
    ("zlib_codec", .unreadable .packing), ("rot_13", .unreadable .cipher),
    ("undefined", .unreadable .unforgiving)]

def ofSet? (set : String) : Option Charset :=
  match sets.lookup set with
  | some charset => some charset
  | none => (singleByteSet? set).map fun chars => .plain (readSingleBytes chars)

def normalName (name : String) : String :=
  let isPart (c : Char) : Bool := c.isAlphanum || c = '.'
  let spaced := (Text.lower name).toList.map fun c => if isPart c then c else ' '
  "_".intercalate (Text.words (String.ofList spaced))

def setNamed? (name : String) : Option String :=
  (Text.splitBy "\n" setNames).findSome? fun line =>
    let (set, names) := Text.cut ':' line.toList
    if name.toList ∈ Text.wordLists (names.getD []) then some (String.ofList set) else none

def find? (name : String) : Option Charset :=
  let name := normalName name
  let respelled := String.ofList (name.toList.map fun c => if c = '.' then '_' else c)
  match setNamed? name with
  | some set => ofSet? set
  | none =>
    match setNamed? respelled with
    | some set => if set = respelled then none else ofSet? set
    | none => none

def longestWait : Nat := 8

/-- What bytes say. Where a mark has to tell the byte order, a few bytes may go without one, but
they stand for nothing. -/
def read : Charset → List UInt8 → Except Fault Reading
  | .plain read, bytes => .ok (read bytes)
  | .markedUtf16, bytes =>
    match utf16Mark? bytes with
    | some (order, rest) => .ok (readUtf16 order rest)
    | none => if bytes.length < 2 then .ok (bytes.take 1 |>.map fun _ => none) else .error .unmarked
  | .markedUtf32, bytes =>
    match utf32Mark? bytes with
    | some (order, rest) => .ok (readUtf32 order rest)
    | none => if bytes.length < 4 then .ok (bytes.take 1 |>.map fun _ => none) else .error .unmarked
  | .escaping escapes, bytes =>
    let numbers := bytes.map UInt8.toNat
    if longestWait < escapes.unfinished numbers then .error .unfinished
    else .ok (escapes.read numbers)
  | .unreadable fault, _ => .error fault

/-- The text that bytes stand for, as long as they all stand for something. Here no mark means
that the smaller byte comes first. -/
def readStrictly? (charset : Charset) (bytes : List UInt8) : Option (List Char) :=
  match charset with
  | .plain read => (read bytes).mapM id
  | .markedUtf16 =>
    let (order, rest) := (utf16Mark? bytes).getD (.little, bytes)
    (readUtf16 order rest).mapM id
  | .markedUtf32 =>
    let (order, rest) := (utf32Mark? bytes).getD (.little, bytes)
    (readUtf32 order rest).mapM id
  | .escaping escapes => (escapes.read (bytes.map UInt8.toNat)).mapM id
  | .unreadable _ => none

def decode (charset : Charset) (bytes : List UInt8) : Except Fault String := do
  pure (String.ofList ((← charset.read bytes).map (·.getD replacement)))

end Charset

end SignOn
