/-!
Why a text cannot be read in the character set that is named for it.
-/

namespace SignOn.Charset

inductive Fault where
  | unmarked
  | unfinished
  | packing
  | cipher
  | unforgiving
  | brokenName
  | unordered

def Fault.name : Fault → String
  | .unmarked => "UnicodeError"
  | .unfinished => "UnicodeError"
  | .packing => "AssertionError"
  | .cipher => "TypeError"
  | .unforgiving => "UnicodeError"
  | .brokenName => "ValueError"
  | .unordered => "TypeError"

end SignOn.Charset
