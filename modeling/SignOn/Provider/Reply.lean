import SignOn.Bytes.Inflate
import SignOn.Provider.Address

/-!
The envelope of a response: its header fields, how its body is packed, and where it redirects to.
-/

namespace SignOn.Reply

abbrev Headers := List (String × String)

/-- The value of a header field; several fields of one name are one list. -/
def header? (headers : Headers) (name : String) : Option String :=
  match headers.filter fun header => Text.lower header.1 == name with
  | [] => none
  | found => some (", ".intercalate (found.map (·.2)))

def isReadable (headers : Headers) : Bool :=
  headers.all fun (name, value) => (name ++ value).toList.all (·.toNat < 0x80)

inductive Packing where
  | gzip
  | deflate

def Packing.unpack : Packing → List UInt8 → Except Inflate.Fault (List UInt8)
  | .gzip, bytes => Inflate.gunzip bytes
  | .deflate, bytes => Inflate.inflate bytes

def packings : List (String × Packing) := [("gzip", .gzip), ("deflate", .deflate)]

/-- How the body was packed, in that order; what is not known was not done. -/
def packingsOf (headers : Headers) : List Packing :=
  (Text.splitBy "," ((header? headers "content-encoding").getD "")).filterMap fun word =>
    packings.lookup (Text.lower (Text.strip word))

def unpack (headers : Headers) (body : List UInt8) : Except Inflate.Fault (List UInt8) :=
  (packingsOf headers).reverse.foldlM (fun bytes packing => packing.unpack bytes) body

def redirectStatuses : List Int := [301, 302, 303, 307, 308]

inductive Misdirection where
  | unreadable (fault : Address.Fault)
  | homeless

def misdirection? (status : Int) (headers : Headers) : Option Misdirection :=
  match header? headers "location" with
  | none => none
  | some location =>
    if status ∉ redirectStatuses then none
    else
      match Address.parse location with
      | .error fault => some (.unreadable fault)
      | .ok place =>
        let pathless := place.path.isEmpty || place.path.head? == some '/'
        if ! place.scheme.isEmpty && place.host.isEmpty && ! pathless then some .homeless
        else none

end SignOn.Reply
