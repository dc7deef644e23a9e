/-!
Addresses of hosts in numbers. Of those with colons one run of zeros may be left out, and the last
two numbers may be written in the form with dots.
-/

namespace SignOn.IpAddress

def digitsValue (cs : List Char) : Nat := cs.foldl (fun n c => 10 * n + (c.toNat - 0x30)) 0

def isOctet (cs : List Char) : Bool :=
  ! cs.isEmpty && cs.length ≤ 3 && cs.all Char.isDigit && (cs == ['0'] || cs.head? != some '0') &&
    digitsValue cs ≤ 255

def isV4 (cs : List Char) : Bool :=
  let octets := cs.splitOn '.'
  octets.length == 4 && octets.all isOctet

def isHexDigit (c : Char) : Bool :=
  c.isDigit || ('a' ≤ c && c ≤ 'f') || ('A' ≤ c && c ≤ 'F')

def isGroup (cs : List Char) : Bool :=
  ! cs.isEmpty && cs.length ≤ 4 && cs.all isHexDigit

/-- The numbers of an address with colons, in which one place may be empty for the run of zeros
that is left out; at either end a second one then belongs to it. -/
def areGroups (groups : List (List Char)) : Bool :=
  let inner := (groups.drop 1).dropLast
  match inner.count [] with
  | 0 => groups.length == 8 && groups.all isGroup
  | 1 =>
    let before := groups.takeWhile (! ·.isEmpty)
    let front := if groups.head? == some [] then [] else before
    let behind :=
      (groups.drop (if groups.head? == some [] then 2 else before.length + 1))
    let back := if behind == [[]] then [] else behind
    let starts := groups.head? != some [] || (groups[1]?) == some []
    starts && front.all isGroup && back.all isGroup && front.length + back.length < 8
  | _ => false

/-- The address without what follows a percent sign; two percent signs are too many. -/
def withoutZone? (cs : List Char) : Option (List Char) :=
  match cs.splitOn '%' with
  | [address] => some address
  | [_, []] => none
  | [address, _] => some address
  | _ => none

def isV6 (cs : List Char) : Bool :=
  match withoutZone? cs with
  | none => false
  | some address =>
    let groups := address.splitOn ':'
    let last := groups.getLastD []
    if '/' ∈ cs ∨ groups.length < 3 then false
    else if '.' ∈ last then
      isV4 last && groups.length < 9 && areGroups (groups.dropLast ++ [['0'], ['0']])
    else groups.length < 10 && areGroups groups

end SignOn.IpAddress
