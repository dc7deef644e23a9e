/-!
Checksums of byte sequences: the cyclic one of thirty-two bits, and the pair of sums modulo a prime.
-/

namespace SignOn.Checksum

def cyclicStep (remainder : UInt32) (byte : UInt8) : UInt32 :=
  (List.range 8).foldl
    (fun remainder _ =>
      if remainder &&& 1 = 1 then (remainder >>> 1) ^^^ 0xEDB88320 else remainder >>> 1)
    (remainder ^^^ byte.toUInt32)

def cyclic (bytes : List UInt8) : Nat :=
  (bytes.foldl cyclicStep 0xFFFFFFFF ^^^ 0xFFFFFFFF).toNat

def prime : Nat := 65521

def paired (bytes : List UInt8) : Nat :=
  let (low, high) := bytes.foldl
    (fun ((low, high) : Nat × Nat) byte =>
      let low := (low + byte.toNat) % prime
      (low, (high + low) % prime))
    (1, 0)
  65536 * high + low

end SignOn.Checksum
