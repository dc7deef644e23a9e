import SignOn.Bytes.Base64

/-!
Random bytes. A source is an endless sequence of bytes and a place in it; every draw takes the next
bytes and moves the place. Nothing in the library depends on how a source was made.
-/

namespace SignOn

structure Entropy where
  byte : Nat → UInt8
  position : Nat

namespace Entropy

def draw (count : Nat) (source : Entropy) : List UInt8 × Entropy :=
  ((List.range count).map fun i => source.byte (source.position + i),
    { source with position := source.position + count })

def drawToken (count : Nat) (source : Entropy) : String × Entropy :=
  let (bytes, rest) := source.draw count
  (Base64.encodeUrl bytes, rest)

def congruentialStep (state : Nat) : Nat := (state * 1103515245 + 12345) % Nat.pow 2 31

def congruentialByte (state : Nat) : Nat → UInt8
  | 0 => UInt8.ofNat (congruentialStep state / 65536)
  | n + 1 => congruentialByte (congruentialStep state) n

def ofSeed (seed : Int) : Entropy := ⟨congruentialByte (seed % (Nat.pow 2 31 : Nat)).toNat, 0⟩

theorem draw_length (count : Nat) (source : Entropy) : (source.draw count).1.length = count := by
  simp [draw]

end Entropy

end SignOn
