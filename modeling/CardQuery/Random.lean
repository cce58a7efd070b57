import CardQuery.Fault
import CardQuery.Random.Keystream

namespace CardQuery

structure Random where
  key : Keystream.Key
  position : Nat := 0

namespace Random

def ofSeed (seed : UInt64) : Random := { key := Keystream.keyOfSeed seed }

def next (r : Random) : UInt64 × Random := (Keystream.word64 r.key r.position, { r with position := r.position + 2 })

def leadingZeros (n : Nat) : Nat := 63 - n.log2

-- A draw is turned down with a chance below one half, so the fuel does not run out in practice.
def sample (size zone : Nat) : Nat → Random → Nat × Random
  | 0, r => (0, r)
  | fuel + 1, r =>
    let (drawn, r) := r.next
    let product := drawn.toNat * size
    if product % 0x10000000000000000 ≤ zone then (product / 0x10000000000000000, r) else sample size zone fuel r

def draw (r : Random) (low high : Nat) : Except Fault Nat × Random :=
  if low < high then
    let size := high - low
    let zone := (size <<< leadingZeros size) - 1
    let (offset, r) := sample size zone 4096 r
    (.ok (low + offset), r)
  else (.error .emptyRange, r)

end Random
end CardQuery
