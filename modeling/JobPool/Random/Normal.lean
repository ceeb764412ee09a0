/-
**Standard normal variates by the layered rejection method.**

A word pair chooses one of 256 layers of equal area and a point across it. A point inside the next
edge is accepted at once; in the base layer the remaining mass is the tail beyond `tailStart`, drawn
by two exponential variates; elsewhere a second word decides against the density. A rejected point
starts again. Both loops end with probability one, and each is cut off after `patience` rejections,
which no stream is known to reach.
-/

import JobPool.Random.Layers
import JobPool.Random.Stream

namespace JobPool.Random

namespace Stream

/-- A number in `[-1, 1)` from the upper bits of a word pair. -/
def signedUnit (bits : UInt64) : Float :=
  Float.ofBits (bits >>> 12 ||| 0x4000000000000000) - 3

/-- The next number strictly between zero and one. -/
def nextOpenUnit (stream : Stream) : Float × Stream :=
  let (bits, stream) := stream.nextPair
  (Float.ofBits (bits >>> 12 ||| 0x3ff0000000000000) - Float.ofBits 0x3fefffffffffffff, stream)

/-- The next number in `[0, 1)`, a multiple of `2 ^ -53`. -/
def nextUnit (stream : Stream) : Float × Stream :=
  let (bits, stream) := stream.nextPair
  ((bits >>> 11).toFloat * Float.ofBits 0x3ca0000000000000, stream)

end Stream

/-- Where the tail of the base layer starts. -/
def tailStart : Float := 3.654152885361008796

/-- The rejections after which a loop is cut off. -/
def patience : Nat := 100000

/-- The distance of a point of the tail from its start, by two exponential variates. -/
def tailDistance : Nat → Stream → Float × Stream
  | 0, stream => (0, stream)
  | rejections + 1, stream =>
    let (first, stream) := stream.nextOpenUnit
    let (second, stream) := stream.nextOpenUnit
    let distance := first.log / tailStart
    if -2 * second.log < distance * distance then tailDistance rejections stream
    else (distance, stream)

/-- The next standard normal variate, zero if every attempt is rejected. -/
def normalWithin : Nat → Stream → Float × Stream
  | 0, stream => (0, stream)
  | rejections + 1, stream =>
    let (bits, stream) := stream.nextPair
    let layer := (bits &&& 0xff).toNat
    let across := Stream.signedUnit bits
    let point := across * Layers.edge layer
    if point.abs < Layers.edge (layer + 1) then (point, stream)
    else if layer = 0 then
      let (distance, stream) := tailDistance patience stream
      (if across < 0 then distance - tailStart else tailStart - distance, stream)
    else
      let (share, stream) := stream.nextUnit
      let low := Layers.height (layer + 1)
      if low + (Layers.height layer - low) * share < (-point * point / 2).exp then (point, stream)
      else normalWithin rejections stream

/-- The next standard normal variate of a stream. -/
def normal (stream : Stream) : Float × Stream := normalWithin patience stream

end JobPool.Random
