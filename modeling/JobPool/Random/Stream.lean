/-
**The keystream of a worker.**

Random words come from the ChaCha permutation with eight rounds. A stream is a key and a position:
word `n` of a key is word `n mod 16` of block `n / 16`, and a block is the permuted initial state
added to the initial state. Nothing else is kept, so two streams with the same key and position
yield the same words whatever else happens in the pool.

* `Stream.ofSeed` spreads a 64-bit seed over the key with a linear congruential generator.
* `Stream.ofBytes` takes the key as it is.
* `Stream.child` takes the key of a new stream from the next eight words of its parent.
-/

namespace JobPool.Random

/-- The sixteen words on which the permutation acts. -/
abbrev Block := Vector UInt32 16

/-- The eight words that select a stream. -/
abbrev Key := Vector UInt32 8

def rotateLeft (word : UInt32) (count : UInt32) : UInt32 :=
  word <<< count ||| word >>> (32 - count)

namespace Block

/-- Mixes four words of a block. -/
def quarterRound (block : Block) (a b c d : Fin 16) : Block :=
  let block := block.set a (block[a] + block[b])
  let block := block.set d (rotateLeft (block[d] ^^^ block[a]) 16)
  let block := block.set c (block[c] + block[d])
  let block := block.set b (rotateLeft (block[b] ^^^ block[c]) 12)
  let block := block.set a (block[a] + block[b])
  let block := block.set d (rotateLeft (block[d] ^^^ block[a]) 8)
  let block := block.set c (block[c] + block[d])
  block.set b (rotateLeft (block[b] ^^^ block[c]) 7)

/-- One round over the columns and one over the diagonals. -/
def doubleRound (block : Block) : Block :=
  let columns := (((block.quarterRound 0 4 8 12).quarterRound 1 5 9 13).quarterRound 2 6 10 14
    ).quarterRound 3 7 11 15
  (((columns.quarterRound 0 5 10 15).quarterRound 1 6 11 12).quarterRound 2 7 8 13
    ).quarterRound 3 4 9 14

/-- Four constants, the key, the block number in two words and two zeros. -/
def initial (key : Key) (number : Nat) : Block :=
  #v[0x61707865, 0x3320646e, 0x79622d32, 0x6b206574,
    key[0], key[1], key[2], key[3], key[4], key[5], key[6], key[7],
    UInt32.ofNat number, UInt32.ofNat (number / UInt32.size), 0, 0]

/-- The output block of a number: eight rounds, then the initial words are added. -/
def output (key : Key) (number : Nat) : Block :=
  let start := initial key number
  start.doubleRound.doubleRound.doubleRound.doubleRound.zipWith (· + ·) start

end Block

/-- A key and the position of the next word. -/
structure Stream where
  key : Key
  position : Nat := 0
  deriving DecidableEq, Repr

namespace Stream

/-- The word at a position of a key's stream. -/
def wordAt (key : Key) (position : Nat) : UInt32 :=
  (Block.output key (position / 16)).get ⟨position % 16, Nat.mod_lt _ (by decide)⟩

/-- The next word and the stream behind it. -/
def nextWord (stream : Stream) : UInt32 × Stream :=
  (wordAt stream.key stream.position, { stream with position := stream.position + 1 })

/-- The next two words as one, the low word first. -/
def nextPair (stream : Stream) : UInt64 × Stream :=
  let (low, stream) := stream.nextWord
  let (high, stream) := stream.nextWord
  (high.toUInt64 <<< 32 ||| low.toUInt64, stream)

/-- One step of the generator that spreads a seed. -/
def spreadStep (state : UInt64) : UInt64 :=
  state * 6364136223846793005 + 11634580027462260723

/-- The key word of a spreading state. -/
def spreadWord (state : UInt64) : UInt32 :=
  let mixed : UInt32 := ((state >>> 18 ^^^ state) >>> 27).toUInt32
  let turn : UInt32 := (state >>> 59).toUInt32
  rotateLeft mixed (32 - turn)

/-- The state after a number of spreading steps. -/
def spreadState (seed : UInt64) (steps : Nat) : UInt64 :=
  (List.range steps).foldl (fun state _ => spreadStep state) seed

/-- The stream of a seed. -/
def ofSeed (seed : Nat) : Stream :=
  { key := Vector.ofFn fun index => spreadWord (spreadState (UInt64.ofNat seed) (index + 1)) }

/-- The stream of a key in bytes, the least significant byte of each word first. -/
def ofBytes (bytes : List UInt8) : Stream :=
  { key := Vector.ofFn fun index =>
      ((bytes.drop (4 * index)).take 4).foldr (fun byte word => byte.toUInt32 ||| word <<< 8) 0 }

/-- The stream whose key is the next eight words, and the parent behind them. -/
def child (parent : Stream) : Stream × Stream :=
  ({ key := Vector.ofFn fun index => wordAt parent.key (parent.position + index) },
    { parent with position := parent.position + 8 })

end Stream

end JobPool.Random
