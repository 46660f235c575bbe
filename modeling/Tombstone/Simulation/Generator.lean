import Tombstone.Chance
import Tombstone.EntityId

/-!
# Draws

A simulation takes its draws from a source of which it only knows that each draw lies in its range.
The source in use is a stream cipher of twelve rounds: its key is spread from a 64-bit seed, and its
blocks, counted from zero, give 32-bit words in order.
-/

namespace Tombstone

/-- A source of draws with states of type `σ`. -/
structure DrawSource (σ : Type) where
  /-- Draws a number below a bound. -/
  below : (bound : Nat) → 0 < bound → σ → Fin bound × σ
  /-- Draws an id. -/
  id : σ → EntityId × σ
  /-- Draws whether an event of a given chance happens. -/
  happens : Chance → σ → Bool × σ

/-- The cipher's key, the number of the next block, and the words left of the last one. -/
structure Generator where
  /-- The eight words of the key. -/
  key : List UInt32
  /-- The number of the next block. -/
  counter : UInt64 := 0
  /-- The words of the last block that are not used yet. -/
  pending : List UInt32 := []
  deriving DecidableEq, Repr

namespace Generator

/-! ## The key -/

/-- The bits of a word moved up, with those that leave it at the top entering at the bottom. -/
def rotateLeft (word bits : UInt32) : UInt32 := (word <<< bits) ||| (word >>> (32 - bits))

/-- The next state of the spreading of a seed. -/
def spreadStep (state : UInt64) : UInt64 := state * 6364136223846793005 + 11634580027462260723

/-- The word of a state of the spreading: bits of its upper half, rotated by its topmost five bits.
-/
def spreadWord (state : UInt64) : UInt32 :=
  let mixed := (((state >>> 18) ^^^ state) >>> 27).toUInt32
  let turn := (state >>> 59).toUInt32
  (mixed >>> turn) ||| (mixed <<< ((32 - turn) % 32))

/-- The first `count` words that a seed is spread to. -/
def spread : Nat → UInt64 → List UInt32
  | 0, _ => []
  | count + 1, state => spreadWord (spreadStep state) :: spread count (spreadStep state)

def ofSeed (seed : UInt64) : Generator := { key := spread 8 seed }

/-! ## Blocks -/

/-- The sixteen words that a block is computed from and consists of. -/
abbrev Block := Vector UInt32 16

/-- Mixes four words of a block. -/
def quarterRound (block : Block) (a b c d : Fin 16) : Block :=
  let mix (block : Block) (a b d : Fin 16) (bits : UInt32) : Block :=
    let sum := block[a] + block[b]
    (block.set a sum).set d (rotateLeft (block[d] ^^^ sum) bits)
  let block := mix block a b d 16
  let block := mix block c d b 12
  let block := mix block a b d 8
  mix block c d b 7

/-- Mixes the columns and then the diagonals of a block. -/
def doubleRound (block : Block) : Block :=
  let block := quarterRound block 0 4 8 12
  let block := quarterRound block 1 5 9 13
  let block := quarterRound block 2 6 10 14
  let block := quarterRound block 3 7 11 15
  let block := quarterRound block 0 5 10 15
  let block := quarterRound block 1 6 11 12
  let block := quarterRound block 2 7 8 13
  quarterRound block 3 4 9 14

/-- The words that a block is computed from: four constants, the key, the number of the block, and
two zeros. -/
def blockInput (key : List UInt32) (counter : UInt64) : Block :=
  let constants : List UInt32 := [0x61707865, 0x3320646e, 0x79622d32, 0x6b206574]
  let words := constants ++ key ++ [counter.toUInt32, (counter >>> 32).toUInt32, 0, 0]
  Vector.ofFn fun place => words.getD place 0

/-- A block: six double rounds over the input, and the input added to the outcome. -/
def block (key : List UInt32) (counter : UInt64) : Block :=
  let input := blockInput key counter
  let mixed := (List.range 6).foldl (fun block _ => doubleRound block) input
  Vector.ofFn fun place => mixed[place] + input[place]

/-! ## Words -/

def word32 (generator : Generator) : UInt32 × Generator :=
  match generator.pending with
  | word :: pending => (word, { generator with pending })
  | [] =>
      let words := (block generator.key generator.counter).toList
      (words.headD 0,
        { generator with counter := generator.counter + 1, pending := words.tail })

/-- The next 64-bit word: two words, the lower half first. -/
def word64 (generator : Generator) : UInt64 × Generator :=
  let (low, generator) := generator.word32
  let (high, generator) := generator.word32
  ((high.toUInt64 <<< 32) ||| low.toUInt64, generator)

/-! ## Draws -/

/-- The largest low half that a product with a range's size may have: that of the largest multiple
of the size by a power of two that fits 64 bits. -/
def zone (bound : Nat) : Nat := (bound <<< (63 - Nat.log2 bound)) - 1

/-- The number that a word is scaled to in a range. -/
def scale (bound : Nat) (positive : 0 < bound) (word : UInt64) : Fin bound :=
  ⟨word.toNat * bound / UInt64.size, by
    apply Nat.div_lt_of_lt_mul
    exact Nat.mul_lt_mul_of_pos_right word.toNat_lt positive⟩

/-- Draws a number below a bound. Words whose product with the bound has a low half beyond the zone
are drawn again, at most `attempts` times. -/
def below (attempts : Nat) (bound : Nat) (positive : 0 < bound) (generator : Generator) :
    Fin bound × Generator :=
  let (word, generator) := generator.word64
  match attempts with
  | 0 => (scale bound positive word, generator)
  | attempts + 1 =>
      if word.toNat * bound % UInt64.size ≤ zone bound then (scale bound positive word, generator)
      else below attempts bound positive generator

/-- Draws an id: two 64-bit words, the lower half first. -/
def drawId (generator : Generator) : EntityId × Generator :=
  let (low, generator) := generator.word64
  let (high, generator) := generator.word64
  (EntityId.ofNat (high.toNat * UInt64.size + low.toNat), generator)

/-- Draws whether an event happens; nothing is drawn for one that always does. -/
def drawChance (chance : Chance) (generator : Generator) : Bool × Generator :=
  if chance.isCertain then (true, generator)
  else
    let (word, generator) := generator.word64
    (word.toNat < chance.words, generator)

/-- The generator as a source. More than half of all words are in the zone, so the bound on the
attempts is not met. -/
def source : DrawSource Generator :=
  { below := below 4096, id := drawId, happens := drawChance }

end Generator

end Tombstone
