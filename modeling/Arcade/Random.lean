import Arcade.Crash
import Arcade.Number.Scalar

/-! Random numbers of a scene. The state is four 64-bit words that are mixed by adding, shifting and
rotating; a 32-bit word is the upper half of the next output. The state is filled from a seed by
a linear congruence whose outputs are shifted and rotated. -/

namespace Arcade

structure Random where
  a : UInt64
  b : UInt64
  c : UInt64
  d : UInt64
  deriving DecidableEq

namespace Random

def rotateLeft (x : UInt64) (amount : UInt64) : UInt64 :=
  (x <<< amount) ||| (x >>> (64 - amount))

def rotateRight (x : UInt32) (amount : UInt32) : UInt32 :=
  (x >>> amount) ||| (x <<< ((32 - amount) % 32))

/-- The next word of the state's output, and the state after it. -/
def next (random : Random) : UInt64 × Random :=
  let output := rotateLeft (random.a + random.d) 23 + random.a
  let shifted := random.b <<< 17
  let c := random.c ^^^ random.a
  let d := random.d ^^^ random.b
  (output, ⟨random.a ^^^ d, random.b ^^^ c, c ^^^ shifted, rotateLeft d 45⟩)

/-- The upper half of the next word. -/
def word (random : Random) : UInt32 × Random :=
  let (output, later) := random.next
  ((output >>> 32).toUInt32, later)

/-- One step of the seed: a word of 32 bits, and the seed after it. -/
def seedWord (seed : UInt64) : UInt32 × UInt64 :=
  let seed := seed * 6364136223846793005 + 11634580027462260723
  let mixed := (((seed >>> 18) ^^^ seed) >>> 27).toUInt32
  (rotateRight mixed (seed >>> 59).toUInt32, seed)

/-- Two words of a seed, the first one lowest. -/
def seedPair (seed : UInt64) : UInt64 × UInt64 :=
  let (low, seed) := seedWord seed
  let (high, seed) := seedWord seed
  (low.toUInt64 ||| (high.toUInt64 <<< 32), seed)

def ofSeed (seed : UInt64) : Random :=
  let (a, seed) := seedPair seed
  let (b, seed) := seedPair seed
  let (c, seed) := seedPair seed
  let (d, _) := seedPair seed
  ⟨a, b, c, d⟩

/-- The state that a scene starts from: that of its seed, or the one that is given to it if it has none. -/
def ofOption (given : Random) (seed : Option Nat) : Random :=
  match seed with
  | some seed => ofSeed (UInt64.ofNat seed)
  | none => given

/-- A number from zero up to one. -/
def unit [Sampling S] (random : Random) : S × Random :=
  let (word, later) := random.word
  (Sampling.unit word, later)

/-- An angle from zero up to a full turn. -/
def angle [Scalar S] [Circular S] [Sampling S] (random : Random) : S × Random :=
  let (unit, later) : S × Random := random.unit
  (unit * Circular.turn, later)

end Random

/-- What the system gives to games that start without a seed, to each by its number. Nothing else is known
of it. -/
abbrev Entropy := Nat → Random

/-- Where numbers between two bounds come from. -/
class Generator (R S : Type) where
  /-- A number between two bounds in order, both of which it can be, and the generator after it. -/
  within : R → S → S → Except Crash (S × R)

/-- The next unit of a scene, stretched onto a range. -/
def Random.within [Scalar S] [Sampling S] (random : Random) (low high : S) :
    Except Crash (S × Random) :=
  match Sampling.stretch? low high with
  | none => .error .rangeTooWide
  | some factor =>
    let (unit, later) : S × Random := random.unit
    .ok (unit * factor + low, later)

instance {S : Type} [Scalar S] [Sampling S] : Generator Random S := ⟨Random.within⟩

/-- A number between two bounds in either order. Bounds that are the same or not finite are not
drawn from: the lower one stands. -/
def Generator.between {R S : Type} [Scalar S] [Generator R S] (random : R) (a b : S) :
    Except Crash (S × R) :=
  let (low, high) := if a ≤ b then (a, b) else (b, a)
  if !(Scalar.isFinite low && Scalar.isFinite high) || low == high then .ok (low, random)
  else Generator.within random low high

end Arcade
