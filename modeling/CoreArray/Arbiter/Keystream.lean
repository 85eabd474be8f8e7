set_option autoImplicit false

/-!
# The stream of random words (SPEC §4.5)

Arbitration draws its random words from the ChaCha stream with twelve rounds.
The key is spread from a 64-bit seed by a congruential generator with a permuted
output.  The stream is a function from positions to words: a generator is a key
and the count of words drawn.
-/

namespace CoreArray

/-- Four words, a row of the state. -/
structure Row where
  a : UInt32
  b : UInt32
  c : UInt32
  d : UInt32
  deriving DecidableEq, Repr, Inhabited

namespace Row

/-- Addition word by word. -/
def add (x y : Row) : Row := ⟨x.a + y.a, x.b + y.b, x.c + y.c, x.d + y.d⟩

/-- Exclusive or word by word. -/
def xor (x y : Row) : Row := ⟨x.a ^^^ y.a, x.b ^^^ y.b, x.c ^^^ y.c, x.d ^^^ y.d⟩

/-- A word rotated to the left. -/
def rotateWord (x : UInt32) (n : UInt32) : UInt32 := (x <<< n) ||| (x >>> (32 - n))

/-- Each word rotated to the left. -/
def rotate (x : Row) (n : UInt32) : Row :=
  ⟨rotateWord x.a n, rotateWord x.b n, rotateWord x.c n, rotateWord x.d n⟩

/-- The words moved one place to the front. -/
def shift (x : Row) : Row := ⟨x.b, x.c, x.d, x.a⟩

/-- The words of a row. -/
def toList (x : Row) : List UInt32 := [x.a, x.b, x.c, x.d]

end Row

/-- The state: a square of four rows. -/
structure Square where
  r0 : Row
  r1 : Row
  r2 : Row
  r3 : Row
  deriving DecidableEq, Repr, Inhabited

namespace Square

/-- One round on the columns. -/
def mix (s : Square) : Square :=
  let r0 := s.r0.add s.r1
  let r3 := (s.r3.xor r0).rotate 16
  let r2 := s.r2.add r3
  let r1 := (s.r1.xor r2).rotate 12
  let r0 := r0.add r1
  let r3 := (r3.xor r0).rotate 8
  let r2 := r2.add r3
  let r1 := (r1.xor r2).rotate 7
  ⟨r0, r1, r2, r3⟩

/-- Turn the diagonals into columns. -/
def slant (s : Square) : Square := ⟨s.r0, s.r1.shift, s.r2.shift.shift, s.r3.shift.shift.shift⟩

/-- Turn the columns back into diagonals. -/
def unslant (s : Square) : Square :=
  ⟨s.r0, s.r1.shift.shift.shift, s.r2.shift.shift, s.r3.shift⟩

/-- Two rounds: on the columns, then on the diagonals. -/
def doubleRound (s : Square) : Square := s.mix.slant.mix.unslant

/-- Several double rounds. -/
def rounds : Nat → Square → Square
  | 0, s => s
  | n + 1, s => rounds n s.doubleRound

/-- Addition row by row. -/
def add (x y : Square) : Square :=
  ⟨x.r0.add y.r0, x.r1.add y.r1, x.r2.add y.r2, x.r3.add y.r3⟩

/-- The words of a square, row by row. -/
def toList (s : Square) : List UInt32 :=
  s.r0.toList ++ s.r1.toList ++ s.r2.toList ++ s.r3.toList

end Square

/-- A key of eight words. -/
structure Key where
  low : Row
  high : Row
  deriving DecidableEq, Repr, Inhabited

namespace Key

/-- One step of the congruential generator. -/
def spreadStep (state : UInt64) : UInt64 :=
  state * 6364136223846793005 + 11634580027462260723

/-- The output of the congruential generator: a word rotated to the right by the
top bits of the state. -/
def spreadWord (state : UInt64) : UInt32 :=
  let x := (((state >>> 18) ^^^ state) >>> 27).toUInt32
  let n := (state >>> 59).toUInt32
  (x >>> n) ||| (x <<< ((32 - n) % 32))

/-- Words spread from a state. -/
def spread : (count : Nat) → UInt64 → List UInt32
  | 0, _ => []
  | count + 1, state =>
      let next := spreadStep state
      spreadWord next :: spread count next

/-- The key of a seed. -/
def ofSeed (seed : Nat) : Key :=
  match spread 8 (UInt64.ofNat seed) with
  | [a, b, c, d, e, f, g, h] => ⟨⟨a, b, c, d⟩, ⟨e, f, g, h⟩⟩
  | _ => default

/-- The state that begins a block. -/
def start (key : Key) (block : UInt64) : Square :=
  { r0 := ⟨0x61707865, 0x3320646e, 0x79622d32, 0x6b206574⟩
    r1 := key.low
    r2 := key.high
    r3 := ⟨block.toUInt32, (block >>> 32).toUInt32, 0, 0⟩ }

/-- A block of sixteen words of the stream. -/
def block (key : Key) (number : Nat) : List UInt32 :=
  let start := key.start (UInt64.ofNat number)
  ((Square.rounds 6 start).add start).toList

/-- The word of the stream at a position. -/
def word (key : Key) (position : Nat) : Nat :=
  ((key.block (position / 16))[position % 16]?.getD 0).toNat

end Key

/-- A generator: a stream and how much of it is used. -/
structure Generator where
  key : Key
  drawn : Nat
  deriving DecidableEq, Repr, Inhabited

namespace Generator

/-- The fresh generator of a seed. -/
def ofSeed (seed : Nat) : Generator := ⟨Key.ofSeed seed, 0⟩

/-- Draw a word. -/
def next (g : Generator) : Nat × Generator := (g.key.word g.drawn, { g with drawn := g.drawn + 1 })

end Generator

end CoreArray
