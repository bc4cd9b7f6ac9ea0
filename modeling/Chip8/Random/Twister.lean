/-
# The Mersenne twister

A generator of 32-bit words with a state of 624 words. Its state is filled from the 32-bit digits
of a seed; the sign of the seed does not count. A random byte is drawn by taking the nine highest
bits of a word until they make a number below 256.
-/

import Chip8.Random.Source

namespace Chip8

/-- The state of the generator: its words, and how many of them have been given out. -/
structure Twister where
  words : Array UInt32
  used : Nat
  deriving DecidableEq, Repr

namespace Twister

/-- The number of words of the state. -/
def size : Nat := 624

/-- The distance of the two words that are mixed. -/
def reach : Nat := 397

/-- A word of the state. -/
def word (words : Array UInt32) (i : Nat) : UInt32 := words.getD i 0

/-- A word folded onto its two highest bits. -/
def foldHigh (w : UInt32) : UInt32 := w ^^^ (w >>> 30)

/-- The state that one number determines. -/
def fill (start : UInt32) : Array UInt32 :=
  (List.range (size - 1)).foldl
    (fun words k => words.push (1812433253 * foldHigh (word words k) + UInt32.ofNat (k + 1)))
    #[start]

/-- The place after `i`; place zero is passed over, and takes over the last word on the way. -/
def advance (words : Array UInt32) (i : Nat) : Array UInt32 × Nat :=
  if i + 1 < size then (words, i + 1) else (words.setIfInBounds 0 (word words (size - 1)), 1)

/-- Mixes the digits of a key into the state, `count` times in a row. -/
def mixKey (key : Array UInt32) : Nat → Array UInt32 → Nat → Nat → Array UInt32 × Nat
  | 0, words, i, _ => (words, i)
  | count + 1, words, i, j =>
    let mixed := (word words i ^^^ (foldHigh (word words (i - 1)) * 1664525)) + word key j +
      UInt32.ofNat j
    let (words, i) := advance (words.setIfInBounds i mixed) i
    mixKey key count words i (if j + 1 < key.size then j + 1 else 0)

/-- Mixes the places into the state, `count` times in a row. -/
def mixPlaces : Nat → Array UInt32 → Nat → Array UInt32
  | 0, words, _ => words
  | count + 1, words, i =>
    let mixed := (word words i ^^^ (foldHigh (word words (i - 1)) * 1566083941)) - UInt32.ofNat i
    let (words, i) := advance (words.setIfInBounds i mixed) i
    mixPlaces count words i

/-- The 32-bit digits of a number, the lowest first; zero has one digit. -/
def keyDigits (n : Nat) : List UInt32 :=
  if h : n < 0x100000000 then [UInt32.ofNat n]
  else UInt32.ofNat n :: keyDigits (n / 0x100000000)
termination_by n
decreasing_by omega

/-- The generator that a seed determines. -/
def ofSeed (seed : Int) : Twister :=
  let key := (keyDigits seed.natAbs).toArray
  let (words, i) := mixKey key (max size key.size) (fill 19650218) 1 0
  let words := mixPlaces (size - 1) words i
  { words := words.setIfInBounds 0 0x80000000, used := size }

/-- The mix of the highest bit of one word with the other bits of the next. -/
def twist (high low : UInt32) : UInt32 :=
  let y := (high &&& 0x80000000) ||| (low &&& 0x7FFFFFFF)
  (y >>> 1) ^^^ (if y &&& 1 == 0 then 0 else 0x9908B0DF)

/-- All words of the state are replaced, from first to last. -/
def regenerate (words : Array UInt32) : Array UInt32 :=
  (List.range size).foldl
    (fun words k =>
      words.setIfInBounds k
        (word words ((k + reach) % size) ^^^ twist (word words k) (word words ((k + 1) % size))))
    words

/-- The bits of a word are spread before it is given out. -/
def temper (w : UInt32) : UInt32 :=
  let w := w ^^^ (w >>> 11)
  let w := w ^^^ ((w <<< 7) &&& 0x9D2C5680)
  let w := w ^^^ ((w <<< 15) &&& 0xEFC60000)
  w ^^^ (w >>> 18)

/-- The next word. -/
def nextWord (t : Twister) : UInt32 × Twister :=
  let t := if t.used < size then t else { words := regenerate t.words, used := 0 }
  (temper (word t.words t.used), { t with used := t.used + 1 })

/-- More words in a row cannot all have their highest bit set: that bit obeys a linear recurrence
of degree 19937 with an even number of terms. -/
def longestRejection : Nat := 19938

/-- The next byte, drawn with at most `tries` words. -/
def drawByte : Nat → Twister → UInt8 × Twister
  | 0, t => (0, t)
  | tries + 1, t =>
    let (w, t) := t.nextWord
    let candidate := (w >>> 23).toNat
    if candidate < 256 then (UInt8.ofNat candidate, t) else drawByte tries t

/-- The next byte. -/
def nextByte (t : Twister) : UInt8 × Twister := drawByte longestRejection t

instance : RandomSource Twister where
  next := nextByte
  reseed seed _ := ofSeed seed

end Twister

end Chip8
