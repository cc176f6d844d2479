import Lexicon.Random.Source

namespace Lexicon.Random

/-- Sixteen words: constants, key, counter and nonce, or a block of the stream. -/
abbrev Block := Vector UInt32 16

def rotateLeft (x n : UInt32) : UInt32 := (x <<< n) ||| (x >>> (32 - n))

namespace Block

/-- Adds `b` to `a` and mixes the sum into `d`, turned by `n`. -/
def mix (v : Block) (a b d : Fin 16) (n : UInt32) : Block :=
  let v := v.set a (v[a] + v[b])
  v.set d (rotateLeft (v[d] ^^^ v[a]) n)

def quarter (v : Block) (a b c d : Fin 16) : Block :=
  (((v.mix a b d 16).mix c d b 12).mix a b d 8).mix c d b 7

def doubleRound (v : Block) : Block :=
  let v := (((v.quarter 0 4 8 12).quarter 1 5 9 13).quarter 2 6 10 14).quarter 3 7 11 15
  (((v.quarter 0 5 10 15).quarter 1 6 11 12).quarter 2 7 8 13).quarter 3 4 9 14

end Block

abbrev Key := Vector UInt32 8

namespace Key

def spread (s : UInt64) : UInt32 × UInt64 :=
  let s := s * 6364136223846793005 + 11634580027462260723
  let x := (((s >>> 18) ^^^ s) >>> 27).toUInt32
  let n := (s >>> 59).toUInt32
  (rotateLeft x ((32 - n) % 32), s)

def words : (n : Nat) → UInt64 → List UInt32
  | 0, _ => []
  | n + 1, s =>
    let (w, s) := spread s
    w :: words n s

def ofSeed (seed : UInt64) : Key := Vector.ofFn fun i => (words 8 seed).getD i 0

def initial (key : Key) (counter : UInt64) : Block :=
  #v[0x61707865, 0x3320646E, 0x79622D32, 0x6B206574,
    key[0], key[1], key[2], key[3], key[4], key[5], key[6], key[7],
    counter.toUInt32, (counter >>> 32).toUInt32, 0, 0]

def block (key : Key) (counter : UInt64) : Block :=
  let start := key.initial counter
  let mixed := Nat.repeat Block.doubleRound 6 start
  Vector.zipWith (· + ·) mixed start

end Key

/-- A place in the stream of a key: the number of the next block, and what is left of the one before. -/
structure KeyStream where
  key : Key
  counter : UInt64
  left : List UInt32

namespace KeyStream

def ofSeed (seed : UInt64) : KeyStream := ⟨Key.ofSeed seed, 0, []⟩

def next32 (s : KeyStream) : UInt32 × KeyStream :=
  match s.left with
  | w :: rest => (w, { s with left := rest })
  | [] =>
    let block := s.key.block s.counter
    (block[0], ⟨s.key, s.counter + 1, block.toList.tail⟩)

def next64 (s : KeyStream) : UInt64 × KeyStream :=
  let (low, s) := s.next32
  let (high, s) := s.next32
  (high.toUInt64 <<< 32 ||| low.toUInt64, s)

def words : WordStream KeyStream := ⟨next32, next64⟩

end KeyStream

structure Repeated where
  all : List UInt64
  left : List UInt64

namespace Repeated

def ofList (all : List UInt64) : Repeated := ⟨all, all⟩

/-- The next long word. Without any words it is zero. -/
def next64 (s : Repeated) : UInt64 × Repeated :=
  match s.left with
  | w :: rest => (w, { s with left := rest })
  | [] => (s.all.headD 0, { s with left := s.all.tail })

def next32 (s : Repeated) : UInt32 × Repeated :=
  let (w, s) := s.next64
  (w.toUInt32, s)

def words : WordStream Repeated := ⟨next32, next64⟩

end Repeated

end Lexicon.Random
