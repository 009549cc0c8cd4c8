/-!
# `SqlLoom.Lock.Digest`: the SHA-1 digest and the keys of a lock

Some databases know locks by numbers. A lock name becomes two numbers of 16 bits, the first four
octets of the SHA-1 digest of its UTF-8 encoding (`lockKeys`).

The digest works on words of 32 bits. A message is padded to whole blocks of sixteen words; the
eighty words of a block are each mixed into five words of state.
-/

set_option autoImplicit false

namespace SqlLoom.Digest

/-- A word rotated to the left. -/
def rotate (w : UInt32) (n : UInt32) : UInt32 := (w <<< n) ||| (w >>> (32 - n))

/-- The octets of a number below `256 ^ n`, the most significant first. -/
def octetsOf (n value : Nat) : List UInt8 :=
  (List.range n).reverse.map fun i => .ofNat (value >>> (8 * i))

/-- A message with a one bit, zero bits and its length in bits, in whole blocks. -/
def padded (message : List UInt8) : List UInt8 :=
  let n := message.length
  message ++ 0x80 :: List.replicate ((119 - n % 64) % 64) 0 ++ octetsOf 8 (8 * n)

/-- The words of octets, four octets each. -/
def wordsOf : List UInt8 → List UInt32
  | a :: b :: c :: d :: rest =>
    ((a.toUInt32 <<< 24) ||| (b.toUInt32 <<< 16) ||| (c.toUInt32 <<< 8) ||| d.toUInt32)
      :: wordsOf rest
  | _ => []

/-- The next word of a block, from the words so far in reverse. -/
def nextWord (words : List UInt32) : UInt32 :=
  let word (back : Nat) := words.getD (back - 1) 0
  rotate (word 3 ^^^ word 8 ^^^ word 14 ^^^ word 16) 1

/-- `n` more words of a block, after the words so far in reverse. -/
def extend : Nat → List UInt32 → List UInt32
  | 0, words => words
  | n + 1, words => extend n (nextWord words :: words)

/-- The eighty words of a block of sixteen. -/
def schedule (block : List UInt32) : List UInt32 := (extend 64 block.reverse).reverse

/-- The five words of state. -/
structure State where
  a : UInt32
  b : UInt32
  c : UInt32
  d : UInt32
  e : UInt32

/-- The state before the first block. -/
def State.initial : State := ⟨0x67452301, 0xEFCDAB89, 0x98BADCFE, 0x10325476, 0xC3D2E1F0⟩

/-- The function and the constant of a round. -/
def mix (round : Nat) (b c d : UInt32) : UInt32 × UInt32 :=
  if round < 20 then ((b &&& c) ||| (~~~b &&& d), 0x5A827999)
  else if round < 40 then (b ^^^ c ^^^ d, 0x6ED9EBA1)
  else if round < 60 then ((b &&& c) ||| (b &&& d) ||| (c &&& d), 0x8F1BBCDC)
  else (b ^^^ c ^^^ d, 0xCA62C1D6)

/-- Mixes one word into the state. -/
def State.step (s : State) (round : Nat) (word : UInt32) : State :=
  let (f, k) := mix round s.b s.c s.d
  ⟨rotate s.a 5 + f + s.e + k + word, s.a, rotate s.b 30, s.c, s.d⟩

/-- Mixes the words of a block into the state, from the given round on. -/
def State.steps (s : State) (round : Nat) : List UInt32 → State
  | [] => s
  | word :: rest => (s.step round word).steps (round + 1) rest

/-- The state after one more block. -/
def State.absorb (s : State) (block : List UInt32) : State :=
  let t := s.steps 0 (schedule block)
  ⟨s.a + t.a, s.b + t.b, s.c + t.c, s.d + t.d, s.e + t.e⟩

/-- The state after `n` blocks. -/
def absorbAll : Nat → State → List UInt32 → State
  | 0, s, _ => s
  | n + 1, s, words => absorbAll n (s.absorb (words.take 16)) (words.drop 16)

/-- The digest of a message. -/
def sha1 (message : List UInt8) : State :=
  let words := wordsOf (padded message)
  absorbAll (words.length / 16) .initial words

end SqlLoom.Digest

namespace SqlLoom

/-- The two keys of a lock name. -/
def lockKeys (name : String) : Nat × Nat :=
  let word := (Digest.sha1 name.toUTF8.toList).a.toNat
  (word / 65536, word % 65536)

end SqlLoom
