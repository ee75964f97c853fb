/-!
# SHA-256

The digest of a sequence of bytes: the message is padded to blocks of sixteen
words, and each block is mixed into eight words of state in sixty-four rounds.
-/

namespace PaneLayout.Digest

/-- The words that the sixty-four rounds add. -/
def roundConstants : List UInt32 :=
  [0x428a2f98, 0x71374491, 0xb5c0fbcf, 0xe9b5dba5, 0x3956c25b, 0x59f111f1,
   0x923f82a4, 0xab1c5ed5, 0xd807aa98, 0x12835b01, 0x243185be, 0x550c7dc3,
   0x72be5d74, 0x80deb1fe, 0x9bdc06a7, 0xc19bf174, 0xe49b69c1, 0xefbe4786,
   0x0fc19dc6, 0x240ca1cc, 0x2de92c6f, 0x4a7484aa, 0x5cb0a9dc, 0x76f988da,
   0x983e5152, 0xa831c66d, 0xb00327c8, 0xbf597fc7, 0xc6e00bf3, 0xd5a79147,
   0x06ca6351, 0x14292967, 0x27b70a85, 0x2e1b2138, 0x4d2c6dfc, 0x53380d13,
   0x650a7354, 0x766a0abb, 0x81c2c92e, 0x92722c85, 0xa2bfe8a1, 0xa81a664b,
   0xc24b8b70, 0xc76c51a3, 0xd192e819, 0xd6990624, 0xf40e3585, 0x106aa070,
   0x19a4c116, 0x1e376c08, 0x2748774c, 0x34b0bcb5, 0x391c0cb3, 0x4ed8aa4a,
   0x5b9cca4f, 0x682e6ff3, 0x748f82ee, 0x78a5636f, 0x84c87814, 0x8cc70208,
   0x90befffa, 0xa4506ceb, 0xbef9a3f7, 0xc67178f2]

/-- Eight words that the blocks are mixed into. -/
structure State where
  a : UInt32
  b : UInt32
  c : UInt32
  d : UInt32
  e : UInt32
  f : UInt32
  g : UInt32
  h : UInt32

def State.initial : State where
  a := 0x6a09e667
  b := 0xbb67ae85
  c := 0x3c6ef372
  d := 0xa54ff53a
  e := 0x510e527f
  f := 0x9b05688c
  g := 0x1f83d9ab
  h := 0x5be0cd19

def State.words (state : State) : List UInt32 :=
  [state.a, state.b, state.c, state.d, state.e, state.f, state.g, state.h]

def rotateRight (word amount : UInt32) : UInt32 :=
  (word >>> amount) ||| (word <<< (32 - amount))

/-- One round with its constant and its word of the schedule. -/
def State.round (state : State) (constant word : UInt32) : State :=
  let mixE := rotateRight state.e 6 ^^^ rotateRight state.e 11 ^^^
    rotateRight state.e 25
  let choice := (state.e &&& state.f) ^^^ (~~~state.e &&& state.g)
  let first := state.h + mixE + choice + constant + word
  let mixA := rotateRight state.a 2 ^^^ rotateRight state.a 13 ^^^
    rotateRight state.a 22
  let majority := (state.a &&& state.b) ^^^ (state.a &&& state.c) ^^^
    (state.b &&& state.c)
  { a := first + (mixA + majority)
    b := state.a
    c := state.b
    d := state.c
    e := state.d + first
    f := state.e
    g := state.f
    h := state.g }

/-- The word that follows the last sixteen of a schedule. -/
def nextWord (window : List UInt32) : UInt32 :=
  let entry (index : Nat) : UInt32 := window[index]?.getD 0
  let early := entry 1
  let late := entry 14
  entry 0 + (rotateRight early 7 ^^^ rotateRight early 18 ^^^ (early >>> 3)) +
    entry 9 + (rotateRight late 17 ^^^ rotateRight late 19 ^^^ (late >>> 10))

/-- The rounds of a block, with the sixteen words that come next. -/
def State.rounds (state : State) : List UInt32 → List UInt32 → State
  | [], _ => state
  | _ :: _, [] => state
  | constant :: constants, word :: window =>
      (state.round constant word).rounds constants
        (window ++ [nextWord (word :: window)])

/-- The state after a block of sixteen words. -/
def State.absorb (state : State) (block : List UInt32) : State :=
  let mixed := state.rounds roundConstants block
  { a := state.a + mixed.a
    b := state.b + mixed.b
    c := state.c + mixed.c
    d := state.d + mixed.d
    e := state.e + mixed.e
    f := state.f + mixed.f
    g := state.g + mixed.g
    h := state.h + mixed.h }

/-- A number as bytes, the most significant first. -/
def bigEndian (width n : Nat) : List UInt8 :=
  (List.range width).map fun index =>
    UInt8.ofNat (n / Nat.pow 256 (width - 1 - index))

/-- A message followed by a one bit, zeros, and its length in bits. -/
def padMessage (message : List UInt8) : List UInt8 :=
  let zeros := (119 - message.length % 64) % 64
  message ++ [0x80] ++ List.replicate zeros 0 ++
    bigEndian 8 (8 * message.length)

/-- Bytes in groups of four as words. -/
def toWords : List UInt8 → List UInt32
  | first :: second :: third :: fourth :: rest =>
      ((first.toUInt32 <<< 24) ||| (second.toUInt32 <<< 16) |||
        (third.toUInt32 <<< 8) ||| fourth.toUInt32) :: toWords rest
  | _ => []

/-- The state after as many whole blocks as the fuel allows. -/
def State.absorbAll (state : State) : Nat → List UInt32 → State
  | 0, _ => state
  | _ + 1, [] => state
  | blocks + 1, words =>
      (state.absorb (words.take 16)).absorbAll blocks (words.drop 16)

/-- The digest of a message. -/
def sha256 (message : List UInt8) : List UInt8 :=
  let words := toWords (padMessage message)
  let final := State.initial.absorbAll (words.length / 16) words
  final.words.flatMap fun word => bigEndian 4 word.toNat

/-- Bytes in hexadecimal, in lower case. -/
def hexadecimal (octets : List UInt8) : String :=
  String.ofList (octets.flatMap fun octet =>
    (Nat.toDigits 16 (octet.toNat / 16)) ++ (Nat.toDigits 16 (octet.toNat % 16)))

end PaneLayout.Digest
