import Mathlib.Data.Nat.NthRoot.Defs
import Mathlib.Data.Nat.Prime.Defs
import MonomythClient.BlockStreams

namespace Sha256

open BlockStreams

/-!
# SHA-256

The hash function of FIPS 180-4, for messages of whole bytes: its functions on
words, its constants by the roots they come from, padding, the message schedule,
and the compression of one block.
-/

/-! ## Words -/

/-- `ROTR` -/
def rotr (amount : Nat) (word : UInt32) : UInt32 :=
  .ofBitVec (word.toBitVec.rotateRight amount)

def ch (x y z : UInt32) : UInt32 :=
  (x &&& y) ^^^ (~~~x &&& z)

def maj (x y z : UInt32) : UInt32 :=
  (x &&& y) ^^^ (x &&& z) ^^^ (y &&& z)

/-- `Σ₀` -/
def bigSigma0 (x : UInt32) : UInt32 :=
  rotr 2 x ^^^ rotr 13 x ^^^ rotr 22 x

/-- `Σ₁` -/
def bigSigma1 (x : UInt32) : UInt32 :=
  rotr 6 x ^^^ rotr 11 x ^^^ rotr 25 x

/-- `σ₀` -/
def smallSigma0 (x : UInt32) : UInt32 :=
  rotr 7 x ^^^ rotr 18 x ^^^ x >>> 3

/-- `σ₁` -/
def smallSigma1 (x : UInt32) : UInt32 :=
  rotr 17 x ^^^ rotr 19 x ^^^ x >>> 10

/-! ## Constants -/

/-- The first 64 primes. -/
def primes : List Nat :=
  (List.range 312).filter Nat.Prime

/-- The first 32 bits of the fraction of a root. -/
def fractionOfRoot (degree number : Nat) : UInt32 :=
  UInt32.ofNat (Nat.nthRoot degree (number * 2 ^ (32 * degree)))

/-- `K`, from the cube roots of the primes. -/
def roundConstants : List UInt32 :=
  primes.map (fractionOfRoot 3)

/-- `H⁽⁰⁾`, from the square roots of the first eight primes. -/
def initialHash : List UInt32 :=
  (primes.take 8).map (fractionOfRoot 2)

/-! ## Padding -/

/-- The number of some bytes, the highest first. -/
def bigEndian (bytes : List UInt8) : Nat :=
  bytes.foldl (fun number byte => 256 * number + byte.toNat) 0

/-- The bytes of a number, the highest first. -/
def bigEndianBytes (width number : Nat) : List UInt8 :=
  (List.range width).reverse.map fun index =>
    UInt8.ofNat (number / 256 ^ index)

/-- How many zero bytes a message of a length is padded with. -/
def paddingZeros (length : Nat) : Nat :=
  (119 - length % 64) % 64

/-- A one bit, zero bits, and the number of bits in 64 bits. -/
def pad (message : List UInt8) : List UInt8 :=
  message ++ 0x80 :: List.replicate (paddingZeros message.length) 0 ++
    bigEndianBytes 8 (8 * message.length)

/--
With the seven zero bits behind the one bit, these are the fewest zero bits
such that all bits before the length are 448 modulo 512.
-/
theorem paddingZeros_fewest (length : Nat) :
    (8 * length + 1 + (7 + 8 * paddingZeros length)) % 512 = 448 ∧
      ∀ zeroBits,
        (8 * length + 1 + zeroBits) % 512 = 448 →
          7 + 8 * paddingZeros length ≤ zeroBits := by
  unfold paddingZeros
  constructor
  · omega
  · intro zeroBits isPadded
    omega

/-! ## Compression -/

/-- `W`: the words of a block, and what follows from them. -/
def schedule (block : List UInt8) (index : Nat) : UInt32 :=
  if index < 16 then
    UInt32.ofNat (bigEndian ((block.drop (4 * index)).take 4))
  else
    smallSigma1 (schedule block (index - 2)) +
        schedule block (index - 7) +
        smallSigma0 (schedule block (index - 15)) +
      schedule block (index - 16)
termination_by index

/-- The working variables. -/
structure Variables where
  a : UInt32
  b : UInt32
  c : UInt32
  d : UInt32
  e : UInt32
  f : UInt32
  g : UInt32
  h : UInt32
  deriving Repr, DecidableEq

/-- The variables hold a hash value at first. -/
def Variables.ofHash (hash : List UInt32) : Variables where
  a := hash.getD 0 0
  b := hash.getD 1 0
  c := hash.getD 2 0
  d := hash.getD 3 0
  e := hash.getD 4 0
  f := hash.getD 5 0
  g := hash.getD 6 0
  h := hash.getD 7 0

def Variables.toList (locals : Variables) : List UInt32 :=
  [locals.a, locals.b, locals.c, locals.d, locals.e,
    locals.f, locals.g, locals.h]

/-- One round, with its constant and its word of the schedule. -/
def round (constant word : UInt32) (locals : Variables) : Variables :=
  let t1 :=
    locals.h + bigSigma1 locals.e +
        ch locals.e locals.f locals.g +
        constant +
      word
  let t2 :=
    bigSigma0 locals.a + maj locals.a locals.b locals.c
  { a := t1 + t2
    b := locals.a
    c := locals.b
    d := locals.c
    e := locals.d + t1
    f := locals.e
    g := locals.f
    h := locals.g }

/-- The variables after some rounds. -/
def rounds (block : List UInt8) (hash : List UInt32) : Nat → Variables
  | 0 => .ofHash hash
  | count + 1 =>
      round (roundConstants.getD count 0) (schedule block count)
        (rounds block hash count)

/-- The next hash value. -/
def compress (hash : List UInt32) (block : List UInt8) : List UInt32 :=
  List.zipWith (· + ·) (rounds block hash 64).toList hash

/-! ## The hash -/

/-- The digest of a message. -/
def digest (message : List UInt8) : List UInt8 :=
  ((blocks 64 (pad message)).foldl compress initialHash).flatMap
    fun word => bigEndianBytes 4 word.toNat

end Sha256
