import MonomythClient.Sha256

namespace MonomythClient.SpellUsabilityDiscovery

open BlockStreams

/-!
# The hash of the executable

The discovery hashes the executable's file to recognise the client it was made
for.  The hash is written out in the source: a context takes in data of any
length, keeps what does not fill a block in a buffer, and is closed by the
padding.  It is SHA-256.
-/

/-! ## The context -/

def kSha256RoundConstants : List UInt32 :=
  [ 0x428a2f98, 0x71374491, 0xb5c0fbcf, 0xe9b5dba5, 0x3956c25b, 0x59f111f1,
    0x923f82a4, 0xab1c5ed5, 0xd807aa98, 0x12835b01, 0x243185be, 0x550c7dc3,
    0x72be5d74, 0x80deb1fe, 0x9bdc06a7, 0xc19bf174, 0xe49b69c1, 0xefbe4786,
    0x0fc19dc6, 0x240ca1cc, 0x2de92c6f, 0x4a7484aa, 0x5cb0a9dc, 0x76f988da,
    0x983e5152, 0xa831c66d, 0xb00327c8, 0xbf597fc7, 0xc6e00bf3, 0xd5a79147,
    0x06ca6351, 0x14292967, 0x27b70a85, 0x2e1b2138, 0x4d2c6dfc, 0x53380d13,
    0x650a7354, 0x766a0abb, 0x81c2c92e, 0x92722c85, 0xa2bfe8a1, 0xa81a664b,
    0xc24b8b70, 0xc76c51a3, 0xd192e819, 0xd6990624, 0xf40e3585, 0x106aa070,
    0x19a4c116, 0x1e376c08, 0x2748774c, 0x34b0bcb5, 0x391c0cb3, 0x4ed8aa4a,
    0x5b9cca4f, 0x682e6ff3, 0x748f82ee, 0x78a5636f, 0x84c87814, 0x8cc70208,
    0x90befffa, 0xa4506ceb, 0xbef9a3f7, 0xc67178f2 ]

/-- `RotateRight` -/
def rotateRight (value amount : UInt32) : UInt32 :=
  value >>> amount ||| value <<< (32 - amount)

/-- `Sha256Context`; the state has 8 words, and the buffer 64 bytes. -/
structure Sha256Context where
  state : List UInt32
  totalBytes : UInt64
  buffer : List UInt8
  bufferSize : Nat
  deriving DecidableEq

/-- `Sha256Init` sets every field, whatever was in the context. -/
def sha256Init : Sha256Context where
  state :=
    [ 0x6a09e667, 0xbb67ae85, 0x3c6ef372, 0xa54ff53a, 0x510e527f,
      0x9b05688c, 0x1f83d9ab, 0x5be0cd19 ]
  totalBytes := 0
  buffer := List.replicate 64 0
  bufferSize := 0

/-! ## One block -/

/-- The word of a block whose bytes begin at an offset. -/
def loadWord (block : List UInt8) (offset : Nat) : UInt32 :=
  (block.getD offset 0).toUInt32 <<< 24 |||
      (block.getD (offset + 1) 0).toUInt32 <<< 16 |||
      (block.getD (offset + 2) 0).toUInt32 <<< 8 |||
    (block.getD (offset + 3) 0).toUInt32

/-- The first loop over `message_schedule`. -/
def loadSchedule (block : List UInt8) : List UInt32 :=
  (List.range 16).foldl
    (fun messageSchedule i =>
      let offset := i * 4
      messageSchedule.set i (loadWord block offset))
    (List.replicate 64 0)

/-- One pass of the second loop. -/
def extendScheduleAt
    (messageSchedule : List UInt32)
    (i : Nat) : List UInt32 :=
  let word (index : Nat) : UInt32 := messageSchedule.getD index 0
  let sigma0 :=
    rotateRight (word (i - 15)) 7 ^^^ rotateRight (word (i - 15)) 18 ^^^
      word (i - 15) >>> 3
  let sigma1 :=
    rotateRight (word (i - 2)) 17 ^^^ rotateRight (word (i - 2)) 19 ^^^
      word (i - 2) >>> 10
  messageSchedule.set i (word (i - 16) + sigma0 + word (i - 7) + sigma1)

/-- `message_schedule`, when both loops are through. -/
def messageSchedule (block : List UInt8) : List UInt32 :=
  (List.range' 16 48).foldl extendScheduleAt (loadSchedule block)

/-- One pass of the loop over the working variables. -/
def sha256Round
    (messageSchedule : List UInt32)
    (locals : Sha256.Variables)
    (i : Nat) : Sha256.Variables :=
  let { a, b, c, d, e, f, g, h } := locals
  let sum1 := rotateRight e 6 ^^^ rotateRight e 11 ^^^ rotateRight e 25
  let choice := (e &&& f) ^^^ (~~~e &&& g)
  let temp1 :=
    h + sum1 + choice + kSha256RoundConstants.getD i 0 +
      messageSchedule.getD i 0
  let sum0 := rotateRight a 2 ^^^ rotateRight a 13 ^^^ rotateRight a 22
  let majority := (a &&& b) ^^^ (a &&& c) ^^^ (b &&& c)
  let temp2 := sum0 + majority
  { h := g
    g := f
    f := e
    e := d + temp1
    d := c
    c := b
    b := a
    a := temp1 + temp2 }

/-- `Sha256ProcessBlock` -/
def sha256ProcessBlock
    (context : Sha256Context)
    (block : List UInt8) : Sha256Context :=
  let state (index : Nat) : UInt32 := context.state.getD index 0
  let locals :=
    (List.range 64).foldl (sha256Round (messageSchedule block))
      { a := state 0
        b := state 1
        c := state 2
        d := state 3
        e := state 4
        f := state 5
        g := state 6
        h := state 7 }
  { context with
    state :=
      [ state 0 + locals.a, state 1 + locals.b,
        state 2 + locals.c, state 3 + locals.d,
        state 4 + locals.e, state 5 + locals.f,
        state 6 + locals.g, state 7 + locals.h ] }

/-! ## Data of any length -/

/-- `memcpy` to the buffer, behind what is in it. -/
def Sha256Context.copy
    (context : Sha256Context)
    (data : List UInt8) : Sha256Context :=
  { context with
    buffer :=
      context.buffer.take context.bufferSize ++ data ++
        context.buffer.drop (context.bufferSize + data.length)
    bufferSize := context.bufferSize + data.length }

/-- The buffer is worked on when it is full. -/
def Sha256Context.flush (context : Sha256Context) : Sha256Context :=
  { sha256ProcessBlock context context.buffer with bufferSize := 0 }

/-- The loop of `Sha256Update`, for as many passes as are given to it. -/
def sha256UpdateLoop :
    Nat → Sha256Context → List UInt8 → Option Sha256Context
  | passes, context, remaining =>
      if remaining = [] then
        some context
      else
        match passes with
        | 0 => none
        | passes + 1 =>
            let copyBytes :=
              min (64 - context.bufferSize) remaining.length
            let copied := context.copy (remaining.take copyBytes)
            let next :=
              if copied.bufferSize = 64 then copied.flush else copied
            sha256UpdateLoop passes next (remaining.drop copyBytes)

/-- `Sha256Update`; the data may be a null pointer. -/
def sha256Update
    (context : Sha256Context)
    (data : Option (List UInt8)) : Option Sha256Context :=
  match data with
  | none => some context
  | some data =>
      if data = [] then
        some context
      else
        sha256UpdateLoop data.length
          { context with
            totalBytes :=
              context.totalBytes + UInt64.ofNat data.length }
          data

/-! ## The digest -/

/-- `buffer[buffer_size++] = byte` -/
def Sha256Context.push
    (context : Sha256Context)
    (byte : UInt8) : Sha256Context :=
  { context with
    buffer := context.buffer.set context.bufferSize byte
    bufferSize := context.bufferSize + 1 }

/-- Zeros, while the buffer is below a size. -/
def Sha256Context.pushZeros
    (context : Sha256Context)
    (size : Nat) : Sha256Context :=
  (List.replicate (size - context.bufferSize) 0).foldl
    Sha256Context.push context

/-- `Sha256Final`: the digest, and the context that is left. -/
def sha256Final
    (context : Sha256Context) : List UInt8 × Sha256Context :=
  let totalBits := context.totalBytes * 8
  let marked := context.push 0x80
  let flushed :=
    if 56 < marked.bufferSize then
      (marked.pushZeros 64).flush
    else
      marked
  let padded := flushed.pushZeros 56
  let counted :=
    (List.range 8).reverse.foldl
      (fun context i =>
        context.push
          (totalBits >>> UInt64.ofNat (i * 8) &&& 0xff).toUInt8)
      padded
  let processed := sha256ProcessBlock counted counted.buffer
  let digest :=
    (List.range 8).flatMap fun i =>
      let word := processed.state.getD i 0
      [ (word >>> 24 &&& 0xff).toUInt8, (word >>> 16 &&& 0xff).toUInt8,
        (word >>> 8 &&& 0xff).toUInt8, (word &&& 0xff).toUInt8 ]
  (digest, processed)

/-! ## Files -/

/--
The loop of `ComputeFileSha256` over what the calls of `ReadFile` give: a
failure, or some bytes.  It ends with a failure or with no bytes.
-/
def readLoop :
    Sha256Context → List (Option (List UInt8)) →
      Option (Option Sha256Context)
  | _, [] => none
  | _, none :: _ => some none
  | context, some bytes :: later =>
      if bytes = [] then
        some (some context)
      else
        match sha256Update context (some bytes) with
        | none => none
        | some next => readLoop next later

/-- `kHexDigits` -/
def kHexDigits : List Char :=
  "0123456789abcdef".toList

/-- The two digits of a byte. -/
def hexDigits (byte : UInt8) : List Char :=
  [ kHexDigits.getD (byte >>> 4 &&& 0x0f).toNat '0',
    kHexDigits.getD (byte &&& 0x0f).toNat '0' ]

/--
`ComputeFileSha256`: what is written to `digest_hex`, if anything.  A null
`digest_hex`, whether the file could be opened, and what is read from it, are
given.
-/
def computeFileSha256
    (path : String)
    (hasDigestHex opened : Bool)
    (reads : List (Option (List UInt8))) :
    Option (Option String) :=
  if path = "" ∨ ¬ hasDigestHex then
    some none
  else if ¬ opened then
    some none
  else
    (readLoop sha256Init reads).map fun context =>
      context.map fun context =>
        String.ofList ((sha256Final context).1.flatMap hexDigits)

end MonomythClient.SpellUsabilityDiscovery
