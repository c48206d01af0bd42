import MonomythClient.FlatMemory
import MonomythClient.PatchLength

namespace MonomythClient.HookManager

open FlatMemory LittleEndian PayloadReader

/-!
# Code patches

The hook manager changes code in three ways: a detour at the entry of a
function, a call that goes elsewhere, and a few bytes that are replaced.  The
records of the patches are never null here, as callers pass their globals.

Reading bytes that cannot be read faults.  A range that was made writable is
written as a whole, except by the guarded copies of byte patches, which expect
a fault on the way.
-/

/-! ## The operating system -/

/-- What the operating system does during one call. -/
structure System where
  mapped : UInt32 → Bool
  readable : UInt32 → Bool
  /-- `VirtualAlloc`: the address of as many bytes, null if there are none. -/
  virtualAlloc : Nat → UInt32
  /-- `VirtualProtect`, when it is to make a range writable. -/
  virtualProtect : UInt32 → Nat → Bool
  /-- If the copy of `TryWriteBytes` faults, the offsets it got to write. -/
  writeFault : Option (Nat → Bool)
  readable_mapped : ∀ address, readable address = true → mapped address = true
  /-- What is allocated was not in use. -/
  virtualAlloc_fresh :
    ∀ size, virtualAlloc size ≠ 0 →
      ∀ address, InRange (virtualAlloc size) size address →
        mapped address = false

/-- Code from an address on, as far as it can be read. -/
def System.view
    (system : System)
    (memory : Bytes)
    (address : UInt32) : Memory :=
  fun offset =>
    if system.readable (address + UInt32.ofNat offset) then
      some (memory.at address offset)
    else
      none

/-- Can a range be read? -/
def System.canRead
    (system : System)
    (address : UInt32)
    (length : Nat) : Bool :=
  (List.range length).all fun offset =>
    system.readable (address + UInt32.ofNat offset)

/-! ## Byte arrays -/

/-- The bytes of an array. -/
def bytesOf {size : Nat} (array : Vector UInt8 size) : Nat → UInt8 :=
  fun offset => array[offset]?.getD 0

/-- Copying to the front of an array. -/
def copyInto
    {size : Nat}
    (array : Vector UInt8 size)
    (source : Nat → UInt8)
    (length : Nat) :
    Vector UInt8 size :=
  Vector.ofFn fun offset =>
    if offset.val < length then source offset else array[offset]

/-! ## Records -/

structure InlineDetour where
  target : UInt32 := 0
  hook : UInt32 := 0
  trampoline : UInt32 := 0
  patchLength : Nat := 0
  original : Vector UInt8 kMaxStolenBytes := Vector.replicate _ 0
  patch : Vector UInt8 kJmpPatchBytes := Vector.replicate _ 0
  installed : Bool := false
  deriving DecidableEq

structure CallsitePatch where
  address : UInt32 := 0
  original : Vector UInt8 kJmpPatchBytes := Vector.replicate _ 0
  patch : Vector UInt8 kJmpPatchBytes := Vector.replicate _ 0
  installed : Bool := false
  deriving DecidableEq

structure BytePatch where
  address : UInt32 := 0
  original : Vector UInt8 kMaxStolenBytes := Vector.replicate _ 0
  patch : Vector UInt8 kMaxStolenBytes := Vector.replicate _ 0
  length : Nat := 0
  installed : Bool := false
  deriving DecidableEq

/-- What a call leaves: the memory, the patch's record and its result. -/
structure Outcome (Record : Type) where
  memory : Bytes
  record : Record
  succeeded : Bool

/-- A call that refuses. -/
def Outcome.refused
    {Record : Type}
    (memory : Bytes)
    (record : Record) : Outcome Record where
  memory := memory
  record := record
  succeeded := false

/-! ## Relative branches -/

/-- `RelativeOffsetFits` -/
def relativeOffsetFits (offset : Int) : Bool :=
  -2 ^ 31 ≤ offset ∧ offset ≤ 2 ^ 31 - 1

/-- A branch of five bytes. -/
def relativeBranch
    (opcode : UInt8)
    (relative : Int32) : Vector UInt8 kJmpPatchBytes :=
  ⟨(opcode :: bytes32 relative.toUInt32).toArray, by simp [kJmpPatchBytes]⟩

/-- `BuildRelativeJump` and `BuildRelativeCall` differ in the opcode only. -/
def buildRelativeBranch
    (opcode : UInt8)
    (patchSite destination : UInt32) :
    Option (Vector UInt8 kJmpPatchBytes) :=
  if patchSite = 0 ∨ destination = 0 then
    none
  else
    let relative : Int :=
      destination.toNat - (patchSite.toNat + kJmpPatchBytes)
    if relativeOffsetFits relative then
      some (relativeBranch opcode (Int32.ofInt relative))
    else
      none

def buildRelativeJump :
    UInt32 → UInt32 → Option (Vector UInt8 kJmpPatchBytes) :=
  buildRelativeBranch 0xE9

def buildRelativeCall :
    UInt32 → UInt32 → Option (Vector UInt8 kJmpPatchBytes) :=
  buildRelativeBranch 0xE8

structure RelativeCallResolution where
  callSite : UInt32 := 0
  target : UInt32 := 0
  resolved : Bool := false
  deriving DecidableEq

/-- `ResolveRelativeCall`: a fault, or its result. -/
def resolveRelativeCall
    (code : Memory)
    (available : Nat)
    (instructionAddress : UInt32) :
    Option RelativeCallResolution :=
  if available < 5 then
    some { callSite := instructionAddress }
  else do
    let opcode ← code 0
    if opcode ≠ 0xE8 ∨ instructionAddress = 0 then
      return { callSite := instructionAddress }
    else
      let relative ← loadBytes code 4 1
      return {
        callSite := instructionAddress
        target :=
          instructionAddress + 5 + UInt32.ofNat (value relative)
        resolved := true
      }

/-! ## Detours -/

/-- What a detour leaves, with the way back to the original function. -/
structure DetourOutcome extends Outcome InlineDetour where
  originalOut : UInt32

/-- The part that both ways to install a detour share. -/
def installDetour
    (system : System)
    (memory : Bytes)
    (target hook : UInt32)
    (patchLength : Nat)
    (detour : InlineDetour)
    (originalOut : UInt32) :
    Option DetourOutcome :=
  let refused : DetourOutcome :=
    { Outcome.refused memory detour with originalOut := originalOut }
  let trampoline := system.virtualAlloc (patchLength + kJmpPatchBytes)
  if trampoline = 0 then
    some refused
  else
    match
      buildRelativeJump (trampoline + UInt32.ofNat patchLength)
        (target + UInt32.ofNat patchLength) with
    | none => some refused
    | some trampolineJump =>
        match buildRelativeJump target hook with
        | none => some refused
        | some targetJump =>
            if system.canRead target patchLength then
              let memory :=
                memory.write trampoline (memory.at target) patchLength
              let memory :=
                memory.write (trampoline + UInt32.ofNat patchLength)
                  (bytesOf trampolineJump) kJmpPatchBytes
              if system.virtualProtect target patchLength then
                let original :=
                  copyInto detour.original (memory.at target) patchLength
                let memory :=
                  memory.write target (bytesOf targetJump) kJmpPatchBytes
                let memory :=
                  memory.write (target + UInt32.ofNat kJmpPatchBytes)
                    (fun _ => 0x90) (patchLength - kJmpPatchBytes)
                some
                  { memory := memory
                    record :=
                      { target := target
                        hook := hook
                        trampoline := trampoline
                        patchLength := patchLength
                        original := original
                        patch := targetJump
                        installed := true }
                    succeeded := true
                    originalOut := trampoline }
              else
                -- The trampoline's bytes are released with it.
                some
                  { Outcome.refused memory detour with originalOut := 0 }
            else
              none

/-- `InstallInlineDetour`: a fault, or what it leaves. -/
def installInlineDetour
    (system : System)
    (memory : Bytes)
    (target hook : UInt32)
    (detour : InlineDetour)
    (originalOut : UInt32) :
    Option DetourOutcome :=
  let refused : DetourOutcome :=
    { Outcome.refused memory detour with originalOut := originalOut }
  if target = 0 ∨ hook = 0 ∨ detour.installed = true then
    some refused
  else do
    let calculated ← calculatePatchLength (system.view memory target)
    match calculated with
    | none => return refused
    | some patchLength =>
        installDetour system memory target hook patchLength detour
          originalOut

/-- `InstallValidatedInlineDetour`: the caller knows the patch length. -/
def installValidatedInlineDetour
    (system : System)
    (memory : Bytes)
    (target hook : UInt32)
    (patchLength : Nat)
    (detour : InlineDetour)
    (originalOut : UInt32) :
    Option DetourOutcome :=
  if target = 0 ∨ hook = 0 ∨ detour.installed = true ∨
      patchLength < kJmpPatchBytes ∨ kMaxStolenBytes < patchLength then
    some { Outcome.refused memory detour with originalOut := originalOut }
  else
    installDetour system memory target hook patchLength detour originalOut

/-- `RemoveInlineDetour` -/
def removeInlineDetour
    (system : System)
    (memory : Bytes)
    (detour : InlineDetour) : Outcome InlineDetour :=
  if detour.installed = false then
    { memory := memory, record := detour, succeeded := true }
  else if system.virtualProtect detour.target detour.patchLength then
    { memory :=
        memory.write detour.target (bytesOf detour.original)
          detour.patchLength
      record := {}
      succeeded := true }
  else
    .refused memory detour

/-! ## Callsite patches -/

/-- `InstallCallsitePatch`: a fault, or what it leaves. -/
def installCallsitePatch
    (system : System)
    (memory : Bytes)
    (callsite hook expectedOriginalTarget : UInt32)
    (patch : CallsitePatch) :
    Option (Outcome CallsitePatch) :=
  let refused := Outcome.refused memory patch
  if callsite = 0 ∨ hook = 0 ∨ patch.installed = true then
    some refused
  else do
    let resolution ←
      resolveRelativeCall (system.view memory callsite) kJmpPatchBytes
        callsite
    if resolution.resolved = false ∨
        resolution.target ≠ expectedOriginalTarget then
      return refused
    else
      match buildRelativeCall callsite hook with
      | none => return refused
      | some callPatch =>
          if system.virtualProtect callsite kJmpPatchBytes then
            return {
              memory :=
                memory.write callsite (bytesOf callPatch) kJmpPatchBytes
              record :=
                { address := callsite
                  original :=
                    copyInto patch.original (memory.at callsite)
                      kJmpPatchBytes
                  patch := callPatch
                  installed := true }
              succeeded := true
            }
          else
            return refused

/-- `RemoveCallsitePatch` -/
def removeCallsitePatch
    (system : System)
    (memory : Bytes)
    (patch : CallsitePatch) : Outcome CallsitePatch :=
  if patch.installed = false then
    { memory := memory, record := patch, succeeded := true }
  else if system.virtualProtect patch.address kJmpPatchBytes then
    { memory :=
        memory.write patch.address (bytesOf patch.original) kJmpPatchBytes
      record := {}
      succeeded := true }
  else
    .refused memory patch

/-! ## Byte patches -/

/-- `TryCopyBytes`: the bytes it copies to a local buffer, if it can. -/
def tryCopyBytes
    (system : System)
    (memory : Bytes)
    (source : UInt32)
    (length : Nat) : Option (Nat → UInt8) :=
  if source = 0 ∨ length = 0 then
    none
  else if system.canRead source length then
    some (memory.at source)
  else
    none

/-- `TryWriteBytes`: the memory behind it, and its result. -/
def tryWriteBytes
    (system : System)
    (memory : Bytes)
    (destination : UInt32)
    (source : Nat → UInt8)
    (length : Nat) : Bytes × Bool :=
  if destination = 0 ∨ length = 0 then
    (memory, false)
  else if system.virtualProtect destination length then
    match system.writeFault with
    | none => (memory.write destination source length, true)
    | some written =>
        -- A copy of several words that faults leaves what it has written.
        (fun address =>
          if written (offsetFrom destination address) then
            memory.write destination source length address
          else
            memory address, false)
  else
    (memory, false)

/-- `InstallBytePatch` -/
def installBytePatch
    (system : System)
    (memory : Bytes)
    (address : UInt32)
    (expected replacement : Option (Nat → UInt8))
    (length : Nat)
    (patch : BytePatch) : Outcome BytePatch :=
  match expected, replacement with
  | some expected, some replacement =>
      if address = 0 ∨ patch.installed = true ∨ length = 0 ∨
          kMaxStolenBytes < length then
        .refused memory patch
      else
        match tryCopyBytes system memory address length with
        | none => .refused memory patch
        | some live =>
            if sameBytes live expected length then
              let written :=
                tryWriteBytes system memory address replacement length
              if written.2 then
                { memory := written.1
                  record :=
                    { address := address
                      original := copyInto patch.original expected length
                      patch := copyInto patch.patch replacement length
                      length := length
                      installed := true }
                  succeeded := true }
              else
                .refused written.1 {}
            else
              .refused memory patch
  | none, _ => .refused memory patch
  | _, none => .refused memory patch

/-- `RemoveBytePatch` -/
def removeBytePatch
    (system : System)
    (memory : Bytes)
    (patch : BytePatch) : Outcome BytePatch :=
  if patch.installed = false then
    { memory := memory, record := patch, succeeded := true }
  else
    let written :=
      tryWriteBytes system memory patch.address (bytesOf patch.original)
        patch.length
    if written.2 then
      { memory := written.1, record := {}, succeeded := true }
    else
      .refused written.1 patch

end MonomythClient.HookManager
