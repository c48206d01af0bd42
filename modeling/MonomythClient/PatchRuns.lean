import MonomythClient.Detours
import MonomythClient.Overlays

namespace MonomythClient.HookManager

open FlatMemory Overlays

/-!
# Runs of patches

A run installs and removes patches in any order, with whatever the operating
system does during each call.  This module states what is expected of each
call, and which faults of guarded copies do no harm.
-/

/-! ## Calls -/

/-- The tables of patches, under names of any kind. -/
structure Process (Name : Type) where
  memory : Bytes
  detours : Name → InlineDetour
  originals : Name → UInt32
  callsites : Name → CallsitePatch
  bytePatches : Name → BytePatch

inductive Operation where
  | installInlineDetour (target hook : UInt32)
  | installValidatedInlineDetour
      (target hook : UInt32)
      (patchLength : Nat)
  | installCallsitePatch (callsite hook expectedOriginalTarget : UInt32)
  | installBytePatch
      (address : UInt32)
      (expected replacement : Option (Nat → UInt8))
      (length : Nat)
  | removeInlineDetour
  | removeCallsitePatch
  | removeBytePatch

/-- A call for one of the patches. -/
structure Call (Name : Type) where
  system : System
  name : Name
  operation : Operation

variable {Name : Type} [DecidableEq Name]

/-- What a call for a detour leaves behind. -/
def Process.withDetour
    (process : Process Name)
    (name : Name)
    (outcome : Outcome InlineDetour) : Process Name :=
  { process with
    memory := outcome.memory
    detours := Function.update process.detours name outcome.record }

/-- An installation returns the way to the original function, too. -/
def Process.withOriginal
    (process : Process Name)
    (name : Name)
    (originalOut : UInt32) : Process Name :=
  { process with
    originals := Function.update process.originals name originalOut }

def Process.withCallsite
    (process : Process Name)
    (name : Name)
    (outcome : Outcome CallsitePatch) : Process Name :=
  { process with
    memory := outcome.memory
    callsites := Function.update process.callsites name outcome.record }

def Process.withBytePatch
    (process : Process Name)
    (name : Name)
    (outcome : Outcome BytePatch) : Process Name :=
  { process with
    memory := outcome.memory
    bytePatches := Function.update process.bytePatches name outcome.record }

/-- A process that a fault ends is left as it was: it wrote no code. -/
def Process.afterDetour
    (process : Process Name)
    (name : Name) :
    Option DetourOutcome → Process Name × Option Bool
  | none => (process, none)
  | some outcome =>
      ((process.withDetour name outcome.toOutcome).withOriginal name
          outcome.originalOut,
        some outcome.succeeded)

/-- A call, with its result unless it faults. -/
def perform
    (process : Process Name)
    (call : Call Name) : Process Name × Option Bool :=
  match call.operation with
  | .installInlineDetour target hook =>
      process.afterDetour call.name
        (installInlineDetour call.system process.memory target hook
          (process.detours call.name) (process.originals call.name))
  | .installValidatedInlineDetour target hook patchLength =>
      process.afterDetour call.name
        (installValidatedInlineDetour call.system process.memory target hook
          patchLength (process.detours call.name)
          (process.originals call.name))
  | .installCallsitePatch callsite hook expectedOriginalTarget =>
      match
        installCallsitePatch call.system process.memory callsite hook
          expectedOriginalTarget (process.callsites call.name) with
      | none => (process, none)
      | some outcome =>
          (process.withCallsite call.name outcome, some outcome.succeeded)
  | .installBytePatch address expected replacement length =>
      let outcome :=
        installBytePatch call.system process.memory address expected
          replacement length (process.bytePatches call.name)
      (process.withBytePatch call.name outcome, some outcome.succeeded)
  | .removeInlineDetour =>
      let outcome :=
        removeInlineDetour call.system process.memory
          (process.detours call.name)
      (process.withDetour call.name outcome, some outcome.succeeded)
  | .removeCallsitePatch =>
      let outcome :=
        removeCallsitePatch call.system process.memory
          (process.callsites call.name)
      (process.withCallsite call.name outcome, some outcome.succeeded)
  | .removeBytePatch =>
      let outcome :=
        removeBytePatch call.system process.memory
          (process.bytePatches call.name)
      (process.withBytePatch call.name outcome, some outcome.succeeded)

/-- One call of a run. -/
def step (process : Process Name) (call : Call Name) : Process Name :=
  (perform process call).1

/-! ## Sites -/

/-- A patch in code: its range, and the bytes there with and without it. -/
structure Site where
  first : UInt32
  length : Nat
  patched : Nat → UInt8
  original : Nat → UInt8

def Site.covers (site : Site) (address : UInt32) : Prop :=
  InRange site.first site.length address

instance (site : Site) (address : UInt32) :
    Decidable (site.covers address) :=
  inferInstanceAs (Decidable (InRange site.first site.length address))

/-- The new values of a site. -/
def Site.patch (site : Site) : Patch UInt32 UInt8 :=
  fun address =>
    if site.covers address then
      some (site.patched (offsetFrom site.first address))
    else
      none

/-- The tables. -/
inductive Table where
  | detours
  | callsites
  | bytePatches
  deriving DecidableEq

def InlineDetour.site (detour : InlineDetour) : Option Site :=
  if detour.installed then
    some
      { first := detour.target
        length := detour.patchLength
        patched := detouredBytes detour.patch
        original := bytesOf detour.original }
  else
    none

def CallsitePatch.site (patch : CallsitePatch) : Option Site :=
  if patch.installed then
    some
      { first := patch.address
        length := kJmpPatchBytes
        patched := bytesOf patch.patch
        original := bytesOf patch.original }
  else
    none

def BytePatch.site (patch : BytePatch) : Option Site :=
  if patch.installed then
    some
      { first := patch.address
        length := patch.length
        patched := bytesOf patch.patch
        original := bytesOf patch.original }
  else
    none

/-- The site of a patch that is installed. -/
def Process.site (process : Process Name) : Table × Name → Option Site
  | (.detours, name) => (process.detours name).site
  | (.callsites, name) => (process.callsites name).site
  | (.bytePatches, name) => (process.bytePatches name).site

/-- The new values of all patches that are installed. -/
def Process.patches
    (process : Process Name)
    (slot : Table × Name) : Patch UInt32 UInt8 :=
  (process.site slot).elim (fun _ => none) Site.patch

def Operation.table : Operation → Table
  | .installInlineDetour .. => .detours
  | .installValidatedInlineDetour .. => .detours
  | .removeInlineDetour => .detours
  | .installCallsitePatch .. => .callsites
  | .removeCallsitePatch => .callsites
  | .installBytePatch .. => .bytePatches
  | .removeBytePatch => .bytePatches

def Operation.isRemoval : Operation → Bool
  | .removeInlineDetour => true
  | .removeCallsitePatch => true
  | .removeBytePatch => true
  | _ => false

/-- The patch a call is for. -/
def Call.slot (call : Call Name) : Table × Name :=
  (call.operation.table, call.name)

/-! ## What is expected of a call -/

/-- A call leaves the code overlaid with the patches that are installed. -/
structure Confined
    (code : UInt32 → Prop)
    (base : Bytes)
    (process : Process Name)
    (call : Call Name) : Prop where
  overlaid :
    Overlaid code base (step process call).memory
      (step process call).patches
  /-- An installation that fails changes neither code nor flags. -/
  failedInstall :
    call.operation.isRemoval = false →
      (perform process call).2 ≠ some true →
        (∀ address, code address →
            (step process call).memory address = process.memory address) ∧
          ∀ slot,
            ((step process call).site slot).isSome =
              (process.site slot).isSome
  /-- Before one that succeeds, its range held the original bytes. -/
  installed :
    call.operation.isRemoval = false →
      (perform process call).2 = some true →
        ∃ site,
          (step process call).site call.slot = some site ∧
            process.site call.slot = none ∧
            ∀ address, code address → site.covers address →
              process.memory address = base address
  /-- A removal that succeeds brings them back. -/
  removed :
    call.operation.isRemoval = true →
      (perform process call).2 = some true →
        (step process call).site call.slot = none ∧
          ∀ site, process.site call.slot = some site →
            ∀ address, code address → site.covers address →
              (step process call).memory address = base address
  /-- Removing what is not installed changes nothing. -/
  notInstalled :
    call.operation.isRemoval = true →
      process.site call.slot = none → step process call = process

/-- The code stays mapped, and patches that are installed do not overlap. -/
structure Allowed
    (code : UInt32 → Prop)
    (process : Process Name)
    (call : Call Name) : Prop where
  codeMapped :
    ∀ address, code address → call.system.mapped address = true
  separate :
    ∀ slot other, other ≠ slot →
      Separate ((step process call).patches slot)
        ((step process call).patches other)

/-- A copy by `TryWriteBytes`. -/
structure GuardedCopy where
  destination : UInt32
  source : Nat → UInt8
  length : Nat

/-- The guarded copy of a call, if it gets that far. -/
def guardedCopy
    (process : Process Name)
    (call : Call Name) : Option GuardedCopy :=
  let patch := process.bytePatches call.name
  match call.operation with
  | .installBytePatch address (some expected) (some replacement) length =>
      if address = 0 ∨ patch.installed = true ∨ length = 0 ∨
          kMaxStolenBytes < length then
        none
      else if
          call.system.canRead address length = true ∧
            sameBytes (process.memory.at address) expected length = true then
        some
          { destination := address
            source := replacement
            length := length }
      else
        none
  | .removeBytePatch =>
      if patch.installed = true ∧ patch.address ≠ 0 ∧ patch.length ≠ 0 then
        some
          { destination := patch.address
            source := bytesOf patch.original
            length := patch.length }
      else
        none
  | _ => none

/-- A guarded copy that faults has not changed a byte of code before. -/
def FaultsHarmless
    (code : UInt32 → Prop)
    (process : Process Name)
    (call : Call Name) : Prop :=
  ∀ copy written,
    guardedCopy process call = some copy →
      call.system.virtualProtect copy.destination copy.length = true →
        call.system.writeFault = some written →
          ∀ address,
            code address →
              InRange copy.destination copy.length address →
                written (offsetFrom copy.destination address) = true →
                  copy.source (offsetFrom copy.destination address) =
                    process.memory address

end MonomythClient.HookManager
