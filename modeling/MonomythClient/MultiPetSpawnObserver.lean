import MonomythClient.ByteText
import MonomythClient.PayloadReader
import MonomythClient.ServerAuthStatsSnapshot
import MonomythClient.StandardSort

namespace MonomythClient.MultiPetSpawnObserver

open ByteText LittleEndian PayloadReader StandardSort

/-!
# The multi-pet spawn roster

Spawn packets announce a name, a spawn id and an owner; those with an owner are
kept in a roster in the order they were first seen.  A delete packet marks a
roster entry inactive.  The fields of a spawn payload lie behind two strings and
an array of properties, so the parser advances a cursor through it.  A snapshot
shows the first two active pets that have the focused pet's owner.
-/

/-! ## Reading -/

/-- `TryReadBytes`, whose bounds check adds in 64 bits. -/
def tryReadBytes
    (payload : Pointer)
    (payloadLength offset : UInt32)
    (length : Nat) :
    Option (List UInt8) :=
  match payload with
  | none => none
  | some memory =>
      if length = 0 ∨ payloadLength < offset ∨
          payloadLength.toUInt64 < offset.toUInt64 + UInt64.ofNat length then
        none
      else
        copyBytes memory offset.toNat length

/-- `TryReadU8`. -/
def tryReadU8
    (payload : Pointer)
    (payloadLength offset : UInt32) :
    Option UInt8 :=
  match tryReadBytes payload payloadLength offset 1 with
  | some [byte] => some byte
  | _ => none

/-- `TryReadU32`. -/
def tryReadU32
    (payload : Pointer)
    (payloadLength offset : UInt32) :
    Option UInt32 :=
  match tryReadBytes payload payloadLength offset 4 with
  | some [byte0, byte1, byte2, byte3] =>
      some (word32 byte0 byte1 byte2 byte3)
  | _ => none

/-- `TryAdvance`: the cursor moved on, if that stays inside the payload. -/
def tryAdvance (payloadLength cursor bytes : UInt32) : Option UInt32 :=
  if payloadLength < cursor ∨
      payloadLength.toUInt64 < cursor.toUInt64 + bytes.toUInt64 then
    none
  else
    some (cursor + bytes)

/-! ## Spawn payloads -/

/-- The fields between the spawn id and the property count. -/
def kSpawnPrefixBytes : UInt32 := 1 + 4 + 1 + 4 + 1 + 4 + 4

/-- The fields between the properties and the last name. -/
def kSpawnFixedBytes : UInt32 :=
  7 + 12 + 4 + 4 + 1 + 4 + 4 + 4 + 1 + 4 + 4 + 4 + 1 + 1 + 1 + 1 + 1

/-- The fields between the last name and the owner id. -/
def kSpawnOwnerOffset : UInt32 := 4 + 1 + 1

/-- `ParsedSpawnEntry` of a payload that parses. -/
structure ParsedSpawnEntry where
  spawnId : UInt32
  ownerId : UInt32
  name : List UInt8
  deriving Repr, DecidableEq

/-- `ParseSingleSpawnPayload`; a payload it returns false for has no entry. -/
def parseSingleSpawnPayload
    (payload : Pointer)
    (payloadLength : UInt32) :
    Option ParsedSpawnEntry := do
  guard (payload ≠ none ∧ ¬ payloadLength < 8)
  let (name, cursor) ← tryReadCString payload payloadLength 0
  guard (name ≠ [])
  let spawnId ← tryReadU32 payload payloadLength cursor
  let cursor ← tryAdvance payloadLength cursor 4
  let cursor ← tryAdvance payloadLength cursor kSpawnPrefixBytes
  let propertyCount ← tryReadU8 payload payloadLength cursor
  let cursor ← tryAdvance payloadLength cursor 1
  let cursor ← tryAdvance payloadLength cursor (propertyCount.toUInt32 * 4)
  let cursor ← tryAdvance payloadLength cursor kSpawnFixedBytes
  let (_, cursor) ← tryReadCString payload payloadLength cursor
  let cursor ← tryAdvance payloadLength cursor kSpawnOwnerOffset
  let ownerId ← tryReadU32 payload payloadLength cursor
  return { spawnId := spawnId, ownerId := ownerId, name := name }

/-! ## The roster -/

/-- One spawn that had an owner when it was last announced. -/
structure ObservedPetEntry where
  spawnId : UInt32
  ownerId : UInt32
  firstSeenOrder : UInt64
  active : Bool
  name : List UInt8
  deriving Repr, DecidableEq

/-- The roster and the order number of the next new entry. -/
structure Roster where
  entries : List ObservedPetEntry
  nextFirstSeenOrder : UInt64
  deriving Repr, DecidableEq

/-- The roster at the start, and after `Clear`. -/
def Roster.initial : Roster where
  entries := []
  nextFirstSeenOrder := 1

/-- Change the entry `FindEntryBySpawnId` returns, if there is one. -/
def updateBySpawnId
    (spawnId : UInt32)
    (update : ObservedPetEntry → ObservedPetEntry) :
    List ObservedPetEntry → Option (List ObservedPetEntry)
  | [] => none
  | entry :: rest =>
      if entry.spawnId = spawnId then
        some (update entry :: rest)
      else
        (updateBySpawnId spawnId update rest).map (entry :: ·)

/-- `ObserveSpawnPayload`. -/
def observeSpawnPayload (payload : Payload) (roster : Roster) : Roster :=
  match parseSingleSpawnPayload payload.pointer payload.length with
  | none => roster
  | some spawn =>
      if spawn.ownerId = 0 ∨ spawn.name = [] then
        roster
      else
        match updateBySpawnId spawn.spawnId
            (fun existing =>
              { existing with
                ownerId := spawn.ownerId
                name := spawn.name
                active := true })
            roster.entries with
        | some entries => { roster with entries := entries }
        | none =>
            { entries :=
                roster.entries ++
                  [{ spawnId := spawn.spawnId
                     ownerId := spawn.ownerId
                     firstSeenOrder := roster.nextFirstSeenOrder
                     active := true
                     name := spawn.name }]
              nextFirstSeenOrder := roster.nextFirstSeenOrder + 1 }

/-- `ObserveDeleteSpawnPayload`. -/
def observeDeleteSpawnPayload (payload : Payload) (roster : Roster) : Roster :=
  if payload.pointer = none ∨ payload.length < 4 then
    roster
  else
    match tryReadU32 payload.pointer payload.length 0 with
    | none => roster
    | some spawnId =>
        match updateBySpawnId spawnId
            (fun existing => { existing with active := false })
            roster.entries with
        | some entries => { roster with entries := entries }
        | none => roster

/-- `Clear`. -/
def clear (_ : Roster) : Roster :=
  .initial

/-! ## Snapshots -/

/-- `BuildDisplayName`. -/
def buildDisplayName (rawName : List UInt8) : List UInt8 :=
  if 3 < rawName.length ∧ ascii "000" <:+ rawName then
    rawName.take (rawName.length - 3)
  else
    rawName

/-- `Snapshot`: the focused pet's id, and two slots for other pets. -/
structure Snapshot where
  focusedPetId : UInt32
  hasOtherPetName : Vector Bool 2
  hasOtherPetSpawnId : Vector Bool 2
  otherPetName : Vector (List UInt8) 2
  otherPetSpawnId : Vector UInt32 2
  deriving Repr, DecidableEq

/-- The default member values. -/
def Snapshot.initial : Snapshot where
  focusedPetId := 0
  hasOtherPetName := #v[false, false]
  hasOtherPetSpawnId := #v[false, false]
  otherPetName := #v[[], []]
  otherPetSpawnId := #v[0, 0]

/-- The order that candidates are sorted by. -/
def seenBefore (left right : ObservedPetEntry) : Bool :=
  if left.firstSeenOrder ≠ right.firstSeenOrder then
    decide (left.firstSeenOrder < right.firstSeenOrder)
  else
    decide (left.spawnId < right.spawnId)

/-- The loop that fills the slots, from one slot on. -/
def fillSlots : Nat → List ObservedPetEntry → Snapshot → Snapshot
  | _, [], snapshot => snapshot
  | slot, candidate :: later, snapshot =>
      if inside : slot < 2 then
        fillSlots (slot + 1) later
          { snapshot with
            hasOtherPetName := snapshot.hasOtherPetName.set slot true inside
            hasOtherPetSpawnId :=
              snapshot.hasOtherPetSpawnId.set slot true inside
            otherPetName :=
              snapshot.otherPetName.set slot
                (buildDisplayName candidate.name) inside
            otherPetSpawnId :=
              snapshot.otherPetSpawnId.set slot candidate.spawnId inside }
      else
        snapshot

/-- `GetSnapshot`, given `std::sort` and the server-auth snapshot. -/
def getSnapshot
    (sorter : Sorter seenBefore)
    (authSnapshot : ServerAuthStats.Snapshot)
    (roster : Roster) :
    Snapshot :=
  let snapshot :=
    { Snapshot.initial with
      focusedPetId := authSnapshot.focusedPetId.value }
  if !authSnapshot.focusedPetId.has ||
      decide (snapshot.focusedPetId = 0) then
    snapshot
  else
    match
      roster.entries.find? fun entry =>
        entry.active && decide (entry.spawnId = snapshot.focusedPetId) with
    | none => snapshot
    | some focusedEntry =>
        if focusedEntry.ownerId = 0 then
          snapshot
        else
          let candidates :=
            roster.entries.filter fun entry =>
              !(!entry.active ||
                decide (entry.ownerId ≠ focusedEntry.ownerId) ||
                decide (entry.spawnId = snapshot.focusedPetId) ||
                entry.name.isEmpty)
          fillSlots 0 (sorter.sort candidates) snapshot

end MonomythClient.MultiPetSpawnObserver
