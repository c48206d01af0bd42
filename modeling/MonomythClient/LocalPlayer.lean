import MonomythClient.MulticlassIdentity
import MonomythClient.ProtectedMemory

namespace MonomythClient.LocalPlayer

open MulticlassIdentity ProtectedMemory LittleEndian

/-!
# The local player in the game's memory

Globals at fixed distances from the module point to the local player's object
and to the character data.  The character data lead to the profile over two
pointers, and to a class record over a list of nodes.  All three objects have
a field with a class id in it.

Nothing is written here.  Each function that finds a class field returns where
its object is and the class that was read there, and finds only playable
classes.
-/

/-! ## Places -/

def kLocalCharDataGlobalRva : UInt32 := 0x009d261c
def kLocalPlayerGlobalRva : UInt32 := 0x009d2630
def kLocalPlayerCharacterOffset : UInt32 := 0x02cc
def kEqPlayerDisplayedClassOffset : UInt32 := 0x0fe0
def kCharInfoCi2Offset : UInt32 := 0x31f0
def kCi2InfoCharInfo2Offset : UInt32 := 0x0004
def kPcProfileClassOffset : UInt32 := 0x3374
def kScribeGateDescriptorTableOffset : UInt32 := 0x4
def kScribeGateRelativeOffsetField : UInt32 := 0x4
def kScribeGateLookupContextBias : UInt32 := 0x8
def kScribeGateLookupKeyOffset : UInt32 := 0x4
def kScribeGateNodeRecordOffset : UInt32 := 0x4
def kScribeGateNodeNextOffset : UInt32 := 0xc
def kScribeGateResolvedClassIdOffset : UInt32 := 0x3374
def kScribeGateMaxRelativeLookupOffset : UInt32 := 0x00100000
def kScribeGateMaxLookupNodes : Nat := 256

/-- A pointer that is not null. -/
def nonNull (pointer : Option UInt32) : Option UInt32 :=
  pointer.filter (· != 0)

theorem nonNull_eq_some
    {pointer : Option UInt32}
    {address : UInt32}
    (found : nonNull pointer = some address) :
    pointer = some address ∧ address ≠ 0 := by
  rw [nonNull, Option.filter_eq_some_iff] at found
  exact ⟨found.1, by simpa using found.2⟩

/-! ## Objects of the game -/

/-- `IsLikelyModuleAddress`; the module's base is zero while there is none. -/
def isLikelyModuleAddress (moduleBase address : UInt32) : Bool :=
  moduleBase != 0 && decide (moduleBase ≤ address) &&
    decide (address < moduleBase + 0x02000000)

/-- `LooksLikeEqgameObject`, with the table it finds. -/
def looksLikeEqgameObject
    (memory : Memory)
    (moduleBase candidate : UInt32) :
    Option UInt32 := do
  guard (candidate ≠ 0)
  let vtable ← memory.readWord candidate
  guard (isLikelyModuleAddress moduleBase vtable)
  return vtable

/-! ## Class records -/

/-- The loop of `TryResolveLookupClassRecord` over the nodes. -/
def lookupNodes
    (memory : Memory)
    (lookupKey : UInt32) :
    Nat → UInt32 → Option (UInt32 × UInt8)
  | 0, _ => none
  | unvisited + 1, node =>
      if node = 0 then
        none
      else do
        let nodeKey ← memory.readWord node
        if nodeKey = lookupKey then
          let classRecord ←
            nonNull (memory.readWord (node + kScribeGateNodeRecordOffset))
          let classId ←
            memory.readByte (classRecord + kScribeGateResolvedClassIdOffset)
          guard (isPlayableClassId classId.toUInt32)
          return (classRecord, classId)
        else
          let next ← memory.readWord (node + kScribeGateNodeNextOffset)
          lookupNodes memory lookupKey unvisited next

/-- `TryResolveLookupClassRecord`. -/
def tryResolveLookupClassRecord
    (memory : Memory)
    (thisContext : UInt32) :
    Option (UInt32 × UInt8) := do
  guard (thisContext ≠ 0)
  let descriptorTable ←
    nonNull (memory.readWord (thisContext + kScribeGateDescriptorTableOffset))
  let relativeOffset ←
    memory.readWord (descriptorTable + kScribeGateRelativeOffsetField)
  guard (relativeOffset ≠ 0 ∧
    relativeOffset ≤ kScribeGateMaxRelativeLookupOffset)
  guard (thisContext ≤
    0xffffffff - relativeOffset - kScribeGateLookupContextBias)
  let lookupContext :=
    thisContext + relativeOffset + kScribeGateLookupContextBias
  let node ← memory.readWord lookupContext
  let lookupKey ←
    memory.readWord (lookupContext + kScribeGateLookupKeyOffset)
  lookupNodes memory lookupKey kScribeGateMaxLookupNodes node

/-- What the lookup finds is the class in the record. -/
theorem lookupNodes_some
    {memory : Memory}
    {lookupKey node classRecord : UInt32}
    {unvisited : Nat}
    {classId : UInt8}
    (found :
      lookupNodes memory lookupKey unvisited node =
        some (classRecord, classId)) :
    classRecord ≠ 0 ∧
      isPlayableClassId classId.toUInt32 = true ∧
      memory.readByte (classRecord + kScribeGateResolvedClassIdOffset) =
        some classId := by
  induction unvisited generalizing node with
  | zero =>
      cases found
  | succ unvisited inductionHypothesis =>
      rw [lookupNodes] at found
      split at found
      · cases found
      · obtain ⟨nodeKey, -, found⟩ := Option.bind_eq_some_iff.mp found
        split at found
        · obtain ⟨record, recordRead, found⟩ :=
            Option.bind_eq_some_iff.mp found
          obtain ⟨class_, classRead, found⟩ :=
            Option.bind_eq_some_iff.mp found
          obtain ⟨_, playable, found⟩ := Option.bind_eq_some_iff.mp found
          obtain ⟨rfl, rfl⟩ := Prod.mk.inj (Option.some.inj found)
          exact ⟨(nonNull_eq_some recordRead).2,
            by simpa [guard] using playable, classRead⟩
        · obtain ⟨next, -, found⟩ := Option.bind_eq_some_iff.mp found
          exact inductionHypothesis found

theorem tryResolveLookupClassRecord_some
    {memory : Memory}
    {thisContext classRecord : UInt32}
    {classId : UInt8}
    (found :
      tryResolveLookupClassRecord memory thisContext =
        some (classRecord, classId)) :
    classRecord ≠ 0 ∧
      isPlayableClassId classId.toUInt32 = true ∧
      memory.readByte (classRecord + kScribeGateResolvedClassIdOffset) =
        some classId := by
  simp only [tryResolveLookupClassRecord, bind, Option.bind_eq_some_iff]
    at found
  obtain ⟨_, -, _, -, _, -, _, -, _, -, _, -, _, -, inNodes⟩ := found
  exact lookupNodes_some inNodes

/-! ## The local player's objects -/

section Objects

variable (moduleBase : UInt32) (memory : Memory)

/-- A pointer in one of the module's globals.  `GetHostModuleBase` is zero
while there is no module. -/
def tryReadGlobalPointer (globalRva : UInt32) : Option UInt32 :=
  if moduleBase = 0 then
    none
  else
    memory.readWord (moduleBase + globalRva)

/-- `TryReadLocalPlayerPointer`. -/
def tryReadLocalPlayerPointer : Option UInt32 :=
  tryReadGlobalPointer moduleBase memory kLocalPlayerGlobalRva

/-- `TryReadLocalCharDataPointer`. -/
def tryReadLocalCharDataPointer : Option UInt32 :=
  tryReadGlobalPointer moduleBase memory kLocalCharDataGlobalRva

/-- `TryReadEqPlayerDisplayedClassId`. -/
def tryReadEqPlayerDisplayedClassId (subject : UInt32) : Option UInt8 := do
  guard (subject ≠ 0)
  memory.readByte (subject + kEqPlayerDisplayedClassOffset)

/-- The displayed class of the local player's object, if it is playable. -/
def tryReadLocalDisplayedClass : Option (UInt32 × UInt8) := do
  let localPlayer ← nonNull (tryReadLocalPlayerPointer moduleBase memory)
  let displayedClassId ← tryReadEqPlayerDisplayedClassId memory localPlayer
  guard (isPlayableClassId displayedClassId.toUInt32)
  return (localPlayer, displayedClassId)

/-- The local profile. -/
def tryReadLocalProfilePointer : Option UInt32 := do
  let localCharData ← nonNull (tryReadLocalCharDataPointer moduleBase memory)
  let ci2 ← nonNull (memory.readWord (localCharData + kCharInfoCi2Offset))
  nonNull (memory.readWord (ci2 + kCi2InfoCharInfo2Offset))

/-- `TryResolveLocalProfileClassStorage`. -/
def tryResolveLocalProfileClassStorage : Option (UInt32 × UInt32) := do
  let profile ← tryReadLocalProfilePointer moduleBase memory
  let profileClassId ← memory.readWord (profile + kPcProfileClassOffset)
  guard (isPlayableClassId profileClassId)
  return (profile, profileClassId)

/-- `TryResolveLocalCharDataClassRecordStorage`. -/
def tryResolveLocalCharDataClassRecordStorage : Option (UInt32 × UInt8) := do
  let localCharData ← nonNull (tryReadLocalCharDataPointer moduleBase memory)
  tryResolveLookupClassRecord memory localCharData

/-- `TryReadLocalProfileClassId`. -/
def tryReadLocalProfileClassId : Option UInt8 :=
  (tryResolveLocalProfileClassStorage moduleBase memory).map
    fun storage => storage.2.toUInt8

/-- `TryReadLocalPlayerDisplayedClassId`. -/
def tryReadLocalPlayerDisplayedClassId : Option UInt8 :=
  ((tryReadLocalDisplayedClass moduleBase memory).map Prod.snd).or
    (tryReadLocalProfileClassId moduleBase memory)

/-- `TryReadLocalPlayerCharacterPointer`. -/
def tryReadLocalPlayerCharacterPointer : Option UInt32 := do
  let localPlayer ← nonNull (tryReadLocalPlayerPointer moduleBase memory)
  memory.readWord (localPlayer + kLocalPlayerCharacterOffset)

/-- `IsLocalPlayerCharacterContext`. -/
def isLocalPlayerCharacterContext (thisContext : UInt32) : Bool :=
  thisContext != 0 &&
    (tryReadLocalPlayerPointer moduleBase memory == some thisContext ||
      tryReadLocalPlayerCharacterPointer moduleBase memory ==
        some thisContext)

/-- `IsLocalCharDataContext`. -/
def isLocalCharDataContext (thisContext : UInt32) : Bool :=
  thisContext != 0 &&
    tryReadLocalCharDataPointer moduleBase memory == some thisContext

end Objects

/-! ## Class fields -/

/-- The displayed class of a player's object. -/
def displayedClassField (localPlayer : UInt32) (classId : UInt8) : Store :=
  ⟨localPlayer + kEqPlayerDisplayedClassOffset, [classId]⟩

/-- The class of a profile. -/
def profileClassField (profile classId : UInt32) : Store :=
  ⟨profile + kPcProfileClassOffset, bytes32 classId⟩

/-- The class of a class record. -/
def classRecordField (classRecord : UInt32) (classId : UInt8) : Store :=
  ⟨classRecord + kScribeGateResolvedClassIdOffset, [classId]⟩

/-! ## What is found -/

section Found

variable {moduleBase : UInt32} {memory : Memory}

theorem tryReadLocalDisplayedClass_some
    {localPlayer : UInt32}
    {classId : UInt8}
    (found :
      tryReadLocalDisplayedClass moduleBase memory =
        some (localPlayer, classId)) :
    nonNull (tryReadLocalPlayerPointer moduleBase memory) =
        some localPlayer ∧
      isPlayableClassId classId.toUInt32 = true ∧
      memory.readByte (localPlayer + kEqPlayerDisplayedClassOffset) =
        some classId := by
  simp only [tryReadLocalDisplayedClass, tryReadEqPlayerDisplayedClassId,
    bind, Option.bind_eq_some_iff] at found
  obtain ⟨player, pointer, class_, ⟨_, -, classRead⟩, _, playable, same⟩ :=
    found
  obtain ⟨rfl, rfl⟩ := Prod.mk.inj (Option.some.inj same)
  exact ⟨pointer, by simpa [guard] using playable, classRead⟩

theorem tryResolveLocalProfileClassStorage_some
    {profile classId : UInt32}
    (found :
      tryResolveLocalProfileClassStorage moduleBase memory =
        some (profile, classId)) :
    tryReadLocalProfilePointer moduleBase memory = some profile ∧
      isPlayableClassId classId = true ∧
      memory.readWord (profile + kPcProfileClassOffset) = some classId := by
  simp only [tryResolveLocalProfileClassStorage, bind,
    Option.bind_eq_some_iff] at found
  obtain ⟨_, pointer, class_, classRead, _, playable, same⟩ := found
  obtain ⟨rfl, rfl⟩ := Prod.mk.inj (Option.some.inj same)
  exact ⟨pointer, by simpa [guard] using playable, classRead⟩

theorem tryResolveLocalCharDataClassRecordStorage_some
    {classRecord : UInt32}
    {classId : UInt8}
    (found :
      tryResolveLocalCharDataClassRecordStorage moduleBase memory =
        some (classRecord, classId)) :
    classRecord ≠ 0 ∧
      isPlayableClassId classId.toUInt32 = true ∧
      memory.readByte (classRecord + kScribeGateResolvedClassIdOffset) =
        some classId := by
  simp only [tryResolveLocalCharDataClassRecordStorage, bind,
    Option.bind_eq_some_iff] at found
  obtain ⟨_, -, inRecords⟩ := found
  exact tryResolveLookupClassRecord_some inRecords

end Found

/-! ## A memory -/

/-- A warrior's memory for a module at `0x400000`: the profile is the class
record as well, and holds 100 mana. -/
def warriorMemory : Memory :=
  (Memory.mk (fun _ => 0) (fun _ => true) (fun _ => true)).writeEach
    [⟨0x400000 + kLocalPlayerGlobalRva, bytes32 0x10000000⟩,
      ⟨0x400000 + kLocalCharDataGlobalRva, bytes32 0x11000000⟩,
      displayedClassField 0x10000000 1,
      ⟨0x11000000 + kCharInfoCi2Offset, bytes32 0x12000000⟩,
      ⟨0x12000000 + kCi2InfoCharInfo2Offset, bytes32 0x13000000⟩,
      profileClassField 0x13000000 1,
      ⟨0x1300338c, bytes32 100⟩,
      ⟨0x11000000 + kScribeGateDescriptorTableOffset, bytes32 0x14000000⟩,
      ⟨0x14000000 + kScribeGateRelativeOffsetField, bytes32 0x100⟩,
      ⟨0x11000108, bytes32 0x15000000⟩,
      ⟨0x11000108 + kScribeGateLookupKeyOffset, bytes32 7⟩,
      ⟨0x15000000, bytes32 7⟩,
      ⟨0x15000000 + kScribeGateNodeRecordOffset, bytes32 0x13000000⟩]

end MonomythClient.LocalPlayer
