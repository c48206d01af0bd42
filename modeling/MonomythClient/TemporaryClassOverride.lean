import MonomythClient.LocalPlayer

namespace MonomythClient.TemporaryClassOverride

open MulticlassIdentity LocalPlayer ProtectedMemory FlatMemory

/-!
# Temporary class overrides

To ask the game what it would answer for another class, the class fields of the
local player are overwritten for one call and written back afterwards.  The
fields are the displayed class, the class of the profile and the class of the
class record; those that cannot be read or hold no playable class are left
alone.

Every field is saved before any is overwritten, so each saved byte is the
original one of its address, also where fields overlap.
-/

/-! ## Saving, overriding, restoring -/

/-- `TemporaryLocalClassOverrideState`: a copied flag with its address and its
original class is one member. -/
structure TemporaryLocalClassOverrideState where
  active : Bool := false
  displayed : Option (UInt32 × UInt8) := none
  profile : Option (UInt32 × UInt32) := none
  classRecord : Option (UInt32 × UInt8) := none
deriving DecidableEq, Repr

namespace TemporaryLocalClassOverrideState

/-- The state that `TryApplyTemporaryLocalClassOverride` fills in before it
writes. -/
def save (moduleBase : UInt32) (memory : Memory) :
    TemporaryLocalClassOverrideState where
  displayed := tryReadLocalDisplayedClass moduleBase memory
  profile := tryResolveLocalProfileClassStorage moduleBase memory
  classRecord := tryResolveLocalCharDataClassRecordStorage moduleBase memory

/-- The saved fields with a class in them, in the order they are written. -/
def overrides
    (state : TemporaryLocalClassOverrideState)
    (classId : UInt8) :
    List Store :=
  (state.displayed.map fun saved =>
      displayedClassField saved.1 classId).toList ++
    (state.profile.map fun saved =>
      profileClassField saved.1 classId.toUInt32).toList ++
    (state.classRecord.map fun saved =>
      classRecordField saved.1 classId).toList

/-- The saved fields with their original classes in them. -/
def originals (state : TemporaryLocalClassOverrideState) : List Store :=
  (state.displayed.map fun saved =>
      displayedClassField saved.1 saved.2).toList ++
    (state.profile.map fun saved =>
      profileClassField saved.1 saved.2).toList ++
    (state.classRecord.map fun saved =>
      classRecordField saved.1 saved.2).toList

/-- Every saved field that could be written in one memory can be written in a
later one. -/
def rewritten
    (state : TemporaryLocalClassOverrideState)
    (memory later : Memory) :
    Bool :=
  state.originals.all fun store =>
    !memory.accepts store || later.accepts store

end TemporaryLocalClassOverrideState

open TemporaryLocalClassOverrideState

/-- `TryApplyTemporaryLocalClassOverride`, which returns whether the state is
active. -/
def tryApplyTemporaryLocalClassOverride
    (moduleBase : UInt32)
    (classId : UInt8)
    (memory : Memory) :
    TemporaryLocalClassOverrideState × Memory :=
  if isPlayableClassId classId.toUInt32 then
    let state := save moduleBase memory
    let overridden := memory.writeEach (state.overrides classId)
    if (state.overrides classId).any memory.accepts then
      ({ state with active := true }, overridden)
    else
      ({}, overridden)
  else
    ({}, memory)

/-- `RestoreTemporaryLocalClassOverride`. -/
def restoreTemporaryLocalClassOverride
    (state : TemporaryLocalClassOverrideState)
    (memory : Memory) :
    Memory :=
  if state.active then
    memory.writeEach state.originals
  else
    memory

/-! ## The saved fields -/

section Fields

variable
  {moduleBase : UInt32}
  {memory later : Memory}
  {state : TemporaryLocalClassOverrideState}
  {classId : UInt8}

theorem mem_toList_map
    {Saved Target : Type}
    {saved : Option Saved}
    {field : Saved → Target}
    {target : Target} :
    target ∈ (saved.map field).toList ↔
      ∃ copied, saved = some copied ∧ target = field copied := by
  cases saved <;> simp

theorem mem_overrides {store : Store} :
    store ∈ state.overrides classId ↔
      (∃ saved, state.displayed = some saved ∧
          store = displayedClassField saved.1 classId) ∨
        (∃ saved, state.profile = some saved ∧
          store = profileClassField saved.1 classId.toUInt32) ∨
        (∃ saved, state.classRecord = some saved ∧
          store = classRecordField saved.1 classId) := by
  simp only [overrides, List.mem_append, mem_toList_map, or_assoc]

theorem mem_originals {store : Store} :
    store ∈ state.originals ↔
      (∃ saved, state.displayed = some saved ∧
          store = displayedClassField saved.1 saved.2) ∨
        (∃ saved, state.profile = some saved ∧
          store = profileClassField saved.1 saved.2) ∨
        (∃ saved, state.classRecord = some saved ∧
          store = classRecordField saved.1 saved.2) := by
  simp only [originals, List.mem_append, mem_toList_map, or_assoc]

/-- What is saved is what the memory holds there. -/
theorem originals_save_saves :
    ∀ store ∈ (save moduleBase memory).originals,
      store.Saves memory.bytes := by
  intro store member
  rcases mem_originals.mp member with
    ⟨saved, found, rfl⟩ | ⟨saved, found, rfl⟩ | ⟨saved, found, rfl⟩
  · exact Memory.readByte_saves (tryReadLocalDisplayedClass_some found).2.2
  · exact Memory.readWord_saves
      (tryResolveLocalProfileClassStorage_some found).2.2
  · exact Memory.readByte_saves
      (tryResolveLocalCharDataClassRecordStorage_some found).2.2

/-- An override is written in the place of an original, and of no more
bytes. -/
theorem original_of_override
    {store : Store}
    (member : store ∈ state.overrides classId) :
    ∃ original ∈ state.originals,
      original.first = store.first ∧
        original.contents.length = store.contents.length := by
  rcases mem_overrides.mp member with
    ⟨saved, found, rfl⟩ | ⟨saved, found, rfl⟩ | ⟨saved, found, rfl⟩
  · exact ⟨_, mem_originals.mpr (.inl ⟨saved, found, rfl⟩), rfl, rfl⟩
  · exact ⟨_, mem_originals.mpr (.inr (.inl ⟨saved, found, rfl⟩)), rfl, rfl⟩
  · exact ⟨_, mem_originals.mpr (.inr (.inr ⟨saved, found, rfl⟩)), rfl, rfl⟩

/-- An address in a class field that can be read and holds a playable class. -/
inductive Overridable (moduleBase : UInt32) (memory : Memory) :
    UInt32 → Prop where
  | displayed
      {localPlayer address : UInt32}
      {classId : UInt8}
      (found :
        tryReadLocalDisplayedClass moduleBase memory =
          some (localPlayer, classId))
      (covers : (displayedClassField localPlayer classId).Covers address) :
      Overridable moduleBase memory address
  | profile
      {profile classId address : UInt32}
      (found :
        tryResolveLocalProfileClassStorage moduleBase memory =
          some (profile, classId))
      (covers : (profileClassField profile classId).Covers address) :
      Overridable moduleBase memory address
  | classRecord
      {classRecord address : UInt32}
      {classId : UInt8}
      (found :
        tryResolveLocalCharDataClassRecordStorage moduleBase memory =
          some (classRecord, classId))
      (covers : (classRecordField classRecord classId).Covers address) :
      Overridable moduleBase memory address

/-- Only such addresses are saved. -/
theorem overridable_of_original
    {store : Store}
    {address : UInt32}
    (member : store ∈ (save moduleBase memory).originals)
    (covers : store.Covers address) :
    Overridable moduleBase memory address := by
  rcases mem_originals.mp member with
    ⟨saved, found, rfl⟩ | ⟨saved, found, rfl⟩ | ⟨saved, found, rfl⟩
  · exact .displayed found covers
  · exact .profile found covers
  · exact .classRecord found covers

end Fields

/-! ## Apply and restore -/

section ApplyRestore

variable {moduleBase : UInt32} {memory later : Memory} {classId : UInt8}

/-- What apply did when its state is active. -/
theorem tryApply_active
    (active :
      (tryApplyTemporaryLocalClassOverride moduleBase classId
        memory).1.active = true) :
    tryApplyTemporaryLocalClassOverride moduleBase classId memory =
      ({ save moduleBase memory with active := true },
        memory.writeEach ((save moduleBase memory).overrides classId)) := by
  unfold tryApplyTemporaryLocalClassOverride at active ⊢
  split at active
  · dsimp only at active
    split at active
    · rename_i playable written
      rw [if_pos playable]
      exact if_pos written
    · cases active
  · cases active

/-- Apply that leaves no active state writes nothing. -/
theorem tryApply_inactive
    (inactive :
      (tryApplyTemporaryLocalClassOverride moduleBase classId
        memory).1.active = false)
    (address : UInt32) :
    (tryApplyTemporaryLocalClassOverride moduleBase classId
      memory).2.bytes address = memory.bytes address := by
  unfold tryApplyTemporaryLocalClassOverride at inactive ⊢
  split at inactive
  · dsimp only at inactive
    split at inactive
    · cases inactive
    · rename_i playable noneWritten
      rw [if_pos playable]
      dsimp only
      rw [if_neg noneWritten]
      refine Memory.writeEach_outside fun store member accepted _ => ?_
      exact noneWritten (List.any_eq_true.mpr ⟨store, member, accepted⟩)
  · rename_i notPlayable
    rw [if_neg notPlayable]

/-- Restoring undoes applying at every address that nothing else wrote. -/
theorem restore_apply
    {address : UInt32}
    (active :
      (tryApplyTemporaryLocalClassOverride moduleBase classId
        memory).1.active = true)
    (kept :
      later.bytes address =
        (tryApplyTemporaryLocalClassOverride moduleBase classId
          memory).2.bytes address)
    (rewritten :
      (tryApplyTemporaryLocalClassOverride moduleBase classId
        memory).1.rewritten memory later = true) :
    (restoreTemporaryLocalClassOverride
      (tryApplyTemporaryLocalClassOverride moduleBase classId memory).1
      later).bytes address = memory.bytes address := by
  rw [tryApply_active active] at kept rewritten ⊢
  rw [restoreTemporaryLocalClassOverride, if_pos rfl]
  refine Memory.writeEach_undo originals_save_saves kept ?_
  intro store member accepted covers
  obtain ⟨original, saved, sameFirst, sameLength⟩ :=
    original_of_override member
  have samePlace : memory.accepts original = memory.accepts store := by
    rw [Memory.accepts, Memory.accepts, sameFirst, sameLength]
  have again := List.all_eq_true.mp rewritten original saved
  rw [samePlace, accepted] at again
  refine ⟨original, saved, by simpa using again, ?_⟩
  rw [Store.Covers, sameFirst, sameLength]
  exact covers

/-- Apply writes only class fields that can be read and are playable. -/
theorem tryApply_outside
    {address : UInt32}
    (outside : ¬ Overridable moduleBase memory address) :
    (tryApplyTemporaryLocalClassOverride moduleBase classId
      memory).2.bytes address = memory.bytes address := by
  cases active :
      (tryApplyTemporaryLocalClassOverride moduleBase classId
        memory).1.active with
  | false =>
      exact tryApply_inactive active address
  | true =>
      rw [tryApply_active active]
      refine Memory.writeEach_outside fun store member _ covers => ?_
      obtain ⟨original, saved, sameFirst, sameLength⟩ :=
        original_of_override member
      refine outside (overridable_of_original saved ?_)
      rw [Store.Covers, sameFirst, sameLength]
      exact covers

/-- Restore writes no other fields either, whatever happened in between. -/
theorem restore_outside
    {address : UInt32}
    (outside : ¬ Overridable moduleBase memory address) :
    (restoreTemporaryLocalClassOverride
      (tryApplyTemporaryLocalClassOverride moduleBase classId memory).1
      later).bytes address = later.bytes address := by
  cases active :
      (tryApplyTemporaryLocalClassOverride moduleBase classId
        memory).1.active with
  | false =>
      rw [restoreTemporaryLocalClassOverride, active,
        if_neg Bool.false_ne_true]
  | true =>
      rw [tryApply_active active, restoreTemporaryLocalClassOverride,
        if_pos rfl]
      exact Memory.writeEach_outside fun store member _ covers =>
        outside (overridable_of_original member covers)

end ApplyRestore

end MonomythClient.TemporaryClassOverride
