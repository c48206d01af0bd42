import MonomythClient.Runs
import MonomythClient.TemporaryClassOverride

namespace MonomythClient.TrainerSessions

open MulticlassIdentity LocalPlayer TemporaryClassOverride
open ProtectedMemory FlatMemory LittleEndian Runs

/-!
# Trainer sessions

From the packet that opens a session with a guild trainer to the packet that
ends it the local player has the trainer's class: the displayed class and the
class of the profile are overwritten, and what was there is kept in a global.

As long as nothing else writes these two fields and the objects they are in
stay the same, every sequence of sessions restores them exactly.
-/

/-! ## Apply and restore -/

/-- `GuildTrainerSessionClassOverrideState`: a copied flag with its address and
its original class is one member. -/
structure GuildTrainerSessionClassOverrideState where
  active : Bool := false
  activeClassId : UInt8 := 0
  displayed : Option (UInt32 × UInt8) := none
  profile : Option (UInt32 × UInt32) := none
deriving DecidableEq, Repr

namespace GuildTrainerSessionClassOverrideState

/-- The state that `ApplyGuildTrainerSessionClassOverride` fills in before it
writes. -/
def save
    (moduleBase : UInt32)
    (classId : UInt8)
    (memory : Memory) :
    GuildTrainerSessionClassOverrideState where
  active := true
  activeClassId := classId
  displayed := tryReadLocalDisplayedClass moduleBase memory
  profile := tryResolveLocalProfileClassStorage moduleBase memory

/-- The saved fields with the trainer's class in them. -/
def overrides (session : GuildTrainerSessionClassOverrideState) :
    List Store :=
  (session.displayed.map fun saved =>
      displayedClassField saved.1 session.activeClassId).toList ++
    (session.profile.map fun saved =>
      profileClassField saved.1 session.activeClassId.toUInt32).toList

/-- The saved fields with their original classes in them. -/
def originals (session : GuildTrainerSessionClassOverrideState) :
    List Store :=
  (session.displayed.map fun saved =>
      displayedClassField saved.1 saved.2).toList ++
    (session.profile.map fun saved =>
      profileClassField saved.1 saved.2).toList

end GuildTrainerSessionClassOverrideState

open GuildTrainerSessionClassOverrideState

/-- The global with the session, and the memory. -/
structure State where
  session : GuildTrainerSessionClassOverrideState
  memory : Memory

/-- Before any session. -/
def State.initial (memory : Memory) : State :=
  ⟨{}, memory⟩

/-- `RestoreGuildTrainerSessionClassOverride`. -/
def restoreGuildTrainerSessionClassOverride (state : State) : State :=
  if state.session.active then
    ⟨{}, state.memory.writeEach state.session.originals⟩
  else
    state

/-- The second half of `ApplyGuildTrainerSessionClassOverride`, with no other
session left. -/
def openSession
    (moduleBase : UInt32)
    (classId : UInt8)
    (memory : Memory) :
    State :=
  let session := save moduleBase classId memory
  ⟨if session.overrides.any memory.accepts then session else {},
    memory.writeEach session.overrides⟩

/-- `ApplyGuildTrainerSessionClassOverride` returns before it does anything. -/
def State.returnsEarly (state : State) (classId : UInt8) : Bool :=
  !isPlayableClassId classId.toUInt32 ||
    (state.session.active && state.session.activeClassId == classId)

/-- `ApplyGuildTrainerSessionClassOverride`. -/
def applyGuildTrainerSessionClassOverride
    (moduleBase : UInt32)
    (classId : UInt8)
    (state : State) :
    State :=
  if state.returnsEarly classId then
    state
  else
    openSession moduleBase classId
      (restoreGuildTrainerSessionClassOverride state).memory

/-! ## Saved fields -/

section Fields

variable
  {moduleBase : UInt32}
  {session : GuildTrainerSessionClassOverrideState}
  {classId : UInt8}
  {memory : Memory}
  {store : Store}

theorem mem_overrides :
    store ∈ session.overrides ↔
      (∃ saved, session.displayed = some saved ∧
          store = displayedClassField saved.1 session.activeClassId) ∨
        (∃ saved, session.profile = some saved ∧
          store =
            profileClassField saved.1 session.activeClassId.toUInt32) := by
  simp only [overrides, List.mem_append, mem_toList_map]

theorem mem_originals :
    store ∈ session.originals ↔
      (∃ saved, session.displayed = some saved ∧
          store = displayedClassField saved.1 saved.2) ∨
        (∃ saved, session.profile = some saved ∧
          store = profileClassField saved.1 saved.2) := by
  simp only [originals, List.mem_append, mem_toList_map]

/-- An override has the place of an original. -/
theorem original_of_override
    (member : store ∈ session.overrides) :
    ∃ original ∈ session.originals,
      original.first = store.first ∧
        original.contents.length = store.contents.length := by
  rcases mem_overrides.mp member with ⟨saved, found, rfl⟩ | ⟨saved, found, rfl⟩
  · exact ⟨_, mem_originals.mpr (.inl ⟨saved, found, rfl⟩), rfl, rfl⟩
  · exact ⟨_, mem_originals.mpr (.inr ⟨saved, found, rfl⟩), rfl, rfl⟩

/-- What is saved is what the memory holds there. -/
theorem originals_save_saves :
    ∀ original ∈ (save moduleBase classId memory).originals,
      original.Saves memory.bytes := by
  intro original member
  rcases mem_originals.mp member with ⟨saved, found, rfl⟩ | ⟨saved, found, rfl⟩
  · exact Memory.readByte_saves (tryReadLocalDisplayedClass_some found).2.2
  · exact Memory.readWord_saves
      (tryResolveLocalProfileClassStorage_some found).2.2

/-- An open session is the one that was saved. -/
theorem session_openSession
    (active :
      (openSession moduleBase classId memory).session.active = true) :
    (openSession moduleBase classId memory).session =
      save moduleBase classId memory := by
  unfold openSession at active ⊢
  dsimp only at active ⊢
  split at active
  · rename_i written
    rw [if_pos written]
  · cases active

end Fields

/-! ## Sequences of sessions -/

/-- Calls of apply and restore, and what happens to the memory between them. -/
inductive Event where
  | apply (classId : UInt8)
  | restore
  | change (effect : Memory → Memory)

/-- What an event does. -/
def State.step (moduleBase : UInt32) (state : State) : Event → State
  | .apply classId =>
      applyGuildTrainerSessionClassOverride moduleBase classId state
  | .restore => restoreGuildTrainerSessionClassOverride state
  | .change effect => { state with memory := effect state.memory }

/-- An address in the displayed class of the local player or in the class of
the local profile. -/
def ClassFieldAt
    (moduleBase : UInt32)
    (memory : Memory)
    (address : UInt32) :
    Prop :=
  (∃ localPlayer,
      nonNull (tryReadLocalPlayerPointer moduleBase memory) =
          some localPlayer ∧
        InRange (localPlayer + kEqPlayerDisplayedClassOffset) 1 address) ∨
    ∃ profile,
      tryReadLocalProfilePointer moduleBase memory = some profile ∧
        InRange (profile + kPcProfileClassOffset) 4 address

/-- Two memories have the same local player and profile. -/
def SameObjects (moduleBase : UInt32) (memory later : Memory) : Prop :=
  tryReadLocalPlayerPointer moduleBase later =
      tryReadLocalPlayerPointer moduleBase memory ∧
    tryReadLocalProfilePointer moduleBase later =
      tryReadLocalProfilePointer moduleBase memory

instance (moduleBase : UInt32) (memory later : Memory) :
    Decidable (SameObjects moduleBase memory later) :=
  inferInstanceAs (Decidable (_ ∧ _))

/-- An event leaves the local player and the profile the ones they were at
first, and only apply and restore write their class fields, the access to which
stays what it is. -/
def Undisturbed
    (moduleBase : UInt32)
    (initial : Memory)
    (state : State) :
    Event → Prop
  | .apply classId =>
      state.returnsEarly classId ∨
        (SameObjects moduleBase initial
            (restoreGuildTrainerSessionClassOverride state).memory ∧
          SameObjects moduleBase initial
            (applyGuildTrainerSessionClassOverride moduleBase classId
              state).memory)
  | .restore =>
      SameObjects moduleBase initial
        (restoreGuildTrainerSessionClassOverride state).memory
  | .change effect =>
      SameObjects moduleBase initial (effect state.memory) ∧
        ∀ address, ClassFieldAt moduleBase initial address →
          (effect state.memory).bytes address =
              state.memory.bytes address ∧
            (effect state.memory).readable address =
              state.memory.readable address ∧
            (effect state.memory).writable address =
              state.memory.writable address

/-! ## What a run preserves -/

section Preserved

variable {moduleBase : UInt32} {initial : Memory}

/-- The local player, the profile, and the access to their class fields are
those of the first memory. -/
structure SameFields
    (moduleBase : UInt32)
    (initial later : Memory) :
    Prop where
  objects : SameObjects moduleBase initial later
  readable :
    ∀ address, ClassFieldAt moduleBase initial address →
      later.readable address = initial.readable address
  writable :
    ∀ address, ClassFieldAt moduleBase initial address →
      later.writable address = initial.writable address

/-- The class fields of a memory under a session: the original ones, as far as
they are not overridden. -/
def underSession
    (moduleBase : UInt32)
    (initial : Memory)
    (session : GuildTrainerSessionClassOverrideState) :
    Memory :=
  if session.active then
    initial.writeEach
      (save moduleBase session.activeClassId initial).overrides
  else
    initial

/-- A state between two events. -/
structure Sound
    (moduleBase : UInt32)
    (initial : Memory)
    (state : State) :
    Prop where
  fields : SameFields moduleBase initial state.memory
  saved :
    state.session.active = true →
      state.session =
        save moduleBase state.session.activeClassId initial
  bytes :
    ∀ address, ClassFieldAt moduleBase initial address →
      state.memory.bytes address =
        (underSession moduleBase initial state.session).bytes address

theorem SameFields.writeEach
    {later : Memory}
    {stores : List Store}
    (same : SameFields moduleBase initial later)
    (objects : SameObjects moduleBase initial (later.writeEach stores)) :
    SameFields moduleBase initial (later.writeEach stores) where
  objects := objects
  readable := by
    rw [Memory.readable_writeEach]
    exact same.readable
  writable := by
    rw [Memory.writable_writeEach]
    exact same.writable

/-- A saved field is a class field. -/
theorem classFieldAt_of_original
    {classId : UInt8}
    {original : Store}
    {address : UInt32}
    (member : original ∈ (save moduleBase classId initial).originals)
    (covers : original.Covers address) :
    ClassFieldAt moduleBase initial address := by
  rcases mem_originals.mp member with ⟨saved, found, rfl⟩ | ⟨saved, found, rfl⟩
  · exact .inl ⟨_, (tryReadLocalDisplayedClass_some found).1, covers⟩
  · exact .inr ⟨_, (tryResolveLocalProfileClassStorage_some found).1, covers⟩

theorem length_original
    {session : GuildTrainerSessionClassOverrideState}
    {original : Store}
    (member : original ∈ session.originals) :
    original.contents.length ≤ 2 ^ 32 := by
  rcases mem_originals.mp member with ⟨saved, found, rfl⟩ | ⟨saved, found, rfl⟩
  · have fits : 1 ≤ 2 ^ 32 := by decide
    exact fits
  · have fits : 4 ≤ 2 ^ 32 := by decide
    exact fits

/-- Whether a class field can be written does not change. -/
theorem SameFields.accepts_original
    {later : Memory}
    {classId : UInt8}
    {original : Store}
    (same : SameFields moduleBase initial later)
    (member : original ∈ (save moduleBase classId initial).originals) :
    later.accepts original = initial.accepts original :=
  accessible_congr (length_original member) fun address inside =>
    same.writable address (classFieldAt_of_original member inside)

theorem SameFields.accepts_override
    {later : Memory}
    {classId : UInt8}
    {store : Store}
    (same : SameFields moduleBase initial later)
    (member : store ∈ (save moduleBase classId initial).overrides) :
    later.accepts store = initial.accepts store := by
  obtain ⟨original, saved, sameFirst, sameLength⟩ :=
    original_of_override member
  have sameAccess := same.accepts_original saved
  rw [Memory.accepts, Memory.accepts, sameFirst, sameLength] at sameAccess
  exact sameAccess

/-- While the class fields are the original ones they are saved as they are. -/
theorem SameFields.save_eq
    {later : Memory}
    (same : SameFields moduleBase initial later)
    (bytes :
      ∀ address, ClassFieldAt moduleBase initial address →
        later.bytes address = initial.bytes address)
    (classId : UInt8) :
    save moduleBase classId later = save moduleBase classId initial := by
  have displayed :
      tryReadLocalDisplayedClass moduleBase later =
        tryReadLocalDisplayedClass moduleBase initial := by
    unfold tryReadLocalDisplayedClass
    rw [same.objects.1]
    cases found : nonNull (tryReadLocalPlayerPointer moduleBase initial) with
    | none =>
        simp only [bind, Option.bind_none]
    | some localPlayer =>
        have sameRead :
            later.readByte (localPlayer + kEqPlayerDisplayedClassOffset) =
              initial.readByte
                (localPlayer + kEqPlayerDisplayedClassOffset) := by
          have inField :
              ∀ address,
                InRange (localPlayer + kEqPlayerDisplayedClassOffset) 1
                    address →
                  ClassFieldAt moduleBase initial address :=
            fun address inside => .inl ⟨localPlayer, found, inside⟩
          exact Memory.readByte_congr
            (fun address inside => bytes address (inField address inside))
            (fun address inside =>
              same.readable address (inField address inside))
        simp only [tryReadEqPlayerDisplayedClassId, bind, Option.bind_some,
          sameRead]
  have profile :
      tryResolveLocalProfileClassStorage moduleBase later =
        tryResolveLocalProfileClassStorage moduleBase initial := by
    unfold tryResolveLocalProfileClassStorage
    rw [same.objects.2]
    cases found : tryReadLocalProfilePointer moduleBase initial with
    | none =>
        simp only [bind, Option.bind_none]
    | some profile =>
        have inField :
            ∀ address,
              InRange (profile + kPcProfileClassOffset) 4 address →
                ClassFieldAt moduleBase initial address :=
          fun address inside => .inr ⟨profile, found, inside⟩
        have sameRead :
            later.readWord (profile + kPcProfileClassOffset) =
              initial.readWord (profile + kPcProfileClassOffset) :=
          Memory.readWord_congr
            (fun address inside => bytes address (inField address inside))
            (fun address inside =>
              same.readable address (inField address inside))
        simp only [bind, Option.bind_some, sameRead]
  rw [save, save, displayed, profile]

/-! ## Each step -/

theorem underSession_inactive
    {session : GuildTrainerSessionClassOverrideState}
    (inactive : session.active = false) :
    underSession moduleBase initial session = initial := by
  rw [underSession, inactive, if_neg Bool.false_ne_true]

theorem underSession_active
    {session : GuildTrainerSessionClassOverrideState}
    (active : session.active = true) :
    underSession moduleBase initial session =
      initial.writeEach
        (save moduleBase session.activeClassId initial).overrides := by
  rw [underSession, if_pos active]

theorem sound_initial : Sound moduleBase initial (State.initial initial) where
  fields := ⟨⟨rfl, rfl⟩, fun _ _ => rfl, fun _ _ => rfl⟩
  saved := fun active => nomatch active
  bytes := fun _ _ => rfl

/-- Restoring ends the session and brings the original fields back. -/
theorem Sound.restore
    {state : State}
    (sound : Sound moduleBase initial state)
    (objects :
      SameObjects moduleBase initial
        (restoreGuildTrainerSessionClassOverride state).memory) :
    Sound moduleBase initial
        (restoreGuildTrainerSessionClassOverride state) ∧
      (restoreGuildTrainerSessionClassOverride
        state).session.active = false := by
  unfold restoreGuildTrainerSessionClassOverride at objects ⊢
  split at objects
  · rename_i active
    rw [if_pos active]
    refine ⟨⟨sound.fields.writeEach objects, (fun active => nomatch active),
      fun address inField => ?_⟩, rfl⟩
    have kept := sound.bytes address inField
    rw [underSession_active active] at kept
    rw [underSession_inactive rfl, sound.saved active]
    refine Memory.writeEach_undo originals_save_saves kept ?_
    intro store member accepted covers
    obtain ⟨original, saved, sameFirst, sameLength⟩ :=
      original_of_override member
    refine ⟨original, saved, ?_, ?_⟩
    · rw [sound.fields.accepts_original saved, Memory.accepts, sameFirst,
        sameLength]
      exact accepted
    · rw [Store.Covers, sameFirst, sameLength]
      exact covers
  · rename_i inactive
    rw [if_neg inactive]
    exact ⟨sound, Bool.eq_false_iff.mpr inactive⟩

/-- Opening a session over the original fields overrides them. -/
theorem Sound.open
    {state : State}
    (sound : Sound moduleBase initial state)
    (inactive : state.session.active = false)
    (classId : UInt8)
    (objects :
      SameObjects moduleBase initial
        (openSession moduleBase classId state.memory).memory) :
    Sound moduleBase initial
      (openSession moduleBase classId state.memory) := by
  have original :
      ∀ address, ClassFieldAt moduleBase initial address →
        state.memory.bytes address = initial.bytes address := by
    intro address inField
    have kept := sound.bytes address inField
    rw [underSession_inactive inactive] at kept
    exact kept
  have sameAccess :
      ∀ store ∈ (save moduleBase classId initial).overrides,
        state.memory.accepts store = initial.accepts store :=
    fun store member => sound.fields.accepts_override member
  have sameSave := sound.fields.save_eq original classId
  refine ⟨sound.fields.writeEach objects, fun active => ?_,
    fun address inField => ?_⟩
  · rw [session_openSession active, sameSave]
    rfl
  · unfold openSession
    rw [sameSave]
    dsimp only
    split
    · rw [underSession_active rfl]
      exact Memory.writeEach_congr sameAccess (original address inField)
    · rename_i noneWritten
      rw [underSession_inactive rfl, Memory.writeEach_outside,
        original address inField]
      intro store member accepted _
      exact noneWritten (List.any_eq_true.mpr ⟨store, member, accepted⟩)

/-- Every undisturbed step keeps the fields sound. -/
theorem Sound.step
    (state : State)
    (event : Event)
    (sound : Sound moduleBase initial state)
    (undisturbed : Undisturbed moduleBase initial state event) :
    Sound moduleBase initial (state.step moduleBase event) := by
  cases event with
  | apply classId =>
      change Sound moduleBase initial
        (applyGuildTrainerSessionClassOverride moduleBase classId state)
      unfold applyGuildTrainerSessionClassOverride
      split
      · exact sound
      · rename_i opens
        obtain ⟨sameRestored, sameApplied⟩ :=
          undisturbed.resolve_left opens
        obtain ⟨restored, inactive⟩ := sound.restore sameRestored
        rw [applyGuildTrainerSessionClassOverride, if_neg opens]
          at sameApplied
        exact restored.open inactive classId sameApplied
  | restore =>
      exact (sound.restore undisturbed).1
  | change effect =>
      obtain ⟨objects, kept⟩ := undisturbed
      exact
        { fields :=
            { objects := objects
              readable := fun address inField =>
                (kept address inField).2.1.trans
                  (sound.fields.readable address inField)
              writable := fun address inField =>
                (kept address inField).2.2.trans
                  (sound.fields.writable address inField) }
          saved := sound.saved
          bytes := fun address inField =>
            (kept address inField).1.trans (sound.bytes address inField) }

/-- So does every undisturbed run. -/
theorem sound_run
    {events : List Event}
    (undisturbed :
      Along (State.step moduleBase) (Undisturbed moduleBase initial)
        (State.initial initial) events) :
    Sound moduleBase initial
      (run (State.step moduleBase) (State.initial initial) events) :=
  invariant_along Sound.step sound_initial undisturbed

end Preserved

/-! ## What is in the fields -/

/-- The two class fields do not overlap, so that neither of them is written
through the other. -/
def FieldsApart (moduleBase : UInt32) (memory : Memory) : Prop :=
  ∀ localPlayer profile,
    nonNull (tryReadLocalPlayerPointer moduleBase memory) =
      some localPlayer →
    tryReadLocalProfilePointer moduleBase memory = some profile →
    ∀ address,
      InRange (localPlayer + kEqPlayerDisplayedClassOffset) 1 address →
        ¬ InRange (profile + kPcProfileClassOffset) 4 address

section Contents

variable {moduleBase : UInt32} {initial : Memory} {classId : UInt8}

/-- The override of the displayed class. -/
theorem displayedOverride_save
    {localPlayer : UInt32}
    (found :
      nonNull (tryReadLocalPlayerPointer moduleBase initial) =
        some localPlayer) :
    ((save moduleBase classId initial).displayed.map fun saved =>
        displayedClassField saved.1
          (save moduleBase classId initial).activeClassId).toList =
      if (tryReadLocalDisplayedClass moduleBase initial).isSome then
        [displayedClassField localPlayer classId]
      else
        [] := by
  rw [save]
  dsimp only
  cases copied : tryReadLocalDisplayedClass moduleBase initial with
  | none =>
      rfl
  | some saved =>
      have sameObject : saved.1 = localPlayer :=
        Option.some.inj
          ((tryReadLocalDisplayedClass_some copied).1.symm.trans found)
      rw [← sameObject]
      rfl

/-- The override of the profile's class. -/
theorem profileOverride_save
    {profile : UInt32}
    (found :
      tryReadLocalProfilePointer moduleBase initial = some profile) :
    ((save moduleBase classId initial).profile.map fun saved =>
        profileClassField saved.1
          (save moduleBase classId initial).activeClassId.toUInt32).toList =
      if (tryResolveLocalProfileClassStorage moduleBase initial).isSome then
        [profileClassField profile classId.toUInt32]
      else
        [] := by
  rw [save]
  dsimp only
  cases copied : tryResolveLocalProfileClassStorage moduleBase initial with
  | none =>
      rfl
  | some saved =>
      have sameObject : saved.1 = profile :=
        Option.some.inj
          ((tryResolveLocalProfileClassStorage_some copied).1.symm.trans
            found)
      rw [← sameObject]
      rfl

/-- The displayed class under a session. -/
theorem overrides_displayed
    (apart : FieldsApart moduleBase initial)
    {localPlayer : UInt32}
    (found :
      nonNull (tryReadLocalPlayerPointer moduleBase initial) =
        some localPlayer) :
    (initial.writeEach
        (save moduleBase classId initial).overrides).range
        (localPlayer + kEqPlayerDisplayedClassOffset) 1 =
      if (tryReadLocalDisplayedClass moduleBase initial).isSome ∧
          initial.accepts (displayedClassField localPlayer classId) then
        [classId]
      else
        initial.range (localPlayer + kEqPlayerDisplayedClassOffset) 1 := by
  have fits : 1 ≤ 2 ^ 32 := by decide
  rw [overrides, Memory.writeEach_append,
    Memory.range_writeEach_apart fits, displayedOverride_save found]
  · have written :=
      Memory.range_write_whole initial
        (localPlayer + kEqPlayerDisplayedClassOffset) [classId] fits
    cases (tryReadLocalDisplayedClass moduleBase initial).isSome with
    | false =>
        simp
    | true =>
        simpa [displayedClassField] using written
  · intro store member address inside covers
    obtain ⟨saved, copied, rfl⟩ := mem_toList_map.mp member
    exact apart localPlayer saved.1 found
      (tryResolveLocalProfileClassStorage_some copied).1 address inside
      covers

/-- The class of the profile under a session. -/
theorem overrides_profile
    (apart : FieldsApart moduleBase initial)
    {profile : UInt32}
    (found :
      tryReadLocalProfilePointer moduleBase initial = some profile) :
    (initial.writeEach
        (save moduleBase classId initial).overrides).range
        (profile + kPcProfileClassOffset) 4 =
      if (tryResolveLocalProfileClassStorage moduleBase initial).isSome ∧
          initial.accepts
            (profileClassField profile classId.toUInt32) then
        bytes32 classId.toUInt32
      else
        initial.range (profile + kPcProfileClassOffset) 4 := by
  have fits : 4 ≤ 2 ^ 32 := by decide
  rw [overrides, Memory.writeEach_append]
  generalize displayedStores :
    ((save moduleBase classId initial).displayed.map fun saved =>
      displayedClassField saved.1
        (save moduleBase classId initial).activeClassId).toList = displayed
  have displayedApart :
      (initial.writeEach displayed).range
          (profile + kPcProfileClassOffset) 4 =
        initial.range (profile + kPcProfileClassOffset) 4 := by
    refine Memory.range_writeEach_apart fits ?_
    intro store member address inside covers
    rw [← displayedStores] at member
    obtain ⟨saved, copied, rfl⟩ := mem_toList_map.mp member
    exact apart saved.1 profile (tryReadLocalDisplayedClass_some copied).1
      found address covers inside
  rw [profileOverride_save found]
  have written :=
    Memory.range_write_whole (initial.writeEach displayed)
      (profile + kPcProfileClassOffset) (bytes32 classId.toUInt32) fits
  rw [length_bytes32, displayedApart, Memory.accepts_writeEach] at written
  cases (tryResolveLocalProfileClassStorage moduleBase initial).isSome with
  | false =>
      simpa using displayedApart
  | true =>
      simpa [profileClassField] using written

/-- The displayed class in a sound state. -/
theorem Sound.displayed_range
    {state : State}
    (apart : FieldsApart moduleBase initial)
    (sound : Sound moduleBase initial state)
    {localPlayer : UInt32}
    (found :
      nonNull (tryReadLocalPlayerPointer moduleBase initial) =
        some localPlayer) :
    state.memory.range (localPlayer + kEqPlayerDisplayedClassOffset) 1 =
      if state.session.active ∧
          (tryReadLocalDisplayedClass moduleBase initial).isSome ∧
          initial.accepts (displayedClassField localPlayer 0) then
        [state.session.activeClassId]
      else
        initial.range (localPlayer + kEqPlayerDisplayedClassOffset) 1 := by
  have fits : 1 ≤ 2 ^ 32 := by decide
  rw [Memory.range_congr fits fun address inside =>
    sound.bytes address (.inl ⟨localPlayer, found, inside⟩)]
  cases active : state.session.active with
  | false =>
      rw [underSession_inactive active]
      simp
  | true =>
      rw [underSession_active active, overrides_displayed apart found]
      simp only [true_and]
      rfl

/-- The class of the profile in a sound state. -/
theorem Sound.profile_range
    {state : State}
    (apart : FieldsApart moduleBase initial)
    (sound : Sound moduleBase initial state)
    {profile : UInt32}
    (found :
      tryReadLocalProfilePointer moduleBase initial = some profile) :
    state.memory.range (profile + kPcProfileClassOffset) 4 =
      if state.session.active ∧
          (tryResolveLocalProfileClassStorage moduleBase initial).isSome ∧
          initial.accepts (profileClassField profile 0) then
        bytes32 state.session.activeClassId.toUInt32
      else
        initial.range (profile + kPcProfileClassOffset) 4 := by
  have fits : 4 ≤ 2 ^ 32 := by decide
  rw [Memory.range_congr fits fun address inside =>
    sound.bytes address (.inr ⟨profile, found, inside⟩)]
  cases active : state.session.active with
  | false =>
      rw [underSession_inactive active]
      simp
  | true =>
      rw [underSession_active active, overrides_profile apart found]
      simp only [true_and]
      rfl

/-- The class that is read from the profile in a sound state: the one of a
session that overrides it, or the original one. -/
theorem Sound.profileClassId
    {state : State}
    (apart : FieldsApart moduleBase initial)
    (sound : Sound moduleBase initial state)
    (read :
      tryReadLocalProfileClassId moduleBase state.memory = some classId) :
    (state.session.active = true ∧
        (∃ profile,
          tryReadLocalProfilePointer moduleBase initial = some profile ∧
            initial.accepts (profileClassField profile 0) = true) ∧
        classId = state.session.activeClassId) ∨
      tryReadLocalProfileClassId moduleBase initial = some classId := by
  obtain ⟨⟨profile, word⟩, resolved, rfl⟩ := Option.map_eq_some_iff.mp read
  obtain ⟨pointer, playable, wordRead⟩ :=
    tryResolveLocalProfileClassStorage_some resolved
  rw [sound.fields.objects.2] at pointer
  have contents := sound.profile_range apart pointer
  split at contents
  · rename_i overridden
    rw [Memory.range_of_readWord wordRead] at contents
    have sameWord := bytes32_inj contents
    refine .inl ⟨overridden.1, ⟨profile, pointer, overridden.2.2⟩, ?_⟩
    rw [sameWord]
    exact UInt8.toUInt8_toUInt32 _
  · right
    have sameRead := Memory.readWord_of_range contents fun address inside =>
      sound.fields.readable address (.inr ⟨profile, pointer, inside⟩)
    rw [tryReadLocalProfileClassId, tryResolveLocalProfileClassStorage,
      pointer]
    rw [sameRead] at wordRead
    simp [wordRead, playable]

/-- Between the events of an undisturbed run the class fields hold what they
held first, except that a session's class is in those that could be read, were
playable and can be written. -/
theorem trainer_sessions_undone
    (apart : FieldsApart moduleBase initial)
    (events : List Event)
    (undisturbed :
      Along (State.step moduleBase) (Undisturbed moduleBase initial)
        (State.initial initial) events) :
    (∀ localPlayer,
      nonNull (tryReadLocalPlayerPointer moduleBase initial) =
        some localPlayer →
      (run (State.step moduleBase) (State.initial initial)
          events).memory.range
          (localPlayer + kEqPlayerDisplayedClassOffset) 1 =
        if (run (State.step moduleBase) (State.initial initial)
              events).session.active ∧
            (tryReadLocalDisplayedClass moduleBase initial).isSome ∧
            initial.accepts (displayedClassField localPlayer 0) then
          [(run (State.step moduleBase) (State.initial initial)
            events).session.activeClassId]
        else
          initial.range (localPlayer + kEqPlayerDisplayedClassOffset) 1) ∧
      ∀ profile,
        tryReadLocalProfilePointer moduleBase initial = some profile →
        (run (State.step moduleBase) (State.initial initial)
            events).memory.range (profile + kPcProfileClassOffset) 4 =
          if (run (State.step moduleBase) (State.initial initial)
                events).session.active ∧
              (tryResolveLocalProfileClassStorage moduleBase
                initial).isSome ∧
              initial.accepts (profileClassField profile 0) then
            bytes32
              (run (State.step moduleBase) (State.initial initial)
                events).session.activeClassId.toUInt32
          else
            initial.range (profile + kPcProfileClassOffset) 4 :=
  ⟨fun _ found => (sound_run undisturbed).displayed_range apart found,
    fun _ found => (sound_run undisturbed).profile_range apart found⟩

end Contents

/-- The class fields of a warrior's objects. -/
theorem fieldsApart_of_objects
    {memory : Memory}
    (player :
      nonNull (tryReadLocalPlayerPointer 0x400000 memory) =
        some 0x10000000)
    (profile :
      tryReadLocalProfilePointer 0x400000 memory = some 0x13000000) :
    FieldsApart 0x400000 memory := by
  intro localPlayer localProfile foundPlayer foundProfile address inside
    covers
  obtain rfl := Option.some.inj (player.symm.trans foundPlayer)
  obtain rfl := Option.some.inj (profile.symm.trans foundProfile)
  rw [InRange, offsetFrom, UInt32.toNat_sub] at inside covers
  have displayedPlace :
      ((0x10000000 : UInt32) + kEqPlayerDisplayedClassOffset).toNat =
        0x10000fe0 := rfl
  have profilePlace :
      ((0x13000000 : UInt32) + kPcProfileClassOffset).toNat =
        0x13003374 := rfl
  have below := address.toNat_lt
  omega

/-- A warrior is trained as a cleric, then as a paladin, and is a warrior
again. -/
theorem warrior_trained :
    (run (State.step 0x400000) (State.initial warriorMemory)
        [.apply 2, .apply 2, .apply 3]).memory.range 0x13003374 4 =
          bytes32 3 ∧
      (run (State.step 0x400000) (State.initial warriorMemory)
        [.apply 2, .apply 17, .apply 3, .restore]).memory.range
          0x13003374 4 = bytes32 1 := by
  have profilePointer :
      tryReadLocalProfilePointer 0x400000 warriorMemory =
        some 0x13000000 := by
    decide +kernel
  have apart : FieldsApart 0x400000 warriorMemory :=
    fieldsApart_of_objects (by decide +kernel) profilePointer
  have training :=
    (trainer_sessions_undone apart
      [.apply 2, .apply 2, .apply 3]
      ⟨.inr ⟨by decide +kernel, by decide +kernel⟩,
        .inl (by decide +kernel),
        .inr ⟨by decide +kernel, by decide +kernel⟩, trivial⟩).2
      _ profilePointer
  have afterwards :=
    (trainer_sessions_undone apart
      [.apply 2, .apply 17, .apply 3, .restore]
      ⟨.inr ⟨by decide +kernel, by decide +kernel⟩,
        .inl (by decide +kernel),
        .inr ⟨by decide +kernel, by decide +kernel⟩,
        ⟨by decide +kernel, by decide +kernel⟩, trivial⟩).2
      _ profilePointer
  exact ⟨training.trans (by decide +kernel),
    afterwards.trans (by decide +kernel)⟩

end MonomythClient.TrainerSessions
