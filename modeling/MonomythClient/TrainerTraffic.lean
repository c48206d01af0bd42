import MonomythClient.ServerAuthStatsSnapshot
import MonomythClient.TrainerSessions

namespace MonomythClient.TrainerTraffic

open MulticlassIdentity LocalPlayer TrainerSessions
open ProtectedMemory LittleEndian Runs
open ServerAuthStats (Snapshot)
open TemporaryClassOverride (mem_toList_map)

/-!
# What opens and ends trainer sessions

A lookup of the trainer's class leaves an assigned class pending.  A training
packet that was sent opens a session with it, and a packet that ends the
training, or the removal of the hook, restores the class fields.

The global of a session keeps addresses and classes.  What it restores belongs
to the local player only as long as nobody else has become the local player
since the session was opened.
-/

def kGmTrainingOpcode : UInt32 := 0x1966
def kGmEndTrainingOpcode : UInt32 := 0x4d6b

/-! ## State -/

/-- The globals and the memory, with who is the local player.  The last two
members are no part of the source: who was the local player when a session was
last opened, and whether the local player was replaced since then. -/
structure Traffic (Character : Type) where
  training : TrainerSessions.State
  pendingClassId : UInt8
  character : Character
  savedFrom : Character
  replaced : Bool

/-- What happens. -/
inductive Event (Character : Type) where
  /-- A lookup that resolves the normalized class of a trainer, or none. -/
  | lookup (resolved : Option UInt32) (snapshot : Snapshot)
  /-- A packet, with what the game's own function does and returns. -/
  | send
      (packet totalLength : UInt32)
      (native : Memory → Memory)
      (originalResult : Bool)
  /-- The removal of the hook, and whether it succeeds. -/
  | removeHook (succeeds : Bool)
  /-- Anything else, as a received packet or a change of the world, and who is
  the local player then. -/
  | change (effect : Memory → Memory) (character : Character)

/-- What is called for an event. -/
inductive Call where
  | apply (classId : UInt8)
  | endTraining
deriving DecidableEq, Repr

section Steps

variable {Character : Type} (moduleBase : UInt32)

/-- Before any session. -/
def Traffic.initial
    (memory : Memory)
    (character : Character) :
    Traffic Character where
  training := State.initial memory
  pendingClassId := 0
  character := character
  savedFrom := character
  replaced := false

/-- `GuildTrainerClassLookupCallsiteHookImpl`: the class it leaves pending. -/
def guildTrainerClassLookup
    (resolved : Option UInt32)
    (snapshot : Snapshot)
    (pendingClassId : UInt8) :
    UInt8 :=
  match resolved with
  | some normalizedClassId =>
      if hasAuthoritativeClass snapshot.classesBitmask.has
          snapshot.classesBitmask.value normalizedClassId then
        normalizedClassId.toUInt8
      else
        pendingClassId
  | none => pendingClassId

/-- The opcode that `MemorizeSendPacketWrapperHook` decodes. -/
def decodeOpcode
    (memory : Memory)
    (packet totalLength : UInt32) :
    Option UInt16 :=
  if packet = 0 ∨ totalLength < 2 then
    none
  else
    (memory.read packet 2).map fun bytes => UInt16.ofNat (value bytes)

/-- What `MemorizeSendPacketWrapperHook` calls after the game's own
function. -/
def sendCall
    (opcode : Option UInt16)
    (originalResult : Bool)
    (pendingClassId : UInt8) :
    Option Call :=
  match opcode with
  | some opcode =>
      if !originalResult then
        none
      else if opcode.toUInt32 = kGmTrainingOpcode ∧
          isPlayableClassId pendingClassId.toUInt32 then
        some (.apply pendingClassId)
      else if opcode.toUInt32 = kGmEndTrainingOpcode then
        some .endTraining
      else
        none
  | none => none

/-- A call of `ApplyGuildTrainerSessionClassOverride`. -/
def Traffic.apply
    (traffic : Traffic Character)
    (classId : UInt8) :
    Traffic Character :=
  if traffic.training.returnsEarly classId then
    traffic
  else
    let training :=
      applyGuildTrainerSessionClassOverride moduleBase classId
        traffic.training
    { traffic with
      training := training
      savedFrom := traffic.character
      replaced :=
        !decide (SameObjects moduleBase
          (restoreGuildTrainerSessionClassOverride traffic.training).memory
          training.memory) }

/-- A call of `RestoreGuildTrainerSessionClassOverride`, after which no class
is pending. -/
def Traffic.endTraining (traffic : Traffic Character) : Traffic Character :=
  { traffic with
    training := restoreGuildTrainerSessionClassOverride traffic.training
    pendingClassId := 0 }

/-- The memory changes, and maybe the local player. -/
def Traffic.change
    [DecidableEq Character]
    (traffic : Traffic Character)
    (effect : Memory → Memory)
    (character : Character) :
    Traffic Character :=
  { traffic with
    training := ⟨traffic.training.session, effect traffic.training.memory⟩
    character := character
    replaced :=
      traffic.replaced ||
        !decide (SameObjects moduleBase traffic.training.memory
            (effect traffic.training.memory) ∧
          character = traffic.character) }

/-- The state in which an event calls something. -/
def Traffic.before
    [DecidableEq Character]
    (traffic : Traffic Character) :
    Event Character → Traffic Character
  | .lookup resolved snapshot =>
      { traffic with
        pendingClassId :=
          guildTrainerClassLookup resolved snapshot traffic.pendingClassId }
  | .send _ _ native _ =>
      traffic.change moduleBase native traffic.character
  | .removeHook _ => traffic
  | .change effect character => traffic.change moduleBase effect character

/-- What an event calls. -/
def Traffic.call (traffic : Traffic Character) :
    Event Character → Option Call
  | .lookup _ _ => none
  | .send packet totalLength _ originalResult =>
      sendCall (decodeOpcode traffic.training.memory packet totalLength)
        originalResult traffic.pendingClassId
  | .removeHook succeeds => if succeeds then some .endTraining else none
  | .change _ _ => none

/-- What a call does. -/
def Traffic.perform
    (traffic : Traffic Character) :
    Call → Traffic Character
  | .apply classId => traffic.apply moduleBase classId
  | .endTraining => traffic.endTraining

/-- What an event does. -/
def Traffic.step
    [DecidableEq Character]
    (traffic : Traffic Character)
    (event : Event Character) :
    Traffic Character :=
  match traffic.call event with
  | some call => (traffic.before moduleBase event).perform moduleBase call
  | none => traffic.before moduleBase event

/-- How an event changes the memory before it calls anything. -/
def Event.memoryEvents : Event Character → List TrainerSessions.Event
  | .lookup _ _ => []
  | .send _ _ native _ => [.change native]
  | .removeHook _ => []
  | .change effect _ => [.change effect]

/-- What is called, for a session. -/
def Call.sessionEvent : Call → TrainerSessions.Event
  | .apply classId => .apply classId
  | .endTraining => .restore

/-- What an event does to the session and the memory. -/
def Traffic.sessionEvents
    (traffic : Traffic Character)
    (event : Event Character) :
    List TrainerSessions.Event :=
  event.memoryEvents ++
    ((traffic.call event).map Call.sessionEvent).toList

theorem training_before
    [DecidableEq Character]
    (traffic : Traffic Character)
    (event : Event Character) :
    (traffic.before moduleBase event).training =
      run (TrainerSessions.State.step moduleBase) traffic.training
        event.memoryEvents := by
  cases event <;> rfl

theorem training_apply (traffic : Traffic Character) (classId : UInt8) :
    (traffic.apply moduleBase classId).training =
      applyGuildTrainerSessionClassOverride moduleBase classId
        traffic.training := by
  unfold Traffic.apply
  split
  · rename_i early
    rw [applyGuildTrainerSessionClassOverride, if_pos early]
  · rfl

/-- The session and the memory run on their own. -/
theorem training_step
    [DecidableEq Character]
    (traffic : Traffic Character)
    (event : Event Character) :
    (traffic.step moduleBase event).training =
      run (TrainerSessions.State.step moduleBase) traffic.training
        (traffic.sessionEvents event) := by
  rw [Traffic.sessionEvents, run_append, ← training_before]
  unfold Traffic.step
  cases traffic.call event with
  | none =>
      rfl
  | some call =>
      cases call with
      | apply classId =>
          exact training_apply moduleBase _ classId
      | endTraining =>
          rfl

end Steps

/-! ## What is restored -/

/-- The two fields that a session overrides. -/
inductive ClassField where
  | displayed
  | profile
deriving DecidableEq, Repr

/-- The object of the local player that has the field. -/
def localObject
    (moduleBase : UInt32)
    (memory : Memory) :
    ClassField → Option UInt32
  | .displayed => nonNull (tryReadLocalPlayerPointer moduleBase memory)
  | .profile => tryReadLocalProfilePointer moduleBase memory

/-- A write that `RestoreGuildTrainerSessionClassOverride` performs, and the
state it was called in. -/
structure RestoreWrite (Character : Type) where
  field : ClassField
  object : UInt32
  store : Store
  moment : Traffic Character

section Restores

variable {Character : Type} {moduleBase : UInt32}

/-- The writes that restoring a session attempts, in their order. -/
def Traffic.restoreAttempts
    (traffic : Traffic Character) :
    List (RestoreWrite Character) :=
  if traffic.training.session.active then
    (traffic.training.session.displayed.map fun saved =>
        (⟨.displayed, saved.1, displayedClassField saved.1 saved.2,
          traffic⟩ : RestoreWrite Character)).toList ++
      (traffic.training.session.profile.map fun saved =>
        (⟨.profile, saved.1, profileClassField saved.1 saved.2,
          traffic⟩ : RestoreWrite Character)).toList
  else
    []

/-- Those that are performed. -/
def Traffic.restoreWrites
    (traffic : Traffic Character) :
    List (RestoreWrite Character) :=
  traffic.restoreAttempts.filter fun write =>
    traffic.training.memory.accepts write.store

/-- Whether a call restores what was saved before. -/
def Traffic.restores (traffic : Traffic Character) : Call → Bool
  | .apply classId => !traffic.training.returnsEarly classId
  | .endTraining => true

/-- The writes of `RestoreGuildTrainerSessionClassOverride` in an event. -/
def Traffic.restoredBy
    [DecidableEq Character]
    (moduleBase : UInt32)
    (traffic : Traffic Character)
    (event : Event Character) :
    List (RestoreWrite Character) :=
  match traffic.call event with
  | some call =>
      if (traffic.before moduleBase event).restores call then
        (traffic.before moduleBase event).restoreWrites
      else
        []
  | none => []

/-- The writes are what restoring does to the memory. -/
theorem memory_restore (traffic : Traffic Character) :
    (restoreGuildTrainerSessionClassOverride traffic.training).memory =
      traffic.training.memory.writeEach
        (traffic.restoreWrites.map RestoreWrite.store) := by
  have filtered :
      traffic.restoreWrites.map RestoreWrite.store =
        (traffic.restoreAttempts.map RestoreWrite.store).filter
          traffic.training.memory.accepts := by
    rw [Traffic.restoreWrites, List.filter_map]
    rfl
  rw [filtered, Memory.writeEach_filter, Traffic.restoreAttempts,
    restoreGuildTrainerSessionClassOverride]
  split
  · rw [GuildTrainerSessionClassOverrideState.originals, List.map_append,
      ← Option.toList_map, ← Option.toList_map, Option.map_map,
      Option.map_map]
    rfl
  · rfl

/-- A write goes to the local player as it is then, and brings back what was
saved from the same character. -/
def RestoreWrite.GoesHome
    (moduleBase : UInt32)
    (write : RestoreWrite Character) :
    Prop :=
  localObject moduleBase write.moment.training.memory write.field =
      some write.object ∧
    write.moment.savedFrom = write.moment.character

instance
    [DecidableEq Character]
    (moduleBase : UInt32)
    (write : RestoreWrite Character) :
    Decidable (write.GoesHome moduleBase) :=
  inferInstanceAs (Decidable (_ ∧ _))

/-- An event restores no session since whose opening the local player was
replaced. -/
def RestoresUnreplaced
    [DecidableEq Character]
    (moduleBase : UInt32)
    (traffic : Traffic Character)
    (event : Event Character) :
    Prop :=
  ∀ call ∈ traffic.call event,
    (traffic.before moduleBase event).restores call →
      (traffic.before moduleBase event).training.session.active →
        (traffic.before moduleBase event).replaced = false

/-- Only an open session is restored. -/
theorem active_of_mem_restoreWrites
    {traffic : Traffic Character}
    {write : RestoreWrite Character}
    (performed : write ∈ traffic.restoreWrites) :
    traffic.training.session.active = true := by
  have attempted := (List.mem_filter.mp performed).1
  rw [Traffic.restoreAttempts] at attempted
  split at attempted
  · assumption
  · cases attempted

instance
    [DecidableEq Character]
    (moduleBase : UInt32)
    (traffic : Traffic Character)
    (event : Event Character) :
    Decidable (RestoresUnreplaced moduleBase traffic event) :=
  inferInstanceAs (Decidable (∀ call ∈ traffic.call event, _))

/-! ## What every step preserves -/

/-- What an open session has saved belongs to the local player. -/
structure SessionAtHome
    (moduleBase : UInt32)
    (traffic : Traffic Character) :
    Prop where
  displayed :
    ∀ saved ∈ traffic.training.session.displayed,
      nonNull
          (tryReadLocalPlayerPointer moduleBase traffic.training.memory) =
        some saved.1
  profile :
    ∀ saved ∈ traffic.training.session.profile,
      tryReadLocalProfilePointer moduleBase traffic.training.memory =
        some saved.1
  character : traffic.savedFrom = traffic.character

/-- So it does while nobody was replaced. -/
def AtHomeUnlessReplaced
    (moduleBase : UInt32)
    (traffic : Traffic Character) :
    Prop :=
  traffic.training.session.active = true →
    traffic.replaced = false → SessionAtHome moduleBase traffic

/-- Then restoring goes home. -/
theorem SessionAtHome.goesHome
    {traffic : Traffic Character}
    (atHome : SessionAtHome moduleBase traffic) :
    ∀ write ∈ traffic.restoreWrites, write.GoesHome moduleBase := by
  intro write performed
  have attempted := (List.mem_filter.mp performed).1
  rw [Traffic.restoreAttempts] at attempted
  split at attempted
  · rcases List.mem_append.mp attempted with member | member
    · obtain ⟨saved, found, rfl⟩ := mem_toList_map.mp member
      exact ⟨atHome.displayed saved found, atHome.character⟩
    · obtain ⟨saved, found, rfl⟩ := mem_toList_map.mp member
      exact ⟨atHome.profile saved found, atHome.character⟩
  · cases attempted

theorem atHome_initial (memory : Memory) (character : Character) :
    AtHomeUnlessReplaced moduleBase
      (Traffic.initial memory character) := by
  intro active
  cases active

theorem atHome_change
    [DecidableEq Character]
    {traffic : Traffic Character}
    (atHome : AtHomeUnlessReplaced moduleBase traffic)
    (effect : Memory → Memory)
    (character : Character) :
    AtHomeUnlessReplaced moduleBase
      (traffic.change moduleBase effect character) := by
  intro active unreplaced
  obtain ⟨wasUnreplaced, kept⟩ := Bool.or_eq_false_iff.mp unreplaced
  obtain ⟨⟨samePlayer, sameProfile⟩, sameCharacter⟩ :=
    of_decide_eq_true (Bool.not_eq_eq_eq_not.mp kept)
  have before := atHome active wasUnreplaced
  exact
    { displayed := fun saved found => by
        have still := before.displayed saved found
        rw [← samePlayer] at still
        exact still
      profile := fun saved found => by
        have still := before.profile saved found
        rw [← sameProfile] at still
        exact still
      character := before.character.trans sameCharacter.symm }

/-- A session that is opened belongs to the local player. -/
theorem atHome_apply
    {traffic : Traffic Character}
    (atHome : AtHomeUnlessReplaced moduleBase traffic)
    (classId : UInt8) :
    AtHomeUnlessReplaced moduleBase (traffic.apply moduleBase classId) := by
  unfold Traffic.apply
  split
  · exact atHome
  · rename_i opens
    intro active unreplaced
    dsimp only at active unreplaced ⊢
    obtain ⟨samePlayer, sameProfile⟩ :=
      of_decide_eq_true (Bool.not_eq_eq_eq_not.mp unreplaced)
    rw [applyGuildTrainerSessionClassOverride, if_neg opens]
      at active samePlayer sameProfile ⊢
    have opened := session_openSession active
    refine ⟨fun saved found => ?_, fun saved found => ?_, rfl⟩
    · rw [opened] at found
      exact (congrArg nonNull samePlayer).trans
        (tryReadLocalDisplayedClass_some found).1
    · rw [opened] at found
      exact sameProfile.trans
        (tryResolveLocalProfileClassStorage_some found).1

theorem atHome_endTraining (traffic : Traffic Character) :
    AtHomeUnlessReplaced moduleBase traffic.endTraining := by
  intro active
  unfold Traffic.endTraining at active
  unfold restoreGuildTrainerSessionClassOverride at active
  dsimp only at active
  split at active
  · cases active
  · rename_i inactive
    exact absurd active inactive

/-- The state in which an event calls something is as good as the one
before it. -/
theorem atHome_before
    [DecidableEq Character]
    {traffic : Traffic Character}
    (atHome : AtHomeUnlessReplaced moduleBase traffic)
    (event : Event Character) :
    AtHomeUnlessReplaced moduleBase
      (traffic.before moduleBase event) := by
  cases event with
  | lookup resolved snapshot =>
      exact fun active unreplaced =>
        ⟨(atHome active unreplaced).displayed,
          (atHome active unreplaced).profile,
          (atHome active unreplaced).character⟩
  | send packet totalLength native originalResult =>
      exact atHome_change atHome native traffic.character
  | removeHook succeeds =>
      exact atHome
  | change effect character =>
      exact atHome_change atHome effect character

theorem atHome_step
    [DecidableEq Character]
    (traffic : Traffic Character)
    (event : Event Character)
    (atHome : AtHomeUnlessReplaced moduleBase traffic) :
    AtHomeUnlessReplaced moduleBase (traffic.step moduleBase event) := by
  have before := atHome_before atHome event
  unfold Traffic.step
  cases traffic.call event with
  | none =>
      exact before
  | some call =>
      cases call with
      | apply classId =>
          exact atHome_apply before classId
      | endTraining =>
          exact atHome_endTraining _

/-- In a run that restores no session after the local player was replaced, all
that is restored goes home. -/
theorem restores_go_home
    [DecidableEq Character]
    (memory : Memory)
    (character : Character)
    (events : List (Event Character))
    (unreplaced :
      Along (Traffic.step moduleBase) (RestoresUnreplaced moduleBase)
        (Traffic.initial memory character) events) :
    ∀ write ∈
      emitted (Traffic.step moduleBase) (Traffic.restoredBy moduleBase)
        (Traffic.initial memory character) events,
      write.GoesHome moduleBase := by
  refine emitted_along
    (fun traffic event atHome _ => atHome_step traffic event atHome)
    ?_ (atHome_initial memory character) unreplaced
  intro traffic event atHome allowed write restored
  rw [Traffic.restoredBy] at restored
  split at restored
  · rename_i call called
    split at restored
    · rename_i restores
      have active :
          (traffic.before moduleBase event).training.session.active =
            true :=
        active_of_mem_restoreWrites restored
      exact (atHome_before atHome event active
        (allowed call called restores active)).goesHome write restored
    · cases restored
  · cases restored

end Restores

/-! ## A session that outlives its character -/

/-- A warrior's memory with a training packet and one that ends it. -/
def trainingMemory : Memory :=
  warriorMemory.writeEach
    [⟨0x20000000, bytes32 kGmTrainingOpcode⟩,
      ⟨0x20000010, bytes32 kGmEndTrainingOpcode⟩]

/-- A warrior who is a cleric, too, asks a cleric for training. -/
def trainingEvents (Character : Type) : List (Event Character) :=
  [.lookup (some 2)
      { ServerAuthStats.Globals.initial with classesBitmask := ⟨true, 3⟩ },
    .send 0x20000000 2 id true]

/-- Another player comes into the world, with objects of their own. -/
def nextWorld (memory : Memory) : Memory :=
  memory.writeEach
    [⟨0x400000 + kLocalPlayerGlobalRva, bytes32 0x30000000⟩,
      displayedClassField 0x30000000 5,
      ⟨0x12000000 + kCi2InfoCharInfo2Offset, bytes32 0x33000000⟩,
      profileClassField 0x33000000 5]

/-- At the end of the other one's training the warrior's class is written
where the warrior was. -/
theorem session_restored_in_next_world :
    ¬ ∀ write ∈
      emitted (Traffic.step 0x400000) (Traffic.restoredBy 0x400000)
        (Traffic.initial trainingMemory 1)
        (trainingEvents Nat ++
          [.change nextWorld 2, .send 0x20000010 2 id true]),
      write.GoesHome 0x400000 := by
  decide +kernel

/-- A warrior who stays in the world is restored at home. -/
theorem session_restored_at_home :
    ((emitted (Traffic.step 0x400000) (Traffic.restoredBy 0x400000)
        (Traffic.initial trainingMemory 1)
        (trainingEvents Nat ++ [.send 0x20000010 2 id true])).map
      RestoreWrite.object = [0x10000000, 0x13000000]) ∧
      ∀ write ∈
        emitted (Traffic.step 0x400000) (Traffic.restoredBy 0x400000)
          (Traffic.initial trainingMemory 1)
          (trainingEvents Nat ++ [.send 0x20000010 2 id true]),
        write.GoesHome 0x400000 :=
  ⟨by decide +kernel, restores_go_home trainingMemory 1 _ (by decide +kernel)⟩

end MonomythClient.TrainerTraffic
