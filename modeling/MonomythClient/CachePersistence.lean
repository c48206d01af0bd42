import MonomythClient.MulticlassCacheRuns
import MonomythClient.TrainerTraffic

namespace MonomythClient.CachePersistence

open ByteText LocalPlayer MulticlassCache ServerAuthStats TrainerTraffic
open ProtectedMemory Runs
open PayloadReader (Payload)

/-!
# Caching the class mask of the local player

A server-auth payload leaves its class mask pending until an attempt to store
it succeeds.  An attempt reads the name and the native class of the local
player anew each time, so what it stores them with may have been received for
somebody else, and the class may be the one of a trainer's session.
-/

def kEqSpawnNameOffset : UInt32 := 0x00a4
def kEqSpawnNameMaxBytes : Nat := 0x40

/-! ## Names -/

/-- The loop of `TryReadAsciiCString` over at most so many characters. -/
def readAsciiBytes (memory : Memory) :
    Nat → UInt32 → Option (List UInt8)
  | 0, _ => some []
  | remaining + 1, source => do
      let symbol ← memory.readByte source
      if symbol = 0 then
        return []
      else
        let rest ← readAsciiBytes memory remaining (source + 1)
        return symbol :: rest

/-- `TryReadAsciiCString`. -/
def tryReadAsciiCString
    (memory : Memory)
    (source : UInt32)
    (maxBytes : Nat) :
    Option CString := do
  guard (source ≠ 0 ∧ 2 ≤ maxBytes)
  let text ← readAsciiBytes memory (maxBytes - 1) source
  guard (text ≠ [])
  return .ofText text

/-- `TryReadEqSpawnName`. -/
def tryReadEqSpawnName
    (memory : Memory)
    (subject : UInt32) :
    Option CString := do
  guard (subject ≠ 0)
  tryReadAsciiCString memory (subject + kEqSpawnNameOffset)
    kEqSpawnNameMaxBytes

/-- The name of the local player's object. -/
def tryReadLocalPlayerName
    (moduleBase : UInt32)
    (memory : Memory) :
    Option CString := do
  let localPlayer ← nonNull (tryReadLocalPlayerPointer moduleBase memory)
  tryReadEqSpawnName memory localPlayer

/-! ## State -/

/-- The arguments of a call of `StoreCharacterClassMask`. -/
structure ClassMaskStore where
  characterName : CString
  classesBitmask : UInt32
  nativeClassId : UInt8
  serverName : CString
deriving DecidableEq

/-- What an attempt finds outside the game: the current server's name, if
`TryGetCurrentServerName` has one, and how reading and writing the cache
goes. -/
structure Attempt where
  serverName : Option CString
  readConditions : ReadConditions
  writeConditions : WriteConditions

/-- The globals, the memory, and the cache file.  The last two members are no
part of the source: the masks received so far, each with who was the local
player then, and whether the local player was replaced since a mask that is not
zero was last received. -/
structure State where
  traffic : Traffic CString
  globals : Globals
  persistPending : Bool
  persistPendingMask : UInt32
  file : Option (List UInt8)
  received : List (CString × UInt32)
  replaced : Bool

/-- What happens.  The functions that try to store a pending mask on their way
count as attempts. -/
inductive Event where
  | traffic (event : TrainerTraffic.Event CString)
  | authStats (payload : Payload) (attempt : Attempt)
  | persist (attempt : Attempt)

section Steps

variable (moduleBase : UInt32) (sorter : EntrySorter)

/-- Before any payload. -/
def State.initial
    (memory : Memory)
    (character : CString)
    (file : Option (List UInt8)) :
    State where
  traffic := .initial memory character
  globals := .initial
  persistPending := false
  persistPendingMask := 0
  file := file
  received := []
  replaced := false

/-- What `TryPersistPendingMulticlassCache` stores, where all it needs can be
read. -/
def State.pendingStore
    (state : State)
    (attempt : Attempt) :
    Option ClassMaskStore := do
  let nativeClassId ←
    tryReadLocalProfileClassId moduleBase state.traffic.training.memory
  let serverName ← attempt.serverName
  let characterName ←
    tryReadLocalPlayerName moduleBase state.traffic.training.memory
  return ⟨characterName, state.persistPendingMask, nativeClassId, serverName⟩

/-- `TryPersistPendingMulticlassCache`. -/
def tryPersistPendingMulticlassCache
    (attempt : Attempt)
    (state : State) :
    State :=
  if !state.persistPending then
    state
  else if state.persistPendingMask = 0 then
    { state with persistPending := false }
  else
    match state.pendingStore moduleBase attempt with
    | none => state
    | some stored =>
        let (file, persisted) :=
          storeCharacterClassMask sorter attempt.readConditions
            attempt.writeConditions (some stored.characterName)
            stored.classesBitmask stored.nativeClassId.toUInt32
            (some stored.serverName) state.file
        if persisted then
          { state with
            file := file
            persistPending := false
            persistPendingMask := 0 }
        else
          { state with file := file }

/-- The first half of `NotifyServerAuthStatsUpdated`, which makes the mask of
the snapshot pending, if it has one. -/
def State.armPersist (state : State) : Option State :=
  let snapshot := getSnapshot state.globals
  if !snapshot.classesBitmask.has || snapshot.classesBitmask.value == 0 then
    none
  else
    some { state with
      persistPendingMask := snapshot.classesBitmask.value
      persistPending := true }

/-- `NotifyServerAuthStatsUpdated`, up to its attempt. -/
def notifyServerAuthStatsUpdated
    (attempt : Attempt)
    (state : State) :
    State :=
  match state.armPersist with
  | some armed =>
      tryPersistPendingMulticlassCache moduleBase sorter attempt armed
  | none => state

/-- A payload for the snapshot is received. -/
def State.receive (state : State) (payload : Payload) : State :=
  { state with
    globals := observeReceivePayload state.globals payload
    received :=
      state.received ++
        (receivedMasks [payload]).map (Prod.mk state.traffic.character)
    replaced :=
      state.replaced &&
        ((receivedMasks [payload]).getLast?.filter (· != 0)).isNone }

/-- The local player plays, or is replaced. -/
def State.play
    (state : State)
    (event : TrainerTraffic.Event CString) :
    State :=
  { state with
    traffic := state.traffic.step moduleBase event
    replaced :=
      state.replaced ||
        (state.traffic.step moduleBase event).character !=
          state.traffic.character }

/-- What an event does. -/
def State.step (state : State) : Event → State
  | .traffic event => state.play moduleBase event
  | .authStats payload attempt =>
      notifyServerAuthStatsUpdated moduleBase sorter attempt
        (state.receive payload)
  | .persist attempt =>
      tryPersistPendingMulticlassCache moduleBase sorter attempt state

/-! ## Stores -/

/-- The call of `StoreCharacterClassMask` in an attempt. -/
def State.storeCall
    (state : State)
    (attempt : Attempt) :
    Option ClassMaskStore :=
  if state.persistPending && state.persistPendingMask != 0 then
    state.pendingStore moduleBase attempt
  else
    none

/-- An attempt finds a mask pending, and can read all that it needs. -/
def State.findsAll (state : State) (attempt : Attempt) : Bool :=
  state.persistPending && state.persistPendingMask != 0 &&
    (tryReadLocalProfileClassId moduleBase
      state.traffic.training.memory).isSome &&
    attempt.serverName.isSome &&
    (tryReadLocalPlayerName moduleBase
      state.traffic.training.memory).isSome

/-- The state that an event makes an attempt in, and how. -/
def State.attempted (state : State) : Event → Option (State × Attempt)
  | .traffic _ => none
  | .authStats payload attempt =>
      (state.receive payload).armPersist.map fun armed => (armed, attempt)
  | .persist attempt => some (state, attempt)

/-- The calls of `StoreCharacterClassMask` for an event, each with the state it
is made in. -/
def State.stores
    (state : State)
    (event : Event) :
    List (ClassMaskStore × State) :=
  match state.attempted event with
  | some (attempting, attempt) =>
      (attempting.storeCall moduleBase attempt).toList.map fun stored =>
        (stored, attempting)
  | none => []

/-- The file changes by that call alone. -/
theorem file_tryPersistPendingMulticlassCache
    (attempt : Attempt)
    (state : State) :
    (tryPersistPendingMulticlassCache moduleBase sorter attempt state).file =
      match state.storeCall moduleBase attempt with
      | some stored =>
          (storeCharacterClassMask sorter attempt.readConditions
            attempt.writeConditions (some stored.characterName)
            stored.classesBitmask stored.nativeClassId.toUInt32
            (some stored.serverName) state.file).1
      | none => state.file := by
  rw [tryPersistPendingMulticlassCache, State.storeCall]
  cases pending : state.persistPending with
  | false =>
      rfl
  | true =>
      by_cases noMask : state.persistPendingMask = 0
      · simp [noMask]
      · cases found : state.pendingStore moduleBase attempt with
        | none =>
            simp [noMask]
        | some stored =>
            simp only [Bool.not_true, Bool.false_eq_true, if_false, noMask,
              Bool.true_and, bne_iff_ne, ne_eq, not_false_eq_true, if_true]
            split <;> rfl

end Steps

/-! ## Attempts -/

section Attempts

variable
  {moduleBase : UInt32}
  {sorter : EntrySorter}
  {state : State}
  {attempt : Attempt}

/-- What is stored is the pending mask, under what was read. -/
theorem storeCall_some
    {stored : ClassMaskStore}
    (called : state.storeCall moduleBase attempt = some stored) :
    state.findsAll moduleBase attempt = true ∧
      state.persistPending = true ∧
      stored.classesBitmask = state.persistPendingMask ∧
      tryReadLocalProfileClassId moduleBase
          state.traffic.training.memory = some stored.nativeClassId ∧
      tryReadLocalPlayerName moduleBase state.traffic.training.memory =
        some stored.characterName := by
  rw [State.storeCall] at called
  split at called
  · rename_i pending
    simp only [State.pendingStore, bind, Option.bind_eq_some_iff]
      at called
    obtain ⟨classId, classRead, server, serverRead, name, nameRead, same⟩ :=
      called
    obtain rfl := Option.some.inj same
    refine ⟨?_, (Bool.and_eq_true_iff.mp pending).1, rfl, classRead,
      nameRead⟩
    rw [State.findsAll, pending, classRead, serverRead, nameRead]
    rfl
  · cases called

/-- An attempt leaves all but the file and the pending mask, and makes none
pending. -/
theorem tryPersistPendingMulticlassCache_keeps :
    (tryPersistPendingMulticlassCache moduleBase sorter attempt
          state).traffic = state.traffic ∧
      (tryPersistPendingMulticlassCache moduleBase sorter attempt
          state).globals = state.globals ∧
      (tryPersistPendingMulticlassCache moduleBase sorter attempt
          state).received = state.received ∧
      (tryPersistPendingMulticlassCache moduleBase sorter attempt
          state).replaced = state.replaced ∧
      ((tryPersistPendingMulticlassCache moduleBase sorter attempt
          state).persistPending = true →
        state.persistPending = true ∧
          (tryPersistPendingMulticlassCache moduleBase sorter attempt
            state).persistPendingMask = state.persistPendingMask) := by
  unfold tryPersistPendingMulticlassCache
  split
  · exact ⟨rfl, rfl, rfl, rfl, fun pending => ⟨pending, rfl⟩⟩
  · split
    · exact ⟨rfl, rfl, rfl, rfl, fun pending => nomatch pending⟩
    · split
      · exact ⟨rfl, rfl, rfl, rfl, fun pending => ⟨pending, rfl⟩⟩
      · dsimp only
        split
        · exact ⟨rfl, rfl, rfl, rfl, fun pending => nomatch pending⟩
        · exact ⟨rfl, rfl, rfl, rfl, fun pending => ⟨pending, rfl⟩⟩

/-- A store is made in the state that its event makes an attempt in. -/
theorem mem_stores
    {event : Event}
    {store : ClassMaskStore × State}
    (member : store ∈ state.stores moduleBase event) :
    ∃ attempt,
      state.attempted event = some (store.2, attempt) ∧
        store.2.storeCall moduleBase attempt = some store.1 := by
  rw [State.stores] at member
  split at member
  · rename_i attempting attempt attempts
    obtain ⟨stored, called, rfl⟩ := List.mem_map.mp member
    exact ⟨attempt, attempts, Option.mem_toList.mp called⟩
  · cases member

/-- A mask that becomes pending is the one in the snapshot. -/
theorem armPersist_some
    {armed : State}
    (arms : state.armPersist = some armed) :
    state.globals.classesBitmask.has = true ∧
      state.globals.classesBitmask.value ≠ 0 ∧
      armed =
        { state with
          persistPendingMask := state.globals.classesBitmask.value
          persistPending := true } := by
  unfold State.armPersist getSnapshot at arms
  by_cases noMask :
      (!state.globals.classesBitmask.has ||
        state.globals.classesBitmask.value == 0) = true
  · simp only [noMask, if_true, reduceCtorEq] at arms
  · simp only [noMask] at arms
    simp only [Bool.or_eq_true, Bool.not_eq_eq_eq_not, not_or, beq_iff_eq]
      at noMask
    exact ⟨by simpa using noMask.1, noMask.2, (Option.some.inj arms).symm⟩

/-- Only a snapshot without a mask makes none pending. -/
theorem armPersist_none
    (unarmed : state.armPersist = none)
    (has : state.globals.classesBitmask.has = true) :
    state.globals.classesBitmask.value = 0 := by
  unfold State.armPersist getSnapshot at unarmed
  simpa [has] using unarmed

end Attempts

/-! ## Whose mask is stored -/

/-- A store has the name of a character that its mask was received for. -/
def StoresReceived (store : ClassMaskStore × State) : Prop :=
  (store.1.characterName, store.1.classesBitmask) ∈ store.2.received

instance (store : ClassMaskStore × State) :
    Decidable (StoresReceived store) :=
  inferInstanceAs (Decidable (_ ∈ _))

/-- The name of the local player's object, where it can be read, is that of
the local player. -/
def PlayerNamed
    (moduleBase : UInt32)
    (traffic : Traffic CString) :
    Prop :=
  ∀ name ∈ tryReadLocalPlayerName moduleBase traffic.training.memory,
    name = traffic.character

instance (moduleBase : UInt32) (traffic : Traffic CString) :
    Decidable (PlayerNamed moduleBase traffic) :=
  inferInstanceAs (Decidable (∀ name ∈ _, _))

/-- An event leaves the local player named. -/
def NamesPlayer
    (moduleBase : UInt32)
    (state : State) :
    Event → Prop
  | .traffic event =>
      PlayerNamed moduleBase (state.traffic.step moduleBase event)
  | .authStats _ _ => True
  | .persist _ => True

instance NamesPlayer.decidable
    (moduleBase : UInt32)
    (state : State) :
    (event : Event) → Decidable (NamesPlayer moduleBase state event)
  | .traffic _ => inferInstanceAs (Decidable (PlayerNamed _ _))
  | .authStats _ _ => .isTrue trivial
  | .persist _ => .isTrue trivial

/-- An event makes an attempt that finds all it needs only if the local player
was not replaced since a mask was last received. -/
def AttemptsUnreplaced
    (moduleBase : UInt32)
    (state : State)
    (event : Event) :
    Prop :=
  ∀ attempted ∈ state.attempted event,
    attempted.1.findsAll moduleBase attempted.2 = true →
      attempted.1.replaced = false

instance (moduleBase : UInt32) (state : State) (event : Event) :
    Decidable (AttemptsUnreplaced moduleBase state event) :=
  inferInstanceAs (Decidable (∀ attempted ∈ state.attempted event, _))

section Received

variable {moduleBase : UInt32} {sorter : EntrySorter}

/-- While the local player was not replaced, the pending mask and the one in
the snapshot were received for them. -/
structure MasksOwned
    (moduleBase : UInt32)
    (state : State) :
    Prop where
  named : PlayerNamed moduleBase state.traffic
  pending :
    state.replaced = false → state.persistPending = true →
      (state.traffic.character, state.persistPendingMask) ∈ state.received
  snapshot :
    state.replaced = false →
      state.globals.classesBitmask.has = true →
      state.globals.classesBitmask.value ≠ 0 →
      (state.traffic.character, state.globals.classesBitmask.value) ∈
        state.received

/-- A payload without a mask, or with the mask zero, changes nothing about the
others. -/
theorem receive_nothing
    {state : State}
    {payload : Payload}
    (nothing :
      (receivedMasks [payload]).getLast?.filter (· != 0) = none) :
    (state.receive payload).replaced = state.replaced ∧
      ((state.receive payload).globals.classesBitmask.value ≠ 0 →
        (state.receive payload).globals.classesBitmask =
          state.globals.classesBitmask) := by
  constructor
  · rw [State.receive, nothing]
    exact Bool.and_true _
  · intro hasMask
    have observed :=
      classesBitmask_observeReceivePayload state.globals payload
    rw [State.receive] at hasMask ⊢
    dsimp only at hasMask ⊢
    rw [observed] at hasMask ⊢
    cases last : (receivedMasks [payload]).getLast? with
    | none =>
        rfl
    | some mask =>
        rw [last] at nothing hasMask
        have zero : mask = 0 := by simpa using nothing
        exact absurd zero hasMask

/-- A mask that is not zero is received for the local player. -/
theorem receive_mask
    {state : State}
    {payload : Payload}
    {mask : UInt32}
    (carried : (receivedMasks [payload]).getLast? = some mask) :
    (state.receive payload).globals.classesBitmask = ⟨true, mask⟩ ∧
      (state.traffic.character, mask) ∈ (state.receive payload).received := by
  constructor
  · have observed :=
      classesBitmask_observeReceivePayload state.globals payload
    rw [carried] at observed
    exact observed
  · exact List.mem_append_right _
      (List.mem_map_of_mem (List.mem_of_getLast? carried))

/-- So the one in the snapshot is owned after every payload. -/
theorem MasksOwned.receive_snapshot
    {state : State}
    (owned : MasksOwned moduleBase state)
    (payload : Payload)
    (unreplaced : (state.receive payload).replaced = false)
    (has :
      (state.receive payload).globals.classesBitmask.has = true)
    (nonzero :
      (state.receive payload).globals.classesBitmask.value ≠ 0) :
    (state.traffic.character,
        (state.receive payload).globals.classesBitmask.value) ∈
      (state.receive payload).received := by
  cases carried :
      (receivedMasks [payload]).getLast?.filter (· != 0) with
  | none =>
      obtain ⟨sameReplaced, sameMask⟩ :=
        @receive_nothing state payload carried
      have same := sameMask nonzero
      rw [same] at has nonzero ⊢
      exact List.mem_append_left _
        (owned.snapshot (sameReplaced ▸ unreplaced) has nonzero)
  | some mask =>
      obtain ⟨sameMask, received⟩ :=
        @receive_mask state payload mask
          (Option.filter_eq_some_iff.mp carried).1
      rw [sameMask]
      exact received

theorem MasksOwned.persist
    {state : State}
    {attempt : Attempt}
    (owned : MasksOwned moduleBase state) :
    MasksOwned moduleBase
      (tryPersistPendingMulticlassCache moduleBase sorter attempt
        state) := by
  obtain ⟨sameTraffic, sameGlobals, sameReceived, sameReplaced, kept⟩ :=
    @tryPersistPendingMulticlassCache_keeps moduleBase sorter state attempt
  refine ⟨sameTraffic ▸ owned.named, fun unreplaced pending => ?_, ?_⟩
  · obtain ⟨wasPending, sameMask⟩ := kept pending
    rw [sameReplaced] at unreplaced
    rw [sameTraffic, sameReceived, sameMask]
    exact owned.pending unreplaced wasPending
  · rw [sameReplaced, sameGlobals, sameTraffic, sameReceived]
    exact owned.snapshot

/-- So is a mask that a payload makes pending. -/
theorem MasksOwned.arm
    {state armed : State}
    {payload : Payload}
    (owned : MasksOwned moduleBase state)
    (arms : (state.receive payload).armPersist = some armed) :
    MasksOwned moduleBase armed := by
  obtain ⟨has, nonzero, rfl⟩ := armPersist_some arms
  exact
    { named := owned.named
      pending := fun unreplaced _ =>
        owned.receive_snapshot payload unreplaced has nonzero
      snapshot := fun unreplaced _ _ =>
        owned.receive_snapshot payload unreplaced has nonzero }

/-- And a payload that makes none pending leaves the pending one. -/
theorem MasksOwned.unarmed
    {state : State}
    {payload : Payload}
    (owned : MasksOwned moduleBase state)
    (unarmed : (state.receive payload).armPersist = none) :
    MasksOwned moduleBase (state.receive payload) where
  named := owned.named
  pending := fun unreplaced pending => by
    cases carried :
        (receivedMasks [payload]).getLast?.filter (· != 0) with
    | none =>
        have sameReplaced := (@receive_nothing state payload carried).1
        exact List.mem_append_left _
          (owned.pending (sameReplaced ▸ unreplaced) pending)
    | some mask =>
        obtain ⟨last, nonzero⟩ := Option.filter_eq_some_iff.mp carried
        have sameMask := (@receive_mask state payload mask last).1
        have zero := armPersist_none unarmed (by rw [sameMask])
        rw [sameMask] at zero
        exact absurd zero (by simpa using nonzero)
  snapshot := owned.receive_snapshot payload

/-- And in every state that a mask is stored in. -/
theorem MasksOwned.attempted
    {state attempting : State}
    {event : Event}
    {attempt : Attempt}
    (owned : MasksOwned moduleBase state)
    (attempts : state.attempted event = some (attempting, attempt)) :
    MasksOwned moduleBase attempting := by
  cases event with
  | traffic event =>
      cases attempts
  | authStats payload payloadAttempt =>
      obtain ⟨armed, arms, same⟩ := Option.map_eq_some_iff.mp attempts
      obtain ⟨rfl, -⟩ := Prod.mk.inj same
      exact owned.arm arms
  | persist persistAttempt =>
      obtain ⟨rfl, -⟩ := Prod.mk.inj (Option.some.inj attempts)
      exact owned

/-- Every event that leaves the local player named keeps the masks owned. -/
theorem MasksOwned.step
    (state : State)
    (event : Event)
    (owned : MasksOwned moduleBase state)
    (named : NamesPlayer moduleBase state event) :
    MasksOwned moduleBase (state.step moduleBase sorter event) := by
  cases event with
  | traffic event =>
      have sameCharacter :
          (state.play moduleBase event).replaced = false →
            state.replaced = false ∧
              (state.traffic.step moduleBase event).character =
                state.traffic.character := by
        intro unreplaced
        simpa [State.play] using unreplaced
      refine ⟨named, fun unreplaced pending => ?_,
        fun unreplaced has nonzero => ?_⟩
      · obtain ⟨wasUnreplaced, same⟩ := sameCharacter unreplaced
        have received := owned.pending wasUnreplaced pending
        rw [← same] at received
        exact received
      · obtain ⟨wasUnreplaced, same⟩ := sameCharacter unreplaced
        have received := owned.snapshot wasUnreplaced has nonzero
        rw [← same] at received
        exact received
  | authStats payload attempt =>
      rw [State.step, notifyServerAuthStatsUpdated]
      cases arms : (state.receive payload).armPersist with
      | none =>
          exact owned.unarmed arms
      | some armed =>
          exact (owned.arm arms).persist
  | persist attempt =>
      exact owned.persist

/-- In a run that attempts to store no mask after the local player was
replaced, every mask is stored for a character that it was received for. -/
theorem stored_masks_received
    {memory : Memory}
    {character : CString}
    (file : Option (List UInt8))
    (events : List Event)
    (initiallyNamed :
      PlayerNamed moduleBase (Traffic.initial memory character))
    (named :
      Along (State.step moduleBase sorter) (NamesPlayer moduleBase)
        (State.initial memory character file) events)
    (unreplaced :
      Along (State.step moduleBase sorter) (AttemptsUnreplaced moduleBase)
        (State.initial memory character file) events) :
    ∀ store ∈
      emitted (State.step moduleBase sorter) (State.stores moduleBase)
        (State.initial memory character file) events,
      StoresReceived store := by
  have initially :
      MasksOwned moduleBase (State.initial memory character file) :=
    { named := initiallyNamed
      pending := fun _ pending => by cases pending
      snapshot := fun _ has => by cases has }
  refine emitted_along
    (fun state event owned allowed => owned.step state event allowed.1)
    ?_ initially (along_and named unreplaced)
  intro state event owned allowed store member
  obtain ⟨attempt, attempts, called⟩ := mem_stores member
  obtain ⟨findsAll, pending, sameMask, -, nameRead⟩ :=
    storeCall_some called
  have stillUnreplaced : store.2.replaced = false :=
    allowed.2 _ attempts findsAll
  have attempting := owned.attempted attempts
  rw [StoresReceived, sameMask,
    attempting.named store.1.characterName nameRead]
  exact attempting.pending stillUnreplaced pending

end Received

/-! ## A mask that outlives its character -/

def ulf : CString := ⟨ascii "Ulf", by decide⟩

def zoe : CString := ⟨ascii "Zoe", by decide⟩

/-- Ulf is a warrior, and there are training packets. -/
def ulfMemory : Memory :=
  trainingMemory.write ⟨0x10000000 + kEqSpawnNameOffset, ulf.bytes⟩

/-- Zoe comes into the world in Ulf's place. -/
def zoeEnters : Event :=
  .traffic
    (.change
      (fun memory =>
        memory.write ⟨0x10000000 + kEqSpawnNameOffset, zoe.bytes⟩)
      zoe)

/-- A warrior is a cleric, too. -/
def maskPayload : Payload :=
  .ofBytes [1, 0, 0, 0, 1, 0, 0, 0, 3, 0, 0, 0, 0, 0, 0, 0] (by decide)

/-- The server's name is not known yet. -/
def serverUnknown : Attempt :=
  ⟨none, .healthy, .healthy⟩

def serverKnown : Attempt :=
  ⟨some ⟨ascii "Gamma", by decide⟩, .healthy, .healthy⟩

def exampleSorter : EntrySorter :=
  StandardSort.insertion CacheEntry.normalizedName

/-- Zoe gets the mask that Ulf received. -/
theorem mask_stored_for_next_character :
    ¬ (Along (State.step 0x400000 exampleSorter) (NamesPlayer 0x400000)
          (State.initial ulfMemory ulf none)
          [.authStats maskPayload serverUnknown, zoeEnters,
            .persist serverKnown] →
        ∀ store ∈
          emitted (State.step 0x400000 exampleSorter)
            (State.stores 0x400000) (State.initial ulfMemory ulf none)
            [.authStats maskPayload serverUnknown, zoeEnters,
              .persist serverKnown],
          StoresReceived store) := by
  decide +kernel

/-- Ulf gets it, if it is stored before Zoe comes. -/
theorem mask_stored_for_same_character :
    ((emitted (State.step 0x400000 exampleSorter)
        (State.stores 0x400000) (State.initial ulfMemory ulf none)
        [.authStats maskPayload serverUnknown, .persist serverKnown,
          zoeEnters, .persist serverKnown]).map
      fun store => store.1.characterName) = [ulf] ∧
      ∀ store ∈
        emitted (State.step 0x400000 exampleSorter)
          (State.stores 0x400000) (State.initial ulfMemory ulf none)
          [.authStats maskPayload serverUnknown, .persist serverKnown,
            zoeEnters, .persist serverKnown],
        StoresReceived store :=
  ⟨by decide +kernel,
    stored_masks_received none _ (by decide +kernel) (by decide +kernel)
      (by decide +kernel)⟩

end MonomythClient.CachePersistence
