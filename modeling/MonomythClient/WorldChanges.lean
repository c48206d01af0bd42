import MonomythClient.PetRosterTruth
import MonomythClient.ServerAuthAuthority

namespace MonomythClient.PacketObserver

open ByteText MultiPetSpawnObserver PayloadReader StandardSort
open WhoAllResponse

/-!
# World changes

Entering a world clears the remote identities and the pet roster, and each
who-all response replaces the queue of the one before.  Two runs that agree from
an enter-world packet on then show the same, whatever came before, but for the
focused pet's id: it belongs to the server-auth stats, which nothing clears.  An
id that is stored when an enter-world packet arrives is still shown behind it.
-/

/-! ## What one packet does to the stores -/

/-- A received packet's part in the identities, the roster and the queue. -/
theorem observeReceiveMetadata_stores
    (packet : ReceivedPacket)
    {state : ObserverState}
    (initialized : state.lifecycle = .initialized) :
    (observeReceiveMetadata packet state).remoteIdentity =
        maybeHandleRemoteMulticlassIdentity packet
          (if packet.opcode = kEnterWorldOpcode then
            { state.remoteIdentity with store := [] }
          else
            state.remoteIdentity) ∧
      (observeReceiveMetadata packet state).petRoster =
        maybeObserveMultiPetSpawnRoster packet
          (if packet.opcode = kEnterWorldOpcode then
            .initial
          else
            state.petRoster) ∧
      (observeReceiveMetadata packet state).whoAll =
        maybeLogWhoAllResponse (state.observedCount + 1) packet
          state.whoAll := by
  simp only [observeReceiveMetadata, initialized, ne_eq, not_true_eq_false,
    if_false]
  by_cases enterWorld : packet.opcode = kEnterWorldOpcode
  · simp only [if_pos enterWorld, and_true]
    exact ⟨rfl, rfl⟩
  · simp only [if_neg enterWorld, and_self]

/-- A sent packet touches none of the three. -/
theorem observeSendMetadata_stores
    (packet : SentPacket)
    (state : ObserverState) :
    (observeSendMetadata packet state).remoteIdentity =
        state.remoteIdentity ∧
      (observeSendMetadata packet state).petRoster = state.petRoster ∧
      (observeSendMetadata packet state).whoAll = state.whoAll := by
  unfold observeSendMetadata
  split
  · exact ⟨rfl, rfl, rfl⟩
  · simp only
    split <;> split <;> exact ⟨rfl, rfl, rfl⟩

/-- Nor does arming the skill correlation. -/
theorem armActivatedSkillSendCorrelation_stores
    (skillId : Int32)
    (callerReturnAddress callerRva : UInt32)
    (state : ObserverState) :
    (armActivatedSkillSendCorrelation skillId callerReturnAddress callerRva
          state).remoteIdentity = state.remoteIdentity ∧
      (armActivatedSkillSendCorrelation skillId callerReturnAddress callerRva
          state).petRoster = state.petRoster ∧
      (armActivatedSkillSendCorrelation skillId callerReturnAddress callerRva
          state).whoAll = state.whoAll := by
  unfold armActivatedSkillSendCorrelation
  split
  · exact ⟨rfl, rfl, rfl⟩
  · exact ⟨rfl, rfl, rfl⟩

/-- The identities after a packet depend on the identities before it. -/
theorem store_maybeHandleRemoteMulticlassIdentity
    (packet : ReceivedPacket)
    {left right : RemoteIdentityTraffic}
    (same : left.store = right.store) :
    (maybeHandleRemoteMulticlassIdentity packet left).store =
      (maybeHandleRemoteMulticlassIdentity packet right).store := by
  unfold maybeHandleRemoteMulticlassIdentity
  split
  · exact same
  · simp only
    split
    · rw [same]
    · exact same

/-! ## Worlds -/

/-- The same identities and the same roster. -/
structure SameWorld (left right : ObserverState) : Prop where
  lifecycle : left.lifecycle = right.lifecycle
  identities : left.remoteIdentity.store = right.remoteIdentity.store
  roster : left.petRoster = right.petRoster

/-- Every event keeps two states in the same world. -/
theorem SameWorld.step
    {left right : ObserverState}
    (same : SameWorld left right)
    (event : Event) :
    SameWorld (step left event) (step right event) := by
  cases event with
  | received packet =>
      by_cases initialized : left.lifecycle = .initialized
      · have alsoInitialized := same.lifecycle ▸ initialized
        obtain ⟨leftIdentities, leftRoster, _⟩ :=
          observeReceiveMetadata_stores packet initialized
        obtain ⟨rightIdentities, rightRoster, _⟩ :=
          observeReceiveMetadata_stores packet alsoInitialized
        refine ⟨?_, ?_, ?_⟩
        · rw [lifecycle_step, lifecycle_step, same.lifecycle]
        · change (observeReceiveMetadata packet left).remoteIdentity.store =
            (observeReceiveMetadata packet right).remoteIdentity.store
          rw [leftIdentities, rightIdentities]
          apply store_maybeHandleRemoteMulticlassIdentity
          split
          · rfl
          · exact same.identities
        · change (observeReceiveMetadata packet left).petRoster =
            (observeReceiveMetadata packet right).petRoster
          rw [leftRoster, rightRoster, same.roster]
      · have alsoIdle := same.lifecycle ▸ initialized
        have leftIdle := observeReceiveMetadata_idle packet initialized
        have rightIdle := observeReceiveMetadata_idle packet alsoIdle
        rw [PacketObserver.step, PacketObserver.step, leftIdle, rightIdle]
        exact same
  | sent packet =>
      obtain ⟨leftIdentities, leftRoster, _⟩ :=
        observeSendMetadata_stores packet left
      obtain ⟨rightIdentities, rightRoster, _⟩ :=
        observeSendMetadata_stores packet right
      refine ⟨?_, ?_, ?_⟩
      · rw [lifecycle_step, lifecycle_step, same.lifecycle]
      · rw [PacketObserver.step, PacketObserver.step, leftIdentities,
          rightIdentities, same.identities]
      · rw [PacketObserver.step, PacketObserver.step, leftRoster,
          rightRoster, same.roster]
  | activatedSkillArmed skillId callerReturnAddress callerRva =>
      obtain ⟨leftIdentities, leftRoster, _⟩ :=
        armActivatedSkillSendCorrelation_stores skillId
          callerReturnAddress callerRva left
      obtain ⟨rightIdentities, rightRoster, _⟩ :=
        armActivatedSkillSendCorrelation_stores skillId
          callerReturnAddress callerRva right
      refine ⟨?_, ?_, ?_⟩
      · rw [lifecycle_step, lifecycle_step, same.lifecycle]
      · rw [PacketObserver.step, PacketObserver.step, leftIdentities,
          rightIdentities, same.identities]
      · rw [PacketObserver.step, PacketObserver.step, leftRoster,
          rightRoster, same.roster]
  | _ =>
      exact ⟨same.lifecycle, same.identities, same.roster⟩

/-- Entering a world makes it the same for any two initialized states. -/
theorem sameWorld_enterWorld
    {left right : ObserverState}
    (leftInitialized : left.lifecycle = .initialized)
    (rightInitialized : right.lifecycle = .initialized)
    {packet : ReceivedPacket}
    (enterWorld : packet.opcode = kEnterWorldOpcode) :
    SameWorld (step left (.received packet))
      (step right (.received packet)) := by
  obtain ⟨leftIdentities, leftRoster, _⟩ :=
    observeReceiveMetadata_stores packet leftInitialized
  obtain ⟨rightIdentities, rightRoster, _⟩ :=
    observeReceiveMetadata_stores packet rightInitialized
  refine ⟨?_, ?_, ?_⟩
  · rw [lifecycle_step, lifecycle_step, leftInitialized, rightInitialized]
  · change (observeReceiveMetadata packet left).remoteIdentity.store =
      (observeReceiveMetadata packet right).remoteIdentity.store
    rw [leftIdentities, rightIdentities, if_pos enterWorld,
      if_pos enterWorld]
    exact store_maybeHandleRemoteMulticlassIdentity packet rfl
  · change (observeReceiveMetadata packet left).petRoster =
      (observeReceiveMetadata packet right).petRoster
    rw [leftRoster, rightRoster, if_pos enterWorld, if_pos enterWorld]

/-! ## Who-all queues -/

/-- What a queue entry shows of a player, without the counters. -/
structure ShownPlayer where
  name : List UInt8
  nameTruncated : Bool
  nativeClassId : UInt32
  entryIndex : UInt32
  deriving DecidableEq

/-- The player of a queue entry. -/
def shownPlayer (entry : WhoAllClassDisplayEntry) : ShownPlayer where
  name := entry.name
  nameTruncated := entry.nameTruncated
  nativeClassId := entry.nativeClassId
  entryIndex := entry.entryIndex

/-- The same players are queued, and as many of them consumed. -/
structure SameQueue (left right : WhoAllResponse.State) : Prop where
  players : left.entries.map shownPlayer = right.entries.map shownPlayer
  cursor : left.entryCursor = right.entryCursor

/-- The packet's players replace the queue. -/
def CapturesWhoAll (packet : ReceivedPacket) : Prop :=
  ¬ (!isWhoAllResponseOpcode packet.opcode ||
      decide (packet.payload.pointer = none) ||
      decide
        (packet.payload.length < kWhoAllResponseHeaderSize) ||
      decide (kPayloadSafetyCeiling < packet.payload.length)) =
    true

instance (packet : ReceivedPacket) : Decidable (CapturesWhoAll packet) :=
  inferInstanceAs (Decidable (¬ _))

/-- Queueing a player does not depend on the counters. -/
theorem SameQueue.appendEntry
    {left right : WhoAllResponse.State}
    (same : SameQueue left right)
    (leftActivation leftSequence leftIndex : UInt64)
    (rightActivation rightSequence rightIndex : UInt64)
    (entryIndex nativeClassId : UInt32)
    (name : List UInt8) :
    SameQueue
      (appendWhoAllClassDisplayEntry leftActivation leftSequence leftIndex
        entryIndex nativeClassId name left)
      (appendWhoAllClassDisplayEntry rightActivation rightSequence
        rightIndex entryIndex nativeClassId name right) := by
  have lengths : left.entries.length = right.entries.length := by
    simpa using congrArg List.length same.players
  unfold appendWhoAllClassDisplayEntry
  rw [lengths]
  split
  · exact same
  · exact ⟨by simp [same.players, shownPlayer], same.cursor⟩

/-- Nor does queueing the players of a response. -/
theorem SameQueue.capturePlayers
    {left right : WhoAllResponse.State}
    (same : SameQueue left right)
    (payload : Pointer)
    (payloadLength : UInt32)
    (leftActivation leftSequence leftIndex : UInt64)
    (rightActivation rightSequence rightIndex : UInt64)
    (remaining : Nat)
    (entryIndex cursor : UInt32) :
    SameQueue
      (WhoAllResponse.capturePlayers payload payloadLength leftActivation
        leftSequence leftIndex remaining entryIndex cursor left)
      (WhoAllResponse.capturePlayers payload payloadLength rightActivation
        rightSequence rightIndex remaining entryIndex cursor right) := by
  induction remaining generalizing left right entryIndex cursor with
  | zero =>
      exact same
  | succ remaining inductionHypothesis =>
      rw [WhoAllResponse.capturePlayers, WhoAllResponse.capturePlayers]
      cases readPlayerRecord payload payloadLength cursor with
      | none =>
          exact same
      | some read =>
          exact
            inductionHypothesis
              (same.appendEntry _ _ _ _ _ _ _ _ _) _ _

/-- A capture begins with an empty queue. -/
theorem sameQueue_begin (left right : WhoAllResponse.State) :
    SameQueue (beginWhoAllClassDisplayEntriesCapture left)
      (beginWhoAllClassDisplayEntriesCapture right) :=
  ⟨rfl, rfl⟩

/-- A captured response leaves the same queue, whatever was queued. -/
theorem sameQueue_captured
    {packet : ReceivedPacket}
    (captures : CapturesWhoAll packet)
    (leftSequence rightSequence : UInt64)
    (left right : WhoAllResponse.State) :
    SameQueue (maybeLogWhoAllResponse leftSequence packet left)
      (maybeLogWhoAllResponse rightSequence packet right) := by
  rw [maybeLogWhoAllResponse, maybeLogWhoAllResponse, if_neg captures,
    if_neg captures, captureWhoAllResponse, captureWhoAllResponse]
  simp only [armWhoAllClassDisplayCorrelation]
  split
  · exact (sameQueue_begin _ _).capturePlayers _ _ _ _ _ _ _ _ _ _ _
  · exact sameQueue_begin _ _

/-- Any received packet keeps two queues the same. -/
theorem SameQueue.received
    {left right : WhoAllResponse.State}
    (same : SameQueue left right)
    (packet : ReceivedPacket)
    (leftSequence rightSequence : UInt64) :
    SameQueue (maybeLogWhoAllResponse leftSequence packet left)
      (maybeLogWhoAllResponse rightSequence packet right) := by
  by_cases captures : CapturesWhoAll packet
  · exact sameQueue_captured captures _ _ _ _
  · rw [CapturesWhoAll, not_not] at captures
    rw [maybeLogWhoAllResponse, maybeLogWhoAllResponse, if_pos captures,
      if_pos captures]
    exact same

/-- The next named player is the same in two queues. -/
theorem nextNamedEntry_same
    {left right : List WhoAllClassDisplayEntry}
    (players : left.map shownPlayer = right.map shownPlayer)
    (cursor : Nat) :
    (nextNamedEntry left cursor).1 = (nextNamedEntry right cursor).1 ∧
      (nextNamedEntry left cursor).2.map shownPlayer =
        (nextNamedEntry right cursor).2.map shownPlayer := by
  induction left generalizing right cursor with
  | nil =>
      rw [List.map_nil, eq_comm, List.map_eq_nil_iff] at players
      subst right
      exact ⟨rfl, rfl⟩
  | cons candidate later inductionHypothesis =>
      cases right with
      | nil =>
          cases players
      | cons other rest =>
          simp only [List.map_cons, List.cons.injEq] at players
          have sameName : candidate.name = other.name :=
            congrArg ShownPlayer.name players.1
          rw [nextNamedEntry, nextNamedEntry, sameName]
          split
          · exact inductionHypothesis players.2 _
          · exact ⟨rfl, congrArg some players.1⟩

/-- So is what a consumer takes from the queue, and what it leaves. -/
theorem SameQueue.consume
    {left right : WhoAllResponse.State}
    (same : SameQueue left right) :
    SameQueue (tryConsumeWhoAllClassDisplayEntry left).1
        (tryConsumeWhoAllClassDisplayEntry right).1 ∧
      (tryConsumeWhoAllClassDisplayEntry left).2.map shownPlayer =
        (tryConsumeWhoAllClassDisplayEntry right).2.map shownPlayer := by
  have players :
      (left.entries.drop left.entryCursor).map shownPlayer =
        (right.entries.drop left.entryCursor).map shownPlayer := by
    rw [List.map_drop, List.map_drop, same.players]
  obtain ⟨cursor, entry⟩ := nextNamedEntry_same players left.entryCursor
  rw [tryConsumeWhoAllClassDisplayEntry,
    tryConsumeWhoAllClassDisplayEntry, ← same.cursor]
  exact ⟨⟨same.players, cursor⟩, entry⟩

/-- Two states whose queues hold the same players. -/
structure SameWhoAll (left right : ObserverState) : Prop where
  lifecycle : left.lifecycle = right.lifecycle
  queue : SameQueue left.whoAll right.whoAll

/-- Every event keeps the queues the same. -/
theorem SameWhoAll.step
    {left right : ObserverState}
    (same : SameWhoAll left right)
    (event : Event) :
    SameWhoAll (step left event) (step right event) := by
  refine ⟨by rw [lifecycle_step, lifecycle_step, same.lifecycle], ?_⟩
  cases event with
  | received packet =>
      by_cases initialized : left.lifecycle = .initialized
      · obtain ⟨_, _, leftQueue⟩ :=
          observeReceiveMetadata_stores packet initialized
        obtain ⟨_, _, rightQueue⟩ :=
          observeReceiveMetadata_stores packet
            (same.lifecycle ▸ initialized)
        rw [PacketObserver.step, PacketObserver.step, leftQueue,
          rightQueue]
        exact same.queue.received packet _ _
      · have leftIdle := observeReceiveMetadata_idle packet initialized
        have rightIdle :=
          observeReceiveMetadata_idle packet
            (same.lifecycle ▸ initialized)
        rw [PacketObserver.step, PacketObserver.step, leftIdle, rightIdle]
        exact same.queue
  | sent packet =>
      rw [PacketObserver.step, PacketObserver.step,
        (observeSendMetadata_stores packet left).2.2,
        (observeSendMetadata_stores packet right).2.2]
      exact same.queue
  | activatedSkillArmed skillId callerReturnAddress callerRva =>
      rw [PacketObserver.step, PacketObserver.step,
        (armActivatedSkillSendCorrelation_stores skillId
          callerReturnAddress callerRva left).2.2,
        (armActivatedSkillSendCorrelation_stores skillId
          callerReturnAddress callerRva right).2.2]
      exact same.queue
  | whoAllCorrelationConsumed =>
      rw [PacketObserver.step, PacketObserver.step,
        tryConsumeWhoAllClassDisplayCorrelation,
        tryConsumeWhoAllClassDisplayCorrelation]
      simp only
      split <;> split <;> exact ⟨same.queue.players, same.queue.cursor⟩
  | whoAllEntryConsumed =>
      exact same.queue.consume.1
  | _ =>
      exact same.queue

/-! ## Runs that agree from a world change on -/

/-- The snapshot that a state's roster and server-auth stats give. -/
def petSnapshot
    (sorter : Sorter seenBefore)
    (state : ObserverState) : MultiPetSpawnObserver.Snapshot :=
  MultiPetSpawnObserver.getSnapshot sorter
    (ServerAuthStats.getSnapshot state.serverAuth.globals) state.petRoster

/-- The same world stays the same through a run. -/
theorem SameWorld.observe
    {left right : ObserverState}
    (same : SameWorld left right)
    (events : List Event) :
    SameWorld (observe left events) (observe right events) :=
  Runs.simulation (fun _ _ event same => same.step event) same events

/-- So do the same queues. -/
theorem SameWhoAll.observe
    {left right : ObserverState}
    (same : SameWhoAll left right)
    (events : List Event) :
    SameWhoAll (observe left events) (observe right events) :=
  Runs.simulation (fun _ _ event same => same.step event) same events

/-- Capturing a response makes two initialized states' queues the same. -/
theorem sameWhoAll_captured
    {left right : ObserverState}
    (leftInitialized : left.lifecycle = .initialized)
    (rightInitialized : right.lifecycle = .initialized)
    {packet : ReceivedPacket}
    (captures : CapturesWhoAll packet) :
    SameWhoAll (step left (.received packet))
      (step right (.received packet)) := by
  obtain ⟨_, _, leftQueue⟩ :=
    observeReceiveMetadata_stores packet leftInitialized
  obtain ⟨_, _, rightQueue⟩ :=
    observeReceiveMetadata_stores packet rightInitialized
  refine ⟨?_, ?_⟩
  · rw [lifecycle_step, lifecycle_step, leftInitialized, rightInitialized]
  · rw [step, step, leftQueue, rightQueue]
    exact sameQueue_captured captures _ _ _ _

/-- So the queues are the same behind a captured response. -/
theorem sameWhoAll_observe
    {left right : ObserverState}
    (leftInitialized : left.lifecycle = .initialized)
    (rightInitialized : right.lifecycle = .initialized)
    {events : List Event}
    {packet : ReceivedPacket}
    (captured : .received packet ∈ events)
    (captures : CapturesWhoAll packet) :
    SameWhoAll (observe left events) (observe right events) := by
  obtain ⟨earlier, later, rfl⟩ := List.append_of_mem captured
  rw [observe_append, observe_append]
  exact
    (sameWhoAll_captured (lifecycle_observe leftInitialized earlier)
      (lifecycle_observe rightInitialized earlier) captures).observe later

/-- From an enter-world packet on two runs are in the same world. -/
theorem sameWorld_observe
    {left right : ObserverState}
    (leftInitialized : left.lifecycle = .initialized)
    (rightInitialized : right.lifecycle = .initialized)
    (leftBefore rightBefore : List Event)
    {packet : ReceivedPacket}
    (enterWorld : packet.opcode = kEnterWorldOpcode)
    (later : List Event) :
    SameWorld (observe left (leftBefore ++ .received packet :: later))
      (observe right (rightBefore ++ .received packet :: later)) := by
  rw [observe_append, observe_append]
  exact
    (sameWorld_enterWorld (lifecycle_observe leftInitialized leftBefore)
      (lifecycle_observe rightInitialized rightBefore) enterWorld).observe
      later

/--
From an enter-world packet on two runs answer every lookup of an identity
alike, and show the same other pets for the same focused pet; once one more
who-all response is captured they hand out the same players.
-/
theorem enterWorld_isolates
    {left right : ObserverState}
    (leftInitialized : left.lifecycle = .initialized)
    (rightInitialized : right.lifecycle = .initialized)
    (leftBefore rightBefore : List Event)
    {packet : ReceivedPacket}
    (enterWorld : packet.opcode = kEnterWorldOpcode)
    (later : List Event) :
    (∀ serverName characterName expectedNativeClassId,
        RemoteMulticlassIdentity.tryLookupCharacterClassMask serverName
            characterName expectedNativeClassId
            (observe left
              (leftBefore ++ .received packet :: later)).remoteIdentity.store =
          RemoteMulticlassIdentity.tryLookupCharacterClassMask serverName
            characterName expectedNativeClassId
            (observe right
              (rightBefore ++
                .received packet :: later)).remoteIdentity.store) ∧
      (∀ sorter authSnapshot,
        MultiPetSpawnObserver.getSnapshot sorter authSnapshot
            (observe left
              (leftBefore ++ .received packet :: later)).petRoster =
          MultiPetSpawnObserver.getSnapshot sorter authSnapshot
            (observe right
              (rightBefore ++ .received packet :: later)).petRoster) ∧
      ∀ response,
        .received response ∈ later → CapturesWhoAll response →
          (tryConsumeWhoAllClassDisplayEntry
              (observe left
                (leftBefore ++ .received packet :: later)).whoAll).2.map
              shownPlayer =
            (tryConsumeWhoAllClassDisplayEntry
              (observe right
                (rightBefore ++ .received packet :: later)).whoAll).2.map
              shownPlayer := by
  have leftReady := lifecycle_observe leftInitialized leftBefore
  have rightReady := lifecycle_observe rightInitialized rightBefore
  have sameWorld :=
    sameWorld_observe leftInitialized rightInitialized leftBefore rightBefore
      enterWorld later
  refine ⟨?_, ?_, ?_⟩
  · intro serverName characterName expectedNativeClassId
    rw [sameWorld.identities]
  · intro sorter authSnapshot
    rw [sameWorld.roster]
  · intro response captured captures
    rw [observe_append, observe_append]
    exact
      (sameWhoAll_observe leftReady rightReady
        (List.mem_cons_of_mem _ captured) captures).queue.consume.2

/-! ## The focused pet -/

/-- The event is a received enter-world packet. -/
def EntersWorld (event : Event) : Prop :=
  ∃ packet, event = .received packet ∧ packet.opcode = kEnterWorldOpcode

theorem entersWorld_received_iff (packet : ReceivedPacket) :
    EntersWorld (.received packet) ↔ packet.opcode = kEnterWorldOpcode := by
  constructor
  · rintro ⟨other, same, opcode⟩
    rwa [Event.received.inj same]
  · intro opcode
    exact ⟨packet, rfl, opcode⟩

/-- An enter-world packet is not handed to the auth-stats observer. -/
theorem deliveredPayload_enterWorld
    {event : Event}
    (entersWorld : EntersWorld event) :
    deliveredPayload event = none := by
  obtain ⟨packet, rfl, opcode⟩ := entersWorld
  rcases deliveredPayload_received packet with
    ⟨delivered, _⟩ | ⟨_, keptBack⟩
  · exfalso
    rw [Delivered, FallbackAccepted, opcode] at delivered
    rcases delivered with exactOpcode | ⟨zero, _⟩
    · exact absurd exactOpcode (by decide)
    · exact absurd zero (by decide)
  · exact keptBack

/-- The focused pet's id of the server-auth stats, zero for none. -/
def storedFocus (state : ObserverState) : UInt32 :=
  (ServerAuthStats.getSnapshot state.serverAuth.globals).focusedPetId.value

/-- A snapshot of the pets shows it. -/
theorem focusedPetId_petSnapshot
    (sorter : Sorter seenBefore)
    (state : ObserverState) :
    (petSnapshot sorter state).focusedPetId = storedFocus state :=
  focusedPetId_getSnapshot sorter _ _

/-- Snapshots of the pets depend on the roster and on this id alone. -/
theorem petSnapshot_congr
    (sorter : Sorter seenBefore)
    {left right : ObserverState}
    (roster : left.petRoster = right.petRoster)
    (focus :
      left.serverAuth.globals.focusedPetId =
          right.serverAuth.globals.focusedPetId ∨
        storedFocus left = 0 ∧ storedFocus right = 0) :
    petSnapshot sorter left = petSnapshot sorter right := by
  have unfocused :
      ∀ state, storedFocus state = 0 →
        petSnapshot sorter state = .initial := by
    intro state noFocus
    unfold storedFocus at noFocus
    unfold petSnapshot getSnapshot
    simp only [noFocus, decide_true, Bool.or_true, if_true]
    rfl
  rcases focus with same | ⟨leftNone, rightNone⟩
  · unfold petSnapshot getSnapshot ServerAuthStats.getSnapshot
    simp only [same, roster]
  · rw [unfocused left leftNone, unfocused right rightNone]

/-- The stored id after some payloads is the last valid one's, or what it was
before all of them. -/
theorem focusedPetId_observeAll
    (initial : ServerAuthStats.Globals)
    (payloads : List Payload) :
    (ServerAuthStats.observeAll initial payloads).focusedPetId =
      ((ServerAuthStats.validPackets payloads).getLast?.map fun entries =>
        (ServerAuthStats.summarize entries).focusedPetId.stored).getD
        initial.focusedPetId := by
  have rest :=
    congrArg ServerAuthStats.Snapshot.focusedPetId
      (ServerAuthStats.withoutClassesBitmask_observeAll initial payloads)
  rw [ServerAuthStats.withoutClassesBitmask] at rest
  rw [rest]
  cases (ServerAuthStats.validPackets payloads).getLast? <;> rfl

/-- Two observers that receive the same events have the same id, if one came
with them; otherwise each has the one it had. -/
theorem focusedPetId_observe_cases
    {left right : ObserverState}
    (leftInitialized : left.lifecycle = .initialized)
    (rightInitialized : right.lifecycle = .initialized)
    (events : List Event) :
    (observe left events).serverAuth.globals.focusedPetId =
        (observe right events).serverAuth.globals.focusedPetId ∨
      (observe left events).serverAuth.globals.focusedPetId =
          left.serverAuth.globals.focusedPetId ∧
        (observe right events).serverAuth.globals.focusedPetId =
          right.serverAuth.globals.focusedPetId := by
  rw [globals_observe leftInitialized, globals_observe rightInitialized,
    focusedPetId_observeAll, focusedPetId_observeAll]
  cases (ServerAuthStats.validPackets
      (events.filterMap deliveredPayload)).getLast? with
  | none =>
      exact .inr ⟨rfl, rfl⟩
  | some entries =>
      exact .inl rfl

/-! ## Worlds that are isolated -/

/-- Two states answer every lookup of an identity alike, and show the same
pets. -/
structure ShowSame (left right : ObserverState) : Prop where
  identities : ∀ serverName characterName expectedNativeClassId,
    RemoteMulticlassIdentity.tryLookupCharacterClassMask serverName
        characterName expectedNativeClassId left.remoteIdentity.store =
      RemoteMulticlassIdentity.tryLookupCharacterClassMask serverName
        characterName expectedNativeClassId right.remoteIdentity.store
  pets : ∀ sorter, petSnapshot sorter left = petSnapshot sorter right

/-- They hand out the same player of a who-all response next. -/
def HandOutSame (left right : ObserverState) : Prop :=
  (tryConsumeWhoAllClassDisplayEntry left.whoAll).2.map shownPlayer =
    (tryConsumeWhoAllClassDisplayEntry right.whoAll).2.map shownPlayer

/-- Behind each enter-world packet the observer shows what a fresh one shows
that received only this packet and those behind it; so does its who-all queue,
once it captured another response. -/
def WorldsIsolated (start : ObserverState) (events : List Event) : Prop :=
  ∀ earlier event later rest,
    events = earlier ++ event :: (later ++ rest) →
      EntersWorld event →
        ShowSame (observe start (earlier ++ event :: later))
            (observe freshObserver (event :: later)) ∧
          ∀ response,
            .received response ∈ later → CapturesWhoAll response →
              HandOutSame (observe start (earlier ++ event :: later))
                (observe freshObserver (event :: later))

/-- No pet is in focus when an enter-world packet arrives. -/
def EntersUnfocused (state : ObserverState) (event : Event) : Prop :=
  EntersWorld event → storedFocus state = 0

/-- An enter-world packet leaves the stored id alone. -/
theorem focusedPetId_enterWorld
    {state : ObserverState}
    (initialized : state.lifecycle = .initialized)
    {event : Event}
    (entersWorld : EntersWorld event) :
    (step state event).serverAuth.globals.focusedPetId =
      state.serverAuth.globals.focusedPetId := by
  rw [globals_step initialized, deliveredPayload_enterWorld entersWorld]
  rfl

/--
Worlds are isolated exactly when no enter-world packet arrives while a focused
pet's id is stored.
-/
theorem worldsIsolated_iff
    {start : ObserverState}
    (initialized : start.lifecycle = .initialized)
    (events : List Event) :
    WorldsIsolated start events ↔
      Runs.Along step EntersUnfocused start events := by
  have fresh : freshObserver.lifecycle = .initialized := rfl
  rw [Runs.along_iff]
  constructor
  · rintro isolated earlier event later rfl entersWorld
    -- The id is shown right behind the packet, and a fresh observer has none.
    have shown :=
      (isolated earlier event [] later rfl entersWorld).1.pets
        (.ofWeakOrder seenBefore seenBefore_asymmetric seenBefore_transitive)
    have sameId := congrArg Snapshot.focusedPetId shown
    have freshNone : storedFocus (step freshObserver event) = 0 := by
      unfold storedFocus ServerAuthStats.getSnapshot
      rw [focusedPetId_enterWorld fresh entersWorld]
      rfl
    rw [focusedPetId_petSnapshot, focusedPetId_petSnapshot,
      observe_append_singleton] at sameId
    change _ = storedFocus (step freshObserver event) at sameId
    rw [freshNone] at sameId
    unfold storedFocus ServerAuthStats.getSnapshot at sameId ⊢
    rwa [focusedPetId_enterWorld (lifecycle_observe initialized earlier)
      entersWorld] at sameId
  · rintro unfocused earlier event later rest rfl entersWorld
    obtain ⟨packet, rfl, opcode⟩ := entersWorld
    have entersWorld : EntersWorld (.received packet) := ⟨packet, rfl, opcode⟩
    obtain ⟨identities, _, handOuts⟩ :=
      enterWorld_isolates initialized fresh earlier [] opcode later
    have roster :=
      (sameWorld_observe initialized fresh earlier [] opcode later).roster
    refine ⟨⟨identities, fun sorter => petSnapshot_congr sorter roster ?_⟩,
      handOuts⟩
    -- Either a packet behind it brought the id, or both have what they had.
    have noFocus :=
      unfocused earlier (.received packet) (later ++ rest) rfl entersWorld
    have ready := lifecycle_observe initialized earlier
    rw [observe_append]
    rcases focusedPetId_observe_cases ready fresh
        (.received packet :: later) with same | ⟨kept, keptFresh⟩
    · exact .inl same
    · right
      unfold storedFocus ServerAuthStats.getSnapshot at noFocus ⊢
      rw [kept, keptFresh]
      exact ⟨noFocus, rfl⟩

/-! ## Two worlds -/

/-- A packet received at the start of the clock. -/
def packetOf (opcode : UInt32) (payload : Payload) : ReceivedPacket where
  opcode := opcode
  payload := payload
  serverName := none
  windowMs := 0
  startMs := 0

/-- An enter-world packet without contents. -/
def enterWorldPacket : ReceivedPacket :=
  packetOf kEnterWorldOpcode (.ofBytes [] (by decide))

/-- A who-all response that lists the warrior Ann. -/
def whoAllPacket : ReceivedPacket :=
  packetOf kWhoAllResponseOpcode
    (.ofBytes
      (List.replicate 60 0 ++ [1, 0, 0, 0] ++ List.replicate 12 0 ++
        ascii "Ann" ++ List.replicate 22 0 ++ 1 :: List.replicate 16 0)
      (by decide +kernel))

/-- Ann is a cleric, too. -/
def identityPacket : ReceivedPacket where
  opcode := RemoteMulticlassIdentity.kRemoteMulticlassIdentityOpcode
  payload :=
    .ofBytes ([1, 0, 0, 0] ++ ascii "Ann" ++ [0, 1, 0, 0, 0, 3, 0, 0, 0])
      (by decide +kernel)
  serverName := some (.ofText (ascii "Alpha"))
  windowMs := 0
  startMs := 0

/-- Server-auth stats that put a pet in focus. -/
def focusPacket : ReceivedPacket :=
  packetOf kServerAuthStatsOpcode (focusPayload 101)

/-- The spawn of a pet of the same owner. -/
def petPacket (spawnId : UInt32) : ReceivedPacket :=
  packetOf kNewSpawnOpcode (spawnPayload petName petName_short spawnId 42)

/-- Ann and two pets are seen in one world, Ann and two pets in the next. -/
def twoWorlds : List Event :=
  [.received (petPacket 101), .received (petPacket 103),
    .received identityPacket, .received whoAllPacket,
    .received enterWorldPacket, .received focusPacket,
    .received (petPacket 101), .received (petPacket 102),
    .received identityPacket, .received whoAllPacket]

/-- The second world is isolated from the first, and shows its own pet and
Ann. -/
theorem worldsIsolated_iff_twoWorlds :
    WorldsIsolated freshObserver twoWorlds ∧
      (petSnapshot petSorter
          (observe freshObserver twoWorlds)).otherPetSpawnId.toList =
        [102, 0] ∧
      RemoteMulticlassIdentity.tryLookupCharacterClassMask
          (some (.ofText (ascii "Alpha"))) (some (.ofText (ascii "Ann"))) 1
          (observe freshObserver twoWorlds).remoteIdentity.store =
        some 3 ∧
      (tryConsumeWhoAllClassDisplayEntry
          (observe freshObserver twoWorlds).whoAll).2.map
          WhoAllClassDisplayEntry.name =
        some (ascii "Ann") := by
  refine ⟨(worldsIsolated_iff rfl twoWorlds).mpr ?_, ?_, ?_, ?_⟩
  · have other : ∀ state packet, packet.opcode ≠ kEnterWorldOpcode →
        EntersUnfocused state (.received packet) :=
      fun state packet isOther enters =>
        (isOther ((entersWorld_received_iff packet).mp enters)).elim
    refine ⟨other _ _ (by decide), other _ _ (by decide),
      other _ _ (by decide), other _ _ (by decide),
      fun _ => by decide +kernel, other _ _ (by decide),
      other _ _ (by decide), other _ _ (by decide), other _ _ (by decide),
      other _ _ (by decide), trivial⟩
  · decide +kernel
  · decide +kernel
  · decide +kernel

/-- A focused pet's id from the first world is still shown in the second. -/
theorem focusedPetId_survives_enterWorld :
    ¬ WorldsIsolated freshObserver
      [.received focusPacket, .received enterWorldPacket] := by
  intro isolated
  have shown :=
    (isolated [.received focusPacket] (.received enterWorldPacket) [] [] rfl
      ⟨enterWorldPacket, rfl, rfl⟩).1.pets petSorter
  have sameId := congrArg Snapshot.focusedPetId shown
  exact absurd sameId (by decide +kernel)

end MonomythClient.PacketObserver
