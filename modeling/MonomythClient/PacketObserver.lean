import MonomythClient.MultiPetSpawnObserver
import MonomythClient.RemoteMulticlassIdentity
import MonomythClient.Runs
import MonomythClient.ServerAuthTraffic
import MonomythClient.TimedCast
import MonomythClient.WhoAllResponse

namespace MonomythClient.PacketObserver

open ByteText OpcodeReference PayloadReader

/-!
# The packet observer

Every received packet runs through all observers in the source's order, every
sent packet arms the windows it opens, and the queries the hooks make consume
them.  The state keeps one component for each group of globals.  Log lines are
left out, with the counters and flags that only they read.
-/

def kEnterWorldOpcode : UInt32 := 0x578F
def kZoneEntryOpcode : UInt32 := 0x5089
def kNewSpawnOpcode : UInt32 := 0x6097
def kDeleteSpawnOpcode : UInt32 := 0x7280
def kWhoAllResponseOpcode : UInt32 := 0x578C
def kMoveItemOpcode : UInt32 := 0x32EE
def kGuildMemberListOpcode : UInt32 := 0x12A6
def kGuildUpdateOpcode : UInt32 := 0x2958
def kGuildMemberUpdateOpcode : UInt32 := 0x69B9
def kPayloadSafetyCeiling : UInt32 := 4096
def kMoveItemReceiveFocusBudget : UInt32 := 12
def kActivatedSkillSendCorrelationBudget : UInt32 := 12
def kFirstIntrospectionLogLimit : UInt64 := 10
def kIntrospectionLogSampleInterval : UInt64 := 1000
def kPrefixByteCap : UInt32 := 16

/-! ## State -/

/-- `State`: whether packets are observed at all. -/
inductive Lifecycle where
  | unavailable
  | disabledByCapability
  | disabledByHookFailure
  | initialized
  | shutdown
  deriving Repr, DecidableEq

/-- How many received packets are still in focus after a move-item send. -/
structure MoveItemFocus where
  remaining : UInt32
  activation : UInt64
  deriving Repr, DecidableEq

/-- The sends that are correlated with an activated skill. -/
structure ActivatedSkillCorrelation where
  remaining : UInt32
  activation : UInt64
  skillId : Int32
  callerReturn : UInt32
  callerRva : UInt32
  deriving Repr, DecidableEq

/-- The optional introspection of allowlisted packets. -/
structure Introspection where
  enabled : Bool
  allowlist : List UInt32
  matchCount : UInt64
  skipCount : UInt64
  deriving Repr, DecidableEq

/-- The remote identities, and how many such packets arrived. -/
structure RemoteIdentityTraffic where
  packetCount : UInt64
  store : RemoteMulticlassIdentity.Store
  deriving Repr, DecidableEq

/-- All globals of the observer and of the observers it feeds. -/
structure ObserverState where
  lifecycle : Lifecycle
  observedCount : UInt64
  observedSendCount : UInt64
  introspection : Introspection
  moveItemFocus : MoveItemFocus
  serverAuth : ServerAuthTraffic
  guildRosterPacketTraceCount : UInt64
  remoteIdentity : RemoteIdentityTraffic
  petRoster : MultiPetSpawnObserver.Roster
  whoAll : WhoAllResponse.State
  activatedSkill : ActivatedSkillCorrelation
  timedCast : TimedCast
  deriving Repr, DecidableEq

/-- The globals at process start. -/
def ObserverState.processStart : ObserverState where
  lifecycle := .unavailable
  observedCount := 0
  observedSendCount := 0
  introspection :=
    { enabled := false, allowlist := [], matchCount := 0, skipCount := 0 }
  moveItemFocus := { remaining := 0, activation := 0 }
  serverAuth :=
    { globals := .initial
      exactMatchCount := 0
      candidateCount := 0
      fallbackAcceptCount := 0
      missingWarningLogged := false
      notifications := [] }
  guildRosterPacketTraceCount := 0
  remoteIdentity := { packetCount := 0, store := [] }
  petRoster := .initial
  whoAll := .initial
  activatedSkill :=
    { remaining := 0
      activation := 0
      skillId := -1
      callerReturn := 0
      callerRva := 0 }
  timedCast := .initial

/-! ## Lifecycle -/

/-- The manifest members that `Initialize` branches on or stores. -/
structure Manifest where
  packetHooksAllowed : Bool
  memorizeSendTraceAllowed : Bool
  receiveIntrospectionAllowed : Bool
  deriving Repr, DecidableEq

/-- `Initialize`, given the allowlist that the environment configures. -/
def initializeObserver
    (manifest : Manifest)
    (allowlist : List UInt32)
    (state : ObserverState) :
    ObserverState :=
  if state.lifecycle = .initialized then
    state
  else if manifest.packetHooksAllowed = false ∧
      manifest.memorizeSendTraceAllowed = false then
    { state with lifecycle := .disabledByCapability }
  else
    { state with
      lifecycle := .initialized
      observedCount := 0
      observedSendCount := 0
      introspection :=
        { enabled := manifest.receiveIntrospectionAllowed
          allowlist := allowlist
          matchCount := 0
          skipCount := 0 }
      moveItemFocus := { remaining := 0, activation := 0 }
      serverAuth :=
        { state.serverAuth with
          exactMatchCount := 0
          candidateCount := 0
          fallbackAcceptCount := 0
          missingWarningLogged := false }
      guildRosterPacketTraceCount := 0
      remoteIdentity :=
        { packetCount := 0
          store :=
            RemoteMulticlassIdentity.clear state.remoteIdentity.store }
      petRoster := MultiPetSpawnObserver.clear state.petRoster
      whoAll :=
        WhoAllResponse.resetWhoAllClassDisplayEntries
          { state.whoAll with
            responseCount := 0
            correlationRemaining := 0
            correlationActivation := 0
            correlationReceiveSequence := 0
            correlationResponseIndex := 0 } }

/-- An initialized observer that has seen nothing yet. -/
def freshObserver : ObserverState :=
  initializeObserver
    { packetHooksAllowed := true
      memorizeSendTraceAllowed := true
      receiveIntrospectionAllowed := false }
    [] .processStart

/-! ## Received packets -/

/--
One received packet, with what the observer reads elsewhere while handling it:
the current server's name, if there is one, and two clock readings.
-/
structure ReceivedPacket where
  opcode : UInt32
  payload : Payload
  serverName : Option CString
  windowMs : UInt64
  startMs : UInt64
  deriving DecidableEq

/-- `IsWhoAllResponseOpcode`. -/
def isWhoAllResponseOpcode : UInt32 → Bool :=
  isTableOpcode kWhoAllResponseOpcode "OP_WhoAllResponse"

/-- `IsRemoteMulticlassIdentityOpcode`. -/
def isRemoteMulticlassIdentityOpcode : UInt32 → Bool :=
  isTableOpcode RemoteMulticlassIdentity.kRemoteMulticlassIdentityOpcode
    "OP_RemoteMulticlassIdentity"

/-- `IsGuildRosterOpcode`. -/
def isGuildRosterOpcode (opcode : UInt32) : Bool :=
  decide
    (opcode = kGuildMemberListOpcode ∨ opcode = kGuildUpdateOpcode ∨
      opcode = kGuildMemberUpdateOpcode)

/-- `TryConsumeMoveItemReceiveFocus`: the window it leaves. -/
def tryConsumeMoveItemReceiveFocus (focus : MoveItemFocus) : MoveItemFocus :=
  if focus.remaining = 0 then
    focus
  else
    { focus with remaining := focus.remaining - 1 }

/-- `MaybeHandleRemoteMulticlassIdentity`. -/
def maybeHandleRemoteMulticlassIdentity
    (packet : ReceivedPacket)
    (traffic : RemoteIdentityTraffic) :
    RemoteIdentityTraffic :=
  if !isRemoteMulticlassIdentityOpcode packet.opcode ||
      decide (packet.payload.pointer = none) ||
      decide (packet.payload.length < 4) ||
      decide (kPayloadSafetyCeiling < packet.payload.length) then
    traffic
  else
    let parsed :=
      RemoteMulticlassIdentity.parsePayload packet.payload.pointer
        packet.payload.length
    let traffic :=
      { traffic with packetCount := traffic.packetCount + 1 }
    match parsed.valid, packet.serverName with
    | true, some serverName =>
        { traffic with
          store :=
            parsed.entries.foldl
              (fun store entry =>
                (RemoteMulticlassIdentity.storeCharacterClassMask
                  (some serverName) (some (.ofText entry.characterName))
                  entry.nativeClassId entry.classesBitmask store).1)
              traffic.store }
    | _, _ => traffic

/-- `MaybeObserveMultiPetSpawnRoster`. -/
def maybeObserveMultiPetSpawnRoster
    (packet : ReceivedPacket)
    (roster : MultiPetSpawnObserver.Roster) :
    MultiPetSpawnObserver.Roster :=
  if packet.payload.pointer = none then
    roster
  else if packet.opcode = kZoneEntryOpcode ∨
      packet.opcode = kNewSpawnOpcode then
    MultiPetSpawnObserver.observeSpawnPayload packet.payload roster
  else if packet.opcode = kDeleteSpawnOpcode then
    MultiPetSpawnObserver.observeDeleteSpawnPayload packet.payload roster
  else
    roster

/-- `MaybeLogWhoAllResponse`. -/
def maybeLogWhoAllResponse
    (sequence : UInt64)
    (packet : ReceivedPacket)
    (state : WhoAllResponse.State) :
    WhoAllResponse.State :=
  if !isWhoAllResponseOpcode packet.opcode ||
      decide (packet.payload.pointer = none) ||
      decide
        (packet.payload.length < WhoAllResponse.kWhoAllResponseHeaderSize) ||
      decide (kPayloadSafetyCeiling < packet.payload.length) then
    state
  else
    WhoAllResponse.captureWhoAllResponse sequence packet.payload state

/-- `MaybeLogGuildRosterPacket`: the trace count it leaves. -/
def maybeLogGuildRosterPacket
    (packet : ReceivedPacket)
    (traceCount : UInt64) :
    UInt64 :=
  if !isGuildRosterOpcode packet.opcode ||
      decide (packet.payload.pointer = none) ||
      decide (packet.payload.length = 0) ||
      decide (kPayloadSafetyCeiling < packet.payload.length) then
    traceCount
  else
    traceCount + 1

/-- `ShouldLogIntrospection`. -/
def shouldLogIntrospection (sequence : UInt64) : Bool :=
  decide
    (sequence ≤ kFirstIntrospectionLogLimit ∨
      sequence % kIntrospectionLogSampleInterval = 0)

/-- The introspection at the end of `ObserveReceiveMetadata`. -/
def introspect
    (packet : ReceivedPacket)
    (introspection : Introspection) :
    Introspection :=
  if !introspection.enabled ||
      !introspection.allowlist.contains packet.opcode then
    introspection
  else
    let introspectionSequence := introspection.matchCount + 1
    let introspection :=
      { introspection with matchCount := introspectionSequence }
    let skipped :=
      { introspection with skipCount := introspection.skipCount + 1 }
    if packet.payload.length = 0 then
      skipped
    else if packet.payload.pointer = none then
      skipped
    else if kPayloadSafetyCeiling < packet.payload.length then
      skipped
    else if !shouldLogIntrospection introspectionSequence then
      introspection
    else
      let prefixLength := min packet.payload.length kPrefixByteCap
      match packet.payload.pointer.bind fun memory =>
          copyBytes memory 0 prefixLength.toNat with
      | none => skipped
      | some _prefixBytes => introspection

/-- `ObserveReceiveMetadata`. -/
def observeReceiveMetadata
    (packet : ReceivedPacket)
    (state : ObserverState) :
    ObserverState :=
  if state.lifecycle ≠ .initialized then
    state
  else
    let sequence := state.observedCount + 1
    let state := { state with observedCount := sequence }
    let state :=
      { state with
        moveItemFocus := tryConsumeMoveItemReceiveFocus state.moveItemFocus }
    let state :=
      if packet.opcode = kEnterWorldOpcode then
        { state with
          remoteIdentity :=
            { state.remoteIdentity with
              store :=
                RemoteMulticlassIdentity.clear state.remoteIdentity.store }
          petRoster := MultiPetSpawnObserver.clear state.petRoster
          timedCast := clearTimedCastState state.timedCast }
      else
        state
    let state :=
      { state with
        timedCast :=
          observeTimedCastPacket packet.opcode packet.payload
            packet.windowMs packet.startMs state.timedCast }
    let state :=
      { state with
        serverAuth :=
          observeServerAuthTraffic packet.opcode packet.payload
            state.serverAuth }
    let state :=
      { state with
        remoteIdentity :=
          maybeHandleRemoteMulticlassIdentity packet state.remoteIdentity }
    let state :=
      { state with
        petRoster :=
          maybeObserveMultiPetSpawnRoster packet state.petRoster }
    let state :=
      { state with
        whoAll := maybeLogWhoAllResponse sequence packet state.whoAll }
    let state :=
      { state with
        guildRosterPacketTraceCount :=
          maybeLogGuildRosterPacket packet
            state.guildRosterPacketTraceCount }
    let state :=
      { state with
        serverAuth :=
          maybeLogMissingServerAuthStatsWarning sequence state.serverAuth }
    { state with introspection := introspect packet state.introspection }

/-! ## Sent packets -/

/-- One sent packet, with a clock reading. -/
structure SentPacket where
  opcodeDecoded : Bool
  opcode : UInt32
  originalResult : Bool
  originalResultAvailable : Bool
  nowMs : UInt64
  deriving Repr, DecidableEq

/-- The decoded opcode of a send that the original function accepted. -/
def SentPacket.succeededWith (packet : SentPacket) (opcode : UInt32) : Bool :=
  packet.opcodeDecoded && decide (packet.opcode = opcode) &&
    packet.originalResultAvailable && packet.originalResult

/-- `TryConsumeActivatedSkillSendCorrelation`: the window it leaves. -/
def tryConsumeActivatedSkillSendCorrelation
    (correlation : ActivatedSkillCorrelation) :
    ActivatedSkillCorrelation :=
  if correlation.remaining = 0 then
    correlation
  else
    { correlation with remaining := correlation.remaining - 1 }

/-- `ObserveSendMetadata`. -/
def observeSendMetadata
    (packet : SentPacket)
    (state : ObserverState) :
    ObserverState :=
  if state.lifecycle ≠ .initialized then
    state
  else
    let state :=
      { state with observedSendCount := state.observedSendCount + 1 }
    let state :=
      if packet.succeededWith kMoveItemOpcode then
        { state with
          moveItemFocus :=
            { remaining := kMoveItemReceiveFocusBudget
              activation := state.moveItemFocus.activation + 1 } }
      else
        state
    let state :=
      if packet.succeededWith kCastSpellOpcode then
        { state with
          timedCast := armLocalBeginCastWindow packet.nowMs state.timedCast }
      else
        state
    { state with
      activatedSkill :=
        tryConsumeActivatedSkillSendCorrelation state.activatedSkill }

/-- `ArmActivatedSkillSendCorrelation`. -/
def armActivatedSkillSendCorrelation
    (skillId : Int32)
    (callerReturnAddress callerRva : UInt32)
    (state : ObserverState) :
    ObserverState :=
  if state.lifecycle ≠ .initialized then
    state
  else
    { state with
      activatedSkill :=
        { remaining := kActivatedSkillSendCorrelationBudget
          activation := state.activatedSkill.activation + 1
          skillId := skillId
          callerReturn := callerReturnAddress
          callerRva := callerRva } }

/-! ## Runs -/

/-- Everything that calls into an observer once it is set up. -/
inductive Event where
  | received (packet : ReceivedPacket)
  | sent (packet : SentPacket)
  | activatedSkillArmed
      (skillId : Int32)
      (callerReturnAddress callerRva : UInt32)
  | timedCastQueried (nowMs : UInt64)
  | timedCastSpellQueried (nowMs : UInt64)
  | whoAllCorrelationConsumed
  | whoAllEntryConsumed
  deriving DecidableEq

/-- The state after one event. -/
def step (state : ObserverState) : Event → ObserverState
  | .received packet => observeReceiveMetadata packet state
  | .sent packet => observeSendMetadata packet state
  | .activatedSkillArmed skillId callerReturnAddress callerRva =>
      armActivatedSkillSendCorrelation skillId callerReturnAddress callerRva
        state
  | .timedCastQueried nowMs =>
      { state with
        timedCast := (isTimedCastActive nowMs state.timedCast).1 }
  | .timedCastSpellQueried nowMs =>
      { state with
        timedCast := (getTimedCastSpellId nowMs state.timedCast).1 }
  | .whoAllCorrelationConsumed =>
      { state with
        whoAll :=
          (WhoAllResponse.tryConsumeWhoAllClassDisplayCorrelation
            state.whoAll).1 }
  | .whoAllEntryConsumed =>
      { state with
        whoAll :=
          (WhoAllResponse.tryConsumeWhoAllClassDisplayEntry
            state.whoAll).1 }

/-- The state after a run of events. -/
def observe (start : ObserverState) (events : List Event) : ObserverState :=
  Runs.run step start events

/-! ## What one event does -/

/-- A received packet's part in the lifecycle, the snapshot and the tracker. -/
theorem observeReceiveMetadata_spec
    (packet : ReceivedPacket)
    {state : ObserverState}
    (initialized : state.lifecycle = .initialized) :
    (observeReceiveMetadata packet state).lifecycle = .initialized ∧
      (observeReceiveMetadata packet state).serverAuth =
        maybeLogMissingServerAuthStatsWarning (state.observedCount + 1)
          (observeServerAuthTraffic packet.opcode packet.payload
            state.serverAuth) ∧
      (observeReceiveMetadata packet state).timedCast =
        observeTimedCastPacket packet.opcode packet.payload packet.windowMs
          packet.startMs
          (if packet.opcode = kEnterWorldOpcode then
            clearTimedCastState state.timedCast
          else
            state.timedCast) := by
  simp only [observeReceiveMetadata, initialized, ne_eq, not_true_eq_false,
    if_false]
  by_cases enterWorld : packet.opcode = kEnterWorldOpcode
  · simp only [if_pos enterWorld, and_self]
  · simp only [if_neg enterWorld, and_self]

/-- Before the observer is set up a received packet does nothing. -/
theorem observeReceiveMetadata_idle
    (packet : ReceivedPacket)
    {state : ObserverState}
    (idle : state.lifecycle ≠ .initialized) :
    observeReceiveMetadata packet state = state :=
  if_pos idle

/-- A sent packet reaches the tracker and not the snapshot. -/
theorem observeSendMetadata_spec
    (packet : SentPacket)
    (state : ObserverState) :
    (observeSendMetadata packet state).lifecycle = state.lifecycle ∧
      (observeSendMetadata packet state).serverAuth = state.serverAuth ∧
      (state.lifecycle = .initialized →
        (observeSendMetadata packet state).timedCast =
          if packet.succeededWith kCastSpellOpcode then
            armLocalBeginCastWindow packet.nowMs state.timedCast
          else
            state.timedCast) := by
  by_cases initialized : state.lifecycle = .initialized
  · simp only [observeSendMetadata, initialized, ne_eq, not_true_eq_false,
      if_false]
    by_cases moves : packet.succeededWith kMoveItemOpcode
    · by_cases casts : packet.succeededWith kCastSpellOpcode
      · simp [moves, casts]
      · simp [moves, casts]
    · by_cases casts : packet.succeededWith kCastSpellOpcode
      · simp [moves, casts]
      · simp [moves, casts]
  · have unchanged : observeSendMetadata packet state = state :=
      if_pos initialized
    rw [unchanged]
    exact ⟨rfl, rfl, fun isInitialized => (initialized isInitialized).elim⟩

/-- Arming the skill correlation touches none of the three. -/
theorem armActivatedSkillSendCorrelation_spec
    (skillId : Int32)
    (callerReturnAddress callerRva : UInt32)
    (state : ObserverState) :
    (armActivatedSkillSendCorrelation skillId callerReturnAddress callerRva
          state).lifecycle = state.lifecycle ∧
      (armActivatedSkillSendCorrelation skillId callerReturnAddress callerRva
          state).serverAuth = state.serverAuth ∧
      (armActivatedSkillSendCorrelation skillId callerReturnAddress callerRva
          state).timedCast = state.timedCast := by
  unfold armActivatedSkillSendCorrelation
  split
  · exact ⟨rfl, rfl, rfl⟩
  · exact ⟨rfl, rfl, rfl⟩

/-- No event sets the observer up or shuts it down. -/
theorem lifecycle_step (state : ObserverState) (event : Event) :
    (step state event).lifecycle = state.lifecycle := by
  cases event with
  | received packet =>
      by_cases initialized : state.lifecycle = .initialized
      · rw [initialized]
        exact (observeReceiveMetadata_spec packet initialized).1
      · exact congrArg ObserverState.lifecycle
          (observeReceiveMetadata_idle packet initialized)
  | sent packet =>
      exact (observeSendMetadata_spec packet state).1
  | activatedSkillArmed skillId callerReturnAddress callerRva =>
      exact
        (armActivatedSkillSendCorrelation_spec skillId callerReturnAddress
          callerRva state).1
  | _ =>
      rfl

/-- Nor does a run. -/
theorem lifecycle_observe
    {lifecycle : Lifecycle}
    {start : ObserverState}
    (before : start.lifecycle = lifecycle)
    (events : List Event) :
    (observe start events).lifecycle = lifecycle :=
  Runs.invariant
    (fun state event still => (lifecycle_step state event).trans still)
    before events

/-- Runs compose. -/
theorem observe_append
    (start : ObserverState)
    (earlier later : List Event) :
    observe start (earlier ++ later) =
      observe (observe start earlier) later :=
  Runs.run_append step start earlier later

/-- One more event is one more step. -/
theorem observe_append_singleton
    (start : ObserverState)
    (earlier : List Event)
    (event : Event) :
    observe start (earlier ++ [event]) =
      step (observe start earlier) event :=
  observe_append start earlier [event]

end MonomythClient.PacketObserver
