import MonomythClient.PayloadReader

namespace MonomythClient.WhoAllResponse

open PayloadReader

/-!
# Who-all responses

A who-all response lists the players that the client is about to show.  The
observer opens a correlation window for the class labels that follow, and
queues the name and class of every player whose record it can read, up to a
fixed capacity.
-/

def kWhoAllClassDisplayCorrelationBudget : UInt32 := 48
def kWhoAllClassDisplayEntryCaptureCap : Nat := 256
def kWhoAllResponseHeaderSize : UInt32 := 64
def kWhoAllResponseFixedBlockBytes : UInt32 := 28
def kWhoAllEntryNameBytes : Nat := 64

/-! ## State -/

/-- One queued player; the name is cut to the size of its buffer. -/
structure WhoAllClassDisplayEntry where
  nameTruncated : Bool
  activation : UInt64
  receiveSequence : UInt64
  responseIndex : UInt64
  entryIndex : UInt32
  nativeClassId : UInt32
  name : List UInt8
  deriving Repr, DecidableEq

/-- The correlation window and the queue; every queued entry is active. -/
structure State where
  responseCount : UInt64
  correlationRemaining : UInt32
  correlationActivation : UInt64
  correlationReceiveSequence : UInt64
  correlationResponseIndex : UInt64
  entries : List WhoAllClassDisplayEntry
  entryCursor : Nat
  deriving Repr, DecidableEq

/-- The state that `Initialize` sets. -/
def State.initial : State where
  responseCount := 0
  correlationRemaining := 0
  correlationActivation := 0
  correlationReceiveSequence := 0
  correlationResponseIndex := 0
  entries := []
  entryCursor := 0

/-- `ResetWhoAllClassDisplayEntries`. -/
def resetWhoAllClassDisplayEntries (state : State) : State :=
  { state with entries := [], entryCursor := 0 }

/-- `BeginWhoAllClassDisplayEntriesCapture`. -/
def beginWhoAllClassDisplayEntriesCapture (state : State) : State :=
  { state with entries := [], entryCursor := 0 }

/-- `AppendWhoAllClassDisplayEntry`. -/
def appendWhoAllClassDisplayEntry
    (activation receiveSequence responseIndex : UInt64)
    (entryIndex nativeClassId : UInt32)
    (name : List UInt8)
    (state : State) :
    State :=
  if kWhoAllClassDisplayEntryCaptureCap ≤ state.entries.length then
    state
  else
    let copyLength := min name.length (kWhoAllEntryNameBytes - 1)
    { state with
      entries :=
        state.entries ++
          [{ nameTruncated := decide (copyLength < name.length)
             activation := activation
             receiveSequence := receiveSequence
             responseIndex := responseIndex
             entryIndex := entryIndex
             nativeClassId := nativeClassId
             name := name.take copyLength }] }

/-- `ArmWhoAllClassDisplayCorrelation`, with the new activation. -/
def armWhoAllClassDisplayCorrelation
    (receiveSequence responseIndex : UInt64)
    (state : State) :
    State × UInt64 :=
  let activation := state.correlationActivation + 1
  ({ state with
      correlationActivation := activation
      correlationReceiveSequence := receiveSequence
      correlationResponseIndex := responseIndex
      correlationRemaining := kWhoAllClassDisplayCorrelationBudget },
    activation)

/-! ## Records -/

/-- What is kept of one player record. -/
structure PlayerRecord where
  name : List UInt8
  classId : UInt32
  deriving Repr, DecidableEq

/-- One pass of the record loop: the record, and the cursor behind it. -/
def readPlayerRecord
    (payload : Pointer)
    (payloadLength cursor : UInt32) :
    Option (PlayerRecord × UInt32) := do
  let _formatString ← tryReadU32 payload payloadLength cursor
  let _pidString ← tryReadU32 payload payloadLength (cursor + 4)
  let cursor := cursor + 12
  let (name, cursor) ← tryReadCString payload payloadLength cursor
  let _rankString ← tryReadU32 payload payloadLength cursor
  let cursor := cursor + 4
  let (_guild, cursor) ← tryReadCString payload payloadLength cursor
  guard
    (¬ (payloadLength < cursor ∨
      payloadLength - cursor < kWhoAllResponseFixedBlockBytes))
  let _zoneString ← tryReadU32 payload payloadLength (cursor + 8)
  let _zone ← tryReadU32 payload payloadLength (cursor + 12)
  let classId ← tryReadU32 payload payloadLength (cursor + 16)
  let _level ← tryReadU32 payload payloadLength (cursor + 20)
  let _race ← tryReadU32 payload payloadLength (cursor + 24)
  let cursor := cursor + kWhoAllResponseFixedBlockBytes
  let (_account, cursor) ← tryReadCString payload payloadLength cursor
  let _unknown100 ← tryReadU32 payload payloadLength cursor
  return ({ name := name, classId := classId }, cursor + 4)

/-- The record loop: it stops at the first record that cannot be read. -/
def capturePlayers
    (payload : Pointer)
    (payloadLength : UInt32)
    (activation receiveSequence responseIndex : UInt64) :
    Nat → UInt32 → UInt32 → State → State
  | 0, _, _, state => state
  | remaining + 1, entryIndex, cursor, state =>
      match readPlayerRecord payload payloadLength cursor with
      | none => state
      | some (player, cursor) =>
          capturePlayers payload payloadLength activation receiveSequence
            responseIndex remaining (entryIndex + 1) cursor
            (appendWhoAllClassDisplayEntry activation receiveSequence
              responseIndex entryIndex player.classId player.name state)

/-- The part of `MaybeLogWhoAllResponse` behind its opcode and size checks. -/
def captureWhoAllResponse
    (sequence : UInt64)
    (payload : Payload)
    (state : State) :
    State :=
  let responseIndex := state.responseCount + 1
  let state := { state with responseCount := responseIndex }
  let (state, activation) :=
    armWhoAllClassDisplayCorrelation sequence responseIndex state
  let state := beginWhoAllClassDisplayEntriesCapture state
  match tryReadU32 payload.pointer payload.length 60,
      tryReadU32 payload.pointer payload.length 40 with
  | some playerCount, some _playersInZoneString =>
      capturePlayers payload.pointer payload.length activation sequence
        responseIndex playerCount.toNat 0 kWhoAllResponseHeaderSize state
  | _, _ => state

/-! ## Consumers -/

/-- `WhoAllClassDisplayCorrelationWindow` of a successful consumption. -/
structure CorrelationWindow where
  activation : UInt64
  receiveSequence : UInt64
  responseIndex : UInt64
  remainingBefore : UInt32
  remainingAfter : UInt32
  deriving Repr, DecidableEq

/-- `TryConsumeWhoAllClassDisplayCorrelation`. -/
def tryConsumeWhoAllClassDisplayCorrelation
    (state : State) :
    State × Option CorrelationWindow :=
  let current := state.correlationRemaining
  if current = 0 then
    (state, none)
  else
    ({ state with correlationRemaining := current - 1 },
      some
        { activation := state.correlationActivation
          receiveSequence := state.correlationReceiveSequence
          responseIndex := state.correlationResponseIndex
          remainingBefore := current
          remainingAfter := current - 1 })

/-- The consuming loop of `TryConsumeWhoAllClassDisplayEntry`. -/
def nextNamedEntry :
    List WhoAllClassDisplayEntry →
    Nat →
    Nat × Option WhoAllClassDisplayEntry
  | [], cursor => (cursor, none)
  | candidate :: later, cursor =>
      if candidate.name = [] then
        nextNamedEntry later (cursor + 1)
      else
        (cursor + 1, some candidate)

/-- `TryConsumeWhoAllClassDisplayEntry`. -/
def tryConsumeWhoAllClassDisplayEntry
    (state : State) :
    State × Option WhoAllClassDisplayEntry :=
  let (cursor, entry) :=
    nextNamedEntry (state.entries.drop state.entryCursor) state.entryCursor
  ({ state with entryCursor := cursor }, entry)

end MonomythClient.WhoAllResponse
