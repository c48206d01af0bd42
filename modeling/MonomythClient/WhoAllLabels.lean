import MonomythClient.ClassDisplay
import MonomythClient.WhoAllQueue
import MonomythClient.WorldChanges

namespace MonomythClient.WhoAllLabels

open ByteText MulticlassIdentity PacketObserver WhoAllResponse
open PayloadReader (Payload)

/-!
# Class labels of who-all responses

While the client shows a who-all response it looks up a class label for each
player with a playable class.  The hook answers with the classes of the next
player in the observer's queue, so player and label are matched by position
alone.

The client shows every response it receives, whatever its size, and looks up
the labels of its playable players in order.  It may stop before the last.
-/

/-! ## Callers -/

def kWhoClassNameClassLookupCallerReturnARva : UInt32 := 0x001364ec
def kWhoClassNameClassLookupCallerReturnBRva : UInt32 := 0x001365c7
def kWhoClassNameClassLookupCallerReturnCRva : UInt32 := 0x00136606
def kWhoAllClassLabelLookupCallerMinRva : UInt32 := 0x00047789
def kWhoAllClassLabelLookupCallerMaxRva : UInt32 := 0x00047a26
def kWhoAllClassLabelLookupStringIdMin : UInt32 := 0x000005de
def kWhoAllClassLabelLookupStringIdMax : UInt32 := 0x0000061a
def kWhoAllClassLabelLookupBerserkerCallerRva : UInt32 := 0x00047a56
def kWhoAllClassLabelLookupBerserkerStringId : UInt32 := 0x0000169f

/-- `IsWhoClassNameLookupCaller`. -/
def isWhoClassNameLookupCaller (callerReturnRva : UInt32) : Bool :=
  callerReturnRva == kWhoClassNameClassLookupCallerReturnARva ||
    callerReturnRva == kWhoClassNameClassLookupCallerReturnBRva ||
    callerReturnRva == kWhoClassNameClassLookupCallerReturnCRva

/-- `IsWhoAllClassLabelLookupCaller`. -/
def isWhoAllClassLabelLookupCaller (callerReturnRva stringId : UInt32) : Bool :=
  if callerReturnRva = kWhoAllClassLabelLookupBerserkerCallerRva ∧
      stringId = kWhoAllClassLabelLookupBerserkerStringId then
    true
  else if callerReturnRva < kWhoAllClassLabelLookupCallerMinRva ∨
      kWhoAllClassLabelLookupCallerMaxRva < callerReturnRva then
    false
  else if stringId < kWhoAllClassLabelLookupStringIdMin ∨
      kWhoAllClassLabelLookupStringIdMax < stringId then
    false
  else
    (stringId - kWhoAllClassLabelLookupStringIdMin) % 4 == 0

/-- The string a class label is looked up by. -/
def classLabelStringId (classId : UInt32) : UInt32 :=
  if classId = kLastPlayableClassId then
    kWhoAllClassLabelLookupBerserkerStringId
  else
    kWhoAllClassLabelLookupStringIdMin + 4 * (classId - kFirstPlayableClassId)

/-- Where the client looks up the label of each class: one of the call sites
the hook knows. -/
structure CallSites where
  returnRva : UInt32 → UInt32
  known :
    ∀ classId,
      isPlayableClassId classId = true →
        isWhoAllClassLabelLookupCaller (returnRva classId)
          (classLabelStringId classId) = true

/-! ## The hook -/

/-- What the hook finds outside of the observer: the display setting, the name
of the current server, the label of the local subject, and the game's own
lookup with its found flag. -/
structure Surroundings where
  multiclassUiDisplayEnabled : Bool
  currentServerName : Option CString
  localSubjectDisplay : Option (List UInt8)
  original : UInt32 → Option (List UInt8) × Bool

/-- `TryBuildRemoteCharacterClassDisplayAscii`. -/
def tryBuildRemoteCharacterClassDisplayAscii
    (surroundings : Surroundings)
    (store : RemoteMulticlassIdentity.Store)
    (characterName : List UInt8)
    (expectedNativeClassId : UInt32)
    (style : ClassDisplayStyle) :
    Option (List UInt8) := do
  guard (characterName ≠ [] ∧
    surroundings.multiclassUiDisplayEnabled = true ∧
    isPlayableClassId expectedNativeClassId = true)
  let trimmedName := trimSpace characterName
  guard (trimmedName ≠ [])
  let serverName ← surroundings.currentServerName
  let remoteMask ←
    RemoteMulticlassIdentity.tryLookupCharacterClassMask (some serverName)
      (some (.ofText trimmedName)) expectedNativeClassId store
  guard (isPlayableClassMask remoteMask = true ∧
    hasClass remoteMask expectedNativeClassId = true)
  let formatted :=
    formatClassDisplayAscii expectedNativeClassId true remoteMask style
  guard (formatted ≠ [])
  return formatted

/-- A looked-up text with its found flag, and the queued player it was built
for if it replaces the game's own. -/
structure LookedUp where
  text : Option (List UInt8)
  found : Bool
  replacedFor : Option WhoAllClassDisplayEntry
  deriving DecidableEq

/-- What the hook takes from the observer: a part of the correlation window,
which only its traces use, and the next queued player. -/
def takeQueuedPlayer
    (whoAllClassLabelCaller callerMatches : Bool)
    (whoAll : WhoAllResponse.State) :
    WhoAllResponse.State × Option WhoAllClassDisplayEntry :=
  let whoAll :=
    if whoAllClassLabelCaller || callerMatches then
      (tryConsumeWhoAllClassDisplayCorrelation whoAll).1
    else
      whoAll
  if whoAllClassLabelCaller then
    tryConsumeWhoAllClassDisplayEntry whoAll
  else
    (whoAll, none)

/-- `WhoClassNameClassLookupHook`; what it only traces is left out. -/
def whoClassNameClassLookupHook
    (surroundings : Surroundings)
    (callerReturnRva stringId : UInt32)
    (observer : ObserverState) :
    ObserverState × LookedUp :=
  let callerMatches := isWhoClassNameLookupCaller callerReturnRva
  let taken :=
    takeQueuedPlayer
      (isWhoAllClassLabelLookupCaller callerReturnRva stringId)
      callerMatches observer.whoAll
  let display :=
    taken.2.bind fun entry =>
      tryBuildRemoteCharacterClassDisplayAscii surroundings
        observer.remoteIdentity.store entry.name entry.nativeClassId
        .threeLetterCode
  let lookedUp :=
    match display with
    | some text => ⟨some text, true, taken.2⟩
    | none =>
        if callerMatches && surroundings.localSubjectDisplay.isSome then
          ⟨surroundings.localSubjectDisplay, true, none⟩
        else
          let original := surroundings.original stringId
          ⟨original.1, original.2, none⟩
  ({ observer with whoAll := taken.1 }, lookedUp)

/-! ## The client -/

/-- The who-all response that the client shows, and how many labels it has
looked up for it. -/
structure State where
  observer : ObserverState
  response : Option (UInt64 × ReceivedPacket)
  asked : Nat

/-- No response was received yet. -/
def State.start (observer : ObserverState) : State :=
  ⟨observer, none, 0⟩

/-- A player the client shows a label for, with the response it belongs to. -/
structure Shown where
  receiveSequence : UInt64
  packet : ReceivedPacket
  player : PlayerRecord
  place : Nat
  deriving DecidableEq

/-- The players of a response whose labels are looked up, with their places. -/
def labelledPlayers (payload : Payload) : List (PlayerRecord × Nat) :=
  (responsePlayers payload).zipIdx.filter fun listed =>
    isPlayableClassId listed.1.classId

/-- The player whose label is looked up next. -/
def State.shown (state : State) : Option Shown := do
  let (receiveSequence, packet) ← state.response
  let (player, place) ← (labelledPlayers packet.payload)[state.asked]?
  return ⟨receiveSequence, packet, player, place⟩

/-- The observer receives a packet, or the client looks up a label. -/
inductive Event where
  | received (packet : ReceivedPacket)
  | labelLookedUp
  deriving DecidableEq

section Client

variable (sites : CallSites) (surroundings : Surroundings)

/-- The hook's call for a player. -/
def lookUp (state : State) (shown : Shown) : ObserverState × LookedUp :=
  whoClassNameClassLookupHook surroundings
    (sites.returnRva shown.player.classId)
    (classLabelStringId shown.player.classId) state.observer

/-- The client shows the last response it received, and looks up nothing when
no label is left. -/
def step (state : State) : Event → State
  | .received packet =>
      let received := observeReceiveMetadata packet state.observer
      if isWhoAllResponseOpcode packet.opcode then
        ⟨received, some (state.observer.observedCount + 1, packet), 0⟩
      else
        { state with observer := received }
  | .labelLookedUp =>
      match state.shown with
      | none => state
      | some shown =>
          { state with
            observer := (lookUp sites surroundings state shown).1
            asked := state.asked + 1 }

/-- A label the client gets. -/
structure Label where
  shown : Shown
  remoteIdentities : RemoteMulticlassIdentity.Store
  lookedUp : LookedUp
  deriving DecidableEq

/-- The label that an event gets the client, if it is a lookup. -/
def labels (state : State) : Event → List Label
  | .received _ => []
  | .labelLookedUp =>
      (state.shown.map fun shown =>
        { shown := shown
          remoteIdentities := state.observer.remoteIdentity.store
          lookedUp := (lookUp sites surroundings state shown).2 }).toList

end Client

/-! ## The right player -/

/-- The label belongs to the player it is shown for: if it was replaced, then
for the queue entry of just this player, and from its name and class. -/
def Label.Right (surroundings : Surroundings) (label : Label) : Prop :=
  ∀ entry ∈ label.lookedUp.replacedFor,
    entry.receiveSequence = label.shown.receiveSequence ∧
      entry.entryIndex = UInt32.ofNat label.shown.place ∧
      entry.name = label.shown.player.name ∧
      entry.nativeClassId = label.shown.player.classId ∧
      label.lookedUp.text =
        tryBuildRemoteCharacterClassDisplayAscii surroundings
          label.remoteIdentities label.shown.player.name
          label.shown.player.classId .threeLetterCode

instance (surroundings : Surroundings) (label : Label) :
    Decidable (label.Right surroundings) :=
  inferInstanceAs (Decidable (∀ entry ∈ label.lookedUp.replacedFor, _))

/-- Queue and client are in step at a lookup: the response that is shown was
captured, as many players in front of the shown one have a name as labels were
looked up, and its own name is there and fits into the queue. -/
def InStep
    (surroundings : Surroundings)
    (state : State)
    (event : Event) :
    Prop :=
  event = .labelLookedUp → surroundings.multiclassUiDisplayEnabled = true →
    ∀ shown ∈ state.shown,
      CapturesWhoAll shown.packet ∧
        ((responsePlayers shown.packet.payload).take shown.place).countP
            PlayerRecord.named = state.asked ∧
        shown.player.named = true ∧
        shown.player.name.length < kWhoAllEntryNameBytes

instance (surroundings : Surroundings) (state : State) (event : Event) :
    Decidable (InStep surroundings state event) :=
  inferInstanceAs (Decidable (_ → _ → ∀ shown ∈ state.shown, _))

/-! ## Client and queue -/

/-- The player shown is listed at its place, with a playable class. -/
theorem shown_listed
    {state : State}
    {shown : Shown}
    (isShown : state.shown = some shown) :
    state.response = some (shown.receiveSequence, shown.packet) ∧
      (responsePlayers shown.packet.payload)[shown.place]? =
          some shown.player ∧
        isPlayableClassId shown.player.classId = true := by
  unfold State.shown at isShown
  cases received : state.response with
  | none =>
      rw [received] at isShown
      cases isShown
  | some response =>
      obtain ⟨receiveSequence, packet⟩ := response
      rw [received] at isShown
      simp only [bind, Option.bind_some, pure] at isShown
      cases listed : (labelledPlayers packet.payload)[state.asked]? with
      | none =>
          rw [listed] at isShown
          cases isShown
      | some found =>
          obtain ⟨player, place⟩ := found
          rw [listed] at isShown
          obtain rfl := Option.some.inj isShown
          obtain ⟨member, playable⟩ :=
            List.mem_filter.mp (List.mem_of_getElem? listed)
          exact ⟨rfl, List.mk_mem_zipIdx_iff_getElem?.mp member, playable⟩

/-- The queue is that of the response which the client shows, if that was
captured, and as many named players were taken from it as labels were looked
up.  An observer that is not set up queues nobody. -/
structure Synchronized (state : State) : Prop where
  idle :
    state.observer.lifecycle ≠ .initialized →
      state.observer.whoAll.entries = []
  queued :
    ∀ response ∈ state.response,
      CapturesWhoAll response.2 →
        state.observer.lifecycle = .initialized →
          (∃ activation responseIndex,
            state.observer.whoAll.entries =
              ((responsePlayers response.2.payload).zipIdx.map
                (queueEntry activation response.1 responseIndex)).take
                kWhoAllClassDisplayEntryCaptureCap) ∧
            state.observer.whoAll.Consumed state.asked

/-- Before the first response there is nothing to be out of step. -/
theorem synchronized_start
    {observer : ObserverState}
    (unqueued : observer.whoAll.entries = []) :
    Synchronized (.start observer) where
  idle _ := unqueued
  queued response member := by
    cases member

/-- A captured packet is a who-all response. -/
theorem isWhoAllResponse_of_captures
    {packet : ReceivedPacket}
    (captures : CapturesWhoAll packet) :
    isWhoAllResponseOpcode packet.opcode = true := by
  rw [CapturesWhoAll] at captures
  cases recognized : isWhoAllResponseOpcode packet.opcode with
  | true =>
      rfl
  | false =>
      exact (captures (by simp [recognized])).elim

/-- A received packet keeps client and queue in step. -/
theorem Synchronized.received
    {sites : CallSites}
    {surroundings : Surroundings}
    {state : State}
    (synchronized : Synchronized state)
    (packet : ReceivedPacket) :
    Synchronized (step sites surroundings state (.received packet)) := by
  by_cases initialized : state.observer.lifecycle = .initialized
  · have stays := lifecycle_step state.observer (.received packet)
    have whoAll := (observeReceiveMetadata_stores packet initialized).2.2
    rw [initialized] at stays
    change (observeReceiveMetadata packet state.observer).lifecycle = _ at stays
    by_cases isResponse : isWhoAllResponseOpcode packet.opcode = true
    · rw [step, if_pos isResponse]
      refine ⟨fun idle => (idle stays).elim, ?_⟩
      rintro response shown captures _
      obtain rfl := Option.some.inj shown
      dsimp only at captures ⊢
      rw [maybeLogWhoAllResponse, if_neg captures] at whoAll
      obtain ⟨entries, cursor⟩ :=
        queue_captureWhoAllResponse (state.observer.observedCount + 1)
          packet.payload state.observer.whoAll
      rw [whoAll]
      refine ⟨⟨_, _, entries⟩, ?_⟩
      rw [State.Consumed, cursor, List.drop_zero, List.drop_zero]
    · rw [step, if_neg isResponse]
      have notCaptured : ¬ CapturesWhoAll packet :=
        fun captures => isResponse (isWhoAllResponse_of_captures captures)
      rw [CapturesWhoAll, not_not] at notCaptured
      rw [maybeLogWhoAllResponse, if_pos notCaptured] at whoAll
      refine ⟨fun idle => (idle stays).elim, ?_⟩
      intro response shown captures _
      dsimp only at shown ⊢
      rw [whoAll]
      exact synchronized.queued response shown captures initialized
  · -- An observer that is not set up ignores the packet.
    have ignored := observeReceiveMetadata_idle packet initialized
    rw [step, ignored]
    split
    · exact
        ⟨synchronized.idle, fun _ _ _ nowInitialized =>
          (initialized nowInitialized).elim⟩
    · exact
        ⟨synchronized.idle, fun _ _ _ nowInitialized =>
          (initialized nowInitialized).elim⟩

/-- Taking a part of the correlation window leaves the queue alone. -/
theorem tryConsumeWhoAllClassDisplayCorrelation_queue
    (whoAll : WhoAllResponse.State) :
    (tryConsumeWhoAllClassDisplayCorrelation whoAll).1.entries =
        whoAll.entries ∧
      (tryConsumeWhoAllClassDisplayCorrelation whoAll).1.entryCursor =
        whoAll.entryCursor := by
  unfold tryConsumeWhoAllClassDisplayCorrelation
  dsimp only
  split
  · exact ⟨rfl, rfl⟩
  · exact ⟨rfl, rfl⟩

/-- A lookup takes the next named player from the queue. -/
theorem takeQueuedPlayer_consumed
    (callerMatches : Bool)
    {whoAll : WhoAllResponse.State}
    {taken : Nat}
    (consumed : whoAll.Consumed taken) :
    (takeQueuedPlayer true callerMatches whoAll).2 =
        (whoAll.entries.filter WhoAllClassDisplayEntry.named)[taken]? ∧
      (takeQueuedPlayer true callerMatches whoAll).1.Consumed (taken + 1) := by
  obtain ⟨entries, cursor⟩ :=
    tryConsumeWhoAllClassDisplayCorrelation_queue whoAll
  have stillConsumed :
      (tryConsumeWhoAllClassDisplayCorrelation whoAll).1.Consumed taken := by
    rw [State.Consumed, entries, cursor]
    exact consumed
  have next := stillConsumed.next
  rw [entries] at next
  exact next

/-- It takes no entry away. -/
theorem entries_takeQueuedPlayer
    (whoAllClassLabelCaller callerMatches : Bool)
    (whoAll : WhoAllResponse.State) :
    (takeQueuedPlayer whoAllClassLabelCaller callerMatches
      whoAll).1.entries = whoAll.entries := by
  unfold takeQueuedPlayer
  have window := (tryConsumeWhoAllClassDisplayCorrelation_queue whoAll).1
  cases whoAllClassLabelCaller with
  | true =>
      exact window
  | false =>
      cases callerMatches with
      | true =>
          exact window
      | false =>
          rfl

/-- A lookup keeps client and queue in step. -/
theorem Synchronized.labelLookedUp
    {sites : CallSites}
    {surroundings : Surroundings}
    {state : State}
    (synchronized : Synchronized state) :
    Synchronized (step sites surroundings state .labelLookedUp) := by
  rw [step]
  cases isShown : state.shown with
  | none =>
      exact synchronized
  | some shown =>
      obtain ⟨_, _, playable⟩ := shown_listed isShown
      have known := sites.known shown.player.classId playable
      refine ⟨?_, ?_⟩
      · intro idle
        dsimp only [lookUp, whoClassNameClassLookupHook]
        rw [entries_takeQueuedPlayer]
        exact synchronized.idle idle
      · intro response member captures initialized
        obtain ⟨⟨activation, responseIndex, entries⟩, consumed⟩ :=
          synchronized.queued response member captures initialized
        dsimp only [lookUp, whoClassNameClassLookupHook]
        rw [entries_takeQueuedPlayer, known]
        exact
          ⟨⟨activation, responseIndex, entries⟩,
            (takeQueuedPlayer_consumed _ consumed).2⟩

/-- Any event keeps client and queue in step. -/
theorem Synchronized.step
    {sites : CallSites}
    {surroundings : Surroundings}
    {state : State}
    (synchronized : Synchronized state)
    (event : Event) :
    Synchronized (step sites surroundings state event) := by
  cases event with
  | received packet =>
      exact synchronized.received packet
  | labelLookedUp =>
      exact synchronized.labelLookedUp

/-- A label is only replaced for a queued player, and only when the display
is switched on. -/
theorem replacedFor_hook
    {surroundings : Surroundings}
    {callerReturnRva stringId : UInt32}
    {observer : ObserverState}
    {entry : WhoAllClassDisplayEntry}
    (replaced :
      (whoClassNameClassLookupHook surroundings callerReturnRva stringId
        observer).2.replacedFor = some entry) :
    (takeQueuedPlayer
          (isWhoAllClassLabelLookupCaller callerReturnRva stringId)
          (isWhoClassNameLookupCaller callerReturnRva)
          observer.whoAll).2 = some entry ∧
      surroundings.multiclassUiDisplayEnabled = true ∧
      (whoClassNameClassLookupHook surroundings callerReturnRva stringId
          observer).2.text =
        tryBuildRemoteCharacterClassDisplayAscii surroundings
          observer.remoteIdentity.store entry.name entry.nativeClassId
          .threeLetterCode := by
  unfold whoClassNameClassLookupHook at replaced ⊢
  dsimp only at replaced ⊢
  generalize
    takeQueuedPlayer (isWhoAllClassLabelLookupCaller callerReturnRva stringId)
      (isWhoClassNameLookupCaller callerReturnRva) observer.whoAll = taken
    at replaced ⊢
  cases found : taken.2 with
  | none =>
      rw [found, Option.bind_none] at replaced
      dsimp only at replaced
      split at replaced <;> cases replaced
  | some queued =>
      rw [found, Option.bind_some] at replaced
      rw [Option.bind_some]
      cases built :
          tryBuildRemoteCharacterClassDisplayAscii surroundings
            observer.remoteIdentity.store queued.name queued.nativeClassId
            .threeLetterCode with
      | none =>
          rw [built] at replaced
          dsimp only at replaced
          split at replaced <;> cases replaced
      | some text =>
          rw [built] at replaced
          obtain rfl := Option.some.inj replaced
          refine ⟨rfl, ?_, built.symm⟩
          unfold tryBuildRemoteCharacterClassDisplayAscii at built
          by_contra disabled
          simp [disabled] at built

/-- A lookup in step gets the label of the player that is shown. -/
theorem right_labelLookedUp
    {sites : CallSites}
    {surroundings : Surroundings}
    {state : State}
    (synchronized : Synchronized state)
    (inStep : InStep surroundings state .labelLookedUp) :
    ∀ label ∈ labels sites surroundings state .labelLookedUp,
      label.Right surroundings := by
  intro label member
  rw [labels, Option.mem_toList, Option.map_eq_some_iff] at member
  obtain ⟨shown, isShown, rfl⟩ := member
  obtain ⟨received, listed, playable⟩ := shown_listed isShown
  intro entry replaced
  obtain ⟨taken, enabled, text⟩ := replacedFor_hook replaced
  rw [sites.known shown.player.classId playable] at taken
  by_cases initialized : state.observer.lifecycle = .initialized
  · obtain ⟨captures, inFront, named, short⟩ :=
      inStep rfl enabled shown isShown
    obtain ⟨⟨activation, responseIndex, entries⟩, consumed⟩ :=
      synchronized.queued _ received captures initialized
    rw [(takeQueuedPlayer_consumed _ consumed).1, entries,
      ← inFront] at taken
    have isQueued := getElem?_named_queue listed named taken
    have wholeName : entry.name = shown.player.name := by
      rw [isQueued, queueEntry]
      apply List.take_of_length_le
      rw [kWhoAllEntryNameBytes] at short ⊢
      dsimp only
      omega
    have sameClass : entry.nativeClassId = shown.player.classId := by
      rw [isQueued, queueEntry]
    refine ⟨?_, ?_, wholeName, sameClass, ?_⟩
    · rw [isQueued, queueEntry]
    · rw [isQueued, queueEntry]
    · exact text.trans (by rw [wholeName, sameClass])
  · -- Nobody is queued, so nobody was taken.
    have nobody := synchronized.idle initialized
    have consumed : state.observer.whoAll.Consumed 0 := by
      rw [State.Consumed, nobody, List.drop_nil]
      rfl
    rw [(takeQueuedPlayer_consumed _ consumed).1, nobody] at taken
    cases taken

/--
Over every run whose lookups all find queue and client in step, each label that
was replaced belongs to the player it is shown for.
-/
theorem labels_right
    (sites : CallSites)
    (surroundings : Surroundings)
    {observer : ObserverState}
    (unqueued : observer.whoAll.entries = [])
    {events : List Event}
    (inStep :
      Runs.Along (step sites surroundings) (InStep surroundings)
        (.start observer) events) :
    ∀ label ∈
        Runs.emitted (step sites surroundings) (labels sites surroundings)
          (.start observer) events,
      label.Right surroundings :=
  Runs.emitted_along
    (fun _ event synchronized _ => synchronized.step event)
    (fun state event synchronized allowed label member => by
      cases event with
      | received packet =>
          cases member
      | labelLookedUp =>
          exact right_labelLookedUp synchronized allowed label member)
    (synchronized_start unqueued) inStep

/-! ## Skipped players -/

/-- The record of a player without guild. -/
def playerBytes (name : String) (classId : UInt8) : List UInt8 :=
  List.replicate 12 0 ++ ascii name ++ List.replicate 22 0 ++
    classId :: List.replicate 16 0

/-- A who-all response that lists some players. -/
def responseBytes (players : List (List UInt8)) : List UInt8 :=
  List.replicate 60 0 ++ UInt8.ofNat players.length :: List.replicate 3 0 ++
    players.flatten

/-- The call sites of the shared class labels and of the berserker's. -/
def sharedCallSites : CallSites where
  returnRva classId :=
    if classId = kLastPlayableClassId then
      kWhoAllClassLabelLookupBerserkerCallerRva
    else
      kWhoAllClassLabelLookupCallerMinRva
  known := by
    have each :
        playableClassIds.all (fun classId =>
            isWhoAllClassLabelLookupCaller
              (if classId = kLastPlayableClassId then
                kWhoAllClassLabelLookupBerserkerCallerRva
              else
                kWhoAllClassLabelLookupCallerMinRva)
              (classLabelStringId classId)) =
          true := by
      decide
    exact fun classId playable =>
      List.all_eq_true.mp each classId (mem_playableClassIds.mpr playable)

/-- The display is switched on, on a server called Alpha. -/
def onAlpha : Surroundings where
  multiclassUiDisplayEnabled := true
  currentServerName := some (.ofText (ascii "Alpha"))
  localSubjectDisplay := none
  original _ := (none, false)

/-- Zoe is a warrior and a cleric. -/
def zoePacket : ReceivedPacket where
  opcode := RemoteMulticlassIdentity.kRemoteMulticlassIdentityOpcode
  payload :=
    .ofBytes ([1, 0, 0, 0] ++ ascii "Zoe" ++ [0, 1, 0, 0, 0, 3, 0, 0, 0])
      (by decide +kernel)
  serverName := some (.ofText (ascii "Alpha"))
  windowMs := 0
  startMs := 0

/-- Ulf is a druid and a necromancer. -/
def ulfPacket : ReceivedPacket where
  opcode := RemoteMulticlassIdentity.kRemoteMulticlassIdentityOpcode
  payload :=
    .ofBytes ([1, 0, 0, 0] ++ ascii "Ulf" ++ [0, 6, 0, 0, 0, 0x20, 4, 0, 0])
      (by decide +kernel)
  serverName := some (.ofText (ascii "Alpha"))
  windowMs := 0
  startMs := 0

/-- A response that lists Ulf, Zoe, and a cleric nobody told about. -/
def threeNamesResponse : ReceivedPacket :=
  packetOf kWhoAllResponseOpcode
    (.ofBytes
      (responseBytes
        [playerBytes "Ulf" 6, playerBytes "Zoe" 1, playerBytes "Ann" 2])
      (by decide +kernel))

/-- The identities of Zoe and Ulf, the response, and its three labels. -/
def threeLabels : List Event :=
  [.received zoePacket, .received ulfPacket, .received threeNamesResponse,
    .labelLookedUp, .labelLookedUp, .labelLookedUp]

/-- A response that lists an anonymous player, Zoe, and the druid Ulf. -/
def anonymousResponse : ReceivedPacket :=
  packetOf kWhoAllResponseOpcode
    (.ofBytes
      (responseBytes
        [playerBytes "Abe" 0, playerBytes "Zoe" 1, playerBytes "Ulf" 6])
      (by decide +kernel))

/-- Without an anonymous player each of the three gets the own label. -/
theorem labels_right_threeNames :
    (Runs.emitted (step sharedCallSites onAlpha)
          (labels sharedCallSites onAlpha) (.start freshObserver)
          threeLabels).map (fun label => label.lookedUp.text) =
        [some (ascii "DRU/NEC"), some (ascii "WAR/CLR"), none] ∧
      ∀ label ∈
          Runs.emitted (step sharedCallSites onAlpha)
            (labels sharedCallSites onAlpha) (.start freshObserver)
            threeLabels,
        label.Right onAlpha :=
  ⟨by decide +kernel,
    labels_right sharedCallSites onAlpha rfl (by decide +kernel)⟩

/-- Behind an anonymous player, Ulf gets the label of Zoe. -/
theorem anonymous_player_shifts_labels :
    ¬ ∀ label ∈
        Runs.emitted (step sharedCallSites onAlpha)
          (labels sharedCallSites onAlpha) (.start freshObserver)
          [.received zoePacket, .received anonymousResponse, .labelLookedUp,
            .labelLookedUp],
      label.Right onAlpha := by
  decide +kernel

end MonomythClient.WhoAllLabels
