import MonomythClient.Numerals
import MonomythClient.PetInfoChildren
import MonomythClient.PetRosterTruth
import MonomythClient.SpawnIdIndex

namespace MonomythClient.ExtraPetDisplay

open ByteText LittleEndian LocalPlayer MultiPetSpawnObserver Numerals
open PetInfoChildren ProtectedMemory ServerAuthStats SpawnIdIndex StandardSort

/-!
# Extra pets in the Pet Info window

Two gauges of the Pet Info window show the pets besides the one in focus.  The
game asks for the label and for the value of a gauge by its type, and tells the
window about a click by the gauge window it came from.  Both ways lead to a slot
of the roster's snapshot.  A click on a gauge targets the spawn with the id in
the slot, as the game's index of spawns has it.

The value of a gauge does not come from the roster: it is what the server-auth
stats sent for the slot, also where the roster has no pet for it.
-/

def kInventoryCustomMulticlassEqType : UInt32 := 6666
def kPlayerManaCustomLabelEqType : UInt32 := 6668
def kCxWndTextFieldOffset : UInt32 := 0xe8
def kPetInfoClickEverQuestGlobalRva : UInt32 := 0x009d2630
def kPinstSpawnManagerRva : UInt32 := 0x00a641d0
def kLeftClickedOnPlayerSurrogateRva : UInt32 := 0x00136310

/-- What the hooks look up elsewhere: `assignResolved` says that the game's
function that assigns a text was found. -/
structure Sources where
  multiPetWindowRequested : Bool
  assignResolved : Bool
  roster : MultiPetSpawnObserver.Snapshot
  auth : ServerAuthStats.Snapshot
  localClassDisplay : Option (List UInt8)
  localManaPercent : Option Int

/-- `TryAssignCxStrFromAscii` finds what it needs. -/
def Sources.canAssign (sources : Sources) (text : UInt32) : Bool :=
  text != 0 && sources.assignResolved

/-! ## Texts -/

/-- `BuildMultiPetExtraPetDisplayText`. -/
def buildMultiPetExtraPetDisplayText
    (sources : Sources)
    (eqType : UInt32) :
    List UInt8 :=
  match multiPetSlotFromEqType eqType with
  | none => ascii "No Pet"
  | some slot =>
      let name := sources.roster.otherPetName[slot]?.getD []
      if sources.roster.hasOtherPetName[slot]?.getD false &&
          !name.isEmpty then
        name
      else
        ascii "No Pet"

/-- `std::to_string` of a number. -/
def toString (value : Int) : List UInt8 :=
  if value < 0 then
    ascii "-" ++ decimalText value.natAbs
  else
    decimalText value.natAbs

/-- A label hook assigns a text and returns true, or asks the game. -/
inductive LabelOutcome where
  | assigned (display : List UInt8)
  | native
  deriving DecidableEq, Repr

/-- `GetLabelFromEQHook`. -/
def getLabelFromEQHook
    (sources : Sources)
    (eqType text : UInt32) :
    LabelOutcome :=
  if sources.multiPetWindowRequested && isMultiPetExtraPetEqType eqType &&
      sources.canAssign text then
    .assigned (buildMultiPetExtraPetDisplayText sources eqType)
  else if eqType = kInventoryCustomMulticlassEqType ∧
      sources.localClassDisplay.isSome ∧ sources.canAssign text then
    .assigned (sources.localClassDisplay.getD [])
  else if eqType = kPlayerManaCustomLabelEqType ∧
      sources.canAssign text then
    .assigned (toString (sources.localManaPercent.getD 0))
  else
    .native

/-! ## Gauges -/

/-- The hit points that the server sent for a slot, as an `int`. -/
def extraPetGaugeValue
    (auth : ServerAuthStats.Snapshot)
    (slot : Nat) :
    Int32 :=
  match auth.extraPetHp1000[slot]? with
  | none => 0
  | some hp1000 => if hp1000.has then hp1000.value.toUInt32.toInt32 else 0

/-- What a gauge hook returns, stores in the zero flag, and assigns. -/
structure GaugeOutcome where
  result : Int32
  zeroFlag : Option Bool
  assigned : List (UInt32 × List UInt8)
  deriving DecidableEq

/-- `GetGaugeValueFromEQHook`, given what the game returns, if it is asked. -/
def getGaugeValueFromEQHook
    (sources : Sources)
    (gaugeWindows : Vector UInt32 2)
    (native : Option Int32)
    (eqType text : UInt32)
    (hasZeroFlag : Bool) :
    GaugeOutcome :=
  match native with
  | none => ⟨0, none, []⟩
  | some nativeResult =>
      if !sources.multiPetWindowRequested then
        ⟨nativeResult, none, []⟩
      else
        match multiPetSlotFromEqType eqType with
        | none => ⟨nativeResult, none, []⟩
        | some slot =>
            let resolvedResult := extraPetGaugeValue sources.auth slot
            let gaugeWindow :=
              readMultiPetExtraPetGaugeWindow gaugeWindows slot
            let displayText := buildMultiPetExtraPetDisplayText sources eqType
            let places :=
              (if sources.canAssign text then [text] else []) ++
                if gaugeWindow ≠ 0 ∧
                    sources.canAssign
                      (gaugeWindow + kCxWndTextFieldOffset) then
                  [gaugeWindow + kCxWndTextFieldOffset]
                else
                  []
            ⟨resolvedResult,
              if hasZeroFlag then some (resolvedResult == 0) else none,
              places.map fun place => (place, displayText)⟩

/-- The branch of `PlayerManaEqTypeResolverHook` for extra pets. -/
def playerManaEqTypeResolverHook
    (sources : Sources)
    (native : Option Int32)
    (eqType : UInt32)
    (otherwise : Int32 → Int32) :
    Int32 :=
  match native with
  | none => 0
  | some nativeResult =>
      match sources.multiPetWindowRequested,
        multiPetSlotFromEqType eqType with
      | true, some slot => extraPetGaugeValue sources.auth slot
      | _, _ => otherwise nativeResult

/-! ## Clicks -/

/-- `MultiPetSlotFromSenderWindow`: the first slot with this gauge window. -/
def multiPetSlotFromSenderWindow
    (gaugeWindows : Vector UInt32 2)
    (senderWindow : UInt32) :
    Option Nat :=
  if senderWindow = 0 then
    none
  else
    (List.range 2).find? fun slot =>
      decide
        (senderWindow = readMultiPetExtraPetGaugeWindow gaugeWindows slot)

/-- What a click on a pet's gauge calls `LeftClickedOnPlayer` with, if it
does. -/
def clickTarget
    (moduleBase : UInt32)
    (memory : Memory)
    (spawnId : UInt32) :
    Option (UInt32 × UInt32) := do
  guard (spawnId ≠ 0 ∧ moduleBase ≠ 0)
  let everquest ←
    nonNull (memory.readWord (moduleBase + kPetInfoClickEverQuestGlobalRva))
  let spawnManager ←
    nonNull (memory.readWord (moduleBase + kPinstSpawnManagerRva))
  let _ ← looksLikeEqgameObject memory moduleBase everquest
  let _ ← looksLikeEqgameObject memory moduleBase spawnManager
  let spawn ← tryFindSpawnByIdFromSpawnList memory spawnManager spawnId
  let _ ← looksLikeEqgameObject memory moduleBase spawn
  guard (moduleBase + kLeftClickedOnPlayerSurrogateRva ≠ 0)
  return (everquest, spawn)

/-- `TryTargetMultiPetAuxiliarySlotFromPetInfoClick`: none where it leaves the
click to the game, and otherwise the call it makes, if any. -/
def tryTargetMultiPetAuxiliarySlotFromPetInfoClick
    (roster : MultiPetSpawnObserver.Snapshot)
    (gaugeWindows : Vector UInt32 2)
    (moduleBase : UInt32)
    (memory : Memory)
    (senderWindow : UInt32) :
    Option (Option (UInt32 × UInt32)) :=
  (multiPetSlotFromSenderWindow gaugeWindows senderWindow).map fun slot =>
    if roster.hasOtherPetSpawnId[slot]?.getD false then
      clickTarget moduleBase memory (roster.otherPetSpawnId[slot]?.getD 0)
    else
      none

/-- A notification is taken, with the call it makes, or goes to the game, or
is lost without the game's own function. -/
inductive NotificationOutcome where
  | taken (target : Option (UInt32 × UInt32))
  | forwarded
  | lost
  deriving DecidableEq, Repr

/-- `PetInfoWindowWndNotificationHook`. -/
def petInfoWindowWndNotificationHook
    (hasOriginal : Bool)
    (roster : MultiPetSpawnObserver.Snapshot)
    (gaugeWindows : Vector UInt32 2)
    (moduleBase : UInt32)
    (memory : Memory)
    (senderWindow notificationCode : UInt32) :
    NotificationOutcome :=
  let click :=
    if notificationCode = 1 then
      tryTargetMultiPetAuxiliarySlotFromPetInfoClick roster gaugeWindows
        moduleBase memory senderWindow
    else
      none
  match click with
  | some target => .taken target
  | none => if hasOriginal then .forwarded else .lost

/-! ## The pet of a slot -/

/-- The snapshot of the roster after some packets. -/
def snapshotAfter
    (sorter : Sorter seenBefore)
    (events : List RosterEvent) :
    MultiPetSpawnObserver.Snapshot :=
  MultiPetSpawnObserver.getSnapshot sorter
    (ServerAuthStats.getSnapshot (rosterAfter events).auth)
    (rosterAfter events).roster

/-- The slot is for this pet: the first or second other pet of the owner of the
focused one. -/
def ShownIn
    (events : List RosterEvent)
    (slot : Nat)
    (pet : ObservedPetEntry) : Prop :=
  ∃ focused,
    IsFocused (ServerAuthStats.getSnapshot (rosterAfter events).auth)
        (rosterAfter events).roster focused ∧
      (otherPets focused (rosterAfter events).roster)[slot]? = some pet

/-- The payload of server-auth stats. -/
def statsPayload : RosterEvent → Option PayloadReader.Payload
  | .authStats payload => some payload
  | _ => none

/-- The hit points that some entries carry last for a slot, as an `int`. -/
def carriedHitPoints (entries : List StatEntry) (slot : Nat) : Int32 :=
  let key :=
    if slot = 0 then kStatExtraPet0Hp1000Key else kStatExtraPet1Hp1000Key
  ((valuesOf key entries).getLast?.map fun value =>
    value.toUInt32.toInt32).getD 0

/-- The hit points that the last valid server-auth stats of a run sent for a
slot; zero without any. -/
def sentHitPoints (events : List RosterEvent) (slot : Nat) : Int32 :=
  ((validPackets (events.filterMap statsPayload)).getLast?.map fun entries =>
    carriedHitPoints entries slot).getD 0

/-- The server-auth globals of a run are those of its stats. -/
theorem auth_rosterAfter (events : List RosterEvent) :
    (rosterAfter events).auth =
      observeAll .initial (events.filterMap statsPayload) := by
  have projected :
      (rosterAfter events).auth =
        Runs.run
          (fun auth event =>
            ((statsPayload event).map
              (observeReceivePayload auth)).getD auth)
          .initial events :=
    Runs.project RosterState.auth
      (fun _ _ (_ : True) => trivial)
      (fun state event _ => by cases event <;> rfl)
      trivial events
  rw [projected, observeAll]
  exact Runs.run_filterMap (fun _ _ => rfl) _ _

/-- Carried values are read as the last of them. -/
theorem hitPoints_carried (values : List UInt64) :
    (if (Stored.carried values).has then
        (Stored.carried values).value.toUInt32.toInt32
      else
        0) =
      (values.getLast?.map fun value => value.toUInt32.toInt32).getD 0 := by
  cases last : values.getLast? with
  | none =>
      simp [Stored.carried, List.getLast?_eq_none_iff.mp last]
  | some value =>
      have isCarried : values ≠ [] := by
        rintro rfl
        cases last
      simp [Stored.carried, isCarried, last]

/-- A gauge has the value that was sent last. -/
theorem extraPetGaugeValue_rosterAfter
    (events : List RosterEvent)
    {slot : Nat}
    (inside : slot < 2) :
    extraPetGaugeValue
        (ServerAuthStats.getSnapshot (rosterAfter events).auth) slot =
      sentHitPoints events slot := by
  have stored :=
    congrArg ServerAuthStats.Snapshot.extraPetHp1000
      (withoutClassesBitmask_observeAll .initial
        (events.filterMap statsPayload))
  change
    (observeAll .initial (events.filterMap statsPayload)).extraPetHp1000 = _
    at stored
  have isSlot : slot = 0 ∨ slot = 1 := by omega
  unfold extraPetGaugeValue ServerAuthStats.getSnapshot sentHitPoints
  rw [auth_rosterAfter, stored]
  cases (validPackets (events.filterMap statsPayload)).getLast? with
  | none =>
      rcases isSlot with rfl | rfl <;> rfl
  | some entries =>
      rw [Option.map_some, Option.getD_some,
        withoutClassesBitmask_storeResult]
      simp only [extraPetHp1000_stored, Option.map_some, Option.getD_some,
        carriedHitPoints]
      rcases isSlot with rfl | rfl
      · exact hitPoints_carried (valuesOf kStatExtraPet0Hp1000Key entries)
      · exact hitPoints_carried (valuesOf kStatExtraPet1Hp1000Key entries)

/-- A name that is not empty is displayed as one that is not. -/
theorem buildDisplayName_ne_nil
    {name : List UInt8}
    (named : name ≠ []) :
    buildDisplayName name ≠ [] := by
  unfold buildDisplayName
  split
  · rename_i numbered
    intro isNil
    have isShort := congrArg List.length isNil
    rw [List.length_take, List.length_nil] at isShort
    omega
  · exact named

/-- A slot as the hooks read it. -/
structure SlotHolds
    (snapshot : MultiPetSpawnObserver.Snapshot)
    (slot : Nat)
    (pet : Option ObservedPetEntry) : Prop where
  hasName : snapshot.hasOtherPetName[slot]?.getD false = pet.isSome
  hasSpawnId : snapshot.hasOtherPetSpawnId[slot]?.getD false = pet.isSome
  name : snapshot.otherPetName[slot]?.getD [] =
    (pet.map fun pet => buildDisplayName pet.name).getD []
  spawnId : snapshot.otherPetSpawnId[slot]?.getD 0 =
    (pet.map ObservedPetEntry.spawnId).getD 0

theorem slotHolds_of_shows
    {snapshot : MultiPetSpawnObserver.Snapshot}
    {pets : List ObservedPetEntry}
    (shows : snapshot.Shows pets)
    {slot : Nat}
    (inside : slot < 2) :
    SlotHolds snapshot slot pets[slot]? := by
  obtain ⟨hasName, hasSpawnId, name, spawnId⟩ := shows slot inside
  constructor
  · rw [Vector.getElem?_eq_getElem inside, Option.getD_some, hasName]
  · rw [Vector.getElem?_eq_getElem inside, Option.getD_some, hasSpawnId]
  · rw [Vector.getElem?_eq_getElem inside, Option.getD_some, name]
  · rw [Vector.getElem?_eq_getElem inside, Option.getD_some, spawnId]

/-- The snapshot after a run holds the pet of a slot. -/
theorem slotHolds_of_shownIn
    (sorter : Sorter seenBefore)
    {events : List RosterEvent}
    {slot : Nat}
    (inside : slot < 2)
    {pet : ObservedPetEntry}
    (shown : ShownIn events slot pet) :
    SlotHolds (snapshotAfter sorter events) slot (some pet) := by
  obtain ⟨focused, isFocused, inSlot⟩ := shown
  have shows :=
    getSnapshot_focused sorter (wellFormed_rosterAfter events) isFocused
  have holds := slotHolds_of_shows shows inside
  rwa [List.getElem?_take_of_lt inside, inSlot] at holds

/-- Without such a pet it holds none. -/
theorem slotHolds_of_not_shownIn
    (sorter : Sorter seenBefore)
    {events : List RosterEvent}
    {slot : Nat}
    (inside : slot < 2)
    (unshown : ∀ pet, ¬ ShownIn events slot pet) :
    SlotHolds (snapshotAfter sorter events) slot none := by
  by_cases anyFocused :
      ∃ pet,
        IsFocused (ServerAuthStats.getSnapshot (rosterAfter events).auth)
          (rosterAfter events).roster pet
  · obtain ⟨focused, isFocused⟩ := anyFocused
    have shows :=
      getSnapshot_focused sorter (wellFormed_rosterAfter events) isFocused
    have holds := slotHolds_of_shows shows inside
    rw [List.getElem?_take_of_lt inside] at holds
    cases inSlot :
        (otherPets focused (rosterAfter events).roster)[slot]? with
    | none =>
        rwa [inSlot] at holds
    | some pet =>
        exact (unshown pet ⟨focused, isFocused, inSlot⟩).elim
  · exact slotHolds_of_shows
      (getSnapshot_unfocused sorter (not_exists.mp anyFocused)) inside

/-- Pets of a slot have names. -/
theorem ShownIn.named
    {events : List RosterEvent}
    {slot : Nat}
    {pet : ObservedPetEntry}
    (shown : ShownIn events slot pet) :
    pet.name ≠ [] := by
  obtain ⟨focused, -, inSlot⟩ := shown
  exact (wellFormed_rosterAfter events).named pet
    (List.mem_of_mem_filter (List.mem_of_getElem? inSlot))

/-! ## One pet on every way -/

/-- The hooks of a gauge display one text and give these hit points, and a click
on it makes one call. -/
structure GaugeActs
    (sources : Sources)
    (gaugeWindows : Vector UInt32 2)
    (moduleBase : UInt32)
    (memory : Memory)
    (eqType text senderWindow : UInt32)
    (display : List UInt8)
    (hitPoints : Int32)
    (target : Option (UInt32 × UInt32)) : Prop where
  label : getLabelFromEQHook sources eqType text = .assigned display
  texts : ∀ native hasZeroFlag,
    ∀ assignment ∈
        (getGaugeValueFromEQHook sources gaugeWindows native eqType text
          hasZeroFlag).assigned,
      assignment.2 = display
  value : ∀ native hasZeroFlag,
    (getGaugeValueFromEQHook sources gaugeWindows (some native) eqType text
        hasZeroFlag).result =
      hitPoints
  resolved : ∀ native otherwise,
    playerManaEqTypeResolverHook sources (some native) eqType otherwise =
      hitPoints
  click : ∀ hasOriginal,
    petInfoWindowWndNotificationHook hasOriginal sources.roster gaugeWindows
        moduleBase memory senderWindow 1 =
      .taken target

/-- What the pet in a slot makes the hooks do. -/
theorem gaugeActs_of_slotHolds
    {sources : Sources}
    (requested : sources.multiPetWindowRequested = true)
    {eqType : UInt32}
    {slot : Nat}
    (isSlot : multiPetSlotFromEqType eqType = some slot)
    {pet : Option ObservedPetEntry}
    (holds : SlotHolds sources.roster slot pet)
    (named : ∀ shown, pet = some shown → shown.name ≠ [])
    {text : UInt32}
    (canAssign : sources.canAssign text = true)
    {gaugeWindows : Vector UInt32 2}
    {senderWindow : UInt32}
    (fromSlot :
      multiPetSlotFromSenderWindow gaugeWindows senderWindow = some slot)
    (moduleBase : UInt32)
    (memory : Memory) :
    GaugeActs sources gaugeWindows moduleBase memory eqType text senderWindow
      ((pet.map fun shown => buildDisplayName shown.name).getD
        (ascii "No Pet"))
      (extraPetGaugeValue sources.auth slot)
      (pet.bind fun shown => clickTarget moduleBase memory shown.spawnId) := by
  have display :
      buildMultiPetExtraPetDisplayText sources eqType =
        (pet.map fun shown => buildDisplayName shown.name).getD
          (ascii "No Pet") := by
    simp only [buildMultiPetExtraPetDisplayText, isSlot, holds.hasName,
      holds.name]
    cases pet with
    | none =>
        rfl
    | some shown =>
        have isNamed := buildDisplayName_ne_nil (named shown rfl)
        simp [isNamed]
  constructor
  · simp [getLabelFromEQHook, requested, isMultiPetExtraPetEqType_eq,
      isSlot, canAssign, display]
  · intro native hasZeroFlag assignment member
    cases native with
    | none =>
        cases member
    | some nativeResult =>
        simp only [getGaugeValueFromEQHook, requested, isSlot, display]
          at member
        obtain ⟨place, -, rfl⟩ := List.mem_map.mp member
        rfl
  · intro native hasZeroFlag
    simp [getGaugeValueFromEQHook, requested, isSlot]
  · intro native otherwise
    simp [playerManaEqTypeResolverHook, requested, isSlot]
  · intro hasOriginal
    simp only [petInfoWindowWndNotificationHook, if_true,
      tryTargetMultiPetAuxiliarySlotFromPetInfoClick, fromSlot,
      Option.map_some, holds.hasSpawnId, holds.spawnId]
    cases pet <;> rfl

/-- The call that a click makes is about the spawn with the pet's id. -/
theorem spawn_of_clickTarget
    {moduleBase : UInt32}
    {memory : Memory}
    {spawnId everquest spawn : UInt32}
    (targets :
      clickTarget moduleBase memory spawnId = some (everquest, spawn)) :
    ∃ spawnManager,
      memory.readWord (moduleBase + kPinstSpawnManagerRva) =
          some spawnManager ∧
        FoundInBucket memory spawnManager spawnId spawn ∧
        ∀ spawns, KnowsSpawns memory spawnManager spawns →
          spawns spawnId = some spawn := by
  simp only [clickTarget, bind, Option.bind_eq_some_iff, pure,
    Option.some.injEq, Prod.mk.injEq] at targets
  obtain ⟨_, nonzero, _, -, spawnManager, isManager, _, -, _, -, found,
    isFound, _, -, _, -, -, rfl⟩ := targets
  have isId : spawnId ≠ 0 := by
    intro isZero
    simp [guard, isZero] at nonzero
  refine ⟨spawnManager, (nonNull_eq_some isManager).1,
    (tryFindSpawnByIdFromSpawnList_eq_some_iff memory spawnManager isId
      found).mp isFound, ?_⟩
  intro spawns knows
  rw [← knows.tryFind_eq isId, isFound]

/-- The gauge that a click comes from is a window of its slot. -/
theorem window_of_sender
    {gaugeWindows : Vector UInt32 2}
    {senderWindow : UInt32}
    {slot : Nat}
    (fromSlot :
      multiPetSlotFromSenderWindow gaugeWindows senderWindow = some slot) :
    senderWindow ≠ 0 ∧
      senderWindow = readMultiPetExtraPetGaugeWindow gaugeWindows slot := by
  unfold multiPetSlotFromSenderWindow at fromSlot
  split at fromSlot
  · cases fromSlot
  · rename_i isWindow
    exact ⟨isWindow, by simpa using List.find?_some fromSlot⟩

/-- The game's objects for a module at `0x400000`, with one spawn, 102, and a
gauge window at `0x16000000`. -/
def petMemory : Memory :=
  (Memory.mk (fun _ => 0) (fun _ => true) (fun _ => true)).writeEach
    [⟨0x400000 + kPetInfoClickEverQuestGlobalRva, bytes32 0x10000000⟩,
      ⟨0x10000000, bytes32 0x401000⟩,
      ⟨0x400000 + kPinstSpawnManagerRva, bytes32 0x11000000⟩,
      ⟨0x11000000, bytes32 0x401100⟩,
      ⟨0x11000014, bytes32 0x12000000⟩,
      ⟨0x12000000, bytes32 0x13000000 ++ bytes32 1⟩,
      ⟨0x13000000, bytes32 0x14000000⟩,
      ⟨0x14000000, bytes32 0x15000000 ++ bytes32 102⟩,
      ⟨0x15000000, bytes32 0x401200⟩,
      ⟨0x16000000 + kCxWndEqTypeOffset,
        bytes32 kMultiPetExtraPet0GaugeEqType⟩]

/-- The first extra pet's gauge is created in a window at `0x17000000`. -/
def petCreations : List CreationEvent :=
  [.enterCreateChildren 0x17000000,
    .created petMemory 0x17000000 0x16000000,
    .leaveCreateChildren]

/-- The second pet came back, and its hit points are sent. -/
def petRun : List RosterEvent :=
  ownedRun ++
    [.authStats
      (.ofBytes
        (bytes32 2 ++ bytes32 102 ++ bytes32 101 ++ bytes32 0 ++
          bytes32 100 ++ bytes32 777 ++ bytes32 0)
        (by simp))]

/-- What the hooks see then. -/
def petSources : Sources :=
  ⟨true, true, snapshotAfter petSorter petRun,
    ServerAuthStats.getSnapshot (rosterAfter petRun).auth, none, none⟩

/-- The second pet in the roster. -/
def secondPet : ObservedPetEntry :=
  ⟨102, 42, 2, true, ascii "Fang000"⟩

theorem secondPet_shownIn : ShownIn petRun 0 secondPet := by
  have entries :
      (rosterAfter petRun).roster.entries =
        [⟨101, 42, 1, true, ascii "Fang000"⟩, secondPet] := by
    decide +kernel
  refine ⟨⟨101, 42, 1, true, ascii "Fang000"⟩, ⟨?_, rfl, ?_, ?_, ?_⟩, ?_⟩
  · rw [entries]
    exact List.mem_cons_self
  · decide +kernel
  · decide +kernel
  · decide +kernel
  · rw [otherPets, entries]
    decide +kernel

end MonomythClient.ExtraPetDisplay
