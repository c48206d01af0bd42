import Mathlib.Logic.Equiv.Basic
import MonomythClient.Runs

namespace MonomythClient.HandEquipment

/-!
# The hand-equipment cache

The client does not tell which items are in the hands.  What the two hand slots
hold is remembered from the moves that are sent, together with a pending record
of the last check of an equip attempt, which knows the class of the item.

A move exchanges the contents of its two places.  Of an item only its class
matters here.
-/

def kPrimaryEquipmentSlot : Int32 := 13
def kSecondaryEquipmentSlot : Int32 := 14
def kHoldingAnimationTwoHandedWeapon : UInt8 := 6
def kHoldingAnimationBow : UInt8 := 7

/-! ## Item classes -/

/-- `IsWeaponItemClass`. -/
def isWeaponItemClass (itemClass : UInt8) : Bool :=
  [0, 1, 2, 3, 4, 5, 7, 35, 36, 45].contains itemClass

/-- `IsTwoHandedWeaponItemClass`. -/
def isTwoHandedWeaponItemClass (itemClass : UInt8) : Bool :=
  [1, 4, 35].contains itemClass

/-- `ItemClassBlocksSecondaryWeapon`: two-handed weapons and bows. -/
def itemClassBlocksSecondaryWeapon (itemClass : UInt8) : Bool :=
  isTwoHandedWeaponItemClass itemClass || itemClass == 5

/-- `HoldingAnimationBlocksSecondaryWeapon`. -/
def holdingAnimationBlocksSecondaryWeapon (holdingAnimation : UInt8) : Bool :=
  holdingAnimation == kHoldingAnimationTwoHandedWeapon ||
    holdingAnimation == kHoldingAnimationBow

/-! ## Cache and pending record -/

/-- `CachedHandEquipmentState`: a copied flag with its value is one member. -/
structure CachedHandEquipmentState where
  primaryItemClass : Option UInt8 := none
  secondaryItemClass : Option UInt8 := none
  primaryBlocksSecondary : Option Bool := none
  secondaryOccupied : Option Bool := none
deriving DecidableEq, Repr

/-- `PendingHandEquipmentMoveState`, which is there while it is active. -/
structure PendingHandEquipmentMoveState where
  targetSlot : Int32
  itemClass : Option UInt8
  candidateBlocksSecondary : Bool
deriving DecidableEq, Repr

/-- `TryResolveCurrentPrimaryBlocksSecondaryState`, with whether the cache
knew. -/
def tryResolveCurrentPrimaryBlocksSecondaryState
    (cached : CachedHandEquipmentState)
    (holdingAnimation : Option UInt8) :
    Option (Bool × Bool) :=
  match cached.primaryBlocksSecondary with
  | some blocks => some (blocks, true)
  | none =>
      if holdingAnimation.any holdingAnimationBlocksSecondaryWeapon then
        some (true, false)
      else
        none

/-- `TryResolveCurrentSecondaryOccupiedState`. -/
def tryResolveCurrentSecondaryOccupiedState
    (cached : CachedHandEquipmentState) :
    Option Bool :=
  cached.secondaryOccupied

/-! ## Checks -/

/-- `HandEquipConflict`. -/
inductive HandEquipConflict where
  | none
  | primaryTwoHandedBlockedByOccupiedSecondary
  | secondaryBlockedByPrimaryTwoHanded
deriving DecidableEq, Repr

/-- `EvaluateHandEquipConflict`. -/
def evaluateHandEquipConflict
    (targetIsPrimary targetIsSecondary : Bool)
    (candidateIsWeapon candidateIsTwoHandedWeapon : Bool)
    (currentPrimaryBlocksSecondary currentSecondaryOccupied : Bool) :
    HandEquipConflict :=
  if targetIsPrimary && candidateIsWeapon && candidateIsTwoHandedWeapon &&
      currentSecondaryOccupied then
    .primaryTwoHandedBlockedByOccupiedSecondary
  else if targetIsSecondary && currentPrimaryBlocksSecondary then
    .secondaryBlockedByPrimaryTwoHanded
  else
    .none

/-- `HandEquipConflictSnapshot`, as far as it is decided by. -/
structure HandEquipConflictSnapshot where
  itemClass : Option UInt8
  handConflictEvaluated : Bool
  handConflict : HandEquipConflict
  handConflictBlocksEquip : Bool
deriving DecidableEq, Repr

/-- `CaptureHandEquipConflictSnapshot`, with the item's class and the holding
animation if they can be read. -/
def captureHandEquipConflictSnapshot
    (cached : CachedHandEquipmentState)
    (targetSlot : Int32)
    (itemClass holdingAnimation : Option UInt8) :
    HandEquipConflictSnapshot :=
  let targetIsPrimary := targetSlot == kPrimaryEquipmentSlot
  let targetIsSecondary := targetSlot == kSecondaryEquipmentSlot
  let primaryBlocks :=
    tryResolveCurrentPrimaryBlocksSecondaryState cached holdingAnimation
  let secondaryOccupied := tryResolveCurrentSecondaryOccupiedState cached
  let evaluated :=
    if targetIsSecondary then
      primaryBlocks.isSome
    else if targetIsPrimary then
      secondaryOccupied.isSome
    else
      false
  let conflict :=
    if evaluated then
      evaluateHandEquipConflict targetIsPrimary targetIsSecondary
        (itemClass.any isWeaponItemClass)
        (itemClass.any isTwoHandedWeaponItemClass)
        (primaryBlocks.any Prod.fst) (secondaryOccupied.getD false)
    else
      .none
  { itemClass := itemClass
    handConflictEvaluated := evaluated
    handConflict := conflict
    handConflictBlocksEquip := conflict != .none }

/-- `RememberPendingHandEquipmentMoveState`: the pending record it leaves. -/
def rememberPendingHandEquipmentMoveState
    (targetSlot : Int32)
    (snapshot : HandEquipConflictSnapshot)
    (returnedResult : UInt8)
    (pending : Option PendingHandEquipmentMoveState) :
    Option PendingHandEquipmentMoveState :=
  if targetSlot ≠ kPrimaryEquipmentSlot ∧
      targetSlot ≠ kSecondaryEquipmentSlot then
    pending
  else if returnedResult = 0 then
    pending.filter fun active => active.targetSlot != targetSlot
  else
    some
      { targetSlot := targetSlot
        itemClass := snapshot.itemClass
        candidateBlocksSecondary :=
          snapshot.itemClass.any itemClassBlocksSecondaryWeapon }

/-- What a late-branch check finds: the word of the lookup result before the
game's own check, the class of the item behind it, the holding animation, and
what the game's check returned. -/
structure LateBranchCheck where
  lookupDword0Before : Option UInt32
  itemClass : Option UInt8
  holdingAnimation : Option UInt8
  originalResult : UInt8
deriving DecidableEq, Repr

/-- The item of a check is looked for only behind a word that is not zero. -/
def LateBranchCheck.handItemClass (check : LateBranchCheck) : Option UInt8 :=
  if check.lookupDword0Before.any (· != 0) then check.itemClass else none

/-- The part that `InvSlotHandleLButtonCoreLateBranchPrepCallsiteHook` and
`InvSlotHandleLButtonCoreLateBranchDispatchCallsiteHook` share: the pending
record that a check leaves. -/
def observeLateBranchCheck
    (multiclassItemUsabilityEnabled : Bool)
    (slotLike : Int32)
    (check : LateBranchCheck)
    (cached : CachedHandEquipmentState)
    (pending : Option PendingHandEquipmentMoveState) :
    Option PendingHandEquipmentMoveState :=
  if multiclassItemUsabilityEnabled = true ∧
      ((slotLike = kPrimaryEquipmentSlot ∧
          check.lookupDword0Before.any (· != 0) = true) ∨
        slotLike = kSecondaryEquipmentSlot) then
    let handPolicy :=
      captureHandEquipConflictSnapshot cached slotLike check.handItemClass
        check.holdingAnimation
    let handReturnedResult :=
      if check.originalResult ≠ 0 ∧ handPolicy.handConflictBlocksEquip then
        0
      else
        check.originalResult
    rememberPendingHandEquipmentMoveState slotLike handPolicy
      handReturnedResult pending
  else
    pending

/-! ## Moves -/

/-- `ClientInventorySlotWire`. -/
structure ClientInventorySlotWire where
  type : Int16
  unknown02 : Int16
  slot : Int16
  subindex : Int16
  augindex : Int16
  unknown01 : Int16
deriving DecidableEq, Repr

/-- `ClientMoveItemWire`. -/
structure ClientMoveItemWire where
  fromSlot : ClientInventorySlotWire
  toSlot : ClientInventorySlotWire
  numberInStack : UInt32
deriving DecidableEq, Repr

/-- `IsDirectInventoryMoveSlot`. -/
def isDirectInventoryMoveSlot (slot : ClientInventorySlotWire) : Bool :=
  slot.type == 0 && slot.unknown02 == 0 && slot.subindex == -1

/-- The wire slot is this equipment slot. -/
def isEquipmentSlot (slot : ClientInventorySlotWire) (number : Int32) : Bool :=
  isDirectInventoryMoveSlot slot && slot.slot.toInt32 == number

/-- The pending record concerns a slot, and the class of its item is known. -/
def pendingFor
    (targetSlot : Int32)
    (pending : Option PendingHandEquipmentMoveState) :
    Option PendingHandEquipmentMoveState :=
  pending.filter fun active =>
    active.targetSlot == targetSlot && active.itemClass.isSome

/-- `ObserveHandEquipmentMoveSend`: cache and pending record behind a send,
whose payload is there if it could be copied. -/
def observeHandEquipmentMoveSend
    (moveItem : Option ClientMoveItemWire)
    (originalResult : Bool)
    (cached : CachedHandEquipmentState)
    (pending : Option PendingHandEquipmentMoveState) :
    CachedHandEquipmentState × Option PendingHandEquipmentMoveState :=
  match moveItem, originalResult with
  | some move, true =>
      let cached :=
        if isEquipmentSlot move.fromSlot kPrimaryEquipmentSlot &&
            !isEquipmentSlot move.toSlot kPrimaryEquipmentSlot then
          { cached with
            primaryItemClass := none
            primaryBlocksSecondary := some false }
        else
          cached
      let cached :=
        if isEquipmentSlot move.fromSlot kSecondaryEquipmentSlot &&
            !isEquipmentSlot move.toSlot kSecondaryEquipmentSlot then
          { cached with
            secondaryItemClass := none
            secondaryOccupied := some false }
        else
          cached
      let cached :=
        if isEquipmentSlot move.toSlot kPrimaryEquipmentSlot then
          match pendingFor kPrimaryEquipmentSlot pending with
          | some active =>
              { cached with
                primaryItemClass := active.itemClass
                primaryBlocksSecondary :=
                  some active.candidateBlocksSecondary }
          | none =>
              { cached with
                primaryItemClass := none
                primaryBlocksSecondary := none }
        else
          cached
      let cached :=
        if isEquipmentSlot move.toSlot kSecondaryEquipmentSlot then
          { cached with
            secondaryOccupied := some true
            secondaryItemClass :=
              (pendingFor kSecondaryEquipmentSlot pending).bind
                (·.itemClass) }
        else
          cached
      (cached, none)
  | _, _ => (cached, pending)

/-! ## Runs -/

/-- A place of the inventory.  The other numbers of a wire slot name no
place. -/
structure InventoryPlace where
  type : Int16
  unknown02 : Int16
  slot : Int16
  subindex : Int16
deriving DecidableEq, Repr

/-- The place that a wire slot names. -/
def ClientInventorySlotWire.place (slot : ClientInventorySlotWire) :
    InventoryPlace :=
  ⟨slot.type, slot.unknown02, slot.slot, slot.subindex⟩

/-- The place of an equipment slot. -/
def equipmentPlace (number : Int16) : InventoryPlace :=
  ⟨0, 0, number, -1⟩

/-- The primary slot. -/
def primaryPlace : InventoryPlace :=
  equipmentPlace 13

/-- The secondary slot. -/
def secondaryPlace : InventoryPlace :=
  equipmentPlace 14

/-- What is in the places: the class of the item there, if there is one. -/
abbrev Contents : Type :=
  InventoryPlace → Option UInt8

/-- The cache with the pending record, the slot of the last late branch, and
what is in the inventory. -/
structure State where
  multiclassItemUsabilityEnabled : Bool
  lastLateBranchSlot : Int32
  cached : CachedHandEquipmentState
  pending : Option PendingHandEquipmentMoveState
  contents : Contents

/-- Nothing is cached yet. -/
def State.initial
    (multiclassItemUsabilityEnabled : Bool)
    (contents : Contents) :
    State where
  multiclassItemUsabilityEnabled := multiclassItemUsabilityEnabled
  lastLateBranchSlot := -1
  cached := {}
  pending := none
  contents := contents

/-- The late-branch callsites that name a slot, those that check an item, and
the sends of `OP_MoveItem`. -/
inductive Event where
  | prepChecked (slotLike : Int32) (check : LateBranchCheck)
  | gateNamedSlot (slotLike : Int32)
  | dispatchChecked (check : LateBranchCheck)
  | moveSent (moveItem : Option ClientMoveItemWire) (originalResult : Bool)
deriving DecidableEq

/-- The contents behind a send: a move that succeeds exchanges its places. -/
def contentsAfter
    (moveItem : Option ClientMoveItemWire)
    (originalResult : Bool)
    (contents : Contents) :
    Contents :=
  match moveItem, originalResult with
  | some move, true =>
      contents ∘ Equiv.swap move.fromSlot.place move.toSlot.place
  | _, _ => contents

/-- The state behind an event. -/
def step (state : State) : Event → State
  | .prepChecked slotLike check =>
      { state with
        lastLateBranchSlot := slotLike
        pending :=
          observeLateBranchCheck state.multiclassItemUsabilityEnabled slotLike
            check state.cached state.pending }
  | .gateNamedSlot slotLike =>
      { state with lastLateBranchSlot := slotLike }
  | .dispatchChecked check =>
      { state with
        pending :=
          observeLateBranchCheck state.multiclassItemUsabilityEnabled
            state.lastLateBranchSlot check state.cached state.pending }
  | .moveSent moveItem originalResult =>
      let observed :=
        observeHandEquipmentMoveSend moveItem originalResult state.cached
          state.pending
      { state with
        cached := observed.1
        pending := observed.2
        contents := contentsAfter moveItem originalResult state.contents }

/-! ## What a move does to the cache -/

/-- A wire slot is an equipment slot when it names its place. -/
theorem isEquipmentSlot_iff
    {slot : ClientInventorySlotWire}
    {number : Int16} :
    isEquipmentSlot slot number.toInt32 = true ↔
      slot.place = equipmentPlace number := by
  have sameNumber :
      slot.slot.toInt32 = number.toInt32 ↔ slot.slot = number :=
    ⟨fun same => by simpa using congrArg Int32.toInt16 same,
      congrArg Int16.toInt32⟩
  simp only [isEquipmentSlot, isDirectInventoryMoveSlot, Bool.and_eq_true,
    beq_iff_eq, sameNumber, ClientInventorySlotWire.place,
    equipmentPlace, InventoryPlace.mk.injEq]
  constructor
  · rintro ⟨⟨⟨type, unknown02⟩, subindex⟩, number⟩
    exact ⟨type, unknown02, number, subindex⟩
  · rintro ⟨type, unknown02, number, subindex⟩
    exact ⟨⟨⟨type, unknown02⟩, subindex⟩, number⟩

/-- The primary slot is the slot of its number. -/
theorem isPrimarySlot_iff {slot : ClientInventorySlotWire} :
    isEquipmentSlot slot kPrimaryEquipmentSlot = true ↔
      slot.place = primaryPlace :=
  @isEquipmentSlot_iff slot 13

/-- So is the secondary one. -/
theorem isSecondarySlot_iff {slot : ClientInventorySlotWire} :
    isEquipmentSlot slot kSecondaryEquipmentSlot = true ↔
      slot.place = secondaryPlace :=
  @isEquipmentSlot_iff slot 14

section Move

variable
  (move : ClientMoveItemWire)
  (cached : CachedHandEquipmentState)
  (pending : Option PendingHandEquipmentMoveState)

/-- What is cached of the primary slot behind a move. -/
theorem primaryBlocksSecondary_observe :
    (observeHandEquipmentMoveSend (some move) true cached
      pending).1.primaryBlocksSecondary =
      if move.toSlot.place = primaryPlace then
        (pendingFor kPrimaryEquipmentSlot pending).map
          (·.candidateBlocksSecondary)
      else if move.fromSlot.place = primaryPlace then
        some false
      else
        cached.primaryBlocksSecondary := by
  simp only [← isPrimarySlot_iff]
  rw [observeHandEquipmentMoveSend]
  dsimp only
  cases isEquipmentSlot move.toSlot kPrimaryEquipmentSlot <;>
    cases isEquipmentSlot move.fromSlot kPrimaryEquipmentSlot <;>
    cases isEquipmentSlot move.toSlot kSecondaryEquipmentSlot <;>
    cases isEquipmentSlot move.fromSlot kSecondaryEquipmentSlot <;>
    cases pendingFor kPrimaryEquipmentSlot pending <;> rfl

/-- What is cached of the secondary slot behind a move. -/
theorem secondaryOccupied_observe :
    (observeHandEquipmentMoveSend (some move) true cached
      pending).1.secondaryOccupied =
      if move.toSlot.place = secondaryPlace then
        some true
      else if move.fromSlot.place = secondaryPlace then
        some false
      else
        cached.secondaryOccupied := by
  simp only [← isSecondarySlot_iff]
  rw [observeHandEquipmentMoveSend]
  dsimp only
  cases isEquipmentSlot move.toSlot kPrimaryEquipmentSlot <;>
    cases isEquipmentSlot move.fromSlot kPrimaryEquipmentSlot <;>
    cases isEquipmentSlot move.toSlot kSecondaryEquipmentSlot <;>
    cases isEquipmentSlot move.fromSlot kSecondaryEquipmentSlot <;>
    cases pendingFor kPrimaryEquipmentSlot pending <;> rfl

/-- What is in a place behind a move. -/
theorem contentsAfter_move (contents : Contents) (place : InventoryPlace) :
    contentsAfter (some move) true contents place =
      if move.toSlot.place = place then
        contents move.fromSlot.place
      else if move.fromSlot.place = place then
        contents move.toSlot.place
      else
        contents place := by
  rw [contentsAfter, Function.comp_apply, Equiv.swap_apply_def]
  by_cases isTarget : move.toSlot.place = place
  · by_cases isSource : move.fromSlot.place = place
    · rw [if_pos isTarget, if_pos isSource.symm, isTarget, isSource]
    · rw [if_pos isTarget, if_neg (Ne.symm isSource), if_pos isTarget.symm]
  · by_cases isSource : move.fromSlot.place = place
    · rw [if_neg isTarget, if_pos isSource, if_pos isSource.symm]
    · rw [if_neg isTarget, if_neg isSource, if_neg (Ne.symm isSource),
        if_neg (Ne.symm isTarget)]

end Move

/-! ## Truth -/

/-- What the cache says of the primary slot is true. -/
def PrimaryTruthful
    (cached : CachedHandEquipmentState)
    (contents : Contents) :
    Prop :=
  ∀ blocks ∈ cached.primaryBlocksSecondary,
    blocks = true ↔
      (contents primaryPlace).any itemClassBlocksSecondaryWeapon = true

/-- What the cache says of the secondary slot is true. -/
def SecondaryTruthful
    (cached : CachedHandEquipmentState)
    (contents : Contents) :
    Prop :=
  ∀ occupied ∈ cached.secondaryOccupied,
    occupied = true ↔ (contents secondaryPlace).isSome = true

/-- The cache does not lie. -/
structure Truthful (state : State) : Prop where
  primary : PrimaryTruthful state.cached state.contents
  secondary : SecondaryTruthful state.cached state.contents

/-- The moves behind which the cache tells the truth about the primary slot: no
two-handed weapon or bow takes the place of what leaves the slot, and the
pending record is right about what enters it. -/
def KeepsPrimary (state : State) (move : ClientMoveItemWire) : Prop :=
  (move.fromSlot.place = primaryPlace → move.toSlot.place ≠ primaryPlace →
      (state.contents move.toSlot.place).any
          itemClassBlocksSecondaryWeapon = false) ∧
    (move.toSlot.place = primaryPlace →
      ∀ active ∈ pendingFor kPrimaryEquipmentSlot state.pending,
        active.candidateBlocksSecondary = true ↔
          (state.contents move.fromSlot.place).any
            itemClassBlocksSecondaryWeapon = true)

/-- The moves behind which it tells the truth about the secondary slot: nothing
takes the place of what leaves the slot, and something enters it. -/
def KeepsSecondary (state : State) (move : ClientMoveItemWire) : Prop :=
  (move.fromSlot.place = secondaryPlace →
      move.toSlot.place ≠ secondaryPlace →
        state.contents move.toSlot.place = none) ∧
    (move.toSlot.place = secondaryPlace →
      (state.contents move.fromSlot.place).isSome = true)

/-- The events behind which it tells the truth about both. -/
def KeepsTruth (state : State) : Event → Prop
  | .moveSent (some move) true =>
      KeepsPrimary state move ∧ KeepsSecondary state move
  | _ => True

section Exact

variable {state : State} (move : ClientMoveItemWire)

/-- Those are exactly the moves that keep it for the primary slot. -/
theorem primaryTruthful_move_iff
    (truthful : PrimaryTruthful state.cached state.contents) :
    PrimaryTruthful
        (observeHandEquipmentMoveSend (some move) true state.cached
          state.pending).1
        (contentsAfter (some move) true state.contents) ↔
      KeepsPrimary state move := by
  rw [PrimaryTruthful, primaryBlocksSecondary_observe, contentsAfter_move,
    KeepsPrimary]
  by_cases enters : move.toSlot.place = primaryPlace
  · simp only [enters, if_true, not_true_eq_false, ne_eq, false_implies,
      implies_true, true_and, true_implies, Option.mem_def,
      Option.map_eq_some_iff]
    constructor
    · intro after active pends
      exact after _ ⟨active, pends, rfl⟩
    · rintro right _ ⟨active, pends, rfl⟩
      exact right active pends
  · by_cases leaves : move.fromSlot.place = primaryPlace
    · simp [enters, leaves]
    · simp only [enters, leaves, if_false, false_implies, and_true, iff_true]
      exact truthful

/-- Those are exactly the moves that keep it for the secondary slot. -/
theorem secondaryTruthful_move_iff
    (truthful : SecondaryTruthful state.cached state.contents) :
    SecondaryTruthful
        (observeHandEquipmentMoveSend (some move) true state.cached
          state.pending).1
        (contentsAfter (some move) true state.contents) ↔
      KeepsSecondary state move := by
  rw [SecondaryTruthful, secondaryOccupied_observe, contentsAfter_move,
    KeepsSecondary]
  by_cases enters : move.toSlot.place = secondaryPlace
  · simp [enters]
  · by_cases leaves : move.fromSlot.place = secondaryPlace
    · simp [enters, leaves]
    · simp only [enters, leaves, if_false, false_implies, and_true, iff_true]
      exact truthful

/-- A truthful cache stays truthful by these events and by no others. -/
theorem truthful_step_iff
    (truthful : Truthful state)
    (event : Event) :
    Truthful (step state event) ↔ KeepsTruth state event := by
  have unchanged :
      (step state event).cached = state.cached →
        (step state event).contents = state.contents →
          Truthful (step state event) := by
    intro sameCache sameContents
    refine ⟨?_, ?_⟩
    · rw [sameCache, sameContents]
      exact truthful.primary
    · rw [sameCache, sameContents]
      exact truthful.secondary
  cases event with
  | moveSent moveItem originalResult =>
      cases moveItem with
      | none =>
          exact iff_of_true (unchanged rfl rfl) trivial
      | some move =>
          cases originalResult with
          | false =>
              exact iff_of_true (unchanged rfl rfl) trivial
          | true =>
              rw [KeepsTruth, ← primaryTruthful_move_iff move truthful.primary,
                ← secondaryTruthful_move_iff move truthful.secondary]
              exact
                ⟨fun after => ⟨after.primary, after.secondary⟩,
                  fun after => ⟨after.1, after.2⟩⟩
  | _ =>
      exact iff_of_true (unchanged rfl rfl) trivial

end Exact

/--
From the empty cache on it never lies exactly when every move of the run keeps
it truthful.
-/
theorem cache_truthful_iff
    (multiclassItemUsabilityEnabled : Bool)
    (contents : Contents)
    (events : List Event) :
    (∀ earlier later,
        events = earlier ++ later →
          Truthful
            (Runs.run step (.initial multiclassItemUsabilityEnabled contents)
              earlier)) ↔
      Runs.Along step KeepsTruth
        (.initial multiclassItemUsabilityEnabled contents) events := by
  have initially :
      Truthful (.initial multiclassItemUsabilityEnabled contents) := by
    refine ⟨?_, ?_⟩
    · rintro blocks ⟨⟩
    · rintro occupied ⟨⟩
  have exactly :
      ∀ state event, Truthful state →
        (Truthful (step state event) ↔ KeepsTruth state event) :=
    fun _ event truthful => truthful_step_iff truthful event
  exact (Runs.along_iff_throughout exactly initially).symm

/-- A wire slot of the inventory itself. -/
def directSlot (number : Int16) : ClientInventorySlotWire :=
  ⟨0, 0, number, -1, -1, 0⟩

/-- The primary slot holds a sword, and the first bag slot a staff. -/
def swordInHand : Contents := fun place =>
  if place = primaryPlace then
    some 0
  else if place = equipmentPlace 23 then
    some 4
  else
    none

/-- Behind an exchange of sword and staff the primary slot is said to hold no
two-handed weapon. -/
theorem exchange_leaves_cache_lying :
    ¬ ∀ earlier later,
      [Event.moveSent (some ⟨directSlot 13, directSlot 23, 0⟩) true] =
          earlier ++ later →
        Truthful (Runs.run step (.initial true swordInHand) earlier) := by
  intro never
  have lies :=
    (never [.moveSent (some ⟨directSlot 13, directSlot 23, 0⟩) true] []
      rfl).primary false (by decide)
  exact absurd lies (by decide)

end MonomythClient.HandEquipment
