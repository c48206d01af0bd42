import MonomythClient.ManaPercent
import MonomythClient.Retries

namespace MonomythClient.DeferredRetries

open ManaPercent MulticlassIdentity Retries Runs

/-!
# Deferred retries of caster windows and combat abilities

When the assigned classes arrive, the client may not be far enough along to
show the caster windows or to rebuild the combat abilities.  Both are retried
later, by two machines of the same make: cells for a pending flag, a mask, a
count of attempts and the tick of the next one, armed by packets and triggered
by display surfaces and received packets.
-/

def kMulticlassCasterUiAccessRetryMaxAttempts : UInt32 := 30

def kMulticlassCasterUiAccessRetryCooldownMs : UInt64 := 1000

def kNewZoneOpcode : UInt32 := 0x1795

def kZoneChangeOpcode : UInt32 := 0x2d18

/-! ## The cells -/

/-- `g_multiclass_caster_ui_access_retry_*`, or
`g_combat_ability_resync_retry_*`. -/
structure RetryCells where
  pending : Bool
  mask : UInt32
  attemptCount : UInt32
  nextTickMs : UInt64
  deriving DecidableEq, Repr

/-- What both `Clear…RetryState` functions leave, and what the process starts
with. -/
def RetryCells.cleared : RetryCells where
  pending := false
  mask := 0
  attemptCount := 0
  nextTickMs := 0

/-- What both `ArmDeferred…Retry` functions leave. -/
def RetryCells.armed
    (assignedMask : UInt32)
    (nextRetryTickMs : UInt64) :
    RetryCells where
  pending := true
  mask := assignedMask
  attemptCount := 0
  nextTickMs := nextRetryTickMs

/-- The attempt of a pending retry, with what is done about its result. -/
def makeAttempt
    (currentTickMs : UInt64)
    (success : Bool)
    (eligible : UInt32 → Bool)
    (cells : RetryCells) :
    RetryCells × List Note :=
  let attemptNumber := cells.attemptCount + 1
  let stillEligible := !success && eligible cells.mask
  if success then
    (.cleared, [.attempted currentTickMs.toNat .succeeded])
  else if !stillEligible then
    (.cleared, [.attempted currentTickMs.toNat .ineligible])
  else if kMulticlassCasterUiAccessRetryMaxAttempts ≤ attemptNumber then
    (.cleared, [.attempted currentTickMs.toNat .exhausted])
  else
    ({ cells with
        attemptCount := attemptNumber
        nextTickMs :=
          currentTickMs + kMulticlassCasterUiAccessRetryCooldownMs },
      [.attempted currentTickMs.toNat .rescheduled])

/-- The body that both `TryRetryPending…` functions share: the cells it leaves,
and the attempt or the postponement that it made. -/
def retryPending
    (currentTickMs : UInt64)
    (prerequisitesOk success : Bool)
    (eligible : UInt32 → Bool)
    (cells : RetryCells) :
    RetryCells × List Note :=
  if !cells.pending then
    (cells, [])
  else if cells.mask = 0 then
    (.cleared, [])
  else if cells.nextTickMs ≠ 0 ∧ currentTickMs < cells.nextTickMs then
    (cells, [])
  else if kMulticlassCasterUiAccessRetryMaxAttempts ≤ cells.attemptCount then
    (.cleared, [])
  else if !prerequisitesOk then
    ({ cells with
        nextTickMs :=
          currentTickMs + kMulticlassCasterUiAccessRetryCooldownMs },
      [.postponed currentTickMs.toNat])
  else
    makeAttempt currentTickMs success eligible cells

/-! ## The two machines -/

/-- `ShouldArmDeferredMulticlassCasterUiAccessRetry`, given what
`TryReadLocalProfileClassId` reads. -/
def shouldArmDeferredMulticlassCasterUiAccessRetry
    (profileClassId : Option UInt8)
    (assignedMask : UInt32) :
    Bool :=
  if !hasAnyAuthoritativeCastingClass true assignedMask then
    false
  else
    match profileClassId with
    | none => false
    | some primaryClassId =>
        isPlayableClassId primaryClassId.toUInt32 &&
          !isCastingClassId primaryClassId.toUInt32 &&
          hasAuthoritativeClass true assignedMask primaryClassId.toUInt32

/-- `ShouldArmDeferredCombatAbilityResyncRetry`. -/
def shouldArmDeferredCombatAbilityResyncRetry
    (assignedMask : UInt32) :
    Bool :=
  assignedMask != 0 && isPlayableClassMask assignedMask

/-- The pointer was read and is not null. -/
def pointerOk (pointer : Option UInt32) : Bool :=
  match pointer with
  | none => false
  | some address => address != 0

/-- What one call of `TryRetryPendingMulticlassCasterUiAccess` finds: the tick,
the player it reads, whether the windows could be ensured, and the class id
that it reads afterwards. -/
structure CasterUiTrigger where
  tickMs : UInt64
  localPlayer : Option UInt32
  ensured : Bool
  profileClassId : Option UInt8
  deriving DecidableEq, Repr

/-- `TryRetryPendingMulticlassCasterUiAccess`. -/
def tryRetryPendingMulticlassCasterUiAccess (trigger : CasterUiTrigger) :
    RetryCells → RetryCells × List Note :=
  retryPending trigger.tickMs (pointerOk trigger.localPlayer) trigger.ensured
    (shouldArmDeferredMulticlassCasterUiAccessRetry trigger.profileClassId)

/-- What one call of `TryRetryPendingCombatAbilityResync` finds. -/
structure CombatAbilityTrigger where
  tickMs : UInt64
  localPlayer : Option UInt32
  displayedClassId : Option UInt8
  spellManager : Option UInt32
  resynced : Bool
  deriving DecidableEq, Repr

/-- `displayed_class_ok`. -/
def displayedClassOk (displayedClassId : Option UInt8) : Bool :=
  match displayedClassId with
  | none => false
  | some classId => isPlayableClassId classId.toUInt32

/-- `TryRetryPendingCombatAbilityResync`. -/
def tryRetryPendingCombatAbilityResync (trigger : CombatAbilityTrigger) :
    RetryCells → RetryCells × List Note :=
  retryPending trigger.tickMs
    (pointerOk trigger.localPlayer &&
      displayedClassOk trigger.displayedClassId &&
      pointerOk trigger.spellManager)
    trigger.resynced shouldArmDeferredCombatAbilityResyncRetry

/-- `IsMulticlassCasterUiAccessZoneOpcode`. -/
def isMulticlassCasterUiAccessZoneOpcode (opcode : UInt32) : Bool :=
  opcode == kNewZoneOpcode || opcode == kZoneChangeOpcode

/-- The assigned mask of the server's snapshot, if it has one. -/
abbrev SnapshotMask := Option UInt32

/-- What one call of `NotifyServerAuthStatsUpdated` finds, with the ticks that
it arms the two retries at. -/
structure StatsUpdate where
  classesBitmask : SnapshotMask
  resynced : Bool
  combatAbilityTickMs : UInt64
  ensured : Bool
  profileClassId : Option UInt8
  casterUiTickMs : UInt64
  deriving DecidableEq, Repr

/-- What one call of `TryRearmMulticlassCasterUiAccessForZoneTransition`
finds. -/
structure ZoneTransition where
  opcode : UInt32
  classesBitmask : SnapshotMask
  profileClassId : Option UInt8
  tickMs : UInt64
  deriving DecidableEq, Repr

/-- A call of one of the functions that touch the cells. -/
inductive Event where
  | statsUpdated (update : StatsUpdate)
  | zoneTransition (transition : ZoneTransition)
  | casterUiTriggered (trigger : CasterUiTrigger)
  | combatAbilityTriggered (trigger : CombatAbilityTrigger)
  | skillVisibilityRemoved
  | shutDown
  deriving DecidableEq, Repr

/-- The part of `NotifyServerAuthStatsUpdated` that is about one machine: what
was achieved at once is not retried. -/
def notifyRetry
    (classesBitmask : SnapshotMask)
    (achieved : Bool)
    (shouldArm : UInt32 → Bool)
    (tickMs : UInt64)
    (cells : RetryCells) :
    RetryCells × List Note :=
  match classesBitmask with
  | none => (cells, [])
  | some assignedMask =>
      if assignedMask = 0 then
        (cells, [])
      else if achieved then
        (.cleared, [])
      else if shouldArm assignedMask then
        (.armed assignedMask
            (tickMs + kMulticlassCasterUiAccessRetryCooldownMs),
          [.armed tickMs.toNat])
      else
        (.cleared, [])

/-- `TryRearmMulticlassCasterUiAccessForZoneTransition`. -/
def tryRearmMulticlassCasterUiAccessForZoneTransition
    (transition : ZoneTransition)
    (cells : RetryCells) :
    RetryCells × List Note :=
  if !isMulticlassCasterUiAccessZoneOpcode transition.opcode then
    (cells, [])
  else
    match transition.classesBitmask with
    | none => (cells, [])
    | some assignedMask =>
        if assignedMask = 0 ∨
            !shouldArmDeferredMulticlassCasterUiAccessRetry
              transition.profileClassId assignedMask then
          (cells, [])
        else
          (.armed assignedMask
              (transition.tickMs + kMulticlassCasterUiAccessRetryCooldownMs),
            [.armed transition.tickMs.toNat])

/-- What an event does to the retry of the caster windows. -/
def casterUiEffect (cells : RetryCells) : Event → RetryCells × List Note
  | .statsUpdated update =>
      notifyRetry update.classesBitmask update.ensured
        (shouldArmDeferredMulticlassCasterUiAccessRetry
          update.profileClassId)
        update.casterUiTickMs cells
  | .zoneTransition transition =>
      tryRearmMulticlassCasterUiAccessForZoneTransition transition cells
  | .casterUiTriggered trigger =>
      tryRetryPendingMulticlassCasterUiAccess trigger cells
  | .shutDown => (.cleared, [])
  | _ => (cells, [])

/-- What an event does to the retry of the combat abilities. -/
def combatAbilityEffect (cells : RetryCells) : Event → RetryCells × List Note
  | .statsUpdated update =>
      notifyRetry update.classesBitmask update.resynced
        shouldArmDeferredCombatAbilityResyncRetry
        update.combatAbilityTickMs cells
  | .combatAbilityTriggered trigger =>
      tryRetryPendingCombatAbilityResync trigger cells
  | .skillVisibilityRemoved => (.cleared, [])
  | _ => (cells, [])

/-- The clock readings of an event, in order. -/
def Event.ticks : Event → List UInt64
  | .statsUpdated update =>
      [update.combatAbilityTickMs, update.casterUiTickMs]
  | .zoneTransition transition => [transition.tickMs]
  | .casterUiTriggered trigger => [trigger.tickMs]
  | .combatAbilityTriggered trigger => [trigger.tickMs]
  | _ => []

/-! ## Both machines are retries -/

/-- Thirty attempts, each a cooldown behind what put it off, in the arithmetic
of the tick cell. -/
def retryPolicy : Policy where
  maxAttempts := kMulticlassCasterUiAccessRetryMaxAttempts.toNat
  due time :=
    (time + kMulticlassCasterUiAccessRetryCooldownMs.toNat) % 2 ^ 64

/-- The phase that the cells stand for. -/
def RetryCells.phase (cells : RetryCells) : Phase UInt32 :=
  if cells.pending = true ∧ cells.mask ≠ 0 then
    .waiting cells.mask cells.attemptCount.toNat cells.nextTickMs.toNat
  else
    .idle

@[simp] theorem phase_cleared : RetryCells.cleared.phase = .idle := rfl

theorem toNat_due (tickMs : UInt64) :
    (tickMs + kMulticlassCasterUiAccessRetryCooldownMs).toNat =
      retryPolicy.due tickMs.toNat :=
  UInt64.toNat_add _ _

theorem phase_armed
    {assignedMask : UInt32}
    (assigned : assignedMask ≠ 0)
    (tickMs : UInt64) :
    (RetryCells.armed assignedMask
        (tickMs + kMulticlassCasterUiAccessRetryCooldownMs)).phase =
      .waiting assignedMask 0 (retryPolicy.due tickMs.toNat) := by
  rw [← toNat_due]
  exact if_pos ⟨rfl, assigned⟩

/-- Cells that were put off wait until then. -/
theorem phase_putOff
    {mask : UInt32}
    (assigned : mask ≠ 0)
    (attemptCount : UInt32)
    (tickMs : UInt64) :
    (RetryCells.mk true mask attemptCount
        (tickMs + kMulticlassCasterUiAccessRetryCooldownMs)).phase =
      .waiting mask attemptCount.toNat (retryPolicy.due tickMs.toNat) := by
  rw [← toNat_due]
  exact if_pos ⟨rfl, assigned⟩

/-- The attempt is one of the retry. -/
theorem makeAttempt_eq
    (currentTickMs : UInt64)
    (success : Bool)
    (eligible : UInt32 → Bool)
    {mask attemptCount : UInt32}
    (assigned : mask ≠ 0)
    (notSpent : attemptCount.toNat < retryPolicy.maxAttempts)
    (nextTickMs : UInt64) :
    Prod.map RetryCells.phase id
        (makeAttempt currentTickMs success eligible
          ⟨true, mask, attemptCount, nextTickMs⟩) =
      attempt retryPolicy currentTickMs.toNat success (eligible mask) mask
        (attemptCount.toNat + 1) := by
  have counted : (attemptCount + 1).toNat = attemptCount.toNat + 1 := by
    have few : attemptCount.toNat < 30 := notSpent
    rw [UInt32.toNat_add, UInt32.toNat_one, Nat.mod_eq_of_lt (by omega)]
  have lastOne :
      kMulticlassCasterUiAccessRetryMaxAttempts ≤ attemptCount + 1 ↔
        retryPolicy.maxAttempts ≤ attemptCount.toNat + 1 := by
    rw [← counted]
    exact UInt32.le_iff_toNat_le
  rw [makeAttempt, attempt, outcome]
  cases success with
  | true =>
      rfl
  | false =>
      cases eligible mask with
      | false =>
          simp
      | true =>
          by_cases isLast : retryPolicy.maxAttempts ≤ attemptCount.toNat + 1
          · simp [lastOne, isLast]
          · simp [lastOne, isLast, phase_putOff assigned, counted]

/-- The shared body triggers the retry. -/
theorem retryPending_eq
    (currentTickMs : UInt64)
    (prerequisitesOk success : Bool)
    (eligible : UInt32 → Bool)
    (cells : RetryCells) :
    Prod.map RetryCells.phase id
        (retryPending currentTickMs prerequisitesOk success eligible cells) =
      trigger retryPolicy currentTickMs.toNat prerequisitesOk success eligible
        cells.phase := by
  obtain ⟨pending, mask, attemptCount, nextTickMs⟩ := cells
  cases pending with
  | false =>
      rfl
  | true =>
      by_cases noMask : mask = 0
      · subst noMask
        rfl
      · have waits :
            (RetryCells.mk true mask attemptCount nextTickMs).phase =
              .waiting mask attemptCount.toNat nextTickMs.toNat :=
          if_pos ⟨rfl, noMask⟩
        have notYet :
            (nextTickMs ≠ 0 ∧ currentTickMs < nextTickMs) ↔
              currentTickMs.toNat < nextTickMs.toNat := by
          rw [UInt64.lt_iff_toNat_lt, Ne, ← UInt64.toNat_inj,
            UInt64.toNat_zero]
          omega
        have spent :
            kMulticlassCasterUiAccessRetryMaxAttempts ≤ attemptCount ↔
              retryPolicy.maxAttempts ≤ attemptCount.toNat :=
          UInt32.le_iff_toNat_le
        rw [waits, trigger]
        simp only [retryPending, Bool.not_true, Bool.false_eq_true, if_false,
          noMask, notYet, spent]
        by_cases isEarly : currentTickMs.toNat < nextTickMs.toNat
        · rw [if_pos isEarly, if_pos isEarly, Prod.map, waits]
          rfl
        · rw [if_neg isEarly, if_neg isEarly]
          by_cases isSpent : retryPolicy.maxAttempts ≤ attemptCount.toNat
          · rw [if_pos isSpent, if_pos isSpent]
            rfl
          · rw [if_neg isSpent, if_neg isSpent]
            cases prerequisitesOk with
            | false =>
                exact congrArg (·, _) (phase_putOff noMask attemptCount _)
            | true =>
                exact makeAttempt_eq currentTickMs success eligible noMask
                  (Nat.not_le.mp isSpent) nextTickMs

/-- What a notification is to a retry. -/
def notifyMessage
    (classesBitmask : SnapshotMask)
    (achieved : Bool)
    (shouldArm : UInt32 → Bool)
    (tickMs : UInt64) :
    Option (Retries.Event UInt32) :=
  match classesBitmask with
  | none => none
  | some assignedMask =>
      if assignedMask = 0 then
        none
      else if achieved then
        some .cleared
      else if shouldArm assignedMask then
        some (.armed assignedMask tickMs.toNat)
      else
        some .cleared

/-- What an event is to the retry of the caster windows. -/
def casterUiMessage : Event → Option (Retries.Event UInt32)
  | .statsUpdated update =>
      notifyMessage update.classesBitmask update.ensured
        (shouldArmDeferredMulticlassCasterUiAccessRetry
          update.profileClassId)
        update.casterUiTickMs
  | .zoneTransition transition =>
      if !isMulticlassCasterUiAccessZoneOpcode transition.opcode then
        none
      else
        match transition.classesBitmask with
        | none => none
        | some assignedMask =>
            if assignedMask = 0 ∨
                !shouldArmDeferredMulticlassCasterUiAccessRetry
                  transition.profileClassId assignedMask then
              none
            else
              some (.armed assignedMask transition.tickMs.toNat)
  | .casterUiTriggered trigger =>
      some
        (.triggered trigger.tickMs.toNat (pointerOk trigger.localPlayer)
          trigger.ensured
          (shouldArmDeferredMulticlassCasterUiAccessRetry
            trigger.profileClassId))
  | .shutDown => some .cleared
  | _ => none

/-- What an event is to the retry of the combat abilities. -/
def combatAbilityMessage : Event → Option (Retries.Event UInt32)
  | .statsUpdated update =>
      notifyMessage update.classesBitmask update.resynced
        shouldArmDeferredCombatAbilityResyncRetry update.combatAbilityTickMs
  | .combatAbilityTriggered trigger =>
      some
        (.triggered trigger.tickMs.toNat
          (pointerOk trigger.localPlayer &&
            displayedClassOk trigger.displayedClassId &&
            pointerOk trigger.spellManager)
          trigger.resynced shouldArmDeferredCombatAbilityResyncRetry)
  | .skillVisibilityRemoved => some .cleared
  | _ => none

/-- A message, delivered to a phase. -/
def delivered
    (phase : Phase UInt32)
    (message : Option (Retries.Event UInt32)) :
    Phase UInt32 × List Note :=
  match message with
  | none => (phase, [])
  | some event =>
      (Retries.step retryPolicy phase event,
        Retries.notes retryPolicy phase event)

theorem notifyRetry_eq
    (classesBitmask : SnapshotMask)
    (achieved : Bool)
    (shouldArm : UInt32 → Bool)
    (tickMs : UInt64)
    (cells : RetryCells) :
    Prod.map RetryCells.phase id
        (notifyRetry classesBitmask achieved shouldArm tickMs cells) =
      delivered cells.phase
        (notifyMessage classesBitmask achieved shouldArm tickMs) := by
  cases classesBitmask with
  | none =>
      rfl
  | some assignedMask =>
      simp only [notifyRetry, notifyMessage]
      split
      next =>
        rfl
      next assigned =>
        split
        next =>
          rfl
        next =>
          split
          next =>
            exact congrArg (·, _) (phase_armed assigned tickMs)
          next =>
            rfl

/-- The effects on the caster windows' cells are steps of the retry. -/
theorem casterUiEffect_eq (cells : RetryCells) (event : Event) :
    Prod.map RetryCells.phase id (casterUiEffect cells event) =
      delivered cells.phase (casterUiMessage event) := by
  cases event with
  | statsUpdated update =>
      exact notifyRetry_eq _ _ _ _ cells
  | zoneTransition transition =>
      rw [casterUiEffect, tryRearmMulticlassCasterUiAccessForZoneTransition,
        casterUiMessage]
      split
      next =>
        rfl
      next =>
        cases transition.classesBitmask with
        | none =>
            rfl
        | some assignedMask =>
            dsimp only
            split
            next =>
              rfl
            next shouldArm =>
              exact congrArg (·, _)
                (phase_armed (not_or.mp shouldArm).1 transition.tickMs)
  | casterUiTriggered trigger =>
      exact retryPending_eq _ _ _ _ cells
  | combatAbilityTriggered trigger =>
      rfl
  | skillVisibilityRemoved =>
      rfl
  | shutDown =>
      rfl

/-- The effects on the combat abilities' cells are steps of the retry. -/
theorem combatAbilityEffect_eq (cells : RetryCells) (event : Event) :
    Prod.map RetryCells.phase id (combatAbilityEffect cells event) =
      delivered cells.phase (combatAbilityMessage event) := by
  cases event with
  | statsUpdated update =>
      exact notifyRetry_eq _ _ _ _ cells
  | combatAbilityTriggered trigger =>
      exact retryPending_eq _ _ _ _ cells
  | zoneTransition transition =>
      rfl
  | casterUiTriggered trigger =>
      rfl
  | skillVisibilityRemoved =>
      rfl
  | shutDown =>
      rfl

/-! ## Every order of events -/

section Runs

variable (effect : RetryCells → Event → RetryCells × List Note)

/-- The cells after some events. -/
def cellsAfter (events : List Event) : RetryCells :=
  run (fun cells event => (effect cells event).1) .cleared events

/-- What is to be seen of a retry while some events happen. -/
def seenFrom (cells : RetryCells) (events : List Event) : List Note :=
  emitted (fun cells event => (effect cells event).1)
    (fun cells event => (effect cells event).2) cells events

/-- What holds of a retry in every order of events. -/
structure Bounded : Prop where
  /-- Without another arming there are at most thirty attempts. -/
  attempts :
    ∀ earlier between,
      (∀ note ∈ seenFrom effect (cellsAfter effect earlier) between,
        note.isArming = false) →
      ((seenFrom effect (cellsAfter effect earlier) between).filter
          Note.isAttempt).length ≤
        kMulticlassCasterUiAccessRetryMaxAttempts.toNat
  /-- Behind an attempt that succeeded, found the mask ineligible or was the
  last one, and before another arming, there is no attempt. -/
  ended :
    ∀ earlier event between time outcome,
      .attempted time outcome ∈
          (effect (cellsAfter effect earlier) event).2 →
        outcome ≠ .rescheduled →
          (∀ note ∈
              seenFrom effect (cellsAfter effect (earlier ++ [event]))
                between,
            note.isArming = false) →
          ∀ note ∈
              seenFrom effect (cellsAfter effect (earlier ++ [event]))
                between,
            note.isAttempt = false
  /-- A postponement changes nothing but the tick of the next attempt. -/
  postponed :
    ∀ earlier event time,
      .postponed time ∈ (effect (cellsAfter effect earlier) event).2 →
        (cellsAfter effect (earlier ++ [event])).pending = true ∧
          (cellsAfter effect (earlier ++ [event])).mask =
            (cellsAfter effect earlier).mask ∧
          (cellsAfter effect (earlier ++ [event])).attemptCount =
            (cellsAfter effect earlier).attemptCount ∧
          (cellsAfter effect (earlier ++ [event])).nextTickMs =
            UInt64.ofNat time + kMulticlassCasterUiAccessRetryCooldownMs

variable
  {effect}
  {message : Event → Option (Retries.Event UInt32)}

/-- What is seen of the cells is what is seen of the retry. -/
theorem seenFrom_eq
    (effectIs :
      ∀ cells event,
        Prod.map RetryCells.phase id (effect cells event) =
          delivered cells.phase (message event))
    (cells : RetryCells)
    (events : List Event) :
    seenFrom effect cells events =
      emitted (Retries.step retryPolicy) (Retries.notes retryPolicy)
        cells.phase (events.filterMap message) := by
  refine emitted_filterMap RetryCells.phase (fun cells event => ?_)
    (fun cells event => ?_) cells events
  · rw [show (effect cells event).1.phase =
        (delivered cells.phase (message event)).1 from
      congrArg Prod.fst (effectIs cells event)]
    cases message event <;> rfl
  · rw [show (effect cells event).2 =
        (delivered cells.phase (message event)).2 from
      congrArg Prod.snd (effectIs cells event)]
    cases message event <;> rfl

theorem cellsAfter_append
    (effect : RetryCells → Event → RetryCells × List Note)
    (earlier : List Event)
    (event : Event) :
    cellsAfter effect (earlier ++ [event]) =
      (effect (cellsAfter effect earlier) event).1 :=
  run_append _ _ _ _

/-- The cells of a retry are bounded, if a postponement only moves a tick. -/
theorem bounded_of
    (effectIs :
      ∀ cells event,
        Prod.map RetryCells.phase id (effect cells event) =
          delivered cells.phase (message event))
    (postpones :
      ∀ cells event time,
        .postponed time ∈ (effect cells event).2 →
          (effect cells event).1 =
            ⟨true, cells.mask, cells.attemptCount,
              UInt64.ofNat time +
                kMulticlassCasterUiAccessRetryCooldownMs⟩) :
    Bounded effect where
  attempts earlier between armsNothing := by
    rw [seenFrom_eq effectIs] at armsNothing ⊢
    exact Nat.le_trans (attempts_le_remaining _ armsNothing)
      (remaining_le retryPolicy _)
  ended earlier event between time outcome attempted isEnded armsNothing := by
    have idleAfter :
        (cellsAfter effect (earlier ++ [event])).phase = .idle := by
      have deliveredIs := effectIs (cellsAfter effect earlier) event
      have notesAre :
          (effect (cellsAfter effect earlier) event).2 =
            (delivered (cellsAfter effect earlier).phase
              (message event)).2 :=
        congrArg Prod.snd deliveredIs
      rw [notesAre] at attempted
      rw [cellsAfter_append]
      refine (congrArg Prod.fst deliveredIs).trans ?_
      cases isMessage : message event with
      | none =>
          rw [isMessage] at attempted
          cases attempted
      | some content =>
          rw [isMessage] at attempted
          exact idle_of_ended attempted isEnded
    rw [seenFrom_eq effectIs, idleAfter] at armsNothing ⊢
    have none := attempts_le_remaining _ armsNothing
    have noAttempts :=
      List.eq_nil_of_length_eq_zero (Nat.le_zero.mp none)
    intro note member
    exact Bool.not_eq_true _ ▸
      List.filter_eq_nil_iff.mp noAttempts note member
  postponed earlier event time isPostponed := by
    rw [cellsAfter_append,
      postpones (cellsAfter effect earlier) event time isPostponed]
    exact ⟨rfl, rfl, rfl, rfl⟩

end Runs

/-- All that is seen of an attempt is the attempt. -/
theorem note_of_makeAttempt
    {currentTickMs : UInt64}
    {success : Bool}
    {eligible : UInt32 → Bool}
    {cells : RetryCells}
    {note : Note}
    (seen :
      note ∈ (makeAttempt currentTickMs success eligible cells).2) :
    note.isAttempt = true := by
  rw [makeAttempt] at seen
  split at seen
  next =>
    rw [List.mem_singleton.mp seen]
    rfl
  next =>
    split at seen
    next =>
      rw [List.mem_singleton.mp seen]
      rfl
    next =>
      split at seen
      next =>
        rw [List.mem_singleton.mp seen]
        rfl
      next =>
        rw [List.mem_singleton.mp seen]
        rfl

/-- A postponement by the shared body only moves a tick. -/
theorem retryPending_postponed
    {currentTickMs : UInt64}
    {prerequisitesOk success : Bool}
    {eligible : UInt32 → Bool}
    {cells : RetryCells}
    {time : Nat}
    (postponed :
      .postponed time ∈
        (retryPending currentTickMs prerequisitesOk success eligible
          cells).2) :
    (retryPending currentTickMs prerequisitesOk success eligible cells).1 =
      ⟨true, cells.mask, cells.attemptCount,
        UInt64.ofNat time + kMulticlassCasterUiAccessRetryCooldownMs⟩ := by
  rw [retryPending] at postponed ⊢
  split at postponed
  next =>
    cases postponed
  next isPending =>
    split at postponed
    next =>
      cases postponed
    next assigned =>
      split at postponed
      next =>
        cases postponed
      next isDue =>
        split at postponed
        next =>
          cases postponed
        next notSpent =>
          split at postponed
          next missing =>
            obtain rfl := Note.postponed.inj (List.mem_singleton.mp postponed)
            rw [if_neg isPending, if_neg assigned, if_neg isDue,
              if_neg notSpent, if_pos missing, UInt64.ofNat_toNat]
            simpa using isPending
          next =>
            cases note_of_makeAttempt postponed

/-- Notifications postpone nothing. -/
theorem notifyRetry_postponed
    {classesBitmask : SnapshotMask}
    {achieved : Bool}
    {shouldArm : UInt32 → Bool}
    {tickMs : UInt64}
    {cells : RetryCells}
    {time : Nat} :
    .postponed time ∉
      (notifyRetry classesBitmask achieved shouldArm tickMs cells).2 := by
  intro postponed
  cases classesBitmask with
  | none =>
      cases postponed
  | some assignedMask =>
      rw [notifyRetry] at postponed
      split at postponed
      next =>
        cases postponed
      next =>
        split at postponed
        next =>
          cases postponed
        next =>
          split at postponed
          next =>
            cases List.mem_singleton.mp postponed
          next =>
            cases postponed

/-- Zone transitions postpone nothing. -/
theorem rearm_postponed
    {transition : ZoneTransition}
    {cells : RetryCells}
    {time : Nat} :
    .postponed time ∉
      (tryRearmMulticlassCasterUiAccessForZoneTransition transition
        cells).2 := by
  intro postponed
  rw [tryRearmMulticlassCasterUiAccessForZoneTransition] at postponed
  split at postponed
  next =>
    cases postponed
  next =>
    split at postponed
    next =>
      cases postponed
    next =>
      split at postponed
      next =>
        cases postponed
      next =>
        cases List.mem_singleton.mp postponed

theorem bounded_casterUi : Bounded casterUiEffect := by
  refine bounded_of casterUiEffect_eq fun cells event time postponed => ?_
  cases event with
  | casterUiTriggered trigger =>
      exact retryPending_postponed postponed
  | statsUpdated update =>
      exact (notifyRetry_postponed postponed).elim
  | zoneTransition transition =>
      exact (rearm_postponed postponed).elim
  | combatAbilityTriggered trigger =>
      cases postponed
  | skillVisibilityRemoved =>
      cases postponed
  | shutDown =>
      cases postponed

theorem bounded_combatAbility : Bounded combatAbilityEffect := by
  refine bounded_of combatAbilityEffect_eq fun cells event time postponed => ?_
  cases event with
  | combatAbilityTriggered trigger =>
      exact retryPending_postponed postponed
  | statsUpdated update =>
      exact (notifyRetry_postponed postponed).elim
  | zoneTransition transition =>
      cases postponed
  | casterUiTriggered trigger =>
      cases postponed
  | skillVisibilityRemoved =>
      cases postponed
  | shutDown =>
      cases postponed

/-! ## The clock -/

/-- The time of a notification is its tick. -/
theorem time_notifyMessage
    {classesBitmask : SnapshotMask}
    {achieved : Bool}
    {shouldArm : UInt32 → Bool}
    {tickMs : UInt64}
    {time : Nat}
    (isTime :
      (notifyMessage classesBitmask achieved shouldArm tickMs).bind
        Retries.Event.time? = some time) :
    time = tickMs.toNat := by
  cases classesBitmask with
  | none =>
      cases isTime
  | some assignedMask =>
      rw [notifyMessage] at isTime
      split at isTime
      next =>
        cases isTime
      next =>
        split at isTime
        next =>
          cases isTime
        next =>
          split at isTime
          next =>
            exact (Option.some.inj isTime).symm
          next =>
            cases isTime

/-- The time of a message is one of the ticks of its event. -/
def TakesTick (message : Event → Option (Retries.Event UInt32)) : Prop :=
  ∀ event,
    ((message event).bind Retries.Event.time?).toList.Sublist
      (event.ticks.map UInt64.toNat)

theorem singleton_sublist_of_time
    {found : Option Nat}
    {ticks : List UInt64}
    (isTick : ∀ time, found = some time → time ∈ ticks.map UInt64.toNat) :
    found.toList.Sublist (ticks.map UInt64.toNat) := by
  cases found with
  | none =>
      exact List.nil_sublist _
  | some time =>
      exact List.singleton_sublist.mpr (isTick time rfl)

theorem takesTick_casterUi : TakesTick casterUiMessage := by
  intro event
  refine singleton_sublist_of_time fun time isTime => ?_
  cases event with
  | statsUpdated update =>
      rw [time_notifyMessage isTime]
      exact List.mem_cons_of_mem _ List.mem_cons_self
  | zoneTransition transition =>
      rw [casterUiMessage] at isTime
      split at isTime
      next =>
        cases isTime
      next =>
        split at isTime
        next =>
          cases isTime
        next =>
          split at isTime
          next =>
            cases isTime
          next =>
            rw [← Option.some.inj isTime]
            exact List.mem_cons_self
  | casterUiTriggered trigger =>
      rw [← Option.some.inj isTime]
      exact List.mem_cons_self
  | combatAbilityTriggered trigger =>
      cases isTime
  | skillVisibilityRemoved =>
      cases isTime
  | shutDown =>
      cases isTime

theorem takesTick_combatAbility : TakesTick combatAbilityMessage := by
  intro event
  refine singleton_sublist_of_time fun time isTime => ?_
  cases event with
  | statsUpdated update =>
      rw [time_notifyMessage isTime]
      exact List.mem_cons_self
  | combatAbilityTriggered trigger =>
      rw [← Option.some.inj isTime]
      exact List.mem_cons_self
  | zoneTransition transition =>
      cases isTime
  | casterUiTriggered trigger =>
      cases isTime
  | skillVisibilityRemoved =>
      cases isTime
  | shutDown =>
      cases isTime

/-- The times of the messages are among the ticks, in order. -/
theorem times_sublist
    {message : Event → Option (Retries.Event UInt32)}
    (takesTick : TakesTick message)
    (events : List Event) :
    ((events.filterMap message).filterMap Retries.Event.time?).Sublist
      ((events.flatMap Event.ticks).map UInt64.toNat) := by
  induction events with
  | nil =>
      exact List.Sublist.refl []
  | cons event later inductionHypothesis =>
      have oneMore :
          ((event :: later).filterMap message).filterMap
              Retries.Event.time? =
            ((message event).bind Retries.Event.time?).toList ++
              (later.filterMap message).filterMap Retries.Event.time? := by
        cases isMessage : message event with
        | none =>
            rw [List.filterMap_cons_none isMessage]
            rfl
        | some content =>
            rw [List.filterMap_cons_some isMessage, List.filterMap_cons]
            cases isTime : content.time? with
            | none =>
                simp [isTime]
            | some time =>
                simp [isTime]
      rw [oneMore, List.flatMap_cons, List.map_append]
      exact (takesTick event).append inductionHypothesis

/-- A clock that does not run backwards, and that leaves room for a cooldown
behind its last reading. -/
structure Clocked (events : List Event) : Prop where
  forwards : (events.flatMap Event.ticks).Pairwise (· ≤ ·)
  room :
    ∀ tickMs ∈ events.flatMap Event.ticks,
      tickMs.toNat + kMulticlassCasterUiAccessRetryCooldownMs.toNat < 2 ^ 64

/-- On such a clock, every attempt is a cooldown behind every arming, attempt
and postponement before it. -/
theorem spaced_of
    {effect : RetryCells → Event → RetryCells × List Note}
    {message : Event → Option (Retries.Event UInt32)}
    (effectIs :
      ∀ cells event,
        Prod.map RetryCells.phase id (effect cells event) =
          delivered cells.phase (message event))
    (takesTick : TakesTick message)
    {events : List Event}
    (clocked : Clocked events) :
    (seenFrom effect .cleared events).Pairwise
      (Spaced kMulticlassCasterUiAccessRetryCooldownMs.toNat) := by
  have among := times_sublist takesTick events
  have forwards :
      ((events.flatMap Event.ticks).map UInt64.toNat).Pairwise (· ≤ ·) :=
    List.pairwise_map.mpr
      (clocked.forwards.imp fun before => UInt64.le_iff_toNat_le.mp before)
  rw [seenFrom_eq effectIs]
  refine attempts_spaced _ (forwards.sublist among) fun time member => ?_
  obtain ⟨tickMs, isTick, rfl⟩ := List.mem_map.mp (among.subset member)
  have noWrap :
      retryPolicy.due tickMs.toNat =
        tickMs.toNat + kMulticlassCasterUiAccessRetryCooldownMs.toNat :=
    Nat.mod_eq_of_lt (clocked.room tickMs isTick)
  exact Nat.le_of_eq noWrap.symm

/-- In every order of events both retries are bounded; and on a clock that does
not run backwards and leaves room for a cooldown, every attempt is a cooldown
behind the arming, the attempts and the postponements before it. -/
theorem deferredRetries_bounded_and_spaced :
    Bounded casterUiEffect ∧
      Bounded combatAbilityEffect ∧
      ∀ events,
        Clocked events →
          (seenFrom casterUiEffect .cleared events).Pairwise
              (Spaced kMulticlassCasterUiAccessRetryCooldownMs.toNat) ∧
            (seenFrom combatAbilityEffect .cleared events).Pairwise
              (Spaced kMulticlassCasterUiAccessRetryCooldownMs.toNat) :=
  ⟨bounded_casterUi, bounded_combatAbility, fun _ clocked =>
    ⟨spaced_of casterUiEffect_eq takesTick_casterUi clocked,
      spaced_of combatAbilityEffect_eq takesTick_combatAbility clocked⟩⟩

/-- A trigger that fails to ensure the caster windows, and that leaves a warrior
with the cleric's class eligible. -/
def failingTrigger (tickMs : UInt64) : Event :=
  .casterUiTriggered
    { tickMs := tickMs
      localPlayer := some 0x1000
      ensured := false
      profileClassId := some 1 }

/-- An arming that is due at the last tick of the clock, and two triggers
there. -/
def lastTicks : List Event :=
  [.zoneTransition
      { opcode := kNewZoneOpcode
        classesBitmask := some 3
        profileClassId := some 1
        tickMs := 0xffffffffffffffff - 1000 },
    failingTrigger 0xffffffffffffffff,
    failingTrigger 0xffffffffffffffff]

/-- Where no cooldown fits behind the clock's readings, two attempts follow
each other at once. -/
theorem attempts_at_lastTick :
    (lastTicks.flatMap Event.ticks).Pairwise (· ≤ ·) ∧
      ¬ (seenFrom casterUiEffect .cleared lastTicks).Pairwise
        (Spaced kMulticlassCasterUiAccessRetryCooldownMs.toNat) := by
  decide

end MonomythClient.DeferredRetries
