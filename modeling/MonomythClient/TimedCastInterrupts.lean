import MonomythClient.OpcodeReference
import MonomythClient.TimedCastRuns

namespace MonomythClient.PacketObserver

open OpcodeReference PayloadReader

/-!
# Which packets end a cast

The tracker ends a cast on its own constant for the interrupt packet.  The
opcode table names that opcode `OP_DeleteSpell` and gives `OP_InterruptCast`
another one.  So an interrupt packet passes by unnoticed, and a deletion ends
the cast; both go well exactly when no cast is there to be ended.
-/

/-! ## The two packets -/

/-- A packet with the opcode that the table gives to a name. -/
def ReceivedPacket.IsNamed (packet : ReceivedPacket) (name : String) : Prop :=
  tryLookupRof2OpcodeValue name = some packet.opcode

/-- The table's opcode for an interrupted cast. -/
theorem tryLookup_interruptCast :
    tryLookupRof2OpcodeValue "OP_InterruptCast" = some 0x048C := by
  decide +kernel

/-- The table's name for the opcode that ends a cast. -/
theorem tryLookup_deleteSpell :
    tryLookupRof2OpcodeValue "OP_DeleteSpell" =
      some kInterruptCastOpcode := by
  decide +kernel

/-- An interrupt packet does nothing to the tracker. -/
theorem castStep_interruptCast
    {packet : ReceivedPacket}
    (interrupts : packet.IsNamed "OP_InterruptCast")
    (tracker : TimedCast) :
    castStep tracker (.received packet) = tracker := by
  have opcode : packet.opcode = 0x048C :=
    (Option.some.inj (tryLookup_interruptCast.symm.trans interrupts)).symm
  have unread : readBeginCast packet.opcode packet.payload = none := by
    refine if_pos (.inl ?_)
    rw [opcode]
    decide
  have notEnded : ¬ EndsCast (.received packet) := by
    rw [EndsCast, opcode]
    decide
  exact castStep_unread notEnded unread tracker

/-- A deletion packet ends the cast. -/
theorem castStep_deleteSpell
    {packet : ReceivedPacket}
    (deletes : packet.IsNamed "OP_DeleteSpell")
    (tracker : TimedCast) :
    castStep tracker (.received packet) = clearTimedCastState tracker := by
  have opcode : packet.opcode = kInterruptCastOpcode :=
    (Option.some.inj (tryLookup_deleteSpell.symm.trans deletes)).symm
  have ends : EndsCast (.received packet) := Or.inl opcode
  exact (castStep_ended ends tracker).1

/-! ## Casts that are over -/

/-- No cast is recorded whose deadline is still to come. -/
def CastOver (nowMs : UInt64) (tracker : TimedCast) : Prop :=
  tracker.activeUntilMs = 0 ∨ tracker.activeUntilMs < nowMs

/-- Nothing is recorded at all. -/
def NoCastRecorded (tracker : TimedCast) : Prop :=
  tracker.activeUntilMs = 0 ∧ tracker.spellId = 0

/-- A begin-cast packet with a cast time that arrives in an open window. -/
def BeginsOwnCast (tracker : TimedCast) (event : Event) : Prop :=
  ∃ cast,
    startsCast event = some cast ∧
      tracker.localCastBeginPendingUntilMs ≠ 0 ∧
      cast.windowMs ≤ tracker.localCastBeginPendingUntilMs

/-- No event of a run begins a cast of one's own. -/
def NoOwnCastBegun (start : ObserverState) (events : List Event) : Prop :=
  ∀ past event later,
    events = past ++ event :: later →
    ¬ BeginsOwnCast (observe start past).timedCast event

/-- The query says so. -/
theorem not_isTimedCastActive_iff (nowMs : UInt64) (tracker : TimedCast) :
    ¬ (isTimedCastActive nowMs tracker).2 = true ↔
      CastOver nowMs tracker := by
  rw [isTimedCastActive_iff, not_and_or, not_not, UInt64.not_le]
  rfl

/-- Clearing leaves a tracker alone when nothing is recorded. -/
theorem clearTimedCastState_eq_self_iff (tracker : TimedCast) :
    clearTimedCastState tracker = tracker ↔ NoCastRecorded tracker := by
  constructor
  · intro unchanged
    rw [← unchanged]
    exact ⟨rfl, rfl⟩
  · obtain ⟨activeUntilMs, spellId, pendingUntilMs⟩ := tracker
    rintro ⟨rfl, rfl⟩
    rfl

/-- What is over stays over. -/
theorem CastOver.later
    {arrivedMs nowMs : UInt64}
    {tracker : TimedCast}
    (isOver : CastOver arrivedMs tracker)
    (later : arrivedMs ≤ nowMs) :
    CastOver nowMs tracker :=
  isOver.imp_right fun before => UInt64.lt_of_lt_of_le before later

/-- A cleared tracker has no cast. -/
theorem castOver_clear (nowMs : UInt64) (tracker : TimedCast) :
    CastOver nowMs (clearTimedCastState tracker) :=
  .inl rfl

/-- Only a begin-cast packet of one's own records a cast. -/
theorem CastOver.step
    {nowMs : UInt64}
    {tracker : TimedCast}
    (isOver : CastOver nowMs tracker)
    {event : Event}
    (notOwn : ¬ BeginsOwnCast tracker event) :
    CastOver nowMs (castStep tracker event) := by
  cases sent : castSpellSent event with
  | some sentMs =>
      rw [(castStep_sent sent tracker).1, CastOver,
        activeUntilMs_armLocalBeginCastWindow]
      exact isOver
  | none =>
    cases begun : beginCast event with
    | some cast =>
        obtain ⟨_, _, stepped⟩ := castStep_beginCast begun tracker
        rw [stepped]
        by_cases instant : cast.castTime = 0
        · rw [if_pos instant]
          exact castOver_clear nowMs tracker
        · have missed :
              ¬ (consumeLocalBeginCastWindow cast.windowMs tracker).2 =
                true := by
            intro matched
            exact notOwn
              ⟨cast, startsCast_eq_some_iff.mpr ⟨begun, instant⟩,
                (consumeLocalBeginCastWindow_spec _ tracker).2.mp matched⟩
          rw [if_neg instant, if_neg missed]
          exact .inl rfl
    | none =>
        by_cases ends : EndsCast event
        · rw [(castStep_ended ends tracker).1]
          exact castOver_clear nowMs tracker
        · rcases castStep_other sent begun ends tracker with same | cleared
          · rw [same]
            exact isOver
          · rw [cleared]
            exact castOver_clear nowMs tracker

/-- So a cast that is over stays so until one's own next one. -/
theorem castOver_observe
    {nowMs : UInt64}
    {start : ObserverState}
    (initialized : start.lifecycle = .initialized)
    (isOver : CastOver nowMs start.timedCast)
    (events : List Event)
    (noOwn : NoOwnCastBegun start events) :
    CastOver nowMs (observe start events).timedCast := by
  induction events using List.reverseRecOn with
  | nil =>
      exact isOver
  | append_singleton earlier event inductionHypothesis =>
      have earlierOver :=
        inductionHypothesis fun past next later shape =>
          noOwn past next (later ++ [event]) (by simp [shape])
      rw [observe_append_singleton,
        timedCast_step (lifecycle_observe initialized earlier)]
      exact earlierOver.step (noOwn earlier event [] rfl)

/-! ## Over runs -/

/--
After every interrupt packet of a run, no cast is reported from its arrival on
until a cast of one's own is begun.
-/
def InterruptsEndCasts (start : ObserverState) (events : List Event) : Prop :=
  ∀ before packet quiet later,
    events = before ++ .received packet :: (quiet ++ later) →
    packet.IsNamed "OP_InterruptCast" →
    NoOwnCastBegun (observe start (before ++ [.received packet])) quiet →
    ∀ nowMs,
      packet.startMs ≤ nowMs →
      ¬ ReportedAt start (before ++ .received packet :: quiet) nowMs

/-- No deletion packet of a run changes the tracker. -/
def DeletionsKeepCasts (start : ObserverState) (events : List Event) : Prop :=
  ∀ before packet later,
    events = before ++ .received packet :: later →
    packet.IsNamed "OP_DeleteSpell" →
    (observe start (before ++ [.received packet])).timedCast =
      (observe start before).timedCast

/-- Every interrupt packet of a run arrives when the last cast is over. -/
def InterruptsFindNoCast
    (start : ObserverState)
    (events : List Event) : Prop :=
  ∀ before packet later,
    events = before ++ .received packet :: later →
    packet.IsNamed "OP_InterruptCast" →
    CastOver packet.startMs (observe start before).timedCast

/-- Every deletion packet of a run arrives when no cast is recorded. -/
def DeletionsFindNoCast
    (start : ObserverState)
    (events : List Event) : Prop :=
  ∀ before packet later,
    events = before ++ .received packet :: later →
    packet.IsNamed "OP_DeleteSpell" →
    NoCastRecorded (observe start before).timedCast

/-- The tracker after one more received packet. -/
theorem timedCast_received
    {start : ObserverState}
    (initialized : start.lifecycle = .initialized)
    (before : List Event)
    (packet : ReceivedPacket) :
    (observe start (before ++ [.received packet])).timedCast =
      castStep (observe start before).timedCast (.received packet) := by
  rw [observe_append_singleton,
    timedCast_step (lifecycle_observe initialized before)]

/-- Interrupt packets end casts when there is none to end. -/
theorem interruptsEndCasts_iff
    {start : ObserverState}
    (initialized : start.lifecycle = .initialized)
    (events : List Event) :
    InterruptsEndCasts start events ↔ InterruptsFindNoCast start events := by
  constructor
  · intro ended before packet later shape interrupts
    have unreported :=
      ended before packet [] later shape interrupts
        (by intro past event rest impossible; simp at impossible)
        packet.startMs (UInt64.le_refl _)
    rw [ReportedAt, timedCast_received initialized,
      castStep_interruptCast interrupts] at unreported
    exact (not_isTimedCastActive_iff _ _).mp unreported
  · intro found before packet quiet later shape interrupts noOwn nowMs since
    have isOver :=
      (found before packet (quiet ++ later) shape interrupts).later since
    rw [← castStep_interruptCast interrupts (observe start before).timedCast,
      ← timedCast_received initialized] at isOver
    have stillOver :=
      castOver_observe (lifecycle_observe initialized _) isOver quiet noOwn
    rw [← observe_append, List.append_assoc] at stillOver
    exact (not_isTimedCastActive_iff _ _).mpr stillOver

/-- Deletion packets keep the tracker when there is nothing to keep. -/
theorem deletionsKeepCasts_iff
    {start : ObserverState}
    (initialized : start.lifecycle = .initialized)
    (events : List Event) :
    DeletionsKeepCasts start events ↔ DeletionsFindNoCast start events := by
  constructor
  · intro kept before packet later shape deletes
    have unchanged := kept before packet later shape deletes
    rw [timedCast_received initialized,
      castStep_deleteSpell deletes] at unchanged
    exact (clearTimedCastState_eq_self_iff _).mp unchanged
  · intro found before packet later shape deletes
    rw [timedCast_received initialized, castStep_deleteSpell deletes]
    exact (clearTimedCastState_eq_self_iff _).mpr
      (found before packet later shape deletes)

/--
Over every run, the two packets do what their names say if and only if each
finds no cast that it could end.
-/
theorem interrupts_and_deletions_iff
    {start : ObserverState}
    (initialized : start.lifecycle = .initialized)
    (events : List Event) :
    (InterruptsEndCasts start events ∧ DeletionsKeepCasts start events) ↔
      InterruptsFindNoCast start events ∧
        DeletionsFindNoCast start events :=
  and_congr (interruptsEndCasts_iff initialized events)
    (deletionsKeepCasts_iff initialized events)

/-! ## A cast that is interrupted -/

/-- A packet of two zero words. -/
def exampleZeroWords (opcode : UInt32) (arrivedMs : UInt64) : Event :=
  .received
    { opcode := opcode
      payload := .ofBytes [0, 0, 0, 0, 0, 0, 0, 0] (by decide)
      serverName := none
      windowMs := arrivedMs
      startMs := arrivedMs }

/--
A cast that ends at 4750, an interrupt packet after that, a query that notices
the end, and a deletion.
-/
def finishedCastRun : List Event :=
  [exampleSend, exampleBeginCast 1500, exampleZeroWords 0x048C 5000,
    .timedCastQueried 5100, exampleZeroWords 0x3358 5200]

/-- Three of its events are packets that arrive. -/
theorem finishedCastRun_split
    {before later : List Event}
    {packet : ReceivedPacket}
    (shape : finishedCastRun = before ++ .received packet :: later) :
    (before = [exampleSend] ∧ exampleBeginCast 1500 = .received packet) ∨
      (before = finishedCastRun.take 2 ∧
        exampleZeroWords 0x048C 5000 = .received packet) ∨
      (before = finishedCastRun.take 4 ∧
        exampleZeroWords 0x3358 5200 = .received packet) := by
  rcases before with _ | ⟨first, _ | ⟨second, _ | ⟨third, _ | ⟨fourth, _ |
    ⟨fifth, rest⟩⟩⟩⟩⟩
  all_goals
    simp only [finishedCastRun, List.cons_append, List.nil_append,
      List.cons.injEq] at shape
  · exact absurd shape.1 (by simp [exampleSend])
  · obtain ⟨rfl, second, _⟩ := shape
    exact .inl ⟨rfl, second⟩
  · obtain ⟨rfl, rfl, third, _⟩ := shape
    exact .inr (.inl ⟨rfl, third⟩)
  · exact absurd shape.2.2.2.1 (by simp)
  · obtain ⟨rfl, rfl, rfl, rfl, last, _⟩ := shape
    exact .inr (.inr ⟨rfl, last⟩)
  · exact absurd shape.2.2.2.2.2 (by simp)

/-- Both packets do what they should when the cast has run out before. -/
theorem interrupts_and_deletions_finishedCast :
    InterruptsEndCasts freshObserver finishedCastRun ∧
      DeletionsKeepCasts freshObserver finishedCastRun := by
  refine
    (interrupts_and_deletions_iff
      (by decide : freshObserver.lifecycle = .initialized)
      finishedCastRun).mpr ⟨?_, ?_⟩
  · intro before packet later shape interrupts
    rw [ReceivedPacket.IsNamed, tryLookup_interruptCast] at interrupts
    obtain ⟨_, isBegin⟩ | ⟨rfl, isInterrupt⟩ | ⟨_, isDeletion⟩ :=
      finishedCastRun_split shape
    · cases isBegin
      exact absurd interrupts (by decide)
    · cases isInterrupt
      unfold CastOver
      decide +kernel
    · cases isDeletion
      exact absurd interrupts (by decide)
  · intro before packet later shape deletes
    rw [ReceivedPacket.IsNamed, tryLookup_deleteSpell] at deletes
    obtain ⟨_, isBegin⟩ | ⟨_, isInterrupt⟩ | ⟨rfl, isDeletion⟩ :=
      finishedCastRun_split shape
    · cases isBegin
      exact absurd deletes (by decide)
    · cases isInterrupt
      exact absurd deletes (by decide)
    · cases isDeletion
      unfold NoCastRecorded
      decide +kernel

/--
A cast begun at one and a half seconds is still reported after it is interrupted
at two, and deleting a spell ends it.
-/
theorem interrupted_cast_goes_on :
    ¬ InterruptsEndCasts freshObserver
        [exampleSend, exampleBeginCast 1500, exampleZeroWords 0x048C 2000] ∧
      ¬ DeletionsKeepCasts freshObserver
        [exampleSend, exampleBeginCast 1500, exampleZeroWords 0x3358 2000] := by
  constructor
  · intro ended
    refine
      ended [exampleSend, exampleBeginCast 1500] _ [] [] rfl
        tryLookup_interruptCast ?_ 2000 (UInt64.le_refl _) ?_
    · intro past event later impossible
      simp at impossible
    · unfold ReportedAt
      decide +kernel
  · intro kept
    have unchanged :=
      kept [exampleSend, exampleBeginCast 1500] _ [] rfl
        tryLookup_deleteSpell
    revert unchanged
    decide +kernel

end MonomythClient.PacketObserver
