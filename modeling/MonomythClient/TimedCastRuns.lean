import MonomythClient.Histories
import MonomythClient.PacketObserver

namespace MonomythClient.PacketObserver

open Histories PayloadReader

/-!
# Which casts the tracker reports

What one event does to the tracker depends on its kind: a cast-spell send arms
the window, a begin-cast packet uses it up or clears the cast, an interrupt or
enter-world packet clears the cast, and nothing else starts one.  Over runs, a
reported cast goes back to a begin-cast packet matched to a pending own send.
-/

/-! ## Kinds of events -/

/-- The clock reading of a successful cast-spell send. -/
def castSpellSent : Event → Option UInt64
  | .sent packet =>
      if packet.succeededWith kCastSpellOpcode then
        some packet.nowMs
      else
        none
  | _ => none

/-- A begin-cast packet with the clock readings made for it. -/
structure BeginCast where
  spellId : UInt32
  castTime : UInt32
  windowMs : UInt64
  startMs : UInt64
  deriving Repr, DecidableEq

/-- The begin-cast packet an event delivers, if it can be read. -/
def beginCast : Event → Option BeginCast
  | .received packet =>
      (readBeginCast packet.opcode packet.payload).map fun read =>
        { spellId := read.1
          castTime := read.2
          windowMs := packet.windowMs
          startMs := packet.startMs }
  | _ => none

/-- The begin-cast packet an event delivers, if it has a cast time. -/
def startsCast (event : Event) : Option BeginCast :=
  (beginCast event).filter fun cast => cast.castTime ≠ 0

/-- The packets that end a cast whatever they carry. -/
def EndsCast : Event → Prop
  | .received packet =>
      packet.opcode = kInterruptCastOpcode ∨
        packet.opcode = kEnterWorldOpcode
  | _ => False

/-- The events after which an earlier cast is no longer the reported one. -/
def ClearsCast (event : Event) : Prop :=
  EndsCast event ∨ beginCast event ≠ none

/-! ## One event -/

/-- What an event does to the tracker. -/
def castStep (tracker : TimedCast) : Event → TimedCast
  | .received packet =>
      observeTimedCastPacket packet.opcode packet.payload packet.windowMs
        packet.startMs
        (if packet.opcode = kEnterWorldOpcode then
          clearTimedCastState tracker
        else
          tracker)
  | .sent packet =>
      if packet.succeededWith kCastSpellOpcode then
        armLocalBeginCastWindow packet.nowMs tracker
      else
        tracker
  | .timedCastQueried nowMs => (isTimedCastActive nowMs tracker).1
  | .timedCastSpellQueried nowMs => (getTimedCastSpellId nowMs tracker).1
  | _ => tracker

/-- The tracker steps on its own. -/
theorem timedCast_step
    {state : ObserverState}
    (initialized : state.lifecycle = .initialized)
    (event : Event) :
    (step state event).timedCast = castStep state.timedCast event := by
  cases event with
  | received packet =>
      exact (observeReceiveMetadata_spec packet initialized).2.2
  | sent packet =>
      exact (observeSendMetadata_spec packet state).2.2 initialized
  | activatedSkillArmed skillId callerReturnAddress callerRva =>
      exact
        (armActivatedSkillSendCorrelation_spec skillId callerReturnAddress
          callerRva state).2.2
  | _ =>
      rfl

/-- So it runs on its own. -/
theorem timedCast_observe
    {start : ObserverState}
    (initialized : start.lifecycle = .initialized)
    (events : List Event) :
    (observe start events).timedCast =
      Runs.run castStep start.timedCast events :=
  Runs.project ObserverState.timedCast
    (fun state event stillInitialized =>
      (lifecycle_step state event).trans stillInitialized)
    (fun _ event stillInitialized => timedCast_step stillInitialized event)
    initialized events

/-- A successful cast-spell send arms the window and does nothing else. -/
theorem castStep_sent
    {event : Event}
    {sentMs : UInt64}
    (sent : castSpellSent event = some sentMs)
    (tracker : TimedCast) :
    castStep tracker event = armLocalBeginCastWindow sentMs tracker ∧
      beginCast event = none := by
  cases event with
  | sent packet =>
      by_cases succeeded : packet.succeededWith kCastSpellOpcode = true
      · simp only [castSpellSent, if_pos succeeded,
          Option.some.injEq] at sent
        exact ⟨by simp [castStep, succeeded, sent], rfl⟩
      · simp [castSpellSent, succeeded] at sent
  | _ =>
      simp [castSpellSent] at sent

/-- An interrupt or enter-world packet clears the cast and nothing else. -/
theorem castStep_ended
    {event : Event}
    (ends : EndsCast event)
    (tracker : TimedCast) :
    castStep tracker event = clearTimedCastState tracker ∧
      castSpellSent event = none ∧ beginCast event = none := by
  cases event with
  | received packet =>
      have notBegin : packet.opcode ≠ kBeginCastOpcode := by
        rcases ends with interrupt | enterWorld
        · rw [interrupt]
          decide
        · rw [enterWorld]
          decide
      have unread : readBeginCast packet.opcode packet.payload = none :=
        if_pos (.inl notBegin)
      refine ⟨?_, rfl, by simp [beginCast, unread]⟩
      rcases ends with interrupt | enterWorld
      · have stays : packet.opcode ≠ kEnterWorldOpcode := by
          rw [interrupt]
          decide
        simp only [castStep, observeTimedCastPacket, if_neg stays,
          if_pos interrupt]
      · have noInterrupt : packet.opcode ≠ kInterruptCastOpcode := by
          rw [enterWorld]
          decide
        simp only [castStep, observeTimedCastPacket, if_pos enterWorld,
          if_neg noInterrupt, unread]
  | _ =>
      exact ends.elim

/-- What a begin-cast packet does. -/
theorem castStep_beginCast
    {event : Event}
    {cast : BeginCast}
    (begins : beginCast event = some cast)
    (tracker : TimedCast) :
    castSpellSent event = none ∧ ¬ EndsCast event ∧
      castStep tracker event =
        if cast.castTime = 0 then
          clearTimedCastState tracker
        else if (consumeLocalBeginCastWindow cast.windowMs tracker).2 then
          { activeUntilMs :=
              cast.startMs + cast.castTime.toUInt64 + kTimedCastGraceMs
            spellId := cast.spellId
            localCastBeginPendingUntilMs := 0 }
        else
          .initial := by
  cases event with
  | received packet =>
      obtain ⟨⟨spellId, castTime⟩, read, rfl⟩ :=
        Option.map_eq_some_iff.mp begins
      have isBegin : packet.opcode = kBeginCastOpcode := by
        by_contra other
        rw [readBeginCast, if_pos (.inl other)] at read
        contradiction
      have noInterrupt : packet.opcode ≠ kInterruptCastOpcode := by
        rw [isBegin]
        decide
      have stays : packet.opcode ≠ kEnterWorldOpcode := by
        rw [isBegin]
        decide
      have window :=
        (consumeLocalBeginCastWindow_spec packet.windowMs tracker).1
      refine ⟨rfl, not_or.mpr ⟨noInterrupt, stays⟩, ?_⟩
      simp only [castStep, observeTimedCastPacket, if_neg stays,
        if_neg noInterrupt, read]
      by_cases instant : castTime = 0
      · simp only [if_pos instant]
      · simp only [if_neg instant, window]
        split
        · rfl
        · rfl
  | _ =>
      simp [beginCast] at begins

/-- A packet that neither ends nor begins a cast leaves the tracker alone. -/
theorem castStep_unread
    {packet : ReceivedPacket}
    (notEnded : ¬ EndsCast (.received packet))
    (unread : readBeginCast packet.opcode packet.payload = none)
    (tracker : TimedCast) :
    castStep tracker (.received packet) = tracker := by
  obtain ⟨noInterrupt, stays⟩ := not_or.mp notEnded
  simp only [castStep, observeTimedCastPacket, if_neg stays,
    if_neg noInterrupt, unread]

/-- Any other event leaves the tracker or finds the cast over. -/
theorem castStep_other
    {event : Event}
    (notSent : castSpellSent event = none)
    (notBegun : beginCast event = none)
    (notEnded : ¬ EndsCast event)
    (tracker : TimedCast) :
    castStep tracker event = tracker ∨
      castStep tracker event = clearTimedCastState tracker := by
  cases event with
  | received packet =>
      have unread : readBeginCast packet.opcode packet.payload = none := by
        simpa [beginCast] using notBegun
      exact .inl (castStep_unread notEnded unread tracker)
  | sent packet =>
      have failed : ¬ packet.succeededWith kCastSpellOpcode = true := by
        intro succeeded
        simp [castSpellSent, succeeded] at notSent
      exact .inl (if_neg failed)
  | timedCastQueried nowMs =>
      exact isTimedCastActive_cases nowMs tracker
  | timedCastSpellQueried nowMs =>
      rw [castStep, getTimedCastSpellId_fst]
      exact isTimedCastActive_cases nowMs tracker
  | _ =>
      exact .inl rfl

/-! ## Pending sends and casts in progress -/

/-- The last successful cast-spell send, if no cast was begun since. -/
def PendingSend (history : List Event) (sentMs : UInt64) : Prop :=
  Since
    (fun event => castSpellSent event = none ∧ startsCast event = none)
    (fun _ event => castSpellSent event = some sentMs)
    history

/--
A cast begun for a pending own send, at most two seconds after it, and not
cleared since.
-/
def CastInProgress (history : List Event) (cast : BeginCast) : Prop :=
  Since
    (fun event => ¬ ClearsCast event)
    (fun past event =>
      startsCast event = some cast ∧
        ∃ sentMs,
          PendingSend past sentMs ∧
            cast.windowMs.toNat ≤ sentMs.toNat + 2000)
    history

/-- The tracker's fields stand for a pending send and a cast in progress. -/
structure Tracks (history : List Event) (tracker : TimedCast) : Prop where
  pending :
    tracker.localCastBeginPendingUntilMs ≠ 0 →
      ∃ sentMs,
        PendingSend history sentMs ∧
          tracker.localCastBeginPendingUntilMs =
            sentMs + kTimedCastBeginWindowMs
  active :
    tracker.activeUntilMs ≠ 0 →
      ∃ cast,
        CastInProgress history cast ∧
          tracker.spellId = cast.spellId ∧
          tracker.activeUntilMs =
            cast.startMs + cast.castTime.toUInt64 + kTimedCastGraceMs

/-- A begin-cast packet is one with or without a cast time. -/
theorem startsCast_eq_some_iff
    {event : Event}
    {cast : BeginCast} :
    startsCast event = some cast ↔
      beginCast event = some cast ∧ cast.castTime ≠ 0 := by
  simp [startsCast, Option.filter_eq_some_iff]

/-- Without a begin-cast packet no cast starts. -/
theorem startsCast_of_not_begun
    {event : Event}
    (notBegun : beginCast event = none) :
    startsCast event = none := by
  rw [startsCast, notBegun]
  rfl

/-- A pending send stays pending over events of no concern to it. -/
theorem Tracks.pending_quietly
    {history : List Event}
    {tracker : TimedCast}
    (tracks : Tracks history tracker)
    {event : Event}
    (notSent : castSpellSent event = none)
    (notStarted : startsCast event = none)
    (open_ : tracker.localCastBeginPendingUntilMs ≠ 0) :
    ∃ sentMs,
      PendingSend (history ++ [event]) sentMs ∧
        tracker.localCastBeginPendingUntilMs =
          sentMs + kTimedCastBeginWindowMs := by
  obtain ⟨sentMs, pending, deadline⟩ := tracks.pending open_
  exact ⟨sentMs, pending.quietly ⟨notSent, notStarted⟩, deadline⟩

/-- A cast stays in progress over events that do not clear it. -/
theorem Tracks.active_quietly
    {history : List Event}
    {tracker : TimedCast}
    (tracks : Tracks history tracker)
    {event : Event}
    (keeps : ¬ ClearsCast event)
    (active : tracker.activeUntilMs ≠ 0) :
    ∃ cast,
      CastInProgress (history ++ [event]) cast ∧
        tracker.spellId = cast.spellId ∧
        tracker.activeUntilMs =
          cast.startMs + cast.castTime.toUInt64 + kTimedCastGraceMs := by
  obtain ⟨cast, inProgress, spell, deadline⟩ := tracks.active active
  exact ⟨cast, inProgress.quietly keeps, spell, deadline⟩

/-- The window's deadline is at most two seconds after the send. -/
theorem window_le (sentMs : UInt64) :
    (sentMs + kTimedCastBeginWindowMs).toNat ≤ sentMs.toNat + 2000 := by
  have budget : kTimedCastBeginWindowMs.toNat = 2000 := by decide
  have sum := UInt64.toNat_add sentMs kTimedCastBeginWindowMs
  rw [budget] at sum
  exact Nat.le_trans (Nat.le_of_eq sum) (Nat.mod_le _ _)

/-- A cleared cast needs no account, whatever the window. -/
theorem Tracks.cleared
    {history : List Event}
    {tracker : TimedCast}
    (pendingKept :
      tracker.localCastBeginPendingUntilMs ≠ 0 →
        ∃ sentMs,
          PendingSend history sentMs ∧
            tracker.localCastBeginPendingUntilMs =
              sentMs + kTimedCastBeginWindowMs) :
    Tracks history (clearTimedCastState tracker) :=
  ⟨pendingKept, fun active => (active rfl).elim⟩

/-- At the start there is nothing to account for. -/
theorem tracks_initial (history : List Event) : Tracks history .initial :=
  ⟨fun pending => (pending rfl).elim, fun active => (active rfl).elim⟩

/-- A send is pending, and the cast is the one it was. -/
theorem Tracks.step_sent
    {history : List Event}
    {tracker : TimedCast}
    (tracks : Tracks history tracker)
    {event : Event}
    {sentMs : UInt64}
    (sent : castSpellSent event = some sentMs) :
    Tracks (history ++ [event]) (castStep tracker event) := by
  obtain ⟨armed, notBegun⟩ := castStep_sent sent tracker
  have keeps : ¬ ClearsCast event := by
    rintro (ends | begins)
    · rw [(castStep_ended ends tracker).2.1] at sent
      contradiction
    · exact begins notBegun
  constructor
  · intro _
    exact ⟨sentMs, .now sent, by simp [armed]⟩
  · rw [armed, activeUntilMs_armLocalBeginCastWindow,
      spellId_armLocalBeginCastWindow]
    exact tracks.active_quietly keeps

/-- A begin-cast packet starts a cast for the pending send, or clears it. -/
theorem Tracks.step_begun
    {history : List Event}
    {tracker : TimedCast}
    (tracks : Tracks history tracker)
    {event : Event}
    {cast : BeginCast}
    (begun : beginCast event = some cast) :
    Tracks (history ++ [event]) (castStep tracker event) := by
  obtain ⟨notSent, _, stepped⟩ := castStep_beginCast begun tracker
  rw [stepped]
  by_cases instant : cast.castTime = 0
  · rw [if_pos instant]
    have notStarted : startsCast event = none := by
      simp [startsCast, begun, instant, Option.filter]
    exact .cleared (tracks.pending_quietly notSent notStarted)
  · rw [if_neg instant]
    split
    · rename_i matched
      obtain ⟨open_, inTime⟩ :=
        (consumeLocalBeginCastWindow_spec cast.windowMs tracker).2.mp
          matched
      obtain ⟨sentMs, pending, deadline⟩ := tracks.pending open_
      refine
        ⟨fun open_ => (open_ rfl).elim,
          fun _ => ⟨cast, .now ⟨?_, sentMs, pending, ?_⟩, rfl, rfl⟩⟩
      · exact startsCast_eq_some_iff.mpr ⟨begun, instant⟩
      · rw [deadline] at inTime
        exact Nat.le_trans (UInt64.le_iff_toNat_le.mp inTime)
          (window_le sentMs)
    · exact tracks_initial _

/-- One event keeps the tracker's account of the history. -/
theorem Tracks.step
    {history : List Event}
    {tracker : TimedCast}
    (tracks : Tracks history tracker)
    (event : Event) :
    Tracks (history ++ [event]) (castStep tracker event) := by
  cases sent : castSpellSent event with
  | some sentMs =>
      exact tracks.step_sent sent
  | none =>
    cases begun : beginCast event with
    | some cast =>
        exact tracks.step_begun begun
    | none =>
        have pendingKept :=
          tracks.pending_quietly sent (startsCast_of_not_begun begun)
        by_cases ends : EndsCast event
        · rw [(castStep_ended ends tracker).1]
          exact .cleared pendingKept
        · have keeps : ¬ ClearsCast event :=
            not_or.mpr ⟨ends, not_not.mpr begun⟩
          rcases castStep_other sent begun ends tracker with same | cleared
          · rw [same]
            exact ⟨pendingKept, tracks.active_quietly keeps⟩
          · rw [cleared]
            exact .cleared pendingKept

/-- Over every run the tracker accounts for the history. -/
theorem tracks_run (events : List Event) :
    Tracks events (Runs.run castStep .initial events) := by
  induction events using List.reverseRecOn with
  | nil =>
      exact tracks_initial []
  | append_singleton earlier event inductionHypothesis =>
      rw [Runs.run_append]
      exact inductionHypothesis.step event

/-! ## Reported casts -/

/-- The clock readings made for an event. -/
def Event.readings : Event → List UInt64
  | .received packet => [packet.windowMs, packet.startMs]
  | .sent packet => [packet.nowMs]
  | .timedCastQueried nowMs => [nowMs]
  | .timedCastSpellQueried nowMs => [nowMs]
  | _ => []

/-- No reading of a run, up to a last one, is before an earlier one. -/
def ClockNeverGoesBack (events : List Event) (lastMs : UInt64) : Prop :=
  (events.flatMap Event.readings ++ [lastMs]).Pairwise (· ≤ ·)

/-- A begin-cast packet reads the clock when it starts a cast. -/
theorem startMs_mem_readings
    {event : Event}
    {cast : BeginCast}
    (begins : beginCast event = some cast) :
    cast.startMs ∈ event.readings := by
  cases event with
  | received packet =>
      obtain ⟨_, _, rfl⟩ := Option.map_eq_some_iff.mp begins
      simp [Event.readings]
  | _ =>
      simp [beginCast] at begins

/-- A cast in progress was begun by the time of the last reading. -/
theorem CastInProgress.startMs_le
    {events : List Event}
    {cast : BeginCast}
    (inProgress : CastInProgress events cast)
    {lastMs : UInt64}
    (ordered : ClockNeverGoesBack events lastMs) :
    cast.startMs ≤ lastMs := by
  obtain ⟨past, event, later, rfl, ⟨starts, _⟩, _⟩ := inProgress
  have begins := (startsCast_eq_some_iff.mp starts).1
  refine (List.pairwise_append.mp ordered).2.2 _ ?_ _ (by simp)
  exact List.mem_flatMap.mpr
    ⟨event, by simp, startMs_mem_readings begins⟩

/-- The deadline is at most the cast time and the grace after the start. -/
theorem deadline_le (cast : BeginCast) :
    (cast.startMs + cast.castTime.toUInt64 + kTimedCastGraceMs).toNat ≤
      cast.startMs.toNat + cast.castTime.toNat + 250 := by
  have grace : kTimedCastGraceMs.toNat = 250 := by decide
  rw [UInt64.toNat_add, UInt64.toNat_add, UInt32.toNat_toUInt64, grace]
  exact Nat.le_trans (Nat.mod_le _ _)
    (Nat.add_le_add_right (Nat.mod_le _ _) _)

/-- A run's tracker accounts for its events. -/
theorem tracks_observe
    {start : ObserverState}
    (initialized : start.lifecycle = .initialized)
    (idle : start.timedCast = .initial)
    (events : List Event) :
    Tracks events (observe start events).timedCast := by
  rw [timedCast_observe initialized, idle]
  exact tracks_run events

/-- Whether a cast is reported at a clock reading after a run. -/
def ReportedAt
    (start : ObserverState)
    (events : List Event)
    (nowMs : UInt64) : Prop :=
  (isTimedCastActive nowMs (observe start events).timedCast).2 = true

/-- A cast is reported when the deadline of one in progress is to come. -/
theorem castInProgress_of_reported
    {start : ObserverState}
    (initialized : start.lifecycle = .initialized)
    (idle : start.timedCast = .initial)
    {events : List Event}
    {nowMs : UInt64}
    (reported : ReportedAt start events nowMs) :
    ∃ cast,
      CastInProgress events cast ∧
        nowMs ≤ cast.startMs + cast.castTime.toUInt64 + kTimedCastGraceMs := by
  obtain ⟨active, inTime⟩ := (isTimedCastActive_iff _ _).mp reported
  obtain ⟨cast, inProgress, _, deadline⟩ :=
    (tracks_observe initialized idle events).active active
  exact ⟨cast, inProgress, deadline ▸ inTime⟩

/-- A begin-cast packet that leaves a cast reported matched a pending send. -/
theorem pendingSend_of_reported
    {start : ObserverState}
    (initialized : start.lifecycle = .initialized)
    (idle : start.timedCast = .initial)
    {events : List Event}
    {event : Event}
    (begins : beginCast event ≠ none)
    {nowMs : UInt64}
    (reported : ReportedAt start (events ++ [event]) nowMs) :
    ∃ sentMs, PendingSend events sentMs := by
  obtain ⟨cast, inProgress, _⟩ :=
    castInProgress_of_reported initialized idle reported
  rcases since_append_singleton.mp inProgress with
    ⟨_, sentMs, pending, _⟩ | ⟨keeps, _⟩
  · exact ⟨sentMs, pending⟩
  · exact (keeps (.inr begins)).elim

/--
Over every run: a reported cast was begun by a packet matched to a pending own
send, is within its cast time and the grace, and has not been cleared since.  A
begin-cast packet without a pending own send leaves no cast reported, and two
of them never use the same send.
-/
theorem reported_casts_are_own
    {start : ObserverState}
    (initialized : start.lifecycle = .initialized)
    (idle : start.timedCast = .initial)
    (events : List Event) :
    (∀ nowMs,
        ClockNeverGoesBack events nowMs →
        ReportedAt start events nowMs →
        ∃ cast,
          CastInProgress events cast ∧ cast.startMs ≤ nowMs ∧
            nowMs.toNat ≤
              cast.startMs.toNat + cast.castTime.toNat + 250) ∧
      (∀ event nowMs,
        beginCast event ≠ none →
        (∀ sentMs, ¬ PendingSend events sentMs) →
        ¬ ReportedAt start (events ++ [event]) nowMs) ∧
      (∀ first between second nowMs,
        startsCast first ≠ none →
        beginCast second ≠ none →
        ReportedAt start ((events ++ first :: between) ++ [second]) nowMs →
        ∃ send ∈ between, castSpellSent send ≠ none) := by
  refine ⟨?_, ?_, ?_⟩
  · intro nowMs ordered reported
    obtain ⟨cast, inProgress, inTime⟩ :=
      castInProgress_of_reported initialized idle reported
    exact
      ⟨cast, inProgress, inProgress.startMs_le ordered,
        Nat.le_trans (UInt64.le_iff_toNat_le.mp inTime) (deadline_le cast)⟩
  · intro event nowMs begins unsent reported
    obtain ⟨sentMs, pending⟩ :=
      pendingSend_of_reported initialized idle begins reported
    exact unsent sentMs pending
  · intro first between second nowMs starts begins reported
    obtain ⟨sentMs, pending⟩ :=
      pendingSend_of_reported initialized idle begins reported
    obtain ⟨firstCast, started⟩ := Option.ne_none_iff_exists'.mp starts
    have firstBegins := (startsCast_eq_some_iff.mp started).1
    have firstUnsent := (castStep_beginCast firstBegins .initial).1
    obtain ⟨send, member, _, sent⟩ :=
      pending.after
        (fun quiet => starts quiet.2)
        (by rw [firstUnsent]; exact nofun)
    exact ⟨send, member, by rw [sent]; exact nofun⟩

/-! ## A cast of one's own -/

/-- A successful cast-spell send at one second. -/
def exampleSend : Event :=
  .sent
    { opcodeDecoded := true
      opcode := kCastSpellOpcode
      originalResult := true
      originalResultAvailable := true
      nowMs := 1000 }

/-- A begin-cast packet for spell 77 with three seconds of cast time. -/
def exampleBeginCast (arrivedMs : UInt64) : Event :=
  .received
    { opcode := kBeginCastOpcode
      payload :=
        .ofBytes [77, 0, 0, 0, 0, 0, 184, 11, 0, 0] (by decide)
      serverName := none
      windowMs := arrivedMs
      startMs := arrivedMs }

/-- It is reported up to its last millisecond. -/
theorem reported_casts_are_own_witness :
    ∃ cast,
      CastInProgress [exampleSend, exampleBeginCast 3000] cast ∧
        cast.startMs ≤ 6250 ∧
        (6250 : UInt64).toNat ≤
          cast.startMs.toNat + cast.castTime.toNat + 250 :=
  (reported_casts_are_own (by decide : freshObserver.lifecycle = _)
    (by decide) [exampleSend, exampleBeginCast 3000]).1 6250
    (by unfold ClockNeverGoesBack; decide)
    (by unfold ReportedAt; decide +kernel)

end MonomythClient.PacketObserver
