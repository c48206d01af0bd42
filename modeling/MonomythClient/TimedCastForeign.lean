import MonomythClient.TimedCastInterrupts

namespace MonomythClient.PacketObserver

open PayloadReader

/-!
# Begin-cast packets of other casters

All casters' begin-cast packets share an opcode, and one's own is told from the
others by the pending send it matches.  A run is compared with the same run with
unmatched packets put in.  Such a packet clears the tracker, so the two runs
report the same exactly when each inserted packet finds the cast over already.
-/

/-! ## Inserted packets -/

/-- An event of a run, or a packet put into it. -/
inductive Moment where
  | kept (event : Event)
  | inserted (packet : ReceivedPacket)
  deriving DecidableEq

/-- The event at a moment of the run without insertions. -/
def Moment.plain : Moment → Option Event
  | .kept event => some event
  | .inserted _ => none

/-- The event at a moment of the run with insertions. -/
def Moment.crowded : Moment → Event
  | .kept event => event
  | .inserted packet => .received packet

/-- The run without insertions. -/
def plainRun (moments : List Moment) : List Event :=
  moments.filterMap Moment.plain

/-- The run with insertions. -/
def crowdedRun (moments : List Moment) : List Event :=
  moments.map Moment.crowded

/-- The inserted packets are begin-cast packets, and no own send is kept. -/
structure ForeignCasts (moments : List Moment) : Prop where
  beginCasts :
    ∀ packet, .inserted packet ∈ moments →
      packet.opcode = kBeginCastOpcode
  noSend :
    ∀ event, .kept event ∈ moments → castSpellSent event = none

/-- The spell reported at a clock reading after a run. -/
def spellReportedAt
    (start : ObserverState)
    (events : List Event)
    (nowMs : UInt64) :
    UInt32 :=
  (getTimedCastSpellId nowMs (observe start events).timedCast).2

/--
At every moment, with and without the insertions so far, the same cast and the
same spell are reported from then on.
-/
def Undisturbed
    (start : ObserverState)
    (opening : List Event)
    (moments : List Moment) : Prop :=
  ∀ earlier later,
    moments = earlier ++ later →
    ∀ nowMs,
      ClockNeverGoesBack (opening ++ crowdedRun earlier) nowMs →
      (ReportedAt start (opening ++ crowdedRun earlier) nowMs ↔
          ReportedAt start (opening ++ plainRun earlier) nowMs) ∧
        spellReportedAt start (opening ++ crowdedRun earlier) nowMs =
          spellReportedAt start (opening ++ plainRun earlier) nowMs

/-- Every inserted packet that can be read arrives when the cast is over. -/
def ArriveAfterCast
    (start : ObserverState)
    (opening : List Event)
    (moments : List Moment) : Prop :=
  ∀ earlier packet later,
    moments = earlier ++ .inserted packet :: later →
    readBeginCast packet.opcode packet.payload ≠ none →
    CastOver packet.startMs
      (observe start (opening ++ plainRun earlier)).timedCast

/-! ## The closed window -/

/-- Without an own send the window stays closed. -/
theorem windowClosed_castStep
    {tracker : TimedCast}
    (closed : tracker.localCastBeginPendingUntilMs = 0)
    {event : Event}
    (notSent : castSpellSent event = none) :
    (castStep tracker event).localCastBeginPendingUntilMs = 0 := by
  cases begun : beginCast event with
  | some cast =>
      obtain ⟨_, _, stepped⟩ := castStep_beginCast begun tracker
      rw [stepped]
      split
      · exact closed
      · split
        · rfl
        · rfl
  | none =>
      by_cases ends : EndsCast event
      · rw [(castStep_ended ends tracker).1]
        exact closed
      · rcases castStep_other notSent begun ends tracker with same | cleared
        · rw [same]
          exact closed
        · rw [cleared]
          exact closed

/-- Nor does a run without own sends open it. -/
theorem windowClosed_observe
    {start : ObserverState}
    (initialized : start.lifecycle = .initialized)
    (closed : start.timedCast.localCastBeginPendingUntilMs = 0)
    {events : List Event}
    (notSent : ∀ event ∈ events, castSpellSent event = none) :
    (observe start events).timedCast.localCastBeginPendingUntilMs = 0 := by
  induction events using List.reverseRecOn with
  | nil =>
      exact closed
  | append_singleton earlier event inductionHypothesis =>
      have earlierClosed :=
        inductionHypothesis fun next member =>
          notSent next (by simp [member])
      rw [observe_append_singleton,
        timedCast_step (lifecycle_observe initialized earlier)]
      exact windowClosed_castStep earlierClosed (notSent event (by simp))

/-- An own cast uses the window up. -/
theorem windowClosed_own
    {tracker : TimedCast}
    {event : Event}
    (own : BeginsOwnCast tracker event) :
    (castStep tracker event).localCastBeginPendingUntilMs = 0 := by
  obtain ⟨cast, starts, inWindow⟩ := own
  obtain ⟨begun, lasting⟩ := startsCast_eq_some_iff.mp starts
  obtain ⟨_, _, stepped⟩ := castStep_beginCast begun tracker
  have matched :=
    (consumeLocalBeginCastWindow_spec cast.windowMs tracker).2.mpr inWindow
  rw [stepped, if_neg lasting, if_pos matched]

/-- In a closed window nothing is one's own. -/
theorem not_beginsOwnCast
    {tracker : TimedCast}
    (closed : tracker.localCastBeginPendingUntilMs = 0)
    (event : Event) :
    ¬ BeginsOwnCast tracker event := by
  rintro ⟨_, _, isOpen, _⟩
  exact isOpen closed

/-- There a readable begin-cast packet leaves no cast. -/
theorem castOver_foreign
    {tracker : TimedCast}
    (closed : tracker.localCastBeginPendingUntilMs = 0)
    {packet : ReceivedPacket}
    (readable : readBeginCast packet.opcode packet.payload ≠ none)
    (nowMs : UInt64) :
    CastOver nowMs (castStep tracker (.received packet)) := by
  obtain ⟨read, isRead⟩ := Option.ne_none_iff_exists'.mp readable
  have begun :
      beginCast (.received packet) =
        some
          { spellId := read.1
            castTime := read.2
            windowMs := packet.windowMs
            startMs := packet.startMs } := by
    rw [beginCast, isRead, Option.map_some]
  obtain ⟨_, _, stepped⟩ := castStep_beginCast begun tracker
  have missed :
      ¬ (consumeLocalBeginCastWindow packet.windowMs tracker).2 = true := by
    intro matched
    exact
      ((consumeLocalBeginCastWindow_spec packet.windowMs tracker).2.mp
        matched).1 closed
  rw [stepped, if_neg missed]
  split
  · exact castOver_clear nowMs tracker
  · exact .inl rfl

/-! ## Two runs side by side -/

/-- Trackers that report the same from a clock reading on. -/
def Alike (nowMs : UInt64) (left right : TimedCast) : Prop :=
  left = right ∨ (CastOver nowMs left ∧ CastOver nowMs right)

/-- Such trackers report the same cast and spell. -/
theorem Alike.reports
    {nowMs : UInt64}
    {left right : TimedCast}
    (alike : Alike nowMs left right) :
    ((isTimedCastActive nowMs left).2 = true ↔
        (isTimedCastActive nowMs right).2 = true) ∧
      (getTimedCastSpellId nowMs left).2 =
        (getTimedCastSpellId nowMs right).2 := by
  rcases alike with rfl | ⟨leftOver, rightOver⟩
  · exact ⟨Iff.rfl, rfl⟩
  · have leftSilent := (not_isTimedCastActive_iff nowMs left).mpr leftOver
    have rightSilent := (not_isTimedCastActive_iff nowMs right).mpr rightOver
    refine ⟨iff_of_false leftSilent rightSilent, ?_⟩
    simp only [getTimedCastSpellId, if_neg leftSilent, if_neg rightSilent]

/-- An event in a closed window keeps trackers alike. -/
theorem Alike.castStep
    {nowMs : UInt64}
    {left right : TimedCast}
    (alike : Alike nowMs left right)
    (leftClosed : left.localCastBeginPendingUntilMs = 0)
    (rightClosed : right.localCastBeginPendingUntilMs = 0)
    (event : Event) :
    Alike nowMs (PacketObserver.castStep left event)
      (PacketObserver.castStep right event) := by
  rcases alike with rfl | ⟨leftOver, rightOver⟩
  · exact .inl rfl
  · exact .inr
      ⟨leftOver.step (not_beginsOwnCast leftClosed event),
        rightOver.step (not_beginsOwnCast rightClosed event)⟩

section Insertions

variable {start : ObserverState} {opening : List Event}

/-- Before a last moment the clock was no later. -/
theorem ClockNeverGoesBack.dropLast
    {events : List Event}
    {event : Event}
    {lastMs : UInt64}
    (ordered : ClockNeverGoesBack (events ++ [event]) lastMs) :
    ClockNeverGoesBack events lastMs ∧
      ∀ reading ∈ event.readings, reading ≤ lastMs := by
  unfold ClockNeverGoesBack at ordered
  rw [List.flatMap_append, List.append_assoc, List.pairwise_append] at ordered
  obtain ⟨past, last, across⟩ := ordered
  refine ⟨List.pairwise_append.mpr ⟨past, by simp, ?_⟩, ?_⟩
  · intro earlier member lastReading isLast
    exact across earlier member lastReading (by simp at isLast; simp [isLast])
  · intro reading member
    refine (List.pairwise_append.mp last).2.2 reading ?_ lastMs (by simp)
    simpa using member

/-- No moment of either run is an own send. -/
theorem ForeignCasts.notSent
    {moments : List Moment}
    (foreign : ForeignCasts moments) :
    (∀ event ∈ plainRun moments, castSpellSent event = none) ∧
      ∀ event ∈ crowdedRun moments, castSpellSent event = none := by
  constructor
  · intro event member
    obtain ⟨moment, inMoments, isPlain⟩ := List.mem_filterMap.mp member
    cases moment with
    | kept kept =>
        cases isPlain
        exact foreign.noSend event inMoments
    | inserted packet =>
        cases isPlain
  · intro event member
    obtain ⟨moment, inMoments, rfl⟩ := List.mem_map.mp member
    cases moment with
    | kept kept =>
        exact foreign.noSend kept inMoments
    | inserted packet =>
        rfl

/-- A part of such moments is such moments. -/
theorem ForeignCasts.subset
    {part all : List Moment}
    (foreign : ForeignCasts all)
    (within : part ⊆ all) :
    ForeignCasts part where
  beginCasts := fun packet member =>
    foreign.beginCasts packet (within member)
  noSend := fun event member => foreign.noSend event (within member)

/-- In both runs the window stays closed after the opening. -/
theorem windowClosed_runs
    (initialized : start.lifecycle = .initialized)
    (closed :
      (observe start opening).timedCast.localCastBeginPendingUntilMs = 0)
    {moments : List Moment}
    (foreign : ForeignCasts moments) :
    (observe start
        (opening ++
          plainRun moments)).timedCast.localCastBeginPendingUntilMs = 0 ∧
      (observe start
        (opening ++
          crowdedRun moments)).timedCast.localCastBeginPendingUntilMs =
        0 := by
  have still := lifecycle_observe initialized opening
  rw [observe_append, observe_append]
  exact
    ⟨windowClosed_observe still closed foreign.notSent.1,
      windowClosed_observe still closed foreign.notSent.2⟩

/-- The tracker after one more event. -/
theorem timedCast_snoc
    (initialized : start.lifecycle = .initialized)
    (events : List Event)
    (event : Event) :
    (observe start (events ++ [event])).timedCast =
      castStep (observe start events).timedCast event := by
  rw [observe_append_singleton,
    timedCast_step (lifecycle_observe initialized events)]

/-- Insertions after the cast leave the two runs alike. -/
theorem alike_runs
    (initialized : start.lifecycle = .initialized)
    (closed :
      (observe start opening).timedCast.localCastBeginPendingUntilMs = 0)
    {moments : List Moment}
    (foreign : ForeignCasts moments)
    (late : ArriveAfterCast start opening moments)
    {nowMs : UInt64}
    (ordered :
      ClockNeverGoesBack (opening ++ crowdedRun moments) nowMs) :
    Alike nowMs (observe start (opening ++ crowdedRun moments)).timedCast
      (observe start (opening ++ plainRun moments)).timedCast := by
  induction moments using List.reverseRecOn with
  | nil =>
      exact .inl rfl
  | append_singleton earlier moment inductionHypothesis =>
      have foreignEarlier := foreign.subset (List.subset_append_left _ _)
      have lateEarlier : ArriveAfterCast start opening earlier :=
        fun past packet later shape =>
          late past packet (later ++ [moment]) (by simp [shape])
      have crowdedShape :
          opening ++ crowdedRun (earlier ++ [moment]) =
            (opening ++ crowdedRun earlier) ++ [moment.crowded] := by
        simp [crowdedRun]
      rw [crowdedShape] at ordered ⊢
      obtain ⟨orderedEarlier, arrived⟩ := ordered.dropLast
      have alike :=
        inductionHypothesis foreignEarlier lateEarlier orderedEarlier
      obtain ⟨plainClosed, crowdedClosed⟩ :=
        windowClosed_runs initialized closed foreignEarlier
      rw [timedCast_snoc initialized]
      cases moment with
      | kept event =>
          have plainShape :
              opening ++ plainRun (earlier ++ [.kept event]) =
                (opening ++ plainRun earlier) ++ [event] := by
            simp [plainRun, Moment.plain]
          rw [plainShape, timedCast_snoc initialized]
          exact alike.castStep crowdedClosed plainClosed event
      | inserted packet =>
          have plainShape :
              plainRun (earlier ++ [.inserted packet]) =
                plainRun earlier := by
            simp [plainRun, Moment.plain]
          rw [plainShape]
          by_cases readable :
              readBeginCast packet.opcode packet.payload = none
          · have isBegin := foreign.beginCasts packet (by simp)
            have notEnded : ¬ EndsCast (.received packet) := by
              rw [EndsCast, isBegin]
              decide
            have unchanged :=
              castStep_unread notEnded readable
                (observe start (opening ++ crowdedRun earlier)).timedCast
            rw [Moment.crowded, unchanged]
            exact alike
          · have plainOver := late earlier packet [] rfl readable
            have sinceArrival : packet.startMs ≤ nowMs :=
              arrived packet.startMs (by simp [Moment.crowded, Event.readings])
            exact .inr
              ⟨castOver_foreign crowdedClosed readable nowMs,
                plainOver.later sinceArrival⟩

/-- A packet that finds the cast not over makes the two runs differ. -/
theorem castOver_of_undisturbed
    (initialized : start.lifecycle = .initialized)
    (closed :
      (observe start opening).timedCast.localCastBeginPendingUntilMs = 0)
    {earlier later : List Moment}
    {packet : ReceivedPacket}
    (foreign : ForeignCasts (earlier ++ .inserted packet :: later))
    (readable : readBeginCast packet.opcode packet.payload ≠ none)
    (ordered :
      ClockNeverGoesBack
        (opening ++ crowdedRun (earlier ++ [.inserted packet]))
        packet.startMs)
    (undisturbed :
      Undisturbed start opening (earlier ++ .inserted packet :: later)) :
    CastOver packet.startMs
      (observe start (opening ++ plainRun earlier)).timedCast := by
  have foreignEarlier := foreign.subset (List.subset_append_left _ _)
  have crowdedClosed := (windowClosed_runs initialized closed foreignEarlier).2
  have plainShape :
      plainRun (earlier ++ [.inserted packet]) = plainRun earlier := by
    simp [plainRun, Moment.plain]
  have crowdedShape :
      opening ++ crowdedRun (earlier ++ [.inserted packet]) =
        (opening ++ crowdedRun earlier) ++ [.received packet] := by
    simp [crowdedRun, Moment.crowded]
  have same :=
    (undisturbed (earlier ++ [.inserted packet]) later (by simp)
      packet.startMs ordered).1
  rw [plainShape, crowdedShape] at same
  refine (not_isTimedCastActive_iff _ _).mp fun reported => ?_
  have crowdedReports := same.mpr reported
  rw [ReportedAt, timedCast_snoc initialized] at crowdedReports
  exact
    (not_isTimedCastActive_iff _ _).mpr
      (castOver_foreign crowdedClosed readable packet.startMs) crowdedReports

end Insertions

/-- The readings of a run, in order. -/
def ClockInOrder (events : List Event) : Prop :=
  (events.flatMap Event.readings).Pairwise (· ≤ ·)

/-- In order, every received packet arrives no earlier than what it follows. -/
theorem ClockInOrder.arrival
    {past later : List Event}
    {packet : ReceivedPacket}
    (inOrder : ClockInOrder (past ++ .received packet :: later)) :
    ClockNeverGoesBack (past ++ [.received packet]) packet.startMs := by
  unfold ClockInOrder at inOrder
  unfold ClockNeverGoesBack
  have split :
      (past ++ Event.received packet :: later).flatMap Event.readings =
        (past ++ [Event.received packet]).flatMap Event.readings ++
          later.flatMap Event.readings := by
    simp
  rw [split] at inOrder
  have upToArrival := (List.pairwise_append.mp inOrder).1
  refine List.pairwise_append.mpr ⟨upToArrival, by simp, ?_⟩
  intro reading member lastReading isLast
  rw [List.mem_singleton.mp isLast]
  rw [List.flatMap_append, List.pairwise_append] at upToArrival
  obtain ⟨_, arrivals, across⟩ := upToArrival
  simp only [List.flatMap_append, List.mem_append] at member
  rcases member with inPast | isArrival
  · exact across reading inPast packet.startMs (by simp [Event.readings])
  · simp only [Event.readings, List.flatMap_cons, List.flatMap_nil,
      List.append_nil, List.pairwise_cons, List.mem_cons,
      List.not_mem_nil, or_false] at arrivals isArrival
    rcases isArrival with rfl | rfl
    · exact arrivals.1 _ rfl
    · exact UInt64.le_refl _

/--
After an own cast, and up to the next own send, begin-cast packets put into the
run change what is reported from then on exactly when one of them arrives before
the cast is over.
-/
theorem foreign_casts_undisturbed_iff
    {start : ObserverState}
    (initialized : start.lifecycle = .initialized)
    {before : List Event}
    {begins : Event}
    (own : BeginsOwnCast (observe start before).timedCast begins)
    {moments : List Moment}
    (foreign : ForeignCasts moments)
    (inOrder : ClockInOrder (before ++ [begins] ++ crowdedRun moments)) :
    Undisturbed start (before ++ [begins]) moments ↔
      ArriveAfterCast start (before ++ [begins]) moments := by
  have closed :
      (observe start
        (before ++ [begins])).timedCast.localCastBeginPendingUntilMs = 0 := by
    rw [timedCast_snoc initialized]
    exact windowClosed_own own
  constructor
  · intro undisturbed earlier packet later shape readable
    subst shape
    have arrival :
        ClockNeverGoesBack
          (before ++ [begins] ++ crowdedRun (earlier ++ [.inserted packet]))
          packet.startMs := by
      have shape :
          before ++ [begins] ++
              crowdedRun (earlier ++ .inserted packet :: later) =
            (before ++ [begins] ++ crowdedRun earlier) ++
              .received packet :: crowdedRun later := by
        simp [crowdedRun, Moment.crowded]
      rw [shape] at inOrder
      simpa [crowdedRun, Moment.crowded] using inOrder.arrival
    exact castOver_of_undisturbed initialized closed foreign readable arrival
      undisturbed
  · intro late earlier later shape nowMs ordered
    subst shape
    have foreignEarlier := foreign.subset (List.subset_append_left _ _)
    have lateEarlier :
        ArriveAfterCast start (before ++ [begins]) earlier :=
      fun past packet rest shape =>
        late past packet (rest ++ later) (by simp [shape])
    exact
      (alike_runs initialized closed foreignEarlier lateEarlier
        ordered).reports

/-! ## One foreign cast -/

/-- A begin-cast packet for spell 12 with two seconds of cast time. -/
def exampleForeignCast (arrivedMs : UInt64) : ReceivedPacket where
  opcode := kBeginCastOpcode
  payload := .ofBytes [12, 0, 0, 0, 9, 0, 208, 7, 0, 0] (by decide)
  serverName := none
  windowMs := arrivedMs
  startMs := arrivedMs

/-- An own cast begun at one and a half seconds. -/
theorem exampleOwnCast :
    BeginsOwnCast (observe freshObserver [exampleSend]).timedCast
      (exampleBeginCast 1500) :=
  ⟨⟨77, 3000, 1500, 1500⟩, by decide +kernel, by decide +kernel,
    by decide +kernel⟩

/-- One inserted begin-cast packet is a foreign cast. -/
theorem foreignCasts_singleton (arrivedMs : UInt64) :
    ForeignCasts [.inserted (exampleForeignCast arrivedMs)] where
  beginCasts := by
    intro packet member
    cases List.mem_singleton.mp member
    rfl
  noSend := by
    intro event member
    cases List.mem_singleton.mp member

/-- At five seconds the own cast is over, and the packet changes nothing. -/
theorem foreign_cast_after_deadline :
    Undisturbed freshObserver ([exampleSend] ++ [exampleBeginCast 1500])
      [.inserted (exampleForeignCast 5000)] := by
  refine
    (foreign_casts_undisturbed_iff (by decide) exampleOwnCast
      (foreignCasts_singleton 5000)
      (by unfold ClockInOrder; decide +kernel)).mpr ?_
  intro earlier packet later shape _
  cases earlier with
  | nil =>
      cases shape
      unfold CastOver
      decide +kernel
  | cons first rest =>
      simp at shape

/-- At two seconds it makes the own cast disappear. -/
theorem foreign_cast_clears_own :
    BeginsOwnCast (observe freshObserver [exampleSend]).timedCast
        (exampleBeginCast 1500) ∧
      ForeignCasts [.inserted (exampleForeignCast 2000)] ∧
      ClockInOrder
        ([exampleSend] ++ [exampleBeginCast 1500] ++
          crowdedRun [.inserted (exampleForeignCast 2000)]) ∧
      ¬ Undisturbed freshObserver ([exampleSend] ++ [exampleBeginCast 1500])
        [.inserted (exampleForeignCast 2000)] := by
  refine
    ⟨exampleOwnCast, foreignCasts_singleton 2000,
      by unfold ClockInOrder; decide +kernel, ?_⟩
  intro undisturbed
  have same :=
    (undisturbed [.inserted (exampleForeignCast 2000)] [] rfl 2000
      (by unfold ClockNeverGoesBack; decide +kernel)).1
  revert same
  unfold ReportedAt
  decide +kernel

end MonomythClient.PacketObserver
