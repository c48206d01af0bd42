import MonomythClient.PacketObserver
import MonomythClient.SharedBudgets

namespace MonomythClient.CorrelationWindows

open PacketObserver Runs SharedBudgets WhoAllResponse

/-!
# Correlation windows

Three windows say that what comes next belongs to what was just seen: received
packets to a moved item, sent packets to an activated skill, class labels to a
who-all response.  Each has a counter that is armed with a budget and an
activation number that counts the arms.  The game calls the observer from
several hooks, so arms and consumptions may overlap in any way.

The budgets are handed out as in the observer's sequential model: there is an
order of the calls, each at a moment of its own, in which the sequential
functions give the same counters, and the same calls succeed.  What a call reads
besides the counter it reads afterwards, cell by cell; between these reads the
window may be armed anew, so only the activation number is known to be no older
than the budget.
-/

/-! ## Windows -/

/-- The globals of a window besides its counter. -/
inductive Cell where
  | activation
  | skillId
  | callerReturn
  | callerRva
  | receiveSequence
  | responseIndex
  deriving Repr, DecidableEq

inductive Window where
  | moveItemReceiveFocus
  | activatedSkillSendCorrelation
  | whoAllClassDisplayCorrelation
  deriving Repr, DecidableEq

/-- What arming sets the counter to. -/
def Window.budget : Window → UInt32
  | .moveItemReceiveFocus => kMoveItemReceiveFocusBudget
  | .activatedSkillSendCorrelation => kActivatedSkillSendCorrelationBudget
  | .whoAllClassDisplayCorrelation => kWhoAllClassDisplayCorrelationBudget

/-- What `TryConsume…` loads after its exchange, in order. -/
def Window.reads : Window → List Cell
  | .moveItemReceiveFocus => [.activation]
  | .activatedSkillSendCorrelation =>
      [.activation, .skillId, .callerReturn, .callerRva]
  | .whoAllClassDisplayCorrelation =>
      [.activation, .receiveSequence, .responseIndex]

/-- `fetch_add(1)` on the activation number, which has 64 bits. -/
def addActivation : Access Cell Nat :=
  .modify .activation fun activation => (activation + 1) % 2 ^ 64

def store (cell : Cell) (value : Nat) : Access Cell Nat :=
  .modify cell fun _ => value

/-- The calls that arm a window; a skill id is stored as its bits. -/
inductive Window.Arms : Window → List (Access Cell Nat) → Prop where
  /-- A move-item send that the game accepted, in `ObserveSendMetadata`. -/
  | moveItemSent :
      Window.Arms .moveItemReceiveFocus
        [addActivation,
          .set kMoveItemReceiveFocusBudget.toNat]
  /-- `ArmActivatedSkillSendCorrelation` -/
  | armActivatedSkillSendCorrelation
      (skillId : Int32)
      (callerReturnAddress callerRva : UInt32) :
      Window.Arms .activatedSkillSendCorrelation
        [addActivation,
          store .skillId skillId.toUInt32.toNat,
          store .callerReturn callerReturnAddress.toNat,
          store .callerRva callerRva.toNat,
          .set kActivatedSkillSendCorrelationBudget.toNat]
  /-- `ArmWhoAllClassDisplayCorrelation` -/
  | armWhoAllClassDisplayCorrelation
      (receiveSequence responseIndex : UInt64) :
      Window.Arms .whoAllClassDisplayCorrelation
        [addActivation,
          store .receiveSequence receiveSequence.toNat,
          store .responseIndex responseIndex.toNat,
          .set kWhoAllClassDisplayCorrelationBudget.toNat]

/-- What `Initialize` writes; it leaves the activated-skill window alone. -/
inductive Window.Resets : Window → List (Access Cell Nat) → Prop where
  | moveItemReceiveFocus :
      Window.Resets .moveItemReceiveFocus [.set 0, store .activation 0]
  | whoAllClassDisplayCorrelation :
      Window.Resets .whoAllClassDisplayCorrelation
        [.set 0, store .activation 0, store .receiveSequence 0,
          store .responseIndex 0]

/-- The calls that write to a window. -/
inductive Window.Writes
    (window : Window)
    (program : List (Access Cell Nat)) : Prop where
  | arm (arms : window.Arms program)
  | reset (resets : window.Resets program)
  /-- `Shutdown`, which leaves the activated-skill window alone, too. -/
  | shutdown
      (isCleared : window ≠ .activatedSkillSendCorrelation)
      (clears : program = [.set 0])

/-! ## The sequential model -/

/-- The counter that the sequential `TryConsume…` leaves. -/
def Window.consumed (window : Window) (remaining : UInt32) : UInt32 :=
  match window with
  | .moveItemReceiveFocus =>
      (tryConsumeMoveItemReceiveFocus ⟨remaining, 0⟩).remaining
  | .activatedSkillSendCorrelation =>
      (tryConsumeActivatedSkillSendCorrelation
        ⟨remaining, 0, 0, 0, 0⟩).remaining
  | .whoAllClassDisplayCorrelation =>
      (tryConsumeWhoAllClassDisplayCorrelation
        { WhoAllResponse.State.initial with
          correlationRemaining := remaining }).1.correlationRemaining

/-- A call's effect on the counter in the sequential model. -/
def Window.replay
    {Thread : Type}
    (window : Window)
    (remaining : UInt32)
    (event : Event Thread Cell Nat) :
    UInt32 :=
  match event.act with
  | .set budget => UInt32.ofNat budget
  | .taken _ => window.consumed remaining
  | .refused => window.consumed remaining

/-- The counter after these calls, one after the other. -/
def Window.replayed
    {Thread : Type}
    (window : Window)
    (history : List (Event Thread Cell Nat)) :
    UInt32 :=
  history.foldl window.replay 0

theorem Window.consumed_eq (window : Window) (remaining : UInt32) :
    window.consumed remaining =
      if remaining = 0 then remaining else remaining - 1 := by
  by_cases empty : remaining = 0
  · cases window with
    | moveItemReceiveFocus =>
        simp [Window.consumed, tryConsumeMoveItemReceiveFocus, empty]
    | activatedSkillSendCorrelation =>
        simp [Window.consumed, tryConsumeActivatedSkillSendCorrelation,
          empty]
    | whoAllClassDisplayCorrelation =>
        simp [Window.consumed, tryConsumeWhoAllClassDisplayCorrelation,
          empty]
  · cases window with
    | moveItemReceiveFocus =>
        simp [Window.consumed, tryConsumeMoveItemReceiveFocus, empty]
    | activatedSkillSendCorrelation =>
        simp [Window.consumed, tryConsumeActivatedSkillSendCorrelation,
          empty]
    | whoAllClassDisplayCorrelation =>
        simp [Window.consumed, tryConsumeWhoAllClassDisplayCorrelation,
          empty]

/-! ## Any order of the calls' steps -/

/-- What the calls of a window may write, step by step. -/
def Window.Allowed
    (window : Window)
    (access : Access Cell Nat) : Prop :=
  ∃ program, window.Writes program ∧ access ∈ program

/-- A set is an arm or clears the window. -/
theorem Window.Allowed.set
    {window : Window}
    {budget : Nat}
    (allowed : window.Allowed (.set budget)) :
    budget = window.budget.toNat ∨ budget = 0 := by
  obtain ⟨program, writes, member⟩ := allowed
  cases writes with
  | arm arms =>
      cases arms with
      | moveItemSent =>
          simp [addActivation] at member
          exact .inl member
      | armActivatedSkillSendCorrelation skillId callerReturn callerRva =>
          simp [addActivation, store] at member
          exact .inl member
      | armWhoAllClassDisplayCorrelation receiveSequence responseIndex =>
          simp [addActivation, store] at member
          exact .inl member
  | reset resets =>
      cases resets with
      | moveItemReceiveFocus =>
          simp [store] at member
          exact .inr member
      | whoAllClassDisplayCorrelation =>
          simp [store] at member
          exact .inr member
  | shutdown isCleared clears =>
      subst clears
      simp at member
      exact .inr member

/-- What the calls may write without a reset. -/
def Window.AllowedSinceReset
    (window : Window)
    (access : Access Cell Nat) : Prop :=
  ∃ program,
    window.Writes program ∧ ¬ window.Resets program ∧ access ∈ program

/-- Without a reset the activation number is only added to. -/
theorem Window.AllowedSinceReset.activation
    {window : Window}
    {change : Nat → Nat}
    (allowed : window.AllowedSinceReset (.modify .activation change)) :
    change = fun activation => (activation + 1) % 2 ^ 64 := by
  obtain ⟨program, writes, noReset, member⟩ := allowed
  cases writes with
  | arm arms =>
      cases arms <;> simpa [addActivation, store] using member
  | reset resets =>
      exact (noReset resets).elim
  | shutdown isCleared clears =>
      subst clears
      simp at member

/-- The threads after some turns; each begins calls and makes steps as it
likes. -/
def Window.after
    {Thread : Type}
    [DecidableEq Thread]
    (window : Window)
    (cells : Cell → Nat)
    (turns : List (Thread × Action Cell Nat)) :
    SharedBudgets.State Thread Cell Nat :=
  run (step window.reads) (.initial cells) turns

/-- The calls so far are those of the sequential model, in the order in which
they counted. -/
structure Window.Linearized
    {Thread : Type}
    [DecidableEq Thread]
    (window : Window)
    (state : SharedBudgets.State Thread Cell Nat) : Prop where
  /-- The counter is that of the sequential functions. -/
  counter : (window.replayed state.history).toNat = state.remaining
  /-- An arm sets the budget. -/
  arms :
    ∀ event ∈ state.history, ∀ budget,
      event.budget = some budget → budget = window.budget.toNat ∨ budget = 0
  /-- A consumption succeeds with what is left, or fails where nothing is. -/
  consumptions :
    ∀ past event later,
      state.history = past ++ event :: later →
        event.budget = none →
          (event.takenFrom = some (window.replayed past).toNat ∧
              window.replayed past ≠ 0) ∨
            (event.takenFrom = none ∧ window.replayed past = 0)
  /-- Between two arms the budget is handed out from the top, without gap or
  repetition. -/
  once :
    ∀ past arm between later budget,
      state.history = past ++ arm :: (between ++ later) →
        arm.budget = some budget →
          (∀ event ∈ between, event.budget = none) →
            ∃ count ≤ budget,
              between.filterMap Event.takenFrom =
                (List.range count).map (budget - ·)
  /-- Each thread's answers are those of its own calls, in order. -/
  answers :
    ∀ thread, ∃ done pending,
      state.history.filter (Event.isTakeOf thread) = done ++ pending ∧
        pending.length ≤ 1 ∧
        List.Forall₂ (Fits (fun _ => False) window.reads)
          (state.answers thread) done

/-- The activation numbers that go with the budgets. -/
structure Window.KeepsActivations
    {Thread : Type}
    [DecidableEq Thread]
    (window : Window)
    (state : SharedBudgets.State Thread Cell Nat) : Prop where
  /-- A call reads one that is no older than at its exchange. -/
  answers :
    ∀ thread, ∃ done pending,
      state.history.filter (Event.isTakeOf thread) = done ++ pending ∧
        pending.length ≤ 1 ∧
        List.Forall₂ (Fits (· = Cell.activation) window.reads)
          (state.answers thread) done
  /-- Nor is that older than at any call that counted before. -/
  ordered :
    state.history.Pairwise fun earlier later =>
      earlier.seen .activation ≤ later.seen .activation

/-- One call after the other ones. -/
theorem replayed_append
    {Thread : Type}
    (window : Window)
    (earlier : List (Event Thread Cell Nat))
    (event : Event Thread Cell Nat) :
    window.replayed (earlier ++ [event]) =
      window.replay (window.replayed earlier) event := by
  unfold Window.replayed
  rw [List.foldl_append, List.foldl_cons, List.foldl_nil]

/-- Where a consumption counts, the sequential one leaves one less or finds
nothing. -/
theorem replay_of_no_budget
    {Thread : Type}
    (window : Window)
    {event : Event Thread Cell Nat}
    (noSet : event.budget = none)
    (remaining : UInt32) :
    window.replay remaining event =
      if remaining = 0 then remaining else remaining - 1 := by
  obtain ⟨thread, act, seen⟩ := event
  cases act with
  | set budget =>
      cases noSet
  | taken before =>
      exact window.consumed_eq remaining
  | refused =>
      exact window.consumed_eq remaining

theorem replay_of_budget
    {Thread : Type}
    (window : Window)
    {event : Event Thread Cell Nat}
    {budget : Nat}
    (isSet : event.budget = some budget)
    (remaining : UInt32) :
    window.replay remaining event = UInt32.ofNat budget := by
  obtain ⟨thread, act, seen⟩ := event
  cases act with
  | set other =>
      cases isSet
      rfl
  | taken before =>
      cases isSet
  | refused =>
      cases isSet

/-- The sequential functions give the counter, where the sets are right. -/
theorem replayed_eq
    {Thread : Type}
    (window : Window)
    {history : List (Event Thread Cell Nat)}
    (sets :
      ∀ event ∈ history, ∀ budget,
        event.budget = some budget →
          budget = window.budget.toNat ∨ budget = 0)
    {remaining : Nat}
    (possible : counter history = some remaining) :
    (window.replayed history).toNat = remaining := by
  induction history using List.reverseRecOn generalizing remaining with
  | nil =>
      cases possible
      rfl
  | append_singleton earlier event inductionHypothesis =>
      rw [counter_append, Option.bind_eq_some_iff] at possible
      obtain ⟨before, possibleBefore, advanced⟩ := possible
      have same :=
        inductionHypothesis
          (fun other member => sets other (by simp [member])) possibleBefore
      rw [replayed_append]
      rcases event.advance_cases advanced with
        ⟨isSet, _⟩ | ⟨noSet, _, isOne⟩ | ⟨noSet, _, rfl, rfl⟩
      · rw [replay_of_budget window isSet]
        rcases sets event (by simp) remaining isSet with rfl | rfl
        · rw [UInt32.ofNat_toNat]
        · rfl
      · have notEmpty : window.replayed earlier ≠ 0 := by
          intro empty
          rw [empty, UInt32.toNat_zero] at same
          omega
        have isPart : 1 ≤ window.replayed earlier := by
          rw [UInt32.le_iff_toNat_le, same, isOne]
          exact Nat.le_add_left 1 remaining
        rw [replay_of_no_budget window noSet, if_neg notEmpty,
          UInt32.toNat_sub_of_le _ _ isPart, same, isOne]
        rfl
      · have empty : window.replayed earlier = 0 := UInt32.toNat_inj.mp same
        rw [replay_of_no_budget window noSet, if_pos empty]
        exact same

/-- A consumption of a possible history succeeds with what the sequential
functions leave, or fails where they leave nothing. -/
theorem consumption_eq
    {Thread : Type}
    (window : Window)
    {past later : List (Event Thread Cell Nat)}
    {event : Event Thread Cell Nat}
    {remaining : Nat}
    (sets :
      ∀ other ∈ past, ∀ budget,
        other.budget = some budget →
          budget = window.budget.toNat ∨ budget = 0)
    (possible : counter (past ++ event :: later) = some remaining)
    (noSet : event.budget = none) :
    (event.takenFrom = some (window.replayed past).toNat ∧
        window.replayed past ≠ 0) ∨
      (event.takenFrom = none ∧ window.replayed past = 0) := by
  rw [← List.singleton_append, ← List.append_assoc] at possible
  obtain ⟨after, possibleAfter⟩ := counter_of_append possible
  rw [counter_append, Option.bind_eq_some_iff] at possibleAfter
  obtain ⟨before, possibleBefore, advanced⟩ := possibleAfter
  have same := replayed_eq window sets possibleBefore
  rcases event.advance_cases advanced with
    ⟨isSet, _⟩ | ⟨_, isTaken, isOne⟩ | ⟨_, isRefused, rfl, rfl⟩
  · rw [noSet] at isSet
    cases isSet
  · left
    refine ⟨by rw [isTaken, same, isOne], ?_⟩
    intro empty
    rw [empty, UInt32.toNat_zero] at same
    omega
  · exact .inr ⟨isRefused, UInt32.toNat_inj.mp same⟩

/-- The activation number grows with every write to it, while fewer than
`2 ^ 64` begin. -/
theorem Window.grows
    {Thread : Type}
    [DecidableEq Thread]
    (window : Window)
    (cells : Cell → Nat)
    (turns : List (Thread × Action Cell Nat))
    (writes :
      ∀ turn ∈ turns, ∀ program,
        turn.2 = .write program →
          ∀ access ∈ program, window.AllowedSinceReset access)
    (few : cells .activation + begun .activation turns < 2 ^ 64) :
    Along (step window.reads)
      (fun state turn =>
        Grows (· = Cell.activation) state.cells (state.phase turn.1))
      (.initial cells) turns := by
  refine along_iff.mpr ?_
  rintro earlier turn later rfl cell change rest isWriting rfl
  have addsOne : AddsOne Cell.activation window.AllowedSinceReset := by
    intro change allowed value
    rw [allowed.activation]
    exact Nat.mod_le _ _
  have writesBefore := fun other member =>
    writes other (List.mem_append_left (turn :: later) member)
  have linear :
      Linear window.AllowedSinceReset (fun _ => False) window.reads
        (run (step window.reads) (.initial cells) earlier) :=
    run_linear_without_growth cells earlier writesBefore
  have isAdd :=
    (linear.programs turn.1 _ isWriting _ List.mem_cons_self).activation
  have isBelow := lt_of_writes addsOne cells writesBefore isWriting
  have total :
      begun Cell.activation earlier ≤
        begun Cell.activation (earlier ++ turn :: later) := by
    rw [begun_append]
    exact Nat.le_add_right _ _
  have noWrap :
      (run (step window.reads) (.initial cells) earlier).cells .activation + 1 <
        2 ^ 64 := by
    omega
  rw [isAdd]
  dsimp only
  rw [Nat.mod_eq_of_lt noWrap]
  exact Nat.le_succ _

/--
The budgets of the windows are linearizable: however the threads' steps are
ordered, they are set and taken as by the sequential functions, one call after
the other.  Unless the observer is initialized meanwhile or the activation
number wraps, no call reads an older one than was current when its budget was
taken.
-/
theorem correlation_windows_linearize
    {Thread : Type}
    [DecidableEq Thread]
    (window : Window)
    (cells : Cell → Nat)
    (turns : List (Thread × Action Cell Nat))
    (writes :
      ∀ turn ∈ turns, ∀ program,
        turn.2 = .write program → window.Writes program) :
    window.Linearized (window.after cells turns) ∧
      ((∀ turn ∈ turns, ∀ program,
          turn.2 = .write program → ¬ window.Resets program) →
        cells .activation + begun .activation turns < 2 ^ 64 →
          window.KeepsActivations (window.after cells turns)) := by
  have linear :
      Linear window.Allowed (fun _ => False) window.reads
        (window.after cells turns) :=
    run_linear_without_growth cells turns
      fun turn member program isWrite access isAccess =>
        ⟨program, writes turn member program isWrite, isAccess⟩
  have sets : ∀ event ∈ (window.after cells turns).history, ∀ budget,
      event.budget = some budget →
        budget = window.budget.toNat ∨ budget = 0 :=
    fun event member budget isSet =>
      (linear.sets event member budget isSet).set
  constructor
  · refine
      { counter := replayed_eq window sets linear.counts
        arms := sets
        consumptions := ?_
        once := ?_
        answers := ?_ }
    · intro past event later isHistory noSet
      have possible := linear.counts
      rw [isHistory] at possible
      refine consumption_eq window (fun other member => ?_) possible noSet
      exact sets other (by rw [isHistory]; simp [member])
    · intro past arm between later budget isHistory isArm noSet
      have possible := linear.counts
      rw [isHistory, ← List.cons_append, ← List.append_assoc] at possible
      obtain ⟨remaining, possibleThere⟩ := counter_of_append possible
      obtain ⟨_, taken⟩ := takenFrom_since_set isArm possibleThere noSet
      exact ⟨budget - remaining, Nat.sub_le _ _, taken⟩
    · exact fun thread => (linear.calls thread).answered
  · intro noReset few
    have allowed :
        ∀ turn ∈ turns, ∀ program,
          turn.2 = .write program →
            ∀ access ∈ program, window.AllowedSinceReset access :=
      fun turn member program isWrite access isAccess =>
        ⟨program, writes turn member program isWrite,
          noReset turn member program isWrite, isAccess⟩
    have grown :
        Linear window.AllowedSinceReset (· = Cell.activation) window.reads
          (window.after cells turns) :=
      run_linear cells turns (window.grows cells turns allowed few) allowed
    exact
      { answers := fun thread => (grown.calls thread).answered
        ordered := grown.order.imp fun grows => grows _ rfl }

/-- Two threads race for the first packet after a move, and the loser takes the
next. -/
def moveRace : List (Bool × Action Cell Nat) :=
  [(true, .write [addActivation, .set kMoveItemReceiveFocusBudget.toNat]),
    (true, .access), (true, .access), (true, .finish),
    (true, .load), (false, .load),
    (false, .exchange false), (true, .exchange false),
    (true, .exchange false), (true, .read), (true, .finish),
    (false, .read), (false, .finish)]

/-- Each is answered with a packet of its own, and with the move's number. -/
theorem correlation_windows_linearize_race :
    Window.moveItemReceiveFocus.Linearized
        (Window.moveItemReceiveFocus.after (fun _ => 0) moveRace) ∧
      Window.moveItemReceiveFocus.KeepsActivations
        (Window.moveItemReceiveFocus.after (fun _ => 0) moveRace) ∧
      (Window.moveItemReceiveFocus.after (fun _ => 0) moveRace).answers
          false =
        [some (kMoveItemReceiveFocusBudget.toNat, [1])] ∧
      (Window.moveItemReceiveFocus.after (fun _ => 0) moveRace).answers true =
        [some (kMoveItemReceiveFocusBudget.toNat - 1, [1])] := by
  have onlyMove :
      ∀ turn ∈ moveRace, ∀ program,
        turn.2 = .write program →
          program =
            [addActivation, .set kMoveItemReceiveFocusBudget.toNat] := by
    intro turn member program isWrite
    simp only [moveRace, List.mem_cons, List.not_mem_nil, or_false] at member
    rcases member with rfl | rfl | rfl | rfl | rfl | rfl | rfl | rfl | rfl |
      rfl | rfl | rfl | rfl <;> cases isWrite
    rfl
  have linearized :=
    correlation_windows_linearize .moveItemReceiveFocus (fun _ => 0) moveRace
      fun turn member program isWrite => by
        rw [onlyMove turn member program isWrite]
        exact .arm .moveItemSent
  refine ⟨linearized.1, linearized.2 ?_ (by decide), by decide +kernel,
    by decide +kernel⟩
  intro turn member program isWrite resets
  rw [onlyMove turn member program isWrite] at resets
  cases resets

end MonomythClient.CorrelationWindows
