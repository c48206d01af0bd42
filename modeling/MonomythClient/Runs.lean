import Mathlib.Data.List.Induction

namespace Runs

/-!
# Runs of a step function

A run folds a step function over a list of events.  The rules here carry what
one step does over to whole runs: an invariant, a relation between two runs, a
condition on every event, a part of the state that steps on its own, events
that change nothing, and a part that each event either replaces or leaves
alone.
-/

variable {State Part Event : Type}

/-- The state after some events, in order. -/
def run
    (step : State → Event → State)
    (initial : State)
    (events : List Event) :
    State :=
  events.foldl step initial

@[simp] theorem run_nil
    (step : State → Event → State)
    (initial : State) :
    run step initial [] = initial := rfl

@[simp] theorem run_cons
    (step : State → Event → State)
    (initial : State)
    (event : Event)
    (later : List Event) :
    run step initial (event :: later) =
      run step (step initial event) later := rfl

@[simp] theorem run_append
    (step : State → Event → State)
    (initial : State)
    (earlier later : List Event) :
    run step initial (earlier ++ later) =
      run step (run step initial earlier) later :=
  List.foldl_append

/-- What every step preserves holds after every run. -/
theorem invariant
    {step : State → Event → State}
    {holds : State → Prop}
    (preserved :
      ∀ state event, holds state → holds (step state event))
    {initial : State}
    (initially : holds initial)
    (events : List Event) :
    holds (run step initial events) := by
  induction events generalizing initial with
  | nil =>
      exact initially
  | cons event later inductionHypothesis =>
      exact inductionHypothesis (preserved initial event initially)

/-- A relation that paired steps preserve holds after paired runs. -/
theorem simulation
    {step : State → Event → State}
    {partStep : Part → Event → Part}
    {related : State → Part → Prop}
    (preserved :
      ∀ state part event,
        related state part → related (step state event) (partStep part event))
    {initial : State}
    {initialPart : Part}
    (initially : related initial initialPart)
    (events : List Event) :
    related (run step initial events) (run partStep initialPart events) := by
  induction events generalizing initial initialPart with
  | nil =>
      exact initially
  | cons event later inductionHypothesis =>
      exact inductionHypothesis (preserved initial initialPart event initially)

/-- Every step of a run finds its event allowed in the state before it. -/
def Along
    (step : State → Event → State)
    (allowed : State → Event → Prop) :
    State → List Event → Prop
  | _, [] => True
  | state, event :: later =>
      allowed state event ∧ Along step allowed (step state event) later

instance Along.decidable
    (step : State → Event → State)
    (allowed : State → Event → Prop)
    [∀ state event, Decidable (allowed state event)] :
    (initial : State) → (events : List Event) →
      Decidable (Along step allowed initial events)
  | _, [] => .isTrue trivial
  | state, event :: later =>
      have := Along.decidable step allowed (step state event) later
      inferInstanceAs (Decidable (_ ∧ _))

/-- A longer run is allowed when both its parts are. -/
theorem along_append
    {step : State → Event → State}
    {allowed : State → Event → Prop}
    {initial : State}
    {earlier later : List Event} :
    Along step allowed initial (earlier ++ later) ↔
      Along step allowed initial earlier ∧
        Along step allowed (run step initial earlier) later := by
  induction earlier generalizing initial with
  | nil =>
      simp [Along]
  | cons event rest inductionHypothesis =>
      rw [List.cons_append, Along, Along, inductionHypothesis, and_assoc]
      rfl

/-- A run is allowed when each event is, behind the ones before it. -/
theorem along_iff
    {step : State → Event → State}
    {allowed : State → Event → Prop}
    {initial : State}
    {events : List Event} :
    Along step allowed initial events ↔
      ∀ earlier event later,
        events = earlier ++ event :: later →
          allowed (run step initial earlier) event := by
  constructor
  · rintro along earlier event later rfl
    exact (along_append.mp along).2.1
  · intro each
    induction events generalizing initial with
    | nil =>
        trivial
    | cons event later inductionHypothesis =>
        refine ⟨each [] event later rfl, inductionHypothesis ?_⟩
        rintro earlier next rest rfl
        exact each (event :: earlier) next rest rfl

/-- If a good state stays good by allowed events and by no others, then a run
is allowed exactly when every state on its way is good. -/
theorem along_iff_throughout
    {step : State → Event → State}
    {allowed : State → Event → Prop}
    {good : State → Prop}
    (exactly :
      ∀ state event, good state →
        (good (step state event) ↔ allowed state event))
    {initial : State}
    (initially : good initial)
    {events : List Event} :
    Along step allowed initial events ↔
      ∀ earlier later,
        events = earlier ++ later → good (run step initial earlier) := by
  induction events generalizing initial with
  | nil =>
      refine ⟨fun _ earlier later empty => ?_, fun _ => trivial⟩
      obtain ⟨rfl, _⟩ := List.append_eq_nil_iff.mp empty.symm
      exact initially
  | cons event rest inductionHypothesis =>
      constructor
      · rintro ⟨allowedNow, allowedLater⟩ earlier later split
        cases earlier with
        | nil =>
            exact initially
        | cons first others =>
            obtain ⟨rfl, restSplit⟩ := List.cons.inj split
            have stillGood := (exactly initial event initially).mpr allowedNow
            exact
              (inductionHypothesis stillGood).mp allowedLater others later
                restSplit
      · intro goodThroughout
        have stillGood : good (step initial event) :=
          goodThroughout [event] rest rfl
        refine
          ⟨(exactly initial event initially).mp stillGood,
            (inductionHypothesis stillGood).mpr ?_⟩
        rintro earlier later rfl
        exact goodThroughout (event :: earlier) later rfl

/-- A part that steps on its own, while an invariant holds, runs on its own. -/
theorem project
    {step : State → Event → State}
    {partStep : Part → Event → Part}
    {holds : State → Prop}
    (part : State → Part)
    (preserved :
      ∀ state event, holds state → holds (step state event))
    (commutes :
      ∀ state event, holds state →
        part (step state event) = partStep (part state) event)
    {initial : State}
    (initially : holds initial)
    (events : List Event) :
    part (run step initial events) =
      run partStep (part initial) events := by
  induction events generalizing initial with
  | nil =>
      rfl
  | cons event later inductionHypothesis =>
      rw [run_cons, run_cons, ← commutes initial event initially]
      exact inductionHypothesis (preserved initial event initially)

/-- Events that carry no message for a step function can be left out. -/
theorem run_filterMap
    {Message : Type}
    {step : State → Event → State}
    {messageStep : State → Message → State}
    {message : Event → Option Message}
    (delivers :
      ∀ state event,
        step state event =
          ((message event).map (messageStep state)).getD state)
    (initial : State)
    (events : List Event) :
    run step initial events =
      run messageStep initial (events.filterMap message) := by
  induction events generalizing initial with
  | nil =>
      rfl
  | cons event later inductionHypothesis =>
      rw [run_cons, inductionHypothesis, delivers]
      cases delivered : message event with
      | none =>
          rw [List.filterMap_cons_none delivered]
          rfl
      | some content =>
          rw [List.filterMap_cons_some delivered]
          rfl

/-- A part that events replace, or leave alone, is the last replacement. -/
theorem run_replacements
    {step : State → Event → State}
    (part : State → Part)
    (replacement : Event → Option Part)
    (replaces :
      ∀ state event,
        part (step state event) =
          (replacement event).getD (part state))
    (initial : State)
    (events : List Event) :
    part (run step initial events) =
      (events.filterMap replacement).getLast?.getD (part initial) := by
  induction events using List.reverseRecOn with
  | nil =>
      rfl
  | append_singleton earlier event inductionHypothesis =>
      rw [run_append, run_cons, run_nil, replaces, inductionHypothesis,
        List.filterMap_append]
      cases replaced : replacement event with
      | none =>
          simp [replaced]
      | some newPart =>
          simp [replaced]

/-! ## Runs whose events are allowed -/

/-- A run whose events are allowed twice. -/
theorem along_and
    {step : State → Event → State}
    {allowed alsoAllowed : State → Event → Prop}
    {initial : State}
    {events : List Event}
    (along : Along step allowed initial events)
    (also : Along step alsoAllowed initial events) :
    Along step
      (fun state event => allowed state event ∧ alsoAllowed state event)
      initial events := by
  induction events generalizing initial with
  | nil =>
      trivial
  | cons event later inductionHypothesis =>
      exact ⟨⟨along.1, also.1⟩, inductionHypothesis along.2 also.2⟩

/-- What allowed steps preserve holds after a run of allowed events. -/
theorem invariant_along
    {step : State → Event → State}
    {allowed : State → Event → Prop}
    {holds : State → Prop}
    (preserved :
      ∀ state event, holds state → allowed state event →
        holds (step state event))
    {initial : State}
    (initially : holds initial)
    {events : List Event}
    (along : Along step allowed initial events) :
    holds (run step initial events) := by
  induction events generalizing initial with
  | nil =>
      exact initially
  | cons event later inductionHypothesis =>
      exact inductionHypothesis (preserved initial event initially along.1)
        along.2

/-- What the events of a run bring about, each in the state it finds. -/
def emitted
    (step : State → Event → State)
    (emits : State → Event → List Part) :
    State → List Event → List Part
  | _, [] => []
  | state, event :: later =>
      emits state event ++ emitted step emits (step state event) later

/-- A part that runs on the messages in the events brings about what the events
do, if each event brings about what its message does. -/
theorem emitted_filterMap
    {Message Output : Type}
    {step : State → Event → State}
    {emits : State → Event → List Output}
    {messageStep : Part → Message → Part}
    {messageEmits : Part → Message → List Output}
    {message : Event → Option Message}
    (part : State → Part)
    (steps :
      ∀ state event,
        part (step state event) =
          ((message event).map (messageStep (part state))).getD (part state))
    (sameOutput :
      ∀ state event,
        emits state event =
          ((message event).map (messageEmits (part state))).getD [])
    (initial : State)
    (events : List Event) :
    emitted step emits initial events =
      emitted messageStep messageEmits (part initial)
        (events.filterMap message) := by
  induction events generalizing initial with
  | nil =>
      rfl
  | cons event later inductionHypothesis =>
      rw [emitted, inductionHypothesis, steps, sameOutput]
      cases delivered : message event with
      | none =>
          rw [List.filterMap_cons_none delivered]
          rfl
      | some content =>
          rw [List.filterMap_cons_some delivered]
          rfl

/-- What allowed events bring about is good, if an invariant makes it so. -/
theorem emitted_along
    {step : State → Event → State}
    {allowed : State → Event → Prop}
    {holds : State → Prop}
    {emits : State → Event → List Part}
    {good : Part → Prop}
    (preserved :
      ∀ state event, holds state → allowed state event →
        holds (step state event))
    (emitsGood :
      ∀ state event, holds state → allowed state event →
        ∀ part ∈ emits state event, good part)
    {initial : State}
    (initially : holds initial)
    {events : List Event}
    (along : Along step allowed initial events) :
    ∀ part ∈ emitted step emits initial events, good part := by
  induction events generalizing initial with
  | nil =>
      intro part member
      cases member
  | cons event later inductionHypothesis =>
      intro part member
      rcases List.mem_append.mp member with now | afterwards
      · exact emitsGood initial event initially along.1 part now
      · exact inductionHypothesis
          (preserved initial event initially along.1) along.2 part afterwards

/-- A part that only the first of some events sets is what that one sets. -/
theorem latched
    {step : State → Event → State}
    {holds : State → Prop}
    {part : State → Option Part}
    {chosen : Event → Option Part}
    (preserved :
      ∀ state event, holds state → holds (step state event))
    (latches :
      ∀ state event, holds state →
        part (step state event) = (part state).or (chosen event))
    {initial : State}
    (initially : holds initial)
    (events : List Event) :
    part (run step initial events) =
      (part initial).or (events.findSome? chosen) := by
  induction events generalizing initial with
  | nil =>
      exact Option.or_none.symm
  | cons event later inductionHypothesis =>
      rw [run_cons,
        inductionHypothesis (preserved initial event initially),
        latches initial event initially, Option.or_assoc,
        List.findSome?_cons]
      cases chosen event with
      | none =>
          rfl
      | some newPart =>
          rfl

end Runs
