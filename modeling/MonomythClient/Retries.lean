import MonomythClient.Runs

namespace Retries

open Runs

/-!
# Retries that are bounded and spaced

A retry is armed, then triggered any number of times.  A trigger before it is
due does nothing; one that finds something missing postpones it; any other
makes an attempt, which ends the retry or makes it due again later.  Whatever
the order of the calls, one arming pays for a bounded number of attempts, and
every attempt comes late enough after whatever set the time it was due.
-/

/-- How many attempts an arming pays for, and when one is due that is put off
at a given time. -/
structure Policy where
  maxAttempts : Nat
  due : Nat → Nat

variable {Subject : Type}

/-- Nothing to do, or a retry for a subject, with the attempts made and the
time from which the next one may be made. -/
inductive Phase (Subject : Type) where
  | idle
  | waiting (subject : Subject) (made due : Nat)

/-- What is done to a retry. -/
inductive Event (Subject : Type) where
  | armed (subject : Subject) (time : Nat)
  | cleared
  | triggered
      (time : Nat)
      (ready succeeded : Bool)
      (eligible : Subject → Bool)

/-- What an attempt came to. -/
inductive Outcome where
  | succeeded
  | ineligible
  | exhausted
  | rescheduled
  deriving DecidableEq, Repr

/-- What is to be seen of a retry, with the time. -/
inductive Note where
  | armed (time : Nat)
  | attempted (time : Nat) (outcome : Outcome)
  | postponed (time : Nat)
  deriving DecidableEq, Repr

/-- The time of a note. -/
def Note.time : Note → Nat
  | .armed time => time
  | .attempted time _ => time
  | .postponed time => time

/-- The note is of an attempt. -/
def Note.isAttempt : Note → Bool
  | .attempted _ _ => true
  | _ => false

/-- The note is of an arming. -/
def Note.isArming : Note → Bool
  | .armed _ => true
  | _ => false

/-- The time at which an event happens, if it looks at the clock. -/
def Event.time? : Event Subject → Option Nat
  | .armed _ time => some time
  | .cleared => none
  | .triggered time _ _ _ => some time

section Steps

variable (policy : Policy)

/-- What an attempt comes to that is the given one in number. -/
def outcome
    (number : Nat)
    (succeeded eligible : Bool) :
    Outcome :=
  if succeeded then
    .succeeded
  else if !eligible then
    .ineligible
  else if policy.maxAttempts ≤ number then
    .exhausted
  else
    .rescheduled

/-- An attempt: the phase it leaves, and what is to be seen of it. -/
def attempt
    (time : Nat)
    (succeeded eligible : Bool)
    (subject : Subject)
    (number : Nat) :
    Phase Subject × List Note :=
  match outcome policy number succeeded eligible with
  | .rescheduled =>
      (.waiting subject number (policy.due time),
        [.attempted time .rescheduled])
  | ended => (.idle, [.attempted time ended])

/-- A trigger: the phase it leaves, and what is to be seen of it. -/
def trigger
    (time : Nat)
    (ready succeeded : Bool)
    (eligible : Subject → Bool) :
    Phase Subject → Phase Subject × List Note
  | .idle => (.idle, [])
  | .waiting subject made due =>
      if time < due then
        (.waiting subject made due, [])
      else if policy.maxAttempts ≤ made then
        (.idle, [])
      else if !ready then
        (.waiting subject made (policy.due time), [.postponed time])
      else
        attempt policy time succeeded (eligible subject) subject (made + 1)

/-- The phase that an event leaves. -/
def step (phase : Phase Subject) : Event Subject → Phase Subject
  | .armed subject time => .waiting subject 0 (policy.due time)
  | .cleared => .idle
  | .triggered time ready succeeded eligible =>
      (trigger policy time ready succeeded eligible phase).1

/-- What is to be seen of an event. -/
def notes (phase : Phase Subject) : Event Subject → List Note
  | .armed _ time => [.armed time]
  | .cleared => []
  | .triggered time ready succeeded eligible =>
      (trigger policy time ready succeeded eligible phase).2

/-- The attempts that are left. -/
def Phase.remaining : Phase Subject → Nat
  | .idle => 0
  | .waiting _ made _ => policy.maxAttempts - made

variable {policy}

variable (policy) in
/-- What a trigger can do. -/
theorem trigger_cases
    (time : Nat)
    (ready succeeded : Bool)
    (eligible : Subject → Bool)
    (phase : Phase Subject) :
    trigger policy time ready succeeded eligible phase = (phase, []) ∨
      trigger policy time ready succeeded eligible phase = (.idle, []) ∨
      ∃ subject made due,
        phase = .waiting subject made due ∧
          due ≤ time ∧
          made < policy.maxAttempts ∧
          (trigger policy time ready succeeded eligible phase =
              (.waiting subject made (policy.due time),
                [.postponed time]) ∨
            trigger policy time ready succeeded eligible phase =
              (.waiting subject (made + 1) (policy.due time),
                [.attempted time .rescheduled]) ∨
            ∃ ended,
              ended ≠ .rescheduled ∧
                trigger policy time ready succeeded eligible phase =
                  (.idle, [.attempted time ended])) := by
  cases phase with
  | idle =>
      exact .inl rfl
  | waiting subject made due =>
      rw [trigger]
      split
      next =>
        exact .inl rfl
      next notBefore =>
        split
        next =>
          exact .inr (.inl rfl)
        next notSpent =>
          refine .inr (.inr ⟨subject, made, due, rfl, Nat.not_lt.mp notBefore,
            Nat.not_le.mp notSpent, ?_⟩)
          split
          next =>
            exact .inl rfl
          next =>
            rw [attempt]
            split
            next =>
              exact .inr (.inl rfl)
            next ended isEnded =>
              exact .inr (.inr ⟨_, isEnded, rfl⟩)

/-! ## The number of attempts -/

/-- An event that arms nothing pays for its attempt with one that is left. -/
theorem remaining_step
    (phase : Phase Subject)
    {event : Event Subject}
    (armsNothing : ∀ note ∈ notes policy phase event, note.isArming = false) :
    ((notes policy phase event).filter Note.isAttempt).length +
        (step policy phase event).remaining policy ≤
      phase.remaining policy := by
  cases event with
  | armed subject time =>
      cases armsNothing (.armed time) List.mem_cons_self
  | cleared =>
      exact Nat.zero_le _
  | triggered time ready succeeded eligible =>
      rw [notes, step]
      rcases trigger_cases policy time ready succeeded eligible
          phase with
        same | cleared | ⟨subject, made, due, rfl, _, notSpent, acted⟩
      · rw [same]
        exact Nat.le_of_eq (Nat.zero_add _)
      · rw [cleared]
        exact Nat.zero_le _
      · rcases acted with postponed | rescheduled | ⟨ended, _, isEnded⟩
        · rw [postponed]
          exact Nat.le_of_eq (Nat.zero_add _)
        · rw [rescheduled]
          change 1 + (policy.maxAttempts - (made + 1)) ≤
            policy.maxAttempts - made
          omega
        · rw [isEnded]
          change 1 + 0 ≤ policy.maxAttempts - made
          omega

/-- So a run without an arming makes no more attempts than are left. -/
theorem attempts_le_remaining
    (phase : Phase Subject)
    {events : List (Event Subject)}
    (armsNothing :
      ∀ note ∈ emitted (step policy) (notes policy) phase events,
        note.isArming = false) :
    ((emitted (step policy) (notes policy) phase events).filter
        Note.isAttempt).length ≤
      phase.remaining policy := by
  induction events generalizing phase with
  | nil =>
      exact Nat.zero_le _
  | cons event later inductionHypothesis =>
      rw [emitted, List.forall_mem_append] at armsNothing
      have now := remaining_step phase armsNothing.1
      have afterwards :=
        inductionHypothesis (step policy phase event) armsNothing.2
      rw [emitted, List.filter_append, List.length_append]
      omega

variable (policy) in
theorem remaining_le (phase : Phase Subject) :
    phase.remaining policy ≤ policy.maxAttempts := by
  cases phase with
  | idle =>
      exact Nat.zero_le _
  | waiting =>
      exact Nat.sub_le _ _

/-- An attempt that is not rescheduled leaves nothing to do. -/
theorem idle_of_ended
    {phase : Phase Subject}
    {event : Event Subject}
    {time : Nat}
    {ended : Outcome}
    (attempted : .attempted time ended ∈ notes policy phase event)
    (isEnded : ended ≠ .rescheduled) :
    step policy phase event = .idle := by
  cases event with
  | armed subject armedTime =>
      cases List.mem_singleton.mp attempted
  | cleared =>
      cases attempted
  | triggered triggeredTime ready succeeded eligible =>
      rw [notes] at attempted
      rw [step]
      rcases trigger_cases policy triggeredTime ready succeeded
          eligible phase with
        same | cleared | ⟨_, _, _, _, _, _, acted⟩
      · rw [same] at attempted
        cases attempted
      · rw [cleared]
      · rcases acted with postponed | rescheduled | ⟨_, _, wasEnded⟩
        · rw [postponed] at attempted
          cases List.mem_singleton.mp attempted
        · rw [rescheduled] at attempted
          obtain ⟨_, rfl⟩ :=
            Note.attempted.inj (List.mem_singleton.mp attempted)
          exact (isEnded rfl).elim
        · rw [wasEnded]

/-! ## The times of attempts -/

/-- No attempt is made before the bound, unless armed again. -/
def Phase.DueFrom (bound : Nat) : Phase Subject → Prop
  | .idle => True
  | .waiting _ _ due => bound ≤ due

/-- The events put nothing off to a time before the bound. -/
def PutsOffTo (policy : Policy) (bound : Nat) (event : Event Subject) : Prop :=
  ∀ time ∈ event.time?, bound ≤ policy.due time

theorem dueFrom_step
    {bound : Nat}
    {phase : Phase Subject}
    (due : phase.DueFrom bound)
    {event : Event Subject}
    (putsOff : PutsOffTo policy bound event) :
    (step policy phase event).DueFrom bound ∧
      ∀ note ∈ notes policy phase event,
        note.isAttempt = true → bound ≤ note.time := by
  cases event with
  | armed subject time =>
      refine ⟨putsOff time rfl, fun note member isAttempt => ?_⟩
      rw [List.mem_singleton.mp member] at isAttempt
      cases isAttempt
  | cleared =>
      exact ⟨trivial, fun note member => absurd member List.not_mem_nil⟩
  | triggered time ready succeeded eligible =>
      have putOff : bound ≤ policy.due time := putsOff time rfl
      rw [notes, step]
      rcases trigger_cases policy time ready succeeded eligible
          phase with
        same | cleared | ⟨subject, made, dueTime, rfl, isDue, _, acted⟩
      · rw [same]
        exact ⟨due, fun note member => absurd member List.not_mem_nil⟩
      · rw [cleared]
        exact ⟨trivial, fun note member => absurd member List.not_mem_nil⟩
      · have inTime : bound ≤ time := Nat.le_trans due isDue
        rcases acted with postponed | rescheduled | ⟨ended, _, isEnded⟩
        · rw [postponed]
          refine ⟨putOff, fun note member isAttempt => ?_⟩
          rw [List.mem_singleton.mp member]
          exact inTime
        · rw [rescheduled]
          refine ⟨putOff, fun note member isAttempt => ?_⟩
          rw [List.mem_singleton.mp member]
          exact inTime
        · rw [isEnded]
          refine ⟨trivial, fun note member isAttempt => ?_⟩
          rw [List.mem_singleton.mp member]
          exact inTime

/-- A run makes no attempt before the bound. -/
theorem attempts_from
    {bound : Nat}
    {phase : Phase Subject}
    (due : phase.DueFrom bound)
    {events : List (Event Subject)}
    (putOff : ∀ event ∈ events, PutsOffTo policy bound event) :
    ∀ note ∈ emitted (step policy) (notes policy) phase events,
      note.isAttempt = true → bound ≤ note.time := by
  induction events generalizing phase with
  | nil =>
      intro note member
      cases member
  | cons event later inductionHypothesis =>
      have here :=
        dueFrom_step due (putOff event List.mem_cons_self)
      rw [emitted, List.forall_mem_append]
      exact ⟨here.2, inductionHypothesis here.1 fun next member =>
        putOff next (List.mem_cons_of_mem event member)⟩

/-- An attempt follows what came before it at the distance. -/
def Spaced (distance : Nat) (earlier later : Note) : Prop :=
  later.isAttempt = true → earlier.time + distance ≤ later.time

instance (distance : Nat) (earlier later : Note) :
    Decidable (Spaced distance earlier later) :=
  inferInstanceAs (Decidable (_ → _))

variable (policy) in
/-- An event shows at most one note, of its own time, and puts off to the time
that is due then. -/
theorem notes_eq
    (phase : Phase Subject)
    (event : Event Subject) :
    notes policy phase event = [] ∨
      ∃ note,
        notes policy phase event = [note] ∧
          event.time? = some note.time ∧
          (step policy phase event).DueFrom (policy.due note.time) := by
  cases event with
  | armed subject time =>
      exact .inr ⟨.armed time, rfl, rfl, Nat.le_refl _⟩
  | cleared =>
      exact .inl rfl
  | triggered time ready succeeded eligible =>
      rw [notes, step]
      rcases trigger_cases policy time ready succeeded eligible
          phase with
        same | cleared | ⟨subject, made, due, _, _, _, acted⟩
      · rw [same]
        exact .inl rfl
      · rw [cleared]
        exact .inl rfl
      · rcases acted with postponed | rescheduled | ⟨ended, _, isEnded⟩
        · rw [postponed]
          exact .inr ⟨_, rfl, rfl, Nat.le_refl _⟩
        · rw [rescheduled]
          exact .inr ⟨_, rfl, rfl, Nat.le_refl _⟩
        · rw [isEnded]
          exact .inr ⟨_, rfl, rfl, trivial⟩

/-- On a clock that does not run backwards, and as long as what is put off is
put off by the distance, every attempt is that far behind every arming, attempt
and postponement before it. -/
theorem attempts_spaced
    {distance : Nat}
    (phase : Phase Subject)
    {events : List (Event Subject)}
    (forwards : (events.filterMap Event.time?).Pairwise (· ≤ ·))
    (putOff :
      ∀ time ∈ events.filterMap Event.time?,
        time + distance ≤ policy.due time) :
    (emitted (step policy) (notes policy) phase events).Pairwise
      (Spaced distance) := by
  induction events generalizing phase with
  | nil =>
      exact List.Pairwise.nil
  | cons event later inductionHypothesis =>
      have laterPutOff :
          ∀ time ∈ later.filterMap Event.time?,
            time + distance ≤ policy.due time := by
        intro time member
        obtain ⟨next, isLater, atTime⟩ := List.mem_filterMap.mp member
        exact putOff time
          (List.mem_filterMap.mpr
            ⟨next, List.mem_cons_of_mem event isLater, atTime⟩)
      rcases notes_eq policy phase event with
        nothing | ⟨note, onlyNote, atTime, due⟩
      · rw [emitted, nothing, List.nil_append]
        refine inductionHypothesis _ ?_ laterPutOff
        exact forwards.sublist
          ((List.sublist_cons_self event later).filterMap _)
      · rw [List.filterMap_cons_some atTime] at forwards putOff
        rw [List.pairwise_cons] at forwards
        rw [emitted, onlyNote, List.singleton_append, List.pairwise_cons]
        refine ⟨fun other member isAttempt => ?_,
          inductionHypothesis _ forwards.2 laterPutOff⟩
        have notePutOff := putOff note.time List.mem_cons_self
        have dueLater :
            (step policy phase event).DueFrom (note.time + distance) := by
          cases phaseAfter : step policy phase event with
          | idle =>
              trivial
          | waiting subject made dueTime =>
              rw [phaseAfter] at due
              exact Nat.le_trans notePutOff due
        refine attempts_from dueLater (fun next isLater time isTime => ?_)
          other member isAttempt
        have inLater : time ∈ later.filterMap Event.time? :=
          List.mem_filterMap.mpr ⟨next, isLater, isTime⟩
        have notEarlier := forwards.1 time inLater
        have nextPutOff := laterPutOff time inLater
        omega

end Steps

end Retries
