import Mathlib.Algebra.BigOperators.Group.Finset.Piecewise
import Mathlib.Data.List.Forall2
import Mathlib.Data.List.Range
import Mathlib.Data.Nat.Basic
import MonomythClient.Runs

namespace SharedBudgets

open Runs

/-!
# Budgets that threads share

Some calls set a counter to a budget, after writing cells that say what the
budget is for; others take from it.  A call that takes loads the counter, tries
to exchange it for one less until it succeeds or finds zero, and then reads the
cells.  The threads make their steps in any order.

The counter is linearizable: each call that takes counts at one of its own
steps, and the calls' answers are those of a counter that nobody else uses at
the time.  So no part of a budget is taken twice, and nothing beyond it.  The
cells may be written again before they are read; a cell that only grows is never
read as less than it was when the counter was exchanged.
-/

variable {Thread Cell Value : Type}

/-! ## Threads -/

/-- One step of a call that writes. -/
inductive Access (Cell Value : Type) where
  | set (budget : Nat)
  | modify (cell : Cell) (change : Value → Value)

/-- Where a thread is in its call. -/
inductive Phase (Cell Value : Type) where
  | idle
  | writing (rest : List (Access Cell Value))
  | trying (current : Nat)
  | reading (before : Nat) (rest : List Cell) (values : List Value)

/-- What a thread may do next; a weak exchange may fail for no reason. -/
inductive Action (Cell Value : Type) where
  | write (program : List (Access Cell Value))
  | access
  | load
  | exchange (spurious : Bool)
  | read
  | finish

/-- What a call does to the counter. -/
inductive Act where
  | set (budget : Nat)
  | taken (before : Nat)
  | refused
  deriving Repr, DecidableEq

/-- A step at which a call counts, and the cells at that time. -/
structure Event (Thread Cell Value : Type) where
  thread : Thread
  act : Act
  seen : Cell → Value

/-- What a call that takes answers: what was left before, and the cells. -/
abbrev Answer (Value : Type) := Option (Nat × List Value)

/-- What one step of a thread does. -/
structure Effect (Thread Cell Value : Type) where
  remaining : Nat
  cells : Cell → Value
  phase : Phase Cell Value
  event : Option (Event Thread Cell Value) := none
  answer : Option (Answer Value) := none

section Steps

variable [DecidableEq Cell]

/-- A thread's step, if it can make it. -/
def effect
    (reads : List Cell)
    (remaining : Nat)
    (cells : Cell → Value)
    (thread : Thread) :
    Phase Cell Value → Action Cell Value → Option (Effect Thread Cell Value)
  | .idle, .write program =>
      some { remaining, cells, phase := .writing program }
  | .writing (.set budget :: rest), .access =>
      some
        { remaining := budget
          cells
          phase := .writing rest
          event := some ⟨thread, .set budget, cells⟩ }
  | .writing (.modify cell change :: rest), .access =>
      some
        { remaining
          cells := Function.update cells cell (change (cells cell))
          phase := .writing rest }
  | .writing [], .finish =>
      some { remaining, cells, phase := .idle }
  | .idle, .load =>
      some
        { remaining
          cells
          phase := .trying remaining
          event :=
            if remaining = 0 then some ⟨thread, .refused, cells⟩ else none }
  | .trying (current + 1), .exchange spurious =>
      if spurious = false ∧ remaining = current + 1 then
        some
          { remaining := current
            cells
            phase := .reading (current + 1) reads []
            event := some ⟨thread, .taken (current + 1), cells⟩ }
      else
        some
          { remaining
            cells
            phase := .trying remaining
            event :=
            if remaining = 0 then some ⟨thread, .refused, cells⟩ else none }
  | .trying 0, .finish =>
      some { remaining, cells, phase := .idle, answer := some none }
  | .reading before (cell :: rest) values, .read =>
      some
        { remaining
          cells
          phase := .reading before rest (values ++ [cells cell]) }
  | .reading before [] values, .finish =>
      some
        { remaining
          cells
          phase := .idle
          answer := some (some (before, values)) }
  | _, _ => none

/-- The memory, the threads, the steps that counted so far and the answers each
thread got. -/
structure State (Thread Cell Value : Type) where
  remaining : Nat
  cells : Cell → Value
  phase : Thread → Phase Cell Value
  history : List (Event Thread Cell Value)
  answers : Thread → List (Answer Value)

/-- Nothing left, and every thread idle. -/
def State.initial (cells : Cell → Value) : State Thread Cell Value where
  remaining := 0
  cells := cells
  phase := fun _ => .idle
  history := []
  answers := fun _ => []

variable [DecidableEq Thread]

def State.apply
    (state : State Thread Cell Value)
    (thread : Thread)
    (effect : Effect Thread Cell Value) :
    State Thread Cell Value where
  remaining := effect.remaining
  cells := effect.cells
  phase := Function.update state.phase thread effect.phase
  history := state.history ++ effect.event.toList
  answers :=
    Function.update state.answers thread
      (state.answers thread ++ effect.answer.toList)

/-- A turn of a thread; nothing happens if it cannot do this now. -/
def step
    (reads : List Cell)
    (state : State Thread Cell Value)
    (turn : Thread × Action Cell Value) :
    State Thread Cell Value :=
  match
    effect reads state.remaining state.cells turn.1 (state.phase turn.1)
      turn.2 with
  | none => state
  | some effect => state.apply turn.1 effect

end Steps

/-! ## The counter alone -/

/-- What a step that counts does to a counter that is used by one call at a
time; it is not possible with every value. -/
def Event.advance
    (event : Event Thread Cell Value)
    (remaining : Nat) :
    Option Nat :=
  match event.act with
  | .set budget => some budget
  | .taken before =>
      if 0 < before ∧ before = remaining then some (remaining - 1) else none
  | .refused => if remaining = 0 then some remaining else none

/-- The counter after a history that is possible. -/
def counter (history : List (Event Thread Cell Value)) : Option Nat :=
  history.foldl (fun remaining event => remaining.bind event.advance) (some 0)

theorem counter_append
    (history : List (Event Thread Cell Value))
    (event : Event Thread Cell Value) :
    counter (history ++ [event]) = (counter history).bind event.advance := by
  unfold counter
  rw [List.foldl_append, List.foldl_cons, List.foldl_nil]

/-- The budget that was set. -/
def Event.budget (event : Event Thread Cell Value) : Option Nat :=
  match event.act with
  | .set budget => some budget
  | .taken _ => none
  | .refused => none

/-- What was left before a call took something. -/
def Event.takenFrom (event : Event Thread Cell Value) : Option Nat :=
  match event.act with
  | .set _ => none
  | .taken before => some before
  | .refused => none

theorem Event.advance_of_budget
    {event : Event Thread Cell Value}
    {budget : Nat}
    (isSet : event.budget = some budget)
    (remaining : Nat) :
    event.advance remaining = some budget := by
  obtain ⟨thread, act, seen⟩ := event
  cases act with
  | set other =>
      exact isSet
  | taken before =>
      cases isSet
  | refused =>
      cases isSet

/-- A step that counts sets the counter, takes one or finds none. -/
theorem Event.advance_cases
    (event : Event Thread Cell Value)
    {before after : Nat}
    (advanced : event.advance before = some after) :
    (event.budget = some after ∧ event.takenFrom = none) ∨
      (event.budget = none ∧ event.takenFrom = some (after + 1) ∧
        before = after + 1) ∨
      (event.budget = none ∧ event.takenFrom = none ∧ before = 0 ∧
        after = 0) := by
  obtain ⟨thread, act, seen⟩ := event
  cases act with
  | set budget =>
      exact .inl ⟨advanced, rfl⟩
  | taken amount =>
      unfold Event.advance at advanced
      dsimp only at advanced
      split at advanced
      · rename_i isPart
        obtain ⟨isPart, rfl⟩ := isPart
        cases advanced
        have positive : amount - 1 + 1 = amount := by omega
        exact
          .inr (.inl ⟨rfl, congrArg some positive.symm, positive.symm⟩)
      · cases advanced
  | refused =>
      unfold Event.advance at advanced
      dsimp only at advanced
      split at advanced
      · rename_i empty
        cases advanced
        exact .inr (.inr ⟨rfl, rfl, empty, empty⟩)
      · cases advanced

/-- A possible history stays possible if it is cut. -/
theorem counter_of_append
    {past later : List (Event Thread Cell Value)}
    {remaining : Nat}
    (possible : counter (past ++ later) = some remaining) :
    ∃ earlier, counter past = some earlier := by
  induction later using List.reverseRecOn generalizing remaining with
  | nil =>
      rw [List.append_nil] at possible
      exact ⟨remaining, possible⟩
  | append_singleton later event inductionHypothesis =>
      rw [← List.append_assoc, counter_append, Option.bind_eq_some_iff]
        at possible
      obtain ⟨before, possibleBefore, _⟩ := possible
      exact inductionHypothesis possibleBefore

/-- After a budget was set its parts are taken from the top, each once. -/
theorem takenFrom_since_set
    {past later : List (Event Thread Cell Value)}
    {set : Event Thread Cell Value}
    {budget remaining : Nat}
    (isSet : set.budget = some budget)
    (possible : counter (past ++ set :: later) = some remaining)
    (noSet : ∀ event ∈ later, event.budget = none) :
    remaining ≤ budget ∧
      later.filterMap Event.takenFrom =
        (List.range (budget - remaining)).map (budget - ·) := by
  induction later using List.reverseRecOn generalizing remaining with
  | nil =>
      rw [counter_append, Option.bind_eq_some_iff] at possible
      obtain ⟨_, _, advanced⟩ := possible
      rw [Event.advance_of_budget isSet] at advanced
      cases advanced
      simp
  | append_singleton later event inductionHypothesis =>
      rw [← List.cons_append, ← List.append_assoc, counter_append,
        Option.bind_eq_some_iff] at possible
      obtain ⟨before, possibleBefore, advanced⟩ := possible
      obtain ⟨inBudget, taken⟩ :=
        inductionHypothesis possibleBefore
          fun other member => noSet other (by simp [member])
      rw [List.filterMap_append, taken]
      rcases event.advance_cases advanced with
        ⟨isSet', _⟩ | ⟨_, isTaken, rfl⟩ | ⟨_, isRefused, rfl, rfl⟩
      · have isNoSet := noSet event (by simp)
        rw [isNoSet] at isSet'
        cases isSet'
      · have oneMore :
            budget - remaining = budget - (remaining + 1) + 1 := by
          omega
        have top :
            budget - (budget - (remaining + 1)) = remaining + 1 := by
          omega
        refine ⟨by omega, ?_⟩
        rw [oneMore, List.range_succ, List.map_append, List.map_singleton,
          top]
        simp [isTaken]
      · exact ⟨inBudget, by simp [isRefused]⟩

/-! ## Calls and what they count as -/

section Calls

variable [Preorder Value]

/-- If a thread writes to such a cell next, the cell grows. -/
def Grows
    (growing : Cell → Prop)
    (cells : Cell → Value)
    (phase : Phase Cell Value) : Prop :=
  ∀ cell change rest,
    phase = .writing (.modify cell change :: rest) →
      growing cell → cells cell ≤ change (cells cell)

/-- No such cell is less than it was seen. -/
def AtLeast
    (growing : Cell → Prop)
    (seen : Cell → Value)
    (cell : Cell)
    (value : Value) : Prop :=
  growing cell → seen cell ≤ value

variable (growing : Cell → Prop) (reads : List Cell)

/-- The answer of a call is that of the step at which it counted. -/
inductive Fits : Answer Value → Event Thread Cell Value → Prop where
  | refused
      (thread : Thread)
      (seen : Cell → Value) :
      Fits none ⟨thread, .refused, seen⟩
  | taken
      (thread : Thread)
      (before : Nat)
      (seen : Cell → Value)
      (values : List Value)
      (read : List.Forall₂ (AtLeast growing seen) reads values) :
      Fits (some (before, values)) ⟨thread, .taken before, seen⟩

/-- The steps at which a thread's present call counted already. -/
inductive Pending
    (cells : Cell → Value)
    (thread : Thread) :
    Phase Cell Value → List (Event Thread Cell Value) → Prop where
  | idle : Pending cells thread .idle []
  | writing
      (rest : List (Access Cell Value)) :
      Pending cells thread (.writing rest) []
  | trying
      (current : Nat) :
      Pending cells thread (.trying (current + 1)) []
  | refused
      (seen : Cell → Value) :
      Pending cells thread (.trying 0) [⟨thread, .refused, seen⟩]
  | reading
      (before : Nat)
      (seen : Cell → Value)
      (done rest : List Cell)
      (values : List Value)
      (split : reads = done ++ rest)
      (read : List.Forall₂ (AtLeast growing seen) done values)
      (grown : ∀ cell, AtLeast growing seen cell (cells cell)) :
      Pending cells thread (.reading before rest values)
        [⟨thread, .taken before, seen⟩]

/-- A call that takes, of this thread. -/
def Event.isTakeOf
    [DecidableEq Thread]
    (thread : Thread)
    (event : Event Thread Cell Value) :
    Bool :=
  event.budget.isNone && decide (event.thread = thread)

variable [DecidableEq Thread]

/-- A thread's answers, and its present call, are those of the steps at which
its calls counted, in order. -/
def Calls
    (thread : Thread)
    (cells : Cell → Value)
    (phase : Phase Cell Value)
    (history : List (Event Thread Cell Value))
    (answers : List (Answer Value)) : Prop :=
  ∃ done pending,
    history.filter (Event.isTakeOf thread) = done ++ pending ∧
      List.Forall₂ (Fits growing reads) answers done ∧
      Pending growing reads cells thread phase pending

variable
  {allowed : Access Cell Value → Prop}
  {growing reads}

omit [DecidableEq Thread] in
theorem Pending.grow
    {cells later : Cell → Value}
    {thread : Thread}
    {phase : Phase Cell Value}
    {pending : List (Event Thread Cell Value)}
    (fits : Pending growing reads cells thread phase pending)
    (grown : ∀ cell, AtLeast growing cells cell (later cell)) :
    Pending growing reads later thread phase pending := by
  cases fits with
  | idle =>
      exact .idle
  | writing rest =>
      exact .writing rest
  | trying current =>
      exact .trying current
  | refused seen =>
      exact .refused seen
  | reading before seen done rest values split read grownBefore =>
      exact
        .reading before seen done rest values split read
          fun cell isGrowing =>
            (grownBefore cell isGrowing).trans (grown cell isGrowing)

omit [DecidableEq Thread] in
theorem Pending.length_le
    {cells : Cell → Value}
    {thread : Thread}
    {phase : Phase Cell Value}
    {pending : List (Event Thread Cell Value)}
    (fits : Pending growing reads cells thread phase pending) :
    pending.length ≤ 1 := by
  cases fits <;> simp

/-- A thread's answers are those of its calls, but for one that did not return
yet. -/
theorem Calls.answered
    {thread : Thread}
    {cells : Cell → Value}
    {phase : Phase Cell Value}
    {history : List (Event Thread Cell Value)}
    {answers : List (Answer Value)}
    (calls : Calls growing reads thread cells phase history answers) :
    ∃ done pending,
      history.filter (Event.isTakeOf thread) = done ++ pending ∧
        pending.length ≤ 1 ∧
        List.Forall₂ (Fits growing reads) answers done := by
  obtain ⟨done, pending, isSplit, fit, isPending⟩ := calls
  exact ⟨done, pending, isSplit, isPending.length_le, fit⟩

/-- A thread goes on with its call, without a step that counts. -/
theorem Calls.goOn
    {thread : Thread}
    {cells later : Cell → Value}
    {phase next : Phase Cell Value}
    {history : List (Event Thread Cell Value)}
    {answers : List (Answer Value)}
    (calls : Calls growing reads thread cells phase history answers)
    (goesOn :
      ∀ pending, Pending growing reads cells thread phase pending →
        Pending growing reads later thread next pending) :
    Calls growing reads thread later next history answers := by
  obtain ⟨done, pending, isSplit, fit, isPending⟩ := calls
  exact ⟨done, pending, isSplit, fit, goesOn pending isPending⟩

/-- A step that is not of a call that takes, or of another thread's. -/
theorem Calls.pass
    {thread : Thread}
    {cells : Cell → Value}
    {phase : Phase Cell Value}
    {history : List (Event Thread Cell Value)}
    {answers : List (Answer Value)}
    (calls : Calls growing reads thread cells phase history answers)
    {event : Option (Event Thread Cell Value)}
    (notOwn : ∀ step ∈ event, step.isTakeOf thread = false) :
    Calls growing reads thread cells phase (history ++ event.toList)
      answers := by
  obtain ⟨done, pending, isSplit, fit, isPending⟩ := calls
  refine ⟨done, pending, ?_, fit, isPending⟩
  cases event with
  | none =>
      simpa using isSplit
  | some step =>
      rw [List.filter_append, isSplit]
      simp [notOwn step rfl]

/-- A call counts now. -/
theorem Calls.count
    {thread : Thread}
    {cells : Cell → Value}
    {phase next : Phase Cell Value}
    {history : List (Event Thread Cell Value)}
    {answers : List (Answer Value)}
    (calls : Calls growing reads thread cells phase history answers)
    (notYet :
      ∀ pending, Pending growing reads cells thread phase pending →
        pending = [])
    {event : Event Thread Cell Value}
    (isOwn : event.isTakeOf thread = true)
    (counts : Pending growing reads cells thread next [event]) :
    Calls growing reads thread cells next (history ++ [event])
      answers := by
  obtain ⟨done, pending, isSplit, fit, isPending⟩ := calls
  refine ⟨done, [event], ?_, fit, counts⟩
  rw [List.filter_append, isSplit, notYet pending isPending]
  simp [isOwn]

/-- A call returns with its answer. -/
theorem Calls.answer
    {thread : Thread}
    {cells : Cell → Value}
    {phase : Phase Cell Value}
    {history : List (Event Thread Cell Value)}
    {answers : List (Answer Value)}
    (calls : Calls growing reads thread cells phase history answers)
    {answer : Answer Value}
    (fitsCall :
      ∀ pending, Pending growing reads cells thread phase pending →
        ∃ event, pending = [event] ∧ Fits growing reads answer event) :
    Calls growing reads thread cells .idle history (answers ++ [answer]) := by
  obtain ⟨done, pending, isSplit, fit, isPending⟩ := calls
  obtain ⟨event, rfl, fits⟩ := fitsCall pending isPending
  refine ⟨done ++ [event], [], ?_, ?_, .idle⟩
  · rw [isSplit, List.append_nil]
  · exact List.rel_append fit (.cons fits .nil)

/-! ## One step -/

/-- What the steps keep, seen from the thread that makes one. -/
structure Sound
    (allowed : Access Cell Value → Prop)
    (growing : Cell → Prop)
    (reads : List Cell)
    (remaining : Nat)
    (cells : Cell → Value)
    (thread : Thread)
    (phase : Phase Cell Value)
    (result : Effect Thread Cell Value) : Prop where
  counts :
    ∀ history : List (Event Thread Cell Value),
      counter history = some remaining →
        counter (history ++ result.event.toList) = some result.remaining
  grown : ∀ cell, AtLeast growing cells cell (result.cells cell)
  calls :
    ∀ history answers,
      Calls growing reads thread cells phase history answers →
        Calls growing reads thread result.cells result.phase
          (history ++ result.event.toList)
          (answers ++ result.answer.toList)
  others :
    ∀ other, other ≠ thread →
      ∀ event ∈ result.event, event.isTakeOf other = false
  seen : ∀ event ∈ result.event, event.seen = cells
  sets :
    ∀ event ∈ result.event, ∀ budget,
      event.budget = some budget → allowed (.set budget)
  program :
    ∀ rest, result.phase = .writing rest →
      ∀ access ∈ rest, allowed access

/-- A step after which the thread only goes on with its call. -/
theorem Sound.goOn
    {remaining : Nat}
    {cells : Cell → Value}
    {thread : Thread}
    {phase : Phase Cell Value}
    {result : Effect Thread Cell Value}
    (isQuiet : result.event = none)
    (noAnswer : result.answer = none)
    (same : result.remaining = remaining)
    (grown : ∀ cell, AtLeast growing cells cell (result.cells cell))
    (goesOn :
      ∀ pending, Pending growing reads cells thread phase pending →
        Pending growing reads result.cells thread result.phase pending)
    (program :
      ∀ rest, result.phase = .writing rest →
        ∀ access ∈ rest, allowed access) :
    Sound allowed growing reads remaining cells thread phase result where
  counts history possible := by
    rw [isQuiet, same]
    simpa using possible
  grown := grown
  calls history answers calls := by
    rw [isQuiet, noAnswer]
    simpa using calls.goOn goesOn
  others other _ event isEvent := by
    rw [isQuiet] at isEvent
    cases isEvent
  seen event isEvent := by
    rw [isQuiet] at isEvent
    cases isEvent
  sets event isEvent := by
    rw [isQuiet] at isEvent
    cases isEvent
  program := program

/-- The step at which a call that takes counts. -/
theorem Sound.count
    {remaining left : Nat}
    {cells : Cell → Value}
    {thread : Thread}
    {phase next : Phase Cell Value}
    {act : Act}
    (advances :
      Event.advance ⟨thread, act, cells⟩ remaining = some left)
    (isTake : Event.budget ⟨thread, act, cells⟩ = none)
    (notYet :
      ∀ pending, Pending growing reads cells thread phase pending →
        pending = [])
    (counts :
      Pending growing reads cells thread next [⟨thread, act, cells⟩]) :
    Sound allowed growing reads remaining cells thread phase
      { remaining := left
        cells
        phase := next
        event := some ⟨thread, act, cells⟩ } where
  counts history possible := by
    rw [Option.toList_some, counter_append, possible]
    exact advances
  grown _ _ := le_rfl
  calls history answers calls := by
    simpa using
      calls.count notYet (by simp [Event.isTakeOf, isTake]) counts
  others other isOther event isEvent := by
    cases isEvent
    simp [Event.isTakeOf, Ne.symm isOther]
  seen event isEvent := by
    cases isEvent
    rfl
  sets event isEvent budget isSet := by
    cases isEvent
    rw [isTake] at isSet
    cases isSet
  program rest isWriting := by
    cases isWriting
    cases counts

/-- A look at the counter that finds nothing left is the step at which the call
counts; otherwise the call goes on. -/
theorem Sound.look
    {remaining : Nat}
    {cells : Cell → Value}
    {thread : Thread}
    {phase : Phase Cell Value}
    (notYet :
      ∀ pending, Pending growing reads cells thread phase pending →
        pending = []) :
    Sound allowed growing reads remaining cells thread phase
      { remaining
        cells
        phase := .trying remaining
        event :=
          if remaining = 0 then
            some ⟨thread, .refused, cells⟩
          else
            none } := by
  cases remaining with
  | zero =>
      exact Sound.count rfl rfl notYet (.refused cells)
  | succ current =>
      refine Sound.goOn rfl rfl rfl (fun _ _ => le_rfl) ?_ ?_
      · intro pending isPending
        rw [notYet pending isPending]
        exact .trying current
      · intro rest isWriting
        cases isWriting

/-- The step at which a call that sets the counter counts. -/
theorem Sound.set
    {remaining budget : Nat}
    {cells : Cell → Value}
    {thread : Thread}
    {rest : List (Access Cell Value)}
    (writes : ∀ access ∈ .set budget :: rest, allowed access) :
    Sound allowed growing reads remaining cells thread
      (.writing (.set budget :: rest))
      { remaining := budget
        cells
        phase := .writing rest
        event := some ⟨thread, .set budget, cells⟩ } where
  counts history possible := by
    simp [counter_append, possible, Event.advance]
  grown _ _ := le_rfl
  calls history answers calls := by
    have goesOn :
        Calls growing reads thread cells (.writing rest) history answers :=
      calls.goOn fun pending isPending => by
        cases isPending
        exact .writing rest
    obtain ⟨done, pending, isSplit, fit, isPending⟩ := goesOn
    refine ⟨done, pending, ?_, by simpa using fit, isPending⟩
    simpa [Event.isTakeOf, Event.budget] using isSplit
  others other _ event isEvent := by
    cases isEvent
    rfl
  seen event isEvent := by
    cases isEvent
    rfl
  sets event isEvent amount isSet := by
    cases isEvent
    cases isSet
    exact writes _ List.mem_cons_self
  program later isWriting := by
    cases isWriting
    exact fun access member => writes access (List.mem_cons_of_mem _ member)

/-- The step at which a call returns with its answer. -/
theorem Sound.returns
    {remaining : Nat}
    {cells : Cell → Value}
    {thread : Thread}
    {phase : Phase Cell Value}
    {answer : Answer Value}
    (fitsCall :
      ∀ pending, Pending growing reads cells thread phase pending →
        ∃ event, pending = [event] ∧ Fits growing reads answer event) :
    Sound allowed growing reads remaining cells thread phase
      { remaining, cells, phase := .idle, answer := some answer } where
  counts history possible := by
    simpa using possible
  grown _ _ := le_rfl
  calls history answers calls := by
    simpa using calls.answer fitsCall
  others other _ event isEvent := by
    cases isEvent
  seen event isEvent := by
    cases isEvent
  sets event isEvent := by
    cases isEvent
  program rest isWriting := by
    cases isWriting

variable [DecidableEq Cell]

/-- Every step is sound. -/
theorem effect_sound
    {remaining : Nat}
    {cells : Cell → Value}
    {thread : Thread}
    {phase : Phase Cell Value}
    {action : Action Cell Value}
    (grows : Grows growing cells phase)
    (writes :
      ∀ rest, phase = .writing rest → ∀ access ∈ rest, allowed access)
    (begins :
      ∀ program, action = .write program →
        ∀ access ∈ program, allowed access)
    {result : Effect Thread Cell Value}
    (stepped :
      effect reads remaining cells thread phase action = some result) :
    Sound allowed growing reads remaining cells thread phase result := by
  unfold effect at stepped
  split at stepped
  case h_1 program =>
    cases stepped
    refine Sound.goOn rfl rfl rfl (fun _ _ => le_rfl) ?_ ?_
    · intro pending isPending
      cases isPending
      exact .writing program
    · intro rest isWriting
      cases isWriting
      exact begins _ rfl
  case h_2 budget rest =>
    cases stepped
    exact Sound.set (writes _ rfl)
  case h_3 cell change rest =>
    cases stepped
    have grown : ∀ other,
        AtLeast growing cells other
          (Function.update cells cell (change (cells cell)) other) := by
      intro other isGrowing
      by_cases isCell : other = cell
      · subst isCell
        rw [Function.update_self]
        exact grows other change rest rfl isGrowing
      · rw [Function.update_of_ne isCell]
    refine Sound.goOn rfl rfl rfl grown ?_ ?_
    · intro pending isPending
      cases isPending
      exact .writing rest
    · intro later isWriting
      cases isWriting
      exact fun access member =>
        writes _ rfl access (List.mem_cons_of_mem _ member)
  case h_4 =>
    cases stepped
    refine Sound.goOn rfl rfl rfl (fun _ _ => le_rfl) ?_ ?_
    · intro pending isPending
      cases isPending
      exact .idle
    · intro rest isWriting
      cases isWriting
  case h_5 =>
    cases stepped
    apply Sound.look
    intro pending isPending
    cases isPending
    rfl
  case h_6 current spurious =>
    have notYet :
        ∀ pending,
          Pending growing reads cells thread (.trying (current + 1))
              pending →
            pending = [] := by
      intro pending isPending
      cases isPending
      rfl
    split at stepped
    · rename_i succeeds
      obtain ⟨_, rfl⟩ := succeeds
      cases stepped
      refine Sound.count ?_ rfl notYet ?_
      · simp [Event.advance]
      · exact
          .reading (current + 1) cells [] reads [] rfl .nil
            fun _ _ => le_rfl
    · cases stepped
      exact Sound.look notYet
  case h_7 =>
    cases stepped
    apply Sound.returns
    intro pending isPending
    cases isPending
    exact ⟨_, rfl, .refused thread _⟩
  case h_8 before cell rest values =>
    cases stepped
    refine Sound.goOn rfl rfl rfl (fun _ _ => le_rfl) ?_ ?_
    · intro pending isPending
      cases isPending with
      | reading before seen done _ _ isSplit read grown =>
          exact
            .reading before seen (done ++ [cell]) rest
              (values ++ [cells cell])
              (by rw [isSplit, List.append_assoc, List.singleton_append])
              (List.rel_append read (.cons (grown cell) .nil)) grown
    · intro later isWriting
      cases isWriting
  case h_9 before values =>
    cases stepped
    apply Sound.returns
    intro pending isPending
    cases isPending with
    | reading before seen done _ _ isSplit read grown =>
        rw [List.append_nil] at isSplit
        subst isSplit
        exact ⟨_, rfl, .taken thread before seen values read⟩
  case h_10 =>
    cases stepped

/-! ## Any order of steps -/

/-- The counter stands where the steps that counted leave it, every answer is
that of such a step of its own call, and what is being written lets the cells
grow. -/
structure Linear
    (allowed : Access Cell Value → Prop)
    (growing : Cell → Prop)
    (reads : List Cell)
    (state : State Thread Cell Value) : Prop where
  counts : counter state.history = some state.remaining
  calls :
    ∀ thread,
      Calls growing reads thread state.cells (state.phase thread)
        state.history (state.answers thread)
  programs :
    ∀ thread rest,
      state.phase thread = .writing rest → ∀ access ∈ rest, allowed access
  sets :
    ∀ event ∈ state.history, ∀ budget,
      event.budget = some budget → allowed (.set budget)
  seen :
    ∀ event ∈ state.history,
      ∀ cell, AtLeast growing event.seen cell (state.cells cell)
  order :
    state.history.Pairwise fun earlier later =>
      ∀ cell, AtLeast growing earlier.seen cell (later.seen cell)

omit [DecidableEq Cell] in
theorem Linear.initial (cells : Cell → Value) :
    Linear allowed growing reads
      (State.initial cells : State Thread Cell Value) where
  counts := rfl
  calls _ := ⟨[], [], rfl, .nil, .idle⟩
  programs thread rest isWriting := by
    cases isWriting
  sets event member := by
    cases member
  seen event member := by
    cases member
  order := .nil

/-- A turn keeps this, if it lets the cells grow. -/
theorem Linear.step
    {state : State Thread Cell Value}
    (linear : Linear allowed growing reads state)
    {turn : Thread × Action Cell Value}
    (grows : Grows growing state.cells (state.phase turn.1))
    (begins :
      ∀ program, turn.2 = .write program →
        ∀ access ∈ program, allowed access) :
    Linear allowed growing reads (step reads state turn) := by
  unfold SharedBudgets.step
  cases stepped :
      effect reads state.remaining state.cells turn.1 (state.phase turn.1)
        turn.2 with
  | none =>
      exact linear
  | some result =>
      have sound :=
        effect_sound grows (linear.programs turn.1) begins stepped
      refine
        { counts := sound.counts state.history linear.counts
          calls := fun thread => ?_
          programs := fun thread rest isWriting => ?_
          sets := fun event member budget isSet => ?_
          seen := fun event member cell isGrowing => ?_
          order := ?_ }
      · by_cases isTurn : thread = turn.1
        · subst isTurn
          simpa [State.apply] using
            sound.calls state.history _ (linear.calls turn.1)
        · have unmoved :=
            (linear.calls thread).goOn fun pending isPending =>
              isPending.grow sound.grown
          simpa [State.apply, isTurn] using
            unmoved.pass (sound.others thread isTurn)
      · by_cases isTurn : thread = turn.1
        · subst isTurn
          exact sound.program rest (by simpa [State.apply] using isWriting)
        · exact
            linear.programs thread rest
              (by simpa [State.apply, isTurn] using isWriting)
      · rcases List.mem_append.mp member with isPast | isNew
        · exact linear.sets event isPast budget isSet
        · exact sound.sets event (Option.mem_toList.mp isNew) budget isSet
      · rcases List.mem_append.mp member with isPast | isNew
        · exact
            (linear.seen event isPast cell isGrowing).trans
              (sound.grown cell isGrowing)
        · rw [sound.seen event (Option.mem_toList.mp isNew)]
          exact sound.grown cell isGrowing
      · refine List.pairwise_append.mpr ⟨linear.order, ?_, ?_⟩
        · cases result.event with
          | none =>
              exact .nil
          | some event =>
              exact List.pairwise_singleton _ event
        · intro event isPast next isNew cell
          rw [sound.seen next (Option.mem_toList.mp isNew)]
          exact linear.seen event isPast cell

/-- So does any order of the threads' steps that lets the cells grow. -/
theorem run_linear
    (cells : Cell → Value)
    (turns : List (Thread × Action Cell Value))
    (grows :
      Along (step reads)
        (fun state turn => Grows growing state.cells (state.phase turn.1))
        (State.initial cells) turns)
    (begins :
      ∀ turn ∈ turns, ∀ program,
        turn.2 = .write program → ∀ access ∈ program, allowed access) :
    Linear allowed growing reads
      (run (step reads) (State.initial cells) turns) := by
  induction turns using List.reverseRecOn with
  | nil =>
      exact .initial cells
  | append_singleton earlier turn inductionHypothesis =>
      obtain ⟨growsBefore, growsNow, -⟩ := along_append.mp grows
      rw [run_append]
      apply Linear.step _ growsNow
      · exact begins turn (by simp)
      · exact inductionHypothesis growsBefore fun other member =>
          begins other (by simp [member])

/-- Any order of steps lets no cell grow. -/
theorem run_linear_without_growth
    (cells : Cell → Value)
    (turns : List (Thread × Action Cell Value))
    (begins :
      ∀ turn ∈ turns, ∀ program,
        turn.2 = .write program → ∀ access ∈ program, allowed access) :
    Linear allowed (fun _ => False) reads
      (run (step reads) (State.initial cells) turns) := by
  refine run_linear cells turns (along_iff.mpr ?_) begins
  intro earlier turn later _ cell change rest _ isGrowing
  exact isGrowing.elim

end Calls

/-! ## How often a cell is written -/

section Counts

variable [DecidableEq Cell]

/-- The access writes to the cell. -/
def Access.writesTo (cell : Cell) : Access Cell Value → Bool
  | .set _ => false
  | .modify other _ => decide (other = cell)

/-- How often a thread still writes to the cell in its call. -/
def Phase.pending (cell : Cell) : Phase Cell Value → Nat
  | .writing rest => rest.countP (Access.writesTo cell)
  | _ => 0

/-- How often the call that begins in a turn writes to the cell. -/
def Action.begun (cell : Cell) : Action Cell Value → Nat
  | .write program => program.countP (Access.writesTo cell)
  | _ => 0

/-- How often the calls of a run write to the cell. -/
def begun (cell : Cell) : List (Thread × Action Cell Value) → Nat
  | [] => 0
  | turn :: later => turn.2.begun cell + begun cell later

theorem begun_append
    (cell : Cell)
    (earlier later : List (Thread × Action Cell Value)) :
    begun cell (earlier ++ later) = begun cell earlier + begun cell later := by
  induction earlier with
  | nil =>
      rw [List.nil_append, begun, Nat.zero_add]
  | cons turn rest inductionHypothesis =>
      rw [List.cons_append, begun, begun, inductionHypothesis, Nat.add_assoc]

/-- No write adds more than one to the cell. -/
def AddsOne (cell : Cell) (allowed : Access Cell Nat → Prop) : Prop :=
  ∀ change, allowed (.modify cell change) → ∀ value, change value ≤ value + 1

variable
  {allowed : Access Cell Nat → Prop}
  {cell : Cell}
  {reads : List Cell}

/-- With the writes that are pending, the cell grows no more than by those that
begin. -/
theorem effect_counted
    {remaining : Nat}
    {cells : Cell → Nat}
    {thread : Thread}
    {phase : Phase Cell Nat}
    {action : Action Cell Nat}
    (addsOne : AddsOne cell allowed)
    (writes :
      ∀ rest, phase = .writing rest → ∀ access ∈ rest, allowed access)
    {result : Effect Thread Cell Nat}
    (stepped :
      effect reads remaining cells thread phase action = some result) :
    result.cells cell + result.phase.pending cell ≤
      cells cell + phase.pending cell + action.begun cell := by
  unfold effect at stepped
  split at stepped
  case h_1 program =>
    cases stepped
    simp [Phase.pending, Action.begun]
  case h_2 budget rest =>
    cases stepped
    simp [Phase.pending, Access.writesTo]
  case h_3 other change rest =>
    cases stepped
    by_cases isCell : other = cell
    · subst isCell
      have added :=
        addsOne change (writes _ rfl _ List.mem_cons_self) (cells other)
      simp only [Phase.pending, List.countP_cons, Access.writesTo,
        decide_true, if_true, Function.update_self]
      omega
    · simp [Phase.pending, Access.writesTo, isCell,
        Function.update_of_ne (Ne.symm isCell)]
  case h_6 current spurious =>
    split at stepped <;> cases stepped <;> simp [Phase.pending]
  case h_10 =>
    cases stepped
  all_goals
    cases stepped
    simp [Phase.pending]

variable [DecidableEq Thread]

/-- So does a turn, with the writes of all threads that are pending. -/
theorem step_counted
    {threads : Finset Thread}
    {state : State Thread Cell Nat}
    {turn : Thread × Action Cell Nat}
    (addsOne : AddsOne cell allowed)
    (writes :
      ∀ rest, state.phase turn.1 = .writing rest →
        ∀ access ∈ rest, allowed access)
    (inside : turn.1 ∈ threads) :
    (step reads state turn).cells cell +
        ∑ thread ∈ threads,
          ((step reads state turn).phase thread).pending cell ≤
      state.cells cell +
          ∑ thread ∈ threads, (state.phase thread).pending cell +
        turn.2.begun cell := by
  unfold SharedBudgets.step
  cases stepped :
      effect reads state.remaining state.cells turn.1 (state.phase turn.1)
        turn.2 with
  | none =>
      exact Nat.le_add_right _ _
  | some result =>
      have counted := effect_counted addsOne writes stepped
      -- The other threads' writes are pending as before.
      have others :
          ∑ thread ∈ threads.erase turn.1,
              ((state.apply turn.1 result).phase thread).pending cell =
            ∑ thread ∈ threads.erase turn.1,
              (state.phase thread).pending cell := by
        refine Finset.sum_congr rfl fun thread member => ?_
        have isOther : thread ≠ turn.1 := Finset.ne_of_mem_erase member
        simp [State.apply, Function.update_of_ne isOther]
      have own : (state.apply turn.1 result).phase turn.1 = result.phase :=
        Function.update_self _ _ _
      have sameCell :
          (state.apply turn.1 result).cells cell = result.cells cell :=
        rfl
      rw [← Finset.add_sum_erase _ _ inside, others, own, sameCell,
        ← Finset.add_sum_erase (f := fun thread =>
          (state.phase thread).pending cell) _ inside]
      omega

/-- After any order of the threads' steps a cell is at most what it was and the
number of writes to it that began, without those that are pending. -/
theorem run_counted
    (addsOne : AddsOne cell allowed)
    (cells : Cell → Nat)
    (turns : List (Thread × Action Cell Nat))
    (begins :
      ∀ turn ∈ turns, ∀ program,
        turn.2 = .write program → ∀ access ∈ program, allowed access)
    {threads : Finset Thread}
    (inside : ∀ turn ∈ turns, turn.1 ∈ threads) :
    (run (step reads) (State.initial cells) turns).cells cell +
        ∑ thread ∈ threads,
          ((run (step reads) (State.initial cells) turns).phase
            thread).pending cell ≤
      cells cell + begun cell turns := by
  induction turns using List.reverseRecOn with
  | nil =>
      simp [State.initial, Phase.pending]
  | append_singleton earlier turn inductionHypothesis =>
      have beginsBefore := fun other member =>
        begins other (List.mem_append_left [turn] member)
      have before :=
        inductionHypothesis beginsBefore fun other member =>
          inside other (List.mem_append_left [turn] member)
      have linear :
          Linear allowed (fun _ => False) reads
            (run (step reads) (State.initial cells) earlier) :=
        run_linear_without_growth cells earlier beginsBefore
      have now :=
        @step_counted Thread Cell _ allowed cell reads _ _ _ turn addsOne
          (linear.programs turn.1) (inside turn (by simp))
      rw [run_append, run_cons, run_nil]
      have total :
          begun cell (earlier ++ [turn]) =
            begun cell earlier + turn.2.begun cell :=
        begun_append cell earlier [turn]
      rw [total]
      omega

/-- A thread that writes to the cell next finds it below that. -/
theorem lt_of_writes
    (addsOne : AddsOne cell allowed)
    (cells : Cell → Nat)
    {turns : List (Thread × Action Cell Nat)}
    (begins :
      ∀ turn ∈ turns, ∀ program,
        turn.2 = .write program → ∀ access ∈ program, allowed access)
    {thread : Thread}
    {change : Nat → Nat}
    {rest : List (Access Cell Nat)}
    (writes :
      (run (step reads) (State.initial cells) turns).phase thread =
        .writing (.modify cell change :: rest)) :
    (run (step reads) (State.initial cells) turns).cells cell <
      cells cell + begun cell turns := by
  have inside :
      ∀ turn ∈ turns,
        turn.1 ∈ insert thread (turns.map Prod.fst).toFinset := by
    intro turn member
    simp [List.mem_map_of_mem member]
  have counted :=
    @run_counted Thread Cell _ allowed cell reads _ addsOne cells turns begins
      _ inside
  have pending :
      1 ≤ ((run (step reads) (State.initial cells) turns).phase
        thread).pending cell := by
    rw [writes]
    simp [Phase.pending, Access.writesTo]
  rw [← Finset.add_sum_erase _ _ (Finset.mem_insert_self thread _)]
    at counted
  omega

end Counts

end SharedBudgets
