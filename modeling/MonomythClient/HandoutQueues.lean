import MonomythClient.Runs

namespace HandoutQueues

open Runs

/-!
# Queues that hand out what is wanted

Items are offered to a queue as long as it has room, and handed out from its
front by a cursor that passes over the unwanted ones.  A new round empties the
queue.  Whatever the order of these calls, what a round hands out is a prefix
of the wanted items it was offered.
-/

variable {Item : Type}

/-- The items of a round, and how many of them were passed. -/
structure Queue (Item : Type) where
  items : List Item
  cursor : Nat

/-- The queue at the start of a round. -/
def Queue.empty : Queue Item where
  items := []
  cursor := 0

/-- An item is queued if there is room for it. -/
def Queue.offer
    (capacity : Nat)
    (queue : Queue Item)
    (item : Item) :
    Queue Item :=
  if capacity ≤ queue.items.length then
    queue
  else
    { queue with items := queue.items ++ [item] }

/-- The next wanted item, and the cursor behind it. -/
def nextWanted (wanted : Item → Bool) : List Item → Nat → Nat × Option Item
  | [], cursor => (cursor, none)
  | candidate :: later, cursor =>
      if wanted candidate then
        (cursor + 1, some candidate)
      else
        nextWanted wanted later (cursor + 1)

/-- What a request leaves of the queue. -/
def Queue.after (wanted : Item → Bool) (queue : Queue Item) : Queue Item :=
  { queue with
    cursor :=
      (nextWanted wanted (queue.items.drop queue.cursor) queue.cursor).1 }

/-- What a request is answered with. -/
def Queue.answer (wanted : Item → Bool) (queue : Queue Item) : Option Item :=
  (nextWanted wanted (queue.items.drop queue.cursor) queue.cursor).2

/-- A call of the producer, which begins a round or offers an item, or of the
consumer. -/
inductive Call (Item : Type) where
  | begun
  | offered (item : Item)
  | requested
  deriving DecidableEq, Repr

section Calls

variable (capacity : Nat) (wanted : Item → Bool)

/-- What a call makes of the queue. -/
def step (queue : Queue Item) : Call Item → Queue Item
  | .begun => .empty
  | .offered item => queue.offer capacity item
  | .requested => queue.after wanted

/-- What a call hands out. -/
def handsOut (queue : Queue Item) : Call Item → List Item
  | .requested => (queue.answer wanted).toList
  | _ => []

/-- The item that a call offers. -/
def Call.item? : Call Item → Option Item
  | .offered item => some item
  | _ => none

variable {capacity wanted}

/-! ## Requests -/

variable (wanted) in
/-- A request passes the items up to the one it hands out. -/
theorem nextWanted_spec (items : List Item) (cursor : Nat) :
    ∃ passed ≤ items.length,
      (nextWanted wanted items cursor).1 = cursor + passed ∧
        (items.take passed).filter wanted =
          (nextWanted wanted items cursor).2.toList ∧
        ((nextWanted wanted items cursor).2 = none →
          passed = items.length) := by
  induction items generalizing cursor with
  | nil =>
      exact ⟨0, Nat.le_refl 0, rfl, rfl, fun _ => rfl⟩
  | cons candidate later inductionHypothesis =>
      rw [nextWanted]
      by_cases isWanted : wanted candidate = true
      · rw [if_pos isWanted]
        refine ⟨1, Nat.succ_le_succ (Nat.zero_le _), rfl, ?_, ?_⟩
        · rw [List.take_succ_cons, List.take_zero,
            List.filter_cons_of_pos isWanted, List.filter_nil]
          rfl
        · intro nothing
          cases nothing
      · rw [if_neg isWanted]
        obtain ⟨passed, inside, moved, handed, exhausted⟩ :=
          inductionHypothesis (cursor + 1)
        refine ⟨passed + 1, Nat.succ_le_succ inside, ?_, ?_, ?_⟩
        · rw [moved, Nat.add_assoc, Nat.add_comm 1 passed]
        · rw [List.take_succ_cons, List.filter_cons_of_neg isWanted, handed]
        · intro nothing
          rw [exhausted nothing, List.length_cons]

/-- The cursor of a queue is inside its items, and these fit. -/
structure Queue.Within (capacity : Nat) (queue : Queue Item) : Prop where
  cursor : queue.cursor ≤ queue.items.length
  items : queue.items.length ≤ capacity

theorem within_empty : (Queue.empty : Queue Item).Within capacity :=
  ⟨Nat.le_refl 0, Nat.zero_le capacity⟩

variable (wanted) in
/-- A request moves the cursor over the items it passes. -/
theorem Queue.Within.after
    {queue : Queue Item}
    (within : queue.Within capacity) :
    ∃ passed,
      (queue.after wanted).cursor = queue.cursor + passed ∧
        (queue.after wanted).Within capacity ∧
        (queue.items.take (queue.cursor + passed)).filter wanted =
          (queue.items.take queue.cursor).filter wanted ++
            (queue.answer wanted).toList ∧
        (queue.answer wanted = none →
          queue.cursor + passed = queue.items.length) := by
  obtain ⟨passed, inside, moved, handed, exhausted⟩ :=
    nextWanted_spec wanted (queue.items.drop queue.cursor)
      queue.cursor
  rw [List.length_drop] at inside exhausted
  have cursorInside := within.cursor
  refine ⟨passed, moved, ⟨?_, within.items⟩, ?_, fun nothing => ?_⟩
  · rw [Queue.after, moved]
    change queue.cursor + passed ≤ queue.items.length
    omega
  · rw [List.take_add, List.filter_append, handed]
    rfl
  · have all := exhausted nothing
    omega

/-! ## Rounds -/

/-- What a round was offered and has handed out so far. -/
structure Queue.Round
    (capacity : Nat)
    (wanted : Item → Bool)
    (queue : Queue Item)
    (offered handedOut : List Item) :
    Prop where
  within : queue.Within capacity
  items : queue.items = offered.take capacity
  handed : handedOut = (queue.items.take queue.cursor).filter wanted

theorem round_empty : Queue.empty.Round capacity wanted [] [] :=
  ⟨within_empty, (List.take_nil).symm, rfl⟩

/-- Each call but a beginning goes on with the round. -/
theorem Queue.Round.step
    {queue : Queue Item}
    {offered handedOut : List Item}
    (round : queue.Round capacity wanted offered handedOut)
    {call : Call Item}
    (sameRound : call ≠ .begun) :
    (step capacity wanted queue call).Round capacity wanted
      (offered ++ call.item?.toList)
      (handedOut ++ handsOut wanted queue call) := by
  cases call with
  | begun =>
      exact (sameRound rfl).elim
  | offered item =>
      have handsNothing :
          handedOut ++ handsOut wanted queue (.offered item) = handedOut :=
        List.append_nil handedOut
      rw [HandoutQueues.step, Queue.offer, handsNothing]
      split
      next isFull =>
        have allTaken : capacity ≤ offered.length := by
          rw [round.items, List.length_take] at isFull
          omega
        refine ⟨round.within, ?_, round.handed⟩
        rw [List.take_append_of_le_length allTaken]
        exact round.items
      next room =>
        have cursorInside := round.within.cursor
        have noneCut : offered.length ≤ capacity := by
          rw [round.items, List.length_take] at room
          omega
        have isOffered : queue.items = offered := by
          rw [round.items, List.take_of_length_le noneCut]
        have fits : (offered ++ [item]).length ≤ capacity := by
          rw [← isOffered, List.length_append, List.length_singleton]
          omega
        refine ⟨⟨?_, ?_⟩, ?_, ?_⟩
        · exact Nat.le_trans cursorInside
            (by rw [List.length_append]; exact Nat.le_add_right _ _)
        · rw [isOffered]
          exact fits
        · rw [isOffered]
          exact (List.take_of_length_le fits).symm
        · rw [round.handed]
          exact congrArg (List.filter wanted)
            (List.take_append_of_le_length cursorInside).symm
  | requested =>
      obtain ⟨passed, moved, within, handed, _⟩ := round.within.after wanted
      refine ⟨within, ?_, ?_⟩
      · exact round.items.trans
          (congrArg (List.take capacity) (List.append_nil offered)).symm
      · rw [round.handed, HandoutQueues.step, moved]
        exact handed.symm

/-- A round hands out the wanted items it passed. -/
theorem round_run
    {queue : Queue Item}
    {offered handedOut : List Item}
    (round : queue.Round capacity wanted offered handedOut)
    {calls : List (Call Item)}
    (sameRound : Call.begun ∉ calls) :
    (run (step capacity wanted) queue calls).Round capacity wanted
      (offered ++ calls.filterMap Call.item?)
      (handedOut ++
        emitted (step capacity wanted) (handsOut wanted) queue calls) := by
  induction calls generalizing queue offered handedOut with
  | nil =>
      rw [List.filterMap_nil, emitted, List.append_nil, List.append_nil]
      exact round
  | cons call later inductionHypothesis =>
      rw [List.mem_cons, not_or] at sameRound
      have next :=
        inductionHypothesis (round.step (Ne.symm sameRound.1)) sameRound.2
      have oneMore :
          (call :: later).filterMap Call.item? =
            call.item?.toList ++ later.filterMap Call.item? := by
        cases call <;> rfl
      rw [oneMore, emitted, ← List.append_assoc, ← List.append_assoc]
      exact next

/-- So that is a prefix of the wanted items offered. -/
theorem handedOut_first
    {calls : List (Call Item)}
    (sameRound : Call.begun ∉ calls) :
    emitted (step capacity wanted) (handsOut wanted) .empty calls <+:
      ((calls.filterMap Call.item?).take capacity).filter wanted := by
  have start : Queue.empty.Round capacity wanted [] [] := round_empty
  have round := round_run start sameRound
  rw [List.nil_append, List.nil_append] at round
  rw [round.handed, ← round.items]
  exact (List.take_prefix _ _).filter wanted

/-! ## Exhausted queues -/

variable (wanted) in
/-- What is ahead of the cursor decides the answer, and is what a request
leaves ahead of it but for that answer. -/
theorem Queue.Within.ahead
    {queue : Queue Item}
    (within : queue.Within capacity) :
    (queue.items.drop queue.cursor).filter wanted =
      (queue.answer wanted).toList ++
        ((queue.after wanted).items.drop
          (queue.after wanted).cursor).filter wanted := by
  obtain ⟨passed, moved, _, handed, _⟩ := within.after wanted
  have whole := List.take_append_drop (queue.cursor + passed) queue.items
  have aheadIs :
      (queue.items.take queue.cursor).filter wanted ++
          (queue.items.drop queue.cursor).filter wanted =
        (queue.items.take queue.cursor).filter wanted ++
          ((queue.answer wanted).toList ++
            (queue.items.drop (queue.cursor + passed)).filter wanted) := by
    rw [← List.append_assoc, ← handed, ← List.filter_append,
      ← List.filter_append, whole, List.take_append_drop]
  rw [moved]
  exact List.append_cancel_left aheadIs

/-- A request to an exhausted queue leaves nothing wanted behind it. -/
theorem Queue.Within.nothingAhead
    {queue : Queue Item}
    (within : queue.Within capacity)
    (exhausted : queue.answer wanted = none) :
    (queue.items.drop queue.cursor).filter wanted = [] := by
  obtain ⟨passed, moved, _, _, all⟩ := within.after wanted
  rw [within.ahead wanted, exhausted, moved, all exhausted]
  exact congrArg (List.filter wanted) (List.drop_length)

/-- Two queues that hand out the same from now on. -/
structure SameAhead
    (capacity : Nat)
    (wanted : Item → Bool)
    (left right : Queue Item) :
    Prop where
  leftWithin : left.Within capacity
  rightWithin : right.Within capacity
  items : left.items = right.items
  ahead :
    (left.items.drop left.cursor).filter wanted =
      (right.items.drop right.cursor).filter wanted

/-- They answer a request alike. -/
theorem SameAhead.answer
    {left right : Queue Item}
    (same : SameAhead capacity wanted left right) :
    left.answer wanted = right.answer wanted := by
  have leftAhead := same.leftWithin.ahead wanted
  have rightAhead := same.rightWithin.ahead wanted
  have bothAhead := same.ahead
  cases leftAnswer : left.answer wanted with
  | none =>
      rw [same.leftWithin.nothingAhead leftAnswer, rightAhead] at bothAhead
      exact (Option.toList_eq_nil_iff.mp
        (List.append_eq_nil_iff.mp bothAhead.symm).1).symm
  | some item =>
      cases rightAnswer : right.answer wanted with
      | none =>
          rw [same.rightWithin.nothingAhead rightAnswer, leftAhead,
            leftAnswer] at bothAhead
          cases bothAhead
      | some other =>
          rw [leftAhead, rightAhead, leftAnswer, rightAnswer] at bothAhead
          exact congrArg some (List.cons.inj bothAhead).1

/-- Every call keeps them alike. -/
theorem SameAhead.step
    {left right : Queue Item}
    (same : SameAhead capacity wanted left right)
    (call : Call Item) :
    SameAhead capacity wanted (step capacity wanted left call)
      (step capacity wanted right call) := by
  cases call with
  | begun =>
      exact ⟨within_empty, within_empty, rfl, rfl⟩
  | offered item =>
      rw [HandoutQueues.step, HandoutQueues.step, Queue.offer, Queue.offer,
        same.items]
      split
      next isFull =>
        exact same
      next room =>
        have leftInside := same.leftWithin.cursor
        have rightInside := same.rightWithin.cursor
        rw [same.items] at leftInside
        have longer :
            right.items.length ≤ (right.items ++ [item]).length := by
          rw [List.length_append]
          exact Nat.le_add_right _ _
        have fits : (right.items ++ [item]).length ≤ capacity := by
          rw [List.length_append, List.length_singleton]
          omega
        refine ⟨⟨Nat.le_trans leftInside longer, fits⟩,
          ⟨Nat.le_trans rightInside longer, fits⟩, rfl, ?_⟩
        change ((right.items ++ [item]).drop left.cursor).filter wanted =
          ((right.items ++ [item]).drop right.cursor).filter wanted
        rw [List.drop_append_of_le_length leftInside,
          List.drop_append_of_le_length rightInside, List.filter_append,
          List.filter_append, ← same.ahead, same.items]
  | requested =>
      obtain ⟨_, _, leftWithin, _⟩ := same.leftWithin.after wanted
      obtain ⟨_, _, rightWithin, _⟩ :=
        same.rightWithin.after wanted
      refine ⟨leftWithin, rightWithin, same.items, ?_⟩
      have bothAhead := same.ahead
      rw [same.leftWithin.ahead, same.rightWithin.ahead,
        same.answer] at bothAhead
      exact List.append_cancel_left bothAhead

/-- So they hand out the same in every run. -/
theorem SameAhead.emitted
    {left right : Queue Item}
    (same : SameAhead capacity wanted left right)
    (calls : List (Call Item)) :
    emitted (HandoutQueues.step capacity wanted) (handsOut wanted) left
        calls =
      emitted (HandoutQueues.step capacity wanted) (handsOut wanted) right
        calls := by
  induction calls generalizing left right with
  | nil =>
      rfl
  | cons call later inductionHypothesis =>
      have sameNow : handsOut wanted left call = handsOut wanted right call := by
        cases call with
        | requested =>
            exact congrArg Option.toList same.answer
        | begun =>
            rfl
        | offered =>
            rfl
      rw [Runs.emitted, Runs.emitted, sameNow,
        inductionHypothesis (same.step call)]

/-- A request to an exhausted queue changes nothing that can be observed. -/
theorem Queue.Within.exhausted
    {queue : Queue Item}
    (within : queue.Within capacity)
    (nothing : queue.answer wanted = none) :
    SameAhead capacity wanted (queue.after wanted) queue := by
  obtain ⟨_, _, afterWithin, _⟩ := within.after wanted
  have ahead := within.ahead wanted
  rw [nothing] at ahead
  exact ⟨afterWithin, within, rfl, ahead.symm⟩

end Calls

end HandoutQueues
