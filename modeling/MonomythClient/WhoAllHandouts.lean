import MonomythClient.HandoutQueues
import MonomythClient.WhoAllQueue

namespace MonomythClient.WhoAllResponse

open HandoutQueues

/-!
# Handing out the players of a response

The queue of who-all entries is an array with a count and a cursor.  Packets
begin a new listing and append to it, lookups consume from it, and the three
functions may be called in any order.  This module embeds the array with its
two indices, shows that it behaves as a queue that hands out what has a name,
and carries over what is known of such queues.
-/

/-- `g_who_all_class_display_entries` with its count and cursor; a slot that no
entry was written to is not active. -/
structure EntryBuffer where
  entries : List (Option WhoAllClassDisplayEntry)
  count : Nat
  cursor : Nat
  deriving DecidableEq, Repr

/-- What `BeginWhoAllClassDisplayEntriesCapture` leaves, and what the process
starts with. -/
def EntryBuffer.cleared : EntryBuffer where
  entries := List.replicate kWhoAllClassDisplayEntryCaptureCap none
  count := 0
  cursor := 0

/-- The arguments of `AppendWhoAllClassDisplayEntry`; the name is one that
`TryReadCString` read, so no NUL is in it. -/
structure AppendedPlayer where
  activation : UInt64
  receiveSequence : UInt64
  responseIndex : UInt64
  entryIndex : UInt32
  nativeClassId : UInt32
  name : List UInt8
  terminated : 0 ∉ name
  deriving Repr

/-- The entry that it writes. -/
def AppendedPlayer.entry (player : AppendedPlayer) :
    WhoAllClassDisplayEntry :=
  let copyLength := min player.name.length (kWhoAllEntryNameBytes - 1)
  {
    nameTruncated := decide (copyLength < player.name.length)
    activation := player.activation
    receiveSequence := player.receiveSequence
    responseIndex := player.responseIndex
    entryIndex := player.entryIndex
    nativeClassId := player.nativeClassId
    name := player.name.take copyLength
  }

/-- `AppendWhoAllClassDisplayEntry`. -/
def EntryBuffer.append
    (buffer : EntryBuffer)
    (player : AppendedPlayer) :
    EntryBuffer :=
  if buffer.entries.length ≤ buffer.count then
    buffer
  else
    { buffer with
      entries := buffer.entries.set buffer.count (some player.entry)
      count := buffer.count + 1 }

/-- The loop of `TryConsumeWhoAllClassDisplayEntry`, as long as the cursor is
below the count. -/
def nextActive (entries : List (Option WhoAllClassDisplayEntry)) :
    Nat → Nat → Nat × Option WhoAllClassDisplayEntry
  | 0, cursor => (cursor, none)
  | remaining + 1, cursor =>
      match entries[cursor]? with
      | some (some candidate) =>
          if candidate.name = [] then
            nextActive entries remaining (cursor + 1)
          else
            (cursor + 1, some candidate)
      | _ => nextActive entries remaining (cursor + 1)

/-- `TryConsumeWhoAllClassDisplayEntry`. -/
def EntryBuffer.consume (buffer : EntryBuffer) :
    EntryBuffer × Option WhoAllClassDisplayEntry :=
  let (cursor, entry) :=
    nextActive buffer.entries (buffer.count - buffer.cursor) buffer.cursor
  ({ buffer with cursor := cursor }, entry)

/-- A call of one of the three functions. -/
inductive QueueCall where
  | begun
  | appended (player : AppendedPlayer)
  | consumed
  deriving Repr

/-- What a call makes of the buffer. -/
def callStep (buffer : EntryBuffer) : QueueCall → EntryBuffer
  | .begun => .cleared
  | .appended player => buffer.append player
  | .consumed => buffer.consume.1

/-- The entries that a call hands out. -/
def callHandsOut (buffer : EntryBuffer) :
    QueueCall → List WhoAllClassDisplayEntry
  | .consumed => buffer.consume.2.toList
  | _ => []

/-- The entry that a call captures. -/
def QueueCall.entry? : QueueCall → Option WhoAllClassDisplayEntry
  | .appended player => some player.entry
  | _ => none

/-! ## The queue in the buffer -/

/-- The call, as one on a queue. -/
def QueueCall.onQueue : QueueCall → Call WhoAllClassDisplayEntry
  | .begun => .begun
  | .appended player => .offered player.entry
  | .consumed => .requested

/-- The queue that the filled slots and the cursor are. -/
structure EntryBuffer.Represents
    (buffer : EntryBuffer)
    (queue : Queue WhoAllClassDisplayEntry) :
    Prop where
  within : queue.Within kWhoAllClassDisplayEntryCaptureCap
  entries :
    buffer.entries =
      queue.items.map some ++
        List.replicate
          (kWhoAllClassDisplayEntryCaptureCap - queue.items.length) none
  count : buffer.count = queue.items.length
  cursor : buffer.cursor = queue.cursor

theorem represents_cleared : EntryBuffer.cleared.Represents .empty :=
  ⟨within_empty, rfl, rfl, rfl⟩

/-- The loop over the slots is the one over the queue. -/
theorem nextActive_eq
    (earlier ahead : List WhoAllClassDisplayEntry)
    (unused : List (Option WhoAllClassDisplayEntry)) :
    nextActive ((earlier ++ ahead).map some ++ unused) ahead.length
        earlier.length =
      nextWanted WhoAllClassDisplayEntry.named ahead earlier.length := by
  induction ahead generalizing earlier with
  | nil =>
      rfl
  | cons candidate later inductionHypothesis =>
      have atCursor :
          ((earlier ++ candidate :: later).map some ++
              unused)[earlier.length]? =
            some (some candidate) := by
        simp
      have next := inductionHypothesis (earlier ++ [candidate])
      rw [List.append_assoc, List.singleton_append, List.length_append,
        List.length_singleton] at next
      rw [List.length_cons, nextActive, atCursor, nextWanted]
      by_cases unnamed : candidate.name = []
      · have notWanted : candidate.named = false := by
          simp [WhoAllClassDisplayEntry.named, unnamed]
        simp only [unnamed, notWanted, if_true, Bool.false_eq_true, if_false]
        exact next
      · have isWanted : candidate.named = true := by
          simp [WhoAllClassDisplayEntry.named, unnamed]
        simp only [unnamed, isWanted, if_true, if_false]

/-- Consuming from the buffer is a request to the queue. -/
theorem EntryBuffer.Represents.consume
    {buffer : EntryBuffer}
    {queue : Queue WhoAllClassDisplayEntry}
    (represents : buffer.Represents queue) :
    nextActive buffer.entries (buffer.count - buffer.cursor) buffer.cursor =
      nextWanted WhoAllClassDisplayEntry.named
        (queue.items.drop queue.cursor) queue.cursor := by
  have passedLength : (queue.items.take queue.cursor).length = queue.cursor :=
    List.length_take_of_le represents.within.cursor
  have same :=
    nextActive_eq (queue.items.take queue.cursor)
      (queue.items.drop queue.cursor)
      (List.replicate
        (kWhoAllClassDisplayEntryCaptureCap - queue.items.length) none)
  rw [List.take_append_drop, passedLength, List.length_drop] at same
  rw [represents.entries, represents.count, represents.cursor]
  exact same

/-- The buffer always has all of its slots. -/
theorem EntryBuffer.Represents.capacity
    {buffer : EntryBuffer}
    {queue : Queue WhoAllClassDisplayEntry}
    (represents : buffer.Represents queue) :
    buffer.entries.length = kWhoAllClassDisplayEntryCaptureCap := by
  have fits := represents.within.items
  rw [represents.entries, List.length_append, List.length_map,
    List.length_replicate]
  omega

/-- Appending to the buffer offers an entry to the queue. -/
theorem EntryBuffer.Represents.append
    {buffer : EntryBuffer}
    {queue : Queue WhoAllClassDisplayEntry}
    (represents : buffer.Represents queue)
    (player : AppendedPlayer) :
    (buffer.append player).Represents
      (queue.offer kWhoAllClassDisplayEntryCaptureCap player.entry) := by
  rw [EntryBuffer.append, Queue.offer, represents.capacity,
    represents.count]
  split
  next isFull =>
    exact represents
  next room =>
    have oneSlot :
        kWhoAllClassDisplayEntryCaptureCap - queue.items.length =
          kWhoAllClassDisplayEntryCaptureCap - (queue.items.length + 1) +
            1 := by
      omega
    have cursorInside := represents.within.cursor
    refine ⟨⟨?_, ?_⟩, ?_, ?_, represents.cursor⟩
    · rw [List.length_append]
      exact Nat.le_trans cursorInside (Nat.le_add_right _ _)
    · rw [List.length_append, List.length_singleton]
      omega
    · change buffer.entries.set queue.items.length _ = _
      rw [represents.entries, oneSlot, List.replicate_succ,
        List.set_append_right _ _ (by rw [List.length_map]),
        List.length_map, Nat.sub_self, List.length_append,
        List.length_singleton, List.map_append]
      simp
    · rw [List.length_append, List.length_singleton]

/-- Every call keeps the buffer in step with the queue. -/
theorem EntryBuffer.Represents.step
    {buffer : EntryBuffer}
    {queue : Queue WhoAllClassDisplayEntry}
    (represents : buffer.Represents queue)
    (call : QueueCall) :
    (callStep buffer call).Represents
        (HandoutQueues.step kWhoAllClassDisplayEntryCaptureCap
          WhoAllClassDisplayEntry.named queue call.onQueue) ∧
      callHandsOut buffer call =
        handsOut WhoAllClassDisplayEntry.named queue call.onQueue := by
  cases call with
  | begun =>
      exact ⟨represents_cleared, rfl⟩
  | appended player =>
      exact ⟨represents.append player, rfl⟩
  | consumed =>
      obtain ⟨_, _, within, _⟩ :=
        represents.within.after WhoAllClassDisplayEntry.named
      have consumed := represents.consume
      refine ⟨⟨within, represents.entries, represents.count, ?_⟩, ?_⟩
      · exact congrArg Prod.fst consumed
      · exact congrArg (fun next => next.2.toList) consumed

/-- So a run of calls on the buffer is one on the queue. -/
theorem EntryBuffer.Represents.run
    {buffer : EntryBuffer}
    {queue : Queue WhoAllClassDisplayEntry}
    (represents : buffer.Represents queue)
    (calls : List QueueCall) :
    (Runs.run callStep buffer calls).Represents
        (Runs.run
          (HandoutQueues.step kWhoAllClassDisplayEntryCaptureCap
            WhoAllClassDisplayEntry.named) queue
          (calls.map QueueCall.onQueue)) ∧
      Runs.emitted callStep callHandsOut buffer calls =
        Runs.emitted
          (HandoutQueues.step kWhoAllClassDisplayEntryCaptureCap
            WhoAllClassDisplayEntry.named)
          (handsOut WhoAllClassDisplayEntry.named) queue
          (calls.map QueueCall.onQueue) := by
  induction calls generalizing buffer queue with
  | nil =>
      exact ⟨represents, rfl⟩
  | cons call later inductionHypothesis =>
      obtain ⟨next, sameHandedOut⟩ := represents.step call
      obtain ⟨atEnd, sameLater⟩ := inductionHypothesis next
      refine ⟨atEnd, ?_⟩
      rw [List.map_cons, Runs.emitted, Runs.emitted, sameHandedOut, sameLater]

/-! ## The observer's state -/

/-- The queue in the state of the observer. -/
def State.queue (state : State) : Queue WhoAllClassDisplayEntry where
  items := state.entries
  cursor := state.entryCursor

theorem nextNamedEntry_eq
    (entries : List WhoAllClassDisplayEntry)
    (cursor : Nat) :
    nextNamedEntry entries cursor =
      nextWanted WhoAllClassDisplayEntry.named entries cursor := by
  induction entries generalizing cursor with
  | nil =>
      rfl
  | cons candidate later inductionHypothesis =>
      rw [nextNamedEntry, nextWanted, inductionHypothesis]
      by_cases unnamed : candidate.name = []
      · simp [WhoAllClassDisplayEntry.named, unnamed]
      · simp [WhoAllClassDisplayEntry.named, unnamed]

/-- Appending to that state offers an entry to its queue. -/
theorem State.queue_appended (state : State) (player : AppendedPlayer) :
    (appendWhoAllClassDisplayEntry player.activation player.receiveSequence
        player.responseIndex player.entryIndex player.nativeClassId
        player.name state).queue =
      state.queue.offer kWhoAllClassDisplayEntryCaptureCap player.entry := by
  rw [appendWhoAllClassDisplayEntry, Queue.offer]
  by_cases isFull :
      kWhoAllClassDisplayEntryCaptureCap ≤ state.entries.length
  · rw [if_pos isFull, if_pos (show _ ≤ state.queue.items.length from isFull)]
  · rw [if_neg isFull,
      if_neg (show ¬ _ ≤ state.queue.items.length from isFull)]
    rfl

/-- Consuming from it is a request to its queue. -/
theorem State.queue_consumed (state : State) :
    (tryConsumeWhoAllClassDisplayEntry state).1.queue =
        state.queue.after WhoAllClassDisplayEntry.named ∧
      (tryConsumeWhoAllClassDisplayEntry state).2 =
        state.queue.answer WhoAllClassDisplayEntry.named := by
  constructor
  · rw [tryConsumeWhoAllClassDisplayEntry, nextNamedEntry_eq]
    rfl
  · rw [tryConsumeWhoAllClassDisplayEntry, nextNamedEntry_eq]
    rfl

/-- What a call makes of the observer's state. -/
def stateStep (state : State) : QueueCall → State
  | .begun => beginWhoAllClassDisplayEntriesCapture state
  | .appended player =>
      appendWhoAllClassDisplayEntry player.activation player.receiveSequence
        player.responseIndex player.entryIndex player.nativeClassId
        player.name state
  | .consumed => (tryConsumeWhoAllClassDisplayEntry state).1

/-- The entries that it hands out there. -/
def stateHandsOut (state : State) :
    QueueCall → List WhoAllClassDisplayEntry
  | .consumed => (tryConsumeWhoAllClassDisplayEntry state).2.toList
  | _ => []

/-- A call on the state is one on its queue. -/
theorem State.queue_step (state : State) (call : QueueCall) :
    (stateStep state call).queue =
        HandoutQueues.step kWhoAllClassDisplayEntryCaptureCap
          WhoAllClassDisplayEntry.named state.queue call.onQueue ∧
      stateHandsOut state call =
        handsOut WhoAllClassDisplayEntry.named state.queue call.onQueue := by
  cases call with
  | begun =>
      exact ⟨rfl, rfl⟩
  | appended player =>
      exact ⟨state.queue_appended player, rfl⟩
  | consumed =>
      obtain ⟨after, answer⟩ := state.queue_consumed
      exact ⟨after, congrArg Option.toList answer⟩

/-- The observer's state and the array are two views of one queue: in every
order of calls they hold the same entries and hand out the same. -/
theorem observer_queue_is_buffer
    {state : State}
    {buffer : EntryBuffer}
    (represents : buffer.Represents state.queue)
    (calls : List QueueCall) :
    (Runs.run callStep buffer calls).Represents
        (Runs.run stateStep state calls).queue ∧
      Runs.emitted callStep callHandsOut buffer calls =
        Runs.emitted stateStep stateHandsOut state calls := by
  induction calls generalizing state buffer with
  | nil =>
      exact ⟨represents, rfl⟩
  | cons call later inductionHypothesis =>
      obtain ⟨next, sameHandedOut⟩ := represents.step call
      obtain ⟨sameQueue, sameOutput⟩ := state.queue_step call
      rw [← sameQueue] at next
      obtain ⟨atEnd, sameLater⟩ := inductionHypothesis next
      refine ⟨atEnd, ?_⟩
      rw [Runs.emitted, Runs.emitted, sameHandedOut, sameLater, sameOutput]

/-! ## Every order of calls -/

/-- No filled slot from the cursor on has a name. -/
def EntryBuffer.Exhausted (buffer : EntryBuffer) : Prop :=
  ∀ entry,
    some entry ∈ (buffer.entries.take buffer.count).drop buffer.cursor →
      entry.name = []

/-- An exhausted buffer is an exhausted queue. -/
theorem EntryBuffer.Represents.answer_exhausted
    {buffer : EntryBuffer}
    {queue : Queue WhoAllClassDisplayEntry}
    (represents : buffer.Represents queue)
    (exhausted : buffer.Exhausted) :
    queue.answer WhoAllClassDisplayEntry.named = none := by
  have filledSlots :
      (buffer.entries.take buffer.count).drop buffer.cursor =
        (queue.items.drop queue.cursor).map some := by
    rw [represents.entries, represents.count, represents.cursor,
      List.take_left' (List.length_map _), List.map_drop]
  have nothing :
      (queue.items.drop queue.cursor).filter
        WhoAllClassDisplayEntry.named = [] := by
    rw [List.filter_eq_nil_iff]
    intro entry member
    have unnamed := exhausted entry
      (filledSlots ▸ List.mem_map_of_mem member)
    simp [WhoAllClassDisplayEntry.named, unnamed]
  rw [represents.within.ahead WhoAllClassDisplayEntry.named,
    List.append_eq_nil_iff] at nothing
  exact Option.toList_eq_nil_iff.mp nothing.1

/-- What a round of calls on the buffer is on its queue. -/
theorem filterMap_onQueue (calls : List QueueCall) :
    (calls.map QueueCall.onQueue).filterMap Call.item? =
      calls.filterMap QueueCall.entry? := by
  rw [List.filterMap_map]
  congr 1
  funext call
  cases call <;> rfl

/-- A run that ends with a new response leaves the buffer cleared. -/
theorem run_begun
    (before : List QueueCall) :
    Runs.run callStep .cleared (before ++ [.begun]) = .cleared := by
  rw [Runs.run_append]
  rfl

/-- From a cleared buffer on, the entries handed out are the first of the
named ones that were captured. -/
theorem handedOut_cleared
    {calls : List QueueCall}
    (sameResponse : .begun ∉ calls) :
    Runs.emitted callStep callHandsOut .cleared calls <+:
      ((calls.filterMap QueueCall.entry?).take
        kWhoAllClassDisplayEntryCaptureCap).filter
          WhoAllClassDisplayEntry.named := by
  have sameRound : Call.begun ∉ calls.map QueueCall.onQueue := by
    intro member
    obtain ⟨call, called, isBegun⟩ := List.mem_map.mp member
    cases call with
    | begun =>
        exact sameResponse called
    | appended player =>
        cases isBegun
    | consumed =>
        cases isBegun
  rw [(represents_cleared.run calls).2, ← filterMap_onQueue]
  exact handedOut_first sameRound

/-- Consuming from an exhausted buffer hands out nothing, and nothing that is
handed out later tells that it was tried. -/
theorem EntryBuffer.Represents.exhausted
    {buffer : EntryBuffer}
    {queue : Queue WhoAllClassDisplayEntry}
    (represents : buffer.Represents queue)
    (exhausted : buffer.Exhausted) :
    buffer.consume.2 = none ∧
      buffer.consume.1.entries = buffer.entries ∧
      buffer.consume.1.count = buffer.count ∧
      ∀ later,
        Runs.emitted callStep callHandsOut buffer.consume.1 later =
          Runs.emitted callStep callHandsOut buffer later := by
  have nothing := represents.answer_exhausted exhausted
  have sameAhead := represents.within.exhausted nothing
  have consumed : buffer.consume.1.Represents (queue.after _) :=
    (represents.step .consumed).1
  refine ⟨?_, rfl, rfl, fun later => ?_⟩
  · exact (congrArg Prod.snd represents.consume).trans nothing
  · rw [(consumed.run later).2, (represents.run later).2]
    exact sameAhead.emitted _

/-- In every order of calls the cursor stays within the count and the count
within the capacity.  From the start or a new response up to the next one, the
entries handed out are the first of the named ones that were captured since,
each once and in order.  Consuming from an exhausted buffer fails and changes
nothing that can be observed. -/
theorem whoAllQueue_handouts (calls : List QueueCall) :
    (Runs.run callStep .cleared calls).cursor ≤
        (Runs.run callStep .cleared calls).count ∧
      (Runs.run callStep .cleared calls).count ≤
        kWhoAllClassDisplayEntryCaptureCap ∧
      (Runs.run callStep .cleared calls).entries.length =
        kWhoAllClassDisplayEntryCaptureCap ∧
      (∀ earlier later,
        calls = earlier ++ later →
          (earlier = [] ∨ ∃ before, earlier = before ++ [.begun]) →
          .begun ∉ later →
            Runs.emitted callStep callHandsOut
                (Runs.run callStep .cleared earlier) later <+:
              ((later.filterMap QueueCall.entry?).take
                kWhoAllClassDisplayEntryCaptureCap).filter
                  WhoAllClassDisplayEntry.named) ∧
      ((Runs.run callStep .cleared calls).Exhausted →
        (Runs.run callStep .cleared calls).consume.2 = none ∧
          (Runs.run callStep .cleared calls).consume.1.entries =
            (Runs.run callStep .cleared calls).entries ∧
          (Runs.run callStep .cleared calls).consume.1.count =
            (Runs.run callStep .cleared calls).count ∧
          ∀ later,
            Runs.emitted callStep callHandsOut
                (Runs.run callStep .cleared calls).consume.1 later =
              Runs.emitted callStep callHandsOut
                (Runs.run callStep .cleared calls) later) := by
  have represents := (represents_cleared.run calls).1
  refine ⟨?_, ?_, represents.capacity, ?_, represents.exhausted⟩
  · rw [represents.cursor, represents.count]
    exact represents.within.cursor
  · rw [represents.count]
    exact represents.within.items
  · intro earlier later _ responseBegins sameResponse
    have cleared : Runs.run callStep .cleared earlier = .cleared := by
      cases responseBegins with
      | inl atStart =>
          rw [atStart]
          rfl
      | inr begun =>
          obtain ⟨before, rfl⟩ := begun
          exact run_begun before
    rw [cleared]
    exact handedOut_cleared sameResponse

end MonomythClient.WhoAllResponse
