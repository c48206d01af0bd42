import MonomythClient.WhoAllResponse

namespace MonomythClient.WhoAllResponse

open PayloadReader

/-!
# The queue of a who-all response

A captured response leaves its players in the queue, as far as there is room
for them.  The consumer then hands out the players with a name, one after
another.
-/

/-! ## The players of a response -/

/-- Records one behind another, until one cannot be read. -/
def readPlayers (payload : Pointer) (payloadLength : UInt32) :
    Nat → UInt32 → List PlayerRecord
  | 0, _ => []
  | remaining + 1, cursor =>
      match readPlayerRecord payload payloadLength cursor with
      | none => []
      | some (player, cursor) =>
          player :: readPlayers payload payloadLength remaining cursor

/-- The players that a response lists. -/
def responsePlayers (payload : Payload) : List PlayerRecord :=
  match tryReadU32 payload.pointer payload.length 60,
      tryReadU32 payload.pointer payload.length 40 with
  | some playerCount, some _playersInZoneString =>
      readPlayers payload.pointer payload.length playerCount.toNat
        kWhoAllResponseHeaderSize
  | _, _ => []

/-- What is queued of a player, with its place in the response. -/
def queueEntry
    (activation receiveSequence responseIndex : UInt64)
    (listed : PlayerRecord × Nat) :
    WhoAllClassDisplayEntry where
  nameTruncated :=
    decide
      (min listed.1.name.length (kWhoAllEntryNameBytes - 1) <
        listed.1.name.length)
  activation := activation
  receiveSequence := receiveSequence
  responseIndex := responseIndex
  entryIndex := UInt32.ofNat listed.2
  nativeClassId := listed.1.classId
  name :=
    listed.1.name.take
      (min listed.1.name.length (kWhoAllEntryNameBytes - 1))

/-- What is cut off in front was behind the cut, anyway. -/
theorem take_append_of_take
    {Item : Type}
    (limit : Nat)
    (items later : List Item) :
    (items.take limit ++ later).take limit = (items ++ later).take limit := by
  have sameRest : limit - min limit items.length = limit - items.length := by
    omega
  rw [List.take_append, List.take_append, List.take_take, Nat.min_self,
    List.length_take, sameRest]

/-- A player is queued if there is room. -/
theorem entries_appendWhoAllClassDisplayEntry
    (activation receiveSequence responseIndex : UInt64)
    (listed : PlayerRecord × Nat)
    {state : State}
    (fits : state.entries.length ≤ kWhoAllClassDisplayEntryCaptureCap) :
    (appendWhoAllClassDisplayEntry activation receiveSequence responseIndex
        (UInt32.ofNat listed.2) listed.1.classId listed.1.name
        state).entries =
      (state.entries ++
          [queueEntry activation receiveSequence responseIndex listed]).take
        kWhoAllClassDisplayEntryCaptureCap := by
  unfold appendWhoAllClassDisplayEntry
  split
  · rename_i full
    rw [List.take_append_of_le_length full, List.take_of_length_le fits]
  · rename_i room
    rw [List.take_of_length_le]
    · rfl
    · rw [List.length_append, List.length_singleton]
      omega

/-- The record loop queues the players it reads. -/
theorem entries_capturePlayers
    (payload : Pointer)
    (payloadLength : UInt32)
    (activation receiveSequence responseIndex : UInt64)
    (remaining index : Nat)
    (cursor : UInt32)
    {state : State}
    (fits : state.entries.length ≤ kWhoAllClassDisplayEntryCaptureCap) :
    (capturePlayers payload payloadLength activation receiveSequence
        responseIndex remaining (UInt32.ofNat index) cursor state).entries =
      (state.entries ++
          ((readPlayers payload payloadLength remaining cursor).zipIdx
            index).map
            (queueEntry activation receiveSequence responseIndex)).take
        kWhoAllClassDisplayEntryCaptureCap := by
  induction remaining generalizing index cursor state with
  | zero =>
      rw [capturePlayers, readPlayers, List.zipIdx_nil, List.map_nil,
        List.append_nil, List.take_of_length_le fits]
  | succ remaining inductionHypothesis =>
      rw [capturePlayers, readPlayers]
      cases readPlayerRecord payload payloadLength cursor with
      | none =>
          rw [List.zipIdx_nil, List.map_nil, List.append_nil,
            List.take_of_length_le fits]
      | some read =>
          obtain ⟨player, next⟩ := read
          have appended :=
            entries_appendWhoAllClassDisplayEntry activation receiveSequence
              responseIndex (player, index) fits
          have stillFits :
              (appendWhoAllClassDisplayEntry activation receiveSequence
                responseIndex (UInt32.ofNat index) player.classId player.name
                state).entries.length ≤
                kWhoAllClassDisplayEntryCaptureCap := by
            rw [appended, List.length_take]
            exact Nat.min_le_left _ _
          have following :
              UInt32.ofNat index + 1 = UInt32.ofNat (index + 1) := by
            simp
          dsimp only
          rw [following, inductionHypothesis (index + 1) next stillFits,
            appended, take_append_of_take, List.zipIdx_cons,
            List.map_cons, List.append_assoc, List.singleton_append]

/-- It consumes none of them. -/
theorem entryCursor_capturePlayers
    (payload : Pointer)
    (payloadLength : UInt32)
    (activation receiveSequence responseIndex : UInt64)
    (remaining : Nat)
    (index cursor : UInt32)
    (state : State) :
    (capturePlayers payload payloadLength activation receiveSequence
      responseIndex remaining index cursor state).entryCursor =
      state.entryCursor := by
  induction remaining generalizing index cursor state with
  | zero =>
      rfl
  | succ remaining inductionHypothesis =>
      rw [capturePlayers]
      cases readPlayerRecord payload payloadLength cursor with
      | none =>
          rfl
      | some read =>
          dsimp only
          rw [inductionHypothesis, appendWhoAllClassDisplayEntry]
          split <;> rfl

/-- A captured response queues its first players, and none is consumed yet. -/
theorem queue_captureWhoAllResponse
    (sequence : UInt64)
    (payload : Payload)
    (state : State) :
    (captureWhoAllResponse sequence payload state).entries =
        ((responsePlayers payload).zipIdx.map
          (queueEntry (state.correlationActivation + 1) sequence
            (state.responseCount + 1))).take
          kWhoAllClassDisplayEntryCaptureCap ∧
      (captureWhoAllResponse sequence payload state).entryCursor = 0 := by
  unfold captureWhoAllResponse responsePlayers
  dsimp only [armWhoAllClassDisplayCorrelation,
    beginWhoAllClassDisplayEntriesCapture]
  cases tryReadU32 payload.pointer payload.length 60 with
  | none =>
      exact ⟨rfl, rfl⟩
  | some playerCount =>
      cases tryReadU32 payload.pointer payload.length 40 with
      | none =>
          exact ⟨rfl, rfl⟩
      | some _ =>
          refine ⟨?_, entryCursor_capturePlayers _ _ _ _ _ _ _ _ _⟩
          exact
            entries_capturePlayers payload.pointer payload.length _ _ _
              playerCount.toNat 0 kWhoAllResponseHeaderSize
              (by exact Nat.zero_le _)

/-! ## Handing out -/

/-- The record has a name. -/
def PlayerRecord.named (player : PlayerRecord) : Bool :=
  decide (player.name ≠ [])

/-- The entry has a name. -/
def WhoAllClassDisplayEntry.named (entry : WhoAllClassDisplayEntry) : Bool :=
  decide (entry.name ≠ [])

/-- An entry has a name when its player has one. -/
@[simp] theorem named_queueEntry
    (activation receiveSequence responseIndex : UInt64)
    (listed : PlayerRecord × Nat) :
    (queueEntry activation receiveSequence responseIndex listed).named =
      listed.1.named := by
  rw [WhoAllClassDisplayEntry.named, PlayerRecord.named, queueEntry]
  cases listed.1.name with
  | nil =>
      rfl
  | cons first later =>
      simp [kWhoAllEntryNameBytes]

/-- The consumer hands out the next named entry and steps behind it. -/
theorem nextNamedEntry_spec
    (entries : List WhoAllClassDisplayEntry)
    (cursor : Nat) :
    (nextNamedEntry entries cursor).2 =
        (entries.filter WhoAllClassDisplayEntry.named).head? ∧
      ∃ passed,
        (nextNamedEntry entries cursor).1 = cursor + passed ∧
          (entries.drop passed).filter WhoAllClassDisplayEntry.named =
            (entries.filter WhoAllClassDisplayEntry.named).tail := by
  induction entries generalizing cursor with
  | nil =>
      exact ⟨rfl, 0, rfl, rfl⟩
  | cons candidate later inductionHypothesis =>
      rw [nextNamedEntry]
      by_cases unnamed : candidate.name = []
      · obtain ⟨next, passed, moved, rest⟩ := inductionHypothesis (cursor + 1)
        have skipped : candidate.named = false := by
          simp [WhoAllClassDisplayEntry.named, unnamed]
        rw [if_pos unnamed, List.filter_cons_of_neg (by simp [skipped])]
        refine ⟨next, passed + 1, ?_, ?_⟩
        · rw [moved]
          omega
        · exact rest
      · have kept : candidate.named = true := by
          simp [WhoAllClassDisplayEntry.named, unnamed]
        rw [if_neg unnamed, List.filter_cons_of_pos kept]
        exact ⟨rfl, 1, rfl, rfl⟩

/-- As many named entries were consumed. -/
def State.Consumed (state : State) (taken : Nat) : Prop :=
  (state.entries.drop state.entryCursor).filter
      WhoAllClassDisplayEntry.named =
    (state.entries.filter WhoAllClassDisplayEntry.named).drop taken

/-- Each call hands out the named entry behind those consumed before. -/
theorem State.Consumed.next
    {state : State}
    {taken : Nat}
    (consumed : state.Consumed taken) :
    (tryConsumeWhoAllClassDisplayEntry state).2 =
        (state.entries.filter WhoAllClassDisplayEntry.named)[taken]? ∧
      (tryConsumeWhoAllClassDisplayEntry state).1.Consumed (taken + 1) := by
  obtain ⟨next, passed, moved, rest⟩ :=
    nextNamedEntry_spec (state.entries.drop state.entryCursor)
      state.entryCursor
  rw [consumed] at next rest
  refine ⟨?_, ?_⟩
  · rw [tryConsumeWhoAllClassDisplayEntry]
    exact next.trans (List.head?_drop)
  · rw [State.Consumed, tryConsumeWhoAllClassDisplayEntry]
    dsimp only
    rw [moved, ← List.drop_drop, rest, List.tail_drop]

/-! ## Places -/

/-- The place of an item among the items of its kind. -/
theorem getElem?_filter_zipIdx
    {Item : Type}
    {kind : Item → Bool}
    {items : List Item}
    {item : Item}
    {place : Nat}
    (there : items[place]? = some item)
    (ofKind : kind item = true) :
    (items.zipIdx.filter fun listed =>
        kind listed.1)[(items.take place).countP kind]? =
      some (item, place) := by
  obtain ⟨inside, same⟩ := List.getElem?_eq_some_iff.mp there
  have split : items = items.take place ++ item :: items.drop (place + 1) := by
    rw [← same, List.getElem_cons_drop, List.take_append_drop]
  have ahead :
      ((items.take place).zipIdx.filter fun listed =>
        kind listed.1).length = (items.take place).countP kind := by
    rw [← List.countP_eq_length_filter]
    conv_rhs => rw [← List.zipIdx_map_fst 0 (items.take place)]
    rw [List.countP_map]
    rfl
  have length : (items.take place).length = place := by
    rw [List.length_take]
    omega
  conv_lhs =>
    lhs
    rw [split]
  rw [List.zipIdx_append, List.filter_append, ← ahead,
    List.getElem?_append_right (Nat.le_refl _), Nat.sub_self, length,
    List.zipIdx_cons, Nat.zero_add, List.filter_cons, if_pos ofKind]
  rfl

/-- The entries with a name, when the players fill the queue in order, are
those of the players with a name. -/
theorem getElem?_named_queue
    {activation receiveSequence responseIndex : UInt64}
    {players : List PlayerRecord}
    {player : PlayerRecord}
    {place limit : Nat}
    (there : players[place]? = some player)
    (named : player.named = true)
    {entry : WhoAllClassDisplayEntry}
    (handedOut :
      (((players.zipIdx.map
          (queueEntry activation receiveSequence responseIndex)).take
          limit).filter WhoAllClassDisplayEntry.named)[
            (players.take place).countP PlayerRecord.named]? =
        some entry) :
    entry =
      queueEntry activation receiveSequence responseIndex (player, place) := by
  have kinds :
      WhoAllClassDisplayEntry.named ∘
          queueEntry activation receiveSequence responseIndex =
        fun listed => listed.1.named := by
    funext listed
    exact named_queueEntry _ _ _ listed
  rw [← List.map_take, List.filter_map, kinds, List.getElem?_map,
    Option.map_eq_some_iff] at handedOut
  obtain ⟨listed, found, rfl⟩ := handedOut
  -- What the limit cuts off comes behind everything that is handed out.
  have whole :
      (players.zipIdx.filter fun listed => listed.1.named)[
          (players.take place).countP PlayerRecord.named]? =
        some listed := by
    rw [← List.take_append_drop limit players.zipIdx, List.filter_append]
    exact List.getElem?_append_left (List.getElem?_eq_some_iff.mp found).1
      |>.trans found
  rw [getElem?_filter_zipIdx there named] at whole
  rw [Option.some.inj whole]

end MonomythClient.WhoAllResponse
