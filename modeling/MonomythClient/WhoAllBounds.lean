import MonomythClient.ByteText
import MonomythClient.PacketObserver
import MonomythClient.PayloadCursors
import MonomythClient.WhoAllQueue

namespace MonomythClient.WhoAllResponse

open ByteText (CString ascii)
open FrontReaders LittleEndian PayloadReader

/-!
# The records of a who-all response

A record is a run of fixed fields, a name, a field, a guild, a block of fixed
fields, an account and a last field; the three texts end in a zero byte.  The
record loop reads the records that the payload holds behind its header, one
behind another, until there are as many as announced or until no record
follows.  A record takes at least 51 bytes, so neither the loop nor the queue
is exhausted by a count that the payload does not bear out.
-/

/-! ## Records -/

/-- One record, with its texts and the bytes of its other fields. -/
structure PlayerEntry where
  leading : List UInt8
  name : CString
  rank : List UInt8
  guild : CString
  fixedBlock : List UInt8
  account : CString
  trailing : List UInt8
  leadingSize : leading.length = 12
  rankSize : rank.length = 4
  fixedBlockSize : fixedBlock.length = 28
  trailingSize : trailing.length = 4

/-- The bytes of a record. -/
def PlayerEntry.encode (entry : PlayerEntry) : List UInt8 :=
  entry.leading ++ (entry.name.bytes ++ 0 ::
    (entry.rank ++ (entry.guild.bytes ++ 0 ::
      (entry.fixedBlock ++ (entry.account.bytes ++ 0 :: entry.trailing)))))

/-- The class id in a block of fixed fields. -/
def blockClassId (fixedBlock : List UInt8) : UInt32 :=
  UInt32.ofNat (value ((fixedBlock.drop 16).take 4))

/-- What is kept of a record. -/
def PlayerEntry.record (entry : PlayerEntry) : PlayerRecord where
  name := entry.name.bytes
  classId := blockClassId entry.fixedBlock

/-- The bytes of some records, in order. -/
def encodeEntries (entries : List PlayerEntry) : List UInt8 :=
  entries.flatMap PlayerEntry.encode

/-- A record takes at least the bytes of its fields and three terminators. -/
theorem PlayerEntry.le_length_encode (entry : PlayerEntry) :
    51 ≤ entry.encode.length := by
  simp only [encode, List.length_append, List.length_cons,
    entry.leadingSize, entry.rankSize, entry.fixedBlockSize,
    entry.trailingSize]
  omega

theorem le_length_encodeEntries (entries : List PlayerEntry) :
    51 * entries.length ≤ (encodeEntries entries).length := by
  induction entries with
  | nil =>
      exact Nat.zero_le _
  | cons entry later inductionHypothesis =>
      have entryLength := entry.le_length_encode
      rw [encodeEntries] at inductionHypothesis ⊢
      rw [List.flatMap_cons, List.length_append, List.length_cons]
      omega

/-! ## One record -/

/-- The record that some bytes start with, and what is left of them. -/
def takePlayer (items : List UInt8) : Option (PlayerRecord × List UInt8) := do
  let (_leading, items) ← takeFront 12 items
  let (name, items) ← takeUntil 0 items
  let (_rank, items) ← takeFront 4 items
  let (_guild, items) ← takeUntil 0 items
  let (fixedBlock, items) ← takeFront 28 items
  let (_account, items) ← takeUntil 0 items
  let (_trailing, items) ← takeFront 4 items
  return ({ name := name, classId := blockClassId fixedBlock }, items)

/-- A record is taken exactly where one is encoded. -/
theorem takePlayer_eq_some_iff
    {items rest : List UInt8}
    {player : PlayerRecord} :
    takePlayer items = some (player, rest) ↔
      ∃ entry : PlayerEntry,
        items = entry.encode ++ rest ∧ entry.record = player := by
  simp only [takePlayer, Option.bind_eq_bind, Option.bind_eq_some_iff,
    Prod.exists, takeFront_eq_some_iff, takeUntil_eq_some_iff,
    Option.pure_def, Option.some.injEq, Prod.mk.injEq]
  constructor
  · rintro ⟨leading, _, ⟨rfl, leadingSize⟩, name, _, ⟨rfl, nameWhole⟩,
      rank, _, ⟨rfl, rankSize⟩, guild, _, ⟨rfl, guildWhole⟩,
      fixedBlock, _, ⟨rfl, fixedBlockSize⟩, account, _,
      ⟨rfl, accountWhole⟩, trailing, _, ⟨rfl, trailingSize⟩, rfl, rfl⟩
    refine ⟨⟨leading, ⟨name, nameWhole⟩, rank, ⟨guild, guildWhole⟩,
      fixedBlock, ⟨account, accountWhole⟩, trailing, leadingSize, rankSize,
      fixedBlockSize, trailingSize⟩, ?_, rfl⟩
    simp [PlayerEntry.encode]
  · rintro ⟨entry, rfl, rfl⟩
    refine ⟨entry.leading, _, ⟨?_, entry.leadingSize⟩, entry.name.bytes, _,
      ⟨rfl, entry.name.unterminated⟩, entry.rank, _, ⟨rfl, entry.rankSize⟩,
      entry.guild.bytes, _, ⟨rfl, entry.guild.unterminated⟩,
      entry.fixedBlock, _, ⟨rfl, entry.fixedBlockSize⟩,
      entry.account.bytes, _, ⟨rfl, entry.account.unterminated⟩,
      entry.trailing, _, ⟨rfl, entry.trailingSize⟩, rfl, rfl⟩
    simp [PlayerEntry.encode]

section Reading

variable
  {contents items : List UInt8}
  {payloadLength cursor : UInt32}

/-- Fewer bytes than the leading fields hold no record. -/
theorem readPlayerRecord_short
    (stands : Stands contents payloadLength cursor items)
    (bounded : payloadLength.toNat ≤ 4096)
    (short : items.length < 12) :
    readPlayerRecord (some contents) payloadLength cursor = none := by
  have length := stands.length
  have second : (cursor + 4).toNat = cursor.toNat + 4 :=
    toNat_add_inside (by simpa using by omega)
  have behind : (cursor + 12).toNat = cursor.toNat + 12 :=
    toNat_add_inside (by simpa using by omega)
  by_cases firstShort : items.length < 4
  · simp only [readPlayerRecord, stands.noWord (Nat.add_zero _).symm firstShort,
      Option.bind_eq_bind, Option.bind_none]
  · have firstRead :=
      stands.word (Nat.add_zero _).symm (Nat.not_lt.mp firstShort)
    by_cases secondShort : items.length < 8
    · simp only [readPlayerRecord, firstRead,
        stands.noWord second secondShort, Option.bind_eq_bind,
        Option.bind_some, Option.bind_none]
    · have outside : payloadLength ≤ cursor + 12 := by
        rw [UInt32.le_iff_toNat_le]
        omega
      have noName :
          tryReadCString (some contents) payloadLength (cursor + 12) =
            none := by
        rw [tryReadCString]
        exact if_pos outside
      simp only [readPlayerRecord, firstRead,
        stands.word second (Nat.not_lt.mp secondShort), noName,
        Option.bind_eq_bind, Option.bind_some, Option.bind_none]

/-- The fields behind the guild, as `readPlayerRecord` reads them. -/
def readPlayerTail
    (payload : Pointer)
    (payloadLength cursor : UInt32)
    (name : List UInt8) :
    Option (PlayerRecord × UInt32) := do
  guard
    (¬ (payloadLength < cursor ∨
      payloadLength - cursor < kWhoAllResponseFixedBlockBytes))
  let _zoneString ← tryReadU32 payload payloadLength (cursor + 8)
  let _zone ← tryReadU32 payload payloadLength (cursor + 12)
  let classId ← tryReadU32 payload payloadLength (cursor + 16)
  let _level ← tryReadU32 payload payloadLength (cursor + 20)
  let _race ← tryReadU32 payload payloadLength (cursor + 24)
  let cursor := cursor + kWhoAllResponseFixedBlockBytes
  let (_account, cursor) ← tryReadCString payload payloadLength cursor
  let _unknown100 ← tryReadU32 payload payloadLength cursor
  return ({ name := name, classId := classId }, cursor + 4)

/-- The fields behind the guild, as `takePlayer` takes them. -/
def takePlayerTail
    (name items : List UInt8) :
    Option (PlayerRecord × List UInt8) := do
  let (fixedBlock, items) ← takeFront 28 items
  let (_account, items) ← takeUntil 0 items
  let (_trailing, items) ← takeFront 4 items
  return ({ name := name, classId := blockClassId fixedBlock }, items)

/-- A field of the block that a cursor stands in front of. -/
theorem readBlockField
    {fixedBlock later : List UInt8}
    (stands :
      Stands contents payloadLength cursor (fixedBlock ++ later))
    (bounded : payloadLength.toNat ≤ 4096)
    (blockSize : fixedBlock.length = 28)
    (distance : UInt32)
    (inBlock : distance.toNat ≤ 24) :
    tryReadU32 (some contents) payloadLength (cursor + distance) =
      some (UInt32.ofNat
        (value ((fixedBlock.drop distance.toNat).take 4))) := by
  have length := stands.length
  rw [List.length_append] at length
  have placed :
      (cursor + distance).toNat = cursor.toNat + distance.toNat :=
    toNat_add_inside (by omega)
  have enough : distance.toNat + 4 ≤ (fixedBlock ++ later).length := by
    rw [List.length_append]
    omega
  have inFront : 4 ≤ (fixedBlock.drop distance.toNat).length := by
    rw [List.length_drop]
    omega
  rw [stands.word placed enough,
    List.drop_append_of_le_length (by omega),
    List.take_append_of_le_length inFront]

/-- The check before the block fails exactly where the block does not fit. -/
theorem blockCheck_iff
    (stands : Stands contents payloadLength cursor items) :
    (payloadLength < cursor ∨
        payloadLength - cursor < kWhoAllResponseFixedBlockBytes) ↔
      items.length < 28 := by
  have length := stands.length
  rw [boundsCheck_iff]
  change payloadLength.toNat < cursor.toNat + 28 ↔ _
  omega

/-- Behind the block, an account and a last field are read. -/
theorem readPlayerTail_block
    {fixedBlock later : List UInt8}
    (stands :
      Stands contents payloadLength cursor (fixedBlock ++ later))
    (bounded : payloadLength.toNat ≤ 4096)
    (blockSize : fixedBlock.length = 28)
    (name : List UInt8) :
    readPlayerTail (some contents) payloadLength cursor name = do
      let (_account, cursor) ←
        tryReadCString (some contents) payloadLength
          (cursor + kWhoAllResponseFixedBlockBytes)
      let _unknown100 ← tryReadU32 (some contents) payloadLength cursor
      return ({ name := name, classId := blockClassId fixedBlock },
        cursor + 4) := by
  have guardHolds :
      ¬ (payloadLength < cursor ∨
        payloadLength - cursor < kWhoAllResponseFixedBlockBytes) := by
    rw [blockCheck_iff stands, List.length_append]
    omega
  have fieldRead := readBlockField stands bounded blockSize
  simp only [readPlayerTail, guard, if_pos guardHolds,
    fieldRead 8 (by decide), fieldRead 12 (by decide),
    fieldRead 16 (by decide), fieldRead 20 (by decide),
    fieldRead 24 (by decide), Option.bind_eq_bind, Option.bind_some,
    Option.pure_def]
  rfl

theorem readPlayerTail_eq
    (stands : Stands contents payloadLength cursor items)
    (bounded : payloadLength.toNat ≤ 4096)
    (name : List UInt8) :
    (takePlayerTail name items = none ∧
        readPlayerTail (some contents) payloadLength cursor name = none) ∨
      ∃ player rest next,
        takePlayerTail name items = some (player, rest) ∧
          readPlayerTail (some contents) payloadLength cursor name =
            some (player, next) ∧
          Stands contents payloadLength next rest := by
  cases blockTaken : takeFront 28 items with
  | none =>
      have guardFails :=
        (blockCheck_iff stands).mpr (takeFront_eq_none_iff.mp blockTaken)
      exact .inl ⟨by simp [takePlayerTail, blockTaken],
        by simp [readPlayerTail, guardFails]⟩
  | some taken =>
      obtain ⟨fixedBlock, fromAccount⟩ := taken
      obtain ⟨rfl, blockSize⟩ := takeFront_eq_some_iff.mp blockTaken
      obtain ⟨atAccount, _⟩ :=
        stands.advance
          (show _ = kWhoAllResponseFixedBlockBytes.toNat from blockSize)
      rw [readPlayerTail_block stands bounded blockSize]
      cases accountTaken : takeUntil 0 fromAccount with
      | none =>
          refine .inl
            ⟨by simp [takePlayerTail, blockTaken, accountTaken], ?_⟩
          rw [atAccount.noText accountTaken]
          rfl
      | some taken =>
          obtain ⟨account, fromTrailing⟩ := taken
          obtain ⟨trailingAt, accountRead, atTrailing, _⟩ :=
            atAccount.text accountTaken
          rw [accountRead]
          cases trailingTaken : takeFront 4 fromTrailing with
          | none =>
              have trailingShort := takeFront_eq_none_iff.mp trailingTaken
              refine .inl
                ⟨by simp [takePlayerTail, blockTaken, accountTaken,
                  trailingTaken], ?_⟩
              simp only [atTrailing.noWord (Nat.add_zero _).symm trailingShort,
                Option.bind_eq_bind, Option.bind_some, Option.bind_none]
          | some taken =>
              obtain ⟨trailing, rest⟩ := taken
              obtain ⟨rfl, trailingSize⟩ :=
                takeFront_eq_some_iff.mp trailingTaken
              have trailingRead :=
                atTrailing.word (Nat.add_zero _).symm
                  (by rw [List.length_append]; omega)
              obtain ⟨atRest, _⟩ :=
                atTrailing.advance
                  (show _ = (4 : UInt32).toNat from trailingSize)
              refine .inr ⟨⟨name, blockClassId fixedBlock⟩, rest,
                trailingAt + 4, ?_, ?_, atRest⟩
              · simp [takePlayerTail, blockTaken, accountTaken,
                  trailingTaken]
              · simp only [trailingRead, Option.bind_eq_bind,
                  Option.bind_some, Option.pure_def]

/-- A pass of the record loop reads the record that starts at the cursor. -/
theorem readPlayerRecord_eq
    (stands : Stands contents payloadLength cursor items)
    (bounded : payloadLength.toNat ≤ 4096) :
    (takePlayer items = none ∧
        readPlayerRecord (some contents) payloadLength cursor = none) ∨
      ∃ player rest next,
        takePlayer items = some (player, rest) ∧
          readPlayerRecord (some contents) payloadLength cursor =
            some (player, next) ∧
          Stands contents payloadLength next rest := by
  cases leadingTaken : takeFront 12 items with
  | none =>
      refine .inl ⟨by simp [takePlayer, leadingTaken], ?_⟩
      exact readPlayerRecord_short stands bounded
        (takeFront_eq_none_iff.mp leadingTaken)
  | some taken =>
      obtain ⟨leading, fromName⟩ := taken
      obtain ⟨rfl, leadingSize⟩ := takeFront_eq_some_iff.mp leadingTaken
      obtain ⟨atName, nameMoved⟩ :=
        stands.advance (show _ = (12 : UInt32).toNat from leadingSize)
      have length := stands.length
      rw [List.length_append, leadingSize] at length
      have second : (cursor + 4).toNat = cursor.toNat + 4 :=
        toNat_add_inside (by simpa using by omega)
      have formatRead :=
        stands.word (Nat.add_zero _).symm
          (by rw [List.length_append]; omega)
      have pidRead :=
        stands.word second (by rw [List.length_append]; omega)
      cases nameTaken : takeUntil 0 fromName with
      | none =>
          refine .inl ⟨by simp [takePlayer, leadingTaken, nameTaken], ?_⟩
          simp only [readPlayerRecord, formatRead, pidRead,
            atName.noText nameTaken, Option.bind_eq_bind, Option.bind_some,
            Option.bind_none]
      | some taken =>
          obtain ⟨name, fromRank⟩ := taken
          obtain ⟨rankAt, nameRead, atRank, _⟩ := atName.text nameTaken
          cases rankTaken : takeFront 4 fromRank with
          | none =>
              have rankShort := takeFront_eq_none_iff.mp rankTaken
              refine .inl
                ⟨by simp [takePlayer, leadingTaken, nameTaken, rankTaken],
                  ?_⟩
              simp only [readPlayerRecord, formatRead, pidRead, nameRead,
                atRank.noWord (Nat.add_zero _).symm rankShort,
                Option.bind_eq_bind, Option.bind_some, Option.bind_none]
          | some taken =>
              obtain ⟨rank, fromGuild⟩ := taken
              obtain ⟨rfl, rankSize⟩ := takeFront_eq_some_iff.mp rankTaken
              have rankRead :=
                atRank.word (Nat.add_zero _).symm
                  (by rw [List.length_append]; omega)
              obtain ⟨atGuild, _⟩ :=
                atRank.advance (show _ = (4 : UInt32).toNat from rankSize)
              cases guildTaken : takeUntil 0 fromGuild with
              | none =>
                  refine .inl
                    ⟨by simp [takePlayer, leadingTaken, nameTaken, rankTaken,
                      guildTaken], ?_⟩
                  simp only [readPlayerRecord, formatRead, pidRead, nameRead,
                    rankRead, atGuild.noText guildTaken, Option.bind_eq_bind,
                    Option.bind_some, Option.bind_none]
              | some taken =>
                  obtain ⟨guild, fromBlock⟩ := taken
                  obtain ⟨blockAt, guildRead, atBlock, _⟩ :=
                    atGuild.text guildTaken
                  have taken :
                      takePlayer (leading ++ fromName) =
                        takePlayerTail name fromBlock := by
                    simp [takePlayer, takePlayerTail, leadingTaken,
                      nameTaken, rankTaken, guildTaken]
                  have read :
                      readPlayerRecord (some contents) payloadLength cursor =
                        readPlayerTail (some contents) payloadLength blockAt
                          name := by
                    simp only [readPlayerRecord, readPlayerTail, formatRead,
                      pidRead, nameRead, rankRead, guildRead,
                      Option.bind_eq_bind, Option.bind_some]
                  rw [taken, read]
                  exact readPlayerTail_eq atBlock bounded name

/-! ## The record loop -/

/-- The records at the front, up to a count or until no record follows. -/
def MaximalPrefix
    (items : List UInt8)
    (count : Nat)
    (entries : List PlayerEntry) :
    Prop :=
  entries.length ≤ count ∧
    ∃ rest,
      items = encodeEntries entries ++ rest ∧
        (entries.length = count ∨
          ∀ (entry : PlayerEntry) (later : List UInt8),
            rest ≠ entry.encode ++ later)

/-- There always are such records. -/
theorem exists_maximalPrefix (items : List UInt8) (count : Nat) :
    ∃ entries, MaximalPrefix items count entries := by
  induction count generalizing items with
  | zero =>
      exact ⟨[], Nat.le_refl 0, items, rfl, .inl rfl⟩
  | succ count inductionHypothesis =>
      by_cases starts :
          ∃ (entry : PlayerEntry) (later : List UInt8),
            items = entry.encode ++ later
      · obtain ⟨entry, later, rfl⟩ := starts
        obtain ⟨entries, fewer, rest, rfl, ends⟩ := inductionHypothesis later
        refine ⟨entry :: entries, Nat.succ_le_succ fewer, rest, ?_,
          ends.imp_left (congrArg Nat.succ)⟩
        rw [encodeEntries, encodeEntries, List.flatMap_cons,
          List.append_assoc]
      · exact ⟨[], Nat.zero_le _, items, rfl, .inr fun entry later shape =>
          starts ⟨entry, later, shape⟩⟩

/-- They take no more bytes than there are. -/
theorem MaximalPrefix.length_le
    {count : Nat}
    {entries : List PlayerEntry}
    (maximal : MaximalPrefix items count entries) :
    entries.length ≤ items.length / 51 := by
  obtain ⟨_, rest, rfl, _⟩ := maximal
  have entriesLength := le_length_encodeEntries entries
  rw [List.length_append, Nat.le_div_iff_mul_le (by decide)]
  omega

/-- These are the records that the loop reads. -/
theorem readPlayers_eq
    (stands : Stands contents payloadLength cursor items)
    (bounded : payloadLength.toNat ≤ 4096)
    {count : Nat}
    {entries : List PlayerEntry}
    (maximal : MaximalPrefix items count entries) :
    readPlayers (some contents) payloadLength count cursor =
      entries.map PlayerEntry.record := by
  induction entries generalizing items cursor count with
  | nil =>
      obtain ⟨_, rest, shape, ends⟩ := maximal
      obtain rfl : items = rest := shape
      cases count with
      | zero =>
          rfl
      | succ count =>
          have noRecord :
              ∀ (entry : PlayerEntry) (later : List UInt8),
                items ≠ entry.encode ++ later :=
            ends.resolve_left (Nat.succ_ne_zero count).symm
          rcases readPlayerRecord_eq stands bounded with
              ⟨_, unread⟩ | ⟨player, later, next, taken, _⟩
          · rw [readPlayers, unread]
            rfl
          · obtain ⟨entry, shape, _⟩ := takePlayer_eq_some_iff.mp taken
            exact (noRecord entry later shape).elim
  | cons entry later inductionHypothesis =>
      obtain ⟨fewer, rest, rfl, ends⟩ := maximal
      obtain ⟨count, rfl⟩ :=
        Nat.exists_eq_add_one_of_ne_zero
          (Nat.ne_of_gt (Nat.lt_of_lt_of_le (Nat.succ_pos _) fewer))
      have taken :
          takePlayer (encodeEntries (entry :: later) ++ rest) =
            some (entry.record, encodeEntries later ++ rest) := by
        refine takePlayer_eq_some_iff.mpr ⟨entry, ?_, rfl⟩
        rw [encodeEntries, encodeEntries, List.flatMap_cons,
          List.append_assoc]
      have laterMaximal :
          MaximalPrefix (encodeEntries later ++ rest) count later :=
        ⟨Nat.le_of_succ_le_succ fewer, rest, rfl,
          ends.imp_left Nat.succ.inj⟩
      rcases readPlayerRecord_eq stands bounded with
          ⟨untaken, _⟩ | ⟨player, others, next, found, read, atNext⟩
      · rw [taken] at untaken
        cases untaken
      · rw [taken] at found
        obtain ⟨rfl, rfl⟩ := Prod.mk.inj (Option.some.inj found)
        rw [readPlayers, read, List.map_cons,
          ← inductionHypothesis atNext laterMaximal]

/-- The passes that the loop makes, a failing one among them. -/
def readAttempts (payload : Pointer) (payloadLength : UInt32) :
    Nat → UInt32 → Nat
  | 0, _ => 0
  | remaining + 1, cursor =>
      match readPlayerRecord payload payloadLength cursor with
      | none => 1
      | some (_, cursor) =>
          1 + readAttempts payload payloadLength remaining cursor

/-- All passes but the last read a record. -/
theorem readAttempts_le
    (payload : Pointer)
    (payloadLength cursor : UInt32)
    (count : Nat) :
    readAttempts payload payloadLength count cursor ≤
      (readPlayers payload payloadLength count cursor).length + 1 := by
  induction count generalizing cursor with
  | zero =>
      exact Nat.zero_le _
  | succ count inductionHypothesis =>
      rw [readAttempts, readPlayers]
      cases readPlayerRecord payload payloadLength cursor with
      | none =>
          exact Nat.le_refl 1
      | some read =>
          obtain ⟨player, next⟩ := read
          have later := inductionHypothesis next
          dsimp only
          rw [List.length_cons]
          omega

end Reading

/-! ## Memory behind the payload -/

/-- A step on memory, followed by steps that agree with others. -/
theorem run_bind_of_eq
    {α β : Type}
    {load : OptionT Option α}
    {read : Option α}
    {loadOn : α → OptionT Option β}
    {readOn : α → Option β}
    (loaded : load.run = some read)
    (loadedOn : ∀ value, (loadOn value).run = some (readOn value)) :
    (load >>= loadOn).run = some (read >>= readOn) := by
  rw [OptionT.run_bind, loaded]
  cases read with
  | none =>
      rfl
  | some value =>
      exact loadedOn value

/-- `readPlayerRecord` on memory: a fault, or its result. -/
def loadPlayerRecord
    (memory : Memory)
    (payloadLength cursor : UInt32) :
    OptionT Option (PlayerRecord × UInt32) := do
  let _formatString ← OptionT.mk (loadU32 memory payloadLength cursor)
  let _pidString ← OptionT.mk (loadU32 memory payloadLength (cursor + 4))
  let cursor := cursor + 12
  let (name, cursor) ← OptionT.mk (loadCString memory payloadLength cursor)
  let _rankString ← OptionT.mk (loadU32 memory payloadLength cursor)
  let cursor := cursor + 4
  let (_guild, cursor) ← OptionT.mk (loadCString memory payloadLength cursor)
  OptionT.mk (some (guard
    (¬ (payloadLength < cursor ∨
      payloadLength - cursor < kWhoAllResponseFixedBlockBytes))))
  let _zoneString ← OptionT.mk (loadU32 memory payloadLength (cursor + 8))
  let _zone ← OptionT.mk (loadU32 memory payloadLength (cursor + 12))
  let classId ← OptionT.mk (loadU32 memory payloadLength (cursor + 16))
  let _level ← OptionT.mk (loadU32 memory payloadLength (cursor + 20))
  let _race ← OptionT.mk (loadU32 memory payloadLength (cursor + 24))
  let cursor := cursor + kWhoAllResponseFixedBlockBytes
  let (_account, cursor) ←
    OptionT.mk (loadCString memory payloadLength cursor)
  let _unknown100 ← OptionT.mk (loadU32 memory payloadLength cursor)
  return ({ name := name, classId := classId }, cursor + 4)

/-- The record loop on memory. -/
def loadPlayers
    (memory : Memory)
    (payloadLength : UInt32)
    (activation receiveSequence responseIndex : UInt64) :
    Nat → UInt32 → UInt32 → State → Option State
  | 0, _, _, state => some state
  | remaining + 1, entryIndex, cursor, state => do
      let loaded ← (loadPlayerRecord memory payloadLength cursor).run
      match loaded with
      | none => return state
      | some (player, cursor) =>
          loadPlayers memory payloadLength activation receiveSequence
            responseIndex remaining (entryIndex + 1) cursor
            (appendWhoAllClassDisplayEntry activation receiveSequence
              responseIndex entryIndex player.classId player.name state)

/-- `captureWhoAllResponse` on memory. -/
def loadWhoAllResponse
    (sequence : UInt64)
    (memory : Memory)
    (payloadLength : UInt32)
    (state : State) :
    Option State := do
  let responseIndex := state.responseCount + 1
  let state := { state with responseCount := responseIndex }
  let (state, activation) :=
    armWhoAllClassDisplayCorrelation sequence responseIndex state
  let state := beginWhoAllClassDisplayEntriesCapture state
  let playerCount ← loadU32 memory payloadLength 60
  match playerCount with
  | none => return state
  | some playerCount =>
      let playersInZoneString ← loadU32 memory payloadLength 40
      match playersInZoneString with
      | none => return state
      | some _playersInZoneString =>
          loadPlayers memory payloadLength activation sequence responseIndex
            playerCount.toNat 0 kWhoAllResponseHeaderSize state

section Loading

variable
  {memory : Memory}
  {contents : List UInt8}
  {payloadLength : UInt32}

/-- Reading a record does not fault on a payload. -/
theorem loadPlayerRecord_eq
    (holds : memory.Holds contents)
    (whole : contents.length = payloadLength.toNat)
    (cursor : UInt32) :
    (loadPlayerRecord memory payloadLength cursor).run =
      some (readPlayerRecord (some contents) payloadLength cursor) := by
  have word := loadU32_eq holds whole
  have text := loadCString_eq holds whole
  refine run_bind_of_eq (word _) fun _ => ?_
  refine run_bind_of_eq (word _) fun _ => ?_
  refine run_bind_of_eq (text _) fun (name, _) => ?_
  refine run_bind_of_eq (word _) fun _ => ?_
  refine run_bind_of_eq (text _) fun _ => ?_
  refine run_bind_of_eq rfl fun _ => ?_
  refine run_bind_of_eq (word _) fun _ => ?_
  refine run_bind_of_eq (word _) fun _ => ?_
  refine run_bind_of_eq (word _) fun classId => ?_
  refine run_bind_of_eq (word _) fun _ => ?_
  refine run_bind_of_eq (word _) fun _ => ?_
  refine run_bind_of_eq (text _) fun _ => ?_
  exact run_bind_of_eq (word _) fun _ => rfl

/-- Nor does the record loop. -/
theorem loadPlayers_eq
    (holds : memory.Holds contents)
    (whole : contents.length = payloadLength.toNat)
    (activation receiveSequence responseIndex : UInt64)
    (remaining : Nat)
    (entryIndex cursor : UInt32)
    (state : State) :
    loadPlayers memory payloadLength activation receiveSequence
        responseIndex remaining entryIndex cursor state =
      some
        (capturePlayers (some contents) payloadLength activation
          receiveSequence responseIndex remaining entryIndex cursor
          state) := by
  induction remaining generalizing entryIndex cursor state with
  | zero =>
      rfl
  | succ remaining inductionHypothesis =>
      rw [loadPlayers, loadPlayerRecord_eq holds whole, capturePlayers]
      cases readPlayerRecord (some contents) payloadLength cursor with
      | none =>
          rfl
      | some read =>
          exact inductionHypothesis _ _ _

/-- Nor does the capture, and nothing behind the payload matters to it. -/
theorem loadWhoAllResponse_eq
    {payload : Payload}
    (holds : memory.Holds contents)
    (there : payload.pointer = some contents)
    (sequence : UInt64)
    (state : State) :
    loadWhoAllResponse sequence memory payload.length state =
      some (captureWhoAllResponse sequence payload state) := by
  have whole := payload.readable contents there
  simp only [loadWhoAllResponse, captureWhoAllResponse, there,
    loadU32_eq holds whole, Option.bind_eq_bind, Option.bind_some]
  cases tryReadU32 (some contents) payload.length 60 with
  | none =>
      rfl
  | some playerCount =>
      dsimp only
      cases tryReadU32 (some contents) payload.length 40 with
      | none =>
          rfl
      | some _ =>
          exact loadPlayers_eq holds whole _ _ _ _ _ _ _

end Loading

/-! ## The capture -/

/-- The player count of a response. -/
def announcedPlayers (contents : List UInt8) : Nat :=
  field contents 60 4

/-- The players of a response with a header are the records behind it. -/
theorem responsePlayers_eq
    {payload : Payload}
    {contents : List UInt8}
    (there : payload.pointer = some contents)
    (headed : 64 ≤ contents.length) :
    responsePlayers payload =
      readPlayers (some contents) payload.length (announcedPlayers contents)
        kWhoAllResponseHeaderSize := by
  have whole := payload.readable contents there
  have countRead :
      tryReadU32 (some contents) payload.length 60 =
        some (UInt32.ofNat (announcedPlayers contents)) :=
    tryReadU32_inside (Nat.le_of_eq whole.symm)
      (show 60 + 4 ≤ payload.length.toNat by omega)
  have zoneRead :
      tryReadU32 (some contents) payload.length 40 =
        some (UInt32.ofNat (field contents 40 4)) :=
    tryReadU32_inside (Nat.le_of_eq whole.symm)
      (show 40 + 4 ≤ payload.length.toNat by omega)
  have countFits : announcedPlayers contents < 2 ^ 32 :=
    field_lt contents 60 4
  rw [responsePlayers, there, countRead, zoneRead]
  dsimp only
  rw [UInt32.toNat_ofNat_of_lt' countFits]

/-- Whether a payload is too short for the header. -/
theorem headerMissing_iff
    {payload : Payload}
    {contents : List UInt8}
    (there : payload.pointer = some contents) :
    payload.length < kWhoAllResponseHeaderSize ↔ contents.length < 64 := by
  rw [UInt32.lt_iff_toNat_lt, ← payload.readable contents there]
  rfl

/-- A response with a header and at most 4096 bytes is captured. -/
theorem maybeLogWhoAllResponse_headed
    (sequence : UInt64)
    (packet : PacketObserver.ReceivedPacket)
    (state : State)
    {contents : List UInt8}
    (isResponse : PacketObserver.isWhoAllResponseOpcode packet.opcode = true)
    (there : packet.payload.pointer = some contents)
    (bounded : contents.length ≤ 4096)
    (headed : 64 ≤ contents.length) :
    PacketObserver.maybeLogWhoAllResponse sequence packet state =
      captureWhoAllResponse sequence packet.payload state := by
  have underCeiling :
      ¬ PacketObserver.kPayloadSafetyCeiling < packet.payload.length := by
    rw [UInt32.lt_iff_toNat_lt, ← packet.payload.readable contents there]
    exact Nat.not_lt.mpr bounded
  have isHeaded :
      ¬ packet.payload.length < kWhoAllResponseHeaderSize :=
    (headerMissing_iff there).not.mpr (Nat.not_lt.mpr headed)
  rw [PacketObserver.maybeLogWhoAllResponse, if_neg]
  simp only [isResponse, there, isHeaded, underCeiling, reduceCtorEq,
    decide_false, Bool.not_true, Bool.or_self, Bool.false_eq_true,
    not_false_eq_true]

/-- The observer knows the opcode of a response by name and number. -/
theorem isWhoAllResponseOpcode_response :
    PacketObserver.isWhoAllResponseOpcode
      PacketObserver.kWhoAllResponseOpcode = true := by
  decide +kernel

/--
A response with a header and at most 4096 bytes: the loop makes no more passes
than there can be records, and a failing one; what is captured are the records
at the front of the rest, in order and none left out; and on memory that holds
nothing else the capture does not fault.  A shorter response changes nothing.
-/
theorem whoAllResponse_capturesPlayers
    (sequence : UInt64)
    (packet : PacketObserver.ReceivedPacket)
    (state : State)
    {contents : List UInt8}
    (isResponse : PacketObserver.isWhoAllResponseOpcode packet.opcode = true)
    (there : packet.payload.pointer = some contents)
    (bounded : contents.length ≤ 4096) :
    (contents.length < 64 →
      PacketObserver.maybeLogWhoAllResponse sequence packet state = state) ∧
    (64 ≤ contents.length →
      readAttempts packet.payload.pointer packet.payload.length
          (announcedPlayers contents) kWhoAllResponseHeaderSize ≤
        (contents.length - 64) / 51 + 1 ∧
      (∃ players,
        MaximalPrefix (contents.drop 64) (announcedPlayers contents)
          players) ∧
      (∀ players,
        MaximalPrefix (contents.drop 64) (announcedPlayers contents)
            players →
          players.length ≤ (contents.length - 64) / 51 ∧
          (PacketObserver.maybeLogWhoAllResponse sequence packet
              state).entries =
            (players.map PlayerEntry.record).zipIdx.map
              (queueEntry (state.correlationActivation + 1) sequence
                (state.responseCount + 1))) ∧
      ∀ memory,
        Memory.Holds memory contents →
          loadWhoAllResponse sequence memory packet.payload.length state =
            some
              (PacketObserver.maybeLogWhoAllResponse sequence packet
                state)) := by
  have whole := packet.payload.readable contents there
  refine ⟨fun short => ?_, fun headed => ?_⟩
  · rw [PacketObserver.maybeLogWhoAllResponse, if_pos]
    simp [(headerMissing_iff there).mpr short]
  · have captured :=
      maybeLogWhoAllResponse_headed sequence packet state isResponse there
        bounded headed
    have atRecords :
        Stands contents packet.payload.length kWhoAllResponseHeaderSize
          (contents.drop 64) :=
      Stands.start whole (show 64 ≤ packet.payload.length.toNat by omega)
    have small : packet.payload.length.toNat ≤ 4096 := whole ▸ bounded
    have fewPlayers :
        ∀ players,
          MaximalPrefix (contents.drop 64) (announcedPlayers contents)
              players →
            players.length ≤ (contents.length - 64) / 51 := by
      intro players maximal
      rw [← List.length_drop]
      exact maximal.length_le
    obtain ⟨players, maximal⟩ :=
      exists_maximalPrefix (contents.drop 64) (announcedPlayers contents)
    rw [captured, there]
    refine ⟨?_, ⟨players, maximal⟩, fun others othersMaximal => ?_,
      fun memory holds => loadWhoAllResponse_eq holds there sequence state⟩
    · have attempts :=
        readAttempts_le (some contents) packet.payload.length
          kWhoAllResponseHeaderSize (announcedPlayers contents)
      rw [readPlayers_eq atRecords small maximal, List.length_map] at attempts
      exact Nat.le_trans attempts
        (Nat.succ_le_succ (fewPlayers players maximal))
    · have fewOthers := fewPlayers others othersMaximal
      refine ⟨fewOthers, ?_⟩
      rw [(queue_captureWhoAllResponse sequence packet.payload state).1,
        responsePlayers_eq there headed,
        readPlayers_eq atRecords small othersMaximal]
      refine List.take_of_length_le ?_
      rw [List.length_map, List.length_zipIdx, List.length_map]
      change others.length ≤ 256
      omega

/-- A response that announces one player, whose texts are all empty. -/
def unnamedContents : List UInt8 :=
  List.replicate 60 0 ++ [1, 0, 0, 0] ++ List.replicate 51 0

def unnamedResponse : PacketObserver.ReceivedPacket where
  opcode := PacketObserver.kWhoAllResponseOpcode
  payload := .ofBytes unnamedContents (by decide)
  serverName := none
  windowMs := 0
  startMs := 0

/-- Its only record. -/
def unnamedPlayer : PlayerEntry where
  leading := List.replicate 12 0
  name := .ofText []
  rank := List.replicate 4 0
  guild := .ofText []
  fixedBlock := List.replicate 28 0
  account := .ofText []
  trailing := List.replicate 4 0
  leadingSize := rfl
  rankSize := rfl
  fixedBlockSize := rfl
  trailingSize := rfl

theorem announcedPlayers_unnamed : announcedPlayers unnamedContents = 1 := by
  decide

theorem unnamedPlayer_maximalPrefix :
    MaximalPrefix (unnamedContents.drop 64) (announcedPlayers unnamedContents)
      [unnamedPlayer] := by
  rw [announcedPlayers_unnamed]
  exact ⟨Nat.le_refl 1, [], by decide +kernel, .inl rfl⟩

/-- A warrior with a guild and an account. -/
def adaPlayer : PlayerEntry :=
  { unnamedPlayer with
    name := .ofText (ascii "Ada")
    guild := .ofText (ascii "The Order")
    fixedBlock := List.replicate 16 0 ++ 1 :: List.replicate 11 7
    account := .ofText (ascii "account")
    fixedBlockSize := rfl }

/-- A druid. -/
def ulfPlayer : PlayerEntry :=
  { unnamedPlayer with
    name := .ofText (ascii "Ulf")
    fixedBlock := List.replicate 16 0 ++ 6 :: List.replicate 11 0
    fixedBlockSize := rfl }

/-- The leading fields of a fourth record, with a name that does not end. -/
def endlessName : List UInt8 :=
  List.replicate 70 90

/-- Five players are announced, and three of them are there. -/
def cutContents : List UInt8 :=
  List.replicate 60 0 ++ [5, 0, 0, 0] ++
    (encodeEntries [adaPlayer, unnamedPlayer, ulfPlayer] ++ endlessName)

def cutResponse : PacketObserver.ReceivedPacket where
  opcode := PacketObserver.kWhoAllResponseOpcode
  payload := .ofBytes cutContents (by decide +kernel)
  serverName := none
  windowMs := 0
  startMs := 0

/-- What follows them is not a record. -/
theorem cutContents_maximalPrefix :
    MaximalPrefix (cutContents.drop 64) (announcedPlayers cutContents)
      [adaPlayer, unnamedPlayer, ulfPlayer] := by
  have announced : announcedPlayers cutContents = 5 := by
    decide +kernel
  rw [announced]
  refine ⟨by decide, endlessName, rfl, .inr fun entry later starts => ?_⟩
  have taken : takePlayer endlessName = some (entry.record, later) :=
    takePlayer_eq_some_iff.mpr ⟨entry, starts, rfl⟩
  have notTaken : takePlayer endlessName = none := by
    decide +kernel
  rw [notTaken] at taken
  cases taken

/-- All three are captured, the nameless one between the others. -/
theorem whoAllResponse_capturesPlayers_cut :
    [adaPlayer, unnamedPlayer, ulfPlayer].length ≤
        (cutContents.length - 64) / 51 ∧
      (PacketObserver.maybeLogWhoAllResponse 1 cutResponse
          .initial).entries =
        ([adaPlayer, unnamedPlayer, ulfPlayer].map
            PlayerEntry.record).zipIdx.map
          (queueEntry 1 1 1) :=
  ((whoAllResponse_capturesPlayers 1 cutResponse .initial
    isWhoAllResponseOpcode_response rfl (by decide +kernel)).2
    (by decide +kernel)).2.2.1
    [adaPlayer, unnamedPlayer, ulfPlayer] cutContents_maximalPrefix

/-- The player without a name is captured with the others; only the consumer
passes over it. -/
theorem unnamed_player_captured :
    MaximalPrefix (unnamedContents.drop 64) (announcedPlayers unnamedContents)
        [unnamedPlayer] ∧
      (PacketObserver.maybeLogWhoAllResponse 1 unnamedResponse
          .initial).entries ≠
        (([unnamedPlayer].map PlayerEntry.record).zipIdx.filter
          fun listed => listed.1.named).map (queueEntry 1 1 1) := by
  refine ⟨unnamedPlayer_maximalPrefix, ?_⟩
  rw [maybeLogWhoAllResponse_headed 1 unnamedResponse .initial
    isWhoAllResponseOpcode_response rfl (by decide) (by decide)]
  decide +kernel

end MonomythClient.WhoAllResponse
