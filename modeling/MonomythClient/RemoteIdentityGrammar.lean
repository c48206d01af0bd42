import MonomythClient.RemoteMulticlassIdentity

namespace MonomythClient.RemoteMulticlassIdentity

open ByteText LittleEndian MulticlassIdentity PayloadReader

/-!
# The grammar of remote-identity packets

A packet is a 32-bit record count and that many records; each record is a
zero-terminated name, a class id and a class mask.  Bytes behind the records
are ignored.  The parser accepts exactly these packets, keeps exactly the
acceptable records, and never reads behind the payload.
-/

/-! ## Records and packets -/

/-- One record: its name cannot contain the byte that ends it. -/
structure Record where
  characterName : CString
  nativeClassId : UInt32
  classesBitmask : UInt32
  deriving DecidableEq

/-- The bytes of a record. -/
def Record.encode (record : Record) : List UInt8 :=
  record.characterName.bytes ++
    0 :: (bytes32 record.nativeClassId ++ bytes32 record.classesBitmask)

/-- The entry a record stands for. -/
def Record.entry (record : Record) : ParsedEntry where
  characterName := record.characterName.bytes
  nativeClassId := record.nativeClassId
  classesBitmask := record.classesBitmask

/-- The parser's test on a record. -/
def Record.acceptable (record : Record) : Bool :=
  isAcceptableRemoteIdentityEntry record.characterName.bytes
    record.nativeClassId record.classesBitmask

/-- The bytes of some records, in order. -/
def encodeRecords (records : List Record) : List UInt8 :=
  records.flatMap Record.encode

/-- The packet that announces some records. -/
def encodePayload (records : List Record) : List UInt8 :=
  bytes32 (UInt32.ofNat records.length) ++ encodeRecords records

/-- What a record adds to the result. -/
def ParseResult.withRecord
    (result : ParseResult)
    (record : Record) : ParseResult :=
  if record.acceptable then
    { result with
      parsedEntryCount := result.parsedEntryCount + 1
      acceptedEntryCount := result.acceptedEntryCount + 1
      entries := result.entries ++ [record.entry] }
  else
    { result with
      parsedEntryCount := result.parsedEntryCount + 1
      rejectedEntryCount := result.rejectedEntryCount + 1 }

/-- A record takes at least the bytes of an empty name and two fields. -/
theorem Record.le_length_encode (record : Record) :
    9 ≤ record.encode.length := by
  simp [Record.encode]

/-- So records take at least that much each. -/
theorem le_length_encodeRecords (records : List Record) :
    9 * records.length ≤ (encodeRecords records).length := by
  induction records with
  | nil =>
      simp
  | cons record later inductionHypothesis =>
      have recordLength := record.le_length_encode
      simp only [encodeRecords, List.flatMap_cons, List.length_append,
        List.length_cons] at inductionHypothesis ⊢
      omega

/-! ## One record -/

section Reading

variable {contents : List UInt8} {payloadLength : UInt32}

/-- A record at the cursor is added, and the cursor moves behind it. -/
theorem parseEntries_record
    (whole : contents.length = payloadLength.toNat)
    {cursor : UInt32}
    {record : Record}
    {rest : List UInt8}
    (ahead : contents.drop cursor.toNat = record.encode ++ rest)
    (remaining : Nat)
    (result : ParseResult) :
    ∃ next,
      parseEntries (some contents) payloadLength (remaining + 1) cursor
          result =
        parseEntries (some contents) payloadLength remaining next
          (result.withRecord record) ∧
      contents.drop next.toNat = rest := by
  have nameAhead :
      contents.drop cursor.toNat =
        record.characterName.bytes ++
          0 :: (bytes32 record.nativeClassId ++
            (bytes32 record.classesBitmask ++ rest)) := by
    rw [ahead, Record.encode]
    simp
  obtain ⟨behindName, nameRead, behindNameIs, idAhead⟩ :=
    tryReadCString_found whole nameAhead
      record.characterName.unterminated
  have idRead := tryReadU32_found whole idAhead
  have lengths := congrArg List.length idAhead
  simp only [List.length_drop, List.length_append,
    length_bytes32] at lengths
  have lengthFits := payloadLength.toNat_lt
  have behindId : (behindName + 4).toNat = behindName.toNat + 4 :=
    toNat_add_inside (by simpa using by omega)
  have behindMask : (behindName + 8).toNat = behindName.toNat + 8 :=
    toNat_add_inside (by simpa using by omega)
  have maskAhead :
      contents.drop (behindName + 4).toNat =
        bytes32 record.classesBitmask ++ rest := by
    rw [behindId, ← List.drop_drop, idAhead,
      List.drop_left' (length_bytes32 _)]
  have maskRead := tryReadU32_found whole maskAhead
  refine ⟨behindName + 8, ?_, ?_⟩
  · rw [parseEntries, nameRead]
    simp only [idRead, maskRead, ParseResult.withRecord,
      Record.acceptable]
    by_cases accepted :
        isAcceptableRemoteIdentityEntry record.characterName.bytes
          record.nativeClassId record.classesBitmask = true
    · simp [accepted, Record.entry]
    · simp [accepted]
  · rw [behindMask, Nat.add_assoc behindName.toNat 4 4 |>.symm,
      ← List.drop_drop, ← behindId, maskAhead,
      List.drop_left' (length_bytes32 _)]

/-- Where no record starts, the loop gives up. -/
theorem parseEntries_noRecord
    (whole : contents.length = payloadLength.toNat)
    {cursor : UInt32}
    (noRecord :
      ∀ record rest,
        contents.drop cursor.toNat ≠ Record.encode record ++ rest)
    (remaining : Nat)
    (result : ParseResult) :
    parseEntries (some contents) payloadLength (remaining + 1) cursor
        result =
      result.malformed := by
  by_cases terminated : 0 ∈ contents.drop cursor.toNat
  · obtain ⟨name, rest, nameAhead, nonzero⟩ :=
      List.eq_append_cons_of_mem terminated
    obtain ⟨behindName, nameRead, behindNameIs, restAhead⟩ :=
      tryReadCString_found whole nameAhead nonzero
    have restLength := congrArg List.length restAhead
    simp only [List.length_drop] at restLength
    have inside := congrArg List.length nameAhead
    simp only [List.length_drop, List.length_append,
      List.length_cons] at inside
    rw [parseEntries, nameRead]
    -- The name is there, so one of the two fields is cut off.
    have tooShort : rest.length < 8 := by
      by_contra longEnough
      have idBytes : (rest.take 4).length = 4 := by
        rw [List.length_take]
        omega
      have maskBytes : ((rest.drop 4).take 4).length = 4 := by
        rw [List.length_take, List.length_drop]
        omega
      apply noRecord
        { characterName := ⟨name, nonzero⟩
          nativeClassId := UInt32.ofNat (value (rest.take 4))
          classesBitmask := UInt32.ofNat (value ((rest.drop 4).take 4)) }
        (rest.drop 8)
      rw [nameAhead]
      simp only [Record.encode, bytes32_value idBytes,
        bytes32_value maskBytes, List.append_assoc, List.cons_append]
      rw [show rest.drop 8 = (rest.drop 4).drop 4 by
          rw [List.drop_drop],
        List.take_append_drop, List.take_append_drop]
    have lengthFits := payloadLength.toNat_lt
    by_cases idCut : rest.length < 4
    · have idUnread :
          tryReadU32 (some contents) payloadLength behindName = none :=
        tryReadU32_outside _ (by omega)
      simp only [idUnread]
    · have behindId : (behindName + 4).toNat = behindName.toNat + 4 :=
        toNat_add_inside (by simpa using by omega)
      have maskUnread :
          tryReadU32 (some contents) payloadLength (behindName + 4) =
            none :=
        tryReadU32_outside _ (by omega)
      simp only [maskUnread]
      cases tryReadU32 (some contents) payloadLength behindName with
      | none =>
          rfl
      | some nativeClassId =>
          rfl
  · rw [parseEntries, tryReadCString_unfound terminated]

/-! ## The record loop -/

/-- The loop reads as many records as it is asked for. -/
theorem parseEntries_records
    (whole : contents.length = payloadLength.toNat)
    {cursor : UInt32}
    {records : List Record}
    {rest : List UInt8}
    (ahead : contents.drop cursor.toNat = encodeRecords records ++ rest)
    (result : ParseResult) :
    parseEntries (some contents) payloadLength records.length cursor
        result =
      { records.foldl ParseResult.withRecord result with
        valid := true } := by
  induction records generalizing cursor result with
  | nil =>
      rfl
  | cons record later inductionHypothesis =>
      have recordAhead :
          contents.drop cursor.toNat =
            record.encode ++ (encodeRecords later ++ rest) := by
        rw [ahead]
        simp [encodeRecords]
      obtain ⟨next, stepped, laterAhead⟩ :=
        parseEntries_record whole recordAhead later.length result
      rw [List.length_cons, stepped, inductionHypothesis laterAhead]
      rfl

/-- It ends well only when there are that many. -/
theorem parseEntries_cases
    (whole : contents.length = payloadLength.toNat)
    (remaining : Nat)
    (cursor : UInt32)
    (result : ParseResult) :
    (∃ records rest,
        records.length = remaining ∧
          contents.drop cursor.toNat = encodeRecords records ++ rest) ∨
      ∃ reached : ParseResult,
        parseEntries (some contents) payloadLength remaining cursor
            result =
          reached.malformed := by
  induction remaining generalizing cursor result with
  | zero =>
      exact .inl ⟨[], contents.drop cursor.toNat, rfl, rfl⟩
  | succ remaining inductionHypothesis =>
      by_cases starts :
          ∃ record rest,
            contents.drop cursor.toNat = Record.encode record ++ rest
      · obtain ⟨record, rest, ahead⟩ := starts
        obtain ⟨next, stepped, restAhead⟩ :=
          parseEntries_record whole ahead remaining result
        rcases inductionHypothesis next (result.withRecord record) with
          ⟨records, beyond, enough, recordsAhead⟩ | ⟨reached, gaveUp⟩
        · refine .inl ⟨record :: records, beyond, by simp [enough], ?_⟩
          rw [ahead, ← restAhead, recordsAhead]
          simp [encodeRecords]
        · exact .inr ⟨reached, stepped.trans gaveUp⟩
      · refine .inr ⟨result, parseEntries_noRecord whole ?_ _ _⟩
        intro record rest ahead
        exact starts ⟨record, rest, ahead⟩

end Reading

/-! ## Counts -/

/-- What records add to the counts, and to the list. -/
theorem foldl_withRecord
    (records : List Record)
    (result : ParseResult) :
    records.foldl ParseResult.withRecord result =
      { result with
        parsedEntryCount :=
          result.parsedEntryCount + UInt32.ofNat records.length
        acceptedEntryCount :=
          result.acceptedEntryCount +
            UInt32.ofNat (records.countP Record.acceptable)
        rejectedEntryCount :=
          result.rejectedEntryCount +
            UInt32.ofNat (records.countP (!Record.acceptable ·))
        entries :=
          result.entries ++
            (records.filter Record.acceptable).map Record.entry } := by
  induction records generalizing result with
  | nil =>
      simp
  | cons record later inductionHypothesis =>
      rw [List.foldl_cons, inductionHypothesis]
      by_cases accepted : record.acceptable = true
      · simp [ParseResult.withRecord, accepted, UInt32.ofNat_add,
          add_assoc, add_comm]
      · simp [ParseResult.withRecord, accepted, UInt32.ofNat_add,
          add_assoc, add_comm]

/-- The result of a payload that holds its records. -/
def ParseResult.ofRecords (records : List Record) : ParseResult where
  valid := true
  declaredEntryCount := UInt32.ofNat records.length
  parsedEntryCount := UInt32.ofNat records.length
  acceptedEntryCount :=
    UInt32.ofNat (records.countP Record.acceptable)
  rejectedEntryCount :=
    UInt32.ofNat (records.countP (!Record.acceptable ·))
  entries := (records.filter Record.acceptable).map Record.entry

/-! ## Whole packets -/

/-- As many bytes as a count and its records, at least, pass the pre-check. -/
theorem le_maxPossibleEntries
    {payloadLength entryCount : UInt32}
    (enough : 4 + 9 * entryCount.toNat ≤ payloadLength.toNat) :
    entryCount ≤ maxPossibleEntriesForPayloadLength payloadLength := by
  have header : kRemoteIdentityHeaderBytes.toNat = 4 := rfl
  have minimum : kRemoteIdentityMinimumEntryBytes.toNat = 9 := rfl
  rw [maxPossibleEntriesForPayloadLength, UInt32.le_iff_toNat_le]
  split
  · rename_i headerOnly
    have short := UInt32.le_iff_toNat_le.mp headerOnly
    rw [UInt32.toNat_zero]
    omega
  · rename_i longer
    have headerLe : kRemoteIdentityHeaderBytes ≤ payloadLength :=
      Std.le_of_lt (UInt32.not_le.mp longer)
    rw [UInt32.toNat_div, UInt32.toNat_sub_of_le _ _ headerLe, header,
      minimum]
    omega

/-- The pre-check admits every count that the loop would get through. -/
theorem le_maxPossibleEntries_of_valid
    (payload : Payload)
    (entryCount : UInt32)
    (result : ParseResult)
    (wouldParse :
      (parseEntries payload.pointer payload.length entryCount.toNat
        kRemoteIdentityHeaderBytes result).valid = true) :
    entryCount ≤ maxPossibleEntriesForPayloadLength payload.length := by
  rcases Nat.eq_zero_or_pos entryCount.toNat with isZero | positive
  · rw [UInt32.le_iff_toNat_le, isZero]
    exact Nat.zero_le _
  cases isPointer : payload.pointer with
  | none =>
      obtain ⟨remaining, isSucc⟩ := Nat.exists_eq_add_of_lt positive
      rw [isPointer, isSucc] at wouldParse
      simp [parseEntries, tryReadCString,
        ParseResult.malformed] at wouldParse
  | some contents =>
      have whole := payload.readable contents isPointer
      rw [isPointer] at wouldParse
      rcases parseEntries_cases whole entryCount.toNat
          kRemoteIdentityHeaderBytes result with
        ⟨records, rest, enough, ahead⟩ | ⟨reached, gaveUp⟩
      · have header : kRemoteIdentityHeaderBytes.toNat = 4 := rfl
        have lengths := congrArg List.length ahead
        have recordsLength := le_length_encodeRecords records
        rw [List.length_drop, List.length_append, header] at lengths
        exact le_maxPossibleEntries (by omega)
      · rw [gaveUp] at wouldParse
        simp [ParseResult.malformed] at wouldParse

/-- A payload that starts with a count and its records gives the records. -/
theorem parsePayload_records
    (payload : Payload)
    {entryCount : UInt32}
    {records : List Record}
    {rest : List UInt8}
    (counted : records.length = entryCount.toNat)
    (shape :
      payload.pointer =
        some (bytes32 entryCount ++ (encodeRecords records ++ rest))) :
    parsePayload payload.pointer payload.length =
      ParseResult.ofRecords records := by
  have whole := payload.readable _ shape
  have lengths := whole
  have recordsLength := le_length_encodeRecords records
  simp only [List.length_append, length_bytes32] at lengths
  have header : kRemoteIdentityHeaderBytes.toNat = 4 := rfl
  have longEnough :
      ¬ (some (bytes32 entryCount ++ (encodeRecords records ++ rest)) =
            none ∨
          payload.length < kRemoteIdentityHeaderBytes) := by
    rw [UInt32.lt_iff_toNat_lt]
    rintro (isNone | short)
    · cases isNone
    · omega
  have countRead :
      tryReadU32
          (some (bytes32 entryCount ++ (encodeRecords records ++ rest)))
          payload.length 0 =
        some entryCount :=
    tryReadU32_found whole rfl
  have possible :
      ¬ maxPossibleEntriesForPayloadLength payload.length < entryCount :=
    UInt32.not_lt.mpr (le_maxPossibleEntries (by omega))
  have recordsAhead :
      (bytes32 entryCount ++ (encodeRecords records ++ rest)).drop
          kRemoteIdentityHeaderBytes.toNat =
        encodeRecords records ++ rest :=
    List.drop_left' (length_bytes32 entryCount)
  rw [shape, parsePayload, if_neg longEnough, countRead]
  simp only [if_neg possible]
  rw [← counted, parseEntries_records whole recordsAhead,
    foldl_withRecord, ParseResult.ofRecords]
  simp [ParseResult.initial, counted]

/-- Every other payload is refused, and nothing of it is kept. -/
theorem parsePayload_cases (payload : Payload) :
    (∃ entryCount records rest,
        payload.pointer =
            some (bytes32 entryCount ++ (encodeRecords records ++ rest)) ∧
          records.length = entryCount.toNat) ∨
      ((parsePayload payload.pointer payload.length).valid = false ∧
        (parsePayload payload.pointer payload.length).entries = [] ∧
        (parsePayload payload.pointer
          payload.length).acceptedEntryCount = 0 ∧
        (parsePayload payload.pointer
          payload.length).rejectedEntryCount = 0) := by
  cases isPointer : payload.pointer with
  | none =>
      exact .inr ⟨rfl, rfl, rfl, rfl⟩
  | some contents =>
      have whole := payload.readable contents isPointer
      have header : kRemoteIdentityHeaderBytes.toNat = 4 := rfl
      rw [parsePayload]
      by_cases short :
          some contents = none ∨
            payload.length < kRemoteIdentityHeaderBytes
      · rw [if_pos short]
        exact .inr ⟨rfl, rfl, rfl, rfl⟩
      · have longEnough : 4 ≤ payload.length.toNat := by
          simpa only [reduceCtorEq, false_or, UInt32.not_lt,
            UInt32.le_iff_toNat_le, header] using short
        have countBytes : (contents.take 4).length = 4 := by
          rw [List.length_take]
          omega
        have headerFirst :
            contents =
              bytes32 (UInt32.ofNat (value (contents.take 4))) ++
                contents.drop 4 := by
          rw [bytes32_value countBytes, List.take_append_drop]
        generalize UInt32.ofNat (value (contents.take 4)) = entryCount
          at headerFirst
        have countRead :
            tryReadU32 (some contents) payload.length 0 =
              some entryCount :=
          tryReadU32_found whole headerFirst
        rw [if_neg short, countRead]
        simp only
        split
        · exact .inr ⟨rfl, rfl, rfl, rfl⟩
        · rcases parseEntries_cases whole entryCount.toNat
              kRemoteIdentityHeaderBytes
              { ParseResult.initial with
                declaredEntryCount := entryCount } with
            ⟨records, rest, counted, ahead⟩ | ⟨reached, gaveUp⟩
          · refine .inl ⟨entryCount, records, rest, ?_, counted⟩
            rw [headerFirst]
            exact congrArg (fun body => some (bytes32 entryCount ++ body))
              ahead
          · rw [gaveUp]
            exact .inr ⟨rfl, rfl, rfl, rfl⟩

/-! ## Memory behind the payload -/

/-- The record loop on memory: a fault, or its result. -/
def loadEntries
    (memory : Memory)
    (payloadLength : UInt32) :
    Nat → UInt32 → ParseResult → Option ParseResult
  | 0, _, result => some { result with valid := true }
  | remaining + 1, cursor, result => do
      let name ← loadCString memory payloadLength cursor
      match name with
      | none => return result.malformed
      | some (characterName, cursor) =>
          let nativeClassId ← loadU32 memory payloadLength cursor
          match nativeClassId with
          | none => return result.malformed
          | some nativeClassId =>
              let classesBitmask ←
                loadU32 memory payloadLength (cursor + 4)
              match classesBitmask with
              | none => return result.malformed
              | some classesBitmask =>
                  let result :=
                    { result with
                      parsedEntryCount := result.parsedEntryCount + 1 }
                  if isAcceptableRemoteIdentityEntry characterName
                      nativeClassId classesBitmask then
                    loadEntries memory payloadLength remaining (cursor + 8)
                      { result with
                        entries :=
                          result.entries ++
                            [⟨characterName, nativeClassId,
                              classesBitmask⟩]
                        acceptedEntryCount :=
                          result.acceptedEntryCount + 1 }
                  else
                    loadEntries memory payloadLength remaining (cursor + 8)
                      { result with
                        rejectedEntryCount :=
                          result.rejectedEntryCount + 1 }

/-- `ParsePayload` on memory: a fault, or its result. -/
def loadPayload
    (memory : Memory)
    (payloadLength : UInt32) :
    Option ParseResult :=
  if payloadLength < kRemoteIdentityHeaderBytes then
    some .initial
  else do
    let declared ← loadU32 memory payloadLength 0
    match declared with
    | none => return .initial
    | some entryCount =>
        let result :=
          { ParseResult.initial with declaredEntryCount := entryCount }
        if maxPossibleEntriesForPayloadLength payloadLength < entryCount then
          return result
        else
          loadEntries memory payloadLength entryCount.toNat
            kRemoteIdentityHeaderBytes result

/-- The record loop does not fault on a payload. -/
theorem loadEntries_eq
    {memory : Memory}
    {contents : List UInt8}
    {payloadLength : UInt32}
    (holds : memory.Holds contents)
    (whole : contents.length = payloadLength.toNat)
    (remaining : Nat)
    (cursor : UInt32)
    (result : ParseResult) :
    loadEntries memory payloadLength remaining cursor result =
      some
        (parseEntries (some contents) payloadLength remaining cursor
          result) := by
  induction remaining generalizing cursor result with
  | zero =>
      rfl
  | succ remaining inductionHypothesis =>
      rw [loadEntries, loadCString_eq holds whole, parseEntries]
      cases tryReadCString (some contents) payloadLength cursor with
      | none =>
          rfl
      | some found =>
          obtain ⟨characterName, next⟩ := found
          simp only [Option.bind_eq_bind, Option.bind_some,
            loadU32_eq holds whole]
          cases tryReadU32 (some contents) payloadLength next with
          | none =>
              rfl
          | some nativeClassId =>
              cases tryReadU32 (some contents) payloadLength (next + 4) with
              | none =>
                  rfl
              | some classesBitmask =>
                  simp only [inductionHypothesis]
                  split <;> rfl

/-- Nor does the parser, and nothing behind the payload matters to it. -/
theorem loadPayload_eq
    {memory : Memory}
    {contents : List UInt8}
    {payloadLength : UInt32}
    (holds : memory.Holds contents)
    (whole : contents.length = payloadLength.toNat) :
    loadPayload memory payloadLength =
      some (parsePayload (some contents) payloadLength) := by
  simp only [loadPayload, parsePayload, reduceCtorEq, false_or,
    loadU32_eq holds whole]
  split
  · rfl
  · cases tryReadU32 (some contents) payloadLength 0 with
    | none =>
        rfl
    | some entryCount =>
        simp only [Option.bind_eq_bind, Option.bind_some,
          loadEntries_eq holds whole]
        split <;> rfl

/-! ## The parser and its grammar -/

/-- A result's counts agree, and it holds as many entries as it accepted. -/
def ParseResult.Counted (result : ParseResult) : Prop :=
  result.parsedEntryCount = result.declaredEntryCount ∧
    result.acceptedEntryCount.toNat + result.rejectedEntryCount.toNat =
      result.declaredEntryCount.toNat ∧
    result.entries.length = result.acceptedEntryCount.toNat

/-- The result of fewer than `2 ^ 32` records is counted. -/
theorem ParseResult.counted_ofRecords
    {records : List Record}
    (fits : records.length < 2 ^ 32) :
    (ParseResult.ofRecords records).Counted := by
  have total := records.length_eq_countP_add_countP Record.acceptable
  simp only [Bool.not_eq_true] at total
  have rejected :
      records.countP (!Record.acceptable ·) =
        records.countP (fun record => decide (record.acceptable = false)) :=
    List.countP_congr (by simp)
  have acceptedFits :
      records.countP Record.acceptable < 2 ^ 32 := by omega
  have rejectedFits :
      records.countP (!Record.acceptable ·) < 2 ^ 32 := by omega
  refine ⟨rfl, ?_, ?_⟩
  · simp only [ofRecords, UInt32.toNat_ofNat_of_lt' fits,
      UInt32.toNat_ofNat_of_lt' acceptedFits,
      UInt32.toNat_ofNat_of_lt' rejectedFits]
    omega
  · simp only [ofRecords, UInt32.toNat_ofNat_of_lt' acceptedFits,
      List.length_map]
    exact List.countP_eq_length_filter.symm

/--
A payload is valid exactly when it starts with a count and that many records,
and then the acceptable records are its entries, in order; the pre-check
refuses no count that the loop would get through; the counts agree; a refused
payload leaves nothing; and on memory that holds nothing else the parser does
not fault.
-/
theorem parsePayload_grammar (payload : Payload) :
    ((parsePayload payload.pointer payload.length).valid = true ↔
        ∃ entryCount records rest,
          payload.pointer =
              some
                (bytes32 entryCount ++ (encodeRecords records ++ rest)) ∧
            records.length = entryCount.toNat) ∧
      (∀ records rest,
        payload.pointer = some (encodePayload records ++ rest) →
          (parsePayload payload.pointer payload.length).valid = true ∧
            (parsePayload payload.pointer payload.length).entries =
              (records.filter Record.acceptable).map Record.entry) ∧
      (∀ entryCount result,
        (parseEntries payload.pointer payload.length
              (UInt32.toNat entryCount) kRemoteIdentityHeaderBytes
              result).valid =
            true →
          entryCount ≤
            maxPossibleEntriesForPayloadLength payload.length) ∧
      ((parsePayload payload.pointer payload.length).valid = true →
        (parsePayload payload.pointer payload.length).Counted) ∧
      ((parsePayload payload.pointer payload.length).valid = false →
        (parsePayload payload.pointer payload.length).entries = [] ∧
          (parsePayload payload.pointer
            payload.length).acceptedEntryCount = 0 ∧
          (parsePayload payload.pointer
            payload.length).rejectedEntryCount = 0) ∧
      ∀ contents memory,
        payload.pointer = some contents →
          Memory.Holds memory contents →
            loadPayload memory payload.length =
              some (parsePayload payload.pointer payload.length) := by
  have records_of_valid :
      (parsePayload payload.pointer payload.length).valid = true →
        ∃ entryCount records rest,
          payload.pointer =
              some
                (bytes32 entryCount ++ (encodeRecords records ++ rest)) ∧
            records.length = entryCount.toNat := by
    intro isValid
    rcases parsePayload_cases payload with found | ⟨isInvalid, _⟩
    · exact found
    · simp [isInvalid] at isValid
  refine ⟨⟨records_of_valid, ?_⟩, ?_, ?_, ?_, ?_, ?_⟩
  · rintro ⟨entryCount, records, rest, shape, counted⟩
    rw [parsePayload_records payload counted shape]
    rfl
  · intro records rest shape
    have whole := payload.readable _ shape
    have recordsLength := le_length_encodeRecords records
    have lengthFits := payload.length.toNat_lt
    simp only [encodePayload, List.length_append,
      length_bytes32] at whole
    have counted :
        records.length = (UInt32.ofNat records.length).toNat :=
      (UInt32.toNat_ofNat_of_lt' (show records.length < 2 ^ 32 by
        omega)).symm
    rw [parsePayload_records payload counted
      (by rw [shape, encodePayload, List.append_assoc])]
    exact ⟨rfl, rfl⟩
  · exact le_maxPossibleEntries_of_valid payload
  · intro isValid
    obtain ⟨entryCount, records, rest, shape, counted⟩ :=
      records_of_valid isValid
    rw [parsePayload_records payload counted shape]
    exact ParseResult.counted_ofRecords (counted ▸ entryCount.toNat_lt)
  · intro isInvalid
    rcases parsePayload_cases payload with
      ⟨entryCount, records, rest, shape, counted⟩ | ⟨_, nothing⟩
    · rw [parsePayload_records payload counted shape] at isInvalid
      cases isInvalid
    · exact nothing
  · intro contents memory isPointer holds
    rw [isPointer]
    exact loadPayload_eq holds (payload.readable contents isPointer)

end MonomythClient.RemoteMulticlassIdentity
