import MonomythClient.LoggedMoves
import MonomythClient.MultiPetSpawnObserver
import MonomythClient.PayloadCursors

namespace MonomythClient.MultiPetSpawnObserver

open ByteText (CString)
open FrontReaders LittleEndian LoggedMoves PayloadReader

/-!
# The layout of a spawn payload

A name, the spawn id, a run of fixed fields, a counted block of properties,
another run of fixed fields, an optional last name, a few more fixed fields and
the owner's id, then anything.  The parser accepts exactly the payloads that are
laid out so, and its cursor moves over each part without wrapping and without
leaving the payload, whether the parser succeeds or not.
-/

/-! ## Layouts -/

/-- The parts of a spawn payload, with the sizes that the parser skips. -/
structure SpawnLayout where
  name : CString
  spawnId : UInt32
  leadingFields : List UInt8
  propertyCount : UInt8
  properties : List UInt8
  fixedFields : List UInt8
  lastName : CString
  ownerFields : List UInt8
  ownerId : UInt32
  trailing : List UInt8
  named : name.bytes ≠ []
  leadingSize : leadingFields.length = kSpawnPrefixBytes.toNat
  propertiesSize : properties.length = 4 * propertyCount.toNat
  fixedSize : fixedFields.length = kSpawnFixedBytes.toNat
  ownerSize : ownerFields.length = kSpawnOwnerOffset.toNat

/-- The bytes of a spawn payload. -/
def SpawnLayout.encode (layout : SpawnLayout) : List UInt8 :=
  layout.name.bytes ++ 0 ::
    (bytes32 layout.spawnId ++ (layout.leadingFields ++
      (layout.propertyCount :: (layout.properties ++ (layout.fixedFields ++
        (layout.lastName.bytes ++ 0 :: (layout.ownerFields ++
          (bytes32 layout.ownerId ++ layout.trailing))))))))

/-- The entry in a spawn payload. -/
def SpawnLayout.entry (layout : SpawnLayout) : ParsedSpawnEntry where
  spawnId := layout.spawnId
  ownerId := layout.ownerId
  name := layout.name.bytes

/-- A word at the front, and what is left. -/
def takeWord (items : List UInt8) : Option (UInt32 × List UInt8) := do
  let (front, items) ← takeFront 4 items
  return (UInt32.ofNat (value front), items)

theorem takeWord_eq_some_iff
    {items rest : List UInt8}
    {word : UInt32} :
    takeWord items = some (word, rest) ↔ items = bytes32 word ++ rest := by
  simp only [takeWord, Option.bind_eq_bind, Option.bind_eq_some_iff,
    Prod.exists, takeFront_eq_some_iff, Option.pure_def, Option.some.injEq,
    Prod.mk.injEq]
  constructor
  · rintro ⟨front, _, ⟨rfl, fourBytes⟩, rfl, rfl⟩
    rw [bytes32_value fourBytes]
  · rintro rfl
    refine ⟨bytes32 word, rest, ⟨rfl, length_bytes32 word⟩, ?_, rfl⟩
    rw [value_bytes32, UInt32.ofNat_toNat]

/-- A byte at the front, and what is left. -/
def takeByte : List UInt8 → Option (UInt8 × List UInt8)
  | [] => none
  | byte :: items => some (byte, items)

theorem takeByte_eq_some_iff
    {items rest : List UInt8}
    {byte : UInt8} :
    takeByte items = some (byte, rest) ↔ items = byte :: rest := by
  cases items <;> simp [takeByte]

/-- The entry of a payload that is laid out as a spawn. -/
def takeSpawn (items : List UInt8) : Option ParsedSpawnEntry := do
  let (name, items) ← takeUntil 0 items
  guard (name ≠ [])
  let (spawnId, items) ← takeWord items
  let (_leading, items) ← takeFront kSpawnPrefixBytes.toNat items
  let (propertyCount, items) ← takeByte items
  let (_properties, items) ← takeFront (4 * propertyCount.toNat) items
  let (_fixed, items) ← takeFront kSpawnFixedBytes.toNat items
  let (_lastName, items) ← takeUntil 0 items
  let (_owner, items) ← takeFront kSpawnOwnerOffset.toNat items
  let (ownerId, _trailing) ← takeWord items
  return { spawnId := spawnId, ownerId := ownerId, name := name }

/-- It is taken exactly from what a layout encodes. -/
theorem takeSpawn_eq_some_iff
    {items : List UInt8}
    {entry : ParsedSpawnEntry} :
    takeSpawn items = some entry ↔
      ∃ layout : SpawnLayout,
        items = layout.encode ∧ layout.entry = entry := by
  simp only [takeSpawn, Option.bind_eq_bind, Option.bind_eq_some_iff,
    Prod.exists, takeFront_eq_some_iff, takeUntil_eq_some_iff,
    takeWord_eq_some_iff, takeByte_eq_some_iff, Option.guard_eq_some',
    Option.pure_def, Option.some.injEq]
  constructor
  · rintro ⟨name, _, ⟨rfl, nameWhole⟩, _, named, spawnId, _, rfl,
      leading, _, ⟨rfl, leadingSize⟩, propertyCount, _, rfl,
      properties, _, ⟨rfl, propertiesSize⟩, fixed, _, ⟨rfl, fixedSize⟩,
      lastName, _, ⟨rfl, lastNameWhole⟩, owner, _, ⟨rfl, ownerSize⟩,
      ownerId, trailing, rfl, rfl⟩
    exact ⟨⟨⟨name, nameWhole⟩, spawnId, leading, propertyCount, properties,
      fixed, ⟨lastName, lastNameWhole⟩, owner, ownerId, trailing, named,
      leadingSize, propertiesSize, fixedSize, ownerSize⟩, rfl, rfl⟩
  · rintro ⟨layout, rfl, rfl⟩
    exact ⟨layout.name.bytes, _, ⟨rfl, layout.name.unterminated⟩, (),
      layout.named, layout.spawnId, _, rfl,
      layout.leadingFields, _, ⟨rfl, layout.leadingSize⟩,
      layout.propertyCount, _, rfl,
      layout.properties, _, ⟨rfl, layout.propertiesSize⟩,
      layout.fixedFields, _, ⟨rfl, layout.fixedSize⟩,
      layout.lastName.bytes, _, ⟨rfl, layout.lastName.unterminated⟩,
      layout.ownerFields, _, ⟨rfl, layout.ownerSize⟩,
      layout.ownerId, layout.trailing, rfl, rfl⟩

/-! ## Reading -/

/-- The bounds checks that add in 64 bits do not wrap. -/
theorem wideCheck_iff
    (payloadLength offset : UInt32)
    {width : UInt64}
    (small : width.toNat < 2 ^ 32) :
    payloadLength.toUInt64 < offset.toUInt64 + width ↔
      payloadLength.toNat < offset.toNat + width.toNat := by
  have offsetFits := offset.toNat_lt
  rw [UInt64.lt_iff_toNat_lt, UInt64.toNat_add, UInt32.toNat_toUInt64,
    UInt32.toNat_toUInt64, Nat.mod_eq_of_lt (by omega)]

/-- An advance succeeds where its bytes end inside the payload. -/
theorem tryAdvance_eq
    (payloadLength cursor bytes : UInt32) :
    tryAdvance payloadLength cursor bytes =
      if cursor.toNat + bytes.toNat ≤ payloadLength.toNat then
        some (cursor + bytes)
      else
        none := by
  have wide : bytes.toUInt64.toNat = bytes.toNat :=
    UInt32.toNat_toUInt64 bytes
  have check :=
    wideCheck_iff payloadLength cursor (wide ▸ bytes.toNat_lt)
  simp only [tryAdvance, check, wide, UInt32.lt_iff_toNat_lt]
  split
  next outside =>
    rw [if_neg (by omega)]
  next inside =>
    rw [if_pos (by omega)]

/-- It moves by exactly its bytes. -/
theorem tryAdvance_moved
    {payloadLength cursor bytes next : UInt32}
    (advanced : tryAdvance payloadLength cursor bytes = some next) :
    next.toNat = cursor.toNat + bytes.toNat ∧
      next.toNat ≤ payloadLength.toNat := by
  rw [tryAdvance_eq] at advanced
  split at advanced
  next inside =>
    obtain rfl := Option.some.inj advanced
    have lengthFits := payloadLength.toNat_lt
    have moved : (cursor + bytes).toNat = cursor.toNat + bytes.toNat :=
      toNat_add_inside (by omega)
    omega
  next =>
    cases advanced

section Standing

variable
  {contents ahead : List UInt8}
  {payloadLength cursor : UInt32}
  {Result : Type}

/-- Bytes ahead of the cursor are read. -/
theorem tryReadBytes_eq
    (stands : Stands contents payloadLength cursor ahead)
    {width : Nat}
    (positive : 0 < width)
    (small : width < 2 ^ 32) :
    tryReadBytes (some contents) payloadLength cursor width =
      (takeFront width ahead).map Prod.fst := by
  have length := stands.length
  have whole := stands.whole
  have wide : (UInt64.ofNat width).toNat = width :=
    UInt64.toNat_ofNat_of_lt'
      (Nat.lt_trans small (by decide : 2 ^ 32 < UInt64.size))
  have check :=
    wideCheck_iff payloadLength cursor (lt_of_eq_of_lt wide small)
  have cursorInside : ¬ payloadLength < cursor :=
    UInt32.not_lt.mpr (UInt32.le_iff_toNat_le.mpr stands.inside)
  rw [tryReadBytes, takeFront]
  simp only [Nat.ne_of_gt positive, cursorInside, check, wide, false_or]
  by_cases enough : width ≤ ahead.length
  · rw [if_neg (by omega), if_pos enough, copyBytes, if_pos (by omega),
      stands.behind]
    rfl
  · rw [if_pos (by omega), if_neg enough]
    rfl

/-- An advance passes the bytes at the front. -/
theorem tryAdvance_stands
    (stands : Stands contents payloadLength cursor ahead)
    (bytes : UInt32) :
    (takeFront bytes.toNat ahead = none ∧
        tryAdvance payloadLength cursor bytes = none) ∨
      ∃ skipped rest next,
        takeFront bytes.toNat ahead = some (skipped, rest) ∧
          tryAdvance payloadLength cursor bytes = some next ∧
          Stands contents payloadLength next rest := by
  have length := stands.length
  rw [tryAdvance_eq]
  cases taken : takeFront bytes.toNat ahead with
  | none =>
      rw [takeFront_eq_none_iff] at taken
      rw [if_neg (by omega)]
      exact .inl ⟨rfl, rfl⟩
  | some parts =>
      obtain ⟨skipped, rest⟩ := parts
      obtain ⟨shape, sized⟩ := takeFront_eq_some_iff.mp taken
      have enough := congrArg List.length shape
      rw [List.length_append] at enough
      rw [if_pos (by omega)]
      subst shape
      exact .inr ⟨skipped, rest, _, rfl, rfl, (stands.advance sized).1⟩

/-- Skipping agrees with dropping from the front. -/
theorem bind_tryAdvance
    (stands : Stands contents payloadLength cursor ahead)
    (bytes : UInt32)
    {next : UInt32 → Option Result}
    {front : List UInt8 × List UInt8 → Option Result}
    (agree :
      ∀ skipped rest cursor,
        Stands contents payloadLength cursor rest →
          next cursor = front (skipped, rest)) :
    (tryAdvance payloadLength cursor bytes).bind next =
      (takeFront bytes.toNat ahead).bind front := by
  rcases tryAdvance_stands stands bytes with
    ⟨taken, advanced⟩ | ⟨skipped, rest, behind, taken, advanced, standsNext⟩
  · rw [taken, advanced]
    rfl
  · rw [taken, advanced]
    exact agree skipped rest behind standsNext

/-- A word ahead is read. -/
theorem tryReadU32_eq
    (stands : Stands contents payloadLength cursor ahead) :
    tryReadU32 (some contents) payloadLength cursor =
      (takeWord ahead).map Prod.fst := by
  rw [tryReadU32, tryReadBytes_eq stands (by decide) (by decide), takeWord]
  cases taken : takeFront 4 ahead with
  | none =>
      rfl
  | some parts =>
      obtain ⟨front, rest⟩ := parts
      obtain ⟨_, fourBytes⟩ := takeFront_eq_some_iff.mp taken
      obtain ⟨byte0, byte1, byte2, byte3, rfl⟩ :=
        List.length_eq_four.mp fourBytes
      change some (word32 byte0 byte1 byte2 byte3) = some _
      rw [← toNat_word32, UInt32.ofNat_toNat]

/-- Reading a word and moving behind it agrees with taking it. -/
theorem bind_word
    (stands : Stands contents payloadLength cursor ahead)
    {next : UInt32 → UInt32 → Option Result}
    {front : UInt32 × List UInt8 → Option Result}
    (agree :
      ∀ word rest cursor,
        Stands contents payloadLength cursor rest →
          next word cursor = front (word, rest)) :
    ((tryReadU32 (some contents) payloadLength cursor).bind fun word =>
        (tryAdvance payloadLength cursor 4).bind (next word)) =
      (takeWord ahead).bind front := by
  rw [tryReadU32_eq stands, takeWord]
  rcases tryAdvance_stands stands 4 with
    ⟨taken, advanced⟩ | ⟨word, rest, behind, taken, advanced, standsNext⟩
  · rw [show takeFront 4 ahead = none from taken]
    rfl
  · rw [show takeFront 4 ahead = some (word, rest) from taken, advanced]
    exact agree _ rest behind standsNext

/-- Reading a byte and moving behind it agrees with taking it. -/
theorem bind_byte
    (stands : Stands contents payloadLength cursor ahead)
    {next : UInt8 → UInt32 → Option Result}
    {front : UInt8 × List UInt8 → Option Result}
    (agree :
      ∀ byte rest cursor,
        Stands contents payloadLength cursor rest →
          next byte cursor = front (byte, rest)) :
    ((tryReadU8 (some contents) payloadLength cursor).bind fun byte =>
        (tryAdvance payloadLength cursor 1).bind (next byte)) =
      (takeByte ahead).bind front := by
  rw [tryReadU8, tryReadBytes_eq stands (by decide) (by decide)]
  cases ahead with
  | nil =>
      rfl
  | cons byte later =>
      rcases tryAdvance_stands stands 1 with
        ⟨taken, _⟩ | ⟨_, rest, behind, taken, advanced, standsNext⟩
      · cases taken
      · obtain ⟨rfl, rfl⟩ := Prod.mk.inj (Option.some.inj taken)
        rw [advanced]
        exact agree byte _ behind standsNext

/-- Reading a text agrees with taking it. -/
theorem bind_text
    (stands : Stands contents payloadLength cursor ahead)
    {next : List UInt8 × UInt32 → Option Result}
    {front : List UInt8 × List UInt8 → Option Result}
    (agree :
      ∀ text rest cursor,
        Stands contents payloadLength cursor rest →
          next (text, cursor) = front (text, rest)) :
    (tryReadCString (some contents) payloadLength cursor).bind next =
      (takeUntil 0 ahead).bind front := by
  cases taken : takeUntil 0 ahead with
  | none =>
      rw [stands.noText taken]
      rfl
  | some parts =>
      obtain ⟨text, rest⟩ := parts
      obtain ⟨behind, read, standsNext, _⟩ := stands.text taken
      rw [read]
      exact agree text rest behind standsNext

end Standing

/-! ## The parser -/

/-- A payload of a layout is not too short for the first check. -/
theorem SpawnLayout.le_length_encode (layout : SpawnLayout) :
    8 ≤ layout.encode.length := by
  simp only [encode, List.length_append, List.length_cons, length_bytes32]
  omega

/-- The parser takes the payload apart from the front. -/
theorem parseSingleSpawnPayload_eq
    {contents : List UInt8}
    {payloadLength : UInt32}
    (whole : contents.length = payloadLength.toNat) :
    parseSingleSpawnPayload (some contents) payloadLength =
      if payloadLength < 8 then none else takeSpawn contents := by
  have stands :
      Stands contents payloadLength 0 contents :=
    ⟨whole, Nat.zero_le _, rfl⟩
  rw [parseSingleSpawnPayload]
  by_cases short : payloadLength < 8
  · simp [short]
  · rw [if_neg short]
    have passes :
        (guard (some contents ≠ none ∧ ¬ payloadLength < 8) : Option Unit) =
          some () := by
      rw [Option.guard_eq_some']
      exact ⟨Option.some_ne_none contents, short⟩
    rw [passes, takeSpawn]
    refine bind_text stands fun name rest cursor stands => ?_
    refine congrArg (Option.bind _) (funext fun _ => ?_)
    refine bind_word stands fun spawnId rest cursor stands => ?_
    refine bind_tryAdvance stands _ fun _ rest cursor stands => ?_
    refine bind_byte stands fun propertyCount rest cursor stands => ?_
    have propertyBytes :
        4 * propertyCount.toNat = (propertyCount.toUInt32 * 4).toNat := by
      have countFits := propertyCount.toNat_lt
      have four : (4 : UInt32).toNat = 4 := rfl
      rw [UInt32.toNat_mul, UInt8.toNat_toUInt32, four,
        Nat.mod_eq_of_lt (by omega), Nat.mul_comm]
    simp only [propertyBytes]
    refine bind_tryAdvance stands _ fun _ rest cursor stands => ?_
    refine bind_tryAdvance stands _ fun _ rest cursor stands => ?_
    refine bind_text stands fun _ rest cursor stands => ?_
    refine bind_tryAdvance stands _ fun _ rest cursor stands => ?_
    change (tryReadU32 (some contents) payloadLength cursor).bind _ =
      (takeWord rest).bind _
    rw [tryReadU32_eq stands]
    cases takeWord rest <;> rfl

/-- It succeeds exactly on the payloads that are laid out as a spawn. -/
theorem parseSingleSpawnPayload_eq_some_iff
    (payload : Payload)
    (entry : ParsedSpawnEntry) :
    parseSingleSpawnPayload payload.pointer payload.length = some entry ↔
      ∃ layout : SpawnLayout,
        payload.pointer = some layout.encode ∧ layout.entry = entry := by
  cases pointer : payload.pointer with
  | none =>
      simp [parseSingleSpawnPayload]
  | some contents =>
      have whole := payload.readable contents pointer
      rw [parseSingleSpawnPayload_eq whole]
      simp only [Option.some.injEq]
      split
      next short =>
        rw [UInt32.lt_iff_toNat_lt, ← whole] at short
        simp only [reduceCtorEq, false_iff, not_exists]
        rintro layout ⟨rfl, _⟩
        exact absurd layout.le_length_encode (Nat.not_le.mpr short)
      next =>
        exact takeSpawn_eq_some_iff

/-! ## The cursor -/

/-- A move of the cursor over some bytes. -/
structure CursorMove where
  before : UInt32
  passed : Nat
  after : UInt32
  deriving DecidableEq, Repr

/-- The move did not wrap, and ended inside the payload. -/
structure CursorMove.Inside
    (payloadLength : UInt32)
    (move : CursorMove) :
    Prop where
  exact : move.after.toNat = move.before.toNat + move.passed
  inside : move.after.toNat ≤ payloadLength.toNat

/-- `TryAdvance`, with the move of the cursor. -/
def loggedAdvance
    (payloadLength cursor bytes : UInt32) :
    Logged CursorMove UInt32 :=
  moving (tryAdvance payloadLength cursor bytes) fun next =>
    { before := cursor, passed := bytes.toNat, after := next }

/-- `TryReadCString`, with the move of the cursor behind the terminator. -/
def loggedText
    (payload : Pointer)
    (payloadLength cursor : UInt32) :
    Logged CursorMove (List UInt8 × UInt32) :=
  moving (tryReadCString payload payloadLength cursor) fun read =>
    { before := cursor, passed := read.1.length + 1, after := read.2 }

/-- `ParseSingleSpawnPayload`, with the moves of its cursor. -/
def loggedParse
    (payload : Pointer)
    (payloadLength : UInt32) :
    Logged CursorMove ParsedSpawnEntry := do
  unmoved (guard (payload ≠ none ∧ ¬ payloadLength < 8))
  let (name, cursor) ← loggedText payload payloadLength 0
  unmoved (guard (name ≠ []))
  let spawnId ← unmoved (tryReadU32 payload payloadLength cursor)
  let cursor ← loggedAdvance payloadLength cursor 4
  let cursor ← loggedAdvance payloadLength cursor kSpawnPrefixBytes
  let propertyCount ← unmoved (tryReadU8 payload payloadLength cursor)
  let cursor ← loggedAdvance payloadLength cursor 1
  let cursor ←
    loggedAdvance payloadLength cursor (propertyCount.toUInt32 * 4)
  let cursor ← loggedAdvance payloadLength cursor kSpawnFixedBytes
  let (_, cursor) ← loggedText payload payloadLength cursor
  let cursor ← loggedAdvance payloadLength cursor kSpawnOwnerOffset
  let ownerId ← unmoved (tryReadU32 payload payloadLength cursor)
  return { spawnId := spawnId, ownerId := ownerId, name := name }

theorem logs_advance (payloadLength cursor bytes : UInt32) :
    Logs (CursorMove.Inside payloadLength)
      (loggedAdvance payloadLength cursor bytes)
      (tryAdvance payloadLength cursor bytes) :=
  logs_moving fun _ advanced =>
    ⟨(tryAdvance_moved advanced).1, (tryAdvance_moved advanced).2⟩

theorem logs_text (payload : Payload) (cursor : UInt32) :
    Logs (CursorMove.Inside payload.length)
      (loggedText payload.pointer payload.length cursor)
      (tryReadCString payload.pointer payload.length cursor) := by
  refine logs_moving fun read isRead => ?_
  cases pointer : payload.pointer with
  | none =>
      rw [pointer] at isRead
      cases isRead
  | some contents =>
      have whole := payload.readable contents pointer
      rw [pointer] at isRead
      have inside : cursor.toNat ≤ payload.length.toNat := by
        rw [tryReadCString] at isRead
        split at isRead
        next =>
          cases isRead
        next before =>
          exact UInt32.le_iff_toNat_le.mp
            (UInt32.le_of_lt (UInt32.not_le.mp before))
      have stands := Stands.start whole inside
      cases taken : takeUntil 0 (contents.drop cursor.toNat) with
      | none =>
          rw [stands.noText taken] at isRead
          cases isRead
      | some parts =>
          obtain ⟨behind, readThere, standsNext, moved⟩ := stands.text taken
          obtain rfl := Option.some.inj (readThere.symm.trans isRead)
          exact ⟨moved, standsNext.inside⟩

/-- The log is that of the parser, and none of its moves leaves the payload. -/
theorem logs_parse (payload : Payload) :
    Logs (CursorMove.Inside payload.length)
      (loggedParse payload.pointer payload.length)
      (parseSingleSpawnPayload payload.pointer payload.length) := by
  refine logs_bind (logs_unmoved _) fun _ => ?_
  refine logs_bind (logs_text _ _) fun read => ?_
  refine logs_bind (logs_unmoved _) fun _ => ?_
  refine logs_bind (logs_unmoved _) fun _ => ?_
  refine logs_bind (logs_advance _ _ _) fun _ => ?_
  refine logs_bind (logs_advance _ _ _) fun _ => ?_
  refine logs_bind (logs_unmoved _) fun _ => ?_
  refine logs_bind (logs_advance _ _ _) fun _ => ?_
  refine logs_bind (logs_advance _ _ _) fun _ => ?_
  refine logs_bind (logs_advance _ _ _) fun _ => ?_
  refine logs_bind (logs_text _ _) fun _ => ?_
  refine logs_bind (logs_advance _ _ _) fun _ => ?_
  refine logs_bind (logs_unmoved _) fun _ => ?_
  exact logs_pure _

/-- Every payload laid out as a spawn parses as its spawn id, owner id and
name; no other payload parses; and on every payload the moves of the cursor
neither wrap nor end outside. -/
theorem spawnPayload_parsed_exactly (payload : Payload) :
    (∀ layout : SpawnLayout,
        payload.pointer = some layout.encode →
          parseSingleSpawnPayload payload.pointer payload.length =
            some
              { spawnId := layout.spawnId
                ownerId := layout.ownerId
                name := layout.name.bytes }) ∧
      (∀ entry,
        parseSingleSpawnPayload payload.pointer payload.length =
            some entry →
          ∃ layout : SpawnLayout,
            payload.pointer = some layout.encode ∧ layout.entry = entry) ∧
      (loggedParse payload.pointer payload.length).result =
        parseSingleSpawnPayload payload.pointer payload.length ∧
      ∀ move ∈ (loggedParse payload.pointer payload.length).moves,
        move.Inside payload.length := by
  have logs := logs_parse payload
  refine ⟨fun layout laidOut => ?_, fun entry parsed => ?_, logs.result,
    logs.moves⟩
  · exact (parseSingleSpawnPayload_eq_some_iff payload layout.entry).mpr
      ⟨layout, laidOut, rfl⟩
  · exact (parseSingleSpawnPayload_eq_some_iff payload entry).mp parsed

end MonomythClient.MultiPetSpawnObserver
