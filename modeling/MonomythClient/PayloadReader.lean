import MonomythClient.LittleEndian

namespace MonomythClient.PayloadReader

open LittleEndian

/-!
# Reading packet payloads

The packet observers receive a pointer and a 32-bit length.  They read fields
through bounds checks on that length, copy them out of memory, and scan for
zero-terminated strings.  The same reads recur in every observer and are
modelled here once.
-/

/-- A payload pointer: null, or the bytes readable from it on. -/
abbrev Pointer := Option (List UInt8)

/-- A pointer with the length that the receive hook passes along. -/
structure Payload where
  pointer : Pointer
  length : UInt32
  readable : ∀ bytes ∈ pointer, bytes.length = length.toNat
  deriving DecidableEq

/-- The payload made of the given bytes. -/
def Payload.ofBytes
    (bytes : List UInt8)
    (fits : bytes.length < 2 ^ 32) : Payload where
  pointer := some bytes
  length := UInt32.ofNat bytes.length
  readable := by
    intro found same
    cases same
    rw [UInt32.toNat_ofNat', Nat.mod_eq_of_lt fits]

/-! ## Bounds-checked fields -/

/-- A copy of `length` bytes; a copy past readable memory is a fault. -/
def copyBytes
    (memory : List UInt8)
    (offset length : Nat) :
    Option (List UInt8) :=
  if offset + length ≤ memory.length then
    some ((memory.drop offset).take length)
  else
    none

/-- A 32-bit field, when it lies in the payload and can be copied. -/
def tryReadU32
    (payload : Pointer)
    (payloadLength offset : UInt32) :
    Option UInt32 :=
  match payload with
  | none => none
  | some memory =>
      if payloadLength < offset ∨ payloadLength - offset < 4 then
        none
      else
        match copyBytes memory offset.toNat 4 with
        | some [byte0, byte1, byte2, byte3] =>
            some (word32 byte0 byte1 byte2 byte3)
        | _ => none

/-- A 64-bit field, when it lies in the payload and can be copied. -/
def tryReadU64
    (payload : Pointer)
    (payloadLength offset : UInt32) :
    Option UInt64 :=
  match payload with
  | none => none
  | some memory =>
      if payloadLength < offset ∨ payloadLength - offset < 8 then
        none
      else
        (copyBytes memory offset.toNat 8).map fun bytes =>
          accumulate64 bytes 0 0

/-! ## Zero-terminated strings -/

/--
The scan for a string's end: on while the cursor is inside the payload and not
at a zero byte, for at most the given number of steps.
-/
def scanString
    (memory : List UInt8)
    (payloadLength : UInt32) :
    Nat → UInt32 → UInt32
  | 0, cursor => cursor
  | steps + 1, cursor =>
      if cursor < payloadLength ∧ memory[cursor.toNat]? ≠ some 0 then
        scanString memory payloadLength steps (cursor + 1)
      else
        cursor

/-- `TryReadCString`: the string at an offset, and the offset behind it. -/
def tryReadCString
    (payload : Pointer)
    (payloadLength offset : UInt32) :
    Option (List UInt8 × UInt32) :=
  match payload with
  | none => none
  | some memory =>
      if payloadLength ≤ offset then
        none
      else
        let cursor :=
          scanString memory payloadLength payloadLength.toNat offset
        if payloadLength ≤ cursor then
          none
        else
          some
            ((memory.drop offset.toNat).take
                (cursor.toNat - offset.toNat),
              cursor + 1)

/-! ## Fields inside a payload -/

/-- The bounds check of both reads accepts exactly the fields inside. -/
theorem boundsCheck_iff
    (payloadLength offset width : UInt32) :
    (payloadLength < offset ∨ payloadLength - offset < width) ↔
      payloadLength.toNat < offset.toNat + width.toNat := by
  by_cases before : payloadLength < offset
  · have before' := UInt32.lt_iff_toNat_lt.mp before
    constructor
    · intro _
      omega
    · intro _
      exact .inl before
  · have inside : offset ≤ payloadLength := UInt32.not_lt.mp before
    have inside' := UInt32.le_iff_toNat_le.mp inside
    rw [UInt32.lt_iff_toNat_lt (a := payloadLength - offset),
      UInt32.toNat_sub_of_le _ _ inside]
    constructor
    · intro short
      have tooShort := short.resolve_left before
      omega
    · intro short
      refine .inr ?_
      omega

/-- A field inside the payload is its little-endian value. -/
theorem tryReadU32_inside
    {memory : List UInt8}
    {payloadLength offset : UInt32}
    (readable : payloadLength.toNat ≤ memory.length)
    (inside : offset.toNat + 4 ≤ payloadLength.toNat) :
    tryReadU32 (some memory) payloadLength offset =
      some (UInt32.ofNat (field memory offset.toNat 4)) := by
  have inBounds :
      ¬ (payloadLength < offset ∨ payloadLength - offset < 4) := by
    rw [boundsCheck_iff]
    change ¬ payloadLength.toNat < offset.toNat + 4
    omega
  have copied : offset.toNat + 4 ≤ memory.length := by omega
  have fourBytes :
      ((memory.drop offset.toNat).take 4).length = 4 := by
    rw [List.length_take, List.length_drop]
    omega
  simp only [tryReadU32, if_neg inBounds, copyBytes, if_pos copied]
  rw [field]
  generalize (memory.drop offset.toNat).take 4 = bytes at fourBytes
  obtain ⟨byte0, byte1, byte2, byte3, rfl⟩ :=
    List.length_eq_four.mp fourBytes
  simp only [Option.some.injEq]
  rw [← toNat_word32, UInt32.ofNat_toNat]

/-- A 64-bit field inside the payload is its little-endian value. -/
theorem tryReadU64_inside
    {memory : List UInt8}
    {payloadLength offset : UInt32}
    (readable : payloadLength.toNat ≤ memory.length)
    (inside : offset.toNat + 8 ≤ payloadLength.toNat) :
    tryReadU64 (some memory) payloadLength offset =
      some (UInt64.ofNat (field memory offset.toNat 8)) := by
  have inBounds :
      ¬ (payloadLength < offset ∨ payloadLength - offset < 8) := by
    rw [boundsCheck_iff]
    change ¬ payloadLength.toNat < offset.toNat + 8
    omega
  have copied : offset.toNat + 8 ≤ memory.length := by omega
  have eightBytes :
      ((memory.drop offset.toNat).take 8).length = 8 := by
    rw [List.length_take, List.length_drop]
    omega
  simp only [tryReadU64, if_neg inBounds, copyBytes, if_pos copied,
    Option.map_some, Option.some.injEq]
  have accumulated :=
    toNat_accumulate64 ((memory.drop offset.toNat).take 8) 0 0
      (by omega) (by decide)
  rw [← UInt64.ofNat_toNat (x := accumulate64 _ _ _), accumulated, field]
  simp

/-! ## Strings inside a payload -/

/-- Cursors inside a payload advance without wrapping. -/
theorem toNat_add_inside
    {cursor width : UInt32}
    (fits : cursor.toNat + width.toNat < 2 ^ 32) :
    (cursor + width).toNat = cursor.toNat + width.toNat := by
  rw [UInt32.toNat_add, Nat.mod_eq_of_lt fits]

/-- A scan that has a zero byte ahead of it in the payload stops there. -/
theorem toNat_scanString
    {memory name rest : List UInt8}
    {payloadLength cursor : UInt32}
    {steps : Nat}
    (ahead : memory.drop cursor.toNat = name ++ 0 :: rest)
    (nonzero : 0 ∉ name)
    (inside : cursor.toNat + name.length < payloadLength.toNat)
    (enough : name.length ≤ steps) :
    (scanString memory payloadLength steps cursor).toNat =
      cursor.toNat + name.length := by
  have atCursor :
      memory[cursor.toNat]? = (name ++ 0 :: rest)[0]? := by
    rw [← ahead, List.getElem?_drop, Nat.add_zero]
  induction name generalizing cursor steps with
  | nil =>
      cases steps with
      | zero =>
          rfl
      | succ steps =>
          simp [scanString, atCursor]
  | cons byte later inductionHypothesis =>
      cases steps with
      | zero =>
          simp at enough
      | succ steps =>
          simp only [List.mem_cons, not_or] at nonzero
          simp only [List.length_cons] at inside enough ⊢
          have lengthFits := payloadLength.toNat_lt
          have next : (cursor + 1).toNat = cursor.toNat + 1 :=
            toNat_add_inside (by rw [UInt32.toNat_one]; omega)
          have continues :
              cursor < payloadLength ∧
                memory[cursor.toNat]? ≠ some 0 := by
            refine ⟨UInt32.lt_iff_toNat_lt.mpr (by omega), ?_⟩
            simpa [atCursor] using Ne.symm nonzero.1
          have aheadNext :
              memory.drop (cursor + 1).toNat = later ++ 0 :: rest := by
            rw [next, ← List.drop_drop, ahead]
            rfl
          rw [scanString, if_pos continues,
            inductionHypothesis aheadNext nonzero.2 (by omega) (by omega)
              (by rw [← aheadNext, List.getElem?_drop, Nat.add_zero]),
            next]
          omega

/-- A scan without a zero byte ahead of it runs to the payload's end. -/
theorem le_scanString
    {memory : List UInt8}
    {payloadLength cursor : UInt32}
    {steps : Nat}
    (nonzero : 0 ∉ memory.drop cursor.toNat)
    (enough : payloadLength.toNat ≤ cursor.toNat + steps) :
    payloadLength ≤ scanString memory payloadLength steps cursor := by
  induction steps generalizing cursor with
  | zero =>
      exact UInt32.le_iff_toNat_le.mpr enough
  | succ steps inductionHypothesis =>
      rw [scanString]
      split
      · rename_i continues
        have inside := UInt32.lt_iff_toNat_lt.mp continues.1
        have lengthFits := payloadLength.toNat_lt
        have next : (cursor + 1).toNat = cursor.toNat + 1 :=
          toNat_add_inside (by rw [UInt32.toNat_one]; omega)
        apply inductionHypothesis
        · intro member
          rw [next, ← List.drop_drop] at member
          exact nonzero (List.mem_of_mem_drop member)
        · omega
      · rename_i stops
        by_contra notYet
        have inside : cursor < payloadLength := UInt32.not_le.mp notYet
        have isZero : memory[cursor.toNat]? = some 0 := by
          by_contra isNonzero
          exact stops ⟨inside, isNonzero⟩
        obtain ⟨inMemory, zeroAt⟩ := List.getElem?_eq_some_iff.mp isZero
        apply nonzero
        rw [List.drop_eq_getElem_cons inMemory, zeroAt]
        exact List.mem_cons_self

/-- A terminated string inside the payload is read up to its terminator. -/
theorem tryReadCString_found
    {memory name rest : List UInt8}
    {payloadLength offset : UInt32}
    (whole : memory.length = payloadLength.toNat)
    (ahead : memory.drop offset.toNat = name ++ 0 :: rest)
    (nonzero : 0 ∉ name) :
    ∃ next,
      tryReadCString (some memory) payloadLength offset =
          some (name, next) ∧
        next.toNat = offset.toNat + name.length + 1 ∧
        memory.drop next.toNat = rest := by
  have remaining := congrArg List.length ahead
  simp only [List.length_drop, List.length_append,
    List.length_cons] at remaining
  have lengthFits := payloadLength.toNat_lt
  have scanned :
      (scanString memory payloadLength payloadLength.toNat offset).toNat =
        offset.toNat + name.length :=
    toNat_scanString ahead nonzero (by omega) (by omega)
  generalize stopsAt :
    scanString memory payloadLength payloadLength.toNat offset = cursor
      at scanned
  have next : (cursor + 1).toNat = offset.toNat + name.length + 1 := by
    rw [← scanned]
    exact toNat_add_inside (by rw [UInt32.toNat_one]; omega)
  refine ⟨cursor + 1, ?_, next, ?_⟩
  · have offsetInside : ¬ payloadLength ≤ offset := by
      rw [UInt32.le_iff_toNat_le]
      omega
    have cursorInside : ¬ payloadLength ≤ cursor := by
      rw [UInt32.le_iff_toNat_le]
      omega
    simp only [tryReadCString, if_neg offsetInside, stopsAt,
      if_neg cursorInside, ahead, scanned, Nat.add_sub_cancel_left,
      List.take_left]
  · rw [next, Nat.add_assoc, ← List.drop_drop, ahead]
    simp

/-- Where no terminator is left, there is no string. -/
theorem tryReadCString_unfound
    {memory : List UInt8}
    {payloadLength offset : UInt32}
    (nonzero : 0 ∉ memory.drop offset.toNat) :
    tryReadCString (some memory) payloadLength offset = none := by
  simp only [tryReadCString]
  split
  · rfl
  · exact if_pos (le_scanString nonzero (by omega))

/-- A field that starts what is left of a payload is read. -/
theorem tryReadU32_found
    {memory rest : List UInt8}
    {payloadLength offset field : UInt32}
    (whole : memory.length = payloadLength.toNat)
    (ahead : memory.drop offset.toNat = bytes32 field ++ rest) :
    tryReadU32 (some memory) payloadLength offset = some field := by
  have remaining := congrArg List.length ahead
  simp only [List.length_drop, List.length_append,
    length_bytes32] at remaining
  rw [tryReadU32_inside (by omega) (by omega), LittleEndian.field, ahead,
    List.take_left' (length_bytes32 field), value_bytes32,
    UInt32.ofNat_toNat]

/-- A field that sticks out of the payload is not read. -/
theorem tryReadU32_outside
    (payload : Pointer)
    {payloadLength offset : UInt32}
    (outside : payloadLength.toNat < offset.toNat + 4) :
    tryReadU32 payload payloadLength offset = none := by
  cases payload with
  | none =>
      rfl
  | some memory =>
      exact if_pos ((boundsCheck_iff payloadLength offset 4).mpr outside)

/-! ## Memory behind a pointer -/

/-- What lies at each offset from a pointer; a read elsewhere is a fault. -/
abbrev Memory := Nat → Option UInt8

/-- The given bytes lie behind the pointer; nothing is said of the rest. -/
def Memory.Holds (memory : Memory) (contents : List UInt8) : Prop :=
  ∀ offset < contents.length, memory offset = contents[offset]?

/-- A run of bytes; a fault when one of them cannot be read. -/
def loadBytes (memory : Memory) : Nat → Nat → Option (List UInt8)
  | 0, _ => some []
  | count + 1, offset => do
      let byte ← memory offset
      let rest ← loadBytes memory count (offset + 1)
      return byte :: rest

/-- `TryReadU32` on memory: a fault, or its result. -/
def loadU32
    (memory : Memory)
    (payloadLength offset : UInt32) :
    Option (Option UInt32) :=
  if payloadLength < offset ∨ payloadLength - offset < 4 then
    some none
  else
    (loadBytes memory 4 offset.toNat).map fun bytes =>
      some (UInt32.ofNat (value bytes))

/-- The scan of `TryReadCString` on memory. -/
def loadScan
    (memory : Memory)
    (payloadLength : UInt32) :
    Nat → UInt32 → Option UInt32
  | 0, cursor => some cursor
  | steps + 1, cursor =>
      if cursor < payloadLength then do
        let byte ← memory cursor.toNat
        if byte ≠ 0 then
          loadScan memory payloadLength steps (cursor + 1)
        else
          return cursor
      else
        some cursor

/-- `TryReadCString` on memory: a fault, or its result. -/
def loadCString
    (memory : Memory)
    (payloadLength offset : UInt32) :
    Option (Option (List UInt8 × UInt32)) :=
  if payloadLength ≤ offset then
    some none
  else do
    let cursor ← loadScan memory payloadLength payloadLength.toNat offset
    if payloadLength ≤ cursor then
      return none
    else
      let text ←
        loadBytes memory (cursor.toNat - offset.toNat) offset.toNat
      return some (text, cursor + 1)

/-- Bytes inside the contents are loaded. -/
theorem loadBytes_inside
    {memory : Memory}
    {contents : List UInt8}
    (holds : memory.Holds contents)
    {count offset : Nat}
    (inside : offset + count ≤ contents.length) :
    loadBytes memory count offset =
      some ((contents.drop offset).take count) := by
  induction count generalizing offset with
  | zero =>
      rfl
  | succ count inductionHypothesis =>
      have here : offset < contents.length := by omega
      have rest :
          loadBytes memory count (offset + 1) =
            some ((contents.drop (offset + 1)).take count) :=
        inductionHypothesis (by omega)
      rw [loadBytes, holds offset here, List.getElem?_eq_getElem here,
        rest, List.drop_eq_getElem_cons here]
      rfl

/-- A field read stays inside the payload. -/
theorem loadU32_eq
    {memory : Memory}
    {contents : List UInt8}
    {payloadLength : UInt32}
    (holds : memory.Holds contents)
    (whole : contents.length = payloadLength.toNat)
    (offset : UInt32) :
    loadU32 memory payloadLength offset =
      some (tryReadU32 (some contents) payloadLength offset) := by
  have bounds := boundsCheck_iff payloadLength offset 4
  simp only [UInt32.reduceToNat] at bounds
  rw [loadU32]
  split
  · rename_i outside
    rw [tryReadU32_outside _ (bounds.mp outside)]
  · rename_i inside
    rw [bounds, Nat.not_lt] at inside
    rw [loadBytes_inside holds (by omega),
      tryReadU32_inside (by omega) inside]
    rfl

/-- The scan reads no further than the payload's end. -/
theorem loadScan_eq
    {memory : Memory}
    {contents : List UInt8}
    {payloadLength : UInt32}
    (holds : memory.Holds contents)
    (whole : contents.length = payloadLength.toNat)
    (steps : Nat)
    (cursor : UInt32) :
    loadScan memory payloadLength steps cursor =
      some (scanString contents payloadLength steps cursor) := by
  induction steps generalizing cursor with
  | zero =>
      rfl
  | succ steps inductionHypothesis =>
      rw [loadScan, scanString]
      by_cases inside : cursor < payloadLength
      · have here : cursor.toNat < contents.length := by
          rw [whole]
          exact UInt32.lt_iff_toNat_lt.mp inside
        rw [if_pos inside, holds cursor.toNat here,
          List.getElem?_eq_getElem here]
        by_cases isZero : contents[cursor.toNat] = 0
        · simp [isZero]
        · simp [inside, isZero, inductionHypothesis]
      · simp [inside]

/-- A string read stays inside the payload. -/
theorem loadCString_eq
    {memory : Memory}
    {contents : List UInt8}
    {payloadLength : UInt32}
    (holds : memory.Holds contents)
    (whole : contents.length = payloadLength.toNat)
    (offset : UInt32) :
    loadCString memory payloadLength offset =
      some (tryReadCString (some contents) payloadLength offset) := by
  simp only [loadCString, tryReadCString]
  split
  · rfl
  · rename_i offsetInside
    have offsetLt := UInt32.lt_iff_toNat_lt.mp (UInt32.not_le.mp offsetInside)
    rw [loadScan_eq holds whole]
    simp only [Option.bind_eq_bind, Option.bind_some]
    split
    · rfl
    · rename_i cursorInside
      have cursorLt :=
        UInt32.lt_iff_toNat_lt.mp (UInt32.not_le.mp cursorInside)
      rw [loadBytes_inside holds (by omega)]
      rfl

end MonomythClient.PayloadReader
