import Mathlib.Data.List.TakeWhile
import MonomythClient.LittleEndian

namespace Ia32

open LittleEndian

/-!
# Instruction formats of IA-32

In 32-bit mode an instruction is a run of prefixes, an opcode, for some opcodes
a ModRM byte with its SIB byte and displacement, and an immediate.  This module
describes the formats of the common opcodes of one byte, with segment overrides
as the only prefixes, and what an instruction means at an address.
The bytes of an instruction determine it, and it means the same at every
address exactly when it has no operand relative to its own.
-/

/-! ## ModRM and SIB -/

/-- The addressing mode of a ModRM byte. -/
def modField (byte : UInt8) : Nat :=
  byte.toNat / 64

/-- The register, or the opcode's extension, in a ModRM byte. -/
def regField (byte : UInt8) : Nat :=
  byte.toNat / 8 % 8

/-- The base of a ModRM byte, and of a SIB byte. -/
def baseField (byte : UInt8) : Nat :=
  byte.toNat % 8

/-- Does a SIB byte follow? -/
def needsSib (modRm : UInt8) : Bool :=
  decide (modField modRm ≠ 3 ∧ baseField modRm = 4)

/-- The bytes of displacement that follow. -/
def displacementWidth (modRm : UInt8) (sib : Option UInt8) : Nat :=
  if modField modRm = 0 then
    if baseField modRm = 5 ∨ sib.map baseField = some 5 then 4 else 0
  else if modField modRm = 1 then
    1
  else if modField modRm = 2 then
    4
  else
    0

/-- A ModRM byte with what it calls for. -/
structure Addressing where
  modRm : UInt8
  sib : Option UInt8
  displacement : List UInt8
  sibPresent : sib.isSome = needsSib modRm
  displacementFits : displacement.length = displacementWidth modRm sib
  deriving DecidableEq

/-- The bytes of an addressing form. -/
def Addressing.encode (addressing : Addressing) : List UInt8 :=
  addressing.modRm :: (addressing.sib.toList ++ addressing.displacement)

/-! ## Opcodes -/

/-- The immediate behind an instruction: its width, and if it is relative. -/
structure Trailing where
  width : Nat
  relative : Bool
  deriving Repr, DecidableEq

/-- No immediate. -/
def Trailing.nothing : Trailing where
  width := 0
  relative := false

/-- A value, or an absolute address. -/
def Trailing.value (width : Nat) : Trailing where
  width := width
  relative := false

/-- An offset from the next instruction. -/
def Trailing.offset (width : Nat) : Trailing where
  width := width
  relative := true

/-- What follows an opcode; some ModRM bytes are undefined for some opcodes. -/
inductive Layout where
  | plain (trailing : Trailing)
  | addressed (trailing : UInt8 → Option Trailing)

/-- The immediate behind an opcode and its ModRM byte, if both go together. -/
def Layout.trailing : Layout → Option UInt8 → Option Trailing
  | .plain trailing, none => some trailing
  | .addressed trailing, some modRm => trailing modRm
  | .plain _, some _ => none
  | .addressed _, none => none

/-- The segment overrides. -/
def segmentOverrides : List UInt8 :=
  [0x26, 0x2E, 0x36, 0x3E, 0x64, 0x65]

/-- The common opcodes of one byte: arithmetic, moves, the stack, branches. -/
def layout (opcode : UInt8) : Option Layout :=
  let code := opcode.toNat
  if code < 0x40 then
    -- The arithmetic groups; the other columns hold prefixes and the like.
    if code % 8 < 4 then
      some (.addressed fun _ => some .nothing)
    else if code % 8 = 4 then
      some (.plain (.value 1))
    else if code % 8 = 5 then
      some (.plain (.value 4))
    else
      none
  else if code < 0x60 then
    some (.plain .nothing)
  else if code = 0x68 then
    some (.plain (.value 4))
  else if code = 0x69 then
    some (.addressed fun _ => some (.value 4))
  else if code = 0x6A then
    some (.plain (.value 1))
  else if code = 0x6B then
    some (.addressed fun _ => some (.value 1))
  else if 0x70 ≤ code ∧ code < 0x80 then
    some (.plain (.offset 1))
  else if code = 0x80 ∨ code = 0x83 then
    some (.addressed fun _ => some (.value 1))
  else if code = 0x81 then
    some (.addressed fun _ => some (.value 4))
  else if 0x84 ≤ code ∧ code < 0x8C then
    some (.addressed fun _ => some .nothing)
  else if code = 0x8D then
    -- An effective address is one of memory.
    some
      (.addressed fun modRm =>
        if modField modRm = 3 then none else some .nothing)
  else if 0x90 ≤ code ∧ code < 0x98 then
    some (.plain .nothing)
  else if 0xA0 ≤ code ∧ code < 0xA4 then
    some (.plain (.value 4))
  else if code = 0xA8 then
    some (.plain (.value 1))
  else if code = 0xA9 then
    some (.plain (.value 4))
  else if 0xB0 ≤ code ∧ code < 0xB8 then
    some (.plain (.value 1))
  else if 0xB8 ≤ code ∧ code < 0xC0 then
    some (.plain (.value 4))
  else if code = 0xC2 then
    some (.plain (.value 2))
  else if code = 0xC3 ∨ code = 0xC9 ∨ code = 0xCC then
    some (.plain .nothing)
  else if code = 0xC6 then
    some
      (.addressed fun modRm =>
        if regField modRm = 0 ∨ modRm = 0xF8 then some (.value 1) else none)
  else if code = 0xC7 then
    -- Moves under extension 0; `F8` begins a transaction, whose fallback is
    -- given relative to the next instruction.
    some
      (.addressed fun modRm =>
        if regField modRm = 0 then
          some (.value 4)
        else if modRm = 0xF8 then
          some (.offset 4)
        else
          none)
  else if code = 0xE8 ∨ code = 0xE9 then
    some (.plain (.offset 4))
  else if code = 0xEB then
    some (.plain (.offset 1))
  else
    none

/-- No override is an opcode. -/
theorem layout_override
    {byte : UInt8}
    (isOverride : byte ∈ segmentOverrides) :
    layout byte = none := by
  simp only [segmentOverrides, List.mem_cons, List.not_mem_nil,
    or_false] at isOverride
  rcases isOverride with rfl | rfl | rfl | rfl | rfl | rfl <;> rfl

/-! ## Instructions -/

/-- No instruction is longer. -/
def maximumLength : Nat := 15

/-- A well-formed instruction. -/
structure Instruction where
  overrides : List UInt8
  opcode : UInt8
  addressing : Option Addressing
  trailing : Trailing
  immediate : List UInt8
  areOverrides : ∀ byte ∈ overrides, byte ∈ segmentOverrides
  defined :
    (layout opcode).bind (·.trailing (addressing.map Addressing.modRm)) =
      some trailing
  immediateFits : immediate.length = trailing.width
  short :
    (overrides ++
        opcode :: (addressing.elim [] Addressing.encode ++
          immediate)).length ≤
      maximumLength

/-- The bytes of an instruction. -/
def Instruction.encode (instruction : Instruction) : List UInt8 :=
  instruction.overrides ++
    instruction.opcode ::
      (instruction.addressing.elim [] Addressing.encode ++
        instruction.immediate)

/-- The opcode is no override. -/
theorem Instruction.opcode_notMem (instruction : Instruction) :
    instruction.opcode ∉ segmentOverrides := by
  intro isOverride
  have defined := instruction.defined
  rw [layout_override isOverride] at defined
  cases defined

/-! ## The bytes determine the instruction -/

/-- The bytes of an addressing form determine it and where it ends. -/
theorem Addressing.encode_append_inj
    {left right : Addressing}
    {leftRest rightRest : List UInt8}
    (same : left.encode ++ leftRest = right.encode ++ rightRest) :
    left = right ∧ leftRest = rightRest := by
  obtain ⟨leftModRm, leftSib, leftDisplacement, leftPresent, leftFits⟩ := left
  obtain ⟨rightModRm, rightSib, rightDisplacement, rightPresent,
    rightFits⟩ := right
  simp only [encode, List.cons_append, List.cons.injEq,
    List.append_assoc] at same
  obtain ⟨rfl, sameTail⟩ := same
  have sameSib : leftSib = rightSib := by
    cases leftSib with
    | none =>
        cases rightSib with
        | none =>
            rfl
        | some right =>
            rw [← leftPresent] at rightPresent
            cases rightPresent
    | some left =>
        cases rightSib with
        | none =>
            rw [← rightPresent] at leftPresent
            cases leftPresent
        | some right =>
            exact congrArg some (List.cons.inj sameTail).1
  subst sameSib
  have sameDisplacement :=
    List.append_inj (List.append_cancel_left sameTail)
      (leftFits.trans rightFits.symm)
  obtain ⟨rfl, sameRest⟩ := sameDisplacement
  exact ⟨rfl, sameRest⟩

/-- A run of elements of a set is cut off by the first one outside. -/
theorem append_cons_inj
    {inside : List UInt8}
    {left right leftRest rightRest : List UInt8}
    {leftNext rightNext : UInt8}
    (leftInside : ∀ byte ∈ left, byte ∈ inside)
    (rightInside : ∀ byte ∈ right, byte ∈ inside)
    (leftOutside : leftNext ∉ inside)
    (rightOutside : rightNext ∉ inside)
    (same :
      left ++ leftNext :: leftRest = right ++ rightNext :: rightRest) :
    left = right ∧ leftNext = rightNext ∧ leftRest = rightRest := by
  have cut := congrArg (List.takeWhile (· ∈ inside)) same
  rw [List.takeWhile_append_of_pos (by simpa using leftInside),
    List.takeWhile_append_of_pos (by simpa using rightInside),
    List.takeWhile_cons_of_neg (by simpa using leftOutside),
    List.takeWhile_cons_of_neg (by simpa using rightOutside),
    List.append_nil, List.append_nil] at cut
  subst cut
  exact ⟨rfl, List.cons.inj (List.append_cancel_left same)⟩

/-- The bytes of an instruction determine it and where it ends. -/
theorem Instruction.encode_append_inj
    {left right : Instruction}
    {leftRest rightRest : List UInt8}
    (same : left.encode ++ leftRest = right.encode ++ rightRest) :
    left = right ∧ leftRest = rightRest := by
  have leftOutside := left.opcode_notMem
  have rightOutside := right.opcode_notMem
  obtain ⟨leftOverrides, leftOpcode, leftAddressing, leftTrailing,
    leftImmediate, leftAre, leftDefined, leftFits, leftShort⟩ := left
  obtain ⟨rightOverrides, rightOpcode, rightAddressing, rightTrailing,
    rightImmediate, rightAre, rightDefined, rightFits, rightShort⟩ := right
  simp only [encode, List.append_assoc, List.cons_append] at same
  obtain ⟨rfl, rfl, sameTail⟩ :=
    append_cons_inj leftAre rightAre leftOutside rightOutside same
  -- The layout of the opcode decides whether a ModRM byte follows.
  have sameAddressing :
      leftAddressing = rightAddressing ∧
        leftImmediate ++ leftRest = rightImmediate ++ rightRest := by
    obtain ⟨leftLayout, isLeftLayout, leftTrails⟩ :=
      Option.bind_eq_some_iff.mp leftDefined
    obtain ⟨rightLayout, isRightLayout, rightTrails⟩ :=
      Option.bind_eq_some_iff.mp rightDefined
    rw [isLeftLayout, Option.some.injEq] at isRightLayout
    subst isRightLayout
    cases leftLayout with
    | plain trailing =>
        cases leftAddressing with
        | none =>
            cases rightAddressing with
            | none =>
                exact ⟨rfl, sameTail⟩
            | some right =>
                cases rightTrails
        | some left =>
            cases leftTrails
    | addressed trailing =>
        cases leftAddressing with
        | none =>
            cases leftTrails
        | some left =>
            cases rightAddressing with
            | none =>
                cases rightTrails
            | some right =>
                obtain ⟨rfl, sameRest⟩ :=
                  Addressing.encode_append_inj sameTail
                exact ⟨rfl, sameRest⟩
  obtain ⟨rfl, sameImmediate⟩ := sameAddressing
  rw [leftDefined, Option.some.injEq] at rightDefined
  subst rightDefined
  obtain ⟨rfl, sameRest⟩ :=
    List.append_inj sameImmediate (leftFits.trans rightFits.symm)
  exact ⟨rfl, sameRest⟩

/-! ## Meaning -/

/-- The signed value of some bytes, as a 32-bit word. -/
def signExtended (bytes : List UInt8) : UInt32 :=
  if 2 * value bytes < 256 ^ bytes.length then
    UInt32.ofNat (value bytes)
  else
    UInt32.ofNat (value bytes + 2 ^ 32 - 256 ^ bytes.length)

/-- Four bytes need no extension. -/
theorem signExtended_bytes32 (word : UInt32) :
    signExtended (bytes32 word) = word := by
  have whole : 256 ^ 4 = 2 ^ 32 := by decide
  rw [signExtended, value_bytes32, length_bytes32, whole,
    Nat.add_sub_cancel, UInt32.ofNat_toNat, ite_self]

/-- Where a relative immediate points, for an instruction at an address. -/
def Instruction.target
    (instruction : Instruction)
    (address : UInt32) : Option UInt32 :=
  if instruction.trailing.relative then
    some
      (address + UInt32.ofNat instruction.encode.length +
        signExtended instruction.immediate)
  else
    none

/-- What an instruction does, up to the meaning of its opcode. -/
structure Meaning where
  overrides : List UInt8
  opcode : UInt8
  addressing : Option Addressing
  value : Option (List UInt8)
  target : Option UInt32
  deriving DecidableEq

/-- The meaning of an instruction at an address. -/
def Instruction.meaningAt
    (instruction : Instruction)
    (address : UInt32) : Meaning where
  overrides := instruction.overrides
  opcode := instruction.opcode
  addressing := instruction.addressing
  value :=
    if instruction.trailing.relative then
      none
    else
      some instruction.immediate
  target := instruction.target address

/-- It is the same everywhere when no operand is relative. -/
theorem Instruction.meaningAt_eq_iff (instruction : Instruction) :
    (∀ left right,
        instruction.meaningAt left = instruction.meaningAt right) ↔
      instruction.trailing.relative = false := by
  constructor
  · intro everywhere
    rw [← Bool.not_eq_true]
    intro relative
    have targets := congrArg Meaning.target (everywhere 0 1)
    simp only [meaningAt, target, relative, if_true,
      Option.some.injEq, UInt32.add_left_inj] at targets
    exact absurd targets (by decide)
  · intro absolute left right
    simp [meaningAt, target, absolute]

/-! ## Instructions in code -/

/-- The bytes of code from an offset on. -/
def bytesAt (code : Nat → UInt8) (offset length : Nat) : List UInt8 :=
  (List.range length).map fun index => code (offset + index)

@[simp] theorem length_bytesAt
    (code : Nat → UInt8)
    (offset length : Nat) :
    (bytesAt code offset length).length = length := by
  simp [bytesAt]

@[simp] theorem bytesAt_one (code : Nat → UInt8) (offset : Nat) :
    bytesAt code offset 1 = [code offset] := by
  simp [bytesAt]

/-- Bytes of code from an offset on, read from there. -/
theorem bytesAt_shift
    (code : Nat → UInt8)
    (start offset length : Nat) :
    bytesAt (fun index => code (start + index)) offset length =
      bytesAt code (start + offset) length := by
  simp [bytesAt, Nat.add_assoc]

/-- An instruction starts at an offset of some code. -/
def Instruction.StartsAt
    (instruction : Instruction)
    (code : Nat → UInt8)
    (offset : Nat) : Prop :=
  bytesAt code offset instruction.encode.length = instruction.encode

/-- Code can be cut at an offset between two runs of bytes. -/
theorem bytesAt_add
    (code : Nat → UInt8)
    (offset first second : Nat) :
    bytesAt code offset (first + second) =
      bytesAt code offset first ++
        bytesAt code (offset + first) second := by
  simp [bytesAt, List.range_add, Nat.add_assoc, Function.comp_def]

/-- At most one instruction starts at an offset. -/
theorem Instruction.startsAt_unique
    {left right : Instruction}
    {code : Nat → UInt8}
    {offset : Nat}
    (leftStarts : left.StartsAt code offset)
    (rightStarts : right.StartsAt code offset) :
    left = right := by
  have cutLeft :=
    bytesAt_add code offset left.encode.length right.encode.length
  have cutRight :=
    bytesAt_add code offset right.encode.length left.encode.length
  rw [StartsAt] at leftStarts rightStarts
  rw [leftStarts] at cutLeft
  rw [rightStarts, Nat.add_comm] at cutRight
  exact (encode_append_inj (cutLeft.symm.trans cutRight)).1

/-! ## Lengths -/

/-- The SIB byte, where the ModRM byte at offset 1 calls for one. -/
def sibOf (code : Nat → UInt8) : Option UInt8 :=
  if needsSib (code 1) then some (code 2) else none

/-- The length of an instruction with a ModRM byte at offset 1. -/
def addressedLength (code : Nat → UInt8) (immediateBytes : Nat) : Nat :=
  2 + (sibOf code).toList.length +
    displacementWidth (code 1) (sibOf code) + immediateBytes

/-- The length of an instruction behind its overrides. -/
def bodyLength (code : Nat → UInt8) : Nat :=
  match layout (code 0) with
  | none => 1
  | some (.plain trailing) => 1 + trailing.width
  | some (.addressed trailing) =>
      addressedLength code ((trailing (code 1)).elim 0 Trailing.width)

/-! ## Reading instructions -/

/-- The SIB byte stands behind the ModRM byte. -/
theorem toList_sibOf (code : Nat → UInt8) :
    (sibOf code).toList = bytesAt code 2 (sibOf code).toList.length := by
  cases needed : needsSib (code 1) with
  | true =>
      simp [sibOf, needed]
  | false =>
      simp [sibOf, needed, bytesAt]

theorem isSome_sibOf (code : Nat → UInt8) :
    (sibOf code).isSome = needsSib (code 1) := by
  cases needed : needsSib (code 1) with
  | true =>
      simp [sibOf, needed]
  | false =>
      simp [sibOf, needed]

/-- The addressing form whose ModRM byte is at offset 1. -/
def addressingAt (code : Nat → UInt8) : Addressing where
  modRm := code 1
  sib := sibOf code
  displacement :=
    bytesAt code (2 + (sibOf code).toList.length)
      (displacementWidth (code 1) (sibOf code))
  sibPresent := isSome_sibOf code
  displacementFits := length_bytesAt ..

/-- Its bytes are bytes of the code, and an immediate continues them. -/
theorem encode_addressingAt
    (code : Nat → UInt8)
    (immediateBytes : Nat) :
    (addressingAt code).encode ++
        bytesAt code (addressedLength code 0) immediateBytes =
      bytesAt code 1 (addressedLength code immediateBytes - 1) := by
  have length :
      addressedLength code immediateBytes - 1 =
        1 + ((sibOf code).toList.length +
          (displacementWidth (code 1) (sibOf code) + immediateBytes)) := by
    unfold addressedLength
    omega
  have offset :
      addressedLength code 0 =
        1 + 1 + (sibOf code).toList.length +
          displacementWidth (code 1) (sibOf code) := by
    rw [addressedLength, Nat.add_zero]
  rw [length, offset, bytesAt_add, bytesAt_add, bytesAt_add, bytesAt_one,
    ← toList_sibOf]
  simp [Addressing.encode, addressingAt]

section Reading

variable
  {code : Nat → UInt8}
  {overrides : Nat}
  (areOverrides : ∀ index < overrides, code index ∈ segmentOverrides)

include areOverrides

theorem mem_overrides :
    ∀ byte ∈ bytesAt code 0 overrides, byte ∈ segmentOverrides := by
  intro byte member
  obtain ⟨index, inRange, rfl⟩ := List.mem_map.mp member
  simpa using areOverrides index (List.mem_range.mp inRange)

/-- Overrides, an opcode and an immediate are an instruction. -/
theorem exists_startsAt_plain
    {trailing : Trailing}
    (isLayout : layout (code overrides) = some (.plain trailing))
    (short : overrides + (1 + trailing.width) ≤ maximumLength) :
    ∃ instruction : Instruction,
      instruction.StartsAt code 0 ∧
        instruction.encode.length = overrides + (1 + trailing.width) ∧
        instruction.trailing = trailing := by
  have bytes :
      bytesAt code 0 overrides ++
          code overrides ::
            ([] ++ bytesAt code (overrides + 1) trailing.width) =
        bytesAt code 0 (overrides + (1 + trailing.width)) := by
    rw [bytesAt_add, bytesAt_add, bytesAt_one]
    simp
  have length := congrArg List.length bytes
  rw [length_bytesAt] at length
  refine
    ⟨{ overrides := bytesAt code 0 overrides
       opcode := code overrides
       addressing := none
       trailing := trailing
       immediate := bytesAt code (overrides + 1) trailing.width
       areOverrides := mem_overrides areOverrides
       defined := by simp [isLayout, Layout.trailing]
       immediateFits := by simp
       short := length.trans_le short },
      ?_, length, rfl⟩
  rw [Instruction.StartsAt]
  exact (congrArg (bytesAt code 0) length).trans bytes.symm

/-- So are overrides, an opcode, an addressing form and an immediate. -/
theorem exists_startsAt_addressed
    {trails : UInt8 → Option Trailing}
    {trailing : Trailing}
    (isLayout : layout (code overrides) = some (.addressed trails))
    (defined : trails (code (overrides + 1)) = some trailing)
    (short :
      overrides +
          addressedLength (fun index => code (overrides + index))
            trailing.width ≤
        maximumLength) :
    ∃ instruction : Instruction,
      instruction.StartsAt code 0 ∧
        instruction.encode.length =
          overrides +
            addressedLength (fun index => code (overrides + index))
              trailing.width ∧
        instruction.trailing = trailing := by
  have bytes :
      bytesAt code 0 overrides ++
          code overrides ::
            ((addressingAt fun index => code (overrides + index)).encode ++
              bytesAt (fun index => code (overrides + index))
                (addressedLength (fun index => code (overrides + index)) 0)
                trailing.width) =
        bytesAt code 0
          (overrides +
            addressedLength (fun index => code (overrides + index))
              trailing.width) := by
    have split :
        addressedLength (fun index => code (overrides + index))
            trailing.width =
          1 +
            (addressedLength (fun index => code (overrides + index))
                trailing.width -
              1) := by
      unfold addressedLength
      omega
    rw [encode_addressingAt, split, bytesAt_add, bytesAt_add, bytesAt_one,
      bytesAt_shift]
    simp
  have length := congrArg List.length bytes
  rw [length_bytesAt] at length
  refine
    ⟨{ overrides := bytesAt code 0 overrides
       opcode := code overrides
       addressing :=
         some (addressingAt fun index => code (overrides + index))
       trailing := trailing
       immediate :=
         bytesAt (fun index => code (overrides + index))
           (addressedLength (fun index => code (overrides + index)) 0)
           trailing.width
       areOverrides := mem_overrides areOverrides
       defined := by simp [isLayout, Layout.trailing, addressingAt, defined]
       immediateFits := length_bytesAt ..
       short := length.trans_le short },
      ?_, length, rfl⟩
  rw [Instruction.StartsAt]
  exact (congrArg (bytesAt code 0) length).trans bytes.symm

/-- Conversely, an instruction has all the overrides it starts with. -/
theorem Instruction.StartsAt.shape
    {instruction : Instruction}
    (starts : instruction.StartsAt code 0)
    (noOverride : code overrides ∉ segmentOverrides) :
    instruction.overrides = bytesAt code 0 overrides ∧
      instruction.opcode = code overrides ∧
      ∀ addressing, instruction.addressing = some addressing →
        addressing.modRm = code (overrides + 1) := by
  have forwards :=
    bytesAt_add code 0 instruction.encode.length (overrides + (1 + 1))
  have backwards :=
    bytesAt_add code 0 overrides (1 + (1 + instruction.encode.length))
  rw [StartsAt] at starts
  rw [starts, encode, List.append_assoc, List.cons_append] at forwards
  rw [bytesAt_add code _ 1, bytesAt_one, Nat.zero_add,
    bytesAt_add code _ 1, bytesAt_one] at backwards
  have total :
      overrides + (1 + (1 + instruction.encode.length)) =
        instruction.encode.length + (overrides + (1 + 1)) := by
    omega
  rw [total] at backwards
  obtain ⟨sameOverrides, sameOpcode, sameTail⟩ :=
    append_cons_inj instruction.areOverrides (mem_overrides areOverrides)
      instruction.opcode_notMem noOverride
      (forwards.symm.trans backwards)
  refine ⟨sameOverrides, sameOpcode, ?_⟩
  intro addressing isAddressing
  rw [isAddressing] at sameTail
  exact (List.cons.inj sameTail).1

end Reading

end Ia32
