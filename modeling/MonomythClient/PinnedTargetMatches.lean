import Mathlib.Data.List.Find
import MonomythClient.PinnedTargets

namespace MonomythClient.RelocatedBytes

open FlatMemory LittleEndian

/-!
# Pinned targets at other bases

A loader places the image at a multiple of 64 KiB, so that of an operand it
changes the two upper bytes only.  The matcher accepts a target there exactly
when none of these bytes is in the target, or when all operands that have them
there are of a recognised form and the base is not 2 GiB or more above the
expected one.
-/

/-! ## Loading -/

/-- What a loader makes of code: it adds to every operand. -/
def relocate
    (code : Nat → UInt8)
    (operands : List Nat)
    (difference : UInt32) : Nat → UInt8 :=
  fun offset =>
    match
      operands.find? fun operand =>
        operand ≤ offset ∧ offset < operand + 4 with
    | some operand =>
        (bytes32 (readLe32 code operand + difference)).getD
          (offset - operand) 0
    | none => code offset

/-- A place for an image of a size: a multiple of 64 KiB, with room for it. -/
structure Placement (sizeOfImage : Nat) (base : UInt32) : Prop where
  aligned : base.toNat % 0x10000 = 0
  room : base.toNat + sizeOfImage ≤ 2 ^ 32

/-- The upper half of an operand is at this offset. -/
def Moved (operands : List Nat) (offset : Nat) : Prop :=
  ∃ operand ∈ operands, operand + 2 ≤ offset ∧ offset < operand + 4

instance (operands : List Nat) (offset : Nat) :
    Decidable (Moved operands offset) :=
  inferInstanceAs (Decidable (∃ operand ∈ operands, _))

/-- Operands do not overlap. -/
def Apart (operands : List Nat) : Prop :=
  ∀ left ∈ operands, ∀ right ∈ operands,
    left = right ∨ left + 4 ≤ right ∨ right + 4 ≤ left

instance (operands : List Nat) : Decidable (Apart operands) :=
  inferInstanceAs (Decidable (∀ left ∈ operands, _))

/-- The bytes of a word that was read are those it was read from. -/
theorem bytes32_readLe32 (code : Nat → UInt8) (offset : Nat) :
    bytes32 (readLe32 code offset) =
      [code offset, code (offset + 1), code (offset + 2),
        code (offset + 3)] :=
  bytes32_value rfl

/-- A word is read from its bytes. -/
theorem readLe32_of_bytes
    {code : Nat → UInt8}
    {offset : Nat}
    {word : UInt32}
    (isWord :
      ∀ later < 4, code (offset + later) = (bytes32 word).getD later 0) :
    readLe32 code offset = word := by
  have byte0 := isWord 0 (by omega)
  have byte1 := isWord 1 (by omega)
  have byte2 := isWord 2 (by omega)
  have byte3 := isWord 3 (by omega)
  rw [Nat.add_zero] at byte0
  have whole : readLe32 code offset = UInt32.ofNat (value (bytes32 word)) := by
    rw [readLe32, byte0, byte1, byte2, byte3]
    rfl
  rw [whole, value_bytes32, UInt32.ofNat_toNat]

/-- Adding a multiple of 64 KiB keeps the lower half of a word. -/
theorem bytes32_add_low
    {difference : UInt32}
    (aligned : difference.toNat % 0x10000 = 0)
    (word : UInt32)
    {index : Nat}
    (isLow : index < 2) :
    (bytes32 (word + difference)).getD index 0 =
      (bytes32 word).getD index 0 := by
  have below : index = 0 ∨ index = 1 := by omega
  rcases below with rfl | rfl
  · show (word + difference).toUInt8 = word.toUInt8
    rw [← UInt8.toNat_inj, UInt32.toNat_toUInt8, UInt32.toNat_toUInt8,
      UInt32.toNat_add]
    omega
  · show ((word + difference) >>> 8).toUInt8 = (word >>> 8).toUInt8
    rw [← UInt8.toNat_inj, UInt32.toNat_toUInt8, UInt32.toNat_toUInt8,
      UInt32.toNat_shiftRight, UInt32.toNat_shiftRight, UInt32.toNat_add]
    simp only [Nat.shiftRight_eq_div_pow, UInt32.reduceToNat,
      Nat.reduceMod, Nat.reducePow]
    omega

/-- What is not the upper half of an operand stays. -/
theorem relocate_of_not_moved
    {code : Nat → UInt8}
    {operands : List Nat}
    {difference : UInt32}
    (aligned : difference.toNat % 0x10000 = 0)
    {offset : Nat}
    (stays : ¬ Moved operands offset) :
    relocate code operands difference offset = code offset := by
  unfold relocate
  split
  · rename_i operand isOperand
    have inside := List.find?_some isOperand
    simp only [decide_eq_true_eq] at inside
    have isLow : offset - operand < 2 := by
      by_contra isHigh
      exact stays
        ⟨operand, List.mem_of_find?_eq_some isOperand, by omega, inside.2⟩
    rw [bytes32_add_low aligned _ isLow, bytes32_readLe32]
    obtain rfl | rfl : offset = operand ∨ offset = operand + 1 := by
      omega
    · rw [Nat.sub_self]
      rfl
    · rw [Nat.add_sub_cancel_left]
      rfl
  · rfl

/-- An operand is moved by the difference. -/
theorem readLe32_relocate
    {code : Nat → UInt8}
    {operands : List Nat}
    {difference : UInt32}
    (apart : Apart operands)
    {operand : Nat}
    (isOperand : operand ∈ operands) :
    readLe32 (relocate code operands difference) operand =
      readLe32 code operand + difference := by
  apply readLe32_of_bytes
  intro later isByte
  unfold relocate
  split
  · rename_i found isFound
    have inside := List.find?_some isFound
    simp only [decide_eq_true_eq] at inside
    have same : found = operand := by
      have separate :=
        apart found (List.mem_of_find?_eq_some isFound) operand isOperand
      omega
    rw [same, Nat.add_sub_cancel_left]
  · rename_i notFound
    have outside := List.find?_eq_none.mp notFound operand isOperand
    simp only [decide_eq_true_eq] at outside
    omega

/-- Without a difference nothing changes. -/
theorem relocate_zero
    (code : Nat → UInt8)
    (operands : List Nat) :
    relocate code operands 0 = code := by
  funext offset
  unfold relocate
  split
  · rename_i operand isOperand
    have inside := List.find?_some isOperand
    simp only [decide_eq_true_eq] at inside
    rw [UInt32.add_zero, bytes32_readLe32]
    obtain ⟨later, rfl⟩ := Nat.exists_eq_add_of_le inside.1
    rw [Nat.add_sub_cancel_left]
    obtain rfl | rfl | rfl | rfl :
        later = 0 ∨ later = 1 ∨ later = 2 ∨ later = 3 := by
      omega
    all_goals rfl
  · rfl

/-! ## Windows -/

section Targets

variable (forms : List Form) (target : PinnedTarget)

/-- Every operand a form recognises is one of the target, or none moves it. -/
def WindowsFit : Prop :=
  ∀ offset < target.length,
    ∀ opcodeBytes ∈ recognisedOpcodes forms target.expected offset,
      offset + (opcodeBytes + 4) ≤ target.length →
        (offset + opcodeBytes ∈ target.operands ∧
            ∀ later < opcodeBytes,
              ¬ Moved target.operands (offset + later)) ∨
          ∀ later < 4,
            ¬ Moved target.operands (offset + opcodeBytes + later)

instance : Decidable (WindowsFit forms target) :=
  inferInstanceAs (Decidable (∀ offset < target.length, _))

/-- The operands whose upper half is in the target, at least in part. -/
def movedOperands : List Nat :=
  target.operands.filter (· + 2 < target.length)

/-- All of an operand is in the target, behind the opcode of a form. -/
def IsRecognised (operand : Nat) : Prop :=
  operand + 4 ≤ target.length ∧
    ∃ form ∈ forms,
      form.opcodeBytes ≤ operand ∧
        form.recognises
            (fun later =>
              target.expected (operand - form.opcodeBytes + later)) =
          true

instance (operand : Nat) : Decidable (IsRecognised forms target operand) :=
  inferInstanceAs (Decidable (_ ∧ ∃ form ∈ forms, _))

/-- The forms meet the operands, one after the other. -/
def meetsOperands : Nat → Nat → Bool
  | passes, offset =>
      if offset < target.length then
        match passes with
        | 0 => false
        | passes + 1 =>
            match
              (recognisedOpcodes forms target.expected offset).find?
                fun opcodeBytes =>
                  offset + (opcodeBytes + 4) ≤ target.length ∧
                    offset + opcodeBytes ∈ target.operands with
            | some opcodeBytes =>
                meetsOperands passes (offset + (opcodeBytes + 4))
            | none =>
                decide (¬ Moved target.operands offset) &&
                  meetsOperands passes (offset + 1)
      else
        true

/-- What the pinned targets have in common. -/
structure Regular : Prop where
  nonempty : target.length ≠ 0
  apart : Apart target.operands
  windows : WindowsFit forms target
  met :
    (∀ operand ∈ movedOperands target,
        IsRecognised forms target operand) →
      meetsOperands forms target target.length 0 = true
  unmet :
    (∃ operand ∈ movedOperands target,
        ¬ IsRecognised forms target operand) →
      ∃ operand ∈ target.operands,
        operand + 4 ≤ target.length ∧
          ¬ IsRecognised forms target operand

instance : Decidable (Regular forms target) :=
  decidable_of_iff
    (target.length ≠ 0 ∧ Apart target.operands ∧
      WindowsFit forms target ∧
      ((∀ operand ∈ movedOperands target,
          IsRecognised forms target operand) →
        meetsOperands forms target target.length 0 = true) ∧
      ((∃ operand ∈ movedOperands target,
          ¬ IsRecognised forms target operand) →
        ∃ operand ∈ target.operands,
          operand + 4 ≤ target.length ∧
            ¬ IsRecognised forms target operand))
    ⟨fun ⟨nonempty, apart, windows, met, unmet⟩ =>
        ⟨nonempty, apart, windows, met, unmet⟩,
      fun ⟨nonempty, apart, windows, met, unmet⟩ =>
        ⟨nonempty, apart, windows, met, unmet⟩⟩

end Targets

/-! ## Differences -/

/-- The base the targets are expected at. -/
def expectedBase : UInt32 := 0x400000

/-- The difference of the bases as a signed word; it wraps around. -/
theorem toInt_difference (base : UInt32) :
    (base.toInt32 - expectedBase.toInt32).toInt =
      if base.toNat < 0x80400000 then
        (base.toNat : Int) - 0x400000
      else
        (base.toNat : Int) - 0x400000 - 2 ^ 32 := by
  have baseFits := base.toNat_lt
  have expected : expectedBase.toInt32.toInt = 0x400000 := rfl
  rw [Int32.toInt_sub, toInt_toInt32, expected]
  simp only [Int.bmod_def]
  split <;> omega

theorem toInt_difference_ne_zero
    {base : UInt32}
    (elsewhere : base ≠ expectedBase) :
    (base.toInt32 - expectedBase.toInt32).toInt ≠ 0 := by
  have baseFits := base.toNat_lt
  have differ : base.toNat ≠ 0x400000 := by
    intro same
    exact elsewhere (UInt32.toNat_inj.mp same)
  rw [toInt_difference]
  split <;> omega

/-- The same difference, of words without a sign. -/
theorem toNat_difference (base : UInt32) :
    (base - expectedBase).toNat =
      if 0x400000 ≤ base.toNat then
        base.toNat - 0x400000
      else
        2 ^ 32 + base.toNat - 0x400000 := by
  have baseFits := base.toNat_lt
  have expected : expectedBase.toNat = 0x400000 := rfl
  rw [UInt32.toNat_sub, expected]
  split <;> omega

/-- The difference of two places is a multiple of 64 KiB. -/
theorem Placement.difference_aligned
    {sizeOfImage : Nat}
    {base : UInt32}
    (placement : Placement sizeOfImage base) :
    (base - expectedBase).toNat % 0x10000 = 0 := by
  have aligned := placement.aligned
  rw [toNat_difference]
  split <;> omega

/-- An address inside an image that is placed at its base. -/
def InsideImage (sizeOfImage : Nat) (address : UInt32) : Prop :=
  0x400000 ≤ address.toNat ∧ address.toNat < 0x400000 + sizeOfImage

instance (sizeOfImage : Nat) (address : UInt32) :
    Decidable (InsideImage sizeOfImage address) :=
  inferInstanceAs (Decidable (_ ∧ _))

/--
An address moves by the difference of the bases, as the matcher takes it, unless
the base is 2 GiB or more above the expected one.
-/
theorem moved_by_difference_iff
    {sizeOfImage : Nat}
    {base address : UInt32}
    (placement : Placement sizeOfImage base)
    (inside : InsideImage sizeOfImage address) :
    ((address + (base - expectedBase)).toNat : Int) - address.toNat =
        (base.toInt32 - expectedBase.toInt32).toInt ↔
      base.toNat < 0x80400000 := by
  have room := placement.room
  have addressFits := address.toNat_lt
  obtain ⟨above, below⟩ := inside
  rw [UInt32.toNat_add, toNat_difference, toInt_difference]
  constructor
  · intro same
    by_contra isFar
    rw [if_neg isFar] at same
    split at same <;> omega
  · intro isNear
    rw [if_pos isNear]
    split <;> omega

/-! ## What a scan covers -/

/-- Where an accepted string differs, an instruction matches around. -/
theorem scan_covers
    {forms : List Form}
    {actual expected : Nat → UInt8}
    {length : Nat}
    {relocationDelta : Int32}
    {passes start : Nat}
    (accepted :
      scan forms actual expected length relocationDelta passes start =
        some true)
    {offset : Nat}
    (behind : start ≤ offset)
    (inside : offset < length)
    (differ : actual offset ≠ expected offset) :
    ∃ place,
      ∃ opcodeBytes ∈ recognisedOpcodes forms expected place,
        matchesBehind actual expected length place relocationDelta
            opcodeBytes =
          true ∧
        place + opcodeBytes ≤ offset ∧
          offset < place + opcodeBytes + 4 := by
  induction passes generalizing start with
  | zero =>
      unfold scan at accepted
      rw [if_pos (by omega)] at accepted
      cases accepted
  | succ passes hypothesis =>
      unfold scan at accepted
      rw [if_pos (by omega)] at accepted
      simp only at accepted
      split at accepted
      · rename_i consumed isConsumed
        rw [tryMatchRelocatableInstruction_eq,
          if_neg (by omega)] at isConsumed
        obtain ⟨opcodeBytes, isFirst, rfl⟩ :=
          Option.map_eq_some_iff.mp isConsumed
        by_cases later : start + (opcodeBytes + 4) ≤ offset
        · exact hypothesis accepted later
        · have isMatch := List.find?_some isFirst
          refine
            ⟨start, opcodeBytes, List.mem_of_find?_eq_some isFirst,
              isMatch, ?_, by omega⟩
          -- The opcode is the same in both strings.
          by_contra inOpcode
          simp only [matchesBehind, Bool.and_eq_true] at isMatch
          have same :=
            sameBytes_iff.mp isMatch.1.2 (offset - start) (by omega)
          rw [Nat.add_sub_cancel' behind] at same
          exact differ same
      · split at accepted
        · cases accepted
        · rename_i same
          by_cases here : offset = start
          · rw [here] at differ
            exact (same differ).elim
          · exact hypothesis accepted (by omega)

/-! ## Targets in a loaded image -/

/-- Code in a loaded image, whatever comes behind the target. -/
def loaded
    (target : PinnedTarget)
    (image : Nat → UInt8)
    (base : UInt32) : Nat → UInt8 :=
  relocate image target.operands (base - expectedBase)

/-- The target is in an image where it is expected. -/
def IsIn (target : PinnedTarget) (image : Nat → UInt8) : Prop :=
  ∀ offset < target.length, image offset = target.expected offset

/-- Every address of the target is one of the image. -/
def AddressesInside (sizeOfImage : Nat) (target : PinnedTarget) : Prop :=
  ∀ operand ∈ target.operands,
    operand + 4 ≤ target.length →
      InsideImage sizeOfImage (readLe32 target.expected operand)

instance (sizeOfImage : Nat) (target : PinnedTarget) :
    Decidable (AddressesInside sizeOfImage target) :=
  inferInstanceAs (Decidable (∀ operand ∈ target.operands, _))

/-- Words of the same bytes are the same. -/
theorem readLe32_congr
    {left right : Nat → UInt8}
    {offset : Nat}
    (same : ∀ later < 4, left (offset + later) = right (offset + later)) :
    readLe32 left offset = readLe32 right offset := by
  have same0 := same 0 (by omega)
  rw [Nat.add_zero] at same0
  rw [readLe32, readLe32, same0, same 1 (by omega), same 2 (by omega),
    same 3 (by omega)]

section Loaded

variable
  {forms : List Form}
  {target : PinnedTarget}
  {image : Nat → UInt8}
  {sizeOfImage : Nat}
  {base : UInt32}

/-- What is not moved is as expected. -/
theorem loaded_eq_expected
    (isIn : IsIn target image)
    (placement : Placement sizeOfImage base)
    {offset : Nat}
    (inside : offset < target.length)
    (stays : ¬ Moved target.operands offset) :
    loaded target image base offset = target.expected offset := by
  rw [loaded, relocate_of_not_moved placement.difference_aligned stays]
  exact isIn offset inside

/-- An operand that is in the target is moved by the difference. -/
theorem readLe32_loaded
    (regular : Regular forms target)
    (isIn : IsIn target image)
    {operand : Nat}
    (isOperand : operand ∈ target.operands)
    (inside : operand + 4 ≤ target.length) :
    readLe32 (loaded target image base) operand =
      readLe32 target.expected operand + (base - expectedBase) := by
  rw [loaded, readLe32_relocate regular.apart isOperand]
  have same : readLe32 image operand = readLe32 target.expected operand := by
    apply readLe32_congr
    intro later isByte
    exact isIn _ (by omega)
  rw [same]

/-- At another base, only operands match behind an opcode. -/
theorem isOperand_of_matchesBehind
    (regular : Regular forms target)
    (isIn : IsIn target image)
    (placement : Placement sizeOfImage base)
    (elsewhere : base ≠ expectedBase)
    {offset opcodeBytes : Nat}
    (isRecognised :
      opcodeBytes ∈ recognisedOpcodes forms target.expected offset)
    (isMatch :
      matchesBehind (loaded target image base) target.expected
          target.length offset (base.toInt32 - expectedBase.toInt32)
          opcodeBytes =
        true) :
    offset + (opcodeBytes + 4) ≤ target.length ∧
      offset + opcodeBytes ∈ target.operands := by
  simp only [matchesBehind, Bool.and_eq_true, decide_eq_true_eq,
    relocatedImmediateMatches] at isMatch
  obtain ⟨⟨fits, _⟩, operand⟩ := isMatch
  refine ⟨fits, ?_⟩
  rcases regular.windows offset (by omega) opcodeBytes isRecognised
    fits with ⟨isOperand, _⟩ | stay
  · exact isOperand
  · -- Nothing was moved here, but the difference is not zero.
    have same :
        readLe32 (loaded target image base) (offset + opcodeBytes) =
          readLe32 target.expected (offset + opcodeBytes) := by
      apply readLe32_congr
      intro later isByte
      exact
        loaded_eq_expected isIn placement (by omega) (stay later isByte)
    rw [same, Int.sub_self] at operand
    exact (toInt_difference_ne_zero elsewhere operand.symm).elim

/-- Behind a recognised opcode, an operand matches if the base is near. -/
theorem matchesBehind_operand_iff
    (regular : Regular forms target)
    (isIn : IsIn target image)
    (placement : Placement sizeOfImage base)
    (addresses : AddressesInside sizeOfImage target)
    {offset opcodeBytes : Nat}
    (isRecognised :
      opcodeBytes ∈ recognisedOpcodes forms target.expected offset)
    (fits : offset + (opcodeBytes + 4) ≤ target.length)
    (isOperand : offset + opcodeBytes ∈ target.operands) :
    matchesBehind (loaded target image base) target.expected
          target.length offset (base.toInt32 - expectedBase.toInt32)
          opcodeBytes =
        true ↔
      base.toNat < 0x80400000 := by
  have sameOpcode :
      sameBytes (fun later => loaded target image base (offset + later))
          (fun later => target.expected (offset + later)) opcodeBytes =
        true := by
    apply sameBytes_iff.mpr
    intro later isByte
    have stays : ¬ Moved target.operands (offset + later) := by
      rcases regular.windows offset (by omega) opcodeBytes isRecognised
        fits with ⟨_, stay⟩ | stay
      · exact stay later isByte
      · intro _
        exact
          stay 2 (by omega)
            ⟨offset + opcodeBytes, isOperand, by omega, by omega⟩
    exact loaded_eq_expected isIn placement (by omega) stays
  simp only [matchesBehind, fits, sameOpcode, decide_true, Bool.true_and,
    relocatedImmediateMatches, decide_eq_true_eq]
  rw [readLe32_loaded regular isIn isOperand (by omega)]
  exact
    moved_by_difference_iff placement
      (addresses _ isOperand (by omega))

/-- The forms that are met consume what the scan consumes. -/
theorem scan_of_meetsOperands
    (regular : Regular forms target)
    (isIn : IsIn target image)
    (placement : Placement sizeOfImage base)
    (addresses : AddressesInside sizeOfImage target)
    (elsewhere : base ≠ expectedBase)
    (isNear : base.toNat < 0x80400000)
    {passes offset : Nat}
    (met : meetsOperands forms target passes offset = true) :
    scan forms (loaded target image base) target.expected target.length
        (base.toInt32 - expectedBase.toInt32) passes offset =
      some true := by
  induction passes generalizing offset with
  | zero =>
      unfold meetsOperands at met
      unfold scan
      by_cases inside : offset < target.length
      · rw [if_pos inside] at met
        cases met
      · rw [if_neg inside]
  | succ passes hypothesis =>
      unfold meetsOperands at met
      unfold scan
      by_cases inside : offset < target.length
      · rw [if_pos inside] at met ⊢
        have sameSearch :
            (recognisedOpcodes forms target.expected offset).find?
                (matchesBehind (loaded target image base)
                  target.expected target.length offset
                  (base.toInt32 - expectedBase.toInt32)) =
              (recognisedOpcodes forms target.expected offset).find?
                (fun opcodeBytes =>
                  offset + (opcodeBytes + 4) ≤ target.length ∧
                    offset + opcodeBytes ∈ target.operands) := by
          apply List.find?_congr
          intro opcodeBytes isRecognised
          rw [Bool.eq_iff_iff, decide_eq_true_eq]
          constructor
          · exact
              isOperand_of_matchesBehind regular isIn placement elsewhere
                isRecognised
          · rintro ⟨fits, isOperand⟩
            exact
              (matchesBehind_operand_iff regular isIn placement addresses
                isRecognised fits isOperand).mpr isNear
        rw [tryMatchRelocatableInstruction_eq,
          if_neg (Nat.not_le.mpr inside), sameSearch]
        simp only at met ⊢
        split at met
        · rename_i opcodeBytes isFirst
          rw [isFirst]
          exact hypothesis met
        · rename_i isNone
          rw [isNone]
          simp only [Bool.and_eq_true, decide_eq_true_eq] at met
          have same :=
            loaded_eq_expected isIn placement inside met.1
          simp only [Option.map_none, ne_eq, same, not_true_eq_false,
            if_false]
          exact hypothesis met.2
      · rw [if_neg inside]

/-- When the matcher accepts a target: see `bytesMatch_loaded_iff`. -/
def Tolerated
    (forms : List Form)
    (target : PinnedTarget)
    (base : UInt32) : Prop :=
  base = expectedBase ∨
    movedOperands target = [] ∨
      (base.toNat < 0x80400000 ∧
        ∀ operand ∈ movedOperands target,
          IsRecognised forms target operand)

instance
    (forms : List Form)
    (target : PinnedTarget)
    (base : UInt32) :
    Decidable (Tolerated forms target base) :=
  inferInstanceAs (Decidable (_ ∨ _ ∨ (_ ∧ ∀ operand ∈ _, _)))

/-- An operand that is in the target differs at another base. -/
theorem loaded_differs
    (regular : Regular forms target)
    (isIn : IsIn target image)
    (elsewhere : base ≠ expectedBase)
    {operand : Nat}
    (isOperand : operand ∈ target.operands)
    (inside : operand + 4 ≤ target.length) :
    ∃ later < 4,
      loaded target image base (operand + later) ≠
        target.expected (operand + later) := by
  by_contra same
  push Not at same
  have sameWord := readLe32_congr same
  rw [readLe32_loaded regular isIn isOperand inside] at sameWord
  have noDifference : base - expectedBase = 0 := by
    rw [← UInt32.add_right_inj, sameWord, UInt32.add_zero]
  have sameBase : base = expectedBase := by
    rw [← UInt32.sub_add_cancel base expectedBase, noDifference,
      UInt32.zero_add]
  exact elsewhere sameBase

/-- An instruction matches around it, if the matcher accepts. -/
theorem matchesBehind_of_scan
    (regular : Regular forms target)
    (isIn : IsIn target image)
    (placement : Placement sizeOfImage base)
    (elsewhere : base ≠ expectedBase)
    {passes : Nat}
    (accepted :
      scan forms (loaded target image base) target.expected target.length
          (base.toInt32 - expectedBase.toInt32) passes 0 =
        some true)
    {operand : Nat}
    (isOperand : operand ∈ target.operands)
    (inside : operand + 4 ≤ target.length) :
    ∃ offset opcodeBytes,
      offset + opcodeBytes = operand ∧
        opcodeBytes ∈ recognisedOpcodes forms target.expected offset ∧
        matchesBehind (loaded target image base) target.expected
            target.length offset (base.toInt32 - expectedBase.toInt32)
            opcodeBytes =
          true := by
  obtain ⟨later, isByte, differ⟩ :=
    loaded_differs regular isIn elsewhere isOperand inside
  obtain ⟨offset, opcodeBytes, isRecognised, isMatch, behind, within⟩ :=
    scan_covers accepted (Nat.zero_le _) (by omega) differ
  have isOther :=
    (isOperand_of_matchesBehind regular isIn placement elsewhere
      isRecognised isMatch).2
  have separate := regular.apart _ isOther _ isOperand
  exact ⟨offset, opcodeBytes, by omega, isRecognised, isMatch⟩

/-- A recognised opcode has its operand recognised. -/
theorem isRecognised_of_mem
    {offset opcodeBytes : Nat}
    (isRecognised :
      opcodeBytes ∈ recognisedOpcodes forms target.expected offset)
    (fits : offset + opcodeBytes + 4 ≤ target.length) :
    IsRecognised forms target (offset + opcodeBytes) := by
  obtain ⟨form, isForm, rfl⟩ := List.mem_map.mp isRecognised
  obtain ⟨isForm, recognises⟩ := List.mem_filter.mp isForm
  refine ⟨fits, form, isForm, Nat.le_add_left .., ?_⟩
  rw [Nat.add_sub_cancel]
  exact recognises

/-- Every operand that is in the target with its upper half is all in it. -/
theorem exists_whole_operand
    (regular : Regular forms target)
    (isMoved : movedOperands target ≠ []) :
    ∃ operand ∈ target.operands, operand + 4 ≤ target.length := by
  obtain ⟨operand, isOperand⟩ := List.exists_mem_of_ne_nil _ isMoved
  by_cases areRecognised :
      ∀ operand ∈ movedOperands target, IsRecognised forms target operand
  · exact
      ⟨operand, (List.mem_filter.mp isOperand).1,
        (areRecognised operand isOperand).1⟩
  · push Not at areRecognised
    obtain ⟨other, isOther, whole, _⟩ := regular.unmet areRecognised
    exact ⟨other, isOther, whole⟩

/-- A target is accepted byte for byte when nothing in it is moved. -/
theorem sameBytes_loaded_iff
    (regular : Regular forms target)
    (isIn : IsIn target image)
    (placement : Placement sizeOfImage base)
    (elsewhere : base ≠ expectedBase) :
    sameBytes (loaded target image base) target.expected target.length =
        true ↔
      movedOperands target = [] := by
  rw [sameBytes_iff]
  constructor
  · intro same
    by_contra isMoved
    obtain ⟨operand, isOperand, whole⟩ :=
      exists_whole_operand regular isMoved
    obtain ⟨later, isByte, differ⟩ :=
      loaded_differs regular isIn elsewhere isOperand whole
    exact differ (same _ (by omega))
  · intro noneMoved offset inside
    apply loaded_eq_expected isIn placement inside
    rintro ⟨operand, isOperand, behind, within⟩
    have isMoved : operand ∈ movedOperands target :=
      List.mem_filter.mpr
        ⟨isOperand, decide_eq_true (by omega)⟩
    rw [noneMoved] at isMoved
    cases isMoved

/-- The matcher accepts a target in a loaded image exactly in these cases. -/
theorem bytesMatch_loaded_iff
    (regular : Regular forms target)
    (isIn : IsIn target image)
    (placement : Placement sizeOfImage base)
    (addresses : AddressesInside sizeOfImage target) :
    bytesMatchWithModuleRelocation forms expectedBase
          (some (loaded target image base)) (some target.expected)
          target.length base =
        some true ↔
      Tolerated forms target base := by
  unfold bytesMatchWithModuleRelocation
  simp only
  rw [if_neg regular.nonempty]
  by_cases elsewhere : base = expectedBase
  · subst elsewhere
    have same :
        sameBytes (loaded target image expectedBase) target.expected
            target.length =
          true := by
      apply sameBytes_iff.mpr
      intro offset inside
      rw [loaded, UInt32.sub_self, relocate_zero]
      exact isIn offset inside
    rw [if_pos same]
    exact iff_of_true rfl (.inl rfl)
  have isDifference :
      base.toInt32 - expectedBase.toInt32 ≠ 0 := by
    intro isZero
    apply toInt_difference_ne_zero elsewhere
    rw [isZero]
    rfl
  by_cases noneMoved : movedOperands target = []
  · rw [if_pos
      ((sameBytes_loaded_iff regular isIn placement elsewhere).mpr
        noneMoved)]
    exact iff_of_true rfl (.inr (.inl noneMoved))
  rw [if_neg fun same =>
      noneMoved
        ((sameBytes_loaded_iff regular isIn placement elsewhere).mp same),
    if_neg isDifference]
  constructor
  · intro accepted
    have areRecognised :
        ∀ operand ∈ movedOperands target,
          IsRecognised forms target operand := by
      by_contra unrecognised
      push Not at unrecognised
      obtain ⟨operand, isOperand, whole, isUnrecognised⟩ :=
        regular.unmet unrecognised
      obtain ⟨offset, opcodeBytes, rfl, isRecognised, _⟩ :=
        matchesBehind_of_scan regular isIn placement elsewhere accepted
          isOperand whole
      exact isUnrecognised (isRecognised_of_mem isRecognised whole)
    obtain ⟨operand, isOperand, whole⟩ :=
      exists_whole_operand regular noneMoved
    obtain ⟨offset, opcodeBytes, rfl, isRecognised, isMatch⟩ :=
      matchesBehind_of_scan regular isIn placement elsewhere accepted
        isOperand whole
    have isNear :=
      (matchesBehind_operand_iff regular isIn placement addresses
        isRecognised (by omega) isOperand).mp isMatch
    exact .inr (.inr ⟨isNear, areRecognised⟩)
  · rintro (same | none | ⟨isNear, areRecognised⟩)
    · exact (elsewhere same).elim
    · exact (noneMoved none).elim
    · exact
        scan_of_meetsOperands regular isIn placement addresses elsewhere
          isNear (regular.met areRecognised)

end Loaded

end MonomythClient.RelocatedBytes

namespace MonomythClient.SpellUsabilityDiscovery

open RelocatedBytes

theorem pinnedTargets_regular :
    ∀ target ∈ pinnedTargets, Regular relocatableForms target := by
  decide +kernel

end MonomythClient.SpellUsabilityDiscovery

namespace MonomythClient.ClassDisplayDiscovery

open RelocatedBytes

theorem pinnedTargets_regular :
    ∀ target ∈ pinnedTargets, Regular relocatableForms target := by
  decide +kernel

end MonomythClient.ClassDisplayDiscovery

namespace MonomythClient.RelocatedBytes

/-- The operands of two targets are not all behind a recognised opcode. -/
theorem unrecognised_targets :
    (SpellUsabilityDiscovery.pinnedTargets.filter fun target =>
        ∃ operand ∈ movedOperands target,
          ¬ IsRecognised SpellUsabilityDiscovery.relocatableForms target
            operand) =
      [SpellUsabilityDiscovery.kCanStartMemmingEntryBytes,
        SpellUsabilityDiscovery.kStartSpellScribePathEntryBytes] ∧
      (ClassDisplayDiscovery.pinnedTargets.filter fun target =>
        ∃ operand ∈ movedOperands target,
          ¬ IsRecognised ClassDisplayDiscovery.relocatableForms target
            operand) =
      [] := by
  decide +kernel

/--
In an image that is loaded anywhere, the matchers accept the pinned targets that
are tolerated there, and no other ones.
-/
theorem pinnedTargets_match_iff
    {sizeOfImage : Nat}
    {base : UInt32}
    (placement : Placement sizeOfImage base)
    (addresses :
      ∀ target ∈
        SpellUsabilityDiscovery.pinnedTargets ++
          ClassDisplayDiscovery.pinnedTargets,
        AddressesInside sizeOfImage target) :
    (∀ target ∈ SpellUsabilityDiscovery.pinnedTargets, ∀ image,
        IsIn target image →
          (SpellUsabilityDiscovery.bytesMatchWithModuleRelocation
                (some (loaded target image base)) (some target.expected)
                target.length base =
              some true ↔
            Tolerated SpellUsabilityDiscovery.relocatableForms target
              base)) ∧
      ∀ target ∈ ClassDisplayDiscovery.pinnedTargets, ∀ image,
        IsIn target image →
          (ClassDisplayDiscovery.bytesMatchWithModuleRelocation
                (some (loaded target image base)) (some target.expected)
                target.length base =
              some true ↔
            Tolerated ClassDisplayDiscovery.relocatableForms target
              base) := by
  constructor
  · intro target isPinned image isIn
    exact
      bytesMatch_loaded_iff
        (SpellUsabilityDiscovery.pinnedTargets_regular target isPinned)
        isIn placement
        (addresses target (List.mem_append_left _ isPinned))
  · intro target isPinned image isIn
    exact
      bytesMatch_loaded_iff
        (ClassDisplayDiscovery.pinnedTargets_regular target isPinned)
        isIn placement
        (addresses target (List.mem_append_right _ isPinned))

/-- A place 1 MiB above the expected one, for an image of 11 MiB. -/
theorem placement_higher : Placement 0xB00000 0x500000 where
  aligned := rfl
  room := by decide

theorem addresses_inside :
    ∀ target ∈
      SpellUsabilityDiscovery.pinnedTargets ++
        ClassDisplayDiscovery.pinnedTargets,
      AddressesInside 0xB00000 target := by
  decide +kernel

/-- At that place, the class description is tolerated and is accepted. -/
theorem pinnedTargets_match_iff_getClassDesc :
    ClassDisplayDiscovery.bytesMatchWithModuleRelocation
        (some
          (loaded ClassDisplayDiscovery.kGetClassDescEntryBytes
            ClassDisplayDiscovery.kGetClassDescEntryBytes.expected
            0x500000))
        (some ClassDisplayDiscovery.kGetClassDescEntryBytes.expected) 24
        0x500000 =
      some true :=
  ((pinnedTargets_match_iff placement_higher addresses_inside).2
    ClassDisplayDiscovery.kGetClassDescEntryBytes List.mem_cons_self
    ClassDisplayDiscovery.kGetClassDescEntryBytes.expected
    fun _ _ => rfl).mpr (by decide +kernel)

/-- `cmp` of a word in memory, as it is 1 MiB above, is not accepted. -/
theorem pinned_target_refused_higher :
    ¬ ∀ sizeOfImage base,
      Placement sizeOfImage base →
        (∀ target ∈
          SpellUsabilityDiscovery.pinnedTargets ++
            ClassDisplayDiscovery.pinnedTargets,
          AddressesInside sizeOfImage target) →
          ∀ target ∈ SpellUsabilityDiscovery.pinnedTargets, ∀ image,
            IsIn target image →
              SpellUsabilityDiscovery.bytesMatchWithModuleRelocation
                  (some (loaded target image base))
                  (some target.expected) target.length base =
                some true := by
  intro complete
  have accepted :=
    complete 0xB00000 0x500000 placement_higher addresses_inside
      SpellUsabilityDiscovery.kCanStartMemmingEntryBytes
      (List.mem_cons_of_mem _ List.mem_cons_self)
      SpellUsabilityDiscovery.kCanStartMemmingEntryBytes.expected
      fun _ _ => rfl
  revert accepted
  decide +kernel

end MonomythClient.RelocatedBytes
