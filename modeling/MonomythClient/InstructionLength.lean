import Mathlib.Tactic.IntervalCases
import MonomythClient.Ia32
import MonomythClient.PayloadReader

namespace MonomythClient.HookManager

open Ia32 PayloadReader

/-!
# Instruction lengths

A detour moves whole instructions out of the way of its jump, so the hook
manager measures the instructions at the entry of a function.  Its decoder
knows the few opcodes that function entries start with.
-/

/-! ## The decoder -/

/-- `DecodeModRmInstructionLength`: a fault, or its result. -/
def decodeModRmInstructionLength
    (code : Memory)
    (available immediateBytes : Nat) :
    Option (Option Nat) :=
  if available < 2 then
    some none
  else do
    let modRm ← code 1
    let mod := (modRm >>> 6) &&& 0x03
    let rm := modRm &&& 0x07
    let decoded ←
      if mod ≠ 0x03 ∧ rm = 0x04 then
        if available < 2 + 1 then
          some none
        else do
          let sib ← code 2
          let base := sib &&& 0x07
          if mod = 0x00 ∧ base = 0x05 then
            pure (some (2 + 1 + 4))
          else
            pure (some (2 + 1))
      else if mod = 0x00 ∧ rm = 0x05 then
        some (some (2 + 4))
      else
        some (some 2)
    match decoded with
    | none => return none
    | some decoded =>
        let decoded :=
          if mod = 0x01 then
            decoded + 1
          else if mod = 0x02 then
            decoded + 4
          else
            decoded
        let decoded := decoded + immediateBytes
        if available < decoded then
          return none
        else
          return some decoded

/-- `DecodeSupportedInstructionLength`: a fault, or its result. -/
def decodeSupportedInstructionLength :
    Nat → Memory → Option (Option Nat)
  | 0, _ => some none
  | available + 1, code => do
      let opcode ← code 0
      if opcode = 0x64 ∨ opcode = 0x65 then
        if available + 1 < 2 then
          return none
        else
          let prefixedLength ←
            decodeSupportedInstructionLength available
              fun offset => code (offset + 1)
          return prefixedLength.map (1 + ·)
      else if (0x40 ≤ opcode ∧ opcode ≤ 0x5F) ∨ opcode = 0x90 then
        return some 1
      else if opcode = 0x68 then
        if available + 1 < 5 then return none else return some 5
      else if opcode = 0xA1 ∨ opcode = 0xA3 then
        if available + 1 < 5 then return none else return some 5
      else if opcode = 0x6A then
        if available + 1 < 2 then return none else return some 2
      else if 0xB8 ≤ opcode ∧ opcode ≤ 0xBF then
        if available + 1 < 5 then return none else return some 5
      else if opcode = 0x81 ∨ opcode = 0xC7 then
        decodeModRmInstructionLength code (available + 1) 4
      else if opcode = 0x83 then
        decodeModRmInstructionLength code (available + 1) 1
      else if opcode = 0x31 ∨ opcode = 0x33 ∨ opcode = 0x85 ∨
          opcode = 0x89 ∨ opcode = 0x8B ∨ opcode = 0x8D then
        decodeModRmInstructionLength code (available + 1) 0
      else
        return none

/-! ## ModRM lengths -/

/-- Code that can be read below an offset, and faults from there on. -/
def readableBelow (code : Nat → UInt8) (available : Nat) : Memory :=
  fun offset => if offset < available then some (code offset) else none

/-- The source's field extraction. -/
theorem toNat_mod (byte : UInt8) :
    ((byte >>> 6) &&& 0x03).toNat = modField byte := by
  have byteFits := byte.toNat_lt
  rw [UInt8.toNat_and, UInt8.toNat_shiftRight, modField]
  simp only [UInt8.reduceToNat, Nat.reduceMod]
  rw [Nat.and_two_pow_sub_one_eq_mod _ 2, Nat.shiftRight_eq_div_pow]
  omega

theorem toNat_rm (byte : UInt8) :
    (byte &&& 0x07).toNat = baseField byte := by
  rw [UInt8.toNat_and, baseField]
  exact Nat.and_two_pow_sub_one_eq_mod _ 3

theorem mod_eq_iff (byte field : UInt8) :
    (byte >>> 6) &&& 0x03 = field ↔ modField byte = field.toNat := by
  rw [← UInt8.toNat_inj, toNat_mod]

theorem rm_eq_iff (byte field : UInt8) :
    byte &&& 0x07 = field ↔ baseField byte = field.toNat := by
  rw [← UInt8.toNat_inj, toNat_rm]

/-- The test that an instruction ends inside the available bytes. -/
theorem fits_eq (available length : Nat) :
    (if available < length then some none else some (some length)) =
      some (if length ≤ available then some length else none) := by
  by_cases fits : length ≤ available
  · rw [if_pos fits, if_neg (Nat.not_lt.mpr fits)]
  · rw [if_neg fits, if_pos (Nat.not_le.mp fits)]

theorem decodeModRmInstructionLength_eq
    (code : Nat → UInt8)
    (available immediateBytes : Nat) :
    decodeModRmInstructionLength (readableBelow code available) available
        immediateBytes =
      some
        (if addressedLength code immediateBytes ≤ available then
          some (addressedLength code immediateBytes)
        else
          none) := by
  unfold decodeModRmInstructionLength
  by_cases tooShort : available < 2
  · have longer : ¬ addressedLength code immediateBytes ≤ available := by
      unfold addressedLength
      omega
    rw [if_pos tooShort, if_neg longer]
  · have modRmRead : readableBelow code available 1 = some (code 1) :=
      if_pos (by omega)
    rw [if_neg tooShort, modRmRead]
    simp only [Option.bind_eq_bind, Option.bind_some, ne_eq, mod_eq_iff,
      rm_eq_iff, UInt8.reduceToNat]
    by_cases withSib : needsSib (code 1) = true
    · have fields := withSib
      simp only [needsSib, decide_eq_true_eq] at fields
      rw [if_pos fields]
      by_cases sibCut : available < 2 + 1
      · have longer : ¬ addressedLength code immediateBytes ≤ available := by
          simp only [addressedLength, sibOf, withSib, if_true,
            Option.toList_some, List.length_singleton]
          omega
        rw [if_pos sibCut, if_neg longer]
        rfl
      · have sibRead : readableBelow code available 2 = some (code 2) :=
          if_pos (by omega)
        have total :
            addressedLength code immediateBytes =
              3 + displacementWidth (code 1) (some (code 2)) +
                immediateBytes := by
          simp [addressedLength, sibOf, withSib]
        rw [if_neg sibCut, sibRead, total, displacementWidth]
        simp only [Option.bind_some, Option.map_some, Option.some.injEq,
          fields.2, Option.pure_def]
        by_cases direct : modField (code 1) = 0
        · by_cases noBase : baseField (code 2) = 5
          · simp [direct, noBase, fits_eq]
          · simp [direct, noBase, fits_eq]
        · by_cases short : modField (code 1) = 1
          · simp [short, fits_eq]
          · by_cases long : modField (code 1) = 2
            · simp [long, fits_eq]
            · simp [direct, short, long, fits_eq]
    · have fields := withSib
      simp only [needsSib, decide_eq_true_eq] at fields
      have total :
          addressedLength code immediateBytes =
            2 + displacementWidth (code 1) none + immediateBytes := by
        simp [addressedLength, sibOf, withSib]
      rw [if_neg fields, total, displacementWidth]
      simp only [Option.map_none, reduceCtorEq, or_false, Option.pure_def]
      by_cases direct : modField (code 1) = 0
      · by_cases absolute : baseField (code 1) = 5
        · simp [direct, absolute, fits_eq]
        · simp [direct, absolute, fits_eq]
      · by_cases short : modField (code 1) = 1
        · simp [short, fits_eq]
        · by_cases long : modField (code 1) = 2
          · simp [long, fits_eq]
          · simp [direct, short, long, fits_eq]

/-! ## What is decoded -/

/-- The overrides the decoder accepts. -/
def IsFsGs (byte : UInt8) : Prop :=
  byte = 0x64 ∨ byte = 0x65

instance : DecidablePred IsFsGs :=
  fun byte => inferInstanceAs (Decidable (byte = 0x64 ∨ byte = 0x65))

/--
The opcode does not leave the forms that the decoder has in mind: a move under
extension 0, an effective address of memory.
-/
def Regular (code : Nat → UInt8) : Prop :=
  ¬ (code 0 = 0xC7 ∧ regField (code 1) ≠ 0) ∧
    ¬ (code 0 = 0x8D ∧ modField (code 1) = 3)

/-- What the decoder takes for an instruction without overrides. -/
inductive DecodedBody (code : Nat → UInt8) : Nat → Prop where
  | plain
      (trailing : Trailing)
      (isLayout : layout (code 0) = some (.plain trailing))
      (absolute : trailing.relative = false)
      (regular : Regular code) :
      DecodedBody code (1 + trailing.width)
  | addressed
      (immediateBytes : Nat)
      (trailing : UInt8 → Option Trailing)
      (isLayout : layout (code 0) = some (.addressed trailing))
      (regular :
        Regular code →
          trailing (code 1) = some (.value immediateBytes))
      (irregular :
        ¬ Regular code →
          ∀ found, trailing (code 1) = some found → found.relative = true) :
      DecodedBody code (addressedLength code immediateBytes)

/-- An opcode other than the two irregular ones is regular. -/
theorem regular_of_ne
    {code : Nat → UInt8}
    (noMove : code 0 ≠ 0xC7)
    (noAddress : code 0 ≠ 0x8D) :
    Regular code :=
  ⟨fun irregular => noMove irregular.1,
    fun irregular => noAddress irregular.1⟩

/-- An opcode with a ModRM byte and no undefined forms. -/
theorem DecodedBody.ofAddressed
    {code : Nat → UInt8}
    {immediateBytes : Nat}
    (isLayout :
      layout (code 0) =
        some (.addressed fun _ => some (.value immediateBytes)))
    (noMove : code 0 ≠ 0xC7)
    (noAddress : code 0 ≠ 0x8D) :
    DecodedBody code (addressedLength code immediateBytes) :=
  .addressed immediateBytes _ isLayout (fun _ => rfl)
    fun irregular => (irregular (regular_of_ne noMove noAddress)).elim

/-- Moves of an immediate. -/
theorem DecodedBody.ofMove
    {code : Nat → UInt8}
    (isMove : code 0 = 0xC7) :
    DecodedBody code (addressedLength code 4) := by
  have isLayout :
      layout (code 0) =
        some
          (.addressed fun modRm =>
            if regField modRm = 0 then
              some (.value 4)
            else if modRm = 0xF8 then
              some (.offset 4)
            else
              none) := by
    rw [isMove]
    rfl
  refine .addressed 4 _ isLayout ?_ ?_
  · intro regular
    have extension : regField (code 1) = 0 := by
      by_contra other
      exact regular.1 ⟨isMove, other⟩
    rw [if_pos extension]
  · intro irregular found isFound
    have extension : regField (code 1) ≠ 0 := by
      intro isZero
      apply irregular
      refine ⟨fun both => both.2 isZero, fun both => ?_⟩
      rw [isMove] at both
      exact absurd both.1 (by decide)
    rw [if_neg extension] at isFound
    split at isFound
    · cases isFound
      rfl
    · cases isFound

/-- Effective addresses. -/
theorem DecodedBody.ofAddress
    {code : Nat → UInt8}
    (isAddress : code 0 = 0x8D) :
    DecodedBody code (addressedLength code 0) := by
  have isLayout :
      layout (code 0) =
        some
          (.addressed fun modRm =>
            if modField modRm = 3 then none else some .nothing) := by
    rw [isAddress]
    rfl
  refine .addressed 0 _ isLayout ?_ ?_
  · intro regular
    rw [if_neg fun isRegister => regular.2 ⟨isAddress, isRegister⟩]
    rfl
  · intro irregular found isFound
    have isRegister : modField (code 1) = 3 := by
      by_contra isMemory
      apply irregular
      refine ⟨fun both => ?_, fun both => isMemory both.2⟩
      rw [isAddress] at both
      exact absurd both.1 (by decide)
    rw [if_pos isRegister] at isFound
    cases isFound

theorem layout_oneByte
    {opcode : UInt8}
    (short : (0x40 ≤ opcode ∧ opcode ≤ 0x5F) ∨ opcode = 0x90) :
    layout opcode = some (.plain .nothing) := by
  rcases short with ⟨low, high⟩ | rfl
  · have lowNat := UInt8.le_iff_toNat_le.mp low
    have highNat := UInt8.le_iff_toNat_le.mp high
    simp only [UInt8.reduceToNat] at lowNat highNat
    simp only [layout]
    rw [if_neg (by omega), if_pos (by omega)]
  · rfl

theorem layout_loadImmediate
    {opcode : UInt8}
    (low : 0xB8 ≤ opcode)
    (high : opcode ≤ 0xBF) :
    layout opcode = some (.plain (.value 4)) := by
  have lowNat := UInt8.le_iff_toNat_le.mp low
  have highNat := UInt8.le_iff_toNat_le.mp high
  simp only [UInt8.reduceToNat] at lowNat highNat
  unfold layout
  simp only
  interval_cases opcode.toNat <;> rfl

/-- A fixed length that fits in the available bytes is decoded. -/
theorem decodedBody_of_fits
    {code : Nat → UInt8}
    {available length : Nat}
    (body : DecodedBody code length) :
    ∃ result,
      (if available < length then some none else some (some length)) =
          some result ∧
        ∀ found, result = some found →
          found ≤ available ∧ DecodedBody code found := by
  rw [fits_eq]
  refine ⟨_, rfl, ?_⟩
  intro found isFound
  split at isFound
  · rename_i fits
    cases isFound
    exact ⟨fits, body⟩
  · cases isFound

/-- So is an instruction with a ModRM byte. -/
theorem decodedBody_of_modRm
    {code : Nat → UInt8}
    (available : Nat)
    {immediateBytes : Nat}
    (body : DecodedBody code (addressedLength code immediateBytes)) :
    ∃ result,
      decodeModRmInstructionLength (readableBelow code available) available
          immediateBytes =
          some result ∧
        ∀ found, result = some found →
          found ≤ available ∧ DecodedBody code found := by
  rw [decodeModRmInstructionLength_eq, ← fits_eq]
  exact decodedBody_of_fits body

/-- Behind the overrides the decoder does not fault, and finds a body. -/
theorem decode_body
    (code : Nat → UInt8)
    (available : Nat)
    (noOverride : ¬ IsFsGs (code 0)) :
    ∃ result,
      decodeSupportedInstructionLength (available + 1)
          (readableBelow code (available + 1)) =
          some result ∧
        ∀ found, result = some found →
          found ≤ available + 1 ∧ DecodedBody code found := by
  have opcodeRead :
      readableBelow code (available + 1) 0 = some (code 0) :=
    if_pos (by omega)
  have regularPlain :
      ∀ trailing, layout (code 0) = some (.plain trailing) →
        Regular code := by
    intro trailing isLayout
    refine regular_of_ne ?_ ?_
    · intro isMove
      rw [isMove] at isLayout
      cases isLayout
    · intro isAddress
      rw [isAddress] at isLayout
      cases isLayout
  have fixed :
      ∀ trailing, layout (code 0) = some (.plain trailing) →
        trailing.relative = false →
          ∃ result,
            (if available + 1 < 1 + trailing.width then
                some none
              else
                some (some (1 + trailing.width))) =
                some result ∧
              ∀ found, result = some found →
                found ≤ available + 1 ∧ DecodedBody code found :=
    fun trailing isLayout absolute =>
      decodedBody_of_fits
        (.plain trailing isLayout absolute
          (regularPlain trailing isLayout))
  have notPrefixed : ¬ (code 0 = 0x64 ∨ code 0 = 0x65) := noOverride
  rw [decodeSupportedInstructionLength, opcodeRead]
  simp only [Option.bind_eq_bind, Option.bind_some, Option.pure_def]
  rw [if_neg notPrefixed]
  by_cases oneByte :
      (0x40 ≤ code 0 ∧ code 0 ≤ 0x5F) ∨ code 0 = 0x90
  · rw [if_pos oneByte]
    refine ⟨_, rfl, ?_⟩
    intro found isFound
    cases isFound
    have isLayout := layout_oneByte oneByte
    exact
      ⟨by omega,
        .plain .nothing isLayout rfl (regularPlain _ isLayout)⟩
  rw [if_neg oneByte]
  by_cases push : code 0 = 0x68
  · rw [if_pos push]
    exact fixed (.value 4) (by rw [push]; rfl) rfl
  rw [if_neg push]
  by_cases direct : code 0 = 0xA1 ∨ code 0 = 0xA3
  · rw [if_pos direct]
    refine fixed (.value 4) ?_ rfl
    rcases direct with isLoad | isStore
    · rw [isLoad]
      rfl
    · rw [isStore]
      rfl
  rw [if_neg direct]
  by_cases pushByte : code 0 = 0x6A
  · rw [if_pos pushByte]
    exact fixed (.value 1) (by rw [pushByte]; rfl) rfl
  rw [if_neg pushByte]
  by_cases load : 0xB8 ≤ code 0 ∧ code 0 ≤ 0xBF
  · rw [if_pos load]
    exact fixed (.value 4) (layout_loadImmediate load.1 load.2) rfl
  rw [if_neg load]
  by_cases wide : code 0 = 0x81 ∨ code 0 = 0xC7
  · rw [if_pos wide]
    apply decodedBody_of_modRm
    rcases wide with isGroup | isMove
    · exact
        .ofAddressed (by rw [isGroup]; rfl) (by rw [isGroup]; decide)
          (by rw [isGroup]; decide)
    · exact .ofMove isMove
  rw [if_neg wide]
  by_cases narrow : code 0 = 0x83
  · rw [if_pos narrow]
    apply decodedBody_of_modRm
    exact
      .ofAddressed (by rw [narrow]; rfl) (by rw [narrow]; decide)
        (by rw [narrow]; decide)
  rw [if_neg narrow]
  by_cases register :
      code 0 = 0x31 ∨ code 0 = 0x33 ∨ code 0 = 0x85 ∨ code 0 = 0x89 ∨
        code 0 = 0x8B ∨ code 0 = 0x8D
  · rw [if_pos register]
    apply decodedBody_of_modRm
    by_cases address : code 0 = 0x8D
    · exact .ofAddress address
    · have isLayout :
          layout (code 0) =
            some (.addressed fun _ => some (.value 0)) := by
        rcases register with is | is | is | is | is | is
        all_goals first
          | exact (address is).elim
          | rw [is]; rfl
      have noMove : code 0 ≠ 0xC7 := fun isMove => wide (.inr isMove)
      exact .ofAddressed isLayout noMove address
  · rw [if_neg register]
    refine ⟨none, rfl, ?_⟩
    intro found isFound
    cases isFound

/-! ## What a decoded length is -/

/-- The decoder's overrides are segment overrides. -/
theorem IsFsGs.mem_segmentOverrides
    {byte : UInt8}
    (isFsGs : IsFsGs byte) :
    byte ∈ segmentOverrides := by
  rcases isFsGs with rfl | rfl <;> decide

/-- Every opcode has its place behind some leading overrides. -/
def Leads (code : Nat → UInt8) (overrides : Nat) : Prop :=
  (∀ index < overrides, IsFsGs (code index)) ∧ ¬ IsFsGs (code overrides)

theorem readableBelow_succ
    (code : Nat → UInt8)
    (available : Nat) :
    (fun offset => readableBelow code (available + 1) (offset + 1)) =
      readableBelow (fun offset => code (offset + 1)) available := by
  funext offset
  simp [readableBelow]

theorem Leads.succ
    {code : Nat → UInt8}
    {overrides : Nat}
    (isFsGs : IsFsGs (code 0))
    (leads : Leads (fun offset => code (offset + 1)) overrides) :
    Leads code (overrides + 1) := by
  refine ⟨?_, leads.2⟩
  intro index inside
  cases index with
  | zero =>
      exact isFsGs
  | succ index =>
      exact leads.1 index (by omega)

/-- A code has one place for its opcode. -/
theorem Leads.unique
    {code : Nat → UInt8}
    {left right : Nat}
    (leftLeads : Leads code left)
    (rightLeads : Leads code right) :
    left = right := by
  rcases Nat.lt_trichotomy left right with below | same | above
  · exact (leftLeads.2 (rightLeads.1 left below)).elim
  · exact same
  · exact (rightLeads.2 (leftLeads.1 right above)).elim

/-- The decoder does not fault, and finds overrides and a body. -/
theorem decode_shape (available : Nat) :
    ∀ code : Nat → UInt8,
      ∃ result,
        decodeSupportedInstructionLength available
            (readableBelow code available) =
            some result ∧
          ∀ found, result = some found →
            found ≤ available ∧
              ∃ overrides body,
                found = overrides + body ∧
                  Leads code overrides ∧
                  DecodedBody (fun index => code (overrides + index))
                    body := by
  induction available with
  | zero =>
      intro code
      refine ⟨none, rfl, ?_⟩
      intro found isFound
      cases isFound
  | succ available hypothesis =>
      intro code
      by_cases isFsGs : IsFsGs (code 0)
      · obtain ⟨result, decoded, sound⟩ :=
          hypothesis fun offset => code (offset + 1)
        have opcodeRead :
            readableBelow code (available + 1) 0 = some (code 0) :=
          if_pos (by omega)
        rw [decodeSupportedInstructionLength, opcodeRead]
        simp only [Option.bind_eq_bind, Option.bind_some, Option.pure_def]
        rw [if_pos (show code 0 = 0x64 ∨ code 0 = 0x65 from isFsGs),
          readableBelow_succ, decoded]
        by_cases tooShort : available + 1 < 2
        · rw [if_pos tooShort]
          refine ⟨none, rfl, ?_⟩
          intro found isFound
          cases isFound
        · rw [if_neg tooShort]
          refine ⟨result.map (1 + ·), rfl, ?_⟩
          intro found isFound
          obtain ⟨prefixed, isPrefixed, rfl⟩ :=
            Option.map_eq_some_iff.mp isFound
          obtain ⟨fits, overrides, body, rfl, leads, decodedBody⟩ :=
            sound prefixed isPrefixed
          refine
            ⟨by omega, overrides + 1, body, by omega,
              leads.succ isFsGs, ?_⟩
          simpa only [Nat.add_right_comm _ 1] using decodedBody
      · obtain ⟨result, decoded, sound⟩ := decode_body code available isFsGs
        refine ⟨result, decoded, ?_⟩
        intro found isFound
        obtain ⟨fits, body⟩ := sound found isFound
        refine ⟨fits, 0, found, by omega, ⟨?_, isFsGs⟩, ?_⟩
        · intro index below
          exact absurd below (Nat.not_lt_zero index)
        · simpa using body

/-- A length at the start of some code is right, and its bytes can be moved. -/
def SoundLength (code : Nat → UInt8) (length : Nat) : Prop :=
  ∃ instruction : Instruction,
    instruction.StartsAt code 0 ∧
      instruction.encode.length = length ∧
      (∀ other : Instruction,
        other.StartsAt code 0 → other = instruction) ∧
      ∀ left right,
        instruction.meaningAt left = instruction.meaningAt right

/-- Behind its overrides the code is regular and not too long. -/
def Copyable (code : Nat → UInt8) : Prop :=
  ∀ overrides,
    Leads code overrides →
      Regular (fun index => code (overrides + index)) ∧
        overrides + bodyLength (fun index => code (overrides + index)) ≤
          maximumLength

theorem soundLength_iff
    {code : Nat → UInt8}
    {length : Nat} :
    SoundLength code length ↔
      ∃ instruction : Instruction,
        instruction.StartsAt code 0 ∧
          instruction.encode.length = length ∧
          instruction.trailing.relative = false := by
  constructor
  · rintro ⟨instruction, starts, isLength, _, everywhere⟩
    exact
      ⟨instruction, starts, isLength,
        instruction.meaningAt_eq_iff.mp everywhere⟩
  · rintro ⟨instruction, starts, isLength, absolute⟩
    exact
      ⟨instruction, starts, isLength,
        fun other otherStarts =>
          Instruction.startsAt_unique otherStarts starts,
        instruction.meaningAt_eq_iff.mpr absolute⟩

/-- The condition at the place of the opcode. -/
theorem Leads.copyable_iff
    {code : Nat → UInt8}
    {overrides : Nat}
    (leads : Leads code overrides) :
    Copyable code ↔
      Regular (fun index => code (overrides + index)) ∧
        overrides + bodyLength (fun index => code (overrides + index)) ≤
          maximumLength := by
  constructor
  · intro copyable
    exact copyable overrides leads
  · intro here others otherLeads
    rw [otherLeads.unique leads]
    exact here

/-- The instruction at the start has the opcode behind its overrides. -/
theorem Leads.shape
    {code : Nat → UInt8}
    {overrides : Nat}
    (leads : Leads code overrides)
    {bodyLayout : Layout}
    (isLayout : layout (code overrides) = some bodyLayout)
    {instruction : Instruction}
    (starts : instruction.StartsAt code 0) :
    instruction.opcode = code overrides ∧
      ∀ addressing, instruction.addressing = some addressing →
        addressing.modRm = code (overrides + 1) := by
  have noOverride : code overrides ∉ segmentOverrides := by
    intro isOverride
    rw [layout_override isOverride] at isLayout
    cases isLayout
  exact
    (starts.shape
      (fun index below => (leads.1 index below).mem_segmentOverrides)
      noOverride).2

/-- A decoded length is sound exactly for copyable code. -/
theorem soundLength_iff_copyable
    {code : Nat → UInt8}
    {overrides body : Nat}
    (leads : Leads code overrides)
    (decodedBody :
      DecodedBody (fun index => code (overrides + index)) body) :
    SoundLength code (overrides + body) ↔ Copyable code := by
  have areOverrides :
      ∀ index < overrides, code index ∈ segmentOverrides :=
    fun index below => (leads.1 index below).mem_segmentOverrides
  rw [soundLength_iff, leads.copyable_iff]
  cases decodedBody with
  | plain trailing isLayout absolute regular =>
      have isBody :
          bodyLength (fun index => code (overrides + index)) =
            1 + trailing.width := by
        rw [bodyLength, isLayout]
      rw [isBody]
      constructor
      · rintro ⟨instruction, _, isLength, _⟩
        refine ⟨regular, ?_⟩
        rw [← isLength]
        exact instruction.short
      · rintro ⟨_, short⟩
        obtain ⟨instruction, starts, isLength, isTrailing⟩ :=
          exists_startsAt_plain areOverrides isLayout short
        refine ⟨instruction, starts, isLength, ?_⟩
        rw [isTrailing]
        exact absolute
  | addressed immediateBytes trails isLayout regular irregular =>
      constructor
      · rintro ⟨instruction, starts, isLength, absolute⟩
        obtain ⟨isOpcode, isModRm⟩ := leads.shape isLayout starts
        have defined := instruction.defined
        have layoutHere :
            layout instruction.opcode = some (.addressed trails) := by
          rw [isOpcode]
          exact isLayout
        rw [layoutHere, Option.bind_some] at defined
        have trailsHere :
            trails (code (overrides + 1)) = some instruction.trailing := by
          cases isAddressing : instruction.addressing with
          | none =>
              rw [isAddressing] at defined
              cases defined
          | some addressing =>
              rw [isAddressing] at defined
              rw [← isModRm addressing isAddressing]
              exact defined
        have isRegular :
            Regular fun index => code (overrides + index) := by
          by_contra isIrregular
          have relative :=
            irregular isIrregular instruction.trailing trailsHere
          rw [absolute] at relative
          cases relative
        refine ⟨isRegular, ?_⟩
        rw [bodyLength, isLayout]
        simp only [regular isRegular, Option.elim_some, Trailing.value]
        rw [← isLength]
        exact instruction.short
      · rintro ⟨isRegular, short⟩
        rw [bodyLength, isLayout] at short
        simp only [regular isRegular, Option.elim_some] at short
        obtain ⟨instruction, starts, isLength, isTrailing⟩ :=
          exists_startsAt_addressed areOverrides isLayout
            (regular isRegular) short
        refine ⟨instruction, starts, isLength, ?_⟩
        rw [isTrailing]
        rfl

/--
The decoder reads only what is available.  A length it returns fits in there,
and it is the length of an instruction that can be moved exactly when the code
is copyable.
-/
theorem decodeSupportedInstructionLength_sound_iff
    (code : Nat → UInt8)
    (available : Nat) :
    (∃ result,
        decodeSupportedInstructionLength available
            (readableBelow code available) =
          some result) ∧
      ∀ length,
        decodeSupportedInstructionLength available
              (readableBelow code available) =
            some (some length) →
          length ≤ available ∧
            (SoundLength code length ↔ Copyable code) := by
  obtain ⟨result, decoded, sound⟩ := decode_shape available code
  refine ⟨⟨result, decoded⟩, ?_⟩
  intro length isLength
  rw [decoded, Option.some.injEq] at isLength
  obtain ⟨fits, overrides, body, rfl, leads, decodedBody⟩ :=
    sound length isLength
  exact ⟨fits, soundLength_iff_copyable leads decodedBody⟩

/-- The entry of a function that saves the stack pointer. -/
def entryCode : Nat → UInt8
  | 0 => 0x8B
  | 1 => 0xEC
  | _ => 0x90

theorem entryCode_soundLength :
    decodeSupportedInstructionLength 5 (readableBelow entryCode 5) =
        some (some 2) ∧
      SoundLength entryCode 2 := by
  have decoded :
      decodeSupportedInstructionLength 5 (readableBelow entryCode 5) =
        some (some 2) := by
    decide +kernel
  have leads : Leads entryCode 0 :=
    ⟨fun index below => absurd below (Nat.not_lt_zero index), by decide⟩
  have sound :=
    (decodeSupportedInstructionLength_sound_iff entryCode 5).2 2 decoded
  exact
    ⟨decoded,
      sound.2.mpr
        (leads.copyable_iff.mpr
          ⟨regular_of_ne (by decide) (by decide), by decide⟩)⟩

/-- The beginning of a transaction, falling back to the next instruction. -/
def transactionCode : Nat → UInt8
  | 0 => 0xC7
  | 1 => 0xF8
  | _ => 0x00

/-- Its length is returned, although its fallback is relative. -/
theorem transactionCode_not_soundLength :
    decodeSupportedInstructionLength 6 (readableBelow transactionCode 6) =
        some (some 6) ∧
      ¬ SoundLength transactionCode 6 := by
  have leads : Leads transactionCode 0 :=
    ⟨fun index below => absurd below (Nat.not_lt_zero index), by decide⟩
  have body :
      DecodedBody (fun index => transactionCode (0 + index)) 6 :=
    .ofMove rfl
  refine ⟨by decide +kernel, ?_⟩
  intro sound
  have copyable := (soundLength_iff_copyable leads body).mp sound
  exact (copyable 0 leads).1.1 ⟨rfl, by decide⟩

end MonomythClient.HookManager
