import MonomythClient.FlatMemory
import MonomythClient.LittleEndian

namespace MonomythClient.RelocatedBytes

open FlatMemory LittleEndian

/-!
# Relocated bytes

Code that is looked for has absolute addresses in it, which differ where the
module is loaded elsewhere.  Three parts of the client compare code up to such
operands; each has a copy of the same matcher.  It passes over the code, and
tries a few forms of instructions at every place before it compares a byte.
-/

/-! ## The matcher -/

/-- A form of instructions: some bytes of opcode, then an absolute operand. -/
structure Form where
  opcodeBytes : Nat
  recognises : (Nat → UInt8) → Bool

/-- The bytes of an instruction. -/
def Form.consumed (form : Form) : Nat :=
  form.opcodeBytes + 4

/-- `push`, `mov eax` with memory, and `mov` of an immediate. -/
def Form.absolute : Form where
  opcodeBytes := 1
  recognises := fun code =>
    code 0 = 0x68 ∨ code 0 = 0xA1 ∨ code 0 = 0xA3 ∨
      (0xB8 ≤ code 0 ∧ code 0 ≤ 0xBF)

/-- `mov eax, fs:[address]` -/
def Form.loadFs : Form where
  opcodeBytes := 2
  recognises := fun code => code 0 = 0x64 ∧ code 1 = 0xA1

/-- `mov fs:[address], esp` -/
def Form.storeFs : Form where
  opcodeBytes := 3
  recognises := fun code =>
    code 0 = 0x64 ∧ code 1 = 0x89 ∧ code 2 = 0x25

/-- The opcodes that are recognised with a ModRM byte. -/
def isModRmOpcode (opcode : UInt8) : Bool :=
  opcode = 0x8B ∨ opcode = 0x89 ∨ opcode = 0x8D ∨ opcode = 0xFF

/-- An operand at an address. -/
def Form.direct : Form where
  opcodeBytes := 2
  recognises := fun code =>
    isModRmOpcode (code 0) ∧ code 1 &&& 0xC7 = 0x05

/-- An operand at an address and a scaled register. -/
def Form.indexed : Form where
  opcodeBytes := 3
  recognises := fun code =>
    isModRmOpcode (code 0) ∧ code 1 &&& 0xC7 = 0x04 ∧
      code 2 &&& 0x07 = 0x05

/-- `movzx` and `movsx` with an operand at an address and a register. -/
def Form.extended : Form where
  opcodeBytes := 3
  recognises := fun code =>
    code 0 = 0x0F ∧
      (code 1 = 0xB6 ∨ code 1 = 0xB7 ∨ code 1 = 0xBE ∨ code 1 = 0xBF) ∧
        code 2 &&& 0xC7 = 0x80

/-- `ReadLe32` -/
def readLe32 (bytes : Nat → UInt8) (offset : Nat) : UInt32 :=
  UInt32.ofNat
    (value
      [bytes offset, bytes (offset + 1), bytes (offset + 2),
        bytes (offset + 3)])

/-- `RelocatedImmediateMatches` -/
def relocatedImmediateMatches
    (actual expected : Nat → UInt8)
    (offset immediateOffset : Nat)
    (relocationDelta : Int32) : Bool :=
  let expectedValue : Int :=
    (readLe32 expected (offset + immediateOffset)).toNat
  let actualValue : Int :=
    (readLe32 actual (offset + immediateOffset)).toNat
  actualValue - expectedValue = relocationDelta.toInt

/-- An instruction of a form is in both strings, but for its operand. -/
def Form.matches
    (form : Form)
    (actual expected : Nat → UInt8)
    (length offset : Nat)
    (relocationDelta : Int32) : Bool :=
  offset + form.consumed ≤ length ∧
    sameBytes (fun later => actual (offset + later))
        (fun later => expected (offset + later)) form.opcodeBytes ∧
      form.recognises (fun later => expected (offset + later)) ∧
        relocatedImmediateMatches actual expected offset form.opcodeBytes
          relocationDelta

/-- `TryMatchRelocatableInstruction`: the bytes it consumes. -/
def tryMatchRelocatableInstruction
    (forms : List Form)
    (actual expected : Nat → UInt8)
    (length offset : Nat)
    (relocationDelta : Int32) : Option Nat :=
  if length ≤ offset then
    none
  else
    (forms.find?
        (·.matches actual expected length offset relocationDelta)).map
      Form.consumed

/-- The loop, unless it takes more passes than are given to it. -/
def scan
    (forms : List Form)
    (actual expected : Nat → UInt8)
    (length : Nat)
    (relocationDelta : Int32) :
    Nat → Nat → Option Bool
  | passes, offset =>
      if offset < length then
        match passes with
        | 0 => none
        | passes + 1 =>
            match
              tryMatchRelocatableInstruction forms actual expected length
                offset relocationDelta with
            | some consumed =>
                scan forms actual expected length relocationDelta passes
                  (offset + consumed)
            | none =>
                if actual offset ≠ expected offset then
                  some false
                else
                  scan forms actual expected length relocationDelta passes
                    (offset + 1)
      else
        some true

/--
`BytesMatchWithModuleRelocation`, with the forms of a copy and the base its
expected code has.  The difference of the bases is taken on signed words of 32
bits, and wraps around.
-/
def bytesMatchWithModuleRelocation
    (forms : List Form)
    (imageBase : UInt32)
    (actual expected : Option (Nat → UInt8))
    (length : Nat)
    (moduleBase : UInt32) : Option Bool :=
  match actual, expected with
  | some actual, some expected =>
      if length = 0 then
        some false
      else if sameBytes actual expected length then
        some true
      else
        let relocationDelta := moduleBase.toInt32 - imageBase.toInt32
        if relocationDelta = 0 then
          some false
        else
          scan forms actual expected length relocationDelta length 0
  | none, _ => some false
  | _, none => some false

/-! ## Operands -/

/-- A signed word is congruent to the unsigned one. -/
theorem toInt_toInt32 (word : UInt32) :
    word.toInt32.toInt = (word.toNat : Int).bmod (2 ^ 32) :=
  BitVec.toInt_eq_toNat_bmod _

/-- Operands whose numbers differ by the delta differ by that of the bases. -/
theorem sub_eq_of_toInt_sub
    {actual expected moduleBase imageBase : UInt32}
    (differ :
      (actual.toNat : Int) - expected.toNat =
        (moduleBase.toInt32 - imageBase.toInt32).toInt) :
    actual - expected = moduleBase - imageBase := by
  have actualFits := actual.toNat_lt
  have expectedFits := expected.toNat_lt
  have moduleFits := moduleBase.toNat_lt
  have imageFits := imageBase.toNat_lt
  have congruent :
      ((actual.toNat : Int) - expected.toNat) % (2 ^ 32 : Nat) =
        ((moduleBase.toNat : Int) - imageBase.toNat) % (2 ^ 32 : Nat) := by
    rw [differ, Int32.toInt_sub, toInt_toInt32, toInt_toInt32,
      Int.bmod_emod, Int.sub_emod, Int.bmod_emod, Int.bmod_emod,
      ← Int.sub_emod]
  rw [← UInt32.toNat_inj, UInt32.toNat_sub, UInt32.toNat_sub]
  omega

/-! ## Places -/

/--
The places of instructions whose operands were relocated, from an offset on:
they follow one another inside the code, and outside their operands it is the
same.
-/
structure Relocation
    (forms : List Form)
    (imageBase moduleBase : UInt32)
    (actual expected : Nat → UInt8)
    (length start : Nat)
    (places : List (Nat × Form)) : Prop where
  recognised :
    ∀ place ∈ places,
      place.2 ∈ forms ∧
        place.2.recognises (fun later => expected (place.1 + later)) = true
  inside :
    ∀ place ∈ places,
      start ≤ place.1 ∧ place.1 + place.2.consumed ≤ length
  opcodes :
    ∀ place ∈ places, ∀ later < place.2.opcodeBytes,
      actual (place.1 + later) = expected (place.1 + later)
  operands :
    ∀ place ∈ places,
      readLe32 actual (place.1 + place.2.opcodeBytes) -
          readLe32 expected (place.1 + place.2.opcodeBytes) =
        moduleBase - imageBase
  apart :
    places.Pairwise fun left right =>
      left.1 + left.2.consumed ≤ right.1
  complete :
    ∀ offset,
      start ≤ offset →
        offset < length →
          actual offset ≠ expected offset →
            ∃ place ∈ places,
              place.1 + place.2.opcodeBytes ≤ offset ∧
                offset < place.1 + place.2.opcodeBytes + 4

section Scans

variable
  {forms : List Form}
  {imageBase moduleBase : UInt32}
  {actual expected : Nat → UInt8}
  {length : Nat}

/-- At the end nothing is relocated. -/
theorem Relocation.ofEnd
    {start : Nat}
    (atEnd : length ≤ start) :
    Relocation forms imageBase moduleBase actual expected length start
      [] where
  recognised _ member := absurd member List.not_mem_nil
  inside _ member := absurd member List.not_mem_nil
  opcodes _ member := absurd member List.not_mem_nil
  operands _ member := absurd member List.not_mem_nil
  apart := .nil
  complete offset behind inside _ := by omega

/-- A byte that is the same needs no place. -/
theorem Relocation.same
    {start : Nat}
    {places : List (Nat × Form)}
    (same : actual start = expected start)
    (relocation :
      Relocation forms imageBase moduleBase actual expected length
        (start + 1) places) :
    Relocation forms imageBase moduleBase actual expected length start
      places where
  recognised := relocation.recognised
  inside place member := by
    have inside := relocation.inside place member
    exact ⟨by omega, inside.2⟩
  opcodes := relocation.opcodes
  operands := relocation.operands
  apart := relocation.apart
  complete offset behind inside differ := by
    by_cases here : offset = start
    · rw [here] at differ
      exact (differ same).elim
    · exact relocation.complete offset (by omega) inside differ

/-- An instruction that matches is a place. -/
theorem Relocation.instruction
    {start : Nat}
    {form : Form}
    (isForm : form ∈ forms)
    (isMatch :
      form.matches actual expected length start
          (moduleBase.toInt32 - imageBase.toInt32) =
        true)
    {places : List (Nat × Form)}
    (relocation :
      Relocation forms imageBase moduleBase actual expected length
        (start + form.consumed) places) :
    Relocation forms imageBase moduleBase actual expected length start
      ((start, form) :: places) := by
  simp only [Form.matches, decide_eq_true_eq] at isMatch
  obtain ⟨fits, sameOpcode, recognises, operand⟩ := isMatch
  have opcode := sameBytes_iff.mp sameOpcode
  simp only [relocatedImmediateMatches, decide_eq_true_eq] at operand
  have consumed : form.consumed = form.opcodeBytes + 4 := rfl
  constructor
  · intro place member
    rcases List.mem_cons.mp member with rfl | later
    · exact ⟨isForm, recognises⟩
    · exact relocation.recognised place later
  · intro place member
    rcases List.mem_cons.mp member with rfl | later
    · exact ⟨Nat.le_refl _, fits⟩
    · have inside := relocation.inside place later
      exact ⟨by omega, inside.2⟩
  · intro place member
    rcases List.mem_cons.mp member with rfl | later
    · exact opcode
    · exact relocation.opcodes place later
  · intro place member
    rcases List.mem_cons.mp member with rfl | later
    · exact sub_eq_of_toInt_sub operand
    · exact relocation.operands place later
  · refine List.pairwise_cons.mpr ⟨?_, relocation.apart⟩
    intro place later
    exact (relocation.inside place later).1
  · intro offset behind inside differ
    by_cases here : offset < start + form.consumed
    · -- The opcode is the same in both strings.
      have behindOpcode : start + form.opcodeBytes ≤ offset := by
        by_contra inOpcode
        have same := opcode (offset - start) (by omega)
        rw [Nat.add_sub_cancel' behind] at same
        exact differ same
      have inWindow : offset < start + form.opcodeBytes + 4 := by
        omega
      exact
        ⟨(start, form), List.mem_cons_self, behindOpcode, inWindow⟩
    · obtain ⟨place, member, window⟩ :=
        relocation.complete offset (by omega) inside differ
      exact ⟨place, List.mem_cons_of_mem _ member, window⟩

/-- What a scan accepts is relocated. -/
theorem scan_sound
    {passes start : Nat}
    (accepted :
      scan forms actual expected length
          (moduleBase.toInt32 - imageBase.toInt32) passes start =
        some true) :
    ∃ places,
      Relocation forms imageBase moduleBase actual expected length start
        places := by
  induction passes generalizing start with
  | zero =>
      unfold scan at accepted
      by_cases inside : start < length
      · rw [if_pos inside] at accepted
        cases accepted
      · exact ⟨[], .ofEnd (Nat.not_lt.mp inside)⟩
  | succ passes hypothesis =>
      unfold scan at accepted
      by_cases inside : start < length
      · rw [if_pos inside] at accepted
        simp only at accepted
        split at accepted
        · rename_i consumed isConsumed
          unfold tryMatchRelocatableInstruction at isConsumed
          rw [if_neg (Nat.not_le.mpr inside)] at isConsumed
          obtain ⟨form, isFirst, rfl⟩ :=
            Option.map_eq_some_iff.mp isConsumed
          have isMatch := List.find?_some isFirst
          obtain ⟨places, relocation⟩ := hypothesis accepted
          exact
            ⟨(start, form) :: places,
              relocation.instruction (List.mem_of_find?_eq_some isFirst)
                isMatch⟩
        · split at accepted
          · cases accepted
          · rename_i same
            obtain ⟨places, relocation⟩ := hypothesis accepted
            exact ⟨places, relocation.same (Decidable.not_not.mp same)⟩
      · exact ⟨[], .ofEnd (Nat.not_lt.mp inside)⟩

/-- A scan ends when it may take as many passes as there are bytes left. -/
theorem scan_terminates
    {relocationDelta : Int32}
    {passes start : Nat}
    (enough : length ≤ start + passes) :
    ∃ answer,
      scan forms actual expected length relocationDelta passes start =
        some answer := by
  induction passes generalizing start with
  | zero =>
      unfold scan
      rw [if_neg (by omega)]
      exact ⟨true, rfl⟩
  | succ passes hypothesis =>
      unfold scan
      by_cases inside : start < length
      · rw [if_pos inside]
        simp only
        split
        · rename_i consumed isConsumed
          unfold tryMatchRelocatableInstruction at isConsumed
          rw [if_neg (Nat.not_le.mpr inside)] at isConsumed
          obtain ⟨form, _, rfl⟩ := Option.map_eq_some_iff.mp isConsumed
          have consumed : form.consumed = form.opcodeBytes + 4 := rfl
          exact hypothesis (by omega)
        · split
          · exact ⟨false, rfl⟩
          · exact hypothesis (by omega)
      · rw [if_neg inside]
        exact ⟨true, rfl⟩

/-- How many bytes of opcode the forms recognise at a place. -/
def recognisedOpcodes
    (forms : List Form)
    (code : Nat → UInt8)
    (offset : Nat) : List Nat :=
  (forms.filter
      (·.recognises fun later => code (offset + later))).map
    Form.opcodeBytes

/-- The bytes match behind the opcode of a form that is recognised. -/
def matchesBehind
    (actual expected : Nat → UInt8)
    (length offset : Nat)
    (relocationDelta : Int32)
    (opcodeBytes : Nat) : Bool :=
  decide (offset + (opcodeBytes + 4) ≤ length) &&
    sameBytes (fun later => actual (offset + later))
      (fun later => expected (offset + later)) opcodeBytes &&
    relocatedImmediateMatches actual expected offset opcodeBytes
      relocationDelta

theorem Form.matches_eq
    {form : Form}
    {offset : Nat}
    {relocationDelta : Int32} :
    form.matches actual expected length offset relocationDelta =
      decide
        (form.recognises (fun later => expected (offset + later)) = true ∧
          matchesBehind actual expected length offset relocationDelta
              form.opcodeBytes =
            true) := by
  rw [Bool.eq_iff_iff]
  simp only [Form.matches, matchesBehind, Bool.and_eq_true,
    decide_eq_true_eq]
  constructor
  · rintro ⟨fits, opcode, recognises, operand⟩
    exact ⟨recognises, ⟨fits, opcode⟩, operand⟩
  · rintro ⟨recognises, ⟨fits, opcode⟩, operand⟩
    exact ⟨fits, opcode, recognises, operand⟩

/-- An instruction matches when it is recognised, by whatever form. -/
theorem tryMatchRelocatableInstruction_eq
    {offset : Nat}
    {relocationDelta : Int32} :
    tryMatchRelocatableInstruction forms actual expected length offset
        relocationDelta =
      if length ≤ offset then
        none
      else
        ((recognisedOpcodes forms expected offset).find?
            (matchesBehind actual expected length offset
              relocationDelta)).map
          (· + 4) := by
  rw [tryMatchRelocatableInstruction, recognisedOpcodes, List.find?_map,
    List.find?_filter, Option.map_map]
  simp only [Form.matches_eq]
  rfl

/-- Forms that recognise the same opcodes scan the same. -/
theorem scan_congr
    {other : List Form}
    (same :
      ∀ offset < length,
        recognisedOpcodes forms expected offset =
          recognisedOpcodes other expected offset)
    {relocationDelta : Int32}
    {passes start : Nat} :
    scan forms actual expected length relocationDelta passes start =
      scan other actual expected length relocationDelta passes start := by
  induction passes generalizing start with
  | zero =>
      unfold scan
      rfl
  | succ passes hypothesis =>
      unfold scan
      by_cases inside : start < length
      · have sameInstruction :
            tryMatchRelocatableInstruction forms actual expected length
                start relocationDelta =
              tryMatchRelocatableInstruction other actual expected length
                start relocationDelta := by
          rw [tryMatchRelocatableInstruction_eq,
            tryMatchRelocatableInstruction_eq, same start inside]
        rw [if_pos inside, if_pos inside]
        simp only [sameInstruction, hypothesis]
      · rw [if_neg inside, if_neg inside]

end Scans

/-! ## The copies -/

/-- What a matcher promises for code with an image base. -/
structure Sound
    (forms : List Form)
    (imageBase : UInt32)
    (bytesMatch :
      Option (Nat → UInt8) → Option (Nat → UInt8) → Nat → UInt32 →
        Option Bool) : Prop where
  terminates :
    ∀ actual expected length moduleBase,
      ∃ answer, bytesMatch actual expected length moduleBase = some answer
  relocated :
    ∀ actual expected length moduleBase,
      bytesMatch (some actual) (some expected) length moduleBase =
          some true →
        ∃ places,
          Relocation forms imageBase moduleBase actual expected length 0
            places
  /-- Where nothing is relocated, the code is the same. -/
  exact :
    ∀ actual expected length,
      bytesMatch (some actual) (some expected) length imageBase =
          some true ↔
        length ≠ 0 ∧ ∀ offset < length, actual offset = expected offset

/-- The matcher keeps it for any forms. -/
theorem sound (forms : List Form) (imageBase : UInt32) :
    Sound forms imageBase
      (bytesMatchWithModuleRelocation forms imageBase) where
  terminates := by
    intro actual expected length moduleBase
    cases actual with
    | none =>
        exact ⟨false, rfl⟩
    | some actual =>
    cases expected with
    | none =>
        exact ⟨false, rfl⟩
    | some expected =>
    unfold bytesMatchWithModuleRelocation
    simp only
    split
    · exact ⟨false, rfl⟩
    split
    · exact ⟨true, rfl⟩
    split
    · exact ⟨false, rfl⟩
    · exact scan_terminates (Nat.le_add_left ..)
  relocated := by
    intro actual expected length moduleBase accepted
    unfold bytesMatchWithModuleRelocation at accepted
    simp only at accepted
    split at accepted
    · cases accepted
    split at accepted
    · rename_i same
      refine ⟨[], ?_⟩
      have atEnd :=
        @Relocation.ofEnd forms imageBase moduleBase actual expected
          length length (Nat.le_refl _)
      exact
        { atEnd with
          inside := fun _ member => absurd member List.not_mem_nil
          complete := fun offset _ inside differ =>
            (differ (sameBytes_iff.mp same offset inside)).elim }
    split at accepted
    · cases accepted
    · exact scan_sound accepted
  exact := by
    intro actual expected length
    unfold bytesMatchWithModuleRelocation
    simp only [Int32.sub_self, if_true]
    by_cases isEmpty : length = 0
    · simp [isEmpty]
    · rw [if_neg isEmpty]
      by_cases same : sameBytes actual expected length = true
      · rw [if_pos same]
        exact
          iff_of_true rfl ⟨isEmpty, sameBytes_iff.mp same⟩
      · rw [if_neg same]
        refine iff_of_false (by simp) ?_
        rintro ⟨_, isSame⟩
        exact same (sameBytes_iff.mpr isSame)

/-- Forms that recognise the same opcodes match the same. -/
theorem bytesMatchWithModuleRelocation_congr
    {forms other : List Form}
    {imageBase moduleBase : UInt32}
    {actual expected : Nat → UInt8}
    {length : Nat}
    (same :
      ∀ offset < length,
        recognisedOpcodes forms expected offset =
          recognisedOpcodes other expected offset) :
    bytesMatchWithModuleRelocation forms imageBase (some actual)
        (some expected) length moduleBase =
      bytesMatchWithModuleRelocation other imageBase (some actual)
        (some expected) length moduleBase := by
  simp only [bytesMatchWithModuleRelocation, scan_congr same]

end MonomythClient.RelocatedBytes

namespace MonomythClient.SpellUsabilityDiscovery

open RelocatedBytes

def kExpectedEqgameImageBase : UInt32 := 0x00400000

def relocatableForms : List Form :=
  [.absolute, .loadFs, .storeFs, .direct, .indexed, .extended]

def bytesMatchWithModuleRelocation :
    Option (Nat → UInt8) → Option (Nat → UInt8) → Nat → UInt32 →
      Option Bool :=
  RelocatedBytes.bytesMatchWithModuleRelocation relocatableForms
    kExpectedEqgameImageBase

end MonomythClient.SpellUsabilityDiscovery

namespace MonomythClient.ClassDisplayDiscovery

open RelocatedBytes

def kExpectedEqgameImageBase : UInt32 := 0x00400000

def relocatableForms : List Form :=
  [.absolute, .loadFs, .storeFs, .direct, .indexed, .extended]

def bytesMatchWithModuleRelocation :
    Option (Nat → UInt8) → Option (Nat → UInt8) → Nat → UInt32 →
      Option Bool :=
  RelocatedBytes.bytesMatchWithModuleRelocation relocatableForms
    kExpectedEqgameImageBase

end MonomythClient.ClassDisplayDiscovery

namespace MonomythClient.HookManager

open RelocatedBytes

def kExpectedEqgameImageBase : UInt32 := 0x00400000

def relocatableForms : List Form :=
  [.absolute, .loadFs, .storeFs, .direct, .indexed, .extended]

def bytesMatchWithModuleRelocation :
    Option (Nat → UInt8) → Option (Nat → UInt8) → Nat → UInt32 →
      Option Bool :=
  RelocatedBytes.bytesMatchWithModuleRelocation relocatableForms
    kExpectedEqgameImageBase

end MonomythClient.HookManager

namespace MonomythClient.RelocatedBytes

/--
Each copy accepts only code that differs in the operands of its forms, by the
difference of the bases; and copies whose forms recognise the same opcodes
answer the same, so that the three of them do.
-/
theorem copies_sound :
    Sound SpellUsabilityDiscovery.relocatableForms 0x400000
        SpellUsabilityDiscovery.bytesMatchWithModuleRelocation ∧
      Sound ClassDisplayDiscovery.relocatableForms 0x400000
        ClassDisplayDiscovery.bytesMatchWithModuleRelocation ∧
      Sound HookManager.relocatableForms 0x400000
        HookManager.bytesMatchWithModuleRelocation ∧
      (∀ forms other imageBase moduleBase actual expected length,
        (∀ offset < length,
            recognisedOpcodes forms expected offset =
              recognisedOpcodes other expected offset) →
          bytesMatchWithModuleRelocation forms imageBase (some actual)
              (some expected) length moduleBase =
            bytesMatchWithModuleRelocation other imageBase (some actual)
              (some expected) length moduleBase) ∧
      SpellUsabilityDiscovery.bytesMatchWithModuleRelocation =
        ClassDisplayDiscovery.bytesMatchWithModuleRelocation ∧
      ClassDisplayDiscovery.bytesMatchWithModuleRelocation =
        HookManager.bytesMatchWithModuleRelocation := by
  refine ⟨sound .., sound .., sound .., ?_, rfl, rfl⟩
  intro forms other imageBase moduleBase actual expected length same
  exact bytesMatchWithModuleRelocation_congr same

/-- `mov eax` with an address of a module that is loaded 1 MiB higher. -/
example :
    HookManager.bytesMatchWithModuleRelocation
        (some fun offset => [0xA1, 0x34, 0x12, 0x50, 0x00].getD offset 0)
        (some fun offset => [0xA1, 0x34, 0x12, 0x40, 0x00].getD offset 0) 5
        0x500000 =
      some true := by
  decide +kernel

end MonomythClient.RelocatedBytes
