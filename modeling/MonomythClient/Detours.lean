import MonomythClient.CodePatches

namespace MonomythClient.HookManager

open FlatMemory Ia32 LittleEndian PayloadReader

/-!
# Detours

A detour moves the instructions at the entry of a function to a trampoline.
There they are followed by a jump to the rest of the function, and the entry is
a jump to the hook.  The system gives out memory that was not in use, so the
trampoline does not overlap the entry it was read from.
-/

/-! ## Branches -/

/-- The code at an address is a branch to a destination. -/
def BranchesTo
    (opcode : UInt8)
    (code : Nat → UInt8)
    (address destination : UInt32) : Prop :=
  ∃ instruction : Instruction,
    instruction.StartsAt code 0 ∧
      instruction.overrides = [] ∧
      instruction.opcode = opcode ∧
      instruction.encode.length = kJmpPatchBytes ∧
      instruction.target address = some destination

/-- A displacement that fits leads from behind the branch to its destination. -/
theorem add_ofInt_relative
    (patchSite destination : UInt32) :
    patchSite + UInt32.ofNat kJmpPatchBytes +
        (Int32.ofInt
          (destination.toNat - (patchSite.toNat + kJmpPatchBytes))).toUInt32 =
      destination := by
  have siteFits := patchSite.toNat_lt
  have destinationFits := destination.toNat_lt
  have word :
      (Int32.ofInt
          (destination.toNat -
            (patchSite.toNat + kJmpPatchBytes))).toUInt32.toNat =
        ((destination.toNat - (patchSite.toNat + kJmpPatchBytes) : Int) %
          (2 ^ 32 : Nat)).toNat :=
    BitVec.toNat_ofInt _
  rw [← UInt32.toNat_inj, UInt32.toNat_add, UInt32.toNat_add, word]
  simp only [kJmpPatchBytes, UInt32.toNat_ofNat']
  omega

/-- The bytes of a branch that was built go to its destination. -/
theorem branchesTo_of_built
    {opcode : UInt8}
    (isBranch : layout opcode = some (.plain (.offset 4)))
    {patchSite destination : UInt32}
    {patch : Vector UInt8 kJmpPatchBytes}
    (built : buildRelativeBranch opcode patchSite destination = some patch)
    {code : Nat → UInt8}
    (holds : ∀ offset < kJmpPatchBytes, code offset = bytesOf patch offset) :
    BranchesTo opcode code patchSite destination := by
  unfold buildRelativeBranch at built
  split at built
  · cases built
  simp only at built
  split at built
  · cases built
    refine
      ⟨{ overrides := []
         opcode := opcode
         addressing := none
         trailing := .offset 4
         immediate :=
           bytes32
             (Int32.ofInt
               (destination.toNat -
                 (patchSite.toNat + kJmpPatchBytes))).toUInt32
         areOverrides := by simp
         defined := by simp [isBranch, Layout.trailing]
         immediateFits := rfl
         short := by simp [maximumLength] },
        ?_, rfl, rfl, rfl, ?_⟩
    · have bytes :
          bytesAt code 0 kJmpPatchBytes =
            bytesAt
              (bytesOf
                (relativeBranch opcode
                  (Int32.ofInt
                    (destination.toNat -
                      (patchSite.toNat + kJmpPatchBytes)))))
              0 kJmpPatchBytes := by
        apply List.map_congr_left
        intro offset inside
        rw [Nat.zero_add]
        exact holds offset (List.mem_range.mp inside)
      exact bytes
    · have target := add_ofInt_relative patchSite destination
      rw [← signExtended_bytes32 (Int32.toUInt32 _)] at target
      exact congrArg some target
  · cases built

/-! ## What installing a detour does -/

/-- The bytes of a trampoline. -/
def trampolineBytes
    (entry : Nat → UInt8)
    (patchLength : Nat)
    (jump : Vector UInt8 kJmpPatchBytes) : Nat → UInt8 :=
  fun offset =>
    if offset < patchLength then
      entry offset
    else
      bytesOf jump (offset - patchLength)

/-- The bytes of an entry with a detour. -/
def detouredBytes (jump : Vector UInt8 kJmpPatchBytes) : Nat → UInt8 :=
  fun offset => if offset < kJmpPatchBytes then bytesOf jump offset else 0x90

/-- A detour that is installed, with the two jumps it consists of. -/
structure DetourInstalled
    (system : System)
    (memory : Bytes)
    (target hook : UInt32)
    (patchLength : Nat)
    (trampolineJump targetJump : Vector UInt8 kJmpPatchBytes)
    (outcome : DetourOutcome) : Prop where
  allocated : system.virtualAlloc (patchLength + kJmpPatchBytes) ≠ 0
  trampolineJump_built :
    buildRelativeJump
        (system.virtualAlloc (patchLength + kJmpPatchBytes) +
          UInt32.ofNat patchLength)
        (target + UInt32.ofNat patchLength) =
      some trampolineJump
  targetJump_built : buildRelativeJump target hook = some targetJump
  entry_readable : system.canRead target patchLength = true
  memory_eq :
    outcome.memory =
      (memory.write
          (system.virtualAlloc (patchLength + kJmpPatchBytes))
          (trampolineBytes (memory.at target) patchLength trampolineJump)
          (patchLength + kJmpPatchBytes)).write
        target (detouredBytes targetJump) patchLength
  installed : outcome.record.installed = true
  target_eq : outcome.record.target = target
  trampoline_eq :
    outcome.record.trampoline =
      system.virtualAlloc (patchLength + kJmpPatchBytes)
  patchLength_eq : outcome.record.patchLength = patchLength
  patch_eq : outcome.record.patch = targetJump
  originalOut_eq : outcome.originalOut = outcome.record.trampoline
  original_eq :
    ∀ offset < patchLength,
      bytesOf outcome.record.original offset = memory.at target offset

/-- What can be read is mapped. -/
theorem System.mapped_of_canRead
    {system : System}
    {address : UInt32}
    {length : Nat}
    (canRead : system.canRead address length = true)
    {offset : Nat}
    (inside : offset < length) :
    system.mapped (address + UInt32.ofNat offset) = true := by
  have all := List.all_eq_true.mp canRead offset (List.mem_range.mpr inside)
  exact system.readable_mapped _ all

/-- What was allocated was not mapped. -/
theorem System.not_inRange_of_mapped
    {system : System}
    {size : Nat}
    (allocated : system.virtualAlloc size ≠ 0)
    {address : UInt32}
    (isMapped : system.mapped address = true) :
    ¬ InRange (system.virtualAlloc size) size address := by
  intro inRange
  have unmapped := system.virtualAlloc_fresh size allocated address inRange
  rw [isMapped] at unmapped
  cases unmapped

theorem bytesOf_copyInto
    {size : Nat}
    (array : Vector UInt8 size)
    (source : Nat → UInt8)
    {length offset : Nat}
    (fits : length ≤ size)
    (inside : offset < length) :
    bytesOf (copyInto array source length) offset = source offset := by
  have inSize : offset < size := by omega
  simp [bytesOf, copyInto, inside, inSize]

/-- A detour is installed as a whole, or refused with the code as it was. -/
theorem installDetour_cases
    {system : System}
    {memory : Bytes}
    {target hook : UInt32}
    {patchLength : Nat}
    {detour : InlineDetour}
    {originalOut : UInt32}
    {outcome : DetourOutcome}
    (longEnough : kJmpPatchBytes ≤ patchLength)
    (fits : patchLength ≤ kMaxStolenBytes)
    (installs :
      installDetour system memory target hook patchLength detour
          originalOut =
        some outcome) :
    (outcome.succeeded = true ∧
        ∃ trampolineJump targetJump,
          DetourInstalled system memory target hook patchLength
            trampolineJump targetJump outcome) ∨
      (outcome.succeeded = false ∧
        outcome.record = detour ∧
        ∀ address, system.mapped address = true →
          outcome.memory address = memory address) := by
  have small : patchLength + kJmpPatchBytes < 2 ^ 32 := by
    unfold kMaxStolenBytes at fits
    unfold kJmpPatchBytes
    omega
  unfold installDetour at installs
  simp only at installs
  by_cases allocated : system.virtualAlloc (patchLength + kJmpPatchBytes) = 0
  · rw [if_pos allocated, Option.some.injEq] at installs
    subst installs
    exact .inr ⟨rfl, rfl, fun _ _ => rfl⟩
  rw [if_neg allocated] at installs
  cases trampolineBuilt :
      buildRelativeJump
        (system.virtualAlloc (patchLength + kJmpPatchBytes) +
          UInt32.ofNat patchLength)
        (target + UInt32.ofNat patchLength) with
  | none =>
      simp only [trampolineBuilt, Option.some.injEq] at installs
      subst installs
      exact .inr ⟨rfl, rfl, fun _ _ => rfl⟩
  | some trampolineJump =>
      cases targetBuilt : buildRelativeJump target hook with
      | none =>
          simp only [trampolineBuilt, targetBuilt,
            Option.some.injEq] at installs
          subst installs
          exact .inr ⟨rfl, rfl, fun _ _ => rfl⟩
      | some targetJump =>
          simp only [trampolineBuilt, targetBuilt] at installs
          by_cases canRead : system.canRead target patchLength = true
          · have trampolineWritten :=
              memory.write_write
                (system.virtualAlloc (patchLength + kJmpPatchBytes))
                (memory.at target) (bytesOf trampolineJump) patchLength
                kJmpPatchBytes small
            rw [if_pos canRead, trampolineWritten] at installs
            by_cases protects :
                system.virtualProtect target patchLength = true
            · rw [if_pos protects, Option.some.injEq] at installs
              subst installs
              refine .inl ⟨rfl, trampolineJump, targetJump, ?_⟩
              refine
                { allocated := allocated
                  trampolineJump_built := trampolineBuilt
                  targetJump_built := targetBuilt
                  entry_readable := canRead
                  memory_eq := ?_
                  installed := rfl
                  target_eq := rfl
                  trampoline_eq := rfl
                  patchLength_eq := rfl
                  patch_eq := rfl
                  originalOut_eq := rfl
                  original_eq := ?_ }
              · have rejoined :
                    kJmpPatchBytes + (patchLength - kJmpPatchBytes) =
                      patchLength := by
                  omega
                simp only
                rw [Bytes.write_write _ _ _ _ _ _ (by omega), rejoined]
                rfl
              · intro offset inside
                simp only
                rw [bytesOf_copyInto _ _ fits inside]
                exact
                  Bytes.write_outside
                    (System.not_inRange_of_mapped allocated
                      (System.mapped_of_canRead canRead inside))
            · rw [if_neg protects, Option.some.injEq] at installs
              subst installs
              refine .inr ⟨rfl, rfl, ?_⟩
              intro address isMapped
              simp only [Outcome.refused]
              exact
                Bytes.write_outside
                  (System.not_inRange_of_mapped allocated isMapped)
          · rw [if_neg canRead] at installs
            cases installs

/-- So is one whose length is decoded. -/
theorem installInlineDetour_cases
    {system : System}
    {memory : Bytes}
    {target hook : UInt32}
    {detour : InlineDetour}
    {originalOut : UInt32}
    {outcome : DetourOutcome}
    (installs :
      installInlineDetour system memory target hook detour originalOut =
        some outcome) :
    (outcome.succeeded = true ∧
        detour.installed = false ∧
        ∃ patchLength trampolineJump targetJump,
          calculatePatchLength (system.view memory target) =
              some (some patchLength) ∧
            DetourInstalled system memory target hook patchLength
              trampolineJump targetJump outcome) ∨
      (outcome.succeeded = false ∧
        outcome.record = detour ∧
        ∀ address, system.mapped address = true →
          outcome.memory address = memory address) := by
  unfold installInlineDetour at installs
  simp only at installs
  by_cases refuses : target = 0 ∨ hook = 0 ∨ detour.installed = true
  · rw [if_pos refuses, Option.some.injEq] at installs
    subst installs
    exact .inr ⟨rfl, rfl, fun _ _ => rfl⟩
  rw [if_neg refuses] at installs
  have notInstalled : detour.installed = false := by
    rw [← Bool.not_eq_true]
    exact fun isInstalled => refuses (.inr (.inr isInstalled))
  obtain ⟨calculated, isCalculated, rest⟩ :=
    Option.bind_eq_some_iff.mp installs
  cases calculated with
  | none =>
      cases rest
      exact .inr ⟨rfl, rfl, fun _ _ => rfl⟩
  | some patchLength =>
      obtain ⟨longEnough, fits, _⟩ := calculatePatchLength_spec isCalculated
      rcases installDetour_cases longEnough fits rest with
        ⟨succeeded, trampolineJump, targetJump, installed⟩ | refused
      · exact
          .inl
            ⟨succeeded, notInstalled, patchLength, trampolineJump,
              targetJump, isCalculated, installed⟩
      · exact .inr refused

/-- And one whose length the caller knows. -/
theorem installValidatedInlineDetour_cases
    {system : System}
    {memory : Bytes}
    {target hook : UInt32}
    {patchLength : Nat}
    {detour : InlineDetour}
    {originalOut : UInt32}
    {outcome : DetourOutcome}
    (installs :
      installValidatedInlineDetour system memory target hook patchLength
          detour originalOut =
        some outcome) :
    (outcome.succeeded = true ∧
        detour.installed = false ∧
        ∃ trampolineJump targetJump,
          DetourInstalled system memory target hook patchLength
            trampolineJump targetJump outcome) ∨
      (outcome.succeeded = false ∧
        outcome.record = detour ∧
        ∀ address, system.mapped address = true →
          outcome.memory address = memory address) := by
  unfold installValidatedInlineDetour at installs
  split at installs
  · cases installs
    exact .inr ⟨rfl, rfl, fun _ _ => rfl⟩
  · rename_i accepts
    simp only [not_or, Bool.not_eq_true, Nat.not_lt] at accepts
    obtain ⟨_, _, notInstalled, longEnough, fits⟩ := accepts
    rcases installDetour_cases longEnough fits installs with
      ⟨succeeded, trampolineJump, targetJump, installed⟩ | refused
    · exact
        .inl
          ⟨succeeded, notInstalled, trampolineJump, targetJump, installed⟩
    · exact .inr refused

/-! ## Detours that were installed -/

/-- A function with a detour does what it did, by way of its trampoline. -/
structure LeadsOn
    (system : System)
    (memory : Bytes)
    (target hook : UInt32)
    (outcome : DetourOutcome) : Prop where
  longEnough : kJmpPatchBytes ≤ outcome.record.patchLength
  fits : outcome.record.patchLength ≤ kMaxStolenBytes
  boundary :
    Boundary (fun offset => some (memory.at target offset))
      outcome.record.patchLength
  /-- The trampoline is memory that was not in use. -/
  fresh :
    ∀ address,
      InRange outcome.record.trampoline
          (outcome.record.patchLength + kJmpPatchBytes) address →
        system.mapped address = false
  stolen :
    ∀ offset < outcome.record.patchLength,
      outcome.memory.at outcome.record.trampoline offset =
        memory.at target offset
  continues :
    BranchesTo 0xE9
      (outcome.memory.at
        (outcome.record.trampoline +
          UInt32.ofNat outcome.record.patchLength))
      (outcome.record.trampoline + UInt32.ofNat outcome.record.patchLength)
      (target + UInt32.ofNat outcome.record.patchLength)
  hooked : BranchesTo 0xE9 (outcome.memory.at target) target hook
  padded :
    ∀ offset,
      kJmpPatchBytes ≤ offset →
        offset < outcome.record.patchLength →
          outcome.memory.at target offset = 0x90
  frame :
    ∀ address,
      ¬ InRange target outcome.record.patchLength address →
        ¬ InRange outcome.record.trampoline
            (outcome.record.patchLength + kJmpPatchBytes) address →
          outcome.memory address = memory address
  returned : outcome.originalOut = outcome.record.trampoline

section Installed

variable
  {system : System}
  {memory : Bytes}
  {target hook : UInt32}
  {patchLength : Nat}
  {trampolineJump targetJump : Vector UInt8 kJmpPatchBytes}
  {outcome : DetourOutcome}
  (installed :
    DetourInstalled system memory target hook patchLength trampolineJump
      targetJump outcome)
  (fits : patchLength ≤ kMaxStolenBytes)

include installed

/-- The entry and the trampoline have no address in common. -/
theorem DetourInstalled.not_inRange_target
    {address : UInt32}
    (inTrampoline :
      InRange (system.virtualAlloc (patchLength + kJmpPatchBytes))
        (patchLength + kJmpPatchBytes) address) :
    ¬ InRange target patchLength address := by
  intro inTarget
  have isMapped :=
    System.mapped_of_canRead installed.entry_readable inTarget
  rw [add_offsetFrom] at isMapped
  exact
    System.not_inRange_of_mapped installed.allocated isMapped inTrampoline

include fits

/-- The trampoline holds what was written there. -/
theorem DetourInstalled.at_trampoline
    {offset : Nat}
    (inside : offset < patchLength + kJmpPatchBytes) :
    outcome.memory.at
        (system.virtualAlloc (patchLength + kJmpPatchBytes)) offset =
      trampolineBytes (memory.at target) patchLength trampolineJump
        offset := by
  unfold kMaxStolenBytes at fits
  have small : offset < 2 ^ 32 := by
    unfold kJmpPatchBytes at inside
    omega
  have inTrampoline :
      InRange (system.virtualAlloc (patchLength + kJmpPatchBytes))
        (patchLength + kJmpPatchBytes)
        (system.virtualAlloc (patchLength + kJmpPatchBytes) +
          UInt32.ofNat offset) := by
    rw [InRange, offsetFrom_add _ small]
    exact inside
  rw [Bytes.at, installed.memory_eq,
    Bytes.write_outside (installed.not_inRange_target inTrampoline),
    Bytes.write_inRange inTrampoline, offsetFrom_add _ small]

/-- The entry holds what was written there. -/
theorem DetourInstalled.at_target
    {offset : Nat}
    (inside : offset < patchLength) :
    outcome.memory.at target offset = detouredBytes targetJump offset := by
  unfold kMaxStolenBytes at fits
  rw [installed.memory_eq, Bytes.at_write _ _ _ (by omega) inside]

/-- A detour that was installed leads on. -/
theorem DetourInstalled.leadsOn
    (longEnough : kJmpPatchBytes ≤ patchLength)
    (boundary :
      Boundary (fun offset => some (memory.at target offset)) patchLength) :
    LeadsOn system memory target hook outcome := by
  have isBranch : layout 0xE9 = some (.plain (.offset 4)) := rfl
  constructor
  · rw [installed.patchLength_eq]
    exact longEnough
  · rw [installed.patchLength_eq]
    exact fits
  · rw [installed.patchLength_eq]
    exact boundary
  · intro address inRange
    rw [installed.patchLength_eq, installed.trampoline_eq] at inRange
    exact system.virtualAlloc_fresh _ installed.allocated address inRange
  · intro offset inside
    rw [installed.patchLength_eq] at inside
    rw [installed.trampoline_eq,
      installed.at_trampoline fits (Nat.lt_add_right _ inside),
      trampolineBytes, if_pos inside]
  · rw [installed.patchLength_eq, installed.trampoline_eq]
    refine branchesTo_of_built isBranch installed.trampolineJump_built ?_
    intro offset inside
    rw [Bytes.at_add,
      installed.at_trampoline fits (Nat.add_lt_add_left inside _),
      trampolineBytes, if_neg (by omega), Nat.add_sub_cancel_left]
  · refine branchesTo_of_built isBranch installed.targetJump_built ?_
    intro offset inside
    rw [installed.at_target fits (by omega), detouredBytes, if_pos inside]
  · intro offset behind inside
    rw [installed.patchLength_eq] at inside
    rw [installed.at_target fits inside, detouredBytes,
      if_neg (by omega)]
  · intro address notEntry notTrampoline
    rw [installed.patchLength_eq] at notEntry notTrampoline
    rw [installed.trampoline_eq] at notTrampoline
    rw [installed.memory_eq, Bytes.write_outside notEntry,
      Bytes.write_outside notTrampoline]
  · exact installed.originalOut_eq

end Installed

/-! ## Calls -/

theorem bytesOf_mk
    {size : Nat}
    (array : Array UInt8)
    (isSize : array.size = size)
    (offset : Nat) :
    bytesOf ⟨array, isSize⟩ offset = array[offset]?.getD 0 := by
  subst isSize
  rw [bytesOf, Vector.getElem?_mk]

theorem bytesOf_relativeBranch
    (opcode : UInt8)
    (relative : Int32)
    (offset : Nat) :
    bytesOf (relativeBranch opcode relative) offset =
      (opcode :: bytes32 relative.toUInt32)[offset]?.getD 0 :=
  (bytesOf_mk _ _ offset).trans (by rw [List.getElem?_toArray])

/-- The built call is the one the hook manager resolves. -/
theorem resolveRelativeCall_of_built
    {patchSite destination : UInt32}
    {patch : Vector UInt8 kJmpPatchBytes}
    (built : buildRelativeCall patchSite destination = some patch) :
    resolveRelativeCall (fun offset => some (bytesOf patch offset))
        kJmpPatchBytes patchSite =
      some
        { callSite := patchSite
          target := destination
          resolved := true } := by
  unfold buildRelativeCall buildRelativeBranch at built
  split at built
  · cases built
  rename_i notNull
  simp only at built
  split at built
  · cases built
    have siteNotNull : patchSite ≠ 0 := fun isNull => notNull (.inl isNull)
    have target := add_ofInt_relative patchSite destination
    generalize
      Int32.ofInt
        (destination.toNat -
          (patchSite.toNat + kJmpPatchBytes)) = relative at target ⊢
    have loaded :
        loadBytes
            (fun offset =>
              some (bytesOf (relativeBranch 0xE8 relative) offset))
            4 1 =
          some (bytes32 relative.toUInt32) := by
      simp [loadBytes, bytesOf_relativeBranch, bytes32]
    have opcode : bytesOf (relativeBranch 0xE8 relative) 0 = 0xE8 := by
      rw [bytesOf_relativeBranch]
      rfl
    rw [resolveRelativeCall, if_neg (by decide), loaded, opcode]
    simp only [Option.bind_eq_bind, Option.bind_some, ne_eq,
      not_true_eq_false, siteNotNull, or_self, if_false, value_bytes32,
      UInt32.ofNat_toNat]
    rw [← target]
    rfl
  · cases built

/-! ## Trampolines -/

theorem Boundary.instructions
    {code : Nat → UInt8}
    {length : Nat}
    (boundary : Boundary (fun offset => some (code offset)) length)
    (copyable :
      ∀ start < length,
        Boundary (fun offset => some (code offset)) start →
          Copyable fun offset => code (start + offset)) :
    ∃ instructions : List Instruction,
      bytesAt code 0 length = instructions.flatMap Instruction.encode ∧
        ∀ instruction ∈ instructions, ∀ left right,
          instruction.meaningAt left = instruction.meaningAt right := by
  induction boundary with
  | entry =>
      exact ⟨[], rfl, fun _ member => absurd member List.not_mem_nil⟩
  | @next decoded instructionLength before isInstruction hypothesis =>
      have bounds := decodedLength_bounds isInstruction
      obtain ⟨instructions, bytes, everywhere⟩ :=
        hypothesis fun start inside => copyable start (by omega)
      obtain ⟨_, overrides, body, rfl, leads, decodedBody⟩ :=
        decode_shape_of_eq isInstruction
      simp only [Option.getD_some] at leads decodedBody
      obtain ⟨instruction, starts, isLength, _, same⟩ :=
        (soundLength_iff_copyable leads decodedBody).mpr
          (copyable decoded (by omega) before)
      refine ⟨instructions ++ [instruction], ?_, ?_⟩
      · rw [Instruction.StartsAt, isLength, bytesAt_shift,
          Nat.add_zero] at starts
        rw [bytesAt_add, bytes, Nat.zero_add, starts, List.flatMap_append,
          List.flatMap_singleton]
      · intro other member
        rcases List.mem_append.mp member with earlier | last
        · exact everywhere other earlier
        · rw [List.mem_singleton.mp last]
          exact same

/-- A trampoline starts with the instructions of the entry. -/
theorem LeadsOn.instructions
    {system : System}
    {memory : Bytes}
    {target hook : UInt32}
    {outcome : DetourOutcome}
    (leadsOn : LeadsOn system memory target hook outcome)
    (copyable :
      ∀ start < outcome.record.patchLength,
        Boundary (fun offset => some (memory.at target offset)) start →
          Copyable fun offset => memory.at target (start + offset)) :
    ∃ instructions : List Instruction,
      bytesAt (memory.at target) 0 outcome.record.patchLength =
          instructions.flatMap Instruction.encode ∧
        bytesAt (outcome.memory.at outcome.record.trampoline) 0
            outcome.record.patchLength =
          instructions.flatMap Instruction.encode ∧
        ∀ instruction ∈ instructions, ∀ left right,
          instruction.meaningAt left = instruction.meaningAt right := by
  obtain ⟨instructions, bytes, everywhere⟩ :=
    leadsOn.boundary.instructions copyable
  refine ⟨instructions, bytes, ?_, everywhere⟩
  rw [← bytes]
  apply List.map_congr_left
  intro offset inside
  rw [Nat.zero_add]
  exact leadsOn.stolen offset (List.mem_range.mp inside)

/--
Every detour that is installed leads on to the rest of the function, and what
the builders of jumps and calls return goes to the requested destination.
-/
theorem detours_leadOn :
    (∀ patchSite destination patch,
        buildRelativeJump patchSite destination = some patch →
          BranchesTo 0xE9 (bytesOf patch) patchSite destination) ∧
      (∀ patchSite destination patch,
        buildRelativeCall patchSite destination = some patch →
          BranchesTo 0xE8 (bytesOf patch) patchSite destination ∧
            resolveRelativeCall (fun offset => some (bytesOf patch offset))
                kJmpPatchBytes patchSite =
              some
                { callSite := patchSite
                  target := destination
                  resolved := true }) ∧
      ∀ system memory target hook detour originalOut outcome,
        installInlineDetour system memory target hook detour originalOut =
            some outcome →
          outcome.succeeded = true →
            LeadsOn system memory target hook outcome := by
  refine ⟨?_, ?_, ?_⟩
  · intro patchSite destination patch built
    exact branchesTo_of_built rfl built fun _ _ => rfl
  · intro patchSite destination patch built
    exact
      ⟨branchesTo_of_built rfl built fun _ _ => rfl,
        resolveRelativeCall_of_built built⟩
  · intro system memory target hook detour originalOut outcome installs
      succeeded
    rcases installInlineDetour_cases installs with
      ⟨_, _, patchLength, trampolineJump, targetJump, isCalculated,
        installed⟩ | ⟨refused, _⟩
    · obtain ⟨longEnough, fits, boundary⟩ :=
        calculatePatchLength_spec isCalculated
      refine installed.leadsOn fits longEnough (boundary.mono ?_)
      intro offset byte isByte
      unfold System.view at isByte
      split at isByte
      · exact isByte
      · cases isByte
    · rw [refused] at succeeded
      cases succeeded

/-! ## The entry of a function -/

/-- `push ebp`, `mov ebp, esp`, `sub esp, 16` at an address. -/
def entryMemory : Bytes :=
  fun address =>
    [0x55, 0x8B, 0xEC, 0x83, 0xEC, 0x10].getD
      (offsetFrom 0x401000 address) 0xCC

/-- A system with one free page. -/
def entrySystem : System where
  mapped := fun address => !(address.toNat / 0x1000 == 0x900)
  readable := fun address => !(address.toNat / 0x1000 == 0x900)
  virtualAlloc := fun size => if size ≤ 0x1000 then 0x900000 else 0
  virtualProtect := fun _ _ => true
  writeFault := none
  readable_mapped := fun _ isReadable => isReadable
  virtualAlloc_fresh := by
    intro size allocated address inRange
    split at allocated
    · rename_i small
      rw [if_pos small] at inRange
      rw [InRange, offsetFrom, UInt32.toNat_sub] at inRange
      have fits := address.toNat_lt
      simp only [UInt32.reduceToNat] at inRange
      simp only [Bool.not_eq_false', beq_iff_eq]
      omega
    · exact (allocated rfl).elim

/-- The entry is detoured, and its trampoline leads on. -/
theorem entryDetour_leadsOn :
    ∃ outcome,
      installInlineDetour entrySystem entryMemory 0x401000 0x10001000 {} 0 =
          some outcome ∧
        outcome.succeeded = true ∧
        LeadsOn entrySystem entryMemory 0x401000 0x10001000 outcome := by
  have installs :
      (installInlineDetour entrySystem entryMemory 0x401000 0x10001000 {}
            0).map (·.succeeded) =
        some true := by
    decide +kernel
  obtain ⟨outcome, isOutcome, succeeded⟩ := Option.map_eq_some_iff.mp installs
  exact
    ⟨outcome, isOutcome, succeeded,
      detours_leadOn.2.2 _ _ _ _ _ _ _ isOutcome succeeded⟩

end MonomythClient.HookManager
