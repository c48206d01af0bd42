import MonomythClient.InstructionLength

namespace MonomythClient.HookManager

open Ia32 PayloadReader

/-!
# Patch lengths

A detour takes whole instructions from the entry of a function until there is
room for its jump.  The length found so is the end of an instruction, however
much of the code can be read.
-/

def kJmpPatchBytes : Nat := 5
def kMaxStolenBytes : Nat := 16

/-- The loop of `CalculatePatchLength`, with what is decoded so far. -/
def calculatePatchLengthFrom
    (target : Memory) :
    Nat → Nat → Option (Option Nat)
  | 0, decoded => some (some decoded)
  | passes + 1, decoded =>
      if decoded < kJmpPatchBytes then do
        let instructionLength ←
          decodeSupportedInstructionLength (kMaxStolenBytes - decoded)
            fun offset => target (decoded + offset)
        match instructionLength with
        | none => return none
        | some instructionLength =>
            let decoded := decoded + instructionLength
            if kMaxStolenBytes < decoded then
              return none
            else
              calculatePatchLengthFrom target passes decoded
      else
        some (some decoded)

/-- `CalculatePatchLength`: every pass decodes at least one byte. -/
def calculatePatchLength (target : Memory) : Option (Option Nat) :=
  calculatePatchLengthFrom target kJmpPatchBytes 0

/-! ## Reading more -/

/-- Every byte that can be read below an offset, the other memory has too. -/
def AgreesBelow (available : Nat) (code other : Memory) : Prop :=
  ∀ offset < available, ∀ byte,
    code offset = some byte → other offset = some byte

/-- What a test chooses between can be replaced on both sides. -/
theorem ite_eq_some_of_imp
    {condition : Prop}
    [Decidable condition]
    {Result : Type}
    {yes no otherYes otherNo : Option Result}
    {result : Result}
    (ifYes : condition → yes = some result → otherYes = some result)
    (ifNo : ¬ condition → no = some result → otherNo = some result)
    (chosen : (if condition then yes else no) = some result) :
    (if condition then otherYes else otherNo) = some result := by
  by_cases holds : condition
  · rw [if_pos holds] at chosen ⊢
    exact ifYes holds chosen
  · rw [if_neg holds] at chosen ⊢
    exact ifNo holds chosen

/-- What is done with a byte that is read, if the same byte is read. -/
theorem bind_eq_some_of_imp
    {Read Result : Type}
    {read other : Option Read}
    {use : Read → Option Result}
    {otherUse : Read → Option Result}
    {result : Result}
    (reads : ∀ byte, read = some byte → other = some byte)
    (uses :
      ∀ byte, use byte = some result → otherUse byte = some result)
    (done : read.bind use = some result) :
    other.bind otherUse = some result := by
  obtain ⟨byte, isByte, used⟩ := Option.bind_eq_some_iff.mp done
  rw [reads byte isByte, Option.bind_some]
  exact uses byte used

/-- The decoder of a ModRM byte reads nothing beyond what is available. -/
theorem AgreesBelow.decodeModRmInstructionLength
    {available : Nat}
    {code other : Memory}
    (agrees : AgreesBelow available code other)
    {immediateBytes : Nat}
    {result : Option Nat}
    (decoded :
      decodeModRmInstructionLength code available immediateBytes =
        some result) :
    HookManager.decodeModRmInstructionLength other available
        immediateBytes =
      some result := by
  unfold HookManager.decodeModRmInstructionLength at decoded ⊢
  refine ite_eq_some_of_imp (fun _ same => same) ?_ decoded
  intro longEnough
  refine bind_eq_some_of_imp (agrees 1 (by omega)) ?_
  intro modRm
  refine ite_eq_some_of_imp ?_ fun _ same => same
  intro _
  refine ite_eq_some_of_imp (fun _ same => same) ?_
  intro sibAvailable
  exact bind_eq_some_of_imp (agrees 2 (by omega)) fun _ same => same

/-- Nor does the decoder. -/
theorem AgreesBelow.decodeSupportedInstructionLength
    {available : Nat}
    {code other : Memory}
    (agrees : AgreesBelow available code other)
    {result : Option Nat}
    (decoded :
      decodeSupportedInstructionLength available code = some result) :
    HookManager.decodeSupportedInstructionLength available other =
      some result := by
  induction available generalizing code other result with
  | zero =>
      exact decoded
  | succ available hypothesis =>
      rw [HookManager.decodeSupportedInstructionLength] at decoded ⊢
      refine bind_eq_some_of_imp (agrees 0 (by omega)) ?_ decoded
      intro opcode
      refine ite_eq_some_of_imp ?_ ?_
      · intro _
        refine ite_eq_some_of_imp (fun _ same => same) ?_
        intro longEnough
        refine bind_eq_some_of_imp ?_ fun _ same => same
        intro inner isInner
        refine hypothesis ?_ isInner
        intro offset below byte isByte
        exact agrees (offset + 1) (by omega) byte isByte
      intro _
      refine ite_eq_some_of_imp (fun _ same => same) fun _ => ?_
      refine ite_eq_some_of_imp (fun _ same => same) fun _ => ?_
      refine ite_eq_some_of_imp (fun _ same => same) fun _ => ?_
      refine ite_eq_some_of_imp (fun _ same => same) fun _ => ?_
      refine ite_eq_some_of_imp (fun _ same => same) fun _ => ?_
      refine
        ite_eq_some_of_imp
          (fun _ => agrees.decodeModRmInstructionLength) fun _ => ?_
      refine
        ite_eq_some_of_imp
          (fun _ => agrees.decodeModRmInstructionLength) fun _ => ?_
      exact
        ite_eq_some_of_imp
          (fun _ => agrees.decodeModRmInstructionLength) fun _ same => same

/-! ## Boundaries -/

/-- The decoder gets to an offset of some code, one instruction at a time. -/
inductive Boundary (target : Memory) : Nat → Prop where
  | entry : Boundary target 0
  | next
      {decoded instructionLength : Nat}
      (before : Boundary target decoded)
      (isInstruction :
        decodeSupportedInstructionLength (kMaxStolenBytes - decoded)
            (fun offset => target (decoded + offset)) =
          some (some instructionLength)) :
      Boundary target (decoded + instructionLength)

/-- A memory in which more can be read has the same boundaries. -/
theorem Boundary.mono
    {target other : Memory}
    (agrees :
      ∀ offset byte, target offset = some byte → other offset = some byte)
    {decoded : Nat}
    (boundary : Boundary target decoded) :
    Boundary other decoded := by
  induction boundary with
  | entry =>
      exact .entry
  | @next decoded _ _ isInstruction hypothesis =>
      have agreesHere :
          AgreesBelow (kMaxStolenBytes - decoded)
            (fun offset => target (decoded + offset))
            fun offset => other (decoded + offset) :=
        fun offset _ byte isByte => agrees (decoded + offset) byte isByte
      exact
        .next hypothesis
          (agreesHere.decodeSupportedInstructionLength isInstruction)

/-- A length that is returned is that of a body behind its overrides. -/
theorem decode_shape_of_eq
    {available : Nat}
    {code : Memory}
    {length : Nat}
    (decoded :
      decodeSupportedInstructionLength available code =
        some (some length)) :
    length ≤ available ∧
      ∃ overrides body,
        length = overrides + body ∧
          Leads (fun offset => (code offset).getD 0) overrides ∧
          DecodedBody
            (fun offset => (code (overrides + offset)).getD 0) body := by
  have agrees :
      AgreesBelow available code
        (readableBelow (fun offset => (code offset).getD 0) available) := by
    intro offset below byte isByte
    rw [readableBelow, if_pos below, isByte, Option.getD_some]
  obtain ⟨result, isResult, shape⟩ :=
    decode_shape available fun offset => (code offset).getD 0
  rw [agrees.decodeSupportedInstructionLength decoded,
    Option.some.injEq] at isResult
  exact shape length isResult.symm

/-- An instruction has a byte, and ends where the code does. -/
theorem decodedLength_bounds
    {available : Nat}
    {code : Memory}
    {length : Nat}
    (decoded :
      decodeSupportedInstructionLength available code =
        some (some length)) :
    0 < length ∧ length ≤ available := by
  obtain ⟨fits, overrides, body, rfl, _, decodedBody⟩ :=
    decode_shape_of_eq decoded
  refine ⟨?_, fits⟩
  cases decodedBody with
  | plain trailing _ _ _ =>
      omega
  | addressed immediateBytes _ _ _ _ =>
      unfold addressedLength
      omega

/-- The loop of the patch length stops behind the jump, at a boundary. -/
theorem calculatePatchLengthFrom_spec
    {target : Memory}
    {passes decoded patchLength : Nat}
    (boundary : Boundary target decoded)
    (fits : decoded ≤ kMaxStolenBytes)
    (enough : kJmpPatchBytes ≤ decoded + passes)
    (calculated :
      calculatePatchLengthFrom target passes decoded =
        some (some patchLength)) :
    kJmpPatchBytes ≤ patchLength ∧
      patchLength ≤ kMaxStolenBytes ∧
      Boundary target patchLength := by
  induction passes generalizing decoded with
  | zero =>
      simp only [calculatePatchLengthFrom, Option.some.injEq] at calculated
      subst calculated
      exact ⟨enough, fits, boundary⟩
  | succ passes hypothesis =>
      rw [calculatePatchLengthFrom] at calculated
      by_cases short : decoded < kJmpPatchBytes
      · rw [if_pos short] at calculated
        obtain ⟨result, isResult, rest⟩ :=
          Option.bind_eq_some_iff.mp calculated
        cases result with
        | none =>
            cases rest
        | some instructionLength =>
            have bounds := decodedLength_bounds isResult
            have inside :
                ¬ kMaxStolenBytes < decoded + instructionLength := by
              omega
            simp only [inside, if_false] at rest
            exact
              hypothesis (boundary.next isResult) (by omega) (by omega) rest
      · rw [if_neg short, Option.some.injEq, Option.some.injEq] at calculated
        subst calculated
        exact ⟨Nat.not_lt.mp short, fits, boundary⟩

/-- Every pass decodes a byte, so more passes than the jump has are not run. -/
theorem calculatePatchLengthFrom_passes
    {target : Memory}
    {passes decoded : Nat}
    (enough : kJmpPatchBytes ≤ decoded + passes) :
    calculatePatchLengthFrom target (passes + 1) decoded =
      calculatePatchLengthFrom target passes decoded := by
  induction passes generalizing decoded with
  | zero =>
      have reached : ¬ decoded < kJmpPatchBytes := Nat.not_lt.mpr enough
      simp [calculatePatchLengthFrom, reached]
  | succ passes hypothesis =>
      rw [calculatePatchLengthFrom, calculatePatchLengthFrom]
      by_cases short : decoded < kJmpPatchBytes
      · rw [if_pos short, if_pos short]
        cases isResult :
            decodeSupportedInstructionLength (kMaxStolenBytes - decoded)
              fun offset => target (decoded + offset) with
        | none =>
            rfl
        | some result =>
            cases result with
            | none =>
                rfl
            | some instructionLength =>
                have bounds := decodedLength_bounds isResult
                have same :=
                  @hypothesis (decoded + instructionLength) (by omega)
                simp only [Option.bind_eq_bind, Option.bind_some, same]
      · rw [if_neg short, if_neg short]

/-- A patch takes whole instructions, and enough of them for its jump. -/
theorem calculatePatchLength_spec
    {target : Memory}
    {patchLength : Nat}
    (calculated : calculatePatchLength target = some (some patchLength)) :
    kJmpPatchBytes ≤ patchLength ∧
      patchLength ≤ kMaxStolenBytes ∧
      Boundary target patchLength :=
  calculatePatchLengthFrom_spec .entry (Nat.zero_le _)
    (Nat.le_add_left ..) calculated

end MonomythClient.HookManager
