import MonomythClient.PatchCalls
import MonomythClient.Runs

namespace MonomythClient.HookManager

open FlatMemory Overlays Runs

/-!
# Confined patches

The code is what it was at first, overlaid with the patches that are installed,
through every run.  The exception is a guarded copy that faults after it has
changed a byte: the patch counts as refused, or as still installed, and nobody
puts the byte back.
-/

variable {Name : Type} [DecidableEq Name]

/-! ## Runs -/

section Runs

variable
  {code : UInt32 → Prop}
  {base : Bytes}

/-- A copy that faults leaves what it has written, and fails. -/
theorem tryWriteBytes_faulting
    {system : System}
    {memory : Bytes}
    {destination : UInt32}
    {source : Nat → UInt8}
    {length : Nat}
    (notNull : destination ≠ 0)
    (notEmpty : length ≠ 0)
    (protects : system.virtualProtect destination length = true)
    {written : Nat → Bool}
    (faults : system.writeFault = some written) :
    (tryWriteBytes system memory destination source length).2 = false ∧
      ∀ address,
        InRange destination length address →
          written (offsetFrom destination address) = true →
            (tryWriteBytes system memory destination source
                length).1 address =
              source (offsetFrom destination address) := by
  have torn :
      tryWriteBytes system memory destination source length =
        (fun address =>
          if written (offsetFrom destination address) then
            memory.write destination source length address
          else
            memory address, false) := by
    simp [tryWriteBytes, notNull, notEmpty, protects, faults]
  rw [torn]
  refine ⟨rfl, ?_⟩
  intro address inRange isWritten
  simp only
  rw [if_pos isWritten, Bytes.write_inRange inRange]

/-- A fault in a byte patch's installation that is confined is harmless. -/
theorem Confined.installHarmless
    {process : Process Name}
    {system : System}
    {name : Name}
    {first : UInt32}
    {expected replacement : Option (Nat → UInt8)}
    {length : Nat}
    (confined :
      Confined code base process
        { system := system
          name := name
          operation :=
            .installBytePatch first expected replacement length }) :
    FaultsHarmless code process
      { system := system
        name := name
        operation := .installBytePatch first expected replacement length } := by
  intro copy written isCopy protects faults address isCode inRange isWritten
  cases expected with
  | none =>
      cases isCopy
  | some before =>
  cases replacement with
  | none =>
      cases isCopy
  | some new =>
  simp only [guardedCopy] at isCopy
  split at isCopy
  · cases isCopy
  rename_i valid
  split at isCopy
  · rename_i compared
    cases isCopy
    obtain ⟨failed, left⟩ :=
      @tryWriteBytes_faulting system process.memory first new length
        (fun isNull => valid (.inl isNull))
        (fun isEmpty => valid (.inr (.inr (.inl isEmpty)))) protects
        written faults
    have installs :=
      @installBytePatch_valid system process.memory first before new
        length (process.bytePatches name) valid compared.1 compared.2
    rw [if_neg (by rw [failed]; decide)] at installs
    have kept :=
      (confined.failedInstall rfl
        (by simp [perform, installs, Outcome.refused])).1 address isCode
    simp only [step, perform, installs, Outcome.refused,
      Process.withBytePatch] at kept
    rw [left address inRange isWritten] at kept
    exact kept
  · cases isCopy

/-- A fault in a byte patch's removal that is confined is harmless. -/
theorem Confined.removeHarmless
    {process : Process Name}
    {system : System}
    {name : Name}
    (confined :
      Confined code base process
        { system := system
          name := name
          operation := .removeBytePatch })
    (intact : Intact code base process) :
    FaultsHarmless code process
      { system := system
        name := name
        operation := .removeBytePatch } := by
  intro copy written isCopy protects faults address isCode inRange isWritten
  simp only [guardedCopy] at isCopy
  split at isCopy
  · rename_i present
    cases isCopy
    obtain ⟨failed, left⟩ :=
      @tryWriteBytes_faulting system process.memory
        (process.bytePatches name).address
        (bytesOf (process.bytePatches name).original)
        (process.bytePatches name).length present.2.1 present.2.2
        protects written faults
    have removes :
        step process
            { system := system
              name := name
              operation := .removeBytePatch } =
          process.withBytePatch name
            (.refused
              (tryWriteBytes system process.memory
                (process.bytePatches name).address
                (bytesOf (process.bytePatches name).original)
                (process.bytePatches name).length).1
              (process.bytePatches name)) := by
      simp [step, perform, removeBytePatch_installed present.1, failed]
    -- The patch is still installed, so its byte should be there.
    have isPatched :
        process.patches (.bytePatches, name) address =
          some
            (bytesOf (process.bytePatches name).patch
              (offsetFrom (process.bytePatches name).address
                address)) := by
      simp [Process.patches, Process.site, BytePatch.site, present.1,
        Site.patch, Site.covers, inRange]
    have sameSites :
        (step process
            { system := system
              name := name
              operation := .removeBytePatch }).site =
          process.site := by
      rw [removes]
      exact Process.site_withBytePatch_same rfl
    have stillPatched :
        (step process
              { system := system
                name := name
                operation := .removeBytePatch }).patches
            (.bytePatches, name) address =
          some
            (bytesOf (process.bytePatches name).patch
              (offsetFrom (process.bytePatches name).address
                address)) := by
      rw [← isPatched, Process.patches, sameSites, Process.patches]
    have before :=
      intact.overlaid.covered address isCode _ _ isPatched
    have after :=
      confined.overlaid.covered address isCode _ _ stillPatched
    rw [removes] at after
    simp only [Process.withBytePatch, Outcome.refused] at after
    rw [left address inRange isWritten] at after
    exact after.trans before.symm
  · cases isCopy

/-- A confined call has no fault that does harm. -/
theorem Confined.faultsHarmless
    {process : Process Name}
    {call : Call Name}
    (confined : Confined code base process call)
    (intact : Intact code base process) :
    FaultsHarmless code process call := by
  obtain ⟨system, name, operation⟩ := call
  cases operation with
  | installBytePatch first expected replacement length =>
      exact confined.installHarmless
  | removeBytePatch =>
      exact confined.removeHarmless intact
  -- No other operation writes a byte patch.
  | installInlineDetour _ _ =>
      intro _ _ isCopy
      cases isCopy
  | installValidatedInlineDetour _ _ _ =>
      intro _ _ isCopy
      cases isCopy
  | installCallsitePatch _ _ _ =>
      intro _ _ isCopy
      cases isCopy
  | removeInlineDetour =>
      intro _ _ isCopy
      cases isCopy
  | removeCallsitePatch =>
      intro _ _ isCopy
      cases isCopy

/--
In a run whose patches do not overlap, every call leaves the code overlaid with
the patches that are installed exactly when no guarded copy that faults has
changed a byte of code before.
-/
theorem patches_confined_iff
    (code : UInt32 → Prop)
    (initial : Process Name)
    (nothing : ∀ slot, initial.site slot = none)
    (calls : List (Call Name))
    (allowed : Along step (Allowed code) initial calls) :
    Along step (Confined code initial.memory) initial calls ↔
      Along step (FaultsHarmless code) initial calls := by
  have initially : Intact code initial.memory initial :=
    { overlaid :=
        overlaid_of_none fun slot =>
          Process.patches_of_none (nothing slot)
      separate := fun slot other _ address =>
        .inl (Process.patches_of_none (nothing slot) address)
      saved := by
        intro slot site isSite
        rw [nothing] at isSite
        cases isSite }
  generalize initial.memory = base at initially ⊢
  clear nothing
  induction calls generalizing initial with
  | nil =>
      exact Iff.rfl
  | cons call later hypothesis =>
      obtain ⟨allowedHere, allowedLater⟩ := allowed
      constructor
      · rintro ⟨confined, confinedLater⟩
        have harmless := confined.faultsHarmless initially
        have intact :=
          ((effect_of_harmless allowedHere.codeMapped harmless).confined
            initially allowedHere).1
        exact
          ⟨harmless,
            (hypothesis (step initial call) allowedLater intact).mp
              confinedLater⟩
      · rintro ⟨harmless, harmlessLater⟩
        have both :=
          (effect_of_harmless allowedHere.codeMapped harmless).confined
            initially allowedHere
        exact
          ⟨both.2,
            (hypothesis (step initial call) allowedLater both.1).mpr
              harmlessLater⟩

end Runs

/-! ## Runs on two bytes -/

/-- A process without patches, whose code is full of `nop`. -/
def nopProcess : Process Unit where
  memory := fun _ => 0x90
  detours := fun _ => {}
  originals := fun _ => 0
  callsites := fun _ => {}
  bytePatches := fun _ => {}

/-- A system without free memory, with what happens to guarded copies. -/
def fullSystem (writeFault : Option (Nat → Bool)) : System where
  mapped := fun _ => true
  readable := fun _ => true
  virtualAlloc := fun _ => 0
  virtualProtect := fun _ _ => true
  writeFault := writeFault
  readable_mapped := fun _ _ => rfl
  virtualAlloc_fresh := fun _ allocated => (allocated rfl).elim

/-- Replacing two bytes, the last of one page and the first of the next. -/
def nopCall (writeFault : Option (Nat → Bool)) : Call Unit where
  system := fullSystem writeFault
  name := ()
  operation :=
    .installBytePatch 0x401FFF (some fun _ => 0x90) (some fun _ => 0xCC) 2

/-- The block of code, of 64 KiB, that a table patches in the examples. -/
def blockOf : Table → Nat
  | .bytePatches => 0x40
  | .detours => 0x41
  | .callsites => 0x42

/-- Every patch lies in the block of its table. -/
def InBlocks (process : Process Unit) : Prop :=
  ∀ table ∈ [Table.detours, .callsites, .bytePatches],
    (process.site (table, ())).all (fun site =>
      blockOf table * 0x10000 ≤ site.first.toNat ∧
        site.first.toNat + site.length ≤
          (blockOf table + 1) * 0x10000) =
      true

instance (process : Process Unit) : Decidable (InBlocks process) :=
  inferInstanceAs (Decidable (∀ table ∈ _, _))

/-- An address that a patch covers tells the table of the patch. -/
theorem InBlocks.block
    {process : Process Unit}
    (inBlocks : InBlocks process)
    {table : Table}
    {address : UInt32}
    (patched : process.patches (table, ()) address ≠ none) :
    address.toNat / 0x10000 = blockOf table := by
  cases isSite : process.site (table, ()) with
  | none =>
      exact absurd (Process.patches_of_none isSite address) patched
  | some site =>
      have bounds := inBlocks table (by cases table <;> decide)
      rw [isSite, Option.all_some, decide_eq_true_iff] at bounds
      rw [Process.patches, isSite, Option.elim_some, Site.patch] at patched
      have covered : site.covers address := by
        by_contra outside
        exact patched (if_neg outside)
      have first := site.first.toNat_lt
      have last := address.toNat_lt
      rw [Site.covers, InRange, offsetFrom, UInt32.toNat_sub] at covered
      omega

/-- Patches in blocks of their own do not overlap. -/
theorem InBlocks.allowed
    {code : UInt32 → Prop}
    {process : Process Unit}
    {call : Call Unit}
    (inBlocks : InBlocks (step process call))
    (codeMapped :
      ∀ address, code address → call.system.mapped address = true) :
    Allowed code process call where
  codeMapped := codeMapped
  separate := by
    rintro ⟨table, _⟩ ⟨other, _⟩ different address
    by_contra both
    rw [not_or] at both
    have same :=
      (inBlocks.block both.1).symm.trans (inBlocks.block both.2)
    revert same different
    cases table <;> cases other <;> simp [blockOf]

/-- The entry of a function, a call of another one, and many `nop`s. -/
def patchedMemory : Bytes :=
  fun address =>
    if address.toNat / 0x10000 = 0x41 then
      [0x55, 0x8B, 0xEC, 0x83, 0xEC, 0x10].getD
        (offsetFrom 0x411000 address) 0x90
    else
      [0xE8, 0xFB, 0, 0, 0].getD (offsetFrom 0x420000 address) 0x90

/-- The same process with more in its memory. -/
def patchedProcess : Process Unit :=
  { nopProcess with memory := patchedMemory }

/-- A call in the system with one free page. -/
def entryCall (operation : Operation) : Call Unit where
  system := entrySystem
  name := ()
  operation := operation

/-- A patch of each kind. -/
def threeInstallations : List (Call Unit) :=
  [entryCall (.installInlineDetour 0x411000 0x10001000),
    entryCall (.installCallsitePatch 0x420000 0x10002000 0x420100),
    entryCall
      (.installBytePatch 0x401FFF (some fun _ => 0x90) (some fun _ => 0xCC) 2)]

/-- Taking them away, and one of them twice. -/
def fourRemovals : List (Call Unit) :=
  [entryCall .removeBytePatch, entryCall .removeInlineDetour,
    entryCall .removeBytePatch, entryCall .removeCallsitePatch]

/-- What is mapped in the system with one free page. -/
def EntryCode (address : UInt32) : Prop :=
  entrySystem.mapped address = true

/-- All three patches are installed at once and removed in another order. -/
theorem threePatches_confined :
    (∀ table ∈ [Table.detours, .callsites, .bytePatches],
        ((run step patchedProcess threeInstallations).site
            (table, ())).isSome =
          true) ∧
      Along step (Confined EntryCode patchedProcess.memory) patchedProcess
        (threeInstallations ++ fourRemovals) := by
  refine
    ⟨by decide +kernel,
      (patches_confined_iff EntryCode patchedProcess ?_ _ ?_).mpr ?_⟩
  · rintro ⟨table, _⟩
    cases table <;> rfl
  · have inBlocks :
        Along step (fun process call => InBlocks (step process call))
          patchedProcess (threeInstallations ++ fourRemovals) := by
      decide +kernel
    obtain ⟨first, second, third, fourth, fifth, sixth, seventh, _⟩ :=
      inBlocks
    exact
      ⟨first.allowed fun _ => id, second.allowed fun _ => id,
        third.allowed fun _ => id, fourth.allowed fun _ => id,
        fifth.allowed fun _ => id, sixth.allowed fun _ => id,
        seventh.allowed fun _ => id, trivial⟩
  · refine ⟨?_, ?_, ?_, ?_, ?_, ?_, ?_, trivial⟩
    all_goals
      intro _ _ _ _ faults
      cases faults

/-- A copy that faults behind its first byte leaves that byte. -/
theorem tornRun_not_confined :
    Along step (Allowed fun _ => True) nopProcess
        [nopCall (some fun offset => offset == 0)] ∧
      (perform nopProcess
          (nopCall (some fun offset => offset == 0))).2 =
        some false ∧
      (step nopProcess
            (nopCall (some fun offset => offset == 0))).memory 0x401FFF ≠
        nopProcess.memory 0x401FFF ∧
      ¬ Along step (Confined (fun _ => True) nopProcess.memory) nopProcess
          [nopCall (some fun offset => offset == 0)] := by
  have failed :
      (perform nopProcess
          (nopCall (some fun offset => offset == 0))).2 =
        some false := by
    decide +kernel
  have changed :
      (step nopProcess
            (nopCall (some fun offset => offset == 0))).memory 0x401FFF ≠
        nopProcess.memory 0x401FFF := by
    decide +kernel
  have inBlocks :
      InBlocks
        (step nopProcess (nopCall (some fun offset => offset == 0))) := by
    decide +kernel
  refine
    ⟨⟨inBlocks.allowed fun _ _ => rfl, trivial⟩, failed, changed, ?_⟩
  rintro ⟨confined, _⟩
  have kept :=
    (confined.failedInstall rfl (by rw [failed]; decide)).1 0x401FFF trivial
  exact changed kept

end MonomythClient.HookManager
