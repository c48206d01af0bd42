import MonomythClient.PatchEffects

namespace MonomythClient.HookManager

open FlatMemory Overlays

/-!
# Calls for patches

Each of the calls for detours, callsites and byte patches has one of the three
effects, whatever the operating system does, unless a guarded copy faults and
does harm.
-/

variable {Name : Type} [DecidableEq Name]

section Calls

variable
  {code : UInt32 → Prop}
  {process : Process Name}
  {call : Call Name}

/-! ## Calls that fail -/

/-- A call that does not succeed does nothing. -/
theorem Effect.ofFailed
    (failed : (perform process call).2 ≠ some true)
    (kept :
      ∀ address, code address →
        (step process call).memory address = process.memory address)
    (sites : (step process call).site = process.site) :
    Effect code process call :=
  .nothing kept sites (fun _ => failed)
    fun _ succeeded => (failed succeeded).elim

/-- Nor does one that faults. -/
theorem Effect.ofFault
    (performed : perform process call = (process, none)) :
    Effect code process call := by
  refine .ofFailed ?_ ?_ ?_
  · rw [performed]
    simp
  · intro address _
    rw [step, performed]
  · rw [step, performed]

/-! ## Removals -/

/-- What a removal without a guard does: it writes back, or nothing. -/
theorem Effect.ofRemoved
    {site : Site}
    (isRemoval : call.operation.isRemoval = true)
    (present : process.site call.slot = some site)
    (done :
      ((step process call).memory =
            process.memory.write site.first site.original site.length ∧
          (step process call).site =
            Function.update process.site call.slot none) ∨
        ((perform process call).2 ≠ some true ∧
          (step process call).memory = process.memory ∧
          (step process call).site = process.site)) :
    Effect code process call := by
  rcases done with ⟨memory, sites⟩ | ⟨failed, memory, sites⟩
  · exact .removes site isRemoval present memory sites
  · exact .ofFailed failed (fun address _ => by rw [memory]) sites

/-- Removing what is not there is nothing. -/
theorem Effect.ofAbsent
    (isRemoval : call.operation.isRemoval = true)
    (absent : process.site call.slot = none) :
    Effect code process call := by
  have same := step_notInstalled isRemoval absent
  refine .nothing ?_ ?_ ?_ ?_
  · intro address _
    rw [same]
  · rw [same]
  · intro isInstallation
    rw [isRemoval] at isInstallation
    cases isInstallation
  · intro _ _
    exact absent

/-! ## Detours -/

/-- A detour that was installed is a site. -/
theorem Effect.ofDetourInstalled
    (isDetour : call.operation.table = .detours)
    (isInstallation : call.operation.isRemoval = false)
    (codeMapped :
      ∀ address, code address → call.system.mapped address = true)
    (notInstalled : (process.detours call.name).installed = false)
    {target hook : UInt32}
    {patchLength : Nat}
    {trampolineJump targetJump : Vector UInt8 kJmpPatchBytes}
    {outcome : DetourOutcome}
    (installed :
      DetourInstalled call.system process.memory target hook patchLength
        trampolineJump targetJump outcome)
    (succeeded : outcome.succeeded = true)
    (performed :
      perform process call =
        process.afterDetour call.name (some outcome)) :
    Effect code process call := by
  have slot : call.slot = (.detours, call.name) := by
    rw [Call.slot, isDetour]
  have isSite :
      outcome.record.site =
        some
          { first := target
            length := patchLength
            patched := detouredBytes targetJump
            original := bytesOf outcome.record.original } := by
    rw [InlineDetour.site, installed.installed, installed.target_eq,
      installed.patchLength_eq, installed.patch_eq, if_pos rfl]
  refine
    .installs
      { first := target
        length := patchLength
        patched := detouredBytes targetJump
        original := bytesOf outcome.record.original }
      isInstallation ?_ ?_ ?_ ?_ ?_
  · rw [performed]
    exact congrArg some succeeded
  · rw [slot]
    simp [Process.site, InlineDetour.site, notInstalled]
  · intro address isCode
    have outside :=
      System.not_inRange_of_mapped installed.allocated
        (codeMapped address isCode)
    rw [step, performed]
    simp only [Process.afterDetour, Process.withOriginal,
      Process.withDetour, installed.memory_eq]
    rw [Site.apply_eq_write (fun _ _ => rfl)]
    by_cases covered : InRange target patchLength address
    · rw [Bytes.write_inRange covered, Bytes.write_inRange covered]
    · rw [Bytes.write_outside covered, Bytes.write_outside outside,
        Bytes.write_outside covered]
  · intro address covered
    have original := installed.original_eq _ covered
    rw [Bytes.at, add_offsetFrom] at original
    exact original
  · rw [step, performed, slot, ← isSite]
    exact process.site_withDetour call.name outcome.toOutcome

/-- A detour that was refused is nothing. -/
theorem Effect.ofDetourRefused
    (codeMapped :
      ∀ address, code address → call.system.mapped address = true)
    {outcome : DetourOutcome}
    (refused : outcome.succeeded = false)
    (record : outcome.record = process.detours call.name)
    (kept :
      ∀ address, call.system.mapped address = true →
        outcome.memory address = process.memory address)
    (performed :
      perform process call =
        process.afterDetour call.name (some outcome)) :
    Effect code process call := by
  refine .ofFailed ?_ ?_ ?_
  · rw [performed]
    simp [Process.afterDetour, refused]
  · intro address isCode
    rw [step, performed]
    exact kept address (codeMapped address isCode)
  · rw [step, performed]
    exact
      Process.site_withDetour_same (congrArg InlineDetour.site record)

/-- A detour is removed or stays. -/
theorem Effect.ofRemoveInlineDetour
    (system : System)
    (name : Name) :
    Effect code process
      { system := system
        name := name
        operation := .removeInlineDetour } := by
  by_cases installed : (process.detours name).installed = true
  · refine .ofRemoved rfl (if_pos installed) ?_
    simp only [step, perform, removeInlineDetour, installed,
      Bool.true_eq_false, if_false]
    by_cases protects :
        system.virtualProtect (process.detours name).target
          (process.detours name).patchLength = true
    · rw [if_pos protects]
      exact .inl ⟨rfl, Process.site_withDetour ..⟩
    · rw [if_neg protects]
      exact
        .inr
          ⟨by simp [Outcome.refused], rfl, Process.site_withDetour_same rfl⟩
  · exact .ofAbsent rfl (if_neg installed)

/-! ## Callsites -/

/-- What `InstallCallsitePatch` leaves. -/
theorem installCallsitePatch_cases
    {system : System}
    {memory : Bytes}
    {callsite hook expectedOriginalTarget : UInt32}
    {patch : CallsitePatch}
    {outcome : Outcome CallsitePatch}
    (installs :
      installCallsitePatch system memory callsite hook
          expectedOriginalTarget patch =
        some outcome) :
    (patch.installed = false ∧
        ∃ callPatch,
          buildRelativeCall callsite hook = some callPatch ∧
            outcome =
              { memory :=
                  memory.write callsite (bytesOf callPatch) kJmpPatchBytes
                record :=
                  { address := callsite
                    original :=
                      copyInto patch.original (memory.at callsite)
                        kJmpPatchBytes
                    patch := callPatch
                    installed := true }
                succeeded := true }) ∨
      outcome = .refused memory patch := by
  unfold installCallsitePatch at installs
  simp only at installs
  by_cases refuses : callsite = 0 ∨ hook = 0 ∨ patch.installed = true
  · rw [if_pos refuses, Option.some.injEq] at installs
    exact .inr installs.symm
  rw [if_neg refuses] at installs
  have notInstalled : patch.installed = false := by
    rw [← Bool.not_eq_true]
    exact fun isInstalled => refuses (.inr (.inr isInstalled))
  obtain ⟨resolution, _, rest⟩ := Option.bind_eq_some_iff.mp installs
  split at rest
  · cases rest
    exact .inr rfl
  cases built : buildRelativeCall callsite hook with
  | none =>
      rw [built] at rest
      cases rest
      exact .inr rfl
  | some callPatch =>
      rw [built] at rest
      simp only at rest
      split at rest
      · cases rest
        exact .inl ⟨notInstalled, callPatch, rfl, rfl⟩
      · cases rest
        exact .inr rfl

/-- A callsite patch is installed or refused. -/
theorem Effect.ofInstallCallsitePatch
    (system : System)
    (name : Name)
    (callsite hook expectedOriginalTarget : UInt32) :
    Effect code process
      { system := system
        name := name
        operation :=
          .installCallsitePatch callsite hook expectedOriginalTarget } := by
  cases installs :
      installCallsitePatch system process.memory callsite hook
        expectedOriginalTarget (process.callsites name) with
  | none =>
      apply Effect.ofFault
      simp only [perform, installs]
  | some outcome =>
      rcases installCallsitePatch_cases installs with
        ⟨notInstalled, callPatch, _, rfl⟩ | rfl
      · refine
          .installs
            { first := callsite
              length := kJmpPatchBytes
              patched := bytesOf callPatch
              original :=
                bytesOf
                  (copyInto (process.callsites name).original
                    (process.memory.at callsite) kJmpPatchBytes) }
            rfl ?_ ?_ ?_ ?_ ?_
        · simp only [perform, installs]
        · simp only [Call.slot, Operation.table, Process.site,
            CallsitePatch.site, notInstalled, Bool.false_eq_true, if_false]
        · intro found _
          simp only [step, perform, installs, Process.withCallsite]
          exact Eq.symm (Site.apply_eq_write (fun _ _ => rfl) found)
        · intro found covered
          refine (bytesOf_copyInto _ _ le_rfl covered).trans ?_
          rw [Bytes.at, add_offsetFrom]
        · simp only [step, perform, installs]
          exact Process.site_withCallsite ..
      · refine .ofFailed ?_ ?_ ?_
        · simp [perform, installs, Outcome.refused]
        · intro found _
          simp only [step, perform, installs, Outcome.refused,
            Process.withCallsite]
        · simp only [step, perform, installs]
          exact Process.site_withCallsite_same rfl

/-- A callsite patch is removed or stays. -/
theorem Effect.ofRemoveCallsitePatch
    (system : System)
    (name : Name) :
    Effect code process
      { system := system
        name := name
        operation := .removeCallsitePatch } := by
  by_cases installed : (process.callsites name).installed = true
  · refine .ofRemoved rfl (if_pos installed) ?_
    simp only [step, perform, removeCallsitePatch, installed,
      Bool.true_eq_false, if_false]
    by_cases protects :
        system.virtualProtect (process.callsites name).address
          kJmpPatchBytes = true
    · rw [if_pos protects]
      exact .inl ⟨rfl, Process.site_withCallsite ..⟩
    · rw [if_neg protects]
      exact
        .inr
          ⟨by simp [Outcome.refused], rfl,
            Process.site_withCallsite_same rfl⟩
  · exact .ofAbsent rfl (if_neg installed)

/-! ## Byte patches -/

/-- `TryWriteBytes` writes everything, or nothing that matters. -/
theorem tryWriteBytes_cases
    {system : System}
    {memory : Bytes}
    {destination : UInt32}
    {source : Nat → UInt8}
    {length : Nat}
    (harmless :
      destination ≠ 0 → length ≠ 0 →
        system.virtualProtect destination length = true →
          ∀ written, system.writeFault = some written →
            ∀ address, code address →
              InRange destination length address →
                written (offsetFrom destination address) = true →
                  source (offsetFrom destination address) =
                    memory address) :
    ((tryWriteBytes system memory destination source length).2 = true ∧
        (tryWriteBytes system memory destination source length).1 =
          memory.write destination source length) ∨
      ((tryWriteBytes system memory destination source length).2 = false ∧
        ∀ address, code address →
          (tryWriteBytes system memory destination source length).1 address =
            memory address) := by
  unfold tryWriteBytes
  by_cases refuses : destination = 0 ∨ length = 0
  · rw [if_pos refuses]
    exact .inr ⟨rfl, fun _ _ => rfl⟩
  rw [if_neg refuses]
  by_cases protects : system.virtualProtect destination length = true
  · rw [if_pos protects]
    cases faults : system.writeFault with
    | none =>
        exact .inl ⟨rfl, rfl⟩
    | some written =>
        refine .inr ⟨rfl, ?_⟩
        intro address isCode
        simp only
        by_cases isWritten :
            written (offsetFrom destination address) = true
        · rw [if_pos isWritten]
          by_cases inRange : InRange destination length address
          · rw [Bytes.write_inRange inRange]
            exact
              harmless (fun isNull => refuses (.inl isNull))
                (fun isEmpty => refuses (.inr isEmpty)) protects written
                faults address isCode inRange isWritten
          · exact Bytes.write_outside inRange
        · rw [if_neg isWritten]
  · rw [if_neg protects]
    exact .inr ⟨rfl, fun _ _ => rfl⟩

/-- A byte patch that is valid is written. -/
theorem installBytePatch_valid
    {system : System}
    {memory : Bytes}
    {address : UInt32}
    {before new : Nat → UInt8}
    {length : Nat}
    {patch : BytePatch}
    (valid :
      ¬ (address = 0 ∨ patch.installed = true ∨ length = 0 ∨
        kMaxStolenBytes < length))
    (canRead : system.canRead address length = true)
    (same : sameBytes (memory.at address) before length = true) :
    installBytePatch system memory address (some before) (some new) length
        patch =
      if (tryWriteBytes system memory address new length).2 = true then
        { memory := (tryWriteBytes system memory address new length).1
          record :=
            { address := address
              original := copyInto patch.original before length
              patch := copyInto patch.patch new length
              length := length
              installed := true }
          succeeded := true }
      else
        .refused (tryWriteBytes system memory address new length).1 {} := by
  have notRefused : ¬ (address = 0 ∨ length = 0) := by
    intro refuses
    rcases refuses with isNull | isEmpty
    · exact valid (.inl isNull)
    · exact valid (.inr (.inr (.inl isEmpty)))
  simp only [installBytePatch, if_neg valid, tryCopyBytes,
    if_neg notRefused, if_pos canRead, if_pos same]

/-- A byte patch that is installed is written over with its original bytes. -/
theorem removeBytePatch_installed
    {patch : BytePatch}
    (installed : patch.installed = true)
    (system : System)
    (memory : Bytes) :
    removeBytePatch system memory patch =
      if (tryWriteBytes system memory patch.address
          (bytesOf patch.original) patch.length).2 = true then
        { memory :=
            (tryWriteBytes system memory patch.address
              (bytesOf patch.original) patch.length).1
          record := {}
          succeeded := true }
      else
        .refused
          (tryWriteBytes system memory patch.address
            (bytesOf patch.original) patch.length).1
          patch := by
  simp [removeBytePatch, installed]

/-- A byte patch is refused before anything is written, or it is valid. -/
theorem installBytePatch_cases
    (system : System)
    (memory : Bytes)
    (address : UInt32)
    (expected replacement : Option (Nat → UInt8))
    (length : Nat)
    (patch : BytePatch) :
    installBytePatch system memory address expected replacement length
          patch =
        .refused memory patch ∨
      ∃ before new,
        expected = some before ∧
          replacement = some new ∧
          ¬ (address = 0 ∨ patch.installed = true ∨ length = 0 ∨
            kMaxStolenBytes < length) ∧
          system.canRead address length = true ∧
          sameBytes (memory.at address) before length = true := by
  cases expected with
  | none =>
      exact .inl rfl
  | some before =>
      cases replacement with
      | none =>
          exact .inl rfl
      | some new =>
          by_cases invalid :
              address = 0 ∨ patch.installed = true ∨ length = 0 ∨
                kMaxStolenBytes < length
          · exact .inl (by simp only [installBytePatch, if_pos invalid])
          have notRefused : ¬ (address = 0 ∨ length = 0) := by
            intro refuses
            rcases refuses with isNull | isEmpty
            · exact invalid (.inl isNull)
            · exact invalid (.inr (.inr (.inl isEmpty)))
          by_cases canRead : system.canRead address length = true
          · by_cases same :
                sameBytes (memory.at address) before length = true
            · exact .inr ⟨before, new, rfl, rfl, invalid, canRead, same⟩
            · apply Or.inl
              simp only [installBytePatch, if_neg invalid, tryCopyBytes,
                if_neg notRefused, if_pos canRead, if_neg same]
          · apply Or.inl
            simp only [installBytePatch, if_neg invalid, tryCopyBytes,
              if_neg notRefused, if_neg canRead]

/-- A byte patch that is refused does nothing. -/
theorem Effect.ofRefusedBytePatch
    {outcome : Outcome BytePatch}
    (performed :
      perform process call =
        (process.withBytePatch call.name outcome,
          some outcome.succeeded))
    (refused : outcome.succeeded = false)
    (sameSite :
      outcome.record.site = (process.bytePatches call.name).site)
    (kept :
      ∀ address, code address →
        outcome.memory address = process.memory address) :
    Effect code process call := by
  refine .ofFailed ?_ ?_ ?_
  · rw [performed, refused]
    simp
  · intro address isCode
    rw [step, performed]
    exact kept address isCode
  · rw [step, performed]
    exact Process.site_withBytePatch_same sameSite

/-- So its effect is an installation, or nothing. -/
theorem Effect.ofInstallBytePatch
    {system : System}
    {name : Name}
    {address : UInt32}
    {expected replacement : Option (Nat → UInt8)}
    {length : Nat}
    (harmless :
      FaultsHarmless code process
        { system := system
          name := name
          operation :=
            .installBytePatch address expected replacement length }) :
    Effect code process
      { system := system
        name := name
        operation :=
          .installBytePatch address expected replacement length } := by
  rcases
    installBytePatch_cases system process.memory address expected
      replacement length (process.bytePatches name) with
    isRefused |
      ⟨before, new, rfl, rfl, invalid, canRead, same⟩
  · refine .ofRefusedBytePatch rfl ?_ ?_ ?_
    · rw [isRefused]
      rfl
    · rw [isRefused]
      rfl
    · rw [isRefused]
      exact fun _ _ => rfl
  have installs :=
    @installBytePatch_valid system process.memory address before new length
      (process.bytePatches name) invalid canRead same
  have valid := invalid
  simp only [not_or, Bool.not_eq_true, Nat.not_lt] at valid
  obtain ⟨_, notInstalled, _, fits⟩ := valid
  have isCopy :
      guardedCopy process
          { system := system
            name := name
            operation :=
              .installBytePatch address (some before) (some new) length } =
        some
          { destination := address
            source := new
            length := length } := by
    simp only [guardedCopy, if_neg invalid, canRead, same, and_self,
      if_true]
  have noSite : process.site (.bytePatches, name) = none := by
    simp [Process.site, BytePatch.site, notInstalled]
  rcases
    tryWriteBytes_cases
      fun _ _ protects written faults =>
        harmless _ written isCopy protects faults with
    ⟨wrote, memory⟩ | ⟨failed, kept⟩
  · simp only at wrote memory
    rw [if_pos wrote, memory] at installs
    refine
      .installs
        { first := address
          length := length
          patched :=
            bytesOf
              (copyInto (process.bytePatches name).patch new length)
          original :=
            bytesOf
              (copyInto (process.bytePatches name).original before length) }
        rfl ?_ noSite ?_ ?_ ?_
    · simp [perform, installs]
    · intro found _
      simp only [step, perform, installs, Process.withBytePatch]
      refine Eq.symm (Site.apply_eq_write ?_ found)
      exact fun _ covered => (bytesOf_copyInto _ _ fits covered).symm
    · intro found covered
      refine (bytesOf_copyInto _ _ fits covered).trans ?_
      rw [← sameBytes_iff.mp same _ covered, Bytes.at, add_offsetFrom]
    · simp only [step, perform, installs]
      exact Process.site_withBytePatch ..
  · simp only at failed kept
    rw [if_neg (by rw [failed]; decide)] at installs
    refine .ofRefusedBytePatch rfl ?_ ?_ ?_
    · rw [installs]
      rfl
    · rw [installs]
      exact noSite.symm
    · rw [installs]
      exact kept

/-- A byte patch is removed or stays. -/
theorem Effect.ofRemoveBytePatch
    {system : System}
    {name : Name}
    (harmless :
      FaultsHarmless code process
        { system := system
          name := name
          operation := .removeBytePatch }) :
    Effect code process
      { system := system
        name := name
        operation := .removeBytePatch } := by
  by_cases installed : (process.bytePatches name).installed = true
  · have isSite :
        process.site (.bytePatches, name) =
          some
            { first := (process.bytePatches name).address
              length := (process.bytePatches name).length
              patched := bytesOf (process.bytePatches name).patch
              original := bytesOf (process.bytePatches name).original } := by
      simp [Process.site, BytePatch.site, installed]
    have removes :=
      removeBytePatch_installed installed system process.memory
    rcases
      tryWriteBytes_cases
        fun notNull notEmpty protects written faults =>
          harmless
            { destination := (process.bytePatches name).address
              source := bytesOf (process.bytePatches name).original
              length := (process.bytePatches name).length }
            written
            (by
              simp only [guardedCopy]
              exact if_pos ⟨installed, notNull, notEmpty⟩)
            protects faults with
      ⟨wrote, memory⟩ | ⟨failed, kept⟩
    · simp only at wrote memory
      rw [if_pos wrote, memory] at removes
      refine .removes _ rfl isSite ?_ ?_
      · simp [step, perform, removes, Process.withBytePatch]
      · simp only [step, perform, removes]
        exact Process.site_withBytePatch ..
    · simp only at failed kept
      rw [if_neg (by rw [failed]; decide)] at removes
      refine .ofRefusedBytePatch rfl ?_ ?_ ?_
      · rw [removes]
        rfl
      · rw [removes]
        rfl
      · rw [removes]
        exact kept
  · have noSite : process.site (.bytePatches, name) = none := by
      simp [Process.site, BytePatch.site, installed]
    exact .ofAbsent rfl noSite

/-! ## All calls -/

/-- Every call whose faults are harmless has an effect. -/
theorem effect_of_harmless
    (codeMapped :
      ∀ address, code address → call.system.mapped address = true)
    (harmless : FaultsHarmless code process call) :
    Effect code process call := by
  obtain ⟨system, name, operation⟩ := call
  cases operation with
  | installInlineDetour target hook =>
      cases installs :
          installInlineDetour system process.memory target hook
            (process.detours name) (process.originals name) with
      | none =>
          apply Effect.ofFault
          simp only [perform, installs, Process.afterDetour]
      | some outcome =>
          rcases installInlineDetour_cases installs with
            ⟨succeeded, notInstalled, _, _, _, _, installed⟩ |
              ⟨refused, record, kept⟩
          · exact
              .ofDetourInstalled rfl rfl codeMapped notInstalled installed
                succeeded (by simp only [perform, installs])
          · exact
              .ofDetourRefused codeMapped refused record kept
                (by simp only [perform, installs])
  | installValidatedInlineDetour target hook patchLength =>
      cases installs :
          installValidatedInlineDetour system process.memory target hook
            patchLength (process.detours name) (process.originals name) with
      | none =>
          apply Effect.ofFault
          simp only [perform, installs, Process.afterDetour]
      | some outcome =>
          rcases installValidatedInlineDetour_cases installs with
            ⟨succeeded, notInstalled, _, _, installed⟩ |
              ⟨refused, record, kept⟩
          · exact
              .ofDetourInstalled rfl rfl codeMapped notInstalled installed
                succeeded (by simp only [perform, installs])
          · exact
              .ofDetourRefused codeMapped refused record kept
                (by simp only [perform, installs])
  | installCallsitePatch callsite hook expectedOriginalTarget =>
      exact .ofInstallCallsitePatch system name callsite hook _
  | installBytePatch _ _ _ _ =>
      exact .ofInstallBytePatch harmless
  | removeInlineDetour =>
      exact .ofRemoveInlineDetour system name
  | removeCallsitePatch =>
      exact .ofRemoveCallsitePatch system name
  | removeBytePatch =>
      exact .ofRemoveBytePatch harmless

end Calls

end MonomythClient.HookManager
