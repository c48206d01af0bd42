import MonomythClient.PatchRuns

namespace MonomythClient.HookManager

open FlatMemory Overlays

/-!
# Effects of patches

As long as no fault does harm, a call does one of three things: nothing, laying
one patch over the code, or taking one away.  Each of them keeps the code
overlaid with the patches that are installed, and the bytes saved for each of
them the original ones.
-/

variable {Name : Type} [DecidableEq Name]

/-! ## What a call can do -/

theorem Process.site_withDetour
    (process : Process Name)
    (name : Name)
    (outcome : Outcome InlineDetour) :
    (process.withDetour name outcome).site =
      Function.update process.site (.detours, name)
        outcome.record.site := by
  funext slot
  obtain ⟨table, other⟩ := slot
  by_cases same : other = name
  · subst same
    cases table <;> simp [site, withDetour]
  · cases table <;> simp [site, withDetour, same]

theorem Process.site_withCallsite
    (process : Process Name)
    (name : Name)
    (outcome : Outcome CallsitePatch) :
    (process.withCallsite name outcome).site =
      Function.update process.site (.callsites, name)
        outcome.record.site := by
  funext slot
  obtain ⟨table, other⟩ := slot
  by_cases same : other = name
  · subst same
    cases table <;> simp [site, withCallsite]
  · cases table <;> simp [site, withCallsite, same]

theorem Process.site_withBytePatch
    (process : Process Name)
    (name : Name)
    (outcome : Outcome BytePatch) :
    (process.withBytePatch name outcome).site =
      Function.update process.site (.bytePatches, name)
        outcome.record.site := by
  funext slot
  obtain ⟨table, other⟩ := slot
  by_cases same : other = name
  · subst same
    cases table <;> simp [site, withBytePatch]
  · cases table <;> simp [site, withBytePatch, same]

/-- A record with the same site leaves all sites. -/
theorem Process.site_withDetour_same
    {process : Process Name}
    {name : Name}
    {outcome : Outcome InlineDetour}
    (same : outcome.record.site = (process.detours name).site) :
    (process.withDetour name outcome).site = process.site := by
  rw [site_withDetour, same]
  exact Function.update_eq_self (Table.detours, name) process.site

theorem Process.site_withCallsite_same
    {process : Process Name}
    {name : Name}
    {outcome : Outcome CallsitePatch}
    (same : outcome.record.site = (process.callsites name).site) :
    (process.withCallsite name outcome).site = process.site := by
  rw [site_withCallsite, same]
  exact Function.update_eq_self (Table.callsites, name) process.site

theorem Process.site_withBytePatch_same
    {process : Process Name}
    {name : Name}
    {outcome : Outcome BytePatch}
    (same : outcome.record.site = (process.bytePatches name).site) :
    (process.withBytePatch name outcome).site = process.site := by
  rw [site_withBytePatch, same]
  exact Function.update_eq_self (Table.bytePatches, name) process.site

/-- A call whose faults are harmless does nothing, installs or removes. -/
inductive Effect
    (code : UInt32 → Prop)
    (process : Process Name)
    (call : Call Name) : Prop where
  | nothing
      (kept :
        ∀ address, code address →
          (step process call).memory address = process.memory address)
      (sites : (step process call).site = process.site)
      (refused :
        call.operation.isRemoval = false →
          (perform process call).2 ≠ some true)
      (absent :
        call.operation.isRemoval = true →
          (perform process call).2 = some true →
            process.site call.slot = none)
  | installs
      (site : Site)
      (isInstallation : call.operation.isRemoval = false)
      (succeeded : (perform process call).2 = some true)
      (free : process.site call.slot = none)
      (written :
        ∀ address, code address →
          (step process call).memory address =
            site.patch.apply process.memory address)
      (saved :
        ∀ address, site.covers address →
          site.original (offsetFrom site.first address) =
            process.memory address)
      (sites :
        (step process call).site =
          Function.update process.site call.slot (some site))
  | removes
      (site : Site)
      (isRemoval : call.operation.isRemoval = true)
      (present : process.site call.slot = some site)
      (written :
        (step process call).memory =
          process.memory.write site.first site.original site.length)
      (sites :
        (step process call).site =
          Function.update process.site call.slot none)

/-- The tables hold these patches when they hold these sites. -/
theorem Process.patches_of_site
    {process after : Process Name}
    {slot : Table × Name}
    {site : Option Site}
    (sites : after.site = Function.update process.site slot site) :
    after.patches =
      Function.update process.patches slot
        (site.elim (fun _ => none) Site.patch) := by
  funext other
  rw [patches, sites]
  by_cases same : other = slot
  · subst same
    rw [Function.update_self, Function.update_self]
  · rw [Function.update_of_ne same, Function.update_of_ne same, patches]

theorem Site.patch_eq_none_iff {site : Site} {address : UInt32} :
    site.patch address = none ↔ ¬ site.covers address := by
  unfold patch
  split <;> simp_all

/-- Applying the patch of a site is writing its bytes. -/
theorem Site.apply_eq_write
    {site : Site}
    {memory : Bytes}
    {source : Nat → UInt8}
    (patched :
      ∀ address, site.covers address →
        source (offsetFrom site.first address) =
          site.patched (offsetFrom site.first address))
    (address : UInt32) :
    site.patch.apply memory address =
      memory.write site.first source site.length address := by
  by_cases covered : InRange site.first site.length address
  · rw [Bytes.write_inRange covered, patched address covered]
    simp only [Patch.apply, patch, covers, covered, if_true,
      Option.getD_some]
  · rw [Bytes.write_outside covered]
    simp only [Patch.apply, patch, covers, covered, if_false,
      Option.getD_none]

omit [DecidableEq Name] in
theorem Process.patches_of_some
    {process : Process Name}
    {slot : Table × Name}
    {site : Site}
    (isSite : process.site slot = some site) :
    process.patches slot = site.patch := by
  rw [patches, isSite, Option.elim_some]

omit [DecidableEq Name] in
theorem Process.patches_of_none
    {process : Process Name}
    {slot : Table × Name}
    (noSite : process.site slot = none)
    (address : UInt32) :
    process.patches slot address = none := by
  rw [patches, noSite, Option.elim_none]

/-- The invariant of a run. -/
structure Intact
    (code : UInt32 → Prop)
    (base : Bytes)
    (process : Process Name) : Prop where
  overlaid : Overlaid code base process.memory process.patches
  separate :
    ∀ slot other, other ≠ slot →
      Separate (process.patches slot) (process.patches other)
  saved :
    ∀ slot site,
      process.site slot = some site →
        ∀ address, code address → site.covers address →
          site.original (offsetFrom site.first address) = base address

section Steps

variable
  {code : UInt32 → Prop}
  {base : Bytes}
  {process : Process Name}
  {call : Call Name}

/-- A removal of what is not installed leaves everything. -/
theorem step_notInstalled
    (isRemoval : call.operation.isRemoval = true)
    (noSite : process.site call.slot = none) :
    step process call = process := by
  obtain ⟨system, name, operation⟩ := call
  cases operation with
  | removeInlineDetour =>
      have notInstalled : (process.detours name).installed = false := by
        simpa [Process.site, Call.slot, Operation.table,
          InlineDetour.site] using noSite
      simp [step, perform, removeInlineDetour, notInstalled,
        Process.withDetour]
  | removeCallsitePatch =>
      have notInstalled : (process.callsites name).installed = false := by
        simpa [Process.site, Call.slot, Operation.table,
          CallsitePatch.site] using noSite
      simp [step, perform, removeCallsitePatch, notInstalled,
        Process.withCallsite]
  | removeBytePatch =>
      have notInstalled : (process.bytePatches name).installed = false := by
        simpa [Process.site, Call.slot, Operation.table,
          BytePatch.site] using noSite
      simp [step, perform, removeBytePatch, notInstalled,
        Process.withBytePatch]
  | installInlineDetour _ _ =>
      cases isRemoval
  | installValidatedInlineDetour _ _ _ =>
      cases isRemoval
  | installCallsitePatch _ _ _ =>
      cases isRemoval
  | installBytePatch _ _ _ _ =>
      cases isRemoval

/-! ## What keeps the invariant -/

section Kept

variable
  {after : Process Name}
  {slot : Table × Name}
  {site : Site}

/-- No patch covers the place of a site that is laid apart from all others, so
it has base code. -/
theorem Intact.base_of_free
    (intact : Intact code base process)
    (free : process.site slot = none)
    (separate :
      ∀ other, other ≠ slot →
        Separate site.patch (process.patches other)) :
    ∀ address, code address → site.covers address →
      process.memory address = base address := by
  have separateAll :
      ∀ other, Separate site.patch (process.patches other) := by
    intro other
    by_cases same : other = slot
    · intro address
      rw [same]
      exact .inr (Process.patches_of_none free address)
    · exact separate other same
  intro address isCode covered
  exact
    intact.overlaid.base_of_separate separateAll isCode
      fun isNone => Site.patch_eq_none_iff.mp isNone covered

/-- A new site is apart from those that were there. -/
theorem separate_of_update
    (separate :
      ∀ slot other, other ≠ slot →
        Separate (after.patches slot) (after.patches other))
    (sites :
      after.site = Function.update process.site slot (some site)) :
    ∀ other, other ≠ slot →
      Separate site.patch (process.patches other) := by
  intro other different
  have apart := separate slot other different
  rw [Process.patches_of_site sites, Function.update_self,
    Function.update_of_ne different] at apart
  exact apart

/-- Laying a site over base code. -/
theorem Intact.install
    (intact : Intact code base process)
    (free : process.site slot = none)
    (separate :
      ∀ slot other, other ≠ slot →
        Separate (after.patches slot) (after.patches other))
    (written :
      ∀ address, code address →
        after.memory address = site.patch.apply process.memory address)
    (saved :
      ∀ address, site.covers address →
        site.original (offsetFrom site.first address) =
          process.memory address)
    (sites :
      after.site = Function.update process.site slot (some site)) :
    Intact code base after where
  overlaid := by
    rw [Process.patches_of_site sites]
    exact
      intact.overlaid.install (Process.patches_of_none free)
        (separate_of_update separate sites) written
  separate := separate
  saved := by
    intro found foundSite isFound address isCode covered
    by_cases same : found = slot
    · rw [same, sites, Function.update_self, Option.some.injEq] at isFound
      subst isFound
      exact
        (saved address covered).trans
          (intact.base_of_free free (separate_of_update separate sites)
            address isCode covered)
    · rw [sites, Function.update_of_ne same] at isFound
      exact intact.saved found foundSite isFound address isCode covered

omit [DecidableEq Name] in
/-- Writing back what a site has saved brings base code back. -/
theorem Intact.restored
    (intact : Intact code base process)
    (present : process.site slot = some site)
    (written :
      after.memory =
        process.memory.write site.first site.original site.length) :
    ∀ address, code address → site.covers address →
      after.memory address = base address := by
  intro address isCode covered
  rw [written, Bytes.write_inRange covered]
  exact intact.saved slot site present address isCode covered

/-- Taking a site away. -/
theorem Intact.remove
    (intact : Intact code base process)
    (present : process.site slot = some site)
    (separate :
      ∀ slot other, other ≠ slot →
        Separate (after.patches slot) (after.patches other))
    (written :
      after.memory =
        process.memory.write site.first site.original site.length)
    (sites : after.site = Function.update process.site slot none) :
    Intact code base after where
  overlaid := by
    have oldPatch := Process.patches_of_some present
    rw [Process.patches_of_site sites]
    refine intact.overlaid.remove ?_ ?_ ?_
    · exact intact.separate slot
    · intro address isCode covers
      rw [oldPatch, ne_eq, Site.patch_eq_none_iff,
        Decidable.not_not] at covers
      exact intact.restored present written address isCode covers
    · intro address _ notCovered
      rw [oldPatch, Site.patch_eq_none_iff] at notCovered
      rw [written]
      exact Bytes.write_outside notCovered
  separate := separate
  saved := by
    intro found foundSite isFound
    by_cases same : found = slot
    · rw [same, sites, Function.update_self] at isFound
      cases isFound
    · rw [sites, Function.update_of_ne same] at isFound
      exact intact.saved found foundSite isFound

omit [DecidableEq Name] in
/-- Leaving the sites and the code alone. -/
theorem Intact.keep
    (intact : Intact code base process)
    (separate :
      ∀ slot other, other ≠ slot →
        Separate (after.patches slot) (after.patches other))
    (kept :
      ∀ address, code address →
        after.memory address = process.memory address)
    (sites : after.site = process.site) :
    Intact code base after where
  overlaid := by
    have samePatches : after.patches = process.patches := by
      funext found
      rw [Process.patches, sites, Process.patches]
    rw [samePatches]
    exact intact.overlaid.congr kept
  separate := separate
  saved := by
    rw [sites]
    exact intact.saved

end Kept

/-- Whatever a call does, it is confined, and the invariant stays. -/
theorem Effect.confined
    (effect : Effect code process call)
    (intact : Intact code base process)
    (allowed : Allowed code process call) :
    Intact code base (step process call) ∧
      Confined code base process call := by
  cases effect with
  | nothing kept sites refused absent =>
      have stillIntact := intact.keep allowed.separate kept sites
      refine
        ⟨stillIntact,
          { overlaid := stillIntact.overlaid
            failedInstall := fun _ _ => ⟨kept, fun slot => by rw [sites]⟩
            installed := fun isInstallation succeeded =>
              (refused isInstallation succeeded).elim
            removed := ?_
            notInstalled := step_notInstalled }⟩
      intro isRemoval succeeded
      have noSite := absent isRemoval succeeded
      refine ⟨by rw [sites, noSite], ?_⟩
      intro site isSite
      rw [noSite] at isSite
      cases isSite
  | installs site isInstallation succeeded free written saved sites =>
      have stillIntact :=
        intact.install free allowed.separate written saved sites
      have newSite : (step process call).site call.slot = some site := by
        rw [sites, Function.update_self]
      refine
        ⟨stillIntact,
          { overlaid := stillIntact.overlaid
            failedInstall := fun _ failed => (failed succeeded).elim
            installed := fun _ _ =>
              ⟨site, newSite, free,
                intact.base_of_free free
                  (separate_of_update allowed.separate sites)⟩
            removed := ?_
            notInstalled := step_notInstalled }⟩
      intro isRemoval
      rw [isInstallation] at isRemoval
      cases isRemoval
  | removes site isRemoval present written sites =>
      have stillIntact :=
        intact.remove present allowed.separate written sites
      have noSite : (step process call).site call.slot = none := by
        rw [sites, Function.update_self]
      refine
        ⟨stillIntact,
          { overlaid := stillIntact.overlaid
            failedInstall := ?_
            installed := ?_
            removed := ?_
            notInstalled := step_notInstalled }⟩
      · intro isInstallation
        rw [isRemoval] at isInstallation
        cases isInstallation
      · intro isInstallation
        rw [isRemoval] at isInstallation
        cases isInstallation
      · intro _ _
        refine ⟨noSite, ?_⟩
        intro found isFound
        rw [present, Option.some.injEq] at isFound
        subst isFound
        exact intact.restored present written

end Steps

end MonomythClient.HookManager
