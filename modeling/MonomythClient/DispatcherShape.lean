import MonomythClient.ReceiveDispatchDiscovery

namespace MonomythClient.ReceiveDispatchDiscovery

open FlatMemory ModuleImages RelocatedBytes

/-!
# What counts as the dispatcher

The shape that the discovery looks for, said of the module's contents alone:
distances, places and bytes, without an address.  The discovery finds the
dispatcher exactly in the modules that have the shape, wherever they are
loaded, and over any calls only the last one counts.
-/

/-! ## The shape of the dispatcher -/

/-- The executable section of the code there, the first one in the table. -/
def codeSectionAt
    (sections : List ImageSectionHeader)
    (rva length : Nat) :
    Option ImageSectionHeader :=
  sections.find? fun header =>
    decide
      (header.characteristics &&& IMAGE_SCN_MEM_EXECUTE =
          IMAGE_SCN_MEM_EXECUTE ∧
        header.virtualAddress.toNat ≤ rva ∧ rva + length ≤ header.limit)

/-- Packets are told apart here: among the scanned bytes, which end with the
section, four may begin a comparison and four a branch. -/
def DispatchesAt
    (sections : List ImageSectionHeader)
    (bytes : Nat → UInt8)
    (rva requestedScanSize : Nat) : Prop :=
  ∃ header,
    codeSectionAt sections rva 1 = some header ∧
      header.limit < 2 ^ 32 ∧
      4 ≤ (List.range (min requestedScanSize (header.limit - rva))).countP
        (fun index => isCompareLikeByte (bytes (rva + index))) ∧
      4 ≤ (List.range (min requestedScanSize (header.limit - rva))).countP
        (fun index =>
          isBranchLikeAt (fun offset => bytes (rva + offset)) index
            (min requestedScanSize (header.limit - rva)))

/-- The path for unknown messages compares, branches, calls and sets up the
stack. -/
def ReportsUnknownAt
    (sections : List ImageSectionHeader)
    (bytes : Nat → UInt8)
    (rva scanSize : Nat) : Prop :=
  let code := fun offset => bytes (rva + offset)
  (codeSectionAt sections rva scanSize).isSome ∧
    (∃ index < scanSize, isCompareLikeByte (code index)) ∧
    (∃ index < scanSize, isBranchLikeAt code index scanSize) ∧
    (∃ index < scanSize, isDirectCallAt code index scanSize) ∧
    (∃ index < scanSize, isStackSetupAt code index scanSize)

/-- The instruction there calls the target, by the distance between them. -/
def CallsFrom
    (sections : List ImageSectionHeader)
    (bytes : Nat → UInt8)
    (callRva target : UInt32) : Prop :=
  (codeSectionAt sections callRva.toNat 5).isSome ∧
    bytes callRva.toNat = 0xe8 ∧
    callRva + 5 + readLe32 bytes (callRva.toNat + 1) = target

/-- `ret 0x10` in the scanned bytes of the entry's section. -/
def ReturnsAt
    (sections : List ImageSectionHeader)
    (bytes : Nat → UInt8)
    (entry rva scanSize : Nat) : Prop :=
  ∃ header,
    codeSectionAt sections entry 1 = some header ∧
      header.limit < 2 ^ 32 ∧
      ∃ index,
        index + 3 ≤ min scanSize (header.limit - rva) ∧
          bytes (rva + index) = 0xc2 ∧
          bytes (rva + index + 1) = 0x10 ∧
          bytes (rva + index + 2) = 0x00

/-- The dispatcher, as it looks wherever its module is loaded. -/
structure DispatcherShape
    (sections : List ImageSectionHeader)
    (imageSize : UInt32)
    (bytes : Nat → UInt8) : Prop where
  inImage : kDispatcherEntry.toNat < imageSize.toNat
  entry : DispatchesAt sections bytes kDispatcherEntry.toNat 0x1000
  compareTree : DispatchesAt sections bytes kCompareTree.toNat 0x400
  unknownMessage :
    ReportsUnknownAt sections bytes kUnknownMessagePath.toNat 0x300
  feederA : CallsFrom sections bytes kFeederCallA kDispatcherEntry
  feederB : CallsFrom sections bytes kFeederCallB kDispatcherEntry
  epilogue :
    ReturnsAt sections bytes kDispatcherEntry.toNat kEpilogue.toNat 0x40

/-- A module whose headers can be read and that has the dispatcher. -/
def HasDispatcher (bytes : Nat → UInt8) : Prop :=
  readLe16 bytes 0 = IMAGE_DOS_SIGNATURE ∧
    ∃ nt,
      newHeaderOffset bytes = some nt ∧
        hasImageHeaders bytes nt = true ∧
        DispatcherShape (sectionHeaders bytes nt) (readLe32 bytes (nt + 80))
          bytes

/-! ## Each check -/

theorem codeSectionAt_some
    {sections : List ImageSectionHeader}
    {rva length : Nat}
    {header : ImageSectionHeader}
    (found : codeSectionAt sections rva (length + 1) = some header) :
    header.virtualAddress.toNat ≤ rva ∧ rva < header.limit := by
  have selected := List.find?_some found
  simp only [decide_eq_true_eq] at selected
  exact ⟨selected.2.1, by omega⟩

section Shape

variable (image : ImageView) (bytes : Nat → UInt8)

theorem findSection_eq_codeSectionAt
    (rva : UInt32)
    {length : Nat}
    (isLength : 0 < length) :
    findSection image rva length IMAGE_SCN_MEM_EXECUTE =
      codeSectionAt image.sections rva.toNat length := by
  unfold findSection codeSectionAt
  congr 1
  funext header
  rw [Bool.eq_iff_iff]
  simp only [Bool.and_eq_true, beq_iff_eq, decide_eq_true_eq,
    sectionContains_eq_true_iff isLength]

/-- The section is not cut short by the arithmetic exactly if it ends in the
address space. -/
theorem not_sectionEnd_le_iff
    {header : ImageSectionHeader}
    {rva : UInt32}
    (start : header.virtualAddress.toNat ≤ rva.toNat)
    (isBelow : rva.toNat < header.limit) :
    ¬ header.virtualAddress + sectionSpan header ≤ rva ↔
      header.limit < 2 ^ 32 := by
  constructor
  · intro behind
    rw [← sectionEnd_toNat start behind]
    exact UInt32.toNat_lt _
  · intro inSpace
    have sectionEnd :
        (header.virtualAddress + sectionSpan header).toNat =
          header.limit := by
      rw [UInt32.toNat_add]
      exact Nat.mod_eq_of_lt inSpace
    rw [UInt32.not_le, UInt32.lt_iff_toNat_lt, sectionEnd]
    exact isBelow

theorem hasDispatchLikeLocalShape_iff
    (startRva : UInt32)
    (requestedScanSize : Nat) :
    hasDispatchLikeLocalShape image bytes startRva requestedScanSize = true ↔
      DispatchesAt image.sections bytes startRva.toNat requestedScanSize := by
  unfold hasDispatchLikeLocalShape DispatchesAt
  rw [findSection_eq_codeSectionAt image startRva (by decide)]
  cases found : codeSectionAt image.sections startRva.toNat 1 with
  | none =>
      simp
  | some header =>
      have placed := codeSectionAt_some found
      have sectionEnd := not_sectionEnd_le_iff placed.1 placed.2
      simp only [Option.some.injEq, exists_eq_left']
      by_cases inSpace : header.limit < 2 ^ 32
      · have behind := sectionEnd.mpr inSpace
        have available :
            (header.virtualAddress + sectionSpan header - startRva).toNat =
              header.limit - startRva.toNat := by
          rw [UInt32.toNat_sub_of_le _ _
              (UInt32.le_of_lt (UInt32.not_le.mp behind)),
            sectionEnd_toNat placed.1 behind]
        rw [if_neg behind, available, analyzeLocalCodeEvidence_eq]
        simp only [Bool.and_eq_true, decide_eq_true_eq, inSpace, true_and]
        rfl
      · rw [if_pos (not_not.mp fun behind => inSpace (sectionEnd.mp behind))]
        simp only [inSpace, Bool.false_eq_true, false_and]

theorem isUnknownMessagePathValidated_iff (unknownMessage : Option UInt32) :
    (evaluateUnknownMessagePathEvidence image bytes
        unknownMessage).isValidated = true ↔
      ReportsUnknownAt image.sections bytes kUnknownMessagePath.toNat
        0x300 := by
  unfold evaluateUnknownMessagePathEvidence rvaToPtr ReportsUnknownAt
    kUnknownMessageEvidenceScanBytes
  rw [findSection_eq_codeSectionAt image kUnknownMessagePath (by decide)]
  cases codeSectionAt image.sections kUnknownMessagePath.toNat 0x300 with
  | none =>
      simp [UnknownMessagePathEvidence.isValidated]
  | some header =>
      simp only [Option.map_some, UnknownMessagePathEvidence.isValidated,
        Bool.true_and, Bool.and_eq_true, decide_eq_true_eq,
        analyzeLocalCodeEvidence_eq, Option.isSome_some, true_and,
        Nat.one_le_iff_ne_zero, ← Nat.pos_iff_ne_zero, List.countP_pos_iff,
        List.any_eq_true, List.mem_range, and_assoc]
      rfl

theorem validateDirectCall_iff (callRva entry : UInt32) :
    validateDirectCall image bytes callRva (image.base + entry) = true ↔
      CallsFrom image.sections bytes callRva entry := by
  unfold validateDirectCall rvaToPtr CallsFrom
  rw [findSection_eq_codeSectionAt image callRva (by decide)]
  cases codeSectionAt image.sections callRva.toNat 5 with
  | none =>
      simp
  | some header =>
      have sameTarget :
          image.base + callRva + 5 + readLe32 (codeAt bytes callRva) 1 =
              image.base + entry ↔
            callRva + 5 + readLe32 bytes (callRva.toNat + 1) = entry := by
        have read :
            readLe32 (codeAt bytes callRva) 1 =
              readLe32 bytes (callRva.toNat + 1) := by
          rfl
        rw [read, UInt32.add_assoc, UInt32.add_assoc, UInt32.add_right_inj,
          ← UInt32.add_assoc]
      simp only [Option.map_some, Bool.and_eq_true, beq_iff_eq,
        Option.isSome_some, true_and, sameTarget]
      rfl

/-- The three bytes of `ret 0x10`, found in a search. -/
theorem searchRet10_iff (rva : UInt32) (scanSize : Nat) :
    (searchBytes (codeAt bytes rva) scanSize [0xc2, 0x10, 0x00]).isSome =
        true ↔
      ∃ index,
        index + 3 ≤ scanSize ∧
          bytes (rva.toNat + index) = 0xc2 ∧
          bytes (rva.toNat + index + 1) = 0x10 ∧
          bytes (rva.toNat + index + 2) = 0x00 := by
  rw [searchBytes_isSome_iff (by simp)]
  apply exists_congr
  intro index
  apply and_congr_right
  intro fits
  rw [sameBytes_iff]
  constructor
  · intro same
    exact ⟨same 0 (by decide), same 1 (by decide), same 2 (by decide)⟩
  · rintro ⟨first, second, third⟩ later isLater
    match later, isLater with
    | 0, _ => exact first
    | 1, _ => exact second
    | 2, _ => exact third

theorem hasRet10Epilogue_iff
    {header : ImageSectionHeader}
    (found :
      findSection image kDispatcherEntry 1 IMAGE_SCN_MEM_EXECUTE =
        some header) :
    hasRet10Epilogue bytes header = true ↔
      ReturnsAt image.sections bytes kDispatcherEntry.toNat kEpilogue.toNat
        0x40 := by
  rw [findSection_eq_codeSectionAt image kDispatcherEntry (by decide)]
    at found
  have placed := codeSectionAt_some found
  have sectionEnd := not_sectionEnd_le_iff placed.1 placed.2
  unfold hasRet10Epilogue ReturnsAt
  simp only [found, Option.some.injEq, exists_eq_left']
  by_cases inSpace : header.limit < 2 ^ 32
  · have behind := sectionEnd.mpr inSpace
    have limit := sectionEnd_toNat placed.1 behind
    rw [if_neg behind]
    by_cases isShort :
        kEpilogue < kDispatcherEntry ∨
          header.virtualAddress + sectionSpan header ≤ kEpilogue
    · rw [if_pos isShort]
      have shortSection : header.limit ≤ kEpilogue.toNat := by
        rw [← limit]
        exact isShort.resolve_left (by decide)
      constructor
      · intro impossible
        cases impossible
      · rintro ⟨_, index, fits, _⟩
        omega
    · rw [if_neg isShort]
      have reaches :=
        UInt32.le_of_lt
          (UInt32.not_le.mp fun shortSection =>
            isShort (.inr shortSection))
      have available :
          (header.virtualAddress + sectionSpan header - kEpilogue).toNat =
            header.limit - kEpilogue.toNat := by
        rw [UInt32.toNat_sub_of_le _ _ reaches, limit]
      rw [available, searchRet10_iff]
      simp only [inSpace, true_and]
      rfl
  · rw [if_pos (not_not.mp fun behind => inSpace (sectionEnd.mp behind))]
    simp only [inSpace, Bool.false_eq_true, false_and]

end Shape

/-! ## The candidate and the shape -/

/-- The dispatcher was found in this module. -/
structure Result.PointsInto
    (result : Result)
    (module : UInt32) : Prop where
  validated : result.validated = true
  state : result.state = .validated
  moduleBase : result.moduleBase = module
  candidateRva : result.candidateRva = kDispatcherEntry
  candidateAddress : result.candidateAddress = module + kDispatcherEntry

/-- Nothing was found. -/
def Result.Refused (result : Result) : Prop :=
  result.validated = false ∧ result.state ≠ .validated

theorem failWith_refused
    (result : Result)
    (checks : List CheckStatus)
    (reason : String) :
    (failWith result checks reason).Refused :=
  ⟨rfl, nofun⟩

/-- The last three checks decide as the shape does. -/
theorem validateMessagePath_cases
    (image : ImageView)
    (bytes : Nat → UInt8)
    {codeSection : ImageSectionHeader}
    (found :
      findSection image kDispatcherEntry 1 IMAGE_SCN_MEM_EXECUTE =
        some codeSection)
    (result : Result)
    (base : result.moduleBase = image.base)
    (rva : result.candidateRva = kDispatcherEntry)
    (address : result.candidateAddress = image.base + kDispatcherEntry)
    (checks : List CheckStatus) :
    (ReportsUnknownAt image.sections bytes kUnknownMessagePath.toNat 0x300 ∧
        CallsFrom image.sections bytes kFeederCallA kDispatcherEntry ∧
        CallsFrom image.sections bytes kFeederCallB kDispatcherEntry ∧
        ReturnsAt image.sections bytes kDispatcherEntry.toNat
          kEpilogue.toNat 0x40) ∧
        (validateMessagePath image bytes codeSection result
          checks).PointsInto image.base ∨
      (¬ (ReportsUnknownAt image.sections bytes kUnknownMessagePath.toNat
            0x300 ∧
          CallsFrom image.sections bytes kFeederCallA kDispatcherEntry ∧
          CallsFrom image.sections bytes kFeederCallB kDispatcherEntry ∧
          ReturnsAt image.sections bytes kDispatcherEntry.toNat
            kEpilogue.toNat 0x40)) ∧
        (validateMessagePath image bytes codeSection result
          checks).Refused := by
  rw [← isUnknownMessagePathValidated_iff image bytes
      (findUnknownMessageString image bytes),
    ← validateDirectCall_iff, ← validateDirectCall_iff,
    ← hasRet10Epilogue_iff image bytes found]
  unfold validateMessagePath
  rw [address]
  dsimp only
  split
  · rename_i isPath
    right
    rw [Bool.not_eq_true'] at isPath
    exact ⟨fun all => by simp [isPath] at all, failWith_refused _ _ _⟩
  · rename_i isPath
    split
    · rename_i areFeeders
      right
      refine ⟨?_, failWith_refused _ _ _⟩
      rintro ⟨_, isA, isB, _⟩
      simp [isA, isB] at areFeeders
    · rename_i areFeeders
      split
      · rename_i isEpilogue
        right
        rw [Bool.not_eq_true'] at isEpilogue
        exact ⟨fun all => by simp [isEpilogue] at all,
          failWith_refused _ _ _⟩
      · rename_i isEpilogue
        left
        simp only [Bool.not_eq_true', Bool.or_eq_true, not_or,
          Bool.not_eq_false] at isPath areFeeders isEpilogue
        exact
          ⟨⟨isPath, areFeeders.1, areFeeders.2, isEpilogue⟩,
            ⟨rfl, rfl, base, rva, rfl⟩⟩

/-- The candidate is validated exactly where the shape is. -/
theorem validateCandidate_cases
    (module : UInt32)
    (bytes : Nat → UInt8) :
    (module ≠ 0 ∧ HasDispatcher bytes) ∧
        (validateCandidate module bytes).PointsInto module ∨
      ¬ (module ≠ 0 ∧ HasDispatcher bytes) ∧
        (validateCandidate module bytes).Refused := by
  unfold validateCandidate
  cases view : buildImageView module bytes with
  | none =>
      right
      refine ⟨?_, failWith_refused _ _ _⟩
      rintro ⟨isModule, isDos, nt, foundOffset, areHeaders, _⟩
      simp [buildImageView, isModule, isDos, foundOffset, areHeaders]
        at view
  | some image =>
      obtain ⟨isModule, isDos, nt, foundOffset, areHeaders, rfl⟩ :=
        buildImageView_some view
      have shapeIff :
          (module ≠ 0 ∧ HasDispatcher bytes) ↔
            DispatcherShape (sectionHeaders bytes nt)
              (readLe32 bytes (nt + 80)) bytes := by
        constructor
        · rintro ⟨_, _, other, foundOther, _, shape⟩
          rw [foundOffset] at foundOther
          cases foundOther
          exact shape
        · intro shape
          exact ⟨isModule, isDos, nt, foundOffset, areHeaders, shape⟩
      rw [shapeIff]
      generalize sectionHeaders bytes nt = sections
      generalize readLe32 bytes (nt + 80) = imageSize
      dsimp only
      split
      · rename_i outside
        right
        refine ⟨fun shape => ?_, failWith_refused _ _ _⟩
        rw [isRangeWithinImage_one_iff.mpr shape.inImage] at outside
        cases outside
      · rename_i inside
        have inImage : kDispatcherEntry.toNat < imageSize.toNat := by
          rw [Bool.not_eq_true', Bool.not_eq_false] at inside
          exact isRangeWithinImage_one_iff.mp inside
        cases found :
            findSection ⟨module, sections, imageSize⟩ kDispatcherEntry 1
              IMAGE_SCN_MEM_EXECUTE with
        | none =>
            right
            refine ⟨fun shape => ?_, failWith_refused _ _ _⟩
            obtain ⟨header, isSection, _⟩ := shape.entry
            rw [findSection_eq_codeSectionAt _ _ (by decide)] at found
            rw [found] at isSection
            cases isSection
        | some codeSection =>
            dsimp only
            split
            · rename_i noEntry
              right
              refine ⟨fun shape => ?_, failWith_refused _ _ _⟩
              have isEntry :=
                (hasDispatchLikeLocalShape_iff
                  ⟨module, sections, imageSize⟩ bytes _ _).mpr shape.entry
              rw [show kEntryDispatchScanBytes = 0x1000 from rfl, isEntry]
                at noEntry
              cases noEntry
            · rename_i isEntry
              rw [Bool.not_eq_true', Bool.not_eq_false,
                hasDispatchLikeLocalShape_iff] at isEntry
              split
              · rename_i noTree
                right
                refine ⟨fun shape => ?_, failWith_refused _ _ _⟩
                have isTree :=
                  (hasDispatchLikeLocalShape_iff
                    ⟨module, sections, imageSize⟩ bytes _ _).mpr
                    shape.compareTree
                rw [show kCompareTreeScanBytes = 0x400 from rfl, isTree]
                  at noTree
                cases noTree
              · rename_i isTree
                rw [Bool.not_eq_true', Bool.not_eq_false,
                  hasDispatchLikeLocalShape_iff] at isTree
                generalize setCheck _ 3 _ _ _ = checks
                rcases
                  validateMessagePath_cases ⟨module, sections, imageSize⟩
                    bytes found
                    { state := .candidateFound
                      moduleBase := module
                      candidateRva := kDispatcherEntry
                      candidateAddress := module + kDispatcherEntry }
                    rfl rfl rfl checks with
                  ⟨⟨isPath, isA, isB, isEpilogue⟩, points⟩ |
                    ⟨lacks, refused⟩
                · exact
                    .inl
                      ⟨⟨inImage, isEntry, isTree, isPath, isA, isB,
                        isEpilogue⟩, points⟩
                · exact
                    .inr
                      ⟨fun shape =>
                        lacks
                          ⟨shape.unknownMessage, shape.feederA,
                            shape.feederB, shape.epilogue⟩, refused⟩

theorem step_run_refused_or_points
    (result : Result)
    (enhancementDiscoveryAllowed : Bool)
    (module : UInt32)
    (bytes : Nat → UInt8) :
    (enhancementDiscoveryAllowed = true ∧ module ≠ 0 ∧
          HasDispatcher bytes) ∧
        (step result
          (.run enhancementDiscoveryAllowed module bytes)).PointsInto
            module ∨
      ¬ (enhancementDiscoveryAllowed = true ∧ module ≠ 0 ∧
          HasDispatcher bytes) ∧
        (step result
          (.run enhancementDiscoveryAllowed module bytes)).Refused := by
  cases enhancementDiscoveryAllowed with
  | false =>
      exact .inr ⟨fun all => by simp at all, rfl, by simp [step]⟩
  | true =>
      simpa only [step, if_true, true_and] using
        validateCandidate_cases module bytes

/-- The discovery's result is new with each call, or was no success. -/
theorem step_refused_of_not_run
    {result : Result}
    (consistent : result.validated = true → result.state = .validated)
    (call : Call)
    (isNotRun :
      ∀ enhancementDiscoveryAllowed module bytes,
        call ≠ .run enhancementDiscoveryAllowed module bytes) :
    (step result call).Refused := by
  cases call with
  | init =>
      exact ⟨rfl, by simp [step]⟩
  | run enhancementDiscoveryAllowed module bytes =>
      exact absurd rfl (isNotRun enhancementDiscoveryAllowed module bytes)
  | shutdown =>
      unfold step
      dsimp only
      split
      · rename_i isOver
        have isNoSuccess : result.state ≠ .validated := by
          rcases isOver with isOver | isOver <;> simp [isOver]
        refine ⟨?_, isNoSuccess⟩
        rw [← Bool.not_eq_true]
        exact fun success => isNoSuccess (consistent success)
      · exact ⟨rfl, by simp⟩

/-- The result and its state agree after any calls. -/
theorem calls_consistent (calls : List Call) :
    (calls.foldl step {}).validated = true →
      (calls.foldl step {}).state = .validated := by
  induction calls using List.reverseRecOn with
  | nil =>
      intro impossible
      cases impossible
  | append_singleton earlier call inductionHypothesis =>
      rw [List.foldl_append, List.foldl_cons, List.foldl_nil]
      intro success
      have notRefused :
          ¬ (step (earlier.foldl step {}) call).Refused := by
        intro refused
        rw [refused.1] at success
        cases success
      cases call with
      | run enhancementDiscoveryAllowed module bytes =>
          rcases step_run_refused_or_points (earlier.foldl step {})
            enhancementDiscoveryAllowed module bytes with found | refused
          · exact found.2.state
          · exact absurd refused.2 notRefused
      | init =>
          exact absurd
            (step_refused_of_not_run inductionHypothesis
              .init (by simp)) notRefused
      | shutdown =>
          exact absurd
            (step_refused_of_not_run inductionHypothesis
              .shutdown (by simp)) notRefused

/-- After any calls the dispatcher counts as found exactly if the last call was
a run that was allowed, in a module that has it; its address is then the
module's own. -/
theorem dispatcher_found_iff_last_run_has_shape (calls : List Call) :
    ((calls.foldl step {}).validated = true ↔
      ∃ earlier module bytes,
        calls = earlier ++ [.run true module bytes] ∧
          module ≠ 0 ∧
          HasDispatcher bytes ∧
          (calls.foldl step {}).PointsInto module) ∧
      ∀ earlier module bytes,
        calls = earlier ++ [.run true module bytes] →
          module ≠ 0 →
            HasDispatcher bytes →
              (calls.foldl step {}).PointsInto module := by
  have lastRun : ∀ earlier module bytes,
      calls = earlier ++ [.run true module bytes] →
        module ≠ 0 →
          HasDispatcher bytes →
            (calls.foldl step {}).PointsInto module := by
    rintro earlier module bytes rfl isModule has
    rw [List.foldl_append, List.foldl_cons, List.foldl_nil]
    rcases step_run_refused_or_points (earlier.foldl step {}) true module
      bytes with found | refused
    · exact found.2
    · exact absurd ⟨rfl, isModule, has⟩ refused.1
  refine ⟨⟨fun success => ?_, ?_⟩, lastRun⟩
  · cases calls using List.reverseRecOn with
    | nil =>
        cases success
    | append_singleton earlier call =>
        have consistent := calls_consistent earlier
        cases call with
        | run enhancementDiscoveryAllowed module bytes =>
            rw [List.foldl_append, List.foldl_cons, List.foldl_nil]
              at success
            rcases step_run_refused_or_points (earlier.foldl step {})
              enhancementDiscoveryAllowed module bytes with found | refused
            · obtain ⟨⟨rfl, isModule, has⟩, _⟩ := found
              exact
                ⟨earlier, module, bytes, rfl, isModule, has,
                  lastRun earlier module bytes rfl isModule has⟩
            · rw [refused.2.1] at success
              cases success
        | init =>
            rw [List.foldl_append, List.foldl_cons, List.foldl_nil,
              (step_refused_of_not_run consistent
                .init (by simp)).1] at success
            cases success
        | shutdown =>
            rw [List.foldl_append, List.foldl_cons, List.foldl_nil,
              (step_refused_of_not_run consistent
                .shutdown (by simp)).1] at success
            cases success
  · rintro ⟨_, _, _, _, _, _, points⟩
    exact points.validated

end MonomythClient.ReceiveDispatchDiscovery
