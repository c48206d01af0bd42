import MonomythClient.ReceiveDispatchDiscovery

namespace MonomythClient.ReceiveDispatchDiscovery

open FlatMemory ModuleImages ReadFootprints RelocatedBytes

/-!
# What the discovery of the dispatcher reads

Each check scans a bounded piece of a section, and a section is looked up before
it is scanned.  So the discovery reads the headers of the module and its
sections, and no other memory.
-/

section Footprints

variable
  {bytes : Nat → UInt8}
  {region : Nat → Prop}

/-- The sections of an image lie in the region. -/
def SectionsInside
    (sections : List ImageSectionHeader)
    (region : Nat → Prop) : Prop :=
  ∀ header ∈ sections, ∀ offset,
    header.virtualAddress.toNat ≤ offset →
      offset < header.limit → region offset

/-- A place in the code and what is tested there agree in both memories. -/
theorem note_eq_of_agree
    {code otherCode : Nat → UInt8}
    {scanSize : Nat}
    (agree : ∀ index < scanSize, otherCode index = code index)
    {index : Nat}
    (inScan : index < scanSize)
    (evidence : LocalCodeEvidence) :
    evidence.note otherCode scanSize index =
      evidence.note code scanSize index := by
  have here := agree index inScan
  have branch :
      isBranchLikeAt otherCode index scanSize =
        isBranchLikeAt code index scanSize := by
    unfold isBranchLikeAt
    rw [here]
    by_cases next : index + 1 < scanSize
    · rw [agree _ next]
    · simp [next]
  have call :
      isDirectCallAt otherCode index scanSize =
        isDirectCallAt code index scanSize := by
    unfold isDirectCallAt
    rw [here]
  have stack :
      isStackSetupAt otherCode index scanSize =
        isStackSetupAt code index scanSize := by
    unfold isStackSetupAt
    rw [here]
    by_cases next : index + 1 < scanSize
    · rw [agree _ next]
    · have noByte : ¬ index + 2 < scanSize := by omega
      have noWord : ¬ index + 5 < scanSize := by omega
      simp [noByte, noWord]
  unfold LocalCodeEvidence.note
  rw [here, branch, call, stack]

theorem analyzeLocalCodeEvidence_inside
    {rva : UInt32}
    {scanSize : Nat}
    (inside : ∀ index < scanSize, region (rva.toNat + index)) :
    StaysInside bytes region fun contents =>
      analyzeLocalCodeEvidence (codeAt contents rva) scanSize := by
  unfold analyzeLocalCodeEvidence
  apply StaysInside.foldl
  intro index member evidence other agree
  apply note_eq_of_agree _ (List.mem_range.mp member)
  intro place inScan
  exact agree _ (inside place inScan)

/-- A range that a section contains lies in the region. -/
theorem section_inside
    {image : ImageView}
    (sections : SectionsInside image.sections region)
    {rva requiredCharacteristics : UInt32}
    {length : Nat}
    {header : ImageSectionHeader}
    (found :
      findSection image rva length requiredCharacteristics = some header) :
    ∀ index < length, region (rva.toNat + index) := by
  intro index isIndex
  obtain ⟨member, _, start, fits⟩ := findSection_some found
  exact sections header member _ (by omega) (by omega)

/-- What is left of a section from a place on lies in the region. -/
theorem sectionRest_inside
    {image : ImageView}
    (sections : SectionsInside image.sections region)
    {header : ImageSectionHeader}
    (member : header ∈ image.sections)
    {rva : UInt32}
    (start : header.virtualAddress.toNat ≤ rva.toNat)
    (behind : ¬ header.virtualAddress + sectionSpan header ≤ rva)
    (requestedScanSize : Nat) :
    ∀ index <
        min requestedScanSize
          (header.virtualAddress + sectionSpan header - rva).toNat,
      region (rva.toNat + index) := by
  intro index inScan
  rw [UInt32.toNat_sub_of_le _ _
      (UInt32.le_of_lt (UInt32.not_le.mp behind)),
    sectionEnd_toNat start behind] at inScan
  exact sections header member _ (by omega) (by omega)

theorem findUnknownMessageString_inside
    {image : ImageView}
    (sections : SectionsInside image.sections region) :
    StaysInside bytes region (findUnknownMessageString image) := by
  apply StaysInside.findSome
  intro header member
  split
  · exact .const none
  · apply StaysInside.map
      (searchBytes_inside _ kUnknownMessageString)
      fun index =>
        index.map fun index => header.virtualAddress + UInt32.ofNat index
    intro index inSpan
    apply sections header member _ (by omega)
    unfold ImageSectionHeader.limit
    omega

theorem hasRet10Epilogue_inside
    {image : ImageView}
    (sections : SectionsInside image.sections region)
    {header : ImageSectionHeader}
    (found :
      findSection image kDispatcherEntry 1 IMAGE_SCN_MEM_EXECUTE =
        some header) :
    StaysInside bytes region fun contents =>
      hasRet10Epilogue contents header := by
  obtain ⟨member, _, start, _⟩ := findSection_some found
  have isAfter : kDispatcherEntry.toNat ≤ kEpilogue.toNat := by decide
  unfold hasRet10Epilogue
  dsimp only
  split
  · exact .const false
  · split
    · exact .const false
    · rename_i reaches
      exact
        (searchBytes_inside
          (sectionRest_inside sections member (start.trans isAfter)
            (fun shortSection => reaches (.inr shortSection)) _) _).map
          Option.isSome

theorem validateDirectCall_inside
    {image : ImageView}
    (sections : SectionsInside image.sections region)
    (callRva expectedTarget : UInt32) :
    StaysInside bytes region fun contents =>
      validateDirectCall image contents callRva expectedTarget := by
  unfold validateDirectCall rvaToPtr
  cases found : findSection image callRva 5 IMAGE_SCN_MEM_EXECUTE with
  | none =>
      exact .const false
  | some header =>
      have inside := section_inside sections found
      have first : StaysInside bytes region fun contents =>
          codeAt contents callRva 0 :=
        .read (inside 0 (by decide))
      have relative : StaysInside bytes region fun contents =>
          readLe32 (codeAt contents callRva) 1 := by
        change StaysInside bytes region fun contents =>
          readLe32 contents (callRva.toNat + 1)
        apply readLe32_inside
        intro index isIndex
        rw [Nat.add_assoc]
        exact inside (1 + index) (by omega)
      exact first.map₂ relative fun opcode distance =>
        opcode == 0xe8 &&
          image.base + callRva + 5 + distance == expectedTarget

theorem hasDispatchLikeLocalShape_inside
    {image : ImageView}
    (sections : SectionsInside image.sections region)
    (startRva : UInt32)
    (requestedScanSize : Nat) :
    StaysInside bytes region fun contents =>
      hasDispatchLikeLocalShape image contents startRva
        requestedScanSize := by
  unfold hasDispatchLikeLocalShape
  cases found : findSection image startRva 1 IMAGE_SCN_MEM_EXECUTE with
  | none =>
      exact .const false
  | some header =>
      obtain ⟨member, _, start, _⟩ := findSection_some found
      dsimp only
      split
      · exact .const false
      · rename_i behind
        exact
          (analyzeLocalCodeEvidence_inside
            (sectionRest_inside sections member start behind _)).map
            fun evidence =>
              decide (4 ≤ evidence.compareLike) &&
                decide (4 ≤ evidence.branchLike)

theorem evaluateUnknownMessagePathEvidence_inside
    {image : ImageView}
    (sections : SectionsInside image.sections region)
    (unknownMessage : Option UInt32) :
    StaysInside bytes region fun contents =>
      evaluateUnknownMessagePathEvidence image contents
        unknownMessage := by
  unfold evaluateUnknownMessagePathEvidence rvaToPtr
  cases found :
      findSection image kUnknownMessagePath kUnknownMessageEvidenceScanBytes
        IMAGE_SCN_MEM_EXECUTE with
  | none =>
      exact .const ({} : UnknownMessagePathEvidence)
  | some header =>
      have inside := section_inside sections found
      intro other agree
      have sameEvidence :=
        analyzeLocalCodeEvidence_inside inside other agree
      dsimp only [Option.map_some] at sameEvidence ⊢
      rw [sameEvidence]
      cases unknownMessage with
      | none =>
          rfl
      | some rva =>
          have sameSearch :=
            searchBytes_inside inside
              (LittleEndian.bytes32 (image.base + rva)) other agree
          dsimp only at sameSearch ⊢
          rw [sameSearch]

theorem validateMessagePath_inside
    {image : ImageView}
    (sections : SectionsInside image.sections region)
    {codeSection : ImageSectionHeader}
    (found :
      findSection image kDispatcherEntry 1 IMAGE_SCN_MEM_EXECUTE =
        some codeSection)
    (result : Result)
    (checks : List CheckStatus) :
    StaysInside bytes region fun contents =>
      validateMessagePath image contents codeSection result checks := by
  intro other agree
  have sameMessage :=
    findUnknownMessageString_inside sections other agree
  have samePath :=
    evaluateUnknownMessagePathEvidence_inside sections
      (findUnknownMessageString image bytes) other agree
  have sameCall := fun callRva =>
    validateDirectCall_inside sections callRva result.candidateAddress
      other agree
  have sameEpilogue :=
    hasRet10Epilogue_inside sections found other agree
  dsimp only at samePath sameCall sameEpilogue ⊢
  unfold validateMessagePath
  dsimp only
  rw [sameMessage, samePath, sameCall, sameCall, sameEpilogue]

/-- The discovery reads the headers of the module and its sections, and nothing
else: whatever other memory holds, the result is the same. -/
theorem discovery_reads_headers_and_sections
    (module : UInt32)
    (bytes : Nat → UInt8)
    (region : Nat → Prop)
    (headers : HeadersInside bytes region)
    (sections :
      ∀ nt, newHeaderOffset bytes = some nt →
        hasImageHeaders bytes nt = true →
          SectionsInside (sectionHeaders bytes nt) region) :
    StaysInside bytes region (validateCandidate module) := by
  intro other agree
  have sameView := buildImageView_inside headers module other agree
  unfold validateCandidate
  rw [sameView]
  cases view : buildImageView module bytes with
  | none =>
      rfl
  | some image =>
      obtain ⟨_, _, nt, foundOffset, areHeaders, built⟩ :=
        buildImageView_some view
      have inside : SectionsInside image.sections region := by
        rw [built]
        exact sections nt foundOffset areHeaders
      have sameShape := fun startRva requestedScanSize =>
        hasDispatchLikeLocalShape_inside inside startRva
          requestedScanSize other agree
      dsimp only at sameShape ⊢
      rw [sameShape, sameShape]
      cases found :
          findSection image kDispatcherEntry 1 IMAGE_SCN_MEM_EXECUTE with
      | none =>
          rfl
      | some codeSection =>
          have samePath := fun result checks =>
            validateMessagePath_inside inside found result checks other
              agree
          dsimp only at samePath ⊢
          rw [samePath]

/-! ## An image -/

/-- A module without contents: one executable section from `0x1000` to the end
of the image at `0x200000`. -/
def emptyImage (offset : Nat) : UInt8 :=
  if offset = 0x00 then 0x4d
  else if offset = 0x01 then 0x5a
  else if offset = 0x3c then 0x40
  else if offset = 0x40 then 0x50
  else if offset = 0x41 then 0x45
  else if offset = 0x46 then 0x01
  else if offset = 0x58 then 0x0b
  else if offset = 0x59 then 0x01
  else if offset = 0x61 then 0xf0
  else if offset = 0x62 then 0x1f
  else if offset = 0x65 then 0x10
  else if offset = 0x7f then 0x20
  else if offset = 0x92 then 0x20
  else 0x00

/-- The code at the dispatcher's place is scanned, and nothing is read between
the headers and the section or behind the image. -/
theorem discovery_reads_headers_and_sections_emptyImage :
    StaysInside emptyImage
        (fun offset => offset < 0x200 ∨ 0x1000 ≤ offset ∧ offset < 0x200000)
        (validateCandidate 0x400000) ∧
      (validateCandidate 0x400000 emptyImage).reason =
        "structural validation failed: candidate missing entry-adjacent dispatch evidence" := by
  have isOffset : newHeaderOffset emptyImage = some 0x40 := by decide
  have headers :
      HeadersInside emptyImage fun offset =>
        offset < 0x200 ∨ 0x1000 ≤ offset ∧ offset < 0x200000 :=
    { dos := fun offset isHeader => by omega
      nt := fun nt found offset isHeader => by
        rw [isOffset] at found
        cases found
        omega
      sectionTable := fun nt found offset isHeader => by
        rw [isOffset] at found
        cases found
        have isCount : readLe16 emptyImage (0x40 + 6) = 1 := by decide
        have isSize : readLe16 emptyImage (0x40 + 20) = 0 := by decide
        rw [isCount] at isHeader
        rw [isSize]
        unfold kSectionHeaderBytes at isHeader
        omega }
  refine
    ⟨discovery_reads_headers_and_sections 0x400000 emptyImage _ headers ?_,
      by decide +kernel⟩
  intro nt found areHeaders header member offset start isInside
  rw [isOffset] at found
  cases found
  have isSection :
      sectionHeaders emptyImage 0x40 =
        [⟨0x1ff000, 0x1000, 0, 0x20000000⟩] := by
    decide
  rw [isSection, List.mem_singleton] at member
  subst member
  have limit :
      ImageSectionHeader.limit ⟨0x1ff000, 0x1000, 0, 0x20000000⟩ =
        0x200000 := by
    decide
  rw [limit] at isInside
  exact .inr ⟨start, isInside⟩

end Footprints

end MonomythClient.ReceiveDispatchDiscovery
