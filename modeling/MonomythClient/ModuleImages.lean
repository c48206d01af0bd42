import MonomythClient.ReadFootprints
import MonomythClient.RelocatedBytes

namespace MonomythClient.ModuleImages

open FlatMemory ReadFootprints RelocatedBytes

/-!
# Images of modules

The discoveries read the headers of the host module where it is loaded: the
sections of its image, and the image's size.  An offset into the image, an RVA,
is looked up among the sections.  The module's memory is given by RVA.  What is
read lies in the headers and in the sections.
-/

/-! ## Headers -/

/-- `IMAGE_SECTION_HEADER`, as far as it is read. -/
structure ImageSectionHeader where
  virtualSize : UInt32
  virtualAddress : UInt32
  sizeOfRawData : UInt32
  characteristics : UInt32
  deriving Repr, DecidableEq

/-- `ImageView`, without the pointers to the headers. -/
structure ImageView where
  base : UInt32
  sections : List ImageSectionHeader
  imageSize : UInt32
  deriving Repr, DecidableEq

def IMAGE_DOS_SIGNATURE : Nat := 0x5a4d
def IMAGE_NT_SIGNATURE : UInt32 := 0x00004550
def IMAGE_NT_OPTIONAL_HDR_MAGIC : Nat := 0x10b
def IMAGE_SCN_MEM_EXECUTE : UInt32 := 0x20000000
def IMAGE_SCN_MEM_READ : UInt32 := 0x40000000

/-- The size of a section header. -/
def kSectionHeaderBytes : Nat := 40

/-- A `WORD` in memory. -/
def readLe16 (bytes : Nat → UInt8) (offset : Nat) : Nat :=
  (bytes offset).toNat + 256 * (bytes (offset + 1)).toNat

/-- `IMAGE_DOS_HEADER::e_lfanew`, if it is positive. -/
def newHeaderOffset (bytes : Nat → UInt8) : Option Nat :=
  let lfanew := readLe32 bytes 0x3c
  if lfanew = 0 ∨ 0x80000000 ≤ lfanew then none else some lfanew.toNat

/-- A section header. -/
def sectionAt (bytes : Nat → UInt8) (offset : Nat) : ImageSectionHeader where
  virtualSize := readLe32 bytes (offset + 8)
  virtualAddress := readLe32 bytes (offset + 12)
  sizeOfRawData := readLe32 bytes (offset + 16)
  characteristics := readLe32 bytes (offset + 36)

/-- The signatures and the number of sections are right. -/
def hasImageHeaders (bytes : Nat → UInt8) (nt : Nat) : Bool :=
  readLe32 bytes nt == IMAGE_NT_SIGNATURE &&
    readLe16 bytes (nt + 24) == IMAGE_NT_OPTIONAL_HDR_MAGIC &&
    readLe16 bytes (nt + 6) != 0

/-- The sections behind the headers, `IMAGE_FIRST_SECTION` and those after. -/
def sectionHeaders
    (bytes : Nat → UInt8)
    (nt : Nat) :
    List ImageSectionHeader :=
  (List.range (readLe16 bytes (nt + 6))).map fun index =>
    sectionAt bytes
      (nt + 24 + readLe16 bytes (nt + 20) + kSectionHeaderBytes * index)

/-- `BuildImageView`; without a module its base is null. -/
def buildImageView
    (module : UInt32)
    (bytes : Nat → UInt8) :
    Option ImageView :=
  if module = 0 then
    none
  else if readLe16 bytes 0 ≠ IMAGE_DOS_SIGNATURE then
    none
  else
    match newHeaderOffset bytes with
    | none => none
    | some nt =>
        if hasImageHeaders bytes nt then
          some
            { base := module
              sections := sectionHeaders bytes nt
              imageSize := readLe32 bytes (nt + 80) }
        else
          none

/-- A view that was built shows what the headers say. -/
theorem buildImageView_some
    {module : UInt32}
    {bytes : Nat → UInt8}
    {image : ImageView}
    (built : buildImageView module bytes = some image) :
    module ≠ 0 ∧
      readLe16 bytes 0 = IMAGE_DOS_SIGNATURE ∧
      ∃ nt,
        newHeaderOffset bytes = some nt ∧
          hasImageHeaders bytes nt = true ∧
          image =
            { base := module
              sections := sectionHeaders bytes nt
              imageSize := readLe32 bytes (nt + 80) } := by
  unfold buildImageView at built
  split at built
  · cases built
  · rename_i isModule
    split at built
    · cases built
    · rename_i isDos
      split at built
      · cases built
      · rename_i nt foundOffset
        split at built
        · rename_i areHeaders
          cases built
          exact
            ⟨isModule, not_not.mp isDos, nt, foundOffset, areHeaders, rfl⟩
        · cases built

/-! ## Sections -/

/-- `IsRangeWithinImage` -/
def isRangeWithinImage
    (image : ImageView)
    (rva : UInt32)
    (length : Nat) : Bool :=
  if image.imageSize = 0 ∨ image.imageSize ≤ rva then
    false
  else
    decide (rva.toNat + length ≤ image.imageSize.toNat)

/-- One byte is in the image if its RVA is below the image's size. -/
theorem isRangeWithinImage_one_iff
    {image : ImageView}
    {rva : UInt32} :
    isRangeWithinImage image rva 1 = true ↔
      rva.toNat < image.imageSize.toNat := by
  unfold isRangeWithinImage
  constructor
  · intro inside
    split at inside
    · cases inside
    · exact of_decide_eq_true inside
  · intro inImage
    have isSize : ¬ image.imageSize = 0 := by
      intro empty
      rw [empty] at inImage
      exact Nat.not_lt_zero _ inImage
    rw [if_neg (not_or.mpr ⟨isSize, UInt32.not_le.mpr inImage⟩)]
    exact decide_eq_true inImage

/-- `SectionSpan` -/
def sectionSpan (header : ImageSectionHeader) : UInt32 :=
  if header.virtualSize < header.sizeOfRawData then
    header.sizeOfRawData
  else
    header.virtualSize

/-- `SectionContains` -/
def sectionContains
    (header : ImageSectionHeader)
    (rva : UInt32)
    (length : Nat) : Bool :=
  let span := sectionSpan header
  if span = 0 ∨ rva < header.virtualAddress then
    false
  else
    let offset := rva - header.virtualAddress
    decide (offset ≤ span) && decide (length ≤ (span - offset).toNat)

/-- `FindSection` -/
def findSection
    (image : ImageView)
    (rva : UInt32)
    (length : Nat)
    (requiredCharacteristics : UInt32) :
    Option ImageSectionHeader :=
  image.sections.find? fun header =>
    header.characteristics &&& requiredCharacteristics ==
        requiredCharacteristics &&
      sectionContains header rva length

/-- `SearchBytes`: the first place of a needle. -/
def searchBytes
    (haystack : Nat → UInt8)
    (haystackSize : Nat)
    (needle : List UInt8) :
    Option Nat :=
  if needle = [] ∨ haystackSize < needle.length then
    none
  else
    (List.range (haystackSize - needle.length + 1)).find? fun index =>
      sameBytes (fun later => haystack (index + later))
        (needle.getD · 0) needle.length

/-- The bytes from an RVA on. -/
def codeAt (bytes : Nat → UInt8) (rva : UInt32) : Nat → UInt8 :=
  fun offset => bytes (rva.toNat + offset)

/-! ## Containment -/

/-- Where a section ends, if it does not wrap around. -/
def ImageSectionHeader.limit (header : ImageSectionHeader) : Nat :=
  header.virtualAddress.toNat + (sectionSpan header).toNat

/-- A section contains a range from its address to its limit. -/
theorem sectionContains_iff
    {header : ImageSectionHeader}
    {rva : UInt32}
    {length : Nat}
    (holds : sectionContains header rva length = true) :
    header.virtualAddress.toNat ≤ rva.toNat ∧
      rva.toNat + length ≤ header.limit := by
  unfold sectionContains at holds
  simp only at holds
  split at holds
  · cases holds
  · rename_i placed
    simp only [not_or, UInt32.not_lt] at placed
    simp only [Bool.and_eq_true, decide_eq_true_eq] at holds
    have start : header.virtualAddress.toNat ≤ rva.toNat := placed.2
    have offset :
        (rva - header.virtualAddress).toNat =
          rva.toNat - header.virtualAddress.toNat :=
      UInt32.toNat_sub_of_le _ _ placed.2
    have rest :
        (sectionSpan header - (rva - header.virtualAddress)).toNat =
          (sectionSpan header).toNat -
            (rva - header.virtualAddress).toNat :=
      UInt32.toNat_sub_of_le _ _ holds.1
    have inside :
        (rva - header.virtualAddress).toNat ≤
          (sectionSpan header).toNat :=
      holds.1
    have fits := holds.2
    rw [rest, offset] at fits
    rw [offset] at inside
    unfold ImageSectionHeader.limit
    omega

/-- It contains each such range, if there is a byte in it. -/
theorem sectionContains_eq_true_iff
    {header : ImageSectionHeader}
    {rva : UInt32}
    {length : Nat}
    (isLength : 0 < length) :
    sectionContains header rva length = true ↔
      header.virtualAddress.toNat ≤ rva.toNat ∧
        rva.toNat + length ≤ header.limit := by
  constructor
  · exact sectionContains_iff
  · rintro ⟨start, fits⟩
    unfold ImageSectionHeader.limit at fits
    have isAfter : header.virtualAddress ≤ rva := start
    have offset :
        (rva - header.virtualAddress).toNat =
          rva.toNat - header.virtualAddress.toNat :=
      UInt32.toNat_sub_of_le _ _ isAfter
    have inside : rva - header.virtualAddress ≤ sectionSpan header := by
      rw [UInt32.le_iff_toNat_le, offset]
      omega
    have isSpan : ¬ sectionSpan header = 0 := by
      intro empty
      rw [empty] at fits
      simp only [UInt32.toNat_zero, Nat.add_zero] at fits
      omega
    unfold sectionContains
    rw [if_neg (not_or.mpr ⟨isSpan, UInt32.not_lt.mpr isAfter⟩)]
    simp only [Bool.and_eq_true, decide_eq_true_eq]
    refine ⟨inside, ?_⟩
    rw [UInt32.toNat_sub_of_le _ _ inside, offset]
    omega

/-- A section that was found contains the range. -/
theorem findSection_some
    {image : ImageView}
    {rva requiredCharacteristics : UInt32}
    {length : Nat}
    {header : ImageSectionHeader}
    (found :
      findSection image rva length requiredCharacteristics = some header) :
    header ∈ image.sections ∧
      header.characteristics &&& requiredCharacteristics =
        requiredCharacteristics ∧
      header.virtualAddress.toNat ≤ rva.toNat ∧
        rva.toNat + length ≤ header.limit := by
  have selected := List.find?_some found
  simp only [Bool.and_eq_true, beq_iff_eq] at selected
  exact ⟨List.mem_of_find?_eq_some found, selected.1,
    sectionContains_iff selected.2⟩

/-- A search finds the needle if it is there. -/
theorem searchBytes_isSome_iff
    {haystack : Nat → UInt8}
    {haystackSize : Nat}
    {needle : List UInt8}
    (isNeedle : needle ≠ []) :
    (searchBytes haystack haystackSize needle).isSome = true ↔
      ∃ index,
        index + needle.length ≤ haystackSize ∧
          sameBytes (fun later => haystack (index + later))
            (needle.getD · 0) needle.length = true := by
  unfold searchBytes
  by_cases isShort : haystackSize < needle.length
  · rw [if_pos (.inr isShort)]
    constructor
    · intro impossible
      cases impossible
    · rintro ⟨index, fits, _⟩
      omega
  · rw [if_neg (not_or.mpr ⟨isNeedle, isShort⟩), List.find?_isSome]
    apply exists_congr
    intro index
    rw [List.mem_range]
    apply and_congr_left
    intro _
    omega

/-! ## Executable places -/

/-- A place is executed: it does not wrap around, and a section has it. -/
def ExecutableAt (image : ImageView) (rva : UInt32) : Prop :=
  image.base.toNat + rva.toNat < 2 ^ 32 ∧
    ∃ header ∈ image.sections,
      header.characteristics &&& IMAGE_SCN_MEM_EXECUTE =
          IMAGE_SCN_MEM_EXECUTE ∧
        header.virtualAddress.toNat ≤ rva.toNat ∧
          rva.toNat + 1 ≤ header.limit

instance (image : ImageView) (rva : UInt32) :
    Decidable (ExecutableAt image rva) :=
  inferInstanceAs (Decidable (_ ∧ ∃ header ∈ image.sections, _))

/-- A section is found when one contains the range. -/
theorem findSection_isSome_iff
    {image : ImageView}
    {rva : UInt32} :
    (findSection image rva 1 IMAGE_SCN_MEM_EXECUTE).isSome = true ↔
      ∃ header ∈ image.sections,
        header.characteristics &&& IMAGE_SCN_MEM_EXECUTE =
            IMAGE_SCN_MEM_EXECUTE ∧
          header.virtualAddress.toNat ≤ rva.toNat ∧
            rva.toNat + 1 ≤ header.limit := by
  unfold findSection
  rw [List.find?_isSome]
  apply exists_congr
  intro header
  rw [Bool.and_eq_true, beq_iff_eq,
    sectionContains_eq_true_iff Nat.zero_lt_one]

/-- An address wraps around when it is below its base. -/
theorem add_lt_iff (base rva : UInt32) :
    base + rva < base ↔ 2 ^ 32 ≤ base.toNat + rva.toNat := by
  have baseBound := base.toNat_lt
  have rvaBound := rva.toNat_lt
  rw [UInt32.lt_iff_toNat_lt, UInt32.toNat_add]
  omega

theorem add_sub_base (base rva : UInt32) : base + rva - base = rva := by
  rw [UInt32.add_comm, UInt32.add_sub_cancel]

/-! ## What is read -/

section Footprints

variable
  {bytes : Nat → UInt8}
  {region : Nat → Prop}

theorem readLe16_inside
    {offset : Nat}
    (inside : ∀ index, index < 2 → region (offset + index)) :
    StaysInside bytes region fun contents => readLe16 contents offset :=
  (StaysInside.read (inside 0 (by decide))).map₂
    (StaysInside.read (inside 1 (by decide)))
    fun low high : UInt8 => low.toNat + 256 * high.toNat

theorem readLe32_inside
    {offset : Nat}
    (inside : ∀ index, index < 4 → region (offset + index)) :
    StaysInside bytes region fun contents => readLe32 contents offset := by
  intro other agree
  have first : other offset = bytes offset :=
    agree (offset + 0) (inside 0 (by decide))
  dsimp only
  unfold readLe32
  rw [first, agree _ (inside 1 (by decide)), agree _ (inside 2 (by decide)),
    agree _ (inside 3 (by decide))]

/-- A search reads the bytes it searches. -/
theorem searchBytes_inside
    {rva : UInt32}
    {haystackSize : Nat}
    (inside : ∀ index, index < haystackSize → region (rva.toNat + index))
    (needle : List UInt8) :
    StaysInside bytes region fun contents =>
      searchBytes (codeAt contents rva) haystackSize needle := by
  unfold searchBytes
  by_cases hopeless : needle = [] ∨ haystackSize < needle.length
  · simp only [if_pos hopeless]
    exact .const none
  · simp only [if_neg hopeless]
    apply StaysInside.find
    intro index member other agree
    have inRange := List.mem_range.mp member
    simp only [not_or, not_lt] at hopeless
    dsimp only
    rw [Bool.eq_iff_iff, sameBytes_iff, sameBytes_iff]
    have sameByte : ∀ later < needle.length,
        codeAt other rva (index + later) =
          codeAt bytes rva (index + later) := by
      intro later isLater
      apply agree
      exact inside (index + later) (by omega)
    constructor
    · intro same later isLater
      rw [← sameByte later isLater]
      exact same later isLater
    · intro same later isLater
      rw [sameByte later isLater]
      exact same later isLater

/-- The headers of the module in memory lie in the region. -/
structure HeadersInside
    (bytes : Nat → UInt8)
    (region : Nat → Prop) : Prop where
  dos : ∀ offset < 0x40, region offset
  nt : ∀ nt, newHeaderOffset bytes = some nt →
    ∀ offset < 84, region (nt + offset)
  sectionTable : ∀ nt, newHeaderOffset bytes = some nt →
    ∀ offset < kSectionHeaderBytes * readLe16 bytes (nt + 6),
      region (nt + 24 + readLe16 bytes (nt + 20) + offset)

theorem newHeaderOffset_inside
    (headers : HeadersInside bytes region) :
    StaysInside bytes region newHeaderOffset :=
  (readLe32_inside fun index isIndex =>
      headers.dos (0x3c + index) (by omega)).map
    fun lfanew =>
      if lfanew = 0 ∨ 0x80000000 ≤ lfanew then none else some lfanew.toNat

/-- Building the view reads only headers. -/
theorem buildImageView_inside
    (headers : HeadersInside bytes region)
    (module : UInt32) :
    StaysInside bytes region (buildImageView module) := by
  intro other agree
  have sameMagic : readLe16 other 0 = readLe16 bytes 0 :=
    readLe16_inside (fun index isIndex =>
      headers.dos (0 + index) (by omega)) other agree
  have sameOffset := newHeaderOffset_inside headers other agree
  unfold buildImageView
  rw [sameMagic, sameOffset]
  split
  · rfl
  · split
    · rfl
    · cases found : newHeaderOffset bytes with
      | none =>
          rfl
      | some nt =>
          have inNt := headers.nt nt found
          have word : ∀ offset, offset + 4 ≤ 84 →
              readLe32 other (nt + offset) = readLe32 bytes (nt + offset) :=
            fun offset fits =>
              readLe32_inside (fun index isIndex => by
                rw [Nat.add_assoc]
                exact inNt (offset + index) (by omega)) other agree
          have half : ∀ offset, offset + 2 ≤ 84 →
              readLe16 other (nt + offset) = readLe16 bytes (nt + offset) :=
            fun offset fits =>
              readLe16_inside (fun index isIndex => by
                rw [Nat.add_assoc]
                exact inNt (offset + index) (by omega)) other agree
          have sameHeaders :
              hasImageHeaders other nt = hasImageHeaders bytes nt := by
            unfold hasImageHeaders
            rw [half 24 (by decide), half 6 (by decide)]
            have signature := word 0 (by decide)
            rw [Nat.add_zero] at signature
            rw [signature]
          have sameSections :
              sectionHeaders other nt = sectionHeaders bytes nt := by
            unfold sectionHeaders
            rw [half 6 (by decide), half 20 (by decide)]
            apply List.map_congr_left
            intro index member
            have isIndex := List.mem_range.mp member
            have inTable := headers.sectionTable nt found
            have field : ∀ offset, offset + 4 ≤ kSectionHeaderBytes →
                readLe32 other
                    (nt + 24 + readLe16 bytes (nt + 20) +
                        kSectionHeaderBytes * index + offset) =
                  readLe32 bytes
                    (nt + 24 + readLe16 bytes (nt + 20) +
                        kSectionHeaderBytes * index + offset) := by
              intro offset fits
              apply readLe32_inside _ other agree
              intro position isPosition
              rw [Nat.add_assoc, Nat.add_assoc]
              apply inTable
              have isBelow :
                  kSectionHeaderBytes * (index + 1) ≤
                    kSectionHeaderBytes * readLe16 bytes (nt + 6) :=
                Nat.mul_le_mul_left _ isIndex
              rw [Nat.mul_succ] at isBelow
              omega
            unfold sectionAt
            rw [field 8 (by decide), field 12 (by decide),
              field 16 (by decide), field 36 (by decide)]
          dsimp only
          rw [sameHeaders, sameSections, word 80 (by decide)]

end Footprints

end MonomythClient.ModuleImages
