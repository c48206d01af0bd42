import MonomythClient.SpellUsabilityEvidence

namespace MonomythClient.SpellUsabilityDiscovery

open FlatMemory Gates LittleEndian ModuleImages RelocatedBytes

/-!
# Calls inside pinned code

Some of the calls that are looked at lie inside the pinned beginning of another
target.  The pinned bytes, the RVAs of the calls and the RVAs of the targets
then have to agree, or a target could never be validated next to its caller.
They do: where the caller's bytes match, wherever the module was loaded, such a
call leads where it should.
-/

/-! ## Calls in matching bytes -/

section Calls

variable
  {image : ImageView}
  {bytes : Nat → UInt8}
  {rva : UInt32}
  {entry : PinnedTarget}

/-- An offset into matching bytes does not wrap around. -/
theorem toNat_offset
    (isMatch : bytesMatchAtRva image bytes rva entry = true)
    {offset : Nat}
    (inside : offset < entry.length) :
    (rva + UInt32.ofNat offset).toNat = rva.toNat + offset := by
  have fits := inside_of_bytesMatch isMatch
  have sizeBound := image.imageSize.toNat_lt
  rw [UInt32.toNat_add, UInt32.toNat_ofNat']
  omega

/-- The code from an offset on is the code behind the first place. -/
theorem codeAt_offset
    (isMatch : bytesMatchAtRva image bytes rva entry = true)
    {offset : Nat}
    (inside : offset < entry.length)
    (later : Nat) :
    codeAt bytes (rva + UInt32.ofNat offset) later =
      codeAt bytes rva (offset + later) := by
  unfold codeAt
  rw [toNat_offset isMatch inside, Nat.add_assoc]

/-- A pinned call at an offset: its bytes stay put, and it leads to an RVA. -/
structure PinnedCall
    (rva : UInt32)
    (entry : PinnedTarget)
    (offset : Nat)
    (calledRva : UInt32) : Prop where
  fits : offset + 5 ≤ entry.length
  opcode : entry.expected offset = 0xe8
  leads :
    rva + UInt32.ofNat offset + 5 + readLe32 entry.expected (offset + 1) =
      calledRva
  stays : ∀ later < 5, StaysPut entry (offset + later)

instance
    (rva : UInt32)
    (entry : PinnedTarget)
    (offset : Nat)
    (calledRva : UInt32) :
    Decidable (PinnedCall rva entry offset calledRva) :=
  decidable_of_iff
    (offset + 5 ≤ entry.length ∧
      entry.expected offset = 0xe8 ∧
      rva + UInt32.ofNat offset + 5 +
          readLe32 entry.expected (offset + 1) =
        calledRva ∧
      ∀ later < 5, StaysPut entry (offset + later))
    ⟨fun parts => ⟨parts.1, parts.2.1, parts.2.2.1, parts.2.2.2⟩,
      fun call => ⟨call.fits, call.opcode, call.leads, call.stays⟩⟩

/-- Where the bytes match, a pinned call leads where it was pinned to. -/
theorem PinnedCall.callAtRvaTargets
    {offset : Nat}
    {calledRva : UInt32}
    (call : PinnedCall rva entry offset calledRva)
    (isMatch : bytesMatchAtRva image bytes rva entry = true) :
    callAtRvaTargets image bytes (rva + UInt32.ofNat offset)
        (image.base + calledRva) =
      true := by
  have fits := call.fits
  have inside : offset < entry.length := by omega
  have sameByte : ∀ later < 5,
      codeAt bytes (rva + UInt32.ofNat offset) later =
        entry.expected (offset + later) := by
    intro later isByte
    rw [codeAt_offset isMatch inside]
    exact byte_of_bytesMatch isMatch (by omega) (call.stays later isByte)
  have inImage :
      isRangeWithinImage image (rva + UInt32.ofNat offset) 5 = true := by
    have whole := inside_of_bytesMatch isMatch
    have place := toNat_offset isMatch inside
    unfold isRangeWithinImage
    have isSize : ¬ image.imageSize = 0 := by
      intro empty
      rw [empty, UInt32.toNat_zero] at whole
      omega
    have isBelow : ¬ image.imageSize ≤ rva + UInt32.ofNat offset := by
      rw [UInt32.not_le, UInt32.lt_iff_toNat_lt, place]
      omega
    rw [if_neg (not_or.mpr ⟨isSize, isBelow⟩), place, decide_eq_true_eq]
    omega
  have sameOperand :
      readLe32 (codeAt bytes (rva + UInt32.ofNat offset)) 1 =
        readLe32 entry.expected (offset + 1) := by
    unfold readLe32
    rw [sameByte 1 (by decide), sameByte 2 (by decide),
      sameByte 3 (by decide), sameByte 4 (by decide)]
  unfold SpellUsabilityDiscovery.callAtRvaTargets
  rw [inImage, sameByte 0 (by decide), Nat.add_zero, call.opcode,
    sameOperand, ← call.leads]
  simp only [Bool.not_true, bne_self_eq_false, Bool.false_eq_true, if_false,
    beq_iff_eq, UInt32.add_assoc]

end Calls

/-! ## The pinned calls -/

/-- Every target. -/
def Target.all : List Target :=
  [ .handleRbuttonUp,
    .getSpellLevelNeeded,
    .isClassUsablePredicate,
    .canEquip,
    .invSlotMgrMoveItem,
    .spellbookDispatcher,
    .startSpellScribePath,
    .startSpellScribePrecheckModeGetter,
    .startSpellScribePrecheckGate,
    .startSpellScribePrecheckLookup,
    .startSpellScribePrecheckFastAccept,
    .startSpellScribePrecheckClassResolver,
    .startSpellScribePrecheckAssignedMaskGetter,
    .startSpellScribePrecheckRule4462c0,
    .startSpellScribePrecheckRule446190,
    .startSpellScribePrecheckRule446200,
    .startSpellScribePrecheckRule446380,
    .canStartMemming,
    .spellbookMemorizeSendPath,
    .startSpellMemorizationPath,
    .memorizeSendPacketWrapper ]

theorem Target.mem_all (target : Target) : target ∈ Target.all := by
  cases target <;> decide

/-- The place and the pinned beginning of a target. -/
def Wanted.entry : Wanted → Option (UInt32 × PinnedTarget)
  | .pinned rva entry => some (rva, entry)
  | .called _ rva entry _ => some (rva, entry)
  | .exported => none

/-- The calls that a target needs. -/
def Wanted.calls : Wanted → List (UInt32 × UInt32)
  | .called _ _ _ calls => calls
  | _ => []

/-- A call lies in the pinned code at an RVA. -/
def LiesIn (place : UInt32 × PinnedTarget) (callRva : UInt32) : Prop :=
  place.1.toNat ≤ callRva.toNat ∧
    callRva.toNat + 5 ≤ place.1.toNat + place.2.length

instance (place : UInt32 × PinnedTarget) (callRva : UInt32) :
    Decidable (LiesIn place callRva) :=
  inferInstanceAs (Decidable (_ ∧ _))

/-- The calls of a target that lie in some code are pinned calls of it. -/
def Wanted.agreesWith
    (place : UInt32 × PinnedTarget)
    (wanted : Wanted) : Bool :=
  wanted.calls.all fun call =>
    !decide (LiesIn place call.1) ||
      decide
        (PinnedCall place.1 place.2 (call.1.toNat - place.1.toNat) call.2)

/-- The pinned calls agree with the pinned code of every target. -/
theorem wanted_agrees :
    (Target.all.all fun caller =>
        (wanted caller).entry.all fun place =>
          Target.all.all fun callee => (wanted callee).agreesWith place) =
      true := by
  decide +kernel

/-- So a call that lies in pinned code is a pinned call of it. -/
theorem pinnedCall_of_liesIn
    {caller callee : Target}
    {place : UInt32 × PinnedTarget}
    (isPlace : (wanted caller).entry = some place)
    {call : UInt32 × UInt32}
    (isCall : call ∈ (wanted callee).calls)
    (inside : LiesIn place call.1) :
    PinnedCall place.1 place.2 (call.1.toNat - place.1.toNat) call.2 := by
  have ofCaller := List.all_eq_true.mp wanted_agrees caller caller.mem_all
  rw [isPlace, Option.all_some] at ofCaller
  have ofCallee := List.all_eq_true.mp ofCaller callee callee.mem_all
  have agrees := List.all_eq_true.mp ofCallee call isCall
  rw [decide_eq_true inside, Bool.not_true, Bool.false_or] at agrees
  exact of_decide_eq_true agrees

/-- A call that lies in matching code leads where it should. -/
theorem call_of_liesIn
    {image : ImageView}
    {bytes : Nat → UInt8}
    {caller callee : Target}
    {place : UInt32 × PinnedTarget}
    (isPlace : (wanted caller).entry = some place)
    {call : UInt32 × UInt32}
    (isCall : call ∈ (wanted callee).calls)
    (inside : LiesIn place call.1)
    (isMatch : bytesMatchAtRva image bytes place.1 place.2 = true) :
    callAtRvaTargets image bytes call.1 (image.base + call.2) = true := by
  have pinned := pinnedCall_of_liesIn isPlace isCall inside
  have leads := pinned.callAtRvaTargets isMatch
  have samePlace :
      place.1 + UInt32.ofNat (call.1.toNat - place.1.toNat) = call.1 := by
    have behind := inside.1
    have bound := call.1.toNat_lt
    rw [← UInt32.toNat_inj, UInt32.toNat_add, UInt32.toNat_ofNat']
    omega
  rw [samePlace] at leads
  exact leads

/-! ## Targets next to their callers -/

/-- The calls of a target that do not lie in some pinned code. -/
def Wanted.callsOutside
    (place : UInt32 × PinnedTarget) :
    Wanted → Wanted
  | .called fingerprinted rva entry calls =>
      .called fingerprinted rva entry
        (calls.filter fun call => !decide (LiesIn place call.1))
  | other => other

/-- Calls that lie in matching code need not be looked at. -/
theorem callsLead_filter
    {image : ImageView}
    {host : Host}
    {place : UInt32 × PinnedTarget}
    {calls : List (UInt32 × UInt32)}
    (lead :
      ∀ call ∈ calls,
        LiesIn place call.1 →
          callAtRvaTargets image host.bytes call.1 (image.base + call.2) =
            true) :
    callsLead image host
        (calls.filter fun call => !decide (LiesIn place call.1)) =
      callsLead image host calls := by
  unfold callsLead
  rw [List.all_filter, Bool.eq_iff_iff, List.all_eq_true, List.all_eq_true]
  constructor
  · intro others call member
    by_cases inside : LiesIn place call.1
    · exact lead call member inside
    · have leads := others call member
      rw [decide_eq_false inside] at leads
      exact leads
  · intro all call member
    rw [all call member, Bool.or_true]

/-- Nor do they change the gates of a target. -/
theorem gates_callsOutside
    {image : ImageView}
    {host : Host}
    {caller callee : Target}
    {place : UInt32 × PinnedTarget}
    (isPlace : (wanted caller).entry = some place)
    (isMatch : bytesMatchAtRva image host.bytes place.1 place.2 = true) :
    ((wanted callee).callsOutside place).gates image host =
      (wanted callee).gates image host := by
  have lead : ∀ call ∈ (wanted callee).calls,
      LiesIn place call.1 →
        callAtRvaTargets image host.bytes call.1 (image.base + call.2) =
          true :=
    fun call isCall inside => call_of_liesIn isPlace isCall inside isMatch
  cases isWanted : wanted callee with
  | pinned rva entry =>
      rfl
  | exported =>
      rfl
  | called fingerprinted rva entry calls =>
      rw [isWanted] at lead
      have same := callsLead_filter lead
      simp only [Wanted.calls] at same
      simp only [Wanted.callsOutside, Wanted.gates, same]

/-- An image with one section that has the pinned precheck gate in it. -/
def gateImage (offset : Nat) : UInt8 :=
  if offset = 0x00 then 0x4d
  else if offset = 0x01 then 0x5a
  else if offset = 0x3c then 0x40
  else if offset = 0x40 then 0x50
  else if offset = 0x41 then 0x45
  else if offset = 0x46 then 0x01
  else if offset = 0x58 then 0x0b
  else if offset = 0x59 then 0x01
  else if offset = 0x92 then 0x05
  else if 0x4c430 ≤ offset then
    kStartSpellScribePrecheckGateEntryBytes.expected (offset - 0x4c430)
  else 0x00

/-- The view of it. -/
def gateView : ImageView where
  base := 0x400000
  sections := [⟨0, 0, 0, 0⟩]
  imageSize := 0x50000

/-- A host with this image, and no file. -/
def gateHost : Host where
  module := 0x400000
  bytes := gateImage
  moveItemExport := 0
  processPath := ""
  file :=
    { opened := false
      chunks := []
      fails := false
      sizes := by decide
      short := by decide }

/-- There is no other call that the fast accept needs. -/
example :
    (wanted .startSpellScribePrecheckFastAccept).callsOutside
        (kStartSpellScribePrecheckGateRva,
          kStartSpellScribePrecheckGateEntryBytes) =
      .called true kStartSpellScribePrecheckFastAcceptRva
        kStartSpellScribePrecheckFastAcceptEntryBytes [] := by
  decide +kernel

end MonomythClient.SpellUsabilityDiscovery
