import MonomythClient.BoundedWalks
import MonomythClient.PatchConfinement
import MonomythClient.RelocatedBytes

namespace MonomythClient.JumpThunks

open BoundedWalks FlatMemory HookManager LittleEndian PayloadReader
open RelocatedBytes

/-!
# Jump thunks

A hot-patch thunk is a prologue without effect and a relative jump behind it,
eleven bytes in all.  Two parts of the client follow such thunks to the code
behind them.  The hook manager starts at an address and copies bytes with a
guard against faults.  The spell usability discovery starts inside the image
of a module and reads the image as it is, where an unreadable byte faults.
Both give up after two hops.
-/

/-- The number of hops that are followed. -/
def kHopLimit : Nat := 2

/-! ## The hook manager -/

def kThunkPrefixLength : Nat := 8

/-- The last byte is only there to fill the array. -/
def kHotpatchJumpThunkPrefix : List UInt8 :=
  [0x8B, 0xFF, 0x55, 0x8B, 0xEC, 0x5D, 0xE9, 0x00]

structure JumpThunkResolution where
  terminalTarget : UInt32 := 0
  hopCount : UInt32 := 0
  resolved : Bool := false
  deriving DecidableEq

/-- `TryResolveRelativeJumpTarget` -/
def tryResolveRelativeJumpTarget
    (system : System)
    (memory : Bytes)
    (instructionAddress : UInt32) : Option UInt32 :=
  if instructionAddress = 0 then
    none
  else
    match tryCopyBytes system memory instructionAddress 5 with
    | none => none
    | some bytes =>
        if bytes 0 ≠ 0xE9 then
          none
        else
          some (instructionAddress + 5 + readLe32 bytes 1)

/-- The copied bytes do not begin a thunk. -/
def differsFromThunk (bytes : Nat → UInt8) : Bool :=
  sameBytes bytes (kHotpatchJumpThunkPrefix.getD · 0)
      (kHotpatchJumpThunkPrefix.length - 1) = false ∨
    bytes 6 ≠ 0xE9

/-- The loop of `ResolveJumpThunkTarget`, with the passes that remain. -/
def followJumpThunks
    (system : System)
    (memory : Bytes) :
    Nat → UInt32 → UInt32 → JumpThunkResolution → JumpThunkResolution
  | 0, _, _, resolution => resolution
  | remaining + 1, hop, current, resolution =>
      match tryCopyBytes system memory current kThunkPrefixLength with
      | none => resolution
      | some bytes =>
          if differsFromThunk bytes then
            if 0 < hop then
              { terminalTarget := current, hopCount := hop, resolved := true }
            else
              resolution
          else
            match
              tryResolveRelativeJumpTarget system memory (current + 6)
            with
            | none => resolution
            | some jumpTarget =>
                followJumpThunks system memory remaining (hop + 1) jumpTarget
                  { terminalTarget := jumpTarget
                    hopCount := hop + 1
                    resolved := true }

/-- `ResolveJumpThunkTarget` -/
def resolveJumpThunkTarget
    (system : System)
    (memory : Bytes)
    (targetAddress : UInt32) : JumpThunkResolution :=
  if targetAddress = 0 then
    {}
  else
    followJumpThunks system memory kHopLimit 0 targetAddress {}

/-! ## The spell usability discovery -/

structure ImageView where
  base : UInt32
  imageSize : UInt32

/-- A module that is loaded: at an address, and it does not wrap around. -/
structure ModuleImage extends ImageView where
  base_ne_zero : base ≠ 0
  fits : base.toNat + imageSize.toNat ≤ 2 ^ 32

/-- `IsRvaWithinImage` -/
def isRvaWithinImage
    (image : ImageView)
    (rva : UInt32)
    (length : Nat) : Bool :=
  if image.imageSize = 0 ∨ image.imageSize ≤ rva then
    false
  else
    rva.toNat + length ≤ image.imageSize.toNat

/-- The code of an image at an offset. -/
def ImageView.code
    (image : ImageView)
    (system : System)
    (memory : Bytes)
    (rva : UInt32) : Memory :=
  system.view memory (image.base + rva)

/--
`ResolveJumpTargetAtRva`: a fault, or the target if there is a jump.

The opcode is handed back as well, but its caller does not look at it.
-/
def resolveJumpTargetAtRva
    (system : System)
    (memory : Bytes)
    (image : ImageView)
    (jumpRva : UInt32) : Option (Option UInt32) :=
  if isRvaWithinImage image jumpRva 5 then do
    let opcode ← image.code system memory jumpRva 0
    if opcode ≠ 0xE9 then
      return none
    else
      let relative ← loadBytes (image.code system memory jumpRva) 4 1
      return some
        (image.base + jumpRva + 5 + UInt32.ofNat (value relative))
  else
    some none

/-- Bytes compared one after another, up to the first that differs. -/
def codeBegins (code : Memory) : Nat → List UInt8 → Option Bool
  | _, [] => some true
  | offset, expected :: rest => do
      let byte ← code offset
      if byte = expected then
        codeBegins code (offset + 1) rest
      else
        return false

/-- `IsHotpatchJumpThunkShapeAtRva` -/
def isHotpatchJumpThunkShapeAtRva
    (system : System)
    (memory : Bytes)
    (image : ImageView)
    (thunkRva : UInt32) : Option Bool :=
  if isRvaWithinImage image thunkRva 11 then
    codeBegins (image.code system memory thunkRva) 0
      [0x8B, 0xFF, 0x55, 0x8B, 0xEC, 0x5D, 0xE9]
  else
    some false

/-- What `ResolveHotpatchThunkTerminalTarget` hands back, and its result. -/
structure HotpatchThunkTarget where
  firstTarget : UInt32 := 0
  terminalTarget : UInt32 := 0
  hopCount : UInt32 := 0
  resolved : Bool := false
  deriving DecidableEq

/-- The loop, with the passes that remain. -/
def followHotpatchThunks
    (system : System)
    (memory : Bytes)
    (image : ImageView) :
    Nat → UInt32 → UInt32 → HotpatchThunkTarget → Option HotpatchThunkTarget
  | 0, _, _, found => some { found with resolved := true }
  | remaining + 1, hop, currentThunkRva, found => do
      match ←
        resolveJumpTargetAtRva system memory image (currentThunkRva + 6)
      with
      | none => return { found with resolved := hop ≠ 0 }
      | some jumpTarget =>
          let arrived : HotpatchThunkTarget :=
            { firstTarget := if hop = 0 then jumpTarget else found.firstTarget
              terminalTarget := jumpTarget
              hopCount := hop + 1
              resolved := true }
          if jumpTarget < image.base then
            return arrived
          else if ←
            isHotpatchJumpThunkShapeAtRva system memory image
              (jumpTarget - image.base)
          then
            followHotpatchThunks system memory image remaining (hop + 1)
              (jumpTarget - image.base) arrived
          else
            return arrived

/--
`ResolveHotpatchThunkTerminalTarget`, with all of its outputs asked for; the
outputs are null first.
-/
def resolveHotpatchThunkTerminalTarget
    (system : System)
    (memory : Bytes)
    (image : ImageView)
    (thunkRva : UInt32) : Option HotpatchThunkTarget := do
  if ← isHotpatchJumpThunkShapeAtRva system memory image thunkRva then
    followHotpatchThunks system memory image kHopLimit 0 thunkRva {}
  else
    return {}

/-- An offset within the image, with some bytes behind it. -/
theorem isRvaWithinImage_iff
    {image : ImageView}
    {rva : UInt32}
    {length : Nat} :
    isRvaWithinImage image rva length = true ↔
      rva.toNat < image.imageSize.toNat ∧
        rva.toNat + length ≤ image.imageSize.toNat := by
  simp only [isRvaWithinImage, UInt32.le_iff_toNat_le, ← UInt32.toNat_inj,
    UInt32.toNat_zero]
  split
  · simp only [Bool.false_eq_true, false_iff]
    omega
  · simp only [decide_eq_true_eq]
    omega

/-! ## Bytes of a readable range -/

section

variable {system : System} {memory : Bytes} {place : UInt32}

/-- What is read of a range that can be read. -/
theorem view_of_canRead
    {length offset : Nat}
    (canRead : system.canRead place length = true)
    (inside : offset < length) :
    system.view memory place offset = some (memory.at place offset) :=
  if_pos (List.all_eq_true.mp canRead offset (List.mem_range.mpr inside))

/-- A part of a range that can be read. -/
theorem canRead_part
    {length shift part : Nat}
    (canRead : system.canRead place length = true)
    (fits : shift + part ≤ length) :
    system.canRead (place + UInt32.ofNat shift) part = true := by
  apply List.all_eq_true.mpr
  intro offset isOffset
  have below := List.mem_range.mp isOffset
  rw [UInt32.add_assoc, ← UInt32.ofNat_add]
  exact List.all_eq_true.mp canRead (shift + offset)
    (List.mem_range.mpr (by omega))

/-- The guarded copy of a range that can be read. -/
theorem tryCopyBytes_of_canRead
    {length : Nat}
    (notNull : place ≠ 0)
    (positive : length ≠ 0)
    (canRead : system.canRead place length = true) :
    tryCopyBytes system memory place length = some (memory.at place) := by
  rw [tryCopyBytes, if_neg (not_or.mpr ⟨notNull, positive⟩), if_pos canRead]

/-- Comparing one byte after another compares them all. -/
theorem codeBegins_eq
    {code : Memory}
    {bytes : Nat → UInt8}
    {offset : Nat}
    {expected : List UInt8}
    (loaded : ∀ index, offset ≤ index → index < offset + expected.length →
      code index = some (bytes index)) :
    codeBegins code offset expected =
      some
        (decide ((List.range' offset expected.length).map bytes =
          expected)) := by
  induction expected generalizing offset with
  | nil =>
      rfl
  | cons first rest inductionHypothesis =>
      rw [List.length_cons] at loaded
      have later :=
        @inductionHypothesis (offset + 1) fun index above below =>
          loaded index (by omega) (by omega)
      rw [codeBegins, loaded offset (by omega) (by omega)]
      simp only [Option.bind_eq_bind, Option.bind_some, later,
        List.length_cons, List.range'_succ, List.map_cons, List.cons.injEq]
      by_cases same : bytes offset = first
      · simp [same]
      · simp [same]

end

/-! ## Hops -/

/-- One pass of the hook manager's loop: where the thunk at a place leads. -/
def thunkTarget
    (system : System)
    (memory : Bytes)
    (place : UInt32) : Option UInt32 :=
  match tryCopyBytes system memory place kThunkPrefixLength with
  | none => none
  | some bytes =>
      if differsFromThunk bytes then
        none
      else
        tryResolveRelativeJumpTarget system memory (place + 6)

/-- One pass of the discovery's loop, from its test of the shape on. -/
def hotpatchTarget
    (system : System)
    (memory : Bytes)
    (image : ImageView)
    (place : UInt32) : Option UInt32 :=
  if place < image.base then
    none
  else if
    isHotpatchJumpThunkShapeAtRva system memory image (place - image.base) =
      some true
  then
    (resolveJumpTargetAtRva system memory image
      (place - image.base + 6)).join
  else
    none

/-- The eleven bytes of a thunk at a place lie in the image. -/
def Inside (image : ImageView) (place : UInt32) : Prop :=
  image.base ≤ place ∧ isRvaWithinImage image (place - image.base) 11 = true

instance (image : ImageView) : DecidablePred (Inside image) :=
  fun place =>
    inferInstanceAs
      (Decidable
        (image.base ≤ place ∧
          isRvaWithinImage image (place - image.base) 11 = true))

/-- What the hook manager reports of its hops. -/
def JumpThunkResolution.ofHops (hops : List UInt32) :
    JumpThunkResolution where
  terminalTarget := hops.getLastD 0
  hopCount := UInt32.ofNat hops.length
  resolved := hops ≠ []

/-- What the discovery reports of its hops. -/
def HotpatchThunkTarget.ofHops (hops : List UInt32) :
    HotpatchThunkTarget where
  firstTarget := hops.headD 0
  terminalTarget := hops.getLastD 0
  hopCount := UInt32.ofNat hops.length
  resolved := hops ≠ []

/-- A hop more. -/
theorem JumpThunkResolution.ofHops_concat
    (hops : List UInt32)
    (target : UInt32) :
    ofHops (hops ++ [target]) =
      { terminalTarget := target
        hopCount := UInt32.ofNat hops.length + 1
        resolved := true } := by
  simp [ofHops, UInt32.ofNat_add]

/-- A hop more, which is the first one if the count is still null. -/
theorem HotpatchThunkTarget.ofHops_concat
    {hops : List UInt32}
    (counted : hops.length < 2 ^ 32)
    (target : UInt32) :
    ofHops (hops ++ [target]) =
      { firstTarget :=
          if UInt32.ofNat hops.length = 0 then
            target
          else
            (ofHops hops).firstTarget
        terminalTarget := target
        hopCount := UInt32.ofNat hops.length + 1
        resolved := true } := by
  cases hops with
  | nil =>
      simp [ofHops]
  | cons first rest =>
      have isCounted : UInt32.ofNat (first :: rest).length ≠ 0 := by
        intro isNull
        have := congrArg UInt32.toNat isNull
        rw [UInt32.toNat_ofNat', Nat.mod_eq_of_lt counted] at this
        cases this
      rw [if_neg isCounted, ofHops, List.getLastD_concat]
      simp [ofHops, UInt32.ofNat_add]

/-! ## The hook manager's hops -/

section

variable {system : System} {memory : Bytes}

/-- The loop goes on from the hops made before, the last of which arrived. -/
theorem followJumpThunks_eq
    (remaining : Nat)
    {current : UInt32}
    {earlier : List UInt32}
    (arrived : ∀ last ∈ earlier.getLast?, last = current) :
    followJumpThunks system memory remaining (UInt32.ofNat earlier.length)
        current (.ofHops earlier) =
      .ofHops
        (earlier ++ walk (thunkTarget system memory) remaining current) := by
  induction remaining generalizing current earlier with
  | zero =>
      rw [followJumpThunks, walk, List.append_nil]
  | succ remaining inductionHypothesis =>
      rw [followJumpThunks, walk, thunkTarget]
      cases tryCopyBytes system memory current kThunkPrefixLength with
      | none =>
          simp
      | some bytes =>
          cases differs : differsFromThunk bytes with
          | true =>
              simp only [differs, if_true, List.append_nil]
              split
              · -- The place is not a thunk, but was arrived at.
                rename_i hopped
                cases earlier using List.reverseRec with
                | nil =>
                    exact absurd hopped (by decide)
                | append_singleton before last =>
                    obtain rfl := arrived last (by simp)
                    rw [JumpThunkResolution.ofHops_concat]
                    simp [UInt32.ofNat_add]
              · rfl
          | false =>
              simp only [differs, Bool.false_eq_true, if_false]
              cases
                tryResolveRelativeJumpTarget system memory (current + 6)
              with
              | none =>
                  simp
              | some target =>
                  have later :=
                    @inductionHypothesis target (earlier ++ [target])
                      (by simp)
                  rw [JumpThunkResolution.ofHops_concat, List.length_append,
                    List.length_singleton, UInt32.ofNat_add,
                    List.append_assoc] at later
                  exact later

/-- There is no thunk at the null address. -/
theorem thunkTarget_zero : thunkTarget system memory 0 = none := by
  simp [thunkTarget, tryCopyBytes]

/-- The hook manager reports the hops it makes. -/
theorem resolveJumpThunkTarget_eq (start : UInt32) :
    resolveJumpThunkTarget system memory start =
      .ofHops (walk (thunkTarget system memory) kHopLimit start) := by
  rw [resolveJumpThunkTarget]
  split
  · rename_i isNull
    rw [isNull, kHopLimit, walk, thunkTarget_zero]
    rfl
  · exact @followJumpThunks_eq system memory kHopLimit start [] (by simp)

end

/-! ## The discovery's hops -/

/-- Where the jump of a thunk leads. -/
def jumpOf (memory : Bytes) (place : UInt32) : UInt32 :=
  place + 6 + 5 + readLe32 (memory.at (place + 6)) 1

/-- A thunk lies at a place of the image. -/
def ThunkInside
    (memory : Bytes)
    (image : ImageView)
    (place : UInt32) : Prop :=
  Inside image place ∧ differsFromThunk (memory.at place) = false

instance (memory : Bytes) (image : ImageView) :
    DecidablePred (ThunkInside memory image) :=
  fun place =>
    inferInstanceAs
      (Decidable
        (Inside image place ∧ differsFromThunk (memory.at place) = false))

/-- What can be read of the image at a place. -/
def ReadableInside
    (system : System)
    (image : ImageView)
    (place : UInt32) : Prop :=
  Inside image place → system.canRead place 11 = true

/-- The prefix is compared without the byte that fills it. -/
theorem not_differsFromThunk_iff {bytes : Nat → UInt8} :
    differsFromThunk bytes = false ↔
      (List.range' 0 7).map bytes =
        [0x8B, 0xFF, 0x55, 0x8B, 0xEC, 0x5D, 0xE9] := by
  have compared : List.range (kHotpatchJumpThunkPrefix.length - 1) =
      [0, 1, 2, 3, 4, 5, 6] := rfl
  rw [differsFromThunk, decide_eq_false_iff_not, not_or, Bool.not_eq_false,
    ne_eq, not_not, sameBytes, compared]
  simp [kHotpatchJumpThunkPrefix, List.range'_succ]

/-- The opcode of a thunk's jump. -/
theorem opcode_of_thunk
    {memory : Bytes}
    {place : UInt32}
    (isThunk : differsFromThunk (memory.at place) = false) :
    memory.at (place + 6) 0 = 0xE9 := by
  have behind : memory.at (place + 6) 0 = memory.at place 6 :=
    memory.at_add place 6 0
  rw [behind]
  have bytes := not_differsFromThunk_iff.mp isThunk
  simp only [List.range'_succ, List.map_cons, List.cons.injEq] at bytes
  exact bytes.2.2.2.2.2.2.1

section

variable
  {system : System} {memory : Bytes} {image : ModuleImage} {place : UInt32}

/-- The place of an offset. -/
theorem base_add_sub (base place : UInt32) :
    base + (place - base) = place := by
  rw [UInt32.add_comm, UInt32.sub_add_cancel]

/-- The offset of a place. -/
theorem add_sub_base (base rva : UInt32) : base + rva - base = rva := by
  rw [UInt32.add_comm, UInt32.add_sub_cancel]

/-- Nothing of a thunk inside the image wraps around. -/
theorem Inside.toNat_bounds (inside : Inside image.toImageView place) :
    place ≠ 0 ∧ place.toNat + 11 ≤ 2 ^ 32 ∧
      isRvaWithinImage image.toImageView (place - image.base + 6) 5 = true := by
  obtain ⟨above, within⟩ := inside
  rw [isRvaWithinImage_iff] at within ⊢
  have fits := image.fits
  have placed := UInt32.toNat_sub_of_le place image.base above
  have notBelow := UInt32.le_iff_toNat_le.mp above
  have shifted :
      (place - image.base + 6).toNat = (place - image.base).toNat + 6 :=
    toNat_add_inside (by
      change _ + 6 < 2 ^ 32
      omega)
  refine ⟨fun isNull => ?_, by omega, by omega, by omega⟩
  rw [isNull] at notBelow
  exact image.base_ne_zero
    (UInt32.toNat_inj.mp (Nat.le_zero.mp notBelow))

/-- The test of the shape finds the thunks inside the image. -/
theorem isHotpatchJumpThunkShapeAtRva_eq
    (above : image.base ≤ place)
    (readable : ReadableInside system image.toImageView place) :
    isHotpatchJumpThunkShapeAtRva system memory image.toImageView
        (place - image.base) =
      some (decide (ThunkInside memory image.toImageView place)) := by
  by_cases inside : Inside image.toImageView place
  · have canRead := readable inside
    rw [isHotpatchJumpThunkShapeAtRva, if_pos inside.2, ImageView.code,
      base_add_sub,
      codeBegins_eq fun index _ below =>
        view_of_canRead canRead (Nat.lt_of_lt_of_le below (by decide))]
    simp [ThunkInside, inside, not_differsFromThunk_iff]
  · have outside :
        ¬ isRvaWithinImage image.toImageView (place - image.base) 11 = true :=
      fun within => inside ⟨above, within⟩
    rw [isHotpatchJumpThunkShapeAtRva, if_neg outside]
    simp [ThunkInside, inside]

/-- The jump of a thunk inside the image. -/
theorem resolveJumpTargetAtRva_eq
    (thunk : ThunkInside memory image.toImageView place)
    (readable : ReadableInside system image.toImageView place) :
    resolveJumpTargetAtRva system memory image.toImageView
        (place - image.base + 6) =
      some (some (jumpOf memory place)) := by
  obtain ⟨inside, isThunk⟩ := thunk
  have canRead : system.canRead (place + 6) 5 = true :=
    canRead_part (readable inside) (Nat.le_refl 11)
  have loaded (offset : Nat) (below : offset < 5) :
      system.view memory (place + 6) offset =
        some (memory.at (place + 6) offset) :=
    view_of_canRead canRead below
  have behind : image.base + (place - image.base + 6) = place + 6 := by
    rw [← UInt32.add_assoc, base_add_sub]
  rw [resolveJumpTargetAtRva, if_pos inside.toNat_bounds.2.2, ImageView.code,
    behind]
  simp [loadBytes, loaded, opcode_of_thunk isThunk, jumpOf, readLe32]

/-- The hook manager finds the same jump. -/
theorem thunkTarget_eq
    (inside : Inside image.toImageView place)
    (readable : ReadableInside system image.toImageView place) :
    thunkTarget system memory place =
      if ThunkInside memory image.toImageView place then
        some (jumpOf memory place)
      else
        none := by
  have canRead := readable inside
  obtain ⟨notNull, fits, _⟩ := inside.toNat_bounds
  have behindNotNull : place + 6 ≠ 0 := by
    intro isNull
    have noWrap : (place + 6).toNat = place.toNat + 6 :=
      toNat_add_inside (by
        change _ + 6 < 2 ^ 32
        omega)
    rw [isNull] at noWrap
    cases noWrap
  have copied :
      tryCopyBytes system memory place 8 = some (memory.at place) := by
    apply tryCopyBytes_of_canRead notNull (by decide)
    have front := @canRead_part system place 11 0 8 canRead (by decide)
    have same : place + UInt32.ofNat 0 = place := UInt32.add_zero place
    rwa [same] at front
  rw [thunkTarget, kThunkPrefixLength, copied]
  cases differs : differsFromThunk (memory.at place) with
  | true =>
      simp [ThunkInside, differs]
  | false =>
      have copiedBehind :
          tryCopyBytes system memory (place + 6) 5 =
            some (memory.at (place + 6)) :=
        tryCopyBytes_of_canRead behindNotNull (by decide)
          (canRead_part canRead (Nat.le_refl 11))
      simp [ThunkInside, inside, differs, tryResolveRelativeJumpTarget,
        behindNotNull, copiedBehind, opcode_of_thunk differs, jumpOf]

/-- A pass of the discovery's loop. -/
theorem hotpatchTarget_eq
    (readable : ReadableInside system image.toImageView place) :
    hotpatchTarget system memory image.toImageView place =
      if ThunkInside memory image.toImageView place then
        some (jumpOf memory place)
      else
        none := by
  rw [hotpatchTarget]
  by_cases above : image.base ≤ place
  · rw [if_neg (UInt32.not_lt.mpr above),
      isHotpatchJumpThunkShapeAtRva_eq above readable]
    by_cases thunk : ThunkInside memory image.toImageView place
    · rw [resolveJumpTargetAtRva_eq thunk readable]
      simp [thunk]
    · simp [thunk]
  · rw [if_pos (UInt32.not_le.mp above),
      if_neg fun thunk => above thunk.1.1]

/-- The discovery goes where the hook manager goes, inside the image. -/
theorem hotpatchTarget_eq_confined
    (readable : ReadableInside system image.toImageView place) :
    hotpatchTarget system memory image.toImageView place =
      if Inside image.toImageView place then
        thunkTarget system memory place
      else
        none := by
  rw [hotpatchTarget_eq readable]
  by_cases inside : Inside image.toImageView place
  · rw [if_pos inside, thunkTarget_eq inside readable]
  · rw [if_neg inside, if_neg fun thunk => inside thunk.1]

/-- There is no walk from a place without a next one. -/
theorem walk_hotpatchTarget_of_not_thunk
    (notThunk : ¬ ThunkInside memory image.toImageView place)
    (readable : ReadableInside system image.toImageView place)
    (limit : Nat) :
    walk (hotpatchTarget system memory image.toImageView) limit place =
      [] := by
  cases limit with
  | zero =>
      rfl
  | succ limit =>
      rw [walk, hotpatchTarget_eq readable, if_neg notThunk]

/-- The loop goes on from a thunk behind the hops made before. -/
theorem followHotpatchThunks_eq
    (remaining : Nat)
    {place : UInt32}
    {earlier : List UInt32}
    (thunk : ThunkInside memory image.toImageView place)
    (readable :
      ∀ visited ∈
          place ::
            walk (hotpatchTarget system memory image.toImageView) remaining
              place,
        ReadableInside system image.toImageView visited)
    (counted : earlier.length + remaining < 2 ^ 32)
    (hops : earlier.length + remaining ≠ 0) :
    followHotpatchThunks system memory image.toImageView remaining
        (UInt32.ofNat earlier.length) (place - image.base)
        (.ofHops earlier) =
      some
        (.ofHops
          (earlier ++
            walk (hotpatchTarget system memory image.toImageView) remaining
              place)) := by
  induction remaining generalizing place earlier with
  | zero =>
      have hopped : earlier ≠ [] := fun isNil => hops (by rw [isNil]; rfl)
      rw [followHotpatchThunks, walk, List.append_nil]
      simp [HotpatchThunkTarget.ofHops, hopped]
  | succ remaining inductionHypothesis =>
      have here := readable place List.mem_cons_self
      have leads :
          hotpatchTarget system memory image.toImageView place =
            some (jumpOf memory place) := by
        rw [hotpatchTarget_eq here, if_pos thunk]
      rw [walk, leads] at readable ⊢
      rw [followHotpatchThunks, resolveJumpTargetAtRva_eq thunk here]
      simp only [Option.bind_eq_bind, Option.bind_some,
        ← HotpatchThunkTarget.ofHops_concat
          (show earlier.length < 2 ^ 32 by omega)]
      generalize jumpOf memory place = target at readable ⊢
      have there : ReadableInside system image.toImageView target :=
        readable target (by simp)
      have ends (notThunk : ¬ ThunkInside memory image.toImageView target) :
          earlier ++ target ::
              walk (hotpatchTarget system memory image.toImageView)
                remaining target =
            earlier ++ [target] := by
        rw [walk_hotpatchTarget_of_not_thunk notThunk there]
      split
      · rename_i below
        rw [ends fun next => UInt32.not_le.mpr below next.1.1]
        rfl
      · rename_i notBelow
        rw [isHotpatchJumpThunkShapeAtRva_eq (UInt32.not_lt.mp notBelow)
          there, Option.bind_some]
        by_cases next : ThunkInside memory image.toImageView target
        · have later :=
            @inductionHypothesis target (earlier ++ [target]) next
              (fun visited isVisited =>
                readable visited (List.mem_cons_of_mem place isVisited))
              (by rw [List.length_append, List.length_singleton]; omega)
              (by rw [List.length_append, List.length_singleton]; omega)
          rw [List.length_append, List.length_singleton, UInt32.ofNat_add,
            List.append_assoc] at later
          rw [if_pos (decide_eq_true next)]
          exact later
        · rw [if_neg (by simpa using next), ends next]
          rfl

/-- An offset within the image is one of a place inside it. -/
theorem inside_add_base_iff {rva : UInt32} :
    Inside image.toImageView (image.base + rva) ↔
      isRvaWithinImage image.toImageView rva 11 = true := by
  rw [Inside, add_sub_base]
  constructor
  · exact And.right
  · intro within
    have fits := image.fits
    have below := (isRvaWithinImage_iff.mp within).1
    refine ⟨UInt32.le_iff_toNat_le.mpr ?_, within⟩
    rw [toNat_add_inside (by omega)]
    exact Nat.le_add_right _ _

/-- The discovery reports the hops it makes, and does not fault. -/
theorem resolveHotpatchThunkTerminalTarget_eq
    {rva : UInt32}
    (readable :
      ∀ visited ∈
          (image.base + rva) ::
            walk (hotpatchTarget system memory image.toImageView) kHopLimit
              (image.base + rva),
        ReadableInside system image.toImageView visited) :
    resolveHotpatchThunkTerminalTarget system memory image.toImageView rva =
      some
        (.ofHops
          (walk (hotpatchTarget system memory image.toImageView) kHopLimit
            (image.base + rva))) := by
  have start := readable _ List.mem_cons_self
  rw [resolveHotpatchThunkTerminalTarget]
  by_cases inside : Inside image.toImageView (image.base + rva)
  · have shape :=
      @isHotpatchJumpThunkShapeAtRva_eq system memory image _ inside.1 start
    rw [add_sub_base] at shape
    simp only [shape, Option.bind_eq_bind, Option.bind_some]
    by_cases thunk : ThunkInside memory image.toImageView (image.base + rva)
    · have hops :=
        @followHotpatchThunks_eq system memory image kHopLimit _ [] thunk
          readable (by decide) (by decide)
      rw [add_sub_base] at hops
      rw [if_pos (decide_eq_true thunk)]
      exact hops
    · rw [if_neg (by simpa using thunk),
        walk_hotpatchTarget_of_not_thunk thunk start]
      rfl
  · have outside :
        isHotpatchJumpThunkShapeAtRva system memory image.toImageView rva =
          some false :=
      if_neg (mt inside_add_base_iff.mpr inside)
    rw [walk_hotpatchTarget_of_not_thunk (fun thunk => inside thunk.1) start]
    simp only [outside, Option.bind_eq_bind, Option.bind_some]
    rfl

end

/-! ## Both ways -/

/-- The hook manager and the discovery follow the same thunks. -/
structure ResolvedAlike
    (system : System)
    (memory : Bytes)
    (image : ModuleImage)
    (rva : UInt32)
    (hops : List UInt32)
    (found : HotpatchThunkTarget) : Prop where
  byAddress :
    walk (thunkTarget system memory) kHopLimit (image.base + rva) = hops
  inImage :
    walk (hotpatchTarget system memory image.toImageView) kHopLimit
        (image.base + rva) =
      hops
  withinLimit : hops.length ≤ kHopLimit
  /-- Each hop is the target of the thunk before it. -/
  connected :
    ((image.base + rva) :: hops).IsChain fun place target =>
      thunkTarget system memory place = some target
  /-- The last hop and their number are reported. -/
  reported :
    resolveJumpThunkTarget system memory (image.base + rva) = .ofHops hops
  /-- The discovery does not fault. -/
  noFault :
    resolveHotpatchThunkTerminalTarget system memory image.toImageView rva =
      some found
  firstTarget : found.firstTarget = hops.headD 0
  sameTerminal :
    found.terminalTarget =
      (resolveJumpThunkTarget system memory
        (image.base + rva)).terminalTarget
  sameCount :
    found.hopCount =
      (resolveJumpThunkTarget system memory (image.base + rva)).hopCount
  sameResult :
    found.resolved =
      (resolveJumpThunkTarget system memory (image.base + rva)).resolved

/--
Thunks are resolved alike, whatever they lead to.

Each thunk that is followed lies in the image, and what is looked at of the
image can be read.  The last hop may leave the image.
-/
theorem thunks_resolved_alike
    {system : System}
    {memory : Bytes}
    {image : ModuleImage}
    {rva : UInt32}
    (stays :
      LeavesOnly (thunkTarget system memory) (Inside image.toImageView)
        kHopLimit (image.base + rva))
    (readable :
      ∀ visited ∈
          (image.base + rva) ::
            walk (thunkTarget system memory) kHopLimit (image.base + rva),
        ReadableInside system image.toImageView visited) :
    ∃ hops found, ResolvedAlike system memory image rva hops found := by
  have confined := walk_confined stays
  have sameHops :
      walk (hotpatchTarget system memory image.toImageView) kHopLimit
          (image.base + rva) =
        walk (thunkTarget system memory) kHopLimit (image.base + rva) := by
    rw [← confined]
    apply walk_congr
    rw [confined]
    exact fun place isVisited =>
      hotpatchTarget_eq_confined (readable place isVisited)
  have byAddress :=
    @resolveJumpThunkTarget_eq system memory (image.base + rva)
  have inImage :
      resolveHotpatchThunkTerminalTarget system memory image.toImageView rva =
        some _ :=
    resolveHotpatchThunkTerminalTarget_eq (by
      rw [sameHops]
      exact readable)
  rw [sameHops] at inImage
  exact
    ⟨_, _,
      { byAddress := rfl
        inImage := sameHops
        withinLimit := length_walk_le kHopLimit _
        connected := isChain_walk kHopLimit _
        reported := byAddress
        noFault := inImage
        firstTarget := rfl
        sameTerminal := by rw [byAddress]; rfl
        sameCount := by rw [byAddress]; rfl
        sameResult := by rw [byAddress]; rfl }⟩

/-- A module with a thunk only. -/
def thunkImage : ModuleImage where
  base := 0x400000
  imageSize := 11
  base_ne_zero := by decide
  fits := by decide

/-- The thunk leads to itself. -/
def selfJump : Bytes :=
  fun address =>
    [0x8B, 0xFF, 0x55, 0x8B, 0xEC, 0x5D, 0xE9, 0xF5, 0xFF, 0xFF, 0xFF].getD
      (offsetFrom 0x400000 address) 0

/-- A thunk that leads to itself is followed twice, either way. -/
theorem thunks_resolved_alike_selfJump :
    walk (thunkTarget (fullSystem none) selfJump) kHopLimit 0x400000 =
        [0x400000, 0x400000] ∧
      ∃ hops found,
        ResolvedAlike (fullSystem none) selfJump thunkImage 0 hops found :=
  ⟨by decide,
    thunks_resolved_alike (by decide) fun _ _ _ => rfl⟩

end MonomythClient.JumpThunks
