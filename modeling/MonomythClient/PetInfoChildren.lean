import MonomythClient.CasterWindows
import MonomythClient.Runs

namespace MonomythClient.PetInfoChildren

open CasterWindows LocalPlayer ProtectedMemory

/-!
# The windows inside the Pet Info window

While the game creates the children of the Pet Info window, the client keeps
the windows that are created below it, each with its depth.  A window that is
created there as the gauge of an extra pet becomes the gauge window of that
pet's slot.  The calls that create children may be nested: each puts back the
window that was active before it, and starts with no children.

The hook on the game's creating function notes a window when that function
returns.  A window that is created during the call that creates its parent is
noted first, when its parent is not known yet, and so it is missed.
-/

def kMultiPetExtraPet0GaugeEqType : UInt32 := 6670
def kMultiPetExtraPet1GaugeEqType : UInt32 := 6671
def kPetInfoWindowGlobalRva : UInt32 := 0x0091fbf8
def kCxWndEqTypeOffset : UInt32 := 0x1d8

/-- `MultiPetSlotFromEqType`; the slot -1 is none. -/
def multiPetSlotFromEqType (eqType : UInt32) : Option Nat :=
  if eqType = kMultiPetExtraPet0GaugeEqType then
    some 0
  else if eqType = kMultiPetExtraPet1GaugeEqType then
    some 1
  else
    none

/-- `IsMultiPetExtraPetEqType`. -/
def isMultiPetExtraPetEqType (eqType : UInt32) : Bool :=
  eqType == kMultiPetExtraPet0GaugeEqType ||
    eqType == kMultiPetExtraPet1GaugeEqType

/-- The types of extra pets are those with a slot. -/
theorem isMultiPetExtraPetEqType_eq (eqType : UInt32) :
    isMultiPetExtraPetEqType eqType =
      (multiPetSlotFromEqType eqType).isSome := by
  unfold isMultiPetExtraPetEqType multiPetSlotFromEqType
  by_cases first : eqType = kMultiPetExtraPet0GaugeEqType
  · simp [first]
  · by_cases second : eqType = kMultiPetExtraPet1GaugeEqType
    · subst second
      rfl
    · simp [first, second]

/-- There are two slots. -/
theorem multiPetSlotFromEqType_lt
    {eqType : UInt32}
    {slot : Nat}
    (isSlot : multiPetSlotFromEqType eqType = some slot) :
    slot < 2 := by
  unfold multiPetSlotFromEqType at isSlot
  split at isSlot
  · cases isSlot
    decide
  · split at isSlot
    · cases isSlot
      decide
    · cases isSlot

/-! ## Children -/

/-- `g_active_pet_info_created_children`, as far as its count says. -/
abbrev CreatedChildren := List (UInt32 × UInt32)

/-- The number of children there is room for. -/
def kCreatedChildrenCapacity : Nat := 256

/-- The depth of a window that is no such child. -/
def kNoDepth : UInt32 := 0xffffffff

/-- `FindActivePetInfoCreatedChildDepth`. -/
def findActivePetInfoCreatedChildDepth
    (children : CreatedChildren)
    (window : UInt32) :
    UInt32 :=
  if window = 0 then
    kNoDepth
  else
    ((children.find? fun child => decide (child.1 = window)).map
      Prod.snd).getD kNoDepth

/-- `RecordActivePetInfoCreatedChild`. -/
def recordActivePetInfoCreatedChild
    (children : CreatedChildren)
    (window depth : UInt32) :
    CreatedChildren :=
  if window = 0 ∨ depth = 0 ∨
      kCreatedChildrenCapacity ≤ children.length then
    children
  else if findActivePetInfoCreatedChildDepth children window ≠ kNoDepth then
    children
  else
    children ++ [(window, depth)]

/-- The window whose children are being created, those of the calls around
it, innermost first, and the gauge windows. -/
structure CreationState where
  activeWindow : UInt32
  suspendedWindows : List UInt32
  createdChildren : CreatedChildren
  gaugeWindows : Vector UInt32 2

/-- The state at the start. -/
def CreationState.initial : CreationState where
  activeWindow := 0
  suspendedWindows := []
  createdChildren := []
  gaugeWindows := .replicate 2 0

/-- `ReadMultiPetExtraPetGaugeWindow`; null stands for none. -/
def readMultiPetExtraPetGaugeWindow
    (gaugeWindows : Vector UInt32 2)
    (slot : Nat) :
    UInt32 :=
  gaugeWindows[slot]?.getD 0

/-- What happens to the windows: `PetInfoWindowCreateChildrenCallsiteHook` calls
the game and gets control back, a call of the game that creates a window
returns, or the gauge windows are forgotten with the mana hooks. -/
inductive CreationEvent where
  | enterCreateChildren (window : UInt32)
  | leaveCreateChildren
  | created (memory : Memory) (parentWindow result : UInt32)
  | forgetGauges

section Creation

variable (moduleBase : UInt32)

/-- `TryReadPetInfoWindowPointer`, if it was copied. -/
def tryReadPetInfoWindowPointer (memory : Memory) : Option UInt32 :=
  tryReadGlobalPointer moduleBase memory kPetInfoWindowGlobalRva

/-- `parent_matches_pet_info`. -/
def MatchesPetInfo (memory : Memory) (parentWindow : UInt32) : Prop :=
  tryReadPetInfoWindowPointer moduleBase memory = some parentWindow

instance (memory : Memory) (parentWindow : UInt32) :
    Decidable (MatchesPetInfo moduleBase memory parentWindow) :=
  inferInstanceAs (Decidable (_ = _))

/-- `parent_matches_active_pet_info_create`. -/
def CreationState.MatchesActive
    (state : CreationState)
    (parentWindow : UInt32) : Prop :=
  state.activeWindow ≠ 0 ∧ state.activeWindow = parentWindow

instance (state : CreationState) (parentWindow : UInt32) :
    Decidable (state.MatchesActive parentWindow) :=
  inferInstanceAs (Decidable (_ ∧ _))

/-- `parent_matches_active_pet_info_descendant`. -/
def CreationState.MatchesDescendant
    (state : CreationState)
    (parentWindow : UInt32) : Prop :=
  findActivePetInfoCreatedChildDepth state.createdChildren parentWindow ≠
    kNoDepth

instance (state : CreationState) (parentWindow : UInt32) :
    Decidable (state.MatchesDescendant parentWindow) :=
  inferInstanceAs (Decidable (_ ≠ _))

/-- `result_created_child_depth`. -/
def CreationState.resultDepth
    (state : CreationState)
    (parentWindow : UInt32) :
    UInt32 :=
  if state.MatchesActive parentWindow then
    1
  else if state.MatchesDescendant parentWindow then
    findActivePetInfoCreatedChildDepth state.createdChildren parentWindow + 1
  else
    0

/-- A window created below this one concerns the Pet Info window. -/
def CreationState.Recognizes
    (state : CreationState)
    (memory : Memory)
    (parentWindow : UInt32) : Prop :=
  state.MatchesActive parentWindow ∨ state.MatchesDescendant parentWindow ∨
    MatchesPetInfo moduleBase memory parentWindow

instance
    (state : CreationState)
    (memory : Memory)
    (parentWindow : UInt32) :
    Decidable (state.Recognizes moduleBase memory parentWindow) :=
  inferInstanceAs (Decidable (_ ∨ _ ∨ _))

/-- The slot of an extra pet's gauge, where the window can be read. -/
def extraPetGaugeSlot (memory : Memory) (window : UInt32) :
    Option Nat := do
  let _ ← tryReadCxWndStateSnapshot memory window
  let eqType ← memory.readWord (window + kCxWndEqTypeOffset)
  multiPetSlotFromEqType eqType

/-- `SidlCreateChildFromTemplateTraceHook`, after the game's own call. -/
def sidlCreateChildFromTemplate
    (state : CreationState)
    (memory : Memory)
    (parentWindow result : UInt32) :
    CreationState :=
  if state.Recognizes moduleBase memory parentWindow then
    { state with
      createdChildren :=
        recordActivePetInfoCreatedChild state.createdChildren result
          (state.resultDepth parentWindow)
      gaugeWindows :=
        match extraPetGaugeSlot memory result with
        | none => state.gaugeWindows
        | some slot => state.gaugeWindows.setIfInBounds slot result }
  else
    state

/-- One event. -/
def creationStep (state : CreationState) : CreationEvent → CreationState
  | .enterCreateChildren window =>
      { state with
        activeWindow := window
        suspendedWindows := state.activeWindow :: state.suspendedWindows
        createdChildren := [] }
  | .leaveCreateChildren =>
      { state with
        activeWindow := state.suspendedWindows.headD 0
        suspendedWindows := state.suspendedWindows.tail
        createdChildren := [] }
  | .created memory parentWindow result =>
      sidlCreateChildFromTemplate moduleBase state memory parentWindow result
  | .forgetGauges =>
      { state with gaugeWindows := .replicate 2 0 }

/-- The state after some events. -/
def creationAfter (events : List CreationEvent) : CreationState :=
  Runs.run (creationStep moduleBase) .initial events

end Creation

/-! ## Descent -/

/-- The windows created since the active window changed, with their parents,
as the calls that create them return. -/
def noteCreation
    (creations : List (UInt32 × UInt32)) :
    CreationEvent → List (UInt32 × UInt32)
  | .enterCreateChildren _ => []
  | .leaveCreateChildren => []
  | .created _ parentWindow result => creations ++ [(parentWindow, result)]
  | .forgetGauges => creations

/-- Those of a run. -/
def currentCreations (events : List CreationEvent) :
    List (UInt32 × UInt32) :=
  Runs.run noteCreation [] events

/-- A window was created so many levels below the active one, by calls that
returned level by level, the highest first. -/
inductive Descends (activeWindow : UInt32) :
    List (UInt32 × UInt32) → UInt32 → Nat → Prop
  | child
      {earlier : List (UInt32 × UInt32)}
      {window : UInt32}
      (isActive : activeWindow ≠ 0)
      (isWindow : window ≠ 0) :
      Descends activeWindow (earlier ++ [(activeWindow, window)]) window 1
  | deeper
      {earlier : List (UInt32 × UInt32)}
      {parentWindow window : UInt32}
      {depth : Nat}
      (parentDescends : Descends activeWindow earlier parentWindow depth)
      (isWindow : window ≠ 0) :
      Descends activeWindow (earlier ++ [(parentWindow, window)]) window
        (depth + 1)
  | later
      {earlier : List (UInt32 × UInt32)}
      {creation : UInt32 × UInt32}
      {window : UInt32}
      {depth : Nat}
      (descends : Descends activeWindow earlier window depth) :
      Descends activeWindow (earlier ++ [creation]) window depth

theorem not_descends_nil
    {activeWindow window : UInt32}
    {depth : Nat} :
    ¬ Descends activeWindow [] window depth := by
  intro descends
  generalize isNil : ([] : List (UInt32 × UInt32)) = creations at descends
  cases descends <;> simp at isNil

/-- One more creation adds its window below the active one or below a window
that descends from it. -/
theorem descends_append_iff
    {activeWindow : UInt32}
    {earlier : List (UInt32 × UInt32)}
    {parentWindow created window : UInt32}
    {depth : Nat} :
    Descends activeWindow (earlier ++ [(parentWindow, created)]) window
        depth ↔
      Descends activeWindow earlier window depth ∨
        window = created ∧ created ≠ 0 ∧
          (activeWindow ≠ 0 ∧ activeWindow = parentWindow ∧ depth = 1 ∨
            ∃ parentDepth,
              Descends activeWindow earlier parentWindow parentDepth ∧
                depth = parentDepth + 1) := by
  constructor
  · intro descends
    generalize isLonger :
      earlier ++ [(parentWindow, created)] = creations at descends
    cases descends with
    | child isActive isWindow =>
        obtain ⟨-, same⟩ := List.append_inj' isLonger rfl
        cases same
        exact .inr ⟨rfl, isWindow, .inl ⟨isActive, rfl, rfl⟩⟩
    | deeper parentDescends isWindow =>
        obtain ⟨rfl, same⟩ := List.append_inj' isLonger rfl
        cases same
        exact .inr ⟨rfl, isWindow, .inr ⟨_, parentDescends, rfl⟩⟩
    | later descends =>
        obtain ⟨rfl, -⟩ := List.append_inj' isLonger rfl
        exact .inl descends
  · rintro (descends | ⟨rfl, isWindow, ⟨isActive, rfl, rfl⟩ |
      ⟨parentDepth, parentDescends, rfl⟩⟩)
    · exact .later descends
    · exact .child isActive isWindow
    · exact .deeper parentDescends isWindow

/-- Later creations leave the windows where they are. -/
theorem Descends.append
    {activeWindow window : UInt32}
    {earlier : List (UInt32 × UInt32)}
    {depth : Nat}
    (descends : Descends activeWindow earlier window depth)
    (later : List (UInt32 × UInt32)) :
    Descends activeWindow (earlier ++ later) window depth := by
  induction later using List.reverseRecOn with
  | nil =>
      rwa [List.append_nil]
  | append_singleton later creation inductionHypothesis =>
      rw [← List.append_assoc]
      exact .later inductionHypothesis

/-- A window descends without the creations that do not create it. -/
theorem Descends.of_append
    {activeWindow window : UInt32}
    {earlier later : List (UInt32 × UInt32)}
    {depth : Nat}
    (descends : Descends activeWindow (earlier ++ later) window depth)
    (others : ∀ creation ∈ later, creation.2 ≠ window) :
    Descends activeWindow earlier window depth := by
  induction later using List.reverseRecOn with
  | nil =>
      rwa [List.append_nil] at descends
  | append_singleton later creation inductionHypothesis =>
      rw [← List.append_assoc] at descends
      rcases descends_append_iff.mp descends with before | ⟨same, -⟩
      · exact inductionHypothesis before fun other member =>
          others other (List.mem_append_left _ member)
      · exact (others creation (by simp) same.symm).elim

/-- A window was created below the active one, whichever call returned
first. -/
inductive CreatedBelow
    (activeWindow : UInt32)
    (creations : List (UInt32 × UInt32)) : UInt32 → Prop
  | child
      {window : UInt32}
      (isActive : activeWindow ≠ 0)
      (isWindow : window ≠ 0)
      (created : (activeWindow, window) ∈ creations) :
      CreatedBelow activeWindow creations window
  | deeper
      {parentWindow window : UInt32}
      (parentBelow : CreatedBelow activeWindow creations parentWindow)
      (isWindow : window ≠ 0)
      (created : (parentWindow, window) ∈ creations) :
      CreatedBelow activeWindow creations window

/-- No call that creates a window returns before one that creates its
parent: no window is created during a call that creates its parent. -/
def ParentsFirst (creations : List (UInt32 × UInt32)) : Prop :=
  creations.Pairwise fun earlier later => later.2 ≠ earlier.1

/-- What descends was created below the active window. -/
theorem Descends.createdBelow
    {activeWindow window : UInt32}
    {creations : List (UInt32 × UInt32)}
    {depth : Nat}
    (descends : Descends activeWindow creations window depth) :
    CreatedBelow activeWindow creations window := by
  have more :
      ∀ {earlier : List (UInt32 × UInt32)} {window : UInt32} creation,
        CreatedBelow activeWindow earlier window →
          CreatedBelow activeWindow (earlier ++ [creation]) window := by
    intro earlier window creation isBelow
    induction isBelow with
    | child isActive isWindow created =>
        exact .child isActive isWindow (List.mem_append_left _ created)
    | deeper _ isWindow created inductionHypothesis =>
        exact .deeper inductionHypothesis isWindow
          (List.mem_append_left _ created)
  induction descends with
  | child isActive isWindow =>
      exact .child isActive isWindow (by simp)
  | deeper _ isWindow inductionHypothesis =>
      exact .deeper (more _ inductionHypothesis) isWindow (by simp)
  | later _ inductionHypothesis =>
      exact more _ inductionHypothesis

/-- Where parents come first, all those windows descend. -/
theorem CreatedBelow.descends
    {activeWindow window : UInt32}
    {creations : List (UInt32 × UInt32)}
    (isBelow : CreatedBelow activeWindow creations window)
    (parentsFirst : ParentsFirst creations) :
    ∃ depth, Descends activeWindow creations window depth := by
  induction isBelow with
  | @child window isActive isWindow created =>
      obtain ⟨earlier, later, rfl⟩ := List.append_of_mem created
      have isChild :
          Descends activeWindow (earlier ++ [(activeWindow, window)]) window
            1 :=
        .child isActive isWindow
      rw [List.append_cons]
      exact ⟨1, isChild.append later⟩
  | @deeper parentWindow window _ isWindow created inductionHypothesis =>
      obtain ⟨depth, parentDescends⟩ := inductionHypothesis
      by_cases same : window = parentWindow
      · exact ⟨depth, same ▸ parentDescends⟩
      · obtain ⟨earlier, later, rfl⟩ := List.append_of_mem created
        -- The parent descends already when the call returns.
        have parentBefore :
            Descends activeWindow earlier parentWindow depth := by
          refine parentDescends.of_append ?_
          have pairs := (List.pairwise_append.mp parentsFirst).2.1
          intro creation member
          rcases List.mem_cons.mp member with rfl | isLater
          · exact same
          · exact (List.pairwise_cons.mp pairs).1 creation isLater
        have isDeeper := Descends.deeper parentBefore isWindow
        rw [List.append_cons]
        exact ⟨depth + 1, isDeeper.append later⟩

/-! ## Keeping track -/

/-- The children are windows that descend from the active one, each once, and
all of them unless every place is taken. -/
structure CreationState.Tracks
    (state : CreationState)
    (creations : List (UInt32 × UInt32)) : Prop where
  bounded : state.createdChildren.length ≤ kCreatedChildrenCapacity
  unique : (state.createdChildren.map Prod.fst).Nodup
  nonzero : ∀ child ∈ state.createdChildren, child.1 ≠ 0
  shallow : ∀ child ∈ state.createdChildren,
    child.2.toNat ≤ state.createdChildren.length
  sound : ∀ child ∈ state.createdChildren,
    Descends state.activeWindow creations child.1 child.2.toNat
  complete : ∀ window depth,
    Descends state.activeWindow creations window depth →
      window ∈ state.createdChildren.map Prod.fst ∨
        state.createdChildren.length = kCreatedChildrenCapacity

/-- A child is found with its depth. -/
theorem CreationState.Tracks.find_of_mem
    {state : CreationState}
    {creations : List (UInt32 × UInt32)}
    (tracks : state.Tracks creations)
    {child : UInt32 × UInt32}
    (member : child ∈ state.createdChildren) :
    findActivePetInfoCreatedChildDepth state.createdChildren child.1 =
      child.2 := by
  have isFound :
      (state.createdChildren.find? fun other =>
          decide (other.1 = child.1)) =
        some child := by
    cases found :
        state.createdChildren.find? fun other =>
          decide (other.1 = child.1) with
    | none =>
        have absent := List.find?_eq_none.mp found child member
        simp at absent
    | some other =>
        have same : other.1 = child.1 := by
          simpa using List.find?_some found
        exact congrArg some
          (List.inj_on_of_nodup_map tracks.unique
            (List.mem_of_find?_eq_some found) member same)
  rw [findActivePetInfoCreatedChildDepth,
    if_neg (tracks.nonzero child member), isFound]
  rfl

/-- Other windows are not. -/
theorem find_of_not_mem
    {children : CreatedChildren}
    {window : UInt32}
    (absent : window ∉ children.map Prod.fst) :
    findActivePetInfoCreatedChildDepth children window = kNoDepth := by
  have notFound :
      (children.find? fun child => decide (child.1 = window)) = none := by
    apply List.find?_eq_none.mpr
    intro child member same
    exact absent (List.mem_map.mpr ⟨child, member, by simpa using same⟩)
  rw [findActivePetInfoCreatedChildDepth, notFound]
  split <;> rfl

/-- No child is as deep as no depth. -/
theorem CreationState.Tracks.ne_noDepth
    {state : CreationState}
    {creations : List (UInt32 × UInt32)}
    (tracks : state.Tracks creations)
    {child : UInt32 × UInt32}
    (member : child ∈ state.createdChildren) :
    child.2 ≠ kNoDepth := by
  intro isNone
  have shallow := tracks.shallow child member
  have bounded := tracks.bounded
  rw [isNone] at shallow
  have tooDeep : kNoDepth.toNat ≤ 256 := shallow.trans bounded
  exact absurd tooDeep (by decide)

/-- The windows with a depth are the children. -/
theorem CreationState.Tracks.matchesDescendant_iff
    {state : CreationState}
    {creations : List (UInt32 × UInt32)}
    (tracks : state.Tracks creations)
    (window : UInt32) :
    state.MatchesDescendant window ↔
      window ∈ state.createdChildren.map Prod.fst := by
  constructor
  · intro hasDepth
    by_contra absent
    exact hasDepth (find_of_not_mem absent)
  · intro isChild
    obtain ⟨child, member, rfl⟩ := List.mem_map.mp isChild
    rw [MatchesDescendant, tracks.find_of_mem member]
    exact tracks.ne_noDepth member

/-- The depth of a created window is its parent's, plus one. -/
theorem CreationState.Tracks.resultDepth_cases
    {state : CreationState}
    {creations : List (UInt32 × UInt32)}
    (tracks : state.Tracks creations)
    (parentWindow : UInt32) :
    (state.MatchesActive parentWindow ∧
        (state.resultDepth parentWindow).toNat = 1) ∨
      (∃ child ∈ state.createdChildren,
        child.1 = parentWindow ∧
          (state.resultDepth parentWindow).toNat = child.2.toNat + 1) ∨
      (¬ state.MatchesActive parentWindow ∧
        parentWindow ∉ state.createdChildren.map Prod.fst ∧
          state.resultDepth parentWindow = 0) := by
  by_cases isActive : state.MatchesActive parentWindow
  · refine .inl ⟨isActive, ?_⟩
    rw [resultDepth, if_pos isActive]
    rfl
  · by_cases isChild : state.MatchesDescendant parentWindow
    · obtain ⟨child, member, rfl⟩ :=
        List.mem_map.mp ((tracks.matchesDescendant_iff _).mp isChild)
      refine .inr (.inl ⟨child, member, rfl, ?_⟩)
      have shallow := tracks.shallow child member
      have bounded : state.createdChildren.length ≤ 256 := tracks.bounded
      rw [resultDepth, if_neg isActive, if_pos isChild,
        tracks.find_of_mem member, UInt32.toNat_add]
      change (child.2.toNat + 1) % 2 ^ 32 = _
      omega
    · refine .inr (.inr ⟨isActive, ?_, ?_⟩)
      · exact fun member =>
          isChild ((tracks.matchesDescendant_iff _).mpr member)
      · rw [resultDepth, if_neg isActive, if_neg isChild]

/-- A window with a depth descends from the active one, not too deep. -/
theorem CreationState.Tracks.descends_created
    {state : CreationState}
    {creations : List (UInt32 × UInt32)}
    (tracks : state.Tracks creations)
    {parentWindow result : UInt32}
    (isWindow : result ≠ 0)
    (hasDepth : state.resultDepth parentWindow ≠ 0) :
    Descends state.activeWindow (creations ++ [(parentWindow, result)])
        result (state.resultDepth parentWindow).toNat ∧
      (state.resultDepth parentWindow).toNat ≤
        state.createdChildren.length + 1 := by
  rcases tracks.resultDepth_cases parentWindow with
    ⟨⟨isActive, rfl⟩, depth⟩ | ⟨child, member, rfl, depth⟩ |
      ⟨_, _, noDepth⟩
  · rw [depth]
    exact ⟨.child isActive isWindow, Nat.le_add_left 1 _⟩
  · rw [depth]
    exact ⟨.deeper (tracks.sound child member) isWindow,
      Nat.succ_le_succ (tracks.shallow child member)⟩
  · exact (hasDepth noDepth).elim

/-- Recording a created window adds it or keeps the children. -/
theorem recordActivePetInfoCreatedChild_cases
    (children : CreatedChildren)
    (window depth : UInt32) :
    (window ≠ 0 ∧ depth ≠ 0 ∧
        children.length < kCreatedChildrenCapacity ∧
        findActivePetInfoCreatedChildDepth children window = kNoDepth ∧
        recordActivePetInfoCreatedChild children window depth =
          children ++ [(window, depth)]) ∨
      ((window = 0 ∨ depth = 0 ∨
          kCreatedChildrenCapacity ≤ children.length ∨
          findActivePetInfoCreatedChildDepth children window ≠ kNoDepth) ∧
        recordActivePetInfoCreatedChild children window depth =
          children) := by
  unfold recordActivePetInfoCreatedChild
  split
  · rename_i refused
    rcases refused with null | noDepth | full
    · exact .inr ⟨.inl null, rfl⟩
    · exact .inr ⟨.inr (.inl noDepth), rfl⟩
    · exact .inr ⟨.inr (.inr (.inl full)), rfl⟩
  · rename_i accepted
    simp only [not_or, not_le] at accepted
    split
    · rename_i known
      exact .inr ⟨.inr (.inr (.inr known)), rfl⟩
    · rename_i unknown
      exact .inl ⟨accepted.1, accepted.2.1, accepted.2.2,
        not_not.mp unknown, rfl⟩

/-- The children when a window that is created is added to them. -/
theorem CreationState.Tracks.added
    {state : CreationState}
    {creations : List (UInt32 × UInt32)}
    (tracks : state.Tracks creations)
    {parentWindow result : UInt32}
    (isWindow : result ≠ 0)
    (hasDepth : state.resultDepth parentWindow ≠ 0)
    (room : state.createdChildren.length < kCreatedChildrenCapacity)
    (unknown :
      findActivePetInfoCreatedChildDepth state.createdChildren result =
        kNoDepth)
    (gaugeWindows : Vector UInt32 2) :
    CreationState.Tracks
      { state with
        createdChildren :=
          state.createdChildren ++
            [(result, state.resultDepth parentWindow)]
        gaugeWindows := gaugeWindows }
      (creations ++ [(parentWindow, result)]) := by
  have absent : result ∉ state.createdChildren.map Prod.fst := by
    intro member
    exact (tracks.matchesDescendant_iff result).mpr member unknown
  obtain ⟨descends, shallow⟩ := tracks.descends_created isWindow hasDepth
  constructor
  · rw [List.length_append]
    exact room
  · rw [List.map_append, List.nodup_append]
    refine ⟨tracks.unique, List.nodup_singleton _, ?_⟩
    rintro window member other isLast rfl
    obtain rfl : window = result := by simpa using isLast
    exact absent member
  · intro child member
    rcases List.mem_append.mp member with earlier | isLast
    · exact tracks.nonzero child earlier
    · obtain rfl := List.mem_singleton.mp isLast
      exact isWindow
  · intro child member
    simp only [List.length_append, List.length_singleton]
    rcases List.mem_append.mp member with earlier | isLast
    · exact (tracks.shallow child earlier).trans (Nat.le_succ _)
    · obtain rfl := List.mem_singleton.mp isLast
      exact shallow
  · intro child member
    rcases List.mem_append.mp member with earlier | isLast
    · exact .later (tracks.sound child earlier)
    · obtain rfl := List.mem_singleton.mp isLast
      exact descends
  · intro window depth descends
    left
    rw [List.map_append, List.mem_append]
    rcases descends_append_iff.mp descends with earlier | ⟨rfl, _⟩
    · rcases tracks.complete window depth earlier with isChild | full
      · exact .inl isChild
      · exact (room.ne full).elim
    · exact .inr (List.mem_singleton_self window)

/-- The children when a window that is created is not added. -/
theorem CreationState.Tracks.kept
    {state : CreationState}
    {creations : List (UInt32 × UInt32)}
    (tracks : state.Tracks creations)
    {parentWindow result : UInt32}
    (refused :
      result = 0 ∨ state.resultDepth parentWindow = 0 ∨
        kCreatedChildrenCapacity ≤ state.createdChildren.length ∨
        findActivePetInfoCreatedChildDepth state.createdChildren result ≠
          kNoDepth)
    (gaugeWindows : Vector UInt32 2) :
    CreationState.Tracks
      { state with gaugeWindows := gaugeWindows }
      (creations ++ [(parentWindow, result)]) := by
  constructor
  · exact tracks.bounded
  · exact tracks.unique
  · exact tracks.nonzero
  · exact tracks.shallow
  · exact fun child member => .later (tracks.sound child member)
  · intro window depth descends
    rcases descends_append_iff.mp descends with
      earlier | ⟨rfl, isWindow, below⟩
    · exact tracks.complete window depth earlier
    · rcases refused with null | noDepth | full | isChild
      · exact (isWindow null).elim
      · rcases tracks.resultDepth_cases parentWindow with
          ⟨_, hasDepth⟩ | ⟨child, _, _, hasDepth⟩ | ⟨notActive, absent, _⟩
        · simp [noDepth] at hasDepth
        · simp [noDepth] at hasDepth
        · rcases below with ⟨isActive, same, _⟩ | ⟨_, parentDescends, _⟩
          · exact (notActive ⟨isActive, same⟩).elim
          · exact .inr
              ((tracks.complete _ _ parentDescends).resolve_left absent)
      · exact .inr (Nat.le_antisymm tracks.bounded full)
      · exact .inl ((tracks.matchesDescendant_iff window).mp isChild)

/-! ## Runs -/

section Tracking

variable (moduleBase : UInt32)

/-- Where no window descends from the active one, no children are right. -/
theorem CreationState.tracks_empty
    (activeWindow : UInt32)
    (suspendedWindows : List UInt32)
    (gaugeWindows : Vector UInt32 2) :
    CreationState.Tracks ⟨activeWindow, suspendedWindows, [], gaugeWindows⟩
      [] where
  bounded := Nat.zero_le _
  unique := List.nodup_nil
  nonzero := fun _ member => nomatch member
  shallow := fun _ member => nomatch member
  sound := fun _ member => nomatch member
  complete := fun _ _ descends => (not_descends_nil descends).elim

/-- Every event keeps track. -/
theorem CreationState.Tracks.step
    {state : CreationState}
    {creations : List (UInt32 × UInt32)}
    (tracks : state.Tracks creations)
    (event : CreationEvent) :
    (creationStep moduleBase state event).Tracks
      (noteCreation creations event) := by
  cases event with
  | enterCreateChildren window =>
      exact CreationState.tracks_empty _ _ _
  | leaveCreateChildren =>
      exact CreationState.tracks_empty _ _ _
  | created memory parentWindow result =>
      rw [creationStep, sidlCreateChildFromTemplate, noteCreation]
      by_cases recognizes : state.Recognizes moduleBase memory parentWindow
      · rw [if_pos recognizes]
        rcases recordActivePetInfoCreatedChild_cases state.createdChildren
            result (state.resultDepth parentWindow) with
          ⟨isWindow, hasDepth, room, unknown, isAdded⟩ | ⟨refused, isKept⟩
        · rw [isAdded]
          exact tracks.added isWindow hasDepth room unknown _
        · rw [isKept]
          exact tracks.kept refused _
      · rw [if_neg recognizes]
        refine tracks.kept (.inr (.inl ?_)) state.gaugeWindows
        rw [resultDepth, if_neg fun isActive => recognizes (.inl isActive),
          if_neg fun isChild => recognizes (.inr (.inl isChild))]
  | forgetGauges =>
      exact ⟨tracks.bounded, tracks.unique, tracks.nonzero, tracks.shallow,
        tracks.sound, tracks.complete⟩

/-- So every run keeps track. -/
theorem tracks_creationAfter (events : List CreationEvent) :
    (creationAfter moduleBase events).Tracks (currentCreations events) :=
  Runs.simulation (fun _ _ event tracks => tracks.step moduleBase event)
    (CreationState.tracks_empty 0 [] (.replicate 2 0)) events

/-- A parent that is the Pet Info window or the active one, or descends from
the active one. -/
def Inside
    (events : List CreationEvent)
    (memory : Memory)
    (parentWindow : UInt32) : Prop :=
  MatchesPetInfo moduleBase memory parentWindow ∨
    (creationAfter moduleBase events).MatchesActive parentWindow ∨
    ∃ depth,
      Descends (creationAfter moduleBase events).activeWindow
        (currentCreations events) parentWindow depth

/-- Only such parents are recognized. -/
theorem inside_of_recognizes
    {events : List CreationEvent}
    {memory : Memory}
    {parentWindow : UInt32}
    (recognizes :
      (creationAfter moduleBase events).Recognizes moduleBase memory
        parentWindow) :
    Inside moduleBase events memory parentWindow := by
  have tracks := tracks_creationAfter moduleBase events
  rcases recognizes with isActive | isChild | isPetInfo
  · exact .inr (.inl isActive)
  · obtain ⟨child, member, rfl⟩ :=
      List.mem_map.mp ((tracks.matchesDescendant_iff _).mp isChild)
    exact .inr (.inr ⟨_, tracks.sound child member⟩)
  · exact .inl isPetInfo

/-- A gauge window of a slot was created inside the Pet Info window as the gauge
of that slot; none was since, and the gauge windows were not forgotten. -/
def OpenedInside
    (slot : Nat)
    (window : UInt32)
    (events : List CreationEvent) : Prop :=
  ∃ earlier memory parentWindow later,
    events = earlier ++ .created memory parentWindow window :: later ∧
      extraPetGaugeSlot memory window = some slot ∧
      Inside moduleBase earlier memory parentWindow ∧
      .forgetGauges ∉ later ∧
      ∀ middle otherMemory otherParent other rest,
        later = middle ++ .created otherMemory otherParent other :: rest →
          extraPetGaugeSlot otherMemory other = some slot →
            ¬ (creationAfter moduleBase
                (earlier ++ .created memory parentWindow window ::
                  middle)).Recognizes moduleBase otherMemory otherParent

variable {moduleBase}

/-- Events that open no gauge of the slot leave its window opened. -/
theorem OpenedInside.append
    {slot : Nat}
    {window : UInt32}
    {events : List CreationEvent}
    (opened : OpenedInside moduleBase slot window events)
    {event : CreationEvent}
    (kept : event ≠ .forgetGauges)
    (opensNone :
      ∀ memory parentWindow other,
        event = .created memory parentWindow other →
          extraPetGaugeSlot memory other = some slot →
            ¬ (creationAfter moduleBase events).Recognizes moduleBase memory
              parentWindow) :
    OpenedInside moduleBase slot window (events ++ [event]) := by
  obtain ⟨earlier, memory, parentWindow, later, rfl, isGauge, inside,
    remembered, noneSince⟩ := opened
  refine ⟨earlier, memory, parentWindow, later ++ [event], by simp, isGauge,
    inside, ?_, ?_⟩
  · simpa using ⟨remembered, kept.symm⟩
  · intro middle otherMemory otherParent other rest split otherIsGauge
    rcases List.eq_nil_or_concat rest with rfl | ⟨front, last, rfl⟩
    · obtain ⟨rfl, same⟩ := List.append_inj' split rfl
      exact opensNone _ _ _ (List.singleton_inj.mp same) otherIsGauge
    · have inLater :
          later =
            middle ++ .created otherMemory otherParent other :: front := by
        have shape :
            later ++ [event] =
              (middle ++ .created otherMemory otherParent other :: front) ++
                [last] := by
          rw [split]
          simp
        exact (List.append_inj' shape rfl).1
      exact noneSince middle otherMemory otherParent other front inLater
        otherIsGauge

/-- The window of a slot after one more creation. -/
theorem gaugeWindows_created
    (state : CreationState)
    (memory : Memory)
    (parentWindow result : UInt32)
    (slot : Nat) :
    readMultiPetExtraPetGaugeWindow
        (creationStep moduleBase state
          (.created memory parentWindow result)).gaugeWindows slot =
      if state.Recognizes moduleBase memory parentWindow ∧
          extraPetGaugeSlot memory result = some slot then
        result
      else
        readMultiPetExtraPetGaugeWindow state.gaugeWindows slot := by
  rw [creationStep, sidlCreateChildFromTemplate]
  by_cases recognizes : state.Recognizes moduleBase memory parentWindow
  · rw [if_pos recognizes]
    simp only [recognizes, true_and]
    cases isGauge : extraPetGaugeSlot memory result with
    | none =>
        simp
    | some other =>
        have inside : other < 2 := by
          simp only [extraPetGaugeSlot, bind, Option.bind_eq_some_iff]
            at isGauge
          obtain ⟨_, _, _, _, isSlot⟩ := isGauge
          exact multiPetSlotFromEqType_lt isSlot
        simp only [readMultiPetExtraPetGaugeWindow, Option.some.injEq,
          Vector.getElem?_setIfInBounds, if_pos inside]
        split <;> rfl
  · rw [if_neg recognizes, if_neg fun both => recognizes both.1]

theorem noGauges (slot : Nat) :
    readMultiPetExtraPetGaugeWindow (.replicate 2 0) slot = 0 := by
  unfold readMultiPetExtraPetGaugeWindow
  rw [Vector.getElem?_replicate]
  split <;> rfl

/-- Every gauge window was opened inside the Pet Info window. -/
theorem openedInside_of_gaugeWindows
    (events : List CreationEvent)
    (slot : Nat)
    (isWindow :
      readMultiPetExtraPetGaugeWindow
          (creationAfter moduleBase events).gaugeWindows slot ≠
        0) :
    OpenedInside moduleBase slot
      (readMultiPetExtraPetGaugeWindow
        (creationAfter moduleBase events).gaugeWindows slot)
      events := by
  induction events using List.reverseRecOn with
  | nil =>
      exact (isWindow (noGauges slot)).elim
  | append_singleton earlier event inductionHypothesis =>
      have last :
          creationAfter moduleBase (earlier ++ [event]) =
            creationStep moduleBase (creationAfter moduleBase earlier)
              event := by
        rw [creationAfter, Runs.run_append, Runs.run_cons, Runs.run_nil]
        rfl
      rw [last] at isWindow ⊢
      cases event with
      | enterCreateChildren window =>
          exact (inductionHypothesis isWindow).append
            CreationEvent.noConfusion fun _ _ _ other =>
              CreationEvent.noConfusion other
      | leaveCreateChildren =>
          exact (inductionHypothesis isWindow).append
            CreationEvent.noConfusion fun _ _ _ other =>
              CreationEvent.noConfusion other
      | created memory parentWindow result =>
          rw [gaugeWindows_created] at isWindow ⊢
          by_cases opens :
              (creationAfter moduleBase earlier).Recognizes moduleBase memory
                  parentWindow ∧
                extraPetGaugeSlot memory result = some slot
          · rw [if_pos opens]
            refine ⟨earlier, memory, parentWindow, [], rfl, opens.2,
              inside_of_recognizes moduleBase opens.1, List.not_mem_nil, ?_⟩
            intro middle _ _ _ _ split
            simp at split
          · rw [if_neg opens] at isWindow ⊢
            refine (inductionHypothesis isWindow).append
              CreationEvent.noConfusion ?_
            intro otherMemory otherParent other same isGauge recognizes
            cases same
            exact opens ⟨recognizes, isGauge⟩
      | forgetGauges =>
          exact (isWindow (noGauges slot)).elim

variable (moduleBase)

/-- At most as many windows descend from the active one as there is room
for. -/
def RoomForAll
    (activeWindow : UInt32)
    (creations : List (UInt32 × UInt32)) : Prop :=
  ∀ windows : List UInt32,
    windows.Nodup →
      (∀ window ∈ windows, ∃ depth,
          Descends activeWindow creations window depth) →
        windows.length ≤ kCreatedChildrenCapacity

/-- With room for all of them, the children are the windows that descend. -/
theorem CreationState.Tracks.isChild_iff
    {state : CreationState}
    {creations : List (UInt32 × UInt32)}
    (tracks : state.Tracks creations)
    (room : RoomForAll state.activeWindow creations)
    (window : UInt32) :
    window ∈ state.createdChildren.map Prod.fst ↔
      ∃ depth, Descends state.activeWindow creations window depth := by
  have descend :
      ∀ child ∈ state.createdChildren.map Prod.fst, ∃ depth,
        Descends state.activeWindow creations child depth := by
    intro window isChild
    obtain ⟨child, member, rfl⟩ := List.mem_map.mp isChild
    exact ⟨_, tracks.sound child member⟩
  constructor
  · exact descend window
  · rintro ⟨depth, descends⟩
    by_contra missed
    -- One that is missed beside a full table would be one too many.
    have full := (tracks.complete window depth descends).resolve_left missed
    have tooMany :=
      room (window :: state.createdChildren.map Prod.fst)
        (List.nodup_cons.mpr ⟨missed, tracks.unique⟩)
        (List.forall_mem_cons.mpr ⟨⟨depth, descends⟩, descend⟩)
    rw [List.length_cons, List.length_map, full] at tooMany
    omega

/-- A window that is created during the call that creates its parent is not
noted, although it was created below the active window. -/
example :
    (creationAfter 0x400000
        [.enterCreateChildren 1,
          .created ⟨fun _ => 0, fun _ => true, fun _ => true⟩ 2 3,
          .created ⟨fun _ => 0, fun _ => true, fun _ => true⟩ 1
            2]).createdChildren =
      [(2, 1)] := by
  decide +kernel

end Tracking

end MonomythClient.PetInfoChildren
