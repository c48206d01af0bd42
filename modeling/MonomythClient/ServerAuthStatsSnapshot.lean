import MonomythClient.Runs
import MonomythClient.ServerAuthStatsParser

namespace MonomythClient.ServerAuthStats

open PayloadReader

/-!
# The server-auth snapshot over runs of payloads

Each valid payload is stored into the globals that a snapshot copies.  The
class mask is stored only when the payload carries it and so survives later
payloads; the other stats are stored in any case and describe the last valid
payload alone.
-/

/-! ## Globals -/

/-- A value with the flag that says whether it is present. -/
structure Stored (Value : Type) where
  has : Bool
  value : Value
  deriving Repr, DecidableEq

/-- What the source keeps of a field of the parse result. -/
def StatField.stored
    {Value : Type}
    (field : StatField Value) :
    Stored Value where
  has := field.has
  value := field.value

/-- `Snapshot`, one member for each pair of globals. -/
structure Snapshot where
  classesBitmask : Stored UInt32
  activatedSkillMaskLow : Stored UInt64
  activatedSkillMaskHigh : Stored UInt64
  extraPetHp1000 : Vector (Stored UInt64) 2
  focusedPetId : Stored UInt32
  deriving Repr, DecidableEq

/-- The globals, which hold what a snapshot copies. -/
abbrev Globals := Snapshot

/-- The globals before any payload. -/
def Globals.initial : Globals where
  classesBitmask := ⟨false, 0⟩
  activatedSkillMaskLow := ⟨false, 0⟩
  activatedSkillMaskHigh := ⟨false, 0⟩
  extraPetHp1000 := #v[⟨false, 0⟩, ⟨false, 0⟩]
  focusedPetId := ⟨false, 0⟩

/-- `GetSnapshot`. -/
def getSnapshot (globals : Globals) : Snapshot :=
  globals

/-- `StoreClassesBitmask`. -/
def storeClassesBitmask (bitmask : UInt32) (globals : Globals) : Globals :=
  { globals with classesBitmask := ⟨true, bitmask⟩ }

/-- `StoreActivatedSkillMasks`. -/
def storeActivatedSkillMasks
    (result : ParseResult)
    (globals : Globals) :
    Globals :=
  { globals with
    activatedSkillMaskLow := result.activatedSkillMaskLow.stored
    activatedSkillMaskHigh := result.activatedSkillMaskHigh.stored }

/-- `StoreExtraPetHp1000`. -/
def storeExtraPetHp1000
    (result : ParseResult)
    (globals : Globals) :
    Globals :=
  { globals with
    extraPetHp1000 := result.extraPetHp1000.map StatField.stored }

/-- `StoreFocusedPetId`. -/
def storeFocusedPetId
    (result : ParseResult)
    (globals : Globals) :
    Globals :=
  { globals with focusedPetId := result.focusedPetId.stored }

/-- The stores that a valid result makes. -/
def storeResult (result : ParseResult) (globals : Globals) : Globals :=
  let globals :=
    if result.classesBitmask.has then
      storeClassesBitmask result.classesBitmask.value globals
    else
      globals
  let globals := storeActivatedSkillMasks result globals
  let globals := storeExtraPetHp1000 result globals
  storeFocusedPetId result globals

/-- `ObserveReceivePayload`; its log lines are left out. -/
def observeReceivePayload (globals : Globals) (payload : Payload) : Globals :=
  let result := parsePayload payload.pointer payload.length
  if result.valid then
    storeResult result globals
  else
    globals

/-! ## One payload -/

/-- The entries of a payload that parses. -/
def validEntries (payload : Payload) : Option (List StatEntry) :=
  payload.pointer.bind fun contents =>
    if WellSized contents then some (statEntries contents) else none

/-- A null payload is never valid. -/
theorem parsePayload_null (length : UInt32) :
    (parsePayload none length).valid = false := by
  by_cases empty : length = 0
  · subst empty
    rfl
  · simp [parsePayload, empty, ParseResult.initial]

/-- The bytes behind a payload's pointer, as its parser sees them. -/
theorem parsePayload_contents
    (payload : Payload)
    {contents : List UInt8}
    (pointsTo : payload.pointer = some contents) :
    parsePayload payload.pointer payload.length = verdict contents := by
  have size : contents.length = payload.length.toNat :=
    payload.readable contents pointsTo
  have fits : contents.length < 2 ^ 32 := size ▸ payload.length.toNat_lt
  have parsed := parsePayload_eq_verdict fits []
  rwa [List.append_nil, size, UInt32.ofNat_toNat, ← pointsTo] at parsed

/-- A payload with valid entries parses to their summary. -/
theorem parsePayload_of_valid
    {payload : Payload}
    {entries : List StatEntry}
    (valid : validEntries payload = some entries) :
    parsePayload payload.pointer payload.length = summarize entries := by
  obtain ⟨contents, pointsTo, accepted⟩ := Option.bind_eq_some_iff.mp valid
  rw [parsePayload_contents payload pointsTo]
  by_cases wellSized : WellSized contents
  · rw [if_pos wellSized] at accepted
    cases accepted
    exact verdict_of_wellSized wellSized
  · rw [if_neg wellSized] at accepted
    contradiction

/-- A payload without them does not parse. -/
theorem parsePayload_of_invalid
    {payload : Payload}
    (invalid : validEntries payload = none) :
    (parsePayload payload.pointer payload.length).valid = false := by
  cases pointsTo : payload.pointer with
  | none =>
      exact parsePayload_null payload.length
  | some contents =>
      rw [← pointsTo, parsePayload_contents payload pointsTo]
      refine eq_false_of_ne_true fun accepted => ?_
      have wellSized := (verdict_valid_iff contents).mp accepted
      rw [validEntries, pointsTo, Option.bind_some, if_pos wellSized]
        at invalid
      contradiction

/-- Being valid is having valid entries. -/
theorem parsePayload_valid_iff (payload : Payload) :
    (parsePayload payload.pointer payload.length).valid = true ↔
      ∃ entries, validEntries payload = some entries := by
  cases entries : validEntries payload with
  | none =>
      simp [parsePayload_of_invalid entries]
  | some found =>
      simp [parsePayload_of_valid entries, summarize]

/-- One payload stores its summary, or leaves the globals alone. -/
theorem observeReceivePayload_eq
    (globals : Globals)
    (payload : Payload) :
    observeReceivePayload globals payload =
      ((validEntries payload).map fun entries =>
        storeResult (summarize entries) globals).getD globals := by
  cases valid : validEntries payload with
  | none =>
      simp [observeReceivePayload, parsePayload_of_invalid valid]
  | some entries =>
      simp [observeReceivePayload, parsePayload_of_valid valid, summarize]

/-! ## Runs of payloads -/

/-- The globals after some payloads, in order. -/
def observeAll (initial : Globals) (payloads : List Payload) : Globals :=
  Runs.run observeReceivePayload initial payloads

/-- The entries of the payloads that parse, one list for each. -/
def validPackets (payloads : List Payload) : List (List StatEntry) :=
  payloads.filterMap validEntries

/-- Every class mask in range that a valid payload carried, in order. -/
def receivedMasks (payloads : List Payload) : List UInt32 :=
  inRange (valuesOf kStatClassesBitmaskKey (validPackets payloads).flatten)

/-- The last of some values, reported present if there is one. -/
def Stored.carried
    {Value : Type}
    [OfNat Value 0]
    (values : List Value) :
    Stored Value where
  has := decide (values ≠ [])
  value := values.getLast?.getD 0

/-- The globals but for the class mask. -/
def withoutClassesBitmask (globals : Globals) : Globals :=
  { globals with classesBitmask := ⟨false, 0⟩ }

/-- A valid result replaces the class mask when it carries one. -/
theorem classesBitmask_storeResult
    (result : ParseResult)
    (globals : Globals) :
    (storeResult result globals).classesBitmask =
      if result.classesBitmask.has then
        ⟨true, result.classesBitmask.value⟩
      else
        globals.classesBitmask := by
  unfold storeResult
  split
  · rfl
  · rfl

/-- A valid result replaces all the rest in any case. -/
theorem withoutClassesBitmask_storeResult
    (result : ParseResult)
    (globals : Globals) :
    withoutClassesBitmask (storeResult result globals) =
      { classesBitmask := ⟨false, 0⟩
        activatedSkillMaskLow := result.activatedSkillMaskLow.stored
        activatedSkillMaskHigh := result.activatedSkillMaskHigh.stored
        extraPetHp1000 := result.extraPetHp1000.map StatField.stored
        focusedPetId := result.focusedPetId.stored } := by
  unfold storeResult
  split
  · rfl
  · rfl

/-- Both extra-pet slots are stored as their entries carried them. -/
theorem extraPetHp1000_stored (entries : List StatEntry) :
    (summarize entries).extraPetHp1000.map StatField.stored =
      #v[.carried (valuesOf kStatExtraPet0Hp1000Key entries),
        .carried (valuesOf kStatExtraPet1Hp1000Key entries)] := by
  simp [summarize, tally, StatField.stored, StatField.ofAccepted,
    Stored.carried]

/-- The class mask after one payload. -/
theorem classesBitmask_observeReceivePayload
    (globals : Globals)
    (payload : Payload) :
    (observeReceivePayload globals payload).classesBitmask =
      ((receivedMasks [payload]).getLast?.map fun mask =>
        (⟨true, mask⟩ : Stored UInt32)).getD globals.classesBitmask := by
  rw [observeReceivePayload_eq]
  cases valid : validEntries payload with
  | none =>
      simp [receivedMasks, validPackets, valid, valuesOf]
  | some entries =>
      simp only [Option.map_some, Option.getD_some, receivedMasks,
        validPackets, List.filterMap_cons, valid, List.filterMap_nil,
        List.flatten_cons, List.flatten_nil, List.append_nil,
        classesBitmask_storeResult, summarize, tally,
        StatField.ofAccepted]
      generalize inRange (valuesOf kStatClassesBitmaskKey entries) = masks
      cases last : masks.getLast? with
      | none =>
          simp [List.getLast?_eq_none_iff.mp last]
      | some mask =>
          have carried : masks ≠ [] := by
            intro empty
            simp [empty] at last
          simp [carried]

/-- Masks received in two runs are received in the one after the other. -/
theorem receivedMasks_append (earlier later : List Payload) :
    receivedMasks (earlier ++ later) =
      receivedMasks earlier ++ receivedMasks later := by
  simp [receivedMasks, validPackets, valuesOf, inRange]

/-- The class mask after a run is the last one received in it. -/
theorem classesBitmask_observeAll
    (initial : Globals)
    (payloads : List Payload) :
    (observeAll initial payloads).classesBitmask =
      ((receivedMasks payloads).getLast?.map fun mask =>
        (⟨true, mask⟩ : Stored UInt32)).getD initial.classesBitmask := by
  induction payloads using List.reverseRecOn with
  | nil =>
      rfl
  | append_singleton earlier payload inductionHypothesis =>
      rw [observeAll, Runs.run_append, Runs.run_cons, Runs.run_nil,
        classesBitmask_observeReceivePayload, receivedMasks_append,
        List.getLast?_append]
      change (Option.map _ _).getD (observeAll initial earlier).classesBitmask
        = _
      rw [inductionHypothesis]
      cases (receivedMasks [payload]).getLast? with
      | none =>
          rfl
      | some mask =>
          rfl

/-- All the rest after a run is what the last valid payload carried. -/
theorem withoutClassesBitmask_observeAll
    (initial : Globals)
    (payloads : List Payload) :
    withoutClassesBitmask (observeAll initial payloads) =
      ((validPackets payloads).getLast?.map fun entries =>
        withoutClassesBitmask
          (storeResult (summarize entries) .initial)).getD
        (withoutClassesBitmask initial) := by
  have replaces :
      ∀ globals payload,
        withoutClassesBitmask (observeReceivePayload globals payload) =
          ((validEntries payload).map fun entries =>
            withoutClassesBitmask
              (storeResult (summarize entries) .initial)).getD
            (withoutClassesBitmask globals) := by
    intro globals payload
    rw [observeReceivePayload_eq]
    cases validEntries payload with
    | none =>
        rfl
    | some entries =>
        simp only [Option.map_some, Option.getD_some,
          withoutClassesBitmask_storeResult]
  rw [observeAll,
    Runs.run_replacements withoutClassesBitmask _ replaces,
    ← List.map_filterMap, List.getLast?_map]
  rfl

/-- A snapshot whose stats, but for the class mask, one packet carried. -/
def CarriedBy (last : List StatEntry) (snapshot : Snapshot) : Prop :=
  snapshot.activatedSkillMaskLow =
      .carried (valuesOf kStatActivatedSkillMaskLowKey last) ∧
    snapshot.activatedSkillMaskHigh =
      .carried (valuesOf kStatActivatedSkillMaskHighKey last) ∧
    snapshot.extraPetHp1000 =
      #v[.carried (valuesOf kStatExtraPet0Hp1000Key last),
        .carried (valuesOf kStatExtraPet1Hp1000Key last)] ∧
    snapshot.focusedPetId =
      .carried (inRange (valuesOf kStatFocusedPetIdKey last))

/--
Over every run: a payload that does not parse changes nothing, the class mask is
the last one in range that any valid payload carried, and every other stat is
what the last valid payload carried, absent where it carried none.
-/
theorem snapshot_observeAll
    (initial : Globals)
    (payloads : List Payload) :
    (∀ payload : Payload,
        (parsePayload payload.pointer payload.length).valid = false →
          getSnapshot (observeAll initial (payloads ++ [payload])) =
            getSnapshot (observeAll initial payloads)) ∧
      (getSnapshot (observeAll initial payloads)).classesBitmask =
        ((receivedMasks payloads).getLast?.map fun mask =>
          (⟨true, mask⟩ : Stored UInt32)).getD initial.classesBitmask ∧
      (∀ last, (validPackets payloads).getLast? = some last →
        CarriedBy last (getSnapshot (observeAll initial payloads))) ∧
      (validPackets payloads = [] →
        getSnapshot (observeAll initial payloads) =
          getSnapshot initial) := by
  refine ⟨?_, classesBitmask_observeAll initial payloads, ?_, ?_⟩
  · intro payload invalid
    rw [observeAll, Runs.run_append, Runs.run_cons, Runs.run_nil,
      observeReceivePayload, invalid]
    rfl
  · intro last isLast
    have rest := withoutClassesBitmask_observeAll initial payloads
    rw [isLast, Option.map_some, Option.getD_some,
      withoutClassesBitmask_storeResult] at rest
    exact
      ⟨congrArg Snapshot.activatedSkillMaskLow rest,
        congrArg Snapshot.activatedSkillMaskHigh rest,
        (congrArg Snapshot.extraPetHp1000 rest).trans
          (extraPetHp1000_stored last),
        congrArg Snapshot.focusedPetId rest⟩
  · intro noneValid
    have mask := classesBitmask_observeAll initial payloads
    have rest := withoutClassesBitmask_observeAll initial payloads
    rw [receivedMasks, noneValid] at mask
    rw [noneValid] at rest
    change
      { withoutClassesBitmask (observeAll initial payloads) with
        classesBitmask := (observeAll initial payloads).classesBitmask } =
      initial
    rw [mask, rest]
    rfl

end MonomythClient.ServerAuthStats
