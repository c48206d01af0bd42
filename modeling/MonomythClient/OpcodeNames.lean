import MonomythClient.KeyedList
import MonomythClient.OpcodeReference
import MonomythClient.SortedTables

namespace MonomythClient.OpcodeReference

open SortedTables

/-!
# Names of opcodes

The name of an opcode is found by halving the table, which needs the rows in
the order of their opcodes.  The rows that are written down are strictly in
order, but the table is declared one row longer, and the row behind them has
opcode zero and no name.  The search is right all the same, except for opcode
zero itself.
-/

/-- `LookupRof2OpcodeName`. -/
def lookupRof2OpcodeName (opcode : UInt32) : String :=
  match
    lowerBoundRow (fun entry => decide (entry.opcode < opcode))
      kRof2OpcodeNames with
  | none => "unknown"
  | some entry =>
      if entry.opcode ≠ opcode then
        "unknown"
      else
        entry.name

/-- The name that a scan of the rows, one by one, finds for an opcode. -/
def scanRof2OpcodeName (opcode : UInt32) : String :=
  match KeyedList.lookup OpcodeNameEntry.opcode opcode kRof2OpcodeNames with
  | none => "unknown"
  | some entry => entry.name

/-! ## The table -/

/-- The row that is not written down. -/
def unwrittenRow : OpcodeNameEntry where
  opcode := 0
  name := ""

/-- The table ends in that row. -/
theorem kRof2OpcodeNames_shape :
    kRof2OpcodeNames.dropLast ++ [unwrittenRow] = kRof2OpcodeNames := by
  have last : kRof2OpcodeNames.getLast? = some unwrittenRow := by
    decide +kernel
  exact List.dropLast_append_getLast? _ last

/-- The rows that are written down are strictly in order. -/
theorem initialized_increasing :
    kRof2OpcodeNames.dropLast.Pairwise fun left right =>
      left.opcode < right.opcode := by
  have neighbours :
      (kRof2OpcodeNames.dropLast.map OpcodeNameEntry.opcode).IsChain
        (· < ·) := by
    decide +kernel
  exact List.pairwise_map.mp (List.isChain_iff_pairwise.mp neighbours)

/-- The number of rows makes the search look at the last row last. -/
theorem lastRow_seenLast :
    lastSeenLast (kRof2OpcodeNames.dropLast.length + 1) = true := by
  have length : kRof2OpcodeNames.dropLast.length = 528 := by
    decide +kernel
  rw [length]
  simp [lastSeenLast]

/-- No opcode is in the table twice. -/
theorem opcodes_unique :
    KeyedList.Unique OpcodeNameEntry.opcode kRof2OpcodeNames := by
  have differ :
      marksDiffer 0 (kRof2OpcodeNames.map fun entry =>
        entry.opcode.toNat) = true := by
    decide +kernel
  have nodup := (nodup_of_marksDiffer differ).1
  rw [← Function.comp_def UInt32.toNat, ← List.map_map] at nodup
  exact nodup.of_map _

/-- A number for a name, in which no two names of the table agree. -/
def nameMark (name : String) : Nat :=
  name.toByteArray.data.toList.foldl
    (fun read byte => read * 256 + byte.toNat) 0 % 18796

/-- Nor is a name. -/
theorem names_unique :
    KeyedList.Unique OpcodeNameEntry.name kRof2OpcodeNames := by
  have differ :
      marksDiffer 0 (kRof2OpcodeNames.map fun entry =>
        nameMark entry.name) = true := by
    decide +kernel
  have nodup := (nodup_of_marksDiffer differ).1
  rw [← Function.comp_def nameMark, ← List.map_map] at nodup
  exact nodup.of_map _

/-- A row is found by its name, unless it has none. -/
theorem tryLookupRof2OpcodeValue_of_mem
    {entry : OpcodeNameEntry}
    (member : entry ∈ kRof2OpcodeNames)
    (named : entry.name ≠ "") :
    tryLookupRof2OpcodeValue entry.name = some entry.opcode := by
  have found := KeyedList.lookup_of_mem names_unique member
  rw [KeyedList.lookup] at found
  rw [tryLookupRof2OpcodeValue, if_neg named, found, Option.map_some]

/-- What is found by its name is a row. -/
theorem mem_of_tryLookupRof2OpcodeValue
    {name : String}
    {opcode : UInt32}
    (found : tryLookupRof2OpcodeValue name = some opcode) :
    name ≠ "" ∧ (⟨opcode, name⟩ : OpcodeNameEntry) ∈ kRof2OpcodeNames := by
  rw [tryLookupRof2OpcodeValue] at found
  split at found
  next =>
    cases found
  next named =>
    obtain ⟨entry, isFound, rfl⟩ := Option.map_eq_some_iff.mp found
    obtain rfl : entry.name = name := by
      simpa using List.find?_some isFound
    exact ⟨named, List.mem_of_find?_eq_some isFound⟩

/-- The rows with a name are those with an opcode other than zero. -/
theorem named_iff
    {entry : OpcodeNameEntry}
    (member : entry ∈ kRof2OpcodeNames) :
    entry.name ≠ "" ↔ entry.opcode ≠ 0 := by
  have lastMember : unwrittenRow ∈ kRof2OpcodeNames := by
    rw [← kRof2OpcodeNames_shape]
    exact List.mem_concat_self
  have sameByName :
      entry.name = "" → entry = unwrittenRow := fun same =>
    List.inj_on_of_nodup_map names_unique member lastMember same
  have sameByOpcode :
      entry.opcode = 0 → entry = unwrittenRow := fun same =>
    List.inj_on_of_nodup_map opcodes_unique member lastMember same
  constructor
  · intro named isZero
    exact named (by rw [sameByOpcode isZero]; rfl)
  · intro nonzero unnamed
    exact nonzero (by rw [sameByName unnamed]; rfl)

/-! ## The search -/

/-- The search is a scan, except for opcode zero. -/
theorem lookupRof2OpcodeName_eq_scan
    {opcode : UInt32}
    (nonzero : opcode ≠ 0) :
    lookupRof2OpcodeName opcode = scanRof2OpcodeName opcode := by
  have agrees :
      (lowerBoundRow (fun entry => decide (entry.opcode < opcode))
          (kRof2OpcodeNames.dropLast ++ [unwrittenRow])).filter
            (fun entry => decide (entry.opcode = opcode)) =
        (kRof2OpcodeNames.dropLast ++ [unwrittenRow]).find?
          (fun entry => decide (entry.opcode = opcode)) :=
    search_eq_scan lastRow_seenLast initialized_increasing nonzero.symm
  rw [kRof2OpcodeNames_shape] at agrees
  rw [scanRof2OpcodeName, KeyedList.lookup, ← agrees, lookupRof2OpcodeName]
  cases lowerBoundRow (fun entry => decide (entry.opcode < opcode))
      kRof2OpcodeNames with
  | none =>
      rfl
  | some entry =>
      by_cases same : entry.opcode = opcode
      · simp [Option.filter, same]
      · simp [Option.filter, same]

/-- A row is found by its opcode, unless that is zero. -/
theorem lookupRof2OpcodeName_of_mem
    {entry : OpcodeNameEntry}
    (member : entry ∈ kRof2OpcodeNames)
    (nonzero : entry.opcode ≠ 0) :
    lookupRof2OpcodeName entry.opcode = entry.name := by
  rw [lookupRof2OpcodeName_eq_scan nonzero, scanRof2OpcodeName,
    KeyedList.lookup_of_mem opcodes_unique member]

/-- Nothing comes before opcode zero, so the first row is looked at. -/
theorem lookupRof2OpcodeName_zero :
    lookupRof2OpcodeName 0 = "unknown" := by
  have atFirst :
      lowerBound
          (fun index => kRof2OpcodeNames[index]?.any
            fun entry : OpcodeNameEntry => decide (entry.opcode < 0))
          0 kRof2OpcodeNames.length =
        0 := by
    refine lowerBound_eq (fun index _ _ => ?_) (Nat.le_refl 0)
      (Nat.zero_le _)
    simp
  rw [lookupRof2OpcodeName, lowerBoundRow, atFirst]
  rfl

/-- Names and values of an opcode agree, however they are looked up. -/
structure NamedConsistently (opcode : UInt32) : Prop where
  scanned : lookupRof2OpcodeName opcode = scanRof2OpcodeName opcode
  valued :
    (∃ entry ∈ kRof2OpcodeNames, entry.opcode = opcode) →
      tryLookupRof2OpcodeValue (lookupRof2OpcodeName opcode) = some opcode
  named :
    ∀ name, tryLookupRof2OpcodeValue name = some opcode →
      lookupRof2OpcodeName opcode = name

/--
The rows that are written down are strictly in order, and an opcode is looked
up consistently exactly when it is not zero.
-/
theorem namedConsistently_iff (opcode : UInt32) :
    (kRof2OpcodeNames.dropLast.Pairwise fun left right =>
      left.opcode < right.opcode) ∧
      (NamedConsistently opcode ↔ opcode ≠ 0) := by
  refine ⟨initialized_increasing, ⟨?_, fun nonzero => ?_⟩⟩
  · rintro consistent rfl
    have scanned := consistent.scanned
    rw [lookupRof2OpcodeName_zero] at scanned
    revert scanned
    decide +kernel
  · refine ⟨lookupRof2OpcodeName_eq_scan nonzero, ?_, ?_⟩
    · rintro ⟨entry, member, rfl⟩
      rw [lookupRof2OpcodeName_of_mem member nonzero]
      exact tryLookupRof2OpcodeValue_of_mem member
        ((named_iff member).mpr nonzero)
    · intro name found
      obtain ⟨_, member⟩ := mem_of_tryLookupRof2OpcodeValue found
      exact lookupRof2OpcodeName_of_mem member nonzero

/-- Opcode zero is in the table, out of order and without a name. -/
theorem opcodeZero_unknown :
    lookupRof2OpcodeName 0 = "unknown" ∧
      scanRof2OpcodeName 0 = "" ∧
      unwrittenRow ∈ kRof2OpcodeNames ∧
      tryLookupRof2OpcodeValue (lookupRof2OpcodeName 0) ≠ some 0 ∧
      ¬ kRof2OpcodeNames.Pairwise fun left right =>
        left.opcode < right.opcode := by
  refine ⟨lookupRof2OpcodeName_zero, by decide +kernel, ?_, ?_, ?_⟩
  · rw [← kRof2OpcodeNames_shape]
    exact List.mem_concat_self
  · rw [lookupRof2OpcodeName_zero]
    intro found
    obtain ⟨named, member⟩ := mem_of_tryLookupRof2OpcodeValue found
    exact (named_iff member).mp named rfl
  · intro increasing
    rw [← kRof2OpcodeNames_shape] at increasing
    have first :
        (⟨0x000f, "OP_RestState"⟩ : OpcodeNameEntry) ∈
          kRof2OpcodeNames.dropLast :=
      List.mem_of_getElem? (i := 0) rfl
    have beforeLast :=
      (List.pairwise_append.mp increasing).2.2 _ first unwrittenRow
        List.mem_cons_self
    exact absurd beforeLast (by decide)

end MonomythClient.OpcodeReference
