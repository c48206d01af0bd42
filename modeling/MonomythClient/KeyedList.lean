import Mathlib.Data.List.Nodup

namespace KeyedList

/-!
# Lists used as finite maps

A list of records is updated by scanning for the first record with the wanted
key: the record is replaced in place, or the new one is appended.  `lookup`
finds the first record with a key.  This module proves the map laws of the two
operations and of folding many records into one list, and what an update does
to the records a predicate selects.
-/

variable {Entry Key : Type}

/-- Update the first selected record, or append the fresh one. -/
def upsert
    (selects : Entry → Bool)
    (update : Entry → Entry)
    (fresh : Entry) :
    List Entry → List Entry
  | [] => [fresh]
  | entry :: rest =>
      if selects entry then
        update entry :: rest
      else
        entry :: upsert selects update fresh rest

/-- Updates that agree on every selected record give the same list. -/
theorem upsert_congr
    {selects : Entry → Bool}
    {update update' : Entry → Entry}
    (fresh : Entry)
    {entries : List Entry}
    (same :
      ∀ entry ∈ entries,
        selects entry = true → update entry = update' entry) :
    upsert selects update fresh entries =
      upsert selects update' fresh entries := by
  induction entries with
  | nil =>
      rfl
  | cons entry rest inductionHypothesis =>
      have restSame := inductionHypothesis
        fun later member => same later (by simp [member])
      cases selected : selects entry with
      | true =>
          simp [upsert, selected, same entry (by simp) selected]
      | false =>
          simp [upsert, selected, restSame]

variable [DecidableEq Key] {key : Entry → Key}

/-- The first record carrying a key. -/
def lookup (key : Entry → Key) (wanted : Key) (entries : List Entry) :
    Option Entry :=
  entries.find? fun entry => key entry = wanted

/-- Replace the record with the same key, or append. -/
def put (key : Entry → Key) (fresh : Entry) (entries : List Entry) :
    List Entry :=
  upsert (fun entry => key entry = key fresh) (fun _ => fresh) fresh entries

/-- Put many records, first to last. -/
def putAll (key : Entry → Key) (entries added : List Entry) : List Entry :=
  added.foldl (fun stored fresh => put key fresh stored) entries

/-- No two records carry one key. -/
def Unique (key : Entry → Key) (entries : List Entry) : Prop :=
  (entries.map key).Nodup

@[simp] theorem put_nil (fresh : Entry) :
    put key fresh [] = [fresh] :=
  rfl

@[simp] theorem put_cons_same
    {fresh entry : Entry}
    (same : key entry = key fresh)
    (rest : List Entry) :
    put key fresh (entry :: rest) = fresh :: rest := by
  simp [put, upsert, same]

@[simp] theorem put_cons_other
    {fresh entry : Entry}
    (different : key entry ≠ key fresh)
    (rest : List Entry) :
    put key fresh (entry :: rest) = entry :: put key fresh rest := by
  simp [put, upsert, different]

omit [DecidableEq Key] in
/-- The empty list has no repeated key. -/
theorem unique_nil : Unique key [] :=
  List.nodup_nil

/-- An update stores only records already there, or the new one. -/
theorem mem_put
    {fresh entry : Entry}
    {entries : List Entry}
    (member : entry ∈ put key fresh entries) :
    entry = fresh ∨ entry ∈ entries := by
  induction entries with
  | nil =>
      simpa using member
  | cons head rest inductionHypothesis =>
      by_cases same : key head = key fresh
      · rw [put_cons_same same] at member
        rcases List.mem_cons.mp member with isFresh | inRest
        · exact .inl isFresh
        · exact .inr (by simp [inRest])
      · rw [put_cons_other same] at member
        rcases List.mem_cons.mp member with isHead | inRest
        · exact .inr (by simp [isHead])
        · exact (inductionHypothesis inRest).imp_right (by simp_all)

/-- An update either keeps the key sequence or appends one new key. -/
theorem map_put (fresh : Entry) (entries : List Entry) :
    (put key fresh entries).map key =
      if key fresh ∈ entries.map key then entries.map key
      else entries.map key ++ [key fresh] := by
  induction entries with
  | nil =>
      rfl
  | cons head rest inductionHypothesis =>
      by_cases same : key head = key fresh
      · simp [put_cons_same same, same]
      · have headNe : key fresh ≠ key head := fun eq => same eq.symm
        rw [put_cons_other same, List.map_cons, inductionHypothesis]
        by_cases stored : key fresh ∈ rest.map key
        · rw [if_pos stored, if_pos (by simp [stored])]
          rfl
        · rw [if_neg stored,
            if_neg (by
              rw [List.map_cons, List.mem_cons, not_or]
              exact ⟨headNe, stored⟩)]
          rfl

/-- A new key is put behind the others. -/
theorem put_of_absent
    {fresh : Entry}
    {entries : List Entry}
    (absent : key fresh ∉ entries.map key) :
    put key fresh entries = entries ++ [fresh] := by
  induction entries with
  | nil =>
      rfl
  | cons head rest inductionHypothesis =>
      rw [List.map_cons, List.mem_cons, not_or] at absent
      rw [put_cons_other (Ne.symm absent.1), inductionHypothesis absent.2]
      rfl

/-- Updates keep keys unique. -/
theorem unique_put
    {entries : List Entry}
    (unique : Unique key entries)
    (fresh : Entry) :
    Unique key (put key fresh entries) := by
  unfold Unique
  rw [map_put]
  split
  · exact unique
  · rename_i absent
    refine List.nodup_append.mpr ⟨unique, by simp, ?_⟩
    intro stored member added isAdded same
    rw [List.mem_singleton.mp isAdded] at same
    exact absent (same ▸ member)

/-- The updated key finds the new record. -/
@[simp] theorem lookup_put_self (fresh : Entry) (entries : List Entry) :
    lookup key (key fresh) (put key fresh entries) = some fresh := by
  induction entries with
  | nil =>
      simp [lookup]
  | cons head rest inductionHypothesis =>
      by_cases same : key head = key fresh
      · simp [put_cons_same same, lookup]
      · rw [put_cons_other same, lookup,
          List.find?_cons_of_neg (by simpa using same)]
        exact inductionHypothesis

/-- Every other key finds what it found before. -/
theorem lookup_put_other
    {fresh : Entry}
    {wanted : Key}
    (different : wanted ≠ key fresh)
    (entries : List Entry) :
    lookup key wanted (put key fresh entries) =
      lookup key wanted entries := by
  induction entries with
  | nil =>
      simp [lookup, Ne.symm different]
  | cons head rest inductionHypothesis =>
      by_cases same : key head = key fresh
      · have headNe : key head ≠ wanted := by
          rw [same]
          exact Ne.symm different
        simp [put_cons_same same, lookup, headNe, Ne.symm different]
      · rw [put_cons_other same]
        by_cases isWanted : key head = wanted
        · simp [lookup, isWanted]
        · simpa [lookup, isWanted] using inductionHypothesis

/-- A fold of updates keeps keys unique. -/
theorem unique_putAll
    {entries : List Entry}
    (unique : Unique key entries)
    (added : List Entry) :
    Unique key (putAll key entries added) := by
  induction added generalizing entries with
  | nil =>
      exact unique
  | cons fresh later inductionHypothesis =>
      exact inductionHypothesis (unique_put unique fresh)

/-- A fold of updates stores only what was there or was added. -/
theorem mem_putAll
    {entry : Entry}
    {entries added : List Entry}
    (member : entry ∈ putAll key entries added) :
    entry ∈ entries ∨ entry ∈ added := by
  induction added generalizing entries with
  | nil =>
      exact .inl member
  | cons fresh later inductionHypothesis =>
      rcases inductionHypothesis member with inPut | inLater
      · rcases mem_put inPut with isFresh | stored
        · exact .inr (by simp [isFresh])
        · exact .inl stored
      · exact .inr (by simp [inLater])

/-- After many updates a key finds the last record added under it. -/
theorem lookup_putAll
    (wanted : Key)
    (entries added : List Entry) :
    lookup key wanted (putAll key entries added) =
      ((added.filter fun entry => key entry = wanted).getLast?).or
        (lookup key wanted entries) := by
  induction added generalizing entries with
  | nil =>
      rfl
  | cons fresh later inductionHypothesis =>
      have folded :
          putAll key entries (fresh :: later) =
            putAll key (put key fresh entries) later :=
        rfl
      rw [folded, inductionHypothesis]
      by_cases isWanted : key fresh = wanted
      · subst wanted
        rw [lookup_put_self,
          List.filter_cons_of_pos (by simp)]
        cases laterShape :
            later.filter (fun entry => key entry = key fresh) with
        | nil =>
            rfl
        | cons next rest =>
            simp [List.getLast?_cons]
      · rw [lookup_put_other (Ne.symm isWanted),
          List.filter_cons_of_neg (by simpa using isWanted)]

/-- Putting a unique list after disjoint keys appends it unchanged. -/
theorem putAll_of_unique
    {entries added : List Entry}
    (unique : Unique key (entries ++ added)) :
    putAll key entries added = entries ++ added := by
  induction added generalizing entries with
  | nil =>
      simp [putAll]
  | cons fresh later inductionHypothesis =>
      have freshAbsent : key fresh ∉ entries.map key := by
        have disjoint :=
          (List.nodup_append.mp
            (by simpa only [Unique, List.map_append] using unique)).2.2
        intro member
        exact disjoint _ member _ (by simp) rfl
      have folded :
          putAll key entries (fresh :: later) =
            putAll key (put key fresh entries) later :=
        rfl
      rw [folded, put_of_absent freshAbsent,
        inductionHypothesis (by simpa using unique)]
      simp

/-- An update outside a selection leaves the selection unchanged. -/
theorem filter_put_of_not
    {selects : Entry → Bool}
    {fresh : Entry}
    (freshOut : selects fresh = false)
    {entries : List Entry}
    (sameKeyOut :
      ∀ entry ∈ entries,
        key entry = key fresh → selects entry = false) :
    (put key fresh entries).filter selects = entries.filter selects := by
  induction entries with
  | nil =>
      simp [freshOut]
  | cons head rest inductionHypothesis =>
      have restUnchanged := inductionHypothesis
        fun entry member => sameKeyOut entry (by simp [member])
      by_cases same : key head = key fresh
      · simp [put_cons_same same, freshOut,
          sameKeyOut head (by simp) same]
      · simp [put_cons_other same, List.filter_cons, restUnchanged]

/-- If only the updated key is selected, the update is the whole selection. -/
theorem filter_put_singleton
    {selects : Entry → Bool}
    {fresh : Entry}
    (freshIn : selects fresh = true)
    {entries : List Entry}
    (unique : Unique key entries)
    (onlyFreshKey :
      ∀ entry ∈ entries,
        selects entry = true → key entry = key fresh) :
    (put key fresh entries).filter selects = [fresh] := by
  induction entries with
  | nil =>
      simp [freshIn]
  | cons head rest inductionHypothesis =>
      have restOnly :
          ∀ entry ∈ rest,
            selects entry = true → key entry = key fresh :=
        fun entry member => onlyFreshKey entry (by simp [member])
      have nodup := List.nodup_cons.mp unique
      by_cases same : key head = key fresh
      · have restUnselected : rest.filter selects = [] := by
          rw [List.filter_eq_nil_iff]
          intro entry member selected
          apply nodup.1
          rw [same, ← restOnly entry member selected]
          exact List.mem_map_of_mem member
        simp [put_cons_same same, freshIn, restUnselected]
      · have headOut : selects head = false := by
          by_contra selected
          exact same (onlyFreshKey head (by simp) (by simpa using selected))
        rw [put_cons_other same,
          List.filter_cons_of_neg (by simp [headOut])]
        exact inductionHypothesis nodup.2 restOnly

/-- With unique keys, at most one record carries a key, and lookup finds it. -/
theorem filter_key_eq
    {entries : List Entry}
    (unique : Unique key entries)
    (wanted : Key) :
    entries.filter (fun entry => key entry = wanted) =
      (lookup key wanted entries).toList := by
  induction entries with
  | nil =>
      rfl
  | cons head rest inductionHypothesis =>
      have nodup := List.nodup_cons.mp unique
      by_cases isWanted : key head = wanted
      · have restUnselected :
            rest.filter (fun entry => key entry = wanted) = [] := by
          rw [List.filter_eq_nil_iff]
          intro entry member selected
          apply nodup.1
          rw [isWanted, ← of_decide_eq_true selected]
          exact List.mem_map_of_mem member
        simp [lookup, isWanted, restUnselected]
      · simpa [lookup, isWanted] using inductionHypothesis nodup.2

/-- So every record is the one its key finds. -/
theorem lookup_of_mem
    {entries : List Entry}
    (unique : Unique key entries)
    {entry : Entry}
    (member : entry ∈ entries) :
    lookup key (key entry) entries = some entry := by
  have selected :
      entry ∈ entries.filter fun other => key other = key entry := by
    simp [member]
  rw [filter_key_eq unique, Option.mem_toList] at selected
  exact selected

/-- What a key finds is a record with that key. -/
theorem mem_of_lookup
    {entries : List Entry}
    {wanted : Key}
    {entry : Entry}
    (found : lookup key wanted entries = some entry) :
    entry ∈ entries ∧ key entry = wanted :=
  ⟨List.mem_of_find?_eq_some found, by simpa using List.find?_some found⟩

/-- Putting back what a key finds changes nothing. -/
theorem put_of_lookup
    {entries : List Entry}
    {entry : Entry}
    (found : lookup key (key entry) entries = some entry) :
    put key entry entries = entries := by
  induction entries with
  | nil =>
      cases found
  | cons head rest inductionHypothesis =>
      by_cases same : key head = key entry
      · have isHead : head = entry := by
          simpa [lookup, same] using found
        rw [put_cons_same same, isHead]
      · have inRest : lookup key (key entry) rest = some entry := by
          simpa [lookup, same] using found
        rw [put_cons_other same, inductionHypothesis inRest]

/-- Changing the first record with a key, found by its position, is putting
the changed record. -/
theorem modify_findIdx
    {entries : List Entry}
    {wanted : Key}
    {index : Nat}
    (found :
      (entries.findIdx? fun entry => key entry = wanted) = some index) :
    ∃ entry,
      lookup key wanted entries = some entry ∧
        ∀ change : Entry → Entry,
          key (change entry) = wanted →
            entries.modify index change = put key (change entry) entries := by
  induction entries generalizing index with
  | nil =>
      cases found
  | cons head rest inductionHypothesis =>
      by_cases same : key head = wanted
      · rw [List.findIdx?_cons, decide_eq_true same] at found
        obtain rfl := Option.some.inj found
        refine ⟨head, by simp [lookup, same], fun change keeps => ?_⟩
        rw [put_cons_same (same.trans keeps.symm)]
        rfl
      · rw [List.findIdx?_cons, decide_eq_false same] at found
        obtain ⟨inner, isInner, rfl⟩ := Option.map_eq_some_iff.mp found
        obtain ⟨entry, isEntry, changes⟩ := inductionHypothesis isInner
        refine
          ⟨entry, by simpa [lookup, same] using isEntry,
            fun change keeps => ?_⟩
        rw [put_cons_other (fun eq => same (eq.trans keeps)),
          ← changes change keeps]
        rfl

end KeyedList
