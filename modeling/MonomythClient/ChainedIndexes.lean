import Mathlib.Data.List.Basic
import Mathlib.Data.List.Nodup

namespace ChainedIndexes

/-!
# Lookups in chained indexes

An index keeps its entries in buckets, and each bucket as a chain of nodes in
some memory.  Every part of a node may be unreadable, and a chain may be broken
or lead back to itself, so a search visits a bounded number of nodes.  What it
finds is always the first node with the wanted key.  Where the chains are
sound, hold each key once and are no longer than the bound, the index is a
finite map and the search looks it up.
-/

variable {Node Key Value : Type}

/-- How the parts of a node are read; after the last node there is none. -/
structure Reader (Node Key Value : Type) where
  key : Node → Option Key
  value : Node → Option Value
  next : Node → Option (Option Node)

variable (reader : Reader Node Key Value)

/-- The value of the first node with a key, among at most `limit` nodes. -/
def search [DecidableEq Key] (wanted : Key) : Nat → Option Node → Option Value
  | 0, _ => none
  | _ + 1, none => none
  | limit + 1, some node => do
      let key ← reader.key node
      if key = wanted then
        reader.value node
      else
        let after ← reader.next node
        search wanted limit after

/-! ## Any chain -/

/-- Walking over nodes with other keys leads from a link to a node. -/
inductive Skips (wanted : Key) : Option Node → Nat → Node → Prop
  | here (node : Node) : Skips wanted (some node) 0 node
  | past
      {node found : Node}
      {key : Key}
      {after : Option Node}
      {skipped : Nat}
      (other : reader.key node = some key)
      (differs : key ≠ wanted)
      (link : reader.next node = some after)
      (later : Skips wanted after skipped found) :
      Skips wanted (some node) (skipped + 1) found

variable {reader}

/-- A search finds the first node with the key, if it is within the bound. -/
theorem search_eq_some_iff
    [DecidableEq Key]
    {wanted : Key}
    {limit : Nat}
    {start : Option Node}
    {value : Value} :
    search reader wanted limit start = some value ↔
      ∃ skipped found,
        skipped < limit ∧ Skips reader wanted start skipped found ∧
          reader.key found = some wanted ∧
          reader.value found = some value := by
  induction limit generalizing start with
  | zero =>
      simp [search]
  | succ limit inductionHypothesis =>
      cases start with
      | none =>
          constructor
          · intro found
            cases found
          · rintro ⟨_, _, _, skips, _⟩
            cases skips
      | some node =>
          rw [search]
          constructor
          · intro found
            obtain ⟨key, isKey, found⟩ := Option.bind_eq_some_iff.mp found
            split at found
            · rename_i same
              exact ⟨0, node, Nat.succ_pos limit, .here node,
                same ▸ isKey, found⟩
            · rename_i differs
              obtain ⟨after, link, found⟩ :=
                Option.bind_eq_some_iff.mp found
              obtain ⟨skipped, last, within, later, atLast⟩ :=
                inductionHypothesis.mp found
              exact ⟨skipped + 1, last, Nat.succ_lt_succ within,
                .past isKey differs link later, atLast⟩
          · rintro ⟨skipped, found, within, skips, isWanted, isValue⟩
            cases skips with
            | here =>
                simp [isWanted, isValue]
            | past other differs link later =>
                simp only [other, link, bind, Option.bind_some,
                  if_neg differs]
                exact inductionHypothesis.mpr
                  ⟨_, found, Nat.lt_of_succ_lt_succ within, later,
                    isWanted, isValue⟩

/-! ## Sound chains -/

variable (reader)

/-- A chain of nodes holds these entries, in order. -/
inductive Chain : Option Node → List (Key × Value) → Prop
  | nil : Chain none []
  | cons
      {node : Node}
      {after : Option Node}
      {key : Key}
      {value : Value}
      {later : List (Key × Value)}
      (isKey : reader.key node = some key)
      (isValue : reader.value node = some value)
      (link : reader.next node = some after)
      (rest : Chain after later) :
      Chain (some node) ((key, value) :: later)

variable {reader}

/-- A search looks through the first entries of a chain. -/
theorem search_chain
    [DecidableEq Key]
    {start : Option Node}
    {entries : List (Key × Value)}
    (chain : Chain reader start entries)
    (wanted : Key)
    (limit : Nat) :
    search reader wanted limit start =
      ((entries.take limit).find? fun entry =>
        decide (entry.1 = wanted)).map Prod.snd := by
  induction chain generalizing limit with
  | nil =>
      cases limit <;> rfl
  | @cons node after key value later isKey isValue link rest
      inductionHypothesis =>
      cases limit with
      | zero =>
          rfl
      | succ limit =>
          simp only [search, isKey, bind, Option.bind_some,
            List.take_succ_cons]
          by_cases same : key = wanted
          · rw [if_pos same, isValue,
              List.find?_cons_of_pos (by simpa using same)]
            rfl
          · rw [if_neg same, link, Option.bind_some,
              inductionHypothesis limit,
              List.find?_cons_of_neg (by simpa using same)]

/-! ## Indexes -/

/-- The chains of an index; a bucket's first link may be unreadable. -/
structure Index (Node : Type) where
  bucketCount : Nat
  head : Nat → Option (Option Node)

/-- The bucket of a key is searched. -/
def Index.lookup
    [DecidableEq Key]
    (index : Index Node)
    (reader : Reader Node Key Value)
    (hash : Key → Nat)
    (limit : Nat)
    (wanted : Key) :
    Option Value := do
  let start ← index.head (hash wanted % index.bucketCount)
  search reader wanted limit start

/-- The chains of an index hold a finite map, each entry in its bucket. -/
structure Index.Holds
    (index : Index Node)
    (reader : Reader Node Key Value)
    (hash : Key → Nat)
    (limit : Nat)
    (contents : Key → Option Value) : Prop where
  chains : ∀ bucket < index.bucketCount, ∃ start entries,
    index.head bucket = some start ∧ Chain reader start entries ∧
      entries.length ≤ limit ∧
      ∀ key value,
        (key, value) ∈ entries ↔
          hash key % index.bucketCount = bucket ∧
            contents key = some value

/-- A lookup in an index gives what the map has. -/
theorem Index.Holds.lookup_eq
    [DecidableEq Key]
    {index : Index Node}
    {hash : Key → Nat}
    {limit : Nat}
    {contents : Key → Option Value}
    (holds : index.Holds reader hash limit contents)
    (someBucket : 0 < index.bucketCount)
    (wanted : Key) :
    index.lookup reader hash limit wanted = contents wanted := by
  obtain ⟨start, entries, head, chain, short, members⟩ :=
    holds.chains _ (Nat.mod_lt (hash wanted) someBucket)
  rw [lookup, head, Option.bind_eq_bind, Option.bind_some,
    search_chain chain wanted limit, List.take_of_length_le short]
  cases held : contents wanted with
  | some value =>
      have member : (wanted, value) ∈ entries :=
        (members wanted value).mpr ⟨rfl, held⟩
      cases found :
          entries.find? fun entry => decide (entry.1 = wanted) with
      | none =>
          have absent := List.find?_eq_none.mp found _ member
          simp at absent
      | some entry =>
          obtain ⟨key, other⟩ := entry
          have same : key = wanted := by
            simpa using List.find?_some found
          subst same
          have isHeld :=
            ((members key other).mp (List.mem_of_find?_eq_some found)).2
          rw [Option.map_some]
          exact isHeld.symm.trans held
  | none =>
      have absent :
          (entries.find? fun entry => decide (entry.1 = wanted)) =
            none := by
        apply List.find?_eq_none.mpr
        rintro ⟨key, value⟩ member same
        obtain rfl : key = wanted := by
          simpa using same
        have isHeld := ((members key value).mp member).2
        rw [held] at isHeld
        cases isHeld
      rw [absent, Option.map_none]

end ChainedIndexes
