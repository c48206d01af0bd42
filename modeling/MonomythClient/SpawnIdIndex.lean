import MonomythClient.ChainedIndexes
import MonomythClient.LocalPlayer

namespace MonomythClient.SpawnIdIndex

open ChainedIndexes LittleEndian LocalPlayer ProtectedMemory

/-!
# The game's index of spawns

The spawn manager points to a hash index of the spawns by id.  Its buckets are
chains of nodes, each with a spawn, the spawn's id and the next node.  The
lookup copies every word it needs, so it stops where memory cannot be read, and
it gives up after a number of nodes.
-/

def kPlayerManagerSpawnIdIndexOffset : UInt32 := 0x14
def kSpawnIdIndexBucketsOffset : UInt32 := 0x0
def kSpawnIdIndexBucketCountOffset : UInt32 := 0x4
def kSpawnIdIndexNodeSpawnOffset : UInt32 := 0x0
def kSpawnIdIndexNodeSpawnIdOffset : UInt32 := 0x4
def kSpawnIdIndexNodeNextOffset : UInt32 := 0x8
def kMaxSpawnWalkCount : Nat := 4096

/-- The loop of `TryFindSpawnByIdFromSpawnList` over the nodes. -/
def walkNodes (memory : Memory) (spawnId : UInt32) :
    Nat → UInt32 → Option UInt32
  | 0, _ => none
  | unvisited + 1, node =>
      if node = 0 then
        none
      else do
        let candidateSpawnId ←
          memory.readWord (node + kSpawnIdIndexNodeSpawnIdOffset)
        if candidateSpawnId = spawnId then
          nonNull (memory.readWord (node + kSpawnIdIndexNodeSpawnOffset))
        else
          let next ← memory.readWord (node + kSpawnIdIndexNodeNextOffset)
          walkNodes memory spawnId unvisited next

/-- `TryFindSpawnByIdFromSpawnList`. -/
def tryFindSpawnByIdFromSpawnList
    (memory : Memory)
    (spawnManager spawnId : UInt32) :
    Option UInt32 := do
  guard (spawnManager ≠ 0 ∧ spawnId ≠ 0)
  let spawnIdIndex ←
    nonNull
      (memory.readWord (spawnManager + kPlayerManagerSpawnIdIndexOffset))
  let bucketCount ←
    nonNull (memory.readWord (spawnIdIndex + kSpawnIdIndexBucketCountOffset))
  let buckets ←
    nonNull (memory.readWord (spawnIdIndex + kSpawnIdIndexBucketsOffset))
  let bucketIndex := spawnId % bucketCount
  let node ← memory.readWord (buckets + bucketIndex * 4)
  walkNodes memory spawnId kMaxSpawnWalkCount node

/-! ## The index as chains -/

/-- Where a pointer leads. -/
def link (pointer : UInt32) : Option UInt32 :=
  if pointer = 0 then none else some pointer

/-- How the nodes of the index are read. -/
def spawnNodes (memory : Memory) : Reader UInt32 UInt32 UInt32 where
  key node := memory.readWord (node + kSpawnIdIndexNodeSpawnIdOffset)
  value node :=
    nonNull (memory.readWord (node + kSpawnIdIndexNodeSpawnOffset))
  next node :=
    (memory.readWord (node + kSpawnIdIndexNodeNextOffset)).map link

/-- The loop is a search in a chain. -/
theorem walkNodes_eq
    (memory : Memory)
    (spawnId : UInt32)
    (unvisited : Nat)
    (node : UInt32) :
    walkNodes memory spawnId unvisited node =
      search (spawnNodes memory) spawnId unvisited (link node) := by
  induction unvisited generalizing node with
  | zero =>
      rfl
  | succ unvisited inductionHypothesis =>
      rw [walkNodes, link]
      by_cases null : node = 0
      · rw [if_pos null, if_pos null]
        rfl
      · rw [if_neg null, if_neg null, search]
        apply congrArg (Option.bind _)
        funext candidateSpawnId
        by_cases same : candidateSpawnId = spawnId
        · simp only [if_pos same]
          rfl
        · simp only [if_neg same, spawnNodes, bind, Option.bind_map]
          apply congrArg (Option.bind _)
          funext next
          exact inductionHypothesis next

/-- The index of a spawn manager. -/
def spawnIdIndexAt
    (memory : Memory)
    (spawnManager : UInt32) :
    Option (Index UInt32) := do
  guard (spawnManager ≠ 0)
  let spawnIdIndex ←
    nonNull
      (memory.readWord (spawnManager + kPlayerManagerSpawnIdIndexOffset))
  let bucketCount ←
    nonNull (memory.readWord (spawnIdIndex + kSpawnIdIndexBucketCountOffset))
  let buckets ←
    nonNull (memory.readWord (spawnIdIndex + kSpawnIdIndexBucketsOffset))
  return {
    bucketCount := bucketCount.toNat
    head := fun bucket =>
      (memory.readWord (buckets + UInt32.ofNat bucket * 4)).map link }

/-- The buckets of an index that was found are not none. -/
theorem bucketCount_pos
    {memory : Memory}
    {spawnManager : UInt32}
    {index : Index UInt32}
    (found : spawnIdIndexAt memory spawnManager = some index) :
    0 < index.bucketCount := by
  simp only [spawnIdIndexAt, bind, Option.bind_eq_some_iff, pure,
    Option.some.injEq] at found
  obtain ⟨_, -, _, -, bucketCount, isCount, _, -, rfl⟩ := found
  have nonzero := (nonNull_eq_some isCount).2
  exact Nat.pos_of_ne_zero fun isZero =>
    nonzero (UInt32.toNat_inj.mp isZero)

/-- Finding a spawn is a lookup in the index. -/
theorem tryFindSpawnByIdFromSpawnList_eq
    (memory : Memory)
    (spawnManager : UInt32)
    {spawnId : UInt32}
    (nonzero : spawnId ≠ 0) :
    tryFindSpawnByIdFromSpawnList memory spawnManager spawnId =
      (spawnIdIndexAt memory spawnManager).bind fun index =>
        index.lookup (spawnNodes memory) UInt32.toNat kMaxSpawnWalkCount
          spawnId := by
  by_cases null : spawnManager = 0
  · subst null
    rfl
  · simp only [tryFindSpawnByIdFromSpawnList, spawnIdIndexAt, guard, bind,
      ne_eq, null, nonzero, not_false_eq_true, and_self, if_true, pure,
      Option.bind_some, Option.bind_assoc, walkNodes_eq, Index.lookup,
      Option.bind_map]
    congr 1
    funext spawnIdIndex
    congr 1
    funext bucketCount
    congr 1
    funext buckets
    have sameBucket :
        UInt32.ofNat (spawnId.toNat % bucketCount.toNat) =
          spawnId % bucketCount := by
      rw [← UInt32.toNat_mod, UInt32.ofNat_toNat]
    rw [sameBucket]
    rfl

/-! ## What is found -/

/-- The first node with an id in that id's bucket has this spawn. -/
def FoundInBucket
    (memory : Memory)
    (spawnManager spawnId spawn : UInt32) : Prop :=
  ∃ index start skipped node,
    spawnIdIndexAt memory spawnManager = some index ∧
      index.head (spawnId.toNat % index.bucketCount) = some start ∧
      skipped < kMaxSpawnWalkCount ∧
      Skips (spawnNodes memory) spawnId start skipped node ∧
      memory.readWord (node + kSpawnIdIndexNodeSpawnIdOffset) =
        some spawnId ∧
      memory.readWord (node + kSpawnIdIndexNodeSpawnOffset) = some spawn ∧
      spawn ≠ 0

/-- The index of a spawn manager holds these spawns. -/
def KnowsSpawns
    (memory : Memory)
    (spawnManager : UInt32)
    (spawns : UInt32 → Option UInt32) : Prop :=
  ∃ index, spawnIdIndexAt memory spawnManager = some index ∧
    index.Holds (spawnNodes memory) UInt32.toNat kMaxSpawnWalkCount spawns

/-- What is found in any memory. -/
theorem tryFindSpawnByIdFromSpawnList_eq_some_iff
    (memory : Memory)
    (spawnManager : UInt32)
    {spawnId : UInt32}
    (nonzero : spawnId ≠ 0)
    (spawn : UInt32) :
    tryFindSpawnByIdFromSpawnList memory spawnManager spawnId =
        some spawn ↔
      FoundInBucket memory spawnManager spawnId spawn := by
  have isValue : ∀ node,
      (spawnNodes memory).value node = some spawn ↔
        memory.readWord (node + kSpawnIdIndexNodeSpawnOffset) =
            some spawn ∧
          spawn ≠ 0 := by
    intro node
    change nonNull _ = some spawn ↔ _
    rw [nonNull, Option.filter_eq_some_iff]
    simp
  rw [tryFindSpawnByIdFromSpawnList_eq memory spawnManager nonzero,
    Option.bind_eq_some_iff]
  constructor
  · rintro ⟨index, isIndex, found⟩
    obtain ⟨start, head, found⟩ := Option.bind_eq_some_iff.mp found
    obtain ⟨skipped, node, within, skips, isKey, hasValue⟩ :=
      search_eq_some_iff.mp found
    exact ⟨index, start, skipped, node, isIndex, head, within, skips,
      isKey, (isValue node).mp hasValue⟩
  · rintro ⟨index, start, skipped, node, isIndex, head, within, skips,
      isKey, hasValue⟩
    refine ⟨index, isIndex, Option.bind_eq_some_iff.mpr
      ⟨start, head, search_eq_some_iff.mpr ?_⟩⟩
    exact ⟨skipped, node, within, skips, isKey, (isValue node).mpr hasValue⟩

/-- What is found where the index holds certain spawns. -/
theorem KnowsSpawns.tryFind_eq
    {memory : Memory}
    {spawnManager : UInt32}
    {spawns : UInt32 → Option UInt32}
    (knows : KnowsSpawns memory spawnManager spawns)
    {spawnId : UInt32}
    (nonzero : spawnId ≠ 0) :
    tryFindSpawnByIdFromSpawnList memory spawnManager spawnId =
      spawns spawnId := by
  obtain ⟨index, isIndex, holds⟩ := knows
  rw [tryFindSpawnByIdFromSpawnList_eq memory spawnManager nonzero, isIndex,
    Option.bind_some]
  exact holds.lookup_eq (bucketCount_pos isIndex) spawnId

/--
In any memory, also where the chains are broken or lead back to themselves,
the lookup finds just the spawn of the first node with the id in the id's
bucket, among the first nodes of the chain; the spawn is not null.  Where the
index holds certain spawns the lookup finds just these.
-/
theorem spawn_lookup_refines_index
    (memory : Memory)
    (spawnManager spawnId : UInt32)
    (nonzero : spawnId ≠ 0) :
    (∀ spawn,
      tryFindSpawnByIdFromSpawnList memory spawnManager spawnId =
          some spawn ↔
        FoundInBucket memory spawnManager spawnId spawn) ∧
      ∀ spawns,
        KnowsSpawns memory spawnManager spawns →
          tryFindSpawnByIdFromSpawnList memory spawnManager spawnId =
            spawns spawnId :=
  ⟨tryFindSpawnByIdFromSpawnList_eq_some_iff memory spawnManager nonzero,
    fun _ knows => knows.tryFind_eq nonzero⟩

/-! ## Three spawns -/

/-- A spawn manager at `0x1000`, whose index has two buckets: the spawns 6 and
10 share one, and the spawn 9 has the other. -/
def threeSpawnsMemory : Memory :=
  (Memory.mk (fun _ => 0) (fun _ => true) (fun _ => true)).writeEach
    [⟨0x1014, bytes32 0x2000⟩,
      ⟨0x2000, bytes32 0x3000 ++ bytes32 2⟩,
      ⟨0x3000, bytes32 0x4000 ++ bytes32 0x4200⟩,
      ⟨0x4000, bytes32 0x5000 ++ bytes32 6 ++ bytes32 0x4100⟩,
      ⟨0x4100, bytes32 0x6000 ++ bytes32 10⟩,
      ⟨0x4200, bytes32 0x7000 ++ bytes32 9⟩]

def threeSpawns (spawnId : UInt32) : Option UInt32 :=
  if spawnId = 6 then
    some 0x5000
  else if spawnId = 10 then
    some 0x6000
  else if spawnId = 9 then
    some 0x7000
  else
    none

theorem threeSpawns_even (key value : UInt32) :
    (key, value) ∈ [((6 : UInt32), (0x5000 : UInt32)), (10, 0x6000)] ↔
      key.toNat % 2 = 0 ∧ threeSpawns key = some value := by
  by_cases isSix : key = 6
  · subst isSix
    simp [threeSpawns, eq_comm]
  · by_cases isTen : key = 10
    · subst isTen
      simp [threeSpawns, eq_comm]
    · by_cases isNine : key = 9
      · subst isNine
        simp [threeSpawns]
      · simp [threeSpawns, isSix, isTen, isNine]

theorem threeSpawns_odd (key value : UInt32) :
    (key, value) ∈ [((9 : UInt32), (0x7000 : UInt32))] ↔
      key.toNat % 2 = 1 ∧ threeSpawns key = some value := by
  by_cases isSix : key = 6
  · subst isSix
    simp [threeSpawns]
  · by_cases isTen : key = 10
    · subst isTen
      simp [threeSpawns]
    · by_cases isNine : key = 9
      · subst isNine
        simp [threeSpawns, eq_comm]
      · simp [threeSpawns, isSix, isTen, isNine]

theorem threeSpawnsMemory_knowsSpawns :
    KnowsSpawns threeSpawnsMemory 0x1000 threeSpawns := by
  have isIndex :
      spawnIdIndexAt threeSpawnsMemory 0x1000 =
        some
          { bucketCount := 2
            head := fun bucket =>
              (threeSpawnsMemory.readWord
                (0x3000 + UInt32.ofNat bucket * 4)).map link } := by
    have isPointer :
        nonNull
            (threeSpawnsMemory.readWord
              (0x1000 + kPlayerManagerSpawnIdIndexOffset)) =
          some 0x2000 := by
      decide +kernel
    have isCount :
        nonNull
            (threeSpawnsMemory.readWord
              (0x2000 + kSpawnIdIndexBucketCountOffset)) =
          some 2 := by
      decide +kernel
    have isBuckets :
        nonNull
            (threeSpawnsMemory.readWord
              (0x2000 + kSpawnIdIndexBucketsOffset)) =
          some 0x3000 := by
      decide +kernel
    simp only [spawnIdIndexAt, isPointer, isCount, isBuckets, bind,
      Option.bind_some]
    rfl
  refine ⟨_, isIndex, ⟨fun bucket inside => ?_⟩⟩
  have isBucket : bucket = 0 ∨ bucket = 1 := by
    dsimp only at inside
    omega
  rcases isBucket with rfl | rfl
  · refine ⟨some 0x4000, [(6, 0x5000), (10, 0x6000)], by decide +kernel,
      ?_, by decide, ?_⟩
    · have last :
          Chain (spawnNodes threeSpawnsMemory) (some 0x4100)
            [(10, 0x6000)] :=
        .cons (by decide +kernel) (by decide +kernel) (by decide +kernel)
          .nil
      exact .cons (by decide +kernel) (by decide +kernel)
        (by decide +kernel) last
    · exact threeSpawns_even
  · refine ⟨some 0x4200, [(9, 0x7000)], by decide +kernel, ?_, by decide,
      ?_⟩
    · exact .cons (by decide +kernel) (by decide +kernel)
        (by decide +kernel) .nil
    · exact threeSpawns_odd

/-- The second spawn of its bucket is found, and an unknown one is not. -/
theorem spawn_lookup_refines_index_three :
    tryFindSpawnByIdFromSpawnList threeSpawnsMemory 0x1000 10 =
        some 0x6000 ∧
      tryFindSpawnByIdFromSpawnList threeSpawnsMemory 0x1000 8 = none :=
  ⟨(spawn_lookup_refines_index threeSpawnsMemory 0x1000 10 (by decide)).2 _
      threeSpawnsMemory_knowsSpawns,
    (spawn_lookup_refines_index threeSpawnsMemory 0x1000 8 (by decide)).2 _
      threeSpawnsMemory_knowsSpawns⟩

end MonomythClient.SpawnIdIndex
