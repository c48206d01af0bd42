import Mathlib.Data.List.Basic

namespace ReadFootprints

/-!
# What a computation reads

A computation on a memory stays inside a region when every memory with the same
contents there gives the same result.  What a computation reads may depend on
what it read before, so the rules speak of one memory and what is found in it.
-/

variable {Address Content Value Result : Type}

/-- On this memory the computation reads nothing outside the region. -/
def StaysInside
    (memory : Address → Content)
    (region : Address → Prop)
    (compute : (Address → Content) → Value) : Prop :=
  ∀ other : Address → Content,
    (∀ address, region address → other address = memory address) →
      compute other = compute memory

variable
  {memory : Address → Content}
  {region : Address → Prop}

theorem StaysInside.const (value : Value) :
    StaysInside memory region fun _ => value :=
  fun _ _ => rfl

/-- Reading an address of the region. -/
theorem StaysInside.read
    {address : Address}
    (inside : region address) :
    StaysInside memory region fun contents => contents address :=
  fun _ agree => agree address inside

/-- What is computed from a result. -/
theorem StaysInside.map
    {first : (Address → Content) → Value}
    (firstInside : StaysInside memory region first)
    (change : Value → Result) :
    StaysInside memory region fun contents => change (first contents) :=
  fun other agree => congrArg change (firstInside other agree)

/-- What is computed from two results. -/
theorem StaysInside.map₂
    {Other : Type}
    {first : (Address → Content) → Value}
    {second : (Address → Content) → Other}
    (firstInside : StaysInside memory region first)
    (secondInside : StaysInside memory region second)
    (change : Value → Other → Result) :
    StaysInside memory region fun contents =>
      change (first contents) (second contents) := by
  intro other agree
  dsimp only
  rw [firstInside other agree, secondInside other agree]

/-- Looking for an item whose test depends on the memory. -/
theorem StaysInside.find
    {Item : Type}
    {test : Item → (Address → Content) → Bool}
    {items : List Item}
    (itemsInside :
      ∀ item ∈ items, StaysInside memory region (test item)) :
    StaysInside memory region fun contents =>
      items.find? fun item => test item contents := by
  intro other agree
  dsimp only
  induction items with
  | nil =>
      rfl
  | cons item later inductionHypothesis =>
      have same := itemsInside item List.mem_cons_self other agree
      have rest :=
        inductionHypothesis fun other member =>
          itemsInside other (List.mem_cons_of_mem item member)
      rw [List.find?_cons, List.find?_cons, same, rest]

/-- The first result over the items of a list. -/
theorem StaysInside.findSome
    {Item : Type}
    {compute : Item → (Address → Content) → Option Value}
    {items : List Item}
    (itemsInside :
      ∀ item ∈ items, StaysInside memory region (compute item)) :
    StaysInside memory region fun contents =>
      items.findSome? fun item => compute item contents := by
  intro other agree
  dsimp only
  induction items with
  | nil =>
      rfl
  | cons item later inductionHypothesis =>
      have same := itemsInside item List.mem_cons_self other agree
      have rest :=
        inductionHypothesis fun other member =>
          itemsInside other (List.mem_cons_of_mem item member)
      rw [List.findSome?_cons, List.findSome?_cons, same, rest]

/-- Going over a list with a state. -/
theorem StaysInside.foldl
    {Item State : Type}
    {step : State → Item → (Address → Content) → State}
    {items : List Item}
    (itemsInside :
      ∀ item ∈ items, ∀ state,
        StaysInside memory region (step state item))
    (initial : State) :
    StaysInside memory region fun contents =>
      items.foldl (fun state item => step state item contents) initial := by
  intro other agree
  dsimp only
  induction items generalizing initial with
  | nil =>
      rfl
  | cons item later inductionHypothesis =>
      rw [List.foldl_cons, List.foldl_cons,
        itemsInside item List.mem_cons_self initial other agree]
      exact inductionHypothesis
        (fun other member =>
          itemsInside other (List.mem_cons_of_mem item member)) _

end ReadFootprints
