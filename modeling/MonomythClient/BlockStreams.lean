import Mathlib.Data.List.Basic

namespace BlockStreams

/-!
# Streams cut into blocks

A function that works on blocks of one size is run over an input that comes in
pieces of any size: what does not fill a block is kept until it does.  However
the input is cut, the blocks are those of the whole of it.
-/

variable {Element State : Type}

/-- The full blocks of an input. -/
def blocks (size : Nat) (input : List Element) : List (List Element) :=
  (List.range (input.length / size)).map fun index =>
    (input.drop (size * index)).take size

/-- Blocks that are joined are cut apart again. -/
theorem blocks_flatten
    {size : Nat}
    (positive : 0 < size)
    {parts : List (List Element)}
    (uniform : ∀ part ∈ parts, part.length = size) :
    blocks size parts.flatten = parts := by
  induction parts with
  | nil =>
      simp [blocks]
  | cons part rest hypothesis =>
      have isSize : part.length = size := uniform part List.mem_cons_self
      have count :
          (part ++ rest.flatten).length / size =
            rest.flatten.length / size + 1 := by
        rw [List.length_append, isSize, Nat.add_comm,
          Nat.add_div_right _ positive]
      have later :=
        hypothesis fun other member =>
          uniform other (List.mem_cons_of_mem _ member)
      rw [List.flatten_cons, blocks, count, List.range_succ_eq_map,
        List.map_cons, List.map_map]
      congr 1
      · rw [Nat.mul_zero, List.drop_zero, ← isSize, List.take_left]
      · calc
          (List.range (rest.flatten.length / size)).map
              ((fun index =>
                  ((part ++ rest.flatten).drop (size * index)).take size) ∘
                Nat.succ)
            = blocks size rest.flatten := by
              apply List.map_congr_left
              intro index _
              have behind :
                  size * index.succ = part.length + size * index := by
                rw [isSize, Nat.mul_succ, Nat.add_comm]
              simp only [Function.comp_apply, behind,
                List.drop_append, Nat.add_sub_cancel_left]
              rw [List.drop_eq_nil_of_le (Nat.le_add_right ..),
                List.nil_append]
          _ = rest := later

/--
An input was taken in up to a rest: the state is that behind the blocks before
the rest.
-/
def Streamed
    (size : Nat)
    (step : State → List Element → State)
    (initial : State)
    (input : List Element)
    (state : State)
    (rest : List Element) : Prop :=
  ∃ parts : List (List Element),
    (∀ part ∈ parts, part.length = size) ∧
      input = parts.flatten ++ rest ∧ state = parts.foldl step initial

section

variable
  {size : Nat}
  {step : State → List Element → State}
  {initial state : State}
  {input rest : List Element}

theorem Streamed.nil : Streamed size step initial [] initial [] :=
  ⟨[], fun _ member => absurd member List.not_mem_nil, rfl, rfl⟩

/-- What comes in is kept. -/
theorem Streamed.append
    (streamed : Streamed size step initial input state rest)
    (more : List Element) :
    Streamed size step initial (input ++ more) state (rest ++ more) := by
  obtain ⟨parts, uniform, rfl, rfl⟩ := streamed
  exact ⟨parts, uniform, List.append_assoc .., rfl⟩

/-- A rest that fills a block is worked on. -/
theorem Streamed.block
    (streamed : Streamed size step initial input state rest)
    (isFull : rest.length = size) :
    Streamed size step initial input (step state rest) [] := by
  obtain ⟨parts, uniform, rfl, rfl⟩ := streamed
  refine ⟨parts ++ [rest], ?_, ?_, ?_⟩
  · intro part member
    rcases List.mem_append.mp member with earlier | last
    · exact uniform part earlier
    · rw [List.mem_singleton.mp last]
      exact isFull
  · rw [List.flatten_append, List.flatten_singleton, List.append_nil]
  · rw [List.foldl_append, List.foldl_cons, List.foldl_nil]

/-- Without a rest, all blocks of the input were worked on. -/
theorem Streamed.complete
    (streamed : Streamed size step initial input state [])
    (positive : 0 < size) :
    state = (blocks size input).foldl step initial := by
  obtain ⟨parts, uniform, rfl, rfl⟩ := streamed
  rw [List.append_nil, blocks_flatten positive uniform]

/-- The rest is as long as the input, up to some blocks. -/
theorem Streamed.length
    (streamed : Streamed size step initial input state rest) :
    ∃ count, input.length = count * size + rest.length := by
  obtain ⟨parts, uniform, rfl, rfl⟩ := streamed
  refine ⟨parts.length, ?_⟩
  rw [List.length_append, List.length_flatten,
    List.map_congr_left uniform, List.map_const',
    List.sum_replicate_nat]

end

end BlockStreams
