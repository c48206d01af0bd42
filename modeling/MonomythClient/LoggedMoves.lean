import Mathlib.Data.List.Basic

namespace LoggedMoves

/-!
# Computations that log their moves

A computation that may give up is run once for its result and once with a log
of the moves it makes.  The log is kept when the computation gives up, so that
what holds of every logged move holds of every move of every run.
-/

variable {Move α β : Type}

/-- The moves that a computation made, and its result unless it gave up. -/
structure Logged (Move α : Type) where
  moves : List Move
  result : Option α

/-- One computation behind another; a computation that gave up stays so. -/
def Logged.andThen
    (first : Logged Move α)
    (next : α → Logged Move β) :
    Logged Move β :=
  match first.result with
  | none => { moves := first.moves, result := none }
  | some found =>
      { moves := first.moves ++ (next found).moves
        result := (next found).result }

instance : Monad (Logged Move) where
  pure found := { moves := [], result := some found }
  bind := Logged.andThen

/-- A computation that makes no move. -/
def unmoved (plain : Option α) : Logged Move α where
  moves := []
  result := plain

/-- A computation that makes the given move when it succeeds. -/
def moving (plain : Option α) (move : α → Move) : Logged Move α where
  moves := plain.toList.map move
  result := plain

/-- The computation is the plain one, and its moves are allowed. -/
structure Logs
    (allowed : Move → Prop)
    (logged : Logged Move α)
    (plain : Option α) :
    Prop where
  result : logged.result = plain
  moves : ∀ move ∈ logged.moves, allowed move

section Rules

variable {allowed : Move → Prop}

theorem logs_pure (found : α) :
    Logs allowed (pure found : Logged Move α) (some found) :=
  ⟨rfl, fun _ member => absurd member List.not_mem_nil⟩

theorem logs_unmoved (plain : Option α) :
    Logs allowed (unmoved plain) plain :=
  ⟨rfl, fun _ member => absurd member List.not_mem_nil⟩

/-- A move is allowed if it is whenever the computation succeeds. -/
theorem logs_moving
    {plain : Option α}
    {move : α → Move}
    (isAllowed : ∀ found, plain = some found → allowed (move found)) :
    Logs allowed (moving plain move) plain := by
  refine ⟨rfl, fun made member => ?_⟩
  obtain ⟨found, isFound, rfl⟩ := List.mem_map.mp member
  exact isAllowed found (Option.mem_toList.mp isFound)

/-- Computations one behind another log the moves of both. -/
theorem logs_bind
    {first : Logged Move α}
    {plain : Option α}
    {next : α → Logged Move β}
    {plainNext : α → Option β}
    (firstLogs : Logs allowed first plain)
    (nextLogs : ∀ found, Logs allowed (next found) (plainNext found)) :
    Logs allowed (first >>= next) (plain >>= plainNext) := by
  change Logs allowed (first.andThen next) (plain.bind plainNext)
  rw [Logged.andThen, firstLogs.result]
  cases plain with
  | none =>
      exact ⟨rfl, firstLogs.moves⟩
  | some found =>
      refine ⟨(nextLogs found).result, fun move member => ?_⟩
      rcases List.mem_append.mp member with ofFirst | ofNext
      · exact firstLogs.moves move ofFirst
      · exact (nextLogs found).moves move ofNext

end Rules

end LoggedMoves
