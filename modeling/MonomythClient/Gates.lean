import Mathlib.Data.List.Basic

namespace Gates

/-!
# Gates

Conditions that are tested one after another, each with the reason it gives
when it does not hold.  The first one that fails decides; when none does, there
is no refusal.
-/

variable {Reason : Type}

/-- A condition, and the reason given when it fails. -/
structure Gate (Reason : Type) where
  holds : Bool
  reason : Reason
  deriving Repr, DecidableEq

/-- The reason of the first gate that fails. -/
def refusal : List (Gate Reason) → Option Reason
  | [] => none
  | gate :: later => if gate.holds then refusal later else some gate.reason

/-- A gate that holds is passed. -/
@[simp] theorem refusal_of_holds
    (reason : Reason)
    (later : List (Gate Reason)) :
    refusal (⟨true, reason⟩ :: later) = refusal later :=
  rfl

/-- A gate that fails decides. -/
@[simp] theorem refusal_of_fails
    (reason : Reason)
    (later : List (Gate Reason)) :
    refusal (⟨false, reason⟩ :: later) = some reason :=
  rfl

/-- Gates behind others are tested when those hold. -/
theorem refusal_append (earlier later : List (Gate Reason)) :
    refusal (earlier ++ later) =
      (refusal earlier).or (refusal later) := by
  induction earlier with
  | nil =>
      rfl
  | cons gate rest inductionHypothesis =>
      rw [List.cons_append, refusal, refusal, inductionHypothesis]
      split
      · rfl
      · rfl

/-- Nothing is refused when every gate holds. -/
theorem refusal_eq_none_iff {gates : List (Gate Reason)} :
    refusal gates = none ↔ ∀ gate ∈ gates, gate.holds = true := by
  induction gates with
  | nil =>
      simp [refusal]
  | cons gate rest inductionHypothesis =>
      rw [refusal, List.forall_mem_cons]
      by_cases holds : gate.holds = true
      · rw [if_pos holds, inductionHypothesis]
        exact (and_iff_right holds).symm
      · rw [if_neg holds]
        constructor
        · intro refused
          cases refused
        · intro all
          exact (holds all.1).elim

/-! ## Verdicts -/

/--
What a test says of its subject: whether it accepts it, whether the subject is
safe to use, and a reason.
-/
structure Verdict (Reason : Type) where
  accepted : Bool
  safe : Bool
  reason : Reason
  deriving Repr, DecidableEq

/-- A verdict is what the gates say. -/
structure Verdict.Decided
    (verdict : Verdict Reason)
    (gates : List (Gate Reason)) : Prop where
  refused :
    (if verdict.accepted then none else some verdict.reason) = refusal gates
  safe : verdict.safe = verdict.accepted

namespace Verdict.Decided

variable
  {verdict : Verdict Reason}
  {gates : List (Gate Reason)}

/-- A subject that fails is refused for its reason. -/
theorem failed
    {reason : Reason}
    (accepted : verdict.accepted = false)
    (isReason : verdict.reason = reason)
    (safe : verdict.safe = false) :
    verdict.Decided (⟨false, reason⟩ :: gates) where
  refused := by
    rw [accepted, isReason, refusal_of_fails, if_neg Bool.false_ne_true]
  safe := safe.trans accepted.symm

/-- A subject that passes has no gate left. -/
theorem passed
    (accepted : verdict.accepted = true)
    (safe : verdict.safe = true) :
    verdict.Decided [] where
  refused := by
    rw [accepted, if_pos rfl, refusal]
  safe := safe.trans accepted.symm

/-- A gate that holds can be put in front. -/
theorem gate
    {holds : Bool}
    {reason : Reason}
    (isHeld : holds = true)
    (decided : verdict.Decided gates) :
    verdict.Decided (⟨holds, reason⟩ :: gates) where
  refused := by
    rw [isHeld, refusal_of_holds]
    exact decided.refused
  safe := decided.safe

/-- Gates that refuse alike decide alike. -/
theorem congr
    {others : List (Gate Reason)}
    (same : refusal gates = refusal others)
    (decided : verdict.Decided gates) :
    verdict.Decided others where
  refused := decided.refused.trans same
  safe := decided.safe

/-- A subject is accepted exactly when all gates hold. -/
theorem accepted_iff (decided : verdict.Decided gates) :
    verdict.accepted = true ↔ ∀ gate ∈ gates, gate.holds = true := by
  rw [← refusal_eq_none_iff, ← decided.refused]
  cases verdict.accepted with
  | false =>
      simp
  | true =>
      simp

end Verdict.Decided

end Gates
