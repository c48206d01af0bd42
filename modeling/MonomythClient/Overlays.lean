import Mathlib.Logic.Function.Basic

namespace Overlays

/-!
# Patches over a memory

A patch gives some addresses a new value.  A memory that is overlaid with
patches holds their values where they are, and elsewhere what it held at first.
Patches that share no address can be laid over it and taken away one by one.
-/

/-- New values for some addresses. -/
abbrev Patch (Address Value : Type) : Type :=
  Address → Option Value

variable {Name Address Value : Type}

/-- A memory with a patch written over it. -/
def Patch.apply
    (patch : Patch Address Value)
    (memory : Address → Value) :
    Address → Value :=
  fun address => (patch address).getD (memory address)

/-- Two patches share no address. -/
def Separate (left right : Patch Address Value) : Prop :=
  ∀ address, left address = none ∨ right address = none

/-- A memory holds some patches over a base, at the addresses of interest. -/
structure Overlaid
    (inside : Address → Prop)
    (base memory : Address → Value)
    (patches : Name → Patch Address Value) : Prop where
  covered :
    ∀ address,
      inside address →
        ∀ name value,
          patches name address = some value → memory address = value
  uncovered :
    ∀ address,
      inside address →
        (∀ name, patches name address = none) →
          memory address = base address

section Laws

variable
  {inside : Address → Prop}
  {base memory after : Address → Value}
  {patches : Name → Patch Address Value}

/-- Without patches a memory is its base. -/
theorem overlaid_of_none
    (nothing : ∀ name address, patches name address = none) :
    Overlaid inside base base patches where
  covered address _ name value isValue := by
    rw [nothing] at isValue
    cases isValue
  uncovered _ _ _ := rfl

/-- Only the values at the addresses of interest matter. -/
theorem Overlaid.congr
    (overlaid : Overlaid inside base memory patches)
    (same : ∀ address, inside address → after address = memory address) :
    Overlaid inside base after patches where
  covered address isInside name value isValue :=
    (same address isInside).trans
      (overlaid.covered address isInside name value isValue)
  uncovered address isInside free :=
    (same address isInside).trans
      (overlaid.uncovered address isInside free)

/-- Where a patch can go, the memory is its base. -/
theorem Overlaid.base_of_separate
    (overlaid : Overlaid inside base memory patches)
    {patch : Patch Address Value}
    (separate : ∀ name, Separate patch (patches name))
    {address : Address}
    (isInside : inside address)
    (covers : patch address ≠ none) :
    memory address = base address :=
  overlaid.uncovered address isInside fun name =>
    (separate name address).resolve_left covers

variable [DecidableEq Name]

/-- A patch is laid over the others. -/
theorem Overlaid.install
    (overlaid : Overlaid inside base memory patches)
    {name : Name}
    {patch : Patch Address Value}
    (free : ∀ address, patches name address = none)
    (separate : ∀ other, other ≠ name → Separate patch (patches other))
    (written :
      ∀ address,
        inside address → after address = patch.apply memory address) :
    Overlaid inside base after (Function.update patches name patch) where
  covered := by
    intro address isInside other value isValue
    rw [written address isInside, Patch.apply]
    by_cases same : other = name
    · subst same
      rw [Function.update_self] at isValue
      rw [isValue, Option.getD_some]
    · rw [Function.update_of_ne same] at isValue
      have notCovered : patch address = none := by
        rcases separate other same address with isNone | isNone
        · exact isNone
        · rw [isNone] at isValue
          cases isValue
      rw [notCovered, Option.getD_none]
      exact overlaid.covered address isInside other value isValue
  uncovered := by
    intro address isInside nothing
    have notCovered := nothing name
    rw [Function.update_self] at notCovered
    rw [written address isInside, Patch.apply, notCovered,
      Option.getD_none]
    apply overlaid.uncovered address isInside
    intro other
    by_cases same : other = name
    · rw [same]
      exact free address
    · rw [← nothing other, Function.update_of_ne same]

/-- A patch is taken away again. -/
theorem Overlaid.remove
    (overlaid : Overlaid inside base memory patches)
    {name : Name}
    (separate :
      ∀ other, other ≠ name → Separate (patches name) (patches other))
    (restored :
      ∀ address,
        inside address →
          patches name address ≠ none → after address = base address)
    (kept :
      ∀ address,
        inside address →
          patches name address = none →
            after address = memory address) :
    Overlaid inside base after
      (Function.update patches name fun _ => none) where
  covered := by
    intro address isInside other value isValue
    by_cases same : other = name
    · rw [same, Function.update_self] at isValue
      cases isValue
    · rw [Function.update_of_ne same] at isValue
      have notCovered : patches name address = none := by
        rcases separate other same address with isNone | isNone
        · exact isNone
        · rw [isNone] at isValue
          cases isValue
      rw [kept address isInside notCovered]
      exact overlaid.covered address isInside other value isValue
  uncovered := by
    intro address isInside nothing
    by_cases covered : patches name address = none
    · rw [kept address isInside covered]
      apply overlaid.uncovered address isInside
      intro other
      by_cases same : other = name
      · rw [same]
        exact covered
      · rw [← nothing other, Function.update_of_ne same]
    · exact restored address isInside covered

end Laws

end Overlays
