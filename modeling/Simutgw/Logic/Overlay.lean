import Mathlib.Data.List.Induction

/-! What is known of some cells, and patches that say something about some of them.
Each cell holds values of its own type. Laid over one another, the last patch to say
something about a cell counts. -/

namespace Simutgw.Logic

variable {Cell : Type*} {Value : Cell → Type*}

abbrev Patch (Cell : Type*) (Value : Cell → Type*) := (cell : Cell) → Option (Value cell)

namespace Patch

/-- A patch over what is known. -/
def lay (known patch : Patch Cell Value) : Patch Cell Value := fun cell => (patch cell).or (known cell)

/-- The patches over one another, the first lowest. -/
def layAll (known : Patch Cell Value) (patches : List (Patch Cell Value)) : Patch Cell Value := patches.foldl lay known

/-- What the last of the patches to say something about a cell says. -/
def last (patches : List (Patch Cell Value)) : Patch Cell Value := layAll (fun _ => none) patches

variable {known patch : Patch Cell Value} {patches : List (Patch Cell Value)} {cell : Cell}

theorem layAll_append (front back : List (Patch Cell Value)) :
    layAll known (front ++ back) = layAll (layAll known front) back := List.foldl_append

theorem layAll_eq_lay_last : layAll known patches = lay known (last patches) := by
  induction patches using List.reverseRecOn with
  | nil => rfl
  | append_singleton patches patch ih =>
    funext cell
    simp only [last, layAll_append] at ih ⊢
    simp only [layAll, List.foldl_cons, List.foldl_nil] at ih ⊢
    rw [ih]
    simp only [lay, Option.or_assoc]

theorem layAll_apply : layAll known patches cell = (last patches cell).or (known cell) :=
  congrFun layAll_eq_lay_last cell

/-- Patches change nothing just when the last word on each cell is what was known. -/
theorem layAll_eq_self_iff :
    layAll known patches = known ↔ ∀ cell value, last patches cell = some value → known cell = some value := by
  constructor
  · intro same cell value said
    rw [← same, layAll_apply, said]
    rfl
  · intro backed
    funext cell
    rw [layAll_apply]
    cases said : last patches cell with
    | none => rfl
    | some value => exact (backed cell value said).symm

/-- The value of the first of some cells of one type that is known. -/
def firstKnown {Cell Value : Type*} (known : Patch Cell fun _ => Value) (cells : List Cell) : Option Value :=
  cells.findSome? known

theorem firstKnown_lay_of_silent {Cell Value : Type*} {known patch : Patch Cell fun _ => Value} {cells : List Cell}
    (silent : ∀ cell ∈ cells, patch cell = none) : firstKnown (lay known patch) cells = firstKnown known cells := by
  induction cells with
  | nil => rfl
  | cons cell cells ih =>
    have here : lay known patch cell = known cell := by rw [lay, silent cell (.head _), Option.none_or]
    simp only [firstKnown, List.findSome?_cons, here] at ih ⊢
    rw [ih fun cell member => silent cell (.tail _ member)]

theorem last_append_singleton (patches : List (Patch Cell Value)) (patch : Patch Cell Value) :
    last (patches ++ [patch]) = lay (last patches) patch := layAll_append patches [patch]

theorem lay_eq_iff {blank : Patch Cell Value} :
    lay known patch = lay blank patch ↔ ∀ cell, patch cell = none → known cell = blank cell := by
  constructor
  · intro same cell unsaid
    have here := congrFun same cell
    simpa only [lay, unsaid, Option.none_or] using here
  · intro rest
    funext cell
    simp only [lay]
    cases said : patch cell with
    | none => rw [Option.none_or, Option.none_or, rest cell said]
    | some value => rfl

end Patch

end Simutgw.Logic
