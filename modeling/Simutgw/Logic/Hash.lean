import Mathlib.Algebra.BigOperators.Group.List.Basic
import Mathlib.Algebra.Order.Ring.Int

/-! A hash as its users see it: a map from fields to values, written several
fields at once and read by a list of fields, where a missing one reads as the
default. -/

namespace Simutgw.Logic

/-- What a hash holds under each field. -/
abbrev Hash (Field Value : Type*) := Field → Option Value

namespace Hash

variable {Field Value : Type*} [DecidableEq Field]

def set (hash : Hash Field Value) : List (Field × Value) → Hash Field Value
  | [] => hash
  | pair :: pairs => set (Function.update hash pair.1 (some pair.2)) pairs

def get [Inhabited Value] (hash : Hash Field Value) (fields : List Field) : List Value :=
  fields.map fun field => (hash field).getD default

theorem set_of_notMem (hash : Hash Field Value) {pairs : List (Field × Value)} {field : Field}
    (untouched : field ∉ pairs.map Prod.fst) : set hash pairs field = hash field := by
  induction pairs generalizing hash with
  | nil => rfl
  | cons pair pairs ih =>
    rw [List.map_cons, List.mem_cons, not_or] at untouched
    rw [set, ih _ untouched.2, Function.update_of_ne untouched.1]

theorem set_of_mem (hash : Hash Field Value) {pairs : List (Field × Value)} {field : Field} {value : Value}
    (written : (field, value) ∈ pairs) (once : (pairs.map Prod.fst).Nodup) : set hash pairs field = some value := by
  induction pairs generalizing hash with
  | nil => cases written
  | cons pair pairs ih =>
    rw [List.map_cons, List.nodup_cons] at once
    cases List.mem_cons.mp written with
    | inl here =>
      subst here
      rw [set, set_of_notMem _ once.1, Function.update_self]
    | inr later => exact ih _ later once.2

/-- A field holds what it is given last. -/
theorem set_last (hash : Hash Field Value) (front : List (Field × Value)) {field : Field} {value : Value}
    {back : List (Field × Value)} (later : field ∉ back.map Prod.fst) :
    set hash (front ++ (field, value) :: back) field = some value := by
  induction front generalizing hash with
  | nil => rw [List.nil_append, set, set_of_notMem _ later, Function.update_self]
  | cons pair front ih => exact ih _

end Hash
end Simutgw.Logic
