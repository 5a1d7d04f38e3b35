import Mathlib.Order.Basic
import Mathlib.Data.List.Nodup

/-! Numbers handed out from a mark and written in the order they were handed out.
Some of what was handed out may never be written. As long as the mark only rises
the written numbers are distinct and above everything written before them. -/

namespace Simutgw.Logic

variable {α : Type*} [Preorder α]

/-- What is written is distinct, and larger than all it found. -/
structure Numbered (held written : List α) : Prop where
  distinct : written.Nodup
  larger : ∀ front number back, written = front ++ number :: back → ∀ old ∈ held ++ front, old < number

/-- What was found, what is written, what still waits, and the mark above them all. -/
structure Ascending (held written waiting : List α) (mark : α) : Prop where
  pairwise : (written ++ waiting).Pairwise (· < ·)
  above : ∀ old ∈ held, ∀ number ∈ written ++ waiting, old < number
  bounded : ∀ number ∈ held ++ (written ++ waiting), number ≤ mark

namespace Ascending

variable {held written waiting : List α} {mark number : α}

theorem initial (covered : ∀ old ∈ held, old ≤ mark) : Ascending held [] [] mark := by
  refine ⟨List.Pairwise.nil, ?_, ?_⟩
  · intro old _ number inside
    cases inside
  · simpa using covered

/-- A higher mark still covers everything. -/
theorem raise (ascending : Ascending held written waiting mark) {raised : α} (higher : mark ≤ raised) :
    Ascending held written waiting raised :=
  ⟨ascending.pairwise, ascending.above, fun number inside => (ascending.bounded number inside).trans higher⟩

theorem draw (ascending : Ascending held written waiting mark) (higher : mark < number) :
    Ascending held written (waiting ++ [number]) number := by
  have below : ∀ old ∈ held ++ (written ++ waiting), old < number := fun old inside =>
    lt_of_le_of_lt (ascending.bounded old inside) higher
  refine ⟨?_, ?_, ?_⟩
  · rw [← List.append_assoc]
    apply List.pairwise_append.mpr
    refine ⟨ascending.pairwise, List.pairwise_singleton _ _, ?_⟩
    intro old inside new last
    cases List.mem_singleton.mp last
    exact below old (List.mem_append_right _ inside)
  · intro old found new inside
    rw [← List.append_assoc] at inside
    rcases List.mem_append.mp inside with inside | last
    · exact ascending.above old found new inside
    · cases List.mem_singleton.mp last
      exact below old (List.mem_append_left _ found)
  · intro old inside
    rw [← List.append_assoc, ← List.append_assoc] at inside
    rcases List.mem_append.mp inside with inside | last
    · rw [List.append_assoc] at inside
      exact (below old inside).le
    · exact (List.mem_singleton.mp last).le

theorem write (ascending : Ascending held written (number :: waiting) mark) :
    Ascending held (written ++ [number]) waiting mark := by
  obtain ⟨pairwise, above, bounded⟩ := ascending
  refine ⟨?_, ?_, ?_⟩
  · simpa using pairwise
  · simpa using above
  · simpa using bounded

theorem lose {kept : List α} (ascending : Ascending held written waiting mark) (rest : kept.Sublist waiting) :
    Ascending held written kept mark := by
  have fewer : (written ++ kept).Sublist (written ++ waiting) := rest.append_left written
  refine ⟨ascending.pairwise.sublist fewer, ?_, ?_⟩
  · intro old found number inside
    exact ascending.above old found number (fewer.subset inside)
  · intro number inside
    apply ascending.bounded
    exact ((List.Sublist.refl held).append fewer).subset inside

theorem numbered (ascending : Ascending held written waiting mark) : Numbered held written := by
  have pairwise : written.Pairwise (· < ·) := ascending.pairwise.sublist (List.sublist_append_left _ _)
  refine ⟨pairwise.imp ne_of_lt, ?_⟩
  rintro front number back rfl old inside
  rcases List.mem_append.mp inside with found | before
  · exact ascending.above old found number (by simp)
  · exact (List.pairwise_append.mp pairwise).2.2 old before number List.mem_cons_self

end Ascending
end Simutgw.Logic
