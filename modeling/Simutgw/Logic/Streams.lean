import Mathlib.Algebra.BigOperators.Group.List.Basic
import Mathlib.Algebra.Order.Ring.Int

/-! A stream of pieces cut at other places than between them. A receiver that takes
whole pieces off the front and keeps what is left of a piece, fed the cuts one after
another, takes off every piece and keeps nothing. -/

namespace Simutgw.Logic

variable {Symbol Kept : Type*}

/-- The front of a piece that has not come in whole, if anything of it has. -/
def Torn (pieces : List (List Symbol)) (tail : List Symbol) : Prop :=
  tail = [] ∨ ∃ piece more, pieces = piece :: more ∧ tail <+: piece ∧ tail.length < piece.length

theorem front_of_pieces {pieces : List (List Symbol)} {front back : List Symbol} (cut : pieces.flatten = front ++ back) :
    ∃ whole rest tail, pieces = whole ++ rest ∧ front = whole.flatten ++ tail ∧ Torn rest tail := by
  induction pieces generalizing front with
  | nil =>
    obtain ⟨rfl, -⟩ := List.append_eq_nil_iff.mp cut.symm
    exact ⟨[], [], [], rfl, rfl, .inl rfl⟩
  | cons piece pieces ih =>
    rw [List.flatten_cons] at cut
    rcases List.append_eq_append_iff.mp cut with ⟨later, rfl, same⟩ | ⟨left, split, -⟩
    · obtain ⟨whole, rest, tail, rfl, rfl, torn⟩ := ih same
      exact ⟨piece :: whole, rest, tail, rfl, by rw [List.flatten_cons, List.append_assoc], torn⟩
    · rcases Nat.eq_or_lt_of_le (show front.length ≤ piece.length by rw [split, List.length_append]; omega) with all | short
      · have none : left = [] := by
          rw [split, List.length_append] at all
          exact List.eq_nil_of_length_eq_zero (by omega)
        rw [none, List.append_nil] at split
        exact ⟨[piece], pieces, [], rfl, by simp [split], .inl rfl⟩
      · exact ⟨[], piece :: pieces, front, rfl, rfl, .inr ⟨piece, pieces, rfl, ⟨left, split.symm⟩, short⟩⟩

theorem Torn.nothing_left {pieces : List (List Symbol)} {tail : List Symbol} (torn : Torn pieces tail)
    (solid : ∀ piece ∈ pieces, piece ≠ []) (all : pieces.flatten = tail) : pieces = [] ∧ tail = [] := by
  rcases torn with rfl | ⟨piece, more, rfl, -, short⟩
  · refine ⟨?_, rfl⟩
    cases pieces with
    | nil => rfl
    | cons piece pieces =>
      rw [List.flatten_cons] at all
      exact absurd (List.append_eq_nil_iff.mp all).1 (solid piece List.mem_cons_self)
  · rw [← all, List.flatten_cons, List.length_append] at short
    omega

/-- What is kept of the input, and what has been made of it. -/
structure Feed (Symbol Kept : Type*) where
  pending : List Symbol
  taken : List Kept

/-- The chunks are received one after another. -/
inductive Fed (receives : Feed Symbol Kept → List Symbol → Feed Symbol Kept → Prop) :
    Feed Symbol Kept → List (List Symbol) → Feed Symbol Kept → Prop
  | nil (feed : Feed Symbol Kept) : Fed receives feed [] feed
  | cons {feed next last : Feed Symbol Kept} {chunk : List Symbol} {chunks : List (List Symbol)}
      (received : receives feed chunk next) (rest : Fed receives next chunks last) :
      Fed receives feed (chunk :: chunks) last

variable {receives : Feed Symbol Kept → List Symbol → Feed Symbol Kept → Prop}

theorem Fed.unique (single : ∀ feed chunk one two, receives feed chunk one → receives feed chunk two → one = two)
    {feed one two : Feed Symbol Kept} {chunks : List (List Symbol)} (first : Fed receives feed chunks one)
    (second : Fed receives feed chunks two) : one = two := by
  induction first with
  | nil =>
    cases second
    rfl
  | cons received _ ih =>
    cases second with
    | cons again rest =>
      cases single _ _ _ _ received again
      exact ih rest

/-- A receiver that takes whole pieces off and keeps a torn one receives the stream
however it is cut. -/
theorem fed_of_receives {pieces : List (List Symbol × Kept)} (solid : ∀ piece ∈ pieces, piece.1 ≠ [])
    (takes : ∀ first second rest, pieces = first ++ (second ++ rest) → ∀ pending chunk tail,
      pending ++ chunk = (second.map Prod.fst).flatten ++ tail → Torn (rest.map Prod.fst) tail →
      receives ⟨pending, first.map Prod.snd⟩ chunk ⟨tail, (first ++ second).map Prod.snd⟩)
    (chunks : List (List Symbol)) (cut : chunks.flatten = (pieces.map Prod.fst).flatten) :
    Fed receives ⟨[], []⟩ chunks ⟨[], pieces.map Prod.snd⟩ := by
  suffices later : ∀ (chunks : List (List Symbol)) first left pending, pieces = first ++ left →
      Torn (left.map Prod.fst) pending → (left.map Prod.fst).flatten = pending ++ chunks.flatten →
      Fed receives ⟨pending, first.map Prod.snd⟩ chunks ⟨[], pieces.map Prod.snd⟩ from
    later chunks [] pieces [] rfl (.inl rfl) cut.symm
  intro chunks
  induction chunks with
  | nil =>
    intro first left pending split torn rest
    have solid : ∀ piece ∈ left.map Prod.fst, piece ≠ [] := by
      intro piece found
      obtain ⟨one, member, rfl⟩ := List.mem_map.mp found
      exact solid one (split ▸ List.mem_append_right _ member)
    rw [List.flatten_nil, List.append_nil] at rest
    obtain ⟨none, rfl⟩ := torn.nothing_left solid rest
    rw [List.map_eq_nil_iff] at none
    subst none
    rw [split, List.append_nil]
    exact .nil _
  | cons chunk chunks ih =>
    intro first left pending split torn rest
    rw [List.flatten_cons, ← List.append_assoc] at rest
    obtain ⟨whole, remaining, tail, parts, front, torn⟩ := front_of_pieces rest
    obtain ⟨second, others, rfl, rfl, rfl⟩ := List.map_eq_append_iff.mp parts
    refine .cons (takes first second others split pending chunk tail front torn) ?_
    apply ih (first ++ second) others tail
    · rw [split, List.append_assoc]
    · exact torn
    · rw [List.map_append, List.flatten_append, front, List.append_assoc] at rest
      exact List.append_cancel_left rest

end Simutgw.Logic
