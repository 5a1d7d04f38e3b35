import Mathlib.Algebra.BigOperators.Group.List.Basic
import Mathlib.Algebra.Order.Ring.Int
import Mathlib.Data.List.Pairwise

/-! Servers with a line each. What arrives is numbered and joins one line; it leaves
from the front, served or dropped. Where an arrival always joins the line that still has
the earlier ones it conflicts with, conflicting ones are served in the order of their
arrival. -/

namespace Simutgw.Logic

/-- The lines, what has arrived by number, and what was served and dropped so far. -/
structure Lines (Item : Type*) where
  line : Nat → List (Nat × Item) := fun _ => []
  arrivals : List Item := []
  served : List (Nat × Item) := []
  dropped : List (Nat × Item) := []

namespace Lines

variable {Item : Type*}

def arrive (lines : Lines Item) (server : Nat) (item : Item) : Lines Item :=
  { lines with
    line := Function.update lines.line server (lines.line server ++ [(lines.arrivals.length, item)])
    arrivals := lines.arrivals ++ [item] }

/-- An arrival that joins no line. -/
def refuse (lines : Lines Item) (item : Item) : Lines Item :=
  { lines with
    arrivals := lines.arrivals ++ [item]
    dropped := lines.dropped ++ [(lines.arrivals.length, item)] }

/-- The front of a line leaves it. -/
def leave (lines : Lines Item) (server : Nat) (serves : Bool) : Lines Item :=
  match lines.line server with
  | [] => lines
  | front :: rest =>
    { lines with
      line := Function.update lines.line server rest
      served := if serves then lines.served ++ [front] else lines.served
      dropped := if serves then lines.dropped else lines.dropped ++ [front] }

/-- Nothing is served before an earlier arrival it conflicts with, which has been served
or dropped by then. -/
structure InOrder (conflicts : Item → Item → Prop) (lines : Lines Item) : Prop where
  served : lines.served.Pairwise fun one two => conflicts one.2 two.2 → one.1 < two.1
  settled : ∀ one ∈ lines.served, ∀ number item, lines.arrivals[number]? = some item → number < one.1 →
    conflicts one.2 item → (number, item) ∈ lines.served ∨ (number, item) ∈ lines.dropped

/-- Conflicting ones wait in one line, in the order of their numbers. -/
structure Kept (conflicts : Item → Item → Prop) (lines : Lines Item) : Prop where
  sorted : ∀ server, (lines.line server).Pairwise fun one two => one.1 < two.1
  below : ∀ server, ∀ one ∈ lines.line server, one.1 < lines.arrivals.length
  apart : ∀ {server other}, ∀ one ∈ lines.line server, ∀ two ∈ lines.line other, one.1 = two.1 → server = other
  together : ∀ {server other}, ∀ one ∈ lines.line server, ∀ two ∈ lines.line other, two.1 < one.1 →
    conflicts one.2 two.2 → server = other
  past : ∀ one ∈ lines.served, one.1 < lines.arrivals.length
  waiting : ∀ one ∈ lines.served, ∀ server, ∀ two ∈ lines.line server, conflicts one.2 two.2 → one.1 < two.1
  served : lines.served.Pairwise fun one two => conflicts one.2 two.2 → one.1 < two.1
  covered : ∀ number item, lines.arrivals[number]? = some item → (∃ server, (number, item) ∈ lines.line server) ∨
    (number, item) ∈ lines.served ∨ (number, item) ∈ lines.dropped

variable {conflicts : Item → Item → Prop} {lines : Lines Item}

theorem Kept.inOrder (kept : Kept conflicts lines) : InOrder conflicts lines := by
  refine ⟨kept.served, fun one served number item arrived earlier conflict => ?_⟩
  rcases kept.covered number item arrived with ⟨server, waiting⟩ | done
  · have later := kept.waiting one served server _ waiting conflict
    omega
  · exact done

theorem kept_empty (conflicts : Item → Item → Prop) : Kept conflicts {} where
  sorted _ := .nil
  below _ _ member := nomatch member
  apart _ member := nomatch member
  together _ member := nomatch member
  past _ member := nomatch member
  waiting _ member := nomatch member
  served := .nil
  covered _ _ arrived := nomatch arrived

theorem mem_arrive {server other : Nat} {item : Item} {one : Nat × Item}
    (member : one ∈ (lines.arrive server item).line other) :
    one ∈ lines.line other ∨ one = (lines.arrivals.length, item) ∧ other = server := by
  unfold arrive at member
  by_cases same : other = server
  · subst same
    simp only [Function.update_self, List.mem_append, List.mem_singleton] at member
    exact member.imp_right fun here => ⟨here, rfl⟩
  · simp only [Function.update_of_ne same] at member
    exact .inl member

theorem arrivals_append {number : Nat} {item other : Item}
    (arrived : (lines.arrivals ++ [other])[number]? = some item) :
    lines.arrivals[number]? = some item ∨ (number, item) = (lines.arrivals.length, other) := by
  rcases Nat.lt_trichotomy number lines.arrivals.length with earlier | here | beyond
  · rw [List.getElem?_append_left earlier] at arrived
    exact .inl arrived
  · subst here
    simp only [List.getElem?_concat_length, Option.some.injEq] at arrived
    exact .inr (by rw [arrived])
  · rw [List.getElem?_eq_none (by simp; omega)] at arrived
    cases arrived

theorem Kept.arrives (kept : Kept conflicts lines) {server : Nat} {item : Item}
    (joins : ∀ other, ∀ one ∈ lines.line other, conflicts item one.2 → other = server) :
    Kept conflicts (lines.arrive server item) where
  sorted other := by
    unfold arrive
    by_cases same : other = server
    · subst same
      simp only [Function.update_self]
      refine List.pairwise_append.mpr ⟨kept.sorted _, List.pairwise_singleton _ _, fun one member two last => ?_⟩
      rw [List.mem_singleton.mp last]
      exact kept.below _ one member
    · simp only [Function.update_of_ne same]
      exact kept.sorted other
  below other one member := by
    simp only [arrive, List.length_append, List.length_singleton]
    rcases mem_arrive member with old | ⟨rfl, _⟩
    · exact Nat.lt_succ_of_lt (kept.below other one old)
    · exact Nat.lt_succ_self _
  apart one member two memberTwo same := by
    rcases mem_arrive member with old | ⟨rfl, here⟩ <;> rcases mem_arrive memberTwo with oldTwo | ⟨rfl, hereTwo⟩
    · exact kept.apart one old two oldTwo same
    · exact absurd (kept.below _ one old) (by simp [same])
    · exact absurd (kept.below _ two oldTwo) (by simp [← same])
    · exact here.trans hereTwo.symm
  together one member two memberTwo earlier conflict := by
    rcases mem_arrive member with old | ⟨rfl, rfl⟩ <;> rcases mem_arrive memberTwo with oldTwo | ⟨rfl, hereTwo⟩
    · exact kept.together one old two oldTwo earlier conflict
    · exact absurd (kept.below _ one old) (by simp only at earlier; omega)
    · exact (joins _ two oldTwo conflict).symm
    · exact hereTwo.symm
  past one served := by
    simp only [arrive, List.length_append, List.length_singleton]
    exact Nat.lt_succ_of_lt (kept.past one served)
  waiting one served other two member conflict := by
    rcases mem_arrive member with old | ⟨rfl, _⟩
    · exact kept.waiting one served other two old conflict
    · exact kept.past one served
  served := kept.served
  covered number some arrived := by
    rcases arrivals_append arrived with old | new
    · refine (kept.covered number some old).imp_left fun ⟨other, member⟩ => ⟨other, ?_⟩
      unfold arrive
      by_cases same : other = server
      · subst same
        simp only [Function.update_self]
        exact List.mem_append_left _ member
      · simp only [Function.update_of_ne same]
        exact member
    · refine .inl ⟨server, ?_⟩
      simp only [arrive, Function.update_self]
      exact List.mem_append_right _ (List.mem_singleton.mpr new)

theorem Kept.refuses (kept : Kept conflicts lines) (item : Item) : Kept conflicts (lines.refuse item) where
  sorted := kept.sorted
  below other one member := by
    simp only [refuse, List.length_append, List.length_singleton]
    exact Nat.lt_succ_of_lt (kept.below other one member)
  apart := kept.apart
  together := kept.together
  past one served := by
    simp only [refuse, List.length_append, List.length_singleton]
    exact Nat.lt_succ_of_lt (kept.past one served)
  waiting := kept.waiting
  served := kept.served
  covered number some arrived := by
    rcases arrivals_append arrived with old | new
    · exact (kept.covered number some old).imp_right (.imp_right (List.mem_append_left _))
    · exact .inr (.inr (List.mem_append_right _ (List.mem_singleton.mpr new)))

/-- The front of a line has nothing left to wait for. -/
theorem Kept.leaves (kept : Kept conflicts lines) (server : Nat) (serves : Bool) :
    Kept conflicts (lines.leave server serves) := by
  unfold leave
  cases waiting : lines.line server with
  | nil => exact kept
  | cons front rest =>
    have sorted := kept.sorted server
    rw [waiting] at sorted
    obtain ⟨first, sorted⟩ := List.pairwise_cons.mp sorted
    have here : front ∈ lines.line server := by
      rw [waiting]
      exact List.mem_cons_self
    have before {other : Nat} {one : Nat × Item} (member : one ∈ Function.update lines.line server rest other) :
        one ∈ lines.line other ∧ (other = server → front.1 < one.1) := by
      by_cases same : other = server
      · subst same
        rw [Function.update_self] at member
        rw [waiting]
        exact ⟨List.mem_cons_of_mem _ member, fun _ => first one member⟩
      · rw [Function.update_of_ne same] at member
        exact ⟨member, fun equal => absurd equal same⟩
    have ahead {other : Nat} {two : Nat × Item} (member : two ∈ Function.update lines.line server rest other)
        (conflict : conflicts front.2 two.2) : front.1 < two.1 := by
      obtain ⟨old, later⟩ := before member
      rcases Nat.lt_trichotomy front.1 two.1 with less | equal | greater
      · exact less
      · exact later (kept.apart _ here _ old equal).symm
      · exact later (kept.together _ here _ old greater conflict).symm
    have newly {one : Nat × Item} (served : one ∈ if serves then lines.served ++ [front] else lines.served) :
        one ∈ lines.served ∨ one = front := by
      cases serves with
      | false => exact .inl served
      | true => exact (List.mem_append.mp served).imp id List.mem_singleton.mp
    refine {
      sorted := fun other => ?_
      below := fun other one member => kept.below other one (before member).1
      apart := fun one member two memberTwo => kept.apart one (before member).1 two (before memberTwo).1
      together := fun one member two memberTwo => kept.together one (before member).1 two (before memberTwo).1
      past := fun one served => ?_
      waiting := fun one served other two member conflict => ?_
      served := ?_
      covered := fun number item arrived => ?_ }
    · by_cases same : other = server
      · subst same
        simp only [Function.update_self]
        exact sorted
      · simp only [Function.update_of_ne same]
        exact kept.sorted other
    · rcases newly served with old | rfl
      · exact kept.past one old
      · exact kept.below server one here
    · rcases newly served with old | rfl
      · exact kept.waiting one old other two (before member).1 conflict
      · exact ahead member conflict
    · cases serves with
      | false => exact kept.served
      | true =>
        refine List.pairwise_append.mpr ⟨kept.served, List.pairwise_singleton _ _, fun one served two last conflict => ?_⟩
        rw [List.mem_singleton.mp last] at conflict ⊢
        exact kept.waiting one served server front here conflict
    · rcases kept.covered number item arrived with ⟨other, member⟩ | served | dropped
      · by_cases front : (number, item) = front
        · cases serves with
          | false => exact .inr (.inr (List.mem_append_right _ (List.mem_singleton.mpr front)))
          | true => exact .inr (.inl (List.mem_append_right _ (List.mem_singleton.mpr front)))
        · refine .inl ⟨other, ?_⟩
          by_cases same : other = server
          · subst same
            rw [waiting] at member
            simp only [Function.update_self]
            exact (List.mem_cons.mp member).resolve_left front
          · simp only [Function.update_of_ne same]
            exact member
      · cases serves with
        | false => exact .inr (.inl served)
        | true => exact .inr (.inl (List.mem_append_left _ served))
      · cases serves with
        | false => exact .inr (.inr (List.mem_append_left _ dropped))
        | true => exact .inr (.inr dropped)

end Lines
end Simutgw.Logic
