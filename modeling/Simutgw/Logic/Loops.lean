import Mathlib.Algebra.BigOperators.Group.List.Basic
import Mathlib.Algebra.Order.Ring.Int

/-! Loops whose passes may go on for ever or do something without a meaning. A
measure shows that a loop returns, and a set of states that no pass leaves shows
that it does not. -/

namespace Simutgw.Logic

/-- What one pass of a loop does. -/
inductive Pass (State Value : Type*)
  | again (next : State)
  | leave (value : Value)
  | undefined

abbrev Loop (State Value : Type*) := State → Pass State Value

namespace Loop

variable {State Value : Type*}

/-- The value a loop leaves with, looked for over this many passes. -/
def run (loop : Loop State Value) : Nat → State → Option Value
  | 0, _ => none
  | fuel + 1, state =>
    match loop state with
    | .again next => run loop fuel next
    | .leave value => some value
    | .undefined => none

def Returns (loop : Loop State Value) (state : State) (value : Value) : Prop :=
  ∃ fuel, loop.run fuel state = some value

/-- The passes from one state lead to the other. -/
inductive Visits (loop : Loop State Value) (first : State) : State → Prop
  | here : Visits loop first first
  | again {state next : State} (front : Visits loop first state) (goes : loop state = .again next) :
      Visits loop first next

variable {loop : Loop State Value} {state next : State} {value other : Value}

theorem returns_leave (left : loop state = .leave value) : loop.Returns state value :=
  ⟨1, by simp only [run, left]⟩

theorem returns_again (goes : loop state = .again next) : loop.Returns state value ↔ loop.Returns next value := by
  constructor
  · rintro ⟨fuel, ran⟩
    cases fuel with
    | zero => cases ran
    | succ fuel =>
      simp only [run, goes] at ran
      exact ⟨fuel, ran⟩
  · rintro ⟨fuel, ran⟩
    exact ⟨fuel + 1, by simpa only [run, goes] using ran⟩

theorem leaves_of_returns (left : loop state = .leave value) (returns : loop.Returns state other) : value = other := by
  obtain ⟨fuel, ran⟩ := returns
  cases fuel with
  | zero => cases ran
  | succ fuel =>
    simp only [run, left] at ran
    exact Option.some.inj ran

theorem not_returns_undefined (undefined : loop state = .undefined) : ¬ loop.Returns state value := by
  rintro ⟨fuel, ran⟩
  cases fuel with
  | zero => cases ran
  | succ fuel => simp only [run, undefined, reduceCtorEq] at ran

theorem Returns.unique (one : loop.Returns state value) (two : loop.Returns state other) : value = other := by
  obtain ⟨fuel, ran⟩ := one
  induction fuel generalizing state with
  | zero => cases ran
  | succ fuel ih =>
    cases pass : loop state with
    | again next =>
      simp only [run, pass] at ran
      exact ih ((returns_again pass).mp two) ran
    | leave left =>
      simp only [run, pass] at ran
      cases ran
      exact leaves_of_returns pass two
    | undefined => simp only [run, pass, reduceCtorEq] at ran

/-- A call that may answer before its loop has one answer at most, however long the
loop is followed. -/
theorem answer_unique {early : Prop} [Decidable early] {first : Value} {fuel more : Nat}
    (one : (if early then some first else loop.run fuel state) = some value)
    (two : (if early then some first else loop.run more state) = some other) : value = other := by
  split at one
  next before =>
    rw [if_pos before] at two
    exact Option.some.inj (one.symm.trans two)
  next entered =>
    rw [if_neg entered] at two
    exact Returns.unique ⟨fuel, one⟩ ⟨more, two⟩

theorem Visits.returns (visits : loop.Visits state next) : loop.Returns state value ↔ loop.Returns next value := by
  induction visits with
  | here => rfl
  | again _ goes ih => exact ih.trans (returns_again goes)

theorem Visits.trans {last : State} (front : loop.Visits state next) (back : loop.Visits next last) :
    loop.Visits state last := by
  induction back with
  | here => exact front
  | again _ goes ih => exact .again ih goes

/-- What a loop returns, it leaves with from a state the passes lead to. -/
theorem Returns.leaves (returns : loop.Returns state value) :
    ∃ last, loop.Visits state last ∧ loop last = .leave value := by
  obtain ⟨fuel, ran⟩ := returns
  induction fuel generalizing state with
  | zero => cases ran
  | succ fuel ih =>
    cases pass : loop state with
    | again next =>
      simp only [run, pass] at ran
      obtain ⟨last, visits, left⟩ := ih ran
      exact ⟨last, (Visits.again .here pass).trans visits, left⟩
    | leave left =>
      simp only [run, pass] at ran
      cases ran
      exact ⟨state, .here, pass⟩
    | undefined => simp only [run, pass, reduceCtorEq] at ran

theorem not_returns_of_trapped {trap : State → Prop}
    (closed : ∀ state, trap state → ∃ next, loop state = .again next ∧ trap next) (inside : trap state) :
    ¬ loop.Returns state value := by
  rintro ⟨fuel, ran⟩
  induction fuel generalizing state with
  | zero => cases ran
  | succ fuel ih =>
    obtain ⟨next, goes, stays⟩ := closed state inside
    simp only [run, goes] at ran
    exact ih stays ran

/-- A loop returns where, under an invariant, every pass is defined and goes down a
well-founded order. -/
theorem returns_of_wellFounded {below : State → State → Prop} (wellFounded : WellFounded below) {holds : State → Prop}
    (drops : ∀ state, holds state → (∃ value, loop state = .leave value) ∨
      ∃ next, loop state = .again next ∧ holds next ∧ below next state)
    (initial : holds state) : ∃ value, loop.Returns state value := by
  induction state using wellFounded.induction with
  | _ state ih =>
    rcases drops state initial with ⟨value, left⟩ | ⟨next, goes, later, smaller⟩
    · exact ⟨value, returns_leave left⟩
    · obtain ⟨value, returns⟩ := ih next smaller later
      exact ⟨value, (returns_again goes).mpr returns⟩

theorem Visits.invariant {holds : State → Prop} (visits : loop.Visits state next)
    (kept : ∀ state next, holds state → loop state = .again next → holds next) (initial : holds state) :
    holds next := by
  induction visits with
  | here => exact initial
  | again _ goes ih => exact kept _ _ ih goes

end Loop

end Simutgw.Logic
