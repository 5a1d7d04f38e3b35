import Mathlib.Data.List.Basic
import Simutgw.Logic.Loops

/-! Words replaced in a text: all of them in one pass from the left, and the first
one over and over until none is left. -/

namespace Simutgw.Logic

variable {α : Type*}

/-- Two texts that first differ in these two letters. -/
def Differs (one two : α) (first second : List α) : Prop :=
  ∃ front back rear, first = front ++ one :: back ∧ second = front ++ two :: rear

theorem Differs.append {one two : α} {first second : List α} (differs : Differs one two first second)
    (front back rear : List α) : Differs one two (front ++ first ++ back) (front ++ second ++ rear) := by
  obtain ⟨before, behind, other, rfl, rfl⟩ := differs
  exact ⟨front ++ before, behind ++ back, other ++ rear, by simp, by simp⟩

theorem Differs.irrefl {one two : α} (apart : one ≠ two) (text : List α) : ¬ Differs one two text text := by
  intro ⟨front, back, rear, first, second⟩
  exact apart (List.cons.inj (List.append_cancel_left (first.symm.trans second))).1

theorem Differs.trans {one two : α} (apart : one ≠ two) {first second third : List α}
    (lower : Differs one two first second) (upper : Differs one two second third) : Differs one two first third := by
  obtain ⟨front, back, rear, rfl, rfl⟩ := lower
  obtain ⟨before, behind, other, same, rfl⟩ := upper
  rcases List.append_eq_append_iff.mp same with ⟨between, rfl, rest⟩ | ⟨between, rfl, rest⟩
  · cases between with
    | nil => exact absurd (List.cons.inj rest).1.symm apart
    | cons head tail =>
      obtain ⟨rfl, _⟩ := List.cons.inj rest
      exact ⟨front, back, tail ++ two :: other, rfl, by simp⟩
  · cases between with
    | nil => exact absurd (List.cons.inj rest).1 apart
    | cons head tail =>
      obtain ⟨rfl, _⟩ := List.cons.inj rest
      exact ⟨before, tail ++ one :: back, other, by simp, rfl⟩

theorem differs_of_not_prefix {first second : List α} (one : ¬ first <+: second) (two : ¬ second <+: first) :
    ∃ head other, head ≠ other ∧ Differs head other first second := by
  induction first generalizing second with
  | nil => exact absurd List.nil_prefix one
  | cons head first ih =>
    cases second with
    | nil => exact absurd List.nil_prefix two
    | cons other second =>
      by_cases same : head = other
      · subst same
        rw [List.prefix_cons_inj] at one two
        obtain ⟨lower, upper, apart, front, back, rear, rfl, rfl⟩ := ih one two
        exact ⟨lower, upper, apart, head :: front, back, rear, rfl, rfl⟩
      · exact ⟨head, other, same, [], first, second, rfl, rfl⟩

/-- A word replaced early puts the second letter where one replaced in its turn leaves
the first. -/
theorem differs_early {old new : List α} {one two : α} (differs : Differs one two old new) {early : Nat} (before : 0 < early)
    (less : early ≤ old.length) (periodic : old = old.drop early ++ old.drop (old.length - early)) :
    Differs one two (old.take early ++ new) (new ++ old.drop (old.length - early)) := by
  obtain ⟨front, back, rear, word, rfl⟩ := differs
  have shifted : old.take early ++ old = old ++ old.drop (old.length - early) := by
    have whole := List.take_append_drop early old
    nth_rewrite 2 [periodic]
    rw [← List.append_assoc, whole]
  have here : front ++ [one] <+: old ++ old.drop (old.length - early) := by
    refine ⟨back ++ old.drop (old.length - early), ?_⟩
    nth_rewrite 3 [word]
    simp
  have there : old.take early ++ front <+: old ++ old.drop (old.length - early) := by
    refine ⟨one :: back, ?_⟩
    rw [← shifted, List.append_assoc, ← word]
  obtain ⟨between, same⟩ := List.prefix_of_prefix_length_le here there (by
    simp only [List.length_append, List.length_take, List.length_singleton]
    omega)
  refine ⟨front, between ++ two :: rear, rear ++ old.drop (old.length - early), ?_, ?_⟩
  · rw [← List.append_assoc, ← same]
    simp
  · simp

theorem intercalate_append (between : List α) (gone : List (List α)) {parts : List (List α)} (filled : parts ≠ []) :
    between.intercalate (gone ++ parts) = gone.flatMap (· ++ between) ++ between.intercalate parts := by
  induction gone with
  | nil => rfl
  | cons piece gone ih =>
    rw [List.cons_append, List.intercalate_cons_of_ne_nil (List.append_ne_nil_of_right_ne_nil _ filled), ih,
      List.flatMap_cons]
    simp only [List.append_assoc]

variable [DecidableEq α]

/-- Where a word first stands in a text. -/
def find (word : List α) : List α → Option Nat
  | [] => if word = [] then some 0 else none
  | char :: rest => if word <+: char :: rest then some 0 else (find word rest).map (· + 1)

theorem find_eq_none_iff {word text : List α} : find word text = none ↔ ¬ word <:+: text := by
  induction text with
  | nil =>
    rw [find, List.infix_nil]
    split <;> simp [*]
  | cons char rest ih =>
    rw [find, List.infix_cons_iff]
    split
    next here => simp [here]
    next later => simp [later, ih]

theorem find_parts {word text : List α} {pos : Nat} (found : find word text = some pos) :
    ∃ front back, text = front ++ word ++ back ∧ front.length = pos := by
  induction text generalizing pos with
  | nil =>
    rw [find] at found
    split at found
    next empty =>
      cases found
      exact ⟨[], [], by rw [empty]; rfl, rfl⟩
    next => cases found
  | cons char rest ih =>
    rw [find] at found
    split at found
    next here =>
      cases found
      obtain ⟨back, same⟩ := here
      exact ⟨[], back, same.symm, rfl⟩
    next later =>
      obtain ⟨first, behind, same⟩ := Option.map_eq_some_iff.mp found
      obtain ⟨front, back, rfl, length⟩ := ih behind
      exact ⟨char :: front, back, rfl, by rw [List.length_cons, length, same]⟩

theorem find_least {word text : List α} {pos : Nat} (found : find word text = some pos) {front back : List α}
    (stands : text = front ++ word ++ back) : pos ≤ front.length := by
  induction text generalizing pos front with
  | nil =>
    rw [find] at found
    split at found
    next => cases found; exact Nat.zero_le _
    next => cases found
  | cons char rest ih =>
    rw [find] at found
    split at found
    next here =>
      cases found
      exact Nat.zero_le _
    next later =>
      obtain ⟨first, behind, same⟩ := Option.map_eq_some_iff.mp found
      cases front with
      | nil => exact absurd ⟨back, stands.symm⟩ later
      | cons head front =>
        obtain ⟨rfl, rest⟩ := List.cons.inj stands
        rw [← same]
        exact Nat.succ_le_succ (ih behind rest)

theorem find_append {word text : List α} {pos : Nat} (found : find word text = some pos) (tail : List α) :
    find word (text ++ tail) = some pos := by
  obtain ⟨front, back, same, rfl⟩ := find_parts found
  cases again : find word (text ++ tail) with
  | none =>
    refine absurd ?_ (find_eq_none_iff.mp again)
    rw [same, List.append_assoc]
    exact List.infix_append ..
  | some other =>
    obtain ⟨before, behind, split, rfl⟩ := find_parts again
    have early : before.length ≤ front.length := find_least again (by rw [same, List.append_assoc])
    have within : before ++ word <+: text := by
      apply List.prefix_of_prefix_length_le ⟨behind, split.symm⟩ (List.prefix_append ..)
      rw [same]
      simp only [List.length_append]
      omega
    obtain ⟨rest, inside⟩ := within
    have late := find_least found inside.symm
    rw [Nat.le_antisymm early late]

theorem find_within {word front back : List α} (found : find word (front ++ word ++ back) = some front.length) :
    find word (front ++ word) = some front.length := by
  cases first : find word (front ++ word) with
  | none => exact absurd List.infix_append_right (find_eq_none_iff.mp first)
  | some pos =>
    rw [find_append first back] at found
    exact found

variable (old new : List α)

/-- The pieces between the occurrences of a word, which do not overlap and are taken
from the left. -/
def pieces (text : List α) : List (List α) :=
  match _found : find old text with
  | none => [text]
  | some pos =>
    if old = [] then [text] else text.take pos :: pieces (text.drop (pos + old.length))
termination_by text.length
decreasing_by
  obtain ⟨front, back, rfl, rfl⟩ := find_parts _found
  have some : 0 < old.length := List.length_pos_iff.mpr ‹_›
  simp only [List.length_drop, List.length_append]
  omega

/-- The text with all these occurrences replaced. -/
def replaced (text : List α) : List α := new.intercalate (pieces old text)

/-- The first occurrence is replaced until there is none. -/
def rewriting : Loop (List α) (List α) := fun text =>
  match find old text with
  | some pos => .again (text.take pos ++ new ++ text.drop (pos + old.length))
  | none => .leave text

variable {old new : List α}

theorem pieces_free {text : List α} (free : find old text = none) : pieces old text = [text] := by
  rw [pieces]
  split
  next => rfl
  next found =>
    rw [free] at found
    cases found

theorem pieces_found (word : old ≠ []) {front : List α} (found : find old (front ++ old) = some front.length)
    (tail : List α) : pieces old (front ++ old ++ tail) = front :: pieces old tail := by
  have first := find_append found tail
  rw [pieces]
  split
  next free =>
    rw [first] at free
    cases free
  next pos place =>
    rw [first] at place
    cases place
    rw [if_neg word, ← List.length_append, List.drop_left, List.append_assoc, List.take_left]

theorem pieces_ne_nil (text : List α) : pieces old text ≠ [] := by
  rw [pieces]
  split
  next => exact List.cons_ne_nil _ _
  next => split <;> exact List.cons_ne_nil _ _

/-- Pieces between which a word stands where it is first found behind the last one. -/
inductive Cut (old : List α) : List (List α) → Prop
  | last {piece : List α} (free : find old piece = none) : Cut old [piece]
  | next {piece : List α} {rest : List (List α)} (found : find old (piece ++ old) = some piece.length)
      (behind : Cut old rest) : Cut old (piece :: rest)

theorem Cut.ne_nil {parts : List (List α)} (cut : Cut old parts) : parts ≠ [] := by
  cases cut <;> exact List.cons_ne_nil _ _

theorem Cut.pieces {parts : List (List α)} (word : old ≠ []) (cut : Cut old parts) :
    pieces old (old.intercalate parts) = parts := by
  induction cut with
  | last free => rw [List.intercalate_singleton, pieces_free free]
  | next found behind ih =>
    rw [List.intercalate_cons_of_ne_nil behind.ne_nil, pieces_found word found, ih]

theorem pieces_cut (word : old ≠ []) (text : List α) :
    Cut old (pieces old text) ∧ old.intercalate (pieces old text) = text := by
  generalize size : text.length = length
  induction length using Nat.strongRecOn generalizing text with
  | _ length ih =>
    cases place : find old text with
    | none =>
      rw [pieces_free place]
      exact ⟨.last place, List.intercalate_singleton⟩
    | some pos =>
      obtain ⟨front, back, same, rfl⟩ := find_parts place
      have found := find_within (same ▸ place)
      have long : 0 < old.length := List.length_pos_iff.mpr word
      have shorter : back.length < length := by
        rw [← size, same]
        simp only [List.length_append]
        omega
      obtain ⟨cut, whole⟩ := ih back.length shorter back rfl
      rw [same, pieces_found word found]
      exact ⟨.next found cut, by rw [List.intercalate_cons_of_ne_nil cut.ne_nil, whole]⟩

/-! The loop. -/

/-- The word behind the front is the first there, or the first begins so many letters
before it that it comes to the same which of the two is replaced. -/
def Meets (old new front : List α) : Prop :=
  ∃ pos early, find old (front ++ old) = some pos ∧ pos + early = front.length ∧ early < old.length ∧
    new ++ old.drop (old.length - early) = old.take early ++ new

/-- With the pieces behind what is done already: every word is met in its turn, and
none is left at the end. -/
def Stays (old new : List α) : List α → List (List α) → Prop
  | _, [] => True
  | done, [piece] => find old (done ++ piece) = none
  | done, piece :: next :: rest => Meets old new (done ++ piece) ∧ Stays old new (done ++ piece ++ new) (next :: rest)

/-- A word found early ends in the one behind the front. -/
theorem overlap {front : List α} {pos early : Nat} (found : find old (front ++ old) = some pos)
    (place : pos + early = front.length) (less : early ≤ old.length) :
    front = front.take pos ++ old.take early ∧ old = old.drop early ++ old.drop (old.length - early) := by
  obtain ⟨before, behind, same, rfl⟩ := find_parts found
  have front_eq := List.take_append_drop before.length front
  have before_eq : front.take before.length = before := by
    have taken := congrArg (List.take before.length) same
    rwa [List.append_assoc, List.take_left, List.take_append_of_le_length (by omega)] at taken
  have shifted : front.drop before.length ++ old = old ++ behind := by
    have dropped := congrArg (List.drop before.length) same
    rwa [List.append_assoc, List.drop_left, List.drop_append_of_le_length (by omega)] at dropped
  have length : (front.drop before.length).length = early := by
    rw [List.length_drop]
    omega
  have lead : front.drop before.length = old.take early := by
    have taken := congrArg (List.take early) shifted
    rwa [← length, List.take_left, List.take_append_of_le_length (by omega), length] at taken
  have rest : old = old.drop early ++ behind := by
    have dropped := congrArg (List.drop early) shifted
    rwa [← length, List.drop_left, List.drop_append_of_le_length (by omega), length] at dropped
  have trail : behind = old.drop (old.length - early) := by
    have shorter := congrArg List.length rest
    rw [List.length_append, List.length_drop] at shorter
    have dropped := congrArg (List.drop (old.length - early)) rest
    rw [List.drop_left' (by rw [List.length_drop])] at dropped
    exact dropped.symm
  refine ⟨?_, ?_⟩
  · rw [← lead, front_eq]
  · rw [← trail]
    exact rest

theorem rewriting_found {text : List α} {pos : Nat} (found : find old text = some pos) :
    rewriting old new text = .again (text.take pos ++ new ++ text.drop (pos + old.length)) := by
  rw [rewriting, found]

theorem rewriting_early {front : List α} {pos early : Nat} (found : find old (front ++ old) = some pos)
    (place : pos + early = front.length) (less : early ≤ old.length) (tail : List α) :
    rewriting old new (front ++ old ++ tail) =
      .again (front.take pos ++ new ++ old.drop (old.length - early) ++ tail) := by
  have cut : pos + old.length = front.length + (old.length - early) := by omega
  rw [rewriting_found (find_append found tail), cut, List.append_assoc front, List.drop_length_add_append,
    List.drop_append_of_le_length (by omega), List.take_append_of_le_length (by omega)]
  simp only [List.append_assoc]

theorem rewriting_meets {front : List α} (meets : Meets old new front) (tail : List α) :
    rewriting old new (front ++ old ++ tail) = .again (front ++ new ++ tail) := by
  obtain ⟨pos, early, found, place, less, same⟩ := meets
  have split := (overlap found place (Nat.le_of_lt less)).1
  rw [rewriting_early found place (Nat.le_of_lt less), List.append_assoc (front.take pos), same,
    ← List.append_assoc, ← split]

theorem returns_of_stays {parts : List (List α)} {done : List α} (filled : parts ≠ []) (stays : Stays old new done parts) :
    (rewriting old new).Returns (done ++ old.intercalate parts) (done ++ new.intercalate parts) := by
  induction parts generalizing done with
  | nil => exact absurd rfl filled
  | cons piece rest ih =>
    cases rest with
    | nil =>
      rw [List.intercalate_singleton, List.intercalate_singleton]
      apply Loop.returns_leave
      have free : find old (done ++ piece) = none := stays
      rw [rewriting, free]
    | cons next rest =>
      obtain ⟨meets, later⟩ := stays
      have returns := ih (List.cons_ne_nil _ _) later
      rw [List.intercalate_cons_cons, List.intercalate_cons_cons]
      simp only [← List.append_assoc] at returns ⊢
      exact (Loop.returns_again (rewriting_meets meets _)).mpr returns

/-! The converse. What the loop returns has no word left, so a word that is found early
reaches into the one behind the front. -/

theorem leaves_iff {text value : List α} : rewriting old new text = .leave value ↔ value = text ∧ find old text = none := by
  rw [rewriting]
  split
  next found => simp [found]
  next free => simp [free, eq_comm]

theorem free_of_returns {text value : List α} (returns : (rewriting old new).Returns text value) :
    find old value = none := by
  obtain ⟨last, _, left⟩ := returns.leaves
  obtain ⟨rfl, free⟩ := leaves_iff.mp left
  exact free

theorem visits_of_returns {text value : List α} (returns : (rewriting old new).Returns text value) :
    (rewriting old new).Visits text value := by
  obtain ⟨last, visits, left⟩ := returns.leaves
  obtain ⟨rfl, _⟩ := leaves_iff.mp left
  exact visits

theorem visits_differs {one two : α} (apart : one ≠ two) (differs : Differs one two old new) {text last : List α}
    (visits : (rewriting old new).Visits text last) : last = text ∨ Differs one two text last := by
  apply visits.invariant
  · intro state next reached goes
    rw [rewriting] at goes
    split at goes
    next pos found =>
      cases goes
      obtain ⟨front, back, split, rfl⟩ := find_parts found
      have step : Differs one two state (state.take front.length ++ new ++ state.drop (front.length + old.length)) := by
        rw [← List.length_append, split, List.drop_left, List.append_assoc, List.take_left, ← List.append_assoc]
        exact differs.append front back back
      rcases reached with rfl | above
      · exact .inr step
      · exact .inr (above.trans apart step)
    next => cases goes
  · exact .inl rfl

/-- The first word in the front and the one behind it is that one, or overlaps it, where
the front has none. -/
theorem early_lt {front : List α} (free : ¬ old <:+: front) :
    ∃ pos early, find old (front ++ old) = some pos ∧ pos + early = front.length ∧ early < old.length := by
  cases found : find old (front ++ old) with
  | none => exact absurd List.infix_append_right (find_eq_none_iff.mp found)
  | some pos =>
    have least : pos ≤ front.length := find_least found (List.append_nil _).symm
    refine ⟨pos, front.length - pos, rfl, by omega, ?_⟩
    obtain ⟨before, behind, same, rfl⟩ := find_parts found
    rw [← Nat.not_le]
    intro long
    have within : before ++ old <+: front := by
      apply List.prefix_of_prefix_length_le ⟨behind, same.symm⟩ (List.prefix_append ..)
      rw [List.length_append]
      omega
    exact free (List.infix_append_right.trans within.isInfix)

/-- Unless the new word begins the old one, a loop that returns the text with the word
behind the front replaced, and whatever behind it, met that word in its turn. -/
theorem meets_of_returns (apart : ¬ new <+: old) {front tail back : List α}
    (returns : (rewriting old new).Returns (front ++ old ++ tail) (front ++ new ++ back)) : Meets old new front := by
  have free := find_eq_none_iff.mp (free_of_returns returns)
  obtain ⟨pos, early, found, place, less⟩ := @early_lt _ _ old front fun within =>
    free (within.trans ((List.prefix_append ..).isInfix.trans (List.prefix_append ..).isInfix))
  refine ⟨pos, early, found, place, less, ?_⟩
  rcases Nat.eq_zero_or_pos early with rfl | before
  · simp
  · exfalso
    have whole : ¬ old <+: new := by
      intro begins
      exact free ((begins.isInfix.trans (List.infix_append_right)).trans (List.prefix_append ..).isInfix)
    obtain ⟨one, two, different, differs⟩ := differs_of_not_prefix whole apart
    obtain ⟨split, periodic⟩ := overlap found place (Nat.le_of_lt less)
    have behind := (Loop.returns_again (rewriting_early found place (Nat.le_of_lt less) tail)).mp returns
    have above := (differs_early differs before (Nat.le_of_lt less) periodic).append (front.take pos) back tail
    rw [← List.append_assoc, ← split] at above
    have visits := visits_of_returns behind
    rw [← List.append_assoc] at above
    rcases visits_differs different differs visits with same | later
    · rw [← same] at above
      exact above.irrefl different _
    · exact (later.trans different above).irrefl different _

/-- A word that brings itself back is replaced for ever. -/
theorem not_returns_inside (contains : old <:+: new) {text value : List α} (present : old <:+: text) :
    ¬ (rewriting old new).Returns text value := by
  refine Loop.not_returns_of_trapped ?_ present
  intro state inside
  cases found : find old state with
  | none => exact absurd inside (find_eq_none_iff.mp found)
  | some pos =>
    refine ⟨_, rewriting_found found, ?_⟩
    exact contains.trans (List.infix_append_right.trans (List.prefix_append ..).isInfix)

theorem stays_of_returns (apart : ¬ new <+: old) {parts : List (List α)} {done : List α}
    (returns : (rewriting old new).Returns (done ++ old.intercalate parts) (done ++ new.intercalate parts)) :
    Stays old new done parts := by
  induction parts generalizing done with
  | nil => trivial
  | cons piece rest ih =>
    cases rest with
    | nil =>
      rw [List.intercalate_singleton, List.intercalate_singleton] at returns
      exact free_of_returns returns
    | cons next rest =>
      rw [List.intercalate_cons_cons, List.intercalate_cons_cons] at returns
      simp only [← List.append_assoc] at returns
      have meets := meets_of_returns apart returns
      refine ⟨meets, ih ?_⟩
      exact (Loop.returns_again (rewriting_meets meets _)).mp returns

theorem visits_shorter (shorter : new.length < old.length) {text last : List α}
    (visits : (rewriting old new).Visits text last) : last = text ∨ last.length < text.length := by
  apply visits.invariant
  · intro state next reached goes
    rw [rewriting] at goes
    split at goes
    next pos found =>
      cases goes
      obtain ⟨front, back, split, rfl⟩ := find_parts found
      have step : (state.take front.length ++ new ++ state.drop (front.length + old.length)).length < state.length := by
        have length := congrArg List.length split
        simp only [List.length_append, List.length_take, List.length_drop] at length ⊢
        omega
      rcases reached with rfl | above
      · exact .inr step
      · exact .inr (Nat.lt_trans step above)
    next => cases goes
  · exact .inl rfl

theorem meets_of_last {front : List α} (returns : (rewriting old new).Returns (front ++ old) (front ++ new)) :
    Meets old new front := by
  by_cases apart : new <+: old
  · have free := find_eq_none_iff.mp (free_of_returns returns)
    obtain ⟨pos, early, found, place, less⟩ := @early_lt _ _ old front fun within =>
      free (within.trans (List.prefix_append ..).isInfix)
    refine ⟨pos, early, found, place, less, ?_⟩
    have shorter : new.length < old.length := by
      rcases Nat.lt_or_ge new.length old.length with shorter | long
      · exact shorter
      · rw [apart.eq_of_length_le long] at free
        exact absurd List.infix_append_right free
    have behind := @rewriting_early _ _ old new _ _ _ found place (Nat.le_of_lt less) []
    rw [List.append_nil, List.append_nil] at behind
    have split := (overlap found place (Nat.le_of_lt less)).1
    have visits := visits_of_returns ((Loop.returns_again behind).mp returns)
    have length : front.length = (front.take pos).length + early := by
      rw [List.length_take]
      omega
    rcases visits_shorter shorter visits with same | less
    · have joined : front.take pos ++ (old.take early ++ new) =
          front.take pos ++ (new ++ old.drop (old.length - early)) := by
        rw [← List.append_assoc, ← split, same, List.append_assoc]
      exact (List.append_cancel_left joined).symm
    · simp only [List.length_append, List.length_drop] at less
      omega
  · exact @meets_of_returns _ _ old new apart front [] [] (by simpa using returns)

theorem Cut.append {gone parts : List (List α)} (before : ∀ piece ∈ gone, find old (piece ++ old) = some piece.length)
    (cut : Cut old parts) : Cut old (gone ++ parts) := by
  induction gone with
  | nil => exact cut
  | cons piece gone ih =>
    exact .next (before piece (List.mem_cons_self ..)) (ih fun other member => before other (List.mem_cons_of_mem _ member))

/-- If the loop returns every text with its words replaced, then it meets every word of
every text in its turn: the part of the text up to a word is a text as well. -/
theorem stays_of_all (word : old ≠ []) (all : ∀ parts, Cut old parts →
    (rewriting old new).Returns (old.intercalate parts) (new.intercalate parts)) {gone parts : List (List α)}
    (cut : Cut old parts) (before : ∀ piece ∈ gone, find old (piece ++ old) = some piece.length)
    (visits : ∀ tail, (rewriting old new).Visits (gone.flatMap (· ++ old) ++ tail) (gone.flatMap (· ++ new) ++ tail)) :
    Stays old new (gone.flatMap (· ++ new)) parts := by
  induction cut generalizing gone with
  | @last piece free =>
    have returns := all _ (Cut.append before (.last free))
    rw [intercalate_append _ _ (List.cons_ne_nil _ _), intercalate_append _ _ (List.cons_ne_nil _ _),
      List.intercalate_singleton, List.intercalate_singleton] at returns
    exact free_of_returns returns
  | @next piece rest found behind ih =>
    have empty : find old [] = none := by
      rw [find, if_neg word]
    have returns := all _ (Cut.append before (.next found (.last empty)))
    rw [intercalate_append _ _ (List.cons_ne_nil _ _), intercalate_append _ _ (List.cons_ne_nil _ _),
      List.intercalate_cons_cons, List.intercalate_cons_cons, List.intercalate_singleton, List.append_nil,
      List.intercalate_singleton, List.append_nil, (visits _).returns, ← List.append_assoc, ← List.append_assoc] at returns
    have meets := meets_of_last returns
    have further : ∀ tail, (rewriting old new).Visits ((gone ++ [piece]).flatMap (· ++ old) ++ tail)
        ((gone ++ [piece]).flatMap (· ++ new) ++ tail) := by
      intro tail
      have reached := visits (piece ++ old ++ tail)
      have goes := rewriting_meets meets tail
      simp only [List.flatMap_append, List.flatMap_singleton]
      simp only [List.append_assoc] at reached goes ⊢
      exact .again reached goes
    have members : ∀ part ∈ gone ++ [piece], find old (part ++ old) = some part.length := by
      intro part member
      rcases List.mem_append.mp member with earlier | here
      · exact before part earlier
      · rw [List.mem_singleton.mp here]
        exact found
    have later := ih members further
    cases rest with
    | nil => exact absurd rfl behind.ne_nil
    | cons next rest =>
      refine ⟨meets, ?_⟩
      simpa only [List.flatMap_append, List.flatMap_singleton, List.append_assoc] using later

end Simutgw.Logic
