import Simutgw.Logic.Replacement
import Simutgw.TgwStringUtil

/-! Old values replaced in a text. The loop searches from the front again after every
replacement, so it meets the occurrences in their turn only where no replacement brings
up an earlier one. -/

namespace Simutgw.Proofs.ReplaceAll
open TgwStringUtil Logic

/-- The call ends, and with every occurrence replaced once. -/
def Replaces (str oldValue newValue : String) : Prop :=
  ∃ fuel, replaceAll fuel str oldValue newValue =
    some (String.ofList (replaced oldValue.toList newValue.toList str.toList))

/-- Every occurrence is met in its turn, and none is left at the end. -/
def InTurn (str oldValue newValue : String) : Prop :=
  Stays oldValue.toList newValue.toList [] (pieces oldValue.toList str.toList)

theorem replacePass_eq (oldValue newValue : List Char) : replacePass oldValue newValue = rewriting oldValue newValue :=
  rfl

theorem replaces_iff (str oldValue newValue : String) : Replaces str oldValue newValue ↔
    (rewriting oldValue.toList newValue.toList).Returns str.toList
      (replaced oldValue.toList newValue.toList str.toList) := by
  simp only [Replaces, replaceAll, replacePass_eq, Option.map_eq_some_iff, String.ofList_inj, exists_eq_right,
    Loop.Returns]

variable {oldValue newValue : String}

theorem replaces_of_inTurn (filled : oldValue ≠ "") {str : String} (turn : InTurn str oldValue newValue) :
    Replaces str oldValue newValue := by
  have word : oldValue.toList ≠ [] := by simpa using filled
  have returns := returns_of_stays (pieces_ne_nil str.toList) turn
  rw [List.nil_append, (pieces_cut word str.toList).2] at returns
  exact (replaces_iff ..).mpr returns

theorem inTurn_of_replaces (filled : oldValue ≠ "") (apart : ¬ newValue.toList <+: oldValue.toList) {str : String}
    (replaces : Replaces str oldValue newValue) : InTurn str oldValue newValue := by
  have word : oldValue.toList ≠ [] := by simpa using filled
  apply stays_of_returns apart
  rw [List.nil_append, (pieces_cut word str.toList).2]
  exact (replaces_iff ..).mp replaces

theorem inTurn_of_all (filled : oldValue ≠ "") (all : ∀ str, Replaces str oldValue newValue) (str : String) :
    InTurn str oldValue newValue := by
  have word : oldValue.toList ≠ [] := by simpa using filled
  refine @stays_of_all _ _ _ _ word ?_ [] _ (pieces_cut word str.toList).1 ?_ ?_
  · intro parts cut
    have returns := (replaces_iff ..).mp (all (String.ofList (oldValue.toList.intercalate parts)))
    rwa [String.toList_ofList, replaced, cut.pieces word] at returns
  · intro piece member
    cases member
  · intro tail
    exact .here

/-- A text whose occurrences are met in their turn is replaced as it should be, and any
other is not, at least where the new value does not begin the old one. The values that
do it for every text are those that meet the occurrences of every text in their turn. -/
theorem replaces_in_turn (str : String) {oldValue : String} (newValue : String) (filled : oldValue ≠ "") :
    (InTurn str oldValue newValue → Replaces str oldValue newValue) ∧
    (¬ newValue.toList <+: oldValue.toList → Replaces str oldValue newValue → InTurn str oldValue newValue) ∧
    ((∀ text, Replaces text oldValue newValue) ↔ ∀ text, InTurn text oldValue newValue) := by
  refine ⟨replaces_of_inTurn filled, fun apart => inTurn_of_replaces filled apart, ?_⟩
  constructor
  · exact inTurn_of_all filled
  · intro turn text
    exact replaces_of_inTurn filled (turn text)

theorem replaces_in_turn_dash : Replaces "a-b" "-" "+" := by
  have parts : pieces "-".toList "a-b".toList = [['a'], ['b']] := by
    have last : pieces ['-'] ['b'] = [['b']] := pieces_free (by decide)
    have first := @pieces_found _ _ ['-'] (List.cons_ne_nil _ _) ['a'] (by decide) ['b']
    rw [last] at first
    exact first
  apply (replaces_in_turn "a-b" "+" (by decide)).1
  have free : find ['-'] ['a', '+', 'b'] = none := by decide
  rw [InTurn, parts]
  exact ⟨⟨1, 0, by decide, by decide, by decide, by decide⟩, free⟩

/-- A new value that contains the old one brings it back for ever. -/
theorem replaceAll_endless {str : String} (contains : oldValue.toList <:+: newValue.toList)
    (present : oldValue.toList <:+: str.toList) (fuel : Nat) : replaceAll fuel str oldValue newValue = none := by
  cases ran : replaceAll fuel str oldValue newValue with
  | none => rfl
  | some value =>
    rw [replaceAll, replacePass_eq] at ran
    obtain ⟨text, returned, _⟩ := Option.map_eq_some_iff.mp ran
    exact absurd ⟨fuel, returned⟩ (not_returns_inside contains present)

/-- An apostrophe cannot be doubled. -/
theorem doubling_endless : ¬ Replaces "it's" "'" "''" := by
  intro ⟨fuel, replaced⟩
  rw [replaceAll_endless (by decide) (by decide)] at replaced
  cases replaced

end Simutgw.Proofs.ReplaceAll
