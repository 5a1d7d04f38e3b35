import Mathlib.Logic.Function.Basic
import Mathlib.Data.List.Basic

/-! A state of parts under keys, and actions that each concern the part under one key:
what such an action answers and leaves there depends on that part alone, and the other
parts stay. After any sequence of them a part is what its own actions make of it. -/

namespace Simutgw.Logic

variable {Key Part Value Other Item : Type*} [DecidableEq Key]

/-- The action is one on the part under the key. -/
def Confined (key : Key) (act : (Key → Part) → Value × (Key → Part)) : Prop :=
  ∀ part, ∃ value after, ∀ whole, whole key = part → act whole = (value, Function.update whole key after)

variable {key : Key} {act : (Key → Part) → Value × (Key → Part)}

theorem unmoved {part : Part} {value : Value} (alike : ∀ whole, whole key = part → act whole = (value, whole)) :
    ∃ value after, ∀ whole, whole key = part → act whole = (value, Function.update whole key after) := by
  refine ⟨value, part, ?_⟩
  intro whole same
  rw [alike whole same, ← same, Function.update_eq_self]

theorem Confined.still (key : Key) (value : Value) : Confined key fun whole : Key → Part => (value, whole) :=
  fun _ => unmoved fun _ _ => rfl

theorem Confined.map (confined : Confined key act) (change : Value → Other) :
    Confined key fun whole => (change (act whole).1, (act whole).2) := by
  intro part
  obtain ⟨value, after, alike⟩ := confined part
  refine ⟨change value, after, ?_⟩
  intro whole same
  simp only [alike whole same]

theorem Confined.other (confined : Confined key act) (whole : Key → Part) {other : Key} (differs : other ≠ key) :
    (act whole).2 other = whole other := by
  obtain ⟨value, after, alike⟩ := confined (whole key)
  rw [alike whole rfl]
  exact Function.update_of_ne differs ..

theorem Confined.own (confined : Confined key act) {one two : Key → Part} (same : one key = two key) :
    (act one).2 key = (act two).2 key := by
  obtain ⟨value, after, alike⟩ := confined (two key)
  simp only [alike one same, alike two rfl, Function.update_self]

/-- The actions of other keys may be left out, and whatever is under other keys. -/
theorem foldl_own {keyOf : Item → Key} {act : Item → (Key → Part) → Value × (Key → Part)}
    (confined : ∀ item, Confined (keyOf item) (act item)) (items : List Item) {one two : Key → Part}
    (same : one key = two key) :
    items.foldl (fun whole item => (act item whole).2) one key =
      (items.filter (keyOf · = key)).foldl (fun whole item => (act item whole).2) two key := by
  induction items generalizing one two with
  | nil => exact same
  | cons item items ih =>
    rw [List.foldl_cons]
    by_cases own : keyOf item = key
    · rw [List.filter_cons_of_pos (by simpa using own), List.foldl_cons]
      subst own
      exact ih ((confined item).own same)
    · rw [List.filter_cons_of_neg (by simpa using own)]
      apply ih
      rw [(confined item).other one (Ne.symm own)]
      exact same

end Simutgw.Logic
