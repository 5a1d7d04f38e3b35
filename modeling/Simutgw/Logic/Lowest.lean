import Mathlib.Order.RelClasses
import Mathlib.Order.WellFounded

/-! The lowest key with a property, and a search for it that goes through the keys in
order, takes the first that it can and gives up at the first that it cannot judge. It
finds the key that was meant where it agrees with what was meant up to there. -/

namespace Simutgw.Logic

variable {Key : Type*} {below : Key → Key → Prop} {meant takes stuck : Key → Prop} {found : Option Key}

/-- The key is the lowest one with the property, or no key has it. -/
def Lowest (below : Key → Key → Prop) (meant : Key → Prop) : Option Key → Prop
  | some key => meant key ∧ ∀ lower, below lower key → ¬ meant lower
  | none => ∀ key, ¬ meant key

/-- No lower key has the property. -/
def Fresh (below : Key → Key → Prop) (meant : Key → Prop) (key : Key) : Prop :=
  ∀ lower, below lower key → ¬ meant lower

/-- What a search in order comes back with. -/
def Searched (below : Key → Key → Prop) (takes stuck : Key → Prop) : Option Key → Prop
  | some key => takes key ∧ ¬ stuck key ∧ Fresh below takes key ∧ Fresh below stuck key
  | none => (∀ key, ¬ takes key ∧ ¬ stuck key) ∨ ∃ key, stuck key ∧ Fresh below takes key ∧ Fresh below stuck key

/-- The search and what was meant agree as far as the search may come: on every key
below which nothing was meant and nothing is stuck, and where something is stuck
nothing was meant above it either. -/
def Agrees (below : Key → Key → Prop) (meant takes stuck : Key → Prop) : Prop :=
  (∀ key, Fresh below meant key → Fresh below stuck key → ¬ stuck key → (takes key ↔ meant key)) ∧
    ∀ key, stuck key → Fresh below meant key → ∀ other, ¬ meant other

section Ordered

variable [IsWellOrder Key below]

theorem exists_lowest (below : Key → Key → Prop) [IsWellOrder Key below] {key : Key} (holds : meant key) :
    ∃ first, meant first ∧ Fresh below meant first ∧ ¬ below key first := by
  have wellFounded : WellFounded below := IsWellFounded.wf
  obtain ⟨first, own, least⟩ := wellFounded.has_min {other | meant other} ⟨key, holds⟩
  exact ⟨first, own, fun lower goes kept => least lower kept goes, least key holds⟩

theorem below_of_fresh {first key : Key} (own : meant first) (fresh : Fresh below meant key) (other : first ≠ key) :
    below key first := by
  rcases trichotomous_of below first key with lower | same | higher
  · exact absurd own (fresh first lower)
  · exact absurd same other
  · exact higher

theorem Fresh.lower {key lower : Key} (fresh : Fresh below meant key) (goes : below lower key) :
    Fresh below meant lower :=
  fun lowest deeper => fresh lowest (IsTrans.trans _ _ _ deeper goes)

/-- Nothing was meant below a key, if the search takes or is stuck at nothing below it
and agrees there. -/
theorem fresh_of_agrees (agrees : Agrees below meant takes stuck) {key : Key} (untaken : Fresh below takes key)
    (unstuck : Fresh below stuck key) : Fresh below meant key := by
  intro lower goes holds
  obtain ⟨first, own, fresh, least⟩ := exists_lowest below holds
  have deeper : below first key := by
    rcases trichotomous_of below first lower with front | same | back
    · exact IsTrans.trans _ _ _ front goes
    · rw [same]
      exact goes
    · exact absurd back least
  have agreed := agrees.1 first fresh (unstuck.lower deeper) (unstuck first deeper)
  exact untaken first deeper (agreed.mpr own)

/-- The search finds the lowest key that was meant just when it agrees. -/
theorem Searched.lowest_iff (searched : Searched below takes stuck found) :
    Lowest below meant found ↔ Agrees below meant takes stuck := by
  cases found with
  | some key =>
    obtain ⟨taken, unstuck, first, front⟩ := searched
    constructor
    · rintro ⟨own, fresh⟩
      have within : ∀ other, Fresh below meant other → other = key ∨ below other key := by
        intro other otherFresh
        by_cases same : key = other
        · exact .inl same.symm
        · exact .inr (below_of_fresh own otherFresh same)
      refine ⟨?_, ?_⟩
      · intro other otherFresh _ _
        rcases within other otherFresh with rfl | lower
        · exact iff_of_true taken own
        · exact iff_of_false (first other lower) (fresh other lower)
      · intro other blocked otherFresh
        rcases within other otherFresh with rfl | lower
        · exact absurd blocked unstuck
        · exact absurd blocked (front other lower)
    · intro agrees
      have fresh := fresh_of_agrees agrees first front
      exact ⟨(agrees.1 key fresh front unstuck).mp taken, fresh⟩
  | none =>
    constructor
    · intro nothing
      refine ⟨?_, fun _ _ _ => nothing⟩
      intro key _ front unstuck
      rcases searched with never | ⟨place, blocked, first, _⟩
      · exact iff_of_false (never key).1 (nothing key)
      · refine iff_of_false ?_ (nothing key)
        apply first key
        apply below_of_fresh blocked front
        intro same
        exact unstuck (same ▸ blocked)
    · intro agrees key holds
      rcases searched with never | ⟨place, blocked, first, front⟩
      · obtain ⟨lowest, own, fresh, -⟩ := exists_lowest below holds
        have agreed := agrees.1 lowest fresh (fun lower _ => (never lower).2) (never lowest).2
        exact (never lowest).1 (agreed.mpr own)
      · exact agrees.2 place blocked (fresh_of_agrees agrees first front) key holds

theorem Lowest.unique {other : Option Key} (one : Lowest below meant found) (two : Lowest below meant other) :
    found = other := by
  cases found with
  | none =>
    cases other with
    | none => rfl
    | some key => exact absurd two.1 (one key)
  | some first =>
    cases other with
    | none => exact absurd one.1 (two first)
    | some key =>
      rcases trichotomous_of below first key with lower | same | higher
      · exact absurd one.1 (two.2 first lower)
      · rw [same]
      · exact absurd two.1 (one.2 key higher)

theorem Searched.lowest_iff_of_never_stuck (searched : Searched below takes (fun _ => False) found) :
    Lowest below meant found ↔ ∀ key, Fresh below meant key → (takes key ↔ meant key) := by
  rw [searched.lowest_iff]
  constructor
  · intro agrees key fresh
    exact agrees.1 key fresh (fun _ _ stuck => stuck) (fun stuck => stuck)
  · intro agrees
    exact ⟨fun key fresh _ _ => agrees key fresh, fun _ stuck => stuck.elim⟩

end Ordered

/-- What a search makes of one key. -/
inductive Judgement
  | take
  | pass
  | stuck
deriving DecidableEq

variable {Value : Type*} {verdict : Key → Value → Judgement} {entries : List (Key × Value)}

/-- A search through entries in their order. -/
def scan (verdict : Key → Value → Judgement) : List (Key × Value) → Option (Key × Value)
  | [] => none
  | (key, value) :: rest =>
    match verdict key value with
    | .take => some (key, value)
    | .pass => scan verdict rest
    | .stuck => none

/-- An entry of the key gets the verdict. -/
def Judged (verdict : Key → Value → Judgement) (entries : List (Key × Value)) (given : Judgement) (key : Key) : Prop :=
  ∃ value, (key, value) ∈ entries ∧ verdict key value = given

theorem judged_cons {entry : Key × Value} {given : Judgement} {key : Key} :
    Judged verdict (entry :: entries) given key ↔
      entry.1 = key ∧ verdict entry.1 entry.2 = given ∨ Judged verdict entries given key := by
  constructor
  · rintro ⟨value, found, verdict⟩
    rcases List.mem_cons.mp found with rfl | later
    · exact .inl ⟨rfl, verdict⟩
    · exact .inr ⟨value, later, verdict⟩
  · rintro (⟨rfl, verdict⟩ | ⟨value, found, verdict⟩)
    · exact ⟨entry.2, List.mem_cons_self, verdict⟩
    · exact ⟨value, List.mem_cons_of_mem _ found, verdict⟩

theorem scan_mem {entry : Key × Value} (taken : scan verdict entries = some entry) : entry ∈ entries := by
  induction entries with
  | nil => cases taken
  | cons first rest ih =>
    simp only [scan] at taken
    split at taken
    · cases taken
      exact List.mem_cons_self
    · exact List.mem_cons_of_mem _ (ih taken)
    · cases taken

theorem scan_searched [Std.Irrefl below] [IsTrans Key below]
    (sorted : entries.Pairwise fun one two => below one.1 two.1) :
    Searched below (Judged verdict entries .take) (Judged verdict entries .stuck)
      ((scan verdict entries).map Prod.fst) := by
  induction entries with
  | nil =>
    left
    intro key
    constructor <;> exact fun ⟨_, found, _⟩ => absurd found List.not_mem_nil
  | cons entry rest ih =>
    obtain ⟨above, later⟩ := List.pairwise_cons.mp sorted
    have behind : ∀ given key, Judged verdict rest given key → below entry.1 key :=
      fun given key ⟨value, found, _⟩ => above (key, value) found
    have own : ∀ given key, Judged verdict (entry :: rest) given key → ¬ below key entry.1 := by
      intro given key judged lower
      rcases judged_cons.mp judged with ⟨same, -⟩ | back
      · exact Std.Irrefl.irrefl key (same ▸ lower)
      · exact Std.Irrefl.irrefl _ (IsTrans.trans _ _ _ lower (behind _ _ back))
    simp only [scan]
    cases given : verdict entry.1 entry.2 with
    | take =>
      refine ⟨judged_cons.mpr (.inl ⟨rfl, given⟩), ?_, fun key lower judged => own _ key judged lower,
        fun key lower judged => own _ key judged lower⟩
      intro judged
      rcases judged_cons.mp judged with ⟨-, other⟩ | back
      · rw [given] at other
        cases other
      · exact Std.Irrefl.irrefl _ (behind _ _ back)
    | stuck =>
      exact .inr ⟨entry.1, judged_cons.mpr (.inl ⟨rfl, given⟩), fun key lower judged => own _ key judged lower,
        fun key lower judged => own _ key judged lower⟩
    | pass =>
      have same : ∀ other, other ≠ Judgement.pass → Judged verdict (entry :: rest) other = Judged verdict rest other := by
        intro other differs
        funext key
        rw [judged_cons, given]
        simp only [differs.symm, and_false, false_or]
      rw [same .take (by decide), same .stuck (by decide)]
      exact ih later

end Simutgw.Logic
