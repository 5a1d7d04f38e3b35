import Mathlib.Algebra.BigOperators.Group.List.Basic
import Mathlib.Algebra.Order.Ring.Int

/-! Labelled transition relations and their finite runs. An invariant is proved
once for a step and read off every run; a guard restricts the steps a run may
take without changing the relation itself. -/

namespace Simutgw.Logic

/-- A step relation over a state type, with the label of what happened. -/
abbrev Steps (State Label : Type*) := State → Label → State → Prop

variable {State Label : Type*}

inductive Run (step : Steps State Label) : State → List Label → State → Prop
  | nil (state : State) : Run step state [] state
  | cons {first next last : State} {label : Label} {labels : List Label}
      (taken : step first label next) (rest : Run step next labels last) :
      Run step first (label :: labels) last

/-- Steps whose state and label meet a condition. -/
def Steps.guarded (step : Steps State Label) (meets : State → Label → Prop) : Steps State Label :=
  fun before label after => step before label after ∧ meets before label

/-- Some run leads here. -/
def Reachable (step : Steps State Label) (start last : State) : Prop :=
  ∃ labels, Run step start labels last

namespace Run

variable {step : Steps State Label} {first next last : State} {labels more : List Label}

theorem single {label : Label} (taken : step first label next) : Run step first [label] next :=
  .cons taken (.nil next)

theorem append (front : Run step first labels next) (back : Run step next more last) :
    Run step first (labels ++ more) last := by
  induction front with
  | nil => exact back
  | cons taken _ ih => exact .cons taken (ih back)

theorem snoc {label : Label} (front : Run step first labels next) (taken : step next label last) :
    Run step first (labels ++ [label]) last :=
  front.append (single taken)

theorem append_iff : Run step first (labels ++ more) last ↔ ∃ next, Run step first labels next ∧ Run step next more last := by
  constructor
  · intro run
    induction labels generalizing first with
    | nil => exact ⟨first, .nil first, run⟩
    | cons label labels ih =>
      cases run with
      | cons taken rest =>
        obtain ⟨next, front, back⟩ := ih rest
        exact ⟨next, .cons taken front, back⟩
  · rintro ⟨next, front, back⟩
    exact front.append back

theorem invariant_of_mem {holds : State → Prop} (run : Run step first labels last)
    (preserved : ∀ label ∈ labels, ∀ before after, holds before → step before label after → holds after)
    (initial : holds first) : holds last := by
  induction run with
  | nil => exact initial
  | cons taken _ ih =>
    apply ih
    · intro label member
      exact preserved label (List.mem_cons_of_mem _ member)
    · exact preserved _ List.mem_cons_self _ _ initial taken

theorem invariant {holds : State → Prop} (run : Run step first labels last)
    (preserved : ∀ before label after, holds before → step before label after → holds after)
    (initial : holds first) : holds last :=
  run.invariant_of_mem (fun label _ before after => preserved before label after) initial

/-- Under an invariant, a run of steps each of which is also a step of another relation is
a run of that one. -/
theorem mono {other : Steps State Label} {holds : State → Prop} (run : Run step first labels last)
    (each : ∀ before label after, holds before → step before label after → other before label after ∧ holds after)
    (initial : holds first) : Run other first labels last := by
  induction run with
  | nil => exact .nil _
  | cons taken _ ih =>
    obtain ⟨also, kept⟩ := each _ _ _ initial taken
    exact .cons also (ih kept)

/-- For a law about the step itself, under an invariant that lawful steps keep: where a
condition on the step decides whether it is lawful, the runs that keep the law throughout
are those whose steps all meet the condition. -/
theorem lawful_iff_guarded {holds : State → Prop} {law : State → Label → State → Prop} {meets : State → Label → Prop}
    (exact : ∀ before label after, holds before → step before label after →
      (law before label after ↔ meets before label))
    (preserved : ∀ before label after, holds before → step before label after → law before label after → holds after)
    (initial : holds first) :
    Run (fun before label after => step before label after ∧ law before label after) first labels last ↔
      Run (step.guarded meets) first labels last := by
  constructor
  · intro run
    apply run.mono _ initial
    intro before label after kept taken
    exact ⟨⟨taken.1, (exact _ _ _ kept taken.1).mp taken.2⟩, preserved _ _ _ kept taken.1 taken.2⟩
  · intro run
    apply run.mono _ initial
    intro before label after kept taken
    have lawful := (exact _ _ _ kept taken.1).mpr taken.2
    exact ⟨⟨taken.1, lawful⟩, preserved _ _ _ kept taken.1 lawful⟩

theorem kept_iff_guarded {holds : State → Prop} {meets : State → Label → Prop}
    (exact : ∀ before label after, holds before → step before label after →
      (holds after ↔ meets before label)) (initial : holds first) :
    Run (fun before label after => step before label after ∧ holds after) first labels last ↔
      Run (step.guarded meets) first labels last :=
  lawful_iff_guarded exact (fun _ _ _ _ _ kept => kept) initial

theorem of_foldlM {step : State → Label → Option State} (done : labels.foldlM step first = some last) :
    Run (fun before label after => step before label = some after) first labels last := by
  induction labels generalizing first with
  | nil =>
    cases done
    exact .nil _
  | cons label labels ih =>
    rw [List.foldlM_cons] at done
    obtain ⟨next, taken, rest⟩ := Option.bind_eq_some_iff.mp done
    exact .cons taken (ih rest)

theorem of_foldl (step : State → Label → State) (first : State) (labels : List Label) :
    Run (fun before label after => step before label = after) first labels (labels.foldl step first) := by
  induction labels generalizing first with
  | nil => exact .nil first
  | cons label labels ih => exact .cons rfl (ih _)

theorem foldl_eq {step : State → Label → State} {meets : State → Label → Prop}
    (run : Run (Steps.guarded (fun before label after => step before label = after) meets) first labels last) :
    labels.foldl step first = last := by
  induction run with
  | nil => rfl
  | cons taken _ ih => rw [List.foldl_cons, taken.1, ih]

theorem guarded_foldl_snoc {step : State → Label → State} {meets : State → Label → Prop} {label : Label} :
    Run (Steps.guarded (fun before label after => step before label = after) meets) first (labels ++ [label])
        ((labels ++ [label]).foldl step first) ↔
      Run (Steps.guarded (fun before label after => step before label = after) meets) first labels
          (labels.foldl step first) ∧ meets (labels.foldl step first) label := by
  rw [List.foldl_append]
  constructor
  · intro run
    obtain ⟨next, front, back⟩ := append_iff.mp run
    cases back with
    | cons taken _ =>
      rw [front.foldl_eq]
      exact ⟨front, taken.2⟩
  · rintro ⟨front, met⟩
    exact front.snoc ⟨rfl, met⟩

/-- The fold is a guarded run where the guard has nothing to say about its labels. -/
theorem guarded_of_foldlM {step : State → Label → Option State} {meets : State → Label → Prop}
    (free : ∀ label ∈ labels, ∀ state, meets state label) (done : labels.foldlM step first = some last) :
    Run (Steps.guarded (fun before label after => step before label = some after) meets) first labels last := by
  induction labels generalizing first with
  | nil =>
    cases done
    exact .nil _
  | cons label labels ih =>
    rw [List.foldlM_cons] at done
    obtain ⟨next, taken, rest⟩ := Option.bind_eq_some_iff.mp done
    exact .cons ⟨taken, free label List.mem_cons_self first⟩
      (ih (fun other found => free other (List.mem_cons_of_mem _ found)) rest)

/-- Where every state of an invariant that is not done can step, and lower its measure by
it, some run ends in one that is. -/
theorem ends {holds done : State → Prop} {measure : State → Nat}
    (advance : ∀ before, holds before → ¬ done before →
      ∃ label after, step before label after ∧ holds after ∧ measure after < measure before)
    (initial : holds first) : ∃ labels last, Run step first labels last ∧ done last := by
  induction size : measure first using Nat.strongRecOn generalizing first with
  | ind size ih =>
    by_cases finished : done first
    · exact ⟨[], first, .nil first, finished⟩
    · obtain ⟨label, after, taken, kept, less⟩ := advance first initial finished
      obtain ⟨labels, last, run, ended⟩ := ih _ (size ▸ less) kept rfl
      exact ⟨label :: labels, last, .cons taken run, ended⟩

theorem length_le {holds : State → Prop} {measure : State → Nat}
    (lowers : ∀ before label after, holds before → step before label after →
      holds after ∧ measure after < measure before)
    (initial : holds first) (run : Run step first labels last) : labels.length + measure last ≤ measure first := by
  induction run with
  | nil => simp
  | cons taken _ ih =>
    obtain ⟨kept, less⟩ := lowers _ _ _ initial taken
    have rest := ih kept
    rw [List.length_cons]
    omega

end Run

theorem Reachable.refl (step : Steps State Label) (start : State) : Reachable step start start :=
  ⟨[], .nil start⟩

theorem Reachable.step {step : Steps State Label} {start before after : State} {label : Label}
    (reached : Reachable step start before) (taken : step before label after) :
    Reachable step start after := by
  obtain ⟨labels, run⟩ := reached
  exact ⟨labels ++ [label], run.snoc taken⟩

theorem Reachable.invariant {step : Steps State Label} {start last : State} {holds : State → Prop}
    (reached : Reachable step start last)
    (preserved : ∀ before label after, holds before → step before label after → holds after)
    (initial : holds start) : holds last := by
  obtain ⟨labels, run⟩ := reached
  exact run.invariant preserved initial

end Simutgw.Logic
