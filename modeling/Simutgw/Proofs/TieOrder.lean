import Simutgw.Proofs.PriceTimeOrder
import Mathlib.Data.List.Induction

/-! Orders of one price and one time in a deque kept by price and time. An insertion
moves nothing that is there, and puts the new order behind all others of its price but
for the one the halving search ends on, which it is put in front of when the times are
the same. -/

namespace Simutgw.Proofs.TieOrder
open Logic TaskPriorityQueue PriceTimeOrder

/-- The tasks of one price and one time, in their order. -/
def ties (price : UInt64) (orderTime : Int) (tasks : List Task) : List Task :=
  tasks.filter fun task => task.price = price ∧ task.orderTime = orderTime

/-- Of every price and time, the tasks stand as they came. -/
def Fifo (arrived container : List Task) : Prop :=
  ∀ price orderTime, ties price orderTime container = ties price orderTime arrived

/-- The task that the halving search ends on is no other task of the same price and time. -/
def Apart (ascending : Bool) (container : List Task) (task : Task) : Prop :=
  ∀ other, container[searched ascending container task]? = some other → other.price = task.price →
    other.orderTime = task.orderTime → other = task

section Ties

variable {price : UInt64} {orderTime : Int} {front back : List Task} {task : Task}

theorem ties_append : ties price orderTime (front ++ back) = ties price orderTime front ++ ties price orderTime back :=
  List.filter_append ..

theorem ties_cons_own : ties task.price task.orderTime (task :: back) = task :: ties task.price task.orderTime back :=
  List.filter_cons_of_pos (by simp)

theorem ties_cons_other (other : ¬ (task.price = price ∧ task.orderTime = orderTime)) :
    ties price orderTime (task :: back) = ties price orderTime back :=
  List.filter_cons_of_neg (by simpa using other)

theorem ties_worse {ascending : Bool} (worse : ∀ other ∈ back, Better ascending task.price other.price) :
    ties task.price orderTime back = [] := by
  apply List.filter_eq_nil_iff.mpr
  intro other found tied
  have same := (of_decide_eq_true tied).1
  exact Better.irrefl (same ▸ worse other found)

theorem ties_insert_other (other : ¬ (task.price = price ∧ task.orderTime = orderTime)) :
    ties price orderTime (front ++ task :: back) = ties price orderTime (front ++ back) := by
  rw [ties_append, ties_append, ties_cons_other other]

end Ties

section Insertion

variable {ascending : Bool} {container arrived : List Task} {task : Task}

theorem insert_priced (priced : Priced ascending container) (task : Task) :
    Priced ascending (dequePriceTimeBinaryInsert ascending container task) := by
  have better_not {one two : UInt64} (better : Better ascending one two) : ¬ Better ascending two one :=
    fun worse => Better.irrefl (better.trans worse)
  cases insert_placed priced task with
  | behind front back split placed passed worse _ =>
    subst split
    obtain ⟨fronts, backs, across⟩ := List.pairwise_append.mp priced
    rw [placed]
    refine List.pairwise_append.mpr ⟨fronts, List.pairwise_cons.mpr ⟨?_, backs⟩, ?_⟩
    · intro other found
      exact better_not (worse other found)
    · intro other found later member
      rcases List.mem_cons.mp member with rfl | behind
      · exact passed other found
      · exact across other found later behind
  | before front back last split placed passed worse _ same _ =>
    subst split
    obtain ⟨fronts, backs, across⟩ := List.pairwise_append.mp priced
    rw [placed]
    refine List.pairwise_append.mpr ⟨fronts, List.pairwise_cons.mpr ⟨?_, backs⟩, ?_⟩
    · intro other found
      rcases List.mem_cons.mp found with rfl | behind
      · exact same ▸ Better.irrefl
      · exact better_not (worse other behind)
    · intro other found later member
      rcases List.mem_cons.mp member with rfl | behind
      · exact passed other found
      · exact across other found later behind

/-- The new task is put behind its ties, or in front of the last one, on which the search
has ended. -/
theorem ties_insert (priced : Priced ascending container) (task : Task) :
    (ties task.price task.orderTime (dequePriceTimeBinaryInsert ascending container task) =
        ties task.price task.orderTime container ++ [task] ∧ Apart ascending container task) ∨
      ∃ others last, container[searched ascending container task]? = some last ∧ last.price = task.price ∧
        last.orderTime = task.orderTime ∧ ties task.price task.orderTime container = others ++ [last] ∧
        ties task.price task.orderTime (dequePriceTimeBinaryInsert ascending container task) =
          others ++ [task, last] := by
  cases insert_placed priced task with
  | behind front back split placed _ worse later =>
    subst split
    refine .inl ⟨?_, fun other found same time => ?_⟩
    · rw [placed, ties_append, ties_append, ties_cons_own, ties_worse worse, List.append_nil]
    · have before := later other found same
      omega
  | before front back last split placed _ worse place same early =>
    subst split
    have ends : (front ++ last :: back)[searched ascending (front ++ last :: back) task]? = some last := by
      rw [place]
      exact getElem?_between
    by_cases time : last.orderTime = task.orderTime
    · refine .inr ⟨ties task.price task.orderTime front, last, ends, same, time, ?_, ?_⟩
      · rw [ties_append, ← same, ← time, ties_cons_own, same, ties_worse worse]
      · rw [placed, ties_append, ties_cons_own, ← same, ← time, ties_cons_own, same, ties_worse worse]
    · have other : ¬ (last.price = task.price ∧ last.orderTime = task.orderTime) := fun tied => time tied.2
      refine .inl ⟨?_, fun found here _ tied => ?_⟩
      · rw [placed, ties_append, ties_append, ties_cons_own, ties_cons_other other, ties_worse worse, List.append_nil]
      · cases ends.symm.trans here
        exact absurd tied time

theorem insert_fifo_iff (priced : Priced ascending container) (task : Task) :
    Fifo (arrived ++ [task]) (dequePriceTimeBinaryInsert ascending container task) ↔
      Fifo arrived container ∧ Apart ascending container task := by
  have others {price : UInt64} {orderTime : Int} (other : ¬ (task.price = price ∧ task.orderTime = orderTime)) :
      ties price orderTime (dequePriceTimeBinaryInsert ascending container task) = ties price orderTime container := by
    cases insert_placed priced task with
    | behind front back split placed => rw [placed, split, ties_insert_other other]
    | before front back last split placed => rw [placed, split, ties_insert_other other]
  have arrives {price : UInt64} {orderTime : Int} (other : ¬ (task.price = price ∧ task.orderTime = orderTime)) :
      ties price orderTime (arrived ++ [task]) = ties price orderTime arrived := by
    rw [ties_append, ties_cons_other other]
    exact List.append_nil _
  have own : ties task.price task.orderTime (arrived ++ [task]) = ties task.price task.orderTime arrived ++ [task] := by
    rw [ties_append, ties_cons_own]
    rfl
  constructor
  · intro fifo
    have kept : ties task.price task.orderTime container = ties task.price task.orderTime arrived ∧
        Apart ascending container task := by
      have now := fifo task.price task.orderTime
      rw [own] at now
      rcases ties_insert priced task with ⟨behind, apart⟩ | ⟨front, last, ends, -, -, stood, before⟩
      · rw [behind] at now
        exact ⟨List.append_cancel_right now, apart⟩
      · rw [before, ← List.singleton_append, ← List.append_assoc] at now
        obtain ⟨rest, same⟩ := List.append_inj' now rfl
        cases same
        refine ⟨stood.trans rest, fun other found _ _ => ?_⟩
        cases ends.symm.trans found
        rfl
    refine ⟨fun price orderTime => ?_, kept.2⟩
    by_cases tied : task.price = price ∧ task.orderTime = orderTime
    · obtain ⟨rfl, rfl⟩ := tied
      exact kept.1
    · rw [← others tied, ← arrives tied]
      exact fifo price orderTime
  · rintro ⟨fifo, apart⟩ price orderTime
    by_cases tied : task.price = price ∧ task.orderTime = orderTime
    · obtain ⟨rfl, rfl⟩ := tied
      rw [own, ← fifo]
      rcases ties_insert priced task with ⟨behind, -⟩ | ⟨front, last, ends, same, time, stood, before⟩
      · exact behind
      · rw [before, stood, apart last ends same time]
        simp
    · rw [others tied, arrives tied]
      exact fifo price orderTime

end Insertion

section Sequences

variable {ascending : Bool}

theorem inserted_priced (ascending : Bool) (tasks : List Task) :
    Priced ascending (tasks.foldl (dequePriceTimeBinaryInsert ascending) []) := by
  apply (Run.of_foldl (dequePriceTimeBinaryInsert ascending) [] tasks).invariant _ List.Pairwise.nil
  rintro before task _ priced rfl
  exact insert_priced priced task

theorem fifo_iff_apart (ascending : Bool) (tasks : List Task) :
    Fifo tasks (tasks.foldl (dequePriceTimeBinaryInsert ascending) []) ↔
      Run (Steps.guarded (inserts (dequePriceTimeBinaryInsert ascending)) (Apart ascending)) [] tasks
        (tasks.foldl (dequePriceTimeBinaryInsert ascending) []) := by
  induction tasks using List.reverseRecOn with
  | nil => exact iff_of_true (fun _ _ => rfl) (.nil [])
  | append_singleton tasks task ih =>
    have step := @insert_fifo_iff ascending _ tasks (inserted_priced ascending tasks) task
    have run := @Run.guarded_foldl_snoc _ _ [] tasks (dequePriceTimeBinaryInsert ascending) (Apart ascending) task
    rw [List.foldl_append] at run ⊢
    exact step.trans ((and_congr_left' ih).trans run.symm)

/-- The sequences of insertions into an empty deque after which orders of one price and
time leave it as they came are those in which every task was apart, for either direction. -/
theorem insertions_fifo_iff (tasks : List Task) :
    (Fifo tasks (tasks.foldl dequePriceTimeBinaryInsertInc []) ↔
      Run (Steps.guarded (inserts dequePriceTimeBinaryInsertInc) (Apart true)) [] tasks
        (tasks.foldl dequePriceTimeBinaryInsertInc [])) ∧
    (Fifo tasks (tasks.foldl dequePriceTimeBinaryInsertDesc []) ↔
      Run (Steps.guarded (inserts dequePriceTimeBinaryInsertDesc) (Apart false)) [] tasks
        (tasks.foldl dequePriceTimeBinaryInsertDesc [])) :=
  ⟨fifo_iff_apart true tasks, fifo_iff_apart false tasks⟩

def placedOrder (clOrdId : String) : Task where
  kind := .aBStockMatch
  order := {}
  priority := .matchOrder
  price := 10
  orderTime := 5
  clOrdId := clOrdId

/-- The second of two such orders leaves first, on either side. -/
theorem second_order_first :
    ¬ Fifo [placedOrder "1", placedOrder "2"] ([placedOrder "1", placedOrder "2"].foldl dequePriceTimeBinaryInsertInc []) ∧
      ¬ Fifo [placedOrder "1", placedOrder "2"]
        ([placedOrder "1", placedOrder "2"].foldl dequePriceTimeBinaryInsertDesc []) := by
  constructor
  · intro fifo
    exact absurd (fifo 10 5) (by decide)
  · intro fifo
    exact absurd (fifo 10 5) (by decide)

end Sequences

end Simutgw.Proofs.TieOrder
