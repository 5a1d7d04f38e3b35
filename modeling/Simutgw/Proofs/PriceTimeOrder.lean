import Simutgw.TaskPriorityQueue
import Simutgw.Logic.Runs

/-! Insertion by price and time. The halving search ends next to the place its price
asks for, and the walk from there looks at one task of the same price at most, so an
order that is earlier than others of its price gets in front of one of them only. -/

namespace Simutgw.Proofs.PriceTimeOrder
open Logic TaskPriorityQueue

/-- The first price is the better one: the lower of two sells, the higher of two buys. -/
def Better (ascending : Bool) (one two : UInt64) : Prop :=
  if ascending then one < two else two < one

/-- The better price, and at one price the earlier order. -/
def Before (ascending : Bool) (one two : Task) : Prop :=
  Better ascending one.price two.price ∨ one.price = two.price ∧ one.orderTime ≤ two.orderTime

/-- Sorted by price and time, with the best-priced, earliest order in front. -/
structure Ordered (ascending : Bool) (container : List Task) : Prop where
  sorted : container.Pairwise (Before ascending)
  best : ∀ front rest, container = front :: rest → ∀ other ∈ container, Before ascending front other

/-- The price test of the halving search. -/
def passes (ascending : Bool) (task other : Task) : Bool :=
  if ascending then other.price ≤ task.price else task.price ≤ other.price

/-- Where halving ends among so many tasks, the first so many of which are not worse: it
goes on behind a middle task that is not, and in front of one that is. -/
def halvingEnd (notWorse length : Nat) : Nat :=
  if length ≤ 1 then 0
  else if (length - 1) / 2 < notWorse then
    (length - 1) / 2 + 1 + halvingEnd (notWorse - ((length - 1) / 2 + 1)) (length / 2)
  else halvingEnd notWorse ((length - 1) / 2)
termination_by length

/-- The place the search ends on: how many tasks are of no worse price, and how many there
are, decide it. -/
def searched (ascending : Bool) (container : List Task) (task : Task) : Nat :=
  halvingEnd (container.countP (passes ascending task)) container.length

/-- No order of the same price is later, but for the one the search ends on. -/
def Timely (ascending : Bool) (container : List Task) (task : Task) : Prop :=
  ∀ other ∈ container.eraseIdx (searched ascending container task), other.price = task.price →
    other.orderTime ≤ task.orderTime

section Search

/-- Halving ends on the last task that is not worse or on the first behind. -/
theorem halvingEnd_spec {notWorse length : Nat} (some : 0 < length) (within : notWorse ≤ length) :
    halvingEnd notWorse length = notWorse ∧ notWorse < length ∨ halvingEnd notWorse length + 1 = notWorse := by
  induction length using Nat.strongRecOn generalizing notWorse with
  | ind length ih =>
    unfold halvingEnd
    by_cases one : length ≤ 1
    · rw [if_pos one]
      omega
    · rw [if_neg one]
      by_cases passed : (length - 1) / 2 < notWorse
      · rw [if_pos passed]
        have rest := @ih (length / 2) (by omega) (notWorse - ((length - 1) / 2 + 1)) (by omega) (by omega)
        omega
      · rw [if_neg passed]
        by_cases none : (length - 1) / 2 = 0
        · have nothing : notWorse = 0 := by omega
          rw [none, nothing, halvingEnd, if_pos (Nat.zero_le 1)]
          omega
        · have rest := @ih ((length - 1) / 2) (by omega) notWorse (by omega) (by omega)
          omega

variable {test : Task → Bool} {front back : List Task}

theorem binaryMid_empty {container : List Task} {fuel : Nat} {low high mid : Int} (empty : ¬ low ≤ high) :
    binaryMid test container fuel low high mid = mid.toNat := by
  cases fuel with
  | zero => rfl
  | succ fuel => exact if_neg empty

/-- Where those that pass stand in front, the search goes by their number alone. -/
theorem binaryMid_eq (passing : ∀ task ∈ front, test task = true) (failing : ∀ task ∈ back, test task = false)
    {fuel low length : Nat} {mid : Int} (enough : length < fuel) (some : 0 < length) (under : low ≤ front.length)
    (above : front.length ≤ low + length) (inside : low + length ≤ (front ++ back).length) :
    binaryMid test (front ++ back) fuel low (low + length - 1) mid =
      low + halvingEnd (front.length - low) length := by
  induction fuel generalizing low length mid with
  | zero => cases enough
  | succ fuel ih =>
    have middle : ((low : Int) + (low + length - 1)) / 2 = ((low + (length - 1) / 2 : Nat) : Int) := by omega
    have more : (low : Int) ≤ low + length - 1 := by omega
    have within : low + (length - 1) / 2 < (front ++ back).length := by omega
    unfold binaryMid
    simp only [if_pos more, middle, Int.toNat_natCast, List.getElem?_eq_getElem within]
    by_cases left : low + (length - 1) / 2 < front.length
    · have passed : test (front ++ back)[low + (length - 1) / 2] = true := by
        rw [List.getElem_append_left left]
        exact passing _ (List.getElem_mem left)
      rw [if_pos passed]
      by_cases one : length ≤ 1
      · rw [binaryMid_empty (by omega), halvingEnd, if_pos one]
        omega
      · have low' : ((low + (length - 1) / 2 : Nat) : Int) + 1 = ((low + (length - 1) / 2 + 1 : Nat) : Int) := by omega
        have high : (low : Int) + length - 1 = ((low + (length - 1) / 2 + 1 : Nat) : Int) + (length / 2 : Nat) - 1 := by
          omega
        have rest : front.length - (low + (length - 1) / 2 + 1) = front.length - low - ((length - 1) / 2 + 1) := by omega
        rw [low', high, ih (by omega) (by omega) (by omega) (by omega) (by omega), rest,
          halvingEnd.eq_1 _ length, if_neg one, if_pos (by omega)]
        omega
    · have failed : test (front ++ back)[low + (length - 1) / 2] = false := by
        rw [List.getElem_append_right (Nat.le_of_not_lt left)]
        exact failing _ (List.getElem_mem _)
      rw [failed, if_neg Bool.false_ne_true]
      by_cases none : (length - 1) / 2 = 0
      · rw [binaryMid_empty (by omega), halvingEnd]
        split
        next => omega
        next =>
          rw [if_neg (by omega), none, halvingEnd, if_pos (Nat.zero_le 1)]
          omega
      · have high : ((low + (length - 1) / 2 : Nat) : Int) - 1 = low + ((length - 1) / 2 : Nat) - 1 := by omega
        rw [high, ih (by omega) (by omega) under (by omega) (by omega), halvingEnd.eq_1 _ length, if_neg (by omega),
          if_neg (by omega)]

end Search

section Prices

variable {ascending : Bool} {one two three : UInt64}

theorem Better.irrefl : ¬ Better ascending one one := by
  unfold Better
  split <;> exact UInt64.lt_irrefl one

theorem Better.trans (first : Better ascending one two) (second : Better ascending two three) :
    Better ascending one three := by
  unfold Better at first second ⊢
  split
  next up =>
    rw [if_pos up] at first second
    exact UInt64.lt_trans first second
  next down =>
    rw [if_neg down] at first second
    exact UInt64.lt_trans second first

theorem better_trichotomy (ascending : Bool) (one two : UInt64) :
    Better ascending one two ∨ one = two ∨ Better ascending two one := by
  simp only [Better, ← UInt64.toNat_inj, UInt64.lt_iff_toNat_lt]
  split <;> omega

theorem passes_iff {task other : Task} : passes ascending task other = true ↔ ¬ Better ascending task.price other.price := by
  unfold passes Better
  split <;> simp only [decide_eq_true_eq, UInt64.not_lt]

theorem Before.trans {first second third : Task} (front : Before ascending first second)
    (back : Before ascending second third) : Before ascending first third := by
  rcases front with price | ⟨same, time⟩
  · rcases back with more | ⟨again, -⟩
    · exact .inl (price.trans more)
    · exact .inl (again ▸ price)
  · rcases back with more | ⟨again, later⟩
    · exact .inl (same ▸ more)
    · exact .inr ⟨same.trans again, Int.le_trans time later⟩

theorem ordered_iff {container : List Task} : Ordered ascending container ↔ container.Pairwise (Before ascending) := by
  refine ⟨Ordered.sorted, fun sorted => ⟨sorted, ?_⟩⟩
  rintro front rest rfl other found
  rcases List.mem_cons.mp found with same | later
  · exact .inr ⟨by rw [same], by rw [same]⟩
  · exact (List.pairwise_cons.mp sorted).1 other later

end Prices

section Walk

variable {ascending : Bool} {task other : Task} {rest : List Task}

theorem placeFrom_in_front (better : Better ascending task.price other.price) :
    placeFrom ascending task (other :: rest) = task :: other :: rest := by
  have different : task.price ≠ other.price := fun same => Better.irrefl (same ▸ better)
  unfold Better at better
  cases ascending with
  | true =>
    have above : ¬ other.price < task.price := UInt64.not_lt.mpr (UInt64.le_of_lt better)
    simp only [placeFrom, different, above, if_false, if_true]
  | false =>
    have below : other.price < task.price := by simpa using better
    simp [placeFrom, different, below]

theorem placeFrom_behind (better : Better ascending other.price task.price) :
    placeFrom ascending task (other :: rest) = other :: task :: rest := by
  have different : task.price ≠ other.price := fun same => Better.irrefl (same ▸ better)
  unfold Better at better
  cases ascending with
  | true =>
    have below : other.price < task.price := better
    simp only [placeFrom, different, below, if_false, if_true]
  | false =>
    have above : ¬ other.price < task.price := by
      simp only [Bool.false_eq_true, if_false] at better
      exact UInt64.not_lt.mpr (UInt64.le_of_lt better)
    simp [placeFrom, different, above]

theorem placeFrom_earlier (same : task.price = other.price) (early : task.orderTime ≤ other.orderTime) :
    placeFrom ascending task (other :: rest) = task :: other :: rest := by
  simp only [placeFrom, same, early, if_true]

theorem placeFrom_later (same : task.price = other.price) (late : ¬ task.orderTime ≤ other.orderTime) :
    placeFrom ascending task (other :: rest) = other :: placeFrom ascending task rest := by
  simp only [placeFrom, same, late, if_true, if_false]

theorem placeFrom_of_worse (worse : ∀ other ∈ rest, Better ascending task.price other.price) :
    placeFrom ascending task rest = task :: rest := by
  cases rest with
  | nil => rfl
  | cons other rest => exact placeFrom_in_front (worse other List.mem_cons_self)

end Walk

section Insertion

variable {ascending : Bool} {front back : List Task} {task : Task}

theorem sorted_between (sorted : (front ++ back).Pairwise (Before ascending))
    (worse : ∀ other ∈ back, Better ascending task.price other.price) :
    (front ++ task :: back).Pairwise (Before ascending) ↔ ∀ other ∈ front, Before ascending other task := by
  obtain ⟨fronts, backs, across⟩ := List.pairwise_append.mp sorted
  rw [List.pairwise_append]
  constructor
  · rintro ⟨-, -, all⟩ other found
    exact all other found task List.mem_cons_self
  · intro after
    refine ⟨fronts, List.pairwise_cons.mpr ⟨fun other found => .inl (worse other found), backs⟩, ?_⟩
    intro other found later member
    rcases List.mem_cons.mp member with same | behind
    · exact same ▸ after other found
    · exact across other found later behind

theorem sorted_before_last {init : List Task} {last : Task} (sorted : (init ++ last :: back).Pairwise (Before ascending))
    (worse : ∀ other ∈ back, Better ascending task.price other.price) (before : Before ascending task last) :
    (init ++ task :: last :: back).Pairwise (Before ascending) ↔ ∀ other ∈ init, Before ascending other task := by
  obtain ⟨inits, lasts, across⟩ := List.pairwise_append.mp sorted
  rw [List.pairwise_append]
  constructor
  · rintro ⟨-, -, all⟩ other found
    exact all other found task List.mem_cons_self
  · intro after
    refine ⟨inits, List.pairwise_cons.mpr ⟨?_, lasts⟩, ?_⟩
    · intro other found
      rcases List.mem_cons.mp found with own | behind
      · exact own ▸ before
      · exact .inl (worse other behind)
    · intro other found later member
      rcases List.mem_cons.mp member with own | behind
      · exact own ▸ after other found
      · exact across other found later behind

/-- Where the price does not pass the task's, being before it is a matter of time at the
same price. -/
theorem before_iff_timely {other : Task} (passed : ¬ Better ascending task.price other.price) :
    Before ascending other task ↔ (other.price = task.price → other.orderTime ≤ task.orderTime) := by
  constructor
  · rintro (better | ⟨-, time⟩) same
    · exact absurd better (same ▸ Better.irrefl)
    · exact time
  · intro timely
    rcases better_trichotomy ascending other.price task.price with better | same | worse
    · exact .inl better
    · exact .inr ⟨same, timely same⟩
    · exact absurd worse passed

/-- No task stands behind one of a worse price. -/
def Priced (ascending : Bool) (container : List Task) : Prop :=
  container.Pairwise fun one two => ¬ Better ascending two.price one.price

theorem Priced.of_sorted {container : List Task} (sorted : container.Pairwise (Before ascending)) :
    Priced ascending container := by
  apply sorted.imp
  intro one two before worse
  rcases before with better | ⟨same, -⟩
  · exact Better.irrefl (better.trans worse)
  · exact Better.irrefl (same ▸ worse)

theorem priced_splits {container : List Task} (priced : Priced ascending container) (task : Task) :
    ∃ front back, container = front ++ back ∧ (∀ other ∈ front, passes ascending task other = true) ∧
      ∀ other ∈ back, Better ascending task.price other.price := by
  refine ⟨container.takeWhile (passes ascending task), container.dropWhile (passes ascending task),
    List.takeWhile_append_dropWhile.symm, fun other found => List.all_eq_true.mp List.all_takeWhile other found, ?_⟩
  have rest := priced.sublist (List.dropWhile_sublist (passes ascending task))
  cases split : container.dropWhile (passes ascending task) with
  | nil =>
    intro other found
    cases found
  | cons first later =>
    have stops : passes ascending task first ≠ true := by
      have head := @List.head_dropWhile_not _ (passes ascending task) container (by rw [split]; exact List.cons_ne_nil _ _)
      simp only [split, List.head_cons] at head
      rw [head]
      exact Bool.false_ne_true
    have worse : Better ascending task.price first.price := by
      by_contra passed
      exact stops (passes_iff.mpr passed)
    rw [split, List.pairwise_cons] at rest
    intro other found
    rcases List.mem_cons.mp found with same | behind
    · exact same ▸ worse
    · rcases better_trichotomy ascending task.price other.price with better | same | worst
      · exact better
      · exact absurd (same ▸ worse) (rest.1 other behind)
      · exact absurd (worst.trans worse) (rest.1 other behind)

theorem failing_of_worse (worse : ∀ other ∈ back, Better ascending task.price other.price) :
    ∀ other ∈ back, passes ascending task other = false := by
  intro other found
  rw [← Bool.not_eq_true, passes_iff, not_not]
  exact worse other found

theorem searched_eq (passing : ∀ other ∈ front, passes ascending task other = true)
    (worse : ∀ other ∈ back, Better ascending task.price other.price) :
    searched ascending (front ++ back) task = halvingEnd front.length (front ++ back).length := by
  have fronts : front.countP (passes ascending task) = front.length := List.countP_eq_length.mpr passing
  have backs : back.countP (passes ascending task) = 0 := by
    rw [List.countP_eq_zero]
    intro other found
    rw [failing_of_worse worse other found]
    exact Bool.false_ne_true
  unfold searched
  rw [List.countP_append, fronts, backs, Nat.add_zero]

theorem searched_spec (passing : ∀ other ∈ front, passes ascending task other = true)
    (worse : ∀ other ∈ back, Better ascending task.price other.price) (some : front ++ back ≠ []) :
    searched ascending (front ++ back) task = front.length ∧
      searched ascending (front ++ back) task < (front ++ back).length ∨
      searched ascending (front ++ back) task + 1 = front.length := by
  rw [searched_eq passing worse]
  rcases halvingEnd_spec (List.length_pos_iff.mpr some) (List.length_append ▸ Nat.le_add_right _ _) with ends | ends
  · exact .inl ⟨ends.1, ends.1.symm ▸ ends.2⟩
  · exact .inr ends

theorem insert_eq (passing : ∀ other ∈ front, passes ascending task other = true)
    (worse : ∀ other ∈ back, Better ascending task.price other.price) :
    dequePriceTimeBinaryInsert ascending (front ++ back) task =
      (front ++ back).take (searched ascending (front ++ back) task) ++
        placeFrom ascending task ((front ++ back).drop (searched ascending (front ++ back) task)) := by
  have same : (fun other : Task => if ascending = true then decide (other.price ≤ task.price)
      else decide (task.price ≤ other.price)) = passes ascending task := by
    funext other
    unfold passes
    split <;> rfl
  unfold dequePriceTimeBinaryInsert
  simp only [same]
  by_cases none : front ++ back = []
  · simp only [none, List.take_nil, List.drop_nil]
  · have some := List.length_pos_iff.mpr none
    have search := @binaryMid_eq (passes ascending task) front back passing (failing_of_worse worse)
      ((front ++ back).length + 1) 0 (front ++ back).length 0 (Nat.lt_succ_self _) some (Nat.zero_le _)
      (by rw [List.length_append]; omega) (by omega)
    simp only [Nat.cast_zero, zero_add, Nat.sub_zero] at search
    rw [search, searched_eq passing worse]

theorem getElem?_between {last : Task} : (front ++ last :: back)[front.length]? = some last := by
  rw [List.getElem?_append_right (Nat.le_refl _), Nat.sub_self, List.getElem?_cons_zero]

/-- Where an insertion puts the new task: behind all that are not worse, or in front of
the last of them. -/
inductive Placed (ascending : Bool) (container : List Task) (task : Task) : Prop
  | behind (front back : List Task) (split : container = front ++ back)
      (placed : dequePriceTimeBinaryInsert ascending container task = front ++ task :: back)
      (passed : ∀ other ∈ front, ¬ Better ascending task.price other.price)
      (worse : ∀ other ∈ back, Better ascending task.price other.price)
      (later : ∀ other, container[searched ascending container task]? = some other → other.price = task.price →
        other.orderTime < task.orderTime)
  | before (front back : List Task) (last : Task) (split : container = front ++ last :: back)
      (placed : dequePriceTimeBinaryInsert ascending container task = front ++ task :: last :: back)
      (passed : ∀ other ∈ front, ¬ Better ascending task.price other.price)
      (worse : ∀ other ∈ back, Better ascending task.price other.price)
      (ends : searched ascending container task = front.length) (same : last.price = task.price)
      (early : task.orderTime ≤ last.orderTime)

theorem insert_placed {container : List Task} (priced : Priced ascending container) (task : Task) : Placed ascending container task := by
  obtain ⟨front, back, rfl, passing, worse⟩ := priced_splits priced task
  have passed : ∀ other ∈ front, ¬ Better ascending task.price other.price :=
    fun other found => passes_iff.mp (passing other found)
  have inserted := insert_eq passing worse
  by_cases none : front ++ back = []
  · obtain ⟨rfl, rfl⟩ := List.append_eq_nil_iff.mp none
    exact .behind [] [] rfl rfl passed worse fun other found => nomatch found
  · rcases searched_spec passing worse none with ⟨ends, inside⟩ | ends
    · rw [ends, List.take_left' rfl, List.drop_left' rfl, placeFrom_of_worse worse] at inserted
      refine .behind front back rfl inserted passed worse fun other found same => ?_
      rw [ends, List.getElem?_append_right (Nat.le_refl _)] at found
      exact absurd (same ▸ worse other (List.mem_of_getElem? found)) Better.irrefl
    · obtain ⟨init, last, rfl⟩ : ∃ init last, front = init ++ [last] := by
        rcases List.eq_nil_or_concat front with nothing | ⟨init, last, split⟩
        · rw [nothing] at ends
          cases ends
        · exact ⟨init, last, by rw [split, List.concat_eq_append]⟩
      have place : searched ascending (init ++ [last] ++ back) task = init.length := by
        simpa using ends
      have found : (init ++ [last] ++ back)[searched ascending (init ++ [last] ++ back) task]? = some last := by
        rw [place, List.append_assoc, List.singleton_append]
        exact getElem?_between
      rw [place, List.append_assoc, List.take_left' rfl, List.drop_left' rfl, List.singleton_append] at inserted
      rcases better_trichotomy ascending last.price task.price with better | same | worst
      · rw [placeFrom_behind better] at inserted
        refine .behind (init ++ [last]) back rfl (by simpa using inserted) passed worse fun other ends same => ?_
        cases found.symm.trans ends
        exact absurd (same ▸ better) Better.irrefl
      · by_cases early : task.orderTime ≤ last.orderTime
        · rw [placeFrom_earlier same.symm early] at inserted
          exact .before init back last (by simp) (by simpa using inserted)
            (fun other own => passed other (List.mem_append_left _ own)) worse place same early
        · rw [placeFrom_later same.symm early, placeFrom_of_worse worse] at inserted
          refine .behind (init ++ [last]) back rfl (by simpa using inserted) passed worse fun other ends _ => ?_
          cases found.symm.trans ends
          omega
      · exact absurd worst (passed last (by simp))

theorem befores_iff (passed : ∀ other ∈ front, ¬ Better ascending task.price other.price)
    (worse : ∀ other ∈ back, Better ascending task.price other.price) :
    (∀ other ∈ front, Before ascending other task) ↔
      ∀ other ∈ front ++ back, other.price = task.price → other.orderTime ≤ task.orderTime := by
  constructor
  · intro after other found same
    rcases List.mem_append.mp found with own | behind
    · exact (before_iff_timely (passed other own)).mp (after other own) same
    · exact absurd (worse other behind) (same ▸ Better.irrefl)
  · intro timely other found
    exact (before_iff_timely (passed other found)).mpr (timely other (List.mem_append_left _ found))

/-- Where the search ends on no later order of the price, none is excepted. -/
theorem timely_iff {container : List Task}
    (later : ∀ other, container[searched ascending container task]? = some other → other.price = task.price →
      other.orderTime < task.orderTime) :
    Timely ascending container task ↔
      ∀ other ∈ container, other.price = task.price → other.orderTime ≤ task.orderTime := by
  constructor
  · intro timely other found same
    obtain ⟨place, here⟩ := List.mem_iff_getElem?.mp found
    by_cases ends : place = searched ascending container task
    · exact Int.le_of_lt (later other (ends ▸ here) same)
    · exact timely other (List.mem_eraseIdx_iff_getElem?.mpr ⟨place, ends, here⟩) same
  · intro all other found
    exact all other (List.mem_of_mem_eraseIdx found)

theorem insert_sorted_iff {container : List Task} (sorted : container.Pairwise (Before ascending)) (task : Task) :
    (dequePriceTimeBinaryInsert ascending container task).Pairwise (Before ascending) ↔
      Timely ascending container task := by
  cases insert_placed (.of_sorted sorted) task with
  | behind front back split placed passed worse later =>
    rw [timely_iff later]
    subst split
    rw [placed, sorted_between sorted worse]
    exact befores_iff passed worse
  | before front back last split placed passed worse ends same early =>
    unfold Timely
    subst split
    rw [placed, sorted_before_last sorted worse (.inr ⟨same.symm, early⟩), ends,
      List.eraseIdx_append_of_length_le (Nat.le_refl _), Nat.sub_self, List.eraseIdx_cons_zero]
    exact befores_iff passed worse

end Insertion

section Sequences

/-- The deque after one insertion more. -/
def inserts (insert : List Task → Task → List Task) : Steps (List Task) Task :=
  fun before task after => insert before task = after

theorem kept_iff_timely (ascending : Bool) (tasks last : List Task) :
    Run (fun before task after => dequePriceTimeBinaryInsert ascending before task = after ∧ Ordered ascending after)
      [] tasks last ↔
      Run (Steps.guarded (inserts (dequePriceTimeBinaryInsert ascending)) (Timely ascending)) [] tasks last := by
  apply Run.kept_iff_guarded
  · rintro before task after ordered rfl
    rw [ordered_iff]
    exact insert_sorted_iff ordered.sorted task
  · exact ordered_iff.mpr List.Pairwise.nil

/-- The insertions into an empty deque that leave it sorted each time are those in
which every task was timely, for either direction. -/
theorem insertions_ordered_iff (tasks last : List Task) :
    (Run (fun before task after => dequePriceTimeBinaryInsertInc before task = after ∧ Ordered true after)
        [] tasks last ↔
      Run (Steps.guarded (inserts dequePriceTimeBinaryInsertInc) (Timely true)) [] tasks last) ∧
    (Run (fun before task after => dequePriceTimeBinaryInsertDesc before task = after ∧ Ordered false after)
        [] tasks last ↔
      Run (Steps.guarded (inserts dequePriceTimeBinaryInsertDesc) (Timely false)) [] tasks last) :=
  ⟨kept_iff_timely true tasks last, kept_iff_timely false tasks last⟩

def queued (price : UInt64) (orderTime : Int) : Task where
  kind := .aBStockMatch
  order := {}
  priority := .matchOrder
  price := price
  orderTime := orderTime

/-- An order that comes back with its earlier time is put behind a later one of its
price, on either side. -/
theorem requeued_order_waits :
    ¬ Ordered true ([queued 10 5, queued 20 9, queued 10 3].foldl dequePriceTimeBinaryInsertInc []) ∧
      ¬ Ordered false ([queued 20 5, queued 10 9, queued 20 3].foldl dequePriceTimeBinaryInsertDesc []) := by
  have up : [queued 10 5, queued 20 9, queued 10 3].foldl dequePriceTimeBinaryInsertInc [] =
      [queued 10 5, queued 10 3, queued 20 9] := by decide
  have down : [queued 20 5, queued 10 9, queued 20 3].foldl dequePriceTimeBinaryInsertDesc [] =
      [queued 20 5, queued 20 3, queued 10 9] := by decide
  rw [up, down]
  constructor
  · intro ordered
    rcases ordered.best _ _ rfl (queued 10 3) (by simp) with better | ⟨-, earlier⟩
    · exact Better.irrefl better
    · exact absurd earlier (by decide)
  · intro ordered
    rcases ordered.best _ _ rfl (queued 20 3) (by simp) with better | ⟨-, earlier⟩
    · exact Better.irrefl better
    · exact absurd earlier (by decide)

end Sequences

end Simutgw.Proofs.PriceTimeOrder
