import Simutgw.ABStockMatch
import Simutgw.Logic.Runs
import Simutgw.Proofs.LoadedHoldings
import Simutgw.Proofs.OrderQuantities

/-! The divided mode: an order filled by slices of a part of its quantity, one slice a run
of its task. The slices always make up the order, but there are as many as the part goes
into the quantity, not as many as the policy asks for, and each reports its own quantity
as the cumulated one. -/

namespace Simutgw.Proofs.DividedFill
open Logic ABStockMatch UserStockHelper QuoteMatching SofString OrderQuantities LoadedHoldings

def parts (order : OrderMessage) : UInt64 := UInt64.ofNat order.tradePolicy.partMatchNum.toNat

def part (order : OrderMessage) : UInt64 := order.orderqtyOrigin / parts order

/-- The comparison by which a slice is not the last. -/
def GoesOn (order : OrderMessage) : Prop := part order ≠ 0 ∧ order.leavesQty ≥ 2 * part order

instance goesOn_decidable (order : OrderMessage) : Decidable (GoesOn order) := inferInstanceAs (Decidable (_ ∧ _))

def sliceQty (order : OrderMessage) : UInt64 := if GoesOn order then part order else order.leavesQty

/-- An order that is being sliced, with the message each run has handed to the outgoing buffer. -/
structure Slicing where
  order : OrderMessage
  slices : List OrderMessage := []
  live : Bool := true

namespace Slicing

def left (slicing : Slicing) : Nat := if slicing.live then slicing.order.leavesQty.toNat else 0

end Slicing

/-- A run of the task, under whatever holdings, while the order is queued. -/
def Step : Steps Slicing Round := fun before round after => before.live = true ∧ ∃ db cache attempt,
  simulMatchByDivide db round cache before.order = some attempt ∧
    after = ⟨attempt.order, before.slices ++ [attempt.order], attempt.requeued⟩

/-- An order as it is first queued. -/
structure Fresh (order : OrderMessage) : Prop where
  leaves : order.leavesQty = order.orderqtyOrigin
  positive : order.orderqtyOrigin ≠ 0

def matchedQty (slice : OrderMessage) : Nat := slice.orderqtyMatched.toNat

/-- What the slices of a quantity should be. -/
structure Divided (quantity : UInt64) (number : Nat) (slices : List OrderMessage) : Prop where
  positive : ∀ slice ∈ slices, 0 < matchedQty slice
  total : (slices.map matchedQty).sum = quantity.toNat
  many : number ≤ quantity.toNat → slices.length = number
  one : quantity.toNat < number → slices.length = 1
  cumulated : ∀ place slice, slices[place]? = some slice →
    slice.strCumQty = itostr (UInt64.ofNat ((slices.take (place + 1)).map matchedQty).sum)
  marks : ∀ place slice, slices[place]? = some slice → (slice.matchType = .matchAll ↔ place + 1 = slices.length)

/-- The order is sliced without a division by zero, its runs come to an end, and the slices
of every run that has ended are what they should be. -/
structure Lawful (order : OrderMessage) : Prop where
  divides : parts order ≠ 0
  ends : ∀ rounds last, Run Step { order } rounds last → rounds.length ≤ order.orderqtyOrigin.toNat
  divided : ∀ rounds last, Run Step { order } rounds last → last.live = false →
    Divided order.orderqtyOrigin order.tradePolicy.partMatchNum.toNat last.slices


section Slices

variable {db : StockDb} {round : Round} {cache : StockCache} {order first : OrderMessage} {attempt : Attempt}

theorem parts_toNat (order : OrderMessage) : (parts order).toNat = order.tradePolicy.partMatchNum.toNat := by
  have bound := order.tradePolicy.partMatchNum.toNat_lt
  unfold parts
  rw [UInt64.toNat_ofNat_of_lt']
  simp only [UInt64.size]
  omega

theorem part_toNat (order : OrderMessage) :
    (part order).toNat = order.orderqtyOrigin.toNat / order.tradePolicy.partMatchNum.toNat := by
  rw [part, UInt64.toNat_div, parts_toNat]

/-- What a run of the task leaves of the order, which is also its slice. -/
structure Sliced (order : OrderMessage) (attempt : Attempt) : Prop where
  origin : attempt.order.orderqtyOrigin = order.orderqtyOrigin
  policy : attempt.order.tradePolicy = order.tradePolicy
  leaves : attempt.order.leavesQty = order.leavesQty - sliceQty order
  matched : attempt.order.orderqtyMatched = sliceQty order
  cumulated : attempt.order.strCumQty = itostr (sliceQty order)
  type : attempt.order.matchType = if GoesOn order then .matchPart else .matchAll
  again : attempt.requeued = decide (order.leavesQty - sliceQty order ≠ 0)

theorem divided_sliced {matchType : MatchType} {matched : UInt64}
    (done : divided db round cache order matchType matched = some attempt) (qty : matched = sliceQty order)
    (type : matchType = if GoesOn order then .matchPart else .matchAll) : Sliced order attempt := by
  subst qty type
  obtain ⟨updated, books, rfl⟩ := Option.map_eq_some_iff.mp done
  obtain ⟨_, _, wrote⟩ := updateAfterTrade_order books
  constructor <;> first | rfl | (simp only [wrote]; rfl)

theorem divide_sliced (done : simulMatchByDivide db round cache order = some attempt) : Sliced order attempt := by
  unfold simulMatchByDivide at done
  simp only at done
  split at done
  · cases done
  · split at done
    next goes =>
      have goes : GoesOn order := goes
      exact divided_sliced done (by simp [sliceQty, goes, part, parts]) (by simp [goes])
    next ends =>
      have ends : ¬ GoesOn order := ends
      exact divided_sliced done (by simp [sliceQty, ends]) (by simp [ends])

theorem divide_exists (round : Round) (order : OrderMessage) (divides : parts order ≠ 0) :
    ∃ db cache attempt, simulMatchByDivide db round cache order = some attempt := by
  obtain ⟨cache, loaded⟩ : ∃ cache, Loaded cache :=
    ⟨fun _ _ => some (.create true 0 0 0 0 0 0 0), ⟨fun _ _ => ⟨_, rfl⟩⟩⟩
  have slices (matchType : MatchType) (matched : UInt64) :
      ∃ attempt, divided (fun _ _ => none) round cache order matchType matched = some attempt := by
    obtain ⟨updated, books⟩ := updateAfterTrade_exists (fun _ _ => none) loaded
      (withTransId (dividedFilled order matchType matched) round.transId)
    exact ⟨_, Option.map_eq_some_iff.mpr ⟨updated, books, rfl⟩⟩
  refine ⟨fun _ _ => none, cache, ?_⟩
  unfold simulMatchByDivide
  unfold parts at divides
  simp only [divides, if_false]
  split <;> exact slices _ _

/-- While an order is sliced every slice was a part, and a part or more is left. -/
structure Going (first : OrderMessage) (slicing : Slicing) : Prop where
  slices : ∀ slice ∈ slicing.slices, slice.orderqtyMatched = part first ∧ slice.matchType = .matchPart
  remains : slicing.order.leavesQty ≠ 0
  left : slicing.slices.length * (part first).toNat + slicing.order.leavesQty.toNat = first.orderqtyOrigin.toNat
  more : part first ≤ slicing.order.leavesQty
  started : part first = 0 ∨ 2 ^ 64 ≤ 2 * (part first).toNat → slicing.slices = []

/-- Where it has ended all slices but the last were parts, and the last is the rest, of a
part or more but less than two. It is marked as the last unless twice the part wraps. -/
structure Ended (first : OrderMessage) (slices : List OrderMessage) : Prop where
  split : ∃ front last, slices = front ++ [last] ∧
    (∀ slice ∈ front, slice.orderqtyMatched = part first ∧ slice.matchType = .matchPart) ∧
    front.length * (part first).toNat + last.orderqtyMatched.toNat = first.orderqtyOrigin.toNat ∧
    last.orderqtyMatched ≠ 0 ∧ (part first).toNat ≤ last.orderqtyMatched.toNat ∧
    (part first ≠ 0 → last.orderqtyMatched.toNat < 2 * (part first).toNat) ∧ (part first = 0 → front = []) ∧
    (last.matchType = .matchAll ↔ 2 * (part first).toNat < 2 ^ 64)

structure Held (first : OrderMessage) (slicing : Slicing) : Prop where
  origin : slicing.order.orderqtyOrigin = first.orderqtyOrigin
  policy : slicing.order.tradePolicy = first.tradePolicy
  cumulated : ∀ slice ∈ slicing.slices, slice.strCumQty = itostr slice.orderqtyMatched
  going : slicing.live = true → Going first slicing
  ended : slicing.live = false → Ended first slicing.slices

theorem part_le (order : OrderMessage) : part order ≤ order.orderqtyOrigin := by
  rw [UInt64.le_iff_toNat_le, part_toNat]
  exact Nat.div_le_self _ _

theorem fresh_held (fresh : Fresh order) : Held order { order } where
  origin := rfl
  policy := rfl
  cumulated := by simp
  going := fun _ => {
    slices := by simp
    remains := fresh.leaves ▸ fresh.positive
    left := by simp [fresh.leaves]
    more := fresh.leaves ▸ part_le order
    started := fun _ => rfl }
  ended := nofun

/-- Twice a part only wraps where there is a single one. -/
theorem part_wraps {first : OrderMessage} (divides : parts first ≠ 0) (wraps : 2 ^ 64 ≤ 2 * (part first).toNat) :
    part first = first.orderqtyOrigin := by
  have bound := first.orderqtyOrigin.toNat_lt
  have number := parts_toNat first
  rw [ne_eq, ← UInt64.toNat_inj, UInt64.toNat_zero, number] at divides
  rw [← UInt64.toNat_inj, part_toNat]
  rw [part_toNat] at wraps
  have within := Nat.div_mul_le_self first.orderqtyOrigin.toNat first.tradePolicy.partMatchNum.toNat
  by_cases single : first.tradePolicy.partMatchNum.toNat = 1
  · rw [single, Nat.div_one]
  · have twice := Nat.mul_le_mul_left (first.orderqtyOrigin.toNat / first.tradePolicy.partMatchNum.toNat)
      (show 2 ≤ first.tradePolicy.partMatchNum.toNat by omega)
    omega

theorem divide_parts (done : simulMatchByDivide db round cache order = some attempt) : parts order ≠ 0 := by
  unfold simulMatchByDivide at done
  intro none
  rw [parts] at none
  simp [none] at done

theorem goesOn_iff (order : OrderMessage) : GoesOn order ↔
    (part order).toNat ≠ 0 ∧ 2 * (part order).toNat % 2 ^ 64 ≤ order.leavesQty.toNat := by
  have twice : (2 * part order).toNat = 2 * (part order).toNat % 2 ^ 64 := UInt64.toNat_mul ..
  rw [GoesOn, ge_iff_le, UInt64.le_iff_toNat_le, twice, ne_eq, ← UInt64.toNat_inj, UInt64.toNat_zero]

section Passes

variable {slicing : Slicing}

theorem Going.cut (going : Going first slicing) (same : part slicing.order = part first)
    (goes : GoesOn slicing.order) (fits : 2 * (part first).toNat < 2 ^ 64) (sliced : Sliced slicing.order attempt) :
    attempt.requeued = true ∧
      Going first ⟨attempt.order, slicing.slices ++ [attempt.order], attempt.requeued⟩ := by
  obtain ⟨slices, -, left, -, -⟩ := going
  have qty : sliceQty slicing.order = part first := by rw [sliceQty, if_pos goes, same]
  obtain ⟨some, enough⟩ := (goesOn_iff slicing.order).mp goes
  rw [same, Nat.mod_eq_of_lt fits] at enough
  rw [same] at some
  have rest : (slicing.order.leavesQty - part first).toNat = slicing.order.leavesQty.toNat - (part first).toNat :=
    UInt64.toNat_sub_of_le _ _ (UInt64.le_iff_toNat_le.mpr (by omega))
  have remains : slicing.order.leavesQty - part first ≠ 0 := by
    rw [ne_eq, ← UInt64.toNat_inj, rest, UInt64.toNat_zero]
    omega
  refine ⟨by rw [sliced.again, qty]; exact decide_eq_true remains, ?_, ?_, ?_, ?_, ?_⟩
  · intro slice found
    rcases List.mem_append.mp found with before | last
    · exact slices slice before
    · obtain rfl := List.mem_singleton.mp last
      exact ⟨sliced.matched.trans qty, by rw [sliced.type, if_pos goes]⟩
  · simp only [sliced.leaves, qty]
    exact remains
  · simp only [sliced.leaves, qty, rest, List.length_append, List.length_singleton, Nat.add_mul, Nat.one_mul]
    omega
  · simp only [sliced.leaves, qty, UInt64.le_iff_toNat_le, rest]
    omega
  · rintro (none | wraps)
    · exact absurd (by rw [none]; rfl) some
    · omega

theorem Going.finish (going : Going first slicing) (all : sliceQty slicing.order = slicing.order.leavesQty)
    (short : part first ≠ 0 → slicing.order.leavesQty.toNat < 2 * (part first).toNat)
    (marked : ¬ GoesOn slicing.order ↔ 2 * (part first).toNat < 2 ^ 64) (sliced : Sliced slicing.order attempt) :
    attempt.requeued = false ∧ Ended first (slicing.slices ++ [attempt.order]) := by
  obtain ⟨slices, remains, left, more, started⟩ := going
  have matched : attempt.order.orderqtyMatched = slicing.order.leavesQty := sliced.matched.trans all
  refine ⟨by rw [sliced.again, all]; simp, _, _, rfl, slices, ?_, ?_, ?_, ?_, ?_, ?_⟩
  · rw [matched]
    exact left
  · rw [matched]
    exact remains
  · rw [matched]
    exact UInt64.le_iff_toNat_le.mp more
  · rw [matched]
    exact short
  · exact fun none => started (.inl none)
  · rw [sliced.type, ← marked]
    split
    next goes => simp [goes]
    next ends => simp [ends]

theorem step_held {before after : Slicing} (held : Held first before) (taken : Step before round after) :
    Held first after ∧ after.left < before.left := by
  obtain ⟨live, db, cache, attempt, done, rfl⟩ := taken
  have sliced := divide_sliced done
  have going := held.going live
  have same : part before.order = part first := by simp only [part, parts, held.origin, held.policy]
  have divides : parts first ≠ 0 := by
    have divides := divide_parts done
    rwa [parts, held.policy] at divides
  have cumulated : ∀ slice ∈ before.slices ++ [attempt.order], slice.strCumQty = itostr slice.orderqtyMatched := by
    intro slice found
    rcases List.mem_append.mp found with earlier | last
    · exact held.cumulated slice earlier
    · obtain rfl := List.mem_singleton.mp last
      rw [sliced.cumulated, sliced.matched]
  have remains : before.order.leavesQty.toNat ≠ 0 := fun none => going.remains (UInt64.toNat_inj.mp none)
  have goes := goesOn_iff before.order
  rw [same] at goes
  by_cases cuts : GoesOn before.order ∧ 2 * (part first).toNat < 2 ^ 64
  · obtain ⟨again, next⟩ := going.cut same cuts.1 cuts.2 sliced
    refine ⟨⟨sliced.origin.trans held.origin, sliced.policy.trans held.policy, cumulated, fun _ => next, ?_⟩, ?_⟩
    · intro ended
      rw [again] at ended
      cases ended
    · have some := (goes.mp cuts.1).1
      have covered := UInt64.toNat_sub_of_le _ _ going.more
      have less : attempt.order.leavesQty = before.order.leavesQty - part first := by
        rw [sliced.leaves, sliceQty, if_pos cuts.1, same]
      simp only [Slicing.left, live, again, if_true, less, covered]
      omega
  · obtain ⟨again, ends⟩ : attempt.requeued = false ∧ Ended first (before.slices ++ [attempt.order]) := by
      by_cases fits : 2 * (part first).toNat < 2 ^ 64
      · have last : ¬ GoesOn before.order := fun goes => cuts ⟨goes, fits⟩
        rw [Nat.mod_eq_of_lt fits] at goes
        refine going.finish (if_neg last) (fun some => ?_) (iff_of_true last fits) sliced
        rw [ne_eq, ← UInt64.toNat_inj, UInt64.toNat_zero] at some
        by_contra enough
        exact last (goes.mpr ⟨some, by omega⟩)
      · have whole := part_wraps divides (Nat.not_lt.mp fits)
        have none := going.started (.inr (Nat.not_lt.mp fits))
        have left := going.left
        have more := UInt64.le_iff_toNat_le.mp going.more
        rw [← UInt64.toNat_inj] at whole
        rw [none, List.length_nil, Nat.zero_mul, Nat.zero_add, ← whole] at left
        have goes : GoesOn before.order := goes.mpr ⟨by omega, by omega⟩
        refine going.finish ?_ (fun _ => by omega) (iff_of_false (fun last => last goes) fits) sliced
        rw [sliceQty, if_pos goes, same, ← UInt64.toNat_inj]
        exact left.symm
    refine ⟨⟨sliced.origin.trans held.origin, sliced.policy.trans held.policy, cumulated, ?_, fun _ => ends⟩, ?_⟩
    · intro going
      rw [again] at going
      cases going
    · simp only [Slicing.left, live, again, Bool.false_eq_true, if_false, if_true]
      omega

end Passes

theorem run_held (fresh : Fresh first) {rounds : List Round} {last : Slicing}
    (run : Run Step { order := first } rounds last) : Held first last :=
  run.invariant (fun _ _ _ held taken => (step_held held taken).1) (fresh_held fresh)

theorem run_ends (fresh : Fresh first) (divides : parts first ≠ 0) :
    ∃ rounds last, Run Step { order := first } rounds last ∧ last.live = false := by
  refine @Run.ends Slicing Round Step { order := first } (Held first) (fun slicing => slicing.live = false)
    Slicing.left ?_ (fresh_held fresh)
  intro before held ends
  have live : before.live = true := by simpa using ends
  have again : parts before.order ≠ 0 := by rwa [parts, held.policy]
  let round : Round := ⟨.averagePrice, none, true, "", ""⟩
  obtain ⟨db, cache, attempt, done⟩ := divide_exists round before.order again
  have taken : Step before round _ := ⟨live, db, cache, attempt, done, rfl⟩
  obtain ⟨kept, less⟩ := step_held held taken
  exact ⟨round, _, taken, kept, less⟩

section Completed

variable {slices : List OrderMessage}

theorem Ended.count (ended : Ended first slices) :
    slices.length = if part first = 0 then 1 else first.orderqtyOrigin.toNat / (part first).toNat := by
  obtain ⟨front, last, rfl, -, total, -, more, short, single, -⟩ := ended.split
  rw [List.length_append, List.length_singleton]
  split
  next none => rw [single none, List.length_nil]
  next some =>
    have short := short some
    symm
    apply Nat.div_eq_of_lt_le
    · rw [Nat.add_mul]
      omega
    · rw [Nat.add_mul, Nat.add_mul]
      omega

theorem parts_sum {amount : UInt64} {front : List OrderMessage}
    (parts : ∀ slice ∈ front, slice.orderqtyMatched = amount ∧ slice.matchType = .matchPart) :
    (front.map matchedQty).sum = front.length * amount.toNat := by
  induction front with
  | nil => simp
  | cons slice front ih =>
    obtain ⟨⟨same, -⟩, rest⟩ := List.forall_mem_cons.mp parts
    rw [List.map_cons, List.sum_cons, ih rest, List.length_cons, Nat.add_mul, matchedQty, same]
    omega

theorem Ended.total (ended : Ended first slices) :
    (∀ slice ∈ slices, 0 < matchedQty slice) ∧ (slices.map matchedQty).sum = first.orderqtyOrigin.toNat := by
  obtain ⟨front, last, rfl, parts, total, some, -, -, single, -⟩ := ended.split
  constructor
  · intro slice found
    rcases List.mem_append.mp found with earlier | rest
    · have positive : part first ≠ 0 := fun none => by
        rw [single none] at earlier
        cases earlier
      unfold matchedQty
      rw [(parts slice earlier).1]
      exact Nat.pos_of_ne_zero fun none => positive (UInt64.toNat_inj.mp none)
    · obtain rfl := List.mem_singleton.mp rest
      exact Nat.pos_of_ne_zero fun none => some (UInt64.toNat_inj.mp none)
  · rw [List.map_append, List.sum_append, parts_sum parts]
    simpa [matchedQty] using total

/-- Where twice the part does not wrap, the last slice and no other is marked as the last. -/
theorem Ended.marks (ended : Ended first slices) (fits : 2 * (part first).toNat < 2 ^ 64) (place : Nat)
    (slice : OrderMessage) (found : slices[place]? = some slice) :
    slice.matchType = .matchAll ↔ place + 1 = slices.length := by
  obtain ⟨front, last, rfl, parts, -, -, -, -, -, marked⟩ := ended.split
  rw [List.length_append, List.length_singleton, Nat.add_right_cancel_iff]
  by_cases earlier : place < front.length
  · rw [List.getElem?_append_left earlier] at found
    have type := (parts slice (List.mem_of_getElem? found)).2
    exact iff_of_false (by simp [type]) (by omega)
  · obtain ⟨inside, -⟩ := List.getElem?_eq_some_iff.mp found
    rw [List.length_append, List.length_singleton] at inside
    obtain rfl : place = front.length := by omega
    rw [List.getElem?_concat_length, Option.some.injEq] at found
    subst slice
    exact iff_of_true (marked.mpr fits) rfl

theorem single_divided (held : ∀ slice ∈ slices, slice.strCumQty = itostr slice.orderqtyMatched)
    (ended : Ended first slices) (fits : 2 * (part first).toNat < 2 ^ 64) (alone : slices.length = 1) {number : Nat}
    (many : number ≤ first.orderqtyOrigin.toNat → number = 1) : Divided first.orderqtyOrigin number slices := by
  obtain ⟨positive, total⟩ := ended.total
  refine ⟨positive, total, fun less => alone.trans (many less).symm, fun _ => alone, ?_, ended.marks fits⟩
  obtain ⟨only, rfl⟩ := List.length_eq_one_iff.mp alone
  intro place slice found
  obtain ⟨inside, rfl⟩ := List.getElem?_eq_some_iff.mp found
  obtain rfl : place = 0 := by simpa using inside
  rw [List.getElem_cons_zero, held only List.mem_cons_self]
  simp [matchedQty]

/-- A second slice never reports what was cumulated before it. -/
theorem two_slices_uncumulated {quantity : UInt64} {number : Nat}
    (held : ∀ slice ∈ slices, slice.strCumQty = itostr slice.orderqtyMatched)
    (divided : Divided quantity number slices) : slices.length < 2 := by
  by_contra several
  match slices, held, divided, several with
  | one :: two :: rest, held, divided, _ =>
    have cumulated := divided.cumulated 1 two rfl
    rw [held two (List.mem_cons_of_mem _ List.mem_cons_self)] at cumulated
    have same := itostr_inj cumulated
    have positive := divided.positive one List.mem_cons_self
    have total := divided.total
    have bound := quantity.toNat_lt
    simp only [List.map_cons, List.sum_cons] at total
    rw [← UInt64.toNat_inj, UInt64.toNat_ofNat_of_lt'] at same
    · simp only [List.take_succ_cons, List.take_zero, List.map_cons, List.map_nil, List.sum_cons, List.sum_nil] at same
      unfold matchedQty at same positive
      omega
    · simp only [List.take_succ_cons, List.take_zero, List.map_cons, List.map_nil, List.sum_cons, List.sum_nil,
        UInt64.size]
      omega
  | [one], _, _, several => exact several (by simp)
  | [], _, _, several => exact several (by simp)

end Completed

/-- An order is sliced as it should be exactly where the policy's parts are more than its
quantity, or it is a single part whose double does not wrap. -/
theorem divided_lawful_iff (fresh : Fresh first) : Lawful first ↔ first.tradePolicy.partMatchNum.toNat ≠ 0 ∧
    (first.orderqtyOrigin.toNat < first.tradePolicy.partMatchNum.toNat ∨
      first.tradePolicy.partMatchNum.toNat = 1 ∧ first.orderqtyOrigin.toNat < 2 ^ 63) := by
  have divides : parts first ≠ 0 ↔ first.tradePolicy.partMatchNum.toNat ≠ 0 := by
    rw [ne_eq, ← UInt64.toNat_inj, parts_toNat]
    rfl
  have amount := part_toNat first
  constructor
  · intro lawful
    obtain ⟨rounds, last, run, finished⟩ := run_ends fresh lawful.divides
    have held := run_held fresh run
    have ended := held.ended finished
    have divided := lawful.divided rounds last run finished
    have few := two_slices_uncumulated held.cumulated divided
    have number := divides.mp lawful.divides
    refine ⟨number, or_iff_not_imp_left.mpr fun enough => ?_⟩
    have many := divided.many (Nat.not_lt.mp enough)
    have single : first.tradePolicy.partMatchNum.toNat = 1 := by omega
    rw [single] at many
    rw [single, Nat.div_one] at amount
    obtain ⟨front, rest, apart, -, -, -, -, -, -, marked⟩ := ended.split
    have mark := divided.marks 0 rest (by
      rw [apart] at many ⊢
      rw [List.length_append, List.length_singleton, Nat.add_eq_right, List.length_eq_zero_iff] at many
      rw [many]
      rfl)
    rw [many, marked] at mark
    have fits := mark.mpr rfl
    exact ⟨single, by omega⟩
  · rintro ⟨number, few⟩
    refine ⟨divides.mpr number, fun rounds last run => ?_, fun rounds last run finished => ?_⟩
    · have bound := @Run.length_le Slicing Round Step _ _ _ (Held first) Slicing.left
        (fun _ _ _ held taken => step_held held taken) (fresh_held fresh) run
      have initial : Slicing.left { order := first } = first.orderqtyOrigin.toNat := by
        simp [Slicing.left, fresh.leaves]
      omega
    · have held := run_held fresh run
      have ended := held.ended finished
      have count := ended.count
      rcases few with less | ⟨single, fits⟩
      · have none : part first = 0 := by
          rw [← UInt64.toNat_inj, amount, Nat.div_eq_of_lt less]
          rfl
        rw [if_pos none] at count
        exact single_divided held.cumulated ended (by rw [none]; decide) count (fun _ => by omega)
      · rw [single, Nat.div_one] at amount
        have some : first.orderqtyOrigin.toNat ≠ 0 := fun none => fresh.positive (UInt64.toNat_inj.mp none)
        have unit : part first ≠ 0 := fun none => some (by rw [← amount, none]; rfl)
        rw [if_neg unit, amount, Nat.div_self (Nat.pos_of_ne_zero some)] at count
        exact single_divided held.cumulated ended (by omega) count (fun _ => single)

end Slices

def sampleOrder (number : UInt32) : OrderMessage where
  orderqtyOrigin := 100
  leavesQty := 100
  orderPrice := 10000
  tradeMarket := tradeMarketSh
  tradePolicy := { matchMode := .simulMatchByDivide, partMatchNum := number }

def sampleRound : Round := ⟨.averagePrice, none, true, "", "000000000000001"⟩

/-- A hundred shares in a hundred and one parts are one slice. -/
theorem divided_lawful_small : Lawful (sampleOrder 101) :=
  (divided_lawful_iff ⟨rfl, by decide⟩).mpr ⟨by decide, .inl (by decide)⟩

/-- In two parts their second slice reports fifty shares cumulated. -/
theorem two_parts_unlawful : ¬ ∀ order : OrderMessage, Fresh order → Lawful order := by
  intro always
  have fresh : Fresh (sampleOrder 2) := ⟨rfl, by decide⟩
  have run : Run Step { order := sampleOrder 2 } [sampleRound, sampleRound] _ :=
    .cons ⟨rfl, fun _ _ => none, fun _ _ => none, _, Eq.refl (some _), rfl⟩
      (.single ⟨rfl, fun _ _ => none, fun _ _ => none, _, Eq.refl (some _), rfl⟩)
  have few := two_slices_uncumulated (run_held fresh run).cumulated ((always _ fresh).divided _ _ run rfl)
  exact absurd few (by decide)

end Simutgw.Proofs.DividedFill
