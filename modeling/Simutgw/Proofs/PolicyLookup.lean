import Simutgw.Logic.Overlay
import Simutgw.TradePolicyManage

/-! What the readers of the trading policies tell after a history of calls. The calls
are patches on the keys; the law is that a reader goes down its keys and takes the last
that was said. A seat that is set before its connection speaks for the connection as
well, and a connection that nothing is known of is answered with the code of a find. -/

namespace Simutgw.TradePolicyManage
open Std Logic Logic.Patch

variable {calls : List (PolicyKey × Policy)} {key other : PolicyKey} {policy global : Policy}
  {manage : TradePolicyManage}

/-- The keys that the writers take. -/
def Named : PolicyKey → Prop
  | .sz conn => conn ≠ ""
  | .szSeat conn seat => conn ≠ "" ∧ seat ≠ ""
  | .sh conn => conn ≠ ""

instance decidableNamed (key : PolicyKey) : Decidable (Named key) := by
  cases key <;> unfold Named <;> infer_instance

/-- The keys that a lookup may take its answer from, the most exact first. -/
def chain : PolicyKey → List PolicyKey
  | .sz conn => [.sz conn]
  | .szSeat conn seat => [.szSeat conn seat, .sz conn]
  | .sh conn => [.sh conn]

def saying (call : PolicyKey × Policy) : Patch PolicyKey fun _ => Policy :=
  fun key => if Named call.1 ∧ key = call.1 then some call.2 else none

/-- The policy most recently set for each key. -/
def said (calls : List (PolicyKey × Policy)) : Patch PolicyKey fun _ => Policy := last (calls.map saying)

/-- A lookup as it ought to be: the policy most recently set for the first of its keys
that was set at all, with 0, else the default, with 1; and a call for a key that is none
of these changes nothing. -/
structure Lawful (global : Policy) (calls : List (PolicyKey × Policy)) (key : PolicyKey) : Prop where
  answer : (after calls).get global key =
    match firstKnown (said calls) (chain key) with
    | some policy => (0, policy)
    | none => (1, global)
  apart : ∀ other policy, other ∉ chain key →
    (after (calls ++ [(other, policy)])).get global key = (after calls).get global key

def WasSet (calls : List (PolicyKey × Policy)) (key : PolicyKey) : Prop := ∃ policy, (key, policy) ∈ calls

/-- A connection has no name, or was set by itself; for a seat with a name that it was
set is enough, and a seat without one must have nothing to fall back to. -/
def Covered (calls : List (PolicyKey × Policy)) : PolicyKey → Prop
  | .sz conn => conn = "" ∨ WasSet calls (.sz conn)
  | .szSeat conn seat =>
    conn = "" ∨ (seat = "" ∧ ¬ WasSet calls (.sz conn)) ∨
      (seat ≠ "" ∧ (WasSet calls (.szSeat conn seat) ∨ WasSet calls (.sz conn)))
  | .sh conn => conn = "" ∨ WasSet calls (.sh conn)

/-! ### What was said -/

theorem said_nil : said [] key = none := rfl

theorem said_append_singleton (call : PolicyKey × Policy) : said (calls ++ [call]) = lay (said calls) (saying call) := by
  rw [said, List.map_append]
  exact last_append_singleton _ _

theorem saying_other (apart : key ≠ other) : saying (other, policy) key = none := by
  rw [saying, if_neg]
  intro same
  exact apart same.2

theorem saying_own (named : Named key) : saying (key, policy) key = some policy := by
  rw [saying, if_pos ⟨named, rfl⟩]

theorem said_isSome_iff : (said calls key).isSome ↔ Named key ∧ WasSet calls key := by
  induction calls using List.reverseRecOn with
  | nil => simp [said_nil, WasSet]
  | append_singleton calls call ih =>
    obtain ⟨other, policy⟩ := call
    rw [said_append_singleton, lay, Option.isSome_or, Bool.or_eq_true, ih]
    simp only [saying, WasSet, List.mem_append, List.mem_singleton, Prod.mk.injEq]
    constructor
    · intro either
      obtain own | ⟨named, before, member⟩ := either
      · split at own
        next call =>
          obtain ⟨named, rfl⟩ := call
          exact ⟨named, policy, .inr ⟨rfl, rfl⟩⟩
        next => cases own
      · exact ⟨named, before, .inl member⟩
    · intro both
      obtain ⟨named, before, member | ⟨same, _⟩⟩ := both
      · exact .inr ⟨named, before, member⟩
      · left
        rw [if_pos ⟨same ▸ named, same⟩]
        rfl

/-! ### What the maps hold -/

/-- The policies that the maps of the manager hold. -/
def held (manage : TradePolicyManage) : Patch PolicyKey fun _ => Policy
  | .sz conn => manage.mapSzPolicy[conn]?.map fun cell => cell.stSelf.policy
  | .szSeat conn seat => manage.mapSzPolicy[conn]?.bind fun cell => cell.mapSeats[seat]?.map TradePolicyCell.policy
  | .sh conn => manage.mapShPolicy[conn]?.map TradePolicyCell.policy

/-- The keys that a call writes: its own, and with the first of all seats of a
connection the connection. -/
def Written (manage : TradePolicyManage) (key other : PolicyKey) : Prop :=
  other = key ∨ ∃ conn seat, key = .szSeat conn seat ∧ other = .sz conn ∧ held manage (.sz conn) = none

theorem set_of_not_named (unnamed : ¬ Named key) : manage.set policy key = (-1, manage) := by
  cases key with
  | sz conn =>
    simp only [Named, ne_eq, not_not] at unnamed
    simp only [set, setSz, if_pos unnamed]
  | szSeat conn seat =>
    simp only [Named, ne_eq, not_and_or, not_not] at unnamed
    simp only [set, setSzSeat]
    obtain noConn | noSeat := unnamed
    · rw [if_pos noConn]
    · rw [if_pos noSeat, ite_self]
  | sh conn =>
    simp only [Named, ne_eq, not_not] at unnamed
    simp only [set, setSh, if_pos unnamed]

/-- The manager with one more cell of a Shenzhen connection. -/
def withSz (manage : TradePolicyManage) (conn : String) (cell : ConnTradePolicyCell) : TradePolicyManage :=
  { manage with mapSzPolicy := manage.mapSzPolicy.insert conn cell }

/-- The manager with one more cell of a Shanghai connection. -/
def withSh (manage : TradePolicyManage) (conn : String) (cell : TradePolicyCell) : TradePolicyManage :=
  { manage with mapShPolicy := manage.mapShPolicy.insert conn cell }

theorem getElem?_insert_name {Value : Type} (map : TreeMap String Value) (name name' : String) (value : Value) :
    (map.insert name value)[name']? = if name' = name then some value else map[name']? := by
  rw [TreeMap.getElem?_insert]
  simp only [LawfulEqCmp.compare_eq_iff_eq, @eq_comm _ name]

section With

variable (manage) (conn conn' seat : String) (cell : ConnTradePolicyCell) (cellSh : TradePolicyCell)

@[simp] theorem held_withSz_sz :
    held (manage.withSz conn cell) (.sz conn') =
      if conn' = conn then some cell.stSelf.policy else held manage (.sz conn') := by
  simp only [held, withSz, getElem?_insert_name]
  split <;> rfl

@[simp] theorem held_withSz_szSeat :
    held (manage.withSz conn cell) (.szSeat conn' seat) =
      if conn' = conn then cell.mapSeats[seat]?.map TradePolicyCell.policy else held manage (.szSeat conn' seat) := by
  simp only [held, withSz, getElem?_insert_name]
  split <;> rfl

@[simp] theorem held_withSz_sh : held (manage.withSz conn cell) (.sh conn') = held manage (.sh conn') := rfl

@[simp] theorem held_withSh_sz : held (manage.withSh conn cellSh) (.sz conn') = held manage (.sz conn') := rfl

@[simp] theorem held_withSh_szSeat :
    held (manage.withSh conn cellSh) (.szSeat conn' seat) = held manage (.szSeat conn' seat) := rfl

@[simp] theorem held_withSh_sh :
    held (manage.withSh conn cellSh) (.sh conn') =
      if conn' = conn then some cellSh.policy else held manage (.sh conn') := by
  simp only [held, withSh, getElem?_insert_name]
  split <;> rfl

end With

/-- The seats that are known of a connection. -/
def seats (manage : TradePolicyManage) (conn : String) : TreeMap String TradePolicyCell :=
  (manage.mapSzPolicy[conn]?.map ConnTradePolicyCell.mapSeats).getD ∅

theorem held_szSeat (conn seat : String) :
    held manage (.szSeat conn seat) = (manage.seats conn)[seat]?.map TradePolicyCell.policy := by
  simp only [held, seats]
  cases manage.mapSzPolicy[conn]? with
  | none => simp
  | some cell => rfl

theorem setSz_eq {conn : String} (named : conn ≠ "") :
    ∃ cell : ConnTradePolicyCell, manage.setSz conn policy = (0, manage.withSz conn cell) ∧
      cell.stSelf.policy = policy ∧ cell.mapSeats = manage.seats conn := by
  simp only [setSz, if_neg named, seats]
  cases manage.mapSzPolicy[conn]? with
  | none => exact ⟨_, rfl, rfl, rfl⟩
  | some cell => exact ⟨_, rfl, rfl, rfl⟩

theorem setSzSeat_eq {conn seat : String} (named : conn ≠ "" ∧ seat ≠ "") :
    ∃ (cell : ConnTradePolicyCell) (own : TradePolicyCell),
      manage.setSzSeat conn seat policy = (0, manage.withSz conn cell) ∧
        cell.mapSeats = (manage.seats conn).insert seat own ∧ own.policy = policy ∧
        cell.stSelf.policy = (held manage (.sz conn)).getD policy := by
  simp only [setSzSeat, if_neg named.1, if_neg named.2, seats, held]
  cases manage.mapSzPolicy[conn]? with
  | none => exact ⟨_, ({} : TradePolicyCell).set policy, rfl, rfl, rfl, rfl⟩
  | some cell =>
    simp only []
    cases cell.mapSeats[seat]? with
    | none => exact ⟨_, ({} : TradePolicyCell).set policy, rfl, rfl, rfl, rfl⟩
    | some own => exact ⟨_, own.set policy, rfl, rfl, rfl, rfl⟩

theorem setSh_eq {conn : String} (named : conn ≠ "") :
    ∃ cell : TradePolicyCell, manage.setSh conn policy = (0, manage.withSh conn cell) ∧ cell.policy = policy := by
  simp only [setSh, if_neg named]
  cases manage.mapShPolicy[conn]? with
  | none => exact ⟨_, rfl, rfl⟩
  | some cell => exact ⟨_, rfl, rfl⟩

theorem held_set (named : Named key) (other : PolicyKey) :
    (Written manage key other → held (manage.set policy key).2 other = some policy) ∧
      (¬ Written manage key other → held (manage.set policy key).2 other = held manage other) := by
  cases key with
  | sz conn =>
    obtain ⟨cell, ran, own, kept⟩ := @setSz_eq policy manage _ named
    simp only [set, ran, Written, reduceCtorEq, false_and, exists_false, or_false]
    cases other with
    | sz conn' => simp +contextual [own]
    | szSeat conn' seat =>
      simp only [held_withSz_szSeat, reduceCtorEq, false_implies, not_false_eq_true, true_implies, true_and]
      split
      next same => rw [kept, same, held_szSeat]
      next => rfl
    | sh conn' => simp
  | szSeat conn seat =>
    obtain ⟨cell, ownCell, ran, kept, own, self⟩ := @setSzSeat_eq policy manage _ _ named
    simp only [set, ran, Written]
    cases other with
    | sz conn' =>
      simp only [held_withSz_sz, self, reduceCtorEq, false_or]
      cases known : held manage (.sz conn) with
      | none => simp_all
      | some before =>
        refine ⟨?_, ?_⟩
        · intro written
          obtain ⟨_, _, same, _, unknown⟩ := written
          cases same
          rw [known] at unknown
          cases unknown
        · intro _
          split
          next same => rw [same, known, Option.getD_some]
          next => rfl
    | szSeat conn' seat' =>
      simp only [held_withSz_szSeat, kept, getElem?_insert_name, PolicyKey.szSeat.injEq, reduceCtorEq, false_and,
        and_false, exists_false, or_false]
      refine ⟨?_, ?_⟩
      · intro same
        rw [if_pos same.1, if_pos same.2, Option.map_some, own]
      · intro apart
        split
        next same =>
          have apartSeat : seat' ≠ seat := fun sameSeat => apart ⟨same, sameSeat⟩
          rw [if_neg apartSeat, same, held_szSeat]
        next => rfl
    | sh conn' => simp
  | sh conn =>
    obtain ⟨cell, ran, own⟩ := @setSh_eq policy manage _ named
    simp only [set, ran, Written, reduceCtorEq, false_and, exists_false, or_false]
    cases other <;> simp +contextual [own]

/-! ### What the readers answer -/

/-- A key that the writers take is looked up in what the maps hold, and always with 0. -/
theorem get_named (named : Named key) :
    manage.get global key = (0, (firstKnown (held manage) (chain key)).getD global) := by
  cases key with
  | sz conn =>
    simp only [get, getSz, if_neg named, chain, firstKnown, List.findSome?_cons, List.findSome?_nil, held]
    cases manage.mapSzPolicy[conn]? <;> rfl
  | szSeat conn seat =>
    simp only [get, getSzSeat, if_neg named.1, if_neg named.2, chain, firstKnown, List.findSome?_cons,
      List.findSome?_nil, held]
    cases manage.mapSzPolicy[conn]? with
    | none => rfl
    | some cell =>
      simp only [Option.bind_some]
      cases cell.mapSeats[seat]? <;> rfl
  | sh conn =>
    simp only [get, getSh, if_neg named, chain, firstKnown, List.findSome?_cons, List.findSome?_nil, held]
    cases manage.mapShPolicy[conn]? <;> rfl

theorem get_of_not_named (unnamed : ¬ Named key) : manage.get global key = (1, global) := by
  cases key with
  | sz conn =>
    simp only [Named, ne_eq, not_not] at unnamed
    simp only [get, getSz, if_pos unnamed]
  | szSeat conn seat =>
    simp only [Named, ne_eq, not_and_or, not_not] at unnamed
    simp only [get, getSzSeat]
    obtain noConn | noSeat := unnamed
    · rw [if_pos noConn]
    · rw [if_pos noSeat, ite_self]
  | sh conn =>
    simp only [Named, ne_eq, not_not] at unnamed
    simp only [get, getSh, if_pos unnamed]

/-! ### The run -/

/-- The maps hold what was said, but a connection that was never set may have the policy
of its first seat. -/
structure Kept (calls : List (PolicyKey × Policy)) (manage : TradePolicyManage) : Prop where
  recalled : ∀ key policy, said calls key = some policy → held manage key = some policy
  faithful : ∀ key policy, held manage key = some policy → said calls key = some policy ∨ ∃ conn, key = .sz conn

theorem Kept.nil : Kept [] {} where
  recalled key policy told := by cases told
  faithful key policy holds := by
    cases key <;> simp [held] at holds

theorem Kept.call (kept : Kept calls manage) (call : PolicyKey × Policy) :
    Kept (calls ++ [call]) (manage.set call.2 call.1).2 := by
  obtain ⟨key, policy⟩ := call
  by_cases named : Named key
  · refine ⟨?_, ?_⟩
    · intro other latest told
      rw [said_append_singleton, lay] at told
      by_cases same : other = key
      · rw [same, saying_own named, Option.some_or] at told
        rw [(held_set named other).1 (.inl same), told]
      · rw [saying_other same, Option.none_or] at told
        have holds := kept.recalled other latest told
        rw [(held_set named other).2, holds]
        intro written
        obtain same' | ⟨conn, seat, _, isConn, unknown⟩ := written
        · exact same same'
        · rw [← isConn, holds] at unknown
          cases unknown
    · intro other latest holds
      rw [said_append_singleton, lay]
      by_cases written : Written manage key other
      · obtain same | ⟨conn, _, _, isConn, _⟩ := written
        · rw [(held_set named other).1 (.inl same)] at holds
          left
          rw [same, saying_own named, Option.some_or, holds]
        · exact .inr ⟨conn, isConn⟩
      · rw [(held_set named other).2 written] at holds
        have apart : other ≠ key := fun same => written (.inl same)
        rw [saying_other apart, Option.none_or]
        exact kept.faithful other latest holds
  · have silent : said (calls ++ [(key, policy)]) = said calls := by
      funext other
      rw [said_append_singleton, lay, saying, if_neg fun both => named both.1, Option.none_or]
    rw [set_of_not_named named]
    exact ⟨fun other latest => silent ▸ kept.recalled other latest, fun other latest => silent ▸ kept.faithful other latest⟩

theorem after_append_singleton (call : PolicyKey × Policy) :
    after (calls ++ [call]) = ((after calls).set call.2 call.1).2 := by
  rw [after, List.foldl_append]
  rfl

theorem kept (calls : List (PolicyKey × Policy)) : Kept calls (after calls) := by
  induction calls using List.reverseRecOn with
  | nil => exact Kept.nil
  | append_singleton calls call ih =>
    rw [after_append_singleton]
    exact ih.call call

/-! ### The law -/

theorem firstKnown_held (told : firstKnown (said calls) (chain key) = some policy) :
    firstKnown (held (after calls)) (chain key) = some policy := by
  have kept := kept calls
  cases key with
  | sz conn =>
    simp only [firstKnown, chain, List.findSome?_singleton] at told ⊢
    exact kept.recalled _ _ told
  | szSeat conn seat =>
    simp only [firstKnown, chain, List.findSome?_cons, List.findSome?_nil] at told ⊢
    cases seatSaid : said calls (.szSeat conn seat) with
    | some latest =>
      rw [kept.recalled _ _ seatSaid]
      rw [seatSaid] at told
      exact told
    | none =>
      rw [seatSaid] at told
      cases seatHeld : held (after calls) (.szSeat conn seat) with
      | none =>
        cases connSaid : said calls (.sz conn) with
        | none =>
          rw [connSaid] at told
          cases told
        | some latest =>
          rw [kept.recalled _ _ connSaid]
          rw [connSaid] at told
          exact told
      | some latest =>
        obtain seatSaid' | ⟨_, isConn⟩ := kept.faithful _ _ seatHeld
        · rw [seatSaid] at seatSaid'
          cases seatSaid'
        · cases isConn
  | sh conn =>
    simp only [firstKnown, chain, List.findSome?_singleton] at told ⊢
    exact kept.recalled _ _ told

/-- A key that the writers take is answered well just when one of its keys was set. -/
theorem answer_named_iff (named : Named key) :
    ((after calls).get global key =
      match firstKnown (said calls) (chain key) with
      | some policy => (0, policy)
      | none => (1, global)) ↔ (firstKnown (said calls) (chain key)).isSome := by
  rw [get_named named]
  cases told : firstKnown (said calls) (chain key) with
  | none => simp
  | some policy =>
    rw [firstKnown_held told]
    simp

/-- One that they refuse is answered well just when there is nothing to fall back to. -/
theorem answer_unnamed_iff (unnamed : ¬ Named key) :
    ((after calls).get global key =
      match firstKnown (said calls) (chain key) with
      | some policy => (0, policy)
      | none => (1, global)) ↔ firstKnown (said calls) (chain key) = none := by
  rw [get_of_not_named unnamed]
  cases told : firstKnown (said calls) (chain key) <;> simp

theorem said_eq_none_iff : said calls key = none ↔ ¬ (Named key ∧ WasSet calls key) := by
  rw [← said_isSome_iff, Option.not_isSome_iff_eq_none]

theorem covered_named_iff (named : Named key) : Covered calls key ↔ (firstKnown (said calls) (chain key)).isSome := by
  cases key with
  | sz conn =>
    simp only [Named, ne_eq] at named
    simp only [firstKnown, chain, List.findSome?_singleton, said_isSome_iff, Covered, Named, ne_eq, named,
      not_false_eq_true, true_and, false_or]
  | szSeat conn seat =>
    obtain ⟨namedConn, namedSeat⟩ := named
    simp only [firstKnown, chain, List.findSome?_isSome_iff, List.mem_cons, List.not_mem_nil, or_false,
      exists_eq_or_imp, exists_eq_left, said_isSome_iff]
    simp [Covered, Named, namedConn, namedSeat]
  | sh conn =>
    simp only [Named, ne_eq] at named
    simp only [firstKnown, chain, List.findSome?_singleton, said_isSome_iff, Covered, Named, ne_eq, named,
      not_false_eq_true, true_and, false_or]

theorem covered_unnamed_iff (unnamed : ¬ Named key) :
    Covered calls key ↔ firstKnown (said calls) (chain key) = none := by
  cases key with
  | sz conn =>
    simp only [Named, ne_eq, not_not] at unnamed
    simp [firstKnown, chain, said_eq_none_iff, Covered, Named, unnamed]
  | szSeat conn seat =>
    simp only [firstKnown, chain, List.findSome?_eq_none_iff, List.mem_cons, List.not_mem_nil, or_false,
      forall_eq_or_imp, forall_eq, said_eq_none_iff, Covered]
    simp only [Named, ne_eq] at unnamed ⊢
    by_cases noConn : conn = ""
    · simp [noConn]
    · have noSeat : seat = "" := by
        by_contra namedSeat
        exact unnamed ⟨noConn, namedSeat⟩
      simp [noConn, noSeat]
  | sh conn =>
    simp only [Named, ne_eq, not_not] at unnamed
    simp [firstKnown, chain, said_eq_none_iff, Covered, Named, unnamed]

theorem answer_iff_covered (calls : List (PolicyKey × Policy)) (global : Policy) (key : PolicyKey) :
    ((after calls).get global key =
      match firstKnown (said calls) (chain key) with
      | some policy => (0, policy)
      | none => (1, global)) ↔ Covered calls key := by
  by_cases named : Named key
  · rw [answer_named_iff named, covered_named_iff named]
  · rw [answer_unnamed_iff named, covered_unnamed_iff named]

theorem firstKnown_said_other (apart : other ∉ chain key) :
    firstKnown (said (calls ++ [(other, policy)])) (chain key) = firstKnown (said calls) (chain key) := by
  rw [said_append_singleton]
  apply firstKnown_lay_of_silent
  intro cell member
  apply saying_other
  intro same
  exact apart (same ▸ member)

theorem covered_other (covered : Covered calls key) (apart : other ∉ chain key) :
    Covered (calls ++ [(other, policy)]) key := by
  by_cases named : Named key
  · rw [covered_named_iff named] at covered ⊢
    rw [firstKnown_said_other apart]
    exact covered
  · rw [covered_unnamed_iff named] at covered ⊢
    rw [firstKnown_said_other apart]
    exact covered

/-- After any calls a lookup is answered as it ought to be just when its connection, or
its seat, was set. -/
theorem lookup_lawful_iff (global : Policy) (calls : List (PolicyKey × Policy)) (key : PolicyKey) :
    Lawful global calls key ↔ Covered calls key := by
  refine ⟨?_, ?_⟩
  · intro lawful
    exact (answer_iff_covered calls global key).mp lawful.answer
  · intro covered
    have answer := (answer_iff_covered calls global key).mpr covered
    refine ⟨answer, ?_⟩
    intro other policy apart
    rw [answer, (answer_iff_covered _ global key).mpr (covered_other covered apart), firstKnown_said_other apart]

def samplePolicy : Policy := ⟨.miniMode, true, .simulMatchAll, .recentMatchPrice, 3⟩

def sampleGlobal : Policy := ⟨.normalMode, false, .enAbleQuta, .averagePrice, 2⟩

/-- One seat is set, and another one of the connection is answered with its policy as
found; a connection that nothing was set for is found as well. -/
theorem lookup_seat_speaks :
    ¬ (∀ (global : Policy) (calls : List (PolicyKey × Policy)) (key : PolicyKey), Lawful global calls key) ∧
      (after [(.szSeat "A" "S1", samplePolicy)]).get sampleGlobal (.szSeat "A" "S2") = (0, samplePolicy) ∧
      (after []).get sampleGlobal (.sh "A") = (0, sampleGlobal) := by
  refine ⟨?_, by decide +kernel, by decide +kernel⟩
  intro lawful
  have answer := (lawful sampleGlobal [] (.sh "A")).answer
  exact absurd answer (by decide +kernel)

end Simutgw.TradePolicyManage
