import Simutgw.Proofs.EtfLimits

/-! Which basket a call for a customer and a security works on. Baskets are looked up
by the security and put in by the customer, so that a basket is found again only where
the two are the same text. -/

namespace Simutgw.Proofs.EtfBaskets
open Logic Simutgw.Proofs.EtfLimits EtfTradeVolume

/-- A call of one of the six operations of the map of baskets. -/
structure EtfCall extends EtfRequest where
  in_sSecurityId : String

/-- The baskets, the security whose call has made each of them, and the freezes that
have returned 0: customer, security, and the key of the basket. -/
structure EtfDesk where
  etfsTv : Baskets := fun _ => none
  madeFor : String → Option String := fun _ => none
  frozenAt : List (String × String × String) := []

section Calls

variable (config : String → EtfLimits)

/-- The call, with the limits that the security is configured with. -/
def EtfCall.run (call : EtfCall) : Baskets → Called :=
  match call.kind, call.side with
  | .froze, .creation =>
    EtfTradeVolume.frozeCreation call.in_num call.in_sSecurityId call.in_sCustId (config call.in_sSecurityId)
  | .defroze, .creation => EtfTradeVolume.defrozeCreation call.in_num call.in_sSecurityId call.in_sCustId
  | .confirm, .creation => EtfTradeVolume.confirmCreation call.in_num call.in_sSecurityId call.in_sCustId
  | .froze, .redemption =>
    EtfTradeVolume.frozeRedemption call.in_num call.in_sSecurityId call.in_sCustId (config call.in_sSecurityId)
  | .defroze, .redemption => EtfTradeVolume.defrozeRedemption call.in_num call.in_sSecurityId call.in_sCustId
  | .confirm, .redemption => EtfTradeVolume.confirmRedemption call.in_num call.in_sSecurityId call.in_sCustId

/-- A basket that was not there was made for the call's security. -/
def EtfDesk.made (desk : EtfDesk) (call : EtfCall) : Option String → String → Option String
  | none => desk.madeFor
  | some key =>
    match desk.etfsTv key with
    | some _ => desk.madeFor
    | none => Function.update desk.madeFor key (some call.in_sSecurityId)

def EtfDesk.noted (desk : EtfDesk) (call : EtfCall) (called : Called) : List (String × String × String) :=
  match called.key with
  | none => desk.frozenAt
  | some key =>
    if call.kind = .froze ∧ called.code = 0 then (call.in_sCustId, call.in_sSecurityId, key) :: desk.frozenAt
    else desk.frozenAt

def EtfDesk.after (desk : EtfDesk) (call : EtfCall) : EtfDesk :=
  let called := call.run config desk.etfsTv
  { etfsTv := called.etfsTv, madeFor := desk.made call called.key, frozenAt := desk.noted call called }

def CallStep (before : EtfDesk) (call : EtfCall) (after : EtfDesk) : Prop :=
  after = before.after config call

def limitsOf (basket : EtfTradeVolumeBasket) : EtfLimits :=
  ⟨basket.creation.limits, basket.redemption.limits⟩

/-- What is promised of a call: a release or confirmation works on the basket that was
frozen for its customer and security, a freeze after one for another security succeeds
on a basket of its own security with the security's limits, and no other security's
basket is changed. -/
structure OwnBasket (before : EtfDesk) (call : EtfCall) (after : EtfDesk) : Prop where
  seen : call.kind ≠ .froze → ∀ key, (call.in_sCustId, call.in_sSecurityId, key) ∈ before.frozenAt →
    (call.run config before.etfsTv).key = some key
  second : call.kind = .froze → ∀ other key, other ≠ call.in_sSecurityId →
    (call.in_sCustId, other, key) ∈ before.frozenAt →
    (call.run config before.etfsTv).code = 0 ∧ ∃ place basket,
      (call.run config before.etfsTv).key = some place ∧ after.madeFor place = some call.in_sSecurityId ∧
        after.etfsTv place = some basket ∧ limitsOf basket = config call.in_sSecurityId
  others : ∀ key security, before.madeFor key = some security → security ≠ call.in_sSecurityId →
    after.etfsTv key = before.etfsTv key

/-- An account's counter that a freeze finds used up: where there is no limit none is
drawn on, and where there is one the account has a counter of which nothing is free. -/
def UsedUp (limit : UInt64) (own : Option FrozeVolume) : Prop :=
  limit ≠ 0 → ∃ counter, own = some counter ∧ counter.unFrozeVolume = 0

/-- The requests that change no counter of their side: of nothing, of an account without
a name, freezes that find every counter used up, and confirmations that the total refuses.
A release changes the total whatever it holds. -/
def MovesNothing (request : EtfRequest) (side : EtfSide) : Prop :=
  request.in_num = 0 ∨ request.in_sCustId.isEmpty = true ∨
    match request.kind with
    | .froze =>
      side.limit.unFrozeVolume = 0 ∧ UsedUp side.limits.limitPerUser (side.limitPerUser request.in_sCustId) ∧
        side.netLimit.unFrozeVolume = 0 ∧ UsedUp side.limits.netLimitPerUser (side.netLimitPerUser request.in_sCustId)
    | .defroze => False
    | .confirm => side.limit.forzeVolume < request.in_num

/-- Freezes for the customer and security were under the security as the key; a freeze
after one for another security finds a basket of its own security with its limits, or
neither of the two texts is a key; and of a basket found under the security that was made
for another one the call moves nothing. -/
structure OwnKey (before : EtfDesk) (call : EtfCall) : Prop where
  seen : call.kind ≠ .froze → ∀ key, (call.in_sCustId, call.in_sSecurityId, key) ∈ before.frozenAt →
    key = call.in_sSecurityId
  second : call.kind = .froze → ∀ other key, other ≠ call.in_sSecurityId →
    (call.in_sCustId, other, key) ∈ before.frozenAt →
    match before.etfsTv call.in_sSecurityId with
    | some basket => before.madeFor call.in_sSecurityId = some call.in_sSecurityId ∧
        limitsOf basket = config call.in_sSecurityId
    | none => before.etfsTv call.in_sCustId = none
  others : ∀ basket security, before.etfsTv call.in_sSecurityId = some basket →
    before.madeFor call.in_sSecurityId = some security → security ≠ call.in_sSecurityId →
    MovesNothing call.toEtfRequest (sideOf basket call.side)

end Calls

section Moves

variable {volume : FrozeVolume} {number : UInt64}

theorem froze_volume_iff : (volume.froze number).volume = volume ↔ number = 0 ∨ volume.unFrozeVolume = 0 := by
  have least := volume.actualFroze_toNat number
  constructor
  · intro same
    have drawn := volume.froze_unfrozen number
    rw [same] at drawn
    have nothing : min volume.unFrozeVolume.toNat number.toNat = 0 := by omega
    rcases Nat.min_eq_zero_iff.mp nothing with free | none
    · exact .inr (UInt64.toNat_inj.mp free)
    · exact .inl (UInt64.toNat_inj.mp none)
  · intro nothing
    have drawn : volume.actualFroze number = 0 := by
      apply UInt64.toNat_inj.mp
      rw [least]
      rcases nothing with none | free
      · rw [none, UInt64.toNat_zero, Nat.min_zero]
      · rw [free, UInt64.toNat_zero, Nat.zero_min]
    simp only [FrozeVolume.froze, drawn, UInt64.add_zero, UInt64.sub_zero]

theorem defroze_volume_iff : (volume.defroze number).volume = volume ↔ number = 0 := by
  constructor
  · intro same
    have free := congrArg FrozeVolume.unFrozeVolume same
    simpa [FrozeVolume.defroze] using free
  · intro nothing
    rw [nothing, FrozeVolume.defroze_zero]

theorem confirm_volume_iff :
    (volume.confirm number).volume = volume ↔ number = 0 ∨ volume.forzeVolume < number := by
  by_cases short : volume.forzeVolume < number
  · rw [FrozeVolume.confirm_failed _ _ short]
    exact iff_of_true rfl (.inr short)
  · rw [FrozeVolume.confirm_covered _ _ (UInt64.not_lt.mp short)]
    constructor
    · intro same
      have frozen := congrArg FrozeVolume.forzeVolume same
      exact .inl (by simpa using frozen)
    · intro nothing
      rw [nothing.resolve_right short, UInt64.sub_zero]

/-- A customer's counter is as it was where there is no limit or nothing of it is free. A
first freeze makes the counter, so that it is no longer as it was. -/
theorem drawn_same_iff {counters : String → Option FrozeVolume} {limit : UInt64} {custId : String}
    (some_amount : number ≠ 0) :
    (if limit ≠ 0 then Function.update counters custId
        (some (((counters custId).getD (FrozeVolume.init {} limit)).froze number).volume) else counters) = counters ↔
      UsedUp limit (counters custId) := by
  by_cases unlimited : limit = 0
  · rw [if_neg (not_not.mpr unlimited)]
    exact iff_of_true rfl (fun limited => absurd unlimited limited)
  · rw [if_pos unlimited, Function.update_eq_self_iff]
    simp only [UsedUp, ne_eq, unlimited, not_false_eq_true, true_imp_iff]
    cases there : counters custId with
    | none => exact iff_of_false (Option.some_ne_none _) (fun ⟨_, own, _⟩ => absurd own.symm (Option.some_ne_none _))
    | some counter =>
      rw [Option.getD_some, Option.some.injEq, froze_volume_iff]
      constructor
      · intro same
        exact ⟨counter, rfl, same.resolve_left some_amount⟩
      · rintro ⟨_, own, used⟩
        cases own
        exact .inr used

theorem settle_total {change : FrozeVolume → UInt64 → FrozeVolume.Changed} {custId : String} {side : EtfSide}
    (some_amount : ¬ (number = 0 ∨ custId.isEmpty = true)) :
    (side.settle change number custId).2.limit = (change side.limit number).volume := by
  rcases @settle_ends change number custId side some_amount with
    ⟨ends, -⟩ | ⟨-, settled⟩ | ⟨own, -, -, ⟨ends, -⟩ | settled⟩
  · rw [ends]
    rfl
  · exact settled.limit
  · rw [ends]
    rfl
  · exact settled.limit

theorem onSide_same_iff {request : EtfRequest} {side : EtfSide} :
    (request.onSide side).2 = side ↔ MovesNothing request side := by
  obtain ⟨kind, name, number, custId⟩ := request
  by_cases nothing : number = 0 ∨ custId.isEmpty = true
  · have moves : MovesNothing ⟨kind, name, number, custId⟩ side := or_assoc.mp (.inl nothing)
    refine iff_of_true ?_ moves
    cases kind with
    | froze => exact congrArg Prod.snd (froze_nothing nothing)
    | defroze => exact congrArg Prod.snd (settle_nothing nothing)
    | confirm => exact congrArg Prod.snd (settle_nothing nothing)
  · have some_amount : number ≠ 0 := fun none => nothing (.inl none)
    have asked : MovesNothing ⟨kind, name, number, custId⟩ side ↔ _ :=
      or_assoc.symm.trans (or_iff_right nothing)
    rw [asked]
    cases kind with
    | froze =>
      obtain ⟨limits, limit, users, netLimit, netUsers⟩ := side
      simp only [EtfRequest.onSide, froze_something nothing, counter, EtfSide.mk.injEq, true_and, froze_volume_iff,
        some_amount, false_or, drawn_same_iff some_amount]
    | defroze =>
      refine iff_of_false ?_ not_false
      intro same
      have total := congrArg EtfSide.limit same
      rw [EtfRequest.onSide, settle_total nothing, defroze_volume_iff] at total
      exact some_amount total
    | confirm =>
      have total := @settle_total number FrozeVolume.confirm custId side nothing
      constructor
      · intro same
        simp only [EtfRequest.onSide] at same
        rw [same] at total
        exact (confirm_volume_iff.mp total.symm).resolve_left some_amount
      · intro short
        have refused := FrozeVolume.confirm_failed side.limit number short
        simp only [EtfRequest.onSide, EtfSide.settle, nothing, if_false, refused]
        rfl

theorem operate_same_iff {request : EtfRequest} {basket : EtfTradeVolumeBasket} :
    (request.operate basket).2 = basket ↔ MovesNothing request (sideOf basket request.side) := by
  rw [← onSide_same_iff]
  have sides := @operate_side request basket
  constructor
  · intro same
    have own := sides request.side
    rw [same, if_pos rfl] at own
    exact own.symm
  · intro same
    have each : ∀ side, sideOf (request.operate basket).2 side = sideOf basket side := by
      intro side
      rw [sides]
      split
      next own => rw [own, same]
      next => rfl
    calc (request.operate basket).2
        = ⟨sideOf (request.operate basket).2 .creation, sideOf (request.operate basket).2 .redemption⟩ := rfl
      _ = ⟨sideOf basket .creation, sideOf basket .redemption⟩ := by rw [each, each]
      _ = basket := rfl

end Moves

/-- Every freeze's key is in the map, and what is not in the map was made for nobody. -/
structure DeskKept (desk : EtfDesk) : Prop where
  frozen : ∀ note ∈ desk.frozenAt, desk.etfsTv note.2.2 ≠ none
  unmade : ∀ key, desk.etfsTv key = none → desk.madeFor key = none

section Steps

variable {config : String → EtfLimits} {before : EtfDesk} {call : EtfCall}

/-- The basket a call makes where it finds none. -/
def fresh (config : String → EtfLimits) (call : EtfCall) : EtfTradeVolumeBasket :=
  match call.kind with
  | .froze => .ofLimits (config call.in_sSecurityId)
  | .defroze => .ofLimits {}
  | .confirm => .ofLimits {}

theorem run_eq : call.run config =
    EtfTradeVolume.call (fresh config call) call.operate call.in_sSecurityId call.in_sCustId := by
  obtain ⟨⟨kind, side, number, custId⟩, securityId⟩ := call
  cases kind <;> cases side <;> rfl

theorem operate_limits (basket : EtfTradeVolumeBasket) : limitsOf (call.operate basket).2 = limitsOf basket := by
  have creation := @onSide_limits call.toEtfRequest
  have sides := @operate_side call.toEtfRequest basket
  have one : (call.operate basket).2.creation.limits = basket.creation.limits := by
    have side := sides .creation
    simp only [sideOf] at side
    rw [side]
    split
    · exact creation _
    · rfl
  have two : (call.operate basket).2.redemption.limits = basket.redemption.limits := by
    have side := sides .redemption
    simp only [sideOf] at side
    rw [side]
    split
    · exact creation _
    · rfl
  simp only [limitsOf, one, two]

theorem operate_froze (froze : call.kind = .froze) (basket : EtfTradeVolumeBasket) : (call.operate basket).1 = 0 := by
  rw [operate_code]
  simp only [EtfRequest.onSide, froze, froze_code]

theorem run_found {basket : EtfTradeVolumeBasket} (found : before.etfsTv call.in_sSecurityId = some basket) :
    call.run config before.etfsTv =
      ⟨if (call.operate basket).1 ≠ 0 then -1 else 0, some call.in_sSecurityId,
        Function.update before.etfsTv call.in_sSecurityId (some (call.operate basket).2)⟩ := by
  simp only [run_eq, EtfTradeVolume.call, found]

theorem run_made (unfound : before.etfsTv call.in_sSecurityId = none) (absent : before.etfsTv call.in_sCustId = none) :
    call.run config before.etfsTv =
      ⟨if (call.operate (fresh config call)).1 ≠ 0 then -1 else 0, some call.in_sCustId,
        Function.update before.etfsTv call.in_sCustId (some (call.operate (fresh config call)).2)⟩ := by
  simp only [run_eq, EtfTradeVolume.call, unfound, absent]

theorem run_fails (unfound : before.etfsTv call.in_sSecurityId = none) {basket : EtfTradeVolumeBasket}
    (there : before.etfsTv call.in_sCustId = some basket) :
    call.run config before.etfsTv = ⟨-1, none, before.etfsTv⟩ := by
  simp only [run_eq, EtfTradeVolume.call, unfound, there]

/-- A key that is in the map is what the call works on just when it is the security. -/
theorem run_key_iff {key : String} (there : before.etfsTv key ≠ none) :
    (call.run config before.etfsTv).key = some key ↔ key = call.in_sSecurityId := by
  cases found : before.etfsTv call.in_sSecurityId with
  | some basket =>
    rw [run_found found, Option.some.injEq]
    exact eq_comm
  | none =>
    have other : key ≠ call.in_sSecurityId := fun same => there (same ▸ found)
    refine iff_of_false ?_ other
    cases own : before.etfsTv call.in_sCustId with
    | some basket =>
      rw [run_fails found own]
      exact (Option.some_ne_none key).symm
    | none =>
      rw [run_made found own, Option.some.injEq]
      exact fun same => there (same ▸ own)

/-- No basket is taken out of the map, and the one worked on is in it. -/
theorem run_keeps : (∀ key, before.etfsTv key ≠ none → (call.run config before.etfsTv).etfsTv key ≠ none) ∧
    ∀ key, (call.run config before.etfsTv).key = some key → (call.run config before.etfsTv).etfsTv key ≠ none := by
  have updated : ∀ (place : String) (basket : EtfTradeVolumeBasket),
      (∀ key, before.etfsTv key ≠ none → Function.update before.etfsTv place (some basket) key ≠ none) ∧
        Function.update before.etfsTv place (some basket) place ≠ none := by
    intro place basket
    refine ⟨?_, ?_⟩
    · intro key there
      rw [Function.update_apply]
      split
      · exact Option.some_ne_none basket
      · exact there
    · rw [Function.update_self]
      exact Option.some_ne_none basket
  cases found : before.etfsTv call.in_sSecurityId with
  | some basket =>
    rw [run_found found]
    refine ⟨(updated _ _).1, ?_⟩
    intro key same
    cases same
    exact (updated _ _).2
  | none =>
    cases own : before.etfsTv call.in_sCustId with
    | some basket =>
      rw [run_fails found own]
      exact ⟨fun _ there => there, fun key same => absurd same.symm (Option.some_ne_none key)⟩
    | none =>
      rw [run_made found own]
      refine ⟨(updated _ _).1, ?_⟩
      intro key same
      cases same
      exact (updated _ _).2

theorem mem_noted {called : Called} {note : String × String × String} (noted : note ∈ before.noted call called) :
    note ∈ before.frozenAt ∨ ∃ key, called.key = some key ∧ note = (call.in_sCustId, call.in_sSecurityId, key) := by
  unfold EtfDesk.noted at noted
  split at noted
  next => exact .inl noted
  next key same =>
    split at noted
    next =>
      rcases List.mem_cons.mp noted with own | earlier
      · exact .inr ⟨key, same, own⟩
      · exact .inl earlier
    next => exact .inl noted

theorem after_kept (kept : DeskKept before) : DeskKept (before.after config call) := by
  obtain ⟨stay, worked⟩ := @run_keeps config before call
  refine ⟨?_, ?_⟩
  · intro note noted
    rcases mem_noted noted with earlier | ⟨key, own, rfl⟩
    · exact stay _ (kept.frozen note earlier)
    · exact worked key own
  · intro key missing
    have unmade : before.madeFor key = none := by
      apply kept.unmade
      by_contra there
      exact stay key there missing
    show before.made call (call.run config before.etfsTv).key key = none
    cases same : (call.run config before.etfsTv).key with
    | none => exact unmade
    | some place =>
      simp only [EtfDesk.made]
      cases before.etfsTv place with
      | some basket => exact unmade
      | none =>
        dsimp only
        rw [Function.update_apply, if_neg]
        · exact unmade
        · rintro rfl
          exact worked key same missing

theorem seen_iff (kept : DeskKept before) :
    (call.kind ≠ .froze → ∀ key, (call.in_sCustId, call.in_sSecurityId, key) ∈ before.frozenAt →
        (call.run config before.etfsTv).key = some key) ↔
      (call.kind ≠ .froze → ∀ key, (call.in_sCustId, call.in_sSecurityId, key) ∈ before.frozenAt →
        key = call.in_sSecurityId) := by
  constructor
  · intro seen release key noted
    exact (run_key_iff (kept.frozen _ noted)).mp (seen release key noted)
  · intro same release key noted
    exact (run_key_iff (kept.frozen _ noted)).mpr (same release key noted)

theorem ownBasket_found_iff (kept : DeskKept before) {basket : EtfTradeVolumeBasket}
    (found : before.etfsTv call.in_sSecurityId = some basket) :
    OwnBasket config before call (before.after config call) ↔ OwnKey config before call := by
  have run := @run_found config before call basket found
  have made : (before.after config call).madeFor = before.madeFor := by
    simp only [EtfDesk.after, run, EtfDesk.made, found]
  have map : (before.after config call).etfsTv =
      Function.update before.etfsTv call.in_sSecurityId (some (call.operate basket).2) := by
    simp only [EtfDesk.after, run]
  constructor
  · intro own
    refine ⟨(seen_iff kept).mp own.seen, ?_, ?_⟩
    · intro froze other key differs noted
      obtain ⟨-, place, worked, same, maker, stored, limits⟩ := own.second froze other key differs noted
      rw [run, Option.some.injEq] at same
      cases same
      rw [map, Function.update_self, Option.some.injEq] at stored
      rw [found]
      rw [made] at maker
      refine ⟨maker, ?_⟩
      rw [← limits, ← stored, operate_limits]
    · intro other security stored maker differs
      have same := own.others call.in_sSecurityId security maker differs
      rw [map, Function.update_self, stored, Option.some.injEq] at same
      rw [found, Option.some.injEq] at stored
      rw [← stored] at same ⊢
      exact operate_same_iff.mp same
  · intro own
    refine ⟨(seen_iff kept).mpr own.seen, ?_, ?_⟩
    · intro froze other key differs noted
      have second := own.second froze other key differs noted
      rw [found] at second
      refine ⟨?_, call.in_sSecurityId, (call.operate basket).2, ?_, ?_, ?_, ?_⟩
      · simp only [run, operate_froze froze, ne_eq, not_true_eq_false, if_false]
      · rw [run]
      · rw [made]
        exact second.1
      · rw [map, Function.update_self]
      · rw [operate_limits]
        exact second.2
    · intro key security maker differs
      rw [map, Function.update_apply]
      split
      next same =>
        subst same
        rw [found, operate_same_iff.mpr (own.others basket security found maker differs)]
      next => rfl

theorem ownBasket_fails_iff (kept : DeskKept before) (unfound : before.etfsTv call.in_sSecurityId = none)
    {basket : EtfTradeVolumeBasket} (there : before.etfsTv call.in_sCustId = some basket) :
    OwnBasket config before call (before.after config call) ↔ OwnKey config before call := by
  have run := @run_fails config before call unfound basket there
  have map : (before.after config call).etfsTv = before.etfsTv := by
    simp only [EtfDesk.after, run]
  constructor
  · intro own
    refine ⟨(seen_iff kept).mp own.seen, ?_, ?_⟩
    · intro froze other key differs noted
      obtain ⟨code, -⟩ := own.second froze other key differs noted
      rw [run] at code
      cases code
    · intro other security stored
      rw [unfound] at stored
      cases stored
  · intro own
    refine ⟨(seen_iff kept).mpr own.seen, ?_, ?_⟩
    · intro froze other key differs noted
      have second := own.second froze other key differs noted
      rw [unfound, there] at second
      cases second
    · intro key security _ _
      rw [map]

theorem ownBasket_made_iff (kept : DeskKept before) (unfound : before.etfsTv call.in_sSecurityId = none)
    (absent : before.etfsTv call.in_sCustId = none) :
    OwnBasket config before call (before.after config call) ↔ OwnKey config before call := by
  have run := @run_made config before call unfound absent
  have map : (before.after config call).etfsTv =
      Function.update before.etfsTv call.in_sCustId (some (call.operate (fresh config call)).2) := by
    simp only [EtfDesk.after, run]
  constructor
  · intro own
    refine ⟨(seen_iff kept).mp own.seen, ?_, ?_⟩
    · intro _ _ _ _ _
      rw [unfound]
      exact absent
    · intro other security stored
      rw [unfound] at stored
      cases stored
  · intro own
    refine ⟨(seen_iff kept).mpr own.seen, ?_, ?_⟩
    · intro froze other key differs noted
      refine ⟨?_, call.in_sCustId, (call.operate (fresh config call)).2, ?_, ?_, ?_, ?_⟩
      · simp only [run, operate_froze froze, ne_eq, not_true_eq_false, if_false]
      · rw [run]
      · simp only [EtfDesk.after, run, EtfDesk.made, absent, Function.update_self]
      · rw [map, Function.update_self]
      · rw [operate_limits]
        simp only [fresh, froze]
        rfl
    · intro key security maker _
      rw [map, Function.update_apply]
      split
      next same =>
        subst same
        rw [kept.unmade _ absent] at maker
        cases maker
      next => rfl

theorem ownBasket_iff (kept : DeskKept before) : OwnBasket config before call (before.after config call) ↔
    OwnKey config before call := by
  cases found : before.etfsTv call.in_sSecurityId with
  | some basket => exact ownBasket_found_iff kept found
  | none =>
    cases there : before.etfsTv call.in_sCustId with
    | some basket => exact ownBasket_fails_iff kept found there
    | none => exact ownBasket_made_iff kept found there

end Steps

/-- The runs from the empty map all of whose calls keep what is promised are those whose
calls all work under their own keys. -/
theorem run_ownBasket_iff (config : String → EtfLimits) (calls : List EtfCall) (last : EtfDesk) :
    Run (fun before call after => CallStep config before call after ∧ OwnBasket config before call after) {} calls
        last ↔
      Run (Steps.guarded (CallStep config) (OwnKey config)) {} calls last := by
  have start : DeskKept {} := ⟨by simp, fun _ _ => rfl⟩
  refine Run.lawful_iff_guarded ?_ ?_ start
  · intro before call after kept step
    cases step
    exact ownBasket_iff kept
  · intro before call after kept step _
    cases step
    exact after_kept kept

/-- A customer freezes creations of one fund and then of another. -/
def twoFunds : List EtfCall :=
  [{ kind := .froze, side := .creation, in_num := 100, in_sCustId := "0001", in_sSecurityId := "159901" },
    { kind := .froze, side := .creation, in_num := 100, in_sCustId := "0001", in_sSecurityId := "159902" }]

/-- The second freeze is refused because the customer has a basket already. -/
theorem second_fund_refused :
    ¬ ∃ last, Run (fun before call after => CallStep (fun _ => {}) before call after ∧
      OwnBasket (fun _ => {}) before call after) {} twoFunds last := by
  rintro ⟨last, run⟩
  cases run with
  | cons first rest =>
    obtain ⟨rfl, -⟩ := first
    cases rest with
    | cons second _ =>
      obtain ⟨-, own⟩ := second
      obtain ⟨code, -⟩ := own.second rfl "159901" "0001" (by decide) (by decide)
      revert code
      decide


end Simutgw.Proofs.EtfBaskets
