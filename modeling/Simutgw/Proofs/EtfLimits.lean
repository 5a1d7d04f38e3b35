import Simutgw.EtfTradeVolume
import Simutgw.Logic.Runs

/-! The limits of a basket over runs of freezes, releases and confirmations. A freeze
is never refused, so that it keeps the limits only where all of them cover it; a
release keeps them only where as much is frozen. -/

namespace Simutgw.Proofs.EtfLimits
open Logic

/-- A counter of one side: in total, an account's, and the same for the net amount. -/
inductive EtfCounter
  | total
  | user (custId : String)
  | net
  | netUser (custId : String)

open EtfCounter

/-- The limit that a counter is held to. -/
def maximum (side : EtfSide) : EtfCounter → UInt64
  | total => side.limits.limit
  | user _ => side.limits.limitPerUser
  | net => side.limits.netLimit
  | netUser _ => side.limits.netLimitPerUser

/-- A counter, which for an account without one is full. -/
def counter (side : EtfSide) : EtfCounter → FrozeVolume
  | total => side.limit
  | user custId => (side.limitPerUser custId).getD (FrozeVolume.init {} side.limits.limitPerUser)
  | net => side.netLimit
  | netUser custId => (side.netLimitPerUser custId).getD (FrozeVolume.init {} side.limits.netLimitPerUser)

/-- The counters that a request of the account is about. -/
def About (custId : String) : EtfCounter → Prop
  | total => True
  | user owner => owner = custId
  | net => True
  | netUser owner => owner = custId

/-- The counters a release comes to: it ends at an account without a counter. -/
def Comes (side : EtfSide) (custId : String) : EtfCounter → Prop
  | total => True
  | user owner => owner = custId ∧ side.limitPerUser custId ≠ none
  | net => side.limits.limitPerUser ≠ 0 → side.limitPerUser custId ≠ none
  | netUser owner => owner = custId ∧ side.netLimitPerUser custId ≠ none ∧
      (side.limits.limitPerUser ≠ 0 → side.limitPerUser custId ≠ none)

section Sides

variable {in_num : UInt64} {in_sCustId : String} {side : EtfSide}

theorem froze_nothing (nothing : in_num = 0 ∨ in_sCustId.isEmpty) : side.froze in_num in_sCustId = (0, side) := by
  rw [EtfSide.froze, if_pos nothing]

theorem settle_nothing {change : FrozeVolume → UInt64 → FrozeVolume.Changed}
    (nothing : in_num = 0 ∨ in_sCustId.isEmpty) : side.settle change in_num in_sCustId = (0, side) := by
  rw [EtfSide.settle, if_pos nothing]

/-- No counter refuses a freeze, so that none is taken back. -/
theorem froze_something (some_amount : ¬ (in_num = 0 ∨ in_sCustId.isEmpty)) :
    side.froze in_num in_sCustId = (0,
      { limits := side.limits
        limit := (side.limit.froze in_num).volume
        limitPerUser :=
          if side.limits.limitPerUser ≠ 0 then
            Function.update side.limitPerUser in_sCustId (some ((counter side (user in_sCustId)).froze in_num).volume)
          else side.limitPerUser
        netLimit := (side.netLimit.froze in_num).volume
        netLimitPerUser :=
          if side.limits.netLimitPerUser ≠ 0 then
            Function.update side.netLimitPerUser in_sCustId
              (some ((counter side (netUser in_sCustId)).froze in_num).volume)
          else side.netLimitPerUser }) := by
  simp only [EtfSide.froze, some_amount, if_false, FrozeVolume.froze_code, ne_eq, not_true_eq_false, ite_self,
    and_false, counter]
  by_cases user : side.limits.limitPerUser = 0
  · by_cases net : side.limits.netLimitPerUser = 0
    · simp only [user, net, not_true_eq_false, if_false]
    · simp only [user, net, not_true_eq_false, not_false_eq_true, if_false, if_true]
  · by_cases net : side.limits.netLimitPerUser = 0
    · simp only [user, net, not_true_eq_false, not_false_eq_true, if_false, if_true]
    · simp only [user, net, not_false_eq_true, if_true]

theorem froze_code : (side.froze in_num in_sCustId).1 = 0 := by
  by_cases nothing : in_num = 0 ∨ in_sCustId.isEmpty
  · rw [froze_nothing nothing]
  · rw [froze_something nothing]

theorem froze_limits : (side.froze in_num in_sCustId).2.limits = side.limits := by
  by_cases nothing : in_num = 0 ∨ in_sCustId.isEmpty
  · rw [froze_nothing nothing]
  · rw [froze_something nothing]

theorem froze_about (some_amount : ¬ (in_num = 0 ∨ in_sCustId.isEmpty)) {place : EtfCounter}
    (limited : maximum side place ≠ 0) (about : About in_sCustId place) :
    counter (side.froze in_num in_sCustId).2 place = ((counter side place).froze in_num).volume := by
  rw [froze_something some_amount]
  cases place with
  | total => rfl
  | net => rfl
  | user owner =>
    cases about
    simp only [maximum] at limited
    simp only [counter, limited, ne_eq, not_false_eq_true, if_true, Function.update_self, Option.getD_some]
  | netUser owner =>
    cases about
    simp only [maximum] at limited
    simp only [counter, limited, ne_eq, not_false_eq_true, if_true, Function.update_self, Option.getD_some]

theorem froze_other {place : EtfCounter} (other : ¬ About in_sCustId place) :
    counter (side.froze in_num in_sCustId).2 place = counter side place := by
  by_cases nothing : in_num = 0 ∨ in_sCustId.isEmpty
  · rw [froze_nothing nothing]
  · rw [froze_something nothing]
    cases place with
    | total => exact absurd trivial other
    | net => exact absurd trivial other
    | user owner =>
      simp only [About] at other
      simp only [counter, ne_eq]
      split
      · rw [Function.update_of_ne other]
      · rfl
    | netUser owner =>
      simp only [About] at other
      simp only [counter, ne_eq]
      split
      · rw [Function.update_of_ne other]
      · rfl

end Sides

section Settling

variable {change : FrozeVolume → UInt64 → FrozeVolume.Changed} {in_num : UInt64} {in_sCustId : String} {side : EtfSide}

/-- The side after a settling of its net amounts: only they are changed. -/
structure NetSettled (change : FrozeVolume → UInt64 → FrozeVolume.Changed) (in_num : UInt64) (in_sCustId : String)
    (before after : EtfSide) : Prop where
  limits : after.limits = before.limits
  limit : after.limit = before.limit
  limitPerUser : after.limitPerUser = before.limitPerUser
  netLimit : after.netLimit = (change before.netLimit in_num).volume
  netLimitPerUser : after.netLimitPerUser =
    match before.netLimitPerUser in_sCustId with
    | none => before.netLimitPerUser
    | some counter =>
      if before.limits.netLimitPerUser ≠ 0 then
        Function.update before.netLimitPerUser in_sCustId (some (change counter in_num).volume)
      else before.netLimitPerUser

theorem settleNet_settled : NetSettled change in_num in_sCustId side (side.settleNet change in_num in_sCustId).2 := by
  unfold EtfSide.settleNet
  dsimp only
  split
  next limited =>
    split
    next missing => exact ⟨rfl, rfl, rfl, rfl, by rw [missing]⟩
    next counter there =>
      split
      · exact ⟨rfl, rfl, rfl, rfl, by rw [there]; exact (if_pos limited).symm⟩
      · exact ⟨rfl, rfl, rfl, rfl, by rw [there]; exact (if_pos limited).symm⟩
  next unlimited =>
    refine ⟨rfl, rfl, rfl, rfl, ?_⟩
    cases side.netLimitPerUser in_sCustId with
    | none => rfl
    | some counter => exact (if_neg unlimited).symm

namespace NetSettled

variable {after : EtfSide} (settled : NetSettled change in_num in_sCustId side after)
include settled

theorem total_same : counter after total = counter side total := settled.limit

theorem user_same (owner : String) : counter after (user owner) = counter side (user owner) := by
  simp only [counter, settled.limitPerUser, settled.limits]

theorem net_changed : counter after net = (change (counter side net) in_num).volume := settled.netLimit

theorem netUser_changed (limited : side.limits.netLimitPerUser ≠ 0) (there : side.netLimitPerUser in_sCustId ≠ none) :
    counter after (netUser in_sCustId) = (change (counter side (netUser in_sCustId)) in_num).volume := by
  obtain ⟨own, found⟩ := Option.ne_none_iff_exists'.mp there
  have map := settled.netLimitPerUser
  simp only [found, limited, ne_eq, not_false_eq_true, if_true] at map
  simp only [counter, map, Function.update_self, found, Option.getD_some]

theorem netUser_same {owner : String} (other : owner ≠ in_sCustId ∨ side.netLimitPerUser in_sCustId = none) :
    counter after (netUser owner) = counter side (netUser owner) := by
  have map := settled.netLimitPerUser
  have same : after.netLimitPerUser owner = side.netLimitPerUser owner := by
    rw [map]
    cases found : side.netLimitPerUser in_sCustId with
    | none => rfl
    | some own =>
      rw [found] at other
      have differs := other.resolve_right (Option.some_ne_none own)
      dsimp only
      split
      · rw [Function.update_of_ne differs]
      · rfl
  simp only [counter, same, settled.limits]

theorem netUser_each (owner : String) :
    counter after (netUser owner) = counter side (netUser owner) ∨
      side.limits.netLimitPerUser = 0 ∨ owner = in_sCustId ∧
        counter after (netUser owner) = (change (counter side (netUser owner)) in_num).volume := by
  by_cases limited : side.limits.netLimitPerUser = 0
  · exact .inr (.inl limited)
  · by_cases own : owner = in_sCustId
    · subst own
      cases found : side.netLimitPerUser owner with
      | none => exact .inl (settled.netUser_same (.inr found))
      | some counter =>
        have there : side.netLimitPerUser owner ≠ none := by rw [found]; exact Option.some_ne_none counter
        exact .inr (.inr ⟨rfl, settled.netUser_changed limited there⟩)
    · exact .inl (settled.netUser_same (.inl own))

end NetSettled

/-- The side with its total and the account's counter settled. -/
def userSettled (change : FrozeVolume → UInt64 → FrozeVolume.Changed) (in_num : UInt64) (in_sCustId : String)
    (side : EtfSide) (own : FrozeVolume) : EtfSide :=
  { side with
    limit := (change side.limit in_num).volume
    limitPerUser := Function.update side.limitPerUser in_sCustId (some (change own in_num).volume) }

/-- The side with its total settled. -/
def totalSettled (change : FrozeVolume → UInt64 → FrozeVolume.Changed) (in_num : UInt64) (side : EtfSide) : EtfSide :=
  { side with limit := (change side.limit in_num).volume }

theorem settle_ends (some_amount : ¬ (in_num = 0 ∨ in_sCustId.isEmpty)) :
    let after := (side.settle change in_num in_sCustId).2
    after = totalSettled change in_num side ∧
        ((change side.limit in_num).code ≠ 0 ∨
          side.limits.limitPerUser ≠ 0 ∧ side.limitPerUser in_sCustId = none) ∨
      side.limits.limitPerUser = 0 ∧ NetSettled change in_num in_sCustId (totalSettled change in_num side) after ∨
      ∃ own, side.limits.limitPerUser ≠ 0 ∧ side.limitPerUser in_sCustId = some own ∧
        (after = userSettled change in_num in_sCustId side own ∧ (change own in_num).code ≠ 0 ∨
          NetSettled change in_num in_sCustId (userSettled change in_num in_sCustId side own) after) := by
  simp only [EtfSide.settle, some_amount, if_false]
  split
  next refused => exact .inl ⟨rfl, .inl refused⟩
  next =>
    split
    next limited =>
      split
      next missing => exact .inl ⟨rfl, .inr ⟨limited, missing⟩⟩
      next own there =>
        refine .inr (.inr ⟨own, limited, there, ?_⟩)
        split
        next refused => exact .inl ⟨rfl, refused⟩
        next => exact .inr settleNet_settled
    next unlimited => exact .inr (.inl ⟨not_not.mp unlimited, settleNet_settled⟩)

theorem settle_limits : (side.settle change in_num in_sCustId).2.limits = side.limits := by
  by_cases nothing : in_num = 0 ∨ in_sCustId.isEmpty
  · rw [settle_nothing nothing]
  · rcases settle_ends nothing with ⟨ends, -⟩ | ⟨-, settled⟩ | ⟨own, -, -, ⟨ends, -⟩ | settled⟩
    · rw [ends]
      rfl
    · exact settled.limits
    · rw [ends]
      rfl
    · exact settled.limits

theorem userSettled_user {own : FrozeVolume} (there : side.limitPerUser in_sCustId = some own) (owner : String) :
    counter (userSettled change in_num in_sCustId side own) (user owner) =
      if owner = in_sCustId then (change (counter side (user owner)) in_num).volume else counter side (user owner) := by
  by_cases same : owner = in_sCustId
  · subst same
    rw [if_pos rfl]
    simp only [counter, userSettled, Function.update_self, Option.getD_some, there]
  · rw [if_neg same]
    simp only [counter, userSettled, Function.update_of_ne same]

theorem settle_each {place : EtfCounter} (limited : maximum side place ≠ 0) :
    counter (side.settle change in_num in_sCustId).2 place = counter side place ∨
      About in_sCustId place ∧
        counter (side.settle change in_num in_sCustId).2 place = (change (counter side place) in_num).volume := by
  by_cases nothing : in_num = 0 ∨ in_sCustId.isEmpty
  · exact .inl (by rw [settle_nothing nothing])
  · rcases settle_ends nothing with ⟨ends, -⟩ | ⟨-, settled⟩ | ⟨own, -, there, ⟨ends, -⟩ | settled⟩
    · rw [ends]
      cases place with
      | total => exact .inr ⟨trivial, rfl⟩
      | user owner => exact .inl rfl
      | net => exact .inl rfl
      | netUser owner => exact .inl rfl
    · cases place with
      | total => exact .inr ⟨trivial, settled.total_same⟩
      | user owner => exact .inl (settled.user_same owner)
      | net => exact .inr ⟨trivial, settled.net_changed⟩
      | netUser owner =>
        rcases settled.netUser_each owner with same | unlimited | changed
        · exact .inl same
        · exact absurd unlimited limited
        · exact .inr changed
    · rw [ends]
      cases place with
      | total => exact .inr ⟨trivial, rfl⟩
      | user owner =>
        rw [userSettled_user there]
        by_cases same : owner = in_sCustId
        · exact .inr ⟨same, if_pos same⟩
        · exact .inl (if_neg same)
      | net => exact .inl rfl
      | netUser owner => exact .inl rfl
    · cases place with
      | total => exact .inr ⟨trivial, settled.total_same⟩
      | user owner =>
        rw [settled.user_same, userSettled_user there]
        by_cases same : owner = in_sCustId
        · exact .inr ⟨same, if_pos same⟩
        · exact .inl (if_neg same)
      | net => exact .inr ⟨trivial, settled.net_changed⟩
      | netUser owner =>
        rcases settled.netUser_each owner with same | unlimited | changed
        · exact .inl same
        · exact absurd unlimited limited
        · exact .inr changed

/-- A settling that nothing refuses changes just the limited counters it comes to. -/
theorem settle_comes (accepts : ∀ volume number, (change volume number).code = 0)
    (some_amount : ¬ (in_num = 0 ∨ in_sCustId.isEmpty)) {place : EtfCounter} (limited : maximum side place ≠ 0) :
    (Comes side in_sCustId place → counter (side.settle change in_num in_sCustId).2 place =
      (change (counter side place) in_num).volume) ∧
    (¬ Comes side in_sCustId place →
      counter (side.settle change in_num in_sCustId).2 place = counter side place) := by
  rcases settle_ends some_amount with ⟨ends, refused | ⟨held, missing⟩⟩ | ⟨unlimited, settled⟩ |
    ⟨own, held, there, ⟨-, refused⟩ | settled⟩
  · exact absurd (accepts _ _) refused
  · rw [ends]
    cases place with
    | total => exact ⟨fun _ => rfl, fun other => absurd trivial other⟩
    | user owner => exact ⟨fun comes => absurd missing comes.2, fun _ => rfl⟩
    | net => exact ⟨fun comes => absurd missing (comes held), fun _ => rfl⟩
    | netUser owner => exact ⟨fun comes => absurd missing (comes.2.2 held), fun _ => rfl⟩
  · cases place with
    | total => exact ⟨fun _ => settled.total_same, fun other => absurd trivial other⟩
    | user owner => exact absurd unlimited limited
    | net => exact ⟨fun _ => settled.net_changed, fun other => absurd (fun held => absurd unlimited held) other⟩
    | netUser owner =>
      constructor
      · rintro ⟨rfl, counted, -⟩
        exact settled.netUser_changed limited counted
      · intro other
        apply settled.netUser_same
        by_contra both
        obtain ⟨same, counted⟩ := not_or.mp both
        exact other ⟨not_not.mp same, counted, fun held => absurd unlimited held⟩
  · exact absurd (accepts _ _) refused
  · have counted : side.limitPerUser in_sCustId ≠ none := by
      rw [there]
      exact Option.some_ne_none own
    cases place with
    | total => exact ⟨fun _ => settled.total_same, fun other => absurd trivial other⟩
    | user owner =>
      rw [settled.user_same, userSettled_user there]
      exact ⟨fun comes => if_pos comes.1, fun other => if_neg fun same => other ⟨same, counted⟩⟩
    | net => exact ⟨fun _ => settled.net_changed, fun other => absurd (fun _ => counted) other⟩
    | netUser owner =>
      constructor
      · rintro ⟨rfl, netCounted, -⟩
        exact settled.netUser_changed limited netCounted
      · intro other
        apply settled.netUser_same
        by_contra both
        obtain ⟨same, netCounted⟩ := not_or.mp both
        exact other ⟨not_not.mp same, netCounted, fun _ => counted⟩

end Settling

inductive EtfSideName
  | creation
  | redemption
deriving DecidableEq

inductive RequestKind
  | froze
  | defroze
  | confirm
deriving DecidableEq

/-- A call of one of the six operations of a basket. -/
structure EtfRequest where
  kind : RequestKind
  side : EtfSideName
  in_num : UInt64
  in_sCustId : String

def EtfRequest.operate (request : EtfRequest) : EtfTradeVolumeBasket → Int × EtfTradeVolumeBasket :=
  match request.kind, request.side with
  | .froze, .creation => EtfTradeVolumeBasket.frozeCreation request.in_num request.in_sCustId
  | .defroze, .creation => EtfTradeVolumeBasket.defrozeCreation request.in_num request.in_sCustId
  | .confirm, .creation => EtfTradeVolumeBasket.confirmCreation request.in_num request.in_sCustId
  | .froze, .redemption => EtfTradeVolumeBasket.frozeRedemption request.in_num request.in_sCustId
  | .defroze, .redemption => EtfTradeVolumeBasket.defrozeRedemption request.in_num request.in_sCustId
  | .confirm, .redemption => EtfTradeVolumeBasket.confirmRedemption request.in_num request.in_sCustId

/-- What a request does to the side it is for. -/
def EtfRequest.onSide (request : EtfRequest) : EtfSide → Int × EtfSide :=
  match request.kind with
  | .froze => EtfSide.froze request.in_num request.in_sCustId
  | .defroze => EtfSide.settle FrozeVolume.defroze request.in_num request.in_sCustId
  | .confirm => EtfSide.settle FrozeVolume.confirm request.in_num request.in_sCustId

def sideOf (basket : EtfTradeVolumeBasket) : EtfSideName → EtfSide
  | .creation => basket.creation
  | .redemption => basket.redemption

/-- A basket, and what has been confirmed under each counter. -/
structure EtfLedger where
  basket : EtfTradeVolumeBasket
  confirmed : EtfSideName → EtfCounter → Nat

namespace EtfLedger

def maximumOf (ledger : EtfLedger) (side : EtfSideName) (place : EtfCounter) : UInt64 :=
  maximum (sideOf ledger.basket side) place

def free (ledger : EtfLedger) (side : EtfSideName) (place : EtfCounter) : Nat :=
  (counter (sideOf ledger.basket side) place).unFrozeVolume.toNat

def frozen (ledger : EtfLedger) (side : EtfSideName) (place : EtfCounter) : Nat :=
  (counter (sideOf ledger.basket side) place).forzeVolume.toNat

def start (limits : EtfLimits) : EtfLedger where
  basket := .ofLimits limits
  confirmed _ _ := 0

/-- A confirmation confirms what it takes off the frozen part. -/
def after (ledger : EtfLedger) (request : EtfRequest) : EtfLedger :=
  let basket := (request.operate ledger.basket).2
  { basket := basket
    confirmed := fun side place =>
      if request.kind = .confirm then
        ledger.confirmed side place + (ledger.frozen side place - frozen ⟨basket, ledger.confirmed⟩ side place)
      else ledger.confirmed side place }

end EtfLedger

/-- A request is made of the basket. -/
def EtfStep (before : EtfLedger) (request : EtfRequest) (after : EtfLedger) : Prop :=
  after = before.after request

/-- The amount fits in the counters of its account that have a limit, and is counted in
each of them. -/
def Counts (before : EtfLedger) (request : EtfRequest) (after : EtfLedger) : Prop :=
  ∀ place, About request.in_sCustId place → before.maximumOf request.side place ≠ 0 →
    before.frozen request.side place + before.confirmed request.side place + request.in_num.toNat ≤
        (before.maximumOf request.side place).toNat ∧
      after.frozen request.side place = before.frozen request.side place + request.in_num.toNat

/-- What is promised of a request: a freeze that succeeds is counted, one that does not
changes nothing, and no limit is ever exceeded. -/
structure WithinLimits (before : EtfLedger) (request : EtfRequest) (after : EtfLedger) : Prop where
  counts : request.kind = .froze → (request.operate before.basket).1 = 0 → Counts before request after
  refuses : request.kind = .froze → (request.operate before.basket).1 ≠ 0 →
    ∀ side place, counter (sideOf after.basket side) place = counter (sideOf before.basket side) place
  within : ∀ side place, after.maximumOf side place ≠ 0 →
    after.frozen side place + after.confirmed side place ≤ (after.maximumOf side place).toNat

/-- A freeze is of nothing or is covered by every limited counter of an account with a
name; a release is of what is frozen in every limited counter it comes to, or of so much
that the free part wraps around. -/
def Covered (before : EtfLedger) (request : EtfRequest) : Prop :=
  match request.kind with
  | .froze => request.in_num = 0 ∨ ∀ place, About request.in_sCustId place →
      before.maximumOf request.side place ≠ 0 →
      request.in_sCustId.isEmpty = false ∧ request.in_num.toNat ≤ before.free request.side place
  | .defroze => request.in_sCustId.isEmpty = true ∨ ∀ place, before.maximumOf request.side place ≠ 0 →
      Comes (sideOf before.basket request.side) request.in_sCustId place →
      request.in_num.toNat ≤ before.frozen request.side place ∨
        2 ^ 64 ≤ before.free request.side place + request.in_num.toNat
  | .confirm => True

/-- Under every limit, what is free, frozen and confirmed make up the limit. -/
def Whole (ledger : EtfLedger) : Prop :=
  ∀ side place, ledger.maximumOf side place ≠ 0 →
    ledger.free side place + ledger.frozen side place + ledger.confirmed side place =
      (ledger.maximumOf side place).toNat

section Counters

variable {volume : FrozeVolume} {number : UInt64}

theorem froze_whole (fits : volume.unFrozeVolume.toNat + volume.forzeVolume.toNat < 2 ^ 64) :
    (volume.froze number).volume.unFrozeVolume.toNat + (volume.froze number).volume.forzeVolume.toNat =
        volume.unFrozeVolume.toNat + volume.forzeVolume.toNat ∧
      (volume.froze number).volume.forzeVolume.toNat =
        volume.forzeVolume.toNat + min volume.unFrozeVolume.toNat number.toNat := by
  have free := volume.froze_unfrozen number
  have frozen := volume.froze_frozen number
  rw [volume.actualFroze_toNat] at free frozen
  omega

theorem defroze_words : (volume.defroze number).volume.unFrozeVolume.toNat =
      (volume.unFrozeVolume.toNat + number.toNat) % 2 ^ 64 ∧
    (volume.defroze number).volume.forzeVolume.toNat =
      (2 ^ 64 - number.toNat + volume.forzeVolume.toNat) % 2 ^ 64 :=
  ⟨UInt64.toNat_add .., UInt64.toNat_sub ..⟩

theorem confirm_words : (volume.confirm number).volume.unFrozeVolume = volume.unFrozeVolume ∧
    (volume.confirm number).volume.forzeVolume.toNat ≤ volume.forzeVolume.toNat := by
  unfold FrozeVolume.confirm
  split
  · exact ⟨rfl, Nat.le_refl _⟩
  next covered =>
    refine ⟨rfl, ?_⟩
    show (volume.forzeVolume - number).toNat ≤ _
    rw [UInt64.toNat_sub_of_le _ _ (UInt64.not_lt.mp covered)]
    omega

end Counters

section Requests

variable {before : EtfLedger} {request : EtfRequest}

theorem operate_side (basket : EtfTradeVolumeBasket) (side : EtfSideName) :
    sideOf (request.operate basket).2 side =
      if side = request.side then (request.onSide (sideOf basket side)).2 else sideOf basket side := by
  obtain ⟨kind, own, number, custId⟩ := request
  cases kind <;> cases own <;> cases side <;> rfl

theorem operate_code (basket : EtfTradeVolumeBasket) :
    (request.operate basket).1 = (request.onSide (sideOf basket request.side)).1 := by
  obtain ⟨kind, own, number, custId⟩ := request
  cases kind <;> cases own <;> rfl

theorem onSide_limits (side : EtfSide) : (request.onSide side).2.limits = side.limits := by
  obtain ⟨kind, own, number, custId⟩ := request
  cases kind with
  | froze => exact froze_limits
  | defroze => exact settle_limits
  | confirm => exact settle_limits

theorem maximum_eq {one other : EtfSide} (same : one.limits = other.limits) (place : EtfCounter) :
    maximum one place = maximum other place := by
  cases place <;> simp only [maximum, same]

theorem after_maximumOf (side : EtfSideName) (place : EtfCounter) :
    (before.after request).maximumOf side place = before.maximumOf side place := by
  apply maximum_eq
  show (sideOf (request.operate before.basket).2 side).limits = _
  rw [operate_side]
  split
  · exact onSide_limits _
  · rfl

theorem after_other {side : EtfSideName} (other : side ≠ request.side) (place : EtfCounter) :
    (before.after request).free side place = before.free side place ∧
      (before.after request).frozen side place = before.frozen side place ∧
      (before.after request).confirmed side place = before.confirmed side place := by
  have same : sideOf (request.operate before.basket).2 side = sideOf before.basket side := by
    rw [operate_side, if_neg other]
  refine ⟨?_, ?_, ?_⟩
  · simp only [EtfLedger.free, EtfLedger.after, same]
  · simp only [EtfLedger.frozen, EtfLedger.after, same]
  · simp only [EtfLedger.after, EtfLedger.frozen, same, Nat.sub_self, Nat.add_zero, ite_self]

theorem after_own (place : EtfCounter) :
    counter (sideOf (before.after request).basket request.side) place =
      counter (request.onSide (sideOf before.basket request.side)).2 place := by
  show counter (sideOf (request.operate before.basket).2 request.side) place = _
  rw [operate_side, if_pos rfl]

theorem after_confirmed (other : request.kind ≠ .confirm) (side : EtfSideName) (place : EtfCounter) :
    (before.after request).confirmed side place = before.confirmed side place :=
  if_neg other

theorem whole_of_own (whole : Whole before)
    (own : ∀ place, before.maximumOf request.side place ≠ 0 →
      (before.after request).free request.side place + (before.after request).frozen request.side place +
        (before.after request).confirmed request.side place = (before.maximumOf request.side place).toNat) :
    Whole (before.after request) := by
  intro side place limited
  rw [after_maximumOf] at limited ⊢
  by_cases same : side = request.side
  · subst same
    exact own place limited
  · obtain ⟨free, frozen, confirmed⟩ := @after_other before request side same place
    rw [free, frozen, confirmed]
    exact whole side place limited

theorem Whole.within (whole : Whole before) (side : EtfSideName) (place : EtfCounter)
    (limited : before.maximumOf side place ≠ 0) :
    before.frozen side place + before.confirmed side place ≤ (before.maximumOf side place).toNat := by
  have sum := whole side place limited
  omega

theorem froze_covered (froze : request.kind = .froze) (whole : Whole before) (covered : Covered before request) :
    Counts before request (before.after request) ∧ Whole (before.after request) := by
  have other : request.kind ≠ .confirm := by
    rw [froze]
    decide
  have onSide : request.onSide = EtfSide.froze request.in_num request.in_sCustId := by
    simp only [EtfRequest.onSide, froze]
  have each : ∀ place, before.maximumOf request.side place ≠ 0 → About request.in_sCustId place →
      request.in_num.toNat ≤ before.free request.side place ∧
      (before.after request).free request.side place + (before.after request).frozen request.side place =
        before.free request.side place + before.frozen request.side place ∧
      (before.after request).frozen request.side place =
        before.frozen request.side place + request.in_num.toNat := by
    intro place limited about
    simp only [Covered, froze] at covered
    have sum := whole request.side place limited
    have small := (before.maximumOf request.side place).toNat_lt
    rcases covered with nothing | covers
    · have none : request.in_num.toNat = 0 := by rw [nothing, UInt64.toNat_zero]
      have same := @after_own before request place
      rw [onSide, froze_nothing (.inl nothing)] at same
      simp only [EtfLedger.free, EtfLedger.frozen, same, none, Nat.zero_le, Nat.add_zero, and_self]
    · obtain ⟨named, enough⟩ := covers place about limited
      by_cases nothing : request.in_num = 0
      · have none : request.in_num.toNat = 0 := by rw [nothing, UInt64.toNat_zero]
        have same := @after_own before request place
        rw [onSide, froze_nothing (.inl nothing)] at same
        simp only [EtfLedger.free, EtfLedger.frozen, same, none, Nat.zero_le, Nat.add_zero, and_self]
      · have drawn := @after_own before request place
        have some_amount : ¬ (request.in_num = 0 ∨ request.in_sCustId.isEmpty = true) := by
          rw [named]
          simpa using nothing
        rw [onSide, froze_about some_amount limited about] at drawn
        have words := @froze_whole (counter (sideOf before.basket request.side) place) request.in_num
          (by simp only [EtfLedger.free, EtfLedger.frozen] at sum; omega)
        simp only [EtfLedger.free, EtfLedger.frozen, drawn] at enough ⊢
        omega
  constructor
  · intro place about limited
    obtain ⟨enough, -, counted⟩ := each place limited about
    have sum := whole request.side place limited
    exact ⟨by omega, counted⟩
  · apply whole_of_own whole
    intro place limited
    rw [after_confirmed other]
    by_cases about : About request.in_sCustId place
    · obtain ⟨-, kept, -⟩ := each place limited about
      rw [kept]
      exact whole request.side place limited
    · have same := @after_own before request place
      rw [onSide, froze_other about] at same
      simp only [EtfLedger.free, EtfLedger.frozen, same]
      exact whole request.side place limited

theorem covered_of_counts (froze : request.kind = .froze) (whole : Whole before)
    (counts : Counts before request (before.after request)) : Covered before request := by
  have onSide : request.onSide = EtfSide.froze request.in_num request.in_sCustId := by
    simp only [EtfRequest.onSide, froze]
  simp only [Covered, froze]
  by_cases nothing : request.in_num = 0
  · exact .inl nothing
  · right
    intro place about limited
    obtain ⟨fits, counted⟩ := counts place about limited
    have sum := whole request.side place limited
    refine ⟨?_, by omega⟩
    rw [← Bool.not_eq_true]
    intro unnamed
    have same := @after_own before request place
    rw [onSide, froze_nothing (.inr unnamed)] at same
    have some_amount : request.in_num.toNat ≠ 0 := by
      intro none
      exact nothing (UInt64.toNat_inj.mp none)
    simp only [EtfLedger.frozen, same] at counted
    omega

/-- A release keeps the ledger whole where it is covered, and goes over a limit where it
is not. -/
theorem defroze_covered_iff (defroze : request.kind = .defroze) (whole : Whole before) :
    (Covered before request → Whole (before.after request)) ∧
      ((∀ side place, (before.after request).maximumOf side place ≠ 0 →
          (before.after request).frozen side place + (before.after request).confirmed side place ≤
            ((before.after request).maximumOf side place).toNat) → Covered before request) := by
  have other : request.kind ≠ .confirm := by
    rw [defroze]
    decide
  have onSide : request.onSide = EtfSide.settle FrozeVolume.defroze request.in_num request.in_sCustId := by
    simp only [EtfRequest.onSide, defroze]
  by_cases nothing : request.in_num = 0 ∨ request.in_sCustId.isEmpty = true
  · constructor
    · intro _
      apply whole_of_own whole
      intro place limited
      have same := @after_own before request place
      rw [onSide, settle_nothing nothing] at same
      simp only [EtfLedger.free, EtfLedger.frozen, same, after_confirmed other]
      exact whole request.side place limited
    · intro _
      simp only [Covered, defroze]
      rcases nothing with none | unnamed
      · right
        intro place limited comes
        left
        rw [none, UInt64.toNat_zero]
        exact Nat.zero_le _
      · exact .inl unnamed
  · have each := fun place limited => @settle_comes FrozeVolume.defroze request.in_num request.in_sCustId
      (sideOf before.basket request.side) (fun _ _ => rfl) nothing place limited
    have named : request.in_sCustId.isEmpty ≠ true := fun unnamed => nothing (.inr unnamed)
    have some_amount : request.in_num.toNat ≠ 0 := fun none => nothing (.inl (UInt64.toNat_inj.mp none))
    have number := request.in_num.toNat_lt
    simp only [Covered, defroze, named, Bool.false_eq_true, false_or]
    constructor
    · intro covered
      apply whole_of_own whole
      intro place limited
      have sum := whole request.side place limited
      have small := (before.maximumOf request.side place).toNat_lt
      have same := @after_own before request place
      rw [onSide] at same
      rw [after_confirmed other]
      by_cases comes : Comes (sideOf before.basket request.side) request.in_sCustId place
      · rw [(each place limited).1 comes] at same
        have words := @defroze_words (counter (sideOf before.basket request.side) place) request.in_num
        have enough := covered place limited comes
        simp only [EtfLedger.free, EtfLedger.frozen, same, words] at sum enough ⊢
        omega
      · rw [(each place limited).2 comes] at same
        simp only [EtfLedger.free, EtfLedger.frozen, same] at sum ⊢
        exact sum
    · intro within place limited comes
      have sum := whole request.side place limited
      have small := (before.maximumOf request.side place).toNat_lt
      have same := @after_own before request place
      rw [onSide, (each place limited).1 comes] at same
      have kept := within request.side place (by rw [after_maximumOf]; exact limited)
      have words := @defroze_words (counter (sideOf before.basket request.side) place) request.in_num
      rw [after_maximumOf, after_confirmed other] at kept
      simp only [EtfLedger.free, EtfLedger.frozen, same, words] at sum kept ⊢
      omega

/-- A confirmation keeps the ledger whole: it moves what it takes off the frozen part. -/
theorem confirm_whole (confirm : request.kind = .confirm) (whole : Whole before) : Whole (before.after request) := by
  have onSide : request.onSide = EtfSide.settle FrozeVolume.confirm request.in_num request.in_sCustId := by
    simp only [EtfRequest.onSide, confirm]
  apply whole_of_own whole
  intro place limited
  have sum := whole request.side place limited
  have same := @after_own before request place
  rw [onSide] at same
  have moved : (before.after request).confirmed request.side place = before.confirmed request.side place +
      (before.frozen request.side place - (before.after request).frozen request.side place) :=
    if_pos confirm
  have words := @confirm_words (counter (sideOf before.basket request.side) place) request.in_num
  rw [moved]
  rcases @settle_each FrozeVolume.confirm request.in_num request.in_sCustId (sideOf before.basket request.side) place
    limited with kept | ⟨-, changed⟩
  · rw [kept] at same
    simp only [EtfLedger.free, EtfLedger.frozen, same] at sum ⊢
    omega
  · rw [changed] at same
    simp only [EtfLedger.free, EtfLedger.frozen, same, words.1] at sum ⊢
    omega

end Requests

theorem start_whole (limits : EtfLimits) : Whole (.start limits) := by
  intro side place _
  cases side <;> cases place <;> rfl

theorem withinLimits_iff {before after : EtfLedger} {request : EtfRequest} (whole : Whole before)
    (step : EtfStep before request after) :
    (WithinLimits before request after ↔ Covered before request) ∧ (Covered before request → Whole after) := by
  cases step
  have code : request.kind = .froze → (request.operate before.basket).1 = 0 := by
    intro froze
    rw [operate_code]
    simp only [EtfRequest.onSide, froze, froze_code]
  cases kind : request.kind with
  | froze =>
    have kept := @froze_covered before request kind whole
    refine ⟨⟨?_, ?_⟩, fun covered => (kept covered).2⟩
    · intro within
      exact covered_of_counts kind whole (within.counts kind (code kind))
    · intro covered
      exact ⟨fun _ _ => (kept covered).1, fun _ refused => absurd (code kind) refused, (kept covered).2.within⟩
  | defroze =>
    obtain ⟨kept, covered⟩ := @defroze_covered_iff before request kind whole
    have other : request.kind ≠ .froze := by rw [kind]; decide
    refine ⟨⟨fun within => covered within.within, fun covered => ?_⟩, kept⟩
    exact ⟨fun froze => absurd froze other, fun froze => absurd froze other, (kept covered).within⟩
  | confirm =>
    have kept := @confirm_whole before request kind whole
    have other : request.kind ≠ .froze := by rw [kind]; decide
    have covered : Covered before request := by simp only [Covered, kind]
    refine ⟨⟨fun _ => covered, fun _ => ?_⟩, fun _ => kept⟩
    exact ⟨fun froze => absurd froze other, fun froze => absurd froze other, kept.within⟩

/-- The runs from a fresh basket all of whose requests are within the limits are those
whose freezes and releases are covered. -/
theorem run_withinLimits_iff (limits : EtfLimits) (requests : List EtfRequest) (last : EtfLedger) :
    Run (fun before request after => EtfStep before request after ∧ WithinLimits before request after)
        (.start limits) requests last ↔
      Run (Steps.guarded EtfStep Covered) (.start limits) requests last := by
  refine Run.lawful_iff_guarded ?_ ?_ (start_whole limits)
  · intro before request after whole step
    exact (withinLimits_iff whole step).1
  · intro before request after whole step within
    obtain ⟨exact, kept⟩ := withinLimits_iff whole step
    exact kept (exact.mp within)

/-- A fund of which 100 may be created in a day. -/
def hundredOnly : EtfLimits where
  creation := { limit := 100 }

/-- A freeze of 150 of them. -/
def oneAndAHalf : EtfRequest := ⟨.froze, .creation, 150, "0001"⟩

/-- The freeze succeeds although it does not fit. -/
theorem freeze_beyond_limit_succeeds :
    (oneAndAHalf.operate (EtfLedger.start hundredOnly).basket).1 = 0 ∧
      ∀ after, EtfStep (.start hundredOnly) oneAndAHalf after →
        ¬ WithinLimits (.start hundredOnly) oneAndAHalf after := by
  refine ⟨by decide, ?_⟩
  intro after step within
  obtain ⟨fits, -⟩ := within.counts rfl (by decide) total trivial (by decide)
  revert fits
  decide

end Simutgw.Proofs.EtfLimits
