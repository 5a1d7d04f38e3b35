import Simutgw.FrozeVolume
import Mathlib.Logic.Function.Basic

/-! What may be created and redeemed of an exchange-traded fund in a day: in total, by
each account, and each of these for the net amount. A limit of zero stands for none.
The baskets of all funds are in one map. -/

namespace Simutgw

/-- The limits of one side, as the fund's configuration has them. -/
structure EtfSideLimits where
  limit : UInt64 := 0
  limitPerUser : UInt64 := 0
  netLimit : UInt64 := 0
  netLimitPerUser : UInt64 := 0

/-- The limits of `SzETF`. -/
structure EtfLimits where
  creation : EtfSideLimits := {}
  redemption : EtfSideLimits := {}

/-- The configured limits and the counters of one side of a basket. An account has a
counter of its own from its first freeze on. -/
structure EtfSide where
  limits : EtfSideLimits
  limit : FrozeVolume
  limitPerUser : String → Option FrozeVolume
  netLimit : FrozeVolume
  netLimitPerUser : String → Option FrozeVolume

namespace EtfSide

def ofLimits (limits : EtfSideLimits) : EtfSide where
  limits := limits
  limit := FrozeVolume.init {} limits.limit
  limitPerUser _ := none
  netLimit := FrozeVolume.init {} limits.netLimit
  netLimitPerUser _ := none

/-- The total, the account's part, and the same for the net amounts. The result of the
net total is not looked at: what is tested after it is the result before it. -/
def froze (in_num : UInt64) (in_sCustId : String) (side : EtfSide) : Int × EtfSide :=
  if in_num = 0 ∨ in_sCustId.isEmpty then (0, side)
  else
    let total := side.limit.froze in_num
    let side := { side with limit := total.volume }
    if total.code ≠ 0 then (-1, side)
    else
      let user := ((side.limitPerUser in_sCustId).getD (FrozeVolume.init {} side.limits.limitPerUser)).froze in_num
      let iRes := if side.limits.limitPerUser ≠ 0 then user.code else total.code
      let side :=
        if side.limits.limitPerUser ≠ 0 then
          { side with limitPerUser := Function.update side.limitPerUser in_sCustId (some user.volume) }
        else side
      if side.limits.limitPerUser ≠ 0 ∧ iRes ≠ 0 then
        (-1, { side with limit := (side.limit.defroze in_num).volume })
      else
        let side := { side with netLimit := (side.netLimit.froze in_num).volume }
        let userBack : EtfSide → EtfSide := fun side =>
          if side.limits.limitPerUser ≠ 0 then
            { side with limitPerUser :=
                Function.update side.limitPerUser in_sCustId (some (user.volume.defroze in_num).volume) }
          else side
        if iRes ≠ 0 then (-1, userBack { side with limit := (side.limit.defroze in_num).volume })
        else if side.limits.netLimitPerUser ≠ 0 then
          let netUser :=
            ((side.netLimitPerUser in_sCustId).getD (FrozeVolume.init {} side.limits.netLimitPerUser)).froze in_num
          let side :=
            { side with netLimitPerUser := Function.update side.netLimitPerUser in_sCustId (some netUser.volume) }
          if netUser.code ≠ 0 then
            (-1, userBack { side with
              limit := (side.limit.defroze in_num).volume
              netLimit := (side.netLimit.defroze in_num).volume })
          else (0, side)
        else (0, side)

/-- The part of a release or a confirmation for the net amounts. The result of the
total is not looked at. -/
def settleNet (change : FrozeVolume → UInt64 → FrozeVolume.Changed) (in_num : UInt64) (in_sCustId : String)
    (side : EtfSide) : Int × EtfSide :=
  let side := { side with netLimit := (change side.netLimit in_num).volume }
  if side.limits.netLimitPerUser ≠ 0 then
    match side.netLimitPerUser in_sCustId with
    | none => (-1, side)
    | some counter =>
      let user := change counter in_num
      let side := { side with netLimitPerUser := Function.update side.netLimitPerUser in_sCustId (some user.volume) }
      if user.code ≠ 0 then (-1, side) else (0, side)
  else (0, side)

/-- A release or a confirmation of what is frozen. An account without a counter ends it
with the counters before changed. -/
def settle (change : FrozeVolume → UInt64 → FrozeVolume.Changed) (in_num : UInt64) (in_sCustId : String)
    (side : EtfSide) : Int × EtfSide :=
  if in_num = 0 ∨ in_sCustId.isEmpty then (0, side)
  else
    let total := change side.limit in_num
    let side := { side with limit := total.volume }
    if total.code ≠ 0 then (-1, side)
    else if side.limits.limitPerUser ≠ 0 then
      match side.limitPerUser in_sCustId with
      | none => (-1, side)
      | some counter =>
        let user := change counter in_num
        let side := { side with limitPerUser := Function.update side.limitPerUser in_sCustId (some user.volume) }
        if user.code ≠ 0 then (-1, side) else settleNet change in_num in_sCustId side
    else settleNet change in_num in_sCustId side

end EtfSide

structure EtfTradeVolumeBasket where
  creation : EtfSide
  redemption : EtfSide

namespace EtfTradeVolumeBasket

def ofLimits (limits : EtfLimits) : EtfTradeVolumeBasket where
  creation := EtfSide.ofLimits limits.creation
  redemption := EtfSide.ofLimits limits.redemption

def onCreation (operation : EtfSide → Int × EtfSide) (basket : EtfTradeVolumeBasket) : Int × EtfTradeVolumeBasket :=
  let (code, creation) := operation basket.creation
  (code, { basket with creation := creation })

def onRedemption (operation : EtfSide → Int × EtfSide) (basket : EtfTradeVolumeBasket) :
    Int × EtfTradeVolumeBasket :=
  let (code, redemption) := operation basket.redemption
  (code, { basket with redemption := redemption })

def frozeCreation (in_num : UInt64) (in_sCustId : String) : EtfTradeVolumeBasket → Int × EtfTradeVolumeBasket :=
  onCreation (EtfSide.froze in_num in_sCustId)

def defrozeCreation (in_num : UInt64) (in_sCustId : String) : EtfTradeVolumeBasket → Int × EtfTradeVolumeBasket :=
  onCreation (EtfSide.settle FrozeVolume.defroze in_num in_sCustId)

def confirmCreation (in_num : UInt64) (in_sCustId : String) : EtfTradeVolumeBasket → Int × EtfTradeVolumeBasket :=
  onCreation (EtfSide.settle FrozeVolume.confirm in_num in_sCustId)

def frozeRedemption (in_num : UInt64) (in_sCustId : String) : EtfTradeVolumeBasket → Int × EtfTradeVolumeBasket :=
  onRedemption (EtfSide.froze in_num in_sCustId)

def defrozeRedemption (in_num : UInt64) (in_sCustId : String) : EtfTradeVolumeBasket → Int × EtfTradeVolumeBasket :=
  onRedemption (EtfSide.settle FrozeVolume.defroze in_num in_sCustId)

def confirmRedemption (in_num : UInt64) (in_sCustId : String) : EtfTradeVolumeBasket → Int × EtfTradeVolumeBasket :=
  onRedemption (EtfSide.settle FrozeVolume.confirm in_num in_sCustId)

end EtfTradeVolumeBasket

namespace EtfTradeVolume

abbrev Baskets := String → Option EtfTradeVolumeBasket

/-- A call's code, the key of the basket it worked on, if any, and the map after it. -/
structure Called where
  code : Int
  key : Option String
  etfsTv : Baskets

/-- The basket is looked up by the security, and a new one is put in by the customer,
which fails where the customer has one. -/
def call (fresh : EtfTradeVolumeBasket) (operation : EtfTradeVolumeBasket → Int × EtfTradeVolumeBasket)
    (in_sSecurityId in_sCustId : String) (etfsTv : Baskets) : Called :=
  let worked (key : String) (basket : EtfTradeVolumeBasket) : Called :=
    let (iRes, basket) := operation basket
    ⟨if iRes ≠ 0 then -1 else 0, some key, Function.update etfsTv key (some basket)⟩
  match etfsTv in_sSecurityId with
  | some basket => worked in_sSecurityId basket
  | none =>
    match etfsTv in_sCustId with
    | some _ => ⟨-1, none, etfsTv⟩
    | none => worked in_sCustId fresh

def frozeCreation (in_num : UInt64) (in_sSecurityId in_sCustId : String) (in_ptrEtf : EtfLimits) : Baskets → Called :=
  call (.ofLimits in_ptrEtf) (EtfTradeVolumeBasket.frozeCreation in_num in_sCustId) in_sSecurityId in_sCustId

def defrozeCreation (in_num : UInt64) (in_sSecurityId in_sCustId : String) : Baskets → Called :=
  call (.ofLimits {}) (EtfTradeVolumeBasket.defrozeCreation in_num in_sCustId) in_sSecurityId in_sCustId

def confirmCreation (in_num : UInt64) (in_sSecurityId in_sCustId : String) : Baskets → Called :=
  call (.ofLimits {}) (EtfTradeVolumeBasket.confirmCreation in_num in_sCustId) in_sSecurityId in_sCustId

def frozeRedemption (in_num : UInt64) (in_sSecurityId in_sCustId : String) (in_ptrEtf : EtfLimits) :
    Baskets → Called :=
  call (.ofLimits in_ptrEtf) (EtfTradeVolumeBasket.frozeRedemption in_num in_sCustId) in_sSecurityId in_sCustId

def defrozeRedemption (in_num : UInt64) (in_sSecurityId in_sCustId : String) : Baskets → Called :=
  call (.ofLimits {}) (EtfTradeVolumeBasket.defrozeRedemption in_num in_sCustId) in_sSecurityId in_sCustId

def confirmRedemption (in_num : UInt64) (in_sSecurityId in_sCustId : String) : Baskets → Called :=
  call (.ofLimits {}) (EtfTradeVolumeBasket.confirmRedemption in_num in_sCustId) in_sSecurityId in_sCustId

end EtfTradeVolume

end Simutgw
