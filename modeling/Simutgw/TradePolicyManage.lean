import Std.Data.TreeMap.Lemmas
import Simutgw.OrderMessage

/-! The trading policies of the connections. In Shenzhen a seat of a connection may
have a policy of its own, in Shanghai there are policies of connections only. What the
two exchanges keep is written and read by itself. -/

namespace Simutgw
open Std

/-- The five settings that a policy is made of in the calls of the manager. -/
structure Policy where
  runMode : SysRunMode
  checkAsset : Bool
  matchMode : SysMatchMode
  quotType : QuotationType
  partMatchNum : UInt32
deriving DecidableEq, Repr

namespace TradePolicyCell

def set (cell : TradePolicyCell) (policy : Policy) : TradePolicyCell :=
  { cell with
    runMode := policy.runMode
    checkAssets := policy.checkAsset
    matchMode := policy.matchMode
    quotationMatchType := policy.quotType
    partMatchNum := policy.partMatchNum }

/-- What the readers take out of a cell. -/
def policy (cell : TradePolicyCell) : Policy :=
  ⟨cell.runMode, cell.checkAssets, cell.matchMode, cell.quotationMatchType, cell.partMatchNum⟩

@[simp] theorem policy_set (cell : TradePolicyCell) (policy : Policy) : (cell.set policy).policy = policy := rfl

end TradePolicyCell

structure ConnTradePolicyCell where
  stSelf : TradePolicyCell := {}
  mapSeats : TreeMap String TradePolicyCell := ∅

structure TradePolicyManage where
  mapSzPolicy : TreeMap String ConnTradePolicyCell := ∅
  mapShPolicy : TreeMap String TradePolicyCell := ∅

namespace TradePolicyManage

variable (manage : TradePolicyManage) (in_strConnId in_strSeatName : String) (policy global : Policy)

def setSz : Int × TradePolicyManage :=
  if in_strConnId = "" then (-1, manage)
  else
    match manage.mapSzPolicy[in_strConnId]? with
    | none =>
      let ptr : ConnTradePolicyCell := {}
      let ptr := { ptr with stSelf := ptr.stSelf.set policy }
      (0, { manage with mapSzPolicy := manage.mapSzPolicy.insert in_strConnId ptr })
    | some conn =>
      let conn := { conn with stSelf := conn.stSelf.set policy }
      (0, { manage with mapSzPolicy := manage.mapSzPolicy.insert in_strConnId conn })

def setSzSeat : Int × TradePolicyManage :=
  if in_strConnId = "" then (-1, manage)
  else if in_strSeatName = "" then (-1, manage)
  else
    match manage.mapSzPolicy[in_strConnId]? with
    | none =>
      -- The connection is new as well, and starts with the policy of the seat.
      let ptrConn : ConnTradePolicyCell := {}
      let ptrConn := { ptrConn with stSelf := ptrConn.stSelf.set policy }
      let ptrSeat := ({} : TradePolicyCell).set policy
      let ptrConn := { ptrConn with mapSeats := ptrConn.mapSeats.insert in_strSeatName ptrSeat }
      (0, { manage with mapSzPolicy := manage.mapSzPolicy.insert in_strConnId ptrConn })
    | some conn =>
      match conn.mapSeats[in_strSeatName]? with
      | none =>
        let ptrSeat := ({} : TradePolicyCell).set policy
        let conn := { conn with mapSeats := conn.mapSeats.insert in_strSeatName ptrSeat }
        (0, { manage with mapSzPolicy := manage.mapSzPolicy.insert in_strConnId conn })
      | some seat =>
        let conn := { conn with mapSeats := conn.mapSeats.insert in_strSeatName (seat.set policy) }
        (0, { manage with mapSzPolicy := manage.mapSzPolicy.insert in_strConnId conn })

def setSh : Int × TradePolicyManage :=
  if in_strConnId = "" then (-1, manage)
  else
    match manage.mapShPolicy[in_strConnId]? with
    | none =>
      (0, { manage with mapShPolicy := manage.mapShPolicy.insert in_strConnId (({} : TradePolicyCell).set policy) })
    | some cell => (0, { manage with mapShPolicy := manage.mapShPolicy.insert in_strConnId (cell.set policy) })

/-- The readers return a code and fill the five settings. `global` is the policy of the
configuration, 1 the code of the default. -/
def getSz : Int × Policy :=
  if in_strConnId = "" then (1, global)
  else
    match manage.mapSzPolicy[in_strConnId]? with
    | none => (0, global)
    | some conn => (0, conn.stSelf.policy)

def getSzSeat : Int × Policy :=
  if in_strConnId = "" then (1, global)
  else if in_strSeatName = "" then (1, global)
  else
    match manage.mapSzPolicy[in_strConnId]? with
    | none => (0, global)
    | some conn =>
      match conn.mapSeats[in_strSeatName]? with
      | none => (0, conn.stSelf.policy)
      | some seat => (0, seat.policy)

def getSh : Int × Policy :=
  if in_strConnId = "" then (1, global)
  else
    match manage.mapShPolicy[in_strConnId]? with
    | none => (0, global)
    | some cell => (0, cell.policy)

end TradePolicyManage

/-- What a policy is kept for. -/
inductive PolicyKey
  | sz (conn : String)
  | szSeat (conn seat : String)
  | sh (conn : String)
deriving DecidableEq

namespace TradePolicyManage

/-- The writer that a key belongs to. -/
def set (manage : TradePolicyManage) (policy : Policy) : PolicyKey → Int × TradePolicyManage
  | .sz conn => manage.setSz conn policy
  | .szSeat conn seat => manage.setSzSeat conn seat policy
  | .sh conn => manage.setSh conn policy

/-- The reader that a key belongs to. -/
def get (manage : TradePolicyManage) (global : Policy) : PolicyKey → Int × Policy
  | .sz conn => manage.getSz conn global
  | .szSeat conn seat => manage.getSzSeat conn seat global
  | .sh conn => manage.getSh conn global

/-- The manager after a history of calls of the writers. -/
def after (calls : List (PolicyKey × Policy)) : TradePolicyManage :=
  calls.foldl (fun manage call => (manage.set call.2 call.1).2) {}

end TradePolicyManage

end Simutgw
