import Mathlib.Data.UInt

/-! The structs the binary gateway puts on the wire. They are packed to single
bytes, so a struct in memory is its members one after the other, and the words of
the host have their low byte first. -/

namespace Simutgw.Binary

/-- A struct with its `sizeof` and its bytes as they lie in memory. -/
class Packed (Struct : Type) where
  sizeof : Nat
  bytes : Struct → List UInt8
  bytes_length : ∀ value, (bytes value).length = sizeof

/-- The bytes of a number in a word of the host of this width. -/
def hostBytes : Nat → Nat → List UInt8
  | 0, _ => []
  | width + 1, number => UInt8.ofNat number :: hostBytes width (number / 256)

@[simp] theorem hostBytes_length (width number : Nat) : (hostBytes width number).length = width := by
  induction width generalizing number with
  | zero => rfl
  | succ width ih => rw [hostBytes, List.length_cons, ih]

def uint16 (number : UInt16) : List UInt8 := hostBytes 2 number.toNat

def uint32 (number : UInt32) : List UInt8 := hostBytes 4 number.toNat

def int64 (number : Int64) : List UInt8 := hostBytes 8 number.toUInt64.toNat

@[simp] theorem uint16_length (number : UInt16) : (uint16 number).length = 2 := hostBytes_length 2 _

@[simp] theorem uint32_length (number : UInt32) : (uint32 number).length = 4 := hostBytes_length 4 _

@[simp] theorem int64_length (number : Int64) : (int64 number).length = 8 := hostBytes_length 8 _

structure BinaryLogon where
  senderCompId : Vector UInt8 20
  targetCompId : Vector UInt8 20
  heartBtInt : UInt32
  password : Vector UInt8 16
  defaultApplVerID : Vector UInt8 32

instance : Packed BinaryLogon where
  sizeof := 20 + 20 + 4 + 16 + 32
  bytes logon :=
    logon.senderCompId.toList ++ logon.targetCompId.toList ++ uint32 logon.heartBtInt ++
      logon.password.toList ++ logon.defaultApplVerID.toList
  bytes_length _ := by simp

structure PlatformStateInfo where
  platformID : UInt16
  platformState : UInt16

instance : Packed PlatformStateInfo where
  sizeof := 2 + 2
  bytes info := uint16 info.platformID ++ uint16 info.platformState
  bytes_length _ := by simp

structure ReportSynchronization where
  reportIndex : Int64

instance : Packed ReportSynchronization where
  sizeof := 8
  bytes synch := int64 synch.reportIndex
  bytes_length _ := by simp

structure NewOrder where
  applID : Vector UInt8 3
  submittingPBUID : Vector UInt8 6
  securityID : Vector UInt8 8
  securityIDSource : Vector UInt8 4
  ownerType : UInt16
  clearingFirm : Vector UInt8 2
  transactTime : Int64
  userInfo : Vector UInt8 8
  clOrdID : Vector UInt8 10
  accountID : Vector UInt8 12
  branchID : Vector UInt8 4
  orderRestrictions : Vector UInt8 4
  side : UInt8
  ordType : UInt8
  orderQty : Int64
  price : Int64

instance : Packed NewOrder where
  sizeof := 3 + 6 + 8 + 4 + 2 + 2 + 8 + 8 + 10 + 12 + 4 + 4 + 1 + 1 + 8 + 8
  bytes order :=
    order.applID.toList ++ order.submittingPBUID.toList ++ order.securityID.toList ++
      order.securityIDSource.toList ++ uint16 order.ownerType ++ order.clearingFirm.toList ++
      int64 order.transactTime ++ order.userInfo.toList ++ order.clOrdID.toList ++ order.accountID.toList ++
      order.branchID.toList ++ order.orderRestrictions.toList ++ [order.side] ++ [order.ordType] ++
      int64 order.orderQty ++ int64 order.price
  bytes_length _ := by simp

structure NewOrderExt100101 where
  stopPx : Int64
  minQty : Int64
  maxPriceLevels : UInt16
  timeInForce : UInt8
  cashMargin : UInt8

instance : Packed NewOrderExt100101 where
  sizeof := 8 + 8 + 2 + 1 + 1
  bytes ext :=
    int64 ext.stopPx ++ int64 ext.minQty ++ uint16 ext.maxPriceLevels ++ [ext.timeInForce] ++ [ext.cashMargin]
  bytes_length _ := by simp

structure ExecutionReport where
  reportIndex : Int64
  applID : Vector UInt8 3
  reportingPBUID : Vector UInt8 6
  submittingPBUID : Vector UInt8 6
  securityID : Vector UInt8 8
  securityIDSource : Vector UInt8 4
  ownerType : UInt16
  clearingFirm : Vector UInt8 2
  transactTime : Int64
  userInfo : Vector UInt8 8
  orderID : Vector UInt8 16
  clOrdID : Vector UInt8 10
  origClOrdID : Vector UInt8 10
  execID : Vector UInt8 16
  execType : UInt8
  ordStatus : UInt8
  ordRejReason : UInt16
  leavesQty : Int64
  cumQty : Int64
  side : UInt8
  ordType : UInt8
  orderQty : Int64
  price : Int64
  accountID : Vector UInt8 12
  branchID : Vector UInt8 4
  orderRestrictions : Vector UInt8 4

instance : Packed ExecutionReport where
  sizeof :=
    8 + 3 + 6 + 6 + 8 + 4 + 2 + 2 + 8 + 8 + 16 + 10 + 10 + 16 + 1 + 1 + 2 + 8 + 8 + 1 + 1 + 8 + 8 + 12 + 4 + 4
  bytes report :=
    int64 report.reportIndex ++ report.applID.toList ++ report.reportingPBUID.toList ++
      report.submittingPBUID.toList ++ report.securityID.toList ++ report.securityIDSource.toList ++
      uint16 report.ownerType ++ report.clearingFirm.toList ++ int64 report.transactTime ++
      report.userInfo.toList ++ report.orderID.toList ++ report.clOrdID.toList ++ report.origClOrdID.toList ++
      report.execID.toList ++ [report.execType] ++ [report.ordStatus] ++ uint16 report.ordRejReason ++
      int64 report.leavesQty ++ int64 report.cumQty ++ [report.side] ++ [report.ordType] ++
      int64 report.orderQty ++ int64 report.price ++ report.accountID.toList ++ report.branchID.toList ++
      report.orderRestrictions.toList
  bytes_length _ := by simp

structure ExecutionReportExt200102 where
  stopPx : Int64
  minQty : Int64
  maxPriceLevels : UInt16
  timeInForce : UInt8
  cashMargin : UInt8

instance : Packed ExecutionReportExt200102 where
  sizeof := 8 + 8 + 2 + 1 + 1
  bytes ext :=
    int64 ext.stopPx ++ int64 ext.minQty ++ uint16 ext.maxPriceLevels ++ [ext.timeInForce] ++ [ext.cashMargin]
  bytes_length _ := by simp

structure ExecutionReportMatched where
  reportIndex : Int64
  applID : Vector UInt8 3
  reportingPBUID : Vector UInt8 6
  submittingPBUID : Vector UInt8 6
  securityID : Vector UInt8 8
  securityIDSource : Vector UInt8 4
  ownerType : UInt16
  clearingFirm : Vector UInt8 2
  transactTime : Int64
  userInfo : Vector UInt8 8
  orderID : Vector UInt8 16
  clOrdID : Vector UInt8 10
  execID : Vector UInt8 16
  execType : UInt8
  ordStatus : UInt8
  lastPx : Int64
  lastQty : Int64
  leavesQty : Int64
  cumQty : Int64
  side : UInt8
  accountID : Vector UInt8 12
  branchID : Vector UInt8 4

instance : Packed ExecutionReportMatched where
  sizeof := 8 + 3 + 6 + 6 + 8 + 4 + 2 + 2 + 8 + 8 + 16 + 10 + 16 + 1 + 1 + 8 + 8 + 8 + 8 + 1 + 12 + 4
  bytes report :=
    int64 report.reportIndex ++ report.applID.toList ++ report.reportingPBUID.toList ++
      report.submittingPBUID.toList ++ report.securityID.toList ++ report.securityIDSource.toList ++
      uint16 report.ownerType ++ report.clearingFirm.toList ++ int64 report.transactTime ++
      report.userInfo.toList ++ report.orderID.toList ++ report.clOrdID.toList ++ report.execID.toList ++
      [report.execType] ++ [report.ordStatus] ++ int64 report.lastPx ++ int64 report.lastQty ++
      int64 report.leavesQty ++ int64 report.cumQty ++ [report.side] ++ report.accountID.toList ++
      report.branchID.toList
  bytes_length _ := by simp

structure ExecutionReportMatchedExt200115 where
  cashMargin : UInt8

instance : Packed ExecutionReportMatchedExt200115 where
  sizeof := 1
  bytes ext := [ext.cashMargin]
  bytes_length _ := rfl

end Simutgw.Binary
