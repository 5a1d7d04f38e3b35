import Simutgw.OrderMessage

/-! The baskets of the exchange-traded funds, as the creation and redemption
code reads them. Ratios are exact rationals where the source has doubles. -/

namespace Simutgw

/-- The values of the substitution flag the source tests for; it is an `int`. -/
def onlySecurity : Int := 0
def securityAndCash : Int := 1
def onlyCash : Int := 2

structure SzEtfComponent where
  underlyingSecurityID : String := ""
  componentShare : UInt64 := 0
  substituteFlag : Int := 0
  premiumRatio : Rat := 0
  creationCashSubstitute : UInt64 := 0
  redemptionCashSubstitute : UInt64 := 0
  deriving DecidableEq

structure SzEtf where
  creationRedemptionUnit : UInt64 := 0
  maxCashRatio : Rat := 0
  creation : Bool := false
  redemption : Bool := false
  navPerCU : UInt64 := 0
  components : List SzEtfComponent := []
  deriving DecidableEq

end Simutgw
