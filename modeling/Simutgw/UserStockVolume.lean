import Simutgw.FrozeVolume

/-! What one account holds of one security. The holding is kept in seven
counters: the total, and the parts it came from. Every freeze draws first on one
part and then on the available balance; the four freezes differ in that part and
in where they put it back when the request is not covered. -/

namespace Simutgw

/-- The counters of a holding, by the part of the balance they count. -/
inductive Bucket where
  | stk
  | actPch
  | stpPch
  | etfRdp
  | crt
  | avl
  | last
  deriving DecidableEq, Repr

structure UserStockVolume where
  stored : Bool := false
  stkBalance : FrozeVolume := {}
  stkActPchBalance : FrozeVolume := {}
  stkStpPchBalance : FrozeVolume := {}
  stkEtfRdpBalance : FrozeVolume := {}
  stkCrtBalance : FrozeVolume := {}
  stkAvlBalance : FrozeVolume := {}
  stkLastBalance : FrozeVolume := {}
  deriving Repr, DecidableEq

namespace UserStockVolume

/-- A freeze's return code and what it reported drawing from its first bucket and
from the available balance. A refused freeze reports its partial amounts. -/
structure Drawn where
  code : Int
  first : UInt64
  avl : UInt64
  volume : UserStockVolume

structure Changed where
  code : Int
  volume : UserStockVolume

structure Queried where
  code : Int
  max : UInt64
  deriving DecidableEq

/-- What a synchronisation reports: for the total, for each counter it writes,
and the last balance's previous value. -/
structure Synced where
  stk : UInt64 × UInt64
  first : UInt64 × UInt64
  avl : Option (UInt64 × UInt64)
  lastOrigin : UInt64
  volume : UserStockVolume

/-- The constructor that reads a row of the database. -/
def create (stored : Bool) (stk actPch stpPch etfRdp crt avl last : UInt64) : UserStockVolume where
  stored := stored
  stkBalance := FrozeVolume.init {} stk
  stkActPchBalance := FrozeVolume.init {} actPch
  stkStpPchBalance := FrozeVolume.init {} stpPch
  stkEtfRdpBalance := FrozeVolume.init {} etfRdp
  stkCrtBalance := FrozeVolume.init {} crt
  stkAvlBalance := FrozeVolume.init {} avl
  stkLastBalance := FrozeVolume.init {} last

def get (self : UserStockVolume) : Bucket → FrozeVolume
  | .stk => self.stkBalance
  | .actPch => self.stkActPchBalance
  | .stpPch => self.stkStpPchBalance
  | .etfRdp => self.stkEtfRdpBalance
  | .crt => self.stkCrtBalance
  | .avl => self.stkAvlBalance
  | .last => self.stkLastBalance

def set (self : UserStockVolume) (bucket : Bucket) (value : FrozeVolume) : UserStockVolume :=
  match bucket with
  | .stk => { self with stkBalance := value }
  | .actPch => { self with stkActPchBalance := value }
  | .stpPch => { self with stkStpPchBalance := value }
  | .etfRdp => { self with stkEtfRdpBalance := value }
  | .crt => { self with stkCrtBalance := value }
  | .avl => { self with stkAvlBalance := value }
  | .last => { self with stkLastBalance := value }

/-- The source's own guard before it releases a bucket: nothing to release, no call. -/
def putBack (self : UserStockVolume) (bucket : Bucket) (amount : UInt64) : UserStockVolume :=
  if amount ≠ 0 then self.set bucket ((self.get bucket).defroze amount).volume else self

def frozeStkBalance (self : UserStockVolume) (froze : UInt64) : Changed :=
  let total := self.stkBalance.froze froze
  if total.code ≠ 0 then ⟨-1, { self with stkBalance := total.volume }⟩
  else ⟨0, { self with stkBalance := total.volume }⟩

def deFrozeStkBalance (self : UserStockVolume) (froze : UInt64) : Changed :=
  let total := self.stkBalance.defroze froze
  if total.code ≠ 0 then ⟨-1, { self with stkBalance := total.volume }⟩
  else ⟨0, { self with stkBalance := total.volume }⟩

/-- The body the four freezes share. When the first bucket covers the request the
call returns at once; `rollback` is the bucket a refused freeze gives the first
part back to. -/
def frozeFrom (first rollback : Bucket) (self : UserStockVolume) (froze : UInt64) : Drawn :=
  let part := (self.get first).froze froze
  let drained := self.set first part.volume
  if part.maxfroze = froze then ⟨0, part.maxfroze, 0, drained⟩
  else
    let rest := (drained.get .avl).froze (froze - part.maxfroze)
    let drained := drained.set .avl rest.volume
    if part.maxfroze + rest.maxfroze < froze then
      ⟨-1, part.maxfroze, rest.maxfroze, (drained.putBack rollback part.maxfroze).putBack .avl rest.maxfroze⟩
    else
      let total := drained.frozeStkBalance froze
      ⟨total.code, part.maxfroze, rest.maxfroze, total.volume⟩

/-- The body the four releases share. -/
def deFrozeTo (first : Bucket) (self : UserStockVolume) (part avl : UInt64) : Changed :=
  let one := (self.get first).defroze part
  if part ≠ 0 ∧ one.code ≠ 0 then ⟨-1, self.set first one.volume⟩
  else
    let self := if part ≠ 0 then self.set first one.volume else self
    let two := (self.get .avl).defroze avl
    if avl ≠ 0 ∧ two.code ≠ 0 then ⟨-1, self.set .avl two.volume⟩
    else
      let self := if avl ≠ 0 then self.set .avl two.volume else self
      self.deFrozeStkBalance (part + avl)

/-- The body the four confirms share. `checked` says whether the total's own
result is the call's result; the creation and redemption confirms ignore it. -/
def confirmFrom (first : Bucket) (checked : Bool) (self : UserStockVolume) (part avl : UInt64) : Changed :=
  let one := (self.get first).confirm part
  if part ≠ 0 ∧ one.code ≠ 0 then ⟨-1, self.set first one.volume⟩
  else
    let self := if part ≠ 0 then self.set first one.volume else self
    let two := (self.get .avl).confirm avl
    if avl ≠ 0 ∧ two.code ≠ 0 then ⟨-1, self.set .avl two.volume⟩
    else
      let self := if avl ≠ 0 then self.set .avl two.volume else self
      let total := self.stkBalance.confirm (part + avl)
      ⟨if checked then total.code else 0, { self with stkBalance := total.volume }⟩

def sellFroze := frozeFrom .etfRdp .etfRdp
def sellDeFroze := deFrozeTo .etfRdp
def sellConfirm := confirmFrom .etfRdp true

def sellEtfFroze := frozeFrom .crt .crt
def sellEtfDeFroze := deFrozeTo .crt
def sellEtfConfirm := confirmFrom .crt true

-- Both refused freezes below put the bought shares back as redeemed ones.
def creationFroze := frozeFrom .actPch .etfRdp
def creationDeFroze := deFrozeTo .actPch
def creationConfirm := confirmFrom .actPch false

def redemptionFroze := frozeFrom .actPch .etfRdp
def redemptionDeFroze := deFrozeTo .actPch
def redemptionConfirm := confirmFrom .actPch false

def creationQuery (self : UserStockVolume) (query : UInt64) : Queried :=
  let act := self.stkActPchBalance.query query
  if act.code = 0 then ⟨0, query⟩
  else
    let avl := self.stkAvlBalance.query (query - act.maxAvl)
    ⟨avl.code, act.maxAvl + avl.maxAvl⟩

/-- The body the three additions share. -/
def addTo (bucket : Bucket) (self : UserStockVolume) (num : UInt64) : UserStockVolume :=
  let self := self.set bucket ((self.get bucket).add num)
  { self with stkBalance := self.stkBalance.add num }

def addAct := addTo .actPch
def addCrt := addTo .crt
def addRdp := addTo .etfRdp

/-- The body of the synchronisations that write one counter besides the total. -/
def dbSynOne (bucket : Bucket) (self : UserStockVolume) : Synced :=
  let stk := self.stkBalance.dbSyn
  let self := { self with stkBalance := stk.volume }
  let one := (self.get bucket).dbSyn
  let self := self.set bucket one.volume
  let last := self.stkLastBalance.resetSyn stk.origin
  ⟨(stk.origin, stk.update), (one.origin, one.update), none, last.1, { self with stkLastBalance := last.2 }⟩

/-- The body of the synchronisations that also write the available balance. -/
def dbSynTwo (bucket : Bucket) (self : UserStockVolume) : Synced :=
  let stk := self.stkBalance.dbSyn
  let self := { self with stkBalance := stk.volume }
  let one := (self.get bucket).dbSyn
  let self := self.set bucket one.volume
  let two := self.stkAvlBalance.dbSyn
  let self := { self with stkAvlBalance := two.volume }
  let last := self.stkLastBalance.resetSyn stk.origin
  ⟨(stk.origin, stk.update), (one.origin, one.update), some (two.origin, two.update), last.1,
    { self with stkLastBalance := last.2 }⟩

def sellDBSyn := dbSynTwo .etfRdp
def sellEtfDBSyn := dbSynTwo .crt
def creationComponentDBSyn := dbSynTwo .actPch
def creationEtfDBSyn := dbSynOne .crt
def addActSyn := dbSynOne .actPch
def addEtfSyn := dbSynOne .crt
def rdpEtfSyn := dbSynTwo .actPch
def addRdpComponentSyn := dbSynOne .etfRdp

@[simp] theorem get_set_same (self : UserStockVolume) (bucket : Bucket) (value : FrozeVolume) :
    (self.set bucket value).get bucket = value := by
  cases bucket <;> rfl

@[simp] theorem get_set_other (self : UserStockVolume) {bucket other : Bucket} (value : FrozeVolume)
    (different : other ≠ bucket) : (self.set bucket value).get other = self.get other := by
  cases bucket <;> cases other <;> first | rfl | exact absurd rfl different

@[simp] theorem set_set (self : UserStockVolume) (bucket : Bucket) (value other : FrozeVolume) :
    (self.set bucket value).set bucket other = self.set bucket other := by
  cases bucket <;> rfl

@[simp] theorem set_get (self : UserStockVolume) (bucket : Bucket) : self.set bucket (self.get bucket) = self := by
  cases bucket <;> rfl

theorem set_comm (self : UserStockVolume) {bucket other : Bucket} (value second : FrozeVolume)
    (different : bucket ≠ other) :
    (self.set bucket value).set other second = (self.set other second).set bucket value := by
  cases bucket <;> cases other <;> first | rfl | exact absurd rfl different

@[simp] theorem stkBalance_eq (self : UserStockVolume) : self.stkBalance = self.get .stk := rfl

@[simp] theorem with_stkBalance (self : UserStockVolume) (value : FrozeVolume) :
    { self with stkBalance := value } = self.set .stk value := rfl

theorem putBack_eq (self : UserStockVolume) (bucket : Bucket) (amount : UInt64) :
    self.putBack bucket amount = self.set bucket ((self.get bucket).defroze amount).volume := by
  unfold putBack
  split
  next => rfl
  next nothing =>
    rw [Decidable.not_not.mp nothing, FrozeVolume.defroze_zero, set_get]

theorem frozeStkBalance_eq (self : UserStockVolume) (froze : UInt64) :
    self.frozeStkBalance froze = ⟨0, self.set .stk ((self.get .stk).froze froze).volume⟩ := by
  simp [frozeStkBalance]

theorem deFrozeStkBalance_eq (self : UserStockVolume) (froze : UInt64) :
    self.deFrozeStkBalance froze = ⟨0, self.set .stk ((self.get .stk).defroze froze).volume⟩ := by
  simp [deFrozeStkBalance]

end UserStockVolume
end Simutgw
