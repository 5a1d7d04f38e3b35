import Mathlib.Data.List.Nodup
import Simutgw.Logic.Runs
import Simutgw.Proofs.DecimalText
import Simutgw.Proofs.QuoteIssue
import Simutgw.QuoteBoard

/-! What a circle has left of each view of a security's quote. A circle dates all
its volumes with one time, so a volume it holds from an earlier quote comes back to
life when another is written under the current one. -/

namespace Simutgw.QuoteBoard
open Logic SofString TgwStringUtil MarketInfoHelper TgwMarketInfoProc Proofs.DecimalText

/-- A text with no underscore, as the security codes are. -/
def Plain (text : String) : Prop := '_' ∉ text.toList

instance (text : String) : Decidable (Plain text) := inferInstanceAs (Decidable (¬ _))

theorem append_cons_inj {sep : Char} {first second left right : List Char} (plain : sep ∉ first)
    (plain' : sep ∉ second) : first ++ sep :: left = second ++ sep :: right ↔ first = second ∧ left = right := by
  induction first generalizing second with
  | nil =>
    cases second with
    | nil => simp
    | cons char second =>
      rw [List.mem_cons, not_or] at plain'
      simp [plain'.1]
  | cons char first ih =>
    rw [List.mem_cons, not_or] at plain
    cases second with
    | nil => simp [Ne.symm plain.1]
    | cons other second =>
      rw [List.mem_cons, not_or] at plain'
      simp only [List.cons_append, List.cons.injEq]
      rw [ih plain.2 plain'.2, and_assoc]

theorem joined_inj {first second left right : String} (plain : Plain first) (plain' : Plain second) :
    first ++ "_" ++ left = second ++ "_" ++ right ↔ first = second ∧ left = right := by
  rw [← String.toList_inj, ← String.toList_inj, ← String.toList_inj]
  simp only [String.toList_append, List.append_assoc]
  exact append_cons_inj plain plain'

theorem circleField_eq (stockID name circle : String) :
    circleField stockID name circle = stockID ++ "_" ++ (name ++ "_" ++ circle) := by
  rw [← String.toList_inj]
  simp only [circleField, String.toList_append, List.append_assoc]

theorem circleField_inj {stockID name circle other name' circle' : String} (plain : Plain stockID)
    (plain' : Plain other) (named : Plain name) (named' : Plain name') :
    circleField stockID name circle = circleField other name' circle' ↔
      stockID = other ∧ name = name' ∧ circle = circle' := by
  rw [circleField_eq, circleField_eq, joined_inj plain plain', joined_inj named named']

theorem liveField_inj {stockID name other name' : String} (plain : Plain stockID) (plain' : Plain other) :
    liveField stockID name = liveField other name' ↔ stockID = other ∧ name = name' :=
  joined_inj plain plain'

theorem liveField_ne_circleField {stockID name other name' circle : String} (plain : Plain stockID)
    (plain' : Plain other) (named : Plain name) : liveField stockID name ≠ circleField other name' circle := by
  rw [circleField_eq]
  intro same
  obtain ⟨-, rfl⟩ := (joined_inj plain plain').mp same
  apply named
  simp

theorem View.names_plain (view : View) : Plain view.names.1 ∧ Plain view.names.2 := by
  cases view <;> decide

theorem viewOf_cases {quotationType : QuotationType} {order : OrderMessage} {view : View}
    (viewed : viewOf quotationType order = some view) :
    (quotationType = .averagePrice ∧ view = .interval) ∨
      (quotationType = .sellBuyPrice ∧ order.buys = true ∧ view = .bestSell) ∨
      (quotationType = .sellBuyPrice ∧ order.buys = false ∧ order.sells = true ∧ view = .bestBuy) ∨
      (quotationType = .recentMatchPrice ∧ view = .recent) := by
  cases quotationType with
  | averagePrice => exact .inl ⟨rfl, (Option.some.inj viewed).symm⟩
  | recentMatchPrice => exact .inr (.inr (.inr ⟨rfl, (Option.some.inj viewed).symm⟩))
  | sellBuyPrice =>
    simp only [viewOf] at viewed
    split at viewed
    next buys => exact .inr (.inl ⟨rfl, buys, (Option.some.inj viewed).symm⟩)
    next notBuys =>
      split at viewed
      next sells =>
        exact .inr (.inr (.inl ⟨rfl, Bool.eq_false_iff.mpr notBuys, sells, (Option.some.inj viewed).symm⟩))
      next => cases viewed

theorem circleNames_eq {quotationType : QuotationType} {order : OrderMessage} {view : View}
    (viewed : viewOf quotationType order = some view) : circleNames quotationType order = view.names := by
  obtain ⟨rfl, rfl⟩ | ⟨rfl, buys, rfl⟩ | ⟨rfl, notBuys, sells, rfl⟩ | ⟨rfl, rfl⟩ := viewOf_cases viewed
  · rfl
  · simp [circleNames, buys, View.names]
  · simp [circleNames, notBuys, sells, View.names]
  · rfl

theorem besideVolume_eq {quotationType : QuotationType} {order : OrderMessage} {view : View}
    (viewed : viewOf quotationType order = some view) (cjsl cjje : UInt64) :
    besideVolume quotationType cjsl cjje = itostr (view.beside cjsl cjje) := by
  have priced : (if cjsl ≠ 0 then itostr (cjje / cjsl) else "0") = itostr (if cjsl ≠ 0 then cjje / cjsl else 0) := by
    split <;> rfl
  obtain ⟨rfl, rfl⟩ | ⟨rfl, buys, rfl⟩ | ⟨rfl, notBuys, sells, rfl⟩ | ⟨rfl, rfl⟩ := viewOf_cases viewed
  · rfl
  · exact priced
  · exact priced
  · exact priced

theorem getCurrQuotGapByCircle_eq {ptime : String → Option Int} {hash : Hash String String} {order : OrderMessage}
    {quotationType : QuotationType} {view : View} (viewed : viewOf quotationType order = some view)
    {circle : String} (named : order.stockID.isEmpty = false) (placed : circle.isEmpty = false) :
    getCurrQuotGapByCircle ptime hash order circle quotationType =
      gapByCircle ptime view.turnover hash order.stockID circle (some view.names) := by
  simp only [getCurrQuotGapByCircle, named, placed, Bool.or_self, Bool.false_eq_true, if_false]
  obtain ⟨rfl, rfl⟩ | ⟨rfl, buys, rfl⟩ | ⟨rfl, notBuys, sells, rfl⟩ | ⟨rfl, rfl⟩ := viewOf_cases viewed
  · rfl
  · simp only [getCurrQuotGapByCircleSellBuyPrice, buys, if_true]
    rfl
  · simp only [getCurrQuotGapByCircleSellBuyPrice, notBuys, sells, if_true]
    rfl
  · rfl

theorem getCurrQuotGapByCircle_unviewed {ptime : String → Option Int} {hash : Hash String String}
    {order : OrderMessage} {quotationType : QuotationType} {circle : String} {quote : Quote}
    (found : getCurrQuotGapByCircle ptime hash order circle quotationType = .ok quote) :
    order.stockID.isEmpty = false ∧ circle.isEmpty = false ∧ ∃ view, viewOf quotationType order = some view := by
  unfold getCurrQuotGapByCircle at found
  split at found
  next => cases found
  next given =>
    simp only [Bool.or_eq_true, not_or, Bool.not_eq_true] at given
    refine ⟨given.1, given.2, ?_⟩
    cases quotationType with
    | averagePrice => exact ⟨_, rfl⟩
    | recentMatchPrice => exact ⟨_, rfl⟩
    | sellBuyPrice =>
      simp only [viewOf]
      cases buys : order.buys with
      | true => exact ⟨_, rfl⟩
      | false =>
        cases sells : order.sells with
        | true => exact ⟨_, rfl⟩
        | false =>
          simp [getCurrQuotGapByCircleSellBuyPrice, gapByCircle, gapFields, Hash.get, buys, sells, given] at found

/-- A quote whose words and time read back as they were. -/
structure Sound (ptime : String → Option Int) (live : Live) : Prop where
  timed : live.quot.hqsj.isEmpty = false
  clocked : (ptime live.quot.hqsj).isSome
  flagged : live.quot.tpbz.isEmpty = false
  limits : live.quot.maxgain.toNat < 2 ^ 63 ∧ live.quot.minfall.toNat < 2 ^ 63
  words : ∀ view, (live.capacity view).1.toNat < 2 ^ 63 ∧ (live.capacity view).2.toNat < 2 ^ 63

/-- The hash shows the quote as it was stored. -/
def Shown (hash : Hash String String) (live : Live) : Prop :=
  ∀ pair ∈ volumeTexts live.quot live.gapCjsl live.gapCjje, hash (liveField live.quot.zqdm pair.1) = some pair.2

/-- A time written for the quote, or for one more than a millisecond before it. -/
def Before (ptime : String → Option Int) (text : String) (live : Live) : Prop :=
  text.isEmpty = false ∧ (text = live.quot.hqsj ∨
    ∃ time now, ptime text = some time ∧ ptime live.quot.hqsj = some now ∧ time + 1000 ≤ now)

theorem Shown.capacity {hash : Hash String String} {live : Live} (shown : Shown hash live) (view : View) :
    hash (liveField live.quot.zqdm view.names.1) = some (itostr (live.capacity view).1) ∧
      hash (liveField live.quot.zqdm view.names.2) = some (itostr (live.capacity view).2) := by
  refine ⟨shown (view.names.1, itostr (live.capacity view).1) ?_,
    shown (view.names.2, itostr (live.capacity view).2) ?_⟩
  · cases view <;> simp [volumeTexts, View.names, Live.capacity]
  · cases view <;> simp [volumeTexts, View.names, Live.capacity]

theorem Shown.rest {hash : Hash String String} {live : Live} (shown : Shown hash live) :
    hash (liveField live.quot.zqdm "maxgain") = some (itostr live.quot.maxgain) ∧
      hash (liveField live.quot.zqdm "minfall") = some (itostr live.quot.minfall) ∧
      hash (liveField live.quot.zqdm "OrigTime") = some live.quot.hqsj ∧
      hash (liveField live.quot.zqdm "TPBZ") = some live.quot.tpbz :=
  ⟨shown ("maxgain", itostr live.quot.maxgain) (by simp [volumeTexts]),
    shown ("minfall", itostr live.quot.minfall) (by simp [volumeTexts]),
    shown ("OrigTime", live.quot.hqsj) (by simp [volumeTexts]),
    shown ("TPBZ", live.quot.tpbz) (by simp [volumeTexts])⟩

/-- The quote a read answers with, for the volume and the word beside it. -/
def answer (live : Live) (view : View) (capacity : UInt64 × UInt64) : Quote where
  maxGain := live.quot.maxgain
  minFall := live.quot.minfall
  cjsl := capacity.1
  cjje := view.turnover capacity.1 capacity.2
  hqsj := live.quot.hqsj
  tpbz := live.quot.tpbz

theorem read_circle {ptime : String → Option Int} {hash : Hash String String} {live : Live} {circle : String}
    {view : View} {capacity : UInt64 × UInt64} (named : live.quot.zqdm.isEmpty = false)
    (placed : circle.isEmpty = false) (sound : Sound ptime live) (shown : Shown hash live)
    (dated : hash (circleField live.quot.zqdm "OrigTime" circle) = some live.quot.hqsj)
    (volume : hash (circleField live.quot.zqdm view.names.1 circle) = some (itostr capacity.1))
    (priced : hash (circleField live.quot.zqdm view.names.2 circle) = some (itostr capacity.2))
    (small : capacity.1.toNat < 2 ^ 63 ∧ capacity.2.toNat < 2 ^ 63) :
    gapByCircle ptime view.turnover hash live.quot.zqdm circle (some view.names) =
      .ok (answer live view capacity) := by
  obtain ⟨liveVolume, livePriced⟩ := shown.capacity view
  obtain ⟨maxgain, minfall, hqsj, tpbz⟩ := shown.rest
  obtain ⟨now, clocked⟩ := Option.isSome_iff_exists.mp sound.clocked
  simp [gapByCircle, gapFields, Hash.get, named, placed, liveVolume, livePriced, maxgain, minfall, hqsj, tpbz, dated,
    volume, priced, sound.timed, sound.flagged, compareTime, clocked, answer, string2UInt64_itostr small.1,
    string2UInt64_itostr small.2, string2UInt64_itostr sound.limits.1, string2UInt64_itostr sound.limits.2]

/-- A read takes the quote's own capacity where the circle has none of the view, or
has one of an earlier quote. -/
theorem read_live {ptime : String → Option Int} {hash : Hash String String} {live : Live} {circle : String}
    {view : View} (named : live.quot.zqdm.isEmpty = false) (placed : circle.isEmpty = false)
    (sound : Sound ptime live) (shown : Shown hash live)
    (unused : hash (circleField live.quot.zqdm view.names.2 circle) = none ∨
      hash (circleField live.quot.zqdm "OrigTime" circle) = none ∨
      ∃ text, hash (circleField live.quot.zqdm "OrigTime" circle) = some text ∧ text ≠ live.quot.hqsj ∧
        Before ptime text live) :
    gapByCircle ptime view.turnover hash live.quot.zqdm circle (some view.names) =
      .ok (answer live view (live.capacity view)) := by
  obtain ⟨liveVolume, livePriced⟩ := shown.capacity view
  obtain ⟨maxgain, minfall, hqsj, tpbz⟩ := shown.rest
  have words := sound.words view
  simp only [gapByCircle, gapFields, Hash.get, named, placed, liveVolume, livePriced, maxgain, minfall, hqsj, tpbz,
    List.map_cons, List.map_nil, List.cons_append, List.nil_append, Option.getD_some, itostr_isEmpty,
    sound.timed, sound.flagged, Bool.or_self, Bool.false_eq_true, if_false, string2UInt64_itostr words.1,
    string2UInt64_itostr words.2, string2UInt64_itostr sound.limits.1, string2UInt64_itostr sound.limits.2]
  split
  next => rfl
  next used =>
    simp only [Bool.or_eq_true, not_or, Bool.not_eq_true] at used
    obtain none' | none' | ⟨text, dated, other, -, same | ⟨time, now, timed, clocked, earlier⟩⟩ := unused
    · simp [none'] at used
    · simp [none'] at used
    · exact absurd same other
    · have apart : (now - time).tdiv 1000 ≠ 0 := by
        rw [Int.tdiv_eq_ediv_of_nonneg (by omega)]
        omega
      simp [compareTime, dated, timed, clocked, apart, answer]

/-- When a circle of the board was last written. -/
def dated (board : Board) (stockID circle : String) : Option String :=
  board.store.tradeVolume (circleField stockID "OrigTime" circle)

/-- What an order is to read: what the last match of its view wrote back on the
current quote, or the quote's own capacity. -/
def capacity (board : Board) (live : Live) (circle : String) (view : View) : UInt64 × UInt64 :=
  (board.written live.quot.zqdm circle view).getD (live.capacity view)

/-- Every read of every circle answers with what is left there of the order's view. -/
def Faithful (ptime : String → Option Int) (board : Board) : Prop :=
  ∀ order circle quotationType view live, circle.isEmpty = false → order.stockID.isEmpty = false →
    viewOf quotationType order = some view → board.live order.stockID = some live →
    getCurrQuotGapByCircle ptime board.store.tradeVolume order circle quotationType =
      .ok (answer live view (capacity board live circle view))

/-- A match leaves what every other view, circle and security reads as it is. -/
def Undisturbed (ptime : String → Option Int) (before after : Board) (matching : Matching) : Prop :=
  ∀ order circle quotationType view live, circle.isEmpty = false → order.stockID.isEmpty = false →
    viewOf quotationType order = some view → before.live order.stockID = some live →
    ¬ (order.stockID = matching.order.stockID ∧ circle = matching.circle ∧
      viewOf matching.order.tradePolicy.quotationMatchType matching.order = some view) →
    getCurrQuotGapByCircle ptime after.store.tradeVolume order circle quotationType =
      getCurrQuotGapByCircle ptime before.store.tradeVolume order circle quotationType

/-- What a match under way must meet when it writes back: the system's type is the
order's; the other views its circle holds are of the current quote too, in volumes
of their own; and a match that read an earlier quote finds nothing of the current one. -/
def WritesAlone (board : Board) (matching : Matching) (live : Live) : Prop :=
  let order := matching.order
  let date := dated board order.stockID matching.circle
  if matching.quote.hqsj = live.quot.hqsj then
    ∀ view other, viewOf order.tradePolicy.quotationMatchType order = some view → other ≠ view →
      (board.store.tradeVolume (circleField order.stockID other.names.2 matching.circle)).isSome →
      date = some live.quot.hqsj ∧ other.names.1 ≠ view.names.1
  else date ≠ some live.quot.hqsj

def Meets (ptime : String → Option Int) (board : Board) : Event → Prop
  | .quot quot =>
    let gap := (readRealMarketInfo ptime board.store {} quot).1
    gap.code = 0 → Plain quot.zqdm ∧ Sound ptime ⟨quot, gap.cjsl, gap.cjje⟩
  | .read _ order _ => Plain order.stockID
  | .write id systemType cjsl cjje =>
    ∀ matching, board.matching id = some matching →
      systemType = matching.order.tradePolicy.quotationMatchType ∧ cjsl.toNat < 2 ^ 63 ∧ cjje.toNat < 2 ^ 63 ∧
        ∀ live, board.live matching.order.stockID = some live → WritesAlone board matching live

/-- What every event that meets its condition preserves. -/
structure Kept (ptime : String → Option Int) (board : Board) : Prop where
  quoted : ∀ stockID live, board.live stockID = some live →
    live.quot.zqdm = stockID ∧ Plain stockID ∧ Sound ptime live ∧ Shown board.store.tradeVolume live
  record : ∀ stockID, (getCurrentQuotationByStockId board.store true stockID).map PreviousQuot.hqsj =
    (board.live stockID).map fun live => live.quot.hqsj
  blank : ∀ stockID rest, Plain stockID → board.live stockID = none →
    board.store.tradeVolume (stockID ++ "_" ++ rest) = none
  dates : ∀ stockID circle live text, board.live stockID = some live → dated board stockID circle = some text →
    Before ptime text live
  current : ∀ stockID circle view live, board.live stockID = some live →
    dated board stockID circle = some live.quot.hqsj →
    match board.written stockID circle view with
    | none => board.store.tradeVolume (circleField stockID view.names.2 circle) = none
    | some left =>
      board.store.tradeVolume (circleField stockID view.names.1 circle) = some (itostr left.1) ∧
        board.store.tradeVolume (circleField stockID view.names.2 circle) = some (itostr left.2) ∧
        left.1.toNat < 2 ^ 63 ∧ left.2.toNat < 2 ^ 63
  stale : ∀ stockID circle view live, board.live stockID = some live →
    dated board stockID circle ≠ some live.quot.hqsj → board.written stockID circle view = none
  underWay : ∀ id matching, board.matching id = some matching →
    matching.order.stockID.isEmpty = false ∧ matching.circle.isEmpty = false ∧
      (∃ view, viewOf matching.order.tradePolicy.quotationMatchType matching.order = some view) ∧
      ∃ live, board.live matching.order.stockID = some live ∧ Before ptime matching.quote.hqsj live

theorem Kept.faithful {ptime : String → Option Int} {board : Board} (kept : Kept ptime board) :
    Faithful ptime board := by
  intro order circle quotationType view live placed named viewed lives
  obtain ⟨same, plain, sound, shown⟩ := kept.quoted _ _ lives
  rw [getCurrQuotGapByCircle_eq viewed named placed, ← same]
  rw [← same] at named lives
  unfold capacity
  by_cases dates : dated board live.quot.zqdm circle = some live.quot.hqsj
  · have current := kept.current _ circle view live lives dates
    cases written : board.written live.quot.zqdm circle view with
    | none =>
      rw [written] at current
      exact read_live named placed sound shown (.inl current)
    | some left =>
      rw [written] at current
      obtain ⟨volume, priced, small⟩ := current
      exact read_circle named placed sound shown dates volume priced small
  · rw [kept.stale _ circle view live lives dates]
    apply read_live named placed sound shown
    cases date : dated board live.quot.zqdm circle with
    | none => exact .inr (.inl date)
    | some text =>
      refine .inr (.inr ⟨text, date, ?_, kept.dates _ _ _ _ lives date⟩)
      rintro rfl
      exact dates date

theorem Kept.reads {ptime : String → Option Int} {board : Board} {order : OrderMessage} {circle : String}
    {quotationType : QuotationType} {quote : Quote} (kept : Kept ptime board) (plain : Plain order.stockID)
    (found : getCurrQuotGapByCircle ptime board.store.tradeVolume order circle quotationType = .ok quote) :
    order.stockID.isEmpty = false ∧ circle.isEmpty = false ∧ (∃ view, viewOf quotationType order = some view) ∧
      ∃ live, board.live order.stockID = some live ∧ quote.hqsj = live.quot.hqsj := by
  obtain ⟨named, placed, view, viewed⟩ := getCurrQuotGapByCircle_unviewed found
  refine ⟨named, placed, ⟨view, viewed⟩, ?_⟩
  cases lives : board.live order.stockID with
  | none =>
    have blank (name : String) : board.store.tradeVolume (liveField order.stockID name) = none :=
      kept.blank _ name plain lives
    rw [getCurrQuotGapByCircle_eq viewed named placed] at found
    simp [gapByCircle, gapFields, Hash.get, named, placed, blank] at found
  | some live =>
    rw [kept.faithful order circle quotationType view live placed named viewed lives] at found
    cases found
    exact ⟨live, rfl, rfl⟩

theorem read_kept {ptime : String → Option Int} {board : Board} {id : Nat} {order : OrderMessage} {circle : String}
    (kept : Kept ptime board) (plain : Plain order.stockID) : Kept ptime (read ptime board id order circle) := by
  unfold read
  split
  next => exact kept
  next quote found =>
    refine ⟨kept.quoted, kept.record, kept.blank, kept.dates, kept.current, kept.stale, ?_⟩
    intro other matching taken
    simp only [Function.update_apply] at taken
    split at taken
    next =>
      cases taken
      obtain ⟨named, placed, viewed, live, lives, now⟩ := kept.reads plain found
      exact ⟨named, placed, viewed, live, lives, now ▸ (kept.quoted _ _ lives).2.2.1.timed, .inl now⟩
    next => exact kept.underWay other matching taken

theorem View.names_apart (view : View) :
    view.names.1 ≠ view.names.2 ∧ view.names.1 ≠ "OrigTime" ∧ view.names.2 ≠ "OrigTime" := by
  cases view <;> decide

/-- Views may share the volume, never what stands beside it. -/
theorem View.names_other {view other : View} (different : other ≠ view) :
    other.names.2 ≠ view.names.2 ∧ other.names.2 ≠ view.names.1 ∧ other.names.1 ≠ view.names.2 := by
  cases view <;> cases other <;> first | exact absurd rfl different | decide

theorem origTime_plain : Plain "OrigTime" := by decide

theorem write_fields (hash : Hash String String) {order : OrderMessage} {quotationType : QuotationType} {view : View}
    (circle : String) (cjsl cjje : UInt64) (hqsj : String) (plain : Plain order.stockID)
    (viewed : viewOf quotationType order = some view) :
    (hash.set (setCurrQuotGapByCircle quotationType order circle cjsl cjje hqsj))
        (circleField order.stockID view.names.1 circle) = some (itostr cjsl) ∧
      (hash.set (setCurrQuotGapByCircle quotationType order circle cjsl cjje hqsj))
        (circleField order.stockID view.names.2 circle) = some (itostr (view.beside cjsl cjje)) ∧
      (hash.set (setCurrQuotGapByCircle quotationType order circle cjsl cjje hqsj))
        (circleField order.stockID "OrigTime" circle) = some hqsj ∧
      ∀ field, field ≠ circleField order.stockID view.names.1 circle →
        field ≠ circleField order.stockID view.names.2 circle → field ≠ circleField order.stockID "OrigTime" circle →
        hash.set (setCurrQuotGapByCircle quotationType order circle cjsl cjje hqsj) field = hash field := by
  have pairs : setCurrQuotGapByCircle quotationType order circle cjsl cjje hqsj =
      [(circleField order.stockID view.names.1 circle, itostr cjsl),
        (circleField order.stockID view.names.2 circle, itostr (view.beside cjsl cjje)),
        (circleField order.stockID "OrigTime" circle, hqsj)] := by
    simp only [setCurrQuotGapByCircle, volumeField, circleNames_eq viewed, besideVolume_eq viewed]
  obtain ⟨volumePlain, besidePlain⟩ := view.names_plain
  obtain ⟨apart, volumeTime, besideTime⟩ := view.names_apart
  have once : ((setCurrQuotGapByCircle quotationType order circle cjsl cjje hqsj).map Prod.fst).Nodup := by
    simp [pairs, circleField_inj plain plain volumePlain besidePlain,
      circleField_inj plain plain volumePlain origTime_plain, circleField_inj plain plain besidePlain origTime_plain,
      apart, volumeTime, besideTime]
  refine ⟨Hash.set_of_mem _ (by simp [pairs]) once, Hash.set_of_mem _ (by simp [pairs]) once,
    Hash.set_of_mem _ (by simp [pairs]) once, ?_⟩
  intro field notVolume notBeside notTime
  apply Hash.set_of_notMem
  simp [pairs, notVolume, notBeside, notTime]

/-- The write-back of a match that meets its condition, as the proofs below see it. -/
structure Written (board after : Board) (matching : Matching) (view : View) (cjsl cjje : UInt64) : Prop where
  viewed : viewOf matching.order.tradePolicy.quotationMatchType matching.order = some view
  quots : after.store.quots = board.store.quots
  live : after.live = board.live
  written : after.written = writtenBack board matching cjsl cjje
  volume : after.store.tradeVolume (circleField matching.order.stockID view.names.1 matching.circle) =
    some (itostr cjsl)
  beside : after.store.tradeVolume (circleField matching.order.stockID view.names.2 matching.circle) =
    some (itostr (view.beside cjsl cjje))
  date : dated after matching.order.stockID matching.circle = some matching.quote.hqsj
  rest : ∀ field, field ≠ circleField matching.order.stockID view.names.1 matching.circle →
    field ≠ circleField matching.order.stockID view.names.2 matching.circle →
    field ≠ circleField matching.order.stockID "OrigTime" matching.circle →
    after.store.tradeVolume field = board.store.tradeVolume field
  underWay : ∀ id matching, after.matching id = some matching → board.matching id = some matching

theorem write_written {ptime : String → Option Int} {board after : Board} {id : Nat} {systemType : QuotationType}
    {cjsl cjje : UInt64} (kept : Kept ptime board)
    (typed : ∀ matching, board.matching id = some matching →
      systemType = matching.order.tradePolicy.quotationMatchType)
    (taken : write board id systemType cjsl cjje = some after) :
    ∃ matching view, board.matching id = some matching ∧ Written board after matching view cjsl cjje := by
  obtain ⟨matching, found, rfl⟩ := Option.map_eq_some_iff.mp taken
  obtain rfl := typed matching found
  obtain ⟨-, -, ⟨view, viewed⟩, live, lives, -⟩ := kept.underWay id matching found
  have plain := (kept.quoted _ _ lives).2.1
  obtain ⟨volume, beside, date, rest⟩ := write_fields board.store.tradeVolume matching.circle cjsl cjje
    matching.quote.hqsj plain viewed
  refine ⟨matching, view, found, viewed, rfl, rfl, rfl, volume, beside, date, rest, ?_⟩
  intro other matching' under
  simp only [Function.update_apply] at under
  split at under
  next => cases under
  next => exact under

theorem volumeTexts_plain {quot : AStockQuot} {gapCjsl gapCjje : UInt64} (pair : String × String)
    (found : pair ∈ volumeTexts quot gapCjsl gapCjje) : Plain pair.1 := by
  have names : ∀ name ∈ ["maxgain", "minfall", "TPBZ", "CJSL", "CJJE", "SJW1", "SSL1", "BJW1", "BSL1", "ZJJG",
      "OrigTime"], Plain name := by decide
  exact names pair.1 (List.mem_map_of_mem found)

theorem View.beside_small (view : View) {cjsl cjje : UInt64} (small : cjje.toNat < 2 ^ 63) :
    (view.beside cjsl cjje).toNat < 2 ^ 63 := by
  have divided : (cjje / cjsl).toNat ≤ cjje.toNat := by
    rw [UInt64.toNat_div]
    exact Nat.div_le_self _ _
  have priced : (if cjsl ≠ 0 then cjje / cjsl else 0).toNat < 2 ^ 63 := by
    split
    next => omega
    next => decide
  cases view with
  | interval => exact small
  | bestSell => exact priced
  | bestBuy => exact priced
  | recent => exact priced

theorem Written.shown {board after : Board} {matching : Matching} {view : View} {cjsl cjje : UInt64} {live : Live}
    (written : Written board after matching view cjsl cjje) (plain : Plain matching.order.stockID)
    (plain' : Plain live.quot.zqdm) (shown : Shown board.store.tradeVolume live) :
    Shown after.store.tradeVolume live := by
  intro pair found
  have apart {name : String} : liveField live.quot.zqdm pair.1 ≠
      circleField matching.order.stockID name matching.circle :=
    liveField_ne_circleField plain' plain (volumeTexts_plain pair found)
  rw [written.rest _ apart apart apart]
  exact shown pair found

theorem Written.elsewhere {board after : Board} {matching : Matching} {view : View} {cjsl cjje : UInt64}
    {stockID name circle : String} (written : Written board after matching view cjsl cjje)
    (plain : Plain matching.order.stockID) (plain' : Plain stockID) (named : Plain name)
    (other : ¬ (stockID = matching.order.stockID ∧ circle = matching.circle)) :
    after.store.tradeVolume (circleField stockID name circle) =
      board.store.tradeVolume (circleField stockID name circle) := by
  obtain ⟨volumePlain, besidePlain⟩ := view.names_plain
  have apart {name' : String} (named' : Plain name') :
      circleField stockID name circle ≠ circleField matching.order.stockID name' matching.circle := by
    rw [Ne, circleField_inj plain' plain named named']
    rintro ⟨sameStock, -, sameCircle⟩
    exact other ⟨sameStock, sameCircle⟩
  exact written.rest _ (apart volumePlain) (apart besidePlain) (apart origTime_plain)

theorem Written.elsewhere_written {board after : Board} {matching : Matching} {view : View} {cjsl cjje : UInt64}
    {stockID circle : String} (written : Written board after matching view cjsl cjje) (view' : View)
    (other : ¬ (stockID = matching.order.stockID ∧ circle = matching.circle)) :
    after.written stockID circle view' = board.written stockID circle view' := by
  rw [written.written, writtenBack]
  split
  next =>
    apply if_neg
    rintro ⟨sameStock, sameCircle, -⟩
    exact other ⟨sameStock, sameCircle⟩
  next => rfl

theorem Written.other_name {board after : Board} {matching : Matching} {view : View} {cjsl cjje : UInt64}
    {name : String} (written : Written board after matching view cjsl cjje)
    (plain : Plain matching.order.stockID) (named : Plain name) (notVolume : name ≠ view.names.1)
    (notBeside : name ≠ view.names.2) (notTime : name ≠ "OrigTime") :
    after.store.tradeVolume (circleField matching.order.stockID name matching.circle) =
      board.store.tradeVolume (circleField matching.order.stockID name matching.circle) := by
  obtain ⟨volumePlain, besidePlain⟩ := view.names_plain
  apply written.rest
  · simp [circleField_inj plain plain named volumePlain, notVolume]
  · simp [circleField_inj plain plain named besidePlain, notBeside]
  · simp [circleField_inj plain plain named origTime_plain, notTime]

/-- On its own circle a match of the current quote records its view alone. -/
theorem Written.here_written {board after : Board} {matching : Matching} {view : View} {cjsl cjje : UInt64}
    {live : Live} (written : Written board after matching view cjsl cjje)
    (lives : board.live matching.order.stockID = some live) (now : matching.quote.hqsj = live.quot.hqsj)
    (view' : View) :
    after.written matching.order.stockID matching.circle view' =
      if view' = view then some (cjsl, view.beside cjsl cjje)
      else board.written matching.order.stockID matching.circle view' := by
  have current : ((board.live matching.order.stockID).map fun live => live.quot.hqsj) = some matching.quote.hqsj := by
    rw [lives, now]
    rfl
  rw [written.written, writtenBack, if_pos current]
  simp only [true_and, written.viewed, Option.some.injEq, eq_comm]
  split
  next same => rw [same]
  next => rfl

theorem Written.old_written {board after : Board} {matching : Matching} {view : View} {cjsl cjje : UInt64}
    {live : Live} (written : Written board after matching view cjsl cjje)
    (lives : board.live matching.order.stockID = some live) (past : matching.quote.hqsj ≠ live.quot.hqsj) :
    after.written = board.written := by
  rw [written.written, writtenBack, if_neg]
  rw [lives]
  intro same
  exact past (Option.some.inj same).symm

theorem Written.current_here {ptime : String → Option Int} {board after : Board} {matching : Matching} {view : View}
    {cjsl cjje : UInt64} {live : Live} (kept : Kept ptime board)
    (written : Written board after matching view cjsl cjje)
    (lives : board.live matching.order.stockID = some live) (now : matching.quote.hqsj = live.quot.hqsj)
    (alone : WritesAlone board matching live) (smallCjsl : cjsl.toNat < 2 ^ 63) (smallCjje : cjje.toNat < 2 ^ 63)
    (other : View) :
    match after.written matching.order.stockID matching.circle other with
    | none => after.store.tradeVolume (circleField matching.order.stockID other.names.2 matching.circle) = none
    | some left =>
      after.store.tradeVolume (circleField matching.order.stockID other.names.1 matching.circle) =
          some (itostr left.1) ∧
        after.store.tradeVolume (circleField matching.order.stockID other.names.2 matching.circle) =
          some (itostr left.2) ∧
        left.1.toNat < 2 ^ 63 ∧ left.2.toNat < 2 ^ 63 := by
  have plain := (kept.quoted _ _ lives).2.1
  rw [written.here_written lives now other]
  by_cases same : other = view
  · subst same
    rw [if_pos rfl]
    exact ⟨written.volume, written.beside, smallCjsl, other.beside_small smallCjje⟩
  · rw [if_neg same]
    obtain ⟨notBeside, notVolume, crossed⟩ := View.names_other same
    obtain ⟨-, volumeTime, besideTime⟩ := other.names_apart
    have beside := written.other_name plain other.names_plain.2 notVolume notBeside besideTime
    rw [WritesAlone, if_pos now] at alone
    cases held : board.store.tradeVolume (circleField matching.order.stockID other.names.2 matching.circle) with
    | none =>
      have unwritten : board.written matching.order.stockID matching.circle other = none := by
        by_cases dates : dated board matching.order.stockID matching.circle = some live.quot.hqsj
        · have current := kept.current _ _ other live lives dates
          cases left : board.written matching.order.stockID matching.circle other with
          | none => rfl
          | some left' =>
            rw [left, held] at current
            cases current.2.1
        · exact kept.stale _ _ other live lives dates
      rw [unwritten]
      exact beside.trans held
    | some text =>
      obtain ⟨dates, apart⟩ := alone view other written.viewed same (by rw [held]; rfl)
      have volume := written.other_name plain other.names_plain.1 apart crossed volumeTime
      have current := kept.current _ _ other live lives dates
      rw [volume, beside]
      exact current

theorem write_kept {ptime : String → Option Int} {board after : Board} {id : Nat} {systemType : QuotationType}
    {cjsl cjje : UInt64} (kept : Kept ptime board) (meets : Meets ptime board (.write id systemType cjsl cjje))
    (taken : write board id systemType cjsl cjje = some after) : Kept ptime after := by
  obtain ⟨matching, view, found, written⟩ := write_written kept (fun _ found => (meets _ found).1) taken
  obtain ⟨-, smallCjsl, smallCjje, alone⟩ := meets matching found
  obtain ⟨-, -, -, live, lives, before⟩ := kept.underWay id matching found
  have plain := (kept.quoted _ _ lives).2.1
  have alone := alone live lives
  refine ⟨?_, ?_, ?_, ?_, ?_, ?_, ?_⟩
  · intro stockID live' lives'
    rw [written.live] at lives'
    obtain ⟨same, plain', sound, shown⟩ := kept.quoted stockID live' lives'
    exact ⟨same, plain', sound, written.shown plain (same ▸ plain') shown⟩
  · intro stockID
    rw [getCurrent_congr written.quots, written.live]
    exact kept.record stockID
  · intro stockID rest plain' fresh
    rw [written.live] at fresh
    have apart {name : String} : stockID ++ "_" ++ rest ≠ circleField matching.order.stockID name matching.circle := by
      rw [circleField_eq]
      intro same
      rw [((joined_inj plain' plain).mp same).1, lives] at fresh
      cases fresh
    rw [written.rest _ apart apart apart]
    exact kept.blank stockID rest plain' fresh
  · intro stockID circle live' text lives' date
    rw [written.live] at lives'
    have plain' := (kept.quoted _ _ lives').2.1
    by_cases here : stockID = matching.order.stockID ∧ circle = matching.circle
    · obtain ⟨rfl, rfl⟩ := here
      rw [written.date] at date
      cases date
      rw [lives] at lives'
      cases lives'
      exact before
    · rw [dated, written.elsewhere plain plain' origTime_plain here] at date
      exact kept.dates _ _ _ _ lives' date
  · intro stockID circle other live' lives' date
    rw [written.live] at lives'
    have plain' := (kept.quoted _ _ lives').2.1
    by_cases here : stockID = matching.order.stockID ∧ circle = matching.circle
    · obtain ⟨rfl, rfl⟩ := here
      rw [lives] at lives'
      cases lives'
      rw [written.date] at date
      exact written.current_here kept lives (Option.some.inj date) alone smallCjsl smallCjje other
    · rw [dated, written.elsewhere plain plain' origTime_plain here] at date
      rw [written.elsewhere_written other here, written.elsewhere plain plain' other.names_plain.1 here,
        written.elsewhere plain plain' other.names_plain.2 here]
      exact kept.current _ _ other _ lives' date
  · intro stockID circle other live' lives' date
    rw [written.live] at lives'
    have plain' := (kept.quoted _ _ lives').2.1
    by_cases here : stockID = matching.order.stockID ∧ circle = matching.circle
    · obtain ⟨rfl, rfl⟩ := here
      rw [lives] at lives'
      cases lives'
      rw [written.date] at date
      have past : matching.quote.hqsj ≠ live.quot.hqsj := fun now => date (congrArg some now)
      rw [WritesAlone, if_neg past] at alone
      rw [written.old_written lives past]
      exact kept.stale _ _ other _ lives alone
    · rw [dated, written.elsewhere plain plain' origTime_plain here] at date
      rw [written.elsewhere_written other here]
      exact kept.stale _ _ other _ lives' date
  · intro other matching' under
    rw [written.live]
    exact kept.underWay other matching' (written.underWay other matching' under)

theorem readRealMarketInfo_refused {ptime : String → Option Int} {store : QuoteStore} {quot : AStockQuot}
    (refused : (calcQuotationGap ptime (getCurrentQuotationByStockId store true quot.zqdm) quot).code ≠ 0) :
    (readRealMarketInfo ptime store {} quot).2 = store := by
  simp only [readRealMarketInfo]
  rw [if_pos ((calcQuotationGap_code _ _ _).resolve_left refused)]

theorem readRealMarketInfo_volume {ptime : String → Option Int} {store : QuoteStore} {quot : AStockQuot} {gap : Gap}
    (calculated : calcQuotationGap ptime (getCurrentQuotationByStockId store true quot.zqdm) quot = gap)
    (through : gap.code = 0) :
    (readRealMarketInfo ptime store {} quot).2.tradeVolume =
      store.tradeVolume.set (volumeFields quot gap.cjsl gap.cjje) := by
  simp only [readRealMarketInfo, calculated, through]
  simp [storeSelfUseQuotation]

theorem readRealMarketInfo_quots {ptime : String → Option Int} {store : QuoteStore} {quot : AStockQuot} {gap : Gap}
    (calculated : calcQuotationGap ptime (getCurrentQuotationByStockId store true quot.zqdm) quot = gap)
    (through : gap.code = 0) :
    (readRealMarketInfo ptime store {} quot).2.quots =
      Function.update store.quots quot.zqdm ((store.quots quot.zqdm).set (quotFields quot)) := by
  simp only [readRealMarketInfo, calculated, through]
  rw [if_neg (by omega), storeSelfUseQuotation_quots, if_pos rfl]

theorem quote_fields (hash : Hash String String) (quot : AStockQuot) (gapCjsl gapCjje : UInt64) (field : String)
    (other : ∀ name, Plain name → field ≠ liveField quot.zqdm name) :
    hash.set (volumeFields quot gapCjsl gapCjje) field = hash field := by
  apply Hash.set_of_notMem
  rw [volumeFields, List.map_map, List.mem_map]
  rintro ⟨pair, found, rfl⟩
  exact other pair.1 (volumeTexts_plain pair found) rfl

theorem quote_shown (hash : Hash String String) (live : Live) (plain : Plain live.quot.zqdm) :
    Shown (hash.set (volumeFields live.quot live.gapCjsl live.gapCjje)) live := by
  intro pair found
  apply Hash.set_of_mem
  · exact List.mem_map_of_mem found
  · have names : ((volumeTexts live.quot live.gapCjsl live.gapCjje).map Prod.fst).Nodup := by simp [volumeTexts]
    have renamed : (volumeFields live.quot live.gapCjsl live.gapCjje).map Prod.fst =
        ((volumeTexts live.quot live.gapCjsl live.gapCjje).map Prod.fst).map (liveField live.quot.zqdm) := rfl
    rw [renamed]
    refine List.Nodup.map ?_ names
    intro first second same
    exact ((liveField_inj plain plain).mp same).2

/-- The quote of a record, let through, is at least a millisecond after it. -/
theorem calcQuotationGap_later {ptime : String → Option Int} {previous : PreviousQuot} {quot : AStockQuot}
    (through : (calcQuotationGap ptime (some previous) quot).code = 0) :
    ∃ time now, ptime previous.hqsj = some time ∧ ptime quot.hqsj = some now ∧ time + 1000 ≤ now := by
  unfold calcQuotationGap at through
  simp only at through
  split at through
  next => exact absurd through (by simp)
  next diff compared =>
    simp only [compareTime] at compared
    split at compared
    next time now timed clocked =>
      cases compared
      refine ⟨time, now, timed, clocked, ?_⟩
      by_contra early
      have small : (now - time).tdiv 1000 ≤ 0 := by
        by_cases ahead : 0 ≤ now - time
        · rw [Int.tdiv_eq_ediv_of_nonneg ahead]
          omega
        · have behind : 0 ≤ (time - now).tdiv 1000 := Int.tdiv_nonneg (by omega) (by omega)
          rw [← Int.neg_sub time now, Int.neg_tdiv]
          omega
      split at through
      next => exact absurd through (by simp)
      next apart =>
        rw [if_pos (by omega)] at through
        exact absurd through (by simp)
    next => cases compared

theorem Before.later {ptime : String → Option Int} {text : String} {live new : Live} {time now : Int}
    (before : Before ptime text live) (timed : ptime live.quot.hqsj = some time)
    (clocked : ptime new.quot.hqsj = some now) (later : time + 1000 ≤ now) :
    text ≠ new.quot.hqsj ∧ Before ptime text new := by
  obtain ⟨given, rfl | ⟨first, second, firstTimed, secondTimed, earlier⟩⟩ := before
  · refine ⟨?_, given, .inr ⟨time, now, timed, clocked, later⟩⟩
    intro same
    rw [same, clocked] at timed
    cases timed
    omega
  · rw [timed] at secondTimed
    cases secondTimed
    refine ⟨?_, given, .inr ⟨first, now, firstTimed, clocked, by omega⟩⟩
    rintro rfl
    rw [clocked] at firstTimed
    cases firstTimed
    omega

theorem stored_time {quots : String → Hash String String} {store : QuoteStore} {quot : AStockQuot}
    (timed : quot.hqsj.isEmpty = false)
    (stored : store.quots = Function.update quots quot.zqdm ((quots quot.zqdm).set (quotFields quot))) :
    (getCurrentQuotationByStockId store true quot.zqdm).map PreviousQuot.hqsj = some quot.hqsj := by
  have once : ((quotFields quot).map Prod.fst).Nodup := by simp [quotFields]
  have holds (field value : String) (written : (field, value) ∈ quotFields quot) :
      store.quots quot.zqdm field = some value := by
    rw [stored, Function.update_self, Hash.set_of_mem _ written once]
  have cjsl := holds "CJSL" (itostr quot.cjsl) (by simp [quotFields])
  have cjje := holds "CJJE" (itostr quot.cjje) (by simp [quotFields])
  have hqsj := holds "OrigTime" quot.hqsj (by simp [quotFields])
  simp [getCurrentQuotationByStockId, Hash.get, cjsl, cjje, hqsj, timed]

/-- A quote let through, as the proofs below see it. -/
structure Quoted (ptime : String → Option Int) (board after : Board) (live : Live) : Prop where
  plain : Plain live.quot.zqdm
  sound : Sound ptime live
  through : (calcQuotationGap ptime (getCurrentQuotationByStockId board.store true live.quot.zqdm) live.quot).code = 0
  lives : after.live = Function.update board.live live.quot.zqdm (some live)
  written : after.written = Function.update board.written live.quot.zqdm fun _ _ => none
  matching : after.matching = board.matching
  quots : after.store.quots =
    Function.update board.store.quots live.quot.zqdm ((board.store.quots live.quot.zqdm).set (quotFields live.quot))
  shown : Shown after.store.tradeVolume live
  rest : ∀ field, (∀ name, Plain name → field ≠ liveField live.quot.zqdm name) →
    after.store.tradeVolume field = board.store.tradeVolume field

theorem quoted_opens {ptime : String → Option Int} {board : Board} {quot : AStockQuot} {gap : Gap}
    (plain : Plain quot.zqdm) (sound : Sound ptime ⟨quot, gap.cjsl, gap.cjje⟩)
    (calculated : calcQuotationGap ptime (getCurrentQuotationByStockId board.store true quot.zqdm) quot = gap)
    (through : gap.code = 0) :
    Quoted ptime board (quoted ptime board quot) ⟨quot, gap.cjsl, gap.cjje⟩ := by
  have became : quoted ptime board quot =
      { board with
        store := (readRealMarketInfo ptime board.store {} quot).2
        live := Function.update board.live quot.zqdm (some ⟨quot, gap.cjsl, gap.cjje⟩)
        written := Function.update board.written quot.zqdm fun _ _ => none } := by
    simp only [quoted, readRealMarketInfo_gap, calculated]
    exact if_pos through
  have volume := readRealMarketInfo_volume calculated through
  have shown := quote_shown board.store.tradeVolume ⟨quot, gap.cjsl, gap.cjje⟩ plain
  have rest := quote_fields board.store.tradeVolume quot gap.cjsl gap.cjje
  simp only [← volume] at shown rest
  rw [became]
  exact ⟨plain, sound, calculated ▸ through, rfl, rfl, rfl, readRealMarketInfo_quots calculated through, shown, rest⟩

theorem quoted_cases {ptime : String → Option Int} {board : Board} {quot : AStockQuot}
    (meets : Meets ptime board (.quot quot)) :
    quoted ptime board quot = board ∨ ∃ live, Quoted ptime board (quoted ptime board quot) live := by
  obtain ⟨gap, calculated⟩ :
      ∃ gap, calcQuotationGap ptime (getCurrentQuotationByStockId board.store true quot.zqdm) quot = gap := ⟨_, rfl⟩
  simp only [Meets, readRealMarketInfo_gap, calculated] at meets
  by_cases through : gap.code = 0
  · obtain ⟨plain, sound⟩ := meets through
    exact .inr ⟨_, quoted_opens plain sound calculated through⟩
  · refine .inl ?_
    simp only [quoted, readRealMarketInfo_gap, calculated]
    rw [if_neg through, readRealMarketInfo_refused (calculated ▸ through)]

theorem Quoted.circles {ptime : String → Option Int} {board after : Board} {live : Live} {stockID name circle : String}
    (quoted : Quoted ptime board after live) (plain : Plain stockID) :
    after.store.tradeVolume (circleField stockID name circle) =
      board.store.tradeVolume (circleField stockID name circle) :=
  quoted.rest _ fun _ named => (liveField_ne_circleField quoted.plain plain named).symm

theorem Quoted.others {ptime : String → Option Int} {board after : Board} {live : Live} {stockID rest : String}
    (quoted : Quoted ptime board after live) (plain : Plain stockID) (other : stockID ≠ live.quot.zqdm) :
    after.store.tradeVolume (stockID ++ "_" ++ rest) = board.store.tradeVolume (stockID ++ "_" ++ rest) := by
  apply quoted.rest
  intro name _ same
  exact other ((joined_inj plain quoted.plain).mp same).1

theorem Quoted.later {ptime : String → Option Int} {board after : Board} {live old : Live} {text : String}
    (kept : Kept ptime board) (quoted : Quoted ptime board after live)
    (lives : board.live live.quot.zqdm = some old) (before : Before ptime text old) :
    text ≠ live.quot.hqsj ∧ Before ptime text live := by
  have record := kept.record live.quot.zqdm
  rw [lives] at record
  obtain ⟨previous, found, same⟩ := Option.map_eq_some_iff.mp record
  have through := quoted.through
  rw [found] at through
  obtain ⟨time, now, timed, clocked, later⟩ := calcQuotationGap_later through
  rw [same] at timed
  exact before.later timed clocked later

theorem Quoted.kept {ptime : String → Option Int} {board after : Board} {live : Live} (kept : Kept ptime board)
    (quoted : Quoted ptime board after live) : Kept ptime after := by
  have stockLive : after.live live.quot.zqdm = some live := by
    rw [quoted.lives, Function.update_self]
  have otherLive {stockID : String} (other : stockID ≠ live.quot.zqdm) :
      after.live stockID = board.live stockID := by
    rw [quoted.lives, Function.update_of_ne other]
  have unwritten : after.written live.quot.zqdm = fun _ _ => none := by
    rw [quoted.written, Function.update_self]
  have otherWritten {stockID : String} (other : stockID ≠ live.quot.zqdm) :
      after.written stockID = board.written stockID := by
    rw [quoted.written, Function.update_of_ne other]
  have earlier {circle text : String} (date : dated after live.quot.zqdm circle =
      some text) : text ≠ live.quot.hqsj ∧ Before ptime text live := by
    rw [dated, quoted.circles quoted.plain] at date
    cases old : board.live live.quot.zqdm with
    | none =>
      rw [circleField_eq, kept.blank _ _ quoted.plain old] at date
      cases date
    | some old' => exact quoted.later kept old (kept.dates _ _ _ _ old date)
  refine ⟨?_, ?_, ?_, ?_, ?_, ?_, ?_⟩
  · intro stockID live' lives'
    by_cases same : stockID = live.quot.zqdm
    · subst same
      rw [stockLive] at lives'
      cases lives'
      exact ⟨rfl, quoted.plain, quoted.sound, quoted.shown⟩
    · rw [otherLive same] at lives'
      obtain ⟨rfl, plain, sound, shown⟩ := kept.quoted _ _ lives'
      refine ⟨rfl, plain, sound, ?_⟩
      intro pair found
      exact (quoted.others plain same).trans (shown pair found)
  · intro stockID
    by_cases same : stockID = live.quot.zqdm
    · subst same
      rw [stockLive, stored_time quoted.sound.timed quoted.quots]
      rfl
    · rw [otherLive same, ← kept.record stockID]
      simp only [getCurrentQuotationByStockId, quoted.quots, Function.update_of_ne same]
  · intro stockID rest plain fresh
    by_cases same : stockID = live.quot.zqdm
    · rw [same, stockLive] at fresh
      cases fresh
    · rw [otherLive same] at fresh
      exact (quoted.others plain same).trans (kept.blank stockID rest plain fresh)
  · intro stockID circle live' text lives' date
    by_cases same : stockID = live.quot.zqdm
    · subst same
      rw [stockLive] at lives'
      cases lives'
      exact (earlier date).2
    · rw [otherLive same] at lives'
      rw [dated, quoted.circles (kept.quoted _ _ lives').2.1] at date
      exact kept.dates _ _ _ _ lives' date
  · intro stockID circle view live' lives' date
    by_cases same : stockID = live.quot.zqdm
    · subst same
      rw [stockLive] at lives'
      cases lives'
      exact absurd rfl (earlier date).1
    · rw [otherLive same] at lives'
      have plain := (kept.quoted _ _ lives').2.1
      rw [dated, quoted.circles plain] at date
      rw [otherWritten same, quoted.circles plain, quoted.circles plain]
      exact kept.current _ _ _ _ lives' date
  · intro stockID circle view live' lives' date
    by_cases same : stockID = live.quot.zqdm
    · rw [same, unwritten]
    · rw [otherLive same] at lives'
      rw [dated, quoted.circles (kept.quoted _ _ lives').2.1] at date
      rw [otherWritten same]
      exact kept.stale _ _ _ _ lives' date
  · intro id matching under
    rw [quoted.matching] at under
    obtain ⟨named, placed, viewed, live', lives', before⟩ := kept.underWay id matching under
    refine ⟨named, placed, viewed, ?_⟩
    by_cases same : matching.order.stockID = live.quot.zqdm
    · rw [same] at lives' ⊢
      exact ⟨live, stockLive, (quoted.later kept lives' before).2⟩
    · exact ⟨live', (otherLive same).trans lives', before⟩

theorem quoted_kept {ptime : String → Option Int} {board : Board} {quot : AStockQuot} (kept : Kept ptime board)
    (meets : Meets ptime board (.quot quot)) : Kept ptime (quoted ptime board quot) := by
  obtain same | ⟨live, became⟩ := quoted_cases meets
  · rw [same]
    exact kept
  · exact became.kept kept

theorem step_kept {ptime : String → Option Int} {before after : Board} {event : Event} (kept : Kept ptime before)
    (taken : step ptime before event = some after) (meets : Meets ptime before event) : Kept ptime after := by
  cases event with
  | quot quot =>
    cases taken
    exact quoted_kept kept meets
  | read id order circle =>
    cases taken
    exact read_kept kept meets
  | write id systemType cjsl cjje => exact write_kept kept meets taken

theorem empty_kept (ptime : String → Option Int) : Kept ptime {} := by
  refine ⟨?_, fun _ => rfl, fun _ _ _ _ => rfl, ?_, ?_, ?_, ?_⟩
  · intro stockID live lives
    cases lives
  · intro stockID circle live text lives
    cases lives
  · intro stockID circle view live lives
    cases lives
  · intro stockID circle view live lives
    cases lives
  · intro id matching under
    cases under

theorem run_kept {ptime : String → Option Int} {events : List Event} {last : Board}
    (run : Run (Steps.guarded (fun before event after => step ptime before event = some after) (Meets ptime)) {}
      events last) : Kept ptime last :=
  run.invariant (fun _ _ _ kept taken => step_kept kept taken.1 taken.2) (empty_kept ptime)

theorem write_undisturbed {ptime : String → Option Int} {before after : Board} {id : Nat} {matching : Matching}
    {systemType : QuotationType} {cjsl cjje : UInt64} (kept : Kept ptime before)
    (found : before.matching id = some matching) (meets : Meets ptime before (.write id systemType cjsl cjje))
    (taken : step ptime before (.write id systemType cjsl cjje) = some after) :
    Undisturbed ptime before after matching := by
  intro order circle quotationType view live placed named viewed lives other
  obtain ⟨matching', _, found', written⟩ := write_written kept (fun _ found => (meets _ found).1) taken
  rw [found] at found'
  cases found'
  have lives' : after.live order.stockID = some live := written.live ▸ lives
  obtain ⟨same, -⟩ := kept.quoted _ _ lives
  have unwritten : after.written live.quot.zqdm circle view = before.written live.quot.zqdm circle view := by
    rw [written.written, writtenBack, same]
    split
    next => exact if_neg other
    next => rfl
  rw [(write_kept kept meets taken).faithful order circle quotationType view live placed named viewed lives',
    kept.faithful order circle quotationType view live placed named viewed lives]
  simp only [capacity, unwritten]

/-- Over every run whose events meet their conditions, a read answers with what the
last match of its view left on the current quote, or with the quote's own capacity,
and no match disturbs what the other views read. -/
theorem reads_left_over (ptime : String → Option Int) {events : List Event} {last : Board}
    (run : Run (Steps.guarded (fun before event after => step ptime before event = some after) (Meets ptime)) {}
      events last) :
    Faithful ptime last ∧
      ∀ id matching systemType cjsl cjje after, last.matching id = some matching →
        Meets ptime last (.write id systemType cjsl cjje) →
        step ptime last (.write id systemType cjsl cjje) = some after → Undisturbed ptime last after matching :=
  ⟨(run_kept run).faithful,
    fun _ _ _ _ _ _ found meets taken => write_undisturbed (run_kept run) found meets taken⟩

theorem read_runs {ptime : String → Option Int} {board : Board} {order : OrderMessage} {circle : String} {view : View}
    {live : Live} (kept : Kept ptime board) (id : Nat) (named : order.stockID.isEmpty = false)
    (placed : circle.isEmpty = false) (viewed : viewOf order.tradePolicy.quotationMatchType order = some view)
    (lives : board.live order.stockID = some live) :
    step ptime board (.read id order circle) = some { board with
      matching := Function.update board.matching id
        (some ⟨order, circle, answer live view (capacity board live circle view)⟩) } := by
  simp only [step, read, kept.faithful order circle _ view live placed named viewed lives]

/-- An order for the sample security, of either side. -/
def quotedOrder (quotationMatchType : QuotationType) (side : String) : OrderMessage where
  stockID := "000001"
  side := side
  tradePolicy := { quotationMatchType }

theorem bestSell_bought : viewOf .sellBuyPrice (quotedOrder .sellBuyPrice "1") = some .bestSell := rfl

/-- A whole match on a board that kept its law, from its read to its write-back. -/
theorem match_runs {ptime : String → Option Int} {board : Board} {view : View} {live : Live} (kept : Kept ptime board)
    (id : Nat) (order : OrderMessage) (circle : String) (cjsl cjje : UInt64) (named : order.stockID.isEmpty = false)
    (placed : circle.isEmpty = false) (viewed : viewOf order.tradePolicy.quotationMatchType order = some view)
    (lives : board.live order.stockID = some live) :
    ∃ during after, step ptime board (.read id order circle) = some during ∧
      step ptime during (.write id order.tradePolicy.quotationMatchType cjsl cjje) = some after ∧
      Kept ptime during ∧ during.store = board.store ∧ during.live = board.live ∧ during.written = board.written ∧
      during.matching id = some ⟨order, circle, answer live view (capacity board live circle view)⟩ ∧
      (∀ other, other ≠ id → after.matching other = board.matching other) ∧
      Written during after ⟨order, circle, answer live view (capacity board live circle view)⟩ view cjsl cjje := by
  have reads := read_runs kept id named placed viewed lives
  have during := step_kept kept reads (kept.quoted _ _ lives).2.1
  have found : (Function.update board.matching id
      (some ⟨order, circle, answer live view (capacity board live circle view)⟩)) id =
        some ⟨order, circle, answer live view (capacity board live circle view)⟩ := Function.update_self ..
  obtain ⟨after, taken⟩ := Option.isSome_iff_exists.mp (Option.isSome_map.trans (Option.isSome_of_eq_some found))
  refine ⟨_, after, reads, taken, during, rfl, rfl, rfl, found, ?_, ?_⟩
  · intro other different
    obtain ⟨_, _, rfl⟩ := Option.map_eq_some_iff.mp taken
    simp only [Function.update_of_ne different]
  obtain ⟨matching, view', found', written⟩ := write_written during
    (fun _ found' => by cases found.symm.trans found'; rfl) taken
  cases found.symm.trans found'
  cases written.viewed.symm.trans viewed
  exact written

/-- A match of the live quote may write on a circle that holds no volume yet. -/
theorem meets_of_fresh {ptime : String → Option Int} {board : Board} {id : Nat} {matching : Matching} {live : Live}
    {cjsl cjje : UInt64} (found : board.matching id = some matching)
    (lives : board.live matching.order.stockID = some live) (now : matching.quote.hqsj = live.quot.hqsj)
    (fresh : ∀ other : View,
      board.store.tradeVolume (circleField matching.order.stockID other.names.2 matching.circle) = none)
    (small : cjsl.toNat < 2 ^ 63 ∧ cjje.toNat < 2 ^ 63) :
    Meets ptime board (.write id matching.order.tradePolicy.quotationMatchType cjsl cjje) := by
  intro matching' found'
  cases found.symm.trans found'
  refine ⟨rfl, small.1, small.2, ?_⟩
  intro live' lives'
  cases lives.symm.trans lives'
  rw [WritesAlone, if_pos now]
  intro view other _ _ held
  rw [fresh other] at held
  cases held

theorem stock_plain : Plain "000001" := by decide

theorem opens : Quoted clock {} (quoted clock {} beforeHalt) ⟨beforeHalt, 100, 1000⟩ := by
  refine quoted_opens (by decide) ⟨by decide, rfl, by decide, by decide, ?_⟩ rfl rfl
  intro view
  cases view <;> decide

theorem opens_meets : Meets clock {} (.quot beforeHalt) :=
  fun _ => ⟨opens.plain, opens.sound⟩

theorem Kept.reads_own {ptime : String → Option Int} {board : Board} {view : View} {live : Live}
    (kept : Kept ptime board) (order : OrderMessage) (circle : String) (quotationType : QuotationType)
    (named : order.stockID.isEmpty = false) (placed : circle.isEmpty = false)
    (viewed : viewOf quotationType order = some view) (lives : board.live order.stockID = some live)
    (unwritten : board.written order.stockID circle view = none) :
    getCurrQuotGapByCircle ptime board.store.tradeVolume order circle quotationType =
      .ok (answer live view (live.capacity view)) := by
  rw [kept.faithful order circle quotationType view live placed named viewed lives, capacity,
    (kept.quoted _ _ lives).1, unwritten]
  rfl

theorem order_reads_circle {ptime : String → Option Int} {hash : Hash String String} {live : Live}
    {cjsl beside : UInt64} (order : OrderMessage) (circle : String) (view : View)
    (viewed : viewOf order.tradePolicy.quotationMatchType order = some view) (stock : order.stockID = live.quot.zqdm)
    (named : order.stockID.isEmpty = false) (placed : circle.isEmpty = false) (sound : Sound ptime live)
    (shown : Shown hash live) (dates : hash (circleField order.stockID "OrigTime" circle) = some live.quot.hqsj)
    (volume : hash (circleField order.stockID view.names.1 circle) = some (itostr cjsl))
    (priced : hash (circleField order.stockID view.names.2 circle) = some (itostr beside))
    (small : cjsl.toNat < 2 ^ 63 ∧ beside.toNat < 2 ^ 63) :
    getCurrQuotGapByCircle ptime hash order circle order.tradePolicy.quotationMatchType =
      .ok (answer live view (cjsl, beside)) := by
  rw [getCurrQuotGapByCircle_eq viewed named placed, stock]
  rw [stock] at named dates volume priced
  exact read_circle named placed sound shown dates volume priced small

/-- The first quote of the sample security: nothing of it is written yet. -/
theorem opens_fresh : (∀ circle view, (quoted clock {} beforeHalt).written "000001" circle view = none) ∧
    (∀ name circle, (quoted clock {} beforeHalt).store.tradeVolume (circleField "000001" name circle) = none) ∧
    (quoted clock {} beforeHalt).live "000001" = some ⟨beforeHalt, 100, 1000⟩ := by
  refine ⟨?_, ?_, ?_⟩
  · intro circle view
    have written := congrFun opens.written "000001"
    rw [written]
    rfl
  · intro name circle
    exact opens.circles (by decide)
  · have lives := congrFun opens.lives "000001"
    rw [lives]
    rfl

theorem resumes {board : Board} (quots : board.store.quots = (quoted clock {} beforeHalt).store.quots) :
    Quoted clock board (quoted clock board resumed) ⟨resumed, 20, 200⟩ := by
  have record : getCurrentQuotationByStockId board.store true "000001" =
      some ⟨100, 1000, "2017-04-13 09:31:00.000"⟩ := by
    rw [getCurrent_congr quots]
    have readable : Readable beforeHalt := by decide
    have back := stored_reads_back readable opens.quots
    exact back
  refine quoted_opens (by decide) ⟨by decide, rfl, by decide, by decide, ?_⟩
    (congrArg (calcQuotationGap clock · resumed) record) rfl
  intro view
  cases view <;> decide

theorem first_match (cjsl cjje : UInt64) (small : cjsl.toNat < 2 ^ 63 ∧ cjje.toNat < 2 ^ 63) :
    ∃ reading first matching,
      step clock (quoted clock {} beforeHalt) (.read 0 (quotedOrder .sellBuyPrice "1") "1") = some reading ∧
      step clock reading (.write 0 .sellBuyPrice cjsl cjje) = some first ∧ Kept clock reading ∧
      Meets clock reading (.write 0 .sellBuyPrice cjsl cjje) ∧
      reading.store = (quoted clock {} beforeHalt).store ∧ reading.live = (quoted clock {} beforeHalt).live ∧
      reading.matching 0 = some matching ∧ matching.order = quotedOrder .sellBuyPrice "1" ∧ matching.circle = "1" ∧
      matching.quote.hqsj = beforeHalt.hqsj ∧ Written reading first matching .bestSell cjsl cjje := by
  have kept := quoted_kept (empty_kept clock) opens_meets
  obtain ⟨-, fresh, lives⟩ := opens_fresh
  obtain ⟨reading, first, reads, writes, keptReading, store, live, -, found, -, left⟩ :=
    match_runs kept 0 (quotedOrder .sellBuyPrice "1") "1" cjsl cjje (by decide) (by decide) rfl lives
  have livesReading : reading.live "000001" = some ⟨beforeHalt, 100, 1000⟩ := live ▸ lives
  have meets : Meets clock reading (.write 0 .sellBuyPrice cjsl cjje) :=
    meets_of_fresh found livesReading rfl (fun other => store ▸ fresh other.names.2 "1") small
  exact ⟨reading, first, _, reads, writes, keptReading, meets, store, live, found, rfl, rfl, rfl, left⟩

/-- A match that an order should not notice: of the other side or of another type,
or of a quote that is not the live one any more. -/
def Foreign (board : Board) (matching : Matching) (order : OrderMessage) : Prop :=
  matching.order.buys ≠ order.buys ∨
    matching.order.tradePolicy.quotationMatchType ≠ order.tradePolicy.quotationMatchType ∨
    ∀ live, board.live order.stockID = some live → matching.quote.hqsj ≠ live.quot.hqsj

/-- In some run such a match changes what the order reads. -/
def Disturbs (id : Nat) (cjsl cjje : UInt64) (order : OrderMessage) : Prop :=
  ∃ events before after matching,
    Run (fun before event after => step clock before event = some after) {} events before ∧
    before.matching id = some matching ∧ Foreign before matching order ∧
    step clock before (.write id matching.order.tradePolicy.quotationMatchType cjsl cjje) = some after ∧
    getCurrQuotGapByCircle clock after.store.tradeVolume order "1" order.tradePolicy.quotationMatchType ≠
      getCurrQuotGapByCircle clock before.store.tradeVolume order "1" order.tradePolicy.quotationMatchType

/-- A buyer's match of the interval's volume leaves less of it to the seller. -/
theorem interval_disturbed : Disturbs 0 40 400 (quotedOrder .averagePrice "2") := by
  have kept := quoted_kept (empty_kept clock) opens_meets
  obtain ⟨unwritten, -, lives⟩ := opens_fresh
  obtain ⟨reading, after, reads, writes, keptReading, store, live, written, found, -, left⟩ :=
    match_runs kept 0 (quotedOrder .averagePrice "1") "1" 40 400 (by decide) (by decide) rfl lives
  have livesReading : reading.live "000001" = some ⟨beforeHalt, 100, 1000⟩ := live ▸ lives
  refine ⟨[.quot beforeHalt, .read 0 (quotedOrder .averagePrice "1") "1"], reading, after, _,
    .cons rfl <| .cons reads <| .nil _, found, .inl (by decide), writes, ?_⟩
  have own := keptReading.reads_own (quotedOrder .averagePrice "2") "1" .averagePrice (by decide) (by decide) rfl
    livesReading (written ▸ unwritten "1" .interval)
  have shown := (keptReading.quoted _ _ livesReading).2.2.2
  have rest := order_reads_circle (quotedOrder .averagePrice "2") "1" .interval rfl rfl (by decide)
    (by decide) opens.sound (left.shown (by decide) opens.plain shown) left.date left.volume left.beside (by decide)
  intro same
  cases rest.symm.trans (same.trans own)

/-- A seller's match on the new quote brings the buyers' rest of the quote before back to life. -/
theorem bestSell_disturbed : Disturbs 1 50 500 (quotedOrder .sellBuyPrice "1") := by
  obtain ⟨reading, first, matching, reads, writes, keptReading, meets, store, live, found, bought, placed, -, left⟩ :=
    first_match 30 300 (by decide)
  have second := resumes (left.quots.trans (congrArg QuoteStore.quots store))
  have keptSecond := second.kept (write_kept keptReading meets writes)
  have lives : (quoted clock first resumed).live "000001" = some ⟨resumed, 20, 200⟩ := by
    rw [second.lives]
    rfl
  obtain ⟨before, after, reads', writes', keptBefore, store', live', written', found', -, left'⟩ :=
    match_runs keptSecond 1 (quotedOrder .sellBuyPrice "2") "1" 50 500 (by decide) (by decide) rfl lives
  have livesBefore : before.live "000001" = some ⟨resumed, 20, 200⟩ := live' ▸ lives
  have sides : (quotedOrder .sellBuyPrice "2").buys ≠ (quotedOrder .sellBuyPrice "1").buys := by decide
  refine ⟨[.quot beforeHalt, .read 0 (quotedOrder .sellBuyPrice "1") "1", .write 0 .sellBuyPrice 30 300, .quot resumed,
      .read 1 (quotedOrder .sellBuyPrice "2") "1"], before, after, _,
    .cons rfl <| .cons reads <| .cons writes <| .cons rfl <| .cons reads' <| .nil _, found', .inl sides, writes', ?_⟩
  have own := keptBefore.reads_own (quotedOrder .sellBuyPrice "1") "1" .sellBuyPrice (by decide) (by decide) rfl
    livesBefore (by rw [written', second.written]; rfl)
  have shown := (keptBefore.quoted _ _ livesBefore).2.2.2
  have kept (name : String) (named : Plain name) (other : name ≠ "BSL1" ∧ name ≠ "BJW1" ∧ name ≠ "OrigTime") :
      after.store.tradeVolume (circleField "000001" name "1") =
        first.store.tradeVolume (circleField "000001" name "1") := by
    rw [← second.circles (by decide), ← store']
    exact left'.other_name stock_plain named other.1 other.2.1 other.2.2
  have volume := left.volume
  have beside := left.beside
  rw [bought, placed] at volume beside
  have rest := order_reads_circle (quotedOrder .sellBuyPrice "1") "1" .bestSell rfl
    rfl (by decide) (by decide) second.sound (left'.shown stock_plain second.plain shown) left'.date
    ((kept "SSL1" (by decide) (by decide)).trans volume) ((kept "SJW1" (by decide) (by decide)).trans beside)
    (by decide)
  intro same
  cases rest.symm.trans (same.trans own)

/-- A match that read the quote before writes back late, and what was left of the new one is lost. -/
theorem late_disturbed : Disturbs 0 30 300 (quotedOrder .sellBuyPrice "1") := by
  obtain ⟨reading, -, matching, reads, -, keptReading, -, store, live, found, bought, placed, past, -⟩ :=
    first_match 30 300 (by decide)
  have second := resumes (congrArg QuoteStore.quots store)
  have keptSecond := second.kept keptReading
  have lives : (quoted clock reading resumed).live "000001" = some ⟨resumed, 20, 200⟩ := by
    rw [second.lives]
    rfl
  have fresh (name circle : String) :
      (quoted clock reading resumed).store.tradeVolume (circleField "000001" name circle) = none := by
    rw [second.circles stock_plain, store]
    exact opens_fresh.2.1 name circle
  obtain ⟨during, before, reads', writes', keptDuring, store', live', -, found', others, left⟩ :=
    match_runs keptSecond 1 (quotedOrder .sellBuyPrice "1") "1" 60 600 (by decide) (by decide) rfl lives
  have livesDuring : during.live "000001" = some ⟨resumed, 20, 200⟩ := live' ▸ lives
  have keptBefore : Kept clock before :=
    write_kept keptDuring
      (meets_of_fresh found' livesDuring rfl (fun other => store' ▸ fresh other.names.2 "1") (by decide)) writes'
  have livesBefore : before.live "000001" = some ⟨resumed, 20, 200⟩ := left.live ▸ livesDuring
  have under : before.matching 0 = some matching := by
    rw [others 0 (by decide), second.matching]
    exact found
  obtain ⟨after, last⟩ : ∃ after, step clock before (.write 0 .sellBuyPrice 30 300) = some after :=
    ⟨_, congrArg (Option.map _) under⟩
  obtain ⟨matching', view, found'', written⟩ := write_written keptBefore
    (fun _ found'' => by cases under.symm.trans found''; rw [bought]; rfl) last
  cases under.symm.trans found''
  have past' : ∀ live, before.live "000001" = some live → matching.quote.hqsj ≠ live.quot.hqsj := by
    intro live' lives'
    cases livesBefore.symm.trans lives'
    rw [past]
    decide
  have typed : matching.order.tradePolicy.quotationMatchType = .sellBuyPrice := by
    rw [bought]
    rfl
  rw [← typed] at last
  refine ⟨[.quot beforeHalt, .read 0 (quotedOrder .sellBuyPrice "1") "1", .quot resumed,
      .read 1 (quotedOrder .sellBuyPrice "1") "1", .write 1 .sellBuyPrice 60 600], before, after, matching,
    .cons rfl <| .cons reads <| .cons rfl <| .cons reads' <| .cons writes' <| .nil _, under, .inr (.inr past'),
    last, ?_⟩
  have shown := (keptBefore.quoted _ _ livesBefore).2.2.2
  have rest := order_reads_circle (quotedOrder .sellBuyPrice "1") "1" .bestSell rfl
    rfl (by decide) (by decide) second.sound shown left.date left.volume left.beside (by decide)
  have plain : Plain matching.order.stockID := by
    rw [bought]
    exact stock_plain
  have date := written.date
  rw [bought, placed, past] at date
  have own : getCurrQuotGapByCircle clock after.store.tradeVolume (quotedOrder .sellBuyPrice "1") "1" .sellBuyPrice =
      .ok (answer ⟨resumed, 20, 200⟩ .bestSell (100, 10)) := by
    rw [getCurrQuotGapByCircle_eq bestSell_bought (by decide) (by decide)]
    refine read_live (by decide) (by decide) second.sound (written.shown plain second.plain shown)
      (.inr (.inr ⟨_, date, by decide, by decide, .inr ⟨0, 120000000, rfl, rfl, by decide⟩⟩))
  intro same
  cases rest.symm.trans (same.symm.trans own)

/-- The first quote with a buyer's match written back under another type than its own:
it reads the whole again. -/
theorem mistyped_lost :
    ∃ before after, Run (fun before event after => step clock before event = some after) {}
        [.quot beforeHalt, .read 0 (quotedOrder .sellBuyPrice "1") "1"] before ∧
      step clock before (.write 0 .averagePrice 50 500) = some after ∧
      getCurrQuotGapByCircle clock after.store.tradeVolume (quotedOrder .sellBuyPrice "1") "1" .sellBuyPrice ≠
        .ok (answer ⟨beforeHalt, 100, 1000⟩ .bestSell (50, 10)) := by
  obtain ⟨reading, -, matching, reads, -, keptReading, -, store, live, found, bought, placed, now, -⟩ :=
    first_match 50 500 (by decide)
  obtain ⟨unwritten, fresh, lives⟩ := opens_fresh
  have livesReading : reading.live "000001" = some ⟨beforeHalt, 100, 1000⟩ := live ▸ lives
  have shown := (keptReading.quoted _ _ livesReading).2.2.2
  refine ⟨reading, _, .cons rfl <| .cons reads <| .nil _, congrArg (Option.map _) found, ?_⟩
  have own : getCurrQuotGapByCircle clock
      (reading.store.tradeVolume.set (setCurrQuotGapByCircle .averagePrice matching.order matching.circle 50 500
        matching.quote.hqsj)) (quotedOrder .sellBuyPrice "1") "1" .sellBuyPrice =
      .ok (answer ⟨beforeHalt, 100, 1000⟩ .bestSell (100, 10)) := by
    rw [getCurrQuotGapByCircle_eq bestSell_bought (by decide) (by decide), bought, placed, now]
    obtain ⟨-, -, -, rest⟩ := write_fields reading.store.tradeVolume "1" 50 500 beforeHalt.hqsj stock_plain
      (show viewOf .averagePrice (quotedOrder .sellBuyPrice "1") = some .interval from rfl)
    have circles {name name' : String} (named : Plain name) (named' : Plain name') (other : name ≠ name') :
        circleField "000001" name "1" ≠ circleField "000001" name' "1" := by
      simp [circleField_inj stock_plain stock_plain named named', other]
    refine read_live (by decide) (by decide) opens.sound ?_ (.inl ?_)
    · intro pair found
      have apart {name : String} : liveField "000001" pair.1 ≠ circleField "000001" name "1" :=
        liveField_ne_circleField stock_plain stock_plain (volumeTexts_plain pair found)
      exact (rest _ apart apart apart).trans (shown pair found)
    · have unused : reading.store.tradeVolume (circleField "000001" "SJW1" "1") = none := by
        rw [store]
        exact fresh "SJW1" "1"
      refine (rest _ ?_ ?_ ?_).trans unused
      · exact circles (by decide) (by decide) (by decide)
      · exact circles (by decide) (by decide) (by decide)
      · exact circles (by decide) (by decide) (by decide)
  intro same
  cases same.symm.trans own

/-- Reads that are not what a match of their side and type left on the live quote. -/
theorem reads_disturbed :
    Disturbs 0 40 400 (quotedOrder .averagePrice "2") ∧ Disturbs 1 50 500 (quotedOrder .sellBuyPrice "1") ∧
      Disturbs 0 30 300 (quotedOrder .sellBuyPrice "1") ∧
      ∃ before after, Run (fun before event after => step clock before event = some after) {}
          [.quot beforeHalt, .read 0 (quotedOrder .sellBuyPrice "1") "1"] before ∧
        step clock before (.write 0 .averagePrice 50 500) = some after ∧
        getCurrQuotGapByCircle clock after.store.tradeVolume (quotedOrder .sellBuyPrice "1") "1" .sellBuyPrice ≠
          .ok (answer ⟨beforeHalt, 100, 1000⟩ .bestSell (50, 10)) :=
  ⟨interval_disturbed, bestSell_disturbed, late_disturbed, mistyped_lost⟩

/-- The sample security's quote and a buyer's match of half its best sell. -/
theorem reads_left_over_half :
    ∃ last, Run (Steps.guarded (fun before event after => step clock before event = some after) (Meets clock)) {}
        [.quot beforeHalt, .read 0 (quotedOrder .sellBuyPrice "1") "1", .write 0 .sellBuyPrice 50 500] last ∧
      Faithful clock last := by
  obtain ⟨reading, last, -, reads, writes, -, meets, -⟩ := first_match 50 500 (by decide)
  have run : Run (Steps.guarded (fun before event after => step clock before event = some after) (Meets clock)) {}
      [.quot beforeHalt, .read 0 (quotedOrder .sellBuyPrice "1") "1", .write 0 .sellBuyPrice 50 500] last :=
    .cons ⟨rfl, opens_meets⟩ <| .cons ⟨reads, stock_plain⟩ <| .cons ⟨writes, meets⟩ <| .nil _
  exact ⟨last, run, (reads_left_over clock run).1⟩

end Simutgw.QuoteBoard
