import Simutgw.Logic.SqlText
import Simutgw.ReportSql
import Simutgw.Proofs.PrintedWords
import Simutgw.Proofs.MoneyText
import Simutgw.Proofs.CalendarStamps

/-! What the database reads of a report's statement. Every piece that the gateway makes
itself reads as itself; a text of the order's or of the rule's does so only where nothing
in it means anything between quotes, for the statements quote nothing twice. -/

namespace Simutgw.Proofs.ReportStatements
open Logic ReportSql RuleWordProc TgwStringUtil SofString TimeStringUtil PrintedWords DecimalText MoneyText
open SqlToken (insertWord intoWord valuesWord)

variable {dialect : Dialect}

/-- The characters of numbers and times. -/
def Numeric (text : List Char) : Prop := ∀ char ∈ text, char.isDigit ∨ char = '.' ∨ char = '-' ∨ char = ':'

theorem numeric_verbatim {text : List Char} (numeric : Numeric text) : dialect.Verbatim text := by
  apply Dialect.verbatim_of_plain
  intro char found
  refine ⟨?_, ?_⟩
  all_goals
    rintro rfl
    exact absurd (numeric _ found) (by decide)

theorem numeric_append {front back : List Char} (first : Numeric front) (second : Numeric back) :
    Numeric (front ++ back) := by
  intro char found
  rcases List.mem_append.mp found with before | behind
  · exact first char before
  · exact second char behind

theorem numeric_digits (value : Nat) : Numeric (Nat.toDigits 10 value) :=
  fun _ found => .inl (Nat.isDigit_of_mem_toDigits (by decide) (by decide) found)

theorem numeric_numeral {numeral : Numeral} {text : List Char} (spells : numeral.Spells text) : Numeric text := by
  have digits := numeral.digits
  intro char found
  rcases spells with dotted | ⟨none, whole⟩
  · rw [dotted, List.mem_append, List.mem_cons] at found
    rcases found with before | point | behind
    · exact .inl (digits char (List.mem_append_left _ before))
    · exact .inr (.inl point)
    · exact .inl (digits char (List.mem_append_right _ behind))
  · rw [whole] at found
    exact .inl (digits char (List.mem_append_left _ found))

theorem numeric_itostr (val : UInt64) : Numeric (itostr val).toList := by
  rw [itostr_toList]
  exact numeric_digits _

theorem numeric_price (moneyLi : UInt64) : Numeric (iLiToStr moneyLi 3).toList :=
  numeric_numeral (iLiToStr_spells (by decide) (by decide) fun _ => ⟨by decide, by decide⟩)

theorem numeric_cjje (order : OrderMessage) : Numeric (cjje order).toList := by
  rw [cjje]
  split
  next =>
    simp [Numeric, Char.isDigit]
  next =>
    exact numeric_numeral (iLiToStr_spells (by decide) (by decide) fun _ => ⟨by decide, by decide⟩)

theorem numeric_decimal (value : Int) : Numeric (decimal value).toList := by
  rw [decimal, String.toList_ofList]
  apply numeric_append
  · intro char found
    split at found
    next => exact .inr (.inr (.inl (List.mem_singleton.mp found)))
    next => cases found
  · exact numeric_digits _

theorem numeric_afterPoint {value : ℚ} {scale : Int64} {zeros text : String} (numeric : Numeric zeros.toList)
    (printed : afterPoint value scale zeros = some text) : Numeric text.toList := by
  unfold afterPoint at printed
  obtain ⟨whole, _, printed⟩ := Option.bind_eq_some_iff.mp printed
  dsimp only at printed
  split at printed
  next =>
    cases printed
    exact numeric
  next =>
    obtain ⟨decimals, found, same⟩ := Option.bind_eq_some_iff.mp printed
    rw [itostrInt64_eq, Option.some.injEq] at found
    cases same
    rw [String.toList_append, ← found]
    apply numeric_append
    · simp [Numeric]
    · exact numeric_decimal _

theorem numeric_double {value : ℚ} {text : String} (printed : doubleToString value 2 = some text) :
    Numeric text.toList := by
  obtain ⟨whole, _, printed⟩ := Option.bind_eq_some_iff.mp printed
  obtain ⟨before, found, printed⟩ := Option.bind_eq_some_iff.mp printed
  obtain ⟨behind, after, same⟩ := Option.bind_eq_some_iff.mp printed
  rw [itostrInt64_eq, Option.some.injEq] at found
  cases same
  rw [String.toList_append, ← found]
  apply numeric_append (numeric_decimal _)
  exact numeric_afterPoint (by simp [Numeric, Char.isDigit]) after

theorem numeric_zeroPadded (width : Nat) (value : Int) : Numeric (zeroPadded width value).toList := by
  have digits {places size : Nat} : Numeric (padded places size) := fun _ found => .inl (padded_digits found)
  rw [zeroPadded, String.toList_ofList]
  split
  next =>
    intro char found
    rcases List.mem_cons.mp found with sign | digit
    · exact .inr (.inr (.inl sign))
    · exact digits char digit
  next => exact digits

theorem numeric_times (timeinfo : Tm) : Numeric (getTimeInYYYYMMDD timeinfo).toList ∧
    Numeric (getTimeInTimeC8 timeinfo).toList ∧ Numeric (getTimeInTimeC6 timeinfo).toList := by
  have colon : Numeric (":" : String).toList := by simp [Numeric]
  have part := numeric_zeroPadded
  simp only [getTimeInYYYYMMDD, getTimeInTimeC8, getTimeInTimeC6, String.toList_append]
  refine ⟨?_, ?_, ?_⟩
  · exact numeric_append (numeric_append (part _ _) (part _ _)) (part _ _)
  · exact numeric_append (numeric_append (numeric_append (numeric_append (part _ _) colon) (part _ _)) colon) (part _ _)
  · exact numeric_append (numeric_append (part _ _) (part _ _)) (part _ _)

/-! What a statement is to say. -/

/-- One insert into the table, with one value for each column in their order, and each
value means the column's text. -/
def Says (dialect : Dialect) (sql table : String) (row : List (String × String)) : Prop :=
  ∃ insert, readInsert dialect sql.toList = some insert ∧ insert.table = table.toList ∧
    insert.columns = row.map (fun column => column.1.toList) ∧
    List.Forall₂ SqlLiteral.Denotes insert.values (row.map fun column => column.2.toList)

/-- The texts that are read as they are. -/
def Verbatims (dialect : Dialect) (texts : List String) : Prop := ∀ text ∈ texts, dialect.Verbatim text.toList

/-- The columns of an order's confirmation. -/
def confirmRow (order : ReportedOrder) (conn : ShNumbers) : List (String × String) :=
  let times := (transTimes order.toOrderMessage).getD ("", "")
  [("rec_num", itostr conn.incRecNum.1), ("date", times.1), ("time", times.2),
    ("reff", (reff order.toOrderMessage).getD ""), ("acc", order.accountId), ("stock", order.stockID),
    ("bs", order.side), ("price", iLiToStr order.orderPrice 3), ("qty", order.strOrderqtyOrigin),
    ("status", (status order.toOrderMessage).getD ""),
    ("qty2", if uncancelled order.toOrderMessage then "" else order.lastQty), ("remark", remark order.toOrderMessage),
    ("status1", "R"), ("teordernum", itostr (teordernum order.toOrderMessage conn.incRecNum.2).1),
    ("owflag", owflag order.toOrderMessage), ("ordrec", if uncancelled order.toOrderMessage then "0" else order.clOrdId),
    ("firmid", order.confirmID), ("branchid", order.marketBranchid), ("checkord", "")]

/-- The texts of the order's that its confirmation has. -/
def confirmTexts (order : ReportedOrder) : List String :=
  let times := (transTimes order.toOrderMessage).getD ("", "")
  [times.1, times.2, (reff order.toOrderMessage).getD "", order.accountId, order.stockID, order.side,
    order.strOrderqtyOrigin] ++
  (if uncancelled order.toOrderMessage then [] else [order.lastQty]) ++
  (if order.ordStatus = Step.ordStatusCancel then [] else [order.errorCode, order.ordType]) ++
  (if uncancelled order.toOrderMessage then [] else [order.clOrdId]) ++ [order.confirmID, order.marketBranchid]

def confirmCells (order : ReportedOrder) (conn : ShNumbers) : List SqlCell :=
  let times := (transTimes order.toOrderMessage).getD ("", "")
  [.number conn.incRecNum.1.toNat, .quoted times.1.toList, .quoted times.2.toList,
    .quoted ((reff order.toOrderMessage).getD "").toList, .quoted order.accountId.toList, .quoted order.stockID.toList,
    .quoted order.side.toList, .quoted (iLiToStr order.orderPrice 3).toList, .quoted order.strOrderqtyOrigin.toList,
    .quoted ((status order.toOrderMessage).getD "").toList,
    .quoted (if uncancelled order.toOrderMessage then "" else order.lastQty).toList,
    .quoted (remark order.toOrderMessage).toList, .quoted "R".toList,
    .quoted (itostr (teordernum order.toOrderMessage conn.incRecNum.2).1).toList,
    .quoted (owflag order.toOrderMessage).toList,
    if uncancelled order.toOrderMessage then .number 0 else .quoted order.clOrdId.toList,
    if order.confirmID.isEmpty then .null false else .quoted order.confirmID.toList,
    .quoted order.marketBranchid.toList, .zeros 32]

/-! The statements as inserts of one row. -/

theorem confirmHead_source : confirmHead.toList = insertWord ++ ' ' :: (intoWord ++ ' ' ::
    (gStrSHOrdwth2TableName.toList ++ ([' ', '('] ++ (listSource (confirmColumns.map String.toList) ++ ' ' ::
      (valuesWord ++ ['(']))))) := by
  decide +kernel

theorem quoted_source (text : List Char) : (SqlCell.quoted text).source = '\'' :: (text ++ ['\'']) := rfl

theorem between : "','".toList = ['\'', ',', '\''] ∧ ",'".toList = [',', '\''] ∧ "',".toList = ['\'', ','] ∧
    "'".toList = ['\''] ∧ "'','".toList = ['\'', '\'', ',', '\''] :=
  ⟨rfl, rfl, rfl, rfl, rfl⟩

theorem confirmSql_source {order : ReportedOrder} {strTransDate strTransTime strReff strStatus : String}
    (times : transTimes order.toOrderMessage = some (strTransDate, strTransTime))
    (named : reff order.toOrderMessage = some strReff) (stands : status order.toOrderMessage = some strStatus)
    (conn : ShNumbers) :
    (confirmSql order conn.incRecNum.1 (teordernum order.toOrderMessage conn.incRecNum.2).1 strTransDate strTransTime
      strReff strStatus).toList = insertSource true gStrSHOrdwth2TableName.toList (confirmColumns.map String.toList)
        (confirmCells order conn) := by
  have zeros : "',0x00000000000000000000000000000000);".toList =
      '\'' :: ',' :: ((SqlCell.zeros 32).source ++ [')', ';']) := by
    rfl
  have none : "null,'".toList = (SqlCell.null false).source ++ [',', '\''] := rfl
  have nought : "0,".toList = (SqlCell.number 0).source ++ [','] := rfl
  have row : (SqlCell.number conn.incRecNum.1.toNat).source = (itostr conn.incRecNum.1).toList := (itostr_toList _).symm
  obtain ⟨both, before, behind, quote, nothing⟩ := between
  rw [confirmSql, String.toList_join, insertSource, confirmCells, times, named, stands]
  simp only [Option.getD_some]
  cases kind : uncancelled order.toOrderMessage <;> cases firm : order.confirmID.isEmpty
  all_goals
    simp only [List.flatMap_cons, List.flatMap_nil, confirmHead_source, both, before, behind, quote, nothing,
      zeros, none, nought, row, quoted_source, if_true, if_false, Bool.false_eq_true, String.toList_append,
      String.toList_empty, List.map_cons, List.map_nil, listSource, List.append_assoc, List.cons_append,
      List.nil_append, List.append_nil]

theorem confirm_source {order : ReportedOrder} {conns : MapShConns} {sql : String}
    (built : (fixToSHConfirm order conns).1 = some sql) : ∃ conn, conns order.sessionId = some conn ∧
      sql.toList = insertSource true gStrSHOrdwth2TableName.toList (confirmColumns.map String.toList)
        (confirmCells order conn) := by
  unfold fixToSHConfirm at built
  split at built
  next strTransDate strTransTime conn times session =>
    dsimp only at built
    split at built
    next strReff strStatus named stands =>
      obtain rfl := Option.some.inj built
      exact ⟨conn, session, confirmSql_source times named stands conn⟩
    next => cases built
  next => cases built

theorem names_are_words :
    (IsName gStrSHOrdwth2TableName.toList ∧ ∀ column ∈ confirmColumns.map String.toList, IsName column) ∧
      IsName gStrSHCjhbTableName.toList ∧ ∀ column ∈ reportColumns.map String.toList, IsName column := by
  have named {names : List (List Char)} (all : (names.all fun name => ! name.isEmpty && name.all isWord) = true) :
      ∀ name ∈ names, IsName name := by
    intro name found
    have one := List.all_eq_true.mp all name found
    rw [Bool.and_eq_true, Bool.not_eq_true', List.isEmpty_eq_false_iff] at one
    exact ⟨one.1, List.all_eq_true.mp one.2⟩
  have table {name : List Char} (all : ([name].all fun name => ! name.isEmpty && name.all isWord) = true) : IsName name :=
    named all name List.mem_cons_self
  refine ⟨⟨table ?_, named ?_⟩, table ?_, named ?_⟩
  all_goals rfl

/-- A statement that is the insert of one row says what the row is to say just where each
of its values reads as itself. -/
theorem says_iff {sql table : String} {row : List (String × String)} {cells : List SqlCell} {spaced : Bool}
    (source : sql.toList = insertSource spaced table.toList (row.map fun column => column.1.toList) cells)
    (texts : cells.map SqlCell.text = row.map fun column => column.2.toList) (isName : IsName table.toList)
    (names : ∀ column ∈ row.map fun column => column.1.toList, IsName column) (filled : row ≠ []) :
    Says dialect sql table row ↔ ∀ cell ∈ cells, cell.Verbatim dialect := by
  have columns : (row.map fun column => column.1.toList) ≠ [] := mt List.map_eq_nil_iff.mp filled
  have some : cells ≠ [] := by
    rintro rfl
    exact filled (List.map_eq_nil_iff.mp texts.symm)
  rw [Says, source, ← texts]
  exact readInsert_iff isName columns names some

theorem confirm_texts (order : ReportedOrder) (conn : ShNumbers) :
    (confirmCells order conn).map SqlCell.text = (confirmRow order conn).map fun column => column.2.toList := by
  have nought : Nat.toDigits 10 0 = "0".toList := rfl
  simp only [confirmCells, confirmRow]
  cases kind : uncancelled order.toOrderMessage <;> cases firm : order.confirmID.isEmpty
  all_goals simp [SqlCell.text, itostr_toList, nought, String.isEmpty_iff.mp, firm]

theorem empty_verbatim : dialect.Verbatim "".toList := Dialect.verbatim_nil

theorem status_verbatim (order : OrderMessage) : dialect.Verbatim ((status order).getD "").toList := by
  apply Dialect.verbatim_of_plain
  rw [status]
  split_ifs <;> simp

theorem remark_verbatim_iff (order : OrderMessage) :
    dialect.Verbatim (remark order).toList ↔
      (order.ordStatus ≠ Step.ordStatusCancel → dialect.Verbatim order.errorCode.toList) := by
  rw [remark]
  split
  next cancelled =>
    exact iff_of_true (Dialect.verbatim_of_plain (by simp)) fun other => absurd cancelled other
  next other =>
    split
    next none =>
      rw [String.isEmpty_iff.mp none]
      exact iff_of_true (Dialect.verbatim_of_plain (by simp)) fun _ => empty_verbatim
    next => exact ⟨fun own _ => own, fun own => own other⟩

theorem owflag_verbatim_iff (order : OrderMessage) :
    dialect.Verbatim (owflag order).toList ↔
      (order.ordStatus ≠ Step.ordStatusCancel → dialect.Verbatim order.ordType.toList) := by
  rw [owflag]
  split
  next cancelled =>
    exact iff_of_true (Dialect.verbatim_of_plain (by simp)) fun other => absurd cancelled other
  next other => exact ⟨fun own _ => own, fun own => own other⟩

theorem firmid_verbatim_iff (order : ReportedOrder) :
    (if order.confirmID.isEmpty then SqlCell.null false else .quoted order.confirmID.toList).Verbatim dialect ↔
      dialect.Verbatim order.confirmID.toList := by
  split
  next none =>
    rw [String.isEmpty_iff.mp none]
    exact iff_of_true trivial empty_verbatim
  next => exact Iff.rfl

/-- Of the values of a confirmation only the order's own texts may read otherwise. -/
theorem confirm_verbatim_iff (order : ReportedOrder) (conn : ShNumbers) :
    (∀ cell ∈ confirmCells order conn, cell.Verbatim dialect) ↔ Verbatims dialect (confirmTexts order) := by
  have price : dialect.Verbatim (iLiToStr order.orderPrice 3).toList := numeric_verbatim (numeric_price _)
  have host : dialect.Verbatim (itostr (teordernum order.toOrderMessage conn.incRecNum.2).1).toList :=
    numeric_verbatim (numeric_itostr _)
  have flag : dialect.Verbatim "R".toList := Dialect.verbatim_of_plain (by simp)
  have stands := @status_verbatim dialect order.toOrderMessage
  have number (value : Nat) : (SqlCell.number value).Verbatim dialect := trivial
  have zeros : (SqlCell.zeros 32).Verbatim dialect := trivial
  have quoted (text : List Char) : (SqlCell.quoted text).Verbatim dialect ↔ dialect.Verbatim text := Iff.rfl
  have remarks := @remark_verbatim_iff dialect order.toOrderMessage
  have flags := @owflag_verbatim_iff dialect order.toOrderMessage
  have firm := @firmid_verbatim_iff dialect order
  simp only [confirmCells, confirmTexts, Verbatims, List.forall_mem_cons, List.forall_mem_append, firm, zeros, number,
    quoted, remarks, flags, price, host, flag, stands]
  by_cases cancelled : order.ordStatus = Step.ordStatusCancel <;> cases kind : uncancelled order.toOrderMessage
  all_goals simp [cancelled, quoted, number, Dialect.verbatim_nil, and_assoc]

theorem confirm_says_iff {order : ReportedOrder} {conns : MapShConns} {sql : String}
    (built : (fixToSHConfirm order conns).1 = some sql) : ∃ conn, conns order.sessionId = some conn ∧
      (Says dialect sql gStrSHOrdwth2TableName (confirmRow order conn) ↔ Verbatims dialect (confirmTexts order)) := by
  obtain ⟨conn, session, source⟩ := confirm_source built
  refine ⟨conn, session, ?_⟩
  rw [says_iff source (confirm_texts order conn) names_are_words.1.1 names_are_words.1.2 (List.cons_ne_nil _ _)]
  exact confirm_verbatim_iff order conn

/-! The statement of a trade. -/

/-- The date and the time of a trade, the time without colons. -/
def tradeTimes (order : OrderMessage) : String × String :=
  let times := (transTimes order).getD ("", "")
  (times.1, withoutColons times.2)

def reportRow (order : ReportedOrder) (conn : ShNumbers) : List (String × String) :=
  let times := tradeTimes order.toOrderMessage
  [("gddm", order.accountId), ("gdxm", "1"), ("bcrq", times.1), ("cjbh", itostr conn.incCjbh.1),
    ("gsdm", order.securitySeat), ("cjsl", order.lastQty), ("bcye", "0000000001"), ("zqdm", order.stockID),
    ("sbsj", times.2), ("cjsj", times.2), ("cjjg", iLiToStr order.priceMatched 3),
    ("cjje", cjje order.toOrderMessage), ("sqbh", order.clOrdId), ("bs", order.side), ("mjbh", "66666")]

/-- The texts of the order's that its trade has. -/
def reportTexts (order : ReportedOrder) : List String :=
  let times := tradeTimes order.toOrderMessage
  [order.accountId, times.1, order.securitySeat, order.lastQty, order.stockID, times.2, order.clOrdId, order.side]

def reportCells (order : ReportedOrder) (conn : ShNumbers) : List SqlCell :=
  (reportRow order conn).map fun column => .quoted column.2.toList

theorem reportHead_source : reportHead.toList = insertWord ++ ' ' :: (intoWord ++ ' ' ::
    (gStrSHCjhbTableName.toList ++ (['('] ++ (listSource (reportColumns.map String.toList) ++ ' ' ::
      (valuesWord ++ ['(']))))) := by
  rfl

theorem reportSql_source {order : ReportedOrder} {strTransDate strTransTime : String}
    (times : transTimes order.toOrderMessage = some (strTransDate, strTransTime)) (conn : ShNumbers) :
    (reportSql order conn.incCjbh.1 strTransDate (withoutColons strTransTime)).toList =
      insertSource false gStrSHCjhbTableName.toList (reportColumns.map String.toList) (reportCells order conn) := by
  have one : "1','".toList = "1".toList ++ ['\'', ',', '\''] := rfl
  have left : "0000000001','".toList = "0000000001".toList ++ ['\'', ',', '\''] := rfl
  have closing : "');".toList = ['\'', ')', ';'] := rfl
  obtain ⟨both, before, behind, quote, nothing⟩ := between
  rw [reportSql, String.toList_join, insertSource, reportCells, reportRow, tradeTimes, times, Option.getD_some]
  simp only [List.flatMap_cons, List.flatMap_nil, reportHead_source, both, quote, closing, one, left, quoted_source,
    if_false, Bool.false_eq_true, List.map_cons, List.map_nil, listSource, List.append_assoc, List.cons_append,
    List.nil_append, List.append_nil]

theorem report_source {order : ReportedOrder} {conns : MapShConns} {sql : String}
    (built : (fixToSHReport order conns).1 = some sql) : ∃ conn, conns order.sessionId = some conn ∧
      sql.toList = insertSource false gStrSHCjhbTableName.toList (reportColumns.map String.toList)
        (reportCells order conn) := by
  unfold fixToSHReport at built
  split at built
  next strTransDate strTransTime conn times session =>
    obtain rfl := Option.some.inj built
    exact ⟨conn, session, reportSql_source times conn⟩
  next => cases built

theorem report_verbatim_iff (order : ReportedOrder) (conn : ShNumbers) :
    (∀ cell ∈ reportCells order conn, cell.Verbatim dialect) ↔ Verbatims dialect (reportTexts order) := by
  have price : dialect.Verbatim (iLiToStr order.priceMatched 3).toList := numeric_verbatim (numeric_price _)
  have amount : dialect.Verbatim (cjje order.toOrderMessage).toList := numeric_verbatim (numeric_cjje _)
  have number : dialect.Verbatim (itostr conn.incCjbh.1).toList := numeric_verbatim (numeric_itostr _)
  have one : dialect.Verbatim "1".toList := Dialect.verbatim_of_plain (by simp)
  have left : dialect.Verbatim "0000000001".toList := Dialect.verbatim_of_plain (by simp)
  have desk : dialect.Verbatim "66666".toList := Dialect.verbatim_of_plain (by simp)
  have quoted (text : List Char) : (SqlCell.quoted text).Verbatim dialect ↔ dialect.Verbatim text := Iff.rfl
  simp only [reportCells, reportRow, reportTexts, Verbatims, List.map_cons, List.map_nil, List.forall_mem_cons, quoted,
    price, amount, number, one, left, desk, true_and, and_self_left, List.not_mem_nil, false_implies, implies_true]

theorem report_says_iff {order : ReportedOrder} {conns : MapShConns} {sql : String}
    (built : (fixToSHReport order conns).1 = some sql) : ∃ conn, conns order.sessionId = some conn ∧
      (Says dialect sql gStrSHCjhbTableName (reportRow order conn) ↔ Verbatims dialect (reportTexts order)) := by
  obtain ⟨conn, session, source⟩ := report_source built
  have texts : (reportCells order conn).map SqlCell.text = (reportRow order conn).map fun column => column.2.toList := by
    rw [reportCells, List.map_map]
    rfl
  refine ⟨conn, session, ?_⟩
  rw [says_iff source texts names_are_words.2.1 names_are_words.2.2 (List.cons_ne_nil _ _)]
  exact report_verbatim_iff order conn

/-! The statements of a rule. -/

/-- The words that stand for a number or a time that is made when they are resolved. -/
def generated : List String := ["$REC_NUM", "$DATE", "$TIME_C8", "$TIME_C6", "$SH_CJBH"]

/-- The text that a word stands for as it is: the field of the order that it names, or the
word itself. -/
def wordText (order : ReportedOrder) (word : String) : Option String :=
  match word.toList with
  | '@' :: atValue => order.jsOrder (String.ofList atValue)
  | _ => if word ∈ generated then none else some word

/-- The text that a member of a rule puts into its column as it is; two words and more are
worked out. -/
def ruleText (order : ReportedOrder) (elem : RuleElement) (ruleKey : String) : Option String :=
  match elem ruleKey with
  | some (.text words) =>
    match splitBlank words with
    | [word] => wordText order word
    | _ => none
  | _ => none

theorem wordText_field {word : String} {atValue : List Char} (named : word.toList = '@' :: atValue)
    (order : ReportedOrder) : wordText order word = order.jsOrder (String.ofList atValue) := by
  simp only [wordText, named]

theorem wordText_other {word : String} (other : ∀ atValue, word.toList ≠ '@' :: atValue) (order : ReportedOrder) :
    wordText order word = if word ∈ generated then none else some word := by
  rw [wordText]
  split
  next atValue field => exact absurd field (other atValue)
  next => rfl

theorem generated_dollar {word : String} (listed : word ∈ generated) : ∃ tail, word.toList = '$' :: tail := by
  have shape : ∀ word ∈ generated, word.toList = '$' :: word.toList.tail := by
    simp [generated]
  exact ⟨_, shape word listed⟩

theorem replaceWord_verbatim_iff {order : ReportedOrder} {clock : CalendarTime} {conns : MapShConns}
    {word out text : String} {code : Int} (success : code ≠ -1)
    (replaced : ShDb.replaceWord (ruleWords order clock conns) word out = (code, text)) :
    dialect.Verbatim text.toList ↔ ∀ own, wordText order word = some own → dialect.Verbatim own.toList := by
  obtain ⟨date, long, short⟩ := numeric_times clock.tm
  have made (shape : wordText order word = none) (numeric : Numeric text.toList) :
      dialect.Verbatim text.toList ↔ ∀ own, wordText order word = some own → dialect.Verbatim own.toList := by
    refine iff_of_true (numeric_verbatim numeric) ?_
    intro own found
    rw [shape] at found
    cases found
  have taken (shape : wordText order word = some text) :
      dialect.Verbatim text.toList ↔ ∀ own, wordText order word = some own → dialect.Verbatim own.toList := by
    simp only [shape, Option.some.injEq, forall_eq']
  unfold ShDb.replaceWord at replaced
  dsimp only at replaced
  split at replaced
  next nothing =>
    cases replaced
    apply taken
    rw [wordText_other (by simp [nothing]), String.toList_eq_nil_iff.mp nothing]
    rfl
  next rest dollar =>
    have other : ∀ atValue, word.toList ≠ '@' :: atValue := by simp [dollar]
    have shape := wordText_other other order
    split_ifs at replaced with recNum day eight six trade
    · split at replaced
      next value _ =>
        cases replaced
        exact made (by rw [shape, if_pos (by simp [generated, recNum])]) (numeric_itostr value)
      next =>
        cases replaced
        exact absurd rfl success
    · cases replaced
      exact made (by rw [shape, if_pos (by simp [generated, day])]) date
    · cases replaced
      exact made (by rw [shape, if_pos (by simp [generated, eight])]) long
    · cases replaced
      exact made (by rw [shape, if_pos (by simp [generated, six])]) short
    · split at replaced
      next value _ =>
        cases replaced
        exact made (by rw [shape, if_pos (by simp [generated, trade])]) (numeric_itostr value)
      next =>
        cases replaced
        exact absurd rfl success
    · cases replaced
      exact taken (by rw [shape, if_neg (by simp [generated, recNum, day, eight, six, trade])])
  next atValue field =>
    have shape := wordText_field field order
    dsimp only [ruleWords] at replaced
    split at replaced
    next =>
      cases replaced
      exact absurd rfl success
    next ordValue found =>
      cases replaced
      exact taken (shape.trans found)
  next none dollar named =>
    cases replaced
    have unlisted : word ∉ generated := by
      intro listed
      obtain ⟨tail, shape⟩ := generated_dollar listed
      exact dollar tail shape
    exact taken (by rw [wordText_other named order, if_neg unlisted])

theorem resolved_verbatim_iff {order : ReportedOrder} {clock : CalendarTime} {conns : MapShConns} {elem : RuleElement}
    {ruleKey out text : String} {code : Int} (success : code ≠ -1)
    (resolved : ShDb.resolveRule (ruleWords order clock conns) elem ruleKey out = some (code, text)) :
    dialect.Verbatim text.toList ↔ ∀ own, ruleText order elem ruleKey = some own → dialect.Verbatim own.toList := by
  unfold ShDb.resolveRule at resolved
  split at resolved
  next words member =>
    split at resolved
    next nothing => exact absurd nothing (mt List.map_eq_nil_iff.mp (List.splitOn_ne_nil _ _))
    next word only =>
      have taken : ruleText order elem ruleKey = wordText order word := by
        simp only [ruleText, member, only]
      rw [taken]
      exact replaceWord_verbatim_iff success (Option.some.inj resolved)
    next several =>
      split at resolved
      next =>
        cases resolved
        exact absurd rfl success
      next =>
        obtain ⟨trans, printed, same⟩ := Option.map_eq_some_iff.mp resolved
        cases same
        refine iff_of_true (numeric_verbatim (numeric_double printed)) ?_
        intro own found
        simp only [ruleText, member] at found
        cases found
  next =>
    cases resolved
    exact absurd rfl success

/-- The columns of a row of a rule with what their members are resolved to, each on the
counters that the ones before it have left. -/
def ruleRow (order : ReportedOrder) (clock : String → CalendarTime) (elem : RuleElement) :
    List String → String → MapShConns → Option (List (String × String))
  | [], _, _ => some []
  | ruleKey :: columns, strResolveValue, conns =>
    (ShDb.resolveRule (ruleWords order (clock ruleKey) conns) elem ruleKey strResolveValue).bind fun resolved =>
      if resolved.1 = -1 then none
      else
        (ruleRow order clock elem columns resolved.2 (drawn order conns elem ruleKey)).map ((ruleKey, resolved.2) :: ·)

/-- Nothing is a null, and in the last column what that has for it. -/
def ruleCells (nothing : SqlCell) : List (String × String) → List SqlCell
  | [] => []
  | [column] => [if column.2.isEmpty then nothing else .quoted column.2.toList]
  | column :: next :: row =>
    (if column.2.isEmpty then .null true else .quoted column.2.toList) :: ruleCells nothing (next :: row)

section
variable {order : ReportedOrder} {clock : String → CalendarTime} {elem : RuleElement} {columns : List String}
  {out : String} {conns : MapShConns} {row : List (String × String)} {nothing : SqlCell}

theorem ruleRow_columns (resolved : ruleRow order clock elem columns out conns = some row) :
    row.map Prod.fst = columns := by
  induction columns generalizing out conns row with
  | nil =>
    cases resolved
    rfl
  | cons ruleKey columns ih =>
    obtain ⟨found, _, rest⟩ := Option.bind_eq_some_iff.mp resolved
    split at rest
    next => cases rest
    next =>
      obtain ⟨more, others, rfl⟩ := Option.map_eq_some_iff.mp rest
      rw [List.map_cons, ih others]

theorem cell_text {other : SqlCell} (none : other.text = []) (text : String) :
    (if text.isEmpty then other else .quoted text.toList).text = text.toList := by
  split
  next empty => rw [none, String.isEmpty_iff.mp empty, String.toList_empty]
  next => rfl

theorem cell_verbatim_iff {other : SqlCell} (plain : other.Verbatim dialect) (text : String) :
    (if text.isEmpty then other else .quoted text.toList).Verbatim dialect ↔ dialect.Verbatim text.toList := by
  split
  next empty =>
    rw [String.isEmpty_iff.mp empty]
    exact iff_of_true plain empty_verbatim
  next => exact Iff.rfl

theorem ruleCells_text (none : nothing.text = []) (row : List (String × String)) :
    (ruleCells nothing row).map SqlCell.text = row.map fun column => column.2.toList := by
  induction row with
  | nil => rfl
  | cons column row ih =>
    cases row with
    | nil => rw [ruleCells, List.map_singleton, cell_text none, List.map_singleton]
    | cons next row =>
      rw [ruleCells, List.map_cons, cell_text rfl, ih]
      rfl

theorem ruleCells_verbatim_iff (plain : nothing.Verbatim dialect)
    (resolved : ruleRow order clock elem columns out conns = some row) :
    (∀ cell ∈ ruleCells nothing row, cell.Verbatim dialect) ↔
      ∀ column ∈ columns, ∀ own, ruleText order elem column = some own → dialect.Verbatim own.toList := by
  induction columns generalizing out conns row with
  | nil =>
    cases resolved
    simp [ruleCells]
  | cons ruleKey columns ih =>
    obtain ⟨⟨code, text⟩, found, rest⟩ := Option.bind_eq_some_iff.mp resolved
    split at rest
    next => cases rest
    next success =>
      obtain ⟨more, others, rfl⟩ := Option.map_eq_some_iff.mp rest
      have own := @resolved_verbatim_iff dialect _ _ _ _ _ _ _ _ success found
      have null : (SqlCell.null true).Verbatim dialect := trivial
      rw [List.forall_mem_cons, ← ih others, ← own]
      cases more with
      | nil => simp only [ruleCells, List.forall_mem_singleton, cell_verbatim_iff plain, List.not_mem_nil, false_implies,
          implies_true, and_true]
      | cons next more => simp only [ruleCells, List.forall_mem_cons, cell_verbatim_iff null]

theorem listSource_cons {item : List Char} {items : List (List Char)} (filled : items ≠ []) :
    listSource (item :: items) = item ++ ',' :: listSource items := by
  cases items with
  | nil => exact absurd rfl filled
  | cons next items => rfl

theorem ruleCells_ne_nil (filled : row ≠ []) : ruleCells nothing row ≠ [] := by
  match row with
  | [] => exact absurd rfl filled
  | [_] => exact List.cons_ne_nil _ _
  | _ :: _ :: _ => exact List.cons_ne_nil _ _

theorem last_source {other : SqlCell} {strEmpty : String} (empty : other.source = strEmpty.toList) (text : String) :
    (if text.isEmpty then strEmpty else "'" ++ text ++ "'").toList =
      (if text.isEmpty then other else .quoted text.toList).source := by
  split
  next => exact empty.symm
  next =>
    rw [String.toList_append, String.toList_append, between.2.2.2.1, quoted_source]
    simp

theorem value_source (text : String) : (if text.isEmpty then "NULL," else "'" ++ text ++ "',").toList =
    (if text.isEmpty then .null true else .quoted text.toList : SqlCell).source ++ [','] := by
  split
  next => rfl
  next =>
    rw [String.toList_append, String.toList_append, between.2.2.2.1, between.2.2.1, quoted_source]
    simp

theorem appendColumns_source {strEmpty sql whole left : String} (empty : nothing.source = strEmpty.toList)
    (filled : columns ≠ [])
    (appended : (appendColumns order clock elem strEmpty columns sql out conns).1 = some (whole, left)) :
    ∃ row, ruleRow order clock elem columns out conns = some row ∧
      whole.toList ++ [')'] = sql.toList ++ listSource ((ruleCells nothing row).map SqlCell.source) := by
  induction columns generalizing out conns sql with
  | nil => exact absurd rfl filled
  | cons ruleKey columns ih =>
    rw [appendColumns] at appended
    dsimp only at appended
    split at appended
    next => cases appended
    next code text found =>
      split at appended
      next => cases appended
      next success =>
        have one {rest : List (String × String)}
            (others : ruleRow order clock elem columns text (drawn order conns elem ruleKey) = some rest) :
            ruleRow order clock elem (ruleKey :: columns) out conns = some ((ruleKey, text) :: rest) := by
          rw [ruleRow, found, Option.bind_some, if_neg success, others]
          rfl
        cases columns with
        | nil =>
          rw [appendColumns, Option.some.injEq, Prod.mk.injEq] at appended
          refine ⟨[(ruleKey, text)], one rfl, ?_⟩
          rw [← appended.1, String.toList_append, List.append_assoc, ruleCells, List.map_singleton, listSource,
            ← last_source empty]
          rfl
        | cons next columns =>
          obtain ⟨row, others, source⟩ := ih (List.cons_ne_nil _ _) appended
          have some : row ≠ [] := by
            intro none
            have columns := ruleRow_columns others
            rw [none] at columns
            cases columns
          refine ⟨(ruleKey, text) :: row, one others, ?_⟩
          obtain ⟨second, rest, rfl⟩ := List.exists_cons_of_ne_nil some
          have cells : (ruleCells nothing (second :: rest)).map SqlCell.source ≠ [] :=
            mt List.map_eq_nil_iff.mp (ruleCells_ne_nil some)
          rw [source, ruleCells, List.map_cons, listSource_cons cells, String.toList_append, List.append_assoc]
          congr 1
          exact (congrArg (· ++ _) (value_source text)).trans (List.append_assoc _ _ _)

/-- The texts of the order's and the rule's that a row of a rule has. -/
def RuleVerbatims (dialect : Dialect) (order : ReportedOrder) (elem : RuleElement) (columns : List String) : Prop :=
  ∀ column ∈ columns, ∀ own, ruleText order elem column = some own → dialect.Verbatim own.toList

theorem rule_says_iff {spaced : Bool} {head strEmpty table whole left : String} (empty : nothing.source = strEmpty.toList)
    (none : nothing.text = []) (plain : nothing.Verbatim dialect) (filled : columns ≠ [])
    (start : head.toList = insertWord ++ ' ' :: (intoWord ++ ' ' :: (table.toList ++
      ((if spaced then [' ', '('] else ['(']) ++
        (listSource (columns.map String.toList) ++ ' ' :: (valuesWord ++ ['(']))))))
    (isName : IsName table.toList) (names : ∀ column ∈ columns.map String.toList, IsName column)
    (appended : (appendColumns order clock elem strEmpty columns head out conns).1 = some (whole, left)) :
    ∃ row, ruleRow order clock elem columns out conns = some row ∧
      (Says dialect (whole ++ ");") table row ↔ RuleVerbatims dialect order elem columns) := by
  obtain ⟨row, resolved, source⟩ := appendColumns_source empty filled appended
  have known := ruleRow_columns resolved
  have words : (row.map fun column => column.1.toList) = columns.map String.toList := by
    rw [← known, List.map_map]
    rfl
  have some : row ≠ [] := by
    rintro rfl
    exact filled known.symm
  have closing : ");".toList = [')'] ++ [';'] := rfl
  have text : (whole ++ ");").toList = insertSource spaced table.toList (row.map fun column => column.1.toList)
      (ruleCells nothing row) := by
    rw [String.toList_append, closing, ← List.append_assoc, source, start, words, insertSource]
    simp only [List.append_assoc, List.cons_append, List.nil_append]
  refine ⟨row, resolved, ?_⟩
  rw [says_iff text (ruleCells_text none row) isName (words ▸ names) some]
  exact ruleCells_verbatim_iff plain resolved

end

theorem confirmRule_says_iff {order : ReportedOrder} {clock : String → CalendarTime}
    {docRuleConfirm : Option RuleElement} {conns : MapShConns} {sql : String}
    (built : (fixToSHConfirmJsonRule order clock docRuleConfirm conns).1 = some sql) :
    ∃ elem row, docRuleConfirm = some elem ∧ ruleRow order clock elem confirmColumns "" conns = some row ∧
      (Says dialect sql gStrSHOrdwth2TableName row ↔ RuleVerbatims dialect order elem confirmColumns) := by
  unfold fixToSHConfirmJsonRule at built
  split at built
  next => cases built
  next elem =>
    obtain ⟨⟨whole, left⟩, appended, rfl⟩ := Option.map_eq_some_iff.mp built
    have zeros : (SqlCell.zeros 32).source = "0x00000000000000000000000000000000".toList := rfl
    obtain ⟨row, resolved, meant⟩ := @rule_says_iff dialect _ _ _ _ _ _ _ true _ _ gStrSHOrdwth2TableName _ _ zeros rfl
      trivial (List.cons_ne_nil _ _) confirmHead_source names_are_words.1.1 names_are_words.1.2 appended
    exact ⟨elem, row, rfl, resolved, meant⟩

theorem reportRows_says_iff {order : ReportedOrder} {clock : Nat → String → CalendarTime}
    {elems : List (Option RuleElement)} {i place : Nat} {strResolveValue sql : String} {conns : MapShConns}
    (pushed : (reportRows order clock elems i strResolveValue conns).2.1[place]? = some sql) :
    ∃ elem row out before, elems[place]? = some (some elem) ∧
      ruleRow order (clock (i + place)) elem reportColumns out before = some row ∧
      (Says dialect sql gStrSHCjhbTableName row ↔ RuleVerbatims dialect order elem reportColumns) := by
  induction elems generalizing i place strResolveValue conns with
  | nil => simp [reportRows] at pushed
  | cons element elems ih =>
    cases element with
    | none => simp [reportRows] at pushed
    | some elem =>
      rw [reportRows] at pushed
      split at pushed
      next => simp at pushed
      next whole left after appended =>
        cases place with
        | zero =>
          rw [List.getElem?_cons_zero, Option.some.injEq] at pushed
          have null : (SqlCell.null true).source = "NULL".toList := rfl
          obtain ⟨row, resolved, meant⟩ := @rule_says_iff dialect _ _ _ _ _ _ _ false _ _ gStrSHCjhbTableName _ _ null
            rfl trivial (List.cons_ne_nil _ _) reportHead_source names_are_words.2.1 names_are_words.2.2
            (congrArg Prod.fst appended)
          exact ⟨elem, row, _, _, rfl, resolved, pushed ▸ meant⟩
        | succ place =>
          rw [List.getElem?_cons_succ] at pushed
          obtain ⟨other, row, out, before, found, resolved, meant⟩ := ih pushed
          refine ⟨other, row, out, before, found, ?_, meant⟩
          rw [← resolved, Nat.add_assoc, Nat.add_comm 1]

/-- Whatever database reads them: the four statements say what they are to say just where
the texts they take from the order and from the rule read as themselves between quotes. -/
theorem statements_say_iff (dialect : Dialect) (order : ReportedOrder) (clock : Nat → String → CalendarTime)
    (docRuleConfirm : Option RuleElement) (docRuleMatch : Option (List (Option RuleElement))) (conns : MapShConns) :
    (∀ sql, (fixToSHConfirm order conns).1 = some sql → ∃ conn, conns order.sessionId = some conn ∧
      (Says dialect sql gStrSHOrdwth2TableName (confirmRow order conn) ↔ Verbatims dialect (confirmTexts order))) ∧
    (∀ sql, (fixToSHReport order conns).1 = some sql → ∃ conn, conns order.sessionId = some conn ∧
      (Says dialect sql gStrSHCjhbTableName (reportRow order conn) ↔ Verbatims dialect (reportTexts order))) ∧
    (∀ sql, (fixToSHConfirmJsonRule order (clock 0) docRuleConfirm conns).1 = some sql →
      ∃ elem row, docRuleConfirm = some elem ∧ ruleRow order (clock 0) elem confirmColumns "" conns = some row ∧
        (Says dialect sql gStrSHOrdwth2TableName row ↔ RuleVerbatims dialect order elem confirmColumns)) ∧
    ∀ (place : Nat) sql, (fixToSHReportJsonRule order clock docRuleMatch conns).2.1[place]? = some sql →
      ∃ elems elem row out before, docRuleMatch = some elems ∧ elems[place]? = some (some elem) ∧
        ruleRow order (clock place) elem reportColumns out before = some row ∧
        (Says dialect sql gStrSHCjhbTableName row ↔ RuleVerbatims dialect order elem reportColumns) := by
  refine ⟨fun sql built => confirm_says_iff built, fun sql built => report_says_iff built,
    fun sql built => confirmRule_says_iff built, ?_⟩
  intro place sql pushed
  unfold fixToSHReportJsonRule at pushed
  split at pushed
  next => simp at pushed
  next elems =>
    obtain ⟨elem, row, out, before, found, resolved, meant⟩ := @reportRows_says_iff dialect _ _ _ _ _ _ _ _ pushed
    rw [Nat.zero_add] at resolved
    exact ⟨elems, elem, row, out, before, rfl, found, resolved, meant⟩

/-- A buy under a number of the counter's own. -/
def sample (clOrdId : String) : ReportedOrder where
  transactTime := "20170512-09:30:00.000"
  msgType := Step.msgTypeNewOrder
  sessionId := "sh"
  accountId := "A100"
  stockID := "600000"
  side := "B"
  strOrderqtyOrigin := "100"
  ordType := "LIM"
  marketBranchid := "88888"
  clOrdId := clOrdId

def session : MapShConns := fun _ => some {}

theorem sample_built (clOrdId : String) : ∃ sql, (fixToSHConfirm (sample clOrdId) session).1 = some sql := by
  have times : transTimes (sample clOrdId).toOrderMessage = some ("20170512", "09:30:00") := by
    have text : (sample clOrdId).transactTime.toList = "20170512-09:30:00.000".toList := rfl
    have dash : find ['-'] "20170512-09:30:00.000".toList = some 8 := rfl
    have point : find ['.'] "20170512-09:30:00.000".toList = some 17 := rfl
    rw [transTimes, text, dash, point]
    rfl
  have named : reff (sample clOrdId).toOrderMessage = some clOrdId := rfl
  have stands : status (sample clOrdId).toOrderMessage = some "O" := rfl
  simp only [fixToSHConfirm, times, session, named, stands, Option.some.injEq, exists_eq']

/-- The row of an ordinary order, with blanks and nulls where the order has nothing. -/
theorem plain_order_said : ∃ sql conn, (fixToSHConfirm (sample "17") session).1 = some sql ∧
    Says Dialect.transactSql sql gStrSHOrdwth2TableName (confirmRow (sample "17") conn) := by
  obtain ⟨sql, built⟩ := sample_built "17"
  obtain ⟨conn, _, meant⟩ :=
    (statements_say_iff Dialect.transactSql (sample "17") (fun _ _ => CalendarStamps.halfMinute) none none session).1
      sql built
  refine ⟨sql, conn, built, meant.mpr ?_⟩
  have plain : ((confirmTexts (sample "17")).all fun text =>
      text.toList.all fun char => char != '\'' && char != '\\') = true := by
    rfl
  intro text found
  apply Dialect.verbatim_of_plain
  intro char inside
  have one := List.all_eq_true.mp (List.all_eq_true.mp plain text found) char inside
  simpa using one

/-- A quote in the counter's number ends its value early. -/
theorem quoted_order_unsaid : ¬ ∀ (order : ReportedOrder) (conns : MapShConns) (sql : String),
    (fixToSHConfirm order conns).1 = some sql → ∃ conn, conns order.sessionId = some conn ∧
      Says Dialect.transactSql sql gStrSHOrdwth2TableName (confirmRow order conn) := by
  intro always
  obtain ⟨sql, built⟩ := sample_built "1'7"
  obtain ⟨conn, there, said⟩ := always _ _ sql built
  obtain ⟨other, same, meant⟩ := @confirm_says_iff Dialect.transactSql _ _ _ built
  obtain rfl := Option.some.inj (there.symm.trans same)
  have verbatim := meant.mp said "1'7" (List.mem_of_elem_eq_true rfl)
  exact verbatim.1 (by simp)

end Simutgw.Proofs.ReportStatements
