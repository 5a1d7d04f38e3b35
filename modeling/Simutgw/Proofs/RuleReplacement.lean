import Simutgw.Proofs.RuleLookup
import Simutgw.Logic.Overlay

/-! A rule inserted where one of its id is, against the same rule inserted where none
is. What is stored says something about each part of a rule, and a document is a patch
over it: a new rule starts from the empty parts, another from those of the rule before
it, of which nothing is taken away. -/

namespace Simutgw.Proofs.RuleReplacement
open Std Logic MatchRule TgwStringUtil RuleLookup

/-- A part of a rule. The trades are those of the match part. -/
inductive RulePart (Key : Type)
  | ruleId
  | timestamp
  | regexes
  | confirm
  | trades
  | condition (field : Key)

section Parts

variable {lib : RegexLibrary} {Key : Type} [Ord Key]

abbrev RulePart.Value (lib : RegexLibrary) : RulePart Key → Type
  | .ruleId | .timestamp => UInt64
  | .regexes => List (String × String)
  | .confirm | .trades => JsonValue
  | .condition _ => lib.Regex

/-- What a stored rule says of its parts. -/
def told (rule : MatchRuleBase lib Key) : Patch (RulePart Key) (RulePart.Value lib)
  | .ruleId => some rule.ui64RuleId
  | .timestamp => some rule.ui64Timestamp
  | .regexes => some rule.docRegexes
  | .confirm => some rule.docRuleConfirm
  | .trades => some rule.docRuleMatch
  | .condition field => rule.mapRegexs[field]?

/-- What a rule without any documents says. -/
def blank : Patch (RulePart Key) (RulePart.Value lib)
  | .confirm => some (.object "{}")
  | .trades => some (.array "[]")
  | _ => none

/-- The confirmation part that is taken over. -/
def confirmOf (doc : RuleDoc) : Option JsonValue :=
  if JsonValue.isObject doc.rule_confirm then doc.rule_confirm else none

/-- The regexes of the conditions. -/
def compiled (lib : RegexLibrary) (key : String → Key) (members : List (String × String)) : TreeMap Key lib.Regex :=
  (assignAll key ∅ members).1

/-- What a document says of a rule, with the trades it gives. -/
def said (key : String → Key) (doc : RuleDoc) (trades : Option JsonValue) (ruleId : UInt64)
    (members : List (String × String)) : Patch (RulePart Key) (RulePart.Value lib)
  | .ruleId => some ruleId
  | .timestamp => some (UInt64.ofInt (doc.timestamp.getD 0))
  | .regexes => some members
  | .confirm => confirmOf doc
  | .trades => trades
  | .condition field => (compiled lib key members)[field]?

/-- The trades that an exchange takes over for a rule that it has, and those it takes
for a new one, `none` where it asks for a member that is not there. -/
structure Reads (exchange : Exchange lib Key) where
  trades : RuleDoc → Option JsonValue
  first : RuleDoc → Option (Option JsonValue)
  updates : ∀ doc rule, exchange.setDocs false doc rule =
    some { rule with
      docRuleConfirm := (confirmOf doc).getD rule.docRuleConfirm
      docRuleMatch := (trades doc).getD rule.docRuleMatch }
  creates : ∀ doc rule, exchange.setDocs true doc rule =
    (first doc).map fun given =>
      { rule with
        docRuleConfirm := (confirmOf doc).getD rule.docRuleConfirm
        docRuleMatch := given.getD rule.docRuleMatch }

end Parts

theorem setRuleConfirm_object {lib : RegexLibrary} {Key : Type} [Ord Key] (doc : RuleDoc)
    (rule : MatchRuleBase lib Key) :
    (if JsonValue.isObject doc.rule_confirm then setRuleConfirm doc rule else rule) =
      { rule with docRuleConfirm := (confirmOf doc).getD rule.docRuleConfirm } := by
  simp only [confirmOf, setRuleConfirm]
  cases doc.rule_confirm with
  | none => rfl
  | some value => cases value <;> rfl

/-- Shanghai takes an array for the trades, for a new rule as for another. -/
def shTrades (doc : RuleDoc) : Option JsonValue :=
  if JsonValue.isArray doc.rule_match then doc.rule_match else none

/-- Shenzhen takes an object. -/
def szTrades (doc : RuleDoc) : Option JsonValue :=
  if JsonValue.isObject doc.rule_match then doc.rule_match else none

def shReads (lib : RegexLibrary) : Reads (Sh.exchange lib) where
  trades := shTrades
  first doc := some (shTrades doc)
  updates doc rule := by
    simp only [Sh.exchange, setRuleConfirm_object, setRuleMatch, shTrades]
    cases doc.rule_match with
    | none => rfl
    | some value => cases value <;> rfl
  creates doc rule := by
    simp only [Sh.exchange, setRuleConfirm_object, setRuleMatch, shTrades]
    cases doc.rule_match with
    | none => rfl
    | some value => cases value <;> rfl

def szReads (lib : RegexLibrary) : Reads (Sz.exchange lib) where
  trades := szTrades
  -- Where there are trades, a new rule takes the confirmation for them.
  first doc := if JsonValue.isObject doc.rule_match then doc.rule_confirm.map some else some none
  updates doc rule := by
    simp only [Sz.exchange, setRuleConfirm_object, setRuleMatch, szTrades]
    cases doc.rule_match with
    | none => rfl
    | some value => cases value <;> rfl
  creates doc rule := by
    simp only [Sz.exchange, setRuleConfirm_object, if_true]
    split
    · rw [Option.map_map]
      rfl
    · rfl

section Insertion

variable {lib : RegexLibrary} {Key : Type} [Ord Key] {exchange : Exchange lib Key}

/-- The rule that a document makes of the one that is there, if there is one. -/
def revised (exchange : Exchange lib Key) (doc : RuleDoc) (ruleId : UInt64) (members : List (String × String))
    (old : Option (MatchRuleBase lib Key)) : Option (MatchRuleBase lib Key) :=
  exchange.setDocs old.isNone doc
    (setRegex exchange.key (old.getD {}) ruleId members (UInt64.ofInt (doc.timestamp.getD 0))).1

theorem takenDoc_inv {doc : RuleDoc} {ruleId : UInt64} {members : List (String × String)}
    (taken : takenDoc lib doc = some (ruleId, members)) :
    ∃ strRuleId judge, doc.ruleId = some strRuleId ∧ string2UInt64 strRuleId = ruleId ∧
      doc.judge_cond = some judge ∧ condTexts judge = some members ∧
      UInt64.ofInt (doc.timestamp.getD 0) ≠ 0 ∧ ∀ one ∈ members, (lib.assign one.2).isSome := by
  unfold takenDoc at taken
  split at taken
  next strRuleId texts id cond =>
    obtain ⟨judge, there, texts⟩ := Option.bind_eq_some_iff.mp cond
    split at taken
    next sound =>
      cases taken
      exact ⟨strRuleId, judge, id, rfl, there, texts, sound.1, sound.2⟩
    · cases taken
  · cases taken

/-- A document that is taken is stored as it revises the rule of its id, whatever
becomes of the database. -/
theorem insertSingleRule_taken {doc : RuleDoc} {ruleId : UInt64} {members : List (String × String)}
    (taken : takenDoc lib doc = some (ruleId, members)) (bUpdateToDb updated : Bool) (rules : Rules lib Key) :
    insertSingleRule exchange doc bUpdateToDb updated rules =
      (revised exchange doc ruleId members rules[ruleId]?).map fun rule =>
        (.returned (if bUpdateToDb && !updated then -1 else 0), rules.insert ruleId rule) := by
  obtain ⟨strRuleId, judge, id, same, cond, texts, stamp, compile⟩ := takenDoc_inv taken
  subst same
  simp only [insertSingleRule, id, cond, Option.map_some, texts, stamp, if_false]
  cases stored : rules[string2UInt64 strRuleId]? with
  | none =>
    have set := (setRegex_set exchange.key ({} : MatchRuleBase lib Key) (string2UInt64 strRuleId) members
      (UInt64.ofInt (doc.timestamp.getD 0))).mpr compile
    simp only [revised, Option.isNone_none, Option.getD_none]
    split
    next broken =>
      rw [broken] at set
      cases set
    next ptr made => rw [made]
  | some old =>
    have set := (setRegex_set exchange.key old (string2UInt64 strRuleId) members
      (UInt64.ofInt (doc.timestamp.getD 0))).mpr compile
    simp only [revised, Option.isNone_some, Option.getD_some]
    split
    next broken =>
      rw [broken] at set
      cases set
    next rule made => rw [made]

/-- The rule of an id that an insertion leaves. -/
def Leaves (exchange : Exchange lib Key) (doc : RuleDoc) (bUpdateToDb updated : Bool) (rules : Rules lib Key)
    (ruleId : UInt64) (rule : MatchRuleBase lib Key) : Prop :=
  ∃ code later, insertSingleRule exchange doc bUpdateToDb updated rules = some (.returned code, later) ∧
    later[ruleId]? = some rule

theorem leaves_iff {doc : RuleDoc} {ruleId : UInt64} {members : List (String × String)}
    (taken : takenDoc lib doc = some (ruleId, members)) {bUpdateToDb updated : Bool}
    {rules : Rules lib Key} {rule : MatchRuleBase lib Key} :
    Leaves exchange doc bUpdateToDb updated rules ruleId rule ↔
      revised exchange doc ruleId members rules[ruleId]? = some rule := by
  rw [Leaves, insertSingleRule_taken taken]
  constructor
  · rintro ⟨code, later, ran, there⟩
    obtain ⟨made, revision, same⟩ := Option.map_eq_some_iff.mp ran
    cases same
    rw [TreeMap.getElem?_insert_self] at there
    rw [revision, there]
  · intro revision
    rw [revision]
    exact ⟨_, _, rfl, TreeMap.getElem?_insert_self⟩

end Insertion

section Revision

variable {lib : RegexLibrary} {Key : Type} [Ord Key] [TransOrd Key] {exchange : Exchange lib Key}

theorem assignAll_lay (key : String → Key) {members : List (String × String)}
    (compile : ∀ one ∈ members, (lib.assign one.2).isSome) {mapRegexs own : TreeMap Key lib.Regex}
    {known : Key → Option lib.Regex} (over_ : ∀ field, mapRegexs[field]? = own[field]?.or (known field))
    (field : Key) :
    (assignAll key mapRegexs members).1[field]? = (assignAll key own members).1[field]?.or (known field) := by
  induction members generalizing mapRegexs own with
  | nil => exact over_ field
  | cons one members ih =>
    obtain ⟨strName, strValue⟩ := one
    obtain ⟨regex, text⟩ := Option.isSome_iff_exists.mp (compile _ List.mem_cons_self)
    simp only [assignAll, text]
    apply ih (fun later found => compile later (List.mem_cons_of_mem _ found))
    intro other
    simp only [TreeMap.getElem?_insert]
    split
    · rfl
    · exact over_ other

theorem compiled_isSome (key : String → Key) {members : List (String × String)}
    (compile : ∀ one ∈ members, (lib.assign one.2).isSome) (field : Key) :
    (compiled lib key members)[field]? ≠ none ↔ ∃ one ∈ members, compare (key one.1) field = .eq := by
  suffices later : ∀ own : TreeMap Key lib.Regex, (assignAll key own members).1[field]? ≠ none ↔
      own[field]? ≠ none ∨ ∃ one ∈ members, compare (key one.1) field = .eq by
    simpa only [compiled, TreeMap.getElem?_emptyc, ne_eq, not_true_eq_false, false_or] using later ∅
  induction members with
  | nil => simp [assignAll]
  | cons one members ih =>
    intro own
    obtain ⟨strName, strValue⟩ := one
    obtain ⟨regex, text⟩ := Option.isSome_iff_exists.mp (compile _ List.mem_cons_self)
    simp only [assignAll, text, List.exists_mem_cons_iff]
    rw [ih (fun later found => compile later (List.mem_cons_of_mem _ found)), TreeMap.getElem?_insert]
    by_cases here : compare (key strName) field = .eq
    · simp only [here, if_true, ne_eq, reduceCtorEq, not_false_eq_true, true_or, or_true]
    · simp only [here, if_false, false_or]

/-- A rule that is revised says what the document says, and else what it said before. -/
theorem told_setRegex {ruleId : UInt64} {members : List (String × String)}
    (compile : ∀ one ∈ members, (lib.assign one.2).isSome) (key : String → Key) (rule : MatchRuleBase lib Key)
    (doc : RuleDoc) (trades : Option JsonValue) {set : MatchRuleBase lib Key}
    (setting : (setRegex key rule ruleId members (UInt64.ofInt (doc.timestamp.getD 0))).1 = set) :
    told { set with
        docRuleConfirm := (confirmOf doc).getD set.docRuleConfirm
        docRuleMatch := trades.getD set.docRuleMatch } =
      (told rule).lay (said key doc trades ruleId members) := by
  have assigned := (assignAll_assigned key members rule.mapRegexs).mpr compile
  simp only [setRegex, assigned, if_true] at setting
  subst setting
  funext part
  cases part with
  | ruleId | timestamp | regexes => rfl
  | confirm => cases given : confirmOf doc <;> simp only [told, Patch.lay, said, given] <;> rfl
  | trades => cases trades <;> rfl
  | condition field =>
    simp only [told, Patch.lay, said, compiled]
    apply assignAll_lay key compile
    intro other
    rw [TreeMap.getElem?_emptyc, Option.none_or]

variable {doc : RuleDoc} {ruleId : UInt64} {members : List (String × String)}

theorem revised_old (reads : Reads exchange) (compile : ∀ one ∈ members, (lib.assign one.2).isSome)
    (old : MatchRuleBase lib Key) :
    ∃ rule, revised exchange doc ruleId members (some old) = some rule ∧
      told rule = (told old).lay (said exchange.key doc (reads.trades doc) ruleId members) := by
  refine ⟨_, reads.updates doc _, ?_⟩
  exact told_setRegex compile exchange.key old doc (reads.trades doc) rfl

theorem revised_new (reads : Reads exchange) (compile : ∀ one ∈ members, (lib.assign one.2).isSome) :
    (reads.first doc = none ∧ revised exchange doc ruleId members none = none) ∨
      ∃ given rule, reads.first doc = some given ∧ revised exchange doc ruleId members none = some rule ∧
        told rule = blank.lay (said exchange.key doc given ruleId members) := by
  have made : revised exchange doc ruleId members none = _ := reads.creates doc _
  cases first : reads.first doc with
  | none =>
    rw [first] at made
    exact .inl ⟨rfl, made⟩
  | some given =>
    rw [first] at made
    refine .inr ⟨given, _, rfl, made, ?_⟩
    refine (told_setRegex compile exchange.key {} doc given rfl).trans ?_
    rw [Patch.lay_eq_iff]
    intro part unsaid
    cases part with
    | ruleId | timestamp | regexes => cases unsaid
    | confirm | trades => rfl
    | condition field => exact TreeMap.getElem?_emptyc

/-- The insertion leaves a rule of the same content with the one rules and with the
others. -/
def SameContent (exchange : Exchange lib Key) (doc : RuleDoc) (bUpdateToDb updated : Bool) (rules fresh : Rules lib Key)
    (ruleId : UInt64) : Prop :=
  ∃ one two, Leaves exchange doc bUpdateToDb updated rules ruleId one ∧
    Leaves exchange doc bUpdateToDb updated fresh ruleId two ∧ told one = told two

/-- A patch that says the same but for the trades leaves the same just when the rule
has no other conditions, and no other documents where the patch has none. -/
theorem lay_said_iff {trades given : Option JsonValue} {old : MatchRuleBase lib Key} {key : String → Key}
    (compile : ∀ one ∈ members, (lib.assign one.2).isSome) :
    (told old).lay (said key doc trades ruleId members) = blank.lay (said key doc given ruleId members) ↔
      (∀ field ∈ old.mapRegexs, ∃ one ∈ members, compare (key one.1) field = .eq) ∧
        (confirmOf doc ≠ none ∨ old.docRuleConfirm = .object "{}") ∧
        trades.getD old.docRuleMatch = given.getD (.array "[]") := by
  constructor
  · intro same
    refine ⟨?_, ?_, ?_⟩
    · intro field there
      rw [← compiled_isSome key compile]
      intro unsaid
      have here := congrFun same (.condition field)
      simp only [Patch.lay, said, unsaid, Option.none_or, told, blank] at here
      rw [TreeMap.mem_iff_isSome_getElem?, here] at there
      cases there
    · cases confirm : confirmOf doc with
      | some value => exact .inl (Option.some_ne_none value)
      | none =>
        have here := congrFun same .confirm
        simp only [Patch.lay, said, confirm, Option.none_or, told, blank] at here
        exact .inr (Option.some.inj here)
    · have here := congrFun same .trades
      cases trades <;> cases given <;> exact Option.some.inj here
  · rintro ⟨conditions, confirm, matches_⟩
    funext part
    cases part with
    | ruleId | timestamp | regexes => rfl
    | confirm =>
      cases unsaid : confirmOf doc with
      | some value => simp only [Patch.lay, said, unsaid, Option.some_or]
      | none =>
        rcases confirm with some | same
        · exact absurd unsaid some
        · simp only [Patch.lay, said, unsaid, Option.none_or, told, blank, same]
    | trades => cases trades <;> cases given <;> exact congrArg some matches_
    | condition field =>
      simp only [Patch.lay, said, told, blank]
      cases own : (compiled lib key members)[field]? with
      | some regex => rfl
      | none =>
        rw [Option.none_or, Option.none_or]
        by_contra some
        have there : field ∈ old.mapRegexs := by
          rw [TreeMap.mem_iff_isSome_getElem?]
          exact Option.isSome_iff_ne_none.mpr some
        exact (compiled_isSome key compile field).mpr (conditions field there) own

theorem sameContent_iff (reads : Reads exchange) (taken : takenDoc lib doc = some (ruleId, members))
    {bUpdateToDb updated : Bool} {rules fresh : Rules lib Key} {old : MatchRuleBase lib Key}
    (stored : rules[ruleId]? = some old) (absent : fresh[ruleId]? = none) :
    SameContent exchange doc bUpdateToDb updated rules fresh ruleId ↔
      (∀ field ∈ old.mapRegexs, ∃ one ∈ members, compare (exchange.key one.1) field = .eq) ∧
        (confirmOf doc ≠ none ∨ old.docRuleConfirm = .object "{}") ∧
        ∃ given, reads.first doc = some given ∧
          (reads.trades doc).getD old.docRuleMatch = given.getD (.array "[]") := by
  obtain ⟨strRuleId, judge, id, same, cond, texts, stamp, compile⟩ := takenDoc_inv taken
  obtain ⟨one, revision, tells⟩ := @revised_old lib Key _ _ exchange doc ruleId members reads compile old
  simp only [SameContent, leaves_iff taken, stored, absent, revision, Option.some.injEq]
  rcases @revised_new lib Key _ _ exchange doc ruleId members reads compile with
    ⟨first, undefined⟩ | ⟨given, two, first, made, tells_two⟩
  · simp only [undefined, first, reduceCtorEq, false_and, and_false, exists_false]
  · simp only [made, first, Option.some.injEq, exists_and_left, exists_eq_left', tells, tells_two]
    exact lay_said_iff compile

end Revision

/-- Inserted over a rule of its id, a document that is taken leaves what it leaves where
there is none just when it has all the conditions of that rule and a document for
whichever the rule has one, and in Shenzhen, where it has trades at all, they are the
confirmation too. -/
theorem replacement_iff (lib : RegexLibrary) (doc : RuleDoc) (ruleId : UInt64) (members : List (String × String))
    (taken : takenDoc lib doc = some (ruleId, members)) (bUpdateToDb updated : Bool) :
    (∀ (rules fresh : Rules lib String) (old : MatchRuleBase lib String), rules[ruleId]? = some old →
      fresh[ruleId]? = none → (SameContent (Sh.exchange lib) doc bUpdateToDb updated rules fresh ruleId ↔
        (∀ strName ∈ old.mapRegexs, ∃ strValue, (strName, strValue) ∈ members) ∧
          (JsonValue.isObject doc.rule_confirm ∨ old.docRuleConfirm = .object "{}") ∧
          (JsonValue.isArray doc.rule_match ∨ old.docRuleMatch = .array "[]"))) ∧
    (∀ (rules fresh : Rules lib Int) (old : MatchRuleBase lib Int), rules[ruleId]? = some old →
      fresh[ruleId]? = none → (SameContent (Sz.exchange lib) doc bUpdateToDb updated rules fresh ruleId ↔
        (∀ iTag ∈ old.mapRegexs, ∃ strName strValue, (strName, strValue) ∈ members ∧ string2IntAtoi strName = iTag) ∧
          (JsonValue.isObject doc.rule_confirm ∨ old.docRuleConfirm = .object "{}") ∧
          if JsonValue.isObject doc.rule_match then doc.rule_confirm = doc.rule_match
          else old.docRuleMatch = .array "[]")) := by
  have confirm : confirmOf doc ≠ none ↔ JsonValue.isObject doc.rule_confirm := by
    simp only [confirmOf]
    cases doc.rule_confirm with
    | none => simp [JsonValue.isObject]
    | some value => cases value <;> simp [JsonValue.isObject]
  refine ⟨fun rules fresh old stored absent => ?_, fun rules fresh old stored absent => ?_⟩
  · rw [sameContent_iff (shReads lib) taken stored absent, confirm]
    apply and_congr
    · simp [Sh.exchange, LawfulEqCmp.compare_eq_iff_eq]
    apply and_congr_right
    intro _
    simp only [shReads, Option.some.injEq, exists_eq_left', shTrades]
    cases doc.rule_match with
    | none => simp [JsonValue.isArray]
    | some value => cases value <;> simp [JsonValue.isArray]
  · rw [sameContent_iff (szReads lib) taken stored absent, confirm]
    apply and_congr
    · simp [Sz.exchange, LawfulEqCmp.compare_eq_iff_eq]
    apply and_congr_right
    intro _
    simp only [szReads, szTrades]
    cases doc.rule_match with
    | none => simp [JsonValue.isObject]
    | some value =>
      cases value with
      | object text => cases doc.rule_confirm <;> simp [JsonValue.isObject, eq_comm]
      | array text | other text => simp [JsonValue.isObject]

/-- A rule for the purchases of one stock, and one for its id without the stock. -/
def allPurchases : RuleDoc where
  ruleId := some "1"
  judge_cond := some [("bs", some "B")]
  timestamp := some 2
  rule_confirm := some (.object "{}")
  rule_match := some (.array "[]")

theorem purchases_stored :
    ∃ rules rule, insertAll (Sh.exchange literal) ∅ [purchases] = some rules ∧ rules[(1 : UInt64)]? = some rule ∧
      "stock" ∈ rule.mapRegexs := by
  have kept : ((insertAll (Sh.exchange literal) ∅ [purchases]).bind fun rules =>
      rules[(1 : UInt64)]?.map fun rule => rule.mapRegexs.contains "stock") = some true := by decide +kernel
  obtain ⟨rules, built, there⟩ := Option.bind_eq_some_iff.mp kept
  obtain ⟨rule, stored, stock⟩ := Option.map_eq_some_iff.mp there
  exact ⟨rules, rule, built, stored, TreeMap.contains_iff_mem.mp stock⟩

theorem allPurchases_taken : takenDoc literal allPurchases = some (1, [("bs", "B")]) := by decide +kernel

theorem replacement_iff_purchases :
    ∃ rules rule, insertAll (Sh.exchange literal) ∅ [purchases] = some rules ∧ rules[(1 : UInt64)]? = some rule ∧
      (SameContent (Sh.exchange literal) allPurchases false true rules ∅ 1 ↔
        (∀ strName ∈ rule.mapRegexs, ∃ strValue, (strName, strValue) ∈ [("bs", "B")]) ∧
          (JsonValue.isObject allPurchases.rule_confirm ∨ rule.docRuleConfirm = .object "{}") ∧
          (JsonValue.isArray allPurchases.rule_match ∨ rule.docRuleMatch = .array "[]")) := by
  obtain ⟨rules, rule, built, stored, -⟩ := purchases_stored
  refine ⟨rules, rule, built, stored, ?_⟩
  apply (replacement_iff literal allPurchases 1 [("bs", "B")] allPurchases_taken false true).1
  · exact stored
  · exact TreeMap.getElem?_emptyc

/-- The stock stays among the conditions of the rule that is to be for all of them. -/
theorem stock_survives :
    ∃ rules rule, insertAll (Sh.exchange literal) ∅ [purchases] = some rules ∧ rules[(1 : UInt64)]? = some rule ∧
      ¬ SameContent (Sh.exchange literal) allPurchases false true rules ∅ 1 := by
  obtain ⟨rules, rule, built, stored, stock⟩ := purchases_stored
  refine ⟨rules, rule, built, stored, ?_⟩
  rw [sameContent_iff (shReads literal) allPurchases_taken stored TreeMap.getElem?_emptyc]
  rintro ⟨conditions, -⟩
  obtain ⟨one, found, same⟩ := conditions "stock" stock
  rw [List.mem_singleton.mp found] at same
  exact absurd same (by decide)

end Simutgw.Proofs.RuleReplacement
