import Simutgw.MatchRule
import Simutgw.Logic.Lowest
import Mathlib.Logic.Function.Basic

/-! The rule an order is found to fall under, against the rule it falls under by the
documents that were inserted. Shanghai keeps the hit of the fields before a missing
one, Shenzhen gives the whole search up there, and both keep the conditions of the
rule that an insertion replaced. -/

namespace Simutgw.Proofs.RuleLookup
open Std Logic MatchRule TgwStringUtil

section Books

variable {lib : RegexLibrary} {Key : Type} [Ord Key]

/-- The id and the conditions of a document that is taken: it passes the checks and all
its texts compile. -/
def takenDoc (lib : RegexLibrary) (doc : RuleDoc) : Option (UInt64 × List (String × String)) :=
  match doc.ruleId, doc.judge_cond.bind condTexts with
  | some strRuleId, some members =>
    if UInt64.ofInt (doc.timestamp.getD 0) ≠ 0 ∧ ∀ one ∈ members, (lib.assign one.2).isSome then
      some (string2UInt64 strRuleId, members)
    else none
  | _, _ => none

abbrev Book := UInt64 → Option (List (String × String))

/-- A document that is taken replaces the rule of its id. -/
def enter (lib : RegexLibrary) (book : Book) (insertion : Insertion) : Book :=
  match takenDoc lib insertion.doc with
  | none => book
  | some (ruleId, members) => Function.update book ruleId (some members)

/-- The conditions that the rule of each id has after the insertions. -/
def booked (lib : RegexLibrary) (insertions : List Insertion) : Book :=
  insertions.foldl (enter lib) fun _ => none

/-- The text for each field, a later member before an earlier one. -/
def conditions (key : String → Key) (members : List (String × String)) : TreeMap Key String :=
  members.foldl (fun texts one => texts.insert (key one.1) one.2) ∅

/-- There are conditions, and the record has every field of them with a text that
matches. -/
def Applies (lib : RegexLibrary) (key : String → Key) (record : Key → Option String)
    (members : List (String × String)) : Prop :=
  members ≠ [] ∧ ∀ field text, (conditions key members)[field]? = some text →
    ∃ value regex, record field = some value ∧ lib.assign text = some regex ∧ lib.regexMatch value regex = true

/-- The rule of the id is linked and applies to the record. -/
def Meant (lib : RegexLibrary) (key : String → Key) (insertions : List Insertion) (record : Key → Option String)
    (in_mapLinkRules : TreeMap UInt64 UInt64) (ruleId : UInt64) : Prop :=
  linked in_mapLinkRules ruleId = true ∧
    ∃ members, booked lib insertions ruleId = some members ∧ Applies lib key record members

/-- The lookup's answer is the lowest rule that is meant, as it is stored, or that there
is none. -/
def Found (rules : Rules lib Key) (meant : UInt64 → Prop) (answer : Option (UInt64 × MatchRuleBase lib Key)) : Prop :=
  Lowest (· < ·) meant (answer.map Prod.fst) ∧ ∀ entry, answer = some entry → rules[entry.1]? = some entry.2

/-- The field is there with a text that matches. -/
def Matches (record : Key → Option String) (entry : Key × lib.Regex) : Prop :=
  ∃ value, record entry.1 = some value ∧ lib.regexMatch value entry.2 = true

/-- There are stored regexes, and all of them match. -/
def AllMatch (record : Key → Option String) (entries : List (Key × lib.Regex)) : Prop :=
  entries ≠ [] ∧ ∀ entry ∈ entries, Matches record entry

/-- A stored regex is that of a condition the rule has by the documents. The others are
left over: from a rule that was replaced, or from an insertion that broke off. -/
def Own (lib : RegexLibrary) (key : String → Key) (members : List (String × String)) (entry : Key × lib.Regex) : Prop :=
  ∃ text, (conditions key members)[entry.1]? = some text ∧ lib.assign text = some entry.2

def OwnMatch (lib : RegexLibrary) (key : String → Key) (members : List (String × String))
    (record : Key → Option String) (entries : List (Key × lib.Regex)) : Prop :=
  ∀ entry ∈ entries, Own lib key members entry → Matches record entry

def LeftOverMatch (lib : RegexLibrary) (key : String → Key) (members : List (String × String))
    (record : Key → Option String) (entries : List (Key × lib.Regex)) : Prop :=
  ∀ entry ∈ entries, ¬ Own lib key members entry → Matches record entry

/-- The fields in front match, and the record lacks the next one. -/
def Lacks (record : Key → Option String) (entries front : List (Key × lib.Regex)) : Prop :=
  ∃ next rest, entries = front ++ next :: rest ∧ (∀ entry ∈ front, Matches record entry) ∧ record next.1 = none

/-- A missing field stands behind others, and those in front of it match. -/
def PassesOver (record : Key → Option String) (entries : List (Key × lib.Regex)) : Prop :=
  ∃ front, front ≠ [] ∧ Lacks record entries front

/-- What is stored for a rule, in Shanghai, decides about a record as the rule's conditions
do: nothing left over is in the way of a rule that applies, unless the loop ends in front
of it, and a rule that does not apply has no missing field behind others that match, and
something in its own or its left-over regexes that does not. -/
structure ShDecides (lib : RegexLibrary) (key : String → Key) (members : List (String × String))
    (record : Key → Option String) (entries : List (Key × lib.Regex)) : Prop where
  taken : Applies lib key record members → LeftOverMatch lib key members record entries ∨ PassesOver record entries
  passed : ¬ Applies lib key record members → ¬ PassesOver record entries ∧
    ¬ (entries ≠ [] ∧ OwnMatch lib key members record entries ∧ LeftOverMatch lib key members record entries)

/-- The same in Shenzhen, where no field of the rule is missing behind others that match. -/
structure SzDecides (lib : RegexLibrary) (key : String → Key) (members : List (String × String))
    (record : Key → Option String) (entries : List (Key × lib.Regex)) : Prop where
  taken : Applies lib key record members → LeftOverMatch lib key members record entries
  passed : ¬ Applies lib key record members →
    ¬ (entries ≠ [] ∧ OwnMatch lib key members record entries ∧ LeftOverMatch lib key members record entries)

end Books

section Insertions

variable {lib : RegexLibrary} {Key : Type} [Ord Key]

theorem assignAll_assigned (key : String → Key) (members : List (String × String)) (mapRegexs : TreeMap Key lib.Regex) :
    (assignAll key mapRegexs members).2 = true ↔ ∀ one ∈ members, (lib.assign one.2).isSome := by
  induction members generalizing mapRegexs with
  | nil => simp [assignAll]
  | cons one members ih =>
    obtain ⟨strName, strValue⟩ := one
    simp only [assignAll, List.forall_mem_cons]
    cases compiled : lib.assign strValue with
    | none => simp
    | some regex => simp [ih]

theorem setRegex_set (key : String → Key) (rule : MatchRuleBase lib Key) (iRuleId : UInt64)
    (members : List (String × String)) (timestamp : UInt64) :
    (setRegex key rule iRuleId members timestamp).2 = true ↔ ∀ one ∈ members, (lib.assign one.2).isSome := by
  rw [← assignAll_assigned key members rule.mapRegexs]
  simp only [setRegex]
  cases (assignAll key rule.mapRegexs members).2 <;> simp

/-- What an exchange takes over of a document leaves the regexes as they are. -/
def Keeps (exchange : Exchange lib Key) : Prop :=
  ∀ isNew doc rule made, exchange.setDocs isNew doc rule = some made → made.mapRegexs = rule.mapRegexs

theorem sh_keeps (lib : RegexLibrary) : Keeps (Sh.exchange lib) := by
  intro isNew doc rule made set
  cases set
  simp only [setRuleConfirm, setRuleMatch]
  repeat' split
  all_goals rfl

theorem sz_keeps (lib : RegexLibrary) : Keeps (Sz.exchange lib) := by
  intro isNew doc rule made set
  have confirmed : (if JsonValue.isObject doc.rule_confirm then setRuleConfirm doc rule else rule).mapRegexs =
      rule.mapRegexs := by
    simp only [setRuleConfirm]
    repeat' split
    all_goals rfl
  simp only [Sz.exchange] at set
  split at set
  next =>
    split at set
    next =>
      obtain ⟨value, _, rfl⟩ := Option.map_eq_some_iff.mp set
      exact confirmed
    next =>
      cases set
      rw [← confirmed, setRuleMatch]
      split <;> rfl
  next =>
    cases set
    exact confirmed

/-- The rules and the book have the same ids, and a rule has a regex for each field that
it is to have. -/
structure Booked (key : String → Key) (rules : Rules lib Key) (book : Book) : Prop where
  ids : ∀ ruleId, (rules[ruleId]?).isSome = (book ruleId).isSome
  fields : ∀ ruleId members rule, book ruleId = some members → rules[ruleId]? = some rule →
    ∀ one ∈ members, key one.1 ∈ rule.mapRegexs

section Books

variable {key : String → Key} {rules : Rules lib Key} {book : Book}

theorem Booked.insert (same : Booked key rules book) (ruleId : UInt64) {rule : MatchRuleBase lib Key}
    {members : List (String × String)} (there : ∀ one ∈ members, key one.1 ∈ rule.mapRegexs) :
    Booked key (rules.insert ruleId rule) (Function.update book ruleId (some members)) := by
  constructor
  · intro other
    simp only [TreeMap.getElem?_insert, Function.update_apply, LawfulEqCmp.compare_eq_iff_eq]
    by_cases own : ruleId = other
    · rw [if_pos own, if_pos own.symm]
      rfl
    · rw [if_neg own, if_neg (Ne.symm own)]
      exact same.ids other
  · intro other texts stored entered found
    rw [Function.update_apply] at entered
    rw [TreeMap.getElem?_insert] at found
    simp only [LawfulEqCmp.compare_eq_iff_eq] at found
    by_cases own : ruleId = other
    · rw [if_pos own.symm] at entered
      rw [if_pos own] at found
      cases entered
      cases found
      exact there
    · rw [if_neg (Ne.symm own)] at entered
      rw [if_neg own] at found
      exact same.fields other texts stored entered found

theorem Booked.again (same : Booked key rules book) {ruleId : UInt64} {old rule : MatchRuleBase lib Key}
    (stored : rules[ruleId]? = some old) (grows : ∀ field ∈ old.mapRegexs, field ∈ rule.mapRegexs) :
    Booked key (rules.insert ruleId rule) book := by
  constructor
  · intro other
    simp only [TreeMap.getElem?_insert, LawfulEqCmp.compare_eq_iff_eq]
    by_cases own : ruleId = other
    · rw [if_pos own, ← own, ← same.ids ruleId, stored]
      rfl
    · rw [if_neg own]
      exact same.ids other
  · intro other texts later entered found
    rw [TreeMap.getElem?_insert] at found
    simp only [LawfulEqCmp.compare_eq_iff_eq] at found
    by_cases own : ruleId = other
    · rw [if_pos own] at found
      cases found
      intro one member
      exact grows _ (same.fields other texts old entered (own ▸ stored) one member)
    · rw [if_neg own] at found
      exact same.fields other texts later entered found

end Books

theorem assignAll_fields [TransOrd Key] (key : String → Key) (members : List (String × String)) (mapRegexs : TreeMap Key lib.Regex) :
    (∀ field ∈ mapRegexs, field ∈ (assignAll key mapRegexs members).1) ∧
      ((assignAll key mapRegexs members).2 = true → ∀ one ∈ members, key one.1 ∈ (assignAll key mapRegexs members).1) := by
  induction members generalizing mapRegexs with
  | nil => exact ⟨fun _ there => there, fun _ one member => nomatch member⟩
  | cons one members ih =>
    obtain ⟨strName, strValue⟩ := one
    simp only [assignAll]
    cases lib.assign strValue with
    | none => exact ⟨fun field there => TreeMap.mem_insertIfNew.mpr (.inr there), fun broken => nomatch broken⟩
    | some regex =>
      obtain ⟨grows, has⟩ := ih (mapRegexs.insert (key strName) regex)
      refine ⟨fun field there => grows field (TreeMap.mem_insert.mpr (.inr there)), fun assigned => ?_⟩
      exact List.forall_mem_cons.mpr ⟨grows _ (TreeMap.mem_insert.mpr (.inl ReflCmp.compare_self)), has assigned⟩

theorem setRegex_mapRegexs (key : String → Key) (rule : MatchRuleBase lib Key) (iRuleId : UInt64)
    (members : List (String × String)) (timestamp : UInt64) :
    (setRegex key rule iRuleId members timestamp).1.mapRegexs = (assignAll key rule.mapRegexs members).1 ∧
      (setRegex key rule iRuleId members timestamp).2 = (assignAll key rule.mapRegexs members).2 := by
  simp only [setRegex]
  cases (assignAll key rule.mapRegexs members).2 <;> exact ⟨rfl, rfl⟩

theorem setRegex_fields [TransOrd Key] (key : String → Key) (rule : MatchRuleBase lib Key) (iRuleId : UInt64)
    (members : List (String × String)) (timestamp : UInt64) {set : MatchRuleBase lib Key} {assigned : Bool}
    (ran : setRegex key rule iRuleId members timestamp = (set, assigned)) :
    (∀ field ∈ rule.mapRegexs, field ∈ set.mapRegexs) ∧
      (assigned = true → ∀ one ∈ members, key one.1 ∈ set.mapRegexs) := by
  obtain ⟨regexes, same⟩ := setRegex_mapRegexs key rule iRuleId members timestamp
  rw [ran] at regexes same
  simp only at regexes same
  rw [regexes, same]
  exact assignAll_fields key members rule.mapRegexs

/-- The conditions that have passed the checks decide what becomes of the rules. -/
theorem takenDoc_eq {doc : RuleDoc} {strRuleId : String} {judge : List (String × Option String)}
    {members : List (String × String)} (id : doc.ruleId = some strRuleId) (cond : doc.judge_cond = some judge)
    (texts : condTexts judge = some members) (stamp : UInt64.ofInt (doc.timestamp.getD 0) ≠ 0) :
    takenDoc lib doc =
      if ∀ one ∈ members, (lib.assign one.2).isSome then some (string2UInt64 strRuleId, members) else none := by
  simp only [takenDoc, id, cond, Option.bind_some, texts, stamp, ne_eq, not_false_eq_true, true_and]

variable [TransOrd Key]

/-- What an insertion can do: nothing with a document that is not taken, store the rule
of one that is, or break off within a rule that was there. -/
theorem insertSingleRule_cases {exchange : Exchange lib Key} (keeps : Keeps exchange) {rules later : Rules lib Key}
    {doc : RuleDoc} {bUpdateToDb updated : Bool} {inserted : Inserted}
    (ran : insertSingleRule exchange doc bUpdateToDb updated rules = some (inserted, later)) :
    (takenDoc lib doc = none ∧ later = rules) ∨
    (∃ ruleId members rule, takenDoc lib doc = some (ruleId, members) ∧ later = rules.insert ruleId rule ∧
      ∀ one ∈ members, exchange.key one.1 ∈ rule.mapRegexs) ∨
    (∃ ruleId old rule, takenDoc lib doc = none ∧ rules[ruleId]? = some old ∧ later = rules.insert ruleId rule ∧
      ∀ field ∈ old.mapRegexs, field ∈ rule.mapRegexs) := by
  simp only [insertSingleRule] at ran
  cases id : doc.ruleId with
  | none =>
    simp only [id] at ran
    cases ran
    exact .inl ⟨by simp only [takenDoc, id], rfl⟩
  | some strRuleId =>
    cases cond : doc.judge_cond with
    | none =>
      simp only [id, cond, Option.map_none] at ran
      split at ran
      · cases ran
        exact .inl ⟨by simp only [takenDoc, id, cond, Option.bind_none], rfl⟩
      · cases ran
    | some judge =>
      cases texts : condTexts judge with
      | none =>
        simp only [id, cond, Option.map_some, texts] at ran
        cases ran
        exact .inl ⟨by simp only [takenDoc, id, cond, Option.bind_some, texts], rfl⟩
      | some members =>
        simp only [id, cond, Option.map_some, texts] at ran
        by_cases empty : UInt64.ofInt (doc.timestamp.getD 0) = 0
        · rw [if_pos empty] at ran
          cases ran
          refine .inl ⟨?_, rfl⟩
          simp only [takenDoc, id, cond, Option.bind_some, texts, empty, ne_eq, not_true_eq_false, false_and, if_false]
        · rw [if_neg empty] at ran
          rw [takenDoc_eq id cond texts empty]
          cases stored : rules[string2UInt64 strRuleId]? with
          | none =>
            simp only [stored] at ran
            split at ran
            next rule broken =>
              cases ran
              have refused := (setRegex_set _ _ _ _ _).not.mp (ne_true_of_eq_false (congrArg Prod.snd broken))
              exact .inl ⟨if_neg refused, rfl⟩
            next ptr set =>
              have compiled := (setRegex_set _ _ _ _ _).mp (congrArg Prod.snd set)
              obtain ⟨rule, made, rest⟩ := Option.map_eq_some_iff.mp ran
              cases rest
              refine .inr (.inl ⟨_, _, rule, if_pos compiled, rfl, ?_⟩)
              rw [keeps _ _ _ _ made]
              exact (setRegex_fields _ _ _ _ _ set).2 rfl
          | some old =>
            simp only [stored] at ran
            split at ran
            next rule broken =>
              cases ran
              have refused := (setRegex_set _ _ _ _ _).not.mp (ne_true_of_eq_false (congrArg Prod.snd broken))
              exact .inr (.inr ⟨_, old, rule, if_neg refused, stored, rfl, (setRegex_fields _ _ _ _ _ broken).1⟩)
            next rule set =>
              have compiled := (setRegex_set _ _ _ _ _).mp (congrArg Prod.snd set)
              obtain ⟨made, docs, rest⟩ := Option.map_eq_some_iff.mp ran
              cases rest
              refine .inr (.inl ⟨_, _, made, if_pos compiled, rfl, ?_⟩)
              rw [keeps _ _ _ _ docs]
              exact (setRegex_fields _ _ _ _ _ set).2 rfl

theorem Booked.insertSingleRule {exchange : Exchange lib Key} (keeps : Keeps exchange) {rules later : Rules lib Key}
    {book : Book} (same : Booked exchange.key rules book) {insertion : Insertion} {inserted : Inserted}
    (ran : insertSingleRule exchange insertion.doc insertion.bUpdateToDb insertion.updated rules =
      some (inserted, later)) :
    Booked exchange.key later (enter lib book insertion) := by
  rcases insertSingleRule_cases keeps ran with ⟨refused, rfl⟩ | ⟨ruleId, members, rule, taken, rfl, there⟩ |
    ⟨ruleId, old, rule, refused, stored, rfl, grows⟩
  · simpa only [enter, refused] using same
  · simpa only [enter, taken] using same.insert ruleId there
  · simpa only [enter, refused] using same.again stored grows

theorem insertAll_booked {exchange : Exchange lib Key} (keeps : Keeps exchange) {insertions : List Insertion}
    {rules : Rules lib Key} (ran : insertAll exchange ∅ insertions = some rules) :
    Booked exchange.key rules (booked lib insertions) := by
  suffices later : ∀ (book : Book) (first : Rules lib Key), Booked exchange.key first book →
      insertAll exchange first insertions = some rules →
        Booked exchange.key rules (insertions.foldl (enter lib) book) by
    apply later (fun _ => none) ∅ _ ran
    refine ⟨fun ruleId => congrArg Option.isSome TreeMap.getElem?_emptyc, ?_⟩
    intro ruleId members rule entered
    cases entered
  clear ran
  induction insertions with
  | nil =>
    intro book first same ran
    cases ran
    exact same
  | cons insertion insertions ih =>
    intro book first same ran
    simp only [insertAll, List.foldlM_cons, Option.bind_eq_bind, Option.bind_eq_some_iff, Option.map_eq_some_iff] at ran
    obtain ⟨next, ⟨⟨inserted, _⟩, step, rfl⟩, rest⟩ := ran
    exact ih _ _ (same.insertSingleRule keeps step) rest

end Insertions

section Split

variable {lib : RegexLibrary} {Key : Type} [Ord Key] {key : String → Key} {members : List (String × String)}
  {record : Key → Option String} {entries : List (Key × lib.Regex)} {mapRegexs : TreeMap Key lib.Regex}

theorem allMatch_split : AllMatch record entries ↔
    entries ≠ [] ∧ OwnMatch lib key members record entries ∧ LeftOverMatch lib key members record entries := by
  apply and_congr_right
  intro _
  constructor
  · exact fun all => ⟨fun entry member _ => all entry member, fun entry member _ => all entry member⟩
  · rintro ⟨own, left⟩ entry member
    by_cases mine : Own lib key members entry
    · exact own entry member mine
    · exact left entry member mine

theorem Applies.ownMatch (applies : Applies lib key record members) (entries : List (Key × lib.Regex)) :
    OwnMatch lib key members record entries := by
  rintro entry _ ⟨text, condition, assigned⟩
  obtain ⟨value, regex, there, same, hit⟩ := applies.2 _ _ condition
  cases assigned.symm.trans same
  exact ⟨value, there, hit⟩

/-- Where the fields of the conditions are all stored, all stored regexes match a record to
which the rule applies just when the left-over ones do. -/
theorem Applies.allMatch_iff [TransOrd Key] (applies : Applies lib key record members)
    (fields : ∀ one ∈ members, key one.1 ∈ mapRegexs) :
    AllMatch record mapRegexs.toList ↔ LeftOverMatch lib key members record mapRegexs.toList := by
  have some : mapRegexs.toList ≠ [] := by
    obtain ⟨one, member⟩ := List.exists_mem_of_ne_nil _ applies.1
    obtain ⟨regex, there⟩ := Option.isSome_iff_exists.mp (TreeMap.mem_iff_isSome_getElem?.mp (fields one member))
    obtain ⟨field, _, found⟩ := TreeMap.getElem?_eq_some_iff_exists_compare_eq_eq_and_mem_toList.mp there
    exact List.ne_nil_of_mem found
  rw [@allMatch_split lib Key _ key members, and_iff_right some, and_iff_right (applies.ownMatch _)]

theorem sh_decides_iff [TransOrd Key] (fields : ∀ one ∈ members, key one.1 ∈ mapRegexs) :
    ((AllMatch record mapRegexs.toList ∨ PassesOver record mapRegexs.toList) ↔ Applies lib key record members) ↔
      ShDecides lib key members record mapRegexs.toList := by
  constructor
  · intro decides
    refine ⟨fun applies => ?_, fun other => ⟨fun behind => other (decides.mp (.inr behind)), fun all => ?_⟩⟩
    · exact (decides.mpr applies).imp_left (applies.allMatch_iff fields).mp
    · exact other (decides.mp (.inl (allMatch_split.mpr all)))
  · rintro ⟨taken, passed⟩
    constructor
    · intro hit
      by_contra other
      obtain ⟨never, all⟩ := passed other
      exact hit.elim (fun every => all (allMatch_split.mp every)) never
    · intro applies
      exact (taken applies).imp_left (applies.allMatch_iff fields).mpr

theorem sz_decides_iff [TransOrd Key] (fields : ∀ one ∈ members, key one.1 ∈ mapRegexs) :
    (AllMatch record mapRegexs.toList ↔ Applies lib key record members) ↔
      SzDecides lib key members record mapRegexs.toList := by
  constructor
  · intro decides
    refine ⟨fun applies => ?_, fun other all => other (decides.mp (allMatch_split.mpr all))⟩
    exact (applies.allMatch_iff fields).mp (decides.mpr applies)
  · rintro ⟨taken, passed⟩
    constructor
    · intro every
      by_contra other
      exact passed other (allMatch_split.mp every)
    · intro applies
      exact (applies.allMatch_iff fields).mpr (taken applies)

end Split

section Hits

variable {lib : RegexLibrary}

theorem matches_cons {Key : Type} {record : Key → Option String} {field : Key} {regex : lib.Regex} {value : String}
    (there : record field = some value) :
    Matches record (field, regex) ↔ lib.regexMatch value regex = true := by
  constructor
  · rintro ⟨other, same, hit⟩
    rw [there] at same
    cases same
    exact hit
  · exact fun hit => ⟨value, there, hit⟩

theorem lacks_cons {Key : Type} {record : Key → Option String} {entry : Key × lib.Regex}
    {entries front : List (Key × lib.Regex)} (own : Matches record entry) :
    Lacks record (entry :: entries) (entry :: front) ↔ Lacks record entries front := by
  constructor
  · rintro ⟨missing, rest, split, hit, absent⟩
    exact ⟨missing, rest, List.cons_injective split, fun one found => hit one (List.mem_cons_of_mem _ found), absent⟩
  · rintro ⟨missing, rest, rfl, hit, absent⟩
    exact ⟨missing, rest, rfl, List.forall_mem_cons.mpr ⟨own, hit⟩, absent⟩

theorem lacks_nil_iff {Key : Type} {record : Key → Option String} {entry : Key × lib.Regex}
    {entries : List (Key × lib.Regex)} : Lacks record (entry :: entries) [] ↔ record entry.1 = none := by
  constructor
  · rintro ⟨missing, rest, split, -, absent⟩
    cases split
    exact absent
  · exact fun absent => ⟨entry, entries, rfl, by simp, absent⟩

theorem Lacks.front {Key : Type} {record : Key → Option String} {entry : Key × lib.Regex}
    {entries front : List (Key × lib.Regex)} (lacks : Lacks record (entry :: entries) front) :
    front = [] ∨ ∃ later, front = entry :: later ∧ Matches record entry := by
  obtain ⟨missing, rest, split, hit, -⟩ := lacks
  cases front with
  | nil => exact .inl rfl
  | cons one later =>
    cases split
    exact .inr ⟨later, rfl, hit _ List.mem_cons_self⟩

theorem not_lacks_nil {Key : Type} {record : Key → Option String} {front : List (Key × lib.Regex)} :
    ¬ Lacks record [] front := by
  rintro ⟨missing, rest, split, -, -⟩
  cases front <;> cases split

/-- Shanghai's hit: from where the loop is, all match, or all up to a missing field do
and there was a hit. -/
theorem sh_regexHit_iff (record : String → Option String) (hit : Bool) (entries : List (String × lib.Regex)) :
    Sh.regexHit record hit entries = true ↔
      ((hit = true ∨ entries ≠ []) ∧ ∀ entry ∈ entries, Matches record entry) ∨
        ∃ front, (hit = true ∨ front ≠ []) ∧ Lacks record entries front := by
  induction entries generalizing hit with
  | nil => simp [Sh.regexHit, not_lacks_nil]
  | cons entry entries ih =>
    obtain ⟨field, regex⟩ := entry
    simp only [Sh.regexHit]
    cases there : record field with
    | none =>
      have unmatched : ¬ Matches record (field, regex) := by
        rintro ⟨value, same, -⟩
        rw [there] at same
        cases same
      constructor
      · intro kept
        exact .inr ⟨[], .inl kept, lacks_nil_iff.mpr there⟩
      · rintro (⟨-, all⟩ | ⟨front, either, lacks⟩)
        · exact absurd (all _ List.mem_cons_self) unmatched
        · rcases lacks.front with rfl | ⟨later, -, own⟩
          · exact either.resolve_right (fun other => other rfl)
          · exact absurd own unmatched
    | some value =>
      have own := @matches_cons lib String record field regex value there
      by_cases matched : lib.regexMatch value regex = true
      · simp only [matched, if_true]
        rw [ih]
        have first := own.mpr matched
        constructor
        · rintro (⟨-, all⟩ | ⟨front, -, lacks⟩)
          · exact .inl ⟨.inr (List.cons_ne_nil _ _), List.forall_mem_cons.mpr ⟨first, all⟩⟩
          · exact .inr ⟨_ :: front, .inr (List.cons_ne_nil _ _), (lacks_cons first).mpr lacks⟩
        · rintro (⟨-, all⟩ | ⟨front, -, lacks⟩)
          · exact .inl ⟨.inl rfl, fun one found => all one (List.mem_cons_of_mem _ found)⟩
          · rcases lacks.front with rfl | ⟨later, rfl, -⟩
            · rw [lacks_nil_iff, there] at lacks
              cases lacks
            · exact .inr ⟨later, .inl rfl, (lacks_cons first).mp lacks⟩
      · simp only [matched, Bool.false_eq_true, if_false, false_iff]
        rintro (⟨-, all⟩ | ⟨front, -, lacks⟩)
        · exact matched (own.mp (all _ List.mem_cons_self))
        · rcases lacks.front with rfl | ⟨later, -, hit⟩
          · rw [lacks_nil_iff, there] at lacks
            cases lacks
          · exact matched (own.mp hit)

theorem sz_regexHit_true (record : Int → Option String) (hit : Bool) (entries : List (Int × lib.Regex)) :
    Sz.regexHit record hit entries = some true ↔
      (hit = true ∨ entries ≠ []) ∧ ∀ entry ∈ entries, Matches record entry := by
  induction entries generalizing hit with
  | nil => simp [Sz.regexHit]
  | cons entry entries ih =>
    obtain ⟨field, regex⟩ := entry
    simp only [Sz.regexHit, List.forall_mem_cons]
    cases there : record field with
    | none => simp [Matches, there]
    | some value =>
      rw [matches_cons there]
      by_cases matched : lib.regexMatch value regex = true
      · simp [matched, ih]
      · simp [matched]

theorem sz_regexHit_none (record : Int → Option String) (hit : Bool) (entries : List (Int × lib.Regex)) :
    Sz.regexHit record hit entries = none ↔ ∃ front, Lacks record entries front := by
  induction entries generalizing hit with
  | nil => simp [Sz.regexHit, not_lacks_nil]
  | cons entry entries ih =>
    obtain ⟨field, regex⟩ := entry
    simp only [Sz.regexHit]
    cases there : record field with
    | none => exact iff_of_true rfl ⟨[], lacks_nil_iff.mpr there⟩
    | some value =>
      have own := @matches_cons lib Int record field regex value there
      have never : ¬ Lacks record ((field, regex) :: entries) [] := by
        rw [lacks_nil_iff, there]
        exact Option.some_ne_none value
      by_cases matched : lib.regexMatch value regex = true
      · simp only [matched, if_true]
        rw [ih]
        constructor
        · exact fun ⟨front, lacks⟩ => ⟨_ :: front, (lacks_cons (own.mpr matched)).mpr lacks⟩
        · rintro ⟨front, lacks⟩
          rcases lacks.front with rfl | ⟨later, rfl, -⟩
          · exact absurd lacks never
          · exact ⟨later, (lacks_cons (own.mpr matched)).mp lacks⟩
      · simp only [matched, Bool.false_eq_true, if_false, reduceCtorEq, false_iff]
        rintro ⟨front, lacks⟩
        rcases lacks.front with rfl | ⟨later, -, hit⟩
        · exact never lacks
        · exact matched (own.mp hit)

end Hits

section Lookups

variable {lib : RegexLibrary}

instance ruleIds_wellOrder : IsWellOrder UInt64 (· < ·) where
  wf := InvImage.wf UInt64.toNat Nat.lt_wfRel.wf
  trichotomous one two not_lt not_gt := by
    rw [UInt64.lt_iff_toNat_lt] at not_lt not_gt
    exact UInt64.toNat_inj.mp (by omega)

theorem rules_sorted {Key : Type} [Ord Key] (rules : Rules lib Key) :
    rules.toList.Pairwise fun one two => one.1 < two.1 :=
  TreeMap.ordered_keys_toList.imp fun less => compare_eq_lt.mp less

/-- What Shanghai's search makes of a rule. -/
def shVerdict (record : String → Option String) (links : TreeMap UInt64 UInt64) (ruleId : UInt64)
    (rule : MatchRuleBase lib String) : Judgement :=
  if !linked links ruleId then .pass
  else if Sh.regexHit record false rule.mapRegexs.toList then .take
  else .pass

/-- What Shenzhen's search makes of a rule. -/
def szVerdict (record : Int → Option String) (links : TreeMap UInt64 UInt64) (ruleId : UInt64)
    (rule : MatchRuleBase lib Int) : Judgement :=
  if !linked links ruleId then .pass
  else
    match Sz.regexHit record false rule.mapRegexs.toList with
    | none => .stuck
    | some bRegexHit => if bRegexHit then .take else .pass

theorem sh_findRule_eq (record : String → Option String) (links : TreeMap UInt64 UInt64)
    (rules : List (UInt64 × MatchRuleBase lib String)) :
    Sh.findRule record links rules = scan (shVerdict record links) rules := by
  induction rules with
  | nil => rfl
  | cons entry rules ih =>
    simp only [Sh.findRule, scan, shVerdict, ih]
    cases linked links entry.1 with
    | false => rfl
    | true =>
      cases Sh.regexHit record false entry.2.mapRegexs.toList with
      | false => rfl
      | true => rfl

theorem sz_findRule_eq (record : Int → Option String) (links : TreeMap UInt64 UInt64)
    (rules : List (UInt64 × MatchRuleBase lib Int)) :
    Sz.findRule record links rules = scan (szVerdict record links) rules := by
  induction rules with
  | nil => rfl
  | cons entry rules ih =>
    simp only [Sz.findRule, scan, szVerdict, ih]
    cases linked links entry.1 with
    | false => rfl
    | true =>
      cases Sz.regexHit record false entry.2.mapRegexs.toList with
      | none => rfl
      | some hit =>
        cases hit with
        | false => rfl
        | true => rfl

/-- Shanghai takes a linked rule all of whose stored regexes match, or those before a
missing field, of which there are some. -/
theorem shVerdict_take {record : String → Option String} {links : TreeMap UInt64 UInt64} {ruleId : UInt64}
    {rule : MatchRuleBase lib String} :
    shVerdict record links ruleId rule = .take ↔ linked links ruleId = true ∧
      (AllMatch record rule.mapRegexs.toList ∨ PassesOver record rule.mapRegexs.toList) := by
  have hit := sh_regexHit_iff record false rule.mapRegexs.toList
  simp only [Bool.false_eq_true, false_or] at hit
  simp only [AllMatch, PassesOver, ← hit, shVerdict]
  cases linked links ruleId <;> cases Sh.regexHit record false rule.mapRegexs.toList <;> decide

theorem shVerdict_not_stuck {record : String → Option String} {links : TreeMap UInt64 UInt64} {ruleId : UInt64}
    {rule : MatchRuleBase lib String} : shVerdict record links ruleId rule ≠ .stuck := by
  simp only [shVerdict]
  cases linked links ruleId <;> cases Sh.regexHit record false rule.mapRegexs.toList <;> decide

theorem sh_never_stuck {record : String → Option String} {links : TreeMap UInt64 UInt64}
    {stored : List (UInt64 × MatchRuleBase lib String)} : Judged (shVerdict record links) stored .stuck = fun _ => False := by
  funext ruleId
  rw [eq_iff_iff, iff_false]
  exact fun ⟨rule, _, stuck⟩ => shVerdict_not_stuck stuck

theorem szVerdict_take {record : Int → Option String} {links : TreeMap UInt64 UInt64} {ruleId : UInt64}
    {rule : MatchRuleBase lib Int} :
    szVerdict record links ruleId rule = .take ↔
      linked links ruleId = true ∧ AllMatch record rule.mapRegexs.toList := by
  have hit := sz_regexHit_true record false rule.mapRegexs.toList
  simp only [Bool.false_eq_true, false_or] at hit
  simp only [AllMatch, ← hit, szVerdict]
  cases linked links ruleId
  · simp
  · rcases Sz.regexHit record false rule.mapRegexs.toList with _ | hit
    · simp
    · cases hit <;> simp

theorem szVerdict_stuck {record : Int → Option String} {links : TreeMap UInt64 UInt64} {ruleId : UInt64}
    {rule : MatchRuleBase lib Int} :
    szVerdict record links ruleId rule = .stuck ↔
      linked links ruleId = true ∧ ∃ front, Lacks record rule.mapRegexs.toList front := by
  rw [← sz_regexHit_none record false, szVerdict]
  cases linked links ruleId
  · simp
  · rcases Sz.regexHit record false rule.mapRegexs.toList with _ | hit
    · simp
    · cases hit <;> simp

theorem judged_stored {Key : Type} [Ord Key] {rules : Rules lib Key}
    {verdict : UInt64 → MatchRuleBase lib Key → Judgement} {given : Judgement} {ruleId : UInt64} :
    Judged verdict rules.toList given ruleId ↔ ∃ rule, rules[ruleId]? = some rule ∧ verdict ruleId rule = given := by
  simp only [Judged, TreeMap.mem_toList_iff_getElem?_eq_some]

theorem scan_stored {Key : Type} [Ord Key] {rules : Rules lib Key}
    {verdict : UInt64 → MatchRuleBase lib Key → Judgement} {entry : UInt64 × MatchRuleBase lib Key}
    (taken : scan verdict rules.toList = some entry) : rules[entry.1]? = some entry.2 :=
  TreeMap.mem_toList_iff_getElem?_eq_some.mp (scan_mem taken)

end Lookups

/-- Shanghai's lookup finds the rule that is meant just when every linked rule that no
lower one is meant before decides as its conditions do, in spite of what is left over
and of fields the record lacks. -/
theorem sh_getRule_found_iff (lib : RegexLibrary) (insertions : List Insertion) (rules : Rules lib String)
    (built : insertAll (Sh.exchange lib) ∅ insertions = some rules) (in_docDeclareOrder : String → Option String)
    (in_mapLinkRules : TreeMap UInt64 UInt64) :
    Found rules (Meant lib (Sh.exchange lib).key insertions in_docDeclareOrder in_mapLinkRules)
        (Sh.getRule rules in_docDeclareOrder in_mapLinkRules) ↔
      ∀ ruleId members rule, booked lib insertions ruleId = some members → rules[ruleId]? = some rule →
        linked in_mapLinkRules ruleId = true →
        Fresh (· < ·) (Meant lib (Sh.exchange lib).key insertions in_docDeclareOrder in_mapLinkRules) ruleId →
        ShDecides lib (Sh.exchange lib).key members in_docDeclareOrder rule.mapRegexs.toList := by
  have same := insertAll_booked (sh_keeps lib) built
  have searched := @scan_searched UInt64 (· < ·) _ (shVerdict in_docDeclareOrder in_mapLinkRules) rules.toList _ _
    (rules_sorted rules)
  rw [sh_never_stuck] at searched
  rw [Sh.getRule, sh_findRule_eq, Found, and_iff_left (fun _ taken => scan_stored taken),
    searched.lowest_iff_of_never_stuck]
  constructor
  · intro agrees ruleId members rule entered stored link fresh
    have agreed := agrees ruleId fresh
    rw [judged_stored] at agreed
    simp only [stored, Option.some.injEq, exists_eq_left', shVerdict_take, Meant, link, true_and, entered] at agreed
    exact (sh_decides_iff (same.fields ruleId members rule entered stored)).mp agreed
  · intro agrees ruleId fresh
    rw [judged_stored]
    have ids := same.ids ruleId
    cases stored : rules[ruleId]? with
    | none =>
      rw [stored] at ids
      have unknown : booked lib insertions ruleId = none :=
        Option.isNone_iff_eq_none.mp (Option.isSome_eq_false_iff.mp ids.symm)
      simp [Meant, unknown]
    | some rule =>
      rw [stored] at ids
      obtain ⟨members, entered⟩ := Option.isSome_iff_exists.mp ids.symm
      simp only [Option.some.injEq, exists_eq_left', shVerdict_take, Meant, entered]
      apply and_congr_right
      intro link
      exact (sh_decides_iff (same.fields ruleId members rule entered stored)).mpr
        (agrees ruleId members rule entered stored link fresh)

section Samples

/-- Texts without a special character match themselves and nothing else. -/
def literal : RegexLibrary where
  Regex := Option String
  blank := none
  assign text := some (some text)
  regexMatch value regex := decide (regex = some value)

/-- A rule for the purchases of one stock. -/
def purchases : Insertion where
  doc := { ruleId := some "1", judge_cond := some [("bs", some "B"), ("stock", some "600000")], timestamp := some 1 }

def purchase (field : String) : Option String := if field = "bs" then some "B" else none

/-- A rule for one stock by its tag, and one for the side. -/
def stockThenSide : List Insertion :=
  [{ doc := { ruleId := some "1", judge_cond := some [("48", some "000001")], timestamp := some 1 } },
    { doc := { ruleId := some "2", judge_cond := some [("54", some "1")], timestamp := some 1 } }]

def sideOnly (field : Int) : Option String := if field = 54 then some "1" else none

end Samples

theorem sh_getRule_found_iff_purchase :
    ∃ rules, insertAll (Sh.exchange literal) ∅ [purchases] = some rules ∧
      (Found rules (Meant literal (Sh.exchange literal).key [purchases] purchase ∅) (Sh.getRule rules purchase ∅) ↔
        ∀ ruleId members rule, booked literal [purchases] ruleId = some members → rules[ruleId]? = some rule →
          linked ∅ ruleId = true →
          Fresh (· < ·) (Meant literal (Sh.exchange literal).key [purchases] purchase ∅) ruleId →
          ShDecides literal (Sh.exchange literal).key members purchase rule.mapRegexs.toList) :=
  ⟨_, Eq.refl (some _), sh_getRule_found_iff literal [purchases] _ (Eq.refl (some _)) purchase ∅⟩

/-- A purchase that does not name a stock falls under the rule for one stock. -/
theorem sh_rule_without_field_found :
    ∃ rules, insertAll (Sh.exchange literal) ∅ [purchases] = some rules ∧
      ¬ Found rules (Meant literal (Sh.exchange literal).key [purchases] purchase ∅) (Sh.getRule rules purchase ∅) := by
  obtain ⟨rules, built⟩ : ∃ rules, insertAll (Sh.exchange literal) ∅ [purchases] = some rules :=
    ⟨_, Eq.refl (some _)⟩
  refine ⟨rules, built, ?_⟩
  have answer : (insertAll (Sh.exchange literal) ∅ [purchases]).map (fun rules =>
      (Sh.getRule rules purchase ∅).map Prod.fst) = some (some 1) := by decide +kernel
  rw [built, Option.map_some, Option.some.injEq] at answer
  rintro ⟨lowest, -⟩
  rw [answer] at lowest
  obtain ⟨⟨-, members, entered, -, applies⟩, -⟩ := lowest
  have known : booked literal [purchases] 1 = some [("bs", "B"), ("stock", "600000")] := by decide +kernel
  rw [known] at entered
  cases entered
  obtain ⟨value, regex, there, -⟩ := applies "stock" "600000" (by decide +kernel)
  cases there

section Sameness

variable {lib : RegexLibrary}

/-- Both exchanges have rules under the same ids, and each pair of them has the same
regexes, Shenzhen by the tags of Shanghai's names. -/
def SameRules (shRules : Rules lib String) (szRules : Rules lib Int) : Prop :=
  ∀ ruleId : UInt64, (shRules[ruleId]?).isSome = (szRules[ruleId]?).isSome ∧
    ∀ (shRule : MatchRuleBase lib String) (szRule : MatchRuleBase lib Int), shRules[ruleId]? = some shRule →
      szRules[ruleId]? = some szRule → ∀ (tag : Int) (regex : lib.Regex), szRule.mapRegexs[tag]? = some regex ↔
        ∃ strName, string2IntAtoi strName = tag ∧ shRule.mapRegexs[strName]? = some regex

/-- The order has every field that a rule names, with the text of the message. -/
def Carries (shRules : Rules lib String) (in_docDeclareOrder : String → Option String)
    (in_fixmsg : Int → Option String) : Prop :=
  ∀ (ruleId : UInt64) (rule : MatchRuleBase lib String), shRules[ruleId]? = some rule →
    ∀ (strName : String) (regex : lib.Regex), rule.mapRegexs[strName]? = some regex →
      in_docDeclareOrder strName = in_fixmsg (string2IntAtoi strName) ∧ in_docDeclareOrder strName ≠ none

theorem not_lacks {Key : Type} {record : Key → Option String} {entries front : List (Key × lib.Regex)}
    (carried : ∀ entry ∈ entries, record entry.1 ≠ none) : ¬ Lacks record entries front := by
  rintro ⟨missing, rest, rfl, -, absent⟩
  exact carried missing (List.mem_append_right _ List.mem_cons_self) absent

theorem AllMatch.transfer {Key Other : Type} {record : Key → Option String} {other : Other → Option String}
    {entries : List (Key × lib.Regex)} {others : List (Other × lib.Regex)} (all : AllMatch record entries)
    (some_other : entries ≠ [] → others ≠ [])
    (known : ∀ one ∈ others, ∃ entry ∈ entries, record entry.1 = other one.1 ∧ entry.2 = one.2) :
    AllMatch other others := by
  refine ⟨some_other all.1, ?_⟩
  intro one found
  obtain ⟨entry, member, same, regex⟩ := known one found
  obtain ⟨value, there, hit⟩ := all.2 entry member
  exact ⟨value, same ▸ there, regex ▸ hit⟩

theorem ne_nil_of_mem_iff {One Other : Type} {ones : List One} {others : List Other}
    (each : ∀ one ∈ ones, ∃ other, other ∈ others) (some_one : ones ≠ []) : others ≠ [] := by
  obtain ⟨one, found⟩ := List.exists_mem_of_ne_nil ones some_one
  obtain ⟨other, member⟩ := each one found
  exact List.ne_nil_of_mem member

theorem allMatch_same {shRules : Rules lib String} {szRules : Rules lib Int} (same : SameRules shRules szRules)
    {in_docDeclareOrder : String → Option String} {in_fixmsg : Int → Option String}
    (carries : Carries shRules in_docDeclareOrder in_fixmsg) {ruleId : UInt64} {shRule : MatchRuleBase lib String}
    {szRule : MatchRuleBase lib Int} (shStored : shRules[ruleId]? = some shRule)
    (szStored : szRules[ruleId]? = some szRule) :
    AllMatch in_docDeclareOrder shRule.mapRegexs.toList ↔ AllMatch in_fixmsg szRule.mapRegexs.toList := by
  have regexs := (same ruleId).2 shRule szRule shStored szStored
  have forth : ∀ entry ∈ shRule.mapRegexs.toList, ∃ one ∈ szRule.mapRegexs.toList,
      in_fixmsg one.1 = in_docDeclareOrder entry.1 ∧ one.2 = entry.2 := by
    rintro ⟨strName, regex⟩ found
    have named := TreeMap.mem_toList_iff_getElem?_eq_some.mp found
    refine ⟨(string2IntAtoi strName, regex), ?_, (carries ruleId shRule shStored strName regex named).1.symm, rfl⟩
    exact TreeMap.mem_toList_iff_getElem?_eq_some.mpr ((regexs _ _).mpr ⟨strName, rfl, named⟩)
  have back : ∀ one ∈ szRule.mapRegexs.toList, ∃ entry ∈ shRule.mapRegexs.toList,
      in_docDeclareOrder entry.1 = in_fixmsg one.1 ∧ entry.2 = one.2 := by
    rintro ⟨tag, regex⟩ found
    obtain ⟨strName, rfl, named⟩ := (regexs _ _).mp (TreeMap.mem_toList_iff_getElem?_eq_some.mp found)
    refine ⟨(strName, regex), TreeMap.mem_toList_iff_getElem?_eq_some.mpr named, ?_, rfl⟩
    exact (carries ruleId shRule shStored strName regex named).1
  constructor
  · intro all
    refine all.transfer (ne_nil_of_mem_iff ?_) back
    intro entry found
    obtain ⟨one, member, -⟩ := forth entry found
    exact ⟨one, member⟩
  · intro all
    refine all.transfer (ne_nil_of_mem_iff ?_) forth
    intro one found
    obtain ⟨entry, member, -⟩ := back one found
    exact ⟨entry, member⟩

section Carried

variable {shRules : Rules lib String} {szRules : Rules lib Int} (same : SameRules shRules szRules)
  {in_docDeclareOrder : String → Option String} {in_fixmsg : Int → Option String}
  (carries : Carries shRules in_docDeclareOrder in_fixmsg) (in_mapLinkRules : TreeMap UInt64 UInt64)

include same carries

/-- No field of a rule is missing, so that the search does not stop. -/
theorem sz_never_stuck : Judged (szVerdict in_fixmsg in_mapLinkRules) szRules.toList .stuck = fun _ => False := by
  funext ruleId
  rw [eq_iff_iff, iff_false, judged_stored]
  rintro ⟨szRule, stored, stuck⟩
  obtain ⟨shRule, shStored⟩ : ∃ shRule, shRules[ruleId]? = some shRule := by
    apply Option.isSome_iff_exists.mp
    rw [(same ruleId).1, stored]
    rfl
  obtain ⟨-, front, lacks⟩ := szVerdict_stuck.mp stuck
  refine not_lacks ?_ lacks
  rintro ⟨tag, regex⟩ found absent
  obtain ⟨strName, rfl, named⟩ := ((same ruleId).2 shRule szRule shStored stored _ _).mp
    (TreeMap.mem_toList_iff_getElem?_eq_some.mp found)
  obtain ⟨text, there⟩ := carries ruleId shRule shStored strName regex named
  exact there (text.trans absent)

/-- The two exchanges take the same rules. -/
theorem taken_same : Judged (shVerdict in_docDeclareOrder in_mapLinkRules) shRules.toList .take =
    Judged (szVerdict in_fixmsg in_mapLinkRules) szRules.toList .take := by
  funext ruleId
  rw [eq_iff_iff, judged_stored, judged_stored]
  constructor
  · rintro ⟨shRule, shStored, taken⟩
    obtain ⟨szRule, szStored⟩ : ∃ szRule, szRules[ruleId]? = some szRule := by
      apply Option.isSome_iff_exists.mp
      rw [← (same ruleId).1, shStored]
      rfl
    obtain ⟨link, all | ⟨front, -, lacks⟩⟩ := shVerdict_take.mp taken
    · exact ⟨szRule, szStored, szVerdict_take.mpr ⟨link, (allMatch_same same carries shStored szStored).mp all⟩⟩
    · refine absurd lacks (not_lacks ?_)
      rintro ⟨strName, regex⟩ found
      exact (carries ruleId shRule shStored strName regex (TreeMap.mem_toList_iff_getElem?_eq_some.mp found)).2
  · rintro ⟨szRule, szStored, taken⟩
    obtain ⟨shRule, shStored⟩ : ∃ shRule, shRules[ruleId]? = some shRule := by
      apply Option.isSome_iff_exists.mp
      rw [(same ruleId).1, szStored]
      rfl
    obtain ⟨link, all⟩ := szVerdict_take.mp taken
    exact ⟨shRule, shStored, shVerdict_take.mpr ⟨link, .inl ((allMatch_same same carries shStored szStored).mpr all)⟩⟩

theorem getRule_same : (Sh.getRule shRules in_docDeclareOrder in_mapLinkRules).map Prod.fst =
    (Sz.getRule szRules in_fixmsg in_mapLinkRules).map Prod.fst := by
  have shSearched := @scan_searched UInt64 (· < ·) _ (shVerdict in_docDeclareOrder in_mapLinkRules) shRules.toList _ _
    (rules_sorted shRules)
  have szSearched := @scan_searched UInt64 (· < ·) _ (szVerdict in_fixmsg in_mapLinkRules) szRules.toList _ _
    (rules_sorted szRules)
  rw [sh_never_stuck] at shSearched
  rw [sz_never_stuck same carries, ← taken_same same carries] at szSearched
  rw [Sh.getRule, Sz.getRule, sh_findRule_eq, sz_findRule_eq]
  exact (shSearched.lowest_iff_of_never_stuck.mpr fun _ _ => Iff.rfl).unique
    (szSearched.lowest_iff_of_never_stuck.mpr fun _ _ => Iff.rfl)

end Carried

end Sameness

/-- Shenzhen's search stops at a linked rule whose first field that does not match is
missing. -/
theorem sz_stuck_iff {lib : RegexLibrary} {rules : Rules lib Int} {in_fixmsg : Int → Option String}
    {in_mapLinkRules : TreeMap UInt64 UInt64} {ruleId : UInt64} :
    Judged (szVerdict in_fixmsg in_mapLinkRules) rules.toList .stuck ruleId ↔
      ∃ rule, rules[ruleId]? = some rule ∧ linked in_mapLinkRules ruleId = true ∧
        ∃ front, Lacks in_fixmsg rule.mapRegexs.toList front := by
  simp only [judged_stored, szVerdict_stuck]

theorem sz_unstuck_iff {lib : RegexLibrary} {rules : Rules lib Int} {in_fixmsg : Int → Option String}
    {in_mapLinkRules : TreeMap UInt64 UInt64} {ruleId : UInt64} :
    (Fresh (· < ·) (Judged (szVerdict in_fixmsg in_mapLinkRules) rules.toList .stuck) ruleId ∧
        ¬ Judged (szVerdict in_fixmsg in_mapLinkRules) rules.toList .stuck ruleId) ↔
      ∀ lower other, lower ≤ ruleId → linked in_mapLinkRules lower = true → rules[lower]? = some other →
        ¬ ∃ front, Lacks in_fixmsg other.mapRegexs.toList front := by
  constructor
  · rintro ⟨front, own⟩ lower other within link stored lacks
    have stuck := sz_stuck_iff.mpr ⟨other, stored, link, lacks⟩
    rcases UInt64.lt_or_eq_of_le within with less | rfl
    · exact front lower less stuck
    · exact own stuck
  · intro clear
    constructor
    · intro lower less stuck
      obtain ⟨other, stored, link, lacks⟩ := sz_stuck_iff.mp stuck
      exact clear lower other (UInt64.le_of_lt less) link stored lacks
    · intro stuck
      obtain ⟨other, stored, link, lacks⟩ := sz_stuck_iff.mp stuck
      exact clear ruleId other (UInt64.le_refl _) link stored lacks

/-- Shenzhen's lookup finds the rule that is meant just when every linked rule that the
search comes to, with none meant before it, decides as its conditions do, and no rule is
meant at all if the search comes to one whose first field that does not match is
missing. Where no named field is missing, Shanghai finds the same rule among the same
rules. -/
theorem sz_getRule_found_iff (lib : RegexLibrary) (insertions : List Insertion) (rules : Rules lib Int)
    (built : insertAll (Sz.exchange lib) ∅ insertions = some rules) (in_fixmsg : Int → Option String)
    (in_mapLinkRules : TreeMap UInt64 UInt64) :
    (Found rules (Meant lib (Sz.exchange lib).key insertions in_fixmsg in_mapLinkRules)
          (Sz.getRule rules in_fixmsg in_mapLinkRules) ∧
        ∀ (shRules : Rules lib String) (in_docDeclareOrder : String → Option String), SameRules shRules rules →
          Carries shRules in_docDeclareOrder in_fixmsg →
          (Sh.getRule shRules in_docDeclareOrder in_mapLinkRules).map Prod.fst =
            (Sz.getRule rules in_fixmsg in_mapLinkRules).map Prod.fst) ↔
      (∀ ruleId members rule, booked lib insertions ruleId = some members → rules[ruleId]? = some rule →
        linked in_mapLinkRules ruleId = true →
        Fresh (· < ·) (Meant lib (Sz.exchange lib).key insertions in_fixmsg in_mapLinkRules) ruleId →
        (∀ lower other, lower ≤ ruleId → linked in_mapLinkRules lower = true → rules[lower]? = some other →
          ¬ ∃ front, Lacks in_fixmsg other.mapRegexs.toList front) →
        SzDecides lib (Sz.exchange lib).key members in_fixmsg rule.mapRegexs.toList) ∧
      ∀ ruleId rule, rules[ruleId]? = some rule → linked in_mapLinkRules ruleId = true →
        (∃ front, Lacks in_fixmsg rule.mapRegexs.toList front) →
        Fresh (· < ·) (Meant lib (Sz.exchange lib).key insertions in_fixmsg in_mapLinkRules) ruleId →
        ∀ other, ¬ Meant lib (Sz.exchange lib).key insertions in_fixmsg in_mapLinkRules other := by
  have same := insertAll_booked (sz_keeps lib) built
  have searched := @scan_searched UInt64 (· < ·) _ (szVerdict in_fixmsg in_mapLinkRules) rules.toList _ _
    (rules_sorted rules)
  rw [and_iff_left (fun _ _ shSame carries => getRule_same shSame carries in_mapLinkRules), Sz.getRule,
    sz_findRule_eq, Found, and_iff_left (fun _ taken => scan_stored taken), searched.lowest_iff, Agrees]
  refine and_congr ?_ ?_
  · constructor
    · intro agrees ruleId members rule entered stored link fresh clear
      obtain ⟨front, own⟩ := sz_unstuck_iff.mpr clear
      have agreed := agrees ruleId fresh front own
      rw [judged_stored] at agreed
      simp only [stored, Option.some.injEq, exists_eq_left', szVerdict_take, Meant, link, true_and, entered] at agreed
      exact (sz_decides_iff (same.fields ruleId members rule entered stored)).mp agreed
    · intro agrees ruleId fresh front own
      rw [judged_stored]
      have ids := same.ids ruleId
      cases stored : rules[ruleId]? with
      | none =>
        rw [stored] at ids
        have unknown : booked lib insertions ruleId = none :=
          Option.isNone_iff_eq_none.mp (Option.isSome_eq_false_iff.mp ids.symm)
        simp [Meant, unknown]
      | some rule =>
        rw [stored] at ids
        obtain ⟨members, entered⟩ := Option.isSome_iff_exists.mp ids.symm
        simp only [Option.some.injEq, exists_eq_left', szVerdict_take, Meant, entered]
        apply and_congr_right
        intro link
        exact (sz_decides_iff (same.fields ruleId members rule entered stored)).mpr
          (agrees ruleId members rule entered stored link fresh (sz_unstuck_iff.mp ⟨front, own⟩))
  · constructor
    · intro agrees ruleId rule stored link lacks fresh
      exact agrees ruleId (sz_stuck_iff.mpr ⟨rule, stored, link, lacks⟩) fresh
    · intro agrees ruleId stuck fresh
      obtain ⟨rule, stored, link, lacks⟩ := sz_stuck_iff.mp stuck
      exact agrees ruleId rule stored link lacks fresh

theorem sz_getRule_found_iff_side :
    ∃ rules, insertAll (Sz.exchange literal) ∅ stockThenSide = some rules ∧
      ((Found rules (Meant literal (Sz.exchange literal).key stockThenSide sideOnly ∅) (Sz.getRule rules sideOnly ∅) ∧
          ∀ (shRules : Rules literal String) (in_docDeclareOrder : String → Option String), SameRules shRules rules →
            Carries shRules in_docDeclareOrder sideOnly →
            (Sh.getRule shRules in_docDeclareOrder ∅).map Prod.fst = (Sz.getRule rules sideOnly ∅).map Prod.fst) ↔
        (∀ ruleId members rule, booked literal stockThenSide ruleId = some members → rules[ruleId]? = some rule →
          linked ∅ ruleId = true →
          Fresh (· < ·) (Meant literal (Sz.exchange literal).key stockThenSide sideOnly ∅) ruleId →
          (∀ lower other, lower ≤ ruleId → linked ∅ lower = true → rules[lower]? = some other →
            ¬ ∃ front, Lacks sideOnly other.mapRegexs.toList front) →
          SzDecides literal (Sz.exchange literal).key members sideOnly rule.mapRegexs.toList) ∧
        ∀ ruleId rule, rules[ruleId]? = some rule → linked ∅ ruleId = true →
          (∃ front, Lacks sideOnly rule.mapRegexs.toList front) →
          Fresh (· < ·) (Meant literal (Sz.exchange literal).key stockThenSide sideOnly ∅) ruleId →
          ∀ other, ¬ Meant literal (Sz.exchange literal).key stockThenSide sideOnly ∅ other) :=
  ⟨_, Eq.refl (some _), sz_getRule_found_iff literal stockThenSide _ (Eq.refl (some _)) sideOnly ∅⟩

/-- A message without a stock falls under the second rule, but no rule is found. -/
theorem sz_rule_after_missing_field_lost :
    ∃ rules, insertAll (Sz.exchange literal) ∅ stockThenSide = some rules ∧
      ¬ Found rules (Meant literal (Sz.exchange literal).key stockThenSide sideOnly ∅)
        (Sz.getRule rules sideOnly ∅) := by
  obtain ⟨rules, built⟩ : ∃ rules, insertAll (Sz.exchange literal) ∅ stockThenSide = some rules :=
    ⟨_, Eq.refl (some _)⟩
  refine ⟨rules, built, ?_⟩
  have answer : (insertAll (Sz.exchange literal) ∅ stockThenSide).map (fun rules =>
      (Sz.getRule rules sideOnly ∅).map Prod.fst) = some none := by decide +kernel
  rw [built, Option.map_some, Option.some.injEq] at answer
  rintro ⟨lowest, -⟩
  rw [answer] at lowest
  apply lowest 2
  refine ⟨rfl, [("54", "1")], by decide +kernel, by decide, ?_⟩
  intro field text condition
  have only : conditions (Sz.exchange literal).key [("54", "1")] = (∅ : TreeMap Int String).insert 54 "1" := by
    have tag : string2IntAtoi "54" = 54 := by decide +kernel
    simp only [conditions, List.foldl_cons, List.foldl_nil, Sz.exchange, tag]
  rw [only, TreeMap.getElem?_insert] at condition
  split at condition
  next same =>
    cases condition
    cases LawfulEqCmp.compare_eq_iff_eq.mp same
    exact ⟨"1", some "1", rfl, rfl, rfl⟩
  next => cases condition

end Simutgw.Proofs.RuleLookup
