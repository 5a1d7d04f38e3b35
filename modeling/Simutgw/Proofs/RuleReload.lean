import Simutgw.Proofs.RuleReplacement

/-! An array of rules inserted, and the rules reloaded from the database. The loop over
an array stops at the first failure with what came before it stored, and a reload
clears the rules before it asks for others. What is stored afterwards are patches over
what was there: the last word on each part of each rule counts. -/

namespace Simutgw.Proofs.RuleReload
open Std Logic MatchRule TgwStringUtil RuleLookup RuleReplacement

section Words

variable {lib : RegexLibrary} {Key : Type} [Ord Key] {exchange : Exchange lib Key}

/-- What is known of the parts of all rules. -/
abbrev Known (lib : RegexLibrary) (Key : Type) := Patch (UInt64 × RulePart Key) fun cell => cell.2.Value lib

/-- What the stored rules say. -/
def view (rules : Rules lib Key) : Known lib Key := fun cell => rules[cell.1]?.bind fun rule => told rule cell.2

/-- What is said of one rule. -/
def entry (ruleId : UInt64) (patch : Patch (RulePart Key) (RulePart.Value lib)) : Known lib Key :=
  fun cell => if cell.1 = ruleId then patch cell.2 else none

/-- There is a rule of the id. -/
def Stands (known : Known lib Key) (ruleId : UInt64) : Prop := (known (ruleId, .ruleId)).isSome

instance instDecidableStands (known : Known lib Key) (ruleId : UInt64) : Decidable (Stands known ruleId) :=
  inferInstanceAs (Decidable (_ = true))

/-- What a document that is taken says, of a new rule all that it starts with. `none`
where a member is asked for that is not there. -/
def wording (reads : Reads exchange) (known : Known lib Key) (doc : RuleDoc) : Option (Known lib Key) :=
  (takenDoc lib doc).bind fun (ruleId, members) =>
    if Stands known ruleId then some (entry ruleId (said exchange.key doc (reads.trades doc) ruleId members))
    else (reads.first doc).map fun given => entry ruleId (blank.lay (said exchange.key doc given ruleId members))

/-- What the documents say one after another. -/
def wordings (reads : Reads exchange) (known : Known lib Key) : List RuleDoc → Option (List (Known lib Key))
  | [] => some []
  | doc :: docs =>
    (wording reads known doc).bind fun patch => (wordings reads (known.lay patch) docs).map (patch :: ·)

/-- What a document with a text that does not compile says of a rule that is there: the
conditions up to it, and of its own field that it has a regex, if it had none. -/
def torn (key : String → Key) (known : Known lib Key) (ruleId : UInt64) (members : List (String × String)) :
    Patch (RulePart Key) (RulePart.Value lib)
  | .ruleId => some ruleId
  | .regexes => some members
  | .condition field =>
    match known (ruleId, .condition field) with
    | none => (compiled lib key members)[field]?
    | some _ => (compiled lib key (members.takeWhile fun one => (lib.assign one.2).isSome))[field]?
  | _ => none

/-- An element that is stored, and gets to the database if it is to. -/
def Goes (lib : RegexLibrary) (bUpdateToDb : Bool) (element : Element) : Prop :=
  ∃ doc, element.doc = some doc ∧ (takenDoc lib doc).isSome ∧ (bUpdateToDb → element.updated)

/-- What an element says that the insertion stops at. -/
def stopped (reads : Reads exchange) (known : Known lib Key) (element : Element) : Option (List (Known lib Key)) :=
  element.doc.bind fun doc =>
    match takenDoc lib doc with
    | some _ => (wording reads known doc).map ([·])
    | none =>
      let ui64Timestamp := UInt64.ofInt (doc.timestamp.getD 0)
      match doc.ruleId, doc.judge_cond.map condTexts with
      | some _, none => if ui64Timestamp = 0 then some [] else none
      | some strRuleId, some (some members) =>
        let ruleId := string2UInt64 strRuleId
        if ui64Timestamp = 0 ∨ ¬ Stands known ruleId then some []
        else some [entry ruleId (torn exchange.key known ruleId members)]
      | _, _ => some []

/-- The rules that are given, each in place of the one of its id. -/
def merged (reads : Reads exchange) (known : Known lib Key) (docs : List RuleDoc) : Known lib Key :=
  docs.foldl (fun known doc =>
    match takenDoc lib doc with
    | none => known
    | some (ruleId, members) => fun cell =>
      if cell.1 = ruleId then blank.lay (said exchange.key doc (reads.trades doc) ruleId members) cell.2
      else known cell) known

def docs (elements : List Element) : List RuleDoc := elements.filterMap Element.doc

/-- What is said up to an element that the insertion stops at. -/
def halted (reads : Reads exchange) (known : Known lib Key) (front : List RuleDoc) (bad : Element) :
    Option (List (Known lib Key)) :=
  (wordings reads known front).bind fun words => (stopped reads (known.layAll words) bad).map (words ++ ·)

/-- The last document of each id leaves nothing of the rule that was there or was given
before: what it does not say was not said at all, or was said to be empty. A rule that
is new gets the trades it gives. -/
structure Replaces (reads : Reads exchange) (known : Known lib Key) (docs : List RuleDoc) : Prop where
  defined : wordings reads known docs ≠ none
  leaves : ∀ front doc back ruleId members words, docs = front ++ doc :: back →
    takenDoc lib doc = some (ruleId, members) → (∀ later ∈ back, (takenDoc lib later).map Prod.fst ≠ some ruleId) →
    wordings reads known front = some words →
    (Stands known ruleId ∨ ∃ earlier ∈ front, (takenDoc lib earlier).map Prod.fst = some ruleId) →
    ∀ part, (said exchange.key doc (reads.trades doc) ruleId members : Patch (RulePart Key) (RulePart.Value lib)) part = none →
      (Patch.last words (ruleId, part)).or (known (ruleId, part)) = blank part
  starts : ∀ front doc back ruleId members, docs = front ++ doc :: back →
    takenDoc lib doc = some (ruleId, members) → (∀ later ∈ back, (takenDoc lib later).map Prod.fst ≠ some ruleId) →
    ¬ Stands known ruleId → (∀ earlier ∈ front, (takenDoc lib earlier).map Prod.fst ≠ some ruleId) →
    ∃ given, reads.first doc = some given ∧ (reads.trades doc).getD (.array "[]") = given.getD (.array "[]")

/-- An array that fails leaves the rules as they were, and one that does not leaves its
rules merged over them. -/
def ArrayLawful (reads : Reads exchange) (bUpdateToDb : Bool) (elements : List Element) (rules : Rules lib Key) : Prop :=
  ∃ inserted after, insertRuleWithoutlock exchange (.array elements) bUpdateToDb rules = some (inserted, after) ∧
    (inserted ≠ .returned 0 → view after = view rules) ∧
    (inserted = .returned 0 → view after = merged reads (view rules) (docs elements))

/-- Where an element does not go, the last word on every part, up to it, is what is
stored, and where all go, they replace what there was. -/
structure ArraySound (reads : Reads exchange) (bUpdateToDb : Bool) (elements : List Element) (rules : Rules lib Key) :
    Prop where
  stops : ∀ front bad back, elements = front ++ bad :: back → (∀ element ∈ front, Goes lib bUpdateToDb element) →
    ¬ Goes lib bUpdateToDb bad → ∃ words, halted reads (view rules) (docs front) bad = some words ∧
      ∀ cell value, Patch.last words cell = some value → view rules cell = some value
  goes : (∀ element ∈ elements, Goes lib bUpdateToDb element) → Replaces reads (view rules) (docs elements)

/-- The rules of the rows, where the query yields any and all of them parse. -/
def rowDocs (parse : String → Option Parsed) (rows : Option (List RuleRow)) : Option (List RuleDoc) :=
  rows.bind fun rows => rows.mapM (ruleOfRow parse)

/-- A reload that fails leaves the rules as they were, and one that does not leaves
those of the rows and no others. -/
def ReloadLawful (reads : Reads exchange) (parse : String → Option Parsed) (rows : Option (List RuleRow))
    (rules : Rules lib Key) : Prop :=
  ∃ code after, reloadFromDb exchange parse rows = some (code, after) ∧
    (code ≠ 0 → view after = view rules) ∧
    (code = 0 → ∃ given, rowDocs parse rows = some given ∧ view after = merged reads (fun _ => none) given)

/-- There were no rules where there are no rows to insert, and where a row is refused
there were the rules of those before it. -/
structure ReloadSound (reads : Reads exchange) (parse : String → Option Parsed) (rows : Option (List RuleRow))
    (rules : Rules lib Key) : Prop where
  empty : rowDocs parse rows = none → ∀ ruleId : UInt64, rules[ruleId]? = none
  stops : ∀ front bad back, rowDocs parse rows = some (front ++ bad :: back) →
    (∀ doc ∈ front, (takenDoc lib doc).isSome) → takenDoc lib bad = none →
    ∃ words, halted reads (fun _ => none) front { doc := some bad } = some words ∧
      ∀ cell, view rules cell = Patch.last words cell
  goes : ∀ given, rowDocs parse rows = some given → (∀ doc ∈ given, (takenDoc lib doc).isSome) →
    Replaces reads (fun _ => none) given

end Words

section Views

variable {lib : RegexLibrary} {Key : Type} [Ord Key] {exchange : Exchange lib Key} {rules : Rules lib Key}
  {ruleId : UInt64} {rule : MatchRuleBase lib Key}

theorem stands_view : Stands (view rules) ruleId ↔ (rules[ruleId]?).isSome := by
  rw [Stands, view]
  cases rules[ruleId]? <;> simp [told]

theorem view_stored {old : MatchRuleBase lib Key} (stored : rules[ruleId]? = some old) (part : RulePart Key) :
    view rules (ruleId, part) = told old part := by
  rw [view, stored, Option.bind_some]

theorem view_absent (absent : rules[ruleId]? = none) (part : RulePart Key) : view rules (ruleId, part) = none := by
  rw [view, absent, Option.bind_none]

theorem view_formed (rules : Rules lib Key) (ruleId : UInt64) (absent : ¬ Stands (view rules) ruleId)
    (part : RulePart Key) : view rules (ruleId, part) = none := by
  apply view_absent
  rw [stands_view] at absent
  exact Option.not_isSome_iff_eq_none.mp absent

theorem view_empty : view (∅ : Rules lib Key) = fun _ => none := by
  funext cell
  rw [view, TreeMap.getElem?_emptyc, Option.bind_none]

theorem view_insert {patch : Patch (RulePart Key) (RulePart.Value lib)}
    (tells : ∀ part, told rule part = (patch part).or (view rules (ruleId, part))) :
    view (rules.insert ruleId rule) = (view rules).lay (entry ruleId patch) := by
  funext cell
  obtain ⟨other, part⟩ := cell
  simp only [view, Patch.lay, entry, TreeMap.getElem?_insert, LawfulEqCmp.compare_eq_iff_eq]
  by_cases own : ruleId = other
  · subst own
    simpa only [if_true, Option.bind_some, view] using tells part
  · simp only [own, Ne.symm own, if_false, Option.none_or]

theorem reloadFromDb_rows {parse : String → Option Parsed} {rows : Option (List RuleRow)} {given : List RuleDoc}
    (parsed : rowDocs parse rows = some given) :
    reloadFromDb exchange parse rows =
      (insertElements exchange false (given.map fun doc => { doc := some doc }) ∅).map fun ran =>
        (if ran.1 = .returned 0 then 0 else -1, ran.2) := by
  rw [rowDocs] at parsed
  simp only [reloadFromDb, parsed, insertRuleWithoutlock]
  cases insertElements exchange false (given.map fun doc => ({ doc := some doc } : Element)) ∅ with
  | none => rfl
  | some ran =>
    obtain ⟨inserted, after⟩ := ran
    cases inserted with
    | threw => rfl
    | returned iRes =>
      by_cases zero : iRes = 0
      · simp [zero]
      · simp [zero]

end Views

section Elements

variable {lib : RegexLibrary} {Key : Type} [Ord Key] [TransOrd Key] {exchange : Exchange lib Key}
  {rules : Rules lib Key} {doc : RuleDoc} {ruleId : UInt64} {members : List (String × String)}

/-- What is done with the rules is what is said of them. -/
def Follows (rules : Rules lib Key) (ends : Inserted → Prop) (ran : Option (Inserted × Rules lib Key))
    (words : Option (List (Known lib Key))) : Prop :=
  (words = none ∧ ran = none) ∨ ∃ patches inserted after, words = some patches ∧ ran = some (inserted, after) ∧
    ends inserted ∧ view after = (view rules).layAll patches

theorem insert_wording (reads : Reads exchange) (taken : takenDoc lib doc = some (ruleId, members))
    (bUpdateToDb updated : Bool) :
    Follows rules (· = .returned (if bUpdateToDb && !updated then -1 else 0))
      (insertSingleRule exchange doc bUpdateToDb updated rules) ((wording reads (view rules) doc).map ([·])) := by
  obtain ⟨strRuleId, judge, id, same, cond, texts, stamp, compile⟩ := takenDoc_inv taken
  rw [insertSingleRule_taken taken, wording, taken, Option.bind_some]
  simp only [stands_view]
  cases stored : rules[ruleId]? with
  | some old =>
    obtain ⟨rule, revision, tells⟩ := @revised_old lib Key _ _ exchange doc ruleId members reads compile old
    rw [revision]
    refine .inr ⟨_, _, _, rfl, rfl, rfl, ?_⟩
    apply view_insert
    intro part
    rw [tells, view_stored stored]
    rfl
  | none =>
    rcases @revised_new lib Key _ _ exchange doc ruleId members reads compile with
      ⟨first, undefined⟩ | ⟨given, rule, first, made, tells⟩
    · rw [undefined, first]
      exact .inl ⟨rfl, rfl⟩
    · rw [made, first]
      refine .inr ⟨_, _, _, rfl, rfl, rfl, ?_⟩
      apply view_insert
      intro part
      rw [tells, view_absent stored, Option.or_none]

theorem lookup_insertIfNew {map : TreeMap Key lib.Regex} {field other : Key} {regex : lib.Regex} :
    (map.insertIfNew field regex)[other]? =
      if compare field other = .eq then map[other]?.or (some regex) else map[other]? := by
  rw [TreeMap.getElem?_insertIfNew]
  by_cases same : compare field other = .eq
  · have member : field ∈ map ↔ (map[other]?).isSome := by
      rw [TreeMap.mem_congr same, TreeMap.mem_iff_isSome_getElem?]
    rw [if_pos same]
    cases here : map[other]? with
    | none => rw [if_pos ⟨same, by rw [member, here]; exact Bool.false_ne_true⟩, Option.none_or]
    | some old => rw [if_neg (fun new => new.2 (by rw [member, here]; rfl)), Option.some_or]
  · rw [if_neg same, if_neg (fun new => same new.1)]

/-- Where a text does not compile, a field that there was keeps its regex or gets that
of a member before, and another has what it would have in an empty map. -/
theorem assignAll_torn (key : String → Key) (members : List (String × String)) {known : Key → Option lib.Regex}
    {mapRegexs own front : TreeMap Key lib.Regex} (absent : ∀ field, known field = none → mapRegexs[field]? = own[field]?)
    (there : ∀ field old, known field = some old → mapRegexs[field]? = front[field]?.or (some old)) :
    (∀ field, known field = none → (assignAll key mapRegexs members).1[field]? = (assignAll key own members).1[field]?) ∧
      ∀ field old, known field = some old → (assignAll key mapRegexs members).1[field]? =
        (assignAll key front (members.takeWhile fun one => (lib.assign one.2).isSome)).1[field]?.or (some old) := by
  induction members generalizing mapRegexs own front with
  | nil => exact ⟨absent, there⟩
  | cons one members ih =>
    obtain ⟨strName, strValue⟩ := one
    cases text : lib.assign strValue with
    | some regex =>
      simp only [assignAll, text, List.takeWhile_cons, Option.isSome_some, if_true]
      apply ih
      · intro field unknown
        simp only [TreeMap.getElem?_insert, absent field unknown]
      · intro field old known
        simp only [TreeMap.getElem?_insert, there field old known]
        split <;> rfl
    | none =>
      simp only [assignAll, text, List.takeWhile_cons, Option.isSome_none, Bool.false_eq_true, if_false]
      refine ⟨fun field unknown => ?_, fun field old known => ?_⟩
      · simp only [lookup_insertIfNew, absent field unknown]
      · simp only [lookup_insertIfNew, there field old known]
        split
        · cases front[field]? <;> rfl
        · rfl

/-- A document with a text that does not compile changes nothing where there is no rule
of its id, and else what it says up to there. -/
theorem insert_torn {strRuleId : String} {judge : List (String × Option String)}
    (id : doc.ruleId = some strRuleId) (cond : doc.judge_cond = some judge) (texts : condTexts judge = some members)
    (stamp : UInt64.ofInt (doc.timestamp.getD 0) ≠ 0) (broken : ¬ ∀ one ∈ members, (lib.assign one.2).isSome)
    (bUpdateToDb updated : Bool) :
    Follows rules (· = .threw) (insertSingleRule exchange doc bUpdateToDb updated rules)
      (some (if ¬ Stands (view rules) (string2UInt64 strRuleId) then []
        else [entry (string2UInt64 strRuleId)
          (torn exchange.key (view rules) (string2UInt64 strRuleId) members)])) := by
  simp only [insertSingleRule, id, cond, Option.map_some, texts, stamp, if_false, stands_view]
  have thrown (rule : MatchRuleBase lib Key) : (assignAll exchange.key rule.mapRegexs members).2 = false :=
    Bool.eq_false_iff.mpr ((assignAll_assigned exchange.key members rule.mapRegexs).not.mpr broken)
  cases stored : rules[string2UInt64 strRuleId]? with
  | none =>
    refine .inr ⟨[], .threw, rules, rfl, ?_, rfl, rfl⟩
    have thrown := thrown {}
    simp only at thrown
    simp only [setRegex, thrown, Bool.false_eq_true, if_false]
  | some old =>
    refine .inr ⟨_, .threw,
      rules.insert (string2UInt64 strRuleId)
        { old with
          ui64RuleId := string2UInt64 strRuleId
          docRegexes := members
          mapRegexs := (assignAll exchange.key old.mapRegexs members).1 }, rfl, ?_, rfl, ?_⟩
    · simp only [setRegex, thrown, Bool.false_eq_true, if_false]
    · apply view_insert
      intro part
      rw [view_stored stored]
      cases part with
      | ruleId | timestamp | regexes | confirm | trades => rfl
      | condition field =>
        have assigned := @assignAll_torn lib Key _ _ exchange.key members (fun field => old.mapRegexs[field]?)
          old.mapRegexs ∅ ∅ (fun field unknown => by rw [unknown, TreeMap.getElem?_emptyc])
          (fun field regex known => by rw [known, TreeMap.getElem?_emptyc, Option.none_or])
        simp only [told, torn, view_stored stored, compiled]
        cases known : old.mapRegexs[field]? with
        | none => rw [Option.or_none, assigned.1 field known]
        | some regex => rw [assigned.2 field regex known]

theorem insertElement_stops (reads : Reads exchange) {bUpdateToDb : Bool} {element : Element}
    (stops : ¬ Goes lib bUpdateToDb element) :
    Follows rules (· ≠ .returned 0) (insertElement exchange bUpdateToDb element rules)
      (stopped reads (view rules) element) := by
  cases object : element.doc with
  | none => exact .inl ⟨by rw [stopped, object, Option.bind_none], by rw [insertElement, object, Option.bind_none]⟩
  | some doc =>
    rw [stopped, insertElement, object, Option.bind_some, Option.bind_some]
    cases taken : takenDoc lib doc with
    | some pair =>
      obtain ⟨ruleId, members⟩ := pair
      have unsaved : bUpdateToDb && !element.updated := by
        by_contra saved
        apply stops
        refine ⟨doc, object, by rw [taken]; rfl, fun update => ?_⟩
        simpa [update] using saved
      have stored := @insert_wording lib Key _ _ exchange rules doc ruleId members reads taken bUpdateToDb element.updated
      rw [if_pos unsaved] at stored
      rcases stored with undefined | ⟨patches, inserted, after, worded, ran, ends, same⟩
      · exact .inl undefined
      · refine .inr ⟨patches, inserted, after, worded, ran, ?_, same⟩
        rw [ends]
        decide
    | none =>
      have unchanged : Follows rules (· ≠ .returned 0) (some (.returned (-1), rules)) (some []) :=
        .inr ⟨[], _, _, rfl, rfl, by decide, rfl⟩
      simp only
      cases id : doc.ruleId with
      | none =>
        simp only [insertSingleRule, id]
        exact unchanged
      | some strRuleId =>
        cases cond : doc.judge_cond with
        | none =>
          simp only [insertSingleRule, id, cond, Option.map_none]
          split
          · exact unchanged
          · exact .inl ⟨rfl, rfl⟩
        | some judge =>
          cases texts : condTexts judge with
          | none =>
            simp only [insertSingleRule, id, cond, Option.map_some, texts]
            exact unchanged
          | some members =>
            simp only [Option.map_some, texts]
            by_cases stamp : UInt64.ofInt (doc.timestamp.getD 0) = 0
            · simp only [insertSingleRule, id, cond, Option.map_some, texts, stamp, if_true, true_or]
              exact unchanged
            · have broken : ¬ ∀ one ∈ members, (lib.assign one.2).isSome := by
                intro compile
                rw [takenDoc_eq id cond texts stamp, if_pos compile] at taken
                cases taken
              simp only [stamp, false_or]
              have torn := @insert_torn lib Key _ _ exchange rules doc members strRuleId judge id cond texts stamp broken
                bUpdateToDb element.updated
              rcases torn with ⟨undefined, -⟩ | ⟨patches, inserted, after, worded, ran, ends, same⟩
              · cases undefined
              · refine .inr ⟨patches, inserted, after, ?_, ran, ?_, same⟩
                · rw [← worded]
                  split <;> rfl
                · rw [ends]
                  decide

theorem insertElement_goes (reads : Reads exchange) {bUpdateToDb : Bool} {element : Element}
    (object : element.doc = some doc) (taken : takenDoc lib doc = some (ruleId, members))
    (saved : bUpdateToDb → element.updated) :
    Follows rules (· = .returned 0) (insertElement exchange bUpdateToDb element rules)
      ((wording reads (view rules) doc).map ([·])) := by
  have stored := @insert_wording lib Key _ _ exchange rules doc ruleId members reads taken bUpdateToDb element.updated
  have code : ¬ (bUpdateToDb && !element.updated) := by
    intro unsaved
    simp only [Bool.and_eq_true, Bool.not_eq_true'] at unsaved
    rw [saved unsaved.1] at unsaved
    cases unsaved.2
  rw [if_neg code] at stored
  rwa [insertElement, object, Option.bind_some]

theorem insertElements_front (reads : Reads exchange) {bUpdateToDb : Bool} {front : List Element} (rest : List Element)
    (go : ∀ element ∈ front, Goes lib bUpdateToDb element) (rules : Rules lib Key) :
    (wordings reads (view rules) (docs front) = none ∧
        insertElements exchange bUpdateToDb (front ++ rest) rules = none) ∨
      ∃ words later, wordings reads (view rules) (docs front) = some words ∧
        view later = (view rules).layAll words ∧
        insertElements exchange bUpdateToDb (front ++ rest) rules = insertElements exchange bUpdateToDb rest later := by
  induction front generalizing rules with
  | nil => exact .inr ⟨[], rules, rfl, rfl, rfl⟩
  | cons element front ih =>
    obtain ⟨doc, object, isTaken, saved⟩ := go element List.mem_cons_self
    obtain ⟨⟨ruleId, members⟩, taken⟩ := Option.isSome_iff_exists.mp isTaken
    have split : docs (element :: front) = doc :: docs front := by
      rw [docs, List.filterMap_cons, object]
      rfl
    simp only [split, wordings, List.cons_append, insertElements]
    rcases @insertElement_goes lib Key _ _ exchange rules doc ruleId members reads bUpdateToDb element object taken
        saved with
      ⟨undefined, stuck⟩ | ⟨patches, inserted, after, worded, ran, ends, same⟩
    · rw [Option.map_eq_none_iff.mp undefined, stuck]
      exact .inl ⟨rfl, rfl⟩
    · obtain ⟨patch, own, rfl⟩ := Option.map_eq_some_iff.mp worded
      cases ends
      rw [own, ran]
      have laid : view after = (view rules).lay patch := same
      simp only [Option.bind_some, ne_eq, not_true_eq_false, if_false, ← laid]
      rcases ih (fun later found => go later (List.mem_cons_of_mem _ found)) after with
        ⟨undefined, stuck⟩ | ⟨words, later, worded, view_later, goes⟩
      · rw [undefined, stuck]
        exact .inl ⟨rfl, rfl⟩
      · refine .inr ⟨patch :: words, later, ?_, ?_, goes⟩
        · rw [worded, Option.map_some]
        · rw [view_later, laid]
          rfl

theorem insertElements_all (reads : Reads exchange) {bUpdateToDb : Bool} {elements : List Element}
    (go : ∀ element ∈ elements, Goes lib bUpdateToDb element) (rules : Rules lib Key) :
    Follows rules (· = .returned 0) (insertElements exchange bUpdateToDb elements rules)
      (wordings reads (view rules) (docs elements)) := by
  have front := insertElements_front reads [] go rules
  rw [List.append_nil] at front
  rcases front with undefined | ⟨words, later, worded, view_later, ran⟩
  · exact .inl undefined
  · exact .inr ⟨words, _, _, worded, ran, rfl, view_later⟩

theorem insertElements_halted (reads : Reads exchange) {bUpdateToDb : Bool} {front : List Element} {bad : Element}
    (back : List Element) (go : ∀ element ∈ front, Goes lib bUpdateToDb element) (stops : ¬ Goes lib bUpdateToDb bad)
    (rules : Rules lib Key) :
    Follows rules (· ≠ .returned 0) (insertElements exchange bUpdateToDb (front ++ bad :: back) rules)
      (halted reads (view rules) (docs front) bad) := by
  rw [halted]
  rcases insertElements_front reads (bad :: back) go rules with ⟨undefined, stuck⟩ | ⟨words, later, worded, view_later, ran⟩
  · rw [undefined, stuck]
    exact .inl ⟨rfl, rfl⟩
  · rw [worded, ran, Option.bind_some, ← view_later, insertElements]
    rcases @insertElement_stops lib Key _ _ exchange later reads bUpdateToDb bad stops with
      ⟨undefined, stuck⟩ | ⟨patches, inserted, after, worded, ran, fails, same⟩
    · rw [undefined, stuck]
      exact .inl ⟨rfl, rfl⟩
    · rw [worded, ran]
      have laid : view after = (view rules).layAll (words ++ patches) := by
        rw [same, view_later, Patch.layAll_append]
      cases inserted with
      | threw => exact .inr ⟨_, _, _, rfl, rfl, fails, laid⟩
      | returned iRes =>
        have code : iRes ≠ 0 := fun zero => fails (congrArg Inserted.returned zero)
        simp only [code, ne_eq, not_false_eq_true, if_true]
        exact .inr ⟨_, _, _, rfl, rfl, by decide, laid⟩

end Elements

section Words

variable {lib : RegexLibrary} {Key : Type} [Ord Key] {exchange : Exchange lib Key} {reads : Reads exchange}
  {known : Known lib Key} {doc : RuleDoc} {ruleId : UInt64} {members : List (String × String)}

theorem wordings_append (front back : List RuleDoc) :
    wordings reads known (front ++ back) =
      (wordings reads known front).bind fun words =>
        (wordings reads (known.layAll words) back).map (words ++ ·) := by
  induction front generalizing known with
  | nil => simp [wordings, Patch.layAll]
  | cons doc front ih =>
    simp only [List.cons_append, wordings, ih]
    cases wording reads known doc with
    | none => rfl
    | some patch =>
      simp only [Option.bind_some]
      cases wordings reads (known.lay patch) front with
      | none => rfl
      | some words =>
        simp only [Option.bind_some, Option.map_some, Option.map_map]
        rfl

theorem wording_cases (taken : takenDoc lib doc = some (ruleId, members)) {patch : Known lib Key}
    (worded : wording reads known doc = some patch) :
    (Stands known ruleId ∧ patch = entry ruleId (said exchange.key doc (reads.trades doc) ruleId members)) ∨
      ∃ given, ¬ Stands known ruleId ∧ reads.first doc = some given ∧
        patch = entry ruleId (blank.lay (said exchange.key doc given ruleId members)) := by
  rw [wording, taken, Option.bind_some] at worded
  simp only at worded
  split at worded
  next stands => exact .inl ⟨stands, (Option.some.inj worded).symm⟩
  next absent =>
    obtain ⟨given, first, same⟩ := Option.map_eq_some_iff.mp worded
    exact .inr ⟨given, absent, first, same.symm⟩

theorem wording_taken {patch : Known lib Key} (worded : wording reads known doc = some patch) :
    ∃ ruleId members, takenDoc lib doc = some (ruleId, members) := by
  obtain ⟨⟨ruleId, members⟩, taken, -⟩ := Option.bind_eq_some_iff.mp worded
  exact ⟨ruleId, members, taken⟩

theorem wording_own {patch : Known lib Key} (worded : wording reads known doc = some patch) :
    ∃ own members, takenDoc lib doc = some (own, members) ∧ Stands patch own ∧
      ∀ other, other ≠ own → ∀ part, patch (other, part) = none := by
  obtain ⟨own, members, taken⟩ := wording_taken worded
  refine ⟨own, members, taken, ?_⟩
  rcases wording_cases taken worded with ⟨-, rfl⟩ | ⟨given, -, -, rfl⟩
  · exact ⟨by simp [Stands, entry, said], fun other different part => if_neg different⟩
  · exact ⟨by simp [Stands, entry, said, Patch.lay], fun other different part => if_neg different⟩

theorem wordings_other {documents : List RuleDoc} {words : List (Known lib Key)}
    (worded : wordings reads known documents = some words)
    (others : ∀ doc ∈ documents, (takenDoc lib doc).map Prod.fst ≠ some ruleId) (part : RulePart Key) :
    known.layAll words (ruleId, part) = known (ruleId, part) := by
  induction documents generalizing known words with
  | nil =>
    cases worded
    rfl
  | cons doc documents ih =>
    obtain ⟨patch, own, rest⟩ := Option.bind_eq_some_iff.mp worded
    obtain ⟨later, worded_later, rfl⟩ := Option.map_eq_some_iff.mp rest
    obtain ⟨own, members, taken, -, nothing⟩ := wording_own own
    have different : ruleId ≠ own := by
      intro same
      apply others doc List.mem_cons_self
      rw [taken, same]
      rfl
    have after := ih worded_later (fun one found => others one (List.mem_cons_of_mem _ found))
    refine after.trans ?_
    rw [Patch.lay, nothing ruleId different part, Option.none_or]

theorem wordings_stands {documents : List RuleDoc} {words : List (Known lib Key)}
    (worded : wordings reads known documents = some words) :
    Stands (known.layAll words) ruleId ↔
      Stands known ruleId ∨ ∃ earlier ∈ documents, (takenDoc lib earlier).map Prod.fst = some ruleId := by
  induction documents generalizing known words with
  | nil =>
    cases worded
    simp [Patch.layAll]
  | cons doc documents ih =>
    obtain ⟨patch, own, rest⟩ := Option.bind_eq_some_iff.mp worded
    obtain ⟨later, worded_later, rfl⟩ := Option.map_eq_some_iff.mp rest
    obtain ⟨own, members, taken, stands, nothing⟩ := wording_own own
    have laid : Stands (known.lay patch) ruleId ↔ own = ruleId ∨ Stands known ruleId := by
      by_cases same : own = ruleId
      · subst same
        obtain ⟨value, there⟩ := Option.isSome_iff_exists.mp stands
        simp [Stands, Patch.lay, there]
      · simp only [Stands, Patch.lay, nothing ruleId (Ne.symm same), Option.none_or, same, false_or]
    have after := ih worded_later
    simp only [List.exists_mem_cons_iff, taken, Option.map_some, Option.some.injEq]
    rw [laid] at after
    refine after.trans ?_
    rw [or_comm (a := own = ruleId), or_assoc]

theorem merged_append (front back : List RuleDoc) :
    merged reads known (front ++ back) = merged reads (merged reads known front) back := List.foldl_append

theorem merged_other {documents : List RuleDoc}
    (others : ∀ doc ∈ documents, (takenDoc lib doc).map Prod.fst ≠ some ruleId) (part : RulePart Key) :
    merged reads known documents (ruleId, part) = known (ruleId, part) := by
  induction documents generalizing known with
  | nil => rfl
  | cons doc documents ih =>
    have after := @ih (merged reads known [doc]) (fun one found => others one (List.mem_cons_of_mem _ found))
    refine after.trans ?_
    have own := others doc List.mem_cons_self
    cases taken : takenDoc lib doc with
    | none => simp [merged, taken]
    | some pair =>
      rw [taken] at own
      have different : ruleId ≠ pair.1 := fun same => own (congrArg some same.symm)
      simp [merged, taken, different]

theorem last_or_none {Item : Type} (holds : Item → Prop) (items : List Item) :
    (∀ item ∈ items, ¬ holds item) ∨
      ∃ front item back, items = front ++ item :: back ∧ holds item ∧ ∀ later ∈ back, ¬ holds later := by
  induction items with
  | nil => exact .inl (by simp)
  | cons item items ih =>
    rcases ih with none | ⟨front, last, back, rfl, own, rest⟩
    · by_cases own : holds item
      · exact .inr ⟨[], item, items, rfl, own, none⟩
      · exact .inl (List.forall_mem_cons.mpr ⟨own, none⟩)
    · exact .inr ⟨item :: front, last, back, rfl, own, rest⟩

/-- What is said of an id is what its last document says, over what was said before it,
and what is given is what that document gives. -/
theorem last_words {front back : List RuleDoc} {words : List (Known lib Key)}
    (worded : wordings reads known (front ++ doc :: back) = some words)
    (others : ∀ later ∈ back, (takenDoc lib later).map Prod.fst ≠ some ruleId) :
    ∃ before patch, wordings reads known front = some before ∧
      wording reads (known.layAll before) doc = some patch ∧
      ∀ part, known.layAll words (ruleId, part) = (known.layAll before).lay patch (ruleId, part) := by
  rw [wordings_append] at worded
  obtain ⟨before, worded_front, rest⟩ := Option.bind_eq_some_iff.mp worded
  obtain ⟨behind, worded_rest, rfl⟩ := Option.map_eq_some_iff.mp rest
  obtain ⟨patch, own, rest⟩ := Option.bind_eq_some_iff.mp worded_rest
  obtain ⟨later, worded_later, rfl⟩ := Option.map_eq_some_iff.mp rest
  refine ⟨before, patch, worded_front, own, fun part => ?_⟩
  rw [Patch.layAll_append]
  exact wordings_other worded_later others part

theorem last_given (front back : List RuleDoc) (taken : takenDoc lib doc = some (ruleId, members))
    (others : ∀ later ∈ back, (takenDoc lib later).map Prod.fst ≠ some ruleId) (part : RulePart Key) :
    merged reads known (front ++ doc :: back) (ruleId, part) =
      blank.lay (said exchange.key doc (reads.trades doc) ruleId members) part := by
  rw [← List.singleton_append, ← List.append_assoc, merged_append, merged_other others, merged_append]
  simp only [merged, List.foldl_cons, List.foldl_nil, taken, if_true]

theorem said_eq_iff {trades given : Option JsonValue} {key : String → Key} :
    (∀ part, (blank.lay (said key doc given ruleId members) : Patch (RulePart Key) (RulePart.Value lib)) part =
      blank.lay (said key doc trades ruleId members) part) ↔
      trades.getD (.array "[]") = given.getD (.array "[]") := by
  constructor
  · intro same
    have here := same .trades
    cases trades <;> cases given <;> exact (Option.some.inj here).symm
  · intro same part
    cases part with
    | ruleId | timestamp | regexes | confirm | condition => rfl
    | trades => cases trades <;> cases given <;> exact congrArg some same.symm

/-- A rule that was there agrees with its last document where this document leaves nothing
of it. -/
theorem last_stood_iff {front back : List RuleDoc} {before words : List (Known lib Key)}
    (worded : wordings reads known (front ++ doc :: back) = some words)
    (worded_front : wordings reads known front = some before) (taken : takenDoc lib doc = some (ruleId, members))
    (others : ∀ later ∈ back, (takenDoc lib later).map Prod.fst ≠ some ruleId)
    (stood : Stands known ruleId ∨ ∃ earlier ∈ front, (takenDoc lib earlier).map Prod.fst = some ruleId) :
    (∀ part, known.layAll words (ruleId, part) = merged reads known (front ++ doc :: back) (ruleId, part)) ↔
      ∀ part, (said exchange.key doc (reads.trades doc) ruleId members :
          Patch (RulePart Key) (RulePart.Value lib)) part = none →
        (Patch.last before (ruleId, part)).or (known (ruleId, part)) = blank part := by
  obtain ⟨_, patch, again, own, laid⟩ := last_words worded others
  cases worded_front.symm.trans again
  rcases wording_cases taken own with ⟨-, rfl⟩ | ⟨_, absent, -, -⟩
  · apply forall_congr'
    intro part
    rw [laid, last_given front back taken others]
    simp only [Patch.lay, entry, if_true, Patch.layAll_apply]
    cases (said exchange.key doc (reads.trades doc) ruleId members :
        Patch (RulePart Key) (RulePart.Value lib)) part with
    | some value => simp only [Option.some_or, reduceCtorEq, false_implies]
    | none => simp only [Option.none_or, true_implies]
  · exact absurd ((wordings_stands worded_front).mpr stood) absent

theorem last_new_iff {front back : List RuleDoc} {words : List (Known lib Key)}
    (formed : ∀ ruleId, ¬ Stands known ruleId → ∀ part, known (ruleId, part) = none)
    (worded : wordings reads known (front ++ doc :: back) = some words)
    (taken : takenDoc lib doc = some (ruleId, members))
    (others : ∀ later ∈ back, (takenDoc lib later).map Prod.fst ≠ some ruleId) (absent : ¬ Stands known ruleId)
    (fresh : ∀ earlier ∈ front, (takenDoc lib earlier).map Prod.fst ≠ some ruleId) :
    (∀ part, known.layAll words (ruleId, part) = merged reads known (front ++ doc :: back) (ruleId, part)) ↔
      ∃ given, reads.first doc = some given ∧ (reads.trades doc).getD (.array "[]") = given.getD (.array "[]") := by
  obtain ⟨before, patch, worded_front, own, laid⟩ := last_words worded others
  rcases wording_cases taken own with ⟨stands, -⟩ | ⟨given, -, first, rfl⟩
  · rcases (wordings_stands worded_front).mp stands with there | ⟨earlier, found, own⟩
    · exact absurd there absent
    · exact absurd own (fresh earlier found)
  · have nothing (part : RulePart Key) : known.layAll before (ruleId, part) = none := by
      rw [wordings_other worded_front fresh, formed ruleId absent]
    have parts : (∀ part, known.layAll words (ruleId, part) =
        merged reads known (front ++ doc :: back) (ruleId, part)) ↔
        (reads.trades doc).getD (.array "[]") = given.getD (.array "[]") := by
      rw [← @said_eq_iff lib Key _ doc ruleId members _ given exchange.key]
      apply forall_congr'
      intro part
      rw [laid, last_given front back taken others]
      simp only [Patch.lay, nothing, Option.or_none, entry, if_true]
    rw [parts]
    constructor
    · intro same
      exact ⟨given, first, same⟩
    · intro same
      obtain ⟨other, again, same⟩ := same
      cases first.symm.trans again
      exact same

theorem merged_eq_iff {documents : List RuleDoc} {words : List (Known lib Key)}
    (formed : ∀ ruleId, ¬ Stands known ruleId → ∀ part, known (ruleId, part) = none)
    (worded : wordings reads known documents = some words) :
    known.layAll words = merged reads known documents ↔ Replaces reads known documents := by
  constructor
  · intro same
    refine ⟨by rw [worded]; exact Option.some_ne_none words, ?_, ?_⟩
    · rintro front doc back ruleId members before rfl taken others worded_front stood
      exact (last_stood_iff worded worded_front taken others stood).mp fun part => congrFun same _
    · rintro front doc back ruleId members rfl taken others absent fresh
      exact (last_new_iff formed worded taken others absent fresh).mp fun part => congrFun same _
  · intro replaces
    funext cell
    obtain ⟨cellId, part⟩ := cell
    rcases last_or_none (fun doc => (takenDoc lib doc).map Prod.fst = some cellId) documents with
      none | ⟨front, doc, back, rfl, own, others⟩
    · rw [wordings_other worded none, merged_other none]
    · obtain ⟨⟨ruleId, members⟩, taken, same_id⟩ := Option.map_eq_some_iff.mp own
      obtain rfl : ruleId = cellId := same_id
      obtain ⟨before, -, worded_front, -, -⟩ := last_words worded others
      by_cases stood : Stands known ruleId ∨ ∃ earlier ∈ front, (takenDoc lib earlier).map Prod.fst = some ruleId
      · exact (last_stood_iff worded worded_front taken others stood).mpr
          (replaces.leaves front doc back ruleId members before rfl taken others worded_front stood) part
      · obtain ⟨absent, none⟩ := not_or.mp stood
        have fresh : ∀ earlier ∈ front, (takenDoc lib earlier).map Prod.fst ≠ some ruleId :=
          fun earlier found own => none ⟨earlier, found, own⟩
        exact (last_new_iff formed worded taken others absent fresh).mpr
          (replaces.starts front doc back ruleId members rfl taken others absent fresh) part

end Words

section Laws

variable {lib : RegexLibrary} {Key : Type} [Ord Key] [TransOrd Key] {exchange : Exchange lib Key}

theorem all_or_first {Item : Type} (holds : Item → Prop) (items : List Item) :
    (∀ item ∈ items, holds item) ∨
      ∃ front item back, items = front ++ item :: back ∧ (∀ earlier ∈ front, holds earlier) ∧ ¬ holds item := by
  induction items with
  | nil => exact .inl (by simp)
  | cons item items ih =>
    by_cases own : holds item
    · rcases ih with all | ⟨front, bad, back, rfl, before, fails⟩
      · exact .inl (List.forall_mem_cons.mpr ⟨own, all⟩)
      · exact .inr ⟨item :: front, bad, back, rfl, List.forall_mem_cons.mpr ⟨own, before⟩, fails⟩
    · exact .inr ⟨[], item, items, rfl, by simp, own⟩

theorem array_halted_iff (reads : Reads exchange) {bUpdateToDb : Bool} {front back : List Element} {bad : Element}
    (go : ∀ element ∈ front, Goes lib bUpdateToDb element) (stops : ¬ Goes lib bUpdateToDb bad)
    (rules : Rules lib Key) : ArrayLawful reads bUpdateToDb (front ++ bad :: back) rules ↔
      ∃ words, halted reads (view rules) (docs front) bad = some words ∧
        ∀ cell value, Patch.last words cell = some value → view rules cell = some value := by
  rcases insertElements_halted reads back go stops rules with
    ⟨undefined, stuck⟩ | ⟨words, inserted, after, worded, halts, fails, same⟩
  · constructor
    · rintro ⟨_, _, ran, -⟩
      cases ran.symm.trans stuck
    · rintro ⟨_, worded, -⟩
      cases worded.symm.trans undefined
  · constructor
    · rintro ⟨_, _, ran, kept, -⟩
      cases ran.symm.trans halts
      refine ⟨words, worded, ?_⟩
      rw [← Patch.layAll_eq_self_iff, ← same]
      exact kept fails
    · rintro ⟨_, again, backed⟩
      cases again.symm.trans worded
      refine ⟨inserted, after, halts, fun _ => ?_, fun returned => absurd returned fails⟩
      rw [same, Patch.layAll_eq_self_iff]
      exact backed

theorem array_all_iff (reads : Reads exchange) {bUpdateToDb : Bool} {elements : List Element}
    (go : ∀ element ∈ elements, Goes lib bUpdateToDb element) (rules : Rules lib Key) :
    ArrayLawful reads bUpdateToDb elements rules ↔ Replaces reads (view rules) (docs elements) := by
  rcases insertElements_all reads go rules with
    ⟨undefined, stuck⟩ | ⟨words, inserted, after, worded, runs, returned, same⟩
  · constructor
    · rintro ⟨_, _, ran, -⟩
      cases ran.symm.trans stuck
    · exact fun replaces => absurd undefined replaces.defined
  · rw [← merged_eq_iff (view_formed rules) worded, ← same]
    constructor
    · rintro ⟨_, _, ran, -, stored⟩
      cases ran.symm.trans runs
      exact stored returned
    · exact fun stored => ⟨inserted, after, runs, fun fails => absurd returned fails, fun _ => stored⟩

theorem array_lawful_iff (reads : Reads exchange) (bUpdateToDb : Bool) (elements : List Element)
    (rules : Rules lib Key) :
    ArrayLawful reads bUpdateToDb elements rules ↔ ArraySound reads bUpdateToDb elements rules := by
  constructor
  · intro lawful
    refine ⟨?_, fun go => (array_all_iff reads go rules).mp lawful⟩
    rintro front bad back rfl go stops
    exact (array_halted_iff reads go stops rules).mp lawful
  · intro sound
    rcases all_or_first (Goes lib bUpdateToDb) elements with go | ⟨front, bad, back, rfl, go, stops⟩
    · exact (array_all_iff reads go rules).mpr (sound.goes go)
    · exact (array_halted_iff reads go stops rules).mpr (sound.stops front bad back rfl go stops)

theorem docs_map (given : List RuleDoc) : docs (given.map fun doc => ({ doc := some doc } : Element)) = given := by
  rw [docs, List.filterMap_map]
  exact List.filterMap_some

theorem goes_row (doc : RuleDoc) : Goes lib false { doc := some doc } ↔ (takenDoc lib doc).isSome := by
  constructor
  · rintro ⟨own, object, taken, -⟩
    cases object
    exact taken
  · exact fun taken => ⟨doc, rfl, taken, fun update => absurd update Bool.false_ne_true⟩

theorem goes_rows (given : List RuleDoc) :
    (∀ element ∈ given.map fun doc => ({ doc := some doc } : Element), Goes lib false element) ↔
      ∀ doc ∈ given, (takenDoc lib doc).isSome := by
  rw [List.forall_mem_map]
  exact forall₂_congr fun doc _ => goes_row doc

theorem reload_all (reads : Reads exchange) {parse : String → Option Parsed} {rows : Option (List RuleRow)}
    {given : List RuleDoc} (parsed : rowDocs parse rows = some given)
    (go : ∀ doc ∈ given, (takenDoc lib doc).isSome) :
    (wordings reads (fun _ => none) given = none ∧ reloadFromDb exchange parse rows = none) ∨
      ∃ words after, wordings reads (fun _ => none) given = some words ∧
        reloadFromDb exchange parse rows = some (0, after) ∧ view after = Patch.last words := by
  have all := insertElements_all reads ((goes_rows given).mpr go) ∅
  rw [docs_map, view_empty] at all
  rw [reloadFromDb_rows parsed]
  rcases all with ⟨undefined, stuck⟩ | ⟨words, inserted, after, worded, runs, returned, same⟩
  · rw [stuck]
    exact .inl ⟨undefined, rfl⟩
  · rw [runs, returned]
    rw [view_empty] at same
    exact .inr ⟨words, after, worded, rfl, same⟩

theorem reload_halted (reads : Reads exchange) {parse : String → Option Parsed} {rows : Option (List RuleRow)}
    {front back : List RuleDoc} {bad : RuleDoc} (parsed : rowDocs parse rows = some (front ++ bad :: back))
    (go : ∀ doc ∈ front, (takenDoc lib doc).isSome) (stops : takenDoc lib bad = none) :
    (halted reads (fun _ => none) front { doc := some bad } = none ∧ reloadFromDb exchange parse rows = none) ∨
      ∃ words after, halted reads (fun _ => none) front { doc := some bad } = some words ∧
        reloadFromDb exchange parse rows = some (-1, after) ∧ view after = Patch.last words := by
  have refused : ¬ Goes lib false { doc := some bad } := by
    rw [goes_row, stops]
    exact Bool.false_ne_true
  have all := insertElements_halted reads (back.map fun doc => { doc := some doc }) ((goes_rows front).mpr go) refused ∅
  rw [docs_map, view_empty] at all
  rw [reloadFromDb_rows parsed, List.map_append, List.map_cons]
  rcases all with ⟨undefined, stuck⟩ | ⟨words, inserted, after, worded, runs, fails, same⟩
  · rw [stuck]
    exact .inl ⟨undefined, rfl⟩
  · rw [runs, Option.map_some, if_neg fails]
    rw [view_empty] at same
    exact .inr ⟨words, after, worded, rfl, same⟩

omit [TransOrd Key] in
theorem reload_empty_iff (reads : Reads exchange) {parse : String → Option Parsed} {rows : Option (List RuleRow)}
    (parsed : rowDocs parse rows = none) (rules : Rules lib Key) :
    ReloadLawful reads parse rows rules ↔ ∀ ruleId : UInt64, rules[ruleId]? = none := by
  have nothing : reloadFromDb exchange parse rows = some (-1, ∅) := by
    rw [rowDocs] at parsed
    simp only [reloadFromDb, parsed]
  constructor
  · rintro ⟨_, _, ran, kept, -⟩ ruleId
    cases ran.symm.trans nothing
    have same := congrFun (kept (by decide)) (ruleId, .ruleId)
    by_contra some
    have stands := stands_view.mpr (Option.isSome_iff_ne_none.mpr some)
    rw [Stands, ← same, view_empty] at stands
    cases stands
  · intro empty
    refine ⟨-1, ∅, nothing, fun _ => ?_, fun zero => absurd zero (by decide)⟩
    funext cell
    rw [view_empty, view, empty cell.1, Option.bind_none]

theorem reload_halted_iff (reads : Reads exchange) {parse : String → Option Parsed} {rows : Option (List RuleRow)}
    {front back : List RuleDoc} {bad : RuleDoc} (parsed : rowDocs parse rows = some (front ++ bad :: back))
    (go : ∀ doc ∈ front, (takenDoc lib doc).isSome) (stops : takenDoc lib bad = none) (rules : Rules lib Key) :
    ReloadLawful reads parse rows rules ↔
      ∃ words, halted reads (fun _ => none) front { doc := some bad } = some words ∧
        ∀ cell, view rules cell = Patch.last words cell := by
  rcases reload_halted reads parsed go stops with ⟨undefined, stuck⟩ | ⟨words, after, worded, halts, same⟩
  · constructor
    · rintro ⟨_, _, ran, -⟩
      cases ran.symm.trans stuck
    · rintro ⟨_, worded, -⟩
      cases worded.symm.trans undefined
  · constructor
    · rintro ⟨_, _, ran, kept, -⟩
      cases ran.symm.trans halts
      exact ⟨words, worded, fun cell => by rw [← kept (by decide), same]⟩
    · rintro ⟨_, again, backed⟩
      cases again.symm.trans worded
      refine ⟨-1, after, halts, fun _ => ?_, fun zero => absurd zero (by decide)⟩
      funext cell
      rw [same, backed cell]

theorem reload_all_iff (reads : Reads exchange) {parse : String → Option Parsed} {rows : Option (List RuleRow)}
    {given : List RuleDoc} (parsed : rowDocs parse rows = some given) (go : ∀ doc ∈ given, (takenDoc lib doc).isSome)
    (rules : Rules lib Key) :
    ReloadLawful reads parse rows rules ↔ Replaces reads (fun _ => none) given := by
  rcases reload_all reads parsed go with ⟨undefined, stuck⟩ | ⟨words, after, worded, runs, same⟩
  · constructor
    · rintro ⟨_, _, ran, -⟩
      cases ran.symm.trans stuck
    · exact fun replaces => absurd undefined replaces.defined
  · rw [← merged_eq_iff (fun _ _ _ => rfl) worded]
    constructor
    · rintro ⟨_, _, ran, -, stored⟩
      cases ran.symm.trans runs
      obtain ⟨own, again, all⟩ := stored rfl
      cases parsed.symm.trans again
      rw [← all, same]
      rfl
    · intro laid
      refine ⟨0, after, runs, fun fails => absurd rfl fails, fun _ => ⟨given, parsed, ?_⟩⟩
      rw [same, ← laid]
      rfl

theorem reload_lawful_iff (reads : Reads exchange) (parse : String → Option Parsed) (rows : Option (List RuleRow))
    (rules : Rules lib Key) : ReloadLawful reads parse rows rules ↔ ReloadSound reads parse rows rules := by
  constructor
  · intro lawful
    exact ⟨fun parsed => (reload_empty_iff reads parsed rules).mp lawful,
      fun _ _ _ parsed go stops => (reload_halted_iff reads parsed go stops rules).mp lawful,
      fun _ parsed go => (reload_all_iff reads parsed go rules).mp lawful⟩
  · intro sound
    cases parsed : rowDocs parse rows with
    | none => exact (reload_empty_iff reads parsed rules).mpr (sound.empty parsed)
    | some given =>
      rcases all_or_first (fun doc => (takenDoc lib doc).isSome = true) given with
        go | ⟨front, bad, back, rfl, go, stops⟩
      · exact (reload_all_iff reads parsed go rules).mpr (sound.goes given parsed go)
      · have refused : takenDoc lib bad = none := Option.not_isSome_iff_eq_none.mp stops
        exact (reload_halted_iff reads parsed go refused rules).mpr (sound.stops front bad back parsed go refused)

end Laws

/-- On both exchanges arrays and reloads leave the rules as they should just when they
are sound. -/
theorem rules_kept_iff (lib : RegexLibrary) :
    (∀ bUpdateToDb elements rules,
      ArrayLawful (shReads lib) bUpdateToDb elements rules ↔ ArraySound (shReads lib) bUpdateToDb elements rules) ∧
    (∀ parse rows rules, ReloadLawful (shReads lib) parse rows rules ↔ ReloadSound (shReads lib) parse rows rules) ∧
    (∀ bUpdateToDb elements rules,
      ArrayLawful (szReads lib) bUpdateToDb elements rules ↔ ArraySound (szReads lib) bUpdateToDb elements rules) ∧
    (∀ parse rows rules, ReloadLawful (szReads lib) parse rows rules ↔ ReloadSound (szReads lib) parse rows rules) :=
  ⟨array_lawful_iff (shReads lib), reload_lawful_iff (shReads lib), array_lawful_iff (szReads lib),
    reload_lawful_iff (szReads lib)⟩

/-- A rule, and one without a timestamp. -/
def secondRefused : List Element :=
  [{ doc := some purchases.doc }, { doc := some { purchases.doc with ruleId := some "2", timestamp := none } }]

/-- The rule in front of the one that is refused stays, and a reload without a connection
leaves no rules. -/
theorem failures_change_rules : ¬ ArrayLawful (shReads literal) false secondRefused ∅ ∧
    ∃ rules, insertAll (Sh.exchange literal) ∅ [purchases] = some rules ∧
      ¬ ReloadLawful (shReads literal) (fun _ => none) none rules := by
  constructor
  · rintro ⟨inserted, after, ran, kept, -⟩
    have half : (insertRuleWithoutlock (Sh.exchange literal) (.array secondRefused) false ∅).map
        (fun ran => (ran.1, (ran.2[(1 : UInt64)]?).isSome)) = some (.returned (-1), true) := by decide +kernel
    rw [ran, Option.map_some, Option.some.injEq, Prod.mk.injEq] at half
    obtain ⟨failed, there⟩ := half
    simp only at failed there
    have stands := stands_view.mpr there
    rw [kept (by rw [failed]; decide), view_empty] at stands
    cases stands
  · obtain ⟨rules, rule, built, stored, -⟩ := purchases_stored
    refine ⟨rules, built, ?_⟩
    rintro ⟨code, after, ran, kept, -⟩
    cases ran
    have same := congrFun (kept (by decide)) (1, .ruleId)
    rw [view_empty, view_stored stored] at same
    cases same

end Simutgw.Proofs.RuleReload
