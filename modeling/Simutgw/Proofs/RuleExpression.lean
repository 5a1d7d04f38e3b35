import Simutgw.RuleWordProc
import Simutgw.Proofs.MoneyText

/-! The expressions of match rules. The two loops work out operands and operators from
left to right, each operator on the word behind it; words in another order they work out
as well, and an error is only a word that cannot be read or a division by zero. -/

namespace Simutgw.Proofs.RuleExpression
open RuleWordProc TgwStringUtil MoneyText Logic

inductive Sign where
  | add
  | minus
  | times
  | division
  deriving DecidableEq

namespace Sign

def word : Sign → String
  | add => "+"
  | minus => "-"
  | times => "*"
  | division => "/"

def apply : Sign → ℚ → ℚ → ℚ
  | add, left, right => left + right
  | minus, left, right => left - right
  | times, left, right => left * right
  | division, left, right => left / right

end Sign

/-- A word and the number it stands for. -/
structure Operand where
  word : String
  value : ℚ

/-- An operand, and operators each with one more. -/
structure Expression where
  first : Operand
  rest : List (Sign × Operand)

namespace Expression

def chain (rest : List (Sign × Operand)) : List String := rest.flatMap fun pair => [pair.1.word, pair.2.word]

def words (expression : Expression) : List String := expression.first.word :: chain expression.rest

/-- The words with one blank between them. -/
def joined : List String → List Char
  | [] => []
  | [word] => word.toList
  | word :: rest => word.toList ++ ' ' :: joined rest

def text (expression : Expression) : String := String.ofList (joined expression.words)

def operands (expression : Expression) : List Operand := expression.first :: expression.rest.map Prod.snd

/-- The value from left to right, where nothing is divided by zero. -/
def value (expression : Expression) : ℚ :=
  expression.rest.foldl (fun left pair => pair.1.apply left pair.2.value) expression.first.value

def DividesByZero (expression : Expression) : Prop :=
  ∃ pair ∈ expression.rest, pair.1 = .division ∧ pair.2.value = 0

end Expression

/-- Decimal literals, with a sign in front or without. -/
def Literal (operand : Operand) : Prop :=
  ∃ numeral : Numeral,
    numeral.Spells operand.word.toList ∧ operand.value = numeral.value ∨
      ∃ digits, operand.word.toList = '-' :: digits ∧ numeral.Spells digits ∧ operand.value = -numeral.value

/-- A reference to a field that is there. -/
def Refers (field : String → Option String) (operand : Operand) : Prop :=
  ∃ name text, operand.word.toList = '@' :: name ∧ ' ' ∉ name ∧ field (String.ofList name) = some text ∧
    operand.value = string2DoubleAtof text

def szField (order : SzWords) (name : String) : Option String := order.szfixMsg (string2IntAtoi name)

/-- What is handed out for an expression: a lone operand's own text, the printed value, or
-1 and nothing where zero divides. -/
def Answers {Out : Type} (expression : Expression) (written : String → Out) (before : Out)
    (answer : Option (Int × Out)) : Prop :=
  (expression.rest = [] → ∃ text, answer = some (0, written text) ∧
      string2DoubleAtof text = expression.first.value) ∧
    (expression.rest ≠ [] → expression.DividesByZero → answer = some (-1, before)) ∧
    (expression.rest ≠ [] → ¬ expression.DividesByZero →
      answer = (doubleToString expression.value 2).map fun text => (0, written text))

section Numbers

variable {numeral : Numeral} {text : List Char}

theorem magnitude_numeral (spells : numeral.Spells text) : magnitude text = numeral.value := by
  have digits : ∀ char ∈ numeral.whole, char.isDigit := fun char member =>
    numeral.digits char (List.mem_append_left _ member)
  have decimals : ∀ char ∈ numeral.fraction, char.isDigit := fun char member =>
    numeral.digits char (List.mem_append_right _ member)
  have point : ('.' :: numeral.fraction).takeWhile Char.isDigit = [] := rfl
  have left : ('.' :: numeral.fraction).dropWhile Char.isDigit = '.' :: numeral.fraction := rfl
  rw [numeral.value_eq]
  rcases spells with rfl | ⟨none, rfl⟩
  · unfold magnitude
    rw [List.takeWhile_append_of_pos digits, List.dropWhile_append_of_pos digits, point, left, List.append_nil]
    simp only [List.takeWhile_eq_self_iff.mpr decimals, List.dropWhile_eq_nil_iff.mpr decimals]
    simp [exponent]
  · unfold magnitude
    rw [List.takeWhile_eq_self_iff.mpr digits, List.dropWhile_eq_nil_iff.mpr digits, none]
    simp [exponent]

theorem atof_numeral (spells : numeral.Spells text) : atof text = numeral.value := by
  obtain ⟨solid, minus, plus⟩ := unsigned_numeral spells
  unfold atof
  rw [solid]
  split
  next _ rest => exact absurd rfl (minus rest)
  next _ rest => exact absurd rfl (plus rest)
  next => exact magnitude_numeral spells

theorem spells_ne_nil (spells : numeral.Spells text) : text ≠ [] := by
  rcases spells with rfl | ⟨none, rfl⟩
  · simp
  · intro empty
    exact numeral.written (by rw [empty, none]; rfl)

theorem spells_chars (spells : numeral.Spells text) : ∀ char ∈ text, char.isDigit ∨ char = '.' := by
  intro char member
  rcases spells with rfl | ⟨none, rfl⟩
  · rcases List.mem_append.mp member with whole | behind
    · exact .inl (numeral.digits char (List.mem_append_left _ whole))
    · rcases List.mem_cons.mp behind with point | fraction
      · exact .inr point
      · exact .inl (numeral.digits char (List.mem_append_right _ fraction))
  · exact .inl (numeral.digits char (List.mem_append_left _ member))

end Numbers

section Words

/-- A split at the blanks gives back words that have none. -/
theorem splitBlank_joined {words : List String} (some : words ≠ []) (solid : ∀ word ∈ words, ' ' ∉ word.toList) :
    splitBlank (String.ofList (Expression.joined words)) = words := by
  have split : (Expression.joined words).splitOn ' ' = words.map String.toList := by
    induction words with
    | nil => exact absurd rfl some
    | cons word rest ih =>
      obtain ⟨own, solid⟩ := List.forall_mem_cons.mp solid
      cases rest with
      | nil => exact List.splitOn_eq_singleton own
      | cons next rest =>
        rw [Expression.joined, List.splitOn_append_cons_self_of_not_mem own, ih (List.cons_ne_nil _ _) solid]
        · rfl
        · exact List.cons_ne_nil _ _
  rw [splitBlank, String.toList_ofList, split, List.map_map]
  exact List.map_id'' (fun word => String.ofList_toList) words

/-- What an operand is read as, and that it is not taken for an operator or cut. -/
structure Reads (read : String → Option ℚ) (operand : Operand) : Prop where
  value : read operand.word = some operand.value
  plain : isOperator operand.word = false
  solid : ' ' ∉ operand.word.toList

theorem isOperator_iff {word : String} : isOperator word = true ↔ ∃ sign : Sign, word = sign.word := by
  simp only [isOperator, Bool.or_eq_true, beq_iff_eq]
  constructor
  · rintro (((same | same) | same) | same)
    · exact ⟨.add, same⟩
    · exact ⟨.minus, same⟩
    · exact ⟨.times, same⟩
    · exact ⟨.division, same⟩
  · rintro ⟨sign, rfl⟩
    cases sign <;> decide

theorem isOperator_eq_false {word : String} (other : ∀ sign : Sign, word.toList ≠ sign.word.toList) :
    isOperator word = false := by
  rw [← Bool.not_eq_true, isOperator_iff]
  rintro ⟨sign, rfl⟩
  exact other sign rfl

theorem reference_reads {field : String → Option String} {read : String → Option ℚ} {operand : Operand}
    (refers : Refers field operand)
    (replaces : ∀ word name, word.toList = '@' :: name →
      read word = (field (String.ofList name)).map string2DoubleAtof) : Reads read operand := by
  obtain ⟨name, text, spelled, blank, found, same⟩ := refers
  refine ⟨?_, isOperator_eq_false fun sign => ?_, ?_⟩
  · rw [replaces _ _ spelled, found, same]
    rfl
  · rw [spelled]
    cases sign <;> simp [Sign.word]
  · rw [spelled]
    simpa using blank

theorem sz_reads {order : SzWords} {operand : Operand} (refers : Refers (szField order) operand) :
    Reads (SzEzSTEP.replaceWordDouble order) operand := by
  apply reference_reads refers
  intro word name spelled
  simp only [SzEzSTEP.replaceWordDouble, spelled, szField]

theorem literal_atof {operand : Operand} (literal : Literal operand) :
    string2DoubleAtof operand.word = operand.value ∧ ' ' ∉ operand.word.toList ∧
      isOperator operand.word = false ∧ ∃ char rest, operand.word.toList = char :: rest ∧ char ≠ '@' ∧ char ≠ '$' := by
  have solid {numeral : Numeral} {text : List Char} (spells : numeral.Spells text) : ' ' ∉ text := by
    intro blank
    rcases spells_chars spells ' ' blank with digit | point
    · exact absurd digit (by decide)
    · exact absurd point (by decide)
  have filled (char : Char) (rest : List Char) (spelled : operand.word.toList = char :: rest) :
      string2DoubleAtof operand.word = atof (char :: rest) := by
    rw [string2DoubleAtof, spelled]
    apply if_neg
    intro empty
    rw [String.isEmpty_iff.mp empty] at spelled
    cases spelled
  obtain ⟨numeral, ⟨spells, same⟩ | ⟨digits, spelled, spells, same⟩⟩ := literal
  · obtain ⟨char, rest, spelled⟩ := List.exists_cons_of_ne_nil (spells_ne_nil spells)
    have front := spells_chars spells char (by rw [spelled]; exact List.mem_cons_self)
    refine ⟨?_, solid spells, isOperator_eq_false fun sign alike => ?_, char, rest, spelled, ?_, ?_⟩
    · rw [filled char rest spelled, ← spelled, atof_numeral spells, same]
    · rw [spelled] at alike
      cases sign <;> simp only [Sign.word] at alike <;> cases alike <;> revert front <;> decide
    · rintro rfl
      revert front
      decide
    · rintro rfl
      revert front
      decide
  · refine ⟨?_, ?_, isOperator_eq_false fun sign alike => ?_, '-', digits, spelled, by decide, by decide⟩
    · have minus : atof ('-' :: digits) = -magnitude digits := rfl
      rw [filled '-' digits spelled, minus, magnitude_numeral spells, same]
    · rw [spelled]
      simpa using solid spells
    · rw [spelled] at alike
      have none : digits = [] := by
        cases sign <;> simp [Sign.word] at alike
        exact alike
      exact spells_ne_nil spells none

theorem sh_reads {order : ShWords} {operand : Operand} (known : Literal operand ∨ Refers order.jsOrder operand) :
    Reads (ShDb.replaceWordDouble order) operand := by
  rcases known with literal | refers
  · obtain ⟨value, solid, operator, char, rest, spelled, reference, -⟩ := literal_atof literal
    refine ⟨?_, operator, solid⟩
    unfold ShDb.replaceWordDouble
    rw [spelled]
    split
    next none => cases none
    next name same =>
      cases same
      exact absurd rfl reference
    next => rw [value]
  · apply reference_reads refers
    intro word name spelled
    simp only [ShDb.replaceWordDouble, spelled]

end Words

section Loop

variable {read : String → Option ℚ} {left right : ℚ} {sign : Sign} {word next : String} {rest : List String}

def signOf (word : String) : Option Sign :=
  if word = Sign.add.word then some .add
  else if word = Sign.minus.word then some .minus
  else if word = Sign.times.word then some .times
  else if word = Sign.division.word then some .division
  else none

theorem signOf_word (sign : Sign) : signOf sign.word = some sign := by
  cases sign <;> rfl

theorem signOf_eq_none_iff : signOf word = none ↔ isOperator word = false := by
  rw [← Bool.not_eq_true, isOperator_iff]
  constructor
  · rintro none ⟨sign, rfl⟩
    rw [signOf_word] at none
    cases none
  · intro other
    unfold signOf
    rw [if_neg fun same => other ⟨.add, same⟩, if_neg fun same => other ⟨.minus, same⟩,
      if_neg fun same => other ⟨.times, same⟩, if_neg fun same => other ⟨.division, same⟩]

theorem word_of_signOf (known : signOf word = some sign) : word = sign.word := by
  cases operator : isOperator word with
  | false =>
    rw [signOf_eq_none_iff.mpr operator] at known
    cases known
  | true =>
    obtain ⟨other, rfl⟩ := isOperator_iff.mp operator
    rw [signOf_word] at known
    cases known
    rfl

theorem evaluate_sign (sign : Sign) : evaluate read left (sign.word :: next :: rest) =
    match read next with
    | none => none
    | some right =>
      if sign = .division ∧ right = 0 then none else evaluate read (sign.apply left right) rest := by
  have operator : isOperator sign.word = true := isOperator_iff.mpr ⟨sign, rfl⟩
  rw [evaluate, if_pos operator]
  cases read next with
  | none => rfl
  | some right =>
    cases sign with
    | division => simp [Sign.word, Sign.apply, cszSignAdd, cszSignMinus, cszSignTimes, cszSignDivision, eq_comm]
    | _ => simp [Sign.word, Sign.apply, cszSignAdd, cszSignMinus, cszSignTimes]

theorem evaluate_word (plain : isOperator word = false) : evaluate read left (word :: rest) =
    match read word with
    | none => none
    | some value => evaluate read value rest := by
  cases reads : read word with
  | none => simp [evaluate.eq_def _ _ (word :: rest), plain, reads]
  | some value => simp [evaluate.eq_def _ left (word :: rest), plain, reads]

/-- Operators each with an operand that is read, from any value so far. -/
theorem evaluate_chain {rest : List (Sign × Operand)} (reads : ∀ pair ∈ rest, read pair.2.word = some pair.2.value) :
    ((∃ pair ∈ rest, pair.1 = .division ∧ pair.2.value = 0) → evaluate read left (Expression.chain rest) = none) ∧
      ((¬ ∃ pair ∈ rest, pair.1 = .division ∧ pair.2.value = 0) →
        evaluate read left (Expression.chain rest) =
          some (rest.foldl (fun left pair => pair.1.apply left pair.2.value) left)) := by
  induction rest generalizing left with
  | nil => exact ⟨fun found => by simp at found, fun _ => rfl⟩
  | cons pair rest ih =>
    obtain ⟨here, later⟩ := List.forall_mem_cons.mp reads
    have step := @evaluate_sign read left pair.2.word (Expression.chain rest) pair.1
    rw [here] at step
    change evaluate read left (Expression.chain (pair :: rest)) = _ at step
    simp only [List.exists_mem_cons_iff, List.foldl_cons, step]
    by_cases zero : pair.1 = .division ∧ pair.2.value = 0
    · rw [if_pos zero]
      exact ⟨fun _ => rfl, fun never => absurd (.inl zero) never⟩
    · rw [if_neg zero]
      refine ⟨fun found => (ih later).1 (found.resolve_left zero), fun never => (ih later).2 fun found => never (.inr found)⟩

theorem evaluate_expression {expression : Expression} (reads : ∀ operand ∈ expression.operands, Reads read operand) :
    (expression.DividesByZero → evaluate read 0 expression.words = none) ∧
      (¬ expression.DividesByZero → evaluate read 0 expression.words = some expression.value) := by
  obtain ⟨first, others⟩ := List.forall_mem_cons.mp reads
  rw [Expression.words, evaluate_word first.plain, first.value]
  apply evaluate_chain
  intro pair member
  exact (others pair.2 (List.mem_map_of_mem member)).value

/-- The words the loop takes, each with the operator it is taken by. An operator at the
end takes none. -/
def taken : List String → List (Option Sign × String)
  | [] => []
  | word :: rest =>
    match signOf word with
    | none => (none, word) :: taken rest
    | some sign =>
      match rest with
      | [] => []
      | next :: rest => (some sign, next) :: taken rest

/-- The word cannot be read, or is a zero to divide by. -/
def Stuck (read : String → Option ℚ) (pair : Option Sign × String) : Prop :=
  read pair.2 = none ∨ pair.1 = some .division ∧ read pair.2 = some 0

/-- Words in any order are an error exactly where one that is taken is stuck. -/
theorem evaluate_eq_none_iff (words : List String) :
    evaluate read left words = none ↔ ∃ pair ∈ taken words, Stuck read pair := by
  fun_induction taken words generalizing left with
  | case1 => exact iff_of_false (by simp [evaluate]) (by simp)
  | case2 word rest plain ih =>
    rw [evaluate_word (signOf_eq_none_iff.mp plain), List.exists_mem_cons_iff]
    cases value : read word with
    | none => exact iff_of_true rfl (.inl (.inl value))
    | some value' =>
      have free : ¬ Stuck read (none, word) := by
        rintro (none | ⟨sign, -⟩)
        · rw [value] at none
          cases none
        · cases sign
      exact ih.trans (or_iff_right free).symm
  | case3 word sign known =>
    rw [evaluate, if_pos (isOperator_iff.mpr ⟨sign, word_of_signOf known⟩)]
    exact iff_of_false (by simp) (by simp)
  | case4 word sign known next rest ih =>
    rw [word_of_signOf known, evaluate_sign, List.exists_mem_cons_iff]
    cases value : read next with
    | none => exact iff_of_true rfl (.inl (.inl value))
    | some right =>
      simp only
      by_cases zero : sign = .division ∧ right = 0
      · rw [if_pos zero]
        exact iff_of_true rfl (.inl (.inr ⟨congrArg some zero.1, by rw [value, zero.2]⟩))
      · have free : ¬ Stuck read (some sign, next) := by
          rintro (none | ⟨division, nothing⟩)
          · rw [value] at none
            cases none
          · rw [value] at nothing
            exact zero ⟨Option.some.inj division, Option.some.inj nothing⟩
        rw [if_neg zero]
        exact ih.trans (or_iff_right free).symm

end Loop

section Rules

variable {Out : Type} {written : String → Out} {before : Out} {read : String → Option ℚ} {text : String}

/-- What both copies make of two words and more. -/
def outcome (read : String → Option ℚ) (written : String → Out) (before : Out) (words : List String) :
    Option (Int × Out) :=
  match evaluate read 0 words with
  | none => some (-1, before)
  | some leftOfSign => (doubleToString leftOfSign 2).map fun text => (0, written text)

theorem resolveRule_many {one two : String} {more : List String} (split : splitBlank text = one :: two :: more)
    (order : ShWords) (docRule : String → Option RuleValue) (key out : String) :
    ShDb.resolveRule order (Function.update docRule key (some (.text text))) key out =
      outcome (ShDb.replaceWordDouble order) id out (one :: two :: more) := by
  simp only [ShDb.resolveRule, Function.update_self, split]
  rfl

theorem resolveRule_one {word : String} (split : splitBlank text = [word])
    (order : ShWords) (docRule : String → Option RuleValue) (key out : String) :
    ShDb.resolveRule order (Function.update docRule key (some (.text text))) key out =
      some (ShDb.replaceWord order word out) := by
  simp only [ShDb.resolveRule, Function.update_self, split]

theorem resolveElement_text (order : SzWords) (name : String) (report : FieldMap) :
    SzEzSTEP.resolveElement order [(name, .text text)] report =
      SzEzSTEP.resolveText order (string2IntAtoi name) text report := by
  rw [SzEzSTEP.resolveElement]
  split
  next report' done => rw [done, SzEzSTEP.resolveElement]
  next => rfl

theorem resolveText_many {one two : String} {more : List String} (split : splitBlank text = one :: two :: more)
    (order : SzWords) (field : Int) (report : FieldMap) :
    SzEzSTEP.resolveText order field text report =
      outcome (SzEzSTEP.replaceWordDouble order) (report.setField field) report (one :: two :: more) := by
  have filled : text.isEmpty = false := by
    rw [← Bool.not_eq_true, String.isEmpty_iff]
    rintro rfl
    cases split
  simp only [SzEzSTEP.resolveText, filled, Bool.false_eq_true, if_false, split]
  rfl

theorem outcome_error_iff (words : List String) :
    outcome read written before words = some (-1, before) ↔ ∃ pair ∈ taken words, Stuck read pair := by
  rw [← @evaluate_eq_none_iff read 0 words, outcome]
  cases evaluate read 0 words with
  | none => exact iff_of_true rfl rfl
  | some leftOfSign => cases doubleToString leftOfSign 2 <;> simp

theorem text_splits {expression : Expression} (reads : ∀ operand ∈ expression.operands, Reads read operand) :
    splitBlank expression.text = expression.words := by
  obtain ⟨first, others⟩ := List.forall_mem_cons.mp reads
  refine splitBlank_joined (List.cons_ne_nil _ _) (List.forall_mem_cons.mpr ⟨first.solid, ?_⟩)
  intro word member
  obtain ⟨pair, found, own⟩ := List.mem_flatMap.mp member
  rcases List.mem_pair.mp own with rfl | rfl
  · cases pair.1 <;> decide
  · exact (others pair.2 (List.mem_map_of_mem found)).solid

/-- Expressions that are spelled with one blank between their words are answered, and any
words from two on are an error exactly where one that is taken is stuck. -/
structure WorkedOut (known : Operand → Prop) (read : String → Option ℚ) (written : String → Out) (before : Out)
    (run : String → Option (Int × Out)) : Prop where
  answers : ∀ expression : Expression, (∀ operand ∈ expression.operands, known operand) →
    Answers expression written before (run expression.text)
  errors : ∀ text, 2 ≤ (splitBlank text).length →
    (run text = some (-1, before) ↔ ∃ pair ∈ taken (splitBlank text), Stuck read pair)

theorem worked_out {known : Operand → Prop} {run : String → Option (Int × Out)}
    (reads : ∀ operand, known operand → Reads read operand)
    (many : ∀ text one two more, splitBlank text = one :: two :: more →
      run text = outcome read written before (one :: two :: more))
    (lone : ∀ text operand, known operand → splitBlank text = [operand.word] →
      ∃ text', run text = some (0, written text') ∧ string2DoubleAtof text' = operand.value) :
    WorkedOut known read written before run := by
  refine ⟨fun expression operands => ?_, fun text some => ?_⟩
  · have each : ∀ operand ∈ expression.operands, Reads read operand :=
      fun operand member => reads operand (operands operand member)
    have split := text_splits each
    obtain ⟨stuck, fine⟩ := evaluate_expression each
    have long (more : expression.rest ≠ []) : run expression.text = outcome read written before expression.words := by
      obtain ⟨pair, rest, same⟩ := List.exists_cons_of_ne_nil more
      have words : expression.words =
          expression.first.word :: pair.1.word :: pair.2.word :: Expression.chain rest := by
        rw [Expression.words, same]
        rfl
      rw [words] at split ⊢
      exact many _ _ _ _ split
    refine ⟨fun none => ?_, fun more divides => ?_, fun more whole => ?_⟩
    · have single : expression.words = [expression.first.word] := by
        rw [Expression.words, none]
        rfl
      exact lone _ _ (operands _ List.mem_cons_self) (split.trans single)
    · rw [long more, outcome, stuck divides]
    · rw [long more, outcome, fine whole]
  · obtain ⟨one, two, more, split⟩ : ∃ one two more, splitBlank text = one :: two :: more := by
      match splitBlank text, some with
      | one :: two :: more, _ => exact ⟨one, two, more, rfl⟩
    rw [many _ _ _ _ split, split]
    exact outcome_error_iff _

/-- Rules as both markets work them out. -/
theorem rules_worked_out (sh : ShWords) (docRule : String → Option RuleValue) (key out : String) (sz : SzWords)
    (name : String) (report : FieldMap) :
    WorkedOut (fun operand => Literal operand ∨ Refers sh.jsOrder operand) (ShDb.replaceWordDouble sh) id out
        (fun text => ShDb.resolveRule sh (Function.update docRule key (some (.text text))) key out) ∧
      WorkedOut (Refers (szField sz)) (SzEzSTEP.replaceWordDouble sz) (report.setField (string2IntAtoi name)) report
        (fun text => SzEzSTEP.resolveElement sz [(name, .text text)] report) := by
  constructor
  · refine worked_out (fun _ => sh_reads) (fun text one two more split => resolveRule_many split ..) ?_
    intro text operand known split
    simp only [resolveRule_one split]
    rcases known with literal | ⟨field, value, spelled, -, found, same⟩
    · obtain ⟨value, -, -, char, rest, spelled, reference, dollar⟩ := literal_atof literal
      refine ⟨operand.word, ?_, value⟩
      unfold ShDb.replaceWord
      rw [spelled]
      simp only
      split
      next none => cases none
      next same => exact absurd (List.cons.inj same).1 dollar
      next same => exact absurd (List.cons.inj same).1 reference
      next => rfl
    · refine ⟨value, ?_, same.symm⟩
      unfold ShDb.replaceWord
      rw [spelled]
      simp only [found]
      rfl
  · refine worked_out (fun _ => sz_reads) (fun text one two more split => ?_) ?_
    · rw [resolveElement_text, resolveText_many split]
    · rintro text operand ⟨field, value, spelled, -, found, same⟩ split
      refine ⟨value, ?_, same.symm⟩
      have filled : text.isEmpty = false := by
        rw [← Bool.not_eq_true, String.isEmpty_iff]
        rintro rfl
        have empty : operand.word = "" := (List.cons.inj split).1.symm
        rw [empty] at spelled
        cases spelled
      unfold szField at found
      rw [resolveElement_text]
      simp only [SzEzSTEP.resolveText, filled, Bool.false_eq_true, if_false, split, SzEzSTEP.replaceWord, spelled, found]

def bareSh : ShWords := ⟨fun _ => none, none, none, "", "", ""⟩

/-- The number of blanks counts, and two operands in a row are accepted. -/
theorem blanks_and_operands_pass :
    ShDb.resolveRule bareSh (fun _ => some (.text "1 + 2")) "qty" "" = some (0, "3.00") ∧
      ShDb.resolveRule bareSh (fun _ => some (.text "1  + 2")) "qty" "" = some (0, "2.00") ∧
      ShDb.resolveRule bareSh (fun _ => some (.text "1 2")) "qty" "" = some (0, "2.00") ∧
      ∀ expression : Expression, expression.words ≠ splitBlank "1 2" := by
  refine ⟨by decide +kernel, by decide +kernel, by decide +kernel, ?_⟩
  intro expression same
  have split : splitBlank "1 2" = ["1", "2"] := by decide +kernel
  rw [split, Expression.words] at same
  obtain ⟨-, chain⟩ := List.cons.inj same
  cases rest : expression.rest with
  | nil =>
    rw [rest] at chain
    cases chain
  | cons pair others =>
    rw [rest] at chain
    exact absurd (congrArg List.length chain) (by simp [Expression.chain])

end Rules

end Simutgw.Proofs.RuleExpression
