import Mathlib.Data.List.Basic
import Mathlib.Data.List.Induction
import Mathlib.Data.List.Forall2

/-! The text of an insert statement as a database reads it: words, quoted texts and signs,
with blanks and comments between them. Inside quotes a quote is written twice, and what a
backslash does there differs from one database to the other. -/

namespace Simutgw.Logic

/-- What a backslash stands for together with the character behind it, or nothing where it
is a character like any other. -/
structure Dialect where
  escape : Char → Option (List Char)
  short : ∀ {char chars}, escape char = some chars → chars.length ≤ 1
  removed : ∀ {char}, escape char = some [] → char = '\n'
  own : ∀ {char other}, escape char = some [other] →
    other = '\'' ∨ other = '\\' ∨ escape other = some [] → char = other

namespace Dialect

/-- A backslash at the end of a line takes the end away, and does nothing elsewhere. -/
def transactSql : Dialect where
  escape char := if char = '\n' then some [] else none
  short := by
    intro char chars found
    split at found <;> cases found
    exact Nat.zero_le 1
  removed := by
    intro char found
    split at found
    next newline => exact newline
    next => cases found
  own := by
    intro char other found
    split at found <;> cases found

/-- The letters for control characters, the two of patterns, which keep their backslash,
and any other character as it is. -/
def mySql : Dialect where
  escape char :=
    match char with
    | '0' => some ['\x00']
    | 'b' => some ['\x08']
    | 'n' => some ['\n']
    | 'r' => some ['\r']
    | 't' => some ['\t']
    | 'Z' => some ['\x1a']
    | '%' => none
    | '_' => none
    | other => some [other]
  short := by
    intro char chars found
    split at found <;> cases found <;> exact Nat.le_refl 1
  removed := by
    intro char found
    split at found <;> cases found
  own := by
    intro char other found special
    split at found <;> cases found <;> simp at special ⊢

variable (dialect : Dialect)

/-- A quoted text behind its first quote, and what follows the last. -/
def quotedText : List Char → Option (List Char × List Char)
  | [] => none
  | char :: rest =>
    if char = '\'' then
      match rest with
      | [] => some ([], [])
      | next :: behind =>
        if next = '\'' then (quotedText behind).map fun read => ('\'' :: read.1, read.2)
        else some ([], next :: behind)
    else if char = '\\' then
      match rest with
      | [] => none
      | next :: behind =>
        match dialect.escape next with
        | some chars => (quotedText behind).map fun read => (chars ++ read.1, read.2)
        | none => (quotedText (next :: behind)).map fun read => ('\\' :: read.1, read.2)
    else (quotedText rest).map fun read => (char :: read.1, read.2)

section
variable {dialect} {char next : Char} {front chars whole behind rest : List Char}

theorem quotedText_closed (single : next ≠ '\'') :
    dialect.quotedText ('\'' :: next :: behind) = some ([], next :: behind) := by
  rw [quotedText.eq_def]
  simp only [if_true, if_neg single]

theorem quotedText_doubled :
    dialect.quotedText ('\'' :: '\'' :: behind) =
      (dialect.quotedText behind).map fun read => (['\''] ++ read.1, read.2) := by
  rw [quotedText.eq_def]
  simp only [if_true, List.singleton_append]

theorem quotedText_escape (found : dialect.escape next = some chars) :
    dialect.quotedText ('\\' :: next :: behind) =
      (dialect.quotedText behind).map fun read => (chars ++ read.1, read.2) := by
  rw [quotedText.eq_def]
  simp [found]

theorem quotedText_backslash (none : dialect.escape next = none) :
    dialect.quotedText ('\\' :: next :: behind) =
      (dialect.quotedText (next :: behind)).map fun read => (['\\'] ++ read.1, read.2) := by
  rw [quotedText.eq_def]
  simp [none]

theorem quotedText_plain (quote : char ≠ '\'') (backslash : char ≠ '\\') :
    dialect.quotedText (char :: behind) = (dialect.quotedText behind).map fun read => ([char] ++ read.1, read.2) := by
  rw [quotedText.eq_def]
  simp only [if_neg quote, if_neg backslash, List.singleton_append]

/-- The same text is a backslash and a letter to one database, and the end of a line to the other. -/
example : transactSql.quotedText ['\\', 'n', '\''] = some (['\\', 'n'], []) ∧
    mySql.quotedText ['\\', 'n', '\''] = some (['\n'], []) := ⟨rfl, rfl⟩

theorem reads_behind
    (read : ((dialect.quotedText behind).map fun read => (front ++ read.1, read.2)) = some (whole, rest)) :
    ∃ value, dialect.quotedText behind = some (value, rest) ∧ front ++ value = whole := by
  obtain ⟨⟨value, after⟩, found, same⟩ := Option.map_eq_some_iff.mp read
  obtain ⟨text, rfl⟩ := Prod.mk.inj same
  exact ⟨value, found, text⟩

end

/-- The characters that are written with another one inside quotes, or not at all. -/
def Special (char : Char) : Prop := char = '\'' ∨ char = '\\' ∨ dialect.escape char = some []

/-- A text that reads as itself between quotes: it has no quote, and no backslash means
anything before the character behind it, the closing quote included. -/
def Verbatim (text : List Char) : Prop :=
  '\'' ∉ text ∧ ∀ char, ['\\', char] <:+: text ++ ['\''] → dialect.escape char = none

section
variable {dialect} {char next sign : Char} {chars debt text behind rest : List Char}

theorem verbatim_nil : dialect.Verbatim [] := by
  refine ⟨List.not_mem_nil, ?_⟩
  intro char within
  exact absurd within.length_le (by simp)

theorem verbatim_cons {more : List Char} (shape : text ++ ['\''] = next :: more) :
    dialect.Verbatim (char :: text) ↔
      char ≠ '\'' ∧ (char = '\\' → dialect.escape next = none) ∧ dialect.Verbatim text := by
  constructor
  · intro verbatim
    refine ⟨?_, ?_, ?_, ?_⟩
    · intro quote
      exact verbatim.1 (quote ▸ List.mem_cons_self)
    · intro backslash
      apply verbatim.2
      rw [backslash, List.cons_append, shape]
      exact (List.prefix_append ['\\', next] more).isInfix
    · intro quote
      exact verbatim.1 (List.mem_cons_of_mem _ quote)
    · intro other within
      exact verbatim.2 other (within.trans (List.suffix_cons char _).isInfix)
  · intro ⟨quote, backslash, verbatim⟩
    refine ⟨?_, ?_⟩
    · intro found
      rcases List.mem_cons.mp found with same | later
      · exact quote same.symm
      · exact verbatim.1 later
    · intro other within
      rw [List.cons_append, List.infix_cons_iff] at within
      rcases within with here | later
      · rw [shape, List.cons_prefix_cons, List.cons_prefix_cons] at here
        obtain ⟨same, rfl, _⟩ := here
        exact backslash same.symm
      · exact verbatim.2 other later

theorem verbatim_of_plain (plain : ∀ char ∈ text, char ≠ '\'' ∧ char ≠ '\\') : dialect.Verbatim text := by
  refine ⟨fun quote => (plain _ quote).1 rfl, ?_⟩
  intro char within
  have found := within.mem List.mem_cons_self
  rw [List.mem_append, List.mem_singleton] at found
  rcases found with inside | quote
  · exact absurd rfl (plain _ inside).2
  · cases quote

theorem exists_shape (text : List Char) : ∃ next more, text ++ ['\''] = next :: more := by
  cases text with
  | nil => exact ⟨_, _, rfl⟩
  | cons next text => exact ⟨next, _, rfl⟩

theorem quotedText_verbatim (verbatim : dialect.Verbatim text) (single : sign ≠ '\'') :
    dialect.quotedText (text ++ '\'' :: sign :: behind) = some (text, sign :: behind) := by
  induction text with
  | nil => exact quotedText_closed single
  | cons char text ih =>
    obtain ⟨next, more, shape⟩ := exists_shape text
    obtain ⟨quote, backslash, verbatim⟩ := (verbatim_cons shape).mp verbatim
    have whole : text ++ '\'' :: sign :: behind = next :: (more ++ sign :: behind) := by
      rw [← List.singleton_append, ← List.append_assoc, shape, List.cons_append]
    have read := ih verbatim
    rw [List.cons_append]
    by_cases bare : char = '\\'
    · rw [bare, whole, quotedText_backslash (backslash bare), ← whole, read]
      rfl
    · rw [quotedText_plain quote bare, read]
      rfl

theorem quotedText_head (ends : ¬ dialect.Special sign)
    (read : dialect.quotedText (sign :: behind) = some (text, rest)) : ∃ more, sign :: more = text := by
  rw [quotedText_plain (fun quote => ends (.inl quote)) fun backslash => ends (.inr (.inl backslash))] at read
  obtain ⟨more, _, same⟩ := reads_behind read
  exact ⟨more, same⟩

theorem owed_tail {owed more : List Char} (several : 2 ≤ owed.length)
    (specials : ∀ char ∈ owed, dialect.Special char) (less : front.length ≤ 1)
    (same : front ++ more = owed ++ text) :
    ∃ tail, tail ≠ [] ∧ (∀ char ∈ tail, dialect.Special char) ∧ more = tail ++ text := by
  have within : front <+: owed := by
    apply List.prefix_of_prefix_length_le (List.prefix_append front more)
    · exact same ▸ List.prefix_append owed text
    · exact Nat.le_trans less (Nat.le_trans (Nat.le_succ 1) several)
  obtain ⟨tail, rfl⟩ := within
  refine ⟨tail, ?_, fun char found => specials char (List.mem_append_right _ found), ?_⟩
  · intro none
    rw [none, List.append_nil] at several
    exact absurd (Nat.le_trans several less) (by decide)
  · rw [List.append_assoc] at same
    exact List.append_cancel_left same

theorem owed_head {other : Char} {more behind : List Char} (specials : ∀ char ∈ debt, dialect.Special char)
    (special : dialect.Special char) (same : [other] ++ more = debt ++ char :: behind) : dialect.Special other := by
  cases debt with
  | nil => exact (List.cons.inj same).1 ▸ special
  | cons first debt => exact (List.cons.inj same).1 ▸ specials first List.mem_cons_self

theorem owed_turn {more : List Char} (specials : ∀ char ∈ debt, dialect.Special char)
    (same : [char] ++ more = debt ++ char :: text) :
    ∃ tail, (∀ char ∈ tail, dialect.Special char) ∧ (tail = [] → debt = []) ∧ more = tail ++ text := by
  cases debt with
  | nil => exact ⟨[], List.forall_mem_nil _, fun _ => rfl, (List.cons.inj same).2⟩
  | cons first debt =>
    obtain ⟨rfl, rest⟩ := List.cons.inj same
    refine ⟨debt ++ [char], ?_, ?_, ?_⟩
    · intro other found
      rcases List.mem_append.mp found with before | last
      · exact specials other (List.mem_cons_of_mem _ before)
      · exact List.mem_singleton.mp last ▸ specials char List.mem_cons_self
    · intro none
      exact absurd none (List.append_ne_nil_of_right_ne_nil _ (List.cons_ne_nil _ _))
    · rw [List.append_assoc]
      exact rest

/-- A text between quotes is read as what is owed from before it and the text itself only
where nothing is owed and the text reads as itself. The induction runs along the text: once
two characters are read as less, something is owed and never paid back, for all of it is
special and would have to be written with more. -/
theorem quotedText_owed (ends : ¬ dialect.Special sign) (specials : ∀ char ∈ debt, dialect.Special char)
    (read : dialect.quotedText (text ++ '\'' :: sign :: behind) = some (debt ++ text, rest)) :
    debt = [] ∧ dialect.Verbatim text ∧ rest = sign :: behind := by
  have single : sign ≠ '\'' := fun quote => ends (.inl quote)
  induction text using List.twoStepInduction generalizing debt with
  | nil =>
    rw [List.nil_append, quotedText_closed single] at read
    obtain ⟨none, rfl⟩ := Prod.mk.inj (Option.some.inj read)
    exact ⟨(List.append_eq_nil_iff.mp none.symm).1, verbatim_nil, rfl⟩
  | singleton char =>
    have swallowed {front value : List Char} (special : dialect.Special char)
        (other : dialect.quotedText (sign :: behind) = some (value, rest)) (same : front ++ value = debt ++ [char]) :
        False := by
      obtain ⟨more, rfl⟩ := quotedText_head ends other
      have found : sign ∈ debt ++ [char] := same ▸ List.mem_append_right _ List.mem_cons_self
      rcases List.mem_append.mp found with before | last
      · exact ends (specials sign before)
      · exact ends (List.mem_singleton.mp last ▸ special)
    rw [List.singleton_append] at read
    by_cases quote : char = '\''
    · rw [quote, quotedText_doubled] at read
      obtain ⟨value, other, same⟩ := reads_behind read
      exact (swallowed (.inl quote) other (quote ▸ same)).elim
    · by_cases backslash : char = '\\'
      · cases escaped : dialect.escape '\'' with
        | some chars =>
          rw [backslash, quotedText_escape escaped] at read
          obtain ⟨value, other, same⟩ := reads_behind read
          exact (swallowed (.inr (.inl backslash)) other (backslash ▸ same)).elim
        | none =>
          rw [backslash, quotedText_backslash escaped, quotedText_closed single] at read
          obtain ⟨same, rfl⟩ := Prod.mk.inj (Option.some.inj read)
          refine ⟨List.append_cancel_right same.symm, ?_, rfl⟩
          exact (verbatim_cons rfl).mpr ⟨quote, fun _ => escaped, verbatim_nil⟩
      · rw [quotedText_plain quote backslash, quotedText_closed single] at read
        obtain ⟨same, rfl⟩ := Prod.mk.inj (Option.some.inj read)
        refine ⟨List.append_cancel_right same.symm, ?_, rfl⟩
        exact (verbatim_cons rfl).mpr ⟨quote, fun same => absurd same backslash, verbatim_nil⟩
  | cons_cons char next text ih ihNext =>
    have unpaid {front value : List Char} (one : dialect.Special char) (two : dialect.Special next)
        (less : front.length ≤ 1) (same : front ++ value = debt ++ char :: next :: text)
        (other : dialect.quotedText (text ++ '\'' :: sign :: behind) = some (value, rest)) : False := by
      have owing : ∀ other ∈ debt ++ [char, next], dialect.Special other := by
        intro other found
        rcases List.mem_append.mp found with before | last
        · exact specials other before
        · simp only [List.mem_cons, List.not_mem_nil, or_false] at last
          rcases last with rfl | rfl
          · exact one
          · exact two
      obtain ⟨tail, some, tailSpecials, rfl⟩ := owed_tail (by simp) owing less (by simpa using same)
      exact some (ih tailSpecials other).1
    have onward {value : List Char} (same : [char] ++ value = debt ++ char :: next :: text)
        (other : dialect.quotedText (next :: text ++ '\'' :: sign :: behind) = some (value, rest)) :
        debt = [] ∧ dialect.Verbatim (next :: text) ∧ rest = sign :: behind := by
      obtain ⟨tail, tailSpecials, nothing, rfl⟩ := owed_turn specials same
      obtain ⟨none, verbatim, after⟩ := ihNext next tailSpecials other
      exact ⟨nothing none, verbatim, after⟩
    simp only [List.cons_append] at read onward
    by_cases quote : char = '\''
    · by_cases doubled : next = '\''
      · rw [quote, doubled, quotedText_doubled] at read
        obtain ⟨value, other, same⟩ := reads_behind read
        have twice : ['\''] ++ value = debt ++ char :: next :: text := by
          rw [quote, doubled]
          exact same
        exact (unpaid (.inl quote) (.inl doubled) (by simp) twice other).elim
      · rw [quote, quotedText_closed doubled] at read
        exact absurd (Prod.mk.inj (Option.some.inj read)).1.symm
          (List.append_ne_nil_of_right_ne_nil _ (List.cons_ne_nil _ _))
    · by_cases backslash : char = '\\'
      · cases escaped : dialect.escape next with
        | some chars =>
          rw [backslash, quotedText_escape escaped] at read
          obtain ⟨value, other, same⟩ := reads_behind read
          have special : dialect.Special next := by
            match chars with
            | [] => exact .inr (.inr escaped)
            | [char] =>
              have special := owed_head specials (.inr (.inl rfl)) same
              exact dialect.own escaped special ▸ special
            | _ :: _ :: _ => exact absurd (dialect.short escaped) (by simp)
          exact (unpaid (.inr (.inl backslash)) special (dialect.short escaped) (backslash ▸ same) other).elim
        | none =>
          rw [backslash, quotedText_backslash escaped] at read
          obtain ⟨value, other, same⟩ := reads_behind read
          obtain ⟨none, verbatim, after⟩ := onward (backslash ▸ same) other
          exact ⟨none, (verbatim_cons rfl).mpr ⟨quote, fun _ => escaped, verbatim⟩, after⟩
      · rw [quotedText_plain quote backslash] at read
        obtain ⟨value, other, same⟩ := reads_behind read
        obtain ⟨none, verbatim, after⟩ := onward same other
        exact ⟨none, (verbatim_cons rfl).mpr ⟨quote, fun same => absurd same backslash, verbatim⟩, after⟩

/-- A text between quotes reads as itself just where it has nothing that reads otherwise. -/
theorem quotedText_own_iff (ends : ¬ dialect.Special sign) :
    dialect.quotedText (text ++ '\'' :: sign :: behind) = some (text, rest) ↔
      dialect.Verbatim text ∧ rest = sign :: behind := by
  constructor
  · intro read
    exact (@quotedText_owed _ _ [] _ _ _ ends (List.forall_mem_nil _) read).2
  · intro ⟨verbatim, after⟩
    rw [after]
    exact quotedText_verbatim verbatim fun quote => ends (.inl quote)

theorem quotedText_shorter (read : dialect.quotedText behind = some (text, rest)) : rest.length ≤ behind.length := by
  induction behind using List.twoStepInduction generalizing text with
  | nil => cases read
  | singleton char =>
    rw [quotedText.eq_def] at read
    dsimp only at read
    split at read
    next =>
      obtain ⟨_, rfl⟩ := Prod.mk.inj (Option.some.inj read)
      exact Nat.zero_le _
    next =>
      split at read
      next => cases read
      next => simp [quotedText] at read
  | cons_cons char next behind ih ihNext =>
    have later {front value : List Char} (whole : front ++ value = text)
        (read : dialect.quotedText behind = some (value, rest)) : rest.length ≤ (char :: next :: behind).length :=
      Nat.le_succ_of_le (Nat.le_succ_of_le (ih read))
    by_cases quote : char = '\''
    · by_cases doubled : next = '\''
      · rw [quote, doubled, quotedText_doubled] at read
        obtain ⟨value, other, same⟩ := reads_behind read
        exact later same other
      · rw [quote, quotedText_closed doubled] at read
        obtain ⟨_, rfl⟩ := Prod.mk.inj (Option.some.inj read)
        exact Nat.le_succ _
    · by_cases backslash : char = '\\'
      · cases escaped : dialect.escape next with
        | some chars =>
          rw [backslash, quotedText_escape escaped] at read
          obtain ⟨value, other, same⟩ := reads_behind read
          exact later same other
        | none =>
          rw [backslash, quotedText_backslash escaped] at read
          obtain ⟨value, other, _⟩ := reads_behind read
          exact Nat.le_succ_of_le (ihNext next other)
      · rw [quotedText_plain quote backslash] at read
        obtain ⟨value, other, _⟩ := reads_behind read
        exact Nat.le_succ_of_le (ihNext next other)

end
end Dialect

/-- What a statement is made of. A number is a word of its digits. -/
inductive SqlToken where
  | word (chars : List Char)
  | quoted (text : List Char)
  | sign (char : Char)
  deriving DecidableEq

def isWord (char : Char) : Bool := char.isAlphanum || char == '_'

/-- What follows a comment that is closed. -/
def afterComment : List Char → Option (List Char)
  | '*' :: '/' :: rest => some rest
  | _ :: rest => afterComment rest
  | [] => none

theorem afterComment_shorter {chars rest : List Char} (closed : afterComment chars = some rest) :
    rest.length ≤ chars.length := by
  induction chars using afterComment.induct with
  | case1 rest =>
    cases closed
    exact Nat.le_succ_of_le (Nat.le_succ _)
  | case2 char chars _ ih =>
    rw [afterComment] at closed
    · exact Nat.le_succ_of_le (ih closed)
    · assumption
  | case3 => cases closed

variable (dialect : Dialect)

/-- The tokens of a text, unless a quote or a comment is left open. -/
def tokens : List Char → Option (List SqlToken)
  | [] => some []
  | char :: rest =>
    if char.isWhitespace then tokens rest
    else if char = '\'' then
      match _read : dialect.quotedText rest with
      | none => none
      | some (text, behind) => (tokens behind).map (.quoted text :: ·)
    else if isWord char then (tokens (rest.dropWhile isWord)).map (.word (char :: rest.takeWhile isWord) :: ·)
    else if char = '-' ∧ rest.head? = some '-' then tokens (rest.dropWhile (· ≠ '\n'))
    else if char = '/' ∧ rest.head? = some '*' then
      match _closed : afterComment rest.tail with
      | none => none
      | some behind => tokens behind
    else (tokens rest).map (.sign char :: ·)
  termination_by chars => chars.length
  decreasing_by
    · exact Nat.lt_succ_self _
    · exact Nat.lt_succ_of_le (Dialect.quotedText_shorter (by assumption))
    · exact Nat.lt_succ_of_le (List.dropWhile_sublist _).length_le
    · exact Nat.lt_succ_of_le (List.dropWhile_sublist _).length_le
    · exact Nat.lt_succ_of_le (Nat.le_trans (afterComment_shorter (by assumption)) (List.tail_sublist _).length_le)
    · exact Nat.lt_succ_self _

section
variable {dialect} {char : Char} {word text behind rest : List Char} {next : Char}

theorem tokens_nil : tokens dialect [] = some [] := by
  rw [tokens.eq_def]

theorem tokens_blank (blank : char.isWhitespace) : tokens dialect (char :: rest) = tokens dialect rest := by
  rw [tokens.eq_def]
  simp [blank]

theorem tokens_quoted (read : dialect.quotedText rest = some (text, behind)) :
    tokens dialect ('\'' :: rest) = (tokens dialect behind).map (.quoted text :: ·) := by
  rw [tokens.eq_def]
  have dark : '\''.isWhitespace = false := by decide
  simp only [dark, Bool.false_eq_true, if_false, if_true]
  split
  next none => rw [read] at none; cases none
  next found =>
    rw [read] at found
    cases found
    rfl

theorem tokens_open (unclosed : dialect.quotedText rest = none) : tokens dialect ('\'' :: rest) = none := by
  rw [tokens.eq_def]
  have dark : '\''.isWhitespace = false := by decide
  simp only [dark, Bool.false_eq_true, if_false, if_true]
  split
  next => rfl
  next found => rw [unclosed] at found; cases found

/-- A sign that begins no comment. -/
def Punctuation (char : Char) : Prop :=
  char.isWhitespace = false ∧ char ≠ '\'' ∧ isWord char = false ∧ char ≠ '-' ∧ char ≠ '/'
  deriving Decidable

theorem tokens_sign (sign : Punctuation char) :
    tokens dialect (char :: rest) = (tokens dialect rest).map (.sign char :: ·) := by
  obtain ⟨dark, quote, word, dash, slash⟩ := sign
  rw [tokens.eq_def]
  simp [dark, quote, word, dash, slash]

theorem isWord_dark (letter : isWord char) : char.isWhitespace = false ∧ char ≠ '\'' := by
  refine ⟨?_, ?_⟩
  · cases blank : char.isWhitespace with
    | false => rfl
    | true =>
      simp only [Char.isWhitespace, Bool.or_eq_true, decide_eq_true_eq] at blank
      rcases blank with ((rfl | rfl) | rfl) | rfl <;> exact absurd letter (by decide)
  · rintro rfl
    exact absurd letter (by decide)

theorem tokens_word (letters : ∀ char ∈ word, isWord char) (some : word ≠ []) (ends : isWord next = false) :
    tokens dialect (word ++ next :: rest) = (tokens dialect (next :: rest)).map (.word word :: ·) := by
  cases word with
  | nil => exact absurd rfl some
  | cons char word =>
    obtain ⟨letter, letters⟩ := List.forall_mem_cons.mp letters
    obtain ⟨dark, quote⟩ := isWord_dark letter
    have taken : (word ++ next :: rest).takeWhile isWord = word := by
      rw [List.takeWhile_append_of_pos letters, List.takeWhile_cons, if_neg (by simp [ends]), List.append_nil]
    have dropped : (word ++ next :: rest).dropWhile isWord = next :: rest := by
      rw [List.dropWhile_append_of_pos letters, List.dropWhile_cons, if_neg (by simp [ends])]
    rw [List.cons_append, tokens.eq_def]
    simp only [dark, Bool.false_eq_true, if_false, if_neg quote, letter, if_true, taken, dropped]

end

/-- A value that stands in a row of an insert. -/
inductive SqlLiteral where
  | text (value : List Char)
  | number (digits : List Char)
  | null
  | binary (digits : List Char)
  deriving DecidableEq

namespace SqlLiteral

/-- Nothing is meant by a null, and by a binary value of zeros only. -/
def Denotes : SqlLiteral → List Char → Prop
  | text value, meant => value = meant
  | number digits, meant => digits = meant
  | null, meant => meant = []
  | binary digits, meant => meant = [] ∧ ∀ digit ∈ digits, digit = '0'

end SqlLiteral

/-- One row for the columns of a table. -/
structure InsertRow where
  table : List Char
  columns : List (List Char)
  values : List SqlLiteral

namespace SqlToken

def insertWord : List Char := ['I', 'N', 'S', 'E', 'R', 'T']
def intoWord : List Char := ['I', 'N', 'T', 'O']
def valuesWord : List Char := ['V', 'A', 'L', 'U', 'E', 'S']
def nullWord : List Char := ['N', 'U', 'L', 'L']

/-- Keywords are written in either case. -/
def isKeyword (keyword word : List Char) : Bool := word.map Char.toUpper == keyword

def name : SqlToken → Option (List Char)
  | word chars => some chars
  | _ => none

def literal : SqlToken → Option SqlLiteral
  | quoted text => some (.text text)
  | word chars =>
    if chars.all Char.isDigit then some (.number chars)
    else
      match chars with
      | '0' :: 'x' :: digits => some (.binary digits)
      | _ => if isKeyword nullWord chars then some .null else none
  | sign _ => none

/-- Items with commas between them, up to the parenthesis that closes their list. -/
def listed {Item : Type} (item : SqlToken → Option Item) : List SqlToken → Option (List Item × List SqlToken)
  | token :: .sign ',' :: rest =>
    (item token).bind fun first => (listed item rest).map fun more => (first :: more.1, more.2)
  | token :: .sign ')' :: rest => (item token).map fun last => ([last], rest)
  | _ => none

def insertValues (table : List Char) (columns : List (List Char)) : List SqlToken → Option InsertRow
  | .word values :: .sign '(' :: rest =>
    if isKeyword valuesWord values then
      (listed literal rest).bind fun read =>
        if read.2 = [] ∨ read.2 = [.sign ';'] then some { table, columns, values := read.1 } else none
    else none
  | _ => none

def insertStatement : List SqlToken → Option InsertRow
  | .word insert :: .word into :: .word table :: .sign '(' :: rest =>
    if isKeyword insertWord insert ∧ isKeyword intoWord into then
      (listed name rest).bind fun columns => insertValues table columns.1 columns.2
    else none
  | _ => none

end SqlToken

/-- The one insert a text is, if it is one. -/
def readInsert (chars : List Char) : Option InsertRow := (tokens dialect chars).bind SqlToken.insertStatement

/-- A value as a writer puts it into a row. -/
inductive SqlCell where
  | quoted (text : List Char)
  | number (value : Nat)
  | null (capital : Bool)
  | zeros (digits : Nat)

namespace SqlCell

def source : SqlCell → List Char
  | quoted text => '\'' :: text ++ ['\'']
  | number value => Nat.toDigits 10 value
  | null true => ['N', 'U', 'L', 'L']
  | null false => ['n', 'u', 'l', 'l']
  | zeros digits => '0' :: 'x' :: List.replicate digits '0'

/-- What is meant by it. -/
def text : SqlCell → List Char
  | quoted text => text
  | number value => Nat.toDigits 10 value
  | null _ => []
  | zeros _ => []

def token (cell : SqlCell) : SqlToken :=
  match cell with
  | quoted text => .quoted text
  | _ => .word cell.source

def literal : SqlCell → SqlLiteral
  | quoted text => .text text
  | number value => .number (Nat.toDigits 10 value)
  | null _ => .null
  | zeros digits => .binary (List.replicate digits '0')

def Verbatim : SqlCell → Prop
  | quoted text => dialect.Verbatim text
  | _ => True

variable {dialect} {cell : SqlCell}

theorem literal_denotes (cell : SqlCell) : cell.literal.Denotes cell.text := by
  cases cell with
  | quoted text => exact rfl
  | number value => exact rfl
  | null capital => exact rfl
  | zeros digits => exact ⟨rfl, fun digit found => List.eq_of_mem_replicate found⟩

theorem digit_isWord {char : Char} (digit : char.isDigit) : isWord char := by
  simp [isWord, Char.isAlphanum, digit]

theorem literal_token (cell : SqlCell) : cell.token.literal = some cell.literal := by
  cases cell with
  | quoted text => rfl
  | number value =>
    have digits : (Nat.toDigits 10 value).all Char.isDigit := by
      apply List.all_eq_true.mpr
      intro digit found
      exact Nat.isDigit_of_mem_toDigits (by decide) (by decide) found
    simp only [token, source, SqlToken.literal, digits, if_true, literal]
  | null capital => cases capital <;> rfl
  | zeros digits =>
    have letter : ¬ ('0' :: 'x' :: List.replicate digits '0').all Char.isDigit = true := by
      simp [Char.isDigit]
    simp only [token, source, SqlToken.literal, if_neg letter, literal]

/-- What separates the values and closes their list. -/
def Separates (sign : Char) : Prop := sign = ',' ∨ sign = ')'

section
variable {sign : Char} {rest : List Char}

theorem separates_punctuation (separates : Separates sign) : Punctuation sign := by
  rcases separates with rfl | rfl <;> decide

theorem separates_ends (separates : Separates sign) : ¬ dialect.Special sign := by
  intro special
  rcases special with quote | backslash | removed
  · exact (separates_punctuation separates).2.1 quote
  · rcases separates with rfl | rfl <;> cases backslash
  · have newline := dialect.removed removed
    rcases separates with rfl | rfl <;> cases newline

theorem source_letters (bare : cell.token = .word cell.source) : ∀ char ∈ cell.source, isWord char := by
  intro char found
  cases cell with
  | quoted text => cases bare
  | number value => exact digit_isWord (Nat.isDigit_of_mem_toDigits (by decide) (by decide) found)
  | null capital => cases capital <;> simp [source] at found <;> rcases found with rfl | rfl | rfl <;> decide
  | zeros digits =>
    simp only [source, List.mem_cons, List.mem_replicate] at found
    rcases found with rfl | rfl | ⟨_, rfl⟩ <;> decide

theorem source_ne_nil (cell : SqlCell) : cell.source ≠ [] := by
  cases cell with
  | quoted text => exact List.cons_ne_nil _ _
  | number value => exact Nat.toDigits_ne_nil
  | null capital => cases capital <;> exact List.cons_ne_nil _ _
  | zeros digits => exact List.cons_ne_nil _ _

theorem tokens_cell (verbatim : cell.Verbatim dialect) (separates : Separates sign) :
    tokens dialect (cell.source ++ sign :: rest) =
      (tokens dialect rest).map fun behind => cell.token :: .sign sign :: behind := by
  have punctuation := separates_punctuation separates
  have word (bare : cell.token = .word cell.source) : tokens dialect (cell.source ++ sign :: rest) =
      (tokens dialect rest).map fun behind => cell.token :: .sign sign :: behind := by
    rw [tokens_word (source_letters bare) cell.source_ne_nil punctuation.2.2.1, tokens_sign punctuation, bare,
      Option.map_map]
    rfl
  cases cell with
  | quoted text =>
    have read : dialect.quotedText (text ++ '\'' :: sign :: rest) = some (text, sign :: rest) :=
      (Dialect.quotedText_own_iff (separates_ends separates)).mpr ⟨verbatim, rfl⟩
    have shape : (quoted text).source ++ sign :: rest = '\'' :: (text ++ '\'' :: sign :: rest) := by
      simp [source]
    rw [shape, tokens_quoted read, tokens_sign punctuation, Option.map_map]
    rfl
  | number value => exact word rfl
  | null capital => exact word rfl
  | zeros digits => exact word rfl

theorem verbatim_of_tokens (separates : Separates sign) {token : SqlToken} {behind : List SqlToken}
    (read : tokens dialect (cell.source ++ sign :: rest) = some (token :: behind))
    {value : SqlLiteral} (literal : token.literal = some value) (denotes : value.Denotes cell.text) :
    cell.Verbatim dialect := by
  cases cell with
  | quoted text =>
    have shape : (quoted text).source ++ sign :: rest = '\'' :: (text ++ '\'' :: sign :: rest) := by
      simp [source]
    rw [shape] at read
    cases quotes : dialect.quotedText (text ++ '\'' :: sign :: rest) with
    | none =>
      rw [tokens_open quotes] at read
      cases read
    | some found =>
      obtain ⟨inner, after⟩ := found
      rw [tokens_quoted quotes, Option.map_eq_some_iff] at read
      obtain ⟨_, _, same⟩ := read
      obtain ⟨rfl, _⟩ := List.cons.inj same
      cases literal
      have own : inner = text := denotes
      rw [own] at quotes
      exact ((Dialect.quotedText_own_iff (separates_ends separates)).mp quotes).1
  | number | null | zeros => exact trivial

end

end SqlCell

/-- Items with commas between them and a parenthesis behind. -/
def listSource : List (List Char) → List Char
  | [] => [')']
  | [item] => item ++ [')']
  | item :: next :: items => item ++ ',' :: listSource (next :: items)

section
variable {dialect} {Item : Type} {item : SqlToken → Option Item} {token : SqlToken} {first : Item}

namespace SqlToken

theorem listed_comma (read : item token = some first) (rest : List SqlToken) :
    listed item (token :: .sign ',' :: rest) = (listed item rest).map fun more => (first :: more.1, more.2) := by
  simp [listed, read]

theorem listed_closed (read : item token = some first) (rest : List SqlToken) :
    listed item (token :: .sign ')' :: rest) = some ([first], rest) := by
  simp [listed, read]

theorem listed_first {items : List Item} {rest left : List SqlToken}
    (read : listed item (token :: rest) = some (items, left)) :
    ∃ first more, item token = some first ∧ items = first :: more := by
  unfold listed at read
  split at read
  next same =>
    cases same
    obtain ⟨first, found, more⟩ := Option.bind_eq_some_iff.mp read
    obtain ⟨_, _, same⟩ := Option.map_eq_some_iff.mp more
    exact ⟨first, _, found, (Prod.mk.inj same).1.symm⟩
  next same =>
    cases same
    obtain ⟨first, found, same⟩ := Option.map_eq_some_iff.mp read
    exact ⟨first, _, found, (Prod.mk.inj same).1.symm⟩
  next => cases read

end SqlToken

open SqlToken

variable {cells : List SqlCell} {behind : List Char} {left : List SqlToken}

/-- The values of a row, as they are read up to the end of their list. -/
def readValues (dialect : Dialect) (chars : List Char) : Option (List SqlLiteral × List SqlToken) :=
  (tokens dialect chars).bind (listed SqlToken.literal)

theorem readValues_verbatim (some : cells ≠ []) (verbatim : ∀ cell ∈ cells, cell.Verbatim dialect)
    (after : tokens dialect behind = Option.some left) :
    readValues dialect (listSource (cells.map SqlCell.source) ++ behind) =
      Option.some (cells.map SqlCell.literal, left) := by
  induction cells with
  | nil => exact absurd rfl some
  | cons cell cells ih =>
    obtain ⟨own, others⟩ := List.forall_mem_cons.mp verbatim
    cases cells with
    | nil =>
      rw [readValues, List.map_cons, List.map_nil, listSource, List.append_assoc, List.singleton_append,
        SqlCell.tokens_cell own (.inr rfl), after, Option.map_some, Option.bind_some,
        listed_closed cell.literal_token]
      rfl
    | cons next cells =>
      have rest := ih (List.cons_ne_nil _ _) others
      rw [readValues] at rest
      obtain ⟨found, read, values⟩ := Option.bind_eq_some_iff.mp rest
      rw [readValues, List.map_cons, List.map_cons, listSource, List.append_assoc, List.cons_append,
        SqlCell.tokens_cell own (.inl rfl), ← List.map_cons, read, Option.map_some, Option.bind_some,
        listed_comma cell.literal_token, values]
      rfl

theorem verbatim_of_readValues {values : List SqlLiteral}
    (read : readValues dialect (listSource (cells.map SqlCell.source) ++ behind) = some (values, left))
    (denote : List.Forall₂ SqlLiteral.Denotes values (cells.map SqlCell.text)) :
    ∀ cell ∈ cells, cell.Verbatim dialect := by
  induction cells generalizing values with
  | nil => exact List.forall_mem_nil _
  | cons cell cells ih =>
    obtain ⟨found, shape, list⟩ := Option.bind_eq_some_iff.mp read
    have own {sign : Char} {rest : List Char} (separates : SqlCell.Separates sign)
        (shape : tokens dialect (cell.source ++ sign :: rest) = some found) : cell.Verbatim dialect := by
      match found with
      | [] => cases list
      | token :: behind =>
        obtain ⟨value, more, literal, rfl⟩ := listed_first list
        rw [List.map_cons, List.forall₂_cons] at denote
        exact SqlCell.verbatim_of_tokens separates shape literal denote.1
    cases cells with
    | nil =>
      rw [List.map_cons, List.map_nil, listSource, List.append_assoc, List.singleton_append] at shape
      exact List.forall_mem_singleton.mpr (own (.inr rfl) shape)
    | cons next cells =>
      rw [List.map_cons, List.map_cons, listSource, List.append_assoc, List.cons_append, ← List.map_cons] at shape
      have verbatim := own (.inl rfl) shape
      rw [SqlCell.tokens_cell verbatim (.inl rfl)] at shape
      obtain ⟨rest, others, rfl⟩ := Option.map_eq_some_iff.mp shape
      rw [listed_comma cell.literal_token] at list
      obtain ⟨⟨more, after⟩, listed, same⟩ := Option.map_eq_some_iff.mp list
      cases same
      rw [List.map_cons, List.forall₂_cons] at denote
      refine List.forall_mem_cons.mpr ⟨verbatim, ih (Option.bind_eq_some_iff.mpr ⟨rest, others, listed⟩) denote.2⟩

/-- A name is a word. -/
def IsName (name : List Char) : Prop := name ≠ [] ∧ ∀ char ∈ name, isWord char

theorem tokens_name {name rest : List Char} {sign : Char} (isName : IsName name) (punctuation : Punctuation sign) :
    tokens dialect (name ++ sign :: rest) =
      (tokens dialect rest).map fun behind => .word name :: .sign sign :: behind := by
  rw [tokens_word isName.2 isName.1 punctuation.2.2.1, tokens_sign punctuation, Option.map_map]
  rfl

theorem listed_names {columns : List (List Char)} (some : columns ≠ [])
    (names : ∀ column ∈ columns, IsName column) :
    (tokens dialect (listSource columns ++ behind)).bind (listed SqlToken.name) =
      (tokens dialect behind).map fun left => (columns, left) := by
  have comma := @SqlCell.separates_punctuation ',' (.inl rfl)
  have close := @SqlCell.separates_punctuation ')' (.inr rfl)
  induction columns with
  | nil => exact absurd rfl some
  | cons column columns ih =>
    obtain ⟨own, others⟩ := List.forall_mem_cons.mp names
    have here : SqlToken.name (.word column) = Option.some column := rfl
    cases columns with
    | nil =>
      have read : listed SqlToken.name ∘ (fun behind => .word column :: .sign ')' :: behind) =
          fun left => Option.some ([column], left) := funext (listed_closed here)
      rw [listSource, List.append_assoc, List.singleton_append, tokens_name own close, Option.bind_map, read,
        Option.map_eq_bind]
      rfl
    | cons next columns =>
      have read : listed SqlToken.name ∘ (fun behind => .word column :: .sign ',' :: behind) =
          Option.map (fun more => (column :: more.1, more.2)) ∘ listed SqlToken.name := funext (listed_comma here)
      rw [listSource, List.append_assoc, List.cons_append, tokens_name own comma, Option.bind_map, read,
        ← Option.map_bind, ih (List.cons_ne_nil _ _) others, Option.map_map]
      rfl

/-- An insert of one row, with a blank behind the table's name or none. -/
def insertSource (spaced : Bool) (table : List Char) (columns : List (List Char)) (cells : List SqlCell) : List Char :=
  insertWord ++ ' ' :: (intoWord ++ ' ' :: (table ++ ((if spaced then [' ', '('] else ['(']) ++ (listSource columns ++
    ' ' :: (valuesWord ++ '(' :: (listSource (cells.map SqlCell.source) ++ [';']))))))

variable {spaced : Bool} {table : List Char} {columns : List (List Char)}

theorem punctuation_opening : Punctuation '(' := by decide

theorem tokens_keyword {word rest : List Char} (isName : IsName word) :
    tokens dialect (word ++ ' ' :: rest) = (tokens dialect rest).map (.word word :: ·) := by
  rw [tokens_word isName.2 isName.1 (by decide), tokens_blank (by decide)]

theorem keyword_isName : IsName insertWord ∧ IsName intoWord ∧ IsName valuesWord := by
  refine ⟨⟨List.cons_ne_nil _ _, ?_⟩, ⟨List.cons_ne_nil _ _, ?_⟩, ⟨List.cons_ne_nil _ _, ?_⟩⟩
  all_goals
    apply List.all_eq_true.mp
    decide

theorem tokens_into (isName : IsName table) (rest : List Char) :
    tokens dialect (insertWord ++ ' ' ::
        (intoWord ++ ' ' :: (table ++ ((if spaced then [' ', '('] else ['(']) ++ rest)))) =
      (tokens dialect rest).map fun behind =>
        .word insertWord :: .word intoWord :: .word table :: .sign '(' :: behind := by
  obtain ⟨insert, into, _⟩ := keyword_isName
  rw [tokens_keyword insert, tokens_keyword into, Option.map_map]
  have named : tokens dialect (table ++ ((if spaced then [' ', '('] else ['(']) ++ rest)) =
      (tokens dialect rest).map fun behind => .word table :: .sign '(' :: behind := by
    cases spaced with
    | true =>
      rw [if_pos rfl, List.cons_append, List.singleton_append, tokens_keyword isName,
        tokens_sign punctuation_opening, Option.map_map]
      rfl
    | false =>
      rw [if_neg Bool.false_ne_true, List.singleton_append, tokens_name isName punctuation_opening]
  rw [named, Option.map_map]
  rfl

theorem readInsert_source (isName : IsName table) (some : columns ≠ [])
    (names : ∀ column ∈ columns, IsName column) :
    readInsert dialect (insertSource spaced table columns cells) =
      (readValues dialect (listSource (cells.map SqlCell.source) ++ [';'])).bind fun read =>
        if read.2 = [] ∨ read.2 = [.sign ';'] then Option.some { table, columns, values := read.1 } else none := by
  have opened : SqlToken.insertStatement ∘
        (fun rest => .word insertWord :: .word intoWord :: .word table :: .sign '(' :: rest) =
      fun rest => (listed SqlToken.name rest).bind fun columns => insertValues table columns.1 columns.2 := rfl
  have valued : insertValues table columns ∘ (fun rest => .word valuesWord :: .sign '(' :: rest) =
      fun rest => (listed SqlToken.literal rest).bind fun read =>
        if read.2 = [] ∨ read.2 = [.sign ';'] then Option.some { table, columns, values := read.1 } else none := rfl
  have values (rest : List Char) : tokens dialect (' ' :: (valuesWord ++ '(' :: rest)) =
      (tokens dialect rest).map fun behind => .word valuesWord :: .sign '(' :: behind := by
    rw [tokens_blank (by decide), tokens_name keyword_isName.2.2 punctuation_opening]
  rw [readInsert, insertSource, tokens_into isName, Option.bind_map, opened, ← Option.bind_assoc,
    listed_names some names, values, Option.map_map, Option.bind_map, readValues, Option.bind_assoc, ← valued]
  rfl

/-- The text of an insert is one insert that means what it is to mean just where each of
its values reads as itself. -/
theorem readInsert_iff (isName : IsName table) (some : columns ≠ []) (names : ∀ column ∈ columns, IsName column)
    (filled : cells ≠ []) :
    (∃ insert, readInsert dialect (insertSource spaced table columns cells) = Option.some insert ∧
      insert.table = table ∧ insert.columns = columns ∧
      List.Forall₂ SqlLiteral.Denotes insert.values (cells.map SqlCell.text)) ↔
      ∀ cell ∈ cells, cell.Verbatim dialect := by
  have semicolon : Punctuation ';' := by decide
  have ended : tokens dialect [';'] = Option.some [.sign ';'] := by
    rw [tokens_sign semicolon, tokens_nil]
    rfl
  rw [readInsert_source isName some names]
  constructor
  · rintro ⟨insert, read, _, _, denote⟩
    obtain ⟨⟨values, left⟩, found, same⟩ := Option.bind_eq_some_iff.mp read
    split at same
    next =>
      cases same
      exact verbatim_of_readValues found denote
    next => cases same
  · intro verbatim
    rw [readValues_verbatim filled verbatim ended, Option.bind_some, if_pos (.inr rfl)]
    refine ⟨_, rfl, rfl, rfl, ?_⟩
    rw [List.forall₂_map_left_iff, List.forall₂_map_right_iff, List.forall₂_same]
    intro cell _
    exact cell.literal_denotes

end

end Simutgw.Logic
