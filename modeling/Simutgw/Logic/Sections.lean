import Mathlib.Data.List.Basic

/-! Texts of lines, and lines in sections. A line is ended by either of two symbols, or by
the two together; the lines of a section stand between two marks. -/

namespace Simutgw.Logic

section Lines

variable {Symbol : Type*}

theorem splitOnP_single {stops : Symbol → Bool} {text token : List Symbol} (single : text.splitOnP stops = [token]) :
    token = text := by
  induction text generalizing token with
  | nil => simpa using single.symm
  | cons symbol rest ih =>
    obtain ⟨first, others, cut⟩ := List.exists_cons_of_ne_nil (List.splitOnP_ne_nil stops rest)
    rw [List.splitOnP_cons_eq_if_modifyHead, cut] at single
    split at single
    · cases single
    · rw [List.modifyHead_cons] at single
      cases single
      rw [ih cut]

variable [DecidableEq Symbol] (first second : Symbol)

/-- The lines of a text. -/
def textLines : List Symbol → List (List Symbol)
  | [] => [[]]
  | [symbol] => if symbol = first ∨ symbol = second then [[], []] else [[symbol]]
  | symbol :: next :: rest =>
    if symbol = first ∧ next = second then [] :: textLines rest
    else if symbol = first ∨ symbol = second then [] :: textLines (next :: rest)
    else (textLines (next :: rest)).modifyHead (symbol :: ·)

def endsLine (symbol : Symbol) : Bool := symbol == first || symbol == second

variable {first second}

/-- Cut at every end, a text has its lines, and an empty token for each end of two. -/
theorem textLines_cut {keep : List Symbol → Bool} (blank : keep [] = false) (text : List Symbol) :
    ∃ line lines tokens, textLines first second text = line :: lines ∧
      text.splitOnP (endsLine first second) = line :: tokens ∧ lines.filter keep = tokens.filter keep := by
  induction text using textLines.induct first second with
  | case1 => exact ⟨[], [], [], rfl, rfl, rfl⟩
  | case2 symbol ended =>
    refine ⟨[], [[]], [[]], ?_, ?_, rfl⟩
    · rw [textLines, if_pos ended]
    · simp [List.splitOnP_cons_eq_if_modifyHead, endsLine, ended]
  | case3 symbol inLine =>
    refine ⟨[symbol], [], [], ?_, ?_, rfl⟩
    · rw [textLines, if_neg inLine]
    · simpa [List.splitOnP_cons_eq_if_modifyHead, endsLine] using inLine
  | case4 symbol next rest both ih =>
    obtain ⟨line, lines, tokens, isLines, isTokens, same⟩ := ih
    obtain ⟨rfl, rfl⟩ := both
    refine ⟨[], line :: lines, [] :: line :: tokens, ?_, ?_, ?_⟩
    · rw [textLines, if_pos ⟨rfl, rfl⟩, isLines]
    · rw [List.splitOnP_cons_eq_if_modifyHead, List.splitOnP_cons_eq_if_modifyHead, isTokens]
      simp [endsLine]
    · simp only [List.filter_cons, blank, Bool.false_eq_true, if_false, same]
  | case5 symbol next rest apart ended ih =>
    obtain ⟨line, lines, tokens, isLines, isTokens, same⟩ := ih
    refine ⟨[], line :: lines, line :: tokens, ?_, ?_, ?_⟩
    · rw [textLines, if_neg apart, if_pos ended, isLines]
    · rw [List.splitOnP_cons_eq_if_modifyHead, isTokens, if_pos]
      simpa [endsLine] using ended
    · simp only [List.filter_cons, same]
  | case6 symbol next rest apart inLine ih =>
    obtain ⟨line, lines, tokens, isLines, isTokens, same⟩ := ih
    refine ⟨symbol :: line, lines, tokens, ?_, ?_, same⟩
    · rw [textLines, if_neg apart, if_neg inLine, isLines, List.modifyHead_cons]
    · rw [List.splitOnP_cons_eq_if_modifyHead, isTokens, if_neg, List.modifyHead_cons]
      simpa [endsLine] using inLine

theorem textLines_filter {keep : List Symbol → Bool} (blank : keep [] = false) (text : List Symbol) :
    (text.splitOnP (endsLine first second)).filter keep = (textLines first second text).filter keep := by
  obtain ⟨line, lines, tokens, isLines, isTokens, same⟩ := textLines_cut blank text
  rw [isLines, isTokens]
  simp only [List.filter_cons, same]

end Lines

section Sections

variable {Line : Type*} (opens closes : Line → Bool)

/-- The lines of the sections. One that is not closed runs to the end. -/
def inSections : Bool → List Line → List Line
  | _, [] => []
  | false, line :: rest => inSections (opens line) rest
  | true, line :: rest => if closes line then inSections false rest else line :: inSections true rest

/-- The lines in front of sections, between them and behind. -/
def outOfSections : Bool → List Line → List Line
  | _, [] => []
  | false, line :: rest => if opens line then outOfSections true rest else line :: outOfSections false rest
  | true, line :: rest => outOfSections (!closes line) rest

end Sections

end Simutgw.Logic
