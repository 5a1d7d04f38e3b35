import Simutgw.Logic.Runs
import Simutgw.Logic.Sections
import Simutgw.EtfConfReader

/-! What a Shanghai file of a fund comes to. The law is that a file is stored whole or
refused. The reader refuses a file only for a component that its check turns down: lines
that are no component it passes over, and of a fund that fails its own check it says 0.
What the table holds has passed its check after any files. -/

namespace Simutgw.Proofs.EtfFile
open EtfConfReader ValidateETF TgwStringUtil Logic

def blank (line : String) : Bool := line.toList.all isSpace

/-- The lines of a file that are not blank, each ended by a carriage return, a line feed
or both. -/
def fileLines (content : String) : List String :=
  ((textLines '\r' '\n' content.toList).map String.ofList).filter fun line => !blank line

def opens (line : String) : Bool := line = "TAGTAG"
def closes (line : String) : Bool := line = "ENDENDEND"

def componentLines (content : String) : List String := inSections opens closes false (fileLines content)

def headerLines (content : String) : List String := outOfSections opens closes false (fileLines content)

def members (line : String) : List String := splitAny (· == '|') line

abbrev SevenFields (line : String) : Prop := (members line).length = 7

def componentOf (line : String) : ShEtfComponent := (setSHETFComponentInfo {} (members line)).2

def Refused (line : String) : Prop := SevenFields line ∧ validateETFComponentInfo (componentOf line) ≠ 0

instance decidableRefused (line : String) : Decidable (Refused line) := by
  unfold Refused
  infer_instance

/-- A line outside the sections sets what its key names. -/
def readHeader (etf : ShEtf) (line : String) : ShEtf :=
  match splitAny (· == '=') line with
  | [key, value] => setSHETFInfo etf key value
  | _ => etf

def header (content : String) : ShEtf := (headerLines content).foldl readHeader {}

/-- The fund of a file, with one component for each line of its sections. -/
def fund (content : String) : ShEtf :=
  { header content with components := (componentLines content).map componentOf }

/-- Every line of the sections is an accepted component, and the fund passes its check. -/
structure Sound (content : String) : Prop where
  components : ∀ line ∈ componentLines content,
    SevenFields line ∧ validateETFComponentInfo (componentOf line) = 0
  header : validateETFInfo (fund content) = 0

/-- A sound file is answered with 0 and stored, any other with an error and not at all. -/
structure Lawful (content : String) (table : EtfTable) : Prop where
  code : (parseSHETFAndStore content table).1 = 0 ↔ Sound content
  stored : Sound content →
    (parseSHETFAndStore content table).2 = Function.update table (fund content).securityID (some (fund content))
  kept : ¬ Sound content → (parseSHETFAndStore content table).2 = table

/-- A component is refused, or every line of the sections has seven fields and the fund
passes its check. -/
def Told (content : String) : Prop :=
  (∃ line ∈ componentLines content, Refused line) ∨
    (∀ line ∈ componentLines content, SevenFields line) ∧ validateETFInfo (fund content) = 0

/-! ### One line -/

variable {line : String} {lines rest : List String} {head etf : ShEtf} {content : String} {table : EtfTable}
  {inComponent : Bool} {before : List ShEtfComponent}

theorem splitAny_without {stops : Char → Bool} (without : ∀ char ∈ line.toList, stops char = false) :
    splitAny stops line = [line] := by
  rw [splitAny, List.splitOnP_eq_singleton without]
  simp

/-- What a component's line adds. -/
def taken (line : String) : List ShEtfComponent := if SevenFields line then [componentOf line] else []

theorem taken_seven (seven : SevenFields line) : taken line = [componentOf line] := if_pos seven

theorem taken_other (other : ¬ SevenFields line) : taken line = [] := if_neg other

def withComponents (etf : ShEtf) (components : List ShEtfComponent) : ShEtf := { etf with components := components }

theorem withComponents_ite {holds : Prop} [Decidable holds] {one other : ShEtf} :
    withComponents (if holds then one else other) before =
      if holds then withComponents one before else withComponents other before :=
  apply_ite (withComponents · before) holds one other

theorem setSHETFInfo_withComponents (key value : String) :
    setSHETFInfo (withComponents head before) key value = withComponents (setSHETFInfo head key value) before := by
  simp only [setSHETFInfo, withComponents_ite]
  rfl

theorem readHeader_withComponents :
    readHeader (withComponents head before) line = withComponents (readHeader head line) before := by
  simp only [readHeader]
  split
  · exact setSHETFInfo_withComponents _ _
  · rfl

theorem split_opens (mark : opens line) : splitAny (· == '=') line = [line] := by
  apply splitAny_without
  obtain rfl : line = "TAGTAG" := by simpa [opens] using mark
  simp

theorem members_closes (mark : closes line) : members line = [line] := by
  apply splitAny_without
  obtain rfl : line = "ENDENDEND" := by simpa [closes] using mark
  simp

theorem splitAny_single {stops : Char → Bool} {token : String} (single : splitAny stops line = [token]) :
    token = line := by
  rw [splitAny, List.map_eq_singleton_iff] at single
  obtain ⟨chars, cut, rfl⟩ := single
  rw [splitOnP_single cut, String.ofList_toList]

theorem readLines_outside :
    readLines false etf (line :: rest) = readLines (opens line) (readHeader etf line) rest := by
  have unmarked (others : splitAny (· == '=') line ≠ [line]) : opens line = false := by
    apply Bool.eq_false_of_not_eq_true
    intro mark
    exact others (split_opens mark)
  rw [readLines, readHeader]
  split
  next token single =>
    obtain rfl := splitAny_single single
    rw [single]
    rfl
  next key value pair => rw [unmarked (by simp [pair]), pair]
  next others pairs =>
    rw [unmarked (others line)]
    split
    next key value pair => exact absurd pair (pairs key value)
    · rfl

theorem setSHETFComponentInfo_seven (seven : SevenFields line) :
    setSHETFComponentInfo {} (members line) = (0, componentOf line) := by
  unfold componentOf
  change (members line).length = 7 at seven
  generalize members line = fields at seven ⊢
  match fields, seven with
  | [_, _, _, _, _, _, _], _ => rfl

theorem members_eq_closes_iff : members line = ["ENDENDEND"] ↔ closes line := by
  constructor
  · intro single
    simpa [closes] using (splitAny_single single).symm
  · intro mark
    rw [members_closes mark]
    simpa [closes] using mark

theorem readLines_inside :
    readLines true etf (line :: rest) =
      if closes line then readLines false etf rest
      else if Refused line then none
      else readLines true (withComponents etf (etf.components ++ taken line)) rest := by
  have isMembers : splitAny (· == '|') line = members line := rfl
  rw [readLines, isMembers]
  by_cases seven : SevenFields line
  · have apart : ¬ closes line := by
      intro mark
      simp [SevenFields, members_closes mark] at seven
    rw [if_pos seven, if_neg apart, setSHETFComponentInfo_seven seven, taken_seven seven]
    by_cases accepted : validateETFComponentInfo (componentOf line) = 0
    · rw [if_neg fun refused => refused.2 accepted]
      simp [accepted, withComponents]
    · rw [if_pos ⟨seven, accepted⟩]
      simp [accepted]
  · rw [if_neg seven, taken_other seven, if_neg fun refused : Refused line => seven refused.1]
    simp [members_eq_closes_iff, withComponents]

/-! ### Blank lines -/

theorem splitAny_blank {stop : Char} (isBlank : blank line) (solid : isSpace stop = false) :
    splitAny (· == stop) line = [line] := by
  apply splitAny_without
  intro char among
  apply beq_false_of_ne
  rintro rfl
  have space := List.all_eq_true.mp isBlank char among
  simp [solid] at space

theorem blank_outside (isBlank : blank line) : readLines false etf (line :: rest) = readLines false etf rest := by
  have unmarked : opens line = false := by
    apply Bool.eq_false_of_not_eq_true
    intro mark
    obtain rfl : line = "TAGTAG" := by simpa [opens] using mark
    simp [blank, isSpace] at isBlank
  rw [readLines_outside, unmarked, readHeader, splitAny_blank isBlank (by decide)]

theorem blank_inside (isBlank : blank line) : readLines true etf (line :: rest) = readLines true etf rest := by
  have unmarked : ¬ closes line := by
    intro mark
    obtain rfl : line = "ENDENDEND" := by simpa [closes] using mark
    simp [blank, isSpace] at isBlank
  have single : members line = [line] := splitAny_blank isBlank (by decide)
  have other : ¬ SevenFields line := by simp [single]
  rw [readLines_inside, if_neg unmarked, if_neg fun refused : Refused line => other refused.1, taken_other other,
    List.append_nil]
  rfl

theorem readLines_filter : readLines inComponent etf (lines.filter fun line => !blank line) = readLines inComponent etf lines := by
  induction lines generalizing inComponent etf with
  | nil => rfl
  | cons line rest ih =>
    cases isBlank : blank line with
    | true =>
      rw [List.filter_cons_of_neg (by simp [isBlank]), ih]
      cases inComponent with
      | false => exact (blank_outside isBlank).symm
      | true => exact (blank_inside isBlank).symm
    | false =>
      rw [List.filter_cons_of_pos (by simp [isBlank])]
      cases inComponent with
      | false => rw [readLines_outside, readLines_outside, ih]
      | true => rw [readLines_inside, readLines_inside, ih, ih]

theorem readLines_vecLine : readLines inComponent etf (vecLine content) = readLines inComponent etf (fileLines content) := by
  have same : _ = (textLines '\r' '\n' content.toList).filter fun line => !blank (String.ofList line) :=
    textLines_filter (by decide) content.toList
  rw [← readLines_filter, vecLine, splitAny, fileLines, List.filter_map, List.filter_map]
  exact congrArg (fun lines => readLines inComponent etf (lines.map String.ofList)) same

/-! ### The whole file -/

theorem outOfSections_opens :
    (outOfSections opens closes false (line :: rest)).foldl readHeader head =
      (outOfSections opens closes (opens line) rest).foldl readHeader (readHeader head line) := by
  rw [outOfSections]
  cases mark : opens line with
  | true => rw [if_pos rfl, readHeader, split_opens mark]
  | false => rfl

theorem readLines_eq (lines : List String) : readLines inComponent (withComponents head before) lines =
    if ∃ line ∈ inSections opens closes inComponent lines, Refused line then none
    else some (withComponents ((outOfSections opens closes inComponent lines).foldl readHeader head)
      (before ++ (inSections opens closes inComponent lines).flatMap taken)) := by
  induction lines generalizing inComponent head before with
  | nil => simp [readLines, inSections, outOfSections]
  | cons line rest ih =>
    cases inComponent with
    | false => rw [readLines_outside, readHeader_withComponents, ih, outOfSections_opens, inSections]
    | true =>
      rw [readLines_inside, inSections, outOfSections]
      cases mark : closes line with
      | true => exact ih
      | false =>
        by_cases refused : Refused line
        · simp [refused]
        · have later := @ih head true (before ++ taken line)
          simpa [refused, withComponents] using later

theorem parse_refused (refused : ∃ line ∈ componentLines content, Refused line) :
    parseSHETFAndStore content table = (-1, table) := by
  have read : readLines false (withComponents {} []) (vecLine content) = none := by
    rw [readLines_vecLine, readLines_eq]
    exact if_pos refused
  unfold parseSHETFAndStore
  change readLines false {} (vecLine content) = none at read
  rw [read]

theorem parse_passed (passed : ¬ ∃ line ∈ componentLines content, Refused line) :
    parseSHETFAndStore content table =
      (0, addETFInfo (withComponents (header content) ((componentLines content).flatMap taken)) table) := by
  have read : readLines false (withComponents {} []) (vecLine content) =
      some (withComponents (header content) ((componentLines content).flatMap taken)) := by
    rw [readLines_vecLine, readLines_eq]
    exact if_neg passed
  unfold parseSHETFAndStore
  change readLines false {} (vecLine content) = _ at read
  rw [read]

theorem flatMap_taken (seven : ∀ line ∈ lines, SevenFields line) : lines.flatMap taken = lines.map componentOf := by
  rw [← List.flatMap_pure_eq_map]
  apply List.flatMap_congr
  intro line among
  exact taken_seven (seven line among)

theorem sound_iff : Sound content ↔
    (¬ ∃ line ∈ componentLines content, Refused line) ∧
      (∀ line ∈ componentLines content, SevenFields line) ∧ validateETFInfo (fund content) = 0 := by
  constructor
  · intro sound
    refine ⟨?_, fun line among => (sound.components line among).1, sound.header⟩
    intro ⟨line, among, refused⟩
    exact refused.2 (sound.components line among).2
  · intro ⟨passed, seven, valid⟩
    refine ⟨fun line among => ⟨seven line among, ?_⟩, valid⟩
    by_contra rejected
    exact passed ⟨line, among, seven line among, rejected⟩

theorem parse_sound (sound : Sound content) :
    parseSHETFAndStore content table =
      (0, Function.update table (fund content).securityID (some (fund content))) := by
  have ⟨passed, seven, valid⟩ := sound_iff.mp sound
  rw [parse_passed passed, flatMap_taken seven]
  change (0, addETFInfo (fund content) table) = _
  rw [addETFInfo, if_neg (not_not_intro valid)]

theorem parse_lawful_iff (content : String) (table : EtfTable) : Lawful content table ↔ Told content := by
  by_cases refused : ∃ line ∈ componentLines content, Refused line
  · have unsound : ¬ Sound content := fun sound => (sound_iff.mp sound).1 refused
    have answer : parseSHETFAndStore content table = _ := parse_refused refused
    refine iff_of_true ⟨?_, fun sound => absurd sound unsound, fun _ => by rw [answer]⟩ (.inl refused)
    rw [answer]
    exact iff_of_false (by simp) unsound
  · constructor
    · intro lawful
      have sound := lawful.code.mp (by rw [parse_passed refused])
      exact .inr (sound_iff.mp sound).2
    · intro told
      have sound : Sound content := sound_iff.mpr ⟨refused, told.resolve_left refused⟩
      have answer : parseSHETFAndStore content table = _ := parse_sound sound
      refine ⟨?_, fun _ => by rw [answer], fun unsound => absurd sound unsound⟩
      rw [answer]
      exact iff_of_true rfl sound

/-- A line of three fields is dropped, and the fund is stored without it. -/
theorem short_line_dropped :
    ¬ Lawful "Fundid1=510050\nCreationRedemptionUnit=900000\nRecordnum=1\nTAGTAG\n600000|PFYH|100|0|0|0|\n600016|MSYH|100\nENDENDEND\n"
      fun _ => none := by
  intro lawful
  have sound := lawful.code.mp (by rw [parse_passed (by decide +kernel)])
  have seven := (sound.components "600016|MSYH|100" (by decide +kernel)).1
  revert seven
  decide +kernel

/-! ### The table after any files -/

/-- A fund under its own id that passes its check, as do its components. -/
structure Checked (key : String) (etf : ShEtf) : Prop where
  own : etf.securityID = key
  valid : validateETFInfo etf = 0
  components : ∀ cpn ∈ etf.components, validateETFComponentInfo cpn = 0

def AllChecked (table : EtfTable) : Prop := ∀ key etf, table key = some etf → Checked key etf

theorem taken_accepted {cpn : ShEtfComponent} (passed : ¬ Refused line) (among : cpn ∈ taken line) :
    validateETFComponentInfo cpn = 0 := by
  by_cases seven : SevenFields line
  · rw [taken_seven seven, List.mem_singleton] at among
    subst among
    by_contra rejected
    exact passed ⟨seven, rejected⟩
  · simp [taken_other seven] at among

theorem addETFInfo_checked (checked : AllChecked table)
    (accepted : ∀ cpn ∈ etf.components, validateETFComponentInfo cpn = 0) : AllChecked (addETFInfo etf table) := by
  unfold addETFInfo
  split
  next => exact checked
  next valid =>
    intro key other stored
    by_cases own : key = etf.securityID
    · subst own
      rw [Function.update_self] at stored
      cases stored
      exact ⟨rfl, not_not.mp valid, accepted⟩
    · rw [Function.update_of_ne own] at stored
      exact checked key other stored

theorem parse_checked (checked : AllChecked table) : AllChecked (parseSHETFAndStore content table).2 := by
  by_cases refused : ∃ line ∈ componentLines content, Refused line
  · rw [parse_refused refused]
    exact checked
  · rw [parse_passed refused]
    apply addETFInfo_checked checked
    intro cpn among
    obtain ⟨line, inside, took⟩ := List.mem_flatMap.mp among
    exact taken_accepted (fun turnedDown => refused ⟨line, inside, turnedDown⟩) took

def filesRead (contents : List String) : EtfTable :=
  contents.foldl (fun table content => (parseSHETFAndStore content table).2) fun _ => none

theorem filesRead_checked (contents : List String) : AllChecked (filesRead contents) := by
  apply (Run.of_foldl _ _ contents).invariant
  · intro before content after checked taken
    subst taken
    exact parse_checked checked
  · intro key etf stored
    cases stored

/-- No fund that orders come to know has a unit of zero. -/
theorem unit_of_filesRead {contents : List String} {stockID : String} {etf : SzEtf}
    (known : (filesRead contents stockID).map ShEtf.toSzEtf = some etf) : etf.creationRedemptionUnit ≠ 0 := by
  obtain ⟨stored, found, rfl⟩ := Option.map_eq_some_iff.mp known
  have valid := (filesRead_checked contents stockID stored found).valid
  intro zero
  change stored.creationRedemptionUnit = 0 at zero
  simp [validateETFInfo, zero] at valid

end Simutgw.Proofs.EtfFile
