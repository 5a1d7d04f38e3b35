import Mathlib.Data.List.Induction
import Mathlib.Data.List.Perm.Basic
import Simutgw.SHSettle

/-! What a settlement run leaves in its file. Because the file is closed behind the
first seat and is never emptied, a run writes all its rows only for one seat, and a
second run writes them once more. -/

namespace Simutgw.SHSettle
open Logic TgwDBFOperHelper

/-- The records a file holds; none where there is no file. -/
def records (files : Files) (fileName : String) : List Record := (files fileName).getD []

/-- The rows the query of the run selects. -/
def selected (settlement : Settlement) (database : String → Option (List Row)) (day : Day) : List Row :=
  (database (settlement.query day)).getD []

/-- A run that returns zero has added each selected row's record once, and another
run on the same data changes nothing of that. -/
def Settles (settlement : Settlement) (database : String → Option (List Row)) (library : DbfLibrary) (day : Day)
    (files : Files) : Prop :=
  let first := gen settlement database library day files
  let second := gen settlement database library day first.2
  let fileName := settlement.fileName day
  first.1 = 0 →
    (∃ added, (selected settlement database day).mapM settlement.value = some added ∧
      (records first.2 fileName).Perm (records files fileName ++ added)) ∧
      (records second.2 fileName).Perm (records first.2 fileName)

/-- The selected rows that have a seat. -/
def seated (keyColumn : String) (rows : List Row) : List Row := rows.filter fun row => (row keyColumn).isSome

/-- All rows that have a seat have this one, the file can be made where there is none
and opened, and each row's record fits. -/
structure Writable (settlement : Settlement) (library : DbfLibrary) (day : Day) (files : Files) (seat : String)
    (rows : List Row) : Prop where
  oneSeat : ∀ row ∈ seated settlement.keyColumn rows, row settlement.keyColumn = some seat
  made : files (settlement.fileName day) = none → library.creates (settlement.fileName day) = true
  opened : library.opens (settlement.fileName day) = true
  fits : ∀ row ∈ seated settlement.keyColumn rows, ∃ record, settlement.value row = some record ∧
    library.takes record = true

theorem fileName_nonempty (settlement : Settlement) (day : Day) : (settlement.fileName day).isEmpty = false := by
  rw [← Bool.not_eq_true, String.isEmpty_iff, ← String.toList_inj]
  simp [Settlement.fileName]

theorem mem_pushSeat {seats : List (String × List Row)} {key other : String} {row : Row} :
    other ∈ (pushSeat seats key row).map Prod.fst ↔ other = key ∨ other ∈ seats.map Prod.fst := by
  induction seats with
  | nil => simp [pushSeat]
  | cons seat seats ih =>
    obtain ⟨name, rows⟩ := seat
    simp only [pushSeat]
    split
    next same => simp [same]
    next =>
      split
      next => simp
      next =>
        simp only [List.map_cons, List.mem_cons, ih]
        exact or_left_comm

theorem pushSeat_perm (seats : List (String × List Row)) (key : String) (row : Row) :
    ((pushSeat seats key row).flatMap Prod.snd).Perm (seats.flatMap Prod.snd ++ [row]) := by
  induction seats with
  | nil => simp [pushSeat]
  | cons seat seats ih =>
    obtain ⟨name, rows⟩ := seat
    simp only [pushSeat]
    split
    next =>
      simp only [List.flatMap_cons, List.append_assoc]
      exact List.Perm.append_left rows List.perm_append_comm
    next =>
      split
      next =>
        simp only [List.flatMap_cons]
        exact List.perm_append_comm
      next =>
        simp only [List.flatMap_cons, List.append_assoc]
        exact ih.append_left rows

theorem pushSeat_filled {seats : List (String × List Row)} {key : String} {row : Row}
    (filled : ∀ seat ∈ seats, seat.2 ≠ []) : ∀ seat ∈ pushSeat seats key row, seat.2 ≠ [] := by
  induction seats with
  | nil => simp [pushSeat]
  | cons seat seats ih =>
    obtain ⟨name, rows⟩ := seat
    rw [List.forall_mem_cons] at filled
    simp only [pushSeat]
    split
    next => simpa using filled.2
    next =>
      split
      next => simpa using filled
      next =>
        rw [List.forall_mem_cons]
        exact ⟨filled.1, ih filled.2⟩

theorem readSeats_append (keyColumn : String) (rows : List Row) (row : Row) :
    readSeats keyColumn (rows ++ [row]) =
      match row keyColumn with
      | some key => pushSeat (readSeats keyColumn rows) key row
      | none => readSeats keyColumn rows := by
  rw [readSeats, List.foldl_append]
  rfl

/-- What the reading loop keeps: no seat is empty, and the seats' rows are those that have one. -/
theorem readSeats_spec (keyColumn : String) (rows : List Row) :
    (∀ seat ∈ readSeats keyColumn rows, seat.2 ≠ []) ∧
      ((readSeats keyColumn rows).flatMap Prod.snd).Perm (seated keyColumn rows) ∧
      ∀ key, key ∈ (readSeats keyColumn rows).map Prod.fst ↔ ∃ row ∈ rows, row keyColumn = some key := by
  induction rows using List.reverseRecOn with
  | nil => simp [readSeats, seated]
  | append_singleton rows row ih =>
    obtain ⟨filled, perm, keys⟩ := ih
    rw [readSeats_append]
    cases found : row keyColumn with
    | none =>
      refine ⟨filled, ?_, ?_⟩
      · simpa [seated, found] using perm
      · intro key
        rw [keys key]
        simp [found]
    | some key =>
      refine ⟨pushSeat_filled filled, ?_, ?_⟩
      · refine (pushSeat_perm _ key row).trans ?_
        simpa [seated, found] using perm.append_right [row]
      · intro other
        rw [mem_pushSeat, keys other]
        simp [found, or_and_right, exists_or, or_comm, eq_comm]

theorem mapM_length {rows : List Row} {value : Row → Option Record} {added : List Record}
    (mapped : rows.mapM value = some added) : added.length = rows.length := by
  induction rows generalizing added with
  | nil =>
    cases mapped
    rfl
  | cons row rows ih =>
    simp only [List.mapM_cons, Option.bind_eq_bind, Option.bind_eq_some_iff, Option.pure_def] at mapped
    obtain ⟨record, -, rest, later, whole⟩ := mapped
    cases whole
    simp [ih later]

/-- The rows a writer takes. -/
def Fits (library : DbfLibrary) (value : Row → Option Record) (rows : List Row) : Prop :=
  ∀ row ∈ rows, ∃ record, value row = some record ∧ library.takes record = true

theorem append_open {library : DbfLibrary} {writer : TgwDBFOperHelper} {record : Record} (isOpen : writer.isOpen = true)
    (takes : library.takes record = true) : writer.append library record = (0, writer.add record) := by
  simp [append, isOpen, takes]

theorem appendRows_fits {library : DbfLibrary} {value : Row → Option Record} {writer : TgwDBFOperHelper}
    {rows : List Row} (isOpen : writer.isOpen = true) (fits : Fits library value rows) :
    ∃ added after, rows.mapM value = some added ∧ appendRows library value writer rows = (0, after) ∧
      records after.files writer.filePath = records writer.files writer.filePath ++ added := by
  induction rows generalizing writer with
  | nil => exact ⟨[], writer, rfl, rfl, (List.append_nil _).symm⟩
  | cons row rows ih =>
    obtain ⟨⟨record, converted, takes⟩, rest⟩ := List.forall_mem_cons.mp fits
    have stillOpen : (writer.add record).isOpen = true := isOpen
    obtain ⟨added, after, mapped, appended, holds⟩ := ih stillOpen rest
    refine ⟨record :: added, after, ?_, ?_, ?_⟩
    · simp [List.mapM_cons, converted, mapped]
    · simp [appendRows, converted, append_open isOpen takes, appended]
    · simp only [records, add, Function.update_self, Option.getD_some] at holds ⊢
      rw [holds, List.append_assoc, List.singleton_append]

theorem appendRows_fits_of_zero {library : DbfLibrary} {value : Row → Option Record} {writer : TgwDBFOperHelper}
    {rows : List Row} (zero : (appendRows library value writer rows).1 = 0) : Fits library value rows := by
  induction rows generalizing writer with
  | nil =>
    intro row found
    cases found
  | cons row rows ih =>
    rw [appendRows] at zero
    split at zero
    next => exact absurd zero (by simp)
    next record converted =>
      simp only at zero
      split at zero
      next => exact absurd zero (by simp)
      next accepted =>
        rw [Fits, List.forall_mem_cons]
        refine ⟨⟨record, converted, ?_⟩, ih zero⟩
        rw [append] at accepted
        cases takes : library.takes record with
        | true => rfl
        | false =>
          cases isOpen : writer.isOpen <;> simp [takes, isOpen] at accepted

theorem appendRows_closed {library : DbfLibrary} {value : Row → Option Record} {writer : TgwDBFOperHelper}
    {rows : List Row} (closed : writer.isOpen = false) (some : rows ≠ []) :
    (appendRows library value writer rows).1 ≠ 0 := by
  cases rows with
  | nil => exact absurd rfl some
  | cons row rows =>
    rw [appendRows]
    split
    next => simp
    next => simp [append, closed]

/-- The file is closed behind the first seat, and each seat has a row. -/
theorem writeSeats_two {library : DbfLibrary} {value : Row → Option Record} {writer : TgwDBFOperHelper}
    {first second : String × List Row} {rest : List (String × List Row)} (filled : second.2 ≠ []) :
    (writeSeats library value writer (first :: second :: rest)).1 ≠ 0 := by
  rw [writeSeats]
  simp only
  split
  next => simp
  next =>
    rw [writeSeats]
    simp only
    rw [if_pos (appendRows_closed rfl filled)]
    simp

theorem writeSeats_one {library : DbfLibrary} {value : Row → Option Record} {writer : TgwDBFOperHelper}
    {rows : List Row} (seat : String) (isOpen : writer.isOpen = true) (fits : Fits library value rows) :
    ∃ added after, rows.mapM value = some added ∧ writeSeats library value writer [(seat, rows)] = (0, after) ∧
      records after.files writer.filePath = records writer.files writer.filePath ++ added := by
  obtain ⟨added, after, mapped, appended, holds⟩ := appendRows_fits isOpen fits
  refine ⟨added, after.close, mapped, ?_, holds⟩
  simp [writeSeats, appended]

theorem openFile_opens {library : DbfLibrary} {files : Files} {fileName : String} (named : fileName.isEmpty = false)
    (made : files fileName = none → library.creates fileName = true) (opened : library.opens fileName = true) :
    ∃ writer, openFile library { files } fileName = (0, writer) ∧ writer.isOpen = true ∧
      writer.filePath = fileName ∧ records writer.files fileName = records files fileName := by
  cases found : files fileName with
  | none =>
    refine ⟨⟨Function.update files fileName (some []), fileName, true⟩, ?_, rfl, rfl, ?_⟩
    · simp [openFile, TgwDBFOperHelper.create, TgwDBFOperHelper.open, found, named, made found, opened]
    · simp [records, found]
  | some held =>
    refine ⟨⟨files, fileName, true⟩, ?_, rfl, rfl, rfl⟩
    simp [openFile, TgwDBFOperHelper.open, found, named, opened]

theorem openFile_of_zero {library : DbfLibrary} {files : Files} {fileName : String}
    (zero : (openFile library { files } fileName).1 = 0) :
    (files fileName = none → library.creates fileName = true) ∧ library.opens fileName = true := by
  cases found : files fileName with
  | none =>
    cases creates : library.creates fileName with
    | false => simp [openFile, TgwDBFOperHelper.create, found, creates] at zero
    | true =>
      cases opens : library.opens fileName with
      | true => exact ⟨fun _ => rfl, rfl⟩
      | false =>
        cases named : fileName.isEmpty <;>
          simp [openFile, TgwDBFOperHelper.create, TgwDBFOperHelper.open, found, creates, opens, named] at zero
  | some held =>
    cases opens : library.opens fileName with
    | true => exact ⟨by simp, rfl⟩
    | false => simp [openFile, TgwDBFOperHelper.open, found, opens] at zero

theorem readSeats_single {keyColumn : String} {rows : List Row} (seat : String)
    (oneSeat : ∀ row ∈ seated keyColumn rows, row keyColumn = some seat) :
    readSeats keyColumn rows = if seated keyColumn rows = [] then [] else [(seat, seated keyColumn rows)] := by
  induction rows using List.reverseRecOn with
  | nil => rfl
  | append_singleton rows row ih =>
    have split : seated keyColumn (rows ++ [row]) = seated keyColumn rows ++ seated keyColumn [row] := by
      simp [seated]
    have before := ih fun other found => oneSeat other (by rw [split]; exact List.mem_append_left _ found)
    rw [readSeats_append, before, split]
    cases keyed : row keyColumn with
    | none => simp [seated, keyed]
    | some key =>
      have same : key = seat := by
        have found : row ∈ seated keyColumn (rows ++ [row]) := by simp [seated, keyed]
        exact Option.some.inj (keyed.symm.trans (oneSeat row found))
      subst same
      have last : seated keyColumn [row] = [row] := by simp [seated, keyed]
      rw [last]
      by_cases none : seated keyColumn rows = []
      · simp [none, pushSeat]
      · simp [none, pushSeat]

/-- A run that can write adds the records of the rows with a seat at its file's end. -/
theorem gen_adds {settlement : Settlement} {database : String → Option (List Row)} {library : DbfLibrary} {day : Day}
    {files : Files} {seat : String} {rows : List Row} (found : database (settlement.query day) = some rows)
    (any : seated settlement.keyColumn rows ≠ []) (writable : Writable settlement library day files seat rows) :
    ∃ added, added ≠ [] ∧ (gen settlement database library day files).1 = 0 ∧
      records (gen settlement database library day files).2 (settlement.fileName day) =
        records files (settlement.fileName day) ++ added := by
  obtain ⟨writer, opened, isOpen, filePath, holds⟩ :=
    openFile_opens (fileName_nonempty settlement day) writable.made writable.opened
  obtain ⟨added, after, mapped, written, more⟩ :=
    writeSeats_one seat isOpen (show Fits library settlement.value (seated settlement.keyColumn rows) from writable.fits)
  have ran : gen settlement database library day files = (0, after.files) := by
    simp only [gen, found, readSeats_single seat writable.oneSeat, if_neg any, opened, written]
    rfl
  refine ⟨added, ?_, by rw [ran], ?_⟩
  · rintro rfl
    exact any (List.length_eq_zero_iff.mp (mapM_length mapped).symm)
  · rw [ran]
    rw [filePath, holds] at more
    exact more

theorem writable_of_zero {settlement : Settlement} {database : String → Option (List Row)} {library : DbfLibrary}
    {day : Day} {files : Files} {rows : List Row} (found : database (settlement.query day) = some rows)
    (zero : (gen settlement database library day files).1 = 0) :
    seated settlement.keyColumn rows = [] ∨ ∃ seat, Writable settlement library day files seat rows := by
  obtain ⟨filled, perm, keys⟩ := readSeats_spec settlement.keyColumn rows
  cases seats : readSeats settlement.keyColumn rows with
  | nil =>
    rw [seats] at perm
    exact .inl (List.nil_perm.mp perm)
  | cons first rest =>
    rw [seats] at filled perm keys
    simp only [gen, found, seats] at zero
    split at zero
    next => exact absurd zero (by simp)
    next opened =>
      obtain ⟨made, opens⟩ := openFile_of_zero (Decidable.not_not.mp opened)
      cases rest with
      | cons second rest =>
        have last := filled second (by simp)
        exact absurd zero (writeSeats_two last)
      | nil =>
        obtain ⟨seat, held⟩ := first
        refine .inr ⟨seat, ?_, made, opens, ?_⟩
        · intro row among
          obtain ⟨key, keyed⟩ := Option.isSome_iff_exists.mp (List.mem_filter.mp among).2
          have named := (keys key).mpr ⟨row, (List.mem_filter.mp among).1, keyed⟩
          simp only [List.map_cons, List.map_nil, List.mem_singleton] at named
          rw [keyed, named]
        · have fits : Fits library settlement.value held := by
            simp only [writeSeats] at zero
            split at zero
            next => exact absurd zero (by simp)
            next appended => exact appendRows_fits_of_zero (Decidable.not_not.mp appended)
          intro row among
          exact fits row (by simpa using perm.mem_iff.mpr among)

theorem gen_unseated {settlement : Settlement} {database : String → Option (List Row)} {day : Day} {rows : List Row}
    (library : DbfLibrary) (files : Files) (found : database (settlement.query day) = some rows)
    (none : seated settlement.keyColumn rows = []) : gen settlement database library day files = (0, files) := by
  have seats : readSeats settlement.keyColumn rows = [] := by
    rw [readSeats_single "" (by simp [none]), if_pos none]
  simp only [gen, found, seats]

/-- A run that writes does not settle: what it adds, the next run adds again. -/
theorem writable_repeats {settlement : Settlement} {database : String → Option (List Row)} {library : DbfLibrary}
    {day : Day} {files : Files} {seat : String} {rows : List Row}
    (found : database (settlement.query day) = some rows) (any : seated settlement.keyColumn rows ≠ [])
    (writable : Writable settlement library day files seat rows) :
    ¬ Settles settlement database library day files := by
  intro settles
  obtain ⟨added, some, zero, first⟩ := gen_adds found any writable
  have again : Writable settlement library day (gen settlement database library day files).2 seat rows := by
    refine ⟨writable.oneSeat, ?_, writable.opened, writable.fits⟩
    intro missing
    simp only [records, missing, Option.getD_none] at first
    exact absurd (List.append_eq_nil_iff.mp first.symm).2 some
  obtain ⟨more, some', -, second⟩ := gen_adds found any again
  have lengths := (settles zero).2.length_eq
  rw [second, List.length_append] at lengths
  exact some' (List.length_eq_zero_iff.mp (by omega))

theorem settles_iff (settlement : Settlement) (database : String → Option (List Row)) (library : DbfLibrary)
    (day : Day) (files : Files) :
    Settles settlement database library day files ↔
      selected settlement database day = [] ∨
        (seated settlement.keyColumn (selected settlement database day) ≠ [] ∧
          ∀ seat, ¬ Writable settlement library day files seat (selected settlement database day)) := by
  unfold selected
  cases found : database (settlement.query day) with
  | none =>
    refine iff_of_true ?_ (.inl rfl)
    intro zero
    simp [gen, found] at zero
  | some rows =>
    rw [Option.getD_some]
    constructor
    · intro settles
      by_cases nothing : rows = []
      · exact .inl nothing
      · right
        by_cases any : seated settlement.keyColumn rows = []
        · exfalso
          have ran := gen_unseated library files found any
          obtain ⟨⟨added, mapped, perm⟩, -⟩ := settles (by rw [ran])
          rw [selected, found, Option.getD_some] at mapped
          rw [ran] at perm
          have lengths := perm.length_eq
          simp only [List.length_append, mapM_length mapped] at lengths
          exact nothing (List.length_eq_zero_iff.mp (by omega))
        · exact ⟨any, fun seat writable => writable_repeats found any writable settles⟩
    · rintro (nothing | ⟨any, stuck⟩) zero
      · subst nothing
        have ran (files : Files) : gen settlement database library day files = (0, files) :=
        gen_unseated library files found rfl
        refine ⟨⟨[], ?_, ?_⟩, ?_⟩
        · rw [selected, found]
          rfl
        · rw [ran, List.append_nil]
        · rw [ran, ran]
      · cases writable_of_zero found zero with
        | inl none => exact absurd none any
        | inr writable =>
          obtain ⟨seat, writable⟩ := writable
          exact absurd writable (stuck seat)

/-- Both files settle only where nothing is selected or the run is bound to fail. -/
theorem settlement_settles_iff (settleDate : String → Option String) (database : String → Option (List Row))
    (library : DbfLibrary) (day : Day) (files : Files) :
    (Settles gh database library day files ↔
      selected gh database day = [] ∨ (seated "security_seat" (selected gh database day) ≠ [] ∧
        ∀ seat, ¬ Writable gh library day files seat (selected gh database day))) ∧
    (Settles (bc1 settleDate) database library day files ↔
      selected (bc1 settleDate) database day = [] ∨
        (seated "security_account" (selected (bc1 settleDate) database day) ≠ [] ∧
          ∀ account,
            ¬ Writable (bc1 settleDate) library day files account (selected (bc1 settleDate) database day))) :=
  ⟨settles_iff gh database library day files, settles_iff (bc1 settleDate) database library day files⟩

/-- A match of the day, at one seat. -/
def sampleMatch : Row := fun column =>
  if column = "security_seat" then some "20001" else if column = "side" then some "1" else none

def sampleDay : Day where
  settleGroupName := ""
  filePath := "/settle"
  now := "20170413"

/-- A library that makes and opens every file and takes every record. -/
def willing : DbfLibrary where
  creates := fun _ => true
  opens := fun _ => true
  takes := fun _ => true

/-- One match at one seat is in the file twice after the second run. -/
theorem second_run_duplicates : ¬ Settles gh (fun _ => some [sampleMatch]) willing sampleDay (fun _ => none) := by
  obtain ⟨record, converts⟩ : ∃ record, dbfValueGh sampleMatch = some record := ⟨_, rfl⟩
  have writable : Writable gh willing sampleDay (fun _ => none) "20001" [sampleMatch] := by
    refine ⟨?_, fun _ => rfl, rfl, ?_⟩
    · simp [seated, gh, sampleMatch]
    · intro row among
      have same : row = sampleMatch := List.mem_singleton.mp (List.mem_filter.mp among).1
      exact ⟨record, same ▸ converts, rfl⟩
  exact writable_repeats rfl (by simp [seated, gh, sampleMatch]) writable

end Simutgw.SHSettle
