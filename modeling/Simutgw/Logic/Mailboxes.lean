import Simutgw.Logic.Runs
import Simutgw.Logic.Streams

/-! A machine for each key, and events that each concern one of the keys. However the
events of different keys come between each other, every machine does what it does alone.
The machines here are receivers that empty what they keep when it has grown past a limit,
or when the sender is gone. -/

namespace Simutgw.Logic

section Keyed

variable {Key State Input : Type*} [DecidableEq Key]

/-- The machine of the event's key takes a step. -/
def Keyed (step : Steps State Input) : Steps (Key → State) (Key × Input) := fun before event after =>
  ∃ next, step (before event.1) event.2 next ∧ after = Function.update before event.1 next

/-- The events of a key, in their order. -/
def inputsOf (key : Key) (events : List (Key × Input)) : List Input := (events.filter (·.1 = key)).map Prod.snd

theorem inputsOf_own (key : Key) (input : Input) (events : List (Key × Input)) :
    inputsOf key ((key, input) :: events) = input :: inputsOf key events := by
  simp [inputsOf]

theorem inputsOf_other {key other : Key} (differs : other ≠ key) (input : Input) (events : List (Key × Input)) :
    inputsOf key ((other, input) :: events) = inputsOf key events := by
  simp [inputsOf, differs]

/-- A run of all the machines is a run of each on its own events. -/
theorem run_keyed_iff {step : Steps State Input} {first last : Key → State} {events : List (Key × Input)} :
    Run (Keyed step) first events last ↔ ∀ key, Run step (first key) (inputsOf key events) (last key) := by
  induction events generalizing first with
  | nil =>
    constructor
    · intro run key
      cases run
      exact .nil _
    · intro runs
      have same : first = last := by
        funext key
        have ended : Run step (first key) [] (last key) := runs key
        generalize last key = after at ended
        cases ended
        rfl
      rw [same]
      exact .nil _
  | cons event events ih =>
    obtain ⟨own, input⟩ := event
    constructor
    · intro run key
      cases run with
      | cons taken rest =>
        obtain ⟨next, stepped, rfl⟩ := taken
        have later := ih.mp rest key
        by_cases same : own = key
        · subst same
          rw [Function.update_self] at later
          rw [inputsOf_own]
          exact .cons stepped later
        · rw [Function.update_of_ne (Ne.symm same)] at later
          rw [inputsOf_other same]
          exact later
    · intro runs
      have here := runs own
      rw [inputsOf_own] at here
      cases here with
      | @cons _ next _ _ _ stepped rest =>
        refine .cons ⟨next, stepped, rfl⟩ (ih.mpr ?_)
        intro key
        by_cases same : own = key
        · subst same
          rw [Function.update_self]
          exact rest
        · have other := runs key
          rw [inputsOf_other same] at other
          rw [Function.update_of_ne (Ne.symm same)]
          exact other

end Keyed

section Limited

variable {Symbol Kept : Type*}

/-- What is kept for a sender, if anything was received from it, and what was handed on. -/
structure Mailbox (Symbol Kept : Type*) where
  kept : Option (List Symbol) := none
  handed : List Kept := []

/-- What a receiver takes off a buffer, and what it leaves of it. -/
abbrev Cuts (Symbol Kept : Type*) := List Symbol → List Kept × List Symbol → Prop

/-- A chunk is received behind what is kept, and what is left is dropped past the limit.
Nothing is kept when the sender is gone. -/
def Limited (cuts : Cuts Symbol Kept) (limit : Nat) : Steps (Mailbox Symbol Kept) (Option (List Symbol))
  | before, some chunk, after => ∃ packs left, cuts (before.kept.getD [] ++ chunk) (packs, left) ∧
    after = ⟨some (if left.length > limit then [] else left), before.handed ++ packs⟩
  | before, none, after => after = ⟨none, before.handed⟩

/-- The receiver takes whole pieces off and leaves a torn one. -/
def TakesWhole (cuts : Cuts Symbol Kept) (pieces : List (List Symbol × Kept)) : Prop :=
  ∀ first second rest, pieces = first ++ (second ++ rest) → ∀ tail, Torn (rest.map Prod.fst) tail →
    cuts ((second.map Prod.fst).flatten ++ tail) (second.map Prod.snd, tail)

/-- The pieces of which all has come in. -/
def Whole (pieces : List (List Symbol × Kept)) (chunks : List (List Symbol)) (whole : List (List Symbol × Kept)) : Prop :=
  ∃ rest tail, pieces = whole ++ rest ∧ chunks.flatten = (whole.map Prod.fst).flatten ++ tail ∧
    Torn (rest.map Prod.fst) tail

/-- What comes in from one sender after another, with their going in between. -/
def sessions : List (List (List Symbol)) → List (Option (List Symbol))
  | [] => []
  | [chunks] => chunks.map some
  | chunks :: later :: others => chunks.map some ++ none :: sessions (later :: others)

variable {cuts : Cuts Symbol Kept} {limit : Nat} {pieces : List (List Symbol × Kept)}

/-- The chunks of a front of the stream, behind what has been received of it. The limit
is not reached by pieces that exceed it by no more than one. -/
theorem limited_continues (takes : TakesWhole cuts pieces) (short : ∀ piece ∈ pieces, piece.1.length ≤ limit + 1)
    {chunks : List (List Symbol)} {first left : List (List Symbol × Kept)} {back : List Symbol}
    (mailbox : Mailbox Symbol Kept) (split : pieces = first ++ left)
    (rest : (left.map Prod.fst).flatten = mailbox.kept.getD [] ++ chunks.flatten ++ back)
    (torn : Torn (left.map Prod.fst) (mailbox.kept.getD [])) :
    ∃ second last, Run (Limited cuts limit) mailbox (chunks.map some) last ∧
      last.handed = mailbox.handed ++ second.map Prod.snd ∧
      ∃ others, left = second ++ others ∧
        mailbox.kept.getD [] ++ chunks.flatten = (second.map Prod.fst).flatten ++ last.kept.getD [] ∧
        Torn (others.map Prod.fst) (last.kept.getD []) := by
  induction chunks generalizing first left mailbox with
  | nil =>
    refine ⟨[], mailbox, .nil _, (List.append_nil _).symm, left, rfl, ?_, torn⟩
    rw [List.flatten_nil, List.append_nil]
    rfl
  | cons chunk chunks ih =>
    rw [List.flatten_cons] at rest
    have front : (left.map Prod.fst).flatten = mailbox.kept.getD [] ++ chunk ++ (chunks.flatten ++ back) := by
      rw [rest]
      simp only [List.append_assoc]
    obtain ⟨whole, remaining, tail, parts, taken, torn⟩ := front_of_pieces front
    obtain ⟨second, others, rfl, rfl, rfl⟩ := List.map_eq_append_iff.mp parts
    have below : ¬ tail.length > limit := by
      rcases torn with rfl | ⟨text, more, begins, -, less⟩
      · exact Nat.not_lt_zero _
      · have member : text ∈ pieces.map Prod.fst := by
          rw [split, List.map_append, List.map_append, begins]
          simp
        obtain ⟨piece, inside, rfl⟩ := List.mem_map.mp member
        have bound := short piece inside
        omega
    let next : Mailbox Symbol Kept := ⟨some tail, mailbox.handed ++ second.map Prod.snd⟩
    have step : Limited cuts limit mailbox (some chunk) next := by
      refine ⟨second.map Prod.snd, tail, ?_, by rw [if_neg below]⟩
      rw [taken]
      exact takes first second others split tail torn
    have behind : pieces = (first ++ second) ++ others := by rw [split, List.append_assoc]
    obtain ⟨third, last, run, handed, final, ends, stream, stays⟩ := ih next behind (by
        rw [List.map_append, List.flatten_append, taken, List.append_assoc] at front
        rw [List.append_cancel_left front]
        exact (List.append_assoc _ _ _).symm) torn
    refine ⟨second ++ third, last, .cons step run, ?_, final, by rw [ends, List.append_assoc], ?_, stays⟩
    · rw [handed, List.map_append, List.append_assoc]
    · have later : tail ++ chunks.flatten = (third.map Prod.fst).flatten ++ last.kept.getD [] := stream
      rw [List.flatten_cons, ← List.append_assoc, taken, List.append_assoc, later, List.map_append, List.flatten_append,
        List.append_assoc]

theorem limited_session (takes : TakesWhole cuts pieces) (short : ∀ piece ∈ pieces, piece.1.length ≤ limit + 1)
    {chunks : List (List Symbol)} (front : chunks.flatten <+: (pieces.map Prod.fst).flatten) (handed : List Kept)
    {kept : Option (List Symbol)} (fresh : kept.getD [] = []) :
    ∃ whole last, Whole pieces chunks whole ∧ Run (Limited cuts limit) ⟨kept, handed⟩ (chunks.map some) last ∧
      last.handed = handed ++ whole.map Prod.snd := by
  obtain ⟨back, stream⟩ := front
  have all : pieces = [] ++ pieces := rfl
  have begins : (pieces.map Prod.fst).flatten = kept.getD [] ++ chunks.flatten ++ back := by
    rw [fresh, List.nil_append]
    exact stream.symm
  obtain ⟨whole, last, run, ends, rest, parts, taken, torn⟩ :=
    limited_continues takes short ⟨kept, handed⟩ all begins (.inl fresh)
  simp only [fresh, List.nil_append] at taken
  exact ⟨whole, last, ⟨rest, _, parts, taken, torn⟩, run, ends⟩

theorem limited_sessions {parts : List (List (List Symbol × Kept) × List (List Symbol))}
    (takes : ∀ part ∈ parts, TakesWhole cuts part.1) (short : ∀ part ∈ parts, ∀ piece ∈ part.1, piece.1.length ≤ limit + 1)
    (front : ∀ part ∈ parts, part.2.flatten <+: (part.1.map Prod.fst).flatten) (handed : List Kept)
    {kept : Option (List Symbol)} (fresh : kept.getD [] = []) :
    ∃ wholes last, List.Forall₂ (fun part whole => Whole part.1 part.2 whole) parts wholes ∧
      Run (Limited cuts limit) ⟨kept, handed⟩ (sessions (parts.map Prod.snd)) last ∧
      last.handed = handed ++ wholes.flatten.map Prod.snd := by
  induction parts generalizing handed kept with
  | nil => exact ⟨[], _, .nil, .nil _, (List.append_nil _).symm⟩
  | cons part parts ih =>
    obtain ⟨whole, next, arrived, run, ends⟩ := limited_session (takes part List.mem_cons_self)
      (short part List.mem_cons_self) (front part List.mem_cons_self) handed fresh
    cases parts with
    | nil =>
      refine ⟨[whole], next, .cons arrived .nil, run, ?_⟩
      rw [ends, List.flatten_cons, List.flatten_nil, List.append_nil]
    | cons later parts =>
      obtain ⟨wholes, last, each, rest, final⟩ := ih (fun other member => takes other (List.mem_cons_of_mem _ member))
        (fun other member => short other (List.mem_cons_of_mem _ member))
        (fun other member => front other (List.mem_cons_of_mem _ member)) next.handed
        (rfl : (none : Option (List Symbol)).getD [] = [])
      have gone : Limited cuts limit next none ⟨none, next.handed⟩ := rfl
      refine ⟨whole :: wholes, last, .cons arrived each, run.append (.cons gone rest), ?_⟩
      rw [final, ends, List.flatten_cons, List.map_append, List.append_assoc]

theorem limited_unique (single : ∀ buffer one two, cuts buffer one → cuts buffer two → one = two)
    {first one two : Mailbox Symbol Kept} {inputs : List (Option (List Symbol))}
    (run : Run (Limited cuts limit) first inputs one) (other : Run (Limited cuts limit) first inputs two) : one = two := by
  induction run with
  | nil =>
    cases other
    rfl
  | @cons first next last input inputs taken _ ih =>
    cases other with
    | cons again rest =>
      cases input with
      | none =>
        cases taken
        cases again
        exact ih rest
      | some chunk =>
        obtain ⟨packs, left, took, rfl⟩ := taken
        obtain ⟨more, kept, retook, rfl⟩ := again
        cases single _ _ _ took retook
        exact ih rest

/-- However what comes in from all keys comes between each other, of each sender the
pieces are handed on of which all has come in, in their order. -/
theorem keyed_delivered {Key : Type*} [DecidableEq Key]
    {parts : Key → List (List (List Symbol × Kept) × List (List Symbol))}
    (takes : ∀ key, ∀ part ∈ parts key, TakesWhole cuts part.1)
    (short : ∀ key, ∀ part ∈ parts key, ∀ piece ∈ part.1, piece.1.length ≤ limit + 1)
    (single : ∀ buffer one two, cuts buffer one → cuts buffer two → one = two)
    (front : ∀ key, ∀ part ∈ parts key, part.2.flatten <+: (part.1.map Prod.fst).flatten)
    {events : List (Key × Option (List Symbol))}
    (arrives : ∀ key, inputsOf key events = sessions ((parts key).map Prod.snd)) :
    (∃ last, Run (Keyed (Limited cuts limit)) (fun _ => {}) events last) ∧
      ∀ last, Run (Keyed (Limited cuts limit)) (fun _ => {}) events last → ∀ key, ∃ wholes,
        List.Forall₂ (fun part whole => Whole part.1 part.2 whole) (parts key) wholes ∧
          (last key).handed = wholes.flatten.map Prod.snd := by
  have alone key := limited_sessions (takes key) (short key) (front key) []
    (rfl : (none : Option (List Symbol)).getD [] = [])
  choose wholes ends each run handed using alone
  refine ⟨⟨ends, run_keyed_iff.mpr (fun key => arrives key ▸ run key)⟩, ?_⟩
  intro last runs key
  have own := run_keyed_iff.mp runs key
  rw [arrives key] at own
  have same := limited_unique single own (run key)
  refine ⟨wholes key, each key, ?_⟩
  rw [same, handed key, List.nil_append]

end Limited

end Simutgw.Logic
