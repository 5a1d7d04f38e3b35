import Simutgw.PacketAssembler

/-! The receiver of the text protocol returns as long as its scan meets no bad head
behind the fourth position of the buffer and no head without data. A bad head sends
the scan back to the fourth position, wherever it stood. -/

namespace Simutgw.Proofs.PacketScan
open Logic PacketAssembler TgwStringUtil

/-- The marker stands at a position. -/
def Marked (buffer : List UInt8) (place : Nat) : Prop := netpackBeginstring <+: buffer.drop place

instance (buffer : List UInt8) (place : Nat) : Decidable (Marked buffer place) :=
  inferInstanceAs (Decidable (_ <+: _))

/-- What the checks of the head and of the data make of a position. -/
inductive Sight
  | unmarked
  | bad
  | hollow
  | waits
  | broken
  | whole (pack : NetPackage)
deriving DecidableEq

section Sights

variable (sameDay : Int → Bool) (check : Bool)

def sight (buffer : List UInt8) (place : Nat) : Sight :=
  if Marked buffer place then
    match netPackageHeadToLocal sameDay ((buffer.drop place).take netPackageHeadLen) check with
    | none => .bad
    | some head =>
      if head.iDatalen > 0 then
        let body := buffer.drop (place + netPackageHeadLen)
        if body.length < head.iDatalen.toNat then .waits
        else
          let pack : NetPackage := { head, data := body.take head.iDatalen.toNat }
          if checkNetPackCRC pack then .whole pack else .broken
      else .hollow
  else .unmarked

/-- What is left when a packet at a position has been taken out. -/
def without (buffer : List UInt8) (place : Nat) (pack : NetPackage) : List UInt8 :=
  buffer.take place ++ buffer.drop (place + netPackageHeadLen + pack.head.iDatalen.toNat)

/-- The scan moves on from this position. -/
def Passed (buffer : List UInt8) (place : Nat) : Prop :=
  sight sameDay check buffer place = .unmarked ∨ sight sameDay check buffer place = .broken ∨
    (sight sameDay check buffer place = .bad ∧ place < 4)

/-- The scan starts and passes every position before this one. -/
structure Comes (trim : Bool) (buffer : List UInt8) (place : Nat) : Prop where
  starts : findBegin buffer < buffer.length
  untrimmed : trim → findBegin buffer = 0
  inside : findBegin buffer ≤ place
  passed : ∀ earlier, findBegin buffer ≤ earlier → earlier < place → Passed sameDay check buffer earlier

/-- The scan comes to no bad head from the fourth position on, and to none without
data unless it is too near to the end for another head; nor does it in what is left
when the packet it comes to is taken out. -/
inductive Clean (trim : Bool) : List UInt8 → Prop
  | intro {buffer : List UInt8}
      (turns : ∀ place, Comes sameDay check trim buffer place → place + netPackageHeadLen ≤ buffer.length →
        sight sameDay check buffer place = .bad → place < 4)
      (fills : ∀ place, Comes sameDay check trim buffer place → place + netPackageHeadLen ≤ buffer.length →
        sight sameDay check buffer place = .hollow →
        place + netPackageHeadLen < buffer.length ∧ buffer.length < place + netPackageHeadLen + 1 + netPackageHeadLen)
      (later : ∀ place pack, Comes sameDay check trim buffer place → place + netPackageHeadLen ≤ buffer.length →
        sight sameDay check buffer place = .whole pack → Clean trim (without buffer place pack)) :
      Clean trim buffer

end Sights

section Marks

variable {buffer : List UInt8}

theorem compareBegin_marked {marker : List UInt8} {itBuf place : Nat} (stands : marker <+: buffer.drop itBuf) :
    compareBegin buffer marker itBuf place = (true, place + marker.length) := by
  induction marker generalizing itBuf place with
  | nil => rfl
  | cons byte marker ih =>
    obtain ⟨rest, text⟩ := stands
    have here : buffer[itBuf]? = some byte := by
      rw [← List.head?_drop, ← text]
      rfl
    have next : marker <+: buffer.drop (itBuf + 1) := by
      rw [← List.drop_drop, ← text]
      exact ⟨rest, rfl⟩
    simp only [compareBegin, here, ne_eq, not_true_eq_false, if_false, ih next, List.length_cons]
    simp only [Prod.mk.injEq, true_and]
    omega

theorem compareBegin_unmarked {marker : List UInt8} {itBuf place : Nat} (absent : ¬ marker <+: buffer.drop itBuf) :
    ∃ stopped, compareBegin buffer marker itBuf place = (false, stopped) := by
  induction marker generalizing itBuf place with
  | nil => exact absurd List.nil_prefix absent
  | cons byte marker ih =>
    by_cases here : buffer[itBuf]? = some byte
    · have next : ¬ marker <+: buffer.drop (itBuf + 1) := by
        rintro ⟨rest, text⟩
        apply absent
        obtain ⟨inside, same⟩ := List.getElem?_eq_some_iff.mp here
        refine ⟨rest, ?_⟩
        rw [List.drop_eq_getElem_cons inside, ← text, same]
        rfl
      simp only [compareBegin, here, ne_eq, not_true_eq_false, if_false]
      exact ih next
    · exact ⟨place, by simp only [compareBegin, ne_eq, here, not_false_eq_true, if_true]⟩

theorem Marked.starts {place : Nat} (marked : Marked buffer place) : buffer[place]? = some 78 := by
  obtain ⟨rest, text⟩ := marked
  rw [← List.head?_drop, ← text]
  rfl

/-- The marker does not overlap itself. -/
theorem Marked.behind {place later : Nat} (marked : Marked buffer place) (above : place < later)
    (near : later < place + 4) : ¬ Marked buffer later := by
  intro again
  have here := again.starts
  obtain ⟨rest, text⟩ := marked
  obtain ⟨gap, rfl⟩ := Nat.exists_eq_add_of_lt above
  rw [Nat.add_assoc, ← List.getElem?_drop, ← text] at here
  obtain rfl | rfl | rfl : gap = 0 ∨ gap = 1 ∨ gap = 2 := by omega
  all_goals simp [netpackBeginstring] at here

theorem not_marked_before {place : Nat} (before : place < findBegin buffer) : ¬ Marked buffer place := by
  intro marked
  have here := marked.starts
  obtain ⟨inside, same⟩ := List.getElem?_eq_some_iff.mp here
  have different := List.not_of_lt_findIdx before
  simp only [same, beq_self_eq_true, Bool.true_eq_false] at different

end Marks

section Passes

variable (sameDay : Int → Bool) (trim check : Bool) {state : Received}

theorem receive_search (starts : findBegin state.vctBuffer < state.vctBuffer.length)
    (untrimmed : trim → findBegin state.vctBuffer = 0) :
    receive sameDay trim check (state, .search) = .again (state, .scan (findBegin state.vctBuffer) 0) := by
  have kept : ¬ (trim = true ∧ findBegin state.vctBuffer ≠ 0) := fun ⟨on, off⟩ => off (untrimmed on)
  simp only [receive, Nat.ne_of_lt starts, if_false]
  rw [if_neg kept]

theorem receive_search_leaves (stays : ¬ (findBegin state.vctBuffer < state.vctBuffer.length ∧
    (trim → findBegin state.vctBuffer = 0))) :
    ∃ result, receive sameDay trim check (state, .search) = .leave result := by
  by_cases starts : findBegin state.vctBuffer < state.vctBuffer.length
  · have trimmed : trim = true ∧ findBegin state.vctBuffer ≠ 0 := by
      by_contra kept
      apply stays
      refine ⟨starts, fun on => ?_⟩
      by_contra off
      exact kept ⟨on, off⟩
    simp only [receive, Nat.ne_of_lt starts, if_false]
    rw [if_pos trimmed]
    split <;> exact ⟨_, rfl⟩
  · have none : findBegin state.vctBuffer = state.vctBuffer.length :=
      Nat.le_antisymm List.findIdx_le_length (Nat.le_of_not_lt starts)
    simp only [receive, none, if_true]
    split <;> exact ⟨_, rfl⟩

theorem receive_short {place compared : Nat} (short : state.vctBuffer.length < place + netPackageHeadLen) :
    ∃ code, receive sameDay trim check (state, .scan place compared) = .leave (code, state) := by
  by_cases last : place = state.vctBuffer.length
  · exact ⟨0, by simp only [receive, last, if_true]⟩
  · have few : netPackageHeadLen > state.vctBuffer.length - place := by
      simp only [netPackageHeadLen] at short ⊢
      omega
    exact ⟨1, by simp only [receive, last, if_false, few, if_true]⟩

/-- The next pass after the one that a position's sight decides. -/
def after (state : Received) (place : Nat) : Sight → Pass (Received × Point) (Int × Received)
  | .unmarked | .broken => .again (state, .scan (place + 1) 0)
  | .bad => .again (state, .scan 4 0)
  | .waits => .leave (1, state)
  | .whole pack =>
    .again (⟨without state.vctBuffer place pack, state.recvedDatas ++ [pack]⟩, .search)
  | .hollow =>
    if place + netPackageHeadLen = state.vctBuffer.length then .undefined
    else .again (state, .scan (place + netPackageHeadLen + 1) 4)

theorem receive_scan {place : Nat} (room : place + netPackageHeadLen ≤ state.vctBuffer.length) :
    receive sameDay trim check (state, .scan place 0) =
      after state place (sight sameDay check state.vctBuffer place) := by
  have inside : place ≠ state.vctBuffer.length := by
    simp only [netPackageHeadLen] at room
    omega
  have enough : ¬ netPackageHeadLen > state.vctBuffer.length - place := by omega
  have fresh : ¬ netpackBeginstrLen ≤ 0 := by decide
  simp only [receive, inside, if_false, enough, fresh, List.drop_zero]
  by_cases marked : Marked state.vctBuffer place
  · have compared := @compareBegin_marked state.vctBuffer netpackBeginstring place 0 marked
    simp only [compared, sight, marked, if_true]
    cases parsed : netPackageHeadToLocal sameDay ((state.vctBuffer.drop place).take netPackageHeadLen) check with
    | none => rfl
    | some head =>
      simp only
      by_cases body : head.iDatalen > 0
      · simp only [body, if_true, List.length_drop]
        have last : place + netPackageHeadLen = state.vctBuffer.length ∨
            head.iDatalen.toNat > state.vctBuffer.length - (place + netPackageHeadLen) ↔
              state.vctBuffer.length - (place + netPackageHeadLen) < head.iDatalen.toNat := by omega
        simp only [last]
        split
        · rfl
        · split <;> rfl
      · simp only [body, if_false]
        rfl
  · obtain ⟨stopped, compared⟩ := @compareBegin_unmarked state.vctBuffer netpackBeginstring place 0 marked
    simp only [compared, sight, marked, if_false]
    rfl

/-- What a pass from a scan can be: it moves on, takes one packet off, leaves with what
there is, or has no meaning. -/
theorem receive_scan_cases (place compared : Nat) :
    (∃ later next, receive sameDay trim check (state, .scan place compared) = .again (state, .scan later next)) ∨
      (∃ rest pack, receive sameDay trim check (state, .scan place compared) =
        .again (⟨rest, state.recvedDatas ++ [pack]⟩, .search)) ∨
      (∃ code, receive sameDay trim check (state, .scan place compared) = .leave (code, state)) ∨
      receive sameDay trim check (state, .scan place compared) = .undefined := by
  simp only [receive]
  split
  · exact .inr (.inr (.inl ⟨_, rfl⟩))
  split
  · exact .inr (.inr (.inl ⟨_, rfl⟩))
  split
  · exact .inr (.inr (.inr rfl))
  split
  · exact .inl ⟨_, _, rfl⟩
  split
  · exact .inl ⟨_, _, rfl⟩
  split
  · split
    · exact .inr (.inr (.inl ⟨_, rfl⟩))
    split
    · exact .inr (.inl ⟨_, _, rfl⟩)
    · exact .inl ⟨_, _, rfl⟩
  · split
    · exact .inr (.inr (.inr rfl))
    · exact .inl ⟨_, _, rfl⟩

end Passes

/-- The size of the buffer, and of the part of it that the scan still has before it. -/
def unexamined : Received × Point → Nat × Nat
  | (state, .search) => (state.vctBuffer.length, state.vctBuffer.length + 1)
  | (state, .scan itBuf _) => (state.vctBuffer.length, state.vctBuffer.length - itBuf)

/-- The buffer has become shorter, or the part of it not looked at yet. -/
def Shorter (next state : Received × Point) : Prop :=
  Prod.Lex (· < ·) (· < ·) (unexamined next) (unexamined state)

theorem shorter_wellFounded : WellFounded Shorter :=
  InvImage.wf unexamined (Prod.lex Nat.lt_wfRel Nat.lt_wfRel).wf

/-- The call returns, and every pass that does not leave its loops shortens what is
still to be looked at. -/
def Ends (sameDay : Int → Bool) (vctBuffer : List UInt8) (recvedDatas : List NetPackage)
    (bTrimWasteData bCheckTimestamp : Bool) : Prop :=
  (∃ fuel result, recvPackage sameDay fuel vctBuffer recvedDatas bTrimWasteData bCheckTimestamp = some result) ∧
    (netPackageHeadLen < vctBuffer.length → ∀ state next,
      (receive sameDay bTrimWasteData bCheckTimestamp).Visits (⟨vctBuffer, recvedDatas⟩, .search) state →
      receive sameDay bTrimWasteData bCheckTimestamp state = .again next → Shorter next state)

section Scanning

variable {sameDay : Int → Bool} {trim check : Bool}

theorem sight_unmarked {buffer : List UInt8} {place : Nat} (unmarked : ¬ Marked buffer place) :
    sight sameDay check buffer place = .unmarked := by
  simp only [sight, unmarked, if_false]

theorem marked_of_sight {buffer : List UInt8} {place : Nat} (sees : sight sameDay check buffer place ≠ .unmarked) :
    Marked buffer place := by
  by_contra unmarked
  exact sees (sight_unmarked unmarked)

theorem whole_inside {buffer : List UInt8} {place : Nat} {pack : NetPackage}
    (sees : sight sameDay check buffer place = .whole pack) :
    0 < pack.head.iDatalen.toNat ∧ place + netPackageHeadLen + pack.head.iDatalen.toNat ≤ buffer.length := by
  unfold sight at sees
  split at sees
  · split at sees
    · cases sees
    next head parsed =>
      split at sees
      next body =>
        simp only at sees
        split at sees
        · cases sees
        next room =>
          split at sees
          · cases sees
            rw [List.length_drop] at room
            have positive : 0 < head.iDatalen.toNat := by omega
            refine ⟨positive, ?_⟩
            simp only
            omega
          · cases sees
      · cases sees
  · cases sees

theorem without_shorter {buffer : List UInt8} {place : Nat} {pack : NetPackage}
    (sees : sight sameDay check buffer place = .whole pack) : (without buffer place pack).length < buffer.length := by
  have inside := whole_inside sees
  simp only [without, List.length_append, List.length_take, List.length_drop, netPackageHeadLen] at inside ⊢
  omega

theorem Comes.next {buffer : List UInt8} {place : Nat} (comes : Comes sameDay check trim buffer place)
    (passed : Passed sameDay check buffer place) : Comes sameDay check trim buffer (place + 1) where
  starts := comes.starts
  untrimmed := comes.untrimmed
  inside := Nat.le_succ_of_le comes.inside
  passed := by
    intro earlier from_start before
    rcases Nat.lt_succ_iff_lt_or_eq.mp before with before | rfl
    · exact comes.passed earlier from_start before
    · exact passed

theorem Comes.fourth {buffer : List UInt8} {place : Nat} (comes : Comes sameDay check trim buffer place)
    (bad : sight sameDay check buffer place = .bad) (early : place < 4) : Comes sameDay check trim buffer 4 where
  starts := comes.starts
  untrimmed := comes.untrimmed
  inside := by
    have inside := comes.inside
    omega
  passed := by
    intro earlier from_start before
    rcases Nat.lt_trichotomy earlier place with front | rfl | back
    · exact comes.passed earlier from_start front
    · exact .inr (.inr ⟨bad, early⟩)
    · have marked := marked_of_sight (by rw [bad]; exact Sight.noConfusion)
      exact .inl (sight_unmarked (marked.behind back (by omega)))

/-- What holds of the receiver over a clean buffer. -/
def Stands (sameDay : Int → Bool) (check trim : Bool) : Received × Point → Prop
  | (state, .search) => Clean sameDay check trim state.vctBuffer
  | (state, .scan place 0) =>
    Clean sameDay check trim state.vctBuffer ∧ Comes sameDay check trim state.vctBuffer place
  | (state, .scan place _) => state.vctBuffer.length < place + netPackageHeadLen

/-- One pass over a clean buffer leaves or comes nearer to its end. -/
theorem stands_pass (state : Received × Point) (stands : Stands sameDay check trim state) :
    (∃ result, receive sameDay trim check state = .leave result) ∨
      ∃ next, receive sameDay trim check state = .again next ∧ Stands sameDay check trim next ∧ Shorter next state := by
  obtain ⟨state, point⟩ := state
  cases point with
  | search =>
    by_cases moves : findBegin state.vctBuffer < state.vctBuffer.length ∧
        (trim → findBegin state.vctBuffer = 0)
    · obtain ⟨starts, untrimmed⟩ := moves
      refine .inr ⟨_, receive_search sameDay trim check starts untrimmed, ⟨stands, starts, untrimmed, Nat.le_refl _, ?_⟩, ?_⟩
      · intro earlier from_start before
        omega
      · apply Prod.Lex.right
        exact Nat.lt_succ_of_le (Nat.sub_le _ _)
    · exact .inl (receive_search_leaves sameDay trim check moves)
  | scan place compared =>
    by_cases room : place + netPackageHeadLen ≤ state.vctBuffer.length
    · cases compared with
      | succ compared =>
        simp only [Stands] at stands
        omega
      | zero =>
        obtain ⟨clean, comes⟩ := stands
        have goes := receive_scan sameDay trim check room
        have moves (later : Nat) (above : place < later) (compared : Nat) :
            Shorter (state, .scan later compared) (state, .scan place 0) := by
          apply Prod.Lex.right
          simp only [netPackageHeadLen] at room ⊢
          omega
        obtain ⟨turns, fills, later⟩ := id clean
        cases sees : sight sameDay check state.vctBuffer place with
        | unmarked =>
          rw [sees] at goes
          exact .inr ⟨_, goes, ⟨clean, comes.next (.inl sees)⟩, moves _ (Nat.lt_succ_self _) _⟩
        | broken =>
          rw [sees] at goes
          exact .inr ⟨_, goes, ⟨clean, comes.next (.inr (.inl sees))⟩, moves _ (Nat.lt_succ_self _) _⟩
        | bad =>
          rw [sees] at goes
          have early := turns place comes room sees
          exact .inr ⟨_, goes, ⟨clean, comes.fourth sees early⟩, moves _ early _⟩
        | hollow =>
          rw [sees] at goes
          obtain ⟨more, few⟩ := fills place comes room sees
          simp only [after, Nat.ne_of_lt more, if_false] at goes
          exact .inr ⟨_, goes, few, moves _ (by omega) _⟩
        | waits =>
          rw [sees] at goes
          exact .inl ⟨_, goes⟩
        | whole pack =>
          rw [sees] at goes
          exact .inr ⟨_, goes, later place pack comes room sees, Prod.Lex.left _ _ (without_shorter sees)⟩
    · obtain ⟨code, left⟩ := receive_short sameDay trim check (Nat.lt_of_not_le room)
      exact .inl ⟨_, left⟩

/-- The scan gets to every position it comes to, save that a bad head at one of the
first four positions takes it past those behind. -/
theorem visits_of_comes {state : Received} {place : Nat} (comes : Comes sameDay check trim state.vctBuffer place)
    (room : place + netPackageHeadLen ≤ state.vctBuffer.length) :
    (receive sameDay trim check).Visits (state, .search) (state, .scan place 0) ∨
      ∃ head, Marked state.vctBuffer head ∧ head < place ∧ place < 4 ∧
        (receive sameDay trim check).Visits (state, .search) (state, .scan 4 0) := by
  induction place with
  | zero =>
    have start : findBegin state.vctBuffer = 0 := Nat.le_zero.mp comes.inside
    left
    have searched := receive_search sameDay trim check comes.starts comes.untrimmed
    rw [start] at searched
    exact .again .here searched
  | succ place ih =>
    rcases Nat.eq_or_lt_of_le comes.inside with start | above
    · left
      have searched := receive_search sameDay trim check comes.starts comes.untrimmed
      rw [start] at searched
      exact .again .here searched
    · have inside : findBegin state.vctBuffer ≤ place := Nat.lt_succ_iff.mp above
      have before : Comes sameDay check trim state.vctBuffer place :=
        ⟨comes.starts, comes.untrimmed, inside, fun earlier from_start less =>
          comes.passed earlier from_start (Nat.lt_succ_of_lt less)⟩
      have fits : place + netPackageHeadLen ≤ state.vctBuffer.length := by omega
      have passed := comes.passed place inside (Nat.lt_succ_self place)
      rcases ih before fits with visits | ⟨head, marked, front, early, visits⟩
      · have goes := receive_scan sameDay trim check fits
        rcases passed with sees | sees | ⟨sees, early⟩
        · rw [sees] at goes
          exact .inl (.again visits goes)
        · rw [sees] at goes
          exact .inl (.again visits goes)
        · rw [sees] at goes
          have marked := marked_of_sight (by rw [sees]; exact Sight.noConfusion)
          rcases Nat.eq_or_lt_of_le (show place + 1 ≤ 4 from early) with last | more
          · left
            rw [last]
            exact .again visits goes
          · exact .inr ⟨place, marked, Nat.lt_succ_self _, more, .again visits goes⟩
      · rcases Nat.eq_or_lt_of_le (show place + 1 ≤ 4 from early) with last | more
        · left
          rw [last]
          exact visits
        · exact .inr ⟨head, marked, Nat.lt_succ_of_lt front, more, visits⟩

theorem visits_of_marked {state : Received} {place : Nat} (comes : Comes sameDay check trim state.vctBuffer place)
    (room : place + netPackageHeadLen ≤ state.vctBuffer.length)
    (sees : sight sameDay check state.vctBuffer place ≠ .unmarked) :
    (receive sameDay trim check).Visits (state, .search) (state, .scan place 0) := by
  rcases visits_of_comes comes room with visits | ⟨head, marked, front, early, -⟩
  · exact visits
  · exact absurd (marked_of_sight sees) (marked.behind front (by omega))

/-- Between the fourth position and a bad head the scan goes round. -/
theorem endless_of_bad {state : Received} {place : Nat} {result : Int × Received}
    (comes : Comes sameDay check trim state.vctBuffer place)
    (room : place + netPackageHeadLen ≤ state.vctBuffer.length)
    (bad : sight sameDay check state.vctBuffer place = .bad) (late : 4 ≤ place) :
    ¬ (receive sameDay trim check).Returns (state, .scan place 0) result := by
  apply @Loop.not_returns_of_trapped _ _ _ _ _ fun now => ∃ at_, now = (state, .scan at_ 0) ∧ 4 ≤ at_ ∧ at_ ≤ place
  · rintro _ ⟨at_, rfl, from_fourth, upto⟩
    have goes := receive_scan sameDay trim check
      (Nat.le_trans (Nat.add_le_add_right upto _) room)
    rcases Nat.eq_or_lt_of_le upto with last | before
    · rw [last, bad] at goes
      refine ⟨_, ?_, 4, rfl, Nat.le_refl 4, late⟩
      rw [last]
      exact goes
    · have passed : Passed sameDay check state.vctBuffer at_ := by
        by_cases started : findBegin state.vctBuffer ≤ at_
        · exact comes.passed at_ started before
        · exact .inl (sight_unmarked (not_marked_before (Nat.lt_of_not_le started)))
      rcases passed with sees | sees | ⟨-, early⟩
      · rw [sees] at goes
        exact ⟨_, goes, at_ + 1, rfl, Nat.le_succ_of_le from_fourth, before⟩
      · rw [sees] at goes
        exact ⟨_, goes, at_ + 1, rfl, Nat.le_succ_of_le from_fourth, before⟩
      · omega
  · exact ⟨place, rfl, late, Nat.le_refl place⟩

theorem clean_of_returns {state : Received} {result : Int × Received}
    (returns : (receive sameDay trim check).Returns (state, .search) result) :
    Clean sameDay check trim state.vctBuffer := by
  induction size : state.vctBuffer.length using Nat.strong_induction_on generalizing state with
  | _ size ih =>
    constructor
    · intro place comes room bad
      by_contra late
      have visits := visits_of_marked comes room (by rw [bad]; exact Sight.noConfusion)
      exact endless_of_bad comes room bad (Nat.le_of_not_lt late) (visits.returns.mp returns)
    · intro place comes room hollow
      have visits := visits_of_marked comes room (by rw [hollow]; exact Sight.noConfusion)
      have there := visits.returns.mp returns
      have goes := receive_scan sameDay trim check room
      rw [hollow] at goes
      simp only [after] at goes
      by_cases last : place + netPackageHeadLen = state.vctBuffer.length
      · rw [if_pos last] at goes
        exact absurd there (Loop.not_returns_undefined goes)
      · rw [if_neg last] at goes
        refine ⟨Nat.lt_of_le_of_ne room last, ?_⟩
        by_contra long
        have behind := (Loop.returns_again goes).mp there
        apply Loop.not_returns_undefined _ behind
        have inside : place + netPackageHeadLen + 1 ≠ state.vctBuffer.length := by
          simp only [netPackageHeadLen] at long ⊢
          omega
        have enough : ¬ netPackageHeadLen > state.vctBuffer.length - (place + netPackageHeadLen + 1) := by omega
        have stale : netpackBeginstrLen ≤ 4 := by decide
        simp only [receive, inside, if_false, enough, stale, if_true]
    · intro place pack comes room whole
      have visits := visits_of_marked comes room (by rw [whole]; exact Sight.noConfusion)
      have goes := receive_scan sameDay trim check room
      rw [whole] at goes
      have rest := (Loop.returns_again goes).mp (visits.returns.mp returns)
      exact ih _ (size ▸ without_shorter whole) rest rfl

end Scanning

/-- Bytes that are one packet and nothing behind it. -/
structure Complete (sameDay : Int → Bool) (check : Bool) (packet : List UInt8 × NetPackage) : Prop where
  whole : sight sameDay check packet.1 0 = .whole packet.2
  ends : packet.1.length = netPackageHeadLen + packet.2.head.iDatalen.toNat

section Packets

variable {sameDay : Int → Bool} {trim check : Bool} {packet : List UInt8 × NetPackage} {recved : List NetPackage}

theorem Marked.found {buffer : List UInt8} (marked : Marked buffer 0) :
    findBegin buffer = 0 ∧ 0 < buffer.length := by
  obtain ⟨rest, text⟩ := marked
  rw [List.drop_zero] at text
  subst text
  exact ⟨rfl, Nat.succ_pos _⟩

theorem searches {buffer : List UInt8} (marked : Marked buffer 0) :
    receive sameDay trim check (⟨buffer, recved⟩, .search) = .again (⟨buffer, recved⟩, .scan 0 0) := by
  obtain ⟨start, some⟩ := Marked.found marked
  have searched := @receive_search sameDay trim check ⟨buffer, recved⟩ (by rw [start]; exact some) (fun _ => start)
  rwa [start] at searched

theorem Complete.solid (complete : Complete sameDay check packet) : netPackageHeadLen < packet.1.length := by
  have some := (whole_inside complete.whole).1
  rw [complete.ends]
  omega

theorem Complete.sees (complete : Complete sameDay check packet) (rest : List UInt8) :
    sight sameDay check (packet.1 ++ rest) 0 = .whole packet.2 := by
  have solid := complete.solid
  have marked := marked_of_sight (by rw [complete.whole]; exact Sight.noConfusion)
  obtain ⟨whole, ends⟩ := complete
  obtain ⟨bytes, pack⟩ := packet
  have still : Marked (bytes ++ rest) 0 := by
    rw [Marked, List.drop_zero] at marked ⊢
    exact marked.trans (List.prefix_append _ _)
  have front : ((bytes ++ rest).drop 0).take netPackageHeadLen = (bytes.drop 0).take netPackageHeadLen := by
    rw [List.drop_zero, List.drop_zero, List.take_append_of_le_length (Nat.le_of_lt solid)]
  have body : (bytes ++ rest).drop (0 + netPackageHeadLen) = bytes.drop (0 + netPackageHeadLen) ++ rest := by
    rw [Nat.zero_add, List.drop_append_of_le_length (Nat.le_of_lt solid)]
  have size : (bytes.drop (0 + netPackageHeadLen)).length = pack.head.iDatalen.toNat := by
    rw [List.length_drop]
    simp only at ends
    omega
  simp only [sight, marked, still, if_true, front, body] at whole ⊢
  split at whole
  · cases whole
  next head parsed =>
    split at whole
    next some =>
      split at whole
      · cases whole
      next enough =>
        split at whole
        next sound =>
          cases whole
          have more : ¬ (bytes.drop (0 + netPackageHeadLen) ++ rest).length < head.iDatalen.toNat := by
            rw [List.length_append]
            omega
          simp only [some, if_true, if_neg more, List.take_append_of_le_length (Nat.le_of_eq size.symm), sound]
        · cases whole
    · cases whole

theorem Complete.taken (complete : Complete sameDay check packet) (rest : List UInt8) :
    (receive sameDay trim check).Visits (⟨packet.1 ++ rest, recved⟩, .search) (⟨rest, recved ++ [packet.2]⟩, .search) := by
  have sees := complete.sees rest
  have solid := complete.solid
  have marked := marked_of_sight (by rw [sees]; exact Sight.noConfusion)
  have goes := @receive_scan sameDay trim check ⟨packet.1 ++ rest, recved⟩ 0
    (by simp only [List.length_append]; omega)
  have left : without (packet.1 ++ rest) 0 packet.2 = rest := by
    rw [without, List.take_zero, List.nil_append, Nat.zero_add, ← complete.ends, List.drop_left' rfl]
  rw [sees] at goes
  simp only [after, left] at goes
  exact .again (.again .here (searches marked)) goes

theorem takes_packets {packets : List (List UInt8 × NetPackage)}
    (complete : ∀ packet ∈ packets, Complete sameDay check packet) (tail : List UInt8) :
    (receive sameDay trim check).Visits (⟨(packets.map Prod.fst).flatten ++ tail, recved⟩, .search)
      (⟨tail, recved ++ packets.map Prod.snd⟩, .search) := by
  induction packets generalizing recved with
  | nil =>
    rw [List.map_nil, List.map_nil, List.append_nil]
    exact .here
  | cons packet packets ih =>
    have rest := @ih (recved ++ [packet.2]) (fun later found => complete later (List.mem_cons_of_mem _ found))
    have taken := @Complete.taken sameDay trim check packet recved (complete packet List.mem_cons_self)
      ((packets.map Prod.fst).flatten ++ tail)
    simp only [List.map_cons, List.flatten_cons, List.append_assoc, List.singleton_append] at rest taken ⊢
    exact taken.trans rest

end Packets

/-- The call ends, coming nearer to it with every pass, just when the buffer is no
longer than a head or clean. -/
theorem recvPackage_ends_iff (sameDay : Int → Bool) (vctBuffer : List UInt8) (recvedDatas : List NetPackage)
    (bTrimWasteData bCheckTimestamp : Bool) :
    Ends sameDay vctBuffer recvedDatas bTrimWasteData bCheckTimestamp ↔
      vctBuffer.length ≤ netPackageHeadLen ∨ Clean sameDay bCheckTimestamp bTrimWasteData vctBuffer := by
  by_cases short : vctBuffer.length ≤ netPackageHeadLen
  · refine ⟨fun _ => .inl short, fun _ => ⟨⟨0, _, if_pos short⟩, fun long => ?_⟩⟩
    omega
  · have long := Nat.lt_of_not_le short
    simp only [Ends, recvPackage, short, if_false, long, true_imp_iff, false_or]
    constructor
    · rintro ⟨⟨fuel, result, ran⟩, -⟩
      exact clean_of_returns ⟨fuel, ran⟩
    · intro clean
      constructor
      · have initial : Stands sameDay bCheckTimestamp bTrimWasteData (⟨vctBuffer, recvedDatas⟩, .search) := clean
        obtain ⟨result, fuel, ran⟩ := Loop.returns_of_wellFounded shorter_wellFounded stands_pass initial
        exact ⟨fuel, result, ran⟩
      · intro state next visits goes
        have stands : Stands sameDay bCheckTimestamp bTrimWasteData state := by
          apply visits.invariant _ clean
          intro state next stands goes
          rcases stands_pass state stands with ⟨result, left⟩ | ⟨other, again, kept, -⟩
          · rw [left] at goes
            cases goes
          · rw [again] at goes
            cases goes
            exact kept
        rcases stands_pass state stands with ⟨result, left⟩ | ⟨other, again, -, shorter⟩
        · rw [left] at goes
          cases goes
        · rw [again] at goes
          cases goes
          exact shorter

/-- A marker at the fourth position with nothing but nulls behind it. -/
def lateHead : List UInt8 := [78, 0, 0, 0] ++ netpackBeginstring ++ List.replicate 44 0

theorem lateHead_bad : sight (fun _ => false) false lateHead 4 = .bad := by
  have marked : Marked lateHead 4 := by decide
  have refused : netPackageHeadToLocal (fun _ => false) ((lateHead.drop 4).take netPackageHeadLen) false = none := by
    have checksum : generateHeadChecksum ((lateHead.drop 4).take netPackageHeadLen) = 289 := by decide
    have empty : field ((lateHead.drop 4).take netPackageHeadLen) 42 netpackHeadcksumLen = [] := by decide
    have zero : string2IntAtoi (text []) = 0 := by
      simp [string2IntAtoi, text]
    simp [netPackageHeadToLocal, checksum, empty, zero]
  simp only [sight, marked, if_true, refused]

theorem late_head_never_returns : ¬ Ends (fun _ => false) lateHead [] true false := by
  rw [recvPackage_ends_iff]
  rintro (short | clean)
  · exact absurd short (by decide)
  · obtain ⟨turns, -, -⟩ := clean
    have start : findBegin lateHead = 0 := by decide
    have comes : Comes (fun _ => false) false true lateHead 4 := by
      refine ⟨by decide, fun _ => start, Nat.zero_le 4, ?_⟩
      intro earlier _ before
      refine .inl (sight_unmarked ?_)
      obtain rfl | rfl | rfl | rfl : earlier = 0 ∨ earlier = 1 ∨ earlier = 2 ∨ earlier = 3 := by omega
      all_goals decide
    exact absurd (turns 4 comes (by decide) lateHead_bad) (by decide)

end Simutgw.Proofs.PacketScan
