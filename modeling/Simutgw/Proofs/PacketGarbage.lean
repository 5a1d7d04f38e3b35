import Simutgw.Proofs.PacketRoundTrip

/-! Garbage in front of packets, and the receiver trimming what it cannot use. The
search for the next marker stops the call once it has trimmed, whatever stands behind,
and a search that finds the buffer empty, as it does behind the last packet, reports
invalid data. -/

namespace Simutgw.Proofs.PacketGarbage
open Logic PacketAssembler PacketScan PacketStream PacketRoundTrip

variable {sameDay : Int → Bool} {check : Bool}

/-- The call takes the garbage and the packets off the buffer, hands over every packet,
and reports no error if there were any. -/
def Resynchronised (sameDay : Int → Bool) (check : Bool) (garbage : List UInt8)
    (packets : List (List UInt8 × NetPackage)) (recvedDatas : List NetPackage) : Prop :=
  ∃ fuel code, recvPackage sameDay fuel (garbage ++ (packets.map Prod.fst).flatten) recvedDatas true check =
      some (code, ⟨[], recvedDatas ++ packets.map Prod.snd⟩) ∧
    (packets ≠ [] → 0 ≤ code)

section Searching

variable {state : Received}

theorem findBegin_absent {buffer : List UInt8} : findBegin buffer = buffer.length ↔ 78 ∉ buffer := by
  rw [findBegin, List.findIdx_eq_length]
  simp only [beq_eq_false_iff_ne, ne_eq]
  exact ⟨fun none found => none 78 found rfl, fun none byte found same => none (same ▸ found)⟩

theorem search_clears (absent : 78 ∉ state.vctBuffer) :
    receive sameDay true check (state, .search) = .leave (-1, { state with vctBuffer := [] }) := by
  simp only [receive, findBegin_absent.mpr absent, if_true]

/-- Behind bytes that begin no marker the search trims up to the next place where one
may begin, and is over. -/
theorem search_trims {byte : UInt8} {rest : List UInt8} (other : byte ≠ 78) (later : 78 ∈ rest) :
    receive sameDay true check (⟨byte :: rest, state.recvedDatas⟩, .search) =
      .leave (0, ⟨rest.drop (findBegin rest), state.recvedDatas⟩) := by
  have skips : findBegin (byte :: rest) = findBegin rest + 1 := by
    simp only [findBegin, List.findIdx_cons, beq_eq_false_iff_ne.mpr other, cond_false]
  have inside : findBegin rest < rest.length := by
    apply List.findIdx_lt_length_of_exists
    exact ⟨78, later, beq_self_eq_true _⟩
  have found : findBegin rest + 1 ≠ (byte :: rest).length := by
    rw [List.length_cons]
    omega
  have trims : True ∧ findBegin rest + 1 ≠ 0 := ⟨trivial, Nat.succ_ne_zero _⟩
  simp only [receive, skips, found, if_false, List.drop_one, List.tail_cons]
  rw [if_pos trims, if_pos found]
  rfl

theorem search_cases (state : Received) :
    (state.vctBuffer ≠ [] ∧
        receive sameDay true check (state, .search) = .again (state, .scan (findBegin state.vctBuffer) 0)) ∨
      (∃ rest, rest ≠ [] ∧
        receive sameDay true check (state, .search) = .leave (0, ⟨rest, state.recvedDatas⟩)) ∨
      78 ∉ state.vctBuffer := by
  by_cases found : 78 ∈ state.vctBuffer
  · obtain ⟨buffer, recved⟩ := state
    cases buffer with
    | nil => cases found
    | cons byte rest =>
      by_cases marks : byte = 78
      · subst marks
        exact .inl ⟨List.cons_ne_nil _ _, receive_search sameDay true check (Nat.succ_pos _) (fun _ => rfl)⟩
      · have later : 78 ∈ rest := (List.mem_cons.mp found).resolve_left (Ne.symm marks)
        refine .inr (.inl ⟨_, ?_, @search_trims sameDay check ⟨byte :: rest, recved⟩ byte rest marks later⟩)
        intro none
        have inside : findBegin rest < rest.length :=
          List.findIdx_lt_length_of_exists ⟨78, later, beq_self_eq_true _⟩
        have covers := List.drop_eq_nil_iff.mp none
        omega
  · exact .inr (.inr found)

end Searching

section Emptying

variable {initial : Received}

/-- The buffer is as it was or a packet has been handed over, and a scan has something
before it. -/
structure Underway (initial : Received) (state : Received × Point) : Prop where
  taken : state.1 = initial ∨ ∃ pack more, state.1.recvedDatas = initial.recvedDatas ++ pack :: more
  occupied : state.2 ≠ .search → state.1.vctBuffer ≠ []

theorem underway_pass {state next : Received × Point} (underway : Underway initial state)
    (goes : receive sameDay true check state = .again next) : Underway initial next := by
  obtain ⟨state, point⟩ := state
  cases point with
  | search =>
    rcases @search_cases sameDay check state with ⟨some, starts⟩ | ⟨rest, -, left⟩ | absent
    · rw [starts] at goes
      cases goes
      exact ⟨underway.taken, fun _ => some⟩
    · rw [left] at goes
      cases goes
    · rw [search_clears absent] at goes
      cases goes
  | scan place compared =>
    rcases @receive_scan_cases sameDay true check state place compared with
      ⟨later, from_, moves⟩ | ⟨rest, pack, takes⟩ | ⟨code, left⟩ | undefined
    · rw [moves] at goes
      cases goes
      exact ⟨underway.taken, fun _ => underway.occupied Point.noConfusion⟩
    · rw [takes] at goes
      cases goes
      refine ⟨.inr ?_, fun scanning => absurd rfl scanning⟩
      rcases underway.taken with same | ⟨first, more, before⟩
      · exact ⟨pack, [], congrArg (·.recvedDatas ++ [pack]) same⟩
      · refine ⟨first, more ++ [pack], ?_⟩
        simp only at before ⊢
        rw [before, List.append_assoc, List.cons_append]
    · rw [left] at goes
      cases goes
    · rw [undefined] at goes
      cases goes

/-- A call that leaves nothing in the buffer reports invalid data, and if it has handed
nothing over, no marker could begin in what it got. -/
theorem emptied {code : Int} {recved : List NetPackage}
    (returns : (receive sameDay true check).Returns (initial, .search) (code, ⟨[], recved⟩)) :
    code = -1 ∧ (recved = initial.recvedDatas → 78 ∉ initial.vctBuffer) := by
  obtain ⟨⟨state, point⟩, visits, leaves⟩ := returns.leaves
  have underway : Underway initial (state, point) :=
    visits.invariant (fun _ _ => underway_pass) ⟨.inl rfl, fun scanning => absurd rfl scanning⟩
  cases point with
  | search =>
    rcases @search_cases sameDay check state with ⟨some, starts⟩ | ⟨rest, some, left⟩ | absent
    · rw [starts] at leaves
      cases leaves
    · rw [left] at leaves
      cases leaves
      exact absurd rfl some
    · rw [search_clears absent] at leaves
      cases leaves
      refine ⟨rfl, fun none => ?_⟩
      rcases underway.taken with same | ⟨pack, more, before⟩
      · simp only at same
        rwa [← same]
      · simp only at before
        rw [none] at before
        exact absurd (List.append_right_eq_self.mp before.symm) (List.cons_ne_nil _ _)
  | scan place compared =>
    have some := underway.occupied Point.noConfusion
    rcases @receive_scan_cases sameDay true check state place compared with
      ⟨later, from_, moves⟩ | ⟨rest, pack, takes⟩ | ⟨status, left⟩ | undefined
    · rw [moves] at leaves
      cases leaves
    · rw [takes] at leaves
      cases leaves
    · rw [left] at leaves
      cases leaves
      exact absurd rfl some
    · rw [undefined] at leaves
      cases leaves

end Emptying

/-- What the receiver does with garbage and packets behind it is as it should be just
when there are no packets and the garbage is nothing or is longer than a head and has
no place in it where a marker may begin. -/
theorem resynchronised_iff (sameDay : Int → Bool) (check : Bool) (garbage : List UInt8)
    (packets : List (List UInt8 × NetPackage)) (recvedDatas : List NetPackage) :
    Resynchronised sameDay check garbage packets recvedDatas ↔
      packets = [] ∧ (garbage = [] ∨ netPackageHeadLen < garbage.length ∧ 78 ∉ garbage) := by
  constructor
  · rintro ⟨fuel, code, ran, sound⟩
    rw [recvPackage] at ran
    split at ran
    next short =>
      simp only [Option.some.injEq, Prod.mk.injEq, Received.mk.injEq] at ran
      obtain ⟨-, nothing, same⟩ := ran
      have none : packets = [] := List.map_eq_nil_iff.mp (List.append_right_eq_self.mp same.symm)
      exact ⟨none, .inl (List.append_eq_nil_iff.mp nothing).1⟩
    next long =>
      obtain ⟨failed, absent⟩ := emptied ⟨fuel, ran⟩
      have none : packets = [] := by
        by_contra some
        have code := sound some
        omega
      subst none
      simp only [List.map_nil, List.flatten_nil, List.append_nil] at long absent
      exact ⟨rfl, .inr ⟨Nat.lt_of_not_le long, absent trivial⟩⟩
  · rintro ⟨rfl, rfl | ⟨long, absent⟩⟩
    · refine ⟨0, 1, ?_, fun some => absurd rfl some⟩
      rw [List.map_nil, List.map_nil, List.append_nil]
      rfl
    · refine ⟨1, -1, ?_, fun some => absurd rfl some⟩
      simp only [List.map_nil, List.flatten_nil, List.append_nil, recvPackage, Nat.not_le_of_lt long, if_false]
      simp only [Loop.run, @search_clears sameDay check ⟨garbage, recvedDatas⟩ absent]

section Packets

variable {packets : List (List UInt8 × NetPackage)}

theorem all_delivered (complete : ∀ packet ∈ packets, Complete sameDay check packet) (some : packets ≠ [])
    (recvedDatas : List NetPackage) :
    ∃ fuel, recvPackage sameDay fuel (packets.map Prod.fst).flatten recvedDatas true check =
      Option.some (-1, ⟨[], recvedDatas ++ packets.map Prod.snd⟩) := by
  have visits := @takes_packets sameDay true check recvedDatas packets complete []
  have left := @search_clears sameDay check ⟨[], recvedDatas ++ packets.map Prod.snd⟩ List.not_mem_nil
  obtain ⟨fuel, ran⟩ := visits.returns.mpr (Loop.returns_leave left)
  refine ⟨fuel, ?_⟩
  have long : ¬ (packets.map Prod.fst).flatten.length ≤ netPackageHeadLen := by
    cases packets with
    | nil => exact absurd rfl some
    | cons packet packets =>
      have solid := (complete packet List.mem_cons_self).solid
      simp only [List.map_cons, List.flatten_cons, List.length_append]
      omega
  rw [List.append_nil] at ran
  rw [recvPackage, if_neg long, ran]

/-- Behind garbage that begins no marker nothing is handed over: the call is over with
the first place where a marker may begin, which the packets keep waiting behind. -/
theorem none_delivered {byte : UInt8} {garbage : List UInt8} (other : byte ≠ 78)
    (complete : ∀ packet ∈ packets, Complete sameDay check packet) (some : packets ≠ [])
    (recvedDatas : List NetPackage) :
    ∃ kept, recvPackage sameDay 1 (byte :: garbage ++ (packets.map Prod.fst).flatten) recvedDatas true check =
        Option.some (0, ⟨kept ++ (packets.map Prod.fst).flatten, recvedDatas⟩) ∧ kept <:+ garbage := by
  generalize text : (packets.map Prod.fst).flatten = flat
  have marked : Marked flat 0 ∧ netPackageHeadLen < flat.length := by
    cases packets with
    | nil => exact absurd rfl some
    | cons packet packets =>
      have complete := complete packet List.mem_cons_self
      have solid := complete.solid
      have sees := complete.sees (packets.map Prod.fst).flatten
      rw [List.map_cons, List.flatten_cons] at text
      rw [← text]
      refine ⟨marked_of_sight (by rw [sees]; exact Sight.noConfusion), ?_⟩
      rw [List.length_append]
      omega
  obtain ⟨marked, solid⟩ := marked
  have there : Marked (garbage ++ flat) garbage.length := by
    rwa [Marked, List.drop_left' rfl, ← List.drop_zero (l := flat)]
  have upto : findBegin (garbage ++ flat) ≤ garbage.length :=
    Nat.le_of_not_lt fun before => not_marked_before before there
  have later : 78 ∈ garbage ++ flat := by
    apply List.mem_of_getElem? there.starts
  have long : ¬ (byte :: (garbage ++ flat)).length ≤ netPackageHeadLen := by
    simp only [List.length_cons, List.length_append]
    omega
  refine ⟨garbage.drop (findBegin (garbage ++ flat)), ?_, List.drop_suffix _ _⟩
  have left := @search_trims sameDay check ⟨[], recvedDatas⟩ byte (garbage ++ flat) other later
  rw [List.drop_append_of_le_length upto] at left
  rw [recvPackage, List.cons_append, if_neg long]
  simp only [Loop.run, left]

end Packets

/-- One byte in front of one packet: the call hands nothing over. -/
theorem garbage_stops : Complete (fun _ => false) false (piece quoted) ∧
    ¬ Resynchronised (fun _ => false) false [0] [piece quoted] [] := by
  have accepted : Accepted quoted := ⟨by decide, by decide, by decide⟩
  have complete : Complete (fun _ => false) false (piece quoted) := piece_complete accepted.laid rfl
  refine ⟨complete, ?_⟩
  have all : ∀ packet ∈ [piece quoted], Complete (fun _ => false) false packet := by
    intro packet found
    rwa [List.mem_singleton.mp found]
  rintro ⟨fuel, code, ran, -⟩
  obtain ⟨kept, stopped, -⟩ := none_delivered (show (0 : UInt8) ≠ 78 by decide) all (List.cons_ne_nil _ _) []
  unfold recvPackage at ran stopped
  have handed : ([] : List NetPackage) = [packOf quoted] :=
    congrArg (fun result => result.2.recvedDatas) (Loop.answer_unique stopped ran)
  exact List.cons_ne_nil _ _ handed.symm

end Simutgw.Proofs.PacketGarbage
