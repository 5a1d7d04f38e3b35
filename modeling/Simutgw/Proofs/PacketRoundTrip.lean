import Simutgw.Proofs.PacketStream

/-! A packet the text protocol's sender appends, read back by its receiver. The head is
as long as it should be only where the stamp takes up its ten characters, and the
receiver has no way to take a packet without data. -/

namespace Simutgw.Proofs.PacketRoundTrip
open Logic PacketAssembler PacketScan PacketStream TgwStringUtil

variable {sameDay : Int → Bool} {trim check : Bool}

section Reading

theorem string2IntAtoi_range (text : String) : -2 ^ 31 ≤ string2IntAtoi text ∧ string2IntAtoi text < 2 ^ 31 := by
  rw [string2IntAtoi]
  split
  · decide
  · have low := Int.le_bmod (x := strtoll text.toList) (m := 2 ^ 32) (by decide)
    have high := Int.bmod_lt (x := strtoll text.toList) (m := 2 ^ 32) (by decide)
    omega

theorem range_of_head {stNetPack : List UInt8} {head : NetPackageHeadLocal}
    (parsed : netPackageHeadToLocal sameDay stNetPack check = some head) :
    (0 ≤ head.iType ∧ head.iType < 2 ^ 31) ∧ (-2 ^ 31 ≤ head.iTimeStamp ∧ head.iTimeStamp < 2 ^ 31) ∧
      head.iDatalen < 2 ^ 31 ∧ validateTimeStamp sameDay head.iTimeStamp check = true := by
  unfold netPackageHeadToLocal at parsed
  simp only at parsed
  split at parsed
  · cases parsed
  next today =>
    split at parsed
    · cases parsed
    next typed =>
      split at parsed
      · cases parsed
      · cases parsed
        refine ⟨⟨?_, (string2IntAtoi_range _).2⟩, string2IntAtoi_range _, (string2IntAtoi_range _).2, ?_⟩
        · exact Int.not_lt.mp (fun negative => typed (.inr negative))
        · simpa only [Bool.not_eq_true', Bool.not_eq_false] using today

theorem reads_of_whole {buffer : List UInt8} {place : Nat} {pack : NetPackage}
    (sees : sight sameDay check buffer place = .whole pack) :
    pack.data.length = pack.head.iDatalen.toNat ∧
      ∃ stNetPack, netPackageHeadToLocal sameDay stNetPack check = some pack.head := by
  unfold sight at sees
  split at sees
  · split at sees
    · cases sees
    next head parsed =>
      split at sees
      · simp only at sees
        split at sees
        · cases sees
        next room =>
          split at sees
          · cases sees
            exact ⟨List.length_take_of_le (Nat.le_of_not_lt room), _, parsed⟩
          · cases sees
      · cases sees
  · cases sees

end Reading

section Taking

/-- A pass takes packets up behind those already there, and the call leaves with all of
them. -/
def Keeps (state : Received) : Pass (Received × Point) (Int × Received) → Prop
  | .again (next, _) => ∃ more, next.recvedDatas = state.recvedDatas ++ more
  | .leave (_, left) => left.recvedDatas = state.recvedDatas
  | .undefined => True

theorem receive_keeps (state : Received) (point : Point) :
    Keeps state (receive sameDay trim check (state, point)) := by
  have same : ∃ more, state.recvedDatas = state.recvedDatas ++ more := ⟨[], (List.append_nil _).symm⟩
  cases point with
  | search =>
    simp only [receive]
    repeat' split
    all_goals first | exact rfl | exact same
  | scan place compared =>
    rcases @receive_scan_cases sameDay trim check state place compared with
      ⟨later, next, goes⟩ | ⟨rest, pack, goes⟩ | ⟨code, left⟩ | undefined
    · rw [goes]
      exact same
    · rw [goes]
      exact ⟨[pack], rfl⟩
    · rw [left]
      exact rfl
    · rw [undefined]
      exact trivial

/-- Nothing has been taken off the buffer, or the first packet was seen somewhere in it. -/
inductive Stage (sameDay : Int → Bool) (check : Bool) (buffer : List UInt8) : Received × Point → Prop
  | search : Stage sameDay check buffer (⟨buffer, []⟩, .search)
  | scan (place : Nat) : Stage sameDay check buffer (⟨buffer, []⟩, .scan place 0)
  | stale (place : Nat) : Stage sameDay check buffer (⟨buffer, []⟩, .scan place 4)
  | taken {place : Nat} {pack : NetPackage} {more : List NetPackage} {state : Received} {point : Point}
      (sees : sight sameDay check buffer place = .whole pack) (first : state.recvedDatas = pack :: more) :
      Stage sameDay check buffer (state, point)

theorem stage_pass {buffer : List UInt8} {state next : Received × Point} (stage : Stage sameDay check buffer state)
    (goes : receive sameDay trim check state = .again next) : Stage sameDay check buffer next := by
  cases stage with
  | search =>
    by_cases starts : findBegin buffer < buffer.length ∧ (trim → findBegin buffer = 0)
    · have searched := @receive_search sameDay trim check ⟨buffer, []⟩ starts.1 starts.2
      rw [searched] at goes
      cases goes
      exact .scan _
    · obtain ⟨result, left⟩ := @receive_search_leaves sameDay trim check ⟨buffer, []⟩ starts
      rw [left] at goes
      cases goes
  | scan place =>
    by_cases room : place + netPackageHeadLen ≤ buffer.length
    · have seen := @receive_scan sameDay trim check ⟨buffer, []⟩ place room
      rw [seen] at goes
      cases sees : sight sameDay check buffer place with
      | unmarked | broken | bad =>
        rw [sees] at goes
        cases goes
        exact .scan _
      | hollow =>
        rw [sees] at goes
        simp only [after] at goes
        split at goes
        · cases goes
        · cases goes
          exact .stale _
      | waits =>
        rw [sees] at goes
        cases goes
      | whole pack =>
        rw [sees] at goes
        cases goes
        exact .taken sees rfl
    · obtain ⟨code, left⟩ := @receive_short sameDay trim check ⟨buffer, []⟩ place 0 (Nat.lt_of_not_le room)
      rw [left] at goes
      cases goes
  | stale place =>
    -- Behind a head without data the marker's end is passed: no comparison goes on.
    have stale : netpackBeginstrLen ≤ 4 := by decide
    simp only [receive, stale, if_true] at goes
    split at goes
    · cases goes
    · split at goes <;> cases goes
  | @taken place pack more held point sees first =>
    have kept := @receive_keeps sameDay trim check held point
    rw [goes] at kept
    obtain ⟨behind, kept⟩ := kept
    rw [first, List.cons_append] at kept
    exact .taken sees kept

theorem first_seen {buffer left : List UInt8} {code : Int} {pack : NetPackage} {more : List NetPackage}
    (returns : (receive sameDay trim check).Returns (⟨buffer, []⟩, .search) (code, ⟨left, pack :: more⟩)) :
    ∃ place, sight sameDay check buffer place = .whole pack := by
  obtain ⟨last, visits, leaves⟩ := returns.leaves
  have stage : Stage sameDay check buffer last := visits.invariant (fun _ _ => stage_pass) .search
  obtain ⟨held, point⟩ := last
  have kept := @receive_keeps sameDay trim check held point
  rw [leaves] at kept
  cases stage with
  | search | scan | stale => cases kept
  | taken sees first =>
    rw [Keeps, first] at kept
    cases kept
    exact ⟨_, sees⟩

end Taking

/-- The receiver takes one packet off the bytes, and nothing is left of them: it has the
type, the stamp and the data of the message. -/
def RoundTrips (sameDay : Int → Bool) (trim check : Bool) (message : Message) (appended : List UInt8) : Prop :=
  ∃ fuel code pack, recvPackage sameDay fuel appended [] trim check = some (code, ⟨[], [pack]⟩) ∧
    pack.head.iType = message.iType ∧ pack.head.iTimeStamp = message.iTimeStamp ∧ pack.data = message.data

/-- A call that succeeds appends one packet, which carries the message, and one that
fails leaves the bytes as they were. -/
structure Lawful (sameDay : Int → Bool) (trim check : Bool) (message : Message) (out_vctData : List UInt8)
    (sent : Int × List UInt8) : Prop where
  packet : sent.1 = 0 → ∃ appended, sent.2 = out_vctData ++ appended ∧
    RoundTrips sameDay trim check message appended
  error : sent.1 ≠ 0 → sent.2 = out_vctData

section Fitting

variable {message : Message}

theorem round_trips_of_laid (laid : Laid message) (today : validateTimeStamp sameDay message.iTimeStamp check = true) :
    RoundTrips sameDay trim check message (headText message ++ message.data) := by
  have all : ∀ one ∈ [message] ++ ([] : List Message), Laid one ∧
      validateTimeStamp sameDay one.iTimeStamp check = true := by
    intro one found
    rw [List.append_nil, List.mem_singleton] at found
    subst found
    exact ⟨laid, today⟩
  have front : [] ++ (headText message ++ message.data) = (([message].map piece).map Prod.fst).flatten ++ [] := by
    simp only [List.map_cons, List.map_nil, List.flatten_cons, List.flatten_nil, piece, List.nil_append, List.append_nil]
  obtain ⟨fuel, code, ran⟩ := @receives_messages sameDay trim check [] [message] [] all [] _ [] front (.inl rfl)
  exact ⟨fuel, code, packOf message, ran, rfl, rfl, rfl⟩

/-- As long as the packet should be, save for the characters the stamp falls short by. -/
theorem length_appended (fits : Fits message) (out_vctData : List UInt8) :
    (frontText message ++ zeroFill 6 (numeral (sentChecksum out_vctData message)) ++ message.data).length =
      38 + (spelled message.iTimeStamp).length + message.data.length := by
  have checksum := sentChecksum_range out_vctData message
  have own : (zeroFill 6 (numeral (sentChecksum out_vctData message))).length = 6 :=
    length_zeroFill ((length_numeral_le_iff (by omega) (by decide)).mpr (by omega))
  simp only [List.length_append, fits.length_frontText, own]
  omega

theorem laid_of_round_trips (fits : Fits message) {appended : List UInt8}
    (length : appended.length = 38 + (spelled message.iTimeStamp).length + message.data.length)
    (trips : RoundTrips sameDay trim check message appended) :
    Laid message ∧ validateTimeStamp sameDay message.iTimeStamp check = true := by
  obtain ⟨fuel, code, pack, ran, type, stamp, data⟩ := trips
  unfold recvPackage at ran
  split at ran
  · cases ran
  next long =>
    obtain ⟨place, sees⟩ := first_seen ⟨fuel, ran⟩
    obtain ⟨positive, inside⟩ := whole_inside sees
    obtain ⟨size, stNetPack, parsed⟩ := reads_of_whole sees
    obtain ⟨typed, stamped, sized, today⟩ := range_of_head parsed
    rw [type] at typed
    rw [stamp] at stamped today
    rw [data] at size
    have head : netPackageHeadLen = 48 := rfl
    have short : (spelled message.iTimeStamp).length ≤ 10 := fits.iTimeStamp
    have whole : (spelled message.iTimeStamp).length = 10 := by omega
    have kind := fits.iType
    rw [spelled_of_nonneg typed.1, length_numeral_le_iff (by omega) (by decide)] at kind
    have many := fits.datalen
    rw [length_numeral_le_iff (by omega) (by decide)] at many
    simp only [netpackTypeLen] at kind
    simp only [netpackDatalenLen] at many
    refine ⟨⟨by omega, (length_spelled_stamp stamped.1 stamped.2).mp whole, by omega⟩, today⟩

end Fitting

/-- The call keeps its law just when the type has four digits at most, the stamp takes
up ten characters and is accepted, and there is some data, of a length with four digits
at most. -/
theorem round_trip_iff (sameDay : Int → Bool) (bTrimWasteData bCheckTimestamp : Bool) (clock in_iMsgType : Int)
    (in_data : List UInt8) (in_piTimeStamp : Option Int) (out_vctData : List UInt8) :
    Lawful sameDay bTrimWasteData bCheckTimestamp ⟨in_iMsgType, in_piTimeStamp.getD clock, in_data⟩ out_vctData
        (localPackageToNetBuffer clock in_iMsgType in_data in_piTimeStamp out_vctData) ↔
      Laid ⟨in_iMsgType, in_piTimeStamp.getD clock, in_data⟩ ∧
        validateTimeStamp sameDay (in_piTimeStamp.getD clock) bCheckTimestamp = true := by
  generalize same : (⟨in_iMsgType, in_piTimeStamp.getD clock, in_data⟩ : Message) = message
  have stamped : in_piTimeStamp.getD clock = message.iTimeStamp := by rw [← same]
  obtain rfl : in_iMsgType = message.iType := by rw [← same]
  obtain rfl : in_data = message.data := by rw [← same]
  rw [stamped]
  constructor
  · intro lawful
    by_cases fits : Fits message
    · have sent := localPackageToNetBuffer_fits clock stamped fits out_vctData
      rw [sent] at lawful
      obtain ⟨appended, split, trips⟩ := lawful.packet rfl
      have own := List.append_cancel_left split
      have length := length_appended fits out_vctData
      rw [own] at length
      exact laid_of_round_trips fits length trips
    · obtain ⟨failed, left⟩ := localPackageToNetBuffer_unfit clock stamped fits out_vctData
      have kept := lawful.error (by rw [failed]; decide)
      rw [kept] at left
      have short := left.length_le
      have marker : netpackBeginstring.length = 4 := rfl
      rw [List.length_append] at short
      omega
  · rintro ⟨laid, today⟩
    have sent := localPackageToNetBuffer_laid laid clock stamped out_vctData
    rw [sent, ← headText_eq laid]
    exact ⟨fun _ => ⟨_, rfl, round_trips_of_laid laid today⟩, fun failed => absurd rfl failed⟩

/-- A message without data, with one of the stamps for tests. -/
def hollow : Message := ⟨1, 1510885145, []⟩

theorem hollow_fits : Fits hollow where
  iTimeStamp := Nat.le_of_eq ((length_spelled_stamp (by decide) (by decide)).mpr (.inl (by decide)))
  iType := by
    rw [spelled_of_nonneg (by decide)]
    exact (length_numeral_le_iff (by decide) (by decide)).mpr (by decide)
  datalen := (length_numeral_le_iff (by decide) (by decide)).mpr (by decide)

theorem hollow_not_received :
    (localPackageToNetBuffer 0 1 [] (some 1510885145) []).1 = 0 ∧
      ¬ Lawful (fun _ => false) true false hollow [] (localPackageToNetBuffer 0 1 [] (some 1510885145) []) := by
  have stamped : (some 1510885145 : Option Int).getD 0 = hollow.iTimeStamp := rfl
  have sent : localPackageToNetBuffer 0 1 [] (some 1510885145) [] = (0, _) :=
    localPackageToNetBuffer_fits 0 stamped hollow_fits []
  refine ⟨by rw [sent], fun lawful => ?_⟩
  rw [sent] at lawful
  obtain ⟨appended, split, trips⟩ := lawful.packet rfl
  have own := List.append_cancel_left split
  have length := length_appended hollow_fits []
  rw [own] at length
  obtain ⟨laid, -⟩ := laid_of_round_trips hollow_fits length trips
  exact absurd laid.data.1 (by decide)

end Simutgw.Proofs.PacketRoundTrip
