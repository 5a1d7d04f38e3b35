import Simutgw.Logic.ShiftRegister
import Simutgw.Proofs.PacketStream

/-! The check of a packet's data. Two look-ups in a table of sixteen words take a byte in,
which is what a shift register fed the byte's bits does, lowest first. So data that were
damaged within 32 consecutive bits never pass with the check they were sent with, however
the stream they stand in is cut. -/

namespace Simutgw.Proofs.PacketCheck
open Logic ShiftRegister PacketAssembler PacketScan PacketStream TgwStringUtil

/-- The polynomial of the table, without its highest term and the lowest term first. -/
def crcFeedback : BitVec 32 := 0xedb88320

/-- A byte's bits, in the order they are taken in. -/
def byteBits (byte : UInt8) : List Bool := (List.range 8).map byte.toBitVec.getLsbD

def dataBits (data : List UInt8) : List Bool := data.flatMap byteBits

section Division

/-- The table holds what four shifts make of its indices. -/
theorem crc32Table_shifts : ∀ low < 16,
    (crc32Table.getD low 0).toBitVec = shifts crcFeedback 4 (BitVec.ofNat 32 low) := by
  decide

/-- One look-up, with half of a byte added to the state. -/
def half (state : UInt32) (shifted : UInt8) : UInt32 :=
  crc32Table.getD ((state.toUInt8 ^^^ shifted) &&& 0x0f).toNat 0 ^^^ (state >>> 4)

theorem crcUpdate_halves (state : UInt32) (data : UInt8) : crcUpdate state data = half (half state data) (data >>> 4) :=
  rfl

theorem getLsbD_nibble (place : Nat) : (0x0f : UInt8).toBitVec.getLsbD place = decide (place < 4) := by
  by_cases low : place < 4
  · have bits : ∀ place < 4, (0x0f : UInt8).toBitVec.getLsbD place = decide (place < 4) := by decide
    exact bits place low
  · have past : (0x0f : UInt8).toBitVec.getLsbD place = false :=
      Nat.testBit_lt_two_pow (Nat.lt_of_lt_of_le (by decide : 15 < 2 ^ 4) (Nat.pow_le_pow_right (by decide) (by omega)))
    rw [past, decide_eq_false low]

theorem half_shifts (state : UInt32) (shifted : UInt8) :
    (half state shifted).toBitVec =
      shifts crcFeedback 4 (state.toBitVec ^^^ ((shifted &&& 0x0f).toBitVec).setWidth 32) := by
  let low : UInt8 := (state.toUInt8 ^^^ shifted) &&& 0x0f
  have small : low.toNat < 16 := by
    have bound : low.toNat ≤ 15 := by
      rw [UInt8.toNat_and]
      exact Nat.and_le_right
    omega
  have looked := crc32Table_shifts low.toNat small
  have rest : (state.toBitVec ^^^ ((shifted &&& 0x0f).toBitVec).setWidth 32) >>> 4 = state.toBitVec >>> 4 := by
    apply BitVec.eq_of_getLsbD_eq
    intro place inside
    have past : ¬ 4 + place < 4 := by omega
    simp only [BitVec.getLsbD_ushiftRight, BitVec.getLsbD_xor, BitVec.getLsbD_setWidth, UInt8.toBitVec_and,
      BitVec.getLsbD_and, getLsbD_nibble, past, decide_false, Bool.and_false, Bool.xor_false]
  have moved : (BitVec.ofNat 32 low.toNat) >>> 4 = 0 := by
    apply BitVec.eq_of_toNat_eq
    rw [BitVec.toNat_ushiftRight, BitVec.toNat_ofNat, Nat.shiftRight_eq_div_pow]
    simp only [BitVec.ofNat_eq_ofNat, BitVec.toNat_ofNat]
    omega
  rw [shifts_table 4 _ (BitVec.ofNat 32 low.toNat) _ moved, rest, ← looked]
  · rfl
  · intro place below
    have agree : (BitVec.ofNat 32 low.toNat).getLsbD place = low.toBitVec.getLsbD place := by
      rw [BitVec.getLsbD_ofNat, decide_eq_true (by omega : place < 32), Bool.true_and]
      rfl
    have inside : place < 32 := by omega
    have byte : place < 8 := by omega
    simp only [agree, low, UInt8.toBitVec_and, UInt8.toBitVec_xor, UInt32.toBitVec_toUInt8, BitVec.getLsbD_and,
      BitVec.getLsbD_xor, BitVec.getLsbD_setWidth, getLsbD_nibble, below, inside, byte, decide_true, Bool.true_and,
      Bool.and_true]

theorem length_byteBits (byte : UInt8) : (byteBits byte).length = 8 := by
  rw [byteBits, List.length_map, List.length_range]

theorem word_byteBits (byte : UInt8) : word 32 (byteBits byte) = byte.toBitVec.setWidth 32 := by
  apply BitVec.eq_of_getLsbD_eq
  intro place inside
  rw [getLsbD_word, BitVec.getLsbD_setWidth]
  by_cases low : place < 8
  · have here : place < (byteBits byte).length := by rw [length_byteBits]; exact low
    rw [List.getD_eq_getElem _ _ here]
    simp only [byteBits, List.getElem_map, List.getElem_range]
  · have past : byte.toBitVec.getLsbD place = false := BitVec.getLsbD_of_ge _ _ (by omega)
    rw [past, List.getD_eq_default _ _ (by rw [length_byteBits]; omega)]

theorem crcUpdate_feed (state : UInt32) (data : UInt8) :
    (crcUpdate state data).toBitVec = feed crcFeedback state.toBitVec (byteBits data) := by
  have high : shifts crcFeedback 4 ((data.toBitVec ^^^ (data &&& 0x0f).toBitVec).setWidth 32) =
      ((data >>> 4 &&& 0x0f).toBitVec).setWidth 32 := by
    have shifted : (data >>> 4).toBitVec = data.toBitVec >>> 4 := rfl
    rw [shifts_high]
    · apply BitVec.eq_of_getLsbD_eq
      intro place inside
      have past : ¬ 4 + place < 4 := by omega
      simp only [BitVec.getLsbD_ushiftRight, BitVec.getLsbD_setWidth, BitVec.getLsbD_xor, UInt8.toBitVec_and,
        BitVec.getLsbD_and, shifted, getLsbD_nibble, past, decide_false, Bool.and_false, Bool.xor_false]
      by_cases low : place < 4
      · have fits : 4 + place < 32 := by omega
        simp only [low, fits, inside, decide_true, Bool.true_and, Bool.and_true]
      · have none : data.toBitVec.getLsbD (4 + place) = false := BitVec.getLsbD_of_ge _ _ (by omega)
        simp only [none, Bool.and_false, Bool.false_and]
    · intro place below
      simp only [BitVec.getLsbD_setWidth, BitVec.getLsbD_xor, UInt8.toBitVec_and, BitVec.getLsbD_and, getLsbD_nibble,
        below, decide_true, Bool.and_true, Bool.xor_self, Bool.and_false]
  calc (crcUpdate state data).toBitVec
    _ = shifts crcFeedback 4 (shifts crcFeedback 4 (state.toBitVec ^^^ ((data &&& 0x0f).toBitVec).setWidth 32) ^^^
          ((data >>> 4 &&& 0x0f).toBitVec).setWidth 32) := by
      rw [crcUpdate_halves, half_shifts, half_shifts]
    _ = shifts crcFeedback 4 (shifts crcFeedback 4 (state.toBitVec ^^^ data.toBitVec.setWidth 32)) := by
      rw [← high, ← shifts_xor, BitVec.xor_assoc, ← BitVec.setWidth_xor, BitVec.xor_comm data.toBitVec,
        ← BitVec.xor_assoc (data &&& 0x0f).toBitVec, BitVec.xor_self, BitVec.zero_xor]
    _ = feed crcFeedback state.toBitVec (byteBits data) := by
      rw [feed_word _ (by rw [length_byteBits]; decide), word_byteBits, length_byteBits]
      rfl

theorem foldl_crcUpdate (state : UInt32) (data : List UInt8) :
    (data.foldl crcUpdate state).toBitVec = feed crcFeedback state.toBitVec (dataBits data) := by
  induction data generalizing state with
  | nil => rfl
  | cons byte data ih =>
    rw [List.foldl_cons, ih, crcUpdate_feed, ← feed_append]
    rfl

end Division

/-- The table-driven check is the division that takes one bit in at a time. -/
theorem crc32_feed (data : List UInt8) :
    (crc32 data).toBitVec = ~~~(feed crcFeedback (BitVec.allOnes 32) (dataBits data)) := by
  rw [crc32, UInt32.toBitVec_not, foldl_crcUpdate]
  rfl

section Damage

theorem byteBits_injective : Function.Injective byteBits := by
  intro one two same
  apply UInt8.toBitVec_inj.mp
  apply BitVec.eq_of_getLsbD_eq
  intro place inside
  exact List.map_inj_left.mp same place (List.mem_range.mpr inside)

theorem dataBits_injective : Function.Injective dataBits := by
  intro one
  induction one with
  | nil =>
    intro two same
    cases two with
    | nil => rfl
    | cons byte two =>
      have lengths := congrArg List.length same
      simp only [dataBits, List.flatMap_nil, List.flatMap_cons, List.length_append, length_byteBits, List.length_nil] at lengths
      omega
  | cons byte one ih =>
    intro two same
    cases two with
    | nil =>
      have lengths := congrArg List.length same
      simp only [dataBits, List.flatMap_nil, List.flatMap_cons, List.length_append, length_byteBits, List.length_nil] at lengths
      omega
    | cons other two =>
      have lengths : (byteBits byte).length = (byteBits other).length := by rw [length_byteBits, length_byteBits]
      simp only [dataBits, List.flatMap_cons] at same
      obtain ⟨first, rest⟩ := List.append_inj same lengths
      rw [byteBits_injective first, ih rest]

/-- Data that differ within 32 consecutive bits differ in the check. -/
theorem crc32_burst {one two : List UInt8} (burst : Burst 32 (dataBits one) (dataBits two))
    (same : crc32 one = crc32 two) : one = two := by
  have words := congrArg UInt32.toBitVec same
  rw [crc32, crc32, UInt32.toBitVec_not, UInt32.toBitVec_not, foldl_crcUpdate, foldl_crcUpdate,
    BitVec.not_inj] at words
  exact dataBits_injective (feed_burst (by decide) _ burst words)

theorem reads_unique {written : List UInt8} {one two : Nat} (first : Reads written one)
    (second : Reads written two) : one = two := by
  obtain ⟨digits, plain, rfl, rfl⟩ := first
  obtain ⟨others, common, same, rfl⟩ := second
  have equal : digits = others := by
    have texts := congrArg text same
    rw [text_map_digits digits plain, text_map_digits others common] at texts
    exact String.ofList_injective texts
  rw [equal]

theorem crc32_of_check {one two : List UInt8} (same : generateNetPackCRC one = generateNetPackCRC two) :
    crc32 one = crc32 two := by
  have first := (generateNetPackCRC_reads one).1
  rw [same] at first
  exact UInt32.toNat_inj.mp (reads_unique first (generateNetPackCRC_reads two).1)

end Damage

section Receiving

variable {sameDay : Int → Bool} {trim check : Bool}

/-- Every packet taken off passed with its check. -/
def Checked (packs : List NetPackage) : Prop := ∀ pack ∈ packs, checkNetPackCRC pack = true

theorem checked_append {packs : List NetPackage} {pack : NetPackage} (checked : Checked packs)
    (passes : checkNetPackCRC pack = true) : Checked (packs ++ [pack]) := by
  intro other member
  rcases List.mem_append.mp member with earlier | last
  · exact checked other earlier
  · rw [List.mem_singleton.mp last]
    exact passes

def LeavesChecked : Pass (Received × Point) (Int × Received) → Prop
  | .again (next, _) => Checked next.recvedDatas
  | .leave (_, left) => Checked left.recvedDatas
  | .undefined => True

/-- No pass of the receiver's loops takes off a packet that fails. -/
theorem checked_pass {state : Received} {point : Point} (checked : Checked state.recvedDatas) :
    LeavesChecked (receive sameDay trim check (state, point)) := by
  cases point with
  | search =>
    simp only [receive]
    repeat' split
    all_goals exact checked
  | scan place compared =>
    simp only [receive]
    repeat' split
    all_goals first | exact checked | exact trivial | exact checked_append checked (by assumption)

theorem checked_call {fuel : Nat} {vctBuffer : List UInt8} {recvedDatas : List NetPackage} {result : Int × Received}
    (checked : Checked recvedDatas)
    (ran : recvPackage sameDay fuel vctBuffer recvedDatas trim check = some result) :
    Checked result.2.recvedDatas := by
  unfold recvPackage at ran
  split at ran
  · cases ran
    exact checked
  · obtain ⟨last, visits, left⟩ := Loop.Returns.leaves ⟨fuel, ran⟩
    have before : Checked last.1.recvedDatas := by
      refine @Loop.Visits.invariant _ _ _ _ _ (fun state => Checked state.1.recvedDatas) visits ?_ checked
      intro state next held goes
      have kept := @checked_pass sameDay trim check state.1 state.2 held
      rw [goes] at kept
      exact kept
    have kept := @checked_pass sameDay trim check last.1 last.2 before
    rw [left] at kept
    exact kept

theorem checked_fed {first last : Feed UInt8 NetPackage} {chunks : List (List UInt8)}
    (fed : Fed (Receives sameDay trim check) first chunks last) (checked : Checked first.taken) :
    Checked last.taken := by
  induction fed with
  | nil => exact checked
  | cons received _ ih =>
    obtain ⟨fuel, code, ran⟩ := received
    exact ih (checked_call checked ran)

end Receiving

/-- However the bytes come in, the receiver takes off no packet whose data were damaged
within 32 consecutive bits under the check they were sent with. -/
theorem damage_never_received (sameDay : Int → Bool) (bTrimWasteData bCheckTimestamp : Bool)
    (chunks : List (List UInt8)) (last : Feed UInt8 NetPackage)
    (fed : Fed (Receives sameDay bTrimWasteData bCheckTimestamp) ⟨[], []⟩ chunks last)
    (pack : NetPackage) (taken : pack ∈ last.taken) (sent : List UInt8) (damaged : pack.data ≠ sent)
    (burst : Burst 32 (dataBits sent) (dataBits pack.data)) :
    pack.head.check ≠ generateNetPackCRC sent := by
  intro same
  have passes := checked_fed fed (fun _ member => absurd member List.not_mem_nil) pack taken
  rw [checkNetPackCRC, beq_iff_eq, same] at passes
  exact damaged (crc32_burst burst (crc32_of_check passes.symm)).symm

/-- The packet of the quoted marker does not have the check of another word. -/
theorem damage_never_received_quoted : (packOf quoted).head.check ≠ generateNetPackCRC [79, 69, 84, 58] := by
  have accepted : Accepted quoted := ⟨by decide, by decide, by decide⟩
  have received : Receives (fun _ => false) true false ⟨[], []⟩ (piece quoted).1 ⟨[], [packOf quoted]⟩ := by
    apply @receives_messages (fun _ => false) true false [] [quoted] []
    · intro message member
      rw [List.mem_singleton.mp member]
      exact ⟨accepted.laid, rfl⟩
    · simp only [List.map_cons, List.map_nil, List.flatten_cons, List.flatten_nil, List.append_nil, List.nil_append]
    · exact .inl rfl
  apply damage_never_received (fun _ => false) true false _ _ (.cons received (.nil _)) (packOf quoted)
    List.mem_cons_self
  · decide
  · exact ⟨[], dataBits [79, 69, 84, 58], dataBits quoted.data, [], by decide, by decide, by decide, by decide⟩

end Simutgw.Proofs.PacketCheck
