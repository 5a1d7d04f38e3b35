import Simutgw.Proofs.BinaryStream

/-! The checksum of a binary packet. The encoders write the sum of the bytes as it is
meant; the check on the other side looks at the lengths alone, so that it notices a
changed byte only in the length. -/

namespace Simutgw.Proofs.BinaryCheckSum
open Binary BinaryPacketAssembler BinaryFraming BinaryStream

section Sums

variable {bytes : List UInt8}

def byteSum (bytes : List UInt8) : Nat := (bytes.map UInt8.toNat).sum

theorem foldl_words {word : UInt8 → UInt32} (alike : ∀ byte : UInt8, (word byte).toNat % 256 = byte.toNat % 256)
    (cks : UInt32) :
    (bytes.foldl (fun cks byte => cks + word byte) cks).toNat % 256 = (cks.toNat + byteSum bytes) % 256 := by
  induction bytes generalizing cks with
  | nil => rfl
  | cons byte bytes ih =>
    have here := alike byte
    rw [List.foldl_cons, ih, UInt32.toNat_add, byteSum, byteSum, List.map_cons, List.sum_cons]
    omega

theorem generateCheckSum_whole {bufLen : UInt32} (covers : bytes.length ≤ bufLen.toNat) :
    (generateCheckSum bytes 0 bufLen).toNat = byteSum bytes % 256 := by
  have sum := @foldl_words bytes UInt8.toUInt32 (fun byte => by rw [UInt8.toNat_toUInt32]) 0
  rw [generateCheckSum, List.drop_zero, List.take_of_length_le covers, UInt32.toNat_mod]
  rw [UInt32.toNat_zero, Nat.zero_add] at sum
  exact sum

theorem generateCheckSumChars_whole {bufLen : UInt32} (covers : bytes.length = bufLen.toNat) :
    generateCheckSumChars bytes bufLen = some (generateCheckSum bytes 0 bufLen) := by
  have signed (byte : UInt8) :
      (if byte < 128 then byte.toUInt32 else byte.toUInt32 - 256).toNat % 256 = byte.toNat % 256 := by
    have small := byte.toNat_lt
    split
    · rw [UInt8.toNat_toUInt32]
    · rw [UInt32.toNat_sub, UInt8.toNat_toUInt32]
      simp only [UInt32.reduceToNat]
      omega
  have inside : ¬ bytes.length < bufLen.toNat := by omega
  have sum := @foldl_words bytes _ signed 0
  rw [generateCheckSumChars, if_neg inside, Option.some.injEq, ← UInt32.toNat_inj,
    generateCheckSum_whole (Nat.le_of_eq covers), ← covers, List.take_length, UInt32.toNat_mod]
  rw [UInt32.toNat_zero, Nat.zero_add] at sum
  exact sum

end Sums

/-- The last four bytes, read in the order of the network, are the sum of those before
them, modulo 256. -/
def Summed (bytes : List UInt8) : Prop :=
  ∃ front tail, bytes = front ++ tail ∧ tail.length = 4 ∧ (ntohl tail).toNat = byteSum front % 256

/-- The buffer is as long as the head and tail around a body of the packet's length, in
words of 32 bits and more than four bytes, or empty where there is no body. -/
def Sized (pack : BinaryNetPack) : Prop :=
  if pack.ui32BodyLength = 0 then pack.vctBuffer = []
  else 4 < pack.vctBuffer.length ∧ pack.vctBuffer.length = (netPackLen pack.ui32BodyLength).toNat

/-- The check passes a packet just when the sum in its tail is right. -/
def Lawful (pack : BinaryNetPack) : Prop := isPackageCheckSumValid (some pack) = true ↔ Summed pack.vctBuffer

/-- The packets that break the check: without a body there is nothing to sum, with one the
right length hides a wrong sum, and another length a right one. -/
inductive Breaks (pack : BinaryNetPack) : Prop
  | bodiless (none : pack.ui32BodyLength = 0) (empty : pack.vctBuffer = [])
  | wrongSum (some : pack.ui32BodyLength ≠ 0) (sized : Sized pack) (unsummed : ¬ Summed pack.vctBuffer)
  | otherLength (unsized : ¬ Sized pack) (summed : Summed pack.vctBuffer)

theorem valid_iff_sized (pack : BinaryNetPack) : isPackageCheckSumValid (some pack) = true ↔ Sized pack := by
  have point : headSize + tailSize + pack.ui32BodyLength = netPackLen pack.ui32BodyLength := by
    rw [netPackLen, UInt32.add_assoc, UInt32.add_comm tailSize, ← UInt32.add_assoc]
  by_cases empty : pack.ui32BodyLength = 0
  · simp only [isPackageCheckSumValid, Sized, empty, if_true, decide_eq_true_eq, List.length_eq_zero_iff]
  · simp only [isPackageCheckSumValid, Sized, empty, if_false, point]
    split
    next few => exact iff_of_false Bool.false_ne_true (fun sized => absurd sized.1 (Nat.not_lt.mpr few))
    next several =>
      rw [decide_eq_true_eq]
      exact (and_iff_right (Nat.lt_of_not_le several)).symm

theorem lawful_iff (pack : BinaryNetPack) : Lawful pack ↔ ¬ Breaks pack := by
  rw [Lawful, valid_iff_sized]
  constructor
  · intro lawful breaks
    cases breaks with
    | bodiless none empty =>
      have sized : Sized pack := by
        rw [Sized, if_pos none]
        exact empty
      obtain ⟨front, tail, split, four, _⟩ := lawful.mp sized
      rw [empty, List.nil_eq_append_iff] at split
      rw [split.2] at four
      cases four
    | wrongSum _ sized unsummed => exact unsummed (lawful.mp sized)
    | otherLength unsized summed => exact unsized (lawful.mpr summed)
  · intro sound
    constructor
    · intro sized
      by_contra unsummed
      by_cases none : pack.ui32BodyLength = 0
      · rw [Sized, if_pos none] at sized
        exact sound (.bodiless none sized)
      · exact sound (.wrongSum none sized unsummed)
    · intro summed
      by_contra unsized
      exact sound (.otherLength unsized summed)

section Changes

/-- The packet the receiver makes of these bytes. -/
def packFrom (bytes : List UInt8) : BinaryNetPack where
  ui32MsgType := ntohl (bytes.take 4)
  ui32BodyLength := declared bytes
  vctBuffer := if 0 < declared bytes then bytes else []

/-- What the encoder writes for a message. -/
def encoded (message : LocalPack) : List UInt8 := frame message.msgType message.body

theorem ntohl_inj {one two : List UInt8} (ones : one.length = 4) (twos : two.length = 4) (same : ntohl one = ntohl two) :
    one = two := by
  obtain ⟨a, b, c, d, rfl⟩ := List.length_eq_four.mp ones
  obtain ⟨e, f, g, h, rfl⟩ := List.length_eq_four.mp twos
  have words := congrArg UInt32.toNat same
  rw [toNat_ntohl, toNat_ntohl] at words
  have second := b.toNat_lt
  have third := c.toNat_lt
  have fourth := d.toNat_lt
  have sixth := f.toNat_lt
  have seventh := g.toNat_lt
  have eighth := h.toNat_lt
  have heads : a.toNat = e.toNat ∧ b.toNat = f.toNat ∧ c.toNat = g.toNat ∧ d.toNat = h.toNat := by omega
  rw [UInt8.toNat_inj.mp heads.1, UInt8.toNat_inj.mp heads.2.1, UInt8.toNat_inj.mp heads.2.2.1,
    UInt8.toNat_inj.mp heads.2.2.2]

theorem declared_set {bytes : List UInt8} {place : Nat} {byte : UInt8} (long : 8 ≤ bytes.length)
    (differs : bytes[place]? ≠ some byte) :
    declared (bytes.set place byte) ≠ declared bytes ↔ 4 ≤ place ∧ place < 8 := by
  have taken : (bytes.set place byte).take 8 = (bytes.take 8).set place byte := List.take_set
  unfold declared
  rw [taken]
  constructor
  · intro changed
    by_contra outside
    apply changed
    by_cases before : place < 4
    · rw [List.drop_set_of_lt before]
    · rw [List.set_eq_of_length_le (by rw [List.length_take]; omega)]
  · rintro ⟨from_four, before⟩ same
    have words := ntohl_inj (by simp only [List.length_drop, List.length_set, List.length_take]; omega)
      (by simp only [List.length_drop, List.length_take]; omega) same
    have here := congrArg (·[place - 4]?) words
    simp only [List.getElem?_drop] at here
    rw [show 4 + (place - 4) = place by omega, List.getElem?_set_self (by rw [List.length_take]; omega),
      List.getElem?_take_of_lt before] at here
    exact differs here.symm

theorem packFrom_valid_iff (bytes : List UInt8) :
    isPackageCheckSumValid (some (packFrom bytes)) = true ↔
      declared bytes = 0 ∨ 4 < bytes.length ∧ bytes.length = (netPackLen (declared bytes)).toNat := by
  rw [valid_iff_sized, Sized]
  by_cases empty : declared bytes = 0
  · simp only [packFrom, empty, if_true, UInt32.lt_irrefl, if_false, true_or]
  · have positive : 0 < declared bytes := UInt32.pos_iff_ne_zero.mpr empty
    simp only [packFrom, empty, if_false, positive, if_true, false_or]

theorem encoded_length (message : LocalPack) : (encoded message).length = 8 + message.body.length + 4 :=
  frame_length _ _

theorem declared_encoded (message : LocalPack) : (declared (encoded message)).toNat = message.body.length := by
  have short := body_short message
  have length := encoded_length message
  have read : declared (encoded message) = .ofNat message.body.length :=
    declared_frame (by omega) (List.append_nil _).symm
  rw [read, UInt32.toNat_ofNat', Nat.mod_eq_of_lt (by omega)]

/-- A packet of an encoder's length passes just when its head declares the encoder's own
body length, or none. -/
theorem resized_valid_iff (message : LocalPack) {bytes : List UInt8} (same : bytes.length = (encoded message).length) :
    isPackageCheckSumValid (some (packFrom bytes)) = true ↔
      declared bytes = 0 ∨ declared bytes = declared (encoded message) := by
  have short := body_short message
  have length := encoded_length message
  have own := declared_encoded message
  have small := (declared bytes).toNat_lt
  rw [packFrom_valid_iff, netPackLen_toNat, same, length, ← @UInt32.toNat_inj (declared bytes) (declared (encoded message)),
    own]
  have fits : 4 < 8 + message.body.length + 4 ∧
      8 + message.body.length + 4 = (8 + (declared bytes).toNat + 4) % 2 ^ 32 ↔
        (declared bytes).toNat = message.body.length := by omega
  rw [fits]

theorem encoded_summed (message : LocalPack) : Summed (encoded message) := by
  have short := body_short message
  refine ⟨covered message.msgType message.body, _, rfl, htonl_length _, ?_⟩
  rw [ntohl_htonl]
  apply generateCheckSum_whole
  rw [covered_length, UInt32.toNat_add, UInt32.toNat_ofNat']
  simp only [headSize, UInt32.reduceToNat]
  omega

theorem encoded_valid (message : LocalPack) : isPackageCheckSumValid (some (packFrom (encoded message))) = true :=
  (resized_valid_iff message rfl).mpr (.inr rfl)

/-- A changed byte is noticed only in the length, and not where the length becomes 0. -/
theorem changed_rejected_iff (message : LocalPack) {place : Nat} {byte : UInt8}
    (differs : (encoded message)[place]? ≠ some byte) :
    isPackageCheckSumValid (some (packFrom ((encoded message).set place byte))) = false ↔
      (4 ≤ place ∧ place < 8) ∧ declared ((encoded message).set place byte) ≠ 0 := by
  have long : 8 ≤ (encoded message).length := by
    rw [encoded_length]
    omega
  rw [← Bool.not_eq_true, resized_valid_iff message List.length_set, not_or, ← declared_set long differs]
  exact and_comm

end Changes

/-- The check keeps its promise for the packets that do not break it. Both sums are the
plain one; the check passes all that the encoders write, and rejects a change of one
byte of it just when the byte is one of the body length's and the length is not 0 then. -/
theorem checkSumValid_lawful_iff (pack : BinaryNetPack) (message : LocalPack) (place : Nat) (byte : UInt8)
    (differs : (encoded message)[place]? ≠ some byte) :
    (Lawful pack ↔ ¬ Breaks pack) ∧
      (∀ (bytes : List UInt8) (bufLen : UInt32), bytes.length = bufLen.toNat →
        (generateCheckSum bytes 0 bufLen).toNat = byteSum bytes % 256 ∧
          generateCheckSumChars bytes bufLen = some (generateCheckSum bytes 0 bufLen)) ∧
      ((∀ out_vctData, message.toNetBuffer out_vctData = some (0, encoded message)) ∧ Summed (encoded message) ∧
        isPackageCheckSumValid (some (packFrom (encoded message))) = true) ∧
      (isPackageCheckSumValid (some (packFrom ((encoded message).set place byte))) = false ↔
        (4 ≤ place ∧ place < 8) ∧ declared ((encoded message).set place byte) ≠ 0) := by
  refine ⟨lawful_iff pack, fun bytes bufLen covers => ?_,
    ⟨toNetBuffer_frame message, encoded_summed message, encoded_valid message⟩, changed_rejected_iff message differs⟩
  exact ⟨generateCheckSum_whole (Nat.le_of_eq covers), generateCheckSumChars_whole covers⟩

/-- A heartbeat whose length is changed to 9. -/
theorem checkSumValid_lawful_iff_heartbeat :
    (Lawful (packFrom (encoded .heartbeat)) ↔ ¬ Breaks (packFrom (encoded .heartbeat))) ∧
      ((∀ out_vctData, LocalPack.heartbeat.toNetBuffer out_vctData = some (0, encoded .heartbeat)) ∧
        Summed (encoded .heartbeat) ∧ isPackageCheckSumValid (some (packFrom (encoded .heartbeat))) = true) ∧
      (isPackageCheckSumValid (some (packFrom ((encoded .heartbeat).set 7 9))) = false ↔
        (4 ≤ 7 ∧ 7 < 8) ∧ declared ((encoded .heartbeat).set 7 9) ≠ 0) := by
  obtain ⟨lawful, _, whole, changed⟩ :=
    checkSumValid_lawful_iff (packFrom (encoded .heartbeat)) .heartbeat 7 9 (by decide)
  exact ⟨lawful, whole, changed⟩

/-- A synchronisation of the index 0 with a byte of the index changed to 1. -/
def changedSynch : BinaryNetPack := packFrom ((encoded (.reportSynch ⟨0⟩)).set 8 1)

theorem changed_synch_passes : isPackageCheckSumValid (some changedSynch) = true ∧ ¬ Lawful changedSynch := by
  have passes : isPackageCheckSumValid (some changedSynch) = true := by decide
  refine ⟨passes, fun lawful => ?_⟩
  obtain ⟨front, tail, split, four, sum⟩ := lawful.mp passes
  have length : front.length = 16 := by
    have whole : changedSynch.vctBuffer.length = 20 := by decide
    rw [split, List.length_append, four] at whole
    omega
  have fronts := congrArg (List.take 16) split
  have tails := congrArg (List.drop 16) split
  rw [List.take_left' length] at fronts
  rw [List.drop_left' length] at tails
  rw [← fronts, ← tails] at sum
  exact absurd sum (by decide)

end Simutgw.Proofs.BinaryCheckSum
