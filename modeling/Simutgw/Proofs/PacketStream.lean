import Simutgw.Logic.Streams
import Simutgw.Proofs.PacketScan
import Simutgw.Proofs.DecimalText

/-! The text protocol's stream is received as it was sent, wherever the network cuts
it: the receiver stays at the packets' boundaries, so that a marker within the data
is never looked at. -/

namespace Simutgw.Proofs.PacketStream
open Logic PacketAssembler PacketScan SofString TgwStringUtil DecimalText

section Numerals

/-- A text of digits that stands for a number. -/
def Reads (written : List UInt8) (value : Nat) : Prop :=
  ∃ digits : List Char, (∀ digit ∈ digits, digit.isDigit) ∧
    written = digits.map (fun digit => UInt8.ofNat digit.toNat) ∧ Nat.ofDigitChars 10 digits 0 = value

variable {written : List UInt8} {value : Nat}

theorem digit_bounds {digit : Char} (isDigit : digit.isDigit) : 48 ≤ digit.toNat ∧ digit.toNat ≤ 57 := by
  simp only [Char.isDigit, Bool.and_eq_true, decide_eq_true_eq, ge_iff_le, UInt32.le_iff_toNat_le] at isDigit
  exact isDigit

theorem Reads.plain (reads : Reads written value) : ∀ byte ∈ written, byte ≠ 0 ∧ byte < 128 := by
  obtain ⟨digits, all, rfl, -⟩ := reads
  intro byte found
  obtain ⟨digit, member, rfl⟩ := List.mem_map.mp found
  have bounds := digit_bounds (all digit member)
  constructor
  · intro zero
    have same := congrArg UInt8.toNat zero
    simp only [UInt8.toNat_ofNat', UInt8.toNat_zero] at same
    omega
  · rw [UInt8.lt_iff_toNat_lt, UInt8.toNat_ofNat']
    have high : (128 : UInt8).toNat = 128 := rfl
    omega

theorem Reads.zeroFill (reads : Reads written value) (length : Nat) : Reads (zeroFill length written) value := by
  obtain ⟨digits, all, rfl, same⟩ := reads
  refine ⟨List.replicate (length - digits.length) '0' ++ digits, ?_, ?_, ?_⟩
  · intro digit found
    rcases List.mem_append.mp found with zero | own
    · rw [List.eq_of_mem_replicate zero]
      decide
    · exact all digit own
  · rw [List.map_append, List.map_replicate, PacketAssembler.zeroFill, List.length_map]
    rfl
  · rw [Nat.ofDigitChars_append, Nat.ofDigitChars_replicate_zero, Nat.mul_zero, same]

theorem text_map_digits (digits : List Char) (all : ∀ digit ∈ digits, digit.isDigit) :
    text (digits.map fun digit => UInt8.ofNat digit.toNat) = String.ofList digits := by
  rw [text, List.map_map]
  congr 1
  conv_rhs => rw [← List.map_id digits]
  apply List.map_congr_left
  intro digit found
  have bounds := digit_bounds (all digit found)
  simp only [Function.comp_apply, UInt8.toNat_ofNat', id_eq]
  rw [Nat.mod_eq_of_lt (by omega), Char.ofNat_toNat]

theorem Reads.atoi (reads : Reads written value) (some : written ≠ []) (small : value < 2 ^ 31) :
    string2IntAtoi (text written) = value := by
  obtain ⟨digits, all, rfl, same⟩ := reads
  have nonempty : digits ≠ [] := fun none => some (by rw [none, List.map_nil])
  rw [text_map_digits digits all, string2IntAtoi, String.toList_ofList,
    strtoll_digits all (by rw [same]; omega), same]
  have printed : (String.ofList digits).isEmpty = false := by
    rw [← Bool.not_eq_true, String.isEmpty_iff]
    intro empty
    exact nonempty (by rw [← String.toList_ofList (l := digits), empty]; rfl)
  rw [printed, if_neg Bool.false_ne_true, Int.bmod_eq_of_le (by omega) (by omega)]

theorem bytes_itostr (val : UInt64) :
    bytes (itostr val) = (Nat.toDigits 10 val.toNat).map fun digit => UInt8.ofNat digit.toNat := by
  rw [bytes, itostr_toList]

theorem reads_itostr (val : UInt64) : Reads (bytes (itostr val)) val.toNat :=
  ⟨Nat.toDigits 10 val.toNat, fun _ found => Nat.isDigit_of_mem_toDigits (by decide) (by decide) found,
    bytes_itostr val, Nat.ofDigitChars_ten_toDigits⟩

theorem length_itostr_le_iff {val : UInt64} {length : Nat} (positive : 0 < length) :
    (bytes (itostr val)).length ≤ length ↔ val.toNat < 10 ^ length := by
  rw [bytes_itostr, List.length_map]
  exact Nat.length_toDigits_le_iff (by decide) positive

theorem length_zeroFill {length : Nat} (fits : written.length ≤ length) : (zeroFill length written).length = length := by
  rw [zeroFill, List.length_append, List.length_replicate]
  omega

end Numerals

section Heads

/-- The texts of the fields of a head, in their order, each as long as its field. -/
structure Fields where
  version : List UInt8
  timestamp : List UInt8
  type : List UInt8
  datalen : List UInt8
  check : List UInt8
  headcksum : List UInt8
  plain : ∀ written ∈ [version, timestamp, type, datalen, check, headcksum],
    ∀ byte ∈ written, byte ≠ 0 ∧ byte < 128
  lengths : version.length = 4 ∧ timestamp.length = 10 ∧ type.length = 4 ∧ datalen.length = 4 ∧
    check.length = 16 ∧ headcksum.length = 6

namespace Fields

/-- What stands in front of the head's own checksum. -/
def front (fields : Fields) : List UInt8 :=
  netpackBeginstring ++ (fields.version ++ (fields.timestamp ++ (fields.type ++ (fields.datalen ++ fields.check))))

def head (fields : Fields) : List UInt8 := fields.front ++ fields.headcksum

theorem length_front (fields : Fields) : fields.front.length = 42 := by
  obtain ⟨version, timestamp, type, datalen, check, headcksum⟩ := fields.lengths
  simp only [front, List.length_append, version, timestamp, type, datalen, check, netpackBeginstring, List.length_cons,
    List.length_nil]

theorem length_head (fields : Fields) : fields.head.length = 48 := by
  rw [head, List.length_append, length_front, fields.lengths.2.2.2.2.2]

end Fields

theorem field_here {written rest : List UInt8} (plain : ∀ byte ∈ written, byte ≠ 0 ∧ byte < 128) :
    field (written ++ rest) 0 written.length = written := by
  have whole : ∀ byte ∈ written, (byte != 0) = true := fun byte found => bne_iff_ne.mpr (plain byte found).1
  rw [field, List.drop_zero, List.takeWhile_append_of_pos whole, List.take_left']
  rfl

theorem field_skip {front rest : List UInt8} {start length : Nat} (covers : front.length ≤ start) :
    field (front ++ rest) start length = field rest (start - front.length) length := by
  rw [field, field, List.drop_append, List.drop_eq_nil_of_le covers, List.nil_append]

theorem begin_plain : ∀ byte ∈ netpackBeginstring, byte ≠ 0 ∧ byte < 128 := by
  intro byte found
  simp only [netpackBeginstring, List.mem_cons, List.not_mem_nil, or_false] at found
  rcases found with rfl | rfl | rfl | rfl <;> exact ⟨by simp, by simp⟩

theorem fields_of_head (fields : Fields) :
    field fields.head 0 netpackBeginstrLen = netpackBeginstring ∧
    field fields.head 4 netpackVersionLen = fields.version ∧
    field fields.head 8 netpackTimestampLen = fields.timestamp ∧
    field fields.head 18 netpackTypeLen = fields.type ∧
    field fields.head 22 netpackDatalenLen = fields.datalen ∧
    field fields.head 26 netpackCheckLen = fields.check ∧
    field fields.head 42 netpackHeadcksumLen = fields.headcksum := by
  obtain ⟨version, timestamp, type, datalen, check, headcksum⟩ := fields.lengths
  have begins : netpackBeginstring.length = 4 := rfl
  have here {written : List UInt8} (rest : List UInt8) {length : Nat} (long : written.length = length)
      (own : written ∈ [fields.version, fields.timestamp, fields.type, fields.datalen, fields.check, fields.headcksum]) :
      field (written ++ rest) 0 length = written := by
    rw [← long]
    exact field_here (fields.plain written own)
  simp only [Fields.head, Fields.front, List.append_assoc, netpackBeginstrLen, netpackVersionLen, netpackTimestampLen,
    netpackTypeLen, netpackDatalenLen, netpackCheckLen, netpackHeadcksumLen]
  refine ⟨?_, ?_, ?_, ?_, ?_, ?_, ?_⟩
  · rw [← begins]
    exact field_here begin_plain
  · rw [field_skip (by omega), begins]
    exact here _ version (by simp)
  · rw [field_skip (by omega), field_skip (by omega), begins, version]
    exact here _ timestamp (by simp)
  · rw [field_skip (by omega), field_skip (by omega), field_skip (by omega), begins, version, timestamp]
    exact here _ type (by simp)
  · rw [field_skip (by omega), field_skip (by omega), field_skip (by omega), field_skip (by omega), begins, version,
      timestamp, type]
    exact here _ datalen (by simp)
  · rw [field_skip (by omega), field_skip (by omega), field_skip (by omega), field_skip (by omega),
      field_skip (by omega), begins, version, timestamp, type, datalen]
    exact here _ check (by simp)
  · rw [field_skip (by omega), field_skip (by omega), field_skip (by omega), field_skip (by omega),
      field_skip (by omega), field_skip (by omega), begins, version, timestamp, type, datalen, check]
    have last := here [] headcksum (by simp)
    rwa [List.append_nil] at last

theorem checksums_agree {front rest : List UInt8} (plain : ∀ byte ∈ front, byte < 128) (length : front.length = 42) :
    generateHeadChecksum (front ++ rest) = generateChecksum front 0 := by
  have taken : (front ++ rest).take (netPackageHeadLen - netpackHeadcksumLen) = front := List.take_left' length
  have all : (front.drop 0).take (netPackageHeadLen - netpackHeadcksumLen) = front := by
    rw [List.drop_zero]
    exact List.take_of_length_le (Nat.le_of_eq length)
  rw [generateHeadChecksum, generateChecksum, taken, all]
  congr 3
  apply List.foldl_ext
  intro cksum byte found
  simp only [plain byte found, if_true]

theorem generateChecksum_range (vctData : List UInt8) (iBeginPos : Nat) :
    0 ≤ generateChecksum vctData iBeginPos ∧ generateChecksum vctData iBeginPos < 131072 := by
  rw [generateChecksum]
  refine ⟨Int.natCast_nonneg _, ?_⟩
  rw [UInt64.toNat_mod]
  have small := Nat.mod_lt (List.foldl (fun cksum byte => cksum + byte.toUInt64) (0 : UInt64)
    ((vctData.drop iBeginPos).take (netPackageHeadLen - netpackHeadcksumLen))).toNat
    (show 0 < (131072 : UInt64).toNat by decide)
  have bound : (131072 : UInt64).toNat = 131072 := rfl
  omega

end Heads

section Messages

structure Message where
  iType : Int
  iTimeStamp : Int
  data : List UInt8
deriving DecidableEq

/-- What the sender lays out as the format means it: a type of four digits, a stamp of
ten, and some data whose length has four. -/
structure Accepted (message : Message) : Prop where
  iType : 0 ≤ message.iType ∧ message.iType ≤ 9999
  iTimeStamp : 1000000000 ≤ message.iTimeStamp ∧ message.iTimeStamp < 2 ^ 31
  data : 0 < message.data.length ∧ message.data.length ≤ 9999

/-- A message that fills its head: the stamp is ten characters long, with a sign or
without. -/
structure Laid (message : Message) : Prop where
  iType : 0 ≤ message.iType ∧ message.iType ≤ 9999
  iTimeStamp : 1000000000 ≤ message.iTimeStamp ∧ message.iTimeStamp < 2 ^ 31 ∨
    -1000000000 < message.iTimeStamp ∧ message.iTimeStamp ≤ -100000000
  data : 0 < message.data.length ∧ message.data.length ≤ 9999

theorem Accepted.laid {message : Message} (accepted : Accepted message) : Laid message :=
  ⟨accepted.iType, .inl accepted.iTimeStamp, accepted.data⟩

/-- The numeral of a number in a word. -/
def numeral (value : Int) : List UInt8 := bytes (itostr (UInt64.ofNat value.natAbs))

theorem numeral_reads (value : Int) (fits : value.natAbs < 2 ^ 64) : Reads (numeral value) value.natAbs := by
  have reads := reads_itostr (UInt64.ofNat value.natAbs)
  rwa [UInt64.toNat_ofNat', Nat.mod_eq_of_lt fits] at reads

theorem length_numeral_le_iff {value : Int} (fits : value.natAbs < 2 ^ 64) {length : Nat} (positive : 0 < length) :
    (numeral value).length ≤ length ↔ value.natAbs < 10 ^ length := by
  rw [numeral, length_itostr_le_iff positive, UInt64.toNat_ofNat', Nat.mod_eq_of_lt fits]

/-- The text of a signed number. -/
def spelled (value : Int) : List UInt8 := bytes (itostrInt value)

theorem spelled_of_nonneg {value : Int} (nonneg : 0 ≤ value) : spelled value = numeral value := by
  rw [spelled, itostrInt, if_neg (by omega), numeral]

theorem spelled_of_neg {value : Int} (negative : value < 0) : spelled value = 45 :: numeral value := by
  rw [spelled, itostrInt, if_pos negative, numeral, bytes, bytes, String.toList_append, List.map_append]
  rfl

theorem spelled_reads {value : Int} (nonneg : 0 ≤ value) (fits : value.natAbs < 2 ^ 64) :
    Reads (spelled value) value.natAbs := by
  rw [spelled_of_nonneg nonneg]
  exact numeral_reads value fits

theorem spelled_plain (value : Int) : ∀ byte ∈ spelled value, byte ≠ 0 ∧ byte < 128 := by
  have plain := (reads_itostr (UInt64.ofNat value.natAbs)).plain
  rcases Int.lt_or_le value 0 with negative | nonneg
  · rw [spelled_of_neg negative]
    exact List.forall_mem_cons.mpr ⟨⟨by decide, by decide⟩, plain⟩
  · rwa [spelled_of_nonneg nonneg]

/-- A number is read back from its text, the sign with it. -/
theorem atoi_spelled {value : Int} (low : -2 ^ 31 ≤ value) (high : value < 2 ^ 31) :
    string2IntAtoi (text (spelled value)) = value := by
  have reads := numeral_reads value (by omega)
  rcases Int.lt_or_le value 0 with negative | nonneg
  · obtain ⟨digits, all, written, same⟩ := reads
    have signed : text (45 :: digits.map fun digit => UInt8.ofNat digit.toNat) = String.ofList ('-' :: digits) := by
      have tail := congrArg String.toList (text_map_digits digits all)
      rw [text, String.toList_ofList, String.toList_ofList] at tail
      rw [text, List.map_cons, tail]
      rfl
    have printed : (String.ofList ('-' :: digits)).isEmpty = false := by
      rw [← Bool.not_eq_true, String.isEmpty_iff]
      intro empty
      have none := congrArg String.toList empty
      rw [String.toList_ofList] at none
      cases none
    rw [spelled_of_neg negative, written, signed, string2IntAtoi, printed, String.toList_ofList,
      strtoll_minus all (by rw [same]; omega), same, if_neg Bool.false_ne_true, Int.bmod_eq_of_le (by omega) (by omega)]
    omega
  · have some : numeral value ≠ [] := by
      rw [numeral, bytes_itostr, ne_eq, List.map_eq_nil_iff]
      exact Nat.toDigits_ne_nil
    rw [spelled_of_nonneg nonneg, reads.atoi some (by omega)]
    omega

/-- A stamp is ten characters long with nine digits behind a sign or ten without. -/
theorem length_spelled_stamp {stamp : Int} (low : -2 ^ 31 ≤ stamp) (high : stamp < 2 ^ 31) :
    (spelled stamp).length = 10 ↔ 1000000000 ≤ stamp ∧ stamp < 2 ^ 31 ∨ -1000000000 < stamp ∧ stamp ≤ -100000000 := by
  have fits : stamp.natAbs < 2 ^ 64 := by omega
  have eight := length_numeral_le_iff fits (show 0 < 8 by decide)
  have nine := length_numeral_le_iff fits (show 0 < 9 by decide)
  have ten := length_numeral_le_iff fits (show 0 < 10 by decide)
  rcases Int.lt_or_le stamp 0 with negative | nonneg
  · rw [spelled_of_neg negative, List.length_cons]
    omega
  · rw [spelled_of_nonneg nonneg]
    omega

theorem generateNetPackCRC_reads (data : List UInt8) :
    Reads (generateNetPackCRC data) (crc32 data).toNat ∧ (generateNetPackCRC data).length = 16 := by
  have bound := (crc32 data).toNat_lt
  have reads := reads_itostr (crc32 data).toUInt64
  have short : (bytes (itostr (crc32 data).toUInt64)).length ≤ 10 :=
    (length_itostr_le_iff (by decide)).mpr (by rw [UInt32.toNat_toUInt64]; omega)
  have kept : ¬ netpackCheckLen < (bytes (itostr (crc32 data).toUInt64)).length := by
    simp only [netpackCheckLen]
    omega
  simp only [generateNetPackCRC, kept, if_false]
  rw [UInt32.toNat_toUInt64] at reads
  exact ⟨reads.zeroFill _, length_zeroFill (Nat.le_of_not_lt kept)⟩

/-- What stands in front of the head's own checksum. -/
def frontText (message : Message) : List UInt8 :=
  netpackBeginstring ++ (zeroFill 4 (spelled 1) ++ (spelled message.iTimeStamp ++
    (zeroFill 4 (spelled message.iType) ++ (zeroFill 4 (numeral message.data.length) ++
      generateNetPackCRC message.data))))

/-- The texts of the message's numbers are no longer than their fields. -/
structure Fits (message : Message) : Prop where
  iTimeStamp : (spelled message.iTimeStamp).length ≤ netpackTimestampLen
  iType : (spelled message.iType).length ≤ netpackTypeLen
  datalen : (numeral message.data.length).length ≤ netpackDatalenLen

theorem length_version : (zeroFill 4 (spelled 1)).length = 4 := by
  rw [spelled_of_nonneg (by decide)]
  exact length_zeroFill ((length_numeral_le_iff (by decide) (by decide)).mpr (by decide))

theorem Fits.length_frontText {message : Message} (fits : Fits message) :
    (frontText message).length = 32 + (spelled message.iTimeStamp).length := by
  have begins : netpackBeginstring.length = 4 := rfl
  have type : (zeroFill 4 (spelled message.iType)).length = 4 := length_zeroFill fits.iType
  have datalen : (zeroFill 4 (numeral message.data.length)).length = 4 := length_zeroFill fits.datalen
  simp only [frontText, List.length_append, begins, length_version, type, datalen,
    (generateNetPackCRC_reads message.data).2]
  omega

variable {message : Message}

theorem Laid.fits (laid : Laid message) : Fits message where
  iTimeStamp := by
    have stamp := laid.iTimeStamp
    exact Nat.le_of_eq ((length_spelled_stamp (by omega) (by omega)).mpr stamp)
  iType := by
    have type := laid.iType
    rw [spelled_of_nonneg type.1]
    exact (length_numeral_le_iff (by omega) (by decide)).mpr (by simp only [netpackTypeLen]; omega)
  datalen := by
    have data := laid.data
    exact (length_numeral_le_iff (by omega) (by decide)).mpr (by simp only [netpackDatalenLen]; omega)

theorem Laid.length_stamp (laid : Laid message) : (spelled message.iTimeStamp).length = 10 := by
  have stamp := laid.iTimeStamp
  exact (length_spelled_stamp (by omega) (by omega)).mpr stamp

theorem Laid.length_frontText (laid : Laid message) : (frontText message).length = 42 := by
  rw [laid.fits.length_frontText, laid.length_stamp]

/-- Where the sender starts to sum a head: at its front, unless it is too short for
what stands before it to make up for. -/
def sumsFrom (length : Nat) : Nat :=
  if netPackageHeadLen - netpackHeadcksumLen ≤ length then length - (netPackageHeadLen - netpackHeadcksumLen)
  else length + 2 ^ 64 - (netPackageHeadLen - netpackHeadcksumLen)

/-- The checksum that is sent with a message behind these bytes. -/
def sentChecksum (out_vctData : List UInt8) (message : Message) : Int :=
  generateChecksum (out_vctData ++ frontText message) (sumsFrom (out_vctData ++ frontText message).length)

theorem sentChecksum_range (out_vctData : List UInt8) (message : Message) :
    0 ≤ sentChecksum out_vctData message ∧ sentChecksum out_vctData message < 131072 :=
  generateChecksum_range _ _

theorem ofInt_of_nonneg {value : Int} (nonneg : 0 ≤ value) (small : value < 2 ^ 64) :
    UInt64.ofInt value = UInt64.ofNat value.natAbs := by
  rw [UInt64.ofInt, Int.emod_eq_of_lt nonneg small]
  congr 1
  omega

section Sending

variable (clock : Int) {stamp : Option Int}

theorem localPackageToNetBuffer_fits (stamped : stamp.getD clock = message.iTimeStamp) (fits : Fits message)
    (out_vctData : List UInt8) :
    localPackageToNetBuffer clock message.iType message.data stamp out_vctData =
      (0, out_vctData ++ (frontText message ++ zeroFill 6 (numeral (sentChecksum out_vctData message)) ++
        message.data)) := by
  have version : ¬ netpackVersionLen < (bytes (itostrInt netpackVersion)).length := by
    rw [show bytes (itostrInt netpackVersion) = numeral 1 from spelled_of_nonneg (by decide)]
    exact Nat.not_lt.mpr ((length_numeral_le_iff (by decide) (by decide)).mpr (by decide))
  have stampFits : ¬ netpackTimestampLen < (bytes (itostrInt message.iTimeStamp)).length := Nat.not_lt.mpr fits.iTimeStamp
  have typeFits : ¬ netpackTypeLen < (bytes (itostrInt message.iType)).length := Nat.not_lt.mpr fits.iType
  have datalen : bytes (itostr (UInt64.ofNat message.data.length)) = numeral message.data.length := by
    rw [numeral, Int.natAbs_natCast]
  have datalenFits : ¬ netpackDatalenLen < (numeral message.data.length).length := Nat.not_lt.mpr fits.datalen
  have check : ¬ (generateNetPackCRC message.data).length ≠ netpackCheckLen := by
    rw [(generateNetPackCRC_reads message.data).2]
    decide
  have front : out_vctData ++ netpackBeginstring ++ zeroFill netpackVersionLen (bytes (itostrInt netpackVersion)) ++
      bytes (itostrInt message.iTimeStamp) ++ zeroFill netpackTypeLen (bytes (itostrInt message.iType)) ++
      zeroFill netpackDatalenLen (numeral message.data.length) ++ generateNetPackCRC message.data =
        out_vctData ++ frontText message := by
    simp only [frontText, List.append_assoc]
    rfl
  have checksum := sentChecksum_range out_vctData message
  have word := ofInt_of_nonneg checksum.1 (by omega)
  simp only [localPackageToNetBuffer, stamped, version, if_false, stampFits, typeFits, datalen, datalenFits, check, front]
  simp only [sentChecksum, sumsFrom] at word
  simp only [word, numeral, sentChecksum, sumsFrom, List.append_assoc]
  rfl

/-- Where one does not, the marker at least is left behind. -/
theorem localPackageToNetBuffer_unfit (stamped : stamp.getD clock = message.iTimeStamp) (unfit : ¬ Fits message)
    (out_vctData : List UInt8) :
    (localPackageToNetBuffer clock message.iType message.data stamp out_vctData).1 = -1 ∧
      out_vctData ++ netpackBeginstring <+:
        (localPackageToNetBuffer clock message.iType message.data stamp out_vctData).2 := by
  have datalen : bytes (itostr (UInt64.ofNat message.data.length)) = numeral message.data.length := by
    rw [numeral, Int.natAbs_natCast]
  have version := List.prefix_append (out_vctData ++ netpackBeginstring)
    (zeroFill netpackVersionLen (bytes (itostrInt netpackVersion)))
  simp only [localPackageToNetBuffer, stamped, datalen]
  split
  · exact ⟨rfl, List.prefix_rfl⟩
  split
  · exact ⟨rfl, version⟩
  next stampFits =>
    split
    · exact ⟨rfl, version.trans (List.prefix_append _ _)⟩
    next typeFits =>
      split
      · exact ⟨rfl, (version.trans (List.prefix_append _ _)).trans (List.prefix_append _ _)⟩
      next datalenFits =>
        exact absurd ⟨Nat.le_of_not_lt stampFits, Nat.le_of_not_lt typeFits, Nat.le_of_not_lt datalenFits⟩ unfit

end Sending

/-- The checksum of the head a laid message is sent with. -/
def checksumOf (message : Message) : Int := generateChecksum (frontText message) 0

theorem checksumOf_range (message : Message) : 0 ≤ checksumOf message ∧ checksumOf message < 131072 :=
  generateChecksum_range _ _

theorem Laid.sentChecksum (laid : Laid message) (out_vctData : List UInt8) :
    sentChecksum out_vctData message = checksumOf message := by
  have whole := laid.length_frontText
  have from_head : sumsFrom (out_vctData ++ frontText message).length = out_vctData.length := by
    have enough : netPackageHeadLen - netpackHeadcksumLen ≤ out_vctData.length + 42 := Nat.le_add_left ..
    rw [sumsFrom, List.length_append, whole, if_pos enough]
    exact Nat.add_sub_cancel ..
  rw [PacketStream.sentChecksum, from_head, checksumOf, generateChecksum, generateChecksum, List.drop_left', List.drop_zero]
  rfl

/-- The fields of the head a message is sent with. -/
def fieldsOf (message : Message) (laid : Laid message) : Fields where
  version := zeroFill 4 (spelled 1)
  timestamp := spelled message.iTimeStamp
  type := zeroFill 4 (spelled message.iType)
  datalen := zeroFill 4 (numeral message.data.length)
  check := generateNetPackCRC message.data
  headcksum := zeroFill 6 (numeral (checksumOf message))
  plain := by
    have type := laid.iType
    have data := laid.data
    have checksum := checksumOf_range message
    refine List.forall_mem_cons.mpr ⟨((spelled_reads (show 0 ≤ (1 : Int) by decide) (by decide)).zeroFill 4).plain, ?_⟩
    refine List.forall_mem_cons.mpr ⟨spelled_plain message.iTimeStamp, ?_⟩
    refine List.forall_mem_cons.mpr ⟨((spelled_reads type.1 (by omega)).zeroFill 4).plain, ?_⟩
    refine List.forall_mem_cons.mpr ⟨((numeral_reads message.data.length (by omega)).zeroFill 4).plain, ?_⟩
    refine List.forall_mem_cons.mpr ⟨(generateNetPackCRC_reads message.data).1.plain, ?_⟩
    exact List.forall_mem_singleton.mpr ((numeral_reads (checksumOf message) (by omega)).zeroFill 6).plain
  lengths := by
    have checksum := checksumOf_range message
    refine ⟨length_version, laid.length_stamp, length_zeroFill laid.fits.iType, length_zeroFill laid.fits.datalen,
      (generateNetPackCRC_reads message.data).2, ?_⟩
    exact length_zeroFill ((length_numeral_le_iff (by omega) (by decide)).mpr (by omega))

variable (laid : Laid message)

theorem localPackageToNetBuffer_laid (clock : Int) {stamp : Option Int} (stamped : stamp.getD clock = message.iTimeStamp)
    (out_vctData : List UInt8) :
    localPackageToNetBuffer clock message.iType message.data stamp out_vctData =
      (0, out_vctData ++ ((fieldsOf message laid).head ++ message.data)) := by
  rw [localPackageToNetBuffer_fits clock stamped laid.fits, laid.sentChecksum]
  rfl

/-- What the receiver reads the head of a message as. -/
def headOf (message : Message) : NetPackageHeadLocal where
  beginstring := netpackBeginstring
  iVersion := 1
  iTimeStamp := message.iTimeStamp
  iType := message.iType
  iDatalen := message.data.length
  check := generateNetPackCRC message.data
  iHeadChecksum := checksumOf message

theorem netPackageHeadToLocal_laid {sameDay : Int → Bool} {check : Bool}
    (today : validateTimeStamp sameDay message.iTimeStamp check = true) :
    netPackageHeadToLocal sameDay (fieldsOf message laid).head check = some (headOf message) := by
  have stamp := laid.iTimeStamp
  have type := laid.iType
  have data := laid.data
  have checksum := checksumOf_range message
  have lengths := (fieldsOf message laid).lengths
  have some {written : List UInt8} {length : Nat} (long : written.length = length + 1) : written ≠ [] := by
    rintro rfl
    cases long
  have version : string2IntAtoi (text (fieldsOf message laid).version) = 1 := by
    have reads := spelled_reads (show 0 ≤ (1 : Int) by decide) (by decide)
    exact (reads.zeroFill 4).atoi (some lengths.1) (by decide)
  have timestamp : string2IntAtoi (text (fieldsOf message laid).timestamp) = message.iTimeStamp :=
    atoi_spelled (by omega) (by omega)
  have kind : string2IntAtoi (text (fieldsOf message laid).type) = message.iType := by
    have read := ((spelled_reads type.1 (by omega)).zeroFill 4).atoi (some lengths.2.2.1) (by omega)
    exact read.trans (by omega)
  have datalen : string2IntAtoi (text (fieldsOf message laid).datalen) = message.data.length := by
    have read := ((numeral_reads message.data.length (by omega)).zeroFill 4).atoi (some lengths.2.2.2.1) (by omega)
    exact read.trans (by omega)
  have headcksum : string2IntAtoi (text (fieldsOf message laid).headcksum) = checksumOf message := by
    have read := ((numeral_reads (checksumOf message) (by omega)).zeroFill 6).atoi (some lengths.2.2.2.2.2) (by omega)
    exact read.trans (by omega)
  have plain : ∀ byte ∈ (fieldsOf message laid).front, byte < 128 := by
    intro byte found
    simp only [Fields.front, List.mem_append] at found
    rcases found with marker | version | timestamp | type | datalen | check
    · exact (begin_plain byte marker).2
    · exact ((fieldsOf message laid).plain _ (by simp) byte version).2
    · exact ((fieldsOf message laid).plain _ (by simp) byte timestamp).2
    · exact ((fieldsOf message laid).plain _ (by simp) byte type).2
    · exact ((fieldsOf message laid).plain _ (by simp) byte datalen).2
    · exact ((fieldsOf message laid).plain _ (by simp) byte check).2
  have agrees : generateHeadChecksum (fieldsOf message laid).head = checksumOf message :=
    checksums_agree plain (fieldsOf message laid).length_front
  obtain ⟨beginstring, versionAt, timestampAt, typeAt, datalenAt, checkAt, headcksumAt⟩ :=
    fields_of_head (fieldsOf message laid)
  have typed : ¬ (1 > netpackVersion ∨ message.iType < 0) := by
    simp only [netpackVersion]
    omega
  simp only [netPackageHeadToLocal, beginstring, versionAt, timestampAt, typeAt, datalenAt, checkAt, headcksumAt, version,
    timestamp, kind, datalen, headcksum, agrees, today, Bool.not_true, Bool.false_eq_true, if_false, typed, ne_eq,
    not_true_eq_false]
  rfl

end Messages

section Receiving

/-- The head a message is sent with. -/
def headText (message : Message) : List UInt8 := frontText message ++ zeroFill 6 (numeral (checksumOf message))

/-- The packet a message is received as. -/
def packOf (message : Message) : NetPackage := ⟨headOf message, message.data⟩

variable {sameDay : Int → Bool} {trim check : Bool} {message : Message}

theorem headText_eq (laid : Laid message) : headText message = (fieldsOf message laid).head := rfl

theorem length_headText (laid : Laid message) : (headText message).length = netPackageHeadLen := by
  rw [headText_eq laid, Fields.length_head]
  rfl

theorem headText_marked (message : Message) (rest : List UInt8) : Marked (headText message ++ rest) 0 := by
  simp only [Marked, headText, List.append_assoc, List.drop_zero]
  exact List.prefix_append _ _

/-- The head of a message is read for what it is, and then its data is looked for. -/
theorem sight_headText (laid : Laid message) (today : validateTimeStamp sameDay message.iTimeStamp check = true)
    (rest : List UInt8) :
    sight sameDay check (headText message ++ rest) 0 =
      if rest.length < message.data.length then .waits
      else if checkNetPackCRC ⟨headOf message, rest.take message.data.length⟩ then
        .whole ⟨headOf message, rest.take message.data.length⟩
      else .broken := by
  have length := length_headText laid
  have head : ((headText message ++ rest).drop 0).take netPackageHeadLen = headText message := by
    rw [List.drop_zero, List.take_left' length]
  have body : (headText message ++ rest).drop (0 + netPackageHeadLen) = rest := by
    rw [Nat.zero_add, List.drop_left' length]
  have parsed := netPackageHeadToLocal_laid laid today
  rw [← headText_eq laid] at parsed
  have some : (headOf message).iDatalen > 0 := by
    have data := laid.data.1
    simp only [headOf]
    omega
  have size : (headOf message).iDatalen.toNat = message.data.length := Int.toNat_natCast _
  simp only [sight, headText_marked, if_true, head, parsed, some, body, size]

theorem checkNetPackCRC_packOf (message : Message) : checkNetPackCRC (packOf message) = true := by
  simp only [checkNetPackCRC, packOf, headOf, beq_self_eq_true]

variable {recved : List NetPackage}

/-- The bytes a message is sent as and the packet it is received as. -/
def piece (message : Message) : List UInt8 × NetPackage := (headText message ++ message.data, packOf message)

theorem piece_complete (laid : Laid message) (today : validateTimeStamp sameDay message.iTimeStamp check = true) :
    Complete sameDay check (piece message) where
  whole := by
    rw [piece, sight_headText laid today, if_neg (Nat.lt_irrefl _), List.take_length]
    exact if_pos (checkNetPackCRC_packOf message)
  ends := by
    simp only [piece, List.length_append, length_headText laid, packOf, headOf, Int.toNat_natCast]

theorem keeps_torn (laid : Laid message) (today : validateTimeStamp sameDay message.iTimeStamp check = true)
    {tail : List UInt8} (part : tail <+: headText message ++ message.data)
    (short : tail.length < (headText message ++ message.data).length) (some : tail ≠ []) :
    ∃ code, (receive sameDay trim check).Returns (⟨tail, recved⟩, .search) (code, ⟨tail, recved⟩) := by
  have length := length_headText laid
  by_cases room : netPackageHeadLen ≤ tail.length
  · obtain ⟨missing, whole⟩ := part
    have begun : headText message <+: tail := by
      apply List.prefix_of_prefix_length_le (List.prefix_append _ message.data)
      · exact ⟨missing, whole⟩
      · rwa [length]
    obtain ⟨body, rfl⟩ := begun
    have goes := @receive_scan sameDay trim check ⟨headText message ++ body, recved⟩ 0 (by simpa using room)
    have few : body.length < message.data.length := by
      simp only [List.length_append] at short
      omega
    rw [show sight sameDay check (headText message ++ body) 0 = .waits by
      rw [sight_headText laid today, if_pos few]] at goes
    refine ⟨1, ?_⟩
    rw [Loop.returns_again (searches (headText_marked message body))]
    exact Loop.returns_leave goes
  · have start : findBegin tail = 0 ∧ 0 < tail.length := by
      obtain ⟨missing, whole⟩ := part
      cases tail with
      | nil => exact absurd rfl some
      | cons byte tail =>
        have first : byte = 78 := by
          have heads := congrArg List.head? whole
          simp only [headText, frontText, netpackBeginstring, List.cons_append, List.head?_cons, Option.some.injEq] at heads
          exact heads
        subst first
        exact ⟨rfl, Nat.succ_pos _⟩
    have searched := @receive_search sameDay trim check ⟨tail, recved⟩ (by rw [start.1]; exact start.2) (fun _ => start.1)
    rw [start.1] at searched
    obtain ⟨code, left⟩ := @receive_short sameDay trim check ⟨tail, recved⟩ 0 0
      (by rw [Nat.zero_add]; exact Nat.lt_of_not_le room)
    exact ⟨code, (Loop.returns_again searched).mpr (Loop.returns_leave left)⟩

theorem keeps_nothing : ∃ code, (receive sameDay trim check).Returns (⟨[], recved⟩, .search) (code, ⟨[], recved⟩) := by
  cases trim with
  | true => exact ⟨-1, Loop.returns_leave rfl⟩
  | false => exact ⟨0, Loop.returns_leave rfl⟩

theorem takes_messages {messages : List Message}
    (laid : ∀ message ∈ messages, Laid message ∧ validateTimeStamp sameDay message.iTimeStamp check = true)
    (tail : List UInt8) :
    (receive sameDay trim check).Visits (⟨((messages.map piece).map Prod.fst).flatten ++ tail, recved⟩, .search)
      (⟨tail, recved ++ (messages.map piece).map Prod.snd⟩, .search) := by
  apply takes_packets
  intro packet found
  obtain ⟨message, member, rfl⟩ := List.mem_map.mp found
  obtain ⟨own, today⟩ := laid message member
  exact piece_complete own today

/-- One call, with the chunk behind what the connection has kept. -/
def Receives (sameDay : Int → Bool) (trim check : Bool) (feed : Feed UInt8 NetPackage) (chunk : List UInt8)
    (next : Feed UInt8 NetPackage) : Prop :=
  ∃ fuel code, recvPackage sameDay fuel (feed.pending ++ chunk) feed.taken trim check =
    some (code, ⟨next.pending, next.taken⟩)

theorem receives_single (feed : Feed UInt8 NetPackage) (chunk : List UInt8) (one two : Feed UInt8 NetPackage)
    (first : Receives sameDay trim check feed chunk one) (second : Receives sameDay trim check feed chunk two) :
    one = two := by
  obtain ⟨fuel, code, ran⟩ := first
  obtain ⟨other, status, again⟩ := second
  have same : (code, (⟨one.pending, one.taken⟩ : Received)) = (status, ⟨two.pending, two.taken⟩) := by
    unfold recvPackage at ran again
    exact Loop.answer_unique ran again
  obtain ⟨pending, taken⟩ := one
  obtain ⟨left, got⟩ := two
  cases same
  rfl

theorem receives_messages {second rest : List Message}
    (laid : ∀ message ∈ second ++ rest, Laid message ∧
      validateTimeStamp sameDay message.iTimeStamp check = true)
    {pending chunk tail : List UInt8} (front : pending ++ chunk = ((second.map piece).map Prod.fst).flatten ++ tail)
    (torn : Torn ((rest.map piece).map Prod.fst) tail) :
    Receives sameDay trim check ⟨pending, recved⟩ chunk ⟨tail, recved ++ (second.map piece).map Prod.snd⟩ := by
  unfold Receives recvPackage
  simp only [front]
  by_cases short : (((second.map piece).map Prod.fst).flatten ++ tail).length ≤ netPackageHeadLen
  · have none : second = [] := by
      cases second with
      | nil => rfl
      | cons message second =>
        obtain ⟨own, today⟩ := laid message List.mem_cons_self
        have long := (piece_complete own today).solid
        simp only [List.map_cons, List.flatten_cons, List.length_append] at short
        omega
    subst none
    refine ⟨0, 1, ?_⟩
    rw [if_pos short]
    simp only [List.map_nil, List.flatten_nil, List.nil_append, List.append_nil]
  · have taken := @takes_messages sameDay trim check recved second
      (fun message found => laid message (List.mem_append_left rest found)) tail
    have kept : ∃ code, (receive sameDay trim check).Returns
        (⟨tail, recved ++ (second.map piece).map Prod.snd⟩, .search)
        (code, ⟨tail, recved ++ (second.map piece).map Prod.snd⟩) := by
      rcases torn with rfl | ⟨text, more, split, part, less⟩
      · exact keeps_nothing
      · by_cases some : tail = []
        · rw [some]
          exact keeps_nothing
        · cases rest with
          | nil => cases split
          | cons message rest =>
            obtain ⟨same, -⟩ := List.cons.inj split
            subst same
            obtain ⟨own, today⟩ := laid message (List.mem_append_right second List.mem_cons_self)
            exact keeps_torn own today part less some
    obtain ⟨code, returns⟩ := kept
    obtain ⟨fuel, ran⟩ := taken.returns.mpr returns
    exact ⟨fuel, code, by rw [if_neg short, ran]⟩

/-- The sender's bytes for a list of messages, appended one after the other. -/
def sendAll (clock : Int) (messages : List Message) : Option (List UInt8) :=
  messages.foldlM (fun out message =>
    let sent := localPackageToNetBuffer clock message.iType message.data (some message.iTimeStamp) out
    if sent.1 = 0 then some sent.2 else none) []

theorem sendAll_accepts (clock : Int) {messages : List Message} (accepted : ∀ message ∈ messages, Accepted message) :
    sendAll clock messages = some ((messages.map piece).map Prod.fst).flatten := by
  suffices sends : ∀ out : List UInt8, messages.foldlM (fun out message =>
      let sent := localPackageToNetBuffer clock message.iType message.data (some message.iTimeStamp) out
      if sent.1 = 0 then some sent.2 else none) out =
        some (out ++ ((messages.map piece).map Prod.fst).flatten) by
    have from_nothing := sends []
    rwa [List.nil_append] at from_nothing
  induction messages with
  | nil =>
    intro out
    rw [List.map_nil, List.map_nil, List.flatten_nil, List.append_nil]
    rfl
  | cons message messages ih =>
    intro out
    have first := (accepted message List.mem_cons_self).laid
    have stamped : (some message.iTimeStamp).getD clock = message.iTimeStamp := rfl
    have appended := localPackageToNetBuffer_laid first clock stamped out
    rw [← headText_eq first] at appended
    rw [List.foldlM_cons, appended, if_pos rfl, Option.bind_eq_bind, Option.bind_some,
      ih (fun later found => accepted later (List.mem_cons_of_mem _ found))]
    simp only [List.map_cons, List.flatten_cons, piece, List.append_assoc]

end Receiving

/-- However the stream of accepted messages is cut, one chunk after another makes the
receiver deliver the messages in their order and keep nothing. -/
theorem stream_delivered (sameDay : Int → Bool) (clock : Int) (bTrimWasteData bCheckTimestamp : Bool)
    (messages : List Message)
    (accepted : ∀ message ∈ messages, Accepted message ∧
      validateTimeStamp sameDay message.iTimeStamp bCheckTimestamp = true) :
    ∃ stream packs, sendAll clock messages = some stream ∧
      packs.map (fun pack => ⟨pack.head.iType, pack.head.iTimeStamp, pack.data⟩) = messages ∧
      ∀ chunks : List (List UInt8), chunks.flatten = stream → ∀ last,
        (Fed (Receives sameDay bTrimWasteData bCheckTimestamp) ⟨[], []⟩ chunks last ↔ last = ⟨[], packs⟩) := by
  refine ⟨_, (messages.map piece).map Prod.snd,
    sendAll_accepts clock (fun message found => (accepted message found).1), ?_, ?_⟩
  · rw [List.map_map, List.map_map]
    exact List.map_id _
  · intro chunks cut last
    have fed : Fed (Receives sameDay bTrimWasteData bCheckTimestamp) ⟨[], []⟩ chunks
        ⟨[], (messages.map piece).map Prod.snd⟩ := by
      apply fed_of_receives _ _ chunks cut
      · intro one found
        obtain ⟨message, member, rfl⟩ := List.mem_map.mp found
        obtain ⟨own, today⟩ := accepted message member
        have long := (piece_complete own.laid today).solid
        intro empty
        rw [empty, List.length_nil] at long
        omega
      · intro first second rest split pending chunk tail front torn
        obtain ⟨firsts, others, rfl, rfl, back⟩ := List.map_eq_append_iff.mp split
        obtain ⟨seconds, rests, rfl, rfl, rfl⟩ := List.map_eq_append_iff.mp back
        rw [List.map_append]
        have own : ∀ message ∈ seconds ++ rests, Laid message ∧
            validateTimeStamp sameDay message.iTimeStamp bCheckTimestamp = true := by
          intro message found
          obtain ⟨written, today⟩ := accepted message (List.mem_append_right firsts found)
          exact ⟨written.laid, today⟩
        exact receives_messages own front torn
    exact ⟨fun other => other.unique receives_single fed, fun same => same ▸ fed⟩

/-- A message whose data contains the marker. -/
def quoted : Message := ⟨1, 1510885145, netpackBeginstring⟩

theorem stream_delivered_quoted :
    ∃ stream packs, sendAll 0 [quoted, quoted] = some stream ∧
      packs.map (fun pack => ⟨pack.head.iType, pack.head.iTimeStamp, pack.data⟩) = [quoted, quoted] ∧
      ∀ chunks : List (List UInt8), chunks.flatten = stream → ∀ last,
        (Fed (Receives (fun _ => false) true false) ⟨[], []⟩ chunks last ↔ last = ⟨[], packs⟩) := by
  apply stream_delivered
  intro message found
  have same : message = quoted := by simpa using found
  subst same
  exact ⟨⟨by decide, by decide, by decide⟩, rfl⟩

end Simutgw.Proofs.PacketStream
