import Simutgw.StringEncodeUtil

/-! GB2312 texts in UTF-8 and back. A character takes one byte or two in the one encoding
and up to three in the other, and the buffer for the second has the size of the first. -/

namespace Simutgw.Proofs.TextEncoding
open StringEncodeUtil

/-- The table of the charset: the characters it has, ASCII as it is and every other in two
bytes, neither of them null. -/
structure Gb2312 where
  code : Char → Option (List UInt8)
  ascii : ∀ char, char.toNat < 128 → code char = some [UInt8.ofNat char.toNat]
  double : ∀ char bytes, 128 ≤ char.toNat → code char = some bytes → bytes.length = 2 ∧ 0 ∉ bytes

/-- A text the charset has every character of. -/
def Encodable (gb : Gb2312) (text : List Char) : Prop := ∀ char ∈ text, (gb.code char).isSome

def encodeChar (gb : Gb2312) : Charset → Char → List UInt8
  | .utf8, char => String.utf8EncodeChar char
  | .gb2312, char => (gb.code char).getD []

def encode (gb : Gb2312) (charset : Charset) (text : List Char) : List UInt8 := text.flatMap (encodeChar gb charset)

/-- The library converts a whole text where the result fits, and fails elsewhere. -/
def Converts (gb : Gb2312) (iconv : Iconv) : Prop :=
  ∀ fromCharset toCharset text outlen, Encodable gb text →
    iconv toCharset fromCharset (encode gb fromCharset text) outlen =
      if (encode gb toCharset text).length ≤ outlen then some (encode gb toCharset text) else none

/-- The text comes out complete, and back again as it was. -/
structure Lossless (gb : Gb2312) (iconv : Iconv) (text : List Char) : Prop where
  complete : gbkToUtf iconv (encode gb .gb2312 text) = encode gb .utf8 text
  filled : gbkToUtf iconv (encode gb .gb2312 text) ≠ []
  back : utfToGbk iconv (gbkToUtf iconv (encode gb .gb2312 text)) = encode gb .gb2312 text

/-- A character that takes no more bytes in UTF-8 than in the charset, and is not null. -/
def Narrow (char : Char) : Prop := char.toNat < 2048 ∧ char.toNat ≠ 0

variable {gb : Gb2312} {iconv : Iconv} {text : List Char}

/-! The bytes of a character. -/

theorem zero_eq_ofNat (value : Nat) : 0 = UInt8.ofNat value ↔ value % 256 = 0 := by
  rw [← UInt8.toNat_inj, UInt8.toNat_ofNat']
  exact eq_comm

theorem zero_mem_utf8 (char : Char) : 0 ∈ String.utf8EncodeChar char ↔ char.toNat = 0 := by
  have same : char.toNat = char.val.toNat := rfl
  rw [same, String.utf8EncodeChar]
  split
  next => simp only [List.mem_singleton, zero_eq_ofNat]; omega
  next =>
    split
    next => simp only [List.mem_cons, List.not_mem_nil, or_false, zero_eq_ofNat]; omega
    next =>
      split
      next => simp only [List.mem_cons, List.not_mem_nil, or_false, zero_eq_ofNat]; omega
      next => simp only [List.mem_cons, List.not_mem_nil, or_false, zero_eq_ofNat]; omega

theorem length_utf8 (char : Char) : (String.utf8EncodeChar char).length =
    if char.toNat ≤ 127 then 1 else if char.toNat ≤ 2047 then 2 else if char.toNat ≤ 65535 then 3 else 4 := by
  have same : char.toNat = char.val.toNat := rfl
  unfold String.utf8EncodeChar
  simp only [same, apply_ite List.length]
  rfl

/-- One byte of the charset or two, none of which is null but for the null character. -/
theorem code_cases {char : Char} (known : (gb.code char).isSome) :
    char.toNat < 128 ∧ encodeChar gb .gb2312 char = [UInt8.ofNat char.toNat] ∨
      128 ≤ char.toNat ∧ (encodeChar gb .gb2312 char).length = 2 ∧ 0 ∉ encodeChar gb .gb2312 char := by
  rcases Nat.lt_or_ge char.toNat 128 with low | high
  · refine .inl ⟨low, ?_⟩
    rw [encodeChar, gb.ascii char low, Option.getD_some]
  · obtain ⟨bytes, found⟩ := Option.isSome_iff_exists.mp known
    have double := gb.double char bytes high found
    refine .inr ⟨high, ?_⟩
    rw [encodeChar, found, Option.getD_some]
    exact double

theorem zero_mem_encodeChar {char : Char} (known : (gb.code char).isSome) (charset : Charset) :
    0 ∈ encodeChar gb charset char ↔ char.toNat = 0 := by
  cases charset with
  | utf8 => exact zero_mem_utf8 char
  | gb2312 =>
    rcases code_cases known with ⟨low, one⟩ | ⟨high, _, solid⟩
    · rw [one, List.mem_singleton, zero_eq_ofNat]
      omega
    · simp only [solid, false_iff]
      omega

theorem length_encodeChar {char : Char} (known : (gb.code char).isSome) :
    (encodeChar gb .gb2312 char).length ≤ (encodeChar gb .utf8 char).length ∧
      ((encodeChar gb .utf8 char).length ≤ (encodeChar gb .gb2312 char).length ↔ char.toNat < 2048) := by
  have utf8 : (encodeChar gb .utf8 char).length = _ := length_utf8 char
  rw [utf8]
  rcases code_cases known with ⟨low, one⟩ | ⟨high, two, _⟩
  · rw [one, List.length_singleton]
    split <;> omega
  · rw [two]
    repeat' split
    all_goals omega

/-! The bytes of a text. -/

theorem zero_mem_encode (encodable : Encodable gb text) (charset : Charset) :
    0 ∈ encode gb charset text ↔ ∃ char ∈ text, char.toNat = 0 := by
  rw [encode, List.mem_flatMap]
  constructor
  · intro ⟨char, member, zero⟩
    exact ⟨char, member, (zero_mem_encodeChar (encodable char member) charset).mp zero⟩
  · intro ⟨char, member, null⟩
    exact ⟨char, member, (zero_mem_encodeChar (encodable char member) charset).mpr null⟩

/-- UTF-8 is never shorter, and fits where every character does. -/
theorem length_encode (encodable : Encodable gb text) :
    (encode gb .gb2312 text).length ≤ (encode gb .utf8 text).length ∧
      ((encode gb .utf8 text).length ≤ (encode gb .gb2312 text).length ↔ ∀ char ∈ text, char.toNat < 2048) := by
  induction text with
  | nil => simp [encode]
  | cons char text ih =>
    have here := @length_encodeChar gb char (encodable char (List.mem_cons_self ..))
    have rest := ih fun other member => encodable other (List.mem_cons_of_mem _ member)
    simp only [encode, List.flatMap_cons, List.length_append, List.forall_mem_cons] at rest ⊢
    rw [← here.2, ← rest.2]
    omega

theorem encode_ne_nil (encodable : Encodable gb text) (some : text ≠ []) (charset : Charset) :
    encode gb charset text ≠ [] := by
  obtain ⟨char, rest, rfl⟩ := List.exists_cons_of_ne_nil some
  have known := encodable char (List.mem_cons_self ..)
  rw [encode, List.flatMap_cons]
  apply List.append_ne_nil_of_left_ne_nil
  cases charset with
  | utf8 => exact String.utf8EncodeChar_ne_nil
  | gb2312 =>
    intro empty
    rcases code_cases known with ⟨_, one⟩ | ⟨_, two, _⟩
    · rw [one] at empty
      cases empty
    · rw [empty] at two
      cases two

/-! The conversions. -/

theorem ofBuffer_eq {written : List UInt8} (solid : 0 ∉ written) {zeros : Nat} (ended : 0 < zeros) :
    ofBuffer (written ++ List.replicate zeros 0) = written := by
  obtain ⟨more, rfl⟩ := Nat.exists_eq_succ_of_ne_zero (Nat.ne_of_gt ended)
  have kept : ∀ byte ∈ written, decide (byte ≠ 0) = true := by
    intro byte member
    rw [decide_eq_true_eq]
    rintro rfl
    exact solid member
  rw [ofBuffer, List.takeWhile_append_of_pos kept, List.replicate_succ, List.takeWhile_cons]
  simp

theorem zero_not_mem_ofBuffer (buffer : List UInt8) : 0 ∉ ofBuffer buffer := by
  intro member
  have nonzero := List.mem_takeWhile_imp member
  simp at nonzero

/-- A text comes out whole where it has the room and no null character. -/
theorem convert_iff (converts : Converts gb iconv) (encodable : Encodable gb text) (some : text ≠ [])
    (fromCharset toCharset : Charset) :
    convert iconv fromCharset toCharset (encode gb fromCharset text) = encode gb toCharset text ↔
      (encode gb toCharset text).length ≤ (encode gb fromCharset text).length ∧ ∀ char ∈ text, char.toNat ≠ 0 := by
  have source := encode_ne_nil encodable some fromCharset
  have solid : 0 ∉ encode gb toCharset text ↔ ∀ char ∈ text, char.toNat ≠ 0 := by
    rw [zero_mem_encode encodable]
    simp only [not_exists, not_and, ne_eq]
  rw [← solid, convert, if_neg (fun none => source (List.length_eq_zero_iff.mp none)), codeConvert,
    converts fromCharset toCharset text _ encodable]
  constructor
  · intro whole
    split at whole
    next => exact absurd whole.symm (encode_ne_nil encodable some toCharset)
    next written converted =>
      split at converted
      next fits =>
        refine ⟨fits, ?_⟩
        rw [← whole]
        exact zero_not_mem_ofBuffer _
      next => cases converted
  · intro ⟨fits, nulls⟩
    rw [if_pos fits]
    simp only [List.drop_replicate]
    exact ofBuffer_eq nulls (by omega)

theorem utfToGbk_eq (converts : Converts gb iconv) (encodable : Encodable gb text) (some : text ≠ [])
    (nulls : ∀ char ∈ text, char.toNat ≠ 0) :
    utfToGbk iconv (encode gb .utf8 text) = encode gb .gb2312 text :=
  (convert_iff converts encodable some .utf8 .gb2312).mpr ⟨(length_encode encodable).1, nulls⟩

/-- The texts that survive are those of narrow characters. -/
theorem lossless_iff (converts : Converts gb iconv) (encodable : Encodable gb text) (some : text ≠ []) :
    Lossless gb iconv text ↔ ∀ char ∈ text, Narrow char := by
  have whole := convert_iff converts encodable some .gb2312 .utf8
  have room := (length_encode encodable).2
  constructor
  · intro lossless
    obtain ⟨fits, nulls⟩ := whole.mp lossless.complete
    intro char member
    exact ⟨room.mp fits char member, nulls char member⟩
  · intro narrow
    have nulls : ∀ char ∈ text, char.toNat ≠ 0 := fun char member => (narrow char member).2
    have complete := whole.mpr ⟨room.mpr fun char member => (narrow char member).1, nulls⟩
    refine ⟨complete, ?_, ?_⟩
    · intro empty
      exact encode_ne_nil encodable some .utf8 (complete.symm.trans empty)
    · rw [gbkToUtf, complete]
      exact utfToGbk_eq converts encodable some nulls

/-! A part of the charset, with a Greek letter and a Hanzi, and a library that knows it. -/

def sampleCode (char : Char) : Option (List UInt8) :=
  if char.toNat < 128 then some [UInt8.ofNat char.toNat]
  else if char = 'α' then some [0xA6, 0xC1]
  else if char = '中' then some [0xD6, 0xD0]
  else none

def sample : Gb2312 where
  code := sampleCode
  ascii := by
    intro char low
    rw [sampleCode, if_pos low]
  double := by
    intro char bytes high found
    rw [sampleCode, if_neg (Nat.not_lt.mpr high)] at found
    split at found
    next => cases found; decide
    next =>
      split at found
      next => cases found; decide
      next => cases found

/-- The text some bytes encode. -/
def decode (charset : Charset) : Nat → List UInt8 → Option (List Char)
  | _, [] => some []
  | 0, _ => none
  | fuel + 1, byte :: rest =>
    if byte.toNat < 128 then (decode charset fuel rest).map (Char.ofNat byte.toNat :: ·)
    else
      match ['α', '中'].find? fun char => encodeChar sample charset char <+: byte :: rest with
      | none => none
      | some char =>
        (decode charset fuel ((byte :: rest).drop (encodeChar sample charset char).length)).map (char :: ·)

def sampleIconv : Iconv := fun toCharset fromCharset input outlen =>
  (decode fromCharset input.length input).bind fun text =>
    if (encode sample toCharset text).length ≤ outlen then some (encode sample toCharset text) else none

theorem encodeChar_ascii {char : Char} (low : char.toNat < 128) (charset : Charset) :
    encodeChar sample charset char = [UInt8.ofNat char.toNat] := by
  cases charset with
  | utf8 =>
    have small : char.val.toNat ≤ 127 := Nat.le_of_lt_succ low
    rw [encodeChar, String.utf8EncodeChar]
    exact if_pos small
  | gb2312 => rw [encodeChar, sample.ascii char low, Option.getD_some]

theorem sample_bytes : encodeChar sample .utf8 'α' = [0xCE, 0xB1] ∧ encodeChar sample .utf8 '中' = [0xE4, 0xB8, 0xAD] ∧
    encodeChar sample .gb2312 'α' = [0xA6, 0xC1] ∧ encodeChar sample .gb2312 '中' = [0xD6, 0xD0] := by
  decide

theorem decode_wide (charset : Charset) {char : Char} (wide : char = 'α' ∨ char = '中') (fuel : Nat)
    (rest : List UInt8) : decode charset (fuel + 1) (encodeChar sample charset char ++ rest) =
      (decode charset fuel rest).map (char :: ·) := by
  obtain ⟨alpha, middle, alphaGb, middleGb⟩ := sample_bytes
  rcases wide with rfl | rfl
  all_goals cases charset
  all_goals simp [decode, alpha, middle, alphaGb, middleGb]

theorem sample_length (charset : Charset) {char : Char} (wide : char = 'α' ∨ char = '中') :
    2 ≤ (encodeChar sample charset char).length := by
  rcases wide with rfl | rfl
  all_goals cases charset <;> decide

theorem sampleCode_cases {char : Char} (known : (sample.code char).isSome) :
    char.toNat < 128 ∨ char = 'α' ∨ char = '中' := by
  have code : sample.code char = sampleCode char := rfl
  rw [code, sampleCode] at known
  split at known
  next low => exact .inl low
  next =>
    split at known
    next alpha => exact .inr (.inl alpha)
    next =>
      split at known
      next middle => exact .inr (.inr middle)
      next => cases known

theorem decode_encode (charset : Charset) (encodable : Encodable sample text) {fuel : Nat}
    (enough : (encode sample charset text).length ≤ fuel) : decode charset fuel (encode sample charset text) = some text := by
  induction text generalizing fuel with
  | nil => cases fuel <;> rfl
  | cons char text ih =>
    have known := encodable char (List.mem_cons_self ..)
    have rest : Encodable sample text := fun other member => encodable other (List.mem_cons_of_mem _ member)
    have split : encode sample charset (char :: text) = encodeChar sample charset char ++ encode sample charset text := rfl
    rw [split, List.length_append] at enough
    rw [split]
    rcases sampleCode_cases known with low | wide
    · rw [encodeChar_ascii low, List.length_singleton] at enough
      rw [encodeChar_ascii low]
      obtain ⟨fuel, rfl⟩ := Nat.exists_eq_succ_of_ne_zero (show fuel ≠ 0 by omega)
      have same : (UInt8.ofNat char.toNat).toNat = char.toNat := by
        rw [UInt8.toNat_ofNat']
        omega
      rw [List.singleton_append, decode, same, if_pos low, ih rest (by omega), Option.map_some, Char.ofNat_toNat]
    · have filled := sample_length charset wide
      obtain ⟨fuel, rfl⟩ := Nat.exists_eq_succ_of_ne_zero (show fuel ≠ 0 by omega)
      rw [decode_wide charset wide, ih rest (by omega), Option.map_some]

theorem sample_converts : Converts sample sampleIconv := by
  intro fromCharset toCharset text outlen encodable
  rw [sampleIconv, decode_encode fromCharset encodable (Nat.le_refl _), Option.bind_some]

theorem lossless_greek : Lossless sample sampleIconv ['1', 'α'] := by
  have encodable : Encodable sample ['1', 'α'] := by
    simp [Encodable, sample, sampleCode]
  refine (lossless_iff sample_converts encodable (List.cons_ne_nil _ _)).mpr ?_
  simp [Narrow]

/-- A Hanzi needs three bytes and has two. -/
theorem hanzi_lost : ¬ Lossless sample sampleIconv ['中'] := by
  intro lossless
  exact lossless.filled (by decide)

end Simutgw.Proofs.TextEncoding
