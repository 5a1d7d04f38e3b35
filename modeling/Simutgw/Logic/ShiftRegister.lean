import Mathlib.Data.BitVec
import Mathlib.Data.List.GetD
import Mathlib.Logic.Function.Iterate

/-! A linear feedback shift register over words of any width, fed one bit at a time. A
shift is linear in the word, so that several shifts at once are read from a table of the
low bits. With the top bit fed back nothing is lost in a shift, and inputs that differ in
a run of bits no longer than the word leave different words. -/

namespace Simutgw.Logic.ShiftRegister

variable {w : Nat}

/-- The low bit goes out, and the feedback comes in with it. -/
def shift (feedback state : BitVec w) : BitVec w :=
  if state.getLsbD 0 then state >>> 1 ^^^ feedback else state >>> 1

def shifts (feedback : BitVec w) (count : Nat) (state : BitVec w) : BitVec w := (shift feedback)^[count] state

/-- A bit is added to the low one before the shift. -/
def step (feedback state : BitVec w) (bit : Bool) : BitVec w :=
  shift feedback (state ^^^ (BitVec.ofBool bit).setWidth w)

def feed (feedback state : BitVec w) (bits : List Bool) : BitVec w := bits.foldl (step feedback) state

/-- The bits as a word, the first one lowest. -/
def word (w : Nat) : List Bool → BitVec w
  | [] => 0
  | bit :: bits => (BitVec.ofBool bit).setWidth w ^^^ word w bits <<< 1

/-- The inputs are the same outside a run of as many bits at most. -/
def Burst (width : Nat) (one two : List Bool) : Prop :=
  ∃ front run other back, one = front ++ run ++ back ∧ two = front ++ other ++ back ∧
    run.length = other.length ∧ run.length ≤ width

section Linear

variable {feedback : BitVec w}

theorem shift_xor (one two : BitVec w) : shift feedback (one ^^^ two) = shift feedback one ^^^ shift feedback two := by
  have apart := BitVec.ushiftRight_xor_distrib one two 1
  simp only [shift, BitVec.getLsbD_xor, apart]
  cases one.getLsbD 0 <;> cases two.getLsbD 0 <;>
    simp only [Bool.xor_false, Bool.xor_true, Bool.false_eq_true, Bool.not_false, Bool.not_true, if_true, if_false]
  · ac_rfl
  · ac_rfl
  · calc
      one >>> 1 ^^^ two >>> 1 = one >>> 1 ^^^ two >>> 1 ^^^ (feedback ^^^ feedback) := by
        rw [BitVec.xor_self, BitVec.xor_zero]
      _ = one >>> 1 ^^^ feedback ^^^ (two >>> 1 ^^^ feedback) := by ac_rfl

theorem shift_low {state : BitVec w} (even : state.getLsbD 0 = false) : shift feedback state = state >>> 1 := by
  simp only [shift, even, Bool.false_eq_true, if_false]

theorem shifts_succ (count : Nat) (state : BitVec w) :
    shifts feedback (count + 1) state = shifts feedback count (shift feedback state) :=
  rfl

theorem shifts_xor (count : Nat) (one two : BitVec w) :
    shifts feedback count (one ^^^ two) = shifts feedback count one ^^^ shifts feedback count two := by
  induction count generalizing one two with
  | zero => rfl
  | succ count ih => rw [shifts_succ, shift_xor, ih, shifts_succ, shifts_succ]

theorem shifts_high {count : Nat} {state : BitVec w} (high : ∀ place < count, state.getLsbD place = false) :
    shifts feedback count state = state >>> count := by
  induction count generalizing state with
  | zero => exact (BitVec.ushiftRight_zero state).symm
  | succ count ih =>
    rw [shifts_succ, shift_low (high 0 (Nat.succ_pos _)), ih, ← BitVec.shiftRight_add, Nat.add_comm]
    intro place below
    rw [BitVec.getLsbD_ushiftRight]
    exact high (1 + place) (by omega)

/-- Several shifts at once: those of the low bits, and the others moved. -/
theorem shifts_table (count : Nat) (state low : BitVec w)
    (agrees : ∀ place < count, low.getLsbD place = state.getLsbD place) (short : low >>> count = 0) :
    shifts feedback count state = shifts feedback count low ^^^ state >>> count := by
  have parts : state = low ^^^ (low ^^^ state) := by
    rw [← BitVec.xor_assoc, BitVec.xor_self, BitVec.zero_xor]
  have rest : shifts feedback count (low ^^^ state) = state >>> count := by
    rw [shifts_high, BitVec.ushiftRight_xor_distrib, short, BitVec.ofNat_eq_ofNat, BitVec.zero_xor]
    intro place below
    rw [BitVec.getLsbD_xor, agrees place below, Bool.xor_self]
  rw [← rest, ← shifts_xor, ← parts]

end Linear

section Injective

variable {feedback : BitVec w}

theorem shift_injective (fedBack : feedback.msb = true) : Function.Injective (shift feedback) := by
  intro one two same
  have gone : shift feedback (one ^^^ two) = 0 := by
    rw [shift_xor, same, BitVec.xor_self]
    rfl
  have moved : (one ^^^ two) >>> 1 = 0 ∧ (one ^^^ two).getLsbD 0 = false := by
    cases low : (one ^^^ two).getLsbD 0 with
    | false =>
      rw [shift_low low] at gone
      exact ⟨gone, rfl⟩
    | true =>
      simp only [shift, low, if_true] at gone
      have top : ((one ^^^ two) >>> 1 ^^^ feedback).msb = true := by
        rw [BitVec.msb_xor, fedBack, BitVec.msb_ushiftRight]
        simp
      rw [gone] at top
      simp only [BitVec.ofNat_eq_ofNat, BitVec.msb_zero, Bool.false_eq_true] at top
  have none : one ^^^ two = 0 := by
    apply BitVec.eq_of_getLsbD_eq
    intro place inside
    cases place with
    | zero => rw [moved.2, BitVec.ofNat_eq_ofNat, BitVec.getLsbD_zero]
    | succ place =>
      have bit := congrArg (fun state : BitVec w => state.getLsbD place) moved.1
      simp only [BitVec.getLsbD_ushiftRight, BitVec.ofNat_eq_ofNat, BitVec.getLsbD_zero] at bit
      rw [Nat.add_comm, bit, BitVec.ofNat_eq_ofNat, BitVec.getLsbD_zero]
  exact BitVec.xor_eq_zero_iff.mp none

theorem shifts_injective (fedBack : feedback.msb = true) (count : Nat) : Function.Injective (shifts feedback count) :=
  (shift_injective fedBack).iterate count

theorem feed_injective (fedBack : feedback.msb = true) (bits : List Bool) :
    Function.Injective fun state => feed feedback state bits := by
  induction bits with
  | nil => exact Function.injective_id
  | cons bit bits ih =>
    intro one two same
    have added := shift_injective fedBack (ih same)
    exact (BitVec.xor_left_inj _).mp added

end Injective

section Feeding

variable {feedback : BitVec w}

theorem feed_append (state : BitVec w) (front back : List Bool) :
    feed feedback state (front ++ back) = feed feedback (feed feedback state front) back :=
  List.foldl_append

theorem getLsbD_word (bits : List Bool) (place : Nat) :
    (word w bits).getLsbD place = (decide (place < w) && bits.getD place false) := by
  induction bits generalizing place with
  | nil => simp only [word, BitVec.ofNat_eq_ofNat, BitVec.getLsbD_zero, List.getD_nil, Bool.and_false]
  | cons bit bits ih =>
    rw [word, BitVec.getLsbD_xor, BitVec.getLsbD_setWidth, BitVec.getLsbD_shiftLeft]
    cases place with
    | zero => simp
    | succ place =>
      rw [Nat.add_sub_cancel, ih]
      by_cases inside : place + 1 < w
      · simp [inside, Nat.lt_of_succ_lt inside]
      · simp [inside]

theorem word_injective {one two : List Bool} (length : one.length = two.length) (fits : one.length ≤ w)
    (same : word w one = word w two) : one = two := by
  apply List.ext_getElem length
  intro place inside other
  have bit := congrArg (fun state : BitVec w => state.getLsbD place) same
  have below : place < w := Nat.lt_of_lt_of_le inside fits
  simpa only [getLsbD_word, below, decide_true, Bool.true_and, List.getD_eq_getElem _ _ inside,
    List.getD_eq_getElem _ _ other] using bit

/-- Bits no more than the word has are added at once and then shifted out. -/
theorem feed_word (state : BitVec w) {bits : List Bool} (fits : bits.length ≤ w) :
    feed feedback state bits = shifts feedback bits.length (state ^^^ word w bits) := by
  induction bits generalizing state with
  | nil => exact (BitVec.xor_zero).symm
  | cons bit bits ih =>
    have shorter : bits.length + 1 ≤ w := fits
    have moved : shift feedback (word w bits <<< 1) = word w bits := by
      have even : (word w bits <<< 1).getLsbD 0 = false := by
        simp only [BitVec.getLsbD_shiftLeft, Nat.zero_lt_one, decide_true, Bool.not_true, Bool.and_false, Bool.false_and]
      rw [shift_low even]
      apply BitVec.eq_of_getLsbD_eq
      intro place inside
      rw [BitVec.getLsbD_ushiftRight, BitVec.getLsbD_shiftLeft, Nat.add_comm, Nat.add_sub_cancel]
      by_cases within : place + 1 < w
      · simp [within]
      · have past : bits.length ≤ place := by omega
        simp [within, getLsbD_word, past]
    have split : shift feedback (state ^^^ word w (bit :: bits)) = step feedback state bit ^^^ word w bits := by
      rw [word, ← BitVec.xor_assoc, shift_xor, moved, step]
    rw [List.length_cons, shifts_succ, split, ← ih (step feedback state bit) (by omega)]
    rfl

/-- Inputs that differ within a run of bits no longer than the word leave different
words. -/
theorem feed_burst (fedBack : feedback.msb = true) (state : BitVec w) {one two : List Bool} (burst : Burst w one two)
    (same : feed feedback state one = feed feedback state two) : one = two := by
  obtain ⟨front, run, other, back, rfl, rfl, length, fits⟩ := burst
  simp only [feed_append] at same
  have before := feed_injective fedBack back same
  have others : other.length ≤ w := by rw [← length]; exact fits
  rw [feed_word (feed feedback state front) fits, feed_word (feed feedback state front) others, ← length] at before
  have words := (BitVec.xor_right_inj _).mp (shifts_injective fedBack _ before)
  rw [word_injective length fits words]

end Feeding

end Simutgw.Logic.ShiftRegister
