import Simutgw.BinaryPacketAssembler

/-! The binary gateway cuts its stream at the lengths the heads declare as long
as the sum of the three lengths stays within its word. -/

namespace Simutgw.Proofs.BinaryFraming
open Logic BinaryPacketAssembler

/-- The body length the head in front declares. -/
def declared (buffer : List UInt8) : UInt32 := ntohl ((buffer.take 8).drop 4)

/-- The packets are the bytes in front of the rest, one after the other, each as
long as its own head says. -/
def Exact (packets : List BinaryNetPack) (buffer rest : List UInt8) : Prop :=
  buffer = (packets.map BinaryNetPack.vctBuffer).flatten ++ rest ∧
    ∀ packet ∈ packets, packet.ui32BodyLength = declared packet.vctBuffer ∧
      packet.vctBuffer.length = 8 + packet.ui32BodyLength.toNat + 4

/-- The call returns, so no pass was undefined, and delivered exact packets. -/
def Framed (vctBuffer : List UInt8) (recvedDatas : List BinaryNetPack) (bTrimWasteData : Bool) : Prop :=
  ∃ fuel code packets rest, recvPackage fuel vctBuffer recvedDatas bTrimWasteData =
    some (code, ⟨rest, recvedDatas ++ packets⟩) ∧ Exact packets vctBuffer rest

/-- What is left after packets of the declared lengths. -/
def Boundary (buffer rest : List UInt8) : Prop :=
  ∃ frames : List (List UInt8), buffer = frames.flatten ++ rest ∧
    ∀ frame ∈ frames, frame.length = 8 + (declared frame).toNat + 4

/-- A head at a packet boundary declares a body that is not empty and whose packet
length fits the word, where the buffer reaches as far as the word says. -/
def Sound (buffer : List UInt8) : Prop :=
  ∀ rest, Boundary buffer rest → 8 ≤ rest.length → (netPackLen (declared rest)).toNat ≤ rest.length →
    0 < (declared rest).toNat ∧ 8 + (declared rest).toNat + 4 < 2 ^ 32

section Lengths

theorem netPackLen_toNat (uiBodyLength : UInt32) :
    (netPackLen uiBodyLength).toNat = (8 + uiBodyLength.toNat + 4) % 2 ^ 32 := by
  simp only [netPackLen, headSize, tailSize, UInt32.toNat_add, UInt32.reduceToNat]
  omega

theorem netPackLen_fits {uiBodyLength : UInt32} (fits : 8 + uiBodyLength.toNat + 4 < 2 ^ 32) :
    (netPackLen uiBodyLength).toNat = 8 + uiBodyLength.toNat + 4 := by
  rw [netPackLen_toNat, Nat.mod_eq_of_lt fits]

theorem slice_front {buffer : List UInt8} {last : Nat} (inside : last ≤ buffer.length) :
    slice buffer 0 last = some (buffer.take last) := by
  simp only [slice, Nat.zero_le, inside, and_self, if_true, List.drop_zero]

theorem declared_take {buffer : List UInt8} {length : Nat} (covers : 8 ≤ length) :
    declared (buffer.take length) = declared buffer := by
  simp only [declared, List.take_take, Nat.min_eq_left covers]

theorem declared_append {frame rest : List UInt8} (covers : 8 ≤ frame.length) :
    declared (frame ++ rest) = declared frame := by
  rw [declared, declared, List.take_append_of_le_length covers]

end Lengths

/-- The packet a pass delivers from the front of this buffer. -/
def frontPack (buffer : List UInt8) : BinaryNetPack where
  ui32MsgType := ntohl (buffer.take 4)
  ui32BodyLength := declared buffer
  vctBuffer := if 0 < declared buffer then buffer.take (netPackLen (declared buffer)).toNat else []

section Passes

variable {buffer : List UInt8}

theorem cutPack_short (recved : List BinaryNetPack) (short : buffer.length < 8) :
    ∃ code, cutPack ⟨buffer, recved⟩ = .leave (code, ⟨buffer, recved⟩) := by
  by_cases empty : buffer.length = 0
  · exact ⟨0, by simp only [cutPack, empty, if_true]⟩
  · refine ⟨1, ?_⟩
    simp only [cutPack, empty, if_false, headSize, UInt32.reduceToNat, short, if_true]

theorem cutPack_waits (recved : List BinaryNetPack) (head : 8 ≤ buffer.length)
    (waits : buffer.length < (netPackLen (declared buffer)).toNat) :
    cutPack ⟨buffer, recved⟩ = .leave (1, ⟨buffer, recved⟩) := by
  have empty : buffer.length ≠ 0 := by omega
  have long : ¬ buffer.length < 8 := by omega
  simp only [cutPack, empty, if_false, headSize, UInt32.reduceToNat, long, slice_front head]
  exact if_pos waits

theorem cutPack_cuts (recved : List BinaryNetPack) (head : 8 ≤ buffer.length)
    (whole : (netPackLen (declared buffer)).toNat ≤ buffer.length) :
    cutPack ⟨buffer, recved⟩ =
      .again ⟨buffer.drop (netPackLen (declared buffer)).toNat, recved ++ [frontPack buffer]⟩ := by
  have empty : buffer.length ≠ 0 := by omega
  have long : ¬ buffer.length < 8 := by omega
  have there : ¬ (netPackLen (ntohl ((buffer.take 8).drop 4))).toNat > buffer.length := by
    simpa only [declared, gt_iff_lt, not_lt] using whole
  have inside := slice_front whole
  simp only [declared] at inside
  simp only [cutPack, empty, if_false, headSize, UInt32.reduceToNat, long, slice_front head, there, inside]
  simp only [frontPack, declared, List.take_take, Nat.reduceLeDiff, Nat.min_eq_left]
  rfl

/-- No pass reads past the end of the buffer, whatever the head declares. -/
theorem cutPack_defined (state : Received) : cutPack state ≠ .undefined := by
  obtain ⟨buffer, recved⟩ := state
  by_cases head : 8 ≤ buffer.length
  · by_cases whole : (netPackLen (declared buffer)).toNat ≤ buffer.length
    · rw [cutPack_cuts recved head whole]
      simp only [ne_eq, reduceCtorEq, not_false_eq_true]
    · rw [cutPack_waits recved head (Nat.lt_of_not_le whole)]
      simp only [ne_eq, reduceCtorEq, not_false_eq_true]
  · obtain ⟨code, left⟩ := cutPack_short recved (Nat.lt_of_not_le head)
    rw [left]
    simp only [ne_eq, reduceCtorEq, not_false_eq_true]

theorem returns_extends {state : Received} {result : Int × Received} (returns : cutPack.Returns state result) :
    ∃ more, result.2.recvedDatas = state.recvedDatas ++ more := by
  obtain ⟨fuel, ran⟩ := returns
  induction fuel generalizing state with
  | zero => cases ran
  | succ fuel ih =>
    obtain ⟨buffer, recved⟩ := state
    by_cases head : 8 ≤ buffer.length
    · by_cases whole : (netPackLen (declared buffer)).toNat ≤ buffer.length
      · simp only [Loop.run, cutPack_cuts recved head whole] at ran
        obtain ⟨more, grown⟩ := ih ran
        exact ⟨frontPack buffer :: more, by simpa using grown⟩
      · simp only [Loop.run, cutPack_waits recved head (Nat.lt_of_not_le whole)] at ran
        cases ran
        exact ⟨[], (List.append_nil _).symm⟩
    · obtain ⟨code, left⟩ := cutPack_short recved (Nat.lt_of_not_le head)
      simp only [Loop.run, left] at ran
      cases ran
      exact ⟨[], (List.append_nil _).symm⟩

end Passes

/-- The loop leaves this state with exact packets. -/
def FramedFrom (state : Received) : Prop :=
  ∃ code packets rest, cutPack.Returns state (code, ⟨rest, state.recvedDatas ++ packets⟩) ∧
    Exact packets state.vctBuffer rest

section Framing

variable {buffer : List UInt8} {recved : List BinaryNetPack}

theorem framedFrom_leave {code : Int} (left : cutPack ⟨buffer, recved⟩ = .leave (code, ⟨buffer, recved⟩)) :
    FramedFrom ⟨buffer, recved⟩ := by
  refine ⟨code, [], buffer, ?_, by simp only [List.map_nil, List.flatten_nil, List.nil_append], ?_⟩
  · rw [List.append_nil]
    exact Loop.returns_leave left
  · intro packet found
    cases found

/-- A pass that cuts a packet is exact when its packet is as long as the head says
and the loop goes on to be exact. -/
theorem framedFrom_cuts (head : 8 ≤ buffer.length) (whole : (netPackLen (declared buffer)).toNat ≤ buffer.length) :
    FramedFrom ⟨buffer, recved⟩ ↔
      (0 < (declared buffer).toNat ∧ 8 + (declared buffer).toNat + 4 < 2 ^ 32) ∧
        FramedFrom ⟨buffer.drop (8 + (declared buffer).toNat + 4), recved ++ [frontPack buffer]⟩ := by
  have cuts := cutPack_cuts recved head whole
  constructor
  · rintro ⟨code, packets, rest, returns, stream, exact⟩
    have later := (Loop.returns_again cuts).mp returns
    obtain ⟨more, grown⟩ := returns_extends later
    have split : packets = frontPack buffer :: more := by
      simpa only [List.append_assoc, List.singleton_append, List.append_cancel_left_eq] using grown
    subst split
    obtain ⟨-, length⟩ := exact _ List.mem_cons_self
    have body : 0 < declared buffer := by
      by_contra empty
      simp only [frontPack, empty, if_false, List.length_nil] at length
      omega
    simp only [frontPack, body, if_true, List.length_take, Nat.min_eq_left whole] at length
    have fits : 8 + (declared buffer).toNat + 4 < 2 ^ 32 := by
      rw [netPackLen_toNat] at length
      omega
    refine ⟨⟨UInt32.lt_iff_toNat_lt.mp body, fits⟩, code, more, rest, ?_, ?_, ?_⟩
    · simpa only [length, List.append_assoc, List.singleton_append] using later
    · have cut := congrArg (List.drop (8 + (declared buffer).toNat + 4)) stream
      rw [List.map_cons, List.flatten_cons, List.append_assoc, List.drop_left'] at cut
      · exact cut
      · simp only [frontPack, body, if_true, List.length_take, Nat.min_eq_left whole]
        exact length
    · exact fun packet found => exact packet (List.mem_cons_of_mem _ found)
  · rintro ⟨⟨body, fits⟩, code, packets, rest, returns, stream, exact⟩
    have length := netPackLen_fits fits
    have front : (frontPack buffer).vctBuffer = buffer.take (8 + (declared buffer).toNat + 4) := by
      simp only [frontPack, UInt32.lt_iff_toNat_lt, UInt32.toNat_zero, body, if_true, length]
    refine ⟨code, frontPack buffer :: packets, rest, ?_, ?_, ?_⟩
    · rw [Loop.returns_again cuts]
      simpa only [length, List.append_assoc, List.singleton_append] using returns
    · simp only [List.map_cons, List.flatten_cons, front, List.append_assoc]
      simp only at stream
      rw [← stream, List.take_append_drop]
    · intro packet found
      rcases List.mem_cons.mp found with first | later
      · subst first
        rw [length] at whole
        refine ⟨?_, ?_⟩
        · rw [front, declared_take (by omega)]
          rfl
        · rw [front, List.length_take, Nat.min_eq_left whole]
          rfl
      · exact exact packet later

end Framing

section Boundaries

variable {buffer : List UInt8}

theorem sound_short (short : buffer.length < 8) : Sound buffer := by
  rintro rest ⟨frames, rfl, exact⟩ long
  cases frames with
  | nil =>
    simp only [List.flatten_nil, List.nil_append] at short
    omega
  | cons frame frames =>
    have length := exact frame List.mem_cons_self
    simp only [List.flatten_cons, List.length_append] at short
    omega

theorem sound_waits (waits : buffer.length < (netPackLen (declared buffer)).toNat) : Sound buffer := by
  rintro rest ⟨frames, rfl, exact⟩ - reaches
  cases frames with
  | nil =>
    simp only [List.flatten_nil, List.nil_append] at waits
    omega
  | cons frame frames =>
    have length := exact frame List.mem_cons_self
    rw [List.flatten_cons, List.append_assoc, declared_append (by omega), netPackLen_toNat] at waits
    simp only [List.length_append] at waits
    have small := Nat.mod_le (8 + (declared frame).toNat + 4) (2 ^ 32)
    omega

theorem sound_cuts (head : 8 ≤ buffer.length) (whole : (netPackLen (declared buffer)).toNat ≤ buffer.length) :
    Sound buffer ↔
      (0 < (declared buffer).toNat ∧ 8 + (declared buffer).toNat + 4 < 2 ^ 32) ∧
        Sound (buffer.drop (8 + (declared buffer).toNat + 4)) := by
  constructor
  · intro sound
    have first := sound buffer ⟨[], rfl, by simp⟩ head whole
    rw [netPackLen_fits first.2] at whole
    refine ⟨first, ?_⟩
    rintro rest ⟨frames, rest_eq, exact⟩
    apply sound
    refine ⟨buffer.take (8 + (declared buffer).toNat + 4) :: frames, ?_, ?_⟩
    · rw [List.flatten_cons, List.append_assoc, ← rest_eq, List.take_append_drop]
    · intro frame found
      rcases List.mem_cons.mp found with first | later
      · subst first
        rw [declared_take (by omega), List.length_take, Nat.min_eq_left whole]
      · exact exact frame later
  · rintro ⟨first, sound⟩ rest ⟨frames, rfl, exact⟩
    cases frames with
    | nil =>
      intro _ _
      simpa only [List.flatten_nil, List.nil_append] using first
    | cons frame frames =>
      have length := exact frame List.mem_cons_self
      apply sound
      refine ⟨frames, ?_, fun frame found => exact frame (List.mem_cons_of_mem _ found)⟩
      rw [List.flatten_cons, List.append_assoc, declared_append (by omega), List.drop_left' length]

end Boundaries

theorem framedFrom_iff (buffer : List UInt8) (recved : List BinaryNetPack) :
    FramedFrom ⟨buffer, recved⟩ ↔ Sound buffer := by
  induction size : buffer.length using Nat.strong_induction_on generalizing buffer recved with
  | _ size ih =>
    by_cases head : 8 ≤ buffer.length
    · by_cases whole : (netPackLen (declared buffer)).toNat ≤ buffer.length
      · rw [framedFrom_cuts head whole, sound_cuts head whole]
        apply and_congr_right
        intro first
        apply ih _ _ _ _ rfl
        rw [List.length_drop]
        omega
      · have waits := Nat.lt_of_not_le whole
        exact ⟨fun _ => sound_waits waits, fun _ => framedFrom_leave (cutPack_waits recved head waits)⟩
    · have short := Nat.lt_of_not_le head
      obtain ⟨code, left⟩ := cutPack_short recved short
      exact ⟨fun _ => sound_short short, fun _ => framedFrom_leave left⟩

/-- The call returns with exact packets just when every head it comes to has a body
and a packet length that the word holds. -/
theorem recvPackage_framed_iff (vctBuffer : List UInt8) (recvedDatas : List BinaryNetPack) (bTrimWasteData : Bool) :
    Framed vctBuffer recvedDatas bTrimWasteData ↔ Sound vctBuffer := by
  by_cases short : vctBuffer.length < 8
  · refine ⟨fun _ => sound_short short, fun _ => ⟨0, 1, [], vctBuffer, ?_, by simp, by simp⟩⟩
    simp only [recvPackage, headSize, UInt32.reduceToNat, short, if_true, List.append_nil]
  · rw [← framedFrom_iff vctBuffer recvedDatas]
    simp only [Framed, recvPackage, headSize, UInt32.reduceToNat, short, if_false]
    constructor
    · rintro ⟨fuel, code, packets, rest, ran, exact⟩
      exact ⟨code, packets, rest, ⟨fuel, ran⟩, exact⟩
    · rintro ⟨code, packets, rest, ⟨fuel, ran⟩, exact⟩
      exact ⟨fuel, code, packets, rest, ran, exact⟩

/-- A length that wraps to nothing takes nothing off the buffer, so the loop stays. -/
theorem endless_of_wrapped {buffer : List UInt8} (head : 8 ≤ buffer.length)
    (wraps : netPackLen (declared buffer) = 0) (fuel : Nat) (recved : List BinaryNetPack) (trim : Bool) :
    recvPackage fuel buffer recved trim = none := by
  have long : ¬ buffer.length < 8 := by omega
  simp only [recvPackage, headSize, UInt32.reduceToNat, long, if_false]
  induction fuel generalizing recved with
  | zero => rfl
  | succ fuel ih =>
    have cuts := cutPack_cuts recved head (by rw [wraps]; exact Nat.zero_le _)
    simp only [Loop.run, cuts, wraps, UInt32.toNat_zero, List.drop_zero]
    exact ih _

/-- The head of a message whose declared body leaves the word nothing. -/
def wrappedHead : List UInt8 := [0, 0, 0, 3, 255, 255, 255, 244]

theorem wrapped_head_never_returns :
    ¬ Framed wrappedHead [] true ∧ ∀ fuel, recvPackage fuel wrappedHead [] true = none := by
  have endless := fun fuel => @endless_of_wrapped wrappedHead (by decide) (by decide) fuel [] true
  refine ⟨?_, endless⟩
  rintro ⟨fuel, code, packets, rest, ran, -⟩
  rw [endless fuel] at ran
  cases ran

end Simutgw.Proofs.BinaryFraming
