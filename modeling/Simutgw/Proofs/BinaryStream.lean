import Simutgw.Proofs.BinaryFraming
import Simutgw.Logic.Streams

/-! What the binary encoders write is read back from the stream. The length in a
head is the length of the structs behind it, so that the receiver cuts where the
encoders ended, whatever the fields hold. -/

namespace Simutgw.Proofs.BinaryStream
open Logic Binary BinaryPacketAssembler BinaryFraming

/-- A message for one of the encoders. -/
inductive LocalPack
  | logon (msgobj : BinaryLogon)
  | platformStateInfo (msgobj : PlatformStateInfo)
  | heartbeat
  | reportSynch (execReportSynchObj : ReportSynchronization)
  | newOrder (newOrderObj : NewOrder) (newOrder_extObj : NewOrderExt100101)
  | execReport (execRepotObj : ExecutionReport) (execRepot_extObj : ExecutionReportExt200102)
  | execReportMatched (execRepotObj : ExecutionReportMatched) (execRepot_extObj : ExecutionReportMatchedExt200115)

namespace LocalPack

def toNetBuffer : LocalPack → List UInt8 → Option (Int × List UInt8)
  | logon msgobj => localPackToNetBuffer_Logon msgobj
  | platformStateInfo msgobj => localPackToNetBuffer_PlatformStateInfo msgobj
  | heartbeat => localPackToNetBuffer_Heartbeat
  | reportSynch synch => localPackToNetBuffer_ReportSynch synch
  | newOrder order ext => localPackToNetBuffer_NewOrder_100101 order ext
  | execReport report ext => localPackToNetBuffer_ExecReport_200102 report ext
  | execReportMatched report ext => localPackToNetBuffer_ExecReport_Matched_200115 report ext

def msgType : LocalPack → UInt32
  | logon _ => msgType_Logon1
  | platformStateInfo _ => msgType_PlatformStateInfo6
  | heartbeat => msgType_HeartBeat3
  | reportSynch _ => msgType_ReportSynchronization5
  | newOrder _ _ => msgType_NewOrder100101
  | execReport _ _ => msgType_ExecutionReport200102
  | execReportMatched _ _ => msgType_MatchedExecutionReport200115

/-- The structs of the message, each with its `sizeof`. -/
def structs : LocalPack → List (Nat × List UInt8)
  | logon msgobj => [copied msgobj]
  | platformStateInfo msgobj => [copied msgobj]
  | heartbeat => []
  | reportSynch synch => [copied synch]
  | newOrder order ext => [copied order, copied ext]
  | execReport report ext => [copied report, copied ext]
  | execReportMatched report ext => [copied report, copied ext]

/-- The structs as they lie in memory, one behind the other. -/
def body (message : LocalPack) : List UInt8 := (message.structs.map Prod.snd).flatten

end LocalPack

/-- The body within the whole message a packet keeps. -/
def packBody (pack : BinaryNetPack) : List UInt8 :=
  (pack.vctBuffer.drop headSize.toNat).take pack.ui32BodyLength.toNat

section Words

theorem htonl_length (word : UInt32) : (htonl word).length = 4 := rfl

theorem toNat_ntohl (a b c d : UInt8) :
    (ntohl [a, b, c, d]).toNat = ((a.toNat * 256 + b.toNat) * 256 + c.toNat) * 256 + d.toNat := by
  have first := a.toNat_lt
  have second := b.toNat_lt
  have third := c.toNat_lt
  have fourth := d.toNat_lt
  simp only [ntohl, List.foldl_cons, List.foldl_nil, UInt32.toNat_add, UInt32.toNat_mul, UInt8.toNat_toUInt32,
    UInt32.reduceToNat]
  omega

theorem ntohl_htonl (word : UInt32) : ntohl (htonl word) = word := by
  apply UInt32.toNat_inj.mp
  have small := word.toNat_lt
  rw [htonl, toNat_ntohl]
  simp only [UInt32.toNat_toUInt8, UInt32.toNat_shiftRight, UInt32.reduceToNat, Nat.shiftRight_eq_div_pow,
    Nat.reduceMod, Nat.reducePow]
  omega

end Words

section Encoding

variable {front old : List UInt8}

theorem memcpy_over {bytes : List UInt8} (fits : bytes.length ≤ old.length) :
    memcpy (front ++ old) front.length bytes = some (front ++ bytes ++ old.drop bytes.length) := by
  have inside : front.length + bytes.length ≤ (front ++ old).length := by
    rw [List.length_append]
    omega
  rw [memcpy, if_pos inside, List.take_left, List.drop_append]
  simp only [Nat.add_sub_cancel_left, List.drop_eq_nil_of_le (Nat.le_add_right _ _), List.nil_append]

theorem copyStruct_all {structs : List (Nat × List UInt8)} (sized : ∀ one ∈ structs, one.1 = one.2.length)
    (fits : (structs.map Prod.snd).flatten.length ≤ old.length) :
    structs.foldlM copyStruct (front ++ old, front.length) =
      some (front ++ (structs.map Prod.snd).flatten ++ old.drop (structs.map Prod.snd).flatten.length,
        front.length + (structs.map Prod.snd).flatten.length) := by
  induction structs generalizing front old with
  | nil => simp
  | cons one structs ih =>
    obtain ⟨sizeof, bytes⟩ := one
    have size : sizeof = bytes.length := sized _ List.mem_cons_self
    subst size
    simp only [List.map_cons, List.flatten_cons, List.length_append] at fits
    have first : copyStruct (front ++ old, front.length) (bytes.length, bytes) =
        some (front ++ bytes ++ old.drop bytes.length, (front ++ bytes).length) := by
      simp only [copyStruct, memcpy_over (show bytes.length ≤ old.length by omega), Option.bind_eq_bind,
        Option.bind_some, List.length_append]
    have later := @ih (front ++ bytes) (old.drop bytes.length)
      (fun one found => sized one (List.mem_cons_of_mem _ found))
      (by rw [List.length_drop]; omega)
    rw [List.foldlM_cons, first, Option.bind_eq_bind, Option.bind_some, later]
    simp only [List.map_cons, List.flatten_cons, List.length_append, List.append_assoc, List.drop_drop, Nat.add_assoc]

/-- The head and the body, which the checksum covers. -/
def covered (uiMsgType : UInt32) (body : List UInt8) : List UInt8 :=
  htonl uiMsgType ++ htonl (.ofNat body.length) ++ body

/-- A message on the wire. -/
def frame (uiMsgType : UInt32) (body : List UInt8) : List UInt8 :=
  covered uiMsgType body ++
    htonl (generateCheckSum (covered uiMsgType body) 0 (.ofNat body.length + headSize))

theorem covered_length (uiMsgType : UInt32) (body : List UInt8) :
    (covered uiMsgType body).length = 8 + body.length := by
  simp only [covered, List.length_append, htonl_length]

theorem frame_length (uiMsgType : UInt32) (body : List UInt8) :
    (frame uiMsgType body).length = 8 + body.length + 4 := by
  rw [frame, List.length_append, covered_length, htonl_length]

theorem resize_length (vctData : List UInt8) (size : Nat) : (resize vctData size).length = size := by
  rw [resize, List.length_append, List.length_take, List.length_replicate]
  omega

/-- An encoder that gives the length of its structs writes their frame, whatever was
in the buffer. -/
theorem localPackToNetBuffer_frame (uiMsgType : UInt32) {structs : List (Nat × List UInt8)} {body : List UInt8}
    (sized : ∀ one ∈ structs, one.1 = one.2.length) (content : (structs.map Prod.snd).flatten = body)
    (short : body.length + 8 < 2 ^ 32) (out_vctData : List UInt8) :
    localPackToNetBuffer uiMsgType (.ofNat body.length) structs out_vctData = some (0, frame uiMsgType body) := by
  have room : (UInt32.ofNat body.length + headSize).toNat = 8 + body.length := by
    simp only [headSize, UInt32.toNat_add, UInt32.toNat_ofNat', UInt32.reduceToNat]
    omega
  obtain ⟨old, sizeof_old, resized⟩ : ∃ old : List UInt8, old.length = 8 + body.length ∧
      resize out_vctData (8 + body.length) = [] ++ old :=
    ⟨_, resize_length _ _, rfl⟩
  have head := @memcpy_over [] old (htonl uiMsgType ++ htonl (.ofNat body.length))
    (by rw [List.length_append, htonl_length, htonl_length]; omega)
  have structs_copied := @copyStruct_all (htonl uiMsgType ++ htonl (.ofNat body.length)) (old.drop 8) structs sized
    (by rw [content, List.length_drop]; omega)
  have all : (old.drop 8).drop body.length = [] := by
    apply List.drop_eq_nil_of_le
    rw [List.length_drop]
    omega
  simp only [List.length_nil, List.nil_append] at head resized
  rw [content, all, List.append_nil] at structs_copied
  simp only [List.length_append, htonl_length, Nat.reduceAdd] at structs_copied head
  have copies : structs.foldlM copyStruct
      (htonl uiMsgType ++ htonl (.ofNat body.length) ++ old.drop 8, headSize.toNat) =
        some (covered uiMsgType body, 8 + body.length) := structs_copied
  simp only [localPackToNetBuffer, room, resized, head, Option.bind_eq_bind, Option.bind_some, copies]
  rfl

theorem copied_sized {Struct : Type} [Packed Struct] (msgobj : Struct) :
    (copied msgobj).1 = (copied msgobj).2.length :=
  (Packed.bytes_length msgobj).symm

theorem structs_sized (message : LocalPack) : ∀ one ∈ message.structs, one.1 = one.2.length := by
  cases message <;> simp [LocalPack.structs, copied_sized]

theorem body_length (message : LocalPack) : message.body.length = (message.structs.map Prod.fst).sum := by
  rw [LocalPack.body, List.length_flatten, List.map_map]
  congr 1
  apply List.map_congr_left
  intro one found
  exact (structs_sized message one found).symm

theorem body_short (message : LocalPack) : message.body.length < 1024 := by
  rw [body_length]
  cases message <;> simp [LocalPack.structs, copied, Packed.sizeof]

theorem toNetBuffer_eq (message : LocalPack) :
    message.toNetBuffer =
      localPackToNetBuffer message.msgType (.ofNat (message.structs.map Prod.fst).sum) message.structs := by
  cases message <;> rfl

theorem toNetBuffer_frame (message : LocalPack) (out_vctData : List UInt8) :
    message.toNetBuffer out_vctData = some (0, frame message.msgType message.body) := by
  have short := body_short message
  rw [toNetBuffer_eq, ← body_length]
  exact @localPackToNetBuffer_frame message.msgType message.structs message.body (structs_sized message) rfl
    (by omega) out_vctData

end Encoding

/-- What the receiver makes of a message. -/
def packOf (message : LocalPack) : BinaryNetPack where
  ui32MsgType := message.msgType
  ui32BodyLength := .ofNat message.body.length
  vctBuffer := if 0 < message.body.length then frame message.msgType message.body else []

def piece (message : LocalPack) : List UInt8 × BinaryNetPack :=
  (frame message.msgType message.body, packOf message)

theorem packBody_packOf (message : LocalPack) : packBody (packOf message) = message.body := by
  have short := body_short message
  by_cases some : 0 < message.body.length
  · have room : (UInt32.ofNat message.body.length).toNat = message.body.length := by
      rw [UInt32.toNat_ofNat']
      omega
    simp only [packBody, packOf, some, if_true, room, headSize, UInt32.reduceToNat, frame, covered,
      List.append_assoc]
    exact List.take_left
  · have none : message.body = [] := List.eq_nil_of_length_eq_zero (by omega)
    simp only [packBody, packOf, none, List.length_nil, Nat.lt_irrefl, if_false, List.drop_nil, List.take_nil]

section Receiving

variable {recved : List BinaryNetPack}

theorem declared_frame {message : LocalPack} {front tail : List UInt8} (shown : 8 ≤ front.length)
    (split : frame message.msgType message.body = front ++ tail) :
    declared front = .ofNat message.body.length := by
  have head : declared (front ++ tail) = declared front := declared_append shown
  rw [← head, ← split]
  exact ntohl_htonl _

theorem netPackLen_frame (message : LocalPack) :
    (netPackLen (.ofNat message.body.length)).toNat = (frame message.msgType message.body).length := by
  have short := body_short message
  rw [netPackLen_toNat, frame_length, UInt32.toNat_ofNat']
  omega

theorem takes_message (message : LocalPack) (tail : List UInt8) :
    cutPack ⟨frame message.msgType message.body ++ tail, recved⟩ = .again ⟨tail, recved ++ [packOf message]⟩ := by
  have long := frame_length message.msgType message.body
  have length : declared (frame message.msgType message.body ++ tail) = .ofNat message.body.length := by
    rw [declared_append (by omega)]
    exact declared_frame (by omega) (List.append_nil _).symm
  have cuts := @cutPack_cuts (frame message.msgType message.body ++ tail) recved
    (by rw [List.length_append]; omega) (by rw [length, netPackLen_frame, List.length_append]; omega)
  have kind : ntohl ((frame message.msgType message.body ++ tail).take 4) = message.msgType :=
    ntohl_htonl message.msgType
  have some : 0 < UInt32.ofNat message.body.length ↔ 0 < message.body.length := by
    have short := body_short message
    rw [UInt32.lt_iff_toNat_lt, UInt32.toNat_ofNat', UInt32.toNat_zero]
    omega
  rw [cuts, length, netPackLen_frame, List.drop_left]
  simp only [frontPack, packOf, kind, length, netPackLen_frame, List.take_left, some]

theorem keeps_torn {message : LocalPack} {tail : List UInt8}
    (part : tail <+: frame message.msgType message.body)
    (less : tail.length < (frame message.msgType message.body).length) :
    ∃ code, cutPack ⟨tail, recved⟩ = .leave (code, ⟨tail, recved⟩) := by
  by_cases head : 8 ≤ tail.length
  · obtain ⟨more, split⟩ := part
    refine ⟨1, cutPack_waits recved head ?_⟩
    rw [declared_frame head split.symm, netPackLen_frame]
    exact less
  · exact cutPack_short recved (Nat.lt_of_not_le head)

theorem takes_messages (messages : List LocalPack) (tail : List UInt8) :
    cutPack.Visits ⟨((messages.map piece).map Prod.fst).flatten ++ tail, recved⟩
      ⟨tail, recved ++ (messages.map piece).map Prod.snd⟩ := by
  induction messages generalizing recved with
  | nil =>
    rw [List.map_nil, List.map_nil, List.map_nil, List.append_nil]
    exact .here
  | cons message messages ih =>
    have taken := @takes_message recved message (((messages.map piece).map Prod.fst).flatten ++ tail)
    have rest := @ih (recved ++ [packOf message])
    simp only [List.map_cons, List.flatten_cons, List.append_assoc, piece, List.singleton_append] at rest taken ⊢
    exact (Loop.Visits.again .here taken).trans rest

/-- One call, with the chunk behind what the connection has kept. -/
def Receives (trim : Bool) (feed : Feed UInt8 BinaryNetPack) (chunk : List UInt8)
    (next : Feed UInt8 BinaryNetPack) : Prop :=
  ∃ fuel code, recvPackage fuel (feed.pending ++ chunk) feed.taken trim = some (code, ⟨next.pending, next.taken⟩)

theorem receives_single {trim : Bool} (feed : Feed UInt8 BinaryNetPack) (chunk : List UInt8)
    (one two : Feed UInt8 BinaryNetPack) (first : Receives trim feed chunk one) (second : Receives trim feed chunk two) :
    one = two := by
  obtain ⟨fuel, code, ran⟩ := first
  obtain ⟨other, status, again⟩ := second
  have same : (code, (⟨one.pending, one.taken⟩ : Received)) = (status, ⟨two.pending, two.taken⟩) := by
    unfold recvPackage at ran again
    exact Loop.answer_unique ran again
  obtain ⟨pending, taken⟩ := one
  obtain ⟨left, got⟩ := two
  cases same
  rfl

theorem receives_messages {trim : Bool} {second rest : List LocalPack} {pending chunk tail : List UInt8}
    (front : pending ++ chunk = ((second.map piece).map Prod.fst).flatten ++ tail)
    (torn : Torn ((rest.map piece).map Prod.fst) tail) :
    Receives trim ⟨pending, recved⟩ chunk ⟨tail, recved ++ (second.map piece).map Prod.snd⟩ := by
  unfold Receives recvPackage
  simp only [front]
  by_cases short : (((second.map piece).map Prod.fst).flatten ++ tail).length < headSize.toNat
  · have none : second = [] := by
      cases second with
      | nil => rfl
      | cons message second =>
        have long := frame_length message.msgType message.body
        simp only [List.map_cons, List.flatten_cons, List.length_append, piece, headSize,
          UInt32.reduceToNat] at short
        omega
    subst none
    refine ⟨0, 1, ?_⟩
    rw [if_pos short]
    simp only [List.map_nil, List.flatten_nil, List.nil_append, List.append_nil]
  · have kept : ∃ code, cutPack ⟨tail, recved ++ (second.map piece).map Prod.snd⟩ =
        .leave (code, ⟨tail, recved ++ (second.map piece).map Prod.snd⟩) := by
      rcases torn with rfl | ⟨text, more, split, part, less⟩
      · exact cutPack_short _ (by simp)
      · cases rest with
        | nil => cases split
        | cons message rest =>
          obtain ⟨same, -⟩ := List.cons.inj split
          subst same
          exact keeps_torn part less
    obtain ⟨code, left⟩ := kept
    obtain ⟨fuel, ran⟩ := (takes_messages second tail).returns.mpr (Loop.returns_leave left)
    exact ⟨fuel, code, by rw [if_neg short, ran]⟩

end Receiving

/-- However the stream of encoded messages is cut, one chunk after another makes the
receiver deliver the messages in their order and keep nothing. Each encoder may have
been handed a buffer that still held something. -/
theorem binary_stream_delivered (bTrimWasteData : Bool) (messages : List (LocalPack × List UInt8)) :
    ∃ (sent : List (List UInt8)) (packs : List BinaryNetPack),
      messages.map (fun message => message.1.toNetBuffer message.2) = sent.map (fun bytes => some (0, bytes)) ∧
      packs.map (fun pack => (pack.ui32MsgType, packBody pack)) =
        messages.map (fun message => (message.1.msgType, message.1.body)) ∧
      ∀ chunks : List (List UInt8), chunks.flatten = sent.flatten → ∀ last,
        (Fed (Receives bTrimWasteData) ⟨[], []⟩ chunks last ↔ last = ⟨[], packs⟩) := by
  refine ⟨((messages.map Prod.fst).map piece).map Prod.fst, ((messages.map Prod.fst).map piece).map Prod.snd,
    ?_, ?_, ?_⟩
  · simp only [List.map_map]
    apply List.map_congr_left
    intro message _
    exact toNetBuffer_frame message.1 message.2
  · simp only [List.map_map]
    apply List.map_congr_left
    intro message _
    exact Prod.ext rfl (packBody_packOf message.1)
  · generalize messages.map Prod.fst = messages
    intro chunks cut last
    have fed : Fed (Receives bTrimWasteData) ⟨[], []⟩ chunks ⟨[], (messages.map piece).map Prod.snd⟩ := by
      apply fed_of_receives _ _ chunks cut
      · intro one found
        obtain ⟨message, -, rfl⟩ := List.mem_map.mp found
        have long := frame_length message.msgType message.body
        intro empty
        simp only [piece] at empty
        rw [empty, List.length_nil] at long
        omega
      · intro first second rest split pending chunk tail front torn
        obtain ⟨firsts, others, rfl, rfl, back⟩ := List.map_eq_append_iff.mp split
        obtain ⟨seconds, rests, rfl, rfl, rfl⟩ := List.map_eq_append_iff.mp back
        rw [List.map_append]
        exact receives_messages front torn
    exact ⟨fun other => other.unique receives_single fed, fun same => same ▸ fed⟩

end Simutgw.Proofs.BinaryStream
