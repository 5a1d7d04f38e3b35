import Simutgw.Logic.Mailboxes
import Simutgw.HandlerSocketMsg
import Simutgw.Proofs.BinaryStream
import Simutgw.Proofs.PacketStream

/-! What the handlers hand on while many connections send at once, each in chunks cut
anywhere, and ids are used again after their connections have gone. No connection sees
anything of another one or of an earlier one of its id. -/

namespace Simutgw.Proofs.ConnectionBuffers
open Logic

/-- The buffers, and the packets handed on so far by the id they came in under. -/
structure Server (Pack : Type*) where
  m_mapCidMsg : MapCidMsg := fun _ => none
  handed : UInt64 → List Pack := fun _ => []

/-- A call for what a connection has sent, or one for a connection that has gone. -/
def Serves {Pack : Type*} (appendBuffer : Nat → MapCidMsg → UInt64 → List UInt8 → Option (MapCidMsg × List Pack)) :
    Steps (Server Pack) (UInt64 × Option (List UInt8))
  | before, (cid, some data), after => ∃ fuel m_mapCidMsg packs,
    appendBuffer fuel before.m_mapCidMsg cid data = some (m_mapCidMsg, packs) ∧
      after = ⟨m_mapCidMsg, Function.update before.handed cid (before.handed cid ++ packs)⟩
  | before, (cid, none), after =>
    after = { before with m_mapCidMsg := (HandlerSocketMsg.removeId before.m_mapCidMsg cid).2 }

section Mailboxes

variable {Pack : Type*}

def mailboxes (server : Server Pack) (cid : UInt64) : Mailbox UInt8 Pack :=
  ⟨server.m_mapCidMsg cid, server.handed cid⟩

/-- What a receiver leaves and takes off, however long its loops are followed. -/
def cuts (recvPackage : Nat → List UInt8 → Option (List UInt8 × List Pack)) : Cuts UInt8 Pack :=
  fun buffer result => ∃ fuel, recvPackage fuel buffer = some (result.2, result.1)

variable {recvPackage : Nat → List UInt8 → Option (List UInt8 × List Pack)} {limit : Nat}

theorem mailboxes_injective : Function.Injective (@mailboxes Pack) := by
  intro one two same
  obtain ⟨buffers, handed⟩ := one
  obtain ⟨others, given⟩ := two
  have kept : buffers = others := funext fun cid => congrArg Mailbox.kept (congrFun same cid)
  have packs : handed = given := funext fun cid => congrArg Mailbox.handed (congrFun same cid)
  rw [kept, packs]

theorem mailboxes_update (server : Server Pack) (cid : UInt64) (kept : Option (List UInt8)) (packs : List Pack) :
    mailboxes ⟨Function.update server.m_mapCidMsg cid kept, Function.update server.handed cid packs⟩ =
      Function.update (mailboxes server) cid ⟨kept, packs⟩ := by
  funext other
  by_cases same : other = cid
  · subst same
    simp only [mailboxes, Function.update_self]
  · simp only [mailboxes, Function.update_of_ne same]

/-- The handler is the receiver with a mailbox for each connection. -/
theorem serves_iff {before after : Server Pack} {event : UInt64 × Option (List UInt8)} :
    Serves (fun fuel => HandlerSocketMsg.appendWith (recvPackage fuel) limit) before event after ↔
      Keyed (Limited (cuts recvPackage) limit) (mailboxes before) event (mailboxes after) := by
  obtain ⟨cid, data⟩ := event
  cases data with
  | none =>
    have removed : mailboxes { before with m_mapCidMsg := (HandlerSocketMsg.removeId before.m_mapCidMsg cid).2 } =
        Function.update (mailboxes before) cid ⟨none, before.handed cid⟩ := by
      rw [← mailboxes_update, Function.update_eq_self]
      rfl
    constructor
    · intro serves
      exact ⟨_, rfl, by rw [show after = _ from serves, removed]; rfl⟩
    · intro keyed
      obtain ⟨next, rfl, same⟩ := keyed
      exact mailboxes_injective (same.trans removed.symm)
  | some data =>
    constructor
    · intro serves
      obtain ⟨fuel, buffers, packs, called, rfl⟩ := serves
      obtain ⟨received, ran, result⟩ := Option.map_eq_some_iff.mp called
      cases result
      exact ⟨_, ⟨_, _, ⟨fuel, ran⟩, rfl⟩, mailboxes_update before cid _ _⟩
    · intro keyed
      obtain ⟨next, ⟨packs, left, ⟨fuel, ran⟩, rfl⟩, same⟩ := keyed
      refine ⟨fuel, _, packs, ?_, mailboxes_injective (same.trans (mailboxes_update before cid _ _).symm)⟩
      simp only [mailboxes] at ran
      simp only [HandlerSocketMsg.appendWith, ran, Option.map_some]

theorem run_serves_iff {first last : Server Pack} {events : List (UInt64 × Option (List UInt8))} :
    Run (Serves (fun fuel => HandlerSocketMsg.appendWith (recvPackage fuel) limit)) first events last ↔
      Run (Keyed (Limited (cuts recvPackage) limit)) (mailboxes first) events (mailboxes last) := by
  induction events generalizing first with
  | nil =>
    constructor
    · intro run
      cases run
      exact .nil _
    · intro run
      generalize same : mailboxes last = there at run
      cases run
      rw [mailboxes_injective same]
      exact .nil _
  | cons event events ih =>
    constructor
    · intro run
      cases run with
      | cons taken rest => exact .cons (serves_iff.mp taken) (ih.mp rest)
    · intro run
      cases run with
      | @cons _ next _ _ _ taken rest =>
        let server : Server Pack := ⟨fun cid => (next cid).kept, fun cid => (next cid).handed⟩
        have stands : mailboxes server = next := rfl
        rw [← stands] at taken rest
        exact .cons (serves_iff.mpr taken) (ih.mpr rest)

end Mailboxes

section Arrivals

variable {Message Pack : Type*}

/-- The messages of which all has come in, and no more: the bytes of the next one have not. -/
def Arrived (write : List Message → Option (List UInt8)) (messages : List Message) (chunks : List (List UInt8))
    (whole : List Message) : Prop :=
  ∃ rest stream, messages = whole ++ rest ∧ write whole = some stream ∧ stream <+: chunks.flatten ∧
    ∀ next more longer, rest = next :: more → write (whole ++ [next]) = some longer →
      chunks.flatten.length < longer.length

variable {write : List Message → Option (List UInt8)} {piece : Message → List UInt8 × Pack} {good : Message → Prop}

theorem arrived_of_whole
    (writes : ∀ messages, (∀ message ∈ messages, good message) → write messages = some ((messages.map piece).map Prod.fst).flatten)
    (solid : ∀ message, good message → (piece message).1 ≠ []) {messages : List Message} (each : ∀ message ∈ messages, good message)
    {chunks : List (List UInt8)} {whole : List (List UInt8 × Pack)} (come : Whole (messages.map piece) chunks whole) :
    ∃ arrived, whole = arrived.map piece ∧ Arrived write messages chunks arrived := by
  obtain ⟨rest, tail, split, stream, torn⟩ := come
  obtain ⟨arrived, others, rfl, rfl, rfl⟩ := List.map_eq_append_iff.mp split
  refine ⟨arrived, rfl, others, _, rfl, writes arrived (fun message member => each message (List.mem_append_left _ member)),
    ⟨tail, stream.symm⟩, ?_⟩
  rintro next more longer rfl written
  have nextGood := each next (List.mem_append_right _ List.mem_cons_self)
  have known := writes (arrived ++ [next]) (by
    intro message member
    rcases List.mem_append.mp member with old | last
    · exact each message (List.mem_append_left _ old)
    · rw [List.mem_singleton.mp last]
      exact nextGood)
  rw [written] at known
  cases known
  have part : tail.length < (piece next).1.length := by
    rcases torn with rfl | ⟨text, later, parts, -, less⟩
    · exact List.length_pos_of_ne_nil (solid next nextGood)
    · rw [List.map_cons, List.map_cons] at parts
      rw [(List.cons.inj parts).1]
      exact less
  rw [stream, List.map_append, List.map_append, List.flatten_append, List.length_append, List.length_append]
  simpa using part

theorem arrived_of_wholes
    (writes : ∀ messages, (∀ message ∈ messages, good message) → write messages = some ((messages.map piece).map Prod.fst).flatten)
    (solid : ∀ message, good message → (piece message).1 ≠ []) {parts : List (List Message × List (List UInt8))}
    (each : ∀ part ∈ parts, ∀ message ∈ part.1, good message) {wholes : List (List (List UInt8 × Pack))}
    (come : List.Forall₂ (fun part whole => Whole (part.1.map piece) part.2 whole) parts wholes) :
    ∃ arrived, wholes.flatten = arrived.flatten.map piece ∧
      List.Forall₂ (fun part messages => Arrived write part.1 part.2 messages) parts arrived := by
  induction come with
  | nil => exact ⟨[], rfl, .nil⟩
  | cons first _ ih =>
    obtain ⟨messages, rfl, own⟩ := arrived_of_whole writes solid (each _ List.mem_cons_self) first
    obtain ⟨arrived, same, rest⟩ := ih (fun part member => each part (List.mem_cons_of_mem _ member))
    refine ⟨messages :: arrived, ?_, .cons own rest⟩
    rw [List.flatten_cons, List.flatten_cons, List.map_append, same]

end Arrivals

section Reused

variable {Message : Type*}

/-- A connection that goes in the middle of a packet, another one that sends meanwhile,
and a later one with the id of the first. -/
def reused (bytes : List UInt8) : List (UInt64 × Option (List UInt8)) :=
  [(7, some (bytes.take 6)), (8, some bytes), (7, none), (7, some bytes)]

def reusedSent (messages : List Message) (bytes : List UInt8) (cid : UInt64) : List (List Message × List (List UInt8)) :=
  if cid = 7 then [(messages, [bytes.take 6]), (messages, [bytes])] else if cid = 8 then [(messages, [bytes])] else []

theorem reused_arrives (messages : List Message) (bytes : List UInt8) (cid : UInt64) :
    inputsOf cid (reused bytes) = sessions ((reusedSent messages bytes cid).map Prod.snd) := by
  by_cases first : cid = 7
  · subst first
    simp [reused, reusedSent, inputsOf, sessions]
  · by_cases second : cid = 8
    · subst second
      simp [reused, reusedSent, inputsOf, sessions]
    · simp [reused, reusedSent, inputsOf, sessions, first, second, Ne.symm first, Ne.symm second]

theorem mem_reusedSent {messages : List Message} {bytes : List UInt8} {cid : UInt64}
    {session : List Message × List (List UInt8)} (member : session ∈ reusedSent messages bytes cid) :
    session.1 = messages ∧ session.2.flatten <+: bytes := by
  have cases : session = (messages, [bytes.take 6]) ∨ session = (messages, [bytes]) := by
    unfold reusedSent at member
    split at member
    · simpa using member
    · split at member
      · exact .inr (List.mem_singleton.mp member)
      · cases member
  rcases cases with rfl | rfl
  · simpa using List.take_prefix 6 bytes
  · simp

end Reused

section Text
open PacketAssembler PacketScan PacketStream

variable {sameDay : Int → Bool}

/-- The receiver of the text handler, which takes waste off and looks at no stamp. -/
def receiveText (sameDay : Int → Bool) (fuel : Nat) (vecRevBuffer : List UInt8) : Option (List UInt8 × List NetPackage) :=
  (PacketAssembler.recvPackage sameDay fuel vecRevBuffer [] true false).map fun received =>
    (received.2.vctBuffer, received.2.recvedDatas)

theorem receiveText_single (buffer : List UInt8) (one two : List NetPackage × List UInt8)
    (first : cuts (receiveText sameDay) buffer one) (second : cuts (receiveText sameDay) buffer two) : one = two := by
  obtain ⟨fuel, ran⟩ := first
  obtain ⟨more, again⟩ := second
  obtain ⟨⟨code, received⟩, returned, result⟩ := Option.map_eq_some_iff.mp ran
  obtain ⟨⟨status, kept⟩, also, left⟩ := Option.map_eq_some_iff.mp again
  unfold PacketAssembler.recvPackage at returned also
  cases Loop.answer_unique returned also
  obtain ⟨packs, rest⟩ := one
  obtain ⟨others, stays⟩ := two
  cases result
  cases left
  rfl

theorem receiveText_takes {messages : List Message} (accepted : ∀ message ∈ messages, Accepted message) :
    TakesWhole (cuts (receiveText sameDay)) (messages.map piece) := by
  intro first second rest split tail torn
  obtain ⟨firsts, others, rfl, rfl, back⟩ := List.map_eq_append_iff.mp split
  obtain ⟨seconds, rests, rfl, rfl, rfl⟩ := List.map_eq_append_iff.mp back
  have laid : ∀ message ∈ seconds ++ rests, Laid message ∧ validateTimeStamp sameDay message.iTimeStamp false = true := by
    intro message member
    exact ⟨(accepted message (List.mem_append_right firsts member)).laid, rfl⟩
  have received : Receives sameDay true false ⟨[], []⟩ (((seconds.map piece).map Prod.fst).flatten ++ tail)
      ⟨tail, [] ++ (seconds.map piece).map Prod.snd⟩ := receives_messages laid rfl torn
  obtain ⟨fuel, code, ran⟩ := received
  refine ⟨fuel, ?_⟩
  rw [List.nil_append, List.nil_append] at ran
  rw [receiveText, ran]
  rfl

theorem piece_solid {message : Message} (accepted : Accepted message) : (piece message).1 ≠ [] := by
  intro empty
  have long := length_headText accepted.laid
  rw [piece, List.append_eq_nil_iff] at empty
  rw [empty.1] at long
  cases long

theorem piece_short {message : Message} (accepted : Accepted message) : (piece message).1.length ≤ 10047 := by
  rw [piece, List.length_append, length_headText accepted.laid]
  have bound := accepted.data.2
  simp only [netPackageHeadLen]
  omega

end Text

open PacketStream in
/-- However the connections' chunks come between each other and ids are used again, every
call returns, and for each id the packets handed on are the messages of which all came in,
connection after connection and in the order they were sent. -/
theorem text_connections_delivered (sameDay : Int → Bool) (clock : Int)
    (sent : UInt64 → List (List Message × List (List UInt8)))
    (accepted : ∀ cid, ∀ session ∈ sent cid, ∀ message ∈ session.1, Accepted message)
    (front : ∀ cid, ∀ session ∈ sent cid, ∃ stream, sendAll clock session.1 = some stream ∧ session.2.flatten <+: stream)
    (events : List (UInt64 × Option (List UInt8)))
    (arrives : ∀ cid, inputsOf cid events = sessions ((sent cid).map Prod.snd)) :
    (∃ last, Run (Serves fun fuel => HandlerSocketMsg.appendBuffer sameDay fuel []) {} events last) ∧
      ∀ last, Run (Serves fun fuel => HandlerSocketMsg.appendBuffer sameDay fuel []) {} events last → ∀ cid, ∃ wholes,
        List.Forall₂ (fun session whole => Arrived (sendAll clock) session.1 session.2 whole) (sent cid) wholes ∧
          (last.handed cid).map (fun pack => ⟨pack.head.iType, pack.head.iTimeStamp, pack.data⟩) = wholes.flatten := by
  let parts (cid : UInt64) := (sent cid).map fun session => (session.1.map piece, session.2)
  have delivered := @keyed_delivered _ _ (cuts (receiveText sameDay)) (100 * 1024) _ _ parts ?_ ?_
    receiveText_single ?_ events ?_
  · obtain ⟨⟨ends, run⟩, each⟩ := delivered
    refine ⟨⟨⟨fun cid => (ends cid).kept, fun cid => (ends cid).handed⟩, run_serves_iff.mpr run⟩, ?_⟩
    intro last runs cid
    obtain ⟨wholes, come, handed⟩ := each (mailboxes last) (run_serves_iff.mp runs) cid
    rw [List.forall₂_map_left_iff] at come
    obtain ⟨arrived, same, whole⟩ := @arrived_of_wholes _ _ _ _ Accepted (fun _ => sendAll_accepts clock)
      (fun _ => piece_solid) _ (accepted cid) _ come
    refine ⟨arrived, whole, ?_⟩
    have packs : last.handed cid = (arrived.flatten.map piece).map Prod.snd := by rw [← same]; exact handed
    rw [packs, List.map_map, List.map_map]
    exact List.map_id _
  · intro cid part member
    obtain ⟨session, inside, rfl⟩ := List.mem_map.mp member
    exact receiveText_takes (accepted cid session inside)
  · intro cid part member one found
    obtain ⟨session, inside, rfl⟩ := List.mem_map.mp member
    obtain ⟨message, own, rfl⟩ := List.mem_map.mp found
    exact Nat.le_trans (piece_short (accepted cid session inside message own)) (by decide)
  · intro cid part member
    obtain ⟨session, inside, rfl⟩ := List.mem_map.mp member
    obtain ⟨stream, written, begins⟩ := front cid session inside
    rw [sendAll_accepts clock (accepted cid session inside)] at written
    cases written
    exact begins
  · intro cid
    rw [arrives cid, List.map_map]
    rfl

open PacketStream in
theorem text_connections_delivered_reused : ∃ last, Run (Serves fun fuel => HandlerSocketMsg.appendBuffer (fun _ => false) fuel [])
    {} (reused (piece quoted).1) last ∧ ∃ wholes,
      List.Forall₂ (fun session whole => Arrived (sendAll 0) session.1 session.2 whole)
        (reusedSent [quoted] (piece quoted).1 7) wholes ∧
        (last.handed 7).map (fun pack => ⟨pack.head.iType, pack.head.iTimeStamp, pack.data⟩) = wholes.flatten := by
  have accepted : ∀ message ∈ [quoted], Accepted message := by
    intro message member
    rw [List.mem_singleton.mp member]
    exact ⟨by decide, by decide, by decide⟩
  have delivered := text_connections_delivered (fun _ => false) 0 (reusedSent [quoted] (piece quoted).1)
    (fun cid session member message own => accepted message ((mem_reusedSent member).1 ▸ own))
    (fun cid session member => ⟨(piece quoted).1, by
      rw [(mem_reusedSent member).1, sendAll_accepts 0 accepted, List.map_singleton, List.map_singleton,
        List.flatten_singleton], (mem_reusedSent member).2⟩)
    (reused (piece quoted).1) (reused_arrives [quoted] (piece quoted).1)
  obtain ⟨⟨last, run⟩, each⟩ := delivered
  exact ⟨last, run, each last run 7⟩

section Binary
open BinaryPacketAssembler BinaryStream

/-- The receiver of the binary handler. -/
def receiveBinary (fuel : Nat) (vecRevBuffer : List UInt8) : Option (List UInt8 × List BinaryNetPack) :=
  (BinaryPacketAssembler.recvPackage fuel vecRevBuffer [] true).map fun received =>
    (received.2.vctBuffer, received.2.recvedDatas)

theorem receiveBinary_single (buffer : List UInt8) (one two : List BinaryNetPack × List UInt8)
    (first : cuts receiveBinary buffer one) (second : cuts receiveBinary buffer two) : one = two := by
  obtain ⟨fuel, ran⟩ := first
  obtain ⟨more, again⟩ := second
  obtain ⟨⟨code, received⟩, returned, result⟩ := Option.map_eq_some_iff.mp ran
  obtain ⟨⟨status, kept⟩, also, left⟩ := Option.map_eq_some_iff.mp again
  unfold BinaryPacketAssembler.recvPackage at returned also
  cases Loop.answer_unique returned also
  obtain ⟨packs, rest⟩ := one
  obtain ⟨others, stays⟩ := two
  cases result
  cases left
  rfl

theorem receiveBinary_takes (messages : List LocalPack) : TakesWhole (cuts receiveBinary) (messages.map piece) := by
  intro first second rest split tail torn
  obtain ⟨firsts, others, rfl, rfl, back⟩ := List.map_eq_append_iff.mp split
  obtain ⟨seconds, rests, rfl, rfl, rfl⟩ := List.map_eq_append_iff.mp back
  have received : Receives true ⟨[], []⟩ (((seconds.map piece).map Prod.fst).flatten ++ tail)
      ⟨tail, [] ++ (seconds.map piece).map Prod.snd⟩ := receives_messages rfl torn
  obtain ⟨fuel, code, ran⟩ := received
  refine ⟨fuel, ?_⟩
  rw [List.nil_append, List.nil_append] at ran
  rw [receiveBinary, ran]
  rfl

/-- The encoders' buffers, one behind the other. -/
def encodeAll (messages : List LocalPack) : Option (List UInt8) :=
  (messages.mapM fun message : LocalPack => (message.toNetBuffer []).map Prod.snd).map List.flatten

theorem encodeAll_pieces (messages : List LocalPack) :
    encodeAll messages = some ((messages.map piece).map Prod.fst).flatten := by
  have each : (messages.mapM fun message : LocalPack => (message.toNetBuffer []).map Prod.snd) =
      some ((messages.map piece).map Prod.fst) := by
    induction messages with
    | nil => rfl
    | cons message messages ih =>
      rw [List.mapM_cons, ih, toNetBuffer_frame]
      rfl
  rw [encodeAll, each]
  rfl

end Binary

open BinaryStream in
/-- The same for the binary handler, whose shorter buffers the encoders' messages do not
fill either. -/
theorem binary_connections_delivered (sent : UInt64 → List (List LocalPack × List (List UInt8)))
    (front : ∀ cid, ∀ session ∈ sent cid, ∃ stream, encodeAll session.1 = some stream ∧ session.2.flatten <+: stream)
    (events : List (UInt64 × Option (List UInt8)))
    (arrives : ∀ cid, inputsOf cid events = sessions ((sent cid).map Prod.snd)) :
    (∃ last, Run (Serves fun fuel => HandlerSocketMsgBinary.appendBuffer fuel []) {} events last) ∧
      ∀ last, Run (Serves fun fuel => HandlerSocketMsgBinary.appendBuffer fuel []) {} events last → ∀ cid, ∃ wholes,
        List.Forall₂ (fun session whole => Arrived encodeAll session.1 session.2 whole) (sent cid) wholes ∧
          (last.handed cid).map (fun pack => (pack.ui32MsgType, packBody pack)) =
            wholes.flatten.map (fun message => (message.msgType, message.body)) := by
  let parts (cid : UInt64) := (sent cid).map fun session => (session.1.map piece, session.2)
  have delivered := @keyed_delivered _ _ (cuts receiveBinary) (10 * 1024) _ _ parts ?_ ?_
    receiveBinary_single ?_ events ?_
  · obtain ⟨⟨ends, run⟩, each⟩ := delivered
    refine ⟨⟨⟨fun cid => (ends cid).kept, fun cid => (ends cid).handed⟩, run_serves_iff.mpr run⟩, ?_⟩
    intro last runs cid
    obtain ⟨wholes, come, handed⟩ := each (mailboxes last) (run_serves_iff.mp runs) cid
    rw [List.forall₂_map_left_iff] at come
    obtain ⟨arrived, same, whole⟩ := @arrived_of_wholes _ _ _ piece (fun _ => True) (fun messages _ => encodeAll_pieces messages)
      (fun message _ => by
        have long := frame_length message.msgType message.body
        intro empty
        rw [show frame message.msgType message.body = [] from empty, List.length_nil] at long
        omega) _ (fun _ _ _ _ => trivial) _ come
    refine ⟨arrived, whole, ?_⟩
    have packs : last.handed cid = (arrived.flatten.map piece).map Prod.snd := by rw [← same]; exact handed
    rw [packs, List.map_map, List.map_map]
    apply List.map_congr_left
    intro message _
    exact Prod.ext rfl (packBody_packOf message)
  · intro cid part member
    obtain ⟨session, inside, rfl⟩ := List.mem_map.mp member
    exact receiveBinary_takes session.1
  · intro cid part member one found
    obtain ⟨session, inside, rfl⟩ := List.mem_map.mp member
    obtain ⟨message, own, rfl⟩ := List.mem_map.mp found
    have short := body_short message
    rw [piece, frame_length]
    omega
  · intro cid part member
    obtain ⟨session, inside, rfl⟩ := List.mem_map.mp member
    obtain ⟨stream, written, begins⟩ := front cid session inside
    rw [encodeAll_pieces] at written
    cases written
    exact begins
  · intro cid
    rw [arrives cid, List.map_map]
    rfl

open BinaryStream in
theorem binary_connections_delivered_reused :
    ∃ last, Run (Serves fun fuel => HandlerSocketMsgBinary.appendBuffer fuel []) {} (reused (piece .heartbeat).1) last ∧
      ∃ wholes, List.Forall₂ (fun session whole => Arrived encodeAll session.1 session.2 whole)
        (reusedSent [LocalPack.heartbeat] (piece .heartbeat).1 7) wholes ∧
        (last.handed 7).map (fun pack => (pack.ui32MsgType, packBody pack)) =
          wholes.flatten.map (fun message => (message.msgType, message.body)) := by
  have delivered := binary_connections_delivered (reusedSent [LocalPack.heartbeat] (piece .heartbeat).1)
    (fun cid session member => ⟨(piece .heartbeat).1, by
      rw [(mem_reusedSent member).1, encodeAll_pieces, List.map_singleton, List.map_singleton, List.flatten_singleton],
      (mem_reusedSent member).2⟩)
    (reused (piece .heartbeat).1) (reused_arrives [LocalPack.heartbeat] (piece .heartbeat).1)
  obtain ⟨⟨last, run⟩, each⟩ := delivered
  exact ⟨last, run, each last run 7⟩

end Simutgw.Proofs.ConnectionBuffers
