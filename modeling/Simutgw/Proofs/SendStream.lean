import Simutgw.EpollSocketConnection
import Simutgw.Proofs.ConnectionBuffers

/-! What becomes of the data queued for a connection. Whatever the kernel answers, the
socket gets a front of each buffer that has left the queue, in the order they were added,
and nothing else. It gets all of them only where every buffer is taken whole, for what is
left of one is not sent again. -/

namespace Simutgw.Proofs.SendStream
open Logic EpollSocketConnection LinuxNetUtil

inductive Event
  | adds (in_pSendData : List UInt8) (epoll_ctl : Int)
  | sends (answers : List SendAnswer) (epoll_ctl : Int)

/-- The connection, what was added to its queue so far, and whether a watch was refused. -/
structure Outbound where
  conn : EpollSocketConnection := {}
  added : List (List UInt8) := []
  refused : Bool := false

/-- Calls from the senders and out events from the kernel, with any answers. -/
def Transfers : Steps Outbound Event
  | before, .adds in_pSendData epoll_ctl, after =>
    after = ⟨(before.conn.addSend in_pSendData epoll_ctl).2, before.added ++ [in_pSendData],
      before.refused || epoll_ctl != 0⟩
  | before, .sends answers epoll_ctl, after => ∃ code bytes conn,
    before.conn.loopSend answers epoll_ctl = some (code, bytes, conn) ∧
      after = ⟨conn, before.added, before.refused || epoll_ctl != 0⟩

section Loop

variable {epoll_ctl : Int} {conn left : EpollSocketConnection} {total bytes : Nat} {code : Int}

/-- The connection with what the kernel took of a buffer. -/
def afterSend (conn : EpollSocketConnection) (data : List UInt8) (answer : SendAnswer) : EpollSocketConnection :=
  { conn with stream := conn.stream ++ data.take (sendData answer).2 }

theorem loopSendFrom_cons {data : List UInt8} {rest : List (List UInt8)} {answer : SendAnswer} {answers : List SendAnswer}
    (ran : loopSendFrom epoll_ctl conn total (data :: rest) (answer :: answers) = some (code, bytes, left)) :
    ((sendData answer).1 = 0 ∧ loopSendFrom epoll_ctl (afterSend conn data answer) (total + (sendData answer).2) rest answers =
        some (code, bytes, left)) ∨
      ((sendData answer).1 ≠ 0 ∧ left = { afterSend conn data answer with m_dataNeedSend := rest }) := by
  simp only [loopSendFrom] at ran
  split at ran
  next goes => exact .inl ⟨goes, ran⟩
  next leaves =>
    refine .inr ⟨leaves, ?_⟩
    split at ran
    · cases ran
      rfl
    · cases ran
      rfl

theorem loopSendFrom_nil {answers : List SendAnswer}
    (ran : loopSendFrom epoll_ctl conn total [] answers = some (code, bytes, left)) :
    left.m_dataNeedSend = [] ∧ left.stream = conn.stream ∧
      ((left.m_bIsEpoutSet = conn.m_bIsEpoutSet ∧ left.watchesOut = conn.watchesOut) ∨
        (left.m_bIsEpoutSet = false ∧ left.watchesOut = false)) := by
  unfold loopSendFrom at ran
  split at ran
  · cases ran
    exact ⟨rfl, rfl, .inl ⟨rfl, rfl⟩⟩
  · cases ran
    exact ⟨rfl, rfl, .inr ⟨rfl, rfl⟩⟩

/-- What the loop leaves: the buffers it came to are gone from the queue's front, and the
watch goes only with the last of them. -/
theorem loopSendFrom_leaves {queue : List (List UInt8)} {answers : List SendAnswer}
    (ran : loopSendFrom epoll_ctl conn total queue answers = some (code, bytes, left)) :
    (∃ popped parts, queue = popped ++ left.m_dataNeedSend ∧ List.Forall₂ (fun part data => part <+: data) parts popped ∧
        left.stream = conn.stream ++ parts.flatten) ∧
      ((left.m_bIsEpoutSet = conn.m_bIsEpoutSet ∧ left.watchesOut = conn.watchesOut) ∨
        (left.m_dataNeedSend = [] ∧ left.m_bIsEpoutSet = false ∧ left.watchesOut = false)) := by
  induction queue generalizing conn total answers with
  | nil =>
    obtain ⟨none, same, watch⟩ := loopSendFrom_nil ran
    refine ⟨⟨[], [], none.symm, .nil, by rw [same]; exact (List.append_nil _).symm⟩, ?_⟩
    exact watch.imp id (fun gone => ⟨none, gone⟩)
  | cons data rest ih =>
    cases answers with
    | nil => cases ran
    | cons answer answers =>
      have front := List.take_prefix (sendData answer).2 data
      rcases loopSendFrom_cons ran with ⟨-, goes⟩ | ⟨-, rfl⟩
      · obtain ⟨⟨popped, parts, rfl, prefixes, stream⟩, watch⟩ := ih goes
        refine ⟨⟨data :: popped, data.take (sendData answer).2 :: parts, rfl, .cons front prefixes, ?_⟩, watch⟩
        rw [stream, List.flatten_cons, ← List.append_assoc]
        rfl
      · refine ⟨⟨[data], [data.take (sendData answer).2], rfl, .cons front .nil, ?_⟩, .inl ⟨rfl, rfl⟩⟩
        rw [List.flatten_singleton]
        rfl

/-- Every buffer the loop comes to is taken whole. -/
def TakesAll : List (List UInt8) → List SendAnswer → Prop
  | data :: rest, answer :: answers =>
    data.length ≤ (sendData answer).2 ∧ ((sendData answer).1 = 0 → TakesAll rest answers)
  | _, _ => True

/-- The stream and the queue behind it lose a byte unless all is taken. -/
theorem loopSendFrom_whole {queue : List (List UInt8)} {answers : List SendAnswer}
    (ran : loopSendFrom epoll_ctl conn total queue answers = some (code, bytes, left)) :
    (TakesAll queue answers → left.stream ++ left.m_dataNeedSend.flatten = conn.stream ++ queue.flatten) ∧
      (¬ TakesAll queue answers →
        (left.stream ++ left.m_dataNeedSend.flatten).length < (conn.stream ++ queue.flatten).length) := by
  induction queue generalizing conn total answers with
  | nil =>
    obtain ⟨none, same, -⟩ := loopSendFrom_nil ran
    rw [none, same]
    exact ⟨fun _ => rfl, fun not => absurd trivial not⟩
  | cons data rest ih =>
    cases answers with
    | nil => cases ran
    | cons answer answers =>
      have taken : (data.take (sendData answer).2).length ≤ data.length := List.length_take_le' ..
      rcases loopSendFrom_cons ran with ⟨goes, ran⟩ | ⟨stops, rfl⟩
      · obtain ⟨whole, short⟩ := ih ran
        constructor
        · intro all
          obtain ⟨own, later⟩ := all
          rw [whole (later goes), afterSend, List.take_of_length_le own, List.flatten_cons, List.append_assoc]
        · intro lost
          by_cases later : TakesAll rest answers
          · have own : ¬ data.length ≤ (sendData answer).2 := fun own => lost ⟨own, fun _ => later⟩
            rw [whole later]
            simp only [afterSend, List.length_append, List.flatten_cons, List.length_take]
            omega
          · have less := short later
            simp only [afterSend, List.length_append, List.flatten_cons] at less ⊢
            omega
      · constructor
        · intro all
          simp only [afterSend, List.take_of_length_le all.1, List.flatten_cons, List.append_assoc]
        · intro lost
          have own : ¬ data.length ≤ (sendData answer).2 := fun own => lost ⟨own, fun goes => absurd goes stops⟩
          simp only [afterSend, List.length_append, List.flatten_cons, List.length_take]
          omega

end Loop

section Outbound

/-- The buffers that have left the queue, each with what the socket got of it, and the
watch that stands as long as there is something to send. -/
structure Law (state : Outbound) : Prop where
  stream : ∃ popped parts, state.added = popped ++ state.conn.m_dataNeedSend ∧
    List.Forall₂ (fun part data => part <+: data) parts popped ∧ state.conn.stream = parts.flatten
  flag : state.conn.m_bIsEpoutSet = state.conn.watchesOut
  watched : state.refused = false → state.conn.m_dataNeedSend ≠ [] → state.conn.watchesOut = true

theorem addSend_adds (conn : EpollSocketConnection) (data : List UInt8) (epoll_ctl : Int) :
    (conn.addSend data epoll_ctl).2.m_dataNeedSend = conn.m_dataNeedSend ++ [data] ∧
      (conn.addSend data epoll_ctl).2.stream = conn.stream ∧
      (((conn.addSend data epoll_ctl).2.m_bIsEpoutSet = conn.m_bIsEpoutSet ∧
          (conn.addSend data epoll_ctl).2.watchesOut = conn.watchesOut ∧ (conn.m_bIsEpoutSet = true ∨ epoll_ctl ≠ 0)) ∨
        ((conn.addSend data epoll_ctl).2.m_bIsEpoutSet = true ∧ (conn.addSend data epoll_ctl).2.watchesOut = true)) := by
  cases set : conn.m_bIsEpoutSet with
  | true =>
    simp only [addSend, set, Bool.not_true, Bool.false_eq_true, if_false]
    exact ⟨trivial, trivial, .inl ⟨trivial, trivial, .inl trivial⟩⟩
  | false =>
    by_cases refuses : epoll_ctl ≠ 0
    · simp only [addSend, set, Bool.not_false, if_true, refuses, ne_eq, not_false_eq_true]
      exact ⟨trivial, trivial, .inl ⟨trivial, trivial, .inr trivial⟩⟩
    · simp only [addSend, set, Bool.not_false, if_true, refuses, if_false]
      exact ⟨trivial, trivial, .inr ⟨trivial, trivial⟩⟩

theorem law_step {before after : Outbound} {event : Event} (law : Law before) (transfers : Transfers before event after) :
    Law after := by
  obtain ⟨popped, parts, order, prefixes, stream⟩ := law.stream
  cases event with
  | adds data epoll_ctl =>
    obtain ⟨queue, same, watch⟩ := addSend_adds before.conn data epoll_ctl
    rw [show after = _ from transfers]
    refine ⟨⟨popped, parts, ?_, prefixes, same.trans stream⟩, ?_, ?_⟩
    · rw [queue, order, List.append_assoc]
    · rcases watch with ⟨flag, watches, -⟩ | ⟨flag, watches⟩
      · rw [flag, watches]
        exact law.flag
      · rw [flag, watches]
    · intro never _
      rcases watch with ⟨-, watches, set | refuses⟩ | ⟨-, watches⟩
      · rw [watches, ← law.flag]
        exact set
      · simp only [Bool.or_eq_false_iff, bne_eq_false_iff_eq] at never
        exact absurd never.2 refuses
      · exact watches
  | sends answers epoll_ctl =>
    obtain ⟨code, bytes, conn, ran, rfl⟩ := transfers
    obtain ⟨⟨gone, fronts, queue, heads, sent⟩, watch⟩ := loopSendFrom_leaves ran
    refine ⟨⟨popped ++ gone, parts ++ fronts, ?_, List.rel_append prefixes heads, ?_⟩, ?_, ?_⟩
    · rw [order, queue, List.append_assoc]
    · rw [sent, stream, List.flatten_append]
    · rcases watch with ⟨flag, watches⟩ | ⟨-, flag, watches⟩
      · rw [flag, watches]
        exact law.flag
      · rw [flag, watches]
    · intro never some
      rcases watch with ⟨-, watches⟩ | ⟨none, -⟩
      · simp only [Bool.or_eq_false_iff] at never
        rw [watches]
        apply law.watched never.1
        rw [queue]
        intro empty
        exact some (List.append_eq_nil_iff.mp empty).2
      · exact absurd none some

/-- In every run the buffers leave the queue in the order they were added, the socket gets
a front of each in that order and nothing else, and as long as no watch was refused the
socket is watched while the queue has something. -/
theorem stream_of_fronts (events : List Event) (last : Outbound) (run : Run Transfers {} events last) :
    (∃ popped parts, last.added = popped ++ last.conn.m_dataNeedSend ∧
        List.Forall₂ (fun part data => part <+: data) parts popped ∧ last.conn.stream = parts.flatten) ∧
      last.conn.m_bIsEpoutSet = last.conn.watchesOut ∧
      (last.refused = false → last.conn.m_dataNeedSend ≠ [] → last.conn.watchesOut = true) := by
  have initial : Law {} := ⟨⟨[], [], rfl, .nil, rfl⟩, rfl, fun _ some => absurd rfl some⟩
  have law : Law last := run.invariant (fun _ _ _ => law_step) initial
  exact ⟨law.stream, law.flag, law.watched⟩

/-- A buffer is taken whole and the next one in part, and another is added behind them:
the byte that was left over of the second is gone. -/
theorem stream_of_fronts_short : ∃ popped parts : List (List UInt8),
    [[1, 2, 3], [4, 5], [6]] = popped ++ [[6]] ∧ List.Forall₂ (fun part data => part <+: data) parts popped ∧
      [1, 2, 3, 4] = parts.flatten := by
  have run : Run Transfers {} [.adds [1, 2, 3] 0, .adds [4, 5] 0, .sends [.took 3, .took 1] 0, .adds [6] 0]
      ⟨{ stream := [1, 2, 3, 4], m_dataNeedSend := [[6]], m_bIsEpoutSet := true, watchesOut := true },
        [[1, 2, 3], [4, 5], [6]], false⟩ :=
    .cons rfl (.cons rfl (.cons ⟨0, 4, _, rfl, rfl⟩ (.cons rfl (.nil _))))
  exact (stream_of_fronts _ _ run).1

/-- Nothing is missing between what the socket got and what is queued. -/
def Complete (state : Outbound) : Prop :=
  state.conn.stream ++ state.conn.m_dataNeedSend.flatten = state.added.flatten

/-- The kernel takes every buffer whole that the loop comes to. -/
def Taken (state : Outbound) : Event → Prop
  | .adds _ _ => True
  | .sends answers _ => TakesAll state.conn.m_dataNeedSend answers

theorem complete_iff {before after : Outbound} {event : Event} (complete : Complete before)
    (transfers : Transfers before event after) : Complete after ↔ Taken before event := by
  unfold Complete at complete ⊢
  cases event with
  | adds data epoll_ctl =>
    obtain ⟨queue, same, -⟩ := addSend_adds before.conn data epoll_ctl
    rw [show after = _ from transfers]
    simp only [Taken, iff_true]
    rw [queue, same, List.flatten_append, ← List.append_assoc, complete, List.flatten_append]
  | sends answers epoll_ctl =>
    obtain ⟨code, bytes, conn, ran, rfl⟩ := transfers
    obtain ⟨whole, short⟩ := loopSendFrom_whole ran
    simp only [Taken]
    constructor
    · intro equal
      by_contra lost
      have less := short lost
      rw [equal, complete] at less
      exact Nat.lt_irrefl _ less
    · intro all
      rw [whole all]
      exact complete

/-- The runs in which nothing queued is ever lost are those in which the kernel takes
every buffer whole. -/
theorem complete_iff_taken (events : List Event) (last : Outbound) :
    Run (fun before event after => Transfers before event after ∧ Complete after) {} events last ↔
      Run (Steps.guarded Transfers Taken) {} events last :=
  Run.kept_iff_guarded (fun _ _ _ complete transfers => complete_iff complete transfers) rfl

end Outbound

section Server
open PacketStream ConnectionBuffers

/-- A message for the client at a reading of the clock, or an out event. -/
inductive ServerEvent
  | send (clock iMsgType : Int) (in_data : List UInt8) (epoll_ctl : Int)
  | sends (answers : List SendAnswer) (epoll_ctl : Int)

/-- The connection of a client, and the messages sent to it so far. -/
structure Client where
  conn : EpollSocketConnection := {}
  messages : List Message := []

def Serving : Steps Client ServerEvent
  | before, .send clock iMsgType in_data epoll_ctl, after =>
    after = ⟨SimutgwTcpServer.send before.conn clock iMsgType in_data epoll_ctl,
      before.messages ++ [⟨iMsgType, clock, in_data⟩]⟩
  | before, .sends answers epoll_ctl, after => ∃ code bytes conn,
    before.conn.loopSend answers epoll_ctl = some (code, bytes, conn) ∧ after = ⟨conn, before.messages⟩

/-- The messages are those the format is made for, and the kernel takes each buffer whole. -/
def Smooth (state : Client) : ServerEvent → Prop
  | .send clock iMsgType in_data _ => Accepted ⟨iMsgType, clock, in_data⟩
  | .sends answers _ => TakesAll state.conn.m_dataNeedSend answers

/-- The socket's stream and what is queued are the messages' packets. -/
structure Laid (state : Client) : Prop where
  accepted : ∀ message ∈ state.messages, Accepted message
  packets : state.conn.stream ++ state.conn.m_dataNeedSend.flatten = ((state.messages.map piece).map Prod.fst).flatten

theorem send_queues (conn : EpollSocketConnection) {message : Message} (accepted : Accepted message) (epoll_ctl : Int) :
    SimutgwTcpServer.send conn message.iTimeStamp message.iType message.data epoll_ctl =
      (conn.addSend (piece message).1 epoll_ctl).2 := by
  have packet := localPackageToNetBuffer_laid accepted.laid message.iTimeStamp (rfl : (none : Option Int).getD message.iTimeStamp = message.iTimeStamp) []
  rw [← headText_eq accepted.laid, List.nil_append] at packet
  simp only [SimutgwTcpServer.send]
  rw [packet]
  rfl

theorem laid_step {before after : Client} {event : ServerEvent} (laid : Laid before)
    (serving : (Steps.guarded Serving Smooth) before event after) : Laid after := by
  obtain ⟨serving, smooth⟩ := serving
  cases event with
  | send clock iMsgType in_data epoll_ctl =>
    let message : Message := ⟨iMsgType, clock, in_data⟩
    have accepted : Accepted message := smooth
    have queued := send_queues before.conn accepted epoll_ctl
    obtain ⟨queue, same, -⟩ := addSend_adds before.conn (piece message).1 epoll_ctl
    rw [show after = _ from serving]
    refine ⟨?_, ?_⟩
    · intro other member
      rcases List.mem_append.mp member with old | last
      · exact laid.accepted other old
      · rw [List.mem_singleton.mp last]
        exact accepted
    · simp only
      rw [queued, queue, same, List.flatten_append, ← List.append_assoc, laid.packets]
      simp only [List.map_append, List.map_cons, List.map_nil, List.flatten_append]
      rfl
  | sends answers epoll_ctl =>
    obtain ⟨code, bytes, conn, ran, rfl⟩ := serving
    refine ⟨laid.accepted, ?_⟩
    rw [(loopSendFrom_whole ran).1 smooth]
    exact laid.packets

theorem inputsOf_one (cid other : UInt64) (chunks : List (List UInt8)) :
    inputsOf other (chunks.map fun chunk => (cid, some chunk)) = if other = cid then chunks.map some else [] := by
  by_cases same : other = cid
  · subst same
    rw [if_pos rfl, inputsOf, List.filter_eq_self.mpr (by simp), List.map_map]
    rfl
  · rw [if_neg same, inputsOf, List.filter_eq_nil_iff.mpr (by simp [Ne.symm same]), List.map_nil]

/-- From the server's calls to the client's handler: as long as the kernel takes every
buffer whole, the client is handed the messages in the order they were sent, up to the
last one of which all has come in, however the stream is cut on its way. -/
theorem sent_messages_arrive (sameDay : Int → Bool) (events : List ServerEvent) (server : Client)
    (run : Run (Steps.guarded Serving Smooth) {} events server) (cid : UInt64) (chunks : List (List UInt8))
    (front : chunks.flatten <+: server.conn.stream) :
    (∃ client, Run (Serves fun fuel => HandlerSocketMsg.appendBuffer sameDay fuel []) {}
        (chunks.map fun chunk => (cid, some chunk)) client) ∧
      ∀ client, Run (Serves fun fuel => HandlerSocketMsg.appendBuffer sameDay fuel []) {}
          (chunks.map fun chunk => (cid, some chunk)) client →
        Arrived (sendAll 0) server.messages chunks
          ((client.handed cid).map fun pack => ⟨pack.head.iType, pack.head.iTimeStamp, pack.data⟩) := by
  have initial : Laid {} := ⟨fun _ member => absurd member List.not_mem_nil, rfl⟩
  have laid : Laid server := run.invariant (fun _ _ _ => laid_step) initial
  have stream : chunks.flatten <+: ((server.messages.map piece).map Prod.fst).flatten := by
    rw [← laid.packets]
    exact front.trans (List.prefix_append _ _)
  have takes := @receiveText_takes sameDay _ laid.accepted
  have short : ∀ one ∈ server.messages.map piece, one.1.length ≤ 100 * 1024 + 1 := by
    intro one found
    obtain ⟨message, own, rfl⟩ := List.mem_map.mp found
    exact Nat.le_trans (piece_short (laid.accepted message own)) (by decide)
  obtain ⟨whole, ends, come, alone, handed⟩ := limited_session takes short stream []
    (rfl : (none : Option (List UInt8)).getD [] = [])
  have mailbox key : Run (Limited (cuts (receiveText sameDay)) (100 * 1024)) {}
      (inputsOf key (chunks.map fun chunk => (cid, some chunk))) (if key = cid then ends else {}) := by
    rw [inputsOf_one]
    split
    · exact alone
    · exact .nil _
  let client : Server PacketAssembler.NetPackage :=
    ⟨fun key => (if key = cid then ends else {}).kept, fun key => (if key = cid then ends else {}).handed⟩
  refine ⟨⟨client, run_serves_iff.mpr (run_keyed_iff.mpr mailbox)⟩, ?_⟩
  intro client runs
  have own := run_keyed_iff.mp (run_serves_iff.mp runs) cid
  have known := mailbox cid
  rw [if_pos rfl] at known
  have same : mailboxes client cid = ends := limited_unique receiveText_single own known
  obtain ⟨arrived, rfl, result⟩ := arrived_of_whole (fun _ => sendAll_accepts 0) (fun _ => piece_solid) laid.accepted come
  have packs : client.handed cid = (arrived.map piece).map Prod.snd := by
    rw [← List.nil_append ((arrived.map piece).map Prod.snd), ← handed, ← same]
    rfl
  have received : (client.handed cid).map (fun pack => (⟨pack.head.iType, pack.head.iTimeStamp, pack.data⟩ : Message)) =
      arrived := by
    rw [packs, List.map_map, List.map_map]
    exact List.map_id _
  rw [received]
  exact result

/-- A second message behind the first. -/
def later : Message := ⟨2, 1510885146, [65, 66]⟩

/-- Both are queued before the kernel takes either, and reach the client in two chunks of
which the first ends within a packet. -/
theorem sent_messages_arrive_quoted : ∃ client, Arrived (sendAll 0) [quoted, later]
    [((piece quoted).1 ++ (piece later).1).take 20, ((piece quoted).1 ++ (piece later).1).drop 20]
    ((client : List PacketAssembler.NetPackage).map fun pack => ⟨pack.head.iType, pack.head.iTimeStamp, pack.data⟩) := by
  have accepted : Accepted quoted := ⟨by decide, by decide, by decide⟩
  have also : Accepted later := ⟨by decide, by decide, by decide⟩
  have first : SimutgwTcpServer.send {} quoted.iTimeStamp quoted.iType quoted.data 0 =
      { m_dataNeedSend := [(piece quoted).1], m_bIsEpoutSet := true, watchesOut := true } := send_queues {} accepted 0
  have second : SimutgwTcpServer.send { m_dataNeedSend := [(piece quoted).1], m_bIsEpoutSet := true, watchesOut := true }
      later.iTimeStamp later.iType later.data 0 =
        { m_dataNeedSend := [(piece quoted).1, (piece later).1], m_bIsEpoutSet := true, watchesOut := true } :=
    send_queues _ also 0
  have run : Run (Steps.guarded Serving Smooth) {} [.send quoted.iTimeStamp quoted.iType quoted.data 0,
      .send later.iTimeStamp later.iType later.data 0,
      .sends [.took (piece quoted).1.length, .took (piece later).1.length] 0]
      ⟨{ stream := (piece quoted).1 ++ (piece later).1 }, [quoted, later]⟩ := by
    refine .cons ⟨rfl, accepted⟩ (.cons ⟨rfl, also⟩ (.cons ⟨?_, ?_⟩ (.nil _)))
    · refine ⟨0, (piece quoted).1.length + (piece later).1.length, { stream := (piece quoted).1 ++ (piece later).1 }, ?_, rfl⟩
      simp only
      rw [first, second]
      simp [loopSend, loopSendFrom, sendData]
    · simp only [Smooth]
      rw [first, second]
      exact ⟨Nat.le_refl _, fun _ => ⟨Nat.le_refl _, fun _ => trivial⟩⟩
  obtain ⟨⟨client, received⟩, arrives⟩ := sent_messages_arrive (fun _ => false) _ _ run 7
    [((piece quoted).1 ++ (piece later).1).take 20, ((piece quoted).1 ++ (piece later).1).drop 20]
    ⟨[], by simp [List.take_append_drop]⟩
  exact ⟨client.handed 7, arrives client received⟩

end Server

end Simutgw.Proofs.SendStream
