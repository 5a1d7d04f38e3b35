import Simutgw.PacketAssembler

/-! A connection's queue of data to send. Data join the queue's end, and the socket is
watched for room until the queue has been sent. What the kernel answers to the calls is
given: how much of a buffer it takes, that there is no room, or an error. -/

namespace Simutgw

/-- What `send` comes to: the number of bytes taken, no room, or another error. -/
inductive SendAnswer
  | took (ret : Nat)
  | eagain
  | fails (iErr : Int)
deriving DecidableEq

namespace LinuxNetUtil

/-- The code and the number of bytes transferred. -/
def sendData : SendAnswer → Int × Nat
  | .took ret => (0, ret)
  | .eagain => (1, 0)
  | .fails _ => (-1, 0)

end LinuxNetUtil

/-- The queue, whether the out event is set, and the kernel's side: whether the socket is
watched for room, and what it has taken. -/
structure EpollSocketConnection where
  m_dataNeedSend : List (List UInt8) := []
  m_bIsEpoutSet : Bool := false
  watchesOut : Bool := false
  stream : List UInt8 := []
deriving DecidableEq

namespace EpollSocketConnection

/-- The data join the queue before the watch is asked for, where it is not set; the
answer to that is zero or an error. -/
def addSend (conn : EpollSocketConnection) (in_pSendData : List UInt8) (epoll_ctl : Int) : Int × EpollSocketConnection :=
  let conn := { conn with m_dataNeedSend := conn.m_dataNeedSend ++ [in_pSendData] }
  if !conn.m_bIsEpoutSet then
    if epoll_ctl ≠ 0 then (-1, conn)
    else (0, { conn with m_bIsEpoutSet := true, watchesOut := true })
  else (0, conn)

/-- The loop over the queue, with one answer for each buffer it comes to: the code, the
bytes transferred where it comes to the end, and the connection. -/
def loopSendFrom (epoll_ctl : Int) (conn : EpollSocketConnection) (uiTotal_ByteTransferred : Nat) :
    List (List UInt8) → List SendAnswer → Option (Int × Nat × EpollSocketConnection)
  | [], _ =>
    if epoll_ctl ≠ 0 then some (-1, 0, { conn with m_dataNeedSend := [] })
    else some (0, uiTotal_ByteTransferred,
      { conn with m_dataNeedSend := [], m_bIsEpoutSet := false, watchesOut := false })
  | _ :: _, [] => none
  | pSendData :: rest, answer :: answers =>
    let (iResSend, uiByteTransferred) := LinuxNetUtil.sendData answer
    let conn := { conn with stream := conn.stream ++ pSendData.take uiByteTransferred }
    -- The buffer has left the queue, and is not put back whatever was taken of it.
    if iResSend = 0 then loopSendFrom epoll_ctl conn (uiTotal_ByteTransferred + uiByteTransferred) rest answers
    else if iResSend = 1 then some (1, 0, { conn with m_dataNeedSend := rest })
    else some (-1, 0, { conn with m_dataNeedSend := rest })

def loopSend (conn : EpollSocketConnection) (answers : List SendAnswer) (epoll_ctl : Int) :
    Option (Int × Nat × EpollSocketConnection) :=
  loopSendFrom epoll_ctl conn 0 conn.m_dataNeedSend answers

end EpollSocketConnection

namespace SimutgwTcpServer

/-- A message is laid out in a buffer of its own, with the clock's stamp, and queued. -/
def send (conn : EpollSocketConnection) (clock iMsgType : Int) (in_data : List UInt8) (epoll_ctl : Int) :
    EpollSocketConnection :=
  let (iRes, ptrVectNetData) := PacketAssembler.localPackageToNetBuffer clock iMsgType in_data none []
  if iRes ≠ 0 then conn else (conn.addSend ptrVectNetData epoll_ctl).2

end SimutgwTcpServer
end Simutgw
