import Simutgw.PacketAssembler
import Simutgw.BinaryPacketAssembler

/-! The buffers of a server's connections, for the text protocol and for the binary one.
What a connection sends is put behind what was left of it and cut into packets; a buffer
that is still long then is emptied, and one whose connection is gone is removed. -/

namespace Simutgw

/-- The buffers by connection id. -/
abbrev MapCidMsg := UInt64 → Option (List UInt8)

namespace HandlerSocketMsg

/-- The body of both handlers: an id that is not known yet has an empty buffer. -/
def appendWith {Pack : Type*} (recvPackage : List UInt8 → Option (List UInt8 × List Pack)) (uiMaxBuffer : Nat)
    (m_mapCidMsg : MapCidMsg) (cid : UInt64) (vecApdBuf : List UInt8) : Option (MapCidMsg × List Pack) :=
  (recvPackage ((m_mapCidMsg cid).getD [] ++ vecApdBuf)).map fun (vecRevBuffer, vecApdPack) =>
    (Function.update m_mapCidMsg cid (some (if vecRevBuffer.length > uiMaxBuffer then [] else vecRevBuffer)), vecApdPack)

/-- The call, with the receiver's loops followed for this many passes. -/
def appendBuffer (sameDay : Int → Bool) (fuel : Nat) (vecApdPack : List PacketAssembler.NetPackage) :
    MapCidMsg → UInt64 → List UInt8 → Option (MapCidMsg × List PacketAssembler.NetPackage) :=
  appendWith (fun vecRevBuffer =>
    (PacketAssembler.recvPackage sameDay fuel vecRevBuffer vecApdPack true false).map fun received =>
      (received.2.vctBuffer, received.2.recvedDatas)) (100 * 1024)

/-- Whether there was one, and what is left. -/
def removeId (m_mapCidMsg : MapCidMsg) (cid : UInt64) : Bool × MapCidMsg :=
  ((m_mapCidMsg cid).isSome, Function.update m_mapCidMsg cid none)

end HandlerSocketMsg

namespace HandlerSocketMsgBinary

def appendBuffer (fuel : Nat) (vecApdPack : List BinaryPacketAssembler.BinaryNetPack) :
    MapCidMsg → UInt64 → List UInt8 → Option (MapCidMsg × List BinaryPacketAssembler.BinaryNetPack) :=
  HandlerSocketMsg.appendWith (fun vecRevBuffer =>
    (BinaryPacketAssembler.recvPackage fuel vecRevBuffer vecApdPack true).map fun received =>
      (received.2.vctBuffer, received.2.recvedDatas)) (10 * 1024)

def removeId := HandlerSocketMsg.removeId

end HandlerSocketMsgBinary
end Simutgw
