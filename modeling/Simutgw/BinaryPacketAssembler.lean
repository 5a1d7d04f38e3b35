import Simutgw.Logic.Loops
import Simutgw.BinaryMessageStructDefine
import Mathlib.Data.UInt

/-! The binary gateway's framing of a byte stream: a head with the message type
and the length of the body, the body, and a tail with a checksum. Reads of the
buffer are checked, so that one past its end is an undefined pass. -/

namespace Simutgw.BinaryPacketAssembler
open Logic Binary

def headSize : UInt32 := 8

def tailSize : UInt32 := 4

structure BinaryNetPack where
  ui32MsgType : UInt32 := 0
  ui32BodyLength : UInt32 := 0
  vctBuffer : List UInt8 := []
deriving DecidableEq

/-- Four bytes of the network as a word of the host. -/
def ntohl (bytes : List UInt8) : UInt32 :=
  bytes.foldl (fun word byte => word * 256 + byte.toUInt32) 0

/-- The bytes between two positions that both lie within the buffer. -/
def slice (buffer : List UInt8) (first last : Nat) : Option (List UInt8) :=
  if first ≤ last ∧ last ≤ buffer.length then some ((buffer.take last).drop first) else none

/-- The buffer of a connection and the packets taken off it. -/
structure Received where
  vctBuffer : List UInt8
  recvedDatas : List BinaryNetPack := []
deriving DecidableEq

/-- The length of the whole packet, in words of 32 bits. -/
def netPackLen (uiBodyLength : UInt32) : UInt32 := headSize + uiBodyLength + tailSize

/-- One pass of the loop that cuts packets off the front of the buffer. -/
def cutPack : Loop Received (Int × Received) := fun state =>
  let uiBufferSize := state.vctBuffer.length
  if uiBufferSize = 0 then .leave (0, state)
  else if uiBufferSize < headSize.toNat then .leave (1, state)
  else
    match slice state.vctBuffer 0 headSize.toNat with
    | none => .undefined
    | some msgHead =>
      let uiMsgType := ntohl (msgHead.take 4)
      let uiBodyLength := ntohl (msgHead.drop 4)
      let uiNetPackLen := netPackLen uiBodyLength
      if uiNetPackLen.toNat > uiBufferSize then .leave (1, state)
      else
        match slice state.vctBuffer 0 uiNetPackLen.toNat with
        | none => .undefined
        | some whole =>
          let ptrNetPack : BinaryNetPack :=
            { ui32MsgType := uiMsgType, ui32BodyLength := uiBodyLength
              vctBuffer := if 0 < uiBodyLength then whole else [] }
          .again
            { vctBuffer := state.vctBuffer.drop uiNetPackLen.toNat
              recvedDatas := state.recvedDatas ++ [ptrNetPack] }

/-- The call, with the loop followed for this many passes. Whether waste is to be
trimmed is not looked at. -/
def recvPackage (fuel : Nat) (vctBuffer : List UInt8) (recvedDatas : List BinaryNetPack) (_bTrimWasteData : Bool) :
    Option (Int × Received) :=
  if vctBuffer.length < headSize.toNat then some (1, ⟨vctBuffer, recvedDatas⟩)
  else cutPack.run fuel ⟨vctBuffer, recvedDatas⟩

def msgType_Logon1 : UInt32 := 1

def msgType_HeartBeat3 : UInt32 := 3

def msgType_ReportSynchronization5 : UInt32 := 5

def msgType_PlatformStateInfo6 : UInt32 := 6

def msgType_NewOrder100101 : UInt32 := 100101

def msgType_ExecutionReport200102 : UInt32 := 200102

def msgType_MatchedExecutionReport200115 : UInt32 := 200115

/-- A word of the host as four bytes of the network. -/
def htonl (word : UInt32) : List UInt8 :=
  [(word >>> 24).toUInt8, (word >>> 16).toUInt8, (word >>> 8).toUInt8, word.toUInt8]

/-- The sum of the bytes from a position on, as far as the buffer reaches. -/
def generateCheckSum (vctData : List UInt8) (iBeginPos : Nat) (bufLen : UInt32) : UInt32 :=
  ((vctData.drop iBeginPos).take bufLen.toNat).foldl (fun cks byte => cks + byte.toUInt32) 0 % 256

/-- The overload for plain characters, which are signed; it reads as many as it is told. -/
def generateCheckSumChars (buf : List UInt8) (bufLen : UInt32) : Option UInt32 :=
  let signed (byte : UInt8) : UInt32 := if byte < 128 then byte.toUInt32 else byte.toUInt32 - 256
  if buf.length < bufLen.toNat then none
  else some ((buf.take bufLen.toNat).foldl (fun cks byte => cks + signed byte) 0 % 256)

/-- Only the lengths are compared: what follows in the source, the comparison of the two
checksums, is commented out. -/
def isPackageCheckSumValid : Option BinaryNetPack → Bool
  | none => false
  | some pBinaryNetPack =>
    if pBinaryNetPack.ui32BodyLength = 0 then decide (pBinaryNetPack.vctBuffer.length = 0)
    else if 4 ≥ pBinaryNetPack.vctBuffer.length then false
    else
      let uiPointPos := headSize + tailSize + pBinaryNetPack.ui32BodyLength
      decide (pBinaryNetPack.vctBuffer.length = uiPointPos.toNat)

def resize (vctData : List UInt8) (size : Nat) : List UInt8 :=
  vctData.take size ++ List.replicate (size - vctData.length) 0

/-- Bytes copied over the buffer from a position on, none of them past its end. -/
def memcpy (vctData : List UInt8) (uiPos : Nat) (bytes : List UInt8) : Option (List UInt8) :=
  if uiPos + bytes.length ≤ vctData.length then
    some (vctData.take uiPos ++ bytes ++ vctData.drop (uiPos + bytes.length))
  else none

/-- A struct is copied to the position, which moves on by its `sizeof`. -/
def copyStruct : List UInt8 × Nat → Nat × List UInt8 → Option (List UInt8 × Nat)
  | (vctData, uiPos), (sizeof, bytes) => do
    let vctData ← memcpy vctData uiPos bytes
    some (vctData, uiPos + sizeof)

/-- The head goes to the front of the resized buffer, the structs one behind the
other after it, and the checksum of all that to its end. -/
def localPackToNetBuffer (uiMsgType uiBodyLength : UInt32) (structs : List (Nat × List UInt8))
    (out_vctData : List UInt8) : Option (Int × List UInt8) := do
  let out_vctData := resize out_vctData (uiBodyLength + headSize).toNat
  let out_vctData ← memcpy out_vctData 0 (htonl uiMsgType ++ htonl uiBodyLength)
  let (out_vctData, _) ← structs.foldlM copyStruct (out_vctData, headSize.toNat)
  let uiCalcedCheckSum := generateCheckSum out_vctData 0 (uiBodyLength + headSize)
  some (0, out_vctData ++ htonl uiCalcedCheckSum)

/-- A struct and its `sizeof`, as an encoder copies it. -/
def copied {Struct : Type} [Packed Struct] (msgobj : Struct) : Nat × List UInt8 :=
  (Packed.sizeof Struct, Packed.bytes msgobj)

def localPackToNetBuffer_Logon (msgobj : BinaryLogon) (out_vctData : List UInt8) : Option (Int × List UInt8) :=
  localPackToNetBuffer msgType_Logon1 (.ofNat (Packed.sizeof BinaryLogon)) [copied msgobj] out_vctData

def localPackToNetBuffer_PlatformStateInfo (msgobj : PlatformStateInfo) (out_vctData : List UInt8) :
    Option (Int × List UInt8) :=
  localPackToNetBuffer msgType_PlatformStateInfo6 (.ofNat (Packed.sizeof PlatformStateInfo)) [copied msgobj]
    out_vctData

def localPackToNetBuffer_Heartbeat (out_vctData : List UInt8) : Option (Int × List UInt8) :=
  localPackToNetBuffer msgType_HeartBeat3 0 [] out_vctData

def localPackToNetBuffer_ReportSynch (execReportSynchObj : ReportSynchronization) (out_vctData : List UInt8) :
    Option (Int × List UInt8) :=
  localPackToNetBuffer msgType_ReportSynchronization5 (.ofNat (Packed.sizeof ReportSynchronization))
    [copied execReportSynchObj] out_vctData

def localPackToNetBuffer_NewOrder_100101 (newOrderObj : NewOrder) (newOrder_extObj : NewOrderExt100101)
    (out_vctData : List UInt8) : Option (Int × List UInt8) :=
  localPackToNetBuffer msgType_NewOrder100101
    (.ofNat (Packed.sizeof NewOrder + Packed.sizeof NewOrderExt100101))
    [copied newOrderObj, copied newOrder_extObj] out_vctData

def localPackToNetBuffer_ExecReport_200102 (execRepotObj : ExecutionReport)
    (execRepot_extObj : ExecutionReportExt200102) (out_vctData : List UInt8) : Option (Int × List UInt8) :=
  localPackToNetBuffer msgType_ExecutionReport200102
    (.ofNat (Packed.sizeof ExecutionReport + Packed.sizeof ExecutionReportExt200102))
    [copied execRepotObj, copied execRepot_extObj] out_vctData

def localPackToNetBuffer_ExecReport_Matched_200115 (execRepotObj : ExecutionReportMatched)
    (execRepot_extObj : ExecutionReportMatchedExt200115) (out_vctData : List UInt8) : Option (Int × List UInt8) :=
  localPackToNetBuffer msgType_MatchedExecutionReport200115
    (.ofNat (Packed.sizeof ExecutionReportMatched + Packed.sizeof ExecutionReportMatchedExt200115))
    [copied execRepotObj, copied execRepot_extObj] out_vctData

end Simutgw.BinaryPacketAssembler
