import Simutgw.Logic.Loops
import Simutgw.TgwStringUtil

/-! The text protocol's framing of a byte stream. A packet is a head of 48
characters, which begins with a marker and carries a checksum of the data and one
of itself, and the data. The receiver looks for the marker, reads the head behind
it and waits for the data. -/

namespace Simutgw.PacketAssembler
open Logic SofString TgwStringUtil

def netpackBeginstring : List UInt8 := [78, 69, 84, 58]

def netPackageHeadLen : Nat := 48
def netpackBeginstrLen : Nat := 4
def netpackVersionLen : Nat := 4
def netpackTimestampLen : Nat := 10
def netpackTypeLen : Nat := 4
def netpackDatalenLen : Nat := 4
def netpackCheckLen : Nat := 16
def netpackHeadcksumLen : Nat := 6

def netpackVersion : Int := 1

structure NetPackageHeadLocal where
  beginstring : List UInt8
  iVersion : Int
  iTimeStamp : Int
  iType : Int
  iDatalen : Int
  check : List UInt8
  iHeadChecksum : Int
deriving DecidableEq

structure NetPackage where
  head : NetPackageHeadLocal
  data : List UInt8
deriving DecidableEq

def bytes (text : String) : List UInt8 := text.toList.map fun char => UInt8.ofNat char.toNat

def text (bytes : List UInt8) : String := String.ofList (bytes.map fun byte => Char.ofNat byte.toNat)

section Checksums

def crc32Table : List UInt32 :=
  [0x00000000, 0x1db71064, 0x3b6e20c8, 0x26d930ac, 0x76dc4190, 0x6b6b51f4, 0x4db26158, 0x5005713c,
    0xedb88320, 0xf00f9344, 0xd6d6a3e8, 0xcb61b38c, 0x9b64c2b0, 0x86d3d2d4, 0xa00ae278, 0xbdbdf21c]

/-- One byte, a half of it at a time. -/
def crcUpdate (state : UInt32) (data : UInt8) : UInt32 :=
  let half (state : UInt32) (shifted : UInt8) : UInt32 :=
    crc32Table.getD ((state.toUInt8 ^^^ shifted) &&& 0x0f).toNat 0 ^^^ (state >>> 4)
  half (half state data) (data >>> 4)

def crc32 (data : List UInt8) : UInt32 := ~~~(data.foldl crcUpdate 0xffffffff)

def zeroFill (length : Nat) (text : List UInt8) : List UInt8 :=
  List.replicate (length - text.length) 48 ++ text

def generateNetPackCRC (in_strNetPackData : List UInt8) : List UInt8 :=
  let strCheckCRC := bytes (itostr (crc32 in_strNetPackData).toUInt64)
  let strCheck :=
    if netpackCheckLen < strCheckCRC.length then strCheckCRC.take netpackCheckLen else strCheckCRC
  zeroFill netpackCheckLen strCheck

def checkNetPackCRC (pack : NetPackage) : Bool := generateNetPackCRC pack.data == pack.head.check

/-- The checksum of a head that stands in a buffer: its bytes are unsigned there. -/
def generateChecksum (vctData : List UInt8) (iBeginPos : Nat) : Int :=
  let cksum := ((vctData.drop iBeginPos).take (netPackageHeadLen - netpackHeadcksumLen)).foldl
    (fun cksum byte => cksum + byte.toUInt64) (0 : UInt64)
  (cksum % 131072).toNat

/-- The same for a received head, whose characters are signed. -/
def generateHeadChecksum (netPackHead : List UInt8) : Int :=
  let signed (byte : UInt8) : UInt64 := if byte < 128 then byte.toUInt64 else byte.toUInt64 - 256
  let cksum := (netPackHead.take (netPackageHeadLen - netpackHeadcksumLen)).foldl
    (fun cksum byte => cksum + signed byte) (0 : UInt64)
  (cksum % 131072).toNat

end Checksums

section Heads

/-- What a constructor from a character pointer takes of a field: the text up to the
first null, of which the length of the field is kept. -/
def field (netPackHead : List UInt8) (start length : Nat) : List UInt8 :=
  ((netPackHead.drop start).takeWhile (· != 0)).take length

/-- Whether the stamp is one of the two test stamps or of the same day as the clock. -/
def validateTimeStamp (sameDay : Int → Bool) (iStamp : Int) (bCheck : Bool) : Bool :=
  if !bCheck then true
  else if 0 ≥ iStamp then false
  else if iStamp = 1510885145 ∨ iStamp = 1510879893 then true
  else sameDay iStamp

/-- The head in the host's types, where it passes the checks. -/
def netPackageHeadToLocal (sameDay : Int → Bool) (stNetPack : List UInt8) (bCheckTimestamp : Bool) :
    Option NetPackageHeadLocal :=
  let head : NetPackageHeadLocal :=
    { beginstring := field stNetPack 0 netpackBeginstrLen
      iVersion := string2IntAtoi (text (field stNetPack 4 netpackVersionLen))
      iTimeStamp := string2IntAtoi (text (field stNetPack 8 netpackTimestampLen))
      iType := string2IntAtoi (text (field stNetPack 18 netpackTypeLen))
      iDatalen := string2IntAtoi (text (field stNetPack 22 netpackDatalenLen))
      check := field stNetPack 26 netpackCheckLen
      iHeadChecksum := string2IntAtoi (text (field stNetPack 42 netpackHeadcksumLen)) }
  if !validateTimeStamp sameDay head.iTimeStamp bCheckTimestamp then none
  else if head.iVersion > netpackVersion ∨ head.iType < 0 then none
  else if head.iHeadChecksum ≠ generateHeadChecksum stNetPack then none
  else some head

/-- Append a packet to the bytes to send: the code, and the bytes as they are then,
which an error leaves with what was appended up to it. The stamp is the clock's where
none is given. -/
def localPackageToNetBuffer (clock : Int) (in_iMsgType : Int) (in_data : List UInt8) (in_piTimeStamp : Option Int)
    (out_vctData : List UInt8) : Int × List UInt8 :=
  let out_vctData := out_vctData ++ netpackBeginstring
  let strVersion := bytes (itostrInt netpackVersion)
  if netpackVersionLen < strVersion.length then (-1, out_vctData) else
  let out_vctData := out_vctData ++ zeroFill netpackVersionLen strVersion
  let strTimeStamp := bytes (itostrInt (in_piTimeStamp.getD clock))
  if netpackTimestampLen < strTimeStamp.length then (-1, out_vctData) else
  -- Only the stamp is not filled up to the length of its field.
  let out_vctData := out_vctData ++ strTimeStamp
  let strType := bytes (itostrInt in_iMsgType)
  if netpackTypeLen < strType.length then (-1, out_vctData) else
  let out_vctData := out_vctData ++ zeroFill netpackTypeLen strType
  let strDatalen := bytes (itostr (UInt64.ofNat in_data.length))
  if netpackDatalenLen < strDatalen.length then (-1, out_vctData) else
  let out_vctData := out_vctData ++ zeroFill netpackDatalenLen strDatalen
  let strDataCheckSum := generateNetPackCRC in_data
  if strDataCheckSum.length ≠ netpackCheckLen then (-1, out_vctData) else
  let out_vctData := out_vctData ++ strDataCheckSum
  -- An unsigned difference, which a short stamp at the front of the buffer wraps.
  let iPos :=
    if netPackageHeadLen - netpackHeadcksumLen ≤ out_vctData.length then
      out_vctData.length - (netPackageHeadLen - netpackHeadcksumLen)
    else out_vctData.length + 2 ^ 64 - (netPackageHeadLen - netpackHeadcksumLen)
  let strHeadChecksum := bytes (itostr (UInt64.ofInt (generateChecksum out_vctData iPos)))
  (0, out_vctData ++ zeroFill netpackHeadcksumLen strHeadChecksum ++ in_data)

end Heads

section Receiving

/-- The buffer of a connection and the packets taken off it. -/
structure Received where
  vctBuffer : List UInt8
  recvedDatas : List NetPackage := []
deriving DecidableEq

/-- Where the receiver stands: at the top of the outer loop, or in the inner one at a
position, with the place in the marker that is compared next. -/
inductive Point
  | search
  | scan (itBuf uiNetCompare_BeginStringPos : Nat)
deriving DecidableEq

/-- The position of the first byte of the marker from here on, the buffer's end if
there is none. -/
def findBegin (vctBuffer : List UInt8) : Nat := vctBuffer.findIdx (· == 78)

/-- Compare what is left of the marker with the bytes from a position on: whether it
matched, and the place in the marker the comparison stopped at. -/
def compareBegin (vctBuffer : List UInt8) : List UInt8 → Nat → Nat → Bool × Nat
  | [], _, place => (true, place)
  | byte :: marker, itBuf, place =>
    if vctBuffer[itBuf]? ≠ some byte then (false, place)
    else compareBegin vctBuffer marker (itBuf + 1) (place + 1)

/-- One pass of either loop. -/
def receive (sameDay : Int → Bool) (bTrimWasteData bCheckTimestamp : Bool) :
    Loop (Received × Point) (Int × Received)
  | (state, .search) =>
    let itBuf := findBegin state.vctBuffer
    if itBuf = state.vctBuffer.length then
      if bTrimWasteData then .leave (-1, { state with vctBuffer := [] }) else .leave (0, state)
    else if bTrimWasteData ∧ itBuf ≠ 0 then
      let itFind := findBegin (state.vctBuffer.drop 1) + 1
      -- The `break` meant for the next search leaves the outer loop.
      if itFind ≠ state.vctBuffer.length then .leave (0, { state with vctBuffer := state.vctBuffer.drop itFind })
      else .leave (-1, { state with vctBuffer := [] })
    else .again (state, .scan itBuf 0)
  | (state, .scan itHeadPos place) =>
    let uiBufferSize := state.vctBuffer.length
    if itHeadPos = uiBufferSize then .leave (0, state)
    else if netPackageHeadLen > uiBufferSize - itHeadPos then .leave (1, state)
    -- The comparison starts behind the end of the marker.
    else if netpackBeginstrLen ≤ place then .undefined
    else
      match compareBegin state.vctBuffer (netpackBeginstring.drop place) itHeadPos place with
      | (false, _) => .again (state, .scan (itHeadPos + 1) 0)
      | (true, place) =>
        let itBuf := itHeadPos + netPackageHeadLen
        match netPackageHeadToLocal sameDay ((state.vctBuffer.drop itHeadPos).take netPackageHeadLen)
          bCheckTimestamp with
        -- The position is taken from the marker's length, not from where the head stood.
        | none => .again (state, .scan (place - 1 + 1) 0)
        | some head =>
          if head.iDatalen > 0 then
            if itBuf = uiBufferSize ∨ head.iDatalen.toNat > uiBufferSize - itBuf then .leave (1, state)
            else
              let pack : NetPackage := { head, data := (state.vctBuffer.drop itBuf).take head.iDatalen.toNat }
              if checkNetPackCRC pack then
                .again
                  ({ vctBuffer := state.vctBuffer.take itHeadPos ++ state.vctBuffer.drop (itBuf + head.iDatalen.toNat)
                     recvedDatas := state.recvedDatas ++ [pack] }, .search)
              else .again (state, .scan (itHeadPos + 1) 0)
          -- Without data nothing resets the place in the marker.
          else if itBuf = uiBufferSize then .undefined
          else .again (state, .scan (itBuf + 1) place)

/-- The call, with the loops followed for this many passes. -/
def recvPackage (sameDay : Int → Bool) (fuel : Nat) (vctBuffer : List UInt8) (recvedDatas : List NetPackage)
    (bTrimWasteData bCheckTimestamp : Bool) : Option (Int × Received) :=
  if vctBuffer.length ≤ netPackageHeadLen then some (1, ⟨vctBuffer, recvedDatas⟩)
  else (receive sameDay bTrimWasteData bCheckTimestamp).run fuel (⟨vctBuffer, recvedDatas⟩, .search)

end Receiving

end Simutgw.PacketAssembler
