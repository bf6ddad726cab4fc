import Knust.Foundation.BigEndian
import Knust.Protocol.Address

namespace Knust.Protocol

open Foundation

inductive MessageCode
  | lDataReq | lDataCon | lDataInd | lBusmonInd | lRawReq | lRawInd | lRawCon
  | mPropReadReq | mPropReadCon | mPropWriteReq | mPropWriteCon
  deriving Repr, DecidableEq

namespace MessageCode

def fromU8 (value : UInt8) : Result MessageCode :=
  if value = 0x11 then .ok .lDataReq
  else if value = 0x2E then .ok .lDataCon
  else if value = 0x29 then .ok .lDataInd
  else if value = 0x2B then .ok .lBusmonInd
  else if value = 0x10 then .ok .lRawReq
  else if value = 0x2D then .ok .lRawInd
  else if value = 0x2F then .ok .lRawCon
  else if value = 0xFC then .ok .mPropReadReq
  else if value = 0xFB then .ok .mPropReadCon
  else if value = 0xF6 then .ok .mPropWriteReq
  else if value = 0xF5 then .ok .mPropWriteCon
  else .err (.protocol (.cemiError s!"Unknown message code: 0x{hex 2 value.toNat}"))

def toU8 : MessageCode → UInt8
  | .lDataReq => 0x11
  | .lDataCon => 0x2E
  | .lDataInd => 0x29
  | .lBusmonInd => 0x2B
  | .lRawReq => 0x10
  | .lRawInd => 0x2D
  | .lRawCon => 0x2F
  | .mPropReadReq => 0xFC
  | .mPropReadCon => 0xFB
  | .mPropWriteReq => 0xF6
  | .mPropWriteCon => 0xF5

theorem fromU8_toU8 (c : MessageCode) : fromU8 c.toU8 = .ok c := by cases c <;> rfl

end MessageCode

inductive FrameType
  | extended
  | standard
  deriving Repr, DecidableEq

inductive AddressType
  | individual
  | group
  deriving Repr, DecidableEq

inductive Priority
  | system
  | normal
  | urgent
  | low
  deriving Repr, DecidableEq

def bitIf (condition : Bool) (bit : UInt8) : UInt8 := if condition then bit else 0

structure ControlField where
  frameType : FrameType
  repeat_ : Bool
  systemBroadcast : Bool
  priority : Priority
  ackRequest : Bool
  confirm : Bool
  destinationAddressType : AddressType
  hopCount : UInt8
  deriving Repr, DecidableEq

namespace ControlField

/-- Bits 2 and 3 of the first control byte. The remaining case is unreachable in
the source and needs all of them to be tested. -/
def priorityOf (bits : UInt8) : Priority :=
  if bits = 0 then .system
  else if bits = 1 then .normal
  else if bits = 2 then .urgent
  else .low

def priorityBits : Priority → UInt8
  | .system => 0
  | .normal => 1
  | .urgent => 2
  | .low => 3

def fromFlags (flags : UInt16) : ControlField :=
  let highByte := (flags >>> 8).toUInt8
  let lowByte := flags.toUInt8
  { frameType := if highByte &&& 0x80 ≠ 0 then .standard else .extended
    repeat_ := highByte &&& 0x20 = 0
    systemBroadcast := highByte &&& 0x10 = 0
    priority := priorityOf ((highByte >>> 2) &&& 0x03)
    ackRequest := highByte &&& 0x02 ≠ 0
    confirm := highByte &&& 0x01 ≠ 0
    destinationAddressType := if lowByte &&& 0x80 ≠ 0 then .group else .individual
    hopCount := (lowByte >>> 4) &&& 0x07 }

def highByte (c : ControlField) : UInt8 :=
  bitIf (c.frameType = .standard) 0x80 ||| bitIf (!c.repeat_) 0x20 |||
  bitIf (!c.systemBroadcast) 0x10 ||| (priorityBits c.priority <<< 2) |||
  bitIf c.ackRequest 0x02 ||| bitIf c.confirm 0x01

def lowByte (c : ControlField) : UInt8 :=
  bitIf (c.destinationAddressType = .group) 0x80 ||| ((c.hopCount &&& 0x07) <<< 4)

def toFlags (c : ControlField) : UInt16 :=
  (c.highByte.toUInt16 <<< 8) ||| c.lowByte.toUInt16

end ControlField

structure ExtendedControlField where
  destinationAddressType : AddressType
  hopCount : UInt8
  extendedFrameFormat : UInt8
  deriving Repr, DecidableEq

namespace ExtendedControlField

def fromU8 (value : UInt8) : ExtendedControlField where
  destinationAddressType := if value &&& 0x80 ≠ 0 then .group else .individual
  hopCount := (value >>> 4) &&& 0x07
  extendedFrameFormat := value &&& 0x0F

def toU8 (c : ExtendedControlField) : UInt8 :=
  bitIf (c.destinationAddressType = .group) 0x80 |||
  ((c.hopCount &&& 0x07) <<< 4) ||| (c.extendedFrameFormat &&& 0x0F)

end ExtendedControlField

structure AdditionalInfo where
  infoType : UInt8
  data : List UInt8
  deriving Repr, DecidableEq

structure CemiFrame where
  messageCode : MessageCode
  additionalInfo : List AdditionalInfo
  controlField : ControlField
  extendedControlField : Option ExtendedControlField
  sourceAddr : IndividualAddress
  destAddr : Address
  dataLength : UInt8
  tpci : UInt8
  apciData : List UInt8
  deriving DecidableEq

namespace CemiFrame

/-- The blocks between `offset` and `stop`, together with the offset at which
they end. -/
def parseAdditionalInfo (data : List UInt8) (stop offset : ℕ) :
    Result (List AdditionalInfo × ℕ) :=
  if offset < stop then
    if offset + 1 ≥ data.length then parseError offset "Incomplete additional info field"
    else do
      let infoType ← index data offset
      let infoLen := (← index data (offset + 1)).toNat
      if offset + 2 + infoLen > stop then
        parseError (offset + 1) "Additional info field extends beyond declared length"
      else do
        let infoData ← slice data (offset + 2) (offset + 2 + infoLen)
        let (rest, finish) ← parseAdditionalInfo data stop (offset + 2 + infoLen)
        .ok (⟨infoType, infoData⟩ :: rest, finish)
  else .ok ([], offset)
termination_by stop - offset

/-- The extended control byte, present in extended frames only, overrides the
address type and the hop count of the flags. -/
def parseExtended (data : List UInt8) (controlField : ControlField) (offset : ℕ) :
    Result (ControlField × Option ExtendedControlField × ℕ) :=
  if controlField.frameType = .extended then
    if offset ≥ data.length then parseError offset "Missing extended control field"
    else do
      let extCtrl := ExtendedControlField.fromU8 (← index data offset)
      .ok ({ controlField with
        destinationAddressType := extCtrl.destinationAddressType
        hopCount := extCtrl.hopCount }, some extCtrl, offset + 1)
  else .ok (controlField, none, offset)

def parseDestination (addressType : AddressType) (destRaw : UInt16) : Result Address :=
  if addressType = .group then
    match GroupAddress.tryFromRaw destRaw with
    | .ok addr => .ok (.group addr)
    | .error e => .err (.protocol (.invalidAddress s!"0x{hex 4 destRaw.toNat}" e.toString))
  else .ok (.individual ⟨destRaw⟩)

def parseTpdu (data : List UInt8) (dataLength : UInt8) (offset : ℕ) :
    Result (UInt8 × List UInt8) :=
  if dataLength > 0 then do
    let tpci ← index data offset
    let apciData ← slice data (offset + 1) (offset + 1 + dataLength.toNat)
    .ok (tpci, apciData)
  else .ok (0, [])

def parseAddressed (data : List UInt8) (messageCode : MessageCode)
    (additionalInfo : List AdditionalInfo) (controlField : ControlField)
    (extendedControlField : Option ExtendedControlField) (offset : ℕ) : Result CemiFrame :=
  if offset + 1 ≥ data.length then parseError offset "Missing source address"
  else do
    let sourceRaw := u16OfBytes (← index data offset) (← index data (offset + 1))
    let offset := offset + 2
    if offset + 1 ≥ data.length then parseError offset "Missing destination address"
    else do
      let destRaw := u16OfBytes (← index data offset) (← index data (offset + 1))
      let destAddr ← parseDestination controlField.destinationAddressType destRaw
      let offset := offset + 2
      if offset ≥ data.length then parseError offset "Missing data length field"
      else do
        let dataLength ← index data offset
        let offset := offset + 1
        let tpduLength := if dataLength = 0 then 0 else dataLength.toNat + 1
        if data.length < offset + tpduLength then
          parseError offset
            s!"Not enough data for payload (need {tpduLength}, have {data.length - offset})"
        else do
          let (tpci, apciData) ← parseTpdu data dataLength offset
          .ok { messageCode, additionalInfo, controlField, extendedControlField,
                sourceAddr := ⟨sourceRaw⟩, destAddr, dataLength, tpci, apciData }

def parseBody (data : List UInt8) (messageCode : MessageCode)
    (additionalInfo : List AdditionalInfo) (offset : ℕ) : Result CemiFrame :=
  if data.length < offset + 7 then parseError offset "Not enough data for CEMI frame header"
  else do
    let flags := u16OfBytes (← index data offset) (← index data (offset + 1))
    let (controlField, extendedControlField, offset) ←
      parseExtended data (ControlField.fromFlags flags) (offset + 2)
    parseAddressed data messageCode additionalInfo controlField extendedControlField offset

def parse (data : List UInt8) : Result CemiFrame :=
  if data.isEmpty then parseError 0 "Empty CEMI frame"
  else if data.length < 2 then parseError 0 "CEMI frame too short (minimum 2 bytes)"
  else do
    let messageCode ← MessageCode.fromU8 (← index data 0)
    let additionalInfoLen := (← index data 1).toNat
    if data.length < 2 + additionalInfoLen then
      parseError 1 s!"Not enough data for additional info (need {additionalInfoLen}, have {data.length - 2})"
    else do
      let (additionalInfo, offset) ← parseAdditionalInfo data (2 + additionalInfoLen) 2
      parseBody data messageCode additionalInfo offset

def additionalInfoBytes (info : List AdditionalInfo) : List UInt8 :=
  info.flatMap fun i ↦ i.infoType :: UInt8.ofNat i.data.length :: i.data

def serialize (f : CemiFrame) : List UInt8 :=
  let additionalInfoData := additionalInfoBytes f.additionalInfo
  [f.messageCode.toU8, UInt8.ofNat additionalInfoData.length] ++ additionalInfoData ++
  u16Bytes f.controlField.toFlags ++
  (f.extendedControlField.map fun c ↦ [c.toU8]).getD [] ++
  u16Bytes f.sourceAddr.raw ++ u16Bytes f.destAddr.raw ++
  [f.dataLength] ++ (if f.dataLength > 0 then f.tpci :: f.apciData else [])

def addressTypeOf : Address → AddressType
  | .group _ => .group
  | .individual _ => .individual

def newControlField (destAddr : Address) : ControlField where
  frameType := .standard
  repeat_ := false
  systemBroadcast := false
  priority := .normal
  ackRequest := false
  confirm := false
  destinationAddressType := addressTypeOf destAddr
  hopCount := 6

def new (messageCode : MessageCode) (sourceAddr : IndividualAddress) (destAddr : Address)
    (data : List UInt8) : CemiFrame where
  messageCode := messageCode
  additionalInfo := []
  controlField := newControlField destAddr
  extendedControlField := none
  sourceAddr := sourceAddr
  destAddr := destAddr
  dataLength := UInt8.ofNat data.length
  tpci := 0x00
  apciData := data

end CemiFrame

end Knust.Protocol
