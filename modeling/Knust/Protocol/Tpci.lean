import Knust.Protocol.Cemi

namespace Knust.Protocol

open Foundation

inductive TpciFrame
  | connect
  | disconnect
  | dataConnected (sequence : UInt8)
  | ack (sequence : UInt8)
  | nak (sequence : UInt8)
  deriving Repr, DecidableEq

namespace TpciFrame

def encode : TpciFrame → UInt8
  | .connect => 0x80
  | .disconnect => 0x81
  | .dataConnected sequence => (0x40 : UInt8) ||| ((sequence &&& 0x0F) <<< 2)
  | .ack sequence => (0xC2 : UInt8) ||| ((sequence &&& 0x0F) <<< 2)
  | .nak sequence => (0xC3 : UInt8) ||| ((sequence &&& 0x0F) <<< 2)

def decode (byte : UInt8) : TpciFrame :=
  let sequence := (byte >>> 2) &&& 0x0F
  if byte = 0x80 then .connect
  else if byte = 0x81 then .disconnect
  else if byte &&& 0xC3 = 0xC2 then .ack sequence
  else if byte &&& 0xC3 = 0xC3 then .nak sequence
  else .dataConnected sequence

end TpciFrame

def deviceDescriptorRead (descriptor : UInt8) : List UInt8 := [0x03, descriptor &&& 0x3F]

inductive ProbeSignal
  | occupied
  | other
  deriving Repr, DecidableEq

/-- An `L_Data.req` to an individual address, whose length field counts the bytes
behind the transport control byte. -/
def buildLdataReqCemi (src dst : IndividualAddress) (tpci : UInt8) (apci : List UInt8) :
    List UInt8 :=
  [0x11, 0x00, 0xB4, 0x60] ++ u16Bytes src.raw ++ u16Bytes dst.raw ++
    [UInt8.ofNat apci.length, tpci] ++ apci

def buildTconnectCemi (src dst : IndividualAddress) : List UInt8 :=
  buildLdataReqCemi src dst TpciFrame.connect.encode []

def buildTdisconnectCemi (src dst : IndividualAddress) : List UInt8 :=
  buildLdataReqCemi src dst TpciFrame.disconnect.encode []

def buildDdrCemi (src dst : IndividualAddress) : List UInt8 :=
  let ddr := deviceDescriptorRead 0
  buildLdataReqCemi src dst ((TpciFrame.dataConnected 0).encode ||| (ddr.getD 0 0 &&& 0x03))
    (ddr.drop 1)

/-- The parser drops the control byte of an empty unit; it is read again here. -/
def parseProbeCemi (raw : List UInt8) : Result CemiFrame := do
  let frame ← CemiFrame.parse raw
  if frame.dataLength = 0 ∧ frame.tpci = 0 then do
    let aiLen ← index raw 1
    let ext := if frame.extendedControlField.isSome then 1 else 0
    let tpciIdx := 2 + aiLen.toNat + 2 + ext + 4 + 1
    .ok { frame with tpci := raw.getD tpciIdx frame.tpci }
  else .ok frame

def classifyCemi (frame : CemiFrame) : ProbeSignal :=
  if frame.tpci &&& 0x03 = 0x03 ∧ (frame.apciData.head?.any fun b ↦ b &&& 0xC0 = 0x40) then .occupied
  else if TpciFrame.decode frame.tpci = .disconnect then .occupied
  else .other

def candidateAddresses (area line : UInt8) : List IndividualAddress :=
  (List.range' 240 15).map fun device ↦ .new area line (UInt8.ofNat device)

end Knust.Protocol
