import Knust.Protocol.Apci
import Knust.Protocol.Cemi
import Knust.Protocol.KnxIp

namespace Knust.Protocol

open Foundation

inductive TelegramType
  | groupValueRead
  | groupValueResponse
  | groupValueWrite
  deriving Repr, DecidableEq

inductive TelegramPriority
  | system
  | normal
  | urgent
  | low
  deriving Repr, DecidableEq

def TelegramPriority.ofCemi : Priority → TelegramPriority
  | .system => .system
  | .normal => .normal
  | .urgent => .urgent
  | .low => .low

inductive Direction
  | incoming
  | outgoing
  deriving Repr, DecidableEq

/-- The timestamp is the reading of a clock given by the environment. -/
structure Telegram where
  source : IndividualAddress
  destination : Address
  payload : List UInt8
  priority : TelegramPriority
  direction : Direction
  telegramType : TelegramType
  timestamp : ℕ
  deriving DecidableEq

namespace Telegram

def groupRead (now : ℕ) (destination : GroupAddress) : Telegram where
  source := .broadcast
  destination := .group destination
  payload := []
  priority := .normal
  direction := .outgoing
  telegramType := .groupValueRead
  timestamp := now

def groupWrite (now : ℕ) (destination : GroupAddress) (payload : List UInt8) : Telegram where
  source := .broadcast
  destination := .group destination
  payload := payload
  priority := .normal
  direction := .outgoing
  telegramType := .groupValueWrite
  timestamp := now

end Telegram

def telegramTypeOf : Option GroupValueService → TelegramType
  | some .read => .groupValueRead
  | some (.response _) => .groupValueResponse
  | some (.write _) | none => .groupValueWrite

/-- The decoder of client and server: what does not decode as a group service is
handed on as a write of the raw application data. -/
def parseCemiToTelegram (now : ℕ) (cemiData : List UInt8) : Result Telegram := do
  let cemiFrame ← CemiFrame.parse cemiData
  let service ← (GroupValueService.decode cemiFrame.tpci cemiFrame.apciData).toOption
  .ok { source := cemiFrame.sourceAddr
        destination := cemiFrame.destAddr
        payload := (service.bind GroupValueService.payload).getD cemiFrame.apciData
        priority := .ofCemi cemiFrame.controlField.priority
        direction := .incoming
        telegramType := telegramTypeOf service
        timestamp := now }

def groupServiceOf (telegram : Telegram) : GroupValueService :=
  if telegram.payload.isEmpty then .read else .write telegram.payload

def outgoingCemi (telegram : Telegram) (messageCode : MessageCode) : CemiFrame :=
  CemiFrame.new messageCode telegram.source telegram.destination (groupServiceOf telegram).encode

def buildTunnellingFrameWithCode (telegram : Telegram) (channelId sequence : UInt8)
    (messageCode : MessageCode) : List UInt8 :=
  let request : TunnellingRequest :=
    ⟨channelId, sequence, (outgoingCemi telegram messageCode).serialize⟩
  (KnxIpFrame.new .tunnellingRequest request.serialize).serialize

/-- The connection that a telegram leaves on; a tunnel contributes its channel
and the sequence number it has just drawn. -/
inductive OutgoingConnection
  | tunnel (channelId nextSequence : UInt8)
  | routing
  deriving Repr, DecidableEq

def buildOutgoingFrameForConnection (telegram : Telegram) :
    OutgoingConnection → List UInt8
  | .tunnel channelId nextSequence =>
    let request : TunnellingRequest :=
      ⟨channelId, nextSequence, (outgoingCemi telegram .lDataReq).serialize⟩
    (KnxIpFrame.new .tunnellingRequest request.serialize).serialize
  | .routing =>
    (KnxIpFrame.new .routingIndication (outgoingCemi telegram .lDataReq).serialize).serialize

end Knust.Protocol
