import Knust.Transport.Tunnel

namespace Knust.Transport.Client

open Foundation Protocol

variable (tunnel : Tunnel)

def wrapCemi (rawCemi : List UInt8) : Handler (List UInt8) := do
  let channelId ← perform .channelId
  let sequence ← perform .nextSequence
  let request : TunnellingRequest := ⟨channelId, sequence, rawCemi⟩
  pure (KnxIpFrame.new .tunnellingRequest request.serialize).serialize

def probeTimeoutMs : ℕ := 6000

def acknowledgeProbe (request : TunnellingRequest) : Handler Unit := do
  if tunnel.sendAcks then
    let _ ← Task.attempt
      (sendTunnellingAck request.communicationChannelId request.sequenceCounter 0)

def probeFrame (data : List UInt8) : Handler Bool :=
  match KnxIpFrame.parse data with
  | .panic => .done .panic
  | .err _ => pure false
  | .ok frame =>
    if frame.header.serviceType ≠ .tunnellingRequest then pure false
    else match TunnellingRequest.parse frame.body with
      | .panic => .done .panic
      | .err _ => pure false
      | .ok request => do
        acknowledgeProbe tunnel request
        match parseProbeCemi request.rawCemi with
        | .panic => .done .panic
        | .err _ => pure false
        | .ok cemi => pure (classifyCemi cemi = .occupied)

def recvUntilSignal : ℕ → Handler Bool
  | 0 => pure false
  | frames + 1 => do
    match ← recvFrameWithin probeTimeoutMs with
    | none => pure false
    | some data => do
      if ← probeFrame tunnel data then pure true else recvUntilSignal frames

def probeAddress (frames : ℕ) (addr : IndividualAddress) : Handler Bool := do
  let src := IndividualAddress.broadcast
  sendFrame (← wrapCemi (buildTconnectCemi src addr))
  sendFrame (← wrapCemi (buildDdrCemi src addr))
  let occupied ← recvUntilSignal tunnel frames
  let disconnect ← wrapCemi (buildTdisconnectCemi src addr)
  let _ ← Task.attempt (sendFrame disconnect)
  pure occupied

def selectFrom (frames : ℕ) (area line : UInt8) :
    List IndividualAddress → ℕ → Handler IndividualAddress
  | [], probedCount => .done (.err (.transport (.invalidConfiguration
      (s!"No free individual address available in range {area}.{line}.240..={area}.{line}.254 " ++
        s!"(probed {probedCount} candidates)"))))
  | addr :: rest, probedCount => do
    if ← perform (.isAvailable addr) then do
      if ← probeAddress tunnel frames addr then selectFrom frames area line rest (probedCount + 1)
      else pure addr
    else selectFrom frames area line rest probedCount

def autoSelectAddress (frames : ℕ) (area line : UInt8) : Handler IndividualAddress :=
  selectFrom tunnel frames area line (candidateAddresses area line) 0

end Knust.Transport.Client
