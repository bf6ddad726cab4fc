import Knust.Transport.TunnelState

namespace Knust.Transport.Client

open Foundation Protocol Security

abbrev Handler (α : Type) := Task Command Command.Response KnxError α

abbrev Past := Task.History Command Command.Response

abbrev perform (c : Command) : Handler c.Response := Task.perform c

def connectionClosed : KnxError := .transport .connectionClosed

def rethrow {α : Type} : Except KnxError α → Handler α
  | .ok a => .done (.ok a)
  | .error e => .done (.err e)

def writeFrame (caller : Method) (frame : Handler (List UInt8)) : Handler Unit := do
  if ← perform (.transport caller) then do
    let data ← frame
    .done (← perform (.write data))
  else .done (.err connectionClosed)

def encode (frame : List UInt8) : Handler (List UInt8) := do
  match ← perform (.encryptFrame frame) with
  | some encrypted => .done encrypted
  | none => pure frame

def decode (raw : List UInt8) : Handler (List UInt8) := do
  match ← perform (.decryptFrame raw) with
  | some decrypted => .done decrypted
  | none => pure raw

def sendFrame (frame : List UInt8) : Handler Unit := do
  let result ← Task.attempt do
    if ← perform (.transport .sendFrame) then do
      let data ← encode frame
      .done (← perform (.write data))
    else .done (.err connectionClosed)
  match result with
  | .ok () => perform .recordSent
  | .error e => do
    perform (.recordSendError e)
    .done (.err e)

def received (raw : Except KnxError (List UInt8)) : Handler (List UInt8) := do
  match ← Task.attempt (do decode (← rethrow raw)) with
  | .ok data => do
    perform .recordReceived
    pure data
  | .error e => do
    perform (.recordReceiveError e)
    .done (.err e)

def recvFrame : Handler (List UInt8) := do
  if ← perform (.transport .recvFrame) then do received (← perform .read)
  else received (.error connectionClosed)

def recvFrameWithin (timeoutMs : ℕ) : Handler (Option (List UInt8)) := do
  if ← perform (.transport .recvFrame) then do
    match ← perform (.readWithin timeoutMs) with
    -- The future is dropped while it reads, before it can record anything.
    | none => pure none
    | some raw => do
      let data ← received raw
      pure (some data)
  else do
    let data ← received (.error connectionClosed)
    pure (some data)

def sendTunnellingAck (channelId sequence status : UInt8) : Handler Unit :=
  let ack : TunnellingAck := ⟨channelId, sequence, status⟩
  writeFrame .sendTunnellingAck
    (pure (KnxIpFrame.new .tunnellingAck ack.serialize).serialize)

variable (tunnel : Tunnel)

def channelRequest (serviceType : ServiceType) : Handler (List UInt8) := do
  let request : ChannelRequest := ⟨← perform .channelId, tunnel.localHpai⟩
  pure (KnxIpFrame.new serviceType request.serialize).serialize

def sendConnectionstateRequest : Handler Unit :=
  writeFrame .sendConnectionstateRequest (channelRequest tunnel .connectionstateRequest)

def disconnectRejected (response : DisconnectResponse) : KnxError :=
  .protocol (.invalidFrame s!"disconnect rejected: status 0x{hex 2 response.status.toNat}")

/-- The wait for the answer to a DisconnectRequest, for as many frames as arrive
before the deadline. -/
def awaitDisconnectResponse : ℕ → Handler Unit
  | 0 => pure ()
  | frames + 1 => do
    match ← perform (.readWithin 1000) with
    | some (.ok data) =>
      match KnxIpFrame.parse data with
      | .panic => .done .panic
      -- What cannot be parsed and what is not the answer is skipped.
      | .err _ => awaitDisconnectResponse frames
      | .ok frame =>
        if frame.header.serviceType = .disconnectResponse then
          match DisconnectResponse.parse frame.body with
          | .panic => .done .panic
          | .err _ => pure ()
          | .ok response =>
            if response.isSuccess then pure () else .done (.err (disconnectRejected response))
        else awaitDisconnectResponse frames
    | _ => pure ()

def sendDisconnectRequest (frames : ℕ) : Handler Unit := do
  writeFrame .sendDisconnectRequest (channelRequest tunnel .disconnectRequest)
  awaitDisconnectResponse frames

def sendDisconnect (frames : ℕ) : Handler Unit := do
  if (← perform .channelId) = 0 then pure () else sendDisconnectRequest tunnel frames

def validateSequenceNumber (received : UInt8) : Handler SequenceValidationResult := do
  let expected ← perform .loadExpected
  if received = expected then do
    perform (.storeExpected (expected + 1))
    pure .valid
  else if received = expected - 1 then pure .duplicate
  else pure (.invalid expected received)

def connectionSend (frame : List UInt8) : Handler Unit := do
  if ← perform .isConnected then sendFrame frame
  else do
    perform (.recordSendError connectionClosed)
    .done (.err connectionClosed)

def connectionRecv : Handler (List UInt8) := do
  if ← perform .isConnected then recvFrame
  else do
    perform (.recordReceiveError connectionClosed)
    .done (.err connectionClosed)

def connectionRecvWithin (timeoutMs : ℕ) : Handler (Option (List UInt8)) := do
  if ← perform .isConnected then recvFrameWithin timeoutMs
  else do
    perform (.recordReceiveError connectionClosed)
    .done (.err connectionClosed)

def heartbeatAnswered (response : Option KnxIpFrame) : Result Bool :=
  match response with
  | none => .ok false
  | some frame =>
    match ConnectionstateResponse.parse frame.body with
    | .ok r => .ok (r.status = ChannelResponse.statusOk)
    | .err _ => .ok false
    | .panic => .panic

def heartbeat : Handler Bool := do
  perform .registerWaiter
  match ← Task.attempt (sendConnectionstateRequest tunnel) with
  | .error _ => perform .recordFailure
  | .ok () => do
    let response ← perform (.awaitResponse HeartbeatMonitor.timeoutMs)
    if ← .done (heartbeatAnswered response) then do
      perform .recordSuccess
      pure false
    else perform .recordFailure

def heartbeatLoop : ℕ → Handler Unit
  | 0 => pure ()
  | beats + 1 => do
    if ← perform .sleep then
      if ← heartbeat tunnel then pure () else heartbeatLoop beats
    else pure ()

def startHeartbeat (beats : ℕ) : Handler Unit := do
  if tunnel.useHeartbeat then do
    perform .startMonitor
    heartbeatLoop tunnel beats
  else pure ()

end Knust.Transport.Client
