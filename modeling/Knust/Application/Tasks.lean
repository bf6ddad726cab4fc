import Knust.Transport.Connect

namespace Knust.Application

open Foundation Protocol Transport Transport.Client

def enqueueCemi (cemiData : List UInt8) : Handler Unit := do
  let timestamp ← perform .now
  let telegram ← .done (parseCemiToTelegram timestamp cemiData)
  perform (.enqueueIncoming telegram)

/-- Every request is acknowledged, whether or not the tunnel asks for it, and a
failure to do so is only logged. -/
def handleTunnellingRequest (body : List UInt8) : Handler Unit := do
  let request ← .done (TunnellingRequest.parse body)
  let acknowledge (status : UInt8) : Handler Unit := do
    let _ ← Task.attempt
      (sendTunnellingAck request.communicationChannelId request.sequenceCounter status)
  match ← validateSequenceNumber request.sequenceCounter with
  | .valid => do
    acknowledge TunnellingAck.statusOk
    enqueueCemi request.rawCemi
  | .duplicate => acknowledge TunnellingAck.statusOk
  | .invalid _ _ => acknowledge TunnellingAck.statusErrorSequenceNumber

def handleDisconnectRequest (body : List UInt8) (currentChannelId : Option UInt8) :
    Handler Unit := do
  if body.length < 10 then pure ()
  else do
    let request ← .done (DisconnectRequest.parse body)
    let channelId := request.communicationChannelId
    if currentChannelId.all (· = channelId) then do
      perform (.control (.sendDisconnectResponse channelId))
      perform (.control (.tunnelLost channelId "DisconnectRequest received from server"))
    else pure ()

def handleDisconnectResponse (body : List UInt8) : Result Unit :=
  if body.length < 2 then .ok ()
  else do
    let _ ← DisconnectResponse.parse body
    .ok ()

def handleConnectionstateRequest (body : List UInt8) : Result Unit := do
  let _ ← ConnectionstateRequest.parse body
  .ok ()

def handleConnectionstateResponse (body : List UInt8) : Result Unit := do
  let _ ← ConnectionstateResponse.parse body
  .ok ()

def handleIncomingFrame (data : List UInt8) (currentChannelId : Option UInt8) :
    Handler Bool := do
  let frame ← .done (KnxIpFrame.parse data)
  match frame.header.serviceType with
  | .tunnellingRequest => do
    handleTunnellingRequest frame.body
    pure true
  | .routingIndication => do
    enqueueCemi frame.body
    pure true
  | .disconnectRequest => do
    handleDisconnectRequest frame.body currentChannelId
    pure true
  | .disconnectResponse => do
    .done (handleDisconnectResponse frame.body)
    pure true
  | .connectionstateRequest => do
    .done (handleConnectionstateRequest frame.body)
    pure true
  | .connectionstateResponse => do
    .done (handleConnectionstateResponse frame.body)
    pure true
  | .connectRequest | .connectResponse => pure true
  | _ => pure false

def receivingTask : ℕ → Handler Unit
  | 0 => pure ()
  | rounds + 1 => do
    if ← perform .isShutdown then perform .closeQueue
    else match ← Task.attempt (connectionRecvWithin 100) with
      -- Any error of the connection ends the task, one of a single frame included.
      | .error _ => perform .closeQueue
      | .ok none => do
        if ← perform .isShutdown then perform .closeQueue else receivingTask rounds
      | .ok (some data) => do
        -- Without memory the frame is dropped unacknowledged.
        if ← perform (.allocate data.length) then do
          let currentChannelId ← perform .knxChannelId
          let _ ← Task.attempt (handleIncomingFrame data currentChannelId)
          receivingTask rounds
        else receivingTask rounds

def sendTelegram (telegram : Telegram) : Handler Unit := do
  let channelId ← perform .channelId
  let sequence ← perform .nextSequence
  connectionSend (buildOutgoingFrameForConnection telegram (.tunnel channelId sequence))

def sendingTask : ℕ → Handler Unit
  | 0 => pure ()
  | telegrams + 1 => do
    if ← perform .isDrained then pure ()
    else match ← perform .dequeueOutgoing with
      | none => pure ()
      | some telegram => do
        -- A telegram that cannot be sent is dropped with a log entry.
        let _ ← Task.attempt (sendTelegram telegram)
        sendingTask telegrams

variable (tunnel : Tunnel)

def answerDisconnectRequest (channelId : UInt8) : Handler Unit := do
  let response : DisconnectResponse := ⟨channelId, ChannelResponse.statusOk⟩
  let _ ← Task.attempt
    (connectionSend (KnxIpFrame.new .disconnectResponse response.serialize).serialize)
  perform .clearKnxChannelId

def closeConnection (frames : ℕ) : Handler Unit := do
  if ← perform .takeConnection then do
    let _ ← Task.attempt (sendDisconnect tunnel frames)

/-- The control task, as far as it concerns the connection it was started with,
for a given number of rounds. A reconnection makes a new tunnel. -/
def controlTask (autoReconnect : Bool) (frames : ℕ) : ℕ → Handler Unit
  | 0 => pure ()
  | rounds + 1 => do
    match ← perform .receiveControl with
    | some (.sendDisconnectResponse channelId) => do
      answerDisconnectRequest channelId
      controlTask autoReconnect frames rounds
    | some (.tunnelLost _ _) => do
      closeConnection tunnel frames
      if autoReconnect then controlTask autoReconnect frames rounds else pure ()
    | none => do
      if ← perform .isShutdown then pure () else controlTask autoReconnect frames rounds

/-- What is done with a tunnel once its transport may be used. The numbers bound
the frames that arrive before a deadline and the rounds of a loop. -/
inductive Activity
  | connect (frames : ℕ)
  | disconnect (frames : ℕ)
  | sendDisconnect (frames : ℕ)
  | sendFrame (frame : List UInt8)
  | recvFrame
  | send (frame : List UInt8)
  | recv
  | sendTunnellingAck (channelId sequence status : UInt8)
  | sendConnectionstateRequest
  | heartbeat (beats : ℕ)
  | probe (frames : ℕ) (addr : IndividualAddress)
  | receiving (rounds : ℕ)
  | sending (telegrams : ℕ)
  | control (autoReconnect : Bool) (frames rounds : ℕ)

def program : Activity → Handler Unit
  | .connect frames => connect tunnel frames
  | .disconnect frames => disconnect tunnel frames
  | .sendDisconnect frames => sendDisconnect tunnel frames
  | .sendFrame frame => sendFrame frame
  | .recvFrame => do
    let _ ← recvFrame
  | .send frame => connectionSend frame
  | .recv => do
    let _ ← connectionRecv
  | .sendTunnellingAck channelId sequence status => sendTunnellingAck channelId sequence status
  | .sendConnectionstateRequest => sendConnectionstateRequest tunnel
  | .heartbeat beats => startHeartbeat tunnel beats
  | .probe frames addr => do
    let _ ← probeAddress tunnel frames addr
  | .receiving rounds => receivingTask rounds
  | .sending telegrams => sendingTask telegrams
  | .control autoReconnect frames rounds => controlTask tunnel autoReconnect frames rounds

abbrev Step := Record Command Command.Response State

end Knust.Application
