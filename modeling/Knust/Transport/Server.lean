import Knust.Security.Handshake
import Knust.Transport.ServerState

namespace Knust.Transport.Server

open Foundation Protocol Security

abbrev Handler (α : Type) := Task Command Command.Response KnxError α

abbrev Past := Task.History Command Command.Response

abbrev perform (c : Command) : Handler c.Response := Task.perform c

def rethrow {α : Type} : Except KnxError α → Handler α
  | .ok a => .done (.ok a)
  | .error e => .done (.err e)

def sendFrame (link : ClientLink) (frame : List UInt8) : Handler Unit := do
  .done (← perform (.sendFrame link frame))

def maybeEncrypt (frame : List UInt8) (peer : SocketAddr) : Handler (List UInt8) := do
  match ← perform (.getRecipient peer) with
  | some entry => .done (← perform (.encryptFrame entry frame))
  | none => pure frame

def sendReply (serviceType : ServiceType) (body : List UInt8) (link : ClientLink) :
    Handler Unit := do
  let frame := (KnxIpFrame.new serviceType body).serialize
  let frame ← maybeEncrypt frame link.peerAddr
  sendFrame link frame

def resolveLink (hpai : Hpai) : ClientLink → ClientLink
  | .udp peerAddr => .udp (if hpai.port = 0 then peerAddr else hpai.socketAddr)
  | .tcp transport peerAddr => .tcp transport peerAddr

def buildTunnelCrd (addr : IndividualAddress) : List UInt8 :=
  [4, ConnectionRequestInfo.tunnelConnection] ++ u16Bytes addr.raw

variable (P : Primitives) (server : TunnelServer)

def handleSessionRequest (body : List UInt8) (link : ClientLink) : Handler Unit := do
  match server.secureConfig with
  | none => pure ()
  | some security => do
    let request ← .done (SessionRequest.parse body)
    let secret ← perform .generateSecret
    let (publicKey, session) := (SecureSession.new P security).initializeSession P secret
    -- The counter is advanced even if the request fails later on.
    let sessionId ← perform .fetchSecureSessionId
    let (macVec, session) := session.processSessionRequest P request.publicKey sessionId
    let mac ← .done (macVec >>= toBlock 16)
    let response : SessionResponse := { sessionId, publicKey, mac }
    sendFrame link (KnxIpFrame.new .sessionResponse response.serialize).serialize
    perform (.insertSecureSession link.peerAddr
      { session, clientPublicKey := request.publicKey })

def handleSessionAuthenticate (body : List UInt8) (link : ClientLink) : Handler Unit := do
  let auth ← .done (SessionAuthenticate.parse body)
  match ← perform (.getSecureSession link.peerAddr) with
  | none => pure ()
  | some entry => do
    let verified ← .done (← perform (.verifyAuthenticateMac entry auth.userId auth.mac.val))
    let response : SessionStatus :=
      ⟨if verified then SessionStatus.statusOk else SessionStatus.statusAuthFailed⟩
    sendFrame link (KnxIpFrame.new .sessionStatus response.serialize).serialize
    if verified then pure () else perform (.removeSecureSession link.peerAddr)

def handleConnectRequest (body : List UInt8) (link : ClientLink) : Handler (Option UInt8) := do
  let request ← .done (ConnectRequest.parse body)
  let link := resolveLink request.dataEndpoint link
  -- From here on the link is the one that the client names in its request.
  match ← perform (.openSession link) with
  | some channelId => do
    let response : ConnectResponse :=
      { channelId
        status := ConnectResponse.statusOk
        dataEndpoint := Hpai.new server.localAddr
        crd := buildTunnelCrd server.individualAddress
        assignedAddress := some server.individualAddress }
    sendReply .connectResponse response.serialize link
    pure (some channelId)
  | none => do
    let response : ConnectResponse :=
      { channelId := 0
        status := ConnectResponse.statusErrorNoMoreConnections
        dataEndpoint := Hpai.new server.localAddr
        crd := []
        assignedAddress := none }
    let sent ← Task.attempt (sendReply .connectResponse response.serialize link)
    -- The guard of the table is dropped on the way out, also after an error.
    perform .releaseSessions
    rethrow sent
    pure none

def validateRecvSeq (session : ClientSession) (received : UInt8) :
    Handler SequenceValidationResult := do
  let expected ← perform (.loadRecvSeq session.cells)
  if received = expected then do
    perform (.storeRecvSeq session.cells (expected + 1))
    pure .valid
  else if received = expected - 1 then pure .duplicate
  else pure (.invalid expected received)

def handleTunnellingRequest (body : List UInt8) : Handler Unit := do
  let request ← .done (TunnellingRequest.parse body)
  match ← perform (.getSession request.communicationChannelId) with
  | none => pure ()
  | some session => do
    perform (.touch session.cells)
    let ok := TunnellingAck.newOk request.communicationChannelId request.sequenceCounter
    match ← validateRecvSeq session request.sequenceCounter with
    | .valid => do
      -- The counter has moved already, so a telegram is lost if this fails.
      sendReply .tunnellingAck ok.serialize session.link
      let timestamp ← perform .now
      match ← Task.attempt (.done (parseCemiToTelegram timestamp request.rawCemi)) with
      | .ok telegram => perform (.publish telegram)
      | .error _ => pure ()
    | .duplicate => sendReply .tunnellingAck ok.serialize session.link
    | .invalid _ _ =>
      let ack :=
        TunnellingAck.newSequenceError request.communicationChannelId request.sequenceCounter
      sendReply .tunnellingAck ack.serialize session.link

def handleTunnellingAck (body : List UInt8) : Handler Unit := do
  let ack ← .done (TunnellingAck.parse body)
  match ← perform (.getSession ack.communicationChannelId) with
  | none => pure ()
  | some session => do
    match ← perform (.takePendingAck session.cells) with
    | none => pure ()
    | some channel => perform (.deliverAck channel ack)

def handleConnectionstateRequest (body : List UInt8) (link : ClientLink) : Handler Unit := do
  let request ← .done (ConnectionstateRequest.parse body)
  let (status, replyLink) :=
    match ← perform (.touchSession request.communicationChannelId) with
    | some session => (ChannelResponse.statusOk, session.link)
    | none => (ConnectResponse.statusErrorConnectionId, link)
  let response : ConnectionstateResponse := ⟨request.communicationChannelId, status⟩
  sendReply .connectionstateResponse response.serialize replyLink

def handleDisconnectRequest (body : List UInt8) (link : ClientLink) : Handler Unit := do
  let request ← .done (DisconnectRequest.parse body)
  let removed ← perform (.removeSession request.communicationChannelId)
  let replyLink := (removed.map ClientSession.link).getD link
  -- The session is gone before the answer is prepared.
  perform (.removeSecureSession replyLink.peerAddr)
  let response : DisconnectResponse := ⟨request.communicationChannelId, ChannelResponse.statusOk⟩
  sendReply .disconnectResponse response.serialize replyLink

def dispatchPlainFrame (frame : KnxIpFrame) (link : ClientLink) (wasEncrypted : Bool) :
    Handler (Option UInt8) :=
  if server.secureConfig.isSome && !wasEncrypted then pure none
  else match frame.header.serviceType with
    | .connectRequest => handleConnectRequest server frame.body link
    | .tunnellingRequest => do
      handleTunnellingRequest frame.body
      pure none
    | .tunnellingAck => do
      handleTunnellingAck frame.body
      pure none
    | .connectionstateRequest => do
      handleConnectionstateRequest frame.body link
      pure none
    | .disconnectRequest => do
      handleDisconnectRequest frame.body link
      pure none
    | _ => pure none

def handleSecureWrapper (data : List UInt8) (link : ClientLink) : Handler (Option UInt8) := do
  match ← perform (.getSecureSession link.peerAddr) with
  | none => pure none
  | some entry => do
    if ← perform (.isAuthenticated entry) then do
      let decrypted ← .done (← perform (.decryptFrame entry data))
      let inner ← .done (KnxIpFrame.parse decrypted)
      dispatchPlainFrame server inner link true
    else pure none

def handleFrame (data : List UInt8) (link : ClientLink) : Handler (Option UInt8) := do
  let frame ← .done (KnxIpFrame.parse data)
  match frame.header.serviceType with
  | .sessionRequest => do
    handleSessionRequest P server frame.body link
    pure none
  | .sessionAuthenticate => do
    handleSessionAuthenticate frame.body link
    pure none
  | .secureWrapper => handleSecureWrapper server data link
  | _ => dispatchPlainFrame server frame link false

def sendAttempts (session : ClientSession) (seq : UInt8) (frame : List UInt8) : ℕ → Handler Unit
  | 0 => .done (.err (.transport (.timeout ackTimeoutMs)))
  | attempts + 1 => do
    let channel ← perform (.expectAck session.cells)
    sendFrame session.link frame
    match ← perform (.awaitAck channel) with
    | some ack =>
      if ack.statusCode = TunnellingAck.statusOk then perform (.storeSendSeq session.cells (seq + 1))
      else .done (.err (.transport (.invalidConfiguration "client rejected TunnellingRequest")))
    | none => sendAttempts session seq frame attempts

def sendLocked (session : ClientSession) (telegram : Telegram) : Handler Unit := do
  let seq ← perform (.loadSendSeq session.cells)
  let frame := buildTunnellingFrameWithCode telegram session.channelId seq .lDataInd
  let frame ← maybeEncrypt frame session.link.peerAddr
  sendAttempts session seq frame 2

def sendToSession (session : ClientSession) (telegram : Telegram) : Handler Unit := do
  perform (.lockSend session.cells)
  let result ← Task.attempt (sendLocked session telegram)
  perform (.unlockSend session.cells)
  rethrow result

def sendAll (telegram : Telegram) : List ClientSession → Handler Unit
  | [] => pure ()
  | session :: sessions => do
    match ← Task.attempt (sendToSession session telegram) with
    | .ok () => sendAll telegram sessions
    | .error _ => do
      let _ ← perform (.removeSession session.channelId)
      sendAll telegram sessions

def send (telegram : Telegram) : Handler Unit := do
  sendAll telegram (← perform .allSessions)

/-- The loop over the datagrams that arrive, cut off to the receive buffer. An
abort of the handler ends it. -/
def dispatchLoop : List (SocketAddr × List UInt8) → Handler Unit
  | [] => pure ()
  | (peer, data) :: datagrams => do
    if ← perform .isShutdown then pure ()
    else if ← perform (.recvFrom peer (data.take 1024)) then do
      let _ ← Task.attempt (handleFrame P server (data.take 1024) (.udp peer))
      dispatchLoop datagrams
    else pure ()

/-- The loop over the frames that arrive on one stream before it fails, with the
channel to clean up. -/
def streamLoop (transport : ℕ) (peer : SocketAddr) :
    List (List UInt8) → Option UInt8 → Handler (Option UInt8)
  | [], assigned => do
    perform (.streamClosed transport peer)
    pure assigned
  | data :: frames, assigned => do
    if ← perform .isShutdown then do
      perform (.streamClosed transport peer)
      pure assigned
    else do
      perform (.recvFrame transport peer data)
      match ← Task.attempt (handleFrame P server data (.tcp transport peer)) with
      | .ok (some id) => streamLoop transport peer frames (some id)
      | .ok none | .error _ => streamLoop transport peer frames assigned

def serveStream (transport : ℕ) (peer : SocketAddr) (frames : List (List UInt8)) :
    Handler Unit := do
  match ← streamLoop P server transport peer frames none with
  | some id => do
    let _ ← perform (.removeSession id)
    perform (.removeSecureSession peer)
  | none => perform (.removeSecureSession peer)

def sweepLoop : ℕ → Handler Unit
  | 0 => pure ()
  | sweeps + 1 => do
    if ← perform .sleep then
      if ← perform .isShutdown then pure ()
      else do
        match ← perform .staleSessions with
        | [] => sweepLoop sweeps
        | stale => do
          perform (.removeSessions stale)
          sweepLoop sweeps
    else pure ()

/-- What happens to a running server besides datagrams and sweeps. -/
inductive Activity
  | accept (transport : ℕ) (peer : SocketAddr) (frames : List (List UInt8))
  | send (telegram : Telegram)
  | shutdown

def program : Activity → Handler Unit
  | .accept transport peer frames => do
    if ← perform .isShutdown then pure () else serveStream P server transport peer frames
  | .send telegram => send telegram
  | .shutdown => perform .requestShutdown

def start (datagrams : List (SocketAddr × List UInt8)) (sweeps : ℕ) :
    Config Command Command.Response State KnxError :=
  ⟨.bound, [dispatchLoop P server datagrams, sweepLoop sweeps], []⟩

abbrev Step := Record Command Command.Response State

/-- A run: the datagrams, the number of sweeps and the order of the moves are
arbitrary. -/
def run (datagrams : List (SocketAddr × List UInt8)) (sweeps : ℕ)
    (moves : List (Move Activity Env)) : Config Command Command.Response State KnxError :=
  (start P server datagrams sweeps).run (exec P) (program P server) moves

namespace Reference

open Security.Reference (primitives config client clientSecret serverSecret)

def peer : SocketAddr := .v4 ⟨[192, 168, 1, 10], rfl⟩ 3671

def secureServer : TunnelServer where
  localAddr := .v4 ⟨[192, 168, 1, 20], rfl⟩ 3671
  individualAddress := ⟨0x1101⟩
  secureConfig := some config

def sessionRequest : List UInt8 :=
  let request : SessionRequest := ⟨.routeBack, primitives.x25519Public clientSecret⟩
  (KnxIpFrame.new .sessionRequest request.serialize).serialize

def sessionAuthenticate : List UInt8 :=
  match client.generateAuthenticateMac primitives (primitives.x25519Public serverSecret) with
  | .ok mac => (KnxIpFrame.new .sessionAuthenticate ([0x00, client.userId] ++ mac)).serialize
  | _ => []

def wrapped (n : UInt64) (serviceType : ServiceType) (body : List UInt8) : List UInt8 :=
  (SecureSession.sealedWrapper primitives client.sessionKey.key client.sessionId
    (SecureSession.sequenceBytes n) (KnxIpFrame.new serviceType body).serialize).bytes

def datagrams : List (SocketAddr × List UInt8) :=
  [sessionRequest, sessionAuthenticate,
    wrapped 0 .connectRequest ConnectRequest.newRouteBack.serialize,
    wrapped 1 .disconnectRequest (ChannelRequest.serialize ⟨1, .routeBack⟩)].map
      fun data ↦ (peer, data)

def steps (n : ℕ) : List (Move Activity Env) :=
  List.replicate n (.resume 0 { secret := serverSecret })

end Reference

end Knust.Transport.Server
