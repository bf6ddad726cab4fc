import Knust.Transport.AddressProbe

namespace Knust.Transport.Client

open Foundation Protocol Security

def Reference.tunnel : Tunnel := .newUdp "192.168.1.20:3671"

variable (tunnel : Tunnel)

def addressUnavailable (addr : IndividualAddress) : KnxError :=
  .transport (.invalidConfiguration (s!"Configured individual address {addr.toString} " ++
    "is not available (already claimed or known-occupied)"))

def routeBackRequest : TransportKind → ConnectRequest
  | .udp => .newRouteBack
  | .tcp => .newTcpRouteBack

def mayRequest (addr : IndividualAddress) : Handler Bool :=
  if tunnel.addressManaged then perform (.isAvailable addr) else pure true

def connectRequest : Handler ConnectRequest := do
  let request := routeBackRequest tunnel.kind
  match tunnel.configuredAddress with
  | none => pure request
  | some addr => do
    if ← mayRequest tunnel addr then
      pure { request with cri := { request.cri with individualAddress := some addr } }
    else .done (.err (addressUnavailable addr))

def parseConnectResponse (data : List UInt8) : Result (UInt8 × Option IndividualAddress) := do
  let frame ← KnxIpFrame.parse data
  if frame.header.serviceType ≠ .connectResponse then
    .err (.transport (.invalidConfiguration
      s!"Expected ConnectResponse, got {frame.header.serviceType.toString}"))
  else do
    let response ← ConnectResponse.parse frame.body
    if response.isSuccess then .ok (response.channelId, response.assignedAddress)
    else .err (.transport (.connectionFailed tunnel.gatewayAddr
      ⟨"ConnectionRefused", response.errorMessage.getD
        s!"Gateway rejected connection: 0x{hex 2 response.status.toNat}"⟩))

def sendConnectRequest : Handler (UInt8 × Option IndividualAddress) := do
  let request ← connectRequest tunnel
  sendFrame (KnxIpFrame.new .connectRequest request.serialize).serialize
  match ← recvFrameWithin tunnel.connectionTimeoutMs with
  | none => .done (.err (.transport (.timeout tunnel.connectionTimeoutMs)))
  | some data => .done (parseConnectResponse tunnel data)

/-- The configured address, the assigned one, or one found by probing. Then no area
and line are known, and both are taken as zero. -/
def finalAddress (frames : ℕ) (assignedAddress : Option IndividualAddress) :
    Handler IndividualAddress :=
  match tunnel.configuredAddress, assignedAddress with
  | some configured, _ => pure configured
  | none, some assigned => pure assigned
  | none, none => autoSelectAddress tunnel frames 0 0

def finishConnect (frames : ℕ) (channelId : UInt8) (assignedAddress : Option IndividualAddress) :
    Handler Unit := do
  perform (.openChannel channelId)
  -- A failure from here on leaves the channel open and the tunnel connected.
  if tunnel.addressManaged then do
    let addr ← finalAddress tunnel frames assignedAddress
    .done (← perform (.claim addr))
    perform (.setAddress addr)
  else pure ()

def openTunnel (frames : ℕ) (result : Except KnxError (UInt8 × Option IndividualAddress)) :
    Handler Unit := do
  match result with
  | .ok (channelId, assignedAddress) => finishConnect tunnel frames channelId assignedAddress
  | .error e => do
    perform (.setState .failed)
    perform (.recordConnectionError e)
    .done (.err e)

def connect (frames : ℕ) : Handler Unit := do
  perform (.setState .connecting)
  let result ← Task.attempt do
    .done (← perform .establishTransport)
    sendConnectRequest tunnel
  openTunnel tunnel frames result

def leaveChannel (frames : ℕ) : Handler Unit := do
  if (← perform .channelId) ≠ 0 then
    let _ ← Task.attempt (sendDisconnectRequest tunnel frames)

def disconnect (frames : ℕ) : Handler Unit := do
  perform (.setState .disconnecting)
  leaveChannel tunnel frames
  perform .closeChannel
  if tunnel.addressManaged then perform .releaseAddress

section

variable (P : Primitives) (security : SecurityConfig)

def sessionConfig : SessionConfig where
  userId := 1
  userPassword := security.userPassword.getD ""
  deviceAuthPassword := some security.deviceAuthPassword

def timedOut {α : Type} : Result α := .err (.transport (.timeout tunnel.connectionTimeoutMs))

def recvHandshake : Handler (List UInt8) := do
  match ← perform (.readWithin tunnel.connectionTimeoutMs) with
  | none => .done (timedOut tunnel)
  | some raw => rethrow raw

def sessionRequestFrame (publicKey : Block 32) : List UInt8 :=
  [0x06, 0x10, 0x09, 0x51, 0x00, 0x2E] ++ tunnel.localHpai.serialize ++ publicKey.val

def authenticateFrame (userId : UInt8) (mac : List UInt8) : List UInt8 :=
  [0x06, 0x10, 0x09, 0x53, 0x00, 0x18] ++ [0x00, userId] ++ mac

def sessionResponseFields (data : List UInt8) : Result (UInt16 × Block 32 × List UInt8) :=
  if data.length < 56 then
    .err (.transport (.invalidConfiguration "SessionResponse too short"))
  else do
    -- The first six bytes are not looked at.
    let sessionId := u16OfBytes (← index data 6) (← index data 7)
    let serverPublicKey ← toBlock 32 (← slice data 8 40)
    let serverMac ← slice data 40 56
    .ok (sessionId, serverPublicKey, serverMac)

def sessionStatusCode (data : List UInt8) : Result UInt8 :=
  if data.length < 8 then .err (.transport (.invalidConfiguration "SessionStatus too short"))
  else index data 7

def awaitSessionStatus (session : SecureSession) : Handler SecureSession := do
  let statusCode ← .done (sessionStatusCode (← recvHandshake tunnel))
  let (completed, session) := session.completeAuthentication statusCode
  -- On failure the session is dropped with the error.
  .done completed
  pure session

def awaitSessionResponse (session : SecureSession) : Handler SecureSession := do
  let (sessionId, serverPublicKey, serverMac) ←
    .done (sessionResponseFields (← recvHandshake tunnel))
  let (authMac, session) := session.processSessionResponse P sessionId serverPublicKey serverMac
  let authMac ← .done authMac
  .done (← perform (.write (authenticateFrame (sessionConfig security).userId authMac)))
  awaitSessionStatus tunnel session

def secureHandshake : Handler SecureSession := do
  .done (← perform .establishTransport)
  let secret ← perform .generateSecret
  let (publicKey, session) :=
    (SecureSession.new P (sessionConfig security)).initializeSession P secret
  .done (← perform (.write (sessionRequestFrame tunnel publicKey)))
  awaitSessionResponse tunnel P security session

def connectOverSession (frames : ℕ) : Handler Unit := do
  perform (.setState .connecting)
  openTunnel tunnel frames (← Task.attempt (sendConnectRequest tunnel))

def connectSecure (frames : ℕ) : Handler Unit := do
  let session ← secureHandshake tunnel P security
  perform (.installSession session)
  connectOverSession tunnel frames

end

end Knust.Transport.Client
