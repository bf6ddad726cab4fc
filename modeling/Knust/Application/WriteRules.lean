import Knust.Application.Handling

namespace Knust.Application

open Foundation Foundation.Task Protocol Security Transport Transport.Client

/-- The methods that write to the transport past the secure session. -/
def bypasses : Method → Bool
  | .sendTunnellingAck | .sendConnectionstateRequest | .sendDisconnectRequest => true
  | .sendFrame | .recvFrame => false

/-- A task may write what it has encrypted, what it found no session to encrypt
with, and anything in a method that bypasses the session. -/
def Writable (h : History Command Command.Response) (frame : List UInt8) : Prop :=
  (∃ plain, ⟨.encryptFrame plain, some (.ok frame)⟩ ∈ h) ∨
    (∃ plain, ⟨.encryptFrame plain, none⟩ ∈ h) ∨
    ∃ caller found, bypasses caller = true ∧ ⟨.transport caller, found⟩ ∈ h

theorem Writable.cons {h : Past} {frame : List UInt8} (hw : Writable h frame)
    (e : (c : Command) × c.Response) : Writable (e :: h) frame := by
  rcases hw with ⟨plain, hw⟩ | ⟨plain, hw⟩ | ⟨caller, found, hb, hw⟩
  · exact .inl ⟨plain, List.mem_cons_of_mem _ hw⟩
  · exact .inr (.inl ⟨plain, List.mem_cons_of_mem _ hw⟩)
  · exact .inr (.inr ⟨caller, found, hb, List.mem_cons_of_mem _ hw⟩)

def writeRule (h : History Command Command.Response) : Command → Prop
  | .write frame => Writable h frame
  | _ => True

theorem obeys_bypassing {α : Type} {caller : Method} (hb : bypasses caller = true) (found : Bool)
    (h : Past) (p : Handler α) :
    p.Obeys writeRule (fun _ _ ↦ True) (⟨.transport caller, found⟩ :: h) := by
  refine (Obeys.unrestricted (A := fun h ↦ ∀ frame, Writable h frame) ?_ ?_ ?_ p).mono
    fun _ _ _ ↦ trivial
  · intro h c ha
    cases c with
    | write frame => exact ha frame
    | _ => trivial
  · exact fun h e ha frame ↦ (ha frame).cons e
  · exact fun frame ↦ .inr (.inr ⟨caller, found, hb, List.mem_cons_self⟩)

theorem follows_writeFrame {caller : Method} (hb : bypasses caller = true)
    (frame : Handler (List UInt8)) : (writeFrame caller frame).Follows writeRule :=
  fun h ↦ ⟨trivial, fun found ↦ obeys_bypassing hb found h _⟩

theorem follows_sendFrame (frame : List UInt8) : (Client.sendFrame frame).Follows writeRule := by
  refine Client.follows_sendFrame (fun _ ↦ trivial) (fun _ ↦ trivial) ?_ (fun _ ↦ trivial)
    fun _ _ ↦ trivial
  rintro data encrypted h (rfl | rfl)
  · exact .inl ⟨frame, List.mem_cons_self⟩
  · exact .inr (.inl ⟨frame, List.mem_cons_self⟩)

theorem writeRule_of_isReading (c : Command) (hc : c.isReading = true) (h : Past) :
    writeRule h c := by
  cases c <;> trivial

theorem follows_sendTunnellingAck (channelId sequence status : UInt8) :
    (Client.sendTunnellingAck channelId sequence status).Follows writeRule :=
  follows_writeFrame rfl _

variable (tunnel : Tunnel)

theorem follows_sendConnectionstateRequest :
    (Client.sendConnectionstateRequest tunnel).Follows writeRule :=
  follows_writeFrame rfl _

theorem follows_sendDisconnect (frames : ℕ) :
    (Client.sendDisconnect tunnel frames).Follows writeRule := by
  refine .bind (.perform fun _ ↦ trivial) fun channelId ↦ ?_
  show Follows _ (ite _ _ _)
  split
  · exact .done _
  · exact fun h ↦ ⟨trivial, fun found ↦ obeys_bypassing rfl found h _⟩

theorem follows_connectionSend (frame : List UInt8) :
    (connectionSend frame).Follows writeRule := by
  refine .bind (.perform fun _ ↦ trivial) fun connected ↦ ?_
  cases connected with
  | false => exact .bind (.perform fun _ ↦ trivial) fun _ ↦ .done _
  | true => exact follows_sendFrame frame

theorem follows_connectionRecv : connectionRecv.Follows writeRule := by
  refine .bind (.perform fun _ ↦ trivial) fun connected ↦ ?_
  cases connected with
  | false => exact .bind (.perform fun _ ↦ trivial) fun _ ↦ .done _
  | true => exact follows_recvFrame writeRule_of_isReading

theorem follows_heartbeat : (heartbeat tunnel).Follows writeRule := by
  refine .bind (.perform fun _ ↦ trivial) fun _ ↦
    .bind (.attempt (follows_sendConnectionstateRequest tunnel)) fun sent ↦ ?_
  cases sent with
  | error e => exact .perform fun _ ↦ trivial
  | ok _ =>
    refine .bind (.perform fun _ ↦ trivial) fun response ↦ .bind (.done _) fun answered ↦ ?_
    cases answered with
    | false => exact .perform fun _ ↦ trivial
    | true => exact .bind (.perform fun _ ↦ trivial) fun _ ↦ .done _

theorem follows_heartbeatLoop (beats : ℕ) : (heartbeatLoop tunnel beats).Follows writeRule := by
  induction beats with
  | zero => exact .done _
  | succ beats ih =>
    refine .bind (.perform fun _ ↦ trivial) fun awake ↦ ?_
    cases awake with
    | false => exact .done _
    | true =>
      refine .bind (follows_heartbeat tunnel) fun lost ↦ ?_
      cases lost with
      | true => exact .done _
      | false => exact ih

theorem follows_startHeartbeat (beats : ℕ) : (startHeartbeat tunnel beats).Follows writeRule := by
  unfold startHeartbeat
  split
  · exact .bind (.perform fun _ ↦ trivial) fun _ ↦ follows_heartbeatLoop tunnel beats
  · exact .done _

theorem follows_wrapCemi (rawCemi : List UInt8) : (wrapCemi rawCemi).Follows writeRule :=
  .bind (.perform fun _ ↦ trivial) fun _ ↦ .bind (.perform fun _ ↦ trivial) fun _ ↦ .done _

theorem follows_acknowledgeProbe (request : TunnellingRequest) :
    (acknowledgeProbe tunnel request).Follows writeRule := by
  unfold acknowledgeProbe
  split
  · exact .bind (.attempt (follows_sendTunnellingAck _ _ _)) fun _ ↦ .done _
  · exact .done _

theorem follows_probeFrame (data : List UInt8) : (probeFrame tunnel data).Follows writeRule := by
  unfold probeFrame
  cases KnxIpFrame.parse data with
  | panic => exact .done _
  | err e => exact .done _
  | ok frame =>
    show Follows _ (ite _ _ _)
    split
    · exact .done _
    cases TunnellingRequest.parse frame.body with
    | panic => exact .done _
    | err e => exact .done _
    | ok request =>
      refine .bind (follows_acknowledgeProbe tunnel request) fun _ ↦ ?_
      cases parseProbeCemi request.rawCemi <;> exact .done _

theorem follows_recvUntilSignal (frames : ℕ) :
    (recvUntilSignal tunnel frames).Follows writeRule := by
  induction frames with
  | zero => exact .done _
  | succ frames ih =>
    refine .bind (follows_recvFrameWithin writeRule_of_isReading _) fun data ↦ ?_
    cases data with
    | none => exact .done _
    | some data =>
      refine .bind (follows_probeFrame tunnel data) fun occupied ↦ ?_
      cases occupied with
      | true => exact .done _
      | false => exact ih

theorem follows_probeAddress (frames : ℕ) (addr : IndividualAddress) :
    (probeAddress tunnel frames addr).Follows writeRule := by
  refine .bind (follows_wrapCemi _) fun _ ↦ .bind (follows_sendFrame _) fun _ ↦
    .bind (follows_wrapCemi _) fun _ ↦ .bind (follows_sendFrame _) fun _ ↦
    .bind (follows_recvUntilSignal tunnel frames) fun _ ↦ .bind (follows_wrapCemi _) fun _ ↦
    .bind (.attempt (follows_sendFrame _)) fun _ ↦ .done _

theorem follows_selectFrom (frames : ℕ) (area line : UInt8) (candidates : List IndividualAddress)
    (probedCount : ℕ) :
    (selectFrom tunnel frames area line candidates probedCount).Follows writeRule := by
  induction candidates generalizing probedCount with
  | nil => exact .done _
  | cons addr rest ih =>
    refine .bind (.perform fun _ ↦ trivial) fun available ↦ ?_
    cases available with
    | false => exact ih _
    | true =>
      refine .bind (follows_probeAddress tunnel frames addr) fun occupied ↦ ?_
      cases occupied with
      | true => exact ih _
      | false => exact .done _

theorem follows_sendConnectRequest : (sendConnectRequest tunnel).Follows writeRule :=
  Client.follows_sendConnectRequest (fun _ _ ↦ trivial) follows_sendFrame writeRule_of_isReading
    tunnel

theorem follows_finalAddress (frames : ℕ) (assignedAddress : Option IndividualAddress) :
    (finalAddress tunnel frames assignedAddress).Follows writeRule := by
  unfold finalAddress
  split
  · exact .done _
  · exact .done _
  · exact follows_selectFrom tunnel frames 0 0 _ _

theorem follows_finishConnect (frames : ℕ) (channelId : UInt8)
    (assignedAddress : Option IndividualAddress) :
    (finishConnect tunnel frames channelId assignedAddress).Follows writeRule := by
  refine .bind (.perform fun _ ↦ trivial) fun _ ↦ ?_
  show Follows _ (ite _ _ _)
  split
  · exact .bind (follows_finalAddress tunnel frames assignedAddress) fun addr ↦
      .bind (.perform fun _ ↦ trivial) fun _ ↦ .bind (.done _) fun _ ↦ .perform fun _ ↦ trivial
  · exact .done _

theorem follows_openTunnel (frames : ℕ)
    (result : Except KnxError (UInt8 × Option IndividualAddress)) :
    (openTunnel tunnel frames result).Follows writeRule := by
  cases result with
  | ok r => exact follows_finishConnect tunnel frames r.1 r.2
  | error e =>
    exact .bind (.perform fun _ ↦ trivial) fun _ ↦ .bind (.perform fun _ ↦ trivial) fun _ ↦ .done _

theorem follows_connect (frames : ℕ) : (Client.connect tunnel frames).Follows writeRule :=
  .bind (.perform fun _ ↦ trivial) fun _ ↦ .bind (.attempt (.bind (.perform fun _ ↦ trivial)
    fun _ ↦ .bind (.done _) fun _ ↦ follows_sendConnectRequest tunnel))
    (follows_openTunnel tunnel frames)

theorem follows_connectOverSession (frames : ℕ) :
    (connectOverSession tunnel frames).Follows writeRule :=
  .bind (.perform fun _ ↦ trivial) fun _ ↦ .bind (.attempt (follows_sendConnectRequest tunnel))
    (follows_openTunnel tunnel frames)

theorem follows_disconnect (frames : ℕ) :
    (Client.disconnect tunnel frames).Follows writeRule := by
  refine .bind (.perform fun _ ↦ trivial) fun _ ↦
    .bind (.bind (.perform fun _ ↦ trivial) fun channelId ↦ ?_) fun _ ↦
    .bind (.perform fun _ ↦ trivial) fun _ ↦ ?_
  · show Follows _ (ite _ _ _)
    split
    · exact .bind (.attempt fun h ↦ ⟨trivial, fun found ↦ obeys_bypassing rfl found h _⟩)
        fun _ ↦ .done _
    · exact .done _
  · show Follows _ (ite _ _ _)
    split
    · exact .perform fun _ ↦ trivial
    · exact .done _

theorem receives_writeRule : Receives writeRule where
  load _ := trivial
  store _ _ := trivial
  transport _ := trivial
  write _ found _ := .inr (.inr ⟨.sendTunnellingAck, found, rfl, List.mem_cons_self⟩)
  now _ := trivial
  enqueue _ _ := trivial
  control _ _ := trivial
  listen c hc _ := by cases c <;> trivial

theorem follows_sendingTask (telegrams : ℕ) : (sendingTask telegrams).Follows writeRule := by
  induction telegrams with
  | zero => exact .done _
  | succ telegrams ih =>
    refine .bind (.perform fun _ ↦ trivial) fun drained ↦ ?_
    cases drained with
    | true => exact .done _
    | false =>
      refine .bind (.perform fun _ ↦ trivial) fun telegram ↦ ?_
      cases telegram with
      | none => exact .done _
      | some telegram =>
        exact .bind (.attempt (.bind (.perform fun _ ↦ trivial) fun _ ↦
          .bind (.perform fun _ ↦ trivial) fun _ ↦ follows_connectionSend _)) fun _ ↦ ih

theorem follows_controlTask (autoReconnect : Bool) (frames rounds : ℕ) :
    (controlTask tunnel autoReconnect frames rounds).Follows writeRule := by
  induction rounds with
  | zero => exact .done _
  | succ rounds ih =>
    refine .bind (.perform fun _ ↦ trivial) fun event ↦ ?_
    rcases event with _ | ⟨channelId, reason⟩ | channelId
    · refine .bind (.perform fun _ ↦ trivial) fun shutdown ↦ ?_
      cases shutdown with
      | true => exact .done _
      | false => exact ih
    · refine .bind (.bind (.perform fun _ ↦ trivial) fun held ↦ ?_) fun _ ↦ ?_
      · cases held with
        | false => exact .done _
        | true => exact .bind (.attempt (follows_sendDisconnect tunnel frames)) fun _ ↦ .done _
      · cases autoReconnect with
        | false => exact .done _
        | true => exact ih
    · refine .bind (.bind (.attempt (follows_connectionSend _)) fun _ ↦ ?_) fun _ ↦ ih
      exact .perform fun _ ↦ trivial

theorem follows_program (activity : Activity) : (program tunnel activity).Follows writeRule := by
  cases activity with
  | connect frames => exact follows_connect tunnel frames
  | disconnect frames => exact follows_disconnect tunnel frames
  | sendDisconnect frames => exact follows_sendDisconnect tunnel frames
  | sendFrame frame => exact follows_sendFrame frame
  | recvFrame => exact .bind (follows_recvFrame writeRule_of_isReading) fun _ ↦ .done _
  | send frame => exact follows_connectionSend frame
  | recv => exact .bind follows_connectionRecv fun _ ↦ .done _
  | sendTunnellingAck _ _ _ => exact follows_sendTunnellingAck _ _ _
  | sendConnectionstateRequest => exact follows_sendConnectionstateRequest tunnel
  | heartbeat beats => exact follows_startHeartbeat tunnel beats
  | probe frames addr => exact .bind (follows_probeAddress tunnel frames addr) fun _ ↦ .done _
  | receiving rounds => exact receives_writeRule.receivingTask rounds
  | sending telegrams => exact follows_sendingTask telegrams
  | control autoReconnect frames rounds => exact follows_controlTask tunnel autoReconnect frames rounds

end Knust.Application
