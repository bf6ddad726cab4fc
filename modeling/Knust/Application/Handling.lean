import Knust.Application.Tasks
import Knust.Transport.TunnelRules

namespace Knust.Application

open Foundation Foundation.Task Protocol Security Transport Transport.Client

variable {rule : Past → Command → Prop}

theorem follows_enqueueCemi {cemiData : List UInt8} (hnow : ∀ h, rule h .now)
    (henqueue : ∀ now telegram, parseCemiToTelegram now cemiData = .ok telegram →
      ∀ h, rule h (.enqueueIncoming telegram)) : (enqueueCemi cemiData).Follows rule :=
  .bind (.perform hnow) fun now _ ↦ Obeys.done_bind fun telegram htelegram ↦
    ⟨henqueue now telegram htelegram _, fun _ ↦ trivial⟩

theorem follows_validateSequenceNumber {received : UInt8} (hload : ∀ h, rule h .loadExpected)
    (hstore : ∀ value h, rule h (.storeExpected value)) :
    (validateSequenceNumber received).Follows rule := by
  refine .bind (.perform hload) fun expected ↦ ?_
  show Follows _ (ite _ _ _)
  split
  · exact .bind (.perform (hstore _)) fun _ ↦ .done _
  · show Follows _ (ite _ _ _)
    split <;> exact .done _

theorem follows_handleDisconnectRequest {body : List UInt8} {current : Option UInt8}
    (hcontrol : ∀ event h, rule h (.control event)) :
    (handleDisconnectRequest body current).Follows rule := by
  unfold handleDisconnectRequest
  split
  · exact .done _
  refine .bind (.done _) fun request ↦ ?_
  show Follows _ (ite _ _ _)
  split
  · exact .bind (.perform (hcontrol _)) fun _ ↦ .perform (hcontrol _)
  · exact .done _

structure Acknowledges (rule : History Command Command.Response → Command → Prop) : Prop where
  load : ∀ h, rule h .loadExpected
  store : ∀ value h, rule h (.storeExpected value)
  transport : ∀ h, rule h (.transport .sendTunnellingAck)
  write : ∀ (ack : TunnellingAck) found h, rule (⟨.transport .sendTunnellingAck, found⟩ :: h)
    (.write (KnxIpFrame.new .tunnellingAck ack.serialize).serialize)

namespace Acknowledges

theorem acknowledge (hr : Acknowledges rule) (channelId sequence status : UInt8) :
    (do
      let _ ← Task.attempt (Client.sendTunnellingAck channelId sequence status) :
      Handler Unit).Follows rule := by
  refine .bind (.attempt fun h ↦ ⟨hr.transport h, fun found ↦ ?_⟩) fun _ ↦ .done _
  cases found with
  | false => trivial
  | true => exact ⟨hr.write ⟨channelId, sequence, status⟩ _ h, fun _ ↦ trivial⟩

theorem handleTunnellingRequest (hr : Acknowledges rule) {body : List UInt8}
    (henqueue : ∀ request, TunnellingRequest.parse body = .ok request →
      (enqueueCemi request.rawCemi).Follows rule) :
    (handleTunnellingRequest body).Follows rule := by
  unfold Application.handleTunnellingRequest
  cases hbody : TunnellingRequest.parse body with
  | err e => exact .done _
  | panic => exact .done _
  | ok request =>
    rw [Task.ok_bind]
    refine .bind (follows_validateSequenceNumber hr.load hr.store) fun result ↦ ?_
    cases result with
    | valid => exact .bind (hr.acknowledge _ _ _) fun _ ↦ henqueue request hbody
    | duplicate => exact hr.acknowledge _ _ _
    | invalid _ _ => exact hr.acknowledge _ _ _

end Acknowledges

structure Handles (rule : History Command Command.Response → Command → Prop) : Prop
    extends Acknowledges rule where
  now : ∀ h, rule h .now
  enqueue : ∀ telegram h, rule h (.enqueueIncoming telegram)
  control : ∀ event h, rule h (.control event)

theorem Handles.handleIncomingFrame (hr : Handles rule) (data : List UInt8)
    (current : Option UInt8) : (handleIncomingFrame data current).Follows rule := by
  have henqueue (cemiData : List UInt8) : (enqueueCemi cemiData).Follows rule :=
    follows_enqueueCemi hr.now fun _ telegram _ ↦ hr.enqueue telegram
  refine .bind (.done _) fun frame ↦ ?_
  split
  · exact .bind (hr.handleTunnellingRequest fun _ _ ↦ henqueue _) fun _ ↦ .done _
  · exact .bind (henqueue _) fun _ ↦ .done _
  · exact .bind (follows_handleDisconnectRequest hr.control) fun _ ↦ .done _
  all_goals first | exact .bind (.done _) fun _ ↦ .done _ | exact .done _

def isListening : Command → Bool
  | .isShutdown | .closeQueue | .isConnected | .allocate .. | .knxChannelId => true
  | c => c.isReading

structure Receives (rule : History Command Command.Response → Command → Prop) : Prop
    extends Handles rule where
  listen : ∀ c, isListening c = true → ∀ h, rule h c

theorem Receives.receivingTask (hr : Receives rule) (rounds : ℕ) :
    (receivingTask rounds).Follows rule := by
  have hread (c : Command) (hc : c.isReading = true) (h : Past) :
      rule h c := hr.listen c (by cases c <;> first | rfl | exact hc) h
  induction rounds with
  | zero => exact .done _
  | succ rounds ih =>
    refine .bind (.perform (hr.listen _ rfl)) fun shutdown ↦ ?_
    cases shutdown with
    | true => exact .perform (hr.listen _ rfl)
    | false =>
      refine .bind (.attempt (follows_connectionRecvWithin hread (hr.listen _ rfl) 100))
        fun result ↦ ?_
      rcases result with e | _ | data
      · exact .perform (hr.listen _ rfl)
      · refine .bind (.perform (hr.listen _ rfl)) fun shutdown ↦ ?_
        cases shutdown with
        | true => exact .perform (hr.listen _ rfl)
        | false => exact ih
      · refine .bind (.perform (hr.listen _ rfl)) fun allocated ↦ ?_
        cases allocated with
        | false => exact ih
        | true =>
          exact .bind (.perform (hr.listen _ rfl)) fun current ↦
            .bind (.attempt (hr.handleIncomingFrame data current)) fun _ ↦ ih

end Knust.Application
