import Knust.Application.Bus
import Knust.Application.Handling
import Knust.Application.RoutingTasks
import Knust.Transport.Server

namespace Knust.Application

open Foundation Foundation.Task Protocol Transport Transport.Client

def handsOnly {C : Type} {R : C → Type} (handOn : Telegram → C) (Q : Telegram → Prop)
    (_ : History C R) (c : C) : Prop :=
  ∀ telegram, c = handOn telegram → Q telegram

/-- If the telegram has a group value, then it is one that the bytes encode. -/
def Justified (cemiData : List UInt8) (telegram : Telegram) : Prop :=
  telegram.telegramType = .groupValueWrite ∨ telegram.telegramType = .groupValueResponse →
    Encodes cemiData telegram.telegramType

/-- Whichever way the bytes come in, at a client of a tunnel, at a client of the
multicast group or at a server, a group value is delivered and recorded only if they
encode it. -/
structure ValuesJustified (cemiData : List UInt8) : Prop where
  tunnelled : ∀ body request, TunnellingRequest.parse body = .ok request →
    request.rawCemi = cemiData →
      (handleTunnellingRequest body).Follows (handsOnly .enqueueIncoming (Justified cemiData))
  indicated : (enqueueCemi cemiData).Follows (handsOnly .enqueueIncoming (Justified cemiData))
  routedRequest : ∀ body request, TunnellingRequest.parse body = .ok request →
    request.rawCemi = cemiData →
      (Routing.handleTunnellingRequest body).Follows
        (handsOnly .enqueueIncoming (Justified cemiData))
  routedIndication :
    (Routing.enqueueCemi cemiData).Follows (handsOnly .enqueueIncoming (Justified cemiData))
  served : ∀ body request, TunnellingRequest.parse body = .ok request →
    request.rawCemi = cemiData →
      (Server.handleTunnellingRequest body).Follows (handsOnly .publish (Justified cemiData))
  recorded : ∀ now telegram, parseCemiToTelegram now cemiData = .ok telegram →
    (Bus.processTelegram telegram).Follows fun _ c ↦
      ∀ address value, c = .recordSeen address value → Encodes cemiData telegram.telegramType

/-- A frame of these bytes is a read, or a data frame with one of the services that
have a value. -/
def PlainGroupService (cemiData : List UInt8) : Prop :=
  ∀ frame, CemiFrame.parse cemiData = .ok frame →
    frame.service = some 0x0000 ∨ frame.messageCode.isData = true ∧
      (frame.service = some 0x0040 ∨ frame.service = some 0x0080)

section

variable {Q : Telegram → Prop} {cemiData body : List UInt8} {request : TunnellingRequest}
  (hQ : ∀ now telegram, parseCemiToTelegram now cemiData = .ok telegram → Q telegram)

include hQ

theorem follows_handsOnly_enqueueCemi :
    (enqueueCemi cemiData).Follows (handsOnly .enqueueIncoming Q) := by
  refine follows_enqueueCemi (fun _ _ hc ↦ nomatch hc) fun now telegram htelegram _ telegram' hc ↦ ?_
  cases hc
  exact hQ now telegram htelegram

theorem follows_handsOnly_handleTunnellingRequest
    (hbody : TunnellingRequest.parse body = .ok request) (hcemi : request.rawCemi = cemiData) :
    (handleTunnellingRequest body).Follows (handsOnly .enqueueIncoming Q) := by
  have hacknowledges : Acknowledges (handsOnly .enqueueIncoming Q) :=
    { load := fun _ _ hc ↦ nomatch hc
      store := fun _ _ _ hc ↦ nomatch hc
      transport := fun _ _ hc ↦ nomatch hc
      write := fun _ _ _ _ hc ↦ nomatch hc }
  refine hacknowledges.handleTunnellingRequest fun request' hbody' ↦ ?_
  rw [hbody] at hbody'
  cases hbody'
  rw [hcemi]
  exact follows_handsOnly_enqueueCemi hQ

theorem Routing.follows_handsOnly_enqueueCemi :
    (Routing.enqueueCemi cemiData).Follows (handsOnly .enqueueIncoming Q) := by
  refine .bind (.perform fun _ _ hc ↦ by cases hc) fun now h ↦ ?_
  refine Obeys.done_bind fun telegram htelegram ↦ ⟨fun telegram' hc ↦ ?_, fun _ ↦ trivial⟩
  cases hc
  exact hQ now telegram htelegram

theorem Routing.follows_handsOnly_handleTunnellingRequest
    (hbody : TunnellingRequest.parse body = .ok request) (hcemi : request.rawCemi = cemiData) :
    (Routing.handleTunnellingRequest body).Follows (handsOnly .enqueueIncoming Q) := by
  unfold Routing.handleTunnellingRequest
  rw [hbody, Task.ok_bind, hcemi]
  exact Routing.follows_handsOnly_enqueueCemi hQ

omit hQ in
theorem follows_handsOnly_sendReply (serviceType : ServiceType) (body : List UInt8)
    (link : ClientLink) :
    (Server.sendReply serviceType body link).Follows (handsOnly .publish Q) := by
  refine .bind (.bind (.perform fun _ _ hc ↦ by cases hc) fun recipient ↦ ?_) fun frame ↦
    .bind (.perform fun _ _ hc ↦ by cases hc) fun _ ↦ .done _
  cases recipient with
  | some entry => exact .bind (.perform fun _ _ hc ↦ by cases hc) fun _ ↦ .done _
  | none => exact .done _

omit hQ in
theorem follows_handsOnly_validateRecvSeq (session : ClientSession) (received : UInt8) :
    (Server.validateRecvSeq session received).Follows (handsOnly .publish Q) := by
  refine .bind (.perform fun _ _ hc ↦ by cases hc) fun expected ↦ ?_
  show Follows _ (ite _ _ _)
  split
  · exact .bind (.perform fun _ _ hc ↦ by cases hc) fun _ ↦ .done _
  show Follows _ (ite _ _ _)
  split <;> exact .done _

theorem follows_handsOnly_served (hbody : TunnellingRequest.parse body = .ok request)
    (hcemi : request.rawCemi = cemiData) :
    (Server.handleTunnellingRequest body).Follows (handsOnly .publish Q) := by
  unfold Server.handleTunnellingRequest
  rw [hbody, Task.ok_bind]
  refine .bind (.perform fun _ _ hc ↦ by cases hc) fun session ↦ ?_
  cases session with
  | none => exact .done _
  | some session =>
    refine .bind (.perform fun _ _ hc ↦ by cases hc) fun _ ↦ ?_
    refine .bind (follows_handsOnly_validateRecvSeq session _) fun result ↦ ?_
    cases result with
    | valid =>
      refine .bind (follows_handsOnly_sendReply _ _ _) fun _ ↦ ?_
      refine .bind (.perform fun _ _ hc ↦ by cases hc) fun now h ↦ ?_
      cases htelegram : parseCemiToTelegram now request.rawCemi with
      | ok telegram =>
        refine ⟨fun telegram' hc ↦ ?_, fun _ ↦ trivial⟩
        cases hc
        exact hQ now telegram (hcemi ▸ htelegram)
      | err e => trivial
      | panic => trivial
    | duplicate => exact follows_handsOnly_sendReply _ _ _
    | invalid expected received => exact follows_handsOnly_sendReply _ _ _

end

theorem follows_processTelegram {telegram : Telegram} {Q : Prop}
    (hQ : telegram.telegramType = .groupValueWrite ∨ telegram.telegramType = .groupValueResponse →
      Q) :
    (Bus.processTelegram telegram).Follows fun _ c ↦
      ∀ address value, c = .recordSeen address value → Q := by
  refine .bind ?_ fun _ ↦ .perform fun _ _ _ hc ↦ by cases hc
  unfold Bus.recordGroupValueIfPresent
  split
  · split
    · rename_i htype
      exact .perform fun _ _ _ _ ↦ hQ htype
    · exact .done _
  · exact .done _

theorem justified_of_plainGroupService {cemiData : List UInt8} (h : PlainGroupService cemiData)
    {now : ℕ} {telegram : Telegram} (htelegram : parseCemiToTelegram now cemiData = .ok telegram) :
    Justified cemiData telegram := by
  obtain ⟨frame, hframe, hmade⟩ := parse_of_parseCemiToTelegram htelegram
  intro htype
  rcases h frame hframe with hread | ⟨hdata, hresponse | hwrite⟩
  · have := hmade.read.mpr hread
    simp [this] at htype
  · exact ⟨frame, hframe, hdata, by rw [hmade.response.mpr hresponse, hresponse]; rfl⟩
  · have htype : telegram.telegramType = .groupValueWrite := by
      rcases htype with htype | htype
      · exact htype
      · rw [hmade.response.mp htype] at hwrite
        cases hwrite
    exact ⟨frame, hframe, hdata, by rw [htype, hwrite]; rfl⟩

theorem plainGroupService_of_justified {cemiData : List UInt8}
    (h : ∀ now telegram, parseCemiToTelegram now cemiData = .ok telegram →
      Justified cemiData telegram) : PlainGroupService cemiData := by
  intro frame hframe
  obtain ⟨telegram, htelegram, hmade⟩ := parseCemiToTelegram_of_parse 0 hframe
  have hj := h 0 telegram htelegram
  cases htype : telegram.telegramType with
  | groupValueRead => exact .inl (hmade.read.mp htype)
  | groupValueResponse =>
    obtain ⟨frame', hframe', hdata, hservice⟩ := hj (.inr htype)
    rw [hframe] at hframe'
    cases hframe'
    rw [htype] at hservice
    exact .inr ⟨hdata, .inl hservice⟩
  | groupValueWrite =>
    obtain ⟨frame', hframe', hdata, hservice⟩ := hj (.inl htype)
    rw [hframe] at hframe'
    cases hframe'
    rw [htype] at hservice
    exact .inr ⟨hdata, .inr hservice⟩

theorem of_follows_enqueueCemi {cemiData : List UInt8} {Q : Telegram → Prop}
    (h : (enqueueCemi cemiData).Follows (handsOnly .enqueueIncoming Q)) {now : ℕ}
    {telegram : Telegram} (htelegram : parseCemiToTelegram now cemiData = .ok telegram) :
    Q telegram := by
  have hnext : (.done (parseCemiToTelegram now cemiData) >>= fun telegram ↦
      Client.perform (.enqueueIncoming telegram)).Obeys (handsOnly .enqueueIncoming Q)
      (fun _ _ ↦ True) [⟨.now, now⟩] := (h []).2 now
  rw [htelegram] at hnext
  exact hnext.1 telegram rfl

/-- Group values come only of the bytes that encode them exactly if the bytes have no
other service, and no service outside of a data frame. -/
theorem valuesJustified_iff (cemiData : List UInt8) :
    ValuesJustified cemiData ↔ PlainGroupService cemiData := by
  constructor
  · intro h
    exact plainGroupService_of_justified fun _ _ ↦ of_follows_enqueueCemi h.indicated
  · intro h
    have hj : ∀ now telegram, parseCemiToTelegram now cemiData = .ok telegram →
        Justified cemiData telegram := fun _ _ ↦ justified_of_plainGroupService h
    exact {
      tunnelled := fun _ _ ↦ follows_handsOnly_handleTunnellingRequest hj
      indicated := follows_handsOnly_enqueueCemi hj
      routedRequest := fun _ _ ↦ Routing.follows_handsOnly_handleTunnellingRequest hj
      routedIndication := Routing.follows_handsOnly_enqueueCemi hj
      served := fun _ _ ↦ follows_handsOnly_served hj
      recorded := fun now telegram ht ↦ follows_processTelegram (hj now telegram ht) }

def individualAddressWrite : List UInt8 :=
  [0x29, 0x00, 0xBC, 0xE0, 0x11, 0x01, 0x0A, 0x03, 0x01, 0x00, 0xC0]

def temperatureRegistered : Bus.GroupAddressRegistry :=
  fun address ↦ if address = .temperature then some ⟨none, none⟩ else none

theorem individualAddressWrite_recorded :
    (Bus.run .broadcast temperatureRegistered [individualAddressWrite] 1
      [.resume 0 {}, .resume 0 {}, .resume 1 {}, .resume 1 {}, .resume 1 {}]).state.registry
      .temperature = some ⟨some 0, some [0xC0]⟩ ∧
    ¬ Encodes individualAddressWrite .groupValueWrite ∧
    ¬ Encodes individualAddressWrite .groupValueResponse := by
  decide +kernel

end Knust.Application
