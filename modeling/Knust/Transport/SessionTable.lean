import Knust.Transport.ServerRules

namespace Knust.Transport.Server

open Foundation Foundation.Task Protocol Security

theorem mem_channelIds {id : UInt8} : id ∈ channelIds ↔ 1 ≤ id.toNat := by
  simp only [channelIds, List.mem_map, List.mem_range'_1]
  constructor
  · rintro ⟨n, ⟨h, h'⟩, rfl⟩
    have : (UInt8.ofNat n).toNat = n := UInt8.toNat_ofNat_of_lt' (by omega)
    omega
  · intro h
    have := id.toNat_lt
    exact ⟨id.toNat, by omega, UInt8.ofNat_toNat⟩

theorem allocateChannelId_eq_some {sessions : UInt8 → Option ClientSession} {id : UInt8}
    (h : allocateChannelId sessions = some id) : 1 ≤ id.toNat ∧ sessions id = none :=
  ⟨mem_channelIds.mp (List.mem_of_find?_eq_some h), by simpa using List.find?_some h⟩

section

variable {P : Primitives} {i : Env} {s s' : State}

theorem exec_openSession {link : ClientLink} {a : Option UInt8}
    (h : exec P (.openSession link) i s = some (a, s')) :
    a = allocateChannelId s.sessions ∧
      s' = a.elim { s with sessionsHeld := true } fun id ↦ s.insertSession link id i.now := by
  simp only [exec] at h
  obtain ⟨-, hx⟩ := State.withSessions_eq_some h
  split at hx
  · rename_i id hid
    cases hx
    exact ⟨hid.symm, rfl⟩
  · rename_i hnone
    cases hx
    exact ⟨hnone.symm, rfl⟩

theorem exec_removeSession {id : UInt8} {a : Option ClientSession}
    (h : exec P (.removeSession id) i s = some (a, s')) :
    a = s.sessions id ∧ s' = { s with sessions := Function.update s.sessions id none } := by
  simp only [exec] at h
  cases (State.withSessions_eq_some h).2
  exact ⟨rfl, rfl⟩

theorem exec_removeSessions {ids : List UInt8} {a : Unit}
    (h : exec P (.removeSessions ids) i s = some (a, s')) :
    s' = { s with sessions := fun id ↦ if id ∈ ids then none else s.sessions id } := by
  simp only [exec] at h
  cases (State.withSessions_eq_some h).2
  rfl

def Command.editsTable : Command → Bool
  | .openSession .. | .removeSession .. | .removeSessions .. => true
  | _ => false

theorem exec_table {c : Command} {a : c.Response} (hc : c.editsTable = false)
    (h : exec P c i s = some (a, s')) :
    s'.sessions = s.sessions ∧ s'.cells.length = s.cells.length := by
  cases c
  case openSession | removeSession | removeSessions => cases hc
  case touchSession =>
    simp only [exec] at h
    obtain ⟨-, hx⟩ := State.withSessions_eq_some h
    split at hx <;> cases hx <;> simp [State.touchCells]
  case touch | loadRecvSeq | storeRecvSeq | lockSend | unlockSend | loadSendSeq | storeSendSeq
      | takePendingAck =>
    simp only [exec] at h
    obtain ⟨-, -, -, -, rfl⟩ := State.withCells_eq_some h
    simp
  case expectAck =>
    simp only [exec] at h
    split at h <;> cases h
    simp
  case deliverAck | publish =>
    cases h
    exact ⟨rfl, rfl⟩
  all_goals
    obtain ⟨hsessions, hcells, -⟩ := exec_channels rfl h
    exact ⟨hsessions, by rw [hcells]⟩

theorem exec_session {c : Command} {a : c.Response} (h : exec P c i s = some (a, s')) {id : UInt8}
    {session : ClientSession} (hsession : s'.sessions id = some session) :
    s.sessions id = some session ∨
      (⟨c, a⟩ : (c : Command) × c.Response) = ⟨.openSession session.link, some id⟩ ∧
        session.channelId = id ∧ allocateChannelId s.sessions = some id ∧
        session.cells = s.cells.length ∧ s.cells.length < s'.cells.length := by
  by_cases hc : c.editsTable = true
  swap
  · rw [(exec_table (by simpa using hc) h).1] at hsession
    exact .inl hsession
  cases c
  case openSession link =>
    obtain ⟨ha, rfl⟩ := exec_openSession h
    cases a with
    | none => exact .inl hsession
    | some new =>
      by_cases hid : id = new
      · subst hid
        have hnew : (⟨id, link, s.cells.length⟩ : ClientSession) = session := by
          simpa [State.insertSession] using hsession
        subst hnew
        exact .inr ⟨rfl, rfl, ha.symm, rfl, by simp [State.insertSession]⟩
      · exact .inl (by simpa [State.insertSession, hid] using hsession)
  case removeSession removed =>
    obtain ⟨-, rfl⟩ := exec_removeSession h
    by_cases hid : id = removed
    · simp [hid] at hsession
    · exact .inl (by simpa [hid] using hsession)
  case removeSessions ids =>
    obtain rfl := exec_removeSessions h
    by_cases hid : id ∈ ids
    · simp [hid] at hsession
    · exact .inl (by simpa [hid] using hsession)
  all_goals cases hc

end

def State.WellKeyed (s : State) : Prop :=
  ∀ id session, s.sessions id = some session →
    session.channelId = id ∧ 1 ≤ id.toNat ∧ id.toNat ≤ 255

theorem exec_wellKeyed {P : Primitives} {c : Command} {i : Env} {s s' : State} {a : c.Response}
    (hs : s.WellKeyed) (h : exec P c i s = some (a, s')) : s'.WellKeyed := by
  intro id session hsession
  rcases exec_session h hsession with hold | ⟨-, hid, hfree, -⟩
  · exact hs id session hold
  · have hlt := id.toNat_lt
    exact ⟨hid, (allocateChannelId_eq_some hfree).1, by omega⟩

section

variable (server : TunnelServer)

def connectResponse : Option UInt8 → ConnectResponse
  | some channelId =>
    { channelId
      status := ConnectResponse.statusOk
      dataEndpoint := Hpai.new server.localAddr
      crd := buildTunnelCrd server.individualAddress
      assignedAddress := some server.individualAddress }
  | none =>
    { channelId := 0
      status := ConnectResponse.statusErrorNoMoreConnections
      dataEndpoint := Hpai.new server.localAddr
      crd := []
      assignedAddress := none }

end

namespace Reference

def plainServer : TunnelServer := { secureServer with secureConfig := none }

def connectRequest : List UInt8 :=
  (KnxIpFrame.new .connectRequest ConnectRequest.newRouteBack.serialize).serialize

def disconnectRequest (id : UInt8) : List UInt8 :=
  (KnxIpFrame.new .disconnectRequest (ChannelRequest.serialize ⟨id, .routeBack⟩)).serialize

def closing : List (Move Activity Env) :=
  .spawn (.accept 0 peer [connectRequest]) :: List.replicate 9 (.resume 2 {})

end Reference

end Knust.Transport.Server
