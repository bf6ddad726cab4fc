import Knust.Transport.Fleet

namespace Knust.Transport.Fleet

open Foundation Protocol Security Client
open Foundation.Task (Yields)

variable {P : Primitives} {tunnel : ℕ → Tunnel} {k : ℕ} {α β : Type} {w : View}
  {Q : View → Result α → Prop}

variable {c : Client.Command}

/-- A tunnel without a secure session, in a call that has nothing to store. -/
structure During (linked : Bool) (state : ConnectionState) (channelId : UInt8)
    (addr : Option IndividualAddress) (w : View) : Prop where
  busy : w.call ≠ none
  settled : w.claiming = none
  linked_eq : w.tunnel.transport = linked
  state_eq : w.tunnel.state = state
  channelId_eq : w.tunnel.channelId = channelId
  addr_eq : w.tunnel.individualAddress = addr
  plain : w.tunnel.secureSession = none

theorem During.loaded {linked : Bool} {state : ConnectionState} {channelId : UInt8}
    {addr : Option IndividualAddress} (hw : During linked state channelId addr w)
    {t : Client.State}
    (ht : t = { w.tunnel with claimed := t.claimed, knownOccupied := t.knownOccupied }) :
    During linked state channelId addr ⟨t, w.call, w.claiming⟩ := by
  rw [ht]
  exact ⟨hw.busy, hw.settled, hw.linked_eq, hw.state_eq, hw.channelId_eq, hw.addr_eq, hw.plain⟩

def isNeutral : Client.Command → Bool
  | .nextSequence => true
  | c => c.isTraffic

section

variable {linked : Bool} {state : ConnectionState} {channelId : UInt8}
  {addr : Option IndividualAddress}

theorem follows_writeFrame {caller : Method} {frame : Handler (List UInt8)}
    (hframe : frame.Follows fun _ c ↦ isNeutral c = true) :
    (writeFrame caller frame).Follows fun _ c ↦ isNeutral c = true := by
  refine .bind (.perform fun _ ↦ rfl) fun found ↦ ?_
  cases found with
  | false => exact .done _
  | true => exact .bind hframe fun data ↦ .bind (.perform fun _ ↦ rfl) fun _ ↦ .done _

end

section

variable {channelId : UInt8}

abbrev Joined (channelId : UInt8) (w : View) : Prop := During true .connected channelId none w

abbrev Unheard (channelId : UInt8) (w : View) (occupied : Bool) : Prop :=
  Joined channelId w ∧ occupied = false

end

section

variable {linked : Bool} {state : ConnectionState} {channelId : UInt8}
  {addr : Option IndividualAddress}

end

structure Ready (tn : Tunnel) (w : View) : Prop where
  settled : w.claiming = none
  connected : w.tunnel.individualAddress ≠ none → w.tunnel.state = .connected
  plain : w.tunnel.secureSession = none
  unmanaged : tn.addressManaged = false → w.tunnel.individualAddress = none

structure Ended (tn : Tunnel) (call : Call) (w : View) (result : Except KnxError Unit) : Prop where
  ready : Ready tn w
  clean : ∀ frames e, call = .connect frames → result = .error e →
    w.tunnel.state ≠ .connected ∧ w.tunnel.channelId = 0 ∧ w.tunnel.individualAddress = none

namespace Reference

def response : List UInt8 :=
  [0x06, 0x10, 0x02, 0x06, 0x00, 0x14, 0x07, 0x00, 0x08, 0x01, 0x00, 0x00, 0x00, 0x00, 0x00, 0x00,
    0x04, 0x04, 0x11, 0xFA]

def input : Input := ⟨{ frame := .ok response }, some (.connect 0)⟩

end Reference

end Knust.Transport.Fleet
