import QCore.Foundation.Account
import QCore.Userplane.UplinkPipeline

/-!
# Packet accounting

Each pipeline counts what it receives, and has a counter for every reason to
drop a packet.  A run of calls is a run of a machine that refuses the call that
does not return `Ok`.  Between two calls the session operations may change the
table, so each call comes with the table it finds.
-/

namespace QCore
namespace Userplane

open Foundation

/-!
## Downlink
-/

inductive DownlinkDrop where
  | tooShort
  | unknownIp1
  | unknownIp2
deriving DecidableEq, Repr

def DownlinkDrop.all : List DownlinkDrop :=
  [tooShort, unknownIp1, unknownIp2]

def DownlinkCounters.dropped (c : DownlinkCounters) :
    DownlinkDrop -> RelaxedCounter
  | DownlinkDrop.tooShort => c.dropTooShort
  | DownlinkDrop.unknownIp1 => c.dropUnknownIp1
  | DownlinkDrop.unknownIp2 => c.dropUnknownIp2

/-- A call of `handle_next_downlink_packet` that reads a packet. -/
structure DownlinkCall where
  env : DownlinkEnv
  table : DownlinkForwardingTable
  packet : TunPacket

namespace Downlink

def account (d : Downlink) : Account DownlinkDrop where
  packets := d.counters.rxPkts
  octets := d.counters.rxBytes
  drops := d.counters.dropped
  outputs := d.sent.length

def callStep (d : Downlink) (call : DownlinkCall) : Option Downlink :=
  match handleNextDownlinkPacket call.env (some call.packet)
      { d with table := call.table } with
  | (Outcome.ok (), d') => some d'
  | _ => none

def meter : Meter Downlink DownlinkCall DownlinkDrop where
  machine := ⟨callStep⟩
  size call := call.packet.bytes.length
  account := account

theorem onePacket_of_effect {env : DownlinkEnv} {d d' : Downlink}
    {packet : TunPacket}
    (h : PacketEffect env d packet (Outcome.ok ()) d') :
    Account.OnePacket packet.bytes.length d.account d'.account := by
  cases h with
  | tooShort _ =>
      refine ⟨rfl, rfl, Or.inr ⟨rfl, DownlinkDrop.tooShort, ?_⟩⟩
      funext r
      cases r <;> rfl
  | noRule _ _ =>
      refine ⟨rfl, rfl, Or.inr ⟨rfl, DownlinkDrop.unknownIp1, ?_⟩⟩
      funext r
      cases r <;> rfl
  | otherAddress _ _ _ =>
      refine ⟨rfl, rfl, Or.inr ⟨rfl, DownlinkDrop.unknownIp2, ?_⟩⟩
      funext r
      cases r <;> rfl
  | forwarded _ _ _ _ _ =>
      refine ⟨rfl, rfl, Or.inl ⟨?_, ?_⟩⟩
      · exact List.length_append
      · funext r
        cases r <;> rfl

theorem onePacket_of_call {d d' : Downlink} {call : DownlinkCall}
    (h : callStep d call = some d') :
    Account.OnePacket call.packet.bytes.length d.account d'.account := by
  have heffect := handle_effect call.env { d with table := call.table }
    call.packet
  unfold callStep at h
  split at h
  · rename_i d'' hcall
    rw [hcall] at heffect
    cases h
    have hone := onePacket_of_effect heffect
    exact hone
  · cases h

end Downlink

/-!
## Uplink
-/

def UplinkDrop.all : List UplinkDrop :=
  [tooShort, gtpMessageType, tooShortExt, pdcpControl, sdapControl, notIpv4,
    unknownTeid1, unknownTeid2]

def UplinkCounters.dropped (c : UplinkCounters) :
    UplinkDrop -> RelaxedCounter
  | UplinkDrop.tooShort => c.dropTooShort
  | UplinkDrop.gtpMessageType => c.dropGtpMessageType
  | UplinkDrop.tooShortExt => c.dropTooShortExt
  | UplinkDrop.pdcpControl => c.dropPdcpControl
  | UplinkDrop.sdapControl => c.dropSdapControl
  | UplinkDrop.notIpv4 => c.dropNotIpv4
  | UplinkDrop.unknownTeid1 => c.dropUnknownTeid1
  | UplinkDrop.unknownTeid2 => c.dropUnknownTeid2

/-- A call of `handle_next_uplink_packet` that receives a datagram. -/
structure UplinkCall where
  env : UplinkEnv
  fuel : Nat
  table : UplinkForwardingTable
  read : UdpRead

namespace Uplink

def account (u : Uplink) : Account UplinkDrop where
  packets := u.counters.rxPkts
  octets := u.counters.rxBytes
  drops := u.counters.dropped
  outputs := u.written.length

/-- A call whose loop over the extension headers has not ended is refused too. -/
def callStep (u : Uplink) (call : UplinkCall) : Option Uplink :=
  match handleNextUplinkPacket call.env call.fuel (some call.read)
      { u with table := call.table } with
  | some (Outcome.ok (), u') => some u'
  | _ => none

def meter : Meter Uplink UplinkCall UplinkDrop where
  machine := ⟨callStep⟩
  size call := call.read.bytesRead
  account := account

theorem dropped_drop (c : UplinkCounters) (why : UplinkDrop) :
    (c.drop why).dropped = Function.update c.dropped why (c.dropped why + 1) := by
  funext r
  cases why <;> cases r <;> rfl

theorem onePacket_dropped (u : Uplink) (r : UdpRead) (why : UplinkDrop) :
    Account.OnePacket r.bytesRead u.account (u.dropped r why).account where
  packets := by
    cases why <;> rfl
  octets := by
    cases why <;> rfl
  fate := Or.inr ⟨rfl, why, dropped_drop (countReceived r u.counters) why⟩

theorem onePacket_of_effect {env : UplinkEnv} {u u' : Uplink} {r : UdpRead}
    (h : DatagramEffect env u r (Outcome.ok ()) u') :
    Account.OnePacket r.bytesRead u.account u'.account := by
  cases h with
  | dropped why _ => exact onePacket_dropped u r why
  | noRule _ _ _ => exact onePacket_dropped u r UplinkDrop.unknownTeid1
  | otherTeid _ _ _ => exact onePacket_dropped u r UplinkDrop.unknownTeid2
  | written _ _ _ _ =>
      refine ⟨rfl, rfl, Or.inl ⟨?_, ?_⟩⟩
      · exact List.length_append
      · funext why
        cases why <;> rfl

theorem onePacket_of_call {u u' : Uplink} {call : UplinkCall}
    (h : callStep u call = some u') :
    Account.OnePacket call.read.bytesRead u.account u'.account := by
  unfold callStep at h
  split at h
  · rename_i u'' hcall
    cases h
    have hone := onePacket_of_effect (handle_effect hcall)
    exact hone
  · cases h

end Uplink

/-!
## Both directions
-/

/-- In each direction, after every run of calls that return `Ok`, the packets
received are the packets put out and those dropped, and along the run each
packet is either put out or counted as dropped once.  The counters wrap around,
so the sums hold modulo their width, and exactly while they fit into it. -/
theorem packetAccounts_balance :
    Downlink.meter.Balances DownlinkDrop.all ∧
      Uplink.meter.Balances UplinkDrop.all := by
  constructor
  · apply Meter.balances_of_step
    · decide
    · intro why
      cases why <;> decide
    · intro d call d' h
      exact Downlink.onePacket_of_call h
  · apply Meter.balances_of_step
    · decide
    · intro why
      cases why <;> decide
    · intro u call u' h
      exact Uplink.onePacket_of_call h

example :
    (Uplink.meter.machine.run Uplink.emptyUplink
        [⟨Uplink.openTun, 2, Uplink.emptyUplink.table, Uplink.gpdu 1⟩]).map
      (fun u => (u.counters.rxPkts, u.counters.dropUnknownTeid1,
        u.written.length)) = some (1, 1, 0) := by
  decide +kernel

end Userplane
end QCore
