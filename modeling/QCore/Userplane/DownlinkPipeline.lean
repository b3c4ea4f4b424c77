import QCore.Foundation.Bytes
import QCore.Userplane.PacketProcessor

/-!
# The downlink pipeline

`handle_next_downlink_packet` reads one packet from the tun device, finds the
rule for its destination address, puts the GTP-U and PDCP headers before it and
sends it to the DU.  The loop that calls it serves every UE and ends with the
first error.

The table lock is held from the lookup to the end of the call, so a call is one
step with respect to the session operations.  Two facts about the outside are
parameters: whether the build checks arithmetic for overflow, and to which
addresses the F1-U socket can send.
-/

namespace QCore
namespace Userplane

open Foundation

structure DownlinkEnv where
  /-- A debug build panics on overflow where a release build wraps. -/
  overflowChecks : Bool
  canSend : IpAddr -> Bool

/-- One successful read from the tun device; the inner packet starts at offset
22 of a buffer of 2000 bytes. -/
structure TunPacket where
  bytes : Bytes
  fits : bytes.length <= 1978

/-- An atomic `usize` of a 64-bit target; `inc` and `add` wrap around. -/
abbrev RelaxedCounter : Type := UInt64

structure DownlinkCounters where
  rxPkts : RelaxedCounter
  rxBytes : RelaxedCounter
  dropTooShort : RelaxedCounter
  dropUnknownIp1 : RelaxedCounter
  dropUnknownIp2 : RelaxedCounter
deriving DecidableEq, Repr

structure Datagram where
  destination : IpAddr
  port : UInt16
  payload : Bytes
deriving DecidableEq, Repr

structure Downlink where
  table : DownlinkForwardingTable
  counters : DownlinkCounters
  sent : List Datagram
deriving DecidableEq

def gtpBaseHeaderLen : Nat := 8
def gtpExtendedHeaderLen : Nat := 12
def gtpExtHeaderLenNrupDlUserData : Nat := 8
def pdcpHeaderLen : Nat := 2
def ipv4HeaderLen : Nat := 20
def gtpMessageTypeGpdu : UInt8 := 255
def gtpuPort : UInt16 := 2152

def downlinkInnerPacketOffset : Nat :=
  gtpExtendedHeaderLen + gtpExtHeaderLenNrupDlUserData + pdcpHeaderLen

/-- The bytes written before the inner packet, in the order of the buffer. -/
def downlinkHeader (bytesRead : Nat) (teid : Vector UInt8 4)
    (pdcpSeqNum : UInt16) (nrSeqNum : UInt32) : Bytes :=
  List.flatten
    [ -- GTP header with E=1, its length field and the TEID
      [0b00110100, gtpMessageTypeGpdu],
      be16 (UInt16.ofNat
        (bytesRead + downlinkInnerPacketOffset - gtpBaseHeaderLen)),
      teid.toList,
      -- no sequence number and no PDU number; an NR RAN container follows
      [0, 0, 0, 0x84],
      -- the container: length in words, two flag bytes, NR sequence number
      [UInt8.ofNat (gtpExtHeaderLenNrupDlUserData / 4), 0, 0],
      (be32 nrSeqNum).drop 1,
      [0, 0],
      -- PDCP data header with a 12 bit sequence number
      [(0b10000000 : UInt8) ||| ((pdcpSeqNum &&& 0x0f00) >>> 8).toUInt8,
        (pdcpSeqNum &&& 0xff).toUInt8] ]

theorem downlinkHeader_length (bytesRead : Nat) (teid : Vector UInt8 4)
    (pdcpSeqNum : UInt16) (nrSeqNum : UInt32) :
    (downlinkHeader bytesRead teid pdcpSeqNum nrSeqNum).length = 22 := by
  simp [downlinkHeader, be16, be32]

def TunPacket.destination (packet : TunPacket)
    (h : ipv4HeaderLen <= packet.bytes.length) : Ipv4Addr :=
  have hlen : 20 <= packet.bytes.length := h
  ⟨#v[packet.bytes[16], packet.bytes[17], packet.bytes[18], packet.bytes[19]]⟩

/-- The two unchecked increments of a rule's counters. -/
def DownlinkForwardingRule.increment (env : DownlinkEnv)
    (rule : DownlinkForwardingRule) :
    Outcome UserplaneError DownlinkForwardingRule :=
  if env.overflowChecks ∧
      (rule.pdcpSeqNum = 0xffff ∨ rule.nrSeqNum = 0xffffffff) then
    Outcome.panic
  else
    Outcome.ok rule.advance

namespace Downlink

def addCounters (f : DownlinkCounters -> DownlinkCounters) :
    Cmd Downlink UserplaneError Unit :=
  Cmd.modify fun d => { d with counters := f d.counters }

/-- `UdpSocket::send_to` -/
def sendTo (env : DownlinkEnv) (datagram : Datagram) :
    Cmd Downlink UserplaneError Unit :=
  if env.canSend datagram.destination then
    Cmd.modify fun d => { d with sent := d.sent ++ [datagram] }
  else
    Cmd.bail UserplaneError.socketSend

/-- The part of `handle_next_downlink_packet` after the rule is found. -/
def forward (env : DownlinkEnv) (packet : TunPacket) (idx : Nat)
    (entry : DownlinkForwardingRule) : Cmd Downlink UserplaneError Unit := do
  let next <- Cmd.lift (entry.increment env)
  Cmd.modify fun d => { d with table := d.table.set idx (some next) }
  let duIp <- Cmd.lift
    (IpAddr.tryFrom entry.remoteTunnelInfo.transportLayerAddress)
  sendTo env
    { destination := duIp
      port := gtpuPort
      payload :=
        downlinkHeader packet.bytes.length entry.remoteTunnelInfo.gtpTeid
          entry.pdcpSeqNum entry.nrSeqNum ++ packet.bytes }

/-- The part of `handle_next_downlink_packet` after the length check. -/
def lookupAndForward (env : DownlinkEnv) (packet : TunPacket)
    (ueIpAddr : Ipv4Addr) : Cmd Downlink UserplaneError Unit := do
  let d <- Cmd.get
  let slot <- Cmd.lift (d.table.read (downlinkTableIndexFromIp ueIpAddr))
  match slot with
  | none =>
      addCounters fun c => { c with dropUnknownIp1 := c.dropUnknownIp1 + 1 }
  | some entry =>
      if IpAddr.v4 ueIpAddr ≠ entry.ueIpAddr then
        addCounters fun c => { c with dropUnknownIp2 := c.dropUnknownIp2 + 1 }
      else
        forward env packet (downlinkTableIndexFromIp ueIpAddr) entry

def countReceived (packet : TunPacket) (c : DownlinkCounters) :
    DownlinkCounters :=
  { c with
    rxPkts := c.rxPkts + 1
    rxBytes := c.rxBytes + UInt64.ofNat packet.bytes.length }

/-- `handle_next_downlink_packet`; the first argument is what the tun device
returns, `none` for a failed read. -/
def handleNextDownlinkPacket (env : DownlinkEnv) :
    Option TunPacket -> Cmd Downlink UserplaneError Unit
  | none => Cmd.bail UserplaneError.tunRead
  | some packet => do
      addCounters (countReceived packet)
      if h : ipv4HeaderLen <= packet.bytes.length then
        lookupAndForward env packet (packet.destination h)
      else
        addCounters fun c => { c with dropTooShort := c.dropTooShort + 1 }

/-!
## The effect of one packet

`PacketEffect` lists every way a call can end, with the counters, the table and
the datagrams it leaves.
-/

def received (d : Downlink) (packet : TunPacket) : Downlink :=
  { d with counters := countReceived packet d.counters }

def used (d : Downlink) (idx : Nat) (entry : DownlinkForwardingRule) :
    Downlink :=
  { d with table := d.table.set idx (some entry.advance) }

def datagramFor (entry : DownlinkForwardingRule) (packet : TunPacket)
    (duIp : IpAddr) : Datagram where
  destination := duIp
  port := gtpuPort
  payload :=
    downlinkHeader packet.bytes.length entry.remoteTunnelInfo.gtpTeid
      entry.pdcpSeqNum entry.nrSeqNum ++ packet.bytes

def HasDestination (packet : TunPacket) (dst : Ipv4Addr) : Prop :=
  exists h, packet.destination h = dst

def HasRule (d : Downlink) (dst : Ipv4Addr) (entry : DownlinkForwardingRule) :
    Prop :=
  d.table.lookup (downlinkTableIndexFromIp dst) = some entry ∧
    entry.ueIpAddr = IpAddr.v4 dst

inductive PacketEffect (env : DownlinkEnv) (d : Downlink)
    (packet : TunPacket) : Outcome UserplaneError Unit -> Downlink -> Prop where
  | tooShort :
      packet.bytes.length < ipv4HeaderLen ->
      PacketEffect env d packet (Outcome.ok ())
        { d with
          counters :=
            { countReceived packet d.counters with
              dropTooShort := d.counters.dropTooShort + 1 } }
  | beyondTable {dst : Ipv4Addr} {d' : Downlink} :
      HasDestination packet dst ->
      ¬ downlinkTableIndexFromIp dst < maxUes ->
      PacketEffect env d packet Outcome.panic d'
  | noRule {dst : Ipv4Addr} :
      HasDestination packet dst ->
      d.table.lookup (downlinkTableIndexFromIp dst) = none ->
      PacketEffect env d packet (Outcome.ok ())
        { d with
          counters :=
            { countReceived packet d.counters with
              dropUnknownIp1 := d.counters.dropUnknownIp1 + 1 } }
  | otherAddress {dst : Ipv4Addr} {entry : DownlinkForwardingRule} :
      HasDestination packet dst ->
      d.table.lookup (downlinkTableIndexFromIp dst) = some entry ->
      entry.ueIpAddr ≠ IpAddr.v4 dst ->
      PacketEffect env d packet (Outcome.ok ())
        { d with
          counters :=
            { countReceived packet d.counters with
              dropUnknownIp2 := d.counters.dropUnknownIp2 + 1 } }
  | overflow {dst : Ipv4Addr} {entry : DownlinkForwardingRule}
      {d' : Downlink} :
      HasDestination packet dst -> HasRule d dst entry ->
      entry.increment env = Outcome.panic ->
      PacketEffect env d packet Outcome.panic d'
  | badAddress {dst : Ipv4Addr} {entry : DownlinkForwardingRule}
      {e : UserplaneError} :
      HasDestination packet dst -> HasRule d dst entry ->
      IpAddr.tryFrom entry.remoteTunnelInfo.transportLayerAddress =
        Outcome.err e ->
      PacketEffect env d packet (Outcome.err e)
        ((d.received packet).used (downlinkTableIndexFromIp dst) entry)
  | sendFailed {dst : Ipv4Addr} {entry : DownlinkForwardingRule}
      {duIp : IpAddr} :
      HasDestination packet dst -> HasRule d dst entry ->
      IpAddr.tryFrom entry.remoteTunnelInfo.transportLayerAddress =
        Outcome.ok duIp ->
      env.canSend duIp = false ->
      PacketEffect env d packet (Outcome.err UserplaneError.socketSend)
        ((d.received packet).used (downlinkTableIndexFromIp dst) entry)
  | forwarded {dst : Ipv4Addr} {entry : DownlinkForwardingRule}
      {duIp : IpAddr} :
      HasDestination packet dst -> HasRule d dst entry ->
      entry.increment env = Outcome.ok entry.advance ->
      IpAddr.tryFrom entry.remoteTunnelInfo.transportLayerAddress =
        Outcome.ok duIp ->
      env.canSend duIp = true ->
      PacketEffect env d packet (Outcome.ok ())
        { (d.received packet).used (downlinkTableIndexFromIp dst) entry with
          sent := d.sent ++ [datagramFor entry packet duIp] }

theorem increment_cases (env : DownlinkEnv) (entry : DownlinkForwardingRule) :
    entry.increment env = Outcome.panic ∨
      entry.increment env = Outcome.ok entry.advance := by
  unfold DownlinkForwardingRule.increment
  split
  · exact Or.inl rfl
  · exact Or.inr rfl

theorem forward_effect (env : DownlinkEnv) (d : Downlink) (packet : TunPacket)
    {dst : Ipv4Addr} {entry : DownlinkForwardingRule}
    (hdst : HasDestination packet dst) (hrule : HasRule d dst entry) :
    let result := forward env packet (downlinkTableIndexFromIp dst) entry
      (d.received packet)
    PacketEffect env d packet result.1 result.2 := by
  rcases increment_cases env entry with hpanic | hinc
  · simp only [forward, Cmd.bind_run, Cmd.lift_run, hpanic]
    exact PacketEffect.overflow hdst hrule hpanic
  · simp only [forward, Cmd.bind_run, Cmd.lift_run, hinc, Cmd.modify_run]
    cases hip : IpAddr.tryFrom
        entry.remoteTunnelInfo.transportLayerAddress with
    | ok duIp =>
        simp only [sendTo]
        cases hsend : env.canSend duIp with
        | true => exact PacketEffect.forwarded hdst hrule hinc hip hsend
        | false => exact PacketEffect.sendFailed hdst hrule hip hsend
    | err e => exact PacketEffect.badAddress hdst hrule hip
    | panic => exact absurd hip (tryFrom_ne_panic _)

theorem handle_effect (env : DownlinkEnv) (d : Downlink) (packet : TunPacket) :
    let result := handleNextDownlinkPacket env (some packet) d
    PacketEffect env d packet result.1 result.2 := by
  simp only [handleNextDownlinkPacket, addCounters, Cmd.bind_run,
    Cmd.modify_run]
  by_cases hlen : ipv4HeaderLen <= packet.bytes.length
  · rw [dif_pos hlen]
    have hdst : HasDestination packet (packet.destination hlen) := ⟨hlen, rfl⟩
    revert hdst
    generalize packet.destination hlen = dst
    intro hdst
    simp only [lookupAndForward, Cmd.bind_run, Cmd.get_run, Cmd.lift_run]
    by_cases hidx : downlinkTableIndexFromIp dst < maxUes
    · rw [SlotTable.read_of_lt _ hidx]
      cases hslot : d.table.lookup (downlinkTableIndexFromIp dst) with
      | none => exact PacketEffect.noRule hdst hslot
      | some entry =>
          by_cases haddr : entry.ueIpAddr = IpAddr.v4 dst
          · simp only [haddr, ne_eq, not_true_eq_false, ↓reduceIte]
            exact forward_effect env d packet hdst ⟨hslot, haddr⟩
          · simp only [ne_eq, Ne.symm haddr, not_false_eq_true, ↓reduceIte]
            exact PacketEffect.otherAddress hdst hslot haddr
    · rw [SlotTable.read_of_not_lt _ hidx]
      exact PacketEffect.beyondTable hdst hidx
  · rw [dif_neg hlen]
    exact PacketEffect.tooShort (Nat.lt_of_not_le hlen)

end Downlink
end Userplane
end QCore
