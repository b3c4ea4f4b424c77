import QCore.Foundation.F1uFormats
import QCore.Userplane.DownlinkBuffer
import QCore.Userplane.Forwarding

/-!
# Encapsulation of downlink packets

The 22 bytes that the handler writes before a packet are read back by a decoder
of the three formats.
-/

namespace QCore
namespace Userplane

open Foundation
open Foundation.F1u

/-- What a DU reads from the datagram for a packet. -/
structure Encapsulates (entry : DownlinkForwardingRule) (packet payload : Bytes)
    (pdu : DownlinkPdu) : Prop where
  decoded : decodeDownlink payload = some pdu
  gpdu : pdu.message.messageType = 255
  length : pdu.message.length + 8 = payload.length
  teid : pdu.message.teid = entry.remoteTunnelInfo.gtpTeid.toList
  container : exists content,
    pdu.message.extensions = [⟨nrRanContainer, 8, content⟩]
  nrNumber : pdu.container.sequenceNumber = entry.nrSeqNum.toNat % 16777216
  pdcpNumber : pdu.pdcp.sequenceNumber = entry.pdcpSeqNum.toNat % 4096
  reserved : pdu.pdcp.reserved = 0
  inner : pdu.pdcp.data = packet

namespace Downlink

def pdcpPdu (entry : DownlinkForwardingRule) (packet : Bytes) : Bytes :=
  ((0b10000000 : UInt8) ||| ((entry.pdcpSeqNum &&& 0x0f00) >>> 8).toUInt8) ::
    (entry.pdcpSeqNum &&& 0xff).toUInt8 :: packet

def containerContent (entry : DownlinkForwardingRule) : Bytes :=
  [0, 0] ++ (be32 entry.nrSeqNum).drop 1 ++ [0]

theorem decodeExtensions_container (entry : DownlinkForwardingRule)
    (after : Bytes) :
    decodeExtensions nrRanContainer
        (2 :: (containerContent entry ++ 0 :: after)) =
      some ([⟨nrRanContainer, 8, containerContent entry⟩], after) := by
  rw [decodeExtensions_cons (by decide) rfl, decodeExtensions_zero]
  rfl

def pduFor (entry : DownlinkForwardingRule) (packet : Bytes) :
    DownlinkPdu where
  message :=
    { messageType := gtpMessageTypeGpdu
      length := packet.length + 14
      teid := entry.remoteTunnelInfo.gtpTeid.toList
      extensions := [⟨nrRanContainer, 8, containerContent entry⟩]
      payload := pdcpPdu entry packet }
  container := ⟨0, 0, entry.nrSeqNum.toNat % 16777216⟩
  pdcp := ⟨0, entry.pdcpSeqNum.toNat % 4096, packet⟩

theorem decodeMessage_payload (entry : DownlinkForwardingRule)
    (packet : TunPacket) (duIp : IpAddr) :
    decodeMessage (datagramFor entry packet duIp).payload =
      some (pduFor entry packet.bytes).message := by
  have hfits := packet.fits
  have hlength : number (be16 (UInt16.ofNat
      (packet.bytes.length + downlinkInnerPacketOffset - gtpBaseHeaderLen))) =
        packet.bytes.length + 14 := by
    rw [number_be16]
    show (packet.bytes.length + 14) % 65536 = _
    exact Nat.mod_eq_of_lt (by lia)
  have hpayload : (datagramFor entry packet duIp).payload =
      [0b00110100, gtpMessageTypeGpdu] ++
        be16 (UInt16.ofNat (packet.bytes.length + downlinkInnerPacketOffset -
          gtpBaseHeaderLen)) ++
        entry.remoteTunnelInfo.gtpTeid.toList ++ [0, 0, 0, 0x84] ++
        2 :: (containerContent entry ++ 0 :: pdcpPdu entry packet.bytes) := by
    simp [datagramFor, downlinkHeader, containerContent, pdcpPdu,
      gtpExtHeaderLenNrupDlUserData]
  have hbody : (2 :: (containerContent entry ++
      0 :: pdcpPdu entry packet.bytes)).length + 4 =
        packet.bytes.length + 14 := by
    simp only [containerContent, pdcpPdu, be32, List.length_append,
      List.length_cons, List.length_nil, List.length_drop]
    lia
  rw [hpayload, decodeMessage_extended _ _ _ _ _ _ _ rfl
      (hlength.trans hbody.symm), hbody,
    show (0x84 : UInt8) = nrRanContainer from rfl,
    decodeExtensions_container]
  rfl

theorem decodeDlUserData_content (entry : DownlinkForwardingRule) :
    decodeDlUserData (containerContent entry) =
      some ⟨0, 0, entry.nrSeqNum.toNat % 16777216⟩ := by
  rw [← number_be32_low]
  rfl

theorem datagramFor_encapsulates (entry : DownlinkForwardingRule)
    (packet : TunPacket) (duIp : IpAddr) :
    Encapsulates entry packet.bytes (datagramFor entry packet duIp).payload
      (pduFor entry packet.bytes) := by
  refine ⟨?_, rfl, ?_, rfl, ⟨_, rfl⟩, rfl, rfl, rfl, rfl⟩
  · unfold decodeDownlink
    rw [decodeMessage_payload]
    show (do
      let container <- decodeDlUserData (containerContent entry)
      let pdcp <- decodePdcp (pdcpPdu entry packet.bytes)
      some (DownlinkPdu.mk _ container pdcp)) = _
    rw [decodeDlUserData_content, pdcpPdu, decodePdcp_counter]
    rfl
  · show packet.bytes.length + 14 + 8 = List.length (_ ++ packet.bytes)
    rw [List.length_append, downlinkHeader_length]
    lia

/-- The handler, on its buffer with whatever earlier packets left there: the
datagram it sends for a rule decodes to that rule and the packet, and it sends
one whenever the counters do not overflow and the DU can be reached. -/
theorem handle_encapsulates (env : DownlinkEnv) (r : TunRead) (d : Downlink)
    (dst : Ipv4Addr) (entry : DownlinkForwardingRule)
    (hdst : HasDestination r.packet dst) (hrule : d.HasRule dst entry) :
    (forall d', handleInBuffer env r d = (Outcome.ok (), d') ->
      exists datagram pdu, d'.sent = d.sent ++ [datagram] ∧
        Encapsulates entry r.packet.bytes datagram.payload pdu) ∧
    (entry.increment env ≠ Outcome.panic ->
      Plane.Deliverable env entry.remoteTunnelInfo ->
      (handleInBuffer env r d).1 = Outcome.ok ()) := by
  have heffect := handle_effect env d r.packet
  rw [handleInBuffer_eq]
  constructor
  · intro d' hcall
    rw [hcall] at heffect
    rcases PacketEffect.returned heffect with
      ⟨_, _, hno⟩ | ⟨dst', entry', duIp, hdst', hrule', _, hsent, _⟩
    · exact absurd hrule (hno dst entry hdst)
    · rw [Plane.hasDestination_unique hdst' hdst] at hrule'
      have hentry := hrule.left.symm.trans hrule'.left
      cases hentry
      exact ⟨_, _, hsent, datagramFor_encapsulates entry r.packet duIp⟩
  · intro hinc hdeliver
    rcases Plane.packetEffect_of_rule heffect hdst hrule with
      ⟨hpanic, _⟩ | ⟨hnot, _⟩ | ⟨_, _, hok⟩
    · exact absurd hpanic hinc
    · exact absurd hdeliver hnot
    · exact hok

/-- A rule whose counters are past the width of both fields. -/
def wrappedRule : DownlinkForwardingRule :=
  ⟨Shared.smallTunnel,
    IpAddr.v4 (PacketProcessor.sessionAddr Shared.smallSubnet 1), 4097,
    16777218⟩

def wrappedDownlink : Downlink where
  table := (SlotTable.empty DownlinkForwardingRule maxUes).set 1
    (some wrappedRule)
  counters := ⟨0, 0, 0, 0, 0⟩
  sent := []

/-- A packet in a buffer that is full of other bytes. -/
def dirtyRead : TunRead :=
  { uniformRead 0xaa with
    buf := ⟨List.replicate 22 0xaa ++
      (Plane.packetTo (PacketProcessor.sessionAddr Shared.smallSubnet 1)).bytes ++
        List.replicate 1958 0xaa, by
      simp only [List.length_append, List.length_replicate, Plane.packetTo,
        Vector.length_toList]⟩ }

theorem handle_encapsulates_wrapped :
    exists d' datagram pdu,
      handleInBuffer Plane.ipv4Socket dirtyRead wrappedDownlink =
          (Outcome.ok (), d') ∧
        d'.sent = wrappedDownlink.sent ++ [datagram] ∧
        Encapsulates wrappedRule dirtyRead.packet.bytes datagram.payload pdu ∧
        pdu.pdcp.sequenceNumber = 1 ∧ pdu.container.sequenceNumber = 2 := by
  have hdst : HasDestination dirtyRead.packet
      (PacketProcessor.sessionAddr Shared.smallSubnet 1) :=
    ⟨by decide +kernel, by decide +kernel⟩
  have hrule : wrappedDownlink.HasRule
      (PacketProcessor.sessionAddr Shared.smallSubnet 1) wrappedRule :=
    ⟨by decide +kernel, rfl⟩
  have hboth := handle_encapsulates Plane.ipv4Socket dirtyRead wrappedDownlink
    _ _ hdst hrule
  have hok := hboth.right (by decide) ⟨_, rfl, rfl⟩
  rcases hboth.left _ (Prod.ext hok rfl) with ⟨datagram, pdu, hsent, hpdu⟩
  exact ⟨_, datagram, pdu, Prod.ext hok rfl, hsent, hpdu, hpdu.pdcpNumber,
    hpdu.nrNumber⟩

end Downlink
end Userplane
end QCore
