import QCore.Foundation.Buffer
import QCore.Userplane.DownlinkPipeline

/-!
# The downlink handler on its buffer

The handler works in one buffer of 2000 bytes.  The packet is read to offset 22,
and the headers are then written before it.  Here every index and slice of the
source is checked.  The handler turns out to be the one of the packet model, so
all it can panic on is the slot of the forwarding table and the counters of a
rule.
-/

namespace QCore
namespace Userplane

open Foundation

/-- The buffer after a read from the tun device, which was given all of it from
offset 22 on. -/
structure TunRead where
  buf : Buffer 2000
  bytesRead : Nat
  fits : bytesRead <= 1978

namespace TunRead

def packet (r : TunRead) : TunPacket where
  bytes := (r.buf.bytes.drop downlinkInnerPacketOffset).take r.bytesRead
  fits := Nat.le_trans (List.length_take_le _ _) r.fits

theorem packet_length (r : TunRead) : r.packet.bytes.length = r.bytesRead := by
  have hfits := r.fits
  have hsize := r.buf.size
  show ((r.buf.bytes.drop 22).take r.bytesRead).length = r.bytesRead
  rw [List.length_take, List.length_drop]
  lia

theorem header_iff (r : TunRead) :
    ipv4HeaderLen <= r.packet.bytes.length <->
      ¬ r.bytesRead < ipv4HeaderLen := by
  rw [r.packet_length]
  exact Nat.not_lt.symm

def destination (r : TunRead) : Ipv4Addr :=
  ⟨#v[r.buf.byte 38, r.buf.byte 39, r.buf.byte 40, r.buf.byte 41]⟩

end TunRead

/-- `Ipv4Addr::new(ip_header[16], .., ip_header[19])` -/
def destinationIn (ipHeader : Bytes) : Outcome UserplaneError Ipv4Addr :=
  match ipHeader[16]?, ipHeader[17]?, ipHeader[18]?, ipHeader[19]? with
  | some a, some b, some c, some d => Outcome.ok ⟨#v[a, b, c, d]⟩
  | _, _, _, _ => Outcome.panic

namespace Downlink

def forwardInBuffer (env : DownlinkEnv) (r : TunRead) (idx : Nat)
    (entry : DownlinkForwardingRule) : Cmd Downlink UserplaneError Unit := do
  let next <- Cmd.lift (entry.increment env)
  Cmd.modify fun d => { d with table := d.table.set idx (some next) }
  let buf <- Cmd.lift (r.buf.store 0
    (downlinkHeader r.bytesRead entry.remoteTunnelInfo.gtpTeid
      entry.pdcpSeqNum entry.nrSeqNum))
  Cmd.lift (if downlinkInnerPacketOffset = 22 then Outcome.ok ()
    else Outcome.panic)
  let duIp <- Cmd.lift
    (IpAddr.tryFrom entry.remoteTunnelInfo.transportLayerAddress)
  let payload <- Cmd.lift
    (buf.slice 0 (r.bytesRead + downlinkInnerPacketOffset))
  sendTo env { destination := duIp, port := gtpuPort, payload := payload }

/-- `handle_next_downlink_packet` after a successful read. -/
def handleInBuffer (env : DownlinkEnv) (r : TunRead) :
    Cmd Downlink UserplaneError Unit := do
  addCounters fun c =>
    { c with
      rxPkts := c.rxPkts + 1
      rxBytes := c.rxBytes + UInt64.ofNat r.bytesRead }
  if r.bytesRead < ipv4HeaderLen then
    addCounters fun c => { c with dropTooShort := c.dropTooShort + 1 }
  else do
    let ipHeader <- Cmd.lift (r.buf.slice downlinkInnerPacketOffset
      (downlinkInnerPacketOffset + ipv4HeaderLen))
    let ueIpAddr <- Cmd.lift (destinationIn ipHeader)
    let d <- Cmd.get
    let slot <- Cmd.lift (d.table.read (downlinkTableIndexFromIp ueIpAddr))
    match slot with
    | none =>
        addCounters fun c => { c with dropUnknownIp1 := c.dropUnknownIp1 + 1 }
    | some entry =>
        if IpAddr.v4 ueIpAddr ≠ entry.ueIpAddr then
          addCounters fun c => { c with dropUnknownIp2 := c.dropUnknownIp2 + 1 }
        else
          forwardInBuffer env r (downlinkTableIndexFromIp ueIpAddr) entry

/-!
## The buffer and the packet
-/

theorem store_header (r : TunRead) (entry : DownlinkForwardingRule) :
    exists buf : Buffer 2000,
      (r.buf.store 0 (downlinkHeader r.bytesRead
          entry.remoteTunnelInfo.gtpTeid entry.pdcpSeqNum entry.nrSeqNum) :
        Outcome UserplaneError (Buffer 2000)) = Outcome.ok buf ∧
      (buf.slice 0 (r.bytesRead + downlinkInnerPacketOffset) :
        Outcome UserplaneError Bytes) =
          Outcome.ok (downlinkHeader r.bytesRead
            entry.remoteTunnelInfo.gtpTeid entry.pdcpSeqNum entry.nrSeqNum ++
              r.packet.bytes) := by
  have hfits := r.fits
  have hlength := downlinkHeader_length r.bytesRead
    entry.remoteTunnelInfo.gtpTeid entry.pdcpSeqNum entry.nrSeqNum
  revert hlength
  generalize downlinkHeader r.bytesRead entry.remoteTunnelInfo.gtpTeid
    entry.pdcpSeqNum entry.nrSeqNum = header
  intro hlength
  have hroom : 0 + header.length <= 2000 := by
    rw [hlength]
    lia
  rcases r.buf.store_of_fits (ε := UserplaneError) hroom with
    ⟨buf, hstore, hbytes⟩
  refine ⟨buf, hstore, ?_⟩
  rw [Buffer.slice_of_le buf (Nat.zero_le _)
    (by unfold downlinkInnerPacketOffset gtpExtendedHeaderLen
          gtpExtHeaderLenNrupDlUserData pdcpHeaderLen
        lia)]
  rw [hbytes, List.drop_zero, List.take_zero, List.nil_append, Nat.zero_add,
    List.take_append, hlength]
  congr 2
  exact List.take_of_length_le (by rw [hlength]; exact Nat.le_add_left _ _)

theorem forwardInBuffer_eq (env : DownlinkEnv) (r : TunRead) (idx : Nat)
    (entry : DownlinkForwardingRule) :
    forwardInBuffer env r idx entry = forward env r.packet idx entry := by
  rcases store_header r entry with ⟨buf, hstore, hslice⟩
  funext d
  simp only [forwardInBuffer, forward, Cmd.bind_run, Cmd.lift_run]
  cases entry.increment env with
  | err e => rfl
  | panic => rfl
  | ok next =>
      have hoffset : downlinkInnerPacketOffset = 22 := rfl
      simp only [Cmd.modify_run, hstore, hslice, r.packet_length]
      rw [if_pos hoffset]

theorem destinationIn_eq (r : TunRead) :
    destinationIn ((r.buf.bytes.take
      (downlinkInnerPacketOffset + ipv4HeaderLen)).drop
        downlinkInnerPacketOffset) = Outcome.ok r.destination := by
  have hbyte : forall i, i < 20 ->
      ((r.buf.bytes.take 42).drop 22)[i]? = some (r.buf.byte (22 + i)) := by
    intro i hi
    rw [List.getElem?_drop, List.getElem?_take_of_lt (by lia),
      r.buf.getElem?_of_lt (by lia)]
  show destinationIn ((r.buf.bytes.take 42).drop 22) = _
  unfold destinationIn
  rw [hbyte 16 (by decide), hbyte 17 (by decide), hbyte 18 (by decide),
    hbyte 19 (by decide)]
  rfl

theorem packet_destination (r : TunRead)
    (h : ipv4HeaderLen <= r.packet.bytes.length) :
    r.packet.destination h = r.destination := by
  have hbyte : forall i (hi : i < r.packet.bytes.length),
      r.packet.bytes[i] = r.buf.byte (22 + i) := by
    intro i hi
    apply Option.some.inj
    have hread : i < r.bytesRead := by
      rw [← r.packet_length]
      exact hi
    have hfits := r.fits
    rw [← List.getElem?_eq_getElem hi]
    show ((r.buf.bytes.drop 22).take r.bytesRead)[i]? = _
    rw [List.getElem?_take_of_lt hread, List.getElem?_drop,
      r.buf.getElem?_of_lt (by lia)]
  simp only [TunPacket.destination, hbyte]
  exact congrArg (fun last => Ipv4Addr.mk
    #v[r.buf.byte 38, r.buf.byte 39, r.buf.byte 40, last]) (hbyte 19 h)

theorem handleInBuffer_eq (env : DownlinkEnv) (r : TunRead) :
    handleInBuffer env r = handleNextDownlinkPacket env (some r.packet) := by
  have hslice : (r.buf.slice downlinkInnerPacketOffset
      (downlinkInnerPacketOffset + ipv4HeaderLen) :
        Outcome UserplaneError Bytes) = _ :=
    Buffer.slice_of_le r.buf (Nat.le_add_right _ _) (by decide)
  funext d
  simp only [handleInBuffer, handleNextDownlinkPacket, addCounters,
    Cmd.bind_run, Cmd.modify_run, countReceived]
  cases Nat.decLt r.bytesRead ipv4HeaderLen with
  | isTrue hshort =>
      have hno : ¬ ipv4HeaderLen <= r.packet.bytes.length :=
        fun hheader => r.header_iff.mp hheader hshort
      rw [if_pos hshort, dif_neg hno, r.packet_length]
  | isFalse hlong =>
      have hyes := r.header_iff.mpr hlong
      rw [if_neg hlong, dif_pos hyes, packet_destination r hyes,
        r.packet_length]
      simp only [Cmd.bind_run, Cmd.lift_run, hslice, destinationIn_eq,
        lookupAndForward, Cmd.get_run, forwardInBuffer_eq]
      rfl

/-!
## When the handler panics
-/

/-- The rule has a counter that the next packet would overflow. -/
def Exhausted (env : DownlinkEnv) (entry : DownlinkForwardingRule) : Prop :=
  env.overflowChecks = true ∧
    (entry.pdcpSeqNum = 0xffff ∨ entry.nrSeqNum = 0xffffffff)

instance (env : DownlinkEnv) (entry : DownlinkForwardingRule) :
    Decidable (Exhausted env entry) :=
  inferInstanceAs (Decidable (_ ∧ _))

theorem increment_panic_iff (env : DownlinkEnv)
    (entry : DownlinkForwardingRule) :
    entry.increment env = Outcome.panic <-> Exhausted env entry := by
  show (if Exhausted env entry then _ else _) = _ <-> _
  by_cases hfull : Exhausted env entry
  · rw [if_pos hfull]
    exact ⟨fun _ => hfull, fun _ => rfl⟩
  · rw [if_neg hfull]
    constructor
    · intro h
      cases h
    · exact fun h => absurd h hfull

theorem forward_ne_panic_iff (env : DownlinkEnv) (packet : TunPacket)
    (idx : Nat) (entry : DownlinkForwardingRule) (d : Downlink) :
    (forward env packet idx entry d).1 ≠ Outcome.panic <->
      ¬ Exhausted env entry := by
  rw [← increment_panic_iff]
  simp only [forward, Cmd.bind_run, Cmd.lift_run]
  rcases increment_cases env entry with hpanic | hok
  · rw [hpanic]
    exact ⟨fun h => absurd rfl h, fun h => absurd rfl h⟩
  · rw [hok]
    constructor
    · intro _ h
      cases h
    · intro _
      simp only [Cmd.modify_run]
      cases hip : IpAddr.tryFrom
          entry.remoteTunnelInfo.transportLayerAddress with
      | panic => exact absurd hip (tryFrom_ne_panic _)
      | err e => exact Outcome.err_ne_panic
      | ok duIp =>
          simp only [sendTo]
          cases env.canSend duIp with
          | true => exact Outcome.ok_ne_panic
          | false => exact Outcome.err_ne_panic

theorem lookupAndForward_ne_panic_iff (env : DownlinkEnv) (packet : TunPacket)
    (dst : Ipv4Addr) (d : Downlink) :
    (lookupAndForward env packet dst d).1 ≠ Outcome.panic <->
      downlinkTableIndexFromIp dst < maxUes ∧
        forall entry, d.HasRule dst entry -> ¬ Exhausted env entry := by
  simp only [lookupAndForward, Cmd.bind_run, Cmd.get_run, Cmd.lift_run]
  by_cases hidx : downlinkTableIndexFromIp dst < maxUes
  · rw [SlotTable.read_of_lt _ hidx]
    simp only [hidx, true_and]
    cases hslot : d.table.lookup (downlinkTableIndexFromIp dst) with
    | none =>
        constructor
        · intro _ entry hrule
          cases hslot.symm.trans hrule.left
        · exact fun _ => Outcome.ok_ne_panic
    | some entry =>
        by_cases haddr : IpAddr.v4 dst = entry.ueIpAddr
        · simp only [haddr, ne_eq, not_true_eq_false, ↓reduceIte]
          rw [← ne_eq, forward_ne_panic_iff]
          constructor
          · intro h entry' hrule
            cases hslot.symm.trans hrule.left
            exact h
          · exact fun h => h entry ⟨hslot, haddr.symm⟩
        · simp only [ne_eq, haddr, not_false_eq_true, ↓reduceIte]
          constructor
          · intro _ entry' hrule
            cases hslot.symm.trans hrule.left
            exact absurd hrule.right.symm haddr
          · exact fun _ => Outcome.ok_ne_panic
  · rw [SlotTable.read_of_not_lt _ hidx]
    exact ⟨fun h => absurd rfl h, fun h => absurd h.left hidx⟩

/-- For every buffer, every read and every table: the handler returns unless the
last octet of the destination lies beyond the table, or the build checks for
overflow and the rule has used up a counter. -/
theorem handleInBuffer_ne_panic_iff (env : DownlinkEnv) (r : TunRead)
    (d : Downlink) :
    (handleInBuffer env r d).1 ≠ Outcome.panic <->
      r.bytesRead < ipv4HeaderLen ∨
        (downlinkTableIndexFromIp r.destination < maxUes ∧
          forall entry, d.HasRule r.destination entry ->
            ¬ Exhausted env entry) := by
  rw [handleInBuffer_eq]
  simp only [handleNextDownlinkPacket, addCounters, Cmd.bind_run,
    Cmd.modify_run]
  cases Nat.decLt r.bytesRead ipv4HeaderLen with
  | isTrue hshort =>
      have hno : ¬ ipv4HeaderLen <= r.packet.bytes.length :=
        fun hheader => r.header_iff.mp hheader hshort
      rw [dif_neg hno]
      exact ⟨fun _ => Or.inl hshort, fun _ => Outcome.ok_ne_panic⟩
  | isFalse hlong =>
      have hyes := r.header_iff.mpr hlong
      rw [dif_pos hyes, packet_destination r hyes,
        lookupAndForward_ne_panic_iff]
      exact ⟨Or.inr, fun h => h.resolve_left hlong⟩

def uniformRead (x : UInt8) : TunRead where
  buf := Buffer.filled 2000 x
  bytesRead := 20
  fits := by decide

def emptyDownlink : Downlink where
  table := SlotTable.empty DownlinkForwardingRule maxUes
  counters := ⟨0, 0, 0, 0, 0⟩
  sent := []

/-- Two octets lie beyond the table, also in a release build. -/
theorem handleInBuffer_panics_beyondTable :
    (handleInBuffer ⟨false, fun _ => true⟩ (uniformRead 254)
        emptyDownlink).1 = Outcome.panic ∧
      (handleInBuffer ⟨false, fun _ => true⟩ (uniformRead 255)
        emptyDownlink).1 = Outcome.panic := by
  decide +kernel

end Downlink
end Userplane
end QCore
