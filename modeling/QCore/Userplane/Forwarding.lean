import QCore.Userplane.Plane
import QCore.Userplane.UplinkPipeline

/-!
# Forwarding decisions

Both pipelines find a rule by one octet and compare the whole key after that.
In every state that session operations and traffic reach, that is enough: a
packet is forwarded exactly when a session for it exists, and as that session
says.
-/

namespace QCore
namespace Userplane

open Foundation

/-!
## The rules of committed sessions
-/

namespace Shared

/-- The session is committed with this tunnel, and its deletion has not begun. -/
structure Serves (s : Shared) (e : LiveSession) (tunnel : GtpTunnel) :
    Prop where
  live : e ∈ s.live
  committed : e.committed = some tunnel
  kept : forall task, s.progress task ≠ Progress.deleting e.session

def DownlinkComplete (s : Shared) : Prop :=
  forall e tunnel, s.Serves e tunnel ->
    exists rule,
      s.processor.downlinkForwardingTable.lookup e.session.slot = some rule ∧
        rule.ueIpAddr = e.session.ueIpAddr ∧ rule.remoteTunnelInfo = tunnel

theorem Serves.before {s s' : Shared} {e : LiveSession} {tunnel : GtpTunnel}
    (h : s'.Serves e tunnel) (hlive : e ∈ s.live)
    (hdeleting : forall task, s.progress task = Progress.deleting e.session ->
      s'.progress task = Progress.deleting e.session) : s.Serves e tunnel where
  live := hlive
  committed := h.committed
  kept task hold := h.kept task (hdeleting task hold)

theorem Serves.before_update {s s' : Shared} {e : LiveSession}
    {tunnel : GtpTunnel} {task : Nat} {p : Progress}
    (h : s'.Serves e tunnel) (hlive : e ∈ s.live)
    (hprogress : s'.progress = Function.update s.progress task p)
    (hother : s.progress task ≠ Progress.deleting e.session) :
    s.Serves e tunnel := by
  apply h.before hlive
  intro t ht
  have hne : t ≠ task := by
    intro heq
    rw [heq] at ht
    exact hother ht
  rw [hprogress, Function.update_of_ne hne]
  exact ht

theorem downlinkComplete_effect {subnet : Ipv4Addr} {s s' : Shared} {m : Move}
    (hown : s.Owned subnet) (h : s.DownlinkComplete)
    (heffect : Effect s m s') : s'.DownlinkComplete := by
  intro e tunnel hserves
  cases heffect with
  | indexTaken hidle _ _ =>
      exact h e tunnel
        (hserves.before_update hserves.live rfl (by simp [hidle]))
  | indexRefused _ _ =>
      exact h e tunnel (hserves.before hserves.live fun _ hp => hp)
  | uplinkInstalled hprog =>
      have hold : e ∈ s.live := by
        rcases List.mem_append.mp hserves.live with hold | hnew
        · exact hold
        · have hnone := hserves.committed
          rw [List.mem_singleton.mp hnew] at hnone
          cases hnone
      exact h e tunnel (hserves.before_update hold rfl (by simp [hprog]))
  | @committed task session tunnel' _ howns =>
      have hlt := (hown.reserved_of_owns howns).slot_lt
      rcases mem_recordCommit hserves.live with
        ⟨e0, he0, _, hsession, hcommitted⟩
      rw [hserves.committed] at hcommitted
      rw [hsession]
      by_cases hs : e0.session = session
      · rw [if_pos hs] at hcommitted
        cases hcommitted
        rw [hs]
        exact ⟨_, SlotTable.lookup_set_self _ _ hlt, rfl, rfl⟩
      · rw [if_neg hs] at hcommitted
        have hserves0 : s.Serves e0 tunnel :=
          { live := he0
            committed := hcommitted.symm
            kept := by
              rw [← hsession]
              exact hserves.kept }
        rcases h e0 tunnel hserves0 with ⟨rule, hrule, hrest⟩
        refine ⟨rule, ?_, hrest⟩
        rw [← hrule]
        exact SlotTable.lookup_set_ne _ _
          (slot_ne_of_session_ne hown howns he0 hs)
  | @downlinkRemoved task session hidle howns =>
      have hne : e.session ≠ session := by
        intro heq
        apply hserves.kept task
        rw [heq]
        exact Function.update_self _ _ _
      have hlive : e ∈ s.live := hserves.live
      have hserves0 : s.Serves e tunnel :=
        hserves.before_update hlive rfl (by simp [hidle])
      rcases h e tunnel hserves0 with ⟨rule, hrule, hrest⟩
      refine ⟨rule, ?_, hrest⟩
      rw [← hrule]
      exact SlotTable.lookup_set_ne _ _
        (slot_ne_of_session_ne hown howns hlive hne)
  | @uplinkRemoved task session hprog =>
      rcases List.mem_filter.mp hserves.live with ⟨hlive, hne⟩
      rw [decide_eq_true_eq] at hne
      apply h e tunnel (hserves.before_update hlive rfl _)
      rw [hprog]
      intro hp
      cases hp
      exact hne rfl
  | @forwarded slot old hold =>
      have hserves0 : s.Serves e tunnel :=
        hserves.before hserves.live fun _ hp => hp
      rcases h e tunnel hserves0 with ⟨rule, hrule, haddr, htunnel⟩
      by_cases hslot : e.session.slot = slot
      · rw [hslot, hold] at hrule
        cases hrule
        rw [hslot]
        exact ⟨_, SlotTable.lookup_set_self _ _ (SlotTable.lt_of_lookup hold),
          haddr, htunnel⟩
      · refine ⟨rule, ?_, haddr, htunnel⟩
        rw [← hrule]
        exact SlotTable.lookup_set_ne _ _ hslot

theorem downlinkComplete_run {subnet : Ipv4Addr} {s : Shared} {ms : List Move}
    (hrun : sessionMachine.run (start subnet) ms = some s) :
    s.DownlinkComplete := by
  have hboth : s.Consistent subnet ∧ s.DownlinkComplete := by
    refine Machine.run_invariant
      (I := fun s => s.Consistent subnet ∧ s.DownlinkComplete)
      ?_ ⟨consistent_start subnet, ?_⟩ hrun
    · intro q m q' hq hstep
      have heffect := step_effect hq.left.owned hstep
      exact ⟨consistent_step hq.left hstep,
        downlinkComplete_effect hq.left.owned hq.right heffect⟩
    · intro e tunnel hserves
      cases hserves.live
  exact hboth.right

/-!
## Rules and sessions
-/

theorem hasRule_iff_serves {subnet : Ipv4Addr} {s : Shared}
    (h : s.Consistent subnet) (hcomplete : s.DownlinkComplete) {d : Downlink}
    (htable : d.table = s.processor.downlinkForwardingTable) (dst : Ipv4Addr)
    (tunnel : GtpTunnel) :
    (exists entry, d.HasRule dst entry ∧ entry.remoteTunnelInfo = tunnel) <->
      exists e, s.Serves e tunnel ∧ e.session.ueIpAddr = IpAddr.v4 dst := by
  unfold Downlink.HasRule
  rw [htable]
  constructor
  · intro hex
    rcases hex with ⟨entry, ⟨hslot, haddr⟩, htunnel⟩
    rcases h.downlinkSound _ entry hslot with
      ⟨e, he, hindex, haddr', hcommitted⟩
    rw [htunnel] at hcommitted
    refine ⟨e, ⟨he, hcommitted, ?_⟩, haddr'.symm.trans haddr⟩
    intro task hdeleting
    have hnone := h.deletingClear task e.session hdeleting
    rw [hindex, hslot] at hnone
    cases hnone
  · intro hex
    rcases hex with ⟨e, hserves, haddr⟩
    rcases hcomplete e tunnel hserves with ⟨rule, hrule, haddr', htunnel⟩
    rcases (h.owned.live_reserved e hserves.live).address with
      ⟨addr, heq, hslot, _⟩
    rw [haddr] at heq
    cases heq
    rw [← hslot] at hrule
    exact ⟨rule, ⟨hrule, haddr'.trans haddr⟩, htunnel⟩

theorem hasRule_iff_live {subnet : Ipv4Addr} {s : Shared}
    (h : s.Consistent subnet) {u : Uplink}
    (htable : u.table = s.processor.uplinkForwardingTable) (r : UdpRead) :
    (exists entry, u.HasRule r entry) <->
      exists e, e ∈ s.live ∧ r.gtpTeid = e.session.uplinkGtpTeid.toList := by
  unfold Uplink.HasRule
  rw [htable]
  constructor
  · intro hex
    rcases hex with ⟨entry, hslot, hteid⟩
    rcases (h.uplinkExact _ entry).mp hslot with ⟨e, he, _, hlocal⟩
    rw [hlocal] at hteid
    exact ⟨e, he, hteid⟩
  · intro hex
    rcases hex with ⟨e, he, hteid⟩
    refine ⟨⟨e.session.uplinkGtpTeid⟩, ?_, hteid⟩
    rw [Uplink.index_of_gtpTeid hteid]
    exact (h.uplinkExact _ _).mpr ⟨e, he, rfl, rfl⟩

end Shared

/-!
## Calls that return normally
-/

def Datagram.teid (datagram : Datagram) : Bytes :=
  (datagram.payload.take 8).drop 4

theorem datagramFor_payload (entry : DownlinkForwardingRule)
    (packet : TunPacket) (duIp : IpAddr) :
    (Downlink.datagramFor entry packet duIp).payload.drop 22 =
      packet.bytes :=
  List.drop_left' (downlinkHeader_length _ _ _ _)

theorem datagramFor_teid (entry : DownlinkForwardingRule) (packet : TunPacket)
    (duIp : IpAddr) :
    (Downlink.datagramFor entry packet duIp).teid =
      entry.remoteTunnelInfo.gtpTeid.toList := by
  simp [Datagram.teid, Downlink.datagramFor, downlinkHeader, be16]

theorem Downlink.PacketEffect.returned {env : DownlinkEnv} {d d' : Downlink}
    {packet : TunPacket} (h : PacketEffect env d packet (Outcome.ok ()) d') :
    (d'.sent = d.sent ∧ d'.table = d.table ∧
        forall dst entry, HasDestination packet dst -> ¬ d.HasRule dst entry) ∨
      exists dst entry duIp, HasDestination packet dst ∧ d.HasRule dst entry ∧
        IpAddr.tryFrom entry.remoteTunnelInfo.transportLayerAddress =
          Outcome.ok duIp ∧
        d'.sent = d.sent ++ [datagramFor entry packet duIp] ∧
        d'.table =
          d.table.set (downlinkTableIndexFromIp dst) (some entry.advance) := by
  cases h with
  | tooShort hshort =>
      refine Or.inl ⟨rfl, rfl, ?_⟩
      intro dst entry hdst _
      rcases hdst with ⟨hlen, _⟩
      exact absurd hlen (Nat.not_le_of_lt hshort)
  | noRule hdst hnone =>
      refine Or.inl ⟨rfl, rfl, ?_⟩
      intro dst entry hdst' hrule
      rw [Plane.hasDestination_unique hdst hdst', hrule.left] at hnone
      cases hnone
  | otherAddress hdst hslot hne =>
      refine Or.inl ⟨rfl, rfl, ?_⟩
      intro dst entry hdst' hrule
      rw [Plane.hasDestination_unique hdst hdst'] at hslot hne
      rw [hrule.left] at hslot
      cases hslot
      exact hne hrule.right
  | forwarded hdst hrule _ hip _ =>
      exact Or.inr ⟨_, _, _, hdst, hrule, hip, rfl, rfl⟩

theorem Uplink.DatagramEffect.table_eq {env : UplinkEnv} {u u' : Uplink}
    {r : UdpRead} {out : Outcome UplinkError Unit}
    (h : DatagramEffect env u r out u') : u'.table = u.table := by
  cases h with
  | dropped _ _ => rfl
  | beyondTable _ _ => rfl
  | noRule _ _ _ => rfl
  | otherTeid _ _ _ => rfl
  | notWritten _ _ _ => rfl
  | notFlushed _ _ _ _ => rfl
  | written _ _ _ _ => rfl

theorem Uplink.DatagramEffect.returned {env : UplinkEnv} {u u' : Uplink}
    {r : UdpRead} (h : DatagramEffect env u r (Outcome.ok ()) u') :
    (u'.written = u.written ∧
        forall offset entry, r.UserPacketAt offset -> ¬ u.HasRule r entry) ∨
      exists offset entry, r.UserPacketAt offset ∧ u.HasRule r entry ∧
        u'.written = u.written ++ [r.innerPacket offset] := by
  cases h with
  | dropped _ hno =>
      exact Or.inl ⟨rfl, fun offset _ hpacket _ => hno offset hpacket⟩
  | noRule _ _ hnone =>
      refine Or.inl ⟨rfl, ?_⟩
      intro _ entry _ hrule
      rw [hrule.left] at hnone
      cases hnone
  | otherTeid _ hslot hother =>
      refine Or.inl ⟨rfl, ?_⟩
      intro _ entry _ hrule
      rw [hrule.left] at hslot
      cases hslot
      exact hother hrule.right
  | written hpacket hrule _ _ => exact Or.inr ⟨_, _, hpacket, hrule, rfl⟩

/-!
## Decisions
-/

def Shared.ServesPacket (s : Shared) (packet : TunPacket) : Prop :=
  exists dst e tunnel, Downlink.HasDestination packet dst ∧
    s.Serves e tunnel ∧ e.session.ueIpAddr = IpAddr.v4 dst

def Shared.KnowsTeid (s : Shared) (r : UdpRead) : Prop :=
  exists e, e ∈ s.live ∧ r.gtpTeid = e.session.uplinkGtpTeid.toList

structure DownlinkDecision (s : Shared) (packet : TunPacket)
    (d d' : Downlink) : Prop where
  sent_iff : forall dst, Downlink.HasDestination packet dst ->
    ((exists datagram, d'.sent = d.sent ++ [datagram]) <->
      exists e tunnel, s.Serves e tunnel ∧
        e.session.ueIpAddr = IpAddr.v4 dst)
  unsent : ¬ s.ServesPacket packet -> d'.sent = d.sent
  /-- A datagram goes to the DU of the session, has its TEID, and ends with the
  packet. -/
  to_session : forall dst datagram e tunnel,
    Downlink.HasDestination packet dst ->
    d'.sent = d.sent ++ [datagram] ->
    s.Serves e tunnel -> e.session.ueIpAddr = IpAddr.v4 dst ->
      IpAddr.tryFrom tunnel.transportLayerAddress =
          Outcome.ok datagram.destination ∧
        datagram.port = 2152 ∧
        datagram.teid = tunnel.gtpTeid.toList ∧
        datagram.payload.drop 22 = packet.bytes
  /-- A packet that is not sent changes no rule, and one that is sent moves on
  the sequence numbers of its own rule. -/
  rules :
    d'.sent = d.sent ∧ d'.table = d.table ∨
      exists datagram dst i rule,
        d'.sent = d.sent ++ [datagram] ∧ Downlink.HasDestination packet dst ∧
        d.table.lookup i = some rule ∧ rule.ueIpAddr = IpAddr.v4 dst ∧
        d'.table = d.table.set i (some
          { rule with
            pdcpSeqNum := rule.pdcpSeqNum + 1
            nrSeqNum := rule.nrSeqNum + 1 })

structure UplinkDecision (s : Shared) (r : UdpRead) (u u' : Uplink) :
    Prop where
  written_iff : forall offset, r.UserPacketAt offset ->
    (u'.written = u.written ++ [r.innerPacket offset] <-> s.KnowsTeid r)
  unwritten : (forall offset, ¬ r.UserPacketAt offset) ∨ ¬ s.KnowsTeid r ->
    u'.written = u.written
  rules : u'.table = u.table

theorem downlinkDecision {subnet : Ipv4Addr} {s : Shared}
    (h : s.Consistent subnet) (hcomplete : s.DownlinkComplete)
    {env : DownlinkEnv} {d d' : Downlink} {packet : TunPacket}
    (htable : d.table = s.processor.downlinkForwardingTable)
    (heffect : Downlink.PacketEffect env d packet (Outcome.ok ()) d') :
    DownlinkDecision s packet d d' := by
  have hserves := Shared.hasRule_iff_serves h hcomplete htable
  rcases heffect.returned with
    ⟨hsent, hsame, hno⟩ | ⟨dst, entry, duIp, hdst, hrule, hip, hsent, hused⟩
  · have hnot : forall datagram, d'.sent ≠ d.sent ++ [datagram] := by
      intro datagram
      rw [hsent]
      simp
    refine ⟨?_, fun _ => hsent, ?_, Or.inl ⟨hsent, hsame⟩⟩
    · intro dst hdst
      constructor
      · intro hex
        rcases hex with ⟨datagram, hdatagram⟩
        exact absurd hdatagram (hnot datagram)
      · intro hex
        rcases hex with ⟨e, tunnel, he⟩
        rcases (hserves dst tunnel).mpr ⟨e, he⟩ with ⟨entry, hrule, _⟩
        exact absurd hrule (hno dst entry hdst)
    · intro dst datagram _ _ _ hdatagram
      exact absurd hdatagram (hnot datagram)
  · refine ⟨?_, ?_, ?_, Or.inr ⟨_, dst, _, entry, hsent, hdst, hrule.left,
      hrule.right, hused⟩⟩
    · intro dst' hdst'
      rw [Plane.hasDestination_unique hdst' hdst]
      constructor
      · intro _
        rcases (hserves dst _).mp ⟨entry, hrule, rfl⟩ with ⟨e, he⟩
        exact ⟨e, _, he⟩
      · intro _
        exact ⟨_, hsent⟩
    · intro hno
      rcases (hserves dst _).mp ⟨entry, hrule, rfl⟩ with ⟨e, he, haddr⟩
      exact absurd ⟨dst, e, _, hdst, he, haddr⟩ hno
    · intro dst' datagram e tunnel hdst' hdatagram he haddr
      rw [Plane.hasDestination_unique hdst' hdst] at haddr
      rcases (hserves dst tunnel).mpr ⟨e, he, haddr⟩ with
        ⟨entry', hrule', htunnel⟩
      have hentry := hrule.left.symm.trans hrule'.left
      cases hentry
      rw [hsent] at hdatagram
      have hlast := List.append_cancel_left hdatagram
      rw [← List.singleton_inj.mp hlast, datagramFor_teid,
        datagramFor_payload, ← htunnel]
      exact ⟨hip, rfl, rfl, rfl⟩

theorem uplinkDecision {subnet : Ipv4Addr} {s : Shared}
    (h : s.Consistent subnet) {env : UplinkEnv} {u u' : Uplink} {r : UdpRead}
    (htable : u.table = s.processor.uplinkForwardingTable)
    (heffect : Uplink.DatagramEffect env u r (Outcome.ok ()) u') :
    UplinkDecision s r u u' := by
  have hknows : (exists entry, u.HasRule r entry) <-> s.KnowsTeid r :=
    Shared.hasRule_iff_live h htable r
  rcases heffect.returned with
    ⟨hwritten, hno⟩ | ⟨offset, entry, hpacket, hrule, hwritten⟩
  · refine ⟨?_, fun _ => hwritten, heffect.table_eq⟩
    intro offset hpacket
    rw [← hknows, hwritten]
    constructor
    · intro hmore
      simp at hmore
    · rintro ⟨entry, hrule⟩
      exact absurd hrule (hno offset entry hpacket)
  · have hteid := hknows.mp ⟨entry, hrule⟩
    refine ⟨?_, ?_, heffect.table_eq⟩
    · intro offset' hpacket'
      rw [UdpRead.pdcpAt_unique hpacket'.pdcpAt hpacket.pdcpAt]
      exact iff_of_true hwritten hteid
    · rintro (hnone | hunknown)
      · exact absurd hpacket (hnone offset)
      · exact absurd hteid hunknown

/-- In every state that session operations and traffic reach, in any order, each
call of a pipeline that returns normally forwards its packet, once and whole,
exactly when there is a session for it, and then as that session says; no other
rule changes. -/
theorem forwarding_exact {env : DownlinkEnv} {subnet : Ipv4Addr}
    {events : List PlaneEvent} {p : Plane}
    (hrun : (planeMachine env).run (Plane.start subnet) events = some p) :
    (forall packet d',
      Downlink.handleNextDownlinkPacket env (some packet) p.downlink =
        (Outcome.ok (), d') ->
      DownlinkDecision p.shared packet p.downlink d') ∧
    (forall uplinkEnv fuel r u u',
      u.table = p.shared.processor.uplinkForwardingTable ->
      Uplink.handleNextUplinkPacket uplinkEnv fuel (some r) u =
        some (Outcome.ok (), u') ->
      UplinkDecision p.shared r u u') := by
  rcases Plane.sessionMachine_run hrun with ⟨ms, hms⟩
  have h := Shared.consistent_run hms
  constructor
  · intro packet d' hcall
    have heffect := Downlink.handle_effect env p.downlink packet
    rw [hcall] at heffect
    exact downlinkDecision h (Shared.downlinkComplete_run hms) rfl heffect
  · intro uplinkEnv fuel r u u' htable hcall
    exact uplinkDecision h htable (Uplink.handle_effect hcall)

def Plane.uplink (p : Plane) : Uplink :=
  { Uplink.emptyUplink with
    table := p.shared.processor.uplinkForwardingTable }

theorem forwarding_exact_attached :
    exists p d' u',
      (planeMachine Plane.ipv4Socket).run (Plane.start Shared.smallSubnet)
          (Plane.attach Shared.smallSubnet Shared.smallTunnel) = some p ∧
        (d'.sent.length = 1 ∧
          DownlinkDecision p.shared
            (Plane.packetTo (PacketProcessor.sessionAddr Shared.smallSubnet 1))
            p.downlink d') ∧
        u'.written.length = 1 ∧
          UplinkDecision p.shared (Uplink.gpdu 1) p.uplink u' := by
  have hresult : ((planeMachine Plane.ipv4Socket).run
      (Plane.start Shared.smallSubnet)
      (Plane.attach Shared.smallSubnet Shared.smallTunnel)).map (fun p =>
        ((Downlink.handleNextDownlinkPacket Plane.ipv4Socket
            (some (Plane.packetTo
              (PacketProcessor.sessionAddr Shared.smallSubnet 1)))
            p.downlink).map id (fun d => d.sent.length),
          (Uplink.handleNextUplinkPacket Uplink.openTun 2
            (some (Uplink.gpdu 1)) p.uplink).map
              (Prod.map id fun u => u.written.length))) =
      some ((Outcome.ok (), 1), some (Outcome.ok (), 1)) := by
    decide +kernel
  rcases Option.map_eq_some_iff.mp hresult with ⟨p, hrun, hcalls⟩
  rcases Prod.mk.inj hcalls with ⟨hsent, hwritten⟩
  have hexact := forwarding_exact hrun
  revert hsent
  cases hsend : Downlink.handleNextDownlinkPacket Plane.ipv4Socket
      (some (Plane.packetTo (PacketProcessor.sessionAddr Shared.smallSubnet 1)))
      p.downlink with
  | mk out d' =>
      intro hsent
      have hout : out = Outcome.ok () := congrArg Prod.fst hsent
      rw [hout] at hsend
      rcases Option.map_eq_some_iff.mp hwritten with
        ⟨⟨out', u'⟩, hwrite, hpair⟩
      have hout' : out' = Outcome.ok () := congrArg Prod.fst hpair
      rw [hout'] at hwrite
      exact ⟨p, d', u', hrun,
        ⟨congrArg Prod.snd hsent, hexact.left _ _ hsend⟩,
        congrArg Prod.snd hpair, hexact.right _ _ _ _ _ rfl hwrite⟩

end Userplane
end QCore
