import QCore.Userplane.Encapsulation

/-!
# Downlink sequence numbers

The datagrams for one session are numbered without gaps from its commit on, as
the DU reads the numbers, whatever other sessions and other packets do in
between.  The counters of a rule are wider than the fields, and both wrap.
-/

namespace QCore
namespace Userplane

open Foundation
open Foundation.F1u

def TunPacket.isFor (packet : TunPacket) (session : UserplaneSession) : Bool :=
  if h : ipv4HeaderLen <= packet.bytes.length then
    IpAddr.v4 (packet.destination h) = session.ueIpAddr
  else
    false

theorem TunPacket.isFor_iff {packet : TunPacket} {dst : Ipv4Addr}
    (hdst : Downlink.HasDestination packet dst) (session : UserplaneSession) :
    packet.isFor session = true <-> session.ueIpAddr = IpAddr.v4 dst := by
  rcases hdst with ⟨hlen, heq⟩
  rw [TunPacket.isFor, dif_pos hlen, heq, decide_eq_true_eq]
  exact eq_comm

def PlaneEvent.isFor (event : PlaneEvent) (session : UserplaneSession) : Bool :=
  match event with
  | PlaneEvent.packet (some read) => read.isFor session
  | _ => false

def PlaneEvent.Spares (session : UserplaneSession) : PlaneEvent -> Prop
  | PlaneEvent.session (Move.commit _ other _) => other ≠ session
  | PlaneEvent.session (Move.removeDownlink _ other) => other ≠ session
  | _ => True

namespace Plane

def sentBy (session : UserplaneSession) (p : Plane) (event : PlaneEvent)
    (p' : Plane) : List Datagram :=
  if event.isFor session then p'.sent.drop p.sent.length else []

def sentFor (env : DownlinkEnv) (session : UserplaneSession) (p : Plane)
    (events : List PlaneEvent) : List Datagram :=
  (planeMachine env).outputs (sentBy session) p events

/-- The DU reads the two sequence numbers of the packet with number `k`. -/
def HasNumber (k : Nat) (datagram : Datagram) : Prop :=
  exists pdu, decodeDownlink datagram.payload = some pdu ∧
    pdu.pdcp.sequenceNumber = k % 4096 ∧
    pdu.container.sequenceNumber = k % 16777216

/-!
## The counters of a rule
-/

structure UsedTimes (k : Nat) (rule : DownlinkForwardingRule) : Prop where
  pdcp : rule.pdcpSeqNum = UInt16.ofNat k
  nr : rule.nrSeqNum = UInt32.ofNat k

theorem UsedTimes.advance {k : Nat} {rule : DownlinkForwardingRule}
    (h : UsedTimes k rule) : UsedTimes (k + 1) rule.advance where
  pdcp := by
    rw [UInt16.ofNat_add, ← h.pdcp]
    rfl
  nr := by
    rw [UInt32.ofNat_add, ← h.nr]
    rfl

theorem UsedTimes.hasNumber {k : Nat} {rule : DownlinkForwardingRule}
    (h : UsedTimes k rule) (packet : TunPacket) (duIp : IpAddr) :
    HasNumber k (Downlink.datagramFor rule packet duIp) := by
  have hpdu := Downlink.datagramFor_encapsulates rule packet duIp
  refine ⟨_, hpdu.decoded, ?_, ?_⟩
  · rw [hpdu.pdcpNumber, h.pdcp, UInt16.toNat_ofNat']
    exact Nat.mod_mod_of_dvd k (by decide)
  · rw [hpdu.nrNumber, h.nr, UInt32.toNat_ofNat']
    exact Nat.mod_mod_of_dvd k (by decide)

/-!
## One event
-/

structure Numbered (subnet : Ipv4Addr) (session : UserplaneSession) (k : Nat)
    (p : Plane) : Prop where
  consistent : p.shared.Consistent subnet
  owned : exists task, p.shared.Owns task session
  kept : forall task, p.shared.progress task ≠ Progress.deleting session
  /-- A failed send uses a number as well, but it is the last one. -/
  counters : p.running = true ->
    exists rule,
      p.shared.processor.downlinkForwardingTable.lookup session.slot =
          some rule ∧
        rule.ueIpAddr = session.ueIpAddr ∧ UsedTimes k rule

theorem consistent_step {env : DownlinkEnv} {subnet : Ipv4Addr} {p p' : Plane}
    {event : PlaneEvent} (h : p.shared.Consistent subnet)
    (hstep : (planeMachine env).step p event = some p') :
    p'.shared.Consistent subnet := by
  cases event with
  | session move =>
      rcases session_step hstep with ⟨s, hs, heq⟩
      rw [heq]
      exact Shared.consistent_step h hs
  | packet read =>
      rcases packet_shared hstep with hsame | ⟨i, hforward⟩
      · rw [hsame]
        exact h
      · exact Shared.consistent_step (m := Move.forward i) h hforward

theorem kept_update {session : UserplaneSession} {progress : Nat -> Progress}
    {task : Nat} {p : Progress}
    (h : forall t, progress t ≠ Progress.deleting session)
    (hp : p ≠ Progress.deleting session) (t : Nat) :
    Function.update progress task p t ≠ Progress.deleting session := by
  exact fun hdeleting => h t (Shared.progress_of_update hp hdeleting)

theorem session_effect {subnet : Ipv4Addr} {session : UserplaneSession}
    {s s' : Shared} {move : Move} (hown : s.Owned subnet)
    (hsession : exists task, s.Owns task session)
    (hkept : forall task, s.progress task ≠ Progress.deleting session)
    (hspares : PlaneEvent.Spares session (PlaneEvent.session move))
    (hmove : forall slot, move ≠ Move.forward slot)
    (heffect : Shared.Effect s move s') :
    (exists task, s'.Owns task session) ∧
      (forall task, s'.progress task ≠ Progress.deleting session) ∧
      s'.processor.downlinkForwardingTable.lookup session.slot =
        s.processor.downlinkForwardingTable.lookup session.slot := by
  rcases hsession with ⟨owner, e, he, howner, hs⟩
  cases heffect with
  | indexTaken _ _ _ =>
      refine ⟨⟨owner, e, he, howner, hs⟩, kept_update hkept ?_, rfl⟩
      intro hp
      cases hp
  | indexRefused _ _ => exact ⟨⟨owner, e, he, howner, hs⟩, hkept, rfl⟩
  | uplinkInstalled _ =>
      refine ⟨⟨owner, e, List.mem_append_left _ he, howner, hs⟩,
        kept_update hkept ?_, rfl⟩
      intro hp
      cases hp
  | @committed task other tunnel _ howns =>
      refine ⟨⟨owner, Shared.owns_recordCommit tunnel
        ⟨e, he, howner, hs⟩⟩, hkept, ?_⟩
      rw [← hs]
      apply SlotTable.lookup_set_ne
      apply Shared.slot_ne_of_session_ne hown howns he
      rw [hs]
      exact Ne.symm hspares
  | @downlinkRemoved task other _ howns =>
      refine ⟨⟨owner, e, he, howner, hs⟩, kept_update hkept ?_, ?_⟩
      · intro hp
        cases hp
        exact hspares rfl
      · rw [← hs]
        apply SlotTable.lookup_set_ne
        apply Shared.slot_ne_of_session_ne hown howns he
        rw [hs]
        exact Ne.symm hspares
  | @uplinkRemoved task other hprog =>
      have hne : e.session ≠ other := by
        intro heq
        rw [hs] at heq
        rw [← heq] at hprog
        exact hkept task hprog
      refine ⟨⟨owner, e, List.mem_filter.mpr ⟨he, ?_⟩, howner, hs⟩,
        kept_update hkept ?_, rfl⟩
      · rw [decide_eq_true_eq]
        exact hne
      · intro hp
        cases hp
  | forwarded _ => exact absurd rfl (hmove _)

theorem packetEffect_err_sent {env : DownlinkEnv} {d d' : Downlink}
    {packet : TunPacket} {e : UserplaneError}
    (h : Downlink.PacketEffect env d packet (Outcome.err e) d') :
    d'.sent = d.sent := by
  cases h with
  | badAddress _ _ _ => rfl
  | sendFailed _ _ _ _ => rfl

theorem Numbered.of_table {subnet : Ipv4Addr} {session : UserplaneSession}
    {k k' : Nat} {p p' : Plane} (h : Numbered subnet session k p)
    (hconsistent : p'.shared.Consistent subnet)
    (table : DownlinkForwardingTable)
    (hshared : p'.shared = withTable p.shared table)
    (hcounters : p'.running = true ->
      exists rule, table.lookup session.slot = some rule ∧
        rule.ueIpAddr = session.ueIpAddr ∧ UsedTimes k' rule) :
    Numbered subnet session k' p' := by
  refine ⟨hconsistent, ?_, ?_, ?_⟩
  · rw [hshared]
    exact h.owned
  · rw [hshared]
    exact h.kept
  · rw [hshared]
    exact hcounters

theorem sentBy_nil_of_sent {session : UserplaneSession} {p p' : Plane}
    {event : PlaneEvent} (h : p'.sent = p.sent) :
    sentBy session p event p' = [] := by
  unfold sentBy
  rw [h, List.drop_length, ite_self]

theorem Numbered.slot_eq {subnet : Ipv4Addr} {session : UserplaneSession}
    {k : Nat} {p : Plane} {dst : Ipv4Addr} (h : Numbered subnet session k p)
    (hip : session.ueIpAddr = IpAddr.v4 dst) :
    session.slot = downlinkTableIndexFromIp dst := by
  rcases h.owned with ⟨task, howns⟩
  rcases (h.consistent.owned.reserved_of_owns howns).address with
    ⟨addr, haddr, hindex, _⟩
  rw [hip] at haddr
  cases haddr
  exact hindex.symm

theorem Numbered.isFor_of_rule {subnet : Ipv4Addr} {session : UserplaneSession}
    {k : Nat} {p : Plane} {packet : TunPacket} {dst : Ipv4Addr}
    {rule : DownlinkForwardingRule} (h : Numbered subnet session k p)
    (hrunning : p.running = true) (hdst : Downlink.HasDestination packet dst)
    (hrule : Downlink.HasRule p.downlink dst rule)
    (hslot : session.slot = downlinkTableIndexFromIp dst) :
    packet.isFor session = true ∧ rule.ueIpAddr = session.ueIpAddr ∧
      UsedTimes k rule := by
  rcases h.counters hrunning with ⟨rule', hrule', haddr, hused⟩
  rw [hslot] at hrule'
  have hsame : rule' = rule :=
    Option.some.inj (hrule'.symm.trans hrule.left)
  rw [hsame] at haddr hused
  refine ⟨?_, haddr, hused⟩
  rw [TunPacket.isFor_iff hdst, ← haddr]
  exact hrule.right

theorem numbered_packet {env : DownlinkEnv} {subnet : Ipv4Addr}
    {session : UserplaneSession} {k : Nat} {p p' : Plane} {packet : TunPacket}
    (h : Numbered subnet session k p) (hrunning : p.running = true)
    (hconsistent : p'.shared.Consistent subnet)
    (hstep : p.runDownlink env (some packet) = some p') :
    (sentBy session p (PlaneEvent.packet (some packet)) p' = [] ∧
        Numbered subnet session k p') ∨
      exists datagram,
        sentBy session p (PlaneEvent.packet (some packet)) p' = [datagram] ∧
          HasNumber k datagram ∧ Numbered subnet session (k + 1) p' := by
  rcases h.counters hrunning with ⟨rule, hrule, haddr, hused⟩
  rcases runDownlink_cases hrunning hstep with
    ⟨out, d, heffect, ⟨hout, heq⟩ | ⟨⟨e, hout⟩, heq⟩⟩
  · rw [hout] at heffect
    rw [heq] at hconsistent ⊢
    rcases heffect.returned with
      ⟨hsent, hsame, _⟩ | ⟨dst, entry, duIp, hdst, hentry, _, hsent, htable⟩
    · refine Or.inl ⟨sentBy_nil_of_sent hsent, ?_⟩
      apply h.of_table hconsistent d.table rfl
      intro _
      rw [hsame]
      exact ⟨rule, hrule, haddr, hused⟩
    · by_cases hslot : session.slot = downlinkTableIndexFromIp dst
      · rcases h.isFor_of_rule hrunning hdst hentry hslot with
          ⟨hfor, haddr, hused⟩
        refine Or.inr ⟨Downlink.datagramFor entry packet duIp, ?_,
          hused.hasNumber packet duIp, ?_⟩
        · show (if packet.isFor session then d.sent.drop p.sent.length
            else []) = _
          rw [if_pos hfor, hsent]
          exact List.drop_left
        · apply h.of_table hconsistent d.table rfl
          intro _
          rw [htable, hslot]
          exact ⟨entry.advance,
            SlotTable.lookup_set_self _ _ (SlotTable.lt_of_lookup hentry.left),
            haddr, hused.advance⟩
      · have hother : ¬ packet.isFor session = true := by
          intro hfor
          rw [TunPacket.isFor_iff hdst] at hfor
          exact hslot (h.slot_eq hfor)
        refine Or.inl ⟨if_neg hother, ?_⟩
        apply h.of_table hconsistent d.table rfl
        intro _
        rw [htable, SlotTable.lookup_set_ne _ _ hslot]
        exact ⟨rule, hrule, haddr, hused⟩
  · rw [hout] at heffect
    rw [heq] at hconsistent ⊢
    refine Or.inl ⟨sentBy_nil_of_sent (packetEffect_err_sent heffect), ?_⟩
    apply h.of_table hconsistent d.table rfl
    intro hfalse
    cases hfalse

theorem numbered_step {env : DownlinkEnv} {subnet : Ipv4Addr}
    {session : UserplaneSession} (k : Nat) (p : Plane) (event : PlaneEvent)
    (p' : Plane) (h : Numbered subnet session k p)
    (hspares : event.Spares session)
    (hstep : (planeMachine env).step p event = some p') :
    (sentBy session p event p' = [] ∧ Numbered subnet session k p') ∨
      exists datagram, sentBy session p event p' = [datagram] ∧
        HasNumber k datagram ∧ Numbered subnet session (k + 1) p' := by
  have hconsistent := consistent_step h.consistent hstep
  cases event with
  | session move =>
      rcases session_step hstep with ⟨s, hs, heq⟩
      have heffect := Shared.step_effect h.consistent.owned hs
      rcases session_effect h.consistent.owned h.owned h.kept hspares
        (move_ne_forward hstep) heffect with ⟨howned, hkept, hslot⟩
      refine Or.inl ⟨if_neg Bool.false_ne_true, ?_⟩
      rw [heq] at hconsistent ⊢
      refine ⟨hconsistent, howned, hkept, ?_⟩
      intro hrunning
      rw [hslot]
      exact h.counters hrunning
  | packet read =>
      rcases packet_step hstep with
        hsame | ⟨hrunning, ⟨hread, heq⟩ | ⟨packet, hread, hround⟩⟩
      · rw [hsame]
        exact Or.inl ⟨sentBy_nil_of_sent rfl, h⟩
      · rw [hread, heq]
        rw [heq] at hconsistent
        refine Or.inl ⟨if_neg Bool.false_ne_true, ?_⟩
        apply h.of_table hconsistent p.downlink.table rfl
        intro hfalse
        cases hfalse
      · rw [hread]
        exact numbered_packet h hrunning hconsistent hround

/-!
## Every sequence of events
-/

theorem numbered_commit {env : DownlinkEnv} {subnet : Ipv4Addr} {p p' : Plane}
    {task : Nat} {session : UserplaneSession} {tunnel : GtpTunnel}
    (h : p.shared.Consistent subnet)
    (hstep : (planeMachine env).step p
      (PlaneEvent.session (Move.commit task session tunnel)) = some p') :
    Numbered subnet session 0 p' := by
  have hconsistent := consistent_step h hstep
  rcases session_step hstep with ⟨s, hs, heq⟩
  rw [heq] at hconsistent ⊢
  have heffect := Shared.step_effect h.owned hs
  cases heffect with
  | committed hidle howns =>
      refine ⟨hconsistent, ⟨task, Shared.owns_recordCommit tunnel howns⟩,
        ?_, ?_⟩
      · -- A task that was deleting the session would be its owner, who is idle.
        intro t hp
        change p.shared.progress t = _ at hp
        rw [h.owned.owner_eq (h.owned.deleting_owns t session hp) howns rfl,
          hidle] at hp
        cases hp
      · intro _
        have hlt := (h.owned.reserved_of_owns howns).slot_lt
        exact ⟨_, SlotTable.lookup_set_self _ _ hlt, rfl, rfl, rfl⟩

theorem numbered_of_run {env : DownlinkEnv} {subnet : Ipv4Addr}
    {before : List PlaneEvent} {p p' : Plane} {task : Nat}
    {session : UserplaneSession} {tunnel : GtpTunnel}
    (hbefore : (planeMachine env).run (start subnet) before = some p)
    (hcommit : (planeMachine env).step p
      (PlaneEvent.session (Move.commit task session tunnel)) = some p') :
    Numbered subnet session 0 p' := by
  rcases sessionMachine_run hbefore with ⟨ms, hms⟩
  exact numbered_commit (Shared.consistent_run hms) hcommit

/-- In every run of the userplane, after any commit of a session and through any
events that neither commit it again nor begin its deletion, the datagram number
`k` sent for the session has PDCP number `k` modulo 4096 and NR-U number `k`
modulo 2 to the 24. -/
theorem sequenceNumbers_gapFree {env : DownlinkEnv} {subnet : Ipv4Addr}
    {before after : List PlaneEvent} {p p' : Plane} {task : Nat}
    {session : UserplaneSession} {tunnel : GtpTunnel}
    (hbefore : (planeMachine env).run (start subnet) before = some p)
    (hcommit : (planeMachine env).step p
      (PlaneEvent.session (Move.commit task session tunnel)) = some p')
    (hafter : forall event, event ∈ after -> event.Spares session)
    {k : Nat} {datagram : Datagram}
    (hsent : (sentFor env session p' after)[k]? = some datagram) :
    HasNumber k datagram := by
  have hnumber := Machine.outputs_numbered numbered_step
    (numbered_of_run hbefore hcommit) hafter hsent
  rw [Nat.zero_add] at hnumber
  exact hnumber

def smallSession : UserplaneSession :=
  PacketProcessor.sessionFor Shared.smallSubnet (Vector.replicate 3 0) 1

/-- A packet for an address that no session has comes between two packets for
the session. -/
def mixedPackets : List PlaneEvent :=
  [PlaneEvent.packet
      (some (packetTo (PacketProcessor.sessionAddr Shared.smallSubnet 1))),
    PlaneEvent.packet
      (some (packetTo (PacketProcessor.sessionAddr Shared.smallSubnet 77))),
    PlaneEvent.packet
      (some (packetTo (PacketProcessor.sessionAddr Shared.smallSubnet 1)))]

theorem sequenceNumbers_gapFree_mixed :
    exists p p' datagram,
      (planeMachine ipv4Socket).run (start Shared.smallSubnet)
          ((attach Shared.smallSubnet Shared.smallTunnel).take 2) = some p ∧
        (planeMachine ipv4Socket).step p
          (PlaneEvent.session
            (Move.commit 0 smallSession Shared.smallTunnel)) = some p' ∧
        (sentFor ipv4Socket smallSession p' mixedPackets)[1]? = some datagram ∧
        HasNumber 1 datagram := by
  have hresult : (((planeMachine ipv4Socket).run (start Shared.smallSubnet)
      ((attach Shared.smallSubnet Shared.smallTunnel).take 2)).bind fun p =>
        (planeMachine ipv4Socket).step p
          (PlaneEvent.session
            (Move.commit 0 smallSession Shared.smallTunnel))).map (fun p' =>
        (sentFor ipv4Socket smallSession p' mixedPackets).length) =
      some 2 := by
    decide +kernel
  rcases Option.map_eq_some_iff.mp hresult with ⟨p', hrun, hlength⟩
  rcases Option.bind_eq_some_iff.mp hrun with ⟨p, hbefore, hcommit⟩
  have hsecond : 1 < (sentFor ipv4Socket smallSession p' mixedPackets).length := by
    rw [hlength]
    lia
  have hspares : forall event, event ∈ mixedPackets ->
      event.Spares smallSession := by
    simp [mixedPackets, PlaneEvent.Spares]
  exact ⟨p, p', _, hbefore, hcommit, List.getElem?_eq_getElem hsecond,
    sequenceNumbers_gapFree hbefore hcommit hspares
      (List.getElem?_eq_getElem hsecond)⟩

end Plane
end Userplane
end QCore
