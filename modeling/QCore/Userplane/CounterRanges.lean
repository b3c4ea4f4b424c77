import QCore.Userplane.SequenceNumbers

/-!
# The ranges of the downlink counters

`entry.pdcp_seq_num += 1` and `entry.nr_seq_num += 1` are plain additions on
`u16` and `u32`.  The loop makes both for every packet that it takes up for a
session, and only a commit sets the counters back.  So the additions of a run
stay in range exactly when no session gets more than 65535 packets in a row of
events without a commit or deletion of it.
-/

namespace QCore
namespace Userplane

open Foundation

namespace Plane

/-- The additions that the event makes, if it makes any, stay in `u16` and
`u32`. -/
def IncrementsFit (p : Plane) (event : PlaneEvent) : Prop :=
  forall packet dst rule, event = PlaneEvent.packet (some packet) ->
    p.running = true -> Downlink.HasDestination packet dst ->
    Downlink.HasRule p.downlink dst rule ->
      rule.pdcpSeqNum.toNat + 1 < 65536 ∧
        rule.nrSeqNum.toNat + 1 < 4294967296

def takesUp (session : UserplaneSession) (p : Plane) (event : PlaneEvent) :
    Bool :=
  p.running && event.isFor session

def takenUp (env : DownlinkEnv) (session : UserplaneSession) (p : Plane)
    (events : List PlaneEvent) : Nat :=
  (planeMachine env).occurrences (takesUp session) p events

/-- From no commit of a session up to the next event that commits it again or
begins its deletion does the loop take up more than 65535 packets for it. -/
def FewPackets (env : DownlinkEnv) (subnet : Ipv4Addr)
    (events : List PlaneEvent) : Prop :=
  forall before task session tunnel after rest p p',
    events = before ++
      PlaneEvent.session (Move.commit task session tunnel) :: (after ++ rest) ->
    (planeMachine env).run (start subnet) before = some p ->
    (planeMachine env).step p
      (PlaneEvent.session (Move.commit task session tunnel)) = some p' ->
    (forall event, event ∈ after -> event.Spares session) ->
      takenUp env session p' after <= 65535

/-!
## The rule of a packet
-/

theorem UsedTimes.fits {k : Nat} {rule : DownlinkForwardingRule}
    (h : UsedTimes k rule) (hk : k < 65535) :
    rule.pdcpSeqNum.toNat + 1 < 65536 ∧ rule.nrSeqNum.toNat + 1 < 4294967296 := by
  rw [h.pdcp, h.nr, UInt16.toNat_ofNat_of_lt' (Nat.lt_succ_of_lt hk),
    UInt32.toNat_ofNat_of_lt' (Nat.lt_trans hk (by decide))]
  lia

theorem UsedTimes.increment_ne_panic {k : Nat} {rule : DownlinkForwardingRule}
    (h : UsedTimes k rule) (env : DownlinkEnv) (hk : k < 65535) :
    rule.increment env ≠ Outcome.panic := by
  rcases h.fits hk with ⟨hpdcp, hnr⟩
  unfold DownlinkForwardingRule.increment
  rw [if_neg]
  · exact Outcome.ok_ne_panic
  · intro hfull
    rcases hfull.right with heq | heq
    · rw [heq] at hpdcp
      exact absurd hpdcp (by decide)
    · rw [heq] at hnr
      exact absurd hnr (by decide)

theorem destination_of_isFor {session : UserplaneSession} {event : PlaneEvent}
    (h : event.isFor session = true) :
    exists packet dst, event = PlaneEvent.packet (some packet) ∧
      Downlink.HasDestination packet dst ∧ session.ueIpAddr = IpAddr.v4 dst := by
  cases event with
  | session move => cases h
  | packet read =>
      cases read with
      | none => cases h
      | some packet =>
          change packet.isFor session = true at h
          by_cases hlen : ipv4HeaderLen <= packet.bytes.length
          · have hdst : Downlink.HasDestination packet
                (packet.destination hlen) := ⟨hlen, rfl⟩
            exact ⟨packet, _, rfl, hdst, (TunPacket.isFor_iff hdst session).mp h⟩
          · rw [TunPacket.isFor, dif_neg hlen] at h
            cases h

theorem rule_of_takesUp {subnet : Ipv4Addr} {session : UserplaneSession}
    {k : Nat} {p : Plane} {event : PlaneEvent}
    (h : Numbered subnet session k p) (htakes : takesUp session p event = true) :
    exists packet dst rule, event = PlaneEvent.packet (some packet) ∧
      p.running = true ∧ Downlink.HasDestination packet dst ∧
      Downlink.HasRule p.downlink dst rule ∧ UsedTimes k rule := by
  rcases Bool.and_eq_true_iff.mp htakes with ⟨hrunning, hfor⟩
  rcases destination_of_isFor hfor with ⟨packet, dst, hevent, hdst, hip⟩
  rcases h.counters hrunning with ⟨rule, hrule, haddr, hused⟩
  rw [h.slot_eq hip] at hrule
  rw [hip] at haddr
  exact ⟨packet, dst, rule, hevent, hrunning, hdst, ⟨hrule, haddr⟩, hused⟩

theorem takesUp_of_rule {subnet : Ipv4Addr} {session : UserplaneSession}
    {k : Nat} {p : Plane} {packet : TunPacket} {dst : Ipv4Addr}
    {rule : DownlinkForwardingRule} (h : Numbered subnet session k p)
    (hrunning : p.running = true) (hdst : Downlink.HasDestination packet dst)
    (hrule : Downlink.HasRule p.downlink dst rule)
    (hslot : session.slot = downlinkTableIndexFromIp dst) :
    takesUp session p (PlaneEvent.packet (some packet)) = true ∧
      UsedTimes k rule := by
  rcases h.isFor_of_rule hrunning hdst hrule hslot with ⟨hfor, _, hused⟩
  exact ⟨Bool.and_eq_true_iff.mpr ⟨hrunning, hfor⟩, hused⟩

/-!
## Counting the packets of a session
-/

theorem Numbered.stopped {subnet : Ipv4Addr} {session : UserplaneSession}
    {k : Nat} {p : Plane} (h : Numbered subnet session k p)
    (hstopped : ¬ p.running = true) (k' : Nat) : Numbered subnet session k' p :=
  ⟨h.consistent, h.owned, h.kept, fun hrunning => absurd hrunning hstopped⟩

theorem sentBy_ne_nil_iff {env : DownlinkEnv} {subnet : Ipv4Addr}
    {session : UserplaneSession} {k : Nat} {p p' : Plane} {event : PlaneEvent}
    (h : Numbered subnet session k p)
    (hstep : (planeMachine env).step p event = some p')
    (hrunning : p'.running = true) :
    sentBy session p event p' ≠ [] <-> takesUp session p event = true := by
  constructor
  · intro hsent
    have hfor : event.isFor session = true := by
      by_contra hother
      exact hsent (if_neg hother)
    apply Bool.and_eq_true_iff.mpr
    refine ⟨?_, hfor⟩
    rcases destination_of_isFor hfor with ⟨packet, _, hevent, _, _⟩
    rw [hevent] at hstep
    rcases packet_step hstep with hsame | ⟨hrunning, _⟩
    · rw [← hsame]
      exact hrunning
    · exact hrunning
  · intro htakes
    rcases rule_of_takesUp h htakes with
      ⟨packet, dst, rule, hevent, hbefore, hdst, hrule, _⟩
    have hfor := (Bool.and_eq_true_iff.mp htakes).right
    rw [hevent] at hstep
    rcases runDownlink_cases hbefore hstep with
      ⟨out, d, heffect, ⟨hout, heq⟩ | ⟨_, heq⟩⟩
    · rw [hout] at heffect
      rcases heffect.returned with
        ⟨_, _, hno⟩ | ⟨_, entry, duIp, _, _, _, hsent, _⟩
      · exact absurd hrule (hno dst rule hdst)
      · have hdrop : sentBy session p event p' =
            [Downlink.datagramFor entry packet duIp] := by
          unfold sentBy
          rw [if_pos hfor, heq]
          change d.sent.drop p.sent.length = _
          rw [hsent]
          exact List.drop_left
        rw [hdrop]
        exact List.cons_ne_nil _ _
    · rw [heq] at hrunning
      cases hrunning

theorem numbered_takenUp {env : DownlinkEnv} {subnet : Ipv4Addr}
    {session : UserplaneSession} (k : Nat) (p : Plane) (event : PlaneEvent)
    (p' : Plane) (h : Numbered subnet session k p)
    (hspares : event.Spares session)
    (hstep : (planeMachine env).step p event = some p') :
    Numbered subnet session
      (k + if takesUp session p event then 1 else 0) p' := by
  rcases numbered_step k p event p' h hspares hstep with
    ⟨hnone, hnext⟩ | ⟨datagram, hone, _, hnext⟩
  · by_cases hrunning : p'.running = true
    · have hnot : ¬ takesUp session p event = true := by
        rw [← sentBy_ne_nil_iff h hstep hrunning]
        exact fun hsent => hsent hnone
      rw [if_neg hnot]
      exact hnext
    · exact hnext.stopped hrunning _
  · by_cases hrunning : p'.running = true
    · have htakes : takesUp session p event = true := by
        rw [← sentBy_ne_nil_iff h hstep hrunning, hone]
        exact List.cons_ne_nil _ _
      rw [if_pos htakes]
      exact hnext
    · exact hnext.stopped hrunning _

theorem takenUp_le {env : DownlinkEnv} {subnet : Ipv4Addr}
    {session : UserplaneSession} {p : Plane} {events : List PlaneEvent}
    (h : Numbered subnet session 0 p)
    (hspares : forall event, event ∈ events -> event.Spares session)
    (hfit : (planeMachine env).Along IncrementsFit p events) :
    takenUp env session p events <= 65535 := by
  have hbelow : forall (k : Nat) (q : Plane) (event : PlaneEvent),
      Numbered subnet session k q -> k <= 65535 ->
      takesUp session q event = true -> IncrementsFit q event -> k < 65535 := by
    intro k q event hq hk htakes hevent
    rcases rule_of_takesUp hq htakes with
      ⟨packet, dst, rule, heq, hrunning, hdst, hrule, hused⟩
    have hpdcp := (hevent packet dst rule heq hrunning hdst hrule).left
    rw [hused.pdcp, UInt16.toNat_ofNat_of_lt' (Nat.lt_succ_of_le hk)] at hpdcp
    exact Nat.lt_of_succ_lt_succ hpdcp
  have hle := Machine.occurrences_le numbered_takenUp hbelow h
    (Nat.zero_le _) hspares hfit
  rw [Nat.zero_add] at hle
  exact hle

/-!
## Where a rule comes from
-/

def LeavesSlot (i : Nat) : PlaneEvent -> Prop
  | PlaneEvent.session (Move.commit _ other _) => other.slot ≠ i
  | PlaneEvent.session (Move.removeDownlink _ other) => other.slot ≠ i
  | _ => True

theorem LeavesSlot.spares {session : UserplaneSession} {event : PlaneEvent}
    (h : LeavesSlot session.slot event) : event.Spares session := by
  unfold LeavesSlot at h
  unfold PlaneEvent.Spares
  split
  · exact fun heq => h (congrArg UserplaneSession.slot heq)
  · exact fun heq => h (congrArg UserplaneSession.slot heq)
  · trivial

def Occupied (i : Nat) (p : Plane) : Prop :=
  exists rule,
    p.shared.processor.downlinkForwardingTable.lookup i = some rule

def Commits (i : Nat) (event : PlaneEvent) : Prop :=
  exists task session tunnel, session.slot = i ∧
    event = PlaneEvent.session (Move.commit task session tunnel)

theorem occupied_session {subnet : Ipv4Addr} {i : Nat} {s s' : Shared}
    {move : Move} (hown : s.Owned subnet) (heffect : Shared.Effect s move s')
    (hmove : forall slot, move ≠ Move.forward slot)
    {rule : DownlinkForwardingRule}
    (h : s'.processor.downlinkForwardingTable.lookup i = some rule) :
    Commits i (PlaneEvent.session move) ∨
      s.processor.downlinkForwardingTable.lookup i = some rule ∧
        LeavesSlot i (PlaneEvent.session move) := by
  cases heffect with
  | indexTaken _ _ _ => exact Or.inr ⟨h, trivial⟩
  | indexRefused _ _ => exact Or.inr ⟨h, trivial⟩
  | uplinkInstalled _ => exact Or.inr ⟨h, trivial⟩
  | uplinkRemoved _ => exact Or.inr ⟨h, trivial⟩
  | @committed task session tunnel _ _ =>
      by_cases hslot : session.slot = i
      · exact Or.inl ⟨task, session, tunnel, hslot, rfl⟩
      · refine Or.inr ⟨?_, hslot⟩
        rw [← h]
        exact (SlotTable.lookup_set_ne _ _ (Ne.symm hslot)).symm
  | @downlinkRemoved task session _ howns =>
      by_cases hslot : session.slot = i
      · have hlt := (hown.reserved_of_owns howns).slot_lt
        have hnone := SlotTable.lookup_set_self
          s.processor.downlinkForwardingTable none hlt
        rw [hslot] at hnone
        change (s.processor.downlinkForwardingTable.set session.slot
          none).lookup i = _ at h
        rw [hslot, hnone] at h
        cases h
      · refine Or.inr ⟨?_, hslot⟩
        rw [← h]
        exact (SlotTable.lookup_set_ne _ _ (Ne.symm hslot)).symm
  | forwarded _ => exact absurd rfl (hmove _)

theorem occupied_step {env : DownlinkEnv} {subnet : Ipv4Addr} {i : Nat}
    {p p' : Plane} {event : PlaneEvent} (hp : p.shared.Consistent subnet)
    (hstep : (planeMachine env).step p event = some p') (h : Occupied i p') :
    Commits i event ∨ Occupied i p ∧ LeavesSlot i event := by
  rcases h with ⟨rule, hrule⟩
  cases event with
  | session move =>
      rcases session_step hstep with ⟨s, hs, heq⟩
      rw [heq] at hrule
      rcases occupied_session hp.owned (Shared.step_effect hp.owned hs)
        (move_ne_forward hstep) hrule with hcommits | ⟨hbefore, hleaves⟩
      · exact Or.inl hcommits
      · exact Or.inr ⟨⟨rule, hbefore⟩, hleaves⟩
  | packet read =>
      refine Or.inr ⟨?_, trivial⟩
      rcases packet_shared hstep with hsame | ⟨j, hforward⟩
      · rw [hsame] at hrule
        exact ⟨rule, hrule⟩
      · have heffect := Shared.step_effect hp.owned hforward
        revert heffect hrule
        generalize p'.shared = s'
        intro hrule heffect
        revert hrule
        cases heffect with
        | @forwarded _ old hold =>
            intro hrule
            by_cases hij : i = j
            · rw [hij]
              exact ⟨old, hold⟩
            · refine ⟨rule, ?_⟩
              rw [← hrule]
              exact (SlotTable.lookup_set_ne _ _ hij).symm

theorem committed_of_occupied {env : DownlinkEnv} {subnet : Ipv4Addr} {i : Nat}
    {events : List PlaneEvent} {p : Plane}
    (hrun : (planeMachine env).run (start subnet) events = some p)
    (h : Occupied i p) :
    exists before task session tunnel after q q', session.slot = i ∧
      events = before ++
        PlaneEvent.session (Move.commit task session tunnel) :: after ∧
      (planeMachine env).run (start subnet) before = some q ∧
      (planeMachine env).step q
        (PlaneEvent.session (Move.commit task session tunnel)) = some q' ∧
      (planeMachine env).run q' after = some p ∧
      forall event, event ∈ after -> event.Spares session := by
  have hempty : ¬ Occupied i (start subnet) := by
    intro hrule
    rcases hrule with ⟨rule, hrule⟩
    change (SlotTable.empty _ _).lookup i = some rule at hrule
    rw [SlotTable.lookup_empty] at hrule
    cases hrule
  have hstep : forall (q : Plane) (event : PlaneEvent) (q' : Plane),
      q.shared.Consistent subnet -> (planeMachine env).step q event = some q' ->
      Occupied i q' -> Commits i event ∨ Occupied i q ∧ LeavesSlot i event :=
    fun _ _ _ hq hq' hrule => occupied_step hq hq' hrule
  have hinv : forall (q : Plane) (event : PlaneEvent) (q' : Plane),
      q.shared.Consistent subnet -> (planeMachine env).step q event = some q' ->
      q'.shared.Consistent subnet := fun _ _ _ hq hq' => consistent_step hq hq'
  rcases Machine.run_last_cause hinv hstep (Shared.consistent_start subnet)
    hrun h with
    ⟨hstart, _⟩ |
      ⟨before, event, after, q, q', hsplit, ⟨task, session, tunnel, hslot, hevent⟩,
        hbefore, hcommit, hafter, hleaves⟩
  · exact absurd hstart hempty
  · rw [hevent] at hsplit hcommit
    refine ⟨before, task, session, tunnel, after, q, q', hslot, hsplit, hbefore,
      hcommit, hafter, ?_⟩
    intro event' hmem
    have hleft := hleaves event' hmem
    rw [← hslot] at hleft
    exact hleft.spares

/-!
## Whole runs
-/

theorem fewPackets_of_fit {env : DownlinkEnv} {subnet : Ipv4Addr}
    {events : List PlaneEvent}
    (h : (planeMachine env).Along IncrementsFit (start subnet) events) :
    FewPackets env subnet events := by
  intro before task session tunnel after rest p p' hsplit hbefore hcommit
    hspares
  apply takenUp_le (numbered_of_run hbefore hcommit) hspares
  rw [Machine.along_iff_split] at h ⊢
  intro first event later q heq hrun
  have hreached : (planeMachine env).run (start subnet)
      (before ++ PlaneEvent.session (Move.commit task session tunnel) :: first) =
        some q := by
    rw [Machine.run_append hbefore, Machine.run_cons_of_step first hcommit]
    exact hrun
  apply h _ event (later ++ rest) q _ hreached
  rw [hsplit, heq, List.append_assoc, List.append_assoc]
  rfl

theorem fit_of_fewPackets {env : DownlinkEnv} {subnet : Ipv4Addr}
    {events : List PlaneEvent} (h : FewPackets env subnet events) :
    (planeMachine env).Along IncrementsFit (start subnet) events := by
  rw [Machine.along_iff_split]
  intro front event rest q hsplit hrun packet dst rule hevent hrunning hdst hrule
  rcases committed_of_occupied hrun ⟨rule, hrule.left⟩ with
    ⟨before, task, session, tunnel, after, p, p', hslot, hfront, hbefore, hcommit,
      hafter, hspares⟩
  have hnumbered := Machine.run_counter numbered_takenUp
    (numbered_of_run hbefore hcommit) hspares hafter
  rcases takesUp_of_rule hnumbered hrunning hdst hrule hslot with
    ⟨htakes, hused⟩
  rw [← hevent] at htakes
  have hevents : events = before ++
      PlaneEvent.session (Move.commit task session tunnel) ::
        ((after ++ [event]) ++ rest) := by
    rw [hsplit, hfront, List.append_assoc, List.append_assoc]
    rfl
  have hsparesAll : forall event', event' ∈ after ++ [event] ->
      event'.Spares session := by
    intro event' hmem
    rcases List.mem_append.mp hmem with hbefore | hlast
    · exact hspares event' hbefore
    · rw [List.mem_singleton.mp hlast, hevent]
      trivial
  have hfew := h before task session tunnel (after ++ [event]) rest p p' hevents
    hbefore hcommit hsparesAll
  unfold takenUp at hfew
  rw [Machine.occurrences_concat (takesUp session) hafter, if_pos htakes] at hfew
  rw [Nat.zero_add] at hused
  exact hused.fits hfew

theorem incrementsFit_iff (env : DownlinkEnv) (subnet : Ipv4Addr)
    (events : List PlaneEvent) :
    (planeMachine env).Along IncrementsFit (start subnet) events <->
      FewPackets env subnet events :=
  ⟨fewPackets_of_fit, fit_of_fewPackets⟩

/-!
## A long download
-/

theorem packet_used {env : DownlinkEnv} {p : Plane} {packet : TunPacket}
    {dst : Ipv4Addr} {rule : DownlinkForwardingRule}
    (hrunning : p.running = true) (hdst : Downlink.HasDestination packet dst)
    (hrule : Downlink.HasRule p.downlink dst rule)
    (hinc : rule.increment env ≠ Outcome.panic)
    (hdeliver : Deliverable env rule.remoteTunnelInfo) :
    exists p',
      (planeMachine env).step p (PlaneEvent.packet (some packet)) = some p' ∧
      p'.running = true ∧ Downlink.HasRule p'.downlink dst rule.advance := by
  have heffect := Downlink.handle_effect env p.downlink packet
  have hok : (Downlink.handleNextDownlinkPacket env (some packet)
      p.downlink).1 = Outcome.ok () := by
    rcases packetEffect_of_rule heffect hdst hrule with
      ⟨hpanic, _⟩ | ⟨hnot, _⟩ | ⟨_, _, hok⟩
    · exact absurd hpanic hinc
    · exact absurd hdeliver hnot
    · exact hok
  revert heffect hok
  cases hcall : Downlink.handleNextDownlinkPacket env (some packet)
    p.downlink with
  | mk out d =>
      intro heffect hok
      change out = Outcome.ok () at hok
      rw [hok] at heffect hcall
      refine ⟨p.withDownlink d true, ?_, rfl, ?_⟩
      · change p.runDownlink env (some packet) = _
        rw [runDownlink, if_pos hrunning, hcall]
      · rcases heffect.returned with
          ⟨_, _, hno⟩ | ⟨dst', entry, _, hdst', hentry, _, _, htable⟩
        · exact absurd hrule (hno dst rule hdst)
        · cases hasDestination_unique hdst' hdst
          have hsame : entry = rule :=
            Option.some.inj (hentry.left.symm.trans hrule.left)
          rw [hsame] at htable
          refine ⟨?_, hrule.right⟩
          change d.table.lookup _ = _
          rw [htable]
          exact SlotTable.lookup_set_self _ _ (SlotTable.lt_of_lookup hrule.left)

theorem packets_used {env : DownlinkEnv} {packet : TunPacket} {dst : Ipv4Addr}
    (hdst : Downlink.HasDestination packet dst) {tunnel : GtpTunnel}
    (hdeliver : Deliverable env tunnel) (n : Nat) {k : Nat} {p : Plane}
    {rule : DownlinkForwardingRule} (hrunning : p.running = true)
    (hrule : Downlink.HasRule p.downlink dst rule)
    (htunnel : rule.remoteTunnelInfo = tunnel) (hused : UsedTimes k rule)
    (hfew : k + n <= 65535) :
    exists p' rule',
      (planeMachine env).run p
          (List.replicate n (PlaneEvent.packet (some packet))) = some p' ∧
        p'.running = true ∧ Downlink.HasRule p'.downlink dst rule' ∧
        rule'.remoteTunnelInfo = tunnel ∧ UsedTimes (k + n) rule' := by
  induction n generalizing k p rule with
  | zero => exact ⟨p, rule, rfl, hrunning, hrule, htunnel, hused⟩
  | succ n ih =>
      have hinc : rule.increment env ≠ Outcome.panic :=
        hused.increment_ne_panic env (by lia)
      have hrules : Deliverable env rule.remoteTunnelInfo := by
        rw [htunnel]
        exact hdeliver
      rcases packet_used hrunning hdst hrule hinc hrules with
        ⟨q, hstep, hqrunning, hqrule⟩
      rcases ih hqrunning hqrule htunnel hused.advance (by lia) with
        ⟨p', rule', hrun, hrest⟩
      rw [Nat.add_right_comm, Nat.add_assoc] at hrest
      exact ⟨p', rule', (Machine.run_cons_of_step _ hstep).trans hrun, hrest⟩

def smallPacket : PlaneEvent :=
  PlaneEvent.packet
    (some (packetTo (PacketProcessor.sessionAddr Shared.smallSubnet 1)))

def download (n : Nat) : List PlaneEvent :=
  attach Shared.smallSubnet Shared.smallTunnel ++ List.replicate n smallPacket

theorem download_succ (n : Nat) :
    download (n + 1) = download n ++ [smallPacket] := by
  unfold download
  rw [List.append_assoc, ← List.replicate_succ']

theorem deliverable_smallTunnel : Deliverable ipv4Socket Shared.smallTunnel :=
  ⟨IpAddr.v4 ⟨#v[10, 0, 0, 9]⟩, rfl, rfl⟩

theorem download_run :
    exists p rule,
      (planeMachine ipv4Socket).run (start Shared.smallSubnet)
          (download 65535) = some p ∧
        p.running = true ∧
        Downlink.HasRule p.downlink
          (PacketProcessor.sessionAddr Shared.smallSubnet 1) rule ∧
        rule.remoteTunnelInfo = Shared.smallTunnel ∧ UsedTimes 65535 rule := by
  rcases attach_run ipv4Socket Shared.smallSubnet Shared.smallTunnel with
    ⟨q, hattach, hrunning, hrule⟩
  rcases packets_used (packetTo_destination _) deliverable_smallTunnel 65535
    hrunning hrule rfl ⟨rfl, rfl⟩ (Nat.le_of_eq (Nat.zero_add _)) with
    ⟨p, rule, hrun, hrest⟩
  rw [Nat.zero_add] at hrest
  exact ⟨p, rule, (Machine.run_append hattach).trans hrun, hrest⟩

theorem download_panics :
    (planeMachine ipv4Socket).run (start Shared.smallSubnet) (download 65536) =
      none := by
  rcases download_run with ⟨p, rule, hrun, hrunning, hrule, htunnel, hused⟩
  have hpanic : rule.increment ipv4Socket = Outcome.panic :=
    if_pos ⟨rfl, Or.inl hused.pdcp⟩
  have hrefused : (planeMachine ipv4Socket).step p smallPacket = none := by
    cases hstep : (planeMachine ipv4Socket).step p smallPacket with
    | none => rfl
    | some p' =>
        rcases runDownlink_cases hrunning hstep with ⟨out, d, heffect, hout⟩
        rcases packetEffect_of_rule heffect (packetTo_destination _) hrule with
          ⟨_, hbad⟩ | ⟨hnot, _⟩ | ⟨_, hinc, _⟩
        · rcases hout with ⟨hok, _⟩ | ⟨⟨e, herr⟩, _⟩
          · exact absurd (hok.symm.trans hbad) Outcome.ok_ne_panic
          · exact absurd (herr.symm.trans hbad) Outcome.err_ne_panic
        · rw [htunnel] at hnot
          exact absurd deliverable_smallTunnel hnot
        · exact absurd hpanic hinc
  rw [download_succ 65535, Machine.run_append hrun]
  simp [Machine.run, hrefused]

theorem not_incrementsFit_download :
    ¬ (planeMachine ipv4Socket).Along IncrementsFit (start Shared.smallSubnet)
      (download 65536) := by
  rcases download_run with ⟨p, rule, hrun, hrunning, hrule, _, hused⟩
  rw [Machine.along_iff_split]
  intro h
  have hfits := h (download 65535) smallPacket [] p (download_succ 65535) hrun _ _
    rule rfl hrunning (packetTo_destination _) hrule
  rw [hused.pdcp] at hfits
  exact absurd hfits.left (by decide)

end Plane
end Userplane
end QCore
