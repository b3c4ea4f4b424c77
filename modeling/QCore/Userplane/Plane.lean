import QCore.Userplane.DownlinkPipeline
import QCore.Userplane.Interleaving

/-!
# The userplane as one system

Session operations of the UE tasks and calls of the downlink pipeline,
interleaved.  The pipeline runs until a call returns an error; after that the
packets stay in the tun device.  A panic ends the process, so no state follows
it.
-/

namespace QCore
namespace Userplane

open Foundation

structure Plane where
  shared : Shared
  counters : DownlinkCounters
  sent : List Datagram
  /-- `DownlinkPipeline::run` is still in its loop. -/
  running : Bool

inductive PlaneEvent where
  | session (move : Move)
  | packet (read : Option TunPacket)

namespace Plane

def start (ueSubnet : Ipv4Addr) : Plane where
  shared := Shared.start ueSubnet
  counters := ⟨0, 0, 0, 0, 0⟩
  sent := []
  running := true

def downlink (p : Plane) : Downlink where
  table := p.shared.processor.downlinkForwardingTable
  counters := p.counters
  sent := p.sent

def withTable (s : Shared) (table : DownlinkForwardingTable) : Shared :=
  { s with processor := { s.processor with downlinkForwardingTable := table } }

def withDownlink (p : Plane) (d : Downlink) (running : Bool) : Plane where
  shared := withTable p.shared d.table
  counters := d.counters
  sent := d.sent
  running := running

/-- `DownlinkPipeline::run`: one round of its loop. -/
def runDownlink (env : DownlinkEnv) (p : Plane) (read : Option TunPacket) :
    Option Plane :=
  if p.running then
    match Downlink.handleNextDownlinkPacket env read p.downlink with
    | (Outcome.ok _, d) => some (p.withDownlink d true)
    | (Outcome.err _, d) => some (p.withDownlink d false)
    | (Outcome.panic, _) => none
  else
    some p

/-- The moves of the UE tasks; the pipeline's use of a slot is a packet here. -/
def step (env : DownlinkEnv) (p : Plane) : PlaneEvent -> Option Plane
  | PlaneEvent.session (Move.forward _) => none
  | PlaneEvent.session move =>
      (p.shared.step move).map fun s => { p with shared := s }
  | PlaneEvent.packet read => p.runDownlink env read

end Plane

def planeMachine (env : DownlinkEnv) : Machine Plane PlaneEvent where
  step := Plane.step env

namespace Plane

open PacketProcessor

/-!
## Packets are moves of the session machine
-/

theorem session_step {env : DownlinkEnv} {p p' : Plane} {move : Move}
    (h : (planeMachine env).step p (PlaneEvent.session move) = some p') :
    exists s, p.shared.step move = some s ∧ p' = { p with shared := s } := by
  have hmap : (p.shared.step move).map (fun s => { p with shared := s }) =
      some p' := by
    cases move with
    | forward slot => cases h
    | takeIndex task id => exact h
    | installUplink task rnd => exact h
    | commit task session tunnel => exact h
    | removeDownlink task session => exact h
    | removeUplink task => exact h
  rcases Option.map_eq_some_iff.mp hmap with ⟨s, hs, heq⟩
  exact ⟨s, hs, heq.symm⟩

theorem move_ne_forward {env : DownlinkEnv} {p p' : Plane} {move : Move}
    (h : (planeMachine env).step p (PlaneEvent.session move) = some p')
    (slot : Nat) : move ≠ Move.forward slot := by
  intro heq
  rw [heq] at h
  cases h

theorem packetEffect_table {env : DownlinkEnv} {d d' : Downlink}
    {packet : TunPacket} {out : Outcome UserplaneError Unit}
    (h : Downlink.PacketEffect env d packet out d')
    (hout : out ≠ Outcome.panic) :
    d'.table = d.table ∨
      exists i rule, d.table.lookup i = some rule ∧
        d'.table = d.table.set i (some rule.advance) := by
  cases h with
  | tooShort _ => exact Or.inl rfl
  | beyondTable _ _ => exact absurd rfl hout
  | noRule _ _ => exact Or.inl rfl
  | otherAddress _ _ _ => exact Or.inl rfl
  | overflow _ _ _ => exact absurd rfl hout
  | badAddress _ hrule _ => exact Or.inr ⟨_, _, hrule.left, rfl⟩
  | sendFailed _ hrule _ _ => exact Or.inr ⟨_, _, hrule.left, rfl⟩
  | forwarded _ hrule _ _ _ => exact Or.inr ⟨_, _, hrule.left, rfl⟩

theorem runDownlink_cases {env : DownlinkEnv} {p p' : Plane}
    {packet : TunPacket} (hrunning : p.running = true)
    (h : p.runDownlink env (some packet) = some p') :
    exists out d, Downlink.PacketEffect env p.downlink packet out d ∧
      ((out = Outcome.ok () ∧ p' = p.withDownlink d true) ∨
        ((exists e, out = Outcome.err e) ∧ p' = p.withDownlink d false)) := by
  have heffect := Downlink.handle_effect env p.downlink packet
  unfold runDownlink at h
  rw [if_pos hrunning] at h
  revert heffect h
  cases Downlink.handleNextDownlinkPacket env (some packet) p.downlink with
  | mk out d =>
      intro h heffect
      cases out with
      | ok u =>
          cases h
          exact ⟨_, d, heffect, Or.inl ⟨rfl, rfl⟩⟩
      | err e =>
          cases h
          exact ⟨_, d, heffect, Or.inr ⟨⟨e, rfl⟩, rfl⟩⟩
      | panic => cases h

theorem forward_step {s : Shared} {i : Nat} {rule : DownlinkForwardingRule}
    (h : s.processor.downlinkForwardingTable.lookup i = some rule) :
    s.step (Move.forward i) =
      some (withTable s
        (s.processor.downlinkForwardingTable.set i (some rule.advance))) := by
  simp [Shared.step, h, withTable, setDownlink]

theorem packet_step {env : DownlinkEnv} {p p' : Plane}
    {read : Option TunPacket}
    (h : (planeMachine env).step p (PlaneEvent.packet read) = some p') :
    p' = p ∨
      p.running = true ∧
        (read = none ∧ p' = p.withDownlink p.downlink false ∨
          exists packet, read = some packet ∧
            p.runDownlink env (some packet) = some p') := by
  change p.runDownlink env read = some p' at h
  cases hrunning : p.running with
  | false =>
      rw [runDownlink, if_neg (by rw [hrunning]; exact Bool.false_ne_true)] at h
      cases h
      exact Or.inl rfl
  | true =>
      cases read with
      | none =>
          rw [runDownlink, if_pos hrunning] at h
          cases h
          exact Or.inr ⟨rfl, Or.inl ⟨rfl, rfl⟩⟩
      | some packet => exact Or.inr ⟨rfl, Or.inr ⟨packet, rfl, h⟩⟩

theorem packet_shared {env : DownlinkEnv} {p p' : Plane}
    {read : Option TunPacket}
    (h : (planeMachine env).step p (PlaneEvent.packet read) = some p') :
    p'.shared = p.shared ∨
      exists i, p.shared.step (Move.forward i) = some p'.shared := by
  rcases packet_step h with hsame | ⟨hrunning, ⟨_, heq⟩ | ⟨packet, _, hround⟩⟩
  · rw [hsame]
    exact Or.inl rfl
  · rw [heq]
    exact Or.inl rfl
  · rcases runDownlink_cases hrunning hround with ⟨out, d, heffect, hout⟩
    have hshared : p'.shared = withTable p.shared d.table := by
      rcases hout with ⟨_, heq⟩ | ⟨_, heq⟩
      · rw [heq]
        rfl
      · rw [heq]
        rfl
    have hpanic : out ≠ Outcome.panic := by
      rcases hout with ⟨heq, _⟩ | ⟨⟨e, heq⟩, _⟩
      · rw [heq]
        exact Outcome.ok_ne_panic
      · rw [heq]
        exact Outcome.err_ne_panic
    rw [hshared]
    rcases packetEffect_table heffect hpanic with
      hsame | ⟨i, rule, hrule, hused⟩
    · rw [hsame]
      exact Or.inl rfl
    · rw [hused]
      exact Or.inr ⟨i, forward_step hrule⟩

/-- Every interleaving with packets is one of the session machine. -/
theorem sessionMachine_run {env : DownlinkEnv} {subnet : Ipv4Addr}
    {events : List PlaneEvent} {p : Plane}
    (h : (planeMachine env).run (start subnet) events = some p) :
    exists ms, sessionMachine.run (Shared.start subnet) ms =
      some p.shared := by
  have hmore : forall {s s' : Shared} {m : Move},
      (exists ms, sessionMachine.run (Shared.start subnet) ms = some s) ->
      s.step m = some s' ->
      exists ms, sessionMachine.run (Shared.start subnet) ms = some s' := by
    intro s s' m hs hstep
    rcases hs with ⟨ms, hms⟩
    refine ⟨ms ++ [m], ?_⟩
    rw [Machine.run_append hms]
    exact Machine.run_cons_of_step [] hstep
  refine Machine.run_invariant
    (I := fun q => exists ms,
      sessionMachine.run (Shared.start subnet) ms = some q.shared)
    ?_ ⟨[], rfl⟩ h
  intro q event q' hq hstep
  cases event with
  | session move =>
      rcases session_step hstep with ⟨s, hs, heq⟩
      rw [heq]
      exact hmore hq hs
  | packet read =>
      rcases packet_shared hstep with hsame | ⟨i, hforward⟩
      · rw [hsame]
        exact hq
      · exact hmore hq hforward

/-!
## What keeps the loop running
-/

def Deliverable (env : DownlinkEnv) (tunnel : GtpTunnel) : Prop :=
  exists ip, IpAddr.tryFrom tunnel.transportLayerAddress = Outcome.ok ip ∧
    env.canSend ip = true

def RulesMeet (supplied : GtpTunnel -> Prop) (s : Shared) : Prop :=
  forall i rule, s.processor.downlinkForwardingTable.lookup i = some rule ->
    supplied rule.remoteTunnelInfo

/-- The event commits only tunnels that meet the condition, and the tun device
does not fail. -/
def Admissible (supplied : GtpTunnel -> Prop) : PlaneEvent -> Prop
  | PlaneEvent.session (Move.commit _ _ tunnel) => supplied tunnel
  | PlaneEvent.session _ => True
  | PlaneEvent.packet read => read.isSome

theorem rulesMeet_set {supplied : GtpTunnel -> Prop} {s : Shared}
    (h : RulesMeet supplied s) (i : Nat) {new : Option DownlinkForwardingRule}
    (hnew : forall rule, new = some rule -> supplied rule.remoteTunnelInfo) :
    RulesMeet supplied
      (withTable s (s.processor.downlinkForwardingTable.set i new)) := by
  intro j rule hrule
  change (s.processor.downlinkForwardingTable.set i new).lookup j = _ at hrule
  by_cases hj : j = i
  · by_cases hi : i < maxUes
    · rw [hj, SlotTable.lookup_set_self _ _ hi] at hrule
      exact hnew rule hrule
    · rw [SlotTable.set, dif_neg hi] at hrule
      exact h j rule hrule
  · rw [SlotTable.lookup_set_ne _ _ hj] at hrule
    exact h j rule hrule

theorem rulesMeet_session {supplied : GtpTunnel -> Prop} {s s' : Shared}
    {move : Move} (h : RulesMeet supplied s)
    (hadm : Admissible supplied (PlaneEvent.session move))
    (heffect : Shared.Effect s move s') : RulesMeet supplied s' := by
  cases heffect with
  | indexTaken _ _ _ => exact h
  | indexRefused _ _ => exact h
  | uplinkInstalled _ => exact h
  | uplinkRemoved _ => exact h
  | committed _ _ =>
      apply rulesMeet_set h _
      intro rule hrule
      cases hrule
      exact hadm
  | downlinkRemoved _ _ =>
      apply rulesMeet_set h _
      intro rule hrule
      cases hrule
  | @forwarded slot old hold =>
      apply rulesMeet_set h _
      intro rule hrule
      cases hrule
      exact h slot old hold

structure Serving (subnet : Ipv4Addr) (supplied : GtpTunnel -> Prop)
    (p : Plane) : Prop where
  consistent : p.shared.Consistent subnet
  rules : RulesMeet supplied p.shared
  running : p.running = true

theorem serving_start (subnet : Ipv4Addr) (supplied : GtpTunnel -> Prop) :
    Serving subnet supplied (start subnet) where
  consistent := Shared.consistent_start subnet
  rules := by
    simp [RulesMeet, start, Shared.start, PacketProcessor.new]
  running := rfl

theorem serving_withTable {subnet : Ipv4Addr} {supplied : GtpTunnel -> Prop}
    {p : Plane} (h : Serving subnet supplied p) {d : Downlink}
    (htable : d.table = p.downlink.table ∨
      exists i rule, p.downlink.table.lookup i = some rule ∧
        d.table = p.downlink.table.set i (some rule.advance)) :
    Serving subnet supplied (p.withDownlink d true) := by
  rcases htable with heq | ⟨i, rule, hrule, heq⟩
  · have hshared : (p.withDownlink d true).shared = p.shared := by
      simp [withDownlink, withTable, heq, downlink]
    exact
      { consistent := by rw [hshared]; exact h.consistent
        rules := by rw [hshared]; exact h.rules
        running := rfl }
  · have hshared : (p.withDownlink d true).shared =
        withTable p.shared (p.downlink.table.set i (some rule.advance)) := by
      simp [withDownlink, heq]
    refine ⟨?_, ?_, rfl⟩
    · rw [hshared]
      exact Shared.consistent_step (m := Move.forward i) h.consistent
        (forward_step hrule)
    · rw [hshared]
      apply rulesMeet_set h.rules i
      intro new hnew
      cases hnew
      exact h.rules i rule hrule

theorem packetEffect_not_err {env : DownlinkEnv} {d d' : Downlink}
    {packet : TunPacket} {e : UserplaneError}
    (hrules : forall i rule, d.table.lookup i = some rule ->
      Deliverable env rule.remoteTunnelInfo) :
    ¬ Downlink.PacketEffect env d packet (Outcome.err e) d' := by
  intro h
  cases h with
  | badAddress _ hrule hbad =>
      rcases hrules _ _ hrule.left with ⟨ip, hip, _⟩
      rw [hbad] at hip
      cases hip
  | sendFailed _ hrule hip hfail =>
      rcases hrules _ _ hrule.left with ⟨ip', hip', hsend⟩
      rw [hip] at hip'
      cases hip'
      rw [hfail] at hsend
      cases hsend

theorem serving_step {env : DownlinkEnv} {subnet : Ipv4Addr}
    {supplied : GtpTunnel -> Prop}
    (hdeliver : forall tunnel, supplied tunnel -> Deliverable env tunnel)
    {p p' : Plane} {event : PlaneEvent} (h : Serving subnet supplied p)
    (hadm : Admissible supplied event)
    (hstep : (planeMachine env).step p event = some p') :
    Serving subnet supplied p' := by
  cases event with
  | session move =>
      rcases session_step hstep with ⟨s, hs, heq⟩
      have heffect := Shared.step_effect h.consistent.owned hs
      rw [heq]
      exact
        { consistent := Shared.consistent_step h.consistent hs
          rules := rulesMeet_session h.rules hadm heffect
          running := h.running }
  | packet read =>
      rcases Option.isSome_iff_exists.mp hadm with ⟨packet, hread⟩
      rw [hread] at hstep
      rcases runDownlink_cases h.running hstep with
        ⟨out, d, heffect, ⟨hout, heq⟩ | ⟨⟨e, hout⟩, heq⟩⟩
      · rw [heq]
        refine serving_withTable h (packetEffect_table heffect ?_)
        rw [hout]
        intro hpanic
        cases hpanic
      · rw [hout] at heffect
        refine absurd heffect (packetEffect_not_err ?_)
        intro i rule hrule
        exact hdeliver _ (h.rules i rule hrule)

/-!
## What stops it
-/

theorem hasDestination_unique {packet : TunPacket} {dst dst' : Ipv4Addr}
    (h : Downlink.HasDestination packet dst)
    (h' : Downlink.HasDestination packet dst') : dst = dst' := by
  rcases h with ⟨hlen, heq⟩
  rcases h' with ⟨_, heq'⟩
  exact heq.symm.trans heq'

theorem packetEffect_of_rule {env : DownlinkEnv} {d d' : Downlink}
    {packet : TunPacket} {out : Outcome UserplaneError Unit} {dst : Ipv4Addr}
    {entry : DownlinkForwardingRule}
    (h : Downlink.PacketEffect env d packet out d')
    (hdst : Downlink.HasDestination packet dst)
    (hrule : Downlink.HasRule d dst entry) :
    (entry.increment env = Outcome.panic ∧ out = Outcome.panic) ∨
      (¬ Deliverable env entry.remoteTunnelInfo ∧
        exists e, out = Outcome.err e) ∨
      (Deliverable env entry.remoteTunnelInfo ∧
        entry.increment env ≠ Outcome.panic ∧ out = Outcome.ok ()) := by
  have hsame : forall dst' entry', Downlink.HasDestination packet dst' ->
      Downlink.HasRule d dst' entry' -> entry' = entry := by
    intro dst' entry' hdst' hrule'
    rw [hasDestination_unique hdst' hdst] at hrule'
    exact Option.some.inj (hrule'.left.symm.trans hrule.left)
  cases h with
  | tooShort hshort =>
      rcases hdst with ⟨hlen, _⟩
      exact absurd hlen (Nat.not_le_of_lt hshort)
  | beyondTable hdst' hbeyond =>
      rw [hasDestination_unique hdst' hdst] at hbeyond
      exact absurd (SlotTable.lt_of_lookup hrule.left) hbeyond
  | noRule hdst' hnone =>
      rw [hasDestination_unique hdst' hdst, hrule.left] at hnone
      cases hnone
  | otherAddress hdst' hslot hne =>
      rw [hasDestination_unique hdst' hdst] at hslot hne
      rw [hrule.left] at hslot
      cases hslot
      exact absurd hrule.right hne
  | overflow hdst' hrule' hpanic =>
      rw [hsame _ _ hdst' hrule'] at hpanic
      exact Or.inl ⟨hpanic, rfl⟩
  | badAddress hdst' hrule' hbad =>
      rw [hsame _ _ hdst' hrule'] at hbad
      refine Or.inr (Or.inl ⟨?_, _, rfl⟩)
      intro hdeliver
      rcases hdeliver with ⟨ip, hip, _⟩
      rw [hbad] at hip
      cases hip
  | sendFailed hdst' hrule' hip hfail =>
      rw [hsame _ _ hdst' hrule'] at hip
      refine Or.inr (Or.inl ⟨?_, _, rfl⟩)
      intro hdeliver
      rcases hdeliver with ⟨ip', hip', hsend⟩
      rw [hip] at hip'
      cases hip'
      rw [hfail] at hsend
      cases hsend
  | forwarded hdst' hrule' hinc hip hsend =>
      rw [hsame _ _ hdst' hrule'] at hinc hip
      refine Or.inr (Or.inr ⟨⟨_, hip, hsend⟩, ?_, rfl⟩)
      rw [hinc]
      exact Outcome.ok_ne_panic

theorem handle_err_of_not_deliverable {env : DownlinkEnv} {d : Downlink}
    {packet : TunPacket} {dst : Ipv4Addr} {entry : DownlinkForwardingRule}
    (hdst : Downlink.HasDestination packet dst)
    (hrule : Downlink.HasRule d dst entry)
    (hinc : entry.increment env ≠ Outcome.panic)
    (hnot : ¬ Deliverable env entry.remoteTunnelInfo) :
    exists e, (Downlink.handleNextDownlinkPacket env (some packet) d).1 =
      Outcome.err e := by
  have heffect := Downlink.handle_effect env d packet
  rcases packetEffect_of_rule heffect hdst hrule with
    ⟨hpanic, _⟩ | ⟨_, herr⟩ | ⟨hdeliver, _⟩
  · exact absurd hpanic hinc
  · exact herr
  · exact absurd hdeliver hnot

def packetTo (dst : Ipv4Addr) : TunPacket where
  bytes := List.replicate 16 0 ++ dst.octets.toList
  fits := by simp

theorem packetTo_destination (dst : Ipv4Addr) :
    Downlink.HasDestination (packetTo dst) dst := by
  have hlen : ipv4HeaderLen <= (packetTo dst).bytes.length := by
    simp [packetTo, ipv4HeaderLen]
  refine ⟨hlen, ?_⟩
  rcases dst with ⟨⟨⟨l⟩, hl⟩⟩
  match l, hl with
  | [a, b, c, e], _ => rfl

def attach (subnet : Ipv4Addr) (tunnel : GtpTunnel) : List PlaneEvent :=
  [PlaneEvent.session (Move.takeIndex 0 1),
    PlaneEvent.session (Move.installUplink 0 #v[0, 0, 0]),
    PlaneEvent.session
      (Move.commit 0 (sessionFor subnet #v[0, 0, 0] 1) tunnel)]

theorem attach_run (env : DownlinkEnv) (subnet : Ipv4Addr)
    (tunnel : GtpTunnel) :
    exists p, (planeMachine env).run (start subnet) (attach subnet tunnel) =
        some p ∧ p.running = true ∧
      Downlink.HasRule p.downlink (sessionAddr subnet 1)
        ⟨tunnel, IpAddr.v4 (sessionAddr subnet 1), 0, 0⟩ := by
  have hreserved : (sessionFor subnet #v[0, 0, 0] 1).Reserved subnet :=
    ⟨#v[0, 0, 0], 1, rfl, by decide, by decide⟩
  have hfree : 1 ∉ (PacketProcessor.new subnet).indexPool.inUse := by
    simp [PacketProcessor.new, IndexPool.requestId, IndexPool.new]
  have htake := takeIndex_of_lt (PacketProcessor.new subnet)
    (show 1 < maxUes by decide)
  have hinstall := installUplink_of_lt ((PacketProcessor.new subnet).withIndex 1)
    #v[0, 0, 0] (show (1 : UInt8).toNat < maxUes by decide)
  have hsubnet : ((PacketProcessor.new subnet).withIndex 1).ueSubnet = subnet :=
    rfl
  have hcommit := UserplaneSession.commit_of_reserved hreserved tunnel
  have hlookup (t : DownlinkForwardingTable) (rule : DownlinkForwardingRule) :
      (t.set 1 (some rule)).lookup 1 = some rule :=
    SlotTable.lookup_set_self t _ (by decide)
  simp [attach, Machine.run, planeMachine, step, start, Shared.step,
    Shared.start, Shared.setProgress, Shared.Owns, htake, hfree, hinstall,
    hsubnet, hcommit, downlink, Downlink.HasRule, setDownlink, hlookup]
  rfl

/-- The loop survives every interleaving of session operations and packets in
which the committed tunnels meet the condition. -/
def LoopSurvives (env : DownlinkEnv) (subnet : Ipv4Addr)
    (supplied : GtpTunnel -> Prop) : Prop :=
  forall events p,
    (forall event, event ∈ events -> Admissible supplied event) ->
    (planeMachine env).run (start subnet) events = some p -> p.running = true

theorem stops_of_not_deliverable {env : DownlinkEnv} (subnet : Ipv4Addr)
    {tunnel : GtpTunnel} (hnot : ¬ Deliverable env tunnel) :
    exists p, (planeMachine env).run (start subnet)
        (attach subnet tunnel ++
          [PlaneEvent.packet (some (packetTo (sessionAddr subnet 1)))]) =
        some p ∧ p.running = false := by
  rcases attach_run env subnet tunnel with ⟨p, hrun, hrunning, hrule⟩
  have hinc : (DownlinkForwardingRule.mk tunnel
      (IpAddr.v4 (sessionAddr subnet 1)) 0 0).increment env ≠
        Outcome.panic := by
    intro hpanic
    simp [DownlinkForwardingRule.increment] at hpanic
  rcases handle_err_of_not_deliverable (packetTo_destination _) hrule hinc
    hnot with ⟨e, herr⟩
  rw [Machine.run_append hrun]
  revert herr
  simp only [Machine.run, planeMachine, step, runDownlink, hrunning,
    ↓reduceIte]
  cases Downlink.handleNextDownlinkPacket env
      (some (packetTo (sessionAddr subnet 1))) p.downlink with
  | mk out d =>
      intro herr
      cases herr
      exact ⟨_, rfl, rfl⟩

theorem loopSurvives_iff_deliverable (env : DownlinkEnv) (subnet : Ipv4Addr)
    (supplied : GtpTunnel -> Prop) :
    LoopSurvives env subnet supplied <->
      forall tunnel, supplied tunnel -> Deliverable env tunnel := by
  constructor
  · intro hsurvives tunnel htunnel
    by_cases hdel : Deliverable env tunnel
    · exact hdel
    · rcases stops_of_not_deliverable subnet hdel with ⟨p, hrun, hstopped⟩
      have hrunning := hsurvives _ p (by simp [attach, Admissible, htunnel]) hrun
      rw [hstopped] at hrunning
      cases hrunning
  · intro hdeliver events p hadm hrun
    have hserving := Machine.run_invariant_along
      (fun _ _ _ h hgood hstep => serving_step hdeliver h hgood hstep)
      (serving_start subnet supplied) (Machine.along_of_forall hadm _) hrun
    exact hserving.running

/-- A tunnel delivers exactly when its address has four bytes, or has sixteen
and the socket can send to that IPv6 address. -/
theorem deliverable_iff {env : DownlinkEnv}
    (hv4 : forall a, env.canSend (IpAddr.v4 a) = true) (tunnel : GtpTunnel) :
    Deliverable env tunnel <->
      (25 <= tunnel.transportLayerAddress.bits.len ∧
        tunnel.transportLayerAddress.bits.len <= 32) ∨
      exists a, IpAddr.tryFrom tunnel.transportLayerAddress =
        Outcome.ok (IpAddr.v6 a) ∧ env.canSend (IpAddr.v6 a) = true := by
  constructor
  · intro h
    rcases h with ⟨ip, hip, hsend⟩
    rcases tryFrom_cases tunnel.transportLayerAddress with
      ⟨a, _, hlen⟩ | ⟨a, hok, _⟩ | ⟨n, herr, _⟩
    · exact Or.inl hlen
    · rw [hok] at hip
      cases hip
      exact Or.inr ⟨a, hok, hsend⟩
    · rw [herr] at hip
      cases hip
  · intro h
    rcases h with hlen | ⟨a, hok, hsend⟩
    · rcases tryFrom_cases tunnel.transportLayerAddress with
        ⟨a, hok, _⟩ | ⟨a, _, hlow, _⟩ | ⟨n, _, hnot, _⟩
      · exact ⟨_, hok, hv4 a⟩
      · lia
      · exact absurd hlen hnot
    · exact ⟨_, hok, hsend⟩

/-- The downlink loop survives exactly the tunnels whose address is an IPv4
address, or an IPv6 address the F1-U socket can send to. -/
theorem loopSurvives_iff {env : DownlinkEnv}
    (hv4 : forall a, env.canSend (IpAddr.v4 a) = true) (subnet : Ipv4Addr)
    (supplied : GtpTunnel -> Prop) :
    LoopSurvives env subnet supplied <->
      forall tunnel, supplied tunnel ->
        (25 <= tunnel.transportLayerAddress.bits.len ∧
          tunnel.transportLayerAddress.bits.len <= 32) ∨
        exists a, IpAddr.tryFrom tunnel.transportLayerAddress =
          Outcome.ok (IpAddr.v6 a) ∧ env.canSend (IpAddr.v6 a) = true := by
  rw [loopSurvives_iff_deliverable]
  constructor
  · intro h tunnel htunnel
    exact (deliverable_iff hv4 tunnel).mp (h tunnel htunnel)
  · intro h tunnel htunnel
    exact (deliverable_iff hv4 tunnel).mpr (h tunnel htunnel)

/-- An IPv4 socket, which cannot send to an IPv6 address. -/
def ipv4Socket : DownlinkEnv where
  overflowChecks := true
  canSend
    | IpAddr.v4 _ => true
    | IpAddr.v6 _ => false

theorem loopSurvives_iff_ipv4Socket :
    (forall a, ipv4Socket.canSend (IpAddr.v4 a) = true) ∧
      LoopSurvives ipv4Socket Shared.smallSubnet fun tunnel =>
        tunnel.transportLayerAddress.bits.len = 32 := by
  refine ⟨fun _ => rfl, ?_⟩
  rw [loopSurvives_iff (fun _ => rfl)]
  intro tunnel hlen
  exact Or.inl (by lia)

/-- The dual-stack form of a transport layer address, 160 bits. -/
def dualStackTunnel : GtpTunnel where
  transportLayerAddress := ⟨BitString.fromSlice (List.replicate 20 1)⟩
  gtpTeid := Shared.smallTunnel.gtpTeid

/-- Not every tunnel of 1 to 160 bits that a DU may send is safe: the dual-stack
form ends the loop. -/
theorem not_loopSurvives_dualStack :
    ¬ LoopSurvives ipv4Socket Shared.smallSubnet fun tunnel =>
      1 <= tunnel.transportLayerAddress.bits.len ∧
        tunnel.transportLayerAddress.bits.len <= 160 := by
  rw [loopSurvives_iff_deliverable]
  intro h
  rcases h dualStackTunnel (by decide) with ⟨ip, hip, _⟩
  cases hip

end Plane
end Userplane
end QCore
