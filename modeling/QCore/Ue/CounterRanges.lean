import QCore.Ue.Counts
import QCore.Userplane.CounterRanges

/-!
# The ranges of the protocol counters

Four counters of the program are incremented without a check: the two of a
downlink rule, `tx_next` of a PDCP sender and `dl_count` of a NAS security
context.  Those of a UE task stay small, because the dialogue of the task does.
Those of a rule follow the traffic, and the narrower one is full after 65535
packets.
-/

namespace QCore
namespace Ue

open Foundation
open F1ap
open Nas
open Security
open Userplane

/-- The messages of a task went out from states whose counts are 0, 1, 2 and so
on, up to the present state, and no increment of a count leaves `u32`. -/
structure TaskCountersFit (api : HandlerApi) (s : Task) : Prop where
  srb1 : exists senders : List PdcpTx,
    List.Forall₂ (Srb1Protected api) (srb1Pdus s.log)
        (senders.map srb1Inputs) ∧
      forall (k : Nat) p, (senders ++ [s.ue.pdcpTx])[k]? = some p ->
        p.txNext.toNat = k ∧ k + 1 < 4294967296
  nas : exists contexts : List SecurityContext,
    List.Forall₂ (NasProtected api) (protectedNas s.log)
        (contexts.map protectionOf) ∧
      forall (k : Nat) context,
        (contexts ++ s.ue.nas.securityContext.toList)[k]? = some context ->
          context.dlCount.toNat = k ∧ k + 1 < 4294967296

/-- No counter leaves its type: not those of a rule in this run of the
userplane, and not those of a UE task in any run next to others. -/
structure CountersFit (env : DownlinkEnv) (subnet : Ipv4Addr)
    (events : List PlaneEvent) : Prop where
  downlink :
    (planeMachine env).Along Plane.IncrementsFit (Plane.start subnet) events
  tasks : forall api ueId r inbox task ms s,
    Performs subnet task ms s (UeMessageHandler.runContext api r
      (UeMessageHandler.start api ueId r inbox)).2.log ->
    TaskCountersFit api (UeMessageHandler.runContext api r
      (UeMessageHandler.start api ueId r inbox)).2

/-!
## The counters of a task
-/

variable {api : HandlerApi}

theorem Numbered.count {states : List PdcpTx} (h : Numbered states) {k : Nat}
    {p : PdcpTx} (hk : states[k]? = some p) : p.txNext = UInt32.ofNat k := by
  have hlt := (List.getElem?_eq_some_iff.mp hk).choose
  have hcount := congrArg (fun counts => counts[k]?) h
  simp only [List.getElem?_map, hk, List.getElem?_range hlt, Option.map_some]
    at hcount
  exact Option.some.inj hcount

theorem Srb1Counted.fit {s : Task} (h : Srb1Counted api s)
    (hfew : (srb1Pdus s.log).length + 1 < 4294967296) :
    exists senders : List PdcpTx,
      List.Forall₂ (Srb1Protected api) (srb1Pdus s.log)
          (senders.map srb1Inputs) ∧
        forall (k : Nat) p, (senders ++ [s.ue.pdcpTx])[k]? = some p ->
          p.txNext.toNat = k ∧ k + 1 < 4294967296 := by
  rcases h with ⟨states, hsent, hnumbered, hnext⟩
  have hlength := hsent.length_eq
  rw [List.length_map] at hlength
  refine ⟨states, hsent, ?_⟩
  intro k p hk
  have hcount := (numbered_concat hnumbered hnext).count hk
  have hlt := (List.getElem?_eq_some_iff.mp hk).choose
  rw [List.length_append, List.length_singleton, ← hlength] at hlt
  rw [hcount, UInt32.toNat_ofNat_of_lt' (by change k < 4294967296; lia)]
  exact ⟨rfl, by lia⟩

theorem NasCounted.fit {messages : List (Nas5gsMessage × Bytes)}
    {n : NasContext} {key : Option Key128} (h : NasCounted api messages n key)
    (hfew : messages.length < 16777216) :
    exists contexts : List SecurityContext,
      List.Forall₂ (NasProtected api) messages (contexts.map protectionOf) ∧
        forall (k : Nat) context,
          (contexts ++ n.securityContext.toList)[k]? = some context ->
            context.dlCount.toNat = k ∧ k + 1 < 4294967296 := by
  cases key with
  | none =>
      rcases h with ⟨hnone, hempty⟩
      rw [hnone, hempty]
      refine ⟨[], List.Forall₂.nil, ?_⟩
      intro k context hk
      cases hk
  | some ik =>
      rcases h with ⟨hsome, hprotected⟩
      rw [hsome]
      refine ⟨(List.range messages.length).map (contextAfter ik), ?_, ?_⟩
      · rw [List.map_map]
        exact hprotected
      · intro k context hk
        have hall : (List.range messages.length).map (contextAfter ik) ++
            [contextAfter ik messages.length] =
              (List.range (messages.length + 1)).map (contextAfter ik) := by
          rw [List.range_succ, List.map_append, List.map_singleton]
        change (_ ++ [contextAfter ik messages.length])[k]? = _ at hk
        rw [hall, List.getElem?_map] at hk
        rcases Option.map_eq_some_iff.mp hk with ⟨i, hi, heq⟩
        rcases List.getElem?_eq_some_iff.mp hi with ⟨hlt, hget⟩
        rw [List.length_range] at hlt
        rw [List.getElem_range] at hget
        rw [← heq, ← hget]
        exact ⟨toNat_countAfter (by lia), by lia⟩

theorem run_taskCountersFit {ueId : GnbCuUeF1apId}
    {r : InitialUlRrcMessageTransfer} {inbox : List F1apPdu}
    {subnet : Ipv4Addr} {task : Nat} {ms : List Move} {s : Shared}
    (hperforms : Performs subnet task ms s (UeMessageHandler.runContext api r
      (UeMessageHandler.start api ueId r inbox)).2.log) :
    TaskCountersFit api (UeMessageHandler.runContext api r
      (UeMessageHandler.start api ueId r inbox)).2 := by
  rcases runContext_counted api r (start_counted api ueId r inbox) with
    ⟨key, hcounted⟩
  rcases messages_lt rfl hperforms with ⟨hnas, hsrb1⟩
  unfold maxUes at hnas hsrb1
  exact ⟨hcounted.srb1.fit (by lia), hcounted.nas.fit (by lia)⟩

/-!
## All counters
-/

/-- In every run no increment of a protocol counter leaves its type, exactly
when the loop never takes up more than 65535 packets for a session between a
commit of the session and its next commit or deletion. -/
theorem countersFit_iff (env : DownlinkEnv) (subnet : Ipv4Addr)
    (events : List PlaneEvent) :
    CountersFit env subnet events <->
      Plane.FewPackets env subnet events := by
  rw [← Plane.incrementsFit_iff]
  constructor
  · exact CountersFit.downlink
  · intro h
    exact ⟨h, fun _ _ _ _ _ _ _ hperforms => run_taskCountersFit hperforms⟩

/-- One session gets 65536 packets.  The userplane of a debug build, which has
served all others, panics on the last one. -/
theorem not_countersFit_download :
    ¬ CountersFit Plane.ipv4Socket Shared.smallSubnet (Plane.download 65536) ∧
      (exists p, (planeMachine Plane.ipv4Socket).run
        (Plane.start Shared.smallSubnet) (Plane.download 65535) = some p) ∧
      (planeMachine Plane.ipv4Socket).run (Plane.start Shared.smallSubnet)
        (Plane.download 65536) = none := by
  rcases Plane.download_run with ⟨p, _, hrun, _⟩
  exact ⟨fun h => Plane.not_incrementsFit_download h.downlink, ⟨p, hrun⟩,
    Plane.download_panics⟩

end Ue
end QCore
