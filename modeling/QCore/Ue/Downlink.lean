import QCore.F1ap.Build
import QCore.Ue.AttachFlow
import QCore.Ue.Upkeep

/-!
# Downlink transfers on the wire

`rrc_request` hands a transfer to the stack, which encodes it and sends the
octets to the DU.  Encoding can fail in general.  It does not fail for what a UE
task sends, and the DU that decodes the octets has the transfer back, so the log
of a task is what the DU sees.
-/

namespace QCore
namespace Ue

open Foundation
open Foundation.Cmd
open F1ap
open Rrc
open Security

variable (api : HandlerApi) (cu : GnbCuUeF1apId) (du : GnbDuUeF1apId)

/-!
## Whole runs
-/

/-- The transfer names the UE of the task and carries the encoded message in a
PDU of its bearer. -/
structure Carries (t : DlRrcMessageTransfer) (rrc : DlRrcMessage) : Prop where
  cu : t.gnbCuUeF1apId = cu
  du : t.gnbDuUeF1apId = du
  wraps : exists rrcBytes p p', api.rrcCodec.encode rrc = some rrcBytes ∧
    Wraps api t.srbId p rrcBytes t.rrcContainer p'

def Carrying : UeEvent -> Prop
  | UeEvent.dlRrcMessageTransfer t rrc => Carries api cu du t rrc
  | _ => True

structure Addressing (s : Task) : Prop where
  key : s.ue.key = cu
  duId : s.ue.gnbDuUeF1apId = du
  log : forall event, event ∈ s.log -> Carrying api cu du event

variable {api cu du}

theorem Addressing.record {s : Task} {event : UeEvent} (h : Addressing api cu du s)
    (hevent : Carrying api cu du event) :
    Addressing api cu du (s.record event) := by
  refine ⟨h.key, h.duId, ?_⟩
  intro event' hmem
  rcases List.mem_append.mp hmem with hold | hnew
  · exact h.log event' hold
  · rw [List.mem_singleton.mp hnew]
    exact hevent

theorem addressingSendRrc (srbId : SrbId) (rrc : DlRrcMessage) :
    Keeps (Addressing api cu du) (sendRrc api srbId rrc) := by
  intro s hs
  rcases sendRrc_sent api srbId rrc s with
    ⟨_, hcase⟩ | ⟨rrcBytes, hencode, hcase | ⟨rrcContainer, p, hwraps, hcase⟩⟩
  · rw [hcase]
    exact hs
  · rw [hcase]
    exact hs
  · rw [hcase]
    exact Addressing.record (s := s.setPdcpTx p) ⟨hs.key, hs.duId, hs.log⟩
      ⟨hs.key, hs.duId, rrcBytes, s.ue.pdcpTx, p, hencode, hwraps⟩

theorem addressingEncodeNas (nas : Nas.Nas5gsMessage) :
    Triple (Addressing api cu du) (encodeNas api nas)
      (fun _ s => True ∧ Addressing api cu du s) (Addressing api cu du) := by
  intro s hs
  rcases encodeNas_cases nas s with ⟨bytes, n, _, hcase⟩ | ⟨e, hcase⟩ | hcase
  · rw [hcase]
    exact ⟨trivial, Addressing.record (s := s.setNas n)
      ⟨hs.key, hs.duId, hs.log⟩ trivial⟩
  · rw [hcase]
    exact hs
  · rw [hcase]
    exact hs

theorem addressingRecv : Keeps (Addressing api cu du) recv := by
  intro s hs
  rcases recv_cases s with ⟨_, hcase⟩ | ⟨pdu, rest, _, hcase⟩
  · rw [hcase]
    exact hs
  · rw [hcase]
    exact Addressing.record (s := { s with inbox := rest })
      ⟨hs.key, hs.duId, hs.log⟩ trivial

variable (api cu du)

theorem addressingRequests :
    RequestsKeep api (Addressing api cu du) (Carrying api cu du) (fun _ => True)
      (fun _ => True) where
  recv := addressingRecv
  sendRrc srbId rrc _ := addressingSendRrc srbId rrc
  encodeNas nas _ := addressingEncodeNas nas
  record _ _ hevent hs := hs.record hevent

theorem runInner_addressing (r : InitialUlRrcMessageTransfer) :
    Keeps (Addressing api cu du) (UeMessageHandler.runInner api r) := by
  have h := addressingRequests api cu du
  have hset : forall s n, Addressing api cu du s ->
      Addressing api cu du (s.setNas n) :=
    fun _ _ hs => ⟨hs.key, hs.duId, hs.log⟩
  have hquiet : forall event : UeEvent,
      (forall t rrc, event ≠ UeEvent.dlRrcMessageTransfer t rrc) ->
        Carrying api cu du event := by
    intro event hevent
    cases event with
    | dlRrcMessageTransfer t rrc => exact absurd rfl (hevent t rrc)
    | _ => trivial
  refine h.runInner (fun _ hs => hs) (fun _ _ => trivial) ?_
    (h.initialAccess (fun _ => trivial) hset
      (fun _ _ hs => ⟨hs.key, hs.duId, hs.log⟩) r)
  exact h.sessionEstablishment (fun _ _ hs => ⟨hs.key, hs.duId, hs.log⟩)
    (fun event hsent _ => hquiet event hsent) fun _ => trivial

theorem run_addressing (r : InitialUlRrcMessageTransfer) (rest : List F1apPdu) :
    forall event, event ∈ (UeMessageHandler.run api cu
      (F1apPdu.initialUlRrcMessageTransfer r :: rest)).2 ->
        Carrying api cu r.gnbDuUeF1apId event := by
  have hstart : Addressing api cu r.gnbDuUeF1apId
      (UeMessageHandler.start api cu r rest) := by
    refine ⟨rfl, rfl, ?_⟩
    intro event hmem
    rw [List.mem_singleton.mp hmem]
    trivial
  have hdestroy : Keeps (Addressing api cu r.gnbDuUeF1apId)
      UeMessageHandler.destroy :=
    (addressingRequests api cu r.gnbDuUeF1apId).destroy (fun _ => trivial)
      (fun _ => trivial) fun _ hs => ⟨hs.key, hs.duId, hs.log⟩
  exact (UeMessageHandler.runContext_after
    (runInner_addressing api cu r.gnbDuUeF1apId r) hdestroy hstart).log

theorem Wraps.bound {api : HandlerApi} {srbId : SrbId} {p p' : PdcpTx}
    {rrcBytes out : Bytes} (h : Wraps api srbId p rrcBytes out p') :
    srbId.toNat <= 3 ∧ out.length <= rrcBytes.length + 6 := by
  rcases h with ⟨hsrb, hout, _⟩ | ⟨hsrb, hout, _⟩
  · rw [hsrb, hout]
    exact ⟨by decide, Nat.le_add_right _ 6⟩
  · rw [hsrb, hout]
    refine ⟨by decide, ?_⟩
    simp only [PdcpTx.srb1Pdu, PdcpTx.header, be16, List.length_append,
      Vector.length_toList, List.length_cons, List.length_nil]
    lia

end Ue
end QCore
