import QCore.F1ap.WireFormat

/-!
# The messages that QCore builds

The builders of `build.rs` for messages that are modelled on the wire.  What
they make is valid, so it is encoded, and whoever decodes the octets has the
message back.
-/

namespace QCore
namespace F1ap
namespace Codec

open Foundation
open Foundation.Per
open Stack

variable {R : Runtime} {other : Type}

theorem ueId_valid (R : Runtime) (id : UInt32) :
    (integer R u32 0 4294967295 false).valid id :=
  ⟨Nat.zero_le _, Nat.le_of_lt_succ id.toNat_lt, by decide⟩

theorem srbId_valid {id : UInt8} (h : id.toNat <= 3) : (srbId R).valid id :=
  ⟨Nat.zero_le _, h, by decide⟩

/-!
## Downlink transfer
-/

/-- `dl_rrc_message_transfer`, with the elements it leaves out. -/
def dlMessage (R : Runtime) (t : DlRrcMessageTransfer) : (dl R).Message :=
  ⟨fun
    | DlIe.gnbCuUeF1apId => some t.gnbCuUeF1apId
    | DlIe.gnbDuUeF1apId => some t.gnbDuUeF1apId
    | DlIe.oldGnbDuUeF1apId => none
    | DlIe.srbId => some t.srbId
    | DlIe.executeDuplication => none
    | DlIe.rrcContainer => some t.rrcContainer
    | DlIe.ratFrequencyPriorityInformation => none
    | DlIe.rrcDeliveryStatusRequest => none
    | DlIe.ueContextNotRetrievable => none
    | DlIe.redirectedRrcMessage => none
    | DlIe.plmnAssistanceInfoForNetShar => none
    | DlIe.newGnbCuUeF1apId => none
    | DlIe.additionalRrmPriorityIndex => none,
    fun f h => by cases f <;> first | rfl | cases h⟩

def dlKey : Key :=
  ⟨PduKind.initiatingMessage, 12, by decide⟩

def dlPdu (t : DlRrcMessageTransfer) : Pdu R other :=
  ⟨dlKey, dlMessage R t⟩

theorem dlPdu_valid {t : DlRrcMessageTransfer} (hsrb : t.srbId.toNat <= 3)
    (hlength : t.rrcContainer.length <= 16200) :
    Pdu.Valid (dlPdu t : Pdu R other) where
  values e he := by
    have hmem : e ∈ [(⟨DlIe.gnbCuUeF1apId, t.gnbCuUeF1apId⟩ :
        Sigma (dl R).type), ⟨DlIe.gnbDuUeF1apId, t.gnbDuUeF1apId⟩,
        ⟨DlIe.srbId, t.srbId⟩, ⟨DlIe.rrcContainer, t.rrcContainer⟩] := he
    simp only [List.mem_cons, List.not_mem_nil, or_false] at hmem
    rcases hmem with rfl | rfl | rfl | rfl
    · exact ueId_valid R t.gnbCuUeF1apId
    · exact ueId_valid R t.gnbDuUeF1apId
    · exact srbId_valid hsrb
    · exact Nat.lt_of_le_of_lt hlength (by decide)
  size := by
    change 49 + (111 + 64 + (111 + 64 + (111 + 64 +
      (111 + (32 + 8 * t.rrcContainer.length) + 0)))) <= 131064
    lia

/-!
## Release command
-/

def releaseCommandKey : Key :=
  ⟨PduKind.initiatingMessage, 6, by decide⟩

/-- `ue_context_release_command`.  The bearer is one that an RRC message would
go out on, and there is none. -/
def releaseCommandMessage (R : Runtime) (cu : GnbCuUeF1apId) (du : GnbDuUeF1apId)
    (cause : FullCause) : (releaseCommand R).Message :=
  ⟨fun
    | ReleaseCommandIe.gnbCuUeF1apId => some cu
    | ReleaseCommandIe.gnbDuUeF1apId => some du
    | ReleaseCommandIe.cause => some cause
    | ReleaseCommandIe.rrcContainer => none
    | ReleaseCommandIe.srbId => some (1 : UInt8)
    | ReleaseCommandIe.oldGnbDuUeF1apId => none
    | ReleaseCommandIe.executeDuplication => none
    | ReleaseCommandIe.rrcDeliveryStatusRequest => none
    | ReleaseCommandIe.targetCellsToCancel => none,
    fun f h => by cases f <;> first | rfl | cases h⟩

def releaseCommandPdu (cu : GnbCuUeF1apId) (du : GnbDuUeF1apId)
    (cause : FullCause) : Pdu R other :=
  ⟨releaseCommandKey, releaseCommandMessage R cu du cause⟩

theorem cause_size (c : FullCause) : (cause R).size c = 32 := by
  cases c <;> rfl

theorem releaseCommandPdu_valid (cu : GnbCuUeF1apId) (du : GnbDuUeF1apId)
    (c : FullCause) : Pdu.Valid (releaseCommandPdu cu du c : Pdu R other) where
  values e he := by
    have hmem : e ∈ [(⟨ReleaseCommandIe.gnbCuUeF1apId, cu⟩ :
        Sigma (releaseCommand R).type), ⟨ReleaseCommandIe.gnbDuUeF1apId, du⟩,
        ⟨ReleaseCommandIe.cause, c⟩, ⟨ReleaseCommandIe.srbId, (1 : UInt8)⟩] := he
    simp only [List.mem_cons, List.not_mem_nil, or_false] at hmem
    rcases hmem with rfl | rfl | rfl | rfl
    · exact ueId_valid R cu
    · exact ueId_valid R du
    · exact cause_valid c
    · exact srbId_valid (show (1 : UInt8).toNat <= 3 by decide)
  size := by
    change 49 + (111 + 64 + (111 + 64 + (111 + (cause R).size c +
      (111 + 64 + 0)))) <= 131064
    rw [cause_size]
    decide

/-!
## F1 removal
-/

def removalResponseKey : Key :=
  ⟨PduKind.successfulOutcome, 26, by decide⟩

/-- The response of `F1RemovalProcedure`. -/
def removalResponseOf (R : Runtime) (transactionId : UInt8) :
    (removalResponse R).Message :=
  ⟨fun
    | RemovalResponseIe.transactionId => some transactionId
    | RemovalResponseIe.criticalityDiagnostics => none,
    fun f h => by cases f <;> first | rfl | cases h⟩

def removalResponsePdu (transactionId : UInt8) : Pdu R other :=
  ⟨removalResponseKey, removalResponseOf R transactionId⟩

theorem removalResponsePdu_valid (id : UInt8) :
    Pdu.Valid (removalResponsePdu id : Pdu R other) where
  values e he := by
    have hmem : e ∈ [(⟨RemovalResponseIe.transactionId, id⟩ :
        Sigma (removalResponse R).type)] := he
    rw [List.mem_singleton.mp hmem]
    exact transactionId_valid id
  size := by
    change 49 + (111 + 64 + 0) <= 131064
    decide

end Codec
end F1ap
end QCore
