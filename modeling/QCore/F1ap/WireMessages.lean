import QCore.F1ap.Ies

/-!
# F1AP messages on the wire

The messages of `pdu.rs` that a DU and a UE task exchange, and those of the F1
removal procedure, with all their information elements.  A row has the
identifier of an element, its criticality, whether it is mandatory, the name
under which its absence is reported, and its codec.
-/

namespace QCore
namespace F1ap
namespace Codec

open Foundation
open Foundation.Per

variable (R : Runtime)

/-!
## RRC transfer
-/

inductive InitialUlIe where
  | gnbDuUeF1apId
  | nrCgi
  | cRnti
  | rrcContainer
  | duToCuRrcContainer
  | sulAccessIndication
  | transactionId
  | ranUeId
  | rrcContainerRrcSetupComplete
deriving DecidableEq, Repr

def InitialUlIe.type : InitialUlIe -> Type
  | gnbDuUeF1apId => GnbDuUeF1apId
  | nrCgi => NrCgi
  | cRnti => UInt16
  | rrcContainer => Bytes
  | duToCuRrcContainer => Bytes
  | sulAccessIndication => OnlyTrue
  | transactionId => UInt8
  | ranUeId => Vector UInt8 8
  | rrcContainerRrcSetupComplete => Bytes

def InitialUlIe.row : (f : InitialUlIe) -> Element R f.type
  | gnbDuUeF1apId =>
      ⟨41, Criticality.reject, true, "gnb_du_ue_f1ap_id", Codec.gnbDuUeF1apId R⟩
  | nrCgi => ⟨111, Criticality.reject, true, "nr_cgi", Codec.nrCgi R⟩
  | cRnti => ⟨95, Criticality.reject, true, "c_rnti", Codec.cRnti R⟩
  | rrcContainer =>
      ⟨50, Criticality.reject, true, "rrc_container", Codec.rrcContainer R⟩
  | duToCuRrcContainer =>
      ⟨128, Criticality.reject, false, "du_to_cu_rrc_container",
        Codec.duToCuRrcContainer R⟩
  | sulAccessIndication =>
      ⟨178, Criticality.ignore, false, "sul_access_indication",
        Codec.sulAccessIndication R⟩
  | transactionId =>
      ⟨78, Criticality.ignore, false, "transaction_id", Codec.transactionId R⟩
  | ranUeId => ⟨226, Criticality.ignore, false, "ran_ue_id", Codec.ranUeId R⟩
  | rrcContainerRrcSetupComplete =>
      ⟨241, Criticality.ignore, false, "rrc_container_rrc_setup_complete",
        Codec.rrcContainerRrcSetupComplete R⟩

/-- `InitialUlRrcMessageTransfer` -/
def initialUl : Container R InitialUlIe where
  order := [.gnbDuUeF1apId, .nrCgi, .cRnti, .rrcContainer, .duToCuRrcContainer,
    .sulAccessIndication, .transactionId, .ranUeId,
    .rrcContainerRrcSetupComplete]
  type := InitialUlIe.type
  row := InitialUlIe.row R
  covers f := by cases f <;> decide
  ids_nodup := of_decide_eq_true rfl
  few := by decide

inductive DlIe where
  | gnbCuUeF1apId
  | gnbDuUeF1apId
  | oldGnbDuUeF1apId
  | srbId
  | executeDuplication
  | rrcContainer
  | ratFrequencyPriorityInformation
  | rrcDeliveryStatusRequest
  | ueContextNotRetrievable
  | redirectedRrcMessage
  | plmnAssistanceInfoForNetShar
  | newGnbCuUeF1apId
  | additionalRrmPriorityIndex
deriving DecidableEq, Repr

def DlIe.type : DlIe -> Type
  | gnbCuUeF1apId => GnbCuUeF1apId
  | gnbDuUeF1apId => GnbDuUeF1apId
  | oldGnbDuUeF1apId => GnbDuUeF1apId
  | srbId => SrbId
  | executeDuplication => OnlyTrue
  | rrcContainer => Bytes
  | ratFrequencyPriorityInformation => RatFrequencyPriorityInformation
  | rrcDeliveryStatusRequest => OnlyTrue
  | ueContextNotRetrievable => OnlyTrue
  | redirectedRrcMessage => Bytes
  | plmnAssistanceInfoForNetShar => Vector UInt8 3
  | newGnbCuUeF1apId => GnbCuUeF1apId
  | additionalRrmPriorityIndex => Bits

def DlIe.row : (f : DlIe) -> Element R f.type
  | gnbCuUeF1apId =>
      ⟨40, Criticality.reject, true, "gnb_cu_ue_f1ap_id", Codec.gnbCuUeF1apId R⟩
  | gnbDuUeF1apId =>
      ⟨41, Criticality.reject, true, "gnb_du_ue_f1ap_id", Codec.gnbDuUeF1apId R⟩
  | oldGnbDuUeF1apId =>
      ⟨47, Criticality.reject, false, "old_gnb_du_ue_f1ap_id",
        Codec.gnbDuUeF1apId R⟩
  | srbId => ⟨64, Criticality.reject, true, "srb_id", Codec.srbId R⟩
  | executeDuplication =>
      ⟨109, Criticality.ignore, false, "execute_duplication",
        Codec.executeDuplication R⟩
  | rrcContainer =>
      ⟨50, Criticality.reject, true, "rrc_container", Codec.rrcContainer R⟩
  | ratFrequencyPriorityInformation =>
      ⟨108, Criticality.reject, false, "rat_frequency_priority_information",
        Codec.ratFrequencyPriorityInformation R⟩
  | rrcDeliveryStatusRequest =>
      ⟨184, Criticality.ignore, false, "rrc_delivery_status_request",
        Codec.rrcDeliveryStatusRequest R⟩
  | ueContextNotRetrievable =>
      ⟨222, Criticality.reject, false, "ue_context_not_retrievable",
        Codec.ueContextNotRetrievable R⟩
  -- An octet string without a type of its own, so without a context.
  | redirectedRrcMessage =>
      ⟨218, Criticality.reject, false, "redirected_rrc_message", octetString R⟩
  | plmnAssistanceInfoForNetShar =>
      ⟨221, Criticality.ignore, false, "plmn_assistance_info_for_net_shar",
        Codec.plmnIdentity R⟩
  | newGnbCuUeF1apId =>
      ⟨217, Criticality.reject, false, "new_gnb_cu_ue_f1ap_id",
        Codec.gnbCuUeF1apId R⟩
  | additionalRrmPriorityIndex =>
      ⟨248, Criticality.ignore, false, "additional_rrm_priority_index",
        Codec.additionalRrmPriorityIndex R⟩

/-- `DlRrcMessageTransfer` -/
def dl : Container R DlIe where
  order := [.gnbCuUeF1apId, .gnbDuUeF1apId, .oldGnbDuUeF1apId, .srbId,
    .executeDuplication, .rrcContainer, .ratFrequencyPriorityInformation,
    .rrcDeliveryStatusRequest, .ueContextNotRetrievable, .redirectedRrcMessage,
    .plmnAssistanceInfoForNetShar, .newGnbCuUeF1apId,
    .additionalRrmPriorityIndex]
  type := DlIe.type
  row := DlIe.row R
  covers f := by cases f <;> decide
  ids_nodup := of_decide_eq_true rfl
  few := by decide

inductive UlIe where
  | gnbCuUeF1apId
  | gnbDuUeF1apId
  | srbId
  | rrcContainer
  | selectedPlmnId
  | newGnbDuUeF1apId
deriving DecidableEq, Repr

def UlIe.type : UlIe -> Type
  | gnbCuUeF1apId => GnbCuUeF1apId
  | gnbDuUeF1apId => GnbDuUeF1apId
  | srbId => SrbId
  | rrcContainer => Bytes
  | selectedPlmnId => Vector UInt8 3
  | newGnbDuUeF1apId => GnbDuUeF1apId

def UlIe.row : (f : UlIe) -> Element R f.type
  | gnbCuUeF1apId =>
      ⟨40, Criticality.reject, true, "gnb_cu_ue_f1ap_id", Codec.gnbCuUeF1apId R⟩
  | gnbDuUeF1apId =>
      ⟨41, Criticality.reject, true, "gnb_du_ue_f1ap_id", Codec.gnbDuUeF1apId R⟩
  | srbId => ⟨64, Criticality.reject, true, "srb_id", Codec.srbId R⟩
  | rrcContainer =>
      ⟨50, Criticality.reject, true, "rrc_container", Codec.rrcContainer R⟩
  | selectedPlmnId =>
      ⟨224, Criticality.reject, false, "selected_plmn_id", Codec.plmnIdentity R⟩
  | newGnbDuUeF1apId =>
      ⟨219, Criticality.reject, false, "new_gnb_du_ue_f1ap_id",
        Codec.gnbDuUeF1apId R⟩

/-- `UlRrcMessageTransfer` -/
def ul : Container R UlIe where
  order := [.gnbCuUeF1apId, .gnbDuUeF1apId, .srbId, .rrcContainer,
    .selectedPlmnId, .newGnbDuUeF1apId]
  type := UlIe.type
  row := UlIe.row R
  covers f := by cases f <;> decide
  ids_nodup := of_decide_eq_true rfl
  few := by decide

/-!
## UE context release
-/

inductive ReleaseRequestIe where
  | gnbCuUeF1apId
  | gnbDuUeF1apId
  | cause
  | targetCellsToCancel
deriving DecidableEq, Repr

def ReleaseRequestIe.type : ReleaseRequestIe -> Type
  | gnbCuUeF1apId => GnbCuUeF1apId
  | gnbDuUeF1apId => GnbDuUeF1apId
  | cause => FullCause
  | targetCellsToCancel => NonEmpty NrCgi

def ReleaseRequestIe.row : (f : ReleaseRequestIe) -> Element R f.type
  | gnbCuUeF1apId =>
      ⟨40, Criticality.reject, true, "gnb_cu_ue_f1ap_id", Codec.gnbCuUeF1apId R⟩
  | gnbDuUeF1apId =>
      ⟨41, Criticality.reject, true, "gnb_du_ue_f1ap_id", Codec.gnbDuUeF1apId R⟩
  | cause => ⟨0, Criticality.ignore, true, "cause", Codec.cause R⟩
  | targetCellsToCancel =>
      ⟨375, Criticality.reject, false, "target_cells_to_cancel",
        Codec.targetCellList R⟩

/-- `UeContextReleaseRequest` -/
def releaseRequest : Container R ReleaseRequestIe where
  order := [.gnbCuUeF1apId, .gnbDuUeF1apId, .cause, .targetCellsToCancel]
  type := ReleaseRequestIe.type
  row := ReleaseRequestIe.row R
  covers f := by cases f <;> decide
  ids_nodup := of_decide_eq_true rfl
  few := by decide

inductive ReleaseCommandIe where
  | gnbCuUeF1apId
  | gnbDuUeF1apId
  | cause
  | rrcContainer
  | srbId
  | oldGnbDuUeF1apId
  | executeDuplication
  | rrcDeliveryStatusRequest
  | targetCellsToCancel
deriving DecidableEq, Repr

def ReleaseCommandIe.type : ReleaseCommandIe -> Type
  | gnbCuUeF1apId => GnbCuUeF1apId
  | gnbDuUeF1apId => GnbDuUeF1apId
  | cause => FullCause
  | rrcContainer => Bytes
  | srbId => SrbId
  | oldGnbDuUeF1apId => GnbDuUeF1apId
  | executeDuplication => OnlyTrue
  | rrcDeliveryStatusRequest => OnlyTrue
  | targetCellsToCancel => NonEmpty NrCgi

def ReleaseCommandIe.row : (f : ReleaseCommandIe) -> Element R f.type
  | gnbCuUeF1apId =>
      ⟨40, Criticality.reject, true, "gnb_cu_ue_f1ap_id", Codec.gnbCuUeF1apId R⟩
  | gnbDuUeF1apId =>
      ⟨41, Criticality.reject, true, "gnb_du_ue_f1ap_id", Codec.gnbDuUeF1apId R⟩
  | cause => ⟨0, Criticality.ignore, true, "cause", Codec.cause R⟩
  | rrcContainer =>
      ⟨50, Criticality.ignore, false, "rrc_container", Codec.rrcContainer R⟩
  | srbId => ⟨64, Criticality.ignore, false, "srb_id", Codec.srbId R⟩
  | oldGnbDuUeF1apId =>
      ⟨47, Criticality.ignore, false, "old_gnb_du_ue_f1ap_id",
        Codec.gnbDuUeF1apId R⟩
  | executeDuplication =>
      ⟨109, Criticality.ignore, false, "execute_duplication",
        Codec.executeDuplication R⟩
  | rrcDeliveryStatusRequest =>
      ⟨184, Criticality.ignore, false, "rrc_delivery_status_request",
        Codec.rrcDeliveryStatusRequest R⟩
  | targetCellsToCancel =>
      ⟨375, Criticality.reject, false, "target_cells_to_cancel",
        Codec.targetCellList R⟩

/-- `UeContextReleaseCommand` -/
def releaseCommand : Container R ReleaseCommandIe where
  order := [.gnbCuUeF1apId, .gnbDuUeF1apId, .cause, .rrcContainer, .srbId,
    .oldGnbDuUeF1apId, .executeDuplication, .rrcDeliveryStatusRequest,
    .targetCellsToCancel]
  type := ReleaseCommandIe.type
  row := ReleaseCommandIe.row R
  covers f := by cases f <;> decide
  ids_nodup := of_decide_eq_true rfl
  few := by decide

inductive ReleaseCompleteIe where
  | gnbCuUeF1apId
  | gnbDuUeF1apId
  | criticalityDiagnostics
deriving DecidableEq, Repr

def ReleaseCompleteIe.type : ReleaseCompleteIe -> Type
  | gnbCuUeF1apId => GnbCuUeF1apId
  | gnbDuUeF1apId => GnbDuUeF1apId
  | criticalityDiagnostics => CriticalityDiagnostics

def ReleaseCompleteIe.row : (f : ReleaseCompleteIe) -> Element R f.type
  | gnbCuUeF1apId =>
      ⟨40, Criticality.reject, true, "gnb_cu_ue_f1ap_id", Codec.gnbCuUeF1apId R⟩
  | gnbDuUeF1apId =>
      ⟨41, Criticality.reject, true, "gnb_du_ue_f1ap_id", Codec.gnbDuUeF1apId R⟩
  | criticalityDiagnostics =>
      ⟨7, Criticality.ignore, false, "criticality_diagnostics",
        Codec.criticalityDiagnostics R⟩

/-- `UeContextReleaseComplete` -/
def releaseComplete : Container R ReleaseCompleteIe where
  order := [.gnbCuUeF1apId, .gnbDuUeF1apId, .criticalityDiagnostics]
  type := ReleaseCompleteIe.type
  row := ReleaseCompleteIe.row R
  covers f := by cases f <;> decide
  ids_nodup := of_decide_eq_true rfl
  few := by decide

/-!
## F1 removal
-/

inductive RemovalRequestIe where
  | transactionId
deriving DecidableEq, Repr

def RemovalRequestIe.type : RemovalRequestIe -> Type
  | transactionId => UInt8

def RemovalRequestIe.row : (f : RemovalRequestIe) -> Element R f.type
  | transactionId =>
      ⟨78, Criticality.reject, true, "transaction_id", Codec.transactionId R⟩

/-- `F1RemovalRequest` -/
def removalRequest : Container R RemovalRequestIe where
  order := [.transactionId]
  type := RemovalRequestIe.type
  row := RemovalRequestIe.row R
  covers f := by cases f; decide
  ids_nodup := of_decide_eq_true rfl
  few := by decide

inductive RemovalResponseIe where
  | transactionId
  | criticalityDiagnostics
deriving DecidableEq, Repr

def RemovalResponseIe.type : RemovalResponseIe -> Type
  | transactionId => UInt8
  | criticalityDiagnostics => CriticalityDiagnostics

def RemovalResponseIe.row : (f : RemovalResponseIe) -> Element R f.type
  | transactionId =>
      ⟨78, Criticality.reject, true, "transaction_id", Codec.transactionId R⟩
  | criticalityDiagnostics =>
      ⟨7, Criticality.ignore, false, "criticality_diagnostics",
        Codec.criticalityDiagnostics R⟩

/-- `F1RemovalResponse` -/
def removalResponse : Container R RemovalResponseIe where
  order := [.transactionId, .criticalityDiagnostics]
  type := RemovalResponseIe.type
  row := RemovalResponseIe.row R
  covers f := by cases f <;> decide
  ids_nodup := of_decide_eq_true rfl
  few := by decide

inductive RemovalFailureIe where
  | transactionId
  | cause
  | criticalityDiagnostics
deriving DecidableEq, Repr

def RemovalFailureIe.type : RemovalFailureIe -> Type
  | transactionId => UInt8
  | cause => FullCause
  | criticalityDiagnostics => CriticalityDiagnostics

def RemovalFailureIe.row : (f : RemovalFailureIe) -> Element R f.type
  | transactionId =>
      ⟨78, Criticality.reject, true, "transaction_id", Codec.transactionId R⟩
  | cause => ⟨0, Criticality.ignore, true, "cause", Codec.cause R⟩
  | criticalityDiagnostics =>
      ⟨7, Criticality.ignore, false, "criticality_diagnostics",
        Codec.criticalityDiagnostics R⟩

/-- `F1RemovalFailure` -/
def removalFailure : Container R RemovalFailureIe where
  order := [.transactionId, .cause, .criticalityDiagnostics]
  type := RemovalFailureIe.type
  row := RemovalFailureIe.row R
  covers f := by cases f <;> decide
  ids_nodup := of_decide_eq_true rfl
  few := by decide

end Codec
end F1ap
end QCore
