import QCore.Foundation.Bytes
import QCore.Userplane.Types

/-!
# F1AP messages

The messages that a UE task receives and sends over F1AP, with the fields its
code reads.
-/

namespace QCore
namespace F1ap

open Foundation
open Userplane

abbrev GnbCuUeF1apId : Type := UInt32
abbrev GnbDuUeF1apId : Type := UInt32

/-- Causes are passed through; the code itself uses one of them. -/
inductive Cause where
  | normalRelease
  | other (code : Nat)
deriving DecidableEq, Repr

/-!
## Messages from the DU to a UE task
-/

structure InitialUlRrcMessageTransfer where
  gnbDuUeF1apId : GnbDuUeF1apId
  nrCgi : Bytes
  rrcContainer : Bytes
  duToCuRrcContainer : Option Bytes
deriving DecidableEq, Repr

structure UlRrcMessageTransfer where
  gnbCuUeF1apId : GnbCuUeF1apId
  rrcContainer : Bytes
deriving DecidableEq, Repr

structure UeContextReleaseRequest where
  gnbCuUeF1apId : GnbCuUeF1apId
  cause : Cause
deriving DecidableEq, Repr

/-- The PDUs that are dispatched to UE tasks, and any other one. -/
inductive F1apPdu where
  | initialUlRrcMessageTransfer (r : InitialUlRrcMessageTransfer)
  | ulRrcMessageTransfer (r : UlRrcMessageTransfer)
  | ueContextReleaseRequest (r : UeContextReleaseRequest)
  | other (bytes : Bytes)
deriving DecidableEq, Repr

/-- The UE that `F1apHandler` dispatches the PDU to. -/
def F1apPdu.ueId : F1apPdu -> Option GnbCuUeF1apId
  | F1apPdu.ulRrcMessageTransfer r => some r.gnbCuUeF1apId
  | F1apPdu.ueContextReleaseRequest r => some r.gnbCuUeF1apId
  | _ => none

/-!
## Messages from a UE task to the DU
-/

abbrev SrbId : Type := UInt8
abbrev DrbId : Type := UInt8

structure DlRrcMessageTransfer where
  gnbCuUeF1apId : GnbCuUeF1apId
  gnbDuUeF1apId : GnbDuUeF1apId
  srbId : SrbId
  rrcContainer : Bytes
deriving DecidableEq, Repr

structure Snssai where
  sst : UInt8
  sd : Option (Vector UInt8 3)
deriving DecidableEq, Repr

inductive PdcpSnLength where
  | twelveBits
  | eighteenBits
deriving DecidableEq, Repr

def PdcpSnLength.bits : PdcpSnLength -> Nat
  | twelveBits => 12
  | eighteenBits => 18

structure DrbsToBeSetupItem where
  drbId : DrbId
  snssai : Snssai
  ulUpTnlInformation : GtpTunnel
  pduSessionId : UInt8
  qosFlowIdentifier : UInt8
  dlPdcpSnLength : Option PdcpSnLength
  ulPdcpSnLength : Option PdcpSnLength
deriving DecidableEq, Repr

structure UeContextSetupRequest where
  gnbCuUeF1apId : GnbCuUeF1apId
  gnbDuUeF1apId : Option GnbDuUeF1apId
  spCellId : Bytes
  drbsToBeSetupList : Option (NonEmpty DrbsToBeSetupItem)
deriving DecidableEq, Repr

structure UeContextReleaseCommand where
  gnbCuUeF1apId : GnbCuUeF1apId
  gnbDuUeF1apId : GnbDuUeF1apId
  cause : Cause
deriving DecidableEq, Repr

/-!
## Answers to requests
-/

/-- The failure message of a procedure is not read by the callers here. -/
inductive RequestError where
  | unsuccessfulOutcome
  | other
deriving DecidableEq, Repr

/-- An item of `drbs_setup_list`; the only kind of tunnel information is a GTP
tunnel. -/
structure DrbsSetupItem where
  dlUpTnlInformationToBeSetupList : NonEmpty GtpTunnel
deriving DecidableEq, Repr

structure UeContextSetupResponse where
  gnbCuUeF1apId : GnbCuUeF1apId
  cellGroupConfig : Bytes
  drbsSetupList : Option (NonEmpty DrbsSetupItem)
deriving DecidableEq, Repr

/-- `check_ue_context_setup_response`; `none` is the error for a response
without a DRB list.  The UE id of the response is not read. -/
def checkUeContextSetupResponse (response : UeContextSetupResponse) :
    Option (Bytes × GtpTunnel) :=
  response.drbsSetupList.map fun drbs =>
    (response.cellGroupConfig,
      drbs.head.dlUpTnlInformationToBeSetupList.head)

end F1ap
end QCore
