import QCore.Foundation.Bytes

/-!
# RRC messages

The RRC messages that a UE task sends, with the values its builders put into
them, and the ones it takes apart.  The generated codec is a parameter.
-/

namespace QCore
namespace Rrc

open Foundation

/-!
## The radio bearers of a reconfiguration
-/

inductive PdcpSnSize where
  | len12bits
  | len18bits
deriving DecidableEq, Repr

def PdcpSnSize.bits : PdcpSnSize -> Nat
  | len12bits => 12
  | len18bits => 18

inductive SdapHeader where
  | present
  | absent
deriving DecidableEq, Repr

structure SdapConfig where
  pduSession : UInt8
  sdapHeaderDl : SdapHeader
  sdapHeaderUl : SdapHeader
  defaultDrb : Bool
  mappedQosFlowsToAdd : Option (NonEmpty UInt8)
deriving DecidableEq, Repr

/-- `Drb` of a `PdcpConfig`. -/
structure PdcpConfig where
  discardTimerMs : Option Nat
  pdcpSnSizeUl : Option PdcpSnSize
  pdcpSnSizeDl : Option PdcpSnSize
deriving DecidableEq, Repr

structure DrbToAddMod where
  cnAssociation : Option SdapConfig
  drbIdentity : UInt8
  pdcpConfig : Option PdcpConfig
deriving DecidableEq, Repr

structure RrcReconfiguration where
  rrcTransactionIdentifier : UInt8
  drbToAddModList : Option (NonEmpty DrbToAddMod)
  masterCellGroup : Bytes
  dedicatedNasMessageList : Option (NonEmpty Bytes)
deriving DecidableEq, Repr

def reconfiguration (rrcTransactionIdentifier : UInt8)
    (nasMessages : Option (NonEmpty Bytes)) (cellGroupConfig : Bytes)
    (sessionId : UInt8) : RrcReconfiguration where
  rrcTransactionIdentifier := rrcTransactionIdentifier
  drbToAddModList := some
    { head :=
        { cnAssociation := some
            { pduSession := sessionId
              sdapHeaderDl := SdapHeader.absent
              sdapHeaderUl := SdapHeader.present
              defaultDrb := true
              mappedQosFlowsToAdd := some ⟨1, []⟩ }
          drbIdentity := 1
          pdcpConfig := some
            { discardTimerMs := some 10
              pdcpSnSizeUl := some PdcpSnSize.len12bits
              pdcpSnSizeDl := some PdcpSnSize.len12bits } }
      tail := [] }
  masterCellGroup := cellGroupConfig
  dedicatedNasMessageList := nasMessages

/-!
## Messages to the UE
-/

/-- The first one goes out on the common channel and the others on SRB1. -/
inductive DlRrcMessage where
  | rrcSetup (rrcTransactionIdentifier : UInt8) (masterCellGroup : Bytes)
  | securityModeCommand (rrcTransactionIdentifier : UInt8)
  | dlInformationTransfer (rrcTransactionIdentifier : UInt8)
      (dedicatedNasMessage : Bytes)
  | rrcReconfiguration (r : RrcReconfiguration)
deriving DecidableEq, Repr

def DlRrcMessage.nasMessages : DlRrcMessage -> List Bytes
  | rrcSetup _ _ => []
  | securityModeCommand _ => []
  | dlInformationTransfer _ nas => [nas]
  | rrcReconfiguration r =>
      match r.dedicatedNasMessageList with
      | none => []
      | some list => list.toList

/-!
## Messages from the UE
-/

inductive UlCcchMessage where
  | rrcSetupRequest
  | other (bytes : Bytes)
deriving DecidableEq, Repr

/-- Uplink messages on SRB1.  A message whose critical extensions are not the
expected ones counts as `other`, and an information transfer without a NAS
message has none in its field. -/
inductive UlDcchMessage where
  | rrcSetupComplete (dedicatedNasMessage : Bytes)
  | rrcReconfigurationComplete
  | securityModeComplete
  | securityModeFailure
  | ulInformationTransfer (dedicatedNasMessage : Option Bytes)
  | other (bytes : Bytes)
deriving DecidableEq, Repr

/-- The codec of the RRC crate; `none` is its error. -/
structure RrcCodec where
  encode : DlRrcMessage -> Option Bytes
  decodeUlCcch : Bytes -> Option UlCcchMessage
  decodeUlDcch : Bytes -> Option UlDcchMessage

end Rrc
end QCore
