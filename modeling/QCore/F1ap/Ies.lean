import QCore.F1ap.Messages
import QCore.Foundation.Per.Containers

/-!
# The information elements of F1AP

The types of `ies.rs` and `common.rs` that the messages between a DU and a UE
task are made of, each with the codec that is generated for it.  A newtype is
the type that it wraps.

The generated decoders of enumerations, choices and sequences have one form
each, and the forms are in the library.  A definition here has what a type adds:
its bounds, its variants, and the name that it pushes on the context of an error.
-/

namespace QCore
namespace F1ap
namespace Codec

open Foundation
open Foundation.Per

variable (R : Runtime)

/-!
## Integers
-/

def transactionId : PerCodec R UInt8 :=
  (integer R u8 0 255 true).inContext "TransactionId"

def gnbCuUeF1apId : PerCodec R GnbCuUeF1apId :=
  (integer R u32 0 4294967295 false).inContext "GnbCuUeF1apId"

def gnbDuUeF1apId : PerCodec R GnbDuUeF1apId :=
  (integer R u32 0 4294967295 false).inContext "GnbDuUeF1apId"

def srbId : PerCodec R SrbId :=
  (integer R u8 0 3 true).inContext "SrbId"

def cRnti : PerCodec R UInt16 :=
  (integer R u16 0 65535 true).inContext "CRnti"

def procedureCode : PerCodec R UInt8 :=
  (integer R u8 0 255 false).inContext "ProcedureCode"

def protocolIeId : PerCodec R UInt16 :=
  (integer R u16 0 65535 false).inContext "ProtocolIeId"

def subscriberProfileIDforRfp : PerCodec R UInt16 :=
  (integer R u16 1 256 true).inContext "SubscriberProfileIDforRfp"

def ratFrequencySelectionPriority : PerCodec R UInt16 :=
  (integer R u16 1 256 true).inContext "RatFrequencySelectionPriority"

/-!
## Strings
-/

def rrcContainer : PerCodec R Bytes :=
  (octetString R).inContext "RrcContainer"

def duToCuRrcContainer : PerCodec R Bytes :=
  (octetString R).inContext "DuToCuRrcContainer"

def rrcContainerRrcSetupComplete : PerCodec R Bytes :=
  (octetString R).inContext "RrcContainerRrcSetupComplete"

def plmnIdentity : PerCodec R (Vector UInt8 3) :=
  (byteArrayOf R 3).inContext "PlmnIdentity"

def ranUeId : PerCodec R (Vector UInt8 8) :=
  (byteArrayOf R 8).inContext "RanUeId"

def nrCellIdentity : PerCodec R Bits :=
  (bitStringOf R 36).inContext "NrCellIdentity"

def additionalRrmPriorityIndex : PerCodec R Bits :=
  (bitStringOf R 32).inContext "AdditionalRrmPriorityIndex"

/-!
## Enumerations
-/

/-- The variant of an enumeration that has no other one. -/
inductive OnlyTrue where
  | true
deriving DecidableEq, Repr

def onlyTrue (name : String) : PerCodec R OnlyTrue :=
  (enumerated R [OnlyTrue.true] (fun v => by cases v; decide) true).inContext name

def sulAccessIndication : PerCodec R OnlyTrue :=
  onlyTrue R "SulAccessIndication"

def executeDuplication : PerCodec R OnlyTrue :=
  onlyTrue R "ExecuteDuplication"

def rrcDeliveryStatusRequest : PerCodec R OnlyTrue :=
  onlyTrue R "RrcDeliveryStatusRequest"

def ueContextNotRetrievable : PerCodec R OnlyTrue :=
  onlyTrue R "UeContextNotRetrievable"

inductive TriggeringMessage where
  | initiatingMessage
  | successfulOutcome
  | unsuccessfulOutcome
deriving DecidableEq, Repr

def triggeringMessage : PerCodec R TriggeringMessage :=
  (enumerated R
    [TriggeringMessage.initiatingMessage, TriggeringMessage.successfulOutcome,
      TriggeringMessage.unsuccessfulOutcome]
    (fun v => by cases v <;> decide) false).inContext "TriggeringMessage"

inductive TypeOfError where
  | notUnderstood
  | missing
deriving DecidableEq, Repr

def typeOfError : PerCodec R TypeOfError :=
  (enumerated R [TypeOfError.notUnderstood, TypeOfError.missing]
    (fun v => by cases v <;> decide) true).inContext "TypeOfError"

inductive CauseRadioNetwork where
  | unspecified
  | rlFailureRlc
  | unknownOrAlreadyAllocatedGnbCuUeF1apId
  | unknownOrAlreadyAllocatedGnbDuUeF1apId
  | unknownOrInconsistentPairOfUeF1apId
  | interactionWithOtherProcedure
  | notSupportedQciValue
  | actionDesirableForRadioReasons
  | noRadioResourcesAvailable
  | procedureCancelled
  | normalRelease
deriving DecidableEq, Repr

def causeRadioNetwork : PerCodec R CauseRadioNetwork :=
  (enumerated R
    [CauseRadioNetwork.unspecified, CauseRadioNetwork.rlFailureRlc,
      CauseRadioNetwork.unknownOrAlreadyAllocatedGnbCuUeF1apId,
      CauseRadioNetwork.unknownOrAlreadyAllocatedGnbDuUeF1apId,
      CauseRadioNetwork.unknownOrInconsistentPairOfUeF1apId,
      CauseRadioNetwork.interactionWithOtherProcedure,
      CauseRadioNetwork.notSupportedQciValue,
      CauseRadioNetwork.actionDesirableForRadioReasons,
      CauseRadioNetwork.noRadioResourcesAvailable,
      CauseRadioNetwork.procedureCancelled, CauseRadioNetwork.normalRelease]
    (fun v => by cases v <;> decide) true).inContext "CauseRadioNetwork"

inductive CauseTransport where
  | unspecified
  | transportResourceUnavailable
deriving DecidableEq, Repr

def causeTransport : PerCodec R CauseTransport :=
  (enumerated R
    [CauseTransport.unspecified, CauseTransport.transportResourceUnavailable]
    (fun v => by cases v <;> decide) true).inContext "CauseTransport"

inductive CauseProtocol where
  | transferSyntaxError
  | abstractSyntaxErrorReject
  | abstractSyntaxErrorIgnoreAndNotify
  | messageNotCompatibleWithReceiverState
  | semanticError
  | abstractSyntaxErrorFalselyConstructedMessage
  | unspecified
deriving DecidableEq, Repr

def causeProtocol : PerCodec R CauseProtocol :=
  (enumerated R
    [CauseProtocol.transferSyntaxError, CauseProtocol.abstractSyntaxErrorReject,
      CauseProtocol.abstractSyntaxErrorIgnoreAndNotify,
      CauseProtocol.messageNotCompatibleWithReceiverState,
      CauseProtocol.semanticError,
      CauseProtocol.abstractSyntaxErrorFalselyConstructedMessage,
      CauseProtocol.unspecified]
    (fun v => by cases v <;> decide) true).inContext "CauseProtocol"

inductive CauseMisc where
  | controlProcessingOverload
  | notEnoughUserPlaneProcessingResources
  | hardwareFailure
  | omIntervention
  | unspecified
deriving DecidableEq, Repr

def causeMisc : PerCodec R CauseMisc :=
  (enumerated R
    [CauseMisc.controlProcessingOverload,
      CauseMisc.notEnoughUserPlaneProcessingResources,
      CauseMisc.hardwareFailure, CauseMisc.omIntervention,
      CauseMisc.unspecified]
    (fun v => by cases v <;> decide) true).inContext "CauseMisc"

/-!
## Choices
-/

/-- `Cause`, with all its alternatives. -/
inductive FullCause where
  | radioNetwork (c : CauseRadioNetwork)
  | transport (c : CauseTransport)
  | protocol (c : CauseProtocol)
  | misc (c : CauseMisc)
deriving DecidableEq, Repr

namespace FullCause

def idx : FullCause -> Nat
  | radioNetwork _ => 0
  | transport _ => 1
  | protocol _ => 2
  | misc _ => 3

def radioNetwork? : FullCause -> Option CauseRadioNetwork
  | radioNetwork c => some c
  | _ => none

def transport? : FullCause -> Option CauseTransport
  | transport c => some c
  | _ => none

def protocol? : FullCause -> Option CauseProtocol
  | protocol c => some c
  | _ => none

def misc? : FullCause -> Option CauseMisc
  | misc c => some c
  | _ => none

end FullCause

def cause : PerCodec R FullCause :=
  (choice R 4 FullCause.idx fun
    | 0 => (causeRadioNetwork R).alternative FullCause.radioNetwork
        FullCause.radioNetwork? fun _ b h => by cases b <;> cases h; rfl
    | 1 => (causeTransport R).alternative FullCause.transport
        FullCause.transport? fun _ b h => by cases b <;> cases h; rfl
    | 2 => (causeProtocol R).alternative FullCause.protocol
        FullCause.protocol? fun _ b h => by cases b <;> cases h; rfl
    | 3 => (causeMisc R).alternative FullCause.misc
        FullCause.misc? fun _ b h => by cases b <;> cases h; rfl
    | 4 => refusedExtension R
    | _ => unknownChoice R).inContext "Cause"

inductive RatFrequencyPriorityInformation where
  | endc (id : UInt16)
  | ngran (priority : UInt16)
deriving DecidableEq, Repr

namespace RatFrequencyPriorityInformation

def idx : RatFrequencyPriorityInformation -> Nat
  | endc _ => 0
  | ngran _ => 1

def endc? : RatFrequencyPriorityInformation -> Option UInt16
  | endc id => some id
  | ngran _ => none

def ngran? : RatFrequencyPriorityInformation -> Option UInt16
  | endc _ => none
  | ngran priority => some priority

end RatFrequencyPriorityInformation

def ratFrequencyPriorityInformation :
    PerCodec R RatFrequencyPriorityInformation :=
  (choice R 2 RatFrequencyPriorityInformation.idx fun
    | 0 => (subscriberProfileIDforRfp R).alternative
        RatFrequencyPriorityInformation.endc
        RatFrequencyPriorityInformation.endc? fun _ b h => by
          cases b <;> cases h; rfl
    | 1 => (ratFrequencySelectionPriority R).alternative
        RatFrequencyPriorityInformation.ngran
        RatFrequencyPriorityInformation.ngran? fun _ b h => by
          cases b <;> cases h; rfl
    | 2 => refusedExtension R
    | _ => unknownChoice R).inContext "RatFrequencyPriorityInformation"

/-!
## Sequences
-/

structure NrCgi where
  plmnIdentity : Vector UInt8 3
  nrCellIdentity : Bits
deriving DecidableEq, Repr

def nrCgi : PerCodec R NrCgi :=
  (extensibleSequence true
    (((plmnIdentity R).pair (nrCellIdentity R)).iso
      (fun c => (c.plmnIdentity, c.nrCellIdentity))
      (fun p => ⟨p.1, p.2⟩) fun _ => rfl)).inContext "NrCgi"

/-- `TargetCellListItem`, a cell. -/
def targetCellListItem : PerCodec R NrCgi :=
  (extensibleSequence false (nrCgi R)).inContext "TargetCellListItem"

def targetCellList : PerCodec R (NonEmpty NrCgi) :=
  (nonEmptyOf R 8 (by decide) (targetCellListItem R)).inContext "TargetCellList"

structure CriticalityDiagnosticsIeItem where
  ieCriticality : Criticality
  ieId : UInt16
  typeOfError : TypeOfError
deriving DecidableEq, Repr

def criticalityDiagnosticsIeItem : PerCodec R CriticalityDiagnosticsIeItem :=
  (extensibleSequence true
    (((Criticality.codec R).pair ((protocolIeId R).pair (typeOfError R))).iso
      (fun i => (i.ieCriticality, i.ieId, i.typeOfError))
      (fun p => ⟨p.1, p.2.1, p.2.2⟩) fun _ => rfl)).inContext
    "CriticalityDiagnosticsIeItem"

def criticalityDiagnosticsIeList :
    PerCodec R (NonEmpty CriticalityDiagnosticsIeItem) :=
  (nonEmptyOf R 256 (by decide) (criticalityDiagnosticsIeItem R)).inContext
    "CriticalityDiagnosticsIeList"

structure CriticalityDiagnostics where
  procedureCode : Option UInt8
  triggeringMessage : Option TriggeringMessage
  procedureCriticality : Option Criticality
  transactionId : Option UInt8
  iEsCriticalityDiagnostics : Option (NonEmpty CriticalityDiagnosticsIeItem)
deriving DecidableEq, Repr

namespace CriticalityDiagnostics

/-- The six flags of the header. -/
structure Optionals where
  procedureCode : Bool
  triggeringMessage : Bool
  procedureCriticality : Bool
  transactionId : Bool
  iEsCriticalityDiagnostics : Bool
  extensions : Bool

def Optionals.ofList : List Bool -> Option Optionals
  | [p, t, c, x, i, e] => some ⟨p, t, c, x, i, e⟩
  | _ => none

def Optionals.toList (o : Optionals) : List Bool :=
  [o.procedureCode, o.triggeringMessage, o.procedureCriticality,
    o.transactionId, o.iEsCriticalityDiagnostics, o.extensions]

theorem Optionals.ofList_isSome {flags : List Bool} (h : flags.length = 6) :
    (ofList flags).isSome = true := by
  match flags, h with
  | [_, _, _, _, _, _], _ => rfl

def optionals (d : CriticalityDiagnostics) : Optionals where
  procedureCode := d.procedureCode.isSome
  triggeringMessage := d.triggeringMessage.isSome
  procedureCriticality := d.procedureCriticality.isSome
  transactionId := d.transactionId.isSome
  iEsCriticalityDiagnostics := d.iEsCriticalityDiagnostics.isSome
  extensions := false

/-- The parts that the header announces. -/
def parts (o : Optionals) : PerCodec R CriticalityDiagnostics :=
  ((optionally (Codec.procedureCode R) o.procedureCode).pair
    ((optionally (Codec.triggeringMessage R) o.triggeringMessage).pair
      ((optionally (Criticality.codec R) o.procedureCriticality).pair
        ((optionally (Codec.transactionId R) o.transactionId).pair
          (optionally (criticalityDiagnosticsIeList R)
            o.iEsCriticalityDiagnostics))))).iso
    (fun d => (d.procedureCode, d.triggeringMessage, d.procedureCriticality,
      d.transactionId, d.iEsCriticalityDiagnostics))
    (fun p => ⟨p.1, p.2.1, p.2.2.1, p.2.2.2.1, p.2.2.2.2⟩) fun _ => rfl

def header : PerCodec R Optionals :=
  (sequenceHeader R true 6).unwrapped Optionals.toList Optionals.ofList
    (fun _ => rfl)
    fun hR s flags t hrun =>
      Optionals.ofList_isSome (yields_sequenceHeader hR true 6 s flags t hrun)

end CriticalityDiagnostics

def criticalityDiagnostics : PerCodec R CriticalityDiagnostics :=
  ((CriticalityDiagnostics.header R).sequel CriticalityDiagnostics.optionals
    fun o => beforeExtensions (CriticalityDiagnostics.parts R o)
      o.extensions).inContext
    "CriticalityDiagnostics"

end Codec
end F1ap
end QCore
