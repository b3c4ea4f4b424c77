import QCore.Rrc.Messages
import QCore.Ue.Context

/-!
# A UE task and its requests

One task serves one UE.  It reads PDUs from its channel and calls the services
of `HandlerApi`.  The task state keeps the PDUs still to be received, where the
end of the list is a channel that every sender has dropped, and a log of what
the task received and called.  What the services answer is a function of that
log, so it may depend on everything that went before.
-/

namespace QCore
namespace Ue

open Foundation
open F1ap
open Nas
open Rrc
open Security
open Userplane

/-- The log.  A transfer is kept with the RRC message in its container, and a
NAS message with its encoding; these two are not seen by the services. -/
inductive UeEvent where
  | received (pdu : F1apPdu)
  | encodedNas (nas : Nas5gsMessage) (bytes : Bytes)
  | dlRrcMessageTransfer (transfer : DlRrcMessageTransfer) (rrc : DlRrcMessage)
  | ueContextSetup (request : UeContextSetupRequest)
      (answer : Except RequestError UeContextSetupResponse)
  | ueContextRelease (command : UeContextReleaseCommand)
      (answer : Except RequestError Unit)
  | reserve (answer : Except UserplaneError UserplaneSession)
  | commit (session : UserplaneSession) (tunnel : GtpTunnel)
      (answer : Except UserplaneError Unit)
  | delete (session : UserplaneSession)
  | deleteUeChannel (ueId : GnbCuUeF1apId)
deriving DecidableEq

def UeEvent.transfer : UeEvent -> Option DlRrcMessageTransfer
  | UeEvent.dlRrcMessageTransfer transfer _ => some transfer
  | _ => none

/-- The services that the procedures of a UE use, the codecs and algorithms of
other crates, and the random numbers that are drawn. -/
structure HandlerApi where
  config : Config
  lookupSim : Bytes -> Option SimCreds
  ueContextSetup : List UeEvent -> UeContextSetupRequest ->
    Except RequestError UeContextSetupResponse
  ueContextRelease : List UeEvent -> UeContextReleaseCommand ->
    Except RequestError Unit
  reserveUserplaneSession : List UeEvent ->
    Except UserplaneError UserplaneSession
  commitUserplaneSession : List UeEvent -> UserplaneSession -> GtpTunnel ->
    Except UserplaneError Unit
  crypto : Crypto
  nasCodec : NasCodec
  rrcCodec : RrcCodec
  overflowChecks : Bool
  tmsi : Vector UInt8 4
  rand : List UeEvent -> Vector UInt8 16

structure Task where
  ue : UeContext
  inbox : List F1apPdu
  log : List UeEvent

abbrev UeM (α : Type) : Type := Cmd Task UeError α

namespace Task

def record (event : UeEvent) (s : Task) : Task :=
  { s with log := s.log ++ [event] }

def setNas (nas : NasContext) (s : Task) : Task :=
  { s with ue := { s.ue with nas := nas } }

def setPdcpTx (pdcpTx : PdcpTx) (s : Task) : Task :=
  { s with ue := { s.ue with pdcpTx := pdcpTx } }

end Task

variable (api : HandlerApi)

/-!
## What a PDU carries
-/

def extractUlDcchMessage (r : UlRrcMessageTransfer) :
    Outcome UeError UlDcchMessage := do
  let rrcMessageBytes <-
    (PdcpTx.viewInner r.rrcContainer).mapErr UeError.security
  Outcome.ofOption UeError.rrcDecode
    (api.rrcCodec.decodeUlDcch rrcMessageBytes)

/-- `NasContext::decode`; it reads nothing of the context. -/
def decodeNas (data : Bytes) : Outcome UeError Nas5gsMessage :=
  (NasContext.decode api.nasCodec data).mapErr UeError.security

def ulDcchMessageIn : F1apPdu -> Outcome UeError UlDcchMessage
  | F1apPdu.ulRrcMessageTransfer r => extractUlDcchMessage api r
  | _ => Outcome.err UeError.expectedUlRrcMessageTransfer

def nasIn : UlDcchMessage -> Outcome UeError Nas5gsMessage
  | UlDcchMessage.ulInformationTransfer (some responseBytes) =>
      decodeNas api responseBytes
  | _ => Outcome.err UeError.expectedRrcUlInformationTransfer

def CarriesRrc (pdu : F1apPdu) (rrc : UlDcchMessage) : Prop :=
  ulDcchMessageIn api pdu = Outcome.ok rrc

def CarriesSetupComplete (pdu : F1apPdu) (nas : Nas5gsMessage) : Prop :=
  exists bytes, CarriesRrc api pdu (UlDcchMessage.rrcSetupComplete bytes) ∧
    decodeNas api bytes = Outcome.ok nas

def CarriesNas (pdu : F1apPdu) (nas : Nas5gsMessage) : Prop :=
  exists bytes,
    CarriesRrc api pdu (UlDcchMessage.ulInformationTransfer (some bytes)) ∧
      decodeNas api bytes = Outcome.ok nas

/-!
## Requests
-/

/-- `receiver.recv()` -/
def recv : UeM F1apPdu := fun s =>
  match s.inbox with
  | [] => (Outcome.err UeError.recv, s)
  | pdu :: rest =>
      (Outcome.ok pdu,
        { s with inbox := rest, log := s.log ++ [UeEvent.received pdu] })

/-- `self.ue.nas.encode(nas)` -/
def encodeNas (nas : Nas5gsMessage) : UeM Bytes := do
  let bytes <- Cmd.zoom (fun s : Task => s.ue.nas) Task.setNas UeError.security
    (NasContext.encode api.crypto api.nasCodec nas)
  Cmd.modify (Task.record (UeEvent.encodedNas nas bytes))
  pure bytes

def maybePdcpEncapsulate (rrcBytes : Bytes) (srbId : SrbId) : UeM Bytes :=
  if srbId = 0 then
    pure rrcBytes
  else
    Cmd.zoom (fun s : Task => s.ue.pdcpTx) Task.setPdcpTx UeError.security
      (PdcpTx.encode api.crypto api.overflowChecks srbId rrcBytes)

def dlRrcMessageTransfer (ue : UeContext) (rrcContainer : Bytes)
    (srbId : SrbId) : DlRrcMessageTransfer where
  gnbCuUeF1apId := ue.key
  gnbDuUeF1apId := ue.gnbDuUeF1apId
  srbId := srbId
  rrcContainer := rrcContainer

/-- The first half of `rrc_request`: encode, wrap and send. -/
def sendRrc (srbId : SrbId) (rrc : DlRrcMessage) : UeM Unit := do
  let rrcBytes <- Cmd.lift
    (Outcome.ofOption UeError.rrcEncode (api.rrcCodec.encode rrc))
  let rrcContainer <- maybePdcpEncapsulate api rrcBytes srbId
  Cmd.modify fun s =>
    s.record (UeEvent.dlRrcMessageTransfer
      (dlRrcMessageTransfer s.ue rrcContainer srbId) rrc)

def recvRrc : UeM UlDcchMessage := do
  let pdu <- recv
  Cmd.lift (ulDcchMessageIn api pdu)

def rrcRequest (srbId : SrbId) (rrc : DlRrcMessage) : UeM UlDcchMessage := do
  sendRrc api srbId rrc
  recvRrc api

def nasRequest (nas : Nas5gsMessage) : UeM Nas5gsMessage := do
  let nasBytes <- encodeNas api nas
  let response <-
    rrcRequest api 1 (DlRrcMessage.dlInformationTransfer 1 nasBytes)
  Cmd.lift (nasIn api response)

/-- `expect_nas!`: the value that `select` takes out of a mobility management
message, or an error that names the message. -/
def expectNas {α : Type} (expected : ExpectedNas)
    (select : Nas5gmmMessage -> Option α) : Nas5gsMessage -> Outcome UeError α
  | Nas5gsMessage.gmm message =>
      Outcome.ofOption (UeError.expectedNas expected) (select message)
  | _ => Outcome.err (UeError.expectedNas expected)

end Ue
end QCore
