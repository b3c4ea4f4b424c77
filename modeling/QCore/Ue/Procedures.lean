import QCore.Ue.InitialAccess

/-!
# The procedures of a registered UE and the message handler

`UeMessageHandler` runs initial access and then one procedure for each PDU it
receives, until a procedure fails or the channel is closed.  It then deletes
the userplane sessions of the UE and its channel.
-/

namespace QCore
namespace Ue

open Foundation
open F1ap
open Nas
open Rrc
open Security
open Userplane

variable (api : HandlerApi)

/-!
## Calls of the services
-/

/-- `service(..).await?`: the answer depends on the log and is recorded in it,
and an error of it is returned. -/
def callService {ε α : Type} (service : List UeEvent -> Except ε α)
    (event : Except ε α -> UeEvent) (wrap : ε -> UeError) : UeM α := do
  let s <- Cmd.get
  Cmd.modify (Task.record (event (service s.log)))
  Cmd.lift ((Outcome.ofExcept (service s.log)).mapErr wrap)

def ueContextSetup (request : UeContextSetupRequest) :
    UeM UeContextSetupResponse :=
  callService (fun log => api.ueContextSetup log request)
    (UeEvent.ueContextSetup request) UeError.f1apRequest

def ueContextRelease (command : UeContextReleaseCommand) : UeM Unit :=
  callService (fun log => api.ueContextRelease log command)
    (UeEvent.ueContextRelease command) UeError.f1apRequest

def reserveUserplaneSession : UeM UserplaneSession :=
  callService api.reserveUserplaneSession UeEvent.reserve UeError.userplane

def commitUserplaneSession (session : UserplaneSession)
    (remoteTunnelInfo : GtpTunnel) : UeM Unit :=
  callService
    (fun log => api.commitUserplaneSession log session remoteTunnelInfo)
    (UeEvent.commit session remoteTunnelInfo) UeError.userplane

def deleteUserplaneSession (session : UserplaneSession) : UeM Unit :=
  Cmd.modify (Task.record (UeEvent.delete session))

/-!
## Session establishment
-/

namespace SessionEstablishmentProcedure

def performF1UeContextSetup (session : PduSession) :
    UeM (Bytes × GtpTunnel) := do
  let s <- Cmd.get
  let rsp <- ueContextSetup api (ueContextSetupRequest s.ue
    (TransportLayerAddress.fromIpAddr api.config.ipAddr) session)
  Cmd.lift (Outcome.ofOption UeError.ueContextSetupResponseIncomplete
    (checkUeContextSetupResponse rsp))

def checkRrcReconfigurationComplete : UlDcchMessage -> Outcome UeError Unit
  | UlDcchMessage.rrcReconfigurationComplete => Outcome.ok ()
  | _ => Outcome.err UeError.expectedRrcReconfigurationComplete

def performRrcReconfiguration (nas cellGroupConfig : Bytes)
    (pduSessionId : UInt8) : UeM Unit := do
  let response <- rrcRequest api 1
    (DlRrcMessage.rrcReconfiguration
      (reconfiguration 0 (some ⟨nas, []⟩) cellGroupConfig pduSessionId))
  Cmd.lift (checkRrcReconfigurationComplete response)

def pushSession (session : PduSession) (s : Task) : Task :=
  { s with ue := { s.ue with pduSessions := s.ue.pduSessions ++ [session] } }

def run (hdr : Nas5gsmHeader) (dnn : Option Bytes) : UeM Unit := do
  let userplaneInfo <- reserveUserplaneSession api
  let session : PduSession :=
    { id := hdr.pduSessionIdentity
      snssai := ⟨api.config.sst, none⟩
      dnn := dnn.getD []
      userplaneInfo := userplaneInfo }
  let (cellGroupConfig, remoteTunnelInfo) <-
    performF1UeContextSetup api session
  let accept <- Cmd.lift (pduSessionEstablishmentAccept api.nasCodec session
    hdr.procedureTransactionIdentity)
  let accept <- encodeNas api accept
  commitUserplaneSession api session.userplaneInfo remoteTunnelInfo
  Cmd.modify (pushSession session)
  performRrcReconfiguration api accept cellGroupConfig hdr.pduSessionIdentity

end SessionEstablishmentProcedure

/-!
## Release, deregistration and uplink NAS
-/

/-- `perform_f1_ue_context_release`; the release complete is not checked. -/
def performF1UeContextRelease (cause : Cause) : UeM Unit := do
  let s <- Cmd.get
  ueContextRelease api (ueContextReleaseCommand s.ue cause)

def deregistration : UeM Unit := do
  performF1UeContextRelease api Cause.normalRelease
  Cmd.bail UeError.normalDeregistration

/-- `patch_nas_for_oai_deregistration_security_header`: clear the inner security
header type, byte 8, of a message with outer header type 2. -/
def patchNasForOaiDeregistrationSecurityHeader (nasBytes : Bytes) : Bytes :=
  if nasBytes.length < 9 then
    nasBytes
  else if nasBytes[0]? = some 0x7e ∧ nasBytes[1]? = some 0x02 then
    nasBytes.set 8 0x00
  else
    nasBytes

/-- `UplinkNasProcedure::run`; what it does not handle is only logged. -/
def uplinkNas (nasBytes : Bytes) : UeM Unit := do
  let nas <- Cmd.lift
    (decodeNas api (patchNasForOaiDeregistrationSecurityHeader nasBytes))
  match nas with
  | Nas5gsMessage.gmm (Nas5gmmMessage.ulNasTransport payloadContainer dnn) => do
      let inner <- Cmd.lift (Outcome.ofOption
        (UeError.security SecurityError.nasDecode)
        (api.nasCodec.decode payloadContainer))
      match inner with
      | Nas5gsMessage.gsm header
          Nas5gsmMessage.pduSessionEstablishmentRequest =>
          SessionEstablishmentProcedure.run api header dnn
      | _ => pure ()
  | Nas5gsMessage.gmm Nas5gmmMessage.deregistrationRequestFromUe =>
      deregistration api
  | _ => pure ()

/-- `UlInformationTransferProcedure::run` -/
def ulInformationTransfer (dedicatedNasMessage : Option Bytes) : UeM Unit :=
  match dedicatedNasMessage with
  | some nasBytes => uplinkNas api nasBytes
  | none => Cmd.bail UeError.expectedNasInUlInformationTransfer

/-!
## The message handler
-/

namespace UeMessageHandler

/-- The body of the loop of `run_inner`. -/
def handlePdu : F1apPdu -> UeM Unit
  | F1apPdu.ulRrcMessageTransfer r => do
      let rrc <- Cmd.lift (extractUlDcchMessage api r)
      match rrc with
      | UlDcchMessage.ulInformationTransfer dedicatedNasMessage =>
          ulInformationTransfer api dedicatedNasMessage
      | _ => Cmd.bail UeError.unsupportedUlDcchMessage
  | F1apPdu.ueContextReleaseRequest r => do
      performF1UeContextRelease api r.cause
      Cmd.bail UeError.duInitiatedContextRelease
  | _ => Cmd.bail UeError.unsupportedF1apPdu

/-- `while let Ok(pdu) = recv() { .. }`, for at most `fuel` rounds.  Each round
receives a PDU, so the number of PDUs in the channel is enough. -/
def successive : Nat -> UeM Unit
  | 0 => pure ()
  | fuel + 1 => do
      let next <- Cmd.attempt recv
      match next with
      | Except.error _ => pure ()
      | Except.ok pdu => do
          handlePdu api pdu
          successive fuel

def runInner (r : InitialUlRrcMessageTransfer) : UeM Unit := do
  InitialAccessProcedure.run api r
  let s <- Cmd.get
  successive api s.inbox.length

/-- `for session in pdu_sessions.drain(..)` -/
def deleteSessions : List PduSession -> UeM Unit
  | [] => pure ()
  | session :: rest => do
      deleteUserplaneSession session.userplaneInfo
      deleteSessions rest

def destroy : UeM Unit := do
  let s <- Cmd.get
  deleteSessions s.ue.pduSessions
  Cmd.modify fun s => { s with ue := { s.ue with pduSessions := [] } }
  Cmd.modify (Task.record (UeEvent.deleteUeChannel s.ue.key))

/-- The context of the UE is destroyed whatever `run_inner` returned. -/
def runContext (r : InitialUlRrcMessageTransfer) : UeM Unit := do
  let result <- Cmd.attempt (runInner api r)
  destroy
  Cmd.lift (Outcome.ofExcept result)

def start (ueId : GnbCuUeF1apId) (r : InitialUlRrcMessageTransfer)
    (inbox : List F1apPdu) : Task where
  ue := UeContext.new api.tmsi ueId r.gnbDuUeF1apId r.nrCgi
  inbox := inbox
  log := [UeEvent.received (F1apPdu.initialUlRrcMessageTransfer r)]

/-- `UeMessageHandler::run` on the PDUs of its channel: the result, and the log
of the whole run. -/
def run (ueId : GnbCuUeF1apId) (pdus : List F1apPdu) :
    Outcome UeError Unit × List UeEvent :=
  match pdus with
  | [] => (Outcome.err UeError.recv, [])
  | F1apPdu.initialUlRrcMessageTransfer r :: rest =>
      let final := runContext api r (start api ueId r rest)
      (final.1, final.2.log)
  | pdu :: _ =>
      (Outcome.err UeError.expectedInitialUlRrcMessageTransfer,
        [UeEvent.received pdu])

end UeMessageHandler

end Ue
end QCore
