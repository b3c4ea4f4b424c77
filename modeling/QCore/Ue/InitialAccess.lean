import QCore.Ue.Task

/-!
# Initial access

The procedure in which a UE makes first contact: RRC setup, authentication,
activation of NAS and RRC security, and registration.
-/

namespace QCore
namespace Ue

open Foundation
open F1ap
open Nas
open Rrc
open Security

/-!
## The expected messages
-/

def registrationRequest? : Nas5gmmMessage -> Option NasRegistrationRequest
  | Nas5gmmMessage.registrationRequest r => some r
  | _ => none

def authenticationResponse? : Nas5gmmMessage -> Option (Option Bytes)
  | Nas5gmmMessage.authenticationResponse parameter => some parameter
  | _ => none

def securityModeComplete? : Nas5gmmMessage -> Option (Option Bytes)
  | Nas5gmmMessage.securityModeComplete container => some container
  | _ => none

def registrationComplete? : Nas5gmmMessage -> Option Unit
  | Nas5gmmMessage.registrationComplete => some ()
  | _ => none

theorem registrationRequest?_eq_some {m : Nas5gmmMessage}
    {r : NasRegistrationRequest} : registrationRequest? m = some r <->
      m = Nas5gmmMessage.registrationRequest r := by
  cases m with
  | _ => simp [registrationRequest?]

theorem authenticationResponse?_eq_some {m : Nas5gmmMessage}
    {parameter : Option Bytes} : authenticationResponse? m = some parameter <->
      m = Nas5gmmMessage.authenticationResponse parameter := by
  cases m with
  | _ => simp [authenticationResponse?]

theorem securityModeComplete?_eq_some {m : Nas5gmmMessage}
    {container : Option Bytes} : securityModeComplete? m = some container <->
      m = Nas5gmmMessage.securityModeComplete container := by
  cases m with
  | _ => simp [securityModeComplete?]

theorem registrationComplete?_eq_some {m : Nas5gmmMessage} {u : Unit} :
    registrationComplete? m = some u <->
      m = Nas5gmmMessage.registrationComplete := by
  cases m with
  | _ => simp [registrationComplete?]

namespace InitialAccessProcedure

variable (api : HandlerApi)

/-!
## Checks
-/

def checkRrcSetupRequest (message : Bytes) : Outcome UeError Unit := do
  let m <- Outcome.ofOption UeError.rrcDecode
    (api.rrcCodec.decodeUlCcch message)
  match m with
  | UlCcchMessage.rrcSetupRequest => pure ()
  | UlCcchMessage.other _ => Outcome.err UeError.notYetImplementedRrcMessage

def checkInitialTransfer (r : InitialUlRrcMessageTransfer) :
    Outcome UeError Bytes := do
  let cellGroupConfig <- Outcome.ofOption UeError.missingDuToCuRrcContainer
    r.duToCuRrcContainer
  checkRrcSetupRequest api r.rrcContainer
  pure cellGroupConfig

def checkRrcSetupComplete : UlDcchMessage -> Outcome UeError Bytes
  | UlDcchMessage.rrcSetupComplete dedicatedNasMessage =>
      Outcome.ok dedicatedNasMessage
  | _ => Outcome.err UeError.expectedRrcSetupComplete

def checkRegistrationRequest (registrationRequest : NasRegistrationRequest) :
    Outcome UeError (Bytes × Bytes) := do
  let ueSecurityCapability <- Outcome.ofOption
    UeError.ueSecurityCapabilityMissing registrationRequest.ueSecurityCapability
  let identity <- fgsMobileIdentity registrationRequest.fgsMobileIdentity
  Outcome.ensure (identity.plmn = api.config.plmn)
    (UeError.plmnMismatch identity.plmn)
  pure (identity.imsi, ueSecurityCapability)

/-- A container has to hold a registration request; without one the code only
warns. -/
def checkNasSecurityModeComplete (nasMessageContainer : Option Bytes) :
    Outcome UeError Unit :=
  match nasMessageContainer with
  | some container => do
      let nas <- decodeNas api container
      let _registrationRequest <-
        expectNas ExpectedNas.registrationRequest registrationRequest? nas
      pure ()
  | none => Outcome.ok ()

/-!
## The steps
-/

def handleRrcSetup (r : InitialUlRrcMessageTransfer) :
    UeM NasRegistrationRequest := do
  let cellGroupConfig <- Cmd.lift (checkInitialTransfer api r)
  let response <- rrcRequest api 0 (DlRrcMessage.rrcSetup 0 cellGroupConfig)
  let nasBytes <- Cmd.lift (checkRrcSetupComplete response)
  let nas <- Cmd.lift (decodeNas api nasBytes)
  Cmd.lift (expectNas ExpectedNas.registrationRequest registrationRequest? nas)

/-- `generate_challenge` with the sequence number that is always zero. -/
def challengeFor (sim : SimCreds) (rand : Vector UInt8 16) : Challenge :=
  generateChallenge api.crypto sim.ki sim.opc api.config.servingNetworkName
    #v[0, 0, 0, 0, 0, 0] rand

def authenticateUe (imsi : Bytes) : UeM Key256 := do
  let sim <- Cmd.lift
    (Outcome.ofOption (UeError.unknownImsi imsi) (api.lookupSim imsi))
  let s <- Cmd.get
  let challenge := challengeFor api sim (api.rand s.log)
  let nas <- nasRequest api
    (authenticationRequest challenge.rand challenge.autn)
  let response <- Cmd.lift
    (expectNas ExpectedNas.authenticationResponse authenticationResponse? nas)
  Cmd.lift ((checkAuthenticationResponse api.config.skipUeAuthenticationCheck
    response challenge).mapErr UeError.security)
  pure (deriveKamf api.crypto challenge.kseaf imsi)

def activateNasSecurity (ueSecurityCapabilities : Bytes) (kamf : Key256) :
    UeM Unit := do
  Cmd.modify (Task.setNas (configureNasSecurity api.crypto kamf))
  let nas <- nasRequest api (nasSecurityModeCommand ueSecurityCapabilities)
  let rsp <- Cmd.lift
    (expectNas ExpectedNas.securityModeComplete securityModeComplete? nas)
  Cmd.lift (checkNasSecurityModeComplete api rsp)

/-- The response to the command, or the error of the request, is not looked
at. -/
def activateRrcSecurity (kamf : Key256) : UeM Unit := do
  Cmd.modify fun s =>
    s.setPdcpTx (configureRrcSecurity api.crypto kamf s.ue.pdcpTx)
  let _rrcSecurityModeComplete <- Cmd.attempt
    (rrcRequest api 1 (DlRrcMessage.securityModeCommand 1))
  pure ()

def completeNasRegistration : UeM Unit := do
  let s <- Cmd.get
  let nas <- nasRequest api
    (registrationAccept api.config.sst api.config.plmn api.config.amfIds
      s.ue.tmsi)
  Cmd.lift
    (expectNas ExpectedNas.registrationComplete registrationComplete? nas)

def run (r : InitialUlRrcMessageTransfer) : UeM Unit := do
  let registrationRequest <- handleRrcSetup api r
  let (imsi, ueSecurityCapability) <-
    Cmd.lift (checkRegistrationRequest api registrationRequest)
  let kamf <- authenticateUe api imsi
  activateNasSecurity api ueSecurityCapability kamf
  activateRrcSecurity api kamf
  completeNasRegistration api

end InitialAccessProcedure

end Ue
end QCore
