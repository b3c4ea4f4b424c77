import QCore.F1ap.Messages
import QCore.Security.Protection

/-!
# The data of a UE task

Configuration, SIM credentials, PDU sessions and the context of one UE, and the
functions that build the messages a UE task sends and parse the identity it
receives (`nas::build`, `nas::parse` and `f1ap::build`).
-/

namespace QCore
namespace Ue

open Foundation
open F1ap
open Nas
open Security
open Userplane

structure Config where
  ipAddr : IpAddr
  plmn : Vector UInt8 3
  servingNetworkName : Bytes
  sst : UInt8
  skipUeAuthenticationCheck : Bool
  amfIds : Vector UInt8 3
deriving DecidableEq, Repr

structure SimCreds where
  ki : Key128
  opc : Key128
deriving DecidableEq, Repr

structure PduSession where
  id : UInt8
  snssai : Snssai
  dnn : Bytes
  userplaneInfo : UserplaneSession
deriving DecidableEq, Repr

structure UeContext where
  key : GnbCuUeF1apId
  gnbDuUeF1apId : GnbDuUeF1apId
  tmsi : Vector UInt8 4
  pduSessions : List PduSession
  pdcpTx : PdcpTx
  nrCgi : Bytes
  nas : NasContext
deriving DecidableEq, Repr

/-- `UeContext::new`, for the random TMSI it draws. -/
def UeContext.new (tmsi : Vector UInt8 4) (ueId : GnbCuUeF1apId)
    (gnbDuUeF1apId : GnbDuUeF1apId) (nrCgi : Bytes) : UeContext where
  key := ueId
  gnbDuUeF1apId := gnbDuUeF1apId
  tmsi := tmsi
  pduSessions := []
  pdcpTx := PdcpTx.default
  nrCgi := nrCgi
  nas := NasContext.default

/-- The message named by `expect_nas!` in its error. -/
inductive ExpectedNas where
  | registrationRequest
  | authenticationResponse
  | securityModeComplete
  | registrationComplete
deriving DecidableEq, Repr

inductive UeError where
  -- `RecvError` of the channel: every sender is gone and it is empty.
  | recv
  -- "Expected InitialUlRrcMessageTransfer, got {}"
  | expectedInitialUlRrcMessageTransfer
  -- "Expected UlRrcMessageTransfer, got {}"
  | expectedUlRrcMessageTransfer
  | rrcEncode
  | rrcDecode
  | security (e : SecurityError)
  -- "Expected RrcUlInformationTransfer with DedicatedNasMessage"
  | expectedRrcUlInformationTransfer
  -- "Expected Nas {} but got {}"
  | expectedNas (message : ExpectedNas)
  -- "Missing DuToCuRrcContainer on initial UL RRC message"
  | missingDuToCuRrcContainer
  -- "Not yet implemented Rrc message {}"
  | notYetImplementedRrcMessage
  -- "Expected Rrc Setup complete, got {}"
  | expectedRrcSetupComplete
  -- "UE security capability missing from Registration Request"
  | ueSecurityCapabilityMissing
  -- "Mobile identity IE is too short: {}"
  | mobileIdentityTooShort
  -- "Only supported identity type is SUPI"
  | identityTypeNotSupi
  -- "UE PLMN {} doesn't match ours {}"
  | plmnMismatch (plmn : Vector UInt8 3)
  -- "Unknown IMSI {} tried to register"
  | unknownImsi (imsi : Bytes)
  | f1apRequest (e : RequestError)
  | userplane (e : UserplaneError)
  -- "UeContextSetupResponse missed expected information"
  | ueContextSetupResponseIncomplete
  -- "IPv6 not implemented"
  | ipv6NotImplemented
  -- "Expected RrcReconfigurationComplete, got {}"
  | expectedRrcReconfigurationComplete
  -- "Expected NAS message in UlInformationTransfer, got {}"
  | expectedNasInUlInformationTransfer
  -- "Normal deregistration"
  | normalDeregistration
  -- "DU initiated context release"
  | duInitiatedContextRelease
  -- "Unsupported UlDcchMessage {}"
  | unsupportedUlDcchMessage
  -- "Unsupported F1apPdu {}"
  | unsupportedF1apPdu
deriving DecidableEq, Repr

/-!
## NAS messages
-/

def authenticationRequest (rand autn : Vector UInt8 16) : Nas5gsMessage :=
  Nas5gsMessage.gmm (Nas5gmmMessage.authenticationRequest nasAbba rand autn)

def nasSecurityModeCommand (replayedUeSecurityCapabilities : Bytes) :
    Nas5gsMessage :=
  Nas5gsMessage.gmm (Nas5gmmMessage.securityModeCommand
    { selectedNasSecurityAlgorithms := 2
      replayedUeSecurityCapabilities := replayedUeSecurityCapabilities
      -- Request retransmission of the initial NAS message.
      additionalFgSecurityInformation := [0b00000010] })

def nasMobileIdentityGuti (plmn guami : Vector UInt8 3)
    (tmsi : Vector UInt8 4) : Bytes :=
  List.flatten [[0b11110010], plmn.toList, guami.toList, tmsi.toList]

def registrationAccept (allowedSst : UInt8) (plmn amfIds : Vector UInt8 3)
    (tmsi : Vector UInt8 4) : Nas5gsMessage :=
  Nas5gsMessage.gmm (Nas5gmmMessage.registrationAccept
    { fgsRegistrationResult := [0b00000001]
      fgGuti := nasMobileIdentityGuti plmn amfIds tmsi
      allowedNssai := [0x01, allowedSst] })

def pduSessionEstablishmentAccept (codec : NasCodec) (pduSession : PduSession)
    (pti : UInt8) : Outcome UeError Nas5gsMessage :=
  match pduSession.userplaneInfo.ueIpAddr with
  | IpAddr.v6 _ => Outcome.err UeError.ipv6NotImplemented
  | IpAddr.v4 ueIpv4 => do
      let accept : NasPduSessionEstablishmentAccept :=
        { selectedPduSessionType := 0b001
          -- One default rule that matches every packet, for QFI 1.
          authorizedQosRules :=
            [0x01, 0x00, 0x06, 0b00110001, 0b00111111, 0x01, 0b00000001, 0xff,
              0b00000001]
          -- 1 Mbps in each direction.
          sessionAmbr := [0b00000110, 0x00, 0x01, 0b00000110, 0x00, 0x01]
          pduAddress := 0b00000001 :: ueIpv4.octets.toList
          dnn := pduSession.dnn }
      let innerMessage <- Outcome.ofOption
        (UeError.security SecurityError.nasEncode)
        (codec.encode (Nas5gsMessage.gsm ⟨pduSession.id, pti⟩
          (Nas5gsmMessage.pduSessionEstablishmentAccept accept)))
      pure (Nas5gsMessage.gmm (Nas5gmmMessage.dlNasTransport innerMessage))

structure MobileIdentity where
  imsi : Bytes
  plmn : Vector UInt8 3
deriving DecidableEq, Repr

def writeDigit (b : UInt8) : Bytes :=
  if b < 10 then [0x30 + b] else [0x31, 0x30 + (b - 10)]

def halves (b : UInt8) : List UInt8 :=
  [b &&& 0xf, b >>> 4]

/-- `fgs_mobile_identity`: a SUPI, with the PLMN in bytes 1 to 3 and the MSIN
from byte 8 on.  The IMSI is a string of digits, kept here as its bytes. -/
def fgsMobileIdentity (ie : Bytes) : Outcome UeError MobileIdentity :=
  match ie with
  | b0 :: b1 :: b2 :: b3 :: _ :: _ :: _ :: _ :: msin =>
      if msin.length < 4 then
        Outcome.err UeError.mobileIdentityTooShort
      else if b0 ≠ 0x01 then
        Outcome.err UeError.identityTypeNotSupi
      else
        let mncThird := if b2 >>> 4 ≠ 0xf then [b2 >>> 4] else []
        let digits := halves b1 ++ [b2 &&& 0xf] ++ mncThird ++ halves b3 ++
          msin.flatMap halves
        Outcome.ok { imsi := digits.flatMap writeDigit, plmn := #v[b1, b2, b3] }
  | _ => Outcome.err UeError.mobileIdentityTooShort

/-!
## F1AP messages
-/

def drbToBeSetupItem (snssai : Snssai) (gtpTunnel : GtpTunnel)
    (pduSessionId qfi : UInt8) : DrbsToBeSetupItem where
  drbId := 1
  snssai := snssai
  ulUpTnlInformation := gtpTunnel
  pduSessionId := pduSessionId
  qosFlowIdentifier := qfi
  dlPdcpSnLength := some PdcpSnLength.twelveBits
  ulPdcpSnLength := some PdcpSnLength.twelveBits

def ueContextSetupRequest (ue : UeContext)
    (transportLayerAddress : TransportLayerAddress) (session : PduSession) :
    UeContextSetupRequest where
  gnbCuUeF1apId := ue.key
  gnbDuUeF1apId := some ue.gnbDuUeF1apId
  spCellId := ue.nrCgi
  drbsToBeSetupList := some
    { head := drbToBeSetupItem session.snssai
        ⟨transportLayerAddress, session.userplaneInfo.uplinkGtpTeid⟩ session.id
        session.userplaneInfo.qfi
      tail := [] }

def ueContextReleaseCommand (ue : UeContext) (cause : Cause) :
    UeContextReleaseCommand where
  gnbCuUeF1apId := ue.key
  gnbDuUeF1apId := ue.gnbDuUeF1apId
  cause := cause

end Ue
end QCore
