import QCore.Foundation.Bytes

/-!
# NAS messages

The NAS messages that the code builds or takes apart, with the fields it uses.
Encoding and decoding are done by another crate and are parameters.
-/

namespace QCore
namespace Nas

open Foundation

structure NasRegistrationRequest where
  fgsMobileIdentity : Bytes
  ueSecurityCapability : Option Bytes
deriving DecidableEq, Repr

structure NasRegistrationAccept where
  fgsRegistrationResult : Bytes
  fgGuti : Bytes
  allowedNssai : Bytes
deriving DecidableEq, Repr

structure NasSecurityModeCommand where
  selectedNasSecurityAlgorithms : UInt8
  replayedUeSecurityCapabilities : Bytes
  additionalFgSecurityInformation : Bytes
deriving DecidableEq, Repr

inductive Nas5gmmMessage where
  | registrationRequest (r : NasRegistrationRequest)
  | registrationAccept (r : NasRegistrationAccept)
  | registrationComplete
  | authenticationRequest (abba : Bytes) (rand autn : Vector UInt8 16)
  | authenticationResponse (authenticationResponseParameter : Option Bytes)
  | securityModeCommand (r : NasSecurityModeCommand)
  | securityModeComplete (nasMessageContainer : Option Bytes)
  | ulNasTransport (payloadContainer : Bytes) (dnn : Option Bytes)
  | dlNasTransport (payloadContainer : Bytes)
  | deregistrationRequestFromUe
  | other (bytes : Bytes)
deriving DecidableEq, Repr

structure Nas5gsmHeader where
  pduSessionIdentity : UInt8
  procedureTransactionIdentity : UInt8
deriving DecidableEq, Repr

structure NasPduSessionEstablishmentAccept where
  selectedPduSessionType : UInt8
  authorizedQosRules : Bytes
  sessionAmbr : Bytes
  pduAddress : Bytes
  dnn : Bytes
deriving DecidableEq, Repr

inductive Nas5gsmMessage where
  | pduSessionEstablishmentRequest
  | pduSessionEstablishmentAccept (r : NasPduSessionEstablishmentAccept)
  | other (bytes : Bytes)
deriving DecidableEq, Repr

inductive Nas5gsSecurityHeaderType where
  | integrityProtected
  | integrityProtectedAndCiphered
  | integrityProtectedWithNewContext
  | integrityProtectedAndCipheredWithNewContext
deriving DecidableEq, Repr

/-- TS 24.501, 9.3.1 -/
def Nas5gsSecurityHeaderType.octet : Nas5gsSecurityHeaderType -> UInt8
  | integrityProtected => 1
  | integrityProtectedAndCiphered => 2
  | integrityProtectedWithNewContext => 3
  | integrityProtectedAndCipheredWithNewContext => 4

inductive Nas5gsMessage where
  | gmm (message : Nas5gmmMessage)
  | gsm (header : Nas5gsmHeader) (message : Nas5gsmMessage)
  | securityProtected (headerType : Nas5gsSecurityHeaderType) (mac : UInt32)
      (sequenceNumber : UInt8) (body : Nas5gsMessage)
deriving DecidableEq, Repr

/-- The codec of the NAS crate; `none` is its error. -/
structure NasCodec where
  encode : Nas5gsMessage -> Option Bytes
  decode : Bytes -> Option Nas5gsMessage

end Nas
end QCore
