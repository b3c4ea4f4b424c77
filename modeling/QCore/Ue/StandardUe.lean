import QCore.F1ap.Messages
import QCore.Foundation.Conversation
import QCore.Rrc.Messages
import QCore.Security.KeyAgreement
import QCore.Ue.Identity

/-!
# A standard UE

The other end of a UE task, written from TS 24.501, TS 33.501, TS 38.323 and
TS 38.331: a UE that registers, asks for a session and deregisters.  It reads
the octets of each downlink transfer, checks what a UE has to check, and writes
the octets of its answers.  Its keys are those of `ReferenceUe`.  It has its own
counts, headers and codecs; of the core it uses nothing.
-/

namespace QCore
namespace Ue

open Foundation
open F1ap
open Nas
open Rrc
open Security

structure StandardUe where
  usim : ReferenceUe
  /-- The sequence numbers that the USIM takes as fresh. -/
  freshSqn : Vector UInt8 6 -> Bool
  plmn : Plmn
  routing : Vector UInt8 2
  keyId : UInt8
  msin : List Digit
  capability : Bytes
  /-- The session that is asked for. -/
  session : Nas5gsmHeader
  dnn : Option Bytes
  readRrc : Bytes -> Option DlRrcMessage
  readNas : Bytes -> Option Nas5gsMessage
  writeRrc : UlDcchMessage -> Option Bytes
  writeNas : Nas5gsMessage -> Option Bytes
  imsi_eq : usim.imsi = digitsText (plmn.mcc ++ plmn.mnc.digits ++ msin)

/-- The challenge that was answered, the integrity keys once they are in use,
the COUNT of the next message of each kind and direction, and the address of the
session. -/
structure UeState where
  challenge : Option (Vector UInt8 16 × Vector UInt8 16)
  nasKey : Option Key128
  nasCount : UInt32
  ulNasCount : UInt32
  rrcKey : Option Key128
  pdcpCount : UInt32
  ulPdcpCount : UInt32
  pduAddress : Option Bytes
deriving DecidableEq

namespace UeState

def start : UeState where
  challenge := none
  nasKey := none
  nasCount := 0
  ulNasCount := 0
  rrcKey := none
  pdcpCount := 0
  ulPdcpCount := 0
  pduAddress := none

def pdcpCounted (st : UeState) : UeState :=
  { st with pdcpCount := st.pdcpCount + 1 }

def saidRrc (st : UeState) : UeState :=
  { st with ulPdcpCount := st.ulPdcpCount + 1 }

/-- TS 24.501, 4.4.3.1: a NAS COUNT has 24 bits, and counts protected
messages. -/
def saidNas (st : UeState) : UeState :=
  match st.nasKey with
  | none => st.saidRrc
  | some _ =>
      { st.saidRrc with ulNasCount := (st.ulNasCount + 1) % 0x1000000 }

/-- TS 24.501, 4.4.3: a protected message carries the low octet of the COUNT that
is expected, and verifies with it. -/
def acceptNas (c : Crypto) (st : UeState) (seq : UInt8) (nasBytes : Bytes) :
    Option UeState :=
  match st.nasKey with
  | none => none
  | some key =>
      if seq = UInt8.ofNat st.nasCount.toNat ∧
          NasVerifies c key st.nasCount nasBytes then
        some { st with nasCount := (st.nasCount + 1) % 0x1000000 }
      else
        none

/-- TS 38.323, 5.2.2: the sequence number is the one that is expected, and the
MAC verifies once there is a key. -/
def PdcpAccepts (c : Crypto) (st : UeState) (pdu : Bytes) : Prop :=
  6 <= pdu.length ∧ PdcpTx.rcvdSn pdu = some (st.pdcpCount.toNat % 4096) ∧
    forall key, key ∈ st.rrcKey -> PdcpVerifies c key st.pdcpCount pdu

instance decidablePdcpAccepts (c : Crypto) (st : UeState) (pdu : Bytes) :
    Decidable (st.PdcpAccepts c pdu) :=
  inferInstanceAs (Decidable (_ ∧ _ ∧ forall key, key ∈ st.rrcKey -> _))

end UeState

/-- TS 24.501, 9.1.1 -/
def protectedFrame (headerType : Nas5gsSecurityHeaderType) (mac : Vector UInt8 4)
    (seq : UInt8) (plain : Bytes) : Bytes :=
  [0x7e, headerType.octet] ++ mac.toList ++ seq :: plain

/-- TS 38.323, 6.2.2.1: a sequence number of 12 bits, the data, and the MAC,
which is zero without a key. -/
def uplinkPdu (c : Crypto) (key : Option Key128) (count : UInt32)
    (rrc : Bytes) : Bytes :=
  let message := [UInt8.ofNat (count.toNat / 256 % 16),
    UInt8.ofNat count.toNat] ++ rrc
  message ++
    match key with
    | none => [0, 0, 0, 0]
    | some key => (eia2 c key count 0 0 message).toList

def uplink (ueId : GnbCuUeF1apId) (pdu : Bytes) : F1apPdu :=
  F1apPdu.ulRrcMessageTransfer ⟨ueId, pdu⟩

namespace StandardUe

variable (ue : StandardUe) (c : Crypto)

/-!
## Messages to the core
-/

def identity : Bytes :=
  nullSchemeSuci ue.plmn ue.routing ue.keyId ue.msin

def request : Nas5gsMessage :=
  Nas5gsMessage.gmm (Nas5gmmMessage.registrationRequest
    ⟨ue.identity, some ue.capability⟩)

def sendRrc (st : UeState) (rrc : UlDcchMessage) : Option (UeState × Bytes) :=
  (ue.writeRrc rrc).map fun bytes =>
    (st.saidRrc, uplinkPdu c st.rrcKey st.ulPdcpCount bytes)

/-- TS 24.501, 4.4.4.2: once there is a key, every message is protected. -/
def secureNas (st : UeState) (headerType : Nas5gsSecurityHeaderType)
    (plain : Bytes) : Bytes :=
  match st.nasKey with
  | none => plain
  | some key =>
      let seq := UInt8.ofNat st.ulNasCount.toNat
      protectedFrame headerType (eia2 c key st.ulNasCount 1 0 (seq :: plain)) seq
        plain

def sendNas (st : UeState) (headerType : Nas5gsSecurityHeaderType)
    (message : Nas5gmmMessage) : Option (UeState × Bytes) := do
  let plain <- ue.writeNas (Nas5gsMessage.gmm message)
  let (_, pdu) <- ue.sendRrc c st
    (UlDcchMessage.ulInformationTransfer
      (some (secureNas c st headerType plain)))
  some (st.saidNas, pdu)

def setupComplete (st : UeState) : Option (UeState × Bytes) := do
  let nas <- ue.writeNas ue.request
  ue.sendRrc c st (UlDcchMessage.rrcSetupComplete nas)

def askSession (st : UeState) : Option (UeState × Bytes) := do
  let payload <- ue.writeNas (Nas5gsMessage.gsm ue.session
    Nas5gsmMessage.pduSessionEstablishmentRequest)
  ue.sendNas c st Nas5gsSecurityHeaderType.integrityProtectedAndCiphered
    (Nas5gmmMessage.ulNasTransport payload ue.dnn)

def deregister (st : UeState) : Option (UeState × Bytes) :=
  ue.sendNas c st Nas5gsSecurityHeaderType.integrityProtectedAndCiphered
    Nas5gmmMessage.deregistrationRequestFromUe

/-!
## NAS
-/

/-- TS 33.501, 6.1.3.2: the challenge of a home network that knows the key is
answered if it is one for 5G and its sequence number is fresh. -/
def answerChallenge (st : UeState) (rand autn : Vector UInt8 16) :
    Option (UeState × Bytes) :=
  if ue.usim.MacValid c rand autn ∧ ReferenceUe.Separated autn ∧
      ue.freshSqn (ue.usim.sqn c rand autn) = true then
    ue.sendNas c { st with challenge := some (rand, autn) }
      Nas5gsSecurityHeaderType.integrityProtectedAndCiphered
      (Nas5gmmMessage.authenticationResponse
        (some (ue.usim.resStar c rand).toList))
  else
    none

/-- TS 24.501, 5.4.2.3: the registration request is sent again if bit 2 of the
additional information asks for it. -/
def container (command : NasSecurityModeCommand) : Option Bytes :=
  match command.additionalFgSecurityInformation with
  | [] => none
  | octet :: _ =>
      if octet.toNat / 2 % 2 = 1 then ue.writeNas ue.request else none

/-- TS 33.501, 6.7.2: the command takes the new key into use when it verifies
with it, selects 128-NIA2, and gives back the capabilities that were sent. -/
def answerNasSecurityModeCommand (st : UeState) (nasBytes : Bytes)
    (headerType : Nas5gsSecurityHeaderType) (seq : UInt8)
    (command : NasSecurityModeCommand) : Option (UeState × Bytes) := do
  let (rand, autn) <- st.challenge
  if headerType = Nas5gsSecurityHeaderType.integrityProtectedWithNewContext ∧
      command.selectedNasSecurityAlgorithms = 2 ∧
      command.replayedUeSecurityCapabilities = ue.capability then
    let st' <- UeState.acceptNas c
      { st with
        nasKey := some (ue.usim.knasint c rand autn)
        nasCount := 0
        ulNasCount := 0 } seq nasBytes
    ue.sendNas c st'
      Nas5gsSecurityHeaderType.integrityProtectedAndCipheredWithNewContext
      (Nas5gmmMessage.securityModeComplete (ue.container command))
  else
    none

def answerNas (st : UeState) (nasBytes : Bytes) : Option (UeState × Bytes) :=
  match ue.readNas nasBytes with
  | some (Nas5gsMessage.gmm
      (Nas5gmmMessage.authenticationRequest _ rand autn)) =>
      ue.answerChallenge c st rand autn
  | some (Nas5gsMessage.securityProtected headerType _ seq
      (Nas5gsMessage.gmm (Nas5gmmMessage.securityModeCommand command))) =>
      ue.answerNasSecurityModeCommand c st nasBytes headerType seq command
  | some (Nas5gsMessage.securityProtected _ _ seq
      (Nas5gsMessage.gmm (Nas5gmmMessage.registrationAccept _))) => do
      let st' <- st.acceptNas c seq nasBytes
      ue.sendNas c st' Nas5gsSecurityHeaderType.integrityProtectedAndCiphered
        Nas5gmmMessage.registrationComplete
  | _ => none

/-!
## RRC
-/

/-- TS 33.501, 6.7.4: the command verifies with the key that it takes into
use. -/
def answerRrcSecurityModeCommand (st : UeState) (pdu : Bytes) :
    Option (UeState × Bytes) := do
  let (rand, autn) <- st.challenge
  if PdcpVerifies c (ue.usim.krrcint c rand autn) st.pdcpCount pdu then
    ue.sendRrc c { st.pdcpCounted with
      rrcKey := some (ue.usim.krrcint c rand autn) }
      UlDcchMessage.securityModeComplete
  else
    none

def acceptedAddress (payload : Bytes) : Option Bytes :=
  match ue.readNas payload with
  | some (Nas5gsMessage.gsm header
      (Nas5gsmMessage.pduSessionEstablishmentAccept accept)) =>
      if header = ue.session then some accept.pduAddress else none
  | _ => none

def addsBearer (r : RrcReconfiguration) : Bool :=
  match r.drbToAddModList with
  | none => false
  | some drbs => drbs.toList.any fun drb => drb.cnAssociation.any fun sdap =>
      sdap.pduSession = ue.session.pduSessionIdentity

/-- TS 33.501, 6.7.4: a bearer is set up only under RRC security. -/
def answerReconfiguration (st : UeState) (r : RrcReconfiguration) :
    Option (UeState × Bytes) :=
  match st.rrcKey, r.dedicatedNasMessageList with
  | some _, some ⟨nasBytes, []⟩ =>
      match ue.readNas nasBytes with
      | some (Nas5gsMessage.securityProtected _ _ seq
          (Nas5gsMessage.gmm (Nas5gmmMessage.dlNasTransport payload))) => do
          let st' <- st.acceptNas c seq nasBytes
          let address <- ue.acceptedAddress payload
          if ue.addsBearer r then
            ue.sendRrc c { st' with pduAddress := some address }
              UlDcchMessage.rrcReconfigurationComplete
          else
            none
      | _ => none
  | _, _ => none

def answerRrc (st : UeState) (pdu : Bytes) :
    DlRrcMessage -> Option (UeState × Bytes)
  | DlRrcMessage.dlInformationTransfer _ nasBytes =>
      ue.answerNas c st.pdcpCounted nasBytes
  | DlRrcMessage.securityModeCommand _ =>
      ue.answerRrcSecurityModeCommand c st pdu
  | DlRrcMessage.rrcReconfiguration r =>
      ue.answerReconfiguration c st.pdcpCounted r
  | DlRrcMessage.rrcSetup _ _ => none

def answerSrb1 (st : UeState) (pdu : Bytes) : Option (UeState × Bytes) :=
  if st.PdcpAccepts c pdu then
    (ue.readRrc ((pdu.drop 2).take (pdu.length - 6))).bind
      (ue.answerRrc c st pdu)
  else
    none

def answerCcch (st : UeState) (bytes : Bytes) : Option (UeState × Bytes) :=
  match ue.readRrc bytes with
  | some (DlRrcMessage.rrcSetup _ _) => ue.setupComplete c st
  | _ => none

def answer (st : UeState) (transfer : DlRrcMessageTransfer) :
    Option (UeState × Bytes) :=
  if transfer.srbId = 0 then
    ue.answerCcch c st transfer.rrcContainer
  else if transfer.srbId = 1 then
    ue.answerSrb1 c st transfer.rrcContainer
  else
    none

/-- The UE behind a DU, which answers to the task that sent the transfer. -/
def peer : Peer UeState DlRrcMessageTransfer F1apPdu where
  answer st transfer :=
    (ue.answer c st transfer).map fun (st', pdu) =>
      (st', uplink transfer.gnbCuUeF1apId pdu)

end StandardUe

end Ue
end QCore
