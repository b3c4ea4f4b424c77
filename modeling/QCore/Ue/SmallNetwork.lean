import QCore.Foundation.F1uFormats
import QCore.Ue.Identity
import QCore.Ue.InitialAccess

/-!
# A small network

Codecs and algorithms with which the task of a UE can be run.  The codecs keep
the discriminators and the security header of NAS and tell all messages apart;
what the algorithms return depends on every octet they are given.
-/

namespace QCore
namespace Ue

open Foundation
open F1ap
open Nas
open Rrc
open Security
open Userplane

namespace Small

/-!
## Fields
-/

def field (bytes : Bytes) : Bytes :=
  List.replicate bytes.length 1 ++ 0 :: bytes

def takeField : Nat -> Bytes -> Option (Bytes × Bytes)
  | n, 1 :: rest => takeField (n + 1) rest
  | n, 0 :: rest => some (rest.take n, rest.drop n)
  | _, _ => none

def optional : Option Bytes -> Bytes
  | none => [0]
  | some bytes => 1 :: field bytes

def takeOptional : Bytes -> Option (Option Bytes × Bytes)
  | 0 :: rest => some (none, rest)
  | 1 :: rest => (takeField 0 rest).map fun (bytes, after) => (some bytes, after)
  | _ => none

def fields (items : List Bytes) : Bytes :=
  List.replicate items.length 1 ++ 0 :: items.flatMap field

def takeFields : Nat -> Bytes -> Option (List Bytes × Bytes)
  | 0, rest => some ([], rest)
  | n + 1, rest => do
      let (item, rest) <- takeField 0 rest
      let (items, rest) <- takeFields n rest
      some (item :: items, rest)

def countFields : Nat -> Bytes -> Option (List Bytes × Bytes)
  | n, 1 :: rest => countFields (n + 1) rest
  | n, 0 :: rest => takeFields n rest
  | _, _ => none

def vector? (n : Nat) (bytes : Bytes) : Option (Vector UInt8 n) :=
  if h : bytes.length = n then some ⟨bytes.toArray, h⟩ else none

theorem takeField_replicate (n k : Nat) (rest : Bytes) :
    takeField n (List.replicate k 1 ++ 0 :: rest) =
      some (rest.take (n + k), rest.drop (n + k)) := by
  induction k generalizing n with
  | zero => rfl
  | succ k ih =>
      change takeField (n + 1) (List.replicate k 1 ++ 0 :: rest) = _
      rw [ih, Nat.add_right_comm, Nat.add_assoc]

@[simp] theorem takeField_field (bytes rest : Bytes) :
    takeField 0 (field bytes ++ rest) = some (bytes, rest) := by
  unfold field
  rw [List.append_assoc, List.cons_append, takeField_replicate, Nat.zero_add,
    List.take_left, List.drop_left]

@[simp] theorem takeOptional_optional (bytes : Option Bytes) (rest : Bytes) :
    takeOptional (optional bytes ++ rest) = some (bytes, rest) := by
  cases bytes with
  | none => rfl
  | some bytes =>
      change (takeField 0 (field bytes ++ rest)).map _ = _
      rw [takeField_field]
      rfl

theorem takeFields_flatMap (items : List Bytes) (rest : Bytes) :
    takeFields items.length (items.flatMap field ++ rest) =
      some (items, rest) := by
  induction items with
  | nil => rfl
  | cons item items ih =>
      simp [takeFields, List.append_assoc, ih]

theorem countFields_replicate (n k : Nat) (rest : Bytes) :
    countFields n (List.replicate k 1 ++ 0 :: rest) =
      takeFields (n + k) rest := by
  induction k generalizing n with
  | zero => rfl
  | succ k ih =>
      change countFields (n + 1) (List.replicate k 1 ++ 0 :: rest) = _
      rw [ih, Nat.add_right_comm, Nat.add_assoc]

@[simp] theorem countFields_fields (items : List Bytes) (rest : Bytes) :
    countFields 0 (fields items ++ rest) = some (items, rest) := by
  unfold fields
  rw [List.append_assoc, List.cons_append, countFields_replicate, Nat.zero_add,
    takeFields_flatMap]

@[simp] theorem vector?_toList {n : Nat} (v : Vector UInt8 n) :
    vector? n v.toList = some v := by
  simp [vector?, Vector.toList]

/-!
## NAS
-/

def encodeGmm : Nas5gmmMessage -> Bytes
  | Nas5gmmMessage.registrationRequest r =>
      0x41 :: field r.fgsMobileIdentity ++ optional r.ueSecurityCapability
  | Nas5gmmMessage.registrationAccept r =>
      0x42 :: field r.fgsRegistrationResult ++ field r.fgGuti ++
        field r.allowedNssai
  | Nas5gmmMessage.registrationComplete => [0x43]
  | Nas5gmmMessage.deregistrationRequestFromUe => [0x45]
  | Nas5gmmMessage.authenticationRequest abba rand autn =>
      0x56 :: field abba ++ field rand.toList ++ field autn.toList
  | Nas5gmmMessage.authenticationResponse parameter =>
      0x57 :: optional parameter
  | Nas5gmmMessage.securityModeCommand r =>
      0x5d :: r.selectedNasSecurityAlgorithms ::
        field r.replayedUeSecurityCapabilities ++
          field r.additionalFgSecurityInformation
  | Nas5gmmMessage.securityModeComplete container => 0x5e :: optional container
  | Nas5gmmMessage.ulNasTransport payload dnn =>
      0x67 :: field payload ++ optional dnn
  | Nas5gmmMessage.dlNasTransport payload => 0x68 :: field payload
  | Nas5gmmMessage.other bytes => 0xff :: bytes

def decodeGmm : Bytes -> Option Nas5gmmMessage
  | 0x41 :: rest => do
      let (identity, rest) <- takeField 0 rest
      let (capability, _) <- takeOptional rest
      some (Nas5gmmMessage.registrationRequest ⟨identity, capability⟩)
  | 0x42 :: rest => do
      let (result, rest) <- takeField 0 rest
      let (guti, rest) <- takeField 0 rest
      let (nssai, _) <- takeField 0 rest
      some (Nas5gmmMessage.registrationAccept ⟨result, guti, nssai⟩)
  | 0x43 :: _ => some Nas5gmmMessage.registrationComplete
  | 0x45 :: _ => some Nas5gmmMessage.deregistrationRequestFromUe
  | 0x56 :: rest => do
      let (abba, rest) <- takeField 0 rest
      let (rand, rest) <- takeField 0 rest
      let (autn, _) <- takeField 0 rest
      let rand <- vector? 16 rand
      let autn <- vector? 16 autn
      some (Nas5gmmMessage.authenticationRequest abba rand autn)
  | 0x57 :: rest =>
      (takeOptional rest).map fun (parameter, _) =>
        Nas5gmmMessage.authenticationResponse parameter
  | 0x5d :: algorithms :: rest => do
      let (capabilities, rest) <- takeField 0 rest
      let (information, _) <- takeField 0 rest
      some (Nas5gmmMessage.securityModeCommand
        ⟨algorithms, capabilities, information⟩)
  | 0x5e :: rest =>
      (takeOptional rest).map fun (container, _) =>
        Nas5gmmMessage.securityModeComplete container
  | 0x67 :: rest => do
      let (payload, rest) <- takeField 0 rest
      let (dnn, _) <- takeOptional rest
      some (Nas5gmmMessage.ulNasTransport payload dnn)
  | 0x68 :: rest =>
      (takeField 0 rest).map fun (payload, _) =>
        Nas5gmmMessage.dlNasTransport payload
  | 0xff :: bytes => some (Nas5gmmMessage.other bytes)
  | _ => none

def encodeGsm : Nas5gsmMessage -> Bytes
  | Nas5gsmMessage.pduSessionEstablishmentRequest => [0xc1]
  | Nas5gsmMessage.pduSessionEstablishmentAccept r =>
      0xc2 :: r.selectedPduSessionType :: field r.authorizedQosRules ++
        field r.sessionAmbr ++ field r.pduAddress ++ field r.dnn
  | Nas5gsmMessage.other bytes => 0xff :: bytes

def decodeGsm : Bytes -> Option Nas5gsmMessage
  | 0xc1 :: _ => some Nas5gsmMessage.pduSessionEstablishmentRequest
  | 0xc2 :: sessionType :: rest => do
      let (rules, rest) <- takeField 0 rest
      let (ambr, rest) <- takeField 0 rest
      let (address, rest) <- takeField 0 rest
      let (dnn, _) <- takeField 0 rest
      some (Nas5gsmMessage.pduSessionEstablishmentAccept
        ⟨sessionType, rules, ambr, address, dnn⟩)
  | 0xff :: bytes => some (Nas5gsmMessage.other bytes)
  | _ => none

def headerType? : UInt8 -> Option Nas5gsSecurityHeaderType
  | 1 => some Nas5gsSecurityHeaderType.integrityProtected
  | 2 => some Nas5gsSecurityHeaderType.integrityProtectedAndCiphered
  | 3 => some Nas5gsSecurityHeaderType.integrityProtectedWithNewContext
  | 4 =>
      some Nas5gsSecurityHeaderType.integrityProtectedAndCipheredWithNewContext
  | _ => none

def readMac (octets : Bytes) : UInt32 :=
  UInt32.ofNat (F1u.number octets)

def encodeNas : Nas5gsMessage -> Bytes
  | Nas5gsMessage.gmm message => 0x7e :: 0 :: encodeGmm message
  | Nas5gsMessage.gsm header message =>
      0x2e :: header.pduSessionIdentity ::
        header.procedureTransactionIdentity :: encodeGsm message
  | Nas5gsMessage.securityProtected headerType mac seq body =>
      0x7e :: headerType.octet :: be32 mac ++ seq :: encodeNas body

def decodeNas : Bytes -> Option Nas5gsMessage
  | 0x7e :: 0 :: rest => (decodeGmm rest).map Nas5gsMessage.gmm
  | 0x2e :: session :: transaction :: rest =>
      (decodeGsm rest).map (Nas5gsMessage.gsm ⟨session, transaction⟩)
  | 0x7e :: octet :: m1 :: m2 :: m3 :: m4 :: seq :: rest => do
      let headerType <- headerType? octet
      let body <- decodeNas rest
      some (Nas5gsMessage.securityProtected headerType (readMac [m1, m2, m3, m4])
        seq body)
  | _ => none

theorem decodeGmm_encode (message : Nas5gmmMessage) :
    decodeGmm (encodeGmm message) = some message := by
  have hfield : forall bytes, takeField 0 (field bytes) = some (bytes, []) := by
    intro bytes
    rw [← takeField_field bytes [], List.append_nil]
  have hoptional : forall bytes,
      takeOptional (optional bytes) = some (bytes, []) := by
    intro bytes
    rw [← takeOptional_optional bytes [], List.append_nil]
  cases message with
  | _ => simp [encodeGmm, decodeGmm, hfield, hoptional]

theorem decodeGsm_encode (message : Nas5gsmMessage) :
    decodeGsm (encodeGsm message) = some message := by
  have hfield : forall bytes, takeField 0 (field bytes) = some (bytes, []) := by
    intro bytes
    rw [← takeField_field bytes [], List.append_nil]
  cases message with
  | _ => simp [encodeGsm, decodeGsm, hfield]

theorem readMac_be32 (mac : UInt32) : readMac (be32 mac) = mac := by
  have hlt := mac.toNat_lt
  apply UInt32.toNat_inj.mp
  simp [readMac, F1u.number, be32, Nat.shiftRight_eq_div_pow]
  lia

theorem decodeNas_protected (headerType : Nas5gsSecurityHeaderType)
    (m1 m2 m3 m4 seq : UInt8) (rest : Bytes) :
    decodeNas (0x7e :: headerType.octet :: m1 :: m2 :: m3 :: m4 :: seq ::
        rest) =
      (decodeNas rest).map (Nas5gsMessage.securityProtected headerType
        (readMac [m1, m2, m3, m4]) seq) := by
  cases headerType with
  | _ =>
      rw [decodeNas.eq_def]
      cases h : decodeNas rest with
      | none => simp [Nas5gsSecurityHeaderType.octet, headerType?, h]
      | some body => simp [Nas5gsSecurityHeaderType.octet, headerType?, h]

theorem decodeNas_encode (nas : Nas5gsMessage) :
    decodeNas (encodeNas nas) = some nas := by
  induction nas with
  | gmm message => simp [encodeNas, decodeNas, decodeGmm_encode]
  | gsm header message => simp [encodeNas, decodeNas, decodeGsm_encode]
  | securityProtected headerType mac seq body ih =>
      have hprotected := decodeNas_protected headerType (mac >>> 24).toUInt8
        (mac >>> 16).toUInt8 (mac >>> 8).toUInt8 mac.toUInt8 seq
        (encodeNas body)
      rw [ih] at hprotected
      refine hprotected.trans ?_
      have hmac := readMac_be32 mac
      unfold be32 at hmac
      rw [hmac]
      rfl

/-!
## RRC
-/

def sessionOf (r : RrcReconfiguration) : Option UInt8 := do
  let drbs <- r.drbToAddModList
  let sdap <- drbs.head.cnAssociation
  if r = reconfiguration r.rrcTransactionIdentifier r.dedicatedNasMessageList
      r.masterCellGroup sdap.pduSession then
    some sdap.pduSession
  else
    none

def encodeDl : DlRrcMessage -> Option Bytes
  | DlRrcMessage.rrcSetup id cellGroup => some (0 :: id :: cellGroup)
  | DlRrcMessage.securityModeCommand id => some [1, id]
  | DlRrcMessage.dlInformationTransfer id nas => some (2 :: id :: nas)
  | DlRrcMessage.rrcReconfiguration r => do
      let session <- sessionOf r
      match r.dedicatedNasMessageList with
      | none =>
          some (3 :: r.rrcTransactionIdentifier :: session :: r.masterCellGroup)
      | some list =>
          some (4 :: r.rrcTransactionIdentifier :: session ::
            field list.head ++ fields list.tail ++ r.masterCellGroup)

def decodeDl : Bytes -> Option DlRrcMessage
  | 0 :: id :: cellGroup => some (DlRrcMessage.rrcSetup id cellGroup)
  | [1, id] => some (DlRrcMessage.securityModeCommand id)
  | 2 :: id :: nas => some (DlRrcMessage.dlInformationTransfer id nas)
  | 3 :: id :: session :: cellGroup =>
      some (DlRrcMessage.rrcReconfiguration
        (reconfiguration id none cellGroup session))
  | 4 :: id :: session :: rest => do
      let (head, rest) <- takeField 0 rest
      let (tail, cellGroup) <- countFields 0 rest
      some (DlRrcMessage.rrcReconfiguration
        (reconfiguration id (some ⟨head, tail⟩) cellGroup session))
  | _ => none

theorem eq_of_sessionOf {r : RrcReconfiguration} {session : UInt8}
    (h : sessionOf r = some session) :
    r = reconfiguration r.rrcTransactionIdentifier r.dedicatedNasMessageList
      r.masterCellGroup session := by
  unfold sessionOf at h
  rcases Option.bind_eq_some_iff.mp h with ⟨drbs, _, hdrbs⟩
  rcases Option.bind_eq_some_iff.mp hdrbs with ⟨sdap, _, hsdap⟩
  split at hsdap
  next hbuilt =>
      cases hsdap
      exact hbuilt
  next => cases hsdap

theorem encodeDl_reconfiguration (id session : UInt8) (nas cellGroup : Bytes) :
    encodeDl (DlRrcMessage.rrcReconfiguration
        (reconfiguration id (some ⟨nas, []⟩) cellGroup session)) =
      some (4 :: id :: session :: field nas ++ fields [] ++ cellGroup) := by
  have hsession : sessionOf (reconfiguration id (some ⟨nas, []⟩) cellGroup
      session) = some session := if_pos rfl
  exact congrArg (Option.bind · _) hsession

theorem decodeDl_encode {rrc : DlRrcMessage} {bytes : Bytes}
    (h : encodeDl rrc = some bytes) : decodeDl bytes = some rrc := by
  cases rrc with
  | rrcSetup id cellGroup =>
      cases h
      rfl
  | securityModeCommand id =>
      cases h
      rfl
  | dlInformationTransfer id nas =>
      cases h
      rfl
  | rrcReconfiguration r =>
      rcases Option.bind_eq_some_iff.mp h with ⟨session, hsession, hbytes⟩
      have hbuilt := eq_of_sessionOf hsession
      cases hlist : r.dedicatedNasMessageList with
      | none =>
          rw [hlist] at hbytes hbuilt
          cases hbytes
          exact congrArg _ (congrArg _ hbuilt.symm)
      | some list =>
          rw [hlist] at hbytes hbuilt
          cases hbytes
          simp only [List.cons_append, decodeDl, List.append_assoc,
            takeField_field, countFields_fields, Option.bind_eq_bind,
            Option.bind_some]
          exact congrArg _ (congrArg _ hbuilt.symm)

def encodeUlDcch : UlDcchMessage -> Bytes
  | UlDcchMessage.rrcSetupComplete nas => 1 :: nas
  | UlDcchMessage.rrcReconfigurationComplete => [2]
  | UlDcchMessage.securityModeComplete => [3]
  | UlDcchMessage.securityModeFailure => [4]
  | UlDcchMessage.ulInformationTransfer none => [5]
  | UlDcchMessage.ulInformationTransfer (some nas) => 6 :: nas
  | UlDcchMessage.other bytes => 7 :: bytes

def decodeUlDcch : Bytes -> Option UlDcchMessage
  | 1 :: nas => some (UlDcchMessage.rrcSetupComplete nas)
  | [2] => some UlDcchMessage.rrcReconfigurationComplete
  | [3] => some UlDcchMessage.securityModeComplete
  | [4] => some UlDcchMessage.securityModeFailure
  | [5] => some (UlDcchMessage.ulInformationTransfer none)
  | 6 :: nas => some (UlDcchMessage.ulInformationTransfer (some nas))
  | 7 :: bytes => some (UlDcchMessage.other bytes)
  | _ => none

theorem decodeUlDcch_encode (rrc : UlDcchMessage) :
    decodeUlDcch (encodeUlDcch rrc) = some rrc := by
  cases rrc with
  | ulInformationTransfer nas =>
      cases nas with
      | _ => rfl
  | _ => rfl

def decodeUlCcch : Bytes -> Option UlCcchMessage
  | [0] => some UlCcchMessage.rrcSetupRequest
  | 1 :: bytes => some (UlCcchMessage.other bytes)
  | _ => none

/-!
## Algorithms
-/

def digest (n : Nat) (key message : Bytes) : Vector UInt8 n :=
  let h := (key ++ message).foldl
    (fun (h : UInt32) byte => 31 * h + byte.toUInt32) 1
  Vector.ofFn fun i =>
    (h >>> UInt32.ofNat (i.val % 4 * 8)).toUInt8 + UInt8.ofNat i.val

def crypto : Crypto where
  f1 k opc rand sqn amf := digest 8 (k.toList ++ opc.toList)
    (1 :: rand.toList ++ sqn.toList ++ amf.toList)
  f2345 k opc rand :=
    { res := digest 8 (k.toList ++ opc.toList) (2 :: rand.toList)
      ck := digest 16 (k.toList ++ opc.toList) (3 :: rand.toList)
      ik := digest 16 (k.toList ++ opc.toList) (4 :: rand.toList)
      ak := digest 6 (k.toList ++ opc.toList) (5 :: rand.toList) }
  hmacSha256 := digest 32
  aesCmac key := digest 16 key.toList

end Small

/-!
## The network
-/

def toySim : SimCreds :=
  ⟨Vector.ofFn fun i => UInt8.ofNat (i.val + 1),
    Vector.ofFn fun i => UInt8.ofNat (2 * i.val + 3)⟩

def toyMsin : List Digit :=
  List.replicate 9 twoDigitPlmn.mcc1 ++ [twoDigitPlmn.mcc3]

def toyImsi : Bytes :=
  digitsText (twoDigitPlmn.mcc ++ twoDigitPlmn.mnc.digits ++ toyMsin)

/-- A network with one subscriber and a DU that refuses to set up a session. -/
def toyApi : HandlerApi where
  config :=
    { ipAddr := IpAddr.v4 ⟨#v[127, 0, 0, 1]⟩
      plmn := twoDigitPlmn.code
      -- "5G:mnc001.mcc001.3gppnetwork.org"
      servingNetworkName :=
        [0x35, 0x47, 0x3a, 0x6d, 0x6e, 0x63, 0x30, 0x30, 0x31, 0x2e, 0x6d, 0x63,
          0x63, 0x30, 0x30, 0x31, 0x2e, 0x33, 0x67, 0x70, 0x70, 0x6e, 0x65,
          0x74, 0x77, 0x6f, 0x72, 0x6b, 0x2e, 0x6f, 0x72, 0x67]
      sst := 1
      skipUeAuthenticationCheck := false
      amfIds := #v[1, 1, 0] }
  lookupSim := fun imsi => if imsi = toyImsi then some toySim else none
  ueContextSetup := fun _ _ => Except.error RequestError.unsuccessfulOutcome
  ueContextRelease := fun _ _ => Except.ok ()
  reserveUserplaneSession := fun _ =>
    Except.ok ⟨0, #v[7, 7, 7, 1], IpAddr.v4 ⟨#v[10, 255, 0, 1]⟩⟩
  commitUserplaneSession := fun _ _ _ => Except.ok ()
  crypto := Small.crypto
  nasCodec :=
    { encode := fun nas => some (Small.encodeNas nas)
      decode := Small.decodeNas }
  rrcCodec :=
    { encode := Small.encodeDl
      decodeUlCcch := Small.decodeUlCcch
      decodeUlDcch := Small.decodeUlDcch }
  overflowChecks := true
  tmsi := #v[0xc0, 0, 0, 1]
  rand := fun log => Vector.ofFn fun i => UInt8.ofNat (log.length + i.val)

def toyIdentity : Bytes :=
  nullSchemeSuci twoDigitPlmn #v[0, 0] 0 toyMsin

def toyChallenge : Challenge :=
  InitialAccessProcedure.challengeFor toyApi toySim
    (Vector.ofFn fun i => UInt8.ofNat (3 + i.val))

def toyNas (message : Nas5gmmMessage) : UlDcchMessage :=
  UlDcchMessage.ulInformationTransfer
    (some (Small.encodeNas (Nas5gsMessage.gmm message)))

def toySessionRequest (session : UInt8) : UlDcchMessage :=
  toyNas (Nas5gmmMessage.ulNasTransport
    (Small.encodeNas (Nas5gsMessage.gsm ⟨session, 1⟩
      Nas5gsmMessage.pduSessionEstablishmentRequest)) none)

/-- The messages of a UE: 1 to 5 are those of an attach, but for the failure in
the place of the RRC security mode complete; 6 and 9 ask for a session, and 8
completes a reconfiguration. -/
def toyMessage : UInt8 -> UlDcchMessage
  | 1 => UlDcchMessage.rrcSetupComplete (Small.encodeNas (Nas5gsMessage.gmm
      (Nas5gmmMessage.registrationRequest ⟨toyIdentity, some [0xf0, 0xf0]⟩)))
  | 2 => toyNas (Nas5gmmMessage.authenticationResponse
      (some toyChallenge.xresStar.toList))
  | 3 => toyNas (Nas5gmmMessage.securityModeComplete none)
  | 4 => UlDcchMessage.securityModeFailure
  | 5 => toyNas Nas5gmmMessage.registrationComplete
  | 6 => toySessionRequest 1
  | 8 => UlDcchMessage.rrcReconfigurationComplete
  | 9 => toySessionRequest 2
  | _ => UlDcchMessage.other []

def toyPdu (message : UInt8) : F1apPdu :=
  F1apPdu.ulRrcMessageTransfer
    ⟨7, [0, 0] ++ Small.encodeUlDcch (toyMessage message) ++ [0, 0, 0, 0]⟩

def toyTransfer : InitialUlRrcMessageTransfer :=
  ⟨3, [], [0], some []⟩

def smallAttach : List F1apPdu :=
  F1apPdu.initialUlRrcMessageTransfer toyTransfer ::
    [1, 2, 3, 4, 5, 6].map toyPdu

def toyTask (inbox : List F1apPdu) : Task where
  ue := UeContext.new toyApi.tmsi 7 3 []
  inbox := inbox
  log := [UeEvent.received (F1apPdu.initialUlRrcMessageTransfer toyTransfer)]

end Ue
end QCore
