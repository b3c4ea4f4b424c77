import QCore.Ue.Attachment
import QCore.Ue.BearerAgreement

/-!
# A standard UE gets its session

Session establishment in conversation with a standard UE, from any state in
which the UE is registered and under RRC security.  The UE is told the address
that was reserved for it, and both sides stay in step, so the result applies
again.
-/

namespace QCore
namespace Ue

open Foundation
open F1ap
open Nas
open Rrc
open Security
open Userplane

variable {api : HandlerApi} {ue : StandardUe} {st : UeState} {s : Task}

/-!
## What it takes
-/

def CarriedBySetup (api : HandlerApi) (session : Nas5gsmHeader)
    (cellGroupConfig nasBytes : Bytes) : Prop :=
  exists rrcBytes, api.rrcCodec.encode
    (DlRrcMessage.rrcReconfiguration
      (reconfiguration 0 (some ⟨nasBytes, []⟩) cellGroupConfig
        session.pduSessionIdentity)) = some rrcBytes

/-- The user plane and the DU serve the session of the UE, and the codecs encode
its accept. -/
structure ServesSession (api : HandlerApi) (ue : StandardUe)
    (cellGroupConfig : Bytes) : Prop where
  reserve : forall log, exists info nas,
    api.reserveUserplaneSession log = Except.ok info ∧
    pduSessionEstablishmentAccept api.nasCodec
      (SessionEstablishmentProcedure.sessionOf api ue.session ue.dnn info)
      ue.session.procedureTransactionIdentity = Outcome.ok nas ∧
    forall seq, Protects api (CarriedBySetup api ue.session cellGroupConfig)
      Nas5gsSecurityHeaderType.integrityProtectedAndCiphered seq nas
  setup : forall log request, exists response tunnel,
    api.ueContextSetup log request = Except.ok response ∧
      checkUeContextSetupResponse response = some (cellGroupConfig, tunnel)
  commit : forall log info tunnel,
    api.commitUserplaneSession log info tunnel = Except.ok ()

structure SpeaksSession (ue : StandardUe) : Prop where
  request : exists payload,
    ue.writeNas (Nas5gsMessage.gsm ue.session
      Nas5gsmMessage.pduSessionEstablishmentRequest) = some payload ∧
    ue.CanSay (Nas5gmmMessage.ulNasTransport payload ue.dnn)
  reconfigurationComplete : exists bytes,
    ue.writeRrc UlDcchMessage.rrcReconfigurationComplete = some bytes

/-- The UE has the address of a session that was reserved for it, which the
task keeps with the sessions it had; both have counted one more message. -/
structure SessionGiven (api : HandlerApi) (ue : StandardUe) (st : UeState)
    (s : Task) (b : UeState) (t : Task) : Prop where
  inStep : InStep b t.ue
  session : exists info ip,
    api.reserveUserplaneSession s.log = Except.ok info ∧
    info.ueIpAddr = IpAddr.v4 ip ∧
    t.ue.pduSessions = s.ue.pduSessions ++
      [SessionEstablishmentProcedure.sessionOf api ue.session ue.dnn info] ∧
    b = { st.pdcpCounted with
      nasCount := (st.nasCount + 1) % 0x1000000
      pduAddress := some (0b001 :: ip.octets.toList) }.saidRrc

/-!
## The steps
-/

theorem callService_succeeds {ε α : Type}
    {P : Peer UeState DlRrcMessageTransfer F1apPdu}
    {service : List UeEvent -> Except ε α} {event : Except ε α -> UeEvent}
    {wrap : ε -> UeError} {x : α} (hservice : service s.log = Except.ok x)
    (hevent : (event (Except.ok x)).transfer = none) :
    Succeeds taskLine P (callService service event wrap) st s
      fun y b t => y = x ∧ b = st ∧ t.ue = s.ue := by
  apply Succeeds.get (fun _ => rfl)
  rw [hservice]
  apply Succeeds.modify_bind (fun _ => rfl)
  · rw [sent_record, hevent]
    exact List.append_nil _
  · exact Succeeds.lift rfl ⟨rfl, rfl, rfl⟩

namespace SessionEstablishmentProcedure

theorem performF1UeContextSetup_succeeds
    {P : Peer UeState DlRrcMessageTransfer F1apPdu} {cellGroupConfig : Bytes}
    (h : forall log request, exists response tunnel,
      api.ueContextSetup log request = Except.ok response ∧
        checkUeContextSetupResponse response = some (cellGroupConfig, tunnel))
    (session : PduSession) :
    Succeeds taskLine P (performF1UeContextSetup api session) st s
      fun y b t => exists tunnel, y = (cellGroupConfig, tunnel) ∧ b = st ∧
        t.ue = s.ue := by
  rcases h s.log (ueContextSetupRequest s.ue
    (TransportLayerAddress.fromIpAddr api.config.ipAddr) session) with
    ⟨response, tunnel, hresponse, hcheck⟩
  apply Succeeds.get (fun _ => rfl)
  apply Succeeds.bind (callService_succeeds hresponse rfl)
  rintro y b t ⟨rfl, rfl, ht⟩
  exact Succeeds.lift (Outcome.ofOption_eq_ok.mpr hcheck)
    ⟨tunnel, rfl, rfl, ht⟩

theorem addsBearer_reconfiguration (nasMessages : Option (NonEmpty Bytes))
    (cellGroupConfig : Bytes) :
    ue.addsBearer (reconfiguration 0 nasMessages cellGroupConfig
      ue.session.pduSessionIdentity) = true := by
  simp [StandardUe.addsBearer, reconfiguration, NonEmpty.toList]

theorem answerReconfiguration_accepted (hcompat : Compatible api ue)
    {bytes innerMessage cellGroupConfig pdu : Bytes}
    {accept : NasPduSessionEstablishmentAccept}
    {headerType : Nas5gsSecurityHeaderType} {mac : UInt32} {seq : UInt8}
    {rrcKey : Key128} {st' st'' : UeState}
    (haccept : st.acceptNas api.crypto seq bytes = some st')
    (hrrc : st.rrcKey = some rrcKey)
    (hread : ue.readNas bytes = some (Nas5gsMessage.securityProtected headerType
      mac seq (Nas5gsMessage.gmm (Nas5gmmMessage.dlNasTransport innerMessage))))
    (hencode : api.nasCodec.encode (Nas5gsMessage.gsm ue.session
      (Nas5gsmMessage.pduSessionEstablishmentAccept accept)) =
        some innerMessage)
    (hpdu : ue.sendRrc api.crypto
      { st' with pduAddress := some accept.pduAddress }
      UlDcchMessage.rrcReconfigurationComplete = some (st'', pdu)) :
    ue.answerReconfiguration api.crypto st
        (reconfiguration 0 (some ⟨bytes, []⟩) cellGroupConfig
          ue.session.pduSessionIdentity) = some (st'', pdu) := by
  have haddress : ue.acceptedAddress innerMessage = some accept.pduAddress := by
    unfold StandardUe.acceptedAddress
    rw [hcompat.readNas _ _ hencode]
    exact if_pos rfl
  unfold StandardUe.answerReconfiguration
  rw [addsBearer_reconfiguration]
  simp only [hrrc, reconfiguration, hread, haccept, haddress,
    Option.bind_eq_bind, Option.bind_some, ↓reduceIte]
  exact hpdu

theorem run_succeeds (hcompat : Compatible api ue) (hspeaks : SpeaksSession ue)
    {cellGroupConfig : Bytes} {nasKey rrcKey : Key128}
    (hserves : ServesSession api ue cellGroupConfig) (hstep : InStep st s.ue)
    (hnas : st.nasKey = some nasKey) (hrrc : st.rrcKey = some rrcKey)
    (hnasCount : st.nasCount ≠ 0) (hcount : st.pdcpCount ≠ 0xffffffff) :
    Succeeds taskLine (ue.peer api.crypto) (run api ue.session ue.dnn) st s
      fun _ b t => SessionGiven api ue st s b t := by
  rcases hserves.reserve s.log with ⟨info, nas, hreserve, haccept, hprotects⟩
  rcases pduSessionEstablishmentAccept_built haccept with
    ⟨accept, innerMessage, ip, hip, rfl, hencode, _, hgives⟩
  have hheader : SecurityContext.headerType ⟨nasKey, st.nasCount⟩ =
      Nas5gsSecurityHeaderType.integrityProtectedAndCiphered := if_neg hnasCount
  rcases encode_protected hcompat hheader (hprotects _) with
    ⟨bytes, mac, hencoded, ⟨rrcBytes, hcarried⟩, hverifies, hread⟩
  have hcontext := hstep.nas_secured hnas
  let counted : UeState :=
    { st.pdcpCounted with nasCount := (st.nasCount + 1) % 0x1000000 }
  let given : UeState := { counted with pduAddress := some accept.pduAddress }
  have haccepted : st.pdcpCounted.acceptNas api.crypto
      (UInt8.ofNat st.nasCount.toNat) bytes = some counted :=
    acceptNas_verified hnas hverifies
  rcases hspeaks.reconfigurationComplete with ⟨complete, hcomplete⟩
  rcases sendRrc_carried hcompat hcomplete given with ⟨pdu, hpdu, hcarries⟩
  have hanswer : ue.answerReconfiguration api.crypto st.pdcpCounted
      (reconfiguration 0 (some ⟨bytes, []⟩) cellGroupConfig
        ue.session.pduSessionIdentity) = some (given.saidRrc, pdu) :=
    answerReconfiguration_accepted hcompat haccepted hrrc hread hencode hpdu
  apply Succeeds.bind (callService_succeeds hreserve rfl)
  rintro x b t ⟨rfl, rfl, ht⟩
  apply Succeeds.bind (performF1UeContextSetup_succeeds hserves.setup _)
  rintro x1 b1 t1 ⟨tunnel, rfl, rfl, ht1⟩
  apply Succeeds.lift_bind haccept
  -- The accept is protected before the commit, and goes out after it.
  rw [← hcontext, ← ht, ← ht1] at hencoded
  apply Succeeds.bind (encodeNas_succeeds hencoded)
  rintro x2 b2 t2 ⟨rfl, rfl, ht2⟩
  apply Succeeds.bind (callService_succeeds (hserves.commit _ _ _) rfl)
  rintro _ b3 t3 ⟨-, rfl, ht3⟩
  have hue : t3.ue = { s.ue with
      nas := ⟨some ⟨nasKey, (b3.nasCount + 1) % 0x1000000⟩⟩ } := by
    rw [ht3, ht2, ht1, ht]
  apply Succeeds.modify_bind (fun _ => rfl) rfl
  have hpdcp : t3.ue.pdcpTx = s.ue.pdcpTx := by rw [hue]
  have hcovers : Covers b3 t3.ue.pdcpTx := by
    rw [hpdcp]
    exact hstep.covers
  apply Succeeds.bind (srb1Request_succeeds (s := pushSession _ t3) hcompat
    hcarried hcovers hcount hanswer (hcarries _))
  rintro _ b4 t4 ⟨rfl, rfl, ht4⟩
  apply Succeeds.lift rfl
  constructor
  · constructor
    · rw [ht4]
      change t3.ue.nas = NasContext.mk (Option.map _ b3.nasKey)
      rw [hue, hnas]
      rfl
    · rw [ht4]
      change t3.ue.pdcpTx.counted = _
      rw [hpdcp]
      exact hstep.pdcp_counted
  · refine ⟨x, ip, hreserve, hip, ?_, ?_⟩
    · rw [ht4]
      change t3.ue.pduSessions ++ _ = _
      rw [hue]
      rfl
    · rw [← hgives.address]

end SessionEstablishmentProcedure

/-!
## The request of the UE
-/

theorem handlePdu_uplinkNas {P : Peer UeState DlRrcMessageTransfer F1apPdu}
    {pdu : F1apPdu} {message : Nas5gmmMessage}
    {Q : Unit -> UeState -> Task -> Prop}
    (hcarries : CarriesUplinkNas api pdu message)
    (h : forall bytes, decodeNas api
        (patchNasForOaiDeregistrationSecurityHeader bytes) =
          Outcome.ok (Nas5gsMessage.gmm message) ->
      Succeeds taskLine P (uplinkNas api bytes) st s Q) :
    Succeeds taskLine P (UeMessageHandler.handlePdu api pdu) st s Q := by
  rcases hcarries with ⟨bytes, hrrc, hnas⟩
  cases pdu with
  | ulRrcMessageTransfer r =>
      apply Succeeds.lift_bind hrrc
      exact h bytes hnas
  | _ => cases hrrc

theorem askSession_succeeds (hcompat : Compatible api ue)
    (hspeaks : SpeaksSession ue) {cellGroupConfig : Bytes}
    {nasKey rrcKey : Key128}
    (hserves : ServesSession api ue cellGroupConfig)
    (hnas : st.nasKey = some nasKey) (hrrc : st.rrcKey = some rrcKey)
    (hnasCount : st.nasCount ≠ 0) (hcount : st.pdcpCount ≠ 0xffffffff)
    (ueId : GnbCuUeF1apId) :
    exists pdu, ue.askSession api.crypto st = some (st.saidNas, pdu) ∧
      forall s : Task, InStep st s.ue ->
        Succeeds taskLine (ue.peer api.crypto)
          (UeMessageHandler.handlePdu api (uplink ueId pdu)) st.saidNas s
          fun _ b t => SessionGiven api ue st.saidNas s b t := by
  rcases hspeaks.request with ⟨payload, hpayload, hcan⟩
  rcases sendNas_carried hcompat hcan st
    Nas5gsSecurityHeaderType.integrityProtectedAndCiphered with
    ⟨pdu, hpdu, hcarries⟩
  refine ⟨pdu, ?_, ?_⟩
  · unfold StandardUe.askSession
    rw [hpayload]
    exact hpdu
  · intro s hstep
    rcases st.saidNas_downlink with ⟨_, hnas', hnasCount', hrrc', hcount'⟩
    rw [← hnas'] at hnas
    rw [← hrrc'] at hrrc
    rw [← hnasCount'] at hnasCount
    rw [← hcount'] at hcount
    apply handlePdu_uplinkNas ((hcarries ueId).right nasKey (hnas'.symm.trans hnas))
    intro bytes hdecode
    apply Succeeds.lift_bind hdecode
    apply Succeeds.lift_bind
      (Outcome.ofOption_eq_ok.mpr (hcompat.decodeNas _ _ hpayload))
    exact SessionEstablishmentProcedure.run_succeeds hcompat hspeaks hserves
      hstep.saidNas hnas hrrc hnasCount hcount

end Ue
end QCore
