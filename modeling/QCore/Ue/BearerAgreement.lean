import QCore.Ue.ForwardingState

/-!
# What DU and UE are told about a bearer

`SessionEstablishmentProcedure::run` describes the bearer of a session three
times: to the DU in a UE context setup request, to the UE in an RRC
reconfiguration, and to the UE again in the NAS accept inside it.  The session
object goes into the first of them with its QoS flow, while the other two have a
QoS flow of their own.  Everything else that they share agrees.
-/

namespace QCore
namespace Ue

open Foundation
open Foundation.Cmd
open F1ap
open Nas
open Rrc
open Security
open Userplane

/-!
## What a message says
-/

/-- A data radio bearer, as one of the parties is told about it. -/
structure Bearer where
  pduSessionId : UInt8
  drbId : UInt8
  qosFlows : List UInt8
  dlSnBits : Option Nat
  ulSnBits : Option Nat
deriving DecidableEq, Repr

def listed {α : Type} : Option (NonEmpty α) -> List α
  | none => []
  | some items => items.toList

def duBearer (item : DrbsToBeSetupItem) : Bearer where
  pduSessionId := item.pduSessionId
  drbId := item.drbId
  qosFlows := [item.qosFlowIdentifier]
  dlSnBits := item.dlPdcpSnLength.map PdcpSnLength.bits
  ulSnBits := item.ulPdcpSnLength.map PdcpSnLength.bits

def duBearers (request : UeContextSetupRequest) : List Bearer :=
  (listed request.drbsToBeSetupList).map duBearer

/-- A bearer without an SDAP configuration belongs to no session. -/
def ueBearer (drb : DrbToAddMod) : Option Bearer :=
  drb.cnAssociation.map fun sdap =>
    { pduSessionId := sdap.pduSession
      drbId := drb.drbIdentity
      qosFlows := listed sdap.mappedQosFlowsToAdd
      dlSnBits := drb.pdcpConfig.bind fun config =>
        config.pdcpSnSizeDl.map PdcpSnSize.bits
      ulSnBits := drb.pdcpConfig.bind fun config =>
        config.pdcpSnSizeUl.map PdcpSnSize.bits }

def ueBearers : DlRrcMessage -> List Bearer
  | DlRrcMessage.rrcReconfiguration r =>
      (listed r.drbToAddModList).filterMap ueBearer
  | _ => []

/-- The QoS flow of a list of one QoS rule: an identifier, the length of the
rule and the rule, which ends with the flow in six bits. -/
def qosRuleFlow : Bytes -> Option UInt8
  | _ :: high :: low :: rule =>
      if rule.length = high.toNat * 256 + low.toNat then
        rule.getLast?.map (· &&& 0x3f)
      else
        none
  | _ => none

structure GivesAddress (accept : NasPduSessionEstablishmentAccept)
    (ip : Ipv4Addr) : Prop where
  sessionType : accept.selectedPduSessionType = 0b001
  address : accept.pduAddress = 0b001 :: ip.octets.toList

def CommitsAddress (session : UserplaneSession) (tunnel : GtpTunnel)
    (ip : Ipv4Addr) : Prop :=
  forall p p',
    PacketProcessor.commitUserplaneSession session tunnel p =
        (Outcome.ok (), p') ->
      exists rule,
        p'.downlinkForwardingTable.lookup (downlinkTableIndexFromIp ip) =
            some rule ∧
          rule.ueIpAddr = IpAddr.v4 ip

structure SameBearer (api : HandlerApi) (request : UeContextSetupRequest)
    (rrc : DlRrcMessage) (nas : Nas5gsMessage) (bytes : Bytes)
    (session : UserplaneSession) (tunnel : GtpTunnel) (bearer : Bearer) :
    Prop where
  du : duBearers request = [bearer]
  ue : ueBearers rrc = [bearer]
  carried : bytes ∈ rrc.nasMessages
  accept : exists header accept innerMessage ip,
    nas = Nas5gsMessage.gmm (Nas5gmmMessage.dlNasTransport innerMessage) ∧
      api.nasCodec.encode (Nas5gsMessage.gsm header
        (Nas5gsmMessage.pduSessionEstablishmentAccept accept)) =
          some innerMessage ∧
      header.pduSessionIdentity = bearer.pduSessionId ∧
      (qosRuleFlow accept.authorizedQosRules).toList = bearer.qosFlows ∧
      GivesAddress accept ip ∧ CommitsAddress session tunnel ip

/-- Whatever request, accept, commit and reconfiguration are among the events,
they are about the same bearer. -/
def ToldSameBearer (api : HandlerApi) (events : List UeEvent) : Prop :=
  forall request answer nas bytes session tunnel result transfer rrc,
    UeEvent.ueContextSetup request answer ∈ events ->
    UeEvent.encodedNas nas bytes ∈ events ->
    UeEvent.commit session tunnel result ∈ events ->
    UeEvent.dlRrcMessageTransfer transfer rrc ∈ events ->
      exists bearer,
        SameBearer api request rrc nas bytes session tunnel bearer

/-!
## The builders
-/

theorem duBearers_request (ue : UeContext)
    (transportLayerAddress : TransportLayerAddress) (session : PduSession) :
    duBearers (ueContextSetupRequest ue transportLayerAddress session) =
      [⟨session.id, 1, [session.userplaneInfo.qfi], some 12, some 12⟩] := rfl

theorem ueBearers_reconfiguration (rrcTransactionIdentifier : UInt8)
    (nasMessages : Option (NonEmpty Bytes)) (cellGroupConfig : Bytes)
    (sessionId : UInt8) :
    ueBearers (DlRrcMessage.rrcReconfiguration
        (reconfiguration rrcTransactionIdentifier nasMessages cellGroupConfig
          sessionId)) =
      [⟨sessionId, 1, [1], some 12, some 12⟩] := rfl

theorem pduSessionEstablishmentAccept_built {codec : NasCodec}
    {session : PduSession} {pti : UInt8} {nas : Nas5gsMessage}
    (h : pduSessionEstablishmentAccept codec session pti = Outcome.ok nas) :
    exists accept innerMessage ip,
      session.userplaneInfo.ueIpAddr = IpAddr.v4 ip ∧
      nas = Nas5gsMessage.gmm (Nas5gmmMessage.dlNasTransport innerMessage) ∧
      codec.encode (Nas5gsMessage.gsm ⟨session.id, pti⟩
        (Nas5gsmMessage.pduSessionEstablishmentAccept accept)) =
          some innerMessage ∧
      qosRuleFlow accept.authorizedQosRules = some 1 ∧
      GivesAddress accept ip := by
  unfold pduSessionEstablishmentAccept at h
  cases haddr : session.userplaneInfo.ueIpAddr with
  | v6 addr =>
      rw [haddr] at h
      cases h
  | v4 ip =>
      rw [haddr] at h
      rcases Outcome.bind_eq_ok.mp h with ⟨innerMessage, hencode, hpure⟩
      cases hpure
      have hinner := Outcome.ofOption_eq_ok.mp hencode
      refine ⟨_, innerMessage, ip, rfl, rfl, hinner, ?_, ?_⟩
      · change qosRuleFlow [0x01, 0x00, 0x06, 0x31, 0x3f, 0x01, 0x01, 0xff, 0x01] =
          some 1
        decide
      · exact ⟨rfl, rfl⟩

theorem commitsAddress_of_v4 {session : UserplaneSession} {ip : Ipv4Addr}
    (haddr : session.ueIpAddr = IpAddr.v4 ip) (tunnel : GtpTunnel) :
    CommitsAddress session tunnel ip := by
  intro p p' hcommit
  by_cases hlt : downlinkTableIndexFromIp ip < maxUes
  · rw [PacketProcessor.commit_of_lt p tunnel haddr hlt] at hcommit
    cases hcommit
    exact ⟨_, SlotTable.lookup_set_self _ _ hlt, rfl⟩
  · -- The write would have panicked.
    simp [PacketProcessor.commitUserplaneSession, haddr, Cmd.bind_run,
      DownlinkForwardingTable.addRule, SlotTable.write, hlt] at hcommit

/-!
## One run of the procedure
-/

namespace SessionEstablishmentProcedure

variable (api : HandlerApi) (hdr : Nas5gsmHeader) (dnn : Option Bytes)

def NoTransfer (events : List UeEvent) : Prop :=
  forall transfer rrc, UeEvent.dlRrcMessageTransfer transfer rrc ∉ events

/-- The events of a run: it ends before it sends the reconfiguration, or has
been through all steps up to it and waits for one PDU. -/
inductive Course : List UeEvent -> Prop where
  | stopped {events : List UeEvent} : NoTransfer events -> Course events
  | reconfigured {userplaneInfo : UserplaneSession} {ue : UeContext}
      {response : UeContextSetupResponse} {cellGroupConfig : Bytes}
      {tunnel : GtpTunnel} {nas : Nas5gsMessage} {bytes : Bytes}
      {transfer : DlRrcMessageTransfer} {rest : List UeEvent} :
      pduSessionEstablishmentAccept api.nasCodec
          (sessionOf api hdr dnn userplaneInfo)
          hdr.procedureTransactionIdentity = Outcome.ok nas ->
      (forall event, event ∈ rest -> exists pdu,
        event = UeEvent.received pdu) ->
      Course
        ([UeEvent.reserve (Except.ok userplaneInfo),
          UeEvent.ueContextSetup
            (ueContextSetupRequest ue
              (TransportLayerAddress.fromIpAddr api.config.ipAddr)
              (sessionOf api hdr dnn userplaneInfo))
            (Except.ok response),
          UeEvent.encodedNas nas bytes,
          UeEvent.commit userplaneInfo tunnel (Except.ok ()),
          UeEvent.dlRrcMessageTransfer transfer
            (DlRrcMessage.rrcReconfiguration
              (reconfiguration 0 (some ⟨bytes, []⟩) cellGroupConfig
                hdr.pduSessionIdentity))] ++ rest)

def events (s : Task) : List UeEvent :=
  (run api hdr dnn s).2.log.drop s.log.length

variable {api hdr dnn}

def Logged (base events : List UeEvent) (s : Task) : Prop :=
  s.log = base ++ events

def Ran (api : HandlerApi) (hdr : Nas5gsmHeader) (dnn : Option Bytes)
    (base : List UeEvent) (s : Task) : Prop :=
  exists events, Logged base events s ∧ Course api hdr dnn events

theorem Logged.record {base events : List UeEvent} {s : Task}
    (h : Logged base events s) (event : UeEvent) :
    Logged base (events ++ [event]) (s.record event) := by
  unfold Logged Task.record
  rw [h, List.append_assoc]

theorem Logged.stopped {base events : List UeEvent} {s : Task}
    (h : Logged base events s) (hquiet : NoTransfer events) :
    Ran api hdr dnn base s :=
  ⟨events, h, Course.stopped hquiet⟩

theorem noTransfer_concat {events : List UeEvent} {event : UeEvent}
    (h : NoTransfer events)
    (hevent : forall transfer rrc,
      event ≠ UeEvent.dlRrcMessageTransfer transfer rrc) :
    NoTransfer (events ++ [event]) := by
  intro transfer rrc hmem
  rcases List.mem_append.mp hmem with hbefore | hlast
  · exact h transfer rrc hbefore
  · exact hevent transfer rrc (List.mem_singleton.mp hlast).symm

theorem callService_logged {ε α : Type} {service : List UeEvent -> Except ε α}
    {event : Except ε α -> UeEvent} {wrap : ε -> UeError}
    {base events : List UeEvent} (hquiet : NoTransfer events)
    (hevent : forall answer transfer rrc,
      event answer ≠ UeEvent.dlRrcMessageTransfer transfer rrc) :
    Triple (Logged base events) (callService service event wrap)
      (fun a => Logged base (events ++ [event (Except.ok a)]))
      (Ran api hdr dnn base) := by
  apply triple_callService
  · intro s a hs
    exact hs.record _
  · intro s e hs
    exact (hs.record _).stopped
      (noTransfer_concat hquiet (hevent (Except.error e)))

theorem encodeNas_logged {nas : Nas5gsMessage} {base events : List UeEvent}
    (hquiet : NoTransfer events) :
    Triple (Logged base events) (encodeNas api nas)
      (fun bytes => Logged base (events ++ [UeEvent.encodedNas nas bytes]))
      (Ran api hdr dnn base) := by
  intro s hs
  rcases encodeNas_cases nas s with ⟨bytes, n, _, hcase⟩ | ⟨e, hcase⟩ | hcase
  · rw [hcase]
    exact Logged.record (s := s.setNas n) hs _
  · rw [hcase]
    exact hs.stopped hquiet
  · rw [hcase]
    exact hs.stopped hquiet

theorem rrcRequest_logged {rrc : DlRrcMessage} {base events : List UeEvent}
    (hquiet : NoTransfer events)
    (hcourse : forall transfer rest,
      (forall event, event ∈ rest -> exists pdu,
        event = UeEvent.received pdu) ->
      Course api hdr dnn
        (events ++ UeEvent.dlRrcMessageTransfer transfer rrc :: rest)) :
    Triple (Logged base events) (rrcRequest api 1 rrc)
      (fun _ => Ran api hdr dnn base) (Ran api hdr dnn base) := by
  apply triple_bind (R := fun _ s => exists transfer,
    Logged base (events ++ [UeEvent.dlRrcMessageTransfer transfer rrc]) s)
  · intro s hs
    rcases sendRrc_cases api 1 rrc s with
      ⟨_, hcase⟩ | hcase | ⟨_, transfer, p, hcase⟩
    · rw [hcase]
      exact hs.stopped hquiet
    · rw [hcase]
      exact hs.stopped hquiet
    · rw [hcase]
      exact ⟨transfer, Logged.record (s := s.setPdcpTx p) hs _⟩
  · intro _
    apply triple_exists
    intro transfer
    apply triple_bind (R := fun _ => Ran api hdr dnn base)
    · intro s hs
      rcases recv_cases s with ⟨_, hcase⟩ | ⟨pdu, rest, _, hcase⟩
      · rw [hcase]
        refine ⟨_, hs, hcourse transfer [] ?_⟩
        intro event hmem
        cases hmem
      · rw [hcase]
        refine ⟨_, Logged.record (s := { s with inbox := rest }) hs _, ?_⟩
        rw [List.append_assoc]
        apply hcourse transfer [UeEvent.received pdu]
        intro event hmem
        exact ⟨pdu, List.mem_singleton.mp hmem⟩
    · exact fun _ => keeps_lift _

theorem performF1UeContextSetup_logged (session : PduSession)
    {base events : List UeEvent} (hquiet : NoTransfer events) :
    Triple (Logged base events) (performF1UeContextSetup api session)
      (fun _ s => exists ue response,
        Logged base
          (events ++ [UeEvent.ueContextSetup
            (ueContextSetupRequest ue
              (TransportLayerAddress.fromIpAddr api.config.ipAddr) session)
            (Except.ok response)]) s)
      (Ran api hdr dnn base) := by
  apply triple_bind (R := fun _ => Logged base events)
  · exact triple_get fun _ hs => hs
  intro s
  apply triple_bind (callService_logged hquiet (by simp))
  intro response
  apply triple_lift
  · intro setup t _ ht
    exact ⟨s.ue, response, ht⟩
  · intro t ht
    exact ht.stopped (noTransfer_concat hquiet (by simp))

theorem run_ran (base : List UeEvent) :
    Triple (Logged base []) (run api hdr dnn) (fun _ => Ran api hdr dnn base)
      (Ran api hdr dnn base) := by
  apply triple_bind (callService_logged (by simp [NoTransfer]) (by simp))
  intro userplaneInfo
  apply triple_bind (performF1UeContextSetup_logged
    (sessionOf api hdr dnn userplaneInfo) (by simp [NoTransfer]))
  intro setup
  apply triple_exists
  intro ue
  apply triple_exists
  intro response
  refine triple_bind (triple_lift (Q := fun nas s => _ ∧ Logged base _ s)
    (fun nas s hnas hs => ⟨hnas, hs⟩)
    (fun s hs => hs.stopped (by simp [NoTransfer]))) ?_
  intro nas s hs
  refine triple_bind (encodeNas_logged (by simp [NoTransfer])) ?_ s hs.right
  intro bytes
  apply triple_bind (callService_logged (by simp [NoTransfer]) (by simp))
  intro _
  refine triple_bind (triple_modify (Q := fun _ => Logged base _)
    fun _ ht => ht) ?_
  intro _
  refine triple_bind (rrcRequest_logged (by simp [NoTransfer]) ?_)
    fun _ => keeps_lift _
  intro transfer rest hrest
  exact Course.reconfigured hs.left hrest

theorem events_course (api : HandlerApi) (hdr : Nas5gsmHeader)
    (dnn : Option Bytes) (s : Task) :
    Course api hdr dnn (events api hdr dnn s) := by
  have hbase : Logged s.log [] s := (List.append_nil s.log).symm
  rcases (run_ran s.log).after hbase with ⟨added, hlog, hcourse⟩
  unfold events
  rw [hlog, List.drop_left]
  exact hcourse

/-!
## Agreement
-/

theorem mem_of_not_received {sent rest : List UeEvent} {event : UeEvent}
    (hrest : forall event, event ∈ rest -> exists pdu,
      event = UeEvent.received pdu)
    (hmem : event ∈ sent ++ rest)
    (hevent : forall pdu, event ≠ UeEvent.received pdu) : event ∈ sent := by
  rcases List.mem_append.mp hmem with hsent | hlater
  · exact hsent
  · rcases hrest event hlater with ⟨pdu, heq⟩
    exact absurd heq (hevent pdu)

theorem sameBearer_of_qfi {userplaneInfo : UserplaneSession}
    (hqfi : userplaneInfo.qfi = 1) {nas : Nas5gsMessage}
    (haccept : pduSessionEstablishmentAccept api.nasCodec
      (sessionOf api hdr dnn userplaneInfo)
      hdr.procedureTransactionIdentity = Outcome.ok nas)
    (ue : UeContext) (transportLayerAddress : TransportLayerAddress)
    (bytes cellGroupConfig : Bytes) (tunnel : GtpTunnel) :
    SameBearer api
      (ueContextSetupRequest ue transportLayerAddress
        (sessionOf api hdr dnn userplaneInfo))
      (DlRrcMessage.rrcReconfiguration
        (reconfiguration 0 (some ⟨bytes, []⟩) cellGroupConfig
          hdr.pduSessionIdentity))
      nas bytes userplaneInfo tunnel
      ⟨hdr.pduSessionIdentity, 1, [1], some 12, some 12⟩ := by
  rcases pduSessionEstablishmentAccept_built haccept with
    ⟨accept, innerMessage, ip, haddr, hnas, hencode, hflow, hgives⟩
  refine ⟨?_, ueBearers_reconfiguration _ _ _ _, List.mem_cons_self, ?_⟩
  · rw [duBearers_request, ← hqfi]
    rfl
  · refine ⟨_, accept, innerMessage, ip, hnas, hencode, rfl, ?_, hgives,
      commitsAddress_of_v4 haddr tunnel⟩
    rw [hflow]
    rfl

theorem qfi_of_sameBearer {userplaneInfo : UserplaneSession} {ue : UeContext}
    {transportLayerAddress : TransportLayerAddress} {nas : Nas5gsMessage}
    {bytes bytes' cellGroupConfig : Bytes} {session : UserplaneSession}
    {tunnel : GtpTunnel} {bearer : Bearer}
    (h : SameBearer api
      (ueContextSetupRequest ue transportLayerAddress
        (sessionOf api hdr dnn userplaneInfo))
      (DlRrcMessage.rrcReconfiguration
        (reconfiguration 0 (some ⟨bytes', []⟩) cellGroupConfig
          hdr.pduSessionIdentity))
      nas bytes session tunnel bearer) : userplaneInfo.qfi = 1 := by
  have hsame := h.du.trans h.ue.symm
  rw [duBearers_request, ueBearers_reconfiguration] at hsame
  have hflows := congrArg Bearer.qosFlows (List.head_eq_of_cons_eq hsame)
  exact List.head_eq_of_cons_eq hflows

theorem Course.agrees_iff {events : List UeEvent}
    (h : Course api hdr dnn events) :
    ToldSameBearer api events <->
      forall session transfer rrc,
        UeEvent.reserve (Except.ok session) ∈ events ->
        UeEvent.dlRrcMessageTransfer transfer rrc ∈ events ->
          session.qfi = 1 := by
  cases h with
  | stopped hquiet =>
      constructor
      · intro _ _ transfer rrc _ hsent
        exact absurd hsent (hquiet transfer rrc)
      · intro _ _ _ _ _ _ _ _ transfer rrc _ _ _ hsent
        exact absurd hsent (hquiet transfer rrc)
  | @reconfigured userplaneInfo ue response cellGroupConfig tunnel nas bytes
      transfer rest haccept hrest =>
      constructor
      · intro htold session _ _ hreserve _
        have hsession := mem_of_not_received hrest hreserve (by simp)
        simp only [List.mem_cons, UeEvent.reserve.injEq, Except.ok.injEq,
          reduceCtorEq, List.not_mem_nil, or_false] at hsession
        rw [hsession]
        rcases htold
          (ueContextSetupRequest ue
            (TransportLayerAddress.fromIpAddr api.config.ipAddr)
            (sessionOf api hdr dnn userplaneInfo))
          (Except.ok response) nas bytes userplaneInfo tunnel (Except.ok ())
          transfer
          (DlRrcMessage.rrcReconfiguration
            (reconfiguration 0 (some ⟨bytes, []⟩) cellGroupConfig
              hdr.pduSessionIdentity))
          (by simp) (by simp) (by simp) (by simp) with ⟨bearer, hbearer⟩
        exact qfi_of_sameBearer hbearer
      · intro hqfi request answer nas' bytes' session tunnel' result transfer'
          rrc hsetup hencoded hcommit hsent
        have hone : userplaneInfo.qfi = 1 :=
          hqfi userplaneInfo transfer' rrc (by simp) hsent
        have hsetup := mem_of_not_received hrest hsetup (by simp)
        have hencoded := mem_of_not_received hrest hencoded (by simp)
        have hcommit := mem_of_not_received hrest hcommit (by simp)
        have hsent := mem_of_not_received hrest hsent (by simp)
        simp only [List.mem_cons, UeEvent.ueContextSetup.injEq,
          UeEvent.encodedNas.injEq, UeEvent.commit.injEq,
          UeEvent.dlRrcMessageTransfer.injEq, reduceCtorEq, List.not_mem_nil,
          or_false, false_or] at hsetup hencoded hcommit hsent
        rw [hsetup.left, hencoded.left, hencoded.right, hcommit.left,
          hsent.right]
        exact ⟨_, sameBearer_of_qfi hone haccept ue _ bytes cellGroupConfig
          tunnel'⟩

/-- The sessions that `reserve_userplane_session` returns have QoS flow 0, so
every run that gets to the reconfiguration tells two bearers. -/
theorem Course.disagrees {events : List UeEvent}
    (h : Course api hdr dnn events) {subnet : Ipv4Addr}
    {session : UserplaneSession} (hreserved : session.Reserved subnet)
    (hreserve : UeEvent.reserve (Except.ok session) ∈ events)
    {transfer : DlRrcMessageTransfer} {rrc : DlRrcMessage}
    (hsent : UeEvent.dlRrcMessageTransfer transfer rrc ∈ events) :
    ¬ ToldSameBearer api events := by
  rw [h.agrees_iff]
  intro hqfi
  have hone := hqfi session transfer rrc hreserve hsent
  rcases hreserved with ⟨rnd, idx, heq, _⟩
  rw [heq] at hone
  cases hone

end SessionEstablishmentProcedure

open SessionEstablishmentProcedure in
/-- In one run of the session establishment procedure, for every task, session
id, DNN, transaction id and answer of the userplane, what the DU and the UE are
told agrees exactly when the QoS flow of the reserved session is 1, or the run
ends before the reconfiguration goes out. -/
theorem toldSameBearer_iff (api : HandlerApi) (hdr : Nas5gsmHeader)
    (dnn : Option Bytes) (s : Task) :
    ToldSameBearer api (events api hdr dnn s) <->
      forall session transfer rrc,
        UeEvent.reserve (Except.ok session) ∈ events api hdr dnn s ->
        UeEvent.dlRrcMessageTransfer transfer rrc ∈ events api hdr dnn s ->
          session.qfi = 1 :=
  (events_course api hdr dnn s).agrees_iff

/-- Session 1, for which the DU sets up a bearer with QoS flow 0 while the UE
uses it for QoS flow 1. -/
theorem not_toldSameBearer_acceptedSetup :
    UeEvent.reserve (Except.ok toySession) ∈
        SessionEstablishmentProcedure.events acceptingApi ⟨1, 1⟩ none
          (toyTask []) ∧
      ¬ ToldSameBearer acceptingApi
        (SessionEstablishmentProcedure.events acceptingApi ⟨1, 1⟩ none
          (toyTask [])) := by
  have hreserve : UeEvent.reserve (Except.ok toySession) ∈
      SessionEstablishmentProcedure.events acceptingApi ⟨1, 1⟩ none
        (toyTask []) := by
    decide +kernel
  have hany : (SessionEstablishmentProcedure.events acceptingApi ⟨1, 1⟩ none
      (toyTask [])).any (fun event => event.transfer.isSome) = true := by
    decide +kernel
  rcases List.any_eq_true.mp hany with ⟨event, hsent, hkind⟩
  have hreserved : toySession.Reserved Shared.smallSubnet :=
    ⟨_, 1, rfl, by decide, by decide⟩
  cases event with
  | dlRrcMessageTransfer transfer rrc =>
      exact ⟨hreserve,
        (SessionEstablishmentProcedure.events_course _ _ _ _).disagrees
          hreserved hreserve hsent⟩
  | _ => cases hkind

end Ue
end QCore
