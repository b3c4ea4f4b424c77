import QCore.Ue.Procedures
import QCore.Ue.Requests

/-!
# Invariants of a UE task

A condition on the task is kept by all procedures once it is kept by the
requests they are made of, which `RequestsKeep` lists; each procedure then has
one lemma.  For a condition that does not relate the log to the counters it is
enough to look at the few things that change the task: receiving a PDU, the
counter of SRB1, encoding a NAS message, and the events that may be recorded.
`Upkeep` lists these.
-/

namespace QCore
namespace Ue

open Foundation
open Foundation.Cmd
open F1ap
open Nas
open Rrc
open Security
open Userplane

theorem triple_callService {ε α : Type} {service : List UeEvent -> Except ε α}
    {event : Except ε α -> UeEvent} {wrap : ε -> UeError} {P E : Task -> Prop}
    {Q : α -> Task -> Prop}
    (hok : forall s a, P s -> Q a (s.record (event (Except.ok a))))
    (herr : forall s e, P s -> E (s.record (event (Except.error e)))) :
    Triple P (callService service event wrap) Q E := by
  intro s hs
  unfold callService
  simp only [bind_run, get_run, modify_run, lift_run]
  cases service s.log with
  | error e => exact herr s e hs
  | ok a => exact hok s a hs

theorem pduSessionEstablishmentAccept_ok {codec : NasCodec}
    {session : PduSession} {pti : UInt8} {nas : Nas5gsMessage}
    (h : pduSessionEstablishmentAccept codec session pti = Outcome.ok nas) :
    exists innerMessage,
      nas = Nas5gsMessage.gmm (Nas5gmmMessage.dlNasTransport innerMessage) := by
  unfold pduSessionEstablishmentAccept at h
  cases haddr : session.userplaneInfo.ueIpAddr with
  | v6 addr =>
      rw [haddr] at h
      cases h
  | v4 addr =>
      rw [haddr] at h
      rcases Outcome.bind_eq_ok.mp h with ⟨innerMessage, _, hpure⟩
      cases hpure
      exact ⟨innerMessage, rfl⟩

namespace UeMessageHandler

variable {api : HandlerApi} {P R E I : Task -> Prop}
  {r : InitialUlRrcMessageTransfer}

theorem triple_runInner {Q : Unit -> Task -> Prop}
    (hinitial : Triple P (InitialAccessProcedure.run api r) (fun _ => R) E)
    (hsuccessive : forall fuel, Triple R (successive api fuel) Q E) :
    Triple P (runInner api r) Q E := by
  apply triple_bind hinitial
  intro _
  apply triple_bind (R := fun _ => R)
  · exact triple_get fun _ hs => hs
  · exact fun _ => hsuccessive _

/-- What holds however `run_inner` ends, and is kept when the context is
destroyed, holds after every run. -/
theorem runContext_after
    (hinner : Triple P (runInner api r) (fun _ => I) I)
    (hdestroy : Keeps I destroy) {s : Task} (hs : P s) :
    I (runContext api r s).2 := by
  have hrun : Triple P (runContext api r) (fun _ => I) I :=
    triple_bind (triple_attempt hinner fun _ ht => ht) fun _ =>
      keeps_bind hdestroy fun _ => keeps_lift _
  exact hrun.after hs

end UeMessageHandler

/-- `I` is kept by the basic actions.  `allowed` says which events it may see,
and `sound` what holds of the NAS messages that are encoded under it. -/
structure Upkeep (api : HandlerApi) (I : Task -> Prop)
    (allowed : UeEvent -> Prop) (sound : Bytes -> Prop) : Prop where
  receive : forall s pdu rest, s.inbox = pdu :: rest -> I s ->
    I (s.receive pdu rest)
  setPdcpTx : forall s p, I s -> I (s.setPdcpTx p)
  encode : forall s nas, I s ->
    I (s.setNas (NasContext.encode api.crypto api.nasCodec nas s.ue.nas).2)
  encoded : forall s nas bytes, I s ->
    (NasContext.encode api.crypto api.nasCodec nas s.ue.nas).1 =
      Outcome.ok bytes -> sound bytes
  record : forall s event, allowed event -> I s -> I (s.record event)
  sent : forall transfer rrc, (forall nas, nas ∈ rrc.nasMessages -> sound nas) ->
    allowed (UeEvent.dlRrcMessageTransfer transfer rrc)

/-- `I` is kept by receiving, by sending NAS messages that are `sound`, by
encoding the messages in `encodes` and by the events in `allowed`. -/
structure RequestsKeep (api : HandlerApi) (I : Task -> Prop)
    (allowed : UeEvent -> Prop) (encodes : Nas5gsMessage -> Prop)
    (sound : Bytes -> Prop) : Prop where
  recv : Keeps I recv
  sendRrc : forall (srbId : SrbId) (rrc : DlRrcMessage),
    (forall nas, nas ∈ rrc.nasMessages -> sound nas) ->
      Keeps I (sendRrc api srbId rrc)
  encodeNas : forall nas, encodes nas ->
    Triple I (encodeNas api nas) (fun bytes s => sound bytes ∧ I s) I
  record : forall s event, allowed event -> I s -> I (s.record event)

namespace Upkeep

variable {api : HandlerApi} {I : Task -> Prop} {allowed : UeEvent -> Prop}
  {sound : Bytes -> Prop} (h : Upkeep api I allowed sound)

include h

theorem recv : Keeps I recv := by
  intro s hs
  rcases recv_cases s with ⟨_, hcase⟩ | ⟨pdu, rest, hinbox, hcase⟩
  · rw [hcase]
    exact hs
  · rw [hcase]
    exact h.receive s pdu rest hinbox hs

theorem sendRrc (srbId : SrbId) {rrc : DlRrcMessage}
    (hrrc : forall nas, nas ∈ rrc.nasMessages -> sound nas) :
    Keeps I (sendRrc api srbId rrc) := by
  intro s hs
  rcases sendRrc_cases api srbId rrc s with
    ⟨_, hcase⟩ | hcase | ⟨_, transfer, p, hcase⟩
  · rw [hcase]
    exact hs
  · rw [hcase]
    exact hs
  · rw [hcase]
    exact h.record _ _ (h.sent transfer rrc hrrc) (h.setPdcpTx s p hs)

theorem encodeNas {nas : Nas5gsMessage}
    (hnas : forall bytes, sound bytes -> allowed (UeEvent.encodedNas nas bytes)) :
    Triple I (encodeNas api nas) (fun bytes s => sound bytes ∧ I s) I := by
  intro s hs
  rcases encodeNas_cases nas s with ⟨bytes, n, hn, hcase⟩ | ⟨e, hcase⟩ | hcase
  · have hkept := h.encode s nas hs
    have hsound := h.encoded s nas bytes hs
    rw [hn] at hkept hsound
    rw [hcase]
    exact ⟨hsound rfl, h.record _ _ (hnas bytes (hsound rfl)) hkept⟩
  · rw [hcase]
    exact hs
  · rw [hcase]
    exact hs

theorem requests :
    RequestsKeep api I allowed
      (fun nas => forall bytes, sound bytes ->
        allowed (UeEvent.encodedNas nas bytes)) sound where
  recv := h.recv
  sendRrc srbId _ hrrc := h.sendRrc srbId hrrc
  encodeNas _ hnas := h.encodeNas hnas
  record := h.record

end Upkeep

namespace RequestsKeep

variable {api : HandlerApi} {I E : Task -> Prop} {allowed : UeEvent -> Prop}
  {encodes : Nas5gsMessage -> Prop} {sound : Bytes -> Prop}
  (h : RequestsKeep api I allowed encodes sound)

include h

theorem rrcRequest (srbId : SrbId) {rrc : DlRrcMessage}
    (hrrc : forall nas, nas ∈ rrc.nasMessages -> sound nas) :
    Keeps I (rrcRequest api srbId rrc) :=
  keeps_bind (h.sendRrc srbId rrc hrrc) fun _ =>
    keeps_bind h.recv fun _ => keeps_lift _

theorem nasRequest {nas : Nas5gsMessage} (hnas : encodes nas) :
    Keeps I (nasRequest api nas) := by
  apply triple_bind (h.encodeNas nas hnas)
  intro bytes s hs
  refine (keeps_bind (h.rrcRequest 1 ?_) fun _ => keeps_lift _) s hs.right
  intro nas hmem
  cases List.mem_singleton.mp hmem
  exact hs.left

/-!
## Initial access
-/

theorem handleRrcSetup (r : InitialUlRrcMessageTransfer) :
    Keeps I (InitialAccessProcedure.handleRrcSetup api r) := by
  apply keeps_bind (keeps_lift _)
  intro cellGroupConfig
  refine keeps_bind (h.rrcRequest 0 ?_) ?_
  · intro nas hmem
    cases hmem
  · intro response
    exact keeps_bind (keeps_lift _) fun _ =>
      keeps_bind (keeps_lift _) fun _ => keeps_lift _

theorem authenticateUe (imsi : Bytes)
    (hnas : forall rand autn, encodes (authenticationRequest rand autn)) :
    Keeps I (InitialAccessProcedure.authenticateUe api imsi) := by
  apply keeps_bind (keeps_lift _)
  intro sim
  apply keeps_bind keeps_get
  intro s
  apply keeps_bind (h.nasRequest (hnas _ _))
  intro nas
  exact keeps_bind (keeps_lift _) fun _ =>
    keeps_bind (keeps_lift _) fun _ => keeps_pure _

theorem activateNasSecurity {P : Task -> Prop} (capabilities : Bytes)
    {kamf : Key256}
    (hstart : forall s, P s ->
      I (s.setNas (configureNasSecurity api.crypto kamf)))
    (hnas : encodes (nasSecurityModeCommand capabilities)) :
    Triple P (InitialAccessProcedure.activateNasSecurity api capabilities kamf)
      (fun _ => I) I := by
  refine triple_bind (triple_modify (Q := fun _ => I) hstart) ?_
  intro _
  apply keeps_bind (h.nasRequest hnas)
  intro nas
  exact keeps_bind (keeps_lift _) fun _ => keeps_lift _

theorem activateRrcSecurity (kamf : Key256)
    (hstart : forall s, I s ->
      I (s.setPdcpTx (configureRrcSecurity api.crypto kamf s.ue.pdcpTx))) :
    Keeps I (InitialAccessProcedure.activateRrcSecurity api kamf) := by
  refine keeps_bind (keeps_modify hstart) ?_
  intro _
  have hrequest : Keeps I
      (Ue.rrcRequest api 1 (DlRrcMessage.securityModeCommand 1)) := by
    apply h.rrcRequest 1
    intro nas hmem
    cases hmem
  exact keeps_bind (triple_attempt hrequest fun _ hs => hs) fun _ =>
    keeps_pure _

theorem completeNasRegistration
    (hnas : forall accept, encodes
      (Nas5gsMessage.gmm (Nas5gmmMessage.registrationAccept accept))) :
    Keeps I (InitialAccessProcedure.completeNasRegistration api) := by
  apply keeps_bind keeps_get
  intro s
  exact keeps_bind (h.nasRequest (hnas _)) fun _ => keeps_lift _

theorem initialAccess (hnas : forall nas, encodes nas)
    (hsetNas : forall s n, I s -> I (s.setNas n))
    (hsetPdcpTx : forall s p, I s -> I (s.setPdcpTx p))
    (r : InitialUlRrcMessageTransfer) :
    Keeps I (InitialAccessProcedure.run api r) := by
  apply keeps_bind (h.handleRrcSetup r)
  intro request
  apply keeps_bind (keeps_lift _)
  intro identity
  apply keeps_bind (h.authenticateUe _ fun _ _ => hnas _)
  intro kamf
  apply keeps_bind
    (h.activateNasSecurity _ (fun s hs => hsetNas s _ hs) (hnas _))
  intro _
  apply keeps_bind (h.activateRrcSecurity kamf fun s hs => hsetPdcpTx s _ hs)
  intro _
  exact h.completeNasRegistration fun _ => hnas _

/-!
## The procedures of a registered UE
-/

theorem callService {ε α : Type} {service : List UeEvent -> Except ε α}
    {event : Except ε α -> UeEvent} {wrap : ε -> UeError}
    (hevent : forall answer, allowed (event answer)) :
    Keeps I (callService service event wrap) :=
  triple_callService (fun s _ hs => h.record s _ (hevent _) hs)
    (fun s _ hs => h.record s _ (hevent _) hs)

theorem performF1UeContextRelease
    (hevent : forall command answer,
      allowed (UeEvent.ueContextRelease command answer)) (cause : Cause) :
    Keeps I (performF1UeContextRelease api cause) :=
  keeps_bind keeps_get fun _ => h.callService (hevent _)

theorem performRrcReconfiguration {nas : Bytes} (hnas : sound nas)
    (cellGroupConfig : Bytes) (pduSessionId : UInt8) :
    Keeps I (SessionEstablishmentProcedure.performRrcReconfiguration api nas
      cellGroupConfig pduSessionId) := by
  refine keeps_bind (h.rrcRequest 1 ?_) fun _ => keeps_lift _
  intro nas' hmem
  cases List.mem_singleton.mp hmem
  exact hnas

theorem deregistration
    (hevent : forall command answer,
      allowed (UeEvent.ueContextRelease command answer)) :
    Keeps I (deregistration api) :=
  keeps_bind (h.performF1UeContextRelease hevent _) fun _ => keeps_bail _

theorem sessionEstablishment
    (hpush : forall s session, I s ->
      I (SessionEstablishmentProcedure.pushSession session s))
    (hevent : forall event,
      (forall transfer rrc,
        event ≠ UeEvent.dlRrcMessageTransfer transfer rrc) ->
      (forall nas bytes, event ≠ UeEvent.encodedNas nas bytes) ->
        allowed event)
    (hnas : forall innerMessage, encodes
      (Nas5gsMessage.gmm (Nas5gmmMessage.dlNasTransport innerMessage)))
    (hdr : Nas5gsmHeader) (dnn : Option Bytes) :
    Keeps I (SessionEstablishmentProcedure.run api hdr dnn) := by
  have hcall : forall {ε α : Type} {service : List UeEvent -> Except ε α}
      {event : Except ε α -> UeEvent} {wrap : ε -> UeError},
      (forall answer transfer rrc,
        event answer ≠ UeEvent.dlRrcMessageTransfer transfer rrc) ->
      (forall answer nas bytes,
        event answer ≠ UeEvent.encodedNas nas bytes) ->
      Keeps I (Ue.callService service event wrap) :=
    fun hsent hencoded => h.callService fun answer =>
      hevent _ (hsent answer) (hencoded answer)
  refine keeps_bind (hcall (by simp) (by simp)) ?_
  intro userplaneInfo
  refine keeps_bind (keeps_bind keeps_get fun _ => keeps_bind
    (hcall (by simp) (by simp)) fun _ => keeps_lift _) ?_
  intro setup
  refine triple_bind (triple_lift
    (Q := fun accept s => encodes accept ∧ I s) ?_ fun _ hs => hs) ?_
  · intro accept s haccept hs
    rcases pduSessionEstablishmentAccept_ok haccept with ⟨_, heq⟩
    rw [heq]
    exact ⟨hnas _, hs⟩
  intro accept s hs
  refine triple_bind (h.encodeNas accept hs.left) ?_ s hs.right
  intro bytes s hs
  refine keeps_bind (hcall (by simp) (by simp)) ?_ s hs.right
  intro _
  refine keeps_bind (keeps_modify fun s hs => hpush s _ hs) ?_
  intro _
  exact h.performRrcReconfiguration hs.left _ _

section Handler

variable (hE : forall s, I s -> E s)
  (hrelease : forall command answer,
    allowed (UeEvent.ueContextRelease command answer))
  (hsession : forall hdr dnn,
    Triple I (SessionEstablishmentProcedure.run api hdr dnn) (fun _ => I) E)

include hE hrelease hsession

theorem uplinkNas (nasBytes : Bytes) :
    Triple I (uplinkNas api nasBytes) (fun _ => I) E := by
  have hnothing : Triple I (Pure.pure () : UeM Unit) (fun _ => I) E :=
    triple_pure fun _ hs => hs
  refine triple_bind (triple_lift (fun _ _ _ hs => hs) hE) ?_
  intro nas
  cases nas with
  | gsm header message => exact hnothing
  | securityProtected headerType mac seq body => exact hnothing
  | gmm message =>
      cases message with
      | deregistrationRequestFromUe =>
          exact (h.deregistration hrelease).weaken hE
      | ulNasTransport payloadContainer dnn =>
          refine triple_bind (triple_lift (fun _ _ _ hs => hs) hE) ?_
          intro inner
          cases inner with
          | gmm message => exact hnothing
          | securityProtected headerType mac seq body => exact hnothing
          | gsm header message =>
              cases message with
              | pduSessionEstablishmentRequest => exact hsession header dnn
              | _ => exact hnothing
      | _ => exact hnothing

theorem handlePdu (pdu : F1apPdu) :
    Triple I (UeMessageHandler.handlePdu api pdu) (fun _ => I) E := by
  have hbail : forall e, Triple I (bail e : UeM Unit) (fun _ => I) E := by
    intro e
    exact triple_bail hE
  cases pdu with
  | initialUlRrcMessageTransfer r => exact hbail _
  | other bytes => exact hbail _
  | ueContextReleaseRequest r =>
      have hkeeps := h.performF1UeContextRelease hrelease r.cause
      exact triple_bind (hkeeps.weaken hE) fun _ => hbail _
  | ulRrcMessageTransfer r =>
      refine triple_bind (triple_lift (fun _ _ _ hs => hs) hE) ?_
      intro rrc
      cases rrc with
      | ulInformationTransfer dedicatedNasMessage =>
          cases dedicatedNasMessage with
          | none => exact hbail _
          | some nasBytes => exact h.uplinkNas hE hrelease hsession nasBytes
      | _ => exact hbail _

theorem successive (fuel : Nat) :
    Triple I (UeMessageHandler.successive api fuel) (fun _ => I) E := by
  induction fuel with
  | zero => exact triple_pure fun _ hs => hs
  | succ fuel ih =>
      apply triple_bind (triple_attempt h.recv hE)
      intro next
      cases next with
      | error e => exact triple_pure fun _ hs => hs
      | ok pdu =>
          exact triple_bind (h.handlePdu hE hrelease hsession pdu) fun _ => ih

theorem runInner {r : InitialUlRrcMessageTransfer}
    (hinitial : Keeps I (InitialAccessProcedure.run api r)) :
    Triple I (UeMessageHandler.runInner api r) (fun _ => I) E :=
  UeMessageHandler.triple_runInner (hinitial.weaken hE)
    (h.successive hE hrelease hsession)

end Handler

theorem deleteSessions
    (hevent : forall session, allowed (UeEvent.delete session))
    (sessions : List PduSession) :
    Keeps I (UeMessageHandler.deleteSessions sessions) := by
  induction sessions with
  | nil => exact keeps_pure _
  | cons session rest ih =>
      exact keeps_bind
        (keeps_modify fun s hs => h.record s _ (hevent _) hs) fun _ => ih

theorem destroy (hevent : forall session, allowed (UeEvent.delete session))
    (hchannel : forall ueId, allowed (UeEvent.deleteUeChannel ueId))
    (hdrain : forall s, I s ->
      I { s with ue := { s.ue with pduSessions := [] } }) :
    Keeps I UeMessageHandler.destroy := by
  apply keeps_bind keeps_get
  intro s
  apply keeps_bind (h.deleteSessions hevent _)
  intro _
  exact keeps_bind (keeps_modify hdrain) fun _ =>
    keeps_modify fun t ht => h.record t _ (hchannel _) ht

end RequestsKeep

/-!
## The rounds of the message handler

No procedure puts a PDU back, so a handler that starts with as many rounds as
there are PDUs never runs out of them.
-/

namespace UeMessageHandler

variable (api : HandlerApi)

theorem inboxUpkeep (n : Nat) :
    Upkeep api (fun s => s.inbox.length <= n) (fun _ => True)
      (fun _ => True) where
  receive s pdu rest hinbox hs := by
    rw [hinbox, List.length_cons] at hs
    exact Nat.le_of_succ_le hs
  setPdcpTx _ _ hs := hs
  encode _ _ hs := hs
  encoded _ _ _ _ _ := trivial
  record _ _ _ hs := hs
  sent _ _ _ := trivial

theorem handlePdu_inbox (pdu : F1apPdu) (s : Task) :
    (handlePdu api pdu s).2.inbox.length <= s.inbox.length := by
  have h := (inboxUpkeep api s.inbox.length).requests
  have hkeeps : Keeps (fun t => t.inbox.length <= s.inbox.length)
      (handlePdu api pdu) :=
    h.handlePdu (fun _ ht => ht) (fun _ _ => trivial)
      (h.sessionEstablishment (fun _ _ ht => ht) (fun _ _ _ => trivial)
        fun _ _ _ => trivial) pdu
  exact hkeeps.after (Nat.le_refl _)

theorem successive_nil (n : Nat) {s : Task} (h : s.inbox = []) :
    successive api n s = (Outcome.ok (), s) := by
  cases n with
  | zero => rfl
  | succ n => simp [successive, Cmd.bind_run, Cmd.attempt, recv, h]

theorem successive_cons (n : Nat) {s : Task} {pdu : F1apPdu}
    {rest : List F1apPdu} (h : s.inbox = pdu :: rest) :
    successive api (n + 1) s =
      (do handlePdu api pdu; successive api n : UeM Unit)
        (s.receive pdu rest) := by
  simp only [successive, Cmd.bind_run, Cmd.attempt, recv, h]
  rfl

theorem successive_enough {n m : Nat} {s : Task} (hn : s.inbox.length <= n)
    (hm : s.inbox.length <= m) : successive api n s = successive api m s := by
  induction n generalizing m s with
  | zero =>
      have hnil := List.length_eq_zero_iff.mp (Nat.le_zero.mp hn)
      rw [successive_nil api 0 hnil, successive_nil api m hnil]
  | succ n ih =>
      cases hinbox : s.inbox with
      | nil => rw [successive_nil api _ hinbox, successive_nil api _ hinbox]
      | cons pdu rest =>
          rw [hinbox, List.length_cons] at hn hm
          cases m with
          | zero => exact absurd hm (Nat.not_succ_le_zero _)
          | succ m =>
              rw [successive_cons api n hinbox, successive_cons api m hinbox,
                Cmd.bind_run, Cmd.bind_run]
              have hle := handlePdu_inbox api pdu (s.receive pdu rest)
              revert hle
              cases handlePdu api pdu (s.receive pdu rest) with
              | mk out s' =>
                  intro hle
                  cases out with
                  | ok a =>
                      exact ih (Nat.le_trans hle (Nat.le_of_succ_le_succ hn))
                        (Nat.le_trans hle (Nat.le_of_succ_le_succ hm))
                  | err e => rfl
                  | panic => rfl

/-- The loop of `run_inner` as the source has it: with the rounds that
`runInner` gives it, it goes on after each PDU with the rounds that the
remaining PDUs need. -/
theorem successive_round {s : Task} {pdu : F1apPdu} {rest : List F1apPdu}
    (h : s.inbox = pdu :: rest) :
    successive api s.inbox.length s =
      (do
        handlePdu api pdu
        let t <- Cmd.get
        successive api t.inbox.length : UeM Unit) (s.receive pdu rest) := by
  rw [h, List.length_cons, successive_cons api _ h, Cmd.bind_run, Cmd.bind_run]
  have hle := handlePdu_inbox api pdu (s.receive pdu rest)
  revert hle
  cases handlePdu api pdu (s.receive pdu rest) with
  | mk out s' =>
      intro hle
      cases out with
      | ok a => exact successive_enough api hle (Nat.le_refl _)
      | err e => rfl
      | panic => rfl

end UeMessageHandler

end Ue
end QCore
