import QCore.Security.KeyAgreement
import QCore.Ue.AttachFlow
import QCore.Ue.Upkeep

/-!
# Authentication gates service

A UE task serves its UE when it sends a RegistrationAccept or works on a
userplane session.  Before that it has received the right answer to the
challenge for the IMSI in the registration request, and from then on every NAS
message it sends is protected with the key of that challenge.
-/

namespace QCore
namespace Ue

open Foundation
open Foundation.Cmd
open F1ap
open Nas
open Rrc
open Security
open Userplane

/-!
## Service and authentication in a log
-/

/-- `event` sends a NAS message that was encoded from a RegistrationAccept. -/
def SendsAccept (before : List UeEvent) (event : UeEvent) : Prop :=
  exists transfer rrc accept bytes,
    event = UeEvent.dlRrcMessageTransfer transfer rrc ∧
      bytes ∈ rrc.nasMessages ∧
      UeEvent.encodedNas
        (Nas5gsMessage.gmm (Nas5gmmMessage.registrationAccept accept)) bytes ∈
          before

/-- `event`, which comes after the events in `before`, gives service. -/
def Serves (before : List UeEvent) (event : UeEvent) : Prop :=
  SendsAccept before event ∨ (exists answer, event = UeEvent.reserve answer) ∨
    exists session tunnel answer, event = UeEvent.commit session tunnel answer

def Requested (api : HandlerApi) (imsi : Bytes) (events : List UeEvent) :
    Prop :=
  exists pdu request, UeEvent.received pdu ∈ events ∧
    CarriesSetupComplete api pdu
      (Nas5gsMessage.gmm (Nas5gmmMessage.registrationRequest request)) ∧
    fgsMobileIdentity request.fgsMobileIdentity =
      Outcome.ok ⟨imsi, api.config.plmn⟩

/-- A successful authentication: the events before the response, and the PDU
with the response. -/
structure Authentication (api : HandlerApi) where
  before : List UeEvent
  response : F1apPdu
  imsi : Bytes
  challenge : Challenge
  requested : Requested api imsi before
  credentials : exists sim rand, api.lookupSim imsi = some sim ∧
    challenge = InitialAccessProcedure.challengeFor api sim rand
  challenged : exists bytes transfer,
    UeEvent.encodedNas (authenticationRequest challenge.rand challenge.autn)
        bytes ∈ before ∧
      UeEvent.dlRrcMessageTransfer transfer
        (DlRrcMessage.dlInformationTransfer 1 bytes) ∈ before
  answered : CarriesNas api response
    (Nas5gsMessage.gmm (Nas5gmmMessage.authenticationResponse
      (some challenge.xresStar.toList)))

def Authentication.knasint {api : HandlerApi} (x : Authentication api) :
    Key128 :=
  deriveKnasint api.crypto (deriveKamf api.crypto x.challenge.kseaf x.imsi)

/-- Every NAS message sent in the events has a MAC under the key. -/
def Protected (api : HandlerApi) (key : Key128) (events : List UeEvent) :
    Prop :=
  forall transfer rrc,
    UeEvent.dlRrcMessageTransfer transfer rrc ∈ events ->
      forall nas, nas ∈ rrc.nasMessages ->
        exists count, NasVerifies api.crypto key count nas

/-!
## Before authentication
-/

def Grants : UeEvent -> Prop
  | UeEvent.encodedNas
      (Nas5gsMessage.gmm (Nas5gmmMessage.registrationAccept _)) _ => True
  | UeEvent.reserve _ => True
  | UeEvent.commit _ _ _ => True
  | _ => False

def Quiet (log : List UeEvent) : Prop :=
  forall event, event ∈ log -> ¬ Grants event

theorem quiet_append {log : List UeEvent} {event : UeEvent} (h : Quiet log)
    (hevent : ¬ Grants event) : Quiet (log ++ [event]) := by
  intro e he
  rcases List.mem_append.mp he with hold | hnew
  · exact h e hold
  · rw [List.mem_singleton.mp hnew]
    exact hevent

theorem quietUpkeep (api : HandlerApi) :
    Upkeep api (fun s => Quiet s.log) (fun event => ¬ Grants event)
      (fun _ => True) where
  receive _ _ _ _ hs := quiet_append hs id
  setPdcpTx _ _ hs := hs
  encode _ _ hs := hs
  encoded _ _ _ _ _ := trivial
  record _ _ hevent hs := quiet_append hs hevent
  sent _ _ _ := id

/-!
## After authentication
-/

def HoldsKey (key : Key128) (n : NasContext) : Prop :=
  exists s, n.securityContext = some s ∧ s.ik = key

theorem encodeWithIntegrity_ik (c : Crypto) (codec : NasCodec)
    (nas : Nas5gsMessage) (s : SecurityContext) :
    (SecurityContext.encodeWithIntegrity c codec nas s).2.ik = s.ik := by
  rcases SecurityContext.encodeWithIntegrity_cases c codec nas s with
    ⟨_, _, _, hcase⟩ | ⟨e, hcase⟩ | hcase
  · rw [hcase]
    rfl
  · rw [hcase]
  · rw [hcase]

theorem holdsKey_encode {key : Key128} {n : NasContext} (h : HoldsKey key n)
    (c : Crypto) (codec : NasCodec) (nas : Nas5gsMessage) :
    HoldsKey key (NasContext.encode c codec nas n).2 := by
  rcases h with ⟨s, hs, hkey⟩
  refine ⟨(SecurityContext.encodeWithIntegrity c codec nas s).2, ?_, ?_⟩
  · simp [NasContext.encode, hs]
  · rw [encodeWithIntegrity_ik, hkey]

theorem holdsKey_verifies {key : Key128} {n : NasContext}
    (h : HoldsKey key n) {c : Crypto} {codec : NasCodec} {nas : Nas5gsMessage}
    {bytes : Bytes} (hencode : (NasContext.encode c codec nas n).1 =
      Outcome.ok bytes) : exists count, NasVerifies c key count bytes := by
  rcases h with ⟨s, hs, hkey⟩
  rw [← hkey]
  exact ⟨s.dlCount, nasEncode_verifies hs (Prod.ext hencode rfl)⟩

theorem protected_append {api : HandlerApi} {key : Key128}
    {events : List UeEvent} {event : UeEvent} (h : Protected api key events)
    (hevent : Protected api key [event]) :
    Protected api key (events ++ [event]) := by
  intro transfer rrc hmem
  rcases List.mem_append.mp hmem with hold | hnew
  · exact h transfer rrc hold
  · exact hevent transfer rrc hnew

theorem protected_other {api : HandlerApi} {key : Key128} {event : UeEvent}
    (h : forall transfer rrc,
      event ≠ UeEvent.dlRrcMessageTransfer transfer rrc) :
    Protected api key [event] := by
  intro transfer rrc hmem
  exact absurd (List.mem_singleton.mp hmem).symm (h transfer rrc)

namespace Authentication

variable {api : HandlerApi} (x : Authentication api)

def Guarded (s : Task) : Prop :=
  (exists after,
    s.log = x.before ++ UeEvent.received x.response :: after ∧
      Protected api x.knasint after) ∧
    HoldsKey x.knasint s.ue.nas

theorem guarded_record {s : Task} {event : UeEvent}
    (hevent : Protected api x.knasint [event]) (h : x.Guarded s) :
    x.Guarded (s.record event) := by
  rcases h with ⟨⟨after, hlog, hafter⟩, hkey⟩
  refine ⟨⟨after ++ [event], ?_, protected_append hafter hevent⟩, hkey⟩
  change s.log ++ [event] = _
  rw [hlog, List.append_assoc, List.cons_append]

theorem guardedUpkeep :
    Upkeep api x.Guarded (fun event => Protected api x.knasint [event])
      (fun bytes => exists count,
        NasVerifies api.crypto x.knasint count bytes) where
  receive s pdu rest _ hs :=
    x.guarded_record (s := { s with inbox := rest })
      (protected_other (by simp)) hs
  setPdcpTx _ _ hs := hs
  encode s nas hs := ⟨hs.left, holdsKey_encode hs.right _ _ nas⟩
  encoded s nas bytes hs hencode := holdsKey_verifies hs.right hencode
  record _ _ hevent hs := x.guarded_record hevent hs
  sent transfer rrc hrrc transfer' rrc' hmem := by
    cases List.mem_singleton.mp hmem
    exact hrrc

end Authentication

/-!
## The steps of initial access
-/

section InitialAccess

open InitialAccessProcedure

variable (api : HandlerApi)

def Gated (s : Task) : Prop :=
  Quiet s.log ∨ exists x : Authentication api, Quiet x.before ∧ x.Guarded s

def HasRequest (request : NasRegistrationRequest) (s : Task) : Prop :=
  exists pdu, UeEvent.received pdu ∈ s.log ∧ CarriesSetupComplete api pdu
    (Nas5gsMessage.gmm (Nas5gmmMessage.registrationRequest request))

theorem handleRrcSetup_request (r : InitialUlRrcMessageTransfer) :
    Triple (fun s => True ∧ Quiet s.log) (handleRrcSetup api r)
      (fun request s => HasRequest api request s ∧ Quiet s.log)
      (fun s => Quiet s.log) := by
  apply ((quietUpkeep api).requests.handleRrcSetup r).and_ok
  intro s request t _ _ hok
  rcases handleRrcSetup_ok hok with ⟨_, _, _, pdu, rest, _, ht, hcarries⟩
  refine ⟨pdu, ?_, hcarries⟩
  rw [ht]
  exact List.mem_append_right _ (List.mem_singleton_self _)

theorem checkRegistrationRequest_identity {request : NasRegistrationRequest}
    {imsi capability : Bytes}
    (h : checkRegistrationRequest api request =
      Outcome.ok (imsi, capability)) :
    fgsMobileIdentity request.fgsMobileIdentity =
      Outcome.ok ⟨imsi, api.config.plmn⟩ := by
  rcases Outcome.bind_eq_ok.mp h with ⟨_, _, h1⟩
  rcases Outcome.bind_eq_ok.mp h1 with ⟨identity, hidentity, h2⟩
  rcases Outcome.bind_eq_ok.mp h2 with ⟨_, hensure, hpure⟩
  cases hpure
  by_cases hplmn : identity.plmn = api.config.plmn
  · rw [hidentity, ← hplmn]
  · rw [Outcome.ensure, if_neg hplmn] at hensure
    cases hensure

theorem checkAuthenticationResponse_ok {parameter : Option Bytes}
    {challenge : Challenge}
    (h : checkAuthenticationResponse false parameter challenge =
      Outcome.ok ()) : parameter = some challenge.xresStar.toList := by
  cases parameter with
  | none => cases h
  | some value =>
      by_cases hvalue : value = challenge.xresStar.toList
      · rw [hvalue]
      · simp [checkAuthenticationResponse, hvalue] at h

def JustAuthenticated (kamf : Key256) (x : Authentication api) (s : Task) :
    Prop :=
  Quiet x.before ∧ kamf = deriveKamf api.crypto x.challenge.kseaf x.imsi ∧
    s.log = x.before ++ [UeEvent.received x.response]

variable (hskip : api.config.skipUeAuthenticationCheck = false)

include hskip

theorem authenticateUe_authentic (imsi : Bytes) :
    Triple (fun s => Requested api imsi s.log ∧ Quiet s.log)
      (authenticateUe api imsi)
      (fun kamf s => (exists x, JustAuthenticated api kamf x s) ∧ Quiet s.log)
      (fun s => Quiet s.log) := by
  refine ((quietUpkeep api).requests.authenticateUe imsi
    (fun _ _ _ _ => id)).and_ok ?_
  intro s kamf t hrequested hquiet hok
  rcases authenticateUe_ok hok with
    ⟨sim, challenge, parameter, bytes, n, transfer, p, pdu, rest, hsim,
      hchallenge, _, _, ht, hcarries, hcheck, hkamf⟩
  rw [hskip] at hcheck
  rw [checkAuthenticationResponse_ok hcheck] at hcarries
  let sent : List UeEvent :=
    [UeEvent.encodedNas (authenticationRequest challenge.rand challenge.autn)
        bytes,
      UeEvent.dlRrcMessageTransfer transfer
        (DlRrcMessage.dlInformationTransfer 1 bytes)]
  have hlog : t.log = (s.log ++ sent) ++ [UeEvent.received pdu] := by
    rw [ht]
    simp [Task.exchange, Task.receive, Task.send, Task.record, Task.setNas,
      Task.setPdcpTx, sent]
  refine ⟨⟨s.log ++ sent, pdu, imsi, challenge, ?_, ⟨sim, _, hsim, hchallenge⟩,
    ⟨bytes, transfer, ?_, ?_⟩, hcarries⟩, ?_, hkamf, hlog⟩
  · rcases hrequested with ⟨pdu', request, hmem, hrest⟩
    exact ⟨pdu', request, List.mem_append_left _ hmem, hrest⟩
  · exact List.mem_append_right _ (by simp [sent])
  · exact List.mem_append_right _ (by simp [sent])
  · intro event hmem
    rcases List.mem_append.mp hmem with hold | hnew
    · exact hquiet event hold
    · simp only [sent, List.mem_cons, List.not_mem_nil, or_false] at hnew
      rcases hnew with heq | heq
      · rw [heq]
        exact id
      · rw [heq]
        exact id

theorem initialAccess_gated (r : InitialUlRrcMessageTransfer) :
    Triple (fun s => Quiet s.log) (InitialAccessProcedure.run api r)
      (fun _ s => exists x : Authentication api, Quiet x.before ∧ x.Guarded s)
      (Gated api) := by
  have hsetup := (handleRrcSetup_request api r).conseq
    (fun _ hs => ⟨trivial, hs⟩) (fun _ _ hs => hs)
    (fun s hs => (Or.inl hs : Gated api s))
  apply triple_bind hsetup
  intro request
  refine triple_bind (triple_lift
    (Q := fun a s => Requested api a.1 s.log ∧ Quiet s.log) ?_ ?_) ?_
  · intro a s hcheck hs
    rcases hs.left with ⟨pdu, hmem, hcarries⟩
    exact ⟨⟨pdu, request, hmem, hcarries,
      checkRegistrationRequest_identity api hcheck⟩, hs.right⟩
  · intro s hs
    exact Or.inl hs.right
  intro a
  refine triple_bind ((authenticateUe_authentic api hskip a.1).conseq
    (fun _ hs => hs) (fun _ _ hs => hs.left) (fun s hs => Or.inl hs)) ?_
  intro kamf
  apply triple_exists
  intro x s hs
  rcases hs with ⟨hquiet, hkamf, hlog⟩
  have hguard : forall t : Task,
      t.log = x.before ++ [UeEvent.received x.response] ->
        x.Guarded (t.setNas (configureNasSecurity api.crypto kamf)) := by
    intro t ht
    refine ⟨⟨[], ht, ?_⟩, _, rfl, ?_⟩
    · intro _ _ hmem
      cases hmem
    · rw [hkamf]
      rfl
  have hother : forall nas bytes,
      Protected api x.knasint [UeEvent.encodedNas nas bytes] := by
    intro nas bytes
    exact protected_other (by simp)
  have h := x.guardedUpkeep.requests
  have hrest := triple_bind
    (h.activateNasSecurity a.2 hguard fun bytes _ => hother _ bytes)
    fun _ => keeps_bind (h.activateRrcSecurity kamf fun _ ht => ht) fun _ =>
      h.completeNasRegistration fun _ bytes _ => hother _ bytes
  exact hrest.conseq (fun _ ht => ht) (fun _ _ ht => ⟨x, hquiet, ht⟩)
    (fun _ ht => Or.inr ⟨x, hquiet, ht⟩) s hlog

end InitialAccess

/-!
## Whole runs
-/

section Runs

variable (api : HandlerApi)

theorem guarded_successive (x : Authentication api) (fuel : Nat) :
    Keeps x.Guarded (UeMessageHandler.successive api fuel) := by
  have h := x.guardedUpkeep.requests
  refine h.successive (fun _ hs => hs)
    (fun _ _ => protected_other (by simp)) ?_ fuel
  exact h.sessionEstablishment (fun _ _ hs => hs)
    (fun _ hsent _ => protected_other hsent)
    fun _ _ _ => protected_other (by simp)

theorem guarded_destroy (x : Authentication api) :
    Keeps x.Guarded UeMessageHandler.destroy :=
  x.guardedUpkeep.requests.destroy (fun _ => protected_other (by simp))
    (fun _ => protected_other (by simp)) fun _ hs => hs

theorem gated_destroy : Keeps (Gated api) UeMessageHandler.destroy := by
  refine triple_or ?_ (triple_exists ?_)
  · have hquiet := (quietUpkeep api).requests.destroy (fun _ => id)
      (fun _ => id) fun _ hs => hs
    exact hquiet.imp fun _ hs => Or.inl hs
  · intro x s hs
    exact (guarded_destroy api x).imp
      (fun _ ht => Or.inr ⟨x, hs.left, ht⟩) s hs.right

variable (hskip : api.config.skipUeAuthenticationCheck = false)

include hskip

theorem runContext_gated (r : InitialUlRrcMessageTransfer) {s : Task}
    (hs : Quiet s.log) :
    Gated api (UeMessageHandler.runContext api r s).2 := by
  refine UeMessageHandler.runContext_after (UeMessageHandler.triple_runInner
    (initialAccess_gated api hskip r) ?_) (gated_destroy api) hs
  intro fuel
  apply triple_exists
  intro x t ht
  exact (guarded_successive api x fuel).imp
    (fun _ hu => Or.inr ⟨x, ht.left, hu⟩) t ht.right

theorem run_gated (ueId : GnbCuUeF1apId) (pdus : List F1apPdu) :
    Quiet (UeMessageHandler.run api ueId pdus).2 ∨
      exists x : Authentication api, exists after, Quiet x.before ∧
        (UeMessageHandler.run api ueId pdus).2 =
          x.before ++ UeEvent.received x.response :: after ∧
        Protected api x.knasint after := by
  have hfirst : forall pdu, Quiet [UeEvent.received pdu] := by
    intro pdu
    exact @quiet_append [] _ (fun _ hmem => absurd hmem List.not_mem_nil) id
  cases pdus with
  | nil => exact Or.inl fun _ hmem => absurd hmem List.not_mem_nil
  | cons pdu rest =>
      cases pdu with
      | initialUlRrcMessageTransfer r =>
          have hstart : Quiet (UeMessageHandler.start api ueId r rest).log :=
            hfirst _
          rcases runContext_gated api hskip r hstart with
            hquiet | ⟨x, hquiet, ⟨after, hlog, hafter⟩, _⟩
          · exact Or.inl hquiet
          · exact Or.inr ⟨x, after, hquiet, hlog, hafter⟩
      | ulRrcMessageTransfer r => exact Or.inl (hfirst _)
      | ueContextReleaseRequest r => exact Or.inl (hfirst _)
      | other bytes => exact Or.inl (hfirst _)

end Runs

theorem Quiet.not_serves {log before : List UeEvent} {event : UeEvent}
    (h : Quiet log) (hbefore : before ⊆ log) (hevent : event ∈ log) :
    ¬ Serves before event := by
  intro hserves
  rcases hserves with hsends | ⟨answer, heq⟩ | ⟨session, tunnel, answer, heq⟩
  · rcases hsends with ⟨_, _, accept, bytes, _, _, hmem⟩
    exact h _ (hbefore hmem) trivial
  · rw [heq] at hevent
    exact h _ hevent trivial
  · rw [heq] at hevent
    exact h _ hevent trivial

theorem not_serves_received {before : List UeEvent} {pdu : F1apPdu} :
    ¬ Serves before (UeEvent.received pdu) := by
  intro hserves
  rcases hserves with hsends | ⟨answer, heq⟩ | ⟨_, _, answer, heq⟩
  · rcases hsends with ⟨_, _, _, _, heq, _⟩
    cases heq
  · cases heq
  · cases heq

/-- In every run of a UE task with the check switched on, whatever serves the UE
comes after a successful authentication, and every NAS message sent after the
authentication is protected with its key. -/
theorem authentication_gates_service (api : HandlerApi)
    (hskip : api.config.skipUeAuthenticationCheck = false)
    (ueId : GnbCuUeF1apId) (pdus : List F1apPdu)
    {before after : List UeEvent} {event : UeEvent}
    (hlog : (UeMessageHandler.run api ueId pdus).2 = before ++ event :: after)
    (hserves : Serves before event) :
    exists x : Authentication api, exists between,
      before = x.before ++ UeEvent.received x.response :: between ∧
        Protected api x.knasint (between ++ event :: after) := by
  rcases run_gated api hskip ueId pdus with
    hquiet | ⟨x, rest, hquiet, hrun, hprotected⟩
  · rw [hlog] at hquiet
    exact absurd hserves
      (hquiet.not_serves (List.subset_append_left _ _) (by simp))
  · rw [hlog] at hrun
    -- The two ways in which the log is cut overlap; `event` is in the later
    -- part, because the earlier one is quiet.
    rcases List.append_eq_append_iff.mp hrun with
      ⟨tail, hbefore, htail⟩ | ⟨tail, hbefore, htail⟩
    · cases tail with
      | nil =>
          rw [List.nil_append, List.cons.injEq] at htail
          rw [htail.left] at hserves
          exact absurd hserves not_serves_received
      | cons first tail =>
          rw [List.cons_append, List.cons.injEq] at htail
          refine absurd hserves (hquiet.not_serves ?_ ?_)
          · rw [hbefore]
            exact List.subset_append_left _ _
          · rw [hbefore, htail.left]
            simp
    · cases tail with
      | nil =>
          rw [List.nil_append, List.cons.injEq] at htail
          rw [← htail.left] at hserves
          exact absurd hserves not_serves_received
      | cons first tail =>
          rw [List.cons_append, List.cons.injEq] at htail
          refine ⟨x, tail, ?_, ?_⟩
          · rw [hbefore, htail.left]
          · rw [← htail.right]
            exact hprotected

theorem authentication_gates_smallAttach :
    exists before event after,
      (UeMessageHandler.run toyApi 7 smallAttach).2 =
          before ++ event :: after ∧
        Serves before event ∧
        exists x : Authentication toyApi, exists between,
          before = x.before ++ UeEvent.received x.response :: between ∧
            Protected toyApi x.knasint (between ++ event :: after) := by
  have hmem : UeEvent.reserve (toyApi.reserveUserplaneSession []) ∈
      (UeMessageHandler.run toyApi 7 smallAttach).2 := by
    decide +kernel
  rcases List.append_of_mem hmem with ⟨before, after, hlog⟩
  have hserves : Serves before
      (UeEvent.reserve (toyApi.reserveUserplaneSession [])) :=
    Or.inr (Or.inl ⟨_, rfl⟩)
  exact ⟨before, _, after, hlog, hserves,
    authentication_gates_service toyApi rfl 7 smallAttach hlog hserves⟩

end Ue
end QCore
