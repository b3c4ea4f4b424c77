import QCore.Ue.Requests
import QCore.Ue.SmallNetwork

/-!
# Initial access and the attach flow

The design of the attach flow lists five PDUs that the core receives after the
first contact of a UE.  Every step of initial access but one insists on its PDU;
the exception is the activation of RRC security, which takes a PDU from the
channel and does not look at it.
-/

namespace QCore
namespace Ue

open Foundation
open F1ap
open Nas
open Rrc
open Security

namespace InitialAccessProcedure

variable {api : HandlerApi}

/-!
## What each step needs to succeed
-/

theorem handleRrcSetup_ok {r : InitialUlRrcMessageTransfer}
    {request : NasRegistrationRequest} {s t : Task}
    (h : handleRrcSetup api r s = (Outcome.ok request, t)) :
    exists cellGroupConfig transfer p pdu rest, s.inbox = pdu :: rest ∧
      t = (s.send transfer (DlRrcMessage.rrcSetup 0 cellGroupConfig)
        p).receive pdu rest ∧
      CarriesSetupComplete api pdu
        (Nas5gsMessage.gmm (Nas5gmmMessage.registrationRequest request)) := by
  rcases Cmd.bind_ok.mp h with ⟨cellGroupConfig, s1, hcell, h1⟩
  cases (Cmd.lift_ok.mp hcell).right
  rcases Cmd.bind_ok.mp h1 with ⟨response, s2, hrequest, h2⟩
  rcases Cmd.bind_ok.mp h2 with ⟨nasBytes, s3, hcheck, h3⟩
  rcases Cmd.lift_ok.mp hcheck with ⟨hcomplete, hs3⟩
  rcases Cmd.bind_ok.mp h3 with ⟨nas, s4, hlift, h4⟩
  rcases Cmd.lift_ok.mp hlift with ⟨hdecode, hs4⟩
  rcases Cmd.lift_ok.mp h4 with ⟨hexpect, ht⟩
  rcases rrcRequest_ok hrequest with
    ⟨transfer, p, pdu, rest, hinbox, hs2, hcarries⟩
  refine ⟨cellGroupConfig, transfer, p, pdu, rest, hinbox,
    ht.trans (hs4.trans (hs3.trans hs2)), nasBytes, ?_, ?_⟩
  · cases response with
    | rrcSetupComplete dedicatedNasMessage =>
        cases hcomplete
        exact hcarries
    | _ => cases hcomplete
  · rcases expectNas_ok hexpect with ⟨message, hnas, hselect⟩
    rw [← registrationRequest?_eq_some.mp hselect, ← hnas]
    exact hdecode

theorem authenticateUe_ok {imsi : Bytes} {kamf : Key256} {s t : Task}
    (h : authenticateUe api imsi s = (Outcome.ok kamf, t)) :
    exists sim challenge parameter bytes n transfer p pdu rest,
      api.lookupSim imsi = some sim ∧
      challenge = challengeFor api sim (api.rand s.log) ∧
      NasContext.encode api.crypto api.nasCodec
        (authenticationRequest challenge.rand challenge.autn) s.ue.nas =
          (Outcome.ok bytes, n) ∧
      s.inbox = pdu :: rest ∧
      t = s.exchange (authenticationRequest challenge.rand challenge.autn)
        bytes n transfer p pdu rest ∧
      CarriesNas api pdu
        (Nas5gsMessage.gmm (Nas5gmmMessage.authenticationResponse parameter)) ∧
      checkAuthenticationResponse api.config.skipUeAuthenticationCheck
        parameter challenge = Outcome.ok () ∧
      kamf = deriveKamf api.crypto challenge.kseaf imsi := by
  rcases Cmd.bind_ok.mp h with ⟨sim, s1, hlookup, h1⟩
  rcases Cmd.lift_ok.mp hlookup with ⟨hsim, hs1⟩
  cases hs1
  rcases Cmd.bind_ok.mp h1 with ⟨s2, s3, hget, h2⟩
  cases hget
  rcases Cmd.bind_ok.mp h2 with ⟨nas, s4, hrequest, h3⟩
  rcases Cmd.bind_ok.mp h3 with ⟨parameter, s5, hselected, h4⟩
  rcases Cmd.lift_ok.mp hselected with ⟨hexpect, hs5⟩
  rcases Cmd.bind_ok.mp h4 with ⟨_, s6, hlift, hpure⟩
  rcases Cmd.lift_ok.mp hlift with ⟨hcheck, hs6⟩
  cases hpure
  rcases nasRequest_ok hrequest with
    ⟨bytes, n, transfer, p, pdu, rest, hn, hinbox, hs4, hcarries⟩
  rcases expectNas_ok hexpect with ⟨message, hnas, hselect⟩
  refine ⟨sim, _, parameter, bytes, n, transfer, p, pdu, rest,
    Outcome.ofOption_eq_ok.mp hsim, rfl, hn, hinbox,
    hs6.trans (hs5.trans hs4), ?_, Outcome.mapErr_eq_ok.mp hcheck, rfl⟩
  rw [← authenticationResponse?_eq_some.mp hselect, ← hnas]
  exact hcarries

theorem activateNasSecurity_ok {capabilities : Bytes} {kamf : Key256}
    {s t : Task}
    (h : activateNasSecurity api capabilities kamf s = (Outcome.ok (), t)) :
    exists container pdu, s.inbox = pdu :: t.inbox ∧
      CarriesNas api pdu
        (Nas5gsMessage.gmm (Nas5gmmMessage.securityModeComplete container)) := by
  rcases Cmd.bind_ok.mp h with ⟨_, s1, hmodify, h1⟩
  cases hmodify
  rcases Cmd.bind_ok.mp h1 with ⟨nas, s2, hrequest, h2⟩
  rcases Cmd.bind_ok.mp h2 with ⟨container, s3, hselected, h3⟩
  rcases Cmd.lift_ok.mp hselected with ⟨hexpect, hs3⟩
  rcases Cmd.lift_ok.mp h3 with ⟨_, ht⟩
  rcases nasRequest_ok hrequest with
    ⟨bytes, n, transfer, p, pdu, rest, _, hinbox, hs2, hcarries⟩
  rcases expectNas_ok hexpect with ⟨message, hnas, hselect⟩
  refine ⟨container, pdu, ?_, ?_⟩
  · rw [ht, hs3, hs2]
    exact hinbox
  · rw [← securityModeComplete?_eq_some.mp hselect, ← hnas]
    exact hcarries

theorem activateRrcSecurity_ok {kamf : Key256} {s t : Task}
    (h : activateRrcSecurity api kamf s = (Outcome.ok (), t)) :
    api.rrcCodec.encode (DlRrcMessage.securityModeCommand 1) = none ∧
        t.inbox = s.inbox ∨
      api.rrcCodec.encode (DlRrcMessage.securityModeCommand 1) ≠ none ∧
        t.inbox = s.inbox.tail := by
  rcases Cmd.bind_ok.mp h with ⟨_, s1, hmodify, h1⟩
  cases hmodify
  rcases Cmd.bind_ok.mp h1 with ⟨result, s2, hattempt, hpure⟩
  cases hpure
  rcases Cmd.attempt_returned hattempt with ⟨hreturned, ht⟩
  rw [ht]
  exact rrcRequest_inbox hreturned

theorem completeNasRegistration_ok {s t : Task}
    (h : completeNasRegistration api s = (Outcome.ok (), t)) :
    exists pdu, s.inbox = pdu :: t.inbox ∧
      CarriesNas api pdu
        (Nas5gsMessage.gmm Nas5gmmMessage.registrationComplete) := by
  rcases Cmd.bind_ok.mp h with ⟨s1, s2, hget, h1⟩
  cases hget
  rcases Cmd.bind_ok.mp h1 with ⟨nas, s3, hrequest, h2⟩
  rcases Cmd.lift_ok.mp h2 with ⟨hexpect, ht⟩
  rcases nasRequest_ok hrequest with
    ⟨bytes, n, transfer, p, pdu, rest, _, hinbox, hs3, hcarries⟩
  rcases expectNas_ok hexpect with ⟨message, hnas, hselect⟩
  refine ⟨pdu, ?_, ?_⟩
  · rw [ht, hs3]
    exact hinbox
  · rw [← registrationComplete?_eq_some.mp hselect, ← hnas]
    exact hcarries

/-!
## The documented flow
-/

/-- The five PDUs of the attach flow, each decoded at every layer. -/
structure AttachFlow (api : HandlerApi) (setupComplete authentication
    nasSecurity rrcSecurity registration : F1apPdu) : Prop where
  setup_complete : exists request, CarriesSetupComplete api setupComplete
    (Nas5gsMessage.gmm (Nas5gmmMessage.registrationRequest request))
  authentication_response : exists parameter, CarriesNas api authentication
    (Nas5gsMessage.gmm (Nas5gmmMessage.authenticationResponse parameter))
  nas_security_mode_complete : exists container, CarriesNas api nasSecurity
    (Nas5gsMessage.gmm (Nas5gmmMessage.securityModeComplete container))
  rrc_security_mode_complete :
    CarriesRrc api rrcSecurity UlDcchMessage.securityModeComplete
  registration_complete : CarriesNas api registration
    (Nas5gsMessage.gmm Nas5gmmMessage.registrationComplete)

variable (api) in
/-- When initial access returns `Ok`, the PDUs it took from the channel were
those of the flow. -/
def AcceptsOnlyAttachFlow (r : InitialUlRrcMessageTransfer) (s : Task) : Prop :=
  forall t, run api r s = (Outcome.ok (), t) ->
    exists p1 p2 p3 p4 p5, s.inbox = [p1, p2, p3, p4, p5] ++ t.inbox ∧
      AttachFlow api p1 p2 p3 p4 p5

variable (api) in
/-- When initial access returns `Ok`, the RRC SecurityModeCommand was sent and
the fourth PDU was the RRC SecurityModeComplete. -/
def RrcSecurityConfirmed (r : InitialUlRrcMessageTransfer) (s : Task) : Prop :=
  forall t, run api r s = (Outcome.ok (), t) ->
    api.rrcCodec.encode (DlRrcMessage.securityModeCommand 1) ≠ none ∧
      exists pdu, s.inbox[3]? = some pdu ∧
        CarriesRrc api pdu UlDcchMessage.securityModeComplete

/-- What a run that returns `Ok` received: four of the PDUs of the flow, and
one more of any kind when the RRC SecurityModeCommand could be sent. -/
theorem run_ok {r : InitialUlRrcMessageTransfer} {s t : Task}
    (h : run api r s = (Outcome.ok (), t)) :
    exists p1 p2 p3 rest p5, s.inbox = p1 :: p2 :: p3 :: rest ∧
      (exists request, CarriesSetupComplete api p1
        (Nas5gsMessage.gmm (Nas5gmmMessage.registrationRequest request))) ∧
      (exists parameter, CarriesNas api p2
        (Nas5gsMessage.gmm
          (Nas5gmmMessage.authenticationResponse parameter))) ∧
      (exists container, CarriesNas api p3
        (Nas5gsMessage.gmm (Nas5gmmMessage.securityModeComplete container))) ∧
      CarriesNas api p5
        (Nas5gsMessage.gmm Nas5gmmMessage.registrationComplete) ∧
      (api.rrcCodec.encode (DlRrcMessage.securityModeCommand 1) = none ∧
          rest = p5 :: t.inbox ∨
        api.rrcCodec.encode (DlRrcMessage.securityModeCommand 1) ≠ none ∧
          exists p4, rest = p4 :: p5 :: t.inbox) := by
  rcases Cmd.bind_ok.mp h with ⟨request, s1, hsetup, h1⟩
  rcases Cmd.bind_ok.mp h1 with ⟨⟨imsi, capability⟩, s2, hcheck, h2⟩
  cases (Cmd.lift_ok.mp hcheck).right
  rcases Cmd.bind_ok.mp h2 with ⟨kamf, s3, hauth, h3⟩
  rcases Cmd.bind_ok.mp h3 with ⟨_, s4, hnasSecurity, h4⟩
  rcases Cmd.bind_ok.mp h4 with ⟨_, s5, hrrcSecurity, hcomplete⟩
  rcases handleRrcSetup_ok hsetup with
    ⟨_, _, _, p1, rest1, hinbox1, hs1, hcarries1⟩
  rcases authenticateUe_ok hauth with
    ⟨_, _, parameter, _, _, _, _, p2, rest2, _, _, _, hinbox2, hs3, hcarries2,
      _, _⟩
  rcases activateNasSecurity_ok hnasSecurity with
    ⟨container, p3, hinbox3, hcarries3⟩
  rcases completeNasRegistration_ok hcomplete with ⟨p5, hinbox5, hcarries5⟩
  rw [hs1] at hinbox2
  rw [hs3] at hinbox3
  change rest1 = p2 :: rest2 at hinbox2
  change rest2 = p3 :: s4.inbox at hinbox3
  refine ⟨p1, p2, p3, s4.inbox, p5, ?_, ⟨request, hcarries1⟩,
    ⟨parameter, hcarries2⟩, ⟨container, hcarries3⟩, hcarries5, ?_⟩
  · rw [hinbox1, hinbox2, hinbox3]
  · rcases activateRrcSecurity_ok hrrcSecurity with
      ⟨hnone, hsame⟩ | ⟨hsome, htail⟩
    · rw [hsame] at hinbox5
      exact Or.inl ⟨hnone, hinbox5⟩
    · rw [htail] at hinbox5
      refine Or.inr ⟨hsome, ?_⟩
      cases hs4 : s4.inbox with
      | nil =>
          rw [hs4] at hinbox5
          cases hinbox5
      | cons p4 rest4 =>
          rw [hs4] at hinbox5
          exact ⟨p4, congrArg (List.cons p4) hinbox5⟩

/-- Initial access accepts only the documented flow exactly when the answer to
the RRC SecurityModeCommand, which it does not check, is the right one. -/
theorem acceptsOnlyAttachFlow_iff (api : HandlerApi)
    (r : InitialUlRrcMessageTransfer) (s : Task) :
    AcceptsOnlyAttachFlow api r s <-> RrcSecurityConfirmed api r s := by
  constructor
  · intro hflow t hrun
    rcases hflow t hrun with ⟨p1, p2, p3, p4, p5, hinbox, hcarries⟩
    rcases run_ok hrun with
      ⟨q1, q2, q3, rest, q5, hinbox', _, _, _, _, hrest⟩
    refine ⟨?_, p4, ?_, hcarries.rrc_security_mode_complete⟩
    · -- Without the command only four PDUs are taken.
      rcases hrest with ⟨_, hfour⟩ | ⟨hsome, _⟩
      · have hlen := congrArg List.length (hinbox.symm.trans hinbox')
        rw [hfour] at hlen
        simp at hlen
      · exact hsome
    · rw [hinbox]
      rfl
  · intro hconfirmed t hrun
    rcases hconfirmed t hrun with ⟨hsome, pdu, hpdu, hcarries⟩
    rcases run_ok hrun with
      ⟨p1, p2, p3, rest, p5, hinbox, h1, h2, h3, h5, hrest⟩
    rcases hrest with ⟨hnone, _⟩ | ⟨_, p4, hfive⟩
    · exact absurd hnone hsome
    · rw [hinbox, hfive] at hpdu
      cases hpdu
      refine ⟨p1, p2, p3, pdu, p5, ?_, ⟨h1, h2, h3, hcarries, h5⟩⟩
      rw [hinbox, hfive]
      rfl

/-- A UE that answers the RRC SecurityModeCommand with a SecurityModeFailure is
registered all the same. -/
theorem not_acceptsOnlyAttachFlow_failure :
    ¬ AcceptsOnlyAttachFlow toyApi toyTransfer
      (toyTask ([1, 2, 3, 4, 5].map toyPdu)) := by
  intro hflow
  have hok : (run toyApi toyTransfer
      (toyTask ([1, 2, 3, 4, 5].map toyPdu))).1 = Outcome.ok () := by
    decide +kernel
  have hrun : run toyApi toyTransfer (toyTask ([1, 2, 3, 4, 5].map toyPdu)) =
      (Outcome.ok (), (run toyApi toyTransfer
        (toyTask ([1, 2, 3, 4, 5].map toyPdu))).2) := by
    rw [← hok]
  rcases hflow _ hrun with ⟨p1, p2, p3, p4, p5, hinbox, hcarries⟩
  have hfourth : some (toyPdu 4) = some p4 :=
    congrArg (fun inbox => inbox[3]?) hinbox
  rw [← Option.some.inj hfourth] at hcarries
  have hfailure : ulDcchMessageIn toyApi (toyPdu 4) =
      Outcome.ok UlDcchMessage.securityModeFailure := by
    decide +kernel
  have hcomplete := hcarries.rrc_security_mode_complete
  unfold CarriesRrc at hcomplete
  rw [hfailure] at hcomplete
  cases hcomplete

end InitialAccessProcedure

end Ue
end QCore
