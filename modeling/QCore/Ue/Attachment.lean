import QCore.Ue.AttachFlow
import QCore.Ue.Exchange

/-!
# A standard UE is registered

Initial access in conversation with a standard UE.  The UE accepts every message
of the task, the task accepts every answer of the UE, and after each exchange
both hold the same keys and counts.
-/

namespace QCore
namespace Ue

open Foundation
open F1ap
open Nas
open Rrc
open Security

variable {api : HandlerApi} {ue : StandardUe} {st : UeState} {s : Task}

/-!
## What it takes
-/

/-- The core has the SIM of the UE and serves its network, the identity of the
UE is one that the core reads correctly, and the USIM takes the sequence number
that the core always uses. -/
structure Subscribed (api : HandlerApi) (ue : StandardUe) : Prop where
  sim : api.lookupSim ue.usim.imsi = some ⟨ue.usim.k, ue.usim.opc⟩
  network : ue.usim.servingNetworkName = api.config.servingNetworkName
  plmn : ue.plmn.code = api.config.plmn
  uniform : ue.plmn.mnc.Uniform
  even : ue.msin.length % 2 = 0
  long : 12 <= ue.identity.length
  sqn : ue.freshSqn #v[0, 0, 0, 0, 0, 0] = true

structure EncodesAttach (api : HandlerApi) (ue : StandardUe)
    (cellGroupConfig : Bytes) : Prop where
  rrcSetup : exists bytes, api.rrcCodec.encode
    (DlRrcMessage.rrcSetup 0 cellGroupConfig) = some bytes
  authenticationRequest : forall rand autn, exists bytes,
    api.nasCodec.encode (authenticationRequest rand autn) = some bytes ∧
      Carried api bytes
  nasSecurityModeCommand : Protects api (Carried api)
    Nas5gsSecurityHeaderType.integrityProtectedWithNewContext 0
    (nasSecurityModeCommand ue.capability)
  rrcSecurityModeCommand : exists bytes, api.rrcCodec.encode
    (DlRrcMessage.securityModeCommand 1) = some bytes
  registrationAccept : forall tmsi, Protects api (Carried api)
    Nas5gsSecurityHeaderType.integrityProtectedAndCiphered 1
    (registrationAccept api.config.sst api.config.plmn api.config.amfIds tmsi)

structure SpeaksAttach (ue : StandardUe) : Prop where
  setupComplete : exists nas bytes, ue.writeNas ue.request = some nas ∧
    ue.writeRrc (UlDcchMessage.rrcSetupComplete nas) = some bytes
  authenticationResponse : forall res : Vector UInt8 16,
    ue.CanSay (Nas5gmmMessage.authenticationResponse (some res.toList))
  nasSecurityModeComplete :
    ue.CanSay (Nas5gmmMessage.securityModeComplete (ue.writeNas ue.request))
  rrcSecurityModeComplete : exists bytes,
    ue.writeRrc UlDcchMessage.securityModeComplete = some bytes
  registrationComplete : ue.CanSay Nas5gmmMessage.registrationComplete

structure SetupRequested (api : HandlerApi) (r : InitialUlRrcMessageTransfer)
    (cellGroupConfig : Bytes) : Prop where
  cellGroup : r.duToCuRrcContainer = some cellGroupConfig
  request : api.rrcCodec.decodeUlCcch r.rrcContainer =
    some UlCcchMessage.rrcSetupRequest

/-!
## The steps
-/

namespace InitialAccessProcedure

theorem checkInitialTransfer_requested {r : InitialUlRrcMessageTransfer}
    {cellGroupConfig : Bytes} (h : SetupRequested api r cellGroupConfig) :
    checkInitialTransfer api r = Outcome.ok cellGroupConfig := by
  unfold checkInitialTransfer checkRrcSetupRequest
  rw [h.cellGroup, h.request]
  rfl

theorem checkRegistrationRequest_subscribed (hsub : Subscribed api ue) :
    checkRegistrationRequest api ⟨ue.identity, some ue.capability⟩ =
      Outcome.ok (ue.usim.imsi, ue.capability) := by
  have hidentity : fgsMobileIdentity ue.identity =
      Outcome.ok ⟨ue.usim.imsi, api.config.plmn⟩ := by
    rw [StandardUe.identity, fgsMobileIdentity_nullSchemeSuci _ _ _ _ hsub.long,
      (readDigits_eq_iff ue.plmn).mpr hsub.uniform,
      (fillerText_eq_nil_iff ue.msin.length).mpr hsub.even, List.append_nil,
      ue.imsi_eq, hsub.plmn]
  unfold checkRegistrationRequest
  simp [hidentity, Outcome.ensure, Outcome.ofOption]

theorem handleRrcSetup_succeeds (hcompat : Compatible api ue)
    (hspeaks : SpeaksAttach ue) {r : InitialUlRrcMessageTransfer}
    {cellGroupConfig rrcBytes : Bytes}
    (hrequest : SetupRequested api r cellGroupConfig)
    (hencode : api.rrcCodec.encode (DlRrcMessage.rrcSetup 0 cellGroupConfig) =
      some rrcBytes) :
    Succeeds taskLine (ue.peer api.crypto) (handleRrcSetup api r) st s
      fun x b t => x = ⟨ue.identity, some ue.capability⟩ ∧ b = st.saidRrc ∧
        t.ue = s.ue := by
  rcases hspeaks.setupComplete with ⟨nas, bytes, hnas, hbytes⟩
  rcases sendRrc_carried hcompat hbytes st with ⟨pdu, hpdu, hcarries⟩
  have hanswer : ue.answer api.crypto st
      (dlRrcMessageTransfer s.ue rrcBytes 0) = some (st.saidRrc, pdu) := by
    change ue.answerCcch api.crypto st rrcBytes = _
    unfold StandardUe.answerCcch StandardUe.setupComplete
    rw [hcompat.readRrc _ _ hencode, hnas]
    exact hpdu
  have hsend : forall inbox,
      sendRrc api 0 (DlRrcMessage.rrcSetup 0 cellGroupConfig)
          (taskLine.setInbox inbox s) =
        (Outcome.ok (), taskLine.setInbox inbox
          (s.send (dlRrcMessageTransfer s.ue rrcBytes 0)
            (DlRrcMessage.rrcSetup 0 cellGroupConfig) s.ue.pdcpTx)) := by
    intro inbox
    exact sendRrc_srb0 hencode (taskLine.setInbox inbox s)
  apply Succeeds.lift_bind (checkInitialTransfer_requested hrequest)
  apply Succeeds.bind (rrcRequest_succeeds hsend hanswer (hcarries _))
  rintro x b t ⟨rfl, rfl, ht⟩
  apply Succeeds.lift_bind rfl
  apply Succeeds.lift_bind (decodeNas_written hcompat hnas)
  exact Succeeds.lift rfl ⟨rfl, rfl, ht⟩

theorem challengeFor_subscribed (hsub : Subscribed api ue)
    (rand : Vector UInt8 16) :
    challengeFor api ⟨ue.usim.k, ue.usim.opc⟩ rand =
      Security.challengeFor api.crypto ue.usim #v[0, 0, 0, 0, 0, 0] rand := by
  unfold challengeFor Security.challengeFor
  rw [hsub.network]

theorem authenticateUe_succeeds (hcompat : Compatible api ue)
    (hspeaks : SpeaksAttach ue) (hsub : Subscribed api ue)
    (hencode : forall rand autn, exists bytes,
      api.nasCodec.encode (authenticationRequest rand autn) = some bytes ∧
        Carried api bytes)
    (hstep : InStep st s.ue) (hplain : st.nasKey = none)
    (hcount : st.pdcpCount ≠ 0xffffffff) :
    Succeeds taskLine (ue.peer api.crypto) (authenticateUe api ue.usim.imsi) st
      s fun kamf b t => exists rand autn,
        ue.usim.MacValid api.crypto rand autn ∧
        kamf = ue.usim.kamf api.crypto rand autn ∧
        b = { st.pdcpCounted with challenge := some (rand, autn) }.saidNas ∧
        InStep b t.ue := by
  let rand := api.rand s.log
  let challenge :=
    Security.challengeFor api.crypto ue.usim #v[0, 0, 0, 0, 0, 0] rand
  have hchallenge : challengeFor api ⟨ue.usim.k, ue.usim.opc⟩ rand =
      challenge := challengeFor_subscribed hsub rand
  rcases hencode rand challenge.autn with ⟨bytes, hbytes, hcarried⟩
  have hnas : s.ue.nas = ⟨none⟩ := by
    rw [hstep.nas, hplain]
    rfl
  have hencoded : NasContext.encode api.crypto api.nasCodec
      (authenticationRequest rand challenge.autn) s.ue.nas =
        (Outcome.ok bytes, ⟨none⟩) := by
    rw [hnas]
    unfold NasContext.encode
    simp only [hbytes]
  let answered : UeState :=
    { st.pdcpCounted with challenge := some (rand, challenge.autn) }
  rcases sendNas_carried hcompat
    (hspeaks.authenticationResponse (ue.usim.resStar api.crypto rand)) answered
    Nas5gsSecurityHeaderType.integrityProtectedAndCiphered with
    ⟨pdu, hpdu, hcarries⟩
  have hmac : ue.usim.MacValid api.crypto rand challenge.autn :=
    challengeFor_macValid ue.usim _ rand
  have hsqn : ue.freshSqn
      (ue.usim.sqn api.crypto rand challenge.autn) = true := by
    rw [challengeFor_sqn]
    exact hsub.sqn
  have hanswer : ue.answerNas api.crypto st.pdcpCounted bytes =
      some (answered.saidNas, pdu) := by
    unfold StandardUe.answerNas
    rw [hcompat.readNas _ _ hbytes]
    change ue.answerChallenge api.crypto st.pdcpCounted rand challenge.autn = _
    unfold StandardUe.answerChallenge
    rw [if_pos ⟨hmac, challengeFor_separated ue.usim _ rand, hsqn⟩]
    exact hpdu
  apply Succeeds.lift_bind (Outcome.ofOption_eq_ok.mpr hsub.sim)
  apply Succeeds.get (fun _ => rfl)
  change Succeeds taskLine (ue.peer api.crypto)
    (nasRequest api (authenticationRequest rand
      (challengeFor api ⟨ue.usim.k, ue.usim.opc⟩ rand).autn) >>= _) st s _
  rw [hchallenge]
  apply Succeeds.bind (nasRequest_succeeds hcompat hencoded hcarried
    hstep.covers hcount hanswer (hcarries _).left)
  rintro x b t ⟨rfl, rfl, ht⟩
  apply Succeeds.lift_bind rfl
  -- The check passes with and without `skip_ue_authentication_check`.
  apply Succeeds.lift_bind (y := ())
  · rw [← challengeFor_xresStar ue.usim #v[0, 0, 0, 0, 0, 0] rand]
    simp [checkAuthenticationResponse, Outcome.mapErr, challenge]
  · refine Succeeds.pure ⟨rand, challenge.autn, hmac, ?_, rfl, ?_⟩
    · exact challengeFor_kamf ue.usim _ rand
    · apply InStep.saidNas
      constructor
      · rw [ht]
        change _ = NasContext.mk (Option.map _ st.nasKey)
        rw [hplain]
        rfl
      · rw [ht]
        exact hstep.pdcp_counted

section Activation

variable {rand autn : Vector UInt8 16}

theorem configureNasSecurity_kamf (c : Crypto) (usim : ReferenceUe) :
    configureNasSecurity c (usim.kamf c rand autn) =
      ⟨some ⟨usim.knasint c rand autn, 0⟩⟩ := by
  unfold configureNasSecurity NasContext.enableSecurity deriveKnasint
  rw [deriveAlgorithmKey_eq]
  rfl

theorem configureRrcSecurity_kamf (c : Crypto) (usim : ReferenceUe)
    (p : PdcpTx) :
    configureRrcSecurity c (usim.kamf c rand autn) p =
      ⟨p.txNext, some (usim.krrcint c rand autn)⟩ := by
  unfold configureRrcSecurity PdcpTx.enableSecurity deriveKrrcint
  rw [deriveAlgorithmKey_eq, deriveKgnb_eq]
  rfl

theorem answerNasSecurityModeCommand_verified {bytes pdu : Bytes}
    {st' : UeState} (hchallenge : st.challenge = some (rand, autn))
    (hverifies : NasVerifies api.crypto
      (ue.usim.knasint api.crypto rand autn) 0 bytes)
    (hpdu : ue.sendNas api.crypto { st with
        nasKey := some (ue.usim.knasint api.crypto rand autn)
        nasCount := 1
        ulNasCount := 0 }
      Nas5gsSecurityHeaderType.integrityProtectedAndCipheredWithNewContext
      (Nas5gmmMessage.securityModeComplete (ue.writeNas ue.request)) =
        some (st', pdu)) :
    ue.answerNasSecurityModeCommand api.crypto st bytes
        Nas5gsSecurityHeaderType.integrityProtectedWithNewContext 0
        ⟨2, ue.capability, [0b00000010]⟩ = some (st', pdu) := by
  have haccept := @acceptNas_verified { st with
    nasKey := some (ue.usim.knasint api.crypto rand autn)
    nasCount := 0
    ulNasCount := 0 } api.crypto _ bytes rfl hverifies
  have hzero : UInt8.ofNat (0 : UInt32).toNat = 0 := rfl
  unfold StandardUe.answerNasSecurityModeCommand
  simp only [hchallenge, Option.bind_eq_bind, Option.bind_some, and_self,
    ↓reduceIte]
  simp only [hchallenge, hzero] at haccept hpdu
  rw [haccept]
  exact hpdu

theorem checkNasSecurityModeComplete_request (hcompat : Compatible api ue)
    {nas : Bytes} (hnas : ue.writeNas ue.request = some nas) :
    checkNasSecurityModeComplete api (ue.writeNas ue.request) =
      Outcome.ok () := by
  unfold checkNasSecurityModeComplete
  rw [hnas]
  simp only [decodeNas_written hcompat hnas]
  rfl

theorem activateNasSecurity_succeeds (hcompat : Compatible api ue)
    (hspeaks : SpeaksAttach ue)
    (hencode : Protects api (Carried api)
      Nas5gsSecurityHeaderType.integrityProtectedWithNewContext 0
      (nasSecurityModeCommand ue.capability))
    (hstep : InStep st s.ue) (hchallenge : st.challenge = some (rand, autn))
    (hcount : st.pdcpCount ≠ 0xffffffff) :
    Succeeds taskLine (ue.peer api.crypto)
      (activateNasSecurity api ue.capability
        (ue.usim.kamf api.crypto rand autn)) st s
      fun _ b t => b = { st.pdcpCounted with
          nasKey := some (ue.usim.knasint api.crypto rand autn)
          nasCount := 1
          ulNasCount := 0 }.saidNas ∧ InStep b t.ue := by
  have hheader : SecurityContext.headerType
      ⟨ue.usim.knasint api.crypto rand autn, 0⟩ =
        Nas5gsSecurityHeaderType.integrityProtectedWithNewContext := rfl
  rcases hspeaks.setupComplete with ⟨nas, _, hnas, _⟩
  rcases encode_protected hcompat hheader hencode with
    ⟨bytes, mac, hencoded, hcarried, hverifies, hread⟩
  let secured : UeState := { st.pdcpCounted with
    nasKey := some (ue.usim.knasint api.crypto rand autn)
    nasCount := 1
    ulNasCount := 0 }
  rcases sendNas_carried hcompat hspeaks.nasSecurityModeComplete secured
    Nas5gsSecurityHeaderType.integrityProtectedAndCipheredWithNewContext with
    ⟨pdu, hpdu, hcarries⟩
  have hanswer : ue.answerNas api.crypto st.pdcpCounted bytes =
      some (secured.saidNas, pdu) := by
    unfold StandardUe.answerNas
    rw [hread]
    exact answerNasSecurityModeCommand_verified hchallenge hverifies hpdu
  apply Succeeds.modify_bind (fun _ => rfl) rfl
  rw [configureNasSecurity_kamf]
  apply Succeeds.bind (nasRequest_succeeds (s := s.setNas _) hcompat hencoded
    hcarried hstep.covers hcount hanswer (hcarries _).left)
  rintro x b t ⟨rfl, rfl, ht⟩
  apply Succeeds.lift_bind rfl
  apply Succeeds.lift (checkNasSecurityModeComplete_request hcompat hnas)
  refine ⟨rfl, InStep.saidNas ⟨?_, ?_⟩⟩
  · rw [ht]
    rfl
  · rw [ht]
    exact hstep.pdcp_counted

theorem activateRrcSecurity_succeeds (hcompat : Compatible api ue)
    (hspeaks : SpeaksAttach ue) {rrcBytes : Bytes}
    (hencode : api.rrcCodec.encode (DlRrcMessage.securityModeCommand 1) =
      some rrcBytes)
    (hstep : InStep st s.ue) (hchallenge : st.challenge = some (rand, autn))
    (hunprotected : st.rrcKey = none) (hcount : st.pdcpCount ≠ 0xffffffff) :
    Succeeds taskLine (ue.peer api.crypto)
      (activateRrcSecurity api (ue.usim.kamf api.crypto rand autn)) st s
      fun _ b t => b = { st.pdcpCounted with
          rrcKey := some (ue.usim.krrcint api.crypto rand autn) }.saidRrc ∧
        InStep b t.ue := by
  let p : PdcpTx := ⟨st.pdcpCount, some (ue.usim.krrcint api.crypto rand autn)⟩
  let secured : UeState := { st.pdcpCounted with
    rrcKey := some (ue.usim.krrcint api.crypto rand autn) }
  have hkey : configureRrcSecurity api.crypto
      (ue.usim.kamf api.crypto rand autn) s.ue.pdcpTx = p := by
    rw [configureRrcSecurity_kamf, hstep.pdcp]
  -- The UE has no RRC key yet, so it reads the command before it verifies it.
  have hcovers : Covers st p := by
    refine ⟨rfl, ?_⟩
    intro key hmem
    rw [hunprotected] at hmem
    cases hmem
  have hverifies : PdcpVerifies api.crypto
      (ue.usim.krrcint api.crypto rand autn) st.pdcpCount
      (p.srb1Pdu api.crypto rrcBytes) := by
    have hpdu := @PdcpTx.encode_srb1 api.crypto true p (by simp [p, hcount])
      rrcBytes
    exact (pdcpEncode_verifies rfl hpdu).left
  rcases hspeaks.rrcSecurityModeComplete with ⟨bytes, hbytes⟩
  rcases sendRrc_carried hcompat hbytes secured with ⟨pdu, hpdu, hcarries⟩
  have hanswer : ue.answerRrc api.crypto st (p.srb1Pdu api.crypto rrcBytes)
      (DlRrcMessage.securityModeCommand 1) = some (secured.saidRrc, pdu) := by
    change ue.answerRrcSecurityModeCommand api.crypto st
      (p.srb1Pdu api.crypto rrcBytes) = _
    unfold StandardUe.answerRrcSecurityModeCommand
    simp only [hchallenge, Option.bind_eq_bind, Option.bind_some,
      if_pos hverifies]
    exact hpdu
  apply Succeeds.modify_bind (fun _ => rfl) rfl
  rw [hkey]
  apply Succeeds.bind (Succeeds.attempt (srb1Request_succeeds
    (s := s.setPdcpTx p) hcompat hencode hcovers hcount hanswer (hcarries _)))
  rintro result b t ⟨x, rfl, rfl, rfl, ht⟩
  refine Succeeds.pure ⟨rfl, ?_, ?_⟩
  · rw [ht]
    exact hstep.nas
  · rw [ht]
    rfl

theorem completeNasRegistration_succeeds (hcompat : Compatible api ue)
    (hspeaks : SpeaksAttach ue) {key : Key128}
    (hencode : forall tmsi, Protects api (Carried api)
      Nas5gsSecurityHeaderType.integrityProtectedAndCiphered 1
      (registrationAccept api.config.sst api.config.plmn api.config.amfIds
        tmsi))
    (hstep : InStep st s.ue) (hkey : st.nasKey = some key)
    (hnasCount : st.nasCount = 1) (hcount : st.pdcpCount ≠ 0xffffffff) :
    Succeeds taskLine (ue.peer api.crypto) (completeNasRegistration api) st s
      fun _ b t => b = { st.pdcpCounted with nasCount := 2 }.saidNas ∧
        InStep b t.ue := by
  have hheader : SecurityContext.headerType ⟨key, 1⟩ =
      Nas5gsSecurityHeaderType.integrityProtectedAndCiphered := rfl
  have hseq : UInt8.ofNat (1 : UInt32).toNat = 1 := rfl
  have hnext : ((1 : UInt32) + 1) % 0x1000000 = 2 := by decide
  rcases encode_protected hcompat hheader (hencode s.ue.tmsi) with
    ⟨bytes, mac, hencoded, hcarried, hverifies, hread⟩
  rw [hnext] at hencoded
  have hnas := hstep.nas_secured hkey
  rw [hnasCount] at hnas
  rw [← hnas] at hencoded
  let accepted : UeState := { st.pdcpCounted with nasCount := 2 }
  have haccept : st.pdcpCounted.acceptNas api.crypto
      (UInt8.ofNat (1 : UInt32).toNat) bytes = some accepted := by
    have hverified : st.pdcpCounted.acceptNas api.crypto
        (UInt8.ofNat st.nasCount.toNat) bytes =
          some { st.pdcpCounted with
            nasCount := (st.nasCount + 1) % 0x1000000 } :=
      acceptNas_verified hkey (by rw [← hnasCount] at hverifies; exact hverifies)
    rw [hnasCount, hnext] at hverified
    exact hverified
  rcases sendNas_carried hcompat hspeaks.registrationComplete accepted
    Nas5gsSecurityHeaderType.integrityProtectedAndCiphered with
    ⟨pdu, hpdu, hcarries⟩
  have hanswer : ue.answerNas api.crypto st.pdcpCounted bytes =
      some (accepted.saidNas, pdu) := by
    unfold StandardUe.answerNas
    rw [hread]
    change (st.pdcpCounted.acceptNas api.crypto
      (UInt8.ofNat (1 : UInt32).toNat) bytes).bind _ = _
    rw [haccept]
    exact hpdu
  apply Succeeds.get (fun _ => rfl)
  apply Succeeds.bind (nasRequest_succeeds hcompat hencoded hcarried
    hstep.covers hcount hanswer (hcarries _).left)
  rintro x b t ⟨rfl, rfl, ht⟩
  apply Succeeds.lift rfl
  refine ⟨rfl, InStep.saidNas ⟨?_, ?_⟩⟩
  · rw [ht]
    change _ = NasContext.mk (Option.map _ st.nasKey)
    rw [hkey]
    rfl
  · rw [ht]
    exact hstep.pdcp_counted

end Activation

/-!
## The whole procedure
-/

/-- The UE and the task hold the keys of one challenge, and have counted the
same messages: two on NAS and four on SRB1 to the UE, which has sent two
protected NAS messages and five PDUs of SRB1. -/
structure Attached (api : HandlerApi) (ue : StandardUe) (st : UeState)
    (u : UeContext) : Prop where
  inStep : InStep st u
  keys : exists rand autn, ue.usim.MacValid api.crypto rand autn ∧
    st = { challenge := some (rand, autn)
           nasKey := some (ue.usim.knasint api.crypto rand autn)
           nasCount := 2
           ulNasCount := 2
           rrcKey := some (ue.usim.krrcint api.crypto rand autn)
           pdcpCount := 4
           ulPdcpCount := 5
           pduAddress := none }

theorem run_succeeds (hcompat : Compatible api ue) (hspeaks : SpeaksAttach ue)
    {r : InitialUlRrcMessageTransfer} {cellGroupConfig : Bytes}
    (hrequest : SetupRequested api r cellGroupConfig)
    (hsub : Subscribed api ue) (hencodes : EncodesAttach api ue cellGroupConfig)
    (hfresh : InStep UeState.start s.ue) :
    Succeeds taskLine (ue.peer api.crypto) (run api r) UeState.start s
      fun _ st t => Attached api ue st t.ue := by
  rcases hencodes.rrcSetup with ⟨setupBytes, hsetup⟩
  rcases hencodes.rrcSecurityModeCommand with ⟨commandBytes, hcommand⟩
  apply Succeeds.bind (handleRrcSetup_succeeds hcompat hspeaks hrequest hsetup)
  rintro x b t ⟨rfl, rfl, ht⟩
  have hstep : InStep UeState.start.saidRrc t.ue := by
    rw [ht]
    exact ⟨hfresh.nas, hfresh.pdcp⟩
  apply Succeeds.lift_bind (checkRegistrationRequest_subscribed hsub)
  apply Succeeds.bind (authenticateUe_succeeds hcompat hspeaks hsub
    hencodes.authenticationRequest hstep rfl (by decide))
  -- From here on each step is told the state in which the one before it left the
  -- UE, and the count on SRB1 that goes with it.
  rintro kamf st1 t1 ⟨rand, autn, hmac, rfl, hst1, hstep1⟩
  have hcount1 : st1.pdcpCount = 1 := by rw [hst1]; rfl
  apply Succeeds.bind (activateNasSecurity_succeeds hcompat hspeaks
    hencodes.nasSecurityModeCommand hstep1 (by rw [hst1]; rfl)
    (by rw [hcount1]; decide))
  rintro _ st2 t2 ⟨hst2, hstep2⟩
  have hcount2 : st2.pdcpCount = 2 := by rw [hst2, hst1]; rfl
  apply Succeeds.bind (activateRrcSecurity_succeeds hcompat hspeaks hcommand
    hstep2 (by rw [hst2, hst1]; rfl) (by rw [hst2, hst1]; rfl)
    (by rw [hcount2]; decide))
  rintro _ st3 t3 ⟨hst3, hstep3⟩
  have hcount3 : st3.pdcpCount = 3 := by rw [hst3, hst2, hst1]; rfl
  apply Succeeds.weaken (completeNasRegistration_succeeds hcompat hspeaks
    hencodes.registrationAccept hstep3 (by rw [hst3, hst2]; rfl)
    (by rw [hst3, hst2]; rfl) (by rw [hcount3]; decide))
  rintro _ st4 t4 ⟨hst4, hstep4⟩
  refine ⟨hstep4, rand, autn, hmac, ?_⟩
  rw [hst4, hst3, hst2, hst1]
  rfl

end InitialAccessProcedure

/-!
## A UE of the small network
-/

def smallUe : StandardUe where
  usim :=
    { k := toySim.ki
      opc := toySim.opc
      servingNetworkName := toyApi.config.servingNetworkName
      imsi := toyImsi }
  freshSqn := fun _ => true
  plmn := twoDigitPlmn
  routing := Vector.replicate 2 0
  keyId := 0
  msin := toyMsin
  capability := [0xf0, 0xf0]
  session := ⟨1, 1⟩
  dnn := none
  readRrc := Small.decodeDl
  readNas := Small.decodeNas
  writeRrc := fun rrc => some (Small.encodeUlDcch rrc)
  writeNas := fun nas => some (Small.encodeNas nas)
  imsi_eq := rfl

theorem small_readsProtected : ReadsProtected Small.decodeNas := by
  intro headerType mac seq plain message hplain
  rcases mac with ⟨⟨octets⟩, hlen⟩
  match octets, hlen with
  | [m1, m2, m3, m4], _ =>
      have hread :=
        Small.decodeNas_protected headerType m1 m2 m3 m4 seq plain
      rw [hplain] at hread
      exact ⟨Small.readMac [m1, m2, m3, m4], hread⟩

section SmallUe

variable (setup : List UeEvent -> UeContextSetupRequest ->
  Except RequestError UeContextSetupResponse)

theorem smallUe_compatible :
    Compatible { toyApi with ueContextSetup := setup } smallUe where
  readRrc _ _ h := Small.decodeDl_encode h
  readNas nas bytes h := by
    cases h
    exact Small.decodeNas_encode nas
  readProtected := small_readsProtected
  encodeProtected _ _ _ := rfl
  decodeRrc rrc bytes h := by
    cases h
    exact Small.decodeUlDcch_encode rrc
  decodeNas nas bytes h := by
    cases h
    exact Small.decodeNas_encode nas
  decodeProtected := small_readsProtected
  plain _ bytes h := by
    cases h
    rfl

theorem smallUe_canSay (message : Nas5gmmMessage) : smallUe.CanSay message :=
  ⟨_, rfl, ⟨_, rfl⟩, fun _ _ _ => ⟨_, rfl⟩⟩

theorem smallUe_speaks : SpeaksAttach smallUe where
  setupComplete := ⟨_, _, rfl, rfl⟩
  authenticationResponse _ := smallUe_canSay _
  nasSecurityModeComplete := smallUe_canSay _
  rrcSecurityModeComplete := ⟨_, rfl⟩
  registrationComplete := smallUe_canSay _

theorem smallUe_subscribed :
    Subscribed { toyApi with ueContextSetup := setup } smallUe where
  sim := rfl
  network := rfl
  plmn := rfl
  uniform := trivial
  even := rfl
  long := by decide
  sqn := rfl

theorem smallUe_encodes (cellGroupConfig : Bytes) :
    EncodesAttach { toyApi with ueContextSetup := setup } smallUe
      cellGroupConfig where
  rrcSetup := ⟨_, rfl⟩
  authenticationRequest _ _ := ⟨_, rfl, _, rfl⟩
  nasSecurityModeCommand := ⟨_, rfl, fun _ => ⟨_, rfl⟩⟩
  rrcSecurityModeCommand := ⟨_, rfl⟩
  registrationAccept _ := ⟨_, rfl, fun _ => ⟨_, rfl⟩⟩

end SmallUe

end Ue
end QCore
