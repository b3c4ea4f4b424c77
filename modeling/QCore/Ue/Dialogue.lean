import QCore.Foundation.Machine
import QCore.Ue.AttachFlow
import QCore.Ue.Upkeep

/-!
# The dialogue of a UE task

What a UE task does, as seen from outside, is a walk through a small machine:
the five exchanges of initial access, then idle, with a session establishment
or a release for some of the PDUs that arrive.  From most stages the task may
give up, and then it only destroys the context.

The machine is given first.  The rest of the file shows that the log of every
run of a UE task is a walk through it.
-/

namespace QCore
namespace Ue

open Foundation
open Foundation.Cmd
open F1ap
open Nas
open Rrc
open Security
open Userplane

/-- Each exchange sends one downlink transfer and takes one PDU. -/
inductive Exchange where
  | rrcSetup
  | authentication
  | nasSecurity
  | rrcSecurity
  | registration
  | reconfiguration
deriving DecidableEq, Repr

inductive Stage where
  /-- The channel has not been read. -/
  | fresh
  | starting (exchange : Exchange)
  /-- The NAS message of the exchange has been encoded. -/
  | encoded (exchange : Exchange)
  | awaiting (exchange : Exchange)
  | idle
  | reserving
  | settingUp (session : UserplaneSession)
  | accepting (session : UserplaneSession)
  | committing (session : UserplaneSession)
  | releasing
  | ending
deriving DecidableEq, Repr

inductive Purpose where
  | release
  | session
  | nothing
deriving DecidableEq, Repr

def Exchange.sends (exchange : Exchange) (srbId : SrbId) (rrc : DlRrcMessage) :
    Bool :=
  match exchange, rrc with
  | rrcSetup, DlRrcMessage.rrcSetup _ _ => srbId == 0
  | authentication, DlRrcMessage.dlInformationTransfer _ _ => srbId == 1
  | nasSecurity, DlRrcMessage.dlInformationTransfer _ _ => srbId == 1
  | rrcSecurity, DlRrcMessage.securityModeCommand _ => srbId == 1
  | registration, DlRrcMessage.dlInformationTransfer _ _ => srbId == 1
  | reconfiguration, DlRrcMessage.rrcReconfiguration _ => srbId == 1
  | _, _ => false

def Exchange.following : Exchange -> Stage
  | rrcSetup => Stage.starting authentication
  | authentication => Stage.starting nasSecurity
  | nasSecurity => Stage.starting rrcSecurity
  | rrcSecurity => Stage.starting registration
  | registration => Stage.idle
  | reconfiguration => Stage.idle

variable (api : HandlerApi) (cu : GnbCuUeF1apId) (du : GnbDuUeF1apId)

def nasPurpose (nasBytes : Bytes) : Purpose :=
  match decodeNas api (patchNasForOaiDeregistrationSecurityHeader nasBytes) with
  | Outcome.ok (Nas5gsMessage.gmm Nas5gmmMessage.deregistrationRequestFromUe) =>
      Purpose.release
  | Outcome.ok (Nas5gsMessage.gmm
      (Nas5gmmMessage.ulNasTransport payloadContainer _)) =>
      match api.nasCodec.decode payloadContainer with
      | some (Nas5gsMessage.gsm _
          Nas5gsmMessage.pduSessionEstablishmentRequest) => Purpose.session
      | _ => Purpose.nothing
  | _ => Purpose.nothing

/-- A release is asked for by the DU, or by the UE when it deregisters. -/
def purposeOf : F1apPdu -> Purpose
  | F1apPdu.ueContextReleaseRequest _ => Purpose.release
  | F1apPdu.ulRrcMessageTransfer r =>
      match extractUlDcchMessage api r with
      | Outcome.ok (UlDcchMessage.ulInformationTransfer (some nasBytes)) =>
          nasPurpose api nasBytes
      | _ => Purpose.nothing
  | _ => Purpose.nothing

def Purpose.stage : Purpose -> Stage
  | release => Stage.releasing
  | session => Stage.reserving
  | nothing => Stage.idle

namespace Stage

/-- An answer that is not an uplink transfer makes the task give up, but what
answers the RRC security mode command is not looked at. -/
def receive (pdu : F1apPdu) : Stage -> Option Stage
  | fresh =>
      match pdu with
      | F1apPdu.initialUlRrcMessageTransfer _ =>
          some (starting Exchange.rrcSetup)
      | _ => none
  | awaiting Exchange.rrcSecurity => some (starting Exchange.registration)
  | awaiting exchange =>
      match pdu with
      | F1apPdu.ulRrcMessageTransfer _ => some exchange.following
      | _ => some ending
  | idle => some (purposeOf api pdu).stage
  | _ => none

/-- A task whose RRC security exchange fails goes on to the registration. -/
def encode : Stage -> Option Stage
  | starting Exchange.authentication => some (encoded Exchange.authentication)
  | starting Exchange.nasSecurity => some (encoded Exchange.nasSecurity)
  | starting Exchange.rrcSecurity => some (encoded Exchange.registration)
  | awaiting Exchange.rrcSecurity => some (encoded Exchange.registration)
  | starting Exchange.registration => some (encoded Exchange.registration)
  | accepting session => some (committing session)
  | _ => none

def toSend : Stage -> Option Exchange
  | starting Exchange.rrcSetup => some Exchange.rrcSetup
  | starting Exchange.rrcSecurity => some Exchange.rrcSecurity
  | starting Exchange.reconfiguration => some Exchange.reconfiguration
  | encoded exchange => some exchange
  | _ => none

def transfer (srbId : SrbId) (rrc : DlRrcMessage) (stage : Stage) :
    Option Stage :=
  stage.toSend.bind fun exchange =>
    if exchange.sends srbId rrc then some (awaiting exchange) else none

def reserve (answer : Except UserplaneError UserplaneSession) :
    Stage -> Option Stage
  | reserving =>
      match answer with
      | Except.ok session => some (settingUp session)
      | Except.error _ => some ending
  | _ => none

def setUp : Stage -> Option Stage
  | settingUp session => some (accepting session)
  | _ => none

def commit (session : UserplaneSession) (answer : Except UserplaneError Unit) :
    Stage -> Option Stage
  | committing reserved =>
      if reserved = session then
        match answer with
        | Except.ok _ => some (starting Exchange.reconfiguration)
        | Except.error _ => some ending
      else
        none
  | _ => none

def release (command : UeContextReleaseCommand) : Stage -> Option Stage
  | releasing =>
      if command.gnbCuUeF1apId = cu ∧ command.gnbDuUeF1apId = du then
        some ending
      else
        none
  | _ => none

def mayEnd : Stage -> Bool
  | fresh => false
  | reserving => false
  | releasing => false
  | _ => true

def destroy (stage : Stage) : Option Stage :=
  if stage.mayEnd then some ending else none

def next (stage : Stage) : UeEvent -> Option Stage
  | UeEvent.received pdu => stage.receive api pdu
  | UeEvent.encodedNas _ _ => stage.encode
  | UeEvent.dlRrcMessageTransfer transfer rrc =>
      stage.transfer transfer.srbId rrc
  | UeEvent.ueContextSetup _ _ => stage.setUp
  | UeEvent.ueContextRelease command _ => stage.release cu du command
  | UeEvent.reserve answer => stage.reserve answer
  | UeEvent.commit session _ answer => stage.commit session answer
  | UeEvent.delete _ => stage.destroy
  | UeEvent.deleteUeChannel _ => stage.destroy

end Stage

def dialogue : Machine Stage UeEvent where
  step := Stage.next api cu du

/-!
## The turns of the dialogue
-/

def Exchange.carriesNas : Exchange -> Bool
  | authentication => true
  | nasSecurity => true
  | registration => true
  | _ => false

inductive Turn : Stage -> UeEvent -> Stage -> Prop where
  | begun (r : InitialUlRrcMessageTransfer) :
      Turn Stage.fresh
        (UeEvent.received (F1apPdu.initialUlRrcMessageTransfer r))
        (Stage.starting Exchange.rrcSetup)
  | answered (exchange : Exchange) (pdu : F1apPdu) :
      Turn (Stage.awaiting exchange) (UeEvent.received pdu) exchange.following
  | misanswered (exchange : Exchange) (pdu : F1apPdu) :
      Turn (Stage.awaiting exchange) (UeEvent.received pdu) Stage.ending
  | asked (pdu : F1apPdu) :
      Turn Stage.idle (UeEvent.received pdu) (purposeOf api pdu).stage
  | encoded (exchange : Exchange) (nas : Nas5gsMessage) (bytes : Bytes) :
      exchange.carriesNas = true ->
      Turn (Stage.starting exchange) (UeEvent.encodedNas nas bytes)
        (Stage.encoded exchange)
  | unsecured (stage : Stage) (nas : Nas5gsMessage) (bytes : Bytes) :
      stage = Stage.starting Exchange.rrcSecurity ∨
        stage = Stage.awaiting Exchange.rrcSecurity ->
      Turn stage (UeEvent.encodedNas nas bytes)
        (Stage.encoded Exchange.registration)
  | accepted (session : UserplaneSession) (nas : Nas5gsMessage)
      (bytes : Bytes) :
      Turn (Stage.accepting session) (UeEvent.encodedNas nas bytes)
        (Stage.committing session)
  | sent (stage : Stage) (exchange : Exchange) (t : DlRrcMessageTransfer)
      (rrc : DlRrcMessage) :
      stage.toSend = some exchange -> exchange.sends t.srbId rrc = true ->
      Turn stage (UeEvent.dlRrcMessageTransfer t rrc) (Stage.awaiting exchange)
  | reserved (session : UserplaneSession) :
      Turn Stage.reserving (UeEvent.reserve (Except.ok session))
        (Stage.settingUp session)
  | refused (e : UserplaneError) :
      Turn Stage.reserving (UeEvent.reserve (Except.error e)) Stage.ending
  | setUp (session : UserplaneSession) (request : UeContextSetupRequest)
      (answer : Except RequestError UeContextSetupResponse) :
      Turn (Stage.settingUp session) (UeEvent.ueContextSetup request answer)
        (Stage.accepting session)
  | committed (session : UserplaneSession) (tunnel : GtpTunnel) (u : Unit) :
      Turn (Stage.committing session)
        (UeEvent.commit session tunnel (Except.ok u))
        (Stage.starting Exchange.reconfiguration)
  | uncommitted (session : UserplaneSession) (tunnel : GtpTunnel)
      (e : UserplaneError) :
      Turn (Stage.committing session)
        (UeEvent.commit session tunnel (Except.error e)) Stage.ending
  | commanded (command : UeContextReleaseCommand)
      (answer : Except RequestError Unit) :
      command.gnbCuUeF1apId = cu -> command.gnbDuUeF1apId = du ->
      Turn Stage.releasing (UeEvent.ueContextRelease command answer)
        Stage.ending
  | deleted (stage : Stage) (session : UserplaneSession) :
      stage.mayEnd = true -> Turn stage (UeEvent.delete session) Stage.ending
  | closed (stage : Stage) (ueId : GnbCuUeF1apId) :
      stage.mayEnd = true ->
      Turn stage (UeEvent.deleteUeChannel ueId) Stage.ending

theorem turn_of_receive {stage stage' : Stage} {pdu : F1apPdu}
    (h : stage.receive api pdu = some stage') :
    Turn api cu du stage (UeEvent.received pdu) stage' := by
  cases stage with
  | fresh =>
      cases pdu with
      | initialUlRrcMessageTransfer r =>
          cases h
          exact Turn.begun r
      | _ => cases h
  | idle =>
      cases h
      exact Turn.asked pdu
  | awaiting exchange =>
      cases exchange with
      | rrcSecurity =>
          cases h
          exact Turn.answered Exchange.rrcSecurity pdu
      | _ =>
          cases pdu with
          | ulRrcMessageTransfer r =>
              cases h
              exact Turn.answered _ _
          | _ =>
              cases h
              exact Turn.misanswered _ _
  | _ => cases h

theorem turn_of_encode {stage stage' : Stage} (nas : Nas5gsMessage)
    (bytes : Bytes) (h : stage.encode = some stage') :
    Turn api cu du stage (UeEvent.encodedNas nas bytes) stage' := by
  unfold Stage.encode at h
  split at h
  · cases h
    exact Turn.encoded _ nas bytes rfl
  · cases h
    exact Turn.encoded _ nas bytes rfl
  · cases h
    exact Turn.unsecured _ nas bytes (Or.inl rfl)
  · cases h
    exact Turn.unsecured _ nas bytes (Or.inr rfl)
  · cases h
    exact Turn.encoded _ nas bytes rfl
  · cases h
    exact Turn.accepted _ nas bytes
  · cases h

theorem ending_of_destroy {stage stage' : Stage}
    (h : stage.destroy = some stage') :
    stage.mayEnd = true ∧ stage' = Stage.ending := by
  simp only [Stage.destroy, Option.ite_none_right_eq_some] at h
  exact ⟨h.left, (Option.some.inj h.right).symm⟩

theorem turn_of_step {stage stage' : Stage} {event : UeEvent}
    (h : (dialogue api cu du).step stage event = some stage') :
    Turn api cu du stage event stage' := by
  cases event with
  | received pdu => exact turn_of_receive api cu du h
  | encodedNas nas bytes => exact turn_of_encode api cu du nas bytes h
  | dlRrcMessageTransfer t rrc =>
      rcases Option.bind_eq_some_iff.mp h with ⟨exchange, hsend, hsends⟩
      simp only [Option.ite_none_right_eq_some] at hsends
      rw [← Option.some.inj hsends.right]
      exact Turn.sent stage exchange t rrc hsend hsends.left
  | ueContextSetup request answer =>
      cases stage with
      | settingUp session =>
          cases h
          exact Turn.setUp session request answer
      | _ => cases h
  | ueContextRelease command answer =>
      cases stage with
      | releasing =>
          replace h : Stage.release cu du command Stage.releasing =
            some stage' := h
          simp only [Stage.release, Option.ite_none_right_eq_some] at h
          rw [← Option.some.inj h.right]
          exact Turn.commanded command answer h.left.left h.left.right
      | _ => cases h
  | reserve answer =>
      cases stage with
      | reserving =>
          cases answer with
          | ok session =>
              cases h
              exact Turn.reserved session
          | error e =>
              cases h
              exact Turn.refused e
      | _ => cases h
  | commit session tunnel answer =>
      cases stage with
      | committing reserved =>
          replace h : Stage.commit session answer (Stage.committing reserved) =
            some stage' := h
          simp only [Stage.commit, Option.ite_none_right_eq_some] at h
          rw [h.left]
          cases answer with
          | ok u =>
              cases h.right
              exact Turn.committed session tunnel u
          | error e =>
              cases h.right
              exact Turn.uncommitted session tunnel e
      | _ => cases h
  | delete session =>
      rcases ending_of_destroy h with ⟨hend, hstage⟩
      rw [hstage]
      exact Turn.deleted stage session hend
  | deleteUeChannel ueId =>
      rcases ending_of_destroy h with ⟨hend, hstage⟩
      rw [hstage]
      exact Turn.closed stage ueId hend

/-!
## The requests of a UE task
-/

/-- The log of the task has led to this stage, and its context has the ids of
the UE. -/
structure At (stage : Stage) (s : Task) : Prop where
  reached : (dialogue api cu du).run Stage.fresh s.log = some stage
  key : s.ue.key = cu
  duId : s.ue.gnbDuUeF1apId = du

def Stopped (s : Task) : Prop :=
  exists stage, stage.mayEnd = true ∧ At api cu du stage s

variable {api cu du}

theorem At.record {stage stage' : Stage} {s : Task} {event : UeEvent}
    (h : At api cu du stage s)
    (hnext : stage.next api cu du event = some stage') :
    At api cu du stage' (s.record event) := by
  constructor
  · show (dialogue api cu du).run Stage.fresh (s.log ++ [event]) = _
    rw [Machine.run_append h.reached,
      Machine.run_cons_of_step (M := dialogue api cu du) [] hnext]
    rfl
  · exact h.key
  · exact h.duId

theorem At.setPdcpTx {stage : Stage} {s : Task} (h : At api cu du stage s)
    (p : PdcpTx) : At api cu du stage (s.setPdcpTx p) :=
  ⟨h.reached, h.key, h.duId⟩

theorem At.setNas {stage : Stage} {s : Task} (h : At api cu du stage s)
    (n : NasContext) : At api cu du stage (s.setNas n) :=
  ⟨h.reached, h.key, h.duId⟩

theorem At.stopped {stage : Stage} {s : Task} (h : At api cu du stage s)
    (hend : stage.mayEnd = true) : Stopped api cu du s :=
  ⟨stage, hend, h⟩

theorem recv_at {stage : Stage} {following : F1apPdu -> Stage}
    (hnext : forall pdu, stage.receive api pdu = some (following pdu)) :
    Triple (At api cu du stage) recv (fun pdu => At api cu du (following pdu))
      (At api cu du stage) := by
  intro s hs
  rcases recv_cases s with ⟨_, hcase⟩ | ⟨pdu, rest, _, hcase⟩
  · rw [hcase]
    exact hs
  · rw [hcase]
    have hsame : At api cu du stage { s with inbox := rest } :=
      ⟨hs.reached, hs.key, hs.duId⟩
    exact hsame.record (hnext pdu)

theorem encodeNas_at {stage stage' : Stage} (nas : Nas5gsMessage)
    (hnext : stage.encode = some stage') :
    Triple (At api cu du stage) (encodeNas api nas)
      (fun _ => At api cu du stage') (At api cu du stage) := by
  intro s hs
  rcases encodeNas_cases nas s with ⟨bytes, n, _, hcase⟩ | ⟨e, hcase⟩ | hcase
  · rw [hcase]
    exact (hs.setNas n).record hnext
  · rw [hcase]
    exact hs
  · rw [hcase]
    exact hs

theorem sendRrc_at {stage : Stage} {exchange : Exchange} {srbId : SrbId}
    {rrc : DlRrcMessage} (hsend : stage.toSend = some exchange)
    (hrrc : exchange.sends srbId rrc = true) :
    Triple (At api cu du stage) (sendRrc api srbId rrc)
      (fun _ => At api cu du (Stage.awaiting exchange))
      (At api cu du stage) := by
  intro s hs
  rcases sendRrc_sent api srbId rrc s with
    ⟨_, hcase⟩ | ⟨rrcBytes, _, hcase | ⟨rrcContainer, p, _, hcase⟩⟩
  · rw [hcase]
    exact hs
  · rw [hcase]
    exact hs
  · rw [hcase]
    apply (hs.setPdcpTx p).record
    show stage.transfer srbId rrc = _
    rw [Stage.transfer, hsend, Option.bind_some, if_pos hrrc]

def Exchange.answered (exchange : Exchange) : F1apPdu -> Stage
  | F1apPdu.ulRrcMessageTransfer _ => exchange.following
  | _ => Stage.ending

theorem receive_awaiting {exchange : Exchange}
    (hne : exchange ≠ Exchange.rrcSecurity) (pdu : F1apPdu) :
    (Stage.awaiting exchange).receive api pdu =
      some (exchange.answered pdu) := by
  cases exchange with
  | rrcSecurity => exact absurd rfl hne
  | _ => cases pdu <;> rfl

theorem mayEnd_following (exchange : Exchange) :
    exchange.following.mayEnd = true := by
  cases exchange <;> rfl

theorem ulDcchMessageIn_at {exchange : Exchange} (pdu : F1apPdu) :
    Triple (At api cu du (exchange.answered pdu))
      (lift (ulDcchMessageIn api pdu) : UeM UlDcchMessage)
      (fun _ => At api cu du exchange.following) (Stopped api cu du) := by
  cases pdu with
  | ulRrcMessageTransfer r =>
      apply triple_lift
      · exact fun _ _ _ hs => hs
      · exact fun _ hs => hs.stopped (mayEnd_following exchange)
  | _ =>
      apply triple_lift
      · intro _ _ hok _
        cases hok
      · exact fun _ hs => hs.stopped rfl

theorem rrcRequest_at {stage : Stage} {exchange : Exchange} {srbId : SrbId}
    {rrc : DlRrcMessage} (hend : stage.mayEnd = true)
    (hsend : stage.toSend = some exchange)
    (hrrc : exchange.sends srbId rrc = true)
    (hne : exchange ≠ Exchange.rrcSecurity) :
    Triple (At api cu du stage) (rrcRequest api srbId rrc)
      (fun _ => At api cu du exchange.following) (Stopped api cu du) := by
  apply triple_bind ((sendRrc_at hsend hrrc).conseq (fun _ hs => hs)
    (fun _ _ hs => hs) fun _ hs => hs.stopped hend)
  intro _
  apply triple_bind ((recv_at (receive_awaiting hne)).conseq (fun _ hs => hs)
    (fun _ _ hs => hs) fun _ hs => hs.stopped rfl)
  exact ulDcchMessageIn_at

theorem nasRequest_at {stage : Stage} {exchange : Exchange}
    (nas : Nas5gsMessage) (hend : stage.mayEnd = true)
    (hencode : stage.encode = some (Stage.encoded exchange))
    (hrrc : forall bytes, exchange.sends 1
      (DlRrcMessage.dlInformationTransfer 1 bytes) = true) :
    Triple (At api cu du stage) (nasRequest api nas)
      (fun _ => At api cu du exchange.following) (Stopped api cu du) := by
  have hne : exchange ≠ Exchange.rrcSecurity := by
    intro heq
    rw [heq] at hrrc
    cases hrrc []
  apply triple_bind ((encodeNas_at nas hencode).conseq (fun _ hs => hs)
    (fun _ _ hs => hs) fun _ hs => hs.stopped hend)
  intro bytes
  apply triple_bind (rrcRequest_at rfl rfl (hrrc bytes) hne)
  intro response
  apply triple_lift
  · exact fun _ _ _ hs => hs
  · exact fun _ hs => hs.stopped (mayEnd_following exchange)

theorem lift_at {α : Type} {stage : Stage} (hend : stage.mayEnd = true)
    (x : Outcome UeError α) :
    Triple (At api cu du stage) (lift x : UeM α)
      (fun _ => At api cu du stage) (Stopped api cu du) :=
  triple_lift (fun _ _ _ hs => hs) fun _ hs => hs.stopped hend

/-!
## Initial access
-/

theorem handleRrcSetup_at (r : InitialUlRrcMessageTransfer) :
    Triple (At api cu du (Stage.starting Exchange.rrcSetup))
      (InitialAccessProcedure.handleRrcSetup api r)
      (fun _ => At api cu du (Stage.starting Exchange.authentication))
      (Stopped api cu du) := by
  apply triple_bind (lift_at rfl _)
  intro cellGroupConfig
  apply triple_bind (rrcRequest_at rfl rfl rfl (by simp))
  intro response
  exact triple_bind (lift_at rfl _) fun _ =>
    triple_bind (lift_at rfl _) fun _ => lift_at rfl _

theorem authenticateUe_at (imsi : Bytes) :
    Triple (At api cu du (Stage.starting Exchange.authentication))
      (InitialAccessProcedure.authenticateUe api imsi)
      (fun _ => At api cu du (Stage.starting Exchange.nasSecurity))
      (Stopped api cu du) := by
  apply triple_bind (lift_at rfl _)
  intro sim
  apply triple_bind (R := fun _ =>
    At api cu du (Stage.starting Exchange.authentication))
  · exact triple_get fun _ hs => hs
  · intro s
    apply triple_bind (nasRequest_at _ rfl rfl fun _ => rfl)
    intro nas
    exact triple_bind (lift_at rfl _) fun _ =>
      triple_bind (lift_at rfl _) fun _ => triple_pure fun _ hs => hs

theorem activateNasSecurity_at (capabilities : Bytes) (kamf : Key256) :
    Triple (At api cu du (Stage.starting Exchange.nasSecurity))
      (InitialAccessProcedure.activateNasSecurity api capabilities kamf)
      (fun _ => At api cu du (Stage.starting Exchange.rrcSecurity))
      (Stopped api cu du) := by
  apply triple_bind (R := fun _ =>
    At api cu du (Stage.starting Exchange.nasSecurity))
  · exact triple_modify fun _ hs => hs.setNas _
  · intro _
    apply triple_bind (nasRequest_at _ rfl rfl fun _ => rfl)
    intro nas
    exact triple_bind (lift_at rfl _) fun _ => lift_at rfl _

/-- The ways in which the RRC security exchange can end: its command could not
be encoded, the channel is closed, or some PDU was taken. -/
def ReadyToRegister (api : HandlerApi) (cu : GnbCuUeF1apId)
    (du : GnbDuUeF1apId) (s : Task) : Prop :=
  At api cu du (Stage.starting Exchange.rrcSecurity) s ∨
    At api cu du (Stage.awaiting Exchange.rrcSecurity) s ∨
    At api cu du (Stage.starting Exchange.registration) s

theorem ReadyToRegister.stopped {s : Task} (h : ReadyToRegister api cu du s) :
    Stopped api cu du s := by
  rcases h with hs | hs | hs
  · exact hs.stopped rfl
  · exact hs.stopped rfl
  · exact hs.stopped rfl

theorem activateRrcSecurity_at (kamf : Key256) :
    Triple (At api cu du (Stage.starting Exchange.rrcSecurity))
      (InitialAccessProcedure.activateRrcSecurity api kamf)
      (fun _ => ReadyToRegister api cu du) (Stopped api cu du) := by
  apply triple_bind (R := fun _ =>
    At api cu du (Stage.starting Exchange.rrcSecurity))
  · exact triple_modify fun _ hs => hs.setPdcpTx _
  · intro _
    have hrequest : Triple
        (At api cu du (Stage.starting Exchange.rrcSecurity))
        (rrcRequest api 1 (DlRrcMessage.securityModeCommand 1))
        (fun _ => ReadyToRegister api cu du)
        (ReadyToRegister api cu du) := by
      apply triple_bind ((sendRrc_at rfl rfl).conseq (fun _ hs => hs)
        (fun _ _ hs => hs) fun _ hs => Or.inl hs)
      intro _
      have hrecv : Triple (At api cu du (Stage.awaiting Exchange.rrcSecurity))
          recv (fun _ => At api cu du (Stage.starting Exchange.registration))
          (At api cu du (Stage.awaiting Exchange.rrcSecurity)) :=
        recv_at fun _ => rfl
      apply triple_bind (hrecv.conseq (fun _ hs => hs) (fun _ _ hs => hs)
        fun _ hs => Or.inr (Or.inl hs))
      intro pdu
      exact triple_lift (fun _ _ _ hs => Or.inr (Or.inr hs))
        fun _ hs => Or.inr (Or.inr hs)
    exact triple_bind (triple_attempt hrequest fun _ hs => hs.stopped) fun _ =>
      triple_pure fun _ hs => hs

theorem completeNasRegistration_at :
    Triple (ReadyToRegister api cu du)
      (InitialAccessProcedure.completeNasRegistration api)
      (fun _ => At api cu du Stage.idle) (Stopped api cu du) := by
  apply triple_bind (R := fun _ => ReadyToRegister api cu du)
  · exact triple_get fun _ hs => hs
  · intro s
    have hrequest : forall (nas : Nas5gsMessage) (stage : Stage),
        stage.mayEnd = true ->
        stage.encode = some (Stage.encoded Exchange.registration) ->
        Triple (At api cu du stage) (nasRequest api nas)
          (fun _ => At api cu du Stage.idle) (Stopped api cu du) :=
      fun nas _ hend hencode => nasRequest_at nas hend hencode fun _ => rfl
    apply triple_bind (R := fun _ => At api cu du Stage.idle)
    · exact triple_or (hrequest _ _ rfl rfl)
        (triple_or (hrequest _ _ rfl rfl) (hrequest _ _ rfl rfl))
    · exact fun _ => lift_at rfl _

theorem initialAccess_at (r : InitialUlRrcMessageTransfer) :
    Triple (At api cu du (Stage.starting Exchange.rrcSetup))
      (InitialAccessProcedure.run api r)
      (fun _ => At api cu du Stage.idle) (Stopped api cu du) := by
  apply triple_bind (handleRrcSetup_at r)
  intro request
  apply triple_bind (lift_at rfl _)
  intro identity
  apply triple_bind (authenticateUe_at _)
  intro kamf
  apply triple_bind (activateNasSecurity_at _ kamf)
  intro _
  apply triple_bind (activateRrcSecurity_at kamf)
  intro _
  exact completeNasRegistration_at

/-!
## The procedures of a registered UE
-/

theorem callService_at {ε α : Type} {service : List UeEvent -> Except ε α}
    {event : Except ε α -> UeEvent} {wrap : ε -> UeError}
    {stage : Stage} (accepted : α -> Stage) (refused : Stage)
    (hend : refused.mayEnd = true)
    (hok : forall a, stage.next api cu du (event (Except.ok a)) =
      some (accepted a))
    (herr : forall e, stage.next api cu du (event (Except.error e)) =
      some refused) :
    Triple (At api cu du stage) (callService service event wrap)
      (fun a => At api cu du (accepted a)) (Stopped api cu du) :=
  triple_callService (fun _ a hs => hs.record (hok a))
    fun _ e hs => (hs.record (herr e)).stopped hend

theorem performF1UeContextSetup_at {reserved : UserplaneSession}
    (session : PduSession) :
    Triple (At api cu du (Stage.settingUp reserved))
      (SessionEstablishmentProcedure.performF1UeContextSetup api session)
      (fun _ => At api cu du (Stage.accepting reserved))
      (Stopped api cu du) := by
  apply triple_bind (R := fun _ => At api cu du (Stage.settingUp reserved))
  · exact triple_get fun _ hs => hs
  · intro s
    apply triple_bind (callService_at (fun _ => Stage.accepting reserved)
      (Stage.accepting reserved) rfl (fun _ => rfl) fun _ => rfl)
    exact fun _ => lift_at rfl _

theorem performRrcReconfiguration_at (nas cellGroupConfig : Bytes)
    (pduSessionId : UInt8) :
    Triple (At api cu du (Stage.starting Exchange.reconfiguration))
      (SessionEstablishmentProcedure.performRrcReconfiguration api nas
        cellGroupConfig pduSessionId)
      (fun _ => At api cu du Stage.idle) (Stopped api cu du) := by
  apply triple_bind (rrcRequest_at rfl rfl rfl (by simp))
  exact fun _ => lift_at rfl _

theorem commit_at {reserved : UserplaneSession} (tunnel : GtpTunnel) :
    Triple (At api cu du (Stage.committing reserved))
      (commitUserplaneSession api reserved tunnel)
      (fun _ => At api cu du (Stage.starting Exchange.reconfiguration))
      (Stopped api cu du) :=
  callService_at (fun _ => Stage.starting Exchange.reconfiguration)
    Stage.ending rfl
    (fun _ => by simp [Stage.next, Stage.commit])
    fun _ => by simp [Stage.next, Stage.commit]

theorem sessionEstablishment_at (hdr : Nas5gsmHeader) (dnn : Option Bytes) :
    Triple (At api cu du Stage.reserving)
      (SessionEstablishmentProcedure.run api hdr dnn)
      (fun _ => At api cu du Stage.idle) (Stopped api cu du) := by
  apply triple_bind (callService_at Stage.settingUp Stage.ending rfl
    (fun _ => rfl) fun _ => rfl)
  intro reserved
  apply triple_bind (performF1UeContextSetup_at _)
  intro setup
  apply triple_bind (lift_at rfl _)
  intro accept
  apply triple_bind ((encodeNas_at accept rfl).conseq (fun _ hs => hs)
    (fun _ _ hs => hs) fun _ hs => hs.stopped rfl)
  intro bytes
  apply triple_bind (commit_at _)
  intro _
  apply triple_bind (R := fun _ =>
    At api cu du (Stage.starting Exchange.reconfiguration))
  · exact triple_modify fun s hs => ⟨hs.reached, hs.key, hs.duId⟩
  · exact fun _ => performRrcReconfiguration_at _ _ _

theorem performF1UeContextRelease_at (cause : Cause) :
    Triple (At api cu du Stage.releasing) (performF1UeContextRelease api cause)
      (fun _ => Stopped api cu du) (Stopped api cu du) := by
  intro s hs
  have hcommand : Triple (fun t => t = s ∧ At api cu du Stage.releasing t)
      (ueContextRelease api (ueContextReleaseCommand s.ue cause))
      (fun _ => Stopped api cu du) (Stopped api cu du) := by
    have hnext : forall answer, Stage.releasing.next api cu du
        (UeEvent.ueContextRelease (ueContextReleaseCommand s.ue cause) answer) =
          some Stage.ending := by
      intro answer
      show Stage.release cu du _ Stage.releasing = _
      rw [Stage.release, if_pos ⟨hs.key, hs.duId⟩]
    exact triple_callService
      (fun _ _ ht => (ht.right.record (hnext _)).stopped rfl)
      fun _ _ ht => (ht.right.record (hnext _)).stopped rfl
  exact hcommand s ⟨rfl, hs⟩

theorem deregistration_at :
    Triple (At api cu du Stage.releasing) (deregistration api)
      (fun _ => At api cu du Stage.idle) (Stopped api cu du) :=
  triple_bind (performF1UeContextRelease_at _) fun _ =>
    triple_bail fun _ hs => hs

theorem uplinkNas_at (nasBytes : Bytes) :
    Triple (At api cu du (nasPurpose api nasBytes).stage)
      (uplinkNas api nasBytes) (fun _ => At api cu du Stage.idle)
      (Stopped api cu du) := by
  have hnothing : Triple (At api cu du Stage.idle) (Pure.pure () : UeM Unit)
      (fun _ => At api cu du Stage.idle) (Stopped api cu du) :=
    triple_pure fun _ hs => hs
  unfold uplinkNas nasPurpose
  cases hdecode : decodeNas api
      (patchNasForOaiDeregistrationSecurityHeader nasBytes) with
  | err e => exact fun s hs => hs.stopped rfl
  | panic => exact fun s hs => hs.stopped rfl
  | ok nas =>
      cases nas with
      | gsm header message => exact hnothing
      | securityProtected headerType mac seq body => exact hnothing
      | gmm message =>
          cases message with
          | deregistrationRequestFromUe =>
              exact fun s hs => deregistration_at s hs
          | ulNasTransport payloadContainer dnn =>
              cases hinner : api.nasCodec.decode payloadContainer with
              | none =>
                  intro s hs
                  simp only [hinner] at hs
                  simp only [bind_run, lift_run, hinner]
                  exact hs.stopped rfl
              | some inner =>
                  intro s hs
                  simp only [hinner] at hs
                  simp only [bind_run, lift_run, hinner, Outcome.ofOption]
                  cases inner with
                  | gmm message => exact hs
                  | securityProtected headerType mac seq body => exact hs
                  | gsm header message =>
                      cases message with
                      | pduSessionEstablishmentRequest =>
                          exact sessionEstablishment_at header dnn s hs
                      | _ => exact hs
          | _ => exact hnothing

theorem handlePdu_at (pdu : F1apPdu) :
    Triple (At api cu du (purposeOf api pdu).stage)
      (UeMessageHandler.handlePdu api pdu)
      (fun _ => At api cu du Stage.idle) (Stopped api cu du) := by
  cases pdu with
  | initialUlRrcMessageTransfer r => exact fun s hs => hs.stopped rfl
  | other bytes => exact fun s hs => hs.stopped rfl
  | ueContextReleaseRequest r =>
      exact triple_bind (performF1UeContextRelease_at _) fun _ =>
        triple_bail fun _ hs => hs
  | ulRrcMessageTransfer r =>
      simp only [purposeOf, UeMessageHandler.handlePdu]
      cases hrrc : extractUlDcchMessage api r with
      | err e => exact fun s hs => hs.stopped rfl
      | panic => exact fun s hs => hs.stopped rfl
      | ok rrc =>
          cases rrc with
          | ulInformationTransfer dedicatedNasMessage =>
              cases dedicatedNasMessage with
              | none => exact fun s hs => hs.stopped rfl
              | some nasBytes => exact uplinkNas_at nasBytes
          | _ => exact fun s hs => hs.stopped rfl

theorem successive_at (fuel : Nat) :
    Triple (At api cu du Stage.idle) (UeMessageHandler.successive api fuel)
      (fun _ => At api cu du Stage.idle) (Stopped api cu du) := by
  induction fuel with
  | zero => exact triple_pure fun _ hs => hs
  | succ fuel ih =>
      intro s hs
      rcases recv_cases s with ⟨hinbox, _⟩ | ⟨pdu, rest, hinbox, _⟩
      · rw [UeMessageHandler.successive_nil api _ hinbox]
        exact hs
      · rw [UeMessageHandler.successive_cons api _ hinbox]
        have hsame : At api cu du Stage.idle { s with inbox := rest } :=
          ⟨hs.reached, hs.key, hs.duId⟩
        have hreceived : At api cu du (purposeOf api pdu).stage
            (s.receive pdu rest) := hsame.record rfl
        exact triple_bind (handlePdu_at pdu) (fun _ => ih) _ hreceived

theorem runInner_at (r : InitialUlRrcMessageTransfer) :
    Triple (At api cu du (Stage.starting Exchange.rrcSetup))
      (UeMessageHandler.runInner api r)
      (fun _ => At api cu du Stage.idle) (Stopped api cu du) :=
  UeMessageHandler.triple_runInner (initialAccess_at r) successive_at

/-!
## Whole runs
-/

theorem Stopped.destroys {s : Task} {event : UeEvent}
    (h : Stopped api cu du s)
    (hevent : forall stage, stage.next api cu du event = Stage.destroy stage) :
    Stopped api cu du (s.record event) := by
  rcases h with ⟨stage, hend, hs⟩
  have hnext : stage.next api cu du event = some Stage.ending := by
    rw [hevent, Stage.destroy, if_pos hend]
  exact (hs.record hnext).stopped rfl

theorem deleteSessions_at (sessions : List PduSession) :
    Keeps (Stopped api cu du) (UeMessageHandler.deleteSessions sessions) := by
  induction sessions with
  | nil => exact keeps_pure _
  | cons session rest ih =>
      exact keeps_bind (keeps_modify fun s hs => hs.destroys fun _ => rfl)
        fun _ => ih

theorem destroy_at :
    Keeps (Stopped api cu du) UeMessageHandler.destroy := by
  apply keeps_bind keeps_get
  intro s
  apply keeps_bind (deleteSessions_at _)
  intro _
  apply keeps_bind
  · exact keeps_modify fun t ht => by
      rcases ht with ⟨stage, hend, ht⟩
      exact ⟨stage, hend, ht.reached, ht.key, ht.duId⟩
  · exact fun _ => keeps_modify fun t ht => ht.destroys fun _ => rfl

/-- The log of a run is a walk through the dialogue, which ends at a stage where
the task may give up. -/
theorem run_dialogue (api : HandlerApi) (ueId : GnbCuUeF1apId)
    (r : InitialUlRrcMessageTransfer) (rest : List F1apPdu) :
    exists stage, stage.mayEnd = true ∧
      (dialogue api ueId r.gnbDuUeF1apId).run Stage.fresh
        (UeMessageHandler.run api ueId
          (F1apPdu.initialUlRrcMessageTransfer r :: rest)).2 = some stage := by
  have hstart : At api ueId r.gnbDuUeF1apId (Stage.starting Exchange.rrcSetup)
      (UeMessageHandler.start api ueId r rest) :=
    ⟨rfl, rfl, rfl⟩
  have hinner := (runInner_at r).conseq
    (fun _ (hs : At api ueId r.gnbDuUeF1apId _ _) => hs)
    (fun _ _ hs => hs.stopped rfl) (fun _ hs => hs)
  rcases UeMessageHandler.runContext_after hinner destroy_at hstart with
    ⟨stage, hend, hat⟩
  exact ⟨stage, hend, hat.reached⟩

end Ue
end QCore
