import QCore.Ue.Downlink
import QCore.Ue.Establishment

/-!
# A standard UE is served

The stay of a standard UE from its first message to its deregistration, as one
run of the message handler: it is registered, gets its session, and leaves, and
nothing of it is left behind.
-/

namespace QCore
namespace Ue

open Foundation
open F1ap
open Nas
open Rrc
open Security
open Userplane

variable {api : HandlerApi} {ue : StandardUe}

/-!
## The end of a stay
-/

namespace UeMessageHandler

theorem deleteSessions_run (sessions : List PduSession) (s : Task) :
    deleteSessions sessions s = (Outcome.ok (),
      { s with log := s.log ++ sessions.map fun session =>
          UeEvent.delete session.userplaneInfo }) := by
  induction sessions generalizing s with
  | nil => simp [deleteSessions]
  | cons session rest ih =>
      change deleteSessions rest
        (s.record (UeEvent.delete session.userplaneInfo)) = _
      rw [ih]
      simp [Task.record]

theorem destroy_run (s : Task) :
    exists t, destroy s = (Outcome.ok (), t) ∧
      t.log = s.log ++ s.ue.pduSessions.map (fun session =>
        UeEvent.delete session.userplaneInfo) ++
          [UeEvent.deleteUeChannel s.ue.key] := by
  unfold destroy
  simp only [Cmd.bind_run, Cmd.get_run, deleteSessions_run, Cmd.modify_run]
  exact ⟨_, rfl, rfl⟩

theorem runContext_err {r : InitialUlRrcMessageTransfer} {s t : Task}
    {e : UeError} (h : runInner api r s = (Outcome.err e, t)) :
    exists u, runContext api r s = (Outcome.err e, u) ∧
      u.log = t.log ++ t.ue.pduSessions.map (fun session =>
        UeEvent.delete session.userplaneInfo) ++
          [UeEvent.deleteUeChannel t.ue.key] := by
  rcases destroy_run t with ⟨u, hdestroy, hlog⟩
  refine ⟨u, ?_, hlog⟩
  unfold runContext
  rw [Cmd.bind_run, Cmd.attempt, h]
  simp only [Cmd.bind_run, hdestroy]
  rfl

theorem handlePdu_deregistration {pdu : F1apPdu}
    (hcarries : CarriesUplinkNas api pdu
      Nas5gmmMessage.deregistrationRequestFromUe)
    (hrelease : forall log command,
      api.ueContextRelease log command = Except.ok ()) (s : Task) :
    handlePdu api pdu s = (Outcome.err UeError.normalDeregistration,
      s.record (UeEvent.ueContextRelease
        (ueContextReleaseCommand s.ue Cause.normalRelease)
        (Except.ok ()))) := by
  rcases hcarries with ⟨bytes, hrrc, hnas⟩
  cases pdu with
  | ulRrcMessageTransfer r =>
      have hlift : (Cmd.lift (extractUlDcchMessage api r) : UeM UlDcchMessage) s =
          (Outcome.ok (UlDcchMessage.ulInformationTransfer (some bytes)), s) :=
        Prod.ext hrrc rfl
      refine (Cmd.bind_of_ok hlift).trans ?_
      have hdecode : (Cmd.lift (decodeNas api
          (patchNasForOaiDeregistrationSecurityHeader bytes)) :
            UeM Nas5gsMessage) s = (Outcome.ok (Nas5gsMessage.gmm
              Nas5gmmMessage.deregistrationRequestFromUe), s) :=
        Prod.ext hnas rfl
      refine (Cmd.bind_of_ok hdecode).trans ?_
      change deregistration api s = _
      simp only [deregistration, performF1UeContextRelease, ueContextRelease,
        callService, Cmd.bind_run, Cmd.get_run, Cmd.modify_run, Cmd.lift_run,
        hrelease]
      rfl
  | _ => cases hrrc

theorem successive_handled {pdu : F1apPdu} {inbox rest : List F1apPdu}
    {s t : Task}
    (h : handlePdu api pdu
        (taskLine.setInbox inbox (s.record (UeEvent.received pdu))) =
      (Outcome.ok (), taskLine.setInbox rest t)) :
    successive api (inbox.length + 1) (taskLine.setInbox (pdu :: inbox) s) =
      successive api rest.length (taskLine.setInbox rest t) := by
  have hround := @successive_round api (taskLine.setInbox (pdu :: inbox) s) pdu
    inbox rfl
  exact hround.trans (Cmd.bind_of_ok h)

theorem successive_failed {pdu : F1apPdu} {inbox : List F1apPdu} {s t : Task}
    {e : UeError}
    (h : handlePdu api pdu
        (taskLine.setInbox inbox (s.record (UeEvent.received pdu))) =
      (Outcome.err e, t)) :
    successive api (inbox.length + 1) (taskLine.setInbox (pdu :: inbox) s) =
      (Outcome.err e, t) := by
  have hround := @successive_round api (taskLine.setInbox (pdu :: inbox) s) pdu
    inbox rfl
  exact hround.trans (Cmd.bind_of_err h)

theorem runInner_key {ueId : GnbCuUeF1apId} {r : InitialUlRrcMessageTransfer}
    {inbox : List F1apPdu} {out : Outcome UeError Unit} {t : Task}
    (h : runInner api r (start api ueId r inbox) = (out, t)) :
    t.ue.key = ueId := by
  have hstart : Addressing api ueId r.gnbDuUeF1apId
      (start api ueId r inbox) := by
    refine ⟨rfl, rfl, ?_⟩
    intro event hmem
    rw [List.mem_singleton.mp hmem]
    trivial
  have hend := (runInner_addressing api ueId r.gnbDuUeF1apId r).after hstart
  rw [h] at hend
  exact hend.key

end UeMessageHandler

def Task.deregistered (request : F1apPdu) (s : Task) : Task :=
  (s.record (UeEvent.received request)).record
    (UeEvent.ueContextRelease
      (ueContextReleaseCommand s.ue Cause.normalRelease) (Except.ok ()))

theorem sent_deregistered (request : F1apPdu) (s : Task) :
    taskLine.sent (s.deregistered request) = taskLine.sent s := by
  unfold Task.deregistered
  rw [sent_record, sent_record]
  exact (List.append_nil _).trans (List.append_nil _)

theorem transfers_deleted (sessions : List PduSession) :
    (sessions.map fun session =>
      UeEvent.delete session.userplaneInfo).filterMap UeEvent.transfer = [] := by
  simp [List.filterMap_map, UeEvent.transfer]

/-!
## The whole stay
-/

/-- The UE is sent `transfers` while it registers and `transfers'` for its
session, and answers each of them.  The run of its task on these answers, with
the two requests of the UE between them, ends with the deregistration, whatever
is in the channel after it.  The UE was given the address of the session, and
the session and the channel are the last things to be deleted. -/
structure Stay (api : HandlerApi) (ue : StandardUe) (ueId : GnbCuUeF1apId)
    (r : InitialUlRrcMessageTransfer)
    (transfers transfers' : List DlRrcMessageTransfer)
    (answers answers' : List F1apPdu) (request goodbye : Bytes)
    (st asked st' left : UeState) (info : UserplaneSession)
    (log : List UeEvent) : Prop where
  registered :
    (ue.peer api.crypto).Transcript UeState.start transfers answers st
  asks : ue.askSession api.crypto st = some (asked, request)
  given : (ue.peer api.crypto).Transcript asked transfers' answers' st'
  reserved : exists before,
    api.reserveUserplaneSession before = Except.ok info
  address : exists ip, info.ueIpAddr = IpAddr.v4 ip ∧
    st'.pduAddress = some (0b001 :: ip.octets.toList)
  leaves : ue.deregister api.crypto st' = some (left, goodbye)
  sent : log.filterMap UeEvent.transfer = transfers ++ transfers'
  run : forall rest,
    UeMessageHandler.run api ueId
        (F1apPdu.initialUlRrcMessageTransfer r :: (answers ++
          uplink ueId request :: (answers' ++ uplink ueId goodbye :: rest))) =
      (Outcome.err UeError.normalDeregistration,
        log ++ [UeEvent.delete info, UeEvent.deleteUeChannel ueId])

theorem smallUe_speaksSession : SpeaksSession smallUe where
  request := ⟨_, rfl, smallUe_canSay _⟩
  reconfigurationComplete := ⟨_, rfl⟩

theorem smallUe_serves : ServesSession acceptingApi smallUe [] where
  reserve := by
    intro log
    refine ⟨_, _, rfl, rfl, fun _ => ⟨_, rfl, fun _ => ?_⟩⟩
    exact ⟨_, Small.encodeDl_reconfiguration _ _ _ _⟩
  setup := fun _ _ => ⟨_, Shared.smallTunnel, rfl, rfl⟩
  commit := fun _ _ _ => rfl

end Ue
end QCore
