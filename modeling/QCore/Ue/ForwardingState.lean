import QCore.Ue.AttachFlow
import QCore.Ue.Upkeep
import QCore.Userplane.Ownership

/-!
# Forwarding state of a UE task

A session is reserved at the start of its establishment, committed near the end
and kept in the context of the UE only after that.  When the task ends, it
deletes the sessions in its context.  What is left is a session that was
reserved and not committed.
-/

namespace QCore
namespace Ue

open Foundation
open Foundation.Cmd
open F1ap
open Nas
open Rrc
open Security
open Userplane

/-!
## The session calls in a log
-/

def UeEvent.sessionCall : UeEvent -> Option SessionCall
  | UeEvent.reserve answer => some (SessionCall.reserve answer)
  | UeEvent.commit session tunnel answer =>
      some (SessionCall.commit session tunnel answer)
  | UeEvent.delete session => some (SessionCall.delete session)
  | _ => none

def sessionCalls (log : List UeEvent) : List SessionCall :=
  log.filterMap UeEvent.sessionCall

theorem sessionCalls_append (log : List UeEvent) (event : UeEvent) :
    sessionCalls (log ++ [event]) =
      sessionCalls log ++ event.sessionCall.toList :=
  filterMap_log UeEvent.sessionCall log event

theorem open_record (event : UeEvent) (s : Task) :
    openSessions (sessionCalls (s.record event).log) =
      event.sessionCall.toList.foldl SessionCall.openAfter
        (openSessions (sessionCalls s.log)) := by
  rw [← openSessions_append, ← sessionCalls_append]
  rfl

theorem uncommitted_record (event : UeEvent) (s : Task) :
    uncommittedSessions (sessionCalls (s.record event).log) =
      event.sessionCall.toList.foldl SessionCall.uncommittedAfter
        (uncommittedSessions (sessionCalls s.log)) := by
  rw [← uncommittedSessions_append, ← sessionCalls_append]
  rfl

def Holds (extra : List UserplaneSession) (s : Task) : Prop :=
  openSessions (sessionCalls s.log) =
      s.ue.pduSessions.map PduSession.userplaneInfo ++ extra ∧
    uncommittedSessions (sessionCalls s.log) = extra

theorem holds_record {extra : List UserplaneSession} {s : Task}
    {event : UeEvent} (hevent : event.sessionCall = none)
    (h : Holds extra s) : Holds extra (s.record event) := by
  unfold Holds
  rw [open_record, uncommitted_record, hevent]
  exact h

theorem holdsUpkeep (api : HandlerApi) (extra : List UserplaneSession) :
    Upkeep api (Holds extra) (fun event => event.sessionCall = none)
      (fun _ => True) where
  receive s _ rest _ hs := holds_record (s := { s with inbox := rest }) rfl hs
  setPdcpTx _ _ hs := hs
  encode _ _ hs := hs
  encoded _ _ _ _ _ := trivial
  record _ _ hevent hs := holds_record hevent hs
  sent _ _ _ := rfl

/-!
## Session establishment
-/

def HoldsSome (s : Task) : Prop :=
  exists extra, Holds extra s

variable (api : HandlerApi)

theorem reserve_holds :
    Triple (Holds []) (reserveUserplaneSession api)
      (fun session => Holds [session]) HoldsSome := by
  apply triple_callService
  · intro s session hs
    have hopen := hs.left
    rw [List.append_nil] at hopen
    constructor
    · rw [open_record, hopen]
      rfl
    · rw [uncommitted_record, hs.right]
      rfl
  · intro s e hs
    exact ⟨[], (open_record _ s).trans hs.left,
      (uncommitted_record _ s).trans hs.right⟩

def Committed (session : UserplaneSession) (s : Task) : Prop :=
  openSessions (sessionCalls s.log) =
      s.ue.pduSessions.map PduSession.userplaneInfo ++ [session] ∧
    uncommittedSessions (sessionCalls s.log) = []

theorem commit_holds (session : UserplaneSession) (tunnel : GtpTunnel) :
    Triple (Holds [session]) (commitUserplaneSession api session tunnel)
      (fun _ => Committed session) HoldsSome := by
  apply triple_callService
  · intro s _ hs
    constructor
    · exact (open_record _ s).trans hs.left
    · rw [uncommitted_record, hs.right]
      change [session].erase session = []
      rw [List.erase_cons_head]
  · intro s e hs
    exact ⟨[session], (open_record _ s).trans hs.left,
      (uncommitted_record _ s).trans hs.right⟩

theorem sessionEstablishment_holds (hdr : Nas5gsmHeader) (dnn : Option Bytes) :
    Triple (Holds []) (SessionEstablishmentProcedure.run api hdr dnn)
      (fun _ => Holds []) HoldsSome := by
  apply triple_bind (reserve_holds api)
  intro session
  have h := (holdsUpkeep api [session]).requests
  have hsome : forall s, Holds [session] s -> HoldsSome s := by
    intro s hs
    exact ⟨[session], hs⟩
  refine triple_bind ((keeps_bind keeps_get fun _ => keeps_bind
    (h.callService fun _ => rfl) fun _ => keeps_lift _).weaken hsome) ?_
  intro setup
  apply triple_bind ((keeps_lift _).weaken hsome)
  intro accept
  refine triple_bind ((h.encodeNas accept fun _ _ => rfl).conseq (fun _ hs => hs)
    (fun _ _ hs => hs.right) hsome) ?_
  intro bytes
  apply triple_bind (commit_holds api session _)
  intro _
  refine triple_bind (triple_modify (Q := fun _ => Holds []) ?_) ?_
  · intro s hs
    refine ⟨?_, hs.right⟩
    change openSessions (sessionCalls s.log) = _
    rw [hs.left]
    simp [SessionEstablishmentProcedure.pushSession]
  · intro _
    have h := (holdsUpkeep api []).requests
    exact (h.performRrcReconfiguration trivial _ _).weaken
      fun _ hs => ⟨[], hs⟩

/-!
## When an establishment commits
-/

theorem callsUpkeep (calls : List SessionCall) :
    Upkeep api (fun s => sessionCalls s.log = calls)
      (fun event => event.sessionCall = none) (fun _ => True) where
  receive s _ rest _ hs := by
    rw [← hs]
    exact (sessionCalls_append _ _).trans (List.append_nil _)
  setPdcpTx _ _ hs := hs
  encode _ _ hs := hs
  encoded _ _ _ _ _ := trivial
  record s event hevent hs := by
    rw [← hs]
    refine (sessionCalls_append s.log event).trans ?_
    rw [hevent]
    exact List.append_nil _
  sent _ _ _ := rfl

namespace SessionEstablishmentProcedure

variable (hdr : Nas5gsmHeader) (dnn : Option Bytes)

def sessionOf (userplaneInfo : UserplaneSession) : PduSession where
  id := hdr.pduSessionIdentity
  snssai := ⟨api.config.sst, none⟩
  dnn := dnn.getD []
  userplaneInfo := userplaneInfo

def setupRequest (info : UserplaneSession) (s : Task) : UeContextSetupRequest :=
  ueContextSetupRequest s.ue
    (TransportLayerAddress.fromIpAddr api.config.ipAddr)
    (sessionOf api hdr dnn info)

def Accepts (info : UserplaneSession) (tunnel : GtpTunnel) (s : Task) : Prop :=
  exists accept bytes t,
    pduSessionEstablishmentAccept api.nasCodec (sessionOf api hdr dnn info)
        hdr.procedureTransactionIdentity = Outcome.ok accept ∧
      encodeNas api accept s = (Outcome.ok bytes, t) ∧
      api.commitUserplaneSession t.log info tunnel = Except.ok ()

def Commits (info : UserplaneSession) (s : Task) : Prop :=
  exists response cellGroupConfig tunnel,
    api.ueContextSetup s.log (setupRequest api hdr dnn info s) =
        Except.ok response ∧
      checkUeContextSetupResponse response = some (cellGroupConfig, tunnel) ∧
      Accepts api hdr dnn info tunnel (s.record (UeEvent.ueContextSetup
        (setupRequest api hdr dnn info s) (Except.ok response)))

inductive CallsAfter (info : UserplaneSession) (commits : Prop) :
    List SessionCall -> Prop where
  | committed (tunnel : GtpTunnel) : commits ->
      CallsAfter info commits [SessionCall.commit info tunnel (Except.ok ())]
  | refused (tunnel : GtpTunnel) (e : UserplaneError) : ¬ commits ->
      CallsAfter info commits [SessionCall.commit info tunnel (Except.error e)]
  | failed : ¬ commits -> CallsAfter info commits []

theorem CallsAfter.congr {info : UserplaneSession} {commits commits' : Prop}
    {calls : List SessionCall} (h : CallsAfter info commits calls)
    (hiff : commits <-> commits') : CallsAfter info commits' calls := by
  rw [← propext hiff]
  exact h

theorem sessionCalls_record {event : UeEvent} (h : event.sessionCall = none)
    (s : Task) : sessionCalls (s.record event).log = sessionCalls s.log := by
  refine (sessionCalls_append s.log event).trans ?_
  rw [h]
  exact List.append_nil _

def afterSetup (info : UserplaneSession) (setup : Bytes × GtpTunnel) :
    UeM Unit := do
  let accept <- Cmd.lift (pduSessionEstablishmentAccept api.nasCodec
    (sessionOf api hdr dnn info) hdr.procedureTransactionIdentity)
  let accept <- encodeNas api accept
  commitUserplaneSession api info setup.2
  Cmd.modify (pushSession (sessionOf api hdr dnn info))
  performRrcReconfiguration api accept setup.1 hdr.pduSessionIdentity

theorem run_eq :
    run api hdr dnn = (do
      let info <- reserveUserplaneSession api
      let setup <- performF1UeContextSetup api (sessionOf api hdr dnn info)
      afterSetup api hdr dnn info setup) :=
  rfl

theorem commit_calls {info : UserplaneSession} {session : PduSession}
    {tunnel : GtpTunnel} (nas cellGroupConfig : Bytes) (id : UInt8) (s : Task) :
    sessionCalls ((do
        commitUserplaneSession api info tunnel
        Cmd.modify (pushSession session)
        performRrcReconfiguration api nas cellGroupConfig id : UeM Unit)
          s).2.log =
      sessionCalls s.log ++ [SessionCall.commit info tunnel
        (api.commitUserplaneSession s.log info tunnel)] := by
  unfold commitUserplaneSession callService
  simp only [bind_run, get_run, modify_run, lift_run]
  have hcommit := sessionCalls_append s.log (UeEvent.commit info tunnel
    (api.commitUserplaneSession s.log info tunnel))
  cases hanswer : api.commitUserplaneSession s.log info tunnel with
  | error e =>
      rw [hanswer] at hcommit
      exact hcommit
  | ok u =>
      rw [hanswer] at hcommit
      exact ((callsUpkeep api _).requests.performRrcReconfiguration trivial
        cellGroupConfig id).after hcommit

theorem afterSetup_calls (info : UserplaneSession) (setup : Bytes × GtpTunnel)
    (s : Task) :
    exists calls,
      sessionCalls (afterSetup api hdr dnn info setup s).2.log =
        sessionCalls s.log ++ calls ∧
      CallsAfter info (Accepts api hdr dnn info setup.2 s) calls := by
  unfold afterSetup Accepts
  rw [bind_run, lift_run]
  cases pduSessionEstablishmentAccept api.nasCodec (sessionOf api hdr dnn info)
      hdr.procedureTransactionIdentity with
  | err e => exact ⟨[], (List.append_nil _).symm, CallsAfter.failed (by simp)⟩
  | panic => exact ⟨[], (List.append_nil _).symm, CallsAfter.failed (by simp)⟩
  | ok accept =>
      have hkept := ((callsUpkeep api _).requests.encodeNas accept
        fun _ _ => rfl).conseq (fun _ hs => hs) (fun _ _ hs => hs.right)
          (fun _ hs => hs) |>.after (rfl : sessionCalls s.log = _)
      simp only []
      rw [bind_run]
      cases hencode : encodeNas api accept s with
      | mk out t =>
          rw [hencode] at hkept
          replace hkept : sessionCalls t.log = sessionCalls s.log := hkept
          cases out with
          | err e =>
              exact ⟨[], hkept.trans (List.append_nil _).symm,
                CallsAfter.failed (by simp [hencode])⟩
          | panic =>
              exact ⟨[], hkept.trans (List.append_nil _).symm,
                CallsAfter.failed (by simp [hencode])⟩
          | ok bytes =>
              refine ⟨_, (commit_calls api bytes setup.1 hdr.pduSessionIdentity
                t).trans (by rw [hkept]), ?_⟩
              cases hcommit : api.commitUserplaneSession t.log info setup.2 with
              | error e =>
                  exact CallsAfter.refused _ e (by simp [hencode, hcommit])
              | ok u => exact CallsAfter.committed _ (by simp [hencode, hcommit])

theorem performF1UeContextSetup_run (info : UserplaneSession) (s : Task) :
    performF1UeContextSetup api (sessionOf api hdr dnn info) s =
      ((Outcome.ofExcept (api.ueContextSetup s.log
          (setupRequest api hdr dnn info s))).mapErr UeError.f1apRequest >>=
        fun rsp => Outcome.ofOption UeError.ueContextSetupResponseIncomplete
          (checkUeContextSetupResponse rsp),
        s.record (UeEvent.ueContextSetup (setupRequest api hdr dnn info s)
          (api.ueContextSetup s.log (setupRequest api hdr dnn info s)))) := by
  unfold performF1UeContextSetup ueContextSetup callService setupRequest
  simp only [bind_run, get_run, modify_run, lift_run]
  cases api.ueContextSetup s.log (ueContextSetupRequest s.ue
    (TransportLayerAddress.fromIpAddr api.config.ipAddr)
    (sessionOf api hdr dnn info)) with
  | error e => rfl
  | ok response => rfl

theorem setup_calls (info : UserplaneSession) (s : Task) :
    exists calls,
      sessionCalls ((performF1UeContextSetup api (sessionOf api hdr dnn info) >>=
          afterSetup api hdr dnn info) s).2.log =
        sessionCalls s.log ++ calls ∧
      CallsAfter info (Commits api hdr dnn info s) calls := by
  have hrecorded : forall answer, sessionCalls (s.record
      (UeEvent.ueContextSetup (setupRequest api hdr dnn info s) answer)).log =
        sessionCalls s.log := fun _ => sessionCalls_record rfl s
  rw [bind_run, performF1UeContextSetup_run]
  unfold Commits
  cases hanswer : api.ueContextSetup s.log (setupRequest api hdr dnn info s) with
  | error e =>
      exact ⟨[], (hrecorded _).trans (List.append_nil _).symm,
        CallsAfter.failed (by simp)⟩
  | ok response =>
      have hresponse : ((Outcome.ofExcept (Except.ok response)).mapErr
          UeError.f1apRequest >>= fun rsp =>
            Outcome.ofOption UeError.ueContextSetupResponseIncomplete
              (checkUeContextSetupResponse rsp)) =
          Outcome.ofOption UeError.ueContextSetupResponseIncomplete
            (checkUeContextSetupResponse response) := rfl
      rw [hresponse]
      cases hcheck : checkUeContextSetupResponse response with
      | none =>
          exact ⟨[], (hrecorded _).trans (List.append_nil _).symm,
            CallsAfter.failed (by simp [hcheck])⟩
      | some setup =>
          rcases afterSetup_calls api hdr dnn info setup (s.record
            (UeEvent.ueContextSetup (setupRequest api hdr dnn info s)
              (Except.ok response))) with ⟨calls, heq, hafter⟩
          refine ⟨calls, heq.trans (by rw [hrecorded]), hafter.congr ?_⟩
          constructor
          · intro haccepts
            exact ⟨response, setup.1, setup.2, rfl, hcheck, haccepts⟩
          · rintro ⟨_, _, _, hok, hsetup, haccepts⟩
            cases hok
            rw [hcheck] at hsetup
            cases hsetup
            exact haccepts

theorem run_calls {info : UserplaneSession} {s : Task}
    (hreserve : api.reserveUserplaneSession s.log = Except.ok info) :
    exists calls,
      sessionCalls (run api hdr dnn s).2.log =
        sessionCalls s.log ++ SessionCall.reserve (Except.ok info) :: calls ∧
      CallsAfter info (Commits api hdr dnn info
        (s.record (UeEvent.reserve (Except.ok info)))) calls := by
  have hreserved : reserveUserplaneSession api s =
      (Outcome.ok info, s.record (UeEvent.reserve (Except.ok info))) := by
    unfold reserveUserplaneSession callService
    simp only [bind_run, get_run, modify_run, lift_run, hreserve]
    rfl
  rcases setup_calls api hdr dnn info
    (s.record (UeEvent.reserve (Except.ok info))) with ⟨calls, heq, hafter⟩
  refine ⟨calls, ?_, hafter⟩
  rw [run_eq, bind_run, hreserved]
  refine heq.trans ?_
  rw [show sessionCalls (s.record (UeEvent.reserve (Except.ok info))).log =
    sessionCalls s.log ++ [SessionCall.reserve (Except.ok info)] from
      sessionCalls_append _ _, List.append_assoc]
  rfl

/-- A run that has reserved a session leaves it uncommitted exactly when the DU
does not set it up with a list of bearers, the accept cannot be built and
encoded, or the commit fails. -/
theorem run_uncommitted_iff {info : UserplaneSession} {s : Task}
    (hreserve : api.reserveUserplaneSession s.log = Except.ok info)
    (hnone : uncommittedSessions (sessionCalls s.log) = []) :
    uncommittedSessions (sessionCalls (run api hdr dnn s).2.log) = [] <->
      Commits api hdr dnn info
        (s.record (UeEvent.reserve (Except.ok info))) := by
  rcases run_calls api hdr dnn hreserve with ⟨calls, hcalls, hafter⟩
  rw [hcalls, uncommittedSessions_append, hnone]
  cases hafter with
  | committed tunnel hcommits =>
      simp [SessionCall.uncommittedAfter, hcommits]
  | refused tunnel e hnot => simp [SessionCall.uncommittedAfter, hnot]
  | failed hnot => simp [SessionCall.uncommittedAfter, hnot]

end SessionEstablishmentProcedure

/-!
## Whole runs
-/

theorem runInner_holds (r : InitialUlRrcMessageTransfer) {s : Task}
    (hs : Holds [] s) : HoldsSome (UeMessageHandler.runInner api r s).2 := by
  have hsome : forall s, Holds [] s -> HoldsSome s := by
    intro s hs
    exact ⟨[], hs⟩
  have h := (holdsUpkeep api []).requests
  have hinitial : Keeps (Holds []) (InitialAccessProcedure.run api r) :=
    h.initialAccess (fun _ _ _ => rfl) (fun _ _ hs => hs) (fun _ _ hs => hs) r
  have hrun := h.runInner hsome (fun _ _ => rfl)
    (sessionEstablishment_holds api) hinitial
  exact (hrun.conseq (fun _ hs => hs) (fun _ => hsome) fun _ hs => hs).after hs

theorem deleteSessions_open {sessions : List PduSession}
    {extra : List UserplaneSession} {s : Task}
    (hopen : openSessions (sessionCalls s.log) =
      sessions.map PduSession.userplaneInfo ++ extra) :
    exists t, UeMessageHandler.deleteSessions sessions s = (Outcome.ok (), t) ∧
      openSessions (sessionCalls t.log) = extra ∧
      uncommittedSessions (sessionCalls t.log) =
        uncommittedSessions (sessionCalls s.log) := by
  induction sessions generalizing s with
  | nil => exact ⟨s, rfl, hopen, rfl⟩
  | cons session rest ih =>
      have hnext : openSessions (sessionCalls
          (s.record (UeEvent.delete session.userplaneInfo)).log) =
            rest.map PduSession.userplaneInfo ++ extra := by
        apply (open_record _ s).trans
        change (openSessions (sessionCalls s.log)).erase _ = _
        rw [hopen, List.map_cons, List.cons_append, List.erase_cons_head]
      rcases ih hnext with ⟨t, hrun, ht, huncommitted⟩
      exact ⟨t, hrun, ht, huncommitted.trans (uncommitted_record _ s)⟩

theorem destroy_open {s : Task} (h : HoldsSome s) :
    openSessions (sessionCalls (UeMessageHandler.destroy s).2.log) =
      uncommittedSessions
        (sessionCalls (UeMessageHandler.destroy s).2.log) := by
  rcases h with ⟨extra, hopen, huncommitted⟩
  rcases deleteSessions_open hopen with ⟨t, hrun, ht, hkept⟩
  unfold UeMessageHandler.destroy
  simp only [bind_run, get_run, hrun, modify_run]
  have hfinal : Holds extra { t with ue := { t.ue with pduSessions := [] } } :=
    ⟨ht, hkept.trans huncommitted⟩
  have hrecord : Holds extra
      (Task.record (UeEvent.deleteUeChannel s.ue.key)
        { t with ue := { t.ue with pduSessions := [] } }) :=
    holds_record rfl hfinal
  exact hrecord.left.trans hrecord.right.symm

theorem runContext_returned {r : InitialUlRrcMessageTransfer} {s : Task}
    (h : (UeMessageHandler.runContext api r s).1 ≠ Outcome.panic) :
    (UeMessageHandler.runContext api r s).2 =
      (UeMessageHandler.destroy (UeMessageHandler.runInner api r s).2).2 := by
  have hdestroy : forall t, exists t',
      UeMessageHandler.destroy t = (Outcome.ok (), t') := by
    have hdelete : forall sessions t, exists t',
        UeMessageHandler.deleteSessions sessions t = (Outcome.ok (), t') := by
      intro sessions
      induction sessions with
      | nil =>
          intro t
          exact ⟨t, rfl⟩
      | cons session rest ih =>
          intro t
          exact ih _
    intro t
    rcases hdelete t.ue.pduSessions t with ⟨t', ht'⟩
    unfold UeMessageHandler.destroy
    simp only [bind_run, get_run, ht', modify_run]
    exact ⟨_, rfl⟩
  unfold UeMessageHandler.runContext at h ⊢
  rw [bind_run] at h ⊢
  unfold attempt at h ⊢
  revert h
  cases UeMessageHandler.runInner api r s with
  | mk out t =>
      rcases hdestroy t with ⟨t', ht'⟩
      cases out with
      | ok a =>
          intro _
          simp only [bind_run, ht', lift_run]
      | err e =>
          intro _
          simp only [bind_run, ht', lift_run]
      | panic =>
          intro h
          exact absurd rfl h

theorem run_open (ueId : GnbCuUeF1apId) (pdus : List F1apPdu)
    (h : (UeMessageHandler.run api ueId pdus).1 ≠ Outcome.panic) :
    openSessions (sessionCalls (UeMessageHandler.run api ueId pdus).2) =
      uncommittedSessions
        (sessionCalls (UeMessageHandler.run api ueId pdus).2) := by
  cases pdus with
  | nil => rfl
  | cons pdu rest =>
      cases pdu with
      | initialUlRrcMessageTransfer r =>
          have hstart : Holds [] (UeMessageHandler.start api ueId r rest) :=
            ⟨rfl, rfl⟩
          change openSessions (sessionCalls
            (UeMessageHandler.runContext api r _).2.log) = _
          have hreturned := runContext_returned api h
          have hopen := destroy_open (runInner_holds api r hstart)
          rw [← hreturned] at hopen
          exact hopen
      | ulRrcMessageTransfer r => rfl
      | ueContextReleaseRequest r => rfl
      | other bytes => rfl

/-!
## The forwarding tables after a run
-/

/-- The session calls of the log are those that `task` completes in an
interleaving of the session operations of all tasks, which ends in `s`. -/
structure Performs (subnet : Ipv4Addr) (task : Nat) (ms : List Move)
    (s : Shared) (log : List UeEvent) : Prop where
  run_eq : sessionMachine.run (Shared.start subnet) ms = some s
  calls_eq : Shared.callsOf task (Shared.start subnet) ms = sessionCalls log

/-- No table has a rule in the slot of a session reserved in the log.  A slot is
handed out once, so a rule in it is a rule of that session. -/
def LeavesNoRule (s : Shared) (log : List UeEvent) : Prop :=
  forall session, UeEvent.reserve (Except.ok session) ∈ log ->
    s.processor.uplinkForwardingTable.lookup session.slot = none ∧
      s.processor.downlinkForwardingTable.lookup session.slot = none

theorem mem_sessionCalls_reserve {log : List UeEvent}
    {session : UserplaneSession} :
    SessionCall.reserve (Except.ok session) ∈ sessionCalls log <->
      UeEvent.reserve (Except.ok session) ∈ log := by
  unfold sessionCalls
  rw [List.mem_filterMap]
  constructor
  · intro h
    rcases h with ⟨event, hmem, hcall⟩
    cases event with
    | reserve answer =>
        cases hcall
        exact hmem
    | _ => cases hcall
  · intro h
    exact ⟨_, h, rfl⟩

/-- After a UE task has returned, no forwarding rule of it is left exactly when
it committed every session that it reserved. -/
theorem leavesNoRule_iff (api : HandlerApi) (ueId : GnbCuUeF1apId)
    (pdus : List F1apPdu)
    (hreturned : (UeMessageHandler.run api ueId pdus).1 ≠ Outcome.panic)
    {subnet : Ipv4Addr} {task : Nat} {ms : List Move} {s : Shared}
    (hperforms : Performs subnet task ms s
      (UeMessageHandler.run api ueId pdus).2) :
    LeavesNoRule s (UeMessageHandler.run api ueId pdus).2 <->
      uncommittedSessions
        (sessionCalls (UeMessageHandler.run api ueId pdus).2) = [] := by
  have htraced := Shared.traced_run (Shared.consistent_start subnet)
    (Shared.traced_start subnet task) hperforms.run_eq
  rw [List.nil_append, hperforms.calls_eq] at htraced
  have hclear := Shared.tables_clear_iff
    (Shared.consistent_run hperforms.run_eq) htraced
  rw [run_open api ueId pdus hreturned] at hclear
  unfold LeavesNoRule
  simp only [← mem_sessionCalls_reserve]
  exact hclear

def toySession : UserplaneSession :=
  PacketProcessor.sessionFor Shared.smallSubnet #v[7, 7, 7] 1

def acceptingApi : HandlerApi :=
  { toyApi with
    ueContextSetup := fun _ _ =>
      Except.ok ⟨7, [], some ⟨⟨⟨Shared.smallTunnel, []⟩⟩, []⟩⟩ }

def acceptedMoves : List Move :=
  [Move.takeIndex 0 1, Move.installUplink 0 #v[7, 7, 7],
    Move.commit 0 toySession Shared.smallTunnel,
    Move.removeDownlink 0 toySession, Move.removeUplink 0]

theorem performs_acceptedMoves :
    exists s, Performs Shared.smallSubnet 0 acceptedMoves s
      (UeMessageHandler.run acceptingApi 7 smallAttach).2 := by
  have hsome : (sessionMachine.run (Shared.start Shared.smallSubnet)
      acceptedMoves).isSome := by
    decide +kernel
  rcases Option.isSome_iff_exists.mp hsome with ⟨s, hs⟩
  exact ⟨s, hs, by decide +kernel⟩

theorem leavesNoRule_acceptedSetup :
    exists s,
      Performs Shared.smallSubnet 0 acceptedMoves s
        (UeMessageHandler.run acceptingApi 7 smallAttach).2 ∧
      LeavesNoRule s (UeMessageHandler.run acceptingApi 7 smallAttach).2 := by
  rcases performs_acceptedMoves with ⟨s, hperforms⟩
  exact ⟨s, hperforms, (leavesNoRule_iff acceptingApi 7 smallAttach
    (by decide +kernel) hperforms).mpr (by decide +kernel)⟩

/-- The DU refuses to set up the session, and the uplink rule stays. -/
theorem not_leavesNoRule_refusedSetup :
    exists s,
      (UeMessageHandler.run toyApi 7 smallAttach).1 ≠ Outcome.panic ∧
      Performs Shared.smallSubnet 0
        [Move.takeIndex 0 1, Move.installUplink 0 #v[7, 7, 7]] s
        (UeMessageHandler.run toyApi 7 smallAttach).2 ∧
      ¬ LeavesNoRule s (UeMessageHandler.run toyApi 7 smallAttach).2 := by
  have hrule : ((sessionMachine.run (Shared.start Shared.smallSubnet)
      [Move.takeIndex 0 1, Move.installUplink 0 #v[7, 7, 7]]).map
        fun s => s.processor.uplinkForwardingTable.lookup toySession.slot) =
      some (some ⟨toySession.uplinkGtpTeid⟩) := by
    decide +kernel
  rcases Option.map_eq_some_iff.mp hrule with ⟨s, hs, hlookup⟩
  refine ⟨s, by decide +kernel, ⟨hs, by decide +kernel⟩, ?_⟩
  intro hnone
  have hclear := (hnone toySession (by decide +kernel)).left
  rw [hlookup] at hclear
  cases hclear

end Ue
end QCore
