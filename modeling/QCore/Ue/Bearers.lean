import QCore.Ue.ForwardingState

/-!
# Bearers of the sessions of a UE

Every session is signalled to the DU and to the UE as data radio bearer 1, and
nothing looks at the sessions that are there when another one is requested.
So the sessions of a UE are on bearers of their own exactly as long as no
session is established while another one is held.
-/

namespace QCore
namespace Ue

open Foundation
open Foundation.Cmd
open F1ap
open Nas
open Rrc
open Security
open Userplane

/-!
## What is signalled
-/

def SignalledToDu (log : List UeEvent) (session : PduSession) (drbId : DrbId) :
    Prop :=
  exists request answer drbs item,
    UeEvent.ueContextSetup request answer ∈ log ∧
      request.drbsToBeSetupList = some drbs ∧ item ∈ drbs.toList ∧
      item.drbId = drbId ∧ item.pduSessionId = session.id ∧
      item.ulUpTnlInformation.gtpTeid = session.userplaneInfo.uplinkGtpTeid

def SignalledToUe (log : List UeEvent) (session : PduSession) (drbId : DrbId) :
    Prop :=
  exists transfer r drbs drb sdap,
    UeEvent.dlRrcMessageTransfer transfer
        (DlRrcMessage.rrcReconfiguration r) ∈ log ∧
      r.drbToAddModList = some drbs ∧ drb ∈ drbs.toList ∧
      drb.drbIdentity = drbId ∧ drb.cnAssociation = some sdap ∧
      sdap.pduSession = session.id

def Signalled (log : List UeEvent) (session : PduSession) (drbId : DrbId) :
    Prop :=
  SignalledToDu log session drbId ∨ SignalledToUe log session drbId

/-- The sessions in the context of the UE have different ids and are on
different bearers. -/
structure OnOwnBearers (s : Task) : Prop where
  ids : (s.ue.pduSessions.map PduSession.id).Nodup
  bearers : s.ue.pduSessions.Pairwise fun session session' =>
    forall drbId drbId', Signalled s.log session drbId ->
      Signalled s.log session' drbId' -> drbId ≠ drbId'

/-!
## The sessions that were committed
-/

def UeEvent.committed : UeEvent -> Option UserplaneSession
  | UeEvent.commit session _ (Except.ok _) => some session
  | _ => none

def committedSessions (log : List UeEvent) : List UserplaneSession :=
  log.filterMap UeEvent.committed

/-- Each session is committed when no other one is held. -/
def EstablishesAlone (log : List UeEvent) : Prop :=
  forall before event after session, log = before ++ event :: after ->
    event.committed = some session -> committedSessions before = []

theorem establishesAlone_iff (log : List UeEvent) :
    EstablishesAlone log <-> (committedSessions log).length <= 1 := by
  constructor
  · induction log using List.reverseRecOn with
    | nil => exact fun _ => Nat.zero_le 1
    | append_singleton log event ih =>
        intro h
        have hbefore : EstablishesAlone log := by
          intro before e after session hlog
          apply h before e (after ++ [event]) session
          rw [hlog, List.append_assoc, List.cons_append]
        unfold committedSessions
        rw [filterMap_log]
        cases hevent : event.committed with
        | none =>
            rw [Option.toList_none, List.append_nil]
            exact ih hbefore
        | some session =>
            have hnone : log.filterMap UeEvent.committed = [] :=
              h log event [] session rfl hevent
            rw [hnone]
            exact Nat.le_refl 1
  · intro hle before event after session hlog hevent
    unfold committedSessions at hle ⊢
    rw [hlog, List.filterMap_append, List.filterMap_cons_some hevent,
      List.length_append, List.length_cons] at hle
    apply List.length_eq_zero_iff.mp
    lia

def committedBy : SessionCall -> Option UserplaneSession
  | SessionCall.commit session _ (Except.ok _) => some session
  | _ => none

theorem committedSessions_eq (log : List UeEvent) :
    committedSessions log = (sessionCalls log).filterMap committedBy := by
  unfold committedSessions sessionCalls
  rw [List.filterMap_filterMap]
  congr 1
  funext event
  cases event with
  | commit session tunnel answer => cases answer <;> rfl
  | _ => rfl

/-- An establishment that reserves a session is alone exactly when no session was
committed before it, or the session is not committed: the DU does not set it up
with a list of bearers, the accept cannot be built and encoded, or the commit
fails. -/
theorem run_establishesAlone_iff {api : HandlerApi} (hdr : Nas5gsmHeader)
    (dnn : Option Bytes) {info : UserplaneSession} {s : Task}
    (hreserve : api.reserveUserplaneSession s.log = Except.ok info) :
    EstablishesAlone (SessionEstablishmentProcedure.run api hdr dnn s).2.log <->
      EstablishesAlone s.log ∧
        (SessionEstablishmentProcedure.Commits api hdr dnn info
            (s.record (UeEvent.reserve (Except.ok info))) ->
          committedSessions s.log = []) := by
  rcases SessionEstablishmentProcedure.run_calls api hdr dnn hreserve with
    ⟨calls, hcalls, hafter⟩
  have hcommitted : committedSessions
      (SessionEstablishmentProcedure.run api hdr dnn s).2.log =
        committedSessions s.log ++ calls.filterMap committedBy := by
    rw [committedSessions_eq, hcalls, List.filterMap_append,
      ← committedSessions_eq]
    rfl
  rw [establishesAlone_iff, establishesAlone_iff, hcommitted,
    List.length_append]
  cases hafter with
  | committed tunnel hcommits =>
      simp only [hcommits, forall_const]
      change _ + 1 <= 1 <-> _
      rw [← List.length_eq_zero_iff]
      lia
  | refused tunnel e hnot =>
      change _ + 0 <= 1 <-> _
      simp [hnot]
  | failed hnot => simp [hnot]

/-!
## Held and committed sessions
-/

structure Bearing (extra : List PduSession) (s : Task) : Prop where
  held : s.ue.pduSessions.map PduSession.userplaneInfo =
    committedSessions s.log
  signalled : forall session, session ∈ s.ue.pduSessions ++ extra ->
    SignalledToDu s.log session 1

theorem SignalledToDu.append {log : List UeEvent} {session : PduSession}
    {drbId : DrbId} (h : SignalledToDu log session drbId)
    (rest : List UeEvent) : SignalledToDu (log ++ rest) session drbId := by
  rcases h with ⟨request, answer, drbs, item, hmem, hitem⟩
  exact ⟨request, answer, drbs, item, List.mem_append_left _ hmem, hitem⟩

theorem committedSessions_record (event : UeEvent) (s : Task) :
    committedSessions (s.record event).log =
      committedSessions s.log ++ event.committed.toList :=
  filterMap_log UeEvent.committed s.log event

theorem Bearing.record {extra : List PduSession} {s : Task} {event : UeEvent}
    (hevent : event.committed = none) (h : Bearing extra s) :
    Bearing extra (s.record event) := by
  constructor
  · rw [committedSessions_record, hevent, Option.toList_none, List.append_nil]
    exact h.held
  · intro session hmem
    exact (h.signalled session hmem).append _

theorem bearingUpkeep (api : HandlerApi) (extra : List PduSession) :
    Upkeep api (Bearing extra) (fun event => event.committed = none)
      (fun _ => True) where
  receive s _ rest _ hs :=
    Bearing.record (s := { s with inbox := rest }) rfl ⟨hs.held, hs.signalled⟩
  setPdcpTx _ _ hs := ⟨hs.held, hs.signalled⟩
  encode _ _ hs := ⟨hs.held, hs.signalled⟩
  encoded _ _ _ _ _ := trivial
  record _ _ hevent hs := hs.record hevent
  sent _ _ _ := rfl

variable (api : HandlerApi)

theorem Bearing.drop {extra : List PduSession} {s : Task}
    (h : Bearing extra s) : Bearing [] s := by
  refine ⟨h.held, ?_⟩
  intro session hmem
  rw [List.append_nil] at hmem
  exact h.signalled session (List.mem_append_left _ hmem)

theorem performF1UeContextSetup_bearing (session : PduSession) :
    Triple (Bearing [])
      (SessionEstablishmentProcedure.performF1UeContextSetup api session)
      (fun _ => Bearing [session]) (Bearing []) := by
  apply triple_bind keeps_get
  intro s
  apply triple_bind (R := fun _ => Bearing [session])
  · apply triple_callService
    · intro t response ht
      refine ⟨(ht.record rfl).held, ?_⟩
      intro session' hmem
      rcases List.mem_append.mp hmem with hheld | hnew
      · exact (ht.signalled session'
          (List.mem_append_left _ hheld)).append _
      · rw [List.mem_singleton.mp hnew]
        exact ⟨_, _, _, _, List.mem_append_right _ (List.mem_singleton_self _),
          rfl, List.mem_cons_self, rfl, rfl, rfl⟩
    · intro t e ht
      exact ht.record rfl
  · intro response
    exact (keeps_lift _).weaken fun _ ht => ht.drop

def CommittedBearing (session : PduSession) (s : Task) : Prop :=
  Bearing [] (SessionEstablishmentProcedure.pushSession session s)

theorem commit_bearing (session : PduSession) (tunnel : GtpTunnel) :
    Triple (Bearing [session])
      (commitUserplaneSession api session.userplaneInfo tunnel)
      (fun _ => CommittedBearing session) (Bearing []) := by
  apply triple_callService
  · intro s _ hs
    constructor
    · show (s.ue.pduSessions ++ [session]).map PduSession.userplaneInfo =
        committedSessions (s.record _).log
      rw [committedSessions_record, List.map_append, hs.held]
      rfl
    · intro session' hmem
      rw [List.append_nil] at hmem
      exact (hs.signalled session' hmem).append _
  · intro s e hs
    exact hs.drop.record rfl

theorem sessionEstablishment_bearing (hdr : Nas5gsmHeader)
    (dnn : Option Bytes) :
    Keeps (Bearing []) (SessionEstablishmentProcedure.run api hdr dnn) := by
  have h := (bearingUpkeep api []).requests
  apply triple_bind (h.callService fun _ => rfl)
  intro userplaneInfo
  apply triple_bind (performF1UeContextSetup_bearing api _)
  intro setup
  apply triple_bind ((keeps_lift _).weaken fun _ hs => hs.drop)
  intro accept
  apply triple_bind (((bearingUpkeep api _).requests.encodeNas accept
    fun _ _ => rfl).conseq (fun _ hs => hs) (fun _ _ hs => hs.right)
      fun _ hs => hs.drop)
  intro bytes
  apply triple_bind (commit_bearing api _ _)
  intro _
  apply triple_bind (R := fun _ => Bearing [])
  · exact triple_modify fun _ hs => hs
  · exact fun _ => h.performRrcReconfiguration trivial _ _

theorem runInner_bearing (r : InitialUlRrcMessageTransfer) :
    Keeps (Bearing []) (UeMessageHandler.runInner api r) := by
  have h := (bearingUpkeep api []).requests
  exact h.runInner (fun _ hs => hs) (fun _ _ => rfl)
    (sessionEstablishment_bearing api)
    (h.initialAccess (fun _ _ _ => rfl)
      (fun _ _ hs => ⟨hs.held, hs.signalled⟩)
      (fun _ _ hs => ⟨hs.held, hs.signalled⟩) r)

/-!
## Every reachable state
-/

/-- The task after it has taken these PDUs, and whatever it was waiting for has
failed to come. -/
def reached (ueId : GnbCuUeF1apId) (r : InitialUlRrcMessageTransfer)
    (pdus : List F1apPdu) : Task :=
  (UeMessageHandler.runInner api r (UeMessageHandler.start api ueId r pdus)).2

theorem reached_bearing (ueId : GnbCuUeF1apId)
    (r : InitialUlRrcMessageTransfer) (pdus : List F1apPdu) :
    Bearing [] (reached api ueId r pdus) := by
  apply (runInner_bearing api r).after
  constructor
  · rfl
  · intro session hmem
    cases hmem

theorem Bearing.own_iff_single {s : Task} (h : Bearing [] s) :
    OnOwnBearers s <-> s.ue.pduSessions.length <= 1 := by
  have hone : forall session, session ∈ s.ue.pduSessions ->
      Signalled s.log session 1 := fun session hmem =>
    Or.inl (h.signalled session (List.mem_append_left _ hmem))
  constructor
  · intro hown
    have hbearers := hown.bearers
    cases hsessions : s.ue.pduSessions with
    | nil => exact Nat.zero_le 1
    | cons first rest =>
        cases rest with
        | nil => exact Nat.le_refl 1
        | cons second rest =>
            rw [hsessions] at hone hbearers
            have hne := List.rel_of_pairwise_cons hbearers List.mem_cons_self
            exact absurd rfl (hne 1 1 (hone first List.mem_cons_self)
              (hone second (List.mem_cons_of_mem _ List.mem_cons_self)))
  · intro hle
    cases hsessions : s.ue.pduSessions with
    | nil => constructor <;> rw [hsessions] <;> simp
    | cons first rest =>
        rw [hsessions, List.length_cons] at hle
        have hrest : rest = [] := List.length_eq_zero_iff.mp (by lia)
        constructor <;> rw [hsessions, hrest] <;> simp

/-- In every reachable state of a UE task, its sessions are on bearers of their
own exactly when none was established while another one was held. -/
theorem onOwnBearers_iff (ueId : GnbCuUeF1apId)
    (r : InitialUlRrcMessageTransfer) (pdus : List F1apPdu) :
    OnOwnBearers (reached api ueId r pdus) <->
      EstablishesAlone (reached api ueId r pdus).log := by
  have hbearing := reached_bearing api ueId r pdus
  rw [hbearing.own_iff_single, establishesAlone_iff, ← hbearing.held,
    List.length_map]

def sessionsApi : HandlerApi :=
  { acceptingApi with
    reserveUserplaneSession := fun log =>
      Except.ok (PacketProcessor.sessionFor Shared.smallSubnet
        (Vector.replicate 3 7)
        (UInt8.ofNat (1 + (committedSessions log).length))) }

def secondRequest (request : UInt8) : List F1apPdu :=
  [1, 2, 3, 4, 5, 6, 8, request, 8].map toyPdu

theorem not_own_of_two_sessions {pdus : List F1apPdu}
    (h : (reached api 7 toyTransfer pdus).ue.pduSessions.length = 2) :
    ¬ OnOwnBearers (reached api 7 toyTransfer pdus) := by
  intro hown
  have hle := (reached_bearing api 7 toyTransfer pdus).own_iff_single.mp hown
  rw [h] at hle
  exact Nat.not_succ_le_self 1 hle

/-- The second request may be for the same session or for another one. -/
theorem not_onOwnBearers_secondRequest :
    ¬ OnOwnBearers (reached sessionsApi 7 toyTransfer (secondRequest 6)) ∧
      ¬ OnOwnBearers (reached sessionsApi 7 toyTransfer (secondRequest 9)) := by
  constructor
  · exact not_own_of_two_sessions sessionsApi (by decide +kernel)
  · exact not_own_of_two_sessions sessionsApi (by decide +kernel)

end Ue
end QCore
