import Mathlib.Data.List.Basic
import QCore.Ue.Dialogue

/-!
# Release requests of the DU

The main loop of a UE task answers a release request with a release command.  A
task that waits for the answer to an exchange does not: it takes the request for
a wrong answer and destroys the context, or, when it has just asked for RRC
security, goes on as if it had been answered.
-/

namespace QCore
namespace Ue

open Foundation
open F1ap
open Rrc
open Userplane

def UeEvent.destroys : UeEvent -> Bool
  | UeEvent.delete _ => true
  | UeEvent.deleteUeChannel _ => true
  | _ => false

/-- A release command for the UE comes before anything of the context is
destroyed. -/
def ReleaseHonoured (cu : GnbCuUeF1apId) (du : GnbDuUeF1apId)
    (after : List UeEvent) : Prop :=
  exists before command answer rest,
    after = before ++ UeEvent.ueContextRelease command answer :: rest ∧
      command.gnbCuUeF1apId = cu ∧ command.gnbDuUeF1apId = du ∧
      forall event, event ∈ before -> event.destroys = false

/-- The task has no transfer unanswered. -/
def Unoccupied (log : List UeEvent) : Prop :=
  forall transfer rrc,
    log.getLast? ≠ some (UeEvent.dlRrcMessageTransfer transfer rrc)

/-- The task has just sent the RRC security mode command. -/
def AwaitsSecurityMode (log : List UeEvent) : Prop :=
  exists transfer id, log.getLast? =
    some (UeEvent.dlRrcMessageTransfer transfer
      (DlRrcMessage.securityModeCommand id))

/-- Later in the run a PDU that asks for a release finds the task unoccupied. -/
def ReleasedLater (api : HandlerApi) (log after : List UeEvent) : Prop :=
  exists before pdu rest, after = before ++ UeEvent.received pdu :: rest ∧
    Unoccupied (log ++ before) ∧ purposeOf api pdu = Purpose.release

variable {api : HandlerApi} {cu : GnbCuUeF1apId} {du : GnbDuUeF1apId}

/-!
## Steps of the dialogue
-/

namespace Stage

theorem next_release {stage stage' : Stage} {command : UeContextReleaseCommand}
    {answer : Except RequestError Unit}
    (h : (dialogue api cu du).step stage
      (UeEvent.ueContextRelease command answer) = some stage') :
    stage = releasing ∧ command.gnbCuUeF1apId = cu ∧
      command.gnbDuUeF1apId = du := by
  cases turn_of_step api cu du h with
  | commanded _ _ hcu hdu => exact ⟨rfl, hcu, hdu⟩

theorem next_received {stage stage' : Stage} {pdu : F1apPdu}
    (h : (dialogue api cu du).step stage (UeEvent.received pdu) = some stage') :
    stage = fresh ∨ (exists exchange, stage = awaiting exchange) ∨
      stage = idle := by
  cases turn_of_step api cu du h with
  | begun r => exact Or.inl rfl
  | answered exchange _ => exact Or.inr (Or.inl ⟨exchange, rfl⟩)
  | misanswered exchange _ => exact Or.inr (Or.inl ⟨exchange, rfl⟩)
  | asked _ => exact Or.inr (Or.inr rfl)

theorem next_destroys {stage stage' : Stage} {event : UeEvent}
    (hevent : event.destroys = true)
    (h : (dialogue api cu du).step stage event = some stage') :
    stage' = ending := by
  cases turn_of_step api cu du h with
  | deleted _ session _ => rfl
  | closed _ ueId _ => rfl
  | _ => cases hevent

theorem next_ending {stage' : Stage} {event : UeEvent}
    (h : (dialogue api cu du).step ending event = some stage') :
    event.destroys = true ∧ stage' = ending := by
  have hevent : event.destroys = true := by
    cases event with
    | delete session => rfl
    | deleteUeChannel ueId => rfl
    | _ => cases h
  exact ⟨hevent, next_destroys hevent h⟩

def calm : Stage -> Bool
  | awaiting _ => false
  | releasing => false
  | _ => true

theorem calm_following (exchange : Exchange) :
    exchange.following.calm = true := by
  cases exchange <;> rfl

theorem next_cases {stage stage' : Stage} {event : UeEvent}
    (h : (dialogue api cu du).step stage event = some stage') :
    stage'.calm = true ∧
        (forall t rrc, event ≠ UeEvent.dlRrcMessageTransfer t rrc) ∨
      (exists pdu, event = UeEvent.received pdu ∧ stage' = releasing ∧
        stage = idle ∧ purposeOf api pdu = Purpose.release) ∨
      exists t rrc exchange, event = UeEvent.dlRrcMessageTransfer t rrc ∧
        stage' = awaiting exchange ∧ exchange.sends t.srbId rrc = true := by
  cases turn_of_step api cu du h with
  | sent _ exchange t rrc _ hsends =>
      exact Or.inr (Or.inr ⟨t, rrc, exchange, rfl, rfl, hsends⟩)
  | asked pdu =>
      cases hpurpose : purposeOf api pdu with
      | release => exact Or.inr (Or.inl ⟨pdu, rfl, rfl, rfl, hpurpose⟩)
      | session => exact Or.inl ⟨rfl, by simp⟩
      | nothing => exact Or.inl ⟨rfl, by simp⟩
  | answered exchange pdu => exact Or.inl ⟨calm_following exchange, by simp⟩
  | _ => exact Or.inl ⟨rfl, by simp⟩

end Stage

/-!
## The last event of a log
-/

theorem calm_ne_awaiting {stage : Stage} (h : stage.calm = true)
    (exchange : Exchange) : stage ≠ Stage.awaiting exchange := by
  intro heq
  rw [heq] at h
  cases h

theorem sends_rrcSecurity_iff {exchange : Exchange} {srbId : SrbId}
    {rrc : DlRrcMessage} (h : exchange.sends srbId rrc = true) :
    exchange = Exchange.rrcSecurity <->
      exists id, rrc = DlRrcMessage.securityModeCommand id := by
  cases exchange <;> cases rrc <;> first | cases h | simp

theorem unoccupied_iff {log : List UeEvent} {stage : Stage}
    (h : (dialogue api cu du).run Stage.fresh log = some stage) :
    Unoccupied log <-> forall exchange, stage ≠ Stage.awaiting exchange := by
  rcases List.eq_nil_or_concat' log with hnil | ⟨init, event, hlog⟩
  · rw [hnil] at h ⊢
    cases h
    simp [Unoccupied]
  · rw [hlog] at h ⊢
    rcases Machine.run_concat_some h with ⟨mid, _, hnext⟩
    unfold Unoccupied
    simp only [List.getLast?_concat, ne_eq, Option.some.injEq]
    rcases Stage.next_cases hnext with
      ⟨hcalm, hnot⟩ | ⟨pdu, hevent, hstage, _⟩ |
      ⟨t, rrc, exchange, hevent, hstage, _⟩
    · exact ⟨fun _ => calm_ne_awaiting hcalm, fun _ => hnot⟩
    · rw [hevent, hstage]
      simp
    · rw [hevent, hstage]
      simp

theorem awaitsSecurityMode_iff {log : List UeEvent} {stage : Stage}
    (h : (dialogue api cu du).run Stage.fresh log = some stage) :
    AwaitsSecurityMode log <->
      stage = Stage.awaiting Exchange.rrcSecurity := by
  rcases List.eq_nil_or_concat' log with hnil | ⟨init, event, hlog⟩
  · rw [hnil] at h ⊢
    cases h
    simp [AwaitsSecurityMode]
  · rw [hlog] at h ⊢
    rcases Machine.run_concat_some h with ⟨mid, _, hnext⟩
    unfold AwaitsSecurityMode
    simp only [List.getLast?_concat, Option.some.injEq]
    rcases Stage.next_cases hnext with
      ⟨hcalm, hnot⟩ | ⟨pdu, hevent, hstage, _⟩ |
      ⟨t, rrc, exchange, hevent, hstage, hsends⟩
    · constructor
      · intro hawaits
        rcases hawaits with ⟨t, id, hevent⟩
        exact absurd hevent (hnot t _)
      · intro hstage
        exact absurd hstage (calm_ne_awaiting hcalm _)
    · rw [hevent, hstage]
      simp
    · rw [hevent, hstage, Stage.awaiting.injEq, sends_rrcSecurity_iff hsends]
      simp

/-!
## The rest of a run
-/

theorem destroys_of_ending {after : List UeEvent} {stage : Stage}
    (h : (dialogue api cu du).run Stage.ending after = some stage) :
    forall event, event ∈ after -> event.destroys = true := by
  induction after with
  | nil =>
      intro event hmem
      cases hmem
  | cons head rest ih =>
      rcases Machine.run_cons_some h with ⟨mid, hnext, hrest⟩
      rcases Stage.next_ending hnext with ⟨hhead, hmid⟩
      rw [hmid] at hrest
      intro event hmem
      rcases List.mem_cons.mp hmem with heq | htail
      · rw [heq]
        exact hhead
      · exact ih hrest event htail

theorem not_destroys_of_run {before : List UeEvent} {stage stage' : Stage}
    (h : (dialogue api cu du).run stage before = some stage')
    (hne : stage' ≠ Stage.ending) :
    forall event, event ∈ before -> event.destroys = false := by
  intro event hmem
  cases hdestroys : event.destroys with
  | false => rfl
  | true =>
      rcases List.append_of_mem hmem with ⟨first, rest, hsplit⟩
      rw [hsplit] at h
      rcases Machine.run_append_some h with ⟨mid, _, hafter⟩
      rcases Machine.run_cons_some hafter with ⟨mid', hnext, hrest⟩
      rw [Stage.next_destroys hdestroys hnext] at hrest
      have hending : stage' = Stage.ending := by
        rcases List.eq_nil_or_concat' rest with hnil | ⟨init, last, hconcat⟩
        · rw [hnil] at hrest
          cases hrest
          rfl
        · have hlast := destroys_of_ending hrest last (by simp [hconcat])
          rw [hconcat] at hrest
          rcases Machine.run_concat_some hrest with ⟨mid'', _, hlastStep⟩
          exact Stage.next_destroys hlast hlastStep
      exact absurd hending hne

theorem commands_of_releasing {after : List UeEvent} {stage : Stage}
    (h : (dialogue api cu du).run Stage.releasing after = some stage)
    (hend : stage.mayEnd = true) :
    exists command answer rest,
      after = UeEvent.ueContextRelease command answer :: rest ∧
        command.gnbCuUeF1apId = cu ∧ command.gnbDuUeF1apId = du := by
  cases after with
  | nil =>
      cases h
      cases hend
  | cons event rest =>
      rcases Machine.run_cons_some h with ⟨mid, hnext, _⟩
      cases event with
      | ueContextRelease command answer =>
          exact ⟨command, answer, rest, rfl,
            (Stage.next_release hnext).right⟩
      | _ => cases hnext

theorem releaseHonoured_iff_later {log after : List UeEvent}
    {stage final : Stage} (hcalm : stage.calm = true)
    (hlog : (dialogue api cu du).run Stage.fresh log = some stage)
    (hafter : (dialogue api cu du).run stage after = some final)
    (hend : final.mayEnd = true) :
    ReleaseHonoured cu du after <-> ReleasedLater api log after := by
  constructor
  · intro h
    rcases h with ⟨before, command, answer, rest, hsplit, _, _, _⟩
    rw [hsplit] at hafter
    rcases Machine.run_append_some hafter with ⟨mid, hbefore, hrest⟩
    rcases Machine.run_cons_some hrest with ⟨mid', hnext, _⟩
    have hmid := (Stage.next_release hnext).left
    rcases List.eq_nil_or_concat' before with hnil | ⟨init, event, hconcat⟩
    · rw [hnil] at hbefore
      cases hbefore
      rw [hmid] at hcalm
      cases hcalm
    · rw [hconcat] at hbefore
      rcases Machine.run_concat_some hbefore with ⟨asked, hinit, hask⟩
      rcases Stage.next_cases hask with
        ⟨hcalm', _⟩ | ⟨pdu, hevent, _, hidle, hpurpose⟩ |
        ⟨t, rrc, exchange, _, hwaits, _⟩
      · rw [hmid] at hcalm'
        cases hcalm'
      · refine ⟨init, pdu, UeEvent.ueContextRelease command answer :: rest,
          ?_, ?_, hpurpose⟩
        · rw [hsplit, hconcat, hevent, List.append_assoc]
          rfl
        · rw [unoccupied_iff ((Machine.run_append hlog).trans hinit), hidle]
          simp
      · rw [hmid] at hwaits
        cases hwaits
  · intro h
    rcases h with ⟨before, pdu, rest, hsplit, hunoccupied, hpurpose⟩
    rw [hsplit] at hafter
    rcases Machine.run_append_some hafter with ⟨mid, hbefore, hrest⟩
    rcases Machine.run_cons_some hrest with ⟨mid', hnext, hcommand⟩
    have hreached : (dialogue api cu du).run Stage.fresh (log ++ before) =
        some mid := (Machine.run_append hlog).trans hbefore
    rw [unoccupied_iff hreached] at hunoccupied
    have hmid' : mid' = Stage.releasing := by
      rcases Stage.next_received hnext with hfresh | ⟨exchange, hwaits⟩ | hidle
      · rw [hfresh] at hnext
        cases pdu with
        | initialUlRrcMessageTransfer r => cases hpurpose
        | _ => cases hnext
      · exact absurd hwaits (hunoccupied exchange)
      · rw [hidle] at hnext
        replace hnext : some (purposeOf api pdu).stage = some mid' := hnext
        rw [hpurpose] at hnext
        exact (Option.some.inj hnext).symm
    rw [hmid'] at hcommand
    rcases commands_of_releasing hcommand hend with
      ⟨command, answer, rest', hrest', hcu, hdu⟩
    have hpath : (dialogue api cu du).run stage
        (before ++ [UeEvent.received pdu]) = some Stage.releasing := by
      rw [Machine.run_append hbefore, Machine.run_cons_of_step [] hnext, hmid']
      rfl
    refine ⟨before ++ [UeEvent.received pdu], command, answer, rest', ?_, hcu,
      hdu, not_destroys_of_run hpath (by simp)⟩
    rw [hsplit, hrest', List.append_assoc]
    rfl

theorem not_releaseHonoured_of_destroys {after : List UeEvent}
    (h : forall event, event ∈ after -> event.destroys = true) :
    ¬ ReleaseHonoured cu du after := by
  intro hhonoured
  rcases hhonoured with ⟨before, command, answer, rest, hsplit, _⟩
  have hmem : UeEvent.ueContextRelease command answer ∈ after := by
    rw [hsplit]
    exact List.mem_append_right _ List.mem_cons_self
  cases h _ hmem

/-- A release request is honoured exactly when it finds the task unoccupied, or
when it is taken for the answer to the RRC security mode command and the task is
asked for a release later on. -/
theorem release_honoured_iff (api : HandlerApi) (ueId : GnbCuUeF1apId)
    (r : InitialUlRrcMessageTransfer) (pdus : List F1apPdu)
    {before after : List UeEvent} {request : UeContextReleaseRequest}
    (hlog : (UeMessageHandler.run api ueId
        (F1apPdu.initialUlRrcMessageTransfer r :: pdus)).2 =
      before ++ UeEvent.received (F1apPdu.ueContextReleaseRequest request) ::
        after) :
    ReleaseHonoured ueId r.gnbDuUeF1apId after <->
      Unoccupied before ∨ AwaitsSecurityMode before ∧
        ReleasedLater api (before ++
          [UeEvent.received (F1apPdu.ueContextReleaseRequest request)])
          after := by
  rcases run_dialogue api ueId r pdus with ⟨final, hend, hrun⟩
  rw [hlog] at hrun
  rcases Machine.run_append_some hrun with ⟨stage, hbefore, hrest⟩
  rcases Machine.run_cons_some hrest with ⟨stage', hnext, hafter⟩
  rw [unoccupied_iff hbefore, awaitsSecurityMode_iff hbefore]
  rcases Stage.next_received hnext with hfresh | ⟨exchange, hwaits⟩ | hidle
  · rw [hfresh] at hnext
    cases hnext
  · rw [hwaits] at hbefore hnext ⊢
    cases decEq exchange Exchange.rrcSecurity with
    | isTrue heq =>
        rw [heq] at hbefore hnext ⊢
        cases hnext
        have hreached : (dialogue api ueId r.gnbDuUeF1apId).run Stage.fresh
            (before ++
              [UeEvent.received (F1apPdu.ueContextReleaseRequest request)]) =
              some (Stage.starting Exchange.registration) :=
          Machine.run_append hbefore
        rw [releaseHonoured_iff_later rfl hreached hafter hend]
        simp
    | isFalse hne =>
        have hreceive : (Stage.awaiting exchange).receive api
            (F1apPdu.ueContextReleaseRequest request) = some stage' := hnext
        rw [receive_awaiting hne] at hreceive
        cases hreceive
        have hnot : ¬ ReleaseHonoured ueId r.gnbDuUeF1apId after :=
          not_releaseHonoured_of_destroys (destroys_of_ending hafter)
        simp [hnot, hne]
  · rw [hidle] at hnext ⊢
    cases hnext
    rcases commands_of_releasing hafter hend with
      ⟨command, answer, rest, hcommand, hcu, hdu⟩
    constructor
    · intro _
      exact Or.inl (by simp)
    · intro _
      refine ⟨[], command, answer, rest, hcommand, hcu, hdu, ?_⟩
      intro event hmem
      cases hmem

/-- The log of the small attach with a release request of the DU after its first
`n` messages. -/
def releasedLog (n : Nat) : List UeEvent :=
  (UeMessageHandler.run toyApi 7
    (F1apPdu.initialUlRrcMessageTransfer toyTransfer ::
      (([1, 2, 3, 4, 5].take n).map toyPdu ++
        [F1apPdu.ueContextReleaseRequest ⟨7, Cause.normalRelease⟩]))).2

def releaseReceived : UeEvent :=
  UeEvent.received (F1apPdu.ueContextReleaseRequest ⟨7, Cause.normalRelease⟩)

theorem release_honoured_attached :
    exists before after, releasedLog 5 = before ++ releaseReceived :: after ∧
      ReleaseHonoured 7 3 after := by
  have hlog : releasedLog 5 = (releasedLog 5).take 14 ++ releaseReceived ::
      (releasedLog 5).drop 15 := by
    decide +kernel
  have hlast : ((releasedLog 5).take 14).getLast? =
      some (UeEvent.received (toyPdu 5)) := by
    decide +kernel
  refine ⟨_, _, hlog, (release_honoured_iff toyApi 7 toyTransfer _ hlog).mpr ?_⟩
  apply Or.inl
  intro transfer rrc hsome
  rw [hlast] at hsome
  cases hsome

/-- A task that waits for the authentication response destroys the context when
the DU asks for a release.  One that waits for the RRC security mode complete
goes on, and destroys the context when the channel is closed. -/
theorem not_release_honoured_waiting :
    (exists before, releasedLog 1 =
        before ++ releaseReceived :: [UeEvent.deleteUeChannel 7] ∧
        ¬ ReleaseHonoured 7 3 [UeEvent.deleteUeChannel 7]) ∧
      exists before after, releasedLog 3 =
        before ++ releaseReceived :: after ∧ ¬ ReleaseHonoured 7 3 after := by
  have hfirst : releasedLog 1 = (releasedLog 1).take 5 ++ releaseReceived ::
      [UeEvent.deleteUeChannel 7] := by
    decide +kernel
  have hsecond : releasedLog 3 = (releasedLog 3).take 10 ++ releaseReceived ::
      (releasedLog 3).drop 11 := by
    decide +kernel
  have hnone : ((releasedLog 3).drop 11).all (fun
      | UeEvent.ueContextRelease _ _ => false
      | _ => true) = true := by
    decide +kernel
  constructor
  · refine ⟨_, hfirst, not_releaseHonoured_of_destroys ?_⟩
    simp [UeEvent.destroys]
  · refine ⟨_, _, hsecond, ?_⟩
    intro h
    rcases h with ⟨before, command, answer, rest, hsplit, _⟩
    have hmem : UeEvent.ueContextRelease command answer ∈
        (releasedLog 3).drop 11 := by
      rw [hsplit]
      exact List.mem_append_right _ List.mem_cons_self
    cases List.all_eq_true.mp hnone _ hmem

end Ue
end QCore
