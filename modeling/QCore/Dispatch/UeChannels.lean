import QCore.F1ap.Messages
import QCore.Stack.Transactions

/-!
# From the association to the channel of a UE

A message that no pending request accepts is given to a task of its own.  The
task decodes the message, looks up the channel of the UE and sends the PDU on
it.  The executor may run these tasks in any order, so what the channel carries
is in the order of the tasks and not of the messages.

Tasks are numbered by the order in which they were spawned, which is the order
in which the messages arrived.
-/

namespace QCore
namespace Dispatch

open Foundation
open F1ap
open Stack

/-- What is fixed during a run: how a message decodes, and which UEs have an
entry in `ue_tasks`. -/
structure DispatchEnv where
  decode : Message -> Option F1apPdu
  registered : GnbCuUeF1apId -> Bool

structure UeChannels where
  stack : Transactions Nat
  /-- The procedure tasks that have run, in the order they ran. -/
  ran : List Nat
  /-- What has been sent on the channels of the UEs, with the sending task. -/
  sent : List (Nat × GnbCuUeF1apId × F1apPdu)

inductive DispatchEvent where
  | stack (event : Event Nat)
  | runTask (task : Nat)

namespace UeChannels

variable (env : DispatchEnv)

def start : UeChannels where
  stack := Transactions.start
  ran := []
  sent := []

def taskPdu (d : UeChannels) (task : Nat) : Option (GnbCuUeF1apId × F1apPdu) := do
  let spawned <- d.stack.spawned[task]?
  let pdu <- env.decode spawned.1
  let ue <- pdu.ueId
  return (ue, pdu)

/-- `dispatch_ue_message`: send on the UE's channel, or fail when `ue_tasks` has
no such UE. -/
def dispatchUeMessage (d : UeChannels) (task : Nat) (ue : GnbCuUeF1apId)
    (pdu : F1apPdu) : UeChannels :=
  if env.registered ue then
    { d with sent := d.sent ++ [(task, ue, pdu)] }
  else
    d

def step (d : UeChannels) : DispatchEvent -> Option UeChannels
  | DispatchEvent.stack event =>
      (d.stack.step event).map fun s => { d with stack := s }
  | DispatchEvent.runTask task =>
      if task < d.stack.spawned.length ∧ task ∉ d.ran then
        let d' := { d with ran := d.ran ++ [task] }
        match taskPdu env d task with
        | some (ue, pdu) => some (dispatchUeMessage env d' task ue pdu)
        | none => some d'
      else
        none

def tasksFor (ue : GnbCuUeF1apId) (d : UeChannels) : List Nat :=
  (List.range d.stack.spawned.length).filter fun task =>
    (taskPdu env d task).map Prod.fst = some ue

def sentTo (ue : GnbCuUeF1apId) (d : UeChannels) : List Nat :=
  (d.sent.filter fun entry => entry.2.1 = ue).map Prod.fst

/-- The channel of the UE has received its messages in the order of arrival,
none left out. -/
def InOrder (ue : GnbCuUeF1apId) (d : UeChannels) : Prop :=
  sentTo ue d <+: tasksFor env ue d

/-- The task that runs is not overtaking a task for the same UE. -/
def NoOvertaking (ue : GnbCuUeF1apId) (d : UeChannels) : DispatchEvent -> Prop
  | DispatchEvent.stack _ => True
  | DispatchEvent.runTask task =>
      task ∈ tasksFor env ue d -> task ∉ d.ran ->
        forall earlier, earlier ∈ tasksFor env ue d -> earlier < task ->
          earlier ∈ d.ran

instance (ue : GnbCuUeF1apId) (d : UeChannels) :
    forall event, Decidable (NoOvertaking env ue d event)
  | DispatchEvent.stack _ => inferInstanceAs (Decidable True)
  | DispatchEvent.runTask _ =>
      inferInstanceAs (Decidable (_ -> _ ->
        forall earlier, earlier ∈ tasksFor env ue d -> _))

end UeChannels

def dispatchMachine (env : DispatchEnv) : Machine UeChannels DispatchEvent where
  step := UeChannels.step env

namespace UeChannels

variable {env : DispatchEnv} {ue : GnbCuUeF1apId}

/-!
## How the two lists grow
-/

theorem mem_tasksFor {d : UeChannels} {task : Nat} :
    task ∈ tasksFor env ue d <->
      task < d.stack.spawned.length ∧
        exists pdu, taskPdu env d task = some (ue, pdu) := by
  unfold tasksFor
  rw [List.mem_filter, List.mem_range, decide_eq_true_eq, Option.map_eq_some_iff]
  constructor
  · intro h
    rcases h with ⟨hlt, ⟨ue', pdu⟩, htask, heq⟩
    cases heq
    exact ⟨hlt, pdu, htask⟩
  · intro h
    rcases h with ⟨hlt, pdu, htask⟩
    exact ⟨hlt, (ue, pdu), htask, rfl⟩

theorem tasksFor_sorted (d : UeChannels) :
    (tasksFor env ue d).Pairwise (· < ·) :=
  List.Pairwise.filter _ List.pairwise_lt_range

theorem taskPdu_of_lt {d d' : UeChannels} {more : List (Message × Nat)}
    (hmore : d'.stack.spawned = d.stack.spawned ++ more) {task : Nat}
    (hlt : task < d.stack.spawned.length) :
    taskPdu env d' task = taskPdu env d task := by
  unfold taskPdu
  rw [hmore, List.getElem?_append_left hlt]

theorem tasksFor_grows {d d' : UeChannels} {more : List (Message × Nat)}
    (hmore : d'.stack.spawned = d.stack.spawned ++ more) :
    tasksFor env ue d <+: tasksFor env ue d' := by
  have hold : (List.range d.stack.spawned.length).filter
        (fun task => (taskPdu env d' task).map Prod.fst = some ue) =
      tasksFor env ue d := by
    unfold tasksFor
    apply List.filter_congr
    intro task htask
    rw [taskPdu_of_lt hmore (List.mem_range.mp htask)]
  unfold tasksFor
  rw [hmore, List.length_append, List.range_add, List.filter_append, hold]
  exact List.prefix_append _ _

theorem concat_prefix_iff {taken all : List Nat} {next : Nat}
    (hsorted : all.Pairwise (· < ·)) (htaken : taken <+: all)
    (hmem : next ∈ all) (hnew : next ∉ taken) :
    taken ++ [next] <+: all <->
      forall earlier, earlier ∈ all -> earlier < next -> earlier ∈ taken := by
  rcases htaken with ⟨rest, hrest⟩
  rw [← hrest] at hsorted hmem ⊢
  rw [List.prefix_append_right_inj]
  rcases List.pairwise_append.mp hsorted with ⟨_, hrestSorted, hbelow⟩
  have hmemRest : next ∈ rest := by
    rcases List.mem_append.mp hmem with h | h
    · exact absurd h hnew
    · exact h
  cases rest with
  | nil => cases hmemRest
  | cons head tail =>
      have hhead := (List.pairwise_cons.mp hrestSorted).left
      rw [List.cons_prefix_cons]
      constructor
      · intro h earlier hearlier hlt
        rcases List.mem_append.mp hearlier with hin | hin
        · exact hin
        · rcases List.mem_cons.mp hin with heq | htail
          · lia
          · have := hhead earlier htail
            lia
      · intro h
        rcases List.mem_cons.mp hmemRest with heq | htail
        · exact ⟨heq, List.nil_prefix⟩
        · -- The head would be an earlier task that has not been taken.
          have hin := h head (List.mem_append_right _ List.mem_cons_self)
            (hhead next htail)
          have := hbelow head hin head List.mem_cons_self
          lia

/-!
## Order is kept exactly when no task overtakes
-/

structure Synced (env : DispatchEnv) (ue : GnbCuUeF1apId) (d : UeChannels) :
    Prop where
  sent_iff : forall task, task ∈ sentTo ue d <->
    task ∈ d.ran ∧ task ∈ tasksFor env ue d
  ran_lt : forall task, task ∈ d.ran -> task < d.stack.spawned.length

inductive UeEffect (env : DispatchEnv) (ue : GnbCuUeF1apId) (d : UeChannels) :
    DispatchEvent -> UeChannels -> Prop where
  | stack {event : Event Nat} {t : Transactions Nat}
      {more : List (Message × Nat)} :
      t.spawned = d.stack.spawned ++ more ->
      UeEffect env ue d (DispatchEvent.stack event) { d with stack := t }
  | sent {task : Nat} {d' : UeChannels} :
      task ∈ tasksFor env ue d -> task ∉ d.ran ->
      d'.stack = d.stack -> d'.ran = d.ran ++ [task] ->
      sentTo ue d' = sentTo ue d ++ [task] ->
      UeEffect env ue d (DispatchEvent.runTask task) d'
  | other {task : Nat} {d' : UeChannels} :
      task ∉ tasksFor env ue d -> task < d.stack.spawned.length ->
      d'.stack = d.stack -> d'.ran = d.ran ++ [task] ->
      sentTo ue d' = sentTo ue d ->
      UeEffect env ue d (DispatchEvent.runTask task) d'

theorem step_ueEffect (hreg : env.registered ue = true) {d d' : UeChannels}
    {event : DispatchEvent}
    (h : (dispatchMachine env).step d event = some d') :
    UeEffect env ue d event d' := by
  cases event with
  | stack event =>
      rcases Option.map_eq_some_iff.mp h with ⟨t, ht, heq⟩
      rcases Transactions.spawned_step ht with ⟨more, hmore⟩
      rw [← heq]
      exact UeEffect.stack hmore
  | runTask task =>
      have hstep : step env d (DispatchEvent.runTask task) = some d' := h
      simp only [step, Option.ite_none_right_eq_some] at hstep
      rcases hstep with ⟨⟨hlt, hnot⟩, hrun⟩
      cases htask : taskPdu env d task with
      | none =>
          rw [htask] at hrun
          cases hrun
          refine UeEffect.other ?_ hlt rfl rfl rfl
          intro hmem
          rcases mem_tasksFor.mp hmem with ⟨_, pdu, hpdu⟩
          rw [htask] at hpdu
          cases hpdu
      | some target =>
          rcases target with ⟨ue', pdu⟩
          rw [htask] at hrun
          cases hrun
          by_cases hue : ue' = ue
          · rw [hue] at htask ⊢
            refine UeEffect.sent (mem_tasksFor.mpr ⟨hlt, pdu, htask⟩) hnot
              ?_ ?_ ?_
            · simp [dispatchUeMessage, hreg]
            · simp [dispatchUeMessage, hreg]
            · simp [dispatchUeMessage, hreg, sentTo]
          · refine UeEffect.other ?_ hlt ?_ ?_ ?_
            · intro hmem
              rcases mem_tasksFor.mp hmem with ⟨_, pdu', hpdu'⟩
              rw [htask] at hpdu'
              cases hpdu'
              exact hue rfl
            · unfold dispatchUeMessage
              split <;> rfl
            · unfold dispatchUeMessage
              split <;> rfl
            · unfold dispatchUeMessage
              split
              · simp [sentTo, hue]
              · rfl

theorem tasksFor_of_stack_eq {d d' : UeChannels} (h : d'.stack = d.stack) :
    tasksFor env ue d' = tasksFor env ue d := by
  unfold tasksFor taskPdu
  rw [h]

theorem synced_start : Synced env ue start := by
  constructor
  · intro task
    simp [sentTo, start]
  · intro task htask
    cases htask

theorem synced_effect {d d' : UeChannels} {event : DispatchEvent}
    (h : Synced env ue d) (heffect : UeEffect env ue d event d') :
    Synced env ue d' := by
  cases heffect with
  | @stack _ t more hmore =>
      have hgrow : forall task, task ∈ d.ran ->
          (task ∈ tasksFor env ue { d with stack := t } <->
            task ∈ tasksFor env ue d) := by
        intro task htask
        have hlt := h.ran_lt task htask
        have hlt' : task < t.spawned.length := by
          rw [hmore, List.length_append]
          lia
        have hpdu : taskPdu env { d with stack := t } task =
            taskPdu env d task :=
          taskPdu_of_lt hmore hlt
        rw [mem_tasksFor, mem_tasksFor, hpdu]
        exact ⟨fun hr => ⟨hlt, hr.right⟩, fun hr => ⟨hlt', hr.right⟩⟩
      constructor
      · intro task
        apply (h.sent_iff task).trans
        constructor
        · intro hr
          exact ⟨hr.left, (hgrow task hr.left).mpr hr.right⟩
        · intro hr
          exact ⟨hr.left, (hgrow task hr.left).mp hr.right⟩
      · intro task htask
        have hlt := h.ran_lt task htask
        change task < t.spawned.length
        rw [hmore, List.length_append]
        lia
  | @sent task d' hmem _ hstack hran hsent =>
      constructor
      · intro other
        rw [hsent, hran, tasksFor_of_stack_eq hstack, List.mem_append,
          List.mem_append, h.sent_iff other, List.mem_singleton]
        constructor
        · intro hr
          rcases hr with hold | heq
          · exact ⟨Or.inl hold.left, hold.right⟩
          · rw [heq]
            exact ⟨Or.inr rfl, hmem⟩
        · intro hr
          rcases hr with ⟨hold | heq, hfor⟩
          · exact Or.inl ⟨hold, hfor⟩
          · exact Or.inr heq
      · intro other hother
        rw [hran, List.mem_append, List.mem_singleton] at hother
        rw [hstack]
        rcases hother with hold | heq
        · exact h.ran_lt other hold
        · rw [heq]
          exact (mem_tasksFor.mp hmem).left
  | @other task d' hmem hlt hstack hran hsent =>
      constructor
      · intro other
        rw [hsent, hran, tasksFor_of_stack_eq hstack, h.sent_iff other,
          List.mem_append, List.mem_singleton]
        constructor
        · intro hr
          exact ⟨Or.inl hr.left, hr.right⟩
        · intro hr
          rcases hr with ⟨hold | heq, hfor⟩
          · exact ⟨hold, hfor⟩
          · rw [heq] at hfor
            exact absurd hfor hmem
      · intro other hother
        rw [hran, List.mem_append, List.mem_singleton] at hother
        rw [hstack]
        rcases hother with hold | heq
        · exact h.ran_lt other hold
        · rw [heq]
          exact hlt

theorem noOvertaking_iff {d d' : UeChannels} {event : DispatchEvent}
    (horder : InOrder env ue d) (hsynced : Synced env ue d)
    (heffect : UeEffect env ue d event d') :
    NoOvertaking env ue d event <-> InOrder env ue d' := by
  cases heffect with
  | stack hmore =>
      refine ⟨fun _ => ?_, fun _ => trivial⟩
      exact List.IsPrefix.trans horder (tasksFor_grows hmore)
  | @sent task d' hmem hnot hstack _ hsent =>
      have hnew : task ∉ sentTo ue d := by
        intro hin
        exact hnot ((hsynced.sent_iff task).mp hin).left
      unfold InOrder
      rw [hsent, tasksFor_of_stack_eq hstack,
        concat_prefix_iff (tasksFor_sorted d) horder hmem hnew]
      constructor
      · intro h earlier hearlier hlt
        exact (hsynced.sent_iff earlier).mpr
          ⟨h hmem hnot earlier hearlier hlt, hearlier⟩
      · intro h _ _ earlier hearlier hlt
        exact ((hsynced.sent_iff earlier).mp (h earlier hearlier hlt)).left
  | other hmem _ hstack _ hsent =>
      unfold InOrder
      rw [hsent, tasksFor_of_stack_eq hstack]
      exact ⟨fun _ => horder, fun _ hin => absurd hin hmem⟩

theorem noOvertaking_of_refused {d : UeChannels} {event : DispatchEvent}
    (h : (dispatchMachine env).step d event = none) :
    NoOvertaking env ue d event := by
  cases event with
  | stack event => trivial
  | runTask task =>
      intro hmem hnot
      have hlt := (mem_tasksFor.mp hmem).left
      have hstep : step env d (DispatchEvent.runTask task) = none := h
      simp only [step, hlt, hnot, not_false_eq_true, and_self, ↓reduceIte]
        at hstep
      cases htask : taskPdu env d task with
      | none =>
          rw [htask] at hstep
          cases hstep
      | some target =>
          rw [htask] at hstep
          cases hstep

/-- The channel of a UE receives its messages in the order of arrival, in every
state of a run, exactly when no procedure task of that UE overtakes another. -/
theorem inOrder_iff_noOvertaking (hreg : env.registered ue = true)
    (events : List DispatchEvent) :
    (dispatchMachine env).Always (InOrder env ue) start events <->
      (dispatchMachine env).Along (NoOvertaking env ue) start events := by
  refine Machine.always_iff_along (J := Synced env ue) ?_ ?_ ?_
    ⟨_, rfl⟩ synced_start events
  · intro d event d' hsynced hstep
    exact synced_effect hsynced (step_ueEffect hreg hstep)
  · intro d event _ _ hnone
    exact noOvertaking_of_refused hnone
  · intro d event d' horder hsynced hstep
    exact noOvertaking_iff horder hsynced (step_ueEffect hreg hstep)

/-- UE 1 is registered; a message is an initiating message with one byte of
content. -/
def oneUe : DispatchEnv where
  decode
    | [0, content] => some (F1apPdu.ulRrcMessageTransfer ⟨1, [content]⟩)
    | _ => none
  registered := fun ue => ue = 1

def twoMessages (first second : Nat) : List DispatchEvent :=
  [DispatchEvent.stack (Event.find 0 [0, 7]),
    DispatchEvent.stack (Event.find 0 [0, 8]),
    DispatchEvent.runTask first, DispatchEvent.runTask second]

theorem inOrder_twoMessages :
    oneUe.registered 1 = true ∧
      (dispatchMachine oneUe).Always (InOrder oneUe 1) start
        (twoMessages 0 1) :=
  ⟨by decide, (inOrder_iff_noOvertaking (by decide) _).mpr (by decide)⟩

/-- When the second task runs first, the channel carries the second message
before the first one. -/
theorem not_inOrder_twoMessages :
    exists d, (dispatchMachine oneUe).run start (twoMessages 1 0) = some d ∧
      d.sent.map (fun entry => entry.2.2) =
        [F1apPdu.ulRrcMessageTransfer ⟨1, [8]⟩,
          F1apPdu.ulRrcMessageTransfer ⟨1, [7]⟩] ∧
      ¬ InOrder oneUe 1 d := by
  refine ⟨_, rfl, rfl, ?_⟩
  unfold InOrder
  decide

end UeChannels

end Dispatch
end QCore
