import Mathlib.Logic.Function.Basic
import QCore.F1ap.Messages
import QCore.Foundation.Machine

/-!
# The map of UE tasks

`ue_tasks` maps the id of a UE to the sender of its task's channel.  A handler
of an initial message draws an id that the map does not contain, spawns a task,
inserts the sender and dispatches the message.  Other messages are dispatched to
the id they carry, F1 removal clears the map, and a task that has run removes
the entry under its own id.

Handlers and tasks run in parallel, and each access to the map is one event.  A
task has the number of the handler that spawned it, and the map holds that
number in the place of the sender.
-/

namespace QCore
namespace Dispatch

open Foundation
open F1ap

/-- Where the handling of an `InitialUlRrcMessageTransfer` stands. -/
inductive HandlerPhase where
  | drawn (ueId : GnbCuUeF1apId)
  | spawned (ueId : GnbCuUeF1apId)
  | inserted (ueId : GnbCuUeF1apId)
  | dispatched
deriving DecidableEq, Repr

/-- Where `UeMessageHandler::run` stands. -/
inductive TaskPhase where
  /-- Waiting for the first PDU. -/
  | waiting
  /-- In `run_inner`. -/
  | running
  /-- In `destroy`. -/
  | destroying
  | terminated
deriving DecidableEq, Repr

structure UeTask where
  ueId : GnbCuUeF1apId
  phase : TaskPhase
  inbox : List F1apPdu
deriving DecidableEq, Repr

def UeTask.liveId (task : UeTask) : Option GnbCuUeF1apId :=
  match task.phase with
  | TaskPhase.terminated => none
  | _ => some task.ueId

structure UeTasks where
  ueTasks : GnbCuUeF1apId -> Option Nat
  handler : Nat -> Option HandlerPhase
  task : Nat -> Option UeTask
  /-- For each removal of an entry by a task, the task and the task whose entry
  it was. -/
  removed : List (Nat × Nat)

inductive TaskEvent where
  | draw (n : Nat) (ueId : GnbCuUeF1apId)
  | spawn (n : Nat)
  | insert (n : Nat)
  | dispatchInitial (n : Nat) (r : InitialUlRrcMessageTransfer)
  | dispatch (pdu : F1apPdu)
  | deleteUeChannels
  | recvFirst (n : Nat)
  | recv (n : Nat)
  | finish (n : Nat)
  | deleteUeChannel (n : Nat)

namespace UeTasks

def start : UeTasks where
  ueTasks := fun _ => none
  handler := fun _ => none
  task := fun _ => none
  removed := []

def setHandler (s : UeTasks) (n : Nat) (phase : HandlerPhase) : UeTasks :=
  { s with handler := Function.update s.handler n (some phase) }

def setTask (s : UeTasks) (n : Nat) (task : UeTask) : UeTasks :=
  { s with task := Function.update s.task n (some task) }

/-- `dispatch_ue_message`: send on the channel found in the map.  A channel
whose task has terminated has no receiver, and the send fails. -/
def dispatchUeMessage (s : UeTasks) (ueId : GnbCuUeF1apId) (pdu : F1apPdu) :
    UeTasks :=
  match s.ueTasks ueId with
  | none => s
  | some n =>
      match s.task n with
      | none => s
      | some task =>
          match task.liveId with
          | none => s
          | some _ => s.setTask n { task with inbox := task.inbox ++ [pdu] }

/-- Neither the map nor the handler holds the sender of the task. -/
def SendersGone (s : UeTasks) (n : Nat) (ueId : GnbCuUeF1apId) : Prop :=
  s.ueTasks ueId ≠ some n ∧ s.handler n ≠ some (HandlerPhase.spawned ueId)

instance (s : UeTasks) (n : Nat) (ueId : GnbCuUeF1apId) :
    Decidable (s.SendersGone n ueId) :=
  inferInstanceAs (Decidable (_ ∧ _))

/-- The start of `run`: the first PDU has to be the initial one.  A task that
bails out here has no context to destroy. -/
def recvFirst (s : UeTasks) (n : Nat) (task : UeTask) : Option UeTasks :=
  match task.inbox with
  | F1apPdu.initialUlRrcMessageTransfer _ :: rest =>
      some (s.setTask n { task with phase := TaskPhase.running, inbox := rest })
  | _ :: rest =>
      some (s.setTask n
        { task with phase := TaskPhase.terminated, inbox := rest })
  | [] =>
      if s.SendersGone n task.ueId then
        some (s.setTask n { task with phase := TaskPhase.terminated })
      else
        none

def step (s : UeTasks) : TaskEvent -> Option UeTasks
  | TaskEvent.draw n ueId =>
      match s.handler n, s.ueTasks ueId with
      | none, none => some (s.setHandler n (HandlerPhase.drawn ueId))
      | _, _ => none
  | TaskEvent.spawn n =>
      match s.handler n with
      | some (HandlerPhase.drawn ueId) =>
          some ((s.setTask n ⟨ueId, TaskPhase.waiting, []⟩).setHandler n
            (HandlerPhase.spawned ueId))
      | _ => none
  | TaskEvent.insert n =>
      match s.handler n with
      | some (HandlerPhase.spawned ueId) =>
          some ({ s with ueTasks := Function.update s.ueTasks ueId (some n) }.setHandler
            n (HandlerPhase.inserted ueId))
      | _ => none
  | TaskEvent.dispatchInitial n r =>
      match s.handler n with
      | some (HandlerPhase.inserted ueId) =>
          some ((s.dispatchUeMessage ueId
            (F1apPdu.initialUlRrcMessageTransfer r)).setHandler n
              HandlerPhase.dispatched)
      | _ => none
  | TaskEvent.dispatch pdu =>
      match pdu.ueId with
      | some ueId => some (s.dispatchUeMessage ueId pdu)
      | none => none
  | TaskEvent.deleteUeChannels => some { s with ueTasks := fun _ => none }
  | TaskEvent.recvFirst n =>
      match s.task n with
      | some task =>
          if task.phase = TaskPhase.waiting then s.recvFirst n task else none
      | none => none
  | TaskEvent.recv n =>
      match s.task n with
      | some ⟨ueId, TaskPhase.running, _ :: rest⟩ =>
          some (s.setTask n ⟨ueId, TaskPhase.running, rest⟩)
      | _ => none
  | TaskEvent.finish n =>
      match s.task n with
      | some ⟨ueId, TaskPhase.running, inbox⟩ =>
          some (s.setTask n ⟨ueId, TaskPhase.destroying, inbox⟩)
      | _ => none
  | TaskEvent.deleteUeChannel n =>
      match s.task n with
      | some ⟨ueId, TaskPhase.destroying, inbox⟩ =>
          some ({ s with
            ueTasks := Function.update s.ueTasks ueId none
            removed := s.removed ++ (s.ueTasks ueId).toList.map fun m => (n, m)
            }.setTask n ⟨ueId, TaskPhase.terminated, inbox⟩)
      | _ => none

end UeTasks

def taskMachine : Machine UeTasks TaskEvent where
  step := UeTasks.step

namespace UeTasks

def liveId (s : UeTasks) (n : Nat) : Option GnbCuUeF1apId :=
  (s.task n).bind UeTask.liveId

def Terminated (s : UeTasks) (n : Nat) : Prop :=
  exists task, s.task n = some task ∧ task.phase = TaskPhase.terminated

/-- The map follows the tasks that are alive. -/
structure Tracks (s : UeTasks) : Prop where
  terminated : forall n, s.Terminated n -> forall ueId, s.ueTasks ueId ≠ some n
  removedOwn : forall n m, (n, m) ∈ s.removed -> m = n
  distinct : forall m n ueId,
    s.liveId m = some ueId -> s.liveId n = some ueId -> m = n

/-- A task gets an id that no live task has, and a task whose entry is in the map
starts with the initial message. -/
def Orderly (s : UeTasks) : TaskEvent -> Prop
  | TaskEvent.spawn n =>
      forall ueId, s.handler n = some (HandlerPhase.drawn ueId) ->
        forall m, s.liveId m ≠ some ueId
  | TaskEvent.recvFirst n =>
      forall task pdu rest, s.task n = some task ->
        task.phase = TaskPhase.waiting -> task.inbox = pdu :: rest ->
        (forall r, pdu ≠ F1apPdu.initialUlRrcMessageTransfer r) ->
          s.ueTasks task.ueId ≠ some n
  | _ => True

theorem setHandler_handler_self (s : UeTasks) (n : Nat) (phase : HandlerPhase) :
    (s.setHandler n phase).handler n = some phase :=
  Function.update_self _ _ _

theorem setHandler_handler_of_ne (s : UeTasks) {m n : Nat} (h : m ≠ n)
    (phase : HandlerPhase) : (s.setHandler n phase).handler m = s.handler m :=
  Function.update_of_ne h _ _

theorem setTask_task_self (s : UeTasks) (n : Nat) (task : UeTask) :
    (s.setTask n task).task n = some task :=
  Function.update_self _ _ _

theorem setTask_task_of_ne (s : UeTasks) {m n : Nat} (h : m ≠ n)
    (task : UeTask) : (s.setTask n task).task m = s.task m :=
  Function.update_of_ne h _ _

theorem dispatchUeMessage_cases (s : UeTasks) (ueId : GnbCuUeF1apId)
    (pdu : F1apPdu) :
    s.dispatchUeMessage ueId pdu = s ∨
      exists n task live, s.ueTasks ueId = some n ∧ s.task n = some task ∧
        task.liveId = some live ∧
        s.dispatchUeMessage ueId pdu =
          s.setTask n { task with inbox := task.inbox ++ [pdu] } := by
  unfold dispatchUeMessage
  cases hentry : s.ueTasks ueId with
  | none => exact Or.inl rfl
  | some n =>
      cases htask : s.task n with
      | none => simp [htask]
      | some task =>
          cases hlive : task.liveId with
          | none => simp [htask, hlive]
          | some live =>
              apply Or.inr
              exact ⟨n, task, live, rfl, htask, hlive, by
                simp only [htask, hlive]⟩

/-!
## The effect of an event
-/

inductive Effect (s : UeTasks) : TaskEvent -> UeTasks -> Prop where
  | drawn {n : Nat} {ueId : GnbCuUeF1apId} :
      s.handler n = none ->
      Effect s (TaskEvent.draw n ueId)
        (s.setHandler n (HandlerPhase.drawn ueId))
  | spawned {n : Nat} {ueId : GnbCuUeF1apId} :
      s.handler n = some (HandlerPhase.drawn ueId) ->
      Effect s (TaskEvent.spawn n)
        ((s.setTask n ⟨ueId, TaskPhase.waiting, []⟩).setHandler n
          (HandlerPhase.spawned ueId))
  | inserted {n : Nat} {ueId : GnbCuUeF1apId} :
      s.handler n = some (HandlerPhase.spawned ueId) ->
      Effect s (TaskEvent.insert n)
        ({ s with ueTasks := Function.update s.ueTasks ueId (some n) }.setHandler
          n (HandlerPhase.inserted ueId))
  | initialDispatched {n : Nat} {ueId : GnbCuUeF1apId}
      {r : InitialUlRrcMessageTransfer} :
      s.handler n = some (HandlerPhase.inserted ueId) ->
      Effect s (TaskEvent.dispatchInitial n r)
        ((s.dispatchUeMessage ueId
          (F1apPdu.initialUlRrcMessageTransfer r)).setHandler n
            HandlerPhase.dispatched)
  | dispatched {pdu : F1apPdu} {ueId : GnbCuUeF1apId} :
      Effect s (TaskEvent.dispatch pdu) (s.dispatchUeMessage ueId pdu)
  | cleared :
      Effect s TaskEvent.deleteUeChannels { s with ueTasks := fun _ => none }
  | began {n : Nat} {task : UeTask} {r : InitialUlRrcMessageTransfer}
      {rest : List F1apPdu} :
      s.task n = some task -> task.phase = TaskPhase.waiting ->
      task.inbox = F1apPdu.initialUlRrcMessageTransfer r :: rest ->
      Effect s (TaskEvent.recvFirst n)
        (s.setTask n { task with phase := TaskPhase.running, inbox := rest })
  | bailed {n : Nat} {task : UeTask} {pdu : F1apPdu} {rest : List F1apPdu} :
      s.task n = some task -> task.phase = TaskPhase.waiting ->
      task.inbox = pdu :: rest ->
      (forall r, pdu ≠ F1apPdu.initialUlRrcMessageTransfer r) ->
      Effect s (TaskEvent.recvFirst n)
        (s.setTask n { task with phase := TaskPhase.terminated, inbox := rest })
  | closed {n : Nat} {task : UeTask} :
      s.task n = some task -> task.phase = TaskPhase.waiting ->
      task.inbox = [] -> s.SendersGone n task.ueId ->
      Effect s (TaskEvent.recvFirst n)
        (s.setTask n { task with phase := TaskPhase.terminated })
  | received {n : Nat} {ueId : GnbCuUeF1apId} {pdu : F1apPdu}
      {rest : List F1apPdu} :
      s.task n = some ⟨ueId, TaskPhase.running, pdu :: rest⟩ ->
      Effect s (TaskEvent.recv n)
        (s.setTask n ⟨ueId, TaskPhase.running, rest⟩)
  | finished {n : Nat} {ueId : GnbCuUeF1apId} {inbox : List F1apPdu} :
      s.task n = some ⟨ueId, TaskPhase.running, inbox⟩ ->
      Effect s (TaskEvent.finish n)
        (s.setTask n ⟨ueId, TaskPhase.destroying, inbox⟩)
  | deleted {n : Nat} {ueId : GnbCuUeF1apId} {inbox : List F1apPdu} :
      s.task n = some ⟨ueId, TaskPhase.destroying, inbox⟩ ->
      Effect s (TaskEvent.deleteUeChannel n)
        ({ s with
          ueTasks := Function.update s.ueTasks ueId none
          removed := s.removed ++ (s.ueTasks ueId).toList.map fun m => (n, m)
          }.setTask n ⟨ueId, TaskPhase.terminated, inbox⟩)

theorem recvFirst_effect {s s' : UeTasks} {n : Nat} {task : UeTask}
    (htask : s.task n = some task) (hphase : task.phase = TaskPhase.waiting)
    (h : s.recvFirst n task = some s') :
    Effect s (TaskEvent.recvFirst n) s' := by
  unfold recvFirst at h
  cases hinbox : task.inbox with
  | nil =>
      rw [hinbox] at h
      simp only [Option.ite_none_right_eq_some] at h
      rcases h with ⟨hgone, heq⟩
      cases heq
      rw [← hinbox]
      exact Effect.closed htask hphase hinbox hgone
  | cons pdu rest =>
      rw [hinbox] at h
      cases pdu with
      | initialUlRrcMessageTransfer r =>
          cases h
          exact Effect.began htask hphase hinbox
      | ulRrcMessageTransfer r =>
          cases h
          exact Effect.bailed htask hphase hinbox (fun _ heq => by cases heq)
      | ueContextReleaseRequest r =>
          cases h
          exact Effect.bailed htask hphase hinbox (fun _ heq => by cases heq)
      | other bytes =>
          cases h
          exact Effect.bailed htask hphase hinbox (fun _ heq => by cases heq)

theorem handler_effect {s s' : UeTasks} {n : Nat} {event : TaskEvent}
    (hevent : event = TaskEvent.spawn n ∨ event = TaskEvent.insert n ∨
      exists r, event = TaskEvent.dispatchInitial n r)
    (h : s.step event = some s') : Effect s event s' := by
  cases hphase : s.handler n with
  | none =>
      rcases hevent with rfl | rfl | ⟨r, rfl⟩ <;> simp [step, hphase] at h
  | some phase =>
      rcases hevent with rfl | rfl | ⟨r, rfl⟩ <;> cases phase <;>
        simp only [step, hphase] at h <;> cases h
      · exact Effect.spawned hphase
      · exact Effect.inserted hphase
      · exact Effect.initialDispatched hphase

theorem step_effect {s s' : UeTasks} {event : TaskEvent}
    (h : taskMachine.step s event = some s') : Effect s event s' := by
  replace h : s.step event = some s' := h
  cases event with
  | draw n ueId =>
      cases hhandler : s.handler n with
      | some phase => simp [step, hhandler] at h
      | none =>
          cases hentry : s.ueTasks ueId with
          | some m => simp [step, hhandler, hentry] at h
          | none =>
              simp only [step, hhandler, hentry] at h
              cases h
              exact Effect.drawn hhandler
  | spawn n => exact handler_effect (Or.inl rfl) h
  | insert n => exact handler_effect (Or.inr (Or.inl rfl)) h
  | dispatchInitial n r =>
      exact handler_effect (Or.inr (Or.inr ⟨r, rfl⟩)) h
  | dispatch pdu =>
      cases hueId : pdu.ueId with
      | none => simp [step, hueId] at h
      | some ueId =>
          simp only [step, hueId] at h
          cases h
          exact Effect.dispatched
  | deleteUeChannels =>
      cases h
      exact Effect.cleared
  | recvFirst n =>
      cases htask : s.task n with
      | none => simp [step, htask] at h
      | some task =>
          simp only [step, htask, Option.ite_none_right_eq_some] at h
          exact recvFirst_effect htask h.left h.right
  | recv n =>
      cases htask : s.task n with
      | none => simp [step, htask] at h
      | some task =>
          rcases task with ⟨ueId, phase, inbox⟩
          cases phase <;> cases inbox <;> simp only [step, htask] at h <;>
            cases h
          exact Effect.received htask
  | finish n =>
      cases htask : s.task n with
      | none => simp [step, htask] at h
      | some task =>
          rcases task with ⟨ueId, phase, inbox⟩
          cases phase <;> simp only [step, htask] at h <;> cases h
          exact Effect.finished htask
  | deleteUeChannel n =>
      cases htask : s.task n with
      | none => simp [step, htask] at h
      | some task =>
          rcases task with ⟨ueId, phase, inbox⟩
          cases phase <;> simp only [step, htask] at h <;> cases h
          exact Effect.deleted htask

/-!
## Entries, handlers and tasks

What follows holds in every run: an entry names a task with its id, and the task
of a handler that has not inserted the sender has nothing to receive yet.
-/

structure Placed (s : UeTasks) : Prop where
  entry : forall ueId n, s.ueTasks ueId = some n ->
    (s.task n).map UeTask.ueId = some ueId
  unspawned : forall n,
    (s.handler n = none ∨ exists ueId,
      s.handler n = some (HandlerPhase.drawn ueId)) -> s.task n = none
  fresh : forall n ueId, s.handler n = some (HandlerPhase.spawned ueId) ->
    s.task n = some ⟨ueId, TaskPhase.waiting, []⟩ ∧
      forall other, s.ueTasks other ≠ some n

theorem placed_start : Placed start where
  entry _ _ h := by cases h
  unspawned _ _ := rfl
  fresh _ _ h := by cases h

theorem Placed.not_unspawned {s : UeTasks} (h : s.Placed) {n : Nat}
    {task : UeTask} (htask : s.task n = some task) :
    ¬ (s.handler n = none ∨ exists ueId,
      s.handler n = some (HandlerPhase.drawn ueId)) := by
  intro hunspawned
  rw [h.unspawned n hunspawned] at htask
  cases htask

theorem placed_setTask {s : UeTasks} (h : s.Placed) {n : Nat}
    {task task' : UeTask} (htask : s.task n = some task)
    (hsame : task'.ueId = task.ueId)
    (hnot : forall ueId, s.handler n ≠ some (HandlerPhase.spawned ueId)) :
    (s.setTask n task').Placed := by
  constructor
  · intro ueId m hentry
    have hold := h.entry ueId m hentry
    cases Nat.decEq m n with
    | isTrue heq =>
        rw [heq, htask] at hold
        rw [heq, setTask_task_self]
        exact (congrArg some hsame).trans hold
    | isFalse hne =>
        rw [setTask_task_of_ne s hne]
        exact hold
  · intro m hunspawned
    cases Nat.decEq m n with
    | isTrue heq =>
        rw [heq] at hunspawned
        exact absurd hunspawned (h.not_unspawned htask)
    | isFalse hne =>
        rw [setTask_task_of_ne s hne]
        exact h.unspawned m hunspawned
  · intro m ueId hhandler
    cases Nat.decEq m n with
    | isTrue heq =>
        rw [heq] at hhandler
        exact absurd hhandler (hnot ueId)
    | isFalse hne =>
        rw [setTask_task_of_ne s hne]
        exact h.fresh m ueId hhandler

theorem Placed.not_spawned {s : UeTasks} (h : s.Placed) {n : Nat}
    {task : UeTask} (htask : s.task n = some task)
    (hstep : task.phase ≠ TaskPhase.waiting ∨ task.inbox ≠ [] ∨
      (exists ueId, s.ueTasks ueId = some n) ∨ s.SendersGone n task.ueId)
    (ueId : GnbCuUeF1apId) :
    s.handler n ≠ some (HandlerPhase.spawned ueId) := by
  intro hhandler
  rcases h.fresh n ueId hhandler with ⟨hfresh, hentries⟩
  rw [htask] at hfresh
  cases hfresh
  rcases hstep with hphase | hinbox | ⟨other, hentry⟩ | hgone
  · exact hphase rfl
  · exact hinbox rfl
  · exact hentries other hentry
  · exact hgone.right hhandler

theorem placed_dispatchUeMessage {s : UeTasks} (h : s.Placed)
    (ueId : GnbCuUeF1apId) (pdu : F1apPdu) :
    (s.dispatchUeMessage ueId pdu).Placed := by
  rcases dispatchUeMessage_cases s ueId pdu with heq |
    ⟨n, task, live, hentry, htask, _, heq⟩
  · rw [heq]
    exact h
  · rw [heq]
    exact placed_setTask h htask rfl
      (h.not_spawned htask (Or.inr (Or.inr (Or.inl ⟨ueId, hentry⟩))))

theorem placed_setHandler {s : UeTasks} (h : s.Placed) {n : Nat}
    {phase : HandlerPhase}
    (hdrawn : forall ueId, phase = HandlerPhase.drawn ueId -> s.task n = none)
    (hnot : forall ueId, phase ≠ HandlerPhase.spawned ueId) :
    (s.setHandler n phase).Placed := by
  constructor
  · exact h.entry
  · intro m hunspawned
    cases Nat.decEq m n with
    | isTrue heq =>
        rw [heq, setHandler_handler_self] at hunspawned
        rcases hunspawned with hnone | ⟨ueId, hphase⟩
        · cases hnone
        · rw [heq]
          exact hdrawn ueId (Option.some.inj hphase)
    | isFalse hne =>
        rw [setHandler_handler_of_ne _ hne] at hunspawned
        exact h.unspawned m hunspawned
  · intro m ueId hhandler
    cases Nat.decEq m n with
    | isTrue heq =>
        rw [heq, setHandler_handler_self] at hhandler
        exact absurd (Option.some.inj hhandler) (hnot ueId)
    | isFalse hne =>
        rw [setHandler_handler_of_ne _ hne] at hhandler
        exact h.fresh m ueId hhandler

theorem placed_spawned {s : UeTasks} (h : s.Placed) {n : Nat}
    {ueId : GnbCuUeF1apId}
    (hhandler : s.handler n = some (HandlerPhase.drawn ueId)) :
    ((s.setTask n ⟨ueId, TaskPhase.waiting, []⟩).setHandler n
      (HandlerPhase.spawned ueId)).Placed := by
  have hnone : s.task n = none := h.unspawned n (Or.inr ⟨ueId, hhandler⟩)
  have hentries : forall other, s.ueTasks other ≠ some n := by
    intro other hentry
    have hold := h.entry other n hentry
    rw [hnone] at hold
    cases hold
  constructor
  · intro other m hentry
    have hne : m ≠ n := by
      intro heq
      rw [heq] at hentry
      exact hentries other hentry
    show ((Function.update s.task n _ m).map _) = _
    rw [Function.update_of_ne hne]
    exact h.entry other m hentry
  · intro m hunspawned
    cases Nat.decEq m n with
    | isTrue heq =>
        rw [heq, setHandler_handler_self] at hunspawned
        rcases hunspawned with hno | ⟨other, hphase⟩
        · cases hno
        · cases hphase
    | isFalse hne =>
        rw [setHandler_handler_of_ne _ hne] at hunspawned
        show Function.update s.task n _ m = none
        rw [Function.update_of_ne hne]
        exact h.unspawned m hunspawned
  · intro m other hphase
    cases Nat.decEq m n with
    | isTrue heq =>
        rw [heq, setHandler_handler_self] at hphase
        cases hphase
        rw [heq]
        exact ⟨Function.update_self _ _ _, hentries⟩
    | isFalse hne =>
        rw [setHandler_handler_of_ne _ hne] at hphase
        show Function.update s.task n _ m = _ ∧ _
        rw [Function.update_of_ne hne]
        exact h.fresh m other hphase

theorem placed_inserted {s : UeTasks} (h : s.Placed) {n : Nat}
    {ueId : GnbCuUeF1apId}
    (hhandler : s.handler n = some (HandlerPhase.spawned ueId)) :
    Placed
      ({ s with ueTasks := Function.update s.ueTasks ueId (some n) }.setHandler
        n (HandlerPhase.inserted ueId)) := by
  have htask := (h.fresh n ueId hhandler).left
  have hset : (s.setHandler n (HandlerPhase.inserted ueId)).Placed :=
    placed_setHandler h (fun _ heq => by cases heq) (fun _ heq => by cases heq)
  constructor
  · intro other m hentry
    cases UInt32.decEq other ueId with
    | isTrue heq =>
        rw [heq] at hentry ⊢
        replace hentry : Function.update s.ueTasks ueId _ ueId = _ := hentry
        rw [Function.update_self] at hentry
        cases hentry
        show (s.task n).map _ = _
        rw [htask]
        rfl
    | isFalse hne =>
        replace hentry : Function.update s.ueTasks ueId _ other = _ := hentry
        rw [Function.update_of_ne hne] at hentry
        exact h.entry other m hentry
  · exact hset.unspawned
  · intro m id hphase
    rcases hset.fresh m id hphase with ⟨hfresh, hentries⟩
    constructor
    · exact hfresh
    · intro other hentry
      cases UInt32.decEq other ueId with
      | isTrue heq =>
          rw [heq] at hentry
          replace hentry : Function.update s.ueTasks ueId _ ueId = _ := hentry
          rw [Function.update_self] at hentry
          cases hentry
          rw [setHandler_handler_self] at hphase
          cases hphase
      | isFalse hne =>
          replace hentry : Function.update s.ueTasks ueId _ other = _ := hentry
          rw [Function.update_of_ne hne] at hentry
          exact hentries other hentry

theorem placed_of_fewer {s : UeTasks} (h : s.Placed)
    {entries : GnbCuUeF1apId -> Option Nat} {removed : List (Nat × Nat)}
    (hfewer : forall ueId n, entries ueId = some n ->
      s.ueTasks ueId = some n) :
    Placed { s with ueTasks := entries, removed := removed } where
  entry ueId n hentry := h.entry ueId n (hfewer ueId n hentry)
  unspawned := h.unspawned
  fresh n ueId hhandler := by
    rcases h.fresh n ueId hhandler with ⟨hfresh, hentries⟩
    constructor
    · exact hfresh
    · intro other hentry
      exact hentries other (hfewer other n hentry)

theorem update_none_some {α β : Type} [DecidableEq α] {a b : α}
    {f : α -> Option β} {x : β} (h : Function.update f a none b = some x) :
    b ≠ a ∧ f b = some x := by
  cases decEq b a with
  | isTrue heq =>
      rw [heq, Function.update_self] at h
      cases h
  | isFalse hne =>
      rw [Function.update_of_ne hne] at h
      exact ⟨hne, h⟩

theorem placed_effect {s s' : UeTasks} {event : TaskEvent} (h : s.Placed)
    (heffect : Effect s event s') : s'.Placed := by
  cases heffect with
  | drawn hhandler =>
      exact placed_setHandler h (fun _ _ => h.unspawned _ (Or.inl hhandler))
        (fun _ heq => by cases heq)
  | spawned hhandler => exact placed_spawned h hhandler
  | inserted hhandler => exact placed_inserted h hhandler
  | initialDispatched _ =>
      exact placed_setHandler (placed_dispatchUeMessage h _ _)
        (fun _ heq => by cases heq) (fun _ heq => by cases heq)
  | dispatched => exact placed_dispatchUeMessage h _ _
  | cleared => exact placed_of_fewer h (fun _ _ heq => by cases heq)
  | began htask _ hinbox =>
      exact placed_setTask h htask rfl
        (h.not_spawned htask (Or.inr (Or.inl (by simp [hinbox]))))
  | bailed htask _ hinbox _ =>
      exact placed_setTask h htask rfl
        (h.not_spawned htask (Or.inr (Or.inl (by simp [hinbox]))))
  | closed htask _ _ hgone =>
      exact placed_setTask h htask rfl
        (h.not_spawned htask (Or.inr (Or.inr (Or.inr hgone))))
  | received htask =>
      exact placed_setTask h htask rfl
        (h.not_spawned htask (Or.inl (by simp)))
  | finished htask =>
      exact placed_setTask h htask rfl
        (h.not_spawned htask (Or.inl (by simp)))
  | deleted htask =>
      exact placed_setTask
        (placed_of_fewer h fun _ _ hentry => (update_none_some hentry).right)
        htask rfl (h.not_spawned htask (Or.inl (by simp)))

/-!
## The live tasks

Whether the map follows the tasks depends on its entries, on the ids of the live
tasks and on what has been removed.
-/

theorem liveId_of_live {task : UeTask}
    (h : task.phase ≠ TaskPhase.terminated) :
    task.liveId = some task.ueId := by
  unfold UeTask.liveId
  cases hphase : task.phase with
  | terminated => exact absurd hphase h
  | _ => rfl

theorem liveId_of_terminated {task : UeTask}
    (h : task.phase = TaskPhase.terminated) : task.liveId = none := by
  unfold UeTask.liveId
  rw [h]

theorem liveId_setTask (s : UeTasks) (n : Nat) (task : UeTask) :
    (s.setTask n task).liveId = Function.update s.liveId n task.liveId := by
  funext m
  unfold liveId
  cases Nat.decEq m n with
  | isTrue heq => rw [heq, setTask_task_self, Function.update_self]; rfl
  | isFalse hne =>
      rw [setTask_task_of_ne s hne, Function.update_of_ne hne]

theorem liveId_setTask_same {s : UeTasks} {n : Nat} {task task' : UeTask}
    (htask : s.task n = some task) (hsame : task'.liveId = task.liveId) :
    (s.setTask n task').liveId = s.liveId := by
  have hold : s.liveId n = task.liveId := by
    unfold liveId
    rw [htask]
    rfl
  rw [liveId_setTask, hsame, ← hold, Function.update_eq_self]

theorem liveId_dispatchUeMessage (s : UeTasks) (ueId : GnbCuUeF1apId)
    (pdu : F1apPdu) : (s.dispatchUeMessage ueId pdu).liveId = s.liveId := by
  rcases dispatchUeMessage_cases s ueId pdu with heq |
    ⟨n, task, live, _, htask, _, heq⟩
  · rw [heq]
  · rw [heq]
    exact liveId_setTask_same htask rfl

theorem dispatchUeMessage_map (s : UeTasks) (ueId : GnbCuUeF1apId)
    (pdu : F1apPdu) :
    (s.dispatchUeMessage ueId pdu).ueTasks = s.ueTasks ∧
      (s.dispatchUeMessage ueId pdu).removed = s.removed := by
  rcases dispatchUeMessage_cases s ueId pdu with heq |
    ⟨n, task, live, _, _, _, heq⟩
  · rw [heq]
    exact ⟨rfl, rfl⟩
  · rw [heq]
    exact ⟨rfl, rfl⟩

structure Follows (s : UeTasks) : Prop where
  entryLive : forall ueId n, s.ueTasks ueId = some n -> s.liveId n = some ueId
  removedOwn : forall n m, (n, m) ∈ s.removed -> m = n
  distinct : forall m n ueId,
    s.liveId m = some ueId -> s.liveId n = some ueId -> m = n

theorem tracks_iff_follows {s : UeTasks} (h : s.Placed) :
    s.Tracks <-> s.Follows := by
  constructor
  · intro htracks
    constructor
    · intro ueId n hentry
      rcases Option.map_eq_some_iff.mp (h.entry ueId n hentry) with
        ⟨task, htask, hid⟩
      have hphase : task.phase ≠ TaskPhase.terminated := by
        intro hterminated
        exact htracks.terminated n ⟨task, htask, hterminated⟩ ueId hentry
      unfold liveId
      rw [htask, ← hid]
      exact liveId_of_live hphase
    · exact htracks.removedOwn
    · exact htracks.distinct
  · intro hfollows
    constructor
    · intro n hterminated ueId hentry
      rcases hterminated with ⟨task, htask, hphase⟩
      have hlive := hfollows.entryLive ueId n hentry
      unfold liveId at hlive
      rw [htask] at hlive
      cases (liveId_of_terminated hphase).symm.trans hlive
    · exact hfollows.removedOwn
    · exact hfollows.distinct

theorem Follows.congr {s s' : UeTasks} (h : s.Follows)
    (hentries : s'.ueTasks = s.ueTasks) (hlive : s'.liveId = s.liveId)
    (hremoved : s'.removed = s.removed) : s'.Follows := by
  constructor
  · rw [hentries, hlive]
    exact h.entryLive
  · rw [hremoved]
    exact h.removedOwn
  · rw [hlive]
    exact h.distinct

theorem follows_spawned_iff {s : UeTasks} (h : s.Follows) (hplaced : s.Placed)
    {n : Nat} {ueId : GnbCuUeF1apId}
    (hhandler : s.handler n = some (HandlerPhase.drawn ueId)) :
    (forall m, s.liveId m ≠ some ueId) <->
      ((s.setTask n ⟨ueId, TaskPhase.waiting, []⟩).setHandler n
        (HandlerPhase.spawned ueId)).Follows := by
  have hnone : s.liveId n = none := by
    unfold liveId
    rw [hplaced.unspawned n (Or.inr ⟨ueId, hhandler⟩)]
    rfl
  have hlive : forall m, ((s.setTask n ⟨ueId, TaskPhase.waiting, []⟩).setHandler
      n (HandlerPhase.spawned ueId)).liveId m =
        Function.update s.liveId n (some ueId) m :=
    fun m => congrFun (liveId_setTask s n _) m
  have hother : forall m id, s.liveId m = some id -> m ≠ n := by
    intro m id hm heq
    rw [heq, hnone] at hm
    cases hm
  constructor
  · intro hnew
    constructor
    · intro id m hentry
      have hm := h.entryLive id m hentry
      rw [hlive, Function.update_of_ne (hother m id hm)]
      exact hm
    · exact h.removedOwn
    · intro a b id ha hb
      rw [hlive] at ha hb
      cases Nat.decEq a n with
      | isTrue haeq =>
          cases Nat.decEq b n with
          | isTrue hbeq => exact haeq.trans hbeq.symm
          | isFalse hbne =>
              rw [haeq, Function.update_self] at ha
              rw [Function.update_of_ne hbne, ← ha] at hb
              exact absurd hb (hnew b)
      | isFalse hane =>
          rw [Function.update_of_ne hane] at ha
          cases Nat.decEq b n with
          | isTrue hbeq =>
              rw [hbeq, Function.update_self] at hb
              rw [← hb] at ha
              exact absurd ha (hnew a)
          | isFalse hbne =>
              rw [Function.update_of_ne hbne] at hb
              exact h.distinct a b id ha hb
  · intro hafter m hm
    have hne := hother m ueId hm
    apply hne
    apply hafter.distinct m n ueId
    · rw [hlive, Function.update_of_ne hne]
      exact hm
    · rw [hlive, Function.update_self]

theorem follows_inserted {s : UeTasks} (h : s.Follows) {n : Nat}
    {ueId : GnbCuUeF1apId} (hlive : s.liveId n = some ueId) :
    Follows
      ({ s with ueTasks := Function.update s.ueTasks ueId (some n) }.setHandler
        n (HandlerPhase.inserted ueId)) := by
  constructor
  · intro other m hentry
    replace hentry : Function.update s.ueTasks ueId _ other = _ := hentry
    cases UInt32.decEq other ueId with
    | isTrue heq =>
        rw [heq, Function.update_self] at hentry
        cases hentry
        rw [heq]
        exact hlive
    | isFalse hne =>
        rw [Function.update_of_ne hne] at hentry
        exact h.entryLive other m hentry
  · exact h.removedOwn
  · exact h.distinct

theorem follows_terminated_iff {s : UeTasks} (h : s.Follows) {n : Nat}
    {task task' : UeTask} (htask : s.task n = some task)
    (hphase : task.phase ≠ TaskPhase.terminated)
    (hphase' : task'.phase = TaskPhase.terminated) :
    s.ueTasks task.ueId ≠ some n <-> (s.setTask n task').Follows := by
  have hold : s.liveId n = some task.ueId := by
    unfold liveId
    rw [htask]
    exact liveId_of_live hphase
  have hlive : (s.setTask n task').liveId =
      Function.update s.liveId n none := by
    rw [liveId_setTask, liveId_of_terminated hphase']
  constructor
  · intro hgone
    constructor
    · intro ueId m hentry
      have hm := h.entryLive ueId m hentry
      have hne : m ≠ n := by
        intro heq
        rw [heq] at hm hentry
        rw [hold] at hm
        cases hm
        exact hgone hentry
      rw [hlive, Function.update_of_ne hne]
      exact hm
    · exact h.removedOwn
    · intro a b ueId ha hb
      rw [hlive] at ha hb
      exact h.distinct a b ueId (update_none_some ha).right
        (update_none_some hb).right
  · intro hafter hentry
    have hdead := hafter.entryLive task.ueId n hentry
    rw [hlive, Function.update_self] at hdead
    cases hdead

theorem follows_deleted {s : UeTasks} (h : s.Follows) {n : Nat}
    {ueId : GnbCuUeF1apId} {inbox : List F1apPdu}
    (htask : s.task n = some ⟨ueId, TaskPhase.destroying, inbox⟩) :
    Follows
      ({ s with
        ueTasks := Function.update s.ueTasks ueId none
        removed := s.removed ++ (s.ueTasks ueId).toList.map fun m => (n, m)
        }.setTask n ⟨ueId, TaskPhase.terminated, inbox⟩) := by
  have hlive : s.liveId n = some ueId := by
    unfold liveId
    rw [htask]
    rfl
  have hmap : Follows
      { s with
        ueTasks := Function.update s.ueTasks ueId none
        removed := s.removed ++ (s.ueTasks ueId).toList.map
          fun m => (n, m) } := by
    constructor
    · intro other m hentry
      exact h.entryLive other m (update_none_some hentry).right
    · intro a b hmem
      rcases List.mem_append.mp hmem with hold | hnew
      · exact h.removedOwn a b hold
      · rcases List.mem_map.mp hnew with ⟨m, hm, heq⟩
        cases heq
        have hentry := h.entryLive ueId b (Option.mem_toList.mp hm)
        exact h.distinct b n ueId hentry hlive
    · exact h.distinct
  exact (follows_terminated_iff hmap htask (by simp) rfl).mp
    (fun hentry => absurd rfl (update_none_some hentry).left)

theorem orderly_iff_follows {s s' : UeTasks} {event : TaskEvent}
    (h : s.Follows) (hplaced : s.Placed) (heffect : Effect s event s') :
    s.Orderly event <-> s'.Follows := by
  cases heffect with
  | drawn _ => exact ⟨fun _ => h.congr rfl rfl rfl, fun _ => trivial⟩
  | @spawned n ueId hhandler =>
      rw [← follows_spawned_iff h hplaced hhandler]
      constructor
      · intro horderly
        exact horderly ueId hhandler
      · intro hnew other hother
        rw [hhandler] at hother
        cases hother
        exact hnew
  | @inserted n ueId hhandler =>
      have hlive : s.liveId n = some ueId := by
        unfold liveId
        rw [(hplaced.fresh n ueId hhandler).left]
        rfl
      exact ⟨fun _ => follows_inserted h hlive, fun _ => trivial⟩
  | initialDispatched _ =>
      have hmap := dispatchUeMessage_map s
      exact ⟨fun _ => h.congr (hmap _ _).left (liveId_dispatchUeMessage s _ _)
        (hmap _ _).right, fun _ => trivial⟩
  | dispatched =>
      have hmap := dispatchUeMessage_map s
      exact ⟨fun _ => h.congr (hmap _ _).left (liveId_dispatchUeMessage s _ _)
        (hmap _ _).right, fun _ => trivial⟩
  | cleared =>
      constructor
      · intro _
        constructor
        · intro _ _ hentry
          cases hentry
        · exact h.removedOwn
        · exact h.distinct
      · exact fun _ => trivial
  | @began n task r rest htask hphase hinbox =>
      have hlive : (UeTask.mk task.ueId TaskPhase.running rest).liveId =
          task.liveId := by
        have hold : task.liveId = some task.ueId :=
          liveId_of_live (by simp [hphase])
        exact hold.symm
      constructor
      · intro _
        exact h.congr rfl (liveId_setTask_same htask hlive) rfl
      · intro _ task' pdu rest' htask' _ hinbox' hnot
        rw [htask] at htask'
        cases htask'
        rw [hinbox] at hinbox'
        cases hinbox'
        exact absurd rfl (hnot r)
  | @bailed n task pdu rest htask hphase hinbox hnot =>
      rw [← follows_terminated_iff h htask (by simp [hphase]) rfl]
      constructor
      · intro horderly
        exact horderly task pdu rest htask hphase hinbox hnot
      · intro hgone task' _ _ htask' _ _ _
        rw [htask] at htask'
        cases htask'
        exact hgone
  | @closed n task htask hphase hinbox hgone =>
      rw [← follows_terminated_iff h htask (by simp [hphase]) rfl]
      constructor
      · intro _
        exact hgone.left
      · intro _ task' pdu rest htask' _ hinbox' _
        rw [htask] at htask'
        cases htask'
        rw [hinbox] at hinbox'
        cases hinbox'
  | received htask =>
      exact ⟨fun _ => h.congr rfl (liveId_setTask_same htask rfl) rfl,
        fun _ => trivial⟩
  | finished htask =>
      exact ⟨fun _ => h.congr rfl (liveId_setTask_same htask rfl) rfl,
        fun _ => trivial⟩
  | deleted htask => exact ⟨fun _ => follows_deleted h htask, fun _ => trivial⟩

theorem orderly_of_refused {s : UeTasks} {event : TaskEvent}
    (hnone : taskMachine.step s event = none) : s.Orderly event := by
  replace hnone : s.step event = none := hnone
  cases event with
  | spawn n =>
      intro ueId hhandler
      simp [step, hhandler] at hnone
  | recvFirst n =>
      intro task pdu rest htask hphase hinbox _
      simp only [step, htask, hphase, ↓reduceIte, recvFirst, hinbox] at hnone
      cases pdu <;> cases hnone
  | _ => trivial

theorem tracks_start : Tracks start where
  terminated _ h := by
    rcases h with ⟨task, htask, _⟩
    cases htask
  removedOwn _ _ h := by cases h
  distinct _ _ _ h := by cases h

/-- The map follows the live tasks in every state of a run, exactly when no task
is spawned with the id of a live one and no task that is in the map starts with
another message than the initial one. -/
theorem tracks_iff_orderly (events : List TaskEvent) :
    taskMachine.Always Tracks start events <->
      taskMachine.Along Orderly start events := by
  apply Machine.always_iff_along (J := Placed)
  · intro s event s' h hstep
    exact placed_effect h (step_effect hstep)
  · intro s event _ _ hnone
    exact orderly_of_refused hnone
  · intro s event s' h hplaced hstep
    have heffect := step_effect hstep
    rw [tracks_iff_follows (placed_effect hplaced heffect)]
    exact orderly_iff_follows ((tracks_iff_follows hplaced).mp h) hplaced heffect
  · exact tracks_start
  · exact placed_start

/-- A UE that is in its main loop when F1 removal clears the map, and a new UE
for which the same id is drawn before the task of the first one has ended. -/
def redrawnId (r : InitialUlRrcMessageTransfer) : List TaskEvent :=
  [TaskEvent.draw 0 7, TaskEvent.spawn 0, TaskEvent.insert 0,
    TaskEvent.dispatchInitial 0 r, TaskEvent.recvFirst 0,
    TaskEvent.deleteUeChannels, TaskEvent.draw 1 7, TaskEvent.spawn 1,
    TaskEvent.insert 1, TaskEvent.finish 0, TaskEvent.deleteUeChannel 0]

/-- A message with the id of a new UE overtakes the initial one. -/
def overtakenInitial (r : UeContextReleaseRequest) : List TaskEvent :=
  [TaskEvent.draw 0 r.gnbCuUeF1apId, TaskEvent.spawn 0, TaskEvent.insert 0,
    TaskEvent.dispatch (F1apPdu.ueContextReleaseRequest r),
    TaskEvent.recvFirst 0]

/-- In the first run the old task removes the entry of the new one; in the second
one a task has ended and its entry stays. -/
theorem not_tracks_redrawnId :
    (exists s, taskMachine.run start (redrawnId ⟨1, [], [], none⟩) = some s ∧
        s.removed = [(0, 1)] ∧ s.liveId 1 = some 7 ∧ s.ueTasks 7 = none ∧
        ¬ s.Tracks) ∧
      exists s, taskMachine.run start
          (overtakenInitial ⟨7, Cause.normalRelease⟩) = some s ∧
        s.ueTasks 7 = some 0 ∧ s.Terminated 0 ∧ ¬ s.Tracks := by
  constructor
  · apply Exists.intro
    constructor
    · rfl
    · constructor
      · rfl
      · constructor
        · rfl
        · constructor
          · rfl
          · intro h
            cases h.removedOwn 0 1 List.mem_cons_self
  · apply Exists.intro
    constructor
    · rfl
    · constructor
      · rfl
      · constructor
        · exact ⟨_, rfl, rfl⟩
        · intro h
          exact h.terminated 0 ⟨_, rfl, rfl⟩ 7 rfl

end UeTasks

end Dispatch
end QCore
