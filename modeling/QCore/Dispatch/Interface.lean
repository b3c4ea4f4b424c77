import QCore.Dispatch.UeTasks

/-!
# Handlers and UE tasks

Each message of a DU is handled in a task of its own.  Which steps of `UeTasks`
its handler takes depends on the message.  The steps of the handlers and of the
UE tasks interleave.
-/

namespace QCore
namespace Dispatch

open Foundation
open F1ap

/-- The messages whose handlers in `F1apHandler` use the map of UE tasks. -/
inductive DuMessage where
  | initialUlRrcMessageTransfer (r : InitialUlRrcMessageTransfer)
  | ulRrcMessageTransfer (r : UlRrcMessageTransfer)
  | ueContextReleaseRequest (r : UeContextReleaseRequest)
  | f1RemovalRequest
deriving DecidableEq, Repr

def DuMessage.pdu : DuMessage -> Option F1apPdu
  | initialUlRrcMessageTransfer r =>
      some (F1apPdu.initialUlRrcMessageTransfer r)
  | ulRrcMessageTransfer r => some (F1apPdu.ulRrcMessageTransfer r)
  | ueContextReleaseRequest r => some (F1apPdu.ueContextReleaseRequest r)
  | f1RemovalRequest => none

inductive Handling where
  | idle
  | todo (message : DuMessage)
  | done
deriving DecidableEq, Repr

structure Interface where
  tasks : UeTasks
  handling : Nat -> Handling

inductive InterfaceEvent where
  /-- Message `n` arrives. -/
  | receive (n : Nat) (message : DuMessage)
  /-- The handler of message `n` takes a step. -/
  | handle (n : Nat) (event : TaskEvent)
  /-- A UE task takes a step. -/
  | task (event : TaskEvent)

def TaskEvent.ofTask : TaskEvent -> Bool
  | TaskEvent.recvFirst _ => true
  | TaskEvent.recv _ => true
  | TaskEvent.finish _ => true
  | TaskEvent.deleteUeChannel _ => true
  | _ => false

/-- The steps that the handler of message `n` takes, and what is left to do
after them. -/
def performed (n : Nat) : DuMessage -> TaskEvent -> Option Handling
  | DuMessage.initialUlRrcMessageTransfer r, TaskEvent.draw m _ =>
      if m = n then
        some (Handling.todo (DuMessage.initialUlRrcMessageTransfer r))
      else
        none
  | DuMessage.initialUlRrcMessageTransfer r, TaskEvent.spawn m =>
      if m = n then
        some (Handling.todo (DuMessage.initialUlRrcMessageTransfer r))
      else
        none
  | DuMessage.initialUlRrcMessageTransfer r, TaskEvent.insert m =>
      if m = n then
        some (Handling.todo (DuMessage.initialUlRrcMessageTransfer r))
      else
        none
  | DuMessage.initialUlRrcMessageTransfer r, TaskEvent.dispatchInitial m r' =>
      if m = n ∧ r' = r then some Handling.done else none
  | DuMessage.ulRrcMessageTransfer r, TaskEvent.dispatch pdu =>
      if pdu = F1apPdu.ulRrcMessageTransfer r then some Handling.done else none
  | DuMessage.ueContextReleaseRequest r, TaskEvent.dispatch pdu =>
      if pdu = F1apPdu.ueContextReleaseRequest r then
        some Handling.done
      else
        none
  | DuMessage.f1RemovalRequest, TaskEvent.deleteUeChannels =>
      some Handling.done
  | _, _ => none

namespace Interface

def start : Interface where
  tasks := UeTasks.start
  handling := fun _ => Handling.idle

def setHandling (s : Interface) (n : Nat) (handling : Handling) : Interface :=
  { s with handling := Function.update s.handling n handling }

def step (s : Interface) : InterfaceEvent -> Option Interface
  | InterfaceEvent.receive n message =>
      if s.handling n = Handling.idle then
        some (s.setHandling n (Handling.todo message))
      else
        none
  | InterfaceEvent.handle n event =>
      match s.handling n with
      | Handling.todo message =>
          match performed n message event, s.tasks.step event with
          | some handling, some tasks =>
              some ({ s with tasks := tasks }.setHandling n handling)
          | _, _ => none
      | _ => none
  | InterfaceEvent.task event =>
      if event.ofTask then
        (s.tasks.step event).map fun tasks => { s with tasks := tasks }
      else
        none

end Interface

def interfaceMachine : Machine Interface InterfaceEvent where
  step := Interface.step

namespace Interface

/-!
## The effect of an event
-/

inductive Performs (n : Nat) : DuMessage -> TaskEvent -> Handling -> Prop where
  | draw {r : InitialUlRrcMessageTransfer} {ueId : GnbCuUeF1apId} :
      Performs n (DuMessage.initialUlRrcMessageTransfer r)
        (TaskEvent.draw n ueId)
        (Handling.todo (DuMessage.initialUlRrcMessageTransfer r))
  | spawn {r : InitialUlRrcMessageTransfer} :
      Performs n (DuMessage.initialUlRrcMessageTransfer r) (TaskEvent.spawn n)
        (Handling.todo (DuMessage.initialUlRrcMessageTransfer r))
  | insert {r : InitialUlRrcMessageTransfer} :
      Performs n (DuMessage.initialUlRrcMessageTransfer r) (TaskEvent.insert n)
        (Handling.todo (DuMessage.initialUlRrcMessageTransfer r))
  | dispatchInitial {r : InitialUlRrcMessageTransfer} :
      Performs n (DuMessage.initialUlRrcMessageTransfer r)
        (TaskEvent.dispatchInitial n r) Handling.done
  | dispatch {message : DuMessage} {pdu : F1apPdu} :
      message.pdu = some pdu ->
      Performs n message (TaskEvent.dispatch pdu) Handling.done
  | deleteUeChannels :
      Performs n DuMessage.f1RemovalRequest TaskEvent.deleteUeChannels
        Handling.done

theorem performed_performs {n : Nat} {message : DuMessage} {event : TaskEvent}
    {handling : Handling} (h : performed n message event = some handling) :
    Performs n message event handling := by
  cases message with
  | initialUlRrcMessageTransfer r =>
      cases event <;>
        simp only [performed, Option.ite_none_right_eq_some, reduceCtorEq] at h
      case draw m ueId =>
        rcases h with ⟨rfl, hsome⟩
        cases hsome
        exact Performs.draw
      case spawn m =>
        rcases h with ⟨rfl, hsome⟩
        cases hsome
        exact Performs.spawn
      case insert m =>
        rcases h with ⟨rfl, hsome⟩
        cases hsome
        exact Performs.insert
      case dispatchInitial m r' =>
        rcases h with ⟨⟨rfl, rfl⟩, hsome⟩
        cases hsome
        exact Performs.dispatchInitial
  | ulRrcMessageTransfer r =>
      cases event <;>
        simp only [performed, Option.ite_none_right_eq_some, reduceCtorEq] at h
      case dispatch pdu =>
        rcases h with ⟨rfl, hsome⟩
        cases hsome
        exact Performs.dispatch rfl
  | ueContextReleaseRequest r =>
      cases event <;>
        simp only [performed, Option.ite_none_right_eq_some, reduceCtorEq] at h
      case dispatch pdu =>
        rcases h with ⟨rfl, hsome⟩
        cases hsome
        exact Performs.dispatch rfl
  | f1RemovalRequest =>
      cases event <;> simp only [performed, reduceCtorEq] at h
      case deleteUeChannels =>
        cases h
        exact Performs.deleteUeChannels

inductive Change (s : Interface) : InterfaceEvent -> Interface -> Prop where
  | received {n : Nat} {message : DuMessage} :
      s.handling n = Handling.idle ->
      Change s (InterfaceEvent.receive n message)
        (s.setHandling n (Handling.todo message))
  | handled {n : Nat} {message : DuMessage} {event : TaskEvent}
      {handling : Handling} {tasks : UeTasks} :
      s.handling n = Handling.todo message ->
      Performs n message event handling ->
      taskMachine.step s.tasks event = some tasks ->
      Change s (InterfaceEvent.handle n event)
        ({ s with tasks := tasks }.setHandling n handling)
  | stepped {event : TaskEvent} {tasks : UeTasks} :
      event.ofTask = true -> taskMachine.step s.tasks event = some tasks ->
      Change s (InterfaceEvent.task event) { s with tasks := tasks }

theorem step_change {s s' : Interface} {event : InterfaceEvent}
    (h : interfaceMachine.step s event = some s') : Change s event s' := by
  replace h : s.step event = some s' := h
  cases event with
  | receive n message =>
      simp only [step, Option.ite_none_right_eq_some] at h
      rcases h with ⟨hidle, heq⟩
      cases heq
      exact Change.received hidle
  | handle n event =>
      cases hhandling : s.handling n with
      | idle => simp only [step, hhandling, reduceCtorEq] at h
      | done => simp only [step, hhandling, reduceCtorEq] at h
      | todo message =>
          cases hperformed : performed n message event with
          | none => simp only [step, hhandling, hperformed, reduceCtorEq] at h
          | some handling =>
              cases hstep : s.tasks.step event with
              | none =>
                  simp only [step, hhandling, hperformed, hstep,
                    reduceCtorEq] at h
              | some tasks =>
                  simp only [step, hhandling, hperformed, hstep] at h
                  cases h
                  exact Change.handled hhandling
                    (performed_performs hperformed) hstep
  | task event =>
      simp only [step, Option.ite_none_right_eq_some] at h
      rcases h with ⟨hown, hmap⟩
      rcases Option.map_eq_some_iff.mp hmap with ⟨tasks, hstep, heq⟩
      cases heq
      exact Change.stepped hown hstep

theorem setHandling_handling_self (s : Interface) (n : Nat)
    (handling : Handling) : (s.setHandling n handling).handling n = handling :=
  Function.update_self _ _ _

theorem setHandling_handling_of_ne (s : Interface) {m n : Nat} (h : m ≠ n)
    (handling : Handling) :
    (s.setHandling n handling).handling m = s.handling m :=
  Function.update_of_ne h _ _

end Interface

/-!
## What is in an inbox
-/

def HandlerPhase.ueId : HandlerPhase -> Option GnbCuUeF1apId
  | HandlerPhase.drawn ueId => some ueId
  | HandlerPhase.spawned ueId => some ueId
  | HandlerPhase.inserted ueId => some ueId
  | HandlerPhase.dispatched => none

namespace UeTasks

def Delivered (suits : GnbCuUeF1apId -> F1apPdu -> Prop) (s : UeTasks) : Prop :=
  forall n task, s.task n = some task ->
    forall pdu, pdu ∈ task.inbox -> suits task.ueId pdu

def Offers (suits : GnbCuUeF1apId -> F1apPdu -> Prop) (s : UeTasks) :
    TaskEvent -> Prop
  | TaskEvent.dispatchInitial n r =>
      forall ueId, s.handler n = some (HandlerPhase.inserted ueId) ->
        suits ueId (F1apPdu.initialUlRrcMessageTransfer r)
  | TaskEvent.dispatch pdu =>
      forall ueId, pdu.ueId = some ueId -> suits ueId pdu
  | _ => True

variable {suits : GnbCuUeF1apId -> F1apPdu -> Prop}

theorem delivered_setTask {s : UeTasks} (h : s.Delivered suits) (n : Nat)
    {task : UeTask}
    (htask : forall pdu, pdu ∈ task.inbox -> suits task.ueId pdu) :
    (s.setTask n task).Delivered suits := by
  intro m other hother
  cases Nat.decEq m n with
  | isTrue heq =>
      rw [heq, setTask_task_self] at hother
      cases hother
      exact htask
  | isFalse hne =>
      rw [setTask_task_of_ne s hne] at hother
      exact h m other hother

theorem delivered_shrunk {s : UeTasks} (h : s.Delivered suits) {n : Nat}
    {task task' : UeTask} (htask : s.task n = some task)
    (hsame : task'.ueId = task.ueId) (hsuffix : task'.inbox <:+ task.inbox) :
    (s.setTask n task').Delivered suits := by
  apply delivered_setTask h
  intro pdu hpdu
  rw [hsame]
  exact h n task htask pdu (hsuffix.subset hpdu)

theorem delivered_dispatchUeMessage {s : UeTasks} (h : s.Delivered suits)
    (hplaced : s.Placed) {ueId : GnbCuUeF1apId} {pdu : F1apPdu}
    (hsuits : suits ueId pdu) :
    (s.dispatchUeMessage ueId pdu).Delivered suits := by
  rcases dispatchUeMessage_cases s ueId pdu with heq |
    ⟨n, task, live, hentry, htask, _, heq⟩
  · rw [heq]
    exact h
  · have hid := hplaced.entry ueId n hentry
    rw [htask] at hid
    replace hid : task.ueId = ueId := Option.some.inj hid
    rw [heq]
    apply delivered_setTask h
    intro other hother
    rcases List.mem_append.mp hother with hold | hnew
    · exact h n task htask other hold
    · rw [List.mem_singleton.mp hnew]
      change suits task.ueId pdu
      rw [hid]
      exact hsuits

theorem dispatch_step {s s' : UeTasks} {pdu : F1apPdu}
    (h : taskMachine.step s (TaskEvent.dispatch pdu) = some s') :
    exists ueId, pdu.ueId = some ueId ∧
      s' = s.dispatchUeMessage ueId pdu := by
  replace h : s.step (TaskEvent.dispatch pdu) = some s' := h
  cases hueId : pdu.ueId with
  | none => simp [step, hueId] at h
  | some ueId =>
      simp only [step, hueId] at h
      cases h
      exact ⟨ueId, rfl, rfl⟩

theorem delivered_step {s s' : UeTasks} {event : TaskEvent}
    (h : s.Delivered suits) (hplaced : s.Placed)
    (hoffers : Offers suits s event)
    (hstep : taskMachine.step s event = some s') : s'.Delivered suits := by
  cases step_effect hstep with
  | drawn _ => exact h
  | spawned _ =>
      apply delivered_setTask h
      intro pdu hpdu
      cases hpdu
  | inserted _ => exact h
  | initialDispatched hhandler =>
      exact delivered_dispatchUeMessage h hplaced (hoffers _ hhandler)
  | dispatched =>
      rcases dispatch_step hstep with ⟨ueId, hueId, heq⟩
      rw [heq]
      exact delivered_dispatchUeMessage h hplaced (hoffers ueId hueId)
  | cleared => exact h
  | began htask _ hinbox =>
      exact delivered_shrunk h htask rfl (hinbox ▸ List.suffix_cons _ _)
  | bailed htask _ hinbox _ =>
      exact delivered_shrunk h htask rfl (hinbox ▸ List.suffix_cons _ _)
  | closed htask _ _ _ =>
      exact delivered_shrunk h htask rfl (List.suffix_refl _)
  | received htask => exact delivered_shrunk h htask rfl (List.suffix_cons _ _)
  | finished htask => exact delivered_shrunk h htask rfl (List.suffix_refl _)
  | deleted htask => exact delivered_shrunk h htask rfl (List.suffix_refl _)

/-!
## Ids that were drawn
-/

def Drawn (drew : Nat -> GnbCuUeF1apId -> Prop) (s : UeTasks) : Prop :=
  forall n phase ueId, s.handler n = some phase ->
    phase.ueId = some ueId -> drew n ueId

variable {drew : Nat -> GnbCuUeF1apId -> Prop}

theorem drawn_setHandler {s : UeTasks} (h : s.Drawn drew) {n : Nat}
    {phase : HandlerPhase}
    (hphase : forall ueId, phase.ueId = some ueId ->
      drew n ueId) : (s.setHandler n phase).Drawn drew := by
  intro m phase' ueId hhandler hueId
  cases Nat.decEq m n with
  | isTrue heq =>
      rw [heq, setHandler_handler_self] at hhandler
      cases hhandler
      rw [heq]
      exact hphase ueId hueId
  | isFalse hne =>
      rw [setHandler_handler_of_ne _ hne] at hhandler
      exact h m phase' ueId hhandler hueId

theorem drawn_dispatchUeMessage {s : UeTasks} (h : s.Drawn drew)
    (ueId : GnbCuUeF1apId) (pdu : F1apPdu) :
    (s.dispatchUeMessage ueId pdu).Drawn drew := by
  rcases dispatchUeMessage_cases s ueId pdu with heq |
    ⟨n, task, live, _, _, _, heq⟩
  · rw [heq]
    exact h
  · rw [heq]
    exact h

theorem drawn_kept {s : UeTasks} (h : s.Drawn drew) {n : Nat}
    {phase : HandlerPhase} {ueId : GnbCuUeF1apId}
    (hhandler : s.handler n = some phase)
    (hueId : phase.ueId = some ueId) (id : GnbCuUeF1apId)
    (hid : some ueId = some id) : drew n id := by
  cases hid
  exact h n phase ueId hhandler hueId

theorem drawn_step {s s' : UeTasks} {event : TaskEvent} (h : s.Drawn drew)
    (hdraws : forall n ueId, event = TaskEvent.draw n ueId -> drew n ueId)
    (heffect : Effect s event s') : s'.Drawn drew := by
  cases heffect with
  | drawn _ =>
      apply drawn_setHandler h
      intro ueId hueId
      cases hueId
      exact hdraws _ _ rfl
  | spawned hhandler =>
      exact drawn_setHandler h (drawn_kept h hhandler rfl)
  | inserted hhandler =>
      exact drawn_setHandler h (drawn_kept h hhandler rfl)
  | initialDispatched _ =>
      apply drawn_setHandler (drawn_dispatchUeMessage h _ _)
      intro ueId hueId
      cases hueId
  | dispatched => exact drawn_dispatchUeMessage h _ _
  | cleared => exact h
  | began _ _ _ => exact h
  | bailed _ _ _ _ => exact h
  | closed _ _ _ _ => exact h
  | received _ => exact h
  | finished _ => exact h
  | deleted _ => exact h

end UeTasks

namespace Interface

structure History where
  received : Nat -> DuMessage -> Prop
  drew : Nat -> GnbCuUeF1apId -> Prop

/-- The message has arrived, with this id or as an initial message whose handler
has drawn the id. -/
def History.SentFor (past : History) (ueId : GnbCuUeF1apId) (pdu : F1apPdu) :
    Prop :=
  exists m message, past.received m message ∧ message.pdu = some pdu ∧
    (pdu.ueId = some ueId ∨
      (exists r, pdu = F1apPdu.initialUlRrcMessageTransfer r) ∧
        past.drew m ueId)

def History.Admits (past : History) : InterfaceEvent -> Prop
  | InterfaceEvent.receive n message => past.received n message
  | InterfaceEvent.handle m (TaskEvent.draw n ueId) =>
      m = n -> past.drew n ueId
  | _ => True

structure Sourced (past : History) (s : Interface) : Prop where
  placed : s.tasks.Placed
  drawn : s.tasks.Drawn past.drew
  todo : forall n message, s.handling n = Handling.todo message ->
    past.received n message
  inboxes : s.tasks.Delivered past.SentFor

theorem sourced_start (past : History) : start.Sourced past where
  placed := UeTasks.placed_start
  drawn _ _ _ h := by cases h
  todo _ _ h := by cases h
  inboxes _ _ h := by cases h

theorem Performs.todo {n : Nat} {message message' : DuMessage}
    {event : TaskEvent}
    (h : Performs n message event (Handling.todo message')) :
    message' = message := by
  cases h with
  | draw => rfl
  | spawn => rfl
  | insert => rfl

theorem Performs.offers {past : History} {n : Nat} {message : DuMessage}
    {event : TaskEvent} {handling : Handling} {s : UeTasks}
    (h : Performs n message event handling)
    (hreceived : past.received n message) (hdrawn : s.Drawn past.drew) :
    UeTasks.Offers past.SentFor s event := by
  cases h with
  | dispatchInitial =>
      intro ueId hhandler
      exact ⟨n, _, hreceived, rfl, Or.inr ⟨⟨_, rfl⟩, hdrawn n _ ueId hhandler rfl⟩⟩
  | dispatch hpdu =>
      exact fun _ hueId => ⟨n, _, hreceived, hpdu, Or.inl hueId⟩
  | draw => trivial
  | spawn => trivial
  | insert => trivial
  | deleteUeChannels => trivial

theorem offers_of_ofTask {suits : GnbCuUeF1apId -> F1apPdu -> Prop}
    {s : UeTasks} {event : TaskEvent} (h : event.ofTask = true) :
    UeTasks.Offers suits s event := by
  cases event with
  | dispatchInitial n r => cases h
  | dispatch pdu => cases h
  | _ => trivial

theorem sourced_change {past : History} {s s' : Interface}
    {event : InterfaceEvent} (h : s.Sourced past) (hadmits : past.Admits event)
    (hchange : Change s event s') : s'.Sourced past := by
  cases hchange with
  | received hidle =>
      rename_i n message
      refine ⟨h.placed, h.drawn, ?_, h.inboxes⟩
      intro m message' hmessage
      cases Nat.decEq m n with
      | isTrue heq =>
          rw [heq, setHandling_handling_self] at hmessage
          cases hmessage
          rw [heq]
          exact hadmits
      | isFalse hne =>
          rw [setHandling_handling_of_ne s hne] at hmessage
          exact h.todo m message' hmessage
  | handled htodo hperforms hstep =>
      rename_i n message event handling tasks
      have hreceived := h.todo n message htodo
      have heffect := UeTasks.step_effect hstep
      have hdraws : forall m ueId, event = TaskEvent.draw m ueId ->
          past.drew m ueId := by
        intro m ueId heq
        rw [heq] at hadmits hperforms
        cases hperforms with
        | draw => exact hadmits rfl
      refine ⟨UeTasks.placed_effect h.placed heffect,
        UeTasks.drawn_step h.drawn hdraws heffect, ?_,
        UeTasks.delivered_step h.inboxes h.placed
          (hperforms.offers hreceived h.drawn) hstep⟩
      intro m message' hmessage
      cases Nat.decEq m n with
      | isTrue heq =>
          rw [heq, setHandling_handling_self] at hmessage
          rw [hmessage] at hperforms
          rw [hperforms.todo, heq]
          exact hreceived
      | isFalse hne =>
          rw [setHandling_handling_of_ne _ hne] at hmessage
          exact h.todo m message' hmessage
  | stepped hown hstep =>
      have heffect := UeTasks.step_effect hstep
      refine ⟨UeTasks.placed_effect h.placed heffect,
        UeTasks.drawn_step h.drawn ?_ heffect, h.todo,
        UeTasks.delivered_step h.inboxes h.placed (offers_of_ofTask hown)
          hstep⟩
      intro m ueId heq
      rw [heq] at hown
      cases hown

def historyOf (es : List InterfaceEvent) : History where
  received n message := InterfaceEvent.receive n message ∈ es
  drew n ueId := InterfaceEvent.handle n (TaskEvent.draw n ueId) ∈ es

theorem admits_of_mem {es : List InterfaceEvent} {event : InterfaceEvent}
    (h : event ∈ es) : (historyOf es).Admits event := by
  cases event with
  | receive n message => exact h
  | task event => trivial
  | handle m event =>
      cases event with
      | draw n ueId =>
          intro heq
          rw [heq] at h
          exact h
      | _ => trivial

theorem run_sourced {es : List InterfaceEvent} {s : Interface}
    (h : interfaceMachine.run start es = some s) : s.Sourced (historyOf es) :=
  Machine.run_invariant_along
    (fun _ _ _ hs hadmits hstep => sourced_change hs hadmits (step_change hstep))
    (sourced_start _) (Machine.along_of_forall (fun _ hmem => admits_of_mem hmem)
      start) h

end Interface

open Interface

/-- Every message that waits for a UE task has arrived: with the id of that
task, or as an initial message whose handler has drawn the id. -/
theorem inbox_from_arrivals (es : List InterfaceEvent) (s : Interface)
    (h : interfaceMachine.run Interface.start es = some s)
    (n : Nat) (task : UeTask) (htask : s.tasks.task n = some task)
    (pdu : F1apPdu) (hpdu : pdu ∈ task.inbox) :
    exists m message, InterfaceEvent.receive m message ∈ es ∧
      message.pdu = some pdu ∧
      (pdu.ueId = some task.ueId ∨
        (exists r, pdu = F1apPdu.initialUlRrcMessageTransfer r) ∧
          InterfaceEvent.handle m (TaskEvent.draw m task.ueId) ∈ es) :=
  (run_sourced h).inboxes n task htask pdu hpdu

/-- An initial message, and a transfer to the UE that has the id 3. -/
def twoMessages : List InterfaceEvent :=
  [InterfaceEvent.receive 0
      (DuMessage.initialUlRrcMessageTransfer ⟨2, [], [9], some [8]⟩),
    InterfaceEvent.handle 0 (TaskEvent.draw 0 3),
    InterfaceEvent.handle 0 (TaskEvent.spawn 0),
    InterfaceEvent.handle 0 (TaskEvent.insert 0),
    InterfaceEvent.receive 1 (DuMessage.ulRrcMessageTransfer ⟨3, [7, 8]⟩),
    InterfaceEvent.handle 0
      (TaskEvent.dispatchInitial 0 ⟨2, [], [9], some [8]⟩),
    InterfaceEvent.handle 1
      (TaskEvent.dispatch (F1apPdu.ulRrcMessageTransfer ⟨3, [7, 8]⟩))]

theorem twoMessages_inbox :
    exists s, interfaceMachine.run Interface.start twoMessages = some s ∧
      s.tasks.task 0 = some ⟨3, TaskPhase.waiting,
        [F1apPdu.initialUlRrcMessageTransfer ⟨2, [], [9], some [8]⟩,
          F1apPdu.ulRrcMessageTransfer ⟨3, [7, 8]⟩]⟩ := by
  apply Option.bind_eq_some_iff.mp
  decide +kernel

theorem inbox_from_arrivals_twoMessages :
    exists s, interfaceMachine.run Interface.start twoMessages = some s ∧
      exists m message, InterfaceEvent.receive m message ∈ twoMessages ∧
        message.pdu = some (F1apPdu.ulRrcMessageTransfer ⟨3, [7, 8]⟩) := by
  rcases twoMessages_inbox with ⟨s, hrun, htask⟩
  refine ⟨s, hrun, ?_⟩
  rcases inbox_from_arrivals _ s hrun 0 _ htask
    (F1apPdu.ulRrcMessageTransfer ⟨3, [7, 8]⟩)
    (List.mem_cons_of_mem _ List.mem_cons_self) with
    ⟨m, message, hreceived, hpdu, _⟩
  exact ⟨m, message, hreceived, hpdu⟩

/-!
## Deliveries
-/

def UeTasks.inboxOf (s : UeTasks) (n : Nat) : List F1apPdu :=
  ((s.task n).map UeTask.inbox).getD []

/-- The message is put at the end of one inbox, once. -/
def UeTasks.Appended (s s' : UeTasks) (pdu : F1apPdu) : Prop :=
  exists n, s'.inboxOf n = s.inboxOf n ++ [pdu] ∧
    forall m, m ≠ n -> s'.inboxOf m = s.inboxOf m

/-- Messages are taken from inboxes, and none is added. -/
def UeTasks.OnlyTaken (s s' : UeTasks) : Prop :=
  forall n, s'.inboxOf n <:+ s.inboxOf n

def InterfaceEvent.delivers (n : Nat) : InterfaceEvent -> Bool
  | InterfaceEvent.handle m (TaskEvent.dispatch _) => m == n
  | InterfaceEvent.handle m (TaskEvent.dispatchInitial _ _) => m == n
  | _ => false

def InterfaceEvent.receives (n : Nat) : InterfaceEvent -> Bool
  | InterfaceEvent.receive m _ => m == n
  | _ => false

def Handling.pending : Handling -> Nat
  | Handling.todo _ => 1
  | _ => 0

namespace UeTasks

theorem inboxOf_setTask_self (s : UeTasks) (n : Nat) (task : UeTask) :
    (s.setTask n task).inboxOf n = task.inbox := by
  unfold inboxOf
  rw [setTask_task_self]
  rfl

theorem inboxOf_setTask_of_ne (s : UeTasks) {m n : Nat} (h : m ≠ n)
    (task : UeTask) : (s.setTask n task).inboxOf m = s.inboxOf m := by
  unfold inboxOf
  rw [setTask_task_of_ne s h]

theorem onlyTaken_setTask (s : UeTasks) {n : Nat} {task : UeTask}
    (h : task.inbox <:+ s.inboxOf n) : s.OnlyTaken (s.setTask n task) := by
  intro m
  cases Nat.decEq m n with
  | isTrue heq =>
      rw [heq, inboxOf_setTask_self]
      exact h
  | isFalse hne =>
      exact ⟨[], inboxOf_setTask_of_ne s hne task⟩

theorem inboxOf_of_task {s : UeTasks} {n : Nat} {task : UeTask}
    (h : s.task n = some task) : s.inboxOf n = task.inbox := by
  unfold inboxOf
  rw [h]
  rfl

theorem onlyTaken_of_task {s : UeTasks} {n : Nat} {task task' : UeTask}
    (htask : s.task n = some task) (hsuffix : task'.inbox <:+ task.inbox) :
    s.OnlyTaken (s.setTask n task') :=
  onlyTaken_setTask s (inboxOf_of_task htask ▸ hsuffix)

theorem dispatchUeMessage_inboxes (s : UeTasks) (ueId : GnbCuUeF1apId)
    (pdu : F1apPdu) :
    s.OnlyTaken (s.dispatchUeMessage ueId pdu) ∨
      s.Appended (s.dispatchUeMessage ueId pdu) pdu := by
  rcases dispatchUeMessage_cases s ueId pdu with heq |
    ⟨n, task, live, _, htask, _, heq⟩
  · rw [heq]
    exact Or.inl fun _ => List.suffix_refl _
  · rw [heq]
    refine Or.inr ⟨n, ?_, fun m hne => inboxOf_setTask_of_ne s hne _⟩
    rw [inboxOf_setTask_self, inboxOf_of_task htask]

def dispatched : TaskEvent -> Option F1apPdu
  | TaskEvent.dispatchInitial _ r =>
      some (F1apPdu.initialUlRrcMessageTransfer r)
  | TaskEvent.dispatch pdu => some pdu
  | _ => none

theorem effect_inboxes {s s' : UeTasks} {event : TaskEvent}
    (h : Effect s event s') :
    s.OnlyTaken s' ∨
      exists pdu, dispatched event = some pdu ∧ s.Appended s' pdu := by
  cases h with
  | drawn _ => exact Or.inl fun _ => List.suffix_refl _
  | spawned _ => exact Or.inl (onlyTaken_setTask s (List.nil_suffix))
  | inserted _ => exact Or.inl fun _ => List.suffix_refl _
  | initialDispatched _ =>
      rcases dispatchUeMessage_inboxes s _ _ with htaken | happended
      · exact Or.inl htaken
      · exact Or.inr ⟨_, rfl, happended⟩
  | dispatched =>
      rcases dispatchUeMessage_inboxes s _ _ with htaken | happended
      · exact Or.inl htaken
      · exact Or.inr ⟨_, rfl, happended⟩
  | cleared => exact Or.inl fun _ => List.suffix_refl _
  | began htask _ hinbox =>
      exact Or.inl (onlyTaken_of_task htask (hinbox ▸ List.suffix_cons _ _))
  | bailed htask _ hinbox _ =>
      exact Or.inl (onlyTaken_of_task htask (hinbox ▸ List.suffix_cons _ _))
  | closed htask _ _ _ =>
      exact Or.inl (onlyTaken_of_task htask (List.suffix_refl _))
  | received htask =>
      exact Or.inl (onlyTaken_of_task htask (List.suffix_cons _ _))
  | finished htask =>
      exact Or.inl (onlyTaken_of_task htask (List.suffix_refl _))
  | deleted htask =>
      exact Or.inl (onlyTaken_of_task htask (List.suffix_refl _))

end UeTasks

namespace Interface

/-- An inbox grows only when a handler dispatches the message that it handles,
and then by that message. -/
def HandsOn (s : Interface) (event : InterfaceEvent) : Prop :=
  forall s', interfaceMachine.step s event = some s' ->
    s.tasks.OnlyTaken s'.tasks ∨
      exists n message pdu, event.delivers n = true ∧
        s.handling n = Handling.todo message ∧ message.pdu = some pdu ∧
        s.tasks.Appended s'.tasks pdu

theorem Performs.dispatched {n : Nat} {message : DuMessage} {event : TaskEvent}
    {handling : Handling} {pdu : F1apPdu}
    (h : Performs n message event handling)
    (hpdu : UeTasks.dispatched event = some pdu) :
    (InterfaceEvent.handle n event).delivers n = true ∧
      message.pdu = some pdu := by
  cases h with
  | draw => cases hpdu
  | spawn => cases hpdu
  | insert => cases hpdu
  | dispatchInitial =>
      cases hpdu
      exact ⟨beq_self_eq_true n, rfl⟩
  | dispatch hmessage =>
      cases hpdu
      exact ⟨beq_self_eq_true n, hmessage⟩
  | deleteUeChannels => cases hpdu

theorem dispatched_of_ofTask {event : TaskEvent} (h : event.ofTask = true) :
    UeTasks.dispatched event = none := by
  cases event with
  | dispatchInitial n r => cases h
  | dispatch pdu => cases h
  | _ => rfl

theorem handsOn (s : Interface) (event : InterfaceEvent) : s.HandsOn event := by
  intro s' h
  cases step_change h with
  | received _ => exact Or.inl fun _ => List.suffix_refl _
  | @handled n message event handling tasks htodo hperforms hstep =>
      rcases UeTasks.effect_inboxes (UeTasks.step_effect hstep) with htaken |
        ⟨pdu, hpdu, happended⟩
      · exact Or.inl htaken
      · rcases hperforms.dispatched hpdu with ⟨hdelivers, hmessage⟩
        exact Or.inr ⟨n, message, pdu, hdelivers, htodo, hmessage, happended⟩
  | @stepped event tasks hown hstep =>
      rcases UeTasks.effect_inboxes (UeTasks.step_effect hstep) with htaken |
        ⟨pdu, hpdu, _⟩
      · exact Or.inl htaken
      · rw [dispatched_of_ofTask hown] at hpdu
        cases hpdu

theorem Performs.pending {n : Nat} {message : DuMessage} {event : TaskEvent}
    {handling : Handling} (h : Performs n message event handling) :
    handling.pending +
      (if (InterfaceEvent.handle n event).delivers n then 1 else 0) <= 1 := by
  cases h with
  | draw => exact Nat.le_refl _
  | spawn => exact Nat.le_refl _
  | insert => exact Nat.le_refl _
  | dispatchInitial => simp [Handling.pending, InterfaceEvent.delivers]
  | dispatch _ => simp [Handling.pending, InterfaceEvent.delivers]
  | deleteUeChannels => exact Nat.zero_le _

theorem delivers_of_ne {m n : Nat} (h : m ≠ n) (event : TaskEvent) :
    (InterfaceEvent.handle m event).delivers n = false := by
  cases event <;> simp [InterfaceEvent.delivers, h]

theorem pending_change {s s' : Interface} {event : InterfaceEvent}
    (h : Change s event s') (n : Nat) :
    (s'.handling n).pending + (if event.delivers n then 1 else 0) <=
      (s.handling n).pending + if event.receives n then 1 else 0 := by
  cases h with
  | received hidle =>
      rename_i m message
      cases Nat.decEq m n with
      | isTrue heq =>
          rw [← heq, setHandling_handling_self, hidle]
          simp [InterfaceEvent.delivers, InterfaceEvent.receives,
            Handling.pending]
      | isFalse hne =>
          rw [setHandling_handling_of_ne s (Ne.symm hne)]
          exact Nat.le_add_right _ _
  | handled htodo hperforms hstep =>
      rename_i m message event handling tasks
      cases Nat.decEq m n with
      | isTrue heq =>
          rw [← heq, setHandling_handling_self, htodo]
          exact hperforms.pending
      | isFalse hne =>
          rw [setHandling_handling_of_ne _ (Ne.symm hne), delivers_of_ne hne]
          exact Nat.le_refl _
  | stepped _ _ => exact Nat.le_refl _

def fresh (n : Nat) (s : Interface) : Nat :=
  if s.handling n = Handling.idle then 1 else 0

theorem Performs.not_idle {n : Nat} {message : DuMessage} {event : TaskEvent}
    {handling : Handling} (h : Performs n message event handling) :
    handling ≠ Handling.idle := by
  cases h <;> exact fun heq => by cases heq

theorem fresh_change {s s' : Interface} {event : InterfaceEvent}
    (h : Change s event s') (n : Nat) :
    s'.fresh n + (if event.receives n then 1 else 0) <= s.fresh n := by
  unfold fresh
  cases h with
  | received hidle =>
      rename_i m message
      cases Nat.decEq m n with
      | isTrue heq =>
          rw [← heq, setHandling_handling_self, hidle]
          simp [InterfaceEvent.receives]
      | isFalse hne =>
          rw [setHandling_handling_of_ne s (Ne.symm hne)]
          simp [InterfaceEvent.receives, hne]
  | handled htodo hperforms hstep =>
      rename_i m message event handling tasks
      cases Nat.decEq m n with
      | isTrue heq =>
          rw [← heq, setHandling_handling_self, if_neg hperforms.not_idle]
          exact Nat.zero_le _
      | isFalse hne =>
          rw [setHandling_handling_of_ne _ (Ne.symm hne)]
          exact Nat.le_refl _
  | stepped _ _ => exact Nat.le_refl _

end Interface

/-- Along every run an inbox grows only by the one message that a handler
dispatches, and each message is dispatched at most once, after it has arrived. -/
theorem delivered_at_most_once (es : List InterfaceEvent) (s : Interface)
    (h : interfaceMachine.run Interface.start es = some s) :
    interfaceMachine.Along Interface.HandsOn Interface.start es ∧
      forall n, es.countP (InterfaceEvent.delivers n) <=
          es.countP (InterfaceEvent.receives n) ∧
        es.countP (InterfaceEvent.receives n) <= 1 := by
  constructor
  · exact Machine.along_of_invariant (J := fun _ => True)
      (fun _ _ _ _ _ => trivial) (fun s event _ => handsOn s event) trivial es
  · intro n
    have hdelivered := Machine.run_countP_le
      (fun _ _ _ hstep => pending_change (step_change hstep) n) h
    have hfresh : forall s e s', interfaceMachine.step s e = some s' ->
        Interface.fresh n s' + (if e.receives n then 1 else 0) <=
          Interface.fresh n s + if (fun _ => false) e then 1 else 0 :=
      fun _ _ _ hstep => fresh_change (step_change hstep) n
    have hreceived := Machine.run_countP_le hfresh h
    rw [List.countP_false] at hreceived
    have hpendingStart : (Interface.start.handling n).pending = 0 := rfl
    have hfreshStart : Interface.start.fresh n = 1 := rfl
    lia

theorem delivered_at_most_once_twoMessages :
    exists s, interfaceMachine.run Interface.start twoMessages = some s ∧
      interfaceMachine.Along Interface.HandsOn Interface.start twoMessages ∧
      twoMessages.countP (InterfaceEvent.delivers 1) <= 1 := by
  rcases twoMessages_inbox with ⟨s, hrun, _⟩
  rcases delivered_at_most_once twoMessages s hrun with ⟨hhands, hcount⟩
  exact ⟨s, hrun, hhands, Nat.le_trans (hcount 1).1 (hcount 1).2⟩

end Dispatch
end QCore
