import QCore.Dispatch.UeTasks

/-!
# F1 removal

F1 removal clears the map of UE tasks.  A task whose sender was in the map gets
no further message.  A handler that has spawned its task and not yet inserted
the sender inserts it afterwards, and its task outlives the removal.
-/

namespace QCore
namespace Dispatch

open Foundation
open F1ap

namespace UeTasks

/-- Nothing can be sent to the task any more. -/
structure CutOff (s : UeTasks) (n : Nat) (inbox : List F1apPdu) : Prop where
  entry : forall ueId, s.ueTasks ueId ≠ some n
  inserted : forall ueId, s.handler n ≠ some (HandlerPhase.spawned ueId)
  task : exists task, s.task n = some task ∧ task.inbox <:+ inbox

variable {n : Nat} {inbox : List F1apPdu}

theorem CutOff.setTask_other {s : UeTasks} (h : s.CutOff n inbox) {m : Nat}
    (hne : n ≠ m) (task : UeTask) : (s.setTask m task).CutOff n inbox := by
  refine ⟨h.entry, h.inserted, ?_⟩
  rw [setTask_task_of_ne s hne]
  exact h.task

theorem CutOff.setTask {s : UeTasks} (h : s.CutOff n inbox) {m : Nat}
    {task task' : UeTask} (htask : s.task m = some task)
    (hsuffix : task'.inbox <:+ task.inbox) :
    (s.setTask m task').CutOff n inbox := by
  cases Nat.decEq n m with
  | isFalse hne => exact h.setTask_other hne task'
  | isTrue heq =>
      refine ⟨h.entry, h.inserted, task', ?_, ?_⟩
      · rw [heq, setTask_task_self]
      · rcases h.task with ⟨old, hold, hin⟩
        rw [heq, htask] at hold
        cases hold
        exact hsuffix.trans hin

theorem CutOff.setHandler {s : UeTasks} (h : s.CutOff n inbox) {m : Nat}
    {phase : HandlerPhase}
    (hphase : n = m -> forall ueId, phase ≠ HandlerPhase.spawned ueId) :
    (s.setHandler m phase).CutOff n inbox := by
  refine ⟨h.entry, ?_, h.task⟩
  intro ueId hspawned
  cases Nat.decEq n m with
  | isTrue heq =>
      rw [heq, setHandler_handler_self] at hspawned
      exact hphase heq ueId (Option.some.inj hspawned)
  | isFalse hne =>
      rw [setHandler_handler_of_ne s hne] at hspawned
      exact h.inserted ueId hspawned

theorem CutOff.dispatchUeMessage {s : UeTasks} (h : s.CutOff n inbox)
    (ueId : GnbCuUeF1apId) (pdu : F1apPdu) :
    (s.dispatchUeMessage ueId pdu).CutOff n inbox := by
  rcases dispatchUeMessage_cases s ueId pdu with heq |
    ⟨m, task, live, hentry, _, _, heq⟩
  · rw [heq]
    exact h
  · rw [heq]
    apply h.setTask_other
    intro hnm
    rw [← hnm] at hentry
    exact h.entry ueId hentry

theorem CutOff.fewer {s : UeTasks} (h : s.CutOff n inbox)
    {entries : GnbCuUeF1apId -> Option Nat} {removed : List (Nat × Nat)}
    (hfewer : forall ueId, entries ueId = some n -> s.ueTasks ueId = some n) :
    CutOff { s with ueTasks := entries, removed := removed } n inbox :=
  ⟨fun ueId hentry => h.entry ueId (hfewer ueId hentry), h.inserted, h.task⟩

theorem cutOff_effect {s s' : UeTasks} {event : TaskEvent} (hplaced : s.Placed)
    (h : s.CutOff n inbox) (heffect : Effect s event s') :
    s'.CutOff n inbox := by
  cases heffect with
  | drawn _ => exact h.setHandler fun _ _ heq => by cases heq
  | spawned hhandler =>
      rename_i m ueId
      have hne : n ≠ m := by
        intro heq
        rcases h.task with ⟨task, htask, _⟩
        exact hplaced.not_unspawned htask (Or.inr ⟨ueId, heq ▸ hhandler⟩)
      exact (h.setTask_other hne _).setHandler fun heq => absurd heq hne
  | inserted hhandler =>
      rename_i m ueId
      have hne : n ≠ m := by
        intro heq
        exact h.inserted ueId (heq ▸ hhandler)
      have hentries : CutOff
          { s with ueTasks := Function.update s.ueTasks ueId (some m) }
          n inbox := by
        apply h.fewer
        intro other hentry
        cases UInt32.decEq other ueId with
        | isTrue heq =>
            rw [heq, Function.update_self] at hentry
            exact absurd (Option.some.inj hentry).symm hne
        | isFalse hother =>
            rw [Function.update_of_ne hother] at hentry
            exact hentry
      exact hentries.setHandler fun heq => absurd heq hne
  | initialDispatched _ =>
      exact (h.dispatchUeMessage _ _).setHandler fun _ _ heq => by cases heq
  | dispatched => exact h.dispatchUeMessage _ _
  | cleared => exact h.fewer fun _ hentry => by cases hentry
  | began htask _ hinbox =>
      exact h.setTask htask (hinbox ▸ List.suffix_cons _ _)
  | bailed htask _ hinbox _ =>
      exact h.setTask htask (hinbox ▸ List.suffix_cons _ _)
  | closed htask _ _ _ => exact h.setTask htask (List.suffix_refl _)
  | received htask => exact h.setTask htask (List.suffix_cons _ _)
  | finished htask => exact h.setTask htask (List.suffix_refl _)
  | deleted htask =>
      refine CutOff.setTask (h.fewer ?_) htask (List.suffix_refl _)
      intro other hentry
      exact (update_none_some hentry).right

theorem insert_step {s : UeTasks} {n : Nat} {ueId : GnbCuUeF1apId}
    (h : s.handler n = some (HandlerPhase.spawned ueId)) :
    exists s', s.step (TaskEvent.insert n) = some s' ∧
      s'.handler n = some (HandlerPhase.inserted ueId) ∧
      s'.ueTasks ueId = some n ∧ s'.task = s.task := by
  refine ⟨{ s with
      ueTasks := Function.update s.ueTasks ueId (some n) }.setHandler n
        (HandlerPhase.inserted ueId), ?_, ?_, ?_, rfl⟩
  · simp only [step, h]
  · exact setHandler_handler_self _ n _
  · exact Function.update_self _ _ _

theorem dispatchInitial_step {s : UeTasks} {n : Nat} {ueId live : GnbCuUeF1apId}
    {r : InitialUlRrcMessageTransfer} {task : UeTask}
    (h : s.handler n = some (HandlerPhase.inserted ueId))
    (hentry : s.ueTasks ueId = some n) (htask : s.task n = some task)
    (hlive : task.liveId = some live) :
    exists s', s.step (TaskEvent.dispatchInitial n r) = some s' ∧
      s'.task n = some { task with
        inbox := task.inbox ++ [F1apPdu.initialUlRrcMessageTransfer r] } := by
  refine ⟨(s.setTask n { task with
      inbox := task.inbox ++ [F1apPdu.initialUlRrcMessageTransfer r]
      }).setHandler n HandlerPhase.dispatched, ?_, setTask_task_self _ n _⟩
  simp only [step, h, UeTasks.dispatchUeMessage, hentry, htask, hlive]

theorem run_placed {events : List TaskEvent} {s s' : UeTasks} (h : s.Placed)
    (hrun : taskMachine.run s events = some s') : s'.Placed :=
  Machine.run_invariant
    (fun _ _ _ hplaced hstep => placed_effect hplaced (step_effect hstep))
    h hrun

theorem run_cutOff {events : List TaskEvent} {s s' : UeTasks} {n : Nat}
    {inbox : List F1apPdu} (hplaced : s.Placed) (hcut : s.CutOff n inbox)
    (h : taskMachine.run s events = some s') : s'.CutOff n inbox :=
  (Machine.run_invariant (I := fun t => Placed t ∧ CutOff t n inbox)
    (fun _ _ _ hs hstep =>
      ⟨placed_effect hs.left (step_effect hstep),
        cutOff_effect hs.left hs.right (step_effect hstep)⟩)
    ⟨hplaced, hcut⟩ h).right

theorem spawned_goes_on {s : UeTasks} {n : Nat} {ueId : GnbCuUeF1apId}
    (hspawned : s.handler n = some (HandlerPhase.spawned ueId))
    (htask : s.task n = some ⟨ueId, TaskPhase.waiting, []⟩)
    (r : InitialUlRrcMessageTransfer) :
    exists s', taskMachine.run s
        [TaskEvent.insert n, TaskEvent.dispatchInitial n r] = some s' ∧
      s'.task n = some ⟨ueId, TaskPhase.waiting,
        [F1apPdu.initialUlRrcMessageTransfer r]⟩ := by
  rcases insert_step hspawned with ⟨t, hinsert, hinserted, hentry, htasks⟩
  rw [← htasks] at htask
  rcases dispatchInitial_step (r := r) hinserted hentry htask rfl with
    ⟨t', hdispatch, htask'⟩
  have hfirst : taskMachine.step s (TaskEvent.insert n) = some t := hinsert
  have hsecond : taskMachine.step t (TaskEvent.dispatchInitial n r) = some t' :=
    hdispatch
  refine ⟨t', ?_, htask'⟩
  rw [Machine.run_cons_of_step _ hfirst, Machine.run_cons_of_step _ hsecond]
  rfl

/-- A task that is there when the channels are deleted gets a further message
only if its handler had not inserted the sender yet; and then it can get one. -/
theorem outlives_removal_iff (before : List TaskEvent) (s : UeTasks)
    (h : taskMachine.run start (before ++ [TaskEvent.deleteUeChannels]) = some s)
    (n : Nat) (task : UeTask) (htask : s.task n = some task) :
    (exists later s' task', taskMachine.run s later = some s' ∧
      s'.task n = some task' ∧ ¬ task'.inbox <:+ task.inbox) <->
      exists ueId, s.handler n = some (HandlerPhase.spawned ueId) := by
  have hplaced := run_placed placed_start h
  constructor
  · rintro ⟨later, s', task', hrun, htask', hgrown⟩
    apply Classical.byContradiction
    intro hnot
    rcases Machine.run_concat_some h with ⟨s₀, _, hremoval⟩
    have hcut : s.CutOff n task.inbox := by
      refine ⟨?_, fun ueId hspawned => hnot ⟨ueId, hspawned⟩,
        task, htask, List.suffix_refl _⟩
      intro ueId hentry
      cases step_effect hremoval with
      | cleared => cases hentry
    rcases (run_cutOff hplaced hcut hrun).task with ⟨task'', htask'', hsuffix⟩
    rw [htask'] at htask''
    cases htask''
    exact hgrown hsuffix
  · rintro ⟨ueId, hspawned⟩
    have hfresh := (hplaced.fresh n ueId hspawned).left
    rcases spawned_goes_on hspawned hfresh ⟨0, [], [], none⟩ with
      ⟨s', hrun, htask'⟩
    refine ⟨_, s', _, hrun, htask', ?_⟩
    rw [htask] at hfresh
    cases hfresh
    intro hsuffix
    cases List.suffix_nil.mp hsuffix

/-- The channels are deleted while an initial message is handled. -/
def racing : List TaskEvent :=
  [TaskEvent.draw 0 3, TaskEvent.spawn 0]

theorem outlives_removal_racing :
    exists s later s' task',
      taskMachine.run start (racing ++ [TaskEvent.deleteUeChannels]) = some s ∧
      taskMachine.run s later = some s' ∧
      s'.task 0 = some task' ∧ ¬ task'.inbox <:+ [] := by
  have hstate : ((taskMachine.run start
      (racing ++ [TaskEvent.deleteUeChannels])).map
        fun s => (s.task 0, s.handler 0)) =
      some (some ⟨3, TaskPhase.waiting, []⟩,
        some (HandlerPhase.spawned 3)) := by
    decide +kernel
  rcases Option.map_eq_some_iff.mp hstate with ⟨s, hrun, hparts⟩
  rcases Prod.mk.inj hparts with ⟨htask, hhandler⟩
  rcases (outlives_removal_iff racing s hrun 0 _ htask).mpr ⟨3, hhandler⟩ with
    ⟨later, s', task', hlater, htask', hgrown⟩
  exact ⟨s, later, s', task', hrun, hlater, htask', hgrown⟩

end UeTasks

end Dispatch
end QCore
