import Mathlib
import QCore.Stack.ShutdownOrder

/-!
# Shutdown completes

Once it is called, `QCore::graceful_shutdown` returns, unless a task panics and
ends the process.  The tasks have only so much work left, which new associations
and messages add to, and until the call has returned one of them can take its
next step: nobody waits for the lock on the list of tasks, or for a task, that
waits for something in turn.

Afterwards only the calls of `send_message` go on.  One that has its association
already sends its message; every other one finds none.
-/

namespace QCore
namespace Stack

open Foundation

/-- A step of one of the tasks.  The others are those of DUs, of callers of
`send_message`, the call of the shutdown, and a panic. -/
def ShutdownEvent.own : ShutdownEvent -> Bool
  | send _ => false
  | accept _ => false
  | next _ => false
  | panics => false
  | hangUp _ => false
  | call => false
  | _ => true

/-!
## The work that is left
-/

def LoopPhase.work : LoopPhase -> Nat
  | spawned => 4
  | waiting => 3
  | handling => 4
  | leaving => 2

def AssocPhase.work (loop : LoopPhase) : AssocPhase -> Nat
  | running => loop.work
  | removed => 1
  | _ => 0

def DrainPhase.work : DrainPhase -> Nat
  | locking => 2
  | draining => 1
  | joining _ => 2
  | returned => 0

def ServerPhase.work : ServerPhase -> Nat
  | accepted _ => 12
  | pushing _ => 7
  | accepting => 4
  | closing => 3
  | draining d => d.work

def CallerPhase.work : CallerPhase -> Nat
  | pool d => 2 + d.work
  | joiningServer => 1
  | _ => 0

namespace Shutdown

def taskWork (s : Shutdown) (a : Nat) : Nat :=
  (s.pool.phaseOf a).work (s.loop a)

def tasksWork (s : Shutdown) : Nat :=
  ∑ a ∈ Finset.range s.pool.associations.length, s.taskWork a

def work (s : Shutdown) : Nat :=
  s.tasksWork + 2 * s.tasks.length + s.server.work + s.caller.work

theorem tasksWork_same {s t : Shutdown}
    (hassociations : t.pool.associations = s.pool.associations)
    (hloop : t.loop = s.loop) : t.tasksWork = s.tasksWork := by
  unfold tasksWork taskWork TnlaPool.phaseOf
  rw [hassociations, hloop]

theorem tasksWork_change {s t : Shutdown} {a : Nat}
    (hlength : t.pool.associations.length = s.pool.associations.length)
    (ha : a < s.pool.associations.length)
    (hothers : forall b, b ≠ a -> t.taskWork b = s.taskWork b) :
    t.tasksWork + s.taskWork a = s.tasksWork + t.taskWork a := by
  have hmem := Finset.mem_range.mpr ha
  have hrest : ∑ b ∈ (Finset.range s.pool.associations.length).erase a,
      t.taskWork b =
        ∑ b ∈ (Finset.range s.pool.associations.length).erase a,
          s.taskWork b := by
    apply Finset.sum_congr rfl
    intro b hb
    exact hothers b (Finset.ne_of_mem_erase hb)
  unfold tasksWork
  rw [hlength, ← Finset.add_sum_erase _ t.taskWork hmem,
    ← Finset.add_sum_erase _ s.taskWork hmem, hrest]
  lia

theorem length_step {p q : TnlaPool} {event : PoolEvent}
    (h : p.step event = some q) (hevent : forall fd, event ≠ PoolEvent.accept fd) :
    q.associations.length = p.associations.length := by
  cases pool_effect h with
  | accepted _ => exact absurd rfl (hevent _)
  | discarded _ _ => exact List.length_set
  | added _ _ => exact List.length_set
  | removed _ _ => exact List.length_set
  | finished _ _ => exact List.length_set
  | _ => rfl

theorem work_rephased {s t : Shutdown} {a : Nat} {old new : AssocPhase}
    (hrephased : Rephased s.pool t.pool a old new)
    (hlength : t.pool.associations.length = s.pool.associations.length)
    (hold : old ≠ AssocPhase.ended)
    (hloop : forall b, b ≠ a -> t.loop b = s.loop b)
    (htasks : t.tasks = s.tasks) (hcaller : t.caller = s.caller) :
    t.work + old.work (s.loop a) + s.server.work =
      s.work + new.work (t.loop a) + t.server.work := by
  have ha : a < s.pool.associations.length := by
    apply length_of_phase
    rw [hrephased.old]
    exact hold
  have hchange := tasksWork_change hlength ha (fun b hne => by
    unfold taskWork
    rw [hrephased.others b hne, hloop b hne])
  unfold taskWork at hchange
  rw [hrephased.old, hrephased.new] at hchange
  unfold work
  rw [htasks, hcaller]
  lia

theorem work_looped {s t : Shutdown} {a : Nat} {old new : LoopPhase}
    (hat : s.LoopAt a old)
    (hassociations : t.pool.associations = s.pool.associations)
    (hloop : t.loop = Function.update s.loop a new)
    (htasks : t.tasks = s.tasks) (hserver : t.server = s.server)
    (hcaller : t.caller = s.caller) :
    t.work + old.work = s.work + new.work := by
  have hphase : forall b, t.pool.phaseOf b = s.pool.phaseOf b := by
    intro b
    unfold TnlaPool.phaseOf
    rw [hassociations]
  have ha : a < s.pool.associations.length := by
    apply length_of_phase
    simp [hat.left]
  have hchange := tasksWork_change (by rw [hassociations]) ha (fun b hne => by
    unfold taskWork
    rw [hphase, hloop, Function.update_of_ne hne])
  unfold taskWork at hchange
  rw [hphase, hat.left, hat.right, hloop, Function.update_self] at hchange
  change t.tasksWork + old.work = s.tasksWork + new.work at hchange
  unfold work
  rw [htasks, hserver, hcaller]
  lia

theorem tasksWork_accepted {s t : Shutdown} {fd : Int32}
    (hp : s.pool.step (PoolEvent.accept fd) = some t.pool)
    (hloop : t.loop = s.loop) : t.tasksWork = s.tasksWork := by
  have hrephased := (rephased_accept hp).left
  have hlength : t.pool.associations.length =
      s.pool.associations.length + 1 := by
    cases hpool : t.pool with
    | mk associations assocs calls responses =>
        rw [hpool] at hp
        cases pool_effect hp with
        | accepted _ => exact List.length_append
  have hnew : t.taskWork s.pool.associations.length = 0 := by
    unfold taskWork
    rw [hrephased.new]
    rfl
  unfold tasksWork
  rw [hlength, Finset.sum_range_succ, hnew, Nat.add_zero]
  apply Finset.sum_congr rfl
  intro b hb
  unfold taskWork
  rw [hrephased.others b (Nat.ne_of_lt (Finset.mem_range.mp hb)), hloop]

theorem Drained.work {s : Shutdown} {d d' : DrainPhase} {move : DrainMove}
    {tasks stopped : List Nat} (h : Drained s d move d' tasks stopped) :
    2 * tasks.length + d'.work + 1 <= 2 * s.tasks.length + d.work := by
  cases h with
  | locked _ => exact Nat.le_refl _
  | taken htasks =>
      rw [htasks, List.length_cons]
      simp only [DrainPhase.work]
      lia
  | joined _ => exact Nat.le_refl _
  | released _ => exact Nat.le_refl _

theorem work_move {s t : Shutdown} {event : ShutdownEvent}
    (h : Move s event t) :
    t.work + (if event.own then 1 else 0) <=
      s.work + if event.own then 0 else 8 := by
  cases h with
  | @sent event p hsend hp =>
      have hsame := @tasksWork_same s { s with pool := p }
        (associations_send hsend hp) rfl
      simp only [work, ShutdownEvent.own, hsame]
      exact Nat.le_add_right _ 8
  | @accepted fd p hserver hp =>
      have hsame := @tasksWork_accepted s { s with
        pool := p
        server := ServerPhase.accepted s.pool.associations.length } fd hp rfl
      simp only [work, ShutdownEvent.own, hsame, hserver, ServerPhase.work]
      exact Nat.le_of_eq (by lia)
  | @refused a p hserver hp =>
      have hwork := @work_rephased s { s with
        pool := p
        server := ServerPhase.accepting } a _ _ (rephased_discard hp)
        (length_step hp (by simp)) (by simp) (fun _ _ => rfl) rfl rfl
      simp only [hserver, AssocPhase.work, ServerPhase.work] at hwork
      simp only [ShutdownEvent.own]
      lia
  | @added a p hserver hp =>
      have hwork := @work_rephased s { s.setLoop a LoopPhase.spawned with
        pool := p
        server := ServerPhase.pushing a } a _ _ (rephased_add hp).left
        (length_step hp (by simp)) (by simp)
        (fun _ hne => Function.update_of_ne hne _ _) rfl rfl
      simp only [hserver, AssocPhase.work, ServerPhase.work, setLoop,
        Function.update_self, LoopPhase.work] at hwork
      simp only [ShutdownEvent.own, setLoop]
      lia
  | @pushed a hserver =>
      have hsame := @tasksWork_same s { s with
        tasks := s.tasks ++ [a]
        server := ServerPhase.accepting } rfl rfl
      simp only [work, ShutdownEvent.own, hserver, ServerPhase.work, hsame,
        List.length_append, List.length_singleton]
      lia
  | stopped hserver _ =>
      have hsame := @tasksWork_same s { s with server := ServerPhase.closing }
        rfl rfl
      simp only [work, ShutdownEvent.own, hserver, ServerPhase.work, hsame]
      lia
  | closed hserver =>
      have hsame := @tasksWork_same s { s with
        listening := false
        server := ServerPhase.draining DrainPhase.locking } rfl rfl
      simp only [work, ShutdownEvent.own, hserver, ServerPhase.work, hsame,
        DrainPhase.work]
      lia
  | @serverDrained d d' move tasks stopped hserver hdrained =>
      have hsame := @tasksWork_same s { s with
        tasks := tasks
        stopped := stopped
        server := ServerPhase.draining d' } rfl rfl
      have hwork := hdrained.work
      simp only [work, ShutdownEvent.own, hserver, ServerPhase.work, hsame]
      lia
  | @established a hat =>
      have hwork := @work_looped s ((s.setLoop a LoopPhase.waiting).report a
        TnlaEvent.established) a _ _ hat rfl rfl rfl rfl rfl
      exact Nat.le_of_eq (Nat.add_right_cancel (m := 3) hwork)
  | @arrived a hat =>
      have hwork := @work_looped s (s.setLoop a LoopPhase.handling) a _ _ hat
        rfl rfl rfl rfl rfl
      simp only [LoopPhase.work] at hwork
      simp only [ShutdownEvent.own]
      lia
  | @requested a p hat hp =>
      have hwork := @work_looped s { s.setLoop a LoopPhase.waiting with
        pool := p } a _ _ hat (associations_request hp) rfl rfl rfl rfl
      exact Nat.le_of_eq (Nat.add_right_cancel (m := 3) hwork)
  | @responded a hat =>
      have hwork := @work_looped s (s.setLoop a LoopPhase.waiting) a _ _ hat
        rfl rfl rfl rfl rfl
      exact Nat.le_of_eq (Nat.add_right_cancel (m := 3) hwork)
  | panicked => exact Nat.le_add_right _ 8
  | @hungUp a hat =>
      have hwork := @work_looped s ((s.setLoop a LoopPhase.leaving).report a
        TnlaEvent.terminated) a _ _ hat rfl rfl rfl rfl rfl
      simp only [LoopPhase.work] at hwork
      simp only [ShutdownEvent.own]
      lia
  | @ended a hat =>
      have hwork := @work_looped s ((s.setLoop a LoopPhase.leaving).report a
        TnlaEvent.terminated) a _ _ hat rfl rfl rfl rfl rfl
      exact Nat.le_of_eq (Nat.add_right_cancel (m := 2) hwork)
  | @removed a p hat hp =>
      have hwork := @work_rephased s { s with pool := p } a _ _
        (rephased_remove hp) (length_step hp (by simp)) (by simp)
        (fun _ _ => rfl) rfl rfl
      simp only [AssocPhase.work, hat.right, LoopPhase.work] at hwork
      simp only [ShutdownEvent.own]
      lia
  | @finished a p hp =>
      have hwork := @work_rephased s { s with pool := p } a _ _
        (rephased_finish hp) (length_step hp (by simp)) (by simp)
        (fun _ _ => rfl) rfl rfl
      simp only [AssocPhase.work] at hwork
      simp only [ShutdownEvent.own]
      lia
  | called hcaller =>
      have hsame := @tasksWork_same s { s with
        caller := CallerPhase.pool DrainPhase.locking } rfl rfl
      simp only [work, ShutdownEvent.own, hcaller, CallerPhase.work, hsame,
        DrainPhase.work]
      lia
  | @callerDrained d d' move tasks stopped hcaller hdrained =>
      have hsame := @tasksWork_same s { s with
        tasks := tasks
        stopped := stopped
        caller := CallerPhase.pool d' } rfl rfl
      have hwork := hdrained.work
      simp only [work, ShutdownEvent.own, hcaller, CallerPhase.work, hsame]
      lia
  | serverStopped hcaller =>
      have hsame := @tasksWork_same s { s with
        serverStopped := true
        caller := CallerPhase.joiningServer } rfl rfl
      simp only [work, ShutdownEvent.own, hcaller, CallerPhase.work, hsame,
        DrainPhase.work]
      lia
  | serverJoined hcaller _ =>
      have hsame := @tasksWork_same s { s with caller := CallerPhase.returned }
        rfl rfl
      simp only [work, ShutdownEvent.own, hcaller, CallerPhase.work, hsame]
      lia

/-!
## Someone can go on
-/

def Enabled (s : Shutdown) : Prop :=
  exists event t, event.own = true ∧ shutdownMachine.step s event = some t

theorem advance_enabled {p : TnlaPool} {a : Nat} {old : AssocPhase}
    (h : p.phaseOf a = old) (hold : old ≠ AssocPhase.ended)
    (new : AssocPhase) :
    exists x, p.advance a old new = some (x, p.setPhase a x new) := by
  unfold TnlaPool.phaseOf at h
  cases hx : p.associations[a]? with
  | none =>
      rw [hx] at h
      exact absurd h.symm hold
  | some x =>
      rw [hx] at h
      refine ⟨x, ?_⟩
      unfold TnlaPool.advance
      rw [hx]
      exact if_pos h

section Enabled

variable {s : Shutdown} (halive : s.exited = false)

include halive

theorem enabled_of_isSome (event : ShutdownEvent) (hown : event.own = true)
    (h : (s.act event).isSome = true) : s.Enabled := by
  rcases Option.isSome_iff_exists.mp h with ⟨t, ht⟩
  refine ⟨event, t, hown, ?_⟩
  change (if s.exited then none else s.act event) = some t
  rw [halive]
  exact ht

theorem enabled_add {a : Nat} (hphase : s.pool.phaseOf a = AssocPhase.created)
    (hserver : s.server = ServerPhase.accepted a) : s.Enabled := by
  rcases advance_enabled hphase (by simp) AssocPhase.running with
    ⟨x, hadvance⟩
  apply enabled_of_isSome halive (ShutdownEvent.add a) rfl
  rw [act, if_pos hserver, onPool, TnlaPool.step, hadvance]
  rfl

theorem enabled_running {a : Nat} (htold : a ∈ s.stopped)
    (hphase : s.pool.phaseOf a = AssocPhase.running) : s.Enabled := by
  cases hloop : s.loop a with
  | spawned =>
      apply enabled_of_isSome halive (ShutdownEvent.establish a) rfl
      rw [act, if_pos ⟨hphase, hloop⟩]
      rfl
  | waiting =>
      apply enabled_of_isSome halive (ShutdownEvent.stopRead a) rfl
      rw [act, if_pos ⟨⟨hphase, hloop⟩, htold⟩]
      rfl
  | handling =>
      apply enabled_of_isSome halive (ShutdownEvent.handle a false) rfl
      rw [act, if_pos ⟨hphase, hloop⟩]
      rfl
  | leaving =>
      rcases advance_enabled hphase (by simp) AssocPhase.removed with
        ⟨x, hadvance⟩
      apply enabled_of_isSome halive (ShutdownEvent.remove a) rfl
      rw [act, if_pos ⟨hphase, hloop⟩, onPool, TnlaPool.step, hadvance]
      rfl

theorem enabled_told {a : Nat} (htracked : s.Tracked) (htold : a ∈ s.stopped)
    (hphase : s.pool.phaseOf a ≠ AssocPhase.ended) : s.Enabled := by
  cases hcase : s.pool.phaseOf a with
  | ended => exact absurd hcase hphase
  | created => exact enabled_add halive hcase ((htracked.created a).mp hcase)
  | removed =>
      rcases advance_enabled hcase (by simp) AssocPhase.ended with
        ⟨x, hadvance⟩
      apply enabled_of_isSome halive (ShutdownEvent.finish a) rfl
      rw [act, onPool, TnlaPool.step, hadvance]
      rfl
  | running => exact enabled_running halive htold hcase

theorem drain_progress {d : DrainPhase} (htracked : s.Tracked)
    (hholds : d.holds = true)
    (htold : forall a, d = DrainPhase.joining a -> a ∈ s.stopped) :
    (exists move r, s.drain d move = some r) ∨ s.Enabled := by
  cases d with
  | locking => cases hholds
  | returned => cases hholds
  | draining =>
      cases htasks : s.tasks with
      | nil => exact Or.inl ⟨DrainMove.release, _, if_pos ⟨rfl, htasks⟩⟩
      | cons a rest =>
          refine Or.inl ⟨DrainMove.take, (DrainPhase.joining a,
            { s with tasks := rest, stopped := a :: s.stopped }), ?_⟩
          simp only [drain, htasks, if_true]
  | joining a =>
      cases decEq (s.pool.phaseOf a) AssocPhase.ended with
      | isTrue hended => exact Or.inl ⟨DrainMove.join, _, if_pos hended⟩
      | isFalse hended =>
          exact Or.inr (enabled_told halive htracked (htold a rfl) hended)

theorem enabled_serverDrain {d : DrainPhase}
    (hserver : s.server = ServerPhase.draining d)
    (h : exists move r, s.drain d move = some r) : s.Enabled := by
  rcases h with ⟨move, ⟨d', t⟩, hdrain⟩
  apply enabled_of_isSome halive (ShutdownEvent.serverDrain move) rfl
  simp only [act, hserver, hdrain]
  rfl

theorem enabled_callerDrain {d : DrainPhase}
    (hcaller : s.caller = CallerPhase.pool d)
    (h : exists move r, s.drain d move = some r) : s.Enabled := by
  rcases h with ⟨move, ⟨d', t⟩, hdrain⟩
  apply enabled_of_isSome halive (ShutdownEvent.callerDrain move) rfl
  simp only [act, hcaller, hdrain]
  rfl

theorem enabled_serverHolds (htracked : s.Tracked) (hordered : s.Ordered)
    (hholds : s.server.holds = true) : s.Enabled := by
  cases hserver : s.server with
  | draining d =>
      rw [hserver] at hholds
      have htold : forall a, d = DrainPhase.joining a -> a ∈ s.stopped := by
        intro a ha
        rw [ha] at hserver
        exact hordered.told a (Or.inr hserver)
      rcases drain_progress halive htracked hholds htold with
        hdrain | henabled
      · exact enabled_serverDrain halive hserver hdrain
      · exact henabled
  | _ =>
      rw [hserver] at hholds
      cases hholds

theorem enabled_caller {d : DrainPhase} (htracked : s.Tracked)
    (hordered : s.Ordered) (hcaller : s.caller = CallerPhase.pool d) :
    s.Enabled := by
  cases hd : d with
  | returned =>
      rw [hd] at hcaller
      apply enabled_of_isSome halive ShutdownEvent.stopServer rfl
      rw [act, if_pos hcaller]
      rfl
  | locking =>
      rw [hd] at hcaller
      cases hlocked : s.locked with
      | false =>
          exact enabled_callerDrain halive hcaller
            ⟨DrainMove.lock, _, if_pos ⟨rfl, hlocked⟩⟩
      | true =>
          apply enabled_serverHolds halive htracked hordered
          unfold locked at hlocked
          rw [hcaller] at hlocked
          exact hlocked
  | _ =>
      have htold : forall a, d = DrainPhase.joining a -> a ∈ s.stopped := by
        intro a ha
        rw [ha] at hcaller
        exact hordered.told a (Or.inl hcaller)
      rcases drain_progress halive htracked (by rw [hd]; rfl) htold with
        hdrain | henabled
      · exact enabled_callerDrain halive hcaller hdrain
      · exact henabled

theorem enabled_server (htracked : s.Tracked) (hordered : s.Ordered)
    (hcaller : s.caller = CallerPhase.joiningServer) : s.Enabled := by
  have hstopped : s.serverStopped = true :=
    hordered.stopped.mpr (Or.inl hcaller)
  have hcallerHolds : s.caller.holds = false := by
    rw [hcaller]
    rfl
  cases hserver : s.server with
  | accepting =>
      apply enabled_of_isSome halive ShutdownEvent.stop rfl
      rw [act, if_pos ⟨hserver, hstopped⟩]
      rfl
  | accepted a =>
      exact enabled_add halive ((htracked.created a).mpr hserver) hserver
  | pushing a =>
      have hlocked : s.locked = false := by
        rw [locked, hcallerHolds, hserver]
        rfl
      apply enabled_of_isSome halive (ShutdownEvent.push a) rfl
      rw [act, if_pos ⟨hserver, hlocked⟩]
      rfl
  | closing =>
      apply enabled_of_isSome halive ShutdownEvent.close rfl
      rw [act, if_pos hserver]
      rfl
  | draining d =>
      cases hd : d with
      | returned =>
          rw [hd] at hserver
          apply enabled_of_isSome halive ShutdownEvent.joinServer rfl
          rw [act, if_pos ⟨hcaller, hserver⟩]
          rfl
      | locking =>
          have hlocked : s.locked = false := by
            rw [locked, hcallerHolds, hserver, hd]
            rfl
          rw [hd] at hserver
          exact enabled_serverDrain halive hserver
            ⟨DrainMove.lock, _, if_pos ⟨rfl, hlocked⟩⟩
      | _ =>
          apply enabled_serverHolds halive htracked hordered
          rw [hserver, hd]
          rfl

end Enabled

/-!
## Completion
-/

theorem called_move {s t : Shutdown} {event : ShutdownEvent}
    (h : Move s event t) (hcalled : s.caller ≠ CallerPhase.idle) :
    t.caller ≠ CallerPhase.idle := by
  cases h with
  | called => simp
  | callerDrained => simp
  | serverStopped => simp
  | serverJoined => simp
  | _ => exact hcalled

structure UnderWay (s : Shutdown) : Prop where
  tracked : s.Tracked
  ordered : s.Ordered
  called : s.caller ≠ CallerPhase.idle

theorem UnderWay.step {s t : Shutdown} {event : ShutdownEvent}
    (h : s.UnderWay) (hstep : shutdownMachine.step s event = some t) :
    t.UnderWay := by
  have hmove := step_move hstep
  exact ⟨tracked_move h.tracked hmove, ordered_move h.ordered hmove,
    called_move hmove h.called⟩

theorem UnderWay.progress {s : Shutdown} (h : s.UnderWay)
    (halive : s.exited = false) :
    s.caller = CallerPhase.returned ∨ s.Enabled := by
  cases hcaller : s.caller with
  | idle => exact absurd hcaller h.called
  | pool d => exact Or.inr (enabled_caller halive h.tracked h.ordered hcaller)
  | joiningServer =>
      exact Or.inr (enabled_server halive h.tracked h.ordered hcaller)
  | returned => exact Or.inl rfl

theorem exited_step {s t : Shutdown} {event : ShutdownEvent}
    (hevent : event ≠ ShutdownEvent.panics)
    (hstep : shutdownMachine.step s event = some t) : t.exited = false := by
  have halive := (step_some hstep).left
  cases step_move hstep with
  | panicked => exact absurd rfl hevent
  | _ => exact halive

theorem run_exited {s t : Shutdown} {events : List ShutdownEvent}
    (halive : s.exited = false)
    (h : forall event, event ∈ events -> event ≠ ShutdownEvent.panics)
    (hrun : shutdownMachine.run s events = some t) : t.exited = false :=
  Machine.run_invariant_along (fun _ _ _ _ hevent hstep =>
    exited_step hevent hstep) halive (Machine.along_of_forall h s) hrun

/-- From any point of a shutdown: however its steps are ordered, the tasks take
no more of them than there is work, and until the call has returned one of them
can take a step, unless some task panics; so the call returns, without the help
of a DU or of anyone who sends a message. -/
theorem shutdown_completes (events : List ShutdownEvent) (s : Shutdown)
    (hrun : shutdownMachine.run start events = some s)
    (hcalled : s.caller ≠ CallerPhase.idle) (halive : s.exited = false) :
    (forall more t, shutdownMachine.run s more = some t ->
      t.work + more.countP ShutdownEvent.own <=
          s.work + 8 * (more.countP fun event => !event.own) ∧
        (ShutdownEvent.panics ∈ more ∨ t.caller = CallerPhase.returned ∨
          t.Enabled)) ∧
      exists more t, (forall event, event ∈ more -> event.own = true) ∧
        shutdownMachine.run s more = some t ∧
        t.caller = CallerPhase.returned := by
  have hreached := run_reached hrun
  have hs : s.UnderWay := ⟨hreached.tracked, hreached.ordered, hcalled⟩
  constructor
  · intro more t hmore
    constructor
    · exact Machine.run_countP_le_mul (I := fun _ => True)
        (fun _ _ _ _ _ => trivial)
        (fun _ _ _ _ hstep => work_move (step_move hstep)) trivial hmore
    · by_cases hpanics : ShutdownEvent.panics ∈ more
      · exact Or.inl hpanics
      · have hothers : forall event, event ∈ more ->
            event ≠ ShutdownEvent.panics := by
          intro event hmem heq
          rw [heq] at hmem
          exact hpanics hmem
        have ht : t.UnderWay :=
          Machine.run_invariant (fun _ _ _ hu => hu.step) hs hmore
        exact Or.inr (ht.progress (run_exited halive hothers hmore))
  · apply @Machine.run_completes _ _ shutdownMachine ShutdownEvent.own work
      (fun u => u.UnderWay ∧ u.exited = false) _ _ _ _ s ⟨hs, halive⟩
    · intro u event u' hu hown hstep
      refine ⟨hu.left.step hstep, exited_step ?_ hstep⟩
      intro heq
      rw [heq] at hown
      cases hown
    · intro u event u' hstep hown
      have hwork := work_move (step_move hstep)
      rw [hown] at hwork
      exact hwork
    · intro u hu
      exact hu.left.progress hu.right

/-- The caller is about to wait for an association that it has told to stop. -/
theorem shutdown_completes_lateArrival :
    exists s, shutdownMachine.run start (lateArrival.take 6) = some s ∧
      exists more t, (forall event, event ∈ more -> event.own = true) ∧
        shutdownMachine.run s more = some t ∧
        t.caller = CallerPhase.returned := by
  have hphases : (shutdownMachine.run start (lateArrival.take 6)).map
      (fun s => (s.caller, s.exited)) =
        some (CallerPhase.pool (DrainPhase.joining 0), false) := by
    decide +kernel
  rcases Option.map_eq_some_iff.mp hphases with ⟨s, hrun, heq⟩
  rcases Prod.mk.inj heq with ⟨hjoining, halive⟩
  exact ⟨s, hrun, (shutdown_completes (lateArrival.take 6) s hrun
    (by simp [hjoining]) halive).2⟩

/-!
## Afterwards
-/

def ChoseBefore (p q : TnlaPool) : Prop :=
  forall (k : Nat) (call : SendCall) (a : Nat), q.calls[k]? = some call ->
    call.phase.choice = some a ->
      exists call', p.calls[k]? = some call' ∧ call'.phase.choice = some a

theorem ChoseBefore.trans {p q r : TnlaPool} (h : ChoseBefore p q)
    (h' : ChoseBefore q r) : ChoseBefore p r := by
  intro k call a hcall hchoice
  rcases h' k call a hcall hchoice with ⟨call', hcall', hchoice'⟩
  exact h k call' a hcall' hchoice'

theorem lookup_of_empty {p : TnlaPool} (h : p.assocs.entries = [])
    (assocId : AssocId) : p.assocs.lookup assocId = none := by
  cases hlookup : p.assocs.lookup assocId with
  | none => rfl
  | some a =>
      rcases TnlaPool.mem_entries_iff.mpr ⟨assocId, hlookup⟩ with ⟨e, he, _⟩
      rw [h] at he
      cases he

inductive CallsOn (p q : TnlaPool) : Prop where
  | same : q.calls = p.calls -> CallsOn p q
  | begun {replyTo : Option ReplyTo} :
      q.calls = p.calls ++ [⟨replyTo, SendPhase.start⟩] -> CallsOn p q
  | moved {k : Nat} {call : SendCall} {phase : SendPhase} :
      p.calls[k]? = some call ->
      q.calls = p.calls.set k { call with phase := phase } ->
      phase.choice = none ∨ phase.choice = call.phase.choice -> CallsOn p q

theorem callsOn_effect {p q : TnlaPool} {event : PoolEvent}
    (hempty : p.assocs.entries = []) (heffect : TnlaPool.Effect p event q) :
    CallsOn p q := by
  cases heffect with
  | accepted _ => exact CallsOn.same rfl
  | discarded _ _ => exact CallsOn.same rfl
  | added _ _ => exact CallsOn.same rfl
  | requested _ _ => exact CallsOn.begun rfl
  | called => exact CallsOn.begun rfl
  | @lookedUp k call hcall _ =>
      refine CallsOn.moved hcall rfl (Or.inl ?_)
      cases call.replyTo with
      | none => rfl
      | some r => exact lookup_of_empty hempty r.assocId
  | @foundNone k call first hcall hphase _ =>
      refine CallsOn.moved hcall rfl (Or.inr ?_)
      rw [hphase]
      exact Option.or_none
  | foundSome _ _ hlookup =>
      rw [lookup_of_empty hempty] at hlookup
      cases hlookup
  | @chosen k call first second a hcall hphase hor =>
      refine CallsOn.moved hcall rfl (Or.inr ?_)
      rw [hphase]
      exact hor.symm
  | failed hcall _ => exact CallsOn.moved hcall rfl (Or.inl rfl)
  | sent hcall _ => exact CallsOn.moved hcall rfl (Or.inl rfl)
  | removed _ _ => exact CallsOn.same rfl
  | finished _ _ => exact CallsOn.same rfl

theorem CallsOn.choseBefore {p q : TnlaPool} (h : CallsOn p q) :
    ChoseBefore p q := by
  intro k call a hcall hchoice
  cases h with
  | same hcalls =>
      rw [hcalls] at hcall
      exact ⟨call, hcall, hchoice⟩
  | begun hcalls =>
      rw [hcalls, List.getElem?_append] at hcall
      split at hcall
      next => exact ⟨call, hcall, hchoice⟩
      next =>
        rcases List.getElem?_eq_some_iff.mp hcall with ⟨_, heq⟩
        rw [List.getElem_singleton] at heq
        rw [← heq] at hchoice
        cases hchoice
  | @moved j old phase hold hcalls hphase =>
      rw [hcalls, List.getElem?_set] at hcall
      cases Nat.decEq j k with
      | isTrue heq =>
          rw [if_pos heq] at hcall
          split at hcall
          next =>
            cases hcall
            rw [← heq]
            rcases hphase with hnone | hsame
            · rw [hnone] at hchoice
              cases hchoice
            · exact ⟨old, hold, hsame.symm.trans hchoice⟩
          next => cases hcall
      | isFalse hne =>
          rw [if_neg hne] at hcall
          exact ⟨call, hcall, hchoice⟩

def settled (p : TnlaPool) : Nat :=
  p.calls.countP fun call => call.phase.choice.isSome

theorem settled_set {p q : TnlaPool} {k : Nat} {call : SendCall}
    {phase : SendPhase} (hcall : p.calls[k]? = some call)
    (hq : q.calls = p.calls.set k { call with phase := phase }) :
    settled q + (if call.phase.choice.isSome then 1 else 0) =
      settled p + if phase.choice.isSome then 1 else 0 := by
  rcases List.getElem?_eq_some_iff.mp hcall with ⟨hlt, hget⟩
  have hpos : call.phase.choice.isSome = true -> 0 < settled p := by
    intro hsome
    apply List.countP_pos_iff.mpr
    exact ⟨call, List.mem_of_getElem? hcall, hsome⟩
  unfold settled at hpos ⊢
  rw [hq, List.countP_set hlt, hget]
  cases hsome : call.phase.choice.isSome with
  | true =>
      have hone := hpos hsome
      simp only [if_true]
      lia
  | false => simp

theorem CallsOn.settled_le {p q : TnlaPool} (h : CallsOn p q) :
    settled q <= settled p := by
  cases h with
  | same hcalls =>
      unfold settled
      rw [hcalls]
  | begun hcalls =>
      unfold settled
      rw [hcalls, List.countP_append]
      exact Nat.le_refl _
  | moved hcall hcalls hphase =>
      have hset := settled_set hcall hcalls
      rcases hphase with hnone | hsame
      · rw [hnone] at hset
        simp only [Option.isSome_none, Bool.false_eq_true, if_false] at hset
        lia
      · rw [hsame] at hset
        lia

theorem settled_sendMsg {p q : TnlaPool} {k : Nat} {ok : Bool}
    (h : p.step (PoolEvent.sendMsg k ok) = some q) :
    (exists call a, p.calls[k]? = some call ∧ call.phase.choice = some a) ∧
      settled q + 1 = settled p := by
  cases pool_effect h with
  | @sent k call a ok hcall hphase =>
      have hchoice : call.phase.choice = some a := by
        rw [hphase]
        rfl
      refine ⟨⟨call, a, hcall, hchoice⟩, ?_⟩
      have hset := @settled_set p { p.setCall k call SendPhase.done with
        responses := p.responses ++
          (if ok then call.replyTo.toList.map fun r => (r.association, a)
            else []) } k call SendPhase.done hcall rfl
      rw [hchoice] at hset
      exact hset

def sendsMsg : ShutdownEvent -> Bool
  | ShutdownEvent.send (PoolEvent.sendMsg _ _) => true
  | _ => false

structure Over (s : Shutdown) : Prop where
  reached : s.Reached
  returned : s.caller = CallerPhase.returned

theorem Over.quiescent {s : Shutdown} (h : s.Over) : s.Quiescent :=
  h.reached.quiescent h.returned

theorem Over.move {s t : Shutdown} {event : ShutdownEvent} (h : s.Over)
    (hmove : Move s event t) :
    (event = ShutdownEvent.panics ∧ t.pool = s.pool ∧ t.caller = s.caller) ∨
      exists e, event = ShutdownEvent.send e ∧
        s.pool.step e = some t.pool ∧ t.caller = s.caller := by
  have hserver := h.quiescent.server
  have hended := h.quiescent.associations
  have hnot : forall {a : Nat} {phase : LoopPhase}, ¬ s.LoopAt a phase := by
    intro a phase hat
    have hrunning := hat.left
    rw [hended] at hrunning
    cases hrunning
  cases hmove with
  | sent _ hp => exact Or.inr ⟨_, rfl, hp, rfl⟩
  | panicked => exact Or.inl ⟨rfl, rfl, rfl⟩
  | accepted hphase _ => rw [hserver] at hphase; cases hphase
  | refused hphase _ => rw [hserver] at hphase; cases hphase
  | added hphase _ => rw [hserver] at hphase; cases hphase
  | pushed hphase => rw [hserver] at hphase; cases hphase
  | stopped hphase _ => rw [hserver] at hphase; cases hphase
  | closed hphase => rw [hserver] at hphase; cases hphase
  | serverDrained hphase hdrained =>
      rw [hserver] at hphase
      cases hphase
      cases hdrained
  | established hat => exact absurd hat hnot
  | arrived hat => exact absurd hat hnot
  | requested hat _ => exact absurd hat hnot
  | responded hat => exact absurd hat hnot
  | hungUp hat => exact absurd hat hnot
  | ended hat => exact absurd hat hnot
  | removed hat _ => exact absurd hat hnot
  | finished hp =>
      have hphase := (rephased_finish hp).old
      rw [hended] at hphase
      cases hphase
  | called hphase => rw [h.returned] at hphase; cases hphase
  | callerDrained hphase _ => rw [h.returned] at hphase; cases hphase
  | serverStopped hphase => rw [h.returned] at hphase; cases hphase
  | serverJoined hphase _ => rw [h.returned] at hphase; cases hphase

theorem Over.step {s t : Shutdown} {event : ShutdownEvent} (h : s.Over)
    (hstep : shutdownMachine.step s event = some t) : t.Over := by
  refine ⟨h.reached.step hstep, ?_⟩
  rcases h.move (step_move hstep) with ⟨_, _, hcaller⟩ | ⟨_, _, _, hcaller⟩
  · exact hcaller.trans h.returned
  · exact hcaller.trans h.returned

theorem Over.choseBefore {s t : Shutdown} {event : ShutdownEvent} (h : s.Over)
    (hmove : Move s event t) : ChoseBefore s.pool t.pool := by
  rcases h.move hmove with ⟨_, hpool, _⟩ | ⟨e, _, hp, _⟩
  · rw [hpool]
    exact (CallsOn.same rfl).choseBefore
  · exact (callsOn_effect h.quiescent.assocs (pool_effect hp)).choseBefore

theorem Over.settled {s t : Shutdown} {event : ShutdownEvent} (h : s.Over)
    (hmove : Move s event t) :
    settled t.pool + (if sendsMsg event then 1 else 0) <=
      settled s.pool + if sendsMsg event then 0 else 0 := by
  rcases h.move hmove with ⟨rfl, hpool, _⟩ | ⟨e, rfl, hp, _⟩
  · rw [hpool]
    exact Nat.le_refl _
  · have hle := (callsOn_effect h.quiescent.assocs (pool_effect hp)).settled_le
    cases e with
    | sendMsg k ok => exact Nat.le_of_eq (settled_sendMsg hp).right
    | _ => exact hle

/-- After the shutdown nothing but calls of `send_message` goes on, unless a
task panics.  A message is sent only by a call that had settled on its
association when the shutdown returned, and there are no more messages than such
calls. -/
theorem silent_after_shutdown (events : List ShutdownEvent) (s : Shutdown)
    (hrun : shutdownMachine.run start events = some s)
    (hreturned : s.caller = CallerPhase.returned)
    (more : List ShutdownEvent) (t : Shutdown)
    (hmore : shutdownMachine.run s more = some t) :
    t.Quiescent ∧
      (forall event, event ∈ more -> event = ShutdownEvent.panics ∨
        exists e, event = ShutdownEvent.send e) ∧
      (forall k ok, ShutdownEvent.send (PoolEvent.sendMsg k ok) ∈ more ->
        exists call a, s.pool.calls[k]? = some call ∧
          call.phase.choice = some a) ∧
      more.countP sendsMsg <=
        s.pool.calls.countP fun call => call.phase.choice.isSome := by
  have hover : s.Over := ⟨run_reached hrun, hreturned⟩
  have hkeeps : forall u event u', Over u ∧ ChoseBefore s.pool u.pool ->
      shutdownMachine.step u event = some u' ->
        Over u' ∧ ChoseBefore s.pool u'.pool := by
    intro u event u' hu hstep
    exact ⟨hu.left.step hstep,
      hu.right.trans (hu.left.choseBefore (step_move hstep))⟩
  have hstart : Over s ∧ ChoseBefore s.pool s.pool :=
    ⟨hover, (CallsOn.same rfl).choseBefore⟩
  have hend := (Machine.run_invariant hkeeps hstart hmore).left
  refine ⟨hend.quiescent, ?_, ?_, ?_⟩
  · intro event hmem
    rcases List.append_of_mem hmem with ⟨before, rest, hsplit⟩
    rw [hsplit] at hmore
    rcases Machine.run_append_some hmore with ⟨m, hm, hrest⟩
    rcases Machine.run_cons_some hrest with ⟨m', hstep, _⟩
    have hm := (Machine.run_invariant hkeeps hstart hm).left
    rcases hm.move (step_move hstep) with ⟨hpanics, _⟩ | ⟨e, hsend, _⟩
    · exact Or.inl hpanics
    · exact Or.inr ⟨e, hsend⟩
  · intro k ok hmem
    rcases List.append_of_mem hmem with ⟨before, rest, hsplit⟩
    rw [hsplit] at hmore
    rcases Machine.run_append_some hmore with ⟨m, hm, hrest⟩
    rcases Machine.run_cons_some hrest with ⟨m', hstep, _⟩
    have hchose := (Machine.run_invariant hkeeps hstart hm).right
    cases step_move hstep with
    | sent _ hp =>
        rcases (settled_sendMsg hp).left with ⟨call, a, hcall, hchoice⟩
        rcases hchose k call a hcall hchoice with ⟨call', hcall', hchoice'⟩
        exact ⟨call', a, hcall', hchoice'⟩
  · have hpaid : forall u event u', Over u ->
        shutdownMachine.step u event = some u' ->
          settled u'.pool + (if sendsMsg event then 1 else 0) <=
            settled u.pool + if sendsMsg event then 0 else 0 :=
      fun _ _ _ hu hstep => hu.settled (step_move hstep)
    have hcount := Machine.run_countP_le_mul (fun _ _ _ hu => Over.step hu)
      hpaid hover hmore
    rw [Nat.zero_mul, Nat.add_zero] at hcount
    exact Nat.le_trans (Nat.le_add_left _ _) hcount

/-- A UE task has chosen its association when the shutdown begins, and sends its
message when all is over; another one finds no association. -/
def lateMessage : List ShutdownEvent :=
  [ShutdownEvent.accept 3, ShutdownEvent.add 0, ShutdownEvent.push 0,
    ShutdownEvent.send PoolEvent.sendMessage,
    ShutdownEvent.send (PoolEvent.lookUp 0),
    ShutdownEvent.send (PoolEvent.iterate 0 (some 3)),
    ShutdownEvent.call, ShutdownEvent.callerDrain DrainMove.lock,
    ShutdownEvent.callerDrain DrainMove.take, ShutdownEvent.establish 0,
    ShutdownEvent.stopRead 0, ShutdownEvent.remove 0, ShutdownEvent.finish 0,
    ShutdownEvent.callerDrain DrainMove.join,
    ShutdownEvent.callerDrain DrainMove.release, ShutdownEvent.stopServer,
    ShutdownEvent.stop, ShutdownEvent.close,
    ShutdownEvent.serverDrain DrainMove.lock,
    ShutdownEvent.serverDrain DrainMove.release, ShutdownEvent.joinServer]

theorem silent_after_lateMessage :
    exists s t, shutdownMachine.run start lateMessage = some s ∧
      shutdownMachine.run s
        [ShutdownEvent.send (PoolEvent.choose 0),
          ShutdownEvent.send PoolEvent.sendMessage,
          ShutdownEvent.send (PoolEvent.lookUp 1),
          ShutdownEvent.send (PoolEvent.iterate 1 none),
          ShutdownEvent.send (PoolEvent.sendMsg 0 true)] = some t ∧
      t.Quiescent := by
  have hphases : ((shutdownMachine.run start lateMessage).bind fun s =>
      (shutdownMachine.run s
        [ShutdownEvent.send (PoolEvent.choose 0),
          ShutdownEvent.send PoolEvent.sendMessage,
          ShutdownEvent.send (PoolEvent.lookUp 1),
          ShutdownEvent.send (PoolEvent.iterate 1 none),
          ShutdownEvent.send (PoolEvent.sendMsg 0 true)]).map fun _ =>
        s.caller) = some CallerPhase.returned := by
    decide +kernel
  rcases Option.bind_eq_some_iff.mp hphases with ⟨s, hrun, hlater⟩
  rcases Option.map_eq_some_iff.mp hlater with ⟨t, hmore, hcaller⟩
  exact ⟨s, t, hrun, hmore,
    (silent_after_shutdown lateMessage s hrun hcaller _ t hmore).1⟩

end Shutdown
end Stack
end QCore
