import QCore.Foundation.Completion
import QCore.Stack.TnlaPool

/-!
# Graceful shutdown

`QCore::graceful_shutdown` first shuts down the associations that are up, and
then the task of `serve`, which closes the listener and shuts down the
associations that have come up in the meantime.  Both shut down the associations
with `SctpTnlaPool::graceful_shutdown`, which has the lock on the list of tasks
until it has joined the last one.

The machine here adds the listener's task, the caller of the shutdown and the
loops of `handle_assoc` to the machine of the pool.  A label is one step of one
task, so a run is an interleaving.  Any task can panic, and `main` has a hook
that ends the process then.
-/

namespace QCore
namespace Stack

open Foundation

/-- Where a call of `SctpTnlaPool::graceful_shutdown` is. -/
inductive DrainPhase where
  | locking
  | draining
  /-- The stop source of the task is dropped, and its handle awaited. -/
  | joining (a : Nat)
  | returned
deriving DecidableEq, Repr

/-- The guard of the lock lives as long as the loop over the tasks. -/
def DrainPhase.holds : DrainPhase -> Bool
  | draining => true
  | joining _ => true
  | _ => false

def DrainPhase.joined : DrainPhase -> Option Nat
  | joining a => some a
  | _ => none

inductive DrainMove where
  | lock
  | take
  | join
  | release
deriving DecidableEq, Repr

/-- Where the task of `serve` is. -/
inductive ServerPhase where
  | accepting
  | accepted (a : Nat)
  /-- The task of the association is spawned and not in the list of tasks. -/
  | pushing (a : Nat)
  | closing
  | draining (d : DrainPhase)
deriving DecidableEq, Repr

def ServerPhase.holds : ServerPhase -> Bool
  | draining d => d.holds
  | _ => false

def ServerPhase.held : ServerPhase -> Option Nat
  | pushing a => some a
  | draining d => d.joined
  | _ => none

def ServerPhase.past : ServerPhase -> Bool
  | closing => true
  | draining _ => true
  | _ => false

/-- Where `QCore::graceful_shutdown` is. -/
inductive CallerPhase where
  | idle
  | pool (d : DrainPhase)
  | joiningServer
  | returned
deriving DecidableEq, Repr

def CallerPhase.holds : CallerPhase -> Bool
  | pool d => d.holds
  | _ => false

def CallerPhase.held : CallerPhase -> Option Nat
  | pool d => d.joined
  | _ => none

inductive TnlaEvent where
  | established
  | terminated
deriving DecidableEq, Repr

/-- Where a task in `handle_assoc` is, while its association is in the map. -/
inductive LoopPhase where
  | spawned
  | waiting
  /-- In `handle_message`. -/
  | handling
  | leaving
deriving DecidableEq, Repr

structure Shutdown where
  pool : TnlaPool
  tasks : List Nat
  /-- The associations whose stop source is dropped. -/
  stopped : List Nat
  loop : Nat -> LoopPhase
  /-- The calls of `handle_event`. -/
  reports : List (Nat × TnlaEvent)
  server : ServerPhase
  serverStopped : Bool
  listening : Bool
  caller : CallerPhase
  exited : Bool

inductive ShutdownEvent where
  /-- A step of a call of `send_message`. -/
  | send (event : PoolEvent)
  | accept (fd : Int32)
  /-- The options of the accepted socket cannot be set. -/
  | refuse (a : Nat)
  | add (a : Nat)
  | push (a : Nat)
  | stop
  | close
  | serverDrain (move : DrainMove)
  | establish (a : Nat)
  /-- The stream of an association has a message. -/
  | next (a : Nat)
  /-- The message is a request, or the response to one. -/
  | handle (a : Nat) (request : Bool)
  /-- Some task panics, in `handle_message` or elsewhere. -/
  | panics
  | hangUp (a : Nat)
  /-- The stream ends because of the stop token. -/
  | stopRead (a : Nat)
  | remove (a : Nat)
  | finish (a : Nat)
  | call
  | callerDrain (move : DrainMove)
  | stopServer
  | joinServer

def PoolEvent.isSend : PoolEvent -> Bool
  | sendMessage => true
  | lookUp _ => true
  | iterate _ _ => true
  | choose _ => true
  | sendMsg _ _ => true
  | _ => false

namespace Shutdown

/-- `QCore::start` has returned. -/
def start : Shutdown where
  pool := TnlaPool.start
  tasks := []
  stopped := []
  loop _ := LoopPhase.spawned
  reports := []
  server := ServerPhase.accepting
  serverStopped := false
  listening := true
  caller := CallerPhase.idle
  exited := false

def locked (s : Shutdown) : Bool :=
  s.caller.holds || s.server.holds

/-- `for task in self.tasks.lock().await.drain(..)` -/
def drain (s : Shutdown) (d : DrainPhase) :
    DrainMove -> Option (DrainPhase × Shutdown)
  | DrainMove.lock =>
      if d = DrainPhase.locking ∧ s.locked = false then
        some (DrainPhase.draining, s)
      else
        none
  | DrainMove.take =>
      match s.tasks with
      | a :: rest =>
          if d = DrainPhase.draining then
            some (DrainPhase.joining a,
              { s with tasks := rest, stopped := a :: s.stopped })
          else
            none
      | [] => none
  | DrainMove.join =>
      match d with
      | DrainPhase.joining a =>
          if s.pool.phaseOf a = AssocPhase.ended then
            some (DrainPhase.draining, s)
          else
            none
      | _ => none
  | DrainMove.release =>
      if d = DrainPhase.draining ∧ s.tasks = [] then
        some (DrainPhase.returned, s)
      else
        none

def onPool (s : Shutdown) (event : PoolEvent) : Option Shutdown :=
  (s.pool.step event).map fun p => { s with pool := p }

def setLoop (s : Shutdown) (a : Nat) (phase : LoopPhase) : Shutdown :=
  { s with loop := Function.update s.loop a phase }

def report (s : Shutdown) (a : Nat) (event : TnlaEvent) : Shutdown :=
  { s with reports := s.reports ++ [(a, event)] }

/-- The task of the association is at this point of `handle_assoc`. -/
def LoopAt (s : Shutdown) (a : Nat) (phase : LoopPhase) : Prop :=
  s.pool.phaseOf a = AssocPhase.running ∧ s.loop a = phase

instance (s : Shutdown) (a : Nat) (phase : LoopPhase) :
    Decidable (s.LoopAt a phase) :=
  inferInstanceAs (Decidable (_ ∧ _))

def act (s : Shutdown) : ShutdownEvent -> Option Shutdown
  | ShutdownEvent.send event => if event.isSend then s.onPool event else none
  | ShutdownEvent.accept fd =>
      if s.server = ServerPhase.accepting then
        (s.onPool (PoolEvent.accept fd)).map fun t =>
          { t with server := ServerPhase.accepted s.pool.associations.length }
      else
        none
  | ShutdownEvent.refuse a =>
      if s.server = ServerPhase.accepted a then
        (s.onPool (PoolEvent.discard a)).map fun t =>
          { t with server := ServerPhase.accepting }
      else
        none
  | ShutdownEvent.add a =>
      if s.server = ServerPhase.accepted a then
        (s.onPool (PoolEvent.addAndHandle a)).map fun t =>
          { t.setLoop a LoopPhase.spawned with
            server := ServerPhase.pushing a }
      else
        none
  | ShutdownEvent.push a =>
      if s.server = ServerPhase.pushing a ∧ s.locked = false then
        some { s with
          tasks := s.tasks ++ [a]
          server := ServerPhase.accepting }
      else
        none
  -- `select!` may go on accepting when both of its branches are ready.
  | ShutdownEvent.stop =>
      if s.server = ServerPhase.accepting ∧ s.serverStopped = true then
        some { s with server := ServerPhase.closing }
      else
        none
  | ShutdownEvent.close =>
      if s.server = ServerPhase.closing then
        some { s with
          listening := false
          server := ServerPhase.draining DrainPhase.locking }
      else
        none
  | ShutdownEvent.serverDrain move =>
      match s.server with
      | ServerPhase.draining d =>
          (s.drain d move).map fun (d', t) =>
            { t with server := ServerPhase.draining d' }
      | _ => none
  | ShutdownEvent.establish a =>
      if s.LoopAt a LoopPhase.spawned then
        some ((s.setLoop a LoopPhase.waiting).report a TnlaEvent.established)
      else
        none
  -- `take_until` looks at the stop token before it looks at the stream.
  | ShutdownEvent.next a =>
      if s.LoopAt a LoopPhase.waiting ∧ a ∉ s.stopped then
        some (s.setLoop a LoopPhase.handling)
      else
        none
  | ShutdownEvent.handle a request =>
      if s.LoopAt a LoopPhase.handling then
        (if request then s.onPool (PoolEvent.handleMessage a) else some s).map
          fun t => t.setLoop a LoopPhase.waiting
      else
        none
  | ShutdownEvent.panics => some { s with exited := true }
  | ShutdownEvent.hangUp a =>
      if s.LoopAt a LoopPhase.waiting then
        some ((s.setLoop a LoopPhase.leaving).report a TnlaEvent.terminated)
      else
        none
  | ShutdownEvent.stopRead a =>
      if s.LoopAt a LoopPhase.waiting ∧ a ∈ s.stopped then
        some ((s.setLoop a LoopPhase.leaving).report a TnlaEvent.terminated)
      else
        none
  | ShutdownEvent.remove a =>
      if s.LoopAt a LoopPhase.leaving then s.onPool (PoolEvent.remove a)
      else none
  | ShutdownEvent.finish a => s.onPool (PoolEvent.finish a)
  | ShutdownEvent.call =>
      if s.caller = CallerPhase.idle then
        some { s with caller := CallerPhase.pool DrainPhase.locking }
      else
        none
  | ShutdownEvent.callerDrain move =>
      match s.caller with
      | CallerPhase.pool d =>
          (s.drain d move).map fun (d', t) =>
            { t with caller := CallerPhase.pool d' }
      | _ => none
  | ShutdownEvent.stopServer =>
      if s.caller = CallerPhase.pool DrainPhase.returned then
        some { s with
          serverStopped := true
          caller := CallerPhase.joiningServer }
      else
        none
  | ShutdownEvent.joinServer =>
      if s.caller = CallerPhase.joiningServer ∧
          s.server = ServerPhase.draining DrainPhase.returned then
        some { s with caller := CallerPhase.returned }
      else
        none

def step (s : Shutdown) (event : ShutdownEvent) : Option Shutdown :=
  if s.exited then none else s.act event

end Shutdown

def shutdownMachine : Machine Shutdown ShutdownEvent where
  step := Shutdown.step

namespace Shutdown

/-!
## What a step does
-/

inductive Drained (s : Shutdown) : DrainPhase -> DrainMove -> DrainPhase ->
    List Nat -> List Nat -> Prop where
  | locked :
      s.locked = false ->
      Drained s DrainPhase.locking DrainMove.lock DrainPhase.draining s.tasks
        s.stopped
  | taken {a : Nat} {rest : List Nat} :
      s.tasks = a :: rest ->
      Drained s DrainPhase.draining DrainMove.take (DrainPhase.joining a) rest
        (a :: s.stopped)
  | joined {a : Nat} :
      s.pool.phaseOf a = AssocPhase.ended ->
      Drained s (DrainPhase.joining a) DrainMove.join DrainPhase.draining
        s.tasks s.stopped
  | released :
      s.tasks = [] ->
      Drained s DrainPhase.draining DrainMove.release DrainPhase.returned
        s.tasks s.stopped

theorem drain_drained {s t : Shutdown} {d d' : DrainPhase} {move : DrainMove}
    (h : s.drain d move = some (d', t)) :
    exists tasks stopped, Drained s d move d' tasks stopped ∧
      t = { s with tasks := tasks, stopped := stopped } := by
  cases move with
  | lock =>
      simp only [drain, Option.ite_none_right_eq_some] at h
      rcases h with ⟨⟨hd, hlocked⟩, heq⟩
      cases heq
      subst hd
      exact ⟨_, _, Drained.locked hlocked, rfl⟩
  | take =>
      cases htasks : s.tasks with
      | nil => simp [drain, htasks] at h
      | cons a rest =>
          simp only [drain, htasks, Option.ite_none_right_eq_some] at h
          rcases h with ⟨hd, heq⟩
          cases heq
          subst hd
          exact ⟨_, _, Drained.taken htasks, rfl⟩
  | join =>
      cases d with
      | joining a =>
          simp only [drain, Option.ite_none_right_eq_some] at h
          rcases h with ⟨hended, heq⟩
          cases heq
          exact ⟨_, _, Drained.joined hended, rfl⟩
      | _ => simp [drain] at h
  | release =>
      simp only [drain, Option.ite_none_right_eq_some] at h
      rcases h with ⟨⟨hd, htasks⟩, heq⟩
      cases heq
      subst hd
      exact ⟨_, _, Drained.released htasks, rfl⟩

inductive Move (s : Shutdown) : ShutdownEvent -> Shutdown -> Prop where
  | sent {event : PoolEvent} {p : TnlaPool} :
      event.isSend = true -> s.pool.step event = some p ->
      Move s (ShutdownEvent.send event) { s with pool := p }
  | accepted {fd : Int32} {p : TnlaPool} :
      s.server = ServerPhase.accepting ->
      s.pool.step (PoolEvent.accept fd) = some p ->
      Move s (ShutdownEvent.accept fd)
        { s with
          pool := p
          server := ServerPhase.accepted s.pool.associations.length }
  | refused {a : Nat} {p : TnlaPool} :
      s.server = ServerPhase.accepted a ->
      s.pool.step (PoolEvent.discard a) = some p ->
      Move s (ShutdownEvent.refuse a)
        { s with pool := p, server := ServerPhase.accepting }
  | added {a : Nat} {p : TnlaPool} :
      s.server = ServerPhase.accepted a ->
      s.pool.step (PoolEvent.addAndHandle a) = some p ->
      Move s (ShutdownEvent.add a)
        { s.setLoop a LoopPhase.spawned with
          pool := p
          server := ServerPhase.pushing a }
  | pushed {a : Nat} :
      s.server = ServerPhase.pushing a ->
      Move s (ShutdownEvent.push a)
        { s with tasks := s.tasks ++ [a], server := ServerPhase.accepting }
  | stopped :
      s.server = ServerPhase.accepting -> s.serverStopped = true ->
      Move s ShutdownEvent.stop { s with server := ServerPhase.closing }
  | closed :
      s.server = ServerPhase.closing ->
      Move s ShutdownEvent.close
        { s with
          listening := false
          server := ServerPhase.draining DrainPhase.locking }
  | serverDrained {d d' : DrainPhase} {move : DrainMove}
      {tasks stopped : List Nat} :
      s.server = ServerPhase.draining d ->
      Drained s d move d' tasks stopped ->
      Move s (ShutdownEvent.serverDrain move)
        { s with
          tasks := tasks
          stopped := stopped
          server := ServerPhase.draining d' }
  | established {a : Nat} :
      s.LoopAt a LoopPhase.spawned ->
      Move s (ShutdownEvent.establish a)
        ((s.setLoop a LoopPhase.waiting).report a TnlaEvent.established)
  | arrived {a : Nat} :
      s.LoopAt a LoopPhase.waiting ->
      Move s (ShutdownEvent.next a) (s.setLoop a LoopPhase.handling)
  | requested {a : Nat} {p : TnlaPool} :
      s.LoopAt a LoopPhase.handling ->
      s.pool.step (PoolEvent.handleMessage a) = some p ->
      Move s (ShutdownEvent.handle a true)
        { s.setLoop a LoopPhase.waiting with pool := p }
  | responded {a : Nat} :
      s.LoopAt a LoopPhase.handling ->
      Move s (ShutdownEvent.handle a false) (s.setLoop a LoopPhase.waiting)
  | panicked :
      Move s ShutdownEvent.panics { s with exited := true }
  | hungUp {a : Nat} :
      s.LoopAt a LoopPhase.waiting ->
      Move s (ShutdownEvent.hangUp a)
        ((s.setLoop a LoopPhase.leaving).report a TnlaEvent.terminated)
  | ended {a : Nat} :
      s.LoopAt a LoopPhase.waiting ->
      Move s (ShutdownEvent.stopRead a)
        ((s.setLoop a LoopPhase.leaving).report a TnlaEvent.terminated)
  | removed {a : Nat} {p : TnlaPool} :
      s.LoopAt a LoopPhase.leaving ->
      s.pool.step (PoolEvent.remove a) = some p ->
      Move s (ShutdownEvent.remove a) { s with pool := p }
  | finished {a : Nat} {p : TnlaPool} :
      s.pool.step (PoolEvent.finish a) = some p ->
      Move s (ShutdownEvent.finish a) { s with pool := p }
  | called :
      s.caller = CallerPhase.idle ->
      Move s ShutdownEvent.call
        { s with caller := CallerPhase.pool DrainPhase.locking }
  | callerDrained {d d' : DrainPhase} {move : DrainMove}
      {tasks stopped : List Nat} :
      s.caller = CallerPhase.pool d ->
      Drained s d move d' tasks stopped ->
      Move s (ShutdownEvent.callerDrain move)
        { s with
          tasks := tasks
          stopped := stopped
          caller := CallerPhase.pool d' }
  | serverStopped :
      s.caller = CallerPhase.pool DrainPhase.returned ->
      Move s ShutdownEvent.stopServer
        { s with serverStopped := true, caller := CallerPhase.joiningServer }
  | serverJoined :
      s.caller = CallerPhase.joiningServer ->
      s.server = ServerPhase.draining DrainPhase.returned ->
      Move s ShutdownEvent.joinServer { s with caller := CallerPhase.returned }

theorem onPool_some {s t : Shutdown} {event : PoolEvent}
    (h : s.onPool event = some t) :
    exists p, s.pool.step event = some p ∧ t = { s with pool := p } := by
  rcases Option.map_eq_some_iff.mp h with ⟨p, hp, ht⟩
  exact ⟨p, hp, ht.symm⟩

theorem onPool_map_some {s t : Shutdown} {event : PoolEvent}
    {f : Shutdown -> Shutdown} (h : (s.onPool event).map f = some t) :
    exists p, s.pool.step event = some p ∧ t = f { s with pool := p } := by
  rcases Option.map_eq_some_iff.mp h with ⟨u, hu, ht⟩
  rcases onPool_some hu with ⟨p, hp, heq⟩
  rw [heq] at ht
  exact ⟨p, hp, ht.symm⟩

theorem act_move {s t : Shutdown} {event : ShutdownEvent}
    (h : s.act event = some t) : Move s event t := by
  cases event with
  | send event =>
      simp only [act, Option.ite_none_right_eq_some] at h
      rcases onPool_some h.right with ⟨p, hp, ht⟩
      rw [ht]
      exact Move.sent h.left hp
  | accept fd =>
      simp only [act, Option.ite_none_right_eq_some] at h
      rcases onPool_map_some h.right with ⟨p, hp, ht⟩
      rw [ht]
      exact Move.accepted h.left hp
  | refuse a =>
      simp only [act, Option.ite_none_right_eq_some] at h
      rcases onPool_map_some h.right with ⟨p, hp, ht⟩
      rw [ht]
      exact Move.refused h.left hp
  | add a =>
      simp only [act, Option.ite_none_right_eq_some] at h
      rcases onPool_map_some h.right with ⟨p, hp, ht⟩
      rw [ht]
      exact Move.added h.left hp
  | push a =>
      simp only [act, Option.ite_none_right_eq_some] at h
      cases h.right
      exact Move.pushed h.left.left
  | stop =>
      simp only [act, Option.ite_none_right_eq_some] at h
      cases h.right
      exact Move.stopped h.left.left h.left.right
  | close =>
      simp only [act, Option.ite_none_right_eq_some] at h
      cases h.right
      exact Move.closed h.left
  | serverDrain move =>
      cases hserver : s.server with
      | draining d =>
          simp only [act, hserver] at h
          rcases Option.map_eq_some_iff.mp h with ⟨⟨d', u⟩, hu, ht⟩
          rcases drain_drained hu with ⟨tasks, stopped, hdrained, heq⟩
          rw [← ht, heq]
          exact Move.serverDrained hserver hdrained
      | _ => simp [act, hserver] at h
  | establish a =>
      simp only [act, Option.ite_none_right_eq_some] at h
      cases h.right
      exact Move.established h.left
  | next a =>
      simp only [act, Option.ite_none_right_eq_some] at h
      cases h.right
      exact Move.arrived h.left.left
  | handle a request =>
      simp only [act, Option.ite_none_right_eq_some] at h
      cases request with
      | true =>
          rcases onPool_map_some h.right with ⟨p, hp, ht⟩
          rw [ht]
          exact Move.requested h.left hp
      | false =>
          cases h.right
          exact Move.responded h.left
  | panics =>
      cases h
      exact Move.panicked
  | hangUp a =>
      simp only [act, Option.ite_none_right_eq_some] at h
      cases h.right
      exact Move.hungUp h.left
  | stopRead a =>
      simp only [act, Option.ite_none_right_eq_some] at h
      cases h.right
      exact Move.ended h.left.left
  | remove a =>
      simp only [act, Option.ite_none_right_eq_some] at h
      rcases onPool_some h.right with ⟨p, hp, ht⟩
      rw [ht]
      exact Move.removed h.left hp
  | finish a =>
      rcases onPool_some h with ⟨p, hp, ht⟩
      rw [ht]
      exact Move.finished hp
  | call =>
      simp only [act, Option.ite_none_right_eq_some] at h
      cases h.right
      exact Move.called h.left
  | callerDrain move =>
      cases hcaller : s.caller with
      | pool d =>
          simp only [act, hcaller] at h
          rcases Option.map_eq_some_iff.mp h with ⟨⟨d', u⟩, hu, ht⟩
          rcases drain_drained hu with ⟨tasks, stopped, hdrained, heq⟩
          rw [← ht, heq]
          exact Move.callerDrained hcaller hdrained
      | _ => simp [act, hcaller] at h
  | stopServer =>
      simp only [act, Option.ite_none_right_eq_some] at h
      cases h.right
      exact Move.serverStopped h.left
  | joinServer =>
      simp only [act, Option.ite_none_right_eq_some] at h
      cases h.right
      exact Move.serverJoined h.left.left h.left.right

theorem step_some {s t : Shutdown} {event : ShutdownEvent}
    (h : shutdownMachine.step s event = some t) :
    s.exited = false ∧ s.act event = some t := by
  change (if s.exited then none else s.act event) = some t at h
  cases hexited : s.exited with
  | true => simp [hexited] at h
  | false =>
      rw [hexited] at h
      exact ⟨rfl, h⟩

theorem step_move {s t : Shutdown} {event : ShutdownEvent}
    (h : shutdownMachine.step s event = some t) : Move s event t :=
  act_move (step_some h).right

/-!
## The pool within the shutdown
-/

def poolEvent : ShutdownEvent -> Option PoolEvent
  | ShutdownEvent.send event => some event
  | ShutdownEvent.accept fd => some (PoolEvent.accept fd)
  | ShutdownEvent.refuse a => some (PoolEvent.discard a)
  | ShutdownEvent.add a => some (PoolEvent.addAndHandle a)
  | ShutdownEvent.handle a true => some (PoolEvent.handleMessage a)
  | ShutdownEvent.remove a => some (PoolEvent.remove a)
  | ShutdownEvent.finish a => some (PoolEvent.finish a)
  | _ => none

theorem poolMachine_run_one {p q : TnlaPool} {event : PoolEvent}
    (h : p.step event = some q) : poolMachine.run p [event] = some q :=
  (Machine.run_cons_of_step (M := poolMachine) [] h).trans rfl

theorem run_pool {s t : Shutdown} {events : List ShutdownEvent}
    (h : shutdownMachine.run s events = some t) :
    poolMachine.run s.pool (events.filterMap poolEvent) = some t.pool := by
  refine Machine.run_simulates (N := poolMachine) ?_ h
  intro s event s' hstep
  cases step_move hstep with
  | sent _ hp => exact poolMachine_run_one hp
  | accepted _ hp => exact poolMachine_run_one hp
  | refused _ hp => exact poolMachine_run_one hp
  | added _ hp => exact poolMachine_run_one hp
  | requested _ hp => exact poolMachine_run_one hp
  | removed _ hp => exact poolMachine_run_one hp
  | finished hp => exact poolMachine_run_one hp
  | _ => rfl

theorem owned_step {s t : Shutdown} {event : ShutdownEvent}
    (h : s.pool.Owned) (hstep : shutdownMachine.step s event = some t) :
    t.pool.Owned := by
  have hrun : shutdownMachine.run s [event] = some t :=
    (Machine.run_cons_of_step [] hstep).trans rfl
  apply Machine.run_invariant (M := poolMachine) _ h (run_pool hrun)
  intro p event q hp hq
  exact TnlaPool.owned_effect hp (TnlaPool.step_effect hq)

end Shutdown
end Stack
end QCore
