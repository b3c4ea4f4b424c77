import QCore.Stack.Shutdown

/-!
# Shutdown leaves nothing behind

Every task of an association has a handle that someone is going to join, from
before the task is in the list of tasks until it has ended.  With the order of
the phases this gives the result: when `QCore::graceful_shutdown` returns, the
listener is closed, no association is left, and none can come up again; and each
association that came up was reported as established, and then as terminated.
-/

namespace QCore
namespace Stack

open Foundation

def wholeLife : List TnlaEvent :=
  [TnlaEvent.established, TnlaEvent.terminated]

def LoopPhase.told : LoopPhase -> List TnlaEvent
  | spawned => []
  | waiting => [TnlaEvent.established]
  | handling => [TnlaEvent.established]
  | leaving => wholeLife

namespace Shutdown

/-!
## Phases of associations
-/

theorem pool_effect {p q : TnlaPool} {event : PoolEvent}
    (h : p.step event = some q) : TnlaPool.Effect p event q :=
  TnlaPool.step_effect (s := p) h

structure Rephased (p q : TnlaPool) (a : Nat) (old new : AssocPhase) :
    Prop where
  old : p.phaseOf a = old
  new : q.phaseOf a = new
  others : forall b, b ≠ a -> q.phaseOf b = p.phaseOf b
  grows : p.associations.length <= q.associations.length

theorem rephased_setPhase {p q : TnlaPool} {a : Nat} {x : Association}
    {new : AssocPhase} (hx : p.associations[a]? = some x)
    (hq : q.associations = (p.setPhase a x new).associations) :
    Rephased p q a x.phase new := by
  have hget := fun b => @TnlaPool.setPhase_getElem? p a b x hx new
  constructor
  · unfold TnlaPool.phaseOf
    rw [hx]
  · unfold TnlaPool.phaseOf
    rw [hq, hget a, if_pos rfl]
  · intro b hne
    unfold TnlaPool.phaseOf
    rw [hq, hget b, if_neg (Ne.symm hne)]
  · rw [hq]
    exact Nat.le_of_eq (List.length_set).symm

theorem rephased_accept {p q : TnlaPool} {fd : Int32}
    (h : p.step (PoolEvent.accept fd) = some q) :
    Rephased p q p.associations.length AssocPhase.ended AssocPhase.created ∧
      p.associations.length < q.associations.length := by
  cases pool_effect h with
  | accepted _ =>
      refine ⟨⟨?_, ?_, ?_, ?_⟩, ?_⟩
      · simp [TnlaPool.phaseOf]
      · simp [TnlaPool.phaseOf]
      · intro b hne
        have hget : (p.associations ++
            [(⟨fd, AssocPhase.created⟩ : Association)])[b]? =
              p.associations[b]? := by
          rcases Nat.lt_or_ge b p.associations.length with hlt | hge
          · exact List.getElem?_append_left hlt
          · rw [List.getElem?_eq_none hge]
            apply List.getElem?_eq_none
            rw [List.length_append, List.length_singleton]
            lia
        unfold TnlaPool.phaseOf
        rw [hget]
      · simp
      · simp

theorem rephased_discard {p q : TnlaPool} {a : Nat}
    (h : p.step (PoolEvent.discard a) = some q) :
    Rephased p q a AssocPhase.created AssocPhase.ended := by
  cases pool_effect h with
  | discarded hx hphase =>
      rw [← hphase]
      exact rephased_setPhase hx rfl

theorem rephased_add {p q : TnlaPool} {a : Nat}
    (h : p.step (PoolEvent.addAndHandle a) = some q) :
    Rephased p q a AssocPhase.created AssocPhase.running ∧
      a < q.associations.length := by
  cases pool_effect h with
  | added hx hphase =>
      rename_i x
      have hrephased : Rephased p
          { p.setPhase a x AssocPhase.running with
            assocs := p.assocs.insert x.id a } a x.phase AssocPhase.running :=
        rephased_setPhase hx rfl
      rw [hphase] at hrephased
      refine ⟨hrephased, ?_⟩
      exact Nat.lt_of_lt_of_le (List.getElem?_eq_some_iff.mp hx).1
        hrephased.grows

theorem rephased_remove {p q : TnlaPool} {a : Nat}
    (h : p.step (PoolEvent.remove a) = some q) :
    Rephased p q a AssocPhase.running AssocPhase.removed := by
  cases pool_effect h with
  | removed hx hphase =>
      rw [← hphase]
      exact rephased_setPhase hx rfl

theorem rephased_finish {p q : TnlaPool} {a : Nat}
    (h : p.step (PoolEvent.finish a) = some q) :
    Rephased p q a AssocPhase.removed AssocPhase.ended := by
  cases pool_effect h with
  | finished hx hphase =>
      rw [← hphase]
      exact rephased_setPhase hx rfl

theorem associations_request {p q : TnlaPool} {a : Nat}
    (h : p.step (PoolEvent.handleMessage a) = some q) :
    q.associations = p.associations := by
  cases pool_effect h with
  | requested _ _ => rfl

theorem associations_send {p q : TnlaPool} {event : PoolEvent}
    (hsend : event.isSend = true) (h : p.step event = some q) :
    q.associations = p.associations := by
  cases pool_effect h with
  | accepted _ => cases hsend
  | discarded _ _ => cases hsend
  | added _ _ => cases hsend
  | requested _ _ => cases hsend
  | removed _ _ => cases hsend
  | finished _ _ => cases hsend
  | _ => rfl

/-!
## Every task has a handle
-/

def Handled (s : Shutdown) (a : Nat) : Prop :=
  a ∈ s.tasks ∨ s.caller.held = some a ∨ s.server.held = some a

structure Tracked (s : Shutdown) : Prop where
  created : forall a, s.pool.phaseOf a = AssocPhase.created <->
    s.server = ServerPhase.accepted a
  working : forall a, s.pool.phaseOf a = AssocPhase.running ∨
    s.pool.phaseOf a = AssocPhase.removed -> s.Handled a
  handled : forall a, s.Handled a -> a < s.pool.associations.length

theorem tracked_start : Tracked start where
  created a := by
    constructor
    · intro h
      cases h
    · intro h
      cases h
  working a h := by
    rcases h with h | h
    · cases h
    · cases h
  handled a h := by
    rcases h with h | h | h
    · cases h
    · cases h
    · cases h

theorem Tracked.same {s t : Shutdown} (h : s.Tracked)
    (hassociations : t.pool.associations = s.pool.associations)
    (hserver : forall a, t.server = ServerPhase.accepted a <->
      s.server = ServerPhase.accepted a)
    (hhandled : forall a, t.Handled a <-> s.Handled a) : t.Tracked := by
  have hphase : forall a, t.pool.phaseOf a = s.pool.phaseOf a := by
    intro a
    unfold TnlaPool.phaseOf
    rw [hassociations]
  constructor
  · intro a
    rw [hphase, hserver]
    exact h.created a
  · intro a hworking
    rw [hphase] at hworking
    exact (hhandled a).mpr (h.working a hworking)
  · intro a ha
    rw [hassociations]
    exact h.handled a ((hhandled a).mp ha)

theorem Tracked.worked {s : Shutdown} {p : TnlaPool} {a : Nat}
    {old new : AssocPhase} (h : s.Tracked)
    (hrephased : Rephased s.pool p a old new)
    (hold : old = AssocPhase.running ∨ old = AssocPhase.removed)
    (hnew : new ≠ AssocPhase.created) : Tracked { s with pool := p } := by
  have hsplit : forall b, b ≠ a -> p.phaseOf b = s.pool.phaseOf b :=
    hrephased.others
  have ha : s.Handled a := by
    apply h.working a
    rw [hrephased.old]
    exact hold
  constructor
  · intro b
    cases decEq b a with
    | isTrue heq =>
        subst heq
        rw [hrephased.new, ← h.created b, hrephased.old]
        constructor
        · exact fun hcreated => absurd hcreated hnew
        · intro hcreated
          rcases hold with hrunning | hremoved
          · rw [hrunning] at hcreated
            cases hcreated
          · rw [hremoved] at hcreated
            cases hcreated
    | isFalse hne =>
        rw [hsplit b hne]
        exact h.created b
  · intro b hworking
    cases decEq b a with
    | isTrue heq =>
        subst heq
        exact ha
    | isFalse hne =>
        rw [hsplit b hne] at hworking
        exact h.working b hworking
  · intro b hb
    exact Nat.lt_of_lt_of_le (h.handled b hb) hrephased.grows

theorem tracked_accepted {s : Shutdown} {p : TnlaPool} {fd : Int32}
    (h : s.Tracked) (hserver : s.server = ServerPhase.accepting)
    (hp : s.pool.step (PoolEvent.accept fd) = some p) :
    Tracked { s with
      pool := p
      server := ServerPhase.accepted s.pool.associations.length } := by
  rcases rephased_accept hp with ⟨hrephased, hlength⟩
  have hhandled : forall b, Handled { s with
      pool := p
      server := ServerPhase.accepted s.pool.associations.length } b ->
        s.Handled b := by
    intro b hb
    rcases hb with htask | hcaller | hheld
    · exact Or.inl htask
    · exact Or.inr (Or.inl hcaller)
    · cases hheld
  constructor
  · intro b
    cases decEq b s.pool.associations.length with
    | isTrue heq =>
        subst heq
        exact ⟨fun _ => rfl, fun _ => hrephased.new⟩
    | isFalse hne =>
        change p.phaseOf b = _ <-> _
        rw [hrephased.others b hne, h.created b, hserver]
        constructor
        · intro hb
          cases hb
        · intro hb
          cases hb
          exact absurd rfl hne
  · intro b hworking
    change p.phaseOf b = _ ∨ p.phaseOf b = _ at hworking
    cases decEq b s.pool.associations.length with
    | isTrue heq =>
        rw [heq, hrephased.new] at hworking
        rcases hworking with hb | hb
        · cases hb
        · cases hb
    | isFalse hne =>
        rw [hrephased.others b hne] at hworking
        rcases h.working b hworking with htask | hcaller | hheld
        · exact Or.inl htask
        · exact Or.inr (Or.inl hcaller)
        · rw [hserver] at hheld
          cases hheld
  · intro b hb
    exact Nat.lt_trans (h.handled b (hhandled b hb)) hlength

theorem tracked_refused {s : Shutdown} {p : TnlaPool} {a : Nat}
    (h : s.Tracked) (hserver : s.server = ServerPhase.accepted a)
    (hp : s.pool.step (PoolEvent.discard a) = some p) :
    Tracked { s with pool := p, server := ServerPhase.accepting } := by
  have hrephased := rephased_discard hp
  have hothers : forall b, b ≠ a -> s.pool.phaseOf b ≠ AssocPhase.created := by
    intro b hne hcreated
    have hb := (h.created b).mp hcreated
    rw [hserver] at hb
    cases hb
    exact hne rfl
  constructor
  · intro b
    change p.phaseOf b = _ <-> _
    constructor
    · intro hcreated
      cases decEq b a with
      | isTrue heq =>
          rw [heq, hrephased.new] at hcreated
          cases hcreated
      | isFalse hne =>
          rw [hrephased.others b hne] at hcreated
          exact absurd hcreated (hothers b hne)
    · intro hb
      cases hb
  · intro b hworking
    change p.phaseOf b = _ ∨ p.phaseOf b = _ at hworking
    cases decEq b a with
    | isTrue heq =>
        rw [heq, hrephased.new] at hworking
        rcases hworking with hb | hb
        · cases hb
        · cases hb
    | isFalse hne =>
        rw [hrephased.others b hne] at hworking
        rcases h.working b hworking with htask | hcaller | hheld
        · exact Or.inl htask
        · exact Or.inr (Or.inl hcaller)
        · rw [hserver] at hheld
          cases hheld
  · intro b hb
    apply Nat.lt_of_lt_of_le (h.handled b _) hrephased.grows
    rcases hb with htask | hcaller | hheld
    · exact Or.inl htask
    · exact Or.inr (Or.inl hcaller)
    · cases hheld

theorem tracked_added {s : Shutdown} {p : TnlaPool} {a : Nat}
    (h : s.Tracked) (hserver : s.server = ServerPhase.accepted a)
    (hp : s.pool.step (PoolEvent.addAndHandle a) = some p) :
    Tracked { s.setLoop a LoopPhase.spawned with
      pool := p
      server := ServerPhase.pushing a } := by
  rcases rephased_add hp with ⟨hrephased, hlength⟩
  constructor
  · intro b
    change p.phaseOf b = _ <-> _
    constructor
    · intro hcreated
      cases decEq b a with
      | isTrue heq =>
          rw [heq, hrephased.new] at hcreated
          cases hcreated
      | isFalse hne =>
          rw [hrephased.others b hne, h.created b, hserver] at hcreated
          cases hcreated
          exact absurd rfl hne
    · intro hb
      cases hb
  · intro b hworking
    change p.phaseOf b = _ ∨ p.phaseOf b = _ at hworking
    cases decEq b a with
    | isTrue heq => exact Or.inr (Or.inr (congrArg some heq.symm))
    | isFalse hne =>
        rw [hrephased.others b hne] at hworking
        rcases h.working b hworking with htask | hcaller | hheld
        · exact Or.inl htask
        · exact Or.inr (Or.inl hcaller)
        · rw [hserver] at hheld
          cases hheld
  · intro b hb
    rcases hb with htask | hcaller | hheld
    · exact Nat.lt_of_lt_of_le (h.handled b (Or.inl htask)) hrephased.grows
    · exact Nat.lt_of_lt_of_le (h.handled b (Or.inr (Or.inl hcaller)))
        hrephased.grows
    · cases hheld
      exact hlength

theorem tracked_pushed {s : Shutdown} {a : Nat} (h : s.Tracked)
    (hserver : s.server = ServerPhase.pushing a) :
    Tracked { s with
      tasks := s.tasks ++ [a]
      server := ServerPhase.accepting } := by
  refine h.same rfl ?_ ?_
  · intro b
    rw [hserver]
    constructor
    · intro hb
      cases hb
    · intro hb
      cases hb
  · intro b
    constructor
    · intro hb
      rcases hb with htask | hcaller | hheld
      · rcases List.mem_append.mp htask with hold | hnew
        · exact Or.inl hold
        · rw [List.mem_singleton.mp hnew]
          exact Or.inr (Or.inr (by rw [hserver]; rfl))
      · exact Or.inr (Or.inl hcaller)
      · cases hheld
    · intro hb
      rcases hb with htask | hcaller | hheld
      · exact Or.inl (List.mem_append_left _ htask)
      · exact Or.inr (Or.inl hcaller)
      · rw [hserver] at hheld
        cases hheld
        exact Or.inl (List.mem_append_right _ (List.mem_singleton_self a))

theorem Drained.handles {s : Shutdown} {d d' : DrainPhase} {move : DrainMove}
    {tasks stopped : List Nat} (h : Drained s d move d' tasks stopped)
    (a : Nat) :
    (a ∈ tasks ∨ d'.joined = some a -> a ∈ s.tasks ∨ d.joined = some a) ∧
      (a ∈ s.tasks ∨ d.joined = some a ->
        (a ∈ tasks ∨ d'.joined = some a) ∨
          s.pool.phaseOf a = AssocPhase.ended) := by
  cases h with
  | locked _ => exact ⟨id, Or.inl⟩
  | taken htasks =>
      rw [htasks]
      constructor
      · intro ha
        rcases ha with hrest | hfirst
        · exact Or.inl (List.mem_cons_of_mem _ hrest)
        · cases hfirst
          exact Or.inl List.mem_cons_self
      · intro ha
        rcases ha with htask | hjoined
        · rcases List.mem_cons.mp htask with hfirst | hrest
          · rw [hfirst]
            exact Or.inl (Or.inr rfl)
          · exact Or.inl (Or.inl hrest)
        · cases hjoined
  | joined hended =>
      constructor
      · intro ha
        rcases ha with htask | hjoined
        · exact Or.inl htask
        · cases hjoined
      · intro ha
        rcases ha with htask | hjoined
        · exact Or.inl (Or.inl htask)
        · cases hjoined
          exact Or.inr hended
  | released _ =>
      constructor
      · intro ha
        rcases ha with htask | hjoined
        · exact Or.inl htask
        · cases hjoined
      · intro ha
        rcases ha with htask | hjoined
        · exact Or.inl (Or.inl htask)
        · cases hjoined

theorem Tracked.drained {s t : Shutdown} (h : s.Tracked)
    (hpool : t.pool = s.pool)
    (hserver : forall a, t.server = ServerPhase.accepted a <->
      s.server = ServerPhase.accepted a)
    (hfewer : forall a, t.Handled a -> s.Handled a)
    (hended : forall a, s.Handled a ->
      t.Handled a ∨ s.pool.phaseOf a = AssocPhase.ended) : t.Tracked := by
  constructor
  · intro a
    rw [hpool, hserver]
    exact h.created a
  · intro a hworking
    rw [hpool] at hworking
    rcases hended a (h.working a hworking) with ha | ha
    · exact ha
    · rw [ha] at hworking
      rcases hworking with hb | hb
      · cases hb
      · cases hb
  · intro a ha
    rw [hpool]
    exact h.handled a (hfewer a ha)

theorem tracked_serverDrained {s : Shutdown} {d d' : DrainPhase}
    {move : DrainMove} {tasks stopped : List Nat} (h : s.Tracked)
    (hserver : s.server = ServerPhase.draining d)
    (hdrained : Drained s d move d' tasks stopped) :
    Tracked { s with
      tasks := tasks
      stopped := stopped
      server := ServerPhase.draining d' } := by
  have hheld : s.server.held = d.joined := by
    rw [hserver]
    rfl
  refine h.drained rfl ?_ ?_ ?_
  · intro a
    rw [hserver]
    constructor
    · intro ha
      cases ha
    · intro ha
      cases ha
  · intro a ha
    rcases ha with htask | hcaller | hjoined
    · rcases (hdrained.handles a).1 (Or.inl htask) with hold | hold
      · exact Or.inl hold
      · exact Or.inr (Or.inr (hheld.trans hold))
    · exact Or.inr (Or.inl hcaller)
    · rcases (hdrained.handles a).1 (Or.inr hjoined) with hold | hold
      · exact Or.inl hold
      · exact Or.inr (Or.inr (hheld.trans hold))
  · intro a ha
    rcases ha with htask | hcaller | hjoined
    · rcases (hdrained.handles a).2 (Or.inl htask) with
        (hnew | hnew) | hended
      · exact Or.inl (Or.inl hnew)
      · exact Or.inl (Or.inr (Or.inr hnew))
      · exact Or.inr hended
    · exact Or.inl (Or.inr (Or.inl hcaller))
    · rcases (hdrained.handles a).2 (Or.inr (hheld.symm.trans hjoined)) with
        (hnew | hnew) | hended
      · exact Or.inl (Or.inl hnew)
      · exact Or.inl (Or.inr (Or.inr hnew))
      · exact Or.inr hended

theorem tracked_callerDrained {s : Shutdown} {d d' : DrainPhase}
    {move : DrainMove} {tasks stopped : List Nat} (h : s.Tracked)
    (hcaller : s.caller = CallerPhase.pool d)
    (hdrained : Drained s d move d' tasks stopped) :
    Tracked { s with
      tasks := tasks
      stopped := stopped
      caller := CallerPhase.pool d' } := by
  have hheld : s.caller.held = d.joined := by
    rw [hcaller]
    rfl
  refine h.drained rfl (fun _ => Iff.rfl) ?_ ?_
  · intro a ha
    rcases ha with htask | hjoined | hserver
    · rcases (hdrained.handles a).1 (Or.inl htask) with hold | hold
      · exact Or.inl hold
      · exact Or.inr (Or.inl (hheld.trans hold))
    · rcases (hdrained.handles a).1 (Or.inr hjoined) with hold | hold
      · exact Or.inl hold
      · exact Or.inr (Or.inl (hheld.trans hold))
    · exact Or.inr (Or.inr hserver)
  · intro a ha
    rcases ha with htask | hjoined | hserver
    · rcases (hdrained.handles a).2 (Or.inl htask) with
        (hnew | hnew) | hended
      · exact Or.inl (Or.inl hnew)
      · exact Or.inl (Or.inr (Or.inl hnew))
      · exact Or.inr hended
    · rcases (hdrained.handles a).2 (Or.inr (hheld.symm.trans hjoined)) with
        (hnew | hnew) | hended
      · exact Or.inl (Or.inl hnew)
      · exact Or.inl (Or.inr (Or.inl hnew))
      · exact Or.inr hended
    · exact Or.inl (Or.inr (Or.inr hserver))

theorem tracked_move {s t : Shutdown} {event : ShutdownEvent} (h : s.Tracked)
    (hmove : Move s event t) : t.Tracked := by
  cases hmove with
  | sent hsend hp =>
      exact h.same (associations_send hsend hp) (fun _ => Iff.rfl)
        fun _ => Iff.rfl
  | accepted hserver hp => exact tracked_accepted h hserver hp
  | refused hserver hp => exact tracked_refused h hserver hp
  | added hserver hp => exact tracked_added h hserver hp
  | pushed hserver => exact tracked_pushed h hserver
  | stopped hserver _ =>
      refine h.same rfl ?_ ?_
      · intro a
        rw [hserver]
        simp
      · intro a
        simp [Handled, hserver, ServerPhase.held]
  | closed hserver =>
      refine h.same rfl ?_ ?_
      · intro a
        rw [hserver]
        simp
      · intro a
        simp [Handled, hserver, ServerPhase.held, DrainPhase.joined]
  | serverDrained hserver hdrained =>
      exact tracked_serverDrained h hserver hdrained
  | established _ => exact h.same rfl (fun _ => Iff.rfl) fun _ => Iff.rfl
  | arrived _ => exact h.same rfl (fun _ => Iff.rfl) fun _ => Iff.rfl
  | requested _ hp =>
      exact h.same (associations_request hp) (fun _ => Iff.rfl)
        fun _ => Iff.rfl
  | responded _ => exact h.same rfl (fun _ => Iff.rfl) fun _ => Iff.rfl
  | panicked => exact h.same rfl (fun _ => Iff.rfl) fun _ => Iff.rfl
  | hungUp _ => exact h.same rfl (fun _ => Iff.rfl) fun _ => Iff.rfl
  | ended _ => exact h.same rfl (fun _ => Iff.rfl) fun _ => Iff.rfl
  | removed _ hp => exact h.worked (rephased_remove hp) (Or.inl rfl) (by simp)
  | finished hp => exact h.worked (rephased_finish hp) (Or.inr rfl) (by simp)
  | called hcaller =>
      refine h.same rfl (fun _ => Iff.rfl) ?_
      intro a
      simp [Handled, hcaller, CallerPhase.held, DrainPhase.joined]
  | callerDrained hcaller hdrained =>
      exact tracked_callerDrained h hcaller hdrained
  | serverStopped hcaller =>
      refine h.same rfl (fun _ => Iff.rfl) ?_
      intro a
      simp [Handled, hcaller, CallerPhase.held, DrainPhase.joined]
  | serverJoined hcaller _ =>
      refine h.same rfl (fun _ => Iff.rfl) ?_
      intro a
      simp [Handled, hcaller, CallerPhase.held]

/-!
## The order of the phases
-/

structure Ordered (s : Shutdown) : Prop where
  /-- The listener's task goes on until the caller stops it. -/
  past : s.server.past = true -> s.serverStopped = true
  stopped : s.serverStopped = true <->
    s.caller = CallerPhase.joiningServer ∨ s.caller = CallerPhase.returned
  listening : s.listening = false <->
    exists d, s.server = ServerPhase.draining d
  emptied : s.server = ServerPhase.draining DrainPhase.returned ->
    s.tasks = []
  joined : s.caller = CallerPhase.returned ->
    s.server = ServerPhase.draining DrainPhase.returned
  /-- A task that is awaited has been told to stop. -/
  told : forall a, s.caller = CallerPhase.pool (DrainPhase.joining a) ∨
    s.server = ServerPhase.draining (DrainPhase.joining a) -> a ∈ s.stopped

theorem ordered_start : Ordered start where
  past h := by cases h
  stopped := by simp [start]
  listening := by simp [start]
  emptied h := by cases h
  joined h := by cases h
  told a h := by
    rcases h with h | h
    · cases h
    · cases h

theorem Ordered.same {s t : Shutdown} (h : s.Ordered)
    (hserver : t.server = s.server)
    (hserverStopped : t.serverStopped = s.serverStopped)
    (hlistening : t.listening = s.listening) (hcaller : t.caller = s.caller)
    (htasks : t.tasks = s.tasks) (hstopped : t.stopped = s.stopped) :
    t.Ordered := by
  constructor
  · rw [hserver, hserverStopped]
    exact h.past
  · rw [hserverStopped, hcaller]
    exact h.stopped
  · rw [hlistening, hserver]
    exact h.listening
  · rw [hserver, htasks]
    exact h.emptied
  · rw [hcaller, hserver]
    exact h.joined
  · rw [hcaller, hserver, hstopped]
    exact h.told

theorem Ordered.looped {s t : Shutdown} (h : s.Ordered)
    (hpast : s.server.past = false) (hpast' : t.server.past = false)
    (hserverStopped : t.serverStopped = s.serverStopped)
    (hlistening : t.listening = s.listening) (hcaller : t.caller = s.caller)
    (hstopped : t.stopped = s.stopped) : t.Ordered := by
  have hdraining : forall d, s.server ≠ ServerPhase.draining d := by
    intro d heq
    rw [heq] at hpast
    cases hpast
  have hdraining' : forall d, t.server ≠ ServerPhase.draining d := by
    intro d heq
    rw [heq] at hpast'
    cases hpast'
  constructor
  · intro heq
    rw [hpast'] at heq
    cases heq
  · rw [hserverStopped, hcaller]
    exact h.stopped
  · rw [hlistening, h.listening]
    constructor
    · rintro ⟨d, hd⟩
      exact absurd hd (hdraining d)
    · rintro ⟨d, hd⟩
      exact absurd hd (hdraining' d)
  · intro heq
    exact absurd heq (hdraining' _)
  · intro hreturned
    rw [hcaller] at hreturned
    exact absurd (h.joined hreturned) (hdraining _)
  · intro a ha
    rw [hstopped]
    rcases ha with hjoining | hserver
    · rw [hcaller] at hjoining
      exact h.told a (Or.inl hjoining)
    · exact absurd hserver (hdraining' _)

theorem Drained.told {s : Shutdown} {d d' : DrainPhase} {move : DrainMove}
    {tasks stopped : List Nat} (h : Drained s d move d' tasks stopped) :
    (forall a, a ∈ s.stopped -> a ∈ stopped) ∧
      forall a, d' = DrainPhase.joining a -> a ∈ stopped := by
  cases h with
  | taken _ =>
      refine ⟨fun _ => List.mem_cons_of_mem _, ?_⟩
      intro a ha
      cases ha
      exact List.mem_cons_self
  | _ =>
      refine ⟨fun _ ha => ha, ?_⟩
      intro a ha
      cases ha

theorem Drained.emptied {s : Shutdown} {d : DrainPhase} {move : DrainMove}
    {tasks stopped : List Nat}
    (h : Drained s d move DrainPhase.returned tasks stopped) : tasks = [] := by
  cases h with
  | released htasks => exact htasks

theorem ordered_serverDrained {s : Shutdown} {d d' : DrainPhase}
    {move : DrainMove} {tasks stopped : List Nat} (h : s.Ordered)
    (hserver : s.server = ServerPhase.draining d)
    (hdrained : Drained s d move d' tasks stopped) :
    Ordered { s with
      tasks := tasks
      stopped := stopped
      server := ServerPhase.draining d' } := by
  have hstopped : s.serverStopped = true := h.past (by rw [hserver]; rfl)
  constructor
  · exact fun _ => hstopped
  · exact h.stopped
  · exact ⟨fun _ => ⟨d', rfl⟩, fun _ => h.listening.mpr ⟨d, hserver⟩⟩
  · intro heq
    cases heq
    exact hdrained.emptied
  · intro hreturned
    have hend := h.joined hreturned
    rw [hserver] at hend
    cases hend
    cases hdrained
  · intro a ha
    rcases ha with hjoining | hjoining
    · exact hdrained.told.1 a (h.told a (Or.inl hjoining))
    · cases hjoining
      exact hdrained.told.2 a rfl

theorem ordered_callerDrained {s : Shutdown} {d d' : DrainPhase}
    {move : DrainMove} {tasks stopped : List Nat} (h : s.Ordered)
    (hcaller : s.caller = CallerPhase.pool d)
    (hdrained : Drained s d move d' tasks stopped) :
    Ordered { s with
      tasks := tasks
      stopped := stopped
      caller := CallerPhase.pool d' } := by
  have hnot : s.serverStopped ≠ true := by
    intro htrue
    rcases h.stopped.mp htrue with heq | heq
    · rw [hcaller] at heq
      cases heq
    · rw [hcaller] at heq
      cases heq
  have hpast : s.server.past ≠ true := fun heq => hnot (h.past heq)
  constructor
  · exact fun heq => absurd heq hpast
  · constructor
    · exact fun heq => absurd heq hnot
    · intro heq
      rcases heq with heq | heq
      · cases heq
      · cases heq
  · exact h.listening
  · intro heq
    change s.server = _ at heq
    rw [heq] at hpast
    exact absurd rfl hpast
  · intro heq
    cases heq
  · intro a ha
    rcases ha with hjoining | hjoining
    · cases hjoining
      exact hdrained.told.2 a rfl
    · change s.server = _ at hjoining
      rw [hjoining] at hpast
      exact absurd rfl hpast

theorem ordered_stopped {s : Shutdown} (h : s.Ordered)
    (hserver : s.server = ServerPhase.accepting)
    (hstopped : s.serverStopped = true) :
    Ordered { s with server := ServerPhase.closing } := by
  have hnot : forall d, s.server ≠ ServerPhase.draining d := by
    intro d heq
    rw [hserver] at heq
    cases heq
  constructor
  · exact fun _ => hstopped
  · exact h.stopped
  · rw [h.listening]
    constructor
    · rintro ⟨d, hd⟩
      exact absurd hd (hnot d)
    · rintro ⟨d, hd⟩
      cases hd
  · intro heq
    cases heq
  · exact fun hreturned => absurd (h.joined hreturned) (hnot _)
  · intro a ha
    rcases ha with hjoining | hjoining
    · exact h.told a (Or.inl hjoining)
    · cases hjoining

theorem ordered_closed {s : Shutdown} (h : s.Ordered)
    (hserver : s.server = ServerPhase.closing) :
    Ordered { s with
      listening := false
      server := ServerPhase.draining DrainPhase.locking } := by
  constructor
  · exact fun _ => h.past (by rw [hserver]; rfl)
  · exact h.stopped
  · exact ⟨fun _ => ⟨_, rfl⟩, fun _ => rfl⟩
  · intro heq
    cases heq
  · intro hreturned
    have hend := h.joined hreturned
    rw [hserver] at hend
    cases hend
  · intro a ha
    rcases ha with hjoining | hjoining
    · exact h.told a (Or.inl hjoining)
    · cases hjoining

theorem ordered_called {s : Shutdown} (h : s.Ordered)
    (hcaller : s.caller = CallerPhase.idle) :
    Ordered { s with caller := CallerPhase.pool DrainPhase.locking } := by
  constructor
  · exact h.past
  · rw [h.stopped, hcaller]
    simp
  · exact h.listening
  · exact h.emptied
  · intro heq
    cases heq
  · intro a ha
    rcases ha with hjoining | hjoining
    · cases hjoining
    · exact h.told a (Or.inr hjoining)

theorem ordered_serverStopped {s : Shutdown} (h : s.Ordered) :
    Ordered { s with
      serverStopped := true
      caller := CallerPhase.joiningServer } := by
  constructor
  · exact fun _ => rfl
  · simp
  · exact h.listening
  · exact h.emptied
  · intro heq
    cases heq
  · intro a ha
    rcases ha with hjoining | hjoining
    · cases hjoining
    · exact h.told a (Or.inr hjoining)

theorem ordered_serverJoined {s : Shutdown} (h : s.Ordered)
    (hcaller : s.caller = CallerPhase.joiningServer)
    (hserver : s.server = ServerPhase.draining DrainPhase.returned) :
    Ordered { s with caller := CallerPhase.returned } := by
  constructor
  · exact h.past
  · rw [h.stopped, hcaller]
    simp
  · exact h.listening
  · exact h.emptied
  · exact fun _ => hserver
  · intro a ha
    rcases ha with hjoining | hjoining
    · cases hjoining
    · exact h.told a (Or.inr hjoining)

theorem ordered_move {s t : Shutdown} {event : ShutdownEvent} (h : s.Ordered)
    (hmove : Move s event t) : t.Ordered := by
  cases hmove with
  | sent _ _ => exact h.same rfl rfl rfl rfl rfl rfl
  | accepted hserver _ =>
      exact h.looped (by rw [hserver]; rfl) rfl rfl rfl rfl rfl
  | refused hserver _ =>
      exact h.looped (by rw [hserver]; rfl) rfl rfl rfl rfl rfl
  | added hserver _ =>
      exact h.looped (by rw [hserver]; rfl) rfl rfl rfl rfl rfl
  | pushed hserver =>
      exact h.looped (by rw [hserver]; rfl) rfl rfl rfl rfl rfl
  | stopped hserver hstopped => exact ordered_stopped h hserver hstopped
  | closed hserver => exact ordered_closed h hserver
  | serverDrained hserver hdrained =>
      exact ordered_serverDrained h hserver hdrained
  | established _ => exact h.same rfl rfl rfl rfl rfl rfl
  | arrived _ => exact h.same rfl rfl rfl rfl rfl rfl
  | requested _ _ => exact h.same rfl rfl rfl rfl rfl rfl
  | responded _ => exact h.same rfl rfl rfl rfl rfl rfl
  | panicked => exact h.same rfl rfl rfl rfl rfl rfl
  | hungUp _ => exact h.same rfl rfl rfl rfl rfl rfl
  | ended _ => exact h.same rfl rfl rfl rfl rfl rfl
  | removed _ _ => exact h.same rfl rfl rfl rfl rfl rfl
  | finished _ => exact h.same rfl rfl rfl rfl rfl rfl
  | called hcaller => exact ordered_called h hcaller
  | callerDrained hcaller hdrained =>
      exact ordered_callerDrained h hcaller hdrained
  | serverStopped _ => exact ordered_serverStopped h
  | serverJoined hcaller hserver => exact ordered_serverJoined h hcaller hserver

/-!
## What is reported
-/

def reportsOf (s : Shutdown) (a : Nat) : List TnlaEvent :=
  s.reports.filterMap fun r => if r.1 = a then some r.2 else none

def Told (loop : LoopPhase) (reports : List TnlaEvent) : AssocPhase -> Prop
  | AssocPhase.created => reports = []
  | AssocPhase.running => reports = LoopPhase.told loop
  | AssocPhase.removed => reports = wholeLife
  | AssocPhase.ended => reports = [] ∨ reports = wholeLife

structure Reported (s : Shutdown) : Prop where
  told : forall a, Told (s.loop a) (s.reportsOf a) (s.pool.phaseOf a)
  unknown : forall a, s.pool.associations.length <= a -> s.reportsOf a = []

theorem reportsOf_report (s : Shutdown) (a b : Nat) (event : TnlaEvent) :
    (s.report a event).reportsOf b =
      s.reportsOf b ++ if a = b then [event] else [] := by
  unfold reportsOf report
  rw [List.filterMap_append]
  cases decEq a b with
  | isTrue heq => simp [heq]
  | isFalse hne => simp [hne]

theorem reported_start : Reported start where
  told _ := Or.inl rfl
  unknown _ _ := rfl

theorem Reported.same {s t : Shutdown} (h : s.Reported)
    (hassociations : t.pool.associations = s.pool.associations)
    (hloop : t.loop = s.loop) (hreports : t.reports = s.reports) :
    t.Reported := by
  have hreportsOf : t.reportsOf = s.reportsOf := by
    funext a
    unfold reportsOf
    rw [hreports]
  have hphaseOf : t.pool.phaseOf = s.pool.phaseOf := by
    funext a
    unfold TnlaPool.phaseOf
    rw [hassociations]
  constructor
  · rw [hloop, hreportsOf, hphaseOf]
    exact h.told
  · rw [hassociations, hreportsOf]
    exact h.unknown

theorem length_of_phase {p : TnlaPool} {a : Nat}
    (h : p.phaseOf a ≠ AssocPhase.ended) : a < p.associations.length := by
  rcases Nat.lt_or_ge a p.associations.length with hlt | hge
  · exact hlt
  · unfold TnlaPool.phaseOf at h
    rw [List.getElem?_eq_none hge] at h
    exact absurd rfl h

theorem Reported.looped {s t : Shutdown} {a : Nat} {old new : LoopPhase}
    (h : s.Reported) (hat : s.LoopAt a old)
    (hassociations : t.pool.associations = s.pool.associations)
    (hloop : t.loop = Function.update s.loop a new)
    (hreports : forall b, t.reportsOf b = s.reportsOf b ++
      if a = b then new.told.drop old.told.length else [])
    (htold : old.told ++ new.told.drop old.told.length = new.told) :
    t.Reported := by
  have hphase : forall b, t.pool.phaseOf b = s.pool.phaseOf b := by
    intro b
    unfold TnlaPool.phaseOf
    rw [hassociations]
  have hold : s.reportsOf a = old.told := by
    have hs := h.told a
    rw [hat.left, hat.right] at hs
    exact hs
  constructor
  · intro b
    rw [hphase, hreports, hloop]
    cases decEq a b with
    | isTrue heq =>
        subst heq
        rw [if_pos rfl, hold, htold, hat.left, Function.update_self]
        rfl
    | isFalse hne =>
        rw [if_neg hne, List.append_nil, Function.update_of_ne (Ne.symm hne)]
        exact h.told b
  · intro b hb
    rw [hassociations] at hb
    have ha : a < s.pool.associations.length :=
      length_of_phase (by simp [hat.left])
    have hne : a ≠ b := Nat.ne_of_lt (Nat.lt_of_lt_of_le ha hb)
    rw [hreports, if_neg hne, List.append_nil]
    exact h.unknown b hb

theorem Reported.rephased {s t : Shutdown} {a : Nat} {old new : AssocPhase}
    (h : s.Reported) (hrephased : Rephased s.pool t.pool a old new)
    (hloop : forall b, b ≠ a -> t.loop b = s.loop b)
    (hreports : t.reports = s.reports)
    (hnew : Told (t.loop a) (s.reportsOf a) new) : t.Reported := by
  have hreportsOf : t.reportsOf = s.reportsOf := by
    funext b
    unfold reportsOf
    rw [hreports]
  constructor
  · intro b
    rw [hreportsOf]
    cases decEq b a with
    | isTrue heq =>
        rw [heq, hrephased.new]
        exact hnew
    | isFalse hne =>
        rw [hrephased.others b hne, hloop b hne]
        exact h.told b
  · intro b hb
    rw [hreportsOf]
    exact h.unknown b (Nat.le_trans hrephased.grows hb)

theorem Reported.of_phase {s : Shutdown} {a : Nat} {phase : AssocPhase}
    (h : s.Reported) (hphase : s.pool.phaseOf a = phase) :
    Told (s.loop a) (s.reportsOf a) phase := by
  rw [← hphase]
  exact h.told a

theorem reported_move {s t : Shutdown} {event : ShutdownEvent}
    (h : s.Reported) (hmove : Move s event t) : t.Reported := by
  cases hmove with
  | sent hsend hp => exact h.same (associations_send hsend hp) rfl rfl
  | accepted _ hp =>
      have hnone := h.unknown s.pool.associations.length (Nat.le_refl _)
      exact h.rephased (rephased_accept hp).left (fun _ _ => rfl) rfl hnone
  | refused _ hp =>
      have hrephased := rephased_discard hp
      exact h.rephased hrephased (fun _ _ => rfl) rfl
        (Or.inl (h.of_phase hrephased.old))
  | @added a p _ hp =>
      have hrephased := (rephased_add hp).left
      refine h.rephased hrephased ?_ rfl ?_
      · intro b hne
        exact Function.update_of_ne hne _ _
      · change s.reportsOf a = LoopPhase.told (Function.update s.loop a _ a)
        rw [Function.update_self]
        exact h.of_phase hrephased.old
  | established hat =>
      exact h.looped hat rfl rfl (fun b => reportsOf_report _ _ b _) rfl
  | arrived hat =>
      exact h.looped hat rfl rfl
        (fun b => by simp [LoopPhase.told]; rfl) rfl
  | requested hat hp =>
      exact h.looped hat (associations_request hp) rfl
        (fun b => by simp [LoopPhase.told]; rfl) rfl
  | responded hat =>
      exact h.looped hat rfl rfl
        (fun b => by simp [LoopPhase.told]; rfl) rfl
  | hungUp hat =>
      exact h.looped hat rfl rfl (fun b => reportsOf_report _ _ b _) rfl
  | ended hat =>
      exact h.looped hat rfl rfl (fun b => reportsOf_report _ _ b _) rfl
  | removed hat hp =>
      have hrephased := rephased_remove hp
      have htold := h.of_phase hrephased.old
      rw [hat.right] at htold
      exact h.rephased hrephased (fun _ _ => rfl) rfl htold
  | finished hp =>
      have hrephased := rephased_finish hp
      exact h.rephased hrephased (fun _ _ => rfl) rfl
        (Or.inr (h.of_phase hrephased.old))
  | _ => exact h.same rfl rfl rfl

def CameUp (s : Shutdown) (a : Nat) : Prop :=
  s.pool.phaseOf a = AssocPhase.running ∨ s.reportsOf a ≠ []

theorem reportsOf_move {s t : Shutdown} {event : ShutdownEvent} {a : Nat}
    (hmove : Move s event t) (h : s.reportsOf a ≠ []) : t.reportsOf a ≠ [] := by
  have hreport : forall u : Shutdown, u.reportsOf a ≠ [] ->
      forall b event, (u.report b event).reportsOf a ≠ [] := by
    intro u hu b event
    rw [reportsOf_report]
    exact List.append_ne_nil_of_left_ne_nil hu _
  cases hmove with
  | established _ => exact hreport _ h _ _
  | hungUp _ => exact hreport _ h _ _
  | ended _ => exact hreport _ h _ _
  | _ => exact h

theorem running_move {s t : Shutdown} {event : ShutdownEvent} {a : Nat}
    (hmove : Move s event t) (h : s.pool.phaseOf a = AssocPhase.running) :
    t.pool.phaseOf a = AssocPhase.running ∨ s.LoopAt a LoopPhase.leaving := by
  have hother : forall {p : TnlaPool} {b : Nat} {old new : AssocPhase},
      Rephased s.pool p b old new -> old ≠ AssocPhase.running ->
        p.phaseOf a = AssocPhase.running := by
    intro p b old new hrephased hold
    rw [hrephased.others a, h]
    intro heq
    rw [← hrephased.old, ← heq] at hold
    exact hold h
  have hsame : forall {p : TnlaPool},
      p.associations = s.pool.associations ->
        p.phaseOf a = AssocPhase.running := by
    intro p hp
    unfold TnlaPool.phaseOf at h ⊢
    rw [hp]
    exact h
  cases hmove with
  | sent hsend hp => exact Or.inl (hsame (associations_send hsend hp))
  | accepted _ hp => exact Or.inl (hother (rephased_accept hp).left (by simp))
  | refused _ hp => exact Or.inl (hother (rephased_discard hp) (by simp))
  | added _ hp => exact Or.inl (hother (rephased_add hp).left (by simp))
  | requested _ hp => exact Or.inl (hsame (associations_request hp))
  | @removed b p hat hp =>
      cases decEq a b with
      | isTrue heq =>
          rw [heq]
          exact Or.inr hat
      | isFalse hne =>
          exact Or.inl (((rephased_remove hp).others a hne).trans h)
  | finished hp => exact Or.inl (hother (rephased_finish hp) (by simp))
  | _ => exact Or.inl h

theorem cameUp_move {s t : Shutdown} {event : ShutdownEvent} {a : Nat}
    (hreported : s.Reported) (hmove : Move s event t) (h : s.CameUp a) :
    t.CameUp a := by
  rcases h with hrunning | hsome
  · rcases running_move hmove hrunning with hstill | hat
    · exact Or.inl hstill
    · have htold := hreported.of_phase hat.left
      rw [hat.right] at htold
      have hsome : s.reportsOf a ≠ [] := by
        rw [htold]
        exact List.cons_ne_nil _ _
      exact Or.inr (reportsOf_move hmove hsome)
  · exact Or.inr (reportsOf_move hmove hsome)

/-!
## The end of a shutdown
-/

/-- Nothing of the transport is left, and nothing was reported of an association
but its whole life. -/
structure Quiescent (s : Shutdown) : Prop where
  server : s.server = ServerPhase.draining DrainPhase.returned
  listener : s.listening = false
  tasks : s.tasks = []
  associations : forall a, s.pool.phaseOf a = AssocPhase.ended
  assocs : s.pool.assocs.entries = []
  reports : forall a, s.reportsOf a = [] ∨ s.reportsOf a = wholeLife

theorem associations_ended {s : Shutdown} (h : s.Tracked)
    (hserver : s.server = ServerPhase.draining DrainPhase.returned)
    (hcaller : s.caller = CallerPhase.returned) (htasks : s.tasks = [])
    (a : Nat) : s.pool.phaseOf a = AssocPhase.ended := by
  have hfree : ¬ s.Handled a := by
    intro ha
    rcases ha with htask | hheld | hheld
    · rw [htasks] at htask
      cases htask
    · rw [hcaller] at hheld
      cases hheld
    · rw [hserver] at hheld
      cases hheld
  cases hphase : s.pool.phaseOf a with
  | created =>
      have haccepted := (h.created a).mp hphase
      rw [hserver] at haccepted
      cases haccepted
  | running => exact absurd (h.working a (Or.inl hphase)) hfree
  | removed => exact absurd (h.working a (Or.inr hphase)) hfree
  | ended => rfl

theorem entries_eq_nil {p : TnlaPool} (h : p.Owned)
    (hended : forall a, p.phaseOf a = AssocPhase.ended) :
    p.assocs.entries = [] := by
  apply List.eq_nil_iff_forall_not_mem.mpr
  intro e he
  rcases TnlaPool.mem_entries_iff.mp ⟨e, he, rfl⟩ with ⟨assocId, hlookup⟩
  rcases h.entry assocId e.snd hlookup with ⟨x, hx, _, hrunning⟩
  have hphase := hended e.snd
  unfold TnlaPool.phaseOf at hphase
  rw [hx] at hphase
  change x.phase = _ at hphase
  rw [hrunning] at hphase
  cases hphase

structure Reached (s : Shutdown) : Prop where
  owned : s.pool.Owned
  tracked : s.Tracked
  ordered : s.Ordered
  reported : s.Reported

theorem Reached.step {s t : Shutdown} {event : ShutdownEvent} (h : s.Reached)
    (hstep : shutdownMachine.step s event = some t) : t.Reached := by
  have hmove := step_move hstep
  exact ⟨owned_step h.owned hstep, tracked_move h.tracked hmove,
    ordered_move h.ordered hmove, reported_move h.reported hmove⟩

theorem run_reached {s : Shutdown} {events : List ShutdownEvent}
    (h : shutdownMachine.run start events = some s) : s.Reached :=
  Machine.run_invariant (fun _ _ _ hs hstep => hs.step hstep)
    ⟨TnlaPool.owned_start, tracked_start, ordered_start, reported_start⟩ h

theorem run_cameUp {s : Shutdown} {events : List ShutdownEvent} {a : Nat}
    (h : shutdownMachine.run start events = some s)
    (hadded : ShutdownEvent.add a ∈ events) : s.CameUp a := by
  rcases List.append_of_mem hadded with ⟨before, rest, hsplit⟩
  rw [hsplit] at h
  rcases Machine.run_append_some h with ⟨m, hm, hrest⟩
  rcases Machine.run_cons_some hrest with ⟨m', hadd, hlater⟩
  have hreached := (run_reached hm).step hadd
  have hup : m'.CameUp a := by
    cases step_move hadd with
    | added _ hp => exact Or.inl (rephased_add hp).left.new
  have hinv : forall u event u', Reached u ∧ u.CameUp a ->
      shutdownMachine.step u event = some u' -> Reached u' ∧ u'.CameUp a := by
    intro u event u' hu hstep
    exact ⟨hu.left.step hstep,
      cameUp_move hu.left.reported (step_move hstep) hu.right⟩
  exact (Machine.run_invariant hinv ⟨hreached, hup⟩ hlater).right

theorem Reached.quiescent {s : Shutdown} (h : s.Reached)
    (hreturned : s.caller = CallerPhase.returned) : s.Quiescent := by
  have hserver := h.ordered.joined hreturned
  have htasks := h.ordered.emptied hserver
  have hended := associations_ended h.tracked hserver hreturned htasks
  exact ⟨hserver, h.ordered.listening.mpr ⟨_, hserver⟩, htasks, hended,
    entries_eq_nil h.owned hended, fun a => h.reported.of_phase (hended a)⟩

/-- In every interleaving, also with associations that come up while the
shutdown is under way.  Each association that came up was reported as
established and then as terminated, once each. -/
theorem quiescent_of_returned (events : List ShutdownEvent) (s : Shutdown)
    (hrun : shutdownMachine.run start events = some s)
    (hreturned : s.caller = CallerPhase.returned) :
    s.Quiescent ∧ forall a, ShutdownEvent.add a ∈ events ->
      s.reportsOf a = [TnlaEvent.established, TnlaEvent.terminated] := by
  have hquiescent := (run_reached hrun).quiescent hreturned
  refine ⟨hquiescent, ?_⟩
  intro a hadded
  rcases run_cameUp hrun hadded with hrunning | hsome
  · rw [hquiescent.associations a] at hrunning
    cases hrunning
  · rcases hquiescent.reports a with hnone | hwhole
    · exact absurd hnone hsome
    · exact hwhole

/-- An association comes up while the caller waits for the one that is up
already. -/
def lateArrival : List ShutdownEvent :=
  [ShutdownEvent.accept 3, ShutdownEvent.add 0, ShutdownEvent.push 0,
    ShutdownEvent.call, ShutdownEvent.callerDrain DrainMove.lock,
    ShutdownEvent.callerDrain DrainMove.take, ShutdownEvent.accept 4,
    ShutdownEvent.add 1, ShutdownEvent.establish 0, ShutdownEvent.stopRead 0,
    ShutdownEvent.remove 0, ShutdownEvent.finish 0,
    ShutdownEvent.callerDrain DrainMove.join,
    ShutdownEvent.callerDrain DrainMove.release, ShutdownEvent.stopServer,
    ShutdownEvent.push 1, ShutdownEvent.establish 1, ShutdownEvent.next 1,
    ShutdownEvent.stop, ShutdownEvent.close,
    ShutdownEvent.serverDrain DrainMove.lock,
    ShutdownEvent.serverDrain DrainMove.take, ShutdownEvent.handle 1 false,
    ShutdownEvent.stopRead 1, ShutdownEvent.remove 1, ShutdownEvent.finish 1,
    ShutdownEvent.serverDrain DrainMove.join,
    ShutdownEvent.serverDrain DrainMove.release, ShutdownEvent.joinServer]

theorem lateArrival_caller :
    (shutdownMachine.run start lateArrival).map Shutdown.caller =
      some CallerPhase.returned := by
  decide +kernel

theorem lateArrival_quiescent :
    exists s, shutdownMachine.run start lateArrival = some s ∧
      s.Quiescent ∧
      s.reportsOf 1 = [TnlaEvent.established, TnlaEvent.terminated] := by
  rcases Option.map_eq_some_iff.mp lateArrival_caller with ⟨s, hrun, hcaller⟩
  have hend := quiescent_of_returned lateArrival s hrun hcaller
  exact ⟨s, hrun, hend.left, hend.right 1 (by simp [lateArrival])⟩

end Shutdown
end Stack
end QCore
