import Mathlib.Data.List.AList
import QCore.Foundation.Machine

/-!
# The pool of associations

`SctpTnlaPool` keeps the associations that are up, under their file descriptors.
An association owns its descriptor until its last `Arc` is dropped; the `Arc`s
are with whoever created the association, in the map, with the task of
`handle_assoc`, and with the calls of `send_message` that are under way.  The
kernel hands out descriptors that are not open.

Every access to the map is one event.  Associations and calls of `send_message`
are numbered in the order in which they begin.
-/

namespace QCore
namespace Stack

open Foundation

abbrev AssocId : Type := UInt32

inductive AssocPhase where
  /-- Accepted or connected, and not in the pool. -/
  | created
  /-- In the loop of `handle_assoc`. -/
  | running
  /-- Taken out of the map, by a task that has not returned. -/
  | removed
  | ended
deriving DecidableEq, Repr

structure Association where
  fd : Int32
  phase : AssocPhase
deriving DecidableEq, Repr

/-- `assoc.fd as u32` -/
def Association.id (x : Association) : AssocId :=
  x.fd.toUInt32

/-- A call of `send_message`.  The map is read twice, for the given id and for
any association at all, before the call settles for one of the two. -/
inductive SendPhase where
  | start
  | lookedUp (first : Option Nat)
  | iterated (first second : Option Nat)
  | sending (association : Nat)
  | done
deriving DecidableEq, Repr

def SendPhase.choice : SendPhase -> Option Nat
  | start => none
  | lookedUp first => first
  | iterated first second => first.or second
  | sending association => some association
  | done => none

/-- The call has a clone of the `Arc` of the association. -/
def SendPhase.Holds (association : Nat) : SendPhase -> Prop
  | start => False
  | lookedUp first => first = some association
  | iterated first second =>
      first = some association ∨ second = some association
  | sending chosen => chosen = association
  | done => False

instance (association : Nat) : forall phase : SendPhase,
    Decidable (phase.Holds association)
  | SendPhase.start => inferInstanceAs (Decidable False)
  | SendPhase.lookedUp first =>
      inferInstanceAs (Decidable (first = some association))
  | SendPhase.iterated first second =>
      inferInstanceAs (Decidable
        (first = some association ∨ second = some association))
  | SendPhase.sending chosen =>
      inferInstanceAs (Decidable (chosen = association))
  | SendPhase.done => inferInstanceAs (Decidable False)

/-- What a response is sent for: the association of its request, and the id that
`handle_message` was given. -/
structure ReplyTo where
  association : Nat
  assocId : AssocId
deriving DecidableEq, Repr

structure SendCall where
  replyTo : Option ReplyTo
  phase : SendPhase
deriving DecidableEq, Repr

structure TnlaPool where
  associations : List Association
  assocs : AList (fun _ : AssocId => Nat)
  calls : List SendCall
  /-- For each response sent, the association of its request and the one it was
  sent on. -/
  responses : List (Nat × Nat)

inductive PoolEvent where
  | accept (fd : Int32)
  | discard (a : Nat)
  | addAndHandle (a : Nat)
  /-- A request arrives; the procedure task will send the response. -/
  | handleMessage (a : Nat)
  /-- A call that leaves the choice of the association to the pool. -/
  | sendMessage
  | lookUp (call : Nat)
  | iterate (call : Nat) (assocId : Option AssocId)
  | choose (call : Nat)
  | sendMsg (call : Nat) (ok : Bool)
  | remove (a : Nat)
  | finish (a : Nat)

namespace TnlaPool

def start : TnlaPool where
  associations := []
  assocs := ∅
  calls := []
  responses := []

def phaseOf (s : TnlaPool) (a : Nat) : AssocPhase :=
  match s.associations[a]? with
  | some x => x.phase
  | none => AssocPhase.ended

def Held (s : TnlaPool) (a : Nat) : Prop :=
  s.phaseOf a ≠ AssocPhase.ended ∨
    (exists e, e ∈ s.assocs.entries ∧ e.snd = a) ∨
    exists call, call ∈ s.calls ∧ call.phase.Holds a

instance (s : TnlaPool) (a : Nat) : Decidable (s.Held a) :=
  inferInstanceAs (Decidable (_ ∨
    (exists e, e ∈ s.assocs.entries ∧ e.snd = a) ∨
    exists call, call ∈ s.calls ∧ call.phase.Holds a))

def Open (s : TnlaPool) (fd : Int32) : Prop :=
  exists a, a < s.associations.length ∧
    (s.associations[a]?).map Association.fd = some fd ∧ s.Held a

instance (s : TnlaPool) (fd : Int32) : Decidable (s.Open fd) :=
  inferInstanceAs (Decidable (exists a, a < _ ∧ _))

def setPhase (s : TnlaPool) (a : Nat) (x : Association) (phase : AssocPhase) :
    TnlaPool :=
  { s with associations := s.associations.set a { x with phase := phase } }

def setCall (s : TnlaPool) (k : Nat) (call : SendCall) (phase : SendPhase) :
    TnlaPool :=
  { s with calls := s.calls.set k { call with phase := phase } }

def advance (s : TnlaPool) (a : Nat) (old new : AssocPhase) :
    Option (Association × TnlaPool) :=
  match s.associations[a]? with
  | some x => if x.phase = old then some (x, s.setPhase a x new) else none
  | none => none

/-- `assoc_id.and_then(|x| self.assocs.get(&x)..)` -/
def lookUp (s : TnlaPool) (k : Nat) (call : SendCall) : Option TnlaPool :=
  match call.phase with
  | SendPhase.start =>
      some (s.setCall k call (SendPhase.lookedUp
        (call.replyTo.bind fun r => s.assocs.lookup r.assocId)))
  | _ => none

/-- `self.assocs.iter().next()`: any entry, or nothing when there is none.  It
is evaluated whether the lookup succeeded or not. -/
def iterate (s : TnlaPool) (assocId : Option AssocId) (k : Nat)
    (call : SendCall) : Option TnlaPool :=
  match call.phase with
  | SendPhase.lookedUp first =>
      match assocId with
      | none =>
          if s.assocs.entries = [] then
            some (s.setCall k call (SendPhase.iterated first none))
          else
            none
      | some assocId =>
          match s.assocs.lookup assocId with
          | some a =>
              some (s.setCall k call (SendPhase.iterated first (some a)))
          | none => none
  | _ => none

/-- Use the first one, or else the second; with neither of them the call
fails. -/
def choose (s : TnlaPool) (k : Nat) (call : SendCall) : Option TnlaPool :=
  match call.phase with
  | SendPhase.iterated first second =>
      some (s.setCall k call
        (match first.or second with
        | some a => SendPhase.sending a
        | none => SendPhase.done))
  | _ => none

def sendMsg (s : TnlaPool) (ok : Bool) (k : Nat) (call : SendCall) :
    Option TnlaPool :=
  match call.phase with
  | SendPhase.sending a =>
      some { s.setCall k call SendPhase.done with
        responses := s.responses ++
          (if ok then call.replyTo.toList.map fun r => (r.association, a)
            else []) }
  | _ => none

def step (s : TnlaPool) : PoolEvent -> Option TnlaPool
  | PoolEvent.accept fd =>
      if s.Open fd then
        none
      else
        some { s with
          associations := s.associations ++ [⟨fd, AssocPhase.created⟩] }
  | PoolEvent.discard a =>
      (s.advance a AssocPhase.created AssocPhase.ended).map Prod.snd
  | PoolEvent.addAndHandle a =>
      (s.advance a AssocPhase.created AssocPhase.running).map fun (x, t) =>
        { t with assocs := t.assocs.insert x.id a }
  | PoolEvent.handleMessage a =>
      match s.associations[a]? with
      | some x =>
          if x.phase = AssocPhase.running then
            some { s with calls := s.calls ++
              [⟨some ⟨a, x.id⟩, SendPhase.start⟩] }
          else
            none
      | none => none
  | PoolEvent.sendMessage =>
      some { s with calls := s.calls ++ [⟨none, SendPhase.start⟩] }
  | PoolEvent.lookUp k => (s.calls[k]?).bind (s.lookUp k)
  | PoolEvent.iterate k assocId => (s.calls[k]?).bind (s.iterate assocId k)
  | PoolEvent.choose k => (s.calls[k]?).bind (s.choose k)
  | PoolEvent.sendMsg k ok => (s.calls[k]?).bind (s.sendMsg ok k)
  | PoolEvent.remove a =>
      (s.advance a AssocPhase.running AssocPhase.removed).map fun (x, t) =>
        { t with assocs := t.assocs.erase x.id }
  | PoolEvent.finish a =>
      (s.advance a AssocPhase.removed AssocPhase.ended).map Prod.snd

end TnlaPool

def poolMachine : Machine TnlaPool PoolEvent where
  step := TnlaPool.step

namespace TnlaPool

/-!
## The effect of an event
-/

inductive Effect (s : TnlaPool) : PoolEvent -> TnlaPool -> Prop where
  | accepted {fd : Int32} :
      ¬ s.Open fd ->
      Effect s (PoolEvent.accept fd)
        { s with associations := s.associations ++ [⟨fd, AssocPhase.created⟩] }
  | discarded {a : Nat} {x : Association} :
      s.associations[a]? = some x -> x.phase = AssocPhase.created ->
      Effect s (PoolEvent.discard a) (s.setPhase a x AssocPhase.ended)
  | added {a : Nat} {x : Association} :
      s.associations[a]? = some x -> x.phase = AssocPhase.created ->
      Effect s (PoolEvent.addAndHandle a)
        { s.setPhase a x AssocPhase.running with
          assocs := s.assocs.insert x.id a }
  | requested {a : Nat} {x : Association} :
      s.associations[a]? = some x -> x.phase = AssocPhase.running ->
      Effect s (PoolEvent.handleMessage a)
        { s with calls := s.calls ++ [⟨some ⟨a, x.id⟩, SendPhase.start⟩] }
  | called :
      Effect s PoolEvent.sendMessage
        { s with calls := s.calls ++ [⟨none, SendPhase.start⟩] }
  | lookedUp {k : Nat} {call : SendCall} :
      s.calls[k]? = some call -> call.phase = SendPhase.start ->
      Effect s (PoolEvent.lookUp k)
        (s.setCall k call (SendPhase.lookedUp
          (call.replyTo.bind fun r => s.assocs.lookup r.assocId)))
  | foundNone {k : Nat} {call : SendCall} {first : Option Nat} :
      s.calls[k]? = some call -> call.phase = SendPhase.lookedUp first ->
      s.assocs.entries = [] ->
      Effect s (PoolEvent.iterate k none)
        (s.setCall k call (SendPhase.iterated first none))
  | foundSome {k : Nat} {call : SendCall} {first : Option Nat}
      {assocId : AssocId} {a : Nat} :
      s.calls[k]? = some call -> call.phase = SendPhase.lookedUp first ->
      s.assocs.lookup assocId = some a ->
      Effect s (PoolEvent.iterate k (some assocId))
        (s.setCall k call (SendPhase.iterated first (some a)))
  | chosen {k : Nat} {call : SendCall} {first second : Option Nat} {a : Nat} :
      s.calls[k]? = some call ->
      call.phase = SendPhase.iterated first second ->
      first.or second = some a ->
      Effect s (PoolEvent.choose k) (s.setCall k call (SendPhase.sending a))
  | failed {k : Nat} {call : SendCall} {first second : Option Nat} :
      s.calls[k]? = some call ->
      call.phase = SendPhase.iterated first second ->
      Effect s (PoolEvent.choose k) (s.setCall k call SendPhase.done)
  | sent {k : Nat} {call : SendCall} {a : Nat} {ok : Bool} :
      s.calls[k]? = some call -> call.phase = SendPhase.sending a ->
      Effect s (PoolEvent.sendMsg k ok)
        { s.setCall k call SendPhase.done with
          responses := s.responses ++
            (if ok then call.replyTo.toList.map fun r => (r.association, a)
              else []) }
  | removed {a : Nat} {x : Association} :
      s.associations[a]? = some x -> x.phase = AssocPhase.running ->
      Effect s (PoolEvent.remove a)
        { s.setPhase a x AssocPhase.removed with
          assocs := s.assocs.erase x.id }
  | finished {a : Nat} {x : Association} :
      s.associations[a]? = some x -> x.phase = AssocPhase.removed ->
      Effect s (PoolEvent.finish a) (s.setPhase a x AssocPhase.ended)

theorem advance_some {s t : TnlaPool} {a : Nat} {old new : AssocPhase}
    {x : Association} (h : s.advance a old new = some (x, t)) :
    s.associations[a]? = some x ∧ x.phase = old ∧ t = s.setPhase a x new := by
  unfold advance at h
  cases hx : s.associations[a]? with
  | none => simp [hx] at h
  | some y =>
      simp only [hx, Option.ite_none_right_eq_some] at h
      rcases h with ⟨hphase, heq⟩
      cases heq
      exact ⟨rfl, hphase, rfl⟩

theorem lookUp_effect {s s' : TnlaPool} {k : Nat} {call : SendCall}
    (hcall : s.calls[k]? = some call) (h : s.lookUp k call = some s') :
    Effect s (PoolEvent.lookUp k) s' := by
  unfold lookUp at h
  cases hphase : call.phase with
  | start =>
      rw [hphase] at h
      cases h
      exact Effect.lookedUp hcall hphase
  | _ => simp [hphase] at h

theorem iterate_effect {s s' : TnlaPool} {assocId : Option AssocId} {k : Nat}
    {call : SendCall} (hcall : s.calls[k]? = some call)
    (h : s.iterate assocId k call = some s') :
    Effect s (PoolEvent.iterate k assocId) s' := by
  unfold iterate at h
  cases hphase : call.phase with
  | lookedUp first =>
      rw [hphase] at h
      cases assocId with
      | none =>
          simp only [Option.ite_none_right_eq_some] at h
          rcases h with ⟨hempty, heq⟩
          cases heq
          exact Effect.foundNone hcall hphase hempty
      | some assocId =>
          cases hlookup : s.assocs.lookup assocId with
          | none => simp [hlookup] at h
          | some a =>
              simp only [hlookup] at h
              cases h
              exact Effect.foundSome hcall hphase hlookup
  | _ => simp [hphase] at h

theorem choose_effect {s s' : TnlaPool} {k : Nat} {call : SendCall}
    (hcall : s.calls[k]? = some call) (h : s.choose k call = some s') :
    Effect s (PoolEvent.choose k) s' := by
  unfold choose at h
  cases hphase : call.phase with
  | iterated first second =>
      rw [hphase] at h
      cases hchoice : first.or second with
      | none =>
          simp only [hchoice] at h
          cases h
          exact Effect.failed hcall hphase
      | some a =>
          simp only [hchoice] at h
          cases h
          exact Effect.chosen hcall hphase hchoice
  | _ => simp [hphase] at h

theorem sendMsg_effect {s s' : TnlaPool} {ok : Bool} {k : Nat}
    {call : SendCall} (hcall : s.calls[k]? = some call)
    (h : s.sendMsg ok k call = some s') :
    Effect s (PoolEvent.sendMsg k ok) s' := by
  unfold sendMsg at h
  cases hphase : call.phase with
  | sending a =>
      rw [hphase] at h
      cases h
      exact Effect.sent hcall hphase
  | _ => simp [hphase] at h

theorem step_effect {s s' : TnlaPool} {event : PoolEvent}
    (h : poolMachine.step s event = some s') : Effect s event s' := by
  replace h : s.step event = some s' := h
  cases event with
  | accept fd =>
      simp only [step, Option.ite_none_left_eq_some] at h
      rcases h with ⟨hclosed, heq⟩
      cases heq
      exact Effect.accepted hclosed
  | discard a =>
      rcases Option.map_eq_some_iff.mp h with ⟨⟨x, t⟩, hadvance, heq⟩
      rcases advance_some hadvance with ⟨hx, hphase, ht⟩
      rw [← heq, ht]
      exact Effect.discarded hx hphase
  | addAndHandle a =>
      rcases Option.map_eq_some_iff.mp h with ⟨⟨x, t⟩, hadvance, heq⟩
      rcases advance_some hadvance with ⟨hx, hphase, ht⟩
      rw [← heq, ht]
      exact Effect.added hx hphase
  | handleMessage a =>
      cases hx : s.associations[a]? with
      | none => simp [step, hx] at h
      | some x =>
          simp only [step, hx, Option.ite_none_right_eq_some] at h
          rcases h with ⟨hphase, heq⟩
          cases heq
          exact Effect.requested hx hphase
  | sendMessage =>
      cases h
      exact Effect.called
  | lookUp k =>
      rcases Option.bind_eq_some_iff.mp h with ⟨call, hcall, hstep⟩
      exact lookUp_effect hcall hstep
  | iterate k assocId =>
      rcases Option.bind_eq_some_iff.mp h with ⟨call, hcall, hstep⟩
      exact iterate_effect hcall hstep
  | choose k =>
      rcases Option.bind_eq_some_iff.mp h with ⟨call, hcall, hstep⟩
      exact choose_effect hcall hstep
  | sendMsg k ok =>
      rcases Option.bind_eq_some_iff.mp h with ⟨call, hcall, hstep⟩
      exact sendMsg_effect hcall hstep
  | remove a =>
      rcases Option.map_eq_some_iff.mp h with ⟨⟨x, t⟩, hadvance, heq⟩
      rcases advance_some hadvance with ⟨hx, hphase, ht⟩
      rw [← heq, ht]
      exact Effect.removed hx hphase
  | finish a =>
      rcases Option.map_eq_some_iff.mp h with ⟨⟨x, t⟩, hadvance, heq⟩
      rcases advance_some hadvance with ⟨hx, hphase, ht⟩
      rw [← heq, ht]
      exact Effect.finished hx hphase

/-!
## Who holds an association
-/

theorem id_inj {x y : Association} (h : x.id = y.id) : x.fd = y.fd := by
  unfold Association.id at h
  cases hx : x.fd
  cases hy : y.fd
  rw [hx, hy] at h
  exact congrArg _ h

theorem mem_entries_iff {s : TnlaPool} {a : Nat} :
    (exists e, e ∈ s.assocs.entries ∧ e.snd = a) <->
      exists assocId, s.assocs.lookup assocId = some a := by
  constructor
  · intro h
    rcases h with ⟨⟨assocId, b⟩, hmem, heq⟩
    cases heq
    exact ⟨assocId, AList.mem_lookup_iff.mpr hmem⟩
  · intro h
    rcases h with ⟨assocId, hlookup⟩
    exact ⟨⟨assocId, a⟩, AList.mem_lookup_iff.mp hlookup, rfl⟩

theorem held_of_phase {s : TnlaPool} {a : Nat} {x : Association}
    (hx : s.associations[a]? = some x) (hphase : x.phase ≠ AssocPhase.ended) :
    s.Held a := by
  apply Or.inl
  unfold phaseOf
  rw [hx]
  exact hphase

theorem held_of_lookup {s : TnlaPool} {a : Nat} {assocId : AssocId}
    (h : s.assocs.lookup assocId = some a) : s.Held a :=
  Or.inr (Or.inl (mem_entries_iff.mpr ⟨assocId, h⟩))

theorem held_of_call {s : TnlaPool} {a k : Nat} {call : SendCall}
    (hcall : s.calls[k]? = some call) (h : call.phase.Holds a) : s.Held a :=
  Or.inr (Or.inr ⟨call, List.mem_of_getElem? hcall, h⟩)

theorem setPhase_getElem? {s : TnlaPool} {a b : Nat} {x : Association}
    (hx : s.associations[a]? = some x) (phase : AssocPhase) :
    (s.setPhase a x phase).associations[b]? =
      if a = b then some { x with phase := phase } else s.associations[b]? := by
  have hlt := (List.getElem?_eq_some_iff.mp hx).choose
  unfold setPhase
  rw [List.getElem?_set]
  cases Nat.decEq a b with
  | isTrue heq => rw [if_pos heq, if_pos heq, if_pos hlt]
  | isFalse hne => rw [if_neg hne, if_neg hne]

theorem held_setCall {s : TnlaPool} {k : Nat} {call : SendCall}
    {phase : SendPhase} (hphase : forall a, phase.Holds a -> s.Held a)
    {a : Nat} (h : (s.setCall k call phase).Held a) : s.Held a := by
  rcases h with hown | hentry | ⟨call', hmem, hholds⟩
  · exact Or.inl hown
  · exact Or.inr (Or.inl hentry)
  · rcases List.mem_or_eq_of_mem_set hmem with hold | hnew
    · exact Or.inr (Or.inr ⟨call', hold, hholds⟩)
    · rw [hnew] at hholds
      exact hphase a hholds

theorem held_newCall {s : TnlaPool} {replyTo : Option ReplyTo} {a : Nat}
    (h : Held { s with calls := s.calls ++ [⟨replyTo, SendPhase.start⟩] } a) :
    s.Held a := by
  rcases h with hown | hentry | ⟨call, hmem, hholds⟩
  · exact Or.inl hown
  · exact Or.inr (Or.inl hentry)
  · rcases List.mem_append.mp hmem with hold | hnew
    · exact Or.inr (Or.inr ⟨call, hold, hholds⟩)
    · cases List.mem_singleton.mp hnew
      cases hholds

theorem held_setPhase {s : TnlaPool} {a b : Nat} {x : Association}
    {phase : AssocPhase} {assocs : AList (fun _ : AssocId => Nat)}
    (hx : s.associations[a]? = some x) (hphase : x.phase ≠ AssocPhase.ended)
    (hassocs : forall assocId c, assocs.lookup assocId = some c ->
      c = a ∨ s.assocs.lookup assocId = some c)
    (h : Held { s.setPhase a x phase with assocs := assocs } b) : s.Held b := by
  cases Nat.decEq a b with
  | isTrue heq =>
      rw [← heq]
      exact held_of_phase hx hphase
  | isFalse hne =>
      rcases h with hown | hentry | hcall
      · apply Or.inl
        unfold phaseOf at hown ⊢
        replace hown : (match (s.setPhase a x phase).associations[b]? with
          | some x => x.phase
          | none => AssocPhase.ended) ≠ AssocPhase.ended := hown
        rw [setPhase_getElem? hx, if_neg hne] at hown
        exact hown
      · rcases mem_entries_iff.mp hentry with ⟨assocId, hlookup⟩
        rcases hassocs assocId b hlookup with heq | hold
        · exact absurd heq.symm hne
        · exact held_of_lookup hold
      · exact Or.inr (Or.inr hcall)

/-!
## One owner for each descriptor
-/

structure Owned (s : TnlaPool) : Prop where
  entry : forall assocId a, s.assocs.lookup assocId = some a ->
    exists x, s.associations[a]? = some x ∧ x.id = assocId ∧
      x.phase = AssocPhase.running
  running : forall (a : Nat) x, s.associations[a]? = some x ->
    x.phase = AssocPhase.running -> s.assocs.lookup x.id = some a
  known : forall a, s.Held a -> exists x, s.associations[a]? = some x
  /-- Associations that are held have different descriptors. -/
  single : forall (a b : Nat) x y, s.Held a -> s.Held b ->
    s.associations[a]? = some x -> s.associations[b]? = some y ->
      x.fd = y.fd -> a = b

theorem owned_start : Owned start where
  entry _ _ h := by cases h
  running _ _ h := by cases h
  known a h := by
    rcases h with hphase | ⟨e, hmem, _⟩ | ⟨call, hmem, _⟩
    · exact absurd rfl hphase
    · cases hmem
    · cases hmem
  single _ _ _ _ _ _ h := by cases h

theorem Owned.of_fewer {s s' : TnlaPool} (h : s.Owned)
    (hheld : forall a, s'.Held a -> s.Held a)
    (hfd : forall a : Nat, (s'.associations[a]?).map Association.fd =
      (s.associations[a]?).map Association.fd)
    (hentry : forall assocId a, s'.assocs.lookup assocId = some a ->
      exists x, s'.associations[a]? = some x ∧ x.id = assocId ∧
        x.phase = AssocPhase.running)
    (hrunning : forall (a : Nat) x, s'.associations[a]? = some x ->
      x.phase = AssocPhase.running -> s'.assocs.lookup x.id = some a) :
    s'.Owned := by
  have hback : forall (a : Nat) x', s'.associations[a]? = some x' ->
      exists x, s.associations[a]? = some x ∧ x.fd = x'.fd := by
    intro a x' hx'
    have hmap := hfd a
    rw [hx'] at hmap
    exact Option.map_eq_some_iff.mp hmap.symm
  constructor
  · exact hentry
  · exact hrunning
  · intro a ha
    rcases h.known a (hheld a ha) with ⟨x, hx⟩
    have hmap := hfd a
    rw [hx] at hmap
    rcases Option.map_eq_some_iff.mp hmap with ⟨x', hx', _⟩
    exact ⟨x', hx'⟩
  · intro a b x' y' ha hb hx' hy' hsame
    rcases hback a x' hx' with ⟨x, hx, hxfd⟩
    rcases hback b y' hy' with ⟨y, hy, hyfd⟩
    exact h.single a b x y (hheld a ha) (hheld b hb) hx hy
      (hxfd.trans (hsame.trans hyfd.symm))

theorem Owned.setCall {s : TnlaPool} (h : s.Owned) {k : Nat} {call : SendCall}
    {phase : SendPhase} (hphase : forall a, phase.Holds a -> s.Held a) :
    (s.setCall k call phase).Owned :=
  h.of_fewer (fun _ => held_setCall hphase) (fun _ => rfl) h.entry h.running

theorem setPhase_fd {s : TnlaPool} {a : Nat} {x : Association}
    (hx : s.associations[a]? = some x) (phase : AssocPhase) (b : Nat) :
    ((s.setPhase a x phase).associations[b]?).map Association.fd =
      (s.associations[b]?).map Association.fd := by
  rw [setPhase_getElem? hx]
  cases Nat.decEq a b with
  | isTrue heq =>
      rw [if_pos heq, ← heq, hx]
      rfl
  | isFalse hne => rw [if_neg hne]

theorem getElem?_other {s : TnlaPool} {a b : Nat} {x y : Association}
    (hx : s.associations[a]? = some x) (hy : s.associations[b]? = some y)
    (hne : x.phase ≠ y.phase) : a ≠ b := by
  intro heq
  rw [heq, hy] at hx
  cases hx
  exact hne rfl

theorem Owned.lookup_created {s : TnlaPool} (h : s.Owned) {a : Nat}
    {x : Association} (hx : s.associations[a]? = some x)
    (hphase : x.phase = AssocPhase.created) : s.assocs.lookup x.id = none := by
  cases hlookup : s.assocs.lookup x.id with
  | none => rfl
  | some b =>
      rcases h.entry x.id b hlookup with ⟨y, hy, hid, hrunning⟩
      have hother := getElem?_other hx hy (by simp [hphase, hrunning])
      have hsame := h.single a b x y (held_of_phase hx (by simp [hphase]))
        (held_of_lookup hlookup) hx hy (id_inj hid.symm)
      exact absurd hsame hother

theorem getElem?_accepted {l : List Association} {new x : Association} {a : Nat}
    (h : (l ++ [new])[a]? = some x) :
    l[a]? = some x ∨ a = l.length ∧ x = new := by
  rcases Nat.lt_or_ge a l.length with hlt | hge
  · rw [List.getElem?_append_left hlt] at h
    exact Or.inl h
  · rw [List.getElem?_append_right hge, List.getElem?_singleton,
      Option.ite_none_right_eq_some] at h
    rcases h with ⟨hzero, hsame⟩
    exact Or.inr ⟨by lia, (Option.some.inj hsame).symm⟩

theorem held_accepted {s : TnlaPool} {new : Association} {a : Nat}
    (hne : a ≠ s.associations.length)
    (h : Held { s with associations := s.associations ++ [new] } a) :
    s.Held a := by
  rcases h with hphase | hentry | hcall
  · apply Or.inl
    intro hended
    apply hphase
    unfold phaseOf at hended ⊢
    cases hx : (s.associations ++ [new])[a]? with
    | none => rfl
    | some x =>
        rcases getElem?_accepted hx with hsome | ⟨heq, _⟩
        · rw [hsome] at hended
          exact hended
        · exact absurd heq hne
  · exact Or.inr (Or.inl hentry)
  · exact Or.inr (Or.inr hcall)

theorem fd_ne_of_not_open {s : TnlaPool} {fd : Int32} (hclosed : ¬ s.Open fd)
    {a : Nat} {x : Association} (hx : s.associations[a]? = some x)
    (hheld : s.Held a) : x.fd ≠ fd := by
  intro heq
  apply hclosed
  refine ⟨a, (List.getElem?_eq_some_iff.mp hx).choose, ?_, hheld⟩
  rw [hx, ← heq]
  rfl

theorem owned_accepted {s : TnlaPool} {fd : Int32} (h : s.Owned)
    (hclosed : ¬ s.Open fd) :
    Owned { s with
      associations := s.associations ++ [⟨fd, AssocPhase.created⟩] } := by
  have hlt : forall (a : Nat) x, s.associations[a]? = some x ->
      a < s.associations.length :=
    fun _ _ hx => (List.getElem?_eq_some_iff.mp hx).choose
  constructor
  · intro assocId a hlookup
    rcases h.entry assocId a hlookup with ⟨x, hx, hrest⟩
    exact ⟨x, (List.getElem?_append_left (hlt a x hx)).trans hx, hrest⟩
  · intro a x hx hphase
    rcases getElem?_accepted hx with hsome | ⟨_, heq⟩
    · exact h.running a x hsome hphase
    · rw [heq] at hphase
      cases hphase
  · intro a ha
    cases Nat.decEq a s.associations.length with
    | isTrue heq =>
        rw [heq]
        exact ⟨_, List.getElem?_concat_length⟩
    | isFalse hne =>
        rcases h.known a (held_accepted hne ha) with ⟨x, hx⟩
        exact ⟨x, (List.getElem?_append_left (hlt a x hx)).trans hx⟩
  · intro a b x y ha hb hx hy hsame
    rcases getElem?_accepted hx with hxold | ⟨halen, hxnew⟩
    · have haold := held_accepted (Nat.ne_of_lt (hlt a x hxold)) ha
      rcases getElem?_accepted hy with hyold | ⟨hblen, hynew⟩
      · have hbold := held_accepted (Nat.ne_of_lt (hlt b y hyold)) hb
        exact h.single a b x y haold hbold hxold hyold hsame
      · rw [hynew] at hsame
        exact absurd hsame (fd_ne_of_not_open hclosed hxold haold)
    · rcases getElem?_accepted hy with hyold | ⟨hblen, _⟩
      · have hbold := held_accepted (Nat.ne_of_lt (hlt b y hyold)) hb
        rw [hxnew] at hsame
        exact absurd hsame.symm (fd_ne_of_not_open hclosed hyold hbold)
      · exact halen.trans hblen.symm

theorem owned_added {s : TnlaPool} {a : Nat} {x : Association} (h : s.Owned)
    (hx : s.associations[a]? = some x)
    (hphase : x.phase = AssocPhase.created) :
    Owned { s.setPhase a x AssocPhase.running with
      assocs := s.assocs.insert x.id a } := by
  have hfresh := h.lookup_created hx hphase
  apply h.of_fewer
  · intro b
    apply held_setPhase hx (by simp [hphase])
    intro assocId c hlookup
    cases decEq assocId x.id with
    | isTrue heq =>
        rw [heq, AList.lookup_insert] at hlookup
        exact Or.inl (Option.some.inj hlookup).symm
    | isFalse hne =>
        rw [AList.lookup_insert_ne hne] at hlookup
        exact Or.inr hlookup
  · exact setPhase_fd hx _
  · intro assocId c hlookup
    cases decEq assocId x.id with
    | isTrue heq =>
        rw [heq, AList.lookup_insert] at hlookup
        cases hlookup
        exact ⟨_, (setPhase_getElem? hx _).trans (if_pos rfl), heq.symm, rfl⟩
    | isFalse hne =>
        rw [AList.lookup_insert_ne hne] at hlookup
        rcases h.entry assocId c hlookup with ⟨y, hy, hid, hrunning⟩
        have hother := getElem?_other hx hy (by simp [hphase, hrunning])
        exact ⟨y, ((setPhase_getElem? hx _).trans (if_neg hother)).trans hy, hid,
          hrunning⟩
  · intro b y hy hrunning
    replace hy := (setPhase_getElem? hx _).symm.trans hy
    cases Nat.decEq a b with
    | isTrue heq =>
        rw [if_pos heq] at hy
        cases hy
        rw [← heq]
        exact AList.lookup_insert _
    | isFalse hne =>
        rw [if_neg hne] at hy
        have hlookup := h.running b y hy hrunning
        have hid : y.id ≠ x.id := by
          intro heq
          rw [heq, hfresh] at hlookup
          cases hlookup
        exact (AList.lookup_insert_ne hid).trans hlookup

theorem owned_removed {s : TnlaPool} {a : Nat} {x : Association} (h : s.Owned)
    (hx : s.associations[a]? = some x)
    (hphase : x.phase = AssocPhase.running) :
    Owned { s.setPhase a x AssocPhase.removed with
      assocs := s.assocs.erase x.id } := by
  have hown := h.running a x hx hphase
  have hkept : forall assocId c, (s.assocs.erase x.id).lookup assocId = some c ->
      assocId ≠ x.id ∧ s.assocs.lookup assocId = some c := by
    intro assocId c hlookup
    cases decEq assocId x.id with
    | isTrue heq =>
        rw [heq, AList.lookup_erase] at hlookup
        cases hlookup
    | isFalse hne =>
        rw [AList.lookup_erase_ne hne] at hlookup
        exact ⟨hne, hlookup⟩
  apply h.of_fewer
  · intro b
    apply held_setPhase hx (by simp [hphase])
    exact fun assocId c hlookup => Or.inr (hkept assocId c hlookup).right
  · exact setPhase_fd hx _
  · intro assocId c hlookup
    rcases hkept assocId c hlookup with ⟨hne, hold⟩
    rcases h.entry assocId c hold with ⟨y, hy, hid, hrunning⟩
    have hother : a ≠ c := by
      intro heq
      rw [heq, hy] at hx
      cases hx
      exact hne hid.symm
    exact ⟨y, ((setPhase_getElem? hx _).trans (if_neg hother)).trans hy, hid,
      hrunning⟩
  · intro b y hy hrunning
    replace hy := (setPhase_getElem? hx _).symm.trans hy
    cases Nat.decEq a b with
    | isTrue heq =>
        rw [if_pos heq] at hy
        cases hy
        cases hrunning
    | isFalse hne =>
        rw [if_neg hne] at hy
        have hlookup := h.running b y hy hrunning
        have hid : y.id ≠ x.id := by
          intro heq
          rw [heq, hown] at hlookup
          exact hne (Option.some.inj hlookup)
        exact (AList.lookup_erase_ne hid).trans hlookup

theorem owned_setPhase {s : TnlaPool} {a : Nat} {x : Association}
    {phase : AssocPhase} (h : s.Owned) (hx : s.associations[a]? = some x)
    (hold : x.phase ≠ AssocPhase.ended) (hnot : x.phase ≠ AssocPhase.running)
    (hnew : phase ≠ AssocPhase.running) : (s.setPhase a x phase).Owned := by
  apply h.of_fewer
  · intro b
    exact held_setPhase hx hold fun _ _ hlookup => Or.inr hlookup
  · exact setPhase_fd hx _
  · intro assocId c hlookup
    rcases h.entry assocId c hlookup with ⟨y, hy, hid, hrunning⟩
    have hother := getElem?_other hx hy (by rw [hrunning]; exact hnot)
    exact ⟨y, ((setPhase_getElem? hx _).trans (if_neg hother)).trans hy, hid,
      hrunning⟩
  · intro b y hy hrunning
    rw [setPhase_getElem? hx] at hy
    cases Nat.decEq a b with
    | isTrue heq =>
        rw [if_pos heq] at hy
        cases hy
        exact absurd hrunning hnew
    | isFalse hne =>
        rw [if_neg hne] at hy
        exact h.running b y hy hrunning

theorem owned_effect {s s' : TnlaPool} {event : PoolEvent} (h : s.Owned)
    (heffect : Effect s event s') : s'.Owned := by
  cases heffect with
  | accepted hclosed => exact owned_accepted h hclosed
  | discarded hx hphase =>
      exact owned_setPhase h hx (by simp [hphase]) (by simp [hphase]) (by simp)
  | added hx hphase => exact owned_added h hx hphase
  | requested _ _ =>
      exact h.of_fewer (fun _ => held_newCall) (fun _ => rfl) h.entry h.running
  | called =>
      exact h.of_fewer (fun _ => held_newCall) (fun _ => rfl) h.entry h.running
  | @lookedUp k call _ _ =>
      apply h.setCall
      intro a hholds
      rcases Option.bind_eq_some_iff.mp hholds with ⟨r, _, hlookup⟩
      exact held_of_lookup hlookup
  | foundNone hcall hphase _ =>
      apply h.setCall
      intro a hholds
      rcases hholds with hfirst | hsecond
      · exact held_of_call hcall (by rw [hphase]; exact hfirst)
      · cases hsecond
  | foundSome hcall hphase hlookup =>
      apply h.setCall
      intro a hholds
      rcases hholds with hfirst | hsecond
      · exact held_of_call hcall (by rw [hphase]; exact hfirst)
      · cases hsecond
        exact held_of_lookup hlookup
  | @chosen k call first second a hcall hphase hchoice =>
      apply h.setCall
      intro b hholds
      cases hholds
      apply held_of_call hcall
      rw [hphase]
      exact Option.or_eq_some_iff.mp hchoice |>.imp id fun hor => hor.right
  | failed _ _ => exact h.setCall fun _ hholds => by cases hholds
  | @sent k call a ok _ _ =>
      have hdone : (s.setCall k call SendPhase.done).Owned :=
        h.setCall fun _ hholds => by cases hholds
      exact ⟨hdone.entry, hdone.running, hdone.known, hdone.single⟩
  | removed hx hphase => exact owned_removed h hx hphase
  | finished hx hphase =>
      exact owned_setPhase h hx (by simp [hphase]) (by simp [hphase]) (by simp)

/-!
## Ids of associations
-/

/-- The entry under an id is the association with that descriptor, and its task
is running. -/
def EntriesRun (s : TnlaPool) : Prop :=
  forall assocId a, s.assocs.lookup assocId = some a ->
    exists x, s.associations[a]? = some x ∧ x.id = assocId ∧
      x.phase = AssocPhase.running

/-- An insertion does not overwrite an entry, and a removal takes out the entry
of the task that removes. -/
def OwnEntry (s : TnlaPool) : PoolEvent -> Prop
  | PoolEvent.addAndHandle a =>
      forall x, s.associations[a]? = some x ->
        x.phase = AssocPhase.created -> s.assocs.lookup x.id = none
  | PoolEvent.remove a =>
      forall x, s.associations[a]? = some x ->
        x.phase = AssocPhase.running -> s.assocs.lookup x.id = some a
  | _ => True

/-- The ids of the pool are never confused, although they are descriptors that
the kernel uses again. -/
theorem ids_unconfused (events : List PoolEvent) :
    poolMachine.Always EntriesRun start events ∧
      poolMachine.Along OwnEntry start events := by
  have hinv : forall s event s', Owned s ->
      poolMachine.step s event = some s' -> Owned s' := by
    intro s event s' h hstep
    exact owned_effect h (step_effect hstep)
  constructor
  · exact Machine.always_of_invariant hinv (fun _ h => h.entry) owned_start
      events
  · apply Machine.along_of_invariant hinv _ owned_start
    intro s event h
    cases event with
    | addAndHandle a => exact fun x hx hphase => h.lookup_created hx hphase
    | remove a => exact h.running a
    | _ => trivial

/-!
## Where responses go
-/

/-- No response is sent on another association than the one that its request
came from, or is about to be. -/
structure RoutedBack (s : TnlaPool) : Prop where
  responded : forall origin a, (origin, a) ∈ s.responses -> a = origin
  chosen : forall call r a, call ∈ s.calls -> call.replyTo = some r ->
    call.phase.choice = some a -> a = r.association

/-- The lookup for a response finds the association of the request or nothing,
and in the latter case the pool has no other association to fall back to. -/
def SelectsOrigin (s : TnlaPool) : PoolEvent -> Prop
  | PoolEvent.lookUp k =>
      forall call r a, s.calls[k]? = some call ->
        call.phase = SendPhase.start -> call.replyTo = some r ->
        s.assocs.lookup r.assocId = some a -> a = r.association
  | PoolEvent.iterate k (some assocId) =>
      forall call r a, s.calls[k]? = some call ->
        call.phase = SendPhase.lookedUp none -> call.replyTo = some r ->
        s.assocs.lookup assocId = some a -> a = r.association
  | _ => True

theorem routedBack_start : RoutedBack start where
  responded _ _ h := by cases h
  chosen _ _ _ h := by cases h

theorem routedBack_setCall_iff {s : TnlaPool} (h : s.RoutedBack) {k : Nat}
    {call : SendCall} {phase : SendPhase} (hcall : s.calls[k]? = some call) :
    (s.setCall k call phase).RoutedBack <->
      forall r a, call.replyTo = some r -> phase.choice = some a ->
        a = r.association := by
  have hlt := (List.getElem?_eq_some_iff.mp hcall).choose
  constructor
  · intro hafter r a hreply hchoice
    exact hafter.chosen { call with phase := phase } r a
      (List.mem_set hlt _) hreply hchoice
  · intro hnew
    constructor
    · exact h.responded
    · intro call' r a hmem hreply hchoice
      rcases List.mem_or_eq_of_mem_set hmem with hold | heq
      · exact h.chosen call' r a hold hreply hchoice
      · rw [heq] at hreply hchoice
        exact hnew r a hreply hchoice

theorem routedBack_setCall_same {s : TnlaPool} (h : s.RoutedBack) {k : Nat}
    {call : SendCall} {phase : SendPhase} (hcall : s.calls[k]? = some call)
    (hsame : forall a, phase.choice = some a ->
      call.phase.choice = some a) : (s.setCall k call phase).RoutedBack := by
  apply (routedBack_setCall_iff h hcall).mpr
  intro r a hreply hchoice
  exact h.chosen call r a (List.mem_of_getElem? hcall) hreply (hsame a hchoice)

theorem routedBack_newCall {s : TnlaPool} (h : s.RoutedBack)
    (replyTo : Option ReplyTo) :
    RoutedBack { s with calls := s.calls ++ [⟨replyTo, SendPhase.start⟩] } := by
  constructor
  · exact h.responded
  · intro call r a hmem hreply hchoice
    rcases List.mem_append.mp hmem with hold | hnew
    · exact h.chosen call r a hold hreply hchoice
    · cases List.mem_singleton.mp hnew
      cases hchoice

theorem routedBack_sent {s : TnlaPool} (h : s.RoutedBack) {k a : Nat}
    {call : SendCall} {ok : Bool} (hcall : s.calls[k]? = some call)
    (hphase : call.phase = SendPhase.sending a) :
    RoutedBack { s.setCall k call SendPhase.done with
      responses := s.responses ++
        (if ok then call.replyTo.toList.map fun r => (r.association, a)
          else []) } := by
  have hdone : (s.setCall k call SendPhase.done).RoutedBack :=
    routedBack_setCall_same h hcall fun _ hchoice => by cases hchoice
  constructor
  · intro origin b hmem
    rcases List.mem_append.mp hmem with hold | hnew
    · exact h.responded origin b hold
    · cases ok with
      | false => cases hnew
      | true =>
          rcases List.mem_map.mp hnew with ⟨r, hr, heq⟩
          cases heq
          exact h.chosen call r a (List.mem_of_getElem? hcall)
            (Option.mem_toList.mp hr) (by rw [hphase]; rfl)
  · exact hdone.chosen

theorem selectsOrigin_iff {s s' : TnlaPool} {event : PoolEvent}
    (h : s.RoutedBack) (heffect : Effect s event s') :
    s.SelectsOrigin event <-> s'.RoutedBack := by
  cases heffect with
  | accepted _ => exact ⟨fun _ => ⟨h.responded, h.chosen⟩, fun _ => trivial⟩
  | discarded _ _ => exact ⟨fun _ => ⟨h.responded, h.chosen⟩, fun _ => trivial⟩
  | added _ _ => exact ⟨fun _ => ⟨h.responded, h.chosen⟩, fun _ => trivial⟩
  | removed _ _ => exact ⟨fun _ => ⟨h.responded, h.chosen⟩, fun _ => trivial⟩
  | finished _ _ => exact ⟨fun _ => ⟨h.responded, h.chosen⟩, fun _ => trivial⟩
  | requested _ _ => exact ⟨fun _ => routedBack_newCall h _, fun _ => trivial⟩
  | called => exact ⟨fun _ => routedBack_newCall h _, fun _ => trivial⟩
  | @lookedUp k call hcall hphase =>
      rw [routedBack_setCall_iff h hcall]
      constructor
      · intro hgood r a hreply hchoice
        rw [hreply] at hchoice
        exact hgood call r a hcall hphase hreply hchoice
      · intro hnew call' r a hcall' _ hreply hlookup
        rw [hcall] at hcall'
        cases hcall'
        apply hnew r a hreply
        rw [hreply]
        exact hlookup
  | foundNone hcall hphase _ =>
      constructor
      · intro _
        apply routedBack_setCall_same h hcall
        intro a hchoice
        rw [hphase]
        exact (Option.or_none).symm.trans hchoice
      · exact fun _ => trivial
  | @foundSome k call first assocId b hcall hphase hlookup =>
      cases first with
      | some a =>
          constructor
          · intro _
            apply routedBack_setCall_same h hcall
            intro c hchoice
            rw [hphase]
            exact hchoice
          · intro _ call' r c hcall' hphase' _ _
            rw [hcall] at hcall'
            cases hcall'
            rw [hphase] at hphase'
            cases hphase'
      | none =>
          rw [routedBack_setCall_iff h hcall]
          constructor
          · intro hgood r a hreply hchoice
            cases hchoice
            exact hgood call r b hcall hphase hreply hlookup
          · intro hnew call' r a hcall' _ hreply hlookup'
            rw [hcall] at hcall'
            cases hcall'
            rw [hlookup] at hlookup'
            cases hlookup'
            exact hnew r b hreply rfl
  | chosen hcall hphase hchoice =>
      constructor
      · intro _
        apply routedBack_setCall_same h hcall
        intro a hsome
        rw [hphase]
        exact hchoice.trans hsome
      · exact fun _ => trivial
  | failed hcall _ =>
      constructor
      · intro _
        exact routedBack_setCall_same h hcall fun _ hchoice => by cases hchoice
      · exact fun _ => trivial
  | sent hcall hphase =>
      exact ⟨fun _ => routedBack_sent h hcall hphase, fun _ => trivial⟩

theorem selectsOrigin_of_refused {s : TnlaPool} {event : PoolEvent}
    (hnone : poolMachine.step s event = none) : s.SelectsOrigin event := by
  replace hnone : s.step event = none := hnone
  cases event with
  | lookUp k =>
      intro call r a hcall hphase _ _
      simp [step, hcall, lookUp, hphase] at hnone
  | iterate k assocId =>
      cases assocId with
      | none => trivial
      | some assocId =>
          intro call r a hcall hphase _ hlookup
          simp [step, hcall, iterate, hphase, hlookup] at hnone
  | _ => trivial

/-- Responses go back where their requests came from, exactly when every lookup
for a response finds that association, or finds nothing while the pool has no
other association. -/
theorem routedBack_iff (events : List PoolEvent) :
    poolMachine.Always RoutedBack start events <->
      poolMachine.Along SelectsOrigin start events := by
  apply Machine.always_iff_along (J := fun _ => True)
  · exact fun _ _ _ _ _ => trivial
  · intro s event _ _ hnone
    exact selectsOrigin_of_refused hnone
  · intro s event s' h _ hstep
    exact selectsOrigin_iff h (step_effect hstep)
  · exact routedBack_start
  · trivial

/-- An association terminates while a request from it is handled, and another
one is up. -/
def originGone : List PoolEvent :=
  [PoolEvent.accept 5, PoolEvent.addAndHandle 0, PoolEvent.accept 6,
    PoolEvent.addAndHandle 1, PoolEvent.handleMessage 0, PoolEvent.remove 0,
    PoolEvent.lookUp 0, PoolEvent.iterate 0 (some 6), PoolEvent.choose 0,
    PoolEvent.sendMsg 0 true]

/-- The next association gets the descriptor of the one that terminated. -/
def descriptorReused : List PoolEvent :=
  [PoolEvent.accept 5, PoolEvent.addAndHandle 0, PoolEvent.handleMessage 0,
    PoolEvent.remove 0, PoolEvent.finish 0, PoolEvent.accept 5,
    PoolEvent.addAndHandle 1, PoolEvent.lookUp 0,
    PoolEvent.iterate 0 (some 5), PoolEvent.choose 0, PoolEvent.sendMsg 0 true]

theorem not_routedBack_of_responses {s : TnlaPool}
    (h : s.responses = [(0, 1)]) : ¬ s.RoutedBack := by
  intro hback
  cases hback.responded 0 1 (by rw [h]; exact List.mem_cons_self)

/-- In both cases the response to a request from association 0 is sent on
association 1. -/
theorem not_routedBack_originGone :
    (exists s, poolMachine.run start originGone = some s ∧
        s.responses = [(0, 1)] ∧ ¬ s.RoutedBack) ∧
      exists s, poolMachine.run start descriptorReused = some s ∧
        s.responses = [(0, 1)] ∧ ¬ s.RoutedBack := by
  have hgone : (poolMachine.run start originGone).map responses =
      some [(0, 1)] := by
    decide +kernel
  have hreused : (poolMachine.run start descriptorReused).map responses =
      some [(0, 1)] := by
    decide +kernel
  rcases Option.map_eq_some_iff.mp hgone with ⟨s, hs, hresponses⟩
  rcases Option.map_eq_some_iff.mp hreused with ⟨t, ht, hresponses'⟩
  exact ⟨⟨s, hs, hresponses, not_routedBack_of_responses hresponses⟩,
    ⟨t, ht, hresponses', not_routedBack_of_responses hresponses'⟩⟩

end TnlaPool

end Stack
end QCore
