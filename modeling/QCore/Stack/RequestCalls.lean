import QCore.F1ap.Messages
import QCore.Stack.Transactions

/-!
# Calls of `request`

A call encodes its request, puts an entry on the list of pending requests, sends
the request and waits on its channel.  The calls and the receivers of the
associations run in any order.

A call is named by a number.  Whether the encoding and the sending succeed is
part of the event, and decoding the response is a parameter.
-/

namespace QCore
namespace Stack

open Foundation
open F1ap

/-- Where a call of `request` for a procedure code stands. -/
inductive CallPhase (answer : Type) where
  | encoded (code : UInt8)
  | registered (code : UInt8)
  | waiting (code : UInt8)
  | returned (result : Except RequestError answer)

structure RequestCalls (answer : Type) where
  stack : Transactions Nat
  phase : Nat -> Option (CallPhase answer)
  /-- The calls whose request has been sent, with their codes. -/
  sent : List (Pending Nat)

inductive CallEvent where
  | encode (call : Nat) (code : UInt8) (ok : Bool)
  | push (call : Nat)
  | send (call : Nat) (ok : Bool)
  | recv (call : Nat)
  | receiver (event : Event Nat)

namespace RequestCalls

variable {answer : Type}

def start : RequestCalls answer where
  stack := Transactions.start
  phase := fun _ => none
  sent := []

def setPhase (s : RequestCalls answer) (call : Nat) (phase : CallPhase answer) :
    RequestCalls answer :=
  { s with phase := Function.update s.phase call (some phase) }

def NotPending (s : RequestCalls answer) (call : Nat) : Prop :=
  forall p, p ∈ s.stack.pendingRequests -> p.caller ≠ call

instance (s : RequestCalls answer) (call : Nat) :
    Decidable (s.NotPending call) :=
  inferInstanceAs (Decidable (forall p, p ∈ s.stack.pendingRequests -> _))

variable (decode : UInt8 -> Message -> Except RequestError answer)

/-- `receiver.recv()` returns the message on the channel, or an error when the
other end is gone. -/
def recv (s : RequestCalls answer) (call : Nat) (code : UInt8) :
    Option (RequestCalls answer) :=
  match s.stack.responses.find? (fun response => response.1 = call) with
  | some response =>
      some (s.setPhase call (CallPhase.returned (decode code response.2)))
  | none =>
      if s.NotPending call then
        some (s.setPhase call
          (CallPhase.returned (Except.error RequestError.other)))
      else
        none

def step (s : RequestCalls answer) : CallEvent -> Option (RequestCalls answer)
  | CallEvent.encode call code ok =>
      match s.phase call with
      | none =>
          some (s.setPhase call
            (if ok then CallPhase.encoded code
              else CallPhase.returned (Except.error RequestError.other)))
      | some _ => none
  | CallEvent.push call =>
      match s.phase call with
      | some (CallPhase.encoded code) =>
          (s.stack.step (Event.push ⟨call, code⟩)).map fun t =>
            { s with stack := t }.setPhase call (CallPhase.registered code)
      | _ => none
  | CallEvent.send call true =>
      match s.phase call with
      | some (CallPhase.registered code) =>
          some ({ s with sent := s.sent ++ [Pending.mk call code] }.setPhase
            call (CallPhase.waiting code))
      | _ => none
  | CallEvent.send call false =>
      match s.phase call with
      | some (CallPhase.registered _) =>
          some (s.setPhase call
            (CallPhase.returned (Except.error RequestError.other)))
      | _ => none
  | CallEvent.recv call =>
      match s.phase call with
      | some (CallPhase.waiting code) => s.recv decode call code
      | _ => none
  | CallEvent.receiver (Event.push _) => none
  | CallEvent.receiver event =>
      (s.stack.step event).map fun t => { s with stack := t }

end RequestCalls

def callMachine {answer : Type}
    (decode : UInt8 -> Message -> Except RequestError answer) :
    Machine (RequestCalls answer) CallEvent where
  step := RequestCalls.step decode

namespace RequestCalls

variable {answer : Type} {decode : UInt8 -> Message -> Except RequestError answer}

/-!
## The effect of an event
-/

inductive Effect (s : RequestCalls answer) :
    CallEvent -> RequestCalls answer -> Prop where
  | encoded {call : Nat} {code : UInt8} :
      s.phase call = none ->
      Effect s (CallEvent.encode call code true)
        (s.setPhase call (CallPhase.encoded code))
  | encodeFailed {call : Nat} {code : UInt8}
      {result : Except RequestError answer} :
      s.phase call = none ->
      Effect s (CallEvent.encode call code false)
        (s.setPhase call (CallPhase.returned result))
  | pushed {call : Nat} {code : UInt8} {t : Transactions Nat} :
      s.phase call = some (CallPhase.encoded code) ->
      Transactions.Effect s.stack (Event.push ⟨call, code⟩) t ->
      Effect s (CallEvent.push call)
        ({ s with stack := t }.setPhase call (CallPhase.registered code))
  | sent {call : Nat} {code : UInt8} :
      s.phase call = some (CallPhase.registered code) ->
      Effect s (CallEvent.send call true)
        ({ s with sent := s.sent ++ [Pending.mk call code] }.setPhase call
          (CallPhase.waiting code))
  | sendFailed {call : Nat} {code : UInt8}
      {result : Except RequestError answer} :
      s.phase call = some (CallPhase.registered code) ->
      Effect s (CallEvent.send call false)
        (s.setPhase call (CallPhase.returned result))
  | answered {call : Nat} {code : UInt8} {message : Message}
      {result : Except RequestError answer} :
      s.phase call = some (CallPhase.waiting code) ->
      (call, message) ∈ s.stack.responses ->
      Effect s (CallEvent.recv call)
        (s.setPhase call (CallPhase.returned result))
  | closed {call : Nat} {code : UInt8}
      {result : Except RequestError answer} :
      s.phase call = some (CallPhase.waiting code) -> s.NotPending call ->
      Effect s (CallEvent.recv call)
        (s.setPhase call (CallPhase.returned result))
  | received {event : Event Nat} {t : Transactions Nat} :
      (forall entry, event ≠ Event.push entry) ->
      Transactions.Effect s.stack event t ->
      Effect s (CallEvent.receiver event) { s with stack := t }

theorem recv_effect {s s' : RequestCalls answer} {call : Nat} {code : UInt8}
    (hphase : s.phase call = some (CallPhase.waiting code))
    (h : s.recv decode call code = some s') :
    Effect s (CallEvent.recv call) s' := by
  unfold recv at h
  cases hfind : s.stack.responses.find? (fun r => r.1 = call) with
  | some response =>
      rw [hfind] at h
      cases h
      have hcall : response.1 = call := by
        simpa using List.find?_some hfind
      have hmem := List.mem_of_find?_eq_some hfind
      rw [← hcall] at hphase ⊢
      exact Effect.answered hphase hmem
  | none =>
      rw [hfind] at h
      simp only [Option.ite_none_right_eq_some] at h
      rcases h with ⟨hnot, heq⟩
      cases heq
      exact Effect.closed hphase hnot

theorem receiver_effect {s s' : RequestCalls answer} {event : Event Nat}
    (hnot : forall entry, event ≠ Event.push entry)
    (h : (s.stack.step event).map (fun t => { s with stack := t }) = some s') :
    Effect s (CallEvent.receiver event) s' := by
  rcases Option.map_eq_some_iff.mp h with ⟨t, ht, heq⟩
  rw [← heq]
  exact Effect.received hnot (Transactions.step_effect ht)

theorem step_effect {s s' : RequestCalls answer} {event : CallEvent}
    (h : (callMachine decode).step s event = some s') : Effect s event s' := by
  replace h : step decode s event = some s' := h
  cases event with
  | encode call code ok =>
      cases hphase : s.phase call with
      | some phase => simp [step, hphase] at h
      | none =>
          simp only [step, hphase] at h
          cases ok with
          | true =>
              cases h
              exact Effect.encoded hphase
          | false =>
              cases h
              exact Effect.encodeFailed hphase
  | push call =>
      cases hphase : s.phase call with
      | none => simp [step, hphase] at h
      | some phase =>
          cases phase with
          | encoded code =>
              simp only [step, hphase] at h
              rcases Option.map_eq_some_iff.mp h with ⟨t, ht, heq⟩
              rw [← heq]
              exact Effect.pushed hphase (Transactions.step_effect ht)
          | _ => simp [step, hphase] at h
  | send call ok =>
      cases hphase : s.phase call with
      | none => cases ok <;> simp [step, hphase] at h
      | some phase =>
          cases phase with
          | registered code =>
              cases ok with
              | true =>
                  simp only [step, hphase] at h
                  cases h
                  exact Effect.sent hphase
              | false =>
                  simp only [step, hphase] at h
                  cases h
                  exact Effect.sendFailed hphase
          | _ => cases ok <;> simp [step, hphase] at h
  | recv call =>
      cases hphase : s.phase call with
      | none => simp [step, hphase] at h
      | some phase =>
          cases phase with
          | waiting code =>
              simp only [step, hphase] at h
              exact recv_effect hphase h
          | _ => simp [step, hphase] at h
  | receiver event =>
      cases event with
      | push entry => cases h
      | find assoc message => exact receiver_effect (by simp) h
      | swapRemove assoc => exact receiver_effect (by simp) h
      | drain assoc => exact receiver_effect (by simp) h

/-!
## Entries and calls
-/

def Entered (s : RequestCalls answer) (call : Nat) : Prop :=
  exists phase, s.phase call = some phase ∧
    forall code, phase ≠ CallPhase.encoded code

structure Registered (s : RequestCalls answer) : Prop where
  entered : forall p, p ∈ s.stack.pendingRequests -> s.Entered p.caller
  responded : forall call message, (call, message) ∈ s.stack.responses ->
    s.Entered call
  single : s.stack.pendingRequests.Pairwise fun p q => p.caller ≠ q.caller
  taken : forall call message, (call, message) ∈ s.stack.responses ->
    s.NotPending call

theorem registered_start : Registered (start : RequestCalls answer) where
  entered _ h := by cases h
  responded _ _ h := by cases h
  single := List.Pairwise.nil
  taken _ _ h := by cases h

theorem entered_setPhase {s : RequestCalls answer} {call other : Nat}
    {phase : CallPhase answer}
    (hphase : s.Entered call -> forall code, phase ≠ CallPhase.encoded code)
    (h : s.Entered other) : (s.setPhase call phase).Entered other := by
  cases Nat.decEq other call with
  | isTrue heq =>
      rw [heq] at h ⊢
      exact ⟨phase, Function.update_self _ _ _, hphase h⟩
  | isFalse hne =>
      rcases h with ⟨old, hold, hnot⟩
      exact ⟨old, (Function.update_of_ne hne _ _).trans hold, hnot⟩

theorem registered_setPhase {s : RequestCalls answer} {call : Nat}
    {phase : CallPhase answer} (h : s.Registered)
    (hphase : s.Entered call -> forall code, phase ≠ CallPhase.encoded code) :
    (s.setPhase call phase).Registered where
  entered p hp := entered_setPhase hphase (h.entered p hp)
  responded c m hm := entered_setPhase hphase (h.responded c m hm)
  single := h.single
  taken := h.taken

theorem not_entered_of_none {s : RequestCalls answer} {call : Nat}
    (h : s.phase call = none) : ¬ s.Entered call := by
  intro hentered
  rcases hentered with ⟨phase, hphase, _⟩
  rw [h] at hphase
  cases hphase

theorem not_entered_of_encoded {s : RequestCalls answer} {call : Nat}
    {code : UInt8} (h : s.phase call = some (CallPhase.encoded code)) :
    ¬ s.Entered call := by
  intro hentered
  rcases hentered with ⟨phase, hphase, hnot⟩
  rw [h] at hphase
  cases hphase
  exact hnot code rfl

theorem registered_pushed {s : RequestCalls answer} {call : Nat} {code : UInt8}
    (h : s.Registered)
    (hphase : s.phase call = some (CallPhase.encoded code)) :
    Registered ({ s with
      stack := { s.stack with
        pendingRequests := s.stack.pendingRequests ++ [Pending.mk call code]
        asked := s.stack.asked ++ [Pending.mk call code] } }.setPhase call
      (CallPhase.registered code)) := by
  have hnot := not_entered_of_encoded hphase
  have hentered : forall other, s.Entered other ->
      (s.setPhase call (CallPhase.registered code)).Entered other := by
    intro other hother
    exact entered_setPhase (fun hcall => absurd hcall hnot) hother
  constructor
  · intro p hp
    rcases List.mem_append.mp hp with hold | hnew
    · exact hentered p.caller (h.entered p hold)
    · cases List.mem_singleton.mp hnew
      exact ⟨_, Function.update_self _ _ _, by simp⟩
  · intro c m hm
    exact hentered c (h.responded c m hm)
  · apply List.pairwise_append.mpr
    constructor
    · exact h.single
    · constructor
      · exact List.pairwise_singleton _ _
      · intro p hp q hq heq
        cases List.mem_singleton.mp hq
        apply hnot
        rw [← show p.caller = call from heq]
        exact h.entered p hp
  · intro c m hm p hp heq
    rcases List.mem_append.mp hp with hold | hnew
    · exact h.taken c m hm p hold heq
    · cases List.mem_singleton.mp hnew
      apply hnot
      rw [show call = c from heq]
      exact h.responded c m hm

theorem mem_of_mem_swapDrop {α : Type} {l : List α} {i : Nat} {x y : α}
    (hx : l[i]? = some x) (hy : y ∈ swapDrop l i) : y ∈ l :=
  (perm_swapDrop hx).mem_iff.mpr (List.mem_cons_of_mem x hy)

theorem single_swapDrop {s : RequestCalls answer} {index : Nat}
    {entry : Pending Nat} (h : s.Registered)
    (hentry : s.stack.pendingRequests[index]? = some entry) :
    (forall p, p ∈ swapDrop s.stack.pendingRequests index ->
        p.caller ≠ entry.caller) ∧
      (swapDrop s.stack.pendingRequests index).Pairwise
        fun p q => p.caller ≠ q.caller := by
  have hperm := (perm_swapDrop hentry).pairwise_iff
    (R := fun p q : Pending Nat => p.caller ≠ q.caller) (fun hpq => hpq.symm)
  rcases List.pairwise_cons.mp (hperm.mp h.single) with ⟨hhead, htail⟩
  constructor
  · intro p hp
    exact (hhead p hp).symm
  · exact htail

theorem registered_received {s : RequestCalls answer} {event : Event Nat}
    {t : Transactions Nat} (h : s.Registered)
    (hnot : forall entry, event ≠ Event.push entry)
    (heffect : Transactions.Effect s.stack event t) :
    Registered { s with stack := t } := by
  cases heffect with
  | pushed entry => exact absurd rfl (hnot entry)
  | found _ _ => exact ⟨h.entered, h.responded, h.single, h.taken⟩
  | unmatched _ _ => exact ⟨h.entered, h.responded, h.single, h.taken⟩
  | @removed assoc index message entry _ hentry =>
      rcases single_swapDrop h hentry with ⟨hother, hsingle⟩
      have hmem := List.mem_of_getElem? hentry
      constructor
      · intro p hp
        exact h.entered p (mem_of_mem_swapDrop hentry hp)
      · intro c m hm
        rcases List.mem_append.mp hm with hold | hnew
        · exact h.responded c m hold
        · cases List.mem_singleton.mp hnew
          exact h.entered entry hmem
      · exact hsingle
      · intro c m hm p hp
        rcases List.mem_append.mp hm with hold | hnew
        · exact h.taken c m hold p (mem_of_mem_swapDrop hentry hp)
        · cases List.mem_singleton.mp hnew
          exact hother p hp
  | drained _ =>
      constructor
      · intro p hp
        cases hp
      · exact h.responded
      · exact List.Pairwise.nil
      · intro c m _ p hp
        cases hp

theorem registered_effect {s s' : RequestCalls answer} {event : CallEvent}
    (h : s.Registered) (heffect : Effect s event s') : s'.Registered := by
  cases heffect with
  | encoded hphase =>
      exact registered_setPhase h fun hin =>
        absurd hin (not_entered_of_none hphase)
  | encodeFailed _ => exact registered_setPhase h fun _ _ => by simp
  | pushed hphase heffect =>
      cases heffect
      exact registered_pushed h hphase
  | @sent call code _ =>
      have hsame : Registered
          { s with sent := s.sent ++ [Pending.mk call code] } :=
        ⟨h.entered, h.responded, h.single, h.taken⟩
      exact registered_setPhase hsame fun _ _ => by simp
  | sendFailed _ => exact registered_setPhase h fun _ _ => by simp
  | answered _ _ => exact registered_setPhase h fun _ _ => by simp
  | closed _ _ => exact registered_setPhase h fun _ _ => by simp
  | received hnot heffect => exact registered_received h hnot heffect

/-!
## What a finished call leaves behind
-/

/-- A call that has returned has no entry on the list. -/
def Finished (s : RequestCalls answer) : Prop :=
  forall call result, s.phase call = some (CallPhase.returned result) ->
    s.NotPending call

/-- A call whose request cannot be sent has no entry on the list any more. -/
def SendLeavesNothing (s : RequestCalls answer) : CallEvent -> Prop
  | CallEvent.send call false =>
      forall code, s.phase call = some (CallPhase.registered code) ->
        s.NotPending call
  | _ => True

theorem finished_start : Finished (start : RequestCalls answer) := by
  intro call result h
  cases h

theorem Finished.waiting {s : RequestCalls answer} (h : s.Finished)
    (hregistered : s.Registered) {p : Pending Nat}
    (hp : p ∈ s.stack.pendingRequests) :
    exists code, s.phase p.caller = some (CallPhase.registered code) ∨
      s.phase p.caller = some (CallPhase.waiting code) := by
  rcases hregistered.entered p hp with ⟨phase, hphase, hnot⟩
  cases phase with
  | encoded code => exact absurd rfl (hnot code)
  | registered code => exact ⟨code, Or.inl hphase⟩
  | waiting code => exact ⟨code, Or.inr hphase⟩
  | returned result => exact absurd rfl (h p.caller result hphase p hp)

theorem finished_setPhase {s : RequestCalls answer} {call : Nat}
    {phase : CallPhase answer} (h : s.Finished)
    (hphase : forall result, phase = CallPhase.returned result ->
      s.NotPending call) : (s.setPhase call phase).Finished := by
  intro other result hother
  cases Nat.decEq other call with
  | isTrue heq =>
      rw [heq] at hother ⊢
      rw [show (s.setPhase call phase).phase call = some phase from
        Function.update_self _ _ _] at hother
      cases hother
      exact hphase result rfl
  | isFalse hne =>
      rw [show (s.setPhase call phase).phase other = s.phase other from
        Function.update_of_ne hne _ _] at hother
      exact h other result hother

theorem finished_of_subset {s : RequestCalls answer} {t : Transactions Nat}
    (h : s.Finished)
    (hsub : t.pendingRequests ⊆ s.stack.pendingRequests) :
    Finished { s with stack := t } := by
  intro call result hphase p hp
  exact h call result hphase p (hsub hp)

theorem pending_received {s : RequestCalls answer} {event : Event Nat}
    {t : Transactions Nat} (hnot : forall entry, event ≠ Event.push entry)
    (heffect : Transactions.Effect s.stack event t) :
    t.pendingRequests ⊆ s.stack.pendingRequests := by
  cases heffect with
  | pushed entry => exact absurd rfl (hnot entry)
  | found _ _ => exact fun _ hp => hp
  | unmatched _ _ => exact fun _ hp => hp
  | removed _ hentry => exact fun _ hp => mem_of_mem_swapDrop hentry hp
  | drained _ => exact List.nil_subset _

theorem Registered.notPending {s : RequestCalls answer} (h : s.Registered)
    {call : Nat} (hnot : ¬ s.Entered call) : s.NotPending call := by
  intro p hp heq
  apply hnot
  rw [← heq]
  exact h.entered p hp

theorem finished_pushed {s : RequestCalls answer} {call : Nat} {code : UInt8}
    (h : s.Finished) :
    Finished ({ s with
      stack := { s.stack with
        pendingRequests := s.stack.pendingRequests ++ [Pending.mk call code]
        asked := s.stack.asked ++ [Pending.mk call code] } }.setPhase call
      (CallPhase.registered code)) := by
  intro other result hphase p hp heq
  cases Nat.decEq other call with
  | isTrue hsame =>
      rw [hsame] at hphase
      replace hphase : Function.update s.phase call _ call = _ := hphase
      rw [Function.update_self] at hphase
      cases hphase
  | isFalse hne =>
      replace hphase : Function.update s.phase call _ other = _ := hphase
      rw [Function.update_of_ne hne] at hphase
      rcases List.mem_append.mp hp with hold | hnew
      · exact h other result hphase p hold heq
      · cases List.mem_singleton.mp hnew
        exact hne heq.symm

theorem sendLeavesNothing_iff {s s' : RequestCalls answer} {event : CallEvent}
    (h : s.Finished) (hregistered : s.Registered)
    (heffect : Effect s event s') :
    s.SendLeavesNothing event <-> s'.Finished := by
  cases heffect with
  | encoded _ =>
      exact ⟨fun _ => finished_setPhase h (by simp), fun _ => trivial⟩
  | encodeFailed hphase =>
      have hnone := hregistered.notPending (not_entered_of_none hphase)
      exact ⟨fun _ => finished_setPhase h fun _ _ => hnone, fun _ => trivial⟩
  | pushed _ heffect =>
      cases heffect
      exact ⟨fun _ => finished_pushed h, fun _ => trivial⟩
  | @sent call code _ =>
      have hsame : Finished
          { s with sent := s.sent ++ [Pending.mk call code] } := h
      exact ⟨fun _ => finished_setPhase hsame (by simp), fun _ => trivial⟩
  | @sendFailed call code result hphase =>
      constructor
      · intro hgood
        exact finished_setPhase h fun _ _ => hgood code hphase
      · intro hafter _ _
        exact hafter call result (Function.update_self _ _ _)
  | answered _ hmem =>
      have hnone := hregistered.taken _ _ hmem
      exact ⟨fun _ => finished_setPhase h fun _ _ => hnone, fun _ => trivial⟩
  | closed _ hnone =>
      exact ⟨fun _ => finished_setPhase h fun _ _ => hnone, fun _ => trivial⟩
  | received hnot heffect =>
      have hsub := pending_received hnot heffect
      exact ⟨fun _ => finished_of_subset h hsub, fun _ => trivial⟩

theorem sendLeavesNothing_of_refused {s : RequestCalls answer}
    {event : CallEvent} (hnone : (callMachine decode).step s event = none) :
    s.SendLeavesNothing event := by
  cases event with
  | send call ok =>
      cases ok with
      | true => trivial
      | false =>
          intro code hphase
          replace hnone : step decode s (CallEvent.send call false) = none :=
            hnone
          simp [step, hphase] at hnone
  | _ => trivial

/-- In every state of a run no call that has returned has left an entry behind,
exactly when no call fails to send its request while its entry is pending. -/
theorem finished_iff
    (decode : UInt8 -> Message -> Except RequestError answer)
    (events : List CallEvent) :
    (callMachine decode).Always Finished start events <->
      (callMachine decode).Along SendLeavesNothing start events := by
  apply Machine.always_iff_along (J := Registered)
  · intro s event s' h hstep
    exact registered_effect h (step_effect hstep)
  · intro s event _ _ hnone
    exact sendLeavesNothing_of_refused hnone
  · intro s event s' h hregistered hstep
    exact sendLeavesNothing_iff h hregistered (step_effect hstep)
  · exact finished_start
  · exact registered_start

/-- A call whose request is not sent. -/
def unsentRequest : List CallEvent :=
  [CallEvent.encode 0 5 true, CallEvent.push 0, CallEvent.send 0 false]

/-- A later call for the same procedure, and the response to it. -/
def laterRequest : List CallEvent :=
  [CallEvent.encode 1 5 true, CallEvent.push 1, CallEvent.send 1 true,
    CallEvent.receiver (Event.find 0 [0x40, 5]),
    CallEvent.receiver (Event.swapRemove 0)]

def decodeNothing : UInt8 -> Message -> Except RequestError Unit :=
  fun _ _ => Except.ok ()

/-- The entry of the call that has returned takes the response to the later
one, which waits on. -/
theorem not_finished_unsentRequest :
    exists s, (callMachine decodeNothing).run start unsentRequest = some s ∧
      ¬ s.Finished ∧
      exists t, (callMachine decodeNothing).run s laterRequest = some t ∧
        t.stack.responses = [(0, [0x40, 5])] ∧
        t.stack.pendingRequests = [⟨1, 5⟩] ∧
        t.phase 1 = some (CallPhase.waiting 5) := by
  apply Exists.intro
  constructor
  · rfl
  · constructor
    · intro h
      exact h 0 (Except.error RequestError.other) rfl ⟨0, 5⟩
        List.mem_cons_self rfl
    · exact ⟨_, rfl, rfl, rfl, rfl⟩

end RequestCalls

end Stack
end QCore
