import Mathlib.Data.List.Perm.Subperm
import QCore.Stack.RequestCalls

/-!
# Delivery of responses on one association

One association is up and every request is sent.  The peer answers each request
it has received once, with a response of the same code, and may send messages
of its own in between.  Then each response is handed to one waiting call, and
when all have arrived no entry is left.

An entry is put on the list before its request is sent.  So for each code there
are at least as many entries as responses still to come, and a response always
finds one.
-/

namespace QCore
namespace Stack

open Foundation
open F1ap

def responseCode : Message -> Option UInt8
  | first :: second :: _ => if first = 0 then none else some second
  | _ => none

theorem accepts_iff {caller : Type} {message : Message}
    {entry : Pending caller} :
    accepts message entry = true <->
      responseCode message = some entry.code := by
  cases message with
  | nil => simp [accepts, responseCode]
  | cons first rest =>
      cases rest with
      | nil => simp [accepts, responseCode]
      | cons second tail => simp [accepts, responseCode]

theorem responseCode_initiating {message : Message}
    (h : message.head? = some 0) : responseCode message = none := by
  cases message with
  | nil => rfl
  | cons first rest =>
      cases h
      cases rest with
      | nil => rfl
      | cons second tail => simp [responseCode]

theorem position_total {caller : Type} {message : Message}
    (h : message.head? = some 0 ∨ (responseCode message).isSome)
    (pending : List (Pending caller)) :
    exists index,
      (position message pending : Outcome Empty (Option Nat)) =
        Outcome.ok index := by
  have hmatch : forall code, exists b,
      (matchFn code message : Outcome Empty Bool) = Outcome.ok b := by
    intro code
    cases message with
    | nil => rcases h with h | h <;> cases h
    | cons first rest =>
        cases rest with
        | nil =>
            rcases h with h | h
            · cases h
              exact ⟨false, rfl⟩
            · cases h
        | cons second tail =>
            show exists b, (if first ≠ 0 then Outcome.ok (second == code)
              else Outcome.ok false) = Outcome.ok b
            split
            · exact ⟨_, rfl⟩
            · exact ⟨_, rfl⟩
  induction pending with
  | nil => exact ⟨none, rfl⟩
  | cons entry rest ih =>
      rcases hmatch entry.code with ⟨b, hb⟩
      rcases ih with ⟨index, hindex⟩
      unfold position
      rw [hb]
      cases b with
      | true => exact ⟨some 0, rfl⟩
      | false => exact ⟨index.map (· + 1), by rw [hindex]; rfl⟩

/-!
## Entries, responses in hand and responses handed over
-/

namespace Transactions

variable {caller : Type}

def arrivedCodes (t : Transactions caller) : List UInt8 :=
  t.arrived.filterMap responseCode

def respondedCodes (t : Transactions caller) : List UInt8 :=
  (t.responses.map Prod.snd).filterMap responseCode

def arrivedResponses (t : Transactions caller) : List Message :=
  t.arrived.filter fun message => (responseCode message).isSome

/-- The message between the two lock sections of `handle_message`. -/
def inHand (t : Transactions caller) (assoc : Nat) : List Message :=
  (t.handling assoc).toList.map Prod.fst

def pendingCodes (t : Transactions caller) : List UInt8 :=
  t.pendingRequests.map Pending.code

def askedCodes (t : Transactions caller) : List UInt8 :=
  t.asked.map Pending.code

structure Settled (t : Transactions caller) (assoc : Nat) : Prop where
  /-- What has arrived has been handed over, or is about to be. -/
  handed : t.arrivedResponses.Perm (t.responses.map Prod.snd ++ t.inHand assoc)
  sameCode : forall call message, (call, message) ∈ t.responses ->
    exists p, p ∈ t.asked ∧ p.caller = call ∧
      responseCode message = some p.code
  held : forall message index, t.handling assoc = some (message, index) ->
    exists p, t.pendingRequests[index]? = some p ∧
      responseCode message = some p.code
  notSpawned : forall message a, (message, a) ∈ t.spawned ->
    responseCode message = none
  pendingAsked : t.pendingRequests ⊆ t.asked
  /-- A request that was asked for is pending or has been responded to. -/
  balance : forall code, t.askedCodes.count code =
    t.pendingCodes.count code + t.respondedCodes.count code

theorem settled_start (assoc : Nat) :
    Settled (start : Transactions caller) assoc where
  handed := List.Perm.nil
  sameCode _ _ h := by cases h
  held _ _ h := by cases h
  notSpawned _ _ h := by cases h
  pendingAsked := List.nil_subset _
  balance _ := rfl

theorem settled_pushed {t : Transactions caller} {assoc : Nat}
    (h : t.Settled assoc) (entry : Pending caller) :
    Settled
      { t with
        pendingRequests := t.pendingRequests ++ [entry]
        asked := t.asked ++ [entry] } assoc := by
  constructor
  · exact h.handed
  · intro call message hmem
    rcases h.sameCode call message hmem with ⟨p, hp, hsame⟩
    exact ⟨p, List.mem_append_left _ hp, hsame⟩
  · intro message index hheld
    rcases h.held message index hheld with ⟨p, hp, hcode⟩
    have hlt := (List.getElem?_eq_some_iff.mp hp).choose
    exact ⟨p, (List.getElem?_append_left hlt).trans hp, hcode⟩
  · exact h.notSpawned
  · exact List.append_subset.mpr
      ⟨List.subset_append_of_subset_left _ h.pendingAsked,
        List.subset_append_right _ _⟩
  · intro code
    have hold := h.balance code
    simp only [askedCodes, pendingCodes, List.map_append, List.count_append]
      at hold ⊢
    show _ = _ + t.respondedCodes.count code
    lia

theorem settled_found {t : Transactions caller} {assoc index : Nat}
    {message : Message} (h : t.Settled assoc)
    (hidle : t.handling assoc = none)
    (hfirst : t.pendingRequests.findIdx? (accepts message) = some index) :
    Settled
      { t with
        handling := Function.update t.handling assoc (some (message, index))
        arrived := t.arrived ++ [message] } assoc := by
  rcases List.findIdx?_eq_some_iff_getElem.mp hfirst with ⟨hlt, haccepts, _⟩
  have hcode := accepts_iff.mp haccepts
  constructor
  · have hhanded := h.handed
    simp only [inHand, hidle, Option.toList_none, List.map_nil,
      List.append_nil] at hhanded
    simp only [arrivedResponses, List.filter_append, inHand,
      Function.update_self, Option.toList_some, List.map_cons, List.map_nil]
    rw [show List.filter (fun m => (responseCode m).isSome) [message] =
      [message] by simp [hcode]]
    exact hhanded.append_right [message]
  · exact h.sameCode
  · intro message' index' hheld
    simp only [Function.update_self, Option.some.injEq] at hheld
    cases hheld
    exact ⟨_, List.getElem?_eq_getElem hlt, hcode⟩
  · exact h.notSpawned
  · exact h.pendingAsked
  · exact h.balance

theorem settled_spawned {t : Transactions caller} {assoc : Nat}
    {message : Message} (h : t.Settled assoc)
    (hcode : responseCode message = none) :
    Settled
      { t with
        spawned := t.spawned ++ [(message, assoc)]
        arrived := t.arrived ++ [message] } assoc := by
  constructor
  · simp only [arrivedResponses, List.filter_append]
    rw [show List.filter (fun m => (responseCode m).isSome) [message] = [] by
      simp [hcode], List.append_nil]
    exact h.handed
  · exact h.sameCode
  · exact h.held
  · intro message' a hmem
    rcases List.mem_append.mp hmem with hold | hnew
    · exact h.notSpawned message' a hold
    · cases List.mem_singleton.mp hnew
      exact hcode
  · exact h.pendingAsked
  · exact h.balance

theorem settled_removed {t : Transactions caller} {assoc index : Nat}
    {message : Message} {entry : Pending caller} (h : t.Settled assoc)
    (hheld : t.handling assoc = some (message, index))
    (hentry : t.pendingRequests[index]? = some entry) :
    Settled
      { t with
        pendingRequests := swapDrop t.pendingRequests index
        handling := Function.update t.handling assoc none
        responses := t.responses ++ [(entry.caller, message)] } assoc := by
  have hperm := perm_swapDrop hentry
  have hcode : responseCode message = some entry.code := by
    rcases h.held message index hheld with ⟨p, hp, hcode⟩
    rw [hentry] at hp
    cases hp
    exact hcode
  constructor
  · have hhanded := h.handed
    simp only [inHand, hheld, Option.toList_some, List.map_cons,
      List.map_nil] at hhanded
    simp only [inHand, Function.update_self, Option.toList_none, List.map_nil,
      List.append_nil, List.map_append, List.map_cons]
    exact hhanded
  · intro call message' hmem
    rcases List.mem_append.mp hmem with hold | hnew
    · exact h.sameCode call message' hold
    · cases List.mem_singleton.mp hnew
      exact ⟨entry, h.pendingAsked (List.mem_of_getElem? hentry), rfl, hcode⟩
  · intro message' index' hafter
    simp [Function.update_self] at hafter
  · exact h.notSpawned
  · intro p hp
    exact h.pendingAsked (hperm.mem_iff.mpr (List.mem_cons_of_mem _ hp))
  · intro code
    have hold := h.balance code
    have hcount := (hperm.map Pending.code).count_eq code
    simp only [List.map_cons, List.count_cons] at hcount
    simp only [respondedCodes, pendingCodes, List.map_append, List.map_cons,
      List.map_nil, List.filterMap_append, List.filterMap_cons, hcode,
      List.filterMap_nil, List.count_append, List.count_singleton] at hold ⊢
    show t.askedCodes.count code = _
    lia

theorem Settled.arrivedCodes_count {t : Transactions caller} {assoc : Nat}
    (h : t.Settled assoc) (hidle : t.handling assoc = none) (code : UInt8) :
    t.arrivedCodes.count code = t.respondedCodes.count code := by
  have hperm := h.handed
  simp only [inHand, hidle, Option.toList_none, List.map_nil,
    List.append_nil] at hperm
  have hsame : t.arrivedResponses.filterMap responseCode =
      t.arrivedCodes := by
    unfold arrivedResponses arrivedCodes
    rw [List.filterMap_filter]
    congr
    funext m
    cases responseCode m with
    | none => rfl
    | some c => rfl
  rw [← hsame]
  exact (hperm.filterMap responseCode).count_eq code

theorem Settled.emptied {t : Transactions caller} {assoc : Nat}
    (h : t.Settled assoc) (hidle : t.handling assoc = none)
    (hall : t.arrivedCodes.Perm t.askedCodes) : t.pendingRequests = [] := by
  have hzero : t.pendingCodes = [] := by
    apply List.eq_nil_iff_forall_not_mem.mpr
    intro code hmem
    have hpos := List.count_pos_iff.mpr hmem
    have hbalance := h.balance code
    have hhanded := h.arrivedCodes_count hidle code
    have hsame := hall.count_eq code
    lia
  exact List.map_eq_nil_iff.mp hzero

theorem Settled.matched {t : Transactions caller} {assoc : Nat}
    (h : t.Settled assoc) (hidle : t.handling assoc = none)
    {message : Message} {code : UInt8}
    (hcode : responseCode message = some code)
    (hcount : t.arrivedCodes.count code < t.askedCodes.count code) :
    t.pendingRequests.findIdx? (accepts message) ≠ none := by
  intro hnone
  have hhanded := h.arrivedCodes_count hidle code
  have hleft : 0 < t.pendingCodes.count code := by
    have hbalance := h.balance code
    lia
  rcases List.mem_map.mp (List.count_pos_iff.mp hleft) with ⟨p, hp, hpcode⟩
  have hreject := List.findIdx?_eq_none_iff.mp hnone p hp
  have haccepts : accepts message p = true := by
    rw [accepts_iff, hcode, hpcode]
  rw [haccepts] at hreject
  cases hreject

theorem step_find_total {t : Transactions caller} {assoc : Nat}
    {message : Message} (hidle : t.handling assoc = none)
    (h : message.head? = some 0 ∨ (responseCode message).isSome) :
    exists t', t.step (Event.find assoc message) = some t' := by
  rcases position_total h t.pendingRequests with ⟨index, hindex⟩
  cases index with
  | none => exact ⟨_, by simp only [step, hidle, hindex]; rfl⟩
  | some index => exact ⟨_, by simp only [step, hidle, hindex]; rfl⟩

theorem Settled.step_remove {t : Transactions caller} {assoc index : Nat}
    {message : Message} (h : t.Settled assoc)
    (hheld : t.handling assoc = some (message, index)) :
    exists t', t.step (Event.swapRemove assoc) = some t' := by
  rcases h.held message index hheld with ⟨p, hp, _⟩
  have hremove : Foundation.swapRemove t.pendingRequests index =
      some (p, swapDrop t.pendingRequests index) :=
    swapRemove_some.mpr ⟨hp, rfl⟩
  exact ⟨_, by simp only [step, hheld, hremove]; rfl⟩

end Transactions

/-!
## The calls
-/

def CallPhase.isSent {answer : Type} : CallPhase answer -> Bool
  | CallPhase.encoded _ => false
  | CallPhase.registered _ => false
  | CallPhase.waiting _ => true
  | CallPhase.returned _ => true

namespace RequestCalls

variable {answer : Type}

def Passed (s : RequestCalls answer) (call : Nat) : Prop :=
  exists phase, s.phase call = some phase ∧ phase.isSent = true

structure Sending (s : RequestCalls answer) : Prop where
  entered : forall call code,
    s.phase call = some (CallPhase.registered code) ->
      Pending.mk call code ∈ s.stack.asked
  asked : s.sent ⊆ s.stack.asked
  passed : forall p, p ∈ s.sent -> s.Passed p.caller
  once : s.sent.Nodup

theorem sending_start : Sending (start : RequestCalls answer) where
  entered _ _ h := by cases h
  asked := List.nil_subset _
  passed _ h := by cases h
  once := List.nodup_nil

theorem Sending.count_le {s : RequestCalls answer} (h : s.Sending)
    (code : UInt8) :
    (s.sent.map Pending.code).count code <=
      s.stack.askedCodes.count code := by
  unfold Transactions.askedCodes
  rw [List.count_eq_countP, List.count_eq_countP, List.countP_map,
    List.countP_map]
  exact (h.once.subperm h.asked).countP_le _

theorem passed_setPhase {s : RequestCalls answer} {call other : Nat}
    {phase : CallPhase answer} (hphase : s.Passed call -> phase.isSent = true)
    (h : s.Passed other) : (s.setPhase call phase).Passed other := by
  cases Nat.decEq other call with
  | isTrue heq =>
      rw [heq] at h ⊢
      exact ⟨phase, Function.update_self _ _ _, hphase h⟩
  | isFalse hne =>
      rcases h with ⟨old, hold, hsent⟩
      exact ⟨old, (Function.update_of_ne hne _ _).trans hold, hsent⟩

theorem not_passed {s : RequestCalls answer} {call : Nat}
    {phase : CallPhase answer} (h : s.phase call = some phase)
    (hnot : phase.isSent = false) : ¬ s.Passed call := by
  intro hpassed
  rcases hpassed with ⟨old, hold, hsent⟩
  rw [h] at hold
  cases hold
  rw [hnot] at hsent
  cases hsent

theorem not_passed_of_none {s : RequestCalls answer} {call : Nat}
    (h : s.phase call = none) : ¬ s.Passed call := by
  intro hpassed
  rcases hpassed with ⟨old, hold, _⟩
  rw [h] at hold
  cases hold

theorem sending_setPhase {s : RequestCalls answer} {call : Nat}
    {phase : CallPhase answer} (h : s.Sending)
    (hpassed : s.Passed call -> phase.isSent = true)
    (hentered : forall code, phase = CallPhase.registered code ->
      Pending.mk call code ∈ s.stack.asked) :
    (s.setPhase call phase).Sending where
  entered other code hother := by
    cases Nat.decEq other call with
    | isTrue heq =>
        rw [heq] at hother ⊢
        rw [show (s.setPhase call phase).phase call = some phase from
          Function.update_self _ _ _] at hother
        exact hentered code (Option.some.inj hother)
    | isFalse hne =>
        rw [show (s.setPhase call phase).phase other = s.phase other from
          Function.update_of_ne hne _ _] at hother
        exact h.entered other code hother
  asked := h.asked
  passed p hp := passed_setPhase hpassed (h.passed p hp)
  once := h.once

theorem sending_stack {s : RequestCalls answer} {t : Transactions Nat}
    (h : s.Sending) (hasked : s.stack.asked ⊆ t.asked) :
    Sending { s with stack := t } where
  entered call code hphase := hasked (h.entered call code hphase)
  asked _ hp := hasked (h.asked hp)
  passed := h.passed
  once := h.once

theorem sending_sent {s : RequestCalls answer} {call : Nat} {code : UInt8}
    (h : s.Sending)
    (hphase : s.phase call = some (CallPhase.registered code)) :
    Sending ({ s with sent := s.sent ++ [Pending.mk call code] }.setPhase call
      (CallPhase.waiting code)) := by
  have hset : (s.setPhase call (CallPhase.waiting code)).Sending :=
    sending_setPhase h (fun _ => rfl) (by simp)
  constructor
  · exact hset.entered
  · apply List.append_subset.mpr
    constructor
    · exact h.asked
    · intro p hp
      cases List.mem_singleton.mp hp
      exact h.entered call code hphase
  · intro p hp
    rcases List.mem_append.mp hp with hold | hnew
    · exact hset.passed p hold
    · cases List.mem_singleton.mp hnew
      exact ⟨_, Function.update_self _ _ _, rfl⟩
  · apply List.nodup_append.mpr
    constructor
    · exact h.once
    · constructor
      · exact List.pairwise_singleton _ _
      · intro p hp q hq heq
        cases List.mem_singleton.mp hq
        cases heq
        exact not_passed hphase rfl (h.passed _ hp)

theorem sending_effect {s s' : RequestCalls answer} {event : CallEvent}
    (h : s.Sending) (heffect : Effect s event s') : s'.Sending := by
  cases heffect with
  | encoded hphase =>
      exact sending_setPhase h
        (fun hin => absurd hin (not_passed_of_none hphase)) (by simp)
  | encodeFailed _ => exact sending_setPhase h (fun _ => rfl) (by simp)
  | @pushed call code t hphase heffect =>
      cases heffect
      apply sending_setPhase
      · exact sending_stack h (List.subset_append_left _ _)
      · intro hin
        exact absurd hin (not_passed (s := s) hphase rfl)
      · intro code' hcode
        cases hcode
        exact List.mem_append_right _ List.mem_cons_self
  | sent hphase => exact sending_sent h hphase
  | sendFailed _ => exact sending_setPhase h (fun _ => rfl) (by simp)
  | answered _ _ => exact sending_setPhase h (fun _ => rfl) (by simp)
  | closed _ _ => exact sending_setPhase h (fun _ => rfl) (by simp)
  | received hnot heffect =>
      apply sending_stack h
      cases heffect with
      | pushed entry => exact absurd rfl (hnot entry)
      | found _ _ => exact fun _ hp => hp
      | unmatched _ _ => exact fun _ hp => hp
      | removed _ _ => exact fun _ hp => hp
      | drained _ => exact fun _ hp => hp

/-!
## No response is lost or duplicated
-/

/-- Only the association `assoc` is up, it does not terminate, and no request
fails to be sent. -/
def Orderly (assoc : Nat) : CallEvent -> Prop
  | CallEvent.send _ ok => ok = true
  | CallEvent.receiver (Event.find a _) => a = assoc
  | CallEvent.receiver (Event.swapRemove a) => a = assoc
  | CallEvent.receiver (Event.drain _) => False
  | _ => True

/-- The peer sends a request of its own, or a response to a request that has
been sent and has not been responded to. -/
def MaySend (s : RequestCalls answer) (message : Message) : Prop :=
  message.head? = some 0 ∨
    exists code, code ∈ responseCode message ∧
      s.stack.arrivedCodes.count code < (s.sent.map Pending.code).count code

instance (s : RequestCalls answer) (message : Message) :
    Decidable (s.MaySend message) :=
  inferInstanceAs (Decidable (_ ∨ exists code,
    code ∈ responseCode message ∧ _))

def Responds (s : RequestCalls answer) : CallEvent -> Prop
  | CallEvent.receiver (Event.find _ message) => s.MaySend message
  | _ => True

instance (s : RequestCalls answer) : forall event, Decidable (s.Responds event)
  | CallEvent.receiver (Event.find _ message) =>
      inferInstanceAs (Decidable (s.MaySend message))
  | CallEvent.receiver (Event.push _) => inferInstanceAs (Decidable True)
  | CallEvent.receiver (Event.swapRemove _) => inferInstanceAs (Decidable True)
  | CallEvent.receiver (Event.drain _) => inferInstanceAs (Decidable True)
  | CallEvent.encode _ _ _ => inferInstanceAs (Decidable True)
  | CallEvent.push _ => inferInstanceAs (Decidable True)
  | CallEvent.send _ _ => inferInstanceAs (Decidable True)
  | CallEvent.recv _ => inferInstanceAs (Decidable True)

/-- The responses of an association have been handed over as they should. -/
structure ExactlyOnce
    (decode : UInt8 -> Message -> Except RequestError answer) (assoc : Nat)
    (s : RequestCalls answer) : Prop where
  /-- What has arrived has been handed over, or is about to be. -/
  handed : s.stack.arrivedResponses.Perm
    (s.stack.responses.map Prod.snd ++ s.stack.inHand assoc)
  /-- No call is handed two responses. -/
  once : (s.stack.responses.map Prod.fst).Nodup
  sameCode : forall call message, (call, message) ∈ s.stack.responses ->
    exists p, p ∈ s.stack.asked ∧ p.caller = call ∧
      responseCode message = some p.code
  /-- The response in hand is handed over to a call of its code that has not
  returned. -/
  handsOver : forall message index,
    s.stack.handling assoc = some (message, index) ->
      exists (p : Pending Nat) (code : UInt8) (s' : RequestCalls answer),
        (callMachine decode).step s
            (CallEvent.receiver (Event.swapRemove assoc)) = some s' ∧
          s'.stack.responses = s.stack.responses ++ [(p.caller, message)] ∧
          responseCode message = some p.code ∧
          (s.phase p.caller = some (CallPhase.registered code) ∨
            s.phase p.caller = some (CallPhase.waiting code))
  /-- The next response is taken in hand. -/
  takes : forall message, s.stack.handling assoc = none ->
    s.MaySend message -> (responseCode message).isSome ->
      exists (index : Nat) (s' : RequestCalls answer),
        (callMachine decode).step s
            (CallEvent.receiver (Event.find assoc message)) = some s' ∧
          s'.stack.handling assoc = some (message, index)
  notSpawned : forall message a, (message, a) ∈ s.stack.spawned ->
    responseCode message = none
  emptied : s.stack.handling assoc = none ->
    s.stack.arrivedCodes.Perm s.stack.askedCodes ->
      s.stack.pendingRequests = []

structure Delivering (assoc : Nat) (s : RequestCalls answer) : Prop where
  registered : s.Registered
  finished : s.Finished
  sending : s.Sending
  settled : s.stack.Settled assoc
  once : (s.stack.responses.map Prod.fst).Nodup

theorem delivering_start (assoc : Nat) :
    Delivering assoc (start : RequestCalls answer) where
  registered := registered_start
  finished := finished_start
  sending := sending_start
  settled := Transactions.settled_start assoc
  once := List.nodup_nil

theorem sendLeavesNothing_of_orderly {assoc : Nat} {event : CallEvent}
    (h : Orderly assoc event) (s : RequestCalls answer) :
    s.SendLeavesNothing event := by
  cases event with
  | send call ok =>
      cases h
      trivial
  | _ => trivial

variable {decode : UInt8 -> Message -> Except RequestError answer}

theorem Delivering.request_of_unmatched {assoc : Nat}
    {s : RequestCalls answer} (h : Delivering assoc s)
    (hidle : s.stack.handling assoc = none) {message : Message}
    (hmay : s.MaySend message)
    (hnone : s.stack.pendingRequests.findIdx? (accepts message) = none) :
    responseCode message = none := by
  rcases hmay with hinitiating | hresponse
  · exact responseCode_initiating hinitiating
  · rcases hresponse with ⟨code, hcode, hcount⟩
    have hle := h.sending.count_le code
    exact absurd hnone
      (h.settled.matched hidle hcode (Nat.lt_of_lt_of_le hcount hle))

theorem settled_effect {assoc : Nat} {s s' : RequestCalls answer}
    {event : CallEvent} (h : Delivering assoc s) (horderly : Orderly assoc event)
    (hresponds : s.Responds event) (heffect : Effect s event s') :
    s'.stack.Settled assoc := by
  cases heffect with
  | pushed _ heffect =>
      cases heffect
      exact Transactions.settled_pushed h.settled _
  | received hnot heffect =>
      cases heffect with
      | pushed entry => exact absurd rfl (hnot entry)
      | found hidle hfirst =>
          cases horderly
          exact Transactions.settled_found h.settled hidle hfirst
      | unmatched hidle hnone =>
          cases horderly
          exact Transactions.settled_spawned h.settled
            (h.request_of_unmatched hidle hresponds hnone)
      | removed hheld hentry =>
          cases horderly
          exact Transactions.settled_removed h.settled hheld hentry
      | drained _ => cases horderly
  | _ => exact h.settled

theorem once_effect {s s' : RequestCalls answer} {event : CallEvent}
    (hregistered : s.Registered) (h : (s.stack.responses.map Prod.fst).Nodup)
    (heffect : Effect s event s') :
    (s'.stack.responses.map Prod.fst).Nodup := by
  cases heffect with
  | pushed _ heffect =>
      cases heffect
      exact h
  | received _ heffect =>
      cases heffect with
      | removed _ hentry =>
          rw [List.map_append]
          apply List.nodup_append.mpr
          constructor
          · exact h
          · constructor
            · exact List.pairwise_singleton _ _
            · intro c hc d hd heq
              rcases List.mem_map.mp hc with ⟨response, hmem, hfst⟩
              have hd' := List.mem_singleton.mp hd
              apply hregistered.taken response.1 response.2 hmem _
                (List.mem_of_getElem? hentry)
              rw [hfst, heq, hd']
      | _ => exact h
  | _ => exact h

theorem delivering_step {assoc : Nat} {s s' : RequestCalls answer}
    {event : CallEvent} (h : Delivering assoc s)
    (hgood : Orderly assoc event ∧ s.Responds event)
    (hstep : (callMachine decode).step s event = some s') :
    Delivering assoc s' := by
  have heffect := step_effect hstep
  constructor
  · exact registered_effect h.registered heffect
  · exact (sendLeavesNothing_iff h.finished h.registered heffect).mp
      (sendLeavesNothing_of_orderly hgood.left s)
  · exact sending_effect h.sending heffect
  · exact settled_effect h hgood.left hgood.right heffect
  · exact once_effect h.registered h.once heffect

theorem Delivering.handsOver {assoc : Nat} {s : RequestCalls answer}
    (h : Delivering assoc s) {message : Message} {index : Nat}
    (hheld : s.stack.handling assoc = some (message, index)) :
    exists (p : Pending Nat) (code : UInt8) (s' : RequestCalls answer),
      (callMachine decode).step s
          (CallEvent.receiver (Event.swapRemove assoc)) = some s' ∧
        s'.stack.responses = s.stack.responses ++ [(p.caller, message)] ∧
        responseCode message = some p.code ∧
        (s.phase p.caller = some (CallPhase.registered code) ∨
          s.phase p.caller = some (CallPhase.waiting code)) := by
  rcases h.settled.held message index hheld with ⟨p, hp, hcode⟩
  rcases h.finished.waiting h.registered (List.mem_of_getElem? hp) with
    ⟨code, hwaits⟩
  rcases h.settled.step_remove hheld with ⟨t, ht⟩
  have hresponses : t.responses =
      s.stack.responses ++ [(p.caller, message)] := by
    cases Transactions.step_effect ht with
    | removed hheld' hentry =>
        rw [hheld] at hheld'
        cases hheld'
        rw [hp] at hentry
        cases hentry
        rfl
  have hstep : (callMachine decode).step s
      (CallEvent.receiver (Event.swapRemove assoc)) =
        some { s with stack := t } := by
    show (s.stack.step _).map _ = _
    rw [ht]
    rfl
  exact ⟨p, code, _, hstep, hresponses, hcode, hwaits⟩

theorem Delivering.takes {assoc : Nat} {s : RequestCalls answer}
    (h : Delivering assoc s) {message : Message}
    (hidle : s.stack.handling assoc = none) (hmay : s.MaySend message)
    (hresponse : (responseCode message).isSome) :
    exists (index : Nat) (s' : RequestCalls answer),
      (callMachine decode).step s
          (CallEvent.receiver (Event.find assoc message)) = some s' ∧
        s'.stack.handling assoc = some (message, index) := by
  rcases Transactions.step_find_total hidle (Or.inr hresponse) with ⟨t, ht⟩
  have hstep : (callMachine decode).step s
      (CallEvent.receiver (Event.find assoc message)) =
        some { s with stack := t } := by
    show (s.stack.step _).map _ = _
    rw [ht]
    rfl
  cases Transactions.step_effect ht with
  | found _ _ => exact ⟨_, _, hstep, Function.update_self _ _ _⟩
  | unmatched _ hnone =>
      rw [h.request_of_unmatched hidle hmay hnone] at hresponse
      cases hresponse

/-- With one association, a peer that responds once to each request it has
received and no failing send, every response is handed to one call of its code
that still waits, and in the end no entry is left. -/
theorem exactlyOnce_run
    (decode : UInt8 -> Message -> Except RequestError answer) (assoc : Nat)
    {events : List CallEvent} {s : RequestCalls answer}
    (horderly : forall event, event ∈ events -> Orderly assoc event)
    (hresponds : (callMachine decode).Along Responds start events)
    (hrun : (callMachine decode).run start events = some s) :
    ExactlyOnce decode assoc s := by
  have hgood := Machine.Along.and (Machine.along_of_forall horderly _) hresponds
  have h : Delivering assoc s :=
    Machine.run_invariant_along (fun _ _ _ => delivering_step)
      (delivering_start assoc) hgood hrun
  constructor
  · exact h.settled.handed
  · exact h.once
  · exact h.settled.sameCode
  · exact fun _ _ => h.handsOver
  · exact fun _ => h.takes
  · exact h.settled.notSpawned
  · exact h.settled.emptied

/-- Two calls for one procedure and one for another.  A response arrives before
the second request is sent, and an entry is pushed between the two lock
sections that hand it over. -/
def interleavedCalls : List CallEvent :=
  [CallEvent.encode 0 5 true, CallEvent.push 0, CallEvent.encode 1 5 true,
    CallEvent.push 1, CallEvent.send 0 true,
    CallEvent.receiver (Event.find 3 [0x40, 5]), CallEvent.encode 2 7 true,
    CallEvent.push 2, CallEvent.send 1 true,
    CallEvent.receiver (Event.swapRemove 3), CallEvent.send 2 true,
    CallEvent.receiver (Event.find 3 [0, 5]),
    CallEvent.receiver (Event.find 3 [0x40, 7]), CallEvent.recv 0,
    CallEvent.receiver (Event.swapRemove 3),
    CallEvent.receiver (Event.find 3 [0x40, 5, 1])]

theorem exactlyOnce_interleavedCalls :
    exists s, (callMachine decodeNothing).run start interleavedCalls = some s ∧
      s.stack.responses = [(0, [0x40, 5]), (2, [0x40, 7])] ∧
      ExactlyOnce decodeNothing 3 s := by
  have horderly : forall event, event ∈ interleavedCalls ->
      Orderly 3 event := by
    simp [interleavedCalls, Orderly]
  have hresponds : (callMachine decodeNothing).Along Responds start
      interleavedCalls := by
    decide
  exact ⟨_, rfl, rfl, exactlyOnce_run decodeNothing 3 horderly hresponds rfl⟩

end RequestCalls

end Stack
end QCore
