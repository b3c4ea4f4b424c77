import QCore.Foundation.SwapQueue
import QCore.Stack.Delivery

/-!
# `handle_message` on its own

When no other task touches the list of pending requests, the two lock sections
of `handle_message` are one call.  This module says which messages such a call
survives, and to which of several requests with one procedure code the responses
go.
-/

namespace QCore
namespace Stack

open Foundation

variable {caller : Type}

namespace Transactions

def answered (t : Transactions caller) (entry : Pending caller)
    (rest : List (Pending caller)) (message : Message) : Transactions caller :=
  { t with
    pendingRequests := rest
    responses := t.responses ++ [(entry.caller, message)]
    arrived := t.arrived ++ [message] }

/-- `spawn_procedure_task` -/
def taskSpawned (t : Transactions caller) (message : Message) (tnlaId : Nat) :
    Transactions caller :=
  { t with
    spawned := t.spawned ++ [(message, tnlaId)]
    arrived := t.arrived ++ [message] }

end Transactions

abbrev matchIndex (message : Message) (pending : List (Pending caller)) :
    Outcome Empty (Option Nat) :=
  position message pending

/-- `swap_remove` panics when the index is beyond the list. -/
def removeEntry (pending : List (Pending caller)) (index : Nat) :
    Outcome Empty (Pending caller × List (Pending caller)) :=
  match swapRemove pending index with
  | some removed => Outcome.ok removed
  | none => Outcome.panic

/-- `StackReceiver::handle_message` -/
def handleMessage (message : Message) (tnlaId : Nat) :
    Cmd (Transactions caller) Empty Unit := do
  let t <- Cmd.get
  let index <- Cmd.lift (matchIndex message t.pendingRequests)
  match index with
  | some index => do
      let removed <- Cmd.lift (removeEntry t.pendingRequests index)
      Cmd.modify fun t => t.answered removed.1 removed.2 message
  | none => Cmd.modify fun t => t.taskSpawned message tnlaId

/-!
## What a call does
-/

theorem handleMessage_unmatched {t : Transactions caller} {message : Message}
    (h : matchIndex message t.pendingRequests = Outcome.ok none) (tnlaId : Nat) :
    handleMessage message tnlaId t =
      (Outcome.ok (), t.taskSpawned message tnlaId) := by
  simp only [handleMessage, Cmd.bind_run, Cmd.get_run, Cmd.lift_run, h,
    Cmd.modify_run]

theorem handleMessage_matched {t : Transactions caller} {message : Message}
    {index : Nat}
    (h : matchIndex message t.pendingRequests = Outcome.ok (some index))
    {entry : Pending caller} {rest : List (Pending caller)}
    (hremove : swapRemove t.pendingRequests index = some (entry, rest))
    (tnlaId : Nat) :
    handleMessage message tnlaId t =
      (Outcome.ok (), t.answered entry rest message) := by
  simp only [handleMessage, Cmd.bind_run, Cmd.get_run, Cmd.lift_run, h,
    removeEntry, hremove, Cmd.modify_run]

theorem handleMessage_panics {t : Transactions caller} {message : Message}
    (h : matchIndex message t.pendingRequests = Outcome.panic) (tnlaId : Nat) :
    handleMessage message tnlaId t = (Outcome.panic, t) := by
  simp only [handleMessage, Cmd.bind_run, Cmd.get_run, Cmd.lift_run, h]

theorem swapRemove_of_position {message : Message}
    {pending : List (Pending caller)} {index : Nat}
    (h : matchIndex message pending = Outcome.ok (some index)) :
    exists entry, entry ∈ pending ∧
      swapRemove pending index = some (entry, swapDrop pending index) := by
  have hfirst := (position_ok h).symm
  rcases List.findIdx?_eq_some_iff_getElem.mp hfirst with ⟨hlt, _, _⟩
  exact ⟨pending[index], List.getElem_mem hlt,
    swapRemove_some.mpr ⟨List.getElem?_eq_getElem hlt, rfl⟩⟩

theorem handleMessage_run {t t' : Transactions caller} {message : Message}
    {tnlaId : Nat} (hidle : t.handling tnlaId = none)
    (h : handleMessage message tnlaId t = (Outcome.ok (), t')) :
    (transactionMachine caller).run t
        [Event.find tnlaId message, Event.swapRemove tnlaId] = some t' ∨
      (transactionMachine caller).run t [Event.find tnlaId message] =
        some t' := by
  cases hpos : matchIndex message t.pendingRequests with
  | err e => cases e
  | panic =>
      rw [handleMessage_panics hpos] at h
      cases h
  | ok found =>
      cases found with
      | none =>
          rw [handleMessage_unmatched hpos] at h
          cases h
          right
          apply (Machine.run_cons_of_step [] ?_).trans rfl
          simp only [transactionMachine, Transactions.step, hidle, hpos,
            Transactions.taskSpawned]
      | some index =>
          rcases swapRemove_of_position hpos with ⟨entry, _, hremove⟩
          rw [handleMessage_matched hpos hremove] at h
          cases h
          left
          have hfind : (transactionMachine caller).step t
              (Event.find tnlaId message) = some { t with
                handling :=
                  Function.update t.handling tnlaId (some (message, index))
                arrived := t.arrived ++ [message] } := by
            simp only [transactionMachine, Transactions.step, hidle, hpos]
          rw [Machine.run_cons_of_step _ hfind]
          apply (Machine.run_cons_of_step [] ?_).trans rfl
          have hback : Function.update t.handling tnlaId none = t.handling := by
            rw [← hidle]
            exact Function.update_eq_self tnlaId t.handling
          simp only [transactionMachine, Transactions.step,
            Function.update_self, hremove, Function.update_idem, hback,
            Transactions.answered]

/-!
## Messages that a call survives
-/

/-- The call returns, and the message went to one request or to a procedure task
of its own. -/
def HandsOn (t : Transactions caller) (message : Message) (tnlaId : Nat) :
    Prop :=
  (exists entry rest, entry ∈ t.pendingRequests ∧
    handleMessage message tnlaId t =
      (Outcome.ok (), t.answered entry rest message)) ∨
  handleMessage message tnlaId t =
    (Outcome.ok (), t.taskSpawned message tnlaId)

theorem handsOn_of_position {t : Transactions caller} {message : Message}
    {index : Option Nat}
    (h : matchIndex message t.pendingRequests = Outcome.ok index)
    (tnlaId : Nat) : HandsOn t message tnlaId := by
  cases index with
  | none => exact Or.inr (handleMessage_unmatched h tnlaId)
  | some index =>
      rcases swapRemove_of_position h with ⟨entry, hmem, hremove⟩
      exact Or.inl ⟨entry, _, hmem, handleMessage_matched h hremove tnlaId⟩

theorem not_handsOn_of_panic {t : Transactions caller} {message : Message}
    (h : matchIndex message t.pendingRequests = Outcome.panic) (tnlaId : Nat) :
    ¬ HandsOn t message tnlaId := by
  intro hhands
  have hpanics := handleMessage_panics h tnlaId
  rcases hhands with ⟨entry, rest, _, hok⟩ | hok
  · rw [hpanics] at hok
    cases hok
  · rw [hpanics] at hok
    cases hok

/-- The first match function looks at a second byte that is not there. -/
theorem position_one_byte {first : UInt8} (hfirst : first ≠ 0)
    (entry : Pending caller) (rest : List (Pending caller)) :
    matchIndex [first] (entry :: rest) = Outcome.panic := by
  have hmatch : (matchFn entry.code [first] : Outcome Empty Bool) =
      Outcome.panic := by
    simp [matchFn, hfirst]
  unfold position
  rw [hmatch]
  rfl

theorem position_long (first second : UInt8) (rest : Bytes)
    (pending : List (Pending caller)) :
    exists index,
      matchIndex (first :: second :: rest) pending = Outcome.ok index := by
  apply position_total
  by_cases hfirst : first = 0
  · rw [hfirst]
    exact Or.inl rfl
  · refine Or.inr ?_
    simp [responseCode, hfirst]

/-- For every message of one byte or more and every list of pending requests:
the call hands the message on unless it is a single non-zero byte while a request
is pending. -/
theorem handsOn_iff (t : Transactions caller) (first : UInt8) (rest : Bytes)
    (tnlaId : Nat) :
    HandsOn t (first :: rest) tnlaId <->
      rest ≠ [] ∨ first = 0 ∨ t.pendingRequests = [] := by
  cases rest with
  | cons second tail =>
      rcases position_long first second tail t.pendingRequests with
        ⟨index, hindex⟩
      exact iff_of_true (handsOn_of_position hindex tnlaId)
        (Or.inl (List.cons_ne_nil second tail))
  | nil =>
      by_cases hfirst : first = 0
      · rw [hfirst]
        have hzero : ([0] : Message).head? = some 0 := rfl
        rcases position_total (Or.inl hzero) t.pendingRequests with
          ⟨index, hindex⟩
        exact iff_of_true (handsOn_of_position hindex tnlaId)
          (Or.inr (Or.inl rfl))
      · cases hpending : t.pendingRequests with
        | nil =>
            have hnone : matchIndex [first] t.pendingRequests =
                Outcome.ok none := by
              rw [hpending]
              rfl
            exact iff_of_true (handsOn_of_position hnone tnlaId)
              (Or.inr (Or.inr rfl))
        | cons entry others =>
            have hpanic : matchIndex [first] t.pendingRequests =
                Outcome.panic := by
              rw [hpending]
              exact position_one_byte hfirst entry others
            apply iff_of_false (not_handsOn_of_panic hpanic tnlaId)
            intro h
            rcases h with hne | hzero | hnil
            · exact hne rfl
            · exact hfirst hzero
            · cases hnil

/-- One request is pending and the peer sends the single byte 1. -/
theorem handleMessage_panics_oneByte :
    exists t : Transactions Nat,
      (transactionMachine Nat).run Transactions.start
        [Event.push ⟨0, 5⟩] = some t ∧
      (handleMessage [1] 0 t).1 = Outcome.panic ∧ ¬ HandsOn t [1] 0 := by
  refine ⟨_, rfl, rfl, ?_⟩
  exact not_handsOn_of_panic rfl 0

/-!
## Responses with one procedure code
-/

/-- A response has a first octet other than zero; its second octet is the
procedure code. -/
structure Response where
  first : UInt8
  code : UInt8
  rest : Bytes
  outcome : first ≠ 0

def Response.message (r : Response) : Message :=
  r.first :: r.code :: r.rest

structure Arrival where
  tnlaId : Nat
  response : Response

def handleMessages : List Arrival -> Cmd (Transactions caller) Empty Unit
  | [] => pure ()
  | a :: rest => do
      handleMessage a.response.message a.tnlaId
      handleMessages rest

/-- Whatever responses arrive, those with this code go to the pending requests
with this code in the order of the list. -/
def FirstInFirstOut (t : Transactions caller) (code : UInt8) : Prop :=
  forall arrivals, exists t' answers,
    handleMessages arrivals t = (Outcome.ok (), t') ∧
      t'.responses = t.responses ++ answers ∧
      answers.filter (fun a => decide (responseCode a.2 = some code)) =
        ((t.pendingRequests.filter fun p => decide (p.code = code)).map
          Pending.caller).zip
        ((arrivals.filter fun a => decide (a.response.code = code)).map
          fun a => a.response.message)

def matching (caller : Type) :
    Matching (Pending caller) Arrival UInt8 caller Message where
  key := Pending.code
  label a := a.response.code
  who := Pending.caller
  what a := a.response.message

theorem responseCode_message (r : Response) :
    responseCode r.message = some r.code := by
  simp [Response.message, responseCode, r.outcome]

theorem position_message (r : Response) (pending : List (Pending caller)) :
    matchIndex r.message pending =
      Outcome.ok (pending.findIdx? fun p => decide (p.code = r.code)) := by
  have haccepts : accepts r.message =
      fun p : Pending caller => decide (p.code = r.code) := by
    funext p
    by_cases hcode : p.code = r.code
    · rw [decide_eq_true hcode, accepts_iff, responseCode_message, hcode]
    · rw [decide_eq_false hcode, ← Bool.not_eq_true, accepts_iff,
        responseCode_message]
      exact fun h => hcode (Option.some.inj h).symm
  rcases position_long r.first r.code r.rest pending with ⟨index, hindex⟩
  have hpos : matchIndex r.message pending = Outcome.ok index := hindex
  rw [hpos, position_ok hpos, haccepts]

theorem handleMessage_response_none {t : Transactions caller} {a : Arrival}
    (h : (matching caller).takeFirst a.response.code t.pendingRequests = none) :
    handleMessage a.response.message a.tnlaId t =
      (Outcome.ok (), t.taskSpawned a.response.message a.tnlaId) := by
  have hpos := position_message a.response t.pendingRequests
  cases hidx : t.pendingRequests.findIdx? fun p =>
      decide (p.code = a.response.code) with
  | none =>
      rw [hidx] at hpos
      exact handleMessage_unmatched hpos a.tnlaId
  | some index =>
      rw [hidx] at hpos
      rcases swapRemove_of_position hpos with ⟨entry, _, hremove⟩
      have hsome : (matching caller).takeFirst a.response.code
          t.pendingRequests = swapRemove t.pendingRequests index := by
        unfold Matching.takeFirst matching
        rw [hidx]
      rw [hsome, hremove] at h
      cases h

theorem handleMessage_response_some {t : Transactions caller} {a : Arrival}
    {entry : Pending caller} {rest : List (Pending caller)}
    (h : (matching caller).takeFirst a.response.code t.pendingRequests =
      some (entry, rest)) :
    handleMessage a.response.message a.tnlaId t =
      (Outcome.ok (), t.answered entry rest a.response.message) := by
  have hpos := position_message a.response t.pendingRequests
  unfold Matching.takeFirst matching at h
  cases hidx : t.pendingRequests.findIdx? fun p =>
      decide (p.code = a.response.code) with
  | none =>
      rw [hidx] at h
      cases h
  | some index =>
      rw [hidx] at h hpos
      exact handleMessage_matched hpos h a.tnlaId

theorem handleMessages_run (arrivals : List Arrival)
    (t : Transactions caller) :
    exists t' answers, handleMessages arrivals t = (Outcome.ok (), t') ∧
      t'.responses = t.responses ++ answers ∧
      forall code,
        answers.filter (fun a => decide (responseCode a.2 = some code)) =
          (matching caller).deliveries code t.pendingRequests arrivals := by
  induction arrivals generalizing t with
  | nil => exact ⟨t, [], rfl, (List.append_nil _).symm, fun _ => rfl⟩
  | cons a rest ih =>
      cases htake : (matching caller).takeFirst a.response.code
          t.pendingRequests with
      | none =>
          have hfirst := handleMessage_response_none htake
          rcases ih (t.taskSpawned a.response.message a.tnlaId) with
            ⟨t', answers, hrun, hresponses, hanswers⟩
          refine ⟨t', answers, Cmd.bind_ok.mpr ⟨(), _, hfirst, hrun⟩,
            hresponses, ?_⟩
          intro code
          rw [Matching.deliveries_cons_none _ htake]
          exact hanswers code
      | some taken =>
          rcases taken with ⟨entry, others⟩
          have hfirst := handleMessage_response_some htake
          rcases ih (t.answered entry others a.response.message) with
            ⟨t', answers, hrun, hresponses, hanswers⟩
          refine ⟨t', (entry.caller, a.response.message) :: answers,
            Cmd.bind_ok.mpr ⟨(), _, hfirst, hrun⟩, ?_, ?_⟩
          · rw [hresponses]
            exact List.append_assoc _ _ _
          · intro code
            have hlater := hanswers code
            by_cases hcode : a.response.code = code
            · rw [Matching.deliveries_cons_self _ htake hcode]
              rw [List.filter_cons_of_pos (by
                simp [responseCode_message, hcode]), hlater]
              rfl
            · rw [Matching.deliveries_cons_of_ne _ htake hcode]
              rw [List.filter_cons_of_neg (by
                simp [responseCode_message, hcode]), hlater]
              rfl

theorem firstInFirstOut_iff_inOrder (t : Transactions caller) (code : UInt8) :
    FirstInFirstOut t code <->
      (matching caller).InOrder code t.pendingRequests := by
  constructor
  · intro h arrivals
    rcases h arrivals with ⟨t', answers, hrun, hresponses, hzip⟩
    rcases handleMessages_run arrivals t with
      ⟨t'', answers', hrun', hresponses', hdeliveries⟩
    rw [hrun] at hrun'
    cases hrun'
    rw [hresponses] at hresponses'
    rw [List.append_cancel_left hresponses', hdeliveries] at hzip
    exact hzip
  · intro h arrivals
    rcases handleMessages_run arrivals t with
      ⟨t', answers, hrun, hresponses, hdeliveries⟩
    exact ⟨t', answers, hrun, hresponses,
      (hdeliveries code).trans (h arrivals)⟩

def responseWith (code : UInt8) : Arrival where
  tnlaId := 0
  response := ⟨0x40, code, [], by decide⟩

/-- For every list of pending requests of different callers: responses with one
code reach the requests with that code in the order of the list exactly when at
most one of these requests is not in the first place. -/
theorem firstInFirstOut_iff (t : Transactions caller) (code : UInt8)
    (hcallers : (t.pendingRequests.map Pending.caller).Nodup) :
    FirstInFirstOut t code <->
      (t.pendingRequests.tail.filter
        fun p => decide (p.code = code)).length <= 1 := by
  rw [firstInFirstOut_iff_inOrder]
  exact (matching caller).inOrder_iff responseWith (fun _ => rfl) code
    hcallers

def asking (entries : List (Pending caller)) : Transactions caller :=
  { Transactions.start with pendingRequests := entries, asked := entries }

theorem run_pushes (before entries : List (Pending caller)) :
    (transactionMachine caller).run (asking before)
      (entries.map Event.push) = some (asking (before ++ entries)) := by
  induction entries generalizing before with
  | nil =>
      rw [List.append_nil]
      rfl
  | cons entry rest ih =>
      have hstep : (transactionMachine caller).step (asking before)
          (Event.push entry) = some (asking (before ++ [entry])) := rfl
      rw [List.map_cons, Machine.run_cons_of_step _ hstep, ih,
        List.append_assoc]
      rfl

theorem firstInFirstOut_iff_twoRequests :
    ([0, 1] : List Nat).Nodup ∧
      (FirstInFirstOut (asking [⟨0, 5⟩, ⟨1, 5⟩] : Transactions Nat) 5 <->
        ([⟨1, 5⟩] : List (Pending Nat)).length <= 1) := by
  have hcallers : ([0, 1] : List Nat).Nodup := by decide
  exact ⟨hcallers, firstInFirstOut_iff (asking [⟨0, 5⟩, ⟨1, 5⟩]) 5 hcallers⟩

/-- Three requests with one code are made, and two responses arrive.  The first
response goes to the first request; the third request takes its place in the
list and gets the second response. -/
theorem not_firstInFirstOut_threeRequests :
    exists t t' : Transactions Nat,
      (transactionMachine Nat).run Transactions.start
        [Event.push ⟨0, 5⟩, Event.push ⟨1, 5⟩, Event.push ⟨2, 5⟩] = some t ∧
      handleMessages [⟨0, ⟨0x40, 5, [1], by decide⟩⟩,
        ⟨0, ⟨0x40, 5, [2], by decide⟩⟩] t = (Outcome.ok (), t') ∧
      t'.responses = [(0, [0x40, 5, 1]), (2, [0x40, 5, 2])] ∧
      ¬ FirstInFirstOut t 5 := by
  refine ⟨asking [⟨0, 5⟩, ⟨1, 5⟩, ⟨2, 5⟩], _,
    run_pushes [] [⟨0, 5⟩, ⟨1, 5⟩, ⟨2, 5⟩], rfl, rfl, ?_⟩
  rw [firstInFirstOut_iff_inOrder]
  apply Matching.not_inOrder_of_two_behind _ responseWith (fun _ => rfl)
  · decide
  · decide

end Stack
end QCore
