import Mathlib.Logic.Function.Basic
import QCore.Foundation.Bytes
import QCore.Foundation.Machine
import QCore.Foundation.Outcome
import QCore.Foundation.SwapList

/-!
# The transaction layer

`Stack::request` puts an entry on a list of pending requests and waits on a
channel.  `handle_message` looks for the first entry that accepts the message
in one lock section, and removes the entry at the index it found in a second
one.  When an association terminates, `handle_event` drains the list.

Every lock section is one event of the machine below.  Each association has one
task that handles its messages and its termination one after the other; the
tasks of different associations and the callers of `request` run in any order.
`caller` is whatever names the task that waits for the response.
-/

namespace QCore
namespace Stack

open Foundation

abbrev Message : Type := Bytes

/-- An entry of `pending_requests`: the code its match function looks for, and
the task that waits at the other end of its channel. -/
structure Pending (caller : Type) where
  caller : caller
  code : UInt8
deriving DecidableEq, Repr

variable {caller ε : Type}

/-- The match function of `Stack::request`, with its two indexings. -/
def matchFn (code : UInt8) : Message -> Outcome ε Bool
  | [] => Outcome.panic
  | first :: rest =>
      if first ≠ 0 then
        match rest with
        | [] => Outcome.panic
        | second :: _ => Outcome.ok (second == code)
      else
        Outcome.ok false

/-- `position` over the list: the match functions run in order until one
accepts. -/
def position (message : Message) : List (Pending caller) ->
    Outcome ε (Option Nat)
  | [] => Outcome.ok none
  | entry :: rest => do
      if <- matchFn entry.code message then
        return some 0
      else
        let index <- position message rest
        return index.map (· + 1)

def accepts (message : Message) (entry : Pending caller) : Bool :=
  match message with
  | first :: second :: _ => first != 0 && second == entry.code
  | _ => false

theorem matchFn_ok {code : UInt8} {message : Message} {b : Bool}
    (h : (matchFn code message : Outcome ε Bool) = Outcome.ok b)
    (who : caller) : accepts message ⟨who, code⟩ = b := by
  cases message with
  | nil => cases h
  | cons first rest =>
      unfold matchFn at h
      by_cases hfirst : first = 0
      · simp only [hfirst, ne_eq, not_true_eq_false, ↓reduceIte] at h
        cases h
        cases rest with
        | nil => rfl
        | cons second tail => simp [accepts, hfirst]
      · simp only [hfirst, ne_eq, not_false_eq_true, ↓reduceIte] at h
        cases rest with
        | nil => cases h
        | cons second tail =>
            cases h
            simp [accepts, hfirst]

theorem position_ok {message : Message} {pending : List (Pending caller)}
    {index : Option Nat}
    (h : (position message pending : Outcome ε (Option Nat)) =
      Outcome.ok index) :
    index = pending.findIdx? (accepts message) := by
  induction pending generalizing index with
  | nil =>
      cases h
      rfl
  | cons entry rest ih =>
      unfold position at h
      rcases Outcome.bind_eq_ok.mp h with ⟨b, hmatch, hrest⟩
      have haccepts := matchFn_ok hmatch entry.caller
      cases b with
      | true =>
          cases hrest
          simp [List.findIdx?_cons, haccepts]
      | false =>
          rcases Outcome.bind_eq_ok.mp hrest with ⟨i, hpos, hi⟩
          cases hi
          rw [ih hpos, List.findIdx?_cons, haccepts]
          rfl

/-!
## The machine
-/

structure Transactions (caller : Type) where
  pendingRequests : List (Pending caller)
  /-- For each association, the message and the index its task holds between
  the two lock sections of `handle_message`. -/
  handling : Nat -> Option (Message × Nat)
  /-- What has been sent on the response channels. -/
  responses : List (caller × Message)
  /-- Messages given to `spawn_procedure_task`, with their association. -/
  spawned : List (Message × Nat)
  /-- Every entry pushed so far. -/
  asked : List (Pending caller)
  /-- Every message handled so far. -/
  arrived : List Message

inductive Event (caller : Type) where
  | push (entry : Pending caller)
  | find (assoc : Nat) (message : Message)
  | swapRemove (assoc : Nat)
  | drain (assoc : Nat)

namespace Transactions

def start : Transactions caller where
  pendingRequests := []
  handling := fun _ => none
  responses := []
  spawned := []
  asked := []
  arrived := []

def step (t : Transactions caller) : Event caller ->
    Option (Transactions caller)
  | Event.push entry =>
      some { t with
        pendingRequests := t.pendingRequests ++ [entry]
        asked := t.asked ++ [entry] }
  | Event.find assoc message =>
      match t.handling assoc with
      | some _ => none
      | none =>
          match (position message t.pendingRequests :
              Outcome Empty (Option Nat)) with
          | Outcome.ok (some index) =>
              some { t with
                handling :=
                  Function.update t.handling assoc (some (message, index))
                arrived := t.arrived ++ [message] }
          | Outcome.ok none =>
              some { t with
                spawned := t.spawned ++ [(message, assoc)]
                arrived := t.arrived ++ [message] }
          | Outcome.err _ => none
          | Outcome.panic => none
  | Event.swapRemove assoc =>
      match t.handling assoc with
      | none => none
      | some (message, index) =>
          match Foundation.swapRemove t.pendingRequests index with
          | none => none
          | some (entry, rest) =>
              some { t with
                pendingRequests := rest
                handling := Function.update t.handling assoc none
                responses := t.responses ++ [(entry.caller, message)] }
  | Event.drain assoc =>
      match t.handling assoc with
      | some _ => none
      | none => some { t with pendingRequests := [] }

end Transactions

def transactionMachine (caller : Type) :
    Machine (Transactions caller) (Event caller) where
  step := Transactions.step

/-!
## The effect of an event
-/

namespace Transactions

inductive Effect (t : Transactions caller) :
    Event caller -> Transactions caller -> Prop where
  | pushed (entry : Pending caller) :
      Effect t (Event.push entry)
        { t with
          pendingRequests := t.pendingRequests ++ [entry]
          asked := t.asked ++ [entry] }
  | found {assoc index : Nat} {message : Message} :
      t.handling assoc = none ->
      t.pendingRequests.findIdx? (accepts message) = some index ->
      Effect t (Event.find assoc message)
        { t with
          handling := Function.update t.handling assoc (some (message, index))
          arrived := t.arrived ++ [message] }
  | unmatched {assoc : Nat} {message : Message} :
      t.handling assoc = none ->
      t.pendingRequests.findIdx? (accepts message) = none ->
      Effect t (Event.find assoc message)
        { t with
          spawned := t.spawned ++ [(message, assoc)]
          arrived := t.arrived ++ [message] }
  | removed {assoc index : Nat} {message : Message} {entry : Pending caller} :
      t.handling assoc = some (message, index) ->
      t.pendingRequests[index]? = some entry ->
      Effect t (Event.swapRemove assoc)
        { t with
          pendingRequests := swapDrop t.pendingRequests index
          handling := Function.update t.handling assoc none
          responses := t.responses ++ [(entry.caller, message)] }
  | drained {assoc : Nat} :
      t.handling assoc = none ->
      Effect t (Event.drain assoc) { t with pendingRequests := [] }

theorem step_effect {t t' : Transactions caller} {event : Event caller}
    (h : t.step event = some t') : Effect t event t' := by
  cases event with
  | push entry =>
      cases h
      exact Effect.pushed entry
  | find assoc message =>
      cases hbusy : t.handling assoc with
      | some held => simp [step, hbusy] at h
      | none =>
          cases hpos : (position message t.pendingRequests :
              Outcome Empty (Option Nat)) with
          | err e => cases e
          | panic => simp [step, hbusy, hpos] at h
          | ok found =>
              have hfirst := position_ok hpos
              cases found with
              | none =>
                  simp only [step, hbusy, hpos] at h
                  cases h
                  exact Effect.unmatched hbusy hfirst.symm
              | some index =>
                  simp only [step, hbusy, hpos] at h
                  cases h
                  exact Effect.found hbusy hfirst.symm
  | swapRemove assoc =>
      cases hheld : t.handling assoc with
      | none => simp [step, hheld] at h
      | some held =>
          rcases held with ⟨message, index⟩
          cases hremove : Foundation.swapRemove t.pendingRequests index with
          | none => simp [step, hheld, hremove] at h
          | some removed =>
              rcases removed with ⟨entry, rest⟩
              rcases swapRemove_some.mp hremove with ⟨hentry, hrest⟩
              simp only [step, hheld, hremove] at h
              cases h
              rw [hrest]
              exact Effect.removed hheld hentry
  | drain assoc =>
      cases hbusy : t.handling assoc with
      | some held => simp [step, hbusy] at h
      | none =>
          simp only [step, hbusy] at h
          cases h
          exact Effect.drained hbusy

theorem spawned_step {t t' : Transactions caller} {event : Event caller}
    (h : t.step event = some t') :
    exists more, t'.spawned = t.spawned ++ more := by
  cases step_effect h with
  | pushed _ => exact ⟨[], (List.append_nil _).symm⟩
  | found _ _ => exact ⟨[], (List.append_nil _).symm⟩
  | unmatched _ _ => exact ⟨_, rfl⟩
  | removed _ _ => exact ⟨[], (List.append_nil _).symm⟩
  | drained _ => exact ⟨[], (List.append_nil _).symm⟩

/-!
## Finding and removing across two lock sections

The index found in the first section is used in the second.  What other tasks
do in between decides whether it still names an entry for the message.
-/

/-- The index that the task of an association holds is inside the list, and the
entry there accepts the message being handled. -/
def Accurate (t : Transactions caller) (assoc : Nat) : Prop :=
  forall message index, t.handling assoc = some (message, index) ->
    exists entry, t.pendingRequests[index]? = some entry ∧
      accepts message entry = true

def AllAccurate (t : Transactions caller) : Prop :=
  forall assoc, t.Accurate assoc

/-- The event leaves the indices held by the other associations alone.  A
removal shortens the list by its last place and moves the last entry to the
removed place; a drain leaves no place at all. -/
def Undisturbed (t : Transactions caller) : Event caller -> Prop
  | Event.push _ => True
  | Event.find _ _ => True
  | Event.swapRemove assoc =>
      forall message index, t.handling assoc = some (message, index) ->
        forall other, other ≠ assoc ->
          forall message' index',
            t.handling other = some (message', index') ->
              index' + 1 < t.pendingRequests.length ∧
                (index' = index ->
                  exists last, t.pendingRequests.getLast? = some last ∧
                    accepts message' last = true)
  | Event.drain assoc =>
      t.handling assoc = none -> forall other, t.handling other = none

theorem accurate_of_same {t t' : Transactions caller}
    (h : t.AllAccurate) {assoc : Nat}
    (hhandling : t'.handling assoc = t.handling assoc)
    (hentries : forall (index : Nat) entry,
      t.pendingRequests[index]? = some entry ->
        t'.pendingRequests[index]? = some entry) : t'.Accurate assoc := by
  intro message index hheld
  rw [hhandling] at hheld
  rcases h assoc message index hheld with ⟨entry, hentry, haccepts⟩
  exact ⟨entry, hentries index entry hentry, haccepts⟩

theorem allAccurate_found {t : Transactions caller} (h : t.AllAccurate)
    {assoc index : Nat} {message : Message}
    (hfirst : t.pendingRequests.findIdx? (accepts message) = some index) :
    AllAccurate
      { t with
        handling := Function.update t.handling assoc (some (message, index))
        arrived := t.arrived ++ [message] } := by
  intro other
  by_cases hother : other = assoc
  · intro message' index' hheld
    rw [hother] at hheld
    simp only [Function.update_self] at hheld
    cases hheld
    rcases List.findIdx?_eq_some_iff_getElem.mp hfirst with ⟨hlt, haccepts, _⟩
    exact ⟨_, List.getElem?_eq_getElem hlt, haccepts⟩
  · exact accurate_of_same h (Function.update_of_ne hother _ _)
      (fun _ _ hentry => hentry)

theorem accepted_swapDrop_iff {pending : List (Pending caller)}
    {index index' : Nat} {message' : Message} {entry' : Pending caller}
    (hentry' : pending[index']? = some entry')
    (haccepts : accepts message' entry' = true) :
    (exists entry, (swapDrop pending index)[index']? = some entry ∧
        accepts message' entry = true) <->
      index' + 1 < pending.length ∧
        (index' = index ->
          exists last, pending.getLast? = some last ∧
            accepts message' last = true) := by
  rw [getElem?_swapDrop]
  by_cases hlt : index' + 1 < pending.length
  · rw [if_pos hlt]
    by_cases heq : index' = index
    · rw [if_pos heq]
      exact ⟨fun hlast => ⟨hlt, fun _ => hlast⟩, fun hlast => hlast.right heq⟩
    · rw [if_neg heq]
      exact ⟨fun _ => ⟨hlt, fun h => absurd h heq⟩,
        fun _ => ⟨entry', hentry', haccepts⟩⟩
  · rw [if_neg hlt]
    constructor
    · intro hex
      rcases hex with ⟨entry, hnone, _⟩
      cases hnone
    · intro hand
      exact absurd hand.left hlt

theorem undisturbed_iff_removed {t : Transactions caller} (h : t.AllAccurate)
    {assoc index : Nat} {message : Message} {entry : Pending caller}
    (hheld : t.handling assoc = some (message, index)) :
    t.Undisturbed (Event.swapRemove assoc) <->
      AllAccurate
        { t with
          pendingRequests := swapDrop t.pendingRequests index
          handling := Function.update t.handling assoc none
          responses := t.responses ++ [(entry.caller, message)] } := by
  constructor
  · intro hgood other message' index' hheld'
    by_cases hother : other = assoc
    · rw [hother] at hheld'
      simp [Function.update_self] at hheld'
    · change Function.update t.handling assoc none other = _ at hheld'
      rw [Function.update_of_ne hother] at hheld'
      rcases h other message' index' hheld' with ⟨entry', hentry', haccepts⟩
      exact (accepted_swapDrop_iff hentry' haccepts).mpr
        (hgood message index hheld other hother message' index' hheld')
  · intro hafter message0 index0 hheld0 other hother message' index' hheld'
    rw [hheld] at hheld0
    cases hheld0
    rcases h other message' index' hheld' with ⟨entry', hentry', haccepts⟩
    apply (accepted_swapDrop_iff hentry' haccepts).mp
    apply hafter other message' index'
    exact (Function.update_of_ne hother _ _).trans hheld'

theorem undisturbed_iff {t t' : Transactions caller} {event : Event caller}
    (h : t.AllAccurate) (heffect : Effect t event t') :
    t.Undisturbed event <-> t'.AllAccurate := by
  cases heffect with
  | pushed entry =>
      refine ⟨fun _ assoc => ?_, fun _ => trivial⟩
      refine accurate_of_same h rfl ?_
      intro index entry' hentry'
      rcases List.getElem?_eq_some_iff.mp hentry' with ⟨hlt, _⟩
      exact (List.getElem?_append_left hlt).trans hentry'
  | found _ hfirst =>
      exact ⟨fun _ => allAccurate_found h hfirst, fun _ => trivial⟩
  | unmatched _ _ =>
      exact ⟨fun _ assoc => accurate_of_same h rfl (fun _ _ he => he),
        fun _ => trivial⟩
  | removed hheld _ => exact undisturbed_iff_removed h hheld
  | @drained assoc hidle =>
      constructor
      · intro hgood other message index hheld
        change t.handling other = _ at hheld
        rw [hgood hidle other] at hheld
        cases hheld
      · intro hafter _ other
        cases hheld : t.handling other with
        | none => rfl
        | some held =>
            rcases hafter other held.1 held.2 hheld with ⟨entry, hentry, _⟩
            cases hentry

theorem undisturbed_of_refused {t : Transactions caller} {event : Event caller}
    (h : t.AllAccurate) (hnone : t.step event = none) :
    t.Undisturbed event := by
  cases event with
  | push entry => trivial
  | find assoc message => trivial
  | swapRemove assoc =>
      intro message index hheld
      rcases h assoc message index hheld with ⟨entry, hentry, _⟩
      simp [step, hheld, Foundation.swapRemove, hentry] at hnone
  | drain assoc =>
      intro hidle
      simp [step, hidle] at hnone

theorem allAccurate_start : (start : Transactions caller).AllAccurate := by
  intro assoc message index hheld
  cases hheld

/-- Every removal takes an entry for its own message, in every state of a run,
exactly when no event of the run disturbs an index held by another association. -/
theorem allAccurate_iff_undisturbed (events : List (Event caller)) :
    (transactionMachine caller).Always AllAccurate start events <->
      (transactionMachine caller).Along Undisturbed start events := by
  refine Machine.always_iff_along (J := fun _ => True) ?_ ?_ ?_
    allAccurate_start trivial events
  · intro t event t' _ _
    trivial
  · intro t event h _ hnone
    exact undisturbed_of_refused h hnone
  · intro t event t' h _ hstep
    exact undisturbed_iff h (step_effect hstep)

def RemovesOwn (t : Transactions caller) : Event caller -> Prop
  | Event.swapRemove assoc => t.Accurate assoc
  | _ => True

/-- In a run without disturbances every `swap_remove` removes an entry for the
message that is handled. -/
theorem removesOwn_of_undisturbed {events : List (Event caller)}
    (h : (transactionMachine caller).Along Undisturbed start events) :
    (transactionMachine caller).Along RemovesOwn start events := by
  refine Machine.Along.imp_of_invariant (J := AllAccurate) ?_ ?_
    allAccurate_start h
  · intro t event t' haccurate hgood hstep
    exact (undisturbed_iff haccurate (step_effect hstep)).mp hgood
  · intro t event haccurate _
    cases event with
    | swapRemove assoc => exact haccurate assoc
    | _ => trivial

def twoFinders : List (Event Nat) :=
  [Event.push ⟨0, 5⟩, Event.find 0 [0x40, 5], Event.find 1 [0x40, 5],
    Event.swapRemove 0]

/-- The second association is left with an index beyond the list. -/
theorem not_accurate_twoFinders :
    exists t, (transactionMachine Nat).run start twoFinders = some t ∧
      t.handling 1 = some ([0x40, 5], 0) ∧ t.pendingRequests = [] ∧
      ¬ t.Accurate 1 := by
  refine ⟨_, rfl, rfl, rfl, ?_⟩
  intro h
  rcases h [0x40, 5] 0 rfl with ⟨entry, hentry, _⟩
  cases hentry

end Transactions

end Stack
end QCore
