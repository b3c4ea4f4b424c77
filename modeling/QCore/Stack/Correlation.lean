import QCore.F1ap.Messages
import QCore.Stack.Transactions

/-!
# Which request a response reaches

Several UE tasks wait for the answers to their requests on one association.  A
response is given to the first pending entry with its procedure code.  The UE
id in the response plays no part, so the answers reach their own requests only
when they arrive in the order in which the list happens to hold the entries.
-/

namespace QCore
namespace Stack

open Foundation
open F1ap
open Userplane

namespace Correlation

/-- What the transaction layer does not know: how a response decodes, and the
tunnel that the DU has allocated for each UE. -/
structure Du where
  decode : Message -> Option UeContextSetupResponse
  allocated : GnbCuUeF1apId -> GtpTunnel

variable (du : Du)

/-- The `gnb_cu_ue_f1ap_id` of a response. -/
def Du.ueOf (message : Message) : Option GnbCuUeF1apId :=
  (du.decode message).map UeContextSetupResponse.gnbCuUeF1apId

/-- The tunnel that `SessionEstablishmentProcedure` commits on receiving the
response. -/
def Du.tunnelOf (message : Message) : Option GtpTunnel := do
  let response <- du.decode message
  let checked <- checkUeContextSetupResponse response
  return checked.2

abbrev UeTransactions : Type := Transactions GnbCuUeF1apId
abbrev UeEvent : Type := Event GnbCuUeF1apId

def OneAssociation (assoc : Nat) : UeEvent -> Prop
  | Event.push _ => True
  | Event.find a _ => a = assoc
  | Event.swapRemove a => a = assoc
  | Event.drain _ => False

/-- Each UE makes one request.  The DU answers a request that has been made,
once, with the id and the tunnel of that UE. -/
def Answers (t : UeTransactions) : UeEvent -> Prop
  | Event.push entry => forall p, p ∈ t.asked -> p.caller ≠ entry.caller
  | Event.find _ message =>
      exists p, p ∈ t.asked ∧ accepts message p = true ∧
        du.ueOf message = some p.caller ∧
        du.tunnelOf message = some (du.allocated p.caller) ∧
        forall m, m ∈ t.arrived -> du.ueOf m ≠ some p.caller
  | Event.swapRemove _ => True
  | Event.drain _ => True

/-- The first pending entry with the code of the response is the entry of the
request that it answers. -/
def OwnFirst (t : UeTransactions) : UeEvent -> Prop
  | Event.find _ message =>
      forall p, t.pendingRequests.find? (accepts message) = some p ->
        du.ueOf message = some p.caller
  | _ => True

instance (t : UeTransactions) : forall event, Decidable (Answers du t event)
  | Event.push _ => inferInstanceAs (Decidable (forall p, p ∈ t.asked -> _))
  | Event.find _ _ =>
      inferInstanceAs (Decidable (exists p, p ∈ t.asked ∧ _ ∧ _ ∧ _ ∧
        forall m, m ∈ t.arrived -> _))
  | Event.swapRemove _ => inferInstanceAs (Decidable True)
  | Event.drain _ => inferInstanceAs (Decidable True)

instance (t : UeTransactions) : forall event, Decidable (OwnFirst du t event)
  | Event.push _ => inferInstanceAs (Decidable True)
  | Event.find _ message =>
      inferInstanceAs (Decidable (forall p,
        p ∈ t.pendingRequests.find? (accepts message) -> _))
  | Event.swapRemove _ => inferInstanceAs (Decidable True)
  | Event.drain _ => inferInstanceAs (Decidable True)

/-- Every response has completed the request of its own UE, which commits the
tunnel that the DU allocated for that UE. -/
structure Correlated (t : UeTransactions) : Prop where
  own : forall ue message, (ue, message) ∈ t.responses ->
    du.ueOf message = some ue
  complete : forall ue message, message ∈ t.arrived ->
    du.ueOf message = some ue -> (ue, message) ∈ t.responses
  tunnel : forall ue message, (ue, message) ∈ t.responses ->
    du.tunnelOf message = some (du.allocated ue)

variable {du : Du}

theorem find?_of_findIdx? {pending : List (Pending GnbCuUeF1apId)}
    {message : Message} {index : Nat}
    (h : pending.findIdx? (accepts message) = some index) :
    exists p, pending[index]? = some p ∧
      pending.find? (accepts message) = some p := by
  rcases List.findIdx?_eq_some_iff_getElem.mp h with ⟨hlt, _, _⟩
  refine ⟨pending[index], List.getElem?_eq_getElem hlt, ?_⟩
  rw [List.find?_eq_bind_findIdx?_getElem?, h, Option.bind_some,
    List.getElem?_eq_getElem hlt]

/-!
## Runs in which every response finds its own entry
-/

structure Routed (du : Du) (assoc : Nat) (t : UeTransactions) : Prop where
  own : forall ue message, (ue, message) ∈ t.responses ->
    du.ueOf message = some ue ∧
      du.tunnelOf message = some (du.allocated ue)
  held : forall message index, t.handling assoc = some (message, index) ->
    message ∈ t.arrived ∧
    exists p, t.pendingRequests[index]? = some p ∧
      du.ueOf message = some p.caller ∧
      du.tunnelOf message = some (du.allocated p.caller)
  settled : forall ue message, message ∈ t.arrived ->
    du.ueOf message = some ue ->
    (ue, message) ∈ t.responses ∨
      exists index, t.handling assoc = some (message, index)
  waiting : forall p, p ∈ t.asked ->
    p ∈ t.pendingRequests ∨
      exists message, message ∈ t.arrived ∧ du.ueOf message = some p.caller

theorem routed_start (du : Du) (assoc : Nat) :
    Routed du assoc Transactions.start := by
  constructor
  · intro ue message h
    cases h
  · intro message index h
    cases h
  · intro ue message h
    cases h
  · intro p h
    cases h

theorem routed_push {assoc : Nat} {t : UeTransactions}
    (h : Routed du assoc t) (entry : Pending GnbCuUeF1apId) :
    Routed du assoc
      { t with
        pendingRequests := t.pendingRequests ++ [entry]
        asked := t.asked ++ [entry] } := by
  refine ⟨h.own, ?_, h.settled, ?_⟩
  · intro message index hheld
    rcases h.held message index hheld with ⟨harrived, p, hp, hown⟩
    rcases List.getElem?_eq_some_iff.mp hp with ⟨hlt, _⟩
    exact ⟨harrived, p, (List.getElem?_append_left hlt).trans hp, hown⟩
  · intro p hp
    rcases List.mem_append.mp hp with hold | hnew
    · rcases h.waiting p hold with hpending | harrived
      · exact Or.inl (List.mem_append_left _ hpending)
      · exact Or.inr harrived
    · exact Or.inl (List.mem_append_right _ hnew)

theorem routed_matches {assoc a : Nat} {t : UeTransactions}
    {message : Message} (h : Routed du assoc t)
    (hanswers : Answers du t (Event.find a message)) :
    t.pendingRequests.findIdx? (accepts message) ≠ none := by
  intro hnone
  rcases hanswers with ⟨p, hasked, haccepts, _, _, honce⟩
  rcases h.waiting p hasked with hpending | ⟨m, harrived, hue⟩
  · have hrejects := List.findIdx?_eq_none_iff.mp hnone p hpending
    rw [haccepts] at hrejects
    cases hrejects
  · exact honce m harrived hue

theorem routed_found {assoc index : Nat} {t : UeTransactions}
    {message : Message} (h : Routed du assoc t)
    (hidle : t.handling assoc = none)
    (hfirst : t.pendingRequests.findIdx? (accepts message) = some index)
    (hanswers : Answers du t (Event.find assoc message))
    (hownFirst : OwnFirst du t (Event.find assoc message)) :
    Routed du assoc
      { t with
        handling := Function.update t.handling assoc (some (message, index))
        arrived := t.arrived ++ [message] } := by
  rcases find?_of_findIdx? hfirst with ⟨p, hp, hfind⟩
  have hue := hownFirst p hfind
  refine ⟨h.own, ?_, ?_, ?_⟩
  · intro m i hheld
    simp only [Function.update_self] at hheld
    cases hheld
    rcases hanswers with ⟨q, _, _, hueq, htunnel, _⟩
    rw [hue, Option.some.injEq] at hueq
    rw [← hueq] at htunnel
    exact ⟨List.mem_append_right _ List.mem_cons_self, p, hp, hue, htunnel⟩
  · intro ue m hm hmue
    rcases List.mem_append.mp hm with hold | hnew
    · rcases h.settled ue m hold hmue with hdone | ⟨i, hheld⟩
      · exact Or.inl hdone
      · rw [hidle] at hheld
        cases hheld
    · rw [List.mem_singleton.mp hnew]
      exact Or.inr ⟨index, Function.update_self assoc _ _⟩
  · intro q hq
    rcases h.waiting q hq with hpending | ⟨m, harrived, hm⟩
    · exact Or.inl hpending
    · exact Or.inr ⟨m, List.mem_append_left _ harrived, hm⟩

theorem routed_removed {assoc index : Nat} {t : UeTransactions}
    {message : Message} {entry : Pending GnbCuUeF1apId}
    (h : Routed du assoc t)
    (hheld : t.handling assoc = some (message, index))
    (hentry : t.pendingRequests[index]? = some entry) :
    Routed du assoc
      { t with
        pendingRequests := swapDrop t.pendingRequests index
        handling := Function.update t.handling assoc none
        responses := t.responses ++ [(entry.caller, message)] } := by
  rcases h.held message index hheld with ⟨harrived, p, hp, hue, htunnel⟩
  rw [hentry] at hp
  cases hp
  refine ⟨?_, ?_, ?_, ?_⟩
  · intro ue m hm
    rcases List.mem_append.mp hm with hold | hnew
    · exact h.own ue m hold
    · cases List.mem_singleton.mp hnew
      exact ⟨hue, htunnel⟩
  · intro m i hm
    simp [Function.update_self] at hm
  · intro ue m hm hmue
    rcases h.settled ue m hm hmue with hdone | ⟨i, hi⟩
    · exact Or.inl (List.mem_append_left _ hdone)
    · rw [hheld] at hi
      cases hi
      rw [hue, Option.some.injEq] at hmue
      rw [← hmue]
      exact Or.inl (List.mem_append_right _ List.mem_cons_self)
  · intro q hq
    rcases h.waiting q hq with hpending | hdone
    · rcases List.mem_cons.mp ((perm_swapDrop hentry).mem_iff.mp hpending) with
        heq | hrest
      · rw [heq]
        exact Or.inr ⟨message, harrived, hue⟩
      · exact Or.inl hrest
    · exact Or.inr hdone

theorem routed_effect {assoc : Nat} {t t' : UeTransactions} {event : UeEvent}
    (h : Routed du assoc t) (hone : OneAssociation assoc event)
    (hanswers : Answers du t event) (hownFirst : OwnFirst du t event)
    (heffect : Transactions.Effect t event t') : Routed du assoc t' := by
  cases heffect with
  | pushed entry => exact routed_push h entry
  | found hidle hfirst =>
      cases hone
      exact routed_found h hidle hfirst hanswers hownFirst
  | unmatched _ hnone => exact absurd hnone (routed_matches h hanswers)
  | removed hheld hentry =>
      cases hone
      exact routed_removed h hheld hentry
  | drained _ => cases hone

theorem Routed.correlated {assoc : Nat} {t : UeTransactions}
    (h : Routed du assoc t) (hidle : t.handling assoc = none) :
    Correlated du t := by
  refine ⟨?_, ?_, ?_⟩
  · intro ue message hmem
    exact (h.own ue message hmem).left
  · intro ue message harrived hue
    rcases h.settled ue message harrived hue with hdone | ⟨index, hheld⟩
    · exact hdone
    · rw [hidle] at hheld
      cases hheld
  · intro ue message hmem
    exact (h.own ue message hmem).right

/-!
## Runs in which one does not
-/

def Crossed (du : Du) (assoc : Nat) (t : UeTransactions) : Prop :=
  (exists ue message, (ue, message) ∈ t.responses ∧
    du.ueOf message ≠ some ue) ∨
  exists message index p, t.handling assoc = some (message, index) ∧
    t.pendingRequests[index]? = some p ∧ du.ueOf message ≠ some p.caller

theorem crossed_effect {assoc : Nat} {t t' : UeTransactions} {event : UeEvent}
    (hone : OneAssociation assoc event) (h : Crossed du assoc t)
    (heffect : Transactions.Effect t event t') : Crossed du assoc t' := by
  rcases h with ⟨ue, m, hmem, hne⟩ | ⟨m, i, p, hheld, hp, hne⟩
  · -- A response that has been sent stays sent.
    refine Or.inl ⟨ue, m, ?_, hne⟩
    cases heffect with
    | pushed _ => exact hmem
    | found _ _ => exact hmem
    | unmatched _ _ => exact hmem
    | removed _ _ => exact List.mem_append_left _ hmem
    | drained _ => exact hmem
  · cases heffect with
    | pushed entry =>
        rcases List.getElem?_eq_some_iff.mp hp with ⟨hlt, _⟩
        exact Or.inr
          ⟨m, i, p, hheld, (List.getElem?_append_left hlt).trans hp, hne⟩
    | found hidle _ =>
        cases hone
        rw [hheld] at hidle
        cases hidle
    | unmatched hidle _ =>
        cases hone
        rw [hheld] at hidle
        cases hidle
    | removed hheld' hentry =>
        cases hone
        rw [hheld] at hheld'
        cases hheld'
        rw [hp] at hentry
        cases hentry
        exact Or.inl
          ⟨_, m, List.mem_append_right _ List.mem_cons_self, hne⟩
    | drained _ => cases hone

theorem crossed_of_not_ownFirst {assoc : Nat} {t t' : UeTransactions}
    {event : UeEvent} (hone : OneAssociation assoc event)
    (heffect : Transactions.Effect t event t')
    (hnot : ¬ OwnFirst du t event) : Crossed du assoc t' := by
  cases heffect with
  | pushed _ => exact absurd trivial hnot
  | removed _ _ => exact absurd trivial hnot
  | drained _ => exact absurd trivial hnot
  | unmatched _ hnone =>
      refine absurd ?_ hnot
      intro p hp
      rw [List.find?_eq_bind_findIdx?_getElem?, hnone] at hp
      cases hp
  | @found _ index message _ hfirst =>
      cases hone
      rcases find?_of_findIdx? hfirst with ⟨p, hp, hfind⟩
      refine Or.inr ⟨message, index, p, Function.update_self _ _ _, hp, ?_⟩
      intro hue
      apply hnot
      intro q hq
      rw [hfind] at hq
      cases hq
      exact hue

theorem not_correlated_of_crossed {assoc : Nat} {t : UeTransactions}
    (h : Crossed du assoc t) (hidle : t.handling assoc = none) :
    ¬ Correlated du t := by
  intro hcorrelated
  rcases h with ⟨ue, m, hmem, hne⟩ | ⟨m, i, p, hheld, _⟩
  · exact hne (hcorrelated.own ue m hmem)
  · rw [hidle] at hheld
    cases hheld

/-- On one association, with a DU that answers each request once: every request
completes with the response and the tunnel of its own UE exactly when each
response arrives while its request is the first pending one of its code. -/
theorem correlated_iff_ownFirst {assoc : Nat} {events : List UeEvent}
    {t : UeTransactions}
    (hrun : (transactionMachine GnbCuUeF1apId).run Transactions.start events =
      some t)
    (hone : forall event, event ∈ events -> OneAssociation assoc event)
    (hanswers : (transactionMachine GnbCuUeF1apId).Along (Answers du)
      Transactions.start events)
    (hidle : t.handling assoc = none) :
    Correlated du t <->
      (transactionMachine GnbCuUeF1apId).Along (OwnFirst du)
        Transactions.start events := by
  constructor
  · intro hcorrelated
    have hrunOr : (transactionMachine GnbCuUeF1apId).Along (OwnFirst du)
        Transactions.start events ∨ Crossed du assoc t := by
      refine Machine.along_or_bad ?_ ?_ hone hrun
      · intro s event s' hok hstep hnot
        exact crossed_of_not_ownFirst hok (Transactions.step_effect hstep) hnot
      · intro s event s' hok hcrossed hstep
        exact crossed_effect hok hcrossed (Transactions.step_effect hstep)
    rcases hrunOr with halong | hcrossed
    · exact halong
    · exact absurd hcorrelated (not_correlated_of_crossed hcrossed hidle)
  · intro hownFirst
    have hgood := (Machine.along_of_forall hone Transactions.start).and
      (hanswers.and hownFirst)
    have hkeep : forall s event s', Routed du assoc s ->
        OneAssociation assoc event ∧ Answers du s event ∧ OwnFirst du s event ->
        (transactionMachine GnbCuUeF1apId).step s event = some s' ->
        Routed du assoc s' := by
      intro s event s' h hall hstep
      exact routed_effect h hall.left hall.right.left hall.right.right
        (Transactions.step_effect hstep)
    exact (Machine.run_invariant_along hkeep (routed_start du assoc) hgood
      hrun).correlated hidle

/-!
## A crossing

The DU numbers its tunnels by UE.  Its response is three bytes long: class,
procedure code of UE Context Setup, and the UE id.
-/

def numberedTunnel (ue : GnbCuUeF1apId) : GtpTunnel where
  transportLayerAddress :=
    TransportLayerAddress.fromIpAddr (IpAddr.v4 ⟨#v[10, 0, 0, 1]⟩)
  gtpTeid := #v[0, 0, 0, ue.toUInt8]

def numberedDu : Du where
  decode
    | [_, _, ue] =>
        some
          { gnbCuUeF1apId := ue.toUInt32
            cellGroupConfig := []
            drbsSetupList :=
              some ⟨⟨⟨numberedTunnel ue.toUInt32, []⟩⟩, []⟩ }
    | _ => none
  allocated := numberedTunnel

def twoRequests (first second : UInt8) : List UeEvent :=
  [Event.push ⟨1, 5⟩, Event.push ⟨2, 5⟩,
    Event.find 0 [0x40, 5, first], Event.swapRemove 0,
    Event.find 0 [0x40, 5, second], Event.swapRemove 0]

theorem twoRequests_oneAssociation (first second : UInt8) :
    forall event, event ∈ twoRequests first second ->
      OneAssociation 0 event := by
  intro event hevent
  simp only [twoRequests, List.mem_cons, List.not_mem_nil, or_false] at hevent
  rcases hevent with h | h | h | h | h | h <;> rw [h]
  · trivial
  · trivial
  · rfl
  · rfl
  · rfl
  · rfl

theorem correlated_in_order :
    exists t, (transactionMachine GnbCuUeF1apId).run Transactions.start
        (twoRequests 1 2) = some t ∧ Correlated numberedDu t := by
  refine ⟨_, rfl, ?_⟩
  exact (correlated_iff_ownFirst rfl (twoRequests_oneAssociation 1 2)
    (by decide) rfl).mpr (by decide)

/-- The answers arrive in the other order: the session of UE 1 is committed
with the tunnel of UE 2. -/
theorem not_correlated_crossing :
    exists t, (transactionMachine GnbCuUeF1apId).run Transactions.start
        (twoRequests 2 1) = some t ∧
      (transactionMachine GnbCuUeF1apId).Along (Answers numberedDu)
        Transactions.start (twoRequests 2 1) ∧
      (1, [0x40, 5, 2]) ∈ t.responses ∧
      numberedDu.tunnelOf [0x40, 5, 2] = some (numberedTunnel 2) ∧
      ¬ Correlated numberedDu t := by
  refine ⟨_, rfl, by decide, by decide, rfl, ?_⟩
  intro h
  have hown := h.own 1 [0x40, 5, 2] (by decide)
  revert hown
  decide

end Correlation
end Stack
end QCore
