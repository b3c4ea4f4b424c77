import Mathlib.Data.List.Induction
import Mathlib.Data.List.Nodup
import QCore.Foundation.SwapList

/-!
# A waiting list that removes by swapping

Items arrive one after the other, and each is given to the first in the list who
waits for its label.  Whoever got an item leaves, and the last in the list takes
the place.  The theorem at the end says for which lists those who wait for one
label are nevertheless served in the order of the list, whatever arrives.
-/

namespace QCore
namespace Foundation

/-- How those who wait and the items that arrive are matched and named. -/
structure Matching (α β κ γ δ : Type) where
  key : α -> κ
  label : β -> κ
  who : α -> γ
  what : β -> δ

namespace Matching

variable {α β κ γ δ : Type} [DecidableEq κ] (M : Matching α β κ γ δ)

def waiting (k : κ) (l : List α) : List α :=
  l.filter fun x => decide (M.key x = k)

def labelled (k : κ) (items : List β) : List β :=
  items.filter fun b => decide (M.label b = k)

def takeFirst (k : κ) (l : List α) : Option (α × List α) :=
  match l.findIdx? fun x => decide (M.key x = k) with
  | none => none
  | some i => swapRemove l i

/-- Who is given which of the items with label `k`. -/
def deliveries (k : κ) : List α -> List β -> List (γ × δ)
  | _, [] => []
  | l, b :: rest =>
      match M.takeFirst (M.label b) l with
      | none => deliveries k l rest
      | some (x, l') =>
          if M.label b = k then (M.who x, M.what b) :: deliveries k l' rest
          else deliveries k l' rest

/-- Whatever arrives, the items with label `k` go to those who wait for it in
their order. -/
def InOrder (k : κ) (l : List α) : Prop :=
  forall items, M.deliveries k l items =
    ((M.waiting k l).map M.who).zip ((M.labelled k items).map M.what)

@[simp] theorem waiting_nil (k : κ) : M.waiting k [] = [] := rfl

theorem waiting_cons_self {k : κ} {x : α} (h : M.key x = k) (l : List α) :
    M.waiting k (x :: l) = x :: M.waiting k l := by
  simp [waiting, h]

theorem waiting_cons_of_ne {k : κ} {x : α} (h : M.key x ≠ k) (l : List α) :
    M.waiting k (x :: l) = M.waiting k l := by
  simp [waiting, h]

theorem waiting_append (k : κ) (l l' : List α) :
    M.waiting k (l ++ l') = M.waiting k l ++ M.waiting k l' :=
  List.filter_append _ _

theorem waiting_cons (k : κ) (x : α) (l : List α) :
    M.waiting k (x :: l) = M.waiting k [x] ++ M.waiting k l :=
  M.waiting_append k [x] l

theorem labelled_cons_self {k : κ} {b : β} (h : M.label b = k)
    (items : List β) : M.labelled k (b :: items) = b :: M.labelled k items := by
  simp [labelled, h]

theorem labelled_cons_of_ne {k : κ} {b : β} (h : M.label b ≠ k)
    (items : List β) : M.labelled k (b :: items) = M.labelled k items := by
  simp [labelled, h]

theorem waiting_eq_nil {k : κ} {l : List α}
    (h : forall x, x ∈ l -> M.key x ≠ k) : M.waiting k l = [] := by
  apply List.filter_eq_nil_iff.mpr
  intro x hx hkey
  exact h x hx (of_decide_eq_true hkey)

/-!
## One item
-/

theorem takeFirst_none {k : κ} {l : List α} (h : M.takeFirst k l = none) :
    M.waiting k l = [] := by
  unfold takeFirst at h
  cases hidx : l.findIdx? fun x => decide (M.key x = k) with
  | none =>
      apply M.waiting_eq_nil
      intro x hx
      exact of_decide_eq_false (List.findIdx?_eq_none_iff.mp hidx x hx)
  | some i =>
      rw [hidx] at h
      rcases List.findIdx?_eq_some_iff_getElem.mp hidx with ⟨hlt, _, _⟩
      simp [swapRemove, List.getElem?_eq_getElem hlt] at h

theorem deliveries_cons_none {b : β} {l : List α}
    (h : M.takeFirst (M.label b) l = none) (k : κ) (items : List β) :
    M.deliveries k l (b :: items) = M.deliveries k l items := by
  rw [deliveries, h]

theorem deliveries_cons_self {b : β} {l l' : List α} {x : α}
    (h : M.takeFirst (M.label b) l = some (x, l')) {k : κ}
    (hb : M.label b = k) (items : List β) :
    M.deliveries k l (b :: items) =
      (M.who x, M.what b) :: M.deliveries k l' items := by
  rw [deliveries, h]
  exact if_pos hb

theorem deliveries_cons_of_ne {b : β} {l l' : List α} {x : α}
    (h : M.takeFirst (M.label b) l = some (x, l')) {k : κ}
    (hb : M.label b ≠ k) (items : List β) :
    M.deliveries k l (b :: items) = M.deliveries k l' items := by
  rw [deliveries, h]
  exact if_neg hb

theorem takeFirst_split {k : κ} {l l' : List α} {x : α}
    (h : M.takeFirst k l = some (x, l')) :
    M.key x = k ∧ exists before after, l = before ++ x :: after ∧
      (forall y, y ∈ before -> M.key y ≠ k) ∧ l' = swapDrop l before.length := by
  unfold takeFirst at h
  cases hidx : l.findIdx? fun x => decide (M.key x = k) with
  | none =>
      rw [hidx] at h
      cases h
  | some i =>
      rw [hidx] at h
      rcases swapRemove_some.mp h with ⟨hx, hl'⟩
      rcases List.findIdx?_eq_some_iff_getElem.mp hidx with ⟨hlt, hkey, hbefore⟩
      have hget : l[i] = x :=
        Option.some.inj ((List.getElem?_eq_getElem hlt).symm.trans hx)
      rw [hget] at hkey
      have hlen : (l.take i).length = i :=
        List.length_take_of_le (Nat.le_of_lt hlt)
      refine ⟨of_decide_eq_true hkey, l.take i, l.drop (i + 1), ?_, ?_, ?_⟩
      · rw [← hget, List.getElem_cons_drop, List.take_append_drop]
      · intro y hy hyk
        rcases List.mem_take_iff_getElem.mp hy with ⟨j, hj, hjy⟩
        have hji : j < i := Nat.lt_of_lt_of_le hj (Nat.min_le_left _ _)
        apply hbefore j hji
        rw [hjy]
        exact decide_eq_true hyk
      · rw [hlen]
        exact hl'

theorem takeFirst_perm {k : κ} {l l' : List α} {x : α}
    (h : M.takeFirst k l = some (x, l')) : l.Perm (x :: l') := by
  rcases M.takeFirst_split h with ⟨_, before, after, hl, _, hl'⟩
  rw [hl']
  apply perm_swapDrop
  rw [hl, List.getElem?_append_right (Nat.le_refl _), Nat.sub_self]
  rfl

theorem waiting_takeFirst {k : κ} {l l' : List α} {x : α}
    (h : M.takeFirst k l = some (x, l')) :
    exists rest, M.waiting k l = x :: rest ∧ rest.Perm (M.waiting k l') := by
  rcases M.takeFirst_split h with ⟨hkey, before, after, hl, hbefore, _⟩
  have hwaiting : M.waiting k l = x :: M.waiting k after := by
    rw [hl, M.waiting_append, M.waiting_eq_nil hbefore,
      M.waiting_cons_self hkey, List.nil_append]
  have hperm : (M.waiting k l).Perm (M.waiting k (x :: l')) :=
    (M.takeFirst_perm h).filter _
  rw [hwaiting, M.waiting_cons_self hkey] at hperm
  exact ⟨_, hwaiting, hperm.cons_inv⟩

theorem waiting_takeFirst_other {k k' : κ} {l l' : List α} {x : α}
    (h : M.takeFirst k' l = some (x, l')) (hne : k' ≠ k) :
    (M.waiting k l).Perm (M.waiting k l') := by
  have hkey : M.key x ≠ k := by
    rw [(M.takeFirst_split h).left]
    exact hne
  have hperm : (M.waiting k l).Perm (M.waiting k (x :: l')) :=
    (M.takeFirst_perm h).filter _
  rw [M.waiting_cons_of_ne hkey] at hperm
  exact hperm

theorem takeFirst_head {k : κ} {x : α} (hkey : M.key x = k) (l : List α) :
    M.takeFirst k (x :: l) = some (x, swapDrop (x :: l) 0) := by
  unfold takeFirst
  rw [List.findIdx?_cons, if_pos (decide_eq_true hkey)]
  rfl

theorem takeFirst_keeps_head {k : κ} {x y : α} {l l' : List α}
    (h : M.takeFirst k (y :: l) = some (x, l')) (hne : M.key y ≠ k) :
    exists rest, l' = y :: rest := by
  rcases M.takeFirst_split h with ⟨hkey, before, after, hl, _, hl'⟩
  cases before with
  | nil =>
      cases hl
      exact absurd hkey hne
  | cons z before =>
      cases hl
      rcases List.eq_nil_or_concat after with hnil | ⟨mid, last, hconcat⟩
      · rw [hl', hnil]
        exact ⟨before, swapDrop_last (y :: before) x⟩
      · rw [hl', hconcat, List.concat_eq_append]
        exact ⟨_, swapDrop_middle (y :: before) mid x last⟩

def expected (k k' : κ) (l : List α) : List α :=
  if k' = k then (M.waiting k l).tail else M.waiting k l

theorem expected_perm {k' : κ} {l l' : List α} {x : α}
    (h : M.takeFirst k' l = some (x, l')) (k : κ) :
    (M.expected k k' l).Perm (M.waiting k l') := by
  unfold expected
  by_cases hk : k' = k
  · rw [hk] at h
    rcases M.waiting_takeFirst h with ⟨later, hwaiting, hperm⟩
    rw [if_pos hk, hwaiting]
    exact hperm
  · rw [if_neg hk]
    exact M.waiting_takeFirst_other h hk

theorem expected_head {k k' : κ} {x : α} (hx : M.key x = k') (l : List α) :
    M.expected k k' (x :: l) = M.waiting k l := by
  unfold expected
  by_cases hk : k' = k
  · rw [if_pos hk, M.waiting_cons_self (hx.trans hk), List.tail_cons]
  · rw [if_neg hk, M.waiting_cons_of_ne (hx.trans_ne hk)]

/-!
## Lists in which the order is kept
-/

def Settled (k : κ) (l : List α) : Prop :=
  (M.waiting k l.tail).length <= 1

theorem settled_of_short {k : κ} {l : List α}
    (h : (M.waiting k l).length <= 1) : M.Settled k l :=
  Nat.le_trans ((List.tail_sublist l).filter _).length_le h

theorem eq_of_perm_short {l l' : List α} (h : l.Perm l')
    (hlen : l.length <= 1) : l = l' := by
  match l, hlen with
  | [], _ => exact (List.nil_perm.mp h).symm
  | [x], _ => exact List.singleton_perm.mp h

theorem step_of_short {k k' : κ} {l l' : List α} {x : α}
    (h : M.takeFirst k' l = some (x, l'))
    (hshort : (M.expected k k' l).length <= 1) :
    M.waiting k l' = M.expected k k' l ∧ M.Settled k l' := by
  have heq := eq_of_perm_short (M.expected_perm h k) hshort
  rw [heq] at hshort
  exact ⟨heq.symm, M.settled_of_short hshort⟩

theorem Settled.step {M : Matching α β κ γ δ} {k k' : κ} {l l' : List α}
    {x : α} (hsettled : M.Settled k l)
    (h : M.takeFirst k' l = some (x, l')) :
    M.waiting k l' = M.expected k k' l ∧ M.Settled k l' := by
  cases l with
  | nil => cases h
  | cons y rest =>
      change (M.waiting k rest).length <= 1 at hsettled
      by_cases hy : M.key y = k'
      · apply M.step_of_short h
        rw [M.expected_head hy]
        exact hsettled
      · by_cases hk : k' = k
        · -- the only one who waited leaves
          apply M.step_of_short h
          rw [expected, if_pos hk, M.waiting_cons_of_ne (hk ▸ hy),
            List.length_tail]
          exact Nat.le_trans (Nat.sub_le _ 1) hsettled
        · -- the first place is kept, and with it the order behind it
          rcases M.takeFirst_keeps_head h hy with ⟨rest', hl'⟩
          have hperm := M.waiting_takeFirst_other h hk
          rw [hl', M.waiting_cons k y rest, M.waiting_cons k y rest',
            List.perm_append_left_iff] at hperm
          have heq := eq_of_perm_short hperm hsettled
          rw [expected, if_neg hk, hl', M.waiting_cons k y rest,
            M.waiting_cons k y rest', heq]
          refine ⟨rfl, ?_⟩
          change (M.waiting k rest').length <= 1
          rw [← heq]
          exact hsettled

theorem inOrder_of_settled {k : κ} {l : List α} (h : M.Settled k l) :
    M.InOrder k l := by
  intro items
  induction items generalizing l with
  | nil => exact List.zip_nil_right.symm
  | cons b rest ih =>
      cases htake : M.takeFirst (M.label b) l with
      | none =>
          rw [M.deliveries_cons_none htake, ih h]
          by_cases hb : M.label b = k
          · rw [hb] at htake
            rw [M.takeFirst_none htake]
            rfl
          · rw [M.labelled_cons_of_ne hb]
      | some taken =>
          rcases taken with ⟨x, l'⟩
          rcases h.step htake with ⟨hwaiting, hsettled⟩
          have hlater := ih hsettled
          rw [hwaiting, expected] at hlater
          by_cases hb : M.label b = k
          · rw [M.deliveries_cons_self htake hb, hlater, if_pos hb,
              M.labelled_cons_self hb]
            rw [hb] at htake
            rcases M.waiting_takeFirst htake with ⟨others, hothers, _⟩
            rw [hothers]
            rfl
          · rw [M.deliveries_cons_of_ne htake hb, hlater, if_neg hb,
              M.labelled_cons_of_ne hb]

/-!
## Lists in which it is not

An item for whoever has the first place brings the last of the list there.  This
is repeated until the last is one of those who wait for the label; they are then
before all others who do.
-/

theorem InOrder.after {M : Matching α β κ γ δ} {k : κ} {l l' : List α} {x : α}
    {b : β} (h : M.InOrder k l)
    (htake : M.takeFirst (M.label b) l = some (x, l')) (items : List β) :
    M.deliveries k l' items =
      ((M.expected k (M.label b) l).map M.who).zip
        ((M.labelled k items).map M.what) := by
  have hall := h (b :: items)
  unfold expected
  by_cases hb : M.label b = k
  · rw [M.deliveries_cons_self htake hb, M.labelled_cons_self hb] at hall
    rw [hb] at htake
    rcases M.waiting_takeFirst htake with ⟨rest, hwaiting, _⟩
    rw [hwaiting] at hall
    rw [if_pos hb, hwaiting, List.tail_cons]
    exact (List.cons.inj hall).right
  · rw [M.deliveries_cons_of_ne htake hb, M.labelled_cons_of_ne hb] at hall
    rw [if_neg hb]
    exact hall

theorem deliveries_head {k : κ} {x : α} (hx : M.key x = k) (l : List α) {b : β}
    (hb : M.label b = k) :
    M.deliveries k (x :: l) [b] = [(M.who x, M.what b)] := by
  have htake : M.takeFirst (M.label b) (x :: l) =
      some (x, swapDrop (x :: l) 0) := by
    rw [hb]
    exact M.takeFirst_head hx l
  exact M.deliveries_cons_self htake hb []

theorem not_inOrder_of_two_behind (item : κ -> β)
    (hitem : forall k, M.label (item k) = k) {k : κ} {x : α} {rest : List α}
    (hnodup : ((x :: rest).map M.who).Nodup)
    (htwo : 2 <= (M.waiting k rest).length) : ¬ M.InOrder k (x :: rest) := by
  induction rest using List.reverseRecOn generalizing x with
  | nil => cases htwo
  | append_singleton mid last ih =>
      intro horder
      have htake : M.takeFirst (M.label (item (M.key x)))
          (x :: (mid ++ [last])) = some (x, last :: mid) := by
        rw [hitem, M.takeFirst_head rfl]
        exact congrArg (fun l => some (x, l)) (swapDrop_middle [] mid x last)
      have hafter := horder.after htake
      rw [hitem, M.expected_head rfl, M.waiting_append] at hafter
      rw [M.waiting_append] at htwo
      rw [List.map_cons, List.map_append, List.nodup_cons] at hnodup
      by_cases hlast : M.key last = k
      · -- the last is now before the first of those who wait
        rw [M.waiting_cons_self hlast, M.waiting_nil] at hafter htwo
        cases hmid : M.waiting k mid with
        | nil =>
            rw [hmid] at htwo
            exact absurd htwo (Nat.not_succ_le_self 1)
        | cons z others =>
            have hfirst := hafter [item k]
            rw [M.deliveries_head hlast mid (hitem k), hmid,
              M.labelled_cons_self (hitem k)] at hfirst
            have hwho : M.who last = M.who z :=
              congrArg Prod.fst (List.cons.inj hfirst).left
            have hz : z ∈ mid := by
              have hwaits : z ∈ M.waiting k mid := by
                rw [hmid]
                exact List.mem_cons_self
              exact (List.mem_filter.mp hwaits).left
            have hmem : M.who last ∈ mid.map M.who := by
              rw [hwho]
              exact List.mem_map_of_mem hz
            have hdisjoint := (List.nodup_append.mp hnodup.right).right.right
            exact hdisjoint _ hmem _ List.mem_cons_self rfl
      · rw [M.waiting_cons_of_ne hlast, M.waiting_nil,
          List.append_nil] at hafter htwo
        have hperm := List.perm_append_singleton (M.who last) (mid.map M.who)
        refine ih (hperm.nodup_iff.mp hnodup.right) htwo ?_
        intro items
        rw [hafter, M.waiting_cons_of_ne hlast]

/-- For every list whose members are told apart: those who wait for a label are
served in order, whatever arrives, exactly when at most one of them is behind
the first place. -/
theorem inOrder_iff (item : κ -> β) (hitem : forall k, M.label (item k) = k)
    (k : κ) {l : List α} (hnodup : (l.map M.who).Nodup) :
    M.InOrder k l <-> (M.waiting k l.tail).length <= 1 := by
  constructor
  · intro horder
    cases l with
    | nil => exact Nat.zero_le 1
    | cons x rest =>
        apply Nat.le_of_not_lt
        intro htwo
        exact M.not_inOrder_of_two_behind item hitem hnodup htwo horder
  · exact M.inOrder_of_settled

end Matching
end Foundation
end QCore
