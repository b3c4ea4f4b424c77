import Mathlib.Data.List.Basic

/-!
# Removal by swapping with the last element

A vector removes element `i` in constant time by putting its last element in
that place.  The order of the rest changes, so an index taken before a removal
names the same element afterwards only for some positions.
-/

namespace QCore
namespace Foundation

variable {α : Type}

/-- The list without element `i`, whose place the last element takes. -/
def swapDrop (l : List α) (i : Nat) : List α :=
  match l.getLast? with
  | none => []
  | some last => (l.set i last).dropLast

/-- `Vec::swap_remove`; `none` is the panic for an index beyond the list. -/
def swapRemove (l : List α) (i : Nat) : Option (α × List α) :=
  match l[i]? with
  | none => none
  | some x => some (x, swapDrop l i)

theorem swapRemove_some {l rest : List α} {i : Nat} {x : α} :
    swapRemove l i = some (x, rest) <-> l[i]? = some x ∧ rest = swapDrop l i := by
  unfold swapRemove
  cases l[i]? with
  | none => simp
  | some y =>
      constructor
      · intro h
        cases h
        exact ⟨rfl, rfl⟩
      · intro h
        rcases h with ⟨hx, hrest⟩
        cases hx
        rw [hrest]

theorem getElem?_swapDrop (l : List α) (i j : Nat) :
    (swapDrop l i)[j]? =
      if j + 1 < l.length then
        if j = i then l.getLast? else l[j]?
      else
        none := by
  unfold swapDrop
  cases hlast : l.getLast? with
  | none => simp [List.getLast?_eq_none_iff.mp hlast]
  | some last =>
      by_cases hj : j + 1 < l.length
      · have hj' : j < l.length - 1 := by lia
        have hlt : j < l.length := by lia
        rw [if_pos hj, List.getElem?_dropLast, List.length_set, if_pos hj']
        by_cases hji : j = i
        · rw [if_pos hji, ← hji, List.getElem?_set_self hlt]
        · rw [if_neg hji, List.getElem?_set_ne (Ne.symm hji)]
      · have hj' : ¬ j < l.length - 1 := by lia
        rw [if_neg hj, List.getElem?_dropLast, List.length_set, if_neg hj']

theorem swapDrop_last (before : List α) (x : α) :
    swapDrop (before ++ [x]) before.length = before := by
  simp [swapDrop]

theorem swapDrop_middle (before after : List α) (x last : α) :
    swapDrop (before ++ x :: (after ++ [last])) before.length =
      before ++ last :: after := by
  have hlast : (before ++ x :: (after ++ [last])).getLast? = some last := by
    rw [← List.cons_append, ← List.append_assoc, List.getLast?_concat]
  have hlist : before ++ last :: (after ++ [last]) =
      (before ++ last :: after) ++ [last] := by
    simp
  unfold swapDrop
  rw [hlast]
  simp only [List.set_append_right _ _ (Nat.le_refl _), Nat.sub_self,
    List.set_cons_zero]
  rw [hlist, List.dropLast_concat]

theorem perm_swapDrop {l : List α} {i : Nat} {x : α} (h : l[i]? = some x) :
    l.Perm (x :: swapDrop l i) := by
  rcases List.getElem?_eq_some_iff.mp h with ⟨hi, hx⟩
  have hsplit : l = l.take i ++ x :: l.drop (i + 1) := by
    rw [← hx, List.getElem_cons_drop, List.take_append_drop]
  have hlen : (l.take i).length = i :=
    List.length_take_of_le (Nat.le_of_lt hi)
  revert hsplit hlen
  generalize l.take i = before
  generalize l.drop (i + 1) = after
  intro hsplit hlen
  rw [hsplit, ← hlen]
  rcases List.eq_nil_or_concat after with hnil | ⟨front, last, hconcat⟩
  · rw [hnil, swapDrop_last]
    exact List.perm_append_singleton x before
  · rw [hconcat, List.concat_eq_append, swapDrop_middle]
    refine List.perm_middle.trans (List.Perm.cons x ?_)
    rw [← List.append_assoc]
    exact (List.perm_append_singleton last _).trans List.perm_middle.symm

end Foundation
end QCore
