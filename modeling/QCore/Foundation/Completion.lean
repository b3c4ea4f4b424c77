import QCore.Foundation.Machine

/-!
# Simulation and completion

Two rules on runs of labelled machines.  A machine whose steps are steps of
another one, or leave its part of the state alone, has runs that are runs of the
other one.  A machine that is never stuck before it has reached its goal, and
whose own steps use up a potential that only the environment adds to, reaches
the goal.
-/

namespace QCore
namespace Foundation
namespace Machine

variable {state label state' label' : Type}

theorem run_simulates {M : Machine state label} {N : Machine state' label'}
    {part : state -> state'} {image : label -> Option label'}
    (hstep : forall s l s', M.step s l = some s' ->
      N.run (part s) (image l).toList = some (part s'))
    {s t : state} {ls : List label} (hrun : M.run s ls = some t) :
    N.run (part s) (ls.filterMap image) = some (part t) := by
  induction ls generalizing s with
  | nil =>
      cases hrun
      rfl
  | cons l rest ih =>
      rcases run_cons_some hrun with ⟨s', hl, hrest⟩
      have hfirst := hstep s l s' hl
      have hsplit : (l :: rest).filterMap image =
          (image l).toList ++ rest.filterMap image := by
        cases himage : image l with
        | none => rw [List.filterMap_cons_none himage]; rfl
        | some l' => rw [List.filterMap_cons_some himage]; rfl
      rw [hsplit, run_append hfirst]
      exact ih hrest

/-- The steps of the machine itself are paid for by its potential, and by what
each step of the environment adds to it. -/
theorem run_countP_le_mul {M : Machine state label} {own : label -> Bool}
    {potential : state -> Nat} {price : Nat} {I : state -> Prop}
    (hinv : forall s l s', I s -> M.step s l = some s' -> I s')
    (hstep : forall s l s', I s -> M.step s l = some s' ->
      potential s' + (if own l then 1 else 0) <=
        potential s + if own l then 0 else price)
    {s t : state} (hs : I s) {ls : List label} (hrun : M.run s ls = some t) :
    potential t + ls.countP own <=
      potential s + price * ls.countP fun l => !own l := by
  induction ls generalizing s with
  | nil =>
      cases hrun
      exact Nat.le_refl _
  | cons l rest ih =>
      rcases run_cons_some hrun with ⟨s', hl, hrest⟩
      have hfirst := hstep s l s' hs hl
      have hlater := ih (hinv s l s' hs hl) hrest
      rw [List.countP_cons, List.countP_cons]
      cases hown : own l with
      | true =>
          simp only [hown, if_true] at hfirst
          simp only [if_true, Bool.not_true, Bool.false_eq_true, if_false]
          lia
      | false =>
          simp only [hown, Bool.false_eq_true, if_false] at hfirst
          simp only [Bool.false_eq_true, if_false, Bool.not_false, if_true,
            Nat.mul_add]
          lia

theorem run_completes {M : Machine state label} {own : label -> Bool}
    {potential : state -> Nat} {I goal : state -> Prop}
    (hinv : forall s l s', I s -> own l = true -> M.step s l = some s' -> I s')
    (hstep : forall s l s', M.step s l = some s' -> own l = true ->
      potential s' < potential s)
    (hprogress : forall s, I s ->
      goal s ∨ exists l s', own l = true ∧ M.step s l = some s')
    {s : state} (hs : I s) :
    exists ls t, (forall l, l ∈ ls -> own l = true) ∧
      M.run s ls = some t ∧ goal t := by
  induction hn : potential s using Nat.strongRecOn generalizing s with
  | ind n ih =>
      rcases hprogress s hs with hgoal | ⟨l, s', hown, hl⟩
      · exact ⟨[], s, fun _ hmem => absurd hmem List.not_mem_nil, rfl, hgoal⟩
      · have hless := hstep s l s' hl hown
        rw [hn] at hless
        rcases ih (potential s') hless (hinv s l s' hs hown hl) rfl with
          ⟨ls, t, hall, hrun, hgoal⟩
        refine ⟨l :: ls, t, ?_, (run_cons_of_step ls hl).trans hrun, hgoal⟩
        intro l' hmem
        rcases List.mem_cons.mp hmem with heq | hrest
        · rw [heq]
          exact hown
        · exact hall l' hrest

end Machine
end Foundation
end QCore
