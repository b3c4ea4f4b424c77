/-!
# Labelled machines and their runs

A machine reads a label and either moves to one next state or refuses.  Every
choice an environment can make (which task moves, which value is drawn) is part
of the label, so quantifying over label lists quantifies over every
interleaving.

The induction rules at the end are the only inductions over runs that a
development using this module needs: for invariants of every run, for
invariants of the runs whose steps all meet a condition, for what the steps put
out, and for how often a kind of step occurs.
-/

namespace QCore
namespace Foundation

/-- A deterministic labelled machine with partial steps. -/
structure Machine (state label : Type) where
  step : state -> label -> Option state

namespace Machine

variable {state label : Type}

/-- Fire a list of labels in order; refuse as soon as one of them refuses. -/
def run (M : Machine state label) : state -> List label -> Option state
  | s, [] => some s
  | s, l :: rest =>
      match M.step s l with
      | none => none
      | some s' => run M s' rest

/-- Every label of the list meets `good` in the state where it fires. -/
def Along (M : Machine state label) (good : state -> label -> Prop) :
    state -> List label -> Prop
  | _, [] => True
  | s, l :: rest =>
      good s l ∧ forall s', M.step s l = some s' -> Along M good s' rest

/-- What the steps of a run put out, as long as the machine does not refuse. -/
def outputs {α : Type} (M : Machine state label)
    (out : state -> label -> state -> List α) : state -> List label -> List α
  | _, [] => []
  | s, l :: rest =>
      match M.step s l with
      | none => []
      | some s' => out s l s' ++ outputs M out s' rest

/-- How many labels meet the test in the state where they are read, a refused
one included. -/
def occurrences (M : Machine state label) (test : state -> label -> Bool) :
    state -> List label -> Nat
  | _, [] => 0
  | s, l :: rest =>
      (if test s l then 1 else 0) +
        match M.step s l with
        | none => 0
        | some s' => occurrences M test s' rest

def Always (M : Machine state label) (I : state -> Prop) :
    state -> List label -> Prop
  | s, [] => I s
  | s, l :: rest =>
      I s ∧ forall s', M.step s l = some s' -> Always M I s' rest

theorem run_cons_of_step {M : Machine state label} {s s' : state} {l : label}
    (rest : List label) (h : M.step s l = some s') :
    M.run s (l :: rest) = M.run s' rest := by
  simp [run, h]

theorem run_cons_some {M : Machine state label} {s t : state} {l : label}
    {rest : List label} (h : M.run s (l :: rest) = some t) :
    exists s', M.step s l = some s' ∧ M.run s' rest = some t := by
  cases hstep : M.step s l with
  | none => simp [run, hstep] at h
  | some s' =>
      rw [run_cons_of_step rest hstep] at h
      exact ⟨s', rfl, h⟩

theorem run_append {M : Machine state label} {s t : state}
    {before rest : List label} (h : M.run s before = some t) :
    M.run s (before ++ rest) = M.run t rest := by
  induction before generalizing s with
  | nil =>
      cases h
      rfl
  | cons l before ih =>
      rcases run_cons_some h with ⟨s', hstep, hrun⟩
      rw [List.cons_append, run_cons_of_step _ hstep]
      exact ih hrun

theorem run_append_some {M : Machine state label} {s t : state}
    {before rest : List label} (h : M.run s (before ++ rest) = some t) :
    exists m, M.run s before = some m ∧ M.run m rest = some t := by
  induction before generalizing s with
  | nil => exact ⟨s, rfl, h⟩
  | cons l before ih =>
      rcases run_cons_some h with ⟨s', hstep, hrest⟩
      rcases ih hrest with ⟨m, hm, ht⟩
      exact ⟨m, (run_cons_of_step before hstep).trans hm, ht⟩

theorem run_concat_some {M : Machine state label} {s t : state} {l : label}
    {before : List label} (h : M.run s (before ++ [l]) = some t) :
    exists m, M.run s before = some m ∧ M.step m l = some t := by
  rcases run_append_some h with ⟨m, hm, hrest⟩
  rcases run_cons_some hrest with ⟨t', hstep, ht⟩
  cases ht
  exact ⟨m, hm, hstep⟩

theorem along_cons_refused {M : Machine state label}
    {good : state -> label -> Prop} {s : state} {l : label}
    (rest : List label) (h : M.step s l = none) :
    M.Along good s (l :: rest) <-> good s l := by
  simp [Along, h]

theorem along_cons_of_step {M : Machine state label}
    {good : state -> label -> Prop} {s s' : state} {l : label}
    (rest : List label) (h : M.step s l = some s') :
    M.Along good s (l :: rest) <-> good s l ∧ M.Along good s' rest := by
  simp [Along, h]

instance decidableAlong (M : Machine state label)
    (good : state -> label -> Prop) [forall s l, Decidable (good s l)] :
    forall s ls, Decidable (M.Along good s ls)
  | _, [] => Decidable.isTrue trivial
  | s, l :: rest =>
      match h : M.step s l with
      | none => decidable_of_iff _ (along_cons_refused rest h).symm
      | some s' =>
          have := decidableAlong M good s' rest
          decidable_of_iff _ (along_cons_of_step rest h).symm

theorem always_start {M : Machine state label} {I : state -> Prop} {s : state}
    {ls : List label} (h : M.Always I s ls) : I s := by
  cases ls with
  | nil => exact h
  | cons l rest => exact h.left

theorem along_of_forall {M : Machine state label} {good : label -> Prop}
    {ls : List label} (h : forall l, l ∈ ls -> good l) (s : state) :
    M.Along (fun _ l => good l) s ls := by
  induction ls generalizing s with
  | nil => trivial
  | cons l rest ih =>
      refine ⟨h l List.mem_cons_self, ?_⟩
      intro s' _
      exact ih (fun l' hl' => h l' (List.mem_cons_of_mem l hl')) s'

theorem Along.and {M : Machine state label} {good good' : state -> label -> Prop}
    {s : state} {ls : List label} (h : M.Along good s ls)
    (h' : M.Along good' s ls) :
    M.Along (fun s l => good s l ∧ good' s l) s ls := by
  induction ls generalizing s with
  | nil => trivial
  | cons l rest ih =>
      refine ⟨⟨h.left, h'.left⟩, ?_⟩
      intro s' hs'
      exact ih (h.right s' hs') (h'.right s' hs')

theorem along_iff_split {M : Machine state label}
    {good : state -> label -> Prop} {s : state} {ls : List label} :
    M.Along good s ls <->
      forall before l rest m, ls = before ++ l :: rest ->
        M.run s before = some m -> good m l := by
  induction ls generalizing s with
  | nil => simp [Along]
  | cons first ls ih =>
      constructor
      · intro h before l rest m hsplit hrun
        cases before with
        | nil =>
            cases hsplit
            cases hrun
            exact h.left
        | cons first' before =>
            cases hsplit
            rcases run_cons_some hrun with ⟨s', hstep, hrest⟩
            exact ih.mp (h.right s' hstep) before l rest m rfl hrest
      · intro h
        refine ⟨h [] first ls s rfl rfl, ?_⟩
        intro s' hstep
        apply ih.mpr
        intro before l rest m hsplit hrun
        rw [hsplit] at h
        exact h (first :: before) l rest m rfl
          ((run_cons_of_step before hstep).trans hrun)

/-!
## Induction over runs
-/

theorem run_invariant {M : Machine state label} {I : state -> Prop}
    (hstep : forall s l s', I s -> M.step s l = some s' -> I s')
    {s t : state} {ls : List label} (hs : I s) (hrun : M.run s ls = some t) :
    I t := by
  induction ls generalizing s with
  | nil =>
      cases hrun
      exact hs
  | cons l rest ih =>
      rcases run_cons_some hrun with ⟨s', hl, hrest⟩
      exact ih (hstep s l s' hs hl) hrest

theorem run_invariant_along {M : Machine state label} {I : state -> Prop}
    {good : state -> label -> Prop}
    (hstep : forall s l s', I s -> good s l -> M.step s l = some s' -> I s')
    {s t : state} {ls : List label} (hs : I s) (hgood : M.Along good s ls)
    (hrun : M.run s ls = some t) : I t := by
  induction ls generalizing s with
  | nil =>
      cases hrun
      exact hs
  | cons l rest ih =>
      rcases run_cons_some hrun with ⟨s', hl, hrest⟩
      exact ih (hstep s l s' hs hgood.left hl) (hgood.right s' hl) hrest

/-- A run takes no more counted steps than its potential and the steps that
refill it pay for. -/
theorem run_countP_le {M : Machine state label} {counted refill : label -> Bool}
    {potential : state -> Nat}
    (hstep : forall s l s', M.step s l = some s' ->
      potential s' + (if counted l then 1 else 0) <=
        potential s + if refill l then 1 else 0)
    {s t : state} {ls : List label} (hrun : M.run s ls = some t) :
    potential t + ls.countP counted <= potential s + ls.countP refill := by
  induction ls generalizing s with
  | nil =>
      cases hrun
      exact Nat.le_refl _
  | cons l rest ih =>
      rcases run_cons_some hrun with ⟨s', hl, hrest⟩
      have hfirst := hstep s l s' hl
      have hlater := ih hrest
      rw [List.countP_cons, List.countP_cons]
      lia

theorem outputs_cons_of_step {α : Type} {M : Machine state label}
    (out : state -> label -> state -> List α) {s s' : state} {l : label}
    (rest : List label) (h : M.step s l = some s') :
    M.outputs out s (l :: rest) = out s l s' ++ M.outputs out s' rest := by
  simp [outputs, h]

theorem outputs_length_le {α : Type} (M : Machine state label)
    {out : state -> label -> state -> List α}
    (hstep : forall s l s', (out s l s').length <= 1)
    (s : state) (ls : List label) :
    (M.outputs out s ls).length <= ls.length := by
  induction ls generalizing s with
  | nil => exact Nat.le_refl _
  | cons l rest ih =>
      cases hs' : M.step s l with
      | none => simp [outputs, hs']
      | some s' =>
          have hfirst := hstep s l s'
          have hlater := ih s'
          rw [outputs_cons_of_step out rest hs', List.length_append,
            List.length_cons]
          lia

/-- A machine that counts what it puts out: when each step puts out nothing, or
the next item in line, the items of every run are in line. -/
theorem outputs_numbered {α : Type} {M : Machine state label}
    {out : state -> label -> state -> List α} {I : Nat -> state -> Prop}
    {good : label -> Prop} {item : Nat -> α -> Prop}
    (hstep : forall k s l s', I k s -> good l -> M.step s l = some s' ->
      (out s l s' = [] ∧ I k s') ∨
        exists a, out s l s' = [a] ∧ item k a ∧ I (k + 1) s')
    {k : Nat} {s : state} (hs : I k s) {ls : List label}
    (hgood : forall l, l ∈ ls -> good l) {i : Nat} {a : α}
    (h : (M.outputs out s ls)[i]? = some a) : item (k + i) a := by
  induction ls generalizing k s i with
  | nil =>
      simp [outputs] at h
  | cons l rest ih =>
      have hrest : forall l, l ∈ rest -> good l :=
        fun l hl => hgood l (List.mem_cons_of_mem _ hl)
      cases hs' : M.step s l with
      | none => simp [outputs, hs'] at h
      | some s' =>
          rw [outputs_cons_of_step out rest hs'] at h
          rcases hstep k s l s' hs (hgood l List.mem_cons_self) hs' with
            ⟨hnone, hinv⟩ | ⟨b, hone, hitem, hinv⟩
          · rw [hnone] at h
            exact ih hinv hrest h
          · rw [hone] at h
            cases i with
            | zero =>
                cases h
                exact hitem
            | succ j =>
                have hlater := ih hinv hrest h
                rw [Nat.add_right_comm] at hlater
                exact hlater

theorem outputs_numbered_always {α : Type} {M : Machine state label}
    {out : state -> label -> state -> List α} {I : Nat -> state -> Prop}
    {item : Nat -> α -> Prop}
    (hstep : forall k s l s', I k s -> M.step s l = some s' ->
      (out s l s' = [] ∧ I k s') ∨
        exists a, out s l s' = [a] ∧ item k a ∧ I (k + 1) s')
    {s : state} (hs : I 0 s) {ls : List label} {i : Nat} {a : α}
    (h : (M.outputs out s ls)[i]? = some a) : item i a := by
  have hnumber := @outputs_numbered _ _ _ M out I (fun _ => True) item
    (fun k s l s' hi _ hl => hstep k s l s' hi hl) 0 s hs ls
    (fun _ _ => trivial) i a h
  rw [Nat.zero_add] at hnumber
  exact hnumber

theorem occurrences_cons_of_step {M : Machine state label}
    (test : state -> label -> Bool) {s s' : state} {l : label}
    (rest : List label) (h : M.step s l = some s') :
    M.occurrences test s (l :: rest) =
      (if test s l then 1 else 0) + M.occurrences test s' rest := by
  simp [occurrences, h]

theorem occurrences_concat {M : Machine state label}
    (test : state -> label -> Bool) {s t : state} {before : List label}
    (h : M.run s before = some t) (l : label) :
    M.occurrences test s (before ++ [l]) =
      M.occurrences test s before + if test t l then 1 else 0 := by
  induction before generalizing s with
  | nil =>
      cases h
      cases hl : M.step t l with
      | none => simp [occurrences, hl]
      | some s' => simp [occurrences, hl]
  | cons first before ih =>
      rcases run_cons_some h with ⟨s', hstep, hrest⟩
      rw [List.cons_append, occurrences_cons_of_step test _ hstep,
        occurrences_cons_of_step test _ hstep, ih hrest, Nat.add_assoc]

theorem run_counter {M : Machine state label} {test : state -> label -> Bool}
    {I : Nat -> state -> Prop} {good : label -> Prop}
    (hstep : forall k s l s', I k s -> good l -> M.step s l = some s' ->
      I (k + if test s l then 1 else 0) s')
    {k : Nat} {s t : state} (hs : I k s) {ls : List label}
    (hgood : forall l, l ∈ ls -> good l) (hrun : M.run s ls = some t) :
    I (k + M.occurrences test s ls) t := by
  induction ls generalizing k s with
  | nil =>
      cases hrun
      exact hs
  | cons l rest ih =>
      rcases run_cons_some hrun with ⟨s', hl, hrest⟩
      have hlater := ih (hstep k s l s' hs (hgood l List.mem_cons_self) hl)
        (fun l' hl' => hgood l' (List.mem_cons_of_mem l hl')) hrest
      rw [occurrences_cons_of_step test rest hl, ← Nat.add_assoc]
      exact hlater

theorem occurrences_le {M : Machine state label}
    {test : state -> label -> Bool} {I : Nat -> state -> Prop}
    {good : label -> Prop} {below : state -> label -> Prop} {limit : Nat}
    (hstep : forall k s l s', I k s -> good l -> M.step s l = some s' ->
      I (k + if test s l then 1 else 0) s')
    (hbelow : forall k s l, I k s -> k <= limit -> test s l = true ->
      below s l -> k < limit)
    {k : Nat} {s : state} (hs : I k s) (hk : k <= limit) {ls : List label}
    (hgood : forall l, l ∈ ls -> good l) (halong : M.Along below s ls) :
    k + M.occurrences test s ls <= limit := by
  induction ls generalizing k s with
  | nil => exact hk
  | cons l rest ih =>
      have hnext : k + (if test s l then 1 else 0) <= limit := by
        by_cases htest : test s l = true
        · rw [if_pos htest]
          exact hbelow k s l hs hk htest halong.left
        · rw [if_neg htest]
          exact hk
      cases hl : M.step s l with
      | none =>
          simp only [occurrences, hl]
          exact hnext
      | some s' =>
          have hlater := ih
            (hstep k s l s' hs (hgood l List.mem_cons_self) hl) hnext
            (fun l' hl' => hgood l' (List.mem_cons_of_mem l hl'))
            (halong.right s' hl)
          rw [occurrences_cons_of_step test rest hl, ← Nat.add_assoc]
          exact hlater

/-- What holds after a run held all along, or goes back to the last label that
brought it about. -/
theorem run_last_cause {M : Machine state label} {J holds : state -> Prop}
    {cause keeps : label -> Prop}
    (hinv : forall s l s', J s -> M.step s l = some s' -> J s')
    (hstep : forall s l s', J s -> M.step s l = some s' -> holds s' ->
      cause l ∨ holds s ∧ keeps l)
    {s t : state} {ls : List label} (hs : J s) (hrun : M.run s ls = some t)
    (ht : holds t) :
    (holds s ∧ forall l, l ∈ ls -> keeps l) ∨
      exists before l after m m', ls = before ++ l :: after ∧ cause l ∧
        M.run s before = some m ∧ M.step m l = some m' ∧
        M.run m' after = some t ∧ forall l', l' ∈ after -> keeps l' := by
  induction ls generalizing s with
  | nil =>
      cases hrun
      exact Or.inl ⟨ht, fun _ hmem => absurd hmem List.not_mem_nil⟩
  | cons l rest ih =>
      rcases run_cons_some hrun with ⟨s', hl, hrest⟩
      rcases ih (hinv s l s' hs hl) hrest with
        ⟨hholds, hkept⟩ |
          ⟨before, l', after, m, m', hsplit, hcause, hm, hl', hafter, hkept⟩
      · rcases hstep s l s' hs hl hholds with hcause | ⟨hbefore, hkeeps⟩
        · exact Or.inr ⟨[], l, rest, s, s', rfl, hcause, rfl, hl, hrest, hkept⟩
        · refine Or.inl ⟨hbefore, ?_⟩
          intro l' hmem
          rcases List.mem_cons.mp hmem with heq | hlater
          · rw [heq]
            exact hkeeps
          · exact hkept l' hlater
      · refine Or.inr ⟨l :: before, l', after, m, m', ?_, hcause, ?_, hl',
          hafter, hkept⟩
        · rw [hsplit, List.cons_append]
        · exact (run_cons_of_step before hl).trans hm

theorem always_of_invariant {M : Machine state label} {I J : state -> Prop}
    (hinv : forall s l s', J s -> M.step s l = some s' -> J s')
    (hI : forall s, J s -> I s) {s : state} (hs : J s) (ls : List label) :
    M.Always I s ls := by
  induction ls generalizing s with
  | nil => exact hI s hs
  | cons l rest ih =>
      exact ⟨hI s hs, fun s' hstep => ih (hinv s l s' hs hstep)⟩

theorem along_of_invariant {M : Machine state label} {J : state -> Prop}
    {good : state -> label -> Prop}
    (hinv : forall s l s', J s -> M.step s l = some s' -> J s')
    (hgood : forall s l, J s -> good s l) {s : state} (hs : J s)
    (ls : List label) : M.Along good s ls := by
  induction ls generalizing s with
  | nil => trivial
  | cons l rest ih =>
      exact ⟨hgood s l hs, fun s' hstep => ih (hinv s l s' hs hstep)⟩

theorem Along.imp_of_invariant {M : Machine state label} {J : state -> Prop}
    {good good' : state -> label -> Prop}
    (hinv : forall s l s', J s -> good s l -> M.step s l = some s' -> J s')
    (himp : forall s l, J s -> good s l -> good' s l) {s : state} (hs : J s)
    {ls : List label} (h : M.Along good s ls) : M.Along good' s ls := by
  induction ls generalizing s with
  | nil => trivial
  | cons l rest ih =>
      refine ⟨himp s l hs h.left, ?_⟩
      intro s' hstep
      exact ih (hinv s l s' hs h.left hstep) (h.right s' hstep)

/-- A condition on steps that says exactly which steps keep `I`, given an
invariant `J`, also says exactly which runs do. -/
theorem always_iff_along {M : Machine state label} {I J : state -> Prop}
    {good : state -> label -> Prop}
    (hinv : forall s l s', J s -> M.step s l = some s' -> J s')
    (hrefused : forall s l, I s -> J s -> M.step s l = none -> good s l)
    (hstep : forall s l s', I s -> J s -> M.step s l = some s' ->
      (good s l <-> I s'))
    {s : state} (hI : I s) (hJ : J s) (ls : List label) :
    M.Always I s ls <-> M.Along good s ls := by
  induction ls generalizing s with
  | nil => exact ⟨fun _ => trivial, fun _ => hI⟩
  | cons l rest ih =>
      cases hl : M.step s l with
      | none =>
          have hgood := hrefused s l hI hJ hl
          simp [Always, Along, hl, hI, hgood]
      | some s' =>
          have hJ' := hinv s l s' hJ hl
          have hiff := hstep s l s' hI hJ hl
          rw [along_cons_of_step rest hl, hiff]
          constructor
          · intro h
            have hrest := h.right s' hl
            have hI' : I s' := always_start hrest
            exact ⟨hI', (ih hI' hJ').mp hrest⟩
          · intro h
            refine ⟨hI, ?_⟩
            intro t ht
            rw [hl] at ht
            cases ht
            exact (ih h.left hJ').mpr h.right

/-- A step that misses `good` leads to a bad state, and a bad state stays bad:
then a run meets `good` all along or ends badly. -/
theorem along_or_bad {M : Machine state label} {good : state -> label -> Prop}
    {bad : state -> Prop} {ok : label -> Prop}
    (hmiss : forall s l s', ok l -> M.step s l = some s' -> ¬ good s l -> bad s')
    (hkeep : forall s l s', ok l -> bad s -> M.step s l = some s' -> bad s')
    {s t : state} {ls : List label} (hok : forall l, l ∈ ls -> ok l)
    (hrun : M.run s ls = some t) : M.Along good s ls ∨ bad t := by
  induction ls generalizing s with
  | nil => exact Or.inl trivial
  | cons l rest ih =>
      rcases run_cons_some hrun with ⟨s', hl, hrest⟩
      have hokl := hok l List.mem_cons_self
      have hokrest : forall l', l' ∈ rest -> ok l' := by
        intro l' hl'
        exact hok l' (List.mem_cons_of_mem l hl')
      by_cases hgood : good s l
      · rcases ih hokrest hrest with halong | hbad
        · refine Or.inl ⟨hgood, ?_⟩
          intro s'' hs''
          rw [hl] at hs''
          cases hs''
          exact halong
        · exact Or.inr hbad
      · have hbad := hmiss s l s' hokl hl hgood
        exact Or.inr (run_invariant_along
          (fun u l' u' hu hokl' hstep => hkeep u l' u' hokl' hu hstep) hbad
          (along_of_forall hokrest s') hrest)

end Machine
end Foundation
end QCore
