import QCore.Foundation.Outcome

/-!
# Tables of a fixed number of slots

A table of `n` slots, each empty or holding a value.  Reading or writing a slot
beyond the table panics, as indexing a vector does.  `lookup` is the view used
in specifications: a slot beyond the table is empty.
-/

namespace QCore
namespace Foundation

structure SlotTable (α : Type) (n : Nat) where
  slots : Vector (Option α) n
deriving DecidableEq

namespace SlotTable

variable {α ε : Type} {n : Nat}

def empty (α : Type) (n : Nat) : SlotTable α n :=
  ⟨Vector.replicate n none⟩

def read (t : SlotTable α n) (i : Nat) : Outcome ε (Option α) :=
  if h : i < n then Outcome.ok t.slots[i] else Outcome.panic

def write (t : SlotTable α n) (i : Nat) (v : Option α) :
    Outcome ε (SlotTable α n) :=
  if h : i < n then Outcome.ok ⟨t.slots.set i v h⟩ else Outcome.panic

def set (t : SlotTable α n) (i : Nat) (v : Option α) : SlotTable α n :=
  if h : i < n then ⟨t.slots.set i v h⟩ else t

def lookup (t : SlotTable α n) (i : Nat) : Option α :=
  if h : i < n then t.slots[i] else none

@[simp] theorem lookup_empty (i : Nat) : (empty α n).lookup i = none := by
  unfold lookup empty
  by_cases h : i < n
  · simp [h]
  · simp [h]

theorem lt_of_lookup {t : SlotTable α n} {i : Nat} {v : α}
    (h : t.lookup i = some v) : i < n := by
  cases Nat.decLt i n with
  | isTrue hlt => exact hlt
  | isFalse hge =>
      rw [lookup, dif_neg hge] at h
      cases h

theorem read_of_lt (t : SlotTable α n) {i : Nat} (h : i < n) :
    (t.read i : Outcome ε (Option α)) = Outcome.ok (t.lookup i) := by
  simp [read, lookup, h]

theorem read_of_not_lt (t : SlotTable α n) {i : Nat} (h : ¬ i < n) :
    (t.read i : Outcome ε (Option α)) = Outcome.panic := by
  simp [read, h]

theorem write_of_lt (t : SlotTable α n) {i : Nat} (v : Option α)
    (h : i < n) :
    (t.write i v : Outcome ε (SlotTable α n)) = Outcome.ok (t.set i v) := by
  simp [write, set, h]

theorem lookup_set (t : SlotTable α n) {i : Nat} (v : Option α) (h : i < n)
    (j : Nat) : (t.set i v).lookup j = if j = i then v else t.lookup j := by
  unfold lookup set
  rw [dif_pos h]
  by_cases hj : j < n
  · rw [dif_pos hj, dif_pos hj, Vector.getElem_set]
    by_cases hij : i = j
    · simp [hij]
    · simp [hij, Ne.symm hij]
  · have hne : j ≠ i := by
      intro heq
      rw [heq] at hj
      exact hj h
    simp [hj, hne]

@[simp] theorem lookup_set_self (t : SlotTable α n) {i : Nat} (v : Option α)
    (h : i < n) : (t.set i v).lookup i = v := by
  simp [lookup_set t v h]

theorem lookup_set_ne (t : SlotTable α n) {i j : Nat} (v : Option α)
    (hne : j ≠ i) : (t.set i v).lookup j = t.lookup j := by
  by_cases h : i < n
  · simp [lookup_set t v h, hne]
  · simp [set, h]

/-!
## Tables that mirror a list of entries
-/

section Mirrors

variable {β : Type} {slot : β -> Nat} {value : β -> α} {t : SlotTable α n}
  {entries : List β}

/-- Each entry has its value in its slot, and nothing else is in the table. -/
def Mirrors (slot : β -> Nat) (value : β -> α) (t : SlotTable α n)
    (entries : List β) : Prop :=
  forall i v, t.lookup i = some v <->
    exists b, b ∈ entries ∧ slot b = i ∧ value b = v

theorem mirrors_empty : Mirrors slot value (empty α n) [] := by
  intro i v
  simp

theorem Mirrors.concat (h : Mirrors slot value t entries) {b : β}
    (hlt : slot b < n) (hfresh : slot b ∉ entries.map slot) :
    Mirrors slot value (t.set (slot b) (some (value b)))
      (entries ++ [b]) := by
  intro i v
  rw [lookup_set t _ hlt]
  by_cases hi : i = slot b
  · rw [if_pos hi]
    constructor
    · intro hv
      exact ⟨b, List.mem_append_right _ (List.mem_singleton_self b), hi.symm,
        Option.some.inj hv⟩
    · intro hex
      rcases hex with ⟨b', hmem, hslot, hv⟩
      rcases List.mem_append.mp hmem with hold | hnew
      · rw [← hi, ← hslot] at hfresh
        exact absurd (List.mem_map_of_mem hold) hfresh
      · rw [← List.mem_singleton.mp hnew, hv]
  · rw [if_neg hi, h i v]
    constructor
    · intro hex
      rcases hex with ⟨b', hmem, hrest⟩
      exact ⟨b', List.mem_append_left _ hmem, hrest⟩
    · intro hex
      rcases hex with ⟨b', hmem, hslot, hv⟩
      rcases List.mem_append.mp hmem with hold | hnew
      · exact ⟨b', hold, hslot, hv⟩
      · rw [List.mem_singleton.mp hnew] at hslot
        exact absurd hslot.symm hi

theorem Mirrors.filter (h : Mirrors slot value t entries) {i : Nat}
    (hlt : i < n) {keep : β -> Bool}
    (hkeep : forall b, b ∈ entries -> (keep b = true <-> slot b ≠ i)) :
    Mirrors slot value (t.set i none) (entries.filter keep) := by
  intro j v
  rw [lookup_set t _ hlt]
  simp only [List.mem_filter]
  by_cases hj : j = i
  · rw [if_pos hj]
    constructor
    · intro hv
      cases hv
    · intro hex
      rcases hex with ⟨b, ⟨hmem, hkept⟩, hslot, _⟩
      exact absurd (hslot.trans hj) ((hkeep b hmem).mp hkept)
  · rw [if_neg hj, h j v]
    constructor
    · intro hex
      rcases hex with ⟨b, hmem, hslot, hv⟩
      rw [← hslot] at hj
      exact ⟨b, ⟨hmem, (hkeep b hmem).mpr hj⟩, hslot, hv⟩
    · intro hex
      rcases hex with ⟨b, ⟨hmem, _⟩, hrest⟩
      exact ⟨b, hmem, hrest⟩

theorem Mirrors.congr (h : Mirrors slot value t entries) {entries' : List β}
    (hsame : entries'.map (fun b => (slot b, value b)) =
      entries.map fun b => (slot b, value b)) :
    Mirrors slot value t entries' := by
  intro i v
  have hpair : forall l : List β,
      (exists b, b ∈ l ∧ slot b = i ∧ value b = v) <->
        (i, v) ∈ l.map fun b => (slot b, value b) := by
    intro l
    simp
  rw [h i v, hpair, hpair, hsame]

end Mirrors

end SlotTable
end Foundation
end QCore
