/-!
# Receiving a numbered stream in order

A sender numbers what it sends and puts only the low part of the number, the
sequence number, on the wire.  A receiver keeps a count of its own and rebuilds
the whole number.  Two receivers are given: the one of PDCP, which compares with
a window around the count it expects, and the one of NAS, which counts how often
the sequence number has started over.
-/

namespace QCore
namespace Foundation

/-!
## Receivers
-/

section

variable {ρ α β γ : Type}

/-- Receive everything in order; `none` as soon as something is not accepted. -/
def receiveAll (receive : ρ -> γ -> Option (β × ρ)) :
    ρ -> List γ -> Option (List β)
  | _, [] => some []
  | r, bytes :: rest =>
      match receive r bytes with
      | none => none
      | some (b, r') => (receiveAll receive r' rest).map (b :: ·)

/-- A receiver in step with the sender accepts the next item from the wire; then
it accepts every list of items in line. -/
theorem receiveAll_numbered {receive : ρ -> γ -> Option (β × ρ)}
    {wire : α -> γ} {R : Nat -> ρ -> Prop} {item : Nat -> α -> Prop}
    {result : Nat -> α -> β -> Prop}
    (hnext : forall k r a, R k r -> item k a ->
      exists b r', receive r (wire a) = some (b, r') ∧ result k a b ∧ R (k + 1) r')
    {k : Nat} {r : ρ} (hr : R k r) {items : List α}
    (hitems : forall i a, items[i]? = some a -> item (k + i) a) :
    exists received, receiveAll receive r (items.map wire) = some received ∧
      received.length = items.length ∧
      forall (i : Nat) a b, items[i]? = some a -> received[i]? = some b ->
        result (k + i) a b := by
  induction items generalizing k r with
  | nil =>
      refine ⟨[], rfl, rfl, ?_⟩
      intro i a b ha
      cases ha
  | cons a rest ih =>
      rcases hnext k r a hr (hitems 0 a rfl) with ⟨b, r', hb, hresult, hr'⟩
      have hrest : forall i x, rest[i]? = some x -> item (k + 1 + i) x := by
        intro i x hx
        rw [Nat.add_right_comm]
        exact hitems (i + 1) x hx
      rcases ih hr' hrest with ⟨received, hreceived, hlen, hresults⟩
      refine ⟨b :: received, ?_, congrArg (· + 1) hlen, ?_⟩
      · simp [receiveAll, hb, hreceived]
      · intro i x y hx hy
        cases i with
        | zero =>
            cases hx
            cases hy
            exact hresult
        | succ j =>
            have hlater := hresults j x y hx hy
            rw [Nat.add_right_comm] at hlater
            exact hlater

end

/-!
## Counts
-/

/-- The count that PDCP associates with a sequence number (TS 38.323, 5.2.2.1):
`rxDeliv` is the first count not delivered, and there are `2 * window` sequence
numbers. -/
def rcvdCount (window rxDeliv sn : Nat) : Nat :=
  let hfn := rxDeliv / (2 * window)
  let snDeliv := rxDeliv % (2 * window)
  if sn + window < snDeliv then
    (hfn + 1) * (2 * window) + sn
  else if snDeliv + window <= sn then
    (hfn - 1) * (2 * window) + sn
  else
    hfn * (2 * window) + sn

theorem rcvdCount_inOrder {window : Nat} (hwindow : 0 < window) (k : Nat) :
    rcvdCount window k (k % (2 * window)) = k := by
  unfold rcvdCount
  rw [if_neg (by lia), if_neg (by lia), Nat.mul_comm]
  exact Nat.div_add_mod k (2 * window)

/-- The count that NAS estimates for a sequence number (TS 24.501, 4.4.3.1): the
overflow counter moves on when the sequence number starts over. -/
def estimatedCount (size stored sn : Nat) : Nat :=
  if sn < stored % size then
    (stored / size + 1) * size + sn
  else
    stored / size * size + sn

theorem estimatedCount_first (size : Nat) : estimatedCount size 0 0 = 0 := by
  simp [estimatedCount]

theorem estimatedCount_next {size : Nat} (hsize : 1 < size) (k : Nat) :
    estimatedCount size k ((k + 1) % size) = k + 1 := by
  have hdiv := Nat.div_add_mod k size
  have hlt := Nat.mod_lt k (Nat.lt_trans Nat.zero_lt_one hsize)
  unfold estimatedCount
  rw [Nat.mul_comm size] at hdiv
  by_cases hlast : k % size + 1 = size
  · -- the sequence number starts over
    have hzero : (k + 1) % size = 0 := by
      rw [← Nat.mod_add_mod, hlast, Nat.mod_self]
    rw [hzero, if_pos (by lia), Nat.add_mul]
    lia
  · have hnext : (k + 1) % size = k % size + 1 := by
      rw [← Nat.mod_add_mod]
      exact Nat.mod_eq_of_lt (by lia)
    rw [hnext, if_neg (by lia)]
    lia

end Foundation
end QCore
