import Mathlib
import QCore.Foundation.Machine

/-!
# Packet accounts

A device that receives packets and either puts each one out or drops it for one
reason, with a counter for each reason.  The counters have 64 bits and wrap
around.  `OnePacket` says what a single packet may do to them, and that alone
makes the account of every run balance: modulo the width of the counters in any
case, and exactly while what is counted stays below it.
-/

namespace QCore
namespace Foundation

structure Account (reason : Type) where
  packets : UInt64
  octets : UInt64
  drops : reason -> UInt64
  outputs : Nat

namespace Account

variable {reason : Type}

def zero : Account reason where
  packets := 0
  octets := 0
  drops := fun _ => 0
  outputs := 0

/-- The account of a device that has received packets of these sizes. -/
structure Balanced (reasons : List reason) (sizes : List Nat)
    (a : Account reason) : Prop where
  packets : a.packets = UInt64.ofNat a.outputs + (reasons.map a.drops).sum
  octets : a.octets = UInt64.ofNat sizes.sum
  packets_exact : sizes.length < UInt64.size ->
    a.packets.toNat = sizes.length ∧
      a.packets.toNat =
        a.outputs + (reasons.map fun why => (a.drops why).toNat).sum
  octets_exact : sizes.sum < UInt64.size -> a.octets.toNat = sizes.sum

/-!
## The numbers behind the counters
-/

structure Shows (reasons : List reason) (sizes : List Nat)
    (n : reason -> Nat) (a : Account reason) : Prop where
  packets : a.packets = UInt64.ofNat sizes.length
  octets : a.octets = UInt64.ofNat sizes.sum
  drops : forall why, a.drops why = UInt64.ofNat (n why)
  fates : sizes.length = a.outputs + (reasons.map n).sum

theorem sum_ofNat (ns : List Nat) :
    (ns.map UInt64.ofNat).sum = UInt64.ofNat ns.sum := by
  induction ns with
  | nil => rfl
  | cons n rest ih =>
      rw [List.map_cons, List.sum_cons, ih, List.sum_cons, UInt64.ofNat_add]

theorem Shows.balanced {reasons : List reason} {sizes : List Nat}
    {n : reason -> Nat} {a : Account reason} (h : Shows reasons sizes n a) :
    Balanced reasons sizes a where
  packets := by
    have hdrops : reasons.map a.drops = (reasons.map n).map UInt64.ofNat := by
      rw [List.map_map]
      exact List.map_congr_left fun why _ => h.drops why
    rw [h.packets, h.fates, UInt64.ofNat_add, hdrops, sum_ofNat]
  octets := h.octets
  packets_exact := by
    intro hfew
    have hpackets : a.packets.toNat = sizes.length := by
      rw [h.packets, UInt64.toNat_ofNat_of_lt' hfew]
    have hdrops : (reasons.map fun why => (a.drops why).toNat) =
        reasons.map n := by
      apply List.map_congr_left
      intro why hwhy
      have hle := List.le_sum_of_mem (List.mem_map_of_mem (f := n) hwhy)
      have hlt : n why < UInt64.size := by
        have hfates := h.fates
        lia
      rw [h.drops why, UInt64.toNat_ofNat_of_lt' hlt]
    exact ⟨hpackets, by rw [hpackets, hdrops, h.fates]⟩
  octets_exact hfew := by
    rw [h.octets, UInt64.toNat_ofNat_of_lt' hfew]

theorem shows_zero (reasons : List reason) :
    Shows reasons [] (fun _ => 0) zero where
  packets := rfl
  octets := rfl
  drops _ := rfl
  fates := by simp [zero]

variable [DecidableEq reason]

/-- A packet of this size is put out and no counter of a drop moves, or it is not
and exactly one of them does. -/
structure OnePacket (size : Nat) (a a' : Account reason) : Prop where
  packets : a'.packets = a.packets + 1
  octets : a'.octets = a.octets + UInt64.ofNat size
  fate : (a'.outputs = a.outputs + 1 ∧ a'.drops = a.drops) ∨
    (a'.outputs = a.outputs ∧ exists why,
      a'.drops = Function.update a.drops why (a.drops why + 1))

theorem sum_update_of_not_mem {reasons : List reason} {why : reason}
    (h : why ∉ reasons) (n : reason -> Nat) (m : Nat) :
    (reasons.map (Function.update n why m)).sum = (reasons.map n).sum := by
  congr 1
  apply List.map_congr_left
  intro r hr
  apply Function.update_of_ne
  intro heq
  rw [heq] at hr
  exact h hr

theorem sum_update {reasons : List reason} {why : reason}
    (hnodup : reasons.Nodup) (hmem : why ∈ reasons) (n : reason -> Nat) :
    (reasons.map (Function.update n why (n why + 1))).sum =
      (reasons.map n).sum + 1 := by
  induction reasons with
  | nil => cases hmem
  | cons r rest ih =>
      rcases List.nodup_cons.mp hnodup with ⟨hr, hrest⟩
      rw [List.map_cons, List.sum_cons, List.map_cons, List.sum_cons]
      by_cases heq : r = why
      · rw [heq] at hr ⊢
        rw [sum_update_of_not_mem hr, Function.update_self]
        lia
      · rw [Function.update_of_ne heq]
        rcases List.mem_cons.mp hmem with hhead | htail
        · exact absurd hhead.symm heq
        · rw [ih hrest htail, Nat.add_assoc]

theorem shows_step {reasons : List reason} {sizes : List Nat} {size : Nat}
    {n : reason -> Nat} {a a' : Account reason} (hnodup : reasons.Nodup)
    (hall : forall why, why ∈ reasons) (h : Shows reasons sizes n a)
    (hstep : OnePacket size a a') :
    exists n', Shows reasons (sizes ++ [size]) n' a' := by
  have hpackets : a'.packets = UInt64.ofNat (sizes ++ [size]).length := by
    rw [hstep.packets, h.packets, List.length_append, UInt64.ofNat_add]
    rfl
  have hoctets : a'.octets = UInt64.ofNat (sizes ++ [size]).sum := by
    rw [hstep.octets, h.octets, List.sum_append, UInt64.ofNat_add]
    simp
  have hfates := h.fates
  rcases hstep.fate with ⟨hout, hdrops⟩ | ⟨hout, why, hdrops⟩
  · refine ⟨n, hpackets, hoctets, ?_, ?_⟩
    · rw [hdrops]
      exact h.drops
    · rw [hout, List.length_append, hfates, List.length_singleton]
      lia
  · refine ⟨Function.update n why (n why + 1), hpackets, hoctets, ?_, ?_⟩
    · intro r
      rw [hdrops]
      by_cases heq : r = why
      · rw [heq, Function.update_self, Function.update_self, h.drops why,
          UInt64.ofNat_add]
        rfl
      · rw [Function.update_of_ne heq, Function.update_of_ne heq]
        exact h.drops r
    · rw [hout, List.length_append, hfates, sum_update hnodup (hall why),
        List.length_singleton]
      lia

end Account

/-!
## Runs of a metered machine
-/

structure Meter (state label reason : Type) where
  machine : Machine state label
  size : label -> Nat
  account : state -> Account reason

namespace Meter

variable {state label reason : Type} [DecidableEq reason]

/-- Every run from an empty account ends with a balanced one, and each step of it
books one packet. -/
def Balances (M : Meter state label reason) (reasons : List reason) : Prop :=
  forall s t ls, M.account s = Account.zero -> M.machine.run s ls = some t ->
    Account.Balanced reasons (ls.map M.size) (M.account t) ∧
      M.machine.Along
        (fun s l => forall s', M.machine.step s l = some s' ->
          Account.OnePacket (M.size l) (M.account s) (M.account s')) s ls

theorem shows_run (M : Meter state label reason) {reasons : List reason}
    (hnodup : reasons.Nodup) (hall : forall why, why ∈ reasons)
    (hstep : forall s l s', M.machine.step s l = some s' ->
      Account.OnePacket (M.size l) (M.account s) (M.account s'))
    {s t : state} {ls : List label} {sizes : List Nat} {n : reason -> Nat}
    (h : Account.Shows reasons sizes n (M.account s))
    (hrun : M.machine.run s ls = some t) :
    exists n', Account.Shows reasons (sizes ++ ls.map M.size) n'
      (M.account t) := by
  induction ls generalizing s sizes n with
  | nil =>
      cases hrun
      rw [List.map_nil, List.append_nil]
      exact ⟨n, h⟩
  | cons l rest ih =>
      rcases Machine.run_cons_some hrun with ⟨s', hl, hrest⟩
      rcases Account.shows_step hnodup hall h (hstep s l s' hl) with ⟨n', h'⟩
      have hlater := ih h' hrest
      rw [List.append_assoc] at hlater
      exact hlater

theorem balances_of_step (M : Meter state label reason) {reasons : List reason}
    (hnodup : reasons.Nodup) (hall : forall why, why ∈ reasons)
    (hstep : forall s l s', M.machine.step s l = some s' ->
      Account.OnePacket (M.size l) (M.account s) (M.account s')) :
    M.Balances reasons := by
  intro s t ls hzero hrun
  have hstart : Account.Shows reasons [] (fun _ => 0) (M.account s) := by
    rw [hzero]
    exact Account.shows_zero reasons
  rcases M.shows_run hnodup hall hstep hstart hrun with ⟨n, hshows⟩
  refine ⟨hshows.balanced, ?_⟩
  exact Machine.along_of_invariant (J := fun _ => True)
    (fun _ _ _ _ _ => trivial) (fun s l _ s' hl => hstep s l s' hl) trivial ls

end Meter
end Foundation
end QCore
