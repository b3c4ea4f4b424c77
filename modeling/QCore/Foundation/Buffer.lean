import QCore.Foundation.Bytes
import QCore.Foundation.Outcome

/-!
# Byte buffers of a fixed size

Indexing a buffer or taking a slice of it panics out of bounds, as it does for
an array.  `byte` is the view used in specifications: a byte beyond the buffer
is zero.
-/

namespace QCore
namespace Foundation

structure Buffer (n : Nat) where
  bytes : Bytes
  size : bytes.length = n
deriving DecidableEq

namespace Buffer

variable {ε : Type} {n : Nat}

def filled (n : Nat) (x : UInt8) : Buffer n where
  bytes := List.replicate n x
  size := List.length_replicate

/-- `buf[i]` -/
def read (b : Buffer n) (i : Nat) : Outcome ε UInt8 :=
  match b.bytes[i]? with
  | some x => Outcome.ok x
  | none => Outcome.panic

def set (b : Buffer n) (i : Nat) (x : UInt8) : Buffer n where
  bytes := b.bytes.set i x
  size := List.length_set.trans b.size

/-- `buf[i] = x` -/
def write (b : Buffer n) (i : Nat) (x : UInt8) : Outcome ε (Buffer n) :=
  if i < n then Outcome.ok (b.set i x) else Outcome.panic

/-- `buf[i] = ..; buf[i + 1] = ..;` and so on, for all of `xs`. -/
def store (b : Buffer n) (i : Nat) : Bytes -> Outcome ε (Buffer n)
  | [] => Outcome.ok b
  | x :: xs => do
      let b' <- b.write i x
      store b' (i + 1) xs

/-- `&buf[start..stop]` -/
def slice (b : Buffer n) (start stop : Nat) : Outcome ε Bytes :=
  if start <= stop ∧ stop <= n then
    Outcome.ok ((b.bytes.take stop).drop start)
  else
    Outcome.panic

def byte (b : Buffer n) (i : Nat) : UInt8 :=
  b.bytes.getD i 0

theorem getElem?_of_lt (b : Buffer n) {i : Nat} (h : i < n) :
    b.bytes[i]? = some (b.byte i) := by
  have hi : i < b.bytes.length := by
    rw [b.size]
    exact h
  simp [byte, hi]

theorem read_of_lt (b : Buffer n) {i : Nat} (h : i < n) :
    (b.read i : Outcome ε UInt8) = Outcome.ok (b.byte i) := by
  unfold read
  rw [b.getElem?_of_lt h]

theorem slice_of_le (b : Buffer n) {start stop : Nat} (hstart : start <= stop)
    (hstop : stop <= n) :
    (b.slice start stop : Outcome ε Bytes) =
      Outcome.ok ((b.bytes.take stop).drop start) :=
  if_pos ⟨hstart, hstop⟩

theorem byte_congr {b b' : Buffer n} {m i : Nat}
    (h : b.bytes.take m = b'.bytes.take m) (hi : i < m) :
    b.byte i = b'.byte i := by
  unfold byte
  rw [List.getD_eq_getElem?_getD, List.getD_eq_getElem?_getD,
    ← List.getElem?_take_of_lt hi, h, List.getElem?_take_of_lt hi]

theorem slice_congr {b b' : Buffer n} {start stop m : Nat}
    (h : b.bytes.take m = b'.bytes.take m) (hstop : stop <= m) :
    (b.slice start stop : Outcome ε Bytes) = b'.slice start stop := by
  have htake : b.bytes.take stop = b'.bytes.take stop := by
    rw [← Nat.min_eq_left hstop, ← List.take_take, h, List.take_take]
  unfold slice
  rw [htake]

theorem write_of_lt (b : Buffer n) {i : Nat} (x : UInt8) (h : i < n) :
    (b.write i x : Outcome ε (Buffer n)) = Outcome.ok (b.set i x) :=
  if_pos h

theorem take_set_succ {xs : Bytes} {i : Nat} (x : UInt8)
    (h : i < xs.length) : (xs.set i x).take (i + 1) = xs.take i ++ [x] := by
  have hlength : (xs.take i).length = i :=
    List.length_take_of_le (Nat.le_of_lt h)
  rw [List.set_eq_take_append_cons_drop, if_pos h,
    List.take_append, hlength, Nat.add_sub_cancel_left,
    List.take_of_length_le (by lia)]
  rfl

theorem store_of_fits (b : Buffer n) {i : Nat} {xs : Bytes}
    (h : i + xs.length <= n) :
    exists b' : Buffer n, (b.store i xs : Outcome ε (Buffer n)) =
        Outcome.ok b' ∧
      b'.bytes = b.bytes.take i ++ xs ++ b.bytes.drop (i + xs.length) := by
  induction xs generalizing b i with
  | nil =>
      refine ⟨b, rfl, ?_⟩
      rw [List.append_nil, List.length_nil, Nat.add_zero,
        List.take_append_drop]
  | cons x xs ih =>
      rw [List.length_cons] at h
      have hi : i < b.bytes.length := by
        rw [b.size]
        lia
      rcases ih (b := b.set i x) (i := i + 1) (by lia) with ⟨b', hstore, hb'⟩
      refine ⟨b', ?_, ?_⟩
      · rw [store, write_of_lt b x (by lia)]
        exact hstore
      · rw [hb', List.length_cons]
        show (b.bytes.set i x).take (i + 1) ++ xs ++
          (b.bytes.set i x).drop (i + 1 + xs.length) = _
        rw [take_set_succ x hi, List.drop_set_of_lt (by lia),
          List.append_assoc, List.append_assoc, List.append_assoc,
          Nat.add_assoc, Nat.add_comm 1]
        rfl

end Buffer
end Foundation
end QCore
