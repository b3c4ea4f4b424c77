/-!
# Byte strings and lists of coded messages
-/

namespace QCore
namespace Foundation

abbrev Bytes : Type := List UInt8

structure NonEmpty (α : Type) where
  head : α
  tail : List α
deriving DecidableEq, Repr

def NonEmpty.toList {α : Type} (l : NonEmpty α) : List α :=
  l.head :: l.tail

/-- `u16::to_be_bytes` -/
def be16 (n : UInt16) : Bytes :=
  [(n >>> 8).toUInt8, n.toUInt8]

/-- `u32::to_be_bytes` -/
def be32 (n : UInt32) : Bytes :=
  [(n >>> 24).toUInt8, (n >>> 16).toUInt8, (n >>> 8).toUInt8, n.toUInt8]

@[simp] theorem be32_length (n : UInt32) : (be32 n).length = 4 := rfl

theorem be16_small {n : Nat} (h : n < 256) :
    be16 (UInt16.ofNat n) = [0, UInt8.ofNat n] := by
  have hhigh : (UInt16.ofNat n >>> 8).toUInt8 = 0 := by
    apply UInt8.toNat_inj.mp
    have hn : n % 65536 = n := Nat.mod_eq_of_lt (by lia)
    simp [hn, Nat.shiftRight_eq_div_pow]
    lia
  have hlow : (UInt16.ofNat n).toUInt8 = UInt8.ofNat n := by
    apply UInt8.toNat_inj.mp
    simp
  rw [be16, hhigh, hlow]

theorem toList_three {α : Type} (v : Vector α 3) :
    exists a b c, v.toList = [a, b, c] := by
  rcases v with ⟨⟨l⟩, hl⟩
  match l, hl with
  | [a, b, c], _ => exact ⟨a, b, c, rfl⟩

theorem toList_four {α : Type} (v : Vector α 4) :
    exists a b c d, v.toList = [a, b, c, d] := by
  rcases v with ⟨⟨l⟩, hl⟩
  match l, hl with
  | [a, b, c, d], _ => exact ⟨a, b, c, d, rfl⟩

end Foundation
end QCore
