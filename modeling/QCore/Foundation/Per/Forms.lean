import Mathlib.Algebra.Group.Nat.Defs
import Mathlib.Data.List.Basic
import QCore.Foundation.Per.Codec

/-!
# The forms of generated codecs

Each kind of ASN.1 type has one form of generated code: a call of the runtime,
with what is done to its result.
-/

namespace QCore
namespace Foundation
namespace Per

variable (R : Runtime) {α : Type}

/-!
## Integers
-/

/-- How the values of a machine type stand for numbers. -/
structure Width (α : Type) where
  val : α -> Nat
  -- The `as` conversion, which keeps the low bits.
  wrap : Int -> α
  wrap_val : forall a, wrap (val a) = a

def u8 : Width UInt8 where
  val := UInt8.toNat
  wrap i := UInt8.ofNat (i % 256).toNat
  wrap_val a := by
    have hlt : a.toNat < 256 := a.toNat_lt
    have hwrap : (((a.toNat : Int) % 256).toNat) = a.toNat := by
      lia
    rw [hwrap, UInt8.ofNat_toNat]

def u16 : Width UInt16 where
  val := UInt16.toNat
  wrap i := UInt16.ofNat (i % 65536).toNat
  wrap_val a := by
    have hlt : a.toNat < 65536 := a.toNat_lt
    have hwrap : (((a.toNat : Int) % 65536).toNat) = a.toNat := by
      lia
    rw [hwrap, UInt16.ofNat_toNat]

def u32 : Width UInt32 where
  val := UInt32.toNat
  wrap i := UInt32.ofNat (i % 4294967296).toNat
  wrap_val a := by
    have hlt : a.toNat < 4294967296 := a.toNat_lt
    have hwrap : (((a.toNat : Int) % 4294967296).toNat) = a.toNat := by
      lia
    rw [hwrap, UInt32.ofNat_toNat]

def integer (w : Width α) (lb ub : Nat) (extensible : Bool) :
    PerCodec R α where
  encode a := R.encodeInteger lb ub extensible (w.val a)
  decode := do
    let v <- R.decodeInteger lb ub extensible
    pure (w.wrap v.1)
  valid a := lb <= w.val a ∧ w.val a <= ub ∧ ub < 4294967296
  size _ := 64
  conveys hR a ha := by
    apply Conveys.map (hR.integer lb ub extensible (w.val a) ha.1 ha.2.1 ha.2.2)
    change pure (w.wrap (w.val a)) = _
    rw [w.wrap_val]
  safe _ hquiet :=
    (hquiet.integer lb ub extensible).bind fun v => safe_pure (w.wrap v.1)

/-!
## Strings
-/

def octetString : PerCodec R Bytes where
  encode := R.encodeOctetstring none
  decode := R.decodeOctetstring none
  valid bytes := bytes.length < 16384
  size bytes := 32 + 8 * bytes.length
  conveys hR := hR.octetstring
  safe _ hquiet := hquiet.octetstring none

def octetStringOf (n : Nat) : PerCodec R Bytes where
  encode := R.encodeOctetstring (some n)
  decode := R.decodeOctetstring (some n)
  valid bytes := bytes.length = n ∧ n < 65536
  size _ := 8 + 8 * n
  conveys hR bytes := by
    rintro ⟨rfl, hlt⟩
    exact hR.sizedOctetstring bytes hlt
  safe _ hquiet := hquiet.octetstring (some n)

/-- `try_into` a byte array of the size that was asked for, and `unwrap`. -/
def byteArrayOf (n : Nat) : PerCodec R (Vector UInt8 n) :=
  (octetStringOf R n).unwrapped Vector.toList
    (fun bytes => if h : bytes.length = n then some ⟨bytes.toArray, h⟩ else none)
    (fun v => by
      rw [dif_pos (by rw [Vector.length_toList])]
      rfl)
    fun hR s bytes t hrun => by
      have hlength : bytes.length = n :=
        hR.sizedOctetstring_length n s bytes t hrun
      simp only [hlength, dite_true, Option.isSome_some]

def bitStringOf (n : Nat) : PerCodec R Bits where
  encode := R.encodeBitstring n
  decode := R.decodeBitstring n
  valid bits := bits.length = n ∧ n < 65536
  size _ := 8 + n
  conveys hR bits := by
    rintro ⟨rfl, hlt⟩
    exact hR.bitstring bits hlt
  safe _ hquiet := hquiet.bitstring n

/-!
## Enumerations and choices
-/

/-- `try_from(idx as u8)`, by the table of the variants. -/
def variantAt (variants : List α) (idx : Int) : Decode α :=
  match variants[(idx % 256).toNat]? with
  | some a => pure a
  | none => refuse "Unknown enum variant"

theorem variantAt_idxOf [DecidableEq α] {variants : List α} {a : α}
    (hmem : a ∈ variants) (hfew : variants.length <= 256) :
    variantAt variants (variants.idxOf a : Nat) = pure a := by
  have hlt := List.idxOf_lt_length_iff.mpr hmem
  have hwrap : (((variants.idxOf a : Nat) : Int) % 256).toNat =
      variants.idxOf a := by
    lia
  unfold variantAt
  rw [hwrap, List.getElem?_idxOf hmem]

theorem safe_variantAt (variants : List α) (idx : Int) :
    Safe (variantAt variants idx) := by
  unfold variantAt
  split
  · exact safe_pure _
  · exact safe_refuse _

def enumerated [DecidableEq α] (variants : List α)
    (h : forall a, a ∈ variants) (extensible : Bool) : PerCodec R α where
  encode a := R.encodeEnumerated (variants.length - 1) extensible
    (variants.idxOf a)
  decode := do
    let idx <- R.decodeEnumerated (variants.length - 1) extensible
    if idx.2 then
      refuse "Extended enum not implemented"
    else
      variantAt variants idx.1
  valid _ := variants.length <= 256
  size _ := 16
  conveys hR a hfew := by
    have hlt := List.idxOf_lt_length_iff.mpr (h a)
    apply Conveys.map (hR.enumerated _ extensible (variants.idxOf a) (by lia)
      (by lia))
    exact variantAt_idxOf (h a) hfew
  safe _ hquiet := by
    apply (hquiet.enumerated _ extensible).bind
    intro idx
    split
    · exact safe_refuse _
    · exact safe_variantAt variants idx.1

def choice (ub : Nat) (idx : α -> Nat) (body : Int -> PerCodec R α) :
    PerCodec R α where
  encode a := do
    R.encodeChoiceIdx ub (idx a)
    (body (idx a)).encode a
  decode := do
    let i <- R.decodeChoiceIdx ub
    if i.2 then
      refuse "CHOICE additions not implemented"
    else
      (body i.1).decode
  valid a := idx a <= ub ∧ ub < 256 ∧ (body (idx a)).valid a
  size a := 16 + (body (idx a)).size a
  conveys hR a ha := by
    apply Conveys.bind (hR.choiceIdx ub (idx a) ha.1 ha.2.1)
    exact (body (idx a)).conveys hR a ha.2.2
  safe hR hquiet := by
    apply (hquiet.choiceIdx ub).bind
    intro i
    split
    · exact safe_refuse _
    · exact (body i.1).safe hR hquiet

def unknownChoice : PerCodec R α :=
  PerCodec.readOnly (refuse "Unknown choice idx") fun _ _ => safe_refuse _

/-!
## Lists
-/

def sequenceOf (lb ub : Nat) (c : PerCodec R α) : PerCodec R (List α) where
  encode as := do
    R.encodeLengthDeterminent (some (lb, ub)) as.length
    encodeEach c.encode as
  decode := do
    let n <- R.decodeLengthDeterminent (some (lb, ub))
    decodeTimes c.decode n
  valid as := lb <= as.length ∧ as.length <= ub ∧ ub < 65536 ∧
    forall a, a ∈ as -> c.valid a
  size as := 48 + (as.map c.size).sum
  conveys hR as has := by
    have heach := conveys_each id c.size fun a ha =>
      c.conveys hR a (has.2.2.2 a ha)
    rw [List.map_id] at heach
    exact Conveys.bind
      (hR.boundedLength lb ub as.length has.1 has.2.1 has.2.2.1) heach
  safe hR hquiet := by
    apply (hquiet.length (some (lb, ub))).bind
    intro n
    exact (c.safe hR hquiet).times n

/-- `NonEmpty::from_vec` -/
def fromVec : List α -> Option (NonEmpty α)
  | [] => none
  | a :: as => some ⟨a, as⟩

variable {R}

theorem sequenceOf_nonempty {ub : Nat} (hub : ub < 65536) (hR : R.Lawful)
    (c : PerCodec R α) :
    Yields (sequenceOf R 1 ub c).decode fun as => (fromVec as).isSome = true := by
  refine (hR.boundedLength_ge 1 ub hub).bind fun n hn s as t hrun => ?_
  have hlength := yields_decodeTimes c.decode n s as t hrun
  cases as with
  | nil =>
      rw [← hlength] at hn
      cases hn
  | cons a as => rfl

variable (R)

/-- `from_vec(..).unwrap()`, for a list that is read with a lower bound. -/
def nonEmptyOf (ub : Nat) (hub : ub < 65536) (c : PerCodec R α) :
    PerCodec R (NonEmpty α) :=
  (sequenceOf R 1 ub c).unwrapped NonEmpty.toList fromVec (fun _ => rfl)
    fun hR => sequenceOf_nonempty hub hR c

end Per
end Foundation
end QCore
