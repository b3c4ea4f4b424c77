import QCore.Foundation.Bytes

/-!
# Coding of PLMNs and subscriber numbers

The coding of decimal digits in half bytes that the signalling protocols share:
a PLMN takes three bytes (TS 24.008, 10.5.1.13), and other digits take a half
byte each, with a filler after an odd number of them.
-/

namespace QCore
namespace Foundation

abbrev Digit : Type := Fin 10

inductive Mnc where
  | two (d1 d2 : Digit)
  | three (d1 d2 d3 : Digit)
deriving DecidableEq, Repr

structure Plmn where
  mcc1 : Digit
  mcc2 : Digit
  mcc3 : Digit
  mnc : Mnc
deriving DecidableEq, Repr

def octet (high low : Nat) : UInt8 :=
  UInt8.ofNat (16 * high + low)

namespace Mnc

def digits : Mnc -> List Digit
  | two d1 d2 => [d1, d2]
  | three d1 d2 d3 => [d1, d2, d3]

/-- The order of the digits does not matter for the place of the third one. -/
def Uniform : Mnc -> Prop
  | two _ _ => True
  | three d1 d2 d3 => d1 = d2 ∧ d2 = d3

end Mnc

namespace Plmn

def mcc (plmn : Plmn) : List Digit :=
  [plmn.mcc1, plmn.mcc2, plmn.mcc3]

def code (plmn : Plmn) : Vector UInt8 3 :=
  match plmn.mnc with
  | Mnc.two d1 d2 =>
      #v[octet plmn.mcc2 plmn.mcc1, octet 15 plmn.mcc3, octet d2 d1]
  | Mnc.three d1 d2 d3 =>
      #v[octet plmn.mcc2 plmn.mcc1, octet d3 plmn.mcc3, octet d2 d1]

end Plmn

/-- Digits two to a byte, the first one in the low half, and a filler in the
last high half if there is no digit for it. -/
def bcd : List Digit -> Bytes
  | [] => []
  | [d] => [octet 15 d]
  | d :: e :: rest => octet e d :: bcd rest

theorem toNat_octet {high low : Nat} (hhigh : high < 16) (hlow : low < 16) :
    (octet high low).toNat = 16 * high + low := by
  unfold octet
  rw [UInt8.toNat_ofNat']
  exact Nat.mod_eq_of_lt (by lia)

end Foundation
end QCore
