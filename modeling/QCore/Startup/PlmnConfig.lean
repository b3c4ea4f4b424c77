import QCore.Foundation.Outcome
import QCore.Foundation.PlmnCoding

/-!
# The PLMN at start-up

`convert_mcc_mnc` makes the PLMN bytes and the serving network name from two
command line arguments.  A string is the list of its characters; its length is
counted in bytes, and its digits are found by character.

The digits of an MNC are put into the bytes in the order in which they are
written.  The standard coding has the third digit before the other two.
-/

namespace QCore
namespace Startup

open Foundation

/-- `str::len` -/
def len : List Char -> Nat
  | [] => 0
  | c :: rest => c.utf8Size + len rest

/-- `c.to_digit(10)` -/
def toDigit (c : Char) : Option UInt32 :=
  if '0' <= c ∧ c <= '9' then some (c.val - '0'.val) else none

/-- `.chars().map(|c| c.to_digit(10)).collect::<Option<Vec<_>>>()` -/
def toDigits : List Char -> Option (List UInt32)
  | [] => some []
  | c :: rest =>
      match toDigit c, toDigits rest with
      | some d, some ds => some (d :: ds)
      | _, _ => none

/-- `((digits[ii * 2 + 1] << 4) | (digits[ii * 2])) as u8` -/
def plmnByte (digits : List UInt32) (ii : Nat) : Outcome String UInt8 :=
  match digits[ii * 2 + 1]?, digits[ii * 2]? with
  | some high, some low => Outcome.ok ((high <<< 4) ||| low).toUInt8
  | _, _ => Outcome.panic

/-- The loop `for ii in 0..3`. -/
def plmnFromDigits (digits : List UInt32) :
    Outcome String (Vector UInt8 3) :=
  [0, 1, 2].foldlM (fun plmn ii => do
    let byte <- plmnByte digits ii
    Outcome.ok (plmn.setIfInBounds ii byte)) (Vector.replicate 3 0)

/-- The format `{:0>3}`. -/
def padded (text : List Char) : List Char :=
  List.replicate (3 - text.length) '0' ++ text

/-- `5G:mnc`, the MNC, `.mcc`, the MCC and `.3gppnetwork.org`. -/
def networkNameFormat (mnc mcc : List Char) : List Char :=
  ['5', 'G', ':', 'm', 'n', 'c'] ++ mnc ++ ['.', 'm', 'c', 'c'] ++ mcc ++
    ['.', '3', 'g', 'p', 'p', 'n', 'e', 't', 'w', 'o', 'r', 'k', '.', 'o',
      'r', 'g']

def convertMccMnc (mcc mnc : List Char) :
    Outcome String (Vector UInt8 3 × List Char) := do
  Outcome.ensure (len mcc = 3) "MCC must be three digits"
  Outcome.ensure (len mnc = 2 ∨ len mnc = 3) "MNC must be two or three digits"
  let mccDigits <- Outcome.ofOption "MCC contained a non digit" (toDigits mcc)
  let filler := if len mnc = 2 then [0x0f] else []
  let mncDigits <- Outcome.ofOption "MNC contained a non digit" (toDigits mnc)
  let plmn <- plmnFromDigits (mccDigits ++ filler ++ mncDigits)
  Outcome.ok (plmn, networkNameFormat (padded mnc) mcc)

/-!
## Digits
-/

def digitChar (d : Digit) : Char :=
  Char.ofNat (48 + d.val)

def digitValue (d : Digit) : UInt32 :=
  UInt32.ofNat d.val

theorem toDigit_digitChar (d : Digit) :
    toDigit (digitChar d) = some (digitValue d) := by
  revert d
  decide

theorem utf8Size_digitChar (d : Digit) : (digitChar d).utf8Size = 1 := by
  revert d
  decide

theorem exists_digitChar {c : Char} {n : UInt32} (h : toDigit c = some n) :
    exists d, c = digitChar d := by
  unfold toDigit at h
  by_cases hc : '0' <= c ∧ c <= '9'
  · have hlow : 48 <= c.toNat := hc.left
    have hhigh : c.toNat <= 57 := hc.right
    refine ⟨⟨c.toNat - 48, by lia⟩, ?_⟩
    unfold digitChar
    rw [show 48 + (c.toNat - 48) = c.toNat by lia, Char.ofNat_toNat]
  · rw [if_neg hc] at h
    cases h

theorem toDigits_digitChars (ds : List Digit) :
    toDigits (ds.map digitChar) = some (ds.map digitValue) := by
  induction ds with
  | nil => rfl
  | cons d ds ih => simp [toDigits, toDigit_digitChar, ih]

theorem len_digitChars (ds : List Digit) :
    len (ds.map digitChar) = ds.length := by
  induction ds with
  | nil => rfl
  | cons d ds ih =>
      rw [List.map_cons, len, utf8Size_digitChar, ih, List.length_cons,
        Nat.add_comm]

theorem exists_digitChars {text : List Char} {ns : List UInt32}
    (h : toDigits text = some ns) :
    exists ds : List Digit, text = ds.map digitChar := by
  induction text generalizing ns with
  | nil => exact ⟨[], rfl⟩
  | cons c rest ih =>
      unfold toDigits at h
      cases hc : toDigit c with
      | none => simp [hc] at h
      | some n =>
          cases hrest : toDigits rest with
          | none => simp [hrest] at h
          | some ms =>
              rcases exists_digitChar hc with ⟨d, hd⟩
              rcases ih hrest with ⟨ds, hds⟩
              exact ⟨d :: ds, by rw [List.map_cons, hd, hds]⟩

/-!
## PLMNs as arguments
-/

structure Spells (mcc mnc : List Char) (plmn : Plmn) : Prop where
  mcc_eq : mcc = plmn.mcc.map digitChar
  mnc_eq : mnc = plmn.mnc.digits.map digitChar

def threeDigits : Mnc -> List Char
  | Mnc.two d1 d2 => ['0', digitChar d1, digitChar d2]
  | Mnc.three d1 d2 d3 => [digitChar d1, digitChar d2, digitChar d3]

/-- TS 24.501, 9.12.1. -/
def servingNetworkName (plmn : Plmn) : List Char :=
  networkNameFormat (threeDigits plmn.mnc) (plmn.mcc.map digitChar)

/-- The MNC whose standard coding the code produces. -/
def codedMnc : Mnc -> Mnc
  | Mnc.two d1 d2 => Mnc.two d1 d2
  | Mnc.three d1 d2 d3 => Mnc.three d2 d3 d1

theorem toUInt8_halves {high low : Nat} (hhigh : high < 16) (hlow : low < 16) :
    ((UInt32.ofNat high <<< 4) ||| UInt32.ofNat low).toUInt8 =
      octet high low := by
  have hor : high <<< 4 ||| low = 16 * high + low := by
    rw [← Nat.shiftLeft_add_eq_or_of_lt hlow, Nat.shiftLeft_eq]
    lia
  have hsmall : high <<< 4 < 4294967296 := by
    rw [Nat.shiftLeft_eq]
    lia
  apply UInt8.toNat_inj.mp
  rw [toNat_octet hhigh hlow, UInt32.toNat_toUInt8, UInt32.toNat_or,
    UInt32.toNat_shiftLeft, UInt32.toNat_ofNat_of_lt' (by lia),
    UInt32.toNat_ofNat_of_lt' (by lia)]
  show (high <<< 4 % 4294967296 ||| low) % 256 = 16 * high + low
  rw [Nat.mod_eq_of_lt hsmall, hor]
  exact Nat.mod_eq_of_lt (by lia)

theorem padded_digits (mnc : Mnc) :
    padded (mnc.digits.map digitChar) = threeDigits mnc := by
  cases mnc with
  | two d1 d2 => rfl
  | three d1 d2 d3 => rfl

theorem plmnFromDigits_six {a b c d e f : Nat} (ha : a < 16) (hb : b < 16)
    (hc : c < 16) (hd : d < 16) (he : e < 16) (hf : f < 16) :
    plmnFromDigits ([a, b, c, d, e, f].map UInt32.ofNat) =
      Outcome.ok #v[octet b a, octet d c, octet f e] := by
  rw [← toUInt8_halves hb ha, ← toUInt8_halves hd hc, ← toUInt8_halves hf he]
  rfl

theorem convertMccMnc_spells {mcc mnc : List Char} {plmn : Plmn}
    (h : Spells mcc mnc plmn) :
    convertMccMnc mcc mnc =
      Outcome.ok ({ plmn with mnc := codedMnc plmn.mnc }.code,
        servingNetworkName plmn) := by
  rw [h.mcc_eq, h.mnc_eq, servingNetworkName, ← padded_digits]
  unfold convertMccMnc
  simp only [len_digitChars, toDigits_digitChars, Outcome.ofOption,
    Outcome.ok_bind]
  rcases plmn with ⟨mcc1, mcc2, mcc3, mnc'⟩
  cases mnc' with
  | two d1 d2 =>
      have hsix := plmnFromDigits_six (a := mcc1) (b := mcc2) (c := mcc3)
        (d := 15) (e := d1) (f := d2) (by lia) (by lia) (by lia) (by lia)
        (by lia) (by lia)
      exact congrArg (fun plmn => plmn >>= fun plmn => Outcome.ok (plmn, _)) hsix
  | three d1 d2 d3 =>
      have hsix := plmnFromDigits_six (a := mcc1) (b := mcc2) (c := mcc3)
        (d := d1) (e := d2) (f := d3) (by lia) (by lia) (by lia) (by lia)
        (by lia) (by lia)
      exact congrArg (fun plmn => plmn >>= fun plmn => Outcome.ok (plmn, _)) hsix

/-!
## Every pair of strings
-/

theorem exists_spells {mcc mnc : List Char} {ns ms : List UInt32}
    (hmcc : len mcc = 3) (hmnc : len mnc = 2 ∨ len mnc = 3)
    (hmccDigits : toDigits mcc = some ns) (hmncDigits : toDigits mnc = some ms) :
    exists plmn, Spells mcc mnc plmn := by
  rcases exists_digitChars hmccDigits with ⟨ds, hds⟩
  rcases exists_digitChars hmncDigits with ⟨es, hes⟩
  rw [hds, len_digitChars] at hmcc
  rw [hes, len_digitChars] at hmnc
  match ds, hmcc with
  | [mcc1, mcc2, mcc3], _ =>
      match es, hmnc with
      | [d1, d2], _ => exact ⟨⟨mcc1, mcc2, mcc3, Mnc.two d1 d2⟩, hds, hes⟩
      | [d1, d2, d3], _ =>
          exact ⟨⟨mcc1, mcc2, mcc3, Mnc.three d1 d2 d3⟩, hds, hes⟩

theorem convertMccMnc_refuses {mcc mnc : List Char}
    (h : ¬ exists plmn, Spells mcc mnc plmn) :
    exists message, convertMccMnc mcc mnc = Outcome.err message := by
  unfold convertMccMnc Outcome.ensure
  by_cases hmcc : len mcc = 3
  · rw [if_pos hmcc, Outcome.ok_bind]
    by_cases hmnc : len mnc = 2 ∨ len mnc = 3
    · rw [if_pos hmnc, Outcome.ok_bind]
      cases hmccDigits : toDigits mcc with
      | none => exact ⟨_, rfl⟩
      | some ns =>
          cases hmncDigits : toDigits mnc with
          | none => exact ⟨_, rfl⟩
          | some ms =>
              exact absurd (exists_spells hmcc hmnc hmccDigits hmncDigits) h
    · rw [if_neg hmnc]
      exact ⟨_, rfl⟩
  · rw [if_neg hmcc]
    exact ⟨_, rfl⟩

theorem octet_inj {high low high' low' : Nat} (hhigh : high < 16)
    (hlow : low < 16) (hhigh' : high' < 16) (hlow' : low' < 16)
    (h : octet high low = octet high' low') : high = high' ∧ low = low' := by
  have hnat := congrArg UInt8.toNat h
  rw [toNat_octet hhigh hlow, toNat_octet hhigh' hlow'] at hnat
  lia

theorem code_codedMnc_iff (plmn : Plmn) :
    { plmn with mnc := codedMnc plmn.mnc }.code = plmn.code <->
      plmn.mnc.Uniform := by
  rcases plmn with ⟨mcc1, mcc2, mcc3, mnc⟩
  cases mnc with
  | two d1 d2 => exact iff_of_true rfl trivial
  | three d1 d2 d3 =>
      constructor
      · intro h
        have hthird : octet d3 d2 = octet d2 d1 :=
          congrArg (fun code : Vector UInt8 3 => code[2]) h
        have hdigits := octet_inj (by lia) (by lia) (by lia) (by lia) hthird
        exact ⟨Fin.ext hdigits.right.symm, Fin.ext hdigits.left.symm⟩
      · intro h
        rcases h with ⟨h12, h23⟩
        rw [h12, h23]
        rfl

/-- What the conversion is for: it takes the digits of a PLMN and nothing else,
and returns the standard coding and the name of the network. -/
structure Conforms (mcc mnc : List Char) : Prop where
  accepted : forall plmn, Spells mcc mnc plmn ->
    convertMccMnc mcc mnc =
      Outcome.ok (plmn.code, servingNetworkName plmn)
  refused : (¬ exists plmn, Spells mcc mnc plmn) ->
    exists message, convertMccMnc mcc mnc = Outcome.err message

/-- For every pair of strings: the conversion is right exactly when they are not
the digits of a PLMN, or its MNC has two digits, or three equal ones. -/
theorem conforms_iff (mcc mnc : List Char) :
    Conforms mcc mnc <->
      forall plmn, Spells mcc mnc plmn -> plmn.mnc.Uniform := by
  constructor
  · intro h plmn hspells
    have haccepted := h.accepted plmn hspells
    rw [convertMccMnc_spells hspells] at haccepted
    exact (code_codedMnc_iff plmn).mp
      (congrArg Prod.fst (Outcome.ok.inj haccepted))
  · intro h
    refine ⟨?_, convertMccMnc_refuses⟩
    intro plmn hspells
    rw [convertMccMnc_spells hspells,
      (code_codedMnc_iff plmn).mpr (h plmn hspells)]

/-- MCC 310 and MNC 410. -/
theorem not_conforms_threeDigits :
    ¬ Conforms ['3', '1', '0'] ['4', '1', '0'] ∧
      convertMccMnc ['3', '1', '0'] ['4', '1', '0'] =
        Outcome.ok (#v[0x13, 0x40, 0x01],
          networkNameFormat ['4', '1', '0'] ['3', '1', '0']) ∧
      exists plmn, Spells ['3', '1', '0'] ['4', '1', '0'] plmn ∧
        plmn.code = #v[0x13, 0x00, 0x14] := by
  have hspells : Spells ['3', '1', '0'] ['4', '1', '0']
      ⟨3, 1, 0, Mnc.three 4 1 0⟩ := ⟨by decide, by decide⟩
  have hconvert := convertMccMnc_spells hspells
  refine ⟨?_, hconvert, _, hspells, rfl⟩
  intro h
  have hright := h.accepted _ hspells
  rw [hconvert] at hright
  have hcode := congrArg Prod.fst (Outcome.ok.inj hright)
  revert hcode
  decide

end Startup
end QCore
