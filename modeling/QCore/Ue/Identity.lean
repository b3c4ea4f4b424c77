import QCore.Foundation.DigitTexts
import QCore.Foundation.PlmnCoding
import QCore.Ue.Context

/-!
# Mobile identities

The IMSI that the parser makes of a mobile identity.  It is the one of the
subscriber for some codings only: the third digit of an MNC is put before the
other two, and the filler of an odd MSIN is written out.  And half bytes from 10
on, which no subscriber has, take two characters, so they can make the IMSI of
another subscriber.
-/

namespace QCore
namespace Ue

open Foundation

/-!
## Half bytes
-/

theorem toNat_low (b : UInt8) : (b &&& 0xf).toNat = b.toNat % 16 := by
  rw [UInt8.toNat_and]
  exact Nat.and_two_pow_sub_one_eq_mod b.toNat 4

theorem toNat_high (b : UInt8) : (b >>> 4).toNat = b.toNat / 16 := by
  rw [UInt8.toNat_shiftRight]
  exact Nat.shiftRight_eq_div_pow b.toNat 4

theorem low_octet {high low : Nat} (hhigh : high < 16) (hlow : low < 16) :
    octet high low &&& 0xf = UInt8.ofNat low := by
  apply UInt8.toNat_inj.mp
  rw [toNat_low, toNat_octet hhigh hlow, UInt8.toNat_ofNat']
  lia

theorem high_octet {high low : Nat} (hhigh : high < 16) (hlow : low < 16) :
    octet high low >>> 4 = UInt8.ofNat high := by
  apply UInt8.toNat_inj.mp
  rw [toNat_high, toNat_octet hhigh hlow, UInt8.toNat_ofNat']
  lia

theorem halves_octet {high low : Nat} (hhigh : high < 16) (hlow : low < 16) :
    halves (octet high low) = [UInt8.ofNat low, UInt8.ofNat high] := by
  rw [halves, low_octet hhigh hlow, high_octet hhigh hlow]

/-!
## What the parser accepts
-/

def plmnHalves (plmn : Vector UInt8 3) : List UInt8 :=
  match plmn.toList with
  | [b1, b2, b3] =>
      halves b1 ++ [b2 &&& 0xf] ++
        (if b2 >>> 4 ≠ 0xf then [b2 >>> 4] else []) ++ halves b3
  | _ => []

/-- An identity of type SUPI.  Four bytes between the PLMN and the MSIN are not
looked at. -/
def supiIe (plmn : Vector UInt8 3) (skipped : Vector UInt8 4) (msin : Bytes) :
    Bytes :=
  0x01 :: plmn.toList ++ skipped.toList ++ msin

theorem fgsMobileIdentity_supiIe (plmn : Vector UInt8 3)
    (skipped : Vector UInt8 4) {msin : Bytes} (h : 4 <= msin.length) :
    fgsMobileIdentity (supiIe plmn skipped msin) =
      Outcome.ok
        ⟨(plmnHalves plmn).flatMap writeDigit ++
            (msin.flatMap halves).flatMap writeDigit, plmn⟩ := by
  rcases toList_three plmn with ⟨b1, b2, b3, hbytes⟩
  rcases toList_four skipped with ⟨b4, b5, b6, b7, hskipped⟩
  have hplmn : plmn = #v[b1, b2, b3] := Vector.toList_inj.mp hbytes
  rw [supiIe, plmnHalves, hbytes, hskipped, hplmn]
  simp only [List.cons_append, List.nil_append, fgsMobileIdentity]
  rw [if_neg (Nat.not_lt.mpr h), if_neg (by decide), ← List.flatMap_append]

theorem accepted_supiIe {ie : Bytes} {identity : MobileIdentity}
    (h : fgsMobileIdentity ie = Outcome.ok identity) :
    exists skipped msin, 4 <= msin.length ∧
      ie = supiIe identity.plmn skipped msin := by
  unfold fgsMobileIdentity at h
  split at h
  · rename_i b0 b1 b2 b3 b4 b5 b6 b7 msin
    by_cases hshort : msin.length < 4
    · rw [if_pos hshort] at h
      cases h
    · rw [if_neg hshort] at h
      by_cases htype : b0 ≠ 0x01
      · rw [if_pos htype] at h
        cases h
      · rw [if_neg htype] at h
        cases h
        rw [not_not.mp htype]
        exact ⟨#v[b4, b5, b6, b7], msin, Nat.not_lt.mp hshort, rfl⟩
  · cases h

/-!
## Identities in the standard coding
-/

def digitText (n : Nat) : UInt8 :=
  0x30 + UInt8.ofNat n

def digitsText (ds : List Digit) : Bytes :=
  ds.map fun d => digitText d.val

/-- The 5GS mobile identity of a subscriber, as a SUCI with the null scheme
(TS 24.501, 9.11.3.4). -/
def nullSchemeSuci (plmn : Plmn) (routing : Vector UInt8 2) (keyId : UInt8)
    (msin : List Digit) : Bytes :=
  0x01 :: plmn.code.toList ++ routing.toList ++ [0, keyId] ++ bcd msin

/-- The digits of the PLMN in the order in which the parser takes them. -/
def readDigits (plmn : Plmn) : List Digit :=
  match plmn.mnc with
  | Mnc.two d1 d2 => plmn.mcc ++ [d1, d2]
  | Mnc.three d1 d2 d3 => plmn.mcc ++ [d3, d1, d2]

/-- What the parser writes for the filler. -/
def fillerText (digits : Nat) : Bytes :=
  if digits % 2 = 0 then [] else [0x31, 0x35]

theorem digitsText_append (ds es : List Digit) :
    digitsText (ds ++ es) = digitsText ds ++ digitsText es :=
  List.map_append

theorem writeDigit_digit (d : Digit) :
    writeDigit (UInt8.ofNat d) = [digitText d] := by
  unfold writeDigit digitText
  rw [if_pos]
  rw [UInt8.lt_iff_toNat_lt, UInt8.toNat_ofNat']
  have hd := d.isLt
  show d.val % 256 < 10
  lia

theorem writeDigits (ds : List Digit) :
    (ds.map fun d => UInt8.ofNat d.val).flatMap writeDigit =
      digitsText ds := by
  induction ds with
  | nil => rfl
  | cons d ds ih =>
      rw [List.map_cons, List.flatMap_cons, writeDigit_digit, ih]
      rfl

theorem bcd_text (ds : List Digit) :
    ((bcd ds).flatMap halves).flatMap writeDigit =
      digitsText ds ++ fillerText ds.length := by
  fun_induction bcd ds with
  | case1 => rfl
  | case2 d =>
      rw [List.flatMap_singleton, halves_octet (by lia) (by lia),
        List.flatMap_cons, writeDigit_digit]
      rfl
  | case3 d e rest ih =>
      have hparity : fillerText (d :: e :: rest).length =
          fillerText rest.length := by
        unfold fillerText
        rw [List.length_cons, List.length_cons, Nat.add_assoc,
          Nat.add_mod_right]
      rw [List.flatMap_cons, List.flatMap_append, ih, hparity,
        halves_octet (by lia) (by lia), List.flatMap_cons, List.flatMap_cons,
        writeDigit_digit, writeDigit_digit]
      rfl

theorem plmnHalves_text (plmn : Plmn) :
    (plmnHalves plmn.code).flatMap writeDigit =
      digitsText (readDigits plmn) := by
  rcases plmn with ⟨mcc1, mcc2, mcc3, mnc⟩
  cases mnc with
  | two d1 d2 =>
      have hfiller : octet 15 mcc3 >>> 4 = 0xf :=
        high_octet (by lia) (by lia)
      show (halves (octet mcc2 mcc1) ++ [octet 15 mcc3 &&& 0xf] ++
        (if octet 15 mcc3 >>> 4 ≠ 0xf then [octet 15 mcc3 >>> 4] else []) ++
          halves (octet d2 d1)).flatMap writeDigit = _
      rw [hfiller, if_neg (by simp), low_octet (by lia) (by lia),
        halves_octet (by lia) (by lia), halves_octet (by lia) (by lia)]
      exact writeDigits [mcc1, mcc2, mcc3, d1, d2]
  | three d1 d2 d3 =>
      have hthird : octet d3 mcc3 >>> 4 = UInt8.ofNat d3 :=
        high_octet (by lia) (by lia)
      have hdigit : UInt8.ofNat d3 ≠ 0xf := by
        intro heq
        have hnat := congrArg UInt8.toNat heq
        rw [UInt8.toNat_ofNat'] at hnat
        change d3.val % 256 = 15 at hnat
        lia
      show (halves (octet mcc2 mcc1) ++ [octet d3 mcc3 &&& 0xf] ++
        (if octet d3 mcc3 >>> 4 ≠ 0xf then [octet d3 mcc3 >>> 4] else []) ++
          halves (octet d2 d1)).flatMap writeDigit = _
      rw [hthird, if_pos hdigit, low_octet (by lia) (by lia),
        halves_octet (by lia) (by lia), halves_octet (by lia) (by lia)]
      exact writeDigits [mcc1, mcc2, mcc3, d3, d1, d2]

theorem fgsMobileIdentity_nullSchemeSuci (plmn : Plmn)
    (routing : Vector UInt8 2) (keyId : UInt8) (msin : List Digit)
    (hlong : 12 <= (nullSchemeSuci plmn routing keyId msin).length) :
    fgsMobileIdentity (nullSchemeSuci plmn routing keyId msin) =
      Outcome.ok
        ⟨digitsText (readDigits plmn ++ msin) ++ fillerText msin.length,
          plmn.code⟩ := by
  have hform : nullSchemeSuci plmn routing keyId msin =
      supiIe plmn.code (routing ++ #v[0, keyId]) (bcd msin) := by
    rw [nullSchemeSuci, supiIe, Vector.toList_append]
    simp
  have hfour : 4 <= (bcd msin).length := by
    rw [hform] at hlong
    simp only [supiIe, List.length_append, List.length_cons,
      Vector.length_toList] at hlong
    lia
  rw [hform, fgsMobileIdentity_supiIe _ _ hfour, plmnHalves_text, bcd_text,
    digitsText_append, List.append_assoc]

/-!
## When the IMSI is the one of the subscriber
-/

theorem readDigits_eq_iff (plmn : Plmn) :
    readDigits plmn = plmn.mcc ++ plmn.mnc.digits <-> plmn.mnc.Uniform := by
  rcases plmn with ⟨mcc1, mcc2, mcc3, mnc⟩
  cases mnc with
  | two d1 d2 => exact iff_of_true rfl trivial
  | three d1 d2 d3 =>
      show Plmn.mcc _ ++ [d3, d1, d2] = Plmn.mcc _ ++ [d1, d2, d3] <->
        d1 = d2 ∧ d2 = d3
      rw [List.append_cancel_left_eq]
      simp only [List.cons.injEq, and_true]
      constructor
      · intro h
        exact ⟨h.right.left, h.right.right⟩
      · intro h
        exact ⟨(h.left.trans h.right).symm, h⟩

theorem digitText_sub {n : Nat} (h : n < 10) :
    (digitText n - 0x30).toNat = n := by
  unfold digitText
  rw [UInt8.add_comm, UInt8.add_sub_cancel, UInt8.toNat_ofNat']
  exact Nat.mod_eq_of_lt (by lia)

theorem eq_of_map_digitText {ns ms : List Nat} (h : DigitTexts.Decimal ns)
    (h' : DigitTexts.Decimal ms) (heq : ns.map digitText = ms.map digitText) :
    ns = ms := by
  have hread : forall {ns : List Nat}, DigitTexts.Decimal ns ->
      (ns.map digitText).map (fun b => (b - 0x30).toNat) = ns := by
    intro ns hns
    rw [List.map_map]
    calc
      _ = ns.map id :=
        List.map_congr_left fun n hn => digitText_sub (hns n hn)
      _ = ns := List.map_id ns
  rw [← hread h, heq, hread h']

theorem digitsText_inj {ds es : List Digit} :
    digitsText ds = digitsText es <-> ds = es := by
  have hval : forall ds : List Digit,
      digitsText ds = (ds.map Fin.val).map digitText := by
    intro ds
    rw [List.map_map]
    rfl
  have hdecimal : forall ds : List Digit,
      DigitTexts.Decimal (ds.map Fin.val) := by
    intro ds n hn
    rcases List.mem_map.mp hn with ⟨d, _, heq⟩
    rw [← heq]
    exact d.isLt
  constructor
  · intro h
    rw [hval, hval] at h
    have hvals := eq_of_map_digitText (hdecimal ds) (hdecimal es) h
    exact List.map_injective_iff.mpr (fun _ _ => Fin.ext) hvals
  · intro h
    rw [h]

theorem fillerText_eq_nil_iff (n : Nat) :
    fillerText n = [] <-> n % 2 = 0 := by
  unfold fillerText
  by_cases h : n % 2 = 0
  · rw [if_pos h]
    exact iff_of_true rfl h
  · rw [if_neg h]
    exact iff_of_false (List.cons_ne_nil _ _) h

theorem readDigits_length (plmn : Plmn) :
    (readDigits plmn).length = (plmn.mcc ++ plmn.mnc.digits).length := by
  rcases plmn with ⟨mcc1, mcc2, mcc3, mnc⟩
  cases mnc with
  | two d1 d2 => rfl
  | three d1 d2 d3 => rfl

/-- For every subscriber in the standard coding: the parser returns the IMSI of
the subscriber and the PLMN exactly when the MSIN has an even number of digits
and the MNC has two, or three equal ones. -/
theorem fgsMobileIdentity_nullSchemeSuci_iff (plmn : Plmn)
    (routing : Vector UInt8 2) (keyId : UInt8) (msin : List Digit)
    (hlong : 12 <= (nullSchemeSuci plmn routing keyId msin).length) :
    fgsMobileIdentity (nullSchemeSuci plmn routing keyId msin) =
        Outcome.ok
          ⟨digitsText (plmn.mcc ++ plmn.mnc.digits ++ msin), plmn.code⟩ <->
      msin.length % 2 = 0 ∧ plmn.mnc.Uniform := by
  rw [fgsMobileIdentity_nullSchemeSuci plmn routing keyId msin hlong,
    ← fillerText_eq_nil_iff, ← readDigits_eq_iff]
  constructor
  · intro h
    have himsi := congrArg MobileIdentity.imsi (Outcome.ok.inj h)
    -- The filler would make the text longer.
    have hlength := congrArg List.length himsi
    simp only [digitsText, List.length_append, List.length_map,
      readDigits_length] at hlength
    have hnil : fillerText msin.length = [] :=
      List.eq_nil_of_length_eq_zero (by lia)
    change digitsText _ ++ fillerText _ = digitsText _ at himsi
    rw [hnil, List.append_nil, digitsText_inj] at himsi
    exact ⟨hnil, List.append_cancel_right himsi⟩
  · intro h
    rw [h.left, h.right, List.append_nil]

def twoDigitPlmn : Plmn where
  mcc1 := 0
  mcc2 := 0
  mcc3 := 1
  mnc := Mnc.two 0 1

def threeDigitPlmn : Plmn where
  mcc1 := 3
  mcc2 := 1
  mcc3 := 0
  mnc := Mnc.three 4 1 0

theorem fgsMobileIdentity_twoDigits_even :
    12 <= (nullSchemeSuci twoDigitPlmn #v[0, 0] 0
        [0, 0, 0, 0, 0, 0, 0, 0, 4, 2]).length ∧
      fgsMobileIdentity (nullSchemeSuci twoDigitPlmn #v[0, 0] 0
          [0, 0, 0, 0, 0, 0, 0, 0, 4, 2]) =
        Outcome.ok
          ⟨digitsText [0, 0, 1, 0, 1, 0, 0, 0, 0, 0, 0, 0, 0, 4, 2],
            twoDigitPlmn.code⟩ := by
  have hlong : 12 <= (nullSchemeSuci twoDigitPlmn #v[0, 0] 0
      [0, 0, 0, 0, 0, 0, 0, 0, 4, 2]).length := by
    decide
  exact ⟨hlong,
    (fgsMobileIdentity_nullSchemeSuci_iff _ _ _ _ hlong).mpr ⟨rfl, trivial⟩⟩

/-- MCC 310 and MNC 410 come out as 310 and 041, and an MSIN of nine digits has
"15" after it. -/
theorem fgsMobileIdentity_threeDigits_odd :
    fgsMobileIdentity (nullSchemeSuci threeDigitPlmn #v[0, 0] 0
        [1, 2, 3, 4, 5, 6, 7, 8, 9, 0]) =
      Outcome.ok
        ⟨digitsText [3, 1, 0, 0, 4, 1, 1, 2, 3, 4, 5, 6, 7, 8, 9, 0],
          threeDigitPlmn.code⟩ ∧
    digitsText [3, 1, 0, 0, 4, 1, 1, 2, 3, 4, 5, 6, 7, 8, 9, 0] ≠
      digitsText [3, 1, 0, 4, 1, 0, 1, 2, 3, 4, 5, 6, 7, 8, 9, 0] ∧
    fgsMobileIdentity (nullSchemeSuci twoDigitPlmn #v[0, 0] 0
        [1, 2, 3, 4, 5, 6, 7, 8, 9]) =
      Outcome.ok
        ⟨digitsText [0, 0, 1, 0, 1, 1, 2, 3, 4, 5, 6, 7, 8, 9, 1, 5],
          twoDigitPlmn.code⟩ := by
  refine ⟨?_, ?_, ?_⟩
  · exact fgsMobileIdentity_nullSchemeSuci _ _ _ _ (by decide)
  · decide
  · exact fgsMobileIdentity_nullSchemeSuci _ _ _ _ (by decide)

/-!
## Identities with one IMSI
-/

def msinHalves (ie : Bytes) : List UInt8 :=
  (ie.drop 8).flatMap halves

def dropFiller (digits : List UInt8) : List UInt8 :=
  if digits.getLast? = some 0xf then digits.dropLast else digits

theorem halves_length (bytes : Bytes) :
    (bytes.flatMap halves).length = 2 * bytes.length := by
  induction bytes with
  | nil => rfl
  | cons b bytes ih =>
      rw [List.flatMap_cons, List.length_append, ih, List.length_cons]
      show 2 + _ = _
      lia

theorem dropFiller_inj {ds es : List UInt8}
    (hparity : ds.length % 2 = es.length % 2) :
    dropFiller ds = dropFiller es <-> ds = es := by
  -- A filler on one side only would make the lengths differ by one.
  have hone : forall {xs ys : List UInt8}, xs.getLast? = some 0xf ->
      xs.dropLast = ys -> xs.length % 2 ≠ ys.length % 2 := by
    intro xs ys hlast hdrop
    have hpos : xs ≠ [] := by
      intro hnil
      rw [hnil] at hlast
      cases hlast
    have hlength := List.length_pos_iff.mpr hpos
    rw [← hdrop, List.length_dropLast]
    lia
  constructor
  · intro h
    unfold dropFiller at h
    by_cases hd : ds.getLast? = some 0xf
    · rw [if_pos hd] at h
      by_cases he : es.getLast? = some 0xf
      · rw [if_pos he] at h
        rw [← List.dropLast_append_getLast? _ hd,
          ← List.dropLast_append_getLast? _ he, h]
      · rw [if_neg he] at h
        exact absurd hparity (hone hd h)
    · rw [if_neg hd] at h
      by_cases he : es.getLast? = some 0xf
      · rw [if_pos he] at h
        exact absurd hparity.symm (hone he h.symm)
      · rw [if_neg he] at h
        exact h
  · intro h
    rw [h]

theorem writeDigit_spell (b : UInt8) :
    writeDigit b = (DigitTexts.spellOne b.toNat).map digitText := by
  unfold writeDigit DigitTexts.spellOne
  by_cases hb : b < 10
  · have hnat : b.toNat < 10 := hb
    rw [if_pos hb, if_pos hnat, List.map_singleton, digitText,
      UInt8.ofNat_toNat]
  · have hnat : ¬ b.toNat < 10 := hb
    have hsub : UInt8.ofNat (b.toNat - 10) = b - 10 := by
      rw [UInt8.ofNat_sub (Nat.not_lt.mp hnat), UInt8.ofNat_toNat]
      rfl
    rw [if_neg hb, if_neg hnat, List.map_cons, List.map_singleton, digitText,
      digitText, hsub]
    rfl

theorem writeDigits_spell (bs : List UInt8) :
    bs.flatMap writeDigit =
      (DigitTexts.spell (bs.map UInt8.toNat)).map digitText := by
  induction bs with
  | nil => rfl
  | cons b bs ih =>
      rw [List.flatMap_cons, ih, writeDigit_spell, ← List.map_append]
      rfl

theorem hex_halves (bytes : Bytes) :
    DigitTexts.Hex ((bytes.flatMap halves).map UInt8.toNat) := by
  intro n hn
  rcases List.mem_map.mp hn with ⟨b, hb, heq⟩
  rcases List.mem_flatMap.mp hb with ⟨byte, _, hhalf⟩
  rw [← heq]
  have hlt := byte.toNat_lt
  simp only [halves, List.mem_cons, List.not_mem_nil, or_false] at hhalf
  rcases hhalf with hlow | hhigh
  · rw [hlow, toNat_low]
    exact Nat.mod_lt _ (by lia)
  · rw [hhigh, toNat_high]
    lia

def pack : List Nat -> Bytes
  | low :: high :: rest => octet high low :: pack rest
  | _ => []

theorem halves_pack {ns : List Nat} (h : DigitTexts.Hex ns)
    (heven : ns.length % 2 = 0) :
    ((pack ns).flatMap halves).map UInt8.toNat = ns := by
  fun_induction pack ns with
  | case1 low high rest ih =>
      have hlow := h low List.mem_cons_self
      have hhigh := h.tail high List.mem_cons_self
      rw [List.length_cons, List.length_cons, Nat.add_assoc,
        Nat.add_mod_right] at heven
      rw [List.flatMap_cons, List.map_append, ih h.tail.tail heven,
        halves_octet hhigh hlow, List.map_cons, List.map_singleton,
        UInt8.toNat_ofNat', UInt8.toNat_ofNat', Nat.mod_eq_of_lt (by lia),
        Nat.mod_eq_of_lt (by lia)]
      rfl
  | case2 ns hother =>
      match ns with
      | [] => rfl
      | [_] => cases heven
      | low :: high :: rest => exact absurd rfl (hother low high rest)

def msinNumbers (ie : Bytes) : List Nat :=
  (msinHalves ie).map UInt8.toNat

theorem msinHalves_supiIe (plmn : Vector UInt8 3) (skipped : Vector UInt8 4)
    (msin : Bytes) :
    msinHalves (supiIe plmn skipped msin) = msin.flatMap halves := by
  have hlength : (0x01 :: plmn.toList ++ skipped.toList).length = 8 := by
    rw [List.length_append, List.length_cons, Vector.length_toList,
      Vector.length_toList]
  rw [msinHalves, supiIe, List.drop_left' hlength]

theorem msinNumbers_inj {ie ie' : Bytes} :
    msinNumbers ie' = msinNumbers ie <-> msinHalves ie' = msinHalves ie := by
  constructor
  · intro h
    exact List.map_injective_iff.mpr (fun _ _ => UInt8.toNat_inj.mp) h
  · intro h
    rw [msinNumbers, h, msinNumbers]

structure AcceptedMsin (ie : Bytes) : Prop where
  hex : DigitTexts.Hex (msinNumbers ie)
  long : 8 <= (msinNumbers ie).length
  even : (msinNumbers ie).length % 2 = 0

theorem acceptedMsin_supiIe (plmn : Vector UInt8 3) (skipped : Vector UInt8 4)
    {msin : Bytes} (h : 4 <= msin.length) :
    AcceptedMsin (supiIe plmn skipped msin) := by
  have hlength : (msinNumbers (supiIe plmn skipped msin)).length =
      2 * msin.length := by
    rw [msinNumbers, msinHalves_supiIe, List.length_map, halves_length]
  refine ⟨?_, by lia, by lia⟩
  rw [msinNumbers, msinHalves_supiIe]
  exact hex_halves msin

theorem acceptedMsin {ie : Bytes} {identity : MobileIdentity}
    (h : fgsMobileIdentity ie = Outcome.ok identity) : AcceptedMsin ie := by
  rcases accepted_supiIe h with ⟨skipped, msin, hlong, heq⟩
  rw [heq]
  exact acceptedMsin_supiIe _ _ hlong

theorem imsi_eq {ie : Bytes} {identity : MobileIdentity}
    (h : fgsMobileIdentity ie = Outcome.ok identity) :
    identity.imsi =
      (plmnHalves identity.plmn).flatMap writeDigit ++
        (DigitTexts.spell (msinNumbers ie)).map digitText := by
  rcases accepted_supiIe h with ⟨skipped, msin, hlong, heq⟩
  rw [heq, fgsMobileIdentity_supiIe _ _ hlong] at h
  rw [heq, msinNumbers, msinHalves_supiIe, ← writeDigits_spell]
  exact (congrArg MobileIdentity.imsi (Outcome.ok.inj h)).symm

theorem imsi_eq_iff {ie ie' : Bytes} {identity identity' : MobileIdentity}
    (h : fgsMobileIdentity ie = Outcome.ok identity)
    (h' : fgsMobileIdentity ie' = Outcome.ok identity')
    (hplmn : identity'.plmn = identity.plmn) :
    identity'.imsi = identity.imsi <->
      DigitTexts.spell (msinNumbers ie') =
        DigitTexts.spell (msinNumbers ie) := by
  rw [imsi_eq h, imsi_eq h', hplmn, List.append_cancel_left_eq]
  constructor
  · intro htext
    exact eq_of_map_digitText
      (DigitTexts.spell_decimal (acceptedMsin h').hex)
      (DigitTexts.spell_decimal (acceptedMsin h).hex) htext
  · intro htext
    rw [htext]

theorem exists_identity (plmn : Vector UInt8 3) {ns : List Nat}
    (hhex : DigitTexts.Hex ns) (hlong : 8 <= ns.length)
    (heven : ns.length % 2 = 0) :
    exists ie identity, fgsMobileIdentity ie = Outcome.ok identity ∧
      identity.plmn = plmn ∧ msinNumbers ie = ns := by
  have hhalves := halves_pack hhex heven
  have hlength : 2 * (pack ns).length = ns.length := by
    rw [← halves_length, ← List.length_map (f := UInt8.toNat), hhalves]
  refine ⟨supiIe plmn (Vector.replicate 4 0) (pack ns), _,
    fgsMobileIdentity_supiIe _ _ (by lia), rfl, ?_⟩
  rw [msinNumbers, msinHalves_supiIe, hhalves]

/-- For every accepted identity: no other MSIN with the same PLMN has its IMSI
exactly when its text can be read in one way only. -/
theorem imsi_distinct_iff (ie : Bytes) (identity : MobileIdentity)
    (h : fgsMobileIdentity ie = Outcome.ok identity) :
    (forall ie' identity', fgsMobileIdentity ie' = Outcome.ok identity' ->
      identity'.plmn = identity.plmn -> identity'.imsi = identity.imsi ->
        dropFiller (msinHalves ie') = dropFiller (msinHalves ie)) <->
      DigitTexts.Unambiguous 8 (msinNumbers ie) := by
  have hmsin := acceptedMsin h
  have hfiller : forall {ie' : Bytes}, AcceptedMsin ie' ->
      (dropFiller (msinHalves ie') = dropFiller (msinHalves ie) <->
        msinNumbers ie' = msinNumbers ie) := by
    intro ie' hmsin'
    rw [msinNumbers_inj]
    apply dropFiller_inj
    have heven := hmsin.even
    have heven' := hmsin'.even
    rw [msinNumbers, List.length_map] at heven heven'
    rw [heven, heven']
  rw [← DigitTexts.unambiguous_iff hmsin.hex hmsin.long]
  constructor
  · intro hdistinct ms hhex hparity hlong hspell
    rw [hmsin.even] at hparity
    rcases exists_identity identity.plmn hhex hlong hparity with
      ⟨ie', identity', h', hplmn, hns⟩
    rw [← hns] at hspell ⊢
    exact (hfiller (acceptedMsin h')).mp
      (hdistinct ie' identity' h' hplmn ((imsi_eq_iff h h' hplmn).mpr hspell))
  · intro honly ie' identity' h' hplmn himsi
    have hmsin' := acceptedMsin h'
    rw [hfiller hmsin']
    apply honly _ hmsin'.hex _ hmsin'.long ((imsi_eq_iff h h' hplmn).mp himsi)
    rw [hmsin.even, hmsin'.even]

/-- An MSIN of eight half bytes, the first two of them 11. -/
def forgedIe : Bytes :=
  supiIe twoDigitPlmn.code (Vector.replicate 4 0) [0xbb, 0, 0, 0]

def subscriberIe : Bytes :=
  supiIe twoDigitPlmn.code (Vector.replicate 4 0) [0x11, 0x11, 0, 0, 0]

def plainIe : Bytes :=
  supiIe twoDigitPlmn.code (Vector.replicate 4 0) [0, 0, 0, 0, 0x24]

theorem imsi_distinct_plainIe :
    exists identity, fgsMobileIdentity plainIe = Outcome.ok identity ∧
      forall ie' identity', fgsMobileIdentity ie' = Outcome.ok identity' ->
        identity'.plmn = identity.plmn -> identity'.imsi = identity.imsi ->
          dropFiller (msinHalves ie') = dropFiller (msinHalves plainIe) := by
  have hplain := fgsMobileIdentity_supiIe twoDigitPlmn.code (Vector.replicate 4 0)
    (show 4 <= ([0, 0, 0, 0, 0x24] : Bytes).length by decide)
  exact ⟨_, hplain, (imsi_distinct_iff plainIe _ hplain).mpr (by decide)⟩

theorem imsi_forgedIe :
    fgsMobileIdentity forgedIe =
        Outcome.ok
          ⟨digitsText [0, 0, 1, 0, 1, 1, 1, 1, 1, 0, 0, 0, 0, 0, 0],
            twoDigitPlmn.code⟩ ∧
      fgsMobileIdentity subscriberIe =
        Outcome.ok
          ⟨digitsText [0, 0, 1, 0, 1, 1, 1, 1, 1, 0, 0, 0, 0, 0, 0],
            twoDigitPlmn.code⟩ ∧
      dropFiller (msinHalves forgedIe) ≠
        dropFiller (msinHalves subscriberIe) := by
  refine ⟨?_, ?_, by decide⟩
  · exact fgsMobileIdentity_supiIe _ _ (by decide)
  · exact fgsMobileIdentity_supiIe _ _ (by decide)

end Ue
end QCore
