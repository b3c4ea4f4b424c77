import QCore.Foundation.F1uFormats
import QCore.Security.Protection

/-!
# Key agreement with a standard UE

The UE side of 5G AKA and of the key hierarchy, written from TS 33.501 and the
generic key derivation function of TS 33.220, annex B.2.0.  It shares nothing
with the core side of `Keygen` but the cryptographic functions.  The two agree:
the UE accepts the challenge, its answer is accepted, and both sides hold the
same keys.
-/

namespace QCore
namespace Security

open Foundation
open Nas

variable (c : Crypto)

/-!
## The reference UE
-/

/-- TS 33.220, B.2.0: the key derivation function over `FC`, then each
parameter followed by its length in two octets. -/
def kdf (key : Bytes) (fc : UInt8) (parameters : List Bytes) : Key256 :=
  c.hmacSha256 key
    (fc :: parameters.flatMap fun p =>
      p ++ [UInt8.ofNat (p.length / 256), UInt8.ofNat p.length])

def leastSignificant (key : Key256) : Key128 :=
  Vector.ofFn fun i => key[16 + i.val]

/-- TS 33.501, A.8 -/
def algorithmKey (key : Key256) (typeDistinguisher identity : UInt8) : Key128 :=
  leastSignificant (kdf c key.toList 0x69 [[typeDistinguisher], [identity]])

structure ReferenceUe where
  k : Key128
  opc : Key128
  servingNetworkName : Bytes
  imsi : Bytes

namespace ReferenceUe

variable (ue : ReferenceUe) (rand autn : Vector UInt8 16)

def milenage : MilenageOutput :=
  c.f2345 ue.k ue.opc rand

def part (offset length : Nat) (h : offset + length <= 16) :
    Vector UInt8 length :=
  Vector.ofFn fun i => autn[offset + i.val]

def concealedSqn : Vector UInt8 6 :=
  part autn 0 6 (by decide)

/-- TS 33.102, 6.3.3: SQN = (SQN xor AK) xor AK. -/
def sqn : Vector UInt8 6 :=
  Vector.ofFn fun i => (concealedSqn autn)[i] ^^^ (ue.milenage c rand).ak[i]

def amfOf : Vector UInt8 2 :=
  part autn 6 2 (by decide)

def macOf : Vector UInt8 8 :=
  part autn 8 8 (by decide)

/-- The MAC in AUTN is the one over RAND, SQN and AMF. -/
def MacValid : Prop :=
  c.f1 ue.k ue.opc rand (ue.sqn c rand autn) (amfOf autn) = macOf autn

instance decidableMacValid : Decidable (ue.MacValid c rand autn) :=
  inferInstanceAs (Decidable (_ = _))

/-- TS 33.501, 6.1.3.2: the separation bit of AMF, the most significant one. -/
def Separated : Prop :=
  128 <= (amfOf autn)[0].toNat

instance decidableSeparated : Decidable (Separated autn) :=
  inferInstanceAs (Decidable (_ <= _))

def ckIk : Bytes :=
  (ue.milenage c rand).ck.toList ++ (ue.milenage c rand).ik.toList

/-- TS 33.501, A.4 -/
def resStar : Vector UInt8 16 :=
  leastSignificant (kdf c (ue.ckIk c rand) 0x6B
    [ue.servingNetworkName, rand.toList, (ue.milenage c rand).res.toList])

/-- TS 33.501, A.2 -/
def kausf : Key256 :=
  kdf c (ue.ckIk c rand) 0x6A
    [ue.servingNetworkName, (concealedSqn autn).toList]

/-- TS 33.501, A.6 -/
def kseaf : Key256 :=
  kdf c (ue.kausf c rand autn).toList 0x6C [ue.servingNetworkName]

/-- TS 33.501, A.7, with the ABBA value 0x0000. -/
def kamf : Key256 :=
  kdf c (ue.kseaf c rand autn).toList 0x6D [ue.imsi, [0x00, 0x00]]

/-- The NAS integrity key, distinguisher 0x02, for algorithm 128-NIA2. -/
def knasint : Key128 :=
  algorithmKey c (ue.kamf c rand autn) 0x02 0x02

/-- TS 33.501, A.9, for uplink NAS COUNT 0 and 3GPP access. -/
def kgnb : Key256 :=
  kdf c (ue.kamf c rand autn).toList 0x6E [[0, 0, 0, 0], [0x01]]

/-- The RRC integrity key, distinguisher 0x04, for algorithm 128-NIA2. -/
def krrcint : Key128 :=
  algorithmKey c (ue.kgnb c rand autn) 0x04 0x02

end ReferenceUe

def countOctets (count : UInt32) : Bytes :=
  [24, 16, 8, 0].map fun shift => UInt8.ofNat (count.toNat / 2 ^ shift)

/-- TS 33.401, B.2.3: the message authentication code of 128-EIA2, for a bearer
of five bits and a direction of one bit. -/
def eia2 (key : Key128) (count : UInt32) (bearer direction : Nat)
    (message : Bytes) : Vector UInt8 4 :=
  Vector.take
    (c.aesCmac key
      (countOctets count ++
        [UInt8.ofNat (8 * bearer + 4 * direction), 0, 0, 0] ++ message)) 4

/-- A received downlink NAS message verifies: bearer 1, direction 1, MAC in
octets 2 to 5 over everything from the sequence number on. -/
def NasVerifies (key : Key128) (count : UInt32) (nasBytes : Bytes) : Prop :=
  (nasBytes.drop 2).take 4 = (eia2 c key count 1 1 (nasBytes.drop 6)).toList

instance decidableNasVerifies (key : Key128) (count : UInt32)
    (nasBytes : Bytes) : Decidable (NasVerifies c key count nasBytes) :=
  inferInstanceAs (Decidable (_ = _))

/-- A received PDU of SRB1 verifies: bearer 0, direction 1, MAC in the last four
bytes over what comes before. -/
def PdcpVerifies (key : Key128) (count : UInt32) (pdu : Bytes) : Prop :=
  pdu.drop (pdu.length - 4) =
    (eia2 c key count 0 1 (pdu.take (pdu.length - 4))).toList

instance decidablePdcpVerifies (key : Key128) (count : UInt32) (pdu : Bytes) :
    Decidable (PdcpVerifies c key count pdu) :=
  inferInstanceAs (Decidable (_ = _))

/-- TS 38.323, 6.2.2.1: the sequence number of 12 bits in a PDU of a signalling
bearer. -/
def PdcpTx.rcvdSn : Bytes -> Option Nat
  | first :: second :: _ => some (F1u.number [first &&& 0x0f, second])
  | _ => none

/-!
## Each derivation is the standard one

The core writes out `FC`, the parameters and their lengths in each function;
these equations say that what it feeds to HMAC is the generic input.
-/

variable {c}

theorem lowHalf_eq (key : Key256) : lowHalf key = leastSignificant key := by
  apply Vector.ext
  intro i hi
  rw [leastSignificant, Vector.getElem_ofFn]
  exact Vector.getElem_drop hi

theorem be16_ofNat (n : Nat) :
    be16 (UInt16.ofNat n) = [UInt8.ofNat (n / 256), UInt8.ofNat n] := by
  have hhigh : (UInt16.ofNat n >>> 8).toUInt8 = UInt8.ofNat (n / 256) := by
    have hdiv : n % 65536 / 256 % 256 = n / 256 % 256 := by
      rw [Nat.mod_mul_right_div_self n 256 256, Nat.mod_mod]
    apply UInt8.toNat_inj.mp
    simp [Nat.shiftRight_eq_div_pow, hdiv]
  have hlow : (UInt16.ofNat n).toUInt8 = UInt8.ofNat n := by
    apply UInt8.toNat_inj.mp
    simp
  rw [be16, hhigh, hlow]

theorem be32_eq (count : UInt32) : be32 count = countOctets count := by
  have hoctet : forall shift : UInt32, shift < 32 ->
      (count >>> shift).toUInt8 =
        UInt8.ofNat (count.toNat / 2 ^ shift.toNat) := by
    intro shift hshift
    apply UInt8.toNat_inj.mp
    have hmod : shift.toNat % 32 = shift.toNat := Nat.mod_eq_of_lt hshift
    simp [hmod, Nat.shiftRight_eq_div_pow]
  have hlow : count.toUInt8 = UInt8.ofNat (count.toNat / 2 ^ 0) := by
    apply UInt8.toNat_inj.mp
    simp
  unfold be32
  rw [hoctet 24 (by decide), hoctet 16 (by decide), hoctet 8 (by decide), hlow]
  rfl

theorem kdf_eq_hmac (key : Bytes) (fc : UInt8) (parameters : List Bytes) :
    kdf c key fc parameters =
      c.hmac key ([fc] :: parameters.flatMap
        fun p => [p, be16 (UInt16.ofNat p.length)]) := by
  unfold kdf Crypto.hmac
  congr 1
  rw [List.flatten_cons]
  congr 1
  induction parameters with
  | nil => rfl
  | cons p rest ih => simp [be16_ofNat, ih]

theorem deriveKamf_eq (kseaf : Key256) (imsi : Bytes) :
    deriveKamf c kseaf imsi =
      kdf c kseaf.toList 0x6D [imsi, [0x00, 0x00]] := by
  have htwo : be16 (UInt16.ofNat 2) = [0x00, 0x02] := be16_small (by decide)
  rw [kdf_eq_hmac]
  simp [deriveKamf, nasAbba, ← htwo]

theorem deriveKgnb_eq (kamf : Key256) (count : UInt32) :
    deriveKgnb c kamf count =
      kdf c kamf.toList 0x6E [be32 count, [0x01]] := by
  have hone : be16 (UInt16.ofNat 1) = [0x00, 0x01] := be16_small (by decide)
  have hfour : be16 (UInt16.ofNat 4) = [0x00, 0x04] := be16_small (by decide)
  rw [kdf_eq_hmac]
  simp [deriveKgnb, ← hone, ← hfour]

theorem deriveAlgorithmKey_eq (key : Key256)
    (typeDistinguisher identity : UInt8) :
    deriveAlgorithmKey c key typeDistinguisher identity =
      algorithmKey c key typeDistinguisher identity := by
  have hone : be16 (UInt16.ofNat 1) = [0x00, 0x01] := be16_small (by decide)
  unfold algorithmKey
  rw [kdf_eq_hmac, ← lowHalf_eq]
  simp [deriveAlgorithmKey, ← hone]

theorem calculateNia2Mac_eq {bearer direction : Nat} (hbearer : bearer < 32)
    (hdirection : direction < 2) (key : Key128) (count : UInt32)
    (message : Bytes) :
    calculateNia2Mac c key count (UInt8.ofNat bearer) (UInt8.ofNat direction)
        message =
      eia2 c key count bearer direction message := by
  have hbits : forall b : Fin 32, forall d : Fin 2,
      ((UInt8.ofNat b <<< 3) ||| (UInt8.ofNat d <<< 2)) =
        UInt8.ofNat (8 * b + 4 * d) := by
    decide
  have hbyte := hbits ⟨bearer, hbearer⟩ ⟨direction, hdirection⟩
  unfold calculateNia2Mac eia2
  rw [hbyte, be32_eq]
  simp

theorem nia2_bearer_one (key : Key128) (count : UInt32) (message : Bytes) :
    calculateNia2Mac c key count 1 1 message =
      eia2 c key count 1 1 message :=
  @calculateNia2Mac_eq c 1 1 (by decide) (by decide) key count message

theorem nia2_bearer_zero (key : Key128) (count : UInt32) (message : Bytes) :
    calculateNia2Mac c key count 0 1 message =
      eia2 c key count 0 1 message :=
  @calculateNia2Mac_eq c 0 1 (by decide) (by decide) key count message

/-!
## The challenge
-/

theorem autnOf_toList (concealed : Vector UInt8 6) (amf : Vector UInt8 2)
    (mac : Vector UInt8 8) :
    (autnOf concealed amf mac).toList =
      concealed.toList ++ amf.toList ++ mac.toList := by
  unfold autnOf
  rw [← Vector.toList_append, ← Vector.toList_append]

theorem part_toList (autn : Vector UInt8 16) {offset length : Nat}
    (h : offset + length <= 16) :
    (ReferenceUe.part autn offset length h).toList =
      (autn.toList.drop offset).take length := by
  apply List.ext_getElem
  · simp
    lia
  · intro i _ _
    simp [ReferenceUe.part]

theorem concealedSqn_autnOf (concealed : Vector UInt8 6) (amf : Vector UInt8 2)
    (mac : Vector UInt8 8) :
    ReferenceUe.concealedSqn (autnOf concealed amf mac) = concealed := by
  apply Vector.toList_inj.mp
  simp [ReferenceUe.concealedSqn, part_toList, autnOf_toList]

theorem amfOf_autnOf (concealed : Vector UInt8 6) (amf : Vector UInt8 2)
    (mac : Vector UInt8 8) :
    ReferenceUe.amfOf (autnOf concealed amf mac) = amf := by
  apply Vector.toList_inj.mp
  simp [ReferenceUe.amfOf, part_toList, autnOf_toList]

theorem macOf_autnOf (concealed : Vector UInt8 6) (amf : Vector UInt8 2)
    (mac : Vector UInt8 8) :
    ReferenceUe.macOf (autnOf concealed amf mac) = mac := by
  apply Vector.toList_inj.mp
  have hlen : (concealed.toList ++ amf.toList).length = 8 := by simp
  unfold ReferenceUe.macOf
  rw [part_toList, autnOf_toList, List.drop_left' hlen]
  exact List.take_of_length_le (by simp)

def challengeFor (c : Crypto) (ue : ReferenceUe) (sqn : Vector UInt8 6)
    (rand : Vector UInt8 16) : Challenge :=
  generateChallenge c ue.k ue.opc ue.servingNetworkName sqn rand

section Challenge

variable (ue : ReferenceUe) (sqn : Vector UInt8 6) (rand : Vector UInt8 16)

theorem challengeFor_autn :
    (challengeFor c ue sqn rand).autn =
      autnOf (conceal sqn (ue.milenage c rand).ak) amf
        (c.f1 ue.k ue.opc rand sqn amf) := rfl

theorem challengeFor_sqn :
    ue.sqn c rand (challengeFor c ue sqn rand).autn = sqn := by
  unfold ReferenceUe.sqn
  rw [challengeFor_autn, concealedSqn_autnOf]
  ext i hi
  simp only [Vector.getElem_ofFn, Fin.getElem_fin, conceal,
    Vector.getElem_zipWith]
  rw [UInt8.xor_assoc, UInt8.xor_self, UInt8.xor_zero]

theorem challengeFor_macValid :
    ue.MacValid c rand (challengeFor c ue sqn rand).autn := by
  unfold ReferenceUe.MacValid
  rw [challengeFor_sqn, challengeFor_autn, amfOf_autnOf, macOf_autnOf]

theorem challengeFor_separated :
    ReferenceUe.Separated (challengeFor c ue sqn rand).autn := by
  unfold ReferenceUe.Separated
  rw [challengeFor_autn, amfOf_autnOf]
  decide

theorem challengeFor_xresStar :
    (challengeFor c ue sqn rand).xresStar = ue.resStar c rand := by
  have height : be16 (UInt16.ofNat 8) = [0x00, 0x08] := be16_small (by decide)
  have hsixteen : be16 (UInt16.ofNat 16) = [0x00, 0x10] :=
    be16_small (by decide)
  unfold ReferenceUe.resStar
  rw [kdf_eq_hmac, ← lowHalf_eq]
  simp [challengeFor, generateChallenge, ReferenceUe.ckIk,
    ReferenceUe.milenage, ← height, ← hsixteen]

theorem challengeFor_kseaf :
    (challengeFor c ue sqn rand).kseaf =
      ue.kseaf c rand (challengeFor c ue sqn rand).autn := by
  have hsix : be16 (UInt16.ofNat 6) = [0x00, 0x06] := be16_small (by decide)
  have hconcealed : (challengeFor c ue sqn rand).autn.toList.take 6 =
      (conceal sqn (ue.milenage c rand).ak).toList := by
    rw [challengeFor_autn, autnOf_toList]
    simp
  have hkausf : ue.kausf c rand (challengeFor c ue sqn rand).autn =
      c.hmac (ue.ckIk c rand)
        [[0x6A], ue.servingNetworkName,
          be16 (UInt16.ofNat ue.servingNetworkName.length),
          (challengeFor c ue sqn rand).autn.toList.take 6, [0x00, 0x06]] := by
    unfold ReferenceUe.kausf
    rw [kdf_eq_hmac, hconcealed, challengeFor_autn, concealedSqn_autnOf, ← hsix]
    simp
  unfold ReferenceUe.kseaf
  rw [hkausf, kdf_eq_hmac]
  rfl

theorem challengeFor_kamf :
    deriveKamf c (challengeFor c ue sqn rand).kseaf ue.imsi =
      ue.kamf c rand (challengeFor c ue sqn rand).autn := by
  rw [deriveKamf_eq, challengeFor_kseaf]
  rfl

theorem challengeFor_knasint :
    deriveKnasint c (deriveKamf c (challengeFor c ue sqn rand).kseaf ue.imsi) =
      ue.knasint c rand (challengeFor c ue sqn rand).autn := by
  unfold deriveKnasint
  rw [challengeFor_kamf, deriveAlgorithmKey_eq]
  rfl

theorem challengeFor_kgnb :
    deriveKgnb c (deriveKamf c (challengeFor c ue sqn rand).kseaf ue.imsi) 0 =
      ue.kgnb c rand (challengeFor c ue sqn rand).autn := by
  rw [challengeFor_kamf, deriveKgnb_eq]
  rfl

theorem challengeFor_krrcint :
    deriveKrrcint c
        (deriveKgnb c (deriveKamf c (challengeFor c ue sqn rand).kseaf ue.imsi)
          0) =
      ue.krrcint c rand (challengeFor c ue sqn rand).autn := by
  unfold deriveKrrcint
  rw [challengeFor_kgnb, deriveAlgorithmKey_eq]
  rfl

end Challenge

/-!
## The protected messages
-/

theorem patchMac_parts {nasBytes : Bytes} (mac : Vector UInt8 4)
    (hlen : 6 <= nasBytes.length) :
    ((SecurityContext.patchMac nasBytes mac).drop 2).take 4 = mac.toList ∧
      (SecurityContext.patchMac nasBytes mac).drop 6 = nasBytes.drop 6 := by
  have htwo : (nasBytes.take 2).length = 2 :=
    List.length_take_of_le (by lia)
  have hsix : (nasBytes.take 2 ++ mac.toList).length = 6 := by
    rw [List.length_append, htwo]
    simp
  unfold SecurityContext.patchMac
  constructor
  · rw [List.append_assoc, List.drop_left' htwo]
    exact List.take_left' (by simp)
  · exact List.drop_left' hsix

theorem encodeWithIntegrity_verifies {codec : NasCodec} {nas : Nas5gsMessage}
    {s s' : SecurityContext} {bytes : Bytes}
    (h : SecurityContext.encodeWithIntegrity c codec nas s =
      (Outcome.ok bytes, s')) : NasVerifies c s.ik s.dlCount bytes := by
  rcases SecurityContext.encodeWithIntegrity_cases c codec nas s with
    ⟨nasBytes, _, hlong, hcase⟩ | ⟨e, hcase⟩ | hcase
  · rw [hcase] at h
    cases h
    rcases patchMac_parts (s.mac c nasBytes) hlong with ⟨hmac, hmessage⟩
    unfold NasVerifies
    rw [hmac, hmessage]
    exact congrArg Vector.toList (nia2_bearer_one s.ik s.dlCount _)
  · rw [hcase] at h
    cases h
  · rw [hcase] at h
    cases h

theorem nasEncode_verifies {codec : NasCodec} {nas : Nas5gsMessage}
    {n n' : NasContext} {s : SecurityContext} {bytes : Bytes}
    (hs : n.securityContext = some s)
    (h : NasContext.encode c codec nas n = (Outcome.ok bytes, n')) :
    NasVerifies c s.ik s.dlCount bytes := by
  rcases NasContext.encode_secured hs h with ⟨s', hencode, _⟩
  exact encodeWithIntegrity_verifies hencode

theorem pdcpVerifies_append (key : Key128) (count : UInt32) (message : Bytes) :
    PdcpVerifies c key count
      (message ++ (eia2 c key count 0 1 message).toList) := by
  have hlen : (message ++ (eia2 c key count 0 1 message).toList).length - 4 =
      message.length := by
    simp
  unfold PdcpVerifies
  rw [hlen, List.drop_left, List.take_left]

theorem PdcpTx.number_low_nibble {n : Nat} (h : n < 4096) :
    F1u.number [(UInt16.ofNat n >>> 8).toUInt8 &&& 0x0f,
      (UInt16.ofNat n).toUInt8] = n := by
  have hn : n % 65536 = n := Nat.mod_eq_of_lt (by lia)
  have hhigh : n / 256 &&& 15 = n / 256 % 16 :=
    Nat.and_two_pow_sub_one_eq_mod (n / 256) 4
  have hbyte : n / 256 % 256 = n / 256 := Nat.mod_eq_of_lt (by lia)
  simp [F1u.number, hn, Nat.shiftRight_eq_div_pow, hbyte, hhigh]
  lia

theorem PdcpTx.rcvdSn_header (txNext : UInt32) (rest : Bytes) :
    PdcpTx.rcvdSn (PdcpTx.header txNext ++ rest) =
      some (txNext.toNat % 4096) := by
  have hmask : txNext.toNat % 65536 &&& 4095 = txNext.toNat % 4096 := by
    have hmod := Nat.and_two_pow_sub_one_eq_mod (txNext.toNat % 65536) 12
    rw [Nat.mod_mod_of_dvd _ (by decide)] at hmod
    exact hmod
  have hlow : txNext.toUInt16 &&& 0x0fff =
      UInt16.ofNat (txNext.toNat % 4096) := by
    apply UInt16.toNat_inj.mp
    simp [hmask]
    lia
  have hsn := PdcpTx.number_low_nibble
    (Nat.mod_lt txNext.toNat (by decide : 4096 > 0))
  unfold PdcpTx.header
  rw [hlow]
  exact congrArg some hsn

theorem pdcpEncode_verifies {overflowChecks : Bool} {inner pdu : Bytes}
    {p p' : PdcpTx} {key : Key128} (hkey : p.pdcpIntegrityKey = some key)
    (h : PdcpTx.encode c overflowChecks 1 inner p = (Outcome.ok pdu, p')) :
    PdcpVerifies c key p.txNext pdu ∧
      PdcpTx.rcvdSn pdu = some (p.txNext.toNat % 4096) := by
  rcases PdcpTx.encode_cases c overflowChecks 1 inner p with
    ⟨hzero, _⟩ | ⟨_, hcase⟩ | hcase
  · cases hzero
  · rw [hcase] at h
    cases h
    have hmac : p.mac c 0 (PdcpTx.header p.txNext ++ inner) =
        eia2 c key p.txNext 0 1 (PdcpTx.header p.txNext ++ inner) := by
      unfold PdcpTx.mac
      rw [hkey]
      exact nia2_bearer_zero key p.txNext _
    unfold PdcpTx.srb1Pdu
    rw [hmac]
    constructor
    · exact pdcpVerifies_append key p.txNext _
    · rw [List.append_assoc]
      exact PdcpTx.rcvdSn_header p.txNext _
  · rw [hcase] at h
    cases h

/-!
## Agreement
-/

/-- Everything that a UE with the keys of the SIM shares with the core after the
challenge `ch`.  `codec` and `overflowChecks` are those of the core. -/
structure Agrees (c : Crypto) (codec : NasCodec) (overflowChecks : Bool)
    (ue : ReferenceUe) (sqn : Vector UInt8 6) (ch : Challenge) : Prop where
  sqn_recovered : ue.sqn c ch.rand ch.autn = sqn
  mac_valid : ue.MacValid c ch.rand ch.autn
  separated : ReferenceUe.Separated ch.autn
  response_accepted :
    checkAuthenticationResponse false
      (some (ue.resStar c ch.rand).toList) ch = Outcome.ok ()
  kseaf : ch.kseaf = ue.kseaf c ch.rand ch.autn
  kamf : deriveKamf c ch.kseaf ue.imsi = ue.kamf c ch.rand ch.autn
  knasint : deriveKnasint c (deriveKamf c ch.kseaf ue.imsi) =
    ue.knasint c ch.rand ch.autn
  kgnb : deriveKgnb c (deriveKamf c ch.kseaf ue.imsi) 0 =
    ue.kgnb c ch.rand ch.autn
  krrcint : deriveKrrcint c (deriveKgnb c (deriveKamf c ch.kseaf ue.imsi) 0) =
    ue.krrcint c ch.rand ch.autn
  nas_verifies : forall nas bytes n,
    NasContext.encode c codec nas
        (configureNasSecurity c (deriveKamf c ch.kseaf ue.imsi)) =
      (Outcome.ok bytes, n) ->
    NasVerifies c (ue.knasint c ch.rand ch.autn) 0 bytes
  rrc_verifies : forall p inner pdu p',
    PdcpTx.encode c overflowChecks 1 inner
        (configureRrcSecurity c (deriveKamf c ch.kseaf ue.imsi) p) =
      (Outcome.ok pdu, p') ->
    PdcpVerifies c (ue.krrcint c ch.rand ch.autn) p.txNext pdu ∧
      PdcpTx.rcvdSn pdu = some (p.txNext.toNat % 4096)

/-- For every challenge that the core generates for the credentials, the serving
network name and the IMSI of a UE, the UE and the core agree. -/
theorem key_agreement (c : Crypto) (codec : NasCodec) (overflowChecks : Bool)
    (ue : ReferenceUe) (sqn : Vector UInt8 6) (rand : Vector UInt8 16) :
    Agrees c codec overflowChecks ue sqn
      (generateChallenge c ue.k ue.opc ue.servingNetworkName sqn rand) := by
  change Agrees c codec overflowChecks ue sqn (challengeFor c ue sqn rand)
  have hrand : (challengeFor c ue sqn rand).rand = rand := rfl
  refine
    { sqn_recovered := challengeFor_sqn ue sqn rand
      mac_valid := challengeFor_macValid ue sqn rand
      separated := challengeFor_separated ue sqn rand
      response_accepted := ?_
      kseaf := challengeFor_kseaf ue sqn rand
      kamf := challengeFor_kamf ue sqn rand
      knasint := challengeFor_knasint ue sqn rand
      kgnb := challengeFor_kgnb ue sqn rand
      krrcint := challengeFor_krrcint ue sqn rand
      nas_verifies := ?_
      rrc_verifies := ?_ }
  · rw [hrand, ← challengeFor_xresStar ue sqn rand]
    simp [checkAuthenticationResponse]
  · intro nas bytes n h
    rw [hrand, ← challengeFor_knasint ue sqn rand]
    have hfresh : (configureNasSecurity c
        (deriveKamf c (challengeFor c ue sqn rand).kseaf ue.imsi)).securityContext =
          some (SecurityContext.new (deriveKnasint c
            (deriveKamf c (challengeFor c ue sqn rand).kseaf ue.imsi))) := rfl
    exact nasEncode_verifies hfresh h
  · intro p inner pdu p' h
    rw [hrand, ← challengeFor_krrcint ue sqn rand]
    have hkey : (configureRrcSecurity c
        (deriveKamf c (challengeFor c ue sqn rand).kseaf ue.imsi)
          p).pdcpIntegrityKey =
          some (deriveKrrcint c (deriveKgnb c
            (deriveKamf c (challengeFor c ue sqn rand).kseaf ue.imsi) 0)) := rfl
    have hverifies := pdcpEncode_verifies hkey h
    exact hverifies

end Security
end QCore
