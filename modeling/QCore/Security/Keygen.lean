import QCore.Foundation.Bytes

/-!
# Challenge and key derivation

The functions of `keygen.rs` and `nia2.rs`.  Milenage, HMAC-SHA-256 and AES-CMAC
come from other crates and are parameters here; all that is used of them is
their input and output lengths, and that a sequence of updates is one update
with the concatenation.
-/

namespace QCore
namespace Security

open Foundation

abbrev Key128 : Type := Vector UInt8 16
abbrev Key256 : Type := Vector UInt8 32

structure MilenageOutput where
  res : Vector UInt8 8
  ck : Key128
  ik : Key128
  ak : Vector UInt8 6

structure Crypto where
  f1 : Key128 -> Key128 -> Vector UInt8 16 -> Vector UInt8 6 ->
    Vector UInt8 2 -> Vector UInt8 8
  f2345 : Key128 -> Key128 -> Vector UInt8 16 -> MilenageOutput
  hmacSha256 : Bytes -> Bytes -> Key256
  aesCmac : Key128 -> Bytes -> Vector UInt8 16

variable (c : Crypto)

def Crypto.hmac (key : Bytes) (updates : List Bytes) : Key256 :=
  c.hmacSha256 key updates.flatten

def nasAbba : Bytes := [0x00, 0x00]

def amf : Vector UInt8 2 := #v[0x80, 0x00]

structure Challenge where
  rand : Vector UInt8 16
  autn : Vector UInt8 16
  xresStar : Vector UInt8 16
  kseaf : Key256
deriving DecidableEq, Repr

/-- The sequence number concealed by the anonymity key; applying it twice gives
the number back. -/
def conceal (sqn ak : Vector UInt8 6) : Vector UInt8 6 :=
  Vector.zipWith (· ^^^ ·) sqn ak

def lowHalf (key : Key256) : Key128 :=
  Vector.drop key 16

/-- AUTN = SQN xor AK || AMF || MAC -/
def autnOf (concealedSqn : Vector UInt8 6) (amf : Vector UInt8 2)
    (mac : Vector UInt8 8) : Vector UInt8 16 :=
  concealedSqn ++ amf ++ mac

/-- `generate_challenge`, for the random number `rand` it draws. -/
def generateChallenge (k opc : Key128) (servingNetworkName : Bytes)
    (sqn : Vector UInt8 6) (rand : Vector UInt8 16) : Challenge :=
  let servingNetworkNameLen := be16 (UInt16.ofNat servingNetworkName.length)
  let mac := c.f1 k opc rand sqn amf
  let out := c.f2345 k opc rand
  let autn := autnOf (conceal sqn out.ak) amf mac
  let kausf := c.hmac (out.ck.toList ++ out.ik.toList)
    [[0x6A], servingNetworkName, servingNetworkNameLen,
      autn.toList.take 6, [0x00, 0x06]]
  let kseaf := c.hmac kausf.toList
    [[0x6C], servingNetworkName, servingNetworkNameLen]
  let xresStar := c.hmac (out.ck.toList ++ out.ik.toList)
    [[0x6B], servingNetworkName, servingNetworkNameLen,
      rand.toList, [0x00, 0x10], out.res.toList, [0x00, 0x08]]
  { rand := rand
    autn := autn
    xresStar := lowHalf xresStar
    kseaf := kseaf }

def deriveKamf (kseaf : Key256) (imsi : Bytes) : Key256 :=
  c.hmac kseaf.toList
    [[0x6D], imsi, be16 (UInt16.ofNat imsi.length), nasAbba, [0x00, 0x02]]

def deriveKgnb (kamf : Key256) (uplinkNasCount : UInt32) : Key256 :=
  c.hmac kamf.toList
    [[0x6E], be32 uplinkNasCount, [0x00, 0x04], [0x01], [0x00, 0x01]]

def deriveAlgorithmKey (inputKey : Key256)
    (algorithmTypeDistinguisher algorithmIdentity : UInt8) : Key128 :=
  lowHalf (c.hmac inputKey.toList
    [[0x69], [algorithmTypeDistinguisher], [0x00, 0x01], [algorithmIdentity],
      [0x00, 0x01]])

def deriveKrrcint (kgnb : Key256) : Key128 :=
  deriveAlgorithmKey c kgnb 0x04 0x02

def deriveKnasint (kamf : Key256) : Key128 :=
  deriveAlgorithmKey c kamf 0x02 0x02

def calculateNia2Mac (integrityKey : Key128) (count : UInt32)
    (bearerIdentity5bit direction1bit : UInt8) (message : Bytes) :
    Vector UInt8 4 :=
  Vector.take
    (c.aesCmac integrityKey
      (be32 count ++ [(bearerIdentity5bit <<< 3) ||| (direction1bit <<< 2)] ++
        [0, 0, 0] ++ message)) 4

end Security
end QCore
