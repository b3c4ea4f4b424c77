import QCore.Foundation.Outcome
import QCore.Nas.Messages
import QCore.Security.Keygen

/-!
# Integrity protection of NAS and of SRB1

`SecurityContext` protects downlink NAS messages and `PdcpTx` the PDUs of
signalling radio bearer 1.  Both count what they send and put an NIA2 MAC over
it.
-/

namespace QCore
namespace Security

open Foundation
open Nas

inductive SecurityError where
  | nasEncode
  | nasDecode
  -- "Too short for PDCP PDU"
  | tooShortForPdcpPdu
  -- "Missing authentication response parameter on NasAuthenticationResponse"
  | missingAuthenticationResponseParameter
  -- "Ue responded incorrectly to challenge"
  | incorrectResponse
deriving DecidableEq, Repr

variable (c : Crypto) (codec : NasCodec)

structure SecurityContext where
  ik : Key128
  dlCount : UInt32
deriving DecidableEq, Repr

namespace SecurityContext

def new (ik : Key128) : SecurityContext where
  ik := ik
  dlCount := 0

/-- The header type of the next message: only the first one of a context is sent
with the new-context type. -/
def headerType (s : SecurityContext) : Nas5gsSecurityHeaderType :=
  if s.dlCount = 0 then
    Nas5gsSecurityHeaderType.integrityProtectedWithNewContext
  else
    Nas5gsSecurityHeaderType.integrityProtectedAndCiphered

/-- The MAC of an encoded protected message, over everything from byte 6. -/
def mac (s : SecurityContext) (nasBytes : Bytes) : Vector UInt8 4 :=
  calculateNia2Mac c s.ik s.dlCount 1 1 (nasBytes.drop 6)

def patchMac (nasBytes : Bytes) (mac : Vector UInt8 4) : Bytes :=
  nasBytes.take 2 ++ mac.toList ++ nasBytes.drop 6

/-- `encode_with_integrity`; slicing an encoding of less than six bytes panics. -/
def encodeWithIntegrity (nas : Nas5gsMessage) :
    Cmd SecurityContext SecurityError Bytes := fun s =>
  match codec.encode (Nas5gsMessage.securityProtected s.headerType 0
      (s.dlCount &&& 0xff).toUInt8 nas) with
  | none => (Outcome.err SecurityError.nasEncode, s)
  | some nasBytes =>
      if nasBytes.length < 6 then
        (Outcome.panic, s)
      else
        (Outcome.ok (patchMac nasBytes (s.mac c nasBytes)),
          { s with dlCount := (s.dlCount + 1) &&& 0xffffff })

def counted (s : SecurityContext) : SecurityContext :=
  { s with dlCount := (s.dlCount + 1) &&& 0xffffff }

theorem encodeWithIntegrity_cases (nas : Nas5gsMessage) (s : SecurityContext) :
    (exists nasBytes,
      codec.encode (Nas5gsMessage.securityProtected s.headerType 0
          (s.dlCount &&& 0xff).toUInt8 nas) = some nasBytes ∧
        6 <= nasBytes.length ∧
        encodeWithIntegrity c codec nas s =
          (Outcome.ok (patchMac nasBytes (s.mac c nasBytes)), s.counted)) ∨
      (exists e, encodeWithIntegrity c codec nas s = (Outcome.err e, s)) ∨
      encodeWithIntegrity c codec nas s = (Outcome.panic, s) := by
  unfold encodeWithIntegrity
  cases codec.encode (Nas5gsMessage.securityProtected s.headerType 0
      (s.dlCount &&& 0xff).toUInt8 nas) with
  | none => exact Or.inr (Or.inl ⟨_, rfl⟩)
  | some nasBytes =>
      cases Nat.decLt nasBytes.length 6 with
      | isTrue hshort =>
          simp only [hshort, ↓reduceIte]
          exact Or.inr (Or.inr trivial)
      | isFalse hlong =>
          simp only [hlong, ↓reduceIte]
          exact Or.inl ⟨nasBytes, rfl, Nat.le_of_not_lt hlong, rfl⟩

end SecurityContext

structure NasContext where
  securityContext : Option SecurityContext
deriving DecidableEq, Repr

namespace NasContext

def default : NasContext where
  securityContext := none

/-- `NasContext::decode`: the security header is not checked. -/
def decode (data : Bytes) : Outcome SecurityError Nas5gsMessage :=
  match codec.decode data with
  | none => Outcome.err SecurityError.nasDecode
  | some (Nas5gsMessage.securityProtected _ _ _ body) => Outcome.ok body
  | some nas => Outcome.ok nas

def enableSecurity (knasint : Key128) : NasContext where
  securityContext := some (SecurityContext.new knasint)

def encode (nas : Nas5gsMessage) : Cmd NasContext SecurityError Bytes :=
  fun n =>
    match n.securityContext with
    | some s =>
        match SecurityContext.encodeWithIntegrity c codec nas s with
        | (out, s') => (out, { securityContext := some s' })
    | none =>
        match codec.encode nas with
        | none => (Outcome.err SecurityError.nasEncode, n)
        | some bytes => (Outcome.ok bytes, n)

variable {c codec}

theorem encode_unsecured {nas : Nas5gsMessage} {n n' : NasContext}
    {bytes : Bytes} (hn : n.securityContext = none)
    (h : encode c codec nas n = (Outcome.ok bytes, n')) :
    codec.encode nas = some bytes ∧ n' = n := by
  unfold encode at h
  simp only [hn] at h
  cases hencode : codec.encode nas with
  | none =>
      rw [hencode] at h
      cases h
  | some bytes' =>
      rw [hencode] at h
      cases h
      exact ⟨rfl, rfl⟩

theorem encode_secured {nas : Nas5gsMessage} {n n' : NasContext}
    {s : SecurityContext} {bytes : Bytes} (hn : n.securityContext = some s)
    (h : encode c codec nas n = (Outcome.ok bytes, n')) :
    exists s', SecurityContext.encodeWithIntegrity c codec nas s =
        (Outcome.ok bytes, s') ∧ n' = { securityContext := some s' } := by
  unfold encode at h
  simp only [hn] at h
  cases hencode : SecurityContext.encodeWithIntegrity c codec nas s with
  | mk out s' =>
      rw [hencode] at h
      cases h
      exact ⟨s', rfl, rfl⟩

variable (c codec)

theorem encode_cases (nas : Nas5gsMessage) (n : NasContext) :
    (exists bytes n', encode c codec nas n = (Outcome.ok bytes, n')) ∨
      (exists e, encode c codec nas n = (Outcome.err e, n)) ∨
      encode c codec nas n = (Outcome.panic, n) := by
  unfold encode
  cases hn : n.securityContext with
  | none =>
      cases codec.encode nas with
      | none => exact Or.inr (Or.inl ⟨_, rfl⟩)
      | some bytes => exact Or.inl ⟨bytes, n, rfl⟩
  | some s =>
      have hsame : n = { securityContext := some s } := by
        rw [← hn]
      rcases SecurityContext.encodeWithIntegrity_cases c codec nas s with
        ⟨_, _, _, hcase⟩ | ⟨e, hcase⟩ | hcase
      · simp only [hcase]
        exact Or.inl ⟨_, _, rfl⟩
      · simp only [hcase, ← hsame]
        exact Or.inr (Or.inl ⟨e, rfl⟩)
      · simp only [hcase, ← hsame]
        exact Or.inr (Or.inr trivial)

end NasContext

structure PdcpTx where
  txNext : UInt32
  pdcpIntegrityKey : Option Key128
deriving DecidableEq, Repr

namespace PdcpTx

def default : PdcpTx where
  txNext := 0
  pdcpIntegrityKey := none

def enableSecurity (p : PdcpTx) (ik : Key128) : PdcpTx :=
  { p with pdcpIntegrityKey := some ik }

def header (txNext : UInt32) : Bytes :=
  be16 (txNext.toUInt16 &&& 0x0fff)

/-- The MAC of a PDU of SRB1, zero while there is no key. -/
def mac (p : PdcpTx) (bearer : UInt8) (message : Bytes) : Vector UInt8 4 :=
  match p.pdcpIntegrityKey with
  | none => #v[0, 0, 0, 0]
  | some ik => calculateNia2Mac c ik p.txNext bearer 1 message

/-- `PdcpTx::encode`.  Bearers other than 0 and 1 fail an assertion, and the
increment of `tx_next` panics on overflow in a build that checks it. -/
def encode (overflowChecks : Bool) (srbId : UInt8) (inner : Bytes) :
    Cmd PdcpTx SecurityError Bytes := fun p =>
  if srbId = 0 then
    (Outcome.ok (be16 0 ++ inner ++ [0, 0, 0, 0]), p)
  else if srbId ≠ 1 ∨ (overflowChecks ∧ p.txNext = 0xffffffff) then
    (Outcome.panic, p)
  else
    let message := header p.txNext ++ inner
    (Outcome.ok (message ++ (p.mac c (srbId - 1) message).toList),
      { p with txNext := p.txNext + 1 })

def srb1Pdu (p : PdcpTx) (inner : Bytes) : Bytes :=
  header p.txNext ++ inner ++
    (p.mac c 0 (header p.txNext ++ inner)).toList

def counted (p : PdcpTx) : PdcpTx :=
  { p with txNext := p.txNext + 1 }

theorem encode_cases (overflowChecks : Bool) (srbId : UInt8) (inner : Bytes)
    (p : PdcpTx) :
    (srbId = 0 ∧ encode c overflowChecks srbId inner p =
        (Outcome.ok (be16 0 ++ inner ++ [0, 0, 0, 0]), p)) ∨
      (srbId = 1 ∧ encode c overflowChecks srbId inner p =
        (Outcome.ok (p.srb1Pdu c inner), p.counted)) ∨
      encode c overflowChecks srbId inner p = (Outcome.panic, p) := by
  unfold encode
  cases decEq srbId 0 with
  | isTrue hzero =>
      rw [if_pos hzero]
      exact Or.inl ⟨hzero, rfl⟩
  | isFalse hzero =>
      rw [if_neg hzero]
      by_cases hbad : srbId ≠ 1 ∨ (overflowChecks ∧ p.txNext = 0xffffffff)
      · rw [if_pos hbad]
        exact Or.inr (Or.inr rfl)
      · rw [if_neg hbad]
        have hone : srbId = 1 :=
          Decidable.of_not_not fun hne => hbad (Or.inl hne)
        rw [hone]
        exact Or.inr (Or.inl ⟨rfl, rfl⟩)

/-- `PdcpPdu::view_inner` -/
def viewInner (pdu : Bytes) : Outcome SecurityError Bytes :=
  if 6 <= pdu.length then
    Outcome.ok ((pdu.take (pdu.length - 4)).drop 2)
  else
    Outcome.err SecurityError.tooShortForPdcpPdu

end PdcpTx

/-!
## The steps of initial access that use the keys
-/

def checkAuthenticationResponse (skipUeAuthenticationCheck : Bool)
    (parameter : Option Bytes) (challenge : Challenge) :
    Outcome SecurityError Unit :=
  match parameter with
  | none => Outcome.err SecurityError.missingAuthenticationResponseParameter
  | some value =>
      if skipUeAuthenticationCheck then
        Outcome.ok ()
      else if value ≠ challenge.xresStar.toList then
        Outcome.err SecurityError.incorrectResponse
      else
        Outcome.ok ()

def configureNasSecurity (kamf : Key256) : NasContext :=
  NasContext.enableSecurity (deriveKnasint c kamf)

def configureRrcSecurity (kamf : Key256) (pdcpTx : PdcpTx) : PdcpTx :=
  pdcpTx.enableSecurity (deriveKrrcint c (deriveKgnb c kamf 0))

end Security
end QCore
