import QCore.Foundation.InOrder
import QCore.Foundation.Machine
import QCore.Security.KeyAgreement

/-!
# Streams of protected messages

The sender of SRB1 and the sender of NAS messages each number what they protect.
A UE that receives everything in order rebuilds the number of each message from
the sequence number in it.  This module runs the two senders on any calls and
lets the receivers follow them.
-/

namespace QCore
namespace Security

open Foundation
open Nas

variable (c : Crypto)

/-!
## SRB1
-/

inductive PdcpCall where
  | enableSecurity (ik : Key128)
  | encodeSrb0 (inner : Bytes)
  | encodeSrb1 (inner : Bytes)
deriving DecidableEq, Repr

def PdcpCall.isSrb1 : PdcpCall -> Bool
  | PdcpCall.encodeSrb1 _ => true
  | _ => false

structure Srb1Sent where
  key : Option Key128
  inner : Bytes
  pdu : Bytes
deriving DecidableEq, Repr

def srb1Calls : Option Key128 -> List PdcpCall -> List (Option Key128 × Bytes)
  | _, [] => []
  | _, PdcpCall.enableSecurity ik :: rest => srb1Calls (some ik) rest
  | key, PdcpCall.encodeSrb0 _ :: rest => srb1Calls key rest
  | key, PdcpCall.encodeSrb1 inner :: rest => (key, inner) :: srb1Calls key rest

namespace PdcpTx

def step (overflowChecks : Bool) (p : PdcpTx) : PdcpCall -> Option PdcpTx
  | PdcpCall.enableSecurity ik => some (p.enableSecurity ik)
  | PdcpCall.encodeSrb0 inner =>
      match encode c overflowChecks 0 inner p with
      | (Outcome.ok _, p') => some p'
      | _ => none
  | PdcpCall.encodeSrb1 inner =>
      match encode c overflowChecks 1 inner p with
      | (Outcome.ok _, p') => some p'
      | _ => none

def pdcpMachine (overflowChecks : Bool) : Machine PdcpTx PdcpCall where
  step := step c overflowChecks

def sent (overflowChecks : Bool) (p : PdcpTx) (call : PdcpCall) (_ : PdcpTx) :
    List Srb1Sent :=
  match call with
  | PdcpCall.encodeSrb1 inner =>
      match encode c overflowChecks 1 inner p with
      | (Outcome.ok pdu, _) => [⟨p.pdcpIntegrityKey, inner, pdu⟩]
      | _ => []
  | _ => []

/-- The last four bytes of a PDU of SRB1: zero without a key, else the MAC of the
count over what comes before. -/
def macField (key : Option Key128) (count : Nat) (message : Bytes) : Bytes :=
  match key with
  | none => [0, 0, 0, 0]
  | some ik => (eia2 c ik (UInt32.ofNat count) 0 1 message).toList

/-- An in-order receiver of SRB1, with 12 bits of sequence number.  It returns
the count of the PDU. -/
def receive (rxDeliv : Nat) (pdu : Bytes) : Option (Nat × Nat) :=
  match rcvdSn pdu with
  | none => none
  | some sn =>
      let count := rcvdCount 2048 rxDeliv sn
      some (count, if count = rxDeliv then rxDeliv + 1 else rxDeliv)

variable {c}

/-!
### One call
-/

theorem encode_srb0 (overflowChecks : Bool) (inner : Bytes) (p : PdcpTx) :
    encode c overflowChecks 0 inner p =
      (Outcome.ok (be16 0 ++ inner ++ [0, 0, 0, 0]), p) := rfl

theorem encode_srb1 {overflowChecks : Bool} {p : PdcpTx}
    (h : ¬ (overflowChecks ∧ p.txNext = 0xffffffff)) (inner : Bytes) :
    encode c overflowChecks 1 inner p =
      (Outcome.ok (p.srb1Pdu c inner), p.counted) := by
  have hgood : ¬ ((1 : UInt8) ≠ 1 ∨
      (overflowChecks ∧ p.txNext = 0xffffffff)) := by
    intro hbad
    rcases hbad with hne | hover
    · exact hne rfl
    · exact h hover
  unfold encode
  rw [if_neg (by decide), if_neg hgood]
  rfl

theorem step_cases {overflowChecks : Bool} {p p' : PdcpTx} {call : PdcpCall}
    (h : (pdcpMachine c overflowChecks).step p call = some p') :
    (exists inner, call = PdcpCall.encodeSrb1 inner ∧ p' = p.counted ∧
      sent c overflowChecks p call p' =
        [⟨p.pdcpIntegrityKey, inner, p.srb1Pdu c inner⟩]) ∨
      (call.isSrb1 = false ∧ p'.txNext = p.txNext ∧
        sent c overflowChecks p call p' = []) := by
  cases call with
  | enableSecurity ik =>
      cases h
      exact Or.inr ⟨rfl, rfl, rfl⟩
  | encodeSrb0 inner =>
      cases h
      exact Or.inr ⟨rfl, rfl, rfl⟩
  | encodeSrb1 inner =>
      rcases encode_cases c overflowChecks 1 inner p with
        ⟨hzero, _⟩ | ⟨_, hcase⟩ | hcase
      · cases hzero
      · simp only [pdcpMachine, step, hcase] at h
        cases h
        refine Or.inl ⟨inner, rfl, rfl, ?_⟩
        simp only [sent, hcase]
      · simp only [pdcpMachine, step, hcase] at h
        cases h

def AtCount (k : Nat) (p : PdcpTx) : Prop :=
  p.txNext = UInt32.ofNat k

theorem AtCount.counted {k : Nat} {p : PdcpTx} (h : AtCount k p) :
    AtCount (k + 1) p.counted := by
  change p.txNext + 1 = UInt32.ofNat (k + 1)
  rw [h]
  exact (UInt32.ofNat_add k 1).symm

theorem run_returns (overflowChecks : Bool) {k : Nat} {p : PdcpTx}
    (hp : AtCount k p) (calls : List PdcpCall)
    (hfew : k + calls.countP PdcpCall.isSrb1 < 4294967296) :
    exists p', (pdcpMachine c overflowChecks).run p calls = some p' := by
  induction calls generalizing k p with
  | nil => exact ⟨p, rfl⟩
  | cons call rest ih =>
      rw [List.countP_cons] at hfew
      cases call with
      | enableSecurity ik => exact ih (p := p.enableSecurity ik) hp hfew
      | encodeSrb0 inner => exact ih hp hfew
      | encodeSrb1 inner =>
          have hcount : k + 1 + rest.countP PdcpCall.isSrb1 < 4294967296 := by
            change k + (_ + 1) < _ at hfew
            lia
          have hfits : ¬ (overflowChecks ∧ p.txNext = 0xffffffff) := by
            intro hover
            have hlast := congrArg UInt32.toNat (hp.symm.trans hover.right)
            rw [UInt32.toNat_ofNat_of_lt' (by change k < 4294967296; lia)] at hlast
            change k = 4294967295 at hlast
            lia
          have hstep : (pdcpMachine c overflowChecks).step p
              (PdcpCall.encodeSrb1 inner) = some p.counted := by
            simp only [pdcpMachine, step, encode_srb1 hfits]
          rcases ih hp.counted hcount with ⟨p', hrun⟩
          exact ⟨p', (Machine.run_cons_of_step rest hstep).trans hrun⟩

/-!
### What the receiver makes of a PDU
-/

theorem header_length (txNext : UInt32) : (header txNext).length = 2 := rfl

theorem receive_srb1Pdu (k : Nat) (key : Option Key128) (inner : Bytes) :
    receive k (srb1Pdu c ⟨UInt32.ofNat k, key⟩ inner) = some (k, k + 1) := by
  have hk : (UInt32.ofNat k).toNat % 4096 = k % 4096 := by
    rw [UInt32.toNat_ofNat']
    exact Nat.mod_mod_of_dvd k (by decide)
  have hsn := rcvdSn_header (UInt32.ofNat k) (inner ++
    (mac c ⟨UInt32.ofNat k, key⟩ 0 (header (UInt32.ofNat k) ++ inner)).toList)
  rw [← List.append_assoc, hk] at hsn
  have hcount : rcvdCount 2048 k (k % 4096) = k :=
    rcvdCount_inOrder (by decide) k
  unfold receive srb1Pdu
  rw [hsn]
  simp only [hcount, ↓reduceIte]

theorem viewInner_srb1Pdu (p : PdcpTx) (inner : Bytes) :
    viewInner (p.srb1Pdu c inner) = Outcome.ok inner := by
  have hlen : (p.srb1Pdu c inner).length = 2 + inner.length + 4 := by
    simp [srb1Pdu, header_length, Nat.add_assoc]
  have hfront : (header p.txNext ++ inner).length = 2 + inner.length := by
    simp [header_length]
  unfold viewInner
  rw [if_pos (by lia), hlen, Nat.add_sub_cancel]
  unfold srb1Pdu
  rw [List.take_left' hfront, List.drop_left' (header_length _)]

theorem mac_srb1Pdu (k : Nat) (key : Option Key128) (inner : Bytes) :
    let pdu := srb1Pdu c ⟨UInt32.ofNat k, key⟩ inner
    pdu.drop (pdu.length - 4) = macField c key k (pdu.take 2 ++ inner) := by
  intro pdu
  have htake : pdu.take 2 = header (UInt32.ofNat k) := by
    change (header _ ++ inner ++ _).take 2 = _
    rw [List.append_assoc]
    exact List.take_left' (header_length _)
  have hlen : pdu.length - 4 = (header (UInt32.ofNat k) ++ inner).length := by
    change (header _ ++ inner ++ _).length - 4 = _
    rw [List.length_append, Vector.length_toList, Nat.add_sub_cancel]
  rw [htake, hlen]
  change (header (UInt32.ofNat k) ++ inner ++ _).drop _ = _
  rw [List.drop_left]
  unfold mac macField
  cases key with
  | none => rfl
  | some ik =>
      exact congrArg Vector.toList (nia2_bearer_zero ik (UInt32.ofNat k) _)

/-!
### Runs
-/

def HasCount (c : Crypto) (k : Nat) (s : Srb1Sent) : Prop :=
  s.pdu = srb1Pdu c ⟨UInt32.ofNat k, s.key⟩ s.inner

theorem hasCount_step {overflowChecks : Bool} (k : Nat) (p : PdcpTx)
    (call : PdcpCall) (p' : PdcpTx) (hp : AtCount k p)
    (hstep : (pdcpMachine c overflowChecks).step p call = some p') :
    (sent c overflowChecks p call p' = [] ∧ AtCount k p') ∨
      exists s, sent c overflowChecks p call p' = [s] ∧ HasCount c k s ∧
        AtCount (k + 1) p' := by
  rcases step_cases hstep with ⟨inner, _, hp', hsent⟩ | ⟨_, hsame, hsent⟩
  · refine Or.inr ⟨_, hsent, ?_, ?_⟩
    · change p.srb1Pdu c inner = _
      rw [← hp]
    · rw [hp']
      exact hp.counted
  · exact Or.inl ⟨hsent, hsame.trans hp⟩

theorem outputs_calls {overflowChecks : Bool} {p p' : PdcpTx}
    {calls : List PdcpCall}
    (hrun : (pdcpMachine c overflowChecks).run p calls = some p') :
    ((pdcpMachine c overflowChecks).outputs (sent c overflowChecks) p
      calls).map (fun s => (s.key, s.inner)) =
        srb1Calls p.pdcpIntegrityKey calls := by
  induction calls generalizing p with
  | nil => rfl
  | cons call rest ih =>
      rcases Machine.run_cons_some hrun with ⟨q, hstep, hrest⟩
      rw [Machine.outputs_cons_of_step _ rest hstep, List.map_append, ih hrest]
      cases call with
      | enableSecurity ik =>
          cases hstep
          rfl
      | encodeSrb0 inner =>
          cases hstep
          rfl
      | encodeSrb1 inner =>
          rcases step_cases hstep with
            ⟨inner', hcall, hq, hsent⟩ | ⟨hother, _, _⟩
          · cases hcall
            rw [hsent, hq]
            rfl
          · cases hother

theorem receiveAll_counts {items : List Srb1Sent}
    (h : forall (k : Nat) s, items[k]? = some s -> HasCount c k s) :
    receiveAll receive 0 (items.map Srb1Sent.pdu) =
      some (List.range items.length) := by
  have hnext : forall (k r : Nat) s, r = k -> HasCount c k s ->
      exists count r', receive r s.pdu = some (count, r') ∧ count = k ∧
        r' = k + 1 := by
    intro k r s hr hs
    rw [hr, hs]
    exact ⟨k, k + 1, receive_srb1Pdu k s.key s.inner, rfl, rfl⟩
  have hitems : forall (i : Nat) s, items[i]? = some s ->
      HasCount c (0 + i) s := by
    intro i s hs
    rw [Nat.zero_add]
    exact h i s hs
  rcases receiveAll_numbered hnext rfl hitems with
    ⟨received, hreceived, hlen, hcounts⟩
  rw [hreceived]
  congr 1
  apply List.ext_getElem (hlen.trans List.length_range.symm)
  intro i hi hi'
  have hin : i < items.length := hlen ▸ hi
  have hcount := hcounts i _ _ (List.getElem?_eq_getElem hin)
    (List.getElem?_eq_getElem hi)
  rw [hcount, List.getElem_range, Nat.zero_add]

end PdcpTx

/-- What a stream of SRB1 PDUs has to be for an in-order receiver. -/
structure Srb1Recoverable (calls : List PdcpCall) (pdus : List Srb1Sent) :
    Prop where
  /-- There is one PDU for each call. -/
  forCalls : pdus.map (fun s => (s.key, s.inner)) = srb1Calls none calls
  counts : receiveAll PdcpTx.receive 0 (pdus.map Srb1Sent.pdu) =
    some (List.range pdus.length)
  inner : forall s, s ∈ pdus -> PdcpTx.viewInner s.pdu = Outcome.ok s.inner
  mac : forall (k : Nat) s, pdus[k]? = some s ->
    s.pdu.drop (s.pdu.length - 4) =
      PdcpTx.macField c s.key k (s.pdu.take 2 ++ s.inner)

/-- For every sequence of calls with fewer than 2^32 PDUs on SRB1, in which
security is enabled at any points: every call returns, the receiver finds the
count `k` for the PDU number `k` and takes out what was put in, the MAC is the
one for that count and the key of the time, and the calls for SRB0 leave the
state alone. -/
theorem srb1Stream_recoverable (c : Crypto) (overflowChecks : Bool)
    (calls : List PdcpCall)
    (hfew : calls.countP PdcpCall.isSrb1 < 4294967296) :
    (exists p, (PdcpTx.pdcpMachine c overflowChecks).run PdcpTx.default calls =
      some p) ∧
    Srb1Recoverable c calls
      ((PdcpTx.pdcpMachine c overflowChecks).outputs
        (PdcpTx.sent c overflowChecks) PdcpTx.default calls) ∧
    forall (p : PdcpTx) inner, exists pdu,
      PdcpTx.encode c overflowChecks 0 inner p = (Outcome.ok pdu, p) := by
  have hstart : PdcpTx.AtCount 0 PdcpTx.default := rfl
  have hreturns := PdcpTx.run_returns (c := c) overflowChecks hstart calls
    (by rw [Nat.zero_add]; exact hfew)
  have hcount : forall (k : Nat) s,
      ((PdcpTx.pdcpMachine c overflowChecks).outputs
        (PdcpTx.sent c overflowChecks) PdcpTx.default calls)[k]? = some s ->
      PdcpTx.HasCount c k s :=
    fun k s => Machine.outputs_numbered_always PdcpTx.hasCount_step hstart
  refine ⟨hreturns, ⟨?_, ?_, ?_, ?_⟩, ?_⟩
  · rcases hreturns with ⟨p, hrun⟩
    exact PdcpTx.outputs_calls hrun
  · exact PdcpTx.receiveAll_counts hcount
  · intro s hs
    rcases List.getElem?_of_mem hs with ⟨k, hk⟩
    rw [hcount k s hk]
    exact PdcpTx.viewInner_srb1Pdu _ s.inner
  · intro k s hk
    have hpdu := hcount k s hk
    unfold PdcpTx.HasCount at hpdu
    rw [hpdu]
    exact PdcpTx.mac_srb1Pdu k s.key s.inner
  · intro p inner
    exact ⟨_, PdcpTx.encode_srb0 overflowChecks inner p⟩

def lengthCrypto : Crypto where
  f1 _ _ _ _ _ := Vector.replicate 8 0
  f2345 _ _ _ :=
    ⟨Vector.replicate 8 0, Vector.replicate 16 0, Vector.replicate 16 0,
      Vector.replicate 6 0⟩
  hmacSha256 _ _ := Vector.replicate 32 0
  aesCmac _ data := Vector.replicate 16 (UInt8.ofNat data.length)

/-- One PDU before security is enabled and one after it. -/
def enabledBetween : List PdcpCall :=
  [PdcpCall.encodeSrb1 [1], PdcpCall.enableSecurity (Vector.replicate 16 7),
    PdcpCall.encodeSrb0 [2], PdcpCall.encodeSrb1 [3]]

theorem srb1Stream_recoverable_enabledBetween :
    enabledBetween.countP PdcpCall.isSrb1 < 4294967296 ∧
      Srb1Recoverable lengthCrypto enabledBetween
        ((PdcpTx.pdcpMachine lengthCrypto true).outputs
          (PdcpTx.sent lengthCrypto true) PdcpTx.default enabledBetween) :=
  ⟨by decide,
    (srb1Stream_recoverable lengthCrypto true enabledBetween
      (by decide)).right.left⟩

/-!
## NAS
-/

structure NasSent where
  nas : Nas5gsMessage
  bytes : Bytes
deriving DecidableEq, Repr

/-- How the codec encodes a protected message: two octets, the MAC, the sequence
number and the inner message. -/
def ProtectedLayout (codec : NasCodec) : Prop :=
  forall headerType mac sequenceNumber body bytes,
    codec.encode (Nas5gsMessage.securityProtected headerType mac sequenceNumber
      body) = some bytes ->
    exists epd type inner, codec.encode body = some inner ∧
      bytes = epd :: type :: (be32 mac ++ sequenceNumber :: inner)

/-- An in-order receiver of NAS messages.  `stored` is the count of the last
message; it returns the count of this one and the inner message. -/
def receiveNas (key : Key128) (stored : Nat) (bytes : Bytes) :
    Option ((Nat × Bytes) × Nat) :=
  match bytes.drop 6 with
  | [] => none
  | sequenceNumber :: inner =>
      let count := estimatedCount 256 stored sequenceNumber.toNat
      if NasVerifies c key (UInt32.ofNat count) bytes then
        some ((count, inner), count)
      else
        none

namespace NasContext

variable (codec : NasCodec)

def step (n : NasContext) (nas : Nas5gsMessage) : Option NasContext :=
  match encode c codec nas n with
  | (Outcome.panic, _) => none
  | (_, n') => some n'

def nasMachine : Machine NasContext Nas5gsMessage where
  step := step c codec

def sent (n : NasContext) (nas : Nas5gsMessage) (_ : NasContext) :
    List NasSent :=
  match encode c codec nas n with
  | (Outcome.ok bytes, _) => [⟨nas, bytes⟩]
  | _ => []

variable {c codec}

theorem encode_of_context {nas : Nas5gsMessage} {n : NasContext}
    {s : SecurityContext} (hn : n.securityContext = some s) :
    encode c codec nas n =
      ((SecurityContext.encodeWithIntegrity c codec nas s).1,
        ⟨some (SecurityContext.encodeWithIntegrity c codec nas s).2⟩) := by
  unfold encode
  rw [hn]

def AtCount (key : Key128) (k : Nat) (n : NasContext) : Prop :=
  n.securityContext = some ⟨key, UInt32.ofNat (k % 16777216)⟩

structure HasCount (c : Crypto) (codec : NasCodec) (key : Key128) (k : Nat)
    (s : NasSent) : Prop where
  verifies : NasVerifies c key (UInt32.ofNat (k % 16777216)) s.bytes
  carries : exists inner, codec.encode s.nas = some inner ∧
    s.bytes.drop 6 = UInt8.ofNat (k % 256) :: inner

theorem count_succ (k : Nat) :
    (UInt32.ofNat (k % 16777216) + 1) &&& 0xffffff =
      UInt32.ofNat ((k + 1) % 16777216) := by
  have hmask : (k % 16777216 + 1) % 4294967296 &&& 16777215 =
      (k % 16777216 + 1) % 4294967296 % 16777216 :=
    Nat.and_two_pow_sub_one_eq_mod _ 24
  apply UInt32.toNat_inj.mp
  simp [hmask]
  lia

theorem sequenceNumber_eq (k : Nat) :
    (UInt32.ofNat (k % 16777216) &&& 0xff).toUInt8 = UInt8.ofNat (k % 256) := by
  have hmask : k % 256 &&& 255 = k % 256 :=
    (Nat.and_two_pow_sub_one_eq_mod (k % 256) 8).trans (Nat.mod_mod k 256)
  apply UInt8.toNat_inj.mp
  simp [hmask]

theorem encodeWithIntegrity_ne_panic (hlayout : ProtectedLayout codec)
    (nas : Nas5gsMessage) (s : SecurityContext) :
    (SecurityContext.encodeWithIntegrity c codec nas s).1 ≠ Outcome.panic := by
  unfold SecurityContext.encodeWithIntegrity
  cases hbytes : codec.encode (Nas5gsMessage.securityProtected s.headerType 0
      (s.dlCount &&& 0xff).toUInt8 nas) with
  | none => exact Outcome.err_ne_panic
  | some nasBytes =>
      rcases hlayout _ _ _ _ _ hbytes with ⟨epd, type, inner, _, hparts⟩
      have hlong : ¬ nasBytes.length < 6 := by
        rw [hparts]
        simp
      simp only [if_neg hlong]
      exact Outcome.ok_ne_panic

theorem encode_atCount (hlayout : ProtectedLayout codec) {key : Key128}
    {k : Nat} {n : NasContext} (hn : AtCount key k n) (nas : Nas5gsMessage) :
    (exists bytes n', encode c codec nas n = (Outcome.ok bytes, n') ∧
      HasCount c codec key k ⟨nas, bytes⟩ ∧ AtCount key (k + 1) n') ∨
      exists e, encode c codec nas n = (Outcome.err e, n) := by
  have hsame : n = ⟨some ⟨key, UInt32.ofNat (k % 16777216)⟩⟩ :=
    congrArg NasContext.mk hn
  have hencode := @encode_of_context c codec nas n _ hn
  rcases SecurityContext.encodeWithIntegrity_cases c codec nas
      ⟨key, UInt32.ofNat (k % 16777216)⟩ with
    ⟨nasBytes, hbytes, hlong, hcase⟩ | ⟨e, hcase⟩ | hcase
  · rw [hcase] at hencode
    refine Or.inl ⟨_, _, hencode, ⟨?_, ?_⟩, ?_⟩
    · exact encodeWithIntegrity_verifies hcase
    · rcases hlayout _ _ _ _ _ hbytes with ⟨epd, type, inner, hinner, hparts⟩
      refine ⟨inner, hinner, ?_⟩
      rw [(patchMac_parts _ hlong).right, hparts, sequenceNumber_eq]
      rfl
    · change some _ = some _
      rw [SecurityContext.counted, count_succ]
  · rw [hcase, ← hsame] at hencode
    exact Or.inr ⟨e, hencode⟩
  · exact absurd (congrArg Prod.fst hcase)
      (encodeWithIntegrity_ne_panic hlayout nas _)

theorem hasCount_step (hlayout : ProtectedLayout codec) {key : Key128}
    (k : Nat) (n : NasContext) (nas : Nas5gsMessage) (n' : NasContext)
    (hn : AtCount key k n)
    (hstep : (nasMachine c codec).step n nas = some n') :
    (sent c codec n nas n' = [] ∧ AtCount key k n') ∨
      exists s, sent c codec n nas n' = [s] ∧ HasCount c codec key k s ∧
        AtCount key (k + 1) n' := by
  rcases encode_atCount (c := c) hlayout hn nas with
    ⟨bytes, m, hencode, hcount, hm⟩ | ⟨e, hencode⟩
  · simp only [nasMachine, step, hencode] at hstep
    cases hstep
    refine Or.inr ⟨_, ?_, hcount, hm⟩
    simp only [sent, hencode]
  · simp only [nasMachine, step, hencode] at hstep
    cases hstep
    refine Or.inl ⟨?_, hn⟩
    simp only [sent, hencode]

theorem run_returns (hlayout : ProtectedLayout codec) {key : Key128} {k : Nat}
    {n : NasContext} (hn : AtCount key k n) (messages : List Nas5gsMessage) :
    exists n', (nasMachine c codec).run n messages = some n' := by
  induction messages generalizing k n with
  | nil => exact ⟨n, rfl⟩
  | cons nas rest ih =>
      rcases encode_atCount (c := c) hlayout hn nas with
        ⟨bytes, m, hencode, _, hm⟩ | ⟨e, hencode⟩
      · have hstep : (nasMachine c codec).step n nas = some m := by
          simp only [nasMachine, step, hencode]
        rcases ih hm with ⟨n', hrun⟩
        exact ⟨n', (Machine.run_cons_of_step rest hstep).trans hrun⟩
      · have hstep : (nasMachine c codec).step n nas = some n := by
          simp only [nasMachine, step, hencode]
        rcases ih hn with ⟨n', hrun⟩
        exact ⟨n', (Machine.run_cons_of_step rest hstep).trans hrun⟩

theorem sent_length_le (n : NasContext) (nas : Nas5gsMessage)
    (n' : NasContext) : (sent c codec n nas n').length <= 1 := by
  unfold sent
  split
  · exact Nat.le_refl 1
  · exact Nat.zero_le 1

theorem receiveNas_hasCount {key : Key128} {k : Nat} (hk : k < 16777216)
    {s : NasSent} (h : HasCount c codec key k s) :
    exists inner, codec.encode s.nas = some inner ∧
      receiveNas c key (k - 1) s.bytes = some ((k, inner), k) := by
  rcases h.carries with ⟨inner, hinner, hdrop⟩
  have hsn : (UInt8.ofNat (k % 256)).toNat = k % 256 :=
    UInt8.toNat_ofNat_of_lt' (Nat.mod_lt k (by decide))
  have hcount : estimatedCount 256 (k - 1) (k % 256) = k := by
    cases k with
    | zero => exact estimatedCount_first 256
    | succ j => exact estimatedCount_next (by decide) j
  have hverifies := h.verifies
  rw [Nat.mod_eq_of_lt hk] at hverifies
  refine ⟨inner, hinner, ?_⟩
  unfold receiveNas
  rw [hdrop]
  simp only [hsn, hcount]
  exact if_pos hverifies

end NasContext

/-- What a stream of NAS messages has to be for an in-order receiver with the
key: it accepts them all, with count `k` for the message number `k`, and takes
out the inner messages. -/
def NasAccepted (codec : NasCodec) (key : Key128) (messages : List NasSent) :
    Prop :=
  exists received,
    receiveAll (receiveNas c key) 0 (messages.map NasSent.bytes) =
        some received ∧
      received.length = messages.length ∧
      forall (k : Nat) s r, messages[k]? = some s -> received[k]? = some r ->
        r.1 = k ∧ codec.encode s.nas = some r.2

theorem nasAccepted_of_hasCount {c : Crypto} {codec : NasCodec} {key : Key128}
    {messages : List NasSent} (hfew : messages.length <= 16777216)
    (h : forall (k : Nat) s, messages[k]? = some s ->
      NasContext.HasCount c codec key k s) :
    NasAccepted c codec key messages := by
  have hnext : forall k stored s, stored = k - 1 ->
      k < 16777216 ∧ NasContext.HasCount c codec key k s ->
      exists r stored',
        receiveNas c key stored s.bytes = some (r, stored') ∧
          (r.1 = k ∧ codec.encode s.nas = some r.2) ∧
          stored' = k + 1 - 1 := by
    intro k stored s hstored hs
    rcases NasContext.receiveNas_hasCount hs.left hs.right with
      ⟨inner, hinner, hreceive⟩
    rw [hstored]
    exact ⟨(k, inner), k, hreceive, ⟨rfl, hinner⟩, rfl⟩
  have hitems : forall (i : Nat) s, messages[i]? = some s ->
      0 + i < 16777216 ∧ NasContext.HasCount c codec key (0 + i) s := by
    intro i s hs
    rcases List.getElem?_eq_some_iff.mp hs with ⟨hlt, _⟩
    rw [Nat.zero_add]
    exact ⟨Nat.lt_of_lt_of_le hlt hfew, h i s hs⟩
  rcases receiveAll_numbered hnext rfl hitems with
    ⟨received, hreceived, hlen, hresults⟩
  refine ⟨received, hreceived, hlen, ?_⟩
  intro k s r hs hr
  have hresult := hresults k s r hs hr
  rw [Nat.zero_add] at hresult
  exact hresult

/-- For every codec with the layout of protected messages and fewer than 2^24
calls after security was enabled, some of which may fail: no call panics, the
receiver accepts the messages that were returned, with the counts 0, 1, 2 and so
on, and a call that fails leaves the context as it was. -/
theorem nasStream_accepted (c : Crypto) (codec : NasCodec)
    (hlayout : ProtectedLayout codec) (key : Key128)
    (messages : List Nas5gsMessage) (hfew : messages.length < 16777216) :
    (exists n, (NasContext.nasMachine c codec).run
      (NasContext.enableSecurity key) messages = some n) ∧
    NasAccepted c codec key
      ((NasContext.nasMachine c codec).outputs (NasContext.sent c codec)
        (NasContext.enableSecurity key) messages) ∧
    forall (n n' : NasContext) nas e,
      NasContext.encode c codec nas n = (Outcome.err e, n') -> n' = n := by
  have hstart : NasContext.AtCount key 0 (NasContext.enableSecurity key) := rfl
  refine ⟨NasContext.run_returns hlayout hstart messages, ?_, ?_⟩
  · apply nasAccepted_of_hasCount
    · exact Nat.le_trans
        (Machine.outputs_length_le _ NasContext.sent_length_le _ messages)
        (Nat.le_of_lt hfew)
    · intro k s
      exact Machine.outputs_numbered_always (NasContext.hasCount_step hlayout)
        hstart
  · intro n n' nas e h
    rcases NasContext.encode_cases c codec nas n with
      ⟨bytes, m, hcase⟩ | ⟨e', hcase⟩ | hcase
    · rw [hcase] at h
      cases h
    · rw [hcase] at h
      cases h
      rfl
    · rw [hcase] at h
      cases h

def layoutCodec : NasCodec where
  encode
    | Nas5gsMessage.securityProtected headerType mac sequenceNumber body =>
        match body with
        | Nas5gsMessage.gmm (Nas5gmmMessage.other bytes) =>
            some (0x7e :: (if headerType =
                Nas5gsSecurityHeaderType.integrityProtectedWithNewContext
              then 3 else 2) :: (be32 mac ++ sequenceNumber :: bytes))
        | _ => none
    | Nas5gsMessage.gmm (Nas5gmmMessage.other bytes) => some bytes
    | _ => none
  decode _ := none

theorem protectedLayout_layoutCodec : ProtectedLayout layoutCodec := by
  intro headerType mac sequenceNumber body bytes h
  cases body with
  | gmm message =>
      cases message with
      | other inner =>
          cases h
          exact ⟨_, _, inner, rfl, rfl⟩
      | _ => cases h
  | gsm _ _ => cases h
  | securityProtected _ _ _ _ => cases h

/-- The second of three messages cannot be encoded. -/
def threeMessages : List Nas5gsMessage :=
  [Nas5gsMessage.gmm (Nas5gmmMessage.other [0x7e, 0, 0x5d]),
    Nas5gsMessage.gmm Nas5gmmMessage.registrationComplete,
    Nas5gsMessage.gmm (Nas5gmmMessage.other [0x7e, 0, 0x42])]

theorem nasStream_accepted_threeMessages :
    ProtectedLayout layoutCodec ∧ threeMessages.length < 16777216 ∧
      ((NasContext.nasMachine lengthCrypto layoutCodec).outputs
        (NasContext.sent lengthCrypto layoutCodec)
        (NasContext.enableSecurity (Vector.replicate 16 7))
        threeMessages).length = 2 ∧
      NasAccepted lengthCrypto layoutCodec (Vector.replicate 16 7)
        ((NasContext.nasMachine lengthCrypto layoutCodec).outputs
          (NasContext.sent lengthCrypto layoutCodec)
          (NasContext.enableSecurity (Vector.replicate 16 7))
          threeMessages) := by
  have hfew : threeMessages.length < 16777216 := by decide
  exact ⟨protectedLayout_layoutCodec, hfew, by decide +kernel,
    (nasStream_accepted lengthCrypto layoutCodec protectedLayout_layoutCodec
      (Vector.replicate 16 7) threeMessages hfew).right.left⟩

end Security
end QCore
