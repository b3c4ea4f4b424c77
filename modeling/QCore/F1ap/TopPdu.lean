import QCore.Foundation.Bytes
import QCore.Foundation.Outcome
import QCore.Stack.Transactions

/-!
# The outer layer of F1AP decoding

`F1apPdu::from_bytes` reads the choice index, the procedure code, the criticality
and a length, and goes on with the decoder of the message type that the code
names.  In aligned PER the index is in the top two bits of the first octet, the
other six bits are padding that is skipped, and the code is the second octet.
What comes after these two octets is left to a codec.

`Stack::request` does not decode a message to see whether it is the response it
waits for; it looks at the same two octets.  The last section compares the two.
-/

namespace QCore
namespace F1ap

open Foundation
open Stack

inductive PduKind where
  | initiatingMessage
  | successfulOutcome
  | unsuccessfulOutcome
deriving DecidableEq, Repr

inductive PerCodecError where
  -- The data ends too early.
  | outOfData
  -- An error of the codec, with its text.
  | codec (text : String)
  -- "Unrecognised IE type {id}"
  | unrecognisedIeType (id : Nat)
  -- "Unrecognised procedure code {code}"
  | unrecognisedProcedureCode (code : UInt8)
deriving DecidableEq, Repr

/-- The procedure codes that the decoder of an alternative has a branch for. -/
def PduKind.codes : PduKind -> List UInt8
  | PduKind.initiatingMessage =>
      [0, 1, 3, 4, 5, 6, 7, 8, 20, 21, 2, 10, 11, 12, 13, 15, 16, 17, 18, 19,
        27, 22, 23, 24, 25, 26, 28, 29, 30, 31, 32, 33, 34, 35, 36, 37, 38, 58,
        57, 39, 40, 42, 43, 41, 44, 45, 46, 47, 48, 49, 50, 51, 52, 53, 54, 55,
        56]
  | PduKind.successfulOutcome =>
      [0, 1, 3, 4, 5, 6, 7, 8, 20, 21, 16, 26, 32, 33, 34, 35, 36, 41, 48, 49,
        50, 52]
  | PduKind.unsuccessfulOutcome =>
      [1, 3, 4, 5, 7, 8, 26, 32, 33, 34, 35, 36, 41, 48, 49, 50, 52]

/-- What the generated code calls after the procedure code: the criticality and
the length determinant, and the decoder of each message type. -/
structure TopCodec (contents : Type) where
  skipCriticalityAndLength : Bytes -> Outcome PerCodecError Bytes
  decodeContents : PduKind -> UInt8 -> Bytes -> Outcome PerCodecError contents

structure TopPdu (contents : Type) where
  kind : PduKind
  code : UInt8
  contents : contents

namespace TopPdu

variable {contents : Type}

/-- `decode_inner` of `InitiatingMessage`, `SuccessfulOutcome` and
`UnsuccessfulOutcome`. -/
def decodeKind (codec : TopCodec contents) (kind : PduKind) :
    Bytes -> Outcome PerCodecError (TopPdu contents)
  | [] => Outcome.err PerCodecError.outOfData
  | id :: data => do
      let body <- codec.skipCriticalityAndLength data
      if id ∈ kind.codes then do
        let message <- codec.decodeContents kind id body
        pure ⟨kind, id, message⟩
      else
        Outcome.err (PerCodecError.unrecognisedProcedureCode id)

/-- The extension of the choice is read and always refused. -/
def refuseExtension (codec : TopCodec contents) :
    Bytes -> Outcome PerCodecError (TopPdu contents)
  | high :: low :: data => do
      let _ <- codec.skipCriticalityAndLength data
      Outcome.err
        (PerCodecError.unrecognisedIeType (high.toNat * 256 + low.toNat))
  | _ => Outcome.err PerCodecError.outOfData

/-- `decode_choice_idx`; the padding bits are not looked at. -/
def choiceIdx (first : UInt8) : UInt8 :=
  first >>> 6

/-- `F1apPdu::from_bytes` -/
def fromBytes (codec : TopCodec contents) :
    Bytes -> Outcome PerCodecError (TopPdu contents)
  | [] => Outcome.err PerCodecError.outOfData
  | first :: data =>
      if choiceIdx first = 0 then
        decodeKind codec PduKind.initiatingMessage data
      else if choiceIdx first = 1 then
        decodeKind codec PduKind.successfulOutcome data
      else if choiceIdx first = 2 then
        decodeKind codec PduKind.unsuccessfulOutcome data
      else
        refuseExtension codec data

def IsResponse (pdu : TopPdu contents) (code : UInt8) : Prop :=
  (pdu.kind = PduKind.successfulOutcome ∨
    pdu.kind = PduKind.unsuccessfulOutcome) ∧ pdu.code = code

/-!
## What was decoded stands in the first two octets
-/

theorem choiceIdx_eq_zero_iff {first : UInt8} :
    choiceIdx first = 0 <-> first < 0x40 := by
  unfold choiceIdx
  rw [← UInt8.toNat_inj, UInt8.lt_iff_toNat_lt, UInt8.toNat_shiftRight,
    Nat.shiftRight_eq_div_pow]
  change first.toNat / 64 = 0 <-> first.toNat < 64
  lia

theorem decodeKind_ok {codec : TopCodec contents} {kind : PduKind}
    {data : Bytes} {pdu : TopPdu contents}
    (h : decodeKind codec kind data = Outcome.ok pdu) :
    pdu.kind = kind ∧ exists rest, data = pdu.code :: rest := by
  cases data with
  | nil => cases h
  | cons id data =>
      rcases Outcome.bind_eq_ok.mp h with ⟨body, _, hmatch⟩
      by_cases hid : id ∈ kind.codes
      · rw [if_pos hid] at hmatch
        rcases Outcome.bind_eq_ok.mp hmatch with ⟨message, _, hpdu⟩
        cases hpdu
        exact ⟨rfl, data, rfl⟩
      · rw [if_neg hid] at hmatch
        cases hmatch

theorem refuseExtension_ne_ok {codec : TopCodec contents} {data : Bytes}
    {pdu : TopPdu contents} : refuseExtension codec data ≠ Outcome.ok pdu := by
  intro h
  match data with
  | [] => cases h
  | [_] => cases h
  | high :: low :: data =>
      rcases Outcome.bind_eq_ok.mp h with ⟨body, _, hrefused⟩
      cases hrefused

theorem fromBytes_ok {codec : TopCodec contents} {m : Bytes}
    {pdu : TopPdu contents} (h : fromBytes codec m = Outcome.ok pdu) :
    exists first rest, m = first :: pdu.code :: rest ∧
      (pdu.kind = PduKind.initiatingMessage <-> first < 0x40) := by
  cases m with
  | nil => cases h
  | cons first data =>
      rw [fromBytes] at h
      have hkinds : exists kind, decodeKind codec kind data = Outcome.ok pdu ∧
          (kind = PduKind.initiatingMessage <-> choiceIdx first = 0) := by
        by_cases hzero : choiceIdx first = 0
        · rw [if_pos hzero] at h
          exact ⟨_, h, iff_of_true rfl hzero⟩
        · rw [if_neg hzero] at h
          split at h
          · exact ⟨_, h, iff_of_false PduKind.noConfusion hzero⟩
          · split at h
            · exact ⟨_, h, iff_of_false PduKind.noConfusion hzero⟩
            · exact absurd h refuseExtension_ne_ok
      rcases hkinds with ⟨kind, hdecode, hkind⟩
      rcases decodeKind_ok hdecode with ⟨heq, rest, hdata⟩
      rw [hdata]
      rw [← heq, choiceIdx_eq_zero_iff] at hkind
      exact ⟨first, rest, rfl, hkind⟩

theorem isResponse_iff {pdu : TopPdu contents} {code : UInt8} :
    pdu.IsResponse code <->
      pdu.kind ≠ PduKind.initiatingMessage ∧ pdu.code = code := by
  unfold IsResponse
  cases pdu.kind with
  | initiatingMessage => simp
  | successfulOutcome => simp
  | unsuccessfulOutcome => simp

/-!
## The test of `Stack::request`
-/

theorem matchFn_true_iff {code first second : UInt8} {rest : Bytes} :
    (matchFn code (first :: second :: rest) : Outcome Empty Bool) =
        Outcome.ok true <-> first ≠ 0 ∧ second = code := by
  unfold matchFn
  by_cases hfirst : first = 0
  · simp [hfirst]
  · simp [hfirst]

/-- The test on two octets and the decoder agree on what is a response. -/
def TestAgrees (pdu : TopPdu contents) (m : Message) (code : UInt8) : Prop :=
  (matchFn code m : Outcome Empty Bool) = Outcome.ok true <->
    pdu.IsResponse code

/-- For every message that decodes and every procedure code: the test agrees with
the decoder unless the message is a request with this code and padding bits that
are not all zero. -/
theorem testAgrees_iff (codec : TopCodec contents) (m : Message)
    (pdu : TopPdu contents) (code : UInt8)
    (h : fromBytes codec m = Outcome.ok pdu) :
    pdu.TestAgrees m code <->
      ¬ exists first rest, m = first :: code :: rest ∧
        first ≠ 0 ∧ first < 0x40 := by
  rcases fromBytes_ok h with ⟨first, rest, hm, hkind⟩
  have hpadded : (exists first' rest', m = first' :: code :: rest' ∧
      first' ≠ 0 ∧ first' < 0x40) <->
        first ≠ 0 ∧ pdu.code = code ∧ first < 0x40 := by
    rw [hm]
    constructor
    · intro hex
      rcases hex with ⟨first', rest', heq, hne, hlt⟩
      cases heq
      exact ⟨hne, rfl, hlt⟩
    · intro hand
      rcases hand with ⟨hne, hcode, hlt⟩
      rw [hcode]
      exact ⟨first, rest, rfl, hne, hlt⟩
  unfold TestAgrees
  rw [hpadded, isResponse_iff, ne_eq, hkind, hm, matchFn_true_iff]
  by_cases hfirst : first = 0
  · simp [hfirst]
  · by_cases hlt : first < 0x40
    · simp [hfirst, hlt]
    · simp [hfirst, hlt]

/-!
## F1 removal
-/

def skipTwoOctets : Bytes -> Outcome PerCodecError Bytes
  | _criticality :: _length :: body => Outcome.ok body
  | _ => Outcome.err PerCodecError.outOfData

def removalTransactionId : Bytes -> Outcome PerCodecError UInt8
  | [0, 0, 1, 0, 78, _, 2, 0, transactionId] => Outcome.ok transactionId
  | _ => Outcome.err (PerCodecError.codec "not one transaction id")

def removalCodec : TopCodec UInt8 where
  skipCriticalityAndLength := skipTwoOctets
  decodeContents _ _ := removalTransactionId

theorem testAgrees_iff_response :
    fromBytes removalCodec [0x40, 26, 0, 9, 0, 0, 1, 0, 78, 0, 2, 0, 5] =
        Outcome.ok ⟨PduKind.successfulOutcome, 26, 5⟩ ∧
      (TestAgrees (⟨PduKind.successfulOutcome, 26, 5⟩ : TopPdu UInt8)
        [0x40, 26, 0, 9, 0, 0, 1, 0, 78, 0, 2, 0, 5] 26 <->
          ¬ exists first rest,
            ([0x40, 26, 0, 9, 0, 0, 1, 0, 78, 0, 2, 0, 5] : Message) =
              first :: 26 :: rest ∧ first ≠ 0 ∧ first < 0x40) :=
  ⟨rfl, testAgrees_iff removalCodec _ _ 26 rfl⟩

/-- The removal request of a DU, with one padding bit set, for the code of a
pending request. -/
theorem not_testAgrees_paddedRequest :
    exists pdu : TopPdu UInt8,
      fromBytes removalCodec [0x01, 26, 0, 9, 0, 0, 1, 0, 78, 0, 2, 0, 5] =
        Outcome.ok pdu ∧
      fromBytes removalCodec [0x00, 26, 0, 9, 0, 0, 1, 0, 78, 0, 2, 0, 5] =
        Outcome.ok pdu ∧
      pdu.kind = PduKind.initiatingMessage ∧
      (matchFn 26 [0x01, 26, 0, 9, 0, 0, 1, 0, 78, 0, 2, 0, 5] :
        Outcome Empty Bool) = Outcome.ok true ∧
      ¬ pdu.TestAgrees [0x01, 26, 0, 9, 0, 0, 1, 0, 78, 0, 2, 0, 5] 26 := by
  refine ⟨⟨PduKind.initiatingMessage, 26, 5⟩, rfl, rfl, rfl, rfl, ?_⟩
  intro hagrees
  exact (isResponse_iff.mp (hagrees.mp rfl)).left rfl

end TopPdu
end F1ap
end QCore
