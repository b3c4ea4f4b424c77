import QCore.F1ap.TopPdu
import QCore.F1ap.WireMessages

/-!
# The codec of F1AP PDUs

`F1apPdu` on the wire: a choice of three kinds of messages, a procedure code, a
criticality, a length, and the message that kind and code determine.

The messages of `tableOf` are modelled with all their elements.  The other ones
are a parameter, `OtherMessages`, and nothing is assumed about their code.
-/

namespace QCore
namespace F1ap
namespace Codec

open Foundation
open Foundation.Per
open Stack

/-!
## Message types
-/

structure MessageTable (R : Runtime) where
  Ie : Type
  [decEq : DecidableEq Ie]
  container : Container R Ie
  name : String
  criticality : Criticality

attribute [instance] MessageTable.decEq

def tableOf (R : Runtime) (kind : PduKind) (code : UInt8) :
    Option (MessageTable R) :=
  match kind, code.toNat with
  | PduKind.initiatingMessage, 6 =>
      some ⟨_, releaseCommand R, "UeContextReleaseCommand", Criticality.reject⟩
  | PduKind.initiatingMessage, 10 =>
      some ⟨_, releaseRequest R, "UeContextReleaseRequest", Criticality.ignore⟩
  | PduKind.initiatingMessage, 11 =>
      some ⟨_, initialUl R, "InitialUlRrcMessageTransfer", Criticality.ignore⟩
  | PduKind.initiatingMessage, 12 =>
      some ⟨_, dl R, "DlRrcMessageTransfer", Criticality.ignore⟩
  | PduKind.initiatingMessage, 13 =>
      some ⟨_, ul R, "UlRrcMessageTransfer", Criticality.ignore⟩
  | PduKind.initiatingMessage, 26 =>
      some ⟨_, removalRequest R, "F1RemovalRequest", Criticality.reject⟩
  | PduKind.successfulOutcome, 6 =>
      some ⟨_, releaseComplete R, "UeContextReleaseComplete",
        Criticality.reject⟩
  | PduKind.successfulOutcome, 26 =>
      some ⟨_, removalResponse R, "F1RemovalResponse", Criticality.reject⟩
  | PduKind.unsuccessfulOutcome, 26 =>
      some ⟨_, removalFailure R, "F1RemovalFailure", Criticality.reject⟩
  | _, _ => none

/-- The messages that are not modelled here.  Their code may do anything, also
panic. -/
structure OtherMessages (other : Type) where
  encode : PduKind -> UInt8 -> other -> Encode
  decode : PduKind -> UInt8 -> Decode other
  criticality : PduKind -> UInt8 -> Criticality

/-- What chooses a message type: the kind of a PDU, and one of the procedure
codes that its decoder has a branch for. -/
structure Key where
  kind : PduKind
  code : UInt8
  known : code ∈ kind.codes
deriving DecidableEq

namespace Key

def find (kind : PduKind) (id : Int) : Option Key :=
  (kind.codes.attach.find? fun code => (code.1.toNat : Int) == id).map
    fun code => ⟨kind, code.1, code.2⟩

theorem find_code (k : Key) : find k.kind k.code.toNat = some k := by
  unfold find
  cases hfind : k.kind.codes.attach.find? fun code =>
      (code.1.toNat : Int) == k.code.toNat with
  | none =>
      have hall := List.find?_eq_none.mp hfind ⟨k.code, k.known⟩
        (List.mem_attach _ _)
      simp at hall
  | some code =>
      have hsame := List.find?_some hfind
      simp only [beq_iff_eq, Int.natCast_inj] at hsame
      have hcode : code.1 = k.code := UInt8.toNat_inj.mp hsame
      simp only [Option.map_some, hcode]

end Key

variable {R : Runtime} {other : Type}

def Contents (other : Type) : Option (MessageTable R) -> Type
  | some t => t.container.Message
  | none => other

/-- A PDU has the message that its key chooses, and no other one. -/
abbrev Pdu (R : Runtime) (other : Type) : Type :=
  Sigma fun k : Key => Contents other (tableOf R k.kind k.code)

section Contents

variable (others : OtherMessages other) (k : Key)

def encodeContents : (t : Option (MessageTable R)) -> Contents other t -> Encode
  | some t, m => inContext t.name (t.container.message.encode m)
  | none, m => others.encode k.kind k.code m

def decodeContents : (t : Option (MessageTable R)) -> Decode (Contents other t)
  | some t => inContext t.name t.container.message.decode
  | none => others.decode k.kind k.code

def criticalityOf : Option (MessageTable R) -> Criticality
  | some t => t.criticality
  | none => others.criticality k.kind k.code

end Contents

/-- One of the modelled messages, with values in their ranges and less than 16384
octets. -/
def ContentsValid : (t : Option (MessageTable R)) -> Contents other t -> Prop
  | some t, m => t.container.message.valid m
  | none, _ => False

def Pdu.Valid (p : Pdu R other) : Prop :=
  ContentsValid (tableOf R p.1.kind p.1.code) p.2

/-!
## PDUs
-/

def kindIdx : PduKind -> Nat
  | PduKind.initiatingMessage => 0
  | PduKind.successfulOutcome => 1
  | PduKind.unsuccessfulOutcome => 2

def kindName : PduKind -> String
  | PduKind.initiatingMessage => "InitiatingMessage"
  | PduKind.successfulOutcome => "SuccessfulOutcome"
  | PduKind.unsuccessfulOutcome => "UnsuccessfulOutcome"

def kindCodec (R : Runtime) : PerCodec R PduKind :=
  choice R 3 kindIdx fun
    | 0 => PerCodec.constant PduKind.initiatingMessage
    | 1 => PerCodec.constant PduKind.successfulOutcome
    | 2 => PerCodec.constant PduKind.unsuccessfulOutcome
    | 3 => refusedExtension R
    | _ => unknownChoice R

theorem kindCodec_valid (kind : PduKind) : (kindCodec R).valid kind := by
  refine ⟨?_, by decide, ?_⟩
  · cases kind <;> decide
  · cases kind <;> rfl

def decodeCode (R : Runtime) (kind : PduKind) : Decode Key := do
  let id <- R.decodeInteger 0 255 false
  let _criticality <- (Criticality.codec R).decode
  let _length <- R.decodeLengthDeterminent none
  match Key.find kind id.1 with
  | some k => pure k
  | none => refuse ("Unrecognised procedure code " ++ toString id.1)

/-- `InitiatingMessage`, `SuccessfulOutcome` and `UnsuccessfulOutcome` -/
def encodeKind (others : OtherMessages other) (p : Pdu R other) : Encode :=
  inContext (kindName p.1.kind) do
    R.encodeInteger 0 255 false p.1.code.toNat
    (Criticality.codec R).encode
      (criticalityOf others p.1 (tableOf R p.1.kind p.1.code))
    let container <- fresh
      (encodeContents others p.1 (tableOf R p.1.kind p.1.code) p.2)
    encodeBoxed R (R.lengthInBytes container) container

def decodeKind (others : OtherMessages other) (kind : PduKind) :
    Decode (Pdu R other) :=
  inContext (kindName kind) do
    let k <- decodeCode R kind
    let m <- decodeContents others k (tableOf R k.kind k.code)
    pure ⟨k, m⟩

def encodePdu (others : OtherMessages other) (p : Pdu R other) : Encode :=
  inContext "F1apPdu" do
    (kindCodec R).encode p.1.kind
    encodeKind others p

def decodePdu (others : OtherMessages other) : Decode (Pdu R other) :=
  inContext "F1apPdu" do
    let kind <- (kindCodec R).decode
    decodeKind others kind

/-- `F1apPdu::into_bytes` -/
def intoBytes (others : OtherMessages other) (p : Pdu R other) :
    Outcome Per.PerCodecError Bytes :=
  R.encoded (encodePdu others p)

/-- `F1apPdu::from_bytes` -/
def fromBytes (others : OtherMessages other) (bytes : Bytes) :
    Outcome Per.PerCodecError (Pdu R other) :=
  Per.fromBytes (decodePdu others) bytes

/-!
## Decoding what was encoded
-/

theorem carries_kind (hR : R.Lawful) (others : OtherMessages other) (k : Key)
    (criticality : Criticality) {m : Encode} {contents : Bits} {claim : Bits -> Nat}
    {d : Decode (Contents other (tableOf R k.kind k.code))} {n : Nat}
    (hm : m [] = (Outcome.ok (), contents)) (hclaim : claim contents < 16384)
    (hsize : contents.length <= n) (haligned : contents.length % 8 = 0)
    (h : Leads (decodeContents others k (tableOf R k.kind k.code)) 0 contents
      d) :
    Carries (do
        R.encodeInteger 0 255 false k.code.toNat
        (Criticality.codec R).encode criticality
        let container <- fresh m
        encodeBoxed R (claim container) container)
      (decodeKind others k.kind)
      (inContext (kindName k.kind) (do
        let v <- d
        pure ⟨k, v⟩)) (104 + n) := by
  have hcode : k.code.toNat <= 255 := Nat.le_of_lt_succ k.code.toNat_lt
  have hboxed := carries_boxed hR hclaim hsize haligned
    (h.bind fun v => (pure ⟨k, v⟩ : Decode (Pdu R other)))
  apply Carries.readInContext
  unfold decodeCode
  simp only [Cmd.bind_assoc]
  refine Carries.mono (Conveys.bind (hR.integer 0 255 false k.code.toNat
    (Nat.zero_le _) hcode (by decide)) (Conveys.bind
      ((Criticality.codec R).conveys hR criticality (Criticality.valid criticality))
      (Carries.fresh hm (n := 24 + n) ?_))) ?_
  · simp only [Key.find_code]
    exact hboxed
  · change 64 + (16 + (24 + n)) <= 104 + n
    lia

theorem carries_pdu (hR : R.Lawful) {others : OtherMessages other}
    {kind : PduKind} {m : Encode} {d : Decode (Pdu R other)} {n : Nat}
    (h : Carries m (decodeKind others kind) d n) :
    Carries (do
        (kindCodec R).encode kind
        m)
      (decodePdu others) (inContext "F1apPdu" d) (16 + n) := by
  have hsize : (kindCodec R).size kind = 16 := by
    cases kind <;> rfl
  have hkind := (kindCodec R).conveys hR kind (kindCodec_valid kind)
  rw [hsize] at hkind
  exact Carries.readInContext (Conveys.bind hkind h) "F1apPdu"

end Codec
end F1ap
end QCore
