import QCore.Foundation.Per.Bits

/-!
# The runtime of generated code

Code that is generated from ASN.1 calls a runtime for whole numbers, lengths,
strings, indices and sequence headers.  A `Runtime` has these functions, with
the arguments that such code varies.  It is a parameter: what is assumed about
it is said by `Runtime.Lawful`, one field for each function, and by
`Runtime.Quiet`, which is about panics and is assumed apart.

A bound on the size of a message has to come from somewhere, so the laws bound
what a function appends.  The bounds are generous.
-/

namespace QCore
namespace Foundation
namespace Per

/-- The functions of the runtime.  Bounds are given where there are any; what is
encoded is never extended, and a length is never a normally small one. -/
structure Runtime where
  encodeInteger : (lb ub : Nat) -> (extensible : Bool) -> Nat -> Encode
  decodeInteger : (lb ub : Nat) -> (extensible : Bool) -> Decode (Int × Bool)
  encodeEnumerated : (ub : Nat) -> (extensible : Bool) -> Nat -> Encode
  decodeEnumerated : (ub : Nat) -> (extensible : Bool) -> Decode (Int × Bool)
  encodeChoiceIdx : (ub : Nat) -> Nat -> Encode
  decodeChoiceIdx : (ub : Nat) -> Decode (Int × Bool)
  encodeSequenceHeader : (extensible : Bool) -> (optionals : Bits) -> Encode
  decodeSequenceHeader : (extensible : Bool) -> (optionals : Nat) ->
    Decode (Bits × Bool)
  encodeLengthDeterminent : (bounds : Option (Nat × Nat)) -> Nat -> Encode
  decodeLengthDeterminent : (bounds : Option (Nat × Nat)) -> Decode Nat
  encodeOctetstring : (size : Option Nat) -> Bytes -> Encode
  decodeOctetstring : (size : Option Nat) -> Decode Bytes
  encodeBitstring : (size : Nat) -> Bits -> Encode
  decodeBitstring : (size : Nat) -> Decode Bits
  decodeAlign : Decode Unit
  advanceMaybeErr : (bits : Nat) -> Decode Unit
  appendAligned : (other data : Bits) -> Bits
  lengthInBytes : Bits -> Nat
  intoBytes : Bits -> Bytes

namespace Runtime

/-- What is assumed about encoders, and about decoders of what was encoded.  A
length below 16384 is one that is sent without fragments. -/
structure Lawful (R : Runtime) : Prop where
  integer : forall (lb ub : Nat) (extensible : Bool) (v : Nat),
    lb <= v -> v <= ub -> ub < 4294967296 ->
      Conveys (R.encodeInteger lb ub extensible v)
        (R.decodeInteger lb ub extensible) ((v : Int), false) 64
  /-- A number up to 255 is an octet at an octet boundary. -/
  octet : forall (v : UInt8) (data : Bits),
    R.encodeInteger 0 255 false v.toNat data =
      (Outcome.ok (), data ++ (zeros (padding data.length) ++ bitsOfByte v))
  enumerated : forall (ub : Nat) (extensible : Bool) (v : Nat),
    v <= ub -> ub < 256 ->
      Conveys (R.encodeEnumerated ub extensible v)
        (R.decodeEnumerated ub extensible) ((v : Int), false) 16
  choiceIdx : forall ub idx : Nat, idx <= ub -> ub < 256 ->
    Conveys (R.encodeChoiceIdx ub idx) (R.decodeChoiceIdx ub)
      ((idx : Int), false) 16
  /-- The index of one in four alternatives takes two bits. -/
  choiceOfFour : forall (idx : Nat) (data : Bits), idx <= 3 ->
    R.encodeChoiceIdx 3 idx data = (Outcome.ok (), data ++ bitsOfNat 2 idx)
  sequenceHeader : forall (extensible : Bool) (optionals : Bits),
    Conveys (R.encodeSequenceHeader extensible optionals)
      (R.decodeSequenceHeader extensible optionals.length)
      (optionals, false) (1 + optionals.length)
  sequenceHeader_length : forall (extensible : Bool) (n : Nat),
    Yields (R.decodeSequenceHeader extensible n) fun header =>
      header.1.length = n
  length : forall n : Nat, n < 16384 ->
    Conveys (R.encodeLengthDeterminent none n)
      (R.decodeLengthDeterminent none) n 24
  length_endsAligned : forall n : Nat,
    EndsAligned (R.encodeLengthDeterminent none n)
  length_appends : forall n : Nat, Appends (R.encodeLengthDeterminent none n)
  boundedLength : forall lb ub n : Nat, lb <= n -> n <= ub -> ub < 65536 ->
    Conveys (R.encodeLengthDeterminent (some (lb, ub)) n)
      (R.decodeLengthDeterminent (some (lb, ub))) n 48
  /-- A length with an upper bound of 65536 or more is read as one without
  bounds, so the lower bound says nothing there. -/
  boundedLength_ge : forall lb ub : Nat, ub < 65536 ->
    Yields (R.decodeLengthDeterminent (some (lb, ub))) fun n => lb <= n
  count_endsAligned : forall n : Nat,
    EndsAligned (R.encodeLengthDeterminent (some (0, 65535)) n)
  octetstring : forall bytes : Bytes, bytes.length < 16384 ->
    Conveys (R.encodeOctetstring none bytes) (R.decodeOctetstring none) bytes
      (32 + 8 * bytes.length)
  sizedOctetstring : forall bytes : Bytes, bytes.length < 65536 ->
    Conveys (R.encodeOctetstring (some bytes.length) bytes)
      (R.decodeOctetstring (some bytes.length)) bytes (8 + 8 * bytes.length)
  sizedOctetstring_length : forall n : Nat,
    Yields (R.decodeOctetstring (some n)) fun bytes => bytes.length = n
  bitstring : forall bits : Bits, bits.length < 65536 ->
    Conveys (R.encodeBitstring bits.length bits)
      (R.decodeBitstring bits.length) bits (8 + bits.length)
  align : forall phase : Nat,
    Reads R.decodeAlign phase (zeros (padding phase)) ()
  appendAligned : forall other data : Bits, data.length % 8 = 0 ->
    R.appendAligned other data =
      data ++ (other ++ zeros (padding other.length))
  appendAligned_appends : forall other data : Bits,
    data <+: R.appendAligned other data
  lengthInBytes : forall bits : Bits,
    R.lengthInBytes bits <= (bits.length + 7) / 8
  intoBytes : forall bits : Bits, exists pad,
    bitsOfBytes (R.intoBytes bits) = bits ++ pad

/-- The decoders of the runtime do not panic on whole octets. -/
structure Quiet (R : Runtime) : Prop where
  integer : forall lb ub extensible, Safe (R.decodeInteger lb ub extensible)
  enumerated : forall ub extensible, Safe (R.decodeEnumerated ub extensible)
  choiceIdx : forall ub, Safe (R.decodeChoiceIdx ub)
  sequenceHeader : forall extensible n,
    Safe (R.decodeSequenceHeader extensible n)
  length : forall bounds, Safe (R.decodeLengthDeterminent bounds)
  octetstring : forall size, Safe (R.decodeOctetstring size)
  bitstring : forall size, Safe (R.decodeBitstring size)
  align : Safe R.decodeAlign
  advance : forall bits, Safe (R.advanceMaybeErr bits)

/-- `append_aligned`, which does not fail. -/
def append (R : Runtime) (other : Bits) : Encode :=
  Cmd.modify (R.appendAligned other)

/-- `into_bytes` -/
def encoded (R : Runtime) (m : Encode) : Outcome PerCodecError Bytes :=
  match m [] with
  | (Outcome.ok _, bits) => Outcome.ok (R.intoBytes bits)
  | (Outcome.err e, _) => Outcome.err e
  | (Outcome.panic, _) => Outcome.panic

theorem encoded_ok {R : Runtime} {m : Encode} {bytes : Bytes} :
    R.encoded m = Outcome.ok bytes <->
      exists bits, m [] = (Outcome.ok (), bits) ∧ R.intoBytes bits = bytes := by
  unfold encoded
  cases m [] with
  | mk out bits =>
      cases out with
      | ok u => simp
      | err e => simp
      | panic => simp

end Runtime

variable {α : Type}

theorem bitsOfBytes_append (bytes bytes' : Bytes) :
    bitsOfBytes (bytes ++ bytes') = bitsOfBytes bytes ++ bitsOfBytes bytes' :=
  List.flatMap_append

/-- A message that is carried is encoded, and what the decoder of the octets
returns is up to the decoder that it goes on as. -/
theorem Carries.encoded {R : Runtime} (hR : R.Lawful) {m : Encode}
    {d d' : Decode α} {n : Nat} (h : Carries m d d' n) :
    exists bytes, R.encoded m = Outcome.ok bytes ∧
      forall more, exists s, fromBytes d (bytes ++ more) = (d' s).1 := by
  rcases h [] with ⟨bits, hrun, _, hleads⟩
  rcases hR.intoBytes bits with ⟨pad, hbytes⟩
  rw [List.nil_append] at hrun
  refine ⟨R.intoBytes bits, Runtime.encoded_ok.mpr ⟨bits, hrun, rfl⟩, ?_⟩
  intro more
  unfold fromBytes
  rw [bitsOfBytes_append, hbytes, List.append_assoc, hleads 0 _ rfl]
  exact ⟨_, rfl⟩

theorem Conveys.encoded {R : Runtime} (hR : R.Lawful) {m : Encode}
    {d : Decode α} {a : α} {n : Nat} (h : Conveys m d a n) :
    exists bytes, R.encoded m = Outcome.ok bytes ∧
      forall more, fromBytes d (bytes ++ more) = Outcome.ok a := by
  rcases Carries.encoded hR h with ⟨bytes, hbytes, hdecode⟩
  refine ⟨bytes, hbytes, fun more => ?_⟩
  rcases hdecode more with ⟨_, hread⟩
  exact hread

end Per
end Foundation
end QCore
