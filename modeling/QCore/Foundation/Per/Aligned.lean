import QCore.Foundation.Per.Runtime

/-!
# A runtime that is lawful

The aligned variant of the packed encoding rules, without fragments.  It stands
for no code: it is here to show that the assumptions about a runtime can be met,
and to run examples.  An extension bit is always written as zero.
-/

namespace QCore
namespace Foundation
namespace Per
namespace Aligned

/-!
## Bits and octet boundaries
-/

def append (bits : Bits) : Encode :=
  Cmd.modify (· ++ bits)

def encodeAlign : Encode :=
  Cmd.modify fun data => data ++ zeros (padding data.length)

def takeBits (n : Nat) : Decode Bits := fun s =>
  if n <= s.rest.length then
    (Outcome.ok (s.rest.take n), ⟨s.offset + n, s.rest.drop n⟩)
  else
    (Outcome.err ⟨"Buffer too short", []⟩, s)

def skipBits (n : Nat) : Decode Unit := do
  let _bits <- takeBits n
  pure ()

def decodeAlign : Decode Unit := fun s => skipBits (padding s.offset) s

variable {α : Type}

theorem reads_takeBits {n : Nat} {bits : Bits} (h : bits.length = n)
    (phase : Nat) : Reads (takeBits n) phase bits bits := by
  intro offset rest _
  subst h
  unfold takeBits
  rw [if_pos (by rw [List.length_append]; lia)]
  simp

theorem takeBits_ok {n : Nat} {s t : Source} {bits : Bits}
    (h : takeBits n s = (Outcome.ok bits, t)) :
    bits.length = n ∧ t.offset + t.rest.length = s.offset + s.rest.length := by
  unfold takeBits at h
  split at h
  next hle =>
    cases h
    rw [List.length_take, List.length_drop]
    lia
  next => cases h

theorem safe_takeBits (n : Nat) : Safe (takeBits n) := by
  intro s hs
  constructor
  · unfold takeBits
    split
    · exact Outcome.ok_ne_panic
    · exact Outcome.err_ne_panic
  · intro bits t hrun
    unfold Source.Whole
    rw [(takeBits_ok hrun).right]
    exact hs

theorem safe_skipBits (n : Nat) : Safe (skipBits n) :=
  (safe_takeBits n).bind fun _ => safe_pure ()

theorem safe_decodeAlign : Safe decodeAlign := by
  intro s hs
  exact safe_skipBits (padding s.offset) s hs

theorem conveys_append {bits : Bits} {d : Decode α} {a : α}
    (h : forall phase, Reads d phase bits a) :
    Conveys (append bits) d a bits.length := by
  intro data
  exact ⟨bits, rfl, Nat.le_refl _, h data.length⟩

theorem reads_decodeAlign (phase : Nat) :
    Reads decodeAlign phase (zeros (padding phase)) () := by
  intro offset rest hoffset
  unfold decodeAlign
  rw [padding_congr hoffset]
  exact Reads.then (reads_takeBits (zeros_length _) offset) (fun _ => pure ())
    offset rest rfl

theorem conveys_align : Conveys encodeAlign decodeAlign () 7 := by
  intro data
  refine ⟨zeros (padding data.length), rfl, ?_, reads_decodeAlign data.length⟩
  rw [zeros_length]
  exact Nat.le_of_lt_succ (padding_lt data.length)

/-!
## Whole numbers
-/

def encodeField (n v : Nat) : Encode :=
  append (bitsOfNat n v)

def decodeField (n : Nat) : Decode Nat := do
  let bits <- takeBits n
  pure (natOfBits bits)

def bitsFor (top : Nat) : Nat :=
  if top = 0 then 0 else top.log2 + 1

def octetsFor (v : Nat) : Nat :=
  v.log2 / 8 + 1

/-- A number up to `top`: a bit field, one octet, two octets, or as many as it
needs after their number. -/
def encodeOffset (top v : Nat) : Encode :=
  if top < 255 then encodeField (bitsFor top) v
  else if top = 255 then do
    encodeAlign
    encodeField 8 v
  else if top < 65536 then do
    encodeAlign
    encodeField 16 v
  else do
    encodeField (bitsFor (octetsFor top - 1)) (octetsFor v - 1)
    encodeAlign
    encodeField (8 * octetsFor v) v

def decodeOffset (top : Nat) : Decode Nat :=
  if top < 255 then decodeField (bitsFor top)
  else if top = 255 then do
    decodeAlign
    decodeField 8
  else if top < 65536 then do
    decodeAlign
    decodeField 16
  else do
    let n <- decodeField (bitsFor (octetsFor top - 1))
    decodeAlign
    decodeField (8 * (n + 1))

theorem conveys_field {n v : Nat} (h : v < 2 ^ n) :
    Conveys (encodeField n v) (decodeField n) v n := by
  have hreads : forall phase,
      Reads (decodeField n) phase (bitsOfNat n v) v := by
    intro phase
    have hthen := Reads.then (reads_takeBits (bitsOfNat_length n v) phase)
      fun bits => pure (natOfBits bits)
    rw [natOfBits_bitsOfNat h] at hthen
    exact hthen
  exact Carries.mono (conveys_append hreads)
    (Nat.le_of_eq (bitsOfNat_length n v))

theorem safe_decodeField (n : Nat) : Safe (decodeField n) :=
  (safe_takeBits n).bind fun bits => safe_pure (natOfBits bits)

theorem lt_bitsFor {v top : Nat} (h : v <= top) : v < 2 ^ bitsFor top := by
  unfold bitsFor
  split
  next hzero =>
    rw [hzero] at h
    rw [Nat.le_zero.mp h]
    decide
  next hpos =>
    exact Nat.lt_of_le_of_lt h Nat.lt_log2_self

theorem lt_octetsFor (v : Nat) : v < 2 ^ (8 * octetsFor v) := by
  have hlog : v < 2 ^ (v.log2 + 1) := Nat.lt_log2_self
  refine Nat.lt_of_lt_of_le hlog (Nat.pow_le_pow_right (by decide) ?_)
  unfold octetsFor
  lia

theorem log2_mono {v w : Nat} (h : v <= w) : v.log2 <= w.log2 := by
  by_cases hv : v = 0
  · rw [hv]
    exact Nat.zero_le _
  · have hw : w ≠ 0 := by
      lia
    exact (Nat.le_log2 hw).mpr (Nat.le_trans (Nat.log2_self_le hv) h)

theorem octetsFor_mono {v w : Nat} (h : v <= w) :
    octetsFor v <= octetsFor w := by
  have hlog := log2_mono h
  unfold octetsFor
  lia

theorem octetsFor_le {v : Nat} (h : v < 4294967296) : octetsFor v <= 4 := by
  have hmax := octetsFor_mono (Nat.le_of_lt_succ h)
  exact Nat.le_trans hmax (by decide)

theorem bitsFor_le {top n : Nat} (h : top < 2 ^ n) : bitsFor top <= n := by
  unfold bitsFor
  split
  next => exact Nat.zero_le n
  next hpos => exact (Nat.log2_lt hpos).mpr h

theorem conveys_offset {top v : Nat} (hv : v <= top) (htop : top < 4294967296) :
    Conveys (encodeOffset top v) (decodeOffset top) v 48 := by
  unfold encodeOffset decodeOffset
  by_cases hsmall : top < 255
  · rw [if_pos hsmall, if_pos hsmall]
    have hbits : bitsFor top <= 8 := bitsFor_le (by lia)
    exact Carries.mono (conveys_field (lt_bitsFor hv)) (by lia)
  rw [if_neg hsmall, if_neg hsmall]
  by_cases hoctet : top = 255
  · rw [if_pos hoctet, if_pos hoctet]
    have hfield : v < 2 ^ 8 := by
      lia
    exact Carries.mono (Conveys.bind conveys_align (conveys_field hfield))
      (by decide)
  rw [if_neg hoctet, if_neg hoctet]
  by_cases htwo : top < 65536
  · rw [if_pos htwo, if_pos htwo]
    have hfield : v < 2 ^ 16 := by
      lia
    exact Carries.mono (Conveys.bind conveys_align (conveys_field hfield))
      (by decide)
  rw [if_neg htwo, if_neg htwo]
  have hone : 1 <= octetsFor v := by
    unfold octetsFor
    lia
  have hmono := octetsFor_mono hv
  have hfour := octetsFor_le htop
  have hcount : bitsFor (octetsFor top - 1) <= 2 := bitsFor_le (by lia)
  have hlast : Conveys (encodeField (8 * octetsFor v) v)
      (decodeField (8 * (octetsFor v - 1 + 1))) v (8 * octetsFor v) := by
    rw [Nat.sub_add_cancel hone]
    exact conveys_field (lt_octetsFor v)
  refine Carries.mono (Conveys.bind (conveys_field (lt_bitsFor ?_))
    (Conveys.bind conveys_align hlast)) ?_
  · lia
  · lia

theorem safe_decodeOffset (top : Nat) : Safe (decodeOffset top) := by
  unfold decodeOffset
  split
  · exact safe_decodeField _
  split
  · exact safe_decodeAlign.bind fun _ => safe_decodeField _
  split
  · exact safe_decodeAlign.bind fun _ => safe_decodeField _
  · apply (safe_decodeField _).bind
    intro n
    exact safe_decodeAlign.bind fun _ => safe_decodeField _

/-!
## Lengths
-/

def encodeLength (n : Nat) : Encode := do
  encodeAlign
  if n < 128 then
    encodeField 8 n
  else if n < 16384 then do
    encodeField 8 (128 + n / 256)
    encodeField 8 (n % 256)
  else
    refuse "Length needs fragments"

/-- The length of a first fragment is read as any other. -/
def decodeLength : Decode Nat := do
  decodeAlign
  let first <- decodeField 8
  if first < 128 then
    pure first
  else if first < 192 then do
    let second <- decodeField 8
    pure (256 * (first - 128) + second)
  else if 192 < first ∧ first <= 196 then
    pure (16384 * (first - 192))
  else
    refuse "Bad fragment length"

def encodeBounded : Option (Nat × Nat) -> Nat -> Encode
  | some (lb, ub), n =>
      if ub < 65536 then
        if lb <= n ∧ n <= ub then encodeOffset (ub - lb) (n - lb)
        else refuse "Length out of range"
      else encodeLength n
  | none, n => encodeLength n

def decodeBounded : Option (Nat × Nat) -> Decode Nat
  | some (lb, ub) =>
      if ub < 65536 then do
        let n <- decodeOffset (ub - lb)
        pure (lb + n)
      else decodeLength
  | none => decodeLength

theorem conveys_length {n : Nat} (h : n < 16384) :
    Conveys (encodeLength n) decodeLength n 24 := by
  refine Carries.mono (Conveys.bind conveys_align (?_ : Carries _ _ _ 16))
    (by decide)
  by_cases hshort : n < 128
  · rw [if_pos hshort]
    have hfield : n < 2 ^ 8 := by
      lia
    refine Carries.mono (Conveys.map (conveys_field hfield) ?_) (by decide)
    rw [if_pos hshort]
  · rw [if_neg hshort, if_pos h]
    have hfirst : 128 + n / 256 < 2 ^ 8 := by
      lia
    have hsecond : n % 256 < 2 ^ 8 := by
      lia
    refine Conveys.bind (conveys_field hfirst) (?_ : Carries _ _ _ 8)
    rw [if_neg (by lia), if_pos (by lia)]
    refine Conveys.map (conveys_field hsecond) ?_
    have hvalue : 256 * (128 + n / 256 - 128) + n % 256 = n := by
      lia
    rw [hvalue]

theorem safe_decodeLength : Safe decodeLength := by
  apply safe_decodeAlign.bind
  intro _
  apply (safe_decodeField 8).bind
  intro first
  split
  · exact safe_pure _
  split
  · exact (safe_decodeField 8).bind fun _ => safe_pure _
  split
  · exact safe_pure _
  · exact safe_refuse _

theorem endsAligned_align {m : Encode}
    (h : forall data data', m data = (Outcome.ok (), data') ->
      exists n, data'.length = data.length + 8 * n) :
    EndsAligned (do encodeAlign; m) := by
  intro data data' hrun
  rcases Cmd.bind_ok.mp hrun with ⟨_, middle, halign, hm⟩
  cases halign
  rcases h _ _ hm with ⟨n, hlength⟩
  have haligned := aligned_padding data.length
  rw [List.length_append, zeros_length] at hlength
  lia

theorem encodeField_length {n v : Nat} {data data' : Bits}
    (h : encodeField n v data = (Outcome.ok (), data')) :
    data'.length = data.length + n := by
  cases h
  rw [List.length_append, bitsOfNat_length]

theorem length_endsAligned (n : Nat) : EndsAligned (encodeLength n) := by
  apply endsAligned_align
  intro data data' hrun
  split at hrun
  · exact ⟨1, encodeField_length hrun⟩
  split at hrun
  · rcases Cmd.bind_ok.mp hrun with ⟨_, middle, hfirst, hsecond⟩
    refine ⟨2, ?_⟩
    rw [encodeField_length hsecond, encodeField_length hfirst]
  · cases hrun

theorem appends_append (bits : Bits) : Appends (append bits) := by
  intro data data' hrun
  cases hrun
  exact List.prefix_append data bits

theorem length_appends (n : Nat) : Appends (encodeLength n) := by
  apply conveys_align.appends.bind
  split
  · exact appends_append _
  split
  · exact (appends_append _).bind (appends_append _)
  · intro data data' hrun
    cases hrun

theorem conveys_bounded {lb ub n : Nat} (hlb : lb <= n) (hub : n <= ub)
    (h : ub < 65536) :
    Conveys (encodeBounded (some (lb, ub)) n) (decodeBounded (some (lb, ub))) n
      48 := by
  simp only [encodeBounded, decodeBounded, if_pos h, if_pos (And.intro hlb hub)]
  refine Conveys.map (conveys_offset (Nat.sub_le_sub_right hub lb) (by lia)) ?_
  rw [Nat.add_sub_cancel' hlb]

theorem bounded_ge (lb : Nat) {ub : Nat} (h : ub < 65536) :
    Yields (decodeBounded (some (lb, ub))) fun n => lb <= n := by
  simp only [decodeBounded, if_pos h]
  exact (yields_true _).bind fun n _ => yields_pure (Nat.le_add_right lb n)

theorem count_endsAligned (n : Nat) :
    EndsAligned (encodeBounded (some (0, 65535)) n) := by
  intro data data' hrun
  simp only [encodeBounded, show 65535 < 65536 from by decide, if_true] at hrun
  split at hrun
  · refine endsAligned_align ?_ data data' hrun
    intro middle last hlast
    exact ⟨2, encodeField_length hlast⟩
  · cases hrun

theorem safe_decodeBounded (bounds : Option (Nat × Nat)) :
    Safe (decodeBounded bounds) := by
  unfold decodeBounded
  split
  · split
    · exact (safe_decodeOffset _).bind fun n => safe_pure _
    · exact safe_decodeLength
  · exact safe_decodeLength

/-!
## Integers and indices
-/

def intOfBits : Bits -> Int
  | [] => 0
  | sign :: bits =>
      Int.subNatNat (natOfBits bits) (if sign then 2 ^ bits.length else 0)

def encodeExtended (extensible : Bool) : Encode :=
  if extensible then encodeField 1 0 else pure ()

def decodeExtended (extensible : Bool) : Decode Bool :=
  if extensible then do
    let bit <- decodeField 1
    pure (bit == 1)
  else
    pure false

def encodeInteger (lb ub : Nat) (extensible : Bool) (v : Nat) : Encode :=
  if lb <= v ∧ v <= ub then do
    encodeExtended extensible
    encodeOffset (ub - lb) (v - lb)
  else
    refuse "Integer out of range"

/-- An extended number has no bounds. -/
def decodeInteger (lb ub : Nat) (extensible : Bool) : Decode (Int × Bool) := do
  let extended <- decodeExtended extensible
  if extended then do
    let n <- decodeLength
    let bits <- takeBits (8 * n)
    pure (intOfBits bits, true)
  else do
    let v <- decodeOffset (ub - lb)
    pure (((lb + v : Nat) : Int), false)

/-- An extended index is a normally small number. -/
def decodeIndex (ub : Nat) (extensible : Bool) : Decode (Int × Bool) := do
  let extended <- decodeExtended extensible
  if extended then do
    let idx <- decodeField 7
    pure ((idx : Int), true)
  else do
    let idx <- decodeOffset ub
    pure ((idx : Int), false)

def encodeIndex (ub : Nat) (extensible : Bool) (idx : Nat) : Encode :=
  if idx <= ub then do
    encodeExtended extensible
    encodeOffset ub idx
  else
    refuse "Index out of range"

theorem conveys_extended (extensible : Bool) :
    Conveys (encodeExtended extensible) (decodeExtended extensible) false 1 := by
  cases extensible with
  | false => exact Carries.mono (carries_pure _) (by decide)
  | true => exact Conveys.map (conveys_field (by decide)) rfl

theorem safe_decodeExtended (extensible : Bool) :
    Safe (decodeExtended extensible) := by
  cases extensible with
  | false => exact safe_pure false
  | true => exact (safe_decodeField 1).bind fun bit => safe_pure (bit == 1)

theorem conveys_integer {lb ub v : Nat} (extensible : Bool) (hlb : lb <= v)
    (hub : v <= ub) (h : ub < 4294967296) :
    Conveys (encodeInteger lb ub extensible v)
      (decodeInteger lb ub extensible) ((v : Int), false) 64 := by
  unfold encodeInteger
  rw [if_pos ⟨hlb, hub⟩]
  refine Carries.mono (Conveys.bind (conveys_extended extensible)
    (?_ : Carries _ _ _ 48)) (by decide)
  refine Conveys.map (conveys_offset (Nat.sub_le_sub_right hub lb) (by lia)) ?_
  rw [Nat.add_sub_cancel' hlb]

theorem safe_decodeInteger (lb ub : Nat) (extensible : Bool) :
    Safe (decodeInteger lb ub extensible) := by
  apply (safe_decodeExtended extensible).bind
  intro extended
  split
  · apply safe_decodeLength.bind
    intro n
    exact (safe_takeBits _).bind fun bits => safe_pure _
  · exact (safe_decodeOffset _).bind fun v => safe_pure _

theorem integer_octet (v : UInt8) (data : Bits) :
    encodeInteger 0 255 false v.toNat data =
      (Outcome.ok (), data ++ (zeros (padding data.length) ++ bitsOfByte v)) := by
  have hlt : v.toNat <= 255 := Nat.le_of_lt_succ v.toNat_lt
  unfold encodeInteger
  rw [if_pos ⟨Nat.zero_le _, hlt⟩, ← List.append_assoc]
  rfl

theorem conveys_index {ub idx : Nat} (extensible : Bool) (hidx : idx <= ub)
    (hub : ub < 256) :
    Conveys (encodeIndex ub extensible idx) (decodeIndex ub extensible)
      ((idx : Int), false) 16 := by
  have hoffset : Conveys (encodeOffset ub idx) (decodeOffset ub) idx 15 := by
    unfold encodeOffset decodeOffset
    by_cases hsmall : ub < 255
    · rw [if_pos hsmall, if_pos hsmall]
      have hbits : bitsFor ub <= 8 := bitsFor_le (by lia)
      exact Carries.mono (conveys_field (lt_bitsFor hidx)) (by lia)
    · have hoctet : ub = 255 := by
        lia
      have hlt : idx < 2 ^ 8 := by
        lia
      rw [if_neg hsmall, if_neg hsmall, if_pos hoctet, if_pos hoctet]
      exact Carries.mono (Conveys.bind conveys_align (conveys_field hlt))
        (by decide)
  unfold encodeIndex
  rw [if_pos hidx]
  refine Carries.mono (Conveys.bind (conveys_extended extensible)
    (?_ : Carries _ _ _ 15)) (by decide)
  exact Conveys.map hoffset rfl

theorem safe_decodeIndex (ub : Nat) (extensible : Bool) :
    Safe (decodeIndex ub extensible) := by
  apply (safe_decodeExtended extensible).bind
  intro extended
  split
  · exact (safe_decodeField 7).bind fun idx => safe_pure _
  · exact (safe_decodeOffset ub).bind fun idx => safe_pure _

/-!
## Headers and strings
-/

def encodeHeader (extensible : Bool) (optionals : Bits) : Encode := do
  encodeExtended extensible
  append optionals

def decodeHeader (extensible : Bool) (n : Nat) : Decode (Bits × Bool) := do
  let extended <- decodeExtended extensible
  let optionals <- takeBits n
  pure (optionals, extended)

/-- Strings of more than two octets start at an octet boundary. -/
def encodeStart (octets : Nat) : Encode :=
  if octets <= 2 then pure () else encodeAlign

def decodeStart (octets : Nat) : Decode Unit :=
  if octets <= 2 then pure () else decodeAlign

def encodeOctetstring : Option Nat -> Bytes -> Encode
  | none, bytes => do
      encodeLength bytes.length
      append (bitsOfBytes bytes)
  | some n, bytes =>
      if bytes.length = n then do
        encodeStart n
        append (bitsOfBytes bytes)
      else
        refuse "Wrong size"

def decodeOctets (n : Nat) : Decode Bytes := do
  let bits <- takeBits (8 * n)
  pure (octets bits)

def decodeOctetstring : Option Nat -> Decode Bytes
  | none => do
      let n <- decodeLength
      decodeOctets n
  | some n => do
      decodeStart n
      decodeOctets n

def encodeBitstring (n : Nat) (bits : Bits) : Encode :=
  if bits.length = n then do
    encodeStart ((n + 7) / 8)
    append bits
  else
    refuse "Wrong size"

def decodeBitstring (n : Nat) : Decode Bits := do
  decodeStart ((n + 7) / 8)
  takeBits n

theorem conveys_header (extensible : Bool) (optionals : Bits) :
    Conveys (encodeHeader extensible optionals)
      (decodeHeader extensible optionals.length) (optionals, false)
      (1 + optionals.length) := by
  apply Conveys.bind (conveys_extended extensible)
  exact Conveys.map (conveys_append (reads_takeBits rfl)) rfl

theorem safe_decodeHeader (extensible : Bool) (n : Nat) :
    Safe (decodeHeader extensible n) := by
  apply (safe_decodeExtended extensible).bind
  intro extended
  exact (safe_takeBits n).bind fun optionals => safe_pure _

theorem yields_takeBits (n : Nat) :
    Yields (takeBits n) fun bits => bits.length = n := by
  intro s bits t hrun
  exact (takeBits_ok hrun).left

theorem header_length (extensible : Bool) (n : Nat) :
    Yields (decodeHeader extensible n) fun header => header.1.length = n :=
  (yields_true _).bind fun _ _ =>
    (yields_takeBits n).bind fun _ h => yields_pure h

theorem conveys_start (octets : Nat) :
    Conveys (encodeStart octets) (decodeStart octets) () 8 := by
  unfold encodeStart decodeStart
  split
  · exact Carries.mono (carries_pure _) (by decide)
  · exact Carries.mono conveys_align (by decide)

theorem safe_decodeStart (octets : Nat) : Safe (decodeStart octets) := by
  unfold decodeStart
  split
  · exact safe_pure ()
  · exact safe_decodeAlign

theorem conveys_octets (bytes : Bytes) :
    Conveys (append (bitsOfBytes bytes)) (decodeOctets bytes.length) bytes
      (8 * bytes.length) := by
  have htake := conveys_append (reads_takeBits (bitsOfBytes_length bytes))
  rw [bitsOfBytes_length] at htake
  refine Conveys.map htake ?_
  rw [octets_bitsOfBytes]

theorem safe_decodeOctets (n : Nat) : Safe (decodeOctets n) :=
  (safe_takeBits (8 * n)).bind fun bits => safe_pure (octets bits)

theorem conveys_octetstring {bytes : Bytes} (h : bytes.length < 16384) :
    Conveys (encodeOctetstring none bytes) (decodeOctetstring none) bytes
      (32 + 8 * bytes.length) :=
  Carries.mono (Conveys.bind (conveys_length h) (conveys_octets bytes)) (by lia)

theorem conveys_sizedOctetstring (bytes : Bytes) :
    Conveys (encodeOctetstring (some bytes.length) bytes)
      (decodeOctetstring (some bytes.length)) bytes (8 + 8 * bytes.length) := by
  simp only [encodeOctetstring, if_true]
  exact Conveys.bind (conveys_start bytes.length) (conveys_octets bytes)

theorem sizedOctetstring_length (n : Nat) :
    Yields (decodeOctetstring (some n)) fun bytes => bytes.length = n :=
  (yields_true _).bind fun _ _ => (yields_takeBits (8 * n)).bind fun _ h =>
    yields_pure (octets_length h)

theorem safe_decodeOctetstring (size : Option Nat) :
    Safe (decodeOctetstring size) := by
  cases size with
  | none => exact safe_decodeLength.bind fun n => safe_decodeOctets n
  | some n => exact (safe_decodeStart n).bind fun _ => safe_decodeOctets n

theorem conveys_bitstring (bits : Bits) :
    Conveys (encodeBitstring bits.length bits) (decodeBitstring bits.length) bits
      (8 + bits.length) := by
  simp only [encodeBitstring, if_true]
  exact Conveys.bind (conveys_start _) (conveys_append (reads_takeBits rfl))

theorem safe_decodeBitstring (n : Nat) : Safe (decodeBitstring n) :=
  (safe_decodeStart _).bind fun _ => safe_takeBits n

/-!
## The runtime
-/

def appendAligned (other data : Bits) : Bits :=
  data ++ (zeros (padding data.length) ++
    (other ++ zeros (padding other.length)))

def intoBytes (bits : Bits) : Bytes :=
  octets (bits ++ zeros (padding bits.length))

def runtime : Runtime where
  encodeInteger := encodeInteger
  decodeInteger := decodeInteger
  encodeEnumerated := encodeIndex
  decodeEnumerated := decodeIndex
  encodeChoiceIdx ub := encodeIndex ub false
  decodeChoiceIdx ub := decodeIndex ub false
  encodeSequenceHeader := encodeHeader
  decodeSequenceHeader := decodeHeader
  encodeLengthDeterminent := encodeBounded
  decodeLengthDeterminent := decodeBounded
  encodeOctetstring := encodeOctetstring
  decodeOctetstring := decodeOctetstring
  encodeBitstring := encodeBitstring
  decodeBitstring := decodeBitstring
  decodeAlign := decodeAlign
  advanceMaybeErr := skipBits
  appendAligned := appendAligned
  lengthInBytes bits := (bits.length + 7) / 8
  intoBytes := intoBytes

theorem appendAligned_of_aligned {data : Bits} (other : Bits)
    (h : data.length % 8 = 0) :
    appendAligned other data =
      data ++ (other ++ zeros (padding other.length)) := by
  unfold appendAligned
  rw [padding_of_aligned h]
  rfl

theorem bitsOfBytes_intoBytes (bits : Bits) :
    bitsOfBytes (intoBytes bits) = bits ++ zeros (padding bits.length) := by
  have hlength : (bits ++ zeros (padding bits.length)).length =
      8 * ((bits.length + padding bits.length) / 8) := by
    have haligned := aligned_padding bits.length
    rw [List.length_append, zeros_length]
    lia
  exact bitsOfBytes_octets hlength

theorem runtime_lawful : runtime.Lawful where
  integer _ _ extensible _ hlb hub h := conveys_integer extensible hlb hub h
  octet := integer_octet
  enumerated _ extensible _ hv hub := conveys_index extensible hv hub
  choiceIdx _ _ hidx hub := conveys_index false hidx hub
  choiceOfFour idx data h := by
    change encodeIndex 3 false idx data = _
    unfold encodeIndex
    rw [if_pos h]
    rfl
  sequenceHeader := conveys_header
  sequenceHeader_length := header_length
  length _ := conveys_length
  length_endsAligned := length_endsAligned
  length_appends := length_appends
  boundedLength _ _ _ hlb hub h := conveys_bounded hlb hub h
  boundedLength_ge lb _ h := bounded_ge lb h
  count_endsAligned := count_endsAligned
  octetstring _ := conveys_octetstring
  sizedOctetstring bytes _ := conveys_sizedOctetstring bytes
  sizedOctetstring_length := sizedOctetstring_length
  bitstring bits _ := conveys_bitstring bits
  align := reads_decodeAlign
  appendAligned other _ h := appendAligned_of_aligned other h
  appendAligned_appends _ data := List.prefix_append data _
  lengthInBytes _ := Nat.le_refl _
  intoBytes bits := ⟨_, bitsOfBytes_intoBytes bits⟩

theorem runtime_quiet : runtime.Quiet where
  integer := safe_decodeInteger
  enumerated := safe_decodeIndex
  choiceIdx ub := safe_decodeIndex ub false
  sequenceHeader := safe_decodeHeader
  length := safe_decodeBounded
  octetstring := safe_decodeOctetstring
  bitstring := safe_decodeBitstring
  align := safe_decodeAlign
  advance := safe_skipBits

end Aligned
end Per
end Foundation
end QCore
