import Mathlib.Algebra.Group.Nat.Defs
import Mathlib.Data.List.Induction
import QCore.Foundation.Bytes
import QCore.Foundation.Outcome

/-!
# Bits that are written and read in order

An encoder appends bits to a buffer and a decoder reads them from an offset on.
Both may skip to the next octet boundary, so where a decoder stands modulo eight
matters, and nothing else of its offset.

Three rules are the basis of what is said about codecs.  `Carries` relates an
encoder to the decoder that comes to what it writes.  `Safe` is about a decoder
alone: on whole octets it does not panic.  `Yields` is about what it returns.
-/

namespace QCore
namespace Foundation
namespace Per

abbrev Bits : Type := List Bool

/-!
## Numbers and octets
-/

/-- The low bits of a number, the most significant one first. -/
def bitsOfNat : Nat -> Nat -> Bits
  | 0, _ => []
  | n + 1, v => bitsOfNat n (v / 2) ++ [v % 2 == 1]

def natOfBits (bits : Bits) : Nat :=
  bits.foldl (fun n b => 2 * n + b.toNat) 0

@[simp] theorem bitsOfNat_length (n v : Nat) : (bitsOfNat n v).length = n := by
  induction n generalizing v with
  | zero => rfl
  | succ n ih => simp [bitsOfNat, ih]

theorem natOfBits_concat (bits : Bits) (b : Bool) :
    natOfBits (bits ++ [b]) = 2 * natOfBits bits + b.toNat := by
  simp [natOfBits]

theorem natOfBits_bitsOfNat {n v : Nat} (h : v < 2 ^ n) :
    natOfBits (bitsOfNat n v) = v := by
  induction n generalizing v with
  | zero =>
      have hzero : v = 0 := by
        lia
      rw [hzero]
      rfl
  | succ n ih =>
      have hhigh : v / 2 < 2 ^ n := by
        rw [Nat.pow_succ] at h
        lia
      have hlow : (v % 2 == 1).toNat = v % 2 := by
        rcases Nat.mod_two_eq_zero_or_one v with hmod | hmod
        · simp [hmod]
        · simp [hmod]
      rw [bitsOfNat, natOfBits_concat, ih hhigh, hlow]
      lia

theorem natOfBits_lt (bits : Bits) : natOfBits bits < 2 ^ bits.length := by
  induction bits using List.reverseRecOn with
  | nil => exact Nat.one_pos
  | append_singleton bits b ih =>
      rw [natOfBits_concat, List.length_append, List.length_singleton,
        Nat.pow_succ]
      have hb : b.toNat <= 1 := Bool.toNat_le b
      lia

theorem bitsOfNat_natOfBits (bits : Bits) :
    bitsOfNat bits.length (natOfBits bits) = bits := by
  induction bits using List.reverseRecOn with
  | nil => rfl
  | append_singleton bits b ih =>
      have hb : b.toNat <= 1 := Bool.toNat_le b
      have hhigh : (2 * natOfBits bits + b.toNat) / 2 = natOfBits bits := by
        lia
      have hlow : ((2 * natOfBits bits + b.toNat) % 2 == 1) = b := by
        cases b with
        | false => simp
        | true => simp [Nat.add_mod]
      rw [natOfBits_concat, List.length_append, List.length_singleton,
        bitsOfNat, hhigh, ih, hlow]

def bitsOfByte (b : UInt8) : Bits :=
  bitsOfNat 8 b.toNat

def bitsOfBytes (bytes : Bytes) : Bits :=
  bytes.flatMap bitsOfByte

def octets : Bits -> Bytes
  | b7 :: b6 :: b5 :: b4 :: b3 :: b2 :: b1 :: b0 :: rest =>
      UInt8.ofNat (natOfBits [b7, b6, b5, b4, b3, b2, b1, b0]) :: octets rest
  | _ => []

theorem bitsOfBytes_length (bytes : Bytes) :
    (bitsOfBytes bytes).length = 8 * bytes.length := by
  induction bytes with
  | nil => rfl
  | cons b bytes ih =>
      rw [bitsOfBytes, List.flatMap_cons, List.length_append]
      change (bitsOfNat 8 b.toNat).length + (bitsOfBytes bytes).length = _
      rw [ih, bitsOfNat_length, List.length_cons]
      lia

theorem octets_append {front : Bits} (h : front.length = 8) (rest : Bits) :
    octets (front ++ rest) = UInt8.ofNat (natOfBits front) :: octets rest := by
  match front, h with
  | [_, _, _, _, _, _, _, _], _ => rfl

theorem octets_bitsOfBytes (bytes : Bytes) :
    octets (bitsOfBytes bytes) = bytes := by
  induction bytes with
  | nil => rfl
  | cons b bytes ih =>
      have hb : b.toNat < 2 ^ 8 := b.toNat_lt
      rw [bitsOfBytes, List.flatMap_cons, bitsOfByte,
        octets_append (bitsOfNat_length 8 b.toNat), natOfBits_bitsOfNat hb,
        UInt8.ofNat_toNat]
      exact congrArg (b :: ·) ih

theorem octets_length {n : Nat} {bits : Bits} (h : bits.length = 8 * n) :
    (octets bits).length = n := by
  induction n generalizing bits with
  | zero =>
      have hnil : bits = [] := List.length_eq_zero_iff.mp h
      rw [hnil]
      rfl
  | succ n ih =>
      rw [← List.take_append_drop 8 bits,
        octets_append (by rw [List.length_take]; lia), List.length_cons,
        ih (by rw [List.length_drop]; lia)]

theorem bitsOfBytes_octets {n : Nat} {bits : Bits} (h : bits.length = 8 * n) :
    bitsOfBytes (octets bits) = bits := by
  induction n generalizing bits with
  | zero =>
      have hnil : bits = [] := List.length_eq_zero_iff.mp h
      rw [hnil]
      rfl
  | succ n ih =>
      have hfront : (bits.take 8).length = 8 := by
        rw [List.length_take]
        lia
      have hbyte : bitsOfByte (UInt8.ofNat (natOfBits (bits.take 8))) =
          bits.take 8 := by
        have hlt : natOfBits (bits.take 8) < 256 := by
          have hbound := natOfBits_lt (bits.take 8)
          rw [hfront] at hbound
          exact hbound
        have hinverse := bitsOfNat_natOfBits (bits.take 8)
        rw [hfront] at hinverse
        rw [bitsOfByte, UInt8.toNat_ofNat_of_lt' hlt, hinverse]
      have hrest := @ih (bits.drop 8) (by rw [List.length_drop]; lia)
      rw [← List.take_append_drop 8 bits, octets_append hfront, bitsOfBytes,
        List.flatMap_cons, hbyte]
      exact congrArg (bits.take 8 ++ ·) hrest

/-!
## Encoders and decoders
-/

/-- An error, with the names of the types that were being coded, the innermost
one first. -/
structure PerCodecError where
  text : String
  context : List String
deriving DecidableEq, Repr

/-- What is left to read, and how many bits came before it. -/
structure Source where
  offset : Nat
  rest : Bits
deriving DecidableEq, Repr

abbrev Encode : Type := Cmd Bits PerCodecError Unit

abbrev Decode (α : Type) : Type := Cmd Source PerCodecError α

def refuse {σ α : Type} (text : String) : Cmd σ PerCodecError α :=
  Cmd.bail ⟨text, []⟩

/-- `map_err` with `push_context`. -/
def inContext {σ α : Type} (name : String) (m : Cmd σ PerCodecError α) :
    Cmd σ PerCodecError α := fun s =>
  match m s with
  | (Outcome.err e, s') =>
      (Outcome.err { e with context := e.context ++ [name] }, s')
  | result => result

def padding (offset : Nat) : Nat :=
  (8 - offset % 8) % 8

def zeros (n : Nat) : Bits :=
  List.replicate n false

def fresh {σ : Type} (m : Encode) : Cmd σ PerCodecError Bits := fun s =>
  match m [] with
  | (Outcome.ok _, bits) => (Outcome.ok bits, s)
  | (Outcome.err e, _) => (Outcome.err e, s)
  | (Outcome.panic, _) => (Outcome.panic, s)

/-- `from_bytes`; what is left over is not looked at. -/
def fromBytes {α : Type} (m : Decode α) (bytes : Bytes) :
    Outcome PerCodecError α :=
  (m ⟨0, bitsOfBytes bytes⟩).1

theorem padding_congr {offset phase : Nat} (h : offset % 8 = phase % 8) :
    padding offset = padding phase := by
  unfold padding
  rw [h]

theorem padding_of_aligned {n : Nat} (h : n % 8 = 0) : padding n = 0 := by
  unfold padding
  lia

theorem aligned_padding (n : Nat) : (n + padding n) % 8 = 0 := by
  unfold padding
  lia

theorem padding_lt (n : Nat) : padding n < 8 := by
  unfold padding
  lia

@[simp] theorem zeros_length (n : Nat) : (zeros n).length = n :=
  List.length_replicate

/-!
## What a decoder consumes
-/

variable {α β : Type}

/-- At every offset of this phase the decoder consumes these bits, whatever
comes after them, and goes on as another one, which may fail. -/
def Leads (d : Decode α) (phase : Nat) (bits : Bits) (d' : Decode α) : Prop :=
  forall offset rest, offset % 8 = phase % 8 ->
    d ⟨offset, bits ++ rest⟩ = d' ⟨offset + bits.length, rest⟩

abbrev Reads (d : Decode α) (phase : Nat) (bits : Bits) (a : α) : Prop :=
  Leads d phase bits (pure a)

theorem leads_refl (d : Decode α) (phase : Nat) : Leads d phase [] d := by
  intro offset rest _
  rfl

theorem Leads.congr {d d' : Decode α} {phase phase' : Nat} {bits : Bits}
    (h : Leads d phase bits d') (hphase : phase' % 8 = phase % 8) :
    Leads d phase' bits d' := by
  intro offset rest hoffset
  exact h offset rest (hoffset.trans hphase)

theorem Leads.bind {d d' : Decode α} {phase : Nat} {bits : Bits}
    (h : Leads d phase bits d') (f : α -> Decode β) :
    Leads (d >>= f) phase bits (d' >>= f) := by
  intro offset rest hoffset
  rw [Cmd.bind_run, Cmd.bind_run, h offset rest hoffset]

theorem Leads.trans {d d' d'' : Decode α} {phase : Nat} {bits bits' : Bits}
    (h : Leads d phase bits d')
    (h' : Leads d' (phase + bits.length) bits' d'') :
    Leads d phase (bits ++ bits') d'' := by
  intro offset rest hoffset
  have hnext : (offset + bits.length) % 8 = (phase + bits.length) % 8 := by
    lia
  rw [List.append_assoc, h offset (bits' ++ rest) hoffset,
    h' (offset + bits.length) rest hnext, List.length_append, Nat.add_assoc]

theorem Reads.then {d : Decode α} {phase : Nat} {bits : Bits} {a : α}
    (h : Reads d phase bits a) (f : α -> Decode β) :
    Leads (d >>= f) phase bits (f a) :=
  h.bind f

theorem Reads.bind {d : Decode α} {f : α -> Decode β} {d' : Decode β}
    {phase : Nat} {bits bits' : Bits} {a : α} (h : Reads d phase bits a)
    (h' : Leads (f a) (phase + bits.length) bits' d') :
    Leads (d >>= f) phase (bits ++ bits') d' :=
  (Reads.then h f).trans h'

theorem Leads.inContext {d d' : Decode α} {phase : Nat} {bits : Bits}
    (h : Leads d phase bits d') (name : String) :
    Leads (Per.inContext name d) phase bits (Per.inContext name d') := by
  intro offset rest hoffset
  unfold Per.inContext
  rw [h offset rest hoffset]

theorem inContext_ok {σ : Type} {m : Cmd σ PerCodecError α} {name : String}
    {s t : σ} {a : α} :
    inContext name m s = (Outcome.ok a, t) <-> m s = (Outcome.ok a, t) := by
  unfold inContext
  cases m s with
  | mk out t' =>
      cases out with
      | ok b => exact Iff.rfl
      | err e => simp
      | panic => exact Iff.rfl

theorem inContext_panic {σ : Type} {m : Cmd σ PerCodecError α} {name : String}
    {s : σ} :
    (inContext name m s).1 = Outcome.panic <-> (m s).1 = Outcome.panic := by
  unfold inContext
  cases m s with
  | mk out t =>
      cases out with
      | ok a => exact Iff.rfl
      | err e => simp
      | panic => exact Iff.rfl

/-!
## Decoding what was encoded
-/

/-- The encoder appends at most `n` bits to any buffer, and the decoder that
comes to them goes on as `d'`. -/
def Carries (m : Encode) (d d' : Decode α) (n : Nat) : Prop :=
  forall data, exists bits, m data = (Outcome.ok (), data ++ bits) ∧
    bits.length <= n ∧ Leads d data.length bits d'

abbrev Conveys (m : Encode) (d : Decode α) (a : α) (n : Nat) : Prop :=
  Carries m d (pure a) n

theorem carries_pure (d : Decode α) : Carries (pure ()) d d 0 := by
  intro data
  exact ⟨[], by rw [List.append_nil]; rfl, Nat.le_refl 0, leads_refl d _⟩

theorem Carries.mono {m : Encode} {d d' : Decode α} {n n' : Nat}
    (h : Carries m d d' n) (hle : n <= n') : Carries m d d' n' := by
  intro data
  rcases h data with ⟨bits, hrun, hlength, hleads⟩
  exact ⟨bits, hrun, Nat.le_trans hlength hle, hleads⟩

theorem Conveys.bind {m m' : Encode} {d : Decode α} {f : α -> Decode β}
    {d' : Decode β} {a : α} {n n' : Nat} (h : Conveys m d a n)
    (h' : Carries m' (f a) d' n') :
    Carries (m >>= fun _ => m') (d >>= f) d' (n + n') := by
  intro data
  rcases h data with ⟨bits, hrun, hlength, hreads⟩
  rcases h' (data ++ bits) with ⟨bits', hrun', hlength', hleads⟩
  refine ⟨bits ++ bits', ?_, ?_, ?_⟩
  · rw [Cmd.bind_run, hrun]
    change m' (data ++ bits) = _
    rw [hrun', List.append_assoc]
  · rw [List.length_append]
    lia
  · rw [List.length_append] at hleads
    exact Reads.bind hreads hleads

theorem Carries.then {m : Encode} {d d' : Decode α} {n : Nat}
    (h : Carries m d d' n) (f : α -> Decode β) :
    Carries m (d >>= f) (d' >>= f) n := by
  intro data
  rcases h data with ⟨bits, hrun, hlength, hleads⟩
  exact ⟨bits, hrun, hlength, hleads.bind f⟩

theorem Conveys.map {m : Encode} {d : Decode α} {f : α -> Decode β} {a : α}
    {b : β} {n : Nat} (h : Conveys m d a n) (hf : f a = pure b) :
    Conveys m (d >>= f) b n := by
  have hthen := Carries.then h f
  change Carries m (d >>= f) (f a) n at hthen
  rw [hf] at hthen
  exact hthen

theorem Carries.readInContext {m : Encode} {d d' : Decode α} {n : Nat}
    (h : Carries m d d' n) (name : String) :
    Carries m (Per.inContext name d) (Per.inContext name d') n := by
  intro data
  rcases h data with ⟨bits, hrun, hlength, hleads⟩
  exact ⟨bits, hrun, hlength, hleads.inContext name⟩

theorem Carries.writeInContext {m : Encode} {d d' : Decode α} {n : Nat}
    (h : Carries m d d' n) (name : String) :
    Carries (Per.inContext name m) d d' n := by
  intro data
  rcases h data with ⟨bits, hrun, hlength, hleads⟩
  exact ⟨bits, inContext_ok.mpr hrun, hlength, hleads⟩

theorem Conveys.inContext {m : Encode} {d : Decode α} {a : α} {n : Nat}
    (h : Conveys m d a n) (name : String) :
    Conveys (Per.inContext name m) (Per.inContext name d) a n :=
  (Carries.readInContext h name).writeInContext name

/-!
## Octet boundaries
-/

def EndsAligned (m : Encode) : Prop :=
  forall data data', m data = (Outcome.ok (), data') -> data'.length % 8 = 0

theorem EndsAligned.after {m m' : Encode} (h : EndsAligned m') :
    EndsAligned (m >>= fun _ => m') := by
  intro data data' hrun
  rcases Cmd.bind_ok.mp hrun with ⟨_, middle, _, hm'⟩
  exact h middle data' hm'

def Appends (m : Encode) : Prop :=
  forall data data', m data = (Outcome.ok (), data') -> data <+: data'

theorem Appends.bind {m m' : Encode} (h : Appends m) (h' : Appends m') :
    Appends (m >>= fun _ => m') := by
  intro data data' hrun
  rcases Cmd.bind_ok.mp hrun with ⟨_, middle, hm, hm'⟩
  exact (h data middle hm).trans (h' middle data' hm')

theorem Carries.appends {m : Encode} {d d' : Decode α} {n : Nat}
    (h : Carries m d d' n) : Appends m := by
  intro data data' hrun
  rcases h data with ⟨bits, hbits, _, _⟩
  rw [hbits] at hrun
  cases hrun
  exact List.prefix_append data bits

theorem fresh_ok {σ : Type} {m : Encode} {s t : σ} {bits : Bits} :
    fresh m s = (Outcome.ok bits, t) <-> m [] = (Outcome.ok (), bits) ∧ t = s := by
  unfold fresh
  cases m [] with
  | mk out data =>
      cases out with
      | ok u =>
          constructor
          · intro h
            cases h
            exact ⟨rfl, rfl⟩
          · rintro ⟨h, rfl⟩
            cases h
            rfl
      | err e => simp
      | panic => simp

/-!
## Decoders alone
-/

def Source.Whole (s : Source) : Prop :=
  (s.offset + s.rest.length) % 8 = 0

/-- On whole octets the decoder does not panic, and leaves whole octets. -/
def Safe (d : Decode α) : Prop :=
  forall s : Source, s.Whole -> (d s).1 ≠ Outcome.panic ∧
    forall a t, d s = (Outcome.ok a, t) -> t.Whole

def Yields (d : Decode α) (P : α -> Prop) : Prop :=
  forall s a t, d s = (Outcome.ok a, t) -> P a

theorem safe_pure (a : α) : Safe (pure a : Decode α) := by
  intro s hs
  refine ⟨Outcome.ok_ne_panic, ?_⟩
  intro b t hrun
  cases hrun
  exact hs

theorem safe_refuse (text : String) : Safe (refuse text : Decode α) := by
  intro s _
  refine ⟨Outcome.err_ne_panic, ?_⟩
  intro a t hrun
  cases hrun

/-- The rule for a second decoder that is safe on what the first returns. -/
theorem Safe.bind_of {d : Decode α} {f : α -> Decode β} {P : α -> Prop}
    (h : Safe d) (hP : Yields d P) (hf : forall a, P a -> Safe (f a)) :
    Safe (d >>= f) := by
  intro s hs
  constructor
  · intro hpanic
    rcases Cmd.bind_panic.mp hpanic with hd | ⟨a, t, hd, hrest⟩
    · exact (h s hs).left hd
    · exact (hf a (hP s a t hd) t ((h s hs).right a t hd)).left hrest
  · intro b t' hrun
    rcases Cmd.bind_ok.mp hrun with ⟨a, t, hd, hrest⟩
    exact (hf a (hP s a t hd) t ((h s hs).right a t hd)).right b t' hrest

theorem Safe.bind {d : Decode α} {f : α -> Decode β} (h : Safe d)
    (hf : forall a, Safe (f a)) : Safe (d >>= f) :=
  h.bind_of (P := fun _ => True) (fun _ _ _ _ => trivial) fun a _ => hf a

theorem Safe.inContext {d : Decode α} (h : Safe d) (name : String) :
    Safe (Per.inContext name d) := by
  intro s hs
  exact ⟨fun hpanic => (h s hs).left (inContext_panic.mp hpanic),
    fun a t hrun => (h s hs).right a t (inContext_ok.mp hrun)⟩

theorem yields_pure {P : α -> Prop} {a : α} (h : P a) :
    Yields (pure a : Decode α) P := by
  intro s b t hrun
  cases hrun
  exact h

theorem Yields.bind {d : Decode α} {f : α -> Decode β} {P : α -> Prop}
    {Q : β -> Prop} (h : Yields d P) (hf : forall a, P a -> Yields (f a) Q) :
    Yields (d >>= f) Q := by
  intro s b t hrun
  rcases Cmd.bind_ok.mp hrun with ⟨a, s', hd, hrest⟩
  exact hf a (h s a s' hd) s' b t hrest

theorem yields_true (d : Decode α) : Yields d fun _ => True :=
  fun _ _ _ _ => trivial

end Per
end Foundation
end QCore
