import Mathlib.Algebra.GroupWithZero.Nat
import QCore.Foundation.Per.Runtime

/-!
# Codecs that carry their laws

A `PerCodec` is an encoder with the decoder of what it writes.  Its two fields
of proof say that every valid value is encoded and read back, and that the
decoder is safe, both under what is assumed about the runtime.  The combinators
build them with the codec, so that a codec that is composed of them has nothing
left to prove.
-/

namespace QCore
namespace Foundation
namespace Per

/-- `size` bounds the bits that a valid value takes. -/
structure PerCodec (R : Runtime) (α : Type) where
  encode : α -> Encode
  decode : Decode α
  valid : α -> Prop
  size : α -> Nat
  conveys : R.Lawful -> forall a, valid a ->
    Conveys (encode a) decode a (size a)
  safe : R.Lawful -> R.Quiet -> Safe decode

namespace PerCodec

variable {R : Runtime} {α β κ : Type}

/-!
## Combinators
-/

def inContext (name : String) (c : PerCodec R α) : PerCodec R α where
  encode a := Per.inContext name (c.encode a)
  decode := Per.inContext name c.decode
  valid := c.valid
  size := c.size
  conveys hR a ha := Conveys.inContext (c.conveys hR a ha) name
  safe hR hquiet := (c.safe hR hquiet).inContext name

def iso (c : PerCodec R α) (unpack : β -> α) (pack : α -> β)
    (h : forall b, pack (unpack b) = b) : PerCodec R β where
  encode b := c.encode (unpack b)
  decode := do
    let a <- c.decode
    pure (pack a)
  valid b := c.valid (unpack b)
  size b := c.size (unpack b)
  conveys hR b hb := by
    apply Conveys.map (c.conveys hR (unpack b) hb)
    rw [h b]
  safe hR hquiet := (c.safe hR hquiet).bind fun a => safe_pure (pack a)

def alternative (c : PerCodec R α) (inject : α -> β) (project : β -> Option α)
    (h : forall a b, project b = some a -> inject a = b) : PerCodec R β where
  encode b :=
    match project b with
    | some a => c.encode a
    | none => refuse "Not this alternative"
  decode := do
    let a <- c.decode
    pure (inject a)
  valid b := exists a, project b = some a ∧ c.valid a
  size b :=
    match project b with
    | some a => c.size a
    | none => 0
  conveys hR b := by
    rintro ⟨a, ha, hvalid⟩
    simp only [ha]
    apply Conveys.map (c.conveys hR a hvalid)
    rw [h a b ha]
  safe hR hquiet := (c.safe hR hquiet).bind fun a => safe_pure (inject a)

/-- A value for which another one is written first, such as its length. -/
def sequel (c : PerCodec R κ) (key : α -> κ) (body : κ -> PerCodec R α) :
    PerCodec R α where
  encode a := do
    c.encode (key a)
    (body (key a)).encode a
  decode := do
    let k <- c.decode
    (body k).decode
  valid a := c.valid (key a) ∧ (body (key a)).valid a
  size a := c.size (key a) + (body (key a)).size a
  conveys hR a ha := Conveys.bind (c.conveys hR (key a) ha.left)
    ((body (key a)).conveys hR a ha.right)
  safe hR hquiet := (c.safe hR hquiet).bind fun k => (body k).safe hR hquiet

def pair (c : PerCodec R α) (d : PerCodec R β) : PerCodec R (α × β) where
  encode p := do
    c.encode p.1
    d.encode p.2
  decode := do
    let a <- c.decode
    let b <- d.decode
    pure (a, b)
  valid p := c.valid p.1 ∧ d.valid p.2
  size p := c.size p.1 + d.size p.2
  conveys hR p hp := by
    apply Conveys.bind (c.conveys hR p.1 hp.left)
    exact Conveys.map (d.conveys hR p.2 hp.right) rfl
  safe hR hquiet := by
    apply (c.safe hR hquiet).bind
    intro a
    apply (d.safe hR hquiet).bind
    intro b
    exact safe_pure (a, b)

def readOnly (d : Decode α) (h : R.Lawful -> R.Quiet -> Safe d) :
    PerCodec R α where
  encode _ := refuse "Not encoded"
  decode := d
  valid _ := False
  size _ := 0
  conveys _ _ ha := ha.elim
  safe := h

/-- A value that its place says, so that nothing is written for it. -/
def constant (a : α) : PerCodec R α where
  encode _ := pure ()
  decode := pure a
  valid b := b = a
  size _ := 0
  conveys _ b hb := by
    rw [hb]
    exact carries_pure (pure a)
  safe _ _ := safe_pure a

/-- `unwrap`: a conversion of what was read that panics where it has no result.
The last argument says that there always is one. -/
def unwrapped (c : PerCodec R α) (unpack : β -> α) (pack : α -> Option β)
    (h : forall b, pack (unpack b) = some b)
    (hsome : R.Lawful -> Yields c.decode fun a => (pack a).isSome = true) :
    PerCodec R β where
  encode b := c.encode (unpack b)
  decode := do
    let a <- c.decode
    match pack a with
    | some b => pure b
    | none => Cmd.lift Outcome.panic
  valid b := c.valid (unpack b)
  size b := c.size (unpack b)
  conveys hR b hb := by
    apply Conveys.map (c.conveys hR (unpack b) hb)
    rw [h b]
  safe hR hquiet := by
    apply (c.safe hR hquiet).bind_of (hsome hR)
    intro a ha
    cases hpack : pack a with
    | some b => exact safe_pure b
    | none =>
        rw [hpack] at ha
        cases ha

end PerCodec

/-!
## Repetition
-/

variable {α β : Type}

def encodeEach (m : α -> Encode) : List α -> Encode
  | [] => pure ()
  | a :: as => do
      m a
      encodeEach m as

def decodeTimes (d : Decode α) : Nat -> Decode (List α)
  | 0 => pure []
  | n + 1 => do
      let a <- d
      let as <- decodeTimes d n
      pure (a :: as)

/-- Each value may be written in a way of its own, as long as one decoder reads
them all. -/
theorem conveys_each {m : β -> Encode} {d : Decode α} (value : β -> α)
    (size : β -> Nat) {xs : List β}
    (h : forall x, x ∈ xs -> Conveys (m x) d (value x) (size x)) :
    Conveys (encodeEach m xs) (decodeTimes d xs.length) (xs.map value)
      (xs.map size).sum := by
  induction xs with
  | nil => exact carries_pure _
  | cons x xs ih =>
      have htail := ih fun y hy => h y (List.mem_cons_of_mem x hy)
      rw [List.map_cons, List.map_cons, List.sum_cons]
      apply Conveys.bind (h x List.mem_cons_self)
      exact Conveys.map htail rfl

theorem Safe.times {d : Decode α} (h : Safe d) (n : Nat) :
    Safe (decodeTimes d n) := by
  induction n with
  | zero => exact safe_pure []
  | succ n ih =>
      apply h.bind
      intro a
      apply ih.bind
      intro as
      exact safe_pure (a :: as)

theorem yields_decodeTimes (d : Decode α) (n : Nat) :
    Yields (decodeTimes d n) fun as => as.length = n := by
  induction n with
  | zero => exact yields_pure rfl
  | succ n ih =>
      refine (yields_true d).bind fun a _ => ih.bind fun as has => ?_
      apply yields_pure
      rw [List.length_cons, has]

theorem encodeEach_endsAligned {m : α -> Encode} {xs : List α} {bits : Bits}
    (hm : forall x, EndsAligned (m x))
    (h : encodeEach m xs [] = (Outcome.ok (), bits)) : bits.length % 8 = 0 := by
  have hfrom : forall data data' : Bits, data.length % 8 = 0 ->
      encodeEach m xs data = (Outcome.ok (), data') -> data'.length % 8 = 0 := by
    clear h
    induction xs with
    | nil =>
        intro data data' hdata hrun
        cases hrun
        exact hdata
    | cons x xs ih =>
        intro data data' _ hrun
        rcases Cmd.bind_ok.mp hrun with ⟨_, middle, hx, hrest⟩
        exact ih middle data' (hm x data middle hx) hrest
  exact hfrom [] bits rfl h

end Per
end Foundation
end QCore
