import Mathlib.Algebra.Order.BigOperators.Group.List
import Mathlib.Algebra.Order.Group.Nat
import Mathlib.Data.List.Nodup
import Mathlib.Logic.Function.Basic
import QCore.Foundation.Per.Forms

/-!
# Containers of information elements

A message is a sequence of information elements, each with its identifier, a
criticality and a length before its contents.  A `Container` is the table of the
elements that a message may have.  The decoder of a container looks an element
up by its identifier and keeps the last one of each kind; the criticality and
the length are read and not used.
-/

namespace QCore
namespace Foundation
namespace Per

variable {R : Runtime} {α β : Type}

/-!
## Contents in a buffer of their own
-/

/-- A length, and contents from an octet boundary on. -/
def encodeBoxed (R : Runtime) (length : Nat) (contents : Bits) : Encode := do
  R.encodeLengthDeterminent none length
  R.append contents

theorem Carries.fresh {m : Encode} {g : Bits -> Encode} {d d' : Decode α}
    {n : Nat} {contents : Bits} (hm : m [] = (Outcome.ok (), contents))
    (h : Carries (g contents) d d' n) :
    Carries (Per.fresh m >>= g) d d' n := by
  intro data
  have hfresh : Per.fresh m data = (Outcome.ok contents, data) :=
    fresh_ok.mpr ⟨hm, rfl⟩
  rcases h data with ⟨bits, hrun, hlength, hleads⟩
  refine ⟨bits, ?_, hlength, hleads⟩
  rw [Cmd.bind_run, hfresh]
  exact hrun

theorem encodeBoxed_run (hR : R.Lawful) {length : Nat} (hlength : length < 16384)
    (contents data : Bits) :
    exists head, encodeBoxed R length contents data = (Outcome.ok (),
        data ++ (head ++ (contents ++ zeros (padding contents.length)))) ∧
      head.length <= 24 ∧ (data.length + head.length) % 8 = 0 ∧
      Reads (R.decodeLengthDeterminent none) data.length head length := by
  rcases hR.length length hlength data with ⟨head, hrun, hhead, hreads⟩
  have haligned := hR.length_endsAligned length _ _ hrun
  refine ⟨head, ?_, hhead, ?_, hreads⟩
  · unfold encodeBoxed
    rw [Cmd.bind_run, hrun]
    change (Outcome.ok (), R.appendAligned contents (data ++ head)) = _
    rw [hR.appendAligned contents (data ++ head) haligned, List.append_assoc]
  · rw [← List.length_append]
    exact haligned

theorem encodeBoxed_appends (hR : R.Lawful) (length : Nat) (contents : Bits) :
    Appends (encodeBoxed R length contents) := by
  apply (hR.length_appends length).bind
  intro data data' hrun
  cases hrun
  exact hR.appendAligned_appends contents data

theorem carries_boxed (hR : R.Lawful) {length n : Nat} (hlength : length < 16384)
    {contents : Bits} {d d' : Decode α} (hsize : contents.length <= n)
    (haligned : contents.length % 8 = 0) (h : Leads d 0 contents d') :
    Carries (encodeBoxed R length contents)
      (do
        let _length <- R.decodeLengthDeterminent none
        d) d' (24 + n) := by
  intro data
  rcases encodeBoxed_run hR hlength contents data with
    ⟨head, hrun, hhead, hstart, hreads⟩
  rw [padding_of_aligned haligned] at hrun
  refine ⟨head ++ (contents ++ zeros 0), hrun, ?_, ?_⟩
  · rw [List.length_append, List.length_append, zeros_length]
    lia
  · rw [show contents ++ zeros 0 = contents from List.append_nil contents]
    exact Reads.bind hreads (h.congr hstart)

/-- The decoder that skips the padding after the contents. -/
theorem conveys_boxed (hR : R.Lawful) {length n : Nat} (hlength : length < 16384)
    {contents : Bits} {d : Decode α} {a : α} (hsize : contents.length <= n)
    (h : Reads d 0 contents a) (f : α -> β) :
    Conveys (encodeBoxed R length contents)
      (do
        let _length <- R.decodeLengthDeterminent none
        let a <- d
        R.decodeAlign
        pure (f a)) (f a) (31 + n) := by
  intro data
  rcases encodeBoxed_run hR hlength contents data with
    ⟨head, hrun, hhead, hstart, hreads⟩
  have hpad := padding_lt contents.length
  refine ⟨_, hrun, ?_, ?_⟩
  · rw [List.length_append, List.length_append, zeros_length]
    lia
  · apply Reads.bind hreads
    apply Reads.bind (h.congr hstart)
    have hphase : (data.length + head.length + contents.length) % 8 =
        contents.length % 8 := by
      lia
    exact Reads.then ((hR.align contents.length).congr hphase) fun _ =>
      pure (f a)

inductive Criticality where
  | reject
  | ignore
  | notify
deriving DecidableEq, Repr

def Criticality.codec (R : Runtime) : PerCodec R Criticality :=
  (enumerated R [Criticality.reject, Criticality.ignore, Criticality.notify]
    (fun c => by cases c <;> decide) false).inContext "Criticality"

theorem Criticality.valid (c : Criticality) : (codec R).valid c := by
  change 3 <= 256
  decide

/-!
## Sequences with an extension container
-/

/-- The flags of the optional parts, for a caller that drops the extension
bit. -/
def sequenceHeader (R : Runtime) (extensible : Bool) (n : Nat) :
    PerCodec R Bits where
  encode := R.encodeSequenceHeader extensible
  decode := do
    let header <- R.decodeSequenceHeader extensible n
    pure header.1
  valid flags := flags.length = n
  size _ := 1 + n
  conveys hR flags := by
    rintro rfl
    exact Conveys.map (hR.sequenceHeader extensible flags) rfl
  safe _ hquiet := (hquiet.sequenceHeader extensible n).bind fun header =>
    safe_pure header.1

theorem yields_sequenceHeader (hR : R.Lawful) (extensible : Bool) (n : Nat) :
    Yields (sequenceHeader R extensible n).decode fun flags =>
      flags.length = n :=
  (hR.sequenceHeader_length extensible n).bind fun _ h => yields_pure h

def oneOptional (R : Runtime) (extensible : Bool) : PerCodec R Bool :=
  (sequenceHeader R extensible 1).unwrapped (fun flag => [flag]) List.head?
    (fun _ => rfl)
    fun hR s flags t hrun => by
      have hlength := yields_sequenceHeader hR extensible 1 s flags t hrun
      cases flags with
      | nil => cases hlength
      | cons flag flags => rfl

/-- An extension that is skipped.  The length counts octets, and as many bits
are skipped. -/
def decodeExtension (R : Runtime) : Decode Unit := do
  let _id <- R.decodeInteger 0 65535 false
  let _criticality <- (Criticality.codec R).decode
  let length <- R.decodeLengthDeterminent none
  R.advanceMaybeErr length
  R.decodeAlign

def decodeExtensions (R : Runtime) : Decode Unit := do
  let n <- R.decodeLengthDeterminent (some (1, 65535))
  let _extensions <- decodeTimes (decodeExtension R) n
  pure ()

theorem safe_decodeExtensions (hR : R.Lawful) (hquiet : R.Quiet) :
    Safe (decodeExtensions R) := by
  have hone : Safe (decodeExtension R) := by
    apply (hquiet.integer 0 65535 false).bind
    intro _
    apply ((Criticality.codec R).safe hR hquiet).bind
    intro _
    apply (hquiet.length none).bind
    intro length
    apply (hquiet.advance length).bind
    intro _
    exact hquiet.align
  apply (hquiet.length (some (1, 65535))).bind
  intro n
  apply (hone.times n).bind
  intro _
  exact safe_pure ()

def beforeExtensions (c : PerCodec R α) (present : Bool) : PerCodec R α :=
  if present then
    PerCodec.readOnly
      (do
        let a <- c.decode
        decodeExtensions R
        pure a)
      fun hR hquiet => (c.safe hR hquiet).bind fun a =>
        (safe_decodeExtensions hR hquiet).bind fun _ => safe_pure a
  else c

def extensibleSequence (extensible : Bool) (c : PerCodec R α) : PerCodec R α :=
  (oneOptional R extensible).sequel (fun _ => false) (beforeExtensions c)

def optionally (c : PerCodec R α) (present : Bool) : PerCodec R (Option α) where
  encode
    | some a => c.encode a
    | none => pure ()
  decode :=
    if present then do
      let a <- c.decode
      pure (some a)
    else pure none
  valid a := a.isSome = present ∧ forall v, a = some v -> c.valid v
  size
    | some a => c.size a
    | none => 0
  conveys hR a ha := by
    rcases ha with ⟨rfl, hvalid⟩
    cases a with
    | none => exact carries_pure _
    | some v => exact Conveys.map (c.conveys hR v (hvalid v rfl)) rfl
  safe hR hquiet := by
    cases present with
    | false => exact safe_pure none
    | true => exact (c.safe hR hquiet).bind fun a => safe_pure (some a)

/-- The alternative of a choice that is left to extensions: an element that no
version of the choice has. -/
def refusedExtension (R : Runtime) : PerCodec R α :=
  PerCodec.readOnly
    (do
      let id <- R.decodeInteger 0 65535 false
      let _criticality <- (Criticality.codec R).decode
      let _length <- R.decodeLengthDeterminent none
      R.decodeAlign
      refuse ("Unrecognised IE type " ++ toString id.1))
    fun hR hquiet => by
      apply (hquiet.integer 0 65535 false).bind
      intro id
      apply ((Criticality.codec R).safe hR hquiet).bind
      intro _
      apply (hquiet.length none).bind
      intro _
      apply hquiet.align.bind
      intro _
      exact safe_refuse _

/-!
## Tables of elements
-/

structure Element (R : Runtime) (α : Type) where
  id : UInt16
  criticality : Criticality
  mandatory : Bool
  name : String
  codec : PerCodec R α

/-- The elements of a message, each with its type.  `order` is the order in
which they are encoded and in which the mandatory ones are looked for. -/
structure Container (R : Runtime) (F : Type) [DecidableEq F] where
  order : List F
  type : F -> Type
  row : (f : F) -> Element R (type f)
  covers : forall f, f ∈ order
  ids_nodup : (order.map fun f => (row f).id).Nodup
  few : order.length <= 65535

namespace Container

variable {F : Type} [DecidableEq F] (C : Container R F)

theorem id_injective {f g : F} (h : (C.row f).id = (C.row g).id) : f = g :=
  List.inj_on_of_nodup_map C.ids_nodup (C.covers f) (C.covers g) h

theorem order_nodup : C.order.Nodup :=
  List.Nodup.of_map _ C.ids_nodup

def find (id : Int) : Option F :=
  C.order.find? fun f => ((C.row f).id.toNat : Int) == id

theorem find_id (f : F) : C.find (C.row f).id.toNat = some f := by
  unfold find
  cases hfind : C.order.find? fun g =>
      ((C.row g).id.toNat : Int) == (C.row f).id.toNat with
  | none =>
      have hall := List.find?_eq_none.mp hfind f (C.covers f)
      simp at hall
  | some g =>
      have hid : (C.row g).id = (C.row f).id := by
        have hsame := List.find?_some hfind
        simp only [beq_iff_eq, Int.natCast_inj] at hsame
        exact UInt16.toNat_inj.mp hsame
      rw [C.id_injective hid]

/-- One round of the loop of the decoder, without its assignment. -/
def decodeElement : Decode (Sigma C.type) := do
  let id <- R.decodeInteger 0 65535 false
  let _criticality <- (Criticality.codec R).decode
  let _length <- R.decodeLengthDeterminent none
  match C.find id.1 with
  | some f => do
      let a <- (C.row f).codec.decode
      R.decodeAlign
      pure ⟨f, a⟩
  | none => refuse ("Unrecognised IE type " ++ toString id.1)

theorem safe_decodeElement (hR : R.Lawful) (hquiet : R.Quiet) :
    Safe C.decodeElement := by
  apply (hquiet.integer 0 65535 false).bind
  intro id
  apply ((Criticality.codec R).safe hR hquiet).bind
  intro _
  apply (hquiet.length none).bind
  intro _
  cases C.find id.1 with
  | some f =>
      apply ((C.row f).codec.safe hR hquiet).bind
      intro a
      apply hquiet.align.bind
      intro _
      exact safe_pure (⟨f, a⟩ : Sigma C.type)
  | none => exact safe_refuse _

/-!
## Fields
-/

abbrev Fields : Type :=
  (f : F) -> Option (C.type f)

/-- The loop of the decoder over what it has read: the last element of a kind
is kept. -/
def assemble (elements : List (Sigma C.type)) : C.Fields :=
  elements.foldl (fun v e => Function.update v e.1 (some e.2)) fun _ => none

def present (v : C.Fields) : List (Sigma C.type) :=
  C.order.filterMap fun f => (v f).map (Sigma.mk f)

theorem assemble_concat (elements : List (Sigma C.type)) (e : Sigma C.type) :
    C.assemble (elements ++ [e]) =
      Function.update (C.assemble elements) e.1 (some e.2) := by
  unfold assemble
  rw [List.foldl_append]
  rfl

theorem concat_eq_split {γ : Type} {xs front back : List γ} {x y : γ} :
    xs ++ [y] = front ++ x :: back <->
      (back = [] ∧ xs = front ∧ y = x) ∨
        exists back', back = back' ++ [y] ∧ xs = front ++ x :: back' := by
  cases back using List.reverseRecOn with
  | nil =>
      constructor
      · intro heq
        rcases List.append_inj' heq rfl with ⟨hfront, hlast⟩
        cases hlast
        exact Or.inl ⟨rfl, hfront, rfl⟩
      · rintro (⟨_, rfl, rfl⟩ | ⟨back', heq, _⟩)
        · rfl
        · simp at heq
  | append_singleton back z _ =>
      rw [← List.cons_append, ← List.append_assoc]
      constructor
      · intro heq
        rcases List.append_inj' heq rfl with ⟨hxs, hlast⟩
        cases hlast
        exact Or.inr ⟨back, rfl, hxs⟩
      · rintro (⟨heq, _⟩ | ⟨back', heq, rfl⟩)
        · simp at heq
        · rcases List.append_inj' heq rfl with ⟨rfl, hlast⟩
          cases hlast
          rfl

/-- A field is what the last element of its kind has. -/
theorem assemble_eq_some_iff (elements : List (Sigma C.type)) (f : F)
    (a : C.type f) :
    C.assemble elements f = some a <->
      exists front back, elements = front ++ ⟨f, a⟩ :: back ∧
        forall e, e ∈ back -> e.1 ≠ f := by
  induction elements using List.reverseRecOn with
  | nil =>
      constructor
      · intro h
        cases h
      · rintro ⟨front, back, heq, _⟩
        simp at heq
  | append_singleton elements e ih =>
      rw [assemble_concat]
      rcases e with ⟨g, b⟩
      by_cases hg : g = f
      · subst hg
        rw [Function.update_self]
        constructor
        · intro h
          cases h
          exact ⟨elements, [], rfl, fun e he => absurd he List.not_mem_nil⟩
        · rintro ⟨front, back, heq, hback⟩
          rcases concat_eq_split.mp heq with ⟨_, _, hlast⟩ | ⟨back', rfl, _⟩
          · cases hlast
            rfl
          · exact absurd rfl
              (hback _ (List.mem_append_right _ List.mem_cons_self))
      · rw [Function.update_of_ne (Ne.symm hg), ih]
        constructor
        · rintro ⟨front, back, heq, hback⟩
          refine ⟨front, back ++ [⟨g, b⟩],
            concat_eq_split.mpr (Or.inr ⟨back, rfl, heq⟩), ?_⟩
          intro e he
          rcases List.mem_append.mp he with he | he
          · exact hback e he
          · rw [List.mem_singleton.mp he]
            exact hg
        · rintro ⟨front, back, heq, hback⟩
          rcases concat_eq_split.mp heq with ⟨_, _, hlast⟩ | ⟨back', rfl, hxs⟩
          · cases hlast
            exact absurd rfl hg
          · exact ⟨front, back', hxs, fun e he =>
              hback e (List.mem_append_left _ he)⟩

theorem mem_present (v : C.Fields) (f : F) (a : C.type f) :
    (⟨f, a⟩ : Sigma C.type) ∈ C.present v <-> v f = some a := by
  unfold present
  rw [List.mem_filterMap]
  constructor
  · rintro ⟨g, _, hg⟩
    rcases Option.map_eq_some_iff.mp hg with ⟨b, hb, heq⟩
    cases heq
    exact hb
  · intro h
    exact ⟨f, C.covers f, by rw [h]; rfl⟩

theorem assemble_of_distinct {elements : List (Sigma C.type)}
    (h : (elements.map Sigma.fst).Nodup) (f : F) (a : C.type f) :
    C.assemble elements f = some a <->
      (⟨f, a⟩ : Sigma C.type) ∈ elements := by
  rw [assemble_eq_some_iff]
  constructor
  · rintro ⟨front, back, heq, _⟩
    rw [heq]
    exact List.mem_append_right _ List.mem_cons_self
  · intro hmem
    rcases List.append_of_mem hmem with ⟨front, back, heq⟩
    refine ⟨front, back, heq, ?_⟩
    intro e he hf
    rw [heq, List.map_append, List.map_cons] at h
    have htail := (List.nodup_append.mp h).2.1
    have hin : e.1 ∈ back.map Sigma.fst := List.mem_map_of_mem he
    rw [hf] at hin
    exact (List.nodup_cons.mp htail).1 hin

theorem present_distinct (v : C.Fields) :
    ((C.present v).map Sigma.fst).Nodup := by
  have hsub : ((C.present v).map Sigma.fst).Sublist C.order := by
    unfold present
    induction C.order with
    | nil => exact List.Sublist.slnil
    | cons f order ih =>
        cases hf : v f with
        | none =>
            rw [List.filterMap_cons_none (by rw [hf]; rfl)]
            exact ih.cons f
        | some a =>
            rw [List.filterMap_cons_some (by rw [hf]; rfl)]
            exact ih.cons_cons f
  exact hsub.nodup C.order_nodup

theorem assemble_perm {v : C.Fields} {elements : List (Sigma C.type)}
    (h : elements.Perm (C.present v)) : C.assemble elements = v := by
  have hdistinct : (elements.map Sigma.fst).Nodup :=
    (h.map Sigma.fst).nodup_iff.mpr (C.present_distinct v)
  funext f
  apply Option.ext
  intro a
  rw [C.assemble_of_distinct hdistinct, h.mem_iff, mem_present]

/-!
## Messages
-/

abbrev Message : Type :=
  { v : C.Fields // forall f, (C.row f).mandatory = true -> (v f).isSome = true }

def missing (v : C.Fields) : Option F :=
  C.order.find? fun f => (C.row f).mandatory && (v f).isNone

theorem missing_eq_none_iff (v : C.Fields) :
    C.missing v = none <->
      forall f, (C.row f).mandatory = true -> (v f).isSome = true := by
  unfold missing
  rw [List.find?_eq_none]
  constructor
  · intro h f hf
    have hat := h f (C.covers f)
    cases hv : v f with
    | none =>
        rw [hf, hv] at hat
        exact absurd rfl hat
    | some a => rfl
  · intro h f _ hat
    rw [Bool.and_eq_true] at hat
    have hsome := h f hat.1
    rw [Option.isSome_iff_ne_none] at hsome
    exact hsome (Option.isNone_iff_eq_none.mp hat.2)

def close (v : C.Fields) : Decode C.Message :=
  match h : C.missing v with
  | none => pure ⟨v, (C.missing_eq_none_iff v).mp h⟩
  | some f => refuse ("Missing mandatory IE " ++ (C.row f).name)

theorem close_message (m : C.Message) : C.close m.1 = pure m := by
  have hnone := (C.missing_eq_none_iff m.1).mpr m.2
  unfold close
  split
  next => rfl
  next f hf =>
    rw [hnone] at hf
    cases hf

theorem close_missing {v : C.Fields} {f : F} (h : C.missing v = some f) :
    C.close v =
      refuse ("Missing mandatory IE " ++ (C.row f).name) := by
  unfold close
  split
  next hnone =>
    rw [h] at hnone
    cases hnone
  next g hg =>
    rw [h] at hg
    cases hg
    rfl

theorem safe_close (v : C.Fields) : Safe (C.close v) := by
  unfold close
  split
  · exact safe_pure _
  · exact safe_refuse _

theorem present_length_le (v : C.Fields) :
    (C.present v).length <= C.order.length :=
  List.length_filterMap_le _ _

/-!
## Senders
-/

/-- An element as some sender writes it: with a criticality and a length of the
sender's choice. -/
structure Sent where
  element : Sigma C.type
  criticality : Criticality
  claim : Bits -> Nat

namespace Sent

variable {C}

def encode (s : C.Sent) : Encode := do
  let ie <- fresh ((C.row s.element.1).codec.encode s.element.2)
  R.encodeInteger 0 65535 false (C.row s.element.1).id.toNat
  (Criticality.codec R).encode s.criticality
  encodeBoxed R (s.claim ie) ie

def contentSize (s : C.Sent) : Nat :=
  (C.row s.element.1).codec.size s.element.2

structure Valid (s : C.Sent) : Prop where
  value : (C.row s.element.1).codec.valid s.element.2
  claim : forall ie : Bits, ie.length <= s.contentSize -> s.claim ie < 16384

def size (s : C.Sent) : Nat :=
  111 + s.contentSize

theorem conveys (hR : R.Lawful) {s : C.Sent} (h : s.Valid) :
    Conveys s.encode C.decodeElement s.element s.size := by
  rcases s with ⟨⟨f, a⟩, criticality, claim⟩
  rcases (C.row f).codec.conveys hR a h.value [] with
    ⟨ie, hie, hsize, hreads⟩
  rw [List.nil_append] at hie
  have hid : (C.row f).id.toNat <= 65535 :=
    Nat.le_of_lt_succ (C.row f).id.toNat_lt
  have hboxed := conveys_boxed hR (h.claim ie hsize) hsize hreads
    fun a => (⟨f, a⟩ : Sigma C.type)
  have hfound : Conveys (encodeBoxed R (claim ie) ie)
      (do
        let _length <- R.decodeLengthDeterminent none
        match C.find (C.row f).id.toNat with
        | some f => do
            let a <- (C.row f).codec.decode
            R.decodeAlign
            pure (⟨f, a⟩ : Sigma C.type)
        | none => refuse ("Unrecognised IE type " ++
            toString ((C.row f).id.toNat : Int)))
      ⟨f, a⟩ (31 + (C.row f).codec.size a) := by
    rw [C.find_id f]
    exact hboxed
  apply Carries.fresh hie
  have hwhole := Conveys.bind
    (hR.integer 0 65535 false (C.row f).id.toNat (Nat.zero_le _) hid (by decide))
    (f := fun id => do
      let _criticality <- (Criticality.codec R).decode
      let _length <- R.decodeLengthDeterminent none
      match C.find id.1 with
      | some f => do
          let a <- (C.row f).codec.decode
          R.decodeAlign
          pure (⟨f, a⟩ : Sigma C.type)
      | none => refuse ("Unrecognised IE type " ++ toString id.1))
    (Conveys.bind ((Criticality.codec R).conveys hR criticality
      (Criticality.valid criticality)) hfound)
  refine Carries.mono hwhole ?_
  change 64 + (16 + (31 + (C.row f).codec.size a)) <=
    111 + (C.row f).codec.size a
  lia

theorem append_endsAligned (hR : R.Lawful) (length : Nat) (contents : Bits) :
    EndsAligned (encodeBoxed R length contents) := by
  intro data data' hrun
  rcases Cmd.bind_ok.mp hrun with ⟨_, middle, hlength, happend⟩
  have hmiddle := hR.length_endsAligned length data middle hlength
  cases happend
  rw [hR.appendAligned contents middle hmiddle, List.length_append,
    List.length_append, zeros_length]
  have hpad := aligned_padding contents.length
  lia

theorem endsAligned (hR : R.Lawful) (s : C.Sent) : EndsAligned s.encode := by
  intro data data' hrun
  rcases Cmd.bind_ok.mp hrun with ⟨ie, middle, _, hrest⟩
  exact (append_endsAligned hR (s.claim ie) ie).after.after middle data' hrest

end Sent

/-!
## Messages on the wire
-/

def encodeSent (elements : List C.Sent) : Encode := do
  let ies <- fresh (encodeEach Sent.encode elements)
  R.encodeSequenceHeader true []
  R.encodeLengthDeterminent (some (0, 65535)) elements.length
  R.append ies

def decodeFields : Decode C.Fields := do
  let _optionals <- R.decodeSequenceHeader true 0
  let n <- R.decodeLengthDeterminent (some (0, 65535))
  let elements <- decodeTimes C.decodeElement n
  pure (C.assemble elements)

def decodeMessage : Decode C.Message := do
  let v <- C.decodeFields
  C.close v

def fieldsOf (elements : List C.Sent) : C.Fields :=
  C.assemble (elements.map Sent.element)

def sentSize (elements : List C.Sent) : Nat :=
  49 + (elements.map Sent.size).sum

/-- The decoder reads the fields that the elements make up: neither their order
nor their criticalities nor the lengths that are claimed for them matter; of two
elements of one kind, the last one does. -/
theorem conveys_fields (hR : R.Lawful) {elements : List C.Sent}
    (hvalid : forall s, s ∈ elements -> s.Valid)
    (hfew : elements.length <= 65535) :
    Conveys (C.encodeSent elements) C.decodeFields (C.fieldsOf elements)
      (C.sentSize elements) := by
  have heach := conveys_each Sent.element Sent.size fun s hs =>
    Sent.conveys hR (hvalid s hs)
  rcases heach [] with ⟨ies, hies, hsize, hreads⟩
  rw [List.nil_append] at hies
  have haligned : ies.length % 8 = 0 :=
    encodeEach_endsAligned (Sent.endsAligned hR) hies
  apply Carries.fresh hies
  intro data
  rcases hR.sequenceHeader true [] data with ⟨header, hrun, hheader, hreads1⟩
  rcases hR.boundedLength 0 65535 elements.length (Nat.zero_le _) hfew
    (by decide) (data ++ header) with ⟨count, hrun', hcount, hreads2⟩
  have hstart := hR.count_endsAligned _ _ _ hrun'
  refine ⟨header ++ (count ++ ies), ?_, ?_, ?_⟩
  · simp only [Cmd.bind_run, hrun, hrun']
    change (Outcome.ok (), R.appendAligned ies (data ++ header ++ count)) = _
    rw [hR.appendAligned ies _ hstart, padding_of_aligned haligned,
      List.append_assoc, List.append_assoc]
    rw [show ies ++ zeros 0 = ies from List.append_nil ies]
  · rw [List.length_append, List.length_append]
    change header.length <= 1 + 0 at hheader
    unfold sentSize
    lia
  · apply Reads.bind hreads1
    rw [List.length_append] at hreads2
    apply Reads.bind hreads2
    rw [List.length_append, List.length_append] at hstart
    exact Reads.then (hreads.congr hstart) fun elements =>
      pure (C.assemble elements)

theorem encodeSent_endsAligned (hR : R.Lawful) {elements : List C.Sent}
    {bits : Bits} (h : C.encodeSent elements [] = (Outcome.ok (), bits)) :
    bits.length % 8 = 0 := by
  rcases Cmd.bind_ok.mp h with ⟨ies, start, hfresh, hrest⟩
  rcases Cmd.bind_ok.mp hrest with ⟨_, header, _, hcounted⟩
  rcases Cmd.bind_ok.mp hcounted with ⟨_, counted, hcount, happend⟩
  have hstart := hR.count_endsAligned _ _ _ hcount
  cases happend
  rw [hR.appendAligned ies counted hstart, List.length_append,
    List.length_append, zeros_length]
  have hpad := aligned_padding ies.length
  lia

def own (e : Sigma C.type) : C.Sent :=
  ⟨e, (C.row e.1).criticality, R.lengthInBytes⟩

theorem own_valid (hR : R.Lawful) {e : Sigma C.type}
    (hvalid : (C.row e.1).codec.valid e.2) (hsize : (C.own e).size <= 131064) :
    (C.own e).Valid where
  value := hvalid
  claim ie hie := by
    have hlength := hR.lengthInBytes ie
    change 111 + (C.own e).contentSize <= 131064 at hsize
    change R.lengthInBytes ie < 16384
    lia

theorem own_element (elements : List (Sigma C.type)) :
    (elements.map C.own).map Sent.element = elements := by
  rw [List.map_map]
  exact List.map_id elements

theorem carries_sent (hR : R.Lawful) {elements : List C.Sent}
    (hvalid : forall s, s ∈ elements -> s.Valid)
    (hfew : elements.length <= 65535) :
    Carries (C.encodeSent elements) C.decodeMessage
      (C.close (C.fieldsOf elements)) (C.sentSize elements) :=
  Carries.then (C.conveys_fields hR hvalid hfew) C.close

def ownSent (v : C.Fields) : List C.Sent :=
  (C.present v).map C.own

/-- Every value is in its range, and the message takes less than 16384
octets. -/
structure FieldsValid (v : C.Fields) : Prop where
  values : forall e, e ∈ C.present v -> (C.row e.1).codec.valid e.2
  size : C.sentSize (C.ownSent v) <= 131064

theorem ownSent_valid (hR : R.Lawful) {v : C.Fields} (h : C.FieldsValid v) :
    forall s, s ∈ C.ownSent v -> s.Valid := by
  intro s hs
  rcases List.mem_map.mp hs with ⟨e, he, rfl⟩
  apply C.own_valid hR (h.values e he)
  have hsum := List.le_sum_of_mem (List.mem_map_of_mem (f := Sent.size) hs)
  have hsize := h.size
  unfold sentSize at hsize
  lia

def message : PerCodec R C.Message where
  encode m := C.encodeSent (C.ownSent m.1)
  decode := C.decodeMessage
  valid m := C.FieldsValid m.1
  size m := C.sentSize (C.ownSent m.1)
  conveys hR m hm := by
    have hfew : (C.ownSent m.1).length <= 65535 := by
      rw [ownSent, List.length_map]
      exact Nat.le_trans (C.present_length_le m.1) C.few
    have hfields : C.fieldsOf (C.ownSent m.1) = m.1 := by
      rw [fieldsOf, ownSent, own_element]
      exact C.assemble_perm (List.Perm.refl _)
    have hcarries := C.carries_sent hR (C.ownSent_valid hR hm) hfew
    rw [hfields, close_message] at hcarries
    exact hcarries
  safe hR hquiet := by
    apply Safe.bind _ C.safe_close
    apply (hquiet.sequenceHeader true 0).bind
    intro _
    apply (hquiet.length (some (0, 65535))).bind
    intro n
    apply ((C.safe_decodeElement hR hquiet).times n).bind
    intro elements
    exact safe_pure (C.assemble elements)

end Container

end Per
end Foundation
end QCore
