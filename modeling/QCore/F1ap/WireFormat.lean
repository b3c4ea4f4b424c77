import QCore.F1ap.PduCodec
import QCore.Foundation.Per.Aligned

/-!
# F1AP on the wire

What holds for the modelled messages over every lawful runtime: a message that
is valid is encoded, and decoded again whatever follows it; it is the same
whoever sends it, since the decoder does not depend on the order of the
information elements, nor on the criticalities and the lengths that the sender
writes.  A panic of the decoder is a panic of the code of a message that is not
modelled.

The last section is about the first two octets of a PDU, which are what
`Stack::request` looks at.
-/

namespace QCore
namespace F1ap
namespace Codec

open Foundation
open Foundation.Per
open Stack

variable {R : Runtime} {other : Type}

/-!
## Any sender
-/

def Pdu.ofTable (k : Key) {t : MessageTable R}
    (h : tableOf R k.kind k.code = some t) (m : t.container.Message) :
    Pdu R other :=
  ⟨k, cast (congrArg (Contents other) h.symm) m⟩

structure SentPdu (t : MessageTable R) where
  key : Key
  criticality : Criticality
  claim : Bits -> Nat
  elements : List t.container.Sent

namespace SentPdu

variable {t : MessageTable R}

def encode (s : SentPdu t) : Encode := do
  (kindCodec R).encode s.key.kind
  R.encodeInteger 0 255 false s.key.code.toNat
  (Criticality.codec R).encode s.criticality
  let container <- fresh (t.container.encodeSent s.elements)
  encodeBoxed R (s.claim container) container

/-- The values are in their ranges, and no length needs fragments. -/
structure Valid (s : SentPdu t) : Prop where
  elements : forall e, e ∈ s.elements -> e.Valid
  few : s.elements.length <= 65535
  claim : forall contents : Bits,
    contents.length <= t.container.sentSize s.elements ->
      s.claim contents < 16384

end SentPdu

theorem leads_contents (others : OtherMessages other) (k : Key)
    {t : MessageTable R} {choice : Option (MessageTable R)} (h : choice = some t)
    {d : Decode t.container.Message} {bits : Bits}
    (hleads : Leads t.container.decodeMessage 0 bits d) :
    Leads (decodeContents others k choice) 0 bits
      (cast (congrArg (fun c => Decode (Contents other c)) h.symm)
        (inContext t.name d)) := by
  subst h
  exact hleads.inContext t.name

def closeAll (k : Key) {t : MessageTable R} {choice : Option (MessageTable R)}
    (h : choice = some t) (v : t.container.Fields)
    (mk : Contents other choice -> Pdu R other) : Decode (Pdu R other) :=
  inContext "F1apPdu" (inContext (kindName k.kind) (do
    let m <- cast (congrArg (fun c => Decode (Contents other c)) h.symm)
      (inContext t.name (t.container.close v))
    pure (mk m)))

theorem closeAll_message (k : Key) {t : MessageTable R}
    {choice : Option (MessageTable R)} (h : choice = some t)
    (msg : t.container.Message) (mk : Contents other choice -> Pdu R other)
    (source : Source) :
    (closeAll k h msg.1 mk source).1 =
      Outcome.ok (mk (cast (congrArg (Contents other) h.symm) msg)) := by
  subst h
  unfold closeAll
  simp only [t.container.close_message msg]
  rfl

theorem closeAll_missing (k : Key) {t : MessageTable R}
    {choice : Option (MessageTable R)} (h : choice = some t)
    {v : t.container.Fields} {f : t.Ie}
    (hmissing : t.container.missing v = some f)
    (mk : Contents other choice -> Pdu R other) (source : Source) :
    (closeAll k h v mk source).1 =
      Outcome.err ⟨"Missing mandatory IE " ++ (t.container.row f).name,
        [t.name, kindName k.kind, "F1apPdu"]⟩ := by
  subst h
  unfold closeAll
  simp only [t.container.close_missing hmissing]
  rfl

theorem SentPdu.carries (hR : R.Lawful) (others : OtherMessages other)
    {t : MessageTable R} {s : SentPdu t}
    (h : tableOf R s.key.kind s.key.code = some t) (hvalid : s.Valid) :
    Carries s.encode (decodePdu others)
      (closeAll s.key h (t.container.fieldsOf s.elements)
        (fun v => (⟨s.key, v⟩ : Pdu R other)))
      (120 + t.container.sentSize s.elements) := by
  rcases t.container.carries_sent hR hvalid.elements hvalid.few [] with
    ⟨contents, hrun, hsize, hleads⟩
  rw [List.nil_append] at hrun
  have hkind := carries_kind hR others s.key s.criticality hrun
    (hvalid.claim contents hsize) hsize
    (t.container.encodeSent_endsAligned hR hrun)
    (leads_contents others s.key h hleads)
  exact Carries.mono (carries_pdu hR hkind) (by lia)

theorem SentPdu.closes (hR : R.Lawful) (others : OtherMessages other)
    {t : MessageTable R} {s : SentPdu t}
    (h : tableOf R s.key.kind s.key.code = some t) (hvalid : s.Valid)
    {bytes : Bytes} (hbytes : R.encoded s.encode = Outcome.ok bytes)
    (more : Bytes) :
    exists source, fromBytes others (bytes ++ more) =
      (closeAll s.key h (t.container.fieldsOf s.elements)
        (fun v => (⟨s.key, v⟩ : Pdu R other)) source).1 := by
  rcases (SentPdu.carries hR others h hvalid).encoded hR with
    ⟨bytes', hbytes', hdecode⟩
  rw [hbytes'] at hbytes
  cases hbytes
  exact hdecode more

theorem SentPdu.decoded (hR : R.Lawful) (others : OtherMessages other)
    {t : MessageTable R} {s : SentPdu t}
    (h : tableOf R s.key.kind s.key.code = some t) (hvalid : s.Valid)
    {bytes : Bytes} (hbytes : R.encoded s.encode = Outcome.ok bytes)
    (more : Bytes) {msg : t.container.Message}
    (hmsg : t.container.fieldsOf s.elements = msg.1) :
    fromBytes others (bytes ++ more) = Outcome.ok (Pdu.ofTable s.key h msg) := by
  rcases SentPdu.closes hR others h hvalid hbytes more with ⟨source, hclose⟩
  rw [hclose, hmsg]
  exact closeAll_message s.key h msg _ source

/-- Whoever sends a message, and in whatever order, with whatever criticalities
and lengths: the decoder returns the message that the last element of each kind
makes up, or the error for the first mandatory element that is missing. -/
theorem fromBytes_sent (hR : R.Lawful) (others : OtherMessages other)
    {t : MessageTable R} (s : SentPdu t)
    (h : tableOf R s.key.kind s.key.code = some t) (hvalid : s.Valid) :
    exists bytes, R.encoded s.encode = Outcome.ok bytes ∧ forall more,
      (forall msg : t.container.Message,
        t.container.fieldsOf s.elements = msg.1 ->
          fromBytes others (bytes ++ more) =
            Outcome.ok (Pdu.ofTable s.key h msg)) ∧
        forall f,
          t.container.missing (t.container.fieldsOf s.elements) = some f ->
            (fromBytes others (bytes ++ more) :
                Outcome Per.PerCodecError (Pdu R other)) =
              Outcome.err ⟨"Missing mandatory IE " ++ (t.container.row f).name,
                [t.name, kindName s.key.kind, "F1apPdu"]⟩ := by
  rcases (SentPdu.carries hR others h hvalid).encoded hR with
    ⟨bytes, hbytes, _⟩
  refine ⟨bytes, hbytes, fun more => ⟨?_, ?_⟩⟩
  · intro msg hmsg
    exact SentPdu.decoded hR others h hvalid hbytes more hmsg
  · intro f hmissing
    rcases SentPdu.closes hR others h hvalid hbytes more with ⟨source, hclose⟩
    rw [hclose]
    exact closeAll_missing s.key h hmissing _ source

def noOthers : OtherMessages Empty where
  encode _ _ a := a.elim
  decode _ _ := refuse "Not modelled"
  criticality _ _ := Criticality.reject

def removalFailureKey : Key :=
  ⟨PduKind.unsuccessfulOutcome, 26, by decide⟩

/-- A failure with its elements out of order, one of them twice, all with the
criticality of a notification and without a length. -/
def sentFailure (R : Runtime) : SentPdu
    ⟨_, removalFailure R, "F1RemovalFailure", Criticality.reject⟩ where
  key := removalFailureKey
  criticality := Criticality.notify
  claim _ := 0
  elements :=
    [⟨⟨RemovalFailureIe.cause,
        FullCause.radioNetwork CauseRadioNetwork.normalRelease⟩,
        Criticality.notify, fun _ => 0⟩,
      ⟨⟨RemovalFailureIe.transactionId, (9 : UInt8)⟩, Criticality.notify,
        fun _ => 0⟩,
      ⟨⟨RemovalFailureIe.transactionId, (5 : UInt8)⟩, Criticality.notify,
        fun _ => 0⟩]

def failureFields (R : Runtime) : (removalFailure R).Message :=
  ⟨fun
    | RemovalFailureIe.transactionId => some (5 : UInt8)
    | RemovalFailureIe.cause =>
        some (FullCause.radioNetwork CauseRadioNetwork.normalRelease)
    | RemovalFailureIe.criticalityDiagnostics => none,
    fun f h => by cases f <;> first | rfl | cases h⟩

theorem transactionId_valid (id : UInt8) : (transactionId R).valid id :=
  ⟨Nat.zero_le _, Nat.le_of_lt_succ id.toNat_lt, by decide⟩

theorem cause_valid (c : FullCause) : (cause R).valid c := by
  have hfew : forall n, n <= 11 -> n <= 256 := by
    intro n hn
    lia
  cases c with
  | radioNetwork c =>
      exact ⟨Nat.zero_le 4, by decide, c, rfl, hfew 11 (by decide)⟩
  | transport c =>
      exact ⟨show 1 <= 4 by decide, by decide, c, rfl, hfew 2 (by decide)⟩
  | protocol c =>
      exact ⟨show 2 <= 4 by decide, by decide, c, rfl, hfew 7 (by decide)⟩
  | misc c =>
      exact ⟨show 3 <= 4 by decide, by decide, c, rfl, hfew 5 (by decide)⟩

theorem sentFailure_valid (R : Runtime) : (sentFailure R).Valid where
  elements e he := by
    simp only [sentFailure, List.mem_cons, List.not_mem_nil, or_false] at he
    rcases he with rfl | rfl | rfl
    · exact ⟨cause_valid _, fun _ _ => Nat.zero_lt_succ _⟩
    · exact ⟨transactionId_valid 9, fun _ _ => Nat.zero_lt_succ _⟩
    · exact ⟨transactionId_valid 5, fun _ _ => Nat.zero_lt_succ _⟩
  few := by
    change 3 <= 65535
    decide
  claim _ _ := Nat.zero_lt_succ _

theorem sentFailure_fields (R : Runtime) :
    (removalFailure R).fieldsOf (sentFailure R).elements =
      (failureFields R).1 := by
  funext f
  cases f with
  | transactionId => rfl
  | cause => rfl
  | criticalityDiagnostics => rfl

theorem fromBytes_sent_failure :
    exists bytes,
      Aligned.runtime.encoded (sentFailure Aligned.runtime).encode =
        Outcome.ok bytes ∧
      fromBytes noOthers (bytes ++ []) =
        Outcome.ok (Pdu.ofTable removalFailureKey rfl
          (failureFields Aligned.runtime)) := by
  rcases fromBytes_sent Aligned.runtime_lawful noOthers
    (sentFailure Aligned.runtime) rfl (sentFailure_valid _) with
    ⟨bytes, hbytes, hdecode⟩
  exact ⟨bytes, hbytes, (hdecode []).1 (failureFields _) (sentFailure_fields _)⟩

/-!
## The codec of QCore
-/

theorem leads_own (hR : R.Lawful) (others : OtherMessages other) (k : Key)
    (choice : Option (MessageTable R)) (m : Contents other choice)
    (h : ContentsValid choice m) :
    exists contents, encodeContents others k choice m [] =
        (Outcome.ok (), contents) ∧ contents.length <= 131064 ∧
      contents.length % 8 = 0 ∧
      Leads (decodeContents others k choice) 0 contents (pure m) := by
  cases choice with
  | none => exact h.elim
  | some t =>
      rcases t.container.message.conveys hR m h [] with
        ⟨contents, hrun, hsize, hreads⟩
      rw [List.nil_append] at hrun
      refine ⟨contents, inContext_ok.mpr hrun, Nat.le_trans hsize h.size,
        t.container.encodeSent_endsAligned hR hrun, ?_⟩
      exact hreads.inContext t.name

theorem Pdu.Valid.conveys (hR : R.Lawful) (others : OtherMessages other)
    {p : Pdu R other} (h : p.Valid) :
    Conveys (encodePdu others p) (decodePdu others) p 131184 := by
  rcases leads_own hR others p.1 (tableOf R p.1.kind p.1.code) p.2 h with
    ⟨contents, hrun, hsize, haligned, hleads⟩
  have hclaim : R.lengthInBytes contents < 16384 := by
    have hlength := hR.lengthInBytes contents
    lia
  have hkind := carries_kind hR others p.1
    (criticalityOf others p.1 (tableOf R p.1.kind p.1.code)) hrun hclaim hsize
    haligned hleads
  exact (carries_pdu hR
    (hkind.writeInContext (kindName p.1.kind))).writeInContext "F1apPdu"

def removalRequestKey : Key :=
  ⟨PduKind.initiatingMessage, 26, by decide⟩

def removalRequestOf (R : Runtime) (transactionId : UInt8) :
    (removalRequest R).Message :=
  ⟨fun
    | RemovalRequestIe.transactionId => some transactionId,
    fun
    | RemovalRequestIe.transactionId => fun _ => rfl⟩

theorem removalRequest_valid (R : Runtime) (id : UInt8) :
    Pdu.Valid (⟨removalRequestKey, removalRequestOf R id⟩ : Pdu R other) where
  values e he := by
    have hmem : e ∈ [(⟨RemovalRequestIe.transactionId, id⟩ :
        Sigma (removalRequest R).type)] := he
    rw [List.mem_singleton.mp hmem]
    exact transactionId_valid id
  size := by
    change 49 + (111 + 64 + 0) <= 131064
    decide

/-- What the decoder reads before the contents of a message. -/
def decodeKey (R : Runtime) : Decode Key := do
  let kind <- (kindCodec R).decode
  decodeCode R kind

theorem safe_decodeKey (hR : R.Lawful) (hquiet : R.Quiet) :
    Safe (decodeKey R) := by
  apply ((kindCodec R).safe hR hquiet).bind
  intro kind
  apply (hquiet.integer 0 255 false).bind
  intro id
  apply ((Criticality.codec R).safe hR hquiet).bind
  intro _
  apply (hquiet.length none).bind
  intro _
  cases Key.find kind id.1 with
  | some k => exact safe_pure k
  | none => exact safe_refuse _

section Panics

variable {others : OtherMessages other} {s : Source}

theorem decodeKind_panic_iff {kind : PduKind} :
    ((decodeKind others kind : Decode (Pdu R other)) s).1 = Outcome.panic <->
      (decodeCode R kind s).1 = Outcome.panic ∨
        exists k t, decodeCode R kind s = (Outcome.ok k, t) ∧
          (decodeContents others k (tableOf R k.kind k.code) t).1 =
            Outcome.panic := by
  unfold decodeKind
  rw [inContext_panic, Cmd.bind_panic]
  simp [Cmd.bind_panic]

theorem decodePdu_panic_iff :
    ((decodePdu others : Decode (Pdu R other)) s).1 = Outcome.panic <->
      (decodeKey R s).1 = Outcome.panic ∨
        exists k t, decodeKey R s = (Outcome.ok k, t) ∧
          (decodeContents others k (tableOf R k.kind k.code) t).1 =
            Outcome.panic := by
  unfold decodePdu decodeKey
  rw [inContext_panic, Cmd.bind_panic, Cmd.bind_panic]
  simp only [decodeKind_panic_iff, Cmd.bind_ok]
  constructor
  · rintro (h | ⟨kind, t, hkind, h | ⟨k, t', hcode, h⟩⟩)
    · exact Or.inl (Or.inl h)
    · exact Or.inl (Or.inr ⟨kind, t, hkind, h⟩)
    · exact Or.inr ⟨k, t', ⟨kind, t, hkind, hcode⟩, h⟩
  · rintro ((h | ⟨kind, t, hkind, h⟩) | ⟨k, t', ⟨kind, t, hkind, hcode⟩, h⟩)
    · exact Or.inl h
    · exact Or.inr ⟨kind, t, hkind, Or.inl h⟩
    · exact Or.inr ⟨kind, t, hkind, Or.inr ⟨k, t', hcode, h⟩⟩

theorem decodeContents_panic_iff (hR : R.Lawful) (hquiet : R.Quiet) {k : Key}
    {choice : Option (MessageTable R)} (hs : s.Whole) :
    (decodeContents others k choice s).1 = Outcome.panic <->
      choice = none ∧ (others.decode k.kind k.code s).1 = Outcome.panic := by
  cases choice with
  | none =>
      rw [eq_self_iff_true, true_and]
      rfl
  | some t =>
      have hsafe := (t.container.message.safe hR hquiet).inContext t.name s hs
      exact iff_of_false hsafe.left fun h => Option.some_ne_none t h.left

end Panics

/-- The decoder panics on an input exactly if the message in it is not one of
the modelled ones, and its own decoder panics on what is left. -/
theorem fromBytes_panic_iff (hR : R.Lawful) (hquiet : R.Quiet)
    (others : OtherMessages other) (bytes : Bytes) :
    (fromBytes others bytes : Outcome Per.PerCodecError (Pdu R other)) =
        Outcome.panic <->
      exists k t, decodeKey R ⟨0, bitsOfBytes bytes⟩ = (Outcome.ok k, t) ∧
        tableOf R k.kind k.code = none ∧
        (others.decode k.kind k.code t).1 = Outcome.panic := by
  have hwhole : Source.Whole ⟨0, bitsOfBytes bytes⟩ := by
    unfold Source.Whole
    rw [bitsOfBytes_length]
    lia
  have hkey := safe_decodeKey hR hquiet _ hwhole
  unfold fromBytes Per.fromBytes
  rw [decodePdu_panic_iff]
  constructor
  · rintro (h | ⟨k, t, hrun, h⟩)
    · exact absurd h hkey.left
    · exact ⟨k, t, hrun, (decodeContents_panic_iff hR hquiet
        (hkey.right k t hrun)).mp h⟩
  · rintro ⟨k, t, hrun, h⟩
    exact Or.inr ⟨k, t, hrun, (decodeContents_panic_iff hR hquiet
      (hkey.right k t hrun)).mpr h⟩

def panickingOthers : OtherMessages Empty where
  encode _ _ a := a.elim
  decode _ _ := Cmd.lift Outcome.panic
  criticality _ _ := Criticality.reject

theorem fromBytes_panic_iff_setup :
    (fromBytes panickingOthers [0, 1, 0, 0] :
        Outcome Per.PerCodecError (Pdu Aligned.runtime Empty)) =
      Outcome.panic :=
  (fromBytes_panic_iff Aligned.runtime_lawful Aligned.runtime_quiet
    panickingOthers [0, 1, 0, 0]).mpr
    ⟨⟨PduKind.initiatingMessage, 1, by decide⟩, ⟨32, []⟩, rfl, rfl, rfl⟩

/-!
## The first two octets
-/

def firstOctet : PduKind -> UInt8
  | PduKind.initiatingMessage => 0x00
  | PduKind.successfulOutcome => 0x40
  | PduKind.unsuccessfulOutcome => 0x80

theorem kindCodec_run (hR : R.Lawful) (kind : PduKind) (data : Bits) :
    (kindCodec R).encode kind data =
      (Outcome.ok (), data ++ bitsOfNat 2 (kindIdx kind)) := by
  have hidx : kindIdx kind <= 3 := by
    cases kind <;> decide
  change (R.encodeChoiceIdx 3 (kindIdx kind) >>= fun _ => _) data = _
  rw [Cmd.bind_run, hR.choiceOfFour (kindIdx kind) data hidx]
  cases kind <;> rfl

theorem encoded_front (hR : R.Lawful) {kind : PduKind} {code : UInt8}
    {m : Encode} {start bits : Bits} (hm : Appends m)
    (hkind : (kindCodec R).encode kind [] = (Outcome.ok (), start))
    (hrest : (R.encodeInteger 0 255 false code.toNat >>= fun _ => m) start =
      (Outcome.ok (), bits)) :
    exists rest, R.intoBytes bits = firstOctet kind :: code :: rest := by
  rw [kindCodec_run hR] at hkind
  cases hkind
  rcases Cmd.bind_ok.mp hrest with ⟨_, middle, hcode, hmore⟩
  rw [hR.octet] at hcode
  cases hcode
  rcases hm _ _ hmore with ⟨rest, hbits⟩
  rcases hR.intoBytes bits with ⟨pad, hbytes⟩
  have hfirst : bitsOfNat 2 (kindIdx kind) ++
      zeros (padding (bitsOfNat 2 (kindIdx kind)).length) =
        bitsOfByte (firstOctet kind) := by
    cases kind <;> rfl
  refine ⟨octets (rest ++ pad), ?_⟩
  rw [List.nil_append, ← List.append_assoc, hfirst, List.append_assoc] at hbits
  rw [← octets_bitsOfBytes (R.intoBytes bits), hbytes, ← hbits,
    List.append_assoc, List.append_assoc, bitsOfByte,
    octets_append (bitsOfNat_length 8 _), bitsOfByte,
    octets_append (bitsOfNat_length 8 _),
    natOfBits_bitsOfNat (firstOctet kind).toNat_lt,
    natOfBits_bitsOfNat code.toNat_lt, UInt8.ofNat_toNat, UInt8.ofNat_toNat]

theorem appends_contents (hR : R.Lawful) (criticality : Criticality) (m : Encode)
    (claim : Bits -> Nat) :
    Appends (do
      (Criticality.codec R).encode criticality
      let container <- fresh m
      encodeBoxed R (claim container) container) := by
  apply ((Criticality.codec R).conveys hR criticality
    (Criticality.valid criticality)).appends.bind
  intro data data' hrun
  rcases Cmd.bind_ok.mp hrun with ⟨container, middle, hfresh, hboxed⟩
  rw [(fresh_ok.mp hfresh).right] at hboxed
  exact encodeBoxed_appends hR (claim container) container data data' hboxed

theorem intoBytes_front (hR : R.Lawful) {others : OtherMessages other}
    {p : Pdu R other} {bytes : Bytes} (h : intoBytes others p = Outcome.ok bytes) :
    exists rest, bytes = firstOctet p.1.kind :: p.1.code :: rest := by
  rcases Runtime.encoded_ok.mp h with ⟨bits, hrun, rfl⟩
  rcases Cmd.bind_ok.mp (inContext_ok.mp hrun) with ⟨_, start, hkind, hrest⟩
  exact encoded_front hR (appends_contents hR _ _ _) hkind
    (inContext_ok.mp hrest)

theorem SentPdu.front (hR : R.Lawful) {t : MessageTable R} {s : SentPdu t}
    {bytes : Bytes} (h : R.encoded s.encode = Outcome.ok bytes) :
    exists rest, bytes = firstOctet s.key.kind :: s.key.code :: rest := by
  rcases Runtime.encoded_ok.mp h with ⟨bits, hrun, rfl⟩
  rcases Cmd.bind_ok.mp hrun with ⟨_, start, hkind, hrest⟩
  exact encoded_front hR (appends_contents hR _ _ _) hkind hrest

theorem matchFn_front {kind : PduKind} {code id : UInt8} {rest : Bytes} :
    (matchFn code (firstOctet kind :: id :: rest) : Outcome Empty Bool) =
        Outcome.ok true <->
      kind ≠ PduKind.initiatingMessage ∧ id = code := by
  rw [TopPdu.matchFn_true_iff]
  cases kind with
  | initiatingMessage => simp [firstOctet]
  | successfulOutcome => simp [firstOctet]
  | unsuccessfulOutcome => simp [firstOctet]

/-- The test of `Stack::request` on what the encoder writes: the responses of
the procedure pass it, and no other PDU does. -/
theorem matchFn_intoBytes (hR : R.Lawful) (others : OtherMessages other)
    (p : Pdu R other) (bytes : Bytes) (code : UInt8)
    (h : intoBytes others p = Outcome.ok bytes) :
    (matchFn code bytes : Outcome Empty Bool) = Outcome.ok true <->
      p.1.kind ≠ PduKind.initiatingMessage ∧ p.1.code = code := by
  rcases intoBytes_front hR h with ⟨rest, hbytes⟩
  rw [hbytes]
  exact matchFn_front

theorem matchFn_intoBytes_removalRequest :
    intoBytes (R := Aligned.runtime) noOthers
        ⟨removalRequestKey, removalRequestOf _ 5⟩ =
          Outcome.ok [0, 26, 0, 9, 0, 0, 1, 0, 78, 0, 2, 0, 5] ∧
      ((matchFn 26 [0, 26, 0, 9, 0, 0, 1, 0, 78, 0, 2, 0, 5] :
          Outcome Empty Bool) = Outcome.ok true <->
        removalRequestKey.kind ≠ PduKind.initiatingMessage ∧
          removalRequestKey.code = 26) := by
  have hbytes : intoBytes (R := Aligned.runtime) noOthers
      ⟨removalRequestKey, removalRequestOf _ 5⟩ =
        Outcome.ok [0, 26, 0, 9, 0, 0, 1, 0, 78, 0, 2, 0, 5] := by
    decide +kernel
  exact ⟨hbytes, matchFn_intoBytes Aligned.runtime_lawful noOthers _ _ 26 hbytes⟩

end Codec
end F1ap
end QCore
