import QCore.F1ap.Build

/-!
# F1AP requests to QCore

What `handle_request` does with the octets that a DU sends: `F1apCu` routes the
PDU by its type to `F1apHandler`, which answers three kinds of requests and
dispatches three kinds of indications to UE tasks.  Everything else, and
everything that cannot be decoded, is dropped.

`decode_response` is the other end of a request.  The results here go through
both ends, over the octets.
-/

namespace QCore
namespace F1ap
namespace Codec

open Foundation
open Foundation.Per
open Stack

variable {R : Runtime} {other : Type}

/-!
## The contents of a PDU
-/

def Pdu.message? (k : Key) {t : MessageTable R}
    (h : tableOf R k.kind k.code = some t) (p : Pdu R other) :
    Option t.container.Message :=
  if hk : p.1 = k then
    some (cast ((congrArg
      (fun k : Key => Contents other (tableOf R k.kind k.code)) hk).trans
        (congrArg (Contents other) h)) p.2)
  else
    none

def Pdu.other? (k : Key) (h : tableOf R k.kind k.code = none) (p : Pdu R other) :
    Option other :=
  if hk : p.1 = k then
    some (cast ((congrArg
      (fun k : Key => Contents other (tableOf R k.kind k.code)) hk).trans
        (congrArg (Contents other) h)) p.2)
  else
    none

theorem message?_ofTable (k : Key) {t : MessageTable R}
    (h : tableOf R k.kind k.code = some t) (m : t.container.Message) :
    (Pdu.ofTable k h m : Pdu R other).message? k h = some m := by
  unfold Pdu.message? Pdu.ofTable
  rw [dif_pos rfl]
  exact congrArg some (cast_cast _ _ m)

theorem dite_some_eq_none {α : Type} {c : Prop} [Decidable c] {f : c -> α} :
    (if h : c then some (f h) else none) = none <-> ¬ c := by
  rw [dite_eq_right_iff]
  exact ⟨fun h hc => Option.some_ne_none (f hc) (h hc),
    fun hnot hc => absurd hc hnot⟩

theorem message?_eq_none {k : Key} {t : MessageTable R}
    {h : tableOf R k.kind k.code = some t} {p : Pdu R other} :
    p.message? k h = none <-> p.1 ≠ k :=
  dite_some_eq_none

theorem other?_eq_none {k : Key} {h : tableOf R k.kind k.code = none}
    {p : Pdu R other} : p.other? k h = none <-> p.1 ≠ k :=
  dite_some_eq_none

theorem message?_key {k : Key} {t : MessageTable R}
    {h : tableOf R k.kind k.code = some t} {p : Pdu R other}
    {m : t.container.Message} (hm : p.message? k h = some m) : p.1 = k := by
  by_contra hne
  rw [message?_eq_none.mpr hne] at hm
  cases hm

theorem other?_key {k : Key} {h : tableOf R k.kind k.code = none} {p : Pdu R other}
    {m : other} (hm : p.other? k h = some m) : p.1 = k := by
  by_contra hne
  rw [other?_eq_none.mpr hne] at hm
  cases hm

def field {F : Type} [DecidableEq F] {C : Container R F} (m : C.Message) (f : F)
    (h : (C.row f).mandatory = true) : C.type f :=
  (m.1 f).get (m.2 f h)

/-!
## The messages that are handled
-/

/-- The variant of a cause, which the code does not look into. -/
def causeOf : FullCause -> F1ap.Cause
  | FullCause.radioNetwork CauseRadioNetwork.normalRelease =>
      F1ap.Cause.normalRelease
  | FullCause.radioNetwork c => F1ap.Cause.other c.ctorIdx
  | FullCause.transport c => F1ap.Cause.other (16 + c.ctorIdx)
  | FullCause.protocol c => F1ap.Cause.other (32 + c.ctorIdx)
  | FullCause.misc c => F1ap.Cause.other (48 + c.ctorIdx)

/-- The identity of a cell, which is passed on to the DU. -/
def cgiOf (c : NrCgi) : Bytes :=
  c.plmnIdentity.toList ++ octets (c.nrCellIdentity ++
    zeros (padding c.nrCellIdentity.length))

def initialUlKey : Key :=
  ⟨PduKind.initiatingMessage, 11, by decide⟩

def ulKey : Key :=
  ⟨PduKind.initiatingMessage, 13, by decide⟩

def releaseRequestKey : Key :=
  ⟨PduKind.initiatingMessage, 10, by decide⟩

def initialUlOf (m : (initialUl R).Message) : InitialUlRrcMessageTransfer where
  gnbDuUeF1apId := field m InitialUlIe.gnbDuUeF1apId rfl
  nrCgi := cgiOf (field m InitialUlIe.nrCgi rfl)
  rrcContainer := field m InitialUlIe.rrcContainer rfl
  duToCuRrcContainer := m.1 InitialUlIe.duToCuRrcContainer

def ulOf (m : (ul R).Message) : UlRrcMessageTransfer where
  gnbCuUeF1apId := field m UlIe.gnbCuUeF1apId rfl
  rrcContainer := field m UlIe.rrcContainer rfl

def releaseRequestOf (m : (releaseRequest R).Message) :
    UeContextReleaseRequest where
  gnbCuUeF1apId := field m ReleaseRequestIe.gnbCuUeF1apId rfl
  cause := causeOf (field m ReleaseRequestIe.cause rfl)

/-!
## F1 setup
-/

structure ServedCell where
  nrCgi : NrCgi
  nrPci : UInt16
deriving DecidableEq, Repr

structure F1SetupRequest where
  transactionId : UInt8
  gnbDuServedCellsList : Option (NonEmpty ServedCell)

structure SibTypeToBeUpdatedListItem where
  sibType : UInt8
  sibMessage : Bytes
  valueTag : UInt8
deriving DecidableEq, Repr

structure CellsToBeActivatedListItem where
  nrCgi : NrCgi
  nrPci : Option UInt16
  sibTypeToBeUpdatedList : NonEmpty SibTypeToBeUpdatedListItem

structure F1SetupResponse where
  transactionId : UInt8
  latestRrcVersion : Bits
  gnbCuName : Option Bytes
  cellsToBeActivatedList : Option (NonEmpty CellsToBeActivatedListItem)

def servedCellToActivated (servedCell : ServedCell) (sib2 : Bytes) :
    CellsToBeActivatedListItem where
  nrCgi := servedCell.nrCgi
  nrPci := some servedCell.nrPci
  sibTypeToBeUpdatedList := ⟨⟨2, sib2, 0⟩, []⟩

/-- All served cells are to be activated.  It fails if SIB2 cannot be encoded,
also when there is no cell. -/
def f1SetupResponse (sib2 : Option Bytes) (r : F1SetupRequest)
    (gnbCuName : Option Bytes) : Option F1SetupResponse :=
  sib2.map fun sib2 =>
    { transactionId := r.transactionId
      latestRrcVersion := [false, false, false]
      gnbCuName := gnbCuName
      cellsToBeActivatedList := r.gnbDuServedCellsList.map fun cells =>
        ⟨servedCellToActivated cells.head sib2,
          cells.tail.map fun cell => servedCellToActivated cell sib2⟩ }

/-- The messages without a table: what is read of the requests, and the
responses. -/
structure CuServices (other : Type) where
  setupRequest : other -> F1SetupRequest
  setupResponse : F1SetupResponse -> other
  updateTransactionId : other -> UInt8
  acknowledge : UInt8 -> other
  sib2 : Option Bytes
  gnbCuName : Option Bytes

def setupKey : Key :=
  ⟨PduKind.initiatingMessage, 1, by decide⟩

def setupResponseKey : Key :=
  ⟨PduKind.successfulOutcome, 1, by decide⟩

def updateKey : Key :=
  ⟨PduKind.initiatingMessage, 3, by decide⟩

def acknowledgeKey : Key :=
  ⟨PduKind.successfulOutcome, 3, by decide⟩

/-!
## Routing
-/

inductive CuAction where
  | spawnUe (r : InitialUlRrcMessageTransfer)
  | dispatchUe (pdu : F1apPdu)
  | deleteUeChannels
deriving DecidableEq, Repr

abbrev Served (answer : Type) : Type :=
  Option CuAction × Option answer

section Routes

variable (svc : CuServices other) (p : Pdu R other)

/-- A request that fails is answered by `todo!()`. -/
def routeSetup : Option (Outcome Empty (Served (Pdu R other))) :=
  (p.other? setupKey rfl).map fun r =>
    match f1SetupResponse svc.sib2 (svc.setupRequest r) svc.gnbCuName with
    | some response =>
        Outcome.ok (none, some ⟨setupResponseKey, svc.setupResponse response⟩)
    | none => Outcome.panic

def routeRemoval : Option (Outcome Empty (Served (Pdu R other))) :=
  (p.message? removalRequestKey rfl).map fun m =>
    Outcome.ok (some CuAction.deleteUeChannels,
      some (removalResponsePdu (field m RemovalRequestIe.transactionId rfl)))

def routeInitialUl : Option (Outcome Empty (Served (Pdu R other))) :=
  (p.message? initialUlKey rfl).map fun m =>
    Outcome.ok (some (CuAction.spawnUe (initialUlOf m)), none)

def routeUl : Option (Outcome Empty (Served (Pdu R other))) :=
  (p.message? ulKey rfl).map fun m =>
    Outcome.ok (some (CuAction.dispatchUe
      (F1apPdu.ulRrcMessageTransfer (ulOf m))), none)

def routeUpdate : Option (Outcome Empty (Served (Pdu R other))) :=
  (p.other? updateKey rfl).map fun r =>
    Outcome.ok (none, some ⟨acknowledgeKey,
      svc.acknowledge (svc.updateTransactionId r)⟩)

def routeReleaseRequest : Option (Outcome Empty (Served (Pdu R other))) :=
  (p.message? releaseRequestKey rfl).map fun m =>
    Outcome.ok (some (CuAction.dispatchUe
      (F1apPdu.ueContextReleaseRequest (releaseRequestOf m))), none)

def routeRequest : Outcome Empty (Served (Pdu R other)) :=
  (((((((routeSetup svc p).or (routeRemoval p)).or (routeInitialUl p)).or
    (routeUl p)).or (routeUpdate svc p)).or (routeReleaseRequest p)).getD
      (Outcome.ok (none, none)))

end Routes

def encodeAnswer (others : OtherMessages other) :
    Option (Pdu R other) -> Outcome Empty (Option Bytes)
  | none => Outcome.ok none
  | some q =>
      match intoBytes others q with
      | Outcome.ok bytes => Outcome.ok (some bytes)
      | Outcome.err _ => Outcome.ok none
      | Outcome.panic => Outcome.panic

/-- `handle_request` -/
def handleRequest (R : Runtime) (svc : CuServices other)
    (others : OtherMessages other) (bytes : Bytes) :
    Outcome Empty (Served Bytes) :=
  match (fromBytes others bytes : Outcome Per.PerCodecError (Pdu R other)) with
  | Outcome.ok p => do
      let served <- routeRequest svc p
      let answer <- encodeAnswer others served.2
      pure (served.1, answer)
  | Outcome.err _ => Outcome.ok (none, none)
  | Outcome.panic => Outcome.panic

/-!
## Responses
-/

inductive ResponseError (failure : Type) where
  | codec (e : Per.PerCodecError)
  | unsuccessfulOutcome (f : failure)
  | unexpectedPduContents

/-- `decode_response`, for a procedure with this response and these failures. -/
def decodeResponse (others : OtherMessages other) (k : Key) {t : MessageTable R}
    (h : tableOf R k.kind k.code = some t) {failure : Type}
    (failure? : Pdu R other -> Option failure) (bytes : Bytes) :
    Outcome (ResponseError failure) t.container.Message := do
  let p <- (fromBytes others bytes).mapErr ResponseError.codec
  match p.message? k h with
  | some m => pure m
  | none =>
      match failure? p with
      | some f => Outcome.err (ResponseError.unsuccessfulOutcome f)
      | none => Outcome.err ResponseError.unexpectedPduContents

theorem decodeResponse_ok {others : OtherMessages other} {k : Key}
    {t : MessageTable R} {h : tableOf R k.kind k.code = some t} {failure : Type}
    {failure? : Pdu R other -> Option failure} {bytes : Bytes}
    {m : t.container.Message}
    (hdecode : fromBytes others bytes = Outcome.ok (Pdu.ofTable k h m)) :
    decodeResponse others k h failure? bytes = Outcome.ok m := by
  unfold decodeResponse
  rw [hdecode]
  change (match (Pdu.ofTable k h m : Pdu R other).message? k h with
    | some m => pure m
    | none => _) = Outcome.ok m
  rw [message?_ofTable]
  rfl

def decodeRemovalResponse (others : OtherMessages other) (bytes : Bytes) :
    Outcome (ResponseError (removalFailure R).Message)
      (removalResponse R).Message :=
  decodeResponse others removalResponseKey rfl
    (Pdu.message? removalFailureKey rfl) bytes

def releaseCompleteKey : Key :=
  ⟨PduKind.successfulOutcome, 6, by decide⟩

def decodeReleaseResponse (others : OtherMessages other) (bytes : Bytes) :
    Outcome (ResponseError Unit) (releaseComplete R).Message :=
  decodeResponse others releaseCompleteKey rfl (fun _ => none) bytes

/-!
## What is routed where
-/

def handledKeys : List Key :=
  [setupKey, removalRequestKey, initialUlKey, ulKey, updateKey,
    releaseRequestKey]

inductive Routed (svc : CuServices other) (p : Pdu R other) :
    Outcome Empty (Served (Pdu R other)) -> Prop where
  | setup (response : F1SetupResponse) :
      p.1 = setupKey -> svc.sib2 ≠ none ->
      Routed svc p (Outcome.ok (none,
        some ⟨setupResponseKey, svc.setupResponse response⟩))
  | setupFailed :
      p.1 = setupKey -> svc.sib2 = none -> Routed svc p Outcome.panic
  | removal {m : (removalRequest R).Message} :
      p.message? removalRequestKey rfl = some m ->
      Routed svc p (Outcome.ok (some CuAction.deleteUeChannels,
        some (removalResponsePdu
          (field m RemovalRequestIe.transactionId rfl))))
  | initialUl {m : (initialUl R).Message} :
      p.message? initialUlKey rfl = some m ->
      Routed svc p (Outcome.ok (some (CuAction.spawnUe (initialUlOf m)), none))
  | ul {m : (ul R).Message} :
      p.message? ulKey rfl = some m ->
      Routed svc p (Outcome.ok (some (CuAction.dispatchUe
        (F1apPdu.ulRrcMessageTransfer (ulOf m))), none))
  | update (r : other) :
      p.1 = updateKey ->
      Routed svc p (Outcome.ok (none, some ⟨acknowledgeKey,
        svc.acknowledge (svc.updateTransactionId r)⟩))
  | releaseRequest {m : (releaseRequest R).Message} :
      p.message? releaseRequestKey rfl = some m ->
      Routed svc p (Outcome.ok (some (CuAction.dispatchUe
        (F1apPdu.ueContextReleaseRequest (releaseRequestOf m))), none))
  | dropped : p.1 ∉ handledKeys -> Routed svc p (Outcome.ok (none, none))

/-- The first route that takes a PDU decides. -/
theorem getD_or_of {α : Type} {P : α -> Prop} {x y : Option α} {d : α}
    (h : forall a, x = some a -> P a) (hrest : x = none -> P (y.getD d)) :
    P ((x.or y).getD d) := by
  cases hx : x with
  | none => exact hrest hx
  | some a => exact h a hx

section Routed

variable {svc : CuServices other} {p : Pdu R other}
  {r : Outcome Empty (Served (Pdu R other))}

theorem routeSetup_routed (h : routeSetup svc p = some r) : Routed svc p r := by
  rcases Option.map_eq_some_iff.mp h with ⟨m, hm, rfl⟩
  cases hsib2 : svc.sib2 with
  | none => exact Routed.setupFailed (other?_key hm) hsib2
  | some sib2 => exact Routed.setup _ (other?_key hm) (by simp [hsib2])

theorem routeRemoval_routed (h : routeRemoval p = some r) :
    Routed svc p r := by
  rcases Option.map_eq_some_iff.mp h with ⟨m, hm, rfl⟩
  exact Routed.removal hm

theorem routeInitialUl_routed (h : routeInitialUl p = some r) :
    Routed svc p r := by
  rcases Option.map_eq_some_iff.mp h with ⟨m, hm, rfl⟩
  exact Routed.initialUl hm

theorem routeUl_routed (h : routeUl p = some r) : Routed svc p r := by
  rcases Option.map_eq_some_iff.mp h with ⟨m, hm, rfl⟩
  exact Routed.ul hm

theorem routeUpdate_routed (h : routeUpdate svc p = some r) :
    Routed svc p r := by
  rcases Option.map_eq_some_iff.mp h with ⟨m, hm, rfl⟩
  exact Routed.update m (other?_key hm)

theorem routeReleaseRequest_routed (h : routeReleaseRequest p = some r) :
    Routed svc p r := by
  rcases Option.map_eq_some_iff.mp h with ⟨m, hm, rfl⟩
  exact Routed.releaseRequest hm

theorem routeSetup_none : routeSetup svc p = none <-> p.1 ≠ setupKey :=
  Option.map_eq_none_iff.trans other?_eq_none

theorem routeRemoval_none : routeRemoval p = none <-> p.1 ≠ removalRequestKey :=
  Option.map_eq_none_iff.trans message?_eq_none

theorem routeInitialUl_none : routeInitialUl p = none <-> p.1 ≠ initialUlKey :=
  Option.map_eq_none_iff.trans message?_eq_none

theorem routeUl_none : routeUl p = none <-> p.1 ≠ ulKey :=
  Option.map_eq_none_iff.trans message?_eq_none

theorem routeUpdate_none : routeUpdate svc p = none <-> p.1 ≠ updateKey :=
  Option.map_eq_none_iff.trans other?_eq_none

theorem routeReleaseRequest_none :
    routeReleaseRequest p = none <-> p.1 ≠ releaseRequestKey :=
  Option.map_eq_none_iff.trans message?_eq_none

end Routed

theorem routeRequest_routed (svc : CuServices other) (p : Pdu R other) :
    Routed svc p (routeRequest svc p) := by
  unfold routeRequest
  rw [Option.or_assoc, Option.or_assoc, Option.or_assoc, Option.or_assoc]
  refine getD_or_of (fun r h => routeSetup_routed h) fun hsetup => ?_
  refine getD_or_of (fun r h => routeRemoval_routed h) fun hremoval => ?_
  refine getD_or_of (fun r h => routeInitialUl_routed h) fun hinitial => ?_
  refine getD_or_of (fun r h => routeUl_routed h) fun hul => ?_
  refine getD_or_of (fun r h => routeUpdate_routed h) fun hupdate => ?_
  cases hrelease : routeReleaseRequest p with
  | some r => exact routeReleaseRequest_routed hrelease
  | none =>
      apply Routed.dropped
      simp only [handledKeys, List.mem_cons, List.not_mem_nil, not_or]
      exact ⟨routeSetup_none.mp hsetup, routeRemoval_none.mp hremoval,
        routeInitialUl_none.mp hinitial, routeUl_none.mp hul,
        routeUpdate_none.mp hupdate, routeReleaseRequest_none.mp hrelease, id⟩

section Handling

variable {svc : CuServices other} {others : OtherMessages other} {bytes : Bytes}

theorem handleRequest_decoded {p : Pdu R other}
    (h : fromBytes others bytes = Outcome.ok p) :
    handleRequest R svc others bytes =
      (do
        let served <- routeRequest svc p
        let answer <- encodeAnswer others served.2
        pure (served.1, answer)) := by
  unfold handleRequest
  rw [h]

theorem handleRequest_ok {action : Option CuAction} {answer : Option Bytes}
    (h : handleRequest R svc others bytes = Outcome.ok (action, answer)) :
    (action = none ∧ answer = none) ∨
      exists (p : Pdu R other) (reply : Option (Pdu R other)),
        fromBytes others bytes = Outcome.ok p ∧
        routeRequest svc p = Outcome.ok (action, reply) ∧
        encodeAnswer others reply = Outcome.ok answer := by
  cases hdecode : (fromBytes others bytes :
      Outcome Per.PerCodecError (Pdu R other)) with
  | err e =>
      unfold handleRequest at h
      rw [hdecode] at h
      cases h
      exact Or.inl ⟨rfl, rfl⟩
  | panic =>
      unfold handleRequest at h
      rw [hdecode] at h
      cases h
  | ok p =>
      rw [handleRequest_decoded hdecode] at h
      rcases Outcome.bind_eq_ok.mp h with ⟨⟨action', reply⟩, hroute, hrest⟩
      rcases Outcome.bind_eq_ok.mp hrest with ⟨answer', hencode, hpure⟩
      cases hpure
      exact Or.inr ⟨p, reply, rfl, hroute, hencode⟩

theorem encodeAnswer_of_ok {q : Pdu R other}
    (h : intoBytes others q = Outcome.ok bytes) :
    encodeAnswer others (some q) = Outcome.ok (some bytes) := by
  simp only [encodeAnswer, h]

end Handling

/-!
## Any sender
-/

/-- Octets with which some sender says this, in its own order and with its own
criticalities and lengths. -/
def Says (k : Key) {t : MessageTable R} (_h : tableOf R k.kind k.code = some t)
    (m : t.container.Message) (bytes : Bytes) : Prop :=
  exists s : SentPdu t, s.key = k ∧ s.Valid ∧
    t.container.fieldsOf s.elements = m.1 ∧
    R.encoded s.encode = Outcome.ok bytes

section Says

variable {k : Key} {t : MessageTable R} {h : tableOf R k.kind k.code = some t}
  {m : t.container.Message} {bytes : Bytes}

theorem Says.decoded (hR : R.Lawful) (hsent : Says k h m bytes)
    (others : OtherMessages other) (more : Bytes) :
    fromBytes others (bytes ++ more) = Outcome.ok (Pdu.ofTable k h m) := by
  rcases hsent with ⟨s, hkey, hvalid, hfields, hbytes⟩
  subst hkey
  exact SentPdu.decoded hR others h hvalid hbytes more hfields

theorem Says.handled (hR : R.Lawful) (hsent : Says k h m bytes)
    (svc : CuServices other) (others : OtherMessages other) (more : Bytes)
    {action : Option CuAction} {answer : Option (Pdu R other)}
    {reply : Option Bytes}
    (hroute : forall p : Pdu R other, p.message? k h = some m ->
      routeRequest svc p = Outcome.ok (action, answer))
    (hanswer : encodeAnswer others answer = Outcome.ok reply) :
    handleRequest R svc others (bytes ++ more) = Outcome.ok (action, reply) := by
  rw [handleRequest_decoded (hsent.decoded hR others more),
    hroute _ (message?_ofTable k h m), Outcome.ok_bind, hanswer]
  rfl

theorem Says.matches (hR : R.Lawful) (hsent : Says k h m bytes)
    (hkind : k.kind ≠ PduKind.initiatingMessage) (more : Bytes) :
    (matchFn k.code (bytes ++ more) : Outcome Empty Bool) =
      Outcome.ok true := by
  rcases hsent with ⟨s, hkey, _, _, hbytes⟩
  rcases SentPdu.front hR hbytes with ⟨rest, hfront⟩
  rw [hfront, hkey]
  exact matchFn_front.mpr ⟨hkind, rfl⟩

end Says

section

variable {svc : CuServices other} {p : Pdu R other}

theorem routeRequest_removal {m : (removalRequest R).Message}
    (hm : p.message? removalRequestKey rfl = some m) :
    routeRequest svc p = Outcome.ok (some CuAction.deleteUeChannels,
      some (removalResponsePdu
        (field m RemovalRequestIe.transactionId rfl))) := by
  have hkey := message?_key hm
  rw [routeRequest, routeSetup_none.mpr (by rw [hkey]; decide), routeRemoval, hm]
  rfl

theorem routeRequest_initialUl {m : (initialUl R).Message}
    (hm : p.message? initialUlKey rfl = some m) :
    routeRequest svc p =
      Outcome.ok (some (CuAction.spawnUe (initialUlOf m)), none) := by
  have hkey := message?_key hm
  rw [routeRequest, routeSetup_none.mpr (by rw [hkey]; decide),
    routeRemoval_none.mpr (by rw [hkey]; decide), routeInitialUl, hm]
  rfl

theorem routeRequest_ul {m : (ul R).Message}
    (hm : p.message? ulKey rfl = some m) :
    routeRequest svc p = Outcome.ok (some (CuAction.dispatchUe
      (F1apPdu.ulRrcMessageTransfer (ulOf m))), none) := by
  have hkey := message?_key hm
  rw [routeRequest, routeSetup_none.mpr (by rw [hkey]; decide),
    routeRemoval_none.mpr (by rw [hkey]; decide),
    routeInitialUl_none.mpr (by rw [hkey]; decide), routeUl, hm]
  rfl

theorem routeRequest_releaseRequest {m : (releaseRequest R).Message}
    (hm : p.message? releaseRequestKey rfl = some m) :
    routeRequest svc p = Outcome.ok (some (CuAction.dispatchUe
      (F1apPdu.ueContextReleaseRequest (releaseRequestOf m))), none) := by
  have hkey := message?_key hm
  rw [routeRequest, routeSetup_none.mpr (by rw [hkey]; decide),
    routeRemoval_none.mpr (by rw [hkey]; decide),
    routeInitialUl_none.mpr (by rw [hkey]; decide),
    routeUl_none.mpr (by rw [hkey]; decide),
    routeUpdate_none.mpr (by rw [hkey]; decide), routeReleaseRequest, hm]
  rfl

end

/-- A core whose other messages are numbers. -/
def numberMessages (R : Runtime) : OtherMessages Nat where
  encode _ _ n := R.encodeLengthDeterminent (some (0, 65535)) n
  decode _ _ := R.decodeLengthDeterminent (some (0, 65535))
  criticality _ _ := Criticality.reject

def numberServices : CuServices Nat where
  setupRequest n := ⟨UInt8.ofNat n, none⟩
  setupResponse r := r.transactionId.toNat
  updateTransactionId n := UInt8.ofNat n
  acknowledge id := id.toNat
  sib2 := some [0]
  gnbCuName := none

/-- Indications reach the UE tasks as their sender meant them. -/
theorem indications_dispatched (hR : R.Lawful) (svc : CuServices other)
    (others : OtherMessages other) (bytes more : Bytes) :
    (forall m : (initialUl R).Message, Says initialUlKey rfl m bytes ->
      handleRequest R svc others (bytes ++ more) =
        Outcome.ok (some (CuAction.spawnUe (initialUlOf m)), none)) ∧
    (forall m : (ul R).Message, Says ulKey rfl m bytes ->
      handleRequest R svc others (bytes ++ more) =
        Outcome.ok (some (CuAction.dispatchUe
          (F1apPdu.ulRrcMessageTransfer (ulOf m))), none)) ∧
    forall m : (releaseRequest R).Message, Says releaseRequestKey rfl m bytes ->
      handleRequest R svc others (bytes ++ more) =
        Outcome.ok (some (CuAction.dispatchUe
          (F1apPdu.ueContextReleaseRequest (releaseRequestOf m))), none) := by
  refine ⟨?_, ?_, ?_⟩
  · intro m hsent
    exact hsent.handled hR svc others more
      (fun p hm => routeRequest_initialUl hm) rfl
  · intro m hsent
    exact hsent.handled hR svc others more (fun p hm => routeRequest_ul hm) rfl
  · intro m hsent
    exact hsent.handled hR svc others more
      (fun p hm => routeRequest_releaseRequest hm) rfl

/-- A transfer with its elements in the reverse order and without lengths. -/
def sentTransfer (R : Runtime) : SentPdu
    ⟨_, ul R, "UlRrcMessageTransfer", Criticality.ignore⟩ where
  key := ulKey
  criticality := Criticality.reject
  claim _ := 0
  elements :=
    [⟨⟨UlIe.rrcContainer, ([7, 8] : Bytes)⟩, Criticality.reject, fun _ => 0⟩,
      ⟨⟨UlIe.srbId, (1 : UInt8)⟩, Criticality.reject, fun _ => 0⟩,
      ⟨⟨UlIe.gnbDuUeF1apId, (2 : UInt32)⟩, Criticality.reject, fun _ => 0⟩,
      ⟨⟨UlIe.gnbCuUeF1apId, (3 : UInt32)⟩, Criticality.reject, fun _ => 0⟩]

def transferFields (R : Runtime) : (ul R).Message :=
  ⟨fun
    | UlIe.gnbCuUeF1apId => some (3 : UInt32)
    | UlIe.gnbDuUeF1apId => some (2 : UInt32)
    | UlIe.srbId => some (1 : UInt8)
    | UlIe.rrcContainer => some ([7, 8] : Bytes)
    | UlIe.selectedPlmnId => none
    | UlIe.newGnbDuUeF1apId => none,
    fun f h => by cases f <;> first | rfl | cases h⟩

theorem sentTransfer_valid (R : Runtime) : (sentTransfer R).Valid where
  elements e he := by
    simp only [sentTransfer, List.mem_cons, List.not_mem_nil, or_false] at he
    rcases he with rfl | rfl | rfl | rfl
    · exact ⟨show 2 < 16384 by decide, fun _ _ => Nat.zero_lt_succ _⟩
    · exact ⟨srbId_valid (show (1 : UInt8).toNat <= 3 by decide),
        fun _ _ => Nat.zero_lt_succ _⟩
    · exact ⟨ueId_valid R 2, fun _ _ => Nat.zero_lt_succ _⟩
    · exact ⟨ueId_valid R 3, fun _ _ => Nat.zero_lt_succ _⟩
  few := by
    change 4 <= 65535
    decide
  claim _ _ := Nat.zero_lt_succ _

theorem says_transferFields :
    Says ulKey rfl (transferFields Aligned.runtime)
      [0, 13, 0, 0, 0, 0, 4, 0, 50, 0, 0, 2, 7, 8, 0, 64, 0, 0, 32, 0, 41, 0, 0,
        0, 2, 0, 40, 0, 0, 0, 3] := by
  refine ⟨sentTransfer Aligned.runtime, rfl, sentTransfer_valid _, ?_,
    by decide +kernel⟩
  funext f
  cases f <;> rfl

theorem indications_dispatched_transferFields :
    handleRequest Aligned.runtime numberServices (numberMessages Aligned.runtime)
        ([0, 13, 0, 0, 0, 0, 4, 0, 50, 0, 0, 2, 7, 8, 0, 64, 0, 0, 32, 0, 41, 0,
          0, 0, 2, 0, 40, 0, 0, 0, 3] ++ []) =
      Outcome.ok (some (CuAction.dispatchUe
        (F1apPdu.ulRrcMessageTransfer ⟨3, [7, 8]⟩)), none) :=
  (indications_dispatched Aligned.runtime_lawful numberServices _ _ []).2.1
    (transferFields Aligned.runtime) says_transferFields

/-!
## Exchanges
-/

/-- An F1 removal, from the octets of the request to what the DU reads in the
response. -/
theorem removal_exchange (hR : R.Lawful) (svc : CuServices other)
    (others : OtherMessages other) (m : (removalRequest R).Message)
    (bytes more : Bytes) (h : Says removalRequestKey rfl m bytes) :
    exists answer,
      handleRequest R svc others (bytes ++ more) =
        Outcome.ok (some CuAction.deleteUeChannels, some answer) ∧
      (matchFn 26 answer : Outcome Empty Bool) = Outcome.ok true ∧
      forall more, decodeRemovalResponse others (answer ++ more) = Outcome.ok
        (removalResponseOf R (field m RemovalRequestIe.transactionId rfl)) := by
  rcases ((removalResponsePdu_valid
    (field m RemovalRequestIe.transactionId rfl)).conveys hR others).encoded hR
    with ⟨answer, hencode, hdecode⟩
  refine ⟨answer, ?_, ?_, ?_⟩
  · apply h.handled hR svc others more fun p hm => routeRequest_removal hm
    exact encodeAnswer_of_ok hencode
  · rcases intoBytes_front hR hencode with ⟨rest, hfront⟩
    rw [hfront]
    exact matchFn_front.mpr
      ⟨show PduKind.successfulOutcome ≠ PduKind.initiatingMessage by decide, rfl⟩
  · intro rest
    exact decodeResponse_ok (hdecode rest)

def sentRemoval (R : Runtime) (id : UInt8) : SentPdu
    ⟨_, removalRequest R, "F1RemovalRequest", Criticality.reject⟩ where
  key := removalRequestKey
  criticality := Criticality.notify
  claim _ := 0
  elements := [⟨⟨RemovalRequestIe.transactionId, id⟩, Criticality.ignore,
    fun _ => 0⟩]

theorem says_removalRequest :
    Says removalRequestKey rfl (removalRequestOf Aligned.runtime 5)
      [0, 26, 128, 0, 0, 0, 1, 0, 78, 64, 0, 0, 5] := by
  refine ⟨sentRemoval Aligned.runtime 5, rfl, ⟨?_, ?_, ?_⟩, ?_,
    by decide +kernel⟩
  · intro e he
    rw [List.mem_singleton.mp he]
    exact ⟨transactionId_valid 5, fun _ _ => Nat.zero_lt_succ _⟩
  · change 1 <= 65535
    decide
  · exact fun _ _ => Nat.zero_lt_succ _
  · funext f
    cases f
    rfl

theorem removal_exchange_five :
    Says removalRequestKey rfl (removalRequestOf Aligned.runtime 5)
        [0, 26, 128, 0, 0, 0, 1, 0, 78, 64, 0, 0, 5] ∧
      exists answer,
        handleRequest Aligned.runtime numberServices
            (numberMessages Aligned.runtime)
            ([0, 26, 128, 0, 0, 0, 1, 0, 78, 64, 0, 0, 5] ++ []) =
          Outcome.ok (some CuAction.deleteUeChannels, some answer) ∧
        (matchFn 26 answer : Outcome Empty Bool) = Outcome.ok true ∧
        forall more, decodeRemovalResponse (numberMessages Aligned.runtime)
            (answer ++ more) =
          Outcome.ok (removalResponseOf Aligned.runtime 5) :=
  ⟨says_removalRequest,
    removal_exchange Aligned.runtime_lawful numberServices _
      (removalRequestOf Aligned.runtime 5) _ [] says_removalRequest⟩

/-- A release, from the command that QCore builds to what it reads in the
response. -/
theorem release_exchange (hR : R.Lawful) (others : OtherMessages other)
    (cu : GnbCuUeF1apId) (du : GnbDuUeF1apId) (cause : FullCause)
    (m : (releaseComplete R).Message) (reply : Bytes)
    (h : Says releaseCompleteKey rfl m reply) :
    (exists bytes,
      intoBytes others (releaseCommandPdu cu du cause : Pdu R other) =
          Outcome.ok bytes ∧
        forall more, fromBytes others (bytes ++ more) =
          Outcome.ok (releaseCommandPdu cu du cause : Pdu R other)) ∧
    forall more,
      (matchFn 6 (reply ++ more) : Outcome Empty Bool) = Outcome.ok true ∧
        decodeReleaseResponse others (reply ++ more) = Outcome.ok m := by
  constructor
  · exact ((releaseCommandPdu_valid cu du cause).conveys hR others).encoded hR
  · intro more
    exact ⟨h.matches hR (by decide) more,
      decodeResponse_ok (h.decoded hR others more)⟩

def completeFields (R : Runtime) : (releaseComplete R).Message :=
  ⟨fun
    | ReleaseCompleteIe.gnbCuUeF1apId => some (3 : UInt32)
    | ReleaseCompleteIe.gnbDuUeF1apId => some (2 : UInt32)
    | ReleaseCompleteIe.criticalityDiagnostics => none,
    fun f h => by cases f <;> first | rfl | cases h⟩

def sentComplete (R : Runtime) : SentPdu
    ⟨_, releaseComplete R, "UeContextReleaseComplete", Criticality.reject⟩ where
  key := releaseCompleteKey
  criticality := Criticality.reject
  claim _ := 0
  elements :=
    [⟨⟨ReleaseCompleteIe.gnbDuUeF1apId, (2 : UInt32)⟩, Criticality.ignore,
        fun _ => 0⟩,
      ⟨⟨ReleaseCompleteIe.gnbCuUeF1apId, (3 : UInt32)⟩, Criticality.ignore,
        fun _ => 0⟩]

theorem says_completeFields :
    Says releaseCompleteKey rfl (completeFields Aligned.runtime)
      [64, 6, 0, 0, 0, 0, 2, 0, 41, 64, 0, 0, 2, 0, 40, 64, 0, 0, 3] := by
  refine ⟨sentComplete Aligned.runtime, rfl, ⟨?_, ?_, ?_⟩, ?_,
    by decide +kernel⟩
  · intro e he
    simp only [sentComplete, List.mem_cons, List.not_mem_nil, or_false] at he
    rcases he with rfl | rfl
    · exact ⟨ueId_valid Aligned.runtime 2, fun _ _ => Nat.zero_lt_succ _⟩
    · exact ⟨ueId_valid Aligned.runtime 3, fun _ _ => Nat.zero_lt_succ _⟩
  · change 2 <= 65535
    decide
  · exact fun _ _ => Nat.zero_lt_succ _
  · funext f
    cases f <;> rfl

theorem release_exchange_completeFields :
    Says releaseCompleteKey rfl (completeFields Aligned.runtime)
        [64, 6, 0, 0, 0, 0, 2, 0, 41, 64, 0, 0, 2, 0, 40, 64, 0, 0, 3] ∧
      decodeReleaseResponse (numberMessages Aligned.runtime)
          ([64, 6, 0, 0, 0, 0, 2, 0, 41, 64, 0, 0, 2, 0, 40, 64, 0, 0, 3] ++
            []) = Outcome.ok (completeFields Aligned.runtime) :=
  ⟨says_completeFields,
    ((release_exchange Aligned.runtime_lawful (numberMessages _) 3 2
      (FullCause.radioNetwork CauseRadioNetwork.normalRelease)
      (completeFields _) _ says_completeFields).2 []).2⟩

/-!
## Answers
-/

theorem Routed.answered {svc : CuServices other} {p q : Pdu R other}
    {action : Option CuAction}
    (h : Routed svc p (Outcome.ok (action, some q))) :
    p.1 ∈ [setupKey, updateKey, removalRequestKey] ∧
      q.1.kind = PduKind.successfulOutcome ∧ q.1.code = p.1.code ∧
      (action = some CuAction.deleteUeChannels <->
        p.1 = removalRequestKey) := by
  cases h with
  | setup response hkey hsib2 =>
      rw [hkey]
      refine ⟨by decide, rfl, rfl, ?_⟩
      decide
  | removal hm =>
      rw [message?_key hm]
      exact ⟨by decide, rfl, rfl, fun _ => rfl, fun _ => rfl⟩
  | update r hkey =>
      rw [hkey]
      refine ⟨by decide, rfl, rfl, ?_⟩
      decide

theorem encodeAnswer_ok {others : OtherMessages other}
    {reply : Option (Pdu R other)} {bytes : Bytes}
    (h : encodeAnswer others reply = Outcome.ok (some bytes)) :
    exists q, reply = some q ∧ intoBytes others q = Outcome.ok bytes := by
  cases reply with
  | none => cases h
  | some q =>
      refine ⟨q, rfl, ?_⟩
      cases hq : intoBytes others q with
      | ok bytes' =>
          simp only [encodeAnswer, hq] at h
          cases h
          rfl
      | err e =>
          simp only [encodeAnswer, hq] at h
          cases h
      | panic =>
          simp only [encodeAnswer, hq] at h
          cases h

/-- A DU that has sent a request can tell its answer from every other PDU. -/
theorem answer_correlated (hR : R.Lawful) (svc : CuServices other)
    (others : OtherMessages other) (bytes answer : Bytes)
    (action : Option CuAction)
    (h : handleRequest R svc others bytes =
      Outcome.ok (action, some answer)) :
    exists p : Pdu R other, fromBytes others bytes = Outcome.ok p ∧
      p.1 ∈ [setupKey, updateKey, removalRequestKey] ∧
      (action = some CuAction.deleteUeChannels <-> p.1 = removalRequestKey) ∧
      forall code, (matchFn code answer : Outcome Empty Bool) =
        Outcome.ok true <-> code = p.1.code := by
  rcases handleRequest_ok h with ⟨_, hnone⟩ |
    ⟨p, reply, hdecode, hroute, hanswer⟩
  · cases hnone
  rcases encodeAnswer_ok hanswer with ⟨q, rfl, hencode⟩
  have hrouted := routeRequest_routed svc p
  rw [hroute] at hrouted
  rcases hrouted.answered with ⟨hkeys, hkind, hcode, haction⟩
  rcases intoBytes_front hR hencode with ⟨rest, hfront⟩
  refine ⟨p, hdecode, hkeys, haction, fun code => ?_⟩
  rw [hfront, matchFn_front, hkind, hcode]
  exact ⟨fun hmatch => hmatch.right.symm, fun heq => ⟨by decide, heq.symm⟩⟩

theorem answer_correlated_five :
    handleRequest Aligned.runtime numberServices (numberMessages Aligned.runtime)
        [0, 26, 128, 0, 0, 0, 1, 0, 78, 64, 0, 0, 5] =
      Outcome.ok (some CuAction.deleteUeChannels,
        some [64, 26, 0, 9, 0, 0, 1, 0, 78, 0, 2, 0, 5]) ∧
      ((matchFn 26 [64, 26, 0, 9, 0, 0, 1, 0, 78, 0, 2, 0, 5] :
        Outcome Empty Bool) = Outcome.ok true) := by
  have hanswer : handleRequest Aligned.runtime numberServices
        (numberMessages Aligned.runtime)
        [0, 26, 128, 0, 0, 0, 1, 0, 78, 64, 0, 0, 5] =
      Outcome.ok (some CuAction.deleteUeChannels,
        some [64, 26, 0, 9, 0, 0, 1, 0, 78, 0, 2, 0, 5]) := by
    decide +kernel
  rcases answer_correlated Aligned.runtime_lawful numberServices _ _ _ _ hanswer
    with ⟨p, _, _, haction, hmatch⟩
  refine ⟨hanswer, (hmatch 26).mpr ?_⟩
  rw [haction.mp rfl]
  rfl

/-!
## Panics
-/

theorem encodeAnswer_panic {others : OtherMessages other}
    {reply : Option (Pdu R other)} :
    encodeAnswer others reply = Outcome.panic <->
      exists q, reply = some q ∧ intoBytes others q = Outcome.panic := by
  cases reply with
  | none =>
      constructor
      · intro h
        cases h
      · rintro ⟨q, hq, _⟩
        cases hq
  | some q =>
      unfold encodeAnswer
      cases hq : intoBytes others q with
      | ok bytes => simp [hq]
      | err e => simp [hq]
      | panic => simp [hq]

theorem Routed.answer_cases {svc : CuServices other} {p q : Pdu R other}
    {action : Option CuAction}
    (h : Routed svc p (Outcome.ok (action, some q))) :
    (action = none ∧ q.1 ∈ [setupResponseKey, acknowledgeKey]) ∨
      exists id, q = removalResponsePdu id := by
  cases h with
  | setup response _ _ => exact Or.inl ⟨rfl, List.mem_cons_self⟩
  | removal _ => exact Or.inr ⟨_, rfl⟩
  | update r _ =>
      exact Or.inl ⟨rfl, List.mem_cons_of_mem _ List.mem_cons_self⟩

theorem removalResponse_no_panic (hR : R.Lawful) (others : OtherMessages other)
    (id : UInt8) :
    intoBytes others (removalResponsePdu id : Pdu R other) ≠ Outcome.panic := by
  rcases ((removalResponsePdu_valid id).conveys hR others).encoded hR with
    ⟨bytes, hbytes, _⟩
  intro hpanic
  rw [intoBytes, hbytes] at hpanic
  cases hpanic

theorem routeRequest_panic_iff {svc : CuServices other} {p : Pdu R other} :
    routeRequest svc p = Outcome.panic <->
      p.1 = setupKey ∧ svc.sib2 = none := by
  constructor
  · intro h
    have hrouted := routeRequest_routed svc p
    rw [h] at hrouted
    cases hrouted with
    | setupFailed hkey hsib2 => exact ⟨hkey, hsib2⟩
  · rintro ⟨hkey, hsib2⟩
    cases hother : p.other? setupKey rfl with
    | none => exact absurd hkey (other?_eq_none.mp hother)
    | some r =>
        rw [routeRequest, routeSetup, hother]
        simp only [f1SetupResponse, hsib2]
        rfl

/-- What takes the core down: a panic of the decoder, a setup of an F1 interface
for which SIB2 cannot be encoded, or a panic of the encoder of an answer to a
setup or to an update. -/
theorem handleRequest_panic_iff (hR : R.Lawful) (svc : CuServices other)
    (others : OtherMessages other) (bytes : Bytes) :
    handleRequest R svc others bytes = Outcome.panic <->
      (fromBytes others bytes : Outcome Per.PerCodecError (Pdu R other)) =
          Outcome.panic ∨
        exists p : Pdu R other, fromBytes others bytes = Outcome.ok p ∧
          (p.1 = setupKey ∧ svc.sib2 = none ∨
            exists q : Pdu R other,
              q.1 ∈ [setupResponseKey, acknowledgeKey] ∧
              routeRequest svc p = Outcome.ok (none, some q) ∧
              intoBytes others q = Outcome.panic) := by
  cases hdecode : (fromBytes others bytes :
      Outcome Per.PerCodecError (Pdu R other)) with
  | err e => simp [handleRequest, hdecode]
  | panic => simp [handleRequest, hdecode]
  | ok p =>
      rw [handleRequest_decoded hdecode]
      cases hroute : routeRequest svc p with
      | err e => exact e.elim
      | panic =>
          exact iff_of_true rfl
            (Or.inr ⟨p, rfl, Or.inl (routeRequest_panic_iff.mp hroute)⟩)
      | ok served =>
          rcases served with ⟨action, reply⟩
          have hrouted := routeRequest_routed svc p
          rw [hroute] at hrouted
          rw [Outcome.ok_bind]
          constructor
          · intro h
            cases hanswer : encodeAnswer others reply with
            | ok answer =>
                rw [hanswer] at h
                cases h
            | err e => exact e.elim
            | panic =>
                rcases encodeAnswer_panic.mp hanswer with ⟨q, rfl, hq⟩
                rcases hrouted.answer_cases with ⟨rfl, hkey⟩ | ⟨id, rfl⟩
                · exact Or.inr ⟨p, rfl, Or.inr ⟨q, hkey, hroute, hq⟩⟩
                · exact absurd hq (removalResponse_no_panic hR others id)
          · rintro (h | ⟨p', hp', hsetup | ⟨q, _, hroute', hq⟩⟩)
            · cases h
            · cases hp'
              rw [routeRequest_panic_iff.mpr hsetup] at hroute
              cases hroute
            · cases hp'
              rw [hroute] at hroute'
              cases hroute'
              rw [encodeAnswer_panic.mpr ⟨q, rfl, hq⟩]
              rfl

theorem handleRequest_panic_iff_setup :
    handleRequest Aligned.runtime { numberServices with sib2 := none }
        (numberMessages Aligned.runtime) [0, 1, 0, 2, 0, 5] = Outcome.panic :=
  (handleRequest_panic_iff Aligned.runtime_lawful _ _ _).mpr
    (Or.inr ⟨⟨setupKey, (5 : Nat)⟩, rfl, Or.inl ⟨rfl, rfl⟩⟩)

end Codec
end F1ap
end QCore
