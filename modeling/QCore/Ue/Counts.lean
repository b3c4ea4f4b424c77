import Mathlib.Data.List.Forall2
import QCore.Ue.Dialogue
import QCore.Ue.ForwardingState

/-!
# Integrity counts

Downlink NAS messages and PDUs of SRB1 carry a MAC over a COUNT.  The NAS count
starts with the security context and has 24 bits, the count of SRB1 starts with
the UE and has 32.  Neither comes back to a value: the dialogue of a task has a
message for each step of initial access and one for each session it reserves,
and there are only so many sessions to reserve.
-/

namespace QCore
namespace Ue

open Foundation
open Foundation.Cmd
open F1ap
open Nas
open Rrc
open Security
open Userplane

/-!
## What is protected, and with what
-/

structure MacInputs where
  key : Key128
  count : UInt32
  bearer : UInt8
  direction : UInt8
deriving DecidableEq, Repr

def MacInputs.mac (c : Crypto) (inputs : MacInputs) (message : Bytes) :
    Vector UInt8 4 :=
  calculateNia2Mac c inputs.key inputs.count inputs.bearer inputs.direction
    message

structure NasProtection where
  headerType : Nas5gsSecurityHeaderType
  inputs : MacInputs
deriving DecidableEq, Repr

def isAuthenticationRequest : Nas5gsMessage -> Bool
  | Nas5gsMessage.gmm (Nas5gmmMessage.authenticationRequest _ _ _) => true
  | _ => false

/-- The NAS message that is encoded, with its encoding.  The authentication
request goes out before there is a security context. -/
def UeEvent.protectedNas : UeEvent -> Option (Nas5gsMessage × Bytes)
  | UeEvent.encodedNas nas bytes =>
      if isAuthenticationRequest nas then none else some (nas, bytes)
  | _ => none

def UeEvent.srb1Pdu : UeEvent -> Option (DlRrcMessage × Bytes)
  | UeEvent.dlRrcMessageTransfer transfer rrc =>
      if transfer.srbId = 1 then some (rrc, transfer.rrcContainer) else none
  | _ => none

def protectedNas (log : List UeEvent) : List (Nas5gsMessage × Bytes) :=
  log.filterMap UeEvent.protectedNas

def srb1Pdus (log : List UeEvent) : List (DlRrcMessage × Bytes) :=
  log.filterMap UeEvent.srb1Pdu

def NasProtected (api : HandlerApi) (message : Nas5gsMessage × Bytes)
    (protection : NasProtection) : Prop :=
  exists nasBytes,
    api.nasCodec.encode (Nas5gsMessage.securityProtected protection.headerType 0
        (protection.inputs.count &&& 0xff).toUInt8 message.1) = some nasBytes ∧
      message.2 = SecurityContext.patchMac nasBytes
        (protection.inputs.mac api.crypto (nasBytes.drop 6))

def trailer (c : Crypto) (message : Bytes) : Option MacInputs -> Bytes
  | none => [0, 0, 0, 0]
  | some inputs => (inputs.mac c message).toList

def Srb1Protected (api : HandlerApi) (sent : DlRrcMessage × Bytes)
    (inputs : Option MacInputs) : Prop :=
  exists rrcBytes count, api.rrcCodec.encode sent.1 = some rrcBytes ∧
    sent.2 = PdcpTx.header count ++ rrcBytes ++
      trailer api.crypto (PdcpTx.header count ++ rrcBytes) inputs

/-- No inputs of a MAC are used twice, and only the first protected NAS message
announces a new security context. -/
structure CountsOnce (api : HandlerApi) (log : List UeEvent) : Prop where
  unprotected : forall nas bytes, UeEvent.encodedNas nas bytes ∈ log ->
    isAuthenticationRequest nas = true -> api.nasCodec.encode nas = some bytes
  nas : exists protections : List NasProtection,
    List.Forall₂ (NasProtected api) (protectedNas log) protections ∧
      (protections.map NasProtection.inputs).Nodup ∧
      forall k protection, protections[k]? = some protection ->
        (protection.headerType =
          Nas5gsSecurityHeaderType.integrityProtectedWithNewContext <-> k = 0)
  srb1 : exists inputs : List (Option MacInputs),
    List.Forall₂ (Srb1Protected api) (srb1Pdus log) inputs ∧
      inputs.reduceOption.Nodup

/-!
## The NAS count
-/

def countAfter : Nat -> UInt32
  | 0 => 0
  | k + 1 => (countAfter k + 1) &&& 0xffffff

theorem toNat_countAfter {k : Nat} (h : k < 16777216) :
    (countAfter k).toNat = k := by
  induction k with
  | zero => rfl
  | succ k ih =>
      have hk := ih (Nat.lt_of_succ_lt h)
      have hmask : (0xffffff : UInt32).toNat = 2 ^ 24 - 1 := rfl
      rw [countAfter, UInt32.toNat_and, hmask, Nat.and_two_pow_sub_one_eq_mod,
        UInt32.toNat_add, hk]
      change (k + 1) % 4294967296 % 16777216 = k + 1
      lia

def contextAfter (ik : Key128) (k : Nat) : SecurityContext :=
  ⟨ik, countAfter k⟩

def protectionOf (s : SecurityContext) : NasProtection :=
  ⟨s.headerType, s.ik, s.dlCount, 1, 1⟩

def protections (ik : Key128) (n : Nat) : List NasProtection :=
  (List.range n).map fun k => protectionOf (contextAfter ik k)

theorem protections_succ (ik : Key128) (n : Nat) :
    protections ik (n + 1) =
      protections ik n ++ [protectionOf (contextAfter ik n)] := by
  simp [protections, List.range_succ]

theorem protections_nodup {ik : Key128} {n : Nat} (h : n <= 16777216) :
    ((protections ik n).map NasProtection.inputs).Nodup := by
  unfold protections
  rw [List.map_map]
  apply List.Nodup.map_on _ List.nodup_range
  intro i hi j hj heq
  have hcount : countAfter i = countAfter j := congrArg MacInputs.count heq
  rw [List.mem_range] at hi hj
  rw [← toNat_countAfter (Nat.lt_of_lt_of_le hi h), hcount,
    toNat_countAfter (Nat.lt_of_lt_of_le hj h)]

theorem protections_newContext {ik : Key128} {n k : Nat}
    {protection : NasProtection} (h : n <= 16777216)
    (hk : (protections ik n)[k]? = some protection) :
    protection.headerType =
      Nas5gsSecurityHeaderType.integrityProtectedWithNewContext <-> k = 0 := by
  unfold protections at hk
  rw [List.getElem?_map] at hk
  rcases Option.map_eq_some_iff.mp hk with ⟨i, hi, heq⟩
  rcases List.getElem?_eq_some_iff.mp hi with ⟨hlt, hget⟩
  rw [List.getElem_range] at hget
  rw [List.length_range] at hlt
  rw [← heq, ← hget]
  have hzero : countAfter k = 0 <-> k = 0 := by
    constructor
    · intro hcount
      rw [← toNat_countAfter (Nat.lt_of_lt_of_le hlt h), hcount]
      rfl
    · intro hk0
      rw [hk0]
      rfl
  rw [← hzero]
  show SecurityContext.headerType (contextAfter ik k) = _ <-> _
  unfold SecurityContext.headerType contextAfter
  cases decEq (countAfter k) 0 with
  | isTrue hfirst => simp [hfirst]
  | isFalse hlater => simp [hlater]

theorem encodeWithIntegrity_protected {api : HandlerApi} {nas : Nas5gsMessage}
    {s s' : SecurityContext} {bytes : Bytes}
    (h : SecurityContext.encodeWithIntegrity api.crypto api.nasCodec nas s =
      (Outcome.ok bytes, s')) :
    NasProtected api (nas, bytes) (protectionOf s) ∧ s' = s.counted := by
  rcases SecurityContext.encodeWithIntegrity_cases api.crypto api.nasCodec nas s
    with ⟨nasBytes, hbytes, _, hcase⟩ | ⟨e, hcase⟩ | hcase
  · rw [hcase] at h
    cases h
    exact ⟨⟨nasBytes, hbytes, rfl⟩, rfl⟩
  · rw [hcase] at h
    cases h
  · rw [hcase] at h
    cases h

/-!
## The count of SRB1
-/

def srb1Inputs (p : PdcpTx) : Option MacInputs :=
  p.pdcpIntegrityKey.map fun ik => ⟨ik, p.txNext, 0, 1⟩

theorem srb1Pdu_protected {api : HandlerApi} {rrc : DlRrcMessage}
    {rrcBytes : Bytes} (h : api.rrcCodec.encode rrc = some rrcBytes)
    (p : PdcpTx) :
    Srb1Protected api (rrc, p.srb1Pdu api.crypto rrcBytes) (srb1Inputs p) := by
  refine ⟨rrcBytes, p.txNext, h, ?_⟩
  unfold PdcpTx.srb1Pdu PdcpTx.mac srb1Inputs
  cases p.pdcpIntegrityKey with
  | none => rfl
  | some ik => rfl

def Numbered (states : List PdcpTx) : Prop :=
  states.map PdcpTx.txNext = (List.range states.length).map UInt32.ofNat

theorem numbered_concat {states : List PdcpTx} {p : PdcpTx}
    (h : Numbered states) (hp : p.txNext = UInt32.ofNat states.length) :
    Numbered (states ++ [p]) := by
  unfold Numbered
  rw [List.map_append, h, List.length_append, List.length_singleton,
    List.range_succ, List.map_append, List.map_singleton, List.map_singleton,
    hp]

theorem srb1Inputs_nodup {states : List PdcpTx} (h : Numbered states)
    (hlength : states.length <= 4294967296) :
    (states.map srb1Inputs).reduceOption.Nodup := by
  have hcounts : (states.map PdcpTx.txNext).Nodup := by
    rw [h]
    apply List.Nodup.map_on _ List.nodup_range
    intro i hi j hj heq
    rw [List.mem_range] at hi hj
    have hnat := congrArg UInt32.toNat heq
    rw [UInt32.toNat_ofNat_of_lt' (Nat.lt_of_lt_of_le hi hlength),
      UInt32.toNat_ofNat_of_lt' (Nat.lt_of_lt_of_le hj hlength)] at hnat
    exact hnat
  unfold List.reduceOption
  rw [List.filterMap_map]
  apply (List.Nodup.of_map _ hcounts).filterMap
  intro p p' inputs hp hp'
  cases p with
  | mk count key =>
      cases p' with
      | mk count' key' =>
          rcases Option.map_eq_some_iff.mp hp with ⟨ik, hkey, heq⟩
          rcases Option.map_eq_some_iff.mp hp' with ⟨ik', hkey', heq'⟩
          rw [← heq', MacInputs.mk.injEq] at heq
          change key = some ik at hkey
          change key' = some ik' at hkey'
          rw [hkey, hkey', heq.left]
          exact congrArg (PdcpTx.mk · (some ik')) heq.right.left

/-!
## What a task has counted
-/

def Uncounted : UeEvent -> Prop
  | UeEvent.encodedNas _ _ => False
  | UeEvent.dlRrcMessageTransfer _ _ => False
  | _ => True

def NasCounted (api : HandlerApi) (messages : List (Nas5gsMessage × Bytes))
    (n : NasContext) : Option Key128 -> Prop
  | none => n.securityContext = none ∧ messages = []
  | some ik =>
      n.securityContext = some (contextAfter ik messages.length) ∧
        List.Forall₂ (NasProtected api) messages
          (protections ik messages.length)

def Srb1Counted (api : HandlerApi) (s : Task) : Prop :=
  exists states : List PdcpTx,
    List.Forall₂ (Srb1Protected api) (srb1Pdus s.log)
        (states.map srb1Inputs) ∧
      Numbered states ∧ s.ue.pdcpTx.txNext = UInt32.ofNat states.length

structure Counted (api : HandlerApi) (key : Option Key128) (s : Task) :
    Prop where
  unprotected : forall nas bytes, UeEvent.encodedNas nas bytes ∈ s.log ->
    isAuthenticationRequest nas = true -> api.nasCodec.encode nas = some bytes
  nas : NasCounted api (protectedNas s.log) s.ue.nas key
  srb1 : Srb1Counted api s

variable {api : HandlerApi} {key : Option Key128} {s : Task}

theorem protectedNas_record (event : UeEvent) (s : Task) :
    protectedNas (s.record event).log =
      protectedNas s.log ++ event.protectedNas.toList :=
  filterMap_log UeEvent.protectedNas s.log event

theorem srb1Pdus_record (event : UeEvent) (s : Task) :
    srb1Pdus (s.record event).log =
      srb1Pdus s.log ++ event.srb1Pdu.toList :=
  filterMap_log UeEvent.srb1Pdu s.log event

theorem protectedNas_record_none {event : UeEvent}
    (hevent : event.protectedNas = none) (s : Task) :
    protectedNas (s.record event).log = protectedNas s.log := by
  rw [protectedNas_record, hevent, Option.toList_none, List.append_nil]

theorem Srb1Counted.record {event : UeEvent} (hevent : event.srb1Pdu = none)
    (h : Srb1Counted api s) : Srb1Counted api (s.record event) := by
  unfold Srb1Counted
  rw [srb1Pdus_record, hevent, Option.toList_none, List.append_nil]
  exact h

theorem Counted.record {event : UeEvent} (hevent : Uncounted event)
    (h : Counted api key s) : Counted api key (s.record event) := by
  have hnas : event.protectedNas = none := by
    cases event with
    | encodedNas nas bytes => cases hevent
    | _ => rfl
  have hsrb1 : event.srb1Pdu = none := by
    cases event with
    | dlRrcMessageTransfer transfer rrc => cases hevent
    | _ => rfl
  constructor
  · intro nas bytes hmem
    rcases List.mem_append.mp hmem with hold | hnew
    · exact h.unprotected nas bytes hold
    · cases List.mem_singleton.mp hnew
      cases hevent
  · rw [protectedNas_record_none hnas]
    exact h.nas
  · exact h.srb1.record hsrb1

theorem encodeNas_counted {nas : Nas5gsMessage} {bytes : Bytes}
    {n : NasContext} (hnas : isAuthenticationRequest nas = key.isNone)
    (hencode : NasContext.encode api.crypto api.nasCodec nas s.ue.nas =
      (Outcome.ok bytes, n))
    (h : Counted api key s) :
    Counted api key ((s.setNas n).record (UeEvent.encodedNas nas bytes)) := by
  have hold : forall nas' bytes',
      UeEvent.encodedNas nas' bytes' ∈ s.log ++ [UeEvent.encodedNas nas bytes] ->
        isAuthenticationRequest nas' = true ->
        (isAuthenticationRequest nas = true ->
          api.nasCodec.encode nas = some bytes) ->
        api.nasCodec.encode nas' = some bytes' := by
    intro nas' bytes' hmem hrequest hnew
    rcases List.mem_append.mp hmem with hbefore | hlast
    · exact h.unprotected nas' bytes' hbefore hrequest
    · cases List.mem_singleton.mp hlast
      exact hnew hrequest
  cases key with
  | none =>
      rcases h.nas with ⟨hnone, hempty⟩
      rcases NasContext.encode_unsecured hnone hencode with ⟨hbytes, hn⟩
      have hevent : (UeEvent.encodedNas nas bytes).protectedNas = none :=
        if_pos hnas
      constructor
      · intro nas' bytes' hmem hrequest
        exact hold nas' bytes' hmem hrequest fun _ => hbytes
      · rw [protectedNas_record_none hevent]
        constructor
        · rw [hn]
          exact hnone
        · exact hempty
      · exact Srb1Counted.record (s := s.setNas n) rfl h.srb1
  | some ik =>
      rcases h.nas with ⟨hsome, hprotected⟩
      rcases NasContext.encode_secured hsome hencode with ⟨s', hs', hn⟩
      rcases encodeWithIntegrity_protected hs' with ⟨hnew, hcounted⟩
      have hclear : ¬ isAuthenticationRequest nas = true := by
        rw [hnas]
        exact Bool.false_ne_true
      have hevent : (UeEvent.encodedNas nas bytes).protectedNas =
          some (nas, bytes) := if_neg hclear
      constructor
      · intro nas' bytes' hmem hrequest
        exact hold nas' bytes' hmem hrequest fun hyes => absurd hyes hclear
      · rw [protectedNas_record, hevent]
        show NasCounted api (protectedNas s.log ++ [(nas, bytes)]) n (some ik)
        simp only [NasCounted, List.length_append, List.length_singleton,
          protections_succ]
        constructor
        · rw [hn, hcounted]
          rfl
        · exact List.rel_append hprotected
            (List.Forall₂.cons hnew List.Forall₂.nil)
      · exact Srb1Counted.record (s := s.setNas n) rfl h.srb1

theorem send_counted {srbId : SrbId} {rrc : DlRrcMessage}
    {rrcBytes rrcContainer : Bytes} {p : PdcpTx}
    (hencode : api.rrcCodec.encode rrc = some rrcBytes)
    (hwraps : Wraps api srbId s.ue.pdcpTx rrcBytes rrcContainer p)
    (h : Counted api key s) :
    Counted api key
      (s.send (dlRrcMessageTransfer s.ue rrcContainer srbId) rrc p) := by
  constructor
  · intro nas bytes hmem
    rcases List.mem_append.mp hmem with hbefore | hlast
    · exact h.unprotected nas bytes hbefore
    · cases List.mem_singleton.mp hlast
  · unfold Task.send
    rw [protectedNas_record_none rfl]
    exact h.nas
  · rcases hwraps with ⟨hsrb, _, hp⟩ | ⟨hsrb, hcontainer, hp⟩
    · rw [hsrb, hp]
      exact Srb1Counted.record (s := s.setPdcpTx s.ue.pdcpTx) rfl h.srb1
    · rcases h.srb1 with ⟨states, hsent, hnumbered, hnext⟩
      rw [hsrb, hcontainer, hp]
      refine ⟨states ++ [s.ue.pdcpTx], ?_, numbered_concat hnumbered hnext, ?_⟩
      · unfold Task.send
        rw [srb1Pdus_record, List.map_append]
        exact List.rel_append hsent (List.Forall₂.cons
          (srb1Pdu_protected hencode s.ue.pdcpTx) List.Forall₂.nil)
      · show s.ue.pdcpTx.txNext + 1 = _
        rw [hnext, List.length_append, List.length_singleton,
          UInt32.ofNat_add]
        rfl

variable (api key)

theorem countedRequests :
    RequestsKeep api (Counted api key) Uncounted
      (fun nas => isAuthenticationRequest nas = key.isNone)
      (fun _ => True) where
  recv := by
    intro s hs
    rcases recv_cases s with ⟨_, hcase⟩ | ⟨pdu, rest, _, hcase⟩
    · rw [hcase]
      exact hs
    · rw [hcase]
      have hsame : Counted api key { s with inbox := rest } :=
        ⟨hs.unprotected, hs.nas, hs.srb1⟩
      have hreceived : Uncounted (UeEvent.received pdu) := trivial
      exact hsame.record hreceived
  sendRrc srbId rrc _ := by
    intro s hs
    rcases sendRrc_sent api srbId rrc s with
      ⟨_, hcase⟩ | ⟨rrcBytes, hencode, hcase | ⟨_, p, hwraps, hcase⟩⟩
    · rw [hcase]
      exact hs
    · rw [hcase]
      exact hs
    · rw [hcase]
      exact send_counted hencode hwraps hs
  encodeNas nas hnas := by
    intro s hs
    rcases encodeNas_cases nas s with
      ⟨bytes, n, hencode, hcase⟩ | ⟨e, hcase⟩ | hcase
    · rw [hcase]
      exact ⟨trivial, encodeNas_counted hnas hencode hs⟩
    · rw [hcase]
      exact hs
    · rw [hcase]
      exact hs
  record _ _ hevent hs := hs.record hevent

/-!
## The counts of a whole run
-/

variable {api}

theorem configureNasSecurity_counted (kamf : Key256)
    (h : Counted api none s) :
    Counted api (some (deriveKnasint api.crypto kamf))
      (s.setNas (configureNasSecurity api.crypto kamf)) := by
  constructor
  · exact h.unprotected
  · show NasCounted api (protectedNas s.log) _ _
    rw [h.nas.right]
    exact ⟨rfl, List.Forall₂.nil⟩
  · exact h.srb1

variable (api)

def CountedSome (s : Task) : Prop :=
  exists key, Counted api key s

theorem initialAccess_counted (r : InitialUlRrcMessageTransfer) :
    Triple (Counted api none) (InitialAccessProcedure.run api r)
      (fun _ s => exists ik, Counted api (some ik) s) (CountedSome api) := by
  have hsome : forall key s, Counted api key s -> CountedSome api s :=
    fun key _ hs => ⟨key, hs⟩
  have h := countedRequests api none
  apply triple_bind ((h.handleRrcSetup r).weaken (hsome none))
  intro request
  apply triple_bind ((keeps_lift _).weaken (hsome none))
  intro identity
  apply triple_bind ((h.authenticateUe _ fun _ _ => rfl).weaken (hsome none))
  intro kamf
  have h' := countedRequests api (some (deriveKnasint api.crypto kamf))
  have hrest := triple_bind (h'.activateNasSecurity identity.2
      (fun _ hs => configureNasSecurity_counted kamf hs) rfl)
    fun _ => keeps_bind (h'.activateRrcSecurity kamf fun _ hs =>
      ⟨hs.unprotected, hs.nas, hs.srb1⟩) fun _ =>
        h'.completeNasRegistration fun _ => rfl
  exact hrest.conseq (fun _ hs => hs) (fun _ _ hs => ⟨_, hs⟩) (hsome _)

theorem successive_counted (ik : Key128) (fuel : Nat) :
    Keeps (Counted api (some ik)) (UeMessageHandler.successive api fuel) := by
  have h := countedRequests api (some ik)
  have hservice : forall event : UeEvent,
      (forall transfer rrc,
        event ≠ UeEvent.dlRrcMessageTransfer transfer rrc) ->
      (forall nas bytes, event ≠ UeEvent.encodedNas nas bytes) ->
        Uncounted event := by
    intro event hsent hencoded
    cases event with
    | dlRrcMessageTransfer transfer rrc => exact hsent transfer rrc rfl
    | encodedNas nas bytes => exact hencoded nas bytes rfl
    | _ => trivial
  exact h.successive (fun _ hs => hs) (fun _ _ => trivial)
    (h.sessionEstablishment
      (fun _ _ hs => ⟨hs.unprotected, hs.nas, hs.srb1⟩) hservice fun _ => rfl)
    fuel

theorem destroy_counted :
    Keeps (CountedSome api) UeMessageHandler.destroy := by
  apply triple_exists
  intro key
  have hdestroy := (countedRequests api key).destroy (fun _ => trivial)
    (fun _ => trivial) fun _ hs => ⟨hs.unprotected, hs.nas, hs.srb1⟩
  exact hdestroy.imp fun _ hs => ⟨key, hs⟩

theorem runContext_counted (r : InitialUlRrcMessageTransfer)
    (h : Counted api none s) :
    CountedSome api (UeMessageHandler.runContext api r s).2 := by
  refine UeMessageHandler.runContext_after (UeMessageHandler.triple_runInner
    (initialAccess_counted api r) ?_) (destroy_counted api) h
  intro fuel
  apply triple_exists
  intro ik
  exact (successive_counted api ik fuel).imp fun _ hs => ⟨_, hs⟩

variable {api}

theorem Counted.countsOnce (h : Counted api key s)
    (hnas : (protectedNas s.log).length <= 16777216)
    (hsrb1 : (srb1Pdus s.log).length <= 4294967296) :
    CountsOnce api s.log := by
  constructor
  · exact h.unprotected
  · have hcounted := h.nas
    cases key with
    | none =>
        refine ⟨[], ?_, List.nodup_nil, ?_⟩
        · rw [hcounted.right]
          exact List.Forall₂.nil
        · intro k protection hk
          cases hk
    | some ik =>
        exact ⟨_, hcounted.right, protections_nodup hnas,
          fun _ _ hk => protections_newContext hnas hk⟩
  · rcases h.srb1 with ⟨states, hsent, hnumbered, _⟩
    refine ⟨_, hsent, srb1Inputs_nodup hnumbered ?_⟩
    have hlength := hsent.length_eq
    rw [List.length_map] at hlength
    rw [← hlength]
    exact hsrb1

/-!
## How many messages a dialogue has
-/

namespace Stage

def nasLeft : Stage -> Nat
  | fresh => 3
  | starting Exchange.rrcSetup => 3
  | starting Exchange.authentication => 3
  | starting Exchange.nasSecurity => 2
  | starting Exchange.rrcSecurity => 1
  | starting Exchange.registration => 1
  | encoded Exchange.rrcSetup => 3
  | encoded Exchange.authentication => 2
  | encoded Exchange.nasSecurity => 1
  | encoded Exchange.rrcSecurity => 1
  | awaiting Exchange.rrcSetup => 3
  | awaiting Exchange.authentication => 2
  | awaiting Exchange.nasSecurity => 1
  | awaiting Exchange.rrcSecurity => 1
  | settingUp _ => 1
  | accepting _ => 1
  | _ => 0

def srb1Left : Stage -> Nat
  | fresh => 4
  | starting Exchange.rrcSetup => 4
  | starting Exchange.authentication => 4
  | starting Exchange.nasSecurity => 3
  | starting Exchange.rrcSecurity => 2
  | starting Exchange.registration => 1
  | starting Exchange.reconfiguration => 1
  | encoded Exchange.rrcSetup => 4
  | encoded Exchange.authentication => 4
  | encoded Exchange.nasSecurity => 3
  | encoded Exchange.rrcSecurity => 2
  | encoded Exchange.registration => 1
  | encoded Exchange.reconfiguration => 1
  | awaiting Exchange.rrcSetup => 4
  | awaiting Exchange.authentication => 3
  | awaiting Exchange.nasSecurity => 2
  | awaiting Exchange.rrcSecurity => 1
  | settingUp _ => 1
  | accepting _ => 1
  | committing _ => 1
  | _ => 0

def NoMoreLeft (stage stage' : Stage) : Prop :=
  stage'.nasLeft <= stage.nasLeft ∧ stage'.srb1Left <= stage.srb1Left

theorem left_following (exchange : Exchange) :
    NoMoreLeft (awaiting exchange) exchange.following := by
  unfold NoMoreLeft
  cases exchange <;> simp [Exchange.following, nasLeft, srb1Left]

theorem left_encoded {exchange : Exchange} (h : exchange.carriesNas = true) :
    (encoded exchange).nasLeft + 1 <= (starting exchange).nasLeft ∧
      (encoded exchange).srb1Left <= (starting exchange).srb1Left := by
  revert h
  cases exchange <;> simp [Exchange.carriesNas, nasLeft, srb1Left]

theorem sends_bearer {srbId : SrbId} {rrc : DlRrcMessage}
    (h : Exchange.rrcSetup.sends srbId rrc = true) : srbId ≠ 1 := by
  intro hone
  rw [hone] at h
  cases rrc <;> cases h

theorem left_toSend {stage : Stage} {exchange : Exchange}
    (h : stage.toSend = some exchange) :
    (awaiting exchange).nasLeft <= stage.nasLeft ∧
      (awaiting exchange).srb1Left +
        (if exchange = Exchange.rrcSetup then 0 else 1) <= stage.srb1Left := by
  unfold toSend at h
  split at h
  · cases h
    simp [nasLeft, srb1Left]
  · cases h
    simp [nasLeft, srb1Left]
  · cases h
    simp [nasLeft, srb1Left]
  · cases h
    cases exchange <;> simp [nasLeft, srb1Left]
  · cases h

end Stage

def UeEvent.reserved (event : UeEvent) : Bool :=
  (event.sessionCall.map SessionCall.reserved).getD false

def PaidFor (stage : Stage) (event : UeEvent) (stage' : Stage) : Prop :=
  stage'.nasLeft + (if event.protectedNas.isSome then 1 else 0) <=
      stage.nasLeft + (if event.reserved then 1 else 0) ∧
    stage'.srb1Left + (if event.srb1Pdu.isSome then 1 else 0) <=
      stage.srb1Left + if event.reserved then 1 else 0

theorem paidFor_encodedNas {stage stage' : Stage} (nas : Nas5gsMessage)
    (bytes : Bytes) (hnas : stage'.nasLeft + 1 <= stage.nasLeft)
    (hsrb1 : stage'.srb1Left <= stage.srb1Left) :
    PaidFor stage (UeEvent.encodedNas nas bytes) stage' := by
  constructor
  · refine Nat.le_trans (Nat.add_le_add_left ?_ _) hnas
    split <;> decide
  · exact hsrb1

theorem paidFor_transfer {stage : Stage} {exchange : Exchange}
    {transfer : DlRrcMessageTransfer} {rrc : DlRrcMessage}
    (hsend : stage.toSend = some exchange)
    (hsends : exchange.sends transfer.srbId rrc = true) :
    PaidFor stage (UeEvent.dlRrcMessageTransfer transfer rrc)
      (Stage.awaiting exchange) := by
  rcases Stage.left_toSend hsend with ⟨hnas, hsrb1⟩
  constructor
  · exact hnas
  · refine Nat.le_trans (Nat.add_le_add_left ?_ _) hsrb1
    unfold UeEvent.srb1Pdu
    cases decEq transfer.srbId 1 with
    | isTrue hone =>
        have hother : exchange ≠ Exchange.rrcSetup := by
          intro heq
          rw [heq] at hsends
          exact Stage.sends_bearer hsends hone
        simp [hone, hother]
    | isFalse hother => simp [hother]

theorem left_step {cu : GnbCuUeF1apId} {du : GnbDuUeF1apId}
    {stage stage' : Stage} {event : UeEvent}
    (h : (dialogue api cu du).step stage event = some stage') :
    PaidFor stage event stage' := by
  cases turn_of_step api cu du h with
  | begun r => exact ⟨Nat.le_refl 3, Nat.le_refl 4⟩
  | answered exchange pdu => exact Stage.left_following exchange
  | asked pdu =>
      cases purposeOf api pdu <;> exact ⟨Nat.zero_le _, Nat.zero_le _⟩
  | encoded exchange nas bytes hcarries =>
      rcases Stage.left_encoded hcarries with ⟨hnas, hsrb1⟩
      exact paidFor_encodedNas nas bytes hnas hsrb1
  | unsecured _ nas bytes hstage =>
      rcases hstage with hstarting | hawaiting
      · rw [hstarting]
        exact paidFor_encodedNas nas bytes (Nat.le_refl 1) (Nat.le_succ 1)
      · rw [hawaiting]
        exact paidFor_encodedNas nas bytes (Nat.le_refl 1) (Nat.le_refl 1)
  | accepted session nas bytes =>
      exact paidFor_encodedNas nas bytes (Nat.le_refl 1) (Nat.le_refl 1)
  | sent _ exchange transfer rrc hsend hsends =>
      exact paidFor_transfer hsend hsends
  | reserved session => exact ⟨Nat.le_refl 1, Nat.le_refl 1⟩
  | setUp session request answer => exact ⟨Nat.le_refl 1, Nat.le_refl 1⟩
  | committed session tunnel u => exact ⟨Nat.le_refl 0, Nat.le_refl 1⟩
  | _ => exact ⟨Nat.zero_le _, Nat.zero_le _⟩

theorem reserved_eq_countP (log : List UeEvent) :
    (sessionCalls log).countP SessionCall.reserved =
      log.countP UeEvent.reserved := by
  unfold sessionCalls
  rw [List.countP_filterMap]
  rfl

theorem messages_le {cu : GnbCuUeF1apId} {du : GnbDuUeF1apId} {stage : Stage}
    {log : List UeEvent}
    (h : (dialogue api cu du).run Stage.fresh log = some stage) :
    (protectedNas log).length <=
        3 + (sessionCalls log).countP SessionCall.reserved ∧
      (srb1Pdus log).length <=
        4 + (sessionCalls log).countP SessionCall.reserved := by
  have hnas : stage.nasLeft +
      log.countP (fun event => event.protectedNas.isSome) <=
        3 + log.countP UeEvent.reserved :=
    Machine.run_countP_le (fun _ _ _ hstep => (left_step hstep).left) h
  have hsrb1 : stage.srb1Left +
      log.countP (fun event => event.srb1Pdu.isSome) <=
        4 + log.countP UeEvent.reserved :=
    Machine.run_countP_le (fun _ _ _ hstep => (left_step hstep).right) h
  unfold protectedNas srb1Pdus
  rw [List.length_filterMap_eq_countP, List.length_filterMap_eq_countP,
    reserved_eq_countP]
  exact ⟨Nat.le_trans (Nat.le_add_left _ _) hnas,
    Nat.le_trans (Nat.le_add_left _ _) hsrb1⟩

theorem countsOnce_nothing {log : List UeEvent}
    (h : forall event, event ∈ log -> Uncounted event) :
    CountsOnce api log := by
  have hnas : protectedNas log = [] := by
    apply List.filterMap_eq_nil_iff.mpr
    intro event hmem
    cases event with
    | encodedNas nas bytes => exact absurd (h _ hmem) id
    | _ => rfl
  have hsrb1 : srb1Pdus log = [] := by
    apply List.filterMap_eq_nil_iff.mpr
    intro event hmem
    cases event with
    | dlRrcMessageTransfer transfer rrc => exact absurd (h _ hmem) id
    | _ => rfl
  constructor
  · intro nas bytes hmem
    exact absurd (h _ hmem) id
  · rw [hnas]
    exact ⟨[], List.Forall₂.nil, List.nodup_nil, fun _ _ hk => nomatch hk⟩
  · rw [hsrb1]
    exact ⟨[], List.Forall₂.nil, List.nodup_nil⟩

variable (api) in
theorem start_counted (ueId : GnbCuUeF1apId) (r : InitialUlRrcMessageTransfer)
    (inbox : List F1apPdu) :
    Counted api none (UeMessageHandler.start api ueId r inbox) := by
  constructor
  · intro nas bytes hmem
    cases List.mem_singleton.mp hmem
  · exact ⟨rfl, rfl⟩
  · exact ⟨[], List.Forall₂.nil, rfl, rfl⟩

theorem messages_lt {ueId : GnbCuUeF1apId} {r : InitialUlRrcMessageTransfer}
    {inbox : List F1apPdu} {subnet : Ipv4Addr} {task : Nat} {ms : List Move}
    {s : Shared} {log : List UeEvent}
    (hlog : log = (UeMessageHandler.runContext api r
      (UeMessageHandler.start api ueId r inbox)).2.log)
    (hperforms : Performs subnet task ms s log) :
    (protectedNas log).length < 3 + maxUes ∧
      (srb1Pdus log).length < 4 + maxUes := by
  rcases run_dialogue api ueId r inbox with ⟨stage, _, hrun⟩
  have hreserved := Shared.reserved_lt task hperforms.run_eq
  rw [hperforms.calls_eq] at hreserved
  rw [hlog] at hreserved ⊢
  rcases messages_le hrun with ⟨hnas, hsrb1⟩
  exact ⟨Nat.lt_of_le_of_lt hnas (Nat.add_lt_add_left hreserved 3),
    Nat.lt_of_le_of_lt hsrb1 (Nat.add_lt_add_left hreserved 4)⟩

/-- In every run of a UE task next to any others, no two NAS messages and no two
PDUs of SRB1 are protected with the same key, count, bearer and direction. -/
theorem run_countsOnce (api : HandlerApi) (ueId : GnbCuUeF1apId)
    (pdus : List F1apPdu) {subnet : Ipv4Addr} {task : Nat} {ms : List Move}
    {s : Shared}
    (hperforms : Performs subnet task ms s
      (UeMessageHandler.run api ueId pdus).2) :
    CountsOnce api (UeMessageHandler.run api ueId pdus).2 := by
  have hreceived : forall pdu, CountsOnce api [UeEvent.received pdu] := by
    intro pdu
    apply countsOnce_nothing
    intro event hmem
    cases List.mem_singleton.mp hmem
    exact trivial
  cases pdus with
  | nil => exact countsOnce_nothing fun _ hmem => absurd hmem List.not_mem_nil
  | cons pdu rest =>
      cases pdu with
      | initialUlRrcMessageTransfer r =>
          rcases runContext_counted api r (start_counted api ueId r rest) with
            ⟨key, hcounted⟩
          rcases messages_lt rfl hperforms with ⟨hnas, hsrb1⟩
          apply hcounted.countsOnce
          · exact Nat.le_trans (Nat.le_of_lt hnas) (by decide)
          · exact Nat.le_trans (Nat.le_of_lt hsrb1) (by decide)
      | ulRrcMessageTransfer r => exact hreceived _
      | ueContextReleaseRequest r => exact hreceived _
      | other bytes => exact hreceived _

theorem run_countsOnce_acceptedSetup :
    exists s,
      Performs Shared.smallSubnet 0 acceptedMoves s
        (UeMessageHandler.run acceptingApi 7 smallAttach).2 ∧
      (protectedNas
        (UeMessageHandler.run acceptingApi 7 smallAttach).2).length = 3 ∧
      (srb1Pdus (UeMessageHandler.run acceptingApi 7 smallAttach).2).length =
        5 ∧
      CountsOnce acceptingApi
        (UeMessageHandler.run acceptingApi 7 smallAttach).2 := by
  rcases performs_acceptedMoves with ⟨s, hperforms⟩
  exact ⟨s, hperforms, by decide +kernel, by decide +kernel,
    run_countsOnce acceptingApi 7 smallAttach hperforms⟩

end Ue
end QCore
