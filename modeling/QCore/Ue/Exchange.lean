import QCore.Security.Streams
import QCore.Ue.Procedures
import QCore.Ue.Requests
import QCore.Ue.StandardUe

/-!
# Exchanges with a standard UE

One request of a UE task to a standard UE.  While both hold the same keys and
counts, the UE accepts the message of the task and the task reads the answer of
the UE.
-/

namespace QCore
namespace Ue

open Foundation
open F1ap
open Nas
open Rrc
open Security

/-!
## Two parties with codecs of their own
-/

/-- What stands in a protected message is read whatever the MAC is. -/
def ReadsProtected (read : Bytes -> Option Nas5gsMessage) : Prop :=
  forall headerType (mac : Vector UInt8 4) seq plain message,
    read plain = some (Nas5gsMessage.gmm message) ->
      exists mac', read (protectedFrame headerType mac seq plain) =
        some (Nas5gsMessage.securityProtected headerType mac' seq
          (Nas5gsMessage.gmm message))

/-- The codecs of the core and those of the UE are codecs of the same
messages. -/
structure Compatible (api : HandlerApi) (ue : StandardUe) : Prop where
  readRrc : forall rrc bytes, api.rrcCodec.encode rrc = some bytes ->
    ue.readRrc bytes = some rrc
  readNas : forall nas bytes, api.nasCodec.encode nas = some bytes ->
    ue.readNas bytes = some nas
  readProtected : ReadsProtected ue.readNas
  encodeProtected : forall headerType seq message,
    api.nasCodec.encode (Nas5gsMessage.securityProtected headerType 0 seq
        (Nas5gsMessage.gmm message)) =
      (api.nasCodec.encode (Nas5gsMessage.gmm message)).map
        (protectedFrame headerType (Vector.replicate 4 0) seq)
  decodeRrc : forall rrc bytes, ue.writeRrc rrc = some bytes ->
    api.rrcCodec.decodeUlDcch bytes = some rrc
  decodeNas : forall nas bytes, ue.writeNas nas = some bytes ->
    api.nasCodec.decode bytes = some nas
  decodeProtected : ReadsProtected api.nasCodec.decode
  /-- TS 24.501, 9.3.1: the security header type of a plain message is 0. -/
  plain : forall message bytes,
    ue.writeNas (Nas5gsMessage.gmm message) = some bytes -> bytes[1]? = some 0

def StandardUe.CanSay (ue : StandardUe) (message : Nas5gmmMessage) : Prop :=
  exists plain, ue.writeNas (Nas5gsMessage.gmm message) = some plain ∧
    (exists bytes, ue.writeRrc
      (UlDcchMessage.ulInformationTransfer (some plain)) = some bytes) ∧
    forall headerType mac seq, exists bytes, ue.writeRrc
      (UlDcchMessage.ulInformationTransfer
        (some (protectedFrame headerType mac seq plain))) = some bytes

def CarriesUplinkNas (api : HandlerApi) (pdu : F1apPdu)
    (message : Nas5gmmMessage) : Prop :=
  exists bytes,
    CarriesRrc api pdu (UlDcchMessage.ulInformationTransfer (some bytes)) ∧
      decodeNas api (patchNasForOaiDeregistrationSecurityHeader bytes) =
        Outcome.ok (Nas5gsMessage.gmm message)

def taskLine : Line Task DlRrcMessageTransfer F1apPdu where
  setInbox inbox s := { s with inbox := inbox }
  sent s := s.log.filterMap UeEvent.transfer

theorem sent_record (event : UeEvent) (s : Task) :
    taskLine.sent (s.record event) =
      taskLine.sent s ++ event.transfer.toList :=
  filterMap_log UeEvent.transfer s.log event

/-- The task and the UE hold the same keys and the same counts. -/
structure InStep (st : UeState) (u : UeContext) : Prop where
  nas : u.nas = ⟨st.nasKey.map fun key => ⟨key, st.nasCount⟩⟩
  pdcp : u.pdcpTx = ⟨st.pdcpCount, st.rrcKey⟩

/-- What goes out on SRB1 has the count that the UE expects, and is protected
with the key that the UE uses, if it uses one. -/
structure Covers (st : UeState) (p : PdcpTx) : Prop where
  count : p.txNext = st.pdcpCount
  key : forall key, key ∈ st.rrcKey -> p.pdcpIntegrityKey = some key

theorem InStep.covers {st : UeState} {u : UeContext} (h : InStep st u) :
    Covers st u.pdcpTx := by
  rw [h.pdcp]
  exact ⟨rfl, fun _ hkey => hkey⟩

theorem InStep.nas_secured {st : UeState} {u : UeContext} {key : Key128}
    (h : InStep st u) (hkey : st.nasKey = some key) :
    u.nas = ⟨some ⟨key, st.nasCount⟩⟩ := by
  rw [h.nas, hkey]
  rfl

theorem InStep.pdcp_counted {st : UeState} {u : UeContext} (h : InStep st u) :
    u.pdcpTx.counted = ⟨st.pdcpCounted.pdcpCount, st.rrcKey⟩ := by
  rw [h.pdcp]
  rfl

theorem UeState.saidNas_downlink (st : UeState) :
    st.saidNas.challenge = st.challenge ∧ st.saidNas.nasKey = st.nasKey ∧
      st.saidNas.nasCount = st.nasCount ∧ st.saidNas.rrcKey = st.rrcKey ∧
      st.saidNas.pdcpCount = st.pdcpCount := by
  unfold UeState.saidNas
  split
  next => exact ⟨rfl, rfl, rfl, rfl, rfl⟩
  next => exact ⟨rfl, rfl, rfl, rfl, rfl⟩

variable {api : HandlerApi} {ue : StandardUe} {st st' : UeState} {s : Task}

theorem InStep.saidNas {u : UeContext} (h : InStep st u) :
    InStep st.saidNas u := by
  rcases st.saidNas_downlink with ⟨_, hnas, hcount, hrrc, hpdcp⟩
  constructor
  · rw [hnas, hcount]
    exact h.nas
  · rw [hrrc, hpdcp]
    exact h.pdcp

/-!
## From the UE to the task
-/

theorem viewInner_uplinkPdu (c : Crypto) (key : Option Key128) (count : UInt32)
    (rrc : Bytes) :
    PdcpTx.viewInner (uplinkPdu c key count rrc) = Outcome.ok rrc := by
  unfold PdcpTx.viewInner uplinkPdu
  cases key with
  | none => simp
  | some key => simp

theorem carriesRrc_uplink (hcompat : Compatible api ue) {rrc : UlDcchMessage}
    {bytes : Bytes} (hwrite : ue.writeRrc rrc = some bytes)
    (ueId : GnbCuUeF1apId) (key : Option Key128) (count : UInt32) :
    CarriesRrc api (uplink ueId (uplinkPdu api.crypto key count bytes)) rrc := by
  change extractUlDcchMessage api ⟨ueId, uplinkPdu api.crypto key count bytes⟩ = _
  unfold extractUlDcchMessage
  rw [viewInner_uplinkPdu]
  change Outcome.ofOption UeError.rrcDecode _ = _
  rw [hcompat.decodeRrc rrc bytes hwrite]
  rfl

theorem sendRrc_carried (hcompat : Compatible api ue) {rrc : UlDcchMessage}
    {bytes : Bytes} (hwrite : ue.writeRrc rrc = some bytes) (st : UeState) :
    exists pdu, ue.sendRrc api.crypto st rrc = some (st.saidRrc, pdu) ∧
      forall ueId, CarriesRrc api (uplink ueId pdu) rrc := by
  refine ⟨uplinkPdu api.crypto st.rrcKey st.ulPdcpCount bytes, ?_, ?_⟩
  · unfold StandardUe.sendRrc
    rw [hwrite]
    rfl
  · intro ueId
    exact carriesRrc_uplink hcompat hwrite ueId st.rrcKey st.ulPdcpCount

theorem decodeNas_written (hcompat : Compatible api ue) {message : Nas5gmmMessage}
    {plain : Bytes}
    (hwrite : ue.writeNas (Nas5gsMessage.gmm message) = some plain) :
    decodeNas api plain = Outcome.ok (Nas5gsMessage.gmm message) := by
  unfold decodeNas NasContext.decode
  rw [hcompat.decodeNas _ _ hwrite]
  rfl

theorem decodeNas_protected (hcompat : Compatible api ue)
    {message : Nas5gmmMessage} {plain : Bytes}
    (hwrite : ue.writeNas (Nas5gsMessage.gmm message) = some plain)
    (headerType : Nas5gsSecurityHeaderType) (mac : Vector UInt8 4)
    (seq : UInt8) :
    decodeNas api (protectedFrame headerType mac seq plain) =
      Outcome.ok (Nas5gsMessage.gmm message) := by
  rcases hcompat.decodeProtected headerType mac seq plain message
    (hcompat.decodeNas _ _ hwrite) with ⟨mac', hdecode⟩
  unfold decodeNas NasContext.decode
  rw [hdecode]
  rfl

/-- The octet that the patch for OAI clears is zero already. -/
theorem patchNas_protected {plain : Bytes} (hplain : plain[1]? = some 0)
    (headerType : Nas5gsSecurityHeaderType) (mac : Vector UInt8 4)
    (seq : UInt8) :
    patchNasForOaiDeregistrationSecurityHeader
        (protectedFrame headerType mac seq plain) =
      protectedFrame headerType mac seq plain := by
  have hfront : ([0x7e, headerType.octet] ++ mac.toList ++ [seq]).length = 7 := by
    simp
  have hsplit : protectedFrame headerType mac seq plain =
      ([0x7e, headerType.octet] ++ mac.toList ++ [seq]) ++ plain := by
    simp [protectedFrame]
  have height : (protectedFrame headerType mac seq plain)[8]? = some 0 := by
    rw [hsplit, List.getElem?_append_right (by lia), hfront]
    exact hplain
  rcases List.getElem?_eq_some_iff.mp height with ⟨hlt, hget⟩
  unfold patchNasForOaiDeregistrationSecurityHeader
  rw [if_neg (by lia)]
  split
  next => rw [← hget, List.set_getElem_self]
  next => rfl

theorem sendNas_carried (hcompat : Compatible api ue) {message : Nas5gmmMessage}
    (hcan : ue.CanSay message) (st : UeState)
    (headerType : Nas5gsSecurityHeaderType) :
    exists pdu,
      ue.sendNas api.crypto st headerType message = some (st.saidNas, pdu) ∧
      forall ueId,
        CarriesNas api (uplink ueId pdu) (Nas5gsMessage.gmm message) ∧
        forall key, st.nasKey = some key ->
          CarriesUplinkNas api (uplink ueId pdu) message := by
  rcases hcan with ⟨plain, hplain, ⟨plainRrc, hplainRrc⟩, hprotected⟩
  unfold StandardUe.sendNas StandardUe.secureNas
  rw [hplain]
  cases hkey : st.nasKey with
  | none =>
      rcases sendRrc_carried hcompat hplainRrc st with ⟨pdu, hsend, hcarries⟩
      refine ⟨pdu, ?_, ?_⟩
      · simp only [Option.bind_eq_bind, Option.bind_some, hsend]
      · intro ueId
        refine ⟨⟨plain, hcarries ueId, decodeNas_written hcompat hplain⟩, ?_⟩
        intro key hnone
        cases hnone
  | some key =>
      let seq := UInt8.ofNat st.ulNasCount.toNat
      let mac := eia2 api.crypto key st.ulNasCount 1 0 (seq :: plain)
      rcases hprotected headerType mac seq with ⟨rrcBytes, hrrc⟩
      rcases sendRrc_carried hcompat hrrc st with ⟨pdu, hsend, hcarries⟩
      have hdecode := decodeNas_protected hcompat hplain headerType mac seq
      refine ⟨pdu, ?_, ?_⟩
      · simp only [Option.bind_eq_bind, Option.bind_some]
        rw [hsend]
        rfl
      · intro ueId
        refine ⟨⟨_, hcarries ueId, hdecode⟩, ?_⟩
        intro _ _
        refine ⟨_, hcarries ueId, ?_⟩
        rw [patchNas_protected (hcompat.plain _ _ hplain)]
        exact hdecode

/-!
## From the task to the UE
-/

theorem pdcpAccepts_srb1Pdu {p : PdcpTx} (h : Covers st p)
    (hcount : st.pdcpCount ≠ 0xffffffff) (c : Crypto) (bytes : Bytes) :
    st.PdcpAccepts c (p.srb1Pdu c bytes) := by
  refine ⟨by simp [PdcpTx.srb1Pdu, PdcpTx.header_length]; lia, ?_, ?_⟩
  · unfold PdcpTx.srb1Pdu
    rw [List.append_assoc, ← h.count]
    exact PdcpTx.rcvdSn_header p.txNext _
  · intro key hkey
    rw [← h.count] at hcount ⊢
    have hencode := @PdcpTx.encode_srb1 c true p (by simp [hcount]) bytes
    exact (pdcpEncode_verifies (h.key key hkey) hencode).left

theorem srb1Pdu_data (c : Crypto) (p : PdcpTx) (bytes : Bytes) :
    ((p.srb1Pdu c bytes).drop 2).take ((p.srb1Pdu c bytes).length - 6) =
      bytes := by
  have hlen : (p.srb1Pdu c bytes).length - 6 = bytes.length := by
    simp [PdcpTx.srb1Pdu, PdcpTx.header_length]
    lia
  rw [hlen]
  unfold PdcpTx.srb1Pdu
  rw [List.append_assoc, List.drop_left' (PdcpTx.header_length _),
    List.take_left]

theorem answer_srb1 (hcompat : Compatible api ue) {rrc : DlRrcMessage}
    {rrcBytes : Bytes} {p : PdcpTx}
    (hencode : api.rrcCodec.encode rrc = some rrcBytes) (hcovers : Covers st p)
    (hcount : st.pdcpCount ≠ 0xffffffff) (u : UeContext) :
    ue.answer api.crypto st
        (dlRrcMessageTransfer u (p.srb1Pdu api.crypto rrcBytes) 1) =
      ue.answerRrc api.crypto st (p.srb1Pdu api.crypto rrcBytes) rrc := by
  change ue.answerSrb1 api.crypto st (p.srb1Pdu api.crypto rrcBytes) = _
  unfold StandardUe.answerSrb1
  rw [if_pos (pdcpAccepts_srb1Pdu hcovers hcount _ _), srb1Pdu_data,
    hcompat.readRrc rrc rrcBytes hencode]
  rfl

/-!
## One exchange
-/

theorem sendRrc_srb0 {rrc : DlRrcMessage} {rrcBytes : Bytes}
    (hencode : api.rrcCodec.encode rrc = some rrcBytes) (s : Task) :
    sendRrc api 0 rrc s = (Outcome.ok (),
      s.send (dlRrcMessageTransfer s.ue rrcBytes 0) rrc s.ue.pdcpTx) := by
  unfold sendRrc
  rw [hencode]
  rfl

theorem sendRrc_srb1 {rrc : DlRrcMessage} {rrcBytes : Bytes} {s : Task}
    (hencode : api.rrcCodec.encode rrc = some rrcBytes)
    (hcount : s.ue.pdcpTx.txNext ≠ 0xffffffff) :
    sendRrc api 1 rrc s = (Outcome.ok (),
      s.send (dlRrcMessageTransfer s.ue
        (s.ue.pdcpTx.srb1Pdu api.crypto rrcBytes) 1) rrc
        s.ue.pdcpTx.counted) := by
  have hwrap : maybePdcpEncapsulate api rrcBytes 1 s =
      (Outcome.ok (s.ue.pdcpTx.srb1Pdu api.crypto rrcBytes),
        s.setPdcpTx s.ue.pdcpTx.counted) := by
    unfold maybePdcpEncapsulate
    rw [if_neg (by decide)]
    unfold Cmd.zoom
    rw [PdcpTx.encode_srb1 (by simp [hcount])]
    rfl
  unfold sendRrc
  rw [hencode]
  simp only [Cmd.bind_run, Cmd.lift_run, Outcome.ofOption]
  rw [hwrap]
  rfl

theorem rrcRequest_succeeds {srbId : SrbId} {rrc : DlRrcMessage}
    {rrcContainer : Bytes} {p : PdcpTx} {pdu : Bytes}
    {response : UlDcchMessage}
    (hsend : forall inbox, sendRrc api srbId rrc (taskLine.setInbox inbox s) =
      (Outcome.ok (), taskLine.setInbox inbox
        (s.send (dlRrcMessageTransfer s.ue rrcContainer srbId) rrc p)))
    (hanswer : ue.answer api.crypto st
      (dlRrcMessageTransfer s.ue rrcContainer srbId) = some (st', pdu))
    (hcarries : CarriesRrc api (uplink s.ue.key pdu) response) :
    Succeeds taskLine (ue.peer api.crypto) (rrcRequest api srbId rrc) st s
      fun x b t => x = response ∧ b = st' ∧
        t.ue = { s.ue with pdcpTx := p } := by
  let transfer := dlRrcMessageTransfer s.ue rrcContainer srbId
  let reply := uplink s.ue.key pdu
  have hrun : forall rest,
      rrcRequest api srbId rrc (taskLine.setInbox (reply :: rest) s) =
        (Outcome.ok response, taskLine.setInbox rest
          ((s.send transfer rrc p).record (UeEvent.received reply))) := by
    intro rest
    -- Sending does not look at the inbox, so the answer is still at its front.
    unfold rrcRequest
    rw [Cmd.bind_run, hsend]
    exact Prod.ext hcarries rfl
  have hsent : taskLine.sent
      ((s.send transfer rrc p).record (UeEvent.received reply)) =
        taskLine.sent s ++ [transfer] := by
    rw [sent_record]
    unfold Task.send
    rw [sent_record]
    exact List.append_nil _
  have hreply : (ue.peer api.crypto).answer st transfer = some (st', reply) :=
    congrArg (Option.map _) hanswer
  exact Succeeds.ask hrun hsent hreply ⟨rfl, rfl, rfl⟩

theorem srb1Request_succeeds (hcompat : Compatible api ue) {rrc : DlRrcMessage}
    {rrcBytes : Bytes} {pdu : Bytes} {response : UlDcchMessage}
    (hencode : api.rrcCodec.encode rrc = some rrcBytes)
    (hcovers : Covers st s.ue.pdcpTx) (hcount : st.pdcpCount ≠ 0xffffffff)
    (hanswer : ue.answerRrc api.crypto st
      (s.ue.pdcpTx.srb1Pdu api.crypto rrcBytes) rrc = some (st', pdu))
    (hcarries : CarriesRrc api (uplink s.ue.key pdu) response) :
    Succeeds taskLine (ue.peer api.crypto) (rrcRequest api 1 rrc) st s
      fun x b t => x = response ∧ b = st' ∧
        t.ue = { s.ue with pdcpTx := s.ue.pdcpTx.counted } := by
  have htask : s.ue.pdcpTx.txNext ≠ 0xffffffff := by
    rw [hcovers.count]
    exact hcount
  have hsend : forall inbox,
      sendRrc api 1 rrc (taskLine.setInbox inbox s) =
        (Outcome.ok (), taskLine.setInbox inbox
          (s.send (dlRrcMessageTransfer s.ue
            (s.ue.pdcpTx.srb1Pdu api.crypto rrcBytes) 1) rrc
            s.ue.pdcpTx.counted)) := by
    intro inbox
    exact @sendRrc_srb1 api rrc rrcBytes (taskLine.setInbox inbox s) hencode
      htask
  exact rrcRequest_succeeds hsend
    ((answer_srb1 hcompat hencode hcovers hcount s.ue).trans hanswer) hcarries

def Carried (api : HandlerApi) (nasBytes : Bytes) : Prop :=
  exists rrcBytes, api.rrcCodec.encode
    (DlRrcMessage.dlInformationTransfer 1 nasBytes) = some rrcBytes

theorem encodeNas_succeeds {P : Peer UeState DlRrcMessageTransfer F1apPdu}
    {nas : Nas5gsMessage} {bytes : Bytes} {n : NasContext}
    (hencode : NasContext.encode api.crypto api.nasCodec nas s.ue.nas =
      (Outcome.ok bytes, n)) :
    Succeeds taskLine P (encodeNas api nas) st s
      fun x b t => x = bytes ∧ b = st ∧ t.ue = { s.ue with nas := n } := by
  apply Succeeds.bind (R := fun x b t => x = bytes ∧ b = st ∧ t = s.setNas n)
  · exact Succeeds.zoom hencode (fun _ => rfl) (fun _ => rfl) rfl
      ⟨rfl, rfl, rfl⟩
  · rintro x b t ⟨rfl, rfl, rfl⟩
    apply Succeeds.modify_bind (fun _ => rfl)
    · rw [sent_record]
      exact List.append_nil _
    · exact Succeeds.pure ⟨rfl, rfl, rfl⟩

theorem nasRequest_succeeds (hcompat : Compatible api ue)
    {nas response : Nas5gsMessage} {bytes : Bytes} {n : NasContext}
    {pdu : Bytes}
    (hencode : NasContext.encode api.crypto api.nasCodec nas s.ue.nas =
      (Outcome.ok bytes, n)) (hcarried : Carried api bytes)
    (hcovers : Covers st s.ue.pdcpTx) (hcount : st.pdcpCount ≠ 0xffffffff)
    (hanswer : ue.answerNas api.crypto st.pdcpCounted bytes = some (st', pdu))
    (hcarries : CarriesNas api (uplink s.ue.key pdu) response) :
    Succeeds taskLine (ue.peer api.crypto) (nasRequest api nas) st s
      fun x b t => x = response ∧ b = st' ∧
        t.ue = { s.ue with nas := n, pdcpTx := s.ue.pdcpTx.counted } := by
  rcases hcarried with ⟨rrcBytes, hrrc⟩
  rcases hcarries with ⟨responseBytes, hresponse, hnas⟩
  apply Succeeds.bind (encodeNas_succeeds hencode)
  rintro x b t ⟨rfl, rfl, ht⟩
  have hpdcp : t.ue.pdcpTx = s.ue.pdcpTx := by rw [ht]
  have hkey : t.ue.key = s.ue.key := by rw [ht]
  rw [← hpdcp] at hcovers
  rw [← hkey] at hresponse
  apply Succeeds.bind (srb1Request_succeeds hcompat hrrc hcovers hcount hanswer
    hresponse)
  rintro x' b' t' ⟨rfl, rfl, ht'⟩
  apply Succeeds.lift hnas
  refine ⟨rfl, rfl, ?_⟩
  rw [ht', ht]

/-!
## Protected messages
-/

def Protects (api : HandlerApi) (carried : Bytes -> Prop)
    (headerType : Nas5gsSecurityHeaderType) (seq : UInt8)
    (nas : Nas5gsMessage) : Prop :=
  exists plain, api.nasCodec.encode nas = some plain ∧
    forall mac, carried (protectedFrame headerType mac seq plain)

theorem patchMac_protectedFrame (headerType : Nas5gsSecurityHeaderType)
    (mac mac' : Vector UInt8 4) (seq : UInt8) (plain : Bytes) :
    SecurityContext.patchMac (protectedFrame headerType mac seq plain) mac' =
      protectedFrame headerType mac' seq plain := by
  have hsix : ([0x7e, headerType.octet] ++ mac.toList).length = 6 := by simp
  unfold SecurityContext.patchMac protectedFrame
  rw [List.drop_left' hsix]
  simp

theorem nextCount_eq (count : UInt32) :
    (count + 1) &&& 0xffffff = (count + 1) % 0x1000000 := by
  apply UInt32.toNat_inj.mp
  rw [UInt32.toNat_and, UInt32.toNat_mod]
  exact Nat.and_two_pow_sub_one_eq_mod _ 24

theorem seq_eq (count : UInt32) :
    (count &&& 0xff).toUInt8 = UInt8.ofNat count.toNat := by
  apply UInt8.toNat_inj.mp
  rw [UInt32.toNat_toUInt8, UInt32.toNat_and, UInt8.toNat_ofNat']
  have hmask : count.toNat &&& 255 = count.toNat % 256 :=
    Nat.and_two_pow_sub_one_eq_mod count.toNat 8
  exact (congrArg (· % 256) hmask).trans (Nat.mod_mod _ _)

theorem encode_protected (hcompat : Compatible api ue)
    {carried : Bytes -> Prop} {key : Key128} {count : UInt32}
    {headerType : Nas5gsSecurityHeaderType} {message : Nas5gmmMessage}
    (hheader : SecurityContext.headerType ⟨key, count⟩ = headerType)
    (h : Protects api carried headerType (UInt8.ofNat count.toNat)
      (Nas5gsMessage.gmm message)) :
    exists bytes mac,
      NasContext.encode api.crypto api.nasCodec (Nas5gsMessage.gmm message)
          ⟨some ⟨key, count⟩⟩ =
        (Outcome.ok bytes, ⟨some ⟨key, (count + 1) % 0x1000000⟩⟩) ∧
      carried bytes ∧ NasVerifies api.crypto key count bytes ∧
      ue.readNas bytes =
        some (Nas5gsMessage.securityProtected headerType mac
          (UInt8.ofNat count.toNat) (Nas5gsMessage.gmm message)) := by
  rcases h with ⟨plain, hplain, hcarried⟩
  let seq := UInt8.ofNat count.toNat
  let zeros := protectedFrame headerType (Vector.replicate 4 0) seq plain
  let mac := SecurityContext.mac api.crypto ⟨key, count⟩ zeros
  have hzeros : api.nasCodec.encode (Nas5gsMessage.securityProtected headerType
      0 seq (Nas5gsMessage.gmm message)) = some zeros := by
    rw [hcompat.encodeProtected, hplain]
    rfl
  have hencode : SecurityContext.encodeWithIntegrity api.crypto api.nasCodec
      (Nas5gsMessage.gmm message) ⟨key, count⟩ =
        (Outcome.ok (protectedFrame headerType mac seq plain),
          ⟨key, (count + 1) % 0x1000000⟩) := by
    have hlong : ¬ zeros.length < 6 := by simp [zeros, protectedFrame]
    unfold SecurityContext.encodeWithIntegrity
    rw [hheader, seq_eq, hzeros, ← nextCount_eq]
    simp only [if_neg hlong]
    rw [← patchMac_protectedFrame headerType (Vector.replicate 4 0) mac]
  rcases hcompat.readProtected headerType mac seq plain message
    (hcompat.readNas _ _ hplain) with ⟨mac', hread⟩
  refine ⟨_, mac', ?_, hcarried mac, encodeWithIntegrity_verifies hencode, hread⟩
  unfold NasContext.encode
  simp only [hencode, seq]

theorem acceptNas_verified {c : Crypto} {key : Key128} {bytes : Bytes}
    (hkey : st.nasKey = some key)
    (hverifies : NasVerifies c key st.nasCount bytes) :
    st.acceptNas c (UInt8.ofNat st.nasCount.toNat) bytes =
      some { st with nasCount := (st.nasCount + 1) % 0x1000000 } := by
  unfold UeState.acceptNas
  rw [hkey]
  exact if_pos ⟨rfl, hverifies⟩

end Ue
end QCore
