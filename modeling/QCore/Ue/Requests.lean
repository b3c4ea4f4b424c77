import QCore.Ue.Task

/-!
# What the requests do

One lemma for each request of a UE task: what it sends, what it receives, and
what it leaves alone.
-/

namespace QCore
namespace Ue

open Foundation
open F1ap
open Nas
open Rrc
open Security

theorem filterMap_log {α : Type} (f : UeEvent -> Option α)
    (log : List UeEvent) (event : UeEvent) :
    (log ++ [event]).filterMap f = log.filterMap f ++ (f event).toList := by
  rw [List.filterMap_append]
  cases h : f event with
  | none => simp [h]
  | some a => simp [h]

variable (api : HandlerApi)

def Task.receive (pdu : F1apPdu) (rest : List F1apPdu) (s : Task) : Task :=
  { s with inbox := rest, log := s.log ++ [UeEvent.received pdu] }

theorem recv_cases (s : Task) :
    (s.inbox = [] ∧ recv s = (Outcome.err UeError.recv, s)) ∨
      exists pdu rest, s.inbox = pdu :: rest ∧
        recv s = (Outcome.ok pdu, s.receive pdu rest) := by
  cases h : s.inbox with
  | nil => exact Or.inl ⟨rfl, by simp [recv, h]⟩
  | cons pdu rest =>
      exact Or.inr ⟨pdu, rest, rfl, by simp [recv, h, Task.receive]⟩

def Wraps (api : HandlerApi) (srbId : SrbId) (p : PdcpTx) (rrcBytes : Bytes)
    (rrcContainer : Bytes) (p' : PdcpTx) : Prop :=
  (srbId = 0 ∧ rrcContainer = rrcBytes ∧ p' = p) ∨
    (srbId = 1 ∧ rrcContainer = p.srb1Pdu api.crypto rrcBytes ∧
      p' = p.counted)

theorem maybePdcpEncapsulate_cases (rrcBytes : Bytes) (srbId : SrbId)
    (s : Task) :
    (exists out p, Wraps api srbId s.ue.pdcpTx rrcBytes out p ∧
        maybePdcpEncapsulate api rrcBytes srbId s =
          (Outcome.ok out, s.setPdcpTx p)) ∨
      maybePdcpEncapsulate api rrcBytes srbId s = (Outcome.panic, s) := by
  unfold maybePdcpEncapsulate
  cases decEq srbId 0 with
  | isTrue hzero =>
      rw [if_pos hzero]
      exact Or.inl ⟨rrcBytes, s.ue.pdcpTx, Or.inl ⟨hzero, rfl, rfl⟩, rfl⟩
  | isFalse hzero =>
      rw [if_neg hzero]
      unfold Cmd.zoom
      rcases PdcpTx.encode_cases api.crypto api.overflowChecks srbId rrcBytes
        s.ue.pdcpTx with ⟨hsrb, _⟩ | ⟨hsrb, hcase⟩ | hcase
      · exact absurd hsrb hzero
      · rw [hcase]
        exact Or.inl ⟨_, _, Or.inr ⟨hsrb, rfl, rfl⟩, rfl⟩
      · rw [hcase]
        exact Or.inr rfl

def Task.send (transfer : DlRrcMessageTransfer) (rrc : DlRrcMessage)
    (p : PdcpTx) (s : Task) : Task :=
  (s.setPdcpTx p).record (UeEvent.dlRrcMessageTransfer transfer rrc)

theorem sendRrc_sent (srbId : SrbId) (rrc : DlRrcMessage) (s : Task) :
    (api.rrcCodec.encode rrc = none ∧
        sendRrc api srbId rrc s = (Outcome.err UeError.rrcEncode, s)) ∨
      exists rrcBytes, api.rrcCodec.encode rrc = some rrcBytes ∧
        (sendRrc api srbId rrc s = (Outcome.panic, s) ∨
          exists rrcContainer p,
            Wraps api srbId s.ue.pdcpTx rrcBytes rrcContainer p ∧
            sendRrc api srbId rrc s = (Outcome.ok (),
              s.send (dlRrcMessageTransfer s.ue rrcContainer srbId) rrc p)) := by
  unfold sendRrc
  cases hencode : api.rrcCodec.encode rrc with
  | none => exact Or.inl ⟨rfl, rfl⟩
  | some rrcBytes =>
      apply Or.inr
      simp only [Cmd.bind_run, Cmd.lift_run, Outcome.ofOption]
      rcases maybePdcpEncapsulate_cases api rrcBytes srbId s with
        ⟨rrcContainer, p, hwraps, hcase⟩ | hcase
      · rw [hcase]
        exact ⟨rrcBytes, rfl, Or.inr ⟨rrcContainer, p, hwraps, rfl⟩⟩
      · rw [hcase]
        exact ⟨rrcBytes, rfl, Or.inl rfl⟩

theorem sendRrc_cases (srbId : SrbId) (rrc : DlRrcMessage) (s : Task) :
    (api.rrcCodec.encode rrc = none ∧
        sendRrc api srbId rrc s = (Outcome.err UeError.rrcEncode, s)) ∨
      sendRrc api srbId rrc s = (Outcome.panic, s) ∨
      (api.rrcCodec.encode rrc ≠ none ∧ exists transfer p,
        sendRrc api srbId rrc s = (Outcome.ok (), s.send transfer rrc p)) := by
  rcases sendRrc_sent api srbId rrc s with
    hnone | ⟨rrcBytes, hsome, hpanic | ⟨rrcContainer, p, _, hsent⟩⟩
  · exact Or.inl hnone
  · exact Or.inr (Or.inl hpanic)
  · exact Or.inr (Or.inr ⟨by simp [hsome], _, p, hsent⟩)

variable {api}

theorem recvRrc_ok {s t : Task} {rrc : UlDcchMessage}
    (h : recvRrc api s = (Outcome.ok rrc, t)) :
    exists pdu rest, s.inbox = pdu :: rest ∧ t = s.receive pdu rest ∧
      CarriesRrc api pdu rrc := by
  rcases Cmd.bind_ok.mp h with ⟨pdu, s', hrecv, hlift⟩
  rcases Cmd.lift_ok.mp hlift with ⟨hcarries, ht⟩
  rcases recv_cases s with ⟨_, hcase⟩ | ⟨pdu', rest, hinbox, hcase⟩
  · rw [hcase] at hrecv
    cases hrecv
  · rw [hcase] at hrecv
    cases hrecv
    exact ⟨pdu, rest, hinbox, ht, hcarries⟩

theorem rrcRequest_ok {srbId : SrbId} {rrc : DlRrcMessage} {s t : Task}
    {response : UlDcchMessage}
    (h : rrcRequest api srbId rrc s = (Outcome.ok response, t)) :
    exists transfer p pdu rest, s.inbox = pdu :: rest ∧
      t = (s.send transfer rrc p).receive pdu rest ∧
      CarriesRrc api pdu response := by
  rcases Cmd.bind_ok.mp h with ⟨_, s', hsend, hrecv⟩
  rcases sendRrc_cases api srbId rrc s with
    ⟨_, hcase⟩ | hcase | ⟨_, transfer, p, hcase⟩
  · rw [hcase] at hsend
    cases hsend
  · rw [hcase] at hsend
    cases hsend
  · rw [hcase] at hsend
    cases hsend
    rcases recvRrc_ok hrecv with ⟨pdu, rest, hinbox, ht, hcarries⟩
    exact ⟨transfer, p, pdu, rest, hinbox, ht, hcarries⟩

theorem rrcRequest_inbox {srbId : SrbId} {rrc : DlRrcMessage} {s : Task}
    (h : (rrcRequest api srbId rrc s).1 ≠ Outcome.panic) :
    api.rrcCodec.encode rrc = none ∧
        (rrcRequest api srbId rrc s).2.inbox = s.inbox ∨
      api.rrcCodec.encode rrc ≠ none ∧
        (rrcRequest api srbId rrc s).2.inbox = s.inbox.tail := by
  unfold rrcRequest at h ⊢
  rw [Cmd.bind_run] at h ⊢
  rcases sendRrc_cases api srbId rrc s with
    ⟨hnone, hcase⟩ | hcase | ⟨hsome, transfer, p, hcase⟩
  · rw [hcase]
    exact Or.inl ⟨hnone, rfl⟩
  · rw [hcase] at h
    exact absurd rfl h
  · rw [hcase]
    refine Or.inr ⟨hsome, ?_⟩
    change (recvRrc api (s.send transfer rrc p)).2.inbox = s.inbox.tail
    unfold recvRrc
    rw [Cmd.bind_run]
    rcases recv_cases (s.send transfer rrc p) with
      ⟨hinbox, hrecv⟩ | ⟨pdu, rest, hinbox, hrecv⟩
    · rw [hrecv]
      change s.inbox = [] at hinbox
      change s.inbox = s.inbox.tail
      rw [hinbox]
      rfl
    · rw [hrecv]
      change s.inbox = pdu :: rest at hinbox
      rw [hinbox]
      rfl

theorem encodeNas_cases (nas : Nas5gsMessage) (s : Task) :
    (exists bytes n, NasContext.encode api.crypto api.nasCodec nas s.ue.nas =
          (Outcome.ok bytes, n) ∧
        encodeNas api nas s = (Outcome.ok bytes,
          (s.setNas n).record (UeEvent.encodedNas nas bytes))) ∨
      (exists e, encodeNas api nas s = (Outcome.err e, s)) ∨
      encodeNas api nas s = (Outcome.panic, s) := by
  unfold encodeNas
  rw [Cmd.bind_run]
  unfold Cmd.zoom
  rcases NasContext.encode_cases api.crypto api.nasCodec nas s.ue.nas with
    ⟨bytes, n, hcase⟩ | ⟨e, hcase⟩ | hcase
  · rw [hcase]
    exact Or.inl ⟨bytes, n, rfl, rfl⟩
  · rw [hcase]
    exact Or.inr (Or.inl ⟨_, rfl⟩)
  · rw [hcase]
    exact Or.inr (Or.inr rfl)

theorem encodeNas_ok {nas : Nas5gsMessage} {s t : Task} {bytes : Bytes}
    (h : encodeNas api nas s = (Outcome.ok bytes, t)) :
    exists n, NasContext.encode api.crypto api.nasCodec nas s.ue.nas =
        (Outcome.ok bytes, n) ∧
      t = (s.setNas n).record (UeEvent.encodedNas nas bytes) := by
  rcases encodeNas_cases nas s with ⟨bytes', n, hn, hcase⟩ | ⟨e, hcase⟩ | hcase
  · rw [hcase] at h
    cases h
    exact ⟨n, hn, rfl⟩
  · rw [hcase] at h
    cases h
  · rw [hcase] at h
    cases h

def Task.exchange (nas : Nas5gsMessage) (bytes : Bytes) (n : NasContext)
    (transfer : DlRrcMessageTransfer) (p : PdcpTx) (pdu : F1apPdu)
    (rest : List F1apPdu) (s : Task) : Task :=
  (((s.setNas n).record (UeEvent.encodedNas nas bytes)).send transfer
    (DlRrcMessage.dlInformationTransfer 1 bytes) p).receive pdu rest

theorem nasRequest_ok {nas response : Nas5gsMessage} {s t : Task}
    (h : nasRequest api nas s = (Outcome.ok response, t)) :
    exists bytes n transfer p pdu rest,
      NasContext.encode api.crypto api.nasCodec nas s.ue.nas =
        (Outcome.ok bytes, n) ∧
      s.inbox = pdu :: rest ∧
      t = s.exchange nas bytes n transfer p pdu rest ∧
      CarriesNas api pdu response := by
  rcases Cmd.bind_ok.mp h with ⟨bytes, s1, hencode, hrest⟩
  rcases Cmd.bind_ok.mp hrest with ⟨rrc, s2, hrequest, hlift⟩
  rcases Cmd.lift_ok.mp hlift with ⟨hnas, ht⟩
  rcases encodeNas_ok hencode with ⟨n, hn, hs1⟩
  rcases rrcRequest_ok hrequest with
    ⟨transfer, p, pdu, rest, hinbox, hs2, hcarries⟩
  rw [hs1] at hinbox hs2
  refine ⟨bytes, n, transfer, p, pdu, rest, hn, hinbox, ht.trans hs2, ?_⟩
  cases rrc with
  | ulInformationTransfer dedicated =>
      cases dedicated with
      | none => cases hnas
      | some responseBytes => exact ⟨responseBytes, hcarries, hnas⟩
  | _ => cases hnas

theorem expectNas_ok {α : Type} {expected : ExpectedNas}
    {select : Nas5gmmMessage -> Option α} {nas : Nas5gsMessage} {a : α}
    (h : expectNas expected select nas = Outcome.ok a) :
    exists message, nas = Nas5gsMessage.gmm message ∧ select message = some a := by
  cases nas with
  | gmm message => exact ⟨message, rfl, Outcome.ofOption_eq_ok.mp h⟩
  | gsm header message => cases h
  | securityProtected headerType mac seq body => cases h

end Ue
end QCore
