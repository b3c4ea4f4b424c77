import QCore.Userplane.UplinkPipeline

/-!
# The rounds over the extension headers

The loop of the uplink handler skips one extension header in each round.  A
header says its own length, and one that says zero is skipped forever, because
the length check that could end the loop passes again and again.

All that the rounds and the checks after them read lies in the datagram, so what
earlier datagrams left in the buffer does not matter.
-/

namespace QCore
namespace Userplane

open Foundation

namespace UdpRead

/-!
## When the loop ends
-/

inductive Visits (r : UdpRead) : Nat -> Prop where
  | first : Visits r 12
  | next {offset : Nat} :
      Visits r offset -> r.buf.byte (offset - 1) ≠ 0 ->
      offset + (r.buf.byte offset).toNat * 4 + 23 <= r.bytesRead ->
      Visits r (offset + (r.buf.byte offset).toNat * 4)

/-- An extension header of length zero, with room for a packet after it. -/
structure EmptyExtensionAt (r : UdpRead) (offset : Nat) : Prop where
  extension : r.buf.byte (offset - 1) ≠ 0
  empty : r.buf.byte offset = 0
  room : offset + 23 <= r.bytesRead

/-- A G-PDU with an extended header that leads the loop to an empty one. -/
structure Circular (r : UdpRead) : Prop where
  long : 31 <= r.bytesRead
  gpdu : r.buf.byte 1 = 255
  extended : r.buf.byte 0 ≠ 0x30
  header : exists offset, r.Visits offset ∧ r.EmptyExtensionAt offset

theorem Visits.lt {r : UdpRead} {offset : Nat} (h : r.Visits offset) :
    offset < 2000 := by
  have hfits := r.fits
  cases h with
  | first => exact Nat.lt_of_sub_eq_succ rfl
  | next _ _ hroom => lia

theorem skipExtension_again {r : UdpRead} {offset : Nat}
    (h : r.Visits offset) (hext : r.buf.byte (offset - 1) ≠ 0)
    (hroom : offset + (r.buf.byte offset).toNat * 4 + 23 <= r.bytesRead) :
    r.skipExtension offset =
      Outcome.ok (Round.again (offset + (r.buf.byte offset).toNat * 4)) := by
  rw [r.skipExtension_eq h.lt, roundAt, if_neg hext,
    if_neg (Nat.not_lt_of_le hroom)]

theorem skipExtension_empty {r : UdpRead} {offset : Nat}
    (h : r.Visits offset) (hempty : r.EmptyExtensionAt offset) :
    r.skipExtension offset = Outcome.ok (Round.again offset) := by
  have hsame : offset + (r.buf.byte offset).toNat * 4 = offset := by
    rw [hempty.empty]
    rfl
  have hagain := skipExtension_again h hempty.extension
    (by rw [hsame]; exact hempty.room)
  rw [hsame] at hagain
  exact hagain

theorem Visits.ends {r : UdpRead} {offset : Nat} (h : r.Visits offset)
    (hends : Fueled.Ends r.skipExtension 12) :
    Fueled.Ends r.skipExtension offset := by
  induction h with
  | first => exact hends
  | next hvisits hext hroom ih =>
      rw [← Fueled.ends_again (skipExtension_again hvisits hext hroom)]
      exact ih

theorem loop_ends_iff (r : UdpRead) :
    Fueled.Ends r.skipExtension 12 <->
      forall offset, r.Visits offset -> ¬ r.EmptyExtensionAt offset := by
  constructor
  · intro hends offset hvisits hempty
    exact Fueled.not_ends_of_same (skipExtension_empty hvisits hempty)
      (hvisits.ends hends)
  · intro hnone
    apply Fueled.ends_of_measure (I := r.Visits)
      (fun offset => r.bytesRead - offset) _ Visits.first
    intro offset offset' hvisits hround
    rw [r.skipExtension_eq hvisits.lt] at hround
    rcases roundAt_again (Outcome.ok.inj hround) with ⟨hext, hnext, hroom⟩
    have hlength : (r.buf.byte offset).toNat ≠ 0 := by
      intro hzero
      rw [hnext, hzero] at hroom
      exact hnone offset hvisits
        ⟨hext, UInt8.toNat_inj.mp hzero, hroom⟩
    constructor
    · rw [hnext] at hroom ⊢
      exact Visits.next hvisits hext hroom
    · lia

def afterHeader (r : UdpRead) : Option Nat -> Fueled UplinkError Verdict
  | none => pure (Verdict.dropped UplinkDrop.tooShortExt)
  | some offset => Fueled.lift (r.checkInner offset)

theorem check_eq (r : UdpRead) (fuel : Nat) :
    r.check fuel =
      if r.bytesRead < 31 then
        pure (Verdict.dropped UplinkDrop.tooShort)
      else if r.buf.byte 1 ≠ 255 then
        pure (Verdict.dropped UplinkDrop.gtpMessageType)
      else
        (if r.buf.byte 0 = 0x30 then pure (some 8)
          else Fueled.loop r.skipExtension fuel 12) >>= r.afterHeader := by
  have hafter : r.afterHeader = fun offset =>
      match offset with
      | none => pure (Verdict.dropped UplinkDrop.tooShortExt)
      | some offset => Fueled.lift (r.checkInner offset) := by
    funext offset
    cases offset with
    | none => rfl
    | some offset => rfl
  unfold check pdcpOffset
  rw [hafter, r.buf.read_of_lt (by decide), r.buf.read_of_lt (by decide)]
  rfl

theorem finished_afterHeader (r : UdpRead) (offset : Option Nat) :
    Fueled.Finished (r.afterHeader offset) := by
  cases offset with
  | none => exact Fueled.finished_pure _
  | some offset => exact Fueled.finished_lift _

theorem check_ends_iff (r : UdpRead) :
    (exists fuel, Fueled.Finished (r.check fuel)) <-> ¬ r.Circular := by
  simp only [check_eq]
  cases Nat.decLt r.bytesRead 31 with
  | isTrue hshort =>
      simp only [if_pos hshort]
      constructor
      · exact fun _ h => absurd h.long (Nat.not_le_of_lt hshort)
      · exact fun _ => ⟨0, Fueled.finished_pure _⟩
  | isFalse hlong =>
      simp only [if_neg hlong]
      cases decEq (r.buf.byte 1) 255 with
      | isFalse hother =>
          simp only [ne_eq, hother, not_false_eq_true, ↓reduceIte]
          constructor
          · exact fun _ h => absurd h.gpdu hother
          · exact fun _ => ⟨0, Fueled.finished_pure _⟩
      | isTrue hgpdu =>
          simp only [ne_eq, hgpdu, not_true_eq_false, ↓reduceIte]
          cases decEq (r.buf.byte 0) 0x30 with
          | isTrue hbase =>
              simp only [if_pos hbase]
              constructor
              · exact fun _ h => absurd hbase h.extended
              · exact fun _ => ⟨0, r.finished_afterHeader (some 8)⟩
          | isFalse hextended =>
              simp only [if_neg hextended,
                Fueled.finished_bind_iff r.finished_afterHeader]
              show Fueled.Ends r.skipExtension 12 <-> _
              rw [loop_ends_iff]
              constructor
              · intro hnone h
                rcases h.header with ⟨offset, hvisits, hempty⟩
                exact hnone offset hvisits hempty
              · intro hnot offset hvisits hempty
                exact hnot ⟨Nat.le_of_not_lt hlong, hgpdu, hextended, offset,
                  hvisits, hempty⟩

end UdpRead

namespace Uplink

theorem handle_some_iff (env : UplinkEnv) (fuel : Nat) (r : UdpRead)
    (u : Uplink) :
    (exists result,
      handleNextUplinkPacket env fuel (some r) u = some result) <->
      Fueled.Finished (r.check fuel) := by
  rw [handleNextUplinkPacket]
  cases hcheck : r.check fuel with
  | none =>
      constructor
      · intro h
        rcases h with ⟨result, hresult⟩
        cases hresult
      · intro h
        rcases h with ⟨out, hout⟩
        cases hout
  | some verdict => exact ⟨fun _ => ⟨verdict, rfl⟩, fun _ => ⟨_, rfl⟩⟩

/-- For every datagram, every residue in the buffer and every table: the loop
exits after finitely many rounds, and the handler returns, unless the headers
lead to an extension header of length zero. -/
theorem handle_returns_iff (env : UplinkEnv) (r : UdpRead) (u : Uplink) :
    (exists fuel result,
      handleNextUplinkPacket env fuel (some r) u = some result) <->
      ¬ r.Circular := by
  simp only [handle_some_iff]
  exact r.check_ends_iff

/-- A datagram of 35 bytes whose first extension header says length zero. -/
def emptyExtension : UdpRead :=
  datagram ([0x34, 255, 0, 27, 0, 0, 0, 1, 0, 0, 0, 0x85] ++
    List.replicate 23 0) (by decide)

theorem not_returns_emptyExtension :
    ¬ exists fuel result,
      handleNextUplinkPacket openTun fuel (some emptyExtension) emptyUplink =
        some result := by
  have hempty : emptyExtension.EmptyExtensionAt 12 :=
    ⟨by decide, by decide, by decide⟩
  simp only [handle_some_iff]
  rw [emptyExtension.check_ends_iff]
  exact not_not_intro
    ⟨by decide, by decide, by decide, 12, UdpRead.Visits.first, hempty⟩

end Uplink

/-!
## What earlier datagrams left behind
-/

/-- The same datagram, in buffers that may differ after it. -/
structure SameDatagram (r r' : UdpRead) : Prop where
  bytesRead : r.bytesRead = r'.bytesRead
  bytes : r.buf.bytes.take r.bytesRead = r'.buf.bytes.take r.bytesRead

namespace SameDatagram

variable {r r' : UdpRead} (h : SameDatagram r r')

include h

theorem byte {i : Nat} (hi : i < r.bytesRead) :
    r.buf.byte i = r'.buf.byte i :=
  Buffer.byte_congr h.bytes hi

theorem skipExtension {offset : Nat} (hroom : offset + 3 < r.bytesRead) :
    r.skipExtension offset = r'.skipExtension offset := by
  have hlt : offset < 2000 := by
    have hfits := r.fits
    lia
  rw [r.skipExtension_eq hlt, r'.skipExtension_eq hlt]
  unfold UdpRead.roundAt
  rw [h.byte (i := offset - 1) (by lia), h.byte (i := offset) (by lia),
    h.bytesRead]

theorem checkInner {offset : Nat} (hroom : offset + 3 < r.bytesRead)
    (hlong : 31 <= r.bytesRead) :
    r.checkInner offset = r'.checkInner offset := by
  have hfits := r.fits
  unfold UdpRead.checkInner
  rw [Buffer.slice_congr h.bytes (by lia : 8 <= r.bytesRead),
    r.buf.read_of_lt (by lia), r.buf.read_of_lt (by lia),
    r.buf.read_of_lt (by lia), r'.buf.read_of_lt (by lia),
    r'.buf.read_of_lt (by lia), r'.buf.read_of_lt (by lia),
    h.byte (i := offset) (by lia), h.byte (i := offset + 2) (by lia),
    h.byte (i := offset + 2 + 1) hroom]

theorem loop (hlong : 31 <= r.bytesRead) (fuel : Nat) :
    Fueled.loop r.skipExtension fuel 12 =
      Fueled.loop r'.skipExtension fuel 12 := by
  apply Fueled.loop_congr (I := fun offset => offset + 3 < r.bytesRead)
  · intro offset hroom
    exact h.skipExtension hroom
  · intro offset offset' hroom hround
    have hlt : offset < 2000 := by
      have hfits := r.fits
      lia
    rw [r.skipExtension_eq hlt] at hround
    have hnext := (UdpRead.roundAt_again (Outcome.ok.inj hround)).right.right
    lia
  · lia

theorem afterHeader (hlong : 31 <= r.bytesRead) {offset : Option Nat}
    (hends : r.EndsAt r.PdcpAt offset) :
    r.afterHeader offset = r'.afterHeader offset := by
  cases offset with
  | none => rfl
  | some offset =>
      have hroom : offset + 3 < r.bytesRead := by
        rcases UdpRead.pdcpAt_cases ((hends.left offset).mpr rfl) with
          ⟨_, heq⟩ | ⟨_, _, heq⟩ | ⟨_, _, hle⟩
        · lia
        · lia
        · lia
      exact congrArg Fueled.lift (h.checkInner hroom hlong)

theorem check (fuel : Nat) : r.check fuel = r'.check fuel := by
  cases Nat.decLt r.bytesRead 31 with
  | isTrue hshort =>
      rw [r.check_eq, r'.check_eq, ← h.bytesRead, if_pos hshort, if_pos hshort]
  | isFalse hnot =>
      have hlong := Nat.le_of_not_lt hnot
      have hoffset : r.pdcpOffset fuel =
          if r.buf.byte 0 = 0x30 then pure (some 8)
            else Fueled.loop r.skipExtension fuel 12 := by
        unfold UdpRead.pdcpOffset
        rw [r.buf.read_of_lt (by decide)]
        rfl
      have hreturns := r.pdcpOffset_returns fuel hlong
      rw [hoffset] at hreturns
      rw [r.check_eq, r'.check_eq, ← h.bytesRead, if_neg hnot, if_neg hnot,
        Fueled.bind_congr hreturns fun _ hends => h.afterHeader hlong hends,
        h.loop hlong, h.byte (i := 0) (by lia), h.byte (i := 1) (by lia)]

theorem lookupAndWrite (env : UplinkEnv) (gtpTeid : Bytes) (offset : Nat) :
    Uplink.lookupAndWrite env r gtpTeid offset =
      Uplink.lookupAndWrite env r' gtpTeid offset := by
  unfold Uplink.lookupAndWrite
  rw [← h.bytesRead, Buffer.slice_congr h.bytes (Nat.le_refl _)]

theorem finish (env : UplinkEnv) (verdict : Verdict) :
    Uplink.finish env r verdict = Uplink.finish env r' verdict := by
  cases verdict with
  | dropped reason => rfl
  | inner gtpTeid offset => exact h.lookupAndWrite env gtpTeid offset

end SameDatagram

/-- For any two buffers that agree on the datagram the handler does the same, in
any number of rounds and for any table: it is still in its loop, or it leaves
the same counters and writes the same packet. -/
theorem Uplink.handle_sameDatagram {r r' : UdpRead} (h : SameDatagram r r')
    (env : UplinkEnv) (fuel : Nat) (u : Uplink) :
    handleNextUplinkPacket env fuel (some r) u =
      handleNextUplinkPacket env fuel (some r') u := by
  have hcounted : countReceived r = countReceived r' := by
    unfold countReceived
    rw [h.bytesRead]
  have hfinish : finish env r = finish env r' := funext (h.finish env)
  rw [handleNextUplinkPacket, handleNextUplinkPacket, h.check, hcounted,
    hfinish]

/-- The datagram of `Uplink.gpdu` over a buffer that an earlier one has filled
with this byte. -/
def Uplink.gpduOver (octet residue : UInt8) : UdpRead where
  buf := ⟨(gpdu octet).buf.bytes.take 39 ++ List.replicate 1961 residue, by
    rw [List.length_append, List.length_take, (gpdu octet).buf.size,
      List.length_replicate]
    rfl⟩
  bytesRead := 39
  fits := by decide

theorem Uplink.handle_sameDatagram_gpdu :
    SameDatagram (gpdu 1) (gpduOver 1 0x45) ∧
      handleNextUplinkPacket openTun 2 (some (gpdu 1)) emptyUplink =
        handleNextUplinkPacket openTun 2 (some (gpduOver 1 0x45))
          emptyUplink := by
  have hsame : SameDatagram (gpdu 1) (gpduOver 1 0x45) := by
    constructor
    · rfl
    · decide +kernel
  exact ⟨hsame, handle_sameDatagram hsame openTun 2 emptyUplink⟩

end Userplane
end QCore
