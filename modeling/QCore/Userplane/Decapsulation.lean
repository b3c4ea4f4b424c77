import QCore.Userplane.UplinkRounds

/-!
# Decapsulation of uplink packets

A G-PDU is built from a GTP-U header with any number of extension headers, a
PDCP and an SDAP header and an IPv4 packet.  The handler undoes every such
coding.

What it writes for other datagrams has a whole IPv4 header as well, except after
a header of 12 bytes without extensions: there the length was only checked for a
header of 8 bytes.
-/

namespace QCore
namespace Userplane

open Foundation

/-!
## The bytes of a datagram
-/

namespace UdpRead

def datagramBytes (r : UdpRead) : Bytes :=
  r.buf.bytes.take r.bytesRead

theorem datagramBytes_length (r : UdpRead) :
    r.datagramBytes.length = r.bytesRead := by
  unfold datagramBytes
  rw [List.length_take, r.buf.size]
  exact Nat.min_eq_left r.fits

theorem byte_of_datagramBytes {r : UdpRead} {before after : Bytes} {x : UInt8}
    {i : Nat} (h : r.datagramBytes = before ++ x :: after)
    (hlength : before.length = i) : r.buf.byte i = x := by
  have hlt : before.length < r.bytesRead := by
    rw [← r.datagramBytes_length, h, List.length_append, List.length_cons]
    lia
  rw [← hlength]
  unfold Buffer.byte
  rw [List.getD_eq_getElem?_getD, ← List.getElem?_take_of_lt hlt]
  show (r.datagramBytes[before.length]?).getD 0 = x
  rw [h, List.getElem?_append_right (Nat.le_refl _), Nat.sub_self]
  rfl

theorem innerPacket_of_datagramBytes {r : UdpRead} {after : Bytes}
    {offset : Nat} (before : Bytes) (h : r.datagramBytes = before ++ after)
    (hlength : before.length = offset + 3) : r.innerPacket offset = after := by
  show r.datagramBytes.drop (offset + 3) = after
  rw [h, ← hlength, List.drop_left]

theorem innerPacket_length (r : UdpRead) (offset : Nat) :
    (r.innerPacket offset).length = r.bytesRead - (offset + 3) := by
  show (r.datagramBytes.drop (offset + 3)).length = _
  rw [List.length_drop, r.datagramBytes_length]

end UdpRead

/-!
## Whole IPv4 headers
-/

namespace Uplink

theorem written_packet {env : UplinkEnv} {u u' : Uplink} {r : UdpRead}
    {out : Outcome UplinkError Unit} (h : DatagramEffect env u r out u')
    {packet : Bytes} (hwritten : u'.written = u.written ++ [packet]) :
    exists offset, r.UserPacketAt offset ∧ packet = r.innerPacket offset := by
  have hmore : u.written ≠ u.written ++ [packet] := by
    simp
  cases h with
  | dropped _ _ => exact absurd hwritten hmore
  | beyondTable _ _ => exact absurd hwritten hmore
  | noRule _ _ _ => exact absurd hwritten hmore
  | otherTeid _ _ _ => exact absurd hwritten hmore
  | notWritten _ _ _ => exact absurd hwritten hmore
  | @notFlushed offset _ hpacket _ _ _ =>
      have hsame := List.append_cancel_left hwritten
      exact ⟨offset, hpacket, (List.singleton_inj.mp hsame).symm⟩
  | @written offset _ hpacket _ _ _ =>
      have hsame := List.append_cancel_left hwritten
      exact ⟨offset, hpacket, (List.singleton_inj.mp hsame).symm⟩

/-- For every datagram and every table: a packet that is written has at least 20
bytes, unless it came after an extended header without extensions in a datagram
of less than 35 bytes. -/
theorem written_wholeHeader_iff (env : UplinkEnv) (fuel : Nat) (r : UdpRead)
    (u u' : Uplink) (out : Outcome UplinkError Unit) (packet : Bytes)
    (h : handleNextUplinkPacket env fuel (some r) u = some (out, u'))
    (hwritten : u'.written = u.written ++ [packet]) :
    ipv4HeaderLen <= packet.length <->
      r.buf.byte 0 = 0x30 ∨ r.buf.byte 11 ≠ 0 ∨ 35 <= r.bytesRead := by
  rcases written_packet (handle_effect h) hwritten with
    ⟨offset, hpacket, heq⟩
  have hlong := hpacket.long
  rw [heq, r.innerPacket_length]
  show 20 <= r.bytesRead - (offset + 3) <-> _
  rcases UdpRead.pdcpAt_cases hpacket.pdcpAt with
    ⟨hbase, hoffset⟩ | ⟨hextended, hnone, hoffset⟩ | ⟨_, hext, hroom⟩
  · exact iff_of_true (by lia) (Or.inl hbase)
  · rw [hoffset]
    constructor
    · intro hle
      exact Or.inr (Or.inr (by lia))
    · intro hcases
      rcases hcases with hbase | hext | hle
      · exact absurd hbase hextended
      · exact absurd hnone hext
      · lia
  · exact iff_of_true (by lia) (Or.inr (Or.inl hext))

def knownUplink : Uplink :=
  { emptyUplink with
    table := emptyUplink.table.set 1 (some ⟨#v[0, 0, 0, 1]⟩) }

theorem written_wholeHeader_gpdu :
    exists u', handleNextUplinkPacket openTun 2 (some (gpdu 1)) knownUplink =
        some (Outcome.ok (), u') ∧
      u'.written = knownUplink.written ++ [0x45 :: List.replicate 19 0] ∧
      (ipv4HeaderLen <= (0x45 :: List.replicate 19 0 : Bytes).length <->
        (gpdu 1).buf.byte 0 = 0x30 ∨ (gpdu 1).buf.byte 11 ≠ 0 ∨
          35 <= (gpdu 1).bytesRead) := by
  have hresult : (handleNextUplinkPacket openTun 2 (some (gpdu 1))
      knownUplink).map (fun result => (result.1, result.2.written)) =
        some (Outcome.ok (), [0x45 :: List.replicate 19 0]) := by
    decide +kernel
  rcases Option.map_eq_some_iff.mp hresult with ⟨⟨out, u'⟩, hends, hpair⟩
  have hout : out = Outcome.ok () := congrArg Prod.fst hpair
  have hwritten : u'.written = [0x45 :: List.replicate 19 0] :=
    congrArg Prod.snd hpair
  rw [hout] at hends
  exact ⟨u', hends, hwritten,
    written_wholeHeader_iff _ _ _ _ _ _ _ hends hwritten⟩

/-- A header of 12 bytes with a sequence number and no extension, and an inner
packet of 16 bytes. -/
def shortPacket : UdpRead :=
  datagram ([0x32, 255, 0, 23, 0, 0, 0, 1, 0, 0, 0, 0, 0x80, 0, 0x81, 0x45] ++
    List.replicate 15 0) (by decide)

theorem written_shortPacket :
    (handleNextUplinkPacket openTun 1 (some shortPacket) knownUplink).map
      (fun result => result.2.written) =
        some [0x45 :: List.replicate 15 0] := by
  decide +kernel

end Uplink

/-!
## Legal header chains
-/

/-- An extension header.  Its type stands before it; its length counts units of
four bytes, of which the first byte is the length itself and the last one the
type of the next header. -/
structure ExtensionHeader where
  type : UInt8
  units : UInt8
  content : Bytes
  type_ne : type ≠ 0
  size : content.length + 2 = 4 * units.toNat

inductive GtpHeader where
  | base
  /-- Three optional bytes before the type of the first extension. -/
  | extended (flags : UInt8) (flags_ne : flags ≠ 0x30)
      (optional : Vector UInt8 3) (extensions : List ExtensionHeader)

structure Gpdu where
  header : GtpHeader
  length : Vector UInt8 2
  teid : Vector UInt8 4
  pdcp : UInt8 × UInt8
  sdap : UInt8
  /-- The first byte of the packet, with the version. -/
  version : UInt8
  rest : Bytes
  pdcp_data : pdcp.1 &&& 0x80 ≠ 0
  sdap_data : sdap &&& 0x80 ≠ 0
  ipv4 : version &&& 0xf0 = 0x40
  whole : 19 <= rest.length

namespace ExtensionHeader

def nextType : List ExtensionHeader -> UInt8
  | [] => 0
  | e :: _ => e.type

def encode : List ExtensionHeader -> Bytes
  | [] => []
  | e :: rest => e.units :: (e.content ++ nextType rest :: encode rest)

end ExtensionHeader

namespace GtpHeader

def flags : GtpHeader -> UInt8
  | base => 0x30
  | extended flags _ _ _ => flags

def optionalPart : GtpHeader -> Bytes
  | base => []
  | extended _ _ optional extensions =>
      optional.toList ++ ExtensionHeader.nextType extensions ::
        ExtensionHeader.encode extensions

end GtpHeader

namespace Gpdu

def packet (g : Gpdu) : Bytes :=
  g.version :: g.rest

def encodeHeader (g : Gpdu) : Bytes :=
  [g.header.flags, 255] ++ g.length.toList ++ g.teid.toList ++
    g.header.optionalPart

def encode (g : Gpdu) : Bytes :=
  g.encodeHeader ++ ([g.pdcp.1, g.pdcp.2, g.sdap] ++ g.packet)

end Gpdu

namespace UdpRead

theorem skips_extensions {r : UdpRead} (extensions : List ExtensionHeader)
    (before after : Bytes)
    (h : r.datagramBytes = before ++ ExtensionHeader.nextType extensions ::
      (ExtensionHeader.encode extensions ++ after))
    (hafter : 23 <= after.length) :
    Skips r (before.length + 1)
      (before.length + 1 + (ExtensionHeader.encode extensions).length) := by
  induction extensions generalizing before with
  | nil => exact Skips.done (byte_of_datagramBytes h rfl)
  | cons e rest ih =>
      have hsize := e.size
      have htype : r.buf.byte before.length = e.type :=
        byte_of_datagramBytes h rfl
      have hshift : r.datagramBytes = (before ++ [e.type]) ++ e.units ::
          (e.content ++ ExtensionHeader.nextType rest ::
            (ExtensionHeader.encode rest ++ after)) := by
        rw [h]
        simp [ExtensionHeader.nextType, ExtensionHeader.encode]
      have hunits : r.buf.byte (before.length + 1) = e.units :=
        byte_of_datagramBytes hshift List.length_append
      have hnext : r.datagramBytes =
          (before ++ e.type :: e.units :: e.content) ++
            ExtensionHeader.nextType rest ::
              (ExtensionHeader.encode rest ++ after) := by
        rw [hshift]
        simp
      have hlength : (before ++ e.type :: e.units :: e.content).length + 1 =
          before.length + 1 + e.units.toNat * 4 := by
        simp only [List.length_append, List.length_cons]
        lia
      have htotal := r.datagramBytes_length
      rw [hnext] at htotal
      simp only [List.length_append, List.length_cons] at htotal
      have hrest := ih _ hnext
      rw [hlength] at hrest
      have hstop : before.length + 1 + e.units.toNat * 4 +
          (ExtensionHeader.encode rest).length =
            before.length + 1 + (ExtensionHeader.encode (e :: rest)).length := by
        simp only [ExtensionHeader.encode, List.length_append, List.length_cons]
        lia
      rw [hstop, ← hunits] at hrest
      apply Skips.skip _ _ hrest
      · rw [Nat.add_sub_cancel, htype]
        exact e.type_ne
      · rw [hunits]
        lia

theorem Skips.ends {r : UdpRead} {offset stop : Nat} (h : Skips r offset stop)
    (hvisits : r.Visits offset) : Fueled.Ends r.skipExtension offset := by
  induction h with
  | done hzero =>
      have hleave := r.skipExtension_eq hvisits.lt
      rw [roundAt, if_pos hzero] at hleave
      exact ⟨1, _, Fueled.loop_leave hleave 0⟩
  | skip hext hroom _ ih =>
      rw [Fueled.ends_again (skipExtension_again hvisits hext hroom)]
      exact ih (Visits.next hvisits hext hroom)

theorem UserPacketAt.not_circular {r : UdpRead} {offset : Nat}
    (h : r.UserPacketAt offset) : ¬ r.Circular := by
  intro hcircular
  have hpdcp := h.pdcpAt
  rw [PdcpAt, if_neg hcircular.extended] at hpdcp
  rcases hcircular.header with ⟨place, hvisits, hempty⟩
  exact r.loop_ends_iff.mp (hpdcp.ends Visits.first) place hvisits hempty

theorem check_mono {r : UdpRead} {fuel more : Nat} (hle : fuel <= more)
    (h : Fueled.Finished (r.check fuel)) : r.check more = r.check fuel := by
  rw [check_eq] at h
  rw [check_eq, check_eq]
  split
  · rfl
  · rename_i hlong
    rw [if_neg hlong] at h
    split
    · rfl
    · rename_i hgpdu
      rw [if_neg hgpdu, Fueled.finished_bind_iff r.finished_afterHeader] at h
      split
      · rfl
      · rename_i hextended
        rw [if_neg hextended] at h
        rcases h with ⟨out, hout⟩
        rw [hout, Fueled.loop_mono hle hout]

end UdpRead

/-- The datagram is this G-PDU, whatever lies after it in the buffer. -/
def UdpRead.Carries (r : UdpRead) (g : Gpdu) : Prop :=
  r.datagramBytes = g.encode

namespace Gpdu

def pdcpOffset (g : Gpdu) : Nat :=
  g.encodeHeader.length

theorem encodeHeader_eq (g : Gpdu) :
    g.encodeHeader = g.header.flags :: 255 ::
      (g.length.toList ++ g.teid.toList ++ g.header.optionalPart) :=
  rfl

theorem pdcpOffset_eq (g : Gpdu) :
    g.pdcpOffset = 8 + g.header.optionalPart.length := by
  simp only [pdcpOffset, encodeHeader_eq, List.length_cons, List.length_append,
    Vector.length_toList]
  lia

end Gpdu

namespace UdpRead

variable {r : UdpRead} {g : Gpdu} (h : r.Carries g)

include h

theorem Carries.headerByte {i : Nat} {x : UInt8} {after : Bytes}
    (before : Bytes) (hheader : g.encodeHeader = before ++ x :: after)
    (hlength : before.length = i) : r.buf.byte i = x := by
  have hbytes := h
  unfold Carries at hbytes
  rw [Gpdu.encode, hheader, List.append_assoc, List.cons_append] at hbytes
  exact byte_of_datagramBytes hbytes hlength

theorem Carries.pdcpAt : r.PdcpAt g.pdcpOffset := by
  have hflags : r.buf.byte 0 = g.header.flags :=
    h.headerByte [] g.encodeHeader_eq rfl
  unfold PdcpAt
  rw [hflags]
  cases hheader : g.header with
  | base =>
      show g.pdcpOffset = 8
      rw [g.pdcpOffset_eq, hheader]
      rfl
  | extended flags flags_ne optional extensions =>
      rw [GtpHeader.flags, if_neg flags_ne]
      have hbytes := h
      unfold Carries Gpdu.encode at hbytes
      have hchain := skips_extensions extensions
        ([flags, 255] ++ g.length.toList ++ g.teid.toList ++
          optional.toList)
        ([g.pdcp.1, g.pdcp.2, g.sdap] ++ g.packet)
        (by
          rw [hbytes, Gpdu.encodeHeader, hheader]
          simp [GtpHeader.flags, GtpHeader.optionalPart])
        (by
          have hwhole := g.whole
          simp only [Gpdu.packet, List.length_append, List.length_cons,
            List.length_nil]
          lia)
      have hstop : g.pdcpOffset =
          ([flags, 255] ++ g.length.toList ++ g.teid.toList ++
            optional.toList).length + 1 +
              (ExtensionHeader.encode extensions).length := by
        rw [Gpdu.pdcpOffset, Gpdu.encodeHeader, hheader]
        simp only [GtpHeader.flags, GtpHeader.optionalPart, List.length_append,
          List.length_cons]
        lia
      rw [hstop]
      simpa using hchain

theorem Carries.userPacketAt : r.UserPacketAt g.pdcpOffset := by
  have hbytes := h
  unfold Carries Gpdu.encode at hbytes
  have hwhole := g.whole
  constructor
  · have hoffset := g.pdcpOffset_eq
    unfold Gpdu.pdcpOffset at hoffset
    rw [← r.datagramBytes_length, hbytes]
    simp only [Gpdu.packet, List.length_append, List.length_cons,
      List.length_nil]
    lia
  · exact h.headerByte [_] g.encodeHeader_eq rfl
  · exact h.pdcpAt
  · have hpdcp : r.buf.byte g.pdcpOffset = g.pdcp.1 :=
      byte_of_datagramBytes hbytes rfl
    rw [hpdcp]
    exact g.pdcp_data
  · have hsdap : r.buf.byte (g.pdcpOffset + 2) = g.sdap := by
      have hshift : r.datagramBytes =
          (g.encodeHeader ++ [g.pdcp.1, g.pdcp.2]) ++ g.sdap :: g.packet := by
        rw [hbytes]
        simp
      exact byte_of_datagramBytes hshift List.length_append
    rw [hsdap]
    exact g.sdap_data
  · have hversion : r.buf.byte (g.pdcpOffset + 3) = g.version := by
      have hshift : r.datagramBytes =
          (g.encodeHeader ++ [g.pdcp.1, g.pdcp.2, g.sdap]) ++
            g.version :: g.rest := by
        rw [hbytes]
        simp [Gpdu.packet]
      exact byte_of_datagramBytes hshift List.length_append
    rw [hversion]
    exact g.ipv4

theorem Carries.innerPacket : r.innerPacket g.pdcpOffset = g.packet := by
  apply innerPacket_of_datagramBytes
    (g.encodeHeader ++ [g.pdcp.1, g.pdcp.2, g.sdap])
  · rw [h, Gpdu.encode]
    simp
  · rw [List.length_append]
    rfl

theorem Carries.gtpTeid : r.gtpTeid = g.teid.toList := by
  have hlong : 8 <= r.bytesRead := Nat.le_trans (by lia) h.userPacketAt.long
  have htake : r.buf.bytes.take 8 = r.datagramBytes.take 8 := by
    unfold datagramBytes
    rw [List.take_take, Nat.min_eq_left hlong]
  unfold UdpRead.gtpTeid
  rw [htake, h, Gpdu.encode, Gpdu.encodeHeader]
  simp [List.take_append]

end UdpRead

namespace Uplink

theorem handle_mono {env : UplinkEnv} {fuel more : Nat} {r : UdpRead}
    {u : Uplink} {result : Outcome UplinkError Unit × Uplink}
    (hle : fuel <= more)
    (h : handleNextUplinkPacket env fuel (some r) u = some result) :
    handleNextUplinkPacket env more (some r) u = some result := by
  have hfinished := (handle_some_iff env fuel r u).mp ⟨result, h⟩
  rw [handleNextUplinkPacket, UdpRead.check_mono hle hfinished]
  rw [handleNextUplinkPacket] at h
  exact h

theorem effect_of_rule {env : UplinkEnv} {u u' : Uplink} {r : UdpRead}
    {out : Outcome UplinkError Unit} {offset : Nat}
    {entry : UplinkForwardingRule} (h : DatagramEffect env u r out u')
    (hpacket : r.UserPacketAt offset) (hrule : u.HasRule r entry) :
    (out, u') = writeTun env (r.innerPacket offset) (u.received r) := by
  have hsame : forall offset', r.UserPacketAt offset' -> offset' = offset :=
    fun _ hpacket' => UdpRead.pdcpAt_unique hpacket'.pdcpAt hpacket.pdcpAt
  cases h with
  | dropped _ hno => exact absurd hpacket (hno offset)
  | beyondTable _ hbeyond =>
      exact absurd (SlotTable.lt_of_lookup hrule.left) hbeyond
  | noRule _ _ hnone =>
      rw [hrule.left] at hnone
      cases hnone
  | otherTeid _ hslot hother =>
      rw [hrule.left] at hslot
      cases hslot
      exact absurd hrule.right hother
  | notWritten hpacket' _ hwrite =>
      rw [hsame _ hpacket'] at hwrite
      simp [writeTun, hwrite, Cmd.bail]
  | notFlushed hpacket' _ hwrite hflush =>
      rw [hsame _ hpacket'] at hwrite hflush ⊢
      simp [writeTun, hwrite, hflush, Cmd.bind_run, Outcome.ensure, received]
  | written hpacket' _ hwrite hflush =>
      rw [hsame _ hpacket'] at hwrite hflush ⊢
      simp [writeTun, hwrite, hflush, Cmd.bind_run, Outcome.ensure, received]

/-- For every G-PDU with any legal header chain and a TEID in the table, the
handler returns after finitely many rounds, and it has written the IPv4 packet
byte for byte. -/
theorem handle_decapsulates (g : Gpdu) (r : UdpRead) (h : r.Carries g)
    (u : Uplink)
    (hrule : u.table.lookup (uplinkTableIndexFromGtpTeid g.teid) =
      some ⟨g.teid⟩) (env : UplinkEnv) :
    exists rounds, forall fuel, rounds <= fuel ->
      handleNextUplinkPacket env fuel (some r) u =
        some (writeTun env g.packet (u.received r)) := by
  have hpacket := h.userPacketAt
  have hknown : u.HasRule r ⟨g.teid⟩ := by
    constructor
    · rw [index_of_gtpTeid h.gtpTeid]
      exact hrule
    · exact h.gtpTeid
  rcases r.check_ends_iff.mpr hpacket.not_circular with ⟨rounds, hfinished⟩
  rcases (handle_some_iff env rounds r u).mpr hfinished with
    ⟨⟨out, u'⟩, hresult⟩
  refine ⟨rounds, ?_⟩
  intro fuel hle
  rw [handle_mono hle hresult,
    effect_of_rule (handle_effect hresult) hpacket hknown, h.innerPacket]

def chainedGpdu : Gpdu where
  header := GtpHeader.extended 0x34 (by decide) (Vector.replicate 3 0)
    [⟨0x85, 1, [0, 0], by decide, rfl⟩,
      ⟨0x84, 2, [1, 0, 0, 0, 0, 0], by decide, rfl⟩]
  length := #v[0, 39]
  teid := #v[0, 0, 0, 1]
  pdcp := (0x80, 7)
  sdap := 0x81
  version := 0x45
  rest := List.replicate 19 0
  pdcp_data := by decide
  sdap_data := by decide
  ipv4 := by decide
  whole := by decide

def chainedRead : UdpRead :=
  datagram chainedGpdu.encode (by decide)

theorem handle_decapsulates_chained :
    chainedRead.Carries chainedGpdu ∧
      exists rounds, forall fuel, rounds <= fuel ->
        handleNextUplinkPacket openTun fuel (some chainedRead) knownUplink =
          some (Outcome.ok (),
            { knownUplink.received chainedRead with
              written := [0x45 :: List.replicate 19 0] }) := by
  have hcarries : chainedRead.Carries chainedGpdu := List.take_left
  exact ⟨hcarries,
    handle_decapsulates chainedGpdu chainedRead hcarries knownUplink rfl
      openTun⟩

end Uplink
end Userplane
end QCore
