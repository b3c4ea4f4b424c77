import QCore.Foundation.Buffer
import QCore.Foundation.Loop
import QCore.Userplane.DownlinkPipeline

/-!
# The uplink pipeline

`handle_next_uplink_packet` receives one datagram in a buffer of 2000 bytes,
skips the GTP-U header with its extensions, the PDCP and the SDAP header, finds
the rule for the TEID and writes the inner packet to the tun device.

The checks on the buffer come first and the table is read after all of them.
The loop over the extension headers need not end, so it is given a number of
rounds.
-/

namespace QCore
namespace Userplane

open Foundation

def sdapHeaderLen : Nat := 1

inductive UplinkError where
  | socketRecv
  | tunWrite
  | tunFlush
deriving DecidableEq, Repr

inductive UplinkDrop where
  | tooShort
  | gtpMessageType
  | tooShortExt
  | pdcpControl
  | sdapControl
  | notIpv4
  | unknownTeid1
  | unknownTeid2
deriving DecidableEq, Repr

structure UplinkCounters where
  rxPkts : RelaxedCounter
  rxBytes : RelaxedCounter
  dropTooShort : RelaxedCounter
  dropGtpMessageType : RelaxedCounter
  dropTooShortExt : RelaxedCounter
  dropPdcpControl : RelaxedCounter
  dropSdapControl : RelaxedCounter
  dropNotIpv4 : RelaxedCounter
  dropUnknownTeid1 : RelaxedCounter
  dropUnknownTeid2 : RelaxedCounter
deriving DecidableEq, Repr

def UplinkCounters.drop (c : UplinkCounters) : UplinkDrop -> UplinkCounters
  | UplinkDrop.tooShort => { c with dropTooShort := c.dropTooShort + 1 }
  | UplinkDrop.gtpMessageType =>
      { c with dropGtpMessageType := c.dropGtpMessageType + 1 }
  | UplinkDrop.tooShortExt =>
      { c with dropTooShortExt := c.dropTooShortExt + 1 }
  | UplinkDrop.pdcpControl =>
      { c with dropPdcpControl := c.dropPdcpControl + 1 }
  | UplinkDrop.sdapControl =>
      { c with dropSdapControl := c.dropSdapControl + 1 }
  | UplinkDrop.notIpv4 => { c with dropNotIpv4 := c.dropNotIpv4 + 1 }
  | UplinkDrop.unknownTeid1 =>
      { c with dropUnknownTeid1 := c.dropUnknownTeid1 + 1 }
  | UplinkDrop.unknownTeid2 =>
      { c with dropUnknownTeid2 := c.dropUnknownTeid2 + 1 }

structure Uplink where
  table : UplinkForwardingTable
  counters : UplinkCounters
  /-- The packets written to the tun device. -/
  written : List Bytes
deriving DecidableEq

/-- Which packets the tun device takes, and after which ones it can be
flushed. -/
structure UplinkEnv where
  canWrite : Bytes -> Bool
  canFlush : Bytes -> Bool

/-- The buffer after a datagram was received; the bytes beyond it are left from
earlier ones. -/
structure UdpRead where
  buf : Buffer 2000
  bytesRead : Nat
  fits : bytesRead <= 2000

inductive Verdict where
  | dropped (reason : UplinkDrop)
  | inner (gtpTeid : Bytes) (offset : Nat)
deriving DecidableEq, Repr

/-!
## The checks on the buffer
-/

namespace UdpRead

/-- One round of the loop over the extension headers.  It leaves with the offset
of the PDCP header, or with none when the datagram is too short. -/
def skipExtension (r : UdpRead) (offset : Nat) :
    Outcome UplinkError (Round Nat (Option Nat)) := do
  let nextType <- r.buf.read (offset - 1)
  if nextType = 0 then
    pure (Round.leave (some offset))
  else do
    let length <- r.buf.read offset
    let offset := offset + length.toNat * 4
    if r.bytesRead < offset + pdcpHeaderLen + sdapHeaderLen + ipv4HeaderLen then
      pure (Round.leave none)
    else
      pure (Round.again offset)

def pdcpOffset (fuel : Nat) (r : UdpRead) :
    Fueled UplinkError (Option Nat) := do
  let flags <- Fueled.lift (r.buf.read 0)
  if flags = 0x30 then
    pure (some gtpBaseHeaderLen)
  else
    Fueled.loop r.skipExtension fuel gtpExtendedHeaderLen

def checkInner (r : UdpRead) (offset : Nat) : Outcome UplinkError Verdict := do
  let gtpTeid <- r.buf.slice 4 8
  let pdcp <- r.buf.read offset
  if pdcp &&& 0x80 = 0 then
    pure (Verdict.dropped UplinkDrop.pdcpControl)
  else do
    let sdap <- r.buf.read (offset + 2)
    if sdap &&& 0x80 = 0 then
      pure (Verdict.dropped UplinkDrop.sdapControl)
    else do
      let ip <- r.buf.read (offset + 2 + 1)
      if ip &&& 0xf0 ≠ 0x40 then
        pure (Verdict.dropped UplinkDrop.notIpv4)
      else
        pure (Verdict.inner gtpTeid (offset + 2 + 1))

def check (fuel : Nat) (r : UdpRead) : Fueled UplinkError Verdict :=
  if r.bytesRead <
      gtpBaseHeaderLen + pdcpHeaderLen + sdapHeaderLen + ipv4HeaderLen then
    pure (Verdict.dropped UplinkDrop.tooShort)
  else do
    let messageType <- Fueled.lift (r.buf.read 1)
    if messageType ≠ gtpMessageTypeGpdu then
      pure (Verdict.dropped UplinkDrop.gtpMessageType)
    else do
      let offset <- pdcpOffset fuel r
      match offset with
      | none => pure (Verdict.dropped UplinkDrop.tooShortExt)
      | some offset => Fueled.lift (checkInner r offset)

end UdpRead

/-!
## The handler
-/

/-- `uplink_table_index_from_gtp_teid` on a slice. -/
def uplinkTableIndexIn (teid : Bytes) : Outcome UplinkError Nat :=
  match teid[3]? with
  | some last => Outcome.ok last.toNat
  | none => Outcome.panic

namespace Uplink

def addCounters (f : UplinkCounters -> UplinkCounters) :
    Cmd Uplink UplinkError Unit :=
  Cmd.modify fun u => { u with counters := f u.counters }

def drop (reason : UplinkDrop) : Cmd Uplink UplinkError Unit :=
  addCounters fun c => c.drop reason

/-- Write and flush; a packet has been written also when the flush fails. -/
def writeTun (env : UplinkEnv) (packet : Bytes) : Cmd Uplink UplinkError Unit :=
  if env.canWrite packet then do
    Cmd.modify fun u => { u with written := u.written ++ [packet] }
    Cmd.lift (Outcome.ensure (env.canFlush packet) UplinkError.tunFlush)
  else
    Cmd.bail UplinkError.tunWrite

def lookupAndWrite (env : UplinkEnv) (r : UdpRead) (gtpTeid : Bytes)
    (offset : Nat) : Cmd Uplink UplinkError Unit := do
  let idx <- Cmd.lift (uplinkTableIndexIn gtpTeid)
  let u <- Cmd.get
  let slot <- Cmd.lift (u.table.read idx)
  match slot with
  | none => drop UplinkDrop.unknownTeid1
  | some entry =>
      if gtpTeid ≠ entry.localTeid.toList then
        drop UplinkDrop.unknownTeid2
      else do
        let innerIpPacket <- Cmd.lift (r.buf.slice offset r.bytesRead)
        writeTun env innerIpPacket

def finish (env : UplinkEnv) (r : UdpRead) :
    Verdict -> Cmd Uplink UplinkError Unit
  | Verdict.dropped reason => drop reason
  | Verdict.inner gtpTeid offset => lookupAndWrite env r gtpTeid offset

def countReceived (r : UdpRead) (c : UplinkCounters) : UplinkCounters :=
  { c with
    rxPkts := c.rxPkts + 1
    rxBytes := c.rxBytes + UInt64.ofNat r.bytesRead }

/-- `handle_next_uplink_packet`; the datagram is `none` for a failed receive,
and the result is `none` while the loop has not ended. -/
def handleNextUplinkPacket (env : UplinkEnv) (fuel : Nat) :
    Option UdpRead -> Uplink -> Option (Outcome UplinkError Unit × Uplink)
  | none, u => some (Outcome.err UplinkError.socketRecv, u)
  | some r, u =>
      match r.check fuel with
      | none => none
      | some verdict =>
          some ((do
            addCounters (countReceived r)
            let verdict <- Cmd.lift verdict
            finish env r verdict : Cmd Uplink UplinkError Unit) u)

end Uplink

/-!
## The datagrams that pass the checks

A user packet in a datagram is described by its bytes alone, without the order
of the checks.
-/

namespace UdpRead

inductive Skips (r : UdpRead) : Nat -> Nat -> Prop where
  | done {offset : Nat} :
      r.buf.byte (offset - 1) = 0 -> Skips r offset offset
  | skip {offset stop : Nat} :
      r.buf.byte (offset - 1) ≠ 0 ->
      offset + (r.buf.byte offset).toNat * 4 + 23 <= r.bytesRead ->
      Skips r (offset + (r.buf.byte offset).toNat * 4) stop ->
      Skips r offset stop

def PdcpAt (r : UdpRead) (offset : Nat) : Prop :=
  if r.buf.byte 0 = 0x30 then offset = 8 else Skips r 12 offset

/-- A user packet: a G-PDU with an IPv4 packet in data PDUs of PDCP and SDAP. -/
structure UserPacketAt (r : UdpRead) (offset : Nat) : Prop where
  long : 31 <= r.bytesRead
  gpdu : r.buf.byte 1 = 255
  pdcpAt : r.PdcpAt offset
  pdcpData : r.buf.byte offset &&& 0x80 ≠ 0
  sdapData : r.buf.byte (offset + 2) &&& 0x80 ≠ 0
  ipv4 : r.buf.byte (offset + 3) &&& 0xf0 = 0x40

theorem skips_of_zero {r : UdpRead} {offset stop : Nat}
    (h : r.buf.byte (offset - 1) = 0) :
    Skips r offset stop <-> stop = offset := by
  constructor
  · intro hskips
    cases hskips with
    | done _ => rfl
    | skip hne _ _ => exact absurd h hne
  · intro hstop
    rw [hstop]
    exact Skips.done h

theorem skips_of_extension {r : UdpRead} {offset stop : Nat}
    (h : r.buf.byte (offset - 1) ≠ 0) :
    Skips r offset stop <->
      offset + (r.buf.byte offset).toNat * 4 + 23 <= r.bytesRead ∧
        Skips r (offset + (r.buf.byte offset).toNat * 4) stop := by
  constructor
  · intro hskips
    cases hskips with
    | done hzero => exact absurd hzero h
    | skip _ hlong hrest => exact ⟨hlong, hrest⟩
  · intro hskip
    exact Skips.skip h hskip.left hskip.right

theorem Skips.room {r : UdpRead} {offset stop : Nat}
    (h : Skips r offset stop) :
    stop = offset ∨ stop + 23 <= r.bytesRead := by
  induction h with
  | done _ => exact Or.inl rfl
  | skip _ hroom _ ih =>
      rcases ih with heq | hle
      · rw [heq]
        exact Or.inr hroom
      · exact Or.inr hle

theorem pdcpAt_cases {r : UdpRead} {offset : Nat} (h : r.PdcpAt offset) :
    (r.buf.byte 0 = 0x30 ∧ offset = 8) ∨
      (r.buf.byte 0 ≠ 0x30 ∧ r.buf.byte 11 = 0 ∧ offset = 12) ∨
      (r.buf.byte 0 ≠ 0x30 ∧ r.buf.byte 11 ≠ 0 ∧
        offset + 23 <= r.bytesRead) := by
  unfold PdcpAt at h
  split at h
  · rename_i hbase
    exact Or.inl ⟨hbase, h⟩
  · rename_i hextended
    cases h with
    | done hzero => exact Or.inr (Or.inl ⟨hextended, hzero, rfl⟩)
    | skip hext hroom hrest =>
        have hle : offset + 23 <= r.bytesRead := by
          rcases hrest.room with heq | hle
          · rw [heq]
            exact hroom
          · exact hle
        exact Or.inr (Or.inr ⟨hextended, hext, hle⟩)

theorem Skips.unique {r : UdpRead} {offset stop stop' : Nat}
    (h : Skips r offset stop) (h' : Skips r offset stop') : stop = stop' := by
  induction h with
  | done hzero => exact ((skips_of_zero hzero).mp h').symm
  | skip hext _ _ ih => exact ih ((skips_of_extension hext).mp h').right

theorem pdcpAt_unique {r : UdpRead} {offset offset' : Nat}
    (h : r.PdcpAt offset) (h' : r.PdcpAt offset') : offset = offset' := by
  unfold PdcpAt at h h'
  split at h
  · rename_i hbase
    rw [if_pos hbase] at h'
    exact h.trans h'.symm
  · rename_i hextended
    rw [if_neg hextended] at h'
    exact h.unique h'

def Within (r : UdpRead) (offset : Nat) : Prop :=
  offset + 3 <= r.bytesRead ∧ offset + 3 < 2000

theorem within_of_le {r : UdpRead} {offset : Nat}
    (h : offset + 23 <= r.bytesRead) : r.Within offset := by
  have hfits := r.fits
  unfold Within
  lia

def EndsAt (r : UdpRead) (P : Nat -> Prop) (result : Option Nat) : Prop :=
  (forall stop, P stop <-> result = some stop) ∧
    forall stop, result = some stop -> r.Within stop

def roundAt (r : UdpRead) (offset : Nat) : Round Nat (Option Nat) :=
  if r.buf.byte (offset - 1) = 0 then
    Round.leave (some offset)
  else if r.bytesRead < offset + (r.buf.byte offset).toNat * 4 + 23 then
    Round.leave none
  else
    Round.again (offset + (r.buf.byte offset).toNat * 4)

theorem skipExtension_eq (r : UdpRead) {offset : Nat} (h : offset < 2000) :
    r.skipExtension offset = Outcome.ok (r.roundAt offset) := by
  unfold skipExtension roundAt
  rw [r.buf.read_of_lt (Nat.lt_of_le_of_lt (Nat.sub_le _ _) h),
    r.buf.read_of_lt h]
  cases decEq (r.buf.byte (offset - 1)) 0 with
  | isTrue hzero => simp [hzero]
  | isFalse hext =>
      cases Nat.decLt r.bytesRead
          (offset + (r.buf.byte offset).toNat * 4 + 23) with
      | isTrue hshort =>
          simp only [Outcome.ok_bind, Outcome.pure_eq, if_neg hext]
          rw [if_pos hshort]
          exact if_pos hshort
      | isFalse hlong =>
          simp only [Outcome.ok_bind, Outcome.pure_eq, if_neg hext]
          rw [if_neg hlong]
          exact if_neg hlong

theorem roundAt_again {r : UdpRead} {offset offset' : Nat}
    (h : r.roundAt offset = Round.again offset') :
    r.buf.byte (offset - 1) ≠ 0 ∧
      offset' = offset + (r.buf.byte offset).toNat * 4 ∧
      offset' + 23 <= r.bytesRead := by
  unfold roundAt at h
  split at h
  · cases h
  · split at h
    · cases h
    · rename_i hext hlong
      cases h
      exact ⟨hext, rfl, Nat.le_of_not_lt hlong⟩

theorem skipExtension_meets (r : UdpRead) (offset : Nat)
    (h : r.Within offset ∧
      forall stop, Skips r 12 stop <-> Skips r offset stop) :
    exists round, r.skipExtension offset = Outcome.ok round ∧
      Fueled.RoundMeets
        (fun offset => r.Within offset ∧
          forall stop, Skips r 12 stop <-> Skips r offset stop)
        (r.EndsAt (Skips r 12)) round := by
  rcases h with ⟨hwithin, hsame⟩
  have hbound : offset < 2000 :=
    Nat.lt_of_le_of_lt (Nat.le_add_right _ 3) hwithin.right
  refine ⟨_, r.skipExtension_eq hbound, ?_⟩
  unfold roundAt
  cases decEq (r.buf.byte (offset - 1)) 0 with
  | isTrue hzero =>
      rw [if_pos hzero]
      constructor
      · intro stop
        rw [hsame, skips_of_zero hzero, Option.some.injEq]
        exact eq_comm
      · intro stop hstop
        cases hstop
        exact hwithin
  | isFalse hext =>
      rw [if_neg hext]
      cases Nat.decLt r.bytesRead
          (offset + (r.buf.byte offset).toNat * 4 + 23) with
      | isTrue hshort =>
          rw [if_pos hshort]
          constructor
          · intro stop
            rw [hsame, skips_of_extension hext]
            constructor
            · exact fun hskip => absurd hskip.left (Nat.not_le_of_lt hshort)
            · intro hnone
              cases hnone
          · intro stop hnone
            cases hnone
      | isFalse hlong =>
          have hle := Nat.le_of_not_lt hlong
          rw [if_neg hlong]
          refine ⟨within_of_le hle, ?_⟩
          intro stop
          rw [hsame, skips_of_extension hext]
          exact ⟨And.right, fun hrest => ⟨hle, hrest⟩⟩

theorem pdcpOffset_returns (fuel : Nat) (r : UdpRead)
    (h : 31 <= r.bytesRead) :
    Fueled.Returns (r.pdcpOffset fuel) (r.EndsAt r.PdcpAt) := by
  apply Fueled.returns_bind (Q := fun flags => flags = r.buf.byte 0)
  · exact Fueled.returns_lift (r.buf.read_of_lt (by decide)) rfl
  · intro flags hflags
    have hfits := r.fits
    rw [hflags]
    unfold PdcpAt
    cases decEq (r.buf.byte 0) 0x30 with
    | isTrue hbase =>
        simp only [if_pos hbase]
        apply Fueled.returns_pure
        constructor
        · intro stop
          rw [Option.some.injEq]
          exact eq_comm
        · intro stop hstop
          cases hstop
          unfold Within gtpBaseHeaderLen
          lia
    | isFalse hextended =>
        simp only [if_neg hextended]
        apply Fueled.returns_loop r.skipExtension_meets
        constructor
        · unfold Within gtpExtendedHeaderLen
          lia
        · exact fun _ => Iff.rfl

def Judges (r : UdpRead) : Verdict -> Prop
  | Verdict.dropped _ => forall offset, ¬ r.UserPacketAt offset
  | Verdict.inner gtpTeid start =>
      gtpTeid = (r.buf.bytes.take 8).drop 4 ∧ start <= r.bytesRead ∧
        exists offset, start = offset + 3 ∧ r.UserPacketAt offset

theorem checkInner_judges (r : UdpRead) {offset : Nat}
    (hlong : 31 <= r.bytesRead) (hgpdu : r.buf.byte 1 = 255)
    (hends : r.EndsAt r.PdcpAt (some offset)) :
    exists verdict, r.checkInner offset = Outcome.ok verdict ∧
      r.Judges verdict := by
  have hat : forall stop, r.UserPacketAt stop -> stop = offset := by
    intro stop hpacket
    exact (Option.some.inj ((hends.left stop).mp hpacket.pdcpAt)).symm
  rcases hends.right offset rfl with ⟨hread, hbound⟩
  unfold checkInner
  rw [r.buf.slice_of_le (by decide) (by decide), r.buf.read_of_lt (by lia),
    r.buf.read_of_lt (by lia), r.buf.read_of_lt hbound]
  simp only [Outcome.ok_bind, Outcome.pure_eq]
  cases decEq (r.buf.byte offset &&& 0x80) 0 with
  | isTrue hpdcp =>
      refine ⟨_, if_pos hpdcp, ?_⟩
      intro stop hpacket
      rw [hat stop hpacket] at hpacket
      exact hpacket.pdcpData hpdcp
  | isFalse hpdcp =>
      rw [if_neg hpdcp]
      cases decEq (r.buf.byte (offset + 2) &&& 0x80) 0 with
      | isTrue hsdap =>
          refine ⟨_, if_pos hsdap, ?_⟩
          intro stop hpacket
          rw [hat stop hpacket] at hpacket
          exact hpacket.sdapData hsdap
      | isFalse hsdap =>
          rw [if_neg hsdap]
          cases decEq (r.buf.byte (offset + 3) &&& 0xf0) 0x40 with
          | isFalse hip =>
              refine ⟨_, if_pos hip, ?_⟩
              intro stop hpacket
              rw [hat stop hpacket] at hpacket
              exact hip hpacket.ipv4
          | isTrue hip =>
              refine ⟨_, if_neg (not_not_intro hip), rfl, hread, offset, rfl,
                ?_⟩
              exact ⟨hlong, hgpdu, (hends.left offset).mpr rfl, hpdcp, hsdap,
                hip⟩

theorem check_returns (fuel : Nat) (r : UdpRead) :
    Fueled.Returns (r.check fuel) r.Judges := by
  unfold check
  show Fueled.Returns (if r.bytesRead < 31 then _ else _) _
  cases Nat.decLt r.bytesRead 31 with
  | isTrue hshort =>
      rw [if_pos hshort]
      apply Fueled.returns_pure
      intro offset hpacket
      exact absurd hpacket.long (Nat.not_le_of_lt hshort)
  | isFalse hlong =>
      have hle := Nat.le_of_not_lt hlong
      rw [if_neg hlong]
      apply Fueled.returns_bind (Q := fun type => type = r.buf.byte 1)
      · exact Fueled.returns_lift (r.buf.read_of_lt (by decide)) rfl
      · intro messageType htype
        rw [htype]
        cases decEq (r.buf.byte 1) gtpMessageTypeGpdu with
        | isFalse hother =>
            rw [if_pos hother]
            apply Fueled.returns_pure
            intro offset hpacket
            exact hother hpacket.gpdu
        | isTrue hgpdu =>
            rw [if_neg (not_not_intro hgpdu)]
            apply Fueled.returns_bind (pdcpOffset_returns fuel r hle)
            intro result hends
            cases result with
            | none =>
                apply Fueled.returns_pure
                intro offset hpacket
                cases (hends.left offset).mp hpacket.pdcpAt
            | some offset =>
                rcases checkInner_judges r hle hgpdu hends with
                  ⟨verdict, hcheck, hjudges⟩
                exact Fueled.returns_lift hcheck hjudges

end UdpRead

/-!
## The effect of one datagram

`DatagramEffect` lists every way a call can end, with the counters and the
packets it leaves.
-/

/-- `&buf[4..8]` -/
def UdpRead.gtpTeid (r : UdpRead) : Bytes :=
  (r.buf.bytes.take 8).drop 4

/-- `&buf[offset..bytes_read]` after the PDCP and the SDAP header. -/
def UdpRead.innerPacket (r : UdpRead) (offset : Nat) : Bytes :=
  (r.buf.bytes.take r.bytesRead).drop (offset + 3)

namespace Uplink

def received (u : Uplink) (r : UdpRead) : Uplink :=
  { u with counters := countReceived r u.counters }

def dropped (u : Uplink) (r : UdpRead) (reason : UplinkDrop) : Uplink :=
  { u with counters := (countReceived r u.counters).drop reason }

def HasRule (u : Uplink) (r : UdpRead) (entry : UplinkForwardingRule) : Prop :=
  u.table.lookup (r.buf.byte 7).toNat = some entry ∧
    r.gtpTeid = entry.localTeid.toList

inductive DatagramEffect (env : UplinkEnv) (u : Uplink) (r : UdpRead) :
    Outcome UplinkError Unit -> Uplink -> Prop where
  | dropped (reason : UplinkDrop) :
      (forall offset, ¬ r.UserPacketAt offset) ->
      DatagramEffect env u r (Outcome.ok ()) (u.dropped r reason)
  | beyondTable {offset : Nat} :
      r.UserPacketAt offset -> ¬ (r.buf.byte 7).toNat < maxUes ->
      DatagramEffect env u r Outcome.panic (u.received r)
  | noRule {offset : Nat} :
      r.UserPacketAt offset -> (r.buf.byte 7).toNat < maxUes ->
      u.table.lookup (r.buf.byte 7).toNat = none ->
      DatagramEffect env u r (Outcome.ok ())
        (u.dropped r UplinkDrop.unknownTeid1)
  | otherTeid {offset : Nat} {entry : UplinkForwardingRule} :
      r.UserPacketAt offset ->
      u.table.lookup (r.buf.byte 7).toNat = some entry ->
      r.gtpTeid ≠ entry.localTeid.toList ->
      DatagramEffect env u r (Outcome.ok ())
        (u.dropped r UplinkDrop.unknownTeid2)
  | notWritten {offset : Nat} {entry : UplinkForwardingRule} :
      r.UserPacketAt offset -> u.HasRule r entry ->
      env.canWrite (r.innerPacket offset) = false ->
      DatagramEffect env u r (Outcome.err UplinkError.tunWrite) (u.received r)
  | notFlushed {offset : Nat} {entry : UplinkForwardingRule} :
      r.UserPacketAt offset -> u.HasRule r entry ->
      env.canWrite (r.innerPacket offset) = true ->
      env.canFlush (r.innerPacket offset) = false ->
      DatagramEffect env u r (Outcome.err UplinkError.tunFlush)
        { u.received r with written := u.written ++ [r.innerPacket offset] }
  | written {offset : Nat} {entry : UplinkForwardingRule} :
      r.UserPacketAt offset -> u.HasRule r entry ->
      env.canWrite (r.innerPacket offset) = true ->
      env.canFlush (r.innerPacket offset) = true ->
      DatagramEffect env u r (Outcome.ok ())
        { u.received r with written := u.written ++ [r.innerPacket offset] }

theorem uplinkTableIndexIn_teid (r : UdpRead) :
    uplinkTableIndexIn r.gtpTeid = Outcome.ok (r.buf.byte 7).toNat := by
  unfold uplinkTableIndexIn UdpRead.gtpTeid
  rw [List.getElem?_drop, List.getElem?_take_of_lt (by decide),
    r.buf.getElem?_of_lt (by decide)]

theorem index_of_gtpTeid {r : UdpRead} {teid : Vector UInt8 4}
    (h : r.gtpTeid = teid.toList) :
    (r.buf.byte 7).toNat = uplinkTableIndexFromGtpTeid teid := by
  have hindex := uplinkTableIndexIn_teid r
  rw [h] at hindex
  have hthird : teid.toList[3]? = some teid[3] := by
    simp
  unfold uplinkTableIndexIn at hindex
  rw [hthird] at hindex
  exact (Outcome.ok.inj hindex).symm

theorem writeTun_effect (env : UplinkEnv) {u : Uplink} {r : UdpRead}
    {offset : Nat} {entry : UplinkForwardingRule}
    (hpacket : r.UserPacketAt offset) (hrule : u.HasRule r entry) :
    let result := writeTun env (r.innerPacket offset) (u.received r)
    DatagramEffect env u r result.1 result.2 := by
  simp only [writeTun]
  cases hwrite : env.canWrite (r.innerPacket offset) with
  | false => exact DatagramEffect.notWritten hpacket hrule hwrite
  | true =>
      simp only [↓reduceIte, Cmd.bind_run, Cmd.modify_run, Cmd.lift_run]
      cases hflush : env.canFlush (r.innerPacket offset) with
      | false => exact DatagramEffect.notFlushed hpacket hrule hwrite hflush
      | true => exact DatagramEffect.written hpacket hrule hwrite hflush

theorem lookupAndWrite_effect (env : UplinkEnv) (u : Uplink) {r : UdpRead}
    {offset : Nat} (hpacket : r.UserPacketAt offset)
    (hwithin : offset + 3 <= r.bytesRead) :
    let result := lookupAndWrite env r r.gtpTeid (offset + 3) (u.received r)
    DatagramEffect env u r result.1 result.2 := by
  simp only [lookupAndWrite, Cmd.bind_run, Cmd.lift_run, Cmd.get_run,
    uplinkTableIndexIn_teid]
  cases Nat.decLt (r.buf.byte 7).toNat maxUes with
  | isFalse hbeyond =>
      rw [SlotTable.read_of_not_lt _ hbeyond]
      exact DatagramEffect.beyondTable hpacket hbeyond
  | isTrue hlt =>
      rw [SlotTable.read_of_lt _ hlt]
      cases hslot : u.table.lookup (r.buf.byte 7).toNat with
      | none =>
          simp only [received, hslot]
          exact DatagramEffect.noRule hpacket hlt hslot
      | some entry =>
          simp only [received, hslot]
          cases decEq r.gtpTeid entry.localTeid.toList with
          | isFalse hother =>
              rw [if_pos hother]
              exact DatagramEffect.otherTeid hpacket hslot hother
          | isTrue hsame =>
              rw [if_neg (not_not_intro hsame)]
              simp only [Cmd.bind_run, Cmd.lift_run,
                r.buf.slice_of_le hwithin r.fits]
              exact writeTun_effect env hpacket ⟨hslot, hsame⟩

theorem handle_effect {env : UplinkEnv} {fuel : Nat} {r : UdpRead}
    {u u' : Uplink} {out : Outcome UplinkError Unit}
    (h : handleNextUplinkPacket env fuel (some r) u = some (out, u')) :
    DatagramEffect env u r out u' := by
  cases hcheck : r.check fuel with
  | none =>
      rw [handleNextUplinkPacket, hcheck] at h
      cases h
  | some result =>
      rcases r.check_returns fuel result hcheck with ⟨verdict, hok, hjudges⟩
      rw [handleNextUplinkPacket, hcheck, hok] at h
      simp only [addCounters, Cmd.bind_run, Cmd.modify_run, Cmd.lift_run,
        Option.some.injEq] at h
      cases verdict with
      | dropped reason =>
          cases h
          exact DatagramEffect.dropped reason hjudges
      | inner gtpTeid start =>
          rcases hjudges with ⟨hteid, hstart, offset, hoffset, hpacket⟩
          rw [hoffset] at hstart
          have heffect := lookupAndWrite_effect env u hpacket hstart
          have hresult : lookupAndWrite env r r.gtpTeid (offset + 3)
              (u.received r) = (out, u') := by
            rw [← hoffset, UdpRead.gtpTeid, ← hteid]
            exact h
          rw [hresult] at heffect
          exact heffect

/-!
## When the handler panics
-/

/-- For every datagram, every residue in the buffer and every table: if the loop
ends, the handler returns unless the datagram holds a user packet for a TEID
whose last octet lies beyond the table. -/
theorem handleNextUplinkPacket_ne_panic_iff (env : UplinkEnv) (fuel : Nat)
    (r : UdpRead) (u u' : Uplink) (out : Outcome UplinkError Unit)
    (hends : handleNextUplinkPacket env fuel (some r) u = some (out, u')) :
    out ≠ Outcome.panic <->
      (r.buf.byte 7).toNat < maxUes ∨
        forall offset, ¬ r.UserPacketAt offset := by
  cases handle_effect hends with
  | dropped reason hno =>
      exact ⟨fun _ => Or.inr hno, fun _ => Outcome.ok_ne_panic⟩
  | beyondTable hpacket hbeyond =>
      constructor
      · exact fun hne => absurd rfl hne
      · intro h
        rcases h with hlt | hno
        · exact absurd hlt hbeyond
        · exact absurd hpacket (hno _)
  | noRule _ hlt _ => exact ⟨fun _ => Or.inl hlt, fun _ => Outcome.ok_ne_panic⟩
  | otherTeid _ hslot _ =>
      exact ⟨fun _ => Or.inl (SlotTable.lt_of_lookup hslot),
        fun _ => Outcome.ok_ne_panic⟩
  | notWritten _ hrule _ =>
      exact ⟨fun _ => Or.inl (SlotTable.lt_of_lookup hrule.left),
        fun _ => Outcome.err_ne_panic⟩
  | notFlushed _ hrule _ _ =>
      exact ⟨fun _ => Or.inl (SlotTable.lt_of_lookup hrule.left),
        fun _ => Outcome.err_ne_panic⟩
  | written _ hrule _ _ =>
      exact ⟨fun _ => Or.inl (SlotTable.lt_of_lookup hrule.left),
        fun _ => Outcome.ok_ne_panic⟩

def datagram (bytes : Bytes) (h : bytes.length <= 2000) : UdpRead where
  buf := ⟨bytes ++ List.replicate (2000 - bytes.length) 0, by
    rw [List.length_append, List.length_replicate]
    exact Nat.add_sub_of_le h⟩
  bytesRead := bytes.length
  fits := h

/-- A G-PDU with one extension header of four bytes and an inner packet of 20
bytes, for the TEID that ends in this octet. -/
def gpdu (octet : UInt8) : UdpRead :=
  datagram ([0x34, 255, 0, 31, 0, 0, 0, octet, 0, 0, 0, 0x85, 1, 0, 0, 0,
    0x80, 0, 0x81, 0x45] ++ List.replicate 19 0)
    (Nat.le_of_ble_eq_true rfl)

def openTun : UplinkEnv where
  canWrite := fun _ => true
  canFlush := fun _ => true

def emptyUplink : Uplink where
  table := SlotTable.empty UplinkForwardingRule maxUes
  counters := ⟨0, 0, 0, 0, 0, 0, 0, 0, 0, 0⟩
  written := []

theorem handleNextUplinkPacket_ne_panic_iff_gpdu :
    exists u', handleNextUplinkPacket openTun 2 (some (gpdu 1))
        emptyUplink = some (Outcome.ok (), u') ∧
      ((Outcome.ok () : Outcome UplinkError Unit) ≠ Outcome.panic <->
        ((gpdu 1).buf.byte 7).toNat < maxUes ∨
          forall offset, ¬ (gpdu 1).UserPacketAt offset) := by
  have hout : (handleNextUplinkPacket openTun 2 (some (gpdu 1))
      emptyUplink).map Prod.fst = some (Outcome.ok ()) := by
    decide +kernel
  rcases Option.map_eq_some_iff.mp hout with ⟨⟨out, u'⟩, hends, hok⟩
  cases hok
  exact ⟨u', hends, handleNextUplinkPacket_ne_panic_iff _ _ _ _ _ _ hends⟩

/-- Two octets lie beyond the table; no rule is needed for them to panic. -/
theorem handleNextUplinkPacket_panics_beyondTable :
    (handleNextUplinkPacket openTun 2 (some (gpdu 254))
        emptyUplink).map Prod.fst = some Outcome.panic ∧
      (handleNextUplinkPacket openTun 2 (some (gpdu 255))
        emptyUplink).map Prod.fst = some Outcome.panic := by
  decide +kernel

end Uplink
end Userplane
end QCore
