import Mathlib.Data.Finset.Lattice.Basic
import Mathlib.Data.Fintype.EquivFin
import Mathlib.Data.Nat.Find
import QCore.Foundation.SlotTable
import QCore.Userplane.Types

/-!
# Forwarding tables and the packet processor

The session operations of `PacketProcessor` over its three shared structures:
the index pool, the uplink table and the downlink table.  Each structure has a
lock of its own, so every operation is written as the sequence of its lock
sections; other tasks may run between two of them.
-/

namespace QCore
namespace Userplane

open Foundation

def maxUes : Nat := 254

/-!
## The index pool

The pool hands out numbers that are not in use; a number becomes free again
only by `return_id`, which no code of the repository calls.
-/

structure IndexPool where
  inUse : Finset Nat
deriving DecidableEq

namespace IndexPool

def new : IndexPool :=
  ⟨∅⟩

/-- `request_id`: mark one given number as used. -/
def requestId (pool : IndexPool) (id : Nat) : IndexPool :=
  ⟨insert id pool.inUse⟩

/-- The number `new_id` returns: the smallest that is not in use. -/
def leastFree (pool : IndexPool) : Nat :=
  Nat.find (Infinite.exists_notMem_finset pool.inUse)

theorem leastFree_not_mem (pool : IndexPool) :
    pool.leastFree ∉ pool.inUse :=
  Nat.find_spec (Infinite.exists_notMem_finset pool.inUse)

theorem leastFree_range {pool : IndexPool} {n : Nat}
    (h : pool.inUse = Finset.range n) : pool.leastFree = n := by
  have hfree := leastFree_not_mem pool
  have hle : pool.leastFree <= n := by
    apply Nat.find_min'
    simp [h]
  rw [h, Finset.mem_range] at hfree
  lia

end IndexPool

/-!
## The forwarding tables
-/

structure UplinkForwardingRule where
  localTeid : Vector UInt8 4
deriving DecidableEq, Repr

structure DownlinkForwardingRule where
  remoteTunnelInfo : GtpTunnel
  ueIpAddr : IpAddr
  pdcpSeqNum : UInt16
  nrSeqNum : UInt32
deriving DecidableEq, Repr

abbrev UplinkForwardingTable : Type :=
  SlotTable UplinkForwardingRule maxUes

abbrev DownlinkForwardingTable : Type :=
  SlotTable DownlinkForwardingRule maxUes

def uplinkTableIndexFromGtpTeid (teid : Vector UInt8 4) : Nat :=
  teid[3].toNat

def downlinkTableIndexFromIp (ueIp : Ipv4Addr) : Nat :=
  ueIp.octets[3].toNat

/-- `UplinkForwardingTable::add_rule`, with its `assert_eq!`. -/
def UplinkForwardingTable.addRule (table : UplinkForwardingTable)
    (ueIpv4 : Ipv4Addr) (teid : Vector UInt8 4) :
    Outcome UserplaneError UplinkForwardingTable :=
  let idx := ueIpv4.octets[3].toNat
  if uplinkTableIndexFromGtpTeid teid = idx then
    table.write idx (some { localTeid := teid })
  else
    Outcome.panic

def UplinkForwardingTable.removeRule (table : UplinkForwardingTable)
    (teid : Vector UInt8 4) : Outcome UserplaneError UplinkForwardingTable :=
  table.write (uplinkTableIndexFromGtpTeid teid) none

def DownlinkForwardingTable.addRule (table : DownlinkForwardingTable)
    (remoteTunnelInfo : GtpTunnel) (ueIpv4 : Ipv4Addr) :
    Outcome UserplaneError DownlinkForwardingTable :=
  table.write (downlinkTableIndexFromIp ueIpv4)
    (some
      { remoteTunnelInfo := remoteTunnelInfo
        ueIpAddr := IpAddr.v4 ueIpv4
        pdcpSeqNum := 0
        nrSeqNum := 0 })

def DownlinkForwardingTable.removeRule (table : DownlinkForwardingTable)
    (ueIpv4 : Ipv4Addr) : Outcome UserplaneError DownlinkForwardingTable :=
  table.write (downlinkTableIndexFromIp ueIpv4) none

/-- The counters of a rule after the downlink pipeline has used it once; both
wrap at their width. -/
def DownlinkForwardingRule.advance (rule : DownlinkForwardingRule) :
    DownlinkForwardingRule :=
  { rule with
    pdcpSeqNum := rule.pdcpSeqNum + 1
    nrSeqNum := rule.nrSeqNum + 1 }

/-!
## The session operations
-/

structure PacketProcessor where
  indexPool : IndexPool
  downlinkForwardingTable : DownlinkForwardingTable
  uplinkForwardingTable : UplinkForwardingTable
  ueSubnet : Ipv4Addr
deriving DecidableEq

namespace PacketProcessor

/-- What `PacketProcessor::new` leaves behind once its devices are open: slot 0
is taken, so that the first UE gets host number 1. -/
def new (ueSubnet : Ipv4Addr) : PacketProcessor where
  indexPool := IndexPool.new.requestId 0
  downlinkForwardingTable := SlotTable.empty DownlinkForwardingRule maxUes
  uplinkForwardingTable := SlotTable.empty UplinkForwardingRule maxUes
  ueSubnet := ueSubnet

/-- The uplink TEID of slot `idx`: three random bytes, then the slot. -/
def sessionTeid (rnd : Vector UInt8 3) (idx : UInt8) : Vector UInt8 4 :=
  #v[rnd[0], rnd[1], rnd[2], idx]

/-- The UE address of slot `idx`: the subnet with the slot as host number. -/
def sessionAddr (ueSubnet : Ipv4Addr) (idx : UInt8) : Ipv4Addr :=
  ⟨ueSubnet.octets.set 3 idx⟩

def sessionFor (ueSubnet : Ipv4Addr) (rnd : Vector UInt8 3) (idx : UInt8) :
    UserplaneSession where
  uplinkGtpTeid := sessionTeid rnd idx
  ueIpAddr := IpAddr.v4 (sessionAddr ueSubnet idx)
  qfi := 0

/-- First lock section of a reservation: the pool has returned `id`. -/
def takeIndex (id : Nat) : Cmd PacketProcessor UserplaneError UInt8 := do
  Cmd.modify fun p => { p with indexPool := p.indexPool.requestId id }
  Cmd.lift (Outcome.ensure (id < maxUes) UserplaneError.noMoreSlotsAvailable)
  return UInt8.ofNat id

/-- Second lock section of a reservation: install the uplink rule. -/
def installUplink (rnd : Vector UInt8 3) (idx : UInt8) :
    Cmd PacketProcessor UserplaneError UserplaneSession := do
  let p <- Cmd.get
  let session := sessionFor p.ueSubnet rnd idx
  let table <- Cmd.lift
    (p.uplinkForwardingTable.addRule (sessionAddr p.ueSubnet idx)
      session.uplinkGtpTeid)
  Cmd.modify fun p => { p with uplinkForwardingTable := table }
  return session

def reserveUserplaneSession (rnd : Vector UInt8 3) :
    Cmd PacketProcessor UserplaneError UserplaneSession := do
  let p <- Cmd.get
  let idx <- takeIndex p.indexPool.leastFree
  installUplink rnd idx

def commitUserplaneSession (session : UserplaneSession)
    (remoteTunnelInfo : GtpTunnel) : Cmd PacketProcessor UserplaneError Unit :=
  match session.ueIpAddr with
  | IpAddr.v6 _ => Cmd.bail UserplaneError.ipv6NotImplemented
  | IpAddr.v4 ueIpv4 => do
      let p <- Cmd.get
      let table <- Cmd.lift
        (p.downlinkForwardingTable.addRule remoteTunnelInfo ueIpv4)
      Cmd.modify fun p => { p with downlinkForwardingTable := table }

/-- First lock section of a deletion. -/
def removeDownlink (session : UserplaneSession) :
    Cmd PacketProcessor UserplaneError Unit :=
  match session.ueIpAddr with
  | IpAddr.v6 _ => pure ()
  | IpAddr.v4 ueIpv4 => do
      let p <- Cmd.get
      let table <- Cmd.lift (p.downlinkForwardingTable.removeRule ueIpv4)
      Cmd.modify fun p => { p with downlinkForwardingTable := table }

/-- Second lock section of a deletion. -/
def removeUplink (session : UserplaneSession) :
    Cmd PacketProcessor UserplaneError Unit := do
  let p <- Cmd.get
  let table <- Cmd.lift
    (p.uplinkForwardingTable.removeRule session.uplinkGtpTeid)
  Cmd.modify fun p => { p with uplinkForwardingTable := table }

def deleteUserplaneSession (session : UserplaneSession) :
    Cmd PacketProcessor UserplaneError Unit := do
  removeDownlink session
  removeUplink session

/-!
## What each lock section does

One equation for each section, in the range where the code uses it.  The
proofs about whole operations and about interleavings cite these and do not
unfold the operations again.
-/

def withIndex (p : PacketProcessor) (id : Nat) : PacketProcessor :=
  { p with indexPool := p.indexPool.requestId id }

def setUplink (p : PacketProcessor) (i : Nat)
    (rule : Option UplinkForwardingRule) : PacketProcessor :=
  { p with uplinkForwardingTable := p.uplinkForwardingTable.set i rule }

def setDownlink (p : PacketProcessor) (i : Nat)
    (rule : Option DownlinkForwardingRule) : PacketProcessor :=
  { p with downlinkForwardingTable := p.downlinkForwardingTable.set i rule }

theorem takeIndex_of_lt (p : PacketProcessor) {id : Nat} (h : id < maxUes) :
    takeIndex id p = (Outcome.ok (UInt8.ofNat id), p.withIndex id) := by
  simp [takeIndex, Cmd.bind_run, Outcome.ensure, h, withIndex]

theorem takeIndex_of_not_lt (p : PacketProcessor) {id : Nat}
    (h : ¬ id < maxUes) :
    takeIndex id p =
      (Outcome.err UserplaneError.noMoreSlotsAvailable, p.withIndex id) := by
  simp [takeIndex, Cmd.bind_run, Outcome.ensure, h, withIndex]

@[simp] theorem sessionTeid_index (rnd : Vector UInt8 3) (idx : UInt8) :
    uplinkTableIndexFromGtpTeid (sessionTeid rnd idx) = idx.toNat := rfl

@[simp] theorem sessionAddr_index (subnet : Ipv4Addr) (idx : UInt8) :
    downlinkTableIndexFromIp (sessionAddr subnet idx) = idx.toNat := by
  simp [downlinkTableIndexFromIp, sessionAddr]

theorem installUplink_of_lt (p : PacketProcessor) (rnd : Vector UInt8 3)
    {idx : UInt8} (h : idx.toNat < maxUes) :
    installUplink rnd idx p =
      (Outcome.ok (sessionFor p.ueSubnet rnd idx),
        p.setUplink idx.toNat (some ⟨sessionTeid rnd idx⟩)) := by
  have hidx : (sessionAddr p.ueSubnet idx).octets[3].toNat = idx.toNat :=
    sessionAddr_index p.ueSubnet idx
  simp [installUplink, Cmd.bind_run, UplinkForwardingTable.addRule, sessionFor,
    hidx, SlotTable.write_of_lt _ _ h, setUplink]

theorem commit_of_lt (p : PacketProcessor) {session : UserplaneSession}
    {addr : Ipv4Addr} (tunnel : GtpTunnel)
    (haddr : session.ueIpAddr = IpAddr.v4 addr)
    (h : downlinkTableIndexFromIp addr < maxUes) :
    commitUserplaneSession session tunnel p =
      (Outcome.ok (),
        p.setDownlink (downlinkTableIndexFromIp addr)
          (some ⟨tunnel, IpAddr.v4 addr, 0, 0⟩)) := by
  simp [commitUserplaneSession, haddr, Cmd.bind_run,
    DownlinkForwardingTable.addRule, SlotTable.write_of_lt _ _ h, setDownlink]

theorem removeDownlink_of_lt (p : PacketProcessor) {session : UserplaneSession}
    {addr : Ipv4Addr} (haddr : session.ueIpAddr = IpAddr.v4 addr)
    (h : downlinkTableIndexFromIp addr < maxUes) :
    removeDownlink session p =
      (Outcome.ok (),
        p.setDownlink (downlinkTableIndexFromIp addr) none) := by
  simp [removeDownlink, haddr, Cmd.bind_run,
    DownlinkForwardingTable.removeRule, SlotTable.write_of_lt _ _ h,
    setDownlink]

theorem removeUplink_of_lt (p : PacketProcessor) {session : UserplaneSession}
    (h : uplinkTableIndexFromGtpTeid session.uplinkGtpTeid < maxUes) :
    removeUplink session p =
      (Outcome.ok (),
        p.setUplink (uplinkTableIndexFromGtpTeid session.uplinkGtpTeid)
          none) := by
  simp [removeUplink, Cmd.bind_run, UplinkForwardingTable.removeRule,
    SlotTable.write_of_lt _ _ h, setUplink]

end PacketProcessor
end Userplane
end QCore
