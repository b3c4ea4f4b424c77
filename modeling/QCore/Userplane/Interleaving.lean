import Mathlib.Logic.Function.Basic
import QCore.Foundation.Machine
import QCore.Userplane.PacketProcessor

/-!
# Interleaved session operations

Any number of UE tasks work on one packet processor.  A task reserves a
session, may commit it, and deletes it; each lock section of these operations
is one move of the machine below, so a list of moves is an interleaving.  The
machine keeps a record of the sessions that are reserved and not deleted, with
the task that owns each and the tunnel last committed for it.

The number that the index pool returns is part of the move.  All that is asked
of it is that it was not in use.
-/

namespace QCore
namespace Userplane

open Foundation

/-- Where a task stands between two lock sections. -/
inductive Progress where
  | idle
  | reserving (idx : UInt8)
  | deleting (session : UserplaneSession)
deriving DecidableEq

structure LiveSession where
  owner : Nat
  session : UserplaneSession
  committed : Option GtpTunnel
deriving DecidableEq

structure Shared where
  processor : PacketProcessor
  progress : Nat -> Progress
  live : List LiveSession

/-- The moves.  `forward` is the critical section of the downlink pipeline on
one slot. -/
inductive Move where
  | takeIndex (task id : Nat)
  | installUplink (task : Nat) (rnd : Vector UInt8 3)
  | commit (task : Nat) (session : UserplaneSession) (tunnel : GtpTunnel)
  | removeDownlink (task : Nat) (session : UserplaneSession)
  | removeUplink (task : Nat)
  | forward (slot : Nat)
deriving DecidableEq

namespace Shared

def start (ueSubnet : Ipv4Addr) : Shared where
  processor := PacketProcessor.new ueSubnet
  progress := fun _ => Progress.idle
  live := []

def Owns (s : Shared) (task : Nat) (session : UserplaneSession) : Prop :=
  exists e, e ∈ s.live ∧ e.owner = task ∧ e.session = session

instance (s : Shared) (task : Nat) (session : UserplaneSession) :
    Decidable (s.Owns task session) :=
  inferInstanceAs (Decidable (exists e, e ∈ s.live ∧ _))

def setProgress (s : Shared) (task : Nat) (progress : Progress) : Shared :=
  { s with progress := Function.update s.progress task progress }

def recordCommit (live : List LiveSession) (session : UserplaneSession)
    (tunnel : GtpTunnel) : List LiveSession :=
  live.map fun e =>
    if e.session = session then { e with committed := some tunnel } else e

def step (s : Shared) : Move -> Option Shared
  | Move.takeIndex task id =>
      if s.progress task = Progress.idle ∧ id ∉ s.processor.indexPool.inUse then
        match PacketProcessor.takeIndex id s.processor with
        | (Outcome.ok idx, p) =>
            some ({ s with processor := p }.setProgress task
              (Progress.reserving idx))
        | (Outcome.err _, p) => some { s with processor := p }
        | (Outcome.panic, _) => none
      else
        none
  | Move.installUplink task rnd =>
      match s.progress task with
      | Progress.reserving idx =>
          match PacketProcessor.installUplink rnd idx s.processor with
          | (Outcome.ok session, p) =>
              some ({ s with
                processor := p
                live := s.live ++ [LiveSession.mk task session none] }.setProgress task
                  Progress.idle)
          | (_, _) => none
      | _ => none
  | Move.commit task session tunnel =>
      if s.progress task = Progress.idle ∧ s.Owns task session then
        match PacketProcessor.commitUserplaneSession session tunnel
            s.processor with
        | (Outcome.ok (), p) =>
            some { s with
              processor := p
              live := recordCommit s.live session tunnel }
        | (_, _) => none
      else
        none
  | Move.removeDownlink task session =>
      if s.progress task = Progress.idle ∧ s.Owns task session then
        match PacketProcessor.removeDownlink session s.processor with
        | (Outcome.ok (), p) =>
            some ({ s with processor := p }.setProgress task
              (Progress.deleting session))
        | (_, _) => none
      else
        none
  | Move.removeUplink task =>
      match s.progress task with
      | Progress.deleting session =>
          match PacketProcessor.removeUplink session s.processor with
          | (Outcome.ok (), p) =>
              some ({ s with
                processor := p
                live := s.live.filter (fun e => e.session ≠ session)
                }.setProgress task Progress.idle)
          | (_, _) => none
      | _ => none
  | Move.forward slot =>
      match s.processor.downlinkForwardingTable.lookup slot with
      | some rule =>
          some { s with
            processor := s.processor.setDownlink slot (some rule.advance) }
      | none => none

end Shared

def sessionMachine : Machine Shared Move where
  step := Shared.step

/-!
## Sessions as reservations make them
-/

def UserplaneSession.slot (session : UserplaneSession) : Nat :=
  uplinkTableIndexFromGtpTeid session.uplinkGtpTeid

def UserplaneSession.Reserved (subnet : Ipv4Addr) (session : UserplaneSession) :
    Prop :=
  exists rnd idx, session = PacketProcessor.sessionFor subnet rnd idx ∧
    0 < idx.toNat ∧ idx.toNat < maxUes

namespace UserplaneSession

open PacketProcessor

@[simp] theorem slot_sessionFor (subnet : Ipv4Addr) (rnd : Vector UInt8 3)
    (idx : UInt8) : (sessionFor subnet rnd idx).slot = idx.toNat := rfl

theorem Reserved.slot_pos {subnet : Ipv4Addr} {session : UserplaneSession}
    (h : session.Reserved subnet) : 0 < session.slot := by
  rcases h with ⟨rnd, idx, heq, hpos, _⟩
  rw [heq]
  exact hpos

theorem Reserved.slot_lt {subnet : Ipv4Addr} {session : UserplaneSession}
    (h : session.Reserved subnet) : session.slot < maxUes := by
  rcases h with ⟨rnd, idx, heq, _, hlt⟩
  rw [heq]
  exact hlt

theorem Reserved.address {subnet : Ipv4Addr} {session : UserplaneSession}
    (h : session.Reserved subnet) :
    exists addr, session.ueIpAddr = IpAddr.v4 addr ∧
      downlinkTableIndexFromIp addr = session.slot ∧
      forall k (hk : k < 3), addr.octets[k] = subnet.octets[k] := by
  rcases h with ⟨rnd, idx, heq, _, _⟩
  refine ⟨sessionAddr subnet idx, ?_, ?_, ?_⟩
  · rw [heq]
    rfl
  · rw [heq, sessionAddr_index, slot_sessionFor]
  · intro k hk
    unfold sessionAddr
    rw [Vector.getElem_set_ne]
    lia

theorem commit_of_reserved {subnet : Ipv4Addr} {session : UserplaneSession}
    (h : session.Reserved subnet) (tunnel : GtpTunnel) (p : PacketProcessor) :
    commitUserplaneSession session tunnel p =
      (Outcome.ok (),
        p.setDownlink session.slot
          (some ⟨tunnel, session.ueIpAddr, 0, 0⟩)) := by
  rcases h.address with ⟨addr, haddr, hslot, _⟩
  have hlt : downlinkTableIndexFromIp addr < maxUes := by
    rw [hslot]
    exact h.slot_lt
  rw [commit_of_lt p tunnel haddr hlt, hslot, haddr]

theorem removeDownlink_of_reserved {subnet : Ipv4Addr}
    {session : UserplaneSession} (h : session.Reserved subnet)
    (p : PacketProcessor) :
    removeDownlink session p =
      (Outcome.ok (), p.setDownlink session.slot none) := by
  rcases h.address with ⟨addr, haddr, hslot, _⟩
  have hlt : downlinkTableIndexFromIp addr < maxUes := by
    rw [hslot]
    exact h.slot_lt
  rw [removeDownlink_of_lt p haddr hlt, hslot]

theorem removeUplink_of_reserved {subnet : Ipv4Addr}
    {session : UserplaneSession} (h : session.Reserved subnet)
    (p : PacketProcessor) :
    removeUplink session p =
      (Outcome.ok (), p.setUplink session.slot none) :=
  removeUplink_of_lt p h.slot_lt

end UserplaneSession

/-!
## The effect of a move

`Effect` lists what one move can do.  A section of the code panics or fails
only outside the range of the tables, and `Owned` keeps every task inside it.
-/

namespace Shared

open PacketProcessor

def liveSlots (s : Shared) : List Nat :=
  s.live.map fun e => e.session.slot

/-- The live sessions and the indices on their way to one are pairwise
different numbers that the pool has handed out. -/
structure Owned (subnet : Ipv4Addr) (s : Shared) : Prop where
  subnet_eq : s.processor.ueSubnet = subnet
  zero_used : 0 ∈ s.processor.indexPool.inUse
  live_reserved : forall e, e ∈ s.live -> e.session.Reserved subnet
  live_used : forall i, i ∈ s.liveSlots -> i ∈ s.processor.indexPool.inUse
  live_distinct : s.liveSlots.Nodup
  reserving_range : forall task idx,
    s.progress task = Progress.reserving idx ->
      0 < idx.toNat ∧ idx.toNat < maxUes
  reserving_used : forall task idx,
    s.progress task = Progress.reserving idx ->
      idx.toNat ∈ s.processor.indexPool.inUse
  reserving_fresh : forall task idx,
    s.progress task = Progress.reserving idx -> idx.toNat ∉ s.liveSlots
  reserving_once : forall task task' idx,
    s.progress task = Progress.reserving idx ->
      s.progress task' = Progress.reserving idx -> task = task'
  deleting_owns : forall task session,
    s.progress task = Progress.deleting session -> s.Owns task session

inductive Effect (s : Shared) : Move -> Shared -> Prop where
  | indexTaken {task id : Nat} :
      s.progress task = Progress.idle ->
      id ∉ s.processor.indexPool.inUse -> id < maxUes ->
      Effect s (Move.takeIndex task id)
        ⟨s.processor.withIndex id,
          Function.update s.progress task
            (Progress.reserving (UInt8.ofNat id)),
          s.live⟩
  | indexRefused {task id : Nat} :
      s.progress task = Progress.idle -> ¬ id < maxUes ->
      Effect s (Move.takeIndex task id)
        ⟨s.processor.withIndex id, s.progress, s.live⟩
  | uplinkInstalled {task : Nat} {rnd : Vector UInt8 3} {idx : UInt8} :
      s.progress task = Progress.reserving idx ->
      Effect s (Move.installUplink task rnd)
        ⟨s.processor.setUplink idx.toNat (some ⟨sessionTeid rnd idx⟩),
          Function.update s.progress task Progress.idle,
          s.live ++
            [⟨task, sessionFor s.processor.ueSubnet rnd idx, none⟩]⟩
  | committed {task : Nat} {session : UserplaneSession} {tunnel : GtpTunnel} :
      s.progress task = Progress.idle -> s.Owns task session ->
      Effect s (Move.commit task session tunnel)
        ⟨s.processor.setDownlink session.slot
            (some ⟨tunnel, session.ueIpAddr, 0, 0⟩),
          s.progress, recordCommit s.live session tunnel⟩
  | downlinkRemoved {task : Nat} {session : UserplaneSession} :
      s.progress task = Progress.idle -> s.Owns task session ->
      Effect s (Move.removeDownlink task session)
        ⟨s.processor.setDownlink session.slot none,
          Function.update s.progress task (Progress.deleting session),
          s.live⟩
  | uplinkRemoved {task : Nat} {session : UserplaneSession} :
      s.progress task = Progress.deleting session ->
      Effect s (Move.removeUplink task)
        ⟨s.processor.setUplink session.slot none,
          Function.update s.progress task Progress.idle,
          s.live.filter (fun e => e.session ≠ session)⟩
  | forwarded {slot : Nat} {rule : DownlinkForwardingRule} :
      s.processor.downlinkForwardingTable.lookup slot = some rule ->
      Effect s (Move.forward slot)
        ⟨s.processor.setDownlink slot (some rule.advance), s.progress, s.live⟩

theorem Owned.reserved_of_owns {subnet : Ipv4Addr} {s : Shared}
    (h : s.Owned subnet) {task : Nat} {session : UserplaneSession}
    (howns : s.Owns task session) : session.Reserved subnet := by
  rcases howns with ⟨e, he, _, heq⟩
  rw [← heq]
  exact h.live_reserved e he

theorem step_effect {subnet : Ipv4Addr} {s s' : Shared} {m : Move}
    (hown : s.Owned subnet) (h : s.step m = some s') : Effect s m s' := by
  cases m with
  | takeIndex task id =>
      simp only [step, Option.ite_none_right_eq_some] at h
      rcases h with ⟨⟨hidle, hfree⟩, h⟩
      by_cases hid : id < maxUes
      · rw [takeIndex_of_lt s.processor hid] at h
        cases h
        exact Effect.indexTaken hidle hfree hid
      · rw [takeIndex_of_not_lt s.processor hid] at h
        cases h
        exact Effect.indexRefused hidle hid
  | installUplink task rnd =>
      cases hprog : s.progress task with
      | idle => simp [step, hprog] at h
      | deleting session => simp [step, hprog] at h
      | reserving idx =>
          have hlt := (hown.reserving_range task idx hprog).right
          simp only [step, hprog, installUplink_of_lt s.processor rnd hlt] at h
          cases h
          exact Effect.uplinkInstalled hprog
  | commit task session tunnel =>
      simp only [step, Option.ite_none_right_eq_some] at h
      rcases h with ⟨⟨hidle, howns⟩, h⟩
      have hres := hown.reserved_of_owns howns
      rw [UserplaneSession.commit_of_reserved hres] at h
      cases h
      exact Effect.committed hidle howns
  | removeDownlink task session =>
      simp only [step, Option.ite_none_right_eq_some] at h
      rcases h with ⟨⟨hidle, howns⟩, h⟩
      have hres := hown.reserved_of_owns howns
      rw [UserplaneSession.removeDownlink_of_reserved hres] at h
      cases h
      exact Effect.downlinkRemoved hidle howns
  | removeUplink task =>
      cases hprog : s.progress task with
      | idle => simp [step, hprog] at h
      | reserving idx => simp [step, hprog] at h
      | deleting session =>
          have hres :=
            hown.reserved_of_owns (hown.deleting_owns task session hprog)
          simp only [step, hprog,
            UserplaneSession.removeUplink_of_reserved hres] at h
          cases h
          exact Effect.uplinkRemoved hprog
  | forward slot =>
      cases hrule : s.processor.downlinkForwardingTable.lookup slot with
      | none => simp [step, hrule] at h
      | some rule =>
          simp only [step, hrule] at h
          cases h
          exact Effect.forwarded hrule

/-!
## Every move keeps the sessions apart
-/

theorem owned_start (subnet : Ipv4Addr) : (start subnet).Owned subnet where
  subnet_eq := rfl
  zero_used := by simp [start, PacketProcessor.new, IndexPool.requestId]
  live_reserved := by simp [start]
  live_used := by simp [start, liveSlots]
  live_distinct := List.nodup_nil
  reserving_range := by simp [start]
  reserving_used := by simp [start]
  reserving_fresh := by simp [start]
  reserving_once := by simp [start]
  deleting_owns := by simp [start]

theorem mem_liveSlots {s : Shared} {e : LiveSession} (he : e ∈ s.live) :
    e.session.slot ∈ s.liveSlots :=
  List.mem_map_of_mem he

theorem Owned.eq_of_slot_eq {subnet : Ipv4Addr} {s : Shared}
    (h : s.Owned subnet) {e e' : LiveSession} (he : e ∈ s.live)
    (he' : e' ∈ s.live) (heq : e.session.slot = e'.session.slot) : e = e' :=
  List.inj_on_of_nodup_map h.live_distinct he he' heq

theorem progress_update {progress : Nat -> Progress} {task t : Nat}
    {p q : Progress} (h : Function.update progress task p t = q) :
    t = task ∧ p = q ∨ t ≠ task ∧ progress t = q := by
  by_cases ht : t = task
  · rw [ht, Function.update_self] at h
    exact Or.inl ⟨ht, h⟩
  · rw [Function.update_of_ne ht] at h
    exact Or.inr ⟨ht, h⟩

theorem progress_of_update {progress : Nat -> Progress} {task t : Nat}
    {p q : Progress} (hne : p ≠ q)
    (h : Function.update progress task p t = q) : progress t = q := by
  rcases progress_update h with ⟨_, heq⟩ | ⟨_, hold⟩
  · exact absurd heq hne
  · exact hold

theorem Owned.owner_eq {subnet : Ipv4Addr} {s : Shared} (h : s.Owned subnet)
    {task task' : Nat} {session session' : UserplaneSession}
    (howns : s.Owns task session) (howns' : s.Owns task' session')
    (hslot : session.slot = session'.slot) : task = task' := by
  rcases howns with ⟨e, he, howner, hs⟩
  rcases howns' with ⟨e', he', howner', hs'⟩
  rw [← hs, ← hs'] at hslot
  rw [← howner, ← howner', h.eq_of_slot_eq he he' hslot]

theorem slot_ne_of_session_ne {subnet : Ipv4Addr} {s : Shared}
    (hown : s.Owned subnet) {task : Nat} {session : UserplaneSession}
    (howns : s.Owns task session) {e : LiveSession} (he : e ∈ s.live)
    (hne : e.session ≠ session) : e.session.slot ≠ session.slot := by
  intro hslot
  rcases howns with ⟨e', he', _, hs'⟩
  rw [← hs'] at hslot hne
  exact hne (congrArg LiveSession.session (hown.eq_of_slot_eq he he' hslot))

theorem Owned.of_fewer {subnet : Ipv4Addr} {s s' : Shared}
    (h : s.Owned subnet)
    (hsubnet : s'.processor.ueSubnet = s.processor.ueSubnet)
    (hpool : s.processor.indexPool.inUse ⊆ s'.processor.indexPool.inUse)
    (hprogress : forall task idx,
      s'.progress task = Progress.reserving idx ->
        s.progress task = Progress.reserving idx)
    (hslots : s'.liveSlots.Sublist s.liveSlots)
    (hreserved : forall e, e ∈ s'.live -> e.session.Reserved subnet)
    (howns : forall task session,
      s'.progress task = Progress.deleting session ->
        s'.Owns task session) : s'.Owned subnet where
  subnet_eq := hsubnet.trans h.subnet_eq
  zero_used := hpool h.zero_used
  live_reserved := hreserved
  live_used i hi := hpool (h.live_used i (hslots.subset hi))
  live_distinct := h.live_distinct.sublist hslots
  reserving_range task idx ht := h.reserving_range task idx (hprogress _ _ ht)
  reserving_used task idx ht :=
    hpool (h.reserving_used task idx (hprogress _ _ ht))
  reserving_fresh task idx ht hmem :=
    h.reserving_fresh task idx (hprogress _ _ ht) (hslots.subset hmem)
  reserving_once task task' idx ht ht' :=
    h.reserving_once task task' idx (hprogress _ _ ht) (hprogress _ _ ht')
  deleting_owns := howns

theorem Owned.indexTaken {subnet : Ipv4Addr} {s : Shared}
    (h : s.Owned subnet) (task : Nat) {id : Nat}
    (hfree : id ∉ s.processor.indexPool.inUse) (hid : id < maxUes) :
    Owned subnet
      ⟨s.processor.withIndex id,
        Function.update s.progress task (Progress.reserving (UInt8.ofNat id)),
        s.live⟩ := by
  have hnat : (UInt8.ofNat id).toNat = id := by
    apply UInt8.toNat_ofNat_of_lt'
    unfold maxUes at hid
    change id < 256
    lia
  have hgrow : forall {i}, i ∈ s.processor.indexPool.inUse ->
      i ∈ (s.processor.withIndex id).indexPool.inUse :=
    Finset.mem_insert_of_mem
  refine
    { subnet_eq := h.subnet_eq
      zero_used := hgrow h.zero_used
      live_reserved := h.live_reserved
      live_used := fun i hi => hgrow (h.live_used i hi)
      live_distinct := h.live_distinct
      reserving_range := ?_
      reserving_used := ?_
      reserving_fresh := ?_
      reserving_once := ?_
      deleting_owns := ?_ }
  · intro t idx ht
    rcases progress_update ht with ⟨_, hidx⟩ | ⟨_, hold⟩
    · cases hidx
      rw [hnat]
      refine ⟨Nat.pos_of_ne_zero ?_, hid⟩
      intro hzero
      rw [hzero] at hfree
      exact hfree h.zero_used
    · exact h.reserving_range t idx hold
  · intro t idx ht
    rcases progress_update ht with ⟨_, hidx⟩ | ⟨_, hold⟩
    · cases hidx
      rw [hnat]
      exact Finset.mem_insert_self id _
    · exact hgrow (h.reserving_used t idx hold)
  · intro t idx ht hmem
    rcases progress_update ht with ⟨_, hidx⟩ | ⟨_, hold⟩
    · cases hidx
      rw [hnat] at hmem
      exact hfree (h.live_used id hmem)
    · exact h.reserving_fresh t idx hold hmem
  · -- A task that already held the number would have it in use.
    have hnew : forall t, s.progress t ≠ Progress.reserving (UInt8.ofNat id) := by
      intro t ht
      have hused := h.reserving_used t _ ht
      rw [hnat] at hused
      exact hfree hused
    intro t t' idx ht ht'
    rcases progress_update ht with ⟨heq, hidx⟩ | ⟨_, hold⟩
    · cases hidx
      rcases progress_update ht' with ⟨heq', _⟩ | ⟨_, hold'⟩
      · exact heq.trans heq'.symm
      · exact absurd hold' (hnew t')
    · rcases progress_update ht' with ⟨_, hidx'⟩ | ⟨_, hold'⟩
      · cases hidx'
        exact absurd hold (hnew t)
      · exact h.reserving_once t t' idx hold hold'
  · intro t session ht
    exact h.deleting_owns t session (progress_of_update (by simp) ht)

theorem Owned.uplinkInstalled {subnet : Ipv4Addr} {s : Shared}
    (h : s.Owned subnet) {task : Nat} (rnd : Vector UInt8 3) {idx : UInt8}
    (hprog : s.progress task = Progress.reserving idx) :
    Owned subnet
      ⟨s.processor.setUplink idx.toNat (some ⟨sessionTeid rnd idx⟩),
        Function.update s.progress task Progress.idle,
        s.live ++ [⟨task, sessionFor s.processor.ueSubnet rnd idx, none⟩]⟩ := by
  have hslots : forall i,
      i ∈ (s.live ++ [LiveSession.mk task
        (sessionFor s.processor.ueSubnet rnd idx) none]).map
          (fun e => e.session.slot) ->
      i ∈ s.liveSlots ∨ i = idx.toNat := by
    intro i hi
    simpa [liveSlots] using hi
  -- Only the task itself held `idx`, and it is idle now.
  have hother : forall t i,
      Function.update s.progress task Progress.idle t = Progress.reserving i ->
        s.progress t = Progress.reserving i ∧ i ≠ idx := by
    intro t i ht
    rcases progress_update ht with ⟨_, hp⟩ | ⟨hne, hold⟩
    · cases hp
    · refine ⟨hold, ?_⟩
      intro heq
      rw [heq] at hold
      exact hne (h.reserving_once t task idx hold hprog)
  refine
    { subnet_eq := h.subnet_eq
      zero_used := h.zero_used
      live_reserved := ?_
      live_used := ?_
      live_distinct := ?_
      reserving_range := fun t i ht => h.reserving_range t i (hother t i ht).left
      reserving_used := fun t i ht => h.reserving_used t i (hother t i ht).left
      reserving_fresh := ?_
      reserving_once := fun t t' i ht ht' =>
        h.reserving_once t t' i (hother t i ht).left (hother t' i ht').left
      deleting_owns := ?_ }
  · intro e he
    rcases List.mem_append.mp he with hold | hnew
    · exact h.live_reserved e hold
    · rw [List.mem_singleton.mp hnew, h.subnet_eq]
      exact ⟨rnd, idx, rfl, h.reserving_range task idx hprog⟩
  · intro i hi
    rcases hslots i hi with hold | hnew
    · exact h.live_used i hold
    · rw [hnew]
      exact h.reserving_used task idx hprog
  · have hfresh := h.reserving_fresh task idx hprog
    have hnodup := h.live_distinct
    unfold liveSlots at hfresh hnodup ⊢
    rw [List.map_append, List.nodup_append]
    refine ⟨hnodup, by simp, ?_⟩
    intro a ha b hb hab
    rw [hab, List.mem_singleton.mp hb] at ha
    exact hfresh ha
  · intro t i ht hmem
    rcases hother t i ht with ⟨hold, hne⟩
    rcases hslots i.toNat hmem with hlive | heq
    · exact h.reserving_fresh t i hold hlive
    · exact hne (UInt8.toNat_inj.mp heq)
  · intro t session ht
    rcases h.deleting_owns t session (progress_of_update (by simp) ht) with
      ⟨e, he, howner⟩
    exact ⟨e, List.mem_append_left _ he, howner⟩

theorem mem_recordCommit {live : List LiveSession} {session : UserplaneSession}
    {tunnel : GtpTunnel} {e : LiveSession}
    (he : e ∈ recordCommit live session tunnel) :
    exists e0, e0 ∈ live ∧ e.owner = e0.owner ∧ e.session = e0.session ∧
      e.committed =
        if e0.session = session then some tunnel else e0.committed := by
  rcases List.mem_map.mp he with ⟨e0, he0, heq⟩
  refine ⟨e0, he0, ?_⟩
  by_cases hs : e0.session = session
  · simp [← heq, hs]
  · simp [← heq, hs]

theorem recordCommit_map {γ : Type} (f : UserplaneSession -> γ)
    (live : List LiveSession) (session : UserplaneSession)
    (tunnel : GtpTunnel) :
    (recordCommit live session tunnel).map (fun e => f e.session) =
      live.map fun e => f e.session := by
  unfold recordCommit
  rw [List.map_map]
  apply List.map_congr_left
  intro e _
  by_cases hs : e.session = session
  · simp [hs]
  · simp [hs]

theorem recordCommit_slots (live : List LiveSession)
    (session : UserplaneSession) (tunnel : GtpTunnel) :
    (recordCommit live session tunnel).map (fun e => e.session.slot) =
      live.map fun e => e.session.slot :=
  recordCommit_map UserplaneSession.slot live session tunnel

theorem owns_recordCommit {s : Shared} {task : Nat}
    {session committed : UserplaneSession} (tunnel : GtpTunnel)
    (h : s.Owns task session) :
    exists e, e ∈ recordCommit s.live committed tunnel ∧ e.owner = task ∧
      e.session = session := by
  rcases h with ⟨e, he, howner, hsession⟩
  refine ⟨_, List.mem_map_of_mem he, ?_⟩
  by_cases hs : e.session = committed
  · rw [if_pos hs]
    exact ⟨howner, hsession⟩
  · rw [if_neg hs]
    exact ⟨howner, hsession⟩

theorem owned_effect {subnet : Ipv4Addr} {s s' : Shared} {m : Move}
    (h : s.Owned subnet) (heffect : Effect s m s') : s'.Owned subnet := by
  cases heffect with
  | indexTaken _ hfree hid => exact h.indexTaken _ hfree hid
  | indexRefused _ _ =>
      exact h.of_fewer rfl (Finset.subset_insert _ _)
        (fun _ _ ht => ht) (List.Sublist.refl _) h.live_reserved
        h.deleting_owns
  | uplinkInstalled hprog => exact h.uplinkInstalled _ hprog
  | @committed task session tunnel _ howns =>
      refine h.of_fewer rfl (Finset.Subset.refl _) (fun _ _ ht => ht) ?_ ?_ ?_
      · unfold liveSlots
        rw [recordCommit_slots]
      · intro e he
        rcases mem_recordCommit he with ⟨e0, he0, _, hsession, _⟩
        rw [hsession]
        exact h.live_reserved e0 he0
      · intro t session' ht
        exact owns_recordCommit tunnel (h.deleting_owns t session' ht)
  | @downlinkRemoved task session hidle howns =>
      refine h.of_fewer rfl (Finset.Subset.refl _)
        (fun _ _ ht => progress_of_update (by simp) ht) (List.Sublist.refl _)
        h.live_reserved ?_
      · intro t session' ht
        rcases progress_update ht with ⟨heq, hp⟩ | ⟨_, hold⟩
        · cases hp
          rw [heq]
          exact howns
        · exact h.deleting_owns t session' hold
  | @uplinkRemoved task session hprog =>
      refine h.of_fewer rfl (Finset.Subset.refl _)
        (fun _ _ ht => progress_of_update (by simp) ht)
        (List.Sublist.map _ List.filter_sublist) ?_ ?_
      · intro e he
        exact h.live_reserved e (List.mem_filter.mp he).left
      · intro t session' ht
        rcases progress_update ht with ⟨_, hp⟩ | ⟨hne, hold⟩
        · cases hp
        · -- The session another task is deleting is not the one removed.
          have howns := h.deleting_owns t session' hold
          have howns' := h.deleting_owns task session hprog
          rcases howns with ⟨e, he, howner, hs⟩
          refine ⟨e, List.mem_filter.mpr ⟨he, ?_⟩, howner, hs⟩
          rw [decide_eq_true_eq]
          intro heq
          apply hne
          apply h.owner_eq ⟨e, he, howner, rfl⟩ howns'
          rw [heq]
  | forwarded _ =>
      exact h.of_fewer rfl (Finset.Subset.refl _) (fun _ _ ht => ht)
        (List.Sublist.refl _) h.live_reserved h.deleting_owns

/-!
## Every move keeps the tables in step with the sessions
-/

/-- An uplink slot holds the TEID of the live session with that slot, and is
empty when there is none. -/
def UplinkExact (s : Shared) : Prop :=
  forall i rule,
    s.processor.uplinkForwardingTable.lookup i = some rule <->
      exists e, e ∈ s.live ∧ e.session.slot = i ∧
        rule.localTeid = e.session.uplinkGtpTeid

/-- A downlink slot holds a rule only for the live session with that slot, with
the tunnel last committed for it. -/
def DownlinkSound (s : Shared) : Prop :=
  forall i rule,
    s.processor.downlinkForwardingTable.lookup i = some rule ->
      exists e, e ∈ s.live ∧ e.session.slot = i ∧
        rule.ueIpAddr = e.session.ueIpAddr ∧
        e.committed = some rule.remoteTunnelInfo

/-- Half-way through a deletion the downlink slot is empty already. -/
def DeletingClear (s : Shared) : Prop :=
  forall task session, s.progress task = Progress.deleting session ->
    s.processor.downlinkForwardingTable.lookup session.slot = none

theorem uplinkExact_iff_mirrors {s : Shared} :
    s.UplinkExact <->
      SlotTable.Mirrors (fun e : LiveSession => e.session.slot)
        (fun e => UplinkForwardingRule.mk e.session.uplinkGtpTeid)
        s.processor.uplinkForwardingTable s.live := by
  have hrule : forall (rule : UplinkForwardingRule) (teid : Vector UInt8 4),
      rule.localTeid = teid <-> UplinkForwardingRule.mk teid = rule := by
    intro rule teid
    cases rule
    rw [UplinkForwardingRule.mk.injEq]
    exact eq_comm
  simp only [UplinkExact, SlotTable.Mirrors, hrule]

theorem uplinkExact_effect {subnet : Ipv4Addr} {s s' : Shared} {m : Move}
    (hown : s.Owned subnet) (h : s.UplinkExact) (heffect : Effect s m s') :
    s'.UplinkExact := by
  cases heffect with
  | indexTaken _ _ _ => exact h
  | indexRefused _ _ => exact h
  | downlinkRemoved _ _ => exact h
  | forwarded _ => exact h
  | @uplinkInstalled task rnd idx hprog =>
      rw [uplinkExact_iff_mirrors] at h ⊢
      exact h.concat (b := ⟨task, sessionFor s.processor.ueSubnet rnd idx, none⟩)
        (hown.reserving_range task idx hprog).right
        (hown.reserving_fresh task idx hprog)
  | @committed task session tunnel _ _ =>
      rw [uplinkExact_iff_mirrors] at h ⊢
      exact h.congr (recordCommit_map (fun session =>
        (session.slot, UplinkForwardingRule.mk session.uplinkGtpTeid)) _ _ _)
  | @uplinkRemoved task session hprog =>
      have howns := hown.deleting_owns task session hprog
      rw [uplinkExact_iff_mirrors] at h ⊢
      apply h.filter (hown.reserved_of_owns howns).slot_lt
      intro e he
      rw [decide_eq_true_eq]
      constructor
      · exact slot_ne_of_session_ne hown howns he
      · exact fun hslot heq => hslot (congrArg UserplaneSession.slot heq)

theorem downlinkSound_effect {subnet : Ipv4Addr} {s s' : Shared} {m : Move}
    (hown : s.Owned subnet) (hclear : s.DeletingClear) (h : s.DownlinkSound)
    (heffect : Effect s m s') : s'.DownlinkSound := by
  cases heffect with
  | indexTaken _ _ _ => exact h
  | indexRefused _ _ => exact h
  | uplinkInstalled _ =>
      intro i rule hrule
      rcases h i rule hrule with ⟨e, he, hrest⟩
      exact ⟨e, List.mem_append_left _ he, hrest⟩
  | @committed task session tunnel _ howns =>
      have hlt := (hown.reserved_of_owns howns).slot_lt
      intro i rule hrule
      change (s.processor.downlinkForwardingTable.set _ _).lookup i = _ at hrule
      rw [SlotTable.lookup_set _ _ hlt] at hrule
      by_cases hi : i = session.slot
      · rw [if_pos hi] at hrule
        cases hrule
        rcases howns with ⟨e, he, _, hsession⟩
        refine ⟨_, List.mem_map_of_mem he, ?_⟩
        rw [if_pos hsession]
        exact ⟨by rw [hsession, hi], by rw [hsession], rfl⟩
      · rw [if_neg hi] at hrule
        rcases h i rule hrule with ⟨e, he, hslot, hrest⟩
        refine ⟨_, List.mem_map_of_mem he, ?_⟩
        have hne : e.session ≠ session := by
          intro heq
          rw [heq] at hslot
          exact hi hslot.symm
        rw [if_neg hne]
        exact ⟨hslot, hrest⟩
  | @downlinkRemoved task session _ howns =>
      have hlt := (hown.reserved_of_owns howns).slot_lt
      intro i rule hrule
      change (s.processor.downlinkForwardingTable.set _ _).lookup i = _ at hrule
      rw [SlotTable.lookup_set _ _ hlt] at hrule
      by_cases hi : i = session.slot
      · rw [if_pos hi] at hrule
        cases hrule
      · rw [if_neg hi] at hrule
        exact h i rule hrule
  | @uplinkRemoved task session hprog =>
      intro i rule hrule
      rcases h i rule hrule with ⟨e, he, hslot, hrest⟩
      refine ⟨e, List.mem_filter.mpr ⟨he, ?_⟩, hslot, hrest⟩
      rw [decide_eq_true_eq]
      intro heq
      -- A rule of the removed session would sit in a slot already cleared.
      have hnone := hclear task session hprog
      rw [← heq, hslot] at hnone
      change s.processor.downlinkForwardingTable.lookup i = _ at hrule
      rw [hnone] at hrule
      cases hrule
  | @forwarded slot old hold =>
      intro i rule hrule
      by_cases hi : i = slot
      · rcases h slot old hold with ⟨e, he, hslot, haddr, htunnel⟩
        have hlt := (hown.live_reserved e he).slot_lt
        rw [hslot] at hlt
        change (s.processor.downlinkForwardingTable.set _ _).lookup i = _
          at hrule
        rw [SlotTable.lookup_set _ _ hlt, if_pos hi] at hrule
        cases hrule
        exact ⟨e, he, hslot.trans hi.symm, haddr, htunnel⟩
      · change (s.processor.downlinkForwardingTable.set _ _).lookup i = _
          at hrule
        rw [SlotTable.lookup_set_ne _ _ hi] at hrule
        exact h i rule hrule

theorem deletingClear_effect {subnet : Ipv4Addr} {s s' : Shared} {m : Move}
    (hown : s.Owned subnet) (h : s.DeletingClear) (heffect : Effect s m s') :
    s'.DeletingClear := by
  cases heffect with
  | indexTaken _ _ _ =>
      intro t session ht
      exact h t session (progress_of_update (by simp) ht)
  | indexRefused _ _ => exact h
  | uplinkInstalled _ =>
      intro t session ht
      exact h t session (progress_of_update (by simp) ht)
  | @committed task session tunnel hidle howns =>
      intro t session' ht
      change s.progress t = _ at ht
      change (s.processor.downlinkForwardingTable.set _ _).lookup _ = _
      rw [SlotTable.lookup_set_ne]
      · exact h t session' ht
      · -- The deleting task is another one, so its session has another slot.
        intro hslot
        rw [hown.owner_eq (hown.deleting_owns t session' ht) howns hslot,
          hidle] at ht
        cases ht
  | @downlinkRemoved task session _ howns =>
      have hlt := (hown.reserved_of_owns howns).slot_lt
      intro t session' ht
      change (s.processor.downlinkForwardingTable.set _ _).lookup _ = _
      rw [SlotTable.lookup_set _ _ hlt]
      rcases progress_update ht with ⟨_, hp⟩ | ⟨_, hold⟩
      · cases hp
        exact if_pos rfl
      · rw [h t session' hold, ite_self]
  | uplinkRemoved _ =>
      intro t session ht
      exact h t session (progress_of_update (by simp) ht)
  | @forwarded slot rule hrule =>
      intro t session ht
      have hnone := h t session ht
      change (s.processor.downlinkForwardingTable.set _ _).lookup _ = _
      rw [SlotTable.lookup_set_ne]
      · exact hnone
      · intro heq
        rw [heq, hrule] at hnone
        cases hnone

/-!
## Every interleaving
-/

structure Consistent (subnet : Ipv4Addr) (s : Shared) : Prop where
  owned : s.Owned subnet
  uplinkExact : s.UplinkExact
  downlinkSound : s.DownlinkSound
  deletingClear : s.DeletingClear

theorem consistent_start (subnet : Ipv4Addr) :
    (start subnet).Consistent subnet where
  owned := owned_start subnet
  uplinkExact := uplinkExact_iff_mirrors.mpr SlotTable.mirrors_empty
  downlinkSound := by simp [DownlinkSound, start, PacketProcessor.new]
  deletingClear := by simp [DeletingClear, start]

theorem consistent_step {subnet : Ipv4Addr} {s s' : Shared} {m : Move}
    (h : s.Consistent subnet) (hstep : sessionMachine.step s m = some s') :
    s'.Consistent subnet := by
  have heffect := step_effect h.owned hstep
  exact
    { owned := owned_effect h.owned heffect
      uplinkExact := uplinkExact_effect h.owned h.uplinkExact heffect
      downlinkSound :=
        downlinkSound_effect h.owned h.deletingClear h.downlinkSound heffect
      deletingClear := deletingClear_effect h.owned h.deletingClear heffect }

theorem consistent_run {subnet : Ipv4Addr} {s : Shared} {ms : List Move}
    (hrun : sessionMachine.run (start subnet) ms = some s) :
    s.Consistent subnet :=
  Machine.run_invariant (fun _ _ _ h hstep => consistent_step h hstep)
    (consistent_start subnet) hrun

def moveSlot (s : Shared) : Move -> Option Nat
  | Move.takeIndex _ _ => none
  | Move.installUplink task _ =>
      match s.progress task with
      | Progress.reserving idx => some idx.toNat
      | _ => none
  | Move.commit _ session _ => some session.slot
  | Move.removeDownlink _ session => some session.slot
  | Move.removeUplink task =>
      match s.progress task with
      | Progress.deleting session => some session.slot
      | _ => none
  | Move.forward slot => some slot

def SameSlot (s s' : Shared) (i : Nat) : Prop :=
  s'.processor.uplinkForwardingTable.lookup i =
      s.processor.uplinkForwardingTable.lookup i ∧
    s'.processor.downlinkForwardingTable.lookup i =
      s.processor.downlinkForwardingTable.lookup i

theorem sameSlot_effect {s s' : Shared} {m : Move} (heffect : Effect s m s')
    {i : Nat} (hi : s.moveSlot m ≠ some i) : SameSlot s s' i := by
  cases heffect with
  | indexTaken _ _ _ => exact ⟨rfl, rfl⟩
  | indexRefused _ _ => exact ⟨rfl, rfl⟩
  | uplinkInstalled hprog =>
      simp only [moveSlot, hprog, ne_eq, Option.some.injEq] at hi
      exact ⟨SlotTable.lookup_set_ne _ _ (Ne.symm hi), rfl⟩
  | committed _ _ =>
      simp only [moveSlot, ne_eq, Option.some.injEq] at hi
      exact ⟨rfl, SlotTable.lookup_set_ne _ _ (Ne.symm hi)⟩
  | downlinkRemoved _ _ =>
      simp only [moveSlot, ne_eq, Option.some.injEq] at hi
      exact ⟨rfl, SlotTable.lookup_set_ne _ _ (Ne.symm hi)⟩
  | uplinkRemoved hprog =>
      simp only [moveSlot, hprog, ne_eq, Option.some.injEq] at hi
      exact ⟨SlotTable.lookup_set_ne _ _ (Ne.symm hi), rfl⟩
  | forwarded _ =>
      simp only [moveSlot, ne_eq, Option.some.injEq] at hi
      exact ⟨rfl, SlotTable.lookup_set_ne _ _ (Ne.symm hi)⟩

def HasHost (session : UserplaneSession) (i : Nat) : Prop :=
  exists addr, session.ueIpAddr = IpAddr.v4 addr ∧ downlinkTableIndexFromIp addr = i

/-- The tables of the processor say exactly which sessions are live. -/
structure TablesMatchSessions (subnet : Ipv4Addr) (s : Shared) : Prop where
  teids_distinct : s.live.Pairwise fun a b =>
    a.session.uplinkGtpTeid ≠ b.session.uplinkGtpTeid
  addresses_distinct : s.live.Pairwise fun a b =>
    a.session.ueIpAddr ≠ b.session.ueIpAddr
  in_subnet : forall e, e ∈ s.live ->
    exists addr, e.session.ueIpAddr = IpAddr.v4 addr ∧
      (forall k (hk : k < 3), addr.octets[k] = subnet.octets[k]) ∧
      1 <= downlinkTableIndexFromIp addr ∧ downlinkTableIndexFromIp addr <= 253
  uplink : forall i rule,
    s.processor.uplinkForwardingTable.lookup i = some rule <->
      exists e, e ∈ s.live ∧ HasHost e.session i ∧
        rule.localTeid = e.session.uplinkGtpTeid ∧
        uplinkTableIndexFromGtpTeid rule.localTeid = i
  downlink : forall i rule,
    s.processor.downlinkForwardingTable.lookup i = some rule ->
      exists e, e ∈ s.live ∧ HasHost e.session i ∧
        rule.ueIpAddr = e.session.ueIpAddr ∧
        e.committed = some rule.remoteTunnelInfo

theorem hasHost_iff {subnet : Ipv4Addr} {session : UserplaneSession}
    (h : session.Reserved subnet) (i : Nat) :
    HasHost session i <-> session.slot = i := by
  rcases h.address with ⟨addr, haddr, hslot, _⟩
  unfold HasHost
  constructor
  · intro hex
    rcases hex with ⟨addr', haddr', hoctet⟩
    rw [haddr] at haddr'
    cases haddr'
    exact hslot.symm.trans hoctet
  · intro heq
    exact ⟨addr, haddr, hslot.trans heq⟩

theorem Owned.pairwise_slots {subnet : Ipv4Addr} {s : Shared}
    (h : s.Owned subnet) :
    s.live.Pairwise fun a b => a.session.slot ≠ b.session.slot :=
  List.pairwise_map.mp h.live_distinct

theorem Consistent.tablesMatch {subnet : Ipv4Addr} {s : Shared}
    (h : s.Consistent subnet) : s.TablesMatchSessions subnet := by
  have hhost : forall e, e ∈ s.live -> forall i,
      HasHost e.session i <-> e.session.slot = i := by
    intro e he
    exact hasHost_iff (h.owned.live_reserved e he)
  refine ⟨?_, ?_, ?_, ?_, ?_⟩
  · apply h.owned.pairwise_slots.imp
    intro a b hne heq
    exact hne (congrArg uplinkTableIndexFromGtpTeid heq)
  · apply h.owned.pairwise_slots.imp_of_mem
    intro a b ha hb hne heq
    rcases (hhost a ha _).mpr rfl with ⟨addr, haddr, hoctet⟩
    rw [heq] at haddr
    exact hne ((hhost b hb _).mp ⟨addr, haddr, hoctet⟩).symm
  · intro e he
    have hres := h.owned.live_reserved e he
    rcases hres.address with ⟨addr, haddr, hslot, hsubnet⟩
    have hpos := hres.slot_pos
    have hlt := hres.slot_lt
    rw [← hslot] at hpos hlt
    exact ⟨addr, haddr, hsubnet, hpos, Nat.le_of_lt_succ hlt⟩
  · intro i rule
    rw [h.uplinkExact i rule]
    constructor
    · intro hex
      rcases hex with ⟨e, he, hslot, hteid⟩
      refine ⟨e, he, (hhost e he i).mpr hslot, hteid, ?_⟩
      rw [hteid]
      exact hslot
    · intro hex
      rcases hex with ⟨e, he, hhas, hteid, _⟩
      exact ⟨e, he, (hhost e he i).mp hhas, hteid⟩
  · intro i rule hrule
    rcases h.downlinkSound i rule hrule with ⟨e, he, hslot, hrest⟩
    exact ⟨e, he, (hhost e he i).mpr hslot, hrest⟩

/-- In every state that interleaved session operations reach, the tables match
the live sessions, and the next lock section changes only its own slot. -/
theorem tables_match_sessions {subnet : Ipv4Addr} {ms : List Move} {s : Shared}
    (hrun : sessionMachine.run (start subnet) ms = some s) :
    s.TablesMatchSessions subnet ∧
      forall m s', sessionMachine.step s m = some s' ->
        forall i, s.moveSlot m ≠ some i -> SameSlot s s' i := by
  have h := consistent_run hrun
  refine ⟨h.tablesMatch, ?_⟩
  intro m s' hstep i hi
  exact sameSlot_effect (step_effect h.owned hstep) hi

def smallSubnet : Ipv4Addr :=
  ⟨#v[10, 255, 0, 0]⟩

def smallTunnel : GtpTunnel :=
  ⟨TransportLayerAddress.fromIpAddr (IpAddr.v4 ⟨#v[10, 0, 0, 9]⟩),
    #v[0, 0, 0, 5]⟩

/-- Two tasks whose reservations overlap; the first one commits, and the second
one is half-way through a deletion. -/
def overlappingMoves : List Move :=
  [Move.takeIndex 0 1, Move.takeIndex 7 2, Move.installUplink 7 #v[9, 9, 9],
    Move.installUplink 0 #v[9, 9, 9],
    Move.commit 0 (sessionFor smallSubnet #v[9, 9, 9] 1) smallTunnel,
    Move.removeDownlink 7 (sessionFor smallSubnet #v[9, 9, 9] 2),
    Move.forward 1]

theorem tables_match_overlapping :
    exists s,
      sessionMachine.run (start smallSubnet) overlappingMoves = some s ∧
        s.TablesMatchSessions smallSubnet := by
  have hsome : (sessionMachine.run (start smallSubnet)
      overlappingMoves).isSome := by
    decide +kernel
  rcases Option.isSome_iff_exists.mp hsome with ⟨s, hs⟩
  exact ⟨s, hs, (tables_match_sessions hs).left⟩

end Shared

end Userplane
end QCore
