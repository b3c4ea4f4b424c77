import QCore.Userplane.PacketProcessor

/-!
# Are session slots recycled?

A history of session operations, one after another, from a fresh packet
processor.  The index pool never gets a number back, so what decides whether
the next reservation finds a slot is how many reservations were ever made, not
how many sessions are live.
-/

namespace QCore
namespace Userplane

open Foundation
open PacketProcessor

/-!
## Histories of session operations
-/

/-- One call on the packet processor.  A session is named by its place among
the sessions returned so far. -/
inductive SessionOp where
  | reserve (rnd : Vector UInt8 3)
  | commit (k : Nat) (remoteTunnelInfo : GtpTunnel)
  | delete (k : Nat)
deriving DecidableEq, Repr

def SessionOp.reservations : SessionOp -> Nat
  | SessionOp.reserve _ => 1
  | SessionOp.commit _ _ => 0
  | SessionOp.delete _ => 0

structure TrackedSession where
  session : UserplaneSession
  deleted : Bool
deriving DecidableEq, Repr

structure SessionHistory where
  processor : PacketProcessor
  sessions : List TrackedSession
deriving DecidableEq

namespace SessionHistory

def start (ueSubnet : Ipv4Addr) : SessionHistory :=
  ⟨PacketProcessor.new ueSubnet, []⟩

def apply (h : SessionHistory) : SessionOp -> SessionHistory
  | SessionOp.reserve rnd =>
      match reserveUserplaneSession rnd h.processor with
      | (Outcome.ok session, p) => ⟨p, h.sessions ++ [⟨session, false⟩]⟩
      | (_, p) => { h with processor := p }
  | SessionOp.commit k tunnel =>
      match h.sessions[k]? with
      | none => h
      | some t =>
          { h with
            processor := (commitUserplaneSession t.session tunnel h.processor).2 }
  | SessionOp.delete k =>
      match h.sessions[k]? with
      | none => h
      | some t =>
          { processor := (deleteUserplaneSession t.session h.processor).2
            sessions := h.sessions.set k { t with deleted := true } }

def runOps (h : SessionHistory) (ops : List SessionOp) : SessionHistory :=
  ops.foldl apply h

def liveCount (h : SessionHistory) : Nat :=
  h.sessions.countP (fun t => !t.deleted)

/-- With fewer than 253 live sessions, the next reservation succeeds. -/
def Recycles (h : SessionHistory) : Prop :=
  h.liveCount < 253 -> forall rnd, exists session p,
    reserveUserplaneSession rnd h.processor = (Outcome.ok session, p)

def NothingDeleted (h : SessionHistory) : Prop :=
  forall t, t ∈ h.sessions -> t.deleted = false

end SessionHistory

def reserveCount : List SessionOp -> Nat
  | [] => 0
  | op :: rest => op.reservations + reserveCount rest

/-!
## The pool only grows
-/

theorem commit_keeps_indexPool (session : UserplaneSession)
    (tunnel : GtpTunnel) (pool : IndexPool) :
    Cmd.Keeps (fun p => p.indexPool = pool)
      (commitUserplaneSession session tunnel) := by
  unfold commitUserplaneSession
  cases session.ueIpAddr with
  | v6 octets => exact Cmd.keeps_bail _
  | v4 addr =>
      apply Cmd.keeps_bind Cmd.keeps_get
      intro p
      apply Cmd.keeps_bind (Cmd.keeps_lift _)
      intro table
      exact Cmd.keeps_modify (fun _ h => h)

theorem removeDownlink_keeps_indexPool (session : UserplaneSession)
    (pool : IndexPool) :
    Cmd.Keeps (fun p => p.indexPool = pool) (removeDownlink session) := by
  unfold removeDownlink
  cases session.ueIpAddr with
  | v6 octets => exact Cmd.keeps_pure _
  | v4 addr =>
      apply Cmd.keeps_bind Cmd.keeps_get
      intro p
      apply Cmd.keeps_bind (Cmd.keeps_lift _)
      intro table
      exact Cmd.keeps_modify (fun _ h => h)

theorem removeUplink_keeps_indexPool (session : UserplaneSession)
    (pool : IndexPool) :
    Cmd.Keeps (fun p => p.indexPool = pool) (removeUplink session) := by
  apply Cmd.keeps_bind Cmd.keeps_get
  intro p
  apply Cmd.keeps_bind (Cmd.keeps_lift _)
  intro table
  exact Cmd.keeps_modify (fun _ h => h)

theorem delete_keeps_indexPool (session : UserplaneSession)
    (pool : IndexPool) :
    Cmd.Keeps (fun p => p.indexPool = pool)
      (deleteUserplaneSession session) :=
  Cmd.keeps_bind (removeDownlink_keeps_indexPool session pool)
    (fun _ => removeUplink_keeps_indexPool session pool)

theorem reserve_of_range {p : PacketProcessor} {n : Nat}
    (hpool : p.indexPool.inUse = Finset.range n) (rnd : Vector UInt8 3) :
    (reserveUserplaneSession rnd p).2.indexPool.inUse = Finset.range (n + 1) ∧
      (n < maxUes -> exists session p',
        reserveUserplaneSession rnd p = (Outcome.ok session, p')) ∧
      (¬ n < maxUes -> exists p',
        reserveUserplaneSession rnd p =
          (Outcome.err UserplaneError.noMoreSlotsAvailable, p')) := by
  have hrun : reserveUserplaneSession rnd p =
      (takeIndex n >>= installUplink rnd) p := by
    rw [← IndexPool.leastFree_range hpool]
    rfl
  have hinUse : (p.withIndex n).indexPool.inUse = Finset.range (n + 1) := by
    rw [Finset.range_add_one, ← hpool]
    rfl
  by_cases hn : n < maxUes
  · have hbyte : (UInt8.ofNat n).toNat = n := by
      unfold maxUes at hn
      simp
      lia
    have hlt : (UInt8.ofNat n).toNat < maxUes := by
      rw [hbyte]
      exact hn
    rw [hrun, Cmd.bind_run, takeIndex_of_lt p hn]
    simp only [installUplink_of_lt (p.withIndex n) rnd hlt]
    exact ⟨hinUse, fun _ => ⟨_, _, rfl⟩, fun h => absurd hn h⟩
  · rw [hrun, Cmd.bind_run, takeIndex_of_not_lt p hn]
    exact ⟨hinUse, fun h => absurd h hn, fun _ => ⟨_, rfl⟩⟩

/-!
## Counting over a history

After `n` reservations the pool has handed out `1, …, n`, and the first 253 of
them have returned a session.
-/

namespace SessionHistory

structure Counts (n : Nat) (h : SessionHistory) : Prop where
  inUse : h.processor.indexPool.inUse = Finset.range (n + 1)
  returned : h.sessions.length = min n 253

theorem counts_start (ueSubnet : Ipv4Addr) : Counts 0 (start ueSubnet) where
  inUse := rfl
  returned := rfl

theorem counts_reserve {n : Nat} {h : SessionHistory} (hc : Counts n h)
    (rnd : Vector UInt8 3) :
    Counts (n + 1) (h.apply (SessionOp.reserve rnd)) := by
  rcases reserve_of_range hc.inUse rnd with ⟨hinUse, hok, herr⟩
  have hlength := hc.returned
  by_cases hn : n + 1 < maxUes
  · rcases hok hn with ⟨session, p', hrun⟩
    unfold maxUes at hn
    rw [hrun] at hinUse
    constructor
    · simpa [apply, hrun] using hinUse
    · simp only [apply, hrun, List.length_append, List.length_singleton]
      lia
  · rcases herr hn with ⟨p', hrun⟩
    unfold maxUes at hn
    rw [hrun] at hinUse
    constructor
    · simpa [apply, hrun] using hinUse
    · simp only [apply, hrun]
      lia

theorem counts_commit {n : Nat} {h : SessionHistory} (hc : Counts n h)
    (k : Nat) (tunnel : GtpTunnel) :
    Counts n (h.apply (SessionOp.commit k tunnel)) := by
  cases hk : h.sessions[k]? with
  | none => simpa [apply, hk] using hc
  | some t =>
      have hpool :=
        (commit_keeps_indexPool t.session tunnel h.processor.indexPool).after
          (s := h.processor) rfl
      constructor
      · simpa [apply, hk, hpool] using hc.inUse
      · simpa [apply, hk] using hc.returned

theorem counts_delete {n : Nat} {h : SessionHistory} (hc : Counts n h)
    (k : Nat) : Counts n (h.apply (SessionOp.delete k)) := by
  cases hk : h.sessions[k]? with
  | none => simpa [apply, hk] using hc
  | some t =>
      have hpool :=
        (delete_keeps_indexPool t.session h.processor.indexPool).after
          (s := h.processor) rfl
      constructor
      · simpa [apply, hk, hpool] using hc.inUse
      · simpa [apply, hk] using hc.returned

theorem counts_apply {n : Nat} {h : SessionHistory} (hc : Counts n h)
    (op : SessionOp) : Counts (n + op.reservations) (h.apply op) := by
  cases op with
  | reserve rnd => exact counts_reserve hc rnd
  | commit k tunnel => exact counts_commit hc k tunnel
  | delete k => exact counts_delete hc k

theorem counts_runOps {n : Nat} {h : SessionHistory} (hc : Counts n h)
    (ops : List SessionOp) : Counts (n + reserveCount ops) (h.runOps ops) := by
  induction ops generalizing n h with
  | nil => exact hc
  | cons op rest ih =>
      have hrest := ih (counts_apply hc op)
      rw [Nat.add_assoc] at hrest
      simpa [reserveCount, runOps] using hrest

theorem reserve_ok_iff {n : Nat} {h : SessionHistory} (hc : Counts n h)
    (rnd : Vector UInt8 3) :
    (exists session p,
      reserveUserplaneSession rnd h.processor = (Outcome.ok session, p)) <->
      n < 253 := by
  rcases reserve_of_range hc.inUse rnd with ⟨_, hok, herr⟩
  unfold maxUes at hok herr
  constructor
  · intro hres
    rcases hres with ⟨session, p, hrun⟩
    by_cases hn : n + 1 < 254
    · lia
    · rcases herr hn with ⟨p', hrun'⟩
      rw [hrun] at hrun'
      cases hrun'
  · intro hn
    exact hok (by lia)

theorem liveCount_eq_length_iff (h : SessionHistory) :
    h.liveCount = h.sessions.length <-> h.NothingDeleted := by
  simp [liveCount, NothingDeleted, List.countP_eq_length]

/-- Slots are not recycled: with fewer than 253 live sessions the next
reservation succeeds exactly when fewer than 253 reservations were ever made,
or no session was deleted so that the premise cannot hold. -/
theorem recycles_iff (ueSubnet : Ipv4Addr) (ops : List SessionOp) :
    ((start ueSubnet).runOps ops).Recycles <->
      reserveCount ops < 253 ∨ ((start ueSubnet).runOps ops).NothingDeleted := by
  have hc := counts_runOps (counts_start ueSubnet) ops
  rw [Nat.zero_add] at hc
  have hlength := hc.returned
  have hle : liveCount ((start ueSubnet).runOps ops) <=
      ((start ueSubnet).runOps ops).sessions.length := List.countP_le_length
  unfold Recycles
  rw [← liveCount_eq_length_iff]
  constructor
  · intro hrec
    by_cases hlive : liveCount ((start ueSubnet).runOps ops) < 253
    · left
      exact (reserve_ok_iff hc (Vector.replicate 3 0)).mp
        (hrec hlive (Vector.replicate 3 0))
    · right
      lia
  · intro hcond hlive rnd
    apply (reserve_ok_iff hc rnd).mpr
    cases hcond with
    | inl hfew => exact hfew
    | inr hall => lia

theorem reserveCount_append (before rest : List SessionOp) :
    reserveCount (before ++ rest) =
      reserveCount before + reserveCount rest := by
  induction before with
  | nil => simp [reserveCount]
  | cons op before ih => simp [reserveCount, ih, Nat.add_assoc]

theorem reserveCount_reserves (n : Nat) (rnd : Vector UInt8 3) :
    reserveCount (List.replicate n (SessionOp.reserve rnd)) = n := by
  induction n with
  | zero => rfl
  | succ n ih =>
      rw [List.replicate_succ, reserveCount, ih]
      exact Nat.add_comm 1 n

theorem delete_first_deleted {h : SessionHistory}
    (hne : 0 < h.sessions.length) :
    ¬ (h.apply (SessionOp.delete 0)).NothingDeleted := by
  intro hall
  cases hsessions : h.sessions with
  | nil =>
      rw [hsessions] at hne
      cases hne
  | cons t rest =>
      have hdeleted := hall { t with deleted := true }
        (by simp [apply, hsessions])
      cases hdeleted

/-- 253 reservations and one deletion: 252 sessions are live, and the next
reservation fails. -/
theorem not_recycles_after_delete :
    ¬ ((start ⟨#v[10, 255, 0, 0]⟩).runOps
        (List.replicate 253 (SessionOp.reserve #v[0, 0, 0]) ++
          [SessionOp.delete 0])).Recycles := by
  have hcount := reserveCount_reserves 253 #v[0, 0, 0]
  have hc := counts_runOps (counts_start ⟨#v[10, 255, 0, 0]⟩)
    (List.replicate 253 (SessionOp.reserve #v[0, 0, 0]))
  rw [hcount] at hc
  intro hrec
  cases (recycles_iff _ _).mp hrec with
  | inl hfew =>
      rw [reserveCount_append, hcount] at hfew
      exact absurd hfew (Nat.not_lt.mpr (Nat.le_add_right 253 _))
  | inr hall =>
      rw [runOps, List.foldl_append] at hall
      apply delete_first_deleted _ hall
      change 0 < (runOps _ _).sessions.length
      rw [hc.returned]
      decide

end SessionHistory
end Userplane
end QCore
